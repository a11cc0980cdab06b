/-
  Running a program over a text: the leftmost match, and of the matches that start there the one
  its alternatives prefer.

  1. **Threads** — a `Thread` waits at a `take` instruction for a character; it remembers where its
     match began.  The threads of one place are listed in order of preference.

  2. **Following** — `follow` walks from a list of instructions through forks and checks to the
     threads that wait behind them, in order.  An instruction already met is not walked again: what
     lies behind it has been listed with higher preference.  An `accept` ends the walk, for nothing
     that comes later is preferred to the match it stands for.

  3. **The search** — `search` moves all threads over the text together, one character at a time.
     As long as no match is known, every place starts one more thread, preferred to none of the
     older ones.  A match found by a thread gives way to one that a thread of higher preference
     finds later on.  The time is proportional to the length of the text times the program's size.

  `Program.prefer` is the same machine without new threads: the match that starts at a place.
-/
import Highlight.Pattern.Program
import Highlight.Text

namespace Highlight

/-- A set of instructions: for each of a program's instructions, whether it belongs to the set. -/
abbrev Seen := Array Bool

namespace Seen

/-- No instruction of `n`. -/
def none (n : Nat) : Seen := Array.replicate n false

def has (s : Seen) (i : Nat) : Bool := s.getD i false

def add (s : Seen) (i : Nat) : Seen := s.setIfInBounds i true

end Seen

/-- A match in the making: the characters it waits for, where it goes on, where it began. -/
structure Thread where
  set : CharSet
  next : Nat
  start : Nat
  deriving Repr, Inhabited

/-- The threads behind some instructions, and the beginning of the match that ends here. -/
structure Front where
  threads : List Thread
  accepted : Option Nat
  deriving Repr, Inhabited

namespace Program

/-- Walk from the instructions of `todo`, each with the beginning of its match, between the
    characters `prev` and `next`.  `threads` holds the threads found so far, the last one first.
    Every step meets an instruction for the first time or drops an entry of `todo`, so `fuel` need
    not exceed the length of `todo` plus two for each instruction. -/
def follow (p : Program) (prev next : Option Char) :
    (fuel : Nat) → (todo : List (Nat × Nat)) → (seen : Seen) → (threads : List Thread) → Front
  | 0, _, _, threads => ⟨threads.reverse, none⟩
  | _ + 1, [], _, threads => ⟨threads.reverse, none⟩
  | fuel + 1, (i, start) :: todo, seen, threads =>
    if seen.has i then follow p prev next fuel todo seen threads
    else
      match p.insts[i]? with
      | none => follow p prev next fuel todo (seen.add i) threads
      | some .accept => ⟨threads.reverse, some start⟩
      | some (.take set n) =>
        follow p prev next fuel todo (seen.add i) (⟨set, n, start⟩ :: threads)
      | some (.check look n) =>
        if look.holds prev next then follow p prev next fuel ((n, start) :: todo) (seen.add i) threads
        else follow p prev next fuel todo (seen.add i) threads
      | some (.fork a b) =>
        follow p prev next fuel ((a, start) :: (b, start) :: todo) (seen.add i) threads

/-- The front behind a list of instructions. -/
def front (p : Program) (prev next : Option Char) (todo : List (Nat × Nat)) : Front :=
  follow p prev next (todo.length + 2 * p.insts.size + 1) todo (.none p.insts.size) []

/-- The instructions that threads go on with after a character. -/
def advance (c : Char) (threads : List Thread) : List (Nat × Nat) :=
  threads.filterMap fun t => if t.set.contains c then some (t.next, t.start) else none

/-- What a place makes of the threads that reach it: the threads waiting there, among them a new
    one if `restart` asks for it and no match is known, and the best match so far. -/
def meet (p : Program) (restart : Bool) (prev next : Option Char) (off : Nat)
    (todo : List (Nat × Nat)) (best : Option (Nat × Nat)) : List Thread × Option (Nat × Nat) :=
  let f := p.front prev next (if restart && best.isNone then todo ++ [(p.start, off)] else todo)
  (f.threads, match f.accepted with
    | some start => some (start, off)
    | none => best)

/-- Search on from a place.  `todo` lists the instructions that older threads go on with, and
    `best` is the match found so far; `restart` tells whether places may start new threads. -/
def run (p : Program) (restart : Bool) (prev : Option Char) (off : Nat) (todo : List (Nat × Nat))
    (best : Option (Nat × Nat)) : Text → Option (Nat × Nat)
  | [] => (p.meet restart prev none off todo best).2
  | c :: cs =>
    let (threads, best) := p.meet restart prev (some c) off todo best
    let todo := advance c threads
    if todo.isEmpty && (best.isSome || !restart) then best
    else run p restart (some c) (off + c.utf8Size) todo best cs

/-- The leftmost match at or after a place, as the offsets of its ends. -/
def search (p : Program) (place : Text.Place) : Option (Nat × Nat) :=
  p.run true place.prev place.offset [] none place.rest

/-- The preferred match that starts at a place, as the offset of its end. -/
def prefer (p : Program) (place : Text.Place) : Option Nat :=
  (p.run false place.prev place.offset [(p.start, place.offset)] none place.rest).map (·.2)

end Program

end Highlight
