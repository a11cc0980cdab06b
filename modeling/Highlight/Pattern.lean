/-
  Compiled patterns and what they find in a text.

  1. **Compiling** — `Pattern.compile` reads a pattern and refuses one that is malformed, nested too
     deeply, or too large.  `Pattern.escape` writes a text so that it is read as itself.

  2. **Finding** — `findAt` gives the leftmost match that starts at an offset or later; what stands
     before the offset is seen by assertions.  `findAll` lists the matches from left to right, each
     after the one before; a match of nothing directly behind a match is passed over.
-/
import Highlight.Pattern.Parser
import Highlight.Pattern.Search
import Highlight.Pattern.Size

namespace Highlight

/-- A pattern: the text it was read from and its program. -/
structure Pattern where
  source : String
  program : Program
  deriving DecidableEq, Repr, Inhabited

namespace Pattern

/-- Compile the text of a pattern. -/
def compile (source : String) : Except PatternError Pattern :=
  match Notation.parse source.toList with
  | .error e => .error e
  | .ok r => if r.fits then .ok ⟨source, r.program⟩ else .error .tooLarge

/-- Write a text as a pattern that matches just this text. -/
def escape (s : String) : String :=
  String.ofList (s.toList.flatMap fun c => if Notation.isMeta c then ['\\', c] else [c])

/-- The leftmost match that starts at offset `pos` or later, as the offsets of its ends. -/
def findAt (p : Pattern) (text : Text) (pos : Nat) : Option (Nat × Nat) :=
  (Text.Place.seek? text pos).bind p.program.search

/-- The matches from offset `pos` on; `last` is the end of the match before.  Every match ends
    beyond the one before or leads the search on by a character, so `fuel` need not exceed twice
    the number of places. -/
def findAllFrom (p : Pattern) (text : Text) : (fuel : Nat) → (pos : Nat) → (last : Option Nat) →
    List (Nat × Nat)
  | 0, _, _ => []
  | fuel + 1, pos, last =>
    match p.findAt text pos with
    | none => []
    | some (start, stop) =>
      if start = stop ∧ last = some stop then
        match p.findAt text (text.nextBoundary pos) with
        | none => []
        | some (start, stop) => (start, stop) :: findAllFrom p text fuel stop (some stop)
      else (start, stop) :: findAllFrom p text fuel stop (some stop)

/-- All matches, none overlapping another. -/
def findAll (p : Pattern) (text : Text) : List (Nat × Nat) :=
  findAllFrom p text (2 * text.length + 2) 0 none

end Pattern

end Highlight
