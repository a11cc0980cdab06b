/-
  How much memory the matching automata of an expression take.

  A pattern is refused when one of its automata would exceed `limit` bytes.  The automata work on
  bytes; one reads forwards, the other backwards.  `Regex.lay` lays an expression out state by
  state and counts:

  1. **States** — every state takes `stateBytes`.  A state with a choice of byte ranges takes
     `rangeBytes` more for each of them, a branch `edgeBytes` for each state it leads to.

  2. **Sets** — a set of ASCII characters is one state and its end.  Any other set is laid out as
     the byte sequences of its characters.  Forwards they form a tree from which equal ends are
     shared, backwards a branch of which equal ends are shared; both know the states to share only
     from a bounded `Memo`, in which a state may displace another.  Which states meet in it depends
     on their numbers, and so on all that has been laid out before.

  3. **Texts** — alternatives that are all texts share their beginnings (backwards: their ends).

  4. **Repetitions** — the body is laid out once for every round that is counted.

  Nothing is ever taken away, so counting stops once the limit is exceeded.  `fits` asks for both
  directions; only a choice between very many texts is matched without an automaton.  `ceiling` is
  a bound for expressions that need no counting.
-/
import Highlight.Pattern.ByteRange
import Highlight.Pattern.Compose
import Std.Data.HashMap

namespace Highlight

/-! ## Layouts -/

/-- The direction in which an automaton reads. -/
inductive Direction where
  | forwards
  | backwards
  deriving DecidableEq, Repr, Inhabited

/-- What has been laid out of an automaton: its states, numbered from zero, and the bytes they take
    beside their own.  `branching` tells that the part laid out last ends in a branch: going on from
    it adds one to the states the branch leads to. -/
structure Layout where
  states : Nat
  bytes : Nat
  branching : Bool
  deriving DecidableEq, Repr, Inhabited

namespace Layout

/-- The largest automaton that is accepted. -/
def limit : Nat := 10 * 1024 * 1024

def stateBytes : Nat := 32

def rangeBytes : Nat := 8

def edgeBytes : Nat := 4

/-- The size of the automaton so far. -/
def size (l : Layout) : Nat := l.states * stateBytes + l.bytes

/-- Whether the limit is exceeded. -/
def isTooLarge (l : Layout) : Bool := limit < l.size

/-- Add states. -/
def add (l : Layout) (states : Nat) : Layout := ⟨l.states + states, l.bytes, false⟩

/-- Add to the bytes that states take beside their own. -/
def extend (l : Layout) (bytes : Nat) : Layout := { l with bytes := l.bytes + bytes }

/-- Go on from the part laid out last. -/
def proceed (l : Layout) : Layout :=
  if l.branching then ⟨l.states, l.bytes + edgeBytes, false⟩ else l

/-- Let the part laid out last end in a branch. -/
def leaveBranching (l : Layout) : Layout := { l with branching := true }

/-! ## Shared states -/

/-- The states that may be shared, each with what tells it from others, by their slots. -/
abbrev Memo := Std.HashMap Nat (List Nat × Nat)

/-- The slot of a state among `slots` of them: its numbers mixed by multiplication modulo the
    sixty-fourth power of two. -/
def slot (slots : Nat) (key : List Nat) : Nat :=
  (key.foldl (fun (h : UInt64) n => (h ^^^ n.toUInt64) * 1099511628211) 14695981039346656037).toNat
    % slots

/-- The number of the state that `key` describes: one found in its slot, or a new one that takes
    `bytes` beside its own and displaces what was in the slot. -/
def share (l : Layout) (slots bytes : Nat) (memo : Memo) (key : List Nat) : Nat × Layout × Memo :=
  let i := slot slots key
  let fresh := (l.states, (l.add 1).extend bytes, memo.insert i (key, l.states))
  match memo[i]? with
  | none => fresh
  | some (known, id) => if known = key then (id, l, memo) else fresh

/-! ## Sets of characters -/

/-- A state of the tree that is still growing: the ranges that are complete, each with the state it
    leads to, the last one first, and the range that is being continued. -/
structure Twig where
  complete : List (ByteRange × Nat)
  growing : Option ByteRange
  deriving Repr, Inhabited

namespace Twig

/-- A twig that begins with a range. -/
def ofRange (r : ByteRange) : Twig := ⟨[], some r⟩

/-- Complete the range being continued by the state it leads to. -/
def close (t : Twig) (next : Nat) : Twig :=
  match t.growing with
  | none => t
  | some r => ⟨(r, next) :: t.complete, none⟩

/-- What tells the state of a complete twig from others. -/
def key (t : Twig) : List Nat := t.complete.reverse.flatMap fun (r, next) => [r.lo, r.hi, next]

/-- How many states forward sets remember. -/
def slots : Nat := 10000

/-- Turn twigs into states, each leading to the next one and the last one to `target`; gives the
    number of the first. -/
def settle (target : Nat) (l : Layout) (memo : Memo) : List Twig → Nat × Layout × Memo
  | [] => (target, l, memo)
  | t :: ts =>
    let (next, l, memo) := settle target l memo ts
    let t := t.close next
    l.share slots (rangeBytes * t.complete.length) memo t.key

/-- Add a byte sequence to the twigs from the root on: it follows them as long as they continue the
    same ranges, and the twigs beyond that are turned into states. -/
def grow (target : Nat) (l : Layout) (memo : Memo) : List Twig → List ByteRange →
    List Twig × Layout × Memo
  | t :: ts, r :: rs =>
    if t.growing = some r then
      let (ts, l, memo) := grow target l memo ts rs
      (t :: ts, l, memo)
    else
      let (next, l, memo) := settle target l memo ts
      ({ t.close next with growing := some r } :: rs.map ofRange, l, memo)
  | ts, _ => (ts, l, memo)

end Twig

/-- Lay out byte sequences as a tree that ends in one state, laid out first. -/
def tree (l : Layout) (sequences : List (List ByteRange)) : Layout :=
  let target := l.states
  let (twigs, l, memo) := sequences.foldl
    (fun (twigs, l, memo) s => Twig.grow target l memo twigs s)
    ([⟨[], none⟩], l.add 1, (∅ : Memo))
  (Twig.settle target l memo twigs).2.1

/-- How many states backward sets remember. -/
def backwardSlots : Nat := 1000

/-- Lay out one byte sequence, from its first byte, which is read last, in front of a state. -/
def chain (l : Layout) (memo : Memo) (next : Nat) : List ByteRange → Layout × Memo
  | [] => (l, memo)
  | r :: rs =>
    let (state, l, memo) := l.share backwardSlots 0 memo [next, r.lo, r.hi]
    chain l memo state rs

/-- Lay out byte sequences to be read backwards: a branch and an end, then the sequences. -/
def fan (l : Layout) (sequences : List (List ByteRange)) : Layout :=
  let stop := l.states + 1
  (sequences.foldl
    (fun (l, memo) s =>
      let (l, memo) := chain l memo stop s
      (l.extend edgeBytes, memo))
    (l.add 2, (∅ : Memo))).1

/-- Lay out a set of characters. -/
def set (d : Direction) (s : CharSet) (l : Layout) : Layout :=
  if s.isAscii then
    if s.isSingleton then l.add 1 else (l.add 2).extend (rangeBytes * s.ranges.length)
  else if s.isSingleton then l.add (s.byteSequences.flatten.length)
  else
    match d with
    | .forwards => l.tree s.byteSequences
    | .backwards => l.fan s.byteSequences

/-! ## Texts -/

/-- The pieces of a list of texts between the empty ones.  Of empty texts that stand before all
    others only the first counts. -/
def segments (texts : List (List Nat)) : List (List (List Nat)) :=
  let (blank, rest) := (texts.takeWhile List.isEmpty, texts.dropWhile List.isEmpty)
  match blank with
  | [] => rest.splitOnP List.isEmpty
  | _ :: _ => [] :: rest.splitOnP List.isEmpty

/-- Lay out the tree of some texts: every segment is a state with one range for each byte it
    begins with, and a branch leads to the segments and, between them, to the end.  What follows a
    byte is laid out in the same way, unless nothing does.  `depth` is the length of the longest
    text. -/
def texts : (depth : Nat) → Layout → List (List Nat) → Layout
  | 0, l, _ => l
  | depth + 1, l, ts =>
    let segments := segments ts
    let l := segments.foldl
      (fun l segment =>
        let heads := (segment.filterMap List.head?).eraseDups
        let l := heads.foldl
          (fun l b =>
            let tails := segment.filterMap fun t => if t.head? = some b then some t.tail else none
            if tails.all List.isEmpty then l else texts depth l tails) l
        match heads.length with
        | 0 => l
        | 1 => l.add 1
        | n => (l.add 1).extend (rangeBytes * n)) l
    let ways := segments.countP (!·.isEmpty) + (segments.length - 1)
    (l.add 1).extend (edgeBytes * ways)

end Layout

/-! ## Expressions -/

namespace Regex

/-- The bytes of an expression that is a text. -/
def text? (r : Regex) : Option (List Nat) :=
  match r.factors with
  | [] => none
  | fs => (fs.mapM fun f =>
      match f with
      | set ⟨[(lo, hi)]⟩ => if lo = hi then some (ByteRange.encode lo) else none
      | _ => none).map List.flatten

/-- The texts that alternatives consist of, if all are texts. -/
def texts? (rs : List Regex) : Option (List (List Nat)) := rs.mapM text?

/-- Where an expression stands among alternatives. -/
inductive Stand where
  /-- By itself or as the first alternative. -/
  | first
  | second
  | later
  deriving DecidableEq, Repr, Inhabited

/-- Join an alternative to those before it: the second one brings the branch and the common end. -/
def Stand.join (p : Stand) (l : Layout) : Layout :=
  match p with
  | .first => l
  | .second => (l.proceed.add 2).extend (2 * Layout.edgeBytes)
  | .later => l.proceed.extend Layout.edgeBytes

/-- Lay out `n` copies one after the other. -/
def layCopies (piece : Layout → Layout) : Nat → Layout → Layout
  | 0, l => l
  | n + 1, l => if l.isTooLarge then l else layCopies piece n (piece l.proceed)

/-- Lay out `n` optional copies, each behind a branch. -/
def layOptions (piece : Layout → Layout) : Nat → Layout → Layout
  | 0, l => l
  | n + 1, l =>
    if l.isTooLarge then l
    else layOptions piece n ((piece (l.add 1)).proceed.extend (2 * Layout.edgeBytes))

/-- Lay out a repetition.  `always` tells that every round takes a character: then a loop needs no
    more than its branch. -/
def layRepetition (always : Bool) (piece : Layout → Layout) (min : Nat) (max : Option Nat)
    (l : Layout) : Layout :=
  match min, max with
  | 0, some 1 => ((piece (l.add 1)).proceed.add 1).extend (2 * Layout.edgeBytes)
  | 0, none =>
    if always then ((piece (l.add 1)).proceed.extend Layout.edgeBytes).leaveBranching
    else ((piece l).proceed.add 3).extend (4 * Layout.edgeBytes)
  | n + 1, none => (((layCopies piece (n + 1) l).proceed.add 1).extend Layout.edgeBytes).leaveBranching
  | min, some max =>
    let l := if min = 0 then l.add 1 else layCopies piece min l
    if min = max then l else layOptions piece (max - min) (l.proceed.add 1)

/-- Lay out an expression that stands at a place among alternatives. -/
def lay (d : Direction) : Regex → Stand → Layout → Layout
  | empty, p, l => p.join (l.add 1)
  | set s, p, l => p.join (l.set d s)
  | look _, p, l => p.join (l.add 1)
  | cat a b, p, l =>
    p.join (match d with
      | .forwards => lay d b .first (lay d a .first l).proceed
      | .backwards => lay d a .first (lay d b .first l).proceed)
  | alt a b, p, l =>
    match p with
    | .first =>
      match texts? (alternatives (alt a b)) with
      | some ts =>
        let ts := match d with
          | .forwards => ts
          | .backwards => ts.map List.reverse
        (l.add 1).texts (ts.foldl (fun n t => max n t.length) 0) ts
      | none => lay d b .second (lay d a .first l).proceed
    | p => lay d b .later (p.join (lay d a .first l))
  | repetition r min max _, p, l =>
    p.join (layRepetition (r.consumes && !r.mentionsEmptySet) (lay d r .first) min max l)
  | group r, p, l =>
    p.join (match d with
      | .forwards => (lay d r .first (l.add 1)).proceed.add 1
      | .backwards => lay d r .first l)

/-- Whether matches are sought only at the end of the text where reading begins. -/
def isAnchored (d : Direction) (r : Regex) : Bool :=
  match d with
  | .forwards => r.beginsWith .textStart
  | .backwards => r.endsWith .textEnd

/-- The automaton of an expression.  Unless the expression is anchored, a loop over all bytes comes
    first; the match as a whole is a group, and a last state accepts. -/
def layout (d : Direction) (r : Regex) : Layout :=
  let start : Layout := ⟨0, 0, false⟩
  let start :=
    if r.isAnchored d then start.add 1
    else (start.add 3).extend (Layout.rangeBytes + 2 * Layout.edgeBytes)
  (lay d (group r) .first start).proceed.add 1

/-- The number of texts from which on a choice between texts is matched without an automaton. -/
def manyTexts : Nat := 3000

/-- Whether the expression is a choice between so many texts that it needs no automaton. -/
def isWordList (r : Regex) : Bool :=
  let rs := r.alternatives
  manyTexts ≤ rs.length && rs.all fun r => !r.factors.isEmpty && r.factors.all isCharacter

/-- A bound that the automata of an expression do not exceed in either direction, apart from what
    surrounds the match.  A range of characters has at most seven byte sequences, and four more
    pieces for each set where the number of bytes changes; a byte has at most two states.  The
    automata of ordinary expressions are far below the limit, and this bound tells so at once. -/
def ceiling : Regex → Nat
  | empty => 100
  | set s => if s.isAscii then 100 + 10 * s.ranges.length else 1200 * (s.ranges.length + 5)
  | look _ => 100
  | cat a b => a.ceiling + b.ceiling
  | alt a b => a.ceiling + b.ceiling + 200
  | repetition r min max _ => (Nat.max min (max.getD 0) + 1) * (r.ceiling + 200)
  | group r => r.ceiling + 100

/-- Whether the automata of an expression stay within the limit. -/
def fits (r : Regex) : Bool :=
  r.ceiling + 1000 ≤ Layout.limit || r.isWordList ||
    (!(r.layout .backwards).isTooLarge && !(r.layout .forwards).isTooLarge)

end Regex

end Highlight
