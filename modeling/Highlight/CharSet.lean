/-
  Sets of characters, as the sorted lists of code point ranges that character classes denote.

  1. **The set** — `CharSet` lists closed ranges in increasing order, no two of them touching, so
     that membership (`contains`) may stop at the first range that lies beyond the character.

  2. **The algebra** — `insert` adds one range and melts it with its neighbours; `union`,
     `complement`, `inter`, `diff` and `symmDiff` are built on it and on `complement`, which lists
     the gaps.  The bracketed classes of the pattern language use all five.

  3. **Tables** — the character properties of the Unicode standard are written as lines of text,
     one hexadecimal range after another (`30-39 41-5a`), with `/2` for a run that takes every
     second character.  `ofTable` reads such lines.

  Everything is structurally recursive over lists.
-/

namespace Highlight

/-- Closed ranges of code points, increasing and pairwise apart. -/
structure CharSet where
  ranges : List (Nat × Nat)
  deriving DecidableEq, Repr, Inhabited

namespace CharSet

/-- The greatest code point. -/
def maxCode : Nat := 0x10FFFF

/-! ## Membership -/

/-- Whether `n` lies in one of the ranges; the search ends at the first range above `n`. -/
def hasCode (n : Nat) : List (Nat × Nat) → Bool
  | [] => false
  | (lo, hi) :: rest => if n < lo then false else if n ≤ hi then true else hasCode n rest

/-- Whether a character belongs to the set. -/
def contains (s : CharSet) (c : Char) : Bool := hasCode c.toNat s.ranges

/-- Whether the set has no character at all. -/
def isEmpty (s : CharSet) : Bool := s.ranges.isEmpty

/-- Whether the set has just one member. -/
def isSingleton (s : CharSet) : Bool :=
  match s.ranges with
  | [(lo, hi)] => lo == hi
  | _ => false

/-- Whether every member is an ASCII character. -/
def isAscii (s : CharSet) : Bool := s.ranges.all (fun r => r.2 < 0x80)

/-! ## Building sets -/

def empty : CharSet := ⟨[]⟩

/-- The characters whose code points run from `lo` to `hi`. -/
def range (lo hi : Nat) : CharSet := if lo ≤ hi then ⟨[(lo, hi)]⟩ else empty

def singleton (c : Char) : CharSet := ⟨[(c.toNat, c.toNat)]⟩

/-- Every character. -/
def all : CharSet := ⟨[(0, maxCode)]⟩

/-- Add one range to a sorted list, melting it with the ranges it meets or touches. -/
def insertRange (lo hi : Nat) : List (Nat × Nat) → List (Nat × Nat)
  | [] => [(lo, hi)]
  | (a, b) :: rest =>
    if hi + 1 < a then (lo, hi) :: (a, b) :: rest
    else if b + 1 < lo then (a, b) :: insertRange lo hi rest
    else insertRange (min lo a) (max hi b) rest

def insert (s : CharSet) (lo hi : Nat) : CharSet :=
  if lo ≤ hi then ⟨insertRange lo hi s.ranges⟩ else s

/-- The members of either set. -/
def union (s t : CharSet) : CharSet := t.ranges.foldl (fun acc r => acc.insert r.1 r.2) s

/-- The set of the given ranges, in whatever order they come. -/
def ofRanges (rs : List (Nat × Nat)) : CharSet := rs.foldl (fun acc r => acc.insert r.1 r.2) empty

/-- The gaps of a sorted list of ranges, from `next` on. -/
def gaps (next : Nat) : List (Nat × Nat) → List (Nat × Nat)
  | [] => if next ≤ maxCode then [(next, maxCode)] else []
  | (lo, hi) :: rest =>
    if next < lo then (next, lo - 1) :: gaps (hi + 1) rest else gaps (hi + 1) rest

/-- The characters outside the set. -/
def complement (s : CharSet) : CharSet := ⟨gaps 0 s.ranges⟩

/-- The common members of two sets. -/
def inter (s t : CharSet) : CharSet :=
  ⟨s.ranges.flatMap fun (a, b) =>
    t.ranges.filterMap fun (c, d) =>
      if max a c ≤ min b d then some (max a c, min b d) else none⟩

/-- The members of the first set that the second lacks. -/
def diff (s t : CharSet) : CharSet := s.inter t.complement

/-- The members of exactly one of the two sets. -/
def symmDiff (s t : CharSet) : CharSet := (s.union t).diff (s.inter t)

/-! ## Reading tables -/

/-- The value of a hexadecimal digit. -/
def hexDigit? (c : Char) : Option Nat :=
  let n := c.toNat
  if 0x30 ≤ n ∧ n ≤ 0x39 then some (n - 0x30)
  else if 0x61 ≤ n ∧ n ≤ 0x66 then some (n - 0x61 + 10)
  else if 0x41 ≤ n ∧ n ≤ 0x46 then some (n - 0x41 + 10)
  else none

/-- The ranges one entry of a table stands for: `lo` is its first number when it has two. -/
def entryRanges (lo : Option Nat) (n : Nat) (everySecond : Bool) : List (Nat × Nat) :=
  match lo with
  | none => [(n, n)]
  | some a =>
    if everySecond then (List.range ((n - a) / 2 + 1)).map (fun i => (a + 2 * i, a + 2 * i))
    else [(a, n)]

/-- Read the rest of a line: `n` is the number being read, `lo` the one before its dash, and
    `everySecond` tells whether a slash has been passed (the digit after it is always `2`). -/
def readTable (lo : Option Nat) (n : Nat) (everySecond : Bool) : List Char → List (Nat × Nat)
  | [] => entryRanges lo n everySecond
  | c :: cs =>
    if c = ' ' then entryRanges lo n everySecond ++ readTable none 0 false cs
    else if c = '-' then readTable (some n) 0 false cs
    else if c = '/' then readTable lo n true cs
    else if everySecond then readTable lo n true cs
    else readTable lo (n * 16 + (hexDigit? c).getD 0) false cs

/-- The set that the lines of a table describe; the entries are in increasing order. -/
def ofTable (lines : List String) : CharSet :=
  ⟨lines.flatMap fun line => readTable none 0 false line.toList⟩

end CharSet

/-! ## Tables of maps -/

/-- A run of a character map: the characters from `lo` to `hi`, each `step` apart, go to the
    characters that lie as far from `target` as they lie from `lo`. -/
structure MapRun where
  lo : Nat
  hi : Nat
  step : Nat
  target : Nat
  deriving Repr, Inhabited

namespace MapRun

/-- Read the rest of a line of runs, `41-5a:61 100-12e/2:101`.  `lo` and `hi` are the numbers
    passed so far, `n` the one being read and `step` the distance of the run being read. -/
def readTable (lo hi : Option Nat) (step n : Nat) (inStep : Bool) : List Char → List MapRun
  | [] => [⟨lo.getD 0, (hi.orElse fun _ => lo).getD 0, step, n⟩]
  | c :: cs =>
    if c = ' ' then
      ⟨lo.getD 0, (hi.orElse fun _ => lo).getD 0, step, n⟩ :: readTable none none 1 0 false cs
    else if c = '-' then readTable (some n) none step 0 false cs
    else if c = '/' then readTable lo (some n) 2 0 true cs
    else if c = ':' then
      if inStep then readTable lo hi step 0 false cs
      else if lo.isSome then readTable lo (some n) step 0 false cs
      else readTable (some n) none step 0 false cs
    else if inStep then readTable lo hi step 0 true cs
    else readTable lo hi step (n * 16 + (CharSet.hexDigit? c).getD 0) false cs

/-- The runs that the lines of a table describe. -/
def ofTable (lines : List String) : List MapRun :=
  lines.flatMap fun line => readTable none none 1 0 false line.toList

/-- Where a run sends a code point, if it covers it. -/
def image? (r : MapRun) (n : Nat) : Option Nat :=
  if r.lo ≤ n ∧ n ≤ r.hi ∧ (n - r.lo) % r.step = 0 then some (r.target + (n - r.lo)) else none

/-- The pairs of a run, one after the other. -/
def pairs (r : MapRun) : List (Nat × Nat) :=
  (List.range ((r.hi - r.lo) / r.step + 1)).map
    (fun i => (r.lo + r.step * i, r.target + r.step * i))

/-- Where a table sends a code point: the first run that covers it decides. -/
def lookup? (rs : List MapRun) (n : Nat) : Option Nat := rs.findSome? (·.image? n)

end MapRun

end Highlight
