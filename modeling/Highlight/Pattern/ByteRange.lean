/-
  Sets of characters as byte sequences.

  A matching automaton reads the bytes of UTF-8.  For it a set of characters is a list of sequences
  of byte ranges: a sequence stands for all ways to take one byte from each of its ranges in turn.
  `CharSet.byteSequences` cuts every range of a set into the largest pieces for which that is
  possible, in increasing order.
-/
import Highlight.CharSet

namespace Highlight

/-- A range of bytes, both ends included. -/
structure ByteRange where
  lo : Nat
  hi : Nat
  deriving DecidableEq, Repr, Inhabited

namespace ByteRange

/-- The bytes of a code point in UTF-8. -/
def encode (n : Nat) : List Nat :=
  if n < 0x80 then [n]
  else if n < 0x800 then [0xC0 + n / 0x40, 0x80 + n % 0x40]
  else if n < 0x10000 then [0xE0 + n / 0x1000, 0x80 + n / 0x40 % 0x40, 0x80 + n % 0x40]
  else [0xF0 + n / 0x40000, 0x80 + n / 0x1000 % 0x40, 0x80 + n / 0x40 % 0x40, 0x80 + n % 0x40]

/-- Cut a range where the number of bytes changes, and around the surrogates. -/
def byLength (lo hi : Nat) : List (Nat × Nat) :=
  [(0, 0x7F), (0x80, 0x7FF), (0x800, 0xD7FF), (0xE000, 0xFFFF), (0x10000, 0x10FFFF)].filterMap
    fun (a, b) => if max a lo ≤ min b hi then some (max a lo, min b hi) else none

/-- Cut a range until the bytes of its members vary independently of each other: the last
    `tails` bytes of six bits each either take every value or belong to one beginning. -/
def byTails : (tails : Nat) → (lo hi : Nat) → List (Nat × Nat)
  | 0, lo, hi => [(lo, hi)]
  | t + 1, lo, hi =>
    let block := Nat.pow 64 (t + 1)
    if lo / block = hi / block then byTails t lo hi
    else
      let firstFull := (lo + block - 1) / block * block
      let lastFull := (hi + 1) / block * block
      let head := if lo < firstFull then byTails t lo (firstFull - 1) else []
      let middle := if firstFull < lastFull then [(firstFull, lastFull - 1)] else []
      let tail := if lastFull ≤ hi then byTails t lastFull hi else []
      head ++ middle ++ tail

/-- The sequences of a range of code points. -/
def sequences (lo hi : Nat) : List (List ByteRange) :=
  (byLength lo hi).flatMap fun (a, b) =>
    (byTails ((encode a).length - 1) a b).map fun (c, d) =>
      List.zipWith ByteRange.mk (encode c) (encode d)

end ByteRange

/-- The byte sequences of the characters in a set. -/
def CharSet.byteSequences (s : CharSet) : List (List ByteRange) :=
  s.ranges.flatMap fun (lo, hi) => ByteRange.sequences lo hi

end Highlight
