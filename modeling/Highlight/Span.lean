/-
  Spans of styled text, and how overlapping ones are flattened.

  1. **The span** — `Span` is a stretch of a line, in bytes, with the slot it is painted in.  A
     list of spans is a painting: where spans overlap, the later one covers the earlier.

  2. **The flattening** — `flatten` turns a painting into runs that do not overlap.  It cuts the
     line at every end of a span and looks, for each piece between two neighbouring cuts, for the
     last span that covers the piece (`topSpan`); pieces that touch and look alike are joined
     (`join`).
-/
import Highlight.Category

namespace Highlight

/-- `length` bytes from offset `start` on, painted in one style. -/
structure Span where
  start : Nat
  length : Nat
  style : StyleId
  deriving DecidableEq, Repr, Inhabited

namespace Span

/-- The span from `start` up to, not including, `stop`. -/
def between (start stop : Nat) (style : StyleId) : Span := ⟨start, stop - start, style⟩

/-- The offset just past the span. -/
def stop (s : Span) : Nat := s.start + s.length

/-- Whether a byte lies in the span. -/
def contains (s : Span) (pos : Nat) : Bool := s.start ≤ pos && pos < s.stop

def isEmpty (s : Span) : Bool := s.length = 0

end Span

/-- Add a number to an increasing list without repetitions. -/
def insertCut (n : Nat) : List Nat → List Nat
  | [] => [n]
  | m :: ms => if n < m then n :: m :: ms else if n = m then m :: ms else m :: insertCut n ms

/-- The offsets at which the non-empty spans of a painting begin and end, in increasing order. -/
def cuts : List Span → List Nat
  | [] => []
  | s :: ss => if s.isEmpty then cuts ss else insertCut s.start (insertCut s.stop (cuts ss))

/-- The span that shows between two neighbouring cuts: of a painting listed latest first, the
    first span that covers the piece. -/
def topSpan (latestFirst : List Span) (lo hi : Nat) : Option Span :=
  latestFirst.find? (fun s => !s.isEmpty && s.start ≤ lo && hi ≤ s.stop)

/-- Put a run before runs that come after it, melting it with the first if they touch and look
    alike. -/
def join (s : Span) : List Span → List Span
  | [] => [s]
  | t :: ts => if s.style = t.style ∧ s.stop = t.start then ⟨s.start, s.length + t.length, s.style⟩ :: ts
    else s :: t :: ts

/-- The runs of a painting, listed latest first, between the given cuts. -/
def runs (latestFirst : List Span) : List Nat → List Span
  | lo :: hi :: rest =>
    match topSpan latestFirst lo hi with
    | some top => join (Span.between lo hi top.style) (runs latestFirst (hi :: rest))
    | none => runs latestFirst (hi :: rest)
  | _ => []

/-- Turn a painting into runs that are sorted and do not overlap, painting every byte alike. -/
def flatten (spans : List Span) : List Span := runs spans.reverse (cuts spans)

end Highlight
