/-
  Buffers of text and changes to them.

  A `Buffer` is a list of lines, each with or without its terminator.  A `LineEdit` says which lines
  of a buffer were replaced by how many others; a `LineRange` says which lines have to be painted
  again.
-/
import Highlight.Text

namespace Highlight

/-- The lines of a buffer. -/
abbrev Buffer := List Text

namespace Buffer

/-- A line without its terminator; past the end of the buffer lines are empty. -/
def line (buffer : Buffer) (i : Nat) : Text := Text.stripTerminator (buffer[i]?.getD [])

/-- The lines without their terminators. -/
def lines (buffer : Buffer) : List Text := buffer.map Text.stripTerminator

end Buffer

/-- A change to a buffer: from line `start` on, `removed` lines were replaced by `inserted` ones. -/
structure LineEdit where
  start : Nat
  removed : Nat
  inserted : Nat
  deriving DecidableEq, Repr, Inhabited

namespace LineEdit

/-- The lines from `first` to `last` changed in place. -/
def modified (first last : Nat) : LineEdit := ⟨first, last - first + 1, last - first + 1⟩

/-- Lines were inserted before line `start`. -/
def insertion (start count : Nat) : LineEdit := ⟨start, 0, count⟩

/-- Lines were removed from line `start` on. -/
def removal (start count : Nat) : LineEdit := ⟨start, count, 0⟩

end LineEdit

/-- The lines from `start` up to, not including, `stop`. -/
structure LineRange where
  start : Nat := 0
  stop : Nat := 0
  deriving DecidableEq, Repr, Inhabited

namespace LineRange

def isEmpty (r : LineRange) : Bool := r.stop ≤ r.start

def contains (r : LineRange) (line : Nat) : Bool := r.start ≤ line && line < r.stop

/-- The lines in the range. -/
def toList (r : LineRange) : List Nat := (List.range (r.stop - r.start)).map (r.start + ·)

end LineRange

end Highlight
