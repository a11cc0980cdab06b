/-
  Dates and times written as tables.

  A date or a time can also be written as a table whose first key is `DateTime.key`; the value of
  that key is the text of the date or time, and further keys do not count.  A reader that takes a
  value of any kind takes it with `Value.any?`, which finds such tables at every depth.  A table
  that announces a date or a time and does not have one is no value at all.
-/
import Highlight.Toml.Literal
import Highlight.Toml.Record

namespace Highlight.Toml

/-- The date or time that a text spells. -/
def DateTime.ofText? (s : String) : Option Value :=
  match Literal.dateTime? s.toList with
  | some (v, []) => some v
  | _ => none

namespace Value

/-- What a table announces by its first key: a date or time with the value of that key, or
    nothing. -/
def announced? : List (String × Value) → Option Value
  | [] => none
  | (k, v) :: _ => if k = DateTime.key then some v else none

mutual

/-- A value of any kind, with the dates and times that are written as tables. -/
def any? : Value → Option Value
  | .string s => some (.string s)
  | .integer n => some (.integer n)
  | .real x => some (.real x)
  | .boolean b => some (.boolean b)
  | .dateTime d => some (.dateTime d)
  | .array vs => (anyElements? vs).map .array
  | .table es =>
    match announced? es with
    | some v => v.string?.bind DateTime.ofText?
    | none => (anyEntries? es).map .table

/-- The elements of an array, each of any kind. -/
def anyElements? : List Value → Option (List Value)
  | [] => some []
  | v :: vs => (any? v).bind fun v => (anyElements? vs).map (v :: ·)

/-- The entries of a table, each of any kind. -/
def anyEntries? : List (String × Value) → Option (List (String × Value))
  | [] => some []
  | e :: es => (anyPair? e).bind fun e => (anyEntries? es).map (e :: ·)

/-- An entry of a table, of any kind. -/
def anyPair? : String × Value → Option (String × Value)
  | (k, v) => (any? v).map fun v => (k, v)

end

end Value

end Highlight.Toml
