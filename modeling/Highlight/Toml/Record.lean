/-
  Records in a document.

  A record is a value with fields of known names.  It may be written as a table, in which keys of
  other names do not count, or as an array that lists the fields in their order.  A date or a time
  counts as a table without any of the fields.
-/
import Highlight.Toml.Value

namespace Highlight.Toml

namespace Value

/-- The fields of a record; written as an array it has to list all of them. -/
def record? (names : List String) : Value → Option Table
  | .table fields => some fields
  | .dateTime _ => some []
  | .array vs => if names.length ≤ vs.length then some (names.zip vs) else none
  | _ => none

/-- The fields of a record which, written as an array, may leave out the last ones. -/
def partialRecord? (names : List String) : Value → Option Table
  | .array vs => some (names.zip vs)
  | v => v.record? names

/-- An array of values of one kind. -/
def listOf? {α : Type} (read : Value → Option α) (v : Value) : Option (List α) :=
  v.array?.bind (·.mapM read)

/-- A whole number that is not negative. -/
def natural? (v : Value) : Option Nat :=
  v.integer?.bind fun n => if 0 ≤ n then some n.toNat else none

end Value

namespace Table

/-- A field that may be missing; `none` if its value is of the wrong kind. -/
def field? {α : Type} (read : Value → Option α) (t : Table) (name : String) : Option (Option α) :=
  match t.find? name with
  | none => some none
  | some v => (read v).map some

/-- A field with a default; `none` if its value is of the wrong kind. -/
def fieldD? {α : Type} (read : Value → Option α) (t : Table) (name : String) (default : α) : Option α :=
  (t.field? read name).map (·.getD default)

end Table

end Highlight.Toml
