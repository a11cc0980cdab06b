/-
  Tables while a document is being read.

  A table may be declared in several places: by pairs with dotted keys, by a header, by the header
  of a table inside it.  A `Draft` remembers which of these made each table (`Origin`), because that
  decides who may add to it later:

  1. **Pairs** — `addPair` follows a dotted key.  It makes the tables on its way, and enters only
     tables that came about in the same way, or are passed on the way to one that did.

  2. **Headers** — `declare` and `append` follow the path of a header.  They enter any table, and
     of an array of tables its last one, and make the tables that are missing.  A header may declare
     a table that so far was only implied, once; the table then takes its place among the keys there.

  All of them answer `none` where a key would be declared twice or a path leads through something
  that is no table.
-/
import Highlight.Dict
import Highlight.Toml.Value

namespace Highlight.Toml

/-- How a table came about: it has a header, or is written out; it lies on the path of a header; it
    lies on the path of a dotted key. -/
inductive Origin where
  | declared
  | implied
  | dotted
  deriving DecidableEq, Repr, Inhabited

/-- A part of a document that is being read: a finished value, a table, or an array of tables, all
    of which are declared. -/
inductive Draft where
  | value (v : Value)
  | table (origin : Origin) (entries : List (String × Draft))
  | tables (elements : List (List (String × Draft)))
  deriving Repr, Inhabited

namespace Draft

/-- The keys of a table that is being read. -/
abbrev Entries := Dict String Draft

/-- Apply a function to the last element of a list; nothing comes of an empty list. -/
def onLast {α : Type} (f : α → Option α) : List α → Option (List α)
  | [] => none
  | [x] => (f x).map ([·])
  | x :: y :: rest => (onLast f (y :: rest)).map (x :: ·)

/-! ## Pairs -/

/-- Follow a dotted key from a table of the given origin, and give its last part a value. -/
def addPairFrom (key : String) (v : Value) : (path : List String) → Origin → Entries → Option Entries
  | [], origin, entries =>
    if origin = .dotted ∧ (entries.find? key).isNone then some (entries.set key (.value v)) else none
  | k :: path, _, entries =>
    match entries.find? k with
    | none => (addPairFrom key v path .dotted []).map fun es => entries.set k (.table .dotted es)
    | some (.value _) => none
    | some (.table .declared _) => none
    | some (.table origin es) =>
      (addPairFrom key v path origin es).map fun es => entries.set k (.table origin es)
    | some (.tables elements) =>
      (onLast (addPairFrom key v path .declared) elements).map fun ts => entries.set k (.tables ts)

/-- Declare a pair in a table.  Without a path the pair belongs to the table itself, whatever its
    origin. -/
def addPair (path : List String) (key : String) (v : Value) (entries : Entries) : Option Entries :=
  addPairFrom key v path .dotted entries

/-! ## Headers -/

/-- Follow the path of a header, and apply a function to the table it leads to. -/
def enter (f : Entries → Option Entries) : (path : List String) → Entries → Option Entries
  | [], entries => f entries
  | k :: path, entries =>
    match entries.find? k with
    | none => (enter f path []).map fun es => entries.set k (.table .implied es)
    | some (.value _) => none
    | some (.table origin es) => (enter f path es).map fun es => entries.set k (.table origin es)
    | some (.tables elements) =>
      (onLast (enter f path) elements).map fun ts => entries.set k (.tables ts)

/-- Declare a table, the pairs below its header being added by a function. -/
def declare (path : List String) (key : String) (body : Entries → Option Entries) :
    Entries → Option Entries :=
  enter (fun entries =>
    match entries.find? key with
    | none => (body []).map fun es => entries.set key (.table .declared es)
    | some (.table .implied es) =>
      (body es).map fun es => (entries.erase key).set key (.table .declared es)
    | some _ => none) path

/-- Add a table to an array of tables, the pairs below its header being added by a function. -/
def append (path : List String) (key : String) (body : Entries → Option Entries) :
    Entries → Option Entries :=
  enter (fun entries =>
    match entries.find? key with
    | none => (body []).map fun es => entries.set key (.tables [es])
    | some (.tables elements) =>
      (body []).map fun es => entries.set key (.tables (elements ++ [es]))
    | some _ => none) path

/-! ## The finished value -/

mutual

/-- The value of a draft. -/
def toValue : Draft → Value
  | .value v => v
  | .table _ entries => .table (toTable entries)
  | .tables elements => .array (toTables elements)

/-- The finished entries of a table. -/
def toTable : List (String × Draft) → Table
  | [] => []
  | entry :: rest => toEntry entry :: toTable rest

/-- A finished entry. -/
def toEntry : String × Draft → String × Value
  | (key, d) => (key, toValue d)

/-- The finished tables of an array. -/
def toTables : List (List (String × Draft)) → List Value
  | [] => []
  | entries :: rest => .table (toTable entries) :: toTables rest

end

end Draft

end Highlight.Toml
