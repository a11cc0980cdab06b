/-
  TOML documents.

  1. **Values** — `value?` reads a literal, an array or an inline table.  Arrays and inline tables
     may be nested to a limited depth.

  2. **Sections** — a document is a list of pairs followed by sections, each a header and the pairs
     below it.

  3. **The table** — `Document.parse` puts the sections together, one after the other; a document
     that declares a key twice has no table.
-/
import Highlight.Toml.Draft
import Highlight.Toml.Literal

namespace Highlight.Toml

open Literal

namespace Document

/-! ## Values -/

/-- The number of arrays and inline tables that may be nested in each other. -/
def maxNesting : Nat := 79

mutual

/-- A value; `room` is the number of levels that it may still be nested.  A level of nesting takes
    two steps and a character of text at least, which bounds `fuel`. -/
def valueFrom : (fuel room : Nat) → Rest → Option (Value × Rest)
  | 0, _, _ => none
  | fuel + 1, room, text =>
    match text with
    | '"' :: _ | '\'' :: _ => (string? text).map fun (s, rest) => (.string s, rest)
    | '[' :: rest =>
      if room = 0 then none
      else
        match skipGap rest with
        | ']' :: rest => some (.array [], rest)
        | rest => (elementsFrom fuel (room - 1) rest).map fun (vs, rest) => (.array vs, rest)
    | '\x7b' :: rest =>
      if room = 0 then none
      else
        match skipBlanks rest with
        | '\x7d' :: rest => some (.table [], rest)
        | rest =>
          (pairsFrom fuel (room - 1) [] rest).map fun (es, rest) => (.table (Draft.toTable es), rest)
    | 't' :: 'r' :: 'u' :: 'e' :: rest => some (.boolean true, rest)
    | 'f' :: 'a' :: 'l' :: 's' :: 'e' :: rest => some (.boolean false, rest)
    | text => number? text

/-- The elements of an array up to its end, the text starting at an element. -/
def elementsFrom : (fuel room : Nat) → Rest → Option (List Value × Rest)
  | 0, _, _ => none
  | fuel + 1, room, text => do
    let (v, rest) ← valueFrom fuel room text
    match skipGap rest with
    | ']' :: rest => return ([v], rest)
    | ',' :: rest =>
      match skipGap rest with
      | ']' :: rest => return ([v], rest)
      | rest =>
        let (vs, rest) ← elementsFrom fuel room rest
        return (v :: vs, rest)
    | _ => none

/-- The pairs of an inline table up to its end, added to those before. -/
def pairsFrom : (fuel room : Nat) → Draft.Entries → Rest → Option (Draft.Entries × Rest)
  | 0, _, _, _ => none
  | fuel + 1, room, entries, text => do
    let (path, key, rest) ← key? text
    let (v, rest) ← valueFrom fuel room (skipBlanks (← expect? '=' rest))
    let entries ← Draft.addPair path key v entries
    match skipBlanks rest with
    | '\x7d' :: rest => return (entries, rest)
    | ',' :: rest => pairsFrom fuel room entries rest
    | _ => none

end

/-- A value. -/
def value? (text : Rest) : Option (Value × Rest) := valueFrom (2 * text.length + 2) maxNesting text

/-! ## Sections -/

/-- A key, split into the path and its last part, and the value. -/
structure Pair where
  path : List String
  key : String
  value : Value
  deriving Repr, Inhabited

/-- A header: that of a table, or of the next table of an array. -/
structure Header where
  path : List String
  key : String
  next : Bool
  deriving Repr, Inhabited

/-- A header and the pairs below it. -/
structure Section where
  header : Header
  pairs : List Pair
  deriving Repr, Inhabited

/-- A pair, up to the end of its line. -/
def pair? (text : Rest) : Option (Pair × Rest) := do
  let (path, key, rest) ← key? text
  let (v, rest) ← value? (skipBlanks (← expect? '=' rest))
  return (⟨path, key, v⟩, ← lineEnd? rest)

/-- The pairs up to the next header or the end.  Every step consumes a character. -/
def linesFrom : (fuel : Nat) → Rest → Option (List Pair × Rest)
  | 0, _ => none
  | fuel + 1, text =>
    match skipBlanks text with
    | [] => some ([], [])
    | '[' :: rest => some ([], '[' :: rest)
    | c :: rest =>
      if c = '#' ∨ c = '\n' ∨ c = '\r' then do
        linesFrom fuel (← lineEnd? (c :: rest))
      else do
        let (p, rest) ← pair? (c :: rest)
        let (ps, rest) ← linesFrom fuel rest
        return (p :: ps, rest)

/-- The pairs up to the next header or the end. -/
def lines? (text : Rest) : Option (List Pair × Rest) := linesFrom (text.length + 1) text

/-- A header, up to the end of its line. -/
def header? : Rest → Option (Header × Rest)
  | '[' :: '[' :: rest => do
    let (path, key, rest) ← key? rest
    let rest ← expect? ']' (← expect? ']' rest)
    return (⟨path, key, true⟩, ← lineEnd? rest)
  | '[' :: rest => do
    let (path, key, rest) ← key? rest
    let rest ← expect? ']' rest
    return (⟨path, key, false⟩, ← lineEnd? rest)
  | _ => none

/-- The sections up to the end.  Every section consumes a character. -/
def sectionsFrom : (fuel : Nat) → Rest → Option (List Section)
  | 0, _ => none
  | _ + 1, [] => some []
  | fuel + 1, text => do
    let (h, rest) ← header? text
    let (ps, rest) ← lines? rest
    let ss ← sectionsFrom fuel rest
    return ⟨h, ps⟩ :: ss

/-! ## The table -/

/-- Add pairs to a table. -/
def addPairs : List Pair → Draft.Entries → Option Draft.Entries
  | [], entries => some entries
  | p :: ps, entries => (Draft.addPair p.path p.key p.value entries).bind (addPairs ps)

/-- Add a section to a document. -/
def addSection (s : Section) (root : Draft.Entries) : Option Draft.Entries :=
  let add := if s.header.next then Draft.append else Draft.declare
  add s.header.path s.header.key (addPairs s.pairs) root

/-- Add sections to a document. -/
def addSections : List Section → Draft.Entries → Option Draft.Entries
  | [], root => some root
  | s :: ss, root => (addSection s root).bind (addSections ss)

/-- The text behind a byte order mark. -/
def skipMark : Rest → Rest
  | c :: rest => if c.toNat = 0xFEFF then rest else c :: rest
  | [] => []

/-- The table of a document, or `none` if the text is no document. -/
def parse (s : String) : Option Table := do
  let text := skipMark s.toList
  let (ps, rest) ← lines? text
  let ss ← sectionsFrom (rest.length + 1) rest
  let root ← addPairs ps []
  return Draft.toTable (← addSections ss root)

end Document

end Highlight.Toml
