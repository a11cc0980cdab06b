/-
  Style sheets: documents that say how the slots of a theme look.

  1. **Reading** — a sheet has, for each category, one declaration or a list of them.  The values
     in a declaration are kept as they are; only the shape of the document has to be right.

  2. **Layering** — `Sheet.applyTo` applies the declarations to a theme one after the other, the
     categories in the order of `Sheet.order`.  A declaration starts from the looks its slot has at
     that moment and changes what it gives a usable value for.
-/
import Highlight.Theme
import Highlight.Toml.TableDate

namespace Highlight

open Toml

/-- The looks that a document declares for one slot; `slot` says which one, in the categories whose
    slots are numbered. -/
structure Declaration where
  slot : Option Value := none
  color : Option Value := none
  background : Option Value := none
  family : Option Value := none
  bold : Option Value := none
  italic : Option Value := none
  underline : Option Value := none
  deriving Repr, Inhabited

/-- The declarations of a document by category. -/
abbrev Sheet := List (Category × List Declaration)

namespace Declaration

/-- The words for the fields, in order. -/
def fields : List String := ["type", "color", "background", "family", "bold", "italic", "underline"]

/-- The declaration with the given fields. -/
def ofFields? (t : Table) : Option Declaration := do
  return {
    slot := ← t.field? Value.any? "type"
    color := ← t.field? Value.any? "color"
    background := ← t.field? Value.any? "background"
    family := ← t.field? Value.any? "family"
    bold := ← t.field? Value.any? "bold"
    italic := ← t.field? Value.any? "italic"
    underline := ← t.field? Value.any? "underline" }

/-- Read a declaration; written as an array it has exactly the fields there are. -/
def ofValue? (v : Value) : Option Declaration :=
  match v with
  | .array vs => if vs.length = fields.length then ofFields? (fields.zip vs) else none
  | v => (v.record? fields).bind ofFields?

/-- The slot a declaration is about.  Without a number it is the first one; a number that is no
    natural number is none. -/
def target? (category : Category) (d : Declaration) : Option StyleId :=
  if category.isIndexed then
    match d.slot with
    | none => some (.ofCategory category 0)
    | some v => v.natural?.map (.ofCategory category)
  else some (.ofCategory category 0)

/-- The colour a value stands for. -/
def color? (v : Option Value) : Option Color :=
  (v.bind Value.string?).bind fun s => (Color.parse s).toOption

/-- Change what a declaration gives a usable value for. -/
def restyle (d : Declaration) (style : TextStyle) : TextStyle where
  foreground := (color? d.color).or style.foreground
  background := (color? d.background).or style.background
  family := (d.family.bind Value.string?).or style.family
  bold := (d.bold.bind Value.boolean?).getD style.bold
  italic := (d.italic.bind Value.boolean?).getD style.italic
  underline := (d.underline.bind Value.boolean?).getD style.underline

/-- Apply a declaration to a theme. -/
def apply (category : Category) (theme : Theme) (d : Declaration) : Theme :=
  match d.target? category with
  | some id => theme.set id (d.restyle (theme.look id))
  | none => theme

end Declaration

namespace Sheet

/-! ## Reading -/

/-- The categories in the order in which they are applied: plain text before everything that falls
    back on it, and quotations before escapes. -/
def order : List Category :=
  [.plain, .number, .lineComment, .blockComment, .quotation, .escape, .keyword, .expression,
    .lineExpression, .blockExpression]

/-- Read a list of declarations, or else a single one. -/
def declarations? (v : Value) : Option (List Declaration) :=
  match v.listOf? Declaration.ofValue? with
  | some ds => some ds
  | none => (Declaration.ofValue? v).map ([·])

/-- The words for the categories in the order in which an array lists them. -/
def categoryNames : List String :=
  ["default", "numbers", "linecomment", "blockcomment", "quotations", "escapes", "keywords",
    "expression", "lineexpression", "blockexpression"]

/-- The declarations in the `format` part of a document. -/
def ofFormat? (v : Value) : Option Sheet := do
  let t ← v.record? categoryNames
  order.mapM fun category => do
    return (category, ← t.fieldD? declarations? category.name [])

/-- The declarations in the table of a document. -/
def ofTable? (t : Table) : Option Sheet := t.fieldD? ofFormat? "format" []

/-- Read a style sheet. -/
def parse? (text : String) : Option Sheet := (Document.parse text).bind ofTable?

/-! ## Layering -/

/-- Apply all declarations to a theme. -/
def applyTo (sheet : Sheet) (theme : Theme) : Theme :=
  sheet.foldl (fun theme (category, ds) => ds.foldl (Declaration.apply category) theme) theme

end Sheet

end Highlight
