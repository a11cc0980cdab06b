/-
  Themes: the looks of the style slots.

  1. **Looking up** — `Theme.look` gives the looks of any slot.  A slot without looks of its own
     falls back: escapes on quotations, everything else on plain text, which always has looks.

  2. **The built-in theme** — `Theme.builtin` colours every slot that the configuration has room
     for.
-/
import Highlight.Config
import Highlight.Span
import Highlight.Style

namespace Highlight

/-- The looks of plain text, and those of other slots as far as they have any. -/
structure Theme where
  plain : TextStyle := {}
  slots : Dict StyleId TextStyle := []
  deriving Repr, Inhabited

namespace Theme

/-! ## Looking up -/

/-- The slot that gives an undeclared slot its looks. -/
def fallback : StyleId → StyleId
  | .escape => .quotation
  | _ => .plain

/-- The looks a slot has of its own. -/
def own? (theme : Theme) (id : StyleId) : Option TextStyle :=
  if id = .plain then some theme.plain else theme.slots.find? id

/-- The looks of a slot. -/
def look (theme : Theme) (id : StyleId) : TextStyle :=
  match theme.own? id with
  | some style => style
  | none => (theme.own? (fallback id)).getD theme.plain

/-- Whether a slot has looks of its own. -/
def contains (theme : Theme) (id : StyleId) : Bool := (theme.own? id).isSome

/-- Give a slot its looks. -/
def set (theme : Theme) (id : StyleId) (style : TextStyle) : Theme :=
  if id = .plain then { theme with plain := style }
  else { theme with slots := theme.slots.set id style }

/-- The number of slots with looks of their own. -/
def size (theme : Theme) : Nat := theme.slots.length + 1

/-- Whether two themes give the same slots the same looks, in whatever order they were set. -/
def same (a b : Theme) : Bool :=
  a.size = b.size && (.plain :: a.slots.keys).all fun id => a.own? id = b.own? id

/-- The looks of the spans of a line. -/
def resolve (theme : Theme) (spans : List Span) : List (Span × TextStyle) :=
  spans.map fun s => (s, theme.look s.style)

@[simp] theorem own?_set_self (theme : Theme) (id : StyleId) (style : TextStyle) :
    (theme.set id style).own? id = some style := by
  by_cases h : id = .plain <;> simp [set, own?, h]

/-- Setting a slot leaves the others alone. -/
theorem own?_set_of_ne (theme : Theme) {id id' : StyleId} (h : id' ≠ id) (style : TextStyle) :
    (theme.set id' style).own? id = theme.own? id := by
  by_cases h₁ : id' = .plain
  · subst h₁; simp [set, own?, Ne.symm h]
  · by_cases h₂ : id = .plain
    · simp [set, own?, h₁, h₂]
    · simp [set, own?, h₁, h₂, Dict.find?_set_of_ne h]

/-! ## The built-in theme -/

/-- Text in a colour. -/
def coloured (color : Color) : TextStyle := { foreground := some color }

/-- The colours of numbered slots, used in turn. -/
def wheel : List Color :=
  [.rgb 0xC5 0x86 0xC0, .rgb 0x56 0x9C 0xD6, .rgb 0x4E 0xC9 0xB0, .rgb 0xDC 0xDC 0xAA,
    .rgb 0x9C 0xDC 0xFE, .rgb 0xD7 0xBA 0x7D, .rgb 0xD1 0x69 0x69, .rgb 0xB5 0xCE 0xA8]

/-- The looks of a numbered slot; the first keywords are bold. -/
def numbered (category : Category) (i : Nat) : TextStyle :=
  { coloured (wheel.getD (i % wheel.length) default) with bold := category = .keyword ∧ i = 0 }

/-- The slots of a category that a configuration has room for, with their looks. -/
def numberedSlots (limits : Limits) (category : Category) : List (StyleId × TextStyle) :=
  (List.range (limits.capacity category)).map fun i =>
    (.ofCategory category i, numbered category i)

/-- The looks of plain text; a colour that cannot be read is none. -/
def plainStyle (looks : PlainLooks) : TextStyle where
  foreground := looks.foreground.bind fun s => (Color.parse s).toOption
  background := looks.background.bind fun s => (Color.parse s).toOption
  family := looks.family

/-- The built-in theme. -/
def builtin (config : Config) : Theme where
  plain := plainStyle config.plain
  slots :=
    let comment : TextStyle := { coloured (.rgb 0x6A 0x99 0x55) with italic := true }
    [(.number, coloured (.rgb 0xB5 0xCE 0xA8)), (.quotation, coloured (.rgb 0xCE 0x91 0x78)),
      (.lineComment, comment), (.blockComment, comment)] ++
    [Category.keyword, .expression, .lineExpression, .blockExpression].flatMap
      (numberedSlots config.limits)

end Theme

end Highlight
