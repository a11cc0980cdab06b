/-
  Rule categories and the identifiers of style slots.

  Every rule of a grammar belongs to a `Category`, and every span the highlighter emits carries a
  `StyleId`: the category, and for the four indexed categories the number of the rule as well.
  Grammars and styles name the categories by the same words (`Category.name`).
-/

namespace Highlight

/-- The kinds of rules, in the order in which their identifiers sort. -/
inductive Category where
  | plain
  | number
  | quotation
  | escape
  | lineComment
  | blockComment
  | keyword
  | expression
  | lineExpression
  | blockExpression
  deriving DecidableEq, Repr, Inhabited

namespace Category

/-- All categories in order. -/
def all : List Category :=
  [plain, number, quotation, escape, lineComment, blockComment, keyword, expression,
    lineExpression, blockExpression]

/-- The word for a category in grammar and style documents. -/
def name : Category → String
  | plain => "default"
  | number => "numbers"
  | quotation => "quotations"
  | escape => "escapes"
  | lineComment => "linecomment"
  | blockComment => "blockcomment"
  | keyword => "keywords"
  | expression => "expression"
  | lineExpression => "lineexpression"
  | blockExpression => "blockexpression"

/-- The category a word stands for. -/
def ofName? (s : String) : Option Category := all.find? (fun c => c.name = s)

/-- Whether the rules of a category are numbered. -/
def isIndexed : Category → Bool
  | keyword | expression | lineExpression | blockExpression => true
  | _ => false

/-- The place of a category in the order. -/
def rank : Category → Nat
  | plain => 0
  | number => 1
  | quotation => 2
  | escape => 3
  | lineComment => 4
  | blockComment => 5
  | keyword => 6
  | expression => 7
  | lineExpression => 8
  | blockExpression => 9

end Category

/-- A style slot.  The numbers of the indexed categories are open: a registry stores what is
    declared, and `plain` is the one slot that always exists. -/
inductive StyleId where
  | plain
  | number
  | quotation
  | escape
  | lineComment
  | blockComment
  | keyword (index : Nat)
  | expression (index : Nat)
  | lineExpression (index : Nat)
  | blockExpression (index : Nat)
  deriving DecidableEq, Repr, Inhabited

namespace StyleId

/-- The slot of a category's rule; the index only matters where rules are numbered. -/
def ofCategory (category : Category) (index : Nat) : StyleId :=
  match category with
  | .plain => plain
  | .number => number
  | .quotation => quotation
  | .escape => escape
  | .lineComment => lineComment
  | .blockComment => blockComment
  | .keyword => keyword index
  | .expression => expression index
  | .lineExpression => lineExpression index
  | .blockExpression => blockExpression index

def category : StyleId → Category
  | plain => .plain
  | number => .number
  | quotation => .quotation
  | escape => .escape
  | lineComment => .lineComment
  | blockComment => .blockComment
  | keyword _ => .keyword
  | expression _ => .expression
  | lineExpression _ => .lineExpression
  | blockExpression _ => .blockExpression

/-- The number of the rule, 0 where rules are not numbered. -/
def index : StyleId → Nat
  | keyword i | expression i | lineExpression i | blockExpression i => i
  | _ => 0

/-- How a slot is written: `numbers`, `keywords[3]`. -/
def name (id : StyleId) : String :=
  if id.category.isIndexed then id.category.name ++ "[" ++ toString id.index ++ "]"
  else id.category.name

/-- Slots sort by category, then by number. -/
def le (a b : StyleId) : Bool :=
  a.category.rank < b.category.rank || (a.category.rank == b.category.rank && a.index ≤ b.index)

/-- The slots in order. -/
def sort (ids : List StyleId) : List StyleId := ids.mergeSort le

/-- A slot made for a category is one of that category, whatever its number. -/
@[simp] theorem category_ofCategory (c : Category) (i : Nat) : (ofCategory c i).category = c := by
  cases c <;> rfl

end StyleId

end Highlight
