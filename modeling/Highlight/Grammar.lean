/-
  Grammars: one language's rules, one slot per category or, for the indexed categories, as many
  slots as the configuration allows.

  `Grammar.plain` has every slot disabled but two: whole numbers, and quotations between double
  quotes, in which a backslash hides the next character.
-/
import Highlight.Rule
import Highlight.Unicode.Case

namespace Highlight

/-- The number of rule slots of each indexed category. -/
structure Limits where
  keywords : Nat := 8
  expressions : Nat := 7
  lineExpressions : Nat := 6
  blockExpressions : Nat := 6
  deriving DecidableEq, Repr, Inhabited

namespace Limits

/-- The number of slots of a category; the categories without numbers have one. -/
def capacity (limits : Limits) : Category → Nat
  | .keyword => limits.keywords
  | .expression => limits.expressions
  | .lineExpression => limits.lineExpressions
  | .blockExpression => limits.blockExpressions
  | _ => 1

end Limits

/-- A language's rules. -/
structure Grammar where
  name : String
  parent : Option String
  style : Option String
  extensions : List String
  numbers : Rule
  quotation : BlockRule
  lineComment : Rule
  blockComment : BlockRule
  keywords : List Rule
  expressions : List Rule
  lineExpressions : List Rule
  blockExpressions : List BlockRule
  deriving DecidableEq, Repr, Inhabited

namespace Grammar

/-- A pattern for whole numbers. -/
def defaultNumbers : String := "\\b\\d+\\b"

/-- The delimiter of quotations. -/
def defaultQuote : String := "\""

/-- The escape of quotations: a backslash and the character it hides. -/
def defaultEscape : String := "\\\\(.?)"

/-- The rule, or a disabled one if its pattern is refused. -/
def ruleOr (style : StyleId) : Except PatternError Rule → Rule
  | .ok r => r
  | .error _ => .disabled style

/-- The rule, or a disabled one if one of its patterns is refused. -/
def blockRuleOr (style : StyleId) : Except PatternError BlockRule → BlockRule
  | .ok r => r
  | .error _ => .disabled style

/-- Disabled slots of an indexed category. -/
def emptySlots (category : Category) (n : Nat) : List Rule :=
  (List.range n).map fun i => .disabled (.ofCategory category i)

/-- The grammar that a definition starts from. -/
def plain (name : String) (limits : Limits) : Grammar where
  name := name
  parent := none
  style := none
  extensions := []
  numbers := ruleOr .number (Rule.compile defaultNumbers .number)
  quotation :=
    blockRuleOr .quotation (BlockRule.compile defaultQuote defaultQuote (some defaultEscape) .quotation)
  lineComment := .disabled .lineComment
  blockComment := .disabled .blockComment
  keywords := emptySlots .keyword limits.keywords
  expressions := emptySlots .expression limits.expressions
  lineExpressions := emptySlots .lineExpression limits.lineExpressions
  blockExpressions := (List.range limits.blockExpressions).map fun i => .disabled (.blockExpression i)

/-- The slots of an indexed category whose rules have one pattern. -/
def slots? (g : Grammar) : Category → Option (List Rule)
  | .keyword => some g.keywords
  | .expression => some g.expressions
  | .lineExpression => some g.lineExpressions
  | _ => none

/-- Replace one slot of an indexed category; nothing happens where there is no such slot. -/
def setSlot (g : Grammar) (category : Category) (i : Nat) (r : Rule) : Grammar :=
  match category with
  | .keyword => { g with keywords := g.keywords.set i r }
  | .expression => { g with expressions := g.expressions.set i r }
  | .lineExpression => { g with lineExpressions := g.lineExpressions.set i r }
  | _ => g

/-- Replace one slot of the block expressions. -/
def setBlock (g : Grammar) (i : Nat) (r : BlockRule) : Grammar :=
  { g with blockExpressions := g.blockExpressions.set i r }

/-- The block expression of a slot, if there is one and it is enabled. -/
def blockExpression? (g : Grammar) (i : Nat) : Option BlockRule :=
  g.blockExpressions[i]?.filter (·.isEnabled)

/-- Whether two texts are equal but for the case of ASCII letters. -/
def sameButAsciiCase (a b : String) : Bool := a.toList.map Char.toLower = b.toList.map Char.toLower

/-- Whether the language claims a file name extension. -/
def handles (g : Grammar) (extension : String) : Bool := g.extensions.any (sameButAsciiCase · extension)

end Grammar

end Highlight
