/-
  The slots of a grammar, by name.

  A grammar keeps its rules in fields and in numbered lists.  `Grammar.slot?` reads them all under
  the names that style slots have, so that what holds of every slot is said once: a slot holds a rule
  with one pattern or one with delimiters, and matches of `Slot.starts` are where it comes into play.
-/
import Highlight.Scan

namespace Highlight

/-- What stands in a slot. -/
inductive Slot where
  | rule (r : Rule)
  | block (r : BlockRule)
  deriving DecidableEq, Repr

namespace Slot

/-- The pattern that has to match for the slot to come into play; a disabled slot has none. -/
def starts : Slot → Option Pattern
  | rule r => r.pattern
  | block r => r.opening

def isEnabled (s : Slot) : Bool := s.starts.isSome

end Slot

namespace Grammar

/-- The slot of a name.  Plain text and escapes are no rules. -/
def slot? (g : Grammar) : StyleId → Option Slot
  | .plain | .escape => none
  | .number => some (.rule g.numbers)
  | .quotation => some (.block g.quotation)
  | .lineComment => some (.rule g.lineComment)
  | .blockComment => some (.block g.blockComment)
  | .keyword i => g.keywords[i]?.map .rule
  | .expression i => g.expressions[i]?.map .rule
  | .lineExpression i => g.lineExpressions[i]?.map .rule
  | .blockExpression i => g.blockExpressions[i]?.map .block

/-- The number of slots of a category. -/
def count (g : Grammar) : Category → Nat
  | .plain | .escape => 0
  | .number | .quotation | .lineComment | .blockComment => 1
  | .keyword => g.keywords.length
  | .expression => g.expressions.length
  | .lineExpression => g.lineExpressions.length
  | .blockExpression => g.blockExpressions.length

variable {g g' : Grammar}

/-- The slots of a category are numbered from 0 on. -/
theorem isSome_slot?_iff (g : Grammar) (id : StyleId) :
    (g.slot? id).isSome ↔ id.index < g.count id.category := by
  cases id <;> simp [slot?, count, StyleId.index, StyleId.category]

/-- Grammars with the same slot of this name have the same construct in it. -/
theorem blockExpressions_of_slot? {i : Nat}
    (h : g.slot? (.blockExpression i) = g'.slot? (.blockExpression i)) :
    g.blockExpressions[i]? = g'.blockExpressions[i]? :=
  Option.map_injective (fun _ _ => Slot.block.inj) h

/-- And the same rule, where the slot is one of a rule. -/
theorem lineExpressions_of_slot? {i : Nat}
    (h : g.slot? (.lineExpression i) = g'.slot? (.lineExpression i)) :
    g.lineExpressions[i]? = g'.lineExpressions[i]? :=
  Option.map_injective (fun _ _ => Slot.rule.inj) h

end Grammar

end Highlight
