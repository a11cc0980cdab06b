/-
  What can be wrong with a single rule of a grammar document.

  A rule with a problem is disabled or left out, and the rest of the document counts; the problems
  are listed beside the grammar.
-/
import Highlight.Grammar
import Highlight.Quoted

namespace Highlight

/-- Why a value is no pattern. -/
inductive PatternFault where
  /-- The text was refused. -/
  | refused (cause : PatternError)
  /-- The value is of another kind. -/
  | notAString (kind : String)
  /-- The value is no list of words. -/
  | notWords
  deriving DecidableEq, Repr

/-- A problem with one rule. -/
inductive RuleProblem where
  | invalidPattern (category : Category) (index : Nat) (pattern : String) (fault : PatternFault)
  | slotOutOfRange (category : Category) (slot : Int) (capacity : Nat)
  | invalidSlot (category : Category) (found : String)
  | incompleteBlock (category : Category) (index : Nat)
  | emptyRule (category : Category) (index : Nat)
  deriving DecidableEq, Repr

/-- The message of a fault. -/
def PatternFault.message : PatternFault → String
  | refused cause => cause.message
  | notAString kind => "expected a string, found " ++ kind
  | notWords => "expected a non-empty list of strings"

/-- The message of a problem. -/
def RuleProblem.message : RuleProblem → String
  | invalidPattern category index pattern fault =>
    category.name ++ " rule " ++ toString index ++ ": invalid pattern " ++ Quoted.quote pattern ++
      ": " ++ fault.message
  | slotOutOfRange category slot capacity =>
    category.name ++ " rule type " ++ toString slot ++ " out of range (capacity " ++
      toString capacity ++ ")"
  | invalidSlot category found =>
    category.name ++ " rule needs an integer type, found " ++ found
  | incompleteBlock category index =>
    category.name ++ " rule " ++ toString index ++ ": block needs both start and end"
  | emptyRule category index =>
    category.name ++ " rule " ++ toString index ++ ": needs a pattern or a word list"

end Highlight
