/-
  Names of grammars and themes, and what is filed under them.

  Names that differ in letter case or in the blanks around them are the same name; `nameKey` is the
  form they share.  A `Source` is filed under a name as it was given, and read when it is needed.
-/
import Highlight.Text
import Highlight.Unicode.Case

namespace Highlight

/-- The form of a name under which documents are filed: no blanks around it, small letters. -/
def nameKey (name : String) : String := Unicode.lowercase (Text.trim name)

/-- What is filed under a name: a text that is still to be read, or what others are made of by
    reading them. -/
inductive Source (α : Type) where
  | text (text : String)
  | value (a : α)

end Highlight
