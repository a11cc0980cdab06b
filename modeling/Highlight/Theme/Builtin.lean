/-
  The built-in style sheet, which colours what the built-in grammars tell apart.
-/
import Highlight.Theme.Sheet

namespace Highlight.Sheet.Builtin

open Toml

/-- A declaration of a colour. -/
def colour (s : String) : Declaration := { color := some (.string s) }

/-- A declaration of a colour for a numbered slot. -/
def slot (i : Int) (s : String) : Declaration :=
  { slot := some (.integer i), color := some (.string s) }

/-- How comments look. -/
def comment : Declaration := { colour "#6a9955" with italic := some (.boolean true) }

/-- The name under which the sheet is filed. -/
def name : String := "default"

/-- The sheet.  The keyword slots hold the keywords of a language, its types, the keywords of an
    extension, and constants. -/
def sheet : Sheet :=
  [(.number, [colour "#b5cea8"]),
   (.lineComment, [comment]),
   (.blockComment, [comment]),
   (.quotation, [colour "#ce9178"]),
   (.escape, [colour "#d7ba7d"]),
   (.keyword,
    [{ slot 0 "#c586c0" with bold := some (.boolean true) }, slot 1 "#4ec9b0", slot 2 "#569cd6",
     slot 3 "#569cd6"]),
   (.expression, [slot 0 "#dcdcaa", slot 1 "#d4d4d4", slot 2 "#ce9178", slot 3 "#9cdcfe"]),
   (.lineExpression, [slot 0 "#c586c0"]),
   (.blockExpression, [slot 0 "#ce9178", slot 1 "#ce9178", slot 2 "#ce9178"])]

end Highlight.Sheet.Builtin
