/-
  How the values of a document are written on one line.

  1. **Strings** — a string is written between double quotes if that needs no escapes, otherwise
     between apostrophes if that is possible, otherwise between three of either if that is possible.
     What no plain form can hold is written between double quotes with escapes.

  2. **Values** — `Value.inline` writes arrays and tables in place, the keys of a table in order.

  3. **Values by themselves** — `Value.text` is the same for values that are not part of others,
     but for dates and times: by itself such a value is written as a table with the single key
     `DateTime.key`.
-/
import Highlight.Toml.Literal

namespace Highlight.Toml

namespace Printer

/-! ## Strings -/

/-- The longest run of a character in a text; `run` is the length of the one that reaches up to the
    text. -/
def longestRunFrom (q : Char) (run : Nat) : List Char → Nat
  | [] => run
  | c :: cs => if c = q then longestRunFrom q (run + 1) cs else max run (longestRunFrom q 0 cs)

/-- The longest run of a character in a text. -/
def longestRun (q : Char) (cs : List Char) : Nat := longestRunFrom q 0 cs

/-- Whether a character can only be written as an escape. -/
def needsCode (c : Char) : Bool :=
  c ≠ '\t' && c ≠ '\n' && (c.toNat ≤ 0x1F || c.toNat = 0x7F)

/-- A hexadecimal digit, capital letters. -/
def hexDigit (n : Nat) : Char := if n < 10 then Char.ofNat (0x30 + n) else Char.ofNat (0x37 + n)

/-- The escape of a control character. -/
def controlCode (c : Char) : List Char :=
  if c.toNat = 0x08 then ['\\', 'b']
  else if c = '\t' then ['\\', 't']
  else if c = '\n' then ['\\', 'n']
  else if c.toNat = 0x0C then ['\\', 'f']
  else if c = '\r' then ['\\', 'r']
  else ['\\', 'u', '0', '0', hexDigit (c.toNat / 16), hexDigit (c.toNat % 16)]

/-- A text with escapes for whatever may not stand in a string with double quotes: control
    characters, backslashes, and every double quote behind `quotes` others.  Over several lines a
    line break stands for itself.  `run` counts the double quotes just before the text. -/
def escapeFrom (multiline : Bool) (quotes run : Nat) : List Char → List Char
  | [] => []
  | c :: cs =>
    if c = '"' then
      if run < quotes then '"' :: escapeFrom multiline quotes (run + 1) cs
      else '\\' :: '"' :: escapeFrom multiline quotes 0 cs
    else if c = '\\' then '\\' :: '\\' :: escapeFrom multiline quotes 0 cs
    else if (c = '\n' && multiline) || !(c = '\t' || c = '\n' || needsCode c) then
      c :: escapeFrom multiline quotes 0 cs
    else controlCode c ++ escapeFrom multiline quotes 0 cs

/-- A string between double quotes. -/
def basic (cs : List Char) : List Char := '"' :: escapeFrom false 0 0 cs ++ ['"']

/-- A string between apostrophes. -/
def literal (cs : List Char) : List Char := '\'' :: cs ++ ['\'']

/-- Three delimiters around a text; a text of several lines starts on a line of its own. -/
def triple (q : Char) (cs written : List Char) : List Char :=
  [q, q, q] ++ (if cs.contains '\n' then ['\n'] else []) ++ written ++ [q, q, q]

/-- A string between three double quotes. -/
def multilineBasic (cs : List Char) : List Char := triple '"' cs (escapeFrom true 2 0 cs)

/-- A string between three apostrophes. -/
def multilineLiteral (cs : List Char) : List Char := triple '\'' cs cs

/-- The first form that can hold a string without escapes, or else one with escapes. -/
def quote (cs : List Char) : List Char :=
  let codes := cs.any needsCode
  let lines := cs.contains '\n'
  let backslash := cs.contains '\\'
  if !codes && !backslash && !cs.contains '"' && !lines then basic cs
  else if !codes && !cs.contains '\'' && !lines then literal cs
  else if !codes && !backslash && longestRun '"' cs ≤ 2 then multilineBasic cs
  else if !codes && longestRun '\'' cs ≤ 2 then multilineLiteral cs
  else if lines then multilineBasic cs
  else basic cs

/-- A key: bare if it can be, otherwise a string on one line. -/
def key (cs : List Char) : List Char :=
  let codes := cs.any fun c => needsCode c || c = '\n'
  if !cs.isEmpty && cs.all Literal.isBareKey then cs
  else if !codes && !cs.contains '\\' && !cs.contains '"' then basic cs
  else if !codes && !cs.contains '\'' then literal cs
  else basic cs

/-! ## Values -/

/-- Insert a key with its text into a list that is ordered by keys. -/
def insertByKey (e : String × String) : List (String × String) → List (String × String)
  | [] => [e]
  | f :: rest => if e.1 < f.1 then e :: f :: rest else f :: insertByKey e rest

/-- The pairs of a table, in the order of the keys. -/
def sortByKey (es : List (String × String)) : List (String × String) := es.foldr insertByKey []

/-- A pair. -/
def pair (e : String × String) : String := String.ofList (key e.1.toList) ++ " = " ++ e.2

/-- A table of pairs. -/
def inlineTable (es : List (String × String)) : String :=
  if es.isEmpty then "\x7b\x7d"
  else "\x7b " ++ String.intercalate ", " ((sortByKey es).map pair) ++ " \x7d"

def string (s : String) : String := String.ofList (quote s.toList)

end Printer

namespace Value

mutual

/-- A value inside another one. -/
def inline : Value → String
  | .string s => Printer.string s
  | .integer n => toString n
  | .real x => x.text
  | .boolean b => if b then "true" else "false"
  | .dateTime d => d.text
  | .array vs => "[" ++ String.intercalate ", " (texts vs) ++ "]"
  | .table es => Printer.inlineTable (entryTexts es)

/-- The texts of the elements of an array. -/
def texts : List Value → List String
  | [] => []
  | v :: vs => inline v :: texts vs

/-- The texts of the entries of a table. -/
def entryTexts : List (String × Value) → List (String × String)
  | [] => []
  | e :: es => entryText e :: entryTexts es

/-- The text of an entry of a table. -/
def entryText : String × Value → String × String
  | (k, v) => (k, inline v)

end

/-- A value by itself. -/
def text : Value → String
  | .dateTime d => Printer.inlineTable [(DateTime.key, Printer.string d.text)]
  | v => v.inline

end Value

end Highlight.Toml
