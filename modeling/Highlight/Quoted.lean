/-
  Texts as they are quoted in messages: between double quotes, with everything that a reader could
  not see or could mistake written as an escape.

  `Quoted.escape` is the rule for one character; `Quoted.quote` applies it to a text.
-/
import Highlight.Unicode.Recent

namespace Highlight.Quoted

/-- Whether a character leaves no mark of its own on paper: controls, formatting, fillers,
    separators other than the plain space, and code points without a character. -/
def isInvisible (c : Char) : Bool :=
  c ≠ ' ' &&
    (Unicode.isOther c || Unicode.separator.contains c || Unicode.defaultIgnorable.contains c)

/-- Whether a character would merge with the one before it, here the quotation mark.  The halfwidth
    sound marks of Japanese are written as characters of their own. -/
def isMerging (c : Char) : Bool :=
  Unicode.isExtending c && c.toNat != 0xFF9E && c.toNat != 0xFF9F

/-- The digits of a number in base sixteen, small letters. -/
def hexDigits (n : Nat) : String := String.ofList (Nat.toDigits 16 n)

/-- How one character is written inside the quotes. -/
def escape (c : Char) : String :=
  if c = '"' then "\\\""
  else if c = '\\' then "\\\\"
  else if c = '\n' then "\\n"
  else if c = '\r' then "\\r"
  else if c = '\t' then "\\t"
  else if c.toNat = 0 then "\\0"
  else if 0x20 ≤ c.toNat && c.toNat < 0x7F then c.toString
  else if isMerging c || isInvisible c then
    "\\u\x7b" ++ hexDigits c.toNat ++ "\x7d"
  else c.toString

/-- A text between double quotes. -/
def quote (s : String) : String := "\"" ++ String.join (s.toList.map escape) ++ "\""

end Highlight.Quoted
