/-
  Version 17 of the Unicode standard.

  The classes of patterns are those of version 16.  Texts are lowercased, named and quoted after
  version 17, which adds characters and changes the properties of hardly any older one; so every
  test below is the test of version 16 widened by what is new.
-/
import Highlight.Unicode.Property

namespace Highlight.Unicode

/-- The characters that version 17 adds. -/
def recentlyAdded : CharSet := .ofTable
  ["88f c5c cdc 1acf-1add 1ae0-1aeb 20c1 2b96 a7ce-a7cf a7d2-a7d4/2 a7f1 fbc3-fbd2 fd90-fd91",
   "fdc8-fdce 10940-10959 10ec5-10ec7 10ed0-10ed8 10efa-10efb 11b60-11b67 11db0-11ddb 11de0-11de9",
   "16ea0-16eb8 16ebb-16ed3 16ff2-16ff6 187f8-187ff 18d09-18d1e 18d80-18df2 1ccfa-1ccfc",
   "1ceba-1ced0 1cee0-1cef0 1e6c0-1e6de 1e6e0-1e6f5 1e6fe-1e6ff 1f6d8 1f777-1f77a 1f8d0-1f8d8",
   "1fa54-1fa57 1fa8a 1fa8e 1fac8 1facd 1faea 1faef 1fbfa 2b73a-2b73f 2cea2-2cead 323b0-33479"]

/-- The letters among them. -/
def recentLetters : CharSet := .ofTable
  ["88f c5c cdc a7ce-a7cf a7d2-a7d4/2 a7f1 10940-10959 10ec5-10ec7 10efa-10efb 11b60-11b67",
   "11db0-11ddb 16ea0-16eb8 16ebb-16ed3 16ff2-16ff6 187f8-187ff 18d09-18d1e 18d80-18df2",
   "1e6c0-1e6de 1e6e0-1e6f5 1e6fe-1e6ff 2b73a-2b73f 2cea2-2cead 323b0-33479"]

/-- The digits among them. -/
def recentNumbers : CharSet := .ofTable ["11de0-11de9 16ff4-16ff6"]

/-- The characters among them that have a case. -/
def recentCased : CharSet := .ofTable ["a7ce-a7cf a7d2-a7d4/2 a7f1 16ea0-16eb8 16ebb-16ed3"]

/-- The characters among them that do not matter when the case of their surroundings is judged. -/
def recentCaseIgnorable : CharSet := .ofTable
  ["1acf-1add 1ae0-1aeb a7f1 10ec5 10efa-10efb 11b60 11b62-11b64 11b66 11dd9 16ff2-16ff3 1e6e3",
   "1e6e6 1e6ee-1e6ef 1e6f5 1e6ff"]

/-- The characters among them that extend the one before them. -/
def recentExtend : CharSet := .ofTable
  ["1acf-1add 1ae0-1aeb 10efa-10efb 11b60 11b62-11b64 11b66 1e6e3 1e6e6 1e6ee-1e6ef 1e6f5"]

/-- Letters, and what counts as a letter. -/
def isAlphabetic (c : Char) : Bool := alphabetic.contains c || recentLetters.contains c

/-- Letters and digits of every script. -/
def isAlphanumeric (c : Char) : Bool :=
  isAlphabetic c || number.contains c || recentNumbers.contains c

/-- Characters that have a case.  The pharyngeal fricative has lost it. -/
def isCased (c : Char) : Bool :=
  (cased.contains c && c.toNat != 0x295) || recentCased.contains c

/-- Characters that do not matter when the case of their surroundings is judged. -/
def isCaseIgnorable (c : Char) : Bool := caseIgnorable.contains c || recentCaseIgnorable.contains c

/-- Characters that extend the one before them. -/
def isExtending (c : Char) : Bool := graphemeExtend.contains c || recentExtend.contains c

/-- Characters without a shape: controls, formatting, private use, and what is not assigned. -/
def isOther (c : Char) : Bool := other.contains c && !recentlyAdded.contains c

end Highlight.Unicode
