/-
  Where text may be divided, after the Unicode standard, version 16: the classes of characters by
  which user-perceived characters, words and sentences are told apart.

  The standard defines each class by a rule over other properties, with some characters added and
  some taken out; the definitions below are these rules.  `clusterBreak?`, `wordBreak?` and
  `sentenceBreak?` find a class by name.
-/
import Highlight.Unicode.Property
import Highlight.Unicode.Script

namespace Highlight.Unicode

/-- The members of a set that belong to none of the others. -/
def less (s : CharSet) (others : List CharSet) : CharSet := s.diff (unions others)

def carriageReturn : CharSet := .singleton '\r'

def lineFeed : CharSet := .singleton '\n'

def nonJoiner : CharSet := .range 0x200C 0x200C

def joiner : CharSet := .range 0x200D 0x200D

/-! ## User-perceived characters -/

/-- What extends the character before it, skin tones included. -/
def clusterExtend : CharSet := graphemeExtend.union emojiModifier

/-- Characters that end one perceived character and begin another: controls, invisible format
    characters, and reserved code points that will be ignored. -/
def clusterControl : CharSet :=
  less (unions [lineSeparator, paragraphSeparator, control, format,
      unassigned.inter defaultIgnorable])
    [carriageReturn, lineFeed, nonJoiner, joiner, prependedConcatenationMark, clusterExtend]

/-- Characters that belong to the one after them. -/
def clusterPrepend : CharSet :=
  prependedConcatenationMark.union (.ofTable
    ["d4e 111c2-111c3 113d1 1193f-11941/2 11a3a 11a84-11a89 11d46 11f02"])

/-- Marks that take room and belong to the character before them. -/
def clusterSpacingMark : CharSet :=
  less (spacingMark.union (.ofTable ["e33 eb3"]))
    [clusterExtend, clusterPrepend, .ofTable
      ["102b-102c 1038 1062-1064 1067-106d 1083 1087-108c 108f 109a-109c 1a61 1a63-1a64 aa7b aa7d",
       "11720-11721"]]

/-- Leading parts of Korean syllables. -/
def leadingJamo : CharSet := .ofTable ["1100-115f a960-a97c"]

/-- Vowels of Korean syllables, and the vowels that combine like them. -/
def vowelJamo : CharSet := .ofTable ["1160-11a7 d7b0-d7c6 16d63 16d67-16d6a"]

/-- Trailing parts of Korean syllables. -/
def trailingJamo : CharSet := .ofTable ["11a8-11ff d7cb-d7fb"]

/-- The Korean syllables. -/
def hangulSyllable : CharSet := .range 0xAC00 0xD7A3

/-- Korean syllables without a trailing part: every twenty-eighth one. -/
def openSyllable : CharSet :=
  ⟨(List.range 399).map fun i => (0xAC00 + 28 * i, 0xAC00 + 28 * i)⟩

/-- Korean syllables with a trailing part. -/
def closedSyllable : CharSet :=
  ⟨(List.range 399).map fun i => (0xAC01 + 28 * i, 0xAC1B + 28 * i)⟩

/-- The class of perceived characters with the given name; the name is in lower case and without
    spaces, hyphens and underscores. -/
def clusterBreak? (name : String) : Option CharSet :=
  match name with
  | "cn" | "control" => some clusterControl
  | "cr" => some carriageReturn
  | "ex" | "extend" => some clusterExtend
  | "l" => some leadingJamo
  | "lf" => some lineFeed
  | "lv" => some openSyllable
  | "lvt" => some closedSyllable
  | "pp" | "prepend" => some clusterPrepend
  | "ri" | "regionalindicator" => some regionalIndicator
  | "sm" | "spacingmark" => some clusterSpacingMark
  | "t" => some trailingJamo
  | "v" => some vowelJamo
  | "zwj" => some joiner
  | _ => none

/-! ## Words -/

/-- Signs before digits that count as digits themselves. -/
def numberSign : CharSet := .ofTable ["600-605 6dd 890-891 8e2 110bd 110cd"]

/-- What extends the character before it inside a word. -/
def wordExtend : CharSet := less (unions [graphemeExtend, spacingMark, emojiModifier]) [joiner]

def wordFormat : CharSet :=
  less format [.range 0x200B 0x200D, prependedConcatenationMark, graphemeExtend]

def wordKatakana : CharSet :=
  katakanaScript.union (.ofTable ["3031-3035 309b-309c 30a0 30fc ff70"])

def wordHebrewLetter : CharSet := hebrewScript.inter otherLetter

/-- Letters of scripts that put no spaces between words. -/
def wordContext : CharSet := .ofTable
  ["e01-e30 e32-e33 e40-e46 e81-e82 e84 e86-e8a e8c-ea3 ea5 ea7-eb0 eb2-eb3 ebd ec0-ec4 ec6",
   "edc-edf 1000-102a 103f 1050-1055 105a-105d 1061 1065-1066 106e-1070 1075-1081 108e 1780-17b3",
   "17d7 17dc 1950-196d 1970-1974 1980-19ab 19b0-19c9 1a20-1a54 1aa7 a9e0-a9e4 a9e6-a9ef",
   "a9fa-a9fe aa60-aa76 aa7a aa7e-aaaf aab1 aab5-aab6 aab9-aabd aac0 aac2 aadb-aadd 11700-1171a",
   "11740-11746"]

/-- Symbols that are used like letters. -/
def wordLetterSymbol : CharSet := .ofTable
  ["2c2-2c5 2d2-2d7 2de-2df 2e5-2eb 2ed 2ef-2ff 55a-55c 55e 58a 5f3 70f a708-a716 a720-a721",
   "a789-a78a ab5b"]

/-- Letters that need no other rule. -/
def wordLetter : CharSet :=
  (less alphabetic
    [ideographic, wordKatakana, hiraganaScript, wordExtend, wordHebrewLetter, wordContext]).union
    wordLetterSymbol

def wordNumeric : CharSet := unions [decimalNumber, numberSign, .ofTable ["66b 19da"]]

/-- The class of words with the given name; the name is in lower case and without spaces, hyphens
    and underscores. -/
def wordBreak? (name : String) : Option CharSet :=
  match name with
  | "le" | "aletter" => some wordLetter
  | "cr" => some carriageReturn
  | "dq" | "doublequote" => some (.singleton '"')
  | "extend" => some wordExtend
  | "ex" | "extendnumlet" => some (.ofTable ["5f 202f 203f-2040 2054 fe33-fe34 fe4d-fe4f ff3f"])
  | "fo" | "format" => some wordFormat
  | "hl" | "hebrewletter" => some wordHebrewLetter
  | "ka" | "katakana" => some wordKatakana
  | "lf" => some lineFeed
  | "ml" | "midletter" => some (.ofTable ["3a b7 387 55f 5f4 2027 fe13 fe55 ff1a"])
  | "mn" | "midnum" => some (.ofTable ["2c 3b 37e 589 60c-60d 66c 7f8 2044 fe50 fe54 ff0c ff1b"])
  | "mb" | "midnumlet" => some (.ofTable ["2e 2018-2019 2024 fe52 ff07 ff0e"])
  | "nl" | "newline" => some (.ofTable ["b-c 85 2028-2029"])
  | "nu" | "numeric" => some wordNumeric
  | "ri" | "regionalindicator" => some regionalIndicator
  | "sq" | "singlequote" => some (.singleton '\'')
  | "wsegspace" => some (.ofTable ["20 1680 2000-2006 2008-200a 205f 3000"])
  | "zwj" => some joiner
  | _ => none

/-! ## Sentences -/

/-- Marks of abbreviation, which may end a sentence. -/
def sentenceATerm : CharSet := .ofTable ["2e 2024 fe52 ff0e"]

/-- Brackets and quotation marks, which may follow the end of a sentence. -/
def sentenceClose : CharSet :=
  less (unions [openPunctuation, closePunctuation, initialPunctuation, finalPunctuation,
      quotationMark, .ofTable ["275b-2760 2e00-2e01 2e06-2e08 2e0b 1f676-1f678"]])
    [.ofTable ["ff02 ff07"]]

def sentenceExtend : CharSet := unions [graphemeExtend, spacingMark, joiner]

def sentenceFormat : CharSet := less format [.range 0x200C 0x200D, numberSign, graphemeExtend]

/-- Lowercase characters; Georgian is written without capitals. -/
def sentenceLower : CharSet := less lowercaseSet [.ofTable ["345 10d0-10fa 10fd-10ff"]]

/-- Uppercase characters, but for the titling letters of Georgian. -/
def sentenceUpper : CharSet :=
  less (uppercaseSet.union titlecaseLetter) [.ofTable ["1c90-1cba 1cbd-1cbf"]]

/-- Letters that are neither lowercase nor uppercase. -/
def sentenceOtherLetter : CharSet :=
  (less alphabetic [sentenceLower, sentenceUpper, sentenceExtend]).union (.range 0x5F3 0x5F3)

/-- The class of sentences with the given name; the name is in lower case and without spaces,
    hyphens and underscores. -/
def sentenceBreak? (name : String) : Option CharSet :=
  match name with
  | "at" | "aterm" => some sentenceATerm
  | "cr" => some carriageReturn
  | "cl" | "close" => some sentenceClose
  | "ex" | "extend" => some sentenceExtend
  | "fo" | "format" => some sentenceFormat
  | "lf" => some lineFeed
  | "lo" | "lower" => some sentenceLower
  | "nu" | "numeric" => some (wordNumeric.union (.range 0x66C 0x66C))
  | "le" | "oletter" => some sentenceOtherLetter
  | "sc" | "scontinue" => some (.ofTable
      ["2c-2d 3a-3b 37e 55d 60c-60d 7f8 1802 1808 2013-2014 3001 fe10-fe11 fe13-fe14 fe31-fe32",
       "fe50-fe51 fe54-fe55 fe58 fe63 ff0c-ff0d ff1a-ff1b ff64"])
  | "st" | "sterm" => some (less sentenceTerminal [sentenceATerm])
  | "se" | "sep" => some (.ofTable ["85 2028-2029"])
  | "sp" => some (.ofTable ["9 b-c 20 a0 1680 2000-200a 202f 205f 3000"])
  | "up" | "upper" => some sentenceUpper
  | _ => none

end Highlight.Unicode
