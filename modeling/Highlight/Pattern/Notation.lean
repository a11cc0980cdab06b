/-
  The notation of patterns, part one: what pieces of it stand for.

  1. **Flags** — `(?i)` and its kind change how the rest of a group is read.

  2. **Characters and classes** — `Flags.character` is the expression for a literal character;
     the classes `\d`, `\s`, `\w`, `[:alpha:]` and `\p{…}` are sets.  Without the Unicode flag every
     class is held to ASCII, and a class that would reach beyond it is refused (`notUtf8`), as it
     could match a part of a character.

  3. **Nodes** — a `Node` is an expression together with the height of its syntax tree, which is
     limited; `Node.sequence` and `Node.alternatives` put nodes together.
-/
import Highlight.Pattern.Compose
import Highlight.Unicode.Age
import Highlight.Unicode.Case
import Highlight.Unicode.Segmentation

namespace Highlight

/-- Why a text is no pattern. -/
inductive PatternError where
  | unclosedGroup
  | unopenedGroup
  | unclosedClass
  | badClass
  | nothingToRepeat
  | badCount
  | badEscape
  | badFlags
  | badGroupName
  | unsupported
  | unknownProperty
  | notUtf8
  | tooDeep
  | tooLarge
  deriving DecidableEq, Repr

/-- The message of an error. -/
def PatternError.message : PatternError → String
  | unclosedGroup => "a group is not closed"
  | unopenedGroup => "a group is closed that was not opened"
  | unclosedClass => "a character class is not closed"
  | badClass => "a character class holds something else than characters"
  | nothingToRepeat => "there is nothing to repeat"
  | badCount => "a repetition count is malformed"
  | badEscape => "an escape is malformed"
  | badFlags => "the flags are malformed"
  | badGroupName => "a group name is malformed or used twice"
  | unsupported => "look-around and back-references are not supported"
  | unknownProperty => "a character property is not known"
  | notUtf8 => "a part could match something else than whole characters"
  | tooDeep => "the nesting is too deep"
  | tooLarge => "the compiled pattern is too large"

namespace Notation

/-- How patterns are read. -/
structure Flags where
  caseless : Bool := false
  multiLine : Bool := false
  dotAll : Bool := false
  lazyFirst : Bool := false
  unicode : Bool := true
  verbose : Bool := false
  returns : Bool := false
  deriving DecidableEq, Repr, Inhabited

/-! ## Classes -/

/-- The set of the ASCII characters `s` consists of. -/
def asciiDigit : CharSet := .range 0x30 0x39

def asciiSpace : CharSet := .ofRanges [(0x09, 0x0D), (0x20, 0x20)]

def asciiWord : CharSet := .ofRanges [(0x30, 0x39), (0x41, 0x5A), (0x5F, 0x5F), (0x61, 0x7A)]

/-- The classes that are named between `[:` and `:]`. -/
def posixClass? : String → Option CharSet
  | "alnum" => some (.ofRanges [(0x30, 0x39), (0x41, 0x5A), (0x61, 0x7A)])
  | "alpha" => some (.ofRanges [(0x41, 0x5A), (0x61, 0x7A)])
  | "ascii" => some (.range 0x00 0x7F)
  | "blank" => some (.ofRanges [(0x09, 0x09), (0x20, 0x20)])
  | "cntrl" => some (.ofRanges [(0x00, 0x1F), (0x7F, 0x7F)])
  | "digit" => some asciiDigit
  | "graph" => some (.range 0x21 0x7E)
  | "lower" => some (.range 0x61 0x7A)
  | "print" => some (.range 0x20 0x7E)
  | "punct" => some (.ofRanges [(0x21, 0x2F), (0x3A, 0x40), (0x5B, 0x60), (0x7B, 0x7E)])
  | "space" => some asciiSpace
  | "upper" => some (.range 0x41 0x5A)
  | "word" => some asciiWord
  | "xdigit" => some (.ofRanges [(0x30, 0x39), (0x41, 0x46), (0x61, 0x66)])
  | _ => none

/-- A property name in the form the tables know: no spaces, hyphens and underscores, no characters
    beyond ASCII, lower case, and without an `is` in front. -/
def propertyKey (name : List Char) : String :=
  let (hasIs, body) := match name with
    | i :: s :: rest => if i.toLower = 'i' ∧ s.toLower = 's' then (true, rest) else (false, name)
    | _ => (false, name)
  let key := (body.filter fun c => c.toNat < 0x80 && c != ' ' && c != '-' && c != '_').map Char.toLower
  if hasIs && key = ['c'] then "isc" else String.ofList key

/-- The set behind the text between the braces of `\p{…}`, and whether it is negated there. -/
def property? (text : List Char) : Option (CharSet × Bool) :=
  let split (sep : List Char) : Option (List Char × List Char) :=
    (List.range text.length).findSome? fun i =>
      if (text.drop i).take sep.length = sep then some (text.take i, text.drop (i + sep.length)) else none
  let valued (name value : List Char) : Option CharSet :=
    match propertyKey name with
    | "gc" | "generalcategory" => Unicode.generalCategory? (propertyKey value)
    | "sc" | "script" => Unicode.script? (propertyKey value)
    | "scx" | "scriptextensions" => Unicode.scriptExtensions? (propertyKey value)
    | "age" => Unicode.age? (propertyKey value)
    | "gcb" | "graphemeclusterbreak" => Unicode.clusterBreak? (propertyKey value)
    | "wb" | "wordbreak" => Unicode.wordBreak? (propertyKey value)
    | "sb" | "sentencebreak" => Unicode.sentenceBreak? (propertyKey value)
    | _ => none
  match split ['!', '='] with
  | some (name, value) => (valued name value).map (·, true)
  | none =>
    match (split [':']).orElse (fun _ => split ['=']) with
    | some (name, value) => (valued name value).map (·, false)
    | none =>
      let key := propertyKey text
      ((Unicode.property? key).orElse fun _ =>
        (Unicode.generalCategory? key).orElse fun _ => Unicode.script? key).map (·, false)

/-! ## Sets under flags -/

/-- Close a set under changes of case, if the flags ask for it. -/
def Flags.fold (fl : Flags) (s : CharSet) : CharSet :=
  if fl.caseless then
    if fl.unicode then Unicode.foldClosure s else Unicode.asciiFoldClosure s
  else s

/-- The set, or its complement.  Without the Unicode flag only ASCII sets are whole characters. -/
def Flags.negateIf (fl : Flags) (negated : Bool) (s : CharSet) : Except PatternError CharSet :=
  if fl.unicode then .ok (if negated then s.complement else s)
  else if negated || !s.isAscii then .error .notUtf8
  else .ok s

/-- One of the classes `\d`, `\s` and `\w`, named by its small letter. -/
def Flags.letterClass (fl : Flags) (letter : Char) (negated : Bool) : Except PatternError CharSet :=
  let set :=
    if letter = 'd' then if fl.unicode then Unicode.decimalNumber else asciiDigit
    else if letter = 's' then if fl.unicode then Unicode.whiteSpace else asciiSpace
    else if fl.unicode then Unicode.word else asciiWord
  fl.negateIf negated set

/-- The expression for a literal character; `fromByte` tells that it was written as the two digits
    of a byte. -/
def Flags.character (fl : Flags) (c : Char) (fromByte : Bool) : Except PatternError Regex :=
  if !fl.unicode && fromByte && 0x7F < c.toNat then .error .notUtf8
  else .ok (.set (fl.fold (.singleton c)))

/-- The expression for the dot. -/
def Flags.dot (fl : Flags) : Except PatternError Regex :=
  if !fl.unicode then .error .notUtf8
  else if fl.dotAll then .ok (.set .all)
  else if fl.returns then .ok (.set (CharSet.complement (.ofRanges [(0x0A, 0x0A), (0x0D, 0x0D)])))
  else .ok (.set (CharSet.complement (.singleton '\n')))

/-- The assertion of `^`. -/
def Flags.caret (fl : Flags) : Look :=
  if fl.multiLine then if fl.returns then .returnLineStart else .lineStart else .textStart

/-- The assertion of `$`. -/
def Flags.dollar (fl : Flags) : Look :=
  if fl.multiLine then if fl.returns then .returnLineEnd else .lineEnd else .textEnd

/-! ## Nodes -/

/-- An expression and the height of the syntax tree it was read from. -/
structure Node where
  regex : Regex
  height : Nat
  deriving Repr, Inhabited

/-- The greatest height a syntax tree may have. -/
def heightLimit : Nat := 250

/-- The greatest height among some nodes. -/
def Node.maxHeight (nodes : List Node) : Nat := nodes.foldl (fun h n => max h n.height) 0

/-- Several nodes one after the other are one level higher; a single node stays as it is. -/
def Node.sequence : List Node → Node
  | [n] => n
  | ns => ⟨.concat (ns.map Node.regex), if ns.isEmpty then 0 else 1 + maxHeight ns⟩

/-- Several nodes as alternatives are one level higher; a single node stays as it is. -/
def Node.alternatives : List Node → Node
  | [n] => n
  | ns => ⟨.choice (ns.map Node.regex), 1 + maxHeight ns⟩

/-- A node that is repeated. -/
def Node.repeat (n : Node) (min : Nat) (max : Option Nat) (greedy : Bool) : Node :=
  ⟨.repeated n.regex min max greedy, 1 + n.height⟩

end Notation

end Highlight
