/-
  The notation of patterns, part two: reading it.

  1. **Lexical level** — `blanks` skips white space and comments where the verbose flag is on;
     `count` reads the number of a repetition; `escape` reads what follows a backslash.

  2. **Classes** — `classOpen` and `classItems` read a bracketed class.  A class is a union of
     items; `&&`, `--` and `~~` combine the unions to their sides from left to right.  Case is
     folded before anything is combined or negated.

  3. **Expressions** — `branches` reads alternatives up to the end of the group it stands in.  The
     pieces of the alternative being read are kept last one first, since a repetition applies to
     the piece just read.

  The fuel of `classItems` and `branches` is the length of what they read: every step reads at least
  one character.
-/
import Highlight.Pattern.Notation

namespace Highlight.Notation

/-! ## The lexical level -/

/-- Skip white space, and comments from `#` to the end of the line. -/
def skipBlanks (inComment : Bool) : List Char → List Char
  | [] => []
  | c :: cs =>
    if inComment then skipBlanks (c != '\n') cs
    else if Unicode.isBlank c then skipBlanks false cs
    else if c = '#' then skipBlanks true cs
    else c :: cs

/-- Skip what the verbose flag makes meaningless. -/
def blanks (fl : Flags) (cs : List Char) : List Char :=
  if fl.verbose then skipBlanks false cs else cs

/-- Collect the characters at the beginning that `keep` accepts, with blanks between them. -/
def collect (fl : Flags) (keep : Char → Bool) : (fuel : Nat) → List Char → List Char × List Char
  | 0, cs => ([], cs)
  | _ + 1, [] => ([], [])
  | fuel + 1, c :: cs =>
    if keep c then
      let (taken, rest) := collect fl keep fuel (blanks fl cs)
      (c :: taken, rest)
    else ([], c :: cs)

/-- The value of decimal digits. -/
def decimal (ds : List Char) : Nat := ds.foldl (fun n d => 10 * n + (d.toNat - 0x30)) 0

def isDecimal (c : Char) : Bool := '0' ≤ c && c ≤ '9'

/-- The greatest repetition count. -/
def countLimit : Nat := Nat.pow 2 32

/-- Read a repetition count, which may stand between white space. -/
def count (fl : Flags) (cs : List Char) : Except PatternError (Nat × List Char) :=
  let (ds, rest) := collect fl isDecimal cs.length (cs.dropWhile Unicode.isBlank)
  let n := decimal ds
  if ds.isEmpty || countLimit ≤ n then .error .badCount
  else .ok (n, blanks fl (rest.dropWhile Unicode.isBlank))

/-- Read the rest of a counted repetition, after its brace: the least and the greatest number of
    rounds. -/
def counts (fl : Flags) (cs : List Char) : Except PatternError (Nat × Option Nat × List Char) := do
  let (min, rest) ← count fl (blanks fl cs)
  match rest with
  | '}' :: rest => return (min, some min, rest)
  | ',' :: rest =>
    match blanks fl rest with
    | '}' :: rest => return (min, none, rest)
    | rest =>
      let (max, rest) ← count fl rest
      match rest with
      | '}' :: rest => if min ≤ max then return (min, some max, rest) else throw .badCount
      | _ => throw .badCount
  | _ => throw .badCount

/-! ## Escapes -/

/-- What an escape stands for. -/
inductive Escaped where
  | char (c : Char) (fromByte : Bool)
  | look (l : Look)
  | set (s : CharSet)

/-- Characters with a meaning in the notation; a backslash takes it away. -/
def isMeta (c : Char) : Bool :=
  ['\\', '.', '+', '*', '?', '(', ')', '|', '[', ']', '{', '}', '^', '$', '#', '&', '-', '~'].contains c

/-- Characters that may be escaped without need: the other ASCII characters but letters, digits and
    angle brackets. -/
def isEscapable (c : Char) : Bool :=
  isMeta c || (c.toNat < 0x80 && !c.isAlphanum && c != '<' && c != '>')

/-- The character of a code point. -/
def charOfCode? (n : Nat) : Option Char := if h : n.isValidChar then some (Char.ofNatAux n h) else none

/-- The value of hexadecimal digits. -/
def hexValue? (ds : List Char) : Option Nat :=
  (ds.mapM CharSet.hexDigit?).map (fun vs => vs.foldl (fun n v => 16 * n + v) 0)

/-- Read exactly `n` hexadecimal digits, blanks between them. -/
def hexDigits (fl : Flags) : (n : Nat) → List Char → Except PatternError (List Char × List Char)
  | 0, cs => .ok ([], cs)
  | _ + 1, [] => .error .badEscape
  | n + 1, c :: cs =>
    if (CharSet.hexDigit? c).isSome then do
      let (ds, rest) ← hexDigits fl n (blanks fl cs)
      return (c :: ds, rest)
    else .error .badEscape

/-- Read a character given by its code point, after the letter that tells how many digits it has. -/
def hexEscape (fl : Flags) (digits : Nat) (cs : List Char) : Except PatternError (Escaped × List Char) := do
  let (ds, rest) ← (match blanks fl cs with
    | '{' :: cs =>
      let (ds, rest) := collect fl (· != '}') cs.length (blanks fl cs)
      match rest with
      | _ :: rest => if ds.isEmpty then throw .badEscape else return (ds, blanks fl rest)
      | [] => throw .badEscape
    | cs => hexDigits fl digits cs : Except PatternError (List Char × List Char))
  let braced := (blanks fl cs).head? == some '{'
  match (hexValue? ds).bind charOfCode? with
  | some c => return (.char c (digits == 2 && !braced), rest)
  | none => throw .badEscape

/-- Read a class given by a property, after `\p` or `\P`. -/
def propertyEscape (fl : Flags) (negated : Bool) (cs : List Char) :
    Except PatternError (Escaped × List Char) := do
  let (name, rest) ← (match blanks fl cs with
    | [] => throw .badEscape
    | '{' :: cs =>
      let (name, rest) := collect fl (· != '}') cs.length (blanks fl cs)
      match rest with
      | _ :: rest => return (name, rest)
      | [] => throw .badEscape
    | '\\' :: _ => throw .badEscape
    | c :: cs => return ([c], blanks fl cs) : Except PatternError (List Char × List Char))
  if !fl.unicode then throw .notUtf8
  match property? name with
  | some (set, inverted) =>
    let set ← fl.negateIf (negated != inverted) (fl.fold set)
    return (.set set, rest)
  | none => throw .unknownProperty

/-- Read what may follow `\b` in braces: the name of a special assertion.  Nothing is read if it
    does not look like a name, as it may be a repetition count. -/
def wordEscape (fl : Flags) (cs : List Char) : Except PatternError (Escaped × List Char) :=
  let side (s : WordSide) : Escaped := .look (.word s fl.unicode)
  let nameChar (c : Char) : Bool := c.isAlpha || c == '-'
  match cs with
  | '{' :: inner =>
    match blanks fl inner with
    | [] => .error .badEscape
    | c :: more =>
      if !nameChar c then .ok (side .boundary, cs)
      else
        match collect fl nameChar (more.length + 1) (c :: more) with
        | (name, '}' :: rest) =>
          match String.ofList name with
          | "start" => .ok (side .start, rest)
          | "end" => .ok (side .stop, rest)
          | "start-half" => .ok (side .startHalf, rest)
          | "end-half" => .ok (side .stopHalf, rest)
          | _ => .error .badEscape
        | _ => .error .badEscape
  | _ => .ok (side .boundary, cs)

/-- Read an escape, after its backslash. -/
def escape (fl : Flags) : List Char → Except PatternError (Escaped × List Char)
  | [] => .error .badEscape
  | c :: cs =>
    let literal (n : Nat) : Except PatternError (Escaped × List Char) :=
      .ok (.char (Char.ofNat n) false, cs)
    if isDecimal c then .error .unsupported
    else if c = 'x' then hexEscape fl 2 cs
    else if c = 'u' then hexEscape fl 4 cs
    else if c = 'U' then hexEscape fl 8 cs
    else if c = 'p' || c = 'P' then propertyEscape fl (c = 'P') cs
    else if c = 'd' || c = 's' || c = 'w' then
      (fl.letterClass c false).map fun s => (.set s, cs)
    else if c = 'D' || c = 'S' || c = 'W' then
      (fl.letterClass c.toLower true).map fun s => (.set s, cs)
    else if isEscapable c then .ok (.char c false, cs)
    else if c = 'a' then literal 0x07
    else if c = 'f' then literal 0x0C
    else if c = 't' then literal 0x09
    else if c = 'n' then literal 0x0A
    else if c = 'r' then literal 0x0D
    else if c = 'v' then literal 0x0B
    else if c = 'A' then .ok (.look .textStart, cs)
    else if c = 'z' then .ok (.look .textEnd, cs)
    else if c = 'b' then wordEscape fl cs
    else if c = 'B' then .ok (.look (.word .interior fl.unicode), cs)
    else if c = '<' then .ok (.look (.word .start fl.unicode), cs)
    else if c = '>' then .ok (.look (.word .stop fl.unicode), cs)
    else .error .badEscape

/-! ## Classes -/

/-- The operators between the parts of a class. -/
inductive ClassOp where
  | inter
  | diff
  | symmDiff

/-- A part of a class: its members and the height of its syntax tree. -/
structure ClassPart where
  set : CharSet
  height : Nat

namespace ClassPart

/-- The items of a union read so far: their members, their number, their greatest height. -/
structure Items where
  set : CharSet := .empty
  number : Nat := 0
  height : Nat := 0

/-- One more item. -/
def Items.add (items : Items) (set : CharSet) (height : Nat) : Items :=
  ⟨items.set.union set, items.number + 1, max items.height height⟩

/-- A union of two items or more is one level higher than they are. -/
def ofItems (items : Items) : ClassPart :=
  ⟨items.set, if 2 ≤ items.number then 1 + items.height else items.height⟩

/-- Combine what precedes a part with it. -/
def combine (fl : Flags) (before : Option (ClassPart × ClassOp)) (part : ClassPart) : ClassPart :=
  match before with
  | none => part
  | some (left, op) =>
    let a := fl.fold left.set
    let b := fl.fold part.set
    let set := match op with
      | .inter => a.inter b
      | .diff => a.diff b
      | .symmDiff => a.symmDiff b
    ⟨set, 1 + max left.height part.height⟩

end ClassPart

open ClassPart (Items)

/-- Read a class named between `[:` and `:]`, after the first bracket: its members, the negation
    done.  Anything else is left for a nested class. -/
def posixItem? (fl : Flags) (cs : List Char) : Option (Except PatternError CharSet × List Char) :=
  match cs with
  | ':' :: cs =>
    let (negated, cs) := match cs with
      | '^' :: rest => (true, rest)
      | _ => (false, cs)
    let name := cs.takeWhile (· != ':')
    match cs.dropWhile (· != ':') with
    | ':' :: ']' :: rest =>
      (posixClass? (String.ofList name)).map fun s => (fl.negateIf negated (fl.fold s), rest)
    | _ => none
  | _ => none

/-- The set of an item that is a character. -/
def charItem (fl : Flags) (c : Char) : Except PatternError CharSet :=
  if !fl.unicode && 0x7F < c.toNat then .error .notUtf8 else .ok (.singleton c)

/-- Read a character or an escape inside a class. -/
def classAtom (fl : Flags) : List Char → Except PatternError (Escaped × List Char)
  | [] => .error .unclosedClass
  | '\\' :: cs => escape fl cs
  | c :: cs => .ok (.char c false, cs)

/-- Read an item of a class that is no nested class: a character, an escape, or a range. -/
def classItem (fl : Flags) (cs : List Char) : Except PatternError (CharSet × List Char) := do
  let (first, rest) ← classAtom fl cs
  let rest := blanks fl rest
  let alone : Except PatternError (CharSet × List Char) :=
    match first with
    | .char c _ => (charItem fl c).map (·, rest)
    | .set s => .ok (s, rest)
    | .look _ => .error .badClass
  match rest with
  | [] => throw .unclosedClass
  | '-' :: more =>
    match blanks fl more with
    | [] => throw .unclosedClass
    | c :: more =>
      if c = ']' || c = '-' then alone
      else
        let (last, rest) ← classAtom fl (c :: more)
        match first, last with
        | .char a _, .char b _ =>
          let _ ← charItem fl a
          let _ ← charItem fl b
          if a.toNat ≤ b.toNat then return (.range a.toNat b.toNat, rest) else throw .badClass
        | _, _ => throw .badClass
  | _ => alone

/-- Read the hyphens a class may begin with; they stand for themselves. -/
def leadingHyphens (fl : Flags) : (fuel : Nat) → Items → List Char → Items × List Char
  | fuel + 1, items, '-' :: cs => leadingHyphens fl fuel (items.add (.singleton '-') 0) (blanks fl cs)
  | _, items, cs => (items, cs)

/-- Read the beginning of a class, after its bracket: whether it is negated, and the items that
    only stand for themselves in this place. -/
def classOpen (fl : Flags) (cs : List Char) : Except PatternError (Bool × Items × List Char) :=
  let cs := blanks fl cs
  let (negated, cs) := match cs with
    | '^' :: rest => (true, blanks fl rest)
    | _ => (false, cs)
  let (items, cs) := leadingHyphens fl cs.length {} cs
  match cs with
  | [] => .error .unclosedClass
  | ']' :: rest =>
    if items.number = 0 then .ok (negated, items.add (.singleton ']') 0, blanks fl rest)
    else .ok (negated, items, cs)
  | _ => .ok (negated, items, cs)

/-- Read a class up to its closing bracket.  `before` is what precedes the last operator and
    `items` what has been read since. -/
def classItems (fl : Flags) : (fuel : Nat) → (negated : Bool) → (before : Option (ClassPart × ClassOp)) →
    Items → List Char → Except PatternError (ClassPart × List Char)
  | 0, _, _, _, _ => .error .unclosedClass
  | fuel + 1, negated, before, items, cs =>
    let operator (op : ClassOp) (rest : List Char) :=
      classItems fl fuel negated (some (ClassPart.combine fl before (.ofItems items), op)) {} rest
    match blanks fl cs with
    | [] => .error .unclosedClass
    | ']' :: rest => do
      let part := ClassPart.combine fl before (.ofItems items)
      let set ← fl.negateIf negated (fl.fold part.set)
      return (⟨set, 1 + part.height⟩, rest)
    | '[' :: rest =>
      match posixItem? fl rest with
      | some (set, rest) => do
        let set ← set
        classItems fl fuel negated before (items.add set 0) rest
      | none => do
        let (innerNegated, innerItems, rest) ← classOpen fl rest
        let (part, rest) ← classItems fl fuel innerNegated none innerItems rest
        classItems fl fuel negated before (items.add part.set part.height) rest
    | '&' :: '&' :: rest => operator .inter rest
    | '-' :: '-' :: rest => operator .diff rest
    | '~' :: '~' :: rest => operator .symmDiff rest
    | cs => do
      let (set, rest) ← classItem fl cs
      classItems fl fuel negated before (items.add set 0) rest

/-- Read a bracketed class, after its bracket. -/
def bracketed (fl : Flags) (cs : List Char) : Except PatternError (Node × List Char) := do
  let (negated, items, rest) ← classOpen fl cs
  let (part, rest) ← classItems fl (rest.length + 1) negated none items rest
  return (⟨.set part.set, part.height⟩, rest)

/-! ## Groups -/

/-- Set one flag by its letter. -/
def Flags.set? (fl : Flags) (letter : Char) (on : Bool) : Option Flags :=
  if letter = 'i' then some { fl with caseless := on }
  else if letter = 'm' then some { fl with multiLine := on }
  else if letter = 's' then some { fl with dotAll := on }
  else if letter = 'U' then some { fl with lazyFirst := on }
  else if letter = 'u' then some { fl with unicode := on }
  else if letter = 'R' then some { fl with returns := on }
  else if letter = 'x' then some { fl with verbose := on }
  else none

/-- Read flags up to the colon or parenthesis that ends them.  `seen` lists the letters so far, the
    last one first; none may come twice, and a hyphen must be followed by a letter. -/
def flagLetters (fl : Flags) (on : Bool) (seen : List Char) :
    List Char → Except PatternError (Flags × List Char × List Char)
  | [] => .error .badFlags
  | c :: cs =>
    if c = ':' || c = ')' then
      if seen.head? == some '-' then .error .badFlags else .ok (fl, seen, c :: cs)
    else if seen.contains c then .error .badFlags
    else if c = '-' then flagLetters fl false (c :: seen) cs
    else
      match fl.set? c on with
      | some fl => flagLetters fl on (c :: seen) cs
      | none => .error .badFlags

/-- Whether a character may stand in the name of a group. -/
def isNameChar (first : Bool) (c : Char) : Bool :=
  c == '_' ||
    (if first then Unicode.isAlphabetic c
     else c == '.' || c == '[' || c == ']' || Unicode.isAlphanumeric c)

/-- Read the name of a group up to its angle bracket. -/
def groupName (names : List String) (cs : List Char) : Except PatternError (String × List Char) :=
  let name := cs.takeWhile (· != '>')
  match cs.dropWhile (· != '>'), name with
  | _ :: rest, c :: more =>
    let text := String.ofList name
    if isNameChar true c && more.all (isNameChar false) && !names.contains text then .ok (text, rest)
    else .error .badGroupName
  | _, _ => .error .badGroupName

/-- What an opening parenthesis begins. -/
inductive Opening where
  /-- A group read under the given flags, which may have a name and may be remembered. -/
  | group (fl : Flags) (name : Option String) (remembered : Bool)
  /-- A change of flags for the rest of the surrounding group. -/
  | flags (fl : Flags)

/-- Read the beginning of a group, after its parenthesis. -/
def opening (fl : Flags) (names : List String) (cs : List Char) :
    Except PatternError (Opening × List Char) := do
  let named (cs : List Char) : Except PatternError (Opening × List Char) := do
    let (name, rest) ← groupName names cs
    return (.group fl (some name) true, rest)
  match blanks fl cs with
  | '?' :: '=' :: _ => throw .unsupported
  | '?' :: '!' :: _ => throw .unsupported
  | '?' :: '<' :: '=' :: _ => throw .unsupported
  | '?' :: '<' :: '!' :: _ => throw .unsupported
  | '?' :: 'P' :: '<' :: rest => named rest
  | '?' :: '<' :: rest => named rest
  | '?' :: rest =>
    let (inner, seen, rest) ← flagLetters fl true [] rest
    match rest with
    | ':' :: rest => return (.group inner none false, rest)
    | _ :: rest => if seen.isEmpty then throw .nothingToRepeat else return (.flags inner, rest)
    | [] => throw .unclosedGroup
  | rest => return (.group fl none true, rest)

/-! ## Expressions -/

/-- A piece of an alternative. -/
inductive Piece where
  | node (n : Node)
  /-- A change of flags, which takes no part in matching and cannot be repeated. -/
  | directive

/-- The node of an alternative, from its pieces, the last one first. -/
def alternative (pieces : List Piece) : Node :=
  Node.sequence (pieces.reverse.map fun
    | .node n => n
    | .directive => ⟨.empty, 0⟩)

/-- Repeat the piece read last. -/
def repeatLast (fl : Flags) (min : Nat) (max : Option Nat) (rest : List Char) :
    List Piece → Except PatternError (List Piece × List Char)
  | .node n :: pieces =>
    let (greedy, rest) := match rest with
      | '?' :: more => (false, more)
      | _ => (true, rest)
    .ok (.node (n.repeat min max (greedy != fl.lazyFirst)) :: pieces, rest)
  | _ => .error .nothingToRepeat

/-- Read a single character of the notation that is neither a bracket, a bar nor a repetition. -/
def primitive (fl : Flags) (c : Char) (cs : List Char) : Except PatternError (Node × List Char) :=
  if c = '\\' then
    match escape fl cs with
    | .error e => .error e
    | .ok (.char c fromByte, rest) => (fl.character c fromByte).map fun r => (⟨r, 0⟩, rest)
    | .ok (.look l, rest) => .ok (⟨.look l, 0⟩, rest)
    | .ok (.set s, rest) => .ok (⟨.set s, 0⟩, rest)
  else if c = '.' then fl.dot.map fun r => (⟨r, 0⟩, cs)
  else if c = '^' then .ok (⟨.look fl.caret, 0⟩, cs)
  else if c = '$' then .ok (⟨.look fl.dollar, 0⟩, cs)
  else (fl.character c false).map fun r => (⟨r, 0⟩, cs)

/-- Read alternatives up to the end of the text or the parenthesis that closes their group.  `names`
    lists the group names in use, `done` the alternatives read so far and `pieces` the pieces of the
    present one, both with the last one first. -/
def branches : (fuel : Nat) → Flags → (names : List String) → (done : List Node) →
    (pieces : List Piece) → List Char → Except PatternError (Node × List String × List Char)
  | 0, _, _, _, _, _ => .error .tooDeep
  | fuel + 1, fl, names, done, pieces, cs =>
    match blanks fl cs with
    | [] => .ok (Node.alternatives (alternative pieces :: done).reverse, names, [])
    | c :: cs =>
      if c = ')' then .ok (Node.alternatives (alternative pieces :: done).reverse, names, c :: cs)
      else if c = '|' then branches fuel fl names (alternative pieces :: done) [] cs
      else if c = '(' then do
        match ← opening fl names cs with
        | (.flags inner, rest) => branches fuel inner names done (.directive :: pieces) rest
        | (.group inner name remembered, rest) =>
          let (node, names, rest) ← branches fuel inner (name.toList ++ names) [] [] rest
          match rest with
          | _ :: rest =>
            let regex := if remembered then Regex.group node.regex else node.regex
            branches fuel fl names done (.node ⟨regex, 1 + node.height⟩ :: pieces) rest
          | [] => throw .unclosedGroup
      else if c = '[' then do
        let (node, rest) ← bracketed fl cs
        branches fuel fl names done (.node node :: pieces) rest
      else if c = '?' then do
        let (pieces, rest) ← repeatLast fl 0 (some 1) cs pieces
        branches fuel fl names done pieces rest
      else if c = '*' then do
        let (pieces, rest) ← repeatLast fl 0 none cs pieces
        branches fuel fl names done pieces rest
      else if c = '+' then do
        let (pieces, rest) ← repeatLast fl 1 none cs pieces
        branches fuel fl names done pieces rest
      else if c = '{' then do
        let (min, max, rest) ← counts fl cs
        let (pieces, rest) ← repeatLast fl min max (blanks fl rest) pieces
        branches fuel fl names done pieces rest
      else do
        let (node, rest) ← primitive fl c cs
        branches fuel fl names done (.node node :: pieces) rest

/-- Read a pattern. -/
def parse (cs : List Char) : Except PatternError Regex := do
  let (node, _, rest) ← branches (cs.length + 1) {} [] [] [] cs
  match rest with
  | [] => if node.height ≤ heightLimit then return node.regex else throw .tooDeep
  | _ :: _ => throw .unopenedGroup

end Highlight.Notation
