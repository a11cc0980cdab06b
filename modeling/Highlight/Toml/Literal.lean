/-
  The literals of TOML: strings, keys, numbers, dates and times.

  Every reader takes the text that is left and answers what it read together with the text behind
  it, or `none` if the text does not start as it should.

  1. **Blanks and lines** — what may stand between the parts of a document.

  2. **Strings** — four kinds, which differ in what a character may stand for (`Step`): between
     double quotes there are escapes, between apostrophes there are none, and between three of
     either there may be line breaks.

  3. **Keys** — bare or quoted parts with points between them.

  4. **Numbers** — digits may be grouped by underscores; a whole number has to fit into 64 bits, a
     real number must not be too large.

  5. **Dates and times** — days and times that exist.
-/
import Highlight.CharSet
import Highlight.Toml.Value

namespace Highlight.Toml.Literal

/-- The text that has not been read yet. -/
abbrev Rest := List Char

/-! ## Blanks and lines -/

def isBlank (c : Char) : Bool := c = ' ' || c = '\t'

/-- Whether a character may stand in a comment or a string: no control character but the tab. -/
def isPrintable (c : Char) : Bool :=
  c = '\t' || (0x20 ≤ c.toNat && c.toNat ≤ 0x7E) || 0x80 ≤ c.toNat

def skipBlanks (text : Rest) : Rest := text.dropWhile isBlank

/-- The text behind a line break. -/
def lineBreak? : Rest → Option Rest
  | '\n' :: rest => some rest
  | '\r' :: '\n' :: rest => some rest
  | _ => none

/-- The text behind a line break, if there is one. -/
def skipLineBreak (text : Rest) : Rest := (lineBreak? text).getD text

/-- Skip a comment, if there is one, up to the end of its line. -/
def skipComment : Rest → Rest
  | '#' :: rest => rest.dropWhile isPrintable
  | text => text

/-- The text behind the end of a line on which nothing but a comment is left. -/
def lineEnd? (text : Rest) : Option Rest :=
  match skipComment (skipBlanks text) with
  | [] => some []
  | text => lineBreak? text

/-- Skip blanks and line breaks. -/
def skipSpace : Rest → Rest
  | [] => []
  | '\r' :: '\n' :: rest => skipSpace rest
  | c :: rest => if isBlank c || c = '\n' then skipSpace rest else c :: rest

/-- Skip blanks, line breaks and comments; `comment` says whether a comment has begun. -/
def skipGapFrom (comment : Bool) : Rest → Rest
  | [] => []
  | '\r' :: '\n' :: rest => skipGapFrom false rest
  | c :: rest =>
    if c = '\n' then skipGapFrom false rest
    else if comment then (if isPrintable c then skipGapFrom true rest else c :: rest)
    else if isBlank c then skipGapFrom false rest
    else if c = '#' then skipGapFrom true rest
    else c :: rest

/-- Skip blanks, line breaks and comments. -/
def skipGap (text : Rest) : Rest := skipGapFrom false text

/-! ## Strings -/

/-- What the text at a place inside a string stands for: some characters, after which the string
    goes on or is over. -/
inductive Step where
  | more (cs : List Char) (rest : Rest)
  | over (cs : List Char) (rest : Rest)
  deriving Repr

/-- Read a string of the kind that a step function describes.  Every step consumes a character, so
    `fuel` need not exceed the length of the text by more than one. -/
def bodyFrom (step : Rest → Option Step) : (fuel : Nat) → Rest → Option (List Char × Rest)
  | 0, _ => none
  | fuel + 1, text =>
    match step text with
    | none => none
    | some (.over cs rest) => some (cs, rest)
    | some (.more cs rest) => (bodyFrom step fuel rest).map fun (more, rest) => (cs ++ more, rest)

def body (step : Rest → Option Step) (text : Rest) : Option (List Char × Rest) :=
  bodyFrom step (text.length + 1) text

/-- The number that hexadecimal digits stand for. -/
def hexNumber? (digits : List Char) : Option Nat :=
  (digits.mapM CharSet.hexDigit?).map fun ds => ds.foldl (fun n d => 16 * n + d) 0

/-- The character of a code point; surrogates have none. -/
def charOf? (n : Nat) : Option Char := if n.isValidChar then some (Char.ofNat n) else none

/-- An escape of `width` hexadecimal digits. -/
def codePoint? (width : Nat) (text : Rest) : Option (Char × Rest) :=
  if (text.take width).length = width then
    ((hexNumber? (text.take width)).bind charOf?).map fun c => (c, text.drop width)
  else none

/-- The character an escape stands for, read behind its backslash. -/
def escape? : Rest → Option (Char × Rest)
  | 'b' :: rest => some (Char.ofNat 0x08, rest)
  | 't' :: rest => some ('\t', rest)
  | 'n' :: rest => some ('\n', rest)
  | 'f' :: rest => some (Char.ofNat 0x0C, rest)
  | 'r' :: rest => some ('\r', rest)
  | '"' :: rest => some ('"', rest)
  | '\\' :: rest => some ('\\', rest)
  | 'u' :: rest => codePoint? 4 rest
  | 'U' :: rest => codePoint? 8 rest
  | _ => none

/-- A character that stands for itself. -/
def printable? : Rest → Option Step
  | c :: rest => if isPrintable c then some (.more [c] rest) else none
  | [] => none

/-- Between double quotes. -/
def basic : Rest → Option Step
  | '"' :: rest => some (.over [] rest)
  | '\\' :: rest => (escape? rest).map fun (c, rest) => .more [c] rest
  | text => printable? text

/-- Between apostrophes. -/
def literal : Rest → Option Step
  | '\'' :: rest => some (.over [] rest)
  | text => printable? text

/-- A line break or a character, between three delimiters. -/
def lineOrPrintable? (text : Rest) : Option Step :=
  match lineBreak? text with
  | some rest => some (.more ['\n'] rest)
  | none => printable? text

/-- The end of a string with three delimiters `q`, of which up to two more belong to the string. -/
def tripleEnd? (q : Char) (text : Rest) : Option Step :=
  let run := text.takeWhile (· = q)
  if 3 ≤ run.length then
    let inner := min (run.length - 3) 2
    some (.over (List.replicate inner q) (text.drop (inner + 3)))
  else none

/-- Between three double quotes; a backslash at the end of a line hides the line break and the
    space after it. -/
def multilineBasic (text : Rest) : Option Step :=
  match tripleEnd? '"' text with
  | some step => some step
  | none =>
    match text with
    | '\\' :: rest =>
      match lineBreak? (skipBlanks rest) with
      | some rest => some (.more [] (skipSpace rest))
      | none => (escape? rest).map fun (c, rest) => .more [c] rest
    | _ => lineOrPrintable? text

/-- Between three apostrophes. -/
def multilineLiteral (text : Rest) : Option Step :=
  match tripleEnd? '\'' text with
  | some step => some step
  | none => lineOrPrintable? text

/-- A string of any kind.  A line break directly behind three delimiters does not count. -/
def string? (text : Rest) : Option (String × Rest) :=
  let read := match text with
    | '"' :: '"' :: '"' :: rest => body multilineBasic (skipLineBreak rest)
    | '\'' :: '\'' :: '\'' :: rest => body multilineLiteral (skipLineBreak rest)
    | '"' :: rest => body basic rest
    | '\'' :: rest => body literal rest
    | _ => none
  read.map fun (cs, rest) => (String.ofList cs, rest)

/-! ## Keys -/

def isBareKey (c : Char) : Bool :=
  ('a' ≤ c && c ≤ 'z') || ('A' ≤ c && c ≤ 'Z') || ('0' ≤ c && c ≤ '9') || c = '-' || c = '_'

/-- One part of a key. -/
def keyPart? (text : Rest) : Option (String × Rest) :=
  let read := match text with
    | '"' :: rest => body basic rest
    | '\'' :: rest => body literal rest
    | text =>
      let bare := text.takeWhile isBareKey
      if bare.isEmpty then none else some (bare, text.dropWhile isBareKey)
  read.map fun (cs, rest) => (String.ofList cs, rest)

/-- The number of parts that a key must stay below. -/
def maxKeyParts : Nat := 80

/-- The parts of a key before the last one, and the last one, with blanks around them. -/
def keyFrom : (fuel : Nat) → Rest → Option (List String × String × Rest)
  | 0, _ => none
  | fuel + 1, text => do
    let (part, rest) ← keyPart? (skipBlanks text)
    match skipBlanks rest with
    | '.' :: rest =>
      let (path, key, rest) ← keyFrom fuel rest
      return (part :: path, key, rest)
    | rest => return ([], part, rest)

/-- A key, split into the path and the last part. -/
def key? (text : Rest) : Option (List String × String × Rest) := keyFrom (maxKeyParts - 1) text

/-! ## Numbers -/

def decimalDigit? (c : Char) : Option Nat :=
  if '0' ≤ c ∧ c ≤ '9' then some (c.toNat - 0x30) else none

/-- More digits of a number, each of which may have an underscore before it. -/
def moreDigits (digit? : Char → Option Nat) : Rest → List Nat × Rest
  | [] => ([], [])
  | '_' :: c :: rest =>
    match digit? c with
    | some d =>
      let (ds, rest) := moreDigits digit? rest
      (d :: ds, rest)
    | none => ([], '_' :: c :: rest)
  | c :: rest =>
    match digit? c with
    | some d =>
      let (ds, rest) := moreDigits digit? rest
      (d :: ds, rest)
    | none => ([], c :: rest)

/-- Digits, at least one. -/
def digits? (digit? : Char → Option Nat) : Rest → Option (List Nat × Rest)
  | [] => none
  | c :: rest =>
    (digit? c).map fun d =>
      let (ds, rest) := moreDigits digit? rest
      (d :: ds, rest)

/-- The number that digits stand for. -/
def numberOf (base : Nat) (digits : List Nat) : Nat := digits.foldl (fun n d => base * n + d) 0

/-- A sign, if there is one: whether it is a minus. -/
def sign : Rest → Bool × Rest
  | '-' :: rest => (true, rest)
  | '+' :: rest => (false, rest)
  | text => (false, text)

/-- The digits of a whole number, without zeros in front. -/
def whole? : Rest → Option (List Nat × Rest)
  | '0' :: rest => some ([0], rest)
  | text => digits? decimalDigit? text

/-- The whole numbers of 64 bits lie between the negative of this one and it. -/
def integerBound : Nat := Nat.pow 2 63

/-- A whole number, if it fits into 64 bits. -/
def fit? (n : Int) : Option Value :=
  if -(integerBound : Int) ≤ n ∧ n < integerBound then some (.integer n) else none

/-- A number in another base, behind its mark. -/
def based? (base : Nat) (text : Rest) : Option (Value × Rest) := do
  let digit? (c : Char) : Option Nat := (CharSet.hexDigit? c).filter (· < base)
  let (ds, rest) ← digits? digit? text
  return (← fit? (numberOf base ds), rest)

/-- A whole number. -/
def integer? (text : Rest) : Option (Value × Rest) :=
  match text with
  | '0' :: 'x' :: rest => based? 16 rest
  | '0' :: 'o' :: rest => based? 8 rest
  | '0' :: 'b' :: rest => based? 2 rest
  | _ => do
    let (negative, rest) := sign text
    let (ds, rest) ← whole? rest
    let n : Int := numberOf 10 ds
    return (← fit? (if negative then -n else n), rest)

/-- An exponent behind its mark. -/
def exponent? : Rest → Option (Int × Rest)
  | 'e' :: rest | 'E' :: rest => do
    let (negative, rest) := sign rest
    let (ds, rest) ← digits? decimalDigit? rest
    let n : Int := numberOf 10 ds
    return (if negative then -n else n, rest)
  | _ => none

/-- A real number; there must be a fraction or an exponent.  One that is too large to be
    represented is refused, unless it is negative. -/
def decimal? (text : Rest) : Option (Value × Rest) := do
  let (negative, rest) := sign text
  let (ds, rest) ← whole? rest
  let (fraction, exponent, rest) ← (match rest with
    | '.' :: rest => do
      let (fs, rest) ← digits? decimalDigit? rest
      let (n, rest) := (exponent? rest).getD (0, rest)
      return (fs, n, rest)
    | rest => (exponent? rest).map fun (n, rest) => ([], n, rest) :
      Option (List Nat × Int × Rest))
  let x := Binary64.ofDecimal negative (numberOf 10 (ds ++ fraction)) (exponent - fraction.length)
  if x = .infinite false then none else return (.real x, rest)

/-- One of the real numbers that have names. -/
def namedReal? (text : Rest) : Option (Value × Rest) :=
  let (negative, rest) := sign text
  match rest with
  | 'i' :: 'n' :: 'f' :: rest => some (.real (.infinite negative), rest)
  | 'n' :: 'a' :: 'n' :: rest => some (.real .nan, rest)
  | _ => none

/-! ## Dates and times -/

/-- A number of exactly `width` digits. -/
def fixed? (width : Nat) (text : Rest) : Option (Nat × Rest) :=
  if (text.take width).length = width then
    ((text.take width).mapM decimalDigit?).map fun ds => (numberOf 10 ds, text.drop width)
  else none

/-- The text behind a character. -/
def expect? (c : Char) : Rest → Option Rest
  | [] => none
  | d :: rest => if d = c then some rest else none

def date? (text : Rest) : Option (Date × Rest) := do
  let (year, rest) ← fixed? 4 text
  let (month, rest) ← fixed? 2 (← expect? '-' rest)
  let (day, rest) ← fixed? 2 (← expect? '-' rest)
  let d : Date := ⟨year, month, day⟩
  if d.isValid then return (d, rest) else none

/-- The digits behind the seconds, cut off at nine. -/
def nanosecond (text : Rest) : Nat × Rest :=
  match text with
  | '.' :: rest =>
    let ds := rest.takeWhile Char.isDigit
    if ds.isEmpty then (0, text)
    else
      let kept := (ds.filterMap decimalDigit?).take 9
      (numberOf 10 (kept ++ List.replicate (9 - kept.length) 0), rest.dropWhile Char.isDigit)
  | _ => (0, text)

def time? (text : Rest) : Option (Time × Rest) := do
  let (hour, rest) ← fixed? 2 text
  let (minute, rest) ← fixed? 2 (← expect? ':' rest)
  let (second, rest) ← fixed? 2 (← expect? ':' rest)
  let (ns, rest) := nanosecond rest
  let t : Time := ⟨hour, minute, second, ns⟩
  if t.isValid then return (t, rest) else none

def offset? (text : Rest) : Option (Offset × Rest) :=
  match text with
  | 'Z' :: rest | 'z' :: rest => some (.utc, rest)
  | '+' :: _ | '-' :: _ => do
    let (behind, rest) := sign text
    let (hour, rest) ← fixed? 2 rest
    let (minute, rest) ← fixed? 2 (← expect? ':' rest)
    if hour ≤ 23 ∧ minute ≤ 59 then return (.minutes behind (60 * hour + minute), rest) else none
  | _ => none

/-- A time behind a date, with its offset. -/
def timeOfDay? : Rest → Option (Time × Option Offset × Rest)
  | [] => none
  | c :: rest =>
    if c = 'T' ∨ c = 't' ∨ c = ' ' then
      (time? rest).map fun (t, rest) =>
        match offset? rest with
        | some (o, rest) => (t, some o, rest)
        | none => (t, none, rest)
    else none

/-- A date, a date with a time, or a time. -/
def dateTime? (text : Rest) : Option (Value × Rest) :=
  match date? text with
  | some (d, rest) =>
    match timeOfDay? rest with
    | some (t, o, rest) => some (.dateTime ⟨some d, some t, o⟩, rest)
    | none => some (.dateTime ⟨some d, none, none⟩, rest)
  | none => (time? text).map fun (t, rest) => (.dateTime ⟨none, some t, none⟩, rest)

/-- A literal that starts with a digit or a sign. -/
def number? (text : Rest) : Option (Value × Rest) :=
  dateTime? text <|> decimal? text <|> namedReal? text <|> integer? text

end Highlight.Toml.Literal
