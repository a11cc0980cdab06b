/-
  Colour literals.

  1. **The forms** — style documents write a colour as `#` and hexadecimal digits (3, 4, 6 or 8 of
     them), as three or four decimal channels, or by name.  `Color.parse` tells the forms apart by
     the first character of the trimmed text: `#`, an ASCII digit, anything else.

  2. **The readers** — `ofHex`, `ofChannels` and `ofName`.  The first bad thing is what is
     reported: a blank literal, bad digits, the first bad channel, the number of channels, a name
     that the palette does not have.

  3. **The writer** — `toHex` writes `#rrggbbaa`, which the first reader takes back.
-/
import Highlight.Quoted
import Highlight.Text
import Highlight.Unicode.Case

namespace Highlight

/-- A colour with its opacity. -/
structure Color where
  r : UInt8
  g : UInt8
  b : UInt8
  a : UInt8
  deriving DecidableEq, Repr, Inhabited

/-- Why a literal is no colour. -/
inductive ColorError where
  | empty
  | invalidHex (literal : String)
  | invalidChannel (channel : String)
  | channelCount (count : Nat)
  | unknownName (name : String)
  deriving DecidableEq, Repr

/-- The message of an error. -/
def ColorError.message : ColorError → String
  | empty => "empty color value"
  | invalidHex s => "invalid hex color " ++ Quoted.quote s
  | invalidChannel s => "color channel " ++ Quoted.quote s ++ " is not a number in 0-255"
  | channelCount n => "expected 3 or 4 color channels, got " ++ toString n
  | unknownName s => "unknown color name " ++ Quoted.quote s

namespace Color

/-- An opaque colour. -/
def rgb (r g b : UInt8) : Color := ⟨r, g, b, 0xFF⟩

/-- The named colours; the names are in lower case and without blanks. -/
def palette : List (String × Color) :=
  [("black", rgb 0x00 0x00 0x00),
   ("white", rgb 0xFF 0xFF 0xFF),
   ("red", rgb 0xFF 0x00 0x00),
   ("green", rgb 0x00 0xFF 0x00),
   ("blue", rgb 0x00 0x00 0xFF),
   ("cyan", rgb 0x00 0xFF 0xFF),
   ("magenta", rgb 0xFF 0x00 0xFF),
   ("yellow", rgb 0xFF 0xFF 0x00),
   ("gray", rgb 0xA0 0xA0 0xA4),
   ("grey", rgb 0xA0 0xA0 0xA4),
   ("darkgray", rgb 0x80 0x80 0x80),
   ("darkgrey", rgb 0x80 0x80 0x80),
   ("lightgray", rgb 0xC0 0xC0 0xC0),
   ("lightgrey", rgb 0xC0 0xC0 0xC0),
   ("darkred", rgb 0x80 0x00 0x00),
   ("darkgreen", rgb 0x00 0x80 0x00),
   ("darkblue", rgb 0x00 0x00 0x80),
   ("darkcyan", rgb 0x00 0x80 0x80),
   ("darkmagenta", rgb 0x80 0x00 0x80),
   ("darkyellow", rgb 0x80 0x80 0x00),
   ("orange", rgb 0xFF 0xA5 0x00),
   ("purple", rgb 0x80 0x00 0x80),
   ("brown", rgb 0xA5 0x2A 0x2A),
   ("pink", rgb 0xFF 0xC0 0xCB),
   ("navy", rgb 0x00 0x00 0x80),
   ("teal", rgb 0x00 0x80 0x80),
   ("olive", rgb 0x80 0x80 0x00),
   ("maroon", rgb 0x80 0x00 0x00),
   ("lime", rgb 0x00 0xFF 0x00),
   ("silver", rgb 0xC0 0xC0 0xC0),
   ("gold", rgb 0xFF 0xD7 0x00),
   ("violet", rgb 0xEE 0x82 0xEE),
   ("transparent", ⟨0x00, 0x00, 0x00, 0x00⟩)]

/-! ## The readers -/

/-- The channel two hexadecimal digits stand for. -/
def ofDigits (hi lo : Nat) : UInt8 := UInt8.ofNat (16 * hi + lo)

/-- The colour of a list of hexadecimal digits; a single digit counts as if it were doubled. -/
def ofHexDigits? : List Nat → Option Color
  | [r, g, b] => some (rgb (ofDigits r r) (ofDigits g g) (ofDigits b b))
  | [r, g, b, a] => some ⟨ofDigits r r, ofDigits g g, ofDigits b b, ofDigits a a⟩
  | [r, r', g, g', b, b'] => some (rgb (ofDigits r r') (ofDigits g g') (ofDigits b b'))
  | [r, r', g, g', b, b', a, a'] =>
    some ⟨ofDigits r r', ofDigits g g', ofDigits b b', ofDigits a a'⟩
  | _ => none

/-- Read `#` (any number of them) and hexadecimal digits. -/
def ofHex (s : String) : Except ColorError Color :=
  let digits := (Text.trimChars s.toList).dropWhile (· = '#')
  match (digits.mapM CharSet.hexDigit?).bind ofHexDigits? with
  | some color => .ok color
  | none => .error (.invalidHex s)

/-- The number that decimal digits stand for, or nothing if there are other characters. -/
def decimalDigits? (n : Nat) : List Char → Option Nat
  | [] => some n
  | c :: cs => if '0' ≤ c ∧ c ≤ '9' then decimalDigits? (10 * n + (c.toNat - 0x30)) cs else none

/-- Read a channel: an optional plus sign and at least one digit, of a value up to 255. -/
def channel? (piece : List Char) : Option UInt8 :=
  let digits := match piece with
    | '+' :: ds => ds
    | ds => ds
  if digits.isEmpty then none
  else match decimalDigits? 0 digits with
    | some n => if n ≤ 255 then some (UInt8.ofNat n) else none
    | none => none

/-- Read the channels one after the other; the first bad one is the error. -/
def channels : List (List Char) → Except ColorError (List UInt8)
  | [] => .ok []
  | piece :: pieces =>
    match channel? piece with
    | some v => (channels pieces).map (v :: ·)
    | none => .error (.invalidChannel (String.ofList piece))

/-- Read decimal channels with white space between them. -/
def ofChannels (s : String) : Except ColorError Color :=
  match channels (Text.words s.toList) with
  | .error e => .error e
  | .ok [r, g, b] => .ok (rgb r g b)
  | .ok [r, g, b, a] => .ok ⟨r, g, b, a⟩
  | .ok vs => .error (.channelCount vs.length)

/-- The name under which the palette knows a colour: no blanks, every character lowercased. -/
def paletteKey (s : String) : String :=
  String.ofList ((s.toList.filter (fun c => !Unicode.isBlank c)).flatMap Unicode.lower)

/-- Look a colour up by name. -/
def ofName (s : String) : Except ColorError Color :=
  match palette.lookup (paletteKey s) with
  | some color => .ok color
  | none => .error (.unknownName (Text.trim s))

/-- Read a colour literal of any form. -/
def parse (s : String) : Except ColorError Color :=
  let t := Text.trim s
  match t.toList with
  | [] => .error .empty
  | c :: _ =>
    if c = '#' then ofHex t
    else if '0' ≤ c ∧ c ≤ '9' then ofChannels t
    else ofName t

/-! ## The writer -/

/-- A hexadecimal digit, small letters. -/
def hexDigitChar (n : Nat) : Char := if n < 10 then Char.ofNat (0x30 + n) else Char.ofNat (0x57 + n)

/-- A channel as two hexadecimal digits. -/
def channelHex (v : UInt8) : List Char := [hexDigitChar (v.toNat / 16), hexDigitChar (v.toNat % 16)]

/-- A colour as `#rrggbbaa`. -/
def toHex (c : Color) : String :=
  String.ofList ('#' :: (channelHex c.r ++ channelHex c.g ++ channelHex c.b ++ channelHex c.a))

end Color

end Highlight
