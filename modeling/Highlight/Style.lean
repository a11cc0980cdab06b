/-
  What a style slot looks like, and its form on a terminal.

  `TextStyle` holds the colours and font attributes of a slot; what is `none` is left to whoever
  paints.  `TextStyle.onTerminal` drops what a terminal cannot show: the font family and the
  opacity of colours.
-/
import Highlight.Color

namespace Highlight

/-- The looks of one style slot. -/
structure TextStyle where
  foreground : Option Color := none
  background : Option Color := none
  family : Option String := none
  bold : Bool := false
  italic : Bool := false
  underline : Bool := false
  deriving DecidableEq, Repr, Inhabited

namespace TextStyle

/-- No styling at all. -/
def bare : TextStyle := {}

/-- Whether nothing is styled. -/
def isBare (s : TextStyle) : Bool := s = bare

end TextStyle

/-- Font attributes that a terminal knows. -/
inductive TerminalAttribute where
  | bold
  | italic
  | underlined
  deriving DecidableEq, Repr

/-- A style in terms of a terminal: colours without opacity, and attributes. -/
structure TerminalStyle where
  foreground : Option (UInt8 × UInt8 × UInt8)
  background : Option (UInt8 × UInt8 × UInt8)
  attributes : List TerminalAttribute
  deriving DecidableEq, Repr

namespace TextStyle

/-- The form of a style on a terminal. -/
def onTerminal (s : TextStyle) : TerminalStyle where
  foreground := s.foreground.map fun c => (c.r, c.g, c.b)
  background := s.background.map fun c => (c.r, c.g, c.b)
  attributes :=
    (if s.bold then [.bold] else []) ++ (if s.italic then [.italic] else []) ++
      (if s.underline then [.underlined] else [])

end TextStyle

end Highlight
