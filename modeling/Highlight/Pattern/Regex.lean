/-
  Regular expressions, freed of the notation they are written in.

  A `Regex` describes what may follow a place of a text: nothing, one character of a set, an
  assertion about the place, or these put together.  Alternatives and repetitions are ordered: the
  first alternative is preferred to the second, and a greedy repetition prefers one round more.

  `Look.holds` is the meaning of the assertions; they see only the characters on both sides of the
  place.  The predicates at the end tell how long matches can be and where they have to lie.
-/
import Highlight.CharSet
import Highlight.Unicode.Property

namespace Highlight

/-! ## Assertions -/

/-- What an assertion about words asks of the place. -/
inductive WordSide where
  | boundary
  | interior
  | start
  | stop
  | startHalf
  | stopHalf
  deriving DecidableEq, Repr, Inhabited

/-- An assertion about a place. -/
inductive Look where
  | textStart
  | textEnd
  | lineStart
  | lineEnd
  | returnLineStart
  | returnLineEnd
  | word (side : WordSide) (unicode : Bool)
  deriving DecidableEq, Repr, Inhabited

namespace Look

/-- Whether the character beside a place is part of a word. -/
def isWordAt (unicode : Bool) : Option Char → Bool
  | none => false
  | some c => if unicode then Unicode.isWord c else Unicode.isAsciiWord c

/-- Whether an assertion holds between two characters; `none` stands for an end of the text.  The
    `returnLine` assertions count a carriage return, a line feed, and the two together as one end
    of line each. -/
def holds (look : Look) (prev next : Option Char) : Bool :=
  match look with
  | textStart => prev.isNone
  | textEnd => next.isNone
  | lineStart => prev.isNone || prev == some '\n'
  | lineEnd => next.isNone || next == some '\n'
  | returnLineStart =>
    prev.isNone || prev == some '\n' || (prev == some '\r' && next != some '\n')
  | returnLineEnd =>
    next.isNone || next == some '\r' || (next == some '\n' && prev != some '\r')
  | word side unicode =>
    let before := isWordAt unicode prev
    let after := isWordAt unicode next
    match side with
    | .boundary => before != after
    | .interior => before == after
    | .start => !before && after
    | .stop => before && !after
    | .startHalf => !before
    | .stopHalf => !after

end Look

/-! ## Expressions -/

/-- A regular expression. -/
inductive Regex where
  | empty
  | set (s : CharSet)
  | look (l : Look)
  | cat (first second : Regex)
  | alt (preferred other : Regex)
  | repetition (body : Regex) (min : Nat) (max : Option Nat) (greedy : Bool)
  | group (body : Regex)
  deriving DecidableEq, Repr, Inhabited

namespace Regex

/-- Whether no match of the expression has a character. -/
def isNull : Regex → Bool
  | empty => true
  | set _ => false
  | look _ => true
  | cat a b => a.isNull && b.isNull
  | alt a b => a.isNull && b.isNull
  | repetition r _ max _ => r.isNull || max == some 0
  | group r => r.isNull

/-- Whether every match of the expression has a character. -/
def consumes : Regex → Bool
  | empty => false
  | set s => !s.isEmpty
  | look _ => false
  | cat a b => a.consumes || b.consumes
  | alt a b => a.consumes && b.consumes
  | repetition r min _ _ => 0 < min && r.consumes
  | group r => r.consumes

/-- Whether the empty set of characters occurs in the expression, so that a part of it can never
    match. -/
def mentionsEmptySet : Regex → Bool
  | empty => false
  | set s => s.isEmpty
  | look _ => false
  | cat a b => a.mentionsEmptySet || b.mentionsEmptySet
  | alt a b => a.mentionsEmptySet || b.mentionsEmptySet
  | repetition r _ _ _ => r.mentionsEmptySet
  | group r => r.mentionsEmptySet

/-- Whether a group is remembered somewhere in the expression. -/
def hasGroup : Regex → Bool
  | empty => false
  | set _ => false
  | look _ => false
  | cat a b => a.hasGroup || b.hasGroup
  | alt a b => a.hasGroup || b.hasGroup
  | repetition r _ _ _ => r.hasGroup
  | group _ => true

/-- Whether every match begins where a given assertion holds, as far as the parts tell that come
    before the first character. -/
def beginsWith (l : Look) : Regex → Bool
  | empty => false
  | set _ => false
  | look l' => l' == l
  | cat a b => a.beginsWith l || (a.isNull && b.beginsWith l)
  | alt a b => a.beginsWith l && b.beginsWith l
  | repetition r min _ _ => 0 < min && r.beginsWith l
  | group r => r.beginsWith l

/-- Whether every match ends where a given assertion holds, as far as the parts tell that come
    after the last character. -/
def endsWith (l : Look) : Regex → Bool
  | empty => false
  | set _ => false
  | look l' => l' == l
  | cat a b => b.endsWith l || (b.isNull && a.endsWith l)
  | alt a b => a.endsWith l && b.endsWith l
  | repetition r min _ _ => 0 < min && r.endsWith l
  | group r => r.endsWith l

end Regex

end Highlight
