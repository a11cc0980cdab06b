/-
  The rules a grammar is made of, and the state that one line leaves to the next.

  1. **Rules** — a `Rule` paints whatever its pattern matches; a `BlockRule` paints from an opening
     delimiter to a closing one.  Either may be disabled; delimiters come in pairs, so a block rule
     has both of them or none.

  2. **The end of a block** — `BlockRule.findEnd` looks for the closing delimiter.  On its way it
     records the escapes that start at or before the delimiter it meets next.  A delimiter inside an
     escape is thereby skipped; one that directly follows an odd number of adjacent one-character
     escapes is hidden, and the search goes on behind it.  Escapes that match nothing are ignored.

  3. **Line states** — what construct, if any, a line leaves open.
-/
import Highlight.Pattern
import Highlight.Span

namespace Highlight

/-! ## Simple rules -/

/-- A pattern and the style of its matches; without a pattern the rule never matches. -/
structure Rule where
  pattern : Option Pattern
  style : StyleId
  deriving DecidableEq, Repr, Inhabited

namespace Rule

/-- The rule that never matches. -/
def disabled (style : StyleId) : Rule := ⟨none, style⟩

/-- The rule of a pattern; an empty pattern gives a disabled rule. -/
def compile (source : String) (style : StyleId) : Except PatternError Rule :=
  if source.isEmpty then .ok (disabled style)
  else (Pattern.compile source).map fun p => ⟨some p, style⟩

def isEnabled (r : Rule) : Bool := r.pattern.isSome

/-- The first match that starts at an offset or later. -/
def findAt (r : Rule) (text : Text) (pos : Nat) : Option (Nat × Nat) :=
  r.pattern.bind (·.findAt text pos)

/-- All matches in a line. -/
def findAll (r : Rule) (text : Text) : List (Nat × Nat) :=
  match r.pattern with
  | some p => p.findAll text
  | none => []

end Rule

/-! ## Block rules -/

/-- The patterns that open and close a construct, and the escapes that hide the end. -/
structure Delimiters where
  opening : Pattern
  closing : Pattern
  escape : Option Pattern
  deriving DecidableEq, Repr, Inhabited

/-- A delimited construct; without delimiters it never matches. -/
structure BlockRule where
  delimiters : Option Delimiters
  style : StyleId
  deriving DecidableEq, Repr, Inhabited

/-- What a search for the end of a construct finds: the offset behind the closing delimiter, if
    there is one, and the escapes that were passed. -/
structure EndSearch where
  stop : Option Nat := none
  escapes : List (Nat × Nat) := []
  deriving DecidableEq, Repr, Inhabited

/-- The number of adjacent one-character escapes that end exactly at an offset; the escapes are
    listed with the last one first. -/
def escapeRun (text : Text) : (pos : Nat) → List (Nat × Nat) → Nat
  | _, [] => 0
  | pos, (start, stop) :: escapes =>
    if stop = pos ∧ (text.slice start stop).length = 1 then escapeRun text start escapes + 1 else 0

namespace Delimiters

/-- The escape that a search at an offset meets, if it is not empty. -/
def escapeAt (d : Delimiters) (text : Text) (pos : Nat) : Option (Nat × Nat) :=
  (d.escape.bind (·.findAt text pos)).filter fun (start, stop) => start ≠ stop

/-- What a search does at one offset: it finishes, or goes on from a later one with the escapes
    recorded so far. -/
inductive EndStep where
  | finish (stop : Option Nat)
  | goOn (pos : Nat) (escapes : List (Nat × Nat))
  deriving DecidableEq, Repr

/-- Stop at a closing delimiter, or pass it if the escapes before it hide it. -/
def atDelimiter (text : Text) (escapes : List (Nat × Nat)) (t : Nat × Nat) : EndStep :=
  if escapeRun text t.1 escapes % 2 = 1 then
    .goOn (if t.1 < t.2 then t.2 else text.nextBoundary t.1) escapes
  else .finish (some t.2)

/-- One step of the search: an escape at or before the next delimiter is recorded and passed. -/
def endStep (d : Delimiters) (text : Text) (pos : Nat) (escapes : List (Nat × Nat)) : EndStep :=
  match d.closing.findAt text pos, d.escapeAt text pos with
  | none, none => .finish none
  | none, some e => .goOn e.2 (e :: escapes)
  | some t, none => atDelimiter text escapes t
  | some t, some e => if e.1 ≤ t.1 then .goOn e.2 (e :: escapes) else atDelimiter text escapes t

/-- Search on from an offset.  `escapes` lists the escapes recorded so far, the last one first.
    Every step leads to a later place, so `fuel` need not exceed the number of places by more than
    one. -/
def findEndFrom (d : Delimiters) (text : Text) : (fuel : Nat) → (pos : Nat) →
    (escapes : List (Nat × Nat)) → EndSearch
  | 0, _, escapes => ⟨none, escapes.reverse⟩
  | fuel + 1, pos, escapes =>
    match d.endStep text pos escapes with
    | .finish stop => ⟨stop, escapes.reverse⟩
    | .goOn pos escapes => findEndFrom d text fuel pos escapes

end Delimiters

namespace BlockRule

/-- The rule that never matches. -/
def disabled (style : StyleId) : BlockRule := ⟨none, style⟩

/-- The rule of a pair of delimiters; if either is empty the rule is disabled.  An empty escape is
    no escape. -/
def compile (opening closing : String) (escape : Option String) (style : StyleId) :
    Except PatternError BlockRule :=
  if opening.isEmpty || closing.isEmpty then .ok (disabled style)
  else do
    let escape ← (match escape with
      | some e => if e.isEmpty then pure none else (Pattern.compile e).map some
      | none => pure none : Except PatternError (Option Pattern))
    let opening ← Pattern.compile opening
    let closing ← Pattern.compile closing
    return ⟨some ⟨opening, closing, escape⟩, style⟩

def isEnabled (r : BlockRule) : Bool := r.delimiters.isSome

/-- The pattern that opens the construct. -/
def opening (r : BlockRule) : Option Pattern := r.delimiters.map (·.opening)

/-- The first opening delimiter that starts at an offset or later. -/
def findStart (r : BlockRule) (text : Text) (pos : Nat) : Option (Nat × Nat) :=
  r.opening.bind (·.findAt text pos)

/-- The end of the construct, searched from an offset on. -/
def findEnd (r : BlockRule) (text : Text) (pos : Nat) : EndSearch :=
  match r.delimiters with
  | some d => d.findEndFrom text (text.length + 2) pos []
  | none => {}

end BlockRule

/-! ## Line states -/

/-- The construct that a line leaves open. -/
inductive LineState where
  | normal
  | inBlockComment
  | inBlockExpression (index : Nat)
  deriving DecidableEq, Repr, Inhabited

namespace LineState

def isNormal (s : LineState) : Bool := s = normal

/-- How a state is written. -/
def name : LineState → String
  | normal => "default"
  | inBlockComment => "blockcomment"
  | inBlockExpression i => "blockexpression[" ++ toString i ++ "]"

end LineState

end Highlight
