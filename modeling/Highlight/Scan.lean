/-
  Highlighting one line.

  1. **The simple layer** — `simpleSpans` paints every match of the keywords, then of the numbers,
     then of the expressions.

  2. **The exclusive layer** — a single scan from left to right over the constructs that shut each
     other out: block expressions, quotations, comments, line expressions.  It first closes what
     the line before left open.  Then, at each offset, the first kind in the order of `starters`
     with a match right there wins; what it covers is not scanned again.  A construct that reaches
     the end of the line ends the scan.  A line comment, a line expression or a construct left open
     hides the simple spans that start behind its own beginning, so these are dropped
     (`Outcome.hides`).

  3. **Remembered matches** — finding starts is the costly part.  Each kind keeps its next match
     (`Starter.next`) and looks for another only when the scan has passed it; where nothing starts,
     the scan jumps to the nearest remembered match.

  Main definition: `highlight`.
-/
import Highlight.Grammar

namespace Highlight

/-- What a line looks like: its spans in the order of painting, and the state it leaves. -/
structure Highlighted where
  spans : List Span
  exit : LineState
  deriving DecidableEq, Repr, Inhabited

namespace Scan

/-- The span between two offsets, or nothing if it is empty. -/
def spanOf (start stop : Nat) (style : StyleId) : List Span :=
  if start < stop then [.between start stop style] else []

/-! ## The simple layer -/

/-- The spans of a rule's matches. -/
def ruleSpans (text : Text) (r : Rule) : List Span :=
  (r.findAll text).flatMap fun (start, stop) => spanOf start stop r.style

/-- The simple rules in the order of painting. -/
def simpleRules (g : Grammar) : List Rule := g.keywords ++ g.numbers :: g.expressions

/-- Every match of the simple rules. -/
def simpleSpans (g : Grammar) (text : Text) : List Span := (simpleRules g).flatMap (ruleSpans text)

/-! ## The constructs of the exclusive layer -/

/-- The kinds of constructs. -/
inductive Kind where
  | blockExpression (index : Nat)
  | quotation
  | lineComment
  | blockComment
  | lineExpression (index : Nat)
  deriving DecidableEq, Repr, Inhabited

/-- A kind of construct, the pattern that starts it, and its next match as far as it is known:
    `searched` is the offset of the last search, if there was one, and `next` what it found. -/
structure Starter where
  kind : Kind
  pattern : Pattern
  next : Option (Nat × Nat) := none
  searched : Option Nat := none
  deriving Repr, Inhabited

namespace Starter

/-- Whether the remembered match says nothing about offset `pos`. -/
def isStale (s : Starter) (pos : Nat) : Bool :=
  match s.searched, s.next with
  | none, _ => true
  | some _, some (start, _) => start < pos
  | some searched, none => pos < searched

/-- Bring the remembered match up to date for an offset. -/
def refresh (s : Starter) (text : Text) (pos : Nat) : Starter :=
  if s.isStale pos then { s with next := s.pattern.findAt text pos, searched := some pos } else s

/-- The match that starts exactly at an offset, going by what is remembered. -/
def hitAt (s : Starter) (pos : Nat) : Option (Nat × Nat) := s.next.filter fun (start, _) => start = pos

end Starter

/-- The starters of some slots: those that have a pattern, in order. -/
def slotStarters {α : Type} (kind : Nat → Kind) (pattern : α → Option Pattern) (slots : List α) :
    List Starter :=
  slots.zipIdx.filterMap fun (slot, i) => (pattern slot).map fun p => { kind := kind i, pattern := p }

/-- The starters of a grammar in the order in which they are tried. -/
def starters (g : Grammar) : List Starter :=
  slotStarters .blockExpression BlockRule.opening g.blockExpressions ++
    slotStarters (fun _ => .quotation) BlockRule.opening [g.quotation] ++
    slotStarters (fun _ => .lineComment) Rule.pattern [g.lineComment] ++
    slotStarters (fun _ => .blockComment) BlockRule.opening [g.blockComment] ++
    slotStarters .lineExpression Rule.pattern g.lineExpressions

/-- The first starter with a match at an offset, and the starters with their matches brought up to
    date as far as they had to be looked at. -/
def firstHit (text : Text) (pos : Nat) : List Starter → Option (Kind × Nat × Nat) × List Starter
  | [] => (none, [])
  | s :: rest =>
    let s := s.refresh text pos
    match s.hitAt pos with
    | some (start, stop) => (some (s.kind, start, stop), s :: rest)
    | none =>
      let (hit, rest) := firstHit text pos rest
      (hit, s :: rest)

/-- The nearest remembered match. -/
def nearest (ss : List Starter) : Option Nat := (ss.filterMap fun s => s.next.map (·.1)).min?

/-! ## Handling a construct -/

/-- What a construct does to the scan: the spans it adds, and how the scan goes on. -/
inductive Outcome where
  /-- The construct is closed at an offset. -/
  | closed (spans : List Span) (stop : Nat)
  /-- The scan ends in a state; `hides` is the offset from which on simple spans are dropped. -/
  | ended (spans : List Span) (exit : LineState) (hides : Option Nat)
  deriving Repr, Inhabited

/-- The spans of a delimited construct that began at `start`, and of the escapes in it. -/
def blockSpans (text : Text) (r : BlockRule) (start : Nat) (search : EndSearch) : List Span :=
  spanOf start (search.stop.getD text.size) r.style ++
    search.escapes.flatMap fun (a, b) => spanOf a b .escape

/-- Handle a delimited construct that began at `start`, its end being searched from `inner` on: if
    it is not closed it ends the line as `unclosed` says. -/
def block (text : Text) (r : BlockRule) (start inner : Nat) (exit : LineState) (hides : Option Nat) :
    Outcome :=
  let search := r.findEnd text inner
  let spans := blockSpans text r start search
  match search.stop with
  | some stop => .closed spans stop
  | none => .ended spans exit hides

/-- Handle a construct whose opening match is given. -/
def construct (g : Grammar) (text : Text) (kind : Kind) (start stop : Nat) : Outcome :=
  match kind with
  | .blockExpression i =>
    match g.blockExpressions[i]? with
    | some r => block text r start stop (.inBlockExpression i) (some start)
    | none => .ended [] .normal none
  | .quotation => block text g.quotation start stop .normal none
  | .lineComment =>
    .ended (spanOf start text.size g.lineComment.style) .normal (some start)
  | .blockComment => block text g.blockComment start stop .inBlockComment (some start)
  | .lineExpression i =>
    match g.lineExpressions[i]? with
    | some r => .ended (spanOf start text.size r.style) .normal (some start)
    | none => .ended [] .normal none

/-- The rule of the construct that a state leaves open, if the grammar has it. -/
def openRule (g : Grammar) : LineState → Option BlockRule
  | .normal => none
  | .inBlockComment => if g.blockComment.isEnabled then some g.blockComment else none
  | .inBlockExpression i => g.blockExpression? i

/-! ## The exclusive layer -/

/-- What the exclusive layer makes of a line. -/
structure Exclusive where
  spans : List Span
  exit : LineState
  hides : Option Nat
  deriving Repr, Inhabited

/-- Scan on from an offset.  Every step leads to a later offset, so `fuel` need not exceed the size
    of the text. -/
def scanFrom (g : Grammar) (text : Text) : (fuel : Nat) → (pos : Nat) → List Starter → Exclusive
  | 0, _, _ => ⟨[], .normal, none⟩
  | fuel + 1, pos, ss =>
    if text.size ≤ pos then ⟨[], .normal, none⟩
    else
      match firstHit text pos ss with
      | (none, ss) =>
        match nearest ss with
        | some next => if pos < next then scanFrom g text fuel next ss else ⟨[], .normal, none⟩
        | none => ⟨[], .normal, none⟩
      | (some (kind, start, stop), ss) =>
        match construct g text kind start stop with
        | .ended spans exit hides => ⟨spans, exit, hides⟩
        | .closed spans resume =>
          let tail := scanFrom g text fuel (if pos < resume then resume else text.nextBoundary pos) ss
          { tail with spans := spans ++ tail.spans }

/-- The exclusive layer of a line that begins in a state. -/
def exclusive (g : Grammar) (text : Text) (entry : LineState) : Exclusive :=
  match openRule g entry with
  | none => scanFrom g text text.size 0 (starters g)
  | some r =>
    match block text r 0 0 entry (some 0) with
    | .ended spans exit hides => ⟨spans, exit, hides⟩
    | .closed spans resume =>
      let tail := scanFrom g text text.size resume (starters g)
      { tail with spans := spans ++ tail.spans }

/-- Drop the spans that start at an offset or later. -/
def dropFrom (hides : Option Nat) (spans : List Span) : List Span :=
  match hides with
  | none => spans
  | some from_ => spans.filter fun s => s.start < from_

end Scan

/-- Highlight a line that begins in a state.  The result depends on nothing else. -/
def highlight (g : Grammar) (text : Text) (entry : LineState) : Highlighted :=
  let layer := Scan.exclusive g text entry
  ⟨Scan.dropFrom layer.hides (Scan.simpleSpans g text) ++ layer.spans, layer.exit⟩

/-- Highlight lines one after the other, each beginning in the state that the one before leaves. -/
def highlightLines (g : Grammar) (entry : LineState) : List Text → List Highlighted
  | [] => []
  | text :: rest =>
    let h := highlight g text entry
    h :: highlightLines g h.exit rest

end Highlight
