/-
  Highlighting a line the plain way.

  Here the exclusive layer goes through the line character by character and remembers nothing.  At
  every character it tries the constructs anew, in the order of `Plain.order`; the first one with a
  match that begins right there wins.  Characters inside a closed construct are passed over.

  * a construct between delimiters is painted up to its end; if it has none it is painted to the
    end of the line and ends the scan.  A block comment or a block expression then stays open, and
    hides what the simple rules found behind its beginning; a quotation does neither;
  * a line comment or a line expression is painted to the end of the line, ends the scan, and
    hides what the simple rules found behind its beginning;
  * a line that begins inside a construct closes it first.

  The recursion is on the characters, so that it ends is plain as well.  This is the highlighting
  as one would tell it to somebody who writes a grammar; that the scan with its remembered matches
  and its jumps makes the same of a line is proved apart from it.

  Most facts about the layer are proved of it here, by one principle of induction: what nothing at
  all has, what a construct passes on and what a line to its end has, the whole layer has
  (`Kept.exclusive`).  The constructs are the cases, so no other proof goes through the recursion.

  Main definition: `Plain.Highlights`.
-/
import Highlight.Scan
import Highlight.Proofs.Pattern.Matches

namespace Highlight

open Scan (Kind Exclusive)

namespace Plain

/-! ## The simple layer -/

/-- The spans of matches that are not empty. -/
def spansOf (style : StyleId) (ms : List (Nat × Nat)) : List Span :=
  (ms.filter fun (start, stop) => start < stop).map fun (start, stop) => .between start stop style

/-- The spans of all matches of some rules, one rule after the other. -/
inductive SimpleLayer (text : Text) : List Rule → List Span → Prop
  | nil : SimpleLayer text [] []
  | disabled {r : Rule} {rules : List Rule} {spans : List Span} (h : r.pattern = none)
      (hrules : SimpleLayer text rules spans) : SimpleLayer text (r :: rules) spans
  | enabled {r : Rule} {p : Pattern} {rules : List Rule} {ms : List (Nat × Nat)}
      {spans : List Span} (h : r.pattern = some p) (hms : p.Successive text 0 none ms)
      (hrules : SimpleLayer text rules spans) :
      SimpleLayer text (r :: rules) (spansOf r.style ms ++ spans)

/-! ## The exclusive layer -/

/-- The constructs in the order in which they are tried, each with the pattern that begins it. -/
def order (g : Grammar) : List (Kind × Option Pattern) :=
  (g.blockExpressions.zipIdx.map fun (r, i) => (.blockExpression i, r.opening)) ++
    [(.quotation, g.quotation.opening), (.lineComment, g.lineComment.pattern),
      (.blockComment, g.blockComment.opening)] ++
    g.lineExpressions.zipIdx.map fun (r, i) => (.lineExpression i, r.pattern)

/-- The end of the match of a pattern that begins right at an offset. -/
def matchAt (text : Text) (pos : Nat) (pattern : Option Pattern) : Option Nat :=
  match pattern.bind (·.findAt text pos) with
  | some (start, stop) => if start = pos then some stop else none
  | none => none

/-- The first construct that begins right at an offset, and the end of the match that begins it. -/
def beginning (g : Grammar) (text : Text) (pos : Nat) : Option (Kind × Nat) :=
  (order g).findSome? fun (kind, pattern) => (matchAt text pos pattern).map (kind, ·)

/-- Paint a construct between delimiters that began at `start`, its end being searched from `inner`
    on.  If it is closed, `goOn` tells what comes behind it; else it ends the line in the state
    `unclosed`, and simple spans from `hides` on are dropped. -/
def enclosed (text : Text) (r : BlockRule) (start inner : Nat) (unclosed : LineState)
    (hides : Option Nat) (goOn : Nat → Exclusive) : Exclusive :=
  let search := r.findEnd text inner
  let spans := spansOf r.style [(start, search.stop.getD text.size)] ++
    spansOf .escape search.escapes
  match search.stop with
  | some stop => ⟨spans ++ (goOn stop).spans, (goOn stop).exit, (goOn stop).hides⟩
  | none => ⟨spans, unclosed, hides⟩

/-- Paint a construct to the end of the line. -/
def toEnd (text : Text) (start : Nat) (style : StyleId) : Exclusive :=
  ⟨spansOf style [(start, text.size)], .normal, some start⟩

/-- Go through the characters from offset `pos` on; those before offset `resume` belong to a
    construct that has been painted. -/
def scan (g : Grammar) (text : Text) (resume pos : Nat) : Text → Exclusive
  | [] => ⟨[], .normal, none⟩
  | c :: rest =>
    let goOn resume := scan g text resume (pos + c.utf8Size) rest
    if pos < resume then goOn resume
    else
      match beginning g text pos with
      | none => goOn resume
      | some (.blockExpression i, stop) =>
        match g.blockExpressions[i]? with
        | some r => enclosed text r pos stop (.inBlockExpression i) (some pos) goOn
        | none => goOn resume
      | some (.quotation, stop) => enclosed text g.quotation pos stop .normal none goOn
      | some (.lineComment, _) => toEnd text pos g.lineComment.style
      | some (.blockComment, stop) =>
        enclosed text g.blockComment pos stop .inBlockComment (some pos) goOn
      | some (.lineExpression i, _) =>
        match g.lineExpressions[i]? with
        | some r => toEnd text pos r.style
        | none => goOn resume

/-- The rule of the construct that a state leaves open. -/
def leftOpen (g : Grammar) : LineState → Option BlockRule
  | .normal => none
  | .inBlockComment => some g.blockComment
  | .inBlockExpression i => g.blockExpressions[i]?

/-- The exclusive layer of a line that begins in a state: a construct that was left open is closed
    first, if its rule is enabled. -/
def exclusive (g : Grammar) (text : Text) (entry : LineState) : Exclusive :=
  match (leftOpen g entry).filter (·.isEnabled) with
  | some r => enclosed text r 0 0 entry (some 0) fun resume => scan g text resume 0 text
  | none => scan g text 0 0 text

/-! ## Induction -/

section Induction

/-- The rules of constructs between delimiters. -/
def blockRules (g : Grammar) : List BlockRule := g.quotation :: g.blockComment :: g.blockExpressions

/-- The rules of constructs that run to the end of the line. -/
def lineRules (g : Grammar) : List Rule := g.lineComment :: g.lineExpressions

/-- The pattern that begins a kind of construct. -/
def patternOf (g : Grammar) : Kind → Option Pattern
  | .blockExpression i => g.blockExpressions[i]?.bind (·.opening)
  | .quotation => g.quotation.opening
  | .lineComment => g.lineComment.pattern
  | .blockComment => g.blockComment.opening
  | .lineExpression i => g.lineExpressions[i]?.bind (·.pattern)

/-- A construct between delimiters begins at `start`, and its end is searched from `inner` on: the
    state in which the line begins has left it open, or its opening delimiter stands there. -/
inductive Begins (g : Grammar) (text : Text) (entry : LineState) (r : BlockRule) :
    (start inner : Nat) → Prop
  | inherited (hopen : leftOpen g entry = some r) (h : r.isEnabled = true) :
      Begins g text entry r 0 0
  | opened {start inner : Nat} (hr : r ∈ blockRules g)
      (h : matchAt text start r.opening = some inner) : Begins g text entry r start inner

variable {g : Grammar} {text : Text} {entry : LineState} {pos stop : Nat}

/-- A match that begins right at an offset is what the search from there finds. -/
theorem matchAt_eq_some {pattern : Option Pattern} (h : matchAt text pos pattern = some stop) :
    ∃ p, pattern = some p ∧ p.findAt text pos = some (pos, stop) := by
  unfold matchAt at h
  split at h
  · rename_i start stop' hmatch
    obtain ⟨p, hp, hfind⟩ := Option.bind_eq_some_iff.mp hmatch
    split at h
    · rename_i hstart
      obtain rfl := Option.some.inj h
      exact ⟨p, hp, hstart ▸ hfind⟩
    · exact absurd h (by simp)
  · exact absurd h (by simp)

/-- The order of the constructs pairs each kind with the pattern that begins it. -/
theorem eq_patternOf_of_mem_order {kind : Kind} {pattern : Option Pattern}
    (h : (kind, pattern) ∈ order g) : pattern = patternOf g kind := by
  simp only [order, List.mem_append, List.mem_map, List.mem_cons, List.not_mem_nil, or_false,
    Prod.mk.injEq] at h
  rcases h with (⟨⟨r, i⟩, hslot, rfl, rfl⟩ | ⟨rfl, rfl⟩ | ⟨rfl, rfl⟩ | ⟨rfl, rfl⟩) |
    ⟨⟨r, i⟩, hslot, rfl, rfl⟩
  · rw [patternOf, List.mk_mem_zipIdx_iff_getElem?.mp hslot, Option.bind_some]
  · rfl
  · rfl
  · rfl
  · rw [patternOf, List.mk_mem_zipIdx_iff_getElem?.mp hslot, Option.bind_some]

/-- A construct begins where the pattern that begins its kind matches. -/
theorem matchAt_of_beginning {kind : Kind} (h : beginning g text pos = some (kind, stop)) :
    matchAt text pos (patternOf g kind) = some stop := by
  obtain ⟨⟨kind', pattern⟩, hmem, hsome⟩ := List.exists_of_findSome?_eq_some h
  obtain ⟨stop', hmatch, heq⟩ := Option.map_eq_some_iff.mp hsome
  obtain ⟨rfl, rfl⟩ := Prod.mk.inj heq
  rw [← eq_patternOf_of_mem_order hmem]
  exact hmatch

/-- What holds of nothing at all from every offset on, and is kept by every construct of the
    grammar that begins at an offset if it holds of what comes behind. -/
structure Kept (g : Grammar) (text : Text) (entry : LineState) (P : Nat → Exclusive → Prop) :
    Prop where
  mono : ∀ {lo lo' : Nat} {layer : Exclusive}, lo ≤ lo' → P lo' layer → P lo layer
  nothing : ∀ lo, P lo ⟨[], .normal, none⟩
  enclosed : ∀ {r : BlockRule} {start inner : Nat} {unclosed : LineState} {hides : Option Nat}
    {goOn : Nat → Exclusive}, Begins g text entry r start inner →
      (∀ from_, hides = some from_ → from_ = start) → (∀ stop, P stop (goOn stop)) →
        P start (enclosed text r start inner unclosed hides goOn)
  toEnd : ∀ {r : Rule} {start stop : Nat}, r ∈ lineRules g →
    matchAt text start r.pattern = some stop → P start (toEnd text start r.style)

variable {P : Nat → Exclusive → Prop}

/-- It holds of what the scan comes to, by induction on the characters that follow. -/
theorem Kept.scan (h : Kept g text entry P) (resume pos : Nat) (rest : Text) :
    P (max resume pos) (scan g text resume pos rest) := by
  induction rest generalizing resume pos with
  | nil => exact h.nothing _
  | cons c rest ih =>
    -- behind a construct it holds from the end of the construct on, wherever the scan stands
    have hgoOn : ∀ resume, P resume (Plain.scan g text resume (pos + c.utf8Size) rest) :=
      fun resume => h.mono (Nat.le_max_left ..) (ih resume _)
    -- where the scan passes a character over, it holds from before this character on as well
    have hskip : P (max resume pos) (Plain.scan g text resume (pos + c.utf8Size) rest) :=
      h.mono (by omega) (ih resume _)
    have hhere : ∀ from_, some pos = some from_ → from_ = pos := fun _ h => (Option.some.inj h).symm
    rw [Plain.scan]
    split
    · exact hskip
    · rename_i hresume
      rw [Nat.max_eq_right (by omega)] at hskip ⊢
      cases hbegin : beginning g text pos with
      | none => exact hskip
      | some m =>
        obtain ⟨kind, stop⟩ := m
        have hmatch := matchAt_of_beginning hbegin
        cases kind with
        | blockExpression i =>
          simp only
          split
          · rename_i r hr
            rw [patternOf, hr, Option.bind_some] at hmatch
            have hmem : r ∈ blockRules g := by simp [blockRules, List.mem_of_getElem? hr]
            exact h.enclosed (.opened hmem hmatch) hhere hgoOn
          · exact hskip
        | quotation =>
          exact h.enclosed (.opened (by simp [blockRules]) hmatch) (fun _ h => absurd h (by simp))
            hgoOn
        | lineComment => exact h.toEnd (by simp [lineRules]) hmatch
        | blockComment => exact h.enclosed (.opened (by simp [blockRules]) hmatch) hhere hgoOn
        | lineExpression i =>
          simp only
          split
          · rename_i r hr
            rw [patternOf, hr, Option.bind_some] at hmatch
            exact h.toEnd (by simp [lineRules, List.mem_of_getElem? hr]) hmatch
          · exact hskip

/-- So it holds of the whole exclusive layer. -/
theorem Kept.exclusive (h : Kept g text entry P) : P 0 (exclusive g text entry) := by
  unfold Plain.exclusive
  split
  · rename_i r hr
    obtain ⟨hopen, henabled⟩ := Option.filter_eq_some_iff.mp hr
    have hbehind : ∀ stop, P stop (Plain.scan g text stop 0 text) :=
      fun stop => h.mono (Nat.le_max_left ..) (h.scan stop 0 text)
    exact h.enclosed (.inherited hopen henabled) (fun _ h => (Option.some.inj h).symm) hbehind
  · exact h.scan 0 0 text

/-- What a line can leave open is a block comment or a block expression. -/
theorem mem_blockRules_of_leftOpen {r : BlockRule} (h : leftOpen g entry = some r) :
    r ∈ blockRules g := by
  cases entry with
  | normal => exact absurd h (by simp [leftOpen])
  | inBlockComment =>
    obtain rfl := Option.some.inj h
    simp [blockRules]
  | inBlockExpression i =>
    have hmem : r ∈ g.blockExpressions := List.mem_of_getElem? h
    simp [blockRules, hmem]

section Begins

variable {r : BlockRule} {start inner : Nat}

/-- Whatever begins between delimiters has a rule of the grammar, inherited or not. -/
theorem Begins.mem (h : Begins g text entry r start inner) : r ∈ blockRules g := by
  cases h with
  | inherited hopen _ => exact mem_blockRules_of_leftOpen hopen
  | opened hr _ => exact hr

end Begins

end Induction

/-! ## Both layers -/

/-- What a line looks like that begins in a state: the spans of the keywords, of the numbers and of
    the expressions, as far as they are not hidden, and over them the exclusive layer. -/
def Highlights (g : Grammar) (text : Text) (entry : LineState) (h : Highlighted) : Prop :=
  ∃ simple, SimpleLayer text (g.keywords ++ [g.numbers] ++ g.expressions) simple ∧
    h.spans = simple.filter (fun s => (exclusive g text entry).hides.all (s.start < ·))
      ++ (exclusive g text entry).spans ∧
    h.exit = (exclusive g text entry).exit

end Plain

end Highlight
