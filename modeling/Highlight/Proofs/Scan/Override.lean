/-
  A slot that matches nowhere in a line does not show.

  Two grammars agree on all slots but one.  Where neither has a match for this slot, and the line
  does not begin in its construct, both highlight the line alike.  The crux is that the grammars are
  compared through what their slots come to on this line, and there even the odd slot comes to the
  same, namely to nothing (`AgreeBut.observe`).

  1. **The simple layer** — a slot without a match adds no spans (`simpleSpans_congr`).

  2. **The exclusive layer** — at no offset does the odd slot begin a construct, so at every offset
     the same construct begins in both grammars, and its slot is one of those that agree.  Both scans
     therefore go through the line side by side (`scan_congr`).  This is shown of the plain scan,
     which remembers nothing; that matches are remembered, and how far the scan may jump, does
     depend on the odd slot.

  Main result: **`highlight_congr`**.
-/
import Highlight.Proofs.Slots
import Highlight.Proofs.Scan.Refinement
import Highlight.Proofs.Highlighter.Session

namespace Highlight

open Scan (Kind Outcome ruleSpans simpleSpans construct openRule)

/-! ## Grammars that agree on all slots but one -/

/-- The grammars have as many slots as each other, and the same rules but for one slot. -/
structure Grammar.AgreeBut (id : StyleId) (g g' : Grammar) : Prop where
  count : ∀ c, g.count c = g'.count c
  slot : ∀ other, other ≠ id → g.slot? other = g'.slot? other

/-- The slot has no match in a text. -/
def Grammar.Quiet (g : Grammar) (id : StyleId) (text : Text) : Prop :=
  ∀ s p, g.slot? id = some s → s.starts = some p → p.findAt text 0 = none

/-- The slot whose construct a state leaves open. -/
def LineState.slot? : LineState → Option StyleId
  | .normal => none
  | .inBlockComment => some .blockComment
  | .inBlockExpression i => some (.blockExpression i)

/-- A line that begins in the state goes on with the construct of a slot. -/
def Grammar.Continues (g : Grammar) (entry : LineState) (id : StyleId) : Prop :=
  entry.slot? = some id ∧ (openRule g entry).isSome

/-- The slot of a kind of construct. -/
def Scan.Kind.slot : Kind → StyleId
  | .blockExpression i => .blockExpression i
  | .quotation => .quotation
  | .lineComment => .lineComment
  | .blockComment => .blockComment
  | .lineExpression i => .lineExpression i

/-- The spans of a slot that is painted wherever it matches. -/
def Slot.spans (text : Text) : Slot → List Span
  | rule r => ruleSpans text r
  | block _ => []

section Agree

variable {id : StyleId} {g g' : Grammar} {text : Text} {entry : LineState} {kind : Kind}
  {pos start stop : Nat}

/-- **Whatever gives the same on both versions of the odd slot, gives the same on all slots.** -/
theorem Grammar.AgreeBut.observe {β : Type} {f : Slot → β} {b : β} (hagree : AgreeBut id g g')
    (hodd : ∀ s, g.slot? id = some s → f s = b) (hodd' : ∀ s, g'.slot? id = some s → f s = b)
    (other : StyleId) : (g.slot? other).map f = (g'.slot? other).map f := by
  by_cases hother : other = id
  · subst hother
    -- by their counts, both grammars have the slot or neither has
    have hsome : (g.slot? other).isSome ↔ (g'.slot? other).isSome := by
      rw [g.isSome_slot?_iff, g'.isSome_slot?_iff, hagree.count]
    cases hs : g.slot? other with
    | none =>
      cases hs' : g'.slot? other with
      | none => rfl
      | some s' => simp [hs, hs'] at hsome
    | some s =>
      cases hs' : g'.slot? other with
      | none => simp [hs, hs'] at hsome
      | some s' => simp [hodd s hs, hodd' s' hs']
  · rw [hagree.slot other hother]

namespace Grammar.Quiet

/-- A slot that matches nowhere begins nothing at any offset. -/
theorem matchAt (hquiet : g.Quiet id text) {s : Slot} (hs : g.slot? id = some s) (pos : Nat) :
    Plain.matchAt text pos s.starts = none := by
  cases hmatch : Plain.matchAt text pos s.starts with
  | none => rfl
  | some stop =>
    obtain ⟨p, hp, hfind⟩ := Plain.matchAt_eq_some hmatch
    have hnone : p.findAt text pos = none :=
      Pattern.findAt_eq_none_of_le (hquiet s p hs hp) (Nat.zero_le pos)
    exact absurd (hfind.symm.trans hnone) (by simp)

/-- A slot that matches nowhere paints nothing. -/
theorem spans (hquiet : g.Quiet id text) {s : Slot} (hs : g.slot? id = some s) :
    s.spans text = [] := by
  cases s with
  | block r => rfl
  | rule r =>
    have hnone : r.findAll text = [] := by
      rw [Rule.findAll]
      cases hp : r.pattern with
      | none => rfl
      | some p => exact (Pattern.successive_findAll p text).unique (.done (hquiet _ p hs hp))
    rw [Slot.spans, ruleSpans, hnone, List.flatMap_nil]

end Grammar.Quiet

/-! ## The simple layer -/

/-- Rules that come to the same spans one by one do so together. -/
theorem Scan.flatMap_ruleSpans_congr (text : Text) {rules rules' : List Rule}
    (h : ∀ i : Nat, rules[i]?.map (ruleSpans text) = rules'[i]?.map (ruleSpans text)) :
    rules.flatMap (ruleSpans text) = rules'.flatMap (ruleSpans text) := by
  have hmap : rules.map (ruleSpans text) = rules'.map (ruleSpans text) :=
    List.ext_getElem? fun i => by rw [List.getElem?_map, List.getElem?_map, h]
  rw [List.flatMap_def, List.flatMap_def, hmap]

/-- **The simple layer is the same**: the keywords, the numbers and the expressions each come to the
    same spans, slot by slot. -/
theorem Scan.simpleSpans_congr (hagree : g.AgreeBut id g') (hquiet : g.Quiet id text)
    (hquiet' : g'.Quiet id text) : simpleSpans g text = simpleSpans g' text := by
  have hslot : ∀ other,
      (g.slot? other).map (Slot.spans text) = (g'.slot? other).map (Slot.spans text) :=
    hagree.observe (fun _ => hquiet.spans) fun _ => hquiet'.spans
  have hkeywords := flatMap_ruleSpans_congr text fun i => by
    simpa [Grammar.slot?, Function.comp_def, Slot.spans] using hslot (.keyword i)
  have hexpressions := flatMap_ruleSpans_congr text fun i => by
    simpa [Grammar.slot?, Function.comp_def, Slot.spans] using hslot (.expression i)
  have hnumbers : ruleSpans text g.numbers = ruleSpans text g'.numbers :=
    Option.some.inj (hslot .number)
  simp only [simpleSpans, simpleRules, List.flatMap_append, List.flatMap_cons, hkeywords, hnumbers,
    hexpressions]

/-! ## The exclusive layer -/

namespace Plain

/-- The pattern that begins a construct is that of its slot. -/
theorem patternOf_eq (g : Grammar) (kind : Kind) :
    patternOf g kind = (g.slot? kind.slot).bind Slot.starts := by
  cases kind with
  | blockExpression i =>
    rw [patternOf, Kind.slot, Grammar.slot?, Option.bind_map]
    rfl
  | lineExpression i =>
    rw [patternOf, Kind.slot, Grammar.slot?, Option.bind_map]
    rfl
  | quotation | lineComment | blockComment => rfl

/-- What it comes to that a construct is tried at an offset. -/
def attempt (text : Text) (pos : Nat) (kind : Kind) (s : Slot) : Option (Kind × Nat) :=
  (matchAt text pos s.starts).map (kind, ·)

/-- What it comes to that all constructs are tried. -/
def attempts (g : Grammar) (text : Text) (pos : Nat) : List (Option (Kind × Nat)) :=
  (g.blockExpressions.zipIdx.map fun (r, i) => attempt text pos (.blockExpression i) (.block r)) ++
    [attempt text pos .quotation (.block g.quotation),
      attempt text pos .lineComment (.rule g.lineComment),
      attempt text pos .blockComment (.block g.blockComment)] ++
    g.lineExpressions.zipIdx.map fun (r, i) => attempt text pos (.lineExpression i) (.rule r)

/-- The construct that begins at an offset is the first attempt that succeeds. -/
theorem beginning_eq_attempts (g : Grammar) (text : Text) (pos : Nat) :
    beginning g text pos = (attempts g text pos).findSome? fun m => m := by
  have hattempts : attempts g text pos = (order g).map fun m =>
      (matchAt text pos m.2).map (m.1, ·) := by
    simp [attempts, order, attempt, Slot.starts, Function.comp_def]
  rw [hattempts, List.findSome?_map]
  rfl

/-- Numbered slots that come to the same one by one do so together. -/
theorem map_zipIdx_congr {α β : Type} {f : α → Nat → β} {slots slots' : List α}
    (h : ∀ i : Nat, slots[i]?.map (f · i) = slots'[i]?.map (f · i)) :
    (slots.zipIdx.map fun (a, i) => f a i) = slots'.zipIdx.map fun (a, i) => f a i := by
  refine List.ext_getElem? fun i => ?_
  simpa [List.getElem?_map, List.getElem?_zipIdx, Function.comp_def] using h i

/-- **The same construct begins at every offset.** -/
theorem beginning_congr (hagree : g.AgreeBut id g') (hquiet : g.Quiet id text)
    (hquiet' : g'.Quiet id text) (pos : Nat) : beginning g text pos = beginning g' text pos := by
  have hslot : ∀ kind other,
      (g.slot? other).map (attempt text pos kind) = (g'.slot? other).map (attempt text pos kind) :=
    fun kind => hagree.observe (b := none)
      (fun s hs => by rw [attempt, hquiet.matchAt hs pos, Option.map_none])
      (fun s hs => by rw [attempt, hquiet'.matchAt hs pos, Option.map_none])
  have hblocks := map_zipIdx_congr (f := fun r i => attempt text pos (.blockExpression i) (.block r))
    fun i => by
      simpa [Grammar.slot?, Function.comp_def] using
        hslot (.blockExpression i) (.blockExpression i)
  have hlines := map_zipIdx_congr (f := fun r i => attempt text pos (.lineExpression i) (.rule r))
    fun i => by
      simpa [Grammar.slot?, Function.comp_def] using hslot (.lineExpression i) (.lineExpression i)
  have hquotation := Option.some.inj (hslot .quotation .quotation)
  have hlineComment := Option.some.inj (hslot .lineComment .lineComment)
  have hblockComment := Option.some.inj (hslot .blockComment .blockComment)
  rw [beginning_eq_attempts, beginning_eq_attempts, attempts, attempts, hblocks, hlines, hquotation,
    hlineComment, hblockComment]

/-- The slot of a construct that begins is not the odd one. -/
theorem slot_ne_of_beginning (hquiet : g.Quiet id text)
    (h : beginning g text pos = some (kind, stop)) : kind.slot ≠ id := by
  rintro rfl
  have hmatch := matchAt_of_beginning h
  rw [patternOf_eq] at hmatch
  cases hs : g.slot? kind.slot with
  | none => simp [hs, matchAt] at hmatch
  | some s =>
    rw [hs, Option.bind_some, hquiet.matchAt hs pos] at hmatch
    exact absurd hmatch (by simp)

end Plain

namespace Scan

/-- What a construct does is up to its slot. -/
theorem construct_congr (h : g.slot? kind.slot = g'.slot? kind.slot) :
    construct g text kind start stop = construct g' text kind start stop := by
  cases kind with
  | blockExpression i => simp only [construct, Grammar.blockExpressions_of_slot? h]
  | lineExpression i => simp only [construct, Grammar.lineExpressions_of_slot? h]
  | quotation =>
    have hrule : g.quotation = g'.quotation := Slot.block.inj (Option.some.inj h)
    rw [construct, construct, hrule]
  | lineComment =>
    have hrule : g.lineComment = g'.lineComment := Slot.rule.inj (Option.some.inj h)
    rw [construct, construct, hrule]
  | blockComment =>
    have hrule : g.blockComment = g'.blockComment := Slot.block.inj (Option.some.inj h)
    rw [construct, construct, hrule]

/-- What a line goes on with is up to the slot that its state names. -/
theorem openRule_congr (h : ∀ other, entry.slot? = some other → g.slot? other = g'.slot? other) :
    openRule g entry = openRule g' entry := by
  cases entry with
  | normal => rfl
  | inBlockComment =>
    have hrule : g.blockComment = g'.blockComment := Slot.block.inj (Option.some.inj (h _ rfl))
    rw [openRule, openRule, hrule]
  | inBlockExpression i =>
    rw [openRule, openRule, Grammar.blockExpression?, Grammar.blockExpression?,
      Grammar.blockExpressions_of_slot? (h _ rfl)]

/-- **Both scans go through the line side by side**, by induction on the characters that follow: at
    each of them the same construct begins, and does the same. -/
theorem scan_congr (hagree : g.AgreeBut id g') (hquiet : g.Quiet id text)
    (hquiet' : g'.Quiet id text) (resume pos : Nat) (rest : Text) :
    Plain.scan g text resume pos rest = Plain.scan g' text resume pos rest := by
  induction rest generalizing resume pos with
  | nil => rfl
  | cons c rest ih =>
    have hbegin := Plain.beginning_congr hagree hquiet hquiet' pos
    by_cases hresume : pos < resume
    · rw [Plain.scan, Plain.scan, if_pos hresume, if_pos hresume]
      exact ih resume _
    · cases hfound : Plain.beginning g text pos with
      | none =>
        rw [Plain.scan, Plain.scan, if_neg hresume, if_neg hresume, ← hbegin, hfound]
        exact ih resume _
      | some m =>
        obtain ⟨kind, stop⟩ := m
        have hslot := hagree.slot _ (Plain.slot_ne_of_beginning hquiet hfound)
        rw [scan_of_beginning c rest (Nat.le_of_not_lt hresume) hfound,
          scan_of_beginning c rest (Nat.le_of_not_lt hresume) (hbegin ▸ hfound),
          construct_congr hslot]
        exact finish_congr fun _ resume _ => ih resume _

/-- A line goes on with the same construct in both grammars, unless it is the odd one. -/
theorem openRule_of_agreeBut (hagree : g.AgreeBut id g') (hentry : ¬g.Continues entry id)
    (hentry' : ¬g'.Continues entry id) : openRule g entry = openRule g' entry := by
  by_cases hodd : entry.slot? = some id
  · -- the state names the odd slot, but in neither grammar anything is left open
    have hnone : openRule g entry = none := by
      simpa [Grammar.Continues, hodd] using hentry
    have hnone' : openRule g' entry = none := by
      simpa [Grammar.Continues, hodd] using hentry'
    rw [hnone, hnone']
  · refine openRule_congr fun other hother => hagree.slot other ?_
    rintro rfl
    exact hodd hother

/-- The exclusive layer depends on the construct that is gone on with and on the plain scan from
    there. -/
theorem exclusive_congr (hopen : openRule g entry = openRule g' entry)
    (hscan : ∀ resume, Plain.scan g text resume 0 text = Plain.scan g' text resume 0 text) :
    exclusive g text entry = exclusive g' text entry := by
  rw [exclusive_eq, exclusive_eq, Plain.exclusive, Plain.exclusive, ← openRule_eq, ← openRule_eq,
    hopen]
  simp only [hscan]

end Scan

end Agree

/-- **Overriding a slot is invisible where the slot does not match.**  Two grammars that agree on all
    slots but one highlight a line alike, spans and state, if neither has a match for this slot
    anywhere in the line, and the line goes on with the construct of this slot in neither. -/
theorem highlight_congr {id : StyleId} {g g' : Grammar} {text : Text} {entry : LineState}
    (hagree : g.AgreeBut id g') (hquiet : g.Quiet id text) (hquiet' : g'.Quiet id text)
    (hentry : ¬g.Continues entry id) (hentry' : ¬g'.Continues entry id) :
    highlight g text entry = highlight g' text entry := by
  have hopen := Scan.openRule_of_agreeBut hagree hentry hentry'
  have hlayer := Scan.exclusive_congr hopen fun resume =>
    Scan.scan_congr hagree hquiet hquiet' resume 0 text
  rw [highlight, highlight, hlayer, Scan.simpleSpans_congr hagree hquiet hquiet']

/-- The same with line comments that begin with a hash. -/
def hashComments : Grammar :=
  { parenComments with lineComment := ⟨some (.ofChar '#'), .lineComment⟩ }

/-- They show in no line without a hash, not even in one that begins and ends inside comments. -/
theorem highlight_congr_hashComments :
    highlight parenComments "a)b(c".toList .inBlockComment
      = highlight hashComments "a)b(c".toList .inBlockComment := by
  have hagree : parenComments.AgreeBut .lineComment hashComments := by
    refine ⟨fun c => by cases c <;> rfl, fun other hother => ?_⟩
    cases other with
    | lineComment => exact absurd rfl hother
    | _ => rfl
  have hquiet : parenComments.Quiet .lineComment "a)b(c".toList := by
    rintro s p ⟨⟩ ⟨⟩
  have hquiet' : hashComments.Quiet .lineComment "a)b(c".toList := by
    rintro s p ⟨⟩ ⟨⟩
    decide +kernel
  exact highlight_congr hagree hquiet hquiet' (fun h => absurd h.1 (by decide))
    fun h => absurd h.1 (by decide)

end Highlight
