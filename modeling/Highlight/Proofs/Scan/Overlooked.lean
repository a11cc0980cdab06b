/-
  Escapes that may match nothing.

  A match of nothing hides nothing, and the search for the end of a construct ignores it.  But of
  the matches ahead it looks at the first one only: where this is a match of nothing, an escape
  behind it is not seen, though it may come before the next delimiter.

  1. **Filled matches** — `Pattern.findFilled` gives the first match that has a character.  It is
     what the search should go by if matches of nothing are not to matter.

  2. **Another matcher** — `Delimiters.findEndBy` is the search with any matcher in the place of the
     escape; with the escape's own first match it is the search as it stands (`findEnd_eq_by`).

  3. **The crux** — the two searches take the same steps up to the first place where the escape is
     overlooked (`endStep_eq_filled`).  There one of them records an escape that begins before all
     that the other one can still record (`le_of_mem_findEndFrom`), so they never come to the same.

  Main result: **`findEnd_eq_filled_iff`**.
-/
import Highlight.Proofs.Scan.Closing

namespace Highlight

/-! ## Filled matches

  `Pattern.findAt` gives the leftmost match, filled or not.  To find the first one that is filled
  the offsets are tried one by one. -/

namespace Pattern

variable {p : Pattern} {text : Text} {m : Nat × Nat} {pos : Nat}

/-- The match that starts at an offset, if it has a character. -/
def filledAt (p : Pattern) (text : Text) (q : Nat) : Option (Nat × Nat) :=
  (p.findAt text q).filter fun (start, stop) => start = q ∧ start < stop

/-- The first match with a character that starts at offset `pos` or later: the offsets are tried
    from left to right. -/
def findFilled (p : Pattern) (text : Text) (pos : Nat) : Option (Nat × Nat) :=
  (List.range' pos (text.size + 1 - pos)).findSome? (p.filledAt text)

/-- A filled match at an offset is the match there, if it has a character. -/
theorem filledAt_eq_some_iff {q : Nat} :
    p.filledAt text q = some m ↔ p.Matches text m ∧ m.1 = q ∧ m.1 < m.2 := by
  unfold filledAt
  rw [Option.filter_eq_some_iff]
  simp only [decide_eq_true_eq]
  constructor
  · rintro ⟨hfind, rfl, hlt⟩
    exact ⟨hfind, rfl, hlt⟩
  · rintro ⟨hmatch, rfl, hlt⟩
    exact ⟨hmatch, rfl, hlt⟩

/-- The offset of a match is one of those that are tried. -/
theorem Matches.mem_range' (h : p.Matches text m) (hpos : pos ≤ m.1) :
    m.1 ∈ List.range' pos (text.size + 1 - pos) := by
  have hbounds := le_of_findAt h
  rw [List.mem_range'_1]
  omega

/-- **What is found is the first match with a character.** -/
theorem findFilled_eq_some_iff :
    p.findFilled text pos = some m ↔ (p.Matches text m ∧ pos ≤ m.1 ∧ m.1 < m.2) ∧
      ∀ m', p.Matches text m' → pos ≤ m'.1 → m'.1 < m'.2 → m.1 ≤ m'.1 := by
  have hsorted : (List.range' pos (text.size + 1 - pos)).Pairwise (· < ·) :=
    List.pairwise_lt_range'
  unfold findFilled
  rw [List.findSome?_eq_some_iff]
  constructor
  · rintro ⟨before, q, after, hsplit, hq, hbefore⟩
    obtain ⟨hmatch, rfl, hlt⟩ := filledAt_eq_some_iff.mp hq
    have hmem : m.1 ∈ List.range' pos (text.size + 1 - pos) := by
      rw [hsplit]
      exact List.mem_append_right _ (List.mem_cons_self ..)
    refine ⟨⟨hmatch, (List.mem_range'_1.mp hmem).1, hlt⟩, fun m' hmatch' hpos' hlt' => ?_⟩
    -- a match further to the left would have been found
    have hmem' := hmatch'.mem_range' hpos'
    rw [hsplit] at hmem' hsorted
    obtain ⟨-, hafter, -⟩ := List.pairwise_append.mp hsorted
    rcases List.mem_append.mp hmem' with hleft | hright
    · have hnone := hbefore _ hleft
      rw [filledAt_eq_some_iff.mpr ⟨hmatch', rfl, hlt'⟩] at hnone
      exact absurd hnone (by simp)
    · rcases List.mem_cons.mp hright with heq | hright
      · exact Nat.le_of_eq heq.symm
      · exact Nat.le_of_lt ((List.pairwise_cons.mp hafter).1 _ hright)
  · rintro ⟨⟨hmatch, hpos, hlt⟩, hfirst⟩
    obtain ⟨before, after, hsplit⟩ := List.append_of_mem (hmatch.mem_range' hpos)
    refine ⟨before, m.1, after, hsplit, filledAt_eq_some_iff.mpr ⟨hmatch, rfl, hlt⟩, ?_⟩
    intro q hq
    rw [hsplit] at hsorted
    have hlow : q < m.1 := (List.pairwise_append.mp hsorted).2.2 q hq _ (List.mem_cons_self ..)
    have hmem : q ∈ List.range' pos (text.size + 1 - pos) := by
      rw [hsplit]
      exact List.mem_append_left _ hq
    refine Option.eq_none_iff_forall_ne_some.mpr fun m' hm' => ?_
    obtain ⟨hmatch', rfl, hlt'⟩ := filledAt_eq_some_iff.mp hm'
    have hle := hfirst m' hmatch' (List.mem_range'_1.mp hmem).1 hlt'
    omega

/-- Where the first match of all has a character, it is the one. -/
theorem findFilled_of_lt (h : p.findAt text pos = some m) (hlt : m.1 < m.2) :
    p.findFilled text pos = some m := by
  refine findFilled_eq_some_iff.mpr ⟨⟨matches_of_findAt h, (le_of_findAt h).1, hlt⟩, ?_⟩
  exact fun m' hmatch' hpos' _ => le_of_matchesAt h hpos' hmatch'.at

end Pattern

/-! ## Another matcher

  One search with the matcher as a parameter, so that the search as it stands and the one that goes
  by filled matches are two instances of it, and can be compared step by step. -/

namespace Delimiters

/-- One step of a search whose escapes are what a matcher finds from an offset on. -/
def endStepBy (d : Delimiters) (matcher : Nat → Option (Nat × Nat)) (text : Text) (pos : Nat)
    (escapes : List (Nat × Nat)) : EndStep :=
  match d.closing.findAt text pos, (matcher pos).filter fun (start, stop) => start ≠ stop with
  | none, none => .finish none
  | none, some e => .goOn e.2 (e :: escapes)
  | some t, none => atDelimiter text escapes t
  | some t, some e => if e.1 ≤ t.1 then .goOn e.2 (e :: escapes) else atDelimiter text escapes t

/-- The search of `findEndFrom`, its escapes being what a matcher finds. -/
def findEndFromBy (d : Delimiters) (matcher : Nat → Option (Nat × Nat)) (text : Text) :
    (fuel : Nat) → (pos : Nat) → (escapes : List (Nat × Nat)) → EndSearch
  | 0, _, escapes => ⟨none, escapes.reverse⟩
  | fuel + 1, pos, escapes =>
    match d.endStepBy matcher text pos escapes with
    | .finish stop => ⟨stop, escapes.reverse⟩
    | .goOn pos escapes => findEndFromBy d matcher text fuel pos escapes

/-- The end of a construct, searched from an offset on, with a matcher in the place of the
    escape. -/
def findEndBy (d : Delimiters) (matcher : Nat → Option (Nat × Nat)) (text : Text) (pos : Nat) :
    EndSearch :=
  d.findEndFromBy matcher text (text.length + 2) pos []

/-- What the escape matches from an offset on. -/
def firstEscape (d : Delimiters) (text : Text) (pos : Nat) : Option (Nat × Nat) :=
  d.escape.bind (·.findAt text pos)

/-- The first match of the escape, from an offset on, that has a character. -/
def filledEscape (d : Delimiters) (text : Text) (pos : Nat) : Option (Nat × Nat) :=
  d.escape.bind (·.findFilled text pos)

/-- **The search goes by the first match of the escape**, filled or not. -/
theorem findEndFrom_eq_by (d : Delimiters) (text : Text) (fuel pos : Nat)
    (escapes : List (Nat × Nat)) : d.findEndFrom text fuel pos escapes
      = d.findEndFromBy (d.firstEscape text) text fuel pos escapes := by
  induction fuel generalizing pos escapes with
  | zero => rfl
  | succ fuel ih =>
    have hstep : d.endStep text pos escapes
        = d.endStepBy (d.firstEscape text) text pos escapes := rfl
    unfold findEndFrom findEndFromBy
    rw [hstep]
    cases d.endStepBy (d.firstEscape text) text pos escapes with
    | finish stop => rfl
    | goOn next between => exact ih next between

/-- The search for the end of a construct is the one with the escape's own first match for its
    matcher. -/
theorem findEnd_eq_by (d : Delimiters) (style : StyleId) (text : Text) (inner : Nat) :
    BlockRule.findEnd ⟨some d, style⟩ text inner = d.findEndBy (d.firstEscape text) text inner :=
  d.findEndFrom_eq_by text (text.length + 2) inner []

end Delimiters

namespace Closing

open Delimiters (filledEscape)

section Overlooked

variable {d : Delimiters} {text : Text} {pos pos' : Nat} {e : Nat × Nat}
  {escapes escapes' : List (Nat × Nat)}

/-- An escape is overlooked from an offset on: the first match is one of nothing, and one with a
    character begins further on, at the next delimiter or before. -/
def Overlooks (d : Delimiters) (text : Text) (pos : Nat) : Prop :=
  ∃ p, d.escape = some p ∧ (∃ q, p.findAt text pos = some (q, q)) ∧
    ∃ e, p.Matches text e ∧ pos ≤ e.1 ∧ e.1 < e.2 ∧
      ∀ t, d.closing.findAt text pos = some t → e.1 ≤ t.1

/-- A search that stands at an offset, with some escapes recorded, comes to stand at another. -/
inductive Comes (d : Delimiters) (text : Text) :
    (pos : Nat) → (escapes : List (Nat × Nat)) → (pos' : Nat) → (escapes' : List (Nat × Nat)) → Prop
  | here {pos : Nat} {escapes : List (Nat × Nat)} : Comes d text pos escapes pos escapes
  | goOn {pos next pos' : Nat} {escapes between escapes' : List (Nat × Nat)}
      (h : d.endStep text pos escapes = .goOn next between)
      (hlater : Comes d text next between pos' escapes') : Comes d text pos escapes pos' escapes'

/-! ## Steps

  A step goes by the match ahead only as far as it comes before the next delimiter.  So the two
  matchers may differ and the step still be the same; they part where the difference counts
  (`Overlooks`). -/

/-- What the matcher of filled matches finds has a character and begins at the offset or behind. -/
theorem filledEscape_spec (h : d.filledEscape text pos = some e) : pos ≤ e.1 ∧ e.1 < e.2 := by
  obtain ⟨p, -, hfilled⟩ := Option.bind_eq_some_iff.mp h
  exact (Pattern.findFilled_eq_some_iff.mp hfilled).1.2

/-- A matcher of filled matches finds what is not filtered away. -/
theorem filter_filledEscape (d : Delimiters) (text : Text) (pos : Nat) :
    ((d.filledEscape text pos).filter fun (start, stop) => start ≠ stop)
      = d.filledEscape text pos := by
  cases h : d.filledEscape text pos with
  | none => rfl
  | some e =>
    have hlt := (filledEscape_spec h).2
    exact Option.filter_eq_some_iff.mpr ⟨rfl, decide_eq_true (Nat.ne_of_lt hlt)⟩

/-- An escape that is seen is the first one with a character. -/
theorem filledEscape_of_escapeAt (h : d.escapeAt text pos = some e) :
    d.filledEscape text pos = some e := by
  have hlt := (escapeAt_spec h).2.2.1
  obtain ⟨hfind, -⟩ := Option.filter_eq_some_iff.mp h
  obtain ⟨p, hp, hmatch⟩ := Option.bind_eq_some_iff.mp hfind
  rw [filledEscape, hp, Option.bind_some, Pattern.findFilled_of_lt hmatch hlt]

/-- Where no escape is seen although there is one, the first match is one of nothing. -/
theorem overlooks_of_unseen (hunseen : d.escapeAt text pos = none)
    (hfilled : d.filledEscape text pos = some e)
    (hfirst : ∀ t, d.closing.findAt text pos = some t → e.1 ≤ t.1) : Overlooks d text pos := by
  obtain ⟨p, hp, hfound⟩ := Option.bind_eq_some_iff.mp hfilled
  obtain ⟨⟨hmatch, hpos, hlt⟩, -⟩ := Pattern.findFilled_eq_some_iff.mp hfound
  refine ⟨p, hp, ?_, e, hmatch, hpos, hlt, hfirst⟩
  cases hfind : p.findAt text pos with
  | none => exact absurd hmatch.at (Pattern.not_matchesAt hfind hpos)
  | some m =>
    obtain ⟨start, stop⟩ := m
    rw [Delimiters.escapeAt, hp, Option.bind_some, hfind, Option.filter_some] at hunseen
    have hsame : start = stop := by simpa using hunseen
    exact ⟨start, by rw [hsame]⟩

/-- **Where nothing is overlooked, the searches take the same step.** -/
theorem endStep_eq_filled (h : ¬Overlooks d text pos) (escapes : List (Nat × Nat)) :
    d.endStep text pos escapes = d.endStepBy (d.filledEscape text) text pos escapes := by
  unfold Delimiters.endStep Delimiters.endStepBy
  rw [filter_filledEscape]
  cases hescape : d.escapeAt text pos with
  | some e =>
    have hfilled := filledEscape_of_escapeAt hescape
    cases d.closing.findAt text pos <;> simp only [hfilled]
  | none =>
    cases hfilled : d.filledEscape text pos with
    | none => rfl
    | some e =>
      -- the escape that is not seen lies behind the next delimiter
      cases hclosing : d.closing.findAt text pos with
      | none =>
        exact absurd (overlooks_of_unseen hescape hfilled fun t ht =>
          absurd (hclosing.symm.trans ht) (by simp)) h
      | some t =>
        have hbehind : ¬e.1 ≤ t.1 := by
          intro hle
          refine h (overlooks_of_unseen hescape hfilled fun t' ht' => ?_)
          obtain rfl := Option.some.inj (hclosing.symm.trans ht')
          exact hle
        simp only [if_neg hbehind]

/-- Where an escape is overlooked, no escape is seen, and the other search records one that begins
    at the next delimiter or before. -/
theorem Overlooks.unseen (h : Overlooks d text pos) (escapes : List (Nat × Nat)) :
    d.escapeAt text pos = none ∧ ∃ e, pos ≤ e.1 ∧ e.1 < e.2 ∧
      (∀ t, d.closing.findAt text pos = some t → e.1 ≤ t.1) ∧
      d.endStepBy (d.filledEscape text) text pos escapes = .goOn e.2 (e :: escapes) := by
  obtain ⟨p, hp, ⟨q, hempty⟩, e, hmatch, hpos, hlt, hfirst⟩ := h
  have hunseen : d.escapeAt text pos = none := by
    rw [Delimiters.escapeAt, hp, Option.bind_some, hempty]
    simp
  refine ⟨hunseen, ?_⟩
  -- the first escape with a character begins no later
  have hsome : (p.findFilled text pos).isSome := by
    refine List.findSome?_isSome_iff.mpr ⟨e.1, hmatch.mem_range' hpos, ?_⟩
    rw [Pattern.filledAt_eq_some_iff.mpr ⟨hmatch, rfl, hlt⟩]
    rfl
  obtain ⟨e', hfound⟩ := Option.isSome_iff_exists.mp hsome
  obtain ⟨⟨-, hpos', hlt'⟩, hleast⟩ := Pattern.findFilled_eq_some_iff.mp hfound
  have hle := hleast e hmatch hpos hlt
  have hfirst' : ∀ t, d.closing.findAt text pos = some t → e'.1 ≤ t.1 :=
    fun t ht => Nat.le_trans hle (hfirst t ht)
  have hfilled : d.filledEscape text pos = some e' := by
    rw [filledEscape, hp, Option.bind_some, hfound]
  refine ⟨e', hpos', hlt', hfirst', ?_⟩
  unfold Delimiters.endStepBy
  rw [filter_filledEscape, hfilled]
  cases hclosing : d.closing.findAt text pos with
  | none => rfl
  | some t => simp only [if_pos (hfirst' t hclosing)]

/-! ## Runs

  If no place that the search comes to is one where an escape is overlooked, the runs are the same
  by induction on the fuel.  If one is, the first such place decides: both searches have come to it
  with the same escapes, and only one of them records an escape there. -/

/-- What is recorded from an offset on begins there or later. -/
theorem le_of_mem_findEndFrom (fuel : Nat)
    (h : e ∈ (d.findEndFrom text fuel pos escapes).escapes) : e ∈ escapes ∨ pos ≤ e.1 := by
  induction fuel generalizing pos escapes with
  | zero => exact .inl (List.mem_reverse.mp h)
  | succ fuel ih =>
    have hstep := step_endStep d text pos escapes
    unfold Delimiters.findEndFrom at h
    cases hnext : d.endStep text pos escapes with
    | finish stop =>
      rw [hnext] at h
      exact .inl (List.mem_reverse.mp h)
    | goOn next between =>
      rw [hnext] at h hstep
      have hlater := ih h
      -- a step goes on further right, and records at most one escape that begins ahead
      cases hstep with
      | @escape e' hescape _ =>
        obtain ⟨-, hpos, hlt, -⟩ := escapeAt_spec hescape
        rcases hlater with hmem | hle
        · rcases List.mem_cons.mp hmem with rfl | hold
          · exact .inr hpos
          · exact .inl hold
        · exact .inr (by omega)
      | @pass t hclosing _ _ =>
        have hpos := (Pattern.le_of_findAt hclosing).1
        have hresume := lt_resume text t
        rcases hlater with hold | hle
        · exact .inl hold
        · exact .inr (by omega)

/-- What is recorded stays recorded. -/
theorem mem_findEndFromBy {matcher : Nat → Option (Nat × Nat)} (fuel : Nat) (h : e ∈ escapes) :
    e ∈ (d.findEndFromBy matcher text fuel pos escapes).escapes := by
  induction fuel generalizing pos escapes with
  | zero => exact List.mem_reverse.mpr h
  | succ fuel ih =>
    have hkeeps : ∀ next between,
        d.endStepBy matcher text pos escapes = .goOn next between → e ∈ between := by
      intro next between hnext
      unfold Delimiters.endStepBy Delimiters.atDelimiter at hnext
      grind
    unfold Delimiters.findEndFromBy
    cases hnext : d.endStepBy matcher text pos escapes with
    | finish stop => exact List.mem_reverse.mpr h
    | goOn next between => exact ih (hkeeps next between hnext)

/-- The escapes that are recorded lie behind the offset where the search goes on. -/
theorem behind_of_goOn (hbehind : ∀ e ∈ escapes, e.2 ≤ pos)
    (h : d.endStep text pos escapes = .goOn pos' escapes') : ∀ e ∈ escapes', e.2 ≤ pos' := by
  have hstep := step_endStep d text pos escapes
  rw [h] at hstep
  cases hstep with
  | escape hescape _ =>
    obtain ⟨-, hpos, hlt, -⟩ := escapeAt_spec hescape
    refine List.forall_mem_cons.mpr ⟨Nat.le_refl _, fun e' he' => ?_⟩
    have hold := hbehind e' he'
    omega
  | @pass t hclosing _ _ =>
    have hpos := (Pattern.le_of_findAt hclosing).1
    have hresume := lt_resume text t
    intro e' he'
    have hold := hbehind e' he'
    omega

/-- **Where an escape is overlooked, the searches part for good.** -/
theorem Overlooks.ne (h : Overlooks d text pos) (hbehind : ∀ e ∈ escapes, e.2 ≤ pos) (fuel : Nat) :
    d.findEndFrom text (fuel + 1) pos escapes
      ≠ d.findEndFromBy (d.filledEscape text) text (fuel + 1) pos escapes := by
  obtain ⟨hunseen, e, hpos, hlt, hfirst, hrecords⟩ := h.unseen escapes
  intro heq
  have hmem : e ∈ (d.findEndFrom text (fuel + 1) pos escapes).escapes := by
    rw [heq, Delimiters.findEndFromBy, hrecords]
    exact mem_findEndFromBy fuel (List.mem_cons_self ..)
  have hnew : e ∉ escapes := fun hold => by
    have hstop := hbehind e hold
    omega
  have hstep := step_endStep d text pos escapes
  unfold Delimiters.findEndFrom at hmem
  cases hnext : d.endStep text pos escapes with
  | finish stop =>
    rw [hnext] at hmem
    exact hnew (List.mem_reverse.mp hmem)
  | goOn next between =>
    rw [hnext] at hmem hstep
    cases hstep with
    | escape hescape _ => exact absurd (hunseen.symm.trans hescape) (by simp)
    | @pass t hclosing _ _ =>
      -- behind a delimiter that is passed all escapes come too late
      have hle := hfirst t hclosing
      have hresume := lt_resume text t
      rcases le_of_mem_findEndFrom fuel hmem with hold | hlate
      · exact hnew hold
      · omega

/-- **From any offset on**, with the escapes recorded behind it, the two searches come to the same
    just if none is overlooked on the way. -/
theorem findEndFrom_eq_filled_iff (fuel : Nat) (hfuel : text.placesFrom pos < fuel)
    (hbehind : ∀ e ∈ escapes, e.2 ≤ pos) :
    d.findEndFrom text fuel pos escapes
        = d.findEndFromBy (d.filledEscape text) text fuel pos escapes
      ↔ ∀ pos' escapes', Comes d text pos escapes pos' escapes' → ¬Overlooks d text pos' := by
  induction fuel generalizing pos escapes with
  | zero => exact absurd hfuel (Nat.not_lt_zero _)
  | succ fuel ih =>
    by_cases hover : Overlooks d text pos
    · exact ⟨fun heq => absurd heq (hover.ne hbehind fuel), fun hnone =>
        absurd hover (hnone pos escapes .here)⟩
    · -- nothing is overlooked here, so both take the same step
      unfold Delimiters.findEndFrom Delimiters.findEndFromBy
      rw [← endStep_eq_filled hover]
      cases hnext : d.endStep text pos escapes with
      | finish stop =>
        refine ⟨fun _ pos' escapes' hcomes => ?_, fun _ => rfl⟩
        cases hcomes with
        | here => exact hover
        | goOn hstep _ => exact absurd (hnext.symm.trans hstep) (by simp)
      | goOn next between =>
        obtain ⟨n, hplace, hpos, hlt⟩ := exists_place_of_goOn hnext
        have hfewer := Text.placesFrom_lt hplace hpos hlt
        have hlater := ih (by omega) (behind_of_goOn hbehind hnext)
        refine hlater.trans ⟨fun hnone pos' escapes' hcomes => ?_, fun hnone pos' escapes' hcomes =>
          hnone pos' escapes' (.goOn hnext hcomes)⟩
        cases hcomes with
        | here => exact hover
        | goOn hstep hrest =>
          obtain ⟨rfl, rfl⟩ := Delimiters.EndStep.goOn.inj (hnext.symm.trans hstep)
          exact hnone pos' escapes' hrest

end Overlooked

end Closing

/-- **When matches of nothing do not matter.**  The search for the end of a construct goes by the
    first match of the escape from each offset on.  It comes to what it would come to if it went by
    the first match with a character exactly if it never stands where an escape is overlooked. -/
theorem findEnd_eq_filled_iff (d : Delimiters) (style : StyleId) (text : Text) (inner : Nat) :
    BlockRule.findEnd ⟨some d, style⟩ text inner = d.findEndBy (d.firstEscape text) text inner ∧
      (BlockRule.findEnd ⟨some d, style⟩ text inner = d.findEndBy (d.filledEscape text) text inner ↔
        ∀ pos escapes, Closing.Comes d text inner [] pos escapes →
          ¬Closing.Overlooks d text pos) := by
  refine ⟨d.findEnd_eq_by style text inner, ?_⟩
  have hplaces := Text.placesFrom_le text inner
  exact Closing.findEndFrom_eq_filled_iff (text.length + 2) (by omega)
    fun e he => absurd he List.not_mem_nil

/-- An escape of any number of backslashes, none included: at the letter it matches nothing, and so
    the backslash behind it hides no quotation mark, as it would if one had to be there. -/
theorem star_escape_overlooked :
    let text := "a\\\"b\"".toList
    (BlockRule.compile "\"" "\"" (some "\\\\+") .quotation).toOption.map (·.findEnd text 0)
        = some ⟨some 5, [(1, 2)]⟩ ∧
      ∃ d p, (BlockRule.compile "\"" "\"" (some "\\\\*") .quotation).toOption
          = some ⟨some d, .quotation⟩ ∧
        d.escape = some p ∧ p.findAt text 0 = some (0, 0) ∧
        BlockRule.findEnd ⟨some d, .quotation⟩ text 0 = ⟨some 3, []⟩ ∧
        d.findEndBy (d.filledEscape text) text 0 = ⟨some 5, [(1, 2)]⟩ := by
  intro text
  refine ⟨by decide +kernel, ?_⟩
  have hfound : ((BlockRule.compile "\"" "\"" (some "\\\\*") .quotation).toOption.bind
      fun r => r.delimiters.bind fun d => d.escape.map fun p =>
        (r.style, p.findAt text 0, d.findEndFrom text (text.length + 2) 0 [],
          d.findEndBy (d.filledEscape text) text 0))
      = some (.quotation, some (0, 0), ⟨some 3, []⟩, ⟨some 5, [(1, 2)]⟩) := by decide +kernel
  obtain ⟨⟨delimiters, style⟩, hcompile, hfound⟩ := Option.bind_eq_some_iff.mp hfound
  obtain ⟨d, rfl, hfound⟩ := Option.bind_eq_some_iff.mp hfound
  obtain ⟨p, hp, hvalues⟩ := Option.map_eq_some_iff.mp hfound
  simp only [Prod.mk.injEq] at hvalues
  obtain ⟨rfl, hempty, hfind, hfilled⟩ := hvalues
  exact ⟨d, p, hcompile, hp, hempty, hfind, hfilled⟩

end Highlight
