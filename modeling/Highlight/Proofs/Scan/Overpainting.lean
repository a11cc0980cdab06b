/-
  Hiding spans leaves no trace.

  A construct that runs to the end of the line hides the simple spans that begin behind its own
  beginning: they are dropped from the painting.  They would not have shown anyway.

  1. **Painting over** — spans may be dropped from a painting if all that they paint is painted over
     (`shownAt_append_filter`).

  2. **The crux** — where the exclusive layer hides spans from an offset on, it has painted every
     byte from there to the end of the line (`exclusive_covers`): the construct that hides them is
     painted from this very offset on, and what comes after it paints over it.

  3. **The simple layer** — its spans end in the line (`SimpleLayer.stop_le`), so one that begins
     behind the offset is painted over altogether.

  Main result: **`flatten_highlight`**.
-/
import Highlight.Proofs.Scan.Refinement
import Highlight.Proofs.Span.Painting

namespace Highlight

open Painting
open Scan (Exclusive)

/-! ## Painting over -/

/-- **Spans that are painted over may be dropped.** -/
theorem Painting.shownAt_append_filter {keep : Span → Bool} {lower upper : List Span}
    (h : ∀ s ∈ lower, keep s = false → ∀ pos, s.contains pos = true →
      (shownAt upper pos).isSome = true) (pos : Nat) :
    shownAt (lower.filter keep ++ upper) pos = shownAt (lower ++ upper) pos := by
  rw [shownAt_append, shownAt_append]
  cases hupper : shownAt upper pos with
  | some style => rfl
  | none =>
    -- what contains a byte that is not painted over has been kept
    have hkept : ∀ s ∈ lower, (s.contains pos && keep s) = s.contains pos := by
      intro s hs
      cases hcontains : s.contains pos with
      | false => rfl
      | true =>
        cases hkeep : keep s with
        | true => rfl
        | false =>
          have hsome := h s hs hkeep pos hcontains
          rw [hupper] at hsome
          exact absurd hsome (by simp)
    unfold shownAt
    rw [List.filter_filter, List.filter_congr hkept]

namespace Plain

/-! ## What the exclusive layer paints -/

/-- From the offset on from which simple spans are hidden, every byte is painted. -/
def Covers (text : Text) (layer : Exclusive) : Prop :=
  ∀ start, layer.hides = some start → ∀ pos, start ≤ pos → pos < text.size →
    (shownAt layer.spans pos).isSome = true

section Covers

variable {text : Text} {start pos : Nat}

/-- Something shows in a painting over another one if it does in either. -/
theorem isSome_shownAt_append {lower upper : List Span}
    (h : (shownAt lower pos).isSome = true ∨ (shownAt upper pos).isSome = true) :
    (shownAt (lower ++ upper) pos).isSome = true := by
  rw [shownAt_append, Option.isSome_or, Bool.or_eq_true]
  exact h.symm

/-- A match is painted from its beginning to its end. -/
theorem isSome_shownAt_spansOf {stop : Nat} (style : StyleId) (hstart : start ≤ pos)
    (hstop : pos < stop) : (shownAt (spansOf style [(start, stop)]) pos).isSome = true := by
  have hlt : start < stop := Nat.lt_of_le_of_lt hstart hstop
  have hspans : spansOf style [(start, stop)] = [.between start stop style] := by
    simp [spansOf, hlt]
  rw [hspans, isSome_shownAt_iff]
  refine ⟨_, List.mem_singleton.mpr rfl, ?_⟩
  rw [contains_iff, stop_between hlt]
  exact ⟨hstart, hstop⟩

theorem covers_nil : Covers text ⟨[], .normal, none⟩ := fun _ h => absurd h (by simp)

/-- A construct up to the end of the line is painted wherever it hides something. -/
theorem toEnd_covers (text : Text) (start : Nat) (style : StyleId) :
    Covers text (toEnd text start style) := by
  intro from_ hfrom pos hle hlt
  obtain rfl := Option.some.inj hfrom
  exact isSome_shownAt_spansOf style hle hlt

/-- A construct that is not closed is painted to the end of the line; behind one that is closed
    all is up to what comes next. -/
theorem enclosed_covers {r : BlockRule} {inner : Nat} {unclosed : LineState} {hides : Option Nat}
    {goOn : Nat → Exclusive} (hhides : ∀ from_, hides = some from_ → from_ = start)
    (hgoOn : ∀ stop, Covers text (goOn stop)) :
    Covers text (enclosed text r start inner unclosed hides goOn) := by
  intro from_ hfrom pos hle hlt
  unfold enclosed at hfrom ⊢
  simp only at hfrom ⊢
  cases hstop : (r.findEnd text inner).stop with
  | some stop =>
    rw [hstop] at hfrom
    exact isSome_shownAt_append (.inr (hgoOn stop from_ hfrom pos hle hlt))
  | none =>
    rw [hstop] at hfrom
    obtain rfl := hhides from_ hfrom
    exact isSome_shownAt_append (.inl (isSome_shownAt_spansOf _ hle hlt))

/-- **What the exclusive layer hides it has painted over.** -/
theorem exclusive_covers (g : Grammar) (text : Text) (entry : LineState) :
    Covers text (exclusive g text entry) :=
  Kept.exclusive (P := fun _ => Covers text) {
    mono := fun _ h => h
    nothing := fun _ => covers_nil
    enclosed := fun _ hhides hgoOn => enclosed_covers hhides hgoOn
    toEnd := fun _ _ => toEnd_covers text _ _ }

end Covers

/-! ## The simple layer -/

/-- Matches that follow each other have all been found. -/
theorem found_of_successive {p : Pattern} {text : Text} {pos : Nat} {last : Option Nat}
    {ms : List (Nat × Nat)} (h : p.Successive text pos last ms) :
    ∀ m ∈ ms, ∃ q, p.findAt text q = some m := by
  induction h with
  | done => exact fun _ hm => absurd hm List.not_mem_nil
  | next hfind _ _ ih =>
    intro m hm
    rcases List.mem_cons.mp hm with rfl | hm
    · exact ⟨_, hfind⟩
    · exact ih m hm
  | skip _ _ ih => exact ih

/-- Matches are painted in one style, and those of nothing are left out. -/
theorem mem_spansOf {style : StyleId} {ms : List (Nat × Nat)} {s : Span} :
    s ∈ spansOf style ms ↔
      ∃ m ∈ ms, m.1 < m.2 ∧ s = .between m.1 m.2 style := by
  unfold spansOf
  constructor
  · intro hs
    obtain ⟨m, hm, rfl⟩ := List.mem_map.mp hs
    obtain ⟨hmem, hlt⟩ := List.mem_filter.mp hm
    exact ⟨m, hmem, by simpa using hlt, rfl⟩
  · rintro ⟨m, hmem, hlt, rfl⟩
    exact List.mem_map.mpr ⟨m, List.mem_filter.mpr ⟨hmem, by simpa using hlt⟩, rfl⟩

/-- The spans of the simple layer are those of matches that are not empty. -/
theorem SimpleLayer.found {text : Text} {rules : List Rule} {spans : List Span}
    (h : SimpleLayer text rules spans) : ∀ s ∈ spans, ∃ (p : Pattern) (q : Nat) (m : Nat × Nat),
      p.findAt text q = some m ∧ m.1 < m.2 ∧ s = .between m.1 m.2 s.style := by
  induction h with
  | nil => exact fun _ hs => absurd hs List.not_mem_nil
  | disabled _ _ ih => exact ih
  | enabled _ hms _ ih =>
    intro s hs
    rcases List.mem_append.mp hs with hs | hs
    · obtain ⟨m, hm, hlt, rfl⟩ := mem_spansOf.mp hs
      obtain ⟨q, hfind⟩ := found_of_successive hms m hm
      exact ⟨_, q, m, hfind, hlt, rfl⟩
    · exact ih s hs

/-- The spans of the simple layer end in the line. -/
theorem SimpleLayer.stop_le {text : Text} {rules : List Rule} {spans : List Span}
    (h : SimpleLayer text rules spans) : ∀ s ∈ spans, s.stop ≤ text.size := by
  intro s hs
  obtain ⟨p, q, m, hfind, hlt, heq⟩ := h.found s hs
  rw [heq, stop_between hlt]
  exact (Pattern.le_of_findAt hfind).2.2

/-- Hiding spans of the simple layer changes nothing that shows. -/
theorem shownAt_hidden {text : Text} {rules : List Rule} {simple : List Span} {layer : Exclusive}
    (hlayer : SimpleLayer text rules simple) (hcovers : Covers text layer) (pos : Nat) :
    shownAt (simple.filter (fun s => layer.hides.all (s.start < ·)) ++ layer.spans) pos
      = shownAt (simple ++ layer.spans) pos := by
  refine shownAt_append_filter (fun s hs hdropped pos hin => ?_) pos
  obtain ⟨hstart, hstop⟩ := contains_iff.mp hin
  have hend := hlayer.stop_le s hs
  cases hhides : layer.hides with
  | none =>
    rw [hhides] at hdropped
    exact absurd hdropped (by simp)
  | some from_ =>
    rw [hhides] at hdropped
    have hle : from_ ≤ s.start := by simpa using hdropped
    exact hcovers from_ hhides pos (by omega) (by omega)

end Plain

/-- **Hiding spans leaves no trace**, whatever the grammar, the text and the state the line begins
    in: the line looks like all matches of the simple rules with the whole exclusive layer painted
    over them.  A byte that some span of the exclusive layer contains shows the last one that does,
    and only where there is none the last match of a simple rule. -/
theorem flatten_highlight (g : Grammar) (text : Text) (entry : LineState) :
    ∃ simple, Plain.SimpleLayer text (g.keywords ++ [g.numbers] ++ g.expressions) simple ∧
      flatten (highlight g text entry).spans
        = flatten (simple ++ (Plain.exclusive g text entry).spans) ∧
      ∀ pos, shownAt (flatten (highlight g text entry).spans) pos
        = (shownAt (Plain.exclusive g text entry).spans pos).or (shownAt simple pos) := by
  obtain ⟨simple, hlayer, hspans, -⟩ := Plain.highlights_highlight g text entry
  have hshown : ∀ pos, shownAt (highlight g text entry).spans pos
      = shownAt (simple ++ (Plain.exclusive g text entry).spans) pos := by
    intro pos
    rw [hspans]
    exact Plain.shownAt_hidden hlayer (Plain.exclusive_covers g text entry) pos
  refine ⟨simple, hlayer, flatten_eq_iff.mpr hshown, fun pos => ?_⟩
  rw [shownAt_flatten, hshown, shownAt_append]

end Highlight
