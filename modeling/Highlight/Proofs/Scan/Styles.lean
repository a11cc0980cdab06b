/-
  The styles that a line is painted in.

  Whatever is painted is painted in the style of one of the grammar's rules; only escapes, which are
  no rules, have a style of their own.

  1. **The styles of a grammar** — `Grammar.stylesOf` lists them by category, and `Grammar.Paints`
     adds that of escapes.  A span list is `PaintsAll` if every span of it has one of these; lists
     of matches keep that (`paintsAll_spansOf`), and so does putting two lists together.

  2. **The two layers** — the simple layer paints matches of simple rules (`SimpleLayer.paints`).
     The exclusive layer paints constructs, whose rule the grammar has as well
     (`paints_of_mem_blockRules`, `paints_of_mem_lineRules`), and the escapes in them; nothing else
     is ever painted, by the induction principle of the plain scan (`exclusive_paints`).

  Main result: `style_of_mem_spans`.  A theme needs no more than these styles to show the line.
-/
import Highlight.Proofs.Scan.Overpainting

namespace Highlight

open Scan (Exclusive)

namespace Grammar

/-- The styles of the rules of a category. -/
def stylesOf (g : Grammar) : Category → List StyleId
  | .plain => []
  | .number => [g.numbers.style]
  | .quotation => [g.quotation.style]
  | .escape => []
  | .lineComment => [g.lineComment.style]
  | .blockComment => [g.blockComment.style]
  | .keyword => g.keywords.map (·.style)
  | .expression => g.expressions.map (·.style)
  | .lineExpression => g.lineExpressions.map (·.style)
  | .blockExpression => g.blockExpressions.map (·.style)

/-- The style of an escape, or that of some rule. -/
def Paints (g : Grammar) (id : StyleId) : Prop := id = .escape ∨ ∃ c, id ∈ g.stylesOf c

/-- All spans are painted in styles of the grammar. -/
def PaintsAll (g : Grammar) (spans : List Span) : Prop := ∀ s ∈ spans, g.Paints s.style

section Paints

variable {g : Grammar} {id : StyleId} {spans spans' : List Span}

/-- The style of a rule is one of the grammar's, whichever category the rule is of. -/
theorem paints_of_mem (c : Category) (h : id ∈ g.stylesOf c) : g.Paints id := .inr ⟨c, h⟩

theorem paintsAll_nil (g : Grammar) : g.PaintsAll [] := fun _ hs => absurd hs List.not_mem_nil

/-- Layers are put together by appending; the styles are then those of both. -/
theorem PaintsAll.append (h : g.PaintsAll spans) (h' : g.PaintsAll spans') :
    g.PaintsAll (spans ++ spans') :=
  fun s hs => (List.mem_append.mp hs).elim (h s) (h' s)

/-- All matches of one rule are painted in one style, so that style decides. -/
theorem paintsAll_spansOf (h : g.Paints id) (ms : List (Nat × Nat)) :
    g.PaintsAll (Plain.spansOf id ms) := by
  intro s hs
  obtain ⟨m, -, -, rfl⟩ := Plain.mem_spansOf.mp hs
  exact h

end Paints

end Grammar

namespace Plain

open Grammar (PaintsAll paintsAll_nil paintsAll_spansOf paints_of_mem)

variable {g : Grammar} {text : Text}

/-- The simple layer has the styles of its rules, by induction on the rules: a disabled one paints
    nothing. -/
theorem SimpleLayer.paints {rules : List Rule} {spans : List Span}
    (h : SimpleLayer text rules spans) (hrules : ∀ r ∈ rules, g.Paints r.style) :
    g.PaintsAll spans := by
  induction h with
  | nil => exact paintsAll_nil g
  | disabled _ _ ih => exact ih fun r hr => hrules r (List.mem_cons_of_mem _ hr)
  | enabled _ _ _ ih =>
    exact (paintsAll_spansOf (hrules _ (List.mem_cons_self ..)) _).append
      (ih fun r hr => hrules r (List.mem_cons_of_mem _ hr))

/-- A construct paints itself in the style of its rule and what it records in that of escapes; what
    follows it is taken over, if it is closed. -/
theorem enclosed_paints {r : BlockRule} (hr : g.Paints r.style) (start inner : Nat)
    (unclosed : LineState) (hides : Option Nat) {goOn : Nat → Exclusive}
    (hgoOn : ∀ stop, g.PaintsAll (goOn stop).spans) :
    g.PaintsAll (enclosed text r start inner unclosed hides goOn).spans := by
  have hblock := (paintsAll_spansOf hr [(start, (r.findEnd text inner).stop.getD text.size)]).append
    (paintsAll_spansOf (.inl rfl) (r.findEnd text inner).escapes)
  unfold enclosed
  simp only
  split
  · exact hblock.append (hgoOn _)
  · exact hblock

/-- A rule with two delimiters is the quotation, the block comment or a block expression, and each
    of these categories lists it. -/
theorem paints_of_mem_blockRules {r : BlockRule} (hr : r ∈ blockRules g) : g.Paints r.style := by
  rcases List.mem_cons.mp hr with rfl | hr
  · exact paints_of_mem .quotation (List.mem_singleton_self _)
  · rcases List.mem_cons.mp hr with rfl | hr
    · exact paints_of_mem .blockComment (List.mem_singleton_self _)
    · exact paints_of_mem .blockExpression (List.mem_map_of_mem hr)

/-- A rule that runs to the end of the line is the line comment or a line expression. -/
theorem paints_of_mem_lineRules {r : Rule} (hr : r ∈ lineRules g) : g.Paints r.style := by
  rcases List.mem_cons.mp hr with rfl | hr
  · exact paints_of_mem .lineComment (List.mem_singleton_self _)
  · exact paints_of_mem .lineExpression (List.mem_map_of_mem hr)

/-- The exclusive layer is painted in the styles of its constructs and of escapes. -/
theorem exclusive_paints (g : Grammar) (text : Text) (entry : LineState) :
    g.PaintsAll (exclusive g text entry).spans :=
  Kept.exclusive (P := fun _ layer => g.PaintsAll layer.spans) {
    mono := fun _ h => h
    nothing := fun _ => paintsAll_nil g
    enclosed := fun hbegins _ hgoOn =>
      enclosed_paints (paints_of_mem_blockRules hbegins.mem) _ _ _ _ hgoOn
    toEnd := fun hr _ => paintsAll_spansOf (paints_of_mem_lineRules hr) _ }

end Plain

/-- **A line is painted in the styles of the grammar's rules and of escapes**, whatever the text and
    the state it begins in. -/
theorem style_of_mem_spans {g : Grammar} {text : Text} {entry : LineState} {s : Span}
    (hs : s ∈ (highlight g text entry).spans) : g.Paints s.style := by
  obtain ⟨simple, hlayer, hspans, -⟩ := Plain.highlights_highlight g text entry
  have hrules : ∀ r ∈ g.keywords ++ [g.numbers] ++ g.expressions, g.Paints r.style := by
    intro r hr
    rcases List.mem_append.mp hr with hr | hr
    · rcases List.mem_append.mp hr with hr | hr
      · exact Grammar.paints_of_mem .keyword (List.mem_map_of_mem hr)
      · rw [List.mem_singleton.mp hr]
        exact Grammar.paints_of_mem .number (List.mem_singleton_self _)
    · exact Grammar.paints_of_mem .expression (List.mem_map_of_mem hr)
  -- hiding only drops spans of the simple layer, so what is left of it has been painted by it
  rw [hspans] at hs
  rcases List.mem_append.mp hs with hs | hs
  · exact hlayer.paints hrules s (List.mem_filter.mp hs).1
  · exact Plain.exclusive_paints g text entry s hs

end Highlight
