/-
  The constructs of a line partition it.

  What the exclusive layer paints is one construct after the other, each with the escapes in it
  right behind; no two constructs overlap, and one that is not closed is the last and reaches the
  end of the line.

  1. **Constructs** — `Construct` is what the layer paints in one go, and `Construct.Occurs` says
     where the grammar has one.  `Construct.Fits` says how it lies in the line, and `Partition` how
     the constructs of a line lie to each other.

  2. **Ends** — the search for the end of a construct goes forward only, so the end and the escapes
     lie behind the offset it begins at, the escapes one behind the other and before the end
     (`Begins.fits`).  A construct may match nothing at all; then there are no escapes in it
     either, and nothing is painted (`Begins.escapes_eq_nil`).

  3. **The crux** — `Splits`: from an offset on, only constructs are painted that begin there or
     further on.  What comes behind a construct is painted from its end on, so it is put before the
     constructs that are there already (`Partition.cons`).  `Splits` is what the induction
     principle of the plain scan carries along: nothing is painted behind the line
     (`splits_nothing`), a line rule paints one construct and ends the scan (`toEnd_splits`), and a
     delimited one paints itself before all that follows (`enclosed_splits`).

  An unclosed construct comes last for the same reason: the scan goes on behind a closed one only.

  Main result: **`constructs_partition`**.
-/
import Highlight.Proofs.Scan.Closing
import Highlight.Proofs.Scan.Overpainting

namespace Highlight

open Scan (Exclusive)
open Plain (Begins lineRules matchAt)

/-! ## Constructs -/

/-- A construct of a line: where it is painted, in which style, the escapes in it, and whether it is
    closed. -/
structure Construct where
  start : Nat
  stop : Nat
  style : StyleId
  escapes : List (Nat × Nat)
  closed : Bool
  deriving DecidableEq, Repr

namespace Construct

/-- The span of a construct, and those of its escapes. -/
def spans (c : Construct) : List Span :=
  .between c.start c.stop c.style :: c.escapes.map fun e => .between e.1 e.2 .escape

/-- A construct between delimiters that begins at `start`, its end being searched from `inner`
    on. -/
def ofBlock (text : Text) (r : BlockRule) (start inner : Nat) : Construct :=
  let search := r.findEnd text inner
  ⟨start, search.stop.getD text.size, r.style, search.escapes, search.stop.isSome⟩

/-- A construct that runs to the end of the line. -/
def ofLine (text : Text) (r : Rule) (start : Nat) : Construct :=
  ⟨start, text.size, r.style, [], false⟩

/-- The constructs that a line can have: a comment, a quotation or an expression of the grammar
    where it begins, or what the line before has left open. -/
inductive Occurs (g : Grammar) (text : Text) (entry : LineState) : Construct → Prop
  | block {r : BlockRule} {start inner : Nat} (h : Begins g text entry r start inner) :
      Occurs g text entry (ofBlock text r start inner)
  | line {r : Rule} {start stop : Nat} (hr : r ∈ lineRules g)
      (h : matchAt text start r.pattern = some stop) : Occurs g text entry (ofLine text r start)

/-- A construct that is not empty lies in the line, reaches the end of the line if it is not closed,
    and has its escapes in it one behind the other. -/
structure Fits (text : Text) (c : Construct) : Prop where
  lt : c.start < c.stop
  stop_le : c.stop ≤ text.size
  unclosed : c.closed = false → c.stop = text.size
  escapes_lt : ∀ e ∈ c.escapes, e.1 < e.2
  escapes_ordered : c.escapes.Pairwise fun e e' => e.2 ≤ e'.1
  escapes_inside : ∀ e ∈ c.escapes, c.start ≤ e.1 ∧ e.2 ≤ c.stop

end Construct

/-- Spans are those of constructs that lie one behind the other, only the last one of them not being
    closed. -/
structure Partition (g : Grammar) (text : Text) (entry : LineState) (spans : List Span)
    (cs : List Construct) : Prop where
  painted : spans = cs.flatMap Construct.spans
  occurs : ∀ c ∈ cs, c.Occurs g text entry
  fits : ∀ c ∈ cs, c.Fits text
  ordered : cs.Pairwise fun c c' => c.stop ≤ c'.start
  last : ∀ c ∈ cs, c.closed = false → cs.getLast? = some c

section Partition

variable {g : Grammar} {text : Text} {entry : LineState} {spans : List Span} {c : Construct}
  {cs : List Construct}

/-- Where nothing is painted there are no constructs. -/
theorem partition_nil (g : Grammar) (text : Text) (entry : LineState) :
    Partition g text entry [] [] where
  painted := rfl
  occurs := fun _ hc => absurd hc List.not_mem_nil
  fits := fun _ hc => absurd hc List.not_mem_nil
  ordered := .nil
  last := fun _ hc => absurd hc List.not_mem_nil

/-- One construct alone makes a partition, closed or not, since it is the last one. -/
theorem partition_singleton (hoccurs : c.Occurs g text entry) (hfits : c.Fits text) :
    Partition g text entry c.spans [c] where
  painted := (List.append_nil _).symm
  occurs := List.forall_mem_singleton.mpr hoccurs
  fits := List.forall_mem_singleton.mpr hfits
  ordered := List.pairwise_singleton _ _
  last := List.forall_mem_singleton.mpr fun _ => rfl

/-- A closed construct is put before those that begin behind it. -/
theorem Partition.cons (h : Partition g text entry spans cs) (hoccurs : c.Occurs g text entry)
    (hfits : c.Fits text) (hclosed : c.closed = true) (hbehind : ∀ c' ∈ cs, c.stop ≤ c'.start) :
    Partition g text entry (c.spans ++ spans) (c :: cs) where
  painted := by rw [List.flatMap_cons, h.painted]
  occurs := List.forall_mem_cons.mpr ⟨hoccurs, h.occurs⟩
  fits := List.forall_mem_cons.mpr ⟨hfits, h.fits⟩
  ordered := List.pairwise_cons.mpr ⟨hbehind, h.ordered⟩
  last := by
    refine List.forall_mem_cons.mpr ⟨fun hopen => absurd (hclosed.symm.trans hopen) (by simp), ?_⟩
    intro c' hc' hopen
    rw [List.getLast?_cons, h.last c' hc' hopen, Option.getD_some]

end Partition

/-! ## Ends -/

namespace Closing.Finds

variable {d : Delimiters} {text : Text} {inner : Nat} {found : EndSearch} {e : Nat × Nat}

/-- The end that is found lies where the search has begun or behind it, and in the line; an end that
    is not found counts as the end of the line. -/
theorem stop_bounds (h : Finds d text inner found) (hinner : inner ≤ text.size) :
    inner ≤ found.stop.getD text.size ∧ found.stop.getD text.size ≤ text.size := by
  cases hstop : found.stop with
  | none => exact ⟨hinner, Nat.le_refl _⟩
  | some stop =>
    obtain ⟨start, hends⟩ := h.ended stop hstop
    have hle := hends.le
    have hbounds := Pattern.le_of_findAt hends.closes
    simp only [Option.getD_some] at hle ⊢
    omega

/-- An escape ends before the construct does: before the delimiter that closes it, or else in the
    line. -/
theorem escape_le (h : Finds d text inner found) (he : e ∈ found.escapes) :
    e.2 ≤ found.stop.getD text.size := by
  cases hstop : found.stop with
  | none =>
    obtain ⟨p, -, hmatch⟩ := (h.recorded e he).escapes
    exact (Pattern.le_of_findAt hmatch).2.2
  | some stop =>
    obtain ⟨start, hends⟩ := h.ended stop hstop
    have hbehind := hends.behind e he
    have hbounds := Pattern.le_of_findAt hends.closes
    simp only [Option.getD_some] at hbehind ⊢
    omega

end Closing.Finds

namespace Plain

open Construct (ofBlock ofLine)

section Begins

variable {g : Grammar} {text : Text} {entry : LineState} {r : BlockRule} {start inner : Nat}

/-- A construct begins no later than the search for its end does, and both lie in the line. -/
theorem Begins.le (h : Begins g text entry r start inner) : start ≤ inner ∧ inner ≤ text.size := by
  cases h with
  | inherited => exact ⟨Nat.le_refl _, Nat.zero_le _⟩
  | opened hr hmatch =>
    obtain ⟨p, -, hfind⟩ := matchAt_eq_some hmatch
    exact (Pattern.le_of_findAt hfind).2

/-- The rule of a construct that begins has delimiters, so the search for its end finds what it has
    to find. -/
theorem Begins.finds (h : Begins g text entry r start inner) :
    ∃ d, Closing.Finds d text inner (r.findEnd text inner) := by
  have hdelimiters : ∃ d, r.delimiters = some d := by
    cases h with
    | inherited _ henabled => exact Option.isSome_iff_exists.mp henabled
    | opened _ hmatch =>
      obtain ⟨p, hp, -⟩ := matchAt_eq_some hmatch
      obtain ⟨d, hd, -⟩ := Option.map_eq_some_iff.mp hp
      exact ⟨d, hd⟩
  obtain ⟨d, hd⟩ := hdelimiters
  exact ⟨d, Closing.finds_findEnd hd text inner⟩

/-- **The escapes of a construct lie in it**, and it lies in the line. -/
theorem Begins.fits (h : Begins g text entry r start inner)
    (hlt : start < (r.findEnd text inner).stop.getD text.size) :
    (ofBlock text r start inner).Fits text := by
  obtain ⟨d, hfinds⟩ := h.finds
  obtain ⟨hstart, hinner⟩ := h.le
  exact {
    lt := hlt
    stop_le := (hfinds.stop_bounds hinner).2
    unclosed := fun hopen => by
      have hnone := Option.isNone_iff_eq_none.mp (Option.isSome_eq_false_iff.mp hopen)
      show (r.findEnd text inner).stop.getD text.size = text.size
      rw [hnone, Option.getD_none]
    escapes_lt := fun e he => (hfinds.recorded e he).lt
    escapes_ordered := hfinds.ordered
    escapes_inside := fun e he =>
      ⟨Nat.le_trans hstart (hfinds.recorded e he).le, hfinds.escape_le he⟩ }

/-- There are no escapes in a construct that matches nothing. -/
theorem Begins.escapes_eq_nil (h : Begins g text entry r start inner)
    (hempty : ¬start < (r.findEnd text inner).stop.getD text.size) :
    (r.findEnd text inner).escapes = [] := by
  obtain ⟨d, hfinds⟩ := h.finds
  obtain ⟨hstart, hinner⟩ := h.le
  refine List.eq_nil_iff_forall_not_mem.mpr fun e he => ?_
  have hlt := (hfinds.recorded e he).lt
  have hle := (hfinds.recorded e he).le
  have hstop := hfinds.escape_le he
  omega

/-! ## What is painted -/

/-- Matches that are not empty all become spans. -/
theorem spansOf_eq_map {ms : List (Nat × Nat)} (style : StyleId) (h : ∀ m ∈ ms, m.1 < m.2) :
    spansOf style ms = ms.map fun m => .between m.1 m.2 style := by
  unfold spansOf
  rw [List.filter_eq_self.mpr fun m hm => decide_eq_true (h m hm)]

/-- An empty match becomes no span. -/
theorem spansOf_eq_nil {stop : Nat} (style : StyleId) (h : ¬start < stop) :
    spansOf style [(start, stop)] = [] := by
  simp [spansOf, h]

/-- The spans of a construct are those that `enclosed` paints. -/
theorem spans_ofBlock (h : Begins g text entry r start inner)
    (hlt : start < (r.findEnd text inner).stop.getD text.size) :
    spansOf r.style [(start, (r.findEnd text inner).stop.getD text.size)]
        ++ spansOf .escape (r.findEnd text inner).escapes
      = (ofBlock text r start inner).spans := by
  have hescapes : ∀ e ∈ (r.findEnd text inner).escapes, e.1 < e.2 := (h.fits hlt).escapes_lt
  rw [spansOf_eq_map r.style (List.forall_mem_singleton.mpr hlt),
    spansOf_eq_map .escape hescapes]
  rfl

end Begins

/-- What is painted from an offset on is painted by constructs that begin there or further on. -/
def Splits (g : Grammar) (text : Text) (entry : LineState) (lo : Nat) (layer : Exclusive) : Prop :=
  ∃ cs, Partition g text entry layer.spans cs ∧ ∀ c ∈ cs, lo ≤ c.start

section Splits

variable {g : Grammar} {text : Text} {entry : LineState} {start : Nat}

/-- A layer without spans is painted by no construct. -/
theorem splits_nothing {layer : Exclusive} (h : layer.spans = []) (lo : Nat) :
    Splits g text entry lo layer :=
  ⟨[], h ▸ partition_nil g text entry, fun _ hc => absurd hc List.not_mem_nil⟩

/-- What begins at an offset or further on begins at any earlier one or further on. -/
theorem Splits.mono {lo lo' : Nat} {layer : Exclusive} (hle : lo ≤ lo')
    (h : Splits g text entry lo' layer) : Splits g text entry lo layer := by
  obtain ⟨cs, hcs, hfrom⟩ := h
  exact ⟨cs, hcs, fun c hc => Nat.le_trans hle (hfrom c hc)⟩

/-- A layer of one construct begins where the construct does. -/
theorem splits_singleton {layer : Exclusive} {c : Construct} (hspans : layer.spans = c.spans)
    (hoccurs : c.Occurs g text entry) (hfits : c.Fits text) :
    Splits g text entry c.start layer :=
  ⟨[c], hspans ▸ partition_singleton hoccurs hfits,
    List.forall_mem_singleton.mpr (Nat.le_refl _)⟩

/-- **A construct between delimiters comes before what is painted behind it.** -/
theorem enclosed_splits {r : BlockRule} {inner : Nat} {unclosed : LineState} {hides : Option Nat}
    {goOn : Nat → Exclusive} (h : Begins g text entry r start inner)
    (hgoOn : ∀ stop, Splits g text entry stop (goOn stop)) :
    Splits g text entry start (enclosed text r start inner unclosed hides goOn) := by
  have hoccurs : (ofBlock text r start inner).Occurs g text entry := .block h
  by_cases hlt : start < (r.findEnd text inner).stop.getD text.size
  · have hfits := h.fits hlt
    have hspans := spans_ofBlock h hlt
    unfold enclosed
    simp only
    rw [hspans]
    cases hstop : (r.findEnd text inner).stop with
    | none => exact splits_singleton rfl hoccurs hfits
    | some stop =>
      obtain ⟨cs, hcs, hfrom⟩ := hgoOn stop
      have hend : (ofBlock text r start inner).stop = stop := by
        show (r.findEnd text inner).stop.getD text.size = stop
        rw [hstop, Option.getD_some]
      have hclosed : (ofBlock text r start inner).closed = true := by
        show (r.findEnd text inner).stop.isSome = true
        rw [hstop, Option.isSome_some]
      rw [hstop, Option.getD_some] at hlt
      -- what comes behind begins at the end of this construct or further on
      refine ⟨_, hcs.cons hoccurs hfits hclosed (hend ▸ hfrom), ?_⟩
      refine List.forall_mem_cons.mpr ⟨Nat.le_refl _, fun c hc => ?_⟩
      exact Nat.le_trans (Nat.le_of_lt hlt) (hfrom c hc)
  · -- nothing is painted but what comes behind
    obtain ⟨d, hfinds⟩ := h.finds
    have hle := (hfinds.stop_bounds h.le.2).1
    unfold enclosed
    simp only
    rw [spansOf_eq_nil r.style hlt, h.escapes_eq_nil hlt]
    cases hstop : (r.findEnd text inner).stop with
    | none => exact splits_nothing rfl start
    | some stop =>
      rw [hstop, Option.getD_some] at hle
      exact (hgoOn stop).mono (Nat.le_trans h.le.1 hle)

/-- A line comment or a line expression paints one construct up to the end of the line; at the end
    of the line itself it paints nothing. -/
theorem toEnd_splits {r : Rule} {stop : Nat} (hr : r ∈ lineRules g)
    (h : matchAt text start r.pattern = some stop) :
    Splits g text entry start (toEnd text start r.style) := by
  by_cases hlt : start < text.size
  · refine splits_singleton (c := ofLine text r start) ?_ (.line hr h) ?_
    · exact spansOf_eq_map r.style (List.forall_mem_singleton.mpr hlt)
    · exact ⟨hlt, Nat.le_refl _, fun _ => rfl, fun _ he => absurd he List.not_mem_nil, .nil,
        fun _ he => absurd he List.not_mem_nil⟩
  · exact splits_nothing (spansOf_eq_nil r.style hlt) start

/-- **The whole exclusive layer is painted by constructs**, one behind the other. -/
theorem exclusive_splits (g : Grammar) (text : Text) (entry : LineState) :
    Splits g text entry 0 (exclusive g text entry) :=
  Kept.exclusive {
    mono := Splits.mono
    nothing := splits_nothing rfl
    enclosed := fun hbegins _ hgoOn => enclosed_splits hbegins hgoOn
    toEnd := toEnd_splits }

end Splits

end Plain

/-- **The constructs of a line partition it**, whatever the grammar, the text and the state it
    begins in: the line is painted in its simple spans, as far as they are not hidden, and over them
    in constructs that lie one behind the other, each followed by the escapes in it. -/
theorem constructs_partition (g : Grammar) (text : Text) (entry : LineState) :
    ∃ cs, Partition g text entry (Scan.exclusive g text entry).spans cs ∧
      (highlight g text entry).spans
        = Scan.dropFrom (Scan.exclusive g text entry).hides (Scan.simpleSpans g text)
          ++ cs.flatMap Construct.spans := by
  obtain ⟨cs, hcs, -⟩ := Plain.exclusive_splits g text entry
  rw [← Scan.exclusive_eq] at hcs
  refine ⟨cs, hcs, ?_⟩
  rw [← hcs.painted]
  rfl

/-- A quotation with an escape, and one that is not closed. -/
example : (BlockRule.compile "x" "x" (some "!") .quotation).toOption.map (fun r =>
    (highlight { (default : Grammar) with quotation := r } "x!xx x!".toList .normal).spans)
    = some [.between 0 4 .quotation, .between 1 2 .escape, .between 5 7 .quotation,
        .between 6 7 .escape] := by
  decide +kernel

end Highlight
