/-
  What a painting shows, and its canonical form.

  Spans are painted one over the other, so a byte shows the last span that contains it (`shownAt`).
  Many paintings show the same.  `flatten` picks one of them: runs in increasing order that do not
  overlap, and do not look alike where they touch (`Canonical`).

  1. **Layers** — of two paintings one over the other the upper one shows wherever it has a span
     (`shownAt_append`).

  2. **Canonical paintings** — what such a painting shows determines it: its first run begins at the
     first byte that is painted, and ends where the style changes (`Canonical.unique`).

  3. **Cuts** — between two neighbouring cuts no span begins or ends, so a span covers either all
     of the piece or none of it.  Hence the piece shows one span throughout, the one that
     `topSpan` finds (`topSpan_eq`).

  4. **Runs** — putting a piece before runs that lie behind it keeps them canonical, whether they
     are melted or not (`Canonical.join`).  By induction along the cuts the runs show what the
     painting shows (`shownAt_runs`).

  Main result: **`flatten_canonical`**.
-/
import Highlight.Span

namespace Highlight

namespace Painting

/-! ## Layers

  The last span that contains a byte is the one that shows there, so where one painting lies over
  another the upper one is asked first. -/

/-- The style that a byte shows: that of the last span that contains it. -/
def shownAt (spans : List Span) (pos : Nat) : Option StyleId :=
  ((spans.filter (·.contains pos)).getLast?).map (·.style)

section Layers

variable {spans upper lower : List Span} {s : Span} {pos : Nat}

/-- A span contains the bytes from its start on, up to its stop. -/
theorem contains_iff : s.contains pos = true ↔ s.start ≤ pos ∧ pos < s.stop := by
  simp [Span.contains]

/-- A painting over another one shows wherever it has a span. -/
theorem shownAt_append (lower upper : List Span) (pos : Nat) :
    shownAt (lower ++ upper) pos = (shownAt upper pos).or (shownAt lower pos) := by
  unfold shownAt
  rw [List.filter_append, List.getLast?_append, Option.map_or]

/-- The first span of a painting shows only where none of the later ones does. -/
theorem shownAt_cons (s : Span) (spans : List Span) (pos : Nat) :
    shownAt (s :: spans) pos
      = (shownAt spans pos).or (if s.contains pos then some s.style else none) := by
  have hsingle : shownAt [s] pos = if s.contains pos then some s.style else none := by
    unfold shownAt
    by_cases hs : s.contains pos
    · simp [hs]
    · simp [hs]
  rw [← hsingle, ← shownAt_append, List.singleton_append]

/-- Nothing shows where no span is. -/
theorem shownAt_eq_none_iff : shownAt spans pos = none ↔ ∀ s ∈ spans, s.contains pos = false := by
  simp [shownAt]

/-- Something shows wherever there is a span. -/
theorem isSome_shownAt_iff :
    (shownAt spans pos).isSome = true ↔ ∃ s ∈ spans, s.contains pos = true := by
  rw [Option.isSome_iff_ne_none, Ne, shownAt_eq_none_iff]
  simp

/-- What a byte shows is the style of a span that contains it. -/
theorem exists_of_shownAt {style : StyleId} (h : shownAt spans pos = some style) :
    ∃ s ∈ spans, s.contains pos = true ∧ s.style = style := by
  obtain ⟨s, hs, rfl⟩ := Option.map_eq_some_iff.mp h
  obtain ⟨hmem, hcontains⟩ := List.mem_filter.mp (List.mem_of_getLast? hs)
  exact ⟨s, hmem, hcontains, rfl⟩

end Layers

/-! ## Canonical paintings

  A canonical painting can be read off what it shows.  Its first run begins at the first byte that
  shows something, and ends at the first byte behind that which shows something else; the rest is by
  induction. -/

/-- One run comes before another: it ends where the other begins or sooner, and if they touch they
    do not look alike. -/
def Before (s t : Span) : Prop := s.stop ≤ t.start ∧ (s.stop = t.start → s.style ≠ t.style)

/-- Runs that are not empty, each before all that follow. -/
structure Canonical (runs : List Span) : Prop where
  nonempty : ∀ s ∈ runs, 0 < s.length
  ordered : runs.Pairwise Before

namespace Canonical

variable {s t : Span} {runs others : List Span} {pos : Nat}

theorem nil : Canonical [] := ⟨fun _ h => absurd h List.not_mem_nil, List.Pairwise.nil⟩

theorem tail (h : Canonical (s :: runs)) : Canonical runs :=
  ⟨fun t ht => h.nonempty t (List.mem_cons_of_mem _ ht), (List.pairwise_cons.mp h.ordered).2⟩

/-- A run has some length. -/
theorem start_lt_stop (h : Canonical (s :: runs)) : s.start < s.stop := by
  have hpos := h.nonempty s List.mem_cons_self
  unfold Span.stop
  omega

/-- Behind its first run a painting shows nothing that lies before the end of this run. -/
theorem shownAt_tail (h : Canonical (s :: runs)) (hpos : pos < s.stop) :
    shownAt runs pos = none := by
  rw [shownAt_eq_none_iff]
  intro t ht
  have hbefore := ((List.pairwise_cons.mp h.ordered).1 t ht).1
  rw [Bool.eq_false_iff, Ne, contains_iff]
  omega

/-- The first run shows at all of its bytes. -/
theorem shownAt_head (h : Canonical (s :: runs)) (hstart : s.start ≤ pos) (hstop : pos < s.stop) :
    shownAt (s :: runs) pos = some s.style := by
  rw [shownAt_cons, h.shownAt_tail hstop, if_pos (contains_iff.mpr ⟨hstart, hstop⟩)]
  rfl

/-- Before the first run nothing shows. -/
theorem shownAt_before (h : Canonical (s :: runs)) (hpos : pos < s.start) :
    shownAt (s :: runs) pos = none := by
  have hlt := h.start_lt_stop
  have hout : ¬s.contains pos = true := by
    rw [contains_iff]
    omega
  rw [shownAt_cons, h.shownAt_tail (by omega), if_neg hout]
  rfl

/-- Right behind the first run something else shows. -/
theorem shownAt_stop_ne (h : Canonical (s :: runs)) :
    shownAt (s :: runs) s.stop ≠ some s.style := by
  intro hshown
  have hout : ¬s.contains s.stop = true := by
    rw [contains_iff]
    omega
  rw [shownAt_cons, if_neg hout, Option.or_none] at hshown
  -- a run that shows there begins there, and looks different
  obtain ⟨t, ht, hcontains, hstyle⟩ := exists_of_shownAt hshown
  obtain ⟨hle, hdiffer⟩ := (List.pairwise_cons.mp h.ordered).1 t ht
  have hstart := (contains_iff.mp hcontains).1
  exact hdiffer (by omega) hstyle.symm

/-- Of two canonical paintings that show the same neither begins before the other. -/
theorem start_le (h : Canonical (s :: runs)) (h' : Canonical (t :: others))
    (hshown : ∀ pos, shownAt (s :: runs) pos = shownAt (t :: others) pos) : s.start ≤ t.start := by
  refine Nat.le_of_not_lt fun hlt => ?_
  have hnone := h.shownAt_before hlt
  rw [hshown, h'.shownAt_head (Nat.le_refl _) h'.start_lt_stop] at hnone
  exact absurd hnone (by simp)

/-- Nor does the first run of one end before that of the other: from there on the other would have
    to show another style, or nothing. -/
theorem stop_le (h : Canonical (s :: runs)) (h' : Canonical (t :: others))
    (hshown : ∀ pos, shownAt (s :: runs) pos = shownAt (t :: others) pos)
    (hstart : t.start ≤ s.stop) (hstyle : t.style = s.style) : t.stop ≤ s.stop := by
  refine Nat.le_of_not_lt fun hlt => h.shownAt_stop_ne ?_
  rw [hshown, h'.shownAt_head hstart hlt, hstyle]

/-- Paintings that show the same begin with the same run. -/
theorem head_eq (h : Canonical (s :: runs)) (h' : Canonical (t :: others))
    (hshown : ∀ pos, shownAt (s :: runs) pos = shownAt (t :: others) pos) : s = t := by
  have hstart : s.start = t.start :=
    Nat.le_antisymm (start_le h h' hshown) (start_le h' h fun pos => (hshown pos).symm)
  have hlt := h.start_lt_stop
  have hlt' := h'.start_lt_stop
  have hstyle : s.style = t.style := by
    have hfirst := hshown s.start
    rw [h.shownAt_head (Nat.le_refl _) hlt, h'.shownAt_head (by omega) (by omega)] at hfirst
    exact Option.some.inj hfirst
  have hstop : s.stop = t.stop :=
    Nat.le_antisymm (stop_le h' h (fun pos => (hshown pos).symm) (by omega) hstyle)
      (stop_le h h' hshown (by omega) hstyle.symm)
  unfold Span.stop at hstop
  obtain ⟨sstart, slength, sstyle⟩ := s
  obtain ⟨tstart, tlength, tstyle⟩ := t
  simp only at hstart hstop hstyle
  rw [Span.mk.injEq]
  exact ⟨hstart, by omega, hstyle⟩

/-- **What a canonical painting shows determines it.** -/
theorem unique (h : Canonical runs) (h' : Canonical others)
    (hshown : ∀ pos, shownAt runs pos = shownAt others pos) : runs = others := by
  have hempty : ∀ {s : Span} {runs : List Span}, Canonical (s :: runs) →
      ¬∀ pos, shownAt (s :: runs) pos = none := by
    intro s runs h hnone
    exact absurd ((h.shownAt_head (Nat.le_refl _) h.start_lt_stop).symm.trans (hnone s.start))
      (by simp)
  induction runs generalizing others with
  | nil =>
    cases others with
    | nil => rfl
    | cons t others => exact absurd (fun pos => (hshown pos).symm) (hempty h')
  | cons s runs ih =>
    cases others with
    | nil => exact absurd hshown (hempty h)
    | cons t others =>
      obtain rfl := head_eq h h' hshown
      rw [ih h.tail h'.tail fun pos => ?_]
      -- where the first run shows, nothing behind it does
      by_cases hpos : pos < s.stop
      · rw [h.shownAt_tail hpos, h'.shownAt_tail hpos]
      · have hout : ¬s.contains pos = true := by
          rw [contains_iff]
          omega
        have hrest := hshown pos
        rwa [shownAt_cons, shownAt_cons, if_neg hout, Option.or_none, Option.or_none] at hrest

end Canonical

/-! ## Cuts

  The ends of all spans cut the line in pieces.  No piece is cut by a span, and therefore all of its
  bytes show the same. -/

/-- A cut is inserted once and nothing else goes. -/
theorem mem_insertCut {n c : Nat} {cs : List Nat} : c ∈ insertCut n cs ↔ c = n ∨ c ∈ cs := by
  induction cs with
  | nil => simp [insertCut]
  | cons m ms ih =>
    unfold insertCut
    split
    · simp
    · split
      · rename_i hnm
        simp [hnm]
      · simp only [List.mem_cons, ih]
        exact or_left_comm

/-- Cuts are inserted where they belong, and not twice. -/
theorem insertCut_sorted {n : Nat} {cs : List Nat} (h : cs.Pairwise (· < ·)) :
    (insertCut n cs).Pairwise (· < ·) := by
  induction cs with
  | nil => exact List.pairwise_singleton _ n
  | cons m ms ih =>
    obtain ⟨hfirst, hrest⟩ := List.pairwise_cons.mp h
    unfold insertCut
    split
    · rename_i hlt
      refine List.pairwise_cons.mpr ⟨fun c hc => ?_, h⟩
      rcases List.mem_cons.mp hc with rfl | hc
      · exact hlt
      · exact Nat.lt_trans hlt (hfirst c hc)
    · split
      · exact h
      · refine List.pairwise_cons.mpr ⟨fun c hc => ?_, ih hrest⟩
        rcases mem_insertCut.mp hc with rfl | hc
        · omega
        · exact hfirst c hc

/-- The cuts are the ends of the spans that are not empty. -/
theorem mem_cuts {spans : List Span} {c : Nat} :
    c ∈ cuts spans ↔ ∃ s ∈ spans, 0 < s.length ∧ (c = s.start ∨ c = s.stop) := by
  induction spans with
  | nil => simp [cuts]
  | cons s spans ih =>
    unfold cuts Span.isEmpty
    by_cases hs : s.length = 0
    · simp [hs, ih]
    · simp [hs, ih, mem_insertCut, or_assoc, Nat.pos_iff_ne_zero]

/-- The cuts of a painting come in increasing order. -/
theorem cuts_sorted (spans : List Span) : (cuts spans).Pairwise (· < ·) := by
  induction spans with
  | nil => exact List.Pairwise.nil
  | cons s spans ih =>
    unfold cuts
    split
    · exact ih
    · exact insertCut_sorted (insertCut_sorted ih)

/-- From an offset on, the ends of the spans are among some cuts. -/
def CutBehind (lo : Nat) (cs : List Nat) (spans : List Span) : Prop :=
  ∀ s ∈ spans, 0 < s.length → (s.start ≤ lo ∨ s.start ∈ cs) ∧ (s.stop ≤ lo ∨ s.stop ∈ cs)

section Cuts

variable {spans latestFirst : List Span} {lo hi pos : Nat} {cs : List Nat}

/-- What is known of the cuts at one offset is known at the next cut, the induction's next step. -/
theorem CutBehind.tail (h : CutBehind lo (hi :: cs) spans) (hlt : lo < hi) :
    CutBehind hi cs spans := by
  have hstep : ∀ c, c ≤ lo ∨ c ∈ hi :: cs → c ≤ hi ∨ c ∈ cs := by
    rintro c (hle | hmem)
    · exact .inl (by omega)
    · rcases List.mem_cons.mp hmem with rfl | hmem
      · exact .inl (Nat.le_refl _)
      · exact .inr hmem
  intro s hs hpos
  obtain ⟨hstart, hstop⟩ := h s hs hpos
  exact ⟨hstep _ hstart, hstep _ hstop⟩

/-- The cuts of a painting, from the first one on. -/
theorem cutBehind_cuts (h : cuts spans = lo :: cs) : CutBehind lo cs spans := by
  have hcut : ∀ c ∈ cuts spans, c ≤ lo ∨ c ∈ cs := by
    intro c hc
    rw [h] at hc
    rcases List.mem_cons.mp hc with rfl | hc
    · exact .inl (Nat.le_refl _)
    · exact .inr hc
  intro s hs hpos
  exact ⟨hcut _ (mem_cuts.mpr ⟨s, hs, hpos, .inl rfl⟩),
    hcut _ (mem_cuts.mpr ⟨s, hs, hpos, .inr rfl⟩)⟩

/-- **Between two neighbouring cuts one span shows throughout.** -/
theorem topSpan_eq (hcut : CutBehind lo (hi :: cs) latestFirst)
    (hsorted : (hi :: cs).Pairwise (· < ·)) (hlo : lo ≤ pos) (hhi : pos < hi) :
    topSpan latestFirst lo hi = latestFirst.find? (·.contains pos) := by
  -- no end of a span lies between the cuts
  have hbehind : ∀ c ∈ hi :: cs, hi ≤ c := by
    intro c hc
    rcases List.mem_cons.mp hc with rfl | hc
    · exact Nat.le_refl _
    · exact Nat.le_of_lt ((List.pairwise_cons.mp hsorted).1 c hc)
  have hsame : ∀ s ∈ latestFirst,
      (!s.isEmpty && s.start ≤ lo && hi ≤ s.stop) = s.contains pos := by
    intro s hs
    rw [Bool.eq_iff_iff, contains_iff]
    simp only [Span.isEmpty, Bool.and_eq_true, Bool.not_eq_true', decide_eq_false_iff_not,
      decide_eq_true_iff]
    constructor
    · rintro ⟨⟨-, hstart⟩, hstop⟩
      omega
    · rintro ⟨hstart, hstop⟩
      have hlength : 0 < s.length := by
        unfold Span.stop at hstop
        omega
      obtain ⟨hfrom, hto⟩ := hcut s hs hlength
      have hfrom' : s.start ∈ hi :: cs → hi ≤ s.start := hbehind s.start
      have hto' : s.stop ∈ hi :: cs → hi ≤ s.stop := hbehind s.stop
      refine ⟨⟨by omega, ?_⟩, ?_⟩
      · rcases hfrom with hle | hmem
        · exact hle
        · exact absurd (hfrom' hmem) (by omega)
      · rcases hto with hle | hmem
        · omega
        · exact hto' hmem
  unfold topSpan
  induction latestFirst with
  | nil => rfl
  | cons s spans ih =>
    rw [List.find?_cons, List.find?_cons, hsame s List.mem_cons_self,
      ih (fun t ht => hcut t (List.mem_cons_of_mem _ ht))
        fun t ht => hsame t (List.mem_cons_of_mem _ ht)]

end Cuts

/-! ## Runs

  Pieces become runs from the last one back.  A piece that shows nothing is left out, and one that
  looks like the run behind it and touches it is melted with it. -/

section Runs

variable {s t : Span} {rest latestFirst : List Span} {lo pos : Nat} {cs : List Nat}

theorem join_cons (s t : Span) (rest : List Span) :
    join s (t :: rest) = if s.style = t.style ∧ s.stop = t.start
      then ⟨s.start, s.length + t.length, s.style⟩ :: rest else s :: t :: rest := rfl

/-- The runs between the first two cuts, and those behind the second. -/
theorem runs_cons_cons (latestFirst : List Span) (lo hi : Nat) (cs : List Nat) :
    runs latestFirst (lo :: hi :: cs) = match topSpan latestFirst lo hi with
      | some top => join (.between lo hi top.style) (runs latestFirst (hi :: cs))
      | none => runs latestFirst (hi :: cs) := rfl

/-- Spans that touch and look alike melt into one that ends where the second ends. -/
theorem stop_melt (style : StyleId) (htouch : s.stop = t.start) :
    (Span.mk s.start (s.length + t.length) style).stop = t.stop := by
  unfold Span.stop at htouch ⊢
  simp only
  omega

/-- Melting changes nothing that shows. -/
theorem shownAt_join (s : Span) (rest : List Span) (pos : Nat) :
    shownAt (join s rest) pos = shownAt (s :: rest) pos := by
  cases rest with
  | nil => rfl
  | cons t rest =>
    rw [join_cons]
    split
    · rename_i hmelt
      obtain ⟨hstyle, htouch⟩ := hmelt
      have hcontains : (Span.mk s.start (s.length + t.length) s.style).contains pos
          = (s.contains pos || t.contains pos) := by
        rw [Bool.eq_iff_iff, Bool.or_eq_true, contains_iff, contains_iff, contains_iff,
          stop_melt _ htouch]
        unfold Span.stop at htouch ⊢
        simp only
        omega
      rw [shownAt_cons, shownAt_cons, shownAt_cons, hcontains, ← hstyle, Option.or_assoc]
      by_cases ht : t.contains pos
      · simp [ht]
      · simp [ht]
    · rfl

/-- A run before others that is not to be melted with the first of them. -/
theorem Canonical.cons (h : Canonical (t :: rest)) (hs : 0 < s.length)
    (hle : s.stop ≤ t.start) (hdiffer : ¬(s.style = t.style ∧ s.stop = t.start)) :
    Canonical (s :: t :: rest) := by
  refine ⟨List.forall_mem_cons.mpr ⟨hs, h.nonempty⟩, List.pairwise_cons.mpr ⟨?_, h.ordered⟩⟩
  intro u hu
  rcases List.mem_cons.mp hu with rfl | hu
  · exact ⟨hle, fun htouch hstyle => hdiffer ⟨hstyle, htouch⟩⟩
  · -- the first run lies between, so the two do not touch
    have hbehind := ((List.pairwise_cons.mp h.ordered).1 u hu).1
    have hlt := h.start_lt_stop
    exact ⟨by omega, fun htouch => absurd htouch (by omega)⟩

/-- **A piece before the runs that lie behind it.** -/
theorem Canonical.join (h : Canonical rest) (hs : 0 < s.length)
    (hbehind : ∀ t ∈ rest, s.stop ≤ t.start) : Canonical (join s rest) := by
  cases rest with
  | nil =>
    refine ⟨fun t ht => ?_, List.pairwise_singleton _ s⟩
    rw [List.mem_singleton.mp ht]
    exact hs
  | cons t rest =>
    rw [join_cons]
    split
    · rename_i hmelt
      obtain ⟨hstyle, htouch⟩ := hmelt
      obtain ⟨hfirst, hrest⟩ := List.pairwise_cons.mp h.ordered
      refine ⟨List.forall_mem_cons.mpr ⟨Nat.add_pos_left hs _, h.tail.nonempty⟩,
        List.pairwise_cons.mpr ⟨fun u hu => ?_, hrest⟩⟩
      unfold Before
      rw [stop_melt _ htouch, hstyle]
      exact hfirst u hu
    · rename_i hdiffer
      exact h.cons hs (hbehind t List.mem_cons_self) hdiffer

/-- Melting lets no run begin elsewhere. -/
theorem start_of_mem_join (h : t ∈ join s rest) : t.start = s.start ∨ t ∈ rest := by
  cases rest with
  | nil => exact .inl (by rw [List.mem_singleton.mp h])
  | cons u rest =>
    rw [join_cons] at h
    split at h
    · rcases List.mem_cons.mp h with rfl | h
      · exact .inl rfl
      · exact .inr (List.mem_cons_of_mem _ h)
    · rcases List.mem_cons.mp h with rfl | h
      · exact .inl rfl
      · exact .inr h

/-- Runs begin at the first cut or behind it. -/
theorem le_start_of_mem_runs (hsorted : (lo :: cs).Pairwise (· < ·))
    (h : t ∈ runs latestFirst (lo :: cs)) : lo ≤ t.start := by
  induction cs generalizing lo with
  | nil => exact absurd h List.not_mem_nil
  | cons hi cs ih =>
    obtain ⟨hfirst, hrest⟩ := List.pairwise_cons.mp hsorted
    have hlt := hfirst hi List.mem_cons_self
    have hlater : t ∈ runs latestFirst (hi :: cs) → lo ≤ t.start := fun hmem =>
      Nat.le_trans (Nat.le_of_lt hlt) (ih hrest hmem)
    rw [runs_cons_cons] at h
    split at h
    · rcases start_of_mem_join h with hstart | hmem
      · exact Nat.le_of_eq hstart.symm
      · exact hlater hmem
    · exact hlater h

/-- A span between two offsets ends at the second of them. -/
theorem stop_between {lo hi : Nat} (hlt : lo < hi) (style : StyleId) :
    (Span.between lo hi style).stop = hi := by
  unfold Span.between Span.stop
  simp only
  omega

/-- **The runs between cuts are canonical.** -/
theorem canonical_runs (hsorted : (lo :: cs).Pairwise (· < ·)) :
    Canonical (runs latestFirst (lo :: cs)) := by
  induction cs generalizing lo with
  | nil => exact .nil
  | cons hi cs ih =>
    obtain ⟨hfirst, hrest⟩ := List.pairwise_cons.mp hsorted
    have hlt := hfirst hi List.mem_cons_self
    rw [runs_cons_cons]
    split
    · refine (ih hrest).join (Nat.sub_pos_of_lt hlt) fun t ht => ?_
      rw [stop_between hlt]
      exact le_start_of_mem_runs hrest ht
    · exact ih hrest

/-- Nothing shows before the first cut. -/
theorem shownAt_runs_before (hsorted : (lo :: cs).Pairwise (· < ·)) (hpos : pos < lo) :
    shownAt (runs latestFirst (lo :: cs)) pos = none := by
  rw [shownAt_eq_none_iff]
  intro t ht
  have hle := le_start_of_mem_runs hsorted ht
  rw [Bool.eq_false_iff, Ne, contains_iff]
  omega

/-- **From the first cut on the runs show what the painting shows.** -/
theorem shownAt_runs (hcut : CutBehind lo cs latestFirst) (hsorted : (lo :: cs).Pairwise (· < ·))
    (hlo : lo ≤ pos) :
    shownAt (runs latestFirst (lo :: cs)) pos
      = (latestFirst.find? (·.contains pos)).map (·.style) := by
  induction cs generalizing lo with
  | nil =>
    -- all spans end at the last cut or before it
    have hnone : latestFirst.find? (·.contains pos) = none := by
      rw [List.find?_eq_none]
      intro s hs
      rw [contains_iff]
      rintro ⟨hstart, hstop⟩
      have hlength : 0 < s.length := by
        unfold Span.stop at hstop
        omega
      rcases (hcut s hs hlength).2 with hle | hmem
      · omega
      · exact absurd hmem List.not_mem_nil
    rw [hnone]
    rfl
  | cons hi cs ih =>
    obtain ⟨hfirst, hrest⟩ := List.pairwise_cons.mp hsorted
    have hlt := hfirst hi List.mem_cons_self
    have hlater := hcut.tail hlt
    rw [runs_cons_cons]
    by_cases hhi : pos < hi
    · rw [topSpan_eq hcut hrest hlo hhi]
      cases latestFirst.find? (·.contains pos) with
      | none => exact shownAt_runs_before hrest hhi
      | some top =>
        have hpiece : (Span.between lo hi top.style).contains pos = true := by
          rw [contains_iff, stop_between hlt]
          exact ⟨hlo, hhi⟩
        rw [shownAt_join, shownAt_cons, shownAt_runs_before hrest hhi, if_pos hpiece]
        rfl
    · have hge := Nat.le_of_not_lt hhi
      split
      · rename_i top _
        have hpiece : ¬(Span.between lo hi top.style).contains pos = true := by
          rw [contains_iff, stop_between hlt]
          exact fun hin => hhi hin.2
        rw [shownAt_join, shownAt_cons, if_neg hpiece, Option.or_none]
        exact ih hlater hrest hge
      · exact ih hlater hrest hge

end Runs

/-! ## The flattening

  The cuts of a painting are all of its ends, so the runs from the first cut on are those of the
  whole painting. -/

/-- The last span that contains a byte is the first of those listed latest first. -/
theorem shownAt_eq_find? (spans : List Span) (pos : Nat) :
    shownAt spans pos = (spans.reverse.find? (·.contains pos)).map (·.style) := by
  rw [shownAt, List.getLast?_eq_head?_reverse, ← List.filter_reverse, List.head?_filter]

/-- **Flattening changes nothing that shows.** -/
theorem shownAt_flatten (spans : List Span) (pos : Nat) :
    shownAt (flatten spans) pos = shownAt spans pos := by
  -- a byte in a span lies behind the first cut
  have hcontained : ∀ s ∈ spans, s.contains pos = true → ∃ c ∈ cuts spans, c ≤ pos := by
    intro s hs hin
    obtain ⟨hstart, hstop⟩ := contains_iff.mp hin
    have hlength : 0 < s.length := by
      unfold Span.stop at hstop
      omega
    exact ⟨s.start, mem_cuts.mpr ⟨s, hs, hlength, .inl rfl⟩, hstart⟩
  have hsorted := cuts_sorted spans
  unfold flatten
  cases hcuts : cuts spans with
  | nil =>
    symm
    show shownAt spans pos = none
    rw [shownAt_eq_none_iff]
    intro s hs
    rw [Bool.eq_false_iff]
    intro hin
    obtain ⟨c, hc, -⟩ := hcontained s hs hin
    rw [hcuts] at hc
    exact absurd hc List.not_mem_nil
  | cons lo cs =>
    rw [hcuts] at hsorted hcontained
    by_cases hlo : lo ≤ pos
    · have hcut : CutBehind lo cs spans.reverse := fun s hs =>
        cutBehind_cuts hcuts s (List.mem_reverse.mp hs)
      rw [shownAt_runs hcut hsorted hlo, shownAt_eq_find?]
    · rw [shownAt_runs_before hsorted (by omega)]
      symm
      rw [shownAt_eq_none_iff]
      intro s hs
      rw [Bool.eq_false_iff]
      intro hin
      obtain ⟨c, hc, hle⟩ := hcontained s hs hin
      rcases List.mem_cons.mp hc with rfl | hc
      · exact hlo hle
      · have hlt := (List.pairwise_cons.mp hsorted).1 c hc
        omega

/-- **What is flattened is canonical.** -/
theorem canonical_flatten (spans : List Span) : Canonical (flatten spans) := by
  have hsorted := cuts_sorted spans
  unfold flatten
  cases hcuts : cuts spans with
  | nil => exact .nil
  | cons lo cs =>
    rw [hcuts] at hsorted
    exact canonical_runs hsorted

/-- Paintings flatten to the same runs if and only if they show the same. -/
theorem flatten_eq_iff {spans others : List Span} :
    flatten spans = flatten others ↔ ∀ pos, shownAt spans pos = shownAt others pos := by
  constructor
  · intro h pos
    rw [← shownAt_flatten spans, h, shownAt_flatten]
  · intro h
    refine (canonical_flatten spans).unique (canonical_flatten others) fun pos => ?_
    rw [shownAt_flatten, shownAt_flatten, h]

end Painting

open Painting

/-- **Flattening gives the canonical form of a painting**: runs in increasing order that do not
    overlap, do not look alike where they touch, and show at every byte the last span that contains
    it.  Paintings have the same form just if they show the same, and a form is its own form. -/
theorem flatten_canonical (spans : List Span) :
    Canonical (flatten spans) ∧ (∀ pos, shownAt (flatten spans) pos = shownAt spans pos) ∧
      (∀ others, flatten spans = flatten others ↔ ∀ pos, shownAt spans pos = shownAt others pos) ∧
      flatten (flatten spans) = flatten spans :=
  ⟨canonical_flatten spans, shownAt_flatten spans, fun _ => flatten_eq_iff,
    flatten_eq_iff.mpr (shownAt_flatten spans)⟩

/-- A span over the middle of another one cuts it in two; one that touches and looks alike is
    melted. -/
example : flatten [⟨0, 6, .quotation⟩, ⟨2, 2, .escape⟩, ⟨6, 3, .quotation⟩, ⟨4, 0, .number⟩]
    = [⟨0, 2, .quotation⟩, ⟨2, 2, .escape⟩, ⟨4, 5, .quotation⟩] := by decide

end Highlight
