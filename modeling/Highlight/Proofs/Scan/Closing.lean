/-
  Where a construct ends.

  The search for the end of a construct has two patterns race over the line: what the escape matches
  is recorded and passed, and a closing delimiter that is hidden is passed, too.  It stops at the
  first delimiter that is not hidden.

  1. **Steps** — `Step` lists what one step of the search can do.  Every step passes a place of the
     text, so the search comes to an end and the fuel suffices (`searches_findEnd`).

  2. **Runs** — `escapeRun` looks at the escapes from the last one back and counts the maximal run
     (`run_escapeRun`).

  3. **The crux** — what is known when the search stands at an offset (`Reached`) is kept by a step
     that takes an escape and by one that passes a delimiter.  An escape is recorded behind all that
     has been passed, so it changes nothing about what is hidden there.

  Main result: **`findEnd_exact`**.
-/
import Mathlib.Data.List.Infix
import Mathlib.Data.List.Induction
import Highlight.Proofs.Scan.Hiding

namespace Highlight

namespace Text

variable {text : Text} {pos q n : Nat}

/-- The number of places of a text from an offset on. -/
def placesFrom (text : Text) (pos : Nat) : Nat :=
  text.inits.countP fun before => pos ≤ size before

theorem placesFrom_le (text : Text) (pos : Nat) : text.placesFrom pos ≤ text.length + 1 :=
  List.length_inits text ▸ List.countP_le_length

/-- Whoever passes a place has fewer of them left. -/
theorem placesFrom_lt (h : text.IsBoundary n) (hpos : pos ≤ n) (hq : n < q) :
    text.placesFrom q < text.placesFrom pos := by
  obtain ⟨before, after, rfl, rfl⟩ := h
  have hsub : (before ++ after).placesFrom q
      = ((before ++ after).inits.filter fun b => pos ≤ size b).countP fun b => q ≤ size b := by
    rw [placesFrom, List.countP_filter]
    refine List.countP_congr fun b _ => ?_
    simp only [decide_eq_true_eq, Bool.and_eq_true]
    omega
  rw [hsub, placesFrom, List.countP_eq_length_filter (p := fun b => decide (pos ≤ size b))]
  refine Nat.lt_of_le_of_ne List.countP_le_length fun heq => ?_
  have hall := List.countP_eq_length.mp heq before
    (List.mem_filter.mpr ⟨(List.mem_inits _ _).mpr ⟨after, rfl⟩, decide_eq_true hpos⟩)
  simp only [decide_eq_true_eq] at hall
  omega

end Text

namespace Closing

/-! ## Steps

  A step compares what two searches find.  `Step` has one case for each outcome with all that is
  known then, and nothing else is used of it from here on. -/

section Steps

variable {d : Delimiters} {text : Text} {pos q : Nat} {e t : Nat × Nat}
  {escapes : List (Nat × Nat)}

/-- Where the search goes on behind a closing delimiter that is passed. -/
def resume (text : Text) (t : Nat × Nat) : Nat := if t.1 < t.2 then t.2 else text.nextBoundary t.1

/-- What one step of the search can do. -/
inductive Step (d : Delimiters) (text : Text) (pos : Nat) (escapes : List (Nat × Nat)) :
    Delimiters.EndStep → Prop
  | inVain (hclosing : d.closing.findAt text pos = none) (hescape : d.escapeAt text pos = none) :
      Step d text pos escapes (.finish none)
  | escape {e : Nat × Nat} (hescape : d.escapeAt text pos = some e)
      (hfirst : ∀ t, d.closing.findAt text pos = some t → e.1 ≤ t.1) :
      Step d text pos escapes (.goOn e.2 (e :: escapes))
  | pass {t : Nat × Nat} (hclosing : d.closing.findAt text pos = some t)
      (hfirst : ∀ e, d.escapeAt text pos = some e → t.1 < e.1)
      (hodd : escapeRun text t.1 escapes % 2 = 1) :
      Step d text pos escapes (.goOn (resume text t) escapes)
  | close {t : Nat × Nat} (hclosing : d.closing.findAt text pos = some t)
      (hfirst : ∀ e, d.escapeAt text pos = some e → t.1 < e.1)
      (heven : escapeRun text t.1 escapes % 2 ≠ 1) :
      Step d text pos escapes (.finish (some t.2))

/-- At a delimiter that comes first the parity of the run before it decides. -/
theorem step_atDelimiter (hclosing : d.closing.findAt text pos = some t)
    (hfirst : ∀ e, d.escapeAt text pos = some e → t.1 < e.1) :
    Step d text pos escapes (Delimiters.atDelimiter text escapes t) := by
  unfold Delimiters.atDelimiter
  split
  · rename_i hodd
    exact .pass hclosing hfirst hodd
  · rename_i heven
    exact .close hclosing hfirst heven

/-- **One step of the search does what `Step` lists**, with its guards: what comes first on the line
    is taken, an escape before a delimiter that begins at the same offset. -/
theorem step_endStep (d : Delimiters) (text : Text) (pos : Nat) (escapes : List (Nat × Nat)) :
    Step d text pos escapes (d.endStep text pos escapes) := by
  unfold Delimiters.endStep
  split
  · rename_i hclosing hescape
    exact .inVain hclosing hescape
  · rename_i e hclosing hescape
    exact .escape hescape fun t ht => absurd (hclosing.symm.trans ht) (by simp)
  · rename_i t hclosing hescape
    exact step_atDelimiter hclosing fun e he => absurd (hescape.symm.trans he) (by simp)
  · rename_i t e hclosing hescape
    split
    · rename_i hle
      refine .escape hescape fun t' ht' => ?_
      obtain rfl := Option.some.inj (hclosing.symm.trans ht')
      exact hle
    · rename_i hlt
      refine step_atDelimiter hclosing fun e' he' => ?_
      obtain rfl := Option.some.inj (hescape.symm.trans he')
      omega

/-- An escape that is met is a match, has some length and begins at a place ahead. -/
theorem escapeAt_spec (h : d.escapeAt text pos = some e) :
    Escapes d text e ∧ pos ≤ e.1 ∧ e.1 < e.2 ∧ text.IsBoundary e.1 := by
  obtain ⟨hfind, hne⟩ := Option.filter_eq_some_iff.mp h
  obtain ⟨p, hp, hmatch⟩ := Option.bind_eq_some_iff.mp hfind
  have hbounds := Pattern.le_of_findAt hmatch
  have hne : e.1 ≠ e.2 := of_decide_eq_true hne
  exact ⟨⟨p, hp, Pattern.matches_of_findAt hmatch⟩, by omega, by omega,
    (Pattern.isBoundary_of_findAt hmatch).1⟩

/-- An escape that is not empty is met at or before every later match of its pattern. -/
theorem exists_escapeAt (hsubst : Substantial d text) (hq : EscapesAt d text q) (hpos : pos ≤ q) :
    ∃ e, d.escapeAt text pos = some e ∧ e.1 ≤ q := by
  obtain ⟨p, hp, hmatch⟩ := hq
  cases hfind : p.findAt text pos with
  | none => exact absurd hmatch (Pattern.not_matchesAt hfind hpos)
  | some e =>
    refine ⟨e, ?_, Pattern.le_of_matchesAt hfind hpos hmatch⟩
    have hne := hsubst e ⟨p, hp, Pattern.matches_of_findAt hfind⟩
    rw [Delimiters.escapeAt, hp, Option.bind_some, hfind]
    exact Option.filter_eq_some_iff.mpr ⟨rfl, decide_eq_true hne⟩

/-- Where a closing delimiter comes first, no escape begins at it or before. -/
theorem lt_of_escapesAt (hfirst : ∀ e, d.escapeAt text pos = some e → t.1 < e.1)
    (hsubst : Substantial d text) (hpos : pos ≤ q) (hq : EscapesAt d text q) : t.1 < q := by
  obtain ⟨e, he, hle⟩ := exists_escapeAt hsubst hq hpos
  exact Nat.lt_of_lt_of_le (hfirst e he) hle

/-- Where an escape comes first, no closing delimiter begins before it. -/
theorem le_of_closing_matchesAt (hfirst : ∀ t, d.closing.findAt text pos = some t → e.1 ≤ t.1)
    (q : Nat) (hpos : pos ≤ q) (hq : d.closing.MatchesAt text q) : e.1 ≤ q := by
  cases hfind : d.closing.findAt text pos with
  | none => exact absurd hq (Pattern.not_matchesAt hfind hpos)
  | some t => exact Nat.le_trans (hfirst t hfind) (Pattern.le_of_matchesAt hfind hpos hq)

theorem lt_resume (text : Text) (t : Nat × Nat) : t.1 < resume text t := by
  have hnext := Text.lt_nextBoundary text t.1
  unfold resume
  split <;> omega

theorem stop_le_resume (text : Text) (t : Nat × Nat) : t.2 ≤ resume text t := by
  have hnext := Text.lt_nextBoundary text t.1
  unfold resume
  split <;> omega

/-- The places between the beginning of a closing delimiter that is passed and where the search goes
    on lie inside this delimiter: behind an empty one, there is no place before the next. -/
theorem lt_stop_of_lt_resume (ht : text.IsBoundary t.1) (hq : text.IsBoundary q) (hlo : t.1 < q)
    (hhi : q < resume text t) : q < t.2 := by
  unfold resume at hhi
  split at hhi
  · exact hhi
  · obtain ⟨before, after, rfl, hstart⟩ := ht
    rw [hstart] at hlo hhi
    obtain ⟨mid, later, rfl, hmid⟩ := Text.exists_between hq (Nat.le_of_lt hlo)
    cases mid with
    | nil =>
      rw [hmid, List.append_nil] at hlo
      exact absurd hlo (Nat.lt_irrefl _)
    | cons c mid =>
      rw [List.cons_append, Text.nextBoundary_size] at hhi
      rw [hmid, Text.size_append, Text.size_cons] at hhi
      omega

end Steps

/-! ## Progress

  An escape that is met is not empty, and behind an empty delimiter the search goes on from the next
  place.  So each step that goes on leaves fewer places ahead. -/

section Progress

variable {d : Delimiters} {text : Text}

/-- The search from an offset, step by step until it finishes; `escapes` are recorded before it, the
    last one first. -/
inductive Searches (d : Delimiters) (text : Text) :
    (pos : Nat) → (escapes : List (Nat × Nat)) → EndSearch → Prop
  | finish {pos : Nat} {escapes : List (Nat × Nat)} {stop : Option Nat}
      (h : d.endStep text pos escapes = .finish stop) :
      Searches d text pos escapes ⟨stop, escapes.reverse⟩
  | goOn {pos pos' : Nat} {escapes escapes' : List (Nat × Nat)} {found : EndSearch}
      (h : d.endStep text pos escapes = .goOn pos' escapes')
      (hlater : Searches d text pos' escapes' found) : Searches d text pos escapes found

/-- A step that goes on passes a place. -/
theorem exists_place_of_goOn {pos pos' : Nat} {escapes escapes' : List (Nat × Nat)}
    (h : d.endStep text pos escapes = .goOn pos' escapes') :
    ∃ n, text.IsBoundary n ∧ pos ≤ n ∧ n < pos' := by
  have hstep := step_endStep d text pos escapes
  rw [h] at hstep
  cases hstep with
  | escape hescape _ =>
    obtain ⟨-, hpos, hlt, hplace⟩ := escapeAt_spec hescape
    exact ⟨_, hplace, hpos, hlt⟩
  | pass hclosing _ _ =>
    exact ⟨_, (Pattern.isBoundary_of_findAt hclosing).1, (Pattern.le_of_findAt hclosing).1,
      lt_resume text _⟩

/-- With more fuel than places ahead the search is carried through, by induction on the fuel. -/
theorem searches_findEndFrom (fuel pos : Nat) (escapes : List (Nat × Nat))
    (hfuel : text.placesFrom pos < fuel) :
    Searches d text pos escapes (d.findEndFrom text fuel pos escapes) := by
  induction fuel generalizing pos escapes with
  | zero => exact absurd hfuel (Nat.not_lt_zero _)
  | succ fuel ih =>
    unfold Delimiters.findEndFrom
    cases hstep : d.endStep text pos escapes with
    | finish stop => exact .finish hstep
    | goOn pos' escapes' =>
      obtain ⟨n, hplace, hpos, hlt⟩ := exists_place_of_goOn hstep
      have hfewer := Text.placesFrom_lt hplace hpos hlt
      exact .goOn hstep (ih pos' escapes' (by omega))

/-- **The search comes to an end**: the fuel suffices. -/
theorem searches_findEnd (d : Delimiters) (style : StyleId) (text : Text) (inner : Nat) :
    Searches d text inner [] (BlockRule.findEnd ⟨some d, style⟩ text inner) := by
  have hplaces := Text.placesFrom_le text inner
  exact searches_findEndFrom _ inner [] (by omega)

end Progress

/-! ## What is known on the way

  `Reached` says of the escapes recorded so far that they are in order, and of all places before the
  offset that they are passed over.  A step that goes on keeps this up (`escape`, `pass`); from a
  step that finishes one reads off what the search has found (`ends`, `passes`). -/

/-- The search that began at `inner` stands at an offset with the escapes recorded so far. -/
structure Reached (d : Delimiters) (text : Text) (inner pos : Nat)
    (escapes : List (Nat × Nat)) : Prop where
  le : inner ≤ pos
  recorded : ∀ e ∈ escapes, Recorded d text inner e
  ordered : escapes.Pairwise fun e e' => e.2 ≤ e'.1
  behind : ∀ e ∈ escapes, e.2 ≤ pos
  passed : ∀ q, inner ≤ q → q < pos → Passes d text inner escapes q
  apart : ∀ t, RunHidden d text inner escapes t → ∀ e ∈ escapes, e.2 ≤ t.1 ∨ t.2 ≤ e.1
  /-- A closing delimiter that has been passed has been passed as a whole. -/
  clear : ∀ t, RunHidden d text inner escapes t → t.1 < pos → t.2 ≤ pos

section Reached

variable {d : Delimiters} {text : Text} {inner pos : Nat} {e t : Nat × Nat}
  {escapes : List (Nat × Nat)}

/-- At first nothing is recorded and nothing has been passed. -/
theorem reached_start (d : Delimiters) (text : Text) (inner : Nat) :
    Reached d text inner inner [] where
  le := Nat.le_refl _
  recorded := fun _ he => absurd he List.not_mem_nil
  ordered := .nil
  behind := fun _ he => absurd he List.not_mem_nil
  passed := fun _ hle hlt => absurd hle (Nat.not_le_of_lt hlt)
  apart := fun _ _ _ he => absurd he List.not_mem_nil
  clear := fun _ ht hlt => absurd ht.le (Nat.not_le_of_lt hlt)

/-- What `escapeRun` counts is the maximal run. -/
theorem run_escapeRun (hrecorded : ∀ e ∈ escapes, Recorded d text inner e)
    (hordered : escapes.Pairwise fun e e' => e.2 ≤ e'.1) (hbehind : ∀ e ∈ escapes, e.2 ≤ pos) :
    Run text escapes pos (escapeRun text pos escapes.reverse) := by
  induction escapes using List.reverseRecOn generalizing pos with
  | nil => exact .none fun start he => absurd he List.not_mem_nil
  | append_singleton escapes e ih =>
    obtain ⟨start, stop⟩ := e
    obtain ⟨hordered, -, hlast⟩ := List.pairwise_append.mp hordered
    have hbefore : ∀ e ∈ escapes, e.2 ≤ start := fun e he =>
      hlast e he _ (List.mem_singleton_self _)
    have hmem : (start, stop) ∈ escapes ++ [(start, stop)] :=
      List.mem_append_right _ (List.mem_singleton_self _)
    obtain ⟨p, -, hmatch⟩ := (hrecorded _ hmem).escapes
    rw [List.reverse_append, List.reverse_singleton, List.singleton_append, escapeRun]
    split
    · rename_i h
      obtain ⟨rfl, hlen⟩ := h
      have hrun := ih (fun e he => hrecorded e (List.mem_append_left _ he)) hordered hbefore
      exact .more hmem ((length_slice_eq_one_iff hmatch).mp hlen)
        (hrun.congr (agreeBefore_append escapes (Nat.le_refl _)))
    · rename_i h
      refine .none fun start' he hone => ?_
      rcases List.mem_append.mp he with he | he
      · -- the escapes before the last one end before it ends
        have hlt := (hrecorded _ hmem).lt
        have hstop := hbehind _ hmem
        have hearly := hbefore _ he
        simp only at hlt hstop hearly
        omega
      · obtain ⟨rfl, rfl⟩ := Prod.mk.inj (List.mem_singleton.mp he)
        exact h ⟨rfl, (length_slice_eq_one_iff hmatch).mpr hone⟩

/-- A closing delimiter that is hidden when an escape is taken was so before, or lies behind the
    escape. -/
theorem runHidden_append (hpos : pos ≤ e.1)
    (hfirst : ∀ q, pos ≤ q → d.closing.MatchesAt text q → e.1 ≤ q)
    (ht : RunHidden d text inner (escapes ++ [e]) t) :
    (RunHidden d text inner escapes t ∧ t.1 < pos) ∨ e.2 ≤ t.1 := by
  rcases Nat.lt_or_ge t.1 pos with hlt | hge
  · exact .inl ⟨ht.congr (agreeBefore_append escapes hpos).symm hlt, hlt⟩
  · refine .inr (Nat.le_of_not_lt fun hin => ?_)
    have hmem : e ∈ escapes ++ [e] := List.mem_append_right _ (List.mem_singleton_self _)
    exact ht.outside e hmem ⟨hfirst _ hge ht.closes.at, hin⟩

namespace Reached

/-- A closing delimiter at or behind the offset of the search is hidden just by an odd run. -/
theorem runHidden_iff (h : Reached d text inner pos escapes) (hpos : pos ≤ t.1) :
    RunHidden d text inner escapes t ↔
      d.closing.Matches text t ∧ escapeRun text t.1 escapes.reverse % 2 = 1 := by
  have hrun : Run text escapes t.1 (escapeRun text t.1 escapes.reverse) :=
    run_escapeRun h.recorded h.ordered fun e he => Nat.le_trans (h.behind e he) hpos
  constructor
  · intro ht
    obtain ⟨n, hrun', hodd⟩ := ht.odd
    rw [hrun.unique hrun']
    exact ⟨ht.closes, hodd⟩
  · rintro ⟨hmatch, hodd⟩
    refine ⟨Nat.le_trans h.le hpos, hmatch, fun e he hin => ?_, _, hrun, hodd⟩
    have hbehind := h.behind e he
    have hlt := hin.2
    omega

/-- Taking an escape: whatever begins at it or behind it is inside it. -/
theorem escape (h : Reached d text inner pos escapes) (hescape : d.escapeAt text pos = some e)
    (hfirst : ∀ t, d.closing.findAt text pos = some t → e.1 ≤ t.1) :
    Reached d text inner e.2 (escapes ++ [e]) := by
  obtain ⟨hmatch, hpos, hlt, -⟩ := escapeAt_spec hescape
  have hle := h.le
  have hclosing := le_of_closing_matchesAt hfirst
  have hmem : e ∈ escapes ++ [e] := List.mem_append_right _ (List.mem_singleton_self _)
  exact {
    le := by omega
    recorded := List.forall_mem_append.mpr
      ⟨h.recorded, List.forall_mem_singleton.mpr ⟨by omega, hlt, hmatch⟩⟩
    ordered := by
      refine List.pairwise_append.mpr ⟨h.ordered, List.pairwise_singleton _ _, ?_⟩
      exact fun e' he' => List.forall_mem_singleton.mpr (Nat.le_trans (h.behind e' he') hpos)
    behind := by
      refine List.forall_mem_append.mpr
        ⟨fun e' he' => ?_, List.forall_mem_singleton.mpr (Nat.le_refl _)⟩
      have hbehind := h.behind e' he'
      omega
    -- what begins before the escape was passed already; from there on everything is inside it
    passed := by
      intro q hinner hq
      rcases Nat.lt_or_ge q pos with hearly | hge
      · exact (h.passed q hinner hearly).congr (agreeBefore_append escapes hpos) hearly
      · refine ⟨fun hmatchq => .escaped hmem ⟨hclosing q hge hmatchq, hq⟩, ?_⟩
        intro hsubst hescapeq
        obtain ⟨e', he', hle'⟩ := exists_escapeAt hsubst hescapeq hge
        obtain rfl := Option.some.inj (hescape.symm.trans he')
        exact .escaped hmem ⟨hle', hq⟩
    -- a delimiter hidden now was hidden before, or it begins behind the new escape
    apart := by
      intro t ht
      rcases runHidden_append hpos hclosing ht with ⟨hold, hearly⟩ | hge
      · have hclear := h.clear t hold hearly
        exact List.forall_mem_append.mpr
          ⟨h.apart t hold, List.forall_mem_singleton.mpr (.inr (Nat.le_trans hclear hpos))⟩
      · refine List.forall_mem_append.mpr
          ⟨fun e' he' => .inl ?_, List.forall_mem_singleton.mpr (.inl hge)⟩
        have hbehind := h.behind e' he'
        omega
    clear := by
      intro t ht hstop
      rcases runHidden_append hpos hclosing ht with ⟨hold, hearly⟩ | hge
      · have hclear := h.clear t hold hearly
        omega
      · omega }

/-- Passing a closing delimiter that is hidden: what begins behind its beginning is inside it. -/
theorem pass (h : Reached d text inner pos escapes)
    (hclosing : d.closing.findAt text pos = some t)
    (hfirst : ∀ e, d.escapeAt text pos = some e → t.1 < e.1)
    (hodd : escapeRun text t.1 escapes.reverse % 2 = 1) :
    Reached d text inner (resume text t) escapes := by
  have hpos := (Pattern.le_of_findAt hclosing).1
  have hplace := (Pattern.isBoundary_of_findAt hclosing).1
  have hresume := lt_resume text t
  have hmatch := Pattern.matches_of_findAt hclosing
  have hhidden := (h.runHidden_iff hpos).mpr ⟨hmatch, hodd⟩
  exact {
    le := by
      have hle := h.le
      omega
    recorded := h.recorded
    ordered := h.ordered
    behind := fun e he => by
      have hbehind := h.behind e he
      omega
    passed := by
      intro q hinner hq
      rcases Nat.lt_or_ge q pos with hlt | hge
      · exact h.passed q hinner hlt
      refine ⟨fun hmatchq => ?_, fun hsubst hescapeq => ?_⟩
      · have hafter := Pattern.le_of_matchesAt hclosing hge hmatchq
        rcases Nat.eq_or_lt_of_le hafter with rfl | hlo
        · exact .begins hhidden
        · exact .inside hhidden hlo (lt_stop_of_lt_resume hplace hmatchq.isBoundary hlo hq)
      · have hlo := lt_of_escapesAt hfirst hsubst hge hescapeq
        obtain ⟨p, -, hmatchq⟩ := hescapeq
        exact .inside hhidden hlo (lt_stop_of_lt_resume hplace hmatchq.isBoundary hlo hq)
    apart := h.apart
    clear := by
      intro t' ht' hlt
      rcases Nat.lt_or_ge t'.1 pos with hearly | hge
      · have hclear := h.clear t' ht' hearly
        omega
      · have hafter := Pattern.le_of_matchesAt hclosing hge ht'.closes.at
        rcases Nat.eq_or_lt_of_le hafter with hsame | hlo
        · rw [← hmatch.unique ht'.closes hsame]
          exact stop_le_resume text t
        · -- an odd run does not end behind the offset of the search
          obtain ⟨n, hrun, hoddn⟩ := ht'.odd
          obtain ⟨start, he, -⟩ := hrun.exists_last hoddn
          have hbehind : t'.1 ≤ pos := h.behind _ he
          omega }

/-- A place is passed over if neither a closing delimiter nor an escape that is still to be found
    begins there. -/
theorem passes_of_quiet {q : Nat} (h : Reached d text inner pos escapes) (hinner : inner ≤ q)
    (hclosing : pos ≤ q → ¬d.closing.MatchesAt text q)
    (hescape : pos ≤ q → Substantial d text → ¬EscapesAt d text q) :
    Passes d text inner escapes q := by
  rcases Nat.lt_or_ge q pos with hlt | hge
  · exact h.passed q hinner hlt
  · exact ⟨fun hmatchq => absurd hmatchq (hclosing hge),
      fun hsubst hescapeq => absurd hescapeq (hescape hge hsubst)⟩

/-- A closing delimiter that is met and does not follow an odd run is not hidden. -/
theorem not_hidden (h : Reached d text inner pos escapes)
    (hclosing : d.closing.findAt text pos = some t)
    (heven : escapeRun text t.1 escapes.reverse % 2 ≠ 1) : ¬Hidden d text inner escapes t.1 := by
  intro hhidden
  have hpos := (Pattern.le_of_findAt hclosing).1
  generalize hq : t.1 = q at hhidden
  cases hhidden with
  | escaped he hin =>
    have hbehind := h.behind _ he
    have hlt := hin.2
    omega
  | @begins t' ht' =>
    have hodd := ((h.runHidden_iff (by omega)).mp ht').2
    rw [← hq] at hodd
    exact heven hodd
  | @inside t' _ ht' hlo hhi =>
    rcases Nat.lt_or_ge t'.1 pos with hearly | hge
    · have hclear := h.clear t' ht' hearly
      omega
    · have hafter := Pattern.le_of_matchesAt hclosing hge ht'.closes.at
      omega

/-- Such a closing delimiter ends the construct. -/
theorem ends (h : Reached d text inner pos escapes)
    (hclosing : d.closing.findAt text pos = some t)
    (hfirst : ∀ e, d.escapeAt text pos = some e → t.1 < e.1)
    (heven : escapeRun text t.1 escapes.reverse % 2 ≠ 1) : Ends d text inner escapes t := by
  have hpos := (Pattern.le_of_findAt hclosing).1
  have hunescaped : ∀ q, pos ≤ q → q ≤ t.1 → Substantial d text → ¬EscapesAt d text q :=
    fun q hq hle hsubst hescapeq =>
      absurd (lt_of_escapesAt hfirst hsubst hq hescapeq) (Nat.not_lt_of_le hle)
  exact {
    le := Nat.le_trans h.le hpos
    closes := Pattern.matches_of_findAt hclosing
    shown := h.not_hidden hclosing heven
    behind := fun e he => Nat.le_trans (h.behind e he) hpos
    passed := by
      intro q hinner hq
      refine h.passes_of_quiet hinner (fun hge hmatchq => ?_)
        fun hge => hunescaped q hge (Nat.le_of_lt hq)
      have hafter := Pattern.le_of_matchesAt hclosing hge hmatchq
      omega
    unescaped := hunescaped _ hpos (Nat.le_refl _) }

/-- A search in vain has passed over everything. -/
theorem passes (h : Reached d text inner pos escapes)
    (hclosing : d.closing.findAt text pos = none) (hescape : d.escapeAt text pos = none) (q : Nat)
    (hinner : inner ≤ q) : Passes d text inner escapes q := by
  refine h.passes_of_quiet hinner (Pattern.not_matchesAt hclosing) fun hge hsubst hescapeq => ?_
  obtain ⟨e, he, -⟩ := exists_escapeAt hsubst hescapeq hge
  exact absurd (hescape.symm.trans he) (by simp)

/-- From a place where all this is known, the search finds what it has to find. -/
theorem finds {found : EndSearch} (h : Reached d text inner pos escapes)
    (hsearch : Searches d text pos escapes.reverse found) : Finds d text inner found := by
  generalize hrev : escapes.reverse = recorded at hsearch
  -- along the search; each step that goes on keeps what is known
  induction hsearch generalizing escapes with
  | @finish pos recorded stop hstep =>
    obtain rfl := hrev
    rw [List.reverse_reverse]
    have hcases := step_endStep d text pos escapes.reverse
    rw [hstep] at hcases
    cases hcases with
    | inVain hclosing hescape =>
      exact ⟨h.recorded, h.ordered, h.apart, fun stop hstop => absurd hstop (by simp),
        fun _ => h.passes hclosing hescape⟩
    | @close t hclosing hfirst heven =>
      refine ⟨h.recorded, h.ordered, h.apart, fun stop hstop => ?_,
        fun hnone => absurd hnone (by simp)⟩
      obtain rfl := Option.some.inj hstop
      exact ⟨t.1, h.ends hclosing hfirst heven⟩
  | @goOn pos pos' recorded recorded' found hstep _ ih =>
    obtain rfl := hrev
    have hcases := step_endStep d text pos escapes.reverse
    rw [hstep] at hcases
    cases hcases with
    | escape hescape hfirst => exact ih (h.escape hescape hfirst) (by simp)
    | pass hclosing hfirst hodd => exact ih (h.pass hclosing hfirst hodd) rfl

end Reached

end Reached

/-- What the search for the end of a construct finds is what it has to find. -/
theorem finds_findEnd {r : BlockRule} {d : Delimiters} (hd : r.delimiters = some d) (text : Text)
    (inner : Nat) : Finds d text inner (r.findEnd text inner) := by
  obtain ⟨delimiters, style⟩ := r
  obtain rfl : delimiters = some d := hd
  exact (reached_start d text inner).finds (searches_findEnd d style text inner)

end Closing

/-- **Where a construct ends**: the search comes to an end and finds what it has to find, and if no
    escape is empty, there is nothing else to be found. -/
theorem findEnd_exact (d : Delimiters) (style : StyleId) (text : Text) (inner : Nat) :
    let found := BlockRule.findEnd ⟨some d, style⟩ text inner
    Closing.Searches d text inner [] found ∧ Closing.Finds d text inner found ∧
      (Closing.Substantial d text →
        ∀ found', Closing.Finds d text inner found' → found' = found) := by
  intro found
  have hsearch := Closing.searches_findEnd d style text inner
  have hfinds := (Closing.reached_start d text inner).finds hsearch
  exact ⟨hsearch, hfinds, fun hsubst found' h' => h'.unique hsubst hfinds⟩

/-- One escape hides the delimiter that follows it, two do not. -/
example : (BlockRule.compile "x" "x" (some "!") .quotation).toOption.map
    (·.findEnd "!x!!x".toList 0) = some ⟨some 5, [(0, 1), (2, 3), (3, 4)]⟩ := by decide +kernel

end Highlight
