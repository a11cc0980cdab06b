/-
  What hides the end of a construct.

  A closing delimiter does not end a construct everywhere: an escape hides what it matches, and an
  odd run of one-character escapes hides the delimiter that directly follows it.  This is said here
  from the matches of the two patterns and the escapes that are recorded, without reference to the
  search that looks for the end.

  1. **Hidden** — a place is `Hidden` inside an escape, where a delimiter begins that follows an odd
     run (`RunHidden`), and inside such a delimiter.  A `Run` is maximal by its definition.

  2. **The specification** — `Finds` says what is recorded, which delimiter ends the construct, and
     that all that comes before it is hidden.

  3. **What is hidden depends on what begins before it only** — so an escape further on changes
     nothing (`AgreeBefore`).

  4. **Only one answer** — if no escape is empty, the specification leaves no choice: the first
     escape on which two answers differ would have been passed over by one of them for no reason.

  Main result: `Closing.Finds.unique`.
-/
import Highlight.Proofs.Scan.Refinement

namespace Highlight

/-! ## Places and slices -/

namespace Text

/-- Two beginnings of a text of the same size are the same. -/
theorem beginning_unique {before after before' after' : Text}
    (h : before ++ after = before' ++ after') (hsize : before.size = before'.size) :
    before = before' := by
  rcases List.append_eq_append_iff.mp h with ⟨mid, rfl, -⟩ | ⟨mid, rfl, -⟩
  · have hmid : mid = [] := eq_nil_of_size (by rw [size_append] at hsize; omega)
    rw [hmid, List.append_nil]
  · have hmid : mid = [] := eq_nil_of_size (by rw [size_append] at hsize; omega)
    rw [hmid, List.append_nil]

/-- Characters before the range are not cut out. -/
theorem sliceFrom_skip (before rest : Text) (hi off : Nat) (h : off + before.size ≤ hi) :
    sliceFrom (off + before.size) hi off (before ++ rest)
      = sliceFrom (off + before.size) hi (off + before.size) rest := by
  induction before generalizing off with
  | nil => rfl
  | cons c before ih =>
    have hpos := Char.utf8Size_pos c
    rw [size_cons, ← Nat.add_assoc] at h ⊢
    rw [List.cons_append, sliceFrom, if_neg (by omega), if_neg (by omega)]
    exact ih _ h

/-- Characters within the range all are, and none behind it. -/
theorem sliceFrom_take (mid after : Text) {lo : Nat} (off : Nat) (h : lo ≤ off) :
    sliceFrom lo (off + mid.size) off (mid ++ after) = mid := by
  induction mid generalizing off with
  | nil => cases after <;> simp [sliceFrom]
  | cons c mid ih =>
    have hpos := Char.utf8Size_pos c
    rw [size_cons, ← Nat.add_assoc, List.cons_append, sliceFrom, if_neg (by omega), if_pos h,
      ih _ (by omega)]

/-- What is cut out between two places is what stands between them. -/
theorem slice_cut (before mid after : Text) :
    slice (before ++ mid ++ after) before.size (before.size + mid.size) = mid := by
  have hskip := sliceFrom_skip before (mid ++ after) (before.size + mid.size) 0 (by omega)
  rw [Nat.zero_add] at hskip
  rw [slice, List.append_assoc, hskip]
  exact sliceFrom_take mid after _ (Nat.le_refl _)

end Text

/-! ## Matches

  The matches that count are those of a search that begins right at their offset; a search from
  further back may find another one first and never come to them. -/

namespace Pattern

variable {p : Pattern} {text : Text} {m : Nat × Nat} {pos q : Nat}

/-- A range is what the pattern matches where the range begins. -/
def Matches (p : Pattern) (text : Text) (m : Nat × Nat) : Prop := p.findAt text m.1 = some m

/-- The pattern matches something that begins at an offset. -/
def MatchesAt (p : Pattern) (text : Text) (q : Nat) : Prop := ∃ stop, p.Matches text (q, stop)

theorem Matches.at (h : p.Matches text m) : p.MatchesAt text m.1 := ⟨m.2, h⟩

/-- A pattern has one match at an offset, the one that its search prefers. -/
theorem Matches.unique {m' : Nat × Nat} (h : p.Matches text m) (h' : p.Matches text m')
    (hsame : m.1 = m'.1) : m = m' :=
  Option.some.inj (h.symm.trans (hsame ▸ h'))

/-- Matches begin between characters. -/
theorem MatchesAt.isBoundary (h : p.MatchesAt text q) : text.IsBoundary q := by
  obtain ⟨stop, hmatch⟩ := h
  exact (isBoundary_of_findAt hmatch).1

/-- A match that a search finds from further back is the match where it begins. -/
theorem matches_of_findAt (h : p.findAt text pos = some m) : p.Matches text m :=
  findAt_of_le h (le_of_findAt h).1 (Nat.le_refl _)

/-- What is found is the first match. -/
theorem le_of_matchesAt (h : p.findAt text pos = some m) (hpos : pos ≤ q)
    (hq : p.MatchesAt text q) : m.1 ≤ q := by
  obtain ⟨stop, hmatch⟩ := hq
  refine Nat.le_of_not_lt fun hlt => ?_
  have hsame : m = (q, stop) :=
    Option.some.inj ((findAt_of_le h hpos (Nat.le_of_lt hlt)).symm.trans hmatch)
  rw [hsame] at hlt
  exact Nat.lt_irrefl _ hlt

/-- Where a search is in vain there is no match from there on. -/
theorem not_matchesAt (h : p.findAt text pos = none) (hpos : pos ≤ q) : ¬p.MatchesAt text q := by
  rintro ⟨stop, hmatch⟩
  exact absurd ((findAt_eq_none_of_le h hpos).symm.trans hmatch) (by simp)

end Pattern

namespace Closing

/-! ## What is hidden

  An escape hides whatever begins in it.  A run of escapes hides the delimiter right behind it if
  the run is odd; and then what begins inside this delimiter is hidden, too. -/

/-- An offset within a range, its end excluded. -/
def Within (m : Nat × Nat) (q : Nat) : Prop := m.1 ≤ q ∧ q < m.2

/-- A range of one character. -/
def OneChar (text : Text) (e : Nat × Nat) : Prop :=
  ∃ (before : Text) (c : Char) (after : Text),
    text = before ++ c :: after ∧ e = (before.size, before.size + c.utf8Size)

/-- The maximal run of adjacent one-character ranges that ends exactly at an offset, and their
    number: each begins where the one before ends, and none ends where the first one begins. -/
inductive Run (text : Text) (escapes : List (Nat × Nat)) : (pos : Nat) → (n : Nat) → Prop
  | none {pos : Nat} (h : ∀ start, (start, pos) ∈ escapes → ¬OneChar text (start, pos)) :
      Run text escapes pos 0
  | more {start pos n : Nat} (he : (start, pos) ∈ escapes) (hone : OneChar text (start, pos))
      (hbefore : Run text escapes start n) : Run text escapes pos (n + 1)

section Hidden

variable (d : Delimiters) (text : Text) (inner : Nat) (escapes : List (Nat × Nat))

/-- A closing delimiter that begins in no escape and follows an odd run of one-character escapes. -/
structure RunHidden (t : Nat × Nat) : Prop where
  le : inner ≤ t.1
  closes : d.closing.Matches text t
  outside : ∀ e ∈ escapes, ¬Within e t.1
  odd : ∃ n, Run text escapes t.1 n ∧ n % 2 = 1

/-- The places at which a closing delimiter does not count. -/
inductive Hidden : (q : Nat) → Prop
  | escaped {e : Nat × Nat} {q : Nat} (he : e ∈ escapes) (hq : Within e q) : Hidden q
  | begins {t : Nat × Nat} (ht : RunHidden d text inner escapes t) : Hidden t.1
  | inside {t : Nat × Nat} {q : Nat} (ht : RunHidden d text inner escapes t) (hlo : t.1 < q)
      (hhi : q < t.2) : Hidden q

/-- The places at which an escape does not count: inside one that is recorded, or inside a closing
    delimiter that is passed. -/
inductive Taken : (q : Nat) → Prop
  | escaped {e : Nat × Nat} {q : Nat} (he : e ∈ escapes) (hq : Within e q) : Taken q
  | inside {t : Nat × Nat} {q : Nat} (ht : RunHidden d text inner escapes t) (hlo : t.1 < q)
      (hhi : q < t.2) : Taken q

end Hidden

/-- A match of the escape. -/
def Escapes (d : Delimiters) (text : Text) (e : Nat × Nat) : Prop :=
  ∃ p, d.escape = some p ∧ p.Matches text e

/-- A match of the escape begins at an offset. -/
def EscapesAt (d : Delimiters) (text : Text) (q : Nat) : Prop :=
  ∃ p, d.escape = some p ∧ p.MatchesAt text q

/-- The escape never matches nothing. -/
def Substantial (d : Delimiters) (text : Text) : Prop := ∀ e, Escapes d text e → e.1 ≠ e.2

/-! ## The specification

  `Finds` tells of an end and of some escapes whether they are what there is to be found, and
  nothing of how they are found. -/

section Specification

variable (d : Delimiters) (text : Text) (inner : Nat)

/-- An escape that may be recorded. -/
structure Recorded (e : Nat × Nat) : Prop where
  le : inner ≤ e.1
  lt : e.1 < e.2
  escapes : Escapes d text e

/-- A place that is passed over: a closing delimiter there is hidden, and so is an escape. -/
structure Passes (escapes : List (Nat × Nat)) (q : Nat) : Prop where
  closing : d.closing.MatchesAt text q → Hidden d text inner escapes q
  escape : Substantial d text → EscapesAt d text q → Taken d text inner escapes q

/-- A closing delimiter that ends the construct: it is not hidden, it lies behind all escapes, and
    whatever comes before it is passed over. -/
structure Ends (escapes : List (Nat × Nat)) (t : Nat × Nat) : Prop where
  le : inner ≤ t.1
  closes : d.closing.Matches text t
  shown : ¬Hidden d text inner escapes t.1
  behind : ∀ e ∈ escapes, e.2 ≤ t.1
  passed : ∀ q, inner ≤ q → q < t.1 → Passes d text inner escapes q
  unescaped : Substantial d text → ¬EscapesAt d text t.1

/-- What a search for the end of a construct has to find from `inner` on. -/
structure Finds (found : EndSearch) : Prop where
  recorded : ∀ e ∈ found.escapes, Recorded d text inner e
  ordered : found.escapes.Pairwise fun e e' => e.2 ≤ e'.1
  /-- No escape reaches into a closing delimiter that is passed. -/
  apart : ∀ t, RunHidden d text inner found.escapes t →
    ∀ e ∈ found.escapes, e.2 ≤ t.1 ∨ t.2 ≤ e.1
  ended : ∀ stop, found.stop = some stop →
    ∃ start, Ends d text inner found.escapes (start, stop)
  unended : found.stop = none → ∀ q, inner ≤ q → Passes d text inner found.escapes q

end Specification

/-! ## Runs -/

section Runs

variable {text : Text} {e : Nat × Nat} {escapes escapes' : List (Nat × Nat)} {pos q n n' : Nat}

/-- A character has some length. -/
theorem OneChar.lt (h : OneChar text e) : e.1 < e.2 := by
  obtain ⟨before, c, after, -, rfl⟩ := h
  have hpos := Char.utf8Size_pos c
  show before.size < before.size + c.utf8Size
  omega

/-- A character is known by its end. -/
theorem OneChar.unique {e' : Nat × Nat} (h : OneChar text e) (h' : OneChar text e')
    (hstop : e.2 = e'.2) : e = e' := by
  obtain ⟨before, c, after, htext, rfl⟩ := h
  obtain ⟨before', c', after', htext', rfl⟩ := h'
  have hcut : before ++ [c] ++ after = before' ++ [c'] ++ after' := by
    simpa using htext.symm.trans htext'
  have heq : before ++ [c] = before' ++ [c'] := Text.beginning_unique hcut (by simpa using hstop)
  obtain ⟨rfl, hc⟩ := List.append_inj' heq rfl
  obtain rfl := List.singleton_inj.mp hc
  rfl

/-- The text of a range of one character is one character long. -/
theorem length_slice_eq_one_iff {p : Pattern} (h : p.Matches text e) :
    (text.slice e.1 e.2).length = 1 ↔ OneChar text e := by
  obtain ⟨-, before, mid, after, htext, hstart, hstop⟩ := Pattern.findAt_cut h
  have hslice : text.slice e.1 e.2 = mid := by
    rw [hstop, hstart, htext]
    exact Text.slice_cut before mid after
  rw [hslice]
  constructor
  · intro hlen
    obtain ⟨c, rfl⟩ := List.length_eq_one_iff.mp hlen
    refine ⟨before, c, after, by simpa using htext, Prod.ext hstart ?_⟩
    show e.2 = before.size + c.utf8Size
    rw [hstop, hstart, Text.size_cons, Text.size_nil, Nat.add_zero]
  · rintro ⟨before', c, after', htext', heq⟩
    have hstart' : e.1 = before'.size := by rw [heq]
    have hstop' : e.2 = before'.size + c.utf8Size := by rw [heq]
    -- the text is cut at the same places both times, so the middle is the same
    have hcut : before ++ mid ++ after = before' ++ [c] ++ after' := by
      simpa using htext.symm.trans htext'
    have hmid : before ++ mid = before' ++ [c] := by
      refine Text.beginning_unique hcut ?_
      rw [Text.size_append, Text.size_append, Text.size_cons, Text.size_nil]
      omega
    obtain rfl := Text.beginning_unique hmid (hstart.symm.trans hstart')
    obtain rfl := List.append_cancel_left hmid
    rfl

/-- There is only one maximal run. -/
theorem Run.unique (h : Run text escapes pos n) (h' : Run text escapes pos n') : n = n' := by
  induction h generalizing n' with
  | none hnone =>
    cases h' with
    | none _ => rfl
    | more he hone _ => exact absurd hone (hnone _ he)
  | more he hone _ ih =>
    cases h' with
    | none hnone => exact absurd hone (hnone _ he)
    | more he' hone' hbefore' =>
      obtain ⟨rfl, -⟩ := Prod.mk.inj (hone.unique hone' rfl)
      rw [ih hbefore']

/-- Where a run ends that is not empty, a character ends that is an escape by itself. -/
theorem Run.exists_last (h : Run text escapes pos n) (hn : n % 2 = 1) :
    ∃ start, (start, pos) ∈ escapes ∧ OneChar text (start, pos) := by
  cases h with
  | none _ => exact absurd hn (by decide)
  | more he hone _ => exact ⟨_, he, hone⟩

/-- Two lists of escapes hold the same ones of those that begin before an offset. -/
def AgreeBefore (limit : Nat) (escapes escapes' : List (Nat × Nat)) : Prop :=
  ∀ e : Nat × Nat, e.1 < limit → (e ∈ escapes ↔ e ∈ escapes')

theorem AgreeBefore.symm (h : AgreeBefore n escapes escapes') : AgreeBefore n escapes' escapes :=
  fun e he => (h e he).symm

theorem AgreeBefore.mono (h : AgreeBefore n escapes escapes') (hle : n' ≤ n) :
    AgreeBefore n' escapes escapes' :=
  fun e he => h e (Nat.lt_of_lt_of_le he hle)

/-- An escape that is added further on. -/
theorem agreeBefore_append (escapes : List (Nat × Nat)) (h : pos ≤ e.1) :
    AgreeBefore pos escapes (escapes ++ [e]) := by
  intro e' he'
  have hne : e' ≠ e := by
    rintro rfl
    omega
  simp [hne]

/-- A run depends on what begins before its end only. -/
theorem Run.congr (h : Run text escapes pos n) (hagree : AgreeBefore pos escapes escapes') :
    Run text escapes' pos n := by
  induction h with
  | none hnone =>
    refine .none fun start he hone => ?_
    exact hnone start ((hagree _ hone.lt).mpr he) hone
  | more he hone _ ih =>
    exact .more ((hagree _ hone.lt).mp he) hone (ih (hagree.mono (Nat.le_of_lt hone.lt)))

end Runs

section Congruence

variable {d : Delimiters} {text : Text} {inner limit q : Nat} {t : Nat × Nat}
  {escapes escapes' : List (Nat × Nat)}

/-- Whether a delimiter is hidden by an odd run depends on the escapes that begin before it, or
    within it. -/
theorem RunHidden.congr (h : RunHidden d text inner escapes t)
    (hagree : AgreeBefore limit escapes escapes') (ht : t.1 < limit) :
    RunHidden d text inner escapes' t := by
  obtain ⟨n, hrun, hodd⟩ := h.odd
  refine ⟨h.le, h.closes, fun e he hin => ?_, n, hrun.congr (hagree.mono (Nat.le_of_lt ht)), hodd⟩
  exact h.outside e ((hagree e (Nat.lt_of_le_of_lt hin.1 ht)).mpr he) hin

/-- Whether a place is hidden depends on the escapes that begin up to it. -/
theorem Hidden.congr (h : Hidden d text inner escapes q)
    (hagree : AgreeBefore limit escapes escapes') (hq : q < limit) :
    Hidden d text inner escapes' q := by
  cases h with
  | escaped he hin => exact .escaped ((hagree _ (Nat.lt_of_le_of_lt hin.1 hq)).mp he) hin
  | begins ht => exact .begins (ht.congr hagree hq)
  | inside ht hlo hhi => exact .inside (ht.congr hagree (Nat.lt_trans hlo hq)) hlo hhi

/-- Escapes further on do not matter to whether an offset is inside something that hides it. -/
theorem Taken.congr (h : Taken d text inner escapes q)
    (hagree : AgreeBefore limit escapes escapes') (hq : q < limit) :
    Taken d text inner escapes' q := by
  cases h with
  | escaped he hin => exact .escaped ((hagree _ (Nat.lt_of_le_of_lt hin.1 hq)).mp he) hin
  | inside ht hlo hhi => exact .inside (ht.congr hagree (Nat.lt_trans hlo hq)) hlo hhi

/-- So does whether the search may pass it; that is why an escape recorded further on leaves what
    has been passed alone. -/
theorem Passes.congr (h : Passes d text inner escapes q)
    (hagree : AgreeBefore limit escapes escapes') (hq : q < limit) :
    Passes d text inner escapes' q :=
  ⟨fun hclosing => (h.closing hclosing).congr hagree hq,
    fun hsubst hescape => (h.escape hsubst hescape).congr hagree hq⟩

end Congruence

/-! ## Only one answer -/

section Unique

variable {d : Delimiters} {text : Text} {inner n : Nat} {e e' t : Nat × Nat}
  {found found' : EndSearch}

/-- Of two escapes that are recorded the one that begins first ends before the other begins. -/
theorem Finds.ordered_of_lt (h : Finds d text inner found) (he : e ∈ found.escapes)
    (he' : e' ∈ found.escapes) (hlt : e.1 < e'.1) : e.2 ≤ e'.1 := by
  have hboth : found.escapes.Pairwise fun e e' => (e.1 < e'.1 → e.2 ≤ e'.1) ∧ ¬e'.1 < e.1 :=
    h.ordered.imp_of_mem fun {e _} he _ hle => by
      have hlt := (h.recorded e he).lt
      exact ⟨fun _ => hle, by omega⟩
  generalize found.escapes = escapes at he he' hboth
  induction hboth with
  | nil => exact absurd he List.not_mem_nil
  | cons hhead _ ih =>
    rcases List.mem_cons.mp he with rfl | hlater
    · rcases List.mem_cons.mp he' with rfl | hlater'
      · exact absurd hlt (Nat.lt_irrefl _)
      · exact (hhead _ hlater').1 hlt
    · rcases List.mem_cons.mp he' with rfl | hlater'
      · exact absurd hlt (hhead _ hlater).2
      · exact ih hlater hlater'

/-- A delimiter that ends the construct for one answer is not passed over by another one that holds
    the same escapes before it. -/
theorem Ends.not_passes {escapes escapes' : List (Nat × Nat)} (h : Ends d text inner escapes t)
    (hagree : AgreeBefore n escapes escapes') (hn : t.1 < n) :
    ¬Passes d text inner escapes' t.1 :=
  fun hpasses => h.shown ((hpasses.closing h.closes.at).congr hagree.symm hn)

/-- An escape of one answer is one of the other, if they agree on what begins before it. -/
theorem Finds.mem_of_agree (hsubst : Substantial d text) (h : Finds d text inner found)
    (h' : Finds d text inner found') (hagree : AgreeBefore e.1 found.escapes found'.escapes)
    (he : e ∈ found.escapes) : e ∈ found'.escapes := by
  have hrecorded := h.recorded e he
  have hlt := hrecorded.lt
  obtain ⟨p, hp, hmatch⟩ := hrecorded.escapes
  have hescape : EscapesAt d text e.1 := ⟨p, hp, hmatch.at⟩
  -- the other answer takes an escape where this one begins
  have htaken : Taken d text inner found'.escapes e.1 := by
    cases hstop' : found'.stop with
    | none => exact (h'.unended hstop' e.1 hrecorded.le).escape hsubst hescape
    | some stop' =>
      obtain ⟨start', hends'⟩ := h'.ended stop' hstop'
      rcases Nat.lt_trichotomy e.1 start' with hbefore | heq | hbehind
      · exact (hends'.passed e.1 hrecorded.le hbefore).escape hsubst hescape
      · exact absurd (heq ▸ hescape) (hends'.unescaped hsubst)
      · -- the end of the other answer would have been passed over on the way to the escape
        exfalso
        have hnot := hends'.not_passes hagree.symm hbehind
        cases hstop : found.stop with
        | none => exact hnot (h.unended hstop start' hends'.le)
        | some stop =>
          obtain ⟨start, hends⟩ := h.ended stop hstop
          have hstart : e.2 ≤ start := hends.behind e he
          exact hnot (hends.passed start' hends'.le (by show start' < start; omega))
  generalize hq : e.1 = q at htaken
  cases htaken with
  | @escaped e' _ he' hin =>
    have hlo := hin.1
    have hhi := hin.2
    rcases Nat.eq_or_lt_of_le hlo with hsame | hearly
    · obtain ⟨p', hp', hmatch'⟩ := (h'.recorded e' he').escapes
      obtain rfl := Option.some.inj (hp.symm.trans hp')
      rw [hmatch.unique hmatch' (by omega)]
      exact he'
    · -- an earlier escape of both answers would reach into this one
      have hmem := (hagree e' (by omega)).mpr he'
      have hapart := h.ordered_of_lt hmem he (by omega)
      omega
  | @inside t _ ht hlo hhi =>
    rcases h.apart t (ht.congr hagree.symm (by omega)) e he with hle | hle
    · omega
    · omega

/-- Two answers with the same escapes end the construct at the same place. -/
theorem Finds.stop_eq (h : Finds d text inner found) (h' : Finds d text inner found')
    (hescapes : found.escapes = found'.escapes) : found.stop = found'.stop := by
  have hagree : ∀ n, AgreeBefore n found.escapes found'.escapes := fun n e _ => by rw [hescapes]
  cases hstop : found.stop with
  | none =>
    cases hstop' : found'.stop with
    | none => rfl
    | some stop' =>
      obtain ⟨start', hends'⟩ := h'.ended stop' hstop'
      have hnot := hends'.not_passes (hagree _).symm (Nat.lt_succ_self _)
      exact absurd (h.unended hstop start' hends'.le) hnot
  | some stop =>
    obtain ⟨start, hends⟩ := h.ended stop hstop
    have hnot := hends.not_passes (hagree _) (Nat.lt_succ_self _)
    cases hstop' : found'.stop with
    | none => exact absurd (h'.unended hstop' start hends.le) hnot
    | some stop' =>
      obtain ⟨start', hends'⟩ := h'.ended stop' hstop'
      have hnot' := hends'.not_passes (hagree _).symm (Nat.lt_succ_self _)
      -- the delimiter that comes first would have been passed by the other answer
      rcases Nat.lt_trichotomy start start' with hlt | rfl | hgt
      · exact absurd (hends'.passed start hends.le hlt) hnot
      · rw [(Prod.mk.inj (hends.closes.unique hends'.closes rfl)).2]
      · exact absurd (hends.passed start' hends'.le hgt) hnot'

/-- **The specification leaves no choice**, if no escape is empty. -/
theorem Finds.unique (hsubst : Substantial d text) (h : Finds d text inner found)
    (h' : Finds d text inner found') : found = found' := by
  -- the answers agree on the escapes that begin before any offset
  have hagree : ∀ n, AgreeBefore n found.escapes found'.escapes := by
    intro n
    induction n with
    | zero => exact fun e he => absurd he (Nat.not_lt_zero _)
    | succ n ih =>
      intro e he
      rcases Nat.lt_succ_iff_lt_or_eq.mp he with hlt | rfl
      · exact ih e hlt
      · exact ⟨h.mem_of_agree hsubst h' ih, h'.mem_of_agree hsubst h ih.symm⟩
  have hnodup : ∀ {found}, Finds d text inner found → found.escapes.Nodup := by
    intro found h
    refine h.ordered.imp_of_mem fun {e e'} he _ hle heq => ?_
    have hlt := (h.recorded e he).lt
    rw [heq] at hlt hle
    omega
  have hperm : found.escapes.Perm found'.escapes :=
    (List.perm_ext_iff_of_nodup (hnodup h) (hnodup h')).mpr fun e =>
      hagree (e.1 + 1) e (Nat.lt_succ_self _)
  have hescapes : found.escapes = found'.escapes := by
    refine hperm.eq_of_pairwise (fun e e' he he' hle hle' => ?_) h.ordered h'.ordered
    have hlt := (h.recorded e he).lt
    have hlt' := (h'.recorded e' he').lt
    omega
  have hstop := h.stop_eq h' hescapes
  cases found
  cases found'
  simp only at hescapes hstop
  rw [hescapes, hstop]

end Unique

end Closing

end Highlight
