/-
  What expressions mean.

  An expression reads some characters of a text, from one spot to another.  `Regex.Reads` says so by
  recursion on the expression, and says nothing about which reading is preferred.

  1. **Spots** — a `Spot` cuts a text in two, and `Passes` goes on from one spot of a text to a later
     one over the characters between them.  Readings never change the text they are in.

  2. **Reading** — `Reads r s t`: from spot `s` on, `r` reads up to spot `t`.  A repetition reads in
     rounds (`Rounds`).

  3. **Lists** — what is put together with `concat` and `alternation` reads what its parts read, one
     after the other or one of them (`reads_concat`, `reads_alternation`).

  4. **Sets of characters** — a sorted list of ranges has the code points that lie in one of them
     (`hasCode_iff`), and adding a range to it adds those of the range (`covers_insertRange`).

  5. **Choices** — however alternatives are put together, as one set of characters or behind a
     common beginning, they read what one of them reads.  Sharing a common beginning is the step that
     takes the work: `choice` splits the alternatives into parts, pulls out what they all begin with
     and goes on with what remains of them, in rounds that its fuel counts; a round without any fuel
     left still reads the same, so there is nothing to be shown of how much is enough
     (`reads_choiceWithin`).

  Main result: `reads_choice`.
-/
import Mathlib.Data.List.SplitBy
import Highlight.Pattern.Compose
import Highlight.Proofs.Naming

namespace Highlight

/-! ## Spots -/

namespace Text

/-- A spot of a text: what stands before it and what follows. -/
structure Spot where
  before : Text
  after : Text

namespace Spot

/-- The text in which the spot lies. -/
def text (s : Spot) : Text := s.before ++ s.after

/-- How far the spot is from the beginning of the text. -/
def offset (s : Spot) : Nat := s.before.size

/-- Between two spots there are these characters. -/
def Passes (s : Spot) (mid : Text) (t : Spot) : Prop :=
  s.after = mid ++ t.after ∧ t.before = s.before ++ mid

variable {s t u : Spot} {mid mid' : Text}

theorem Passes.refl (s : Spot) : s.Passes [] s := ⟨rfl, (List.append_nil _).symm⟩

theorem Passes.trans (h : s.Passes mid t) (h' : t.Passes mid' u) : s.Passes (mid ++ mid') u :=
  ⟨by rw [h.1, h'.1, List.append_assoc], by rw [h'.2, h.2, List.append_assoc]⟩

theorem Passes.text_eq (h : s.Passes mid t) : t.text = s.text := by
  rw [text, text, h.1, h.2, List.append_assoc]

/-- A spot is further on by what has been passed. -/
theorem Passes.offset_eq (h : s.Passes mid t) : t.offset = s.offset + mid.size := by
  rw [offset, offset, h.2, size_append]

/-- What is passed at the beginning leads to one spot only. -/
theorem Passes.unique (h : s.Passes mid t) (h' : s.Passes mid u) : t = u := by
  obtain ⟨before, after⟩ := t
  obtain ⟨before', after'⟩ := u
  obtain rfl : before = before' := h.2.trans h'.2.symm
  obtain rfl : after = after' := List.append_cancel_left (h.1.symm.trans h'.1)
  rfl

/-- From one spot to another only certain characters are passed. -/
theorem Passes.mid_unique (h : s.Passes mid t) (h' : s.Passes mid' t) : mid = mid' :=
  List.append_cancel_left (h.2.symm.trans h'.2)

/-- From a spot of a text some characters lead to every later one. -/
theorem exists_passes (htext : s.text = t.text) (hle : s.offset ≤ t.offset) :
    ∃ mid, s.Passes mid t := by
  rcases List.append_eq_append_iff.mp htext with ⟨mid, hbefore, hafter⟩ | ⟨mid, hbefore, hafter⟩
  · exact ⟨mid, hafter, hbefore⟩
  · rw [offset, offset, hbefore, size_append] at hle
    obtain rfl : mid = [] := eq_nil_of_size (by omega)
    exact ⟨[], by simpa using hafter.symm, by simpa using hbefore.symm⟩

/-- To pass nothing is to stay. -/
theorem passes_nil : s.Passes [] t ↔ t = s := by
  constructor
  · exact fun h => h.unique (.refl s)
  · rintro rfl
    exact .refl _

/-- Characters are passed one after the other. -/
theorem passes_cons {c : Char} {rest : Text} :
    s.Passes (c :: rest) u ↔ ∃ t, s.Passes [c] t ∧ t.Passes rest u := by
  constructor
  · intro h
    exact ⟨⟨s.before ++ [c], rest ++ u.after⟩, ⟨h.1, rfl⟩, rfl, by rw [h.2, List.append_assoc]; rfl⟩
  · rintro ⟨t, hfirst, hrest⟩
    exact hfirst.trans hrest

end Spot

end Text

open Text (Spot)

namespace Regex

/-! ## Reading

  `Reads` is a recursion on the expression.  A repetition needs one on the number of its rounds as
  well, since a round may read nothing and then no text is used up. -/

/-- A number of rounds, one after the other. -/
def Rounds (R : Spot → Spot → Prop) : (n : Nat) → Spot → Spot → Prop
  | 0, s, t => t = s
  | n + 1, s, t => ∃ u, R s u ∧ Rounds R n u t

/-- From one spot on an expression reads up to another. -/
def Reads : Regex → Spot → Spot → Prop
  | empty, s, t => t = s
  | set cs, s, t => ∃ c, cs.contains c = true ∧ s.Passes [c] t
  | look l, s, t => l.holds s.before.getLast? s.after.head? = true ∧ t = s
  | cat a b, s, t => ∃ u, a.Reads s u ∧ b.Reads u t
  | alt a b, s, t => a.Reads s t ∨ b.Reads s t
  | repetition r min max _, s, t =>
    ∃ n, min ≤ n ∧ (∀ m ∈ max, n ≤ Nat.max min m) ∧ Rounds r.Reads n s t
  | group r, s, t => r.Reads s t

variable {R : Spot → Spot → Prop} {s t u : Spot} {n m : Nat} {r : Regex} {rs : List Regex}

/-- One round is one reading. -/
theorem rounds_one : Rounds R 1 s t ↔ R s t := by
  constructor
  · rintro ⟨u, hu, rfl⟩
    exact hu
  · exact fun h => ⟨t, h, rfl⟩

/-- Rounds add up. -/
theorem rounds_add : Rounds R (n + m) s u ↔ ∃ t, Rounds R n s t ∧ Rounds R m t u := by
  induction n generalizing s with
  | zero =>
    rw [Nat.zero_add]
    constructor
    · exact fun h => ⟨s, rfl, h⟩
    · rintro ⟨t, rfl, h⟩
      exact h
  | succ n ih =>
    rw [Nat.succ_add]
    simp only [Rounds, ih]
    constructor
    · rintro ⟨v, hfirst, t, hrest, h⟩
      exact ⟨t, ⟨v, hfirst, hrest⟩, h⟩
    · rintro ⟨t, ⟨v, hfirst, hrest⟩, h⟩
      exact ⟨v, hfirst, t, hrest, h⟩

/-- Rounds before a number of rounds of which something is known. -/
theorem rounds_then (P : Nat → Prop) :
    (∃ u, Rounds R n s u ∧ ∃ k, P k ∧ Rounds R k u t)
      ↔ ∃ m, n ≤ m ∧ P (m - n) ∧ Rounds R m s t := by
  constructor
  · rintro ⟨u, hu, k, hk, hrest⟩
    refine ⟨n + k, Nat.le_add_right n k, ?_, rounds_add.mpr ⟨u, hu, hrest⟩⟩
    rw [Nat.add_sub_cancel_left]
    exact hk
  · rintro ⟨m, hle, hm, hrounds⟩
    rw [← Nat.add_sub_cancel' hle, rounds_add] at hrounds
    obtain ⟨u, hu, hrest⟩ := hrounds
    exact ⟨u, hu, m - n, hm, hrest⟩

/-- A first round before any number of others. -/
theorem rounds_pos :
    (∃ u, R s u ∧ ∃ n, Rounds R n u t) ↔ ∃ n, 1 ≤ n ∧ Rounds R n s t := by
  constructor
  · rintro ⟨u, hu, n, hrest⟩
    exact ⟨n + 1, Nat.succ_pos n, u, hu, hrest⟩
  · rintro ⟨_ | n, hn, hrounds⟩
    · exact absurd hn (Nat.not_succ_le_zero 0)
    · obtain ⟨u, hu, hrest⟩ := hrounds
      exact ⟨u, hu, n, hrest⟩

/-- No round, or a first one before any number of others. -/
theorem rounds_any :
    (∃ n, Rounds R n s t) ↔ t = s ∨ ∃ u, R s u ∧ ∃ n, Rounds R n u t := by
  rw [rounds_pos]
  constructor
  · rintro ⟨_ | n, hrounds⟩
    · exact .inl hrounds
    · exact .inr ⟨n + 1, Nat.succ_pos n, hrounds⟩
  · rintro (rfl | ⟨n, -, hrounds⟩)
    · exact ⟨0, rfl⟩
    · exact ⟨n, hrounds⟩

/-- At most so many rounds. -/
def UpTo (R : Spot → Spot → Prop) (n : Nat) (s t : Spot) : Prop := ∃ k ≤ n, Rounds R k s t

/-- A round that may be left out comes before as many as may follow. -/
theorem upTo_succ : UpTo R (n + 1) s t ↔ t = s ∨ ∃ u, R s u ∧ UpTo R n u t := by
  constructor
  · rintro ⟨_ | k, hk, hrounds⟩
    · exact .inl hrounds
    · obtain ⟨u, hu, hrest⟩ := hrounds
      exact .inr ⟨u, hu, k, by omega, hrest⟩
  · rintro (rfl | ⟨u, hu, k, hk, hrest⟩)
    · exact ⟨0, Nat.zero_le _, rfl⟩
    · exact ⟨k + 1, by omega, u, hu, hrest⟩

/-! ## Lists

  Sequences and alternatives are written as lists and read back as lists (`factors`,
  `alternatives`).  Taking an expression apart and putting it together again does not change what it
  reads. -/

/-- The expressions of a list read one after the other. -/
def ReadsAll : List Regex → Spot → Spot → Prop
  | [], s, t => t = s
  | r :: rs, s, t => ∃ u, r.Reads s u ∧ ReadsAll rs u t

/-- What is read one after the other can be read in two parts. -/
theorem readsAll_append {as bs : List Regex} :
    ReadsAll (as ++ bs) s t ↔ ∃ u, ReadsAll as s u ∧ ReadsAll bs u t := by
  induction as generalizing s with
  | nil => simp [ReadsAll]
  | cons a as ih =>
    simp only [List.cons_append, ReadsAll, ih]
    constructor
    · rintro ⟨v, ha, u, has, hbs⟩
      exact ⟨u, ⟨v, ha, has⟩, hbs⟩
    · rintro ⟨u, ⟨v, ha, has⟩, hbs⟩
      exact ⟨v, ha, u, has, hbs⟩

theorem readsAll_singleton : ReadsAll [r] s t ↔ r.Reads s t := by
  simp [ReadsAll]

/-- A sequence reads what its members read one after the other. -/
theorem reads_sequence : (sequence rs).Reads s t ↔ ReadsAll rs s t := by
  induction rs generalizing s with
  | nil => rfl
  | cons r rs ih =>
    cases rs with
    | nil => exact readsAll_singleton.symm
    | cons r' rs =>
      constructor
      · rintro ⟨u, hr, hrest⟩
        exact ⟨u, hr, ih.mp hrest⟩
      · rintro ⟨u, hr, hrest⟩
        exact ⟨u, hr, ih.mpr hrest⟩

/-- An expression reads what its factors read one after the other. -/
theorem readsAll_factors : ReadsAll r.factors s t ↔ r.Reads s t := by
  induction r generalizing s t with
  | empty => rfl
  | cat a b iha ihb =>
    rw [factors, readsAll_append]
    simp only [iha, ihb, Reads]
  | _ => exact readsAll_singleton

/-- Taking expressions apart into their factors does not change what they read. -/
theorem readsAll_flatMap_factors : ReadsAll (rs.flatMap factors) s t ↔ ReadsAll rs s t := by
  induction rs generalizing s with
  | nil => rfl
  | cons r rs ih =>
    rw [List.flatMap_cons, readsAll_append]
    simp only [readsAll_factors, ih, ReadsAll]

/-- **What is put one after the other is read one after the other.** -/
theorem reads_concat : (concat rs).Reads s t ↔ ReadsAll rs s t := by
  rw [concat, reads_sequence, readsAll_flatMap_factors]

/-- An expression reads what one of its alternatives reads. -/
theorem reads_alternatives : (∃ a ∈ r.alternatives, a.Reads s t) ↔ r.Reads s t := by
  induction r with
  | alt a b iha ihb =>
    simp only [alternatives, List.mem_append, or_and_right, exists_or, iha, ihb, Reads]
  | _ => simp [alternatives]

/-- **Alternatives read what one of them reads.** -/
theorem reads_alternation : (alternation rs).Reads s t ↔ ∃ r ∈ rs, r.Reads s t := by
  induction rs with
  | nil =>
    constructor
    · rintro ⟨c, hc, -⟩
      exact absurd hc (by simp [CharSet.contains, CharSet.empty, CharSet.hasCode])
    · rintro ⟨r, hr, -⟩
      exact absurd hr List.not_mem_nil
  | cons r rs ih =>
    cases rs with
    | nil => simp [alternation]
    | cons r' rs =>
      rw [List.exists_mem_cons_iff, ← ih]
      rfl

end Regex

/-! ## Sets of characters

  A set is a list of ranges, and `hasCode` stops at the first one that begins behind the code
  point.  This is right for sorted lists only, so there are two lemmas about each operation: it
  leaves the list sorted, and the set has the members it should have. -/

namespace CharSet

/-- A code point lies in one of the ranges. -/
def Covers (rs : List (Nat × Nat)) (n : Nat) : Prop := ∃ r ∈ rs, r.1 ≤ n ∧ n ≤ r.2

/-- Ranges that are not empty and do not overlap, in order. -/
structure Sorted (rs : List (Nat × Nat)) : Prop where
  proper : ∀ r ∈ rs, r.1 ≤ r.2
  apart : rs.Pairwise fun a b => a.2 < b.1

variable {n k lo hi a b : Nat} {rs rest : List (Nat × Nat)}

theorem sorted_nil : Sorted [] := ⟨fun _ h => absurd h List.not_mem_nil, .nil⟩

/-- A sorted list begins with a range before all others. -/
theorem sorted_cons :
    Sorted ((a, b) :: rest) ↔ a ≤ b ∧ (∀ r ∈ rest, b < r.1) ∧ Sorted rest := by
  constructor
  · intro h
    obtain ⟨hfirst, hrest⟩ := List.forall_mem_cons.mp h.proper
    obtain ⟨hbehind, hapart⟩ := List.pairwise_cons.mp h.apart
    exact ⟨hfirst, hbehind, hrest, hapart⟩
  · rintro ⟨hfirst, hbehind, hrest⟩
    exact ⟨List.forall_mem_cons.mpr ⟨hfirst, hrest.proper⟩,
      List.pairwise_cons.mpr ⟨hbehind, hrest.apart⟩⟩

/-- A code point lies in the first range or in one of the others. -/
theorem covers_cons : Covers ((a, b) :: rest) n ↔ (a ≤ n ∧ n ≤ b) ∨ Covers rest n := by
  rw [Covers, List.exists_mem_cons_iff]
  rfl

/-- **In a sorted list a search may stop early.** -/
theorem hasCode_iff (h : Sorted rs) : hasCode n rs = true ↔ Covers rs n := by
  refine ⟨exists_of_hasCode, fun hcovers => ?_⟩
  induction rs with
  | nil => exact absurd hcovers (by simp [Covers])
  | cons r rest ih =>
    obtain ⟨a, b⟩ := r
    obtain ⟨hab, hbehind, hrest⟩ := sorted_cons.mp h
    rw [hasCode]
    rcases covers_cons.mp hcovers with ⟨ha, hb⟩ | hcovers
    · rw [if_neg (by omega), if_pos hb]
    · obtain ⟨r, hr, hlo, -⟩ := id hcovers
      have hb := hbehind r hr
      rw [if_neg (by omega), if_neg (by omega)]
      exact ih hrest hcovers

/-- What lies below all ranges still does when one more has been added above it. -/
theorem lt_of_mem_insertRange (hlo : k < lo) (h : ∀ r ∈ rs, k < r.1) :
    ∀ r ∈ insertRange lo hi rs, k < r.1 := by
  induction rs generalizing lo hi with
  | nil => simpa [insertRange] using hlo
  | cons r rest ih =>
    obtain ⟨a, b⟩ := r
    obtain ⟨ha, hrest⟩ := List.forall_mem_cons.mp h
    rw [insertRange]
    split
    · exact List.forall_mem_cons.mpr ⟨hlo, h⟩
    · split
      · exact List.forall_mem_cons.mpr ⟨ha, ih hlo hrest⟩
      · exact ih (Nat.lt_min.mpr ⟨hlo, ha⟩) hrest

/-- Inserting a range, and melting those that it meets, leaves the list sorted. -/
theorem insertRange_sorted (h : Sorted rs) (hle : lo ≤ hi) : Sorted (insertRange lo hi rs) := by
  induction rs generalizing lo hi with
  | nil => exact sorted_cons.mpr ⟨hle, fun _ hr => absurd hr List.not_mem_nil, sorted_nil⟩
  | cons r rest ih =>
    obtain ⟨a, b⟩ := r
    obtain ⟨hab, hbehind, hrest⟩ := sorted_cons.mp h
    rw [insertRange]
    split
    · refine sorted_cons.mpr ⟨hle, ?_, h⟩
      refine List.forall_mem_cons.mpr ⟨by simp only; omega, fun r hr => ?_⟩
      have hb := hbehind r hr
      omega
    · split
      · refine sorted_cons.mpr ⟨hab, ?_, ih hrest hle⟩
        exact lt_of_mem_insertRange (by omega) hbehind
      · exact ih hrest (by omega)

/-- **A range that is added adds its code points.** -/
theorem covers_insertRange (h : Sorted rs) (hle : lo ≤ hi) :
    Covers (insertRange lo hi rs) n ↔ (lo ≤ n ∧ n ≤ hi) ∨ Covers rs n := by
  induction rs generalizing lo hi with
  | nil => exact covers_cons
  | cons r rest ih =>
    obtain ⟨a, b⟩ := r
    obtain ⟨hab, -, hrest⟩ := sorted_cons.mp h
    rw [insertRange]
    split
    · exact covers_cons
    · split
      · rw [covers_cons, covers_cons, ih hrest hle, or_left_comm]
      · -- ranges that meet or touch have the same code points as the one they melt into
        have hmelt : (min lo a ≤ n ∧ n ≤ max hi b) ↔ (lo ≤ n ∧ n ≤ hi) ∨ (a ≤ n ∧ n ≤ b) := by
          omega
        rw [ih hrest (by omega), covers_cons, hmelt, or_assoc]

/-- Some ranges are added to a set, one after the other. -/
theorem foldl_insert {s : CharSet} (h : Sorted s.ranges) (rs : List (Nat × Nat)) :
    Sorted (rs.foldl (fun acc r => acc.insert r.1 r.2) s).ranges ∧
      ∀ n, Covers (rs.foldl (fun acc r => acc.insert r.1 r.2) s).ranges n
        ↔ Covers s.ranges n ∨ Covers rs n := by
  induction rs generalizing s with
  | nil => exact ⟨h, fun n => by simp [Covers]⟩
  | cons r rs ih =>
    obtain ⟨a, b⟩ := r
    by_cases hab : a ≤ b
    · have hinsert : s.insert a b = ⟨insertRange a b s.ranges⟩ := if_pos hab
      obtain ⟨hsorted, hcovers⟩ := ih (s := ⟨insertRange a b s.ranges⟩) (insertRange_sorted h hab)
      rw [List.foldl_cons, hinsert]
      refine ⟨hsorted, fun n => ?_⟩
      rw [hcovers, covers_insertRange h hab, covers_cons, or_assoc, or_left_comm]
    · have hinsert : s.insert a b = s := if_neg hab
      obtain ⟨hsorted, hcovers⟩ := ih h
      rw [List.foldl_cons, hinsert]
      refine ⟨hsorted, fun n => ?_⟩
      have hnone : ¬ (a ≤ n ∧ n ≤ b) := by omega
      rw [hcovers, covers_cons, or_iff_right hnone]

theorem ofRanges_sorted (rs : List (Nat × Nat)) : Sorted (ofRanges rs).ranges :=
  (foldl_insert (s := empty) sorted_nil rs).1

/-- **The set of some ranges has the characters that lie in one of them.** -/
theorem contains_ofRanges (rs : List (Nat × Nat)) (c : Char) :
    (ofRanges rs).contains c = true ↔ Covers rs c.toNat := by
  have hnone : ¬ Covers empty.ranges c.toNat := by
    rintro ⟨r, hr, -⟩
    exact absurd hr List.not_mem_nil
  have hcovers := (foldl_insert (s := empty) sorted_nil rs).2 c.toNat
  rw [or_iff_right hnone] at hcovers
  rw [contains, hasCode_iff (ofRanges_sorted rs)]
  exact hcovers

/-- The set of all ranges of some sets is their union. -/
theorem contains_union {sets : List CharSet} (h : ∀ cs ∈ sets, Sorted cs.ranges) (c : Char) :
    (ofRanges (sets.flatMap ranges)).contains c = true ↔ ∃ cs ∈ sets, cs.contains c = true := by
  rw [contains_ofRanges, Covers]
  constructor
  · rintro ⟨r, hr, hc⟩
    obtain ⟨cs, hcs, hr⟩ := List.mem_flatMap.mp hr
    exact ⟨cs, hcs, (hasCode_iff (h cs hcs)).mpr ⟨r, hr, hc⟩⟩
  · rintro ⟨cs, hcs, hc⟩
    obtain ⟨r, hr, hc⟩ := exists_of_hasCode hc
    exact ⟨r, List.mem_flatMap.mpr ⟨cs, hcs, hr⟩, hc⟩

theorem singleton_sorted (c : Char) : Sorted (singleton c).ranges :=
  sorted_cons.mpr ⟨Nat.le_refl _, fun _ h => absurd h List.not_mem_nil, sorted_nil⟩

/-- The set of a single character has this one only. -/
theorem contains_singleton {c c' : Char} : (singleton c).contains c' = true ↔ c' = c := by
  rw [contains, hasCode_iff (singleton_sorted c), singleton, covers_cons]
  simp only [Covers, List.not_mem_nil, false_and, exists_false, or_false]
  constructor
  · rintro ⟨hle, hge⟩
    exact Char.toNat_inj.mp (Nat.le_antisymm hge hle)
  · rintro rfl
    exact ⟨Nat.le_refl _, Nat.le_refl _⟩

end CharSet

namespace Regex

/-! ## Choices

  Alternatives that are all sets become one set, and those with a common beginning share it; neither
  may change what they read.  `Tidy` takes the order of the sets along through the rounds. -/

/-- The sets that stand one after the other or as alternatives are sorted. -/
def Tidy : Regex → Prop
  | set s => CharSet.Sorted s.ranges
  | cat a b => a.Tidy ∧ b.Tidy
  | alt a b => a.Tidy ∧ b.Tidy
  | _ => True

variable {s t : Spot} {r : Regex} {rs : List Regex}

theorem Tidy.alternatives (h : r.Tidy) : ∀ a ∈ r.alternatives, a.Tidy := by
  induction r with
  | alt a b iha ihb => exact List.forall_mem_append.mpr ⟨iha h.1, ihb h.2⟩
  | _ => exact fun a ha => List.mem_singleton.mp ha ▸ h

theorem Tidy.factors (h : r.Tidy) : ∀ f ∈ r.factors, f.Tidy := by
  induction r with
  | empty => exact fun _ hf => absurd hf List.not_mem_nil
  | cat a b iha ihb => exact List.forall_mem_append.mpr ⟨iha h.1, ihb h.2⟩
  | _ => exact fun f hf => List.mem_singleton.mp hf ▸ h

/-- A sequence of tidy expressions is tidy. -/
theorem tidy_sequence (h : ∀ r ∈ rs, r.Tidy) : (sequence rs).Tidy := by
  induction rs with
  | nil => exact trivial
  | cons r rs ih =>
    obtain ⟨hr, hrest⟩ := List.forall_mem_cons.mp h
    cases rs with
    | nil => exact hr
    | cons r' rs => exact ⟨hr, ih hrest⟩

/-- A list of sets, as it is read off a list of expressions. -/
theorem mapM_set? {sets : List CharSet} (h : rs.mapM set? = some sets) : rs = sets.map set := by
  induction rs generalizing sets with
  | nil =>
    obtain rfl : sets = [] := by simpa using h.symm
    rfl
  | cons r rs ih =>
    rw [List.mapM_cons] at h
    obtain ⟨s, hs, hrest⟩ := Option.bind_eq_some_iff.mp h
    obtain ⟨more, hmore, heq⟩ := Option.bind_eq_some_iff.mp hrest
    obtain rfl : s :: more = sets := Option.some.inj heq
    cases r with
    | set cs =>
      obtain rfl : cs = s := Option.some.inj hs
      rw [List.map_cons, ← ih hmore]
    | _ => exact absurd hs (by simp [set?])

/-- One set for all alternatives reads what one of them reads. -/
theorem reads_oneSet {cs : CharSet} (htidy : ∀ r ∈ rs, r.Tidy) (h : oneSet? rs = some cs) :
    (set cs).Reads s t ↔ ∃ r ∈ rs, r.Reads s t := by
  unfold oneSet? at h
  split at h
  · exact absurd h (by simp)
  · rename_i sets hsets
    obtain rfl := mapM_set? hsets
    split at h
    · obtain rfl := Option.some.inj h
      have hsorted : ∀ cs ∈ sets, CharSet.Sorted cs.ranges :=
        fun cs hcs => htidy _ (List.mem_map_of_mem hcs)
      have hmember := CharSet.contains_union hsorted
      constructor
      · rintro ⟨c, hc, hpasses⟩
        obtain ⟨cs, hcs, hc⟩ := (hmember c).mp hc
        exact ⟨set cs, List.mem_map_of_mem hcs, c, hc, hpasses⟩
      · rintro ⟨r, hr, hreads⟩
        obtain ⟨cs, hcs, rfl⟩ := List.mem_map.mp hr
        obtain ⟨c, hc, hpasses⟩ := hreads
        exact ⟨c, (hmember c).mpr ⟨cs, hcs, hc⟩, hpasses⟩
    · exact absurd h (by simp)

/-- The common beginning of two lists of parts is a beginning of both. -/
theorem commonParts_prefix (ps qs : List (List Regex)) :
    commonParts ps qs <+: ps ∧ commonParts ps qs <+: qs := by
  induction ps generalizing qs with
  | nil => exact ⟨List.nil_prefix, List.nil_prefix⟩
  | cons p ps ih =>
    cases qs with
    | nil => exact ⟨List.nil_prefix, List.nil_prefix⟩
    | cons q qs =>
      rw [commonParts]
      split
      · rename_i hsame
        obtain ⟨rfl, -⟩ := hsame
        obtain ⟨hps, hqs⟩ := ih qs
        exact ⟨(List.prefix_cons_inj p).mpr hps, (List.prefix_cons_inj p).mpr hqs⟩
      · exact ⟨List.nil_prefix, List.nil_prefix⟩

/-- What all lists of parts begin with is a beginning of each. -/
theorem sharedParts_prefix {bs : List (List (List Regex))} {b : List (List Regex)} (hb : b ∈ bs) :
    sharedParts bs <+: b := by
  induction bs with
  | nil => exact absurd hb List.not_mem_nil
  | cons b' bs ih =>
    cases bs with
    | nil =>
      rw [List.mem_singleton.mp hb]
      exact List.prefix_rfl
    | cons b'' bs =>
      obtain ⟨hfirst, hrest⟩ := commonParts_prefix b' (sharedParts (b'' :: bs))
      rcases List.mem_cons.mp hb with rfl | hb
      · exact hfirst
      · exact hrest.trans (ih hb)

/-- The parts of an expression put together again are its factors. -/
theorem flatten_parts (r : Regex) : r.parts.flatten = r.factors := List.flatten_splitBy _ _

/-- A common beginning, and then what remains of one of the alternatives. -/
theorem readsAll_shared {branches : List (List (List Regex))} :
    (∃ u, ReadsAll (sharedParts branches).flatten s u ∧
        ∃ b ∈ branches, ReadsAll (b.drop (sharedParts branches).length).flatten u t)
      ↔ ∃ b ∈ branches, ReadsAll b.flatten s t := by
  -- what is dropped from an alternative is what all of them begin with
  have hsplit : ∀ b ∈ branches, (sharedParts branches).flatten
      ++ (b.drop (sharedParts branches).length).flatten = b.flatten := by
    intro b hb
    obtain ⟨rest, hrest⟩ := sharedParts_prefix hb
    rw [← List.flatten_append]
    congr 1
    conv_rhs => rw [← hrest]
    rw [← hrest, List.drop_left]
  constructor
  · rintro ⟨u, hshared, b, hb, hremains⟩
    refine ⟨b, hb, ?_⟩
    rw [← hsplit b hb]
    exact readsAll_append.mpr ⟨u, hshared, hremains⟩
  · rintro ⟨b, hb, hreads⟩
    rw [← hsplit b hb] at hreads
    obtain ⟨u, hshared, hremains⟩ := readsAll_append.mp hreads
    exact ⟨u, hshared, b, hb, hremains⟩

/-- What remains of an alternative behind a common beginning. -/
def remainder (branches : List (List (List Regex))) (b : List (List Regex)) : Regex :=
  sequence (b.drop (sharedParts branches).length).flatten

/-- The common beginning of alternatives and a choice between what remains read what one of the
    alternatives reads. -/
theorem reads_shared {c : Regex} (hc : ∀ u, c.Reads u t ↔
      ∃ r ∈ (rs.map parts).map (remainder (rs.map parts)), r.Reads u t) :
    (concat [sequence (sharedParts (rs.map parts)).flatten, c]).Reads s t
      ↔ ∃ r ∈ rs, r.Reads s t := by
  have hbranches : (∃ b ∈ rs.map parts, ReadsAll b.flatten s t) ↔ ∃ r ∈ rs, r.Reads s t := by
    simp only [List.mem_map, exists_exists_and_eq_and, flatten_parts, readsAll_factors]
  have hremains : ∀ u, (∃ r ∈ (rs.map parts).map (remainder (rs.map parts)), r.Reads u t) ↔
      ∃ b ∈ rs.map parts,
        ReadsAll (b.drop (sharedParts (rs.map parts)).length).flatten u t := by
    intro u
    constructor
    · rintro ⟨r, hr, hreads⟩
      obtain ⟨b, hb, rfl⟩ := List.mem_map.mp hr
      exact ⟨b, hb, reads_sequence.mp hreads⟩
    · rintro ⟨b, hb, hreads⟩
      exact ⟨_, List.mem_map_of_mem hb, reads_sequence.mpr hreads⟩
  rw [← hbranches, ← readsAll_shared, reads_concat]
  simp only [ReadsAll, reads_sequence, exists_eq_right', hc, hremains]

/-- What remains behind the common beginning is tidy. -/
theorem remainder_tidy (htidy : ∀ r ∈ rs, r.Tidy) :
    ∀ r ∈ (rs.map parts).map (remainder (rs.map parts)), r.Tidy := by
  intro r hr
  obtain ⟨b, hb, rfl⟩ := List.mem_map.mp hr
  obtain ⟨a, ha, rfl⟩ := List.mem_map.mp hb
  refine tidy_sequence fun f hf => (htidy a ha).factors f ?_
  -- what remains is among the factors
  rw [← flatten_parts]
  obtain ⟨part, hpart, hf⟩ := List.mem_flatten.mp hf
  exact List.mem_flatten.mpr ⟨part, List.mem_of_mem_drop hpart, hf⟩

/-- **However far common beginnings are shared, a choice reads what one of its alternatives reads**,
    by induction on the rounds. -/
theorem reads_choiceWithin (fuel : Nat) (htidy : ∀ r ∈ rs, r.Tidy) :
    (choiceWithin fuel rs).Reads s t ↔ ∃ r ∈ rs, r.Reads s t := by
  induction fuel generalizing rs s t with
  | zero => exact reads_alternation
  | succ fuel ih =>
    -- alternatives of alternatives are alternatives of the whole
    have hflat : (∃ a ∈ rs.flatMap alternatives, a.Reads s t) ↔ ∃ r ∈ rs, r.Reads s t := by
      constructor
      · rintro ⟨a, ha, hreads⟩
        obtain ⟨r, hr, ha⟩ := List.mem_flatMap.mp ha
        exact ⟨r, hr, reads_alternatives.mp ⟨a, ha, hreads⟩⟩
      · rintro ⟨r, hr, hreads⟩
        obtain ⟨a, ha, hreads⟩ := reads_alternatives.mpr hreads
        exact ⟨a, List.mem_flatMap.mpr ⟨r, hr, ha⟩, hreads⟩
    have htidy' : ∀ a ∈ rs.flatMap alternatives, a.Tidy := by
      intro a ha
      obtain ⟨r, hr, ha⟩ := List.mem_flatMap.mp ha
      exact (htidy r hr).alternatives a ha
    rw [← hflat]
    unfold choiceWithin
    -- nothing left, a set of characters, no common beginning, no more rounds, or one shared
    generalize rs.flatMap alternatives = flat at htidy'
    simp only
    split
    · simp
    · split
      · rename_i cs hone
        exact reads_oneSet htidy' hone
      · split
        · exact reads_alternation
        · split
          · exact reads_alternation
          · exact reads_shared fun u => ih (remainder_tidy htidy')

/-- **A choice reads what one of the alternatives reads**, however it is put together. -/
theorem reads_choice (htidy : ∀ r ∈ rs, r.Tidy) :
    (choice rs).Reads s t ↔ ∃ r ∈ rs, r.Reads s t := reads_choiceWithin _ htidy

end Regex

end Highlight
