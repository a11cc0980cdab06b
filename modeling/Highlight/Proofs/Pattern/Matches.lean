/-
  Matches found from different offsets.

  A match is the leftmost one at or after the offset of the search, and what it is depends on its
  beginning only.  So a match that is known stands for all searches up to its beginning
  (`findAt_of_le`), and a search in vain for all searches further on (`findAt_eq_none_of_le`).
  Matches lie in the text, at or after the offset, between characters (`findAt_cut`).

  `Successive` says how the matches of a whole line follow each other; `findAll` lists them
  (`successive_findAll`), for its fuel suffices.
-/
import Highlight.Proofs.Pattern.Leftmost

namespace Highlight

/-! ## Places

  A search begins at a place: the first one at or after its offset.  To go further on, one may go on
  from a place that has been found before, and so two searches of one text can be compared. -/

namespace Text.Place

/-- The place sought is at or after the offset, and what follows it is an end of the text. -/
theorem seekFrom_spec {pos off : Nat} {prev : Option Char} {text : Text} {place : Place}
    (h : seekFrom pos prev off text = some place) :
    pos ≤ place.offset ∧
      ∃ before, text = before ++ place.rest ∧ place.offset = off + size before := by
  induction text generalizing prev off with
  | nil =>
    unfold seekFrom at h
    split at h
    · rename_i hle
      obtain rfl := Option.some.inj h
      exact ⟨hle, [], rfl, rfl⟩
    · exact absurd h (by simp)
  | cons c rest ih =>
    unfold seekFrom at h
    split at h
    · rename_i hle
      obtain rfl := Option.some.inj h
      exact ⟨hle, [], rfl, rfl⟩
    · obtain ⟨hle, before, hrest, hoff⟩ := ih h
      exact ⟨hle, c :: before, by rw [hrest, List.cons_append], by rw [hoff, size_cons]; omega⟩

/-- Seeking further on may start from a place that has been found. -/
theorem seekFrom_seekFrom {pos q off : Nat} (hq : pos ≤ q) (prev : Option Char) (text : Text) :
    seekFrom q prev off text
      = (seekFrom pos prev off text).bind fun place =>
          seekFrom q place.prev place.offset place.rest := by
  induction text generalizing prev off with
  | nil =>
    by_cases hpos : pos ≤ off
    · simp [seekFrom, hpos]
    · simp [seekFrom, hpos, show ¬q ≤ off by omega]
  | cons c rest ih =>
    by_cases hpos : pos ≤ off
    · simp [seekFrom, hpos]
    · have hqoff : ¬q ≤ off := by omega
      simp only [seekFrom, hpos, hqoff, if_false]
      exact ih _

end Text.Place

/-! ## The search from a place

  What is said of matches here is proved by induction on the text behind the place, with the same
  question at each place: is the program's beginning live? If it is, the match begins here
  (`run_of_live`); if not, the place might as well be left out (`run_of_dead_cons`). -/

namespace Program

open Text.Place

variable {p : Program} {prev : Option Char} {text : Text}

/-- The end of a match that is found is a place at or after the one where the run began. -/
theorem run_stop {restart : Bool} {off : Nat} {todo : List (Nat × Nat)}
    {best : Option (Nat × Nat)} {m : Nat × Nat}
    (h : p.run restart prev off todo best text = some m) :
    best = some m ∨ ∃ mid after, text = mid ++ after ∧ m.2 = off + Text.size mid := by
  -- a match that is newly found ends where the run stands
  have hbest : ∀ {f : Front} {off : Nat} {best : Option (Nat × Nat)},
      Front.best f off best = some m → best = some m ∨ m.2 = off := by
    intro f off best hm
    unfold Front.best at hm
    split at hm
    · exact .inr (by rw [← Option.some.inj hm])
    · exact .inl hm
  induction text generalizing prev off todo best with
  | nil =>
    rcases hbest h with hm | hm
    · exact .inl hm
    · exact .inr ⟨[], [], rfl, hm⟩
  | cons c rest ih =>
    rw [run_step] at h
    rcases ih h with hm | ⟨mid, after, hrest, hm⟩
    · rcases hbest hm with hm | hm
      · exact .inl hm
      · exact .inr ⟨[], c :: rest, rfl, hm⟩
    · refine .inr ⟨c :: mid, after, by rw [hrest, List.cons_append], ?_⟩
      rw [hm, Text.size_cons]
      omega

/-- Where the program's beginning is live, the match begins and ends in what follows. -/
theorem search_cut_of_live {off start stop : Nat} (hlive : p.Live prev text p.start)
    (h : p.run true prev off [] none text = some (start, stop)) :
    start = off ∧ ∃ mid after, text = mid ++ after ∧ stop = start + Text.size mid := by
  obtain ⟨stop', hstop'⟩ := run_of_live off hlive
  obtain ⟨rfl, rfl⟩ := Prod.mk.inj (Option.some.inj (h.symm.trans hstop'))
  rcases run_stop h with hnone | ⟨mid, after, htext, hm⟩
  · exact absurd hnone.symm (Option.some_ne_none _)
  · exact ⟨rfl, mid, after, htext, hm⟩

/-- A match cuts the text behind a place in three. -/
theorem search_cut {off start stop : Nat}
    (h : p.run true prev off [] none text = some (start, stop)) :
    ∃ before mid after, text = before ++ mid ++ after ∧ start = off + Text.size before ∧
      stop = start + Text.size mid := by
  induction text generalizing prev off with
  | nil =>
    by_cases hlive : p.Live prev [] p.start
    · obtain ⟨rfl, mid, after, htext, hstop⟩ := search_cut_of_live hlive h
      exact ⟨[], mid, after, htext, rfl, hstop⟩
    · rw [run_of_dead_nil off hlive] at h
      exact absurd h.symm (Option.some_ne_none _)
  | cons c rest ih =>
    by_cases hlive : p.Live prev (c :: rest) p.start
    · obtain ⟨rfl, mid, after, htext, hstop⟩ := search_cut_of_live hlive h
      exact ⟨[], mid, after, htext, rfl, hstop⟩
    · rw [run_of_dead_cons off hlive] at h
      obtain ⟨before, mid, after, htext, hstart, hstop⟩ := ih h
      refine ⟨c :: before, mid, after, by rw [htext]; rfl, ?_, hstop⟩
      rw [hstart, Text.size_cons]
      omega

/-- What is found behind a place is found from every later place up to its beginning. -/
theorem search_of_le {off q start stop : Nat}
    (h : p.run true prev off [] none text = some (start, stop)) (hq : q ≤ start) :
    (seekFrom q prev off text).bind p.search = some (start, stop) := by
  induction text generalizing prev off with
  | nil =>
    obtain ⟨before, mid, after, htext, hstart, -⟩ := search_cut h
    obtain rfl : before = [] := by simp at htext; exact htext.1
    have hle : q ≤ off := by rw [hstart] at hq; exact hq
    simp only [seekFrom, if_pos hle]
    exact h
  | cons c rest ih =>
    by_cases hle : q ≤ off
    · simp only [seekFrom, if_pos hle]
      exact h
    · -- a match that began here would begin too early
      have hdead : ¬p.Live prev (c :: rest) p.start := by
        intro hlive
        obtain ⟨rfl, -⟩ := search_cut_of_live hlive h
        exact hle hq
      rw [run_of_dead_cons off hdead] at h
      simp only [seekFrom, if_neg hle]
      exact ih h

/-- Where nothing is found behind a place, nothing is found behind a later one. -/
theorem search_eq_none {off : Nat} (q : Nat) (h : p.run true prev off [] none text = none) :
    (seekFrom q prev off text).bind p.search = none := by
  induction text generalizing prev off with
  | nil =>
    by_cases hle : q ≤ off
    · simp only [seekFrom, if_pos hle]
      exact h
    · simp only [seekFrom, if_neg hle, Option.bind_none]
  | cons c rest ih =>
    by_cases hle : q ≤ off
    · simp only [seekFrom, if_pos hle]
      exact h
    · have hdead : ¬p.Live prev (c :: rest) p.start := by
        intro hlive
        obtain ⟨stop, hstop⟩ := run_of_live off hlive
        exact absurd (h.symm.trans hstop) (by simp)
      rw [run_of_dead_cons off hdead] at h
      simp only [seekFrom, if_neg hle]
      exact ih h

end Program

/-! ## Finding

  The same for searches from an offset of a whole text.  This is all that the scan has to know of
  patterns: what it remembers stays right by the last two lemmas. -/

namespace Pattern

open Text.Place

variable {p : Pattern} {text : Text} {pos q start stop : Nat}

/-- A match cuts the text in three, at or after the offset of the search. -/
theorem findAt_cut (h : p.findAt text pos = some (start, stop)) :
    pos ≤ start ∧ ∃ before mid after, text = before ++ mid ++ after ∧ start = Text.size before ∧
      stop = start + Text.size mid := by
  obtain ⟨place, hplace, hsearch⟩ := Option.bind_eq_some_iff.mp h
  obtain ⟨hpos, above, htext, hoff⟩ := seekFrom_spec hplace
  obtain ⟨before, mid, after, hrest, hstart, hstop⟩ := Program.search_cut hsearch
  refine ⟨by omega, above ++ before, mid, after, ?_, ?_, hstop⟩
  · rw [htext, hrest, List.append_assoc, List.append_assoc, List.append_assoc]
  · rw [Text.size_append, hstart, hoff]
    omega

theorem le_of_findAt (h : p.findAt text pos = some (start, stop)) :
    pos ≤ start ∧ start ≤ stop ∧ stop ≤ text.size := by
  obtain ⟨hpos, before, mid, after, htext, hstart, hstop⟩ := findAt_cut h
  refine ⟨hpos, by omega, ?_⟩
  rw [htext, Text.size_append, Text.size_append]
  omega

theorem isBoundary_of_findAt (h : p.findAt text pos = some (start, stop)) :
    text.IsBoundary start ∧ text.IsBoundary stop := by
  obtain ⟨-, before, mid, after, htext, hstart, hstop⟩ := findAt_cut h
  refine ⟨⟨before, mid ++ after, by rw [htext, List.append_assoc], hstart⟩,
    ⟨before ++ mid, after, htext, ?_⟩⟩
  rw [hstop, hstart, Text.size_append]

/-- **A match stands for all searches up to its beginning.** -/
theorem findAt_of_le (h : p.findAt text pos = some (start, stop)) (hpos : pos ≤ q)
    (hq : q ≤ start) : p.findAt text q = some (start, stop) := by
  obtain ⟨place, hplace, hsearch⟩ := Option.bind_eq_some_iff.mp h
  rw [findAt, seek?, seekFrom_seekFrom hpos, ← seek?, hplace]
  exact Program.search_of_le hsearch hq

/-- **A search in vain stands for all searches further on.** -/
theorem findAt_eq_none_of_le (h : p.findAt text pos = none) (hpos : pos ≤ q) :
    p.findAt text q = none := by
  rw [findAt, seek?, seekFrom_seekFrom hpos, ← seek?]
  cases hplace : seek? text pos with
  | none => rfl
  | some place =>
    rw [findAt, hplace] at h
    exact Program.search_eq_none q h

/-! ## All matches of a line

  `findAll` goes on from the end of each match.  A match of nothing where the last match ended is
  not listed, and the search then goes on behind the next character.  So the measure `rounds` gets
  smaller: either the text that remains does, or the next round is one after a match that has ended
  where it stands. -/

/-- The matches from an offset on, each after the one before, whose end is `last`; a match of
    nothing at this end is passed over by a character. -/
inductive Successive (p : Pattern) (text : Text) :
    (pos : Nat) → (last : Option Nat) → List (Nat × Nat) → Prop
  | done {pos : Nat} {last : Option Nat} (h : p.findAt text pos = none) :
      Successive p text pos last []
  | next {pos : Nat} {last : Option Nat} {start stop : Nat} {later : List (Nat × Nat)}
      (h : p.findAt text pos = some (start, stop)) (hnew : ¬(start = stop ∧ last = some stop))
      (hlater : Successive p text stop (some stop) later) :
      Successive p text pos last ((start, stop) :: later)
  | skip {pos stop : Nat} {ms : List (Nat × Nat)} (h : p.findAt text pos = some (stop, stop))
      (hms : Successive p text (text.nextBoundary pos) (some stop) ms) :
      Successive p text pos (some stop) ms

/-- There is only one way for the matches to follow each other. -/
theorem Successive.unique {last : Option Nat} {ms ms' : List (Nat × Nat)}
    (h : Successive p text pos last ms) (h' : Successive p text pos last ms') : ms = ms' := by
  induction h generalizing ms' with
  | done hnone =>
    cases h' with
    | done _ => rfl
    | next hsome _ _ => exact absurd (hnone.symm.trans hsome) (by simp)
    | skip hsome _ => exact absurd (hnone.symm.trans hsome) (by simp)
  | next hsome hnew _ ih =>
    cases h' with
    | done hnone => exact absurd (hnone.symm.trans hsome) (by simp)
    | next hsome' _ hlater' =>
      obtain ⟨rfl, rfl⟩ := Prod.mk.inj (Option.some.inj (hsome.symm.trans hsome'))
      rw [ih hlater']
    | skip hsome' _ =>
      obtain ⟨rfl, rfl⟩ := Prod.mk.inj (Option.some.inj (hsome.symm.trans hsome'))
      exact absurd ⟨rfl, rfl⟩ hnew
  | skip hsome _ ih =>
    cases h' with
    | done hnone => exact absurd (hnone.symm.trans hsome) (by simp)
    | next hsome' hnew _ =>
      obtain ⟨rfl, rfl⟩ := Prod.mk.inj (Option.some.inj (hsome.symm.trans hsome'))
      exact absurd ⟨rfl, rfl⟩ hnew
    | skip _ hms' => exact ih hms'

/-- Of two ends of a text the one that begins further on is shorter. -/
theorem length_lt_of_size_lt {before after before' after' : Text}
    (h : before ++ after = before' ++ after') (hlt : before.size < before'.size) :
    after'.length < after.length := by
  rcases List.append_eq_append_iff.mp h with ⟨mid, rfl, rfl⟩ | ⟨mid, rfl, rfl⟩
  · have hmid : mid ≠ [] := by
      rintro rfl
      simp at hlt
    have hpos := List.length_pos_iff.mpr hmid
    rw [List.length_append]
    omega
  · rw [Text.size_append] at hlt
    omega

/-- The rounds that the search for all matches can still take from an offset on: behind every place
    one that ends there and one that goes on from there. -/
def rounds (after : Text) (pos : Nat) (last : Option Nat) : Nat :=
  2 * after.length + if last = some pos then 0 else 1

theorem rounds_lt {before after before' after' : Text} (last : Option Nat)
    (h : before ++ after = before' ++ after') (hlt : before.size < before'.size) :
    rounds after' before'.size (some before'.size) < rounds after before.size last := by
  have hlen := length_lt_of_size_lt h hlt
  simp only [rounds, if_true]
  omega

/-- The matches that are listed from an offset on follow each other, as long as the fuel covers the
    rounds. -/
theorem successive_findAllFrom (fuel : Nat) (before after : Text) (last : Option Nat)
    (htext : text = before ++ after) (hlast : ∀ stop, last = some stop → stop = before.size)
    (hfuel : rounds after before.size last < fuel) :
    Successive p text before.size last (findAllFrom p text fuel before.size last) := by
  induction fuel generalizing before after last with
  | zero => exact absurd hfuel (Nat.not_lt_zero _)
  | succ fuel ih =>
    -- a match that ends further on leaves fewer rounds
    have hlater : ∀ q start stop, p.findAt text q = some (start, stop) → before.size < stop →
        Successive p text stop (some stop) (findAllFrom p text fuel stop (some stop)) := by
      intro q start stop hfind hstop
      obtain ⟨-, before', after', htext', rfl⟩ := isBoundary_of_findAt hfind
      have hrounds := rounds_lt last (htext.symm.trans htext') hstop
      exact ih before' after' _ htext' (fun _ h => (Option.some.inj h).symm) (by omega)
    unfold findAllFrom
    split
    · rename_i hnone
      exact .done hnone
    · rename_i start stop hfind
      have hbounds := le_of_findAt hfind
      split
      · -- a match of nothing where the last one ended: the search goes on behind a character
        rename_i hempty
        obtain ⟨rfl, rfl⟩ := hempty
        obtain rfl := hlast _ rfl
        have hstep := Text.lt_nextBoundary text before.size
        refine .skip hfind ?_
        split
        · rename_i hnone
          exact .done hnone
        · rename_i start' stop' hfind'
          have hbounds' := le_of_findAt hfind'
          refine .next hfind' ?_ (hlater _ _ _ hfind' (by omega))
          rintro ⟨rfl, heq⟩
          have hsame := Option.some.inj heq
          omega
      · rename_i hnew
        refine .next hfind hnew ?_
        rcases Nat.lt_or_ge before.size stop with hlt | hge
        · exact hlater _ _ _ hfind hlt
        · -- a match of nothing right here: the next round cannot end here again
          obtain rfl : stop = before.size := by omega
          obtain rfl : start = before.size := by omega
          have hfresh : last ≠ some before.size := fun h => hnew ⟨rfl, h⟩
          refine ih before after _ htext (fun _ h => (Option.some.inj h).symm) ?_
          simp only [rounds, hfresh, if_true, if_false] at hfuel ⊢
          omega

/-- **All matches are listed**: the fuel suffices. -/
theorem successive_findAll (p : Pattern) (text : Text) :
    Successive p text 0 none (p.findAll text) := by
  refine successive_findAllFrom _ [] text none rfl (fun _ h => nomatch h) ?_
  simp [rounds]

end Pattern

end Highlight
