/-
  A search finds what the expression of its pattern reads.

  1. **Where entries come from** — an entry of a search *stems* from a beginning if the ways from it
     go on from there (`Stems`).  The walk through a place passes this on from entry to entry, and
     from one place to the next, so what a search accepts is a way from the program's beginning
     (`run_spans`).

  2. **Finding** — every match that is found is a reading of the expression (`findAt_reads`), and
     a reading is not missed: the match found begins where it does, or earlier
     (`findAt_of_reads`).
-/
import Highlight.Proofs.Pattern.Coding
import Highlight.Proofs.Pattern.Matches

namespace Highlight

open Text (Spot)

namespace Program

variable {p : Program} {s t u : Spot} {i j start : Nat}

/-! ## Where entries come from

  A thread has the offset where its match began, and what is kept up is that ways from the thread
  complete a way from the program's beginning at this offset.  That no way is missed is another
  matter, that of live entries (`run_of_live`). -/

/-- The ways from an entry go on from a spot where the match began. -/
def Stems (p : Program) (s : Spot) (e : Nat × Nat) : Prop :=
  ∃ a : Spot, a.text = s.text ∧ a.offset = e.2 ∧
    ∀ n t, p.Accepts n e.1 s t → ∃ m, p.Accepts m p.start a t

/-- A way from the program's beginning leads from one offset of a text to another. -/
def Spans (p : Program) (text : Text) (m : Nat × Nat) : Prop :=
  ∃ s t : Spot, s.text = text ∧ s.offset = m.1 ∧ t.offset = m.2 ∧ ∃ n, p.Accepts n p.start s t

/-- An entry at the program's beginning stems from there. -/
theorem stems_start (p : Program) (s : Spot) : p.Stems s (p.start, s.offset) :=
  ⟨s, rfl, rfl, fun n _ h => ⟨n, h⟩⟩

/-- What is behind an instruction stems from where the instruction does. -/
theorem Stems.behind (h : p.Stems s (i, start))
    (hj : j ∈ p.behind s.before.getLast? s.after.head? i) : p.Stems s (j, start) := by
  obtain ⟨a, htext, hoff, hways⟩ := h
  refine ⟨a, htext, hoff, fun n t hway => ?_⟩
  -- a way from there is one from the instruction, with one step more
  have hstep : p.Accepts (n + 1) i s t := by
    unfold Program.behind at hj
    split at hj
    · rename_i look n' hinst
      split at hj
      · rename_i hlook
        obtain rfl := List.mem_singleton.mp hj
        exact .check hinst hlook hway
      · exact absurd hj List.not_mem_nil
    · rename_i b b' hinst
      rcases List.mem_cons.mp hj with rfl | hj
      · exact .left hinst hway
      · obtain rfl := List.mem_singleton.mp hj
        exact .right hinst hway
    · exact absurd hj List.not_mem_nil
  exact hways _ t hstep

/-- The thread that waits at an instruction goes on to an entry that stems from where the
    instruction does. -/
theorem Stems.waiting {thread : Thread} {c : Char} (h : p.Stems s (i, start))
    (ht : thread ∈ p.waiting i start) (hu : s.Passes [c] u) (hc : thread.set.contains c = true) :
    p.Stems u (thread.next, thread.start) := by
  obtain ⟨a, htext, hoff, hways⟩ := h
  unfold Program.waiting at ht
  split at ht
  · rename_i set n hinst
    obtain rfl := List.mem_singleton.mp ht
    refine ⟨a, htext.trans hu.text_eq.symm, hoff, fun m t hway => ?_⟩
    exact hways _ t (.take hinst hc hu hway)
  · exact absurd ht List.not_mem_nil

/-- What the walk through a place finds stems from where its entries do. -/
theorem front_spans {todo : List (Nat × Nat)} (h : ∀ e ∈ todo, p.Stems s e) :
    (∀ c u, s.Passes [c] u →
        ∀ e ∈ advance c (p.front s.before.getLast? s.after.head? todo).threads, p.Stems u e) ∧
      ∀ start, (p.front s.before.getLast? s.after.head? todo).accepted = some start →
        p.Spans s.text (start, s.offset) := by
  obtain ⟨hthreads, haccepted⟩ := front_induction (P := p.Stems s)
    (T := fun t => ∀ c u, s.Passes [c] u → t.set.contains c = true → p.Stems u (t.next, t.start))
    (fun _ _ _ hi hj => hi.behind hj) (fun _ _ _ hi ht _ _ hu hc => hi.waiting ht hu hc) h
  refine ⟨fun c u hu e he => ?_, fun start hacc => ?_⟩
  · obtain ⟨t, ht, hsome⟩ := List.mem_filterMap.mp he
    split at hsome
    · rename_i hc
      rw [← Option.some.inj hsome]
      exact hthreads t ht c u hu hc
    · exact absurd hsome (by simp)
  · obtain ⟨i, hinst, a, htext, hoff, hways⟩ := haccepted start hacc
    exact ⟨a, s, htext, hoff, rfl, hways 0 s (.accept hinst)⟩

section Place

variable {todo : List (Nat × Nat)} {best : Option (Nat × Nat)} (restart : Bool)

/-- The entry that a place adds begins right there, so all entries of a place stem from it. -/
theorem entries_stem (best : Option (Nat × Nat)) (h : ∀ e ∈ todo, p.Stems s e) :
    ∀ e ∈ p.entries restart s.offset todo best, p.Stems s e := by
  intro e he
  unfold entries at he
  split at he
  · rcases List.mem_append.mp he with he | he
    · exact h e he
    · rw [List.mem_singleton.mp he]
      exact stems_start p s
  · exact h e he

/-- The threads that a place leaves stem from the spot behind the next character. -/
theorem leaves_stem {c : Char} (best : Option (Nat × Nat)) (h : ∀ e ∈ todo, p.Stems s e)
    (hu : s.Passes [c] u) :
    ∀ e ∈ p.leaves restart s.before.getLast? s.offset todo best c, p.Stems u e := by
  have hfront := (front_spans (entries_stem restart best h)).1 c u hu
  rw [hu.1] at hfront
  exact hfront

/-- A match that is found at a place is a way from the program's beginning to this place. -/
theorem bestBehind_spans (h : ∀ e ∈ todo, p.Stems s e) (hbest : ∀ m ∈ best, p.Spans s.text m) :
    ∀ m ∈ p.bestBehind restart s.before.getLast? s.after.head? s.offset todo best,
      p.Spans s.text m := by
  intro m hm
  unfold bestBehind Front.best at hm
  split at hm
  · rename_i start hacc
    obtain rfl := Option.some.inj hm
    exact (front_spans (entries_stem restart best h)).2 start hacc
  · exact hbest m hm

/-- **What a run finds is a way from the program's beginning**, if its entries stem from there and
    so does the best match so far. -/
theorem run_spans {restart : Bool} {m : Nat × Nat} (h : ∀ e ∈ todo, p.Stems s e)
    (hbest : ∀ m ∈ best, p.Spans s.text m)
    (hrun : p.run restart s.before.getLast? s.offset todo best s.after = some m) :
    p.Spans s.text m := by
  obtain ⟨before, after⟩ := s
  induction after generalizing before todo best with
  | nil => exact bestBehind_spans restart h hbest m hrun
  | cons c rest ih =>
    have hpass : (⟨before, c :: rest⟩ : Spot).Passes [c] ⟨before ++ [c], rest⟩ := ⟨rfl, rfl⟩
    have hleaves := leaves_stem restart best h hpass
    have hbehind := bestBehind_spans restart h hbest
    -- the run is followed to the end of the text, where it might have stopped as well
    rw [run_step] at hrun
    rw [← hpass.text_eq] at hbehind ⊢
    refine ih (before ++ [c]) hleaves hbehind ?_
    rw [hpass.offset_eq, List.getLast?_concat]
    exact hrun

end Place

end Program

/-! ## Finding

  A match is a reading, and no reading begins before the match that is found.  Which of several
  readings from the same spot is preferred is left open here. -/

namespace Text.Place

/-- A place of a text is found, with the character before it. -/
theorem seek?_size (before after : Text) :
    seek? (before ++ after) before.size = some ⟨before.getLast?, before.size, after⟩ := by
  have hfrom : ∀ done : Text,
      seekFrom (done ++ before).size done.getLast? done.size (before ++ after)
        = some ⟨(done ++ before).getLast?, (done ++ before).size, after⟩ := by
    induction before with
    | nil =>
      intro done
      cases after with
      | nil => simp [seekFrom]
      | cons c after => simp [seekFrom]
    | cons c before ih =>
      intro done
      have hc := Char.utf8Size_pos c
      have hnext := ih (done ++ [c])
      rw [List.append_assoc, List.singleton_append, List.getLast?_concat, size_append (b := [c])]
        at hnext
      rw [List.cons_append, seekFrom, if_neg (by rw [size_append, size_cons]; omega)]
      exact hnext
  exact hfrom []

/-- The place that is found is a spot of the text. -/
theorem exists_spot_of_seek {text : Text} {pos : Nat} {place : Place}
    (h : seek? text pos = some place) :
    ∃ s : Spot, s.text = text ∧ place = ⟨s.before.getLast?, s.offset, s.after⟩ := by
  obtain ⟨hpos, before, htext, hoff⟩ := seekFrom_spec h
  rw [Nat.zero_add] at hoff
  -- the place is found again from its own offset
  have hagain : seek? text before.size = some place := by
    rw [seek?, ← hoff, seekFrom_seekFrom hpos, ← seek?, h, Option.bind_some]
    obtain ⟨prev, off, rest⟩ := place
    cases rest with
    | nil => exact if_pos (Nat.le_refl off)
    | cons c rest => exact if_pos (Nat.le_refl off)
  rw [htext, seek?_size] at hagain
  exact ⟨⟨before, place.rest⟩, htext.symm, (Option.some.inj hagain).symm⟩

end Text.Place

namespace Pattern

variable {p : Pattern} {r : Regex} {text : Text} {pos start stop : Nat}

/-- A pattern that compiles has the program of the expression that it is read as. -/
theorem program_of_compile {source : String} (hparse : Notation.parse source.toList = .ok r)
    (hcompile : compile source = .ok p) : p.program = r.program := by
  unfold compile at hcompile
  rw [hparse] at hcompile
  simp only at hcompile
  split at hcompile
  · rw [← Except.ok.inj hcompile]
  · exact absurd hcompile (by simp)

/-- **What is found is read**: between the ends of a match lies a reading of the expression. -/
theorem findAt_reads (hp : p.program = r.program) (h : p.findAt text pos = some (start, stop)) :
    ∃ s t : Spot, s.text = text ∧ s.offset = start ∧ t.offset = stop ∧ r.Reads s t := by
  obtain ⟨place, hplace, hsearch⟩ := Option.bind_eq_some_iff.mp h
  obtain ⟨a, htext, rfl⟩ := Text.Place.exists_spot_of_seek hplace
  obtain ⟨s, t, hs, hstart, hstop, hway⟩ := Program.run_spans (s := a)
    (fun _ he => absurd he List.not_mem_nil) (fun _ hm => absurd hm (by simp)) hsearch
  rw [hp, Program.accepts_program_iff] at hway
  exact ⟨s, t, hs.trans htext, hstart, hstop, hway⟩

/-- **What is read is not missed**: a search up to the beginning of a reading finds a match that
    begins there, or earlier. -/
theorem findAt_of_reads {s t : Spot} (hp : p.program = r.program) (h : r.Reads s t)
    (hpos : pos ≤ s.offset) :
    ∃ start stop, p.findAt s.text pos = some (start, stop) ∧ start ≤ s.offset := by
  have hlive : p.program.Live s.before.getLast? s.after p.program.start := by
    obtain ⟨n, hway⟩ := Program.accepts_program_iff.mpr h
    rw [hp]
    exact hway.live
  obtain ⟨stop, hrun⟩ := Program.run_of_live s.offset hlive
  have hfind : p.findAt s.text s.offset = some (s.offset, stop) := by
    unfold findAt
    rw [Spot.text, Spot.offset, Text.Place.seek?_size]
    exact hrun
  cases hfirst : p.findAt s.text pos with
  | none => exact absurd ((findAt_eq_none_of_le hfirst hpos).symm.trans hfind) (by simp)
  | some m =>
    obtain ⟨start, stop'⟩ := m
    rcases Nat.lt_or_ge s.offset start with hlt | hge
    · -- the later match would be found from the reading on
      obtain ⟨rfl, -⟩ := Prod.mk.inj
        (Option.some.inj ((findAt_of_le hfirst hpos hlt.le).symm.trans hfind))
      exact absurd hlt (Nat.lt_irrefl _)
    · exact ⟨start, stop', rfl, hge⟩

end Pattern

end Highlight
