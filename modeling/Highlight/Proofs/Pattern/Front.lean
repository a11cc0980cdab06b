/-
  What the walk through a place finds.

  1. **Induction** — what is passed on from an instruction to those behind it is passed on from the
     entries to all that is found (`front_induction`).  So threads begin where the entries began
     that led to them (`front_starts`).

  2. **Live entries** — if one of the first entries is live, the walk meets an `accept` from one of
     them, or leaves a live thread that comes from one of them and is preferred to all others
     (`front_firstLive`).  The invariant is that the live instructions behind those met are met or
     listed (`Explored`); once none is listed, a live instruction leads to a live thread along the
     way that makes it live.
-/
import Highlight.Proofs.Pattern.Liveness

namespace Highlight

namespace Program

variable {p : Program} {prev : Option Char} {text : Text}

/-! ## Where threads come from

  The walk has a list of entries to go through, and passes over those that it has met before.
  Whatever an instruction passes on to those behind it can be said of all that the walk finds. -/

/-- What holds of the entries and is passed on from an instruction to those behind it holds of the
    `accept` at which the walk ends, and of the threads what it is passed on as to them. -/
theorem finish_induction {P : Nat × Nat → Prop} {T : Thread → Prop} (next : Option Char)
    (hbehind : ∀ i start j, P (i, start) → j ∈ p.behind prev next i → P (j, start))
    (hwaiting : ∀ i start t, P (i, start) → t ∈ p.waiting i start → T t) (fuel : Nat) (w : Tour)
    (htodo : ∀ e ∈ w.todo, P e) (hthreads : ∀ t ∈ w.threads, T t) :
    (∀ t ∈ (Tour.finish p prev next fuel w).threads, T t) ∧
      ∀ start, (Tour.finish p prev next fuel w).accepted = some start →
        ∃ i, p.insts[i]? = some .accept ∧ P (i, start) := by
  induction fuel generalizing w with
  | zero => exact ⟨fun t ht => hthreads t (List.mem_reverse.mp ht), fun _ h => nomatch h⟩
  | succ fuel ih =>
    obtain ⟨todo, seen, threads⟩ := w
    rcases todo with _ | ⟨⟨i, start⟩, todo⟩
    · rw [finish_nil]
      exact ⟨fun t ht => hthreads t (List.mem_reverse.mp ht), fun _ h => nomatch h⟩
    · have hstart : P (i, start) := htodo _ List.mem_cons_self
      have hrest : ∀ e ∈ todo, P e := fun e he => htodo e (List.mem_cons_of_mem _ he)
      rw [finish_cons]
      split
      · exact ih ⟨todo, seen, threads⟩ hrest hthreads
      · split
        · rename_i haccept
          refine ⟨fun t ht => hthreads t (List.mem_reverse.mp ht), fun s hs => ?_⟩
          rw [← Option.some.inj hs]
          exact ⟨i, haccept, hstart⟩
        · refine ih _ (fun e he => ?_) (fun t ht => ?_)
          · rcases List.mem_append.mp he with he | he
            · obtain ⟨j, hj, rfl⟩ := List.mem_map.mp he
              exact hbehind i start j hstart hj
            · exact hrest e he
          · rcases List.mem_append.mp ht with ht | ht
            · exact hwaiting i start t hstart ht
            · exact hthreads t ht

theorem front_induction {P : Nat × Nat → Prop} {T : Thread → Prop} {next : Option Char}
    (hbehind : ∀ i start j, P (i, start) → j ∈ p.behind prev next i → P (j, start))
    (hwaiting : ∀ i start t, P (i, start) → t ∈ p.waiting i start → T t)
    {todo : List (Nat × Nat)} (h : ∀ e ∈ todo, P e) :
    (∀ t ∈ (p.front prev next todo).threads, T t) ∧
      ∀ start, (p.front prev next todo).accepted = some start →
        ∃ i, p.insts[i]? = some .accept ∧ P (i, start) :=
  finish_induction next hbehind hwaiting _ (Tour.start p todo) h
    fun _ ht => absurd ht List.not_mem_nil

/-- What the walk finds began where one of its entries began. -/
theorem front_starts (P : Nat → Prop) (p : Program) (prev next : Option Char)
    {todo : List (Nat × Nat)} (h : ∀ e ∈ todo, P e.2) :
    (∀ t ∈ (p.front prev next todo).threads, P t.start) ∧
      ∀ start, (p.front prev next todo).accepted = some start → P start := by
  obtain ⟨hthreads, haccepted⟩ := front_induction (P := fun e => P e.2) (T := fun t => P t.start)
    (fun _ _ _ hstart _ => hstart)
    (fun _ _ t hstart ht => (start_of_mem_waiting ht).symm ▸ hstart) h
  exact ⟨hthreads, fun start hacc => (haccepted start hacc).elim fun _ hi => hi.2⟩

/-- Threads that have been found stay the first ones. -/
theorem finish_threads (p : Program) (prev next : Option Char) (fuel : Nat) (w : Tour) :
    ∃ later, (Tour.finish p prev next fuel w).threads = w.threads.reverse ++ later := by
  induction fuel generalizing w with
  | zero => exact ⟨[], (List.append_nil _).symm⟩
  | succ fuel ih =>
    obtain ⟨todo, seen, threads⟩ := w
    rcases todo with _ | ⟨⟨i, start⟩, todo⟩
    · exact ⟨[], (List.append_nil _).symm⟩
    · rw [finish_cons]
      split
      · exact ih ⟨todo, seen, threads⟩
      · split
        · exact ⟨[], (List.append_nil _).symm⟩
        · obtain ⟨later, hlater⟩ := ih (Tour.visit p prev next i start ⟨todo, seen, threads⟩)
          refine ⟨(p.waiting i start).reverse ++ later, ?_⟩
          rw [hlater, Tour.visit, List.reverse_append, List.append_assoc]

/-! ## Live ends

  Entries come in order of preference, so the first ones are walked through before all others.  If
  one of them is live, an `accept` is met or a live thread found before any other entry comes into
  play: its live way leads through instructions that are met, up to one that waits for the next
  character. -/

/-- An instruction was met, or is still listed. -/
def Reached (todo : List (Nat × Nat)) (seen : Seen) (i : Nat) : Prop :=
  seen.has i = true ∨ ∃ start, (i, start) ∈ todo

/-- An entry that was met before adds nothing to what is reached. -/
theorem Reached.drop {i j start : Nat} {todo : List (Nat × Nat)} {seen : Seen}
    (h : Reached ((i, start) :: todo) seen j) (hi : seen.has i = true) : Reached todo seen j := by
  rcases h with hseen | ⟨s, hmem⟩
  · exact .inl hseen
  · rcases List.mem_cons.mp hmem with heq | hmem
    · exact .inl ((Prod.mk.inj heq).1 ▸ hi)
    · exact .inr ⟨s, hmem⟩

/-- An entry whose instruction is met stays reached. -/
theorem Reached.visit {i j start : Nat} {todo : List (Nat × Nat)} {seen : Seen}
    (h : Reached ((i, start) :: todo) seen j) (hj : j < seen.size) (new : List (Nat × Nat)) :
    Reached (new ++ todo) (seen.add i) j := by
  rcases h with hseen | ⟨s, hmem⟩
  · exact .inl ((has_add seen i j).mpr (.inl hseen))
  · rcases List.mem_cons.mp hmem with heq | hmem
    · obtain ⟨rfl, rfl⟩ := Prod.mk.inj heq
      exact .inl ((has_add seen j j).mpr (.inr ⟨rfl, hj⟩))
    · exact .inr ⟨s, List.mem_append_right _ hmem⟩

/-- What is behind the instructions that were met, as far as it is live, was met as well or is
    still listed; the threads that wait at them have been found. -/
structure Explored (p : Program) (prev : Option Char) (text : Text) (todo : List (Nat × Nat))
    (seen : Seen) (threads : List Thread) : Prop where
  unaccepted : ∀ i, seen.has i = true → p.insts[i]? ≠ some .accept
  behind : ∀ i j, seen.has i = true → j ∈ p.behind prev text.head? i → p.Live prev text j →
    Reached todo seen j
  waiting : ∀ i start t, seen.has i = true → t ∈ p.waiting i start →
    ∃ t' ∈ threads, t'.set = t.set ∧ t'.next = t.next

/-- Where nothing is left to explore, a live instruction that was met has led to a live thread. -/
theorem Explored.exists_live {seen : Seen} {threads : List Thread}
    (h : Explored p prev text [] seen threads) {i : Nat} (hi : seen.has i = true)
    (hlive : p.Live prev text i) : ∃ t ∈ threads, p.LiveThread text t := by
  have hbehind : ∀ i j, seen.has i = true → j ∈ p.behind prev text.head? i → p.Live prev text j →
      seen.has j = true := by
    intro i j hi hj hl
    rcases h.behind i j hi hj hl with hseen | ⟨start, hmem⟩
    · exact hseen
    · exact absurd hmem List.not_mem_nil
  induction hlive with
  | accept hinst => exact absurd hinst (h.unaccepted _ hi)
  | check hinst hlook hn ih =>
    exact ih h (hbehind _ _ hi (by simp [Program.behind, hinst, hlook]) hn) hbehind
  | left hinst ha ih => exact ih h (hbehind _ _ hi (by simp [Program.behind, hinst]) ha) hbehind
  | right hinst hb ih => exact ih h (hbehind _ _ hi (by simp [Program.behind, hinst]) hb) hbehind
  | take hinst hc hn ih =>
    obtain ⟨t, ht, hset, hnext⟩ := h.waiting _ 0 _ hi (by
      simp only [Program.waiting, hinst]
      exact List.mem_cons_self)
    exact ⟨t, ht, _, _, rfl, by rw [hset]; exact hc, by rw [hnext]; exact hn⟩

/-- Dropping an entry that was met before keeps the exploration complete. -/
theorem Explored.drop {i start : Nat} {todo : List (Nat × Nat)} {seen : Seen}
    {threads : List Thread} (h : Explored p prev text ((i, start) :: todo) seen threads)
    (hi : seen.has i = true) : Explored p prev text todo seen threads where
  unaccepted := h.unaccepted
  behind j k hj hk hlive := (h.behind j k hj hk hlive).drop hi
  waiting := h.waiting

/-- Meeting an instruction keeps the exploration complete. -/
theorem Explored.visit {i start : Nat} {todo : List (Nat × Nat)} {seen : Seen}
    {threads : List Thread} (h : Explored p prev text ((i, start) :: todo) seen threads)
    (hsize : seen.size = p.insts.size) (hi : p.insts[i]? ≠ some .accept) :
    Explored p prev text ((p.behind prev text.head? i).map (·, start) ++ todo) (seen.add i)
      (p.waiting i start ++ threads) where
  unaccepted j hj := by
    rcases (has_add seen i j).mp hj with hseen | ⟨rfl, -⟩
    · exact h.unaccepted j hseen
    · exact hi
  behind j k hj hk hlive := by
    rcases (has_add seen i j).mp hj with hseen | ⟨rfl, -⟩
    · exact (h.behind j k hseen hk hlive).visit (hsize ▸ hlive.lt_size) _
    · exact .inr ⟨start, List.mem_append_left _ (List.mem_map.mpr ⟨k, hk, rfl⟩)⟩
  waiting j s t hj ht := by
    rcases (has_add seen i j).mp hj with hseen | ⟨rfl, -⟩
    · obtain ⟨t', ht', heq⟩ := h.waiting j s t hseen ht
      exact ⟨t', List.mem_append_right _ ht', heq⟩
    · -- the threads of an instruction differ in their beginnings only
      unfold Program.waiting at ht ⊢
      split at ht
      · rename_i set n hinst
        obtain rfl : t = ⟨set, n, s⟩ := List.mem_singleton.mp ht
        exact ⟨⟨set, n, start⟩, List.mem_append_left _ (by simp), rfl, rfl⟩
      · exact absurd ht List.not_mem_nil

/-- What a walk leaves if it has taken some entries first, all of them with beginning `start` and
    one of them live: it met an `accept` from one of them, or found a live thread that comes from
    one of them, and has listed it before all threads with other beginnings. -/
def Front.FirstLive (p : Program) (text : Text) (start : Nat) (f : Front) : Prop :=
  (f.accepted = some start ∧ ∀ t ∈ f.threads, t.start = start) ∨
    ∃ first later, f.threads = first ++ later ∧ (∀ t ∈ first, t.start = start) ∧
      ∃ t ∈ first, p.LiveThread text t

/-- Where the first entries are used up, a live thread is among those found. -/
theorem finish_firstLive_nil {start : Nat} {younger : List (Nat × Nat)} {fuel : Nat} {seen : Seen}
    {threads : List Thread} (hthreads : ∀ t ∈ threads, t.start = start)
    (hexp : Explored p prev text [] seen threads)
    (hlive : ∃ i, p.Live prev text i ∧ Reached [] seen i) :
    Front.FirstLive p text start
      (Tour.finish p prev text.head? fuel ⟨younger, seen, threads⟩) := by
  obtain ⟨i, hi, hseen | ⟨s, hmem⟩⟩ := hlive
  · obtain ⟨t, ht, htlive⟩ := hexp.exists_live hseen hi
    obtain ⟨later, hlater⟩ := finish_threads p prev text.head? fuel ⟨younger, seen, threads⟩
    exact .inr ⟨threads.reverse, later, hlater, fun t ht => hthreads t (List.mem_reverse.mp ht),
      t, List.mem_reverse.mpr ht, htlive⟩
  · exact absurd hmem List.not_mem_nil

/-- The walk through the first entries, of which one is live or leads to a live one. -/
theorem finish_firstLive {start : Nat} (younger : List (Nat × Nat)) (fuel : Nat) :
    ∀ (mine : List (Nat × Nat)) (seen : Seen) (threads : List Thread),
      Tour.Fits p fuel ⟨mine ++ younger, seen, threads⟩ →
      (∀ e ∈ mine, e.2 = start) → (∀ t ∈ threads, t.start = start) →
      Explored p prev text mine seen threads →
      (∃ i, p.Live prev text i ∧ Reached mine seen i) →
      Front.FirstLive p text start
        (Tour.finish p prev text.head? fuel ⟨mine ++ younger, seen, threads⟩) := by
  induction fuel with
  | zero =>
    rintro (_ | ⟨e, mine⟩) seen threads hfits hmine hthreads hexp hlive
    · exact finish_firstLive_nil hthreads hexp hlive
    · obtain ⟨m, hm⟩ := hfits.fuel_pos
      exact absurd hm (Nat.succ_ne_zero m).symm
  | succ fuel ih =>
    rintro (_ | ⟨⟨i, s⟩, mine⟩) seen threads hfits hmine hthreads hexp hlive
    · exact finish_firstLive_nil hthreads hexp hlive
    · obtain rfl : s = start := hmine _ List.mem_cons_self
      have hrest : ∀ e ∈ mine, e.2 = s := fun e he => hmine e (List.mem_cons_of_mem _ he)
      obtain ⟨j, hj, hreached⟩ := hlive
      rw [List.cons_append, finish_cons]
      by_cases hseen : seen.has i = true
      · -- what an entry that was met before stands for is among those met
        rw [if_pos hseen]
        exact ih mine seen threads hfits.drop hrest hthreads (hexp.drop hseen)
          ⟨j, hj, hreached.drop hseen⟩
      · rw [if_neg hseen]
        by_cases hacc : p.insts[i]? = some .accept
        · rw [if_pos hacc]
          exact .inl ⟨rfl, fun t ht => hthreads t (List.mem_reverse.mp ht)⟩
        · rw [if_neg hacc]
          have hvisit : Tour.visit p prev text.head? i s ⟨mine ++ younger, seen, threads⟩
              = ⟨((p.behind prev text.head? i).map (·, s) ++ mine) ++ younger, seen.add i,
                p.waiting i s ++ threads⟩ := by
            rw [Tour.visit, List.append_assoc]
          have hfits' : Tour.Fits p fuel
              (Tour.visit p prev text.head? i s ⟨mine ++ younger, seen, threads⟩) :=
            hfits.visit hseen prev text.head?
          rw [hvisit] at hfits' ⊢
          refine ih _ _ _ hfits' ?_ ?_ (hexp.visit hfits.size hacc)
            ⟨j, hj, hreached.visit (hfits.size ▸ hj.lt_size) _⟩
          · intro e he
            rcases List.mem_append.mp he with he | he
            · obtain ⟨k, -, rfl⟩ := List.mem_map.mp he
              rfl
            · exact hrest e he
          · intro t ht
            rcases List.mem_append.mp ht with ht | ht
            · exact start_of_mem_waiting ht
            · exact hthreads t ht

/-- **A live entry is found.**  If one of the first entries, all with the same beginning, is live,
    the walk meets an `accept` from them or leaves a live thread of theirs. -/
theorem front_firstLive {start i : Nat} {mine : List (Nat × Nat)} (younger : List (Nat × Nat))
    (hmine : ∀ e ∈ mine, e.2 = start) (hi : (i, start) ∈ mine) (hlive : p.Live prev text i) :
    Front.FirstLive p text start (p.front prev text.head? (mine ++ younger)) := by
  refine finish_firstLive younger _ mine _ [] (fits_start p (mine ++ younger)) hmine
    (fun t ht => absurd ht List.not_mem_nil) ⟨?_, ?_, ?_⟩ ⟨i, hlive, .inr ⟨start, hi⟩⟩
  · exact fun j hj => absurd hj (not_has_start p (mine ++ younger) j)
  · exact fun j k hj => absurd hj (not_has_start p (mine ++ younger) j)
  · exact fun j s t hj => absurd hj (not_has_start p (mine ++ younger) j)

end Program

end Highlight
