/-
  Which instructions of a program can still lead to a match.

  An instruction is *live* at a place if some way through the program leads from it to an `accept`,
  over the characters that follow (`Live`).  Instructions that are not live do not count: threads
  that wait behind them never match, and that they have been met before keeps no live instruction
  from being met.  So what `Program.front` makes of two lists of instructions with the same live
  entries is the same, but for threads that are not live (`front_alike`).

  1. **One step of the walk** — `follow_step`: what an instruction leads to without a character
     (`behind`), and the thread that waits at it (`waiting`).

  2. **The walk as a tour of states** — `Tour`: what `Program.follow` holds between two steps, and
     the `budget` that each step lowers.

  3. **Dead ends** — `finish_alike`, by induction on the steps of both walks together: a dead entry
     costs one walk a step and changes nothing that counts (`finish_dead`), a live one costs both
     walks the same step (`finish_live`).
-/
import Highlight.Pattern.Search

namespace Highlight

namespace Program

/-- From an instruction, met behind the character `prev`, a match of the following text can be
    completed. -/
inductive Live (p : Program) : (prev : Option Char) → Text → Nat → Prop
  | accept {prev : Option Char} {text : Text} {i : Nat} (h : p.insts[i]? = some .accept) :
      Live p prev text i
  | check {prev : Option Char} {text : Text} {i n : Nat} {look : Look}
      (h : p.insts[i]? = some (.check look n)) (hlook : look.holds prev text.head? = true)
      (hn : Live p prev text n) : Live p prev text i
  | left {prev : Option Char} {text : Text} {i a b : Nat} (h : p.insts[i]? = some (.fork a b))
      (ha : Live p prev text a) : Live p prev text i
  | right {prev : Option Char} {text : Text} {i a b : Nat} (h : p.insts[i]? = some (.fork a b))
      (hb : Live p prev text b) : Live p prev text i
  | take {prev : Option Char} {c : Char} {rest : Text} {i n : Nat} {set : CharSet}
      (h : p.insts[i]? = some (.take set n)) (hc : set.contains c = true)
      (hn : Live p (some c) rest n) : Live p prev (c :: rest) i

/-- A thread waits for the next character and can complete a match behind it. -/
def LiveThread (p : Program) (text : Text) (t : Thread) : Prop :=
  ∃ c rest, text = c :: rest ∧ t.set.contains c = true ∧ p.Live (some c) rest t.next

/-! ## One step of the walk -/

/-- The instructions that an instruction leads to without a character. -/
def behind (p : Program) (prev next : Option Char) (i : Nat) : List Nat :=
  match p.insts[i]? with
  | some (.check look n) => if look.holds prev next then [n] else []
  | some (.fork a b) => [a, b]
  | _ => []

/-- The thread that waits at an instruction. -/
def waiting (p : Program) (i start : Nat) : List Thread :=
  match p.insts[i]? with
  | some (.take set n) => [⟨set, n, start⟩]
  | _ => []

/-- The thread at an instruction begins where the walk to it began. -/
theorem start_of_mem_waiting {p : Program} {i start : Nat} {t : Thread}
    (h : t ∈ p.waiting i start) : t.start = start := by
  unfold waiting at h
  split at h
  · rw [List.mem_singleton.mp h]
  · exact absurd h List.not_mem_nil

/-- An instruction leads to two others at most without a character. -/
theorem length_behind_le (p : Program) (prev next : Option Char) (i : Nat) :
    (p.behind prev next i).length ≤ 2 := by
  unfold behind
  split
  · split
    · exact Nat.le_succ 1
    · exact Nat.zero_le 2
  · exact Nat.le_refl 2
  · exact Nat.zero_le 2

/-- The walk drops an instruction that it has met, ends at an `accept`, and else goes on behind the
    instruction. -/
theorem follow_step (p : Program) (prev next : Option Char) (fuel i start : Nat)
    (todo : List (Nat × Nat)) (seen : Seen) (threads : List Thread) :
    p.follow prev next (fuel + 1) ((i, start) :: todo) seen threads
      = if seen.has i then p.follow prev next fuel todo seen threads
        else if p.insts[i]? = some .accept then ⟨threads.reverse, some start⟩
        else p.follow prev next fuel ((p.behind prev next i).map (·, start) ++ todo) (seen.add i)
          (p.waiting i start ++ threads) := by
  rw [follow]
  by_cases hseen : seen.has i = true
  · rw [if_pos hseen, if_pos hseen]
  · rw [if_neg hseen, if_neg hseen]
    cases hinst : p.insts[i]? with
    | none => simp [behind, waiting, hinst]
    | some inst =>
      cases inst with
      | accept => simp
      | take set n => simp [behind, waiting, hinst]
      | check look n =>
        by_cases hlook : look.holds prev next = true
        · simp [behind, waiting, hinst, hlook]
        · simp [behind, waiting, hinst, hlook]
      | fork a b => simp [behind, waiting, hinst]

/-- An instruction other than `accept` is live if one behind it is, or the thread that waits at
    it. -/
theorem live_iff (p : Program) (prev : Option Char) (text : Text) (i start : Nat)
    (hi : p.insts[i]? ≠ some .accept) :
    p.Live prev text i ↔ (∃ j ∈ p.behind prev text.head? i, p.Live prev text j) ∨
      ∃ t ∈ p.waiting i start, p.LiveThread text t := by
  constructor
  · intro h
    -- a way to an `accept` begins with a step that needs no character, or with the thread
    cases h with
    | accept h => exact absurd h hi
    | check h hlook hn => exact .inl ⟨_, by simp [behind, h, hlook], hn⟩
    | left h ha => exact .inl ⟨_, by simp [behind, h], ha⟩
    | right h hb => exact .inl ⟨_, by simp [behind, h], hb⟩
    | take h hc hn => exact .inr ⟨_, by simp only [waiting, h]; exact List.mem_cons_self,
        _, _, rfl, hc, hn⟩
  · rintro (⟨j, hj, hlive⟩ | ⟨t, ht, c, rest, rfl, hc, hn⟩)
    · unfold behind at hj
      split at hj
      · rename_i look n hinst
        split at hj
        · rename_i hlook
          obtain rfl : j = n := List.mem_singleton.mp hj
          exact .check hinst hlook hlive
        · exact absurd hj List.not_mem_nil
      · rename_i a b hinst
        rcases List.mem_cons.mp hj with rfl | hj
        · exact .left hinst hlive
        · obtain rfl : j = b := List.mem_singleton.mp hj
          exact .right hinst hlive
      · exact absurd hj List.not_mem_nil
    · unfold waiting at ht
      split at ht
      · rename_i set n hinst
        obtain rfl : t = ⟨set, n, start⟩ := List.mem_singleton.mp ht
        exact .take hinst hc hn
      · exact absurd ht List.not_mem_nil

/-- A live instruction is one of the program. -/
theorem Live.lt_size {p : Program} {prev : Option Char} {text : Text} {i : Nat}
    (h : p.Live prev text i) : i < p.insts.size := by
  have hsome : ∃ inst, p.insts[i]? = some inst := by
    cases h with
    | accept h => exact ⟨_, h⟩
    | check h _ _ => exact ⟨_, h⟩
    | left h _ => exact ⟨_, h⟩
    | right h _ => exact ⟨_, h⟩
    | take h _ _ => exact ⟨_, h⟩
  obtain ⟨inst, hinst⟩ := hsome
  exact (Array.getElem?_eq_some_iff.mp hinst).1

/-! ## The walk as a tour of states

  A tour is what `follow` holds between two steps.  Its budget bounds the number of steps. -/

/-- The instructions still to walk from, those met, and the threads found. -/
structure Tour where
  todo : List (Nat × Nat)
  seen : Seen
  threads : List Thread

namespace Tour

/-- What a tour ends with. -/
def finish (p : Program) (prev next : Option Char) (fuel : Nat) (w : Tour) : Front :=
  p.follow prev next fuel w.todo w.seen w.threads

/-- The tour after an instruction has been met. -/
def visit (p : Program) (prev next : Option Char) (i start : Nat) (w : Tour) : Tour :=
  ⟨(p.behind prev next i).map (·, start) ++ w.todo, w.seen.add i, p.waiting i start ++ w.threads⟩

/-- A bound on the number of steps: each drops an entry or meets an instruction, behind which there
    are at most two others. -/
def budget (w : Tour) : Nat := w.todo.length + 2 * w.seen.count false

/-- A tour through the program that the fuel is enough for. -/
structure Fits (p : Program) (fuel : Nat) (w : Tour) : Prop where
  budget : w.budget ≤ fuel
  size : w.seen.size = p.insts.size

end Tour

@[simp] theorem size_add (seen : Seen) (i : Nat) : (seen.add i).size = seen.size :=
  Array.size_setIfInBounds

/-- Meeting an instruction of the program adds it to those met. -/
theorem has_add (seen : Seen) (i j : Nat) :
    (seen.add i).has j = true ↔ seen.has j = true ∨ (i = j ∧ i < seen.size) := by
  simp only [Seen.has, Seen.add, Array.getD_eq_getD_getElem?, Array.getElem?_setIfInBounds]
  by_cases hij : i = j
  · subst hij
    by_cases hi : i < seen.size
    · simp [hi]
    · simp [hi]
  · simp [hij]

/-- Of the instructions not yet met there is one less. -/
theorem count_add {seen : Seen} {i : Nat} (hi : i < seen.size) (hseen : seen.has i ≠ true) :
    (seen.add i).count false + 1 = seen.count false := by
  have hfalse : seen[i] = false := by
    simpa [Seen.has, Array.getD_eq_getD_getElem?, hi] using hseen
  have hpos : 0 < seen.count false := Array.count_pos_iff.mpr (hfalse ▸ Array.getElem_mem hi)
  have hset : seen.add i = seen.set i true hi := by simp [Seen.add, Array.setIfInBounds, hi]
  rw [hset, Array.count_set, hfalse]
  simp
  omega

/-- A tour with nothing left to walk from ends with the threads that it has found. -/
theorem finish_nil (p : Program) (prev next : Option Char) (fuel : Nat) (seen : Seen)
    (threads : List Thread) :
    Tour.finish p prev next fuel ⟨[], seen, threads⟩ = ⟨threads.reverse, none⟩ := by
  cases fuel <;> rfl

/-- One step of the walk: an instruction that has been seen is skipped, an `accept` ends the walk,
    and any other is visited. -/
theorem finish_cons (p : Program) (prev next : Option Char) (fuel i start : Nat)
    (todo : List (Nat × Nat)) (seen : Seen) (threads : List Thread) :
    Tour.finish p prev next (fuel + 1) ⟨(i, start) :: todo, seen, threads⟩
      = if seen.has i then Tour.finish p prev next fuel ⟨todo, seen, threads⟩
        else if p.insts[i]? = some .accept then ⟨threads.reverse, some start⟩
        else Tour.finish p prev next fuel (Tour.visit p prev next i start ⟨todo, seen, threads⟩) :=
  follow_step p prev next fuel i start todo seen threads

/-- Meeting an instruction lowers the budget. -/
theorem budget_visit {p : Program} {prev next : Option Char} {i start : Nat}
    {todo : List (Nat × Nat)} {seen : Seen} {threads : List Thread}
    (hsize : seen.size = p.insts.size) (hseen : seen.has i ≠ true) :
    (Tour.visit p prev next i start ⟨todo, seen, threads⟩).budget
      < (⟨(i, start) :: todo, seen, threads⟩ : Tour).budget := by
  have hbehind := p.length_behind_le prev next i
  simp only [Tour.budget, Tour.visit, List.length_append, List.length_map, List.length_cons]
  rcases Nat.lt_or_ge i seen.size with hi | hi
  · have hcount := count_add hi hseen
    omega
  · have hnone : p.behind prev next i = [] := by
      simp [behind, Array.getElem?_eq_none (hsize ▸ hi)]
    have hadd : seen.add i = seen := by
      simp [Seen.add, Array.setIfInBounds, Nat.not_lt.mpr hi]
    rw [hnone, hadd, List.length_nil]
    omega

section

variable {p : Program} {fuel i start : Nat} {todo : List (Nat × Nat)} {seen : Seen}
  {threads : List Thread}

/-- Where something is left to walk from, there is fuel for a step. -/
theorem Tour.Fits.fuel_pos (h : Tour.Fits p fuel ⟨(i, start) :: todo, seen, threads⟩) :
    ∃ m, fuel = m + 1 := by
  have hbudget := h.budget
  simp only [Tour.budget, List.length_cons] at hbudget
  exact ⟨fuel - 1, by omega⟩

/-- An entry that is dropped leaves enough fuel. -/
theorem Tour.Fits.drop (h : Tour.Fits p (fuel + 1) ⟨(i, start) :: todo, seen, threads⟩) :
    Tour.Fits p fuel ⟨todo, seen, threads⟩ := by
  have hbudget := h.budget
  simp only [Tour.budget, List.length_cons] at hbudget
  refine ⟨?_, h.size⟩
  simp only [Tour.budget]
  omega

/-- An instruction that is met leaves enough fuel. -/
theorem Tour.Fits.visit (h : Tour.Fits p (fuel + 1) ⟨(i, start) :: todo, seen, threads⟩)
    (hseen : seen.has i ≠ true) (prev next : Option Char) :
    Tour.Fits p fuel (Tour.visit p prev next i start ⟨todo, seen, threads⟩) :=
  ⟨Nat.le_of_lt_succ (Nat.lt_of_lt_of_le (budget_visit h.size hseen) h.budget),
    (size_add seen i).trans h.size⟩

end

/-! ## Dead ends -/

open Classical in
/-- The entries whose instructions are live. -/
noncomputable def liveEntries (p : Program) (prev : Option Char) (text : Text)
    (todo : List (Nat × Nat)) : List (Nat × Nat) :=
  todo.filter fun e => p.Live prev text e.1

open Classical in
/-- The threads that are live. -/
noncomputable def liveThreads (p : Program) (text : Text) (threads : List Thread) : List Thread :=
  threads.filter fun t => p.LiveThread text t

/-- Two tours that differ in dead instructions only. -/
structure Tour.Alike (p : Program) (prev : Option Char) (text : Text) (w v : Tour) : Prop where
  todo : p.liveEntries prev text w.todo = p.liveEntries prev text v.todo
  seen : ∀ i, p.Live prev text i → (w.seen.has i = true ↔ v.seen.has i = true)
  threads : p.liveThreads text w.threads = p.liveThreads text v.threads

variable {p : Program} {prev : Option Char} {text : Text}

theorem Tour.Alike.symm {w v : Tour} (h : w.Alike p prev text v) : v.Alike p prev text w :=
  ⟨h.todo.symm, fun i hi => (h.seen i hi).symm, h.threads.symm⟩

theorem Tour.Alike.trans {u w v : Tour} (h : u.Alike p prev text w) (h' : w.Alike p prev text v) :
    u.Alike p prev text v :=
  ⟨h.todo.trans h'.todo, fun i hi => (h.seen i hi).trans (h'.seen i hi), h.threads.trans h'.threads⟩

/-- A live entry counts. -/
theorem liveEntries_cons_live {i start : Nat} (h : p.Live prev text i) (todo : List (Nat × Nat)) :
    p.liveEntries prev text ((i, start) :: todo) = (i, start) :: p.liveEntries prev text todo :=
  List.filter_cons_of_pos (by simpa using h)

/-- A dead entry does not. -/
theorem liveEntries_cons_dead {i start : Nat} (h : ¬p.Live prev text i) (todo : List (Nat × Nat)) :
    p.liveEntries prev text ((i, start) :: todo) = p.liveEntries prev text todo :=
  List.filter_cons_of_neg (by simpa using h)

/-- Among entries that are not live there is no live one. -/
theorem liveEntries_eq_nil {todo : List (Nat × Nat)} (h : ∀ e ∈ todo, ¬p.Live prev text e.1) :
    p.liveEntries prev text todo = [] :=
  List.filter_eq_nil_iff.mpr fun e he => by simpa using h e he

/-- Meeting a dead instruction changes nothing that counts. -/
theorem visit_dead {i start : Nat} {w : Tour} (h : ¬p.Live prev text i) :
    (Tour.visit p prev text.head? i start w).Alike p prev text w := by
  have hi : p.insts[i]? ≠ some .accept := fun hacc => h (.accept hacc)
  have hlive := mt (live_iff p prev text i start hi).mpr h
  refine ⟨?_, fun j hj => ?_, ?_⟩
  · have hbehind : p.liveEntries prev text ((p.behind prev text.head? i).map (·, start)) = [] := by
      refine liveEntries_eq_nil fun e he hl => hlive (.inl ?_)
      obtain ⟨j, hj, rfl⟩ := List.mem_map.mp he
      exact ⟨j, hj, hl⟩
    rw [liveEntries, Tour.visit, List.filter_append]
    exact congrArg (· ++ _) hbehind
  · -- the instruction that is met is none of the live ones
    have hne : i ≠ j := fun hij => h (hij ▸ hj)
    simp only [Tour.visit, has_add, hne, false_and, or_false]
  · have hwaiting : p.liveThreads text (p.waiting i start) = [] :=
      List.filter_eq_nil_iff.mpr fun t ht => by
        simpa using fun hl => hlive (.inr ⟨t, ht, hl⟩)
    rw [liveThreads, Tour.visit, List.filter_append]
    exact congrArg (· ++ _) hwaiting

/-- Meeting the same instruction keeps tours alike. -/
theorem Tour.Alike.visit {w v : Tour} (h : w.Alike p prev text v)
    (hsize : w.seen.size = v.seen.size) (next : Option Char) (i start : Nat) :
    (Tour.visit p prev next i start w).Alike p prev text (Tour.visit p prev next i start v) := by
  refine ⟨?_, fun j hj => ?_, ?_⟩
  · rw [liveEntries, liveEntries, Tour.visit, Tour.visit, List.filter_append, List.filter_append]
    exact congrArg _ h.todo
  · simp only [Tour.visit, has_add, h.seen j hj, hsize]
  · rw [liveThreads, liveThreads, Tour.visit, Tour.visit, List.filter_append, List.filter_append]
    exact congrArg _ h.threads

/-- Where nothing is left on one side, what is left on the other side is dead. -/
theorem Tour.Alike.dead_of_nil {seen seen' : Seen} {threads threads' : List Thread}
    {i start : Nat} {todo : List (Nat × Nat)}
    (h : Tour.Alike p prev text ⟨[], seen, threads⟩ ⟨(i, start) :: todo, seen', threads'⟩) :
    ¬p.Live prev text i := by
  intro hi
  have htodo := h.todo
  rw [liveEntries_cons_live hi] at htodo
  exact absurd htodo (by simp [liveEntries])

/-- A tour that begins with a dead entry ends like a tour that is alike and has less fuel. -/
theorem finish_dead {fuel i start : Nat} {todo : List (Nat × Nat)} {seen : Seen}
    {threads : List Thread} (h : ¬p.Live prev text i)
    (hfits : Tour.Fits p (fuel + 1) ⟨(i, start) :: todo, seen, threads⟩) :
    ∃ v : Tour, Tour.finish p prev text.head? (fuel + 1) ⟨(i, start) :: todo, seen, threads⟩
        = Tour.finish p prev text.head? fuel v ∧
      v.Fits p fuel ∧ v.Alike p prev text ⟨(i, start) :: todo, seen, threads⟩ := by
  have hi : p.insts[i]? ≠ some .accept := fun hacc => h (.accept hacc)
  have hrest : Tour.Alike p prev text ⟨todo, seen, threads⟩ ⟨(i, start) :: todo, seen, threads⟩ :=
    ⟨(liveEntries_cons_dead h todo).symm, fun _ _ => Iff.rfl, rfl⟩
  rw [finish_cons]
  by_cases hseen : seen.has i = true
  · exact ⟨⟨todo, seen, threads⟩, if_pos hseen, hfits.drop, hrest⟩
  · refine ⟨Tour.visit p prev text.head? i start ⟨todo, seen, threads⟩, ?_, ?_, ?_⟩
    · rw [if_neg hseen, if_neg hi]
    · exact hfits.visit hseen prev text.head?
    · exact (visit_dead h).trans hrest

/-- Two walks end alike: they meet the same `accept`, and find the same live threads. -/
def EndAlike (p : Program) (text : Text) (f f' : Front) : Prop :=
  f.accepted = f'.accepted ∧ p.liveThreads text f.threads = p.liveThreads text f'.threads

/-- What has been found is listed the other way round, the live ones among it too. -/
theorem liveThreads_reverse {threads threads' : List Thread}
    (h : p.liveThreads text threads = p.liveThreads text threads') :
    p.liveThreads text threads.reverse = p.liveThreads text threads'.reverse := by
  simp only [liveThreads, List.filter_reverse] at h ⊢
  rw [h]

/-- Tours that are alike and begin with live entries begin with the same one.  Both end at it, or
    go on from it with less fuel, alike. -/
theorem finish_live {fuel fuel' i j start start' : Nat} {todo todo' : List (Nat × Nat)}
    {seen seen' : Seen} {threads threads' : List Thread} (hi : p.Live prev text i)
    (hj : p.Live prev text j)
    (hw : Tour.Fits p (fuel + 1) ⟨(i, start) :: todo, seen, threads⟩)
    (hv : Tour.Fits p (fuel' + 1) ⟨(j, start') :: todo', seen', threads'⟩)
    (h : Tour.Alike p prev text ⟨(i, start) :: todo, seen, threads⟩
      ⟨(j, start') :: todo', seen', threads'⟩)
    (next : ∀ w v : Tour, w.Fits p fuel → v.Fits p fuel' → w.Alike p prev text v →
      p.EndAlike text (Tour.finish p prev text.head? fuel w)
        (Tour.finish p prev text.head? fuel' v)) :
    p.EndAlike text
      (Tour.finish p prev text.head? (fuel + 1) ⟨(i, start) :: todo, seen, threads⟩)
      (Tour.finish p prev text.head? (fuel' + 1) ⟨(j, start') :: todo', seen', threads'⟩) := by
  have htodo := h.todo
  rw [liveEntries_cons_live hi, liveEntries_cons_live hj, List.cons.injEq, Prod.mk.injEq] at htodo
  obtain ⟨⟨rfl, rfl⟩, htodo⟩ := htodo
  have hrest : Tour.Alike p prev text ⟨todo, seen, threads⟩ ⟨todo', seen', threads'⟩ :=
    ⟨htodo, h.seen, h.threads⟩
  have hsame : seen.has i = true ↔ seen'.has i = true := h.seen i hi
  rw [finish_cons, finish_cons]
  -- both have met the instruction, or neither has, for it is live
  by_cases hseen : seen.has i = true
  · rw [if_pos hseen, if_pos (hsame.mp hseen)]
    exact next _ _ hw.drop hv.drop hrest
  · have hseen' : ¬seen'.has i = true := mt hsame.mpr hseen
    rw [if_neg hseen, if_neg hseen']
    by_cases hacc : p.insts[i]? = some .accept
    · rw [if_pos hacc, if_pos hacc]
      exact ⟨rfl, liveThreads_reverse h.threads⟩
    · rw [if_neg hacc, if_neg hacc]
      exact next _ _ (hw.visit hseen prev text.head?) (hv.visit hseen' prev text.head?)
        (hrest.visit (hw.size.trans hv.size.symm) text.head? i start)

/-- **Dead instructions do not count.**  Tours that are alike end alike.  The induction is on the
    steps that both may take together: a dead entry costs one of them a step, a live one costs
    both. -/
theorem finish_alike (n : Nat) : ∀ (fuel fuel' : Nat) (w v : Tour), fuel + fuel' ≤ n →
    w.Fits p fuel → v.Fits p fuel' → w.Alike p prev text v →
    p.EndAlike text (Tour.finish p prev text.head? fuel w)
      (Tour.finish p prev text.head? fuel' v) := by
  induction n with
  | zero =>
    rintro fuel fuel' ⟨_ | ⟨e, todo⟩, seen, threads⟩ ⟨_ | ⟨e', todo'⟩, seen', threads'⟩ hn hw hv
      halike
    · rw [finish_nil, finish_nil]
      exact ⟨rfl, liveThreads_reverse halike.threads⟩
    · obtain ⟨m, rfl⟩ := hv.fuel_pos
      omega
    · obtain ⟨m, rfl⟩ := hw.fuel_pos
      omega
    · obtain ⟨m, rfl⟩ := hw.fuel_pos
      omega
  | succ n ih =>
    rintro fuel fuel' ⟨_ | ⟨⟨i, start⟩, todo⟩, seen, threads⟩
      ⟨_ | ⟨⟨j, start'⟩, todo'⟩, seen', threads'⟩ hn hw hv halike
    · rw [finish_nil, finish_nil]
      exact ⟨rfl, liveThreads_reverse halike.threads⟩
    · -- nothing is left on the left side, so what is left on the right is dead
      obtain ⟨m, rfl⟩ := hv.fuel_pos
      obtain ⟨v', heq, hv', halike'⟩ := finish_dead halike.dead_of_nil hv
      rw [heq]
      exact ih fuel m _ v' (by omega) hw hv' (halike.trans halike'.symm)
    · obtain ⟨m, rfl⟩ := hw.fuel_pos
      obtain ⟨w', heq, hw', halike'⟩ := finish_dead halike.symm.dead_of_nil hw
      rw [heq]
      exact ih m fuel' w' _ (by omega) hw' hv (halike'.trans halike)
    · obtain ⟨m, rfl⟩ := hw.fuel_pos
      obtain ⟨m', rfl⟩ := hv.fuel_pos
      by_cases hi : p.Live prev text i
      · by_cases hj : p.Live prev text j
        · -- the only step that both walks take together
          exact finish_live hi hj hw hv halike fun w v hw hv => ih m m' w v (by omega) hw hv
        · obtain ⟨v', heq, hv', halike'⟩ := finish_dead hj hv
          rw [heq]
          exact ih (m + 1) m' _ v' (by omega) hw hv' (halike.trans halike'.symm)
      · obtain ⟨w', heq, hw', halike'⟩ := finish_dead hi hw
        rw [heq]
        exact ih m (m' + 1) w' _ (by omega) hw' hv (halike'.trans halike)

/-- The tour that a place begins with. -/
def Tour.start (p : Program) (todo : List (Nat × Nat)) : Tour := ⟨todo, .none p.insts.size, []⟩

/-- The fuel that a place walks with is enough for its tour. -/
theorem fits_start (p : Program) (todo : List (Nat × Nat)) :
    (Tour.start p todo).Fits p (todo.length + 2 * p.insts.size + 1) := by
  refine ⟨?_, Array.size_replicate⟩
  simp only [Tour.budget, Tour.start, Seen.none, Array.count_replicate_self]
  omega

/-- At the beginning of a tour no instruction has been met. -/
theorem not_has_start (p : Program) (todo : List (Nat × Nat)) (i : Nat) :
    (Tour.start p todo).seen.has i ≠ true := by
  simp only [Tour.start, Seen.none, Seen.has, Array.getD_eq_getD_getElem?, Array.getElem?_replicate]
  split <;> exact Bool.false_ne_true

/-- Instructions with the same live ones among them lead to the same `accept` and the same live
    threads. -/
theorem front_alike {todo todo' : List (Nat × Nat)}
    (h : p.liveEntries prev text todo = p.liveEntries prev text todo') :
    p.EndAlike text (p.front prev text.head? todo) (p.front prev text.head? todo') :=
  finish_alike _ _ _ (Tour.start p todo) (Tour.start p todo') (Nat.le_refl _) (fits_start p todo)
    (fits_start p todo') ⟨h, fun _ _ => Iff.rfl, rfl⟩

end Program

end Highlight
