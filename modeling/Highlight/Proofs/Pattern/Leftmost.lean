/-
  The search of a program finds the leftmost match.

  `Program.search` moves the threads of all beginnings over the text together.  It stops early
  where only dead threads would follow, so it might as well go on (`run_step`).  Where the program's
  first instruction is live, the match found begins (`run_of_live`): later beginnings come after
  this one, and earlier ones would have been live themselves.  Where it is not live the place might
  as well be left out (`run_of_dead_cons`): its threads are all dead.

  From these two follows what a search says of other places: a match is found again from every
  place up to its beginning, and where nothing is found nothing is found further on
  (`Pattern.findAt_of_le`, `Pattern.findAt_eq_none_of_le`).  The ends of matches fall between
  characters (`Pattern.isBoundary_of_findAt`).
-/
import Highlight.Pattern
import Highlight.Proofs.Pattern.Front

namespace Highlight

namespace Program

variable {p : Program} {prev : Option Char} {text : Text}

/-! ## One place of a run

  A run keeps its threads in order of preference.  At each place it adds an entry of its own as long
  as no match is known, walks through all entries, and moves the threads it is left with over the
  next character. -/

/-- The entries that a place walks from: those of older threads, and a new one as long as no match
    is known. -/
def entries (p : Program) (restart : Bool) (off : Nat) (todo : List (Nat × Nat))
    (best : Option (Nat × Nat)) : List (Nat × Nat) :=
  if restart && best.isNone then todo ++ [(p.start, off)] else todo

/-- The best match behind a place. -/
def Front.best (f : Front) (off : Nat) (best : Option (Nat × Nat)) : Option (Nat × Nat) :=
  match f.accepted with
  | some start => some (start, off)
  | none => best

/-- The threads that a place leaves for the next one. -/
def leaves (p : Program) (restart : Bool) (prev : Option Char) (off : Nat)
    (todo : List (Nat × Nat)) (best : Option (Nat × Nat)) (c : Char) : List (Nat × Nat) :=
  advance c (p.front prev (some c) (p.entries restart off todo best)).threads

/-- The best match that is known behind a place. -/
def bestBehind (p : Program) (restart : Bool) (prev next : Option Char) (off : Nat)
    (todo : List (Nat × Nat)) (best : Option (Nat × Nat)) : Option (Nat × Nat) :=
  Front.best (p.front prev next (p.entries restart off todo best)) off best

theorem run_nil (p : Program) (restart : Bool) (prev : Option Char) (off : Nat)
    (todo : List (Nat × Nat)) (best : Option (Nat × Nat)) :
    p.run restart prev off todo best [] = p.bestBehind restart prev none off todo best := rfl

/-- One step of the search: it stops if nothing is left to be followed, or goes on behind the
    character. -/
theorem run_cons (p : Program) (restart : Bool) (prev : Option Char) (off : Nat)
    (todo : List (Nat × Nat)) (best : Option (Nat × Nat)) (c : Char) (rest : Text) :
    p.run restart prev off todo best (c :: rest)
      = if (p.leaves restart prev off todo best c).isEmpty
            && ((p.bestBehind restart prev (some c) off todo best).isSome || !restart)
        then p.bestBehind restart prev (some c) off todo best
        else p.run restart (some c) (off + c.utf8Size) (p.leaves restart prev off todo best c)
          (p.bestBehind restart prev (some c) off todo best) rest := rfl

/-- Over a character the live threads go to the live instructions. -/
theorem advance_liveThreads (p : Program) (c : Char) (rest : Text) (threads : List Thread) :
    p.liveEntries (some c) rest (advance c threads)
      = advance c (p.liveThreads (c :: rest) threads) := by
  induction threads with
  | nil => rfl
  | cons t threads ih =>
    have hlive : p.LiveThread (c :: rest) t ↔
        t.set.contains c = true ∧ p.Live (some c) rest t.next := by
      constructor
      · rintro ⟨c', rest', heq, hc, hn⟩
        obtain ⟨rfl, rfl⟩ := List.cons.inj heq
        exact ⟨hc, hn⟩
      · rintro ⟨hc, hn⟩
        exact ⟨c, rest, rfl, hc, hn⟩
    simp only [liveEntries, liveThreads, advance] at ih ⊢
    by_cases hc : t.set.contains c = true
    · by_cases hn : p.Live (some c) rest t.next
      · simp [hlive, hc, hn, ih]
      · simp [hlive, hc, hn, ih]
    · simp [hlive, hc, ih]

/-- The dead among the entries do not count at the next place either. -/
theorem liveEntries_advance_front {c : Char} {rest : Text} {todo todo' : List (Nat × Nat)}
    (h : p.liveEntries prev (c :: rest) todo = p.liveEntries prev (c :: rest) todo') :
    p.liveEntries (some c) rest (advance c (p.front prev (some c) todo).threads)
      = p.liveEntries (some c) rest (advance c (p.front prev (some c) todo').threads) := by
  have hthreads : p.liveThreads (c :: rest) (p.front prev (some c) todo).threads
      = p.liveThreads (c :: rest) (p.front prev (some c) todo').threads := (front_alike h).2
  rw [advance_liveThreads, advance_liveThreads, hthreads]

/-- The best match depends on the live entries only. -/
theorem best_front_alike (text : Text) {todo todo' : List (Nat × Nat)} (off : Nat)
    (best : Option (Nat × Nat))
    (h : p.liveEntries prev text todo = p.liveEntries prev text todo') :
    Front.best (p.front prev text.head? todo) off best
      = Front.best (p.front prev text.head? todo') off best := by
  unfold Front.best
  rw [(front_alike h).1]

/-! ## Dead entries

  Whether an entry is live depends on the text that follows, which the search has not seen yet.
  Dead entries come to nothing, so runs that differ in these only come to the same. -/

/-- Entries that are all dead are as good as none. -/
theorem liveEntries_eq_liveEntries_nil {todo : List (Nat × Nat)}
    (h : p.liveEntries prev text todo = []) :
    p.liveEntries prev text todo = p.liveEntries prev text [] :=
  h.trans (liveEntries_eq_nil fun _ he => absurd he List.not_mem_nil).symm

/-- Dead entries find nothing. -/
theorem best_front_dead (text : Text) {todo : List (Nat × Nat)} (off : Nat)
    (best : Option (Nat × Nat)) (h : p.liveEntries prev text todo = []) :
    Front.best (p.front prev text.head? todo) off best = best :=
  best_front_alike text off best (liveEntries_eq_liveEntries_nil h)

/-- Once no thread is started any more, a place walks from the older threads only. -/
theorem entries_settled {restart : Bool} {best : Option (Nat × Nat)}
    (hbest : best.isSome = true ∨ restart = false) (off : Nat) (todo : List (Nat × Nat)) :
    p.entries restart off todo best = todo := by
  rcases hbest with hsome | hrestart
  · obtain ⟨m, rfl⟩ := Option.isSome_iff_exists.mp hsome
    simp [entries]
  · simp [entries, hrestart]

/-- Once no thread is started any more, dead entries lead to no match. -/
theorem run_of_all_dead {restart : Bool} {best : Option (Nat × Nat)}
    (hbest : best.isSome = true ∨ restart = false) (off : Nat) (todo : List (Nat × Nat))
    (h : p.liveEntries prev text todo = []) : p.run restart prev off todo best text = best := by
  induction text generalizing prev off todo with
  | nil =>
    rw [run_nil, bestBehind, entries_settled hbest]
    exact best_front_dead [] off best h
  | cons c rest ih =>
    have hf : p.bestBehind restart prev (some c) off todo best = best := by
      rw [bestBehind, entries_settled hbest]
      exact best_front_dead (c :: rest) off best h
    have hnext : p.liveEntries (some c) rest (p.leaves restart prev off todo best c) = [] := by
      rw [leaves, entries_settled hbest]
      exact liveEntries_advance_front (liveEntries_eq_liveEntries_nil h)
    rw [run_cons, hf]
    split
    · rfl
    · exact ih _ _ hnext

/-- **A run might as well go on where it stops.** -/
theorem run_step (p : Program) (restart : Bool) (prev : Option Char) (off : Nat)
    (todo : List (Nat × Nat)) (best : Option (Nat × Nat)) (c : Char) (rest : Text) :
    p.run restart prev off todo best (c :: rest)
      = p.run restart (some c) (off + c.utf8Size) (p.leaves restart prev off todo best c)
          (p.bestBehind restart prev (some c) off todo best) rest := by
  rw [run_cons]
  split
  · rename_i hstop
    rw [Bool.and_eq_true, List.isEmpty_iff] at hstop
    obtain ⟨hnil, hbest⟩ := hstop
    have hsettled : (p.bestBehind restart prev (some c) off todo best).isSome = true ∨
        restart = false := by
      simpa using hbest
    rw [hnil, run_of_all_dead hsettled _ _ rfl]
  · rfl

/-- The entry that is started adds the same to both sides. -/
theorem liveEntries_entries {todo todo' : List (Nat × Nat)}
    (h : p.liveEntries prev text todo = p.liveEntries prev text todo') (restart : Bool) (off : Nat)
    (best : Option (Nat × Nat)) :
    p.liveEntries prev text (p.entries restart off todo best)
      = p.liveEntries prev text (p.entries restart off todo' best) := by
  unfold entries
  split
  · simp only [liveEntries, List.filter_append] at h ⊢
    rw [h]
  · exact h

/-- **Dead entries can be left out.** -/
theorem run_congr {restart : Bool} (off : Nat) (best : Option (Nat × Nat))
    {todo todo' : List (Nat × Nat)}
    (h : p.liveEntries prev text todo = p.liveEntries prev text todo') :
    p.run restart prev off todo best text = p.run restart prev off todo' best text := by
  induction text generalizing prev off todo todo' best with
  | nil =>
    rw [run_nil, run_nil]
    exact best_front_alike [] off best (liveEntries_entries h restart off best)
  | cons c rest ih =>
    have hentries := liveEntries_entries h restart off best
    have hbest : p.bestBehind restart prev (some c) off todo best
        = p.bestBehind restart prev (some c) off todo' best :=
      best_front_alike (c :: rest) off best hentries
    rw [run_step, run_step, hbest]
    exact ih _ _ (liveEntries_advance_front hentries)

/-! ## Beginnings

  Every thread has the beginning of the entry it came from.  Older entries are preferred to those
  that begin later, so a live one decides where the match begins. -/

theorem advance_starts (P : Nat → Prop) {c : Char} {threads : List Thread}
    (h : ∀ t ∈ threads, P t.start) : ∀ e ∈ advance c threads, P e.2 := by
  intro e he
  obtain ⟨t, ht, hsome⟩ := List.mem_filterMap.mp he
  split at hsome
  · rw [← Option.some.inj hsome]
    exact h t ht
  · exact absurd hsome (by simp)

/-- Once a match is known that began where all threads began, so does the match found. -/
theorem run_settled {restart : Bool} {start : Nat} (off stop : Nat) (todo : List (Nat × Nat))
    (h : ∀ e ∈ todo, e.2 = start) :
    ∃ stop', p.run restart prev off todo (some (start, stop)) text = some (start, stop') := by
  have hbest : ∀ prev next off stop todo, (∀ e ∈ todo, e.2 = start) →
      ∃ stop', p.bestBehind restart prev next off todo (some (start, stop))
        = some (start, stop') := by
    intro prev next off stop todo h
    have haccepted := (front_starts (· = start) p prev next h).2
    rw [bestBehind, entries_settled (.inl rfl)]
    unfold Front.best
    split
    · rename_i s hacc
      exact ⟨off, by rw [haccepted s hacc]⟩
    · exact ⟨stop, rfl⟩
  induction text generalizing prev off stop todo with
  | nil => exact hbest prev none off stop todo h
  | cons c rest ih =>
    obtain ⟨stop', hstop'⟩ := hbest prev (some c) off stop todo h
    rw [run_step, hstop', leaves, entries_settled (.inl rfl)]
    exact ih _ stop' _ (advance_starts (· = start) (front_starts (· = start) p prev (some c) h).1)

/-- The entries of a place are those of the older threads, and then perhaps a younger one. -/
theorem exists_entries_append (p : Program) (restart : Bool) (off : Nat)
    (first later : List (Nat × Nat)) (best : Option (Nat × Nat)) :
    ∃ younger, p.entries restart off (first ++ later) best = first ++ younger := by
  unfold entries
  split
  · exact ⟨later ++ [(p.start, off)], List.append_assoc _ _ _⟩
  · exact ⟨later, rfl⟩

/-- A live entry that is preferred to all with other beginnings is where the match begins. -/
theorem run_of_firstLive {restart : Bool} {start : Nat} (off : Nat) (todo : List (Nat × Nat))
    (best : Option (Nat × Nat)) (mine younger : List (Nat × Nat))
    (hentries : p.entries restart off todo best = mine ++ younger)
    (hmine : ∀ e ∈ mine, e.2 = start) (hlive : ∃ i, (i, start) ∈ mine ∧ p.Live prev text i) :
    ∃ stop, p.run restart prev off todo best text = some (start, stop) := by
  induction text generalizing prev off todo best mine younger with
  | nil =>
    obtain ⟨i, hi, hl⟩ := hlive
    rw [run_nil, bestBehind, hentries]
    rcases front_firstLive younger hmine hi hl with
      ⟨hacc, -⟩ | ⟨first, later, -, -, t, -, c, rest, hnil, -⟩
    · rw [List.head?_nil] at hacc
      exact ⟨off, by rw [Front.best, hacc]⟩
    · exact absurd hnil.symm (List.cons_ne_nil c rest)
  | cons c rest ih =>
    obtain ⟨i, hi, hl⟩ := hlive
    rw [run_step, leaves, bestBehind, hentries]
    rcases front_firstLive younger hmine hi hl with
      ⟨hacc, hstarts⟩ | ⟨first, later, hthreads, hfirst, t, ht, htlive⟩
    · -- the match ends here unless a preferred thread finds another one, with the same beginning
      have hbest : Front.best (p.front prev (some c) (mine ++ younger)) off best
          = some (start, off) := by
        rw [List.head?_cons] at hacc
        rw [Front.best, hacc]
      rw [hbest]
      exact run_settled _ off _ (advance_starts (· = start) hstarts)
    · have hadvance : advance c (p.front prev (some c) (mine ++ younger)).threads
          = advance c first ++ advance c later := by
        rw [List.head?_cons] at hthreads
        rw [hthreads]
        exact List.filterMap_append
      obtain ⟨c', rest', heq, hc, hn⟩ := htlive
      obtain ⟨rfl, rfl⟩ := List.cons.inj heq
      have hmem : (t.next, start) ∈ advance c first :=
        List.mem_filterMap.mpr ⟨t, ht, by rw [if_pos hc, hfirst t ht]⟩
      rw [hadvance]
      obtain ⟨younger', hyounger'⟩ := exists_entries_append p restart (off + c.utf8Size)
        (advance c first) (advance c later)
        (Front.best (p.front prev (some c) (mine ++ younger)) off best)
      exact ih _ _ _ _ younger' hyounger' (advance_starts (· = start) hfirst) ⟨t.next, hmem, hn⟩

/-! ## The leftmost match

  What other files need of a run, said without threads: it finds a match that begins at the first
  place where the program's beginning is live. -/

/-- **Where the program's beginning is live, the match found begins.** -/
theorem run_of_live (off : Nat) (h : p.Live prev text p.start) :
    ∃ stop, p.run true prev off [] none text = some (off, stop) :=
  run_of_firstLive off [] none [(p.start, off)] [] rfl
    (fun e he => by rw [List.mem_singleton.mp he]) ⟨p.start, List.mem_singleton.mpr rfl, h⟩

/-- At the end of the text nothing is found where the program's beginning is dead. -/
theorem run_of_dead_nil (off : Nat) (h : ¬p.Live prev [] p.start) :
    p.run true prev off [] none [] = none := by
  rw [run_nil]
  exact best_front_dead [] off none (liveEntries_cons_dead h [])

/-- **Where the program's beginning is dead, the search might as well begin at the next place.** -/
theorem run_of_dead_cons {c : Char} {rest : Text} (off : Nat)
    (h : ¬p.Live prev (c :: rest) p.start) :
    p.run true prev off [] none (c :: rest)
      = p.run true (some c) (off + c.utf8Size) [] none rest := by
  have hdead : p.liveEntries prev (c :: rest) (p.entries true off [] none)
      = p.liveEntries prev (c :: rest) [] := liveEntries_cons_dead h []
  have hbest : p.bestBehind true prev (some c) off [] none = none :=
    best_front_dead (c :: rest) off none hdead
  rw [run_step, hbest]
  exact run_congr _ none (liveEntries_advance_front hdead)

end Program

end Highlight
