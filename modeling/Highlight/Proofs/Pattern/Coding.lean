/-
  Programs read what their expressions read.

  `Program.Accepts` is a way through a program, from an instruction at one spot to an `accept` at
  another, with the number of its steps.  The crux is to say of each piece of code how the ways
  from its entry are related to the ways from the instruction that it was put in front of (`Codes`):
  they begin with what the piece reads.  The compiler is then correct piece by piece
  (`compile_codes`), and only loops need the number of steps.

  1. **Instructions** — compiling leaves the instructions alone that are there already
     (`compile_extends`).

  2. **Ways** — an instruction is live where some way leads from it to an `accept` (`Accepts.live`).

  3. **Pieces of code** — `Codes` for what is put one after the other (`Codes.trans`), for branches
     (`Codes.branch`), copies, options and loops.

  4. **The compiler** — `compile_codes`, by induction on the expression.

  Main result: `accepts_program_iff`.
-/
import Highlight.Proofs.Pattern.Liveness
import Highlight.Proofs.Pattern.Meaning

namespace Highlight

open Text (Spot)
open Regex (Code emit branch copies options loop compile)

/-! ## Compiling leaves alone what is there

  The compiler adds instructions behind those that are there, and fills in the branch of a loop once
  it has the loop's body.  So a piece that has been compiled stays as it is, and what is proved of
  its code holds of the whole program. -/

namespace Regex

/-- Instructions with some more behind them. -/
def Extends (insts more : Array Inst) : Prop :=
  ∀ (i : Nat) (inst : Inst), insts[i]? = some inst → more[i]? = some inst

theorem Extends.refl (insts : Array Inst) : Extends insts insts := fun _ _ h => h

theorem Extends.trans {a b c : Array Inst} (h : Extends a b) (h' : Extends b c) : Extends a c :=
  fun i inst hi => h' i inst (h i inst hi)

/-- An instruction is put behind those that are there. -/
theorem emit_extends (insts : Array Inst) (inst : Inst) : Extends insts (emit insts inst).2 := by
  intro i inst' hi
  obtain ⟨hlt, -⟩ := Array.getElem?_eq_some_iff.mp hi
  rw [emit, Array.getElem?_push_lt hlt, ← hi, Array.getElem?_eq_getElem hlt]

/-- And is found where it was put. -/
theorem emit_self (insts : Array Inst) (inst : Inst) :
    (emit insts inst).2[(emit insts inst).1]? = some inst := Array.getElem?_push_size

section Pieces

variable {piece : Nat → Array Inst → Code}
  (hpiece : ∀ next insts, Extends insts (piece next insts).2)

include hpiece

/-- So it is with several copies of a piece. -/
theorem copies_extends (n next : Nat) (insts : Array Inst) :
    Extends insts (copies piece n next insts).2 := by
  induction n generalizing next insts with
  | zero => exact .refl insts
  | succ n ih => exact (hpiece next insts).trans (ih _ _)

theorem options_extends (greedy : Bool) (leave n next : Nat) (insts : Array Inst) :
    Extends insts (options piece greedy leave n next insts).2 := by
  induction n generalizing next insts with
  | zero => exact .refl insts
  | succ n ih => exact ((hpiece next insts).trans (emit_extends _ _)).trans (ih _ _)

/-- The branch of a loop is filled in behind all that was there before. -/
theorem loop_extends (greedy : Bool) (next : Nat) (insts : Array Inst) :
    Extends insts (loop piece greedy next insts).2.2 := by
  intro i inst hi
  obtain ⟨hlt, -⟩ := Array.getElem?_eq_some_iff.mp hi
  have hbody :=
    (emit_extends insts .accept).trans (hpiece insts.size (emit insts .accept).2) i inst hi
  show ((piece insts.size (emit insts .accept).2).2.setIfInBounds insts.size _)[i]? = some inst
  rw [Array.getElem?_setIfInBounds_ne (by omega)]
  exact hbody

end Pieces

/-- **Compiling leaves the instructions alone that are there already.** -/
theorem compile_extends (r : Regex) (next : Nat) (insts : Array Inst) :
    Extends insts (compile r next insts).2 := by
  induction r generalizing next insts with
  | empty => exact .refl insts
  | set s => exact emit_extends insts _
  | look l => exact emit_extends insts _
  | cat a b iha ihb => exact (ihb next insts).trans (iha _ _)
  | alt a b iha ihb => exact ((ihb next insts).trans (iha next _)).trans (emit_extends _ _)
  | group r ih => exact ih next insts
  | repetition r min max greedy ih =>
    cases max with
    | some max => exact (options_extends ih _ _ _ _ _).trans (copies_extends ih _ _ _)
    | none =>
      have hloop := loop_extends ih greedy next insts
      cases min with
      | zero =>
        rw [compile]
        simp only
        split
        · exact hloop
        · exact hloop.trans (emit_extends _ _)
      | succ n => exact hloop.trans (copies_extends ih _ _ _)

end Regex

open Regex (Extends Rounds)

namespace Program

/-! ## Ways

  Ways count their steps.  Only a loop needs that: its body leads back to its own branch, and the
  rest of such a way is shorter. -/

/-- From an instruction at a spot some way of `n` steps leads to an `accept` at another spot. -/
inductive Accepts (p : Program) : (n : Nat) → (i : Nat) → Spot → Spot → Prop
  | accept {i : Nat} {s : Spot} (h : p.insts[i]? = some .accept) : Accepts p 0 i s s
  | check {n i j : Nat} {look : Look} {s t : Spot} (h : p.insts[i]? = some (.check look j))
      (hlook : look.holds s.before.getLast? s.after.head? = true) (hn : Accepts p n j s t) :
      Accepts p (n + 1) i s t
  | left {n i a b : Nat} {s t : Spot} (h : p.insts[i]? = some (.fork a b))
      (ha : Accepts p n a s t) : Accepts p (n + 1) i s t
  | right {n i a b : Nat} {s t : Spot} (h : p.insts[i]? = some (.fork a b))
      (hb : Accepts p n b s t) : Accepts p (n + 1) i s t
  | take {n i j : Nat} {set : CharSet} {c : Char} {s u t : Spot}
      (h : p.insts[i]? = some (.take set j)) (hc : set.contains c = true) (hu : s.Passes [c] u)
      (hn : Accepts p n j u t) : Accepts p (n + 1) i s t

variable {p : Program} {n i : Nat} {s t : Spot}

/-- An instruction is live at a spot if some way leads from there to an `accept`. -/
theorem Accepts.live (h : p.Accepts n i s t) : p.Live s.before.getLast? s.after i := by
  induction h with
  | accept h => exact .accept h
  | check h hlook hn ih => exact .check h hlook ih
  | left h ha ih => exact .left h ih
  | right h hb ih => exact .right h ih
  | @take n i j set c s u t h hc hu hn ih =>
    rw [hu.2, List.getLast?_concat] at ih
    rw [hu.1]
    exact .take h hc ih

/-- A way from a branch is one from either side, whichever is preferred. -/
theorem accepts_branch_iff {m a b : Nat} {greedy : Bool}
    (hinst : p.insts[i]? = some (branch greedy a b)) :
    p.Accepts m i s t ↔ ∃ n, m = n + 1 ∧ (p.Accepts n a s t ∨ p.Accepts n b s t) := by
  -- which side is preferred tells only in which order they are tried
  have hfork : ∀ {a b}, p.insts[i]? = some (.fork a b) →
      (p.Accepts m i s t ↔ ∃ n, m = n + 1 ∧ (p.Accepts n a s t ∨ p.Accepts n b s t)) := by
    intro a b hinst
    constructor
    · intro hway
      cases hway with
      | @left n _ _ _ _ _ h hway =>
        obtain ⟨rfl, rfl⟩ := Inst.fork.inj (Option.some.inj (hinst.symm.trans h))
        exact ⟨n, rfl, .inl hway⟩
      | @right n _ _ _ _ _ h hway =>
        obtain ⟨rfl, rfl⟩ := Inst.fork.inj (Option.some.inj (hinst.symm.trans h))
        exact ⟨n, rfl, .inr hway⟩
      | accept h | check h | take h => exact absurd (hinst.symm.trans h) (by simp)
    · rintro ⟨n, rfl, hway | hway⟩
      · exact .left hinst hway
      · exact .right hinst hway
  cases greedy with
  | true => exact hfork hinst
  | false => exact (hfork hinst).trans (by simp only [Or.comm])

/-! ## Pieces of code

  What a piece of code reads is said relative to what it was put in front of, `next`: a way from its
  entry is a reading, and then a way from `next`.  So pieces that are put in front of each other
  read one after the other, with nothing to be proved about addresses. -/

/-- The ways from `entry` read as `R` says, and go on as those from `next` do, with no more
    steps. -/
structure Codes (p : Program) (R : Spot → Spot → Prop) (entry next : Nat) : Prop where
  sound {n : Nat} {s t : Spot} (h : p.Accepts n entry s t) :
    ∃ u m, m ≤ n ∧ R s u ∧ p.Accepts m next u t
  complete {m : Nat} {s u t : Spot} (hu : R s u) (h : p.Accepts m next u t) :
    ∃ n, p.Accepts n entry s t

namespace Codes

variable {R R' : Spot → Spot → Prop} {entry middle next other : Nat} {greedy : Bool}

theorem refl (p : Program) (i : Nat) : p.Codes (fun s t => t = s) i i where
  sound h := ⟨_, _, Nat.le_refl _, rfl, h⟩
  complete hu h := ⟨_, hu ▸ h⟩

theorem congr (h : p.Codes R entry next) (hR : ∀ s t, R s t ↔ R' s t) : p.Codes R' entry next where
  sound hway := by
    obtain ⟨u, m, hm, hu, hrest⟩ := h.sound hway
    exact ⟨u, m, hm, (hR _ _).mp hu, hrest⟩
  complete hu hrest := h.complete ((hR _ _).mpr hu) hrest

/-- What is put in front of a piece of code reads first. -/
theorem trans (h : p.Codes R entry middle) (h' : p.Codes R' middle next) :
    p.Codes (fun s t => ∃ u, R s u ∧ R' u t) entry next where
  sound hway := by
    obtain ⟨u, m, hm, hu, hmiddle⟩ := h.sound hway
    obtain ⟨v, k, hk, hv, hrest⟩ := h'.sound hmiddle
    exact ⟨v, k, Nat.le_trans hk hm, ⟨u, hu, hv⟩, hrest⟩
  complete huv hrest := by
    obtain ⟨u, hu, hv⟩ := huv
    obtain ⟨k, hmiddle⟩ := h'.complete hv hrest
    exact h.complete hu hmiddle

/-- An instruction that takes a character passes one of its set. -/
theorem take {set : CharSet} (hinst : p.insts[entry]? = some (.take set next)) :
    p.Codes (fun s t => ∃ c, set.contains c = true ∧ s.Passes [c] t) entry next where
  sound hway := by
    cases hway with
    | @take n _ j set' c _ u _ h hc hu hrest =>
      obtain ⟨rfl, rfl⟩ := Inst.take.inj (Option.some.inj (hinst.symm.trans h))
      exact ⟨u, n, Nat.le_succ n, ⟨c, hc, hu⟩, hrest⟩
    | accept h | check h | left h | right h => exact absurd (hinst.symm.trans h) (by simp)
  complete hu hrest := by
    obtain ⟨c, hc, hu⟩ := hu
    exact ⟨_, .take hinst hc hu hrest⟩

/-- An instruction that checks passes nothing, and holds where it leads on. -/
theorem check {look : Look} (hinst : p.insts[entry]? = some (.check look next)) :
    p.Codes (fun s t => look.holds s.before.getLast? s.after.head? = true ∧ t = s) entry next where
  sound hway := by
    cases hway with
    | @check n _ j look' _ _ h hlook hrest =>
      obtain ⟨rfl, rfl⟩ := Inst.check.inj (Option.some.inj (hinst.symm.trans h))
      exact ⟨_, n, Nat.le_succ n, ⟨hlook, rfl⟩, hrest⟩
    | accept h | take h | left h | right h => exact absurd (hinst.symm.trans h) (by simp)
  complete hu hrest := by
    obtain ⟨hlook, rfl⟩ := hu
    exact ⟨_, .check hinst hlook hrest⟩

/-- A branch reads what either side reads, whichever is preferred. -/
theorem branch (ha : p.Codes R entry next) (hb : p.Codes R' other next)
    (hinst : p.insts[i]? = some (branch greedy entry other)) :
    p.Codes (fun s t => R s t ∨ R' s t) i next where
  sound hway := by
    obtain ⟨n, rfl, hside⟩ := (accepts_branch_iff hinst).mp hway
    rcases hside with hway | hway
    · obtain ⟨u, m, hm, hu, hrest⟩ := ha.sound hway
      exact ⟨u, m, by omega, .inl hu, hrest⟩
    · obtain ⟨u, m, hm, hu, hrest⟩ := hb.sound hway
      exact ⟨u, m, by omega, .inr hu, hrest⟩
  complete hu hrest := by
    rcases hu with hu | hu
    · obtain ⟨n, hway⟩ := ha.complete hu hrest
      exact ⟨n + 1, (accepts_branch_iff hinst).mpr ⟨n, rfl, .inl hway⟩⟩
    · obtain ⟨n, hway⟩ := hb.complete hu hrest
      exact ⟨n + 1, (accepts_branch_iff hinst).mpr ⟨n, rfl, .inr hway⟩⟩

/-- **A piece that ends at a branch back to it reads in rounds.**  The ways from the branch get
    shorter with each round. -/
theorem loop (h : p.Codes R entry i) (hinst : p.insts[i]? = some (Regex.branch greedy entry next)) :
    p.Codes (fun s t => ∃ n, Rounds R n s t) i next where
  sound {n s t} hway := by
    induction n using Nat.strong_induction_on generalizing s with
    | _ n ih =>
      obtain ⟨m, rfl, hway | hway⟩ := (accepts_branch_iff hinst).mp hway
      · -- the body comes back to the branch, with fewer steps left
        obtain ⟨u, k, hk, hu, hagain⟩ := h.sound hway
        obtain ⟨v, l, hl, ⟨rounds, hrounds⟩, hrest⟩ := ih k (by omega) hagain
        exact ⟨v, l, by omega, ⟨rounds + 1, u, hu, hrounds⟩, hrest⟩
      · exact ⟨s, m, Nat.le_succ m, ⟨0, rfl⟩, hway⟩
  complete {m s u t} hu hrest := by
    obtain ⟨rounds, hrounds⟩ := hu
    induction rounds generalizing s with
    | zero =>
      obtain rfl : u = s := hrounds
      exact ⟨m + 1, (accepts_branch_iff hinst).mpr ⟨m, rfl, .inr hrest⟩⟩
    | succ rounds ih =>
      obtain ⟨v, hv, hrounds⟩ := hrounds
      obtain ⟨n, hagain⟩ := ih hrounds
      obtain ⟨k, hway⟩ := h.complete hv hagain
      exact ⟨k + 1, (accepts_branch_iff hinst).mpr ⟨k, rfl, .inl hway⟩⟩

end Codes

end Program

/-! ## The compiler

  One lemma for every kind of repetition, and then the induction on the expression.  Repetitions are
  made of copies of their body, of options and of loops, as their bounds ask for. -/

namespace Regex

open Program (Codes)

/-- A program has the instructions that were added from an address on. -/
def Holds (p : Program) (address : Nat) (insts : Array Inst) : Prop :=
  ∀ (i : Nat) (inst : Inst), address ≤ i → insts[i]? = some inst → p.insts[i]? = some inst

/-- A list of instructions that only gets longer. -/
theorem Extends.size_le {a b : Array Inst} (h : Extends a b) : a.size ≤ b.size := by
  rcases Nat.eq_zero_or_pos a.size with hzero | hpos
  · omega
  · obtain ⟨hlt, -⟩ := Array.getElem?_eq_some_iff.mp
      (h (a.size - 1) _ (Array.getElem?_eq_getElem (by omega)))
    omega

variable {p : Program} {address further : Nat} {insts more : Array Inst}

/-- What was added before more was added is there too. -/
theorem Holds.of_extends (h : Holds p address more) (hext : Extends insts more) :
    Holds p address insts := fun i inst hi hinst => h i inst hi (hext i inst hinst)

/-- What was added last is there. -/
theorem Holds.later (h : Holds p address more) (hle : address ≤ further) : Holds p further more :=
  fun i inst hi hinst => h i inst (Nat.le_trans hle hi) hinst

/-- The instruction that was added last is there. -/
theorem Holds.emitted {inst : Inst} (h : Holds p address (emit insts inst).2)
    (hle : address ≤ insts.size) : p.insts[(emit insts inst).1]? = some inst :=
  h _ inst hle (emit_self insts inst)

section Pieces

variable {piece : Nat → Array Inst → Code} {R : Spot → Spot → Prop} {greedy : Bool}
  {leave next : Nat} {n j : Nat}

variable (hext : ∀ next insts, Extends insts (piece next insts).2)
  (hpiece : ∀ next insts, Holds p insts.size (piece next insts).2 →
    p.Codes R (piece next insts).1 next)

include hext hpiece

/-- Copies of a piece read its rounds, by induction on their number. -/
theorem copies_codes (h : Holds p insts.size (copies piece n next insts).2) :
    p.Codes (Rounds R n) (copies piece n next insts).1 next := by
  induction n generalizing next insts with
  | zero => exact .refl p next
  | succ n ih =>
    have hfirst := hext next insts
    have hrest := copies_extends hext n (piece next insts).1 (piece next insts).2
    have hpieces := (ih (h.later hfirst.size_le)).trans (hpiece _ _ (h.of_extends hrest))
    refine hpieces.congr fun s t => ?_
    rw [rounds_add]
    simp only [rounds_one]

/-- The rounds before an option come before those that may follow. -/
theorem options_codes (h : Holds p insts.size (options piece greedy leave n next insts).2)
    (hnext : p.Codes (UpTo R j) next leave) :
    p.Codes (UpTo R (j + n)) (options piece greedy leave n next insts).1 leave := by
  induction n generalizing next insts j with
  | zero => exact hnext
  | succ n ih =>
    have hfirst := hext next insts
    have hfork := emit_extends (piece next insts).2 (branch greedy (piece next insts).1 leave)
    have hrest := options_extends hext greedy leave n
      (emit (piece next insts).2 (branch greedy (piece next insts).1 leave)).1
      (emit (piece next insts).2 (branch greedy (piece next insts).1 leave)).2
    -- to enter the piece is to read one round more, to leave is to read none
    have henter := (hpiece next insts (h.of_extends (hfork.trans hrest))).trans hnext
    have hbranch := henter.branch (.refl p leave)
      ((h.of_extends hrest).emitted hfirst.size_le)
    have hcodes := ih (h.later (hfirst.trans hfork).size_le)
      (hbranch.congr fun s t => by rw [upTo_succ, Or.comm])
    rw [Nat.add_right_comm] at hcodes
    exact hcodes

/-- The body of a loop ends at the loop's branch, which leads back to it or on to `next`. -/
theorem loop_codes (h : Holds p insts.size (loop piece greedy next insts).2.2) :
    p.Codes R (loop piece greedy next insts).1 (loop piece greedy next insts).2.1 ∧
      p.insts[(loop piece greedy next insts).2.1]?
        = some (branch greedy (loop piece greedy next insts).1 next) := by
  have hbody := (hext insts.size (emit insts .accept).2).size_le
  have hsize : (emit insts .accept).2.size = insts.size + 1 := Array.size_push _
  constructor
  · -- the branch is filled in below the body
    refine hpiece insts.size (emit insts .accept).2 fun i inst hi hinst => ?_
    refine h i inst (by omega) ?_
    show ((piece insts.size (emit insts .accept).2).2.setIfInBounds insts.size _)[i]? = some inst
    rw [Array.getElem?_setIfInBounds_ne (by omega)]
    exact hinst
  · refine h insts.size _ (Nat.le_refl _) ?_
    show ((piece insts.size (emit insts .accept).2).2.setIfInBounds insts.size _)[insts.size]? = _
    rw [Array.getElem?_setIfInBounds_self_of_lt (by omega)]
    rfl

/-- Copies that have to be read before options that may be. -/
theorem bounded_codes (min max : Nat)
    (h : Holds p insts.size (copies piece min (options piece greedy next (max - min) next insts).1
      (options piece greedy next (max - min) next insts).2).2) :
    p.Codes (fun s t => ∃ n, min ≤ n ∧ n ≤ Nat.max min max ∧ Rounds R n s t)
      (copies piece min (options piece greedy next (max - min) next insts).1
        (options piece greedy next (max - min) next insts).2).1 next := by
  have hoptions := options_extends hext greedy next (max - min) next insts
  have hcopies := copies_extends hext min (options piece greedy next (max - min) next insts).1
    (options piece greedy next (max - min) next insts).2
  have hnone : p.Codes (UpTo R 0) next next :=
    (Codes.refl p next).congr fun s t => by simp [UpTo, Rounds]
  have hmore := options_codes hext hpiece (h.of_extends hcopies) hnone
  rw [Nat.zero_add] at hmore
  refine ((copies_codes hext hpiece (h.later hoptions.size_le)).trans hmore).congr fun s t => ?_
  refine (rounds_then (· ≤ max - min)).trans (exists_congr fun n => ?_)
  have hmost : Nat.max min max = min + (max - min) := by
    show Max.max min max = min + (max - min)
    omega
  rw [hmost]
  exact and_congr_right fun hmin => and_congr_left' (by omega)

/-- Copies before a loop, whose body is read at least once. -/
theorem unbounded_codes (min : Nat)
    (h : Holds p insts.size (copies piece min (loop piece greedy next insts).1
      (loop piece greedy next insts).2.2).2) :
    p.Codes (fun s t => ∃ n, min + 1 ≤ n ∧ Rounds R n s t)
      (copies piece min (loop piece greedy next insts).1 (loop piece greedy next insts).2.2).1
      next := by
  have hloop := loop_extends hext greedy next insts
  have hcopies := copies_extends hext min (loop piece greedy next insts).1
    (loop piece greedy next insts).2.2
  obtain ⟨hbody, hbranch⟩ := loop_codes hext hpiece (h.of_extends hcopies)
  have hrounds := hbody.trans (hbody.loop hbranch)
  refine ((copies_codes hext hpiece (h.later hloop.size_le)).trans hrounds).congr fun s t => ?_
  simp only [rounds_pos]
  refine (rounds_then (1 ≤ ·)).trans (exists_congr fun n => ?_)
  rw [← and_assoc]
  exact and_congr_left' (by omega)

/-- A loop that is entered through a branch of its own. -/
theorem optional_codes
    (h : Holds p insts.size (emit (loop piece greedy next insts).2.2
      (branch greedy (loop piece greedy next insts).1 next)).2) :
    p.Codes (fun s t => ∃ n, Rounds R n s t) (emit (loop piece greedy next insts).2.2
      (branch greedy (loop piece greedy next insts).1 next)).1 next := by
  have hloop := loop_extends hext greedy next insts
  obtain ⟨hbody, hbranch⟩ := loop_codes hext hpiece (h.of_extends (emit_extends _ _))
  have hrounds := hbody.trans (hbody.loop hbranch)
  refine (hrounds.branch (.refl p next) (h.emitted hloop.size_le)).congr fun s t => ?_
  rw [Or.comm, rounds_any]

end Pieces

/-- **The code of an expression reads what the expression reads**, by induction on the
    expression. -/
theorem compile_codes (r : Regex) (next : Nat) (insts : Array Inst)
    (h : Holds p insts.size (compile r next insts).2) :
    p.Codes r.Reads (compile r next insts).1 next := by
  induction r generalizing next insts with
  | empty => exact .refl p next
  | set s => exact .take (h.emitted (Nat.le_refl _))
  | look l => exact .check (h.emitted (Nat.le_refl _))
  | cat a b iha ihb =>
    -- the code of `a` is put in front of that of `b`, and leads to it
    have hb := compile_extends b next insts
    have ha := compile_extends a (compile b next insts).1 (compile b next insts).2
    exact (iha _ _ (h.later hb.size_le)).trans (ihb _ _ (h.of_extends ha))
  | alt a b iha ihb =>
    have hb := compile_extends b next insts
    have ha := compile_extends a next (compile b next insts).2
    -- both sides are in front of `next`, and the branch is put last
    have hfork := emit_extends (compile a next (compile b next insts).2).2
      (.fork (compile a next (compile b next insts).2).1 (compile b next insts).1)
    have hpreferred := iha next _ ((h.of_extends hfork).later hb.size_le)
    have hother := ihb next _ (h.of_extends (ha.trans hfork))
    have hinst : p.insts[(compile (.alt a b) next insts).1]? = some (branch true _ _) :=
      h.emitted (hb.trans ha).size_le
    exact hpreferred.branch hother hinst
  | group r ih => exact ih next insts h
  | repetition r min max greedy ih =>
    have hext : ∀ next insts, Extends insts (compile r next insts).2 := compile_extends r
    -- copies and options, copies and a loop, or a loop that may be left at once
    match min, max with
    | min, some max => exact (bounded_codes hext ih min max h).congr fun s t => by simp [Reads]
    | min + 1, none => exact (unbounded_codes hext ih min h).congr fun s t => by simp [Reads]
    | 0, none =>
      have hreads : ∀ s t, (∃ n, Rounds r.Reads n s t)
          ↔ (repetition r 0 none greedy).Reads s t := fun s t => by simp [Reads]
      simp only [compile] at h ⊢
      by_cases hconsumes : r.consumes = true
      · rw [if_pos hconsumes] at h ⊢
        obtain ⟨hbody, hbranch⟩ := loop_codes hext ih h
        exact (hbody.loop hbranch).congr hreads
      · rw [if_neg hconsumes] at h ⊢
        exact (optional_codes hext ih h).congr hreads

end Regex

namespace Program

/-- **A program accepts what its expression reads.** -/
theorem accepts_program_iff {r : Regex} {s t : Spot} :
    (∃ n, r.program.Accepts n r.program.start s t) ↔ r.Reads s t := by
  have hholds : Regex.Holds r.program (#[.accept] : Array Inst).size r.program.insts :=
    fun _ _ _ h => h
  have hcodes : r.program.Codes r.Reads r.program.start 0 := Regex.compile_codes r 0 _ hholds
  have haccept : r.program.insts[0]? = some .accept :=
    Regex.compile_extends r 0 #[.accept] 0 .accept rfl
  constructor
  · rintro ⟨n, hway⟩
    obtain ⟨u, m, -, hu, hrest⟩ := hcodes.sound hway
    cases hrest with
    | accept _ => exact hu
    | check h | take h | left h | right h => exact absurd (haccept.symm.trans h) (by simp)
  · exact fun h => hcodes.complete h (.accept haccept)

end Program

end Highlight
