/-
  What the scan remembers of the constructs.

  1. **Soundness** — a starter is `Sound` at an offset when its match is what a search at an earlier
     offset, or at this one, has found.  It stays so as the scan goes on, and where it is not stale
     it is what a search right here would find (`Starter.Sound.next_eq`).

  2. **Hits** — so `firstHit` finds the construct that begins right here, though the starters behind
     the one that hits are not looked at (`firstHit_looked`).

  3. **Jumps** — where no construct begins, all starters have been looked at, and none begins before
     the nearest remembered match either (`nearest_spec`, `nearest_none`).

  What a starter is tried for does not change along the scan, so two lists of starters are compared
  by their keys, the kind of each with its pattern: `keysOf` lists those of a grammar, and a hit
  depends on nothing else (`hitOf`).
-/
import Highlight.Proofs.Scan.Plain

namespace Highlight

namespace Scan

open Plain (matchAt beginning)

/-! ## What is remembered

  A search from further back gives the same match as a search right here, unless the match lies
  behind by now.  So a match may be remembered until the scan has passed its beginning, and a search
  in vain forever. -/

namespace Starter

/-- What is remembered was found by a search at an offset up to `pos`. -/
def Sound (s : Starter) (text : Text) (pos : Nat) : Prop :=
  ∀ searched, s.searched = some searched →
    searched ≤ pos ∧ s.next = s.pattern.findAt text searched

/-- The kind of a starter and its pattern; these never change. -/
def key (s : Starter) : Kind × Pattern := (s.kind, s.pattern)

variable {s : Starter} {text : Text} {pos q : Nat}

/-- What was found from an earlier offset on has been found for a later one as well. -/
theorem Sound.mono (h : s.Sound text pos) (hq : pos ≤ q) : s.Sound text q := by
  intro searched hsearched
  obtain ⟨hle, hnext⟩ := h searched hsearched
  exact ⟨by omega, hnext⟩

/-- A match that is not stale is the one that a search right here would find. -/
theorem Sound.next_eq (h : s.Sound text pos) (hstale : s.isStale pos = false) :
    s.next = s.pattern.findAt text pos := by
  unfold isStale at hstale
  split at hstale
  · exact absurd hstale (by simp)
  · rename_i searched start stop hsearched hnext
    obtain ⟨hle, hfind⟩ := h searched hsearched
    have hstart : pos ≤ start := by simpa using hstale
    rw [hnext] at hfind ⊢
    exact (Pattern.findAt_of_le hfind.symm hle hstart).symm
  · rename_i searched hsearched hnext
    obtain ⟨hle, hfind⟩ := h searched hsearched
    rw [hnext] at hfind ⊢
    exact (Pattern.findAt_eq_none_of_le hfind.symm hle).symm

@[simp] theorem refresh_key (s : Starter) (text : Text) (pos : Nat) :
    (s.refresh text pos).key = s.key := by
  unfold refresh
  split <;> rfl

/-- A starter that is brought up to date stays sound, stale or not. -/
theorem refresh_sound (h : s.Sound text pos) : (s.refresh text pos).Sound text pos := by
  unfold refresh
  split
  · intro searched hsearched
    obtain rfl := Option.some.inj hsearched
    exact ⟨Nat.le_refl _, rfl⟩
  · exact h

/-- **A refreshed match is the one that a search right here would find.** -/
theorem refresh_next (h : s.Sound text pos) :
    (s.refresh text pos).next = (s.refresh text pos).pattern.findAt text pos := by
  unfold refresh
  split
  · rfl
  · rename_i hstale
    exact h.next_eq (by simpa using hstale)

end Starter

/-! ## Hits

  The order of the starters decides between constructs that begin at the same offset, so a starter
  is only looked at if none before it has hit. -/

/-- The first of some patterns that matches right at an offset: its kind, and where the match
    ends. -/
def hitOf (text : Text) (pos : Nat) (keys : List (Kind × Pattern)) : Option (Kind × Nat) :=
  keys.findSome? fun (kind, p) => (matchAt text pos (some p)).map (kind, ·)

/-- A hit of the first key, or else of those behind it. -/
theorem hitOf_cons (text : Text) (pos : Nat) (kind : Kind) (p : Pattern)
    (keys : List (Kind × Pattern)) :
    hitOf text pos ((kind, p) :: keys)
      = ((matchAt text pos (some p)).map (kind, ·)).or (hitOf text pos keys) := by
  cases h : matchAt text pos (some p) with
  | none => simp [hitOf, h]
  | some stop => simp [hitOf, h]

/-- A kind together with its pattern, if it has one. -/
def keyed (k : Kind × Option Pattern) : Option (Kind × Pattern) := k.2.map (k.1, ·)

/-- The kinds of a grammar that have a pattern. -/
def keysOf (g : Grammar) : List (Kind × Pattern) := (Plain.order g).filterMap keyed

/-- Constructs without a pattern never begin. -/
theorem hitOf_keysOf (g : Grammar) (text : Text) (pos : Nat) :
    hitOf text pos (keysOf g) = beginning g text pos := by
  unfold hitOf keysOf beginning
  rw [← List.head?_filterMap, List.filterMap_filterMap, List.head?_filterMap]
  congr 1
  funext ⟨kind, pattern⟩
  cases pattern with
  | none => rfl
  | some p => rfl

theorem slotStarters_key {α : Type} (kind : Nat → Kind) (pattern : α → Option Pattern)
    (slots : List α) :
    (slotStarters kind pattern slots).map Starter.key
      = (slots.zipIdx.map fun (slot, i) => (kind i, pattern slot)).filterMap keyed := by
  unfold slotStarters
  rw [List.map_filterMap, List.filterMap_map]
  congr 1
  funext ⟨slot, i⟩
  show ((pattern slot).map _).map _ = (pattern slot).map _
  rw [Option.map_map]
  rfl

/-- The scan begins with one starter for every construct that is enabled, in their order. -/
theorem starters_key (g : Grammar) : (starters g).map Starter.key = keysOf g := by
  have htriple : ∀ a b c : Kind × Option Pattern, [a, b, c] = [a] ++ [b] ++ [c] := fun _ _ _ => rfl
  unfold starters keysOf Plain.order
  rw [htriple]
  simp only [List.map_append, slotStarters_key, List.filterMap_append, List.append_assoc]
  rfl

/-- Starters that have not searched yet are sound everywhere. -/
theorem starters_sound (g : Grammar) (text : Text) (pos : Nat) :
    ∀ s ∈ starters g, s.Sound text pos := by
  have hslots : ∀ {α : Type} (kind : Nat → Kind) (pattern : α → Option Pattern) (slots : List α),
      ∀ s ∈ slotStarters kind pattern slots, s.searched = none := by
    intro α kind pattern slots s hs
    obtain ⟨⟨slot, i⟩, -, hs⟩ := List.mem_filterMap.mp hs
    obtain ⟨p, -, rfl⟩ := Option.map_eq_some_iff.mp hs
    rfl
  intro s hs searched hsearched
  have hnone : s.searched = none := by
    simp only [starters, List.mem_append] at hs
    rcases hs with (((hs | hs) | hs) | hs) | hs <;> exact hslots _ _ _ s hs
  exact absurd (hnone.symm.trans hsearched) (by simp)

/-- A starter whose match is up to date hits where its pattern matches. -/
theorem hitAt_eq {s : Starter} {text : Text} {pos : Nat}
    (h : s.next = s.pattern.findAt text pos) :
    s.hitAt pos = (matchAt text pos (some s.pattern)).map (pos, ·) := by
  unfold Starter.hitAt matchAt
  rw [h, Option.bind_some]
  cases s.pattern.findAt text pos with
  | none => rfl
  | some m =>
    obtain ⟨start, stop⟩ := m
    by_cases hstart : start = pos
    · simp [Option.filter, hstart]
    · simp [Option.filter, hstart]

/-- What is known of the starters after they have been looked at: they are those from before, and
    if none has hit, all of them are up to date. -/
structure Looked (text : Text) (pos : Nat) (ss : List Starter)
    (result : Option (Kind × Nat × Nat) × List Starter) : Prop where
  hit : result.1 = (hitOf text pos (ss.map Starter.key)).map fun (kind, stop) => (kind, pos, stop)
  keys : result.2.map Starter.key = ss.map Starter.key
  sound : ∀ s ∈ result.2, s.Sound text pos
  current : result.1 = none → ∀ s ∈ result.2, s.next = s.pattern.findAt text pos

/-- A starter whose pattern matches right here is the hit; those behind it are not looked at. -/
theorem firstHit_cons_hit {s : Starter} {text : Text} {pos stop : Nat} (ss : List Starter)
    (hs : s.Sound text pos) (hmatch : matchAt text pos (some s.pattern) = some stop) :
    firstHit text pos (s :: ss) = (some (s.kind, pos, stop), s.refresh text pos :: ss) := by
  have hkey := Starter.refresh_key s text pos
  have hkind : (s.refresh text pos).kind = s.kind := congrArg Prod.fst hkey
  have hpattern : (s.refresh text pos).pattern = s.pattern := congrArg Prod.snd hkey
  have hhit := hitAt_eq (Starter.refresh_next hs)
  rw [hpattern, hmatch] at hhit
  simp [firstHit, hhit, hkind]

/-- A starter whose pattern does not match right here is passed over. -/
theorem firstHit_cons_miss {s : Starter} {text : Text} {pos : Nat} (ss : List Starter)
    (hs : s.Sound text pos) (hmatch : matchAt text pos (some s.pattern) = none) :
    firstHit text pos (s :: ss)
      = ((firstHit text pos ss).1, s.refresh text pos :: (firstHit text pos ss).2) := by
  have hpattern : (s.refresh text pos).pattern = s.pattern :=
    congrArg Prod.snd (Starter.refresh_key s text pos)
  have hhit := hitAt_eq (Starter.refresh_next hs)
  rw [hpattern, hmatch] at hhit
  simp [firstHit, hhit]

/-- **The first hit is the first pattern that matches right here.** -/
theorem firstHit_looked {text : Text} {pos : Nat} {ss : List Starter}
    (hsound : ∀ s ∈ ss, s.Sound text pos) : Looked text pos ss (firstHit text pos ss) := by
  induction ss with
  | nil => exact ⟨rfl, rfl, fun _ h => (nomatch h), fun _ _ h => (nomatch h)⟩
  | cons s ss ih =>
    have hs := hsound s (List.mem_cons_self ..)
    have hss : ∀ t ∈ ss, t.Sound text pos := fun t ht => hsound t (List.mem_cons_of_mem _ ht)
    have hof := hitOf_cons text pos s.kind s.pattern (ss.map Starter.key)
    cases hmatch : matchAt text pos (some s.pattern) with
    | some stop =>
      rw [hmatch] at hof
      rw [firstHit_cons_hit ss hs hmatch]
      -- the starters behind the hit are as before, and none of them need be up to date
      refine ⟨?_, by simp, ?_, fun h => (nomatch h)⟩
      · show _ = (hitOf text pos (s.key :: ss.map Starter.key)).map _
        rw [Starter.key, hof]
        rfl
      · intro t ht
        rcases List.mem_cons.mp ht with rfl | ht
        · exact Starter.refresh_sound hs
        · exact hss t ht
    | none =>
      rw [hmatch] at hof
      rw [firstHit_cons_miss ss hs hmatch]
      have hlater := ih hss
      refine ⟨?_, by simp [hlater.keys], ?_, ?_⟩
      · show _ = (hitOf text pos (s.key :: ss.map Starter.key)).map _
        rw [Starter.key, hof]
        exact hlater.hit
      · intro t ht
        rcases List.mem_cons.mp ht with rfl | ht
        · exact Starter.refresh_sound hs
        · exact hlater.sound t ht
      · intro hnone t ht
        rcases List.mem_cons.mp ht with rfl | ht
        · exact Starter.refresh_next hs
        · exact hlater.current hnone t ht

/-! ## Jumps

  All starters have been looked at, so what they remember is up to date, and the nearest of it
  bounds how far nothing happens. -/

section Jump

variable {g : Grammar} {text : Text} {pos q : Nat} {ss : List Starter}

/-- No construct begins at an offset if none of the patterns matches right there. -/
theorem hitOf_eq_none_iff {keys : List (Kind × Pattern)} :
    hitOf text q keys = none ↔ ∀ k ∈ keys, matchAt text q (some k.2) = none := by
  unfold hitOf
  rw [List.findSome?_eq_none_iff]
  simp

/-- A pattern does not match right at an offset before the match that a search up to there finds. -/
theorem matchAt_eq_none {p : Pattern} (hpos : pos ≤ q)
    (hlater : ∀ m, p.findAt text pos = some m → q < m.1) : matchAt text q (some p) = none := by
  unfold matchAt
  rw [Option.bind_some]
  cases hfind : p.findAt text pos with
  | none => rw [Pattern.findAt_eq_none_of_le hfind hpos]
  | some m =>
    have hlt := hlater m hfind
    rw [Pattern.findAt_of_le hfind hpos (Nat.le_of_lt hlt)]
    exact if_neg (by omega)

/-- No construct begins before the remembered matches. -/
theorem beginning_eq_none (hkeys : ss.map Starter.key = keysOf g)
    (hcurrent : ∀ s ∈ ss, s.next = s.pattern.findAt text pos) (hpos : pos ≤ q)
    (hlater : ∀ s ∈ ss, ∀ m, s.next = some m → q < m.1) : beginning g text q = none := by
  rw [← hitOf_keysOf, hitOf_eq_none_iff, ← hkeys]
  intro k hk
  obtain ⟨s, hs, rfl⟩ := List.mem_map.mp hk
  refine matchAt_eq_none hpos fun m hm => hlater s hs m ?_
  rw [hcurrent s hs]
  exact hm

/-- What is remembered begins further on if nothing begins right here. -/
theorem lt_of_next (hkeys : ss.map Starter.key = keysOf g)
    (hcurrent : ∀ s ∈ ss, s.next = s.pattern.findAt text pos)
    (hnone : beginning g text pos = none) {s : Starter} (hs : s ∈ ss) {m : Nat × Nat}
    (hm : s.next = some m) : pos < m.1 := by
  have hfind := hcurrent s hs
  rw [hm] at hfind
  have hle := (Pattern.le_of_findAt hfind.symm).1
  rw [← hitOf_keysOf, hitOf_eq_none_iff, ← hkeys] at hnone
  have hmatch := hnone s.key (List.mem_map_of_mem hs)
  have hne : m.1 ≠ pos := by
    intro heq
    unfold matchAt at hmatch
    rw [Option.bind_some, show s.key.2.findAt text pos = some m from hfind.symm] at hmatch
    exact absurd ((if_pos heq).symm.trans hmatch) (by simp)
  omega

theorem mem_nexts {start : Nat} :
    start ∈ (ss.filterMap fun s => s.next.map (·.1)) ↔
      ∃ s ∈ ss, ∃ m, s.next = some m ∧ m.1 = start := by
  simp [List.mem_filterMap]

/-- The nearest remembered match is what some starter would find right here. -/
theorem exists_of_nearest {next : Nat}
    (hcurrent : ∀ s ∈ ss, s.next = s.pattern.findAt text pos) (hnearest : nearest ss = some next) :
    ∃ s ∈ ss, ∃ m, s.next = some m ∧ s.pattern.findAt text pos = some m ∧ m.1 = next := by
  obtain ⟨s, hs, m, hm, hstart⟩ := mem_nexts.mp (List.min?_eq_some_iff.mp hnearest).1
  exact ⟨s, hs, m, hm, (hcurrent s hs).symm.trans hm, hstart⟩

/-- **A jump passes over offsets only at which no construct begins**, and it ends at a place
    between characters. -/
theorem nearest_spec {next : Nat} (hkeys : ss.map Starter.key = keysOf g)
    (hcurrent : ∀ s ∈ ss, s.next = s.pattern.findAt text pos)
    (hnone : beginning g text pos = none) (hnearest : nearest ss = some next) :
    pos < next ∧ text.IsBoundary next ∧ ∀ q, pos ≤ q → q < next → beginning g text q = none := by
  obtain ⟨s, hs, m, hm, hfind, rfl⟩ := exists_of_nearest hcurrent hnearest
  refine ⟨lt_of_next hkeys hcurrent hnone hs hm, (Pattern.isBoundary_of_findAt hfind).1, ?_⟩
  intro q hpos hq
  refine beginning_eq_none hkeys hcurrent hpos fun t ht m' hm' => ?_
  have hmin := (List.min?_eq_some_iff.mp hnearest).2
  exact Nat.lt_of_lt_of_le hq (hmin _ (mem_nexts.mpr ⟨t, ht, m', hm', rfl⟩))

/-- Where nothing is remembered no construct begins any more. -/
theorem nearest_none (hkeys : ss.map Starter.key = keysOf g)
    (hcurrent : ∀ s ∈ ss, s.next = s.pattern.findAt text pos) (hnearest : nearest ss = none)
    (hpos : pos ≤ q) : beginning g text q = none := by
  have hempty := List.min?_eq_none_iff.mp hnearest
  refine beginning_eq_none hkeys hcurrent hpos fun s hs m hm => ?_
  have hmem := mem_nexts.mpr ⟨s, hs, m, hm, rfl⟩
  rw [hempty] at hmem
  exact absurd hmem (List.not_mem_nil)

end Jump

end Scan

end Highlight
