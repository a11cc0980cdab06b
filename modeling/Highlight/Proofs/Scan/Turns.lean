/-
  The scan, turn by turn.

  A match that was found at one offset is remembered, and the scan asks for another only when it
  takes the remembered one for stale.  Since the search for a hit stops at the first one, the
  starters are brought up to date at different offsets.

  1. **Turns** — `turn` is what the scan does at one offset, and `scanFrom` is one turn after the
     other (`scanFrom_turn`).  A `Head` is an offset at which the scan of a line takes a turn, with
     what it remembers there.

  2. **What is remembered** — at every head the starters are those of the grammar, and all that they
     remember was found at an offset up to here (`Remembers`).  A turn keeps this, since it leads
     further on (`Remembers.goOn`); by induction along the turns it holds of every head.

  3. **Silence** — at an offset without a hit all starters have been looked at.  So none of them
     matches before the offset to which the scan jumps, and none at all if it stops.

  Main result: **`remembered_matches_current`**.
-/
import Highlight.Proofs.Scan.Override
import Highlight.Proofs.Scan.Unclosed

namespace Highlight

namespace Scan

open Plain (beginning behind)

/-! ## Turns -/

/-- What a turn comes to. -/
inductive Turn where
  /-- The scan has painted some spans, and goes on from an offset with what it remembers. -/
  | goOn (spans : List Span) (pos : Nat) (ss : List Starter)
  /-- The scan is over. -/
  | done (layer : Exclusive)
  deriving Repr

/-- What the scan does at an offset. -/
def turn (g : Grammar) (text : Text) (pos : Nat) (ss : List Starter) : Turn :=
  match firstHit text pos ss with
  | (none, ss) =>
    match nearest ss with
    | some next => if pos < next then .goOn [] next ss else .done ⟨[], .normal, none⟩
    | none => .done ⟨[], .normal, none⟩
  | (some (kind, start, stop), ss) =>
    match construct g text kind start stop with
    | .ended spans exit hides => .done ⟨spans, exit, hides⟩
    | .closed spans resume => .goOn spans (behind text pos resume) ss

/-- A layer behind spans that have been painted. -/
def Exclusive.after (painted : List Span) (layer : Exclusive) : Exclusive :=
  { layer with spans := painted ++ layer.spans }

namespace Turn

/-- The offset from which the scan goes on. -/
def next? : Turn → Option Nat
  | goOn _ pos _ => some pos
  | done _ => none

/-- The layer that a turn leads to; `rest` tells what the scan makes of the line further on. -/
def finish (rest : Nat → List Starter → Exclusive) : Turn → Exclusive
  | goOn spans pos ss => (rest pos ss).after spans
  | done layer => layer

end Turn

/-- An offset at which the scan of a line stands, with what it remembers there. -/
inductive Head (g : Grammar) (text : Text) (entry : LineState) : Nat → List Starter → Prop
  | start (hopen : openRule g entry = none) : Head g text entry 0 (starters g)
  | resumed {r : BlockRule} {spans : List Span} {resume : Nat} (hopen : openRule g entry = some r)
      (hclosed : block text r 0 0 entry (some 0) = .closed spans resume) :
      Head g text entry resume (starters g)
  | next {pos pos' : Nat} {ss ss' : List Starter} {spans : List Span} (h : Head g text entry pos ss)
      (hpos : pos < text.size) (hturn : turn g text pos ss = .goOn spans pos' ss') :
      Head g text entry pos' ss'

section Turns

variable {g : Grammar} {text : Text} {entry : LineState} {pos pos' fuel : Nat}
  {ss ss' : List Starter} {spans : List Span}

@[simp] theorem Exclusive.after_nil (layer : Exclusive) : layer.after [] = layer := rfl

@[simp] theorem Exclusive.after_after (painted spans : List Span) (layer : Exclusive) :
    (layer.after spans).after painted = layer.after (painted ++ spans) := by
  simp [Exclusive.after]

/-- **The scan takes one turn after the other.** -/
theorem scanFrom_turn (fuel : Nat) (ss : List Starter) (hpos : pos < text.size) :
    scanFrom g text (fuel + 1) pos ss = (turn g text pos ss).finish (scanFrom g text fuel) := by
  rw [scanFrom, if_neg (by omega), turn]
  obtain ⟨hit, looked⟩ := firstHit text pos ss
  cases hit with
  | none =>
    simp only
    cases nearest looked with
    | none => rfl
    | some next =>
      simp only
      split
      · rfl
      · rfl
  | some m =>
    obtain ⟨kind, start, stop⟩ := m
    simp only
    cases construct g text kind start stop with
    | closed spans resume => rfl
    | ended spans exit hides => rfl

/-- How a turn goes on: a jump to the nearest match where nothing begins, or behind the construct
    that has been closed. -/
theorem turn_goOn (hturn : turn g text pos ss = .goOn spans pos' ss') :
    ss' = (firstHit text pos ss).2 ∧
      ((firstHit text pos ss).1 = none ∧ nearest ss' = some pos' ∧ pos < pos' ∨
        ∃ kind start stop resume, (firstHit text pos ss).1 = some (kind, start, stop) ∧
          construct g text kind start stop = .closed spans resume ∧
            pos' = behind text pos resume) := by
  unfold turn at hturn
  split at hturn
  · rename_i looked hhit
    rw [hhit]
    split at hturn
    · rename_i next hnearest
      split at hturn
      · rename_i hlt
        obtain ⟨-, rfl, rfl⟩ := Turn.goOn.inj hturn
        exact ⟨rfl, .inl ⟨rfl, hnearest, hlt⟩⟩
      · exact absurd hturn (by simp)
    · exact absurd hturn (by simp)
  · rename_i kind start stop looked hhit
    rw [hhit]
    split at hturn
    · exact absurd hturn (by simp)
    · rename_i painted resume hclosed
      obtain ⟨rfl, rfl, rfl⟩ := Turn.goOn.inj hturn
      exact ⟨rfl, .inr ⟨kind, start, stop, resume, rfl, hclosed, rfl⟩⟩

/-- **Offsets increase from turn to turn.** -/
theorem lt_of_turn (hturn : turn g text pos ss = .goOn spans pos' ss') : pos < pos' := by
  obtain ⟨-, ⟨-, -, hlt⟩ | ⟨_, _, _, resume, -, -, rfl⟩⟩ := turn_goOn hturn
  · exact hlt
  · exact Plain.lt_behind text pos resume

/-- **Every head is a call of the scan**: the layer of the line is what the scan makes of the line
    from there on, behind what it has painted before.  The fuel that is left reaches to the end of
    the line. -/
theorem Head.exclusive_eq (h : Head g text entry pos ss) :
    ∃ painted fuel, text.size ≤ pos + fuel ∧
      exclusive g text entry = (scanFrom g text fuel pos ss).after painted := by
  induction h with
  | start hopen =>
    refine ⟨[], text.size, by omega, ?_⟩
    rw [exclusive, hopen, Exclusive.after_nil]
  | @resumed r spans resume hopen hclosed =>
    refine ⟨spans, text.size, by omega, ?_⟩
    rw [exclusive, hopen]
    simp only [hclosed]
    rfl
  | @next pos pos' ss ss' spans h hpos hturn ih =>
    obtain ⟨painted, fuel, hfuel, hlayer⟩ := ih
    have hlt := lt_of_turn hturn
    cases fuel with
    | zero => omega
    | succ fuel =>
      refine ⟨painted ++ spans, fuel, by omega, ?_⟩
      rw [hlayer, scanFrom_turn fuel _ hpos, hturn, Turn.finish,
        Exclusive.after_after]

/-- A head before the end of the line takes a turn. -/
theorem Head.exclusive_turn (h : Head g text entry pos ss) (hpos : pos < text.size) :
    ∃ painted fuel, text.size ≤ pos + (fuel + 1) ∧
      exclusive g text entry
        = ((turn g text pos ss).finish (scanFrom g text fuel)).after painted := by
  obtain ⟨painted, fuel, hfuel, hlayer⟩ := h.exclusive_eq
  cases fuel with
  | zero => omega
  | succ fuel => exact ⟨painted, fuel, hfuel, hlayer.trans (by rw [scanFrom_turn fuel ss hpos])⟩

end Turns

/-! ## What is remembered -/

/-- The starters are those of the grammar, and what they remember was found at an offset up to
    here. -/
structure Remembers (g : Grammar) (text : Text) (pos : Nat) (ss : List Starter) : Prop where
  keys : ss.map Starter.key = keysOf g
  sound : ∀ s ∈ ss, s.Sound text pos

/-- The starters are those of the grammar, and unless a remembered match is stale, a search right
    here would find the same.  What has not been searched for is stale. -/
structure Current (g : Grammar) (text : Text) (pos : Nat) (ss : List Starter) : Prop where
  keys : ss.map Starter.key = (starters g).map Starter.key
  next : ∀ s ∈ ss, s.isStale pos = false → s.next = s.pattern.findAt text pos

/-- No pattern that begins a construct has a match that starts at an offset. -/
def Silent (g : Grammar) (text : Text) (q : Nat) : Prop :=
  ∀ s ∈ starters g, ¬s.pattern.MatchesAt text q

section Remembers

variable {g : Grammar} {text : Text} {entry : LineState} {pos pos' q : Nat}
  {ss ss' : List Starter} {spans : List Span}

namespace Remembers

/-- Starters that have not searched yet remember nothing that could be wrong. -/
theorem start (g : Grammar) (text : Text) (pos : Nat) : Remembers g text pos (starters g) :=
  ⟨starters_key g, starters_sound g text pos⟩

/-- What was found from an earlier offset on still counts further on. -/
theorem mono (h : Remembers g text pos ss) (hq : pos ≤ q) : Remembers g text q ss :=
  ⟨h.keys, fun s hs => (h.sound s hs).mono hq⟩

/-- So a match that is not stale is the one that a search right here would find. -/
theorem current (h : Remembers g text pos ss) : Current g text pos ss :=
  ⟨h.keys.trans (starters_key g).symm, fun s hs hstale => (h.sound s hs).next_eq hstale⟩

/-- Looking for a hit brings some starters up to date and leaves the others as they were. -/
theorem looked (h : Remembers g text pos ss) :
    Remembers g text pos (firstHit text pos ss).2 := by
  have hlooked := firstHit_looked h.sound
  exact ⟨hlooked.keys.trans h.keys, hlooked.sound⟩

/-- A turn keeps to what has been found. -/
theorem goOn (h : Remembers g text pos ss) (hturn : turn g text pos ss = .goOn spans pos' ss') :
    Remembers g text pos' ss' := by
  obtain ⟨rfl, -⟩ := turn_goOn hturn
  exact h.looked.mono (Nat.le_of_lt (lt_of_turn hturn))

end Remembers

/-- **At every head the scan remembers what it has found**, by induction along the turns. -/
theorem Head.remembers (h : Head g text entry pos ss) : Remembers g text pos ss := by
  induction h with
  | start hopen => exact .start g text 0
  | resumed hopen hclosed => exact .start g text _
  | next h hpos hturn ih => exact ih.goOn hturn

/-! ## Silence -/

/-- No construct begins where there is no hit. -/
theorem Remembers.beginning_eq_none (h : Remembers g text pos ss)
    (hmiss : (firstHit text pos ss).1 = none) : beginning g text pos = none := by
  have hhit := (firstHit_looked h.sound).hit
  rw [hmiss, h.keys, hitOf_keysOf] at hhit
  exact Option.map_eq_none_iff.mp hhit.symm

/-- Where there is no hit, the scan jumps to the nearest match if there is one. -/
theorem Remembers.next?_turn (h : Remembers g text pos ss)
    (hmiss : (firstHit text pos ss).1 = none) :
    (turn g text pos ss).next? = nearest (firstHit text pos ss).2 := by
  have hlooked := firstHit_looked h.sound
  have hfurther : ∀ next, nearest (firstHit text pos ss).2 = some next → pos < next := by
    intro next hnearest
    exact (nearest_spec h.looked.keys (hlooked.current hmiss) (h.beginning_eq_none hmiss)
      hnearest).1
  unfold turn
  generalize firstHit text pos ss = looked at hmiss hfurther ⊢
  obtain ⟨hit, looked⟩ := looked
  obtain rfl : hit = none := hmiss
  simp only
  cases hnearest : nearest looked with
  | none => rfl
  | some next =>
    simp only
    rw [if_pos (hfurther next hnearest)]
    rfl

/-- **A match further on is not passed over**: where there is no hit, the scan jumps to it or to an
    offset before it. -/
theorem Remembers.next?_le (h : Remembers g text pos ss)
    (hmiss : (firstHit text pos ss).1 = none) (hq : pos ≤ q) {s : Starter}
    (hs : s ∈ starters g) (hmatch : s.pattern.MatchesAt text q) :
    ∃ next, (turn g text pos ss).next? = some next ∧ next ≤ q := by
  rw [h.next?_turn hmiss]
  -- the starter has been looked at, so it remembers the first match from here on
  obtain ⟨t, ht, hkey⟩ : ∃ t ∈ (firstHit text pos ss).2, t.key = s.key := by
    rw [← List.mem_map, h.looked.current.keys]
    exact List.mem_map_of_mem hs
  have hpattern : t.pattern = s.pattern := congrArg Prod.snd hkey
  have hnext := (firstHit_looked h.sound).current hmiss t ht
  rw [hpattern] at hnext
  cases hfind : s.pattern.findAt text pos with
  | none => exact absurd hmatch (Pattern.not_matchesAt hfind hq)
  | some m =>
    have hle := Pattern.le_of_matchesAt hfind hq hmatch
    have hmem := mem_nexts.mpr ⟨t, ht, m, hnext.trans hfind, rfl⟩
    cases hnearest : nearest (firstHit text pos ss).2 with
    | none =>
      rw [List.min?_eq_none_iff.mp hnearest] at hmem
      exact absurd hmem List.not_mem_nil
    | some next =>
      have hmin := (List.min?_eq_some_iff.mp hnearest).2 m.1 hmem
      exact ⟨next, rfl, by omega⟩

/-- **Remembered matches stay valid.**  Wherever the scan of a line stands, what is still to come of
    the layer is what its next turn leads to.  Before this turn, and after it has looked for a hit,
    whatever it remembers and would not search for anew is what a search from there finds.  Offsets
    increase from turn to turn.  Where there is no hit, nothing that begins a construct matches
    before the offset to which the scan jumps, and nothing further on if it stops. -/
theorem remembered_matches_current (h : Head g text entry pos ss) (hpos : pos < text.size) :
    (∃ painted fuel, text.size ≤ pos + (fuel + 1) ∧
      exclusive g text entry
        = ((turn g text pos ss).finish (scanFrom g text fuel)).after painted) ∧
    Current g text pos ss ∧ Current g text pos (firstHit text pos ss).2 ∧
    (∀ next, (turn g text pos ss).next? = some next → pos < next) ∧
    ((firstHit text pos ss).1 = none →
      (∀ next, (turn g text pos ss).next? = some next →
        ∀ q, pos ≤ q → q < next → Silent g text q) ∧
      ((turn g text pos ss).next? = none → ∀ q, pos ≤ q → Silent g text q)) := by
  have hremembers := h.remembers
  refine ⟨h.exclusive_turn hpos, hremembers.current, hremembers.looked.current, ?_, ?_⟩
  · intro next hnext
    cases hturn : turn g text pos ss with
    | goOn spans pos' ss' =>
      rw [hturn] at hnext
      obtain rfl := Option.some.inj hnext
      exact lt_of_turn hturn
    | done layer =>
      rw [hturn] at hnext
      exact absurd hnext (by simp [Turn.next?])
  · intro hmiss
    refine ⟨fun next hnext q hq hlt s hs hmatch => ?_, fun hstop q hq s hs hmatch => ?_⟩
    · -- a match on the way would have been the nearest one
      obtain ⟨next', hnext', hle⟩ := hremembers.next?_le hmiss hq hs hmatch
      obtain rfl := Option.some.inj (hnext.symm.trans hnext')
      omega
    · obtain ⟨next, hnext, -⟩ := hremembers.next?_le hmiss hq hs hmatch
      exact absurd (hstop.symm.trans hnext) (by simp)

end Remembers

/-- Behind a comment that has been closed the scan still goes by the hash that it found at the
    beginning of the line.  The parenthesis that it found there is stale. -/
theorem remembered_matches_current_hashComments :
    let text : Text := "a(b)c#d".toList
    let ss : List Starter :=
      [⟨.lineComment, .ofChar '#', some (5, 6), some 0⟩,
        ⟨.blockComment, .ofChar '(', some (1, 2), some 0⟩]
    Head hashComments text .normal 4 ss ∧ 4 < text.size ∧ Current hashComments text 4 ss ∧
      ∀ q, 4 ≤ q → q < 5 → Silent hashComments text q := by
  intro text ss
  have hjump : turn hashComments text 0 (starters hashComments) = .goOn [] 1 ss := rfl
  have hclosed : turn hashComments text 1 ss = .goOn [.between 1 4 .blockComment] 4 ss := rfl
  have hhead : Head hashComments text .normal 4 ss :=
    ((Head.start rfl).next (by decide) hjump).next (by decide) hclosed
  obtain ⟨-, hcurrent, -, -, hsilent⟩ := remembered_matches_current hhead (by decide)
  exact ⟨hhead, by decide, hcurrent, (hsilent rfl).1 5 rfl⟩

end Scan

end Highlight
