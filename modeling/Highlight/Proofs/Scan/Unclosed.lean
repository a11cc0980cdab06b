/-
  What a line leaves open.

  A line leaves the state of the construct that the scan went on with, or met, without finding its
  end; there is at most one, for it ends the scan.

  1. **Looks** — `Looks` says at which offsets the scan looks for a construct: where the line begins
     or what was left open is closed, behind a character at which no construct begins, and behind
     one that is closed.

  2. **The crux** — what is still to come of the layer at such an offset is the plain scan resumed
     there, and it has an equation for each of these cases (`resumed_quiet`, `exit_closed`,
     `exit_unclosed`, `exit_line`, `exit_end`).  So the state it leaves is that of the whole layer
     (`Looks.exit_eq`), and going on from one offset to the next comes to the end of the line, or to
     a construct without an end (`Looks.normal_or_unclosed`).

  3. **Live states** — a construct that is met has the rule that its state names, and that rule is
     enabled, or no match of it would have been found (`Meets.begins`, `Begins.isEnabled`).  A state
     whose construct the grammar does not have, or has disabled, leaves the scan nothing to go on
     with, as `normal` does (`exclusive_of_not_live`).

  `Looks`, `Meets` and `Unclosed` are relations over single matches and single ends; none of them
  speaks of the scan's remembered matches, or of how the scan goes from one offset to the next.

  Main result: **`exit_live`**.
-/
import Highlight.Proofs.Scan.Guarded

namespace Highlight

open Scan (Kind Exclusive Outcome block construct openRule)

/-- The grammar has the construct that a state names, and it is enabled. -/
def LineState.Live (g : Grammar) : LineState → Prop
  | .normal => True
  | .inBlockComment => g.blockComment.isEnabled = true
  | .inBlockExpression i => ∃ r, g.blockExpressions[i]? = some r ∧ r.isEnabled = true

namespace Plain

/-! ## Constructs without an end -/

/-- The rule of a kind of construct between delimiters. -/
def enclosing (g : Grammar) : Kind → Option BlockRule
  | .blockExpression i => g.blockExpressions[i]?
  | .quotation => some g.quotation
  | .blockComment => some g.blockComment
  | .lineComment | .lineExpression _ => none

/-- The state that a construct leaves whose end is not on the line; a quotation ends with the
    line. -/
def leaves : Kind → LineState
  | .blockExpression i => .inBlockExpression i
  | .blockComment => .inBlockComment
  | .quotation | .lineComment | .lineExpression _ => .normal

/-- Where the scan goes on behind a construct that begins at `pos` and ends at `stop`. -/
def behind (text : Text) (pos stop : Nat) : Nat := if pos < stop then stop else text.nextBoundary pos

/-- The offsets at which the scan looks for a construct. -/
inductive Looks (g : Grammar) (text : Text) (entry : LineState) : Nat → Prop
  | start (hopen : openRule g entry = none) : Looks g text entry 0
  | resumed {r : BlockRule} {stop : Nat} (hopen : openRule g entry = some r)
      (hstop : (r.findEnd text 0).stop = some stop) : Looks g text entry stop
  | quiet {pos : Nat} (h : Looks g text entry pos) (hpos : pos < text.size)
      (hquiet : beginning g text pos = none) : Looks g text entry (text.nextBoundary pos)
  | closed {pos inner stop : Nat} {kind : Kind} {r : BlockRule} (h : Looks g text entry pos)
      (hpos : pos < text.size) (hbegin : beginning g text pos = some (kind, inner))
      (hrule : enclosing g kind = some r) (hstop : (r.findEnd text inner).stop = some stop) :
      Looks g text entry (behind text pos stop)

/-- The line goes on with a construct, or the scan meets one.  Its end is searched from `inner` on,
    and the state names it. -/
inductive Meets (g : Grammar) (text : Text) (entry : LineState) :
    LineState → BlockRule → (inner : Nat) → Prop
  | inherited {r : BlockRule} (hopen : openRule g entry = some r) : Meets g text entry entry r 0
  | met {pos inner : Nat} {kind : Kind} {r : BlockRule} (h : Looks g text entry pos)
      (hpos : pos < text.size) (hbegin : beginning g text pos = some (kind, inner))
      (hrule : enclosing g kind = some r) : Meets g text entry (leaves kind) r inner

/-- A construct that is met, and named by the state, does not end on the line. -/
def Unclosed (g : Grammar) (text : Text) (entry s : LineState) : Prop :=
  ∃ r inner, Meets g text entry s r inner ∧ (r.findEnd text inner).stop = none

section Construct

variable {g : Grammar} {text : Text} {kind : Kind} {r : BlockRule} {start inner stop : Nat}

/-- A construct with a rule of two delimiters is handled as such, and leaves the state of its kind
    if it is not closed. -/
theorem construct_of_enclosing (text : Text) (start inner : Nat) (h : enclosing g kind = some r) :
    ∃ hides, construct g text kind start inner = block text r start inner (leaves kind) hides := by
  cases kind with
  | blockExpression i =>
    rw [enclosing] at h
    exact ⟨some start, by rw [construct, h]; rfl⟩
  | quotation =>
    obtain rfl := Option.some.inj h
    exact ⟨none, rfl⟩
  | blockComment =>
    obtain rfl := Option.some.inj h
    exact ⟨some start, rfl⟩
  | lineComment => exact absurd h (by simp [enclosing])
  | lineExpression i => exact absurd h (by simp [enclosing])

/-- A construct whose end is found is closed there. -/
theorem block_of_stop (start : Nat) (exit : LineState) (hides : Option Nat)
    (h : (r.findEnd text inner).stop = some stop) :
    ∃ spans, block text r start inner exit hides = .closed spans stop := by
  unfold block
  simp only [h]
  exact ⟨_, rfl⟩

/-- A construct whose end is not found ends the scan, and leaves the state it was given. -/
theorem block_of_unclosed (start : Nat) (exit : LineState) (hides : Option Nat)
    (h : (r.findEnd text inner).stop = none) :
    ∃ spans, block text r start inner exit hides = .ended spans exit hides := by
  unfold block
  simp only [h]
  exact ⟨_, rfl⟩

/-- A construct that runs to the end of the line ends the scan in the normal state. -/
theorem construct_of_not_enclosing (text : Text) (start inner : Nat) (h : enclosing g kind = none) :
    ∃ spans hides, construct g text kind start inner = .ended spans .normal hides := by
  cases kind with
  | blockExpression i =>
    rw [enclosing] at h
    exact ⟨[], none, by rw [construct, h]⟩
  | quotation => exact absurd h (by simp [enclosing])
  | blockComment => exact absurd h (by simp [enclosing])
  | lineComment => exact ⟨_, _, rfl⟩
  | lineExpression i =>
    rw [construct]
    cases g.lineExpressions[i]? with
    | none => exact ⟨_, _, rfl⟩
    | some r => exact ⟨_, _, rfl⟩

/-- A delimited construct begins where its opening delimiter stands. -/
theorem matchAt_of_enclosing (hbegin : beginning g text start = some (kind, inner))
    (hrule : enclosing g kind = some r) : matchAt text start r.opening = some inner := by
  have hmatch := matchAt_of_beginning hbegin
  cases kind with
  | blockExpression i =>
    rw [enclosing] at hrule
    rwa [patternOf, hrule, Option.bind_some] at hmatch
  | quotation =>
    obtain rfl := Option.some.inj hrule
    exact hmatch
  | blockComment =>
    obtain rfl := Option.some.inj hrule
    exact hmatch
  | lineComment => exact absurd hrule (by simp [enclosing])
  | lineExpression i => exact absurd hrule (by simp [enclosing])

end Construct

/-! ## From one look to the next -/

section Resumed

variable {g : Grammar} {text : Text} {kind : Kind} {r : BlockRule} {pos inner stop : Nat}

/-- At a place where no construct begins the scan goes on behind the character. -/
theorem resumed_quiet (hplace : text.IsBoundary pos) (hpos : pos < text.size)
    (hquiet : beginning g text pos = none) :
    scan g text pos 0 text = scan g text (text.nextBoundary pos) 0 text := by
  obtain ⟨before, after, htext, rfl⟩ := hplace
  cases after with
  | nil =>
    rw [htext, List.append_nil] at hpos
    exact absurd hpos (Nat.lt_irrefl _)
  | cons c rest =>
    have htext' : text = (before ++ [c]) ++ rest := by rw [htext]; simp
    have hnext : text.nextBoundary before.size = (before ++ [c]).size := by
      rw [htext, Text.nextBoundary_size]
      simp
    rw [hnext, Scan.scan_resumed htext, Scan.scan_resumed htext', scan, if_neg (Nat.not_lt_zero _),
      hquiet]
    simp

/-- At a place where a construct begins the scan does what the construct does. -/
theorem resumed_beginning (hplace : text.IsBoundary pos) (hpos : pos < text.size)
    (hbegin : beginning g text pos = some (kind, inner)) :
    scan g text pos 0 text = (construct g text kind pos inner).finish fun stop =>
      scan g text (behind text pos stop) 0 text := by
  obtain ⟨before, after, htext, rfl⟩ := hplace
  cases after with
  | nil =>
    rw [htext, List.append_nil] at hpos
    exact absurd hpos (Nat.lt_irrefl _)
  | cons c rest =>
    rw [Scan.scan_resumed htext, Scan.scan_of_beginning c rest (Nat.zero_le _) hbegin]
    refine Scan.finish_congr fun spans stop hclosed => ?_
    exact (Scan.resume_eq (fun q => scan g text q 0 text) htext (Scan.construct_closed hclosed)
      fun before' after' htext' _ => Scan.scan_resumed htext').symm

/-- At the end of the line nothing is left open. -/
theorem exit_end : (scan g text text.size 0 text).exit = .normal := by
  rw [Scan.scan_resumed (List.append_nil text).symm]
  rfl

/-- A construct that is closed leaves the state of what comes behind it. -/
theorem exit_closed (hplace : text.IsBoundary pos) (hpos : pos < text.size)
    (hbegin : beginning g text pos = some (kind, inner)) (hrule : enclosing g kind = some r)
    (hstop : (r.findEnd text inner).stop = some stop) :
    (scan g text pos 0 text).exit = (scan g text (behind text pos stop) 0 text).exit := by
  obtain ⟨hides, hconstruct⟩ := construct_of_enclosing text pos inner hrule
  obtain ⟨spans, hblock⟩ := block_of_stop pos (leaves kind) hides hstop
  rw [resumed_beginning hplace hpos hbegin, hconstruct, hblock]
  rfl

/-- A construct that is not closed leaves its own state. -/
theorem exit_unclosed (hplace : text.IsBoundary pos) (hpos : pos < text.size)
    (hbegin : beginning g text pos = some (kind, inner)) (hrule : enclosing g kind = some r)
    (hstop : (r.findEnd text inner).stop = none) : (scan g text pos 0 text).exit = leaves kind := by
  obtain ⟨hides, hconstruct⟩ := construct_of_enclosing text pos inner hrule
  obtain ⟨spans, hblock⟩ := block_of_unclosed pos (leaves kind) hides hstop
  rw [resumed_beginning hplace hpos hbegin, hconstruct, hblock]
  rfl

theorem exit_line (hplace : text.IsBoundary pos) (hpos : pos < text.size)
    (hbegin : beginning g text pos = some (kind, inner)) (hrule : enclosing g kind = none) :
    (scan g text pos 0 text).exit = .normal := by
  obtain ⟨spans, hides, hconstruct⟩ := construct_of_not_enclosing text pos inner hrule
  rw [resumed_beginning hplace hpos hbegin, hconstruct]
  rfl

/-- The scan goes on at a place, behind a construct that has some length as behind one that has
    none. -/
theorem behind_isBoundary (hplace : text.IsBoundary pos) (hpos : pos < text.size)
    (hstop : text.IsBoundary stop) : text.IsBoundary (behind text pos stop) := by
  unfold behind
  split
  · exact hstop
  · exact hplace.nextBoundary hpos

/-- Behind a construct the scan is further on than before it, which is why it ends. -/
theorem lt_behind (text : Text) (pos stop : Nat) : pos < behind text pos stop := by
  unfold behind
  split
  · assumption
  · exact text.lt_nextBoundary pos

end Resumed

section Looks

variable {g : Grammar} {text : Text} {entry s : LineState} {pos : Nat}

/-- With nothing left open the scan looks from the beginning of the line. -/
theorem exclusive_start (h : openRule g entry = none) :
    exclusive g text entry = scan g text 0 0 text := by
  rw [exclusive, ← Scan.openRule_eq, h]

/-- When what was left open is closed, the rest of the line decides the state. -/
theorem exit_resumed {r : BlockRule} {stop : Nat} (h : openRule g entry = some r)
    (hstop : (r.findEnd text 0).stop = some stop) :
    (exclusive g text entry).exit = (scan g text stop 0 text).exit := by
  obtain ⟨spans, hblock⟩ := block_of_stop 0 entry (some 0) hstop
  rw [exclusive, ← Scan.openRule_eq, h]
  simp only
  rw [Scan.enclosed_eq, hblock]
  rfl

/-- What was left open and is not closed stays open. -/
theorem exit_inherited {r : BlockRule} (h : openRule g entry = some r)
    (hstop : (r.findEnd text 0).stop = none) : (exclusive g text entry).exit = entry := by
  obtain ⟨spans, hblock⟩ := block_of_unclosed 0 entry (some 0) hstop
  rw [exclusive, ← Scan.openRule_eq, h]
  simp only
  rw [Scan.enclosed_eq, hblock]
  rfl

/-- The scan looks for constructs between characters only. -/
theorem Looks.isBoundary (h : Looks g text entry pos) : text.IsBoundary pos := by
  induction h with
  | start hopen => exact text.isBoundary_zero
  | resumed hopen hstop => exact BlockRule.isBoundary_of_findEnd hstop
  | quiet h hpos hquiet ih => exact ih.nextBoundary hpos
  | closed h hpos hbegin hrule hstop ih =>
    exact behind_isBoundary ih hpos (BlockRule.isBoundary_of_findEnd hstop)

/-- **The state that the layer leaves is still to come** wherever the scan looks for a construct. -/
theorem Looks.exit_eq (h : Looks g text entry pos) :
    (exclusive g text entry).exit = (scan g text pos 0 text).exit := by
  induction h with
  | start hopen => rw [exclusive_start hopen]
  | resumed hopen hstop => exact exit_resumed hopen hstop
  | quiet h hpos hquiet ih => rw [ih, resumed_quiet h.isBoundary hpos hquiet]
  | closed h hpos hbegin hrule hstop ih => rw [ih, exit_closed h.isBoundary hpos hbegin hrule hstop]

/-- A construct that is met and does not end gives the line its state. -/
theorem Unclosed.exit_eq (h : Unclosed g text entry s) : (exclusive g text entry).exit = s := by
  obtain ⟨r, inner, hmeets, hstop⟩ := h
  cases hmeets with
  | inherited hopen => exact exit_inherited hopen hstop
  | met h hpos hbegin hrule => rw [h.exit_eq, exit_unclosed h.isBoundary hpos hbegin hrule hstop]

/-- **Each look leads to a later one, until the line or its scan ends**, by induction on what is
    left of the line. -/
theorem Looks.normal_or_unclosed {pos : Nat} (h : Looks g text entry pos) :
    (exclusive g text entry).exit = .normal ∨ ∃ s, Unclosed g text entry s := by
  have hplace := h.isBoundary
  rcases Nat.eq_or_lt_of_le hplace.le_size with rfl | hpos
  · exact .inl (h.exit_eq.trans exit_end)
  -- the four cases are the constructors of `Looks` read forwards: each look has a next one, unless
  -- the line ends, the construct runs to its end, or its end is not found
  · cases hbegin : beginning g text pos with
    | none =>
      have hnext := text.lt_nextBoundary pos
      exact (h.quiet hpos hbegin).normal_or_unclosed
    | some m =>
      obtain ⟨kind, inner⟩ := m
      cases hrule : enclosing g kind with
      | none => exact .inl (h.exit_eq.trans (exit_line hplace hpos hbegin hrule))
      | some r =>
        cases hstop : (r.findEnd text inner).stop with
        | none => exact .inr ⟨_, r, inner, .met h hpos hbegin hrule, hstop⟩
        | some stop =>
          have hnext := lt_behind text pos stop
          exact (h.closed hpos hbegin hrule hstop).normal_or_unclosed
termination_by text.size - pos

/-- **A line leaves a construct open just if the scan does not find its end.** -/
theorem exit_eq_iff (hs : s ≠ .normal) :
    (exclusive g text entry).exit = s ↔ Unclosed g text entry s := by
  refine ⟨fun hexit => ?_, fun h => h.exit_eq⟩
  -- a line begins with a look, or with the construct that was left open
  have hmet : (exclusive g text entry).exit = .normal ∨ ∃ s, Unclosed g text entry s := by
    cases hopen : openRule g entry with
    | none => exact (Looks.start hopen).normal_or_unclosed
    | some r =>
      cases hstop : (r.findEnd text 0).stop with
      | none => exact .inr ⟨entry, r, 0, .inherited hopen, hstop⟩
      | some stop => exact (Looks.resumed hopen hstop).normal_or_unclosed
  rcases hmet with hnormal | ⟨s', h⟩
  · exact absurd (hexit.symm.trans hnormal) hs
  · rwa [← hexit, h.exit_eq]

end Looks

/-! ## Live states -/

section Live

variable {g : Grammar} {text : Text} {entry s : LineState} {r : BlockRule} {start inner : Nat}

/-- Only the rules that are enabled begin constructs, for a disabled one has no delimiters. -/
theorem Begins.isEnabled (h : Begins g text entry r start inner) : r.isEnabled = true := by
  cases h with
  | inherited _ henabled => exact henabled
  | opened _ hmatch =>
    obtain ⟨p, hp, -⟩ := matchAt_eq_some hmatch
    obtain ⟨d, hd, -⟩ := Option.map_eq_some_iff.mp hp
    rw [BlockRule.isEnabled, hd]
    rfl

/-- A construct that is met has the rule that the state names, and begins on the line or at its
    beginning. -/
theorem Meets.begins (h : Meets g text entry s r inner) (hs : s ≠ .normal) :
    leftOpen g s = some r ∧ ∃ start, Begins g text entry r start inner := by
  cases h with
  | inherited hopen =>
    rw [Scan.openRule_eq] at hopen
    obtain ⟨hleft, henabled⟩ := Option.filter_eq_some_iff.mp hopen
    exact ⟨hleft, 0, .inherited hleft henabled⟩
  | @met pos inner kind r h hpos hbegin hrule =>
    have hmatch := matchAt_of_enclosing hbegin hrule
    cases kind with
    | blockExpression i =>
      have hleft : leftOpen g (.inBlockExpression i) = some r := hrule
      exact ⟨hleft, pos, .opened (mem_blockRules_of_leftOpen hleft) hmatch⟩
    | blockComment =>
      have hleft : leftOpen g .inBlockComment = some r := hrule
      exact ⟨hleft, pos, .opened (mem_blockRules_of_leftOpen hleft) hmatch⟩
    | quotation | lineComment | lineExpression i => exact absurd rfl hs

/-- A state that names something is live if its rule is there and enabled. -/
theorem live_iff : s.Live g ↔ s = .normal ∨ ∃ r, leftOpen g s = some r ∧ r.isEnabled = true := by
  cases s with
  | normal => simp [LineState.Live]
  | inBlockComment => simp [LineState.Live, leftOpen]
  | inBlockExpression i => simp [LineState.Live, leftOpen]

/-- A state that is not live leaves nothing to go on with. -/
theorem exclusive_of_not_live (h : ¬entry.Live g) :
    exclusive g text entry = exclusive g text .normal := by
  have hopen : openRule g entry = none := by
    rw [Scan.openRule_eq, Option.filter_eq_none_iff]
    exact fun r hr henabled => h (live_iff.mpr (.inr ⟨r, hr, henabled⟩))
  have hnormal : openRule g .normal = none := rfl
  rw [exclusive_start hopen, exclusive_start hnormal]

end Live

end Plain

/-- **Line states always name a live construct.**  The state that a line leaves names a construct
    that the grammar has enabled, if it names any; it names the one that the line went on with, or
    that was met on it, and whose end was not found.  A line that begins in a state that is not live
    is highlighted like one that begins in the normal state. -/
theorem exit_live (g : Grammar) (text : Text) (entry : LineState) :
    (highlight g text entry).exit.Live g ∧
      (∀ s, s ≠ .normal → ((highlight g text entry).exit = s ↔ Plain.Unclosed g text entry s)) ∧
        (¬entry.Live g → highlight g text entry = highlight g text .normal) := by
  have hexit : (highlight g text entry).exit = (Plain.exclusive g text entry).exit := by
    rw [highlight, Scan.exclusive_eq]
  have hiff : ∀ s, s ≠ .normal →
      ((highlight g text entry).exit = s ↔ Plain.Unclosed g text entry s) := by
    intro s hs
    rw [hexit]
    exact Plain.exit_eq_iff hs
  refine ⟨Plain.live_iff.mpr ?_, hiff, fun hstale => ?_⟩
  · by_cases hnormal : (highlight g text entry).exit = .normal
    · exact .inl hnormal
    · obtain ⟨r, inner, hmeets, -⟩ := (hiff _ hnormal).mp rfl
      obtain ⟨hleft, start, hbegins⟩ := hmeets.begins hnormal
      exact .inr ⟨r, hleft, hbegins.isEnabled⟩
  · rw [highlight, highlight, Scan.exclusive_eq, Scan.exclusive_eq,
      Plain.exclusive_of_not_live hstale]

end Highlight
