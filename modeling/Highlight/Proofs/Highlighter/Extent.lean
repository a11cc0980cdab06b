/-
  How far the cascade goes after an edit.

  An edit costs as many lines as the cascade highlights again.  These are the edited lines, and
  after them just those that are entered in another state than before:

  1. **The cascade** — it ends at the first line, of those at which it may end, that leaves the
     state it is recorded to leave (`cascade_advances`).  In terms of the line behind it: the state
     in which that line is entered is the recorded one (`run_ran`).

  2. **Spliced records** — the state that is recorded behind the edited lines is the one in which
     the corresponding line was entered before the edit (`splice_entered?`).  This holds for the
     planted state behind the last new line, too, and where no line is inserted.

  3. **Reachable highlighters** — after any actions every line has been highlighted
     (`Reachable.known`), so that the cascade begins with the edit itself (`change_ran`).

  `Advances` and `Ran` say the same of lists and of highlighters: how far the cascade must go, what
  it leaves in the records, why it stops and why it has not stopped before.  The last two make the
  range the shortest possible one, and nothing in them speaks of how the cascade is computed.

  Main result: **`change_extent`**.
-/
import Mathlib.Order.Bounds.Defs
import Highlight.Proofs.Highlighter.Mirror

namespace Highlight

/-! ## The cascade -/

/-- The state behind some lines is that behind the last of them, entered as the first ones leave
    it. -/
theorem stateAfter_append (g : Grammar) (entry : LineState) (above below : List Text) :
    stateAfter g entry (above ++ below) = stateAfter g (stateAfter g entry above) below := by
  induction above generalizing entry with
  | nil => rfl
  | cons text rest ih => exact ih _

/-- The record of a line is that of the line entered in the state that the lines above leave. -/
theorem fullRecords_getElem? (g : Grammar) (entry : LineState) (texts : List Text) (n : Nat) :
    (fullRecords g entry texts)[n]? = texts[n]?.map fun text =>
      .ofHighlighted (highlight g text (stateAfter g entry (texts.take n))) := by
  induction n generalizing entry texts with
  | zero => cases texts <;> rfl
  | succ n ih =>
    cases texts with
    | nil => rfl
    | cons text rest => exact ih _ rest

/-- What the cascade does to the lines it counts, and why it ends behind them. -/
structure Advances (g : Grammar) (must : Nat) (entry : LineState) (records : List LineRecord)
    (texts : List Text) (result : List LineRecord × Nat) : Prop where
  must_le : min must records.length ≤ result.2
  recorded : result.1.take result.2 = fullRecords g entry (texts.take result.2)
  stopped : result.2 = records.length ∨ ∃ n, result.2 = n + 1 ∧
    records[n]?.bind (·.exit) = some (stateAfter g entry (texts.take (n + 1)))
  went_on : ∀ n, must ≤ n + 1 → n + 1 < result.2 →
    records[n]?.bind (·.exit) ≠ some (stateAfter g entry (texts.take (n + 1)))

/-- **The cascade ends where it may end for the first time**, by induction along the lines. -/
theorem cascade_advances (g : Grammar) (must : Nat) (entry : LineState)
    (records : List LineRecord) (texts : List Text) (hlen : records.length = texts.length) :
    Advances g must entry records texts (cascade g must entry records texts) := by
  induction records generalizing must entry texts with
  | nil => exact ⟨Nat.min_le_right _ _, rfl, .inl rfl, fun _ _ h => absurd h (Nat.not_lt_zero _)⟩
  | cons r records ih =>
    cases texts with
    | nil => exact absurd hlen (by simp)
    | cons text texts =>
      by_cases hstop : must ≤ 1 ∧ r.exit = some (highlight g text entry).exit
      · simp only [cascade, if_pos hstop]
        refine ⟨by omega, rfl, .inr ⟨0, rfl, hstop.2⟩, fun n _ h => ?_⟩
        exact absurd h (by omega)
      · have hlater := ih (must - 1) (highlight g text entry).exit texts (by simpa using hlen)
        simp only [cascade, if_neg hstop]
        generalize cascade g (must - 1) (highlight g text entry).exit records texts = result
          at hlater ⊢
        obtain ⟨written, count⟩ := result
        refine ⟨?_, ?_, ?_, ?_⟩
        · have hmust := hlater.must_le
          simp only [List.length_cons] at hmust ⊢
          omega
        · exact congrArg (_ :: ·) hlater.recorded
        · rcases hlater.stopped with hall | ⟨n, hn, hexit⟩
          · exact .inl (congrArg (· + 1) hall)
          · exact .inr ⟨n + 1, congrArg (· + 1) hn, hexit⟩
        · intro n hmust hn
          cases n with
          | zero => exact fun hexit => hstop ⟨hmust, hexit⟩
          | succ n => exact hlater.went_on n (by omega) (Nat.lt_of_succ_lt_succ hn)

namespace Highlighter

/-! ## Highlighting on from a line -/

/-- The state in which a line is recorded to be entered. -/
def entered? (hl : Highlighter) : (line : Nat) → Option LineState
  | 0 => some .normal
  | line + 1 => hl.exit? line

/-- The state in which a line is entered when the lines from `start` on are highlighted anew. -/
def entryFrom (hl : Highlighter) (buffer : Buffer) (start line : Nat) : LineState :=
  stateAfter hl.grammar (hl.entry start) ((buffer.lines.drop start).take (line - start))

/-- A line whose entry state is not recorded is entered in the normal one. -/
theorem entry_eq (hl : Highlighter) (line : Nat) :
    hl.entry line = (hl.entered? line).getD .normal := by
  cases line <;> rfl

/-- The first line that is highlighted anew is entered as recorded. -/
theorem entryFrom_self (hl : Highlighter) (buffer : Buffer) (start : Nat) :
    hl.entryFrom buffer start start = hl.entry start := by
  rw [entryFrom, Nat.sub_self, List.take_zero]
  rfl

theorem lines_getElem? {buffer : Buffer} {line : Nat} (h : line < buffer.length) :
    buffer.lines[line]? = some (buffer.line line) := by
  rw [Buffer.lines, List.getElem?_map, Buffer.line, List.getElem?_eq_getElem h]
  rfl

/-- Every further line is entered in the state that the line above it now leaves. -/
theorem entryFrom_succ (hl : Highlighter) {buffer : Buffer} {start line : Nat}
    (hstart : start ≤ line) (hline : line < buffer.length) :
    hl.entryFrom buffer start (line + 1)
      = (highlight hl.grammar (buffer.line line) (hl.entryFrom buffer start line)).exit := by
  have htext : (buffer.lines.drop start)[line - start]? = some (buffer.line line) := by
    rw [List.getElem?_drop, Nat.add_sub_cancel' hstart, lines_getElem? hline]
  rw [entryFrom, Nat.sub_add_comm hstart, List.take_add_one, htext, stateAfter_append]
  rfl

/-- What highlighting on from line `start`, at least up to line `reach`, does to a buffer if it ends
    before line `stop`: which lines it highlights, and what becomes of these and of the others. -/
structure Ran (hl : Highlighter) (buffer : Buffer) (start reach : Nat) (new : Highlighter)
    (stop : Nat) : Prop where
  grammar_eq : new.grammar = hl.grammar
  lineCount : new.records.length = buffer.length
  start_le : start ≤ stop
  stop_le : stop ≤ buffer.length
  reach_le : min reach buffer.length ≤ stop
  outside : ∀ i, i < start ∨ stop ≤ i → new.records[i]? = hl.records[i]?
  inside : ∀ i, start ≤ i → i < stop → new.records[i]?
    = some (.ofHighlighted (highlight hl.grammar (buffer.line i) (hl.entryFrom buffer start i)))
  stopped : stop = buffer.length ∨ hl.entered? stop = some (hl.entryFrom buffer start stop)
  went_on : ∀ i, start < i → reach ≤ i → i < stop →
    hl.entered? i ≠ some (hl.entryFrom buffer start i)

/-- **What highlighting on does to a buffer**, from what the cascade does to the lists behind the
    first line; all that is left is to count lines from the top of the buffer. -/
theorem run_ran (hl : Highlighter) {buffer : Buffer} {start : Nat} (reach : Nat)
    (hlen : hl.records.length = buffer.length) (hstart : start ≤ buffer.length) :
    Ran hl buffer start reach (hl.run buffer start reach).1 (hl.run buffer start reach).2.stop := by
  have hcount : (hl.records.drop start).length = (buffer.lines.drop start).length := by
    rw [List.length_drop, List.length_drop, hlen, length_lines]
  have hdrop : (hl.records.drop start).length = buffer.length - start := by
    rw [List.length_drop, hlen]
  have hadvances := cascade_advances hl.grammar (reach - start) (hl.entry start)
    (hl.records.drop start) (buffer.lines.drop start) hcount
  have hdiffers := run_differsIn hl buffer reach (Nat.le_trans hstart (Nat.le_of_eq hlen.symm))
  have htake : (hl.records.take start).length = start := List.length_take_of_le (by omega)
  unfold run at hdiffers ⊢
  generalize cascade hl.grammar (reach - start) (hl.entry start) (hl.records.drop start)
    (buffer.lines.drop start) = written at hadvances hdiffers ⊢
  obtain ⟨records, count⟩ := written
  obtain ⟨hmust, hrecorded, hstopped, hwent⟩ := hadvances
  obtain ⟨hlength, hstop, houtside⟩ := hdiffers
  simp only [LineRange.contains] at hmust hrecorded hstopped hwent hlength hstop houtside ⊢
  rw [hdrop] at hmust hstopped
  -- a recorded state, and what comes out there now, seen from the top of the buffer
  have hexit : ∀ n, (hl.records.drop start)[n]?.bind (·.exit) = hl.entered? (start + n + 1) := by
    intro n
    rw [List.getElem?_drop]
    rfl
  have hfrom : ∀ n, stateAfter hl.grammar (hl.entry start) ((buffer.lines.drop start).take (n + 1))
      = hl.entryFrom buffer start (start + n + 1) := by
    intro n
    rw [entryFrom, Nat.add_assoc, Nat.add_sub_cancel_left]
  have hreach : min reach buffer.length ≤ start + count := by clear hstopped; omega
  refine ⟨rfl, hlength.trans hlen, Nat.le_add_right _ _, hlen ▸ hstop, hreach, ?_, ?_, ?_, ?_⟩
  · intro i hi
    exact houtside i (by simp; omega)
  · intro i hlo hhi
    have hrecord : records[i - start]? = (records.take count)[i - start]? :=
      (List.getElem?_take_of_lt (by omega)).symm
    have htext : ((buffer.lines.drop start).take count)[i - start]? = some (buffer.line i) := by
      rw [List.getElem?_take_of_lt (by omega), List.getElem?_drop, Nat.add_sub_cancel' hlo,
        lines_getElem? (by omega)]
    rw [List.getElem?_append_right (by omega), htake, hrecord, hrecorded, fullRecords_getElem?,
      htext, List.take_take, Nat.min_eq_left (by omega)]
    rfl
  · rcases hstopped with hall | ⟨n, rfl, hsame⟩
    · exact .inl (by omega)
    · rw [hexit, hfrom] at hsame
      exact .inr hsame
  · intro i hlo hreach hhi
    obtain ⟨n, rfl⟩ : ∃ n, i = start + n + 1 := ⟨i - start - 1, by omega⟩
    rw [← hexit, ← hfrom]
    exact hwent n (by omega) (by omega)

section Ran

variable {hl new : Highlighter} {buffer : Buffer} {start reach line stop : Nat}

/-- The lines behind the first one, up to the end of the range, are now entered in the states that
    come out of the lines above them. -/
theorem Ran.entered?_eq (h : Ran hl buffer start reach new stop) (hlo : start < line)
    (hhi : line ≤ stop) : new.entered? line = some (hl.entryFrom buffer start line) := by
  obtain ⟨n, rfl⟩ : ∃ n, line = n + 1 := ⟨line - 1, by omega⟩
  have hstop := h.stop_le
  rw [entryFrom_succ hl (by omega) (by omega), entered?, exit?, h.inside n (by omega) (by omega)]
  rfl

/-- The first line is entered as before. -/
theorem Ran.entered?_start (h : Ran hl buffer start reach new stop) :
    new.entered? start = hl.entered? start := by
  cases start with
  | zero => rfl
  | succ n => rw [entered?, entered?, exit?, exit?, h.outside n (.inl (Nat.lt_succ_self n))]

/-- All lines of the range, and the one behind it, are now entered as the lines from the first one
    on have it. -/
theorem Ran.entry_eq (h : Ran hl buffer start reach new stop) (hlo : start ≤ line)
    (hhi : line ≤ stop) : new.entry line = hl.entryFrom buffer start line := by
  rw [new.entry_eq]
  rcases Nat.eq_or_lt_of_le hlo with rfl | hlt
  · rw [h.entered?_start, entryFrom_self, hl.entry_eq]
  · rw [h.entered?_eq hlt hhi]
    rfl

/-- Every line of the range is highlighted, and entered in the state that the line above leaves. -/
theorem Ran.highlighted (h : Ran hl buffer start reach new stop) (hlo : start ≤ line)
    (hhi : line < stop) :
    new.records[line]?
      = some (.ofHighlighted (highlight hl.grammar (buffer.line line) (new.entry line))) := by
  rw [h.entry_eq hlo (Nat.le_of_lt hhi)]
  exact h.inside line hlo hhi

end Ran

/-! ## Spliced records -/

/-- What is left of an edit in a buffer lies in it. -/
theorem clamp_le (edit : LineEdit) (count : Nat) :
    (edit.clamp count).start + (edit.clamp count).removed ≤ count := by
  simp only [LineEdit.clamp]
  omega

/-- An edit that lies in the buffer is left whole. -/
theorem clamp_eq {edit : LineEdit} {count : Nat} (h : edit.start + edit.removed ≤ count) :
    edit.clamp count = edit := by
  have hstart : min edit.start count = edit.start := by omega
  have hremoved : min edit.removed (count - edit.start) = edit.removed := by omega
  rw [LineEdit.clamp, hstart, hremoved]

section Splice

variable {records : List LineRecord} {edit : LineEdit} {line : Nat}
  (hinside : edit.start + edit.removed ≤ records.length)

include hinside

/-- The pieces of which the spliced records consist. -/
theorem splice_eq : splice records edit = records.take edit.start
    ++ plant (tailState records edit.start edit.removed)
      (newRecords edit.inserted ((records.drop edit.start).take edit.removed))
    ++ records.drop (edit.start + edit.removed) := by
  have hstart : min edit.start records.length = edit.start := by omega
  have hold : ((records.drop edit.start).take edit.removed).length = edit.removed := by
    rw [List.length_take, List.length_drop]
    omega
  simp only [splice, hstart, hold]

/-- Above the edit the records stay. -/
theorem splice_above (h : line < edit.start) : (splice records edit)[line]? = records[line]? := by
  rw [splice_eq hinside, List.append_assoc,
    List.getElem?_append_left (by rw [List.length_take]; omega), List.getElem?_take_of_lt h]

/-- Below the edit the records move along. -/
theorem splice_below (h : edit.start + edit.inserted ≤ line) :
    (splice records edit)[line]? = records[line - edit.inserted + edit.removed]? := by
  have hpieces : (records.take edit.start
      ++ plant (tailState records edit.start edit.removed)
        (newRecords edit.inserted ((records.drop edit.start).take edit.removed))).length
      = edit.start + edit.inserted := by
    rw [List.length_append, List.length_take, length_plant, length_newRecords]
    omega
  have hmoved : edit.start + edit.removed + (line - (edit.start + edit.inserted))
      = line - edit.inserted + edit.removed := by omega
  rw [splice_eq hinside, List.getElem?_append_right (by omega), List.getElem?_drop, hpieces, hmoved]

/-- The last new record holds the state in which the line behind the removed ones was entered. -/
theorem splice_last (h : line + 1 = edit.start + edit.inserted) (hsome : 0 < edit.inserted) :
    (splice records edit)[line]?.bind (·.exit) = tailState records edit.start edit.removed := by
  have htake : (records.take edit.start).length = edit.start := List.length_take_of_le (by omega)
  rw [splice_eq hinside, List.append_assoc, List.getElem?_append_right (by omega),
    List.getElem?_append_left (by rw [length_plant, length_newRecords]; omega), htake]
  exact plant_exit _ _ _ (by rw [length_newRecords]; omega)

end Splice

/-- The state kept for the lines behind the removed ones is the one in which they were entered. -/
theorem tailState_eq (hl : Highlighter) (start count : Nat) :
    tailState hl.records start count = hl.entered? (start + count) := by
  unfold tailState
  split
  · rename_i heq
    rw [heq]
    rfl
  · rename_i n heq
    rw [heq]
    rfl

/-- The highlighter with the records spliced, before any line is highlighted. -/
def spliced (hl : Highlighter) (edit : LineEdit) : Highlighter :=
  { hl with records := splice hl.records edit }

section Spliced

variable {hl : Highlighter} {buffer : Buffer} {edit : LineEdit} {line : Nat}
  (hinside : edit.start + edit.removed ≤ hl.records.length)

include hinside

/-- An edit changes the number of records by the lines that come and go. -/
theorem length_spliced : (hl.spliced edit).records.length
    = hl.records.length - edit.removed + edit.inserted := by
  have hlength := length_splice hl.records edit
  rwa [clamp_eq hinside] at hlength

/-- **Behind the edited lines the recorded state is that of the corresponding line.** -/
theorem splice_entered? (h : edit.start + max edit.inserted 1 ≤ line) :
    (hl.spliced edit).entered? line
      = hl.entered? (line - edit.inserted + edit.removed) := by
  obtain ⟨n, rfl⟩ : ∃ n, line = n + 1 := ⟨line - 1, by omega⟩
  show (splice hl.records edit)[n]?.bind (·.exit) = _
  rcases Nat.lt_or_ge n (edit.start + edit.inserted) with hlast | hbelow
  · -- right behind the last new line, where a state has been planted
    rw [splice_last hinside (by omega) (by omega), tailState_eq]
    congr 1
    omega
  · have hcut : n + 1 - edit.inserted + edit.removed = n - edit.inserted + edit.removed + 1 := by
      omega
    rw [splice_below hinside hbelow, hcut]
    rfl

/-- The line of the edit is entered as before. -/
theorem spliced_entered? : (hl.spliced edit).entered? edit.start = hl.entered? edit.start := by
  cases hstart : edit.start with
  | zero => rfl
  | succ n => rw [entered?, entered?, exit?, exit?, spliced, splice_above hinside (by omega)]

/-- Splicing changes nothing of how the edited line is entered, so highlighting on from it begins as
    it would have before. -/
theorem spliced_entryFrom (buffer : Buffer) (line : Nat) :
    (hl.spliced edit).entryFrom buffer edit.start line = hl.entryFrom buffer edit.start line := by
  rw [entryFrom, entryFrom, entry_eq, entry_eq, spliced_entered? hinside]
  rfl

/-- What an edit that lies in the buffer does: it highlights on if the lines come out right, and
    starts over if not. -/
theorem change_eq (buffer : Buffer) :
    hl.change buffer edit = if (hl.spliced edit).records.length = buffer.length
      then (hl.spliced edit).run buffer (firstUnknown (hl.spliced edit).records edit.start)
        (min (edit.start + max edit.inserted 1) (hl.spliced edit).records.length)
      else (hl.spliced edit).rehighlight buffer := by
  have hstart : min edit.start hl.records.length = edit.start := by omega
  simp only [change, hstart]
  rfl

end Spliced

/-! ## Reachable highlighters -/

/-- Every line has been highlighted. -/
def Known (hl : Highlighter) : Prop :=
  ∀ line < hl.records.length, ∃ state, hl.exit? line = some state

/-- After a full highlighting every line is known. -/
theorem known_of_upToDate {hl : Highlighter} {buffer : Buffer} (h : hl.UpToDate buffer) :
    hl.Known := by
  intro line hline
  have hlength : hl.records.length = buffer.lines.length := by rw [h, length_fullRecords]
  rw [exit?, h]
  exact ⟨_, fullRecords_exit _ _ _ line (hlength ▸ hline)⟩

section Known

variable {hl : Highlighter} {buffer : Buffer} {edit : LineEdit} {line : Nat}

/-- With every line known every entry state is recorded. -/
theorem Known.entered? (h : hl.Known) (hline : line ≤ hl.records.length) :
    hl.entered? line = some (hl.entry line) := by
  cases line with
  | zero => rfl
  | succ n =>
    obtain ⟨state, hstate⟩ := h n hline
    rw [Highlighter.entered?, entry, hstate]
    rfl

/-- No line above an edit has to be highlighted first. -/
theorem firstUnknown_of_known (h : hl.Known)
    (hinside : edit.start + edit.removed ≤ hl.records.length) :
    firstUnknown (hl.spliced edit).records edit.start = edit.start := by
  have habove : (splice hl.records edit).take edit.start = hl.records.take edit.start := by
    refine List.ext_getElem? fun i => ?_
    rw [List.getElem?_take, List.getElem?_take]
    split
    · rename_i hi
      exact splice_above hinside hi
    · rfl
  have hnone : (hl.records.take edit.start).findIdx? (·.exit.isNone) = none := by
    rw [List.findIdx?_eq_none_iff]
    intro r hr
    obtain ⟨line, hline, rfl⟩ := List.mem_iff_getElem.mp (List.mem_of_mem_take hr)
    obtain ⟨state, hstate⟩ := h line hline
    rw [exit?, List.getElem?_eq_getElem hline, Option.bind_some] at hstate
    rw [hstate]
    rfl
  rw [firstUnknown, spliced, habove, hnone]
  rfl

/-- **An edit highlights on from the line where it begins**, if every line has been highlighted and
    the number of lines comes out right. -/
theorem change_ran (h : hl.Known) (hinside : edit.start + edit.removed ≤ hl.records.length)
    (hcount : (hl.spliced edit).records.length = buffer.length) :
    (hl.change buffer edit).2.start = edit.start ∧
      Ran (hl.spliced edit) buffer edit.start (edit.start + max edit.inserted 1)
        (hl.change buffer edit).1 (hl.change buffer edit).2.stop := by
  have hlength := length_spliced hinside
  have hran := run_ran (hl.spliced edit) (min (edit.start + max edit.inserted 1) buffer.length)
    hcount (show edit.start ≤ buffer.length by omega)
  rw [change_eq hinside, if_pos hcount, firstUnknown_of_known h hinside, hcount]
  refine ⟨rfl, ?_⟩
  exact { hran with
    reach_le := by
      have hreach := hran.reach_le
      omega
    went_on := fun i hlo hreach hhi => hran.went_on i hlo (by omega) hhi }

/-- Behind the lines that are highlighted again the records have moved along with their lines. -/
theorem below_of_ran {new : Highlighter} {stop : Nat}
    (hinside : edit.start + edit.removed ≤ hl.records.length)
    (h : Ran (hl.spliced edit) buffer edit.start (edit.start + max edit.inserted 1) new stop)
    (hstop : stop ≤ line) (hline : line < buffer.length) :
    edit.inserted ≤ line ∧
      new.records[line]? = hl.records[line - edit.inserted + edit.removed]? := by
  have hreach := h.reach_le
  refine ⟨by omega, (h.outside line (.inr hstop)).trans ?_⟩
  exact splice_below hinside (by omega)

/-- For an edit that lies in the buffer: the lines above it stay known, those of the range become
    so, and those below it were known before they moved. -/
theorem change_known_of_inside (h : hl.Known)
    (hinside : edit.start + edit.removed ≤ hl.records.length) :
    (hl.change buffer edit).1.Known := by
  by_cases hcount : (hl.spliced edit).records.length = buffer.length
  · obtain ⟨-, hran⟩ := change_ran h hinside hcount
    have hlength := length_spliced hinside
    intro line hline
    rw [hran.lineCount] at hline
    rcases Nat.lt_or_ge line edit.start with habove | hge
    · rw [exit?, hran.outside line (.inl habove)]
      exact (splice_above hinside habove).symm ▸ h line (by omega)
    rcases Nat.lt_or_ge line (hl.change buffer edit).2.stop with hlt | hbelow
    · rw [exit?, hran.inside line hge hlt]
      exact ⟨_, rfl⟩
    · obtain ⟨hinserted, hrecord⟩ := below_of_ran hinside hran hbelow hline
      rw [exit?, hrecord]
      exact h _ (by omega)
  · rw [change_eq hinside, if_neg hcount]
    exact known_of_upToDate (rehighlight_upToDate _ buffer)

/-- **An edit leaves no line that has not been highlighted.** -/
theorem change_known (h : hl.Known) (buffer : Buffer) (edit : LineEdit) :
    (hl.change buffer edit).1.Known := by
  rw [← change_clamp]
  exact change_known_of_inside h (clamp_le _ _)

end Known

/-- A highlighter to which some actions have led, whatever the edits among them say. -/
def Reachable (hl : Highlighter) : Prop := ∃ g theme steps, hl = play ⟨g, theme, []⟩ steps

/-- Every action leaves all lines known; all but the edits highlight everything. -/
theorem perform_known {hl : Highlighter} (action : Action) (buffer : Buffer) (h : hl.Known) :
    (action.perform hl buffer).Known := by
  cases action with
  | rehighlight => exact known_of_upToDate (rehighlight_upToDate hl buffer)
  | setSnapshot grammar theme => exact known_of_upToDate (rehighlight_upToDate _ buffer)
  | setTheme theme => exact known_of_upToDate (rehighlight_upToDate _ buffer)
  | change edit => exact change_known h buffer edit
  | update edit => exact change_known h buffer edit

/-- **Every line of a reachable highlighter has been highlighted**, by induction along the
    actions. -/
theorem Reachable.known {hl : Highlighter} (h : hl.Reachable) : hl.Known := by
  obtain ⟨g, theme, steps, rfl⟩ := h
  have hplay : ∀ (steps : List (Action × Buffer)) (hl : Highlighter), hl.Known →
      (play hl steps).Known := by
    intro steps
    induction steps with
    | nil => exact fun _ h => h
    | cons step rest ih => exact fun hl h => ih _ (perform_known step.1 step.2 h)
  exact hplay steps _ fun line hline => absurd hline (Nat.not_lt_zero line)

/-! ## How far an edit is followed -/

/-- An edit of lines that are there is followed from its first line on, and no further than up to
    the first line behind it that is entered in the state in which it was entered before: this is
    the least line, not above the end of the edit, that is not there at all or is so entered. -/
structure FollowedUpTo (hl : Highlighter) (buffer : Buffer) (edit : LineEdit) (new : Highlighter)
    (range : LineRange) : Prop where
  start_eq : range.start = edit.start
  isLeast : IsLeast {line | min (edit.start + max edit.inserted 1) buffer.length ≤ line ∧
    (line = buffer.length ∨ hl.entered? (line - edit.inserted + edit.removed)
      = some (hl.entryFrom buffer edit.start line))} range.stop
  entered : ∀ line, edit.start ≤ line → line ≤ range.stop →
    new.entered? line = some (hl.entryFrom buffer edit.start line)
  /-- No line behind the edited ones is highlighted again unless it is entered otherwise. -/
  needed : ∀ line, edit.start + max edit.inserted 1 ≤ line → line < range.stop →
    new.entered? line ≠ hl.entered? (line - edit.inserted + edit.removed)

/-- An edit of lines that are there is followed so if every line has been highlighted. -/
theorem change_followed {hl : Highlighter} {buffer : Buffer} {edit : LineEdit} (h : hl.Known)
    (hinside : edit.start + edit.removed ≤ hl.records.length)
    (hcount : (hl.spliced edit).records.length = buffer.length) :
    hl.FollowedUpTo buffer edit (hl.change buffer edit).1 (hl.change buffer edit).2 := by
  obtain ⟨hstart, hran⟩ := change_ran h hinside hcount
  have hreach := hran.reach_le
  -- the entry states up to the end of the range, as the lines of the range leave them
  have hentered : ∀ line, edit.start ≤ line → line ≤ (hl.change buffer edit).2.stop →
      (hl.change buffer edit).1.entered? line = some (hl.entryFrom buffer edit.start line) := by
    intro line hlo hhi
    rcases Nat.eq_or_lt_of_le hlo with rfl | hlt
    · rw [hran.entered?_start, spliced_entered? hinside, entryFrom_self]
      exact h.entered? (by omega)
    · rw [hran.entered?_eq hlt hhi, spliced_entryFrom hinside]
  -- none of the lines it went on to was recorded to be entered so
  have hwent : ∀ line, edit.start + max edit.inserted 1 ≤ line →
      line < (hl.change buffer edit).2.stop →
        hl.entered? (line - edit.inserted + edit.removed)
          ≠ some (hl.entryFrom buffer edit.start line) := by
    intro line hlo hhi
    rw [← splice_entered? hinside hlo, ← spliced_entryFrom hinside]
    exact hran.went_on line (by omega) hlo hhi
  -- the range ends at the first line that is entered as before, or with the buffer
  refine ⟨hstart, ⟨⟨hreach, ?_⟩, ?_⟩, hentered, ?_⟩
  · rcases hran.stopped with hall | hsame
    · exact .inl hall
    · rcases Nat.lt_or_ge (hl.change buffer edit).2.stop buffer.length with hlt | hge
      · rw [splice_entered? hinside (by omega), spliced_entryFrom hinside] at hsame
        exact .inr hsame
      · exact .inl (Nat.le_antisymm hran.stop_le hge)
  · rintro line ⟨hlo, hhere⟩
    refine Nat.le_of_not_lt fun hlt => ?_
    have hstop := hran.stop_le
    rcases hhere with rfl | hsame
    · omega
    · exact hwent line (by omega) hlt hsame
  · intro line hlo hhi hsame
    rw [hentered line (by omega) (Nat.le_of_lt hhi)] at hsame
    exact hwent line hlo hhi hsame.symm

/-- **The cascade highlights again what it must and no more.**  In every highlighter to which some
    actions have led, an edit that brings the number of lines to that of the buffer is followed just
    up to the first line that is entered as before. -/
theorem change_extent {hl : Highlighter} {buffer : Buffer} {edit : LineEdit} (h : hl.Reachable)
    (hcount : hl.records.length - (edit.clamp hl.records.length).removed + edit.inserted
      = buffer.length) :
    hl.FollowedUpTo buffer (edit.clamp hl.records.length) (hl.change buffer edit).1
      (hl.change buffer edit).2 := by
  have hinside := clamp_le edit hl.records.length
  rw [← change_clamp]
  exact change_followed h.known hinside ((length_spliced hinside).trans hcount)

/-- A line that closes a comment is inserted into it, and the lines behind the comment are left
    alone. -/
theorem change_extent_parenComments :
    let opened : Buffer := ["(a".toList, "b".toList, "c)".toList, "d".toList, "e".toList]
    let closed : Buffer :=
      ["(a".toList, ")".toList, "b".toList, "c)".toList, "d".toList, "e".toList]
    let edit : LineEdit := ⟨1, 0, 1⟩
    let hl := play ⟨parenComments, default, []⟩ [(.rehighlight, opened)]
    hl.Reachable ∧
      hl.records.length - (edit.clamp hl.records.length).removed + edit.inserted = closed.length ∧
      hl.FollowedUpTo closed (edit.clamp hl.records.length) (hl.change closed edit).1
        (hl.change closed edit).2 := by
  intro opened closed edit hl
  have hreachable : hl.Reachable := ⟨_, _, _, rfl⟩
  have hcount : hl.records.length - (edit.clamp hl.records.length).removed + edit.inserted
      = closed.length := by decide
  exact ⟨hreachable, hcount, change_extent hreachable hcount⟩

/-- Three lines of six are highlighted again. -/
example : ((play ⟨parenComments, default, []⟩
    [(.rehighlight, ["(a".toList, "b".toList, "c)".toList, "d".toList, "e".toList])]).change
      ["(a".toList, ")".toList, "b".toList, "c)".toList, "d".toList, "e".toList] ⟨1, 0, 1⟩).2
    = ⟨1, 4⟩ := by decide

end Highlighter

end Highlight
