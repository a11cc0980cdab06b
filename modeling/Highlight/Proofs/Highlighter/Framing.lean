/-
  What an edit leaves alone, whatever it says.

  An edit need not be true: it may begin behind the last line, remove lines that are not there, or
  insert other numbers of lines than really came.  The records stay sound all the same, because only
  what is left of the edit in the buffer is done, and because a wrong number of lines starts the
  highlighting over.

  1. **Indices** — `Indexed.change` brings the records up to date by indices, as a program with
     arrays does it: the state above a line, the lines to be replaced, and in the cascade the line
     and its text are looked up, and a look-up where nothing stands ends it with an error.  None
     does (`Indexed.change_eq`): there is one equation for every function, under the bound that its
     caller has checked.

  2. **The frame** — the lines of the range are highlighted one after the other, those above it
     stay, and those below it move along (`change_framed_of_known`).  An edit whose numbers do not
     come out right highlights everything, so there is nothing below or above (`rehighlight_framed`).

  Main result: **`change_framed`**.
-/
import Highlight.Proofs.Highlighter.Extent

namespace Highlight

open Highlighter

/-! ## Indices -/

namespace Indexed

/-- What stands at an index; where nothing stands, the error is the index. -/
def get {α : Type} (xs : List α) (i : Nat) : Except Nat α :=
  match xs[i]? with
  | some x => .ok x
  | none => .error i

/-- A list cut before two indices; if they do not lie in it one behind the other, the error is the
    second. -/
def cut {α : Type} (xs : List α) (start stop : Nat) : Except Nat (List α × List α × List α) :=
  if start ≤ stop ∧ stop ≤ xs.length
  then .ok (xs.take start, (xs.drop start).take (stop - start), xs.drop stop)
  else .error stop

/-- The state recorded of the line above a line. -/
def stateAbove (records : List LineRecord) : (line : Nat) → Except Nat (Option LineState)
  | 0 => .ok (some .normal)
  | line + 1 => do
    let r ← get records line
    return r.exit

/-- Highlight line after line, at least up to line `reach`, and then until a line leaves the state
    it is recorded to leave; the answer tells before which line this ends. -/
def cascade (g : Grammar) (buffer : Buffer) (reach line : Nat) (entry : LineState)
    (records : List LineRecord) : Except Nat (List LineRecord × Nat) :=
  if line < records.length then do
    let text ← get buffer line
    let r ← get records line
    let h := highlight g (Text.stripTerminator text) entry
    if reach ≤ line + 1 ∧ r.exit = some h.exit then
      return (records.set line (.ofHighlighted h), line + 1)
    else cascade g buffer reach (line + 1) h.exit (records.set line (.ofHighlighted h))
  else return (records, line)
termination_by records.length - line

/-- Highlight from line `start` on, at least up to line `reach`. -/
def run (hl : Highlighter) (buffer : Buffer) (start reach : Nat) :
    Except Nat (Highlighter × LineRange) := do
  let entry ← stateAbove hl.records start
  let (records, stop) ← cascade hl.grammar buffer reach start (entry.getD .normal) hl.records
  return ({ hl with records := records }, ⟨start, stop⟩)

/-- Replace the records of edited lines; lines that are not there are not removed. -/
def splice (hl : Highlighter) (edit : LineEdit) : Except Nat Highlighter := do
  let start := min edit.start hl.records.length
  let removed := min edit.removed (hl.records.length - start)
  let tail ← stateAbove hl.records (start + removed)
  let (above, old, below) ← cut hl.records start (start + removed)
  let (above, _, below) ← cut (above ++ List.replicate edit.inserted {} ++ below) start
    (start + edit.inserted)
  return { hl with records := above ++ plant tail (newRecords edit.inserted old) ++ below }

/-- Bring the records up to date after an edit, `buffer` being the lines after it. -/
def change (hl : Highlighter) (buffer : Buffer) (edit : LineEdit) :
    Except Nat (Highlighter × LineRange) := do
  let start := min edit.start hl.records.length
  let spliced ← splice hl edit
  if spliced.records.length = buffer.length then
    let (_, above, _) ← cut spliced.records 0 start
    let first := (above.findIdx? (·.exit.isNone)).getD start
    run spliced buffer first (min (start + max edit.inserted 1) spliced.records.length)
  else
    run { spliced with records := List.replicate buffer.length {} } buffer 0 buffer.length

section Eq

variable {α : Type} {xs : List α} {hl : Highlighter} {buffer : Buffer} {start line : Nat}

theorem get_eq {x : α} (h : xs[line]? = some x) : get xs line = .ok x := by
  rw [get, h]

theorem cut_eq {stop : Nat} (hlo : start ≤ stop) (hhi : stop ≤ xs.length) :
    cut xs start stop
      = .ok (xs.take start, (xs.drop start).take (stop - start), xs.drop stop) :=
  if_pos ⟨hlo, hhi⟩

/-- The state above a line is looked up in the record above it, which is there. -/
theorem stateAbove_eq (h : line ≤ hl.records.length) :
    stateAbove hl.records line = .ok (hl.entered? line) := by
  cases line with
  | zero => rfl
  | succ n =>
    have hrecord := List.getElem?_eq_getElem (l := hl.records) (i := n) h
    rw [stateAbove, get_eq hrecord, entered?, exit?, hrecord]
    rfl

/-- **The cascade looks up only lines that are there**, by induction on those that follow. -/
theorem cascade_eq (g : Grammar) (buffer : Buffer) (reach : Nat) (entry : LineState)
    (above records : List LineRecord) (hlen : above.length + records.length = buffer.length) :
    cascade g buffer reach above.length entry (above ++ records)
      = .ok (above ++ (Highlight.cascade g (reach - above.length) entry records
            (buffer.lines.drop above.length)).1,
          above.length + (Highlight.cascade g (reach - above.length) entry records
            (buffer.lines.drop above.length)).2) := by
  induction records generalizing above entry with
  | nil =>
    rw [cascade, if_neg (by simp)]
    rfl
  | cons r records ih =>
    have hline : above.length < buffer.length := by
      rw [List.length_cons] at hlen
      omega
    have hrecord : (above ++ r :: records)[above.length]? = some r := by simp
    have htexts : buffer.lines.drop above.length
        = Text.stripTerminator buffer[above.length] :: buffer.lines.drop (above.length + 1) := by
      rw [List.drop_eq_getElem_cons (by rw [length_lines]; exact hline)]
      congr 1
      exact List.getElem_map _
    have hset : ∀ r', (above ++ r :: records).set above.length r' = (above ++ [r']) ++ records := by
      simp
    have hlater := ih (highlight g (Text.stripTerminator buffer[above.length]) entry).exit
      (above ++ [.ofHighlighted (highlight g (Text.stripTerminator buffer[above.length]) entry)])
      (by simp at hlen ⊢; omega)
    have hmust : reach - above.length ≤ 1 ↔ reach ≤ above.length + 1 := by omega
    have hnext : reach - above.length - 1 = reach - (above.length + 1) := by omega
    rw [cascade, if_pos (by simp), get_eq (List.getElem?_eq_getElem hline), get_eq hrecord, htexts]
    simp only [Highlight.cascade, hmust, hset, bind, Except.bind, pure, Except.pure]
    split
    · simp [LineRecord.ofHighlighted]
    · rw [List.length_append, List.length_singleton] at hlater
      rw [hlater, hnext]
      simp [LineRecord.ofHighlighted]
      omega

/-- Highlighting on looks up the line above its first one, and then those of the cascade. -/
theorem run_eq (hl : Highlighter) {buffer : Buffer} (reach : Nat)
    (hlen : hl.records.length = buffer.length) (hstart : start ≤ hl.records.length) :
    run hl buffer start reach = .ok (hl.run buffer start reach) := by
  have htake : (hl.records.take start).length = start := List.length_take_of_le hstart
  have hcascade := cascade_eq hl.grammar buffer reach (hl.entry start) (hl.records.take start)
    (hl.records.drop start) (by rw [htake, List.length_drop]; omega)
  rw [List.take_append_drop, htake] at hcascade
  rw [run, stateAbove_eq hstart]
  simp only [bind, Except.bind, ← hl.entry_eq, hcascade]
  rfl

/-- An edit that lies in the buffer cuts the records where they are: at its first line and behind
    the last removed one, and then behind the last new one. -/
theorem splice_eq_of_inside {edit : LineEdit}
    (hinside : edit.start + edit.removed ≤ hl.records.length) :
    splice hl edit = .ok (hl.spliced edit) := by
  have hpieces := Highlighter.splice_eq hinside
  rw [tailState_eq] at hpieces
  have hstart : min edit.start hl.records.length = edit.start := by omega
  have hremoved : min edit.removed (hl.records.length - edit.start) = edit.removed := by omega
  have habove : (hl.records.take edit.start).length = edit.start :=
    List.length_take_of_le (by omega)
  have hnew : (hl.records.take edit.start
      ++ List.replicate edit.inserted ({} : LineRecord)).length = edit.start + edit.inserted := by
    rw [List.length_append, List.length_replicate, habove]
  simp only [splice, hstart, hremoved]
  clear hstart hremoved
  rw [stateAbove_eq hinside, cut_eq (Nat.le_add_right _ _) hinside]
  simp only [bind, Except.bind]
  rw [cut_eq (Nat.le_add_right _ _) (by rw [List.length_append]; omega)]
  simp only [pure, Except.pure]
  rw [List.drop_left' hnew, List.append_assoc, List.append_assoc, List.take_left' habove, spliced,
    hpieces, Nat.add_sub_cancel_left, List.append_assoc]

/-- So the whole of it meets no index that is not there. -/
theorem change_eq_of_inside {edit : LineEdit} (buffer : Buffer)
    (hinside : edit.start + edit.removed ≤ hl.records.length) :
    change hl buffer edit = .ok (hl.change buffer edit) := by
  have hlength := length_spliced hinside
  have hfirst := firstUnknown_le (hl.spliced edit).records edit.start
  have hstart : min edit.start hl.records.length = edit.start := by omega
  rw [Highlighter.change_eq hinside, change, splice_eq_of_inside hinside]
  simp only [bind, Except.bind, hstart]
  split
  · rename_i hcount
    rw [cut_eq (Nat.zero_le _) (by omega)]
    have hrun := run_eq (hl.spliced edit)
      (min (edit.start + max edit.inserted 1) (hl.spliced edit).records.length) hcount
      (Nat.le_trans hfirst (by omega))
    exact hrun
  · exact run_eq _ _ (List.length_replicate ..) (Nat.zero_le _)

/-- An edit does what is left of it in the buffer. -/
theorem change_clamp (hl : Highlighter) (buffer : Buffer) (edit : LineEdit) :
    change hl buffer (edit.clamp hl.records.length) = change hl buffer edit := by
  have hstart : min (min edit.start hl.records.length) hl.records.length
      = min edit.start hl.records.length := Nat.min_eq_left (Nat.min_le_right _ _)
  have hremoved : ∀ left, min (min edit.removed left) left = min edit.removed left :=
    fun left => Nat.min_eq_left (Nat.min_le_right _ _)
  simp only [change, splice, LineEdit.clamp, hstart, hremoved]

/-- **An edit looks up only lines that are there.** -/
theorem change_eq (hl : Highlighter) (buffer : Buffer) (edit : LineEdit) :
    change hl buffer edit = .ok (hl.change buffer edit) := by
  rw [← change_clamp, ← Highlighter.change_clamp]
  exact change_eq_of_inside buffer (clamp_le _ _)

end Eq

end Indexed

/-! ## The frame -/

namespace Highlighter

/-- What an edit of lines that are there does to the lines of a buffer: those in the range are
    highlighted one after the other, and all others are as before, those below the edit under the
    numbers they have now. -/
structure Framed (old : Highlighter) (buffer : Buffer) (edit : LineEdit) (new : Highlighter)
    (range : LineRange) : Prop where
  grammar_eq : new.grammar = old.grammar
  lineCount : new.records.length = buffer.length
  known : new.Known
  range_le : range.start ≤ range.stop ∧ range.stop ≤ buffer.length
  inside : ∀ line, range.start ≤ line → line < range.stop →
    let h := highlight old.grammar (buffer.line line) (new.entry line)
    new.exit? line = some h.exit ∧ new.spans line = h.spans
  above : ∀ line < range.start, new.records[line]? = old.records[line]?
  below : ∀ line, range.stop ≤ line → line < buffer.length →
    edit.inserted ≤ line ∧ line - edit.inserted + edit.removed < old.records.length ∧
      new.records[line]? = old.records[line - edit.inserted + edit.removed]?

section Framed

variable {hl new : Highlighter} {buffer : Buffer} {edit : LineEdit} {start reach stop line : Nat}

/-- A line of the range shows what highlighting it in its new entry state gives. -/
theorem Ran.shown (h : Ran hl buffer start reach new stop) (hlo : start ≤ line)
    (hhi : line < stop) :
    new.exit? line = some (highlight hl.grammar (buffer.line line) (new.entry line)).exit ∧
      new.spans line = (highlight hl.grammar (buffer.line line) (new.entry line)).spans := by
  have hrecord := h.highlighted hlo hhi
  constructor
  · rw [exit?, hrecord]
    rfl
  · rw [spans, hrecord]
    rfl

/-- Highlighting everything leaves no line outside the range. -/
theorem rehighlight_framed (hl : Highlighter) (buffer : Buffer) (edit : LineEdit) :
    Framed hl buffer edit (hl.rehighlight buffer).1 (hl.rehighlight buffer).2 := by
  have hran := run_ran { hl with records := List.replicate buffer.length {} } buffer.length
    (List.length_replicate ..) (Nat.zero_le buffer.length)
  have hreach := hran.reach_le
  exact {
    grammar_eq := rfl
    lineCount := hran.lineCount
    known := known_of_upToDate (rehighlight_upToDate hl buffer)
    range_le := ⟨Nat.zero_le _, hran.stop_le⟩
    inside := fun line _ hhi => hran.shown (Nat.zero_le line) hhi
    above := fun line hline => absurd hline (Nat.not_lt_zero line)
    below := fun line hstop hline => by
      have hall : buffer.length ≤ (hl.rehighlight buffer).2.stop := by
        rw [Nat.min_self] at hreach
        exact hreach
      omega }

/-- **Where every line has been highlighted an edit leaves all lines outside its range alone.** -/
theorem change_framed_of_known (h : hl.Known)
    (hinside : edit.start + edit.removed ≤ hl.records.length) (buffer : Buffer) :
    Framed hl buffer edit (hl.change buffer edit).1 (hl.change buffer edit).2 := by
  by_cases hcount : (hl.spliced edit).records.length = buffer.length
  · obtain ⟨hstart, hran⟩ := change_ran h hinside hcount
    have hlength := length_spliced hinside
    exact {
      grammar_eq := change_grammar hl buffer edit
      lineCount := hran.lineCount
      known := change_known h buffer edit
      range_le := ⟨hstart ▸ hran.start_le, hran.stop_le⟩
      inside := fun line hlo hhi => hran.shown (hstart ▸ hlo) hhi
      above := fun line hline => by
        rw [hstart] at hline
        exact (hran.outside line (.inl hline)).trans (splice_above hinside hline)
      below := fun line hstop hline => by
        obtain ⟨hinserted, hrecord⟩ := below_of_ran hinside hran hstop hline
        exact ⟨hinserted, by omega, hrecord⟩ }
  · rw [Highlighter.change_eq hinside, if_neg hcount]
    exact rehighlight_framed hl buffer _

end Framed

/-- **Edits are framed even when they lie.**  In every highlighter to which some actions have led,
    and with any buffer, an edit looks up only lines that are there, whatever it says.  It leaves a
    state for every line of the buffer; the lines in the range that it answers are highlighted one
    after the other, and the others are as they were. -/
theorem change_framed {hl : Highlighter} (h : hl.Reachable) (buffer : Buffer) (edit : LineEdit) :
    Indexed.change hl buffer edit = .ok (hl.change buffer edit) ∧
      hl.Framed buffer (edit.clamp hl.records.length) (hl.change buffer edit).1
        (hl.change buffer edit).2 := by
  refine ⟨Indexed.change_eq hl buffer edit, ?_⟩
  rw [← change_clamp]
  exact change_framed_of_known h.known (clamp_le _ _) buffer

/-- An edit that removes more lines than there are, in a buffer that has changed above it, too. -/
theorem change_framed_untrue :
    let before : Buffer := ["(a".toList, "b".toList, "c)".toList]
    let now : Buffer := ["a".toList, "(b".toList, "c".toList]
    let edit : LineEdit := ⟨1, 9, 2⟩
    let hl := play ⟨parenComments, default, []⟩ [(.rehighlight, before)]
    hl.Reachable ∧ Indexed.change hl now edit = .ok (hl.change now edit) ∧
      hl.Framed now (edit.clamp hl.records.length) (hl.change now edit).1
        (hl.change now edit).2 := by
  intro before now edit hl
  have hreachable : hl.Reachable := ⟨_, _, _, rfl⟩
  exact ⟨hreachable, change_framed hreachable now edit⟩

/-- The first line is still taken for the beginning of a comment. -/
example :
    let before : Buffer := ["(a".toList, "b".toList, "c)".toList]
    let now : Buffer := ["a".toList, "(b".toList, "c".toList]
    let after := (play ⟨parenComments, default, []⟩ [(.rehighlight, before)]).change now ⟨1, 9, 2⟩
    after.2 = ⟨1, 3⟩ ∧ after.1.exit? 0 = some .inBlockComment ∧
      after.1.exit? 2 = some .inBlockComment := by decide

end Highlighter

end Highlight
