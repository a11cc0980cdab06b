/-
  What an edit makes of a highlighted buffer.

  The lines of the buffer before the edit are `above ++ gone ++ below`, those after it
  `above ++ mid ++ below`.  The records of the lines above stay, and the cascade starts behind them.
  It has to get past the lines in between.  The last of these is recorded to leave the state in
  which `below` was entered before the edit, so that this state is trusted, and so are all recorded
  states further down (`trusted_spliced`).  Where nothing was inserted there is no such line, and
  the first line below is the first at which the cascade may stop.

  Main statement: **`change_describes`**, an edit that tells the truth about the buffer keeps the
  records those of the full highlighting.
-/
import Highlight.Proofs.Highlighter.Cascade

namespace Highlight

/-- The edit turns one buffer into the other: the lines it removes are there, and as many lines as
    it inserts have taken their place. -/
structure LineEdit.Describes (edit : LineEdit) (old new : Buffer) : Prop where
  inside : edit.start + edit.removed ≤ old.length
  replaced : ∃ mid : Buffer, mid.length = edit.inserted ∧
    new = old.take edit.start ++ mid ++ old.drop (edit.start + edit.removed)

/-- What is left of an edit in a buffer of `n` lines: lines that are not there are not removed. -/
def LineEdit.clamp (edit : LineEdit) (n : Nat) : LineEdit :=
  ⟨min edit.start n, min edit.removed (n - min edit.start n), edit.inserted⟩

/-- Such an edit cuts the lines in three and puts others in the place of those in the middle. -/
theorem LineEdit.Describes.exists_lines {edit : LineEdit} {old new : Buffer}
    (h : edit.Describes old new) :
    ∃ above gone mid below : List Text,
      old.lines = above ++ gone ++ below ∧ new.lines = above ++ (mid ++ below) ∧
      edit.start = above.length ∧ edit.removed = gone.length ∧ edit.inserted = mid.length := by
  obtain ⟨hinside, mid, hmid, hnew⟩ := h
  refine ⟨(old.take edit.start).map Text.stripTerminator,
    ((old.drop edit.start).take edit.removed).map Text.stripTerminator,
    mid.map Text.stripTerminator,
    (old.drop (edit.start + edit.removed)).map Text.stripTerminator, ?_, ?_, ?_, ?_, ?_⟩
  · rw [← List.map_append, ← List.map_append, List.append_assoc, ← List.drop_drop,
      List.take_append_drop, List.take_append_drop]
    rfl
  · rw [hnew, Buffer.lines, List.map_append, List.map_append, List.append_assoc]
  · rw [List.length_map, List.length_take]
    omega
  · rw [List.length_map, List.length_take, List.length_drop]
    omega
  · rw [List.length_map, hmid]

namespace Highlighter

/-! ## The spliced records

  An edit does not look at the text of the lines it removes, only at their number.  All that is to
  be known of the splice is how long it comes out and which exit its last new record holds. -/

@[simp] theorem length_plant (state : Option LineState) (records : List LineRecord) :
    (plant state records).length = records.length := by
  induction records with
  | nil => rfl
  | cons r rest ih =>
    cases rest with
    | nil => rfl
    | cons r' rest =>
      show (r :: plant state (r' :: rest)).length = _
      rw [List.length_cons, ih, List.length_cons, List.length_cons, List.length_cons]

/-- The last of the planted records holds the planted state. -/
theorem plant_exit (state : Option LineState) (records : List LineRecord) (n : Nat)
    (hn : n + 1 = records.length) : (plant state records)[n]?.bind (·.exit) = state := by
  induction records generalizing n with
  | nil => exact absurd hn (Nat.succ_ne_zero n)
  | cons r rest ih =>
    cases rest with
    | nil =>
      obtain rfl : n = 0 := by simpa using hn
      rfl
    | cons r' rest =>
      obtain ⟨m, rfl⟩ : ∃ m, n = m + 1 := ⟨n - 1, by simp at hn; omega⟩
      show (r :: plant state (r' :: rest))[m + 1]?.bind (·.exit) = state
      rw [List.getElem?_cons_succ]
      exact ih m (by simpa using hn)

@[simp] theorem length_newRecords (count : Nat) (old : List LineRecord) :
    (newRecords count old).length = count := by simp [newRecords]

/-- The edit counts lines: those it inserts come, and those it removes go, as far as they are
    there. -/
theorem length_splice (records : List LineRecord) (edit : LineEdit) :
    (splice records edit).length
      = records.length - (edit.clamp records.length).removed + edit.inserted := by
  simp only [splice, LineEdit.clamp, List.length_append, List.length_take, List.length_drop,
    length_plant, length_newRecords]
  omega

/-- Only the lines that are there count. -/
theorem splice_clamp (records : List LineRecord) (edit : LineEdit) :
    splice records (edit.clamp records.length) = splice records edit := by
  have hold : (records.drop (min edit.start records.length)).take
        (min edit.removed (records.length - min edit.start records.length))
      = (records.drop (min edit.start records.length)).take edit.removed := by
    rw [← List.length_drop, ← List.take_take, List.take_length]
  have hstart : min (min edit.start records.length) records.length
      = min edit.start records.length := Nat.min_eq_left (Nat.min_le_right _ _)
  simp only [splice, LineEdit.clamp, hstart, hold]

/-- An edit does what is left of it in the buffer. -/
theorem change_clamp (hl : Highlighter) (buffer : Buffer) (edit : LineEdit) :
    hl.change buffer (edit.clamp hl.records.length) = hl.change buffer edit := by
  have hstart : min (min edit.start hl.records.length) hl.records.length
      = min edit.start hl.records.length := Nat.min_eq_left (Nat.min_le_right _ _)
  simp only [change, splice_clamp]
  simp only [LineEdit.clamp, hstart]

/-! ## Highlighted buffers

  To be `UpToDate` is to hold the records of the full highlighting, so whatever the highlighter
  shows of the buffer can be told from these. -/

/-- The records are those that highlighting every line gives. -/
def UpToDate (hl : Highlighter) (buffer : Buffer) : Prop :=
  hl.records = fullRecords hl.grammar .normal buffer.lines

@[simp] theorem length_lines (buffer : Buffer) : buffer.lines.length = buffer.length :=
  List.length_map _

/-- Behind highlighted lines the recorded state is the one they leave. -/
theorem tailState_fullRecords (g : Grammar) (texts : List Text) (start count : Nat)
    (h : start + count ≤ texts.length) :
    tailState (fullRecords g .normal texts) start count
      = some (stateAfter g .normal (texts.take (start + count))) := by
  unfold tailState
  split
  · rename_i heq
    rw [heq]
    rfl
  · rename_i n heq
    rw [heq]
    exact fullRecords_exit g .normal texts n (by omega)

/-- A line below highlighted lines is entered in the state that these leave. -/
theorem entry_eq_stateAfter {hl : Highlighter} {above : List Text} {rest : List LineRecord}
    (h : hl.records = fullRecords hl.grammar .normal above ++ rest) :
    hl.entry above.length = stateAfter hl.grammar .normal above := by
  cases hn : above.length with
  | zero =>
    obtain rfl : above = [] := List.eq_nil_of_length_eq_zero hn
    rfl
  | succ n =>
    have hexit : hl.exit? n = some (stateAfter hl.grammar .normal (above.take (n + 1))) := by
      rw [exit?, h, List.getElem?_append_left (by rw [length_fullRecords]; omega)]
      exact fullRecords_exit hl.grammar .normal above n (by omega)
    rw [entry, hexit, ← hn, List.take_length]
    rfl

/-- Of highlighted lines none is unknown. -/
theorem firstUnknown_fullRecords (g : Grammar) (above : List Text) (rest : List LineRecord) :
    firstUnknown (fullRecords g .normal above ++ rest) above.length = above.length := by
  have hnone : (fullRecords g .normal above).findIdx? (·.exit.isNone) = none := by
    rw [List.findIdx?_eq_none_iff]
    intro r hr
    obtain ⟨h, -, rfl⟩ := List.mem_map.mp hr
    rfl
  rw [firstUnknown, List.take_left' (length_fullRecords g .normal above), hnone]
  rfl

/-- Highlighting on from line `above.length` gives the full records, if the lines above are
    highlighted and the recorded states from line `reach` on are trusted. -/
theorem run_upToDate (hl : Highlighter) (buffer : Buffer) (above : List Text) {rest : List Text}
    {records : List LineRecord} (reach : Nat) (hlines : buffer.lines = above ++ rest)
    (hrecords : hl.records = fullRecords hl.grammar .normal above ++ records)
    (hlen : records.length = rest.length)
    (ht : Trusted hl.grammar (reach - above.length) records rest) :
    (hl.run buffer above.length reach).1.UpToDate buffer := by
  have hcascade := cascade_eq_fullRecords hl.grammar (reach - above.length)
    (stateAfter hl.grammar .normal above) records rest hlen ht
  have habove : (fullRecords hl.grammar .normal above ++ records).take above.length
      = fullRecords hl.grammar .normal above := List.take_left' (length_fullRecords _ _ _)
  have hbelow : (fullRecords hl.grammar .normal above ++ records).drop above.length = records :=
    List.drop_left' (length_fullRecords _ _ _)
  simp only [UpToDate, run, entry_eq_stateAfter hrecords, hrecords, habove, hbelow, hlines,
    List.drop_left, hcascade]
  exact (fullRecords_append _ _ _ _).symm

@[simp] theorem change_grammar (hl : Highlighter) (buffer : Buffer) (edit : LineEdit) :
    (hl.change buffer edit).1.grammar = hl.grammar := by
  simp only [change]
  split <;> rfl

/-- Highlighting the whole buffer leaves no old record. -/
theorem rehighlight_upToDate (hl : Highlighter) (buffer : Buffer) :
    (hl.rehighlight buffer).1.UpToDate buffer := by
  refine run_upToDate _ buffer [] buffer.length rfl rfl (by simp) ?_
  -- the cascade has to reach the end, and no record is left below
  intro i state _ hexit
  rcases Nat.lt_or_ge i buffer.length with hi | hi
  · simp [hi] at hexit
  · simp [Nat.not_lt.mpr hi] at hexit

/-! ## Edits that tell the truth

  The records of a highlighted buffer are cut where its lines are.  Below the edit they are old, and
  trusted as far as the state in which they were entered is the one that is recorded above them. -/

/-- Where records of new lines, planted with a state, stand above lines that were entered in this
    state, all recorded states from the last new line on are trusted. -/
theorem trusted_spliced (g : Grammar) (must : Nat) (state : LineState) (records : List LineRecord)
    (mid below : List Text) (hlen : records.length = mid.length) (hmust : mid.length ≤ must) :
    Trusted g must (plant (some state) records ++ fullRecords g state below) (mid ++ below) := by
  have hplant : (plant (some state) records).length = mid.length := by rw [length_plant, hlen]
  intro i s hi hexit
  rcases Nat.lt_or_ge i mid.length with hlt | hge
  · -- the last new line: it is recorded to leave the planted state
    have hlast : i + 1 = mid.length := by omega
    rw [List.getElem?_append_left (by omega),
      plant_exit (some state) records i (by omega)] at hexit
    rw [List.drop_left' (by omega), List.drop_left' (by omega), Option.some.inj hexit]
  · -- a line below: its record is one of the full highlighting
    rw [List.getElem?_append_right (by omega), hplant] at hexit
    have hbelow := trusted_fullRecords g 0 state below (i - mid.length) s (Nat.zero_le _) hexit
    have hpast : i + 1 = mid.length + (i - mid.length + 1) := by omega
    have hmid : (mid ++ below).drop (mid.length + (i - mid.length + 1))
        = below.drop (i - mid.length + 1) := by rw [← List.drop_drop, List.drop_left]
    rw [hpast, ← List.drop_drop, List.drop_left' hplant, hmid]
    exact hbelow

/-- Where lines of a highlighted buffer are edited, the records above and below stay, and the last
    new record takes over the state in which the lines below were entered. -/
theorem splice_fullRecords (g : Grammar) (above gone below : List Text) (edit : LineEdit)
    (hstart : edit.start = above.length) (hremoved : edit.removed = gone.length) :
    ∃ new : List LineRecord, new.length = edit.inserted ∧
      splice (fullRecords g .normal (above ++ gone ++ below)) edit
        = fullRecords g .normal above
          ++ (plant (some (stateAfter g .normal (above ++ gone))) new
            ++ fullRecords g (stateAfter g .normal (above ++ gone)) below) := by
  -- the four parts that `splice` puts together: above, removed, the state kept for below, below
  have hmin : min edit.start (fullRecords g .normal (above ++ gone ++ below)).length
      = above.length := by
    rw [length_fullRecords, List.length_append, List.length_append]
    omega
  have hkeep : (fullRecords g .normal (above ++ gone ++ below)).take above.length
      = fullRecords g .normal above := by
    rw [fullRecords_take, List.append_assoc, List.take_left]
  have hold : ((fullRecords g .normal (above ++ gone ++ below)).drop above.length).take edit.removed
      = fullRecords g (stateAfter g .normal above) gone := by
    rw [fullRecords_drop, List.append_assoc, List.take_left, List.drop_left, fullRecords_take,
      hremoved, List.take_left]
  have htail := tailState_fullRecords g (above ++ gone ++ below) above.length gone.length
    (by rw [List.length_append, List.length_append]; omega)
  rw [← List.length_append, List.take_left] at htail
  have hbelow : (fullRecords g .normal (above ++ gone ++ below)).drop (above.length + gone.length)
      = fullRecords g (stateAfter g .normal (above ++ gone)) below := by
    rw [← List.length_append, fullRecords_drop, List.take_left, List.drop_left]
  refine ⟨newRecords edit.inserted (fullRecords g (stateAfter g .normal above) gone),
    length_newRecords _ _, ?_⟩
  simp only [splice, hmin, hold]
  rw [length_fullRecords, htail, hbelow, hkeep, List.append_assoc]

/-- The spliced records count the lines of the buffer, if the edit tells the truth about it. -/
theorem length_splice_of_describes {hl : Highlighter} {old new : Buffer} {edit : LineEdit}
    (h : hl.UpToDate old) (hd : edit.Describes old new) :
    (Highlighter.splice hl.records edit).length = new.length := by
  have hlen : hl.records.length = old.length := by rw [h, length_fullRecords, length_lines]
  obtain ⟨hinside, mid, hmid, hnew⟩ := hd
  rw [length_splice, hnew, hlen]
  simp only [LineEdit.clamp, List.length_append, List.length_take, List.length_drop, hmid]
  omega

/-- **A true edit keeps the records full.**  If every line was highlighted before an edit that
    describes how the buffer changed, every line is highlighted after it. -/
theorem change_describes {hl : Highlighter} {old new : Buffer} {edit : LineEdit}
    (h : hl.UpToDate old) (hd : edit.Describes old new) : (hl.change new edit).1.UpToDate new := by
  obtain ⟨above, gone, mid, below, hold, hlines, hstart, hremoved, hinserted⟩ := hd.exists_lines
  obtain ⟨fresh, hfresh, hsplice⟩ :=
    splice_fullRecords hl.grammar above gone below edit hstart hremoved
  rw [← hold, ← h] at hsplice
  have hnew : new.length = above.length + (mid.length + below.length) := by
    rw [← length_lines new, hlines, List.length_append, List.length_append]
  have hmin : min edit.start hl.records.length = above.length := by
    rw [h, length_fullRecords, hold, List.length_append, List.length_append]
    omega
  simp only [change, length_splice_of_describes h hd, if_true, hmin]
  rw [hsplice, firstUnknown_fullRecords]
  refine run_upToDate { hl with records := _ } new above _ hlines rfl ?_ ?_
  · rw [List.length_append, List.length_append, length_plant, length_fullRecords]
    omega
  · exact trusted_spliced _ _ _ _ _ _ (by omega) (by omega)

end Highlighter

end Highlight
