/-
  A client that follows a highlighter by its updates.

  A client holds the spans of every line, a `Mirror`.  It hears of every edit, and of the update
  with which the highlighter answers it.  It edits its list as the buffer was edited, new lines
  having no spans at first, and then overwrites the lines that the update lists.

  1. **What an edit leaves alone** — the cascade writes no record behind those it counts
     (`cascade_outside`).  So outside the range to paint again the records after an edit are the
     spliced ones (`change_differsIn`).

  2. **The crux** — a record that is new has no spans.  Splicing the records is therefore, for their
     spans, what the client does to its list (`map_spans_splice`), and a line that the update does
     not list is right already (`follow_update`).

  3. **Whole histories** — by induction along the edits (`track_spec`).

  Main result: **`mirror_eq_spans`**.
-/
import Highlight.Proofs.Highlighter.Session

namespace Highlight

/-! ## Clients

  A client has no states and no grammar, only spans; `follow` is everything it does. -/

/-- What a client holds: the spans of every line. -/
abbrev Mirror := List (List Span)

namespace Mirror

/-- A copy of the spans of every line that a highlighter tracks. -/
def copy (hl : Highlighter) : Mirror := (List.range hl.records.length).map hl.spans

/-- Edit the lines; the new ones have no spans. -/
def splice (m : Mirror) (edit : LineEdit) : Mirror :=
  m.take edit.start ++ List.replicate edit.inserted [] ++ m.drop (edit.start + edit.removed)

/-- Overwrite lines, one after the other. -/
def overwrite (m : Mirror) (lines : List (Nat × List Span)) : Mirror :=
  lines.foldl (fun m line => m.set line.1 line.2) m

/-- Follow an edit and the update that answers it. -/
def follow (m : Mirror) (edit : LineEdit) (update : HighlightUpdate) : Mirror :=
  (m.splice edit).overwrite update.lines

/-- A copy holds the spans of the records. -/
theorem copy_eq (hl : Highlighter) : copy hl = hl.records.map (·.spans) := by
  apply List.ext_getElem?
  intro i
  rw [copy, List.getElem?_map, List.getElem?_map]
  by_cases hi : i < hl.records.length
  · rw [List.getElem?_range hi, List.getElem?_eq_getElem hi]
    simp [Highlighter.spans, List.getElem?_eq_getElem hi]
  · have hnone : hl.records[i]? = none := List.getElem?_eq_none (by omega)
    have hrange : (List.range hl.records.length)[i]? = none :=
      List.getElem?_eq_none (by simpa using hi)
    rw [hnone, hrange]
    rfl

/-- Where lines are overwritten with what one function says, every line that is listed holds what it
    says, and the others hold what they held. -/
theorem overwrite_getElem? (f : Nat → List Span) (lines : List Nat) (m : Mirror) (i : Nat) :
    (m.overwrite (lines.map fun line => (line, f line)))[i]?
      = if i ∈ lines then m[i]?.map (fun _ => f i) else m[i]? := by
  induction lines generalizing m with
  | nil => rfl
  | cons line lines ih =>
    have hset : m.overwrite ((line :: lines).map fun line => (line, f line))
        = overwrite (m.set line (f line)) (lines.map fun line => (line, f line)) := rfl
    rw [hset, ih, List.getElem?_set]
    by_cases hi : line = i
    · subst hi
      by_cases hlen : line < m.length
      · simp [hlen]
      · simp [hlen]
    · have hmem : i ∈ line :: lines ↔ i ∈ lines := by simp [Ne.symm hi]
      simp only [hi, if_false, hmem]

end Mirror

/-! ## What an edit leaves alone -/

/-- The cascade counts no more lines than there are, and writes no record behind them. -/
theorem cascade_outside (g : Grammar) (must : Nat) (entry : LineState) (records : List LineRecord)
    (texts : List Text) :
    (cascade g must entry records texts).2 ≤ records.length ∧
      (cascade g must entry records texts).1.length = records.length ∧
      ∀ i, (cascade g must entry records texts).2 ≤ i →
        (cascade g must entry records texts).1[i]? = records[i]? := by
  induction records generalizing must entry texts with
  | nil => exact ⟨Nat.le_refl _, rfl, fun _ _ => rfl⟩
  | cons r records ih =>
    cases texts with
    | nil => exact ⟨Nat.zero_le _, rfl, fun _ _ => rfl⟩
    | cons text texts =>
      by_cases hstop : must ≤ 1 ∧ r.exit = some (highlight g text entry).exit
      · simp only [cascade, if_pos hstop]
        refine ⟨by simp, rfl, fun i hi => ?_⟩
        obtain ⟨j, rfl⟩ : ∃ j, i = j + 1 := ⟨i - 1, by omega⟩
        rfl
      · obtain ⟨hcount, hlen, hrest⟩ := ih (must - 1) (highlight g text entry).exit texts
        simp only [cascade, if_neg hstop]
        refine ⟨Nat.succ_le_succ hcount, congrArg (· + 1) hlen, fun i hi => ?_⟩
        obtain ⟨j, rfl⟩ : ∃ j, i = j + 1 := ⟨i - 1, by omega⟩
        exact hrest j (Nat.le_of_succ_le_succ hi)

namespace Highlighter

/-- One list of records differs from another in a range of lines at most. -/
structure DiffersIn (range : LineRange) (old new : List LineRecord) : Prop where
  length_eq : new.length = old.length
  stop_le : range.stop ≤ old.length
  outside : ∀ i, range.contains i = false → new[i]? = old[i]?

/-- Highlighting on from a line writes the records that it counts. -/
theorem run_differsIn (hl : Highlighter) (buffer : Buffer) {start : Nat} (reach : Nat)
    (hstart : start ≤ hl.records.length) :
    DiffersIn (hl.run buffer start reach).2 hl.records (hl.run buffer start reach).1.records := by
  have hspec := cascade_outside hl.grammar (reach - start) (hl.entry start)
    (hl.records.drop start) (buffer.lines.drop start)
  have hdrop : (hl.records.drop start).length = hl.records.length - start := List.length_drop ..
  have htake : (hl.records.take start).length = start := List.length_take_of_le hstart
  unfold run
  generalize cascade hl.grammar (reach - start) (hl.entry start) (hl.records.drop start)
    (buffer.lines.drop start) = written at hspec ⊢
  obtain ⟨records, count⟩ := written
  obtain ⟨hcount, hlen, hrest⟩ := hspec
  simp only at hcount hlen hrest ⊢
  constructor
  · rw [List.length_append, hlen, htake, hdrop]
    omega
  · show start + count ≤ hl.records.length
    omega
  · intro i hi
    have hoff : i < start ∨ start + count ≤ i := by
      simp [LineRange.contains] at hi
      omega
    show (hl.records.take start ++ records)[i]? = hl.records[i]?
    -- above, the records are taken over; below, the cascade has left them
    rcases hoff with habove | hbelow
    · rw [List.getElem?_append_left (by omega), List.getElem?_take_of_lt habove]
    · rw [List.getElem?_append_right (by omega), htake, hrest _ (by omega), List.getElem?_drop]
      congr 1
      omega

/-- The first unknown line is a line, or the line of the edit. -/
theorem firstUnknown_le (records : List LineRecord) (start : Nat) :
    firstUnknown records start ≤ start := by
  unfold firstUnknown
  cases hfind : (records.take start).findIdx? (·.exit.isNone) with
  | none => exact Nat.le_refl start
  | some i =>
    obtain ⟨hi, -⟩ := List.findIdx?_eq_some_iff_getElem.mp hfind
    rw [List.length_take] at hi
    show i ≤ start
    omega

/-- **Outside the range to paint again the records are the spliced ones**, if the edit leads to the
    number of lines there are. -/
theorem change_differsIn {hl : Highlighter} {buffer : Buffer} {edit : LineEdit}
    (hcount : (Highlighter.splice hl.records edit).length = buffer.length) :
    DiffersIn (hl.change buffer edit).2 (Highlighter.splice hl.records edit)
      (hl.change buffer edit).1.records := by
  have hstart : min edit.start hl.records.length
      ≤ (Highlighter.splice hl.records edit).length := by
    rw [length_splice]
    simp only [LineEdit.clamp]
    omega
  simp only [change, hcount, if_true]
  exact run_differsIn { hl with records := Highlighter.splice hl.records edit } buffer _
    (Nat.le_trans (firstUnknown_le _ _) hstart)

/-! ## Edits and updates -/

@[simp] theorem map_spans_plant (state : Option LineState) (records : List LineRecord) :
    (plant state records).map (·.spans) = records.map (·.spans) := by
  induction records with
  | nil => rfl
  | cons r rest ih =>
    cases rest with
    | nil => rfl
    | cons r' rest => exact congrArg (r.spans :: ·) ih

@[simp] theorem map_spans_newRecords (count : Nat) (old : List LineRecord) :
    (newRecords count old).map (·.spans) = List.replicate count [] := by
  have hbare : (newRecords count old).map (·.spans) = (List.range count).map fun _ => [] := by
    rw [newRecords, List.map_map]
    rfl
  rw [hbare, List.map_const', List.length_range]

/-- **Splicing the records is splicing a mirror**, as far as their spans go. -/
theorem map_spans_splice (records : List LineRecord) (edit : LineEdit) :
    (Highlighter.splice records edit).map (·.spans)
      = Mirror.splice (records.map (·.spans)) edit := by
  have htake : records.take (min edit.start records.length) = records.take edit.start := by
    rw [← List.take_take, List.take_length]
  have hold : ((records.drop (min edit.start records.length)).take edit.removed).length
      = min edit.removed (records.length - min edit.start records.length) := by
    rw [List.length_take, List.length_drop]
  have hdrop : records.drop (min edit.start records.length
        + min edit.removed (records.length - min edit.start records.length))
      = records.drop (edit.start + edit.removed) := by
    by_cases hinside : edit.start + edit.removed ≤ records.length
    · congr 1
      omega
    · -- past the end nothing is left on either side
      rw [List.drop_eq_nil_of_le (by omega), List.drop_eq_nil_of_le (by omega)]
  simp only [Highlighter.splice, Mirror.splice, htake, hold, hdrop, List.map_append,
    map_spans_plant, map_spans_newRecords, List.map_take, List.map_drop]

end Highlighter

namespace LineRange

theorem mem_toList {r : LineRange} {line : Nat} : line ∈ r.toList ↔ r.contains line = true := by
  simp only [toList, contains, List.mem_map, List.mem_range, Bool.and_eq_true, decide_eq_true_iff]
  constructor
  · rintro ⟨i, hi, rfl⟩
    omega
  · rintro ⟨hstart, hstop⟩
    exact ⟨line - r.start, by omega, by omega⟩

/-- The lines of a range are listed from the top. -/
theorem pairwise_toList (r : LineRange) : r.toList.Pairwise (· < ·) := by
  rw [toList, List.pairwise_map]
  exact List.pairwise_lt_range.imp fun h => Nat.add_lt_add_left h _

end LineRange

/-- An update of a buffer with so many lines lists the lines to paint again, each of them once and
    from the top. -/
structure HighlightUpdate.ListsRepaint (update : HighlightUpdate) (count : Nat) : Prop where
  increasing : (update.lines.map (·.1)).Pairwise (· < ·)
  mem_iff : ∀ line, line ∈ update.lines.map (·.1) ↔ update.repaint.contains line = true
  below : ∀ line ∈ update.lines.map (·.1), line < count

section Update

variable {hl : Highlighter} {buffer : Buffer} {edit : LineEdit}

/-- **A client that follows an update shows what the highlighter shows.** -/
theorem Mirror.follow_update
    (hcount : (Highlighter.splice hl.records edit).length = buffer.length) :
    (Mirror.copy hl).follow edit (hl.update buffer edit).2
      = Mirror.copy (hl.update buffer edit).1 := by
  obtain ⟨hlen, -, houtside⟩ := Highlighter.change_differsIn hcount
  have hfollow : (Mirror.copy hl).follow edit (hl.update buffer edit).2
      = ((Mirror.copy hl).splice edit).overwrite
          ((hl.change buffer edit).2.toList.map fun line =>
            (line, (hl.change buffer edit).1.spans line)) := rfl
  have hupdate : (hl.update buffer edit).1 = (hl.change buffer edit).1 := rfl
  rw [hfollow, hupdate, Mirror.copy_eq, Mirror.copy_eq, ← Highlighter.map_spans_splice]
  apply List.ext_getElem?
  intro i
  rw [Mirror.overwrite_getElem?, List.getElem?_map, List.getElem?_map]
  by_cases hi : (hl.change buffer edit).2.contains i = true
  · -- the line is overwritten, if it is there
    rw [if_pos (LineRange.mem_toList.mpr hi), Highlighter.spans]
    by_cases hline : i < (Highlighter.splice hl.records edit).length
    · rw [List.getElem?_eq_getElem hline, List.getElem?_eq_getElem (by omega)]
      rfl
    · rw [List.getElem?_eq_none (by omega), List.getElem?_eq_none (by omega)]
      rfl
  · rw [if_neg (mt LineRange.mem_toList.mp hi), houtside i (by simpa using hi)]

/-- What an update lists. -/
theorem Highlighter.update_listsRepaint
    (hcount : (Highlighter.splice hl.records edit).length = buffer.length) :
    (hl.update buffer edit).2.ListsRepaint buffer.length := by
  obtain ⟨-, hstop, -⟩ := Highlighter.change_differsIn hcount
  have hlines : (hl.update buffer edit).2.lines.map (·.1) = (hl.change buffer edit).2.toList := by
    show List.map _ (List.map _ _) = _
    rw [List.map_map]
    exact List.map_id _
  constructor
  · rw [hlines]
    exact LineRange.pairwise_toList _
  · intro line
    rw [hlines]
    exact LineRange.mem_toList
  · intro line hline
    rw [hlines, LineRange.mem_toList] at hline
    simp [LineRange.contains] at hline
    omega

end Update

/-! ## Whole histories

  Two things are carried along the edits: the highlighter is up to date with the buffer, and the
  client shows what the highlighter shows. -/

/-- A highlighter and its client after some edits, each with the buffer that it leads to. -/
def track (hl : Highlighter) (m : Mirror) : List (LineEdit × Buffer) → Highlighter × Mirror
  | [] => (hl, m)
  | (edit, buffer) :: rest =>
    track (hl.update buffer edit).1 (m.follow edit (hl.update buffer edit).2) rest

/-- Every edit describes how the buffer changed, `buffer` being the lines before the first one. -/
def DescribeAll (buffer : Buffer) : List (LineEdit × Buffer) → Prop
  | [] => True
  | (edit, new) :: rest => edit.Describes buffer new ∧ DescribeAll new rest

/-- After edits that tell the truth the client shows what the highlighter shows, and this is up to
    date with the buffer that the edits still to come begin with. -/
theorem track_spec {hl : Highlighter} {buffer : Buffer} {before after : List (LineEdit × Buffer)}
    (h : hl.UpToDate buffer) (hd : DescribeAll buffer (before ++ after)) :
    (track hl (.copy hl) before).2 = .copy (track hl (.copy hl) before).1 ∧
      (track hl (.copy hl) before).1.grammar = hl.grammar ∧
      ∃ now, (track hl (.copy hl) before).1.UpToDate now ∧ DescribeAll now after := by
  induction before generalizing hl buffer with
  | nil => exact ⟨rfl, rfl, buffer, h, hd⟩
  | cons step rest ih =>
    obtain ⟨edit, new⟩ := step
    obtain ⟨hfirst, hrest⟩ := hd
    have hcount := Highlighter.length_splice_of_describes h hfirst
    have hnext : (hl.update new edit).1.UpToDate new := Highlighter.change_describes h hfirst
    have hgrammar : (hl.update new edit).1.grammar = hl.grammar :=
      Highlighter.change_grammar hl new edit
    have hih := ih hnext hrest
    rw [hgrammar] at hih
    simp only [track, Mirror.follow_update hcount]
    exact hih

/-- **The updates are all that a client needs.**  A client that starts with a copy of the spans of a
    highlighted buffer shows after every edit that tells the truth what the highlighter shows of
    every line, and this is what highlighting the whole buffer gives.  The update lists the lines to
    paint again, each of them once and from the top, and none that is not there. -/
theorem mirror_eq_spans (earlier : Highlighter) {buffer : Buffer}
    {before : List (LineEdit × Buffer)} {edit : LineEdit} {now : Buffer}
    {after : List (LineEdit × Buffer)}
    (hd : DescribeAll buffer (before ++ (edit, now) :: after)) :
    let start := (earlier.rehighlight buffer).1
    let last := track start (.copy start) before
    let answer := last.1.update now edit
    last.2.follow edit answer.2 = .copy answer.1 ∧
      last.2.follow edit answer.2
        = (highlightLines earlier.grammar .normal now.lines).map (·.spans) ∧
      answer.2.ListsRepaint now.length := by
  intro start last answer
  have hstart : start.UpToDate buffer := Highlighter.rehighlight_upToDate earlier buffer
  obtain ⟨hmirror, hgrammar, old, hold, hedit, -⟩ := track_spec hstart hd
  have hcount := Highlighter.length_splice_of_describes hold hedit
  have hnow : answer.1.UpToDate now := Highlighter.change_describes hold hedit
  have hkeep : answer.1.grammar = earlier.grammar :=
    (Highlighter.change_grammar last.1 now edit).trans hgrammar
  have hfollow : last.2.follow edit answer.2 = .copy answer.1 := by
    rw [show last.2 = .copy last.1 from hmirror]
    exact Mirror.follow_update hcount
  refine ⟨hfollow, ?_, Highlighter.update_listsRepaint hcount⟩
  rw [hfollow, Mirror.copy_eq, hnow, hkeep, fullRecords, List.map_map]
  rfl

/-- A line that closes a comment is inserted into it, then the line that opens the comment is
    removed. -/
theorem mirror_eq_spans_parenComments :
    let buffer : Buffer := ["(a".toList, "b".toList, "c)".toList]
    let closed : Buffer := ["(a".toList, ")".toList, "b".toList, "c)".toList]
    let bare : Buffer := [")".toList, "b".toList, "c)".toList]
    let earlier : Highlighter := ⟨parenComments, default, []⟩
    DescribeAll buffer ([(⟨1, 0, 1⟩, closed)] ++ [(⟨0, 1, 0⟩, bare)]) ∧
      let start := (earlier.rehighlight buffer).1
      let last := track start (.copy start) [(⟨1, 0, 1⟩, closed)]
      let answer := last.1.update bare ⟨0, 1, 0⟩
      last.2.follow ⟨0, 1, 0⟩ answer.2 = .copy answer.1 ∧
        last.2.follow ⟨0, 1, 0⟩ answer.2
          = (highlightLines earlier.grammar .normal bare.lines).map (·.spans) ∧
        answer.2.ListsRepaint bare.length := by
  intro buffer closed bare earlier
  have hd : DescribeAll buffer ([(⟨1, 0, 1⟩, closed)] ++ [(⟨0, 1, 0⟩, bare)]) := by
    refine ⟨⟨by decide, [")".toList], rfl, rfl⟩, ⟨by decide, [], rfl, rfl⟩, trivial⟩
  exact ⟨hd, mirror_eq_spans earlier hd⟩

end Highlight
