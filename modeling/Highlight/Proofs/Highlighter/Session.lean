/-
  Whole sessions of a highlighter.

  A session is a list of actions, each with the buffer at that time.  An edit in it is *honest* if
  it describes exactly how the buffer changed since the action before, or if it is so far off that
  the number of tracked lines comes out wrong.  In both cases the highlighter ends up with the
  records of the full highlighting: in the first because the cascade is exact, in the second
  because it starts over.

  1. **One step** — `perform_upToDate`: an honest action on a highlighter that is up to date, or
     has not tracked any line yet, leaves it up to date with the buffer.

  2. **Whole sessions** — by induction along the actions, `session_upToDate`.

  Main result: **`session_eq_full`**, incremental highlighting is indistinguishable from
  highlighting from scratch.
-/
import Highlight.Proofs.Highlighter.Edit

namespace Highlight

open Highlighter

/-! ## Actions -/

/-- What can be asked of a highlighter. -/
inductive Action where
  | rehighlight
  | setSnapshot (grammar : Grammar) (theme : Theme)
  | setTheme (theme : Theme)
  | change (edit : LineEdit)
  | update (edit : LineEdit)
  deriving Repr

namespace Action

/-- The highlighter after an action, `buffer` being the lines at that time. -/
def perform (action : Action) (hl : Highlighter) (buffer : Buffer) : Highlighter :=
  match action with
  | rehighlight => (hl.rehighlight buffer).1
  | setSnapshot grammar theme => (hl.setSnapshot grammar theme buffer).1
  | setTheme theme => (hl.setTheme theme buffer).1
  | change edit => (hl.change buffer edit).1
  | update edit => (hl.update buffer edit).1

/-- The grammar in force after an action. -/
def grammar (action : Action) (current : Grammar) : Grammar :=
  match action with
  | setSnapshot grammar _ => grammar
  | _ => current

/-- The edit of an action, if it is one. -/
def edit? : Action → Option LineEdit
  | change edit => some edit
  | update edit => some edit
  | _ => none

/-- Every edit describes how the buffer changed, or leaves a number of tracked lines that differs
    from that of the buffer. -/
def Honest (action : Action) (hl : Highlighter) (old new : Buffer) : Prop :=
  ∀ edit, action.edit? = some edit →
    edit.Describes old new ∨ (splice hl.records edit).length ≠ new.length

end Action

/-- The highlighter after some actions, each with the buffer at that time. -/
def play (hl : Highlighter) : List (Action × Buffer) → Highlighter
  | [] => hl
  | (action, buffer) :: rest => play (action.perform hl buffer) rest

/-- The grammar in force after some actions. -/
def grammarAfter (current : Grammar) : List (Action × Buffer) → Grammar
  | [] => current
  | (action, _) :: rest => grammarAfter (action.grammar current) rest

/-- All actions are honest, `buffer` being the lines before the first one. -/
def HonestSession (hl : Highlighter) (buffer : Buffer) : List (Action × Buffer) → Prop
  | [] => True
  | (action, new) :: rest =>
    action.Honest hl buffer new ∧ HonestSession (action.perform hl new) new rest

/-! ## One step

  A highlighter may not track any line yet, as long as it has only been created.  The buffer is then
  new to it, whatever the first action says, and so this case is part of the invariant (`Ready`). -/

/-- A highlighter that tracks no line yet, or the lines of the buffer as they are. -/
def Ready (hl : Highlighter) (buffer : Buffer) : Prop := hl.records = [] ∨ hl.UpToDate buffer

/-- An edit that leaves a wrong number of lines starts the highlighting over. -/
theorem change_of_ne {hl : Highlighter} {buffer : Buffer} {edit : LineEdit}
    (h : (splice hl.records edit).length ≠ buffer.length) :
    (hl.change buffer edit).1.UpToDate buffer := by
  simp only [change, if_neg h]
  exact rehighlight_upToDate _ buffer

/-- To a highlighter that tracks no line an edit is as good as the insertion of the whole buffer,
    if only the number of lines comes out right. -/
theorem change_of_nil {hl : Highlighter} (h : hl.records = []) (buffer : Buffer) (edit : LineEdit) :
    (hl.change buffer edit).1.UpToDate buffer := by
  by_cases hcount : (splice hl.records edit).length = buffer.length
  · have hinserted : edit.inserted = buffer.length := by
      rw [length_splice, h] at hcount
      simpa using hcount
    have hempty : hl.UpToDate [] := h
    rw [← change_clamp, h]
    refine change_describes hempty ⟨?_, buffer, hinserted.symm, ?_⟩
    · simp [LineEdit.clamp]
    · simp
  · exact change_of_ne hcount

/-- An edit leaves the highlighting up to date if it tells the truth, and also if the number of
    lines gives it away. -/
theorem change_upToDate {hl : Highlighter} {old new : Buffer} {edit : LineEdit}
    (h : Ready hl old)
    (he : edit.Describes old new ∨ (splice hl.records edit).length ≠ new.length) :
    (hl.change new edit).1.UpToDate new := by
  rcases h with hnil | hfull
  · exact change_of_nil hnil new edit
  · rcases he with hd | hne
    · exact change_describes hfull hd
    · exact change_of_ne hne

/-- **One honest step.**  Whatever is asked of a highlighter, it is up to date afterwards. -/
theorem perform_upToDate {hl : Highlighter} {old new : Buffer} {action : Action}
    (h : Ready hl old) (ha : action.Honest hl old new) :
    (action.perform hl new).UpToDate new := by
  cases action with
  | rehighlight => exact rehighlight_upToDate hl new
  | setSnapshot grammar theme => exact rehighlight_upToDate _ new
  | setTheme theme => exact rehighlight_upToDate _ new
  | change edit => exact change_upToDate h (ha edit rfl)
  | update edit => exact change_upToDate h (ha edit rfl)

/-- The grammar changes with the actions that set one, and with no other. -/
theorem perform_grammar (action : Action) (hl : Highlighter) (buffer : Buffer) :
    (action.perform hl buffer).grammar = action.grammar hl.grammar := by
  cases action with
  | rehighlight => rfl
  | setSnapshot grammar theme => rfl
  | setTheme theme => rfl
  | change edit => exact change_grammar hl buffer edit
  | update edit => exact change_grammar hl buffer edit

/-! ## Whole sessions -/

/-- So the grammar at the end of a session is the one set last. -/
theorem play_grammar (hl : Highlighter) (steps : List (Action × Buffer)) :
    (play hl steps).grammar = grammarAfter hl.grammar steps := by
  induction steps generalizing hl with
  | nil => rfl
  | cons step rest ih =>
    obtain ⟨action, buffer⟩ := step
    rw [play, ih, perform_grammar]
    rfl

/-- **Every step of a session leaves the highlighter up to date**, by induction along the actions
    before it. -/
theorem session_upToDate {hl : Highlighter} {buffer : Buffer} {before : List (Action × Buffer)}
    {action : Action} {now : Buffer} {after : List (Action × Buffer)} (h : Ready hl buffer)
    (hs : HonestSession hl buffer (before ++ (action, now) :: after)) :
    (play hl (before ++ [(action, now)])).UpToDate now := by
  induction before generalizing hl buffer with
  | nil => exact perform_upToDate h hs.1
  | cons step rest ih => exact ih (.inr (perform_upToDate h hs.1)) hs.2

/-! ## Against highlighting from scratch

  Up to here a highlighter has been compared with the records of the full highlighting.  What is to
  be compared for a user is what it shows. -/

namespace Highlighter

/-- A new highlighter that has highlighted a buffer. -/
def fresh (g : Grammar) (theme : Theme) (buffer : Buffer) : Highlighter :=
  (rehighlight ⟨g, theme, []⟩ buffer).1

/-- A highlighter shows of every line what a fresh one shows, which is what highlighting the lines
    one after the other gives. -/
structure MatchesFresh (hl : Highlighter) (g : Grammar) (buffer : Buffer) : Prop where
  grammar_eq : hl.grammar = g
  lineCount : hl.records.length = buffer.length
  exit_eq : ∀ theme i, hl.exit? i = (fresh g theme buffer).exit? i
  spans_eq : ∀ theme i, hl.spans i = (fresh g theme buffer).spans i
  fold_eq : ∀ i h, (highlightLines g .normal buffer.lines)[i]? = some h →
    hl.exit? i = some h.exit ∧ hl.spans i = h.spans

/-- A highlighter that is up to date shows what a fresh one shows. -/
theorem UpToDate.matchesFresh {hl : Highlighter} {buffer : Buffer} (h : hl.UpToDate buffer) :
    hl.MatchesFresh hl.grammar buffer where
  grammar_eq := rfl
  lineCount := by rw [h, length_fullRecords, length_lines]
  exit_eq theme i := by
    have hfresh : (fresh hl.grammar theme buffer).records = _ := rehighlight_upToDate _ buffer
    rw [exit?, exit?, h, hfresh]
    rfl
  spans_eq theme i := by
    have hfresh : (fresh hl.grammar theme buffer).records = _ := rehighlight_upToDate _ buffer
    rw [spans, spans, h, hfresh]
    rfl
  fold_eq i line hline := by
    have hrecord : hl.records[i]? = some (.ofHighlighted line) := by
      rw [h, fullRecords, List.getElem?_map, hline]
      rfl
    constructor
    · rw [exit?, hrecord]
      rfl
    · rw [spans, hrecord]
      rfl

end Highlighter

/-- **Incremental highlighting is full highlighting.**  After every step of an honest session that
    starts with a new highlighter, or with one that has just highlighted a buffer, the number of
    tracked lines, the states and the spans are those of a fresh highlighter with the grammar in
    force. -/
theorem session_eq_full {hl : Highlighter} {buffer : Buffer} {before : List (Action × Buffer)}
    {action : Action} {now : Buffer} {after : List (Action × Buffer)}
    (hstart : hl.records = [] ∨ ∃ earlier : Highlighter, hl = (earlier.rehighlight buffer).1)
    (hs : HonestSession hl buffer (before ++ (action, now) :: after)) :
    (play hl (before ++ [(action, now)])).MatchesFresh
      (grammarAfter hl.grammar (before ++ [(action, now)])) now := by
  have hready : Ready hl buffer := by
    rcases hstart with hnil | ⟨earlier, rfl⟩
    · exact .inl hnil
    · exact .inr (rehighlight_upToDate earlier buffer)
  rw [← play_grammar]
  exact (session_upToDate hready hs).matchesFresh

/-- A pattern for one character. -/
def Pattern.ofChar (c : Char) : Pattern :=
  ⟨String.singleton c, (Regex.set (.singleton c)).program⟩

/-- A grammar in which parentheses enclose comments, which may span lines. -/
def parenComments : Grammar :=
  { (default : Grammar) with
    blockComment := ⟨some ⟨.ofChar '(', .ofChar ')', none⟩, .blockComment⟩ }

/-- A line that closes a comment is inserted into it; later on the buffer is emptied by an edit
    that says something else. -/
theorem session_eq_full_parenComments :
    let start : Highlighter := ⟨parenComments, default, []⟩
    let opened : List (Action × Buffer) :=
      [(.rehighlight, ["(a".toList, "b".toList, "c)".toList])]
    let closed : Buffer := ["(a".toList, ")".toList, "b".toList, "c)".toList]
    HonestSession start []
        (opened ++ (.change ⟨1, 0, 1⟩, closed) :: [(.update ⟨0, 9, 1⟩, [])]) ∧
      (play start (opened ++ [(.change ⟨1, 0, 1⟩, closed)])).MatchesFresh
        (grammarAfter parenComments (opened ++ [(.change ⟨1, 0, 1⟩, closed)])) closed := by
  intro start opened closed
  have hs : HonestSession start []
      (opened ++ (.change ⟨1, 0, 1⟩, closed) :: [(.update ⟨0, 9, 1⟩, [])]) := by
    refine ⟨fun _ h => (nomatch h), fun edit h => .inl ?_, fun edit h => .inr ?_, trivial⟩
    · obtain rfl : _ = edit := Option.some.inj h
      exact ⟨by decide, [")".toList], rfl, rfl⟩
    · -- one line is left of the edit, but none of the buffer
      obtain rfl : _ = edit := Option.some.inj h
      rw [length_splice]
      simp
  exact ⟨hs, session_eq_full (.inl rfl) hs⟩

/-- The last line is no longer part of the comment. -/
example : (play ⟨parenComments, default, []⟩
    [(.rehighlight, ["(a".toList, "b".toList, "c)".toList]),
      (.change ⟨1, 0, 1⟩, ["(a".toList, ")".toList, "b".toList, "c)".toList])]).spans 3 = [] := by
  decide

end Highlight
