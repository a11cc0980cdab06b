/-
  Keeping a whole buffer highlighted.

  A `Highlighter` records, for every line of a buffer, the spans of the line and the state the line
  leaves.  After an edit it highlights the changed lines again, and then goes on down the buffer
  only as long as the states that come out differ from the recorded ones:

  1. **Splicing** — `Highlighter.splice` makes room for the new lines.  A line that replaces another
     takes over its recorded state, and the last new line takes over the state in which the lines
     after it were entered.  Where these states come out again nothing further down can change.

  2. **The cascade** — `cascade` highlights line after line.  A first number of lines is always
     highlighted; after them the first line with an unchanged state ends it.

  Main definitions: `Highlighter.rehighlight`, `Highlighter.change`, `Highlighter.update`.
-/
import Highlight.Buffer
import Highlight.Scan
import Highlight.Theme

namespace Highlight

/-- What is recorded of a line; without a state it has never been highlighted. -/
structure LineRecord where
  exit : Option LineState := none
  spans : List Span := []
  deriving DecidableEq, Repr, Inhabited

/-- The grammar and theme of a buffer, and the records of its lines. -/
structure Highlighter where
  grammar : Grammar
  theme : Theme
  records : List LineRecord := []
  deriving Repr, Inhabited

/-- What an edit changed: the range of lines to paint again, and the spans of these lines. -/
structure HighlightUpdate where
  repaint : LineRange
  lines : List (Nat × List Span)
  deriving DecidableEq, Repr, Inhabited

/-- Highlight lines one after the other, the first one being entered in state `entry`: at least
    `must` of them, and then until a line leaves the state it is recorded to leave.  The answer
    counts the lines that were highlighted. -/
def cascade (g : Grammar) : (must : Nat) → (entry : LineState) → List LineRecord → List Text →
    List LineRecord × Nat
  | must, entry, r :: records, text :: texts =>
    let h := highlight g text entry
    let record : LineRecord := ⟨some h.exit, h.spans⟩
    if must ≤ 1 ∧ r.exit = some h.exit then (record :: records, 1)
    else
      let (records, count) := cascade g (must - 1) h.exit records texts
      (record :: records, count + 1)
  | _, _, records, _ => (records, 0)

namespace Highlighter

/-- The state a line leaves, if it has been highlighted. -/
def exit? (hl : Highlighter) (line : Nat) : Option LineState := hl.records[line]?.bind (·.exit)

/-- The spans of a line. -/
def spans (hl : Highlighter) (line : Nat) : List Span := (hl.records[line]?.map (·.spans)).getD []

/-- The state in which a line is entered. -/
def entry (hl : Highlighter) : (line : Nat) → LineState
  | 0 => .normal
  | line + 1 => (hl.exit? line).getD .normal

/-- Highlight from line `start` on, at least up to line `reach`. -/
def run (hl : Highlighter) (buffer : Buffer) (start reach : Nat) : Highlighter × LineRange :=
  let (records, count) :=
    cascade hl.grammar (reach - start) (hl.entry start) (hl.records.drop start)
      (buffer.lines.drop start)
  ({ hl with records := hl.records.take start ++ records }, ⟨start, start + count⟩)

/-- Forget every line and highlight the whole buffer. -/
def rehighlight (hl : Highlighter) (buffer : Buffer) : Highlighter × LineRange :=
  run { hl with records := List.replicate buffer.length {} } buffer 0 buffer.length

/-- Go over to another grammar and theme. -/
def setSnapshot (hl : Highlighter) (grammar : Grammar) (theme : Theme) (buffer : Buffer) :
    Highlighter × LineRange :=
  rehighlight { hl with grammar := grammar, theme := theme } buffer

/-- Go over to another theme. -/
def setTheme (hl : Highlighter) (theme : Theme) (buffer : Buffer) : Highlighter × LineRange :=
  rehighlight { hl with theme := theme } buffer

/-! ## Edits -/

/-- The state in which the line behind `count` lines from `start` on was entered: that of the last
    of them, or of the line above them. -/
def tailState (records : List LineRecord) (start count : Nat) : Option LineState :=
  match start + count with
  | 0 => some .normal
  | n + 1 => records[n]?.bind (·.exit)

/-- Give the last record of a list a state. -/
def plant (state : Option LineState) : List LineRecord → List LineRecord
  | [] => []
  | [r] => [{ r with exit := state }]
  | r :: rest => r :: plant state rest

/-- The records of `count` new lines that replace old ones. -/
def newRecords (count : Nat) (old : List LineRecord) : List LineRecord :=
  (List.range count).map fun i => { exit := old[i]?.bind (·.exit) }

/-- Replace the records of edited lines; lines that are not there are not removed. -/
def splice (records : List LineRecord) (edit : LineEdit) : List LineRecord :=
  let start := min edit.start records.length
  let old := (records.drop start).take edit.removed
  records.take start ++
    plant (tailState records start old.length) (newRecords edit.inserted old) ++
    records.drop (start + old.length)

/-- The first line that has never been highlighted, among those above an edit; the edit itself if
    there is none. -/
def firstUnknown (records : List LineRecord) (start : Nat) : Nat :=
  ((records.take start).findIdx? (·.exit.isNone)).getD start

/-- Bring the records up to date after an edit, `buffer` being the lines after it.  If the edit does
    not lead to the number of lines there are, the whole buffer is highlighted. -/
def change (hl : Highlighter) (buffer : Buffer) (edit : LineEdit) : Highlighter × LineRange :=
  let start := min edit.start hl.records.length
  let spliced : Highlighter := { hl with records := splice hl.records edit }
  if spliced.records.length = buffer.length then
    run spliced buffer (firstUnknown spliced.records start)
      (min (start + max edit.inserted 1) spliced.records.length)
  else spliced.rehighlight buffer

/-- Bring the records up to date after an edit, and list the spans of the lines to paint again. -/
def update (hl : Highlighter) (buffer : Buffer) (edit : LineEdit) : Highlighter × HighlightUpdate :=
  let (hl, repaint) := hl.change buffer edit
  (hl, ⟨repaint, repaint.toList.map fun line => (line, hl.spans line)⟩)

end Highlighter

end Highlight
