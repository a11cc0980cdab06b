/-
  The cascade: highlighting on until a line leaves the state it is recorded to leave.

  What a buffer looks like when every line of it is highlighted, one after the other, is given by
  `fullRecords`.  The cascade may stop before the end of the buffer.  It is right to do so where
  the recorded state is *trusted*: where the records further down are those of lines entered in
  that very state (`Trusted`).  Then the records that the cascade leaves are the full ones
  (`cascade_eq_fullRecords`).

  1. **Full records** — they split at every line (`fullRecords_append`), and the state behind a
     number of lines (`stateAfter`) is what the records of the lines below depend on.

  2. **The crux** — one induction along the lines; the records that the cascade does not touch are
     right because the state it stops at is trusted.
-/
import Highlight.Highlighter

namespace Highlight

/-! ## Highlighting every line -/

/-- What is recorded of a line that has been highlighted. -/
def LineRecord.ofHighlighted (h : Highlighted) : LineRecord := ⟨some h.exit, h.spans⟩

/-- The records of lines that are highlighted one after the other, the first one being entered in
    state `entry`. -/
def fullRecords (g : Grammar) (entry : LineState) (texts : List Text) : List LineRecord :=
  (highlightLines g entry texts).map .ofHighlighted

/-- The state that lines leave which are highlighted one after the other. -/
def stateAfter (g : Grammar) (entry : LineState) : List Text → LineState
  | [] => entry
  | text :: rest => stateAfter g (highlight g text entry).exit rest

@[simp] theorem fullRecords_cons (g : Grammar) (entry : LineState) (text : Text)
    (rest : List Text) :
    fullRecords g entry (text :: rest)
      = .ofHighlighted (highlight g text entry)
          :: fullRecords g (highlight g text entry).exit rest := rfl

/-- There is one record for every line. -/
@[simp] theorem length_fullRecords (g : Grammar) (entry : LineState) (texts : List Text) :
    (fullRecords g entry texts).length = texts.length := by
  induction texts generalizing entry with
  | nil => rfl
  | cons text rest ih => rw [fullRecords_cons, List.length_cons, ih, List.length_cons]

/-- Lines behind other lines are entered in the state that these leave. -/
theorem fullRecords_append (g : Grammar) (entry : LineState) (above below : List Text) :
    fullRecords g entry (above ++ below)
      = fullRecords g entry above ++ fullRecords g (stateAfter g entry above) below := by
  induction above generalizing entry with
  | nil => rfl
  | cons text rest ih =>
    rw [List.cons_append, fullRecords_cons, fullRecords_cons, ih, List.cons_append]
    rfl

/-- The records of the first lines do not depend on those that follow. -/
theorem fullRecords_take (g : Grammar) (entry : LineState) (texts : List Text) (n : Nat) :
    (fullRecords g entry texts).take n = fullRecords g entry (texts.take n) := by
  induction n generalizing entry texts with
  | zero => rfl
  | succ n ih =>
    cases texts with
    | nil => rfl
    | cons text rest =>
      rw [fullRecords_cons, List.take_succ_cons, List.take_succ_cons, fullRecords_cons, ih]

/-- The records from some line on are those of the lines from there on. -/
theorem fullRecords_drop (g : Grammar) (entry : LineState) (texts : List Text) (n : Nat) :
    (fullRecords g entry texts).drop n
      = fullRecords g (stateAfter g entry (texts.take n)) (texts.drop n) := by
  induction n generalizing entry texts with
  | zero => rfl
  | succ n ih =>
    cases texts with
    | nil => rfl
    | cons text rest =>
      rw [fullRecords_cons, List.drop_succ_cons, ih, List.take_succ_cons, List.drop_succ_cons]
      rfl

/-- The record of a line holds the state that the lines up to it leave. -/
theorem fullRecords_exit (g : Grammar) (entry : LineState) (texts : List Text) (n : Nat)
    (hn : n < texts.length) :
    (fullRecords g entry texts)[n]?.bind (·.exit)
      = some (stateAfter g entry (texts.take (n + 1))) := by
  induction n generalizing entry texts with
  | zero =>
    cases texts with
    | nil => exact absurd hn (Nat.not_lt_zero 0)
    | cons text rest => rfl
  | succ n ih =>
    cases texts with
    | nil => exact absurd hn (Nat.not_lt_zero (n + 1))
    | cons text rest =>
      rw [fullRecords_cons, List.getElem?_cons_succ, List.take_succ_cons]
      exact ih _ rest (by simpa using hn)

/-! ## Where the cascade may stop -/

/-- From line `must` on every recorded state is trusted: below a line that leaves this state again,
    the records are those of the full highlighting. -/
def Trusted (g : Grammar) (must : Nat) (records : List LineRecord) (texts : List Text) : Prop :=
  ∀ i state, must ≤ i + 1 → records[i]?.bind (·.exit) = some state →
    records.drop (i + 1) = fullRecords g state (texts.drop (i + 1))

/-- Trust in the records of some lines includes trust in those of all lines but the first. -/
theorem Trusted.tail {g : Grammar} {must : Nat} {r : LineRecord} {records : List LineRecord}
    {text : Text} {texts : List Text} (h : Trusted g must (r :: records) (text :: texts)) :
    Trusted g (must - 1) records texts := by
  intro i state hi hexit
  have hnext := h (i + 1) state (by omega) (by simpa using hexit)
  simpa using hnext

/-- Full records are to be trusted everywhere. -/
theorem trusted_fullRecords (g : Grammar) (must : Nat) (entry : LineState) (texts : List Text) :
    Trusted g must (fullRecords g entry texts) texts := by
  intro i state _ hexit
  have hi : i < texts.length := by
    rcases Nat.lt_or_ge i texts.length with hlt | hge
    · exact hlt
    · rw [List.getElem?_eq_none (by rw [length_fullRecords]; exact hge)] at hexit
      exact absurd hexit (by simp)
  rw [fullRecords_exit g entry texts i hi] at hexit
  rw [fullRecords_drop, Option.some.inj hexit]

/-- **The cascade is exact.**  Highlighting on from a line as far as the cascade does gives the
    records of all lines from there on, if the states at which it may stop are trusted. -/
theorem cascade_eq_fullRecords (g : Grammar) (must : Nat) (entry : LineState)
    (records : List LineRecord) (texts : List Text) (hlen : records.length = texts.length)
    (ht : Trusted g must records texts) :
    (cascade g must entry records texts).1 = fullRecords g entry texts := by
  induction records generalizing must entry texts with
  | nil =>
    cases texts with
    | nil => rfl
    | cons text texts => exact absurd hlen (by simp)
  | cons r records ih =>
    cases texts with
    | nil => exact absurd hlen (by simp)
    | cons text texts =>
      rw [fullRecords_cons]
      by_cases hstop : must ≤ 1 ∧ r.exit = some (highlight g text entry).exit
      · -- the cascade ends here; what it leaves untouched is right by trust
        have hrest : records = fullRecords g (highlight g text entry).exit texts :=
          ht 0 _ hstop.1 hstop.2
        simp only [cascade, if_pos hstop]
        exact congrArg _ hrest
      · have hlen' : records.length = texts.length := by simpa using hlen
        have hrest := ih (must - 1) (highlight g text entry).exit texts hlen' ht.tail
        simp only [cascade, if_neg hstop]
        exact congrArg _ hrest

end Highlight
