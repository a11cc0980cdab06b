/-
  What can be wrong with a declaration, and where it is told.

  Rules are kept as a document has them until they are put into their slots, so that anything can
  stand there.  A declaration that makes no sense is left out or gives a disabled rule; the load
  goes on, and lists the problem.

  1. **Faults** — `NumberFault`, `RuleFault` and `BlockFault` say what is wrong with which problem,
     the first fault of a declaration before all others; `Fault` puts them together.

  2. **Reports** — the crux: applying a declaration reports a problem exactly if this is the fault
     of the declaration, and never two (`settle_reports`).

  3. **Lists** — so a load lists the faults of all declarations that it reads, each once and in
     their order (`Listed`), and a faulty declaration spoils no slot but its own.

  A fault is said of the declaration alone, by what stands in it; the reports are those of the
  program, which goes on after them.  One predicate ties the two together: `Reports` says of a list
  of problems that it holds the one fault there is, or nothing.  It is proved of one rule kind after
  the other in the order in which these call each other (`patternRule_reports`, `ruleOf_reports`,
  `blockOf_reports`), and the whole document is then a walk along its declarations.

  Main result: `load_lists_faults`.
-/
import Highlight.Proofs.Library.Declarations

namespace Highlight

open Toml
open Definition
open SlotDeclaration (made slotAfter slotAfter_erase slotAfter_last target_eq)

/-! ## Faults

  The faults are listed as one would tell them to the author of a document, without regard to how
  the program finds them. -/

/-- Why the first of some texts that is no pattern is refused.  An empty text stands for no
    pattern. -/
def refusal? (texts : List String) : Option PatternError :=
  texts.findSome? fun s =>
    if s.isEmpty then none
    else match Pattern.compile s with
      | .ok _ => none
      | .error cause => some cause

/-- A value lists some words, at least one. -/
def ListsWords (v : Value) (words : List String) : Prop :=
  v = .array (words.map .string) ∧ words ≠ []

/-- What is wrong with a number. -/
inductive NumberFault (category : Category) (capacity : Nat) : Option Value → RuleProblem → Prop
  | missing : NumberFault category capacity none (.invalidSlot category "nothing")
  | notInteger {v : Value} (h : v.integer? = none) :
      NumberFault category capacity (some v) (.invalidSlot category v.text)
  | outOfRange {n : Int} (h : n < 0 ∨ capacity ≤ n) :
      NumberFault category capacity (some (.integer n)) (.slotOutOfRange category n capacity)

/-- What is wrong with a pattern or, where there is none, with the words. -/
inductive RuleFault (category : Category) (index : Nat) :
    (pattern words : Option Value) → RuleProblem → Prop
  | notString {v : Value} {words : Option Value} (h : v.string? = none) :
      RuleFault category index (some v) words
        (.invalidPattern category index v.text (.notAString v.kind))
  | refused {s : String} {words : Option Value} {cause : PatternError}
      (h : refusal? [s] = some cause) :
      RuleFault category index (some (.string s)) words
        (.invalidPattern category index s (.refused cause))
  | notWords {v : Value} (h : ∀ words, ¬ListsWords v words) :
      RuleFault category index none (some v) (.invalidPattern category index v.text .notWords)
  | refusedWords {v : Value} {words : List String} {cause : PatternError}
      (hwords : ListsWords v words) (h : refusal? [wordsPattern words] = some cause) :
      RuleFault category index none (some v)
        (.invalidPattern category index (wordsPattern words) (.refused cause))
  | empty : RuleFault category index none none (.emptyRule category index)

/-- What is wrong with the delimiters of a construct.  All of them have to be texts before it
    matters what they say. -/
inductive BlockFault (category : Category) (index : Nat) : BlockDeclaration → RuleProblem → Prop
  | opening {v : Value} {closing escape : Option Value} (h : v.string? = none) :
      BlockFault category index ⟨some v, closing, escape⟩
        (.invalidPattern category index v.text (.notAString v.kind))
  | closing {opening : Option String} {v : Value} {escape : Option Value} (h : v.string? = none) :
      BlockFault category index ⟨opening.map .string, some v, escape⟩
        (.invalidPattern category index v.text (.notAString v.kind))
  | escape {opening closing : Option String} {v : Value} (h : v.string? = none) :
      BlockFault category index ⟨opening.map .string, closing.map .string, some v⟩
        (.invalidPattern category index v.text (.notAString v.kind))
  | incomplete {opening closing escape : Option String}
      (h : opening.getD "" = "" ∨ closing.getD "" = "") :
      BlockFault category index
        ⟨opening.map .string, closing.map .string, escape.map .string⟩
        (.incompleteBlock category index)
  | refused {opening closing : String} {escape : Option String} {cause : PatternError}
      (hopening : opening ≠ "") (hclosing : closing ≠ "")
      (h : refusal? [escape.getD "", opening, closing] = some cause) :
      BlockFault category index ⟨some (.string opening), some (.string closing), escape.map .string⟩
        (.invalidPattern category index (opening ++ " .. " ++ closing) (.refused cause))

/-- What is wrong with a declaration.  What it consists of matters only if its number is that of a
    slot. -/
inductive Fault (limits : Limits) : SlotDeclaration → RuleProblem → Prop
  | number {x : SlotDeclaration} {p : RuleProblem}
      (h : NumberFault x.category (limits.capacity x.category) x.number p) : Fault limits x p
  | rule {kind : RuleKind} {d : RuleDeclaration} {id : StyleId} {p : RuleProblem}
      (htarget : (SlotDeclaration.rule kind d).target limits = some id)
      (h : RuleFault kind.category id.index d.pattern d.words p) : Fault limits (.rule kind d) p
  | block {kind : BlockKind} {d : NumberedBlock} {id : StyleId} {p : RuleProblem}
      (htarget : (SlotDeclaration.block kind d).target limits = some id)
      (h : BlockFault kind.category id.index d.block p) : Fault limits (.block kind d) p

/-- The faults of some declarations: one for each that is bad, and none for any other. -/
inductive Listed (limits : Limits) : List SlotDeclaration → List RuleProblem → Prop
  | nil : Listed limits [] []
  | sound {x : SlotDeclaration} {xs : List SlotDeclaration} {ps : List RuleProblem}
      (h : ∀ p, ¬Fault limits x p) (hrest : Listed limits xs ps) : Listed limits (x :: xs) ps
  | faulty {x : SlotDeclaration} {xs : List SlotDeclaration} {p : RuleProblem}
      {ps : List RuleProblem} (h : Fault limits x p) (hrest : Listed limits xs ps) :
      Listed limits (x :: xs) (p :: ps)

/-! ## Reports

  The program checks one thing after the other and stops at the first fault, so each lemma of this
  section is an equivalence: this is reported just if it is the first fault there is. -/

/-- Some problems are those of a kind: there is one, if any. -/
structure Reports (problems : List RuleProblem) (Bad : RuleProblem → Prop) : Prop where
  once : problems.length ≤ 1
  mem_iff : ∀ p, p ∈ problems ↔ Bad p

namespace Reports

variable {problems : List RuleProblem} {Bad Bad' : RuleProblem → Prop} {p : RuleProblem}

/-- Where nothing is wrong nothing is reported. -/
theorem none (h : ∀ p, ¬Bad p) : Reports [] Bad :=
  ⟨Nat.zero_le 1, fun p => ⟨fun hp => absurd hp List.not_mem_nil, fun hp => absurd hp (h p)⟩⟩

/-- The one thing that is wrong is reported. -/
theorem one (h : ∀ q, Bad q ↔ q = p) : Reports [p] Bad :=
  ⟨Nat.le_refl 1, fun q => List.mem_singleton.trans (h q).symm⟩

theorem congr (h : Reports problems Bad) (hiff : ∀ p, Bad p ↔ Bad' p) : Reports problems Bad' :=
  ⟨h.once, fun p => (h.mem_iff p).trans (hiff p)⟩

/-- What is reported is nothing, or a single problem. -/
theorem cases (h : Reports problems Bad) :
    (problems = [] ∧ ∀ p, ¬Bad p) ∨ ∃ p, problems = [p] ∧ Bad p := by
  match problems, h with
  | [], h => exact .inl ⟨rfl, fun p hp => List.not_mem_nil ((h.mem_iff p).mpr hp)⟩
  | [p], h => exact .inr ⟨p, rfl, (h.mem_iff p).mp (List.mem_singleton_self p)⟩
  | _ :: _ :: _, h => exact absurd h.once (by simp)

end Reports

section Parts

variable {category : Category} {i : Nat} {v : Value} {p : RuleProblem}

theorem string?_eq_some_iff {s : String} : v.string? = some s ↔ v = .string s := by
  cases v <;> simp [Value.string?]

/-- A list of values has texts if each of them is one. -/
theorem mapM_string?_eq_some_iff {vs : List Value} {words : List String} :
    vs.mapM Value.string? = some words ↔ vs = words.map .string := by
  induction vs generalizing words with
  | nil => cases words <;> simp
  | cons v vs ih =>
    cases words with
    | nil => simp [List.mapM_cons, Option.bind_eq_some_iff]
    | cons word words => simp [List.mapM_cons, Option.bind_eq_some_iff, string?_eq_some_iff, ih]

/-- Words are read from an array of texts that is not empty, and from nothing else. -/
theorem words?_eq_some_iff {words : List String} :
    words? v = some words ↔ ListsWords v words := by
  unfold words? ListsWords Value.listOf?
  cases v <;>
    simp [Value.array?, Option.filter_eq_some_iff, mapM_string?_eq_some_iff]

/-- **A number is refused just if it has a fault**, and the fault is what is reported. -/
theorem slotOf_eq_error_iff {capacity : Nat} {number : Option Value} :
    slotOf category capacity number = .error p ↔ NumberFault category capacity number p := by
  constructor
  · intro h
    rcases number with _ | v
    · obtain rfl := Except.error.inj h
      exact .missing
    · cases v with
      | integer n =>
        unfold slotOf at h
        simp only at h
        by_cases hn : 0 ≤ n ∧ n < capacity
        · rw [if_pos hn] at h
          exact absurd h (by simp)
        · rw [if_neg hn] at h
          obtain rfl := Except.error.inj h
          exact .outOfRange (by omega)
      | _ =>
        obtain rfl := Except.error.inj h
        exact .notInteger rfl
  · intro h
    cases h with
    | missing => rfl
    | notInteger hv =>
      rename_i v
      cases v with
      | integer n => exact absurd hv (by simp [Value.integer?])
      | _ => rfl
    | outOfRange hn => exact if_neg (by omega)

/-- The first pattern that is refused counts; an empty one is none. -/
theorem refusal?_cons (s : String) (rest : List String) :
    refusal? (s :: rest) = if s.isEmpty then refusal? rest
      else match Pattern.compile s with
        | .ok _ => refusal? rest
        | .error cause => some cause := by
  unfold refusal?
  rw [List.findSome?_cons]
  by_cases hs : s.isEmpty
  · rw [if_pos hs, if_pos hs]
  · rw [if_neg hs, if_neg hs]
    cases Pattern.compile s with
    | ok p => rfl
    | error cause => rfl

/-- A pattern is reported if it is refused. -/
theorem patternRule_reports (category : Category) (i : Nat) (s : String) :
    Reports (patternRule category i s).2 fun p =>
      ∃ cause, refusal? [s] = some cause ∧ p = .invalidPattern category i s (.refused cause) := by
  unfold patternRule Rule.compile
  simp only [refusal?_cons]
  by_cases hs : s.isEmpty
  · rw [if_pos hs, if_pos hs]
    exact .none fun p ⟨cause, hcause, _⟩ => absurd hcause (by simp [refusal?])
  · rw [if_neg hs, if_neg hs]
    cases Pattern.compile s with
    | ok pattern => exact .none fun p ⟨cause, hcause, _⟩ => absurd hcause (by simp [refusal?])
    | error cause => exact .one fun p => by simp

/-- Where there is a pattern, words do not count. -/
theorem valueRule_reports (category : Category) (i : Nat) (v : Value) (words : Option Value) :
    Reports (valueRule category i v).2 (RuleFault category i (some v) words) := by
  unfold valueRule
  cases hv : v.string? with
  | none =>
    refine .one fun p => ⟨fun h => ?_, fun h => ?_⟩
    · cases h with
      | notString => rfl
      | refused => exact absurd hv (by simp [Value.string?])
    · rw [h]
      exact .notString hv
  | some s =>
    obtain rfl := string?_eq_some_iff.mp hv
    refine (patternRule_reports category i s).congr fun p => ⟨?_, fun h => ?_⟩
    · rintro ⟨cause, hcause, rfl⟩
      exact .refused hcause
    · cases h with
      | notString hnot => exact absurd hnot (by simp [Value.string?])
      | refused hcause => exact ⟨_, hcause, rfl⟩

/-- A value that lists words is the pattern of these words, in one way only. -/
theorem wordsRule_reports {words : List String} (hwords : ListsWords v words) :
    Reports (patternRule category i (wordsPattern words)).2
      (RuleFault category i none (some v)) := by
  refine (patternRule_reports category i (wordsPattern words)).congr fun p => ⟨?_, fun h => ?_⟩
  · rintro ⟨cause, hcause, rfl⟩
    exact .refusedWords hwords hcause
  · cases h with
    | notWords hnot => exact absurd hwords (hnot words)
    | @refusedWords _ words' cause hwords' hcause =>
      have hsame : some words' = some words :=
        (words?_eq_some_iff.mpr hwords').symm.trans (words?_eq_some_iff.mpr hwords)
      obtain rfl := Option.some.inj hsame
      exact ⟨cause, hcause, rfl⟩

/-- **A declared rule is reported for its fault**, with words or with a pattern. -/
theorem ruleOf_reports (category : Category) (i : Nat) (d : RuleDeclaration) :
    Reports (ruleOf category i d).2 (RuleFault category i d.pattern d.words) := by
  obtain ⟨slot, pattern, words⟩ := d
  rcases pattern with _ | v
  · rcases words with _ | v
    · refine .one fun p => ⟨fun h => ?_, fun h => ?_⟩
      · cases h
        rfl
      · rw [h]
        exact .empty
    · unfold ruleOf
      simp only
      cases hwords : words? v with
      | some words => exact wordsRule_reports (words?_eq_some_iff.mp hwords)
      | none =>
        have hnot : ∀ words, ¬ListsWords v words := fun words hlists =>
          absurd (hwords.symm.trans (words?_eq_some_iff.mpr hlists)) (by simp)
        refine .one fun p => ⟨fun h => ?_, fun h => ?_⟩
        · cases h with
          | notWords => rfl
          | refusedWords hlists => exact absurd hlists (hnot _)
        · rw [h]
          exact .notWords hnot
  · exact valueRule_reports category i v words

@[simp] theorem delimiter_map_string (category : Category) (i : Nat) (s : Option String) :
    delimiter category i (s.map .string) = .ok s := by
  cases s with
  | none => rfl
  | some s => rfl

/-- A delimiter that is no text is reported as such. -/
theorem delimiter_of_string?_eq_none (h : v.string? = none) :
    delimiter category i (some v) = .error (notAString category i v) := by
  simp only [delimiter, h]

/-- A delimiter is a text, if there is one, or it is none that could be read. -/
theorem delimiter_cases (v : Option Value) :
    (∃ s : Option String, v = s.map .string) ∨ ∃ w, v = some w ∧ w.string? = none := by
  rcases v with _ | v
  · exact .inl ⟨none, rfl⟩
  · cases hv : v.string? with
    | none => exact .inr ⟨v, rfl, hv⟩
    | some s => exact .inl ⟨some s, by rw [string?_eq_some_iff.mp hv]; rfl⟩

/-- Of the patterns of a construct the first one that is refused counts, the escape before the
    delimiters. -/
theorem compile_eq_error_iff {opening closing : String} (hopening : opening ≠ "")
    (hclosing : closing ≠ "") {escape : Option String} {style : StyleId} {cause : PatternError} :
    BlockRule.compile opening closing escape style = .error cause
      ↔ refusal? [escape.getD "", opening, closing] = some cause := by
  have hopening : ¬opening.isEmpty := by simpa using hopening
  have hclosing : ¬closing.isEmpty := by simpa using hclosing
  -- once the escape is no obstacle, the ends are compiled one after the other
  have hends : ∀ escape : Option Pattern, (do
      let opening ← Pattern.compile opening
      let closing ← Pattern.compile closing
      return (⟨some ⟨opening, closing, escape⟩, style⟩ : BlockRule)) = Except.error cause
        ↔ refusal? [opening, closing] = some cause := by
    intro escape
    rw [refusal?_cons, if_neg hopening, refusal?_cons, if_neg hclosing]
    cases Pattern.compile opening with
    | error e => simp [bind, Except.bind]
    | ok p =>
      cases Pattern.compile closing with
      | error e => simp [bind, Except.bind]
      | ok q => simp [bind, Except.bind, refusal?, pure, Except.pure]
  unfold BlockRule.compile
  rw [if_neg (by simp [hopening, hclosing]), refusal?_cons]
  rcases escape with _ | e
  · exact hends none
  · by_cases he : e.isEmpty
    · simp only [Option.getD_some, if_pos he]
      exact hends none
    · simp only [Option.getD_some, if_neg he]
      cases Pattern.compile e with
      | error e => simp [bind, Except.bind, Except.map]
      | ok p => exact hends (some p)

/-- A construct whose delimiters are texts is compiled unless one of its ends is missing. -/
theorem compileBlock_of_texts (category : Category) (i : Nat)
    (opening closing escape : Option String) :
    compileBlock category i ⟨opening.map .string, closing.map .string, escape.map .string⟩
      = if opening.getD "" = "" ∨ closing.getD "" = "" then .error (.incompleteBlock category i)
        else (BlockRule.compile (opening.getD "") (closing.getD "") escape
          (.ofCategory category i)).mapError fun cause =>
            .invalidPattern category i (opening.getD "" ++ " .. " ++ closing.getD "")
              (.refused cause) := by
  unfold compileBlock
  simp only [delimiter_map_string]
  by_cases hends : opening.getD "" = "" ∨ closing.getD "" = ""
  · simp [bind, Except.bind, hends, throw, throwThe, MonadExceptOf.throw]
  · simp only [bind, Except.bind, Bool.or_eq_true, String.isEmpty_iff, if_neg hends]
    cases BlockRule.compile (opening.getD "") (closing.getD "") escape (.ofCategory category i) with
    | ok r => rfl
    | error e => rfl

/-- If it is not compiled then one of its ends is missing, or a pattern is refused. -/
theorem blockFault_of_texts {opening closing escape : Option String}
    (h : compileBlock category i ⟨opening.map .string, closing.map .string, escape.map .string⟩
      = .error p) :
    BlockFault category i ⟨opening.map .string, closing.map .string, escape.map .string⟩ p := by
  rw [compileBlock_of_texts] at h
  by_cases hends : opening.getD "" = "" ∨ closing.getD "" = ""
  · rw [if_pos hends] at h
    obtain rfl := Except.error.inj h
    exact .incomplete hends
  · rw [if_neg hends] at h
    obtain ⟨hopening, hclosing⟩ := not_or.mp hends
    rcases opening with _ | opening
    · exact absurd rfl hopening
    · rcases closing with _ | closing
      · exact absurd rfl hclosing
      · simp only [Option.getD_some] at h
        cases hcompile : BlockRule.compile opening closing escape (.ofCategory category i) with
        | ok r =>
          rw [hcompile] at h
          cases h
        | error cause =>
          rw [hcompile] at h
          obtain rfl := Except.error.inj h
          exact .refused hopening hclosing ((compile_eq_error_iff hopening hclosing).mp hcompile)

/-- **A construct fails to compile just if its declaration has a fault**, and with that fault. -/
theorem compileBlock_eq_error_iff {d : BlockDeclaration} :
    compileBlock category i d = .error p ↔ BlockFault category i d p := by
  constructor
  · intro h
    obtain ⟨opening, closing, escape⟩ := d
    -- the delimiters are looked at in turn, and the first one that is no text is reported
    rcases delimiter_cases opening with ⟨opening, rfl⟩ | ⟨v, rfl, hv⟩
    · rcases delimiter_cases closing with ⟨closing, rfl⟩ | ⟨v, rfl, hv⟩
      · rcases delimiter_cases escape with ⟨escape, rfl⟩ | ⟨v, rfl, hv⟩
        · exact blockFault_of_texts h
        · simp only [compileBlock, delimiter_map_string, delimiter_of_string?_eq_none hv] at h
          obtain rfl := Except.error.inj h
          exact .escape hv
      · simp only [compileBlock, delimiter_map_string, delimiter_of_string?_eq_none hv] at h
        obtain rfl := Except.error.inj h
        exact .closing hv
    · simp only [compileBlock, delimiter_of_string?_eq_none hv] at h
      obtain rfl := Except.error.inj h
      exact .opening hv
  · intro h
    cases h with
    | opening hv =>
      simp only [compileBlock, delimiter_of_string?_eq_none hv]
      rfl
    | closing hv =>
      simp only [compileBlock, delimiter_map_string, delimiter_of_string?_eq_none hv]
      rfl
    | escape hv =>
      simp only [compileBlock, delimiter_map_string, delimiter_of_string?_eq_none hv]
      rfl
    | incomplete hends => rw [compileBlock_of_texts, if_pos hends]
    | @refused opening closing escape cause hopening hclosing hcause =>
      have hcompile : BlockRule.compile opening closing escape (.ofCategory category i)
          = .error cause := (compile_eq_error_iff hopening hclosing).mpr hcause
      have htexts := compileBlock_of_texts category i (some opening) (some closing) escape
      rw [if_neg (by simp [hopening, hclosing])] at htexts
      simp only [Option.getD_some, hcompile] at htexts
      exact htexts

/-- So a declared construct is reported for its fault. -/
theorem blockOf_reports (category : Category) (i : Nat) (d : BlockDeclaration) :
    Reports (blockOf category i d).2 (BlockFault category i d) := by
  unfold blockOf
  cases hcompile : compileBlock category i d with
  | ok r =>
    refine .none fun p hp => ?_
    rw [compileBlock_eq_error_iff.mpr hp] at hcompile
    exact absurd hcompile (by simp)
  | error problem =>
    refine .one fun p => ?_
    rw [← compileBlock_eq_error_iff, hcompile, Except.error.injEq]
    exact eq_comm

end Parts

section Declarations

variable {limits : Limits} {g : Grammar} {x : SlotDeclaration} {p : RuleProblem} {id : StyleId}
  {i : Nat}

/-- The number of a slot is the one that has been declared for it. -/
theorem target_of_slotOf (h : slotOf x.category (limits.capacity x.category) x.number = .ok i) :
    ∃ id, x.target limits = some id ∧ id.index = i := by
  refine ⟨.ofCategory x.category i, by rw [target_eq, h]; rfl, ?_⟩
  have hi := (slotOf_eq_ok_iff.mp h).1
  -- a category without numbers has the slot 0 only
  cases x with
  | rule kind d =>
    cases kind with
    | number | lineComment => exact (Nat.lt_one_iff.mp hi).symm
    | _ => rfl
  | block kind d =>
    cases kind with
    | quotation | blockComment => exact (Nat.lt_one_iff.mp hi).symm
    | blockExpression => rfl

/-- **A declaration without a usable number goes nowhere.** -/
theorem NumberFault.target_eq_none
    (h : NumberFault x.category (limits.capacity x.category) x.number p) :
    x.target limits = none := by
  rw [target_eq, slotOf_eq_error_iff.mpr h]
  rfl

/-- If the number is bad nothing else is looked at. -/
theorem fault_iff_of_numberFault
    (h : NumberFault x.category (limits.capacity x.category) x.number p) (q : RuleProblem) :
    Fault limits x q ↔ q = p := by
  constructor
  · intro hq
    cases hq with
    | number hq =>
      have hsame : Except.error q = (.error p : Except RuleProblem Nat) :=
        (slotOf_eq_error_iff.mpr hq).symm.trans (slotOf_eq_error_iff.mpr h)
      exact Except.error.inj hsame
    | rule htarget => exact absurd (h.target_eq_none.symm.trans htarget) (by simp)
    | block htarget => exact absurd (h.target_eq_none.symm.trans htarget) (by simp)
  · rintro rfl
    exact .number h

/-- If the number is good a rule is as bad as its pattern. -/
theorem fault_rule_iff {kind : RuleKind} {d : RuleDeclaration}
    (htarget : (SlotDeclaration.rule kind d).target limits = some id) (q : RuleProblem) :
    Fault limits (.rule kind d) q ↔ RuleFault kind.category id.index d.pattern d.words q := by
  refine ⟨fun hq => ?_, .rule htarget⟩
  cases hq with
  | number hq => exact absurd (hq.target_eq_none.symm.trans htarget) (by simp)
  | rule htarget' hq =>
    obtain rfl := Option.some.inj (htarget.symm.trans htarget')
    exact hq

/-- And a construct as its delimiters. -/
theorem fault_block_iff {kind : BlockKind} {d : NumberedBlock}
    (htarget : (SlotDeclaration.block kind d).target limits = some id) (q : RuleProblem) :
    Fault limits (.block kind d) q ↔ BlockFault kind.category id.index d.block q := by
  refine ⟨fun hq => ?_, .block htarget⟩
  cases hq with
  | number hq => exact absurd (hq.target_eq_none.symm.trans htarget) (by simp)
  | block htarget' hq =>
    obtain rfl := Option.some.inj (htarget.symm.trans htarget')
    exact hq

/-- **What applying a declaration reports is its fault.** -/
theorem settle_reports (h : g.Sized limits) (x : SlotDeclaration) :
    Reports (settle g x).2 (Fault limits x) := by
  have hcount := h x
  unfold settle
  rw [hcount]
  cases hslot : slotOf x.category (limits.capacity x.category) x.number with
  | error problem =>
    have hnumber := slotOf_eq_error_iff.mp hslot
    exact .one (fault_iff_of_numberFault hnumber)
  | ok i =>
    obtain ⟨id, htarget, rfl⟩ := target_of_slotOf hslot
    cases x with
    | rule kind d =>
      have hrule := ruleOf_reports kind.category id.index d
      exact hrule.congr fun q => (fault_rule_iff htarget q).symm
    | block kind d =>
      have hblock := blockOf_reports kind.category id.index d.block
      exact hblock.congr fun q => (fault_block_iff htarget q).symm

/-! ## Disabled slots

  What a bad declaration leaves behind in its slot. -/

/-- A pattern that is refused is not usable. -/
theorem usableText_of_refusal? {s : String} {cause : PatternError}
    (h : refusal? [s] = some cause) : usableText s = none := by
  rw [refusal?_cons] at h
  unfold usableText
  split
  · rfl
  · rename_i hs
    rw [if_neg hs] at h
    cases hcompile : Pattern.compile s with
    | ok pattern =>
      rw [hcompile] at h
      exact absurd h (by simp [refusal?])
    | error cause' => rfl

/-- A rule with a fault comes out disabled. -/
theorem RuleFault.usableRule_eq_none {category : Category} {d : RuleDeclaration}
    (h : RuleFault category i d.pattern d.words p) : usableRule d = none := by
  obtain ⟨slot, pattern, words⟩ := d
  simp only at h
  unfold usableRule usable
  cases h with
  | notString hv => simp only [hv, Option.bind_none]
  | refused hcause => exact usableText_of_refusal? hcause
  | @notWords v hnot =>
    simp only [Option.bind_some]
    cases hwords : words? v with
    | none => rfl
    | some words => exact absurd (words?_eq_some_iff.mp hwords) (hnot words)
  | refusedWords hlists hcause =>
    simp only [Option.bind_some, words?_eq_some_iff.mpr hlists]
    exact usableText_of_refusal? hcause
  | empty => rfl

/-- And so does a construct. -/
theorem BlockFault.usableBlock_eq_none {category : Category} {d : BlockDeclaration}
    (h : BlockFault category i d p) : usableBlock d = none := by
  have hcompile := compileBlock_toOption category i d
  rw [compileBlock_eq_error_iff.mpr h] at hcompile
  exact Option.map_eq_none_iff.mp hcompile.symm

/-- **A bad declaration disables the slot that it goes to.** -/
theorem Fault.made_disabled (h : Fault limits x p) (htarget : x.target limits = some id) :
    (x.made id).isEnabled = false := by
  cases h with
  | number h => exact absurd (h.target_eq_none.symm.trans htarget) (by simp)
  | rule _ h => rw [made, h.usableRule_eq_none]; rfl
  | block _ h => rw [made, h.usableBlock_eq_none]; rfl

/-! ## Lists

  From one declaration to a document, from a document to the line of documents that a load reads,
  and from there to the load. -/

/-- Faults are listed document by document. -/
theorem Listed.append {xs ys : List SlotDeclaration} {ps qs : List RuleProblem}
    (h : Listed limits xs ps) (h' : Listed limits ys qs) : Listed limits (xs ++ ys) (ps ++ qs) := by
  induction h with
  | nil => exact h'
  | sound hx _ ih => exact .sound hx ih
  | faulty hx _ ih => exact .faulty hx ih

/-- The faults of a document are listed in its order, by induction on its declarations. -/
theorem listed_placeAll_settle (h : g.Sized limits) (xs : List SlotDeclaration) :
    Listed limits xs (placeAll settle g xs).2 := by
  induction xs generalizing g with
  | nil => exact .nil
  | cons x xs ih =>
    have hrest := ih (settle_sized h x)
    simp only [placeAll]
    rcases (settle_reports h x).cases with ⟨hnone, hsound⟩ | ⟨p, hone, hfault⟩
    · rw [hnone]
      exact .sound hsound hrest
    · rw [hone]
      exact .faulty hfault hrest

/-- The problems of a line of documents are the faults of all their declarations. -/
theorem listed_placeAll_layer (h : g.Sized limits) (ds : List Definition) :
    Listed limits (ds.flatMap (·.declarations)) (placeAll layer g ds).2 := by
  induction ds generalizing g with
  | nil => exact .nil
  | cons d ds ih =>
    have hfirst : Listed limits d.declarations (layer g d).2 := by
      rw [layer, applyTo_eq_placeAll]
      exact listed_placeAll_settle h d.declarations
    exact hfirst.append (ih (applyTo_sized h d _))

end Declarations

/-- What a declaration may do to the slots of a grammar, if it is bad: `before` and `after` are the
    other declarations that the grammar has been made of, and `below` is what it has been laid
    over. -/
structure Contained (limits : Limits) (below g : Grammar) (before : List SlotDeclaration)
    (x : SlotDeclaration) (after : List SlotDeclaration) : Prop where
  /-- Without a usable number it leaves all slots alone. -/
  misplaced : ∀ p, NumberFault x.category (limits.capacity x.category) x.number p →
    ∀ id, g.slot? id = slotAfter limits id (below.slot? id) (before ++ after)
  /-- It never counts for any slot but its own. -/
  elsewhere : ∀ id, x.target limits ≠ some id →
    g.slot? id = slotAfter limits id (below.slot? id) (before ++ after)
  /-- Its own slot is disabled, unless a later declaration replaces it. -/
  disabled : ∀ id, x.target limits = some id → (∀ y ∈ after, y.target limits ≠ some id) →
    ∃ s, g.slot? id = some s ∧ s.isEnabled = false

/-- A faulty declaration changes its own slot at most: if its number is good, the slot is disabled
    until a later declaration goes there, and no other slot depends on it. -/
theorem contained_of_fault {limits : Limits} {below g : Grammar} {x : SlotDeclaration}
    {before after : List SlotDeclaration} {p : RuleProblem} (h : Fault limits x p)
    (hslots : ∀ id, g.slot? id = slotAfter limits id (below.slot? id) (before ++ x :: after)) :
    Contained limits below g before x after := by
  have helsewhere : ∀ id, x.target limits ≠ some id →
      g.slot? id = slotAfter limits id (below.slot? id) (before ++ after) := fun id hx => by
    rw [hslots, slotAfter_erase hx]
  refine ⟨fun p hnumber id => helsewhere id ?_, helsewhere, fun id hx hafter => ?_⟩
  · rw [hnumber.target_eq_none]
    simp
  · exact ⟨x.made id, by rw [hslots, slotAfter_last hx hafter], h.made_disabled hx⟩

namespace GrammarLibrary

/-- What documents are laid over has the properties of all grammars. -/
theorem Reads.base_holds {library : GrammarLibrary} {P : Grammar → Prop} {chain : List String}
    {d : Definition} {ds : List Definition} {base : Grammar}
    (hP : Layerwise library.config.limits P) (hholds : Holds library.config P library)
    (h : Reads library chain d ds base) : P base := by
  induction h with
  | root => exact hP.plain _
  | kept _ _ _ _ hkept => exact hholds.kept _ _ hkept
  | read _ _ _ _ _ _ _ ih => exact ih

/-- What has something to be laid over is loaded, and lists its faults; each slot is as the
    declarations leave it, one after the other. -/
theorem listed_of_reads (config : Config) (files : FileSystem)
    (sources : Dict String (Source Definition)) (calls : List Call) {library : GrammarLibrary}
    (hrun : run { config, files, sources } calls = library) {request : Request} {d : Definition}
    {ds : List Definition} {base : Grammar} (hsource : request.source library = .ok d)
    (hunkept : ∀ name, request = .name name → library.loaded.find? (nameKey name) = none)
    (hreads : Reads library [] d ds base) :
    ∃ g, (request.load library).1 = .ok g ∧
      Listed config.limits (ds.reverse.flatMap (·.declarations))
        (request.load library).2.problems ∧
      ∀ id, g.slot? id = slotAfter config.limits id (base.slot? id)
        (ds.reverse.flatMap (·.declarations)) := by
  have hconfig : library.config = config := by
    rw [← hrun]
    exact run_config ..
  -- what is laid over has the right number of slots, wherever it comes from
  have hsized : base.Sized config.limits := by
    have hP := sized_layerwise config.limits
    have hholds : Holds config (Grammar.Sized config.limits) library := by
      rw [← hrun]
      exact run_holds hP (holds_of_empty rfl rfl) calls
    subst hconfig
    exact hreads.base_holds hP hholds
  obtain ⟨hload, hproblems⟩ := load_of_reads hsource hunkept hreads
  refine ⟨_, hload, ?_, fun id => slot?_placeAll_layer hsized ds.reverse id⟩
  rw [hproblems]
  exact listed_placeAll_layer hsized ds.reverse

/-- **Whatever stands in a document, it is loaded**, and exactly the faults of the declarations that
    have been read are listed, each once: those of a parent before those of the documents that are
    derived from it, those of one document in the order in which they are applied, and none of a
    grammar that has been kept.  No fault spoils more than the slot that it is about. -/
theorem load_lists_faults (config : Config) (files : FileSystem)
    (sources : Dict String (Source Definition)) (calls : List Call) {library : GrammarLibrary}
    (hrun : run { config, files, sources } calls = library) {request : Request} {d : Definition}
    {ds : List Definition} {base : Grammar} (hsource : request.source library = .ok d)
    (hunkept : ∀ name, request = .name name → library.loaded.find? (nameKey name) = none)
    (hreads : Reads library [] d ds base) :
    ∃ g, (request.load library).1 = .ok g ∧
      Listed config.limits (ds.reverse.flatMap (·.declarations))
        (request.load library).2.problems ∧
      (∀ id, g.slot? id = slotAfter config.limits id (base.slot? id)
        (ds.reverse.flatMap (·.declarations))) ∧
      ∀ before x after p, ds.reverse.flatMap (·.declarations) = before ++ x :: after →
        Fault config.limits x p → Contained config.limits base g before x after := by
  obtain ⟨g, hload, hlisted, hslots⟩ :=
    listed_of_reads config files sources calls hrun hsource hunkept hreads
  refine ⟨g, hload, hlisted, hslots, fun before x after p hsplit hfault => ?_⟩
  rw [hsplit] at hslots
  exact contained_of_fault hfault hslots

/-- A parent and a child with two bad declarations each; the child replaces one of its parent's. -/
theorem load_lists_faults_inherited :
    let calls : List Call :=
      [.register "base" "name='base'\nlinecomment=1\n[[keywords]]\ntype=0\nwords=[]"]
    let library := run { config := {}, files := {}, sources := [] } calls
    let request : Request := .text ("name='c'\nuse='Base'\nlinecomment='#'\n" ++
      "[[keywords]]\ntype=8\npattern='if'\n[[expression]]\ntype=1")
    (request.load library).2.problems =
        [.invalidPattern .lineComment 0 "1" (.notAString "integer"),
          .invalidPattern .keyword 0 "[]" .notWords, .slotOutOfRange .keyword 8 8,
          .emptyRule .expression 1] ∧
      ∃ d ds base, (request.source library = .ok d ∧ Reads library [] d ds base) ∧
        ∃ g, (request.load library).1 = .ok g ∧
          Listed {} (ds.reverse.flatMap (·.declarations)) (request.load library).2.problems := by
  intro calls library request
  have hrun : run { config := {}, files := {}, sources := [] } calls = library := rfl
  have hunkept : ∀ name, request = .name name → library.loaded.find? (nameKey name) = none :=
    fun name h => Request.noConfusion h
  obtain ⟨g, hg⟩ : ∃ g, (request.load library).1 = .ok g :=
    exists_eq_ok_of_isSome (by decide +kernel)
  obtain ⟨d, hsource⟩ : ∃ d, request.source library = .ok d :=
    exists_eq_ok_of_isSome (by decide +kernel)
  obtain ⟨ds, base, hreads⟩ := reads_of_load hsource hunkept hg
  obtain ⟨g, hload, hlisted, -⟩ := load_lists_faults {} {} [] calls hrun hsource hunkept hreads
  exact ⟨by decide +kernel, d, ds, base, ⟨hsource, hreads⟩, g, hload, hlisted⟩

end GrammarLibrary

end Highlight
