/-
  What a line of definitions comes to.

  1. **Usable declarations** — `usable`, `usableRule` and `usableBlock` say which declarations give
     patterns; from any other the rule comes out disabled.

  2. **Merging** — `merged` says of every slot which definition of a line decides it: the most
     derived one that declares it.  For a numbered slot this is one with a declaration whose number
     is that of the slot, and of several in the same definition the last one counts.

  3. **Layers** — laying the definitions over each other, from the root on, gives the same grammar
     (`layered_eq_merged`).  For a numbered slot this takes an induction on the declarations too
     (`placeAll_getElem?`).

  The program lays declarations over a grammar one after the other and reports problems as it goes.
  What it does to one declaration is compared with what the declaration comes to on its own
  (`ruleOf_fst`, `blockOf_fst`), and that is independent of the grammar below.  So the merge can be
  said without grammars, as a choice among declarations.
-/
import Highlight.Proofs.Library.Lineage

namespace Highlight

open Toml

namespace Definition

/-! ## Usable declarations

  What a declaration gives on its own, or nothing if it is no good.  None of this mentions a grammar
  or a problem. -/

/-- The pattern that a text gives: it must not be empty, nor be refused. -/
def usableText (s : String) : Option Pattern :=
  if s.isEmpty then none else (Pattern.compile s).toOption

/-- The pattern that a value gives: it must be a text. -/
def usable (v : Value) : Option Pattern := v.string?.bind usableText

theorem usable_string (s : String) : usable (.string s) = usableText s := rfl

/-- The pattern that a numbered rule gives; if there is a pattern, words do not count. -/
def usableRule (d : RuleDeclaration) : Option Pattern :=
  match d.pattern with
  | some v => usable v
  | none => (d.words.bind words?).bind fun words => usableText (wordsPattern words)

/-- What an escape gives: without one, or with an empty one, nothing is hidden. -/
def usableEscape : Option Value → Option (Option Pattern)
  | none => some none
  | some v => v.string?.bind fun s =>
      if s.isEmpty then some none else (Pattern.compile s).toOption.map some

/-- The delimiters that a construct gives: both ends must be usable, and the escape as well. -/
def usableBlock (d : BlockDeclaration) : Option Delimiters :=
  (d.opening.bind usable).bind fun opening =>
    (d.closing.bind usable).bind fun closing =>
      (usableEscape d.escape).map fun escape => ⟨opening, closing, escape⟩

/-! ## Merging

  What layers come to, as a definition: for each slot, which definition of a line decides it, and
  what stands there if none does. -/

/-- Whether a declared number is that of a slot; what is no integer is no number. -/
def selects (i : Nat) : Option Value → Bool
  | some (.integer n) => n = i
  | _ => false

/-- The declaration that decides a numbered slot: the last one with its number in the most derived
    definition that has one. -/
def deciding {δ : Type} (slot : δ → Option Value) (declared : Definition → List δ) (i : Nat)
    (ds : List Definition) : Option δ :=
  ds.findSome? fun d => ((declared d).filter fun r => selects i (slot r)).getLast?

/-- Quotations where none are declared. -/
def defaultQuotation : BlockDeclaration where
  opening := some (.string Grammar.defaultQuote)
  closing := some (.string Grammar.defaultQuote)
  escape := some (.string Grammar.defaultEscape)

/-- The grammar of a line of definitions, the most derived one first. -/
def merged (limits : Limits) (ds : List Definition) : Grammar where
  name := (ds.head?.bind (·.declaredName?)).getD ""
  parent := ds.head?.bind (·.parent)
  style := ds.findSome? (·.style)
  extensions := (ds.findSome? (·.extensions)).getD []
  numbers := ⟨usable ((ds.findSome? (·.numbers)).getD (.string Grammar.defaultNumbers)), .number⟩
  quotation := ⟨usableBlock ((ds.findSome? (·.quotation)).getD defaultQuotation), .quotation⟩
  lineComment := ⟨(ds.findSome? (·.lineComment)).bind usable, .lineComment⟩
  blockComment := ⟨(ds.findSome? (·.blockComment)).bind usableBlock, .blockComment⟩
  keywords := (List.range limits.keywords).map fun i =>
    ⟨(deciding (·.slot) (·.keywords) i ds).bind usableRule, .keyword i⟩
  expressions := (List.range limits.expressions).map fun i =>
    ⟨(deciding (·.slot) (·.expressions) i ds).bind usableRule, .expression i⟩
  lineExpressions := (List.range limits.lineExpressions).map fun i =>
    ⟨(deciding (·.slot) (·.lineExpressions) i ds).bind usableRule, .lineExpression i⟩
  blockExpressions := (List.range limits.blockExpressions).map fun i =>
    ⟨(deciding (·.slot) (·.blockExpressions) i ds).bind (usableBlock ·.block), .blockExpression i⟩

/-! ## The rules of declarations

  What the program makes of a declaration, with the reports left out, is what the declaration gives;
  where it gives nothing, a disabled rule. -/

/-- A default rule is the one that its text gives. -/
theorem ruleOr_compile (s : String) (style : StyleId) :
    Grammar.ruleOr style (Rule.compile s style) = ⟨usableText s, style⟩ := by
  unfold Rule.compile usableText
  by_cases hs : s.isEmpty
  · rw [if_pos hs, if_pos hs]
    rfl
  · rw [if_neg hs, if_neg hs]
    cases Pattern.compile s with
    | error e => rfl
    | ok p => rfl

/-- The rule for a pattern, without the problems it is reported with. -/
theorem patternRule_fst (category : Category) (i : Nat) (s : String) :
    (patternRule category i s).1 = ⟨usableText s, .ofCategory category i⟩ := by
  rw [← ruleOr_compile]
  unfold patternRule
  simp only
  cases Rule.compile s (.ofCategory category i) with
  | error e => rfl
  | ok r => rfl

theorem valueRule_fst (category : Category) (i : Nat) (v : Value) :
    (valueRule category i v).1 = ⟨usable v, .ofCategory category i⟩ := by
  unfold valueRule usable
  cases v.string? with
  | none => rfl
  | some s => exact patternRule_fst category i s

/-- The rule for a declaration comes from its words or its pattern, or is disabled. -/
theorem ruleOf_fst (category : Category) (i : Nat) (d : RuleDeclaration) :
    (ruleOf category i d).1 = ⟨usableRule d, .ofCategory category i⟩ := by
  unfold ruleOf usableRule
  cases d.pattern with
  | some v => exact valueRule_fst category i v
  | none =>
    cases d.words with
    | none => rfl
    | some v =>
      simp only [Option.bind_some]
      cases words? v with
      | none => rfl
      | some words => exact patternRule_fst category i _

/-- The text of an end that is missing is empty, and so not usable either. -/
theorem delimiter_usable (category : Category) (i : Nat) (v : Option Value) :
    ((delimiter category i v).toOption.bind fun s => usableText (s.getD "")) = v.bind usable := by
  cases v with
  | none => rfl
  | some v =>
    unfold delimiter usable
    simp only [Option.bind_some]
    cases v.string? with
    | none => rfl
    | some s => rfl

/-- An escape that is given as a text, or not at all, is one that can be used; anything else spoils
    the rule. -/
theorem delimiter_usableEscape (category : Category) (i : Nat) (v : Option Value) :
    ((delimiter category i v).toOption.bind fun s => usableEscape (s.map .string))
      = usableEscape v := by
  cases v with
  | none => rfl
  | some v =>
    unfold delimiter
    cases v with
    | string s => rfl
    | _ => rfl

/-- A text is usable if it is not empty and can be compiled. -/
theorem usableText_eq_some_iff {s : String} {p : Pattern} :
    usableText s = some p ↔ ¬s.isEmpty ∧ Pattern.compile s = .ok p := by
  unfold usableText
  split
  · rename_i hempty
    simp [hempty]
  · rename_i hs
    refine ⟨fun h => ⟨hs, toOption_eq_some_iff.mp h⟩, fun h => ?_⟩
    rw [h.2]
    rfl

/-- Something is hidden by an escape that is usable. -/
theorem usableEscape_eq_some_some_iff {v : Option Value} {p : Pattern} :
    usableEscape v = some (some p) ↔ v.bind usable = some p := by
  cases v with
  | none => simp [usableEscape]
  | some v =>
    simp only [usableEscape, usable, Option.bind_some]
    cases v.string? with
    | none => simp
    | some s =>
      simp only [Option.bind_some, usableText]
      split
      · simp
      · simp

/-- The delimiters of a construct are what its ends and its escape give. -/
theorem usableBlock_eq_some_iff {b : BlockDeclaration} {d : Delimiters} :
    usableBlock b = some d ↔ b.opening.bind usable = some d.opening ∧
      b.closing.bind usable = some d.closing ∧ usableEscape b.escape = some d.escape := by
  constructor
  · intro h
    obtain ⟨opening, hopening, h⟩ := Option.bind_eq_some_iff.mp h
    obtain ⟨closing, hclosing, h⟩ := Option.bind_eq_some_iff.mp h
    obtain ⟨escape, hescape, rfl⟩ := Option.map_eq_some_iff.mp h
    exact ⟨hopening, hclosing, hescape⟩
  · rintro ⟨hopening, hclosing, hescape⟩
    rw [usableBlock, hopening, hclosing, hescape]
    rfl

/-- Leaving out the reasons for failure goes with doing one thing after the other. -/
theorem toOption_bind {ε α β : Type} (x : Except ε α) (f : α → Except ε β) :
    (x >>= f).toOption = x.toOption.bind fun a => (f a).toOption := by
  cases x with
  | error e => rfl
  | ok a => rfl

/-- The escape of a construct is compiled first, but what is refused counts the same. -/
theorem compile_toOption {opening closing : String} (hopening : ¬opening.isEmpty)
    (hclosing : ¬closing.isEmpty) (escape : Option String) (style : StyleId) :
    (BlockRule.compile opening closing escape style).toOption
      = (usableText opening).bind fun opening => (usableText closing).bind fun closing =>
          (usableEscape (escape.map .string)).map fun escape =>
            ⟨some ⟨opening, closing, escape⟩, style⟩ := by
  have hends : ¬(opening.isEmpty || closing.isEmpty) := by simp [hopening, hclosing]
  unfold BlockRule.compile usableText
  rw [if_neg hends, if_neg hopening, if_neg hclosing]
  cases escape with
  | none =>
    simp only [toOption_bind]
    rfl
  | some e =>
    simp only [toOption_bind, Option.map_some, usableEscape, Value.string?, Option.bind_some]
    by_cases he : e.isEmpty
    · simp only [he, if_true]
      rfl
    · simp only [he]
      cases Pattern.compile e with
      | ok p => rfl
      | error =>
        -- a refused escape counts, whatever the ends are
        cases (Pattern.compile opening).toOption with
        | none => rfl
        | some opening =>
          cases (Pattern.compile closing).toOption with
          | none => rfl
          | some closing => rfl

/-- A construct compiles just if its declaration is usable, and then with the delimiters that are
    declared. -/
theorem compileBlock_toOption (category : Category) (i : Nat) (d : BlockDeclaration) :
    (compileBlock category i d).toOption
      = (usableBlock d).map fun delimiters => ⟨some delimiters, .ofCategory category i⟩ := by
  unfold compileBlock usableBlock
  simp only [toOption_bind, ← delimiter_usable category i d.opening,
    ← delimiter_usable category i d.closing, ← delimiter_usableEscape category i d.escape]
  cases (delimiter category i d.opening).toOption with
  | none => rfl
  | some opening =>
    cases (delimiter category i d.closing).toOption with
    | none => simp
    | some closing =>
      cases (delimiter category i d.escape).toOption with
      | none => simp
      | some escape =>
        simp only [Option.bind_some]
        by_cases hends : (opening.getD "").isEmpty || (closing.getD "").isEmpty
        · -- an end is missing or empty, and so not usable
          rw [if_pos hends]
          rcases Bool.or_eq_true_iff.mp hends with hopening | hclosing
          · rw [show usableText (opening.getD "") = none from if_pos hopening]
            rfl
          · rw [show usableText (closing.getD "") = none from if_pos hclosing]
            simp [throw, throwThe, MonadExceptOf.throw, bind, Except.bind, Except.toOption]
        · obtain ⟨hopening, hclosing⟩ := not_or.mp (mt Bool.or_eq_true_iff.mpr hends)
          have hcompile := compile_toOption hopening hclosing escape (.ofCategory category i)
          simp only [Option.map_bind, Option.map_map, Function.comp_def]
          rw [if_neg hends, ← hcompile]
          cases BlockRule.compile (opening.getD "") (closing.getD "") escape
            (.ofCategory category i) with
          | error e => rfl
          | ok r => rfl

theorem getD_disabled (delimiters : Option Delimiters) (style : StyleId) :
    ((delimiters.map fun delimiters => (⟨some delimiters, style⟩ : BlockRule)).getD
      (.disabled style)) = ⟨delimiters, style⟩ := by
  cases delimiters with
  | none => rfl
  | some delimiters => rfl

/-- The rule for a declared construct, without the problems it is reported with. -/
theorem blockOf_fst (category : Category) (i : Nat) (d : BlockDeclaration) :
    (blockOf category i d).1 = ⟨usableBlock d, .ofCategory category i⟩ := by
  rw [← getD_disabled, ← compileBlock_toOption]
  unfold blockOf
  cases compileBlock category i d with
  | error problem => rfl
  | ok r => rfl

/-! ## The rules of a plain grammar

  The bottom of every line: rules that are disabled, except for numbers and quotations, whose
  default patterns compile. -/

/-- The default quotation is the one that its declaration gives. -/
theorem blockRuleOr_compile (style : StyleId) :
    Grammar.blockRuleOr style (BlockRule.compile Grammar.defaultQuote Grammar.defaultQuote
      (some Grammar.defaultEscape) style) = ⟨usableBlock defaultQuotation, style⟩ := by
  have hquote : ¬Grammar.defaultQuote.isEmpty := by decide
  have hcompile := compile_toOption hquote hquote (some Grammar.defaultEscape) style
  have hblock : (usableBlock defaultQuotation).map
        (fun delimiters => (⟨some delimiters, style⟩ : BlockRule))
      = (BlockRule.compile Grammar.defaultQuote Grammar.defaultQuote
          (some Grammar.defaultEscape) style).toOption := by
    rw [hcompile]
    unfold usableBlock
    simp only [Option.map_bind, Option.map_map, Function.comp_def]
    rfl
  rw [← getD_disabled, hblock]
  cases BlockRule.compile Grammar.defaultQuote Grammar.defaultQuote
    (some Grammar.defaultEscape) style with
  | error e => rfl
  | ok r => rfl

/-- The default patterns are not refused. -/
theorem usable_default :
    (usable (.string Grammar.defaultNumbers)).map (·.source) = some Grammar.defaultNumbers ∧
      (usableBlock defaultQuotation).map
        (fun d => (d.opening.source, d.closing.source, d.escape.map (·.source)))
        = some (Grammar.defaultQuote, Grammar.defaultQuote, some Grammar.defaultEscape) := by
  decide +kernel

/-! ## Numbered slots

  Lists of slots are changed by one declaration after the other.  What matters of one step is
  `Places`, and it is the same for rules and for constructs. -/

/-- A number selects a slot if there is such a slot and the declaration names it. -/
theorem slotOf_eq_ok_iff {category : Category} {capacity n : Nat} {slot : Option Value} :
    slotOf category capacity slot = .ok n ↔ n < capacity ∧ selects n slot := by
  unfold slotOf selects
  rcases slot with _ | v
  · simp
  · cases v with
    | integer m =>
      simp only
      by_cases hm : 0 ≤ m ∧ m < capacity
      · rw [if_pos hm]
        simp only [Except.ok.injEq, decide_eq_true_iff]
        omega
      · rw [if_neg hm]
        simp only [reduceCtorEq, decide_eq_true_iff, false_iff]
        omega
    | _ => simp

/-- A number is that of one slot only. -/
theorem selects_unique {i n : Nat} {slot : Option Value} (hn : selects n slot)
    (hi : selects i slot) : n = i := by
  rcases slot with _ | v
  · exact absurd hi (by simp [selects])
  · cases v with
    | integer m =>
      have hn' : m = n := by simpa [selects] using hn
      have hi' : m = i := by simpa [selects] using hi
      omega
    | _ => exact absurd hi (by simp [selects])

section Slots

variable {α δ : Type} {place : List α → δ → Checked (List α)} {slot : δ → Option Value}
  {make : Nat → δ → α}

/-- What placing a declaration does: the slot that it selects is made anew, the others stay. -/
def Places (place : List α → δ → Checked (List α)) (slot : δ → Option Value)
    (make : Nat → δ → α) : Prop :=
  ∀ slots d i, (place slots d).1[i]?
    = if selects i (slot d) then slots[i]?.map fun _ => make i d else slots[i]?

/-- **The last declaration that selects a slot decides it.** -/
theorem placeAll_getElem? (hplace : Places place slot make) (slots : List α) (ds : List δ)
    (i : Nat) :
    (placeAll place slots ds).1[i]? =
      match (ds.filter fun d => selects i (slot d)).getLast? with
      | some d => slots[i]?.map fun _ => make i d
      | none => slots[i]? := by
  induction ds generalizing slots with
  | nil => rfl
  | cons d ds ih =>
    show (placeAll place (place slots d).1 ds).1[i]? = _
    rw [ih, hplace]
    by_cases hd : selects i (slot d)
    · rw [if_pos hd, List.filter_cons, if_pos hd, List.getLast?_cons]
      cases (ds.filter fun d => selects i (slot d)).getLast? with
      | none => rfl
      | some d' =>
        -- a later declaration makes the slot anew
        simp [Option.map_map, Function.comp_def]
    · rw [if_neg hd, List.filter_cons, if_neg hd]

/-- Slots with a rule each, one of which is made anew. -/
theorem set_places {slots : List α} {n : Nat} {a : α} (i : Nat) (hn : n < slots.length) :
    (slots.set n a)[i]? = if n = i then slots[i]?.map fun _ => a else slots[i]? := by
  rw [List.getElem?_set]
  by_cases hi : n = i
  · subst hi
    rw [if_pos rfl, if_pos rfl, if_pos hn, List.getElem?_eq_getElem hn]
    rfl
  · rw [if_neg hi, if_neg hi]

/-- A declaration without a usable number leaves every slot as it was. -/
theorem places_of_slotOf (category : Category) (rule : Nat → δ → Checked α)
    (hplace : ∀ slots d, (place slots d).1 = match slotOf category slots.length (slot d) with
      | .ok n => slots.set n (rule n d).1
      | .error _ => slots)
    (hrule : ∀ i d, (rule i d).1 = make i d) : Places place slot make := by
  intro slots d i
  rw [hplace]
  cases hslot : slotOf category slots.length (slot d) with
  | ok n =>
    obtain ⟨hn, hselects⟩ := slotOf_eq_ok_iff.mp hslot
    simp only [hrule]
    rw [set_places i hn]
    by_cases hi : n = i
    · subst hi
      rw [if_pos rfl, if_pos hselects]
    · rw [if_neg hi, if_neg fun hi' => hi (selects_unique hselects hi')]
  | error problem =>
    -- a number that is refused is that of no slot there is
    by_cases hi : selects i (slot d)
    · have hlen : slots.length ≤ i := by
        refine Nat.le_of_not_lt fun hlt => ?_
        have hok : slotOf category slots.length (slot d) = .ok i := slotOf_eq_ok_iff.mpr ⟨hlt, hi⟩
        exact absurd (hslot.symm.trans hok) (by simp)
      rw [if_pos hi, List.getElem?_eq_none hlen]
      rfl
    · rw [if_neg hi]

end Slots

/-- A declared rule goes to the slot of its number, or to none. -/
theorem placeRule_places (category : Category) :
    Places (placeRule category) (·.slot) fun i d => ⟨usableRule d, .ofCategory category i⟩ := by
  refine places_of_slotOf category (ruleOf category) (fun slots d => ?_) (ruleOf_fst category)
  unfold placeRule
  cases slotOf category slots.length d.slot with
  | ok n => rfl
  | error problem => rfl

/-- So does a declared construct. -/
theorem placeBlock_places :
    Places placeBlock (·.slot) fun i d => ⟨usableBlock d.block, .blockExpression i⟩ := by
  refine places_of_slotOf .blockExpression (fun i d => blockOf .blockExpression i d.block)
    (fun slots d => ?_) fun i d => blockOf_fst .blockExpression i d.block
  unfold placeBlock
  cases slotOf .blockExpression slots.length d.slot with
  | ok n => rfl
  | error problem => rfl

/-! ## Layers

  One lemma for a field with one slot, one for the numbered slots, and then all fields together.
  The induction on the line goes from the root on, as the program lays the definitions. -/

/-- A field that is not declared stays as it is below. -/
theorem replace_fst {α δ : Type} {compile : δ → Checked α} {make : δ → α}
    (h : ∀ d, (compile d).1 = make d) (old : α) (d : Option δ) :
    (replace compile old d).1 = (d.map make).getD old := by
  cases d with
  | none => rfl
  | some d => exact h d

/-- The most derived definition that declares a slot decides it, and in it the last declaration. -/
theorem deciding_cons {δ : Type} (slot : δ → Option Value) (declared : Definition → List δ)
    (i : Nat) (d : Definition) (ds : List Definition) :
    deciding slot declared i (d :: ds)
      = (((declared d).filter fun r => selects i (slot r)).getLast?).or
          (deciding slot declared i ds) := by
  unfold deciding
  rw [List.findSome?_cons]
  cases ((declared d).filter fun r => selects i (slot r)).getLast? with
  | none => rfl
  | some r => rfl

/-- The declarations of one more definition decide the slots that they select. -/
theorem placeAll_merged {α β δ : Type} {place : List α → δ → Checked (List α)}
    {slot : δ → Option Value} (rule : Nat → Option β → α) (pattern : δ → Option β)
    (hplace : Places place slot fun i r => rule i (pattern r)) (declared : Definition → List δ)
    (n : Nat) (d : Definition) (ds : List Definition) :
    (placeAll place
      ((List.range n).map fun i => rule i ((deciding slot declared i ds).bind pattern))
      (declared d)).1
      = (List.range n).map fun i => rule i ((deciding slot declared i (d :: ds)).bind pattern) := by
  refine List.ext_getElem? fun i => ?_
  rw [placeAll_getElem? hplace, List.getElem?_map, List.getElem?_map]
  by_cases hi : i < n
  · rw [List.getElem?_range hi]
    simp only [Option.map_some, deciding_cons]
    cases ((declared d).filter fun r => selects i (slot r)).getLast? with
    | none => rfl
    | some r => rfl
  · rw [List.getElem?_eq_none (by rw [List.length_range]; omega)]
    cases ((declared d).filter fun r => selects i (slot r)).getLast? with
    | none => rfl
    | some r => rfl

theorem findSome?_cons_or {β : Type} (f : Definition → Option β) (d : Definition)
    (ds : List Definition) : (d :: ds).findSome? f = (f d).or (ds.findSome? f) := by
  rw [List.findSome?_cons]
  cases f d with
  | none => rfl
  | some b => rfl

/-- A declaration over what has been declared below, or the default. -/
theorem layer_getD {α β : Type} (f : α → β) (default : α) (d below : Option α) :
    (d.map f).getD (f (below.getD default)) = f ((d.or below).getD default) := by
  cases d with
  | none => rfl
  | some a => rfl

/-- A declaration over what has been declared below, if anything. -/
theorem layer_bind {α β γ : Type} (f : Option β → γ) (pattern : α → Option β) (d below : Option α) :
    (d.map fun a => f (pattern a)).getD (f (below.bind pattern))
      = f ((d.or below).bind pattern) := by
  cases d with
  | none => rfl
  | some a => rfl

/-- Where nothing is declared every slot is that of a plain grammar. -/
theorem merged_nil (limits : Limits) : merged limits [] = .plain "" limits := by
  unfold merged Grammar.plain Grammar.emptySlots deciding
  rw [ruleOr_compile, blockRuleOr_compile]
  simp only [List.findSome?_nil, Option.getD_none]
  rw [usable_string]
  rfl

/-- **One more layer**: what it declares it decides, and all else stays as below. -/
theorem applyTo_merged (limits : Limits) (d : Definition) (ds : List Definition) :
    (d.applyTo (d.declaredName?.getD "") (merged limits ds)).1 = merged limits (d :: ds) := by
  have hkeywords := placeAll_merged (fun i p => Rule.mk p (.keyword i)) usableRule
    (placeRule_places .keyword) (·.keywords) limits.keywords d ds
  have hexpressions := placeAll_merged (fun i p => Rule.mk p (.expression i)) usableRule
    (placeRule_places .expression) (·.expressions) limits.expressions d ds
  have hlineExpressions := placeAll_merged (fun i p => Rule.mk p (.lineExpression i)) usableRule
    (placeRule_places .lineExpression) (·.lineExpressions) limits.lineExpressions d ds
  have hblockExpressions := placeAll_merged (fun i p => BlockRule.mk p (.blockExpression i))
    (usableBlock ·.block) placeBlock_places (·.blockExpressions) limits.blockExpressions d ds
  -- the numbered slots are rewritten as lists; of the others each is a layer of its own
  unfold applyTo merged
  simp only [replace_fst (valueRule_fst _ _), replace_fst (blockOf_fst _ _), findSome?_cons_or,
    hkeywords, hexpressions, hlineExpressions, hblockExpressions]
  rw [Grammar.mk.injEq]
  refine ⟨rfl, rfl, rfl, ?_, ?_, ?_, ?_, ?_, rfl, rfl, rfl, rfl⟩
  · exact Option.getD_or.symm
  · exact layer_getD (fun v => Rule.mk (usable v) .number) _ d.numbers _
  · exact layer_getD (fun b => BlockRule.mk (usableBlock b) .quotation) _ d.quotation _
  · exact layer_bind (Rule.mk · .lineComment) usable d.lineComment _
  · exact layer_bind (BlockRule.mk · .blockComment) usableBlock d.blockComment _

/-- **Layers come to what `merged` says.** -/
theorem layered_eq_merged (limits : Limits) (line : List (String × Definition)) :
    GrammarLibrary.layered limits line = merged limits (line.map (·.2)) := by
  induction line with
  | nil => exact (merged_nil limits).symm
  | cons entry line ih =>
    obtain ⟨key, d⟩ := entry
    rw [GrammarLibrary.layered, ih]
    exact applyTo_merged limits d _

end Definition

end Highlight
