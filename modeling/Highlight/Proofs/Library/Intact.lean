/-
  What holds of every grammar, wherever it comes from.

  A rule is addressed by the number of its slot: when a document declares it, and when the scan of a
  line meets it.  Each rule carries its own style, which has to be that of its slot.

  1. **Rules** — a pattern of a grammar has been compiled from a text that is not empty, and a
     construct has both delimiters or neither; without them it has no escape (`BlockRule.Paired`).
     This is so however a declaration fails.

  2. **Grammars** — a grammar is `Intact` if there are as many slots as the configuration says, and
     the rule in each slot fits it.  A plain grammar is intact, and a declaration that is put into
     its slot, or into none, keeps it so (`Intact.settled`).

  3. **Where grammars come from** — `Arises` are the grammars that are kept or returned by a library
     after any calls, and those met while a document is laid over them.  All of them are intact, by
     induction on the layers.

  4. **Numbers** — so no number that selects a slot is out of range: neither that of a declaration,
     nor that of a construct which the scan meets.

  Main result: **`arises_intact`**.
-/
import Highlight.Proofs.Library.Declarations
import Highlight.Proofs.Scan.Turns

namespace Highlight

open Toml
open Definition
open Scan (Kind Starter Head firstHit)

/-! ## Rules -/

/-- A pattern that has been compiled from a text that is not empty. -/
def Pattern.Compiled (p : Pattern) : Prop :=
  ∃ source, source ≠ "" ∧ Pattern.compile source = .ok p

namespace BlockRule

/-- The pattern that closes the construct. -/
def closing (r : BlockRule) : Option Pattern := r.delimiters.map (·.closing)

/-- The pattern of the escapes. -/
def escape (r : BlockRule) : Option Pattern := r.delimiters.bind (·.escape)

/-- There are both delimiters and the rule is enabled, or there are none, and no escape either. -/
def Paired (r : BlockRule) : Prop :=
  (r.isEnabled = true ∧ ∃ opening closing, r.opening = some opening ∧ r.closing = some closing ∧
    opening.Compiled ∧ closing.Compiled ∧ ∀ escape, r.escape = some escape → escape.Compiled) ∨
  (r.isEnabled = false ∧ r.opening = none ∧ r.closing = none ∧ r.escape = none)

end BlockRule

section Declared

variable {p : Pattern}

/-- A usable text has been compiled, and is not empty. -/
theorem compiled_of_usableText {s : String} (h : usableText s = some p) : p.Compiled := by
  obtain ⟨hs, hcompile⟩ := usableText_eq_some_iff.mp h
  exact ⟨s, fun hempty => hs (by rw [hempty]; rfl), hcompile⟩

theorem compiled_of_usable {v : Option Value} (h : v.bind usable = some p) : p.Compiled := by
  obtain ⟨v, -, hv⟩ := Option.bind_eq_some_iff.mp h
  obtain ⟨s, -, hs⟩ := Option.bind_eq_some_iff.mp hv
  exact compiled_of_usableText hs

/-- So has the pattern of a usable rule, whichever field it was given in. -/
theorem compiled_of_usableRule {d : RuleDeclaration} (h : usableRule d = some p) :
    p.Compiled := by
  unfold usableRule at h
  split at h
  · rename_i v _
    have hv : (some v).bind usable = some p := h
    exact compiled_of_usable hv
  · obtain ⟨words, -, hwords⟩ := Option.bind_eq_some_iff.mp h
    exact compiled_of_usableText hwords

/-- A disabled construct has neither delimiter and no escape. -/
theorem BlockRule.disabled_paired (style : StyleId) : (disabled style).Paired :=
  .inr ⟨rfl, rfl, rfl, rfl⟩

/-- **Delimiters come in pairs**: if either is not usable, or the escape is not, the rule has none
    of the three. -/
theorem paired_usableBlock (d : BlockDeclaration) (style : StyleId) :
    (BlockRule.mk (usableBlock d) style).Paired := by
  cases h : usableBlock d with
  | none => exact BlockRule.disabled_paired style
  | some delimiters =>
    obtain ⟨hopening, hclosing, hescape⟩ := usableBlock_eq_some_iff.mp h
    refine .inl ⟨rfl, delimiters.opening, delimiters.closing, rfl, rfl,
      compiled_of_usable hopening, compiled_of_usable hclosing, fun escape hsome => ?_⟩
    have hsome : delimiters.escape = some escape := hsome
    rw [hsome] at hescape
    exact compiled_of_usable (usableEscape_eq_some_some_iff.mp hescape)

end Declared

/-! ## Slots -/

/-- The rule in a slot has the style of the slot, and has been compiled if it is enabled. -/
def Slot.Fits (id : StyleId) : Slot → Prop
  | rule r => r.style = id ∧ ∀ p, r.pattern = some p → p.Compiled
  | block r => r.style = id ∧ r.Paired

theorem Rule.disabled_fits (id : StyleId) : (Slot.rule (.disabled id)).Fits id :=
  ⟨rfl, fun _ h => (nomatch h)⟩

theorem BlockRule.disabled_fits (id : StyleId) : (Slot.block (.disabled id)).Fits id :=
  ⟨rfl, disabled_paired id⟩

/-- A rule made from a text fits its slot, whether the text is usable or not. -/
theorem usableText_fits (s : String) (id : StyleId) : (Slot.rule ⟨usableText s, id⟩).Fits id :=
  ⟨rfl, fun _ => compiled_of_usableText⟩

/-- So does a construct made from a declaration. -/
theorem usableBlock_fits (d : BlockDeclaration) (id : StyleId) :
    (Slot.block ⟨usableBlock d, id⟩).Fits id :=
  ⟨rfl, paired_usableBlock d id⟩

/-- Whatever a declaration contains, it fits the slot to which it goes. -/
theorem SlotDeclaration.made_fits (id : StyleId) (x : SlotDeclaration) : (x.made id).Fits id := by
  cases x with
  | rule kind d => exact ⟨rfl, fun p => compiled_of_usableRule⟩
  | block kind d => exact usableBlock_fits d.block id

/-! ## Grammars -/

/-- There are as many slots as the configuration says, and each holds a rule that fits it. -/
structure Grammar.Intact (limits : Limits) (g : Grammar) : Prop where
  keywords : g.keywords.length = limits.keywords
  expressions : g.expressions.length = limits.expressions
  lineExpressions : g.lineExpressions.length = limits.lineExpressions
  blockExpressions : g.blockExpressions.length = limits.blockExpressions
  fits : ∀ id slot, g.slot? id = some slot → slot.Fits id

namespace Grammar

variable {limits : Limits} {g : Grammar}

theorem Intact.sized (h : g.Intact limits) : g.Sized limits := by
  intro x
  cases x with
  | rule kind d =>
    cases kind with
    | number | lineComment => rfl
    | keyword => exact h.keywords
    | expression => exact h.expressions
    | lineExpression => exact h.lineExpressions
  | block kind d =>
    cases kind with
    | quotation | blockComment => rfl
    | blockExpression => exact h.blockExpressions

/-- A grammar of the right size is intact if what stands in its slots fits them. -/
theorem Sized.intact (h : g.Sized limits)
    (hfits : ∀ id slot, g.slot? id = some slot → slot.Fits id) : g.Intact limits :=
  ⟨h (.rule .keyword {}), h (.rule .expression {}), h (.rule .lineExpression {}),
    h (.block .blockExpression {}), hfits⟩

/-- A slot of a list of disabled rules holds the one of its number. -/
theorem fits_of_range {α : Type} {disabled : Nat → α} {make : α → Slot} {id : StyleId} {n i : Nat}
    {slot : Slot} (hfits : (make (disabled i)).Fits id)
    (h : ((List.range n).map disabled)[i]?.map make = some slot) : slot.Fits id := by
  obtain ⟨r, hr, rfl⟩ := Option.map_eq_some_iff.mp h
  rw [List.getElem?_map] at hr
  obtain ⟨j, hj, rfl⟩ := Option.map_eq_some_iff.mp hr
  obtain ⟨hi, hj⟩ := List.getElem?_eq_some_iff.mp hj
  rw [List.getElem_range] at hj
  obtain rfl := hj
  exact hfits

/-- **The grammar that a definition starts from is intact.** -/
theorem plain_intact (name : String) (limits : Limits) : (plain name limits).Intact limits := by
  refine ((sized_layerwise limits).plain name).intact fun id slot hslot => ?_
  cases id with
  | plain | escape => exact absurd hslot (by simp [slot?])
  | number =>
    obtain rfl := Option.some.inj hslot
    rw [plain, ruleOr_compile]
    exact usableText_fits defaultNumbers .number
  | quotation =>
    obtain rfl := Option.some.inj hslot
    rw [plain, blockRuleOr_compile]
    exact usableBlock_fits defaultQuotation .quotation
  | lineComment =>
    obtain rfl := Option.some.inj hslot
    exact Rule.disabled_fits .lineComment
  | blockComment =>
    obtain rfl := Option.some.inj hslot
    exact BlockRule.disabled_fits .blockComment
  | keyword i => exact fits_of_range (Rule.disabled_fits (.keyword i)) hslot
  | expression i => exact fits_of_range (Rule.disabled_fits (.expression i)) hslot
  | lineExpression i => exact fits_of_range (Rule.disabled_fits (.lineExpression i)) hslot
  | blockExpression i => exact fits_of_range (BlockRule.disabled_fits (.blockExpression i)) hslot

/-- **A declaration keeps a grammar intact**, whatever it contains. -/
theorem Intact.settled (h : g.Intact limits) (x : SlotDeclaration) :
    (settle g x).1.Intact limits := by
  refine (settle_sized h.sized x).intact fun id slot hslot => ?_
  rw [slot?_settle h.sized] at hslot
  split at hslot
  · obtain rfl := Option.some.inj hslot
    exact x.made_fits id
  · exact h.fits id slot hslot

/-- Any number of declarations keep a grammar intact. -/
theorem Intact.settledAll (h : g.Intact limits) (xs : List SlotDeclaration) :
    (placeAll settle g xs).1.Intact limits := by
  induction xs generalizing g with
  | nil => exact h
  | cons x xs ih => exact ih (h.settled x)

/-- So does a definition. -/
theorem Intact.applyTo (h : g.Intact limits) (d : Definition) (name : String) :
    (d.applyTo name g).1.Intact limits := by
  have hsettled := h.settledAll d.declarations
  rw [applyTo_eq_placeAll]
  refine ⟨hsettled.keywords, hsettled.expressions, hsettled.lineExpressions,
    hsettled.blockExpressions, fun id slot hslot => hsettled.fits id slot ?_⟩
  -- the name, the parent, the style and the extensions are no slots
  rw [← hslot]
  cases id <;> rfl

/-- Intactness is built up layer by layer. -/
theorem intact_layerwise (limits : Limits) :
    GrammarLibrary.Layerwise limits (Intact limits) :=
  ⟨fun name => plain_intact name limits, fun d name _ h => h.applyTo d name⟩

/-! ## Where grammars come from -/

/-- The grammars that libraries of a configuration start from, keep and return after any calls, and
    those on the way from one to another, while the declarations of a document are applied. -/
inductive Arises (config : Config) : Grammar → Prop
  | plain (name : String) : Arises config (.plain name config.limits)
  | settled {g : Grammar} (h : Arises config g) (x : SlotDeclaration) :
      Arises config (settle g x).1
  | kept {files : FileSystem} {sources : Dict String (Source Definition)}
      {calls : List GrammarLibrary.Call} {key : String} {g : Grammar}
      (h : (GrammarLibrary.run { config, files, sources } calls).loaded.find? key = some g) :
      Arises config g
  | loaded {files : FileSystem} {sources : Dict String (Source Definition)}
      {calls : List GrammarLibrary.Call} {request : GrammarLibrary.Request} {g : Grammar}
      (h : (request.load (GrammarLibrary.run { config, files, sources } calls)).1 = .ok g) :
      Arises config g

/-- **Every grammar is intact.** -/
theorem Arises.intact {config : Config} (h : g.Arises config) : g.Intact config.limits := by
  have hlayers := intact_layerwise config.limits
  induction h with
  | plain name => exact plain_intact name config.limits
  | settled _ x ih => exact ih.settled x
  | kept h =>
    exact (GrammarLibrary.run_holds hlayers (GrammarLibrary.holds_of_empty rfl rfl) _).kept _ _ h
  | loaded h => exact GrammarLibrary.grammar_of_run hlayers rfl _ h

/-! ## Numbers -/

/-- An intact grammar has as many slots of a kind as the configuration says. -/
theorem Intact.count_eq (h : g.Intact limits) (kind : Kind) :
    g.count kind.slot.category = limits.capacity kind.slot.category := by
  cases kind with
  | blockExpression i => exact h.blockExpressions
  | lineExpression i => exact h.lineExpressions
  | quotation | lineComment | blockComment => rfl

/-- The slot that the number of a declaration selects is there. -/
theorem slot?_of_slotOf {c : Category} {number : Option Value} {i : Nat}
    (h : slotOf c (g.count c) number = .ok i) : ∃ slot, g.slot? (.ofCategory c i) = some slot := by
  have hi := (slotOf_eq_ok_iff.mp h).1
  have hindex : (StyleId.ofCategory c i).index ≤ i := by
    cases c <;> simp [StyleId.ofCategory, StyleId.index]
  refine Option.isSome_iff_exists.mp ((g.isSome_slot?_iff _).mpr ?_)
  rw [StyleId.category_ofCategory]
  omega

end Grammar

/-- **A construct that the scan meets is in a slot, and enabled.** -/
theorem Scan.Head.slot?_of_hit {g : Grammar} {text : Text} {entry : LineState}
    {pos start stop : Nat} {ss : List Starter} {kind : Kind} (h : Head g text entry pos ss)
    (hhit : (firstHit text pos ss).1 = some (kind, start, stop)) :
    ∃ slot, g.slot? kind.slot = some slot ∧ slot.isEnabled = true := by
  have hlooked := (Scan.firstHit_looked h.remembers.sound).hit
  rw [hhit, h.remembers.keys, Scan.hitOf_keysOf] at hlooked
  obtain ⟨⟨kind', stop'⟩, hbegin, heq⟩ := Option.map_eq_some_iff.mp hlooked.symm
  obtain rfl : kind' = kind := congrArg Prod.fst heq
  obtain ⟨p, hp, -⟩ := Plain.matchAt_eq_some (Plain.matchAt_of_beginning hbegin)
  rw [Plain.patternOf_eq] at hp
  obtain ⟨slot, hslot, hstarts⟩ := Option.bind_eq_some_iff.mp hp
  exact ⟨slot, hslot, Option.isSome_iff_exists.mpr ⟨p, hstarts⟩⟩

/-- **Grammars keep their shape.**  Every grammar that a library keeps or returns, or that comes
    about on the way, has the slots of the configuration, and in each slot a rule that fits it.  A
    number by which a declaration selects a slot is that of a slot; and so is the number of a
    construct that the scan meets, in any line. -/
theorem arises_intact {config : Config} {g : Grammar} (h : g.Arises config) :
    g.Intact config.limits ∧
    (∀ (x : SlotDeclaration) (i : Nat), slotOf x.category (g.count x.category) x.number = .ok i →
      i < config.limits.capacity x.category ∧
        ∃ slot, g.slot? (.ofCategory x.category i) = some slot) ∧
    ∀ (text : Text) (entry : LineState) (pos : Nat) (ss : List Starter) (kind : Kind)
      (start stop : Nat), Head g text entry pos ss →
        (firstHit text pos ss).1 = some (kind, start, stop) →
          kind.slot.index < config.limits.capacity kind.slot.category ∧
            ∃ slot, g.slot? kind.slot = some slot ∧ slot.isEnabled = true := by
  have hintact := h.intact
  refine ⟨hintact, fun x i hslot => ⟨?_, Grammar.slot?_of_slotOf hslot⟩, ?_⟩
  · rw [← hintact.sized x]
    exact (slotOf_eq_ok_iff.mp hslot).1
  · intro text entry pos ss kind start stop hhead hhit
    obtain ⟨slot, hslot, henabled⟩ := hhead.slot?_of_hit hhit
    refine ⟨?_, slot, hslot, henabled⟩
    rw [← hintact.count_eq kind]
    exact (g.isSome_slot?_iff kind.slot).mp (by rw [hslot]; rfl)

/-- A child disables inherited comments by leaving out an end, and an inherited keyword by a rule
    without a pattern. -/
theorem arises_intact_disabling :
    let config : Config := { limits := { keywords := 2 } }
    let base := "name='base'\n[blockcomment]\nstart='<'\nend='>'\n" ++
      "[[keywords]]\ntype=1\npattern='if'"
    let library := GrammarLibrary.run { config, files := {}, sources := [] }
      [.register "base" base, .loadNamed "base"]
    let child : GrammarLibrary.Request :=
      .text "name='c'\nuse='base'\nblockcomment.start='<'\n[[keywords]]\ntype=1"
    (library.loaded.find? "base").map (·.blockComment.isEnabled) = some true ∧
    ∃ g, ((child.load library).1 = .ok g ∧ g.Arises config) ∧
      g.blockComment = .disabled .blockComment ∧
      g.keywords = [.disabled (.keyword 0), .disabled (.keyword 1)] ∧ g.Intact config.limits := by
  intro config base library child
  have hloaded : (child.load library).1.toOption.map (fun g => (g.blockComment, g.keywords))
      = some (.disabled .blockComment, [.disabled (.keyword 0), .disabled (.keyword 1)]) := by
    decide +kernel
  obtain ⟨g, hg, hrules⟩ := Option.map_eq_some_iff.mp hloaded
  obtain ⟨hcomment, hkeywords⟩ := Prod.mk.inj hrules
  have hload := toOption_eq_some_iff.mp hg
  have harises : g.Arises config := .loaded hload
  exact ⟨by decide +kernel, g, ⟨hload, harises⟩, hcomment, hkeywords, (arises_intact harises).1⟩

end Highlight
