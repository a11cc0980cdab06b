/-
  A document as a sequence of declarations.

  A definition has its rules in fields of different kinds; laying it over a grammar treats one field
  after the other.  Here the rules stand in one list, in the order in which they count, each with
  the category that it belongs to.

  1. **Declarations** — `Definition.declarations` is that list.  A category without numbers has one
     slot, and what is declared for it goes there.

  2. **Settling** — `settle` applies one declaration to a grammar.  Laying a definition over a
     grammar comes to settling its declarations one after the other
     (`Definition.applyTo_eq_placeAll`).

  3. **Slots** — the crux: a slot is what the last declaration that goes there has made of it
     (`slotAfter`), whatever the others contain (`slot?_placeAll_settle`).  This holds of a line of
     definitions too, with all their declarations in one row (`slot?_placeAll_layer`).

  A grammar has four fields of one slot and four lists of slots, and a definition declares each of
  them in a field of its own.  `Field` is a field of a grammar with its reading and writing, so that
  settling the declarations of one field is one lemma for all of them (`placeAll_settle_map`); the
  rules and the constructs are told apart by their kinds only (`slot?_setRule`,
  `slot?_setBlockRule`).
-/
import Highlight.Proofs.Library.Layerwise
import Highlight.Proofs.Library.Reading
import Highlight.Proofs.Slots

namespace Highlight

open Toml
open Definition

/-! ## Declarations

  Fields with one slot and numbered fields are brought into one form: a category, a number, and what
  is declared for the slot. -/

/-- The categories of rules with one pattern. -/
inductive RuleKind where
  | number
  | lineComment
  | keyword
  | expression
  | lineExpression
  deriving DecidableEq, Repr

/-- The categories of constructs. -/
inductive BlockKind where
  | quotation
  | blockComment
  | blockExpression
  deriving DecidableEq, Repr

def RuleKind.category : RuleKind → Category
  | number => .number
  | lineComment => .lineComment
  | keyword => .keyword
  | expression => .expression
  | lineExpression => .lineExpression

def BlockKind.category : BlockKind → Category
  | quotation => .quotation
  | blockComment => .blockComment
  | blockExpression => .blockExpression

/-- What a document declares for a slot. -/
inductive SlotDeclaration where
  | rule (kind : RuleKind) (d : RuleDeclaration)
  | block (kind : BlockKind) (d : NumberedBlock)

namespace SlotDeclaration

def category : SlotDeclaration → Category
  | rule kind _ => kind.category
  | block kind _ => kind.category

/-- The number that is declared. -/
def number : SlotDeclaration → Option Value
  | rule _ d => d.slot
  | block _ d => d.slot

/-- The declaration of a rule without a number: it goes to the only slot of its category. -/
def unnumbered (kind : RuleKind) (v : Value) : SlotDeclaration :=
  .rule kind { slot := some (.integer 0), pattern := some v }

/-- The declaration of a construct without a number. -/
def unnumberedBlock (kind : BlockKind) (b : BlockDeclaration) : SlotDeclaration :=
  .block kind { slot := some (.integer 0), block := b }

/-- The slot that a declaration goes to: the one with its number, if there is one. -/
def target (limits : Limits) (x : SlotDeclaration) : Option StyleId :=
  match x.number with
  | some (.integer n) =>
    if 0 ≤ n ∧ n < limits.capacity x.category then some (.ofCategory x.category n.toNat) else none
  | _ => none

/-- What a declaration makes of its slot. -/
def made (id : StyleId) : SlotDeclaration → Slot
  | rule _ d => .rule ⟨usableRule d, id⟩
  | block _ d => .block ⟨usableBlock d.block, id⟩

/-- The declaration that decides a slot: the last one that goes there. -/
def decides? (limits : Limits) (id : StyleId) (xs : List SlotDeclaration) :
    Option SlotDeclaration :=
  (xs.filter fun x => x.target limits = some id).getLast?

/-- What stands in a slot after some declarations; `below` stood there before. -/
def slotAfter (limits : Limits) (id : StyleId) (below : Option Slot) (xs : List SlotDeclaration) :
    Option Slot :=
  ((decides? limits id xs).map (made id)).or below

end SlotDeclaration

open SlotDeclaration

/-- The declarations of a document, in the order in which they are applied. -/
def Definition.declarations (d : Definition) : List SlotDeclaration :=
  d.numbers.toList.map (unnumbered .number) ++
    d.quotation.toList.map (unnumberedBlock .quotation) ++
    d.lineComment.toList.map (unnumbered .lineComment) ++
    d.blockComment.toList.map (unnumberedBlock .blockComment) ++
    d.keywords.map (.rule .keyword) ++
    d.expressions.map (.rule .expression) ++
    d.lineExpressions.map (.rule .lineExpression) ++
    d.blockExpressions.map (.block .blockExpression)

/-! ## Settling

  The fields are applied one by one, each with a function of its own.  That this is the same as one
  walk along all declarations is shown field by field with the one lemma about a `Field`. -/

namespace Grammar

/-- Put a rule into a slot. -/
def setRule (g : Grammar) (i : Nat) (r : Rule) : RuleKind → Grammar
  | .number => { g with numbers := r }
  | .lineComment => { g with lineComment := r }
  | .keyword => { g with keywords := g.keywords.set i r }
  | .expression => { g with expressions := g.expressions.set i r }
  | .lineExpression => { g with lineExpressions := g.lineExpressions.set i r }

/-- Put a construct into a slot. -/
def setBlockRule (g : Grammar) (i : Nat) (r : BlockRule) : BlockKind → Grammar
  | .quotation => { g with quotation := r }
  | .blockComment => { g with blockComment := r }
  | .blockExpression => { g with blockExpressions := g.blockExpressions.set i r }

/-- A field of a grammar: how it is read, and how it is changed. -/
structure Field (α : Type) where
  get : Grammar → α
  put : Grammar → α → Grammar
  put_get : ∀ g, put g (get g) = g

namespace Field

def numbers : Field Rule := ⟨Grammar.numbers, fun g r => { g with numbers := r }, fun _ => rfl⟩

def quotation : Field BlockRule :=
  ⟨Grammar.quotation, fun g r => { g with quotation := r }, fun _ => rfl⟩

def lineComment : Field Rule :=
  ⟨Grammar.lineComment, fun g r => { g with lineComment := r }, fun _ => rfl⟩

def blockComment : Field BlockRule :=
  ⟨Grammar.blockComment, fun g r => { g with blockComment := r }, fun _ => rfl⟩

def keywords : Field (List Rule) :=
  ⟨Grammar.keywords, fun g rs => { g with keywords := rs }, fun _ => rfl⟩

def expressions : Field (List Rule) :=
  ⟨Grammar.expressions, fun g rs => { g with expressions := rs }, fun _ => rfl⟩

def lineExpressions : Field (List Rule) :=
  ⟨Grammar.lineExpressions, fun g rs => { g with lineExpressions := rs }, fun _ => rfl⟩

def blockExpressions : Field (List BlockRule) :=
  ⟨Grammar.blockExpressions, fun g rs => { g with blockExpressions := rs }, fun _ => rfl⟩

end Field

end Grammar

/-- Put what a declaration consists of into a slot of its category. -/
def putAt (g : Grammar) (i : Nat) : SlotDeclaration → Checked Grammar
  | .rule kind d =>
    (g.setRule i (ruleOf kind.category i d).1 kind, (ruleOf kind.category i d).2)
  | .block kind d =>
    (g.setBlockRule i (blockOf kind.category i d.block).1 kind,
      (blockOf kind.category i d.block).2)

/-- Apply one declaration. -/
def settle (g : Grammar) (x : SlotDeclaration) : Checked Grammar :=
  match slotOf x.category (g.count x.category) x.number with
  | .ok i => putAt g i x
  | .error problem => (g, [problem])

namespace Grammar.Field

variable {α δ : Type} (field : Field α) (declare : δ → SlotDeclaration)

/-- Declarations that all go to one field are applied to this field. -/
theorem placeAll_settle_map (place : α → δ → Checked α)
    (hsettle : ∀ g a d,
      settle (field.put g a) (declare d) = (field.put g (place a d).1, (place a d).2))
    (g : Grammar) (ds : List δ) :
    placeAll settle g (ds.map declare)
      = (field.put g (placeAll place (field.get g) ds).1, (placeAll place (field.get g) ds).2) := by
  have hput : ∀ a, placeAll settle (field.put g a) (ds.map declare)
      = (field.put g (placeAll place a ds).1, (placeAll place a ds).2) := by
    induction ds with
    | nil => exact fun a => rfl
    | cons d ds ih =>
      intro a
      simp only [List.map_cons, placeAll, hsettle, ih]
  have hget := hput (field.get g)
  rw [field.put_get] at hget
  exact hget

/-- So is one that may be missing. -/
theorem placeAll_settle_toList (compile : δ → Checked α)
    (hsettle : ∀ g a d,
      settle (field.put g a) (declare d) = (field.put g (compile d).1, (compile d).2))
    (g : Grammar) (d : Option δ) :
    placeAll settle g (d.toList.map declare)
      = (field.put g (replace compile (field.get g) d).1,
          (replace compile (field.get g) d).2) := by
  cases d with
  | none =>
    rw [replace, field.put_get]
    rfl
  | some d =>
    have hget := hsettle g (field.get g) d
    rw [field.put_get] at hget
    simp only [Option.toList_some, List.map_cons, List.map_nil, placeAll, hget, replace,
      List.append_nil]

/-- A numbered rule is put into the list of its category. -/
theorem settle_rule (field : Field (List Rule)) (kind : RuleKind)
    (hcount : ∀ g slots, (field.put g slots).count kind.category = slots.length)
    (hset : ∀ g slots i r, (field.put g slots).setRule i r kind = field.put g (slots.set i r))
    (g : Grammar) (slots : List Rule) (d : RuleDeclaration) :
    settle (field.put g slots) (.rule kind d)
      = (field.put g (placeRule kind.category slots d).1,
          (placeRule kind.category slots d).2) := by
  unfold settle placeRule
  simp only [SlotDeclaration.category, number, hcount, putAt, hset]
  cases slotOf kind.category slots.length d.slot with
  | ok i => rfl
  | error problem => rfl

/-- A numbered construct is put into the list of block expressions. -/
theorem settle_block (g : Grammar) (slots : List BlockRule) (d : NumberedBlock) :
    settle (blockExpressions.put g slots) (.block .blockExpression d)
      = (blockExpressions.put g (placeBlock slots d).1, (placeBlock slots d).2) := by
  unfold settle placeBlock
  simp only [SlotDeclaration.category, number, BlockKind.category, Grammar.count, blockExpressions]
  cases slotOf .blockExpression slots.length d.slot with
  | ok i => rfl
  | error problem => rfl

end Grammar.Field

open Grammar (Field) in
/-- **A definition is laid over a grammar declaration by declaration.** -/
theorem Definition.applyTo_eq_placeAll (d : Definition) (name : String) (base : Grammar) :
    d.applyTo name base
      = ({ (placeAll settle base d.declarations).1 with
            name := name
            parent := d.parent
            style := d.style.or base.style
            extensions := d.extensions.getD base.extensions },
          (placeAll settle base d.declarations).2) := by
  have hnumbers := Field.numbers.placeAll_settle_toList (unnumbered .number) (valueRule .number 0)
    fun _ _ _ => rfl
  have hquotation := Field.quotation.placeAll_settle_toList (unnumberedBlock .quotation)
    (blockOf .quotation 0) fun _ _ _ => rfl
  have hlineComment := Field.lineComment.placeAll_settle_toList (unnumbered .lineComment)
    (valueRule .lineComment 0) fun _ _ _ => rfl
  have hblockComment := Field.blockComment.placeAll_settle_toList (unnumberedBlock .blockComment)
    (blockOf .blockComment 0) fun _ _ _ => rfl
  have hkeywords := Field.keywords.placeAll_settle_map (.rule .keyword) (placeRule .keyword)
    (Field.keywords.settle_rule .keyword (fun _ _ => rfl) fun _ _ _ _ => rfl)
  have hexpressions := Field.expressions.placeAll_settle_map (.rule .expression)
    (placeRule .expression)
    (Field.expressions.settle_rule .expression (fun _ _ => rfl) fun _ _ _ _ => rfl)
  have hlineExpressions := Field.lineExpressions.placeAll_settle_map (.rule .lineExpression)
    (placeRule .lineExpression)
    (Field.lineExpressions.settle_rule .lineExpression (fun _ _ => rfl) fun _ _ _ _ => rfl)
  have hblockExpressions := Field.blockExpressions.placeAll_settle_map (.block .blockExpression)
    placeBlock Field.settle_block
  unfold declarations applyTo
  simp only [placeAll_append, hnumbers, hquotation, hlineComment, hblockComment, hkeywords,
    hexpressions, hlineExpressions, hblockExpressions]
  rfl

/-! ## Slots

  Reading a slot after some declarations.  Everything rests on the fact that one declaration changes
  one slot; the rest is about lists. -/

namespace Grammar

/-- There are as many slots as the configuration says. -/
def Sized (limits : Limits) (g : Grammar) : Prop :=
  ∀ x : SlotDeclaration, g.count x.category = limits.capacity x.category

variable {g : Grammar} {i : Nat}

@[simp] theorem count_setRule (g : Grammar) (i : Nat) (r : Rule) (kind : RuleKind) (c : Category) :
    (g.setRule i r kind).count c = g.count c := by
  cases kind <;> cases c <;> simp [setRule, count]

@[simp] theorem count_setBlockRule (g : Grammar) (i : Nat) (r : BlockRule) (kind : BlockKind)
    (c : Category) : (g.setBlockRule i r kind).count c = g.count c := by
  cases kind <;> cases c <;> simp [setBlockRule, count]

/-- A slot of a list after one of its slots has been set. -/
theorem getElem?_set_map {α β : Type} (make : α → β) {slots : List α} (hi : i < slots.length)
    (a : α) (j : Nat) :
    (slots.set i a)[j]?.map make = if i = j then some (make a) else slots[j]?.map make := by
  rw [List.getElem?_set]
  by_cases hij : i = j
  · rw [if_pos hij, if_pos hij, if_pos hi]
    rfl
  · rw [if_neg hij, if_neg hij]

/-- A slot that is written is read back, and all others stay. -/
theorem slot?_setRule (r : Rule) {kind : RuleKind} (hi : i < g.count kind.category)
    (id : StyleId) : (g.setRule i r kind).slot? id
      = if .ofCategory kind.category i = id then some (.rule r) else g.slot? id := by
  cases kind with
  | number | lineComment =>
    cases id <;> simp [setRule, slot?, RuleKind.category, StyleId.ofCategory]
  | keyword | expression | lineExpression =>
    cases id <;>
      simp [setRule, slot?, RuleKind.category, StyleId.ofCategory, getElem?_set_map _ hi]

/-- So it is with the slot of a construct. -/
theorem slot?_setBlockRule (r : BlockRule) {kind : BlockKind} (hi : i < g.count kind.category)
    (id : StyleId) : (g.setBlockRule i r kind).slot? id
      = if .ofCategory kind.category i = id then some (.block r) else g.slot? id := by
  cases kind with
  | quotation | blockComment =>
    cases id <;> simp [setBlockRule, slot?, BlockKind.category, StyleId.ofCategory]
  | blockExpression =>
    cases id <;>
      simp [setBlockRule, slot?, BlockKind.category, StyleId.ofCategory, getElem?_set_map _ hi]

end Grammar

namespace SlotDeclaration

variable {limits : Limits} {id : StyleId} {x : SlotDeclaration}
  {before after : List SlotDeclaration}

/-- A declaration goes to the slot that its number selects, if there is one. -/
theorem target_eq (limits : Limits) (x : SlotDeclaration) :
    x.target limits = (slotOf x.category (limits.capacity x.category) x.number).toOption.map
      (.ofCategory x.category) := by
  unfold target
  rcases x.number with _ | v
  · rfl
  · cases v with
    | integer n =>
      by_cases hn : 0 ≤ n ∧ n < limits.capacity x.category
      · simp only [slotOf, if_pos hn]
        rfl
      · simp only [slotOf, if_neg hn]
        rfl
    | _ => rfl

/-- Of one more declaration it matters only whether it goes to the slot. -/
theorem slotAfter_cons (limits : Limits) (id : StyleId) (below : Option Slot) (x : SlotDeclaration)
    (xs : List SlotDeclaration) : slotAfter limits id below (x :: xs)
      = slotAfter limits id (if x.target limits = some id then some (x.made id) else below) xs := by
  unfold slotAfter decides?
  by_cases hx : x.target limits = some id
  · rw [if_pos hx, List.filter_cons_of_pos (by simpa using hx), List.getLast?_cons]
    cases (xs.filter fun x => x.target limits = some id).getLast? with
    | none => rfl
    | some y => rfl
  · rw [if_neg hx, List.filter_cons_of_neg (by simpa using hx)]

/-- What some declarations make of a slot is what the later ones make of the result of the earlier
    ones. -/
theorem slotAfter_append (limits : Limits) (id : StyleId) (below : Option Slot)
    (xs ys : List SlotDeclaration) : slotAfter limits id below (xs ++ ys)
      = slotAfter limits id (slotAfter limits id below xs) ys := by
  induction xs generalizing below with
  | nil => rfl
  | cons x xs ih => rw [List.cons_append, slotAfter_cons, ih, ← slotAfter_cons]

/-- A declaration does not count for the slots that it does not go to. -/
theorem slotAfter_erase (hx : x.target limits ≠ some id) (below : Option Slot) :
    slotAfter limits id below (before ++ x :: after)
      = slotAfter limits id below (before ++ after) := by
  rw [slotAfter_append, slotAfter_cons, if_neg hx, ← slotAfter_append]

/-- The last declaration that goes to a slot decides it. -/
theorem slotAfter_last (hx : x.target limits = some id)
    (hafter : ∀ y ∈ after, y.target limits ≠ some id) (below : Option Slot) :
    slotAfter limits id below (before ++ x :: after) = some (x.made id) := by
  have hnone : after.filter (fun y => y.target limits = some id) = [] :=
    List.filter_eq_nil_iff.mpr fun y hy => by simpa using hafter y hy
  rw [slotAfter_append, slotAfter_cons, if_pos hx]
  unfold slotAfter decides?
  rw [hnone]
  rfl

end SlotDeclaration

variable {limits : Limits} {g : Grammar}

theorem count_putAt (g : Grammar) (i : Nat) (x : SlotDeclaration) (c : Category) :
    (putAt g i x).1.count c = g.count c := by
  cases x with
  | rule kind d => exact Grammar.count_setRule ..
  | block kind d => exact Grammar.count_setBlockRule ..

/-- Putting a declaration into its slot changes this slot only. -/
theorem slot?_putAt {i : Nat} {x : SlotDeclaration} (hi : i < g.count x.category) (id : StyleId) :
    (putAt g i x).1.slot? id
      = if .ofCategory x.category i = id then some (x.made id) else g.slot? id := by
  cases x with
  | rule kind d =>
    rw [putAt, Grammar.slot?_setRule _ hi, ruleOf_fst]
    by_cases hid : .ofCategory kind.category i = id
    · rw [SlotDeclaration.category, if_pos hid, if_pos hid, made, hid]
    · rw [SlotDeclaration.category, if_neg hid, if_neg hid]
  | block kind d =>
    rw [putAt, Grammar.slot?_setBlockRule _ hi, blockOf_fst]
    by_cases hid : .ofCategory kind.category i = id
    · rw [SlotDeclaration.category, if_pos hid, if_pos hid, made, hid]
    · rw [SlotDeclaration.category, if_neg hid, if_neg hid]

/-- Settling a declaration makes no slots and removes none. -/
theorem count_settle (g : Grammar) (x : SlotDeclaration) (c : Category) :
    (settle g x).1.count c = g.count c := by
  unfold settle
  cases slotOf x.category (g.count x.category) x.number with
  | ok i => exact count_putAt g i x c
  | error problem => rfl

/-- **One declaration changes the slot that it goes to**, and no other one. -/
theorem slot?_settle (h : g.Sized limits) (x : SlotDeclaration) (id : StyleId) :
    (settle g x).1.slot? id
      = if x.target limits = some id then some (x.made id) else g.slot? id := by
  rw [target_eq, ← h x]
  unfold settle
  cases hslot : slotOf x.category (g.count x.category) x.number with
  | error problem => simp [Except.toOption]
  | ok i =>
    simp only [Except.toOption, Option.map_some, Option.some.injEq]
    exact slot?_putAt (slotOf_eq_ok_iff.mp hslot).1 id

theorem settle_sized (h : g.Sized limits) (x : SlotDeclaration) : (settle g x).1.Sized limits :=
  fun y => (count_settle g x y.category).trans (h y)

/-- A grammar keeps its size under any number of declarations. -/
theorem placeAll_settle_sized (h : g.Sized limits) (xs : List SlotDeclaration) :
    (placeAll settle g xs).1.Sized limits := by
  induction xs generalizing g with
  | nil => exact h
  | cons x xs ih => exact ih (settle_sized h x)

/-- **The last declaration that goes to a slot decides it**, whatever the others contain. -/
theorem slot?_placeAll_settle (h : g.Sized limits) (xs : List SlotDeclaration) (id : StyleId) :
    (placeAll settle g xs).1.slot? id = slotAfter limits id (g.slot? id) xs := by
  induction xs generalizing g with
  | nil => rfl
  | cons x xs ih =>
    rw [slotAfter_cons, ← slot?_settle h]
    exact ih (settle_sized h x)

/-! ## Lines of documents

  The same with several documents: laying one after the other is settling all their declarations in
  a row. -/

/-- And under a whole definition. -/
theorem applyTo_sized (h : g.Sized limits) (d : Definition) (name : String) :
    (d.applyTo name g).1.Sized limits := by
  rw [applyTo_eq_placeAll]
  exact fun x => placeAll_settle_sized h d.declarations x

/-- **Every grammar that is loaded has the slots of the configuration.** -/
theorem sized_layerwise (limits : Limits) :
    GrammarLibrary.Layerwise limits (Grammar.Sized limits) := by
  refine ⟨fun name x => ?_, fun d name _ h => applyTo_sized h d name⟩
  cases x with
  | rule kind _ =>
    cases kind <;> simp [SlotDeclaration.category, RuleKind.category, Grammar.count, Grammar.plain,
      Grammar.emptySlots, Limits.capacity]
  | block kind _ =>
    cases kind <;> simp [SlotDeclaration.category, BlockKind.category, Grammar.count,
      Grammar.plain, Limits.capacity]

/-- **A slot under one more definition** is what the definition's last declaration for it has made
    of it. -/
theorem slot?_layer (h : g.Sized limits) (d : Definition) (id : StyleId) :
    (layer g d).1.slot? id = slotAfter limits id (g.slot? id) d.declarations := by
  rw [← slot?_placeAll_settle h, layer, applyTo_eq_placeAll]
  cases id <;> rfl

/-- The declarations of a line of documents count as if they stood in one document. -/
theorem slot?_placeAll_layer (h : g.Sized limits) (ds : List Definition) (id : StyleId) :
    (placeAll layer g ds).1.slot? id
      = slotAfter limits id (g.slot? id) (ds.flatMap (·.declarations)) := by
  induction ds generalizing g with
  | nil => rfl
  | cons d ds ih =>
    rw [List.flatMap_cons, slotAfter_append, ← slot?_layer h]
    exact ih (applyTo_sized h d _)

end Highlight
