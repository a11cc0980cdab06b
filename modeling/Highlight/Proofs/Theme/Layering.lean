/-
  What a style sheet makes of a theme.

  The declarations of a sheet are applied one after the other, each to what its slot looks like at
  that moment.  What comes out does not show any of this: every field of a slot is given by the last
  declaration of the slot that has a usable value for it, by the theme below if none has, and where
  this says nothing about the slot, by the slot that it falls back on (`loadOver_layers`).

  1. **Several declarations of one slot** — `layered` takes every field from the last declaration
     that gives it; applying the declarations in turn does the same (`layered_cons`).

  2. **The crux** — a slot that is declared for the first time takes over the looks that it falls
     back on, so these must be final by then.  They are, for plain text comes before everything else
     and quotations before escapes (`Settling`); from there on it is one induction along the
     declarations (`look_applyAll`).

  3. **Sheets** — a document lists the categories in an order that is `Settling`
     (`parse?_categories`).

  Main result: **`loadOver_layers`**.
-/
import Highlight.Theme.Library

namespace Highlight

open Toml

/-! ## Several declarations of one slot

  A declaration gives some fields and leaves the others open, so of two declarations neither need
  replace the other.  Field by field the last value that is given counts. -/

/-- The value that the last declaration gives among those that give one. -/
def lastGiven {α : Type} (read : Declaration → Option α) (ds : List Declaration) : Option α :=
  ds.reverse.findSome? read

/-- A style with every field replaced that a declaration gives a usable value for; the last such
    declaration counts. -/
def layered (ds : List Declaration) (style : TextStyle) : TextStyle where
  foreground := (lastGiven (fun d => Declaration.color? d.color) ds).or style.foreground
  background := (lastGiven (fun d => Declaration.color? d.background) ds).or style.background
  family := (lastGiven (fun d => d.family.bind Value.string?) ds).or style.family
  bold := (lastGiven (fun d => d.bold.bind Value.boolean?) ds).getD style.bold
  italic := (lastGiven (fun d => d.italic.bind Value.boolean?) ds).getD style.italic
  underline := (lastGiven (fun d => d.underline.bind Value.boolean?) ds).getD style.underline

/-- A value that is given later counts before one that is given earlier. -/
@[simp] theorem lastGiven_cons {α : Type} (read : Declaration → Option α) (d : Declaration)
    (ds : List Declaration) : lastGiven read (d :: ds) = (lastGiven read ds).or (read d) := by
  rw [lastGiven, List.reverse_cons, List.findSome?_append]
  simp [lastGiven]

/-- A declaration before others is applied before them. -/
theorem layered_cons (d : Declaration) (ds : List Declaration) (style : TextStyle) :
    layered (d :: ds) style = layered ds (d.restyle style) := by
  have hor : ∀ {α : Type} (a b : Option α) (x : α), (a.or b).getD x = a.getD (b.getD x) := by
    intro α a b x
    cases a <;> rfl
  simp only [layered, lastGiven_cons, Option.or_assoc, hor, Declaration.restyle]

/-! ## Slots

  A theme has looks for some slots.  A slot without looks of its own has those of another slot,
  which are looked up each time it is asked for. -/

namespace Theme

/-- Setting the looks of one slot takes none from another. -/
theorem contains_set (theme : Theme) (id id' : StyleId) (style : TextStyle) :
    (theme.set id' style).contains id = true ↔ id' = id ∨ theme.contains id = true := by
  by_cases h : id' = id
  · subst h
    simp [contains]
  · simp [contains, own?_set_of_ne theme h, h]

/-- A slot with looks of its own has these. -/
theorem look_of_own {theme : Theme} {id : StyleId} {style : TextStyle}
    (h : theme.own? id = some style) : theme.look id = style := by
  rw [look, h]

/-- Whether a slot has looks of its own, and which, is all that counts where a default is given. -/
theorem own_or_congr {a b : Theme} {id : StyleId} (h : a.own? id = b.own? id) (style : TextStyle) :
    (if a.contains id then a.look id else style) = if b.contains id then b.look id else style := by
  cases hb : b.own? id with
  | some own => rw [look_of_own hb, look_of_own (h.trans hb), contains, contains, h]
  | none => simp [contains, h, hb]

/-- A slot without looks of its own looks like the one it falls back on. -/
theorem look_fallback {theme : Theme} {id : StyleId} (h : theme.own? id = none) :
    theme.look id = theme.look (fallback id) := by
  have hplain : theme.own? .plain = some theme.plain := rfl
  rw [look, h]
  cases hback : theme.own? (fallback id) with
  | some style => rw [look, hback]; rfl
  | none =>
    have hquote : fallback id = .quotation := by
      cases id with
      | escape => rfl
      | _ => exact absurd (hback.symm.trans hplain) (by simp)
    rw [look, hback, hquote]
    rfl

end Theme

/-! ## Declarations in turn

  The crux of this file, as a statement about any list of declarations that is `Settling`.  The
  induction goes along the list with the theme that has been made so far: what a slot will have
  fallen back on at its first declaration is what this slot looks like in the end. -/

/-- Apply declarations, each to its slot, one after the other. -/
def applyAll (theme : Theme) (steps : List (StyleId × Declaration)) : Theme :=
  steps.foldl (fun theme (id, d) => theme.set id (d.restyle (theme.look id))) theme

/-- The declarations of a slot. -/
def declarationsOf (id : StyleId) (steps : List (StyleId × Declaration)) : List Declaration :=
  (steps.filter fun step => step.1 = id).map (·.2)

/-- No slot is declared before one that it falls back on: plain text comes before everything else,
    and quotations before escapes. -/
def Settling (a b : Category) : Prop := (b = .plain → a = .plain) ∧ (b = .quotation → a ≠ .escape)

instance (a b : Category) : Decidable (Settling a b) :=
  inferInstanceAs (Decidable ((b = .plain → a = .plain) ∧ (b = .quotation → a ≠ .escape)))

section Steps

variable {theme : Theme} {id : StyleId} {steps : List (StyleId × Declaration)}

theorem declarationsOf_cons_self (d : Declaration) :
    declarationsOf id ((id, d) :: steps) = d :: declarationsOf id steps := by
  simp [declarationsOf]

theorem declarationsOf_cons_of_ne {id' : StyleId} (h : id' ≠ id) (d : Declaration) :
    declarationsOf id ((id', d) :: steps) = declarationsOf id steps := by
  simp [declarationsOf, h]

/-- A slot that is not declared keeps the looks that it has of its own. -/
theorem own?_applyAll (h : ∀ step ∈ steps, step.1 ≠ id) :
    (applyAll theme steps).own? id = theme.own? id := by
  induction steps generalizing theme with
  | nil => rfl
  | cons step steps ih =>
    obtain ⟨hfirst, hrest⟩ := List.forall_mem_cons.mp h
    exact (ih hrest).trans (Theme.own?_set_of_ne theme hfirst _)

/-- The slots of a new theme are the old ones and those that are declared. -/
theorem contains_applyAll : (applyAll theme steps).contains id = true ↔
    theme.contains id = true ∨ declarationsOf id steps ≠ [] := by
  induction steps generalizing theme with
  | nil => simp [applyAll, declarationsOf]
  | cons step steps ih =>
    obtain ⟨id', d⟩ := step
    have hstep : (applyAll theme ((id', d) :: steps)).contains id = true ↔ _ := ih
    rw [hstep, Theme.contains_set]
    by_cases h : id' = id
    · subst h
      simp [declarationsOf_cons_self]
    · simp [declarationsOf_cons_of_ne h, h]

/-- A slot looks in the end like what it falls back on looks now, if neither this nor what this
    falls back on is still to be declared. -/
theorem look_applyAll_fallback (hnone : theme.own? id = none)
    (hback : ∀ step ∈ steps, step.1 ≠ Theme.fallback id)
    (hplain : ∀ step ∈ steps, step.1 ≠ .plain) :
    (applyAll theme steps).look (Theme.fallback id) = theme.look id := by
  have hown : (applyAll theme steps).own? (Theme.fallback id) = theme.own? (Theme.fallback id) :=
    own?_applyAll hback
  have hown_plain : (applyAll theme steps).own? .plain = theme.own? .plain := own?_applyAll hplain
  have hfallback : Theme.fallback (Theme.fallback id) = .plain := by cases id <;> rfl
  rw [Theme.look_fallback hnone]
  cases hnow : theme.own? (Theme.fallback id) with
  | some style => rw [Theme.look_of_own (hown.trans hnow), Theme.look_of_own hnow]
  | none =>
    have hstyle : theme.own? .plain = some theme.plain := rfl
    rw [Theme.look_fallback (hown.trans hnow), Theme.look_fallback hnow, hfallback,
      Theme.look_of_own (hown_plain.trans hstyle), Theme.look_of_own hstyle]

/-- A slot that falls back is declared before nothing that it falls back on. -/
theorem fallback_settled (hfirst : ∀ step ∈ steps, Settling id.category step.1.category)
    (hne : id ≠ .plain) :
    ∀ step ∈ steps, step.1 ≠ Theme.fallback id ∧ step.1 ≠ .plain := by
  intro step hmem
  obtain ⟨hplain, hquote⟩ := hfirst step hmem
  have hstep_ne : step.1 ≠ .plain := by
    intro h
    rw [h] at hplain
    cases id with
    | plain => exact hne rfl
    | _ => exact absurd (hplain rfl) Category.noConfusion
  refine ⟨fun h => ?_, hstep_ne⟩
  cases id with
  | escape =>
    rw [h] at hquote
    exact hquote rfl rfl
  | _ => exact hstep_ne h

/-- The first declaration of a slot starts from its own looks, or else from the looks that what it
    falls back on has in the end. -/
theorem look_first {d : Declaration}
    (hfirst : ∀ step ∈ steps, Settling id.category step.1.category) :
    (if theme.contains id then theme.look id
      else (applyAll theme ((id, d) :: steps)).look (Theme.fallback id)) = theme.look id := by
  split
  · rfl
  · rename_i hbare
    have hnone : theme.own? id = none := by simpa [Theme.contains] using hbare
    have hne : id ≠ .plain := by rintro rfl; exact hbare rfl
    have hself : id ≠ Theme.fallback id := by
      cases id with
      | plain => exact absurd rfl hne
      | _ => exact StyleId.noConfusion
    have hsettled := fallback_settled hfirst hne
    refine look_applyAll_fallback hnone ?_ ?_
    · exact List.forall_mem_cons.mpr ⟨hself, fun step hmem => (hsettled step hmem).1⟩
    · exact List.forall_mem_cons.mpr ⟨hne, fun step hmem => (hsettled step hmem).2⟩

/-- **Every slot in the end**: its declarations in layers over the looks it had of its own, or else
    over those of the slot that it falls back on. -/
theorem look_applyAll
    (hsettling : steps.Pairwise fun a b => Settling a.1.category b.1.category) :
    (applyAll theme steps).look id = layered (declarationsOf id steps)
      (if theme.contains id then theme.look id
        else (applyAll theme steps).look (Theme.fallback id)) := by
  induction steps generalizing theme with
  | nil =>
    show theme.look id = if theme.contains id then theme.look id else theme.look (Theme.fallback id)
    split
    · rfl
    · rename_i hbare
      exact Theme.look_fallback (by simpa [Theme.contains] using hbare)
  | cons step steps ih =>
    obtain ⟨id', d⟩ := step
    obtain ⟨hfirst, hrest⟩ := List.pairwise_cons.mp hsettling
    have hstep : applyAll theme ((id', d) :: steps)
        = applyAll (theme.set id' (d.restyle (theme.look id'))) steps := rfl
    have hih := @ih (theme.set id' (d.restyle (theme.look id'))) hrest
    rw [← hstep] at hih
    by_cases h : id' = id
    · subst h
      have hcontains : (theme.set id' (d.restyle (theme.look id'))).contains id' = true :=
        (Theme.contains_set ..).mpr (.inl rfl)
      rw [hih, if_pos hcontains, Theme.look_of_own (Theme.own?_set_self ..),
        declarationsOf_cons_self, layered_cons, look_first hfirst]
    · -- a declaration of another slot changes nothing here
      have hown := Theme.own?_set_of_ne theme h (d.restyle (theme.look id'))
      rw [hih, declarationsOf_cons_of_ne h, Theme.own_or_congr hown]

end Steps

/-! ## Sheets

  It remains to see that a sheet is applied as such a list: category by category, in an order that
  does not depend on the document. -/

namespace Declaration

/-- Whether a declaration in the category of a slot is about this slot.  Numbers count only where
    slots are numbered; a declaration without a number is about the first slot. -/
def targets (d : Declaration) (id : StyleId) : Bool :=
  !id.category.isIndexed ||
    match d.slot with
    | none => id.index = 0
    | some (.integer n) => n = id.index
    | some _ => false

/-- Where slots are numbered, a category and a number make a slot with this number; where they are
    not, the number does not matter. -/
theorem ofCategory_category_eq {id : StyleId} {i : Nat} : StyleId.ofCategory id.category i = id ↔
    (id.category.isIndexed = true → i = id.index) := by
  cases id <;> simp [StyleId.ofCategory, StyleId.category, StyleId.index, Category.isIndexed]

/-- A slot that a declaration is about belongs to the category of the declaration. -/
theorem category_of_target? {c : Category} {d : Declaration} {id : StyleId}
    (h : d.target? c = some id) : id.category = c := by
  have hof : ∀ i, some (StyleId.ofCategory c i) = some id → id.category = c := by
    rintro i ⟨⟩
    exact StyleId.category_ofCategory c i
  unfold target? at h
  split at h
  · split at h
    · exact hof _ h
    · obtain ⟨i, -, hi⟩ := Option.map_eq_some_iff.mp h
      exact hof i (congrArg some hi)
  · exact hof _ h

/-- A declaration of the category of a slot goes to this slot just if it is about it. -/
theorem target?_category_iff {d : Declaration} {id : StyleId} :
    d.target? id.category = some id ↔ d.targets id = true := by
  unfold target? targets
  by_cases hindexed : id.category.isIndexed = true
  · have hof : ∀ i, StyleId.ofCategory id.category i = id ↔ i = id.index := fun i => by
      simp [ofCategory_category_eq, hindexed]
    rw [if_pos hindexed, hindexed]
    cases d.slot with
    | none => simp [hof, eq_comm (a := (0 : Nat))]
    | some v =>
      cases v with
      | integer n =>
        have hnat : (∃ i, (if 0 ≤ n then some n.toNat else none) = some i ∧ i = id.index)
            ↔ n = id.index := by
          constructor
          · rintro ⟨i, hi, hindex⟩
            split at hi
            · obtain rfl := Option.some.inj hi
              omega
            · exact absurd hi (by simp)
          · intro h
            exact ⟨_, by rw [if_pos (by omega), h, Int.toNat_natCast], rfl⟩
        simpa [Value.natural?, Value.integer?, Option.map_eq_some_iff, hof] using hnat
      | _ => simp [Value.natural?, Value.integer?]
  · simp [hindexed, ofCategory_category_eq]

end Declaration

namespace Sheet

/-- The declarations of a sheet that are about a slot, in the order of the document. -/
def declared (sheet : Sheet) (id : StyleId) : List Declaration :=
  ((Dict.find? id.category sheet).getD []).filter (·.targets id)

/-- The declarations of a category with the slots that they are about. -/
def stepsOf (c : Category) (ds : List Declaration) : List (StyleId × Declaration) :=
  ds.filterMap fun d => (d.target? c).map (·, d)

/-- All declarations of a sheet with the slots that they are about. -/
def steps (sheet : Sheet) : List (StyleId × Declaration) :=
  sheet.flatMap fun (c, ds) => stepsOf c ds

/-- The declarations of a category are applied step by step. -/
theorem foldl_apply (c : Category) (ds : List Declaration) (theme : Theme) :
    ds.foldl (Declaration.apply c) theme = applyAll theme (stepsOf c ds) := by
  induction ds generalizing theme with
  | nil => rfl
  | cons d ds ih =>
    rw [List.foldl_cons, ih, stepsOf, stepsOf, List.filterMap_cons, Declaration.apply]
    cases d.target? c <;> rfl

/-- A sheet is applied by applying its declarations in turn. -/
theorem applyTo_eq (sheet : Sheet) (theme : Theme) :
    applyTo sheet theme = applyAll theme (steps sheet) := by
  induction sheet generalizing theme with
  | nil => rfl
  | cons entry sheet ih =>
    obtain ⟨c, ds⟩ := entry
    calc applyTo ((c, ds) :: sheet) theme
        = applyTo sheet (ds.foldl (Declaration.apply c) theme) := rfl
      _ = applyAll (applyAll theme (stepsOf c ds)) (steps sheet) := by rw [ih, foldl_apply]
      _ = applyAll theme (stepsOf c ds ++ steps sheet) := List.foldl_append.symm

/-- The steps of a category are about its slots. -/
theorem category_of_mem_stepsOf {c : Category} {ds : List Declaration}
    {step : StyleId × Declaration} (h : step ∈ stepsOf c ds) : step.1.category = c := by
  obtain ⟨d, -, hd⟩ := List.mem_filterMap.mp h
  obtain ⟨id, hid, rfl⟩ := Option.map_eq_some_iff.mp hd
  exact Declaration.category_of_target? hid

/-- Of the declarations of a category, those count for a slot that are about it. -/
theorem declarationsOf_stepsOf_category (id : StyleId) (ds : List Declaration) :
    declarationsOf id (stepsOf id.category ds) = ds.filter (·.targets id) := by
  induction ds with
  | nil => rfl
  | cons d ds ih =>
    by_cases htarget : d.targets id = true
    · have hstep : stepsOf id.category (d :: ds) = (id, d) :: stepsOf id.category ds := by
        rw [stepsOf, List.filterMap_cons, Declaration.target?_category_iff.mpr htarget]
        rfl
      rw [hstep, declarationsOf_cons_self, ih, List.filter_cons, if_pos htarget]
    · rw [List.filter_cons, if_neg htarget, ← ih]
      cases hid : d.target? id.category with
      | none => rw [stepsOf, List.filterMap_cons, hid]; rfl
      | some id' =>
        have hne : id' ≠ id := by
          rintro rfl
          exact htarget (Declaration.target?_category_iff.mp hid)
        have hstep : stepsOf id.category (d :: ds) = (id', d) :: stepsOf id.category ds := by
          rw [stepsOf, List.filterMap_cons, hid]
          rfl
        rw [hstep, declarationsOf_cons_of_ne hne]

/-- The declarations of other categories do not count. -/
theorem declarationsOf_stepsOf_of_ne {id : StyleId} {c : Category} (h : c ≠ id.category)
    (ds : List Declaration) : declarationsOf id (stepsOf c ds) = [] := by
  rw [declarationsOf, List.map_eq_nil_iff, List.filter_eq_nil_iff]
  intro step hmem hid
  rw [← of_decide_eq_true hid] at h
  exact h (category_of_mem_stepsOf hmem).symm

/-- The declarations of a slot are those that its category has for it. -/
theorem declarationsOf_steps {sheet : Sheet} (hnodup : (Dict.keys sheet).Nodup) (id : StyleId) :
    declarationsOf id (steps sheet) = declared sheet id := by
  induction sheet with
  | nil => rfl
  | cons entry sheet ih =>
    obtain ⟨c, ds⟩ := entry
    obtain ⟨hfresh, hrest⟩ := List.nodup_cons.mp hnodup
    have hsplit : declarationsOf id (steps ((c, ds) :: sheet))
        = declarationsOf id (stepsOf c ds) ++ declarationsOf id (steps sheet) := by
      simp [steps, declarationsOf]
    rw [hsplit, ih hrest, declared, declared, Dict.find?]
    split
    · rename_i hc
      subst hc
      have hnone : Dict.find? id.category sheet = none := by
        simpa using mt (Dict.find?_isSome_iff id.category sheet).mp hfresh
      rw [hnone, declarationsOf_stepsOf_category]
      simp
    · rename_i hc
      rw [declarationsOf_stepsOf_of_ne hc, List.nil_append]

/-- Reading an entry for each key gives entries with these keys. -/
theorem keys_of_mapM {κ α : Type} {read : κ → Option α} {keys : List κ} {entries : Dict κ α}
    (h : keys.mapM (fun k => do return (k, ← read k)) = some entries) :
    Dict.keys entries = keys := by
  induction keys generalizing entries with
  | nil =>
    obtain rfl := Option.some.inj h
    rfl
  | cons k keys ih =>
    rw [List.mapM_cons] at h
    obtain ⟨entry, hentry, h⟩ := Option.bind_eq_some_iff.mp h
    obtain ⟨rest, hrest, h⟩ := Option.bind_eq_some_iff.mp h
    obtain ⟨v, -, hv⟩ := Option.bind_eq_some_iff.mp hentry
    obtain rfl := Option.some.inj h
    obtain rfl := Option.some.inj hv
    exact congrArg (k :: ·) (ih hrest)

/-- A document lists either nothing or all categories, in the order in which they are applied. -/
theorem parse?_categories {text : String} {sheet : Sheet} (hparse : parse? text = some sheet) :
    sheet = [] ∨ Dict.keys sheet = order := by
  obtain ⟨t, -, ht⟩ := Option.bind_eq_some_iff.mp hparse
  obtain ⟨found, hfound, rfl⟩ := Option.map_eq_some_iff.mp ht
  unfold Table.field? at hfound
  split at hfound
  · obtain rfl := Option.some.inj hfound
    exact .inl rfl
  · obtain ⟨sheet, hsheet, rfl⟩ := Option.map_eq_some_iff.mp hfound
    obtain ⟨format, -, hformat⟩ := Option.bind_eq_some_iff.mp hsheet
    exact .inr (keys_of_mapM hformat)

/-- In the order of the categories nothing comes before what it falls back on. -/
theorem order_settling : order.Pairwise Settling := by decide

/-- The declarations of a document come in an order in which nothing is declared before what it
    falls back on. -/
theorem steps_settling {text : String} {sheet : Sheet} (hparse : parse? text = some sheet) :
    (steps sheet).Pairwise fun a b => Settling a.1.category b.1.category := by
  have hself : ∀ c : Category, Settling c c := by intro c; cases c <;> decide
  have horder : (Dict.keys sheet).Pairwise Settling := by
    obtain rfl | hkeys := parse?_categories hparse
    · exact List.Pairwise.nil
    · rw [hkeys]
      exact order_settling
  rw [steps, List.pairwise_flatMap]
  constructor
  · rintro ⟨c, ds⟩ -
    refine List.pairwise_of_forall_mem_list ?_
    intro a ha b hb
    rw [category_of_mem_stepsOf ha, category_of_mem_stepsOf hb]
    exact hself c
  · refine (List.pairwise_map.mp horder).imp ?_
    intro x y hsettling a ha b hb
    rw [category_of_mem_stepsOf ha, category_of_mem_stepsOf hb]
    exact hsettling

end Sheet

namespace ThemeLibrary

/-- **A style sheet layers field by field.**  Reading a sheet that is well-formed over a theme
    gives a theme with the slots of the old one and those that the sheet declares.  Every field of
    every slot is given by the last of its declarations that has a usable value for it, or else by
    the old looks of the slot, and if it had none, by the new looks of what it falls back on. -/
theorem loadOver_layers (base : Theme) {text : String} {sheet : Sheet}
    (hparse : Sheet.parse? text = some sheet) :
    ∃ new, loadOver base text = .ok new ∧
      (∀ id, new.contains id = true ↔ base.contains id = true ∨ Sheet.declared sheet id ≠ []) ∧
      ∀ id, new.look id = layered (Sheet.declared sheet id)
        (if base.contains id then base.look id else new.look (Theme.fallback id)) := by
  have hnodup : (Dict.keys sheet).Nodup := by
    obtain rfl | horder := Sheet.parse?_categories hparse
    · exact List.nodup_nil
    · rw [horder]; decide
  refine ⟨sheet.applyTo base, by rw [loadOver, hparse], fun id => ?_, fun id => ?_⟩
  · rw [Sheet.applyTo_eq, contains_applyAll, Sheet.declarationsOf_steps hnodup]
  · rw [Sheet.applyTo_eq, ← Sheet.declarationsOf_steps hnodup]
    exact look_applyAll (Sheet.steps_settling hparse)

/-- Escapes take over what quotations, which the document lists after them, are declared to look
    like; of two colours the one counts that can be read. -/
theorem loadOver_layers_escapes :
    let text := "format.escapes = \x7bbold = true\x7d
      format.quotations = [\x7bcolor = '#ff0000', italic = true\x7d, \x7bcolor = 'rot'\x7d]"
    ∃ sheet new, Sheet.parse? text = some sheet ∧ loadOver {} text = .ok new ∧
      new.look .escape = layered (Sheet.declared sheet .escape) (new.look .quotation) ∧
      new.look .escape = { foreground := some (.rgb 255 0 0), bold := true, italic := true } := by
  intro text
  have hread : (Sheet.parse? text).isSome := by decide +kernel
  obtain ⟨sheet, hparse⟩ := Option.isSome_iff_exists.mp hread
  obtain ⟨new, hload, -, hlook⟩ := loadOver_layers {} hparse
  have hstyle : (loadOver {} text).toOption.map (·.look .escape)
      = some { foreground := some (.rgb 255 0 0), bold := true, italic := true } := by
    decide +kernel
  rw [hload] at hstyle
  exact ⟨sheet, new, hparse, hload, hlook .escape, Option.some.inj hstyle⟩

end ThemeLibrary

end Highlight
