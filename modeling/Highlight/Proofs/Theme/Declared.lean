/-
  Every style that shows is declared.

  A grammar's rules, a theme's slots and the limits of the configuration are numbered independently
  of each other: rules are put into slots by their number, inherited and overridden; themes are read
  from sheets of their own.  That they stay in step is what this file is about.

  1. **Grammars** — in every grammar that is loaded, the rule in a slot has the style of this slot,
     and there are as many slots as the configuration says (`Slotted`): a plain grammar is so, and
     so is what a definition makes of such a grammar (`slotted_layerwise`).

  2. **Themes** — the built-in theme has looks for all these slots (`keys_builtin`), and a sheet
     takes no slot away, so every theme of the configuration has (`Theme.Available.contains`).

  3. **Looks** — a line is painted in the styles of the grammar's rules and of escapes.  The former
     have looks of their own; an escape without any looks like a quotation, which has.

  Main result: **`spans_declared`**.
-/
import Highlight.Proofs.Library.Layerwise
import Highlight.Proofs.Scan.Styles
import Highlight.Proofs.Theme.Layering

namespace Highlight

/-- The styles of the slots that a grammar has for a category.  Plain text and escapes are no
    rules. -/
def Limits.slots (limits : Limits) : Category → List StyleId
  | .plain | .escape => []
  | c => (List.range (limits.capacity c)).map (.ofCategory c)

/-- No slot is that of plain text. -/
theorem Limits.ne_plain_of_mem_slots {limits : Limits} {c : Category} {id : StyleId}
    (h : id ∈ limits.slots c) : id ≠ .plain := by
  rintro rfl
  cases c <;> simp [slots, StyleId.ofCategory] at h

/-! ## Grammars -/

/-- Every rule has the style of its slot, and there are as many slots as there may be. -/
def Grammar.Slotted (limits : Limits) (g : Grammar) : Prop :=
  ∀ c, g.stylesOf c = limits.slots c

namespace Definition

section Slots

variable {α δ : Type} {style : α → StyleId} {id : StyleId}

/-- A rule that is declared anew has the style of the old one. -/
theorem replace_style {compile : δ → Checked α} {old : α} (hcompile : ∀ d, style (compile d).1 = id)
    (hold : [style old] = [id]) (d : Option δ) : [style (replace compile old d).1] = [id] := by
  cases d with
  | none => exact hold
  | some d => exact congrArg (fun id => [id]) (hcompile d)

/-- Numbered rules that are declared anew have the styles of the old ones, and none is added. -/
theorem placeAll_style {place : List α → δ → Checked (List α)} {slot : δ → Option Toml.Value}
    {make : Nat → δ → α} {ids : Nat → StyleId} {n : Nat} (hplace : Places place slot make)
    (hmake : ∀ i d, style (make i d) = ids i) {slots : List α}
    (hslots : slots.map style = (List.range n).map ids) (ds : List δ) :
    (placeAll place slots ds).1.map style = (List.range n).map ids := by
  refine List.ext_getElem? fun i => ?_
  have hold : slots[i]?.map style = (List.range n)[i]?.map ids := by
    rw [← List.getElem?_map, hslots, List.getElem?_map]
  rw [List.getElem?_map, placeAll_getElem? hplace, List.getElem?_map, ← hold]
  cases (ds.filter fun d => selects i (slot d)).getLast? with
  | none => rfl
  | some d =>
    simp only [Option.map_map]
    cases hslot : slots[i]? with
    | none => rfl
    | some old =>
      -- the new rule has the style of the slot, as the old one had
      rw [hslot] at hold
      by_cases hi : i < n
      · rw [List.getElem?_range hi] at hold
        simpa [hmake] using hold.symm
      · rw [List.getElem?_eq_none (by rw [List.length_range]; omega)] at hold
        exact absurd hold (by simp)

end Slots

/-- A plain grammar has its rules in their slots. -/
theorem plain_slotted (name : String) (limits : Limits) :
    (Grammar.plain name limits).Slotted limits := by
  intro c
  have hempty : ∀ c n, (Grammar.emptySlots c n).map (·.style)
      = (List.range n).map (StyleId.ofCategory c) := fun c n => by
    simp [Grammar.emptySlots, Rule.disabled]
  cases c with
  | number =>
    show [(Grammar.ruleOr .number (Rule.compile Grammar.defaultNumbers .number)).style] = [.number]
    rw [ruleOr_compile]
  | quotation =>
    show [(Grammar.blockRuleOr .quotation (BlockRule.compile Grammar.defaultQuote
      Grammar.defaultQuote (some Grammar.defaultEscape) .quotation)).style] = [.quotation]
    rw [blockRuleOr_compile]
  | keyword => exact hempty .keyword limits.keywords
  | expression => exact hempty .expression limits.expressions
  | lineExpression => exact hempty .lineExpression limits.lineExpressions
  | blockExpression =>
    simp [Grammar.stylesOf, Grammar.plain, BlockRule.disabled, Limits.slots, Limits.capacity,
      StyleId.ofCategory]
  | plain | escape | lineComment | blockComment => rfl

/-- A definition puts a rule into the slot of its number, in the style of that slot. -/
theorem applyTo_slotted {limits : Limits} (d : Definition) (name : String) {base : Grammar}
    (h : base.Slotted limits) : (d.applyTo name base).1.Slotted limits := by
  intro c
  -- whatever is made of a declaration, it has the style of its slot
  have hvalue : ∀ c v, (valueRule c 0 v).1.style = .ofCategory c 0 := fun c v => by
    rw [valueRule_fst]
  have hblock : ∀ c b, (blockOf c 0 b).1.style = .ofCategory c 0 := fun c b => by
    rw [blockOf_fst]
  cases c with
  | plain => rfl
  | escape => rfl
  | number => exact replace_style (hvalue .number) (h .number) d.numbers
  | quotation => exact replace_style (hblock .quotation) (h .quotation) d.quotation
  | lineComment => exact replace_style (hvalue .lineComment) (h .lineComment) d.lineComment
  | blockComment => exact replace_style (hblock .blockComment) (h .blockComment) d.blockComment
  | keyword =>
    exact placeAll_style (placeRule_places .keyword) (fun _ _ => rfl) (h .keyword) d.keywords
  | expression =>
    exact placeAll_style (placeRule_places .expression) (fun _ _ => rfl) (h .expression)
      d.expressions
  | lineExpression =>
    exact placeAll_style (placeRule_places .lineExpression) (fun _ _ => rfl) (h .lineExpression)
      d.lineExpressions
  | blockExpression =>
    exact placeAll_style placeBlock_places (fun _ _ => rfl) (h .blockExpression)
      d.blockExpressions

/-- **Rules stay in step with their slots**, however definitions are laid over each other. -/
theorem slotted_layerwise (limits : Limits) :
    GrammarLibrary.Layerwise limits (Grammar.Slotted limits) :=
  ⟨fun name => plain_slotted name limits, fun d name _ h => applyTo_slotted d name h⟩

end Definition

/-! ## Themes -/

namespace ThemeLibrary

/-- What one asks for a theme by. -/
inductive Request where
  | text (text : String)
  | file (path : String)
  | name (name : String)

/-- Load what is asked for. -/
def Request.load (library : ThemeLibrary) : Request → Except ThemeError Theme
  | text s => library.load s
  | file path => library.loadFile path
  | name n => library.loadNamed n

variable {library : ThemeLibrary} {theme : Theme}

theorem loadOver_ok {text : String} {base : Theme} (h : loadOver base text = .ok theme) :
    ∃ sheet, theme = Sheet.applyTo sheet base := by
  unfold loadOver at h
  split at h
  · rename_i sheet _
    exact ⟨sheet, (Except.ok.inj h).symm⟩
  · exact absurd h (by simp)

/-- So it is with a layer, which is a text or a sheet as such. -/
theorem layer_ok {source : Source Sheet} {base : Theme} (h : layer base source = .ok theme) :
    ∃ sheet, theme = Sheet.applyTo sheet base := by
  cases source with
  | text text => exact loadOver_ok h
  | value sheet => exact ⟨sheet, (Except.ok.inj h).symm⟩

/-- Whatever is loaded is the built-in theme with a sheet laid over it. -/
theorem Request.load_ok {request : Request} (h : request.load library = .ok theme) :
    ∃ sheet, theme = Sheet.applyTo sheet (.builtin library.config) := by
  have hfile : ∀ path, library.loadFile path = .ok theme →
      ∃ sheet, theme = Sheet.applyTo sheet (.builtin library.config) := by
    intro path h
    unfold loadFile at h
    split at h
    · exact loadOver_ok h
    · exact absurd h (by simp)
  cases request with
  | text text => exact loadOver_ok h
  | file path => exact hfile path h
  | name name =>
    unfold Request.load loadNamed at h
    simp only at h
    split at h
    · exact layer_ok h
    · split at h
      · exact hfile _ h
      · exact absurd h (by simp)

end ThemeLibrary

namespace Theme

/-- The themes of a configuration: the built-in one, whatever can be loaded, and what is read over
    one of them. -/
inductive Available (config : Config) : Theme → Prop
  | builtin : Available config (.builtin config)
  | loaded {library : ThemeLibrary} {request : ThemeLibrary.Request} {theme : Theme}
      (hconfig : library.config = config) (hload : request.load library = .ok theme) :
      Available config theme
  | layered {base theme : Theme} {text : String} (hbase : Available config base)
      (hload : ThemeLibrary.loadOver base text = .ok theme) : Available config theme

/-- Where the looks of a slot come from, if not from plain text: they are its own, or an escape that
    has none takes over those of quotations. -/
inductive Resolves (theme : Theme) : (id : StyleId) → TextStyle → Prop
  | own {id : StyleId} {style : TextStyle} (hplain : id ≠ .plain)
      (hown : theme.own? id = some style) : Resolves theme id style
  | quotation {style : TextStyle} (hnone : theme.own? .escape = none)
      (hown : theme.own? .quotation = some style) : Resolves theme .escape style

/-- **The built-in theme has looks for every slot** that there is room for; besides plain text it
    has looks for no other one. -/
theorem keys_builtin (config : Config) :
    Dict.keys (builtin config).slots
      = [Category.number, .quotation, .lineComment, .blockComment, .keyword, .expression,
          .lineExpression, .blockExpression].flatMap config.limits.slots := by
  have hnumbered : ∀ c, (numberedSlots config.limits c).map (·.1)
      = (List.range (config.limits.capacity c)).map (.ofCategory c) := fun c => by
    simp [numberedSlots]
  unfold Dict.keys builtin
  simp only [List.map_append, List.flatMap_cons, List.flatMap_nil, hnumbered]
  rfl

/-- The built-in theme has looks for every slot of the configuration. -/
theorem builtin_contains {config : Config} {c : Category} {id : StyleId}
    (h : id ∈ config.limits.slots c) : (builtin config).contains id = true := by
  have hkey : id ∈ Dict.keys (builtin config).slots := by
    rw [keys_builtin]
    refine List.mem_flatMap.mpr ⟨c, ?_, h⟩
    cases c with
    | plain | escape => exact absurd h List.not_mem_nil
    | _ => decide
  unfold contains own?
  rw [if_neg (Limits.ne_plain_of_mem_slots h)]
  exact (Dict.find?_isSome_iff _ _).mpr hkey

/-- **So has every theme of the configuration**, for no sheet takes a slot away. -/
theorem Available.contains {config : Config} {theme : Theme} (h : Available config theme)
    {c : Category} {id : StyleId} (hid : id ∈ config.limits.slots c) :
    theme.contains id = true := by
  have hlayer : ∀ (sheet : Sheet) {base : Theme}, base.contains id = true →
      (sheet.applyTo base).contains id = true := fun sheet base hbase => by
    rw [Sheet.applyTo_eq, contains_applyAll]
    exact .inl hbase
  induction h with
  | builtin => exact builtin_contains hid
  | loaded hconfig hload =>
    obtain ⟨sheet, rfl⟩ := ThemeLibrary.Request.load_ok hload
    rw [hconfig]
    exact hlayer sheet (builtin_contains hid)
  | layered _ hload ih =>
    obtain ⟨sheet, rfl⟩ := ThemeLibrary.loadOver_ok hload
    exact hlayer sheet ih

/-- A style with looks of its own resolves to them. -/
theorem resolves_of_contains {theme : Theme} {id : StyleId} (hplain : id ≠ .plain)
    (h : theme.contains id = true) : theme.Resolves id (theme.look id) := by
  obtain ⟨style, hown⟩ := Option.isSome_iff_exists.mp h
  rw [look_of_own hown]
  exact .own hplain hown

/-- An escape never looks like plain text. -/
theorem Available.escape {config : Config} {theme : Theme} (h : Available config theme) :
    theme.Resolves .escape (theme.look .escape) := by
  cases hown : theme.own? .escape with
  | some style =>
    rw [look_of_own hown]
    exact .own (by decide) hown
  | none =>
    have hslot : .quotation ∈ config.limits.slots .quotation := List.mem_singleton_self _
    obtain ⟨style, hstyle⟩ := Option.isSome_iff_exists.mp (h.contains hslot)
    rw [look_fallback hown, fallback, look_of_own hstyle]
    exact .quotation hown hstyle

end Theme

/-! ## Lines -/

/-- **Every style that shows is declared**: whichever definitions, files and calls a grammar comes
    from, what it paints has looks in every theme of the configuration, and never falls back on
    those of plain text. -/
theorem spans_declared (config : Config) (files : FileSystem)
    (sources : Dict String (Source Definition)) (calls : List GrammarLibrary.Call)
    {request : GrammarLibrary.Request} {g : Grammar}
    (hload : (request.load (GrammarLibrary.run { config, files, sources } calls)).1 = .ok g)
    (text : Text) (entry : LineState) {theme : Theme} (htheme : Theme.Available config theme) :
    theme.Resolves .escape (theme.look .escape) ∧
      ∀ s ∈ (highlight g text entry).spans,
        (s.style = .escape ∨ theme.contains s.style = true) ∧
          theme.Resolves s.style (theme.look s.style) := by
  have hslotted : g.Slotted config.limits := by
    refine GrammarLibrary.grammar_of_run ?_ rfl calls hload
    exact Definition.slotted_layerwise config.limits
  refine ⟨htheme.escape, fun s hs => ?_⟩
  rcases style_of_mem_spans hs with hescape | ⟨c, hc⟩
  · rw [hescape]
    exact ⟨.inl rfl, htheme.escape⟩
  · rw [hslotted c] at hc
    have hcontains := htheme.contains hc
    exact ⟨.inr hcontains, Theme.resolves_of_contains (Limits.ne_plain_of_mem_slots hc) hcontains⟩

/-- A number and a keyword that are inherited, and an escape in a theme that does not know of
    escapes. -/
theorem spans_declared_inherited :
    let base := "name='base'\nnumbers='7'\n[[keywords]]\ntype=2\npattern='if'"
    let library := GrammarLibrary.run { config := {}, files := {}, sources := [] }
      [.register "base" base, .loadNamed "base"]
    let request : GrammarLibrary.Request := .text "name='c'\nuse='Base'"
    let text : Text := "if 7 \"\\n\"".toList
    ∃ g theme, ((request.load library).1 = .ok g ∧ Theme.Available {} theme) ∧
      (highlight g text .normal).spans.map (·.style) = [.keyword 2, .number, .quotation, .escape] ∧
      theme.contains .escape = false ∧
      ∀ s ∈ (highlight g text .normal).spans, theme.Resolves s.style (theme.look s.style) := by
  intro base library request text
  have hpainted : (request.load library).1.toOption.map
      (fun g => (highlight g text .normal).spans.map (·.style))
        = some [.keyword 2, .number, .quotation, .escape] := by decide +kernel
  have hthemed : (ThemeLibrary.load {} "format.quotations.bold = true").toOption.map
      (·.contains .escape) = some false := by decide +kernel
  obtain ⟨g, hg, hstyles⟩ := Option.map_eq_some_iff.mp hpainted
  obtain ⟨theme, htheme, hescape⟩ := Option.map_eq_some_iff.mp hthemed
  have hload := toOption_eq_some_iff.mp hg
  have hread : ThemeLibrary.Request.load {} (.text "format.quotations.bold = true") = .ok theme :=
    toOption_eq_some_iff.mp htheme
  have havailable : Theme.Available {} theme := .loaded rfl hread
  have hdeclared := spans_declared {} {} [] _ hload text .normal havailable
  exact ⟨g, theme, ⟨hload, havailable⟩, hstyles, hescape, fun s hs => (hdeclared.2 s hs).2⟩

end Highlight
