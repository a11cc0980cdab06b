/-
  How a workspace grows.

  Definitions and languages are added to a workspace and never taken away: a definition can only be
  added under a name that is free, and one that cannot be loaded leaves no trace.  All of this holds
  in any configuration, whatever lies in the directories.

  1. **Events** — adding a language fails at once, fails because the grammar cannot be loaded, or
     enters the language (`addLanguage_cases`).  All other events leave the catalogue and the
     definitions alone; they only consult them (`perform_cases`).

  2. **What is registered is listed** — no definition is registered whose language is not in the
     catalogue (`Listed`).  So a name that is not in the catalogue is free, and definitions and
     languages only become more (`run_grows`).

  3. **A new workspace** — it has the built-in definitions, and lists their languages (`new_spec`).
-/
import Highlight.Proofs.Library.Registered
import Highlight.Proofs.Naming
import Highlight.Proofs.Workspace.Runs

namespace Highlight

namespace Workspace

open GrammarLibrary (Frame Named)

/-! ## Events

  `perform_cases` tells two kinds of events apart, and what follows goes by these two kinds.  An
  event of the second kind may load grammars, and then the library keeps more than before. -/

/-- The workspace after some events. -/
def run (ws : Workspace) (events : List Event) : Workspace :=
  events.foldl (fun ws event => event.perform ws) ws

theorem run_nil (ws : Workspace) : ws.run [] = ws := rfl

/-- A text that declares a name is a definition. -/
theorem declaredName_eq_ok_iff {text name : String} :
    GrammarLibrary.declaredName text = .ok name ↔
      ∃ d, Definition.parse? text = some d ∧ d.declaredName? = some name := by
  unfold GrammarLibrary.declaredName
  simp only [← GrammarLibrary.parse_eq_ok_iff]
  cases GrammarLibrary.parse text with
  | error e => simp
  | ok d =>
    cases hname : d.declaredName? with
    | none => simp [hname]
    | some declared => simp [hname]

/-- A declared name has no blanks around it, so its key is its lowercase form. -/
theorem nameKey_declared {d : Definition} {name : String} (h : d.declaredName? = some name) :
    nameKey name = Unicode.lowercase name := by
  obtain ⟨raw, -, rfl⟩ := Option.map_eq_some_iff.mp (Option.filter_eq_some_iff.mp h).1
  exact nameKey_of_trim_eq (Text.trim_trim raw)

section Catalogue

variable {ws : Workspace} {name : String}

/-- A language is not catalogued if its grammar is not loaded. -/
theorem catalogue_error {e : GrammarError} (h : (ws.grammars.loadNamed name).1 = .error e) :
    ws.catalogue name = (.error e, { ws with grammars := (ws.grammars.loadNamed name).2 }) := by
  unfold catalogue
  generalize ws.grammars.loadNamed name = loaded at h ⊢
  obtain ⟨result, grammars⟩ := loaded
  obtain rfl : result = .error e := h
  rfl

/-- A grammar that is loaded is entered. -/
theorem catalogue_ok {g : Grammar} (h : (ws.grammars.loadNamed name).1 = .ok g) :
    ws.catalogue name
      = (.ok (), enter { ws with grammars := (ws.grammars.loadNamed name).2 } g) := by
  unfold catalogue
  generalize ws.grammars.loadNamed name = loaded at h ⊢
  obtain ⟨result, grammars⟩ := loaded
  obtain rfl : result = .ok g := h
  rfl

end Catalogue

/-- A language that is not listed is added, if its grammar is loaded. -/
theorem addLanguage_ok {ws : Workspace} {text name : String} {g : Grammar}
    (hdeclared : GrammarLibrary.declaredName text = .ok name)
    (hnew : ws.languages.find? (Unicode.lowercase name) = none)
    (hload : ((ws.grammars.register name text).loadNamed name).1 = .ok g) :
    ws.addLanguage text = (.ok (), enter { ws with
      grammars := ((ws.grammars.register name text).loadNamed name).2 } g) := by
  unfold addLanguage
  rw [hdeclared]
  simp only
  rw [if_neg (by rw [Dict.has, hnew]; exact Bool.false_ne_true), catalogue_ok hload]

/-- What adding a language does: it is refused at once, or its definition is registered; then the
    grammar is not loaded and the definition is forgotten, or the grammar is entered. -/
theorem addLanguage_cases (ws : Workspace) (text : String) :
    (∃ e, ws.addLanguage text = (.error e, ws)) ∨
      ∃ name d, Definition.parse? text = some d ∧ d.declaredName? = some name ∧
        ws.languages.find? (Unicode.lowercase name) = none ∧
        ((∃ e, ((ws.grammars.register name text).loadNamed name).1 = .error e ∧
            ws.addLanguage text = (.error e, { ws with
              grammars := ((ws.grammars.register name text).loadNamed name).2.forget name })) ∨
          ∃ g, ((ws.grammars.register name text).loadNamed name).1 = .ok g ∧
            ws.addLanguage text = (.ok (), enter { ws with
              grammars := ((ws.grammars.register name text).loadNamed name).2 } g)) := by
  cases hdeclared : GrammarLibrary.declaredName text with
  | error e =>
    refine .inl ⟨e, ?_⟩
    rw [addLanguage, hdeclared]
  | ok name =>
    obtain ⟨d, hparse, hname⟩ := declaredName_eq_ok_iff.mp hdeclared
    by_cases hlisted : ws.languages.has (Unicode.lowercase name)
    · refine .inl ⟨.duplicateName name, ?_⟩
      rw [addLanguage, hdeclared]
      exact if_pos hlisted
    · have hnew := Option.not_isSome_iff_eq_none.mp hlisted
      refine .inr ⟨name, d, hparse, hname, hnew, ?_⟩
      rcases hload : ((ws.grammars.register name text).loadNamed name).1 with e | g
      · left
        refine ⟨e, rfl, ?_⟩
        rw [addLanguage, hdeclared]
        simp only
        rw [if_neg hlisted, catalogue_error hload]
      · exact .inr ⟨g, rfl, addLanguage_ok hdeclared hnew hload⟩

/-- The languages are as before, and so are the definitions: at most a grammar was loaded, or the
    files changed. -/
structure Consults (before after : Workspace) : Prop where
  languages : after.languages = before.languages
  extensions : after.extensions = before.extensions
  library : after.grammars = before.grammars ∨
    (∃ name, after.grammars = (before.grammars.loadNamed name).2) ∨
    ∃ files, after.grammars = { before.grammars with files := files }

/-- The theme that a grammar asks for, or the default theme. -/
def themeFor (ws : Workspace) (g : Grammar) : Theme × Workspace :=
  match g.style with
  | none => (ws.defaultTheme, ws)
  | some style => ws.themeOf style

/-- Looking for a theme changes nothing but the themes that are kept. -/
theorem themeFor_rest (ws : Workspace) (g : Grammar) :
    (ws.themeFor g).2 = { ws with loadedThemes := (ws.themeFor g).2.loadedThemes } := by
  unfold themeFor themeOf
  split
  · rfl
  · split
    · rfl
    · split <;> rfl

section Snapshot

variable {ws : Workspace} {language : String}

/-- There is no snapshot of a language whose grammar is not loaded. -/
theorem snapshot_error {e : GrammarError} (h : (ws.grammars.loadNamed language).1 = .error e) :
    ws.snapshot language
      = (.error e, { ws with grammars := (ws.grammars.loadNamed language).2 }) := by
  unfold snapshot
  generalize ws.grammars.loadNamed language = loaded at h ⊢
  obtain ⟨result, grammars⟩ := loaded
  obtain rfl : result = .error e := h
  rfl

/-- In a snapshot a grammar comes with the theme that it asks for. -/
theorem snapshot_ok {g : Grammar} (h : (ws.grammars.loadNamed language).1 = .ok g) :
    ws.snapshot language = (.ok (g, (ws.themeFor g).1),
      { (ws.themeFor g).2 with grammars := (ws.grammars.loadNamed language).2 }) := by
  unfold snapshot
  generalize ws.grammars.loadNamed language = loaded at h ⊢
  obtain ⟨result, grammars⟩ := loaded
  obtain rfl : result = .ok g := h
  unfold themeFor themeOf
  simp only
  cases g.style with
  | none => rfl
  | some style =>
    simp only
    cases ws.loadedThemes.find? (Unicode.lowercase style) with
    | some theme => rfl
    | none =>
      simp only
      cases ws.themes.loadNamed style <;> rfl

end Snapshot

/-- A snapshot consults the definitions and changes none. -/
theorem snapshot_consults (ws : Workspace) (language : String) :
    Consults ws (ws.snapshot language).2 := by
  rcases hload : (ws.grammars.loadNamed language).1 with e | g
  · rw [snapshot_error hload]
    exact ⟨rfl, rfl, .inr (.inl ⟨language, rfl⟩)⟩
  · rw [snapshot_ok hload, themeFor_rest]
    exact ⟨rfl, rfl, .inr (.inl ⟨language, rfl⟩)⟩

theorem setBufferLanguage_consults (ws : Workspace) (id : Nat) (language : String)
    (lines : Buffer) : Consults ws (ws.setBufferLanguage id language lines).2 := by
  have hsnapshot := snapshot_consults ws language
  unfold setBufferLanguage
  generalize ws.snapshot language = snapped at hsnapshot ⊢
  obtain ⟨e | ⟨g, theme⟩, after⟩ := snapped
  · exact hsnapshot
  · exact ⟨hsnapshot.languages, hsnapshot.extensions, hsnapshot.library⟩

/-- The text of the language that an event adds: that of a file if there is one. -/
def Event.text? (ws : Workspace) : Event → Option String
  | addLanguage text => some text
  | addLanguageFile path => (ws.grammars.files.readText path).toOption
  | _ => none

/-- A file is read, and then added as a text. -/
theorem perform_of_text? {ws : Workspace} {event : Event} {text : String}
    (h : event.text? ws = some text) : event.perform ws = (ws.addLanguage text).2 := by
  cases event with
  | addLanguage given => rw [Option.some.inj h, Event.perform]
  | addLanguageFile path =>
    show (ws.addLanguageFile path).2 = _
    unfold addLanguageFile
    cases hread : ws.grammars.files.readText path with
    | error e => exact absurd h (by simp [Event.text?, hread, Except.toOption])
    | ok read =>
      rw [Event.text?, hread] at h
      rw [Option.some.inj h]
  | _ => exact absurd h (by simp [Event.text?])

/-- An event that adds no language consults the catalogue. -/
theorem consults_of_text? {ws : Workspace} {event : Event} (h : event.text? ws = none) :
    Consults ws (event.perform ws) := by
  -- only a switch, a snapshot and an opened file of a known language load anything
  have hidle : Consults ws ws := ⟨rfl, rfl, .inl rfl⟩
  cases event with
  | setLanguage id language lines => exact setBufferLanguage_consults ws id language lines
  | openBuffer id path lines =>
    show Consults ws (ws.openBuffer id path lines).2
    rw [openBuffer_eq]
    split
    · exact setBufferLanguage_consults ws id _ lines
    · exact ⟨rfl, rfl, .inl rfl⟩
  | closeBuffer id => exact ⟨rfl, rfl, .inl rfl⟩
  | linesChanged id lines edit =>
    show Consults ws (ws.linesChanged id lines edit).2
    unfold linesChanged
    split
    · exact hidle
    · exact ⟨rfl, rfl, .inl rfl⟩
  | toggle => exact ⟨rfl, rfl, .inl rfl⟩
  | addLanguage text => exact absurd h (by simp [Event.text?])
  | addLanguageFile path =>
    show Consults ws (ws.addLanguageFile path).2
    unfold addLanguageFile
    cases hread : ws.grammars.files.readText path with
    | error e => exact hidle
    | ok read => exact absurd h (by simp [Event.text?, hread, Except.toOption])
  | addStyle name text =>
    show Consults ws (ws.addStyle name text).2
    unfold addStyle
    split
    · exact hidle
    · exact ⟨rfl, rfl, .inl rfl⟩
  | snapshot language => exact snapshot_consults ws language
  | filesChange files => exact ⟨rfl, rfl, .inr (.inr ⟨files, rfl⟩)⟩

/-- **An event adds a language or consults the catalogue.** -/
theorem perform_cases (ws : Workspace) (event : Event) :
    (∃ text, event.perform ws = (ws.addLanguage text).2) ∨ Consults ws (event.perform ws) := by
  cases htext : event.text? ws with
  | some text => exact .inl ⟨text, perform_of_text? htext⟩
  | none => exact .inr (consults_of_text? htext)

/-! ## What is registered is listed

  A definition stays registered only if its grammar has been loaded, and then its language is
  entered.  Hence a name that can still be added is free in the library, too. -/

/-- Every registered definition is that of a language in the catalogue; and what is kept for it
    bears its name. -/
structure Listed (ws : Workspace) : Prop where
  named : Named ws.grammars
  listed : ∀ key, (ws.grammars.sources.find? key).isSome → (ws.languages.find? key).isSome

/-- The definitions are still there, and so are the languages. -/
structure Grows (before after : Workspace) : Prop where
  config : after.grammars.config = before.grammars.config
  sources : ∀ key source, before.grammars.sources.find? key = some source →
    after.grammars.sources.find? key = some source
  languages : ∀ key name, before.languages.find? key = some name →
    after.languages.find? key = some name

namespace Grows

variable {a b c : Workspace}

theorem refl (ws : Workspace) : Grows ws ws := ⟨rfl, fun _ _ h => h, fun _ _ h => h⟩

theorem trans (h : Grows a b) (h' : Grows b c) : Grows a c :=
  ⟨h'.config.trans h.config, fun key source hs => h'.sources key source (h.sources key source hs),
    fun key name hn => h'.languages key name (h.languages key name hn)⟩

end Grows

section Listed

variable {ws after : Workspace}

/-- Consulting the catalogue leaves the definitions alone. -/
theorem Consults.sources (h : Consults ws after) :
    after.grammars.config = ws.grammars.config ∧ after.grammars.sources = ws.grammars.sources := by
  rcases h.library with heq | ⟨name, heq⟩ | ⟨files, heq⟩
  · rw [heq]
    exact ⟨rfl, rfl⟩
  · have hframe := GrammarLibrary.loadNamed_frame ws.grammars name
    rw [heq]
    exact ⟨hframe.config, hframe.sources⟩
  · rw [heq]
    exact ⟨rfl, rfl⟩

/-- What is only consulted neither grows nor shrinks. -/
theorem Consults.grows (h : Consults ws after) : Grows ws after := by
  refine ⟨h.sources.1, fun key source hs => ?_, fun key name hn => ?_⟩
  · rw [h.sources.2]
    exact hs
  · rw [h.languages]
    exact hn

theorem Consults.listed (h : Consults ws after) (hlisted : Listed ws) : Listed after := by
  constructor
  · rcases h.library with heq | ⟨name, heq⟩ | ⟨files, heq⟩
    · rw [heq]
      exact hlisted.named
    · rw [heq]
      exact GrammarLibrary.loadNamed_named hlisted.named name
    · rw [heq]
      exact hlisted.named
  · intro key hkey
    rw [h.sources.2] at hkey
    rw [h.languages]
    exact hlisted.listed key hkey

/-- **A name that is not in the catalogue is free.** -/
theorem Listed.free (h : Listed ws) {key : String} (hkey : ws.languages.find? key = none) :
    ws.grammars.sources.find? key = none := by
  refine Option.not_isSome_iff_eq_none.mp fun hsome => ?_
  have hlisted := h.listed key hsome
  rw [hkey] at hlisted
  exact absurd hlisted (by simp)

/-- A definition that could not be loaded leaves no trace among the definitions. -/
theorem forget_register {library : GrammarLibrary} {name : String}
    (hfree : library.sources.find? (nameKey name) = none) (text : String) :
    Frame library (((library.register name text).loadNamed name).2.forget name) := by
  have hframe := GrammarLibrary.loadNamed_frame (library.register name text) name
  refine ⟨hframe.config, hframe.files, ?_⟩
  show ((library.register name text).loadNamed name).2.sources.erase (nameKey name) = _
  rw [hframe.sources]
  exact Dict.erase_set_of_none hfree _

/-- A definition that is loaded after it was registered is loaded under its name. -/
theorem name_of_register (h : Listed ws) {text name : String} {d : Definition} {g : Grammar}
    (hparse : Definition.parse? text = some d) (hname : d.declaredName? = some name)
    (hload : ((ws.grammars.register name text).loadNamed name).1 = .ok g) : g.name = name := by
  have hnamed : Named (ws.grammars.register name text) :=
    GrammarLibrary.registerSource_named h.named name _
  have hsource : (ws.grammars.register name text).registered? (nameKey name) = some d := by
    rw [← hparse]
    exact GrammarLibrary.registered?_register_self ..
  have hdeclared := hnamed.loadNamed_name hsource hload
  exact Option.some.inj (hdeclared.symm.trans hname)

/-- A definition is registered for good only when its language is entered. -/
theorem addLanguage_listed (h : Listed ws) (text : String) : Listed (ws.addLanguage text).2 := by
  rcases addLanguage_cases ws text with ⟨e, hadd⟩ | ⟨name, d, hparse, hname, hnew, hcase⟩
  · rw [hadd]
    exact h
  · have hkey := nameKey_declared hname
    have hfree := h.free (hkey ▸ hnew)
    have hnamed : Named (ws.grammars.register name text) :=
      GrammarLibrary.registerSource_named h.named name _
    have hnamed' := GrammarLibrary.loadNamed_named hnamed name
    rcases hcase with ⟨e, hload, hadd⟩ | ⟨g, hload, hadd⟩
    · -- it cannot be loaded and is forgotten: what is registered was so before
      rw [hadd]
      refine ⟨GrammarLibrary.forget_named hnamed' name, fun key hsome => h.listed key ?_⟩
      rw [← (forget_register hfree text).sources]
      exact hsome
    · rw [hadd]
      refine ⟨hnamed', fun key hsome => ?_⟩
      have hframe := GrammarLibrary.loadNamed_frame (ws.grammars.register name text) name
      change (((ws.grammars.register name text).loadNamed name).2.sources.find? key).isSome at hsome
      show ((ws.languages.set (Unicode.lowercase g.name) g.name).find? key).isSome
      rw [name_of_register h hparse hname hload, ← hkey]
      by_cases hk : nameKey name = key
      · rw [hk, Dict.find?_set_self]
        rfl
      · rw [hframe.sources] at hsome
        change ((ws.grammars.sources.set (nameKey name) (.text text)).find? key).isSome at hsome
        rw [Dict.find?_set_of_ne hk] at hsome ⊢
        exact h.listed key hsome

/-- A language is added under a name that was free. -/
theorem addLanguage_grows (h : Listed ws) (text : String) : Grows ws (ws.addLanguage text).2 := by
  rcases addLanguage_cases ws text with ⟨e, hadd⟩ | ⟨name, d, hparse, hname, hnew, hcase⟩
  · rw [hadd]
    exact .refl ws
  · have hkey := nameKey_declared hname
    -- a name that is not listed has no definition either, so nothing is replaced
    have hfree := h.free (hkey ▸ hnew)
    rcases hcase with ⟨e, hload, hadd⟩ | ⟨g, hload, hadd⟩
    · have hframe := forget_register hfree text
      rw [hadd]
      refine ⟨hframe.config, fun key source hs => ?_, fun _ _ hn => hn⟩
      show (((ws.grammars.register name text).loadNamed name).2.forget name).sources.find? key = _
      rw [hframe.sources]
      exact hs
    · have hframe := GrammarLibrary.loadNamed_frame (ws.grammars.register name text) name
      rw [hadd]
      refine ⟨hframe.config, fun key source hs => ?_, fun key declared hn => ?_⟩
      · have hne : nameKey name ≠ key := by
          rintro rfl
          exact absurd (hfree.symm.trans hs) (by simp)
        show ((ws.grammars.register name text).loadNamed name).2.sources.find? key = _
        rw [hframe.sources]
        exact (Dict.find?_set_of_ne hne ..).trans hs
      · have hne : Unicode.lowercase g.name ≠ key := by
          rw [name_of_register h hparse hname hload]
          rintro rfl
          exact absurd (hnew.symm.trans hn) (by simp)
        exact (Dict.find?_set_of_ne hne ..).trans hn

theorem perform_listed (h : Listed ws) (event : Event) : Listed (event.perform ws) := by
  rcases perform_cases ws event with ⟨text, heq⟩ | hconsults
  · rw [heq]
    exact addLanguage_listed h text
  · exact hconsults.listed h

/-- **No event takes a definition or a language away.** -/
theorem perform_grows (h : Listed ws) (event : Event) : Grows ws (event.perform ws) := by
  rcases perform_cases ws event with ⟨text, heq⟩ | hconsults
  · rw [heq]
    exact addLanguage_grows h text
  · exact hconsults.grows

/-- **What is registered is listed**, after any events. -/
theorem run_listed (h : Listed ws) (events : List Event) : Listed (ws.run events) := by
  induction events generalizing ws with
  | nil => exact h
  | cons event events ih => exact ih (perform_listed h event)

/-- **Definitions and languages only become more**, by induction on the events. -/
theorem run_grows (h : Listed ws) (events : List Event) : Grows ws (ws.run events) := by
  induction events generalizing ws with
  | nil => exact .refl ws
  | cons event events ih => exact (perform_grows h event).trans (ih (perform_listed h event))

end Listed

/-! ## A new workspace

  The built-in definitions are registered first, and their languages entered after that.  What is to
  be shown of a new workspace is shown for the library and then kept up while languages are entered
  (`new_induction`). -/

section New

open Grammar.Builtin (all)

/-- The built-in definitions have names of their own. -/
theorem builtin_nodup : (all.map (nameKey ·.1)).Nodup := by decide +kernel

/-- Every built-in definition declares the name that it is registered under. -/
theorem builtin_declared :
    ∀ e ∈ all, e.2.declaredName?.map nameKey = some (nameKey e.1) := by decide +kernel

/-- The parent of a built-in definition is another one, which has no parent. -/
theorem builtin_parent : ∀ e ∈ all, ∀ parent ∈ e.2.parent, ∃ base ∈ all,
    nameKey parent = nameKey base.1 ∧ nameKey base.1 ≠ nameKey e.1 ∧ base.2.parent = none := by
  decide +kernel

/-- A library in which the built-in definitions have just been registered. -/
def stock (config : Config) (files : FileSystem) : GrammarLibrary :=
  all.foldl (fun l e => l.registerSource e.1 (.value e.2)) { config := config, files := files }

/-- The stock keeps nothing and has the built-in definitions, each under its key. -/
theorem stock_spec (config : Config) (files : FileSystem) :
    (stock config files).config = config ∧ (stock config files).loaded = [] ∧
      (stock config files).sources = all.map fun e => (nameKey e.1, .value e.2) :=
  GrammarLibrary.foldl_registerSource rfl builtin_nodup

/-- What is registered in a new workspace. -/
theorem find?_stock {config : Config} {files : FileSystem} {key : String}
    {source : Source Definition} :
    (stock config files).sources.find? key = some source ↔
      ∃ e ∈ all, nameKey e.1 = key ∧ .value e.2 = source := by
  rw [(stock_spec config files).2.2]
  constructor
  · intro hfind
    obtain ⟨e, he, heq⟩ := List.mem_map.mp (Dict.mem_of_find? hfind)
    obtain ⟨hkey, hsource⟩ := Prod.mk.inj heq
    exact ⟨e, he, hkey, hsource⟩
  · rintro ⟨e, he, rfl, rfl⟩
    refine Dict.find?_of_mem ?_ (List.mem_map.mpr ⟨e, he, rfl⟩)
    rw [Dict.keys, List.map_map]
    exact builtin_nodup

/-- A built-in definition is registered under its name. -/
theorem registered?_stock {config : Config} {files : FileSystem} {e : String × Definition}
    (he : e ∈ all) : (stock config files).registered? (nameKey e.1) = some e.2 :=
  GrammarLibrary.registered?_eq_some_iff.mpr ⟨_, find?_stock.mpr ⟨e, he, rfl, rfl⟩, rfl⟩

theorem stock_named (config : Config) (files : FileSystem) : Named (stock config files) := by
  intro key d g _ hkept
  rw [(stock_spec config files).2.1] at hkept
  exact absurd hkept (by simp)

/-- Every built-in language can be loaded, in any configuration. -/
theorem stock_loads {config : Config} {files : FileSystem} {library : GrammarLibrary}
    (hframe : Frame (stock config files) library) {e : String × Definition} (he : e ∈ all) :
    ∃ g, (library.loadNamed e.1).1 = .ok g := by
  have hsource : ∀ {below : GrammarLibrary}, Frame (stock config files) below →
      ∀ {e : String × Definition} {name : String}, e ∈ all → nameKey name = nameKey e.1 →
        below.registered? (nameKey name) = some e.2 := by
    intro below hbelow e name he hname
    rw [hbelow.registered?, hname]
    exact registered?_stock he
  obtain ⟨declared, hdeclared, hkey⟩ := Option.map_eq_some_iff.mp (builtin_declared e he)
  have hroom : library.room = library.room - 2 + 1 + 1 := by
    unfold GrammarLibrary.room
    omega
  unfold GrammarLibrary.loadNamed
  rw [hroom]
  have hbegun : Frame (stock config files) { library with problems := [] } :=
    ⟨hframe.config, hframe.files, hframe.sources⟩
  refine GrammarLibrary.resolve_of_registered (hsource hbegun he rfl) hdeclared hkey
    List.not_mem_nil fun parent hparent below hbelow => ?_
  -- the parent has no parent, so the walk ends there
  obtain ⟨base, hbase, hup, hother, hroot⟩ := builtin_parent e he parent hparent
  obtain ⟨declared', hdeclared', hkey'⟩ := Option.map_eq_some_iff.mp (builtin_declared base hbase)
  refine GrammarLibrary.resolve_of_registered (hsource (hbegun.trans hbelow) hbase hup) hdeclared'
    (hkey'.trans hup.symm) ?_ fun parent' hparent' => ?_
  · rw [List.nil_append, List.mem_singleton, hup]
    exact hother
  · rw [hroot] at hparent'
    exact absurd hparent' (by simp)

/-- Cataloguing a built-in language enters it under its key. -/
theorem catalogue_builtin {config : Config} {files : FileSystem} {ws : Workspace}
    (hframe : Frame (stock config files) ws.grammars) (hnamed : Named ws.grammars)
    {e : String × Definition} (he : e ∈ all) :
    Frame (stock config files) (ws.catalogue e.1).2.grammars ∧
      Named (ws.catalogue e.1).2.grammars ∧
      ∃ name, e.2.declaredName? = some name ∧
        (ws.catalogue e.1).2.languages = ws.languages.set (nameKey e.1) name := by
  obtain ⟨g, hg⟩ := stock_loads hframe he
  have hsource : ws.grammars.registered? (nameKey e.1) = some e.2 := by
    rw [hframe.registered?]
    exact registered?_stock he
  have hname := hnamed.loadNamed_name hsource hg
  have hkey : nameKey g.name = nameKey e.1 := by
    have hdeclared := builtin_declared e he
    rw [hname] at hdeclared
    exact Option.some.inj hdeclared
  rw [catalogue_ok hg]
  refine ⟨hframe.trans (GrammarLibrary.loadNamed_frame _ _),
    GrammarLibrary.loadNamed_named hnamed _, g.name, hname, ?_⟩
  rw [← hkey, nameKey_declared hname]
  rfl

/-- Cataloguing some of the built-in languages enters them and changes no other. -/
theorem foldl_catalogue {config : Config} {files : FileSystem} {ws : Workspace}
    (hframe : Frame (stock config files) ws.grammars) (hnamed : Named ws.grammars)
    {definitions : List (String × Definition)} (hbuiltin : ∀ e ∈ definitions, e ∈ all)
    (hkeys : (definitions.map (nameKey ·.1)).Nodup) :
    let after := definitions.foldl (fun ws e => (ws.catalogue e.1).2) ws
    Frame (stock config files) after.grammars ∧ Named after.grammars ∧
      (∀ key ∉ definitions.map (nameKey ·.1),
        after.languages.find? key = ws.languages.find? key) ∧
      ∀ e ∈ definitions, after.languages.find? (nameKey e.1) = e.2.declaredName? := by
  induction definitions generalizing ws with
  | nil => exact ⟨hframe, hnamed, fun _ _ => rfl, fun _ he => absurd he List.not_mem_nil⟩
  | cons e rest ih =>
    rw [List.map_cons, List.nodup_cons] at hkeys
    obtain ⟨hframe', hnamed', name, hname, hset⟩ :=
      catalogue_builtin hframe hnamed (hbuiltin e (List.mem_cons_self ..))
    -- the later ones have other keys, so what the first has entered stays
    obtain ⟨hframe'', hnamed'', hothers, hentered⟩ := ih hframe' hnamed'
      (fun e' he' => hbuiltin e' (List.mem_cons_of_mem _ he')) hkeys.2
    refine ⟨hframe'', hnamed'', fun key hkey => ?_, fun e' he' => ?_⟩
    · rw [List.map_cons, List.mem_cons, not_or] at hkey
      exact (hothers key hkey.2).trans (by rw [hset, Dict.find?_set_of_ne (Ne.symm hkey.1)])
    · rcases List.mem_cons.mp he' with rfl | he'
      · exact (hothers _ hkeys.1).trans (by rw [hset, Dict.find?_set_self, hname])
      · exact hentered e' he'

/-- A new workspace before the built-in languages are entered. -/
def unlisted (config : Config) (files : FileSystem) : Workspace :=
  let themes := ThemeLibrary.registerSource { config := config, files := files }
    Sheet.Builtin.name (.value Sheet.Builtin.sheet)
  { grammars := stock config files
    themes := themes
    defaultTheme := (themes.loadNamed Sheet.Builtin.name).toOption.getD themes.base }

theorem new_eq (config : Config) (files : FileSystem) :
    new config files = all.foldl (fun ws e => (ws.catalogue e.1).2) (unlisted config files) := rfl

/-- What cataloguing keeps up holds of a new workspace, if it holds before the built-in languages
    are entered. -/
theorem new_induction {P : Workspace → Prop} (config : Config) (files : FileSystem)
    (hunlisted : P (unlisted config files))
    (hcatalogue : ∀ ws name, P ws → P (ws.catalogue name).2) : P (new config files) := by
  rw [new_eq]
  exact List.foldlRecOn all _ hunlisted fun ws h e _ => hcatalogue ws e.1 h

/-- **A new workspace has the built-in definitions, and lists their languages.** -/
theorem new_spec (config : Config) (files : FileSystem) :
    Frame (stock config files) (new config files).grammars ∧ Named (new config files).grammars ∧
      ∀ e ∈ all, (new config files).languages.find? (nameKey e.1) = e.2.declaredName? := by
  have hframe : Frame (stock config files) (unlisted config files).grammars := .refl _
  obtain ⟨hframe', hnamed, -, hentered⟩ :=
    foldl_catalogue hframe (stock_named config files) (fun _ he => he) builtin_nodup
  rw [new_eq]
  exact ⟨hframe', hnamed, hentered⟩

/-- In a new workspace what is registered is listed. -/
theorem new_listed (config : Config) (files : FileSystem) : Listed (new config files) := by
  obtain ⟨hframe, hnamed, hentered⟩ := new_spec config files
  refine ⟨hnamed, fun key hkey => ?_⟩
  obtain ⟨source, hsource⟩ := Option.isSome_iff_exists.mp hkey
  rw [hframe.sources] at hsource
  obtain ⟨e, he, rfl, -⟩ := find?_stock.mp hsource
  obtain ⟨name, hname, -⟩ := Option.map_eq_some_iff.mp (builtin_declared e he)
  rw [hentered e he, hname]
  rfl

end New

end Workspace

end Highlight
