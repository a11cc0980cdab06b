/-
  The languages of a workspace.

  A language is only catalogued once its grammar has been loaded, and from then on nothing changes
  this grammar.

  1. **What is listed has a line** — without directories every language in the catalogue has a line
     of definitions that ends in its name (`Orderly`).  A language is added under a free name, so
     the lines of the others are the same as before (`perform_orderly`).

  2. **The languages** — what a language is loaded from is its line, so its grammar stays.

  Main result: **`run_keeps_languages`**.
-/
import Highlight.Proofs.Workspace.Growth

namespace Highlight

namespace Workspace

open GrammarLibrary (Frame InOrder Lineage)

/-! ## What is listed has a line

  Without directories a line depends on what is registered only.  Registering another definition
  under a free name leaves all lines as they were, and a failed call leaves nothing registered that
  had not been there. -/

/-- Without directories every language in the catalogue is filed under its name in small letters,
    and has a line of definitions that gives a grammar of this name. -/
structure Orderly (ws : Workspace) : Prop where
  inOrder : InOrder ws.grammars
  keys : ws.languages.keys.Nodup
  lines : ∀ key name, ws.languages.find? key = some name → Unicode.lowercase name = key ∧
    ∃ line, Lineage ws.grammars name line ∧
      (GrammarLibrary.layered ws.grammars.config.limits line).name = name

section Orderly

variable {ws after : Workspace}

/-- What is registered for a language declares its name. -/
theorem register_wellNamed {text name : String} {d : Definition}
    (hparse : Definition.parse? text = some d) (hname : d.declaredName? = some name) :
    (GrammarLibrary.Call.register name text).WellNamed := by
  intro declared hdeclared
  rw [hparse] at hdeclared
  exact congrArg nameKey (Option.some.inj (hdeclared.symm.trans hname))

/-- **Events leave the definitions in order.** -/
theorem perform_inOrder (h : InOrder ws.grammars) (event : Event) :
    InOrder (event.perform ws).grammars := by
  rcases perform_cases ws event with ⟨text, heq⟩ | hconsults
  · rw [heq]
    rcases addLanguage_cases ws text with ⟨e, hadd⟩ | ⟨name, d, hparse, hname, -, hcase⟩
    · rw [hadd]
      exact h
    · have hregistered : InOrder (ws.grammars.register name text) :=
        h.register (register_wellNamed hparse hname)
      have hloaded : InOrder ((ws.grammars.register name text).loadNamed name).2 :=
        hregistered.loadNamed name
      rcases hcase with ⟨e, -, hadd⟩ | ⟨g, -, hadd⟩
      · rw [hadd]
        exact hloaded.forget name
      · rw [hadd]
        exact hloaded
  · rcases hconsults.library with heq | ⟨name, heq⟩ | ⟨files, heq⟩
    · rw [heq]
      exact h
    · rw [heq]
      exact h.loadNamed name
    · rw [heq]
      exact h.filesChange files

theorem run_inOrder (h : InOrder ws.grammars) (events : List Event) :
    InOrder (ws.run events).grammars := by
  induction events generalizing ws with
  | nil => exact h
  | cons event events ih => exact ih (perform_inOrder h event)

/-- The catalogue stays orderly while definitions are at most added. -/
theorem Orderly.mono (h : Orderly ws) (hlanguages : after.languages = ws.languages)
    (hconfig : after.grammars.config = ws.grammars.config)
    (hsources : ∀ key source, ws.grammars.sources.find? key = some source →
      after.grammars.sources.find? key = some source)
    (hinOrder : InOrder after.grammars) : Orderly after := by
  refine ⟨hinOrder, ?_, fun key name hname => ?_⟩
  · rw [hlanguages]
    exact h.keys
  · rw [hlanguages] at hname
    obtain ⟨hkey, line, hline, hlayered⟩ := h.lines key name hname
    refine ⟨hkey, line, hline.mono h.inOrder.dirs hsources, ?_⟩
    rw [hconfig]
    exact hlayered

/-- A grammar that is loaded has a line under the name that it bears. -/
theorem line_of_loaded {library : GrammarLibrary} (h : InOrder library) {name : String}
    {g : Grammar} (hload : (library.loadNamed name).1 = .ok g) :
    ∃ line, Lineage (library.loadNamed name).2 g.name line ∧
      GrammarLibrary.layered (library.loadNamed name).2.config.limits line = g := by
  have hframe := GrammarLibrary.loadNamed_frame library name
  have hbegun : Frame library { library with problems := [] } := ⟨rfl, rfl, rfl⟩
  obtain ⟨line, hline, rfl⟩ :=
    GrammarLibrary.resolve_line (h.kept.traced.frame hbegun rfl) hload
  have hline := hbegun.symm.lineage hline
  have hfirst : ∃ key d rest, line = (key, d) :: rest := by
    cases hline with
    | root => exact ⟨_, _, _, rfl⟩
    | derived => exact ⟨_, _, _, rfl⟩
  obtain ⟨key, d, rest, rfl⟩ := hfirst
  obtain ⟨-, hfind, hdeclared, -⟩ := hline.uncons
  obtain ⟨declared, hdeclared⟩ := Option.isSome_iff_exists.mp hdeclared
  have hname : (GrammarLibrary.layered library.config.limits ((key, d) :: rest)).name
      = declared := by
    show d.declaredName?.getD "" = declared
    rw [hdeclared]
    rfl
  -- the definition declares the name under which it is filed
  have hkey : nameKey declared = nameKey name :=
    h.filed _ d ((GrammarLibrary.find_eq_ok_iff h.dirs).mp hfind) declared hdeclared
  rw [hname, hframe.config]
  exact ⟨_, hframe.lineage (hline.respell h.dirs hkey), rfl⟩

/-- Loading a grammar leaves the catalogue orderly. -/
theorem loaded_orderly (h : Orderly ws) (name : String) :
    Orderly { ws with grammars := (ws.grammars.loadNamed name).2 } := by
  have hframe := GrammarLibrary.loadNamed_frame ws.grammars name
  refine h.mono rfl hframe.config (fun key source hs => ?_) ?_
  · show (ws.grammars.loadNamed name).2.sources.find? key = some source
    rw [hframe.sources]
    exact hs
  · exact h.inOrder.loadNamed name

/-- A grammar with a line may be entered. -/
theorem Orderly.enter (h : Orderly ws) {g : Grammar}
    (hline : ∃ line, Lineage ws.grammars g.name line ∧
      GrammarLibrary.layered ws.grammars.config.limits line = g) :
    Orderly (enter ws g) := by
  refine ⟨h.inOrder, Dict.nodup_keys_set h.keys, fun key name hname => ?_⟩
  change (ws.languages.set (Unicode.lowercase g.name) g.name).find? key = some name at hname
  by_cases hkey : Unicode.lowercase g.name = key
  · rw [hkey, Dict.find?_set_self] at hname
    obtain rfl := Option.some.inj hname
    obtain ⟨line, hline, hlayered⟩ := hline
    exact ⟨hkey, line, hline, congrArg Grammar.name hlayered⟩
  · rw [Dict.find?_set_of_ne hkey] at hname
    exact h.lines key name hname

theorem catalogue_orderly (h : Orderly ws) (name : String) : Orderly (ws.catalogue name).2 := by
  rcases hload : (ws.grammars.loadNamed name).1 with e | g
  · rw [catalogue_error hload]
    exact loaded_orderly h name
  · rw [catalogue_ok hload]
    exact (loaded_orderly h name).enter (line_of_loaded h.inOrder hload)

/-- **Events leave the catalogue orderly.** -/
theorem perform_orderly (h : Orderly ws) (hlisted : Listed ws) (event : Event) :
    Orderly (event.perform ws) := by
  have hinOrder := perform_inOrder h.inOrder event
  have hgrows := perform_grows hlisted event
  have hkept : (event.perform ws).languages = ws.languages → Orderly (event.perform ws) :=
    fun hlanguages => h.mono hlanguages hgrows.config hgrows.sources hinOrder
  rcases perform_cases ws event with ⟨text, heq⟩ | hconsults
  · rcases addLanguage_cases ws text with ⟨e, hadd⟩ | ⟨name, d, hparse, hname, hnew, hcase⟩
    · exact hkept (by rw [heq, hadd])
    · rcases hcase with ⟨e, hload, hadd⟩ | ⟨g, hload, hadd⟩
      · exact hkept (by rw [heq, hadd])
      · -- the definition is registered under a free name, and then the language is catalogued
        have hregistered : Orderly { ws with grammars := ws.grammars.register name text } := by
          refine h.mono rfl rfl (fun key source hs => ?_)
            (h.inOrder.register (register_wellNamed hparse hname))
          have hne : nameKey name ≠ key := by
            rintro rfl
            have hfree := hlisted.free (nameKey_declared hname ▸ hnew)
            exact absurd (hfree.symm.trans hs) (by simp)
          exact (Dict.find?_set_of_ne hne ..).trans hs
        rw [heq, hadd]
        exact (loaded_orderly hregistered name).enter (line_of_loaded hregistered.inOrder hload)
  · exact hkept hconsults.languages

/-- Events keep a workspace orderly, by induction on them. -/
theorem run_orderly (h : Orderly ws) (hlisted : Listed ws) (events : List Event) :
    Orderly (ws.run events) := by
  induction events generalizing ws with
  | nil => exact h
  | cons event events ih =>
    exact ih (perform_orderly h hlisted event) (perform_listed hlisted event)

theorem stock_inOrder {config : Config} (hdirs : config.grammarDirs = []) (files : FileSystem) :
    InOrder (stock config files) := by
  obtain ⟨hconfig, hloaded, -⟩ := stock_spec config files
  refine ⟨by rw [hconfig]; exact hdirs, fun key d hfind declared hdeclared => ?_,
    GrammarLibrary.kept_of_empty hloaded⟩
  obtain ⟨source, hsource, hread⟩ := GrammarLibrary.registered?_eq_some_iff.mp hfind
  obtain ⟨e, he, rfl, rfl⟩ := find?_stock.mp hsource
  obtain rfl := Except.ok.inj hread
  have hname := builtin_declared e he
  rw [hdeclared] at hname
  exact Option.some.inj hname

/-- A new workspace is orderly: every built-in definition has a line in the stock. -/
theorem new_orderly {config : Config} (hdirs : config.grammarDirs = []) (files : FileSystem) :
    Orderly (new config files) := by
  have hunlisted : Orderly (unlisted config files) := by
    refine ⟨stock_inOrder hdirs files, List.nodup_nil, fun key name hname => ?_⟩
    exact absurd hname (by simp [unlisted])
  exact new_induction config files hunlisted fun _ name h => catalogue_orderly h name

end Orderly

/-! ## The languages

  What has just been shown holds after any run, so it is read off there for what the workspace
  shows. -/

section Languages

variable {ws after : Workspace}

theorem mem_listLanguages {language : String} :
    language ∈ ws.listLanguages ↔ ∃ key, (key, language) ∈ ws.languages := by
  unfold listLanguages
  rw [List.mem_mergeSort, List.mem_map]
  constructor
  · rintro ⟨⟨key, name⟩, hmem, rfl⟩
    exact ⟨key, hmem⟩
  · rintro ⟨key, hmem⟩
    exact ⟨(key, language), hmem, rfl⟩

/-- A language is listed if it is found in the catalogue. -/
theorem mem_listLanguages_of_find? {key language : String}
    (h : ws.languages.find? key = some language) : language ∈ ws.listLanguages :=
  mem_listLanguages.mpr ⟨key, Dict.mem_of_find? h⟩

/-- A grammar that is loaded is in the snapshot. -/
theorem snapshot_of_loaded {language : String} {g : Grammar}
    (h : (ws.grammars.loadNamed language).1 = .ok g) :
    ∃ theme, (ws.snapshot language).1 = .ok (g, theme) := by
  rw [snapshot_ok h]
  exact ⟨_, rfl⟩

/-- A listed language has a grammar of its name, now and whenever the workspace has grown. -/
theorem Orderly.keeps (h : Orderly ws) (hafter : Orderly after) (hgrows : Grows ws after)
    {language : String} (hlanguage : language ∈ ws.listLanguages) :
    ∃ g, g.name = language ∧ (∃ theme, (ws.snapshot language).1 = .ok (g, theme)) ∧
      language ∈ after.listLanguages ∧ ∃ theme, (after.snapshot language).1 = .ok (g, theme) := by
  obtain ⟨key, hmem⟩ := mem_listLanguages.mp hlanguage
  have hfind := Dict.find?_of_mem h.keys hmem
  obtain ⟨-, line, hline, hname⟩ := h.lines key language hfind
  have hline' := hline.mono h.inOrder.dirs hgrows.sources
  have hload := h.inOrder.loadNamed_of_lineage hline
  have hload' := hafter.inOrder.loadNamed_of_lineage hline'
  rw [hgrows.config] at hload'
  exact ⟨_, hname, snapshot_of_loaded hload,
    mem_listLanguages_of_find? (hgrows.languages key language hfind), snapshot_of_loaded hload'⟩

/-- No two listed languages are the same but for case. -/
theorem Orderly.nodup_listLanguages (h : Orderly ws) :
    (ws.listLanguages.map Unicode.lowercase).Nodup := by
  have hperm : (ws.listLanguages.map Unicode.lowercase).Perm
      ((ws.languages.map (·.2)).map Unicode.lowercase) := (List.mergeSort_perm ..).map _
  have hkeys : (ws.languages.map (·.2)).map Unicode.lowercase = ws.languages.keys := by
    rw [List.map_map]
    refine List.map_congr_left fun e he => ?_
    exact (h.lines e.1 e.2 (Dict.find?_of_mem h.keys he)).1
  rw [hperm.nodup_iff, hkeys]
  exact h.keys

/-- The built-in languages are always listed. -/
theorem run_lists_builtin (config : Config) (files : FileSystem) (events : List Event)
    {e : String × Definition} (he : e ∈ Grammar.Builtin.all) {name : String}
    (hname : e.2.declaredName? = some name) :
    name ∈ ((new config files).run events).listLanguages := by
  have hgrows := run_grows (new_listed config files) events
  have hentered := (new_spec config files).2.2 e he
  rw [hname] at hentered
  exact mem_listLanguages_of_find? (hgrows.languages _ _ hentered)

/-- A built-in language without a parent is always loaded from its own definition. -/
theorem run_snapshot_builtin {config : Config} (hdirs : config.grammarDirs = []) (files : FileSystem)
    (events : List Event) {e : String × Definition} (he : e ∈ Grammar.Builtin.all)
    (hroot : e.2.parent = none) {name : String} (hname : nameKey name = nameKey e.1) :
    ∃ g theme, (((new config files).run events).snapshot name).1 = .ok (g, theme) ∧
      g.style = e.2.style := by
  have hgrows := run_grows (new_listed config files) events
  have horderly := run_orderly (new_orderly hdirs files) (new_listed config files) events
  have hsource : (new config files).grammars.registered? (nameKey name) = some e.2 := by
    rw [(new_spec config files).1.registered?, hname]
    exact registered?_stock he
  obtain ⟨declared, hdeclared, -⟩ := Option.map_eq_some_iff.mp (builtin_declared e he)
  have hline : Lineage ((new config files).run events).grammars name [(nameKey name, e.2)] :=
    .root (GrammarLibrary.find_of_registered
      (GrammarLibrary.registered?_mono (hgrows.sources _) hsource)) (by rw [hdeclared]; rfl) hroot
  obtain ⟨theme, hsnapshot⟩ := snapshot_of_loaded (horderly.inOrder.loadNamed_of_lineage hline)
  refine ⟨_, theme, hsnapshot, ?_⟩
  show e.2.style.or none = e.2.style
  exact Option.or_none

/-- **What is listed stays as it is.**  After any events, failed calls included, every language that
    is listed has a snapshot, with a grammar that bears its name; after any further events it is
    still listed, and its snapshot has the same grammar.  No two languages differ only in case. -/
theorem run_keeps_languages {config : Config} (hdirs : config.grammarDirs = []) (files : FileSystem)
    (events later : List Event) :
    let ws := (new config files).run events
    (∀ language ∈ ws.listLanguages, ∃ g, g.name = language ∧
        (∃ theme, (ws.snapshot language).1 = .ok (g, theme)) ∧
        language ∈ (ws.run later).listLanguages ∧
        ∃ theme, ((ws.run later).snapshot language).1 = .ok (g, theme)) ∧
      (ws.listLanguages.map Unicode.lowercase).Nodup := by
  intro ws
  have hlisted : Listed ws := run_listed (new_listed config files) events
  have horderly : Orderly ws :=
    run_orderly (new_orderly hdirs files) (new_listed config files) events
  have hlater : Orderly (ws.run later) := run_orderly horderly hlisted later
  refine ⟨fun language hlanguage => ?_, horderly.nodup_listLanguages⟩
  exact horderly.keeps hlater (run_grows hlisted later) hlanguage

/-- A built-in language, behind a language derived from it, one that would take its name, and one
    whose parent is not there. -/
theorem run_keeps_languages_builtin :
    let ws := (new {} {}).run [.addLanguage "name='x'\nuse='Rust'"]
    let later : List Event := [.addLanguage "name='RUST'", .addLanguage "name='y'\nuse='z'"]
    ({} : Config).grammarDirs = [] ∧ "Rust" ∈ ws.listLanguages ∧
      ∃ g, g.name = "Rust" ∧ (∃ theme, (ws.snapshot "Rust").1 = .ok (g, theme)) ∧
        "Rust" ∈ (ws.run later).listLanguages ∧
        ∃ theme, ((ws.run later).snapshot "Rust").1 = .ok (g, theme) := by
  intro ws later
  have hdirs : ({} : Config).grammarDirs = [] := rfl
  have hname : Grammar.Builtin.rust.declaredName? = some "Rust" := by decide +kernel
  have hlisted : "Rust" ∈ ws.listLanguages :=
    run_lists_builtin {} {} _ (e := ("rust", Grammar.Builtin.rust)) (by simp [Grammar.Builtin.all])
      hname
  exact ⟨hdirs, hlisted, (run_keeps_languages hdirs {} _ later).1 "Rust" hlisted⟩

end Languages

end Workspace

end Highlight
