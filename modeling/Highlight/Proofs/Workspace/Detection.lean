/-
  Which language a file is in.

  A workspace has two dictionaries, of languages and of extensions, and forgets how they came about.
  To say which language an extension belongs to we write down what is entered in the catalogue, and
  when.

  1. **Entries** — an `Entry` is a language with its declared name and the grammar that was entered
     for it.  `entriesOf` lists those of the built-in languages and of all events that have added
     one, in order.

  2. **Records** — both dictionaries can be read off the entries (`Records`): every entry is listed,
     and the last one to claim an extension has it.  It suffices to see what one more entry does
     (`Records.enter`).

  3. **Detection** — so files go to the language that was catalogued last for their extension.

  4. **What the grammar says** — a grammar goes by the case of ASCII letters alone, and detection by
     that of all letters.  For ASCII extensions that is the same.  In `detects_unhandled` a file is
     detected as a language whose grammar does not claim it.

  Main results: `run_detects_last`, `run_detects_handled`.
-/
import Highlight.Proofs.Library.Spelling
import Highlight.Proofs.Paths
import Highlight.Proofs.Workspace.Catalogue

namespace Highlight

namespace Workspace

open GrammarLibrary (Frame InOrder Lineage Named)
open Grammar.Builtin (all)

/-! ## Entries

  What an event enters is said by looking at what it answers and at the grammar loaded in it, not at
  the dictionaries that it changes. -/

/-- What is entered in the catalogue: the name that a language declares, and its grammar. -/
structure Entry where
  name : String
  grammar : Grammar

/-- Whether one of the extensions of an entry has this lowercase form. -/
def Entry.claims (key : String) (entry : Entry) : Bool :=
  entry.grammar.extensions.any fun e => Unicode.lowercase e = key

/-- What adding the language of a text enters: nothing if that fails. -/
def entryOf (ws : Workspace) (text : String) : Option Entry :=
  match GrammarLibrary.declaredName text, (ws.addLanguage text).1 with
  | .ok name, .ok () =>
    ((ws.grammars.register name text).loadNamed name).1.toOption.map (Entry.mk name)
  | _, _ => none

/-- What an event enters. -/
def Event.entry? (ws : Workspace) (event : Event) : Option Entry :=
  (event.text? ws).bind ws.entryOf

/-- What some events enter, in order. -/
def entered (ws : Workspace) : List Event → List Entry
  | [] => []
  | event :: events => (event.entry? ws).toList ++ (event.perform ws).entered events

/-- What cataloguing definitions enters, in order. -/
def catalogued (ws : Workspace) : List (String × Definition) → List Entry
  | [] => []
  | (name, d) :: rest =>
    ((ws.grammars.loadNamed name).1.toOption.map (Entry.mk (d.declaredName?.getD ""))).toList ++
      (ws.catalogue name).2.catalogued rest

/-- All that has been entered after some events: the built-in languages, and then those that have
    been added. -/
def entriesOf (config : Config) (files : FileSystem) (events : List Event) : List Entry :=
  (unlisted config files).catalogued all ++ (new config files).entered events

/-- The name of the last entry that claims an extension with this lowercase form. -/
def lastClaim (entries : List Entry) (key : String) : Option String :=
  ((entries.filter (Entry.claims key)).getLast?).map (·.name)

/-! ## Records

  The dictionary of extensions forgets who had an extension before; the entries do not.  So the one
  can be read off the other, but not the other way round. -/

/-- The catalogue has been made of these entries. -/
structure Records (ws : Workspace) (entries : List Entry) : Prop where
  languages : ws.languages = entries.map fun e => (Unicode.lowercase e.name, e.name)
  extensions : ∀ key, ws.extensions.find? key = lastClaim entries key

section Records

variable {ws after : Workspace} {entries : List Entry} {name key : String} {g : Grammar}

/-- One more entry takes the extensions that it claims. -/
theorem lastClaim_append (entry : Entry) :
    lastClaim (entries ++ [entry]) key
      = if entry.claims key then some entry.name else lastClaim entries key := by
  unfold lastClaim
  rw [List.filter_append, List.filter_singleton]
  cases hclaims : entry.claims key with
  | true => simp
  | false => simp

/-- Setting the extensions of a grammar, one after the other. -/
theorem find?_foldl_set (extensions : List String) (taken : Dict String String) :
    (extensions.foldl (fun m e => m.set (Unicode.lowercase e) name) taken).find? key
      = if extensions.any (Unicode.lowercase · = key) then some name else taken.find? key := by
  induction extensions generalizing taken with
  | nil => rfl
  | cons e rest ih =>
    rw [List.foldl_cons, ih, List.any_cons]
    by_cases hrest : rest.any (Unicode.lowercase · = key)
    · simp [hrest]
    · by_cases he : Unicode.lowercase e = key
      · simp [hrest, he]
      · simp [hrest, he, Dict.find?_set_of_ne he]

/-- A language that is not listed is entered behind the others. -/
theorem Records.enter (h : Records ws entries) (hname : g.name = name)
    (hnew : ws.languages.find? (Unicode.lowercase name) = none) :
    Records (enter ws g) (entries ++ [⟨name, g⟩]) := by
  subst hname
  constructor
  case languages =>
    show ws.languages.set (Unicode.lowercase g.name) g.name = _
    rw [Dict.set_of_none hnew, h.languages, List.map_append, List.map_singleton]
  case extensions =>
    intro key
    show Dict.find? key (g.extensions.foldl _ ws.extensions) = _
    rw [find?_foldl_set, lastClaim_append, h.extensions]
    rfl

/-- What does not touch the catalogue leaves its entries. -/
theorem Records.congr (h : Records ws entries) (hlanguages : after.languages = ws.languages)
    (hextensions : after.extensions = ws.extensions) : Records after entries :=
  ⟨hlanguages.trans h.languages, fun key => by rw [hextensions]; exact h.extensions key⟩

/-- The listed languages are those that have been entered. -/
theorem Records.mem_listLanguages (h : Records ws entries) {language : String} :
    language ∈ ws.listLanguages ↔ ∃ e ∈ entries, e.name = language := by
  rw [Workspace.mem_listLanguages, h.languages]
  constructor
  · rintro ⟨key, hmem⟩
    obtain ⟨e, he, heq⟩ := List.mem_map.mp hmem
    exact ⟨e, he, (Prod.mk.inj heq).2⟩
  · rintro ⟨e, he, rfl⟩
    exact ⟨_, List.mem_map.mpr ⟨e, he, rfl⟩⟩

/-- An event that enters nothing leaves the catalogue as it was; otherwise the language is new, and
    the grammar of this name has just been loaded. -/
theorem addLanguage_entry (hlisted : Listed ws) (text : String) :
    (ws.entryOf text = none ∧ (ws.addLanguage text).2.languages = ws.languages ∧
        (ws.addLanguage text).2.extensions = ws.extensions) ∨
      ∃ entry, ws.entryOf text = some entry ∧
        GrammarLibrary.declaredName text = .ok entry.name ∧ entry.grammar.name = entry.name ∧
        ws.languages.find? (Unicode.lowercase entry.name) = none ∧
        ((ws.grammars.register entry.name text).loadNamed entry.name).1 = .ok entry.grammar ∧
        (ws.addLanguage text).2 = enter { ws with
          grammars := ((ws.grammars.register entry.name text).loadNamed entry.name).2 }
          entry.grammar := by
  unfold entryOf
  rcases addLanguage_cases ws text with ⟨e, hadd⟩ | ⟨name, d, hparse, hname, hnew, hcase⟩
  · -- there is no name, or the language is listed already
    left
    rw [hadd]
    refine ⟨?_, rfl, rfl⟩
    cases GrammarLibrary.declaredName text with
    | error e => rfl
    | ok name => rfl
  · have hdeclared := declaredName_eq_ok_iff.mpr ⟨d, hparse, hname⟩
    rw [hdeclared]
    rcases hcase with ⟨e, hload, hadd⟩ | ⟨g, hload, hadd⟩
    · left
      rw [hadd]
      exact ⟨rfl, rfl, rfl⟩
    · right
      rw [hadd]
      have hnamed := name_of_register hlisted hparse hname hload
      refine ⟨⟨name, g⟩, ?_, rfl, hnamed, hnew, hload, rfl⟩
      simp only [hload, Except.toOption, Option.map_some]

/-- **An event adds to the records what it enters.** -/
theorem perform_records (hlisted : Listed ws) (h : Records ws entries) (event : Event) :
    Records (event.perform ws) (entries ++ (event.entry? ws).toList) := by
  unfold Event.entry?
  cases htext : event.text? ws with
  | none =>
    have hconsults := consults_of_text? htext
    rw [Option.bind_none, Option.toList_none, List.append_nil]
    exact h.congr hconsults.languages hconsults.extensions
  | some text =>
    rw [perform_of_text? htext, Option.bind_some]
    rcases addLanguage_entry hlisted text with
      ⟨hnone, hlanguages, hextensions⟩ | ⟨entry, hentry, -, hname, hnew, -, hadd⟩
    · rw [hnone, Option.toList_none, List.append_nil]
      exact h.congr hlanguages hextensions
    · have hloaded : Records { ws with
          grammars := ((ws.grammars.register entry.name text).loadNamed entry.name).2 } entries :=
        h.congr rfl rfl
      rw [hentry, hadd, Option.toList_some]
      exact hloaded.enter hname hnew

theorem run_records (hlisted : Listed ws) (h : Records ws entries) (events : List Event) :
    Records (ws.run events) (entries ++ ws.entered events) := by
  induction events generalizing ws entries with
  | nil =>
    rw [entered, List.append_nil]
    exact h
  | cons event events ih =>
    rw [entered, ← List.append_assoc]
    exact ih (perform_listed hlisted event) (perform_records hlisted h event)

/-- Cataloguing a built-in language that is not listed yet enters it under the name it declares. -/
theorem catalogue_entry {config : Config} {files : FileSystem}
    (hframe : Frame (stock config files) ws.grammars) (hnamed : Named ws.grammars)
    {e : String × Definition} (he : e ∈ all) :
    ∃ g, (ws.grammars.loadNamed e.1).1 = .ok g ∧ e.2.declaredName? = some g.name ∧
      Unicode.lowercase g.name = nameKey e.1 ∧
      (ws.catalogue e.1).2 = enter { ws with grammars := (ws.grammars.loadNamed e.1).2 } g := by
  obtain ⟨g, hg⟩ := stock_loads hframe he
  have hsource : ws.grammars.registered? (nameKey e.1) = some e.2 := by
    rw [hframe.registered?]
    exact registered?_stock he
  have hname := hnamed.loadNamed_name hsource hg
  have hkey := builtin_declared e he
  rw [hname, Option.map_some, Option.some.injEq, nameKey_declared hname] at hkey
  exact ⟨g, hg, hname, hkey, by rw [catalogue_ok hg]⟩

section Catalogued

variable {config : Config} {files : FileSystem} {P : Workspace → List Entry → Prop}

/-- What stays true whenever a built-in language is entered that is not listed stays true while some
    of them are catalogued. -/
theorem catalogued_induction
    (hstep : ∀ (ws : Workspace) (entries : List Entry) (key : String) (g : Grammar),
      P ws entries → Frame (stock config files) ws.grammars →
      (ws.grammars.loadNamed key).1 = .ok g →
      ws.languages.find? (Unicode.lowercase g.name) = none →
      P (enter { ws with grammars := (ws.grammars.loadNamed key).2 } g) (entries ++ [⟨g.name, g⟩]))
    (definitions : List (String × Definition)) (hbuiltin : ∀ e ∈ definitions, e ∈ all)
    (hkeys : (definitions.map (nameKey ·.1)).Nodup)
    (hnew : ∀ e ∈ definitions, ws.languages.find? (nameKey e.1) = none)
    (hframe : Frame (stock config files) ws.grammars) (hnamed : Named ws.grammars)
    (h : P ws entries) :
    P (definitions.foldl (fun ws e => (ws.catalogue e.1).2) ws)
      (entries ++ ws.catalogued definitions) := by
  induction definitions generalizing ws entries with
  | nil =>
    rw [catalogued, List.append_nil]
    exact h
  | cons e rest ih =>
    obtain ⟨he, hrest⟩ := List.forall_mem_cons.mp hbuiltin
    obtain ⟨hnew, hothers⟩ := List.forall_mem_cons.mp hnew
    rw [List.map_cons, List.nodup_cons] at hkeys
    obtain ⟨g, hg, hname, hkey, hcatalogue⟩ := catalogue_entry hframe hnamed he
    have hcatalogued : ws.catalogued (e :: rest)
        = [⟨g.name, g⟩] ++ (ws.catalogue e.1).2.catalogued rest := by
      rw [catalogued, hg, hname]
      rfl
    have hentered := hstep ws entries e.1 g h hframe hg (by rw [hkey]; exact hnew)
    rw [hcatalogued, ← List.append_assoc, List.foldl_cons]
    rw [← hcatalogue] at hentered
    apply ih hrest hkeys.2
    · -- the languages to come are still not listed
      intro e' he'
      have hne : Unicode.lowercase g.name ≠ nameKey e'.1 := by
        rw [hkey]
        exact fun heq => hkeys.1 (List.mem_map.mpr ⟨e', he', heq.symm⟩)
      rw [hcatalogue]
      exact (Dict.find?_set_of_ne hne ..).trans (hothers e' he')
    · rw [hcatalogue]
      exact hframe.trans (GrammarLibrary.loadNamed_frame _ _)
    · rw [hcatalogue]
      exact GrammarLibrary.loadNamed_named hnamed _
    · exact hentered

/-- So it is true of a new workspace, if it was before the built-in languages were entered. -/
theorem new_entries_induction
    (hstep : ∀ (ws : Workspace) (entries : List Entry) (key : String) (g : Grammar),
      P ws entries → Frame (stock config files) ws.grammars →
      (ws.grammars.loadNamed key).1 = .ok g →
      ws.languages.find? (Unicode.lowercase g.name) = none →
      P (enter { ws with grammars := (ws.grammars.loadNamed key).2 } g) (entries ++ [⟨g.name, g⟩]))
    (hstart : P (unlisted config files) []) :
    P (new config files) ((unlisted config files).catalogued all) := by
  have hnone : ∀ e ∈ all, (unlisted config files).languages.find? (nameKey e.1) = none :=
    fun _ _ => rfl
  have hend := catalogued_induction hstep all (fun _ he => he) builtin_nodup hnone (.refl _)
    (stock_named config files) hstart
  rw [List.nil_append, ← new_eq] at hend
  exact hend

end Catalogued

/-- **The records of a new workspace.** -/
theorem new_records (config : Config) (files : FileSystem) :
    Records (new config files) ((unlisted config files).catalogued all) := by
  refine new_entries_induction (fun ws entries key g h _ _ hnew => ?_) ⟨rfl, fun _ => rfl⟩
  have hloaded : Records { ws with grammars := (ws.grammars.loadNamed key).2 } entries :=
    h.congr rfl rfl
  exact hloaded.enter rfl hnew

end Records

/-! ## Detection

  From the dictionaries to what the workspace answers about a file. -/

section Detection

variable {ws : Workspace} {entries : List Entry} {name key : String}

/-- The last claim is one of an entry. -/
theorem exists_of_lastClaim (h : lastClaim entries key = some name) :
    ∃ entry ∈ entries, entry.claims key = true ∧ entry.name = name := by
  obtain ⟨entry, hlast, rfl⟩ := Option.map_eq_some_iff.mp h
  obtain ⟨hmem, hclaims⟩ := List.mem_filter.mp (List.mem_of_getLast? hlast)
  exact ⟨entry, hmem, hclaims, rfl⟩

/-- An entry claims what one of its extensions is up to case. -/
theorem exists_of_claims {entry : Entry} (h : entry.claims key = true) :
    ∃ claimed ∈ entry.grammar.extensions, Unicode.lowercase claimed = key := by
  obtain ⟨claimed, hmem, hkey⟩ := List.any_eq_true.mp h
  exact ⟨claimed, hmem, of_decide_eq_true hkey⟩

/-- Where an entry claims an extension there is a last claim. -/
theorem exists_lastClaim {entry : Entry} (hmem : entry ∈ entries)
    (hclaims : entry.claims key = true) : ∃ name, lastClaim entries key = some name := by
  have hfilter : entries.filter (Entry.claims key) ≠ [] :=
    List.ne_nil_of_mem (List.mem_filter.mpr ⟨hmem, hclaims⟩)
  refine ⟨((entries.filter (Entry.claims key)).getLast hfilter).name, ?_⟩
  rw [lastClaim, List.getLast?_eq_some_getLast hfilter, Option.map_some]

/-- A file has the language that was the last one to claim its extension. -/
theorem Records.detectLanguage_eq (h : Records ws entries) (path : String) :
    ws.detectLanguage path
      = (Path.extension? path).bind fun e => lastClaim entries (Unicode.lowercase e) := by
  unfold detectLanguage
  cases Path.extension? path with
  | none => rfl
  | some e => exact h.extensions _

/-- **Detection follows the catalogue.**  After any events, failed calls included, the catalogue
    lists what has been entered, and a file has the language that was entered last among those with
    an extension that is the file's own up to case; if there is none, the file has no language. -/
theorem run_detects_last (config : Config) (files : FileSystem) (events : List Event) (path : String) :
    let ws := (new config files).run events
    let entries := entriesOf config files events
    ws.detectLanguage path = (Path.extension? path).bind (fun e =>
        ((entries.filter fun entry => entry.grammar.extensions.any
          (Unicode.lowercase · = Unicode.lowercase e)).getLast?).map (·.name)) ∧
      (∀ language, ws.detectLanguage path = some language → language ∈ ws.listLanguages) ∧
      ∀ language, language ∈ ws.listLanguages ↔ ∃ entry ∈ entries, entry.name = language := by
  intro ws entries
  have hrecords : Records ws entries :=
    run_records (new_listed config files) (new_records config files) events
  have hdetect := hrecords.detectLanguage_eq path
  refine ⟨hdetect, fun language hlanguage => ?_, fun language => hrecords.mem_listLanguages⟩
  rw [hdetect] at hlanguage
  obtain ⟨e, -, hclaim⟩ := Option.bind_eq_some_iff.mp hlanguage
  obtain ⟨entry, hmem, -, hname⟩ := exists_of_lastClaim hclaim
  exact hrecords.mem_listLanguages.mpr ⟨entry, hmem, hname⟩

end Detection

/-! ## What the grammar says

  For this the entries alone are not enough: the grammar that a language has later must be the one
  that was entered.  Without directories it is, as its line stays (`Held`). -/

/-- What a grammar claims is claimed by its entry: case matters less there. -/
theorem claims_of_handles {entry : Entry} {e : String} (h : entry.grammar.handles e = true) :
    entry.claims (Unicode.lowercase e) = true := by
  obtain ⟨claimed, hmem, hsame⟩ := List.any_eq_true.mp h
  exact List.any_eq_true.mpr
    ⟨claimed, hmem, decide_eq_true (lowercase_of_sameButAsciiCase hsame)⟩

/-- A grammar claims an ASCII extension if it has one that is the same up to case and ASCII, too. -/
theorem handles_or_not_ascii (g : Grammar) (e : String) :
    g.handles e = true ∨
      ∀ claimed ∈ g.extensions, Unicode.lowercase claimed = Unicode.lowercase e →
        ∃ c ∈ claimed.toList ++ e.toList, 0x80 ≤ c.toNat := by
  by_contra hnot
  push Not at hnot
  obtain ⟨hhandles, claimed, hmem, hsame, hascii⟩ := hnot
  rw [List.forall_mem_append] at hascii
  exact hhandles (List.any_eq_true.mpr
    ⟨claimed, hmem, sameButAsciiCase_of_lowercase hascii.1 hascii.2 hsame⟩)

/-- The grammar of each entry can be loaded from a line of definitions. -/
def Held (ws : Workspace) (entries : List Entry) : Prop :=
  ∀ entry ∈ entries, ∃ line, Lineage ws.grammars entry.name line ∧
    GrammarLibrary.layered ws.grammars.config.limits line = entry.grammar

section Held

variable {ws after : Workspace} {entries : List Entry} {entry : Entry}

/-- Lines stay while definitions are at most added. -/
theorem Held.mono (h : Held ws entries) (hdirs : ws.grammars.config.grammarDirs = [])
    (hconfig : after.grammars.config = ws.grammars.config)
    (hsources : ∀ key source, ws.grammars.sources.find? key = some source →
      after.grammars.sources.find? key = some source) : Held after entries := by
  intro entry hmem
  obtain ⟨line, hline, hgrammar⟩ := h entry hmem
  refine ⟨line, hline.mono hdirs hsources, ?_⟩
  rw [hconfig]
  exact hgrammar

/-- A grammar that has just been loaded has a line. -/
theorem Held.append (h : Held ws entries)
    (hline : ∃ line, Lineage ws.grammars entry.name line ∧
      GrammarLibrary.layered ws.grammars.config.limits line = entry.grammar) :
    Held ws (entries ++ [entry]) := by
  intro e hmem
  rcases List.mem_append.mp hmem with hmem | hmem
  · exact h e hmem
  · rw [List.mem_singleton.mp hmem]
    exact hline

/-- So it is in the snapshot. -/
theorem Held.snapshot (h : Held ws entries) (hinOrder : InOrder ws.grammars)
    (hmem : entry ∈ entries) :
    ∃ theme, (ws.snapshot entry.name).1 = .ok (entry.grammar, theme) := by
  obtain ⟨line, hline, hgrammar⟩ := h entry hmem
  apply snapshot_of_loaded
  rw [hinOrder.loadNamed_of_lineage hline, hgrammar]

/-- What has been entered stays loadable as it was, and a language that is added is loaded from the
    line that it now has. -/
theorem perform_held (h : Held ws entries) (hinOrder : InOrder ws.grammars)
    (hlisted : Listed ws) (event : Event) :
    Held (event.perform ws) (entries ++ (event.entry? ws).toList) := by
  have hgrows := perform_grows hlisted event
  have hkept : Held (event.perform ws) entries := h.mono hinOrder.dirs hgrows.config hgrows.sources
  cases hentry : event.entry? ws with
  | none =>
    rw [Option.toList_none, List.append_nil]
    exact hkept
  | some entry =>
    obtain ⟨text, htext, hof⟩ := Option.bind_eq_some_iff.mp hentry
    rw [Option.toList_some]
    refine hkept.append ?_
    rcases addLanguage_entry hlisted text with
      ⟨hnone, -, -⟩ | ⟨added, hadded, hdeclared, hname, -, hload, hadd⟩
    · exact absurd (hof.symm.trans hnone) (by simp)
    · obtain rfl := Option.some.inj (hof.symm.trans hadded)
      obtain ⟨d, hparse, hd⟩ := declaredName_eq_ok_iff.mp hdeclared
      have hregistered : InOrder (ws.grammars.register entry.name text) :=
        hinOrder.register (register_wellNamed hparse hd)
      rw [perform_of_text? htext, hadd, ← hname]
      rw [← hname] at hregistered hload
      exact line_of_loaded hregistered hload

/-- So it is after any events, by induction on them. -/
theorem run_held (h : Held ws entries) (hinOrder : InOrder ws.grammars) (hlisted : Listed ws)
    (events : List Event) : Held (ws.run events) (entries ++ ws.entered events) := by
  induction events generalizing ws entries with
  | nil =>
    rw [entered, List.append_nil]
    exact h
  | cons event events ih =>
    rw [entered, ← List.append_assoc]
    exact ih (perform_held h hinOrder hlisted event) (perform_inOrder hinOrder event)
      (perform_listed hlisted event)

/-- In a new workspace the built-in languages are entered, and loaded from their lines. -/
theorem new_held {config : Config} (hdirs : config.grammarDirs = []) (files : FileSystem) :
    Held (new config files) ((unlisted config files).catalogued all) := by
  have hentries : InOrder (new config files).grammars ∧
      Held (new config files) ((unlisted config files).catalogued all) := by
    -- along the built-in languages, each entered as it is loaded
    refine new_entries_induction (P := fun ws entries => InOrder ws.grammars ∧ Held ws entries) ?_
      ⟨stock_inOrder hdirs files, fun _ hmem => absurd hmem List.not_mem_nil⟩
    rintro ws entries key g ⟨hinOrder, h⟩ - hload -
    have hframe := GrammarLibrary.loadNamed_frame ws.grammars key
    have hkept : Held (enter { ws with grammars := (ws.grammars.loadNamed key).2 } g) entries :=
      h.mono hinOrder.dirs hframe.config fun _ _ hs => hframe.sources ▸ hs
    exact ⟨hinOrder.loadNamed key, hkept.append (line_of_loaded hinOrder hload)⟩
  exact hentries.2

/-- A new language that has no parent has its own extensions at once. -/
theorem addLanguage_detects (hinOrder : InOrder ws.grammars) {text declared path e : String}
    {d : Definition} (hparse : Definition.parse? text = some d)
    (hname : d.declaredName? = some declared) (hparent : d.parent = none)
    (hnew : ws.languages.find? (nameKey declared) = none) (he : Path.extension? path = some e)
    (hclaims : (d.extensions.getD []).any (Unicode.lowercase · = Unicode.lowercase e) = true) :
    (ws.addLanguage text).2.detectLanguage path = some declared ∧
      ∃ g theme, ((ws.addLanguage text).2.snapshot declared).1 = .ok (g, theme) ∧
        g.extensions = d.extensions.getD [] := by
  have hregistered : InOrder (ws.grammars.register declared text) :=
    hinOrder.register (register_wellNamed hparse hname)
  have hsource : (ws.grammars.register declared text).registered? (nameKey declared) = some d := by
    rw [← hparse]
    exact GrammarLibrary.registered?_register_self ..
  -- without a parent its line is the definition alone
  have hline : Lineage (ws.grammars.register declared text) declared [(nameKey declared, d)] :=
    .root (GrammarLibrary.find_of_registered hsource) (by rw [hname]; rfl) hparent
  have hload := hregistered.loadNamed_of_lineage hline
  generalize hg : GrammarLibrary.layered _ [(nameKey declared, d)] = g at hload
  have hgname : g.name = declared := by
    rw [← hg]
    show d.declaredName?.getD "" = declared
    rw [hname, Option.getD_some]
  have hextensions : g.extensions = d.extensions.getD [] := by
    rw [← hg]
    rfl
  have hadd := addLanguage_ok (declaredName_eq_ok_iff.mpr ⟨d, hparse, hname⟩)
    (nameKey_declared hname ▸ hnew) hload
  rw [hadd]
  constructor
  · rw [detectLanguage, he, Option.bind_some]
    show Dict.find? _ (g.extensions.foldl _ ws.extensions) = _
    rw [find?_foldl_set, hextensions, if_pos hclaims, hgname]
  · have hagain := congrArg Prod.fst (GrammarLibrary.loadNamed_again rfl hload)
    have hsnapshot : ∃ theme, (snapshot (enter { ws with
        grammars := ((ws.grammars.register declared text).loadNamed declared).2 } g) declared).1
          = .ok (g, theme) := snapshot_of_loaded hagain
    obtain ⟨theme, hsnapshot⟩ := hsnapshot
    exact ⟨g, theme, hsnapshot, hextensions⟩

/-- A new workspace lists none but the built-in languages. -/
theorem new_free (config : Config) (files : FileSystem) {key : String}
    (hkey : key ∉ all.map (nameKey ·.1)) : (new config files).languages.find? key = none := by
  have hframe : Frame (stock config files) (unlisted config files).grammars := .refl _
  obtain ⟨-, -, hothers, -⟩ :=
    foldl_catalogue hframe (stock_named config files) (fun _ he => he) builtin_nodup
  rw [new_eq]
  exact hothers key hkey

/-- **Detection and the grammar.**  Without directories, a file with extension `e` is detected as a
    language whose grammar has the extension `e` up to case.  The grammar itself claims it, too,
    unless letters outside ASCII are involved, whose case it does not look past.  The other way
    round, a file that some listed language's grammar claims is always detected. -/
theorem run_detects_handled {config : Config} (hdirs : config.grammarDirs = []) (files : FileSystem)
    (events : List Event) {path e : String} (he : Path.extension? path = some e) :
    let ws := (new config files).run events
    (∀ language, ws.detectLanguage path = some language →
        ∃ g theme, (ws.snapshot language).1 = .ok (g, theme) ∧
          (∃ claimed ∈ g.extensions, Unicode.lowercase claimed = Unicode.lowercase e) ∧
          (g.handles e = true ∨
            ∀ claimed ∈ g.extensions, Unicode.lowercase claimed = Unicode.lowercase e →
              ∃ c ∈ claimed.toList ++ e.toList, 0x80 ≤ c.toNat)) ∧
      ∀ language ∈ ws.listLanguages, ∀ g theme, (ws.snapshot language).1 = .ok (g, theme) →
        g.handles e = true → ∃ detected, ws.detectLanguage path = some detected := by
  intro ws
  have hlisted := new_listed config files
  have hrecords := run_records hlisted (new_records config files) events
  have hinOrder : InOrder ws.grammars := run_inOrder (new_orderly hdirs files).inOrder events
  have hheld := run_held (new_held hdirs files) (new_orderly hdirs files).inOrder hlisted events
  have hdetect := hrecords.detectLanguage_eq path
  rw [he, Option.bind_some] at hdetect
  constructor
  case left =>
    intro language hlanguage
    -- what is detected is the last claim, and its grammar is still the one that was entered
    obtain ⟨entry, hmem, hclaims, rfl⟩ := exists_of_lastClaim (hdetect.symm.trans hlanguage)
    obtain ⟨theme, hsnapshot⟩ := hheld.snapshot hinOrder hmem
    exact ⟨entry.grammar, theme, hsnapshot, exists_of_claims hclaims, handles_or_not_ascii _ e⟩
  case right =>
    intro language hlanguage g theme hsnapshot hhandles
    -- a claim of the grammar is a claim of its entry, so there is a last one
    obtain ⟨entry, hmem, rfl⟩ := hrecords.mem_listLanguages.mp hlanguage
    obtain ⟨theme', hentry⟩ := hheld.snapshot hinOrder hmem
    obtain ⟨rfl, -⟩ := Prod.mk.inj (Except.ok.inj (hentry.symm.trans hsnapshot))
    obtain ⟨detected, hclaim⟩ := exists_lastClaim hmem (claims_of_handles hhandles)
    exact ⟨detected, hdetect.trans hclaim⟩

/-- What can be read off a text. -/
theorem exists_root {text declared : String} {extensions : List String}
    (h : (Definition.parse? text).map (fun d => (d.declaredName?, d.parent, d.extensions))
      = some (some declared, none, some extensions)) :
    ∃ d, Definition.parse? text = some d ∧ d.declaredName? = some declared ∧ d.parent = none ∧
      d.extensions.getD [] = extensions := by
  obtain ⟨d, hd, heq⟩ := Option.map_eq_some_iff.mp h
  obtain ⟨hname, hrest⟩ := Prod.mk.inj heq
  obtain ⟨hparent, hextensions⟩ := Prod.mk.inj hrest
  exact ⟨d, hd, hname, hparent, by rw [hextensions, Option.getD_some]⟩

theorem run_addLanguage (ws : Workspace) (text : String) :
    ws.run [.addLanguage text] = (ws.addLanguage text).2 := rfl

/-- A file of a language that has just been added, with an extension in other letters. -/
theorem run_detects_handled_go :
    let ws := (new {} {}).run [.addLanguage "name='Go'\nextensions=['GO']"]
    ({} : Config).grammarDirs = [] ∧ Path.extension? "src/main.go" = some "go" ∧
      ws.detectLanguage "src/main.go" = some "Go" ∧
      ∃ g theme, (ws.snapshot "Go").1 = .ok (g, theme) ∧ g.handles "go" = true := by
  intro ws
  have hdirs : ({} : Config).grammarDirs = [] := rfl
  have hpath : Path.extension? "src/main.go" = some "go" := by
    simp only [Path.extension?, Path.fileName?, Path.parts_eq]
    decide +kernel
  obtain ⟨d, hparse, hname, hparent, hextensions⟩ : ∃ d,
      Definition.parse? "name='Go'\nextensions=['GO']" = some d ∧ d.declaredName? = some "Go" ∧
        d.parent = none ∧ d.extensions.getD [] = ["GO"] := exists_root (by decide +kernel)
  have hnew : (new {} {}).languages.find? (nameKey "Go") = none :=
    new_free {} {} (by decide +kernel)
  obtain ⟨hdetect, g, theme, hsnapshot, hgrammar⟩ :=
    addLanguage_detects (new_orderly hdirs {}).inOrder hparse hname hparent hnew hpath
      (by rw [hextensions]; decide +kernel)
  have hafter : ws = ((new {} {}).addLanguage "name='Go'\nextensions=['GO']").2 :=
    run_addLanguage _ _
  rw [← hafter] at hdetect hsnapshot
  obtain ⟨hdetected, -⟩ := run_detects_handled hdirs {}
    [.addLanguage "name='Go'\nextensions=['GO']"] hpath
  obtain ⟨g', theme', hsnapshot', -, hhandles⟩ := hdetected "Go" hdetect
  obtain ⟨rfl, -⟩ := Prod.mk.inj (Except.ok.inj (hsnapshot.symm.trans hsnapshot'))
  -- there are no letters outside ASCII, so the grammar claims the file itself
  refine ⟨hdirs, hpath, hdetect, g, theme, hsnapshot, hhandles.resolve_right fun hother => ?_⟩
  rw [hgrammar, hextensions] at hother
  obtain ⟨c, hc, hle⟩ := hother "GO" (List.mem_singleton_self _) (by decide +kernel)
  have hascii : ("GO".toList ++ "go".toList).all (·.toNat < 0x80) = true := by decide +kernel
  exact absurd (of_decide_eq_true (List.all_eq_true.mp hascii c hc)) (Nat.not_lt.mpr hle)

/-- The capital and the small letter have the same lowercase form. -/
theorem lowercase_accented : Unicode.lowercase "É" = Unicode.lowercase "é" := by
  have hletter : Unicode.lower 'É' = Unicode.lower 'é' := by
    unfold Unicode.lower
    simp only [Unicode.lowerRuns, MapRun.ofTable, List.flatMap_cons, List.flatMap_nil]
    repeat rw [String.toList_ofList]
    decide +kernel
  have halone : ∀ c : Char, c.toNat ≠ 0x3A3 → Unicode.lowerFrom [] [c] = Unicode.lower c := by
    intro c hc
    rw [Unicode.lowerFrom_cons, Unicode.lowerAt, if_neg hc]
    exact List.append_nil _
  have hchars : "É".toList = ['É'] ∧ "é".toList = ['é'] := by decide +kernel
  rw [Unicode.lowercase, Unicode.lowercase, hchars.1, hchars.2, halone 'É' (by decide),
    halone 'é' (by decide), hletter]

/-- A language has an extension with a capital that is not in ASCII.  A file that has the extension
    in small letters is detected as this language, and its grammar does not claim the file. -/
theorem detects_unhandled :
    let ws := (new {} {}).run [.addLanguage "name='x'\nextensions=['É']"]
    ({} : Config).grammarDirs = [] ∧ Path.extension? "a.é" = some "é" ∧
      ws.detectLanguage "a.é" = some "x" ∧
      ∃ g theme, (ws.snapshot "x").1 = .ok (g, theme) ∧ g.handles "é" = false := by
  intro ws
  have hdirs : ({} : Config).grammarDirs = [] := rfl
  have hpath : Path.extension? "a.é" = some "é" := by
    simp only [Path.extension?, Path.fileName?, Path.parts_eq]
    decide +kernel
  obtain ⟨d, hparse, hname, hparent, hextensions⟩ : ∃ d,
      Definition.parse? "name='x'\nextensions=['É']" = some d ∧ d.declaredName? = some "x" ∧
        d.parent = none ∧ d.extensions.getD [] = ["É"] := exists_root (by decide +kernel)
  have hnew : (new {} {}).languages.find? (nameKey "x") = none := new_free {} {} (by decide +kernel)
  have hclaims : ["É"].any (Unicode.lowercase · = Unicode.lowercase "é") = true :=
    List.any_eq_true.mpr ⟨"É", List.mem_singleton.mpr rfl, decide_eq_true lowercase_accented⟩
  obtain ⟨hdetect, g, theme, hsnapshot, hgrammar⟩ :=
    addLanguage_detects (new_orderly hdirs {}).inOrder hparse hname hparent hnew hpath
      (hextensions ▸ hclaims)
  have hafter : ws = ((new {} {}).addLanguage "name='x'\nextensions=['É']").2 :=
    run_addLanguage _ _
  rw [← hafter] at hdetect hsnapshot
  refine ⟨hdirs, hpath, hdetect, g, theme, hsnapshot, ?_⟩
  -- the grammar compares ASCII letters only
  rw [Grammar.handles, hgrammar, hextensions]
  decide +kernel

end Held

end Workspace

end Highlight
