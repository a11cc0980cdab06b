/-
  The themes that snapshots come with.

  Style sheets are filed under the key of their name, so blanks around a name and its case do not
  matter.  A workspace keeps the themes it has made, and these it finds by the name in small
  letters, blanks included.  So a theme that is kept may be older than the sheet that is filed: if
  it was made under another spelling of the name, with other blanks, the new sheet does not replace
  it.

  1. **The ledger** — beside the workspace, a `Ledger` notes the style sheet that was added last
     under every name, and with it the workspace to which it was added.  From this it is plain which
     theme is due to a name.

  2. **The steps** — an event adds a style sheet, or it makes at most one theme from what is filed
     and keeps it (`step_cases`).

  3. **What is kept** — the invariant `Accounted`: a theme that is kept is the one filed, or it was
     there already when the sheet was filed under another spelling (`Overtaken`), or no sheet is
     filed and it is that of a file (`Lent`).  One event keeps it (`step_accounted`), and so does a
     run.

  Main result: **`run_theme_due`**.
-/
import Highlight.Proofs.Library.Room
import Highlight.Proofs.Workspace.Catalogue

namespace Highlight

namespace Workspace

/-! ## The ledger

  The ledger is bookkeeping beside the workspace and never consulted by it.  What is due can be read
  off it without knowing what is kept. -/

/-- A style sheet that was added: the workspace to which it was added, its name as it was spelled,
    and the theme that it makes. -/
structure Filing where
  before : Workspace
  name : String
  theme : Theme

/-- A workspace, those that it was before, and by key the style sheet that was added last. -/
structure Ledger where
  workspace : Workspace
  past : List Workspace
  filing : String → Option Filing

/-- The style sheet that an event adds: its name and the theme that it makes. -/
def Event.adds? (ws : Workspace) : Event → Option (String × Theme)
  | addStyle name text => (ws.themes.load text).toOption.map fun theme => (name, theme)
  | _ => none

/-- The theme that is kept under a name, spelled like this but for case. -/
def kept? (ws : Workspace) (name : String) : Option Theme :=
  ws.loadedThemes.find? (Unicode.lowercase name)

namespace Ledger

/-- The ledger after a style sheet has been added. -/
def file (l : Ledger) (name text : String) (theme : Theme) : Ledger where
  workspace := { l.workspace with
    themes := l.workspace.themes.register name text
    loadedThemes := l.workspace.loadedThemes.set (Unicode.lowercase name) theme }
  past := l.workspace :: l.past
  filing := Function.update l.filing (nameKey name) (some ⟨l.workspace, name, theme⟩)

/-- The ledger after an event. -/
def step (l : Ledger) (event : Event) : Ledger where
  workspace := event.perform l.workspace
  past := l.workspace :: l.past
  filing :=
    match event.adds? l.workspace with
    | some (name, theme) =>
      Function.update l.filing (nameKey name) (some ⟨l.workspace, name, theme⟩)
    | none => l.filing

/-- The ledger after some events. -/
def run (l : Ledger) (events : List Event) : Ledger := events.foldl step l

/-- A new workspace, to which no style sheet has been added. -/
def start (config : Config) (files : FileSystem) : Ledger := ⟨.new config files, [], fun _ => none⟩

/-- The theme that is filed under a name: that of the style sheet added last, or the built-in
    one. -/
def filed? (l : Ledger) (name : String) : Option Theme :=
  match l.filing (nameKey name) with
  | some f => some f.theme
  | none =>
    if nameKey name = nameKey Sheet.Builtin.name then
      some (Sheet.Builtin.sheet.applyTo l.workspace.themes.base)
    else none

/-- The theme that is due to a name: the one that is filed, or the default theme. -/
def due (l : Ledger) (name : String) : Theme := (l.filed? name).getD l.workspace.defaultTheme

/-- A theme was kept under a name when a style sheet was added under another spelling of it. -/
def Overtaken (l : Ledger) (name : String) (kept : Theme) : Prop :=
  ∃ f, l.filing (nameKey name) = some f ∧ Unicode.lowercase f.name ≠ Unicode.lowercase name ∧
    f.before.kept? name = some kept

/-- A theme is kept under a name under which none is filed: it was read from a file, whose path is
    spelled like the name but for case. -/
structure Lent (l : Ledger) (name : String) (kept : Theme) : Prop where
  unfiled : l.filed? name = none
  stays : l.workspace.kept? name = some kept
  origin : ∃ before ∈ l.past, ∃ path, Unicode.lowercase path = Unicode.lowercase name ∧
    before.themes.loadFile path = .ok kept

end Ledger

/-! ## The steps

  Only one event files a style sheet.  All others ask for themes at most, and one event makes one at
  most, since a snapshot is of one grammar. -/

section Steps

variable {ws : Workspace}

/-- The style sheets are as before, and so are the themes, or one has been made and kept. -/
structure Reads (before after : Workspace) : Prop where
  config : after.themes.config = before.themes.config
  sources : after.themes.sources = before.themes.sources
  default : after.defaultTheme = before.defaultTheme
  loaded : after.loadedThemes = before.loadedThemes ∨
    ∃ name theme, before.kept? name = none ∧ before.themes.loadNamed name = .ok theme ∧
      after.loadedThemes = before.loadedThemes.set (Unicode.lowercase name) theme

theorem Reads.refl (ws : Workspace) : Reads ws ws := ⟨rfl, rfl, rfl, .inl rfl⟩

/-- What looking for a theme does: it is kept, or it is made and kept, or there is none. -/
theorem themeOf_cases (ws : Workspace) (name : String) :
    (∃ theme, ws.kept? name = some theme ∧ ws.themeOf name = (theme, ws)) ∨
      (∃ theme, ws.kept? name = none ∧ ws.themes.loadNamed name = .ok theme ∧
        ws.themeOf name = (theme, { ws with
          loadedThemes := ws.loadedThemes.set (Unicode.lowercase name) theme })) ∨
      ∃ e, ws.kept? name = none ∧ ws.themes.loadNamed name = .error e ∧
        ws.themeOf name = (ws.defaultTheme, ws) := by
  unfold themeOf kept?
  cases hkept : ws.loadedThemes.find? (Unicode.lowercase name) with
  | some theme => exact .inl ⟨theme, rfl, rfl⟩
  | none =>
    rcases hload : ws.themes.loadNamed name with e | theme
    · exact .inr (.inr ⟨e, rfl, rfl, rfl⟩)
    · exact .inr (.inl ⟨theme, rfl, rfl, rfl⟩)

/-- Finding the theme for a grammar makes one at most. -/
theorem themeFor_reads (ws : Workspace) (g : Grammar) : Reads ws (ws.themeFor g).2 := by
  unfold themeFor
  cases g.style with
  | none => exact .refl ws
  | some style =>
    show Reads ws (ws.themeOf style).2
    rcases themeOf_cases ws style with
      ⟨theme, -, htheme⟩ | ⟨theme, hnone, hload, htheme⟩ | ⟨e, -, -, htheme⟩
    · rw [htheme]
      exact .refl ws
    · rw [htheme]
      exact ⟨rfl, rfl, rfl, .inr ⟨style, theme, hnone, hload, rfl⟩⟩
    · rw [htheme]
      exact .refl ws

/-- A snapshot files no style sheets. -/
theorem snapshot_themes (ws : Workspace) (language : String) :
    (ws.snapshot language).2.themes = ws.themes := by
  rcases hload : (ws.grammars.loadNamed language).1 with e | g
  · rw [snapshot_error hload]
  · rw [snapshot_ok hload, themeFor_rest]

/-- A snapshot makes a theme at most. -/
theorem snapshot_reads (ws : Workspace) (language : String) :
    Reads ws (ws.snapshot language).2 := by
  rcases hload : (ws.grammars.loadNamed language).1 with e | g
  · rw [snapshot_error hload]
    exact ⟨rfl, rfl, rfl, .inl rfl⟩
  · have hreads := themeFor_reads ws g
    rw [snapshot_ok hload]
    exact ⟨hreads.config, hreads.sources, hreads.default, hreads.loaded⟩

/-- A switch takes a snapshot and makes no further theme. -/
theorem setBufferLanguage_reads (ws : Workspace) (id : Nat) (language : String)
    (lines : Buffer) : Reads ws (ws.setBufferLanguage id language lines).2 := by
  have hsnapshot := snapshot_reads ws language
  unfold setBufferLanguage
  generalize ws.snapshot language = snapped at hsnapshot ⊢
  obtain ⟨e | ⟨g, theme⟩, after⟩ := snapped
  · exact hsnapshot
  · exact ⟨hsnapshot.config, hsnapshot.sources, hsnapshot.default, hsnapshot.loaded⟩

theorem addLanguage_reads (ws : Workspace) (text : String) : Reads ws (ws.addLanguage text).2 := by
  rcases addLanguage_cases ws text with ⟨e, hadd⟩ | ⟨name, d, -, -, -, ⟨e, -, hadd⟩ | ⟨g, -, hadd⟩⟩
  · rw [hadd]
    exact .refl ws
  · rw [hadd]
    exact ⟨rfl, rfl, rfl, .inl rfl⟩
  · rw [hadd]
    exact ⟨rfl, rfl, rfl, .inl rfl⟩

/-- An event that adds no style sheet at most makes a theme from what is there. -/
theorem perform_reads {event : Event} (h : event.adds? ws = none) :
    Reads ws (event.perform ws) := by
  cases event with
  | addStyle name text =>
    show Reads ws (ws.addStyle name text).2
    rcases hload : ws.themes.load text with e | theme
    · rw [addStyle, hload]
      exact .refl ws
    · rw [Event.adds?, hload] at h
      exact absurd h (by simp [Except.toOption])
  | setLanguage id language lines => exact setBufferLanguage_reads ws id language lines
  | openBuffer id path lines =>
    show Reads ws (ws.openBuffer id path lines).2
    rw [openBuffer_eq]
    split
    · exact setBufferLanguage_reads ws id _ lines
    · exact ⟨rfl, rfl, rfl, .inl rfl⟩
  | linesChanged id lines edit =>
    show Reads ws (ws.linesChanged id lines edit).2
    unfold linesChanged
    split
    · exact .refl ws
    · exact ⟨rfl, rfl, rfl, .inl rfl⟩
  | addLanguage text => exact addLanguage_reads ws text
  | addLanguageFile path =>
    show Reads ws (ws.addLanguageFile path).2
    unfold addLanguageFile
    split
    · exact addLanguage_reads ws _
    · exact .refl ws
  | snapshot language => exact snapshot_reads ws language
  | closeBuffer id => exact ⟨rfl, rfl, rfl, .inl rfl⟩
  | toggle => exact ⟨rfl, rfl, rfl, .inl rfl⟩
  | filesChange files => exact ⟨rfl, rfl, rfl, .inl rfl⟩

/-- Adding a style sheet that can be loaded is what `file` notes. -/
theorem step_addStyle {l : Ledger} {name text : String} {theme : Theme}
    (hload : l.workspace.themes.load text = .ok theme) :
    l.step (.addStyle name text) = l.file name text theme := by
  rw [Ledger.step, Event.adds?, hload, Event.perform, addStyle, hload]
  rfl

/-- **An event adds a style sheet, or it at most makes a theme from what is there.** -/
theorem step_cases (l : Ledger) (event : Event) :
    (∃ name text theme, l.workspace.themes.load text = .ok theme ∧
        l.step event = l.file name text theme) ∨
      (l.step event).filing = l.filing ∧ Reads l.workspace (l.step event).workspace := by
  cases hadds : event.adds? l.workspace with
  | none =>
    refine .inr ⟨?_, perform_reads hadds⟩
    rw [Ledger.step, hadds]
  | some added =>
    cases event with
    | addStyle name text =>
      rcases hload : l.workspace.themes.load text with e | theme
      · rw [Event.adds?, hload] at hadds
        exact absurd hadds (by simp [Except.toOption])
      · exact .inl ⟨name, text, theme, hload, step_addStyle hload⟩
    | _ => exact absurd hadds (by simp [Event.adds?])

end Steps

/-! ## What is kept

  A kept theme is found by a name in small letters, a filed one by the key of a name, which has no
  blanks around it either.  The invariant names the two ways in which they may come to differ, and
  there is no third one. -/

namespace Ledger

/-- What is filed in the library of themes is what the ledger says, and every theme that is kept is
    accounted for. -/
structure Accounted (l : Ledger) : Prop where
  dirs : l.workspace.themes.config.styleDirs = []
  sources : ∀ name, (l.workspace.themes.sources.find? (nameKey name)).map
    (ThemeLibrary.layer l.workspace.themes.base) = (l.filed? name).map .ok
  overtaken : ∀ name kept, l.Overtaken name kept → l.workspace.kept? name = some kept
  kept : ∀ name theme, l.workspace.kept? name = some theme →
    l.filed? name = some theme ∨ l.Overtaken name theme ∨ l.Lent name theme

section Accounted

variable {l after : Ledger}

/-- A theme that is filed is found. -/
theorem Accounted.loadNamed_filed (h : l.Accounted) {name : String} {theme : Theme}
    (hfiled : l.filed? name = some theme) : l.workspace.themes.loadNamed name = .ok theme := by
  have hsources := h.sources name
  rw [hfiled] at hsources
  obtain ⟨sheet, hsheet, hlayer⟩ := Option.map_eq_some_iff.mp hsources
  unfold ThemeLibrary.loadNamed
  rw [hsheet]
  exact hlayer

/-- If none is filed, the name has to be the path of a file. -/
theorem Accounted.loadNamed_unfiled (h : l.Accounted) {name : String}
    (hfiled : l.filed? name = none) : l.workspace.themes.loadNamed name =
      if l.workspace.themes.files.isFile name then l.workspace.themes.loadFile name
      else .error (.notFound name) := by
  have hsources := h.sources name
  rw [hfiled] at hsources
  have hcandidates : l.workspace.themes.candidates name = [name] := by
    rw [ThemeLibrary.candidates, h.dirs]
    rfl
  unfold ThemeLibrary.loadNamed
  rw [Option.map_eq_none_iff.mp hsources, hcandidates, List.find?_singleton]
  by_cases hfile : l.workspace.themes.files.isFile name
  · simp [hfile]
  · simp [hfile]

/-- What was said of a name stays, if neither what is filed nor what is kept under it changes. -/
theorem Lent.mono {name : String} {theme : Theme} (h : l.Lent name theme)
    (hfiled : after.filed? name = l.filed? name) (hpast : ∀ w ∈ l.past, w ∈ after.past)
    (hkept : after.workspace.kept? name = l.workspace.kept? name) : after.Lent name theme := by
  obtain ⟨before, hbefore, path, hpath, hload⟩ := h.origin
  exact ⟨hfiled.trans h.unfiled, hkept.trans h.stays, before, hpast before hbefore, path, hpath,
    hload⟩

/-- What was said of the theme kept under a name stays, under the same conditions. -/
theorem Accounted.kept_mono (h : l.Accounted) {name : String}
    (hfiling : after.filing (nameKey name) = l.filing (nameKey name))
    (hfiled : after.filed? name = l.filed? name) (hpast : ∀ w ∈ l.past, w ∈ after.past)
    (hkept : after.workspace.kept? name = l.workspace.kept? name) :
    ∀ theme, after.workspace.kept? name = some theme →
      after.filed? name = some theme ∨ after.Overtaken name theme ∨ after.Lent name theme := by
  intro theme htheme
  rw [hkept] at htheme
  rcases h.kept name theme htheme with hfound | hovertaken | hlent
  · exact .inl (hfiled.trans hfound)
  · unfold Overtaken at hovertaken ⊢
    rw [hfiling]
    exact .inr (.inl hovertaken)
  · exact .inr (.inr (hlent.mono hfiled hpast hkept))

/-- A theme has been kept under a name. -/
theorem kept?_of_set {before after : Workspace} {added name : String} {theme : Theme}
    (hset : after.loadedThemes = before.loadedThemes.set (Unicode.lowercase added) theme) :
    after.kept? name
      = if Unicode.lowercase added = Unicode.lowercase name then some theme
        else before.kept? name := by
  unfold kept?
  rw [hset]
  by_cases hname : Unicode.lowercase added = Unicode.lowercase name
  · rw [hname, Dict.find?_set_self, if_pos rfl]
  · rw [Dict.find?_set_of_ne hname, if_neg hname]

section File

variable {name other : String}

/-- A sheet is noted under its key. -/
theorem file_filing (l : Ledger) (name text : String) (theme : Theme) :
    (l.file name text theme).filing
      = Function.update l.filing (nameKey name) (some ⟨l.workspace, name, theme⟩) := by
  rw [file]

/-- The new theme is kept under its name as it is spelled, but for case. -/
theorem file_kept? (l : Ledger) (name text : String) (theme : Theme) (other : String) :
    (l.file name text theme).workspace.kept? other
      = if Unicode.lowercase name = Unicode.lowercase other then some theme
        else l.workspace.kept? other :=
  kept?_of_set rfl

/-- Under any spelling of the name the new sheet is the one filed. -/
theorem file_self (l : Ledger) (text : String) (theme : Theme) (h : nameKey other = nameKey name) :
    (l.file name text theme).filing (nameKey other) = some ⟨l.workspace, name, theme⟩ ∧
      (l.file name text theme).filed? other = some theme := by
  have hfiling : (l.file name text theme).filing (nameKey other)
      = some ⟨l.workspace, name, theme⟩ := by
    rw [file_filing, h, Function.update_self]
  exact ⟨hfiling, by rw [filed?, hfiling]⟩

/-- Under other names nothing changes. -/
theorem file_of_ne (l : Ledger) (text : String) (theme : Theme) (h : nameKey other ≠ nameKey name) :
    (l.file name text theme).filing (nameKey other) = l.filing (nameKey other) ∧
      (l.file name text theme).filed? other = l.filed? other ∧
      (l.file name text theme).workspace.kept? other = l.workspace.kept? other := by
  have hfiling : (l.file name text theme).filing (nameKey other) = l.filing (nameKey other) := by
    rw [file_filing, Function.update_of_ne h]
  have hbase : (l.file name text theme).workspace.themes.base = l.workspace.themes.base := rfl
  refine ⟨hfiling, by rw [filed?, filed?, hfiling, hbase], ?_⟩
  -- names with different keys are not spelled alike
  rw [file_kept?, if_neg fun hspelling => h (nameKey_congr hspelling.symm)]

/-- **A style sheet that is added is accounted for**: what is kept under its own spelling is
    replaced, and what is kept under others is overtaken. -/
theorem Accounted.file (h : l.Accounted) {text : String} {theme : Theme}
    (hload : l.workspace.themes.load text = .ok theme) : (l.file name text theme).Accounted := by
  constructor
  · exact h.dirs
  · intro other
    show ((l.workspace.themes.sources.set (nameKey name) (.text text)).find? _).map
      (ThemeLibrary.layer l.workspace.themes.base) = _
    by_cases hkey : nameKey other = nameKey name
    · rw [(file_self l text theme hkey).2, hkey, Dict.find?_set_self]
      exact congrArg some hload
    · rw [(file_of_ne l text theme hkey).2.1, Dict.find?_set_of_ne (Ne.symm hkey)]
      exact h.sources other
  · intro other kept hovertaken
    -- under other keys nothing has changed
    by_cases hkey : nameKey other = nameKey name
    · obtain ⟨f, hf, hspelling, hbefore⟩ := hovertaken
      obtain rfl := Option.some.inj ((file_self l text theme hkey).1.symm.trans hf)
      rw [file_kept?, if_neg hspelling]
      exact hbefore
    · unfold Overtaken at hovertaken
      rw [(file_of_ne l text theme hkey).1] at hovertaken
      rw [(file_of_ne l text theme hkey).2.2]
      exact h.overtaken other kept hovertaken
  · intro other
    by_cases hkey : nameKey other = nameKey name
    · intro kept hother
      rw [file_kept?] at hother
      split at hother
      · -- this spelling: the new theme itself
        obtain rfl := Option.some.inj hother
        exact .inl (file_self l text theme hkey).2
      · -- another spelling: what was kept under it is overtaken
        rename_i hspelling
        exact .inr (.inl ⟨_, (file_self l text theme hkey).1, hspelling, hother⟩)
    · obtain ⟨hfiling, hfiled, hkept⟩ := file_of_ne l text theme hkey
      exact h.kept_mono hfiling hfiled (fun _ hw => List.mem_cons_of_mem _ hw) hkept

end File

section Read

/-- A theme that is kept under a name for the first time comes from what is filed, or from a
    file. -/
theorem Accounted.made (h : l.Accounted) {added name : String} {theme : Theme}
    (hspelling : Unicode.lowercase added = Unicode.lowercase name)
    (hload : l.workspace.themes.loadNamed added = .ok theme) :
    l.filed? name = some theme ∨
      l.filed? name = none ∧ l.workspace.themes.loadFile added = .ok theme := by
  have hsame : l.filed? added = l.filed? name := by
    rw [filed?, filed?, nameKey_congr hspelling]
  cases hfiled : l.filed? name with
  | some filed =>
    have hmade := h.loadNamed_filed (hsame.trans hfiled)
    exact .inl (congrArg some (Except.ok.inj (hmade.symm.trans hload)))
  | none =>
    have hmade := h.loadNamed_unfiled (hsame.trans hfiled)
    rw [hload] at hmade
    split at hmade
    · exact .inr ⟨rfl, hmade.symm⟩
    · exact absurd hmade (by simp)

/-- What is kept under a name is as before, or it has been made under a spelling of it. -/
theorem kept?_of_reads {before after : Workspace} (h : Reads before after) (name : String) :
    after.kept? name = before.kept? name ∨
      before.kept? name = none ∧ ∃ added theme, Unicode.lowercase added = Unicode.lowercase name ∧
        before.themes.loadNamed added = .ok theme ∧ after.kept? name = some theme := by
  rcases h.loaded with hloaded | ⟨added, theme, hnone, hload, hset⟩
  · left
    rw [kept?, hloaded]
    rfl
  · by_cases hspelling : Unicode.lowercase added = Unicode.lowercase name
    · rw [kept?, hspelling] at hnone
      refine .inr ⟨hnone, added, theme, hspelling, hload, ?_⟩
      rw [kept?_of_set hset, if_pos hspelling]
    · left
      rw [kept?_of_set hset, if_neg hspelling]

/-- **A theme that is made from what is there is accounted for**, too. -/
theorem Accounted.read (h : l.Accounted) (hfiling : after.filing = l.filing)
    (hpast : after.past = l.workspace :: l.past) (hreads : Reads l.workspace after.workspace) :
    after.Accounted := by
  have hbase : after.workspace.themes.base = l.workspace.themes.base :=
    congrArg Theme.builtin hreads.config
  have hfiled : ∀ name, after.filed? name = l.filed? name := by
    intro name
    rw [filed?, filed?, hfiling, hbase]
  constructor
  · rw [hreads.config]
    exact h.dirs
  · intro name
    rw [hbase, hfiled, hreads.sources]
    exact h.sources name
  · intro name kept hovertaken
    unfold Overtaken at hovertaken
    rw [hfiling] at hovertaken
    have hold := h.overtaken name kept hovertaken
    rcases kept?_of_reads hreads name with hkept | ⟨hnone, -⟩
    · exact hkept.trans hold
    · exact absurd (hnone.symm.trans hold) (by simp)
  · intro name
    rcases kept?_of_reads hreads name with hkept | ⟨-, added, theme, hspelling, hload, hkept⟩
    · have hpast' : ∀ w ∈ l.past, w ∈ after.past := by
        intro w hw
        rw [hpast]
        exact List.mem_cons_of_mem _ hw
      exact h.kept_mono (congrFun hfiling _) (hfiled name) hpast' hkept
    · intro kept hname
      obtain rfl := Option.some.inj (hkept.symm.trans hname)
      rcases h.made hspelling hload with hfound | ⟨hunfiled, hfile⟩
      · exact .inl ((hfiled name).trans hfound)
      · -- the workspace as it was read the file
        have hnow : l.workspace ∈ after.past := by
          rw [hpast]
          exact List.mem_cons_self ..
        exact .inr (.inr ⟨(hfiled name).trans hunfiled, hkept, l.workspace, hnow, added,
          hspelling, hfile⟩)

end Read

/-- **Every event keeps the ledger accounted.** -/
theorem step_accounted (h : l.Accounted) (event : Event) : (l.step event).Accounted := by
  rcases step_cases l event with ⟨name, text, theme, hload, hfile⟩ | ⟨hfiling, hreads⟩
  · rw [hfile]
    exact h.file hload
  · exact h.read hfiling rfl hreads

/-- **Every theme that is kept is accounted for**, by induction on the events. -/
theorem run_accounted (h : l.Accounted) (events : List Event) : (l.run events).Accounted := by
  induction events generalizing l with
  | nil => exact h
  | cons event events ih => exact ih (step_accounted h event)

/-- The built-in languages are entered without any theme being made. -/
theorem new_themes (config : Config) (files : FileSystem) :
    (new config files).themes = (unlisted config files).themes ∧
      (new config files).loadedThemes = [] := by
  refine new_induction (P := fun ws => ws.themes = (unlisted config files).themes ∧
    ws.loadedThemes = []) config files ⟨rfl, rfl⟩ fun ws name h => ?_
  rcases hload : (ws.grammars.loadNamed name).1 with e | g
  · rw [catalogue_error hload]
    exact h
  · rw [catalogue_ok hload]
    exact h

theorem start_workspace (config : Config) (files : FileSystem) :
    (start config files).workspace = new config files := by
  rw [start]

theorem start_themes (config : Config) (files : FileSystem) :
    (start config files).workspace.themes = (unlisted config files).themes := by
  rw [start_workspace]
  exact (new_themes config files).1

/-- In a new workspace the built-in style sheet is filed, and no theme is kept. -/
theorem start_accounted {config : Config} (hdirs : config.styleDirs = []) (files : FileSystem) :
    (start config files).Accounted := by
  have hthemes := start_themes config files
  have hkept : ∀ name, (start config files).workspace.kept? name = none := by
    intro name
    have hloaded : (start config files).workspace.loadedThemes = [] := (new_themes config files).2
    rw [kept?, hloaded]
    rfl
  constructor
  · rw [hthemes]
    exact hdirs
  · intro name
    have hsources : (unlisted config files).themes.sources
        = [(nameKey Sheet.Builtin.name, .value Sheet.Builtin.sheet)] := rfl
    rw [filed?, hthemes, hsources]
    by_cases hname : nameKey name = nameKey Sheet.Builtin.name
    · rw [Dict.find?, if_pos hname.symm, start]
      simp only
      rw [if_pos hname]
      rfl
    · rw [Dict.find?, if_neg (Ne.symm hname), start]
      simp only
      rw [if_neg hname]
      rfl
  · rintro name kept ⟨f, hf, -⟩
    exact absurd hf (by simp [start])
  · intro name theme htheme
    exact absurd ((hkept name).symm.trans htheme) (by simp)

end Accounted

/-! ## Snapshots

  Read off the invariant: when a snapshot has the theme that is due, and in which cases it
  cannot. -/

section Snapshots

variable {l : Ledger}

/-- What a theme is that is looked for under a name that is no path of a file: one that is kept
    though another is due, or the one that is due. -/
theorem Accounted.themeOf (h : l.Accounted) {name : String}
    (hfile : l.workspace.themes.files.isFile name = false) :
    ((∀ kept, ¬(l.Overtaken name kept ∨ l.Lent name kept)) →
        (l.workspace.themeOf name).1 = l.due name) ∧
      ∀ kept, l.Overtaken name kept ∨ l.Lent name kept → (l.workspace.themeOf name).1 = kept := by
  -- an old theme shows only while it is kept
  have hstale : ∀ kept, l.Overtaken name kept ∨ l.Lent name kept →
      l.workspace.kept? name = some kept := by
    rintro kept (hovertaken | hlent)
    · exact h.overtaken name kept hovertaken
    · exact hlent.stays
  rcases themeOf_cases l.workspace name with
    ⟨theme, hkept, htheme⟩ | ⟨theme, hnone, hload, htheme⟩ | ⟨e, hnone, hload, htheme⟩
  · rw [htheme]
    constructor
    · intro hfresh
      rcases h.kept name theme hkept with hfiled | hold
      · rw [due, hfiled]
        rfl
      · exact absurd hold (hfresh theme)
    · intro kept hold
      exact Option.some.inj (hkept.symm.trans (hstale kept hold))
  · rw [htheme]
    constructor
    · intro _
      -- there was no theme to be found for the name, so what is filed has just been made
      cases hfiled : l.filed? name with
      | some filed =>
        rw [due, hfiled]
        exact Except.ok.inj (hload.symm.trans (h.loadNamed_filed hfiled))
      | none =>
        have hmissing := h.loadNamed_unfiled hfiled
        rw [hfile, hload] at hmissing
        exact absurd hmissing (by simp)
    · intro kept hold
      exact absurd (hnone.symm.trans (hstale kept hold)) (by simp)
  · rw [htheme]
    constructor
    · intro _
      cases hfiled : l.filed? name with
      | some filed => exact absurd (hload.symm.trans (h.loadNamed_filed hfiled)) (by simp)
      | none =>
        rw [due, hfiled]
        rfl
    · intro kept hold
      exact absurd (hnone.symm.trans (hstale kept hold)) (by simp)

/-- The theme of a snapshot is the one that is looked for under the style that its grammar asks
    for. -/
theorem themeOf_of_snapshot {ws : Workspace} {language style : String} {g : Grammar} {theme : Theme}
    (hsnapshot : (ws.snapshot language).1 = .ok (g, theme)) (hstyle : g.style = some style) :
    (ws.themeOf style).1 = theme ∧
      (ws.snapshot language).2.loadedThemes = (ws.themeOf style).2.loadedThemes := by
  rcases hload : (ws.grammars.loadNamed language).1 with e | g'
  · rw [snapshot_error hload] at hsnapshot
    exact absurd hsnapshot (by simp)
  · rw [snapshot_ok hload] at hsnapshot ⊢
    obtain ⟨rfl, rfl⟩ := Prod.mk.inj (Except.ok.inj hsnapshot)
    rw [themeFor, hstyle]
    exact ⟨rfl, rfl⟩

/-- A theme that is filed is kept once it has been in a snapshot. -/
theorem Accounted.kept_of_snapshot (h : l.Accounted) {language style : String} {g : Grammar}
    {theme filed : Theme} (hsnapshot : (l.workspace.snapshot language).1 = .ok (g, theme))
    (hstyle : g.style = some style) (hfiled : l.filed? style = some filed) :
    (l.workspace.snapshot language).2.kept? style = some theme := by
  obtain ⟨htheme, hloaded⟩ := themeOf_of_snapshot hsnapshot hstyle
  rw [kept?, hloaded]
  rcases themeOf_cases l.workspace style with
    ⟨theme', hkept, hfound⟩ | ⟨theme', -, -, hfound⟩ | ⟨e, -, hload, -⟩
  · rw [hfound] at htheme ⊢
    obtain rfl : theme' = theme := htheme
    exact hkept
  · rw [hfound] at htheme ⊢
    obtain rfl : theme' = theme := htheme
    exact Dict.find?_set_self ..
  · exact absurd (hload.symm.trans (h.loadNamed_filed hfiled)) (by simp)

/-- A style sheet that is added after a snapshot. -/
theorem run_snapshot_addStyle (l : Ledger) (language name : String) {text : String} {new : Theme}
    (hload : l.workspace.themes.load text = .ok new) :
    l.run [.snapshot language, .addStyle name text]
      = (l.step (.snapshot language)).file name text new := by
  refine step_addStyle ?_
  show (l.workspace.snapshot language).2.themes.load text = .ok new
  rw [snapshot_themes]
  exact hload

theorem files_of_run (language name : String) {text : String} {new : Theme}
    (hload : l.workspace.themes.load text = .ok new) :
    (l.run [.snapshot language, .addStyle name text]).workspace.themes.files
      = l.workspace.themes.files := by
  rw [run_snapshot_addStyle l language name hload]
  show (l.workspace.snapshot language).2.themes.files = l.workspace.themes.files
  rw [snapshot_themes]

/-- **Another spelling overtakes.**  Once a theme has been in a snapshot, a style sheet that is
    added under its name with other blanks around it does not replace it. -/
theorem Accounted.overtaken_of_respelled (h : l.Accounted) {language style name text : String}
    {g : Grammar} {theme filed new : Theme}
    (hsnapshot : (l.workspace.snapshot language).1 = .ok (g, theme))
    (hstyle : g.style = some style) (hfiled : l.filed? style = some filed)
    (hkey : nameKey name = nameKey style)
    (hspelling : Unicode.lowercase name ≠ Unicode.lowercase style)
    (hload : l.workspace.themes.load text = .ok new) :
    (l.run [.snapshot language, .addStyle name text]).Overtaken style theme := by
  have hself := file_self (l.step (.snapshot language)) text new hkey.symm
  rw [run_snapshot_addStyle l language name hload]
  exact ⟨_, hself.1, hspelling, h.kept_of_snapshot hsnapshot hstyle hfiled⟩

theorem run_nil (l : Ledger) : l.run [] = l := rfl

/-- The ledger's workspace is that of the run without a ledger. -/
theorem run_workspace (l : Ledger) (events : List Event) :
    (l.run events).workspace = l.workspace.run events := by
  induction events generalizing l with
  | nil => rfl
  | cons event events ih => exact ih (l.step event)

/-- **Snapshots have the theme that is due, unless an older one is still kept.**  Without
    directories of style sheets, after any events, the theme of a snapshot whose grammar asks for a
    style that is no path of a file is as follows.  If a theme was kept under the name, as it is
    spelled but for case, when a style sheet was added under another spelling of it, or if one was
    read from a file while none was filed, it is this theme.  Otherwise it is that of the style
    sheet that was added last, or the built-in one, or the default theme. -/
theorem run_theme_due {config : Config} (hdirs : config.styleDirs = []) (files : FileSystem)
    (events : List Event) :
    let l := (start config files).run events
    (∀ language g theme style, (l.workspace.snapshot language).1 = .ok (g, theme) →
        g.style = some style → l.workspace.themes.files.isFile style = false →
        ((∀ kept, ¬(l.Overtaken style kept ∨ l.Lent style kept)) → theme = l.due style) ∧
          ∀ kept, l.Overtaken style kept ∨ l.Lent style kept → theme = kept) ∧
      (config.grammarDirs = [] → ∀ language ∈ l.workspace.listLanguages,
        ∃ g theme, (l.workspace.snapshot language).1 = .ok (g, theme)) := by
  intro l
  have haccounted : l.Accounted := run_accounted (start_accounted hdirs files) events
  constructor
  · intro language g theme style hsnapshot hstyle hfile
    rw [← (themeOf_of_snapshot hsnapshot hstyle).1]
    exact haccounted.themeOf hfile
  · intro hgrammars language hlisted
    have horderly := run_orderly (new_orderly hgrammars files) (new_listed config files) events
    rw [← start_workspace config files, ← run_workspace] at horderly
    obtain ⟨g, -, ⟨theme, hsnapshot⟩, -⟩ := horderly.keeps horderly (.refl _) hlisted
    exact ⟨g, theme, hsnapshot⟩

theorem start_base (files : FileSystem) :
    (start {} files).workspace.themes.base = .builtin {} := by
  rw [start_themes]
  rfl

/-- The theme of the built-in style sheet has looks for escapes. -/
theorem start_filed (files : FileSystem) : ∃ filed, (start {} files).filed? "default" = some filed ∧
    filed.contains .escape := by
  have hbase := start_base files
  have hname : nameKey "default" = nameKey Sheet.Builtin.name := rfl
  refine ⟨Sheet.Builtin.sheet.applyTo (.builtin {}), ?_, by decide +kernel⟩
  rw [filed?, hbase, start]
  simp only
  rw [if_pos hname]

/-- That of an empty style sheet has none. -/
theorem start_load (files : FileSystem) : ∃ new, (start {} files).workspace.themes.load "" = .ok new ∧
    ¬new.contains .escape := by
  have hbase := start_base files
  have hempty : (Sheet.parse? "").map (fun sheet => (sheet.applyTo (.builtin {})).contains .escape)
      = some false := by decide +kernel
  obtain ⟨sheet, hsheet, hescape⟩ := Option.map_eq_some_iff.mp hempty
  refine ⟨sheet.applyTo (.builtin {}), ?_, by rw [hescape]; exact Bool.false_ne_true⟩
  rw [ThemeLibrary.load, ThemeLibrary.loadOver, hbase, hsheet]

theorem rust_builtin : ("rust", Grammar.Builtin.rust) ∈ Grammar.Builtin.all := by
  simp [Grammar.Builtin.all]

/-- Rust always asks for the default style. -/
theorem start_snapshot (files : FileSystem) (events : List Event) : ∃ g theme,
    (((start {} files).run events).workspace.snapshot "Rust").1 = .ok (g, theme) ∧
      g.style = some "default" := by
  have hdirs : ({} : Config).grammarDirs = [] := rfl
  have hname : nameKey "Rust" = nameKey "rust" := by decide +kernel
  rw [run_workspace, start_workspace]
  exact run_snapshot_builtin hdirs files events rust_builtin rfl hname

theorem start_files (config : Config) (files : FileSystem) :
    (start config files).workspace.themes.files = files := by
  rw [start_themes]
  rfl

/-- A new style sheet for the built-in languages, its name spelled with capital letters: it replaces
    the theme that was kept. -/
theorem run_theme_due_recased :
    let l := (start {} {}).run [.snapshot "Rust", .addStyle "DEFAULT" ""]
    ({} : Config).styleDirs = [] ∧ ∃ g theme,
      (l.workspace.snapshot "Rust").1 = .ok (g, theme) ∧ theme = l.due "default" := by
  intro l
  have hdirs : ({} : Config).styleDirs = [] := rfl
  have hkey : nameKey "default" = nameKey "DEFAULT" := by decide +kernel
  have hspelling : Unicode.lowercase "DEFAULT" = Unicode.lowercase "default" := by decide +kernel
  obtain ⟨new, hload, -⟩ := start_load {}
  obtain ⟨g, theme, hsnapshot, hstyle⟩ :=
    start_snapshot {} [.snapshot "Rust", .addStyle "DEFAULT" ""]
  have hself := file_self ((start {} {}).step (.snapshot "Rust")) "" new hkey
  rw [← run_snapshot_addStyle _ "Rust" "DEFAULT" hload] at hself
  have hfile : l.workspace.themes.files.isFile "default" = false := by
    rw [files_of_run "Rust" "DEFAULT" hload, start_files]
    exact FileSystem.isFile_of_root_eq_nil rfl "default"
  have hfresh : ∀ kept, ¬(l.Overtaken "default" kept ∨ l.Lent "default" kept) := by
    rintro kept (⟨f, hf, hother, -⟩ | hlent)
    · obtain rfl := Option.some.inj (hself.1.symm.trans hf)
      exact hother hspelling
    · exact absurd (hself.2.symm.trans hlent.unfiled) (by simp)
  refine ⟨hdirs, g, theme, hsnapshot, ?_⟩
  exact ((run_theme_due hdirs {} _).1 "Rust" g theme "default" hsnapshot hstyle
    hfile).1 hfresh

/-- Blanks around the name: the snapshot still has the theme that was kept, and not the one that is
    due. -/
theorem run_theme_ne_due :
    let l := (start {} {}).run [.snapshot "Rust", .addStyle " default " ""]
    "Rust" ∈ l.workspace.listLanguages ∧ ∃ g theme,
      (l.workspace.snapshot "Rust").1 = .ok (g, theme) ∧ g.style = some "default" ∧
        l.workspace.themes.files.isFile "default" = false ∧ theme ≠ l.due "default" := by
  intro l
  have hdirs : ({} : Config).styleDirs = [] := rfl
  have hkey : nameKey " default " = nameKey "default" := by decide +kernel
  have hspelling : Unicode.lowercase " default " ≠ Unicode.lowercase "default" := by decide +kernel
  have hstart : (start {} {}).Accounted := start_accounted hdirs {}
  have haccounted : l.Accounted := run_accounted hstart _
  obtain ⟨filed, hfiled, hescape⟩ := start_filed {}
  obtain ⟨new, hload, hplain⟩ := start_load {}
  obtain ⟨g₀, theme₀, hsnapshot₀, hstyle₀⟩ := start_snapshot {} []
  obtain ⟨g, theme, hsnapshot, hstyle⟩ :=
    start_snapshot {} [.snapshot "Rust", .addStyle " default " ""]
  rw [run_nil] at hsnapshot₀
  have hfile₀ : (start {} {}).workspace.themes.files.isFile "default" = false := by
    rw [start_files]
    exact FileSystem.isFile_of_root_eq_nil rfl "default"
  have hfile : l.workspace.themes.files.isFile "default" = false := by
    rw [files_of_run "Rust" " default " hload]
    exact hfile₀
  -- the first snapshot has the built-in theme
  have htheme₀ : theme₀ = filed := by
    have hfresh : ∀ kept, ¬((start {} {}).Overtaken "default" kept ∨
        (start {} {}).Lent "default" kept) := by
      rintro kept (⟨f, hf, -⟩ | hlent)
      · exact absurd hf (by simp [start])
      · exact absurd (hfiled.symm.trans hlent.unfiled) (by simp)
    rw [← (themeOf_of_snapshot hsnapshot₀ hstyle₀).1, (hstart.themeOf hfile₀).1 hfresh, due, hfiled]
    rfl
  -- it is overtaken by the style sheet, and so it is in the second one
  have hovertaken := hstart.overtaken_of_respelled hsnapshot₀ hstyle₀ hfiled hkey hspelling hload
  have htheme : theme = theme₀ := by
    rw [← (themeOf_of_snapshot hsnapshot hstyle).1]
    exact (haccounted.themeOf hfile).2 theme₀ (.inl hovertaken)
  have hself := file_self ((start {} {}).step (.snapshot "Rust")) "" new hkey.symm
  rw [← run_snapshot_addStyle _ "Rust" " default " hload] at hself
  have hdue : l.due "default" = new := by
    rw [due, hself.2]
    rfl
  have hlisted : "Rust" ∈ l.workspace.listLanguages := by
    have hname : Grammar.Builtin.rust.declaredName? = some "Rust" := by decide +kernel
    rw [run_workspace, start_workspace]
    exact run_lists_builtin {} {} _ rust_builtin hname
  refine ⟨hlisted, g, theme, hsnapshot, hstyle, hfile, fun heq => hplain ?_⟩
  rw [← hdue, ← heq, htheme, htheme₀]
  exact hescape

end Snapshots

end Ledger

end Workspace

end Highlight
