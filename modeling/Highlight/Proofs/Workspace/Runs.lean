/-
  Whole runs of a workspace.

  A run is a list of events: calls about one buffer, calls about the languages and themes, and the
  switch that turns highlighting off and on.  An event is *honest* if its buffer is passed as it was
  at the last call, or if it reports how the buffer changed since then; of a buffer that is not
  highlighted nothing is asked.

  1. **The scene** — beside the workspace, a `Scene` notes for every buffer the lines it was passed
     with last, and the grammar of its last successful switch.  Nothing of this is known to the
     workspace.

  2. **Calls** — those about languages and themes leave the buffers alone (`Undisturbed`).  A switch
     to another language either fails and leaves them alone as well, or gives the buffer a
     highlighter that is up to date (`setBufferLanguage_cases`).

  3. **Runs** — the invariant `Faithful`: a buffer has a highlighter exactly if a grammar is noted
     for it, and then this is the grammar, and the highlighter is up to date with the lines noted,
     whether highlighting is on or off.  One honest event keeps it (`step_faithful`), and so does a
     run.

  Main result: **`run_shows_full`**.
-/
import Mathlib.Logic.Function.Basic
import Highlight.Proofs.Highlighter.Session
import Highlight.Workspace

namespace Highlight

namespace Workspace

/-! ## Events

  One constructor for each call that can be made, and one for the files, which may change in
  between. -/

/-- What can happen to a workspace. -/
inductive Event where
  | setLanguage (id : Nat) (language : String) (lines : Buffer)
  | openBuffer (id : Nat) (path : Option String) (lines : Buffer)
  | closeBuffer (id : Nat)
  | linesChanged (id : Nat) (lines : Buffer) (edit : LineEdit)
  | toggle
  | addLanguage (text : String)
  | addLanguageFile (path : String)
  | addStyle (name text : String)
  | snapshot (language : String)
  /-- The files are no longer the same. -/
  | filesChange (files : FileSystem)

namespace Event

/-- The workspace after an event, whether a call succeeds or not. -/
def perform (ws : Workspace) : Event → Workspace
  | setLanguage id language lines => (ws.setBufferLanguage id language lines).2
  | openBuffer id path lines => (ws.openBuffer id path lines).2
  | closeBuffer id => ws.closeBuffer id
  | linesChanged id lines edit => (ws.linesChanged id lines edit).2
  | toggle => ws.toggle
  | addLanguage text => (ws.addLanguage text).2
  | addLanguageFile path => (ws.addLanguageFile path).2
  | addStyle name text => (ws.addStyle name text).2
  | snapshot language => (ws.snapshot language).2
  | filesChange files =>
    { ws with
      grammars := { ws.grammars with files := files }
      themes := { ws.themes with files := files } }

/-- The buffer that an event is about. -/
def buffer? : Event → Option Nat
  | setLanguage id _ _ | openBuffer id _ _ | closeBuffer id | linesChanged id _ _ => some id
  | _ => none

/-- How the switch to another language fails that an event asks for. -/
def failure? (ws : Workspace) : Event → Option GrammarError
  | setLanguage id language lines =>
    match (ws.setBufferLanguage id language lines).1 with
    | .ok _ => none
    | .error e => some e
  | openBuffer id path lines =>
    match (ws.openBuffer id path lines).1 with
    | .ok _ => none
    | .error e => some e
  | _ => none

end Event

/-! ## The scene

  What the right highlighting is can be told from what was passed to the workspace, so this is
  noted.  The rest of the file compares it with what the workspace shows. -/

/-- A workspace, what every buffer held when it was passed last, and the grammar that the last
    successful switch has installed for it. -/
structure Scene where
  workspace : Workspace
  lines : Nat → Buffer
  installed : Nat → Option Grammar

/-- The grammar installed after a switch to a language: the one that the language has now, or the
    old one if it cannot be loaded. -/
def switched (ws : Workspace) (language : String) (current : Option Grammar) : Option Grammar :=
  match (ws.snapshot language).1 with
  | .ok (g, _) => some g
  | .error _ => current

namespace Event

/-- What the buffers hold after an event. -/
def linesAfter (lines : Nat → Buffer) : Event → Nat → Buffer
  | setLanguage id _ new | openBuffer id _ new | linesChanged id new _ =>
    Function.update lines id new
  | _ => lines

/-- The grammars installed after an event. -/
def installedAfter (ws : Workspace) (installed : Nat → Option Grammar) :
    Event → Nat → Option Grammar
  | setLanguage id language _ =>
    Function.update installed id (ws.switched language (installed id))
  | openBuffer id path _ =>
    Function.update installed id <|
      match path.bind ws.detectLanguage with
      | some language => ws.switched language (installed id)
      | none => none
  | closeBuffer id => Function.update installed id none
  | _ => installed

/-- A call on a highlighted buffer passes the lines it had at the last call, or says exactly how
    they changed since then. -/
def Honest (s : Scene) : Event → Prop
  | setLanguage id _ new | openBuffer id _ new =>
    s.workspace.highlighter? id = none ∨ new = s.lines id
  | linesChanged id new edit =>
    s.workspace.highlighter? id = none ∨ edit.Describes (s.lines id) new
  | _ => True

end Event

namespace Scene

/-- The scene after an event. -/
def step (s : Scene) (event : Event) : Scene where
  workspace := event.perform s.workspace
  lines := event.linesAfter s.lines
  installed := event.installedAfter s.workspace s.installed

/-- The scene after some events. -/
def run (s : Scene) (events : List Event) : Scene := events.foldl step s

/-- All events are honest. -/
def HonestRun (s : Scene) : List Event → Prop
  | [] => True
  | event :: rest => event.Honest s ∧ HonestRun (s.step event) rest

/-- A new workspace, with no buffer yet. -/
def start (config : Config) (files : FileSystem) : Scene :=
  ⟨.new config files, fun _ => [], fun _ => none⟩

end Scene

/-! ## Calls

  No call about languages or themes touches a buffer.  The snapshots in a switch do not either, so a
  switch can only change its own buffer, at its end. -/

/-- The buffers and the switch are as they were. -/
structure Undisturbed (before after : Workspace) : Prop where
  buffers : after.buffers = before.buffers
  enabled : after.enabled = before.enabled

namespace Undisturbed

variable {a b c : Workspace}

theorem refl (ws : Workspace) : Undisturbed ws ws := ⟨rfl, rfl⟩

theorem trans (h : Undisturbed a b) (h' : Undisturbed b c) : Undisturbed a c :=
  ⟨h'.buffers.trans h.buffers, h'.enabled.trans h.enabled⟩

end Undisturbed

/-- Entering a language leaves the buffers alone. -/
theorem catalogue_undisturbed (ws : Workspace) (name : String) :
    Undisturbed ws (ws.catalogue name).2 := by
  unfold catalogue
  split <;> exact ⟨rfl, rfl⟩

/-- So does adding one, whether it succeeds or not. -/
theorem addLanguage_undisturbed (ws : Workspace) (text : String) :
    Undisturbed ws (ws.addLanguage text).2 := by
  unfold addLanguage
  split
  · exact .refl ws
  · rename_i name _
    split
    · exact .refl ws
    · have hcatalogue := catalogue_undisturbed
        { ws with grammars := ws.grammars.register name text } name
      split
      · rename_i after hafter
        rw [hafter] at hcatalogue
        exact .trans (b := { ws with grammars := ws.grammars.register name text }) ⟨rfl, rfl⟩
          hcatalogue
      · rename_i e after hafter
        rw [hafter] at hcatalogue
        exact ⟨hcatalogue.buffers, hcatalogue.enabled⟩

/-- And adding the language of a file, which comes to nothing if the file cannot be read. -/
theorem addLanguageFile_undisturbed (ws : Workspace) (path : String) :
    Undisturbed ws (ws.addLanguageFile path).2 := by
  unfold addLanguageFile
  split
  · exact addLanguage_undisturbed ws _
  · exact .refl ws

/-- And a style sheet that is added. -/
theorem addStyle_undisturbed (ws : Workspace) (name text : String) :
    Undisturbed ws (ws.addStyle name text).2 := by
  unfold addStyle
  split <;> exact ⟨rfl, rfl⟩

/-- Looking for a theme keeps it at most. -/
theorem themeOf_undisturbed (ws : Workspace) (name : String) :
    Undisturbed ws (ws.themeOf name).2 := by
  unfold themeOf
  split
  · exact .refl ws
  · split <;> exact ⟨rfl, rfl⟩

/-- A snapshot loads a grammar and maybe a theme, and touches no buffer. -/
theorem snapshot_undisturbed (ws : Workspace) (language : String) :
    Undisturbed ws (ws.snapshot language).2 := by
  unfold snapshot
  split
  · exact ⟨rfl, rfl⟩
  · rename_i g grammars _
    cases hstyle : g.style with
    | none => exact ⟨rfl, rfl⟩
    | some style =>
      have htheme := themeOf_undisturbed { ws with grammars := grammars } style
      exact ⟨htheme.buffers, htheme.enabled⟩

/-- A new workspace has no buffers, and highlighting is on. -/
theorem new_buffers (config : Config) (files : FileSystem) :
    (new config files).buffers = [] ∧ (new config files).enabled = true := by
  have hfold : ∀ (definitions : List (String × Definition)) (ws : Workspace),
      Undisturbed ws (definitions.foldl (fun ws e => (ws.catalogue e.1).2) ws) := by
    intro definitions
    induction definitions with
    | nil => exact Undisturbed.refl
    | cons e rest ih => exact fun ws => (catalogue_undisturbed ws e.1).trans (ih _)
  have hnew : Undisturbed _ (new config files) := hfold _ _
  exact ⟨hnew.buffers, hnew.enabled⟩

/-- What a switch to another language does: it fails and leaves the buffers alone, or the buffer has
    a highlighter with the grammar of the language then, which is up to date. -/
theorem setBufferLanguage_cases (ws : Workspace) (id : Nat) (language : String) (lines : Buffer) :
    (∃ e, (ws.snapshot language).1 = .error e ∧
        (ws.setBufferLanguage id language lines).1 = .error e ∧
        Undisturbed ws (ws.setBufferLanguage id language lines).2) ∨
      ∃ g theme repaint hl, (ws.snapshot language).1 = .ok (g, theme) ∧
        (ws.setBufferLanguage id language lines).1 = .ok repaint ∧
        hl.grammar = g ∧ hl.UpToDate lines ∧
        (ws.setBufferLanguage id language lines).2.buffers = ws.buffers.set id hl ∧
        (ws.setBufferLanguage id language lines).2.enabled = ws.enabled := by
  have hsame := snapshot_undisturbed ws language
  unfold setBufferLanguage
  generalize ws.snapshot language = snapped at hsame ⊢
  obtain ⟨e | ⟨g, theme⟩, after⟩ := snapped
  · exact .inl ⟨e, rfl, rfl, hsame⟩
  · -- the highlighter that the buffer had, or a new one, goes over to the grammar
    refine .inr ⟨g, theme, _, (((after.buffers.find? id).getD
      { grammar := g, theme := theme }).setSnapshot g theme lines).1, rfl, rfl, rfl, ?_, ?_,
      hsame.enabled⟩
    · exact Highlighter.rehighlight_upToDate _ lines
    · show after.buffers.set id _ = _
      rw [hsame.buffers]

/-- A file without a language takes the highlighter away, any other is a switch to its language. -/
theorem openBuffer_eq (ws : Workspace) (id : Nat) (path : Option String) (lines : Buffer) :
    ws.openBuffer id path lines
      = match path.bind ws.detectLanguage with
        | some language => ws.setBufferLanguage id language lines
        | none => (.ok {}, ws.closeBuffer id) := rfl

/-! ## Events about other buffers

  An event may replace the highlighter of one buffer.  Of all other buffers it has to be shown that
  nothing about them changes. -/

/-- A buffer is shown as before. -/
structure Spares (id : Nat) (before after : Workspace) : Prop where
  highlighter_eq : after.highlighter? id = before.highlighter? id
  enabled_eq : after.enabled = before.enabled

section Others

variable {ws after : Workspace} {id other : Nat}

/-- Where no buffer is touched, each one is shown as before. -/
theorem Undisturbed.spares (h : Undisturbed ws after) (id : Nat) : Spares id ws after :=
  ⟨by rw [highlighter?, h.buffers]; rfl, h.enabled⟩

/-- A buffer that is spared has the spans that it had. -/
theorem Spares.spans_eq (h : Spares id ws after) (line : Nat) :
    after.spans id line = ws.spans id line := by
  unfold spans
  rw [h.highlighter_eq, h.enabled_eq]

/-- Installing a highlighter in one buffer spares the others. -/
theorem spares_set {hl : Highlighter} (hne : id ≠ other)
    (hbuffers : after.buffers = ws.buffers.set other hl) (henabled : after.enabled = ws.enabled) :
    Spares id ws after := by
  refine ⟨?_, henabled⟩
  rw [highlighter?, hbuffers, Dict.find?_set_of_ne hne.symm]
  rfl

/-- A switch in one buffer spares the others, whether it succeeds or not. -/
theorem spares_setBufferLanguage (ws : Workspace) (language : String) (lines : Buffer)
    (hne : id ≠ other) : Spares id ws (ws.setBufferLanguage other language lines).2 := by
  rcases setBufferLanguage_cases ws other language lines with
    ⟨e, -, -, hsame⟩ | ⟨g, theme, repaint, hl, -, -, -, -, hset, henabled⟩
  · exact hsame.spares id
  · exact spares_set hne hset henabled

theorem spares_closeBuffer (ws : Workspace) (hne : id ≠ other) :
    Spares id ws (ws.closeBuffer other) :=
  ⟨Dict.find?_erase_of_ne hne.symm _, rfl⟩

/-- **An event spares the buffers that it is not about**, if it is not the toggle. -/
theorem perform_spares (ws : Workspace) {event : Event} (hid : event.buffer? ≠ some id)
    (htoggle : event ≠ .toggle) : Spares id ws (event.perform ws) := by
  cases event with
  | setLanguage other language lines =>
    exact spares_setBufferLanguage ws language lines fun heq => hid (congrArg some heq.symm)
  | openBuffer other path lines =>
    have hne : id ≠ other := fun heq => hid (congrArg some heq.symm)
    show Spares id ws (ws.openBuffer other path lines).2
    rw [openBuffer_eq]
    split
    · exact spares_setBufferLanguage ws _ lines hne
    · exact spares_closeBuffer ws hne
  | closeBuffer other => exact spares_closeBuffer ws fun heq => hid (congrArg some heq.symm)
  | linesChanged other lines edit =>
    have hne : id ≠ other := fun heq => hid (congrArg some heq.symm)
    show Spares id ws (ws.linesChanged other lines edit).2
    unfold linesChanged
    split
    · exact ⟨rfl, rfl⟩
    · exact spares_set hne rfl rfl
  | toggle => exact absurd rfl htoggle
  | addLanguage text => exact (addLanguage_undisturbed ws text).spares id
  | addLanguageFile path => exact (addLanguageFile_undisturbed ws path).spares id
  | addStyle name text => exact (addStyle_undisturbed ws name text).spares id
  | snapshot language => exact (snapshot_undisturbed ws language).spares id
  | filesChange files => exact ⟨rfl, rfl⟩

/-- **A switch that fails spares every buffer.** -/
theorem failure_spares (ws : Workspace) {event : Event} {e : GrammarError}
    (h : event.failure? ws = some e) : Spares id ws (event.perform ws) := by
  -- only switches fail, and a switch that fails installs nothing
  have hswitch : ∀ id' language lines, (∀ repaint,
      (ws.setBufferLanguage id' language lines).1 ≠ .ok repaint) →
      Spares id ws (ws.setBufferLanguage id' language lines).2 := by
    intro id' language lines hfails
    rcases setBufferLanguage_cases ws id' language lines with
      ⟨e, -, -, hsame⟩ | ⟨g, theme, repaint, hl, -, hok, -⟩
    · exact hsame.spares id
    · exact absurd hok (hfails repaint)
  cases event with
  | setLanguage id' language lines =>
    refine hswitch id' language lines fun repaint hok => ?_
    rw [Event.failure?, hok] at h
    exact absurd h (by simp)
  | openBuffer id' path lines =>
    show Spares id ws (ws.openBuffer id' path lines).2
    rw [Event.failure?] at h
    rw [openBuffer_eq] at h ⊢
    cases hlanguage : path.bind ws.detectLanguage with
    | none =>
      rw [hlanguage] at h
      exact absurd h (by simp)
    | some language =>
      rw [hlanguage] at h
      refine hswitch id' language lines fun repaint hok => ?_
      simp only [hok] at h
      exact absurd h (by simp)
  | _ => exact absurd h (by simp [Event.failure?])

end Others

/-! ## Runs

  The invariant and its steps.  The step is proved buffer by buffer: for the buffer that the event
  is about there is one lemma for each kind of event, and all others stay as they are. -/

/-- What a buffer's highlighter has to be: none where no grammar is installed, else one with this
    grammar that is up to date with the lines. -/
inductive Tracks : Option Highlighter → Option Grammar → Buffer → Prop
  | bare (lines : Buffer) : Tracks none none lines
  | shown {hl : Highlighter} {lines : Buffer} (h : hl.UpToDate lines) :
      Tracks (some hl) (some hl.grammar) lines

/-- The highlighters are those of the grammars installed and of the lines passed last. -/
def Scene.Faithful (s : Scene) : Prop :=
  ∀ id, Tracks (s.workspace.highlighter? id) (s.installed id) (s.lines id)

/-- A new workspace has no buffers, and notes none. -/
theorem start_faithful (config : Config) (files : FileSystem) : (Scene.start config files).Faithful := by
  intro id
  have hnone : (new config files).highlighter? id = none := by
    rw [highlighter?, (new_buffers config files).1]
    rfl
  simp only [Scene.start, hnone]
  exact .bare []

/-- A switch of a buffer whose lines are passed as they were last. -/
theorem tracks_setBufferLanguage {ws : Workspace} {id : Nat} {current : Option Grammar}
    {old lines : Buffer} (language : String) (h : Tracks (ws.highlighter? id) current old)
    (hlines : ws.highlighter? id = none ∨ lines = old) :
    Tracks ((ws.setBufferLanguage id language lines).2.highlighter? id)
      (ws.switched language current) lines := by
  unfold switched
  rcases setBufferLanguage_cases ws id language lines with
    ⟨e, hfails, -, hsame⟩ | ⟨g, theme, repaint, hl, hsnapshot, -, rfl, hfull, hset, -⟩
  · -- what was shown before is still there
    rw [hfails, (hsame.spares id).highlighter_eq]
    rcases hlines with hnone | rfl
    · rw [hnone] at h ⊢
      cases h
      exact .bare lines
    · exact h
  · rw [hsnapshot, highlighter?, hset, Dict.find?_set_self]
    exact .shown hfull

/-- An edit of a buffer that is reported as it is. -/
theorem tracks_linesChanged {ws : Workspace} {id : Nat} {current : Option Grammar}
    {old lines : Buffer} {edit : LineEdit} (h : Tracks (ws.highlighter? id) current old)
    (hedit : ws.highlighter? id = none ∨ edit.Describes old lines) :
    Tracks ((ws.linesChanged id lines edit).2.highlighter? id) current lines := by
  cases hfind : ws.buffers.find? id with
  | none =>
    have hnone : ws.highlighter? id = none := hfind
    have hsame : (ws.linesChanged id lines edit).2 = ws := by
      unfold linesChanged
      rw [hfind]
    rw [hnone] at h
    cases h
    rw [hsame, hnone]
    exact .bare lines
  | some hl =>
    have hsome : ws.highlighter? id = some hl := hfind
    have hset : (ws.linesChanged id lines edit).2.buffers
        = ws.buffers.set id (hl.change lines edit).1 := by
      unfold linesChanged
      rw [hfind]
    have hdescribes : edit.Describes old lines := by
      rcases hedit with hnone | hdescribes
      · exact absurd (hsome.symm.trans hnone) (by simp)
      · exact hdescribes
    rw [hsome] at h
    cases h with
    | shown hfull =>
      rw [highlighter?, hset, Dict.find?_set_self, ← Highlighter.change_grammar hl lines edit]
      exact .shown (Highlighter.change_describes hfull hdescribes)

/-- A buffer that is closed. -/
theorem tracks_closeBuffer (ws : Workspace) (id : Nat) (lines : Buffer) :
    Tracks ((ws.closeBuffer id).highlighter? id) none lines := by
  have hnone : (ws.closeBuffer id).highlighter? id = none := Dict.find?_erase_self ..
  rw [hnone]
  exact .bare lines

/-- What is noted of a buffer that an event is not about stays. -/
theorem noted_of_ne {event : Event} {id : Nat} (hid : event.buffer? ≠ some id) (s : Scene) :
    (s.step event).installed id = s.installed id ∧ (s.step event).lines id = s.lines id := by
  cases event with
  | setLanguage other language lines =>
    have hne : id ≠ other := fun heq => hid (congrArg some heq.symm)
    exact ⟨Function.update_of_ne hne .., Function.update_of_ne hne ..⟩
  | openBuffer other path lines =>
    have hne : id ≠ other := fun heq => hid (congrArg some heq.symm)
    exact ⟨Function.update_of_ne hne .., Function.update_of_ne hne ..⟩
  | closeBuffer other =>
    have hne : id ≠ other := fun heq => hid (congrArg some heq.symm)
    exact ⟨Function.update_of_ne hne .., rfl⟩
  | linesChanged other lines edit =>
    have hne : id ≠ other := fun heq => hid (congrArg some heq.symm)
    exact ⟨rfl, Function.update_of_ne hne ..⟩
  | _ => exact ⟨rfl, rfl⟩

/-- **An honest event keeps a scene faithful.** -/
theorem step_faithful {s : Scene} {event : Event} (h : s.Faithful) (he : event.Honest s) :
    (s.step event).Faithful := by
  intro id
  by_cases hid : event.buffer? = some id
  · -- the event is about this buffer
    cases event with
    | setLanguage id' language lines =>
      obtain rfl : id' = id := Option.some.inj hid
      simp only [Scene.step, Event.perform, Event.installedAfter, Event.linesAfter,
        Function.update_self]
      exact tracks_setBufferLanguage language (h id') he
    | openBuffer id' path lines =>
      obtain rfl : id' = id := Option.some.inj hid
      simp only [Scene.step, Event.perform, Event.installedAfter, Event.linesAfter,
        Function.update_self, openBuffer_eq]
      split
      · exact tracks_setBufferLanguage _ (h id') he
      · exact tracks_closeBuffer _ _ _
    | closeBuffer id' =>
      obtain rfl : id' = id := Option.some.inj hid
      simp only [Scene.step, Event.perform, Event.installedAfter, Event.linesAfter,
        Function.update_self]
      exact tracks_closeBuffer _ _ _
    | linesChanged id' lines edit =>
      obtain rfl : id' = id := Option.some.inj hid
      simp only [Scene.step, Event.perform, Event.installedAfter, Event.linesAfter,
        Function.update_self]
      exact tracks_linesChanged (h id') he
    | _ => exact absurd hid (by simp [Event.buffer?])
  · obtain ⟨hinstalled, hlines⟩ := noted_of_ne hid s
    have hhighlighter : (s.step event).workspace.highlighter? id = s.workspace.highlighter? id := by
      by_cases htoggle : event = .toggle
      · rw [htoggle]
        rfl
      · exact (perform_spares s.workspace hid htoggle).highlighter_eq
    rw [hinstalled, hlines, hhighlighter]
    exact h id

/-- **An honest run keeps the scene faithful**, by induction on its events. -/
theorem run_faithful {s : Scene} {events : List Event} (h : s.Faithful)
    (he : s.HonestRun events) : (s.run events).Faithful := by
  induction events generalizing s with
  | nil => exact h
  | cons event rest ih => exact ih (step_faithful h he.1) he.2

/-! ## What is shown

  From the highlighters to the spans: what is up to date has the spans of the full highlighting. -/

/-- The spans of a line when the whole buffer is highlighted. -/
def fullSpans (g : Grammar) (buffer : Buffer) (line : Nat) : List Span :=
  ((highlightLines g .normal buffer.lines)[line]?.map (·.spans)).getD []

/-- A highlighter that is up to date has the spans of the full highlighting. -/
theorem spans_of_upToDate {hl : Highlighter} {buffer : Buffer} (h : hl.UpToDate buffer)
    (line : Nat) : hl.spans line = fullSpans hl.grammar buffer line := by
  rw [Highlighter.spans, h, fullRecords, List.getElem?_map, Option.map_map]
  rfl

section Tracks

variable {hl? : Option Highlighter} {g? : Option Grammar} {lines : Buffer}

/-- A buffer has a highlighter if a grammar is installed for it, and only then. -/
theorem Tracks.grammar_eq (h : Tracks hl? g? lines) : hl?.map (·.grammar) = g? := by
  cases h with
  | bare => rfl
  | shown _ => rfl

/-- What a highlighter shows is what highlighting everything would show. -/
theorem Tracks.spans_eq (h : Tracks hl? g? lines) (hsome : hl?.isSome) :
    ∃ g, g? = some g ∧
      ∀ line, (hl?.map (·.spans line)).getD [] = fullSpans g lines line := by
  cases h with
  | bare => exact absurd hsome (by simp)
  | shown hfull => exact ⟨_, rfl, spans_of_upToDate hfull⟩

end Tracks

/-- A buffer is highlighted exactly if a grammar is installed for it, and then with this grammar.
    While highlighting is on, a workspace shows every highlighted buffer as highlighting the whole
    of it with the grammar installed would.  While it is off nothing is shown, and turning it on
    again shows the same. -/
structure Scene.ShowsFull (s : Scene) : Prop where
  installed : ∀ id, (s.workspace.highlighter? id).map (·.grammar) = s.installed id
  bare : ∀ id line, s.workspace.highlighter? id = none → s.workspace.spans id line = []
  off : ∀ id line, s.workspace.enabled = false → s.workspace.spans id line = []
  full : ∀ id, s.workspace.enabled = true → (s.workspace.highlighter? id).isSome →
    ∃ g, s.installed id = some g ∧
      ∀ line, s.workspace.spans id line = fullSpans g (s.lines id) line
  notLost : ∀ id, s.workspace.enabled = false → (s.workspace.highlighter? id).isSome →
    ∃ g, s.installed id = some g ∧
      ∀ line, s.workspace.toggle.spans id line = fullSpans g (s.lines id) line

/-- What a faithful scene shows is what highlighting everything would show. -/
theorem Scene.Faithful.showsFull {s : Scene} (h : s.Faithful) : s.ShowsFull := by
  constructor
  case installed => exact fun id => (h id).grammar_eq
  case bare =>
    intro id line hnone
    rw [spans, hnone]
    exact ite_self _
  case off =>
    intro id line hoff
    rw [spans, hoff]
    rfl
  case full =>
    intro id hon hsome
    obtain ⟨g, hg, hspans⟩ := (h id).spans_eq hsome
    refine ⟨g, hg, fun line => ?_⟩
    rw [spans, if_pos hon]
    exact hspans line
  case notLost =>
    intro id hoff hsome
    obtain ⟨g, hg, hspans⟩ := (h id).spans_eq hsome
    refine ⟨g, hg, fun line => ?_⟩
    -- highlighting was off, so the switch turns it on
    have hon : s.workspace.toggle.enabled = true := by rw [toggle, hoff]; rfl
    rw [spans, if_pos hon]
    exact hspans line

/-- An event other than the toggle changes nothing of the buffers that it is not about, and a switch
    that fails changes nothing of any buffer. -/
structure Event.Confined (event : Event) (ws : Workspace) : Prop where
  others : ∀ id, event.buffer? ≠ some id → event ≠ .toggle →
    (event.perform ws).highlighter? id = ws.highlighter? id ∧
      ∀ line, (event.perform ws).spans id line = ws.spans id line
  failed : ∀ id e, event.failure? ws = some e →
    (event.perform ws).highlighter? id = ws.highlighter? id ∧
      ∀ line, (event.perform ws).spans id line = ws.spans id line

/-- **Runs show the right spans.**  At every point of an honest run the workspace shows what
    highlighting the whole buffer with the grammar of its last successful switch would show, or
    nothing; and no event that may come then changes a buffer that it is not about, nor does a
    switch that fails change any. -/
theorem run_shows_full {config : Config} {files : FileSystem} {events : List Event}
    (he : (Scene.start config files).HonestRun events) :
    ((Scene.start config files).run events).ShowsFull ∧
      ∀ event : Event, event.Confined ((Scene.start config files).run events).workspace := by
  refine ⟨(run_faithful (start_faithful config files) he).showsFull, fun event => ?_⟩
  constructor
  · intro id hid htoggle
    have hspared := perform_spares ((Scene.start config files).run events).workspace hid htoggle
    exact ⟨hspared.highlighter_eq, hspared.spans_eq⟩
  · intro id e hfails
    have hspared : Spares id _ _ := failure_spares _ hfails
    exact ⟨hspared.highlighter_eq, hspared.spans_eq⟩

/-- Two buffers are opened; while highlighting is off a line is added to one of them, and its switch
    to a language that is not there fails. -/
theorem run_shows_full_offAndOn :
    let one : Buffer := ["key = 1".toList]
    let two : Buffer := ["key = 1".toList, "# end".toList]
    let events : List Event := [.openBuffer 0 (some "a.toml") one, .setLanguage 7 "rust" two,
      .toggle, .linesChanged 0 two ⟨1, 0, 1⟩, .setLanguage 0 "none" two, .addStyle "s" "", .toggle]
    (Scene.start {} {}).HonestRun events ∧ ((Scene.start {} {}).run events).ShowsFull ∧
      ∀ event : Event, event.Confined ((Scene.start {} {}).run events).workspace := by
  intro one two events
  have hbare : ∀ id, (Scene.start {} {}).workspace.highlighter? id = none := by
    intro id
    rw [Scene.start, highlighter?, (new_buffers {} {}).1]
    rfl
  have hopened : ((Scene.start {} {}).step
      (.openBuffer 0 (some "a.toml") one)).workspace.highlighter? 7 = none := by
    have hspared : Spares 7 _ (Event.perform _ (.openBuffer 0 (some "a.toml") one)) :=
      perform_spares (Scene.start {} {}).workspace (by decide) (by simp)
    exact hspared.highlighter_eq.trans (hbare 7)
  have he : (Scene.start {} {}).HonestRun events := by
    refine ⟨.inl (hbare 0), .inl hopened, trivial, .inr ⟨by decide, ["# end".toList], rfl, rfl⟩,
      .inr rfl, trivial, trivial, trivial⟩
  exact ⟨he, run_shows_full he⟩

end Workspace

end Highlight
