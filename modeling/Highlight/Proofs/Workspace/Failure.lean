/-
  Calls that fail.

  A call that fails may have changed the library of grammars: parents were loaded on the way, a
  definition was registered and forgotten again.  None of this can be noticed.

  1. **Answers** — every event has an `Answer`, and `Shown` is all that can be asked in between.
     The `transcript` of some events is what one hears along them.

  2. **Failing** — after a call that has failed a workspace is `Alike` to what it was before: the
     same but for what its library of grammars keeps (`failed_alike`).

  3. **Afterwards** — without directories what is kept never shows, so workspaces that are alike
     answer every event alike, and are alike then (`perform_alike`).  There is one lemma for each
     call that loads grammars; each rests on the two libraries loading a name alike
     (`InOrder.loadNamed_congr`).  By induction along the events the transcripts are the same.

  With directories only the first half can hold: a parent that has been kept hides a file that has
  come in the meantime, so a later load may differ.  The failed call still leaves what the workspace
  shows and holds as it was.

  Main result: **`failed_call_unnoticed`**.
-/
import Highlight.Proofs.Workspace.Catalogue

namespace Highlight

namespace Workspace

open GrammarLibrary (Frame InOrder)

/-! ## Answers

  What may be noticed of a workspace has to be said first: what calls answer, and what can be read
  between them. -/

/-- What a call says. -/
inductive Answer where
  | language (result : Except GrammarError Unit)
  | style (result : Except ThemeError Unit)
  | switch (result : Except GrammarError LineRange)
  | snapshot (result : Except GrammarError (Grammar × Theme))
  | repaint (lines : LineRange)
  | done

/-- A call says that it has failed. -/
inductive Answer.Failed : Answer → Prop
  | language (e : GrammarError) : Failed (.language (.error e))
  | style (e : ThemeError) : Failed (.style (.error e))
  | switch (e : GrammarError) : Failed (.switch (.error e))
  | snapshot (e : GrammarError) : Failed (.snapshot (.error e))

/-- What an event says. -/
def Event.answer (ws : Workspace) : Event → Answer
  | setLanguage id language lines => .switch (ws.setBufferLanguage id language lines).1
  | openBuffer id path lines => .switch (ws.openBuffer id path lines).1
  | closeBuffer _ | toggle | filesChange _ => .done
  | linesChanged id lines edit => .repaint (ws.linesChanged id lines edit).1
  | addLanguage text => .language (ws.addLanguage text).1
  | addLanguageFile path => .language (ws.addLanguageFile path).1
  | addStyle name text => .style (ws.addStyle name text).1
  | snapshot language => .snapshot (ws.snapshot language).1

/-- All that can be asked of a workspace without changing it. -/
structure Shown where
  languages : List String
  detected : String → Option String
  highlighter : Nat → Option Highlighter
  spans : Nat → Nat → List Span
  enabled : Bool

/-- What a workspace shows. -/
def shown (ws : Workspace) : Shown where
  languages := ws.listLanguages
  detected := ws.detectLanguage
  highlighter := ws.highlighter?
  spans := ws.spans
  enabled := ws.enabled

/-- How a workspace answers some events, and what it shows after each of them. -/
def transcript (ws : Workspace) : List Event → List (Answer × Shown)
  | [] => []
  | event :: rest =>
    (event.answer ws, (event.perform ws).shown) :: (event.perform ws).transcript rest

/-! ## Failing

  How far a failed call comes differs from call to call; each of them leaves the workspace alike. -/

/-- Two workspaces that differ at most in what their libraries of grammars keep. -/
structure Alike (a b : Workspace) : Prop where
  frame : Frame a.grammars b.grammars
  rest : b = { a with grammars := b.grammars }

/-- What a workspace shows is as before, and so are the definitions, style sheets and themes that it
    holds. -/
structure Unchanged (before after : Workspace) : Prop where
  shown : after.shown = before.shown
  definitions : after.grammars.sources = before.grammars.sources
  sheets : after.themes.sources = before.themes.sources
  themes : after.loadedThemes = before.loadedThemes

section Failing

variable {ws a b : Workspace}

theorem Alike.refl (ws : Workspace) : Alike ws ws := ⟨.refl _, rfl⟩

/-- What a library keeps is no part of what is shown or held. -/
theorem Alike.unchanged (h : Alike a b) : Unchanged a b := by
  constructor
  · rw [h.rest]
    rfl
  · exact h.frame.sources
  · rw [h.rest]
  · rw [h.rest]

/-- A snapshot that fails has loaded grammars, and done nothing else. -/
theorem snapshot_failed {language : String} {e : GrammarError}
    (h : (ws.snapshot language).1 = .error e) : Alike ws (ws.snapshot language).2 := by
  rcases hload : (ws.grammars.loadNamed language).1 with e' | g
  · rw [snapshot_error hload]
    exact ⟨GrammarLibrary.loadNamed_frame _ _, rfl⟩
  · rw [snapshot_ok hload] at h
    exact absurd h (by simp)

/-- A switch that fails installs no highlighter. -/
theorem setBufferLanguage_failed {id : Nat} {language : String} {lines : Buffer} {e : GrammarError}
    (h : (ws.setBufferLanguage id language lines).1 = .error e) :
    Alike ws (ws.setBufferLanguage id language lines).2 := by
  have hfailed : ∀ e, (ws.snapshot language).1 = .error e → Alike ws (ws.snapshot language).2 :=
    fun _ => snapshot_failed
  unfold setBufferLanguage at h ⊢
  rcases hsnapshot : ws.snapshot language with ⟨e' | ⟨g, theme⟩, after⟩
  · rw [hsnapshot] at hfailed
    exact hfailed e' rfl
  · rw [hsnapshot] at h
    exact absurd h (by simp)

/-- **A definition that could not be added leaves nothing behind.** -/
theorem addLanguage_failed (hlisted : Listed ws) {text : String} {e : GrammarError}
    (h : (ws.addLanguage text).1 = .error e) : Alike ws (ws.addLanguage text).2 := by
  rcases addLanguage_cases ws text with ⟨e', hadd⟩ | ⟨name, d, -, hname, hnew, hcase⟩
  · rw [hadd]
    exact .refl ws
  · rcases hcase with ⟨e', -, hadd⟩ | ⟨g, -, hadd⟩
    · have hfree := hlisted.free (nameKey_declared hname ▸ hnew)
      rw [hadd]
      exact ⟨forget_register hfree text, rfl⟩
    · rw [hadd] at h
      exact absurd h (by simp)

/-- **A call that fails changes at most what the library of grammars keeps.** -/
theorem failed_alike (hlisted : Listed ws) {event : Event} (h : (event.answer ws).Failed) :
    Alike ws (event.perform ws) := by
  cases event with
  | setLanguage id language lines =>
    rcases hresult : (ws.setBufferLanguage id language lines).1 with e | repaint
    · exact setBufferLanguage_failed hresult
    · rw [Event.answer, hresult] at h
      exact nomatch h
  -- opening a file of no known language cannot fail, and otherwise it is a switch
  | openBuffer id path lines =>
    show Alike ws (ws.openBuffer id path lines).2
    rw [Event.answer] at h
    rw [openBuffer_eq] at h ⊢
    cases hlanguage : path.bind ws.detectLanguage with
    | none =>
      rw [hlanguage] at h
      exact nomatch h
    | some language =>
      rw [hlanguage] at h
      simp only at h ⊢
      rcases hresult : (ws.setBufferLanguage id language lines).1 with e | repaint
      · exact setBufferLanguage_failed hresult
      · rw [hresult] at h
        exact nomatch h
  | addLanguage text =>
    rcases hresult : (ws.addLanguage text).1 with e | _
    · exact addLanguage_failed hlisted hresult
    · rw [Event.answer, hresult] at h
      exact nomatch h
  | addLanguageFile path =>
    show Alike ws (ws.addLanguageFile path).2
    rw [Event.answer] at h
    unfold addLanguageFile at h ⊢
    split
    · rename_i text hread
      rw [hread] at h
      simp only at h
      rcases hresult : (ws.addLanguage text).1 with e | _
      · exact addLanguage_failed hlisted hresult
      · rw [hresult] at h
        exact nomatch h
    · exact .refl ws
  -- a style sheet is filed only when it can be read
  | addStyle name text =>
    show Alike ws (ws.addStyle name text).2
    rw [Event.answer] at h
    unfold addStyle at h ⊢
    split
    · exact .refl ws
    · rename_i theme hload
      rw [hload] at h
      exact nomatch h
  | snapshot language =>
    rcases hresult : (ws.snapshot language).1 with e | snapped
    · exact snapshot_failed hresult
    · rw [Event.answer, hresult] at h
      exact nomatch h
  -- the other events do not fail
  | closeBuffer id => exact nomatch h
  | linesChanged id lines edit => exact nomatch h
  | toggle => exact nomatch h
  | filesChange files => exact nomatch h

end Failing

/-! ## Afterwards

  That a workspace shows the same now does not mean that it will after the next call.  So being
  alike has to be kept up by every event, with the same answers on both sides. -/

section Afterwards

variable {a b : Workspace}

/-- What two workspaces answer is the same, and they are alike afterwards. -/
structure Agrees {α : Type} (ra rb : α × Workspace) : Prop where
  answer : rb.1 = ra.1
  alike : Alike ra.2 rb.2

/-- The theme for a grammar does not depend on the library of grammars. -/
theorem themeFor_alike (h : Alike a b) (g : Grammar) : Agrees (a.themeFor g) (b.themeFor g) := by
  have hthemes : b.themes = a.themes ∧ b.loadedThemes = a.loadedThemes ∧
      b.defaultTheme = a.defaultTheme := by
    rw [h.rest]
    exact ⟨rfl, rfl, rfl⟩
  unfold themeFor themeOf
  rw [hthemes.1, hthemes.2.1, hthemes.2.2]
  split
  · exact ⟨rfl, h⟩
  · split
    · exact ⟨rfl, h⟩
    · split
      · refine ⟨rfl, h.frame, ?_⟩
        rw [h.rest]
      · exact ⟨rfl, h⟩

/-- Loading in both libraries leaves workspaces alike. -/
theorem Alike.loadNamed (h : Alike a b) (name : String) :
    Alike { a with grammars := (a.grammars.loadNamed name).2 }
      { b with grammars := (b.grammars.loadNamed name).2 } := by
  have hframe := (GrammarLibrary.loadNamed_frame a.grammars name).symm.trans
    (h.frame.trans (GrammarLibrary.loadNamed_frame b.grammars name))
  refine ⟨hframe, ?_⟩
  rw [h.rest]

/-- Snapshots are answered alike: the grammars agree, and themes do not come from the library. -/
theorem snapshot_alike (h : Alike a b) (ha : InOrder a.grammars) (hb : InOrder b.grammars)
    (language : String) : Agrees (a.snapshot language) (b.snapshot language) := by
  have hload := ha.loadNamed_congr hb h.frame language
  have hloaded := h.loadNamed language
  rcases hresult : (a.grammars.loadNamed language).1 with e | g
  · rw [snapshot_error hresult, snapshot_error (hload.trans hresult)]
    exact ⟨rfl, hloaded⟩
  · have htheme := themeFor_alike h g
    rw [snapshot_ok hresult, snapshot_ok (hload.trans hresult)]
    refine ⟨by rw [htheme.answer], hloaded.frame, ?_⟩
    rw [htheme.alike.rest]

/-- So are switches, which then install the same highlighter. -/
theorem setBufferLanguage_alike (h : Alike a b) (ha : InOrder a.grammars) (hb : InOrder b.grammars)
    (id : Nat) (language : String) (lines : Buffer) :
    Agrees (a.setBufferLanguage id language lines) (b.setBufferLanguage id language lines) := by
  have hsnapshot := snapshot_alike h ha hb language
  unfold setBufferLanguage
  generalize a.snapshot language = ra at hsnapshot ⊢
  generalize b.snapshot language = rb at hsnapshot ⊢
  obtain ⟨result, a'⟩ := ra
  obtain ⟨result', b'⟩ := rb
  obtain rfl : result' = result := hsnapshot.answer
  have hafter : Alike a' b' := hsnapshot.alike
  have hbuffers : b'.buffers = a'.buffers := by rw [hafter.rest]
  rcases result' with e | ⟨g, theme⟩
  · exact ⟨rfl, hafter⟩
  · simp only [hbuffers]
    refine ⟨rfl, hafter.frame, ?_⟩
    rw [hafter.rest]

/-- A language is entered in both, or in neither. -/
theorem catalogue_alike (h : Alike a b) (ha : InOrder a.grammars) (hb : InOrder b.grammars)
    (name : String) : Agrees (a.catalogue name) (b.catalogue name) := by
  have hload := ha.loadNamed_congr hb h.frame name
  have hloaded := h.loadNamed name
  rcases hresult : (a.grammars.loadNamed name).1 with e | g
  · rw [catalogue_error hresult, catalogue_error (hload.trans hresult)]
    exact ⟨rfl, hloaded⟩
  · rw [catalogue_ok hresult, catalogue_ok (hload.trans hresult)]
    refine ⟨rfl, hloaded.frame, ?_⟩
    rw [hloaded.rest]
    rfl

/-- A definition is refused in both, or registered in both and then entered alike. -/
theorem addLanguage_alike (h : Alike a b) (ha : InOrder a.grammars) (hb : InOrder b.grammars)
    (text : String) : Agrees (a.addLanguage text) (b.addLanguage text) := by
  have hlanguages : ∀ key, b.languages.has key = a.languages.has key := fun _ => by rw [h.rest]
  unfold addLanguage
  cases hdeclared : GrammarLibrary.declaredName text with
  | error e => exact ⟨rfl, h⟩
  | ok name =>
    obtain ⟨d, hparse, hname⟩ := declaredName_eq_ok_iff.mp hdeclared
    have hnamed := register_wellNamed hparse hname
    simp only
    rw [hlanguages]
    split
    · exact ⟨rfl, h⟩
    · have hregistered : Alike { a with grammars := a.grammars.register name text }
          { b with grammars := b.grammars.register name text } := by
        refine ⟨h.frame.register name text, ?_⟩
        rw [h.rest]
      have hagrees := catalogue_alike hregistered (ha.register hnamed)
        (hb.register hnamed) name
      generalize catalogue { a with grammars := a.grammars.register name text } name = ra
        at hagrees ⊢
      generalize catalogue { b with grammars := b.grammars.register name text } name = rb
        at hagrees ⊢
      obtain ⟨result, a'⟩ := ra
      obtain ⟨result', b'⟩ := rb
      obtain rfl : result' = result := hagrees.answer
      have hafter : Alike a' b' := hagrees.alike
      rcases result' with e | _
      · refine ⟨rfl, hafter.frame.forget name, ?_⟩
        rw [hafter.rest]
      · exact ⟨rfl, hafter⟩

/-- **Workspaces that are alike answer every event alike, and are alike then.** -/
theorem perform_alike (h : Alike a b) (ha : InOrder a.grammars) (hb : InOrder b.grammars)
    (event : Event) :
    event.answer b = event.answer a ∧ Alike (event.perform a) (event.perform b) := by
  -- every call that answers does so by one constructor, so its answers agree if its results do
  have hagrees : ∀ {α : Type} {ra rb : α × Workspace} (answer : α → Answer), Agrees ra rb →
      answer rb.1 = answer ra.1 ∧ Alike ra.2 rb.2 :=
    fun answer h => ⟨congrArg answer h.answer, h.alike⟩
  cases event with
  | setLanguage id language lines =>
    exact hagrees .switch (setBufferLanguage_alike h ha hb id language lines)
  | openBuffer id path lines =>
    have hdetect : b.detectLanguage = a.detectLanguage := by rw [h.rest]; rfl
    refine hagrees .switch ?_
    rw [openBuffer_eq, openBuffer_eq, hdetect]
    split
    · exact setBufferLanguage_alike h ha hb id _ lines
    · refine ⟨rfl, h.frame, ?_⟩
      rw [h.rest]
      rfl
  | closeBuffer id =>
    refine ⟨rfl, h.frame, ?_⟩
    rw [h.rest]
    rfl
  | linesChanged id lines edit =>
    have hbuffers : b.buffers = a.buffers := by rw [h.rest]
    refine hagrees .repaint ?_
    unfold linesChanged
    rw [hbuffers]
    split
    · exact ⟨rfl, h⟩
    · refine ⟨rfl, h.frame, ?_⟩
      rw [h.rest]
  | toggle =>
    refine ⟨rfl, h.frame, ?_⟩
    rw [h.rest]
    rfl
  | addLanguage text => exact hagrees .language (addLanguage_alike h ha hb text)
  | addLanguageFile path =>
    refine hagrees .language ?_
    unfold addLanguageFile
    rw [h.frame.files]
    split
    · exact addLanguage_alike h ha hb _
    · exact ⟨rfl, h⟩
  -- style sheets are filed beside the grammars
  | addStyle name text =>
    have hthemes : b.themes = a.themes := by rw [h.rest]
    refine hagrees .style ?_
    unfold addStyle
    rw [hthemes]
    split
    · exact ⟨rfl, h⟩
    · refine ⟨rfl, h.frame, ?_⟩
      rw [h.rest]
  | snapshot language => exact hagrees .snapshot (snapshot_alike h ha hb language)
  | filesChange files =>
    refine ⟨rfl, ⟨h.frame.config, rfl, h.frame.sources⟩, ?_⟩
    rw [h.rest]
    rfl

/-- **What is heard along any events is the same**, by induction on them. -/
theorem transcript_alike (h : Alike a b) (ha : InOrder a.grammars) (hb : InOrder b.grammars)
    (events : List Event) : b.transcript events = a.transcript events := by
  induction events generalizing a b with
  | nil => rfl
  | cons event rest ih =>
    obtain ⟨hanswer, halike⟩ := perform_alike h ha hb event
    rw [transcript, transcript, hanswer, halike.unchanged.shown,
      ih halike (perform_inOrder ha event) (perform_inOrder hb event)]

/-- **A call that fails cannot be noticed.**  In any configuration, after any events, a call that
    fails leaves all that the workspace shows and holds as it was.  If grammars are not looked for
    in directories, all later calls answer as if it had not been made, whatever one asks in
    between. -/
theorem failed_call_unnoticed {config : Config} {files : FileSystem} {events : List Event}
    {event : Event} (hfailed : (event.answer ((new config files).run events)).Failed) :
    let ws := (new config files).run events
    Unchanged ws (event.perform ws) ∧
      (config.grammarDirs = [] → ∀ later, (event.perform ws).transcript later
        = ws.transcript later) := by
  intro ws
  have hlisted : Listed ws := run_listed (new_listed config files) events
  have halike := failed_alike hlisted hfailed
  refine ⟨halike.unchanged, fun hdirs later => ?_⟩
  have hinOrder : InOrder ws.grammars := run_inOrder (new_orderly hdirs files).inOrder events
  exact transcript_alike halike hinOrder (perform_inOrder hinOrder event) later

/-- An error is a failure. -/
theorem failed_of_error {ws : Workspace} {text : String}
    (h : ∃ e, (ws.addLanguage text).1 = .error e) :
    ((Event.addLanguage text).answer ws).Failed := by
  obtain ⟨e, he⟩ := h
  rw [Event.answer, he]
  exact .language e

/-- A language whose parent is not there cannot be added to a workspace that has the built-in
    definitions only. -/
theorem addLanguage_orphan {ws : Workspace} (hframe : Frame (stock {} {}) ws.grammars)
    (hinOrder : InOrder ws.grammars) :
    ∃ e, (ws.addLanguage "name='x'\nuse='y'").1 = .error e := by
  have hx : (Definition.parse? "name='x'\nuse='y'").bind (·.declaredName?) = some "x" := by
    decide +kernel
  have hfails : (((stock {} {}).register "x" "name='x'\nuse='y'").loadNamed
      "x").1.toOption.isNone := by decide +kernel
  rcases addLanguage_cases ws "name='x'\nuse='y'" with
    ⟨e, hadd⟩ | ⟨name, d, hparse, hname, -, ⟨e, -, hadd⟩ | ⟨g, hload, -⟩⟩
  · exact ⟨e, congrArg Prod.fst hadd⟩
  · exact ⟨e, congrArg Prod.fst hadd⟩
  · -- the built-in definitions alone settle whether it can be loaded
    obtain rfl : name = "x" := by
      rw [hparse] at hx
      exact Option.some.inj (hname.symm.trans hx)
    have hnamed := register_wellNamed hparse hname
    have hstock : InOrder (stock {} {}) := stock_inOrder rfl {}
    have hload' : (((stock {} {}).register "x" "name='x'\nuse='y'").loadNamed "x").1 = .ok g :=
      ((hstock.register hnamed).loadNamed_congr (hinOrder.register hnamed)
        (hframe.register ..) "x").symm.trans hload
    rw [hload'] at hfails
    exact absurd hfails (by simp [Except.toOption])

/-- A language whose parent is not there. -/
theorem failed_call_unnoticed_orphan :
    let ws := (new {} {}).run []
    let event : Event := .addLanguage "name='x'\nuse='y'"
    (event.answer ws).Failed ∧ Unchanged ws (event.perform ws) ∧
      (({} : Config).grammarDirs = [] → ∀ later, (event.perform ws).transcript later
        = ws.transcript later) := by
  have hdirs : ({} : Config).grammarDirs = [] := rfl
  have hframe : Frame (stock {} {}) (new {} {}).grammars := (new_spec {} {}).1
  have hinOrder : InOrder (new {} {}).grammars := (new_orderly hdirs {}).inOrder
  have hfailed : ((Event.addLanguage "name='x'\nuse='y'").answer ((new {} {}).run [])).Failed := by
    rw [run_nil]
    exact failed_of_error (addLanguage_orphan hframe hinOrder)
  exact ⟨hfailed, failed_call_unnoticed hfailed⟩

end Afterwards

end Workspace

end Highlight
