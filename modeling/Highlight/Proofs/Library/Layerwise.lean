/-
  What holds of every grammar that is ever loaded.

  A grammar comes about in one way only: it is a plain one over which definitions have been laid.
  So a property that plain grammars have, and that laying a definition over a grammar keeps
  (`Layerwise`), holds of whatever a library returns or keeps, for any registered definitions, any
  files and directories, and after any calls.

  1. **Loads** — one load, in whatever state the library is: by the definition's parent and by the
     grammars that are kept (`build_grammar`, `resolve_holds`).

  2. **Runs** — no call brings in a grammar of another kind (`run_holds`).

  The property is a parameter: all later results about every grammar of a library are instances, and
  each of them proves no more than that one layer keeps its property.

  Main result: `grammar_of_run`.
-/
import Highlight.Proofs.Library.Inheritance
import Highlight.Proofs.Library.Transparency

namespace Highlight

namespace GrammarLibrary

/-- A property of grammars that is built up layer by layer. -/
structure Layerwise (limits : Limits) (P : Grammar → Prop) : Prop where
  plain : ∀ name, P (.plain name limits)
  applyTo : ∀ (d : Definition) (name : String) (base : Grammar), P base → P (d.applyTo name base).1

/-- A library of a configuration all of whose kept grammars have a property. -/
structure Holds (config : Config) (P : Grammar → Prop) (library : GrammarLibrary) : Prop where
  config : library.config = config
  kept : ∀ key g, library.loaded.find? key = some g → P g

variable {config : Config} {P : Grammar → Prop} {library : GrammarLibrary} {g : Grammar}

/-- A library that keeps nothing keeps no grammar without the property. -/
theorem holds_of_empty (hconfig : library.config = config) (hempty : library.loaded = []) :
    Holds config P library := by
  refine ⟨hconfig, fun key g hkept => ?_⟩
  rw [hempty] at hkept
  exact absurd hkept (by simp)

theorem Holds.frame {after : GrammarLibrary} (h : Holds config P library)
    (hconfig : after.config = library.config) (hloaded : after.loaded = library.loaded) :
    Holds config P after :=
  ⟨hconfig.trans h.config, by rw [hloaded]; exact h.kept⟩

/-- What holds of the kept grammars does not depend on the problems or on what was counted. -/
theorem holds_robust (config : Config) (P : Grammar → Prop) : Robust (Holds config P) :=
  fun _ _ _ h => h.frame rfl rfl

/-- A grammar with the property may be kept. -/
theorem Holds.keep (h : Holds config P library) (hg : P g) (key : String) :
    Holds config P { library with loaded := library.loaded.set key g } := by
  refine ⟨h.config, fun k g' hkept => ?_⟩
  by_cases hkey : key = k
  · rw [hkey] at hkept
    rw [← Option.some.inj ((Dict.find?_set_self ..).symm.trans hkept)]
    exact hg
  · rw [Dict.find?_set_of_ne hkey] at hkept
    exact h.kept k g' hkept

/-- Whatever is evicted, those that stay have the property. -/
theorem Holds.evict (h : Holds config P library) (key : String) :
    Holds config P (library.evict key) := by
  refine ⟨h.config, fun k g hkept => ?_⟩
  rw [find?_evict] at hkept
  split at hkept
  · exact absurd hkept (by simp)
  · exact h.kept k g hkept

/-! ## Loads -/

section Load

variable {parentOf : List String → String → GrammarLibrary → Outcome} {chain : List String}
  {d : Definition}

/-- A grammar that is made has the property, if the grammars of parents have it. -/
theorem build_grammar (hP : Layerwise config.limits P) (h : Holds config P library)
    (hparentOf : ∀ chain parent below base, Holds config P below →
      (parentOf chain parent below).1 = .ok base → P base)
    (hbuild : (build parentOf chain d library).1 = .ok g) : P g := by
  obtain ⟨name, -, -, hcase⟩ := build_ok hbuild
  rcases hcase with ⟨-, rfl⟩ | ⟨parent, base, below, -, rfl, hbase, -⟩
  · refine hP.applyTo d name _ ?_
    rw [h.config]
    exact hP.plain name
  · refine hP.applyTo d name base (hparentOf _ _ _ base ?_ (congrArg Prod.fst hbase))
    exact h.frame rfl rfl

/-- What is returned for a name has the property, and so has what is kept then. -/
theorem resolve_holds (hP : Layerwise config.limits P) (fuel : Nat) (chain : List String)
    (name : String) (h : Holds config P library) :
    (∀ g, (resolve fuel chain name library).1 = .ok g → P g) ∧
      Holds config P (resolve fuel chain name library).2 := by
  induction fuel generalizing chain name library with
  | zero => exact ⟨fun g hg => absurd hg (by simp [resolve]), h⟩
  | succ less ih =>
    -- what is kept on the way up has the property, by induction
    have hbuild : ∀ d, Holds config P (build (resolve less) chain d library).2 :=
      fun d => build_robust (holds_robust config P) (fun _ _ _ h => (ih _ _ h).2) h
    rcases resolve_cases less chain name library with
      ⟨e, hr⟩ | ⟨g, hkept, hr⟩ | ⟨d, -, ⟨e, hr⟩ | ⟨g, hg, hr⟩⟩
    · rw [hr]
      exact ⟨fun g hg => absurd hg (by simp), h⟩
    · rw [hr]
      refine ⟨fun g' hg' => ?_, h⟩
      rw [← Except.ok.inj hg']
      exact h.kept _ g hkept
    · rw [hr]
      exact ⟨fun g hg => absurd hg (by simp), hbuild d⟩
    · rw [hr]
      -- the grammar itself is a layer over one that has it
      have hP' : P g := build_grammar hP h (fun _ _ _ base h => (ih _ _ h).1 base) hg
      refine ⟨fun g' hg' => ?_, (hbuild d).keep hP' _⟩
      rw [← Except.ok.inj hg']
      exact hP'

/-- A load from a text returns such a grammar, and keeps such ones only. -/
theorem load_holds (hP : Layerwise config.limits P) (h : Holds config P library) (text : String) :
    (∀ g, (library.load text).1 = .ok g → P g) ∧ Holds config P (library.load text).2 := by
  have hbegin : Holds config P { library with problems := [] } := h.frame rfl rfl
  rcases load_cases library text with ⟨e, -, hload⟩ | ⟨d, -, hload⟩
  · rw [hload]
    exact ⟨fun g hg => absurd hg (by simp), hbegin⟩
  · rw [hload]
    exact ⟨fun g => build_grammar hP hbegin fun _ _ _ base h => (resolve_holds hP _ _ _ h).1 base,
      build_robust (holds_robust config P) (fun _ _ _ h => (resolve_holds hP _ _ _ h).2) hbegin⟩

/-- **What is asked for has the property**, and so has what is kept then. -/
theorem request_holds (hP : Layerwise config.limits P) (h : Holds config P library)
    (request : Request) :
    (∀ g, (request.load library).1 = .ok g → P g) ∧ Holds config P (request.load library).2 := by
  cases request with
  | text text => exact load_holds hP h text
  | file path =>
    unfold Request.load loadFile
    simp only
    split
    · exact load_holds hP h _
    · exact ⟨fun g hg => absurd hg (by simp), h⟩
  | name name => exact resolve_holds hP _ [] name (h.frame rfl rfl)

end Load

/-! ## Runs -/

/-- **No call brings in a grammar without the property.** -/
theorem perform_holds (hP : Layerwise config.limits P) (h : Holds config P library) (call : Call) :
    Holds config P (call.perform library) := by
  cases call with
  | register name text => exact (h.evict (nameKey name)).frame rfl rfl
  | forget name => exact (h.evict (nameKey name)).frame rfl rfl
  | clear => exact holds_of_empty h.config rfl
  | load text => exact (request_holds hP h (.text text)).2
  | loadFile path => exact (request_holds hP h (.file path)).2
  | loadNamed name => exact (request_holds hP h (.name name)).2
  | filesChange files => exact h.frame rfl rfl

/-- **No call brings in another grammar**, by induction on the calls. -/
theorem run_holds (hP : Layerwise config.limits P) (h : Holds config P library)
    (calls : List Call) : Holds config P (run library calls) := by
  induction calls generalizing library with
  | nil => exact h
  | cons call calls ih => exact ih (perform_holds hP h call)

/-- **Every grammar that is loaded has the property**, after any calls to a library that kept
    nothing when it was opened. -/
theorem grammar_of_run (hP : Layerwise library.config.limits P) (hempty : library.loaded = [])
    (calls : List Call) {request : Request}
    (hload : (request.load (run library calls)).1 = .ok g) : P g :=
  (request_holds hP (run_holds hP (holds_of_empty rfl hempty) calls) request).1 g hload

end GrammarLibrary

end Highlight
