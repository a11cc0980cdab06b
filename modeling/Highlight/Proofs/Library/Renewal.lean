/-
  Whose problems a library lists.

  The list of problems grows while a load goes from a document to its parents.  It is begun anew
  when the load begins, so it should never hold what an earlier load has found.  One kind of load
  does not get that far: a file is read before the list is emptied, and where there is no file to
  read the old list stays.

  1. **What renews the list** — loading a text or a name, and loading a file that can be read
     (`Call.Renews`).

  2. **One call** — of two libraries that differ in their lists only, a call that renews the list
     makes the same library, and every other call leaves both lists as they are
     (`perform_of_renews`, `perform_of_not_renews`).

  3. **Runs** — so the two lists are the same from the first such call on, and not before
     (`run_of_renewed`, `run_of_not_renewed`).

  Main result: `load_renews_problems`.
-/
import Highlight.Proofs.Library.Refusal
import Highlight.Proofs.Library.Room

namespace Highlight

namespace GrammarLibrary

variable {library : GrammarLibrary} {call : Call} {calls : List Call}

/-! ## What renews the list -/

/-- A request for a file that cannot be read. -/
def Unreadable (library : GrammarLibrary) : Request → Prop
  | .file path => ∃ cause, library.files.readText path = .error cause
  | .text _ | .name _ => False

/-- A call that begins the list of problems anew. -/
def Call.Renews (library : GrammarLibrary) : Call → Prop
  | .load _ | .loadNamed _ => True
  | .loadFile path => ¬Unreadable library (.file path)
  | .register .. | .forget _ | .clear | .filesChange _ => False

/-- Some call of a run begins the list of problems anew. -/
inductive Renewed : GrammarLibrary → List Call → Prop
  | here {library : GrammarLibrary} {call : Call} {calls : List Call} (h : call.Renews library) :
      Renewed library (call :: calls)
  | later {library : GrammarLibrary} {call : Call} {calls : List Call}
      (h : Renewed (call.perform library) calls) : Renewed library (call :: calls)

/-- The same library with another list of problems. -/
def relisted (library : GrammarLibrary) (problems : List RuleProblem) : GrammarLibrary :=
  { library with problems := problems }

@[simp] theorem relisted_problems (problems : List RuleProblem) :
    (library.relisted problems).problems = problems := rfl

/-! ## One call -/

/-- **What was listed before plays no part in a load** that begins the list anew. -/
theorem load_relisted (problems : List RuleProblem) (request : Request)
    (h : ¬Unreadable library request) :
    request.load (library.relisted problems) = request.load library := by
  cases request with
  | text text => rfl
  | name name => rfl
  | file path =>
    cases hread : library.files.readText path with
    | error cause => exact absurd ⟨cause, hread⟩ h
    | ok text =>
      have hload : ∀ problems, (library.relisted problems).loadFile path = library.load text := by
        intro problems
        have hread' : (library.relisted problems).files.readText path = .ok text := hread
        rw [loadFile, hread']
        rfl
      exact (hload problems).trans (hload library.problems).symm

/-- A file that cannot be read leaves the library as it is. -/
theorem load_of_unreadable {request : Request} (h : Unreadable library request) :
    ∃ e, ∀ problems, request.load (library.relisted problems)
      = (.error e, library.relisted problems) := by
  cases request with
  | text text => exact absurd h (by simp [Unreadable])
  | name name => exact absurd h (by simp [Unreadable])
  | file path =>
    obtain ⟨cause, hread⟩ := h
    refine ⟨.unreadable path cause, fun problems => ?_⟩
    have hread' : (library.relisted problems).files.readText path = .error cause := hread
    rw [Request.load, loadFile, hread']

/-- A call that renews the list makes one library of both. -/
theorem perform_of_renews (h : call.Renews library) (problems : List RuleProblem) :
    call.perform (library.relisted problems) = call.perform library := by
  cases call with
  | load text => exact congrArg Prod.snd (load_relisted problems (.text text) id)
  | loadFile path => exact congrArg Prod.snd (load_relisted problems (.file path) h)
  | loadNamed name => exact congrArg Prod.snd (load_relisted problems (.name name) id)
  | register | forget | clear | filesChange => exact absurd h id

/-- Every other call leaves both lists as they are. -/
theorem perform_of_not_renews (h : ¬call.Renews library) (problems : List RuleProblem) :
    call.perform (library.relisted problems) = (call.perform library).relisted problems ∧
      (call.perform library).problems = library.problems := by
  cases call with
  | load | loadNamed => exact absurd trivial h
  | loadFile path =>
    obtain ⟨e, hload⟩ := load_of_unreadable (Classical.not_not.mp h)
    have hkept : Call.perform library (.loadFile path) = library :=
      congrArg Prod.snd (hload library.problems)
    rw [hkept]
    exact ⟨congrArg Prod.snd (hload problems), rfl⟩
  | register | forget | clear | filesChange => exact ⟨rfl, rfl⟩

/-! ## Runs -/

/-- **Once the list has been renewed, what was listed before is forgotten.** -/
theorem run_of_renewed (h : Renewed library calls) (problems : List RuleProblem) :
    run (library.relisted problems) calls = run library calls := by
  induction h with
  | @here library call calls hrenews =>
    exact congrArg (run · calls) (perform_of_renews hrenews problems)
  | @later library call calls _ ih =>
    by_cases hrenews : call.Renews library
    · exact congrArg (run · calls) (perform_of_renews hrenews problems)
    · have hstep := (perform_of_not_renews hrenews problems).1
      exact (congrArg (run · calls) hstep).trans ih

/-- **Until then it stays.** -/
theorem run_of_not_renewed (h : ¬Renewed library calls) : (run library calls).problems
    = library.problems := by
  induction calls generalizing library with
  | nil => rfl
  | cons call calls ih =>
    have hkept := (perform_of_not_renews (fun hrenews => h (.here hrenews)) []).2
    exact (ih fun hlater => h (.later hlater)).trans hkept

/-- A run begins the list anew in both libraries or in none. -/
theorem renewed_relisted_iff (problems : List RuleProblem) :
    Renewed (library.relisted problems) calls ↔ Renewed library calls := by
  induction calls generalizing library with
  | nil =>
    constructor
    · intro h
      cases h
    · intro h
      cases h
  | cons call calls ih =>
    -- whether a call loads anything does not depend on the list
    have hsame : call.Renews (library.relisted problems) ↔ call.Renews library := by
      cases call <;> exact Iff.rfl
    by_cases hrenews : call.Renews library
    · exact ⟨fun _ => .here hrenews, fun _ => .here (hsame.mpr hrenews)⟩
    · have hstep := (perform_of_not_renews hrenews problems).1
      constructor
      · intro h
        cases h with
        | here hhere => exact absurd (hsame.mp hhere) hrenews
        | later hlater =>
          rw [hstep] at hlater
          exact .later (ih.mp hlater)
      · intro h
        cases h with
        | here hhere => exact absurd hhere hrenews
        | later hlater => exact .later (hstep ▸ ih.mpr hlater)

/-- **The problems that are listed are those of the last load that had anything to read.**  Of two
    libraries that differ in their lists of problems only, each load comes to the same.  The lists
    are the same after it, too, unless they were different before and it asked for a file that
    cannot be read; and so they are after a run, unless no call of it was another load. -/
theorem load_renews_problems (library : GrammarLibrary) (problems : List RuleProblem) :
    (∀ request : Request,
      (request.load (library.relisted problems)).1 = (request.load library).1 ∧
      ((request.load (library.relisted problems)).2.problems = (request.load library).2.problems ↔
        problems = library.problems ∨ ¬Unreadable library request)) ∧
    ∀ calls, (run (library.relisted problems) calls).problems = (run library calls).problems ↔
      problems = library.problems ∨ Renewed library calls := by
  constructor
  · intro request
    by_cases hread : Unreadable library request
    · obtain ⟨e, hload⟩ := load_of_unreadable hread
      have hlibrary : request.load library = (.error e, library) := hload library.problems
      rw [hload problems, hlibrary]
      exact ⟨rfl, fun heq => .inl heq, fun h => h.resolve_right (absurd hread)⟩
    · rw [load_relisted problems request hread]
      exact ⟨rfl, fun _ => .inr hread, fun _ => rfl⟩
  · intro calls
    by_cases hrenewed : Renewed library calls
    · rw [run_of_renewed hrenewed]
      exact ⟨fun _ => .inr hrenewed, fun _ => rfl⟩
    · rw [run_of_not_renewed hrenewed,
        run_of_not_renewed (mt (renewed_relisted_iff problems).mp hrenewed), relisted_problems]
      exact ⟨fun heq => .inl heq, fun h => h.resolve_right hrenewed⟩

/-- Where there are no files, none can be read. -/
theorem unreadable_of_no_files (h : library.files.root = []) (path : String) :
    Unreadable library (.file path) := by
  cases hread : library.files.readText path with
  | error cause => exact ⟨cause, hread⟩
  | ok text =>
    have hfile := FileSystem.isFile_of_readText hread
    rw [FileSystem.isFile_of_root_eq_nil h] at hfile
    exact absurd hfile (by simp)

/-- A load of a file that is not there lists what was listed before. -/
theorem loadFile_of_no_files (h : library.files.root = []) (path : String) :
    (∃ e, (library.loadFile path).1 = .error e) ∧
      (library.loadFile path).2.problems = library.problems ∧
      ((library.relisted []).loadFile path).2.problems = [] := by
  obtain ⟨e, hload⟩ := load_of_unreadable (unreadable_of_no_files h path)
  have hlisted : library.loadFile path = (.error e, library) := hload library.problems
  have hunlisted : (library.relisted []).loadFile path = (.error e, library.relisted []) := hload []
  rw [hlisted, hunlisted]
  exact ⟨⟨e, rfl⟩, rfl, rfl⟩

/-- A line comment that is a number, and then a file that is not there: behind its load the problem
    is still listed, as it would not be if the library had listed none before. -/
theorem problems_outlive_load :
    let library := (({} : GrammarLibrary).load "name='a'\nlinecomment=1").2
    (∃ e, (library.loadFile "missing.toml").1 = .error e) ∧
      (library.loadFile "missing.toml").2.problems
        = [.invalidPattern .lineComment 0 "1" (.notAString "integer")] ∧
      ((library.relisted []).loadFile "missing.toml").2.problems = [] := by
  intro library
  have hproblems : library.problems
      = [.invalidPattern .lineComment 0 "1" (.notAString "integer")] := by decide +kernel
  have hfiles : library.files = {} := (load_frame {} "name='a'\nlinecomment=1").files
  have hroot : library.files.root = [] := by rw [hfiles]
  rw [← hproblems]
  exact loadFile_of_no_files hroot "missing.toml"

end GrammarLibrary

end Highlight
