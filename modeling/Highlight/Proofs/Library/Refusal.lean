/-
  Loads that fail.

  A parent is kept on the way back from it, so one might fear that a load which fails further down
  leaves parents behind.  It cannot: once a parent has been loaded, laying a document over it always
  succeeds, and so does everything below.

  1. **Failing** — a load that fails has counted documents and done nothing else
     (`Loads.eq_of_error`).

  2. **Afterwards** — loads do not depend on what has been counted and on old problems.  Libraries
     that differ in nothing else are `Twins`, and stay so whatever is done to both
     (`run_twins`): a load clears the problems before it looks at anything, and never looks at the
     count (`derive_counting`, `keep_counting`).

  Main result: `failed_load_unseen`.
-/
import Highlight.Proofs.Library.Nesting

namespace Highlight

namespace GrammarLibrary

variable {library a b : GrammarLibrary} {stage : Stage} {chain : List String} {nesting : Nat}
  {outcome : Outcome}

/-! ## Failing -/

/-- Laying a definition over its parent fails only where the parent has not been loaded. -/
theorem derive_of_error {d : Definition} {name : String} {e : GrammarError}
    (h : (derive d name outcome).1 = .error e) :
    outcome.1 = .error e ∧ derive d name outcome = outcome := by
  obtain ⟨result, after⟩ := outcome
  cases result with
  | error e' => exact ⟨h, rfl⟩
  | ok base => exact absurd h (by simp [derive])

/-- What has not been loaded is not kept. -/
theorem keep_of_error {key : String} {e : GrammarError} (h : (keep key outcome).1 = .error e) :
    outcome.1 = .error e ∧ keep key outcome = outcome := by
  obtain ⟨result, after⟩ := outcome
  cases result with
  | error e' => exact ⟨h, rfl⟩
  | ok g => exact absurd h (by simp [keep])

/-- **A load that fails has only counted**: no document on the way has been applied or kept. -/
theorem Loads.eq_of_error (h : Loads nesting chain stage library outcome) {e : GrammarError}
    (herror : outcome.1 = .error e) :
    outcome.2 = { library with parsed := outcome.2.parsed } := by
  induction h with
  | malformed | nameless | again | circle | unfound => rfl
  | root => exact absurd herror (by simp [derive])
  | kept => exact absurd herror (by simp)
  | derived _ _ _ _ _ ih =>
    obtain ⟨hbase, heq⟩ := derive_of_error herror
    rw [heq]
    exact ih hbase
  | found _ _ _ _ ih =>
    obtain ⟨hmade, heq⟩ := keep_of_error herror
    rw [heq]
    exact ih hmade

/-- The same, for whatever a grammar is asked for by. -/
theorem request_eq_of_error {request : Request} {e : GrammarError}
    (h : (request.load library).1 = .error e) :
    ∃ problems, (request.load library).2
        = { library with parsed := (request.load library).2.parsed, problems := problems } ∧
      ((∀ path, request ≠ .file path) → problems = []) := by
  have htext : ∀ text, (library.load text).1 = .error e → (library.load text).2
      = { library with parsed := (library.load text).2.parsed, problems := [] } := by
    intro text htext
    obtain ⟨nesting, hloads⟩ := (ends_load library text).loads
    exact hloads.eq_of_error htext
  cases request with
  | text text => exact ⟨[], htext text h, fun _ => rfl⟩
  | file path =>
    unfold Request.load loadFile at h ⊢
    simp only at h ⊢
    split at h
    · exact ⟨[], htext _ h, fun _ => rfl⟩
    · exact ⟨library.problems, rfl, fun hfile => absurd rfl (hfile path)⟩
  | name name =>
    obtain ⟨nesting, hloads⟩ := (ends_loadNamed library name).loads
    exact ⟨[], hloads.eq_of_error h, fun _ => rfl⟩

/-! ## Afterwards -/

/-- Two libraries that hold the same: at most what they have counted and the problems of their last
    loads are different. -/
def Twins (a b : GrammarLibrary) : Prop :=
  ∃ parsed problems, b = { a with parsed := parsed, problems := problems }

/-- Laying a definition over its parent does not look at the count. -/
theorem derive_counting (d : Definition) (name : String) (outcome : Outcome) (parsed : Nat) :
    derive d name (outcome.1, { outcome.2 with parsed := parsed })
      = ((derive d name outcome).1, { (derive d name outcome).2 with parsed := parsed }) := by
  obtain ⟨result, after⟩ := outcome
  cases result with
  | error e => rfl
  | ok base => rfl

/-- Nor does keeping a grammar. -/
theorem keep_counting (key : String) (outcome : Outcome) (parsed : Nat) :
    keep key (outcome.1, { outcome.2 with parsed := parsed })
      = ((keep key outcome).1, { (keep key outcome).2 with parsed := parsed }) := by
  obtain ⟨result, after⟩ := outcome
  cases result with
  | error e => rfl
  | ok base => rfl

/-- **What has been counted before does not matter** to a load. -/
theorem Loads.counting (h : Loads nesting chain stage library outcome) (parsed : Nat) :
    ∃ parsed', Loads nesting chain stage { library with parsed := parsed }
      (outcome.1, { outcome.2 with parsed := parsed' }) := by
  induction h generalizing parsed with
  | malformed hparse => exact ⟨_, .malformed hparse⟩
  | nameless hread hname => exact ⟨_, .nameless hread hname⟩
  | again hread hname hchain => exact ⟨_, .again hread hname hchain⟩
  | root hread hname hnew hparent => exact ⟨_, .root hread hname hnew hparent⟩
  | @derived nesting chain source d name parent library outcome hread hname hnew hparent _ ih =>
    obtain ⟨parsed', hbase⟩ := ih (parsed + 1)
    refine ⟨parsed', ?_⟩
    rw [← derive_counting]
    exact .derived hread hname hnew hparent hbase
  | circle hchain => exact ⟨_, .circle hchain⟩
  | kept hopen hkept => exact ⟨_, .kept hopen hkept⟩
  | unfound hopen hunkept hfind => exact ⟨_, .unfound hopen hunkept hfind⟩
  | found hopen hunkept hfind _ ih =>
    obtain ⟨parsed', hmade⟩ := ih parsed
    refine ⟨parsed', ?_⟩
    rw [← keep_counting]
    exact .found hopen hunkept hfind hmade

/-- Twins load every stage alike, and stay twins. -/
theorem Ends.twins {oa ob : Outcome} (h : Twins a b) (ha : Ends a stage oa)
    (hb : Ends b stage ob) : ob.1 = oa.1 ∧ Twins oa.2 ob.2 := by
  obtain ⟨parsed, problems, rfl⟩ := h
  obtain ⟨nesting, hloads⟩ := ha.loads
  obtain ⟨parsed', hloads'⟩ := hloads.counting parsed
  rw [← (hb.only nesting _ hloads').1]
  exact ⟨rfl, parsed', oa.2.problems, rfl⟩

/-- Twins answer a load alike, and are twins after it. -/
theorem load_twins (h : Twins a b) (request : Request) :
    (request.load b).1 = (request.load a).1 ∧ Twins (request.load a).2 (request.load b).2 := by
  have htext : ∀ text, (b.load text).1 = (a.load text).1 ∧ Twins (a.load text).2 (b.load text).2 :=
    fun text => Ends.twins h (ends_load a text) (ends_load b text)
  cases request with
  | text text => exact htext text
  | file path =>
    have hfiles : b.files = a.files := by
      obtain ⟨parsed, problems, rfl⟩ := h
      rfl
    unfold Request.load loadFile
    simp only
    rw [hfiles]
    split
    · exact htext _
    · exact ⟨rfl, h⟩
  | name name => exact Ends.twins h (ends_loadNamed a name) (ends_loadNamed b name)

/-- **Twins stay twins** whatever is done to both. -/
theorem perform_twins (h : Twins a b) (call : Call) : Twins (call.perform a) (call.perform b) := by
  cases call with
  | load text => exact (load_twins h (.text text)).2
  | loadFile path => exact (load_twins h (.file path)).2
  | loadNamed name => exact (load_twins h (.name name)).2
  | register | forget | clear | filesChange =>
    obtain ⟨parsed, problems, rfl⟩ := h
    exact ⟨parsed, problems, rfl⟩

/-- **Twins stay twins through any calls**, by induction on them. -/
theorem run_twins (h : Twins a b) (calls : List Call) : Twins (run a calls) (run b calls) := by
  induction calls generalizing a b with
  | nil => exact h
  | cons call calls ih => exact ih (perform_twins h call)

/-- **A load that fails cannot be seen afterwards.**  In whatever state the library is, the
    definitions and the grammars that it keeps are as they were, and after a load of a text or by
    name no problems are listed.  Whatever is called later, every load comes to what it would have
    come to if the failed one had not been tried. -/
theorem failed_load_unseen {request : Request} {e : GrammarError}
    (h : (request.load library).1 = .error e) :
    (request.load library).2.sources = library.sources ∧
      (request.load library).2.loaded = library.loaded ∧
      ((∀ path, request ≠ .file path) → (request.load library).2.problems = []) ∧
      ∀ calls later, (Request.load (run (request.load library).2 calls) later).1
        = (Request.load (run library calls) later).1 := by
  obtain ⟨problems, heq, hproblems⟩ := request_eq_of_error h
  have htwins : Twins library (request.load library).2 := ⟨_, problems, heq⟩
  refine ⟨?_, ?_, ?_, fun calls later => (load_twins (run_twins htwins calls) later).1⟩
  · rw [heq]
  · rw [heq]
  · intro hfile
    rw [heq]
    exact hproblems hfile

/-- A definition whose parent has a parent that is not there: the load comes by both documents, and
    none of them is kept. -/
theorem failed_load_unseen_orphan :
    let library := (({} : GrammarLibrary).register "b" "name='b'\nuse='a'\nnumbers=1").register "c"
      "name='c'\nuse='B'"
    let request : Request := .name "C"
    (request.load library).1 = .error (.notFound "a") ∧ (request.load library).2.parsed = 2 ∧
      (request.load library).2.loaded = library.loaded := by
  intro library request
  have hfailed : (request.load library).1 = .error (.notFound "a") :=
    errorOf?_eq_some_iff.mp (by decide +kernel)
  exact ⟨hfailed, by decide +kernel, (failed_load_unseen hfailed).2.1⟩

end GrammarLibrary

end Highlight
