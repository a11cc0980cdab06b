/-
  What goes when a definition changes.

  Every kept grammar names its parent, and the parent's key leads to the grammar that is kept for
  it, and so on.  A change to a definition drops the grammars from which these links lead to its
  key, and no others.  Nothing here depends on where definitions come from: a key may be kept again
  under another spelling that finds another file, and the links may even go round in a circle.

  1. **Links** — `Descends` follows the links of kept grammars.  A family is what descends from its
     key (`mem_family_iff`), and it is what collecting children round by round comes to, whether or
     not the links are circular (`rounds_family`).

  2. **Tidy libraries** — a library keeps one grammar under a key, and with every grammar its
     parent (`Tidy`).  Loads keep a parent before its child (`Loads.tidy`), and an eviction takes
     the children of whatever it takes (`Tidy.evict`).

  Main result: `change_evicts_descendants`.
-/
import Mathlib.Logic.Relation
import Highlight.Proofs.Library.Nesting

namespace Highlight

namespace GrammarLibrary

/-! ## Links -/

/-- A key leads to another one if the grammar that is kept under it names the other as its
    parent. -/
def ParentLink (loaded : Dict String Grammar) (key up : String) : Prop :=
  ∃ g parent, loaded.find? key = some g ∧ g.parent = some parent ∧ nameKey parent = up

/-- The links that begin at a key come to another one, or it is this key itself. -/
def Descends (loaded : Dict String Grammar) : String → String → Prop :=
  Relation.ReflTransGen (ParentLink loaded)

/-- Collecting the children of some keys round by round, until there are no more. -/
inductive Rounds (loaded : Dict String Grammar) : List String → List String → Prop
  | done {keys : List String} (hnone : childrenOf keys loaded = []) : Rounds loaded keys keys
  | more {keys last : List String} (hsome : childrenOf keys loaded ≠ [])
      (hrest : Rounds loaded (keys ++ childrenOf keys loaded) last) : Rounds loaded keys last

section Family

variable {loaded : Dict String Grammar} {keys : List String} {key : String}
  {library : GrammarLibrary}

/-- Every round leaves fewer grammars outside, so the rounds come to an end. -/
theorem rounds_familyFrom {fuel : Nat} (h : (outside loaded keys).length < fuel) :
    Rounds loaded keys (familyFrom loaded fuel keys) := by
  induction fuel generalizing keys with
  | zero => exact absurd h (Nat.not_lt_zero _)
  | succ fuel ih =>
    unfold familyFrom
    split
    · rename_i hnone
      exact .done hnone
    · rename_i hsome
      have hlt := outside_lt hsome
      exact .more hsome (ih (by omega))

/-- **Collecting a family ends**, whatever is kept: circles of links do no harm. -/
theorem rounds_family (library : GrammarLibrary) (key : String) :
    Rounds library.loaded [key] (library.family key) :=
  rounds_familyFrom (Nat.lt_succ_of_le (List.length_filter_le ..))

/-- Collecting children takes in nothing but what descends from the keys it begins with. -/
theorem descends_of_mem_familyFrom (hnodup : loaded.keys.Nodup) {fuel : Nat}
    (hkeys : ∀ k ∈ keys, Descends loaded k key) :
    ∀ k ∈ familyFrom loaded fuel keys, Descends loaded k key := by
  induction fuel generalizing keys with
  | zero => exact hkeys
  | succ fuel ih =>
    unfold familyFrom
    split
    · exact hkeys
    · refine ih fun k hk => ?_
      rcases List.mem_append.mp hk with hk | hk
      · exact hkeys k hk
      · obtain ⟨g, hg, -, parent, hparent, hmem⟩ := mem_childrenOf.mp hk
        exact .head ⟨g, parent, Dict.find?_of_mem hnodup hg, hparent, rfl⟩ (hkeys _ hmem)

/-- **A family is what descends from its key.** -/
theorem mem_family_iff (hnodup : library.loaded.keys.Nodup) {k : String} :
    k ∈ library.family key ↔ Descends library.loaded k key := by
  constructor
  · refine descends_of_mem_familyFrom hnodup (fun k hk => ?_) k
    rw [List.mem_singleton.mp hk]
    exact .refl
  · intro h
    induction h using Relation.ReflTransGen.head_induction_on with
    | refl => exact mem_family_self library key
    | head hlink _ ih =>
      obtain ⟨g, parent, hkept, hparent, rfl⟩ := hlink
      -- outside the family its parent would be outside as well
      by_contra hout
      exact parent_not_mem_family hkept hout hparent ih

end Family

/-! ## Tidy libraries -/

/-- The parents of all kept grammars are kept. -/
def Closed (loaded : Dict String Grammar) : Prop :=
  ∀ key up, ParentLink loaded key up → (loaded.find? up).isSome

/-- What a library keeps, it keeps under different keys, and with their parents. -/
structure Tidy (library : GrammarLibrary) : Prop where
  nodup : library.loaded.keys.Nodup
  closed : Closed library.loaded

section Tidy

variable {library : GrammarLibrary} {stage : Stage} {chain : List String} {nesting : Nat}
  {outcome : Outcome}

theorem tidy_of_empty (h : library.loaded = []) : Tidy library := by
  refine ⟨by rw [h]; exact List.nodup_nil, ?_⟩
  rintro key up ⟨g, parent, hkept, -⟩
  rw [h] at hkept
  exact absurd hkept (by simp)

theorem Tidy.of_loaded {after : GrammarLibrary} (h : Tidy library)
    (hloaded : after.loaded = library.loaded) : Tidy after :=
  ⟨by rw [hloaded]; exact h.nodup, by rw [hloaded]; exact h.closed⟩

/-- What descends from a kept key is kept. -/
theorem Tidy.isSome_of_descends (h : Tidy library) {key up : String}
    (hkey : (library.loaded.find? key).isSome) (hdescends : Descends library.loaded key up) :
    (library.loaded.find? up).isSome := by
  cases hdescends.cases_tail with
  | inl heq => rwa [heq]
  | inr hlast =>
    obtain ⟨k, -, hlink⟩ := hlast
    exact h.closed k up hlink

/-- A grammar may be kept where its parent is kept already. -/
theorem Tidy.keep (h : Tidy library) {g : Grammar} (key : String)
    (hparent : ∀ parent, g.parent = some parent →
      (library.loaded.find? (nameKey parent)).isSome) :
    Tidy { library with loaded := library.loaded.set key g } := by
  refine ⟨Dict.nodup_keys_set h.nodup, ?_⟩
  rintro k up ⟨g', parent, hkept, hup, rfl⟩
  refine Dict.isSome_find?_set ?_
  by_cases hk : key = k
  · rw [hk] at hkept
    rw [Option.some.inj ((Dict.find?_set_self ..).symm.trans hkept)] at hparent
    exact hparent parent hup
  · rw [Dict.find?_set_of_ne hk] at hkept
    exact h.closed k _ ⟨g', parent, hkept, hup, rfl⟩

/-- An eviction takes whole families, so it leaves no grammar without its parent. -/
theorem Tidy.evict (h : Tidy library) (key : String) : Tidy (library.evict key) := by
  have hnodup : (library.evict key).loaded.keys.Nodup :=
    h.nodup.sublist (List.filter_sublist.map _)
  refine ⟨hnodup, ?_⟩
  rintro k up ⟨g, parent, hkept, hparent, rfl⟩
  rw [find?_evict] at hkept ⊢
  split at hkept
  · exact absurd hkept (by simp)
  · rename_i hout
    rw [if_neg (parent_not_mem_family hkept hout hparent)]
    exact h.closed k _ ⟨g, parent, hkept, hparent, rfl⟩

/-- What a successful load has made sure of: the grammar of a document has its parent kept, and a
    name is itself kept. -/
def Stage.Secured (loaded : Dict String Grammar) (g : Grammar) : Stage → Prop
  | .document _ => ∀ parent, g.parent = some parent → (loaded.find? (nameKey parent)).isSome
  | .name n => (loaded.find? (nameKey n)).isSome

/-- **A load keeps a library tidy**, whether it succeeds or not. -/
theorem Loads.tidy (h : Loads nesting chain stage library outcome) (htidy : Tidy library) :
    Tidy outcome.2 ∧ ∀ g, outcome.1 = .ok g → stage.Secured outcome.2.loaded g := by
  -- along the derivation; where nothing is kept or evicted, nothing is to be shown
  induction h with
  | malformed | circle | unfound => exact ⟨htidy, fun g hg => absurd hg (by simp)⟩
  | nameless | again => exact ⟨htidy.of_loaded rfl, fun g hg => absurd hg (by simp)⟩
  | root hread hname hnew hparent =>
    refine ⟨htidy.of_loaded rfl, fun g hg parent hup => ?_⟩
    rw [← Except.ok.inj hg] at hup
    exact absurd (hparent.symm.trans hup) (by simp)
  | @derived nesting chain source d name parent library outcome hread hname hnew hparent _ ih =>
    obtain ⟨hafter, hsecured⟩ := ih (htidy.of_loaded rfl)
    obtain ⟨result, after⟩ := outcome
    cases result with
    | error e => exact ⟨hafter, fun g hg => absurd hg (by simp [derive])⟩
    | ok base =>
      refine ⟨hafter.of_loaded rfl, fun g hg parent' hup => ?_⟩
      rw [← Except.ok.inj hg] at hup
      -- the parent of what has been made is the one that has just been secured
      obtain rfl := Option.some.inj (hparent.symm.trans hup)
      exact hsecured base rfl
  | kept hopen hkept =>
    refine ⟨htidy, fun g hg => ?_⟩
    rw [Stage.Secured, hkept]
    rfl
  | @found nesting chain name source library outcome hopen hunkept hfind _ ih =>
    obtain ⟨hafter, hsecured⟩ := ih htidy
    obtain ⟨result, after⟩ := outcome
    cases result with
    | error e => exact ⟨hafter, fun g hg => absurd hg (by simp [GrammarLibrary.keep])⟩
    | ok g =>
      refine ⟨hafter.keep _ (hsecured g rfl), fun g' _ => ?_⟩
      exact Option.isSome_of_eq_some (Dict.find?_set_self (nameKey name) g after.loaded)

/-- So a whole load keeps a library tidy, failing or not. -/
theorem Ends.tidy (h : Ends library stage outcome) (htidy : Tidy library) : Tidy outcome.2 := by
  obtain ⟨nesting, hloads⟩ := h.loads
  exact (hloads.tidy (htidy.of_loaded rfl)).1

/-- Every call keeps a library tidy. -/
theorem perform_tidy (h : Tidy library) (call : Call) : Tidy (call.perform library) := by
  cases call with
  | register name text => exact (h.evict (nameKey name)).of_loaded rfl
  | forget name => exact (h.evict (nameKey name)).of_loaded rfl
  | clear => exact tidy_of_empty rfl
  | load text => exact (ends_load library text).tidy h
  | loadFile path =>
    show Tidy (library.loadFile path).2
    unfold loadFile
    split
    · exact (ends_load library _).tidy h
    · exact h
  | loadNamed name => exact (ends_loadNamed library name).tidy h
  | filesChange files => exact h.of_loaded rfl

/-- **No call leaves a library untidy.** -/
theorem run_tidy (h : Tidy library) (calls : List Call) : Tidy (run library calls) := by
  induction calls generalizing library with
  | nil => exact h
  | cons call calls ih => exact ih (perform_tidy h call)

end Tidy

/-! ## Changes -/

/-- What descends from a key is no longer kept, all else is kept as it was, and all parents are
    kept. -/
structure Evicts (library after : GrammarLibrary) (key : String) : Prop where
  gone : ∀ k, Descends library.loaded k key → after.loaded.find? k = none
  stays : ∀ k, ¬ Descends library.loaded k key →
    after.loaded.find? k = library.loaded.find? k
  closed : Closed after.loaded

theorem Tidy.evicts {library after : GrammarLibrary} {key : String} (h : Tidy library)
    (hloaded : after.loaded = (library.evict key).loaded) : Evicts library after key := by
  refine ⟨fun k hk => ?_, fun k hk => ?_, by rw [hloaded]; exact (h.evict key).closed⟩
  · rw [hloaded, find?_evict, if_pos ((mem_family_iff h.nodup).mpr hk)]
  · rw [hloaded, find?_evict, if_neg (mt (mem_family_iff h.nodup).mp hk)]

/-- **A change to a definition drops what descends from it, and nothing else**, after any calls and
    with any files and directories.  And whatever a library keeps, circles of parents included, a
    family is collected in finitely many rounds. -/
theorem change_evicts_descendants (config : Config) (files : FileSystem) (calls : List Call)
    (name text : String) :
    let library := run { config := config, files := files } calls
    Evicts library (library.register name text) (nameKey name) ∧
      Evicts library (library.forget name) (nameKey name) ∧
      ∀ (other : GrammarLibrary) (key : String), Rounds other.loaded [key] (other.family key) := by
  intro library
  have htidy : Tidy library := run_tidy (tidy_of_empty rfl) calls
  exact ⟨htidy.evicts rfl, htidy.evicts rfl, rounds_family⟩

end GrammarLibrary

end Highlight
