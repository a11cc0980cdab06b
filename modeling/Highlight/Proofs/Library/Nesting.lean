/-
  How deep a load goes.

  A document is still being read while its parent is looked up and read, and so on up to one
  without a parent.  Definitions may declare other names than those they are found under, so a name
  that is asked for again need not be noticed; but a name that is declared again always is, and
  there are only so many of them.

  1. **Loads without a bound** — `Loads` says what a load does at each stage, as if there were no
     fuel.  Its `nesting` counts the documents that are being read at the same time.

  2. **The end of a load** — the chain holds different keys, all of them declared by definitions at
     hand.  It grows with every document that is read, so nesting is bounded (`Loads.nesting_le`)
     and every load ends (`exists_loads`).

  3. **Fuel** — a load that ends is what the functions compute if their fuel exceeds its nesting
     (`Loads.eq_load`), and there is room for that.

  Main result: `load_ends`.
-/
import Mathlib.Data.List.Dedup
import Highlight.Proofs.Library.Reading

namespace Highlight

namespace GrammarLibrary

/-! ## Loads without a bound -/

/-- What a load has before it: a document that it reads, or a name that it looks up. -/
inductive Stage where
  | document (source : Source Definition)
  | name (name : String)

/-- A library once it has read one more document. -/
def counted (library : GrammarLibrary) : GrammarLibrary :=
  { library with parsed := library.parsed + 1 }

/-- Loading as it goes.  `nesting` is the number of documents that are being read at the same time,
    one within the other, before the load comes to its outcome. -/
inductive Loads : (nesting : Nat) → (chain : List String) → Stage → GrammarLibrary → Outcome → Prop
  | malformed {chain : List String} {text : String} {library : GrammarLibrary}
      (hparse : Definition.parse? text = none) :
      Loads 1 chain (.document (.text text)) library
        (.error (@GrammarError.malformed text), library)
  | nameless {chain : List String} {source : Source Definition} {d : Definition}
      {library : GrammarLibrary} (hread : read source = .ok d) (hname : d.declaredName? = none) :
      Loads 1 chain (.document source) library (.error .missingName, library.counted)
  | again {chain : List String} {source : Source Definition} {d : Definition} {name : String}
      {library : GrammarLibrary} (hread : read source = .ok d)
      (hname : d.declaredName? = some name) (hchain : nameKey name ∈ chain) :
      Loads 1 chain (.document source) library
        (.error (.inheritanceCycle (chain ++ [nameKey name])), library.counted)
  | root {chain : List String} {source : Source Definition} {d : Definition} {name : String}
      {library : GrammarLibrary} (hread : read source = .ok d)
      (hname : d.declaredName? = some name) (hnew : nameKey name ∉ chain)
      (hparent : d.parent = none) :
      Loads 1 chain (.document source) library
        (derive d name (.ok (.plain name library.config.limits), library.counted))
  | derived {nesting : Nat} {chain : List String} {source : Source Definition} {d : Definition}
      {name parent : String} {library : GrammarLibrary} {outcome : Outcome}
      (hread : read source = .ok d)
      (hname : d.declaredName? = some name) (hnew : nameKey name ∉ chain)
      (hparent : d.parent = some parent)
      (hbase : Loads nesting (chain ++ [nameKey name]) (.name parent) library.counted outcome) :
      Loads (nesting + 1) chain (.document source) library (derive d name outcome)
  | circle {chain : List String} {name : String} {library : GrammarLibrary}
      (hchain : nameKey name ∈ chain) :
      Loads 0 chain (.name name) library
        (.error (.inheritanceCycle (chain ++ [nameKey name])), library)
  | kept {chain : List String} {name : String} {g : Grammar} {library : GrammarLibrary}
      (hopen : nameKey name ∉ chain) (hkept : library.loaded.find? (nameKey name) = some g) :
      Loads 0 chain (.name name) library (.ok g, library)
  | unfound {chain : List String} {name : String} {e : GrammarError} {library : GrammarLibrary}
      (hopen : nameKey name ∉ chain) (hunkept : library.loaded.find? (nameKey name) = none)
      (hfind : library.findSource name = .error e) :
      Loads 0 chain (.name name) library (.error e, library)
  | found {nesting : Nat} {chain : List String} {name : String} {source : Source Definition}
      {library : GrammarLibrary} {outcome : Outcome}
      (hopen : nameKey name ∉ chain) (hunkept : library.loaded.find? (nameKey name) = none)
      (hfind : library.findSource name = .ok source)
      (hmade : Loads nesting chain (.document source) library outcome) :
      Loads nesting chain (.name name) library (keep (nameKey name) outcome)

/-! ## The end of a load -/

/-- The definitions that a load can come upon: the document that it begins with, and those at
    hand. -/
def available (library : GrammarLibrary) : Stage → List Definition
  | .document source => (read source).toOption.toList ++ library.definitions
  | .name _ => library.definitions

/-- The keys of the names that some definitions declare, each of them once. -/
def declaredKeys (definitions : List Definition) : List String :=
  (definitions.filterMap fun d => d.declaredName?.map nameKey).dedup

theorem mem_declaredKeys {definitions : List Definition} {d : Definition} {name : String}
    (hd : d ∈ definitions) (hname : d.declaredName? = some name) :
    nameKey name ∈ declaredKeys definitions := by
  refine List.mem_dedup.mpr (List.mem_filterMap.mpr ⟨d, hd, ?_⟩)
  rw [hname]
  rfl

theorem length_declaredKeys_le (definitions : List Definition) :
    (declaredKeys definitions).length ≤ definitions.length :=
  Nat.le_trans (List.dedup_sublist _).length_le (List.length_filterMap_le ..)

/-- All names that a load can come upon have their keys among the given ones. -/
def Declares (library : GrammarLibrary) (stage : Stage) (keys : List String) : Prop :=
  ∀ d ∈ library.available stage, ∀ name ∈ d.declaredName?, nameKey name ∈ keys

section Ends

variable {library : GrammarLibrary} {stage : Stage} {chain keys : List String} {nesting : Nat}
  {outcome : Outcome}

theorem declares_declaredKeys (library : GrammarLibrary) (stage : Stage) :
    library.Declares stage (declaredKeys (library.available stage)) :=
  fun _ hd _ hname => mem_declaredKeys hd hname

/-- From a document a load goes on among the definitions at hand. -/
theorem Declares.parent {source : Source Definition}
    (h : library.Declares (.document source) keys) (parent : String) :
    library.counted.Declares (.name parent) keys :=
  fun d hd => h d (List.mem_append_right _ hd)

/-- What is found is at hand. -/
theorem Declares.found {name : String} {source : Source Definition}
    (h : library.Declares (.name name) keys) (hfind : library.findSource name = .ok source) :
    library.Declares (.document source) keys := by
  intro d hd
  rcases List.mem_append.mp hd with hsource | hd
  · have hread : read source = .ok d := toOption_eq_some_iff.mp (Option.mem_toList.mp hsource)
    exact h d (mem_definitions_of_findSource hfind hread)
  · exact h d hd

/-- A document that is read adds a new key to the chain. -/
theorem chain_grows {source : Source Definition} {d : Definition} {name : String}
    (hkeys : library.Declares (.document source) keys) (hread : read source = .ok d)
    (hname : d.declaredName? = some name) (hnew : nameKey name ∉ chain) (hnodup : chain.Nodup)
    (hsub : chain ⊆ keys) :
    (chain ++ [nameKey name]).Nodup ∧ chain ++ [nameKey name] ⊆ keys := by
  have hread' : d ∈ (read source).toOption.toList :=
    Option.mem_toList.mpr (toOption_eq_some_iff.mpr hread)
  have hkey : nameKey name ∈ keys := hkeys d (List.mem_append_left _ hread') name hname
  constructor
  · exact hnodup.append (List.nodup_singleton _) (by simpa using hnew)
  · exact List.append_subset.mpr ⟨hsub, by simpa using hkey⟩

/-- **Nesting is bounded**: the chain and what is still to be nested on it hold no more documents
    than there are keys, and one. -/
theorem Loads.nesting_le (h : Loads nesting chain stage library outcome)
    (hkeys : library.Declares stage keys) (hnodup : chain.Nodup) (hsub : chain ⊆ keys) :
    nesting + chain.length ≤ keys.length + 1 := by
  have hlength : ∀ {chain : List String}, chain.Nodup → chain ⊆ keys →
      chain.length ≤ keys.length := fun hnodup hsub => hnodup.length_le_of_subset hsub
  induction h with
  | malformed | nameless | again | root | circle | kept | unfound =>
    have := hlength hnodup hsub
    omega
  | @derived nesting chain source d name parent library outcome hread hname hnew hparent hbase ih =>
    obtain ⟨hnodup', hsub'⟩ := chain_grows hkeys hread hname hnew hnodup hsub
    have hbound := ih (hkeys.parent parent) hnodup' hsub'
    rw [List.length_append, List.length_singleton] at hbound
    omega
  | found hopen hunkept hfind hmade ih => exact ih (hkeys.found hfind) hnodup hsub

/-- A load of a document ends if that of its parent does. -/
theorem exists_loads_document {source : Source Definition}
    (hparents : ∀ d name parent, read source = .ok d → d.declaredName? = some name →
      nameKey name ∉ chain →
        ∃ nesting outcome, Loads nesting (chain ++ [nameKey name]) (.name parent)
          library.counted outcome) :
    ∃ nesting outcome, Loads nesting chain (.document source) library outcome := by
  cases hread : read source with
  | error e =>
    obtain ⟨text, rfl, hparse, -⟩ := read_eq_error_iff.mp hread
    exact ⟨_, _, .malformed hparse⟩
  | ok d =>
    cases hname : d.declaredName? with
    | none => exact ⟨_, _, .nameless hread hname⟩
    | some name =>
      by_cases hchain : nameKey name ∈ chain
      · exact ⟨_, _, .again hread hname hchain⟩
      · cases hparent : d.parent with
        | none => exact ⟨_, _, .root hread hname hchain hparent⟩
        | some parent =>
          obtain ⟨nesting, outcome, hbase⟩ := hparents d name parent hread hname hchain
          exact ⟨_, _, .derived hread hname hchain hparent hbase⟩

/-- A load by name ends if that of what it finds does. -/
theorem exists_loads_name {name : String}
    (hdocuments : ∀ source, library.findSource name = .ok source →
      ∃ nesting outcome, Loads nesting chain (.document source) library outcome) :
    ∃ nesting outcome, Loads nesting chain (.name name) library outcome := by
  by_cases hchain : nameKey name ∈ chain
  · exact ⟨_, _, .circle hchain⟩
  · cases hkept : library.loaded.find? (nameKey name) with
    | some g => exact ⟨_, _, .kept hchain hkept⟩
    | none =>
      cases hfind : library.findSource name with
      | error e => exact ⟨_, _, .unfound hchain hkept hfind⟩
      | ok source =>
        obtain ⟨nesting, outcome, hmade⟩ := hdocuments source hfind
        exact ⟨_, _, .found hchain hkept hfind hmade⟩

/-- **Every load ends.**  `left` bounds the number of keys that are not in the chain yet. -/
theorem exists_loads (left : Nat) (hleft : keys.length < chain.length + left)
    (hkeys : library.Declares stage keys) (hnodup : chain.Nodup) (hsub : chain ⊆ keys) :
    ∃ nesting outcome, Loads nesting chain stage library outcome := by
  induction left generalizing chain stage library with
  | zero =>
    have := hnodup.length_le_of_subset hsub
    omega
  | succ left ih =>
    have hdocument : ∀ source, library.Declares (.document source) keys →
        ∃ nesting outcome, Loads nesting chain (.document source) library outcome := by
      intro source hsource
      refine exists_loads_document fun d name parent hread hname hnew => ?_
      obtain ⟨hnodup', hsub'⟩ := chain_grows hsource hread hname hnew hnodup hsub
      refine ih ?_ (hsource.parent parent) hnodup' hsub'
      rw [List.length_append, List.length_singleton]
      omega
    cases stage with
    | document source => exact hdocument source hkeys
    | name name => exact exists_loads_name fun source hfind => hdocument source (hkeys.found hfind)

end Ends

/-! ## Fuel -/

/-- What the functions compute at a stage if their fuel suffices for so many nested documents. -/
def Stage.load (fuel : Nat) (chain : List String) (library : GrammarLibrary) : Stage → Outcome
  | .document source =>
    match read source with
    | .ok d => build (resolve fuel) chain d library
    | .error e => (.error e, library)
  | .name n => resolve (fuel + 1) chain n library

/-- **A load that ends is what the functions compute**, if their fuel is not less than its
    nesting. -/
theorem Loads.eq_load {nesting fuel : Nat} {chain : List String} {stage : Stage}
    {library : GrammarLibrary} {outcome : Outcome} (h : Loads nesting chain stage library outcome)
    (hfuel : nesting ≤ fuel) : stage.load fuel chain library = outcome := by
  -- along the derivation: each rule is one branch of `resolve` or `build`
  induction h generalizing fuel with
  | malformed hparse => simp only [Stage.load, read, parse, hparse]
  | nameless hread hname => simp only [Stage.load, hread, build, hname, counted]
  | again hread hname hchain => simp only [Stage.load, hread, build, hname, if_pos hchain, counted]
  | root hread hname hnew hparent =>
    simp only [Stage.load, hread]
    rw [build_of_declaredName? hname hnew, hparent]
    rfl
  | @derived nesting chain source d name parent library outcome hread hname hnew hparent _ ih =>
    obtain ⟨less, rfl⟩ : ∃ less, fuel = less + 1 := Nat.exists_eq_add_of_le' (by omega)
    have hbase : resolve (less + 1) (chain ++ [nameKey name]) parent library.counted = outcome :=
      ih (Nat.le_of_succ_le_succ hfuel)
    simp only [Stage.load, hread]
    rw [build_of_declaredName? hname hnew, hparent, ← hbase]
    rfl
  | circle hchain => rw [Stage.load, resolve, if_pos hchain]
  | kept hopen hkept => exact resolve_of_kept hopen hkept
  | unfound hopen hunkept hfind =>
    rw [Stage.load, resolve, if_neg hopen, hunkept, find_of_findSource_error hfind]
  | @found nesting chain name source library outcome hopen hunkept hfind _ ih =>
    rw [← ih hfuel, Stage.load, Stage.load]
    cases hread : read source with
    | ok d => rw [resolve_of_unkept hopen hunkept ((find_of_findSource hfind).trans hread)]
    | error e =>
      rw [resolve, if_neg hopen, hunkept, (find_of_findSource hfind).trans hread]
      rfl

/-- A load comes to an outcome, and to no other, and reads no more documents at the same time than
    names are declared by the definitions that it can come upon, and one. -/
structure Ends (library : GrammarLibrary) (stage : Stage) (outcome : Outcome) : Prop where
  loads : ∃ nesting, Loads nesting [] stage { library with problems := [] } outcome
  only : ∀ nesting other, Loads nesting [] stage { library with problems := [] } other →
    other = outcome ∧ nesting ≤ 1 + (declaredKeys (library.available stage)).length

/-- A load ends with what the functions compute, if there is room for all definitions that it can
    come upon. -/
theorem ends_of_room {library : GrammarLibrary} {stage : Stage} {fuel : Nat}
    (hroom : (library.available stage).length < fuel) :
    Ends library stage (stage.load fuel [] { library with problems := [] }) := by
  have hkeys : Declares { library with problems := [] } stage
      (declaredKeys (library.available stage)) :=
    declares_declaredKeys { library with problems := [] } stage
  have hlength := length_declaredKeys_le (library.available stage)
  have honly : ∀ nesting other, Loads nesting [] stage { library with problems := [] } other →
      other = stage.load fuel [] { library with problems := [] } ∧
        nesting ≤ 1 + (declaredKeys (library.available stage)).length := by
    intro nesting other h
    have hbound := h.nesting_le hkeys List.nodup_nil (List.nil_subset _)
    rw [List.length_nil] at hbound
    exact ⟨(h.eq_load (by omega)).symm, by omega⟩
  refine ⟨?_, honly⟩
  obtain ⟨nesting, outcome, h⟩ := exists_loads ((declaredKeys (library.available stage)).length + 1)
    (by rw [List.length_nil]; omega) hkeys List.nodup_nil (List.nil_subset _)
  rw [(honly nesting outcome h).1] at h
  exact ⟨nesting, h⟩

/-- A load of a text ends. -/
theorem ends_load (library : GrammarLibrary) (text : String) :
    Ends library (.document (.text text)) (library.load text) := by
  have hdefinitions := length_definitions_lt_room library
  have htext : (read (.text text)).toOption.toList.length ≤ 1 := Option.length_toList_le
  have hends : Ends library (.document (.text text))
      (Stage.load library.room [] { library with problems := [] } (.document (.text text))) := by
    refine ends_of_room ?_
    rw [available, List.length_append]
    omega
  have hload : library.load text
      = Stage.load library.room [] { library with problems := [] } (.document (.text text)) := by
    rcases load_cases library text with ⟨e, hparse, hload⟩ | ⟨d, hparse, hload⟩
    · rw [hload, Stage.load, read, hparse]
    · rw [hload, Stage.load, read, hparse]
  rw [hload]
  exact hends

/-- A load by name ends. -/
theorem ends_loadNamed (library : GrammarLibrary) (name : String) :
    Ends library (.name name) (library.loadNamed name) := by
  have hdefinitions := length_definitions_lt_room library
  obtain ⟨fuel, hfuel⟩ : ∃ fuel, library.room = fuel + 1 := ⟨_, rfl⟩
  have hends : Ends library (.name name)
      (Stage.load fuel [] { library with problems := [] } (.name name)) := by
    refine ends_of_room ?_
    rw [available]
    omega
  rw [loadNamed, hfuel]
  exact hends

/-- **Loading always ends**, whatever names the definitions declare and whichever parents they give:
    a load of a text and a load by name each come to the outcome that is computed.  The nesting of
    documents exceeds the number of declared names by one at most. -/
theorem load_ends (library : GrammarLibrary) :
    (∀ text, Ends library (.document (.text text)) (library.load text)) ∧
      ∀ name, Ends library (.name name) (library.loadNamed name) :=
  ⟨ends_load library, ends_loadNamed library⟩

end GrammarLibrary

end Highlight
