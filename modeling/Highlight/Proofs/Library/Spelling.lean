/-
  One name, spelled in two ways.

  Registered definitions and kept grammars are filed under the key of a name, so it does not matter
  how the name is spelled.  In a directory the spelling is tried before the key, and there it may
  matter: one spelling of a name may lead to a file that another one does not lead to.

  1. **The file for a name** — `fileOf` is the first candidate that is there.  Spellings with the
     same key have the same file, unless some file is named like one of them and not like the key
     (`spelledFile_of_ne`).

  2. **Loading under two spellings** — the loads say the same and leave the same (`Alike`), unless
     the spellings are `Divided`.

  3. **Loading again** — once a grammar has been loaded, all spellings of its name give it
     (`loadNamed_again`).

  Main result: `loadNamed_spelling`.  In `go_needs_spelling` a name is found under one spelling
  only, and under the other one as soon as it is kept.
-/
import Highlight.Proofs.Library.Registered
import Highlight.Proofs.Library.Sharing

namespace Highlight

namespace GrammarLibrary

variable {library : GrammarLibrary} {a b : String}

/-! ## The file for a name -/

/-- The file in which a definition is looked for: the first candidate that is a file. -/
def fileOf (library : GrammarLibrary) (name : String) : Option String :=
  List.find? library.files.isFile (library.candidates name)

/-- Some directory has a file that is named like the name as it is spelled, and not like its key. -/
def SpelledFile (library : GrammarLibrary) (name : String) : Prop :=
  Text.trim name ≠ nameKey name ∧
    ∃ dir ∈ library.config.grammarDirs,
      library.files.isFile (Path.join dir (Text.trim name ++ ".toml")) = true

/-- Where no file is named like the spelling, it is the files named like the key that count. -/
theorem fileOf_of_not_spelledFile (h : ¬ SpelledFile library a) :
    library.fileOf a = List.find? library.files.isFile
      (library.config.grammarDirs.map fun dir => Path.join dir (nameKey a ++ ".toml")) := by
  by_cases hspelled : Text.trim a = nameKey a
  · -- both candidates of a directory are one and the same
    unfold fileOf candidates
    rw [hspelled]
    induction library.config.grammarDirs with
    | nil => rfl
    | cons dir dirs ih =>
      simp only [List.flatMap_cons, List.cons_append, List.nil_append, List.map_cons,
        List.find?_cons]
      rw [ih]
      cases library.files.isFile (Path.join dir (nameKey a ++ ".toml")) <;> rfl
  · have hnone : ∀ dir ∈ library.config.grammarDirs,
        library.files.isFile (Path.join dir (Text.trim a ++ ".toml")) = false := by
      intro dir hdir
      by_contra hfile
      exact h ⟨hspelled, dir, hdir, Bool.not_eq_false _ ▸ hfile⟩
    unfold fileOf candidates
    revert hnone
    induction library.config.grammarDirs with
    | nil => exact fun _ => rfl
    | cons dir dirs ih =>
      intro hnone
      simp only [List.flatMap_cons, List.cons_append, List.nil_append, List.map_cons,
        List.find?_cons]
      rw [hnone dir List.mem_cons_self,
        ih fun dir' hdir' => hnone dir' (List.mem_cons_of_mem _ hdir')]

/-- **Two spellings have different files only if one of them is the name of a file.** -/
theorem spelledFile_of_ne (hkey : nameKey a = nameKey b)
    (hne : library.fileOf a ≠ library.fileOf b) :
    SpelledFile library a ∨ SpelledFile library b := by
  by_contra hnot
  obtain ⟨ha, hb⟩ := not_or.mp hnot
  apply hne
  rw [fileOf_of_not_spelledFile ha, fileOf_of_not_spelledFile hb, hkey]

/-- The same is found for two names, or nothing for either. -/
def SameFound (library : GrammarLibrary) (a b : String) : Prop :=
  library.find a = library.find b ∨
    library.find a = .error (.notFound a) ∧ library.find b = .error (.notFound b)

/-- Nothing but the file depends on the spelling. -/
theorem find_congr (hkey : nameKey a = nameKey b) (hfile : library.fileOf a = library.fileOf b) :
    SameFound library a b := by
  unfold fileOf at hfile
  unfold SameFound find findSource
  rw [hkey, hfile]
  cases library.sources.find? (nameKey b) with
  | some source => exact .inl rfl
  | none =>
    cases List.find? library.files.isFile (library.candidates b) with
    | some path => exact .inl rfl
    | none => exact .inr ⟨rfl, rfl⟩

/-! ## Loading under two spellings -/

/-- Two loads leave the same library and say the same.  If it is that there is no such grammar, each
    says it of the name as it has been spelled for it. -/
def Alike (a b : String) (first second : Outcome) : Prop :=
  first.2 = second.2 ∧
    (first.1 = second.1 ∨ first.1 = .error (.notFound a) ∧ second.1 = .error (.notFound b))

/-- Two spellings of a name lead to different files: nothing is kept or registered for their key,
    and a directory has a file that is named like one of them and not like the key. -/
structure Divided (library : GrammarLibrary) (a b : String) : Prop where
  unkept : library.loaded.find? (nameKey a) = none
  unregistered : library.sources.find? (nameKey a) = none
  files : library.fileOf a ≠ library.fileOf b
  found : ¬ SameFound library a b
  spelled : SpelledFile library a ∨ SpelledFile library b

/-- A name for which nothing is found. -/
theorem resolve_of_unfound {fuel : Nat} {chain : List String} {e : GrammarError}
    (hopen : nameKey a ∉ chain) (hunkept : library.loaded.find? (nameKey a) = none)
    (hfind : library.find a = .error e) :
    resolve (fuel + 1) chain a library = (.error e, library) := by
  rw [resolve, if_neg hopen, hunkept, hfind]

/-- A grammar that is kept is given under every spelling. -/
theorem resolve_alike_of_kept {fuel : Nat} {g : Grammar} (hkey : nameKey a = nameKey b)
    (hkept : library.loaded.find? (nameKey a) = some g) :
    Alike a b (resolve (fuel + 1) [] a library) (resolve (fuel + 1) [] b library) := by
  rw [resolve_of_kept List.not_mem_nil hkept, resolve_of_kept List.not_mem_nil (hkey ▸ hkept)]
  exact ⟨rfl, .inl rfl⟩

/-- Spellings for which the same is found are loaded alike. -/
theorem resolve_alike_of_find {fuel : Nat} (hkey : nameKey a = nameKey b)
    (hunkept : library.loaded.find? (nameKey a) = none)
    (hfind : SameFound library a b) :
    Alike a b (resolve (fuel + 1) [] a library) (resolve (fuel + 1) [] b library) := by
  have hunkept' : library.loaded.find? (nameKey b) = none := hkey ▸ hunkept
  rcases hfind with hsame | ⟨ha, hb⟩
  · cases hb : library.find b with
    | ok source =>
      rw [resolve_of_unkept List.not_mem_nil hunkept (hsame.trans hb),
        resolve_of_unkept List.not_mem_nil hunkept' hb, hkey]
      exact ⟨rfl, .inl rfl⟩
    | error e =>
      rw [resolve_of_unfound List.not_mem_nil hunkept (hsame.trans hb),
        resolve_of_unfound List.not_mem_nil hunkept' hb]
      exact ⟨rfl, .inl rfl⟩
  · rw [resolve_of_unfound List.not_mem_nil hunkept ha,
      resolve_of_unfound List.not_mem_nil hunkept' hb]
    exact ⟨rfl, .inr ⟨rfl, rfl⟩⟩

/-- **Two spellings of a name are loaded alike, or they are divided.** -/
theorem alike_or_divided (hkey : nameKey a = nameKey b) :
    Alike a b (library.loadNamed a) (library.loadNamed b) ∨ Divided library a b := by
  cases hkept : library.loaded.find? (nameKey a) with
  | some g => exact .inl (resolve_alike_of_kept hkey hkept)
  | none =>
    by_cases hfind : SameFound library a b
    · exact .inl (resolve_alike_of_find hkey hkept hfind)
    · right
      have hfiles : library.fileOf a ≠ library.fileOf b := fun h => hfind (find_congr hkey h)
      constructor
      case unkept => exact hkept
      case unregistered =>
        by_contra hregistered
        obtain ⟨source, hsource⟩ := Option.ne_none_iff_exists'.mp hregistered
        exact hfind (.inl ((find_of_filed hsource).trans (find_of_filed (hkey ▸ hsource)).symm))
      case files => exact hfiles
      case found => exact hfind
      case spelled => exact spelledFile_of_ne hkey hfiles

/-! ## Loading again -/

/-- A definition without a parent is loaded. -/
theorem exists_loaded_of_root {source : Source Definition} {d : Definition} {declared : String}
    (hunkept : library.loaded.find? (nameKey a) = none)
    (hfind : library.findSource a = .ok source) (hread : read source = .ok d)
    (hname : d.declaredName? = some declared) (hparent : d.parent = none) :
    ∃ g, (library.loadNamed a).1 = .ok g := by
  have hloads : Loads 1 [] (.name a) { library with problems := [] } _ :=
    .found List.not_mem_nil hunkept hfind (.root hread hname List.not_mem_nil hparent)
  obtain ⟨-, honly⟩ := ends_loadNamed library a
  rw [← (honly _ _ hloads).1]
  exact ⟨_, rfl⟩

/-- What is kept of an outcome is the grammar that it has. -/
theorem find?_keep {key : String} {outcome : Outcome} {g : Grammar}
    (h : (keep key outcome).1 = .ok g) : (keep key outcome).2.loaded.find? key = some g := by
  obtain ⟨result, after⟩ := outcome
  cases result with
  | error e => exact absurd h (by simp [keep])
  | ok made =>
    obtain rfl := Except.ok.inj h
    exact Dict.find?_set_self ..

/-- What has been loaded by name is kept under its key. -/
theorem kept_of_loadNamed {g : Grammar} (h : (library.loadNamed a).1 = .ok g) :
    (library.loadNamed a).2.loaded.find? (nameKey a) = some g := by
  cases hbefore : library.loaded.find? (nameKey a) with
  | some kept =>
    have hgiven : library.loadNamed a = (.ok kept, { library with problems := [] }) :=
      resolve_of_kept List.not_mem_nil hbefore
    rw [hgiven] at h ⊢
    rw [← Except.ok.inj h]
    exact hbefore
  | none =>
    cases hfind : library.find a with
    | error e =>
      have hunfound : library.loadNamed a = (.error e, { library with problems := [] }) :=
        resolve_of_unfound List.not_mem_nil hbefore hfind
      rw [hunfound] at h
      exact absurd h (by simp)
    | ok source =>
      have hmade : library.loadNamed a = keep (nameKey a) _ :=
        resolve_of_unkept List.not_mem_nil hbefore hfind
      rw [hmade] at h ⊢
      exact find?_keep h

/-- **A grammar that has been loaded is given again**, however its name is spelled. -/
theorem loadNamed_again {g : Grammar} (hkey : nameKey a = nameKey b)
    (h : (library.loadNamed a).1 = .ok g) :
    (library.loadNamed a).2.loadNamed b
      = (.ok g, { (library.loadNamed a).2 with problems := [] }) :=
  resolve_of_kept List.not_mem_nil (hkey ▸ kept_of_loadNamed h)

/-- **It is the name that counts, and not its spelling**, but for the names of files.  Names that
    are the same up to letter case and the blanks around them are loaded alike, unless nothing is
    kept or registered for them and a directory has a file for one of them as it is spelled, which
    is not the one found for the other.  And once one of them has been loaded, they all give what
    has been loaded. -/
theorem loadNamed_spelling (library : GrammarLibrary) {a b : String}
    (hkey : nameKey a = nameKey b) :
    (Alike a b (library.loadNamed a) (library.loadNamed b) ∨ Divided library a b) ∧
      ∀ g, (library.loadNamed a).1 = .ok g → ((library.loadNamed a).2.loadNamed b).1 = .ok g := by
  refine ⟨alike_or_divided hkey, fun g h => ?_⟩
  rw [loadNamed_again hkey h]

/-- In this directory the only file is named like the key, and every spelling leads to it. -/
theorem loadNamed_spelling_base :
    let library : GrammarLibrary :=
      { config := { grammarDirs := ["g"] }
        files := { root := [("g", .directory [("base.toml", .file "name='Base'".toUTF8)])] } }
    nameKey " Base " = nameKey "BASE" ∧
      Alike " Base " "BASE" (library.loadNamed " Base ") (library.loadNamed "BASE") ∧
      ∃ g, (library.loadNamed " Base ").1 = .ok g ∧
        ((library.loadNamed " Base ").2.loadNamed "BASE").1 = .ok g := by
  intro library
  have hkey : nameKey " Base " = nameKey "BASE" := by decide +kernel
  obtain ⟨halike, hagain⟩ := loadNamed_spelling library hkey
  obtain ⟨d, hd, hname, hparent⟩ : ∃ d,
      Definition.parse? "name='Base'" = some d ∧ d.declaredName? = some "Base" ∧ d.parent = none :=
    exists_definition (by decide +kernel)
  have hfind : library.findSource " Base " = .ok (.text "name='Base'") := by
    refine findSource_of_file rfl ?_
    unfold FileSystem.isFile FileSystem.readText FileSystem.locate FileSystem.partsFromRoot
    simp only [Path.parts_eq]
    decide +kernel
  -- no file is named like either spelling, the only one being named like the key
  have hspelled : ∀ name ∈ [" Base ", "BASE"], ¬ SpelledFile library name := by
    rintro name hname ⟨-, dir, hdir, hfile⟩
    obtain rfl := List.mem_singleton.mp hdir
    revert name hfile
    unfold FileSystem.isFile FileSystem.locate FileSystem.partsFromRoot
    simp only [Path.parts_eq]
    decide +kernel
  obtain ⟨g, hg⟩ :=
    exists_loaded_of_root rfl hfind (read_text_eq_ok_iff.mpr hd) hname hparent
  refine ⟨hkey, halike.resolve_right fun hdivided => ?_, g, hg, hagain g hg⟩
  rcases hdivided.spelled with h | h
  · exact hspelled _ (by simp) h
  · exact hspelled _ (by simp) h

/-- A directory has a file that is named like one spelling of a name and not like its key.  The
    other spelling does not lead there; but it gives the grammar once that has been loaded. -/
theorem go_needs_spelling :
    let library : GrammarLibrary :=
      { config := { grammarDirs := ["g"] }
        files := { root := [("g", .directory [("Go.toml", .file "name='Go'".toUTF8)])] } }
    nameKey "Go" = nameKey "go" ∧ (library.loadNamed "go").1 = .error (.notFound "go") ∧
      ∃ g, (library.loadNamed "Go").1 = .ok g ∧
        ((library.loadNamed "Go").2.loadNamed "go").1 = .ok g := by
  intro library
  have hkey : nameKey "Go" = nameKey "go" := by decide +kernel
  obtain ⟨d, hd, hname, hparent⟩ : ∃ d,
      Definition.parse? "name='Go'" = some d ∧ d.declaredName? = some "Go" ∧ d.parent = none :=
    exists_definition (by decide +kernel)
  have hfind : library.findSource "Go" = .ok (.text "name='Go'") := by
    refine findSource_of_file rfl ?_
    unfold FileSystem.isFile FileSystem.readText FileSystem.locate FileSystem.partsFromRoot
    simp only [Path.parts_eq]
    decide +kernel
  -- the key of the name has no file
  have hunfound : library.find "go" = .error (.notFound "go") := by
    have hfile : library.fileOf "go" = none := by
      unfold fileOf FileSystem.isFile FileSystem.locate FileSystem.partsFromRoot
      simp only [Path.parts_eq]
      decide +kernel
    unfold fileOf at hfile
    rw [find, findSource, hfile]
    rfl
  obtain ⟨g, hg⟩ :=
    exists_loaded_of_root rfl hfind (read_text_eq_ok_iff.mpr hd) hname hparent
  refine ⟨hkey, ?_, g, hg, by rw [loadNamed_again hkey hg]⟩
  have hfails : library.loadNamed "go" = (.error (.notFound "go"), library) :=
    resolve_of_unfound List.not_mem_nil rfl hunfound
  rw [hfails]

end GrammarLibrary

end Highlight
