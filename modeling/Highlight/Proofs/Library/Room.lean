/-
  The definitions that a library can come upon.

  A definition is found among the registered ones or in a file.

  1. **Files** — a path is followed from entry to entry, wherever it starts, so that a file that is
     read is one of those below the root (`FileSystem.mem_contentsAll_of_readText`).  The step lemma
     is that a part of a path leads from a directory below the root to what is below it again
     (`step_within`): into an entry, or back along the directories that led there.

  2. **Definitions** — hence `GrammarLibrary.definitions` lists whatever a name can lead to
     (`mem_definitions_of_find`), and it is shorter than the room that loading by name allows for.

  Loading by name is bounded by the number of different definitions only through this list, for the
  names that lead to one file are without number: its directory may be reached by any detour.
-/
import Highlight.Proofs.Library.Lineage

namespace Highlight

namespace Files

/-! ## The files of a tree -/

mutual

/-- The contents of the files in a tree. -/
def contents : FileTree → List ByteArray
  | .file bytes => [bytes]
  | .directory entries => contentsAll entries

/-- The contents of the files in a directory and below it. -/
def contentsAll : List (String × FileTree) → List ByteArray
  | [] => []
  | e :: rest => contentsEntry e ++ contentsAll rest

/-- The contents of the files of an entry. -/
def contentsEntry : String × FileTree → List ByteArray
  | (_, tree) => contents tree

end

mutual

/-- There is one content for every file that is counted. -/
theorem length_contents (tree : FileTree) : (contents tree).length = count tree := by
  cases tree with
  | file bytes => rw [contents, count, List.length_singleton]
  | directory entries => rw [contents, count, length_contentsAll]

theorem length_contentsAll (entries : List (String × FileTree)) :
    (contentsAll entries).length = countAll entries := by
  cases entries with
  | nil => rw [contentsAll, countAll, List.length_nil]
  | cons e rest =>
    rw [contentsAll, countAll, List.length_append, length_contentsEntry, length_contentsAll]

theorem length_contentsEntry (e : String × FileTree) :
    (contentsEntry e).length = countEntry e := by
  obtain ⟨part, tree⟩ := e
  rw [contentsEntry, countEntry, length_contents]

end

/-- What an entry holds the directory holds. -/
theorem contents_subset {part : String} {tree : FileTree} {entries : Files}
    (h : (part, tree) ∈ entries) : contents tree ⊆ contentsAll entries := by
  induction entries with
  | nil => exact absurd h List.not_mem_nil
  | cons e rest ih =>
    intro bytes hbytes
    rw [contentsAll, List.mem_append]
    rcases List.mem_cons.mp h with rfl | h
    · exact .inl (by rw [contentsEntry]; exact hbytes)
    · exact .inr (ih h hbytes)

end Files

namespace FileSystem

open Files

/-! ## Following a path -/

/-- A place from which nothing but the files below a directory can be reached. -/
def Location.Within (root : Files) : Location → Prop
  | file bytes => bytes ∈ contentsAll root
  | directory entries above => ∀ inner ∈ entries :: above, contentsAll inner ⊆ contentsAll root

variable {root : Files} {here next : Location}

/-- A part of a path leads from below the root to below the root. -/
theorem step_within {part : String} (h : here.Within root) (hstep : step part here = .ok next) :
    next.Within root := by
  cases here with
  | file bytes => exact absurd hstep (by simp [step])
  | directory entries above =>
    have hentries : contentsAll entries ⊆ contentsAll root := h entries (List.mem_cons_self ..)
    unfold step at hstep
    simp only at hstep
    split at hstep
    · obtain rfl := Except.ok.inj hstep
      exact h
    · split at hstep
      · -- one directory up
        cases above with
        | nil =>
          obtain rfl := Except.ok.inj hstep
          exact h
        | cons outer rest =>
          obtain rfl := Except.ok.inj hstep
          exact fun inner hinner => h inner (List.mem_cons_of_mem _ hinner)
      · split at hstep
        · exact absurd hstep (by simp)
        · rename_i bytes hfind
          obtain rfl := Except.ok.inj hstep
          refine hentries (contents_subset (Dict.mem_of_find? hfind) ?_)
          rw [contents]
          exact List.mem_singleton_self bytes
        · rename_i deeper hfind
          obtain rfl := Except.ok.inj hstep
          intro inner hinner
          rcases List.mem_cons.mp hinner with rfl | hinner
          · have hdeeper := contents_subset (Dict.mem_of_find? hfind)
            rw [contents] at hdeeper
            exact fun bytes hbytes => hentries (hdeeper hbytes)
          · exact h inner hinner

/-- So does a whole path, by induction on its parts. -/
theorem walk_within {parts : List String} (h : here.Within root)
    (hwalk : walk parts here = .ok next) : next.Within root := by
  induction parts generalizing here with
  | nil =>
    obtain rfl := Except.ok.inj hwalk
    exact h
  | cons part parts ih =>
    rw [walk] at hwalk
    split at hwalk
    · rename_i next' hstep
      exact ih (step_within h hstep) hwalk
    · exact absurd hwalk (by simp)

/-- Wherever a path starts, at the root or in the current directory, it ends below the root. -/
theorem locate_within {fs : FileSystem} {path : String} (h : fs.locate path = .ok next) :
    next.Within fs.root := by
  have hroot : (Location.directory fs.root []).Within fs.root := by
    intro inner hinner
    rw [List.mem_singleton.mp hinner]
    exact fun _ hbytes => hbytes
  exact walk_within hroot (walk_of_locate h)

/-- No path leads to a file if the root directory is empty. -/
theorem isFile_of_root_eq_nil {fs : FileSystem} (h : fs.root = []) (path : String) :
    fs.isFile path = false := by
  unfold isFile
  split
  · rename_i bytes hlocate
    have hbytes : bytes ∈ contentsAll fs.root := locate_within hlocate
    rw [h, contentsAll] at hbytes
    exact absurd hbytes List.not_mem_nil
  · rfl

/-- **A text that is read is that of a file below the root.** -/
theorem mem_contentsAll_of_readText {fs : FileSystem} {path text : String}
    (h : fs.readText path = .ok text) :
    ∃ bytes ∈ contentsAll fs.root, String.fromUTF8? bytes = some text := by
  unfold readText at h
  split at h
  · exact absurd h (by simp)
  · rename_i bytes hlocate
    split at h
    · rename_i text' htext
      obtain rfl := Except.ok.inj h
      exact ⟨bytes, locate_within hlocate, htext⟩
    · exact absurd h (by simp)
  · exact absurd h (by simp)

end FileSystem

namespace GrammarLibrary

variable {library : GrammarLibrary}

/-! ## Definitions -/

/-- The definitions at hand: the registered ones, and those in files. -/
def definitions (library : GrammarLibrary) : List Definition :=
  library.sources.filterMap (fun e => (read e.2).toOption) ++
    (Files.contentsAll library.files.root).filterMap fun bytes =>
      (String.fromUTF8? bytes).bind Definition.parse?

/-- **What a name leads to is one of the definitions at hand.** -/
theorem mem_definitions_of_findSource {name : String} {source : Source Definition}
    {d : Definition} (h : library.findSource name = .ok source) (hread : read source = .ok d) :
    d ∈ library.definitions := by
  unfold definitions
  rw [List.mem_append]
  unfold findSource at h
  split at h
  · -- a registered source
    rename_i source' hsource
    obtain rfl := Except.ok.inj h
    refine .inl (List.mem_filterMap.mpr ⟨_, Dict.mem_of_find? hsource, ?_⟩)
    rw [hread]
    rfl
  · split at h
    · exact absurd h (by simp)
    · split at h
      · -- the text of a file
        rename_i text htext
        obtain rfl := Except.ok.inj h
        obtain ⟨bytes, hbytes, hdecoded⟩ := FileSystem.mem_contentsAll_of_readText htext
        refine .inr (List.mem_filterMap.mpr ⟨bytes, hbytes, ?_⟩)
        rw [hdecoded]
        exact parse_eq_ok_iff.mp hread
      · exact absurd h (by simp)

/-- **Whatever is found is one of the definitions at hand.** -/
theorem mem_definitions_of_find {name : String} {d : Definition}
    (h : library.find name = .ok d) : d ∈ library.definitions := by
  unfold find at h
  split at h
  · rename_i source hsource
    exact mem_definitions_of_findSource hsource h
  · exact absurd h (by simp)

/-- There is room for more definitions than there are. -/
theorem length_definitions_lt_room (library : GrammarLibrary) :
    library.definitions.length + 1 < library.room := by
  have hsources := List.length_filterMap_le (fun e => (read e.2).toOption) library.sources
  have hfiles := List.length_filterMap_le
    (fun bytes => (String.fromUTF8? bytes).bind Definition.parse?)
    (Files.contentsAll library.files.root)
  rw [Files.length_contentsAll] at hfiles
  unfold definitions room
  rw [List.length_append]
  omega

end GrammarLibrary

end Highlight
