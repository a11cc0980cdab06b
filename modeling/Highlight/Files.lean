/-
  The files a library of grammars or themes is read from.

  1. **The tree** — a `FileSystem` has the entries of its root directory, and a current directory.

  2. **Paths** — `FileSystem.locate` follows a path, from the root if it is absolute and from the
     current directory if not; the directory above the root is the root itself.  A path must not
     have a NUL character, and neither the path nor a name in it may be too long; the length of a
     name counts only once the directory is known in which it is looked up.

  3. **Reading** — `FileSystem.readText` reads a file as text, `FileSystem.isFile` tells whether
     there is one.
-/
import Highlight.Dict
import Highlight.Path

namespace Highlight

/-- A file with its bytes, or a directory. -/
inductive FileTree where
  | file (bytes : ByteArray)
  | directory (entries : List (String × FileTree))

/-- The entries of a directory. -/
abbrev Files := Dict String FileTree

/-- All the files there are, and the directory in which relative paths start. -/
structure FileSystem where
  /-- The entries of the root directory. -/
  root : Files := []
  /-- The names that lead from the root to the current directory. -/
  current : List String := []

/-- The file system whose current directory has the given entries, with nothing beside it. -/
def FileSystem.ofFiles (files : Files) : FileSystem :=
  { root := [("work", .directory files)], current := ["work"] }

/-- Where files are given without a place, they are those of the current directory. -/
instance : Coe Files FileSystem := ⟨FileSystem.ofFiles⟩

instance {α : Type} : CoeDep (List α) [] FileSystem := ⟨{}⟩

/-- Why a file could not be read. -/
inductive ReadError where
  | notFound
  | isDirectory
  | notDirectory
  | notText
  | nulInPath
  | nameTooLong
  deriving DecidableEq, Repr

/-- The message of an error, with its number if the system has one for it. -/
def ReadError.message : ReadError → String
  | notFound => "No such file or directory (os error 2)"
  | isDirectory => "Is a directory (os error 21)"
  | notDirectory => "Not a directory (os error 20)"
  | notText => "stream did not contain valid UTF-8"
  | nulInPath => "file name contained an unexpected NUL byte"
  | nameTooLong => "File name too long (os error 36)"

namespace FileSystem

/-! ## Paths -/

/-- Where a path has led to: a file, or a directory with the entries of the directories above it,
    up to the root. -/
inductive Location where
  | file (bytes : ByteArray)
  | directory (entries : Files) (above : List Files)

/-- The most bytes a name may have. -/
def maxNameBytes : Nat := 255

/-- The most bytes a path may have. -/
def maxPathBytes : Nat := 4095

/-- Why a name that leads nowhere cannot be looked up. -/
def missing (name : String) : ReadError :=
  if maxNameBytes < name.utf8ByteSize then .nameTooLong else .notFound

/-- Follow one part of a path. -/
def step (part : String) : Location → Except ReadError Location
  | .file _ => .error .notDirectory
  | .directory entries above =>
    if part = "" ∨ part = "." then .ok (.directory entries above)
    else if part = ".." then
      match above with
      | [] => .ok (.directory entries [])
      | outer :: above => .ok (.directory outer above)
    else
      match entries.find? part with
      | none => .error (missing part)
      | some (.file bytes) => .ok (.file bytes)
      | some (.directory inner) => .ok (.directory inner (entries :: above))

/-- Follow the parts of a path. -/
def walk : List String → Location → Except ReadError Location
  | [], here => .ok here
  | part :: parts, here =>
    match step part here with
    | .ok next => walk parts next
    | .error e => .error e

/-- The parts of a path as it is followed from the root. -/
def partsFromRoot (fs : FileSystem) (path : String) : List String :=
  if Path.isAbsolute path then Path.parts path else fs.current ++ Path.parts path

/-- Follow a path. -/
def locate (fs : FileSystem) (path : String) : Except ReadError Location :=
  if path.toList.any (·.toNat = 0) then .error .nulInPath
  else if maxPathBytes < path.utf8ByteSize then .error .nameTooLong
  else if path.isEmpty then .error .notFound
  else walk (fs.partsFromRoot path) (.directory fs.root [])

/-! ## Reading -/

/-- Whether a path leads to a file. -/
def isFile (fs : FileSystem) (path : String) : Bool :=
  match fs.locate path with
  | .ok (.file _) => true
  | _ => false

/-- The text of a file. -/
def readText (fs : FileSystem) (path : String) : Except ReadError String :=
  match fs.locate path with
  | .error e => .error e
  | .ok (.file bytes) =>
    match String.fromUTF8? bytes with
    | some text => .ok text
    | none => .error .notText
  | .ok (.directory ..) => .error .isDirectory

/-! ## Where paths lead -/

/-- Where an absolute path leads does not depend on the current directory. -/
theorem locate_of_isAbsolute {path : String} (h : Path.isAbsolute path = true) (fs : FileSystem)
    (current : List String) : { fs with current := current }.locate path = fs.locate path := by
  unfold locate partsFromRoot
  simp only [if_pos h]

/-- A path that leads anywhere has been followed from the root. -/
theorem walk_of_locate {fs : FileSystem} {path : String} {next : Location}
    (h : fs.locate path = .ok next) :
    walk (fs.partsFromRoot path) (.directory fs.root []) = .ok next := by
  unfold locate at h
  split at h
  · exact absurd h (by simp)
  · split at h
    · exact absurd h (by simp)
    · split at h
      · exact absurd h (by simp)
      · exact h

/-- A path whose text can be read leads to a file. -/
theorem isFile_of_readText {fs : FileSystem} {path text : String}
    (h : fs.readText path = .ok text) : fs.isFile path = true := by
  unfold readText at h
  unfold isFile
  split at h
  · exact absurd h (by simp)
  · rename_i hlocate
    rw [hlocate]
  · exact absurd h (by simp)

end FileSystem

namespace Files

/-! ## Counting -/

mutual

/-- The number of files in a tree. -/
def count : FileTree → Nat
  | .file _ => 1
  | .directory entries => countAll entries

/-- The number of files in a directory and below it. -/
def countAll : List (String × FileTree) → Nat
  | [] => 0
  | e :: rest => countEntry e + countAll rest

/-- The number of files of an entry. -/
def countEntry : String × FileTree → Nat
  | (_, tree) => count tree

end

end Files

end Highlight
