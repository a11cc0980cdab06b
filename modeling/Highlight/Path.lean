/-
  File paths as texts with `/` between their parts.

  `join` puts a directory and a file together, `extension?` is the part of a file name behind its
  last point.
-/

namespace Highlight.Path

/-- The parts of a path. -/
def parts (path : String) : List String := path.splitOn "/"

def isAbsolute (path : String) : Bool := path.toList.head? = some '/'

/-- The path of a file in a directory; an absolute path stays as it is. -/
def join (directory file : String) : String :=
  if isAbsolute file || directory.isEmpty then file
  else if directory.toList.getLast? = some '/' then directory ++ file
  else directory ++ "/" ++ file

/-- The name of the file that a path leads to; a path to the directory itself, or to the one above
    another, has none. -/
def fileName? (path : String) : Option String :=
  match ((parts path).filter fun p => p ≠ "" ∧ p ≠ ".").getLast? with
  | some name => if name = ".." then none else some name
  | none => none

/-- The part of a file name behind its last point, if there is a point and something before it. -/
def extension? (path : String) : Option String := do
  let name ← fileName? path
  let reversed := name.toList.reverse
  let before := (reversed.dropWhile (· ≠ '.')).drop 1
  if before.isEmpty then none
  else some (String.ofList (reversed.takeWhile (· ≠ '.')).reverse)

end Highlight.Path
