/-
  Where themes come from.

  A `ThemeLibrary` holds the texts of style sheets that were registered under a name, and knows the
  directories in which others are found.  Every sheet is read over a theme: the built-in one, or one
  that is given.
-/
import Highlight.Name
import Highlight.Theme.Sheet

namespace Highlight

/-- Why a theme could not be loaded; a malformed text goes with the error. -/
inductive ThemeError where
  | unreadable (path : String) (cause : ReadError)
  | malformed {text : String}
  | notFound (name : String)
  deriving DecidableEq, Repr

/-- The message of an error. -/
def ThemeError.message : ThemeError → String
  | unreadable path cause => "cannot read style " ++ path ++ ": " ++ cause.message
  | malformed => "malformed style definition"
  | notFound name => "no style named " ++ Quoted.quote name

/-- The style sheets at hand. -/
structure ThemeLibrary where
  config : Config := {}
  files : FileSystem := {}
  /-- Registered sheets by the key of their name, as they were given. -/
  sources : Dict String (Source Sheet) := []

namespace ThemeLibrary

/-- File a style sheet under a name, in whichever form it is given. -/
def registerSource (library : ThemeLibrary) (name : String) (source : Source Sheet) :
    ThemeLibrary :=
  { library with sources := library.sources.set (nameKey name) source }

/-- File a text under a name. -/
def register (library : ThemeLibrary) (name text : String) : ThemeLibrary :=
  library.registerSource name (.text text)

/-- The theme that every sheet starts from. -/
def base (library : ThemeLibrary) : Theme := .builtin library.config

/-- Read a style sheet over a theme. -/
def loadOver (theme : Theme) (text : String) : Except ThemeError Theme :=
  match Sheet.parse? text with
  | some sheet => .ok (sheet.applyTo theme)
  | none => .error (@ThemeError.malformed text)

/-- Lay a style sheet that has been filed over a theme. -/
def layer (theme : Theme) : Source Sheet → Except ThemeError Theme
  | .text text => loadOver theme text
  | .value sheet => .ok (sheet.applyTo theme)

/-- Read a style sheet over the built-in theme. -/
def load (library : ThemeLibrary) (text : String) : Except ThemeError Theme :=
  loadOver library.base text

/-- Read a file over the built-in theme. -/
def loadFile (library : ThemeLibrary) (path : String) : Except ThemeError Theme :=
  match library.files.readText path with
  | .ok text => library.load text
  | .error e => .error (.unreadable path e)

/-- The paths at which a theme may be found, the best one first: in the directories of themes, or
    with the name being a path itself. -/
def candidates (library : ThemeLibrary) (name : String) : List String :=
  library.config.styleDirs.map (Path.join · (Text.trim name ++ ".toml")) ++ [name]

/-- Load a theme by name. -/
def loadNamed (library : ThemeLibrary) (name : String) : Except ThemeError Theme :=
  match library.sources.find? (nameKey name) with
  | some source => layer library.base source
  | none =>
    match List.find? library.files.isFile (library.candidates name) with
    | some path => library.loadFile path
    | none => .error (.notFound name)

end ThemeLibrary

end Highlight
