/-
  The configuration: where grammars and themes are looked for, how many rules a grammar may have,
  and the looks of plain text.

  A configuration is read from a TOML document; whatever the document does not say has a default.
  `Config.load` takes the user's own document from the home directory, and the defaults if there is
  none or it is no good.
-/
import Highlight.Files
import Highlight.Grammar
import Highlight.Toml.Document
import Highlight.Toml.Record

namespace Highlight

/-- The looks of plain text; colours are kept as they are written. -/
structure PlainLooks where
  foreground : Option String := none
  background : Option String := none
  family : Option String := none
  deriving DecidableEq, Repr, Inhabited

/-- The configuration. -/
structure Config where
  grammarDirs : List String := []
  styleDirs : List String := []
  limits : Limits := {}
  plain : PlainLooks := {}
  deriving DecidableEq, Repr, Inhabited

/-- Why there is no configuration: which file could not be read, or which text is none. -/
inductive ConfigError where
  | unreadable (path : String) (cause : ReadError)
  | malformed {text : String}
  deriving DecidableEq, Repr

/-- The message of an error. -/
def ConfigError.message : ConfigError → String
  | unreadable path cause => "cannot read config " ++ path ++ ": " ++ cause.message
  | malformed => "malformed config"

namespace Config

open Toml

/-- The limits in a document. -/
def limits? (v : Value) : Option Limits := do
  let t ← v.partialRecord? ["keywords", "expressions", "line_expressions", "block_expressions"]
  let default : Limits := {}
  return {
    keywords := ← t.fieldD? Value.natural? "keywords" default.keywords
    expressions := ← t.fieldD? Value.natural? "expressions" default.expressions
    lineExpressions := ← t.fieldD? Value.natural? "line_expressions" default.lineExpressions
    blockExpressions := ← t.fieldD? Value.natural? "block_expressions" default.blockExpressions }

/-- The looks of plain text in a document. -/
def plainLooks? (v : Value) : Option PlainLooks := do
  let t ← v.partialRecord? ["foreground", "background", "family"]
  return {
    foreground := ← t.field? Value.string? "foreground"
    background := ← t.field? Value.string? "background"
    family := ← t.field? Value.string? "family" }

/-- The configuration in the table of a document. -/
def ofTable? (t : Table) : Option Config := do
  return {
    grammarDirs := ← t.fieldD? (Value.listOf? Value.string?) "grammar_dirs" []
    styleDirs := ← t.fieldD? (Value.listOf? Value.string?) "style_dirs" []
    limits := ← t.fieldD? limits? "limits" {}
    plain := ← t.fieldD? plainLooks? "default_style" {} }

/-- Read a configuration. -/
def parse (text : String) : Except ConfigError Config :=
  match (Document.parse text).bind ofTable? with
  | some config => .ok config
  | none => .error (@ConfigError.malformed text)

/-- Read a configuration from a file. -/
def loadFrom (files : FileSystem) (path : String) : Except ConfigError Config :=
  match files.readText path with
  | .ok text => parse text
  | .error e => .error (.unreadable path e)

/-- The path of the user's configuration, if there is a home directory. -/
def userPath? (home : Option String) : Option String := home.map (Path.join · ".linelex.toml")

/-- The user's configuration, or the defaults. -/
def load (files : FileSystem) (home : Option String) : Config :=
  match userPath? home with
  | none => {}
  | some path =>
    match loadFrom files path with
    | .ok config => config
    | .error _ => {}

/-- Whether nothing differs from the defaults. -/
def isDefault (config : Config) : Bool := config = {}

/-- Look for grammars in one more directory. -/
def withGrammarDir (config : Config) (dir : String) : Config :=
  { config with grammarDirs := config.grammarDirs ++ [dir] }

/-- Look for themes in one more directory. -/
def withStyleDir (config : Config) (dir : String) : Config :=
  { config with styleDirs := config.styleDirs ++ [dir] }

end Config

end Highlight
