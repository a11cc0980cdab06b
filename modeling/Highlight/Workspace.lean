/-
  A workspace: languages, themes and the buffers that are highlighted with them.

  1. **The catalogue** — `Workspace.languages` holds the declared names of the languages that have
     been added, `Workspace.extensions` the language of each file name extension.  The language that
     was added last has an extension.  A language is only catalogued once its grammar has been
     loaded.

  2. **Snapshots** — `Workspace.snapshot` gives a language's grammar and the theme it asks for, or
     the default theme if there is no such theme.

  3. **Buffers** — a buffer with a language has a highlighter, which works on the snapshot that was
     taken when the language was set.  Highlighting can be switched off; the highlighters then still
     follow the edits, but show no spans.
-/
import Highlight.Grammar.Builtin
import Highlight.Grammar.Library
import Highlight.Highlighter
import Highlight.Theme.Builtin
import Highlight.Theme.Library

namespace Highlight

/-- The languages, themes and buffers in use. -/
structure Workspace where
  grammars : GrammarLibrary := {}
  themes : ThemeLibrary := {}
  /-- Declared names by their lowercase form. -/
  languages : Dict String String := []
  /-- Language names by lowercase extension. -/
  extensions : Dict String String := []
  /-- Themes that have been loaded, by their lowercase name. -/
  loadedThemes : Dict String Theme := []
  defaultTheme : Theme := {}
  buffers : Dict Nat Highlighter := []
  enabled : Bool := true

/-- Why something could not be added to a workspace. -/
inductive WorkspaceError where
  | grammar (cause : GrammarError)
  | theme (cause : ThemeError)
  | config (cause : ConfigError)
  deriving DecidableEq, Repr

/-- The message of an error. -/
def WorkspaceError.message : WorkspaceError → String
  | grammar cause => cause.message
  | theme cause => cause.message
  | config cause => cause.message

namespace Workspace

/-! ## The catalogue -/

/-- Enter a grammar under its name and extensions. -/
def enter (ws : Workspace) (g : Grammar) : Workspace :=
  { ws with
    extensions := g.extensions.foldl (fun m e => m.set (Unicode.lowercase e) g.name) ws.extensions
    languages := ws.languages.set (Unicode.lowercase g.name) g.name }

/-- Load a grammar and enter it in the catalogue. -/
def catalogue (ws : Workspace) (name : String) : Except GrammarError Unit × Workspace :=
  match ws.grammars.loadNamed name with
  | (.error e, grammars) => (.error e, { ws with grammars := grammars })
  | (.ok g, grammars) => (.ok (), enter { ws with grammars := grammars } g)

/-- The workspace of a configuration, with the built-in languages. -/
def new (config : Config) (files : FileSystem) : Workspace :=
  let themes := ThemeLibrary.registerSource { config := config, files := files }
    Sheet.Builtin.name (.value Sheet.Builtin.sheet)
  let definitions := Grammar.Builtin.all
  let grammars := definitions.foldl (fun l (name, d) => l.registerSource name (.value d))
    ({ config := config, files := files } : GrammarLibrary)
  let ws : Workspace :=
    { grammars := grammars
      themes := themes
      defaultTheme := (themes.loadNamed Sheet.Builtin.name).toOption.getD themes.base }
  definitions.foldl (fun ws (name, _) => (ws.catalogue name).2) ws

/-- The workspace of a configuration file. -/
def ofConfigFile (files : FileSystem) (path : String) : Except ConfigError Workspace :=
  (Config.loadFrom files path).map fun config => new config files

/-- Add the language of a definition.  If it cannot be loaded it is not kept. -/
def addLanguage (ws : Workspace) (text : String) : Except GrammarError Unit × Workspace :=
  match GrammarLibrary.declaredName text with
  | .error e => (.error e, ws)
  | .ok name =>
    if ws.languages.has (Unicode.lowercase name) then (.error (.duplicateName name), ws)
    else
      match catalogue { ws with grammars := ws.grammars.register name text } name with
      | (.ok (), ws) => (.ok (), ws)
      | (.error e, ws) => (.error e, { ws with grammars := ws.grammars.forget name })

/-- Add the language of a definition file. -/
def addLanguageFile (ws : Workspace) (path : String) : Except GrammarError Unit × Workspace :=
  match ws.grammars.files.readText path with
  | .ok text => ws.addLanguage text
  | .error e => (.error (.unreadable path e), ws)

/-- Add a theme.  A malformed one leaves the theme of that name as it was. -/
def addStyle (ws : Workspace) (name text : String) : Except ThemeError Unit × Workspace :=
  match ws.themes.load text with
  | .error e => (.error e, ws)
  | .ok theme =>
    (.ok (), { ws with
      themes := ws.themes.register name text
      loadedThemes := ws.loadedThemes.set (Unicode.lowercase name) theme })

/-- The language of a file, going by its extension. -/
def detectLanguage (ws : Workspace) (path : String) : Option String :=
  (Path.extension? path).bind fun e => ws.extensions.find? (Unicode.lowercase e)

/-- The declared names of all languages, in order. -/
def listLanguages (ws : Workspace) : List String :=
  (ws.languages.map (·.2)).mergeSort fun a b => !(b < a)

/-! ## Snapshots -/

/-- The theme of a name, or the default theme.  A theme that was found is kept. -/
def themeOf (ws : Workspace) (name : String) : Theme × Workspace :=
  match ws.loadedThemes.find? (Unicode.lowercase name) with
  | some theme => (theme, ws)
  | none =>
    match ws.themes.loadNamed name with
    | .ok theme =>
      (theme, { ws with loadedThemes := ws.loadedThemes.set (Unicode.lowercase name) theme })
    | .error _ => (ws.defaultTheme, ws)

/-- The grammar of a language and the theme it asks for. -/
def snapshot (ws : Workspace) (language : String) :
    Except GrammarError (Grammar × Theme) × Workspace :=
  match ws.grammars.loadNamed language with
  | (.error e, grammars) => (.error e, { ws with grammars := grammars })
  | (.ok g, grammars) =>
    let ws := { ws with grammars := grammars }
    match g.style with
    | none => (.ok (g, ws.defaultTheme), ws)
    | some style =>
      let (theme, ws) := ws.themeOf style
      (.ok (g, theme), ws)

/-! ## Buffers -/

/-- Highlight a buffer as a language.  If that fails the buffer keeps what it had. -/
def setBufferLanguage (ws : Workspace) (id : Nat) (language : String) (buffer : Buffer) :
    Except GrammarError LineRange × Workspace :=
  match ws.snapshot language with
  | (.error e, ws) => (.error e, ws)
  | (.ok (g, theme), ws) =>
    let highlighter := (ws.buffers.find? id).getD { grammar := g, theme := theme }
    let (highlighter, repaint) := highlighter.setSnapshot g theme buffer
    (.ok repaint, { ws with buffers := ws.buffers.set id highlighter })

/-- Take a buffer's highlighter away. -/
def closeBuffer (ws : Workspace) (id : Nat) : Workspace :=
  { ws with buffers := ws.buffers.erase id }

/-- Highlight a buffer as the language of its file.  Without one it is not highlighted. -/
def openBuffer (ws : Workspace) (id : Nat) (path : Option String) (buffer : Buffer) :
    Except GrammarError LineRange × Workspace :=
  match path.bind ws.detectLanguage with
  | some language => ws.setBufferLanguage id language buffer
  | none => (.ok {}, ws.closeBuffer id)

/-- Tell a buffer's highlighter about an edit. -/
def linesChanged (ws : Workspace) (id : Nat) (buffer : Buffer) (edit : LineEdit) :
    LineRange × Workspace :=
  match ws.buffers.find? id with
  | none => ({}, ws)
  | some highlighter =>
    let (highlighter, repaint) := highlighter.change buffer edit
    (repaint, { ws with buffers := ws.buffers.set id highlighter })

/-- The highlighter of a buffer, if it has a language. -/
def highlighter? (ws : Workspace) (id : Nat) : Option Highlighter := ws.buffers.find? id

/-- The spans of a line of a buffer. -/
def spans (ws : Workspace) (id line : Nat) : List Span :=
  if ws.enabled then ((ws.highlighter? id).map (·.spans line)).getD [] else []

/-- Switch highlighting on or off. -/
def toggle (ws : Workspace) : Workspace := { ws with enabled := !ws.enabled }

end Workspace

end Highlight
