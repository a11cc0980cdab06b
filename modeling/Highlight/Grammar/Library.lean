/-
  Where grammars come from.

  1. **The library** — a `GrammarLibrary` holds the texts of definitions that were registered under
     a name, and knows the directories in which others are found.  A text is read each time its
     definition is needed.  Grammars that were loaded by name are kept, and so are the problems met
     in the last load.

  2. **Inheritance** — a definition may name another one, its parent, and is laid over the parent's
     grammar.  `parentOf` follows the names; the chain of names that led to a definition tells
     when they go round in a circle.

  3. **Eviction** — when a registered definition changes, the grammar kept for it goes, and so do
     all grammars that were derived from it.
-/
import Highlight.Files
import Highlight.Config
import Highlight.Grammar.Definition
import Highlight.Name

namespace Highlight

/-- Why a grammar could not be loaded; a malformed text goes with the error. -/
inductive GrammarError where
  | unreadable (path : String) (cause : ReadError)
  | malformed {text : String}
  | missingName
  | duplicateName (name : String)
  | notFound (name : String)
  | inheritanceCycle (chain : List String)
  deriving DecidableEq, Repr

/-- The message of an error. -/
def GrammarError.message : GrammarError → String
  | unreadable path cause => "cannot read grammar " ++ path ++ ": " ++ cause.message
  | malformed => "malformed grammar definition"
  | missingName => "grammar definition has no name"
  | duplicateName name => "grammar " ++ Quoted.quote name ++ " is already registered"
  | notFound name => "no grammar named " ++ Quoted.quote name
  | inheritanceCycle chain => "grammar inheritance cycle: " ++ String.intercalate " -> " chain

/-- The definitions at hand, and what has been made of them. -/
structure GrammarLibrary where
  config : Config := {}
  files : FileSystem := {}
  /-- Registered definitions by the key of their name, as they were given. -/
  sources : Dict String (Source Definition) := []
  /-- Grammars by the key under which they were asked for. -/
  loaded : Dict String Grammar := []
  /-- The problems of the last load. -/
  problems : List RuleProblem := []
  /-- How many definitions have been read so far. -/
  parsed : Nat := 0

namespace GrammarLibrary

/-- What a load says, and the library after it. -/
abbrev Outcome := Except GrammarError Grammar × GrammarLibrary

/-! ## Eviction -/

/-- The keys of kept grammars that name one of the given keys as their parent. -/
def childrenOf (keys : List String) (loaded : Dict String Grammar) : List String :=
  (loaded.filter fun (key, g) =>
    key ∉ keys && (g.parent.map nameKey).any (· ∈ keys)).map (·.1)

/-- Some keys and those of all kept grammars derived from them.  Every step adds a kept grammar, so
    `fuel` need not exceed their number by more than one. -/
def familyFrom (loaded : Dict String Grammar) : (fuel : Nat) → (keys : List String) → List String
  | 0, keys => keys
  | fuel + 1, keys =>
    match childrenOf keys loaded with
    | [] => keys
    | children => familyFrom loaded fuel (keys ++ children)

/-- A key and those of all kept grammars derived from it. -/
def family (library : GrammarLibrary) (key : String) : List String :=
  familyFrom library.loaded (library.loaded.length + 1) [key]

/-- Drop a kept grammar and those derived from it. -/
def evict (library : GrammarLibrary) (key : String) : GrammarLibrary :=
  let stale := library.family key
  { library with loaded := library.loaded.filter fun (k, _) => k ∉ stale }

/-- File a definition under a name, in whichever form it is given. -/
def registerSource (library : GrammarLibrary) (name : String) (source : Source Definition) :
    GrammarLibrary :=
  let library := library.evict (nameKey name)
  { library with sources := library.sources.set (nameKey name) source }

/-- File a text under a name. -/
def register (library : GrammarLibrary) (name text : String) : GrammarLibrary :=
  library.registerSource name (.text text)

/-- Remove the definition filed under a name. -/
def forget (library : GrammarLibrary) (name : String) : GrammarLibrary :=
  let library := library.evict (nameKey name)
  { library with sources := library.sources.erase (nameKey name) }

/-- Drop all kept grammars. -/
def clear (library : GrammarLibrary) : GrammarLibrary := { library with loaded := [] }

/-- The keys of the registered definitions. -/
def sourceNames (library : GrammarLibrary) : List String := library.sources.keys

/-! ## Finding definitions -/

/-- The paths at which a definition may be found, the best one first: in each directory under the
    name as it is spelled, then under its key. -/
def candidates (library : GrammarLibrary) (name : String) : List String :=
  library.config.grammarDirs.flatMap fun dir =>
    [Path.join dir (Text.trim name ++ ".toml"), Path.join dir (nameKey name ++ ".toml")]

/-- Read the text of a definition. -/
def parse (text : String) : Except GrammarError Definition :=
  match Definition.parse? text with
  | some d => .ok d
  | none => .error (@GrammarError.malformed text)

/-- A text is read as a definition if it is one. -/
theorem parse_eq_ok_iff {text : String} {d : Definition} :
    parse text = .ok d ↔ Definition.parse? text = some d := by
  unfold parse
  cases Definition.parse? text with
  | none => simp
  | some d' => simp

/-- The definition that has been filed. -/
def read : Source Definition → Except GrammarError Definition
  | .text text => parse text
  | .value d => .ok d

/-- What has been filed as a text is read when it is looked up, no earlier. -/
theorem read_text_eq_ok_iff {text : String} {d : Definition} :
    read (.text text) = .ok d ↔ Definition.parse? text = some d :=
  parse_eq_ok_iff

/-- Only a text can be malformed. -/
theorem read_eq_error_iff {source : Source Definition} {e : GrammarError} :
    read source = .error e ↔ ∃ text, source = .text text ∧ Definition.parse? text = none ∧
      e = @GrammarError.malformed text := by
  cases source with
  | value d => simp [read]
  | text text =>
    show parse text = .error e ↔ _
    unfold parse
    cases hparse : Definition.parse? text with
    | some d => simp [hparse]
    | none => simp [hparse, eq_comm]

/-- Find what a definition is read from. -/
def findSource (library : GrammarLibrary) (name : String) :
    Except GrammarError (Source Definition) :=
  match library.sources.find? (nameKey name) with
  | some source => .ok source
  | none =>
    match List.find? library.files.isFile (library.candidates name) with
    | none => .error (.notFound name)
    | some path =>
      match library.files.readText path with
      | .ok text => .ok (.text text)
      | .error e => .error (.unreadable path e)

/-- Find a definition and read it. -/
def find (library : GrammarLibrary) (name : String) : Except GrammarError Definition :=
  match library.findSource name with
  | .ok source => read source
  | .error e => .error e

/-- A definition that is found is the one that its source holds. -/
theorem find_of_findSource {library : GrammarLibrary} {name : String} {source : Source Definition}
    (h : library.findSource name = .ok source) : library.find name = read source := by
  simp only [find, h]

theorem find_of_findSource_error {library : GrammarLibrary} {name : String} {e : GrammarError}
    (h : library.findSource name = .error e) : library.find name = .error e := by
  simp only [find, h]

/-- The name that a text declares for its definition. -/
def declaredName (text : String) : Except GrammarError String :=
  match parse text with
  | .error e => .error e
  | .ok d =>
    match d.declaredName? with
    | some name => .ok name
    | none => .error .missingName

/-! ## Inheritance -/

/-- Lay a definition over its parent's grammar, if there is one. -/
def derive (d : Definition) (name : String) : Outcome → Outcome
  | (.error e, library) => (.error e, library)
  | (.ok base, library) =>
    let (g, problems) := d.applyTo name base
    (.ok g, { library with problems := library.problems ++ problems })

/-- Make the grammar of a definition.  `chain` lists the names of the definitions that led to it,
    and `parentOf` loads a parent. -/
def build (parentOf : List String → String → GrammarLibrary → Outcome) (chain : List String)
    (d : Definition) (library : GrammarLibrary) : Outcome :=
  let library := { library with parsed := library.parsed + 1 }
  match d.declaredName? with
  | none => (.error .missingName, library)
  | some name =>
    if nameKey name ∈ chain then
      (.error (.inheritanceCycle (chain ++ [nameKey name])), library)
    else
      derive d name <|
        match d.parent with
        | none => (.ok (.plain name library.config.limits), library)
        | some parent => parentOf (chain ++ [nameKey name]) parent library

/-- Keep a grammar that was loaded under a key. -/
def keep (key : String) : Outcome → Outcome
  | (.ok g, library) => (.ok g, { library with loaded := library.loaded.set key g })
  | (.error e, library) => (.error e, library)

/-- Load a definition by name, `chain` being the names of the definitions that led to it.  The
    names in a chain are declared by different definitions, so `fuel` need not exceed the number of
    definitions at hand by more than two. -/
def resolve : (fuel : Nat) → (chain : List String) → (name : String) → GrammarLibrary → Outcome
  | 0, _, name, library => (.error (.notFound name), library)
  | fuel + 1, chain, name, library =>
    if nameKey name ∈ chain then
      (.error (.inheritanceCycle (chain ++ [nameKey name])), library)
    else
      match library.loaded.find? (nameKey name) with
      | some g => (.ok g, library)
      | none =>
        match library.find name with
        | .error e => (.error e, library)
        | .ok d => keep (nameKey name) (build (resolve fuel) chain d library)

/-- A bound on the length of chains: the number of registered definitions and of files, and two. -/
def room (library : GrammarLibrary) : Nat :=
  library.sources.length + Files.countAll library.files.root + 2

/-! ## Loading -/

/-- Load a definition that is given as text.  The grammar is not kept, but those it is derived from
    are. -/
def load (library : GrammarLibrary) (text : String) : Outcome :=
  let library := { library with problems := [] }
  match parse text with
  | .error e => (.error e, library)
  | .ok d => build (resolve library.room) [] d library

/-- A text that is a definition is built right away, with no list of problems left over from the
    last load. -/
theorem load_of_ok {library : GrammarLibrary} {text : String} {d : Definition}
    (h : parse text = .ok d) :
    library.load text = build (resolve library.room) [] d { library with problems := [] } := by
  simp only [load, h]
  rfl

/-- A text that is no definition changes nothing but the list of problems. -/
theorem load_of_error {library : GrammarLibrary} {text : String} {e : GrammarError}
    (h : parse text = .error e) : library.load text = (.error e, { library with problems := [] }) := by
  simp only [load, h]

/-- Load a definition from a file.  If there is no such file the problems of the last load stay. -/
def loadFile (library : GrammarLibrary) (path : String) : Outcome :=
  match library.files.readText path with
  | .ok text => library.load text
  | .error e => (.error (.unreadable path e), library)

/-- Load a definition by name. -/
def loadNamed (library : GrammarLibrary) (name : String) : Outcome :=
  resolve library.room [] name { library with problems := [] }

end GrammarLibrary

end Highlight
