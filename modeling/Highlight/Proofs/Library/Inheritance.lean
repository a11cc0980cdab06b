/-
  Grammars that are loaded where nothing is kept.

  A grammar can be asked for by a text, a file or a name; each leads to a document, and this to a
  chain of documents, each naming the next one as its parent.  If the load succeeds, the grammar is
  the one that `Definition.merged` describes for the chain: every slot is decided by the most
  derived document that declares it.

  Main result: `load_eq_merged`.
-/
import Highlight.Proofs.Library.Merge

namespace Highlight

namespace GrammarLibrary

/-! ## Requests

  The three ways to ask for a grammar differ in how they come to the first document, and in nothing
  behind it. -/

/-- What one asks for a grammar by. -/
inductive Request where
  | text (text : String)
  | file (path : String)
  | name (name : String)

namespace Request

/-- The document that a request leads to, or why there is none. -/
def source (library : GrammarLibrary) : Request → Except GrammarError Definition
  | text s => parse s
  | file path =>
    match library.files.readText path with
    | .ok s => parse s
    | .error e => .error (.unreadable path e)
  | name n => library.find n

/-- Load what is asked for. -/
def load (library : GrammarLibrary) : Request → Outcome
  | text s => library.load s
  | file path => library.loadFile path
  | name n => library.loadNamed n

end Request

/-! ## Chains

  A chain is a chain of documents, found by name as the library finds them: among those registered,
  and then in the files. -/

/-- The documents from one on, each naming the next one as its parent, up to one without a
    parent. -/
inductive Chain (library : GrammarLibrary) : Definition → List Definition → Prop
  | root {d : Definition} (hparent : d.parent = none) : Chain library d [d]
  | derived {d base : Definition} {parent : String} {ds : List Definition}
      (hparent : d.parent = some parent) (hfind : library.find parent = .ok base)
      (hchain : Chain library base ds) : Chain library d (d :: ds)

variable {library : GrammarLibrary}

theorem Chain.unique {d : Definition} {ds ds' : List Definition} (h : Chain library d ds)
    (h' : Chain library d ds') : ds = ds' := by
  induction h generalizing ds' with
  | root hparent =>
    cases h' with
    | root _ => rfl
    | derived hparent' _ _ => exact absurd (hparent.symm.trans hparent') (by simp)
  | derived hparent hfind _ ih =>
    cases h' with
    | root hparent' => exact absurd (hparent.symm.trans hparent') (by simp)
    | derived hparent' hfind' hchain' =>
      obtain rfl := Option.some.inj (hparent.symm.trans hparent')
      obtain rfl := Except.ok.inj (hfind.symm.trans hfind')
      rw [ih hchain']

/-- The definitions of a line are a chain. -/
theorem Lineage.chain {name : String} {line : List (String × Definition)}
    (h : Lineage library name line) :
    ∃ d, library.find name = .ok d ∧ Chain library d (line.map (·.2)) := by
  induction h with
  | root hfind _ hparent => exact ⟨_, hfind, .root hparent⟩
  | derived hfind _ hparent _ ih =>
    obtain ⟨base, hbase, hchain⟩ := ih
    exact ⟨_, hfind, .derived hparent hbase hchain⟩

/-! ## Loads

  What is kept of the way up is the chain; what is done on the way back is `layered`, and this has
  been shown to be the merge (`layered_eq_merged`). -/

/-- **A request that is met comes from a chain**, if nothing is kept. -/
theorem load_chain (hempty : library.loaded = []) {request : Request} {g : Grammar}
    (hload : (request.load library).1 = .ok g) :
    ∃ d ds, request.source library = .ok d ∧ Chain library d ds ∧
      g = Definition.merged library.config.limits ds := by
  have hbegin : Frame library { library with problems := [] } := ⟨rfl, rfl, rfl⟩
  have htraced : Traced { library with problems := [] } := traced_of_empty hempty
  -- a text is built over the line of its parent; what holds of a text holds of a file, too
  have htext : ∀ text, (library.load text).1 = .ok g →
      ∃ d ds, parse text = .ok d ∧ Chain library d ds ∧
        g = Definition.merged library.config.limits ds := by
    intro text htext
    rcases load_cases library text with ⟨e, -, hfailed⟩ | ⟨d, hd, hmade⟩
    · rw [hfailed] at htext
      exact absurd htext (by simp)
    · rw [hmade] at htext
      obtain ⟨line, -, hbehind, hg⟩ := build_layers (fun _ _ _ _ hframe hloaded hbase =>
        resolve_line (htraced.frame hframe hloaded) hbase) htext
      refine ⟨d, d :: line.map (·.2), hd, ?_, ?_⟩
      · cases hbehind with
        | root hparent => exact .root hparent
        | derived hparent hline =>
          obtain ⟨base, hbase, hchain⟩ := (hbegin.symm.lineage hline).chain
          exact .derived hparent hbase hchain
      · rw [hg "", Definition.layered_eq_merged]
        rfl
  cases request with
  | text text =>
    obtain ⟨d, ds, hd, hchain, hg⟩ := htext text hload
    exact ⟨d, ds, hd, hchain, hg⟩
  | file path =>
    unfold Request.load loadFile at hload
    unfold Request.source
    simp only at hload ⊢
    cases hread : library.files.readText path with
    | error e =>
      rw [hread] at hload
      exact absurd hload (by simp)
    | ok text =>
      rw [hread] at hload
      obtain ⟨d, ds, hd, hchain, hg⟩ := htext text hload
      exact ⟨d, ds, hd, hchain, hg⟩
  -- a name has a line of its own, which begins with its definition
  | name name =>
    obtain ⟨line, hline, hg⟩ := resolve_line htraced hload
    obtain ⟨d, hfind, hchain⟩ := (hbegin.symm.lineage hline).chain
    exact ⟨d, _, hfind, hchain, by rw [hg, Definition.layered_eq_merged]⟩

/-- **Every slot is decided by the most derived document that declares it**, for every chain of
    documents that is loaded while nothing is kept; numbers and quotations that no document declares
    are the default ones. -/
theorem load_eq_merged (hempty : library.loaded = []) {request : Request} {d : Definition}
    {ds : List Definition} {g : Grammar} (hsource : request.source library = .ok d)
    (hchain : Chain library d ds) (hload : (request.load library).1 = .ok g) :
    g = Definition.merged library.config.limits ds ∧
      ((∀ d ∈ ds, d.numbers = none) →
        g.numbers.pattern.map (·.source) = some Grammar.defaultNumbers) ∧
      ((∀ d ∈ ds, d.quotation = none) →
        g.quotation.delimiters.map
          (fun q => (q.opening.source, q.closing.source, q.escape.map (·.source)))
          = some (Grammar.defaultQuote, Grammar.defaultQuote, some Grammar.defaultEscape)) := by
  obtain ⟨d', ds', hsource', hchain', rfl⟩ := load_chain hempty hload
  obtain rfl := Except.ok.inj (hsource.symm.trans hsource')
  obtain rfl := hchain.unique hchain'
  refine ⟨rfl, fun hnone => ?_, fun hnone => ?_⟩
  · have hdefault : (ds.findSome? (·.numbers)).getD (.string Grammar.defaultNumbers)
        = .string Grammar.defaultNumbers := by
      rw [List.findSome?_eq_none_iff.mpr hnone, Option.getD_none]
    show (Definition.usable _).map _ = _
    rw [hdefault]
    exact Definition.usable_default.1
  · have hdefault : (ds.findSome? (·.quotation)).getD Definition.defaultQuotation
        = Definition.defaultQuotation := by
      rw [List.findSome?_eq_none_iff.mpr hnone, Option.getD_none]
    show (Definition.usableBlock _).map _ = _
    rw [hdefault]
    exact Definition.usable_default.2

/-- A parent with a comment and a keyword, and a child that refuses both: its comment is no text,
    and its keyword has no number. -/
theorem load_eq_merged_refusing :
    let library : GrammarLibrary := ({} : GrammarLibrary).register "base"
      "name='base'\nlinecomment='#'\n[[keywords]]\ntype=0\nwords=['if']"
    let request : Request := .text
      "name='c'\nuse='Base'\nlinecomment=1\n[[keywords]]\ntype='0'\nwords=['do']"
    ∃ d ds g, (library.loaded = [] ∧ request.source library = .ok d ∧ Chain library d ds ∧
      (request.load library).1 = .ok g) ∧ g = Definition.merged library.config.limits ds := by
  intro library request
  have hempty : library.loaded = [] := rfl
  obtain ⟨g, hload⟩ : ∃ g, (request.load library).1 = .ok g :=
    exists_eq_ok_of_isSome (by decide +kernel)
  obtain ⟨d, ds, hsource, hchain, -⟩ := load_chain hempty hload
  exact ⟨d, ds, g, ⟨hempty, hsource, hchain, hload⟩,
    (load_eq_merged hempty hsource hchain hload).1⟩

end GrammarLibrary

end Highlight
