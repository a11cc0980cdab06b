/-
  The documents that one load reads.

  A load goes up from a document to its parent and on, until it comes to a document without a parent
  or to a grammar that has been kept; then it lays what it has read over that, the last one first.

  1. **What is read** — `Reads` lists the documents, and says what they are laid over.  The names
     that they declare are all different (`Reads.nodup`), so there is room for them
     (`Reads.length_lt_room`).

  2. **What is made of it** — a load succeeds exactly if it has something to read up to an end
     (`build_of_reads`, `reads_of_build`), and then collects the problems of the documents in the
     order in which they are laid over each other.

  Main result: `load_of_reads`.
-/
import Highlight.Proofs.Library.Inheritance
import Highlight.Proofs.Library.Transparency
import Highlight.Proofs.Library.Room

namespace Highlight

namespace Definition

/-- The key of the name that a definition declares. -/
def key (d : Definition) : String := nameKey (d.declaredName?.getD "")

/-- Lay a definition over a grammar, under the name that it declares. -/
def layer (base : Grammar) (d : Definition) : Checked Grammar :=
  d.applyTo (d.declaredName?.getD "") base

/-- The key of a definition is that of the name that it declares. -/
theorem key_of_declaredName? {d : Definition} {name : String} (h : d.declaredName? = some name) :
    d.key = nameKey name := by
  rw [key, h, Option.getD_some]

/-- A definition is laid over a grammar under its own name. -/
theorem layer_of_declaredName? {d : Definition} {name : String} (h : d.declaredName? = some name)
    (base : Grammar) : layer base d = d.applyTo name base := by
  rw [layer, h, Option.getD_some]

/-- Declarations in two parts: the second part is applied to what the first has made, and reports
    behind it. -/
theorem placeAll_append {α δ : Type} (place : α → δ → Checked α) (a : α) (ds es : List δ) :
    placeAll place a (ds ++ es)
      = ((placeAll place (placeAll place a ds).1 es).1,
          (placeAll place a ds).2 ++ (placeAll place (placeAll place a ds).1 es).2) := by
  induction ds generalizing a with
  | nil => rfl
  | cons d ds ih =>
    simp only [List.cons_append, placeAll]
    rw [ih, List.append_assoc]

/-- The last one of some declarations is applied to what the others have made. -/
theorem placeAll_concat {α δ : Type} (place : α → δ → Checked α) (a : α) (ds : List δ) (d : δ) :
    placeAll place a (ds ++ [d])
      = ((place (placeAll place a ds).1 d).1,
          (placeAll place a ds).2 ++ (place (placeAll place a ds).1 d).2) := by
  rw [placeAll_append]
  simp only [placeAll, List.append_nil]

end Definition

namespace GrammarLibrary

open Definition (layer placeAll placeAll_concat)

/-! ## What is read

  `Reads` says nothing of results, only which documents lead to which.  So it can be stated before a
  load, and tells a load with an end from one that goes in a circle or leads nowhere. -/

/-- The documents that a load reads from one on, each the parent of the one before, and the grammar
    they are laid over: a plain one if the last document has no parent, and otherwise the one that
    is kept for its parent.  `chain` are the keys of the documents that led there; none of them is
    met again. -/
inductive Reads (library : GrammarLibrary) :
    (chain : List String) → Definition → List Definition → Grammar → Prop
  | root {chain : List String} {d : Definition} {name : String}
      (hname : d.declaredName? = some name) (hnew : nameKey name ∉ chain)
      (hparent : d.parent = none) :
      Reads library chain d [d] (.plain name library.config.limits)
  | kept {chain : List String} {d : Definition} {name parent : String} {base : Grammar}
      (hname : d.declaredName? = some name) (hnew : nameKey name ∉ chain)
      (hparent : d.parent = some parent) (hopen : nameKey parent ∉ chain ++ [nameKey name])
      (hkept : library.loaded.find? (nameKey parent) = some base) :
      Reads library chain d [d] base
  | read {chain : List String} {d above : Definition} {name parent : String}
      {ds : List Definition} {base : Grammar}
      (hname : d.declaredName? = some name) (hnew : nameKey name ∉ chain)
      (hparent : d.parent = some parent) (hopen : nameKey parent ∉ chain ++ [nameKey name])
      (hunkept : library.loaded.find? (nameKey parent) = none)
      (hfind : library.find parent = .ok above)
      (habove : Reads library (chain ++ [nameKey name]) above ds base) :
      Reads library chain d (d :: ds) base

namespace Reads

variable {library : GrammarLibrary} {chain : List String} {d : Definition} {ds : List Definition}
  {base : Grammar}

/-- **No name is met twice**, nor one of those that led there. -/
theorem nodup (h : Reads library chain d ds base) :
    (ds.map Definition.key).Nodup ∧ ∀ key ∈ ds.map Definition.key, key ∉ chain := by
  have hsingle : ∀ {chain : List String} {d : Definition} {name : String},
      d.declaredName? = some name → nameKey name ∉ chain →
      ([d].map Definition.key).Nodup ∧ ∀ key ∈ [d].map Definition.key, key ∉ chain := by
    intro chain d name hname hnew
    refine ⟨by simp, fun key hkey => ?_⟩
    rw [List.mem_singleton.mp hkey, Definition.key_of_declaredName? hname]
    exact hnew
  induction h with
  | root hname hnew _ => exact hsingle hname hnew
  | kept hname hnew _ _ _ => exact hsingle hname hnew
  | read hname hnew _ _ _ _ _ ih =>
    obtain ⟨hnodup, hchain⟩ := ih
    have hkey := Definition.key_of_declaredName? hname
    refine ⟨List.nodup_cons.mpr ⟨fun hmem => ?_, hnodup⟩, fun key hmem => ?_⟩
    · -- its own key has led to those above
      refine hchain _ hmem (List.mem_append_right _ ?_)
      rw [hkey]
      exact List.mem_singleton_self _
    · rcases List.mem_cons.mp hmem with rfl | hmem
      · rw [hkey]
        exact hnew
      · exact fun hold => hchain key hmem (List.mem_append_left _ hold)

/-- All documents but the first are found among the definitions at hand. -/
theorem subset (h : Reads library chain d ds base) : ds ⊆ d :: library.definitions := by
  induction h with
  | root => exact List.cons_subset_cons _ (List.nil_subset _)
  | kept => exact List.cons_subset_cons _ (List.nil_subset _)
  | read _ _ _ _ _ hfind _ ih =>
    refine List.cons_subset_cons _ fun e he => ?_
    rcases List.mem_cons.mp (ih he) with rfl | he
    · exact mem_definitions_of_find hfind
    · exact he

/-- **There is room for all documents.** -/
theorem length_lt_room (h : Reads library chain d ds base) : ds.length < library.room := by
  have hkeys := h.nodup.1.length_le_of_subset (List.map_subset Definition.key h.subset)
  have hroom := length_definitions_lt_room library
  rw [List.length_map, List.length_map, List.length_cons] at hkeys
  omega

end Reads

/-! ## What is made of it

  Both directions: what can be read up to an end is loaded, and what is loaded has been read up to
  an end.  Each is an induction, the first on the documents and the second on the fuel. -/

variable {library b : GrammarLibrary} {chain : List String} {d : Definition} {ds : List Definition}
  {base : Grammar} {fuel : Nat}

/-- A definition with a new name is laid over what its parent gives. -/
theorem build_of_declaredName? {parentOf : List String → String → GrammarLibrary → Outcome}
    {name : String} (hname : d.declaredName? = some name) (hnew : nameKey name ∉ chain) :
    build parentOf chain d b = derive d name
      (match d.parent with
        | none => (.ok (.plain name b.config.limits), { b with parsed := b.parsed + 1 })
        | some parent =>
          parentOf (chain ++ [nameKey name]) parent { b with parsed := b.parsed + 1 }) := by
  unfold build
  rw [hname]
  exact if_neg hnew

/-- What is kept is given as it is. -/
theorem resolve_of_kept {name : String} (hopen : nameKey name ∉ chain)
    (hkept : b.loaded.find? (nameKey name) = some base) :
    resolve (fuel + 1) chain name b = (.ok base, b) := by
  rw [resolve, if_neg hopen, hkept]

/-- What is not kept is made of its definition, and then kept. -/
theorem resolve_of_unkept {name : String}
    (hopen : nameKey name ∉ chain) (hunkept : b.loaded.find? (nameKey name) = none)
    (hfind : b.find name = .ok d) :
    resolve (fuel + 1) chain name b
      = keep (nameKey name) (build (resolve fuel) chain d b) := by
  rw [resolve, if_neg hopen, hunkept, hfind]

/-- Keeping a grammar reports nothing. -/
theorem keep_problems (key : String) (outcome : Outcome) :
    (keep key outcome).2.problems = outcome.2.problems := by
  obtain ⟨result, library⟩ := outcome
  cases result with
  | error e => rfl
  | ok g => rfl

/-- **The documents are laid over each other**, the last one first, and their problems are
    collected in this order. -/
theorem build_of_reads (h : Reads library chain d ds base) (hframe : Frame library b)
    (hloaded : b.loaded = library.loaded) (hfuel : ds.length ≤ fuel) :
    (build (resolve fuel) chain d b).1 = .ok (placeAll layer base ds.reverse).1 ∧
      (build (resolve fuel) chain d b).2.problems
        = b.problems ++ (placeAll layer base ds.reverse).2 := by
  induction h generalizing fuel b with
  | @root chain d name hname hnew hparent =>
    rw [build_of_declaredName? hname hnew, hparent, hframe.config]
    simp only [derive, List.reverse_singleton, placeAll, List.append_nil,
      Definition.layer_of_declaredName? hname, and_self]
  -- the parent is kept: nothing more is read
  | @kept chain d name parent base hname hnew hparent hopen hkept =>
    cases fuel with
    | zero => exact absurd hfuel (by simp)
    | succ less =>
      rw [build_of_declaredName? hname hnew, hparent]
      simp only
      rw [resolve_of_kept hopen (by rw [← hkept, ← hloaded])]
      simp only [derive, List.reverse_singleton, placeAll, List.append_nil,
        Definition.layer_of_declaredName? hname, and_self]
  -- the parent is read first, and its problems come first
  | @read chain d above name parent ds base hname hnew hparent hopen hunkept hfind _ ih =>
    cases fuel with
    | zero => exact absurd hfuel (by simp)
    | succ less =>
      have hcount : Frame library { b with parsed := b.parsed + 1 } :=
        ⟨hframe.config, hframe.files, hframe.sources⟩
      obtain ⟨hbase, hproblems⟩ := ih hcount hloaded (Nat.le_of_succ_le_succ hfuel)
      rw [build_of_declaredName? hname hnew, hparent]
      simp only
      rw [resolve_of_unkept hopen (by rw [← hunkept, ← hloaded]) ((hcount.find parent).trans hfind)]
      rcases hbuild : build (resolve less) (chain ++ [nameKey name]) above
        { b with parsed := b.parsed + 1 } with ⟨result, after⟩
      rw [hbuild] at hbase hproblems
      simp only at hbase hproblems
      rw [hbase, List.reverse_cons, placeAll_concat, Definition.layer_of_declaredName? hname]
      simp only [keep, derive, hproblems, List.append_assoc, and_self]

/-- **A load that succeeds has read its documents up to an end.** -/
theorem reads_of_build {g : Grammar} (hframe : Frame library b)
    (hloaded : b.loaded = library.loaded)
    (h : (build (resolve fuel) chain d b).1 = .ok g) :
    ∃ ds base, Reads library chain d ds base := by
  induction fuel generalizing chain d b g with
  | zero =>
    obtain ⟨name, hname, hnew, ⟨hparent, -⟩ | ⟨parent, base, below, -, -, hbase, -⟩⟩ :=
      build_ok h
    · exact ⟨_, _, .root hname hnew hparent⟩
    · exact absurd (congrArg Prod.fst hbase) (by simp [resolve])
  | succ less ih =>
    obtain ⟨name, hname, hnew,
      ⟨hparent, -⟩ | ⟨parent, base, below, hparent, -, hbase, -⟩⟩ := build_ok h
    · exact ⟨_, _, .root hname hnew hparent⟩
    · -- a parent that has been loaded was kept, or its own document was read before
      have hcount : Frame library { b with parsed := b.parsed + 1 } :=
        ⟨hframe.config, hframe.files, hframe.sources⟩
      have hok := congrArg Prod.fst hbase
      unfold resolve at hok
      split at hok
      · exact absurd hok (by simp)
      · rename_i hopen
        split at hok
        · rename_i kept hkept
          rw [hloaded] at hkept
          exact ⟨_, _, .kept hname hnew hparent hopen hkept⟩
        · rename_i hunkept
          rw [hloaded] at hunkept
          split at hok
          · exact absurd hok (by simp)
          · rename_i above hfind
            rw [keep_fst] at hok
            obtain ⟨ds, base, habove⟩ := ih hcount hloaded hok
            have hfind : library.find parent = .ok above :=
              (hcount.find parent).symm.trans hfind
            exact ⟨_, _, .read hname hnew hparent hopen hunkept hfind habove⟩

/-- A request that is not met by what is kept is met by its document. -/
theorem load_eq_build {request : Request} (hsource : request.source library = .ok d)
    (hunkept : ∀ name, request = .name name → library.loaded.find? (nameKey name) = none) :
    ∃ fuel, library.room ≤ fuel + 1 ∧
      (request.load library).1
        = (build (resolve fuel) [] d { library with problems := [] }).1 ∧
      (request.load library).2.problems
        = (build (resolve fuel) [] d { library with problems := [] }).2.problems := by
  cases request with
  | text text =>
    refine ⟨library.room, Nat.le_succ _, ?_⟩
    rw [Request.load, load_of_ok hsource]
    exact ⟨rfl, rfl⟩
  | file path =>
    unfold Request.source at hsource
    unfold Request.load loadFile
    simp only at hsource ⊢
    cases hread : library.files.readText path with
    | error e =>
      rw [hread] at hsource
      exact absurd hsource (by simp)
    | ok text =>
      rw [hread] at hsource
      refine ⟨library.room, Nat.le_succ _, ?_⟩
      simp only [load_of_ok hsource, and_self]
  | name name =>
    -- the name itself takes one step of the fuel
    obtain ⟨less, hless⟩ : ∃ less, library.room = less + 1 := ⟨_, rfl⟩
    have hmade : resolve (less + 1) [] name { library with problems := [] }
        = keep (nameKey name)
            (build (resolve less) [] d { library with problems := [] }) :=
      resolve_of_unkept List.not_mem_nil (hunkept name rfl) hsource
    refine ⟨less, Nat.le_of_eq hless, ?_⟩
    unfold Request.load loadNamed
    simp only
    rw [hless, hmade]
    exact ⟨keep_fst .., keep_problems ..⟩

/-- **A document that is asked for is loaded**, whichever it is, if it has something to be laid
    over: the grammar is that of the documents that are read, and the problems are theirs. -/
theorem load_of_reads {request : Request} (hsource : request.source library = .ok d)
    (hunkept : ∀ name, request = .name name → library.loaded.find? (nameKey name) = none)
    (h : Reads library [] d ds base) :
    (request.load library).1 = .ok (placeAll layer base ds.reverse).1 ∧
      (request.load library).2.problems = (placeAll layer base ds.reverse).2 := by
  obtain ⟨fuel, hroom, hload, hproblems⟩ := load_eq_build hsource hunkept
  have hfuel : ds.length ≤ fuel := Nat.le_of_lt_succ (Nat.lt_of_lt_of_le h.length_lt_room hroom)
  rw [hload, hproblems]
  exact build_of_reads h ⟨rfl, rfl, rfl⟩ rfl hfuel

/-- And if it is loaded, it has had something to be laid over. -/
theorem reads_of_load {request : Request} (hsource : request.source library = .ok d)
    (hunkept : ∀ name, request = .name name → library.loaded.find? (nameKey name) = none)
    {g : Grammar} (h : (request.load library).1 = .ok g) :
    ∃ ds base, Reads library [] d ds base := by
  obtain ⟨fuel, -, hload, -⟩ := load_eq_build hsource hunkept
  have hbegin : Frame library { library with problems := [] } := ⟨rfl, rfl, rfl⟩
  exact reads_of_build hbegin rfl (hload.symm.trans h)

end GrammarLibrary

end Highlight
