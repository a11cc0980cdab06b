/-
  Parents that are shared.

  A library reads a definition when it is asked for under a key that it keeps nothing for, and then
  keeps what it has made.  So one would think that every key is read once, however many definitions
  have it for an ancestor.  But definitions are found under names, not under keys: where a directory
  has different files for two spellings of a key, one load may come by both of them, and keeps one
  grammar for two documents.  That is all that can go wrong.

  1. **What is asked for** — `Asks` goes from a name to its definition, to the parent, and on, up to
     the first name that a grammar is kept for.  It looks at the library as it is before the load.

  2. **What is gained** — a load that succeeds reads what it asks for, each document once
     (`Loads.accounts`), and keeps something for every key among that, and for no other (`Gains`).

  3. **One load after the other** — accounts of loads add up (`Account.append`), since what one of
     them has kept no later one asks for.

  4. **Two files for one key** — `reads_key_twice` has a load that reads both.

  Main result: `loads_read_once`.
-/
import Highlight.Proofs.Paths
import Highlight.Proofs.Library.Descent

namespace Highlight

namespace GrammarLibrary

/-! ## What is asked for

  `Asks` is about the library before the load, and stops where something is kept.  A load keeps
  nothing until it comes back from the parents, so it comes by the same names. -/

/-- The names that a load asks for and has no grammar for, each with the definition that is found
    for it, from a stage up to a definition without a parent or a name that a grammar is kept
    for. -/
inductive Asks (library : GrammarLibrary) : Stage → List (String × Definition) → Prop
  | root {source : Source Definition} {d : Definition} (hread : read source = .ok d)
      (hparent : d.parent = none) : Asks library (.document source) []
  | derived {source : Source Definition} {d : Definition} {parent : String}
      {asked : List (String × Definition)} (hread : read source = .ok d)
      (hparent : d.parent = some parent) (habove : Asks library (.name parent) asked) :
      Asks library (.document source) asked
  | kept {name : String} (hkept : (library.loaded.find? (nameKey name)).isSome) :
      Asks library (.name name) []
  | unkept {name : String} {source : Source Definition} {d : Definition}
      {asked : List (String × Definition)}
      (hunkept : library.loaded.find? (nameKey name) = none)
      (hfind : library.findSource name = .ok source) (hread : read source = .ok d)
      (habove : Asks library (.document source) asked) :
      Asks library (.name name) ((name, d) :: asked)

/-- The keys of what is asked for. -/
def askedKeys (asked : List (String × Definition)) : List String :=
  asked.map fun e => nameKey e.1

/-- The documents that a load reads: the one that it begins with, and those that it asks for. -/
def Stage.documents (asked : List (String × Definition)) : Stage → List Definition
  | .document source => (read source).toOption.toList ++ asked.map (·.2)
  | .name _ => asked.map (·.2)

section Asks

variable {a b library : GrammarLibrary} {stage : Stage} {asked : List (String × Definition)}

/-- What is asked for depends on the definitions and on what is kept. -/
theorem Asks.congr (h : Asks a stage asked) (hframe : Frame a b) (hloaded : b.loaded = a.loaded) :
    Asks b stage asked := by
  induction h with
  | root hread hparent => exact .root hread hparent
  | derived hread hparent _ ih => exact .derived hread hparent ih
  | kept hkept => exact .kept (by rw [hloaded]; exact hkept)
  | unkept hunkept hfind hread _ ih =>
    exact .unkept (by rw [hloaded]; exact hunkept) ((hframe.findSource _).trans hfind) hread ih

/-- Whatever is asked for has been found under its name. -/
theorem Asks.found (h : Asks library stage asked) :
    ∀ e ∈ asked, library.find e.1 = .ok e.2 := by
  induction h with
  | root | kept => exact fun e he => absurd he List.not_mem_nil
  | derived _ _ _ ih => exact ih
  | unkept _ hfind hread _ ih =>
    exact List.forall_mem_cons.mpr ⟨(find_of_findSource hfind).trans hread, ih⟩

end Asks

/-! ## What is gained

  Two things have to be counted: the documents that are read, and the keys for which something is
  kept that had nothing before.  `Accounts` follows both through `build` and `resolve`; they agree
  in number as long as no two names on the way have the same key. -/

/-- Grammars are kept for some keys that had none, and for these keys only; those that were kept
    before stay. -/
structure Gains (before after : Dict String Grammar) (keys : List String) : Prop where
  new : ∀ key ∈ keys, before.find? key = none
  now : ∀ key ∈ keys, (after.find? key).isSome
  others : ∀ key, key ∉ keys → after.find? key = before.find? key
  length : after.length = before.length + keys.dedup.length

namespace Gains

variable {before between after : Dict String Grammar} {keys later : List String} {key : String}

theorem refl (before : Dict String Grammar) : Gains before before [] :=
  ⟨fun _ h => absurd h List.not_mem_nil, fun _ h => absurd h List.not_mem_nil, fun _ _ => rfl, rfl⟩

/-- What was kept before is kept as it was. -/
theorem stays (h : Gains before after keys) {g : Grammar} (hkept : before.find? key = some g) :
    after.find? key = some g := by
  rw [← hkept]
  refine h.others key fun hmem => ?_
  rw [h.new key hmem] at hkept
  exact absurd hkept (by simp)

/-- What was kept before is still kept. -/
theorem isSome (h : Gains before after keys) (hkept : (before.find? key).isSome) :
    (after.find? key).isSome := by
  obtain ⟨g, hg⟩ := Option.isSome_iff_exists.mp hkept
  exact Option.isSome_of_eq_some (h.stays hg)

/-- A grammar is kept for one key more, or in place of one that has been gained before it. -/
theorem keep (h : Gains before after keys) (hnew : before.find? key = none) (g : Grammar) :
    Gains before (after.set key g) (key :: keys) := by
  constructor
  case new => exact List.forall_mem_cons.mpr ⟨hnew, h.new⟩
  case now =>
    refine List.forall_mem_cons.mpr ⟨?_, fun k hk => Dict.isSome_find?_set (h.now k hk)⟩
    rw [Dict.find?_set_self]
    rfl
  case others =>
    intro k hk
    obtain ⟨hne, hother⟩ := List.ne_and_not_mem_of_not_mem_cons hk
    rw [Dict.find?_set_of_ne (Ne.symm hne)]
    exact h.others k hother
  case length =>
    by_cases hmem : key ∈ keys
    · -- the grammar that was gained first is lost again
      rw [Dict.length_set_of_isSome (h.now key hmem), List.dedup_cons_of_mem hmem]
      exact h.length
    · have hnone : after.find? key = none := (h.others key hmem).trans hnew
      rw [Dict.set_of_none hnone, List.dedup_cons_of_notMem hmem, List.length_append, h.length]
      rfl

/-- What has been gained once is not gained a second time. -/
theorem disjoint (h : Gains before between keys) (h' : Gains between after later) :
    List.Disjoint keys later := by
  intro key hkey hlater
  have hsome := h.now key hkey
  rw [h'.new key hlater] at hsome
  exact absurd hsome (by simp)

/-- Gains of one load after another add up. -/
theorem trans (h : Gains before between keys) (h' : Gains between after later) :
    Gains before after (keys ++ later) := by
  constructor
  case new =>
    refine List.forall_mem_append.mpr ⟨h.new, fun key hkey => ?_⟩
    rw [← h.others key fun hmem => h.disjoint h' hmem hkey]
    exact h'.new key hkey
  case now =>
    exact List.forall_mem_append.mpr ⟨fun key hkey => h'.isSome (h.now key hkey), h'.now⟩
  case others =>
    intro key hkey
    rw [List.mem_append, not_or] at hkey
    exact (h'.others key hkey.2).trans (h.others key hkey.1)
  case length =>
    rw [h'.length, h.length, (h.disjoint h').dedup_append, List.length_append, Nat.add_assoc]

end Gains

/-- What a load has done if it has succeeded: it has read its documents, which declare different
    names, none of them on the chain that has led there, and has kept something for each key that it
    asked for. -/
structure Accounts (library after : GrammarLibrary) (chain : List String) (stage : Stage)
    (asked : List (String × Definition)) : Prop where
  asks : Asks library stage asked
  parsed : after.parsed = library.parsed + (stage.documents asked).length
  nodup : ((stage.documents asked).map Definition.key).Nodup
  apart : ∀ key ∈ (stage.documents asked).map Definition.key, key ∉ chain
  gains : Gains library.loaded after.loaded (askedKeys asked)

namespace Accounts

variable {library after : GrammarLibrary} {chain : List String} {asked : List (String × Definition)}
  {source : Source Definition} {d : Definition}

/-- The first document that is read is the one that the load begins with. -/
theorem documents_of_read (hread : read source = .ok d) (asked : List (String × Definition)) :
    (Stage.document source).documents asked = d :: asked.map (·.2) := by
  rw [Stage.documents, hread]
  rfl

/-- A document without a parent is all that is read. -/
theorem root {name : String} (hread : read source = .ok d) (hname : d.declaredName? = some name)
    (hnew : nameKey name ∉ chain) (hparent : d.parent = none)
    (hparsed : after.parsed = library.parsed + 1) (hloaded : after.loaded = library.loaded) :
    Accounts library after chain (.document source) [] := by
  have hdocuments := documents_of_read hread []
  constructor
  case asks => exact .root hread hparent
  case parsed =>
    rw [hdocuments]
    exact hparsed
  case nodup =>
    rw [hdocuments]
    exact List.nodup_singleton _
  case apart =>
    intro key hkey
    rw [hdocuments] at hkey
    rw [List.mem_singleton.mp hkey, Definition.key_of_declaredName? hname]
    exact hnew
  case gains =>
    rw [hloaded]
    exact .refl _

/-- A document is read before what is read for its parent.  It is on the chain then, so none of the
    others declares its name. -/
theorem derived {between : GrammarLibrary} {name parent : String} (hread : read source = .ok d)
    (hname : d.declaredName? = some name) (hnew : nameKey name ∉ chain)
    (hparent : d.parent = some parent)
    (h : Accounts library.counted between (chain ++ [nameKey name]) (.name parent) asked)
    (hparsed : after.parsed = between.parsed) (hloaded : after.loaded = between.loaded) :
    Accounts library after chain (.document source) asked := by
  have hkey := Definition.key_of_declaredName? hname
  have hdocuments := documents_of_read hread asked
  constructor
  case asks => exact .derived hread hparent (h.asks.congr ⟨rfl, rfl, rfl⟩ rfl)
  case parsed =>
    have hcount : between.parsed = library.parsed + 1 + asked.length := by
      rw [h.parsed, Stage.documents, List.length_map]
      rfl
    rw [hdocuments, hparsed, hcount, List.length_cons, List.length_map]
    omega
  case nodup =>
    rw [hdocuments]
    refine List.nodup_cons.mpr ⟨fun hmem => ?_, h.nodup⟩
    refine h.apart _ hmem (List.mem_append_right _ ?_)
    rw [hkey]
    exact List.mem_singleton_self _
  case apart =>
    rw [hdocuments]
    refine List.forall_mem_cons.mpr ⟨by rw [hkey]; exact hnew, fun key hmem hold => ?_⟩
    exact h.apart key hmem (List.mem_append_left _ hold)
  case gains =>
    rw [hloaded]
    exact h.gains

/-- Where a grammar is kept nothing is read. -/
theorem kept {name : String} (hkept : (library.loaded.find? (nameKey name)).isSome) :
    Accounts library library chain (.name name) [] :=
  ⟨.kept hkept, rfl, List.nodup_nil, fun _ h => absurd h List.not_mem_nil, .refl _⟩

/-- What is made of a definition is kept under the key that has been asked for. -/
theorem unkept {name : String} (hunkept : library.loaded.find? (nameKey name) = none)
    (hfind : library.findSource name = .ok source) (hread : read source = .ok d)
    (h : Accounts library after chain (.document source) asked) (g : Grammar) :
    Accounts library { after with loaded := after.loaded.set (nameKey name) g } chain (.name name)
      ((name, d) :: asked) := by
  have hdocuments : (Stage.name name).documents ((name, d) :: asked)
      = (Stage.document source).documents asked := (documents_of_read hread asked).symm
  constructor
  case asks => exact .unkept hunkept hfind hread h.asks
  case parsed =>
    rw [hdocuments]
    exact h.parsed
  case nodup =>
    rw [hdocuments]
    exact h.nodup
  case apart =>
    rw [hdocuments]
    exact h.apart
  case gains => exact h.gains.keep hunkept g

end Accounts

/-- **A load that succeeds reads what it asks for.** -/
theorem Loads.accounts {nesting : Nat} {chain : List String} {stage : Stage}
    {library : GrammarLibrary} {outcome : Outcome} (h : Loads nesting chain stage library outcome)
    {g : Grammar} (hok : outcome.1 = .ok g) :
    ∃ asked, Accounts library outcome.2 chain stage asked := by
  induction h generalizing g with
  | malformed | nameless | again | circle | unfound => exact absurd hok (by simp)
  | root hread hname hnew hparent => exact ⟨[], .root hread hname hnew hparent rfl rfl⟩
  | @derived nesting chain source d name parent library outcome hread hname hnew hparent _ ih =>
    obtain ⟨result, between⟩ := outcome
    cases result with
    | error e => exact absurd hok (by simp [derive])
    | ok base =>
      obtain ⟨asked, habove⟩ := ih rfl
      exact ⟨asked, .derived hread hname hnew hparent habove rfl rfl⟩
  | kept hopen hkept => exact ⟨[], .kept (Option.isSome_of_eq_some hkept)⟩
  | @found nesting chain name source library outcome hopen hunkept hfind hmade ih =>
    obtain ⟨result, between⟩ := outcome
    cases result with
    | error e => exact absurd hok (by simp [keep])
    | ok made =>
      obtain ⟨asked, hdocument⟩ := ih rfl
      -- a document that asks for anything has been read
      obtain ⟨d, hread⟩ : ∃ d, read source = .ok d := by
        cases hdocument.asks with
        | root hread _ => exact ⟨_, hread⟩
        | derived hread _ _ => exact ⟨_, hread⟩
      exact ⟨(name, d) :: asked, .unkept hunkept hfind hread hdocument made⟩

/-! ## One load after the other

  Whatever one load has kept, the next ones find.  So their gains are disjoint, and what has been
  read adds up. -/

/-- What has been done by loads by name that have all succeeded: the definitions that were asked for
    have been read, those of one key are different ones, and something is kept for each key. -/
structure Account (library after : GrammarLibrary) (asked : List (String × Definition)) :
    Prop where
  found : ∀ e ∈ asked, library.find e.1 = .ok e.2
  apart : asked.Pairwise fun a b => nameKey a.1 = nameKey b.1 → a.2 ≠ b.2
  parsed : after.parsed = library.parsed + asked.length
  gains : Gains library.loaded after.loaded (askedKeys asked)

/-- Loads by name, one after the other, that all succeed. -/
inductive InTurn : GrammarLibrary → List String → GrammarLibrary → Prop
  | none {library : GrammarLibrary} : InTurn library [] library
  | load {library after : GrammarLibrary} {name : String} {names : List String} {g : Grammar}
      (hok : (library.loadNamed name).1 = .ok g)
      (hrest : InTurn (library.loadNamed name).2 names after) :
      InTurn library (name :: names) after

/-- What loads by name ask for, one after the other. -/
inductive AskInTurn : GrammarLibrary → List String → List (String × Definition) → Prop
  | none {library : GrammarLibrary} : AskInTurn library [] []
  | load {library : GrammarLibrary} {name : String} {names : List String}
      {asked later : List (String × Definition)} (hasks : Asks library (.name name) asked)
      (hrest : AskInTurn (library.loadNamed name).2 names later) :
      AskInTurn library (name :: names) (asked ++ later)

/-- However a name is spelled, no other definition is found for it. -/
def SpellingsAgree (library : GrammarLibrary) : Prop :=
  ∀ a b d e, nameKey a = nameKey b → library.find a = .ok d → library.find b = .ok e → d = e

section InTurn

variable {library between after : GrammarLibrary} {asked later : List (String × Definition)}
  {name : String} {names : List String}

/-- Without directories the spelling of a name does not matter. -/
theorem spellingsAgree_of_noDirs (hdirs : library.config.grammarDirs = []) :
    SpellingsAgree library := by
  intro a b d e hkey hd he
  rw [find_eq_ok_iff hdirs] at hd he
  rw [hkey, he] at hd
  exact (Option.some.inj hd).symm

/-- Accounts add up. -/
theorem Account.append (h : Account library between asked) (hframe : Frame library between)
    (h' : Account between after later) : Account library after (asked ++ later) := by
  constructor
  case found =>
    refine List.forall_mem_append.mpr ⟨h.found, fun e he => ?_⟩
    rw [← hframe.find]
    exact h'.found e he
  case apart =>
    refine List.pairwise_append.mpr ⟨h.apart, h'.apart, fun a ha b hb hkey => ?_⟩
    -- what has been asked for is kept, and not asked for again
    have hagain : nameKey b.1 ∈ askedKeys later := List.mem_map.mpr ⟨b, hb, rfl⟩
    exact absurd hagain (h.gains.disjoint h'.gains (List.mem_map.mpr ⟨a, ha, hkey⟩))
  case parsed => rw [h'.parsed, h.parsed, List.length_append, Nat.add_assoc]
  case gains =>
    rw [askedKeys, List.map_append]
    exact h.gains.trans h'.gains

/-- If spellings agree no key is asked for twice. -/
theorem Account.nodup (h : Account library after asked) (hagree : SpellingsAgree library) :
    (askedKeys asked).Nodup := by
  refine List.pairwise_map.mpr (h.apart.imp_of_mem fun {a b} ha hb hdiffer hkey => ?_)
  -- one definition is found for both
  exact hdiffer hkey (hagree a.1 b.1 _ _ hkey (h.found a ha) (h.found b hb))

/-- As many definitions are read as grammars are gained, exactly if no key is asked for twice. -/
theorem Account.nodup_iff (h : Account library after asked) :
    (askedKeys asked).Nodup ↔
      after.parsed + library.loaded.length = library.parsed + after.loaded.length := by
  have hlength : (askedKeys asked).length = asked.length := List.length_map _
  have hparsed := h.parsed
  have hgained := h.gains.length
  constructor
  · intro hnodup
    rw [hnodup.dedup] at hgained
    omega
  · intro heq
    have hdedup : (askedKeys asked).dedup = askedKeys asked :=
      (List.dedup_sublist _).eq_of_length (by omega)
    exact List.dedup_eq_self.mp hdedup

/-- What one load by name has done. -/
theorem exists_account {g : Grammar} (hok : (library.loadNamed name).1 = .ok g) :
    ∃ asked, Asks library (.name name) asked ∧ Account library (library.loadNamed name).2 asked := by
  obtain ⟨nesting, hloads⟩ := (ends_loadNamed library name).loads
  obtain ⟨asked, h⟩ := hloads.accounts hok
  have hasks : Asks library (.name name) asked := h.asks.congr ⟨rfl, rfl, rfl⟩ rfl
  have hparsed : (library.loadNamed name).2.parsed = library.parsed + asked.length := by
    rw [h.parsed, Stage.documents, List.length_map]
  have hkeys := List.pairwise_map.mp (List.pairwise_map.mp h.nodup)
  -- documents that declare different names are different ones
  have hapart : asked.Pairwise fun a b => nameKey a.1 = nameKey b.1 → a.2 ≠ b.2 :=
    hkeys.imp fun hne _ heq => hne (congrArg Definition.key heq)
  exact ⟨asked, hasks, hasks.found, hapart, hparsed, h.gains⟩

/-- What loads by name have done in turn. -/
theorem InTurn.exists_account (h : InTurn library names after) :
    ∃ asked, AskInTurn library names asked ∧ Account library after asked := by
  induction h with
  | none =>
    exact ⟨[], .none, fun _ he => absurd he List.not_mem_nil, .nil, rfl, .refl _⟩
  | @load library after name names g hok _ ih =>
    obtain ⟨asked, hasks, hfirst⟩ := GrammarLibrary.exists_account hok
    obtain ⟨later, hrest, hlater⟩ := ih
    exact ⟨asked ++ later, .load hasks hrest, hfirst.append (loadNamed_frame library name) hlater⟩

/-- A load that succeeds may come before others. -/
theorem InTurn.load_of_isOk (hok : (library.loadNamed name).1.isOk = true)
    (hrest : InTurn (library.loadNamed name).2 names after) :
    InTurn library (name :: names) after := by
  cases hresult : (library.loadNamed name).1 with
  | error e =>
    rw [hresult] at hok
    exact absurd hok (by simp [Except.isOk, Except.toBool])
  | ok g => exact .load hresult hrest

/-- What has been loaded in turn is kept, in a tidy library. -/
theorem InTurn.secured (h : InTurn library names after) (htidy : Tidy library) :
    Tidy after ∧ ∀ name ∈ names, (after.loaded.find? (nameKey name)).isSome := by
  induction h with
  | none => exact ⟨htidy, fun _ hname => absurd hname List.not_mem_nil⟩
  | @load library after name names g hok hrest ih =>
    obtain ⟨nesting, hloads⟩ := (ends_loadNamed library name).loads
    obtain ⟨hbetween, hsecured⟩ := hloads.tidy (htidy.of_loaded rfl)
    obtain ⟨hafter, hkept⟩ := ih hbetween
    obtain ⟨later, -, haccount⟩ := hrest.exists_account
    exact ⟨hafter, List.forall_mem_cons.mpr ⟨haccount.gains.isSome (hsecured g hok), hkept⟩⟩

/-- A grammar that is kept is loaded without anything else happening. -/
theorem loadNamed_of_kept (hkept : (library.loaded.find? (nameKey name)).isSome) :
    ∃ g, library.loadNamed name = (.ok g, { library with problems := [] }) := by
  obtain ⟨g, hg⟩ := Option.isSome_iff_exists.mp hkept
  obtain ⟨-, honly⟩ := ends_loadNamed library name
  exact ⟨g, (honly _ _ (.kept List.not_mem_nil hg)).1.symm⟩

end InTurn

/-- **What is shared is read once.**  Whatever has been called before, loads by name that succeed
    one after the other read exactly the definitions that they ask for up to what is kept, and
    afterwards something is kept for their keys, and nothing else is new.  They read as many
    definitions as they gain grammars exactly if they ask for no key twice; and no key is asked for
    twice, unless two spellings of it lead to different definitions, for which it takes a
    directory.  Loading one of the names again, or an ancestor, reads nothing. -/
theorem loads_read_once (config : Config) (files : FileSystem) (calls : List Call)
    {names : List String} {after : GrammarLibrary}
    (h : InTurn (run { config := config, files := files } calls) names after) :
    let library := run { config := config, files := files } calls
    (config.grammarDirs = [] → SpellingsAgree library) ∧
      ∃ asked, AskInTurn library names asked ∧ Account library after asked ∧
        (SpellingsAgree library → (askedKeys asked).Nodup) ∧
        ((askedKeys asked).Nodup ↔
          after.parsed + library.loaded.length = library.parsed + after.loaded.length) ∧
        ∀ ancestor, nameKey ancestor ∈ askedKeys asked ∨
            (∃ name ∈ names, Descends after.loaded (nameKey name) (nameKey ancestor)) →
          ∃ g, after.loadNamed ancestor = (.ok g, { after with problems := [] }) := by
  intro library
  have hconfig : library.config = config := run_config _ calls
  obtain ⟨htidy, hkept⟩ := h.secured (run_tidy (tidy_of_empty rfl) calls)
  obtain ⟨asked, hasks, haccount⟩ := h.exists_account
  refine ⟨fun hdirs => spellingsAgree_of_noDirs (hconfig ▸ hdirs), asked, hasks, haccount,
    haccount.nodup, haccount.nodup_iff, fun ancestor hancestor => loadNamed_of_kept ?_⟩
  rcases hancestor with hasked | ⟨name, hname, hdescends⟩
  · exact haccount.gains.now _ hasked
  · exact htidy.isSome_of_descends (hkept name hname) hdescends

/-- Two definitions with the same parent, and the parent itself: three loads, and three definitions
    that are read. -/
theorem loads_read_once_shared :
    let library := run {} [.register "base" "name='base'",
      .register "left" "name='left'\nuse='base'", .register "right" "name='right'\nuse=' BASE '"]
    let names := ["left", "Right", "base"]
    let after := (((library.loadNamed "left").2.loadNamed "Right").2.loadNamed "base").2
    InTurn library names after ∧
      ∃ asked, AskInTurn library names asked ∧ (askedKeys asked).Nodup ∧ asked.length = 3 := by
  intro library names after
  have hturn : InTurn library names after :=
    .load_of_isOk (by decide +kernel) (.load_of_isOk (by decide +kernel)
      (.load_of_isOk (by decide +kernel) .none))
  obtain ⟨hagree, asked, hasks, haccount, hnodup, -, -⟩ := loads_read_once {} {} _ hturn
  refine ⟨hturn, asked, hasks, hnodup (hagree rfl), ?_⟩
  have hparsed : after.parsed = library.parsed + 3 := by decide +kernel
  exact Nat.add_left_cancel (haccount.parsed.symm.trans hparsed)

/-! ## Two files for one key

  The exception is real: with a directory, one load may read two documents for one key. -/

/-- Where nothing is registered a definition is read from the first file that is there. -/
theorem findSource_of_file {library : GrammarLibrary} {name text : String}
    (hunregistered : library.sources.find? (nameKey name) = none)
    (hfile : (List.find? library.files.isFile (library.candidates name)).map library.files.readText
      = some (.ok text)) :
    library.findSource name = .ok (.text text) := by
  obtain ⟨path, hpath, htext⟩ := Option.map_eq_some_iff.mp hfile
  rw [findSource, hunregistered, hpath]
  simp only [htext]

/-- A text has a definition if what it declares can be read off it. -/
theorem exists_definition {text declared : String} {parent : Option String}
    (h : (Definition.parse? text).map (fun d => (d.declaredName?, d.parent))
      = some (some declared, parent)) :
    ∃ d, Definition.parse? text = some d ∧ d.declaredName? = some declared ∧ d.parent = parent := by
  obtain ⟨d, hd, heq⟩ := Option.map_eq_some_iff.mp h
  obtain ⟨hname, hparent⟩ := Prod.mk.inj heq
  exact ⟨d, hd, hname, hparent⟩

/-- A directory has one file for a name as it is spelled, and another one for its key, and the first
    declares some other name.  A load that succeeds reads both, and one key is new. -/
theorem reads_key_twice :
    let library : GrammarLibrary :=
      { config := { grammarDirs := ["g"] }
        files := { root := [("g", .directory [("A.toml", .file "name='x'\nuse='a'".toUTF8),
          ("a.toml", .file "name='z'".toUTF8)])] } }
    (library.loadNamed "A").1.isOk = true ∧ (library.loadNamed "A").2.parsed = 2 ∧
      (library.loadNamed "A").2.loaded.keys = ["a"] := by
  intro library
  obtain ⟨upper, hupper, hupperName, hupperParent⟩ : ∃ d,
      Definition.parse? "name='x'\nuse='a'" = some d ∧ d.declaredName? = some "x" ∧
        d.parent = some "a" := exists_definition (by decide +kernel)
  obtain ⟨lower, hlower, hlowerName, hlowerParent⟩ : ∃ d,
      Definition.parse? "name='z'" = some d ∧ d.declaredName? = some "z" ∧ d.parent = none :=
    exists_definition (by decide +kernel)
  have hfindUpper : library.findSource "A" = .ok (.text "name='x'\nuse='a'") := by
    refine findSource_of_file rfl ?_
    unfold FileSystem.isFile FileSystem.readText FileSystem.locate FileSystem.partsFromRoot
    simp only [Path.parts_eq]
    decide +kernel
  have hfindLower : library.findSource "a" = .ok (.text "name='z'") := by
    refine findSource_of_file rfl ?_
    unfold FileSystem.isFile FileSystem.readText FileSystem.locate FileSystem.partsFromRoot
    simp only [Path.parts_eq]
    decide +kernel
  have hreadUpper : read (.text "name='x'\nuse='a'") = .ok upper :=
    read_text_eq_ok_iff.mpr hupper
  have hreadLower : read (.text "name='z'") = .ok lower := read_text_eq_ok_iff.mpr hlower
  -- the key that is asked for again is not on the chain, and nothing is kept for it yet
  have hlast : Loads 1 [nameKey "x"] (.document (.text "name='z'")) library.counted _ :=
    .root hreadLower hlowerName (by decide +kernel) hlowerParent
  have hagain : Loads 1 [nameKey "x"] (.name "a") library.counted _ :=
    .found (by decide +kernel) rfl hfindLower hlast
  have hfirst : Loads 2 [] (.document (.text "name='x'\nuse='a'")) library _ :=
    .derived hreadUpper hupperName List.not_mem_nil hupperParent hagain
  have hloads : Loads 2 [] (.name "A") library _ :=
    .found List.not_mem_nil rfl hfindUpper hfirst
  have hkeys : nameKey "A" = "a" ∧ nameKey "a" = "a" := by decide +kernel
  obtain ⟨-, honly⟩ := ends_loadNamed library "A"
  rw [← (honly _ _ hloads).1, hkeys.1, hkeys.2]
  exact ⟨rfl, rfl, rfl⟩

end GrammarLibrary

end Highlight
