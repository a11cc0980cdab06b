/-
  What a library keeps, and what it drops.

  1. **Families** — `familyFrom` adds children until there are none (`childrenOf_familyFrom`): its
     fuel suffices, for every step leaves fewer grammars outside.  So no grammar outside a family
     has its parent in it (`parent_not_mem_family`).

  2. **Kept grammars** — a library is `Kept` when what it keeps comes from lines of definitions, and
     with every grammar its parent is kept.  Thus all of the line of a kept grammar is kept, and
     evicting a key leaves only grammars in whose lines the key does not occur (`line_not_mem`).
     Their lines are the same whatever becomes of the definition of this key (`Kept.evict`).

  3. **Loading** — a load keeps a parent before its child, so the library stays `Kept`, whether the
     load succeeds or not (`resolve_kept`).
-/
import Highlight.Proofs.Library.Lineage

namespace Highlight

namespace GrammarLibrary

/-! ## Families

  To evict a key is to drop all grammars that go back to it, through whatever number of parents.
  Children are added round after round, and a round that adds none is the last. -/

section Family

variable {loaded : Dict String Grammar} {keys : List String} {key : String}

/-- Children are grammars outside whose parent is among the keys. -/
theorem mem_childrenOf : key ∈ childrenOf keys loaded ↔
    ∃ g, (key, g) ∈ loaded ∧ key ∉ keys ∧
      ∃ parent, g.parent = some parent ∧ nameKey parent ∈ keys := by
  have hparent : ∀ g : Grammar, (g.parent.map nameKey).any (· ∈ keys) = true ↔
      ∃ parent, g.parent = some parent ∧ nameKey parent ∈ keys := by
    intro g
    cases g.parent with
    | none => simp
    | some parent => simp
  unfold childrenOf
  simp only [List.mem_map, List.mem_filter, Bool.and_eq_true, decide_eq_true_iff, hparent,
    Prod.exists]
  constructor
  · rintro ⟨k, g, ⟨hg, hnew, hup⟩, rfl⟩
    exact ⟨g, hg, hnew, hup⟩
  · rintro ⟨g, hg, hnew, hup⟩
    exact ⟨key, g, ⟨hg, hnew, hup⟩, rfl⟩

/-- The grammars with none of some keys. -/
def outside (loaded : Dict String Grammar) (keys : List String) : Dict String Grammar :=
  loaded.filter fun e => e.1 ∉ keys

/-- Children leave fewer grammars outside. -/
theorem outside_lt (h : childrenOf keys loaded ≠ []) :
    (outside loaded (keys ++ childrenOf keys loaded)).length < (outside loaded keys).length := by
  obtain ⟨child, hchild⟩ := List.exists_mem_of_ne_nil _ h
  obtain ⟨g, hg, hnew, -⟩ := mem_childrenOf.mp hchild
  have hsplit : outside loaded (keys ++ childrenOf keys loaded)
      = (outside loaded keys).filter fun e => e.1 ∉ childrenOf keys loaded := by
    unfold outside
    rw [List.filter_filter]
    refine List.filter_congr fun e _ => ?_
    simp [Bool.and_comm]
  rw [hsplit, List.length_filter_lt_length_iff_exists]
  refine ⟨(child, g), ?_, by simpa using hchild⟩
  exact List.mem_filter.mpr ⟨hg, by simpa using hnew⟩

/-- A family contains the keys that it starts from. -/
theorem subset_familyFrom (fuel : Nat) (h : key ∈ keys) : key ∈ familyFrom loaded fuel keys := by
  induction fuel generalizing keys with
  | zero => exact h
  | succ fuel ih =>
    unfold familyFrom
    split
    · exact h
    · exact ih (List.mem_append_left _ h)

/-- **A family has no children outside**: the fuel suffices. -/
theorem childrenOf_familyFrom {fuel : Nat} (h : (outside loaded keys).length < fuel) :
    childrenOf (familyFrom loaded fuel keys) loaded = [] := by
  induction fuel generalizing keys with
  | zero => exact absurd h (Nat.not_lt_zero _)
  | succ fuel ih =>
    unfold familyFrom
    split
    · rename_i hnone
      exact hnone
    · rename_i children hsome
      have hlt : (outside loaded (keys ++ childrenOf keys loaded)).length
          < (outside loaded keys).length := outside_lt fun hnil => hsome hnil
      exact ih (by omega)

end Family

variable {library : GrammarLibrary} {key : String}

theorem mem_family_self (library : GrammarLibrary) (key : String) : key ∈ library.family key :=
  subset_familyFrom _ (List.mem_singleton.mpr rfl)

/-- The parent of a grammar outside a family is outside as well. -/
theorem parent_not_mem_family {k parent : String} {g : Grammar}
    (hkept : library.loaded.find? k = some g) (hk : k ∉ library.family key)
    (hparent : g.parent = some parent) : nameKey parent ∉ library.family key := by
  -- else the grammar would be a child that the family has not taken in
  intro hmem
  have hle : (outside library.loaded [key]).length ≤ library.loaded.length :=
    List.length_filter_le ..
  have hnone : childrenOf (familyFrom library.loaded (library.loaded.length + 1) [key])
      library.loaded = [] := childrenOf_familyFrom (Nat.lt_succ_of_le hle)
  have hchild : k ∈ childrenOf (library.family key) library.loaded :=
    mem_childrenOf.mpr ⟨g, Dict.mem_of_find? hkept, hk, parent, hparent, hmem⟩
  rw [family, hnone] at hchild
  exact absurd hchild List.not_mem_nil

/-- What is kept after an eviction is what is outside the family. -/
theorem find?_evict (library : GrammarLibrary) (key k : String) :
    (library.evict key).loaded.find? k
      = if k ∈ library.family key then none else library.loaded.find? k := by
  have hfilter := Dict.find?_filter (fun k => decide (k ∉ library.family key)) k library.loaded
  unfold evict
  simp only
  rw [hfilter]
  by_cases hk : k ∈ library.family key
  · simp [hk]
  · simp [hk]

/-! ## Kept grammars

  Why it is enough to evict the family: a grammar outside it has its whole line outside, so nothing
  that is kept goes back to the definition that is about to change. -/

/-- What is kept comes from lines of definitions, and the parents of kept grammars are kept. -/
structure Kept (library : GrammarLibrary) : Prop where
  traced : Traced library
  parents : ∀ k g parent, library.loaded.find? k = some g → g.parent = some parent →
    (library.loaded.find? (nameKey parent)).isSome

/-- A library that keeps nothing keeps no grammar without its parent. -/
theorem kept_of_empty (h : library.loaded = []) : Kept library := by
  refine ⟨traced_of_empty h, fun k g parent hkept => ?_⟩
  rw [h] at hkept
  exact absurd hkept (by simp)

theorem Kept.frame {a b : GrammarLibrary} (h : Kept a) (hframe : Frame a b)
    (hloaded : b.loaded = a.loaded) : Kept b := by
  refine ⟨h.traced.frame hframe hloaded, fun k g parent hkept hparent => ?_⟩
  rw [hloaded] at hkept ⊢
  exact h.parents k g parent hkept hparent

/-- A kept grammar comes from the line of its name. -/
theorem Traced.eq_layered {name : String} {line : List (String × Definition)} {g : Grammar}
    (h : Traced library) (hkept : library.loaded.find? (nameKey name) = some g)
    (hline : Lineage library name line) : g = layered library.config.limits line := by
  obtain ⟨line', hline', hg⟩ := h name g hkept
  rw [hline.unique hline']
  exact hg

/-- **The line of a kept grammar outside a family lies outside this family.** -/
theorem line_not_mem (h : Kept library) {name : String} {line : List (String × Definition)}
    {g : Grammar} (hline : Lineage library name line)
    (hkept : library.loaded.find? (nameKey name) = some g)
    (hout : nameKey name ∉ library.family key) : ∀ k ∈ line.map (·.1), k ∉ library.family key := by
  induction hline generalizing g with
  | root =>
    intro k hk
    obtain rfl := by simpa using hk
    exact hout
  | @derived name parent d line hd hname hparent hline ih =>
    have hg := h.traced.eq_layered hkept (.derived hd hname hparent hline)
    have hup : g.parent = some parent := by rw [hg, layered_parent, hparent]
    obtain ⟨g', hkept'⟩ := Option.isSome_iff_exists.mp (h.parents _ g parent hkept hup)
    have hout' := parent_not_mem_family hkept hout hup
    intro k hk
    rcases List.mem_cons.mp hk with rfl | hk
    · exact hout
    · exact ih hkept' hout' k hk

/-- **Evicting a key makes it safe to change its definition.** -/
theorem Kept.evict {after : GrammarLibrary} (h : Kept library)
    (hdirs : library.config.grammarDirs = []) (hconfig : after.config = library.config)
    (hloaded : after.loaded = (library.evict key).loaded)
    (hsources : ∀ k, k ≠ key → after.sources.find? k = library.sources.find? k) : Kept after := by
  have hdirs' : after.config.grammarDirs = [] := by rw [hconfig]; exact hdirs
  constructor
  · intro name g hkept
    rw [hloaded, find?_evict] at hkept
    split at hkept
    · exact absurd hkept (by simp)
    · rename_i hout
      obtain ⟨line, hline, hg⟩ := h.traced name g hkept
      refine ⟨line, hline.congr fun n hn => ?_, by rw [hconfig]; exact hg⟩
      -- the key has no part in the line, and all other definitions are as before
      have hne : nameKey n ≠ key := by
        intro heq
        rw [heq] at hn
        exact line_not_mem h hline hkept hout key hn (mem_family_self library key)
      rw [find_of_noDirs hdirs, find_of_noDirs hdirs', hsources _ hne]
  · intro k g parent hkept hparent
    rw [hloaded, find?_evict] at hkept ⊢
    split at hkept
    · exact absurd hkept (by simp)
    · rename_i hout
      rw [if_neg (parent_not_mem_family hkept hout hparent)]
      exact h.parents k g parent hkept hparent

/-- Registering evicts the key first, so what stays does not come from the definition that goes. -/
theorem registerSource_kept (h : Kept library) (hdirs : library.config.grammarDirs = [])
    (name : String) (source : Source Definition) : Kept (library.registerSource name source) :=
  h.evict hdirs rfl rfl fun _ hk => Dict.find?_set_of_ne hk.symm _ _

theorem forget_kept (h : Kept library) (hdirs : library.config.grammarDirs = []) (name : String) :
    Kept (library.forget name) :=
  h.evict hdirs rfl rfl fun _ hk => Dict.find?_erase_of_ne hk.symm _

/-! ## Loading

  A load keeps grammars only after their parents, and what has been kept stays.  The induction
  follows `resolve` along its fuel. -/

/-- A grammar that has been loaded by name is kept. -/
theorem resolve_isSome {fuel : Nat} {chain : List String} {name : String} {g : Grammar}
    (h : (resolve fuel chain name library).1 = .ok g) :
    ((resolve fuel chain name library).2.loaded.find? (nameKey name)).isSome := by
  cases fuel with
  | zero => exact absurd h (by simp [resolve])
  | succ less =>
    rcases resolve_cases less chain name library with
      ⟨e, hr⟩ | ⟨g', hkept, hr⟩ | ⟨d, -, ⟨e, hr⟩ | ⟨g', -, hr⟩⟩
    · rw [hr] at h
      exact absurd h (by simp)
    · rw [hr, hkept]
      rfl
    · rw [hr] at h
      exact absurd h (by simp)
    · rw [hr, Dict.find?_set_self]
      rfl

/-- Keeping a grammar whose parent is kept. -/
theorem Kept.keep (h : Kept library) (hdirs : library.config.grammarDirs = []) {name : String}
    {g : Grammar}
    (hline : ∃ line, Lineage library name line ∧ g = layered library.config.limits line)
    (hparent : ∀ parent, g.parent = some parent →
      (library.loaded.find? (nameKey parent)).isSome) :
    Kept { library with loaded := library.loaded.set (nameKey name) g } := by
  have hframe : Frame library { library with loaded := library.loaded.set (nameKey name) g } :=
    ⟨rfl, rfl, rfl⟩
  constructor
  · intro n g' hkept
    change (library.loaded.set (nameKey name) g).find? (nameKey n) = some g' at hkept
    by_cases hn : nameKey name = nameKey n
    · rw [hn, Dict.find?_set_self] at hkept
      obtain rfl := Option.some.inj hkept
      obtain ⟨line, hline, hg⟩ := hline
      exact ⟨line, hframe.lineage (hline.respell hdirs hn.symm), hg⟩
    · rw [Dict.find?_set_of_ne hn] at hkept
      obtain ⟨line, hline, hg⟩ := h.traced n g' hkept
      exact ⟨line, hframe.lineage hline, hg⟩
  · intro k g' parent hkept hup
    change (library.loaded.set (nameKey name) g).find? k = some g' at hkept
    -- what is kept anew hides no parent
    refine Dict.isSome_find?_set ?_
    by_cases hk : nameKey name = k
    · rw [hk, Dict.find?_set_self] at hkept
      obtain rfl := Option.some.inj hkept
      exact hparent parent hup
    · rw [Dict.find?_set_of_ne hk] at hkept
      exact h.parents k g' parent hkept hup

/-- Making a grammar keeps a library in order, if loading its parent does. -/
theorem build_kept {parentOf : List String → String → GrammarLibrary → Outcome}
    {chain : List String} {d : Definition} (h : Kept library)
    (hdirs : library.config.grammarDirs = [])
    (hframe : ∀ chain name below, Frame below (parentOf chain name below).2)
    (hparentOf : ∀ chain name below, Kept below → below.config.grammarDirs = [] →
      Kept (parentOf chain name below).2) :
    Kept (build parentOf chain d library).2 := by
  have hparentOf' : ∀ chain name below, Kept below ∧ below.config.grammarDirs = [] →
      Kept (parentOf chain name below).2 ∧
        (parentOf chain name below).2.config.grammarDirs = [] := by
    rintro chain name below ⟨hbelow, hdirs⟩
    refine ⟨hparentOf chain name below hbelow hdirs, ?_⟩
    rw [(hframe chain name below).config]
    exact hdirs
  have hrobust : Robust fun l => Kept l ∧ l.config.grammarDirs = [] :=
    fun _ _ _ h => ⟨h.1.frame ⟨rfl, rfl, rfl⟩ rfl, h.2⟩
  exact (build_robust hrobust hparentOf' ⟨h, hdirs⟩).1

/-- The parent of a grammar that has been made is kept. -/
theorem build_parent_isSome {less : Nat} {chain : List String} {d : Definition}
    {g : Grammar} {parent : String} (h : (build (resolve less) chain d library).1 = .ok g)
    (hparent : g.parent = some parent) :
    ((build (resolve less) chain d library).2.loaded.find? (nameKey parent)).isSome := by
  obtain ⟨declared, -, -, hcase⟩ := build_ok h
  rcases hcase with ⟨hnone, hg⟩ | ⟨parent', base, below, hsome, hg, hbase, hloaded⟩
  · have hup : g.parent = none := by rw [hg]; exact hnone
    exact absurd (hup.symm.trans hparent) (by simp)
  · have hup : g.parent = some parent' := by rw [hg]; exact hsome
    obtain rfl := Option.some.inj (hup.symm.trans hparent)
    have hkept := resolve_isSome (congrArg Prod.fst hbase)
    rw [hbase] at hkept
    rw [hloaded]
    exact hkept

/-- **A load by name keeps the library in order**, whether it succeeds or not. -/
theorem resolve_kept (fuel : Nat) (chain : List String) (name : String) (h : Kept library)
    (hdirs : library.config.grammarDirs = []) : Kept (resolve fuel chain name library).2 := by
  induction fuel generalizing chain name library with
  | zero => exact h
  | succ less ih =>
    have hbuild : ∀ d, Kept (build (resolve less) chain d library).2 := fun d =>
      build_kept h hdirs (resolve_frame less) fun chain name _ h hdirs => ih chain name h hdirs
    rcases resolve_cases less chain name library with
      ⟨e, hr⟩ | ⟨g, -, hr⟩ | ⟨d, hfind, ⟨e, hr⟩ | ⟨g, hg, hr⟩⟩
    · rw [hr]
      exact h
    · rw [hr]
      exact h
    · rw [hr]
      exact hbuild d
    · have hframe : Frame library (build (resolve less) chain d library).2 :=
        build_frame (resolve_frame less)
      -- the grammar is kept with the line it was made from, and its parent is kept already
      obtain ⟨line, hline, hlayered⟩ := build_line hfind (fun _ _ _ _ hframe hloaded hbase =>
        resolve_line (h.traced.frame hframe hloaded) hbase) hg
      rw [hr]
      refine (hbuild d).keep (by rw [hframe.config]; exact hdirs) ?_ ?_
      · exact ⟨line, hframe.lineage hline, by rw [hframe.config]; exact hlayered⟩
      · exact fun parent hparent => build_parent_isSome hg hparent

/-- A load from a text keeps the parents of what it is derived from. -/
theorem load_kept (h : Kept library) (hdirs : library.config.grammarDirs = []) (text : String) :
    Kept (library.load text).2 := by
  have hbegin : Kept { library with problems := [] } := h.frame ⟨rfl, rfl, rfl⟩ rfl
  rcases load_cases library text with ⟨e, -, hload⟩ | ⟨d, -, hload⟩
  · rw [hload]
    exact hbegin
  · rw [hload]
    exact build_kept hbegin hdirs (resolve_frame _)
      fun chain name _ h hdirs => resolve_kept _ chain name h hdirs

theorem loadFile_kept (h : Kept library) (hdirs : library.config.grammarDirs = []) (path : String) :
    Kept (library.loadFile path).2 := by
  unfold loadFile
  split
  · exact load_kept h hdirs _
  · exact h

/-- A load by name keeps the grammar behind its parents. -/
theorem loadNamed_kept (h : Kept library) (hdirs : library.config.grammarDirs = [])
    (name : String) : Kept (library.loadNamed name).2 :=
  resolve_kept _ _ name (h.frame ⟨rfl, rfl, rfl⟩ rfl) hdirs

end GrammarLibrary

end Highlight
