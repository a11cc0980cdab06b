/-
  Registered definitions, in libraries with and without directories.

  A name is looked up among the registered definitions first, so what lies in the directories can
  neither replace one of them nor change its name.

  1. **Names** — a library is `Named` when what it keeps under the key of a registered definition
     has the name that this declares.  Registering and forgetting evict what is kept, so they keep
     this up, and so does every load (`resolve_named`).

  2. **Loading** — a registered definition is loaded if its parent can be (`resolve_of_registered`),
     and definitions with distinct keys are all registered (`foldl_registerSource`).

  3. **Growing** — more definitions do not change the line of a name (`Lineage.mono`), and libraries
     in order with the same definitions load every name alike (`InOrder.loadNamed_congr`).
-/
import Highlight.Proofs.Library.Transparency

namespace Highlight

namespace GrammarLibrary

/-! ## Names

  A grammar bears the name that its definition declares.  It could only have another one if it had
  been kept under the key before the definition was registered there; but registering evicts it. -/

section Names

variable {library : GrammarLibrary}

/-- What is kept under the key of a registered definition has the name that this declares. -/
def Named (library : GrammarLibrary) : Prop :=
  ∀ key d g, library.registered? key = some d → library.loaded.find? key = some g →
    d.declaredName? = some g.name

/-- It does not matter what becomes of a definition that is evicted. -/
theorem Named.evict {after : GrammarLibrary} {key : String} (h : Named library)
    (hloaded : after.loaded = (library.evict key).loaded)
    (hsources : ∀ k, k ≠ key → after.registered? k = library.registered? k) : Named after := by
  intro k d g hsource hkept
  rw [hloaded, find?_evict] at hkept
  split at hkept
  · exact absurd hkept (by simp)
  · rename_i hout
    have hne : k ≠ key := by
      rintro rfl
      exact hout (mem_family_self library k)
    exact h k d g (by rw [← hsources k hne]; exact hsource) hkept

/-- Registering evicts what was kept under the key, so nothing is kept under a wrong name. -/
theorem registerSource_named (h : Named library) (name : String) (source : Source Definition) :
    Named (library.registerSource name source) :=
  h.evict rfl fun _ hk => registered?_registerSource_of_ne _ _ hk.symm _

/-- What is forgotten has no name to live up to. -/
theorem forget_named (h : Named library) (name : String) : Named (library.forget name) :=
  h.evict rfl fun _ hk => registered?_forget_of_ne _ _ hk.symm

/-- A grammar that is made has the name of its definition. -/
theorem name_of_build {parentOf : List String → String → GrammarLibrary → Outcome}
    {chain : List String} {d : Definition} {g : Grammar}
    (h : (build parentOf chain d library).1 = .ok g) : d.declaredName? = some g.name := by
  obtain ⟨name, hname, -, hcase⟩ := build_ok h
  rcases hcase with ⟨-, rfl⟩ | ⟨parent, base, below, -, rfl, -, -⟩
  · exact hname
  · exact hname

/-- A load keeps a library named. -/
theorem resolve_named (fuel : Nat) (chain : List String) (name : String) (h : Named library) :
    Named (resolve fuel chain name library).2 := by
  induction fuel generalizing chain name library with
  | zero => exact h
  | succ less ih =>
    have hbuild : ∀ d, Named (build (resolve less) chain d library).2 := fun _ =>
      build_robust (P := Named) (fun _ _ _ h => h) (fun _ _ _ h => ih _ _ h) h
    rcases resolve_cases less chain name library with
      ⟨e, hr⟩ | ⟨g, -, hr⟩ | ⟨made, hfind, ⟨e, hr⟩ | ⟨g, hg, hr⟩⟩
    · rw [hr]
      exact h
    · rw [hr]
      exact h
    · rw [hr]
      exact hbuild made
    · have hframe : Frame library (build (resolve less) chain made library).2 :=
        build_frame (resolve_frame less)
      rw [hr]
      intro key d g' hsource hkept
      by_cases hkey : nameKey name = key
      · -- the grammar kept now is made of the registered definition
        change ((build (resolve less) chain made library).2.loaded.set (nameKey name) g).find? key
          = some g' at hkept
        rw [hkey, Dict.find?_set_self] at hkept
        obtain rfl := Option.some.inj hkept
        change (build (resolve less) chain made library).2.registered? key = some d at hsource
        rw [hframe.registered?, ← hkey] at hsource
        obtain rfl := Except.ok.inj ((find_of_registered hsource).symm.trans hfind)
        exact name_of_build hg
      · change ((build (resolve less) chain made library).2.loaded.set (nameKey name) g).find? key
          = some g' at hkept
        rw [Dict.find?_set_of_ne hkey] at hkept
        exact hbuild made key d g' hsource hkept

/-- So does a load by name, which begins with no chain. -/
theorem loadNamed_named (h : Named library) (name : String) : Named (library.loadNamed name).2 :=
  resolve_named _ _ _ h

/-- **A registered definition that is loaded gives a grammar with the name that it declares.** -/
theorem Named.loadNamed_name (h : Named library) {name : String} {d : Definition} {g : Grammar}
    (hsource : library.registered? (nameKey name) = some d)
    (hload : (library.loadNamed name).1 = .ok g) : d.declaredName? = some g.name := by
  unfold loadNamed at hload
  have hroom : library.room = library.room - 1 + 1 := by unfold room; omega
  rw [hroom] at hload
  rcases resolve_cases (library.room - 1) [] name { library with problems := [] } with
    ⟨e, hr⟩ | ⟨g', hkept, hr⟩ | ⟨made, hfind, ⟨e, hr⟩ | ⟨g', hg, hr⟩⟩
  · rw [hr] at hload
    exact absurd hload (by simp)
  · rw [hr] at hload
    obtain rfl := Except.ok.inj hload
    exact h _ d _ hsource hkept
  · rw [hr] at hload
    exact absurd hload (by simp)
  · rw [hr] at hload
    obtain rfl := Except.ok.inj hload
    have hfound : library.find name = .ok made := hfind
    rw [find_of_registered hsource] at hfound
    obtain rfl := Except.ok.inj hfound
    exact name_of_build hg

end Names

/-! ## Loading

  Registered definitions come before the files.  So a load of one can only fail for its parent, or
  for a circle. -/

/-- **A registered definition is loaded if its parent can be.** -/
theorem resolve_of_registered {library : GrammarLibrary} {less : Nat} {chain : List String}
    {name declared : String} {d : Definition}
    (hsource : library.registered? (nameKey name) = some d)
    (hname : d.declaredName? = some declared) (hkey : nameKey declared = nameKey name)
    (hnew : nameKey name ∉ chain)
    (hparent : ∀ parent ∈ d.parent, ∀ below, Frame library below →
      ∃ base, (resolve less (chain ++ [nameKey name]) parent below).1 = .ok base) :
    ∃ g, (resolve (less + 1) chain name library).1 = .ok g := by
  cases hkept : library.loaded.find? (nameKey name) with
  | some g => exact ⟨g, by rw [resolve, if_neg hnew, hkept]⟩
  | none =>
    rw [resolve_fst hnew hkept (find_of_registered hsource),
      build_fst hname (by rw [hkey]; exact hnew), hkey]
    cases hup : d.parent with
    | none => exact ⟨_, rfl⟩
    | some parent =>
      obtain ⟨base, hbase⟩ := hparent parent hup { library with parsed := library.parsed + 1 }
        ⟨rfl, rfl, rfl⟩
      simp only [hbase]
      exact ⟨_, rfl⟩

/-- A library to which definitions with distinct keys are added keeps all of them. -/
theorem foldl_registerSource {library : GrammarLibrary} (hempty : library.loaded = [])
    {definitions : List (String × Definition)}
    (hkeys : (library.sources.keys ++ definitions.map (nameKey ·.1)).Nodup) :
    let after := definitions.foldl (fun l e => l.registerSource e.1 (.value e.2)) library
    after.config = library.config ∧ after.loaded = [] ∧
      after.sources = library.sources ++ definitions.map fun e => (nameKey e.1, .value e.2) := by
  induction definitions generalizing library with
  | nil => exact ⟨rfl, hempty, by simp⟩
  | cons e rest ih =>
    rw [List.map_cons, List.append_cons] at hkeys
    -- the key is new, so registering puts it behind the others and evicts nothing
    have hfree : library.sources.find? (nameKey e.1) = none := by
      refine Option.not_isSome_iff_eq_none.mp fun hsome => ?_
      have hmem := (Dict.find?_isSome_iff _ _).mp hsome
      have hapart := (List.nodup_append.mp (List.nodup_append.mp hkeys).1).2.2
      exact hapart _ hmem _ (List.mem_singleton.mpr rfl) rfl
    have hloaded : (library.registerSource e.1 (.value e.2)).loaded = [] := by
      show library.loaded.filter _ = []
      rw [hempty]
      rfl
    have hsources : (library.registerSource e.1 (.value e.2)).sources
        = library.sources ++ [(nameKey e.1, .value e.2)] := Dict.set_of_none hfree _
    have hkeys' : ((library.registerSource e.1 (.value e.2)).sources.keys
        ++ rest.map (nameKey ·.1)).Nodup := by
      rw [hsources, Dict.keys, List.map_append]
      exact hkeys
    obtain ⟨hconfig, hkept, hall⟩ := ih hloaded hkeys'
    refine ⟨hconfig, hkept, ?_⟩
    rw [List.foldl_cons, hall, hsources, List.append_assoc]
    rfl

/-! ## Growing

  What a name leads to is fixed by the definitions in its line.  Others can be added without any
  effect on it, and it does not matter what else two libraries keep. -/

/-- **More definitions do not change the line of a name.** -/
theorem Lineage.mono {a b : GrammarLibrary} (hdirs : a.config.grammarDirs = [])
    (hsources : ∀ key source, a.sources.find? key = some source →
      b.sources.find? key = some source)
    {name : String} {line : List (String × Definition)} (h : Lineage a name line) :
    Lineage b name line := by
  have hfind : ∀ {n d}, a.find n = .ok d → b.find n = .ok d := fun hd =>
    find_of_registered (registered?_mono (hsources _) ((find_eq_ok_iff hdirs).mp hd))
  induction h with
  | root hd hname hparent => exact .root (hfind hd) hname hparent
  | derived hd hname hparent _ ih => exact .derived (hfind hd) hname hparent ih

/-- The same definition is registered in two libraries with the same ones. -/
theorem Frame.register {a b : GrammarLibrary} (h : Frame a b) (name text : String) :
    Frame (a.register name text) (b.register name text) := by
  refine ⟨h.config, h.files, ?_⟩
  show b.sources.set _ _ = a.sources.set _ _
  rw [h.sources]

theorem Frame.forget {a b : GrammarLibrary} (h : Frame a b) (name : String) :
    Frame (a.forget name) (b.forget name) := by
  refine ⟨h.config, h.files, ?_⟩
  show b.sources.erase _ = a.sources.erase _
  rw [h.sources]

section InOrder

variable {library : GrammarLibrary}

/-- A definition filed under its own name keeps the library in order. -/
theorem InOrder.register (h : InOrder library) {name text : String}
    (hnamed : Call.WellNamed (.register name text)) : InOrder (library.register name text) :=
  perform_inOrder h hnamed

theorem InOrder.loadNamed (h : InOrder library) (name : String) :
    InOrder (library.loadNamed name).2 := by
  have hnamed : Call.WellNamed (.loadNamed name) := trivial
  exact perform_inOrder h hnamed

theorem InOrder.forget (h : InOrder library) (name : String) : InOrder (library.forget name) := by
  have hnamed : Call.WellNamed (.forget name) := trivial
  exact perform_inOrder h hnamed

/-- Without directories files do not matter. -/
theorem InOrder.filesChange (h : InOrder library) (files : FileSystem) :
    InOrder { library with files := files } := by
  have hnamed : Call.WellNamed (.filesChange files) := trivial
  exact perform_inOrder h hnamed

end InOrder

/-- Libraries in order with the same definitions load every name alike. -/
theorem InOrder.loadNamed_congr {a b : GrammarLibrary} (ha : InOrder a) (hb : InOrder b)
    (h : Frame a b) (name : String) : (b.loadNamed name).1 = (a.loadNamed name).1 := by
  have hfresh : b.fresh = a.fresh := by
    unfold fresh
    rw [h.config, h.files, h.sources]
  rw [hb.loadNamed_eq, ha.loadNamed_eq, hfresh]

/-- A library in order loads what has a line. -/
theorem InOrder.loadNamed_of_lineage {library : GrammarLibrary} (h : InOrder library)
    {name : String} {line : List (String × Definition)} (hline : Lineage library name line) :
    (library.loadNamed name).1 = .ok (layered library.config.limits line) := by
  have hfresh : Frame library { library.fresh with problems := [] } := ⟨rfl, rfl, rfl⟩
  rw [h.loadNamed_eq, GrammarLibrary.loadNamed, (frame_fresh library).room]
  exact resolve_of_lineage h.dirs h.filed hline hfresh rfl (hline.length_le_room h.dirs)
    fun _ _ => List.not_mem_nil

end GrammarLibrary

end Highlight
