/-
  Where what a library keeps does show.

  The name of a text takes part in the search for circles, but it is only compared with the names
  that a load comes by, and a load stops where a grammar is kept.  So a circle that leads back to
  the text is missed if a grammar on the way was loaded before.

  1. **Walking down a line** — a load walks down a line until it comes to a key that is kept or in
     the chain (`resolve_past`).  What it finds there decides: it fails at a
     key in the chain (`resolve_circle`) and succeeds at one that is kept (`resolve_kept_behind`).

  2. **Circles** — a text is `CutShort` when its name comes again in the line of its parent, but
     only behind a grammar that is kept.  Then it is loaded, and with nothing kept it is a circle.
     Every other text is loaded with and without what is kept alike.

  Main result: `load_eq_cleared_or_cutShort`.
-/
import Highlight.Proofs.Library.Walk

namespace Highlight

namespace GrammarLibrary

/-! ## Walking down a line -/

section Walk

variable {library : GrammarLibrary} {name key : String} {twin : Definition}
  {before rest : List (String × Definition)} {chain : List String} {b : GrammarLibrary}

/-- **A load walks past definitions that are not kept**, and lays them over what it finds behind
    them. -/
theorem resolve_past (hdirs : library.config.grammarDirs = []) (hfiled : WellFiled library)
    (hline : Lineage library name (before ++ rest)) (hrest : rest ≠ []) (hframe : Frame library b)
    (hchain : ∀ k ∈ before.map (·.1), k ∉ chain)
    (hloaded : ∀ k ∈ before.map (·.1), b.loaded.find? k = none) (fuel : Nat) :
    ∃ name' below f, Lineage library name' rest ∧ Frame library below ∧ below.loaded = b.loaded ∧
      (resolve (before.length + fuel) chain name b).1
        = (resolve fuel (chain ++ before.map (·.1)) name' below).1.map f := by
  obtain ⟨name', hwalk, hbehind⟩ := hline.walk hdirs hrest
  have hnodup : (before.map (·.1)).Nodup := by
    have hall := hline.nodup hdirs
    rw [List.map_append] at hall
    exact (List.nodup_append.mp hall).1
  obtain ⟨below, f, hpast⟩ := resolve_walk hdirs hfiled hwalk hnodup hframe hchain hloaded fuel
  exact ⟨name', below, f, hbehind, hpast⟩

/-- A key of the chain on the way is a circle. -/
theorem resolve_circle (hdirs : library.config.grammarDirs = []) (hfiled : WellFiled library)
    (hline : Lineage library name (before ++ (key, twin) :: rest)) (hframe : Frame library b)
    (hchain : ∀ k ∈ before.map (·.1), k ∉ chain)
    (hloaded : ∀ k ∈ before.map (·.1), b.loaded.find? k = none) (hkey : key ∈ chain) (fuel : Nat) :
    (resolve (before.length + (fuel + 1)) chain name b).1
      = .error (.inheritanceCycle (chain ++ before.map (·.1) ++ [key])) := by
  obtain ⟨name', below, f, hline', -, -, hpast⟩ :=
    resolve_past hdirs hfiled hline (List.cons_ne_nil _ _) hframe hchain hloaded (fuel + 1)
  obtain ⟨rfl, -⟩ := hline'.uncons
  rw [hpast, resolve, if_pos (List.mem_append_left _ hkey)]
  rfl

/-- A key on the way that is kept ends the walk. -/
theorem resolve_kept_behind (hdirs : library.config.grammarDirs = []) (hfiled : WellFiled library)
    (hline : Lineage library name (before ++ (key, twin) :: rest)) (hframe : Frame library b)
    (hchain : ∀ k ∈ before.map (·.1), k ∉ chain)
    (hloaded : ∀ k ∈ before.map (·.1), b.loaded.find? k = none) (hkey : key ∉ chain)
    (hkept : (b.loaded.find? key).isSome) (fuel : Nat) :
    ∃ g, (resolve (before.length + (fuel + 1)) chain name b).1 = .ok g := by
  obtain ⟨name', below, f, hline', -, hloaded', hpast⟩ :=
    resolve_past hdirs hfiled hline (List.cons_ne_nil _ _) hframe hchain hloaded (fuel + 1)
  obtain ⟨rfl, -⟩ := hline'.uncons
  obtain ⟨g, hg⟩ := Option.isSome_iff_exists.mp hkept
  -- the walk has not come by this key either, for no key comes twice in a line
  have hout : nameKey name' ∉ chain ++ before.map (·.1) := by
    rw [List.mem_append, not_or]
    exact ⟨hkey, fun hmem => hline.before_ne hdirs _ hmem rfl⟩
  rw [hpast, resolve, if_neg hout, hloaded', hg]
  exact ⟨f g, rfl⟩

end Walk

/-! ## Circles -/

/-- A text whose own name comes again in the line of its parent, but behind a grammar that is
    kept. -/
def CutShort (library : GrammarLibrary) (text : String) : Prop :=
  ∃ d declared parent before twin rest, Definition.parse? text = some d ∧
    d.declaredName? = some declared ∧ d.parent = some parent ∧
    Lineage library parent (before ++ (nameKey declared, twin) :: rest) ∧
    ∃ key ∈ before.map (·.1), (library.loaded.find? key).isSome

section Circle

variable {library : GrammarLibrary} {text : String} {d : Definition} {declared parent : String}

/-- What reading a text leaves alone. -/
theorem frame_begun (library : GrammarLibrary) :
    Frame library { library with problems := [], parsed := library.parsed + 1 } := ⟨rfl, rfl, rfl⟩

theorem frame_clear (library : GrammarLibrary) : Frame library library.clear := ⟨rfl, rfl, rfl⟩

/-- Loading a text with a parent is laying it over what its parent gives. -/
theorem load_fst (htext : Definition.parse? text = some d) (hname : d.declaredName? = some declared)
    (hparent : d.parent = some parent) :
    (library.load text).1 = (resolve library.room [nameKey declared] parent
      { library with problems := [], parsed := library.parsed + 1 }).1.map
        fun base => (d.applyTo declared base).1 := by
  rw [load_of_ok (parse_eq_ok_iff.mpr htext), build_fst hname List.not_mem_nil, hparent]
  rfl

/-- A part of a line up to some key leaves room for this key. -/
theorem Lineage.room_split {before rest : List (String × Definition)}
    {entry : String × Definition} (hdirs : library.config.grammarDirs = [])
    (hline : Lineage library parent (before ++ entry :: rest)) :
    ∃ fuel, library.room = before.length + (fuel + 1) := by
  have hlen := hline.length_le_room hdirs
  rw [List.length_append, List.length_cons] at hlen
  exact ⟨library.room - before.length - 1, by omega⟩

/-- **A name that comes again is a circle**, unless something on the way is kept. -/
theorem load_circle {before rest : List (String × Definition)} {twin : Definition}
    (hdirs : library.config.grammarDirs = []) (hfiled : WellFiled library)
    (htext : Definition.parse? text = some d) (hname : d.declaredName? = some declared)
    (hparent : d.parent = some parent)
    (hline : Lineage library parent (before ++ (nameKey declared, twin) :: rest))
    (hloaded : ∀ k ∈ before.map (·.1), library.loaded.find? k = none) :
    (library.load text).1 = .error (.inheritanceCycle
      (nameKey declared :: before.map (·.1) ++ [nameKey declared])) := by
  have hchain : ∀ k ∈ before.map (·.1), k ∉ [nameKey declared] := fun k hmem =>
    mt List.mem_singleton.mp (hline.before_ne hdirs k hmem)
  obtain ⟨fuel, hroom⟩ := hline.room_split hdirs
  have hcircle := resolve_circle hdirs hfiled hline (frame_begun library) hchain hloaded
    (List.mem_singleton.mpr rfl) fuel
  rw [load_fst htext hname hparent, hroom, hcircle]
  rfl

/-- Among definitions of which one is kept there is a first one that is. -/
theorem exists_first_kept {loaded : Dict String Grammar} {before : List (String × Definition)}
    (h : ∃ key ∈ before.map (·.1), (loaded.find? key).isSome) :
    ∃ above key d' below, before = above ++ (key, d') :: below ∧ (loaded.find? key).isSome ∧
      ∀ k ∈ above.map (·.1), loaded.find? k = none := by
  have hsome : (before.find? fun e => (loaded.find? e.1).isSome).isSome := by
    obtain ⟨key, hmem, hkey⟩ := h
    obtain ⟨entry, hentry, rfl⟩ := List.mem_map.mp hmem
    exact List.find?_isSome.mpr ⟨entry, hentry, hkey⟩
  obtain ⟨⟨key, d'⟩, hfound⟩ := Option.isSome_iff_exists.mp hsome
  obtain ⟨hkey, above, below, hsplit, hloaded⟩ := List.find?_eq_some_iff_append.mp hfound
  refine ⟨above, key, d', below, hsplit, hkey, fun k hmem => ?_⟩
  obtain ⟨entry, hentry, rfl⟩ := List.mem_map.mp hmem
  simpa using hloaded entry hentry

/-- **A text that is cut short is loaded.** -/
theorem load_of_cutShort (hdirs : library.config.grammarDirs = []) (hfiled : WellFiled library)
    (hcut : CutShort library text) : ∃ g, (library.load text).1 = .ok g := by
  obtain ⟨d, declared, parent, before, twin, rest, htext, hname, hparent, hline, hkept⟩ := hcut
  -- the load stops at the first grammar on the way that is kept
  obtain ⟨above, key, d', below, rfl, hkey, hloaded⟩ := exists_first_kept hkept
  have hchain : ∀ k ∈ (above ++ (key, d') :: below).map (·.1), k ∉ [nameKey declared] :=
    fun k hmem => mt List.mem_singleton.mp (hline.before_ne hdirs k hmem)
  rw [List.map_append, List.map_cons] at hchain
  rw [List.append_assoc, List.cons_append] at hline
  obtain ⟨fuel, hroom⟩ := hline.room_split hdirs
  obtain ⟨base, hbase⟩ := resolve_kept_behind hdirs hfiled hline (frame_begun library)
    (fun k hmem => hchain k (List.mem_append_left _ hmem)) hloaded
    (hchain key (List.mem_append_right _ (List.mem_cons_self ..))) hkey fuel
  rw [load_fst htext hname hparent, hroom, hbase]
  exact ⟨_, rfl⟩

/-- With nothing kept, a text that is cut short is a circle. -/
theorem load_cleared_of_cutShort (hdirs : library.config.grammarDirs = [])
    (hfiled : WellFiled library) (hcut : CutShort library text) :
    ∃ names, (library.clear.load text).1 = .error (.inheritanceCycle names) := by
  obtain ⟨d, declared, parent, before, twin, rest, htext, hname, hparent, hline, -⟩ := hcut
  have hcircle : (library.clear.load text).1 = .error _ :=
    load_circle hdirs hfiled htext hname hparent ((frame_clear library).lineage hline)
      fun _ _ => rfl
  exact ⟨_, hcircle⟩

/-- A load that fails fails in the same way with nothing kept. -/
theorem load_error_cleared {e : GrammarError} (h : (library.load text).1 = .error e) :
    (library.clear.load text).1 = .error e := by
  have hbegin : Frame { library with problems := [] } { library.clear with problems := [] } :=
    ⟨rfl, rfl, rfl⟩
  rcases load_cases library text with ⟨e', hparse, hload⟩ | ⟨d, hparse, hload⟩
  · rw [load_of_error hparse]
    rw [hload] at h
    exact h
  · rw [load_of_ok hparse]
    rw [hload] at h
    exact build_error_of_frame hbegin rfl
      (fun _ _ _ _ hframe hloaded h => resolve_error_of_frame hframe hloaded h) h

/-- A text that is loaded although its name comes again is cut short. -/
theorem cutShort_of_mem {line : List (String × Definition)} {g : Grammar}
    (hdirs : library.config.grammarDirs = []) (hfiled : WellFiled library)
    (htext : Definition.parse? text = some d) (hname : d.declaredName? = some declared)
    (hparent : d.parent = some parent) (hline : Lineage library parent line)
    (hmem : nameKey declared ∈ line.map (·.1)) (h : (library.load text).1 = .ok g) :
    CutShort library text := by
  obtain ⟨⟨key, twin⟩, hentry, hkey⟩ := List.mem_map.mp hmem
  obtain rfl : key = nameKey declared := hkey
  obtain ⟨before, rest, rfl⟩ := List.append_of_mem hentry
  refine ⟨d, declared, parent, before, twin, rest, htext, hname, hparent, hline, ?_⟩
  -- else the load would have come by the name
  refine Classical.byContradiction fun hkept => ?_
  have hloaded : ∀ k ∈ before.map (·.1), library.loaded.find? k = none := fun k hk =>
    Option.not_isSome_iff_eq_none.mp fun hsome => hkept ⟨k, hk, hsome⟩
  rw [load_circle hdirs hfiled htext hname hparent hline hloaded] at h
  exact absurd h (by simp)

/-- With nothing kept, a text whose name does not come again is laid over its parent's line. -/
theorem load_of_line {line : List (String × Definition)} (hempty : library.loaded = [])
    (hdirs : library.config.grammarDirs = []) (hfiled : WellFiled library)
    (htext : Definition.parse? text = some d) (hname : d.declaredName? = some declared)
    (hparent : d.parent = some parent) (hline : Lineage library parent line)
    (hnew : nameKey declared ∉ line.map (·.1)) :
    (library.load text).1 = .ok (d.applyTo declared (layered library.config.limits line)).1 := by
  have hchain : ∀ k ∈ line.map (·.1), k ∉ [nameKey declared] := by
    intro k hmem hk
    rw [List.mem_singleton.mp hk] at hmem
    exact hnew hmem
  rw [load_fst htext hname hparent,
    resolve_of_lineage hdirs hfiled hline (frame_begun library) hempty (hline.length_le_room hdirs)
      hchain]
  rfl

/-- **Where no text is cut short, what is kept does not show.** -/
theorem Kept.load_eq_cleared (h : Kept library) (hdirs : library.config.grammarDirs = [])
    (hfiled : WellFiled library) (hwhole : ¬ CutShort library text) :
    (library.load text).1 = (library.clear.load text).1 := by
  rcases hresult : (library.load text).1 with e | g
  · exact (load_error_cleared hresult).symm
  · rcases load_cases library text with ⟨e, -, hload⟩ | ⟨d, hparse, hload⟩
    · rw [hload] at hresult
      exact absurd hresult (by simp)
    have htext := parse_eq_ok_iff.mp hparse
    obtain ⟨declared, hname, -, hcase⟩ := build_ok (by rw [← hload]; exact hresult)
    rcases hcase with ⟨hparent, hg⟩ | ⟨parent, base, after, hparent, hg, hbase, -⟩
    · rw [load_of_ok hparse, build_fst hname List.not_mem_nil, hparent, hg]
      rfl
    · obtain ⟨line, hline, rfl⟩ :=
        resolve_line (h.traced.frame (frame_begun library) rfl) (congrArg Prod.fst hbase)
      have hline := (frame_begun library).symm.lineage hline
      -- the text is not cut short, so its name does not come again in the line of its parent
      have hnew : nameKey declared ∉ line.map (·.1) := fun hmem =>
        hwhole (cutShort_of_mem hdirs hfiled htext hname hparent hline hmem hresult)
      have hcleared : (library.clear.load text).1 = .ok (d.applyTo declared _).1 :=
        load_of_line rfl hdirs hfiled htext hname hparent
          ((frame_clear library).lineage hline) hnew
      rw [hcleared, hg]
      rfl

end Circle

/-- **What is kept shows at texts that are cut short, and nowhere else.**  After any calls, a text
    is loaded as if nothing were kept, unless its name comes again behind a grammar that is kept:
    then it is loaded, though with nothing kept it is a circle. -/
theorem load_eq_cleared_or_cutShort {config : Config} (hdirs : config.grammarDirs = [])
    (files : FileSystem) {calls : List Call}
    (hfiled : WellFiled (run { config := config, files := files } calls)) (text : String) :
    let library := run { config := config, files := files } calls
    (¬ CutShort library text → (library.load text).1 = (library.clear.load text).1) ∧
      (CutShort library text → (∃ g, (library.load text).1 = .ok g) ∧
        ∃ names, (library.clear.load text).1 = .error (.inheritanceCycle names)) := by
  intro library
  have hdirs' : library.config.grammarDirs = [] := by rw [run_config]; exact hdirs
  have hkept : Kept library := run_kept (kept_of_empty rfl) hdirs calls
  exact ⟨hkept.load_eq_cleared hdirs' hfiled, fun hcut => ⟨load_of_cutShort hdirs' hfiled hcut,
    load_cleared_of_cutShort hdirs' hfiled hcut⟩⟩

/-- The text of a parent, with its child for its own parent: with the child kept it is cut short. -/
theorem load_eq_cleared_or_cutShort_parent :
    let calls : List Call := [.register "base" "name='base'", .register "c" "name='c'\nuse='base'",
      .loadNamed "c"]
    let library := run { config := {}, files := {} } calls
    (({} : Config).grammarDirs = [] ∧ WellFiled library) ∧
      CutShort library "name='base'\nuse='c'" := by
  intro calls library
  have hdirs : ({} : Config).grammarDirs = [] := rfl
  have hnamed : ∀ call ∈ calls, call.WellNamed := by decide +kernel
  have hfiled : WellFiled library := (run_inOrder (inOrder_empty hdirs {}) hnamed).filed
  refine ⟨⟨hdirs, hfiled⟩, Classical.byContradiction fun hwhole => ?_⟩
  have hsame := (load_eq_cleared_or_cutShort hdirs {} hfiled "name='base'\nuse='c'").1 hwhole
  have hdiffer : (library.load "name='base'\nuse='c'").1.toOption.isSome
      ≠ (library.clear.load "name='base'\nuse='c'").1.toOption.isSome := by decide +kernel
  exact hdiffer (by rw [hsame])

/-- The same text is a grammar where the child has been loaded, and a circle where it has not. -/
theorem load_ne_cleared :
    let calls : List Call := [.register "base" "name='base'", .register "c" "name='c'\nuse='base'",
      .loadNamed "c"]
    let library := run { config := {}, files := {} } calls
    library.config.grammarDirs = [] ∧ WellFiled library ∧
      (∃ g, (library.load "name='base'\nuse='c'").1 = .ok g) ∧
      (library.clear.load "name='base'\nuse='c'").1
        = .error (.inheritanceCycle ["base", "c", "base"]) := by
  intro calls library
  have hnamed : ∀ call ∈ calls, call.WellNamed := by decide +kernel
  have hfiled : WellFiled library := (run_inOrder (inOrder_empty rfl {}) hnamed).filed
  have hloaded : ∃ g, (library.load "name='base'\nuse='c'").1 = .ok g :=
    exists_eq_ok_of_isSome (by decide +kernel)
  have hcircle : (library.clear.load "name='base'\nuse='c'").1
      = .error (.inheritanceCycle ["base", "c", "base"]) :=
    errorOf?_eq_some_iff.mp (by decide +kernel)
  exact ⟨by decide +kernel, hfiled, hloaded, hcircle⟩

end GrammarLibrary

end Highlight
