/-
  What a library keeps never shows.

  1. **Fresh libraries** — `fresh` has the same definitions and keeps nothing.  A load that fails
     fails there in the same way, for finding a grammar kept only helps (`resolve_error_of_frame`).
     A name that has a line is loaded there (`resolve_of_lineage`): keys do not come twice in a
     line, so no circle is seen, and there are no more keys than definitions, so the fuel suffices.

  2. **Runs** — a run is a list of calls.  Every call keeps a library `InOrder`: there are no
     directories, definitions declare the names they are filed under, and it is `Kept`.

  3. **Transparency** — so at the end of a run every name is loaded as in a fresh library.  What is
     kept comes from lines that still stand, and the fresh library goes the whole line instead.

  Each call has its own step lemma for each of the three invariants; the runs put them together by
  induction (`run_inOrder`).

  Main result: `loadNamed_eq_fresh`.
-/
import Highlight.Proofs.Library.Eviction

namespace Highlight

namespace GrammarLibrary

/-! ## Fresh libraries

  In a library that keeps nothing every load goes the whole line.  Both directions are needed: what
  is loaded somewhere has a line and is loaded here, and what fails somewhere fails here in the same
  way. -/

/-- A library with the same definitions that keeps nothing. -/
def fresh (library : GrammarLibrary) : GrammarLibrary :=
  { config := library.config, files := library.files, sources := library.sources }

theorem frame_fresh (library : GrammarLibrary) : Frame library library.fresh := ⟨rfl, rfl, rfl⟩

/-- Loads change neither the number of definitions nor the files, so the room stays. -/
theorem Frame.room {a b : GrammarLibrary} (h : Frame a b) : b.room = a.room := by
  unfold GrammarLibrary.room
  rw [h.files, h.sources]

/-- What making a grammar says, without the library after it. -/
theorem build_fst {parentOf : List String → String → GrammarLibrary → Outcome}
    {chain : List String} {d : Definition} {declared : String} {library : GrammarLibrary}
    (hname : d.declaredName? = some declared) (hchain : nameKey declared ∉ chain) :
    (build parentOf chain d library).1 =
      (match d.parent with
        | none => Except.ok (Grammar.plain declared library.config.limits)
        | some parent => (parentOf (chain ++ [nameKey declared]) parent
            { library with parsed := library.parsed + 1 }).1).map
        fun base => (d.applyTo declared base).1 := by
  have hderive : ∀ outcome : Outcome, (derive d declared outcome).1
      = outcome.1.map fun base => (d.applyTo declared base).1 := by
    rintro ⟨result, library⟩
    cases result with
    | error e => rfl
    | ok base => rfl
  unfold build
  simp only [hname, if_neg hchain, hderive]
  cases d.parent with
  | none => rfl
  | some parent => rfl

/-- Keeping a grammar does not change it. -/
theorem keep_fst (key : String) (outcome : Outcome) : (keep key outcome).1 = outcome.1 := by
  obtain ⟨result, library⟩ := outcome
  cases result with
  | error e => rfl
  | ok g => rfl

/-- Where a name is not kept, loading it is making the grammar of what is found. -/
theorem resolve_fst {less : Nat} {chain : List String} {name : String} {library : GrammarLibrary}
    {d : Definition} (hchain : nameKey name ∉ chain)
    (hloaded : library.loaded.find? (nameKey name) = none)
    (hfind : library.find name = .ok d) :
    (resolve (less + 1) chain name library).1 = (build (resolve less) chain d library).1 := by
  unfold resolve
  rw [if_neg hchain, hloaded, hfind]
  exact keep_fst ..

/-- Making a grammar fails in the same way where loading its parent does. -/
theorem build_error_of_frame {parentOf : List String → String → GrammarLibrary → Outcome}
    {chain : List String} {d : Definition} {a b : GrammarLibrary} {e : GrammarError}
    (hframe : Frame a b) (hloaded : b.loaded = [])
    (hparentOf : ∀ chain parent a b, Frame a b → b.loaded = [] →
      (parentOf chain parent a).1 = .error e → (parentOf chain parent b).1 = .error e)
    (h : (build parentOf chain d a).1 = .error e) :
    (build parentOf chain d b).1 = .error e := by
  cases hname : d.declaredName? with
  | none =>
    simp only [build, hname] at h ⊢
    exact h
  | some declared =>
    by_cases hchain : nameKey declared ∈ chain
    · simp only [build, hname, if_pos hchain] at h ⊢
      exact h
    · -- from here on only loading the parent can fail
      rw [build_fst hname hchain] at h ⊢
      cases hparent : d.parent with
      | none =>
        rw [hparent] at h
        exact absurd h (by simp [Except.map])
      | some parent =>
        rw [hparent] at h
        simp only at h ⊢
        have hcount : Frame { a with parsed := a.parsed + 1 } { b with parsed := b.parsed + 1 } :=
          ⟨hframe.config, hframe.files, hframe.sources⟩
        rcases hbase : (parentOf (chain ++ [nameKey declared]) parent
          { a with parsed := a.parsed + 1 }).1 with e' | base
        · rw [hbase] at h
          obtain rfl := Except.error.inj h
          rw [hparentOf _ _ _ _ hcount hloaded hbase]
          rfl
        · rw [hbase] at h
          exact absurd h (by simp [Except.map])

/-- **A load that fails fails in the same way where nothing is kept.** -/
theorem resolve_error_of_frame {fuel : Nat} {chain : List String} {name : String}
    {a b : GrammarLibrary} {e : GrammarError} (hframe : Frame a b) (hloaded : b.loaded = [])
    (h : (resolve fuel chain name a).1 = .error e) : (resolve fuel chain name b).1 = .error e := by
  induction fuel generalizing chain name a b with
  | zero => exact h
  | succ less ih =>
    unfold resolve at h ⊢
    by_cases hchain : nameKey name ∈ chain
    · rw [if_pos hchain] at h ⊢
      exact h
    · rw [if_neg hchain] at h ⊢
      rw [hloaded, Dict.find?_nil, hframe.find]
      cases hkept : a.loaded.find? (nameKey name) with
      | some g =>
        -- a grammar that is kept is no failure
        rw [hkept] at h
        exact absurd h (by simp)
      | none =>
        rw [hkept] at h
        cases hfind : a.find name with
        | error e' =>
          rw [hfind] at h
          exact h
        | ok d =>
          rw [hfind] at h
          simp only [keep_fst] at h ⊢
          exact build_error_of_frame hframe hloaded (fun _ _ _ _ => ih) h

/-- Definitions declare the names under which they are filed. -/
def WellFiled (library : GrammarLibrary) : Prop :=
  ∀ key d, library.registered? key = some d →
    ∀ declared ∈ d.declaredName?, nameKey declared = key

/-- **One step down a line**: a definition that is not kept is laid over what its parent gives. -/
theorem resolve_step {library b : GrammarLibrary} (hdirs : library.config.grammarDirs = [])
    (hfiled : WellFiled library) (hframe : Frame library b) {less : Nat} {chain : List String}
    {name : String} {d : Definition} (hfind : library.find name = .ok d)
    (hname : d.declaredName?.isSome) (hnew : nameKey name ∉ chain)
    (hloaded : b.loaded.find? (nameKey name) = none) :
    (resolve (less + 1) chain name b).1 =
      (match d.parent with
        | none => Except.ok (Grammar.plain (d.declaredName?.getD "") library.config.limits)
        | some parent => (resolve less (chain ++ [nameKey name]) parent
            { b with parsed := b.parsed + 1 }).1).map
        fun base => (d.applyTo (d.declaredName?.getD "") base).1 := by
  obtain ⟨declared, hdeclared⟩ := Option.isSome_iff_exists.mp hname
  have hkey := hfiled _ d ((find_eq_ok_iff hdirs).mp hfind) declared hdeclared
  rw [resolve_fst hnew hloaded ((hframe.find name).trans hfind),
    build_fst hdeclared (by rw [hkey]; exact hnew), hkey, hdeclared, hframe.config]
  rfl

/-- The keys behind the first are not in the chain that the first has joined. -/
theorem not_mem_chain_behind {chain keys : List String} {key : String} (hfirst : key ∉ keys)
    (hchain : ∀ k ∈ key :: keys, k ∉ chain) : ∀ k ∈ keys, k ∉ chain ++ [key] := by
  intro k hmem
  rw [List.mem_append, List.mem_singleton]
  rintro (hold | rfl)
  · exact hchain k (List.mem_cons_of_mem _ hmem) hold
  · exact hfirst hmem

/-- **A name that has a line is loaded where nothing is kept.** -/
theorem resolve_of_lineage {library : GrammarLibrary} (hdirs : library.config.grammarDirs = [])
    (hfiled : WellFiled library) {name : String} {line : List (String × Definition)}
    (hline : Lineage library name line) {fuel : Nat} {chain : List String} {b : GrammarLibrary}
    (hframe : Frame library b) (hloaded : b.loaded = []) (hfuel : line.length ≤ fuel)
    (hchain : ∀ key ∈ line.map (·.1), key ∉ chain) :
    (resolve fuel chain name b).1 = .ok (layered library.config.limits line) := by
  have hnodup := hline.nodup hdirs
  have hnone : ∀ key, b.loaded.find? key = none := fun key => by rw [hloaded]; rfl
  -- along the line; the chain has the keys passed so far, none of which comes again
  induction hline generalizing fuel chain b with
  | @root name d hfind hname hparent =>
    have hnew : nameKey name ∉ chain := hchain _ (List.mem_cons_self ..)
    cases fuel with
    | zero => exact absurd hfuel (by simp)
    | succ less =>
      rw [resolve_step hdirs hfiled hframe hfind hname hnew (hnone _), hparent]
      exact congrArg Except.ok (applyTo_plain ..)
  | @derived name parent d line hfind hname hparent hline ih =>
    have hnew : nameKey name ∉ chain := hchain _ (List.mem_cons_self ..)
    obtain ⟨hfirst, hrest⟩ := List.nodup_cons.mp hnodup
    cases fuel with
    | zero => exact absurd hfuel (by simp)
    | succ less =>
      have hbase := ih (b := { b with parsed := b.parsed + 1 })
        ⟨hframe.config, hframe.files, hframe.sources⟩ hloaded (Nat.le_of_succ_le_succ hfuel)
        (not_mem_chain_behind hfirst hchain) hrest hnone
      rw [resolve_step hdirs hfiled hframe hfind hname hnew (hnone _), hparent]
      simp only [hbase]
      rfl

/-- There is room for every line. -/
theorem Lineage.length_le_room {library : GrammarLibrary} (hdirs : library.config.grammarDirs = [])
    {name : String} {line : List (String × Definition)} (h : Lineage library name line) :
    line.length ≤ library.room := by
  have hfound : ∀ key ∈ line.map (·.1), (library.sources.find? key).isSome := by
    intro key hkey
    obtain ⟨name', line', rfl, hline', -⟩ := h.behind hkey
    cases hline' with
    | root hfind => exact isSome_of_registered ((find_eq_ok_iff hdirs).mp hfind)
    | derived hfind => exact isSome_of_registered ((find_eq_ok_iff hdirs).mp hfind)
  have hlen := Dict.length_le_of_find? (h.nodup hdirs) hfound
  rw [List.length_map] at hlen
  unfold room
  omega

/-! ## Runs

  What has to be known of a library at the end of a run is an invariant of the calls, failed ones
  included. -/

/-- What can happen to a library. -/
inductive Call where
  | register (name text : String)
  | forget (name : String)
  | clear
  | load (text : String)
  | loadFile (path : String)
  | loadNamed (name : String)
  /-- The files are no longer the same. -/
  | filesChange (files : FileSystem)

namespace Call

/-- The library after a call, whether the call succeeds or not. -/
def perform (library : GrammarLibrary) : Call → GrammarLibrary
  | register name text => library.register name text
  | forget name => library.forget name
  | clear => library.clear
  | load text => (library.load text).2
  | loadFile path => (library.loadFile path).2
  | loadNamed name => (library.loadNamed name).2
  | filesChange files => { library with files := files }

/-- A text that is registered, if it is a definition with a name, declares the name under which it
    is registered. -/
def WellNamed : Call → Prop
  | register name text => ∀ declared ∈ (Definition.parse? text).bind (·.declaredName?),
      nameKey declared = nameKey name
  | _ => True

instance (call : Call) : Decidable call.WellNamed :=
  match call with
  | register name text => inferInstanceAs (Decidable (∀ declared ∈
      (Definition.parse? text).bind (·.declaredName?), nameKey declared = nameKey name))
  | forget _ | clear | load _ | loadFile _ | loadNamed _ | filesChange _ =>
    inferInstanceAs (Decidable True)

end Call

/-- The library after some calls. -/
def run (library : GrammarLibrary) (calls : List Call) : GrammarLibrary :=
  calls.foldl Call.perform library

/-- A library without directories whose definitions are filed under their names, and that keeps
    nothing but what they make. -/
structure InOrder (library : GrammarLibrary) : Prop where
  dirs : library.config.grammarDirs = []
  filed : WellFiled library
  kept : Kept library

theorem Frame.registered? {a b : GrammarLibrary} (h : Frame a b) (key : String) :
    b.registered? key = a.registered? key :=
  registered?_congr (by rw [h.sources])

/-- Whether definitions are filed under the names they declare depends on the sources only. -/
theorem WellFiled.frame {a b : GrammarLibrary} (h : WellFiled a) (hframe : Frame a b) :
    WellFiled b := by
  intro key d hfind
  rw [hframe.registered?] at hfind
  exact h key d hfind

/-- A load from a text leaves definitions, files and configuration alone. -/
theorem load_frame (library : GrammarLibrary) (text : String) :
    Frame library (library.load text).2 := by
  have hbegin : Frame library { library with problems := [] } := ⟨rfl, rfl, rfl⟩
  rcases load_cases library text with ⟨e, -, hload⟩ | ⟨d, -, hload⟩
  · rw [hload]
    exact hbegin
  · rw [hload]
    exact hbegin.trans (build_frame (resolve_frame _))

theorem loadNamed_frame (library : GrammarLibrary) (name : String) :
    Frame library (library.loadNamed name).2 :=
  Frame.trans (b := { library with problems := [] }) ⟨rfl, rfl, rfl⟩ (resolve_frame ..)

theorem loadFile_frame (library : GrammarLibrary) (path : String) :
    Frame library (library.loadFile path).2 := by
  unfold loadFile
  split
  · exact load_frame library _
  · exact .refl _

/-- Registering a definition under the name that it declares keeps the library well filed. -/
theorem register_wellFiled {library : GrammarLibrary} (h : WellFiled library) {name text : String}
    (hnamed : (Call.register name text).WellNamed) : WellFiled (library.register name text) := by
  intro key d hfind declared hdeclared
  by_cases hkey : nameKey name = key
  · rw [← hkey, registered?_register_self] at hfind
    rw [← hkey]
    refine hnamed declared ?_
    rw [hfind]
    exact hdeclared
  · rw [register, registered?_registerSource_of_ne _ _ hkey] at hfind
    exact h key d hfind declared hdeclared

/-- Forgetting a definition cannot misfile another one. -/
theorem forget_wellFiled {library : GrammarLibrary} (h : WellFiled library) (name : String) :
    WellFiled (library.forget name) := by
  intro key d hfind declared hdeclared
  by_cases hkey : nameKey name = key
  · rw [← hkey, registered?_forget_self] at hfind
    exact absurd hfind (by simp)
  · rw [registered?_forget_of_ne _ _ hkey] at hfind
    exact h key d hfind declared hdeclared

/-- No call changes the configuration. -/
theorem perform_config (library : GrammarLibrary) (call : Call) :
    (call.perform library).config = library.config := by
  cases call with
  | load text => exact (load_frame library text).config
  | loadFile path => exact (loadFile_frame library path).config
  | loadNamed name => exact (loadNamed_frame library name).config
  | _ => rfl

/-- **No call spoils what is kept**, under whatever names definitions are filed. -/
theorem perform_kept {library : GrammarLibrary} (h : Kept library)
    (hdirs : library.config.grammarDirs = []) (call : Call) : Kept (call.perform library) := by
  cases call with
  | register name text => exact registerSource_kept h hdirs ..
  | forget name => exact forget_kept h hdirs name
  | clear => exact kept_of_empty rfl
  | load text => exact load_kept h hdirs text
  | loadFile path => exact loadFile_kept h hdirs path
  | loadNamed name => exact loadNamed_kept h hdirs name
  | filesChange files =>
    -- without directories a definition is never looked for among the files
    have hdirs' : (Call.perform library (.filesChange files)).config.grammarDirs = [] := hdirs
    refine ⟨?_, h.parents⟩
    intro name g hkept
    obtain ⟨line, hline, hg⟩ := h.traced name g hkept
    refine ⟨line, hline.congr fun n _ => ?_, hg⟩
    rw [find_of_noDirs hdirs, find_of_noDirs hdirs']
    rfl

/-- **Every call leaves a library in order.** -/
theorem perform_inOrder {library : GrammarLibrary} (h : InOrder library) {call : Call}
    (hnamed : call.WellNamed) : InOrder (call.perform library) := by
  have hdirs : (call.perform library).config.grammarDirs = [] := by
    rw [perform_config]
    exact h.dirs
  refine ⟨hdirs, ?_, perform_kept h.kept h.dirs call⟩
  cases call with
  | register name text => exact register_wellFiled h.filed hnamed
  | forget name => exact forget_wellFiled h.filed name
  | clear => exact h.filed
  | load text => exact h.filed.frame (load_frame library text)
  | loadFile path => exact h.filed.frame (loadFile_frame library path)
  | loadNamed name => exact h.filed.frame (loadNamed_frame library name)
  | filesChange files => exact h.filed

/-- A run of calls that name definitions well keeps a library in order, by induction on the
    calls. -/
theorem run_inOrder {library : GrammarLibrary} (h : InOrder library) {calls : List Call}
    (hnamed : ∀ call ∈ calls, call.WellNamed) : InOrder (run library calls) := by
  induction calls generalizing library with
  | nil => exact h
  | cons call calls ih =>
    have hfirst := perform_inOrder h (hnamed call (List.mem_cons_self ..))
    exact ih hfirst fun c hc => hnamed c (List.mem_cons_of_mem _ hc)

theorem run_config (library : GrammarLibrary) (calls : List Call) :
    (run library calls).config = library.config := by
  induction calls generalizing library with
  | nil => rfl
  | cons call calls ih => exact (ih _).trans (perform_config library call)

/-- What a library keeps stays in order with its parents, even if definitions are misnamed. -/
theorem run_kept {library : GrammarLibrary} (h : Kept library)
    (hdirs : library.config.grammarDirs = []) (calls : List Call) : Kept (run library calls) := by
  induction calls generalizing library with
  | nil => exact h
  | cons call calls ih =>
    have hdirs' : (call.perform library).config.grammarDirs = [] := by
      rw [perform_config]
      exact hdirs
    exact ih (perform_kept h hdirs call) hdirs'

/-- A library with no definitions and nothing kept is in order. -/
theorem inOrder_empty {config : Config} (hdirs : config.grammarDirs = []) (files : FileSystem) :
    InOrder { config := config, files := files } :=
  ⟨hdirs, fun _ _ hfind => absurd hfind (by simp [registered?]), kept_of_empty rfl⟩

/-! ## Transparency

  A load succeeds here and there, or fails here and there; in the first case the grammars come from
  the one line of the name. -/

/-- A library in order loads every name as a fresh one does. -/
theorem InOrder.loadNamed_eq {library : GrammarLibrary} (h : InOrder library) (name : String) :
    (library.loadNamed name).1 = (library.fresh.loadNamed name).1 := by
  have hbegin : Frame library { library with problems := [] } := ⟨rfl, rfl, rfl⟩
  have hfresh : Frame library { library.fresh with problems := [] } := ⟨rfl, rfl, rfl⟩
  have hroom : library.fresh.room = library.room := (frame_fresh library).room
  unfold loadNamed
  rw [hroom]
  rcases hresult : (resolve library.room [] name { library with problems := [] }).1 with e | g
  · exact (resolve_error_of_frame (hbegin.symm.trans hfresh) rfl hresult).symm
  · obtain ⟨line, hline, rfl⟩ := resolve_line (h.kept.traced.frame hbegin rfl) hresult
    have hline := hbegin.symm.lineage hline
    exact (resolve_of_lineage h.dirs h.filed hline hfresh rfl (hline.length_le_room h.dirs)
      fun _ _ => List.not_mem_nil).symm

/-- **What is kept never shows**: after any calls, failed ones included, a name is loaded as if
    only the definitions that are registered now had ever been there. -/
theorem loadNamed_eq_fresh {config : Config} (hdirs : config.grammarDirs = []) (files : FileSystem)
    {calls : List Call} (hnamed : ∀ call ∈ calls, call.WellNamed) (name : String) :
    ((run { config := config, files := files } calls).loadNamed name).1
      = ((run { config := config, files := files } calls).fresh.loadNamed name).1 :=
  (run_inOrder (inOrder_empty hdirs files) hnamed).loadNamed_eq name

/-- A parent that is registered anew, behind a child that was loaded before: the child is loaded
    from the new definition. -/
theorem loadNamed_eq_fresh_newParent :
    let calls : List Call := [.register "Base" "name='base'", .register "c" "name='C'\nuse='base'",
      .loadNamed "c", .load "name='base'\nuse='c'", .register " BASE " "name='Base'\nstyle='x'"]
    (({} : Config).grammarDirs = [] ∧ ∀ call ∈ calls, call.WellNamed) ∧
      ((run { config := {}, files := {} } calls).loadNamed "C").1
        = ((run { config := {}, files := {} } calls).fresh.loadNamed "C").1 := by
  intro calls
  have hdirs : ({} : Config).grammarDirs = [] := rfl
  have hnamed : ∀ call ∈ calls, call.WellNamed := by decide +kernel
  exact ⟨⟨hdirs, hnamed⟩, loadNamed_eq_fresh hdirs {} hnamed "C"⟩

end GrammarLibrary

end Highlight
