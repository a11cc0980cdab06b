/-
  What a load by name comes to where nothing is kept.

  From a name one can follow the parents without loading anything: from the definition that is
  registered under its key to the one its parent names, and so on.  There are only so many
  definitions, so this comes to a definition without a parent, or to an obstacle.  The load says
  which, and the obstacle that it names is the first one.

  1. **Ends of walks** — a walk `Arrives` at a definition without a parent, or it `Stops` at an
     `Obstacle`.  That it has not stopped before means that no key has been passed twice.

  2. **Loading to the end of a walk** — a load goes along a walk that passes no key twice: so it
     succeeds where the walk arrives (`load_of_arrives`), and fails at the obstacle where it stops
     (`load_of_stops`).

  3. **Every walk ends** — it can be one step longer, or it has come to its end
     (`arrives_or_stops_or_longer`), and it cannot be longer than there are definitions.

  Main result: **`loadNamed_verdict`**.
-/
import Highlight.Proofs.Library.Merge
import Highlight.Proofs.Library.Walk

namespace Highlight

namespace GrammarLibrary

/-! ## Ends of walks -/

/-- A walk comes to a definition without a parent; `line` are all definitions on it. -/
inductive Arrives (library : GrammarLibrary) (name : String) : List (String × Definition) → Prop
  | root {steps : List (String × Definition)} {last : String} {d : Definition}
      (hwalk : Walk library name steps last)
      (hsource : library.registered? (nameKey last) = some d)
      (hname : d.declaredName?.isSome) (hparent : d.parent = none) :
      Arrives library name (steps ++ [(nameKey last, d)])

/-- What is in the way at a name, after some keys have been passed. -/
inductive Obstacle (library : GrammarLibrary) (passed : List String) (name : String) :
    GrammarError → Prop
  | missing (hsource : library.sources.find? (nameKey name) = none) :
      Obstacle library passed name (.notFound name)
  | malformed {text : String} (hsource : library.sources.find? (nameKey name) = some (.text text))
      (hparse : Definition.parse? text = none) :
      Obstacle library passed name (@GrammarError.malformed text)
  | nameless {d : Definition} (hsource : library.registered? (nameKey name) = some d)
      (hname : d.declaredName? = none) : Obstacle library passed name .missingName
  | circle (hpassed : nameKey name ∈ passed) :
      Obstacle library passed name (.inheritanceCycle (passed ++ [nameKey name]))

/-- A walk comes to an obstacle, for the first time. -/
def Stops (library : GrammarLibrary) (name : String) (e : GrammarError) : Prop :=
  ∃ steps last, Walk library name steps last ∧ (steps.map (·.1)).Nodup ∧
    Obstacle library (steps.map (·.1)) last e

variable {library : GrammarLibrary} {name : String}

/-- A walk is not longer than there are definitions, if it passes no key twice. -/
theorem Walk.length_le {steps : List (String × Definition)} {last : String}
    (h : Walk library name steps last) (hnodup : (steps.map (·.1)).Nodup) :
    steps.length ≤ library.sources.length := by
  have hfound : ∀ key ∈ steps.map (·.1), (library.sources.find? key).isSome := by
    intro key hkey
    obtain ⟨entry, hmem, rfl⟩ := List.mem_map.mp hkey
    exact isSome_of_registered (h.registered entry hmem).1
  have hlen := Dict.length_le_of_find? hnodup hfound
  rwa [List.length_map] at hlen

/-- A walk that arrives has gone along a line. -/
theorem Arrives.lineage (hdirs : library.config.grammarDirs = [])
    {line : List (String × Definition)} (h : Arrives library name line) :
    Lineage library name line := by
  cases h with
  | root hwalk hsource hname hparent =>
    exact hwalk.lineage hdirs (.root ((find_eq_ok_iff hdirs).mpr hsource) hname hparent)

/-! ## Loading to the end of a walk -/

section Loading

variable (hdirs : library.config.grammarDirs = []) (hfiled : WellFiled library)

include hdirs hfiled

omit hfiled in
/-- An obstacle ends a load. -/
theorem resolve_obstacle {steps : List (String × Definition)} {last : String} {e : GrammarError}
    (hwalk : Walk library name steps last) (hobstacle : Obstacle library (steps.map (·.1)) last e)
    {b : GrammarLibrary} (hframe : Frame library b) (hloaded : b.loaded = []) (fuel : Nat) :
    (resolve (fuel + 1) (steps.map (·.1)) last b).1 = .error e := by
  -- a key that has been passed has a definition with a name
  have hnew : (∀ d, library.registered? (nameKey last) = some d →
      d.declaredName? = none) → nameKey last ∉ steps.map (·.1) := by
    intro hnone hmem
    obtain ⟨entry, hentry, hkey⟩ := List.mem_map.mp hmem
    obtain ⟨hsource, hname⟩ := hwalk.registered entry hentry
    rw [hnone entry.2 (hkey ▸ hsource)] at hname
    exact absurd hname (by simp)
  have hnone : b.loaded.find? (nameKey last) = none := by rw [hloaded]; rfl
  cases hobstacle with
  | missing hsource =>
    have hfound : b.find last = .error (.notFound last) := by
      rw [hframe.find, find_of_noDirs hdirs, hsource]
    have hunregistered : library.registered? (nameKey last) = none := by
      rw [registered?, hsource]
      rfl
    rw [resolve, if_neg (hnew (by simp [hunregistered])), hnone, hfound]
  | @malformed text hsource hparse =>
    have hread : read (.text text) = .error (@GrammarError.malformed text) :=
      read_eq_error_iff.mpr ⟨text, rfl, hparse, rfl⟩
    have hfound := (hframe.find last).trans ((find_of_filed hsource).trans hread)
    have hunregistered := registered?_of_error hsource hread
    rw [resolve, if_neg (hnew (by simp [hunregistered])), hnone, hfound]
  | @nameless d hsource hname =>
    have hfound := (hframe.find last).trans (find_of_registered hsource)
    rw [resolve_fst (hnew (by simpa [hsource] using hname)) hnone hfound, build]
    simp only [hname]
  | circle hmem => rw [resolve, if_pos hmem]

theorem load_of_stops (hempty : library.loaded = []) {e : GrammarError}
    (h : Stops library name e) : (library.loadNamed name).1 = .error e := by
  obtain ⟨steps, last, hwalk, hnodup, hobstacle⟩ := h
  have hlen := hwalk.length_le hnodup
  have hroom : library.room = steps.length + (library.room - steps.length - 1 + 1) := by
    unfold room
    omega
  have hbegin : Frame library { library with problems := [] } := ⟨rfl, rfl, rfl⟩
  have hnone : ∀ k, library.loaded.find? k = none := fun k => by rw [hempty]; rfl
  obtain ⟨below, f, hframe, hloaded, hload⟩ := resolve_walk hdirs hfiled hwalk hnodup hbegin
    (fun _ _ => List.not_mem_nil) (fun k _ => hnone k) (library.room - steps.length - 1 + 1)
  rw [loadNamed, hroom, hload, List.nil_append,
    resolve_obstacle hdirs hwalk hobstacle hframe (hloaded.trans hempty)]
  rfl

theorem load_of_arrives (hempty : library.loaded = []) {line : List (String × Definition)}
    (h : Arrives library name line) :
    (library.loadNamed name).1
      = .ok (Definition.merged library.config.limits (line.map (·.2))) := by
  have hline := h.lineage hdirs
  have hbegin : Frame library { library with problems := [] } := ⟨rfl, rfl, rfl⟩
  rw [← Definition.layered_eq_merged]
  exact resolve_of_lineage hdirs hfiled hline hbegin hempty (hline.length_le_room hdirs)
    fun _ _ => List.not_mem_nil

end Loading

/-! ## Every walk ends -/

/-- At every name there is an obstacle, or a definition that a walk has not passed yet. -/
theorem obstacle_or_definition (library : GrammarLibrary) (passed : List String) (name : String) :
    (∃ e, Obstacle library passed name e) ∨ nameKey name ∉ passed ∧
      ∃ d, library.registered? (nameKey name) = some d ∧ d.declaredName?.isSome := by
  by_cases hpassed : nameKey name ∈ passed
  · exact .inl ⟨_, .circle hpassed⟩
  · cases hsource : library.sources.find? (nameKey name) with
    | none => exact .inl ⟨_, .missing hsource⟩
    | some source =>
      cases hread : read source with
      | error e =>
        obtain ⟨text, rfl, hparse, -⟩ := read_eq_error_iff.mp hread
        exact .inl ⟨_, .malformed hsource hparse⟩
      | ok d =>
        have hregistered : library.registered? (nameKey name) = some d :=
          registered?_eq_some_iff.mpr ⟨source, hsource, hread⟩
        cases hname : d.declaredName? with
        | none => exact .inl ⟨_, .nameless hregistered hname⟩
        | some declared => exact .inr ⟨hpassed, d, hregistered, by rw [hname]; rfl⟩

/-- A walk of any length that passes no key twice has come to its end, or goes on. -/
theorem arrives_or_stops_or_longer (library : GrammarLibrary) (name : String) (n : Nat) :
    ((∃ line, Arrives library name line) ∨ ∃ e, Stops library name e) ∨
      ∃ steps last, Walk library name steps last ∧ (steps.map (·.1)).Nodup ∧ steps.length = n := by
  induction n with
  | zero => exact .inr ⟨[], name, .start, List.nodup_nil, rfl⟩
  | succ n ih =>
    rcases ih with hend | ⟨steps, last, hwalk, hnodup, hlen⟩
    · exact .inl hend
    · rcases obstacle_or_definition library (steps.map (·.1)) last with
        ⟨e, hobstacle⟩ | ⟨hnew, d, hsource, hname⟩
      · exact .inl (.inr ⟨e, steps, last, hwalk, hnodup, hobstacle⟩)
      · -- nothing is in the way of one more step, so the walk arrives or is longer by a new key
        cases hparent : d.parent with
        | none => exact .inl (.inl ⟨_, .root hwalk hsource hname hparent⟩)
        | some parent =>
          have hnodup' : ((steps ++ [(nameKey last, d)]).map (·.1)).Nodup := by
            rw [List.map_append, List.nodup_append]
            refine ⟨hnodup, by simp, ?_⟩
            intro key hkey again hagain heq
            rw [heq, List.mem_singleton.mp hagain] at hkey
            exact hnew hkey
          have hlen' : (steps ++ [(nameKey last, d)]).length = n + 1 := by
            rw [List.length_append, hlen]
            rfl
          exact .inr ⟨_, parent, hwalk.step hsource hname hparent, hnodup', hlen'⟩

/-- **Every walk ends**: it would have to pass more keys than there are definitions. -/
theorem arrives_or_stops (library : GrammarLibrary) (name : String) :
    (∃ line, Arrives library name line) ∨ ∃ e, Stops library name e := by
  rcases arrives_or_stops_or_longer library name (library.sources.length + 1) with
    hend | ⟨steps, last, hwalk, hnodup, hlen⟩
  · exact hend
  · have hle := hwalk.length_le hnodup
    omega

/-! ## The verdict -/

/-- **A load by name is decided by the walk along parents.**  Where nothing is kept it succeeds
    exactly if the walk arrives at a definition without a parent, and otherwise it fails with the
    first obstacle of the walk.  A circle is told as the keys that were passed, no two of them the
    same, and then the one among them that the walk has come back to. -/
theorem loadNamed_verdict (hdirs : library.config.grammarDirs = []) (hfiled : WellFiled library)
    (hempty : library.loaded = []) (name : String) :
    (∀ g, (library.loadNamed name).1 = .ok g ↔ ∃ line, Arrives library name line ∧
        g = Definition.merged library.config.limits (line.map (·.2))) ∧
      (∀ e, (library.loadNamed name).1 = .error e ↔ Stops library name e) ∧
      ∀ keys, (library.loadNamed name).1 = .error (.inheritanceCycle keys) →
        ∃ passed again, keys = passed ++ [again] ∧ passed.Nodup ∧ again ∈ passed := by
  have hok : ∀ {line}, Arrives library name line → (library.loadNamed name).1
      = .ok (Definition.merged library.config.limits (line.map (·.2))) :=
    fun h => load_of_arrives hdirs hfiled hempty h
  have herror : ∀ {e}, Stops library name e → (library.loadNamed name).1 = .error e :=
    fun h => load_of_stops hdirs hfiled hempty h
  -- walks arrive or stop, and the load follows them either way; so what it comes to tells which
  have hoks : ∀ g, (library.loadNamed name).1 = .ok g ↔ ∃ line, Arrives library name line ∧
      g = Definition.merged library.config.limits (line.map (·.2)) := by
    intro g
    constructor
    · intro h
      rcases arrives_or_stops library name with ⟨line, hline⟩ | ⟨e, he⟩
      · exact ⟨line, hline, Except.ok.inj (h.symm.trans (hok hline))⟩
      · exact absurd (h.symm.trans (herror he)) (by simp)
    · rintro ⟨line, hline, rfl⟩
      exact hok hline
  have hstops : ∀ e, (library.loadNamed name).1 = .error e ↔ Stops library name e := by
    intro e
    constructor
    · intro h
      rcases arrives_or_stops library name with ⟨line, hline⟩ | ⟨e', he'⟩
      · exact absurd (h.symm.trans (hok hline)) (by simp)
      · rwa [Except.error.inj (h.symm.trans (herror he'))]
    · exact herror
  refine ⟨hoks, hstops, ?_⟩
  intro keys h
  obtain ⟨steps, last, -, hnodup, hobstacle⟩ := (hstops _).mp h
  cases hobstacle with
  | circle hmem => exact ⟨_, _, rfl, hnodup, hmem⟩

/-- Three definitions that go round, entered from a fourth: the way in belongs to the circle that
    is told. -/
theorem loadNamed_verdict_tail :
    let library := run { config := {}, files := {} } [.register "in" "name='In'\nuse=' A '",
      .register "a" "name='a'\nuse='b'", .register "b" "name='B'\nuse='c'",
      .register "c" "name='c'\nuse='A'"]
    (library.config.grammarDirs = [] ∧ WellFiled library ∧ library.loaded = []) ∧
      Stops library "in" (.inheritanceCycle ["in", "a", "b", "c", "a"]) := by
  intro library
  have hdirs : library.config.grammarDirs = [] := rfl
  have hempty : library.loaded = [] := rfl
  have hfiled : WellFiled library := by
    refine (run_inOrder (inOrder_empty rfl {}) ?_).filed
    decide +kernel
  refine ⟨⟨hdirs, hfiled, hempty⟩, ?_⟩
  have hcircle : (library.loadNamed "in").1
      = .error (.inheritanceCycle ["in", "a", "b", "c", "a"]) :=
    errorOf?_eq_some_iff.mp (by decide +kernel)
  exact ((loadNamed_verdict hdirs hfiled hempty "in").2.1 _).mp hcircle

end GrammarLibrary

end Highlight
