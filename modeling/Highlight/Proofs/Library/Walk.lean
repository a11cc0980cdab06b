/-
  The way along parents, as far as a load has gone.

  A line of definitions ends at one without a parent.  Before it comes there, or where it never
  does, a load has passed some definitions and stands at a name.

  1. **Walks** — a `Walk` lists the definitions passed and says which name has come next.  What it
     passes is registered (`Walk.registered`), and a line that begins with these definitions is the
     walk and then the line of this name (`Lineage.walk`).

  2. **Loading along a walk** — a load that meets no key of its chain on the way, and nothing that
     is kept, comes to the name and lays what it passes over what it finds there.

  Main result: **`resolve_walk`**.
-/
import Mathlib.Data.List.Induction
import Highlight.Proofs.Library.Transparency

namespace Highlight

namespace GrammarLibrary

/-! ## Walks -/

/-- The way along parents from a name: the definitions passed, each under the key by which it was
    asked for, and the name that the last of them gives for its parent. -/
inductive Walk (library : GrammarLibrary) (name : String) :
    List (String × Definition) → String → Prop
  | start : Walk library name [] name
  | step {steps : List (String × Definition)} {last parent : String} {d : Definition}
      (hwalk : Walk library name steps last)
      (hsource : library.registered? (nameKey last) = some d)
      (hname : d.declaredName?.isSome) (hparent : d.parent = some parent) :
      Walk library name (steps ++ [(nameKey last, d)]) parent

section Walk

variable {library : GrammarLibrary} {name last : String} {steps line : List (String × Definition)}

/-- What has been passed is registered. -/
theorem Walk.registered (h : Walk library name steps last) :
    ∀ entry ∈ steps, library.registered? entry.1 = some entry.2 ∧
      entry.2.declaredName?.isSome := by
  induction h with
  | start => exact fun _ hmem => absurd hmem List.not_mem_nil
  | step _ hsource hname _ ih =>
    intro entry hmem
    rcases List.mem_append.mp hmem with hmem | hmem
    · exact ih entry hmem
    · obtain rfl := List.mem_singleton.mp hmem
      exact ⟨hsource, hname⟩

/-- A walk leads up to the line of the name that it has come to. -/
theorem Walk.lineage (hdirs : library.config.grammarDirs = []) (h : Walk library name steps last)
    (hline : Lineage library last line) : Lineage library name (steps ++ line) := by
  induction h generalizing line with
  | start => exact hline
  | step _ hsource hname hparent ih =>
    rw [List.append_assoc]
    exact ih (.derived ((find_eq_ok_iff hdirs).mpr hsource) hname hparent hline)

/-- And a line is a walk to any of its definitions, and the line from there on. -/
theorem Lineage.walk (hdirs : library.config.grammarDirs = [])
    (h : Lineage library name (steps ++ line)) (hline : line ≠ []) :
    ∃ last, Walk library name steps last ∧ Lineage library last line := by
  induction steps using List.reverseRecOn generalizing line with
  | nil => exact ⟨name, .start, h⟩
  | append_singleton steps entry ih =>
    obtain ⟨key, d⟩ := entry
    rw [List.append_assoc] at h
    obtain ⟨last, hwalk, hlast⟩ := ih h (List.cons_ne_nil _ _)
    obtain ⟨rfl, hfind, hname, hbehind⟩ := hlast.uncons
    rcases hbehind with hnil | ⟨parent, hparent, hbehind⟩
    · exact absurd hnil hline
    · exact ⟨parent, hwalk.step ((find_eq_ok_iff hdirs).mp hfind) hname hparent, hbehind⟩

end Walk

/-! ## Loading along a walk -/

/-- **A load goes along a walk** on which it meets no key twice and nothing that is kept, and lays
    what it passes over what it comes to. -/
theorem resolve_walk {library : GrammarLibrary} (hdirs : library.config.grammarDirs = [])
    (hfiled : WellFiled library) {name last : String} {steps : List (String × Definition)}
    (hwalk : Walk library name steps last) (hnodup : (steps.map (·.1)).Nodup) {chain : List String}
    {b : GrammarLibrary} (hframe : Frame library b) (hchain : ∀ k ∈ steps.map (·.1), k ∉ chain)
    (hloaded : ∀ k ∈ steps.map (·.1), b.loaded.find? k = none) (fuel : Nat) :
    ∃ below f, Frame library below ∧ below.loaded = b.loaded ∧
      (resolve (steps.length + fuel) chain name b).1
        = (resolve fuel (chain ++ steps.map (·.1)) last below).1.map f := by
  induction hwalk generalizing fuel with
  | start =>
    refine ⟨b, id, hframe, rfl, ?_⟩
    simp [Except.map_id]
  | @step steps last parent d _ hsource hname hparent ih =>
    rw [List.map_append, List.nodup_append] at hnodup
    rw [List.map_append] at hchain hloaded
    obtain ⟨hbefore, -, hnew⟩ := hnodup
    have hhere : nameKey last ∈ steps.map (·.1) ++ [(nameKey last, d)].map (·.1) :=
      List.mem_append_right _ (List.mem_singleton.mpr rfl)
    have hlast : nameKey last ∉ chain ++ steps.map (·.1) := by
      rw [List.mem_append, not_or]
      exact ⟨hchain _ hhere, fun hmem => hnew _ hmem _ (List.mem_singleton.mpr rfl) rfl⟩
    obtain ⟨below, f, hframe', hloaded', hload⟩ := ih hbefore
      (fun k hk => hchain k (List.mem_append_left _ hk))
      (fun k hk => hloaded k (List.mem_append_left _ hk)) (fuel + 1)
    -- the name come to is read as well, and the load goes on with its parent
    have hstep : (resolve (fuel + 1) (chain ++ steps.map (·.1)) last below).1 = _ :=
      resolve_step hdirs hfiled hframe' ((find_eq_ok_iff hdirs).mpr hsource) hname hlast
        (by rw [hloaded']; exact hloaded _ hhere)
    rw [hparent] at hstep
    refine ⟨{ below with parsed := below.parsed + 1 },
      fun base => f (d.applyTo (d.declaredName?.getD "") base).1,
      ⟨hframe'.config, hframe'.files, hframe'.sources⟩, hloaded', ?_⟩
    have hlength : (steps ++ [(nameKey last, d)]).length + fuel = steps.length + (fuel + 1) := by
      rw [List.length_append, List.length_singleton]
      omega
    rw [hlength, hload, hstep, List.map_append, ← List.append_assoc]
    simp only [List.map_cons, List.map_nil]
    cases (resolve fuel (chain ++ steps.map (·.1) ++ [nameKey last]) parent
      { below with parsed := below.parsed + 1 }).1 with
    | error e => rfl
    | ok base => rfl

end GrammarLibrary

end Highlight
