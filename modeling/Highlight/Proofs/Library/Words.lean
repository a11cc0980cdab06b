/-
  Rules that list words.

  A declaration with a list of words gives a rule with a pattern that is made of them.  If the words
  consist of word characters, the rule finds just the runs of a line that are one of the words
  (`Pattern.OfWords.findAll`), wherever the declaration stands and whichever slot it goes to.

  Main result: `load_lists_words`.
-/
import Highlight.Proofs.Library.Faults
import Highlight.Proofs.Pattern.Words

namespace Highlight

open Toml
open Definition
open SlotDeclaration (slotAfter_last)
open Text (AllWord IsRun)

/-- A declaration lists some words, each of word characters only. -/
structure RuleDeclaration.Lists (d : RuleDeclaration) (words : List String) : Prop where
  unmatched : d.pattern = none
  listed : d.words = some (.array (words.map .string))
  nonempty : words ≠ []
  allWord : ∀ w ∈ words, w ≠ "" ∧ AllWord w.toList

/-- The rule of some words has the pattern that is made of them. -/
theorem RuleDeclaration.Lists.usableRule {d : RuleDeclaration} {words : List String} {p : Pattern}
    (h : d.Lists words) (hcompile : Pattern.compile (wordsPattern words) = .ok p) :
    usableRule d = some p := by
  have hwords : words? (.array (words.map .string)) = some words :=
    words?_eq_some_iff.mpr ⟨rfl, h.nonempty⟩
  have hsource : ¬(wordsPattern words).isEmpty := by
    simp [wordsPattern]
  rw [Definition.usableRule, h.unmatched, h.listed]
  simp only [Option.bind_some, hwords]
  rw [usableText, if_neg hsource, hcompile]
  rfl

namespace GrammarLibrary

/-- **Lists of words match whole words.**  Whatever document a rule is loaded from, and whichever
    slot it goes to: where the words consist of word characters, the rule finds in a line the maximal
    runs of word characters that are one of the words, and nothing else, from left to right. -/
theorem load_lists_words (config : Config) (files : FileSystem)
    (sources : Dict String (Source Definition)) (calls : List Call) {library : GrammarLibrary}
    (hrun : run { config, files, sources } calls = library) {request : Request} {d : Definition}
    {ds : List Definition} {base : Grammar} (hsource : request.source library = .ok d)
    (hunkept : ∀ name, request = .name name → library.loaded.find? (nameKey name) = none)
    (hreads : Reads library [] d ds base) {before after : List SlotDeclaration} {kind : RuleKind}
    {rule : RuleDeclaration} {id : StyleId} {words : List String} {p : Pattern}
    (hsplit : ds.reverse.flatMap (·.declarations) = before ++ .rule kind rule :: after)
    (htarget : (SlotDeclaration.rule kind rule).target config.limits = some id)
    (hlast : ∀ y ∈ after, y.target config.limits ≠ some id) (hwords : rule.Lists words)
    (hcompile : Pattern.compile (wordsPattern words) = .ok p) :
    ∃ g r, (request.load library).1 = .ok g ∧ g.slot? id = some (.rule r) ∧ ∀ line : Text,
      (∀ m, m ∈ r.findAll line ↔ ∃ w ∈ words, IsRun line w.toList m) ∧
        (r.findAll line).Pairwise fun m m' => m.2 < m'.1 := by
  obtain ⟨g, hload, -, hslots⟩ :=
    listed_of_reads config files sources calls hrun hsource hunkept hreads
  have hslot : g.slot? id = some (.rule ⟨some p, id⟩) := by
    rw [hslots, hsplit, slotAfter_last htarget hlast, SlotDeclaration.made,
      hwords.usableRule hcompile]
  have hprogram := Pattern.ofWords_of_compile hwords.nonempty hwords.allWord hcompile
  refine ⟨g, ⟨some p, id⟩, hload, hslot, fun line => ?_⟩
  obtain ⟨hmem, hpair⟩ := hprogram.findAll line
  refine ⟨fun m => (hmem m).trans ?_, hpair⟩
  simp only [List.mem_map, exists_exists_and_eq_and]

/-- Two words, the first of which begins the second. -/
theorem load_lists_words_prefix :
    let rule : RuleDeclaration :=
      { slot := some (.integer 3), words := some (.array [.string "do", .string "done"]) }
    let d : Definition := { name := some "c", keywords := [rule] }
    let library : GrammarLibrary := { config := {}, files := {}, sources := [("c", .value d)] }
    rule.Lists ["do", "done"] ∧
      ∃ g r, (Request.load library (.name "c")).1 = .ok g ∧
        g.slot? (.keyword 3) = some (.rule r) ∧ ∀ line : Text,
          (∀ m, m ∈ r.findAll line ↔ ∃ w ∈ ["do", "done"], IsRun line w.toList m) ∧
            (r.findAll line).Pairwise fun m m' => m.2 < m'.1 := by
  intro rule d library
  have hlists : rule.Lists ["do", "done"] := ⟨rfl, rfl, by decide, by decide +kernel⟩
  have hkey : nameKey "c" = "c" := by decide +kernel
  have hname : d.declaredName? = some "c" := by decide +kernel
  have hsource : Request.source library (.name "c") = .ok d := by
    show library.find "c" = _
    rw [find, findSource, hkey]
    rfl
  have hreads : Reads library [] d [d] (.plain "c" library.config.limits) :=
    .root hname List.not_mem_nil rfl
  have hsplit : [d].reverse.flatMap (·.declarations) = [] ++ .rule .keyword rule :: [] := rfl
  obtain ⟨p, hp⟩ : ∃ p, Pattern.compile (wordsPattern ["do", "done"]) = .ok p :=
    exists_eq_ok_of_isSome (by decide +kernel)
  exact ⟨hlists, load_lists_words {} {} [("c", .value d)] [] rfl hsource (fun _ _ => rfl) hreads
    hsplit rfl (fun _ h => absurd h List.not_mem_nil) hlists hp⟩

end GrammarLibrary

end Highlight
