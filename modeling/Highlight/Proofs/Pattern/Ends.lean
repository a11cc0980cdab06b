/-
  Patterns that match at the end of every text, and what a match begins with.

  Both are read off the expression of a pattern, by what it reads (`Pattern.findAt_reads` and
  `Pattern.findAt_of_reads`).  Where the end of the text is among its alternatives there is a match
  at or after every offset (`reachesEnd_of_anchored`); where it begins with a set of characters, so
  does what is matched (`Matches.head_mem`).
-/
import Highlight.Proofs.Pattern.Readings
import Highlight.Proofs.Scan.Hiding

namespace Highlight

open Text (Spot)

namespace Pattern

variable {p : Pattern} {source : String} {r : Regex}

/-- At or after every offset of every text there is a match. -/
def ReachesEnd (p : Pattern) : Prop := ∀ text pos, pos ≤ Text.size text → (p.findAt text pos).isSome

/-- **A pattern with the end of the text among its alternatives has a match at or after every offset
    of every text.** -/
theorem reachesEnd_of_anchored (hparse : Notation.parse source.toList = .ok r)
    (hend : .look .textEnd ∈ r.alternatives) (hcompile : compile source = .ok p) :
    p.ReachesEnd := by
  intro text pos hpos
  have hreads : r.Reads (⟨text, []⟩ : Spot) ⟨text, []⟩ :=
    Regex.reads_alternatives.mp ⟨.look .textEnd, hend, rfl, rfl⟩
  obtain ⟨start, stop, hfind, -⟩ :=
    findAt_of_reads (program_of_compile hparse hcompile) hreads hpos
  rw [Spot.text, List.append_nil] at hfind
  rw [hfind]
  rfl

/-- **What is matched begins with a character of the set that the pattern begins with.** -/
theorem Matches.head_mem {set : CharSet} {rest : Regex} {text before after : Text} {c : Char}
    {stop : Nat} (hparse : Notation.parse source.toList = .ok (.cat (.set set) rest))
    (hcompile : compile source = .ok p) (h : p.Matches text (before.size, stop))
    (htext : text = before ++ c :: after) : set.contains c = true := by
  obtain ⟨s, t, hs, hstart, -, u, ⟨c', hc', hpass⟩, -⟩ :=
    findAt_reads (program_of_compile hparse hcompile) h
  have hsame : s.before ++ s.after = before ++ c :: after := hs.trans htext
  have hbefore : s.before = before := Text.beginning_unique hsame hstart
  rw [hbefore, hpass.1] at hsame
  obtain ⟨rfl, -⟩ := List.cons.inj (List.append_cancel_left hsame)
  exact hc'

end Pattern

end Highlight
