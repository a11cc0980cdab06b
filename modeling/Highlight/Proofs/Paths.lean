/-
  The parts of a path, as a list of characters splits.

  `Path.parts` walks through the bytes of a text, by positions that need not be valid.  At a valid
  one there are three texts: the parts that are done, the part that has been begun, and the rest.
-/
import Mathlib.Data.String.Basic
import Highlight.Path

namespace Highlight

namespace Path

open String

/-- The walk, from a valid position on: `done` has been split already, `begun` is the beginning of
    the part at hand, and `rest` is still to come. -/
theorem splitOnAux_slash (done begun rest : List Char) (found : List String) :
    splitOnAux (ofList (done ++ begun ++ rest)) "/" ⟨utf8Len done⟩ ⟨utf8Len done + utf8Len begun⟩ 0
        found
      = found.reverse ++ (List.splitOnPPrepend (· == '/') rest begun.reverse).map ofList := by
  -- what the separator looks like to a walk over its bytes
  have hget : Pos.Raw.get "/" 0 = '/' := by decide +kernel
  have hnext : Pos.Raw.next "/" 0 = ⟨1⟩ := by decide +kernel
  have hstart : Pos.Raw.atEnd "/" 0 = false := by decide +kernel
  have hend : Pos.Raw.atEnd "/" ⟨1⟩ = true := by decide +kernel
  have hback : ∀ p : Pos.Raw, p.unoffsetBy 0 = p := fun p => rfl
  induction rest generalizing done begun found with
  | nil =>
    have hat : Pos.Raw.atEnd (ofList (done ++ begun ++ [])) ⟨utf8Len done + utf8Len begun⟩
        = true := by
      rw [← utf8Len_append]
      simpa using atEnd_of_valid (done ++ begun) []
    rw [splitOnAux.eq_def, if_pos hat]
    simpa [hstart] using extract_of_valid done begun []
  | cons c rest ih =>
    -- the walk stands in front of `c`, behind what has been split and what has been begun
    have hat : ¬ Pos.Raw.atEnd (ofList (done ++ begun ++ c :: rest))
        ⟨utf8Len done + utf8Len begun⟩ = true := by
      rw [← utf8Len_append]
      simpa using atEnd_of_valid (done ++ begun) (c :: rest)
    have hc : Pos.Raw.get (ofList (done ++ begun ++ c :: rest)) ⟨utf8Len done + utf8Len begun⟩
        = c := by
      rw [← utf8Len_append]
      exact get_of_valid (done ++ begun) (c :: rest)
    have hpast : Pos.Raw.next (ofList (done ++ begun ++ c :: rest))
        ⟨utf8Len done + utf8Len begun⟩ = ⟨utf8Len done + utf8Len begun + c.utf8Size⟩ := by
      rw [← utf8Len_append]
      exact next_of_valid (done ++ begun) c rest
    have hpart : Pos.Raw.extract (ofList (done ++ begun ++ c :: rest)) ⟨utf8Len done⟩
        ⟨utf8Len done + utf8Len begun⟩ = ofList begun := extract_of_valid done begun (c :: rest)
    rw [splitOnAux.eq_def]
    simp only [if_neg hat, hget, hback, hnext, hend, hc, hpast, if_true]
    rw [List.splitOnPPrepend_cons_eq_if]
    split
    · rename_i hslash
      -- the part at hand ends in front of the separator, and the next one begins behind it
      obtain rfl := beq_iff_eq.mp hslash
      have hsize : Char.utf8Size '/' = 1 := by decide +kernel
      have hbefore : Pos.Raw.unoffsetBy ⟨utf8Len done + utf8Len begun + Char.utf8Size '/'⟩ ⟨1⟩
          = ⟨utf8Len done + utf8Len begun⟩ := by
        rw [hsize]
        rfl
      rw [hbefore, hpart]
      simpa [Nat.add_assoc] using ih (done ++ begun ++ ['/']) [] (ofList begun :: found)
    · rename_i hother
      simpa [Nat.add_assoc, hother] using ih done (begun ++ [c]) found

/-- **A path has the parts into which its characters split.** -/
theorem parts_eq (path : String) : parts path = (path.toList.splitOn '/').map ofList := by
  have hwalk := splitOnAux_slash [] [] path.toList []
  rw [List.nil_append, List.nil_append, ofList_toList] at hwalk
  have hsep : ("/" == "") = false := by decide +kernel
  unfold parts splitOn
  rw [hsep]
  exact hwalk

end Path

end Highlight
