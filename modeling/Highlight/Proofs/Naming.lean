/-
  Names that differ in letter case only, or in the blanks around them.

  The key of a name is made by trimming it and then lowercasing what is left.  The order of the two
  does not matter, so names with the same lowercase form have the same key.

  1. **Blanks** — lowercasing leaves a blank as it is, makes none, and judges a capital sigma
     beside a blank as it does at the end of the text: blanks have no letter case, and they matter
     to it (`lower_blank`, `isBlank_of_mem_lower`).  The tables of the standard are compared with
     the ranges of the blanks for this.

  2. **Lowercasing a trimmed text** — so blanks at either end of a text can be dropped before it is
     lowercased or afterwards (`dropWhile_lowerFrom`, `rdropWhile_lowerFrom`).

  3. **ASCII letters** — texts that differ only in the case of ASCII letters have the same lowercase
     form (`lowerFrom_map_toLower`), and ASCII texts differ in nothing else if they have the same one.

  Main results: **`nameKey_eq_trim`**, `nameKey_congr`, `lowercase_of_sameButAsciiCase`.
-/
import Mathlib.Data.List.DropRight
import Highlight.Grammar
import Highlight.Name

namespace Highlight

/-! ## Blanks -/

namespace CharSet

/-- No code point lies in a range of either list. -/
def Apart (as bs : List (Nat × Nat)) : Prop := ∀ a ∈ as, ∀ b ∈ bs, a.2 < b.1 ∨ b.2 < a.1

instance (as bs : List (Nat × Nat)) : Decidable (Apart as bs) :=
  inferInstanceAs (Decidable (∀ a ∈ as, ∀ b ∈ bs, a.2 < b.1 ∨ b.2 < a.1))

/-- A code point that a list of ranges has lies in one of them. -/
theorem exists_of_hasCode {n : Nat} {rs : List (Nat × Nat)} (h : hasCode n rs) :
    ∃ r ∈ rs, r.1 ≤ n ∧ n ≤ r.2 := by
  induction rs with
  | nil => exact absurd h (by simp [hasCode])
  | cons r rs ih =>
    obtain ⟨lo, hi⟩ := r
    unfold hasCode at h
    split at h
    · exact absurd h (by simp)
    · rename_i hlo
      split at h
      · rename_i hhi
        exact ⟨(lo, hi), List.mem_cons_self .., Nat.le_of_not_lt hlo, hhi⟩
      · obtain ⟨r, hr, hn⟩ := ih h
        exact ⟨r, List.mem_cons_of_mem _ hr, hn⟩

/-- Of lists of ranges that are apart no code point is in both. -/
theorem Apart.hasCode_eq_false {as bs : List (Nat × Nat)} (h : Apart as bs) {n : Nat}
    (hn : hasCode n bs) : hasCode n as = false := by
  obtain ⟨b, hb, hlo, hhi⟩ := exists_of_hasCode hn
  refine Bool.eq_false_iff.mpr fun hn' => ?_
  obtain ⟨a, ha, hlo', hhi'⟩ := exists_of_hasCode hn'
  have hapart := h a ha b hb
  omega

end CharSet

namespace Unicode

theorem hasCode_of_isBlank {c : Char} (h : isBlank c) :
    CharSet.hasCode c.toNat whiteSpace.ranges := h

/-- Blanks are not cased. -/
theorem cased_apart : CharSet.Apart cased.ranges whiteSpace.ranges ∧
    CharSet.Apart recentCased.ranges whiteSpace.ranges := by
  simp only [cased, recentCased, CharSet.ofTable, List.flatMap_cons, List.flatMap_nil]
  repeat rw [String.toList_ofList]
  decide +kernel

/-- Blanks matter to case. -/
theorem caseIgnorable_apart : CharSet.Apart caseIgnorable.ranges whiteSpace.ranges ∧
    CharSet.Apart recentCaseIgnorable.ranges whiteSpace.ranges := by
  simp only [caseIgnorable, recentCaseIgnorable, CharSet.ofTable, List.flatMap_cons,
    List.flatMap_nil]
  repeat rw [String.toList_ofList]
  decide +kernel

/-- The lowercase table has no blank on either side. -/
theorem lowerRuns_apart : ∀ r ∈ lowerRuns,
    CharSet.Apart [(r.lo, r.hi), (r.target, r.target + (r.hi - r.lo))] whiteSpace.ranges := by
  simp only [lowerRuns, MapRun.ofTable, List.flatMap_cons, List.flatMap_nil]
  -- the characters of the table as a list, which is quicker to read than its bytes
  repeat rw [String.toList_ofList]
  decide +kernel

/-- Where the table sends a code point, if it covers it. -/
theorem exists_of_lookup? {n m : Nat} (h : MapRun.lookup? lowerRuns n = some m) :
    ∃ r ∈ lowerRuns, r.lo ≤ n ∧ n ≤ r.hi ∧ m = r.target + (n - r.lo) := by
  obtain ⟨r, hr, himage⟩ := List.exists_of_findSome?_eq_some h
  unfold MapRun.image? at himage
  split at himage
  · rename_i hn
    exact ⟨r, hr, hn.1, hn.2.1, (Option.some.inj himage).symm⟩
  · exact absurd himage (by simp)

/-- No blank has a lowercase form of its own. -/
theorem lookup?_eq_none {n : Nat} (h : CharSet.hasCode n whiteSpace.ranges) :
    MapRun.lookup? lowerRuns n = none := by
  refine Option.eq_none_iff_forall_ne_some.mpr fun m hm => ?_
  obtain ⟨r, hr, hlo, hhi, -⟩ := exists_of_lookup? hm
  obtain ⟨b, hb, hlo', hhi'⟩ := CharSet.exists_of_hasCode h
  have hapart := lowerRuns_apart r hr (r.lo, r.hi) (by simp) b hb
  simp only at hapart
  omega

/-- And none is the lowercase form of anything. -/
theorem lookup?_not_blank {n m : Nat} (h : MapRun.lookup? lowerRuns n = some m) :
    CharSet.hasCode m whiteSpace.ranges = false := by
  obtain ⟨r, hr, hlo, hhi, rfl⟩ := exists_of_lookup? h
  refine Bool.eq_false_iff.mpr fun hm => ?_
  obtain ⟨b, hb, hlo', hhi'⟩ := CharSet.exists_of_hasCode hm
  have hapart := lowerRuns_apart r hr (r.target, r.target + (r.hi - r.lo)) (by simp) b hb
  simp only at hapart
  omega

/-- Lowercasing an ASCII character neither makes nor unmakes a blank. -/
theorem ascii_blank : ∀ n < 0x80, isBlank (Char.ofNat n).toLower = isBlank (Char.ofNat n) ∧
    (isBlank (Char.ofNat n) → (Char.ofNat n).toLower = Char.ofNat n) := by decide +kernel

/-- **A blank is its own lowercase form.** -/
theorem lower_blank {c : Char} (h : isBlank c) : lower c = [c] := by
  unfold lower
  split
  · rename_i hascii
    have hsame := (ascii_blank c.toNat hascii).2
    rw [Char.ofNat_toNat] at hsame
    rw [hsame h]
  · split
    · rename_i hdotted
      rw [isBlank, CharSet.contains, hdotted] at h
      exact absurd h (by decide)
    · rw [lookup?_eq_none (hasCode_of_isBlank h)]
      rfl

/-- A code point that stands for no character stands for the first one. -/
theorem toNat_ofNat (n : Nat) : (Char.ofNat n).toNat = n ∨ (Char.ofNat n).toNat = 0 := by
  by_cases h : n.isValidChar
  · left
    rw [Char.ofNat, dif_pos h]
    rfl
  · right
    rw [Char.ofNat, dif_neg h]
    rfl

/-- **Lowercasing makes no blank.** -/
theorem isBlank_of_mem_lower {c c' : Char} (h : ¬isBlank c) (hmem : c' ∈ lower c) :
    ¬isBlank c' := by
  unfold lower at hmem
  split at hmem
  · rename_i hascii
    have hsame := (ascii_blank c.toNat hascii).1
    rw [Char.ofNat_toNat] at hsame
    rw [List.mem_singleton.mp hmem, hsame]
    exact h
  · split at hmem
    · rcases List.mem_cons.mp hmem with rfl | hmem
      · decide
      · rw [List.mem_singleton.mp hmem]
        decide
    · obtain rfl := List.mem_singleton.mp hmem
      -- what the tables map to is no blank; what they leave alone was none
      cases hlookup : MapRun.lookup? lowerRuns c.toNat with
      | none => exact h
      | some m =>
        have hm := lookup?_not_blank hlookup
        show ¬CharSet.hasCode (Char.ofNat m).toNat whiteSpace.ranges
        rcases toNat_ofNat m with heq | heq
        · rw [heq, hm]
          exact Bool.false_ne_true
        · rw [heq]
          decide

/-- Lowercasing a character leaves something of it. -/
theorem lower_ne_nil (c : Char) : lower c ≠ [] := by
  unfold lower
  split
  · simp
  · split <;> simp

/-- A blank ends a word, as the end of the text does. -/
theorem casedAhead_blank {c : Char} (h : isBlank c) (cs : List Char) :
    casedAhead (c :: cs) = false := by
  have hcode := hasCode_of_isBlank h
  have hignorable : isCaseIgnorable c = false := by
    rw [isCaseIgnorable, CharSet.contains, CharSet.contains,
      caseIgnorable_apart.1.hasCode_eq_false hcode, caseIgnorable_apart.2.hasCode_eq_false hcode]
    rfl
  have hcased : isCased c = false := by
    rw [isCased, CharSet.contains, CharSet.contains, cased_apart.1.hasCode_eq_false hcode,
      cased_apart.2.hasCode_eq_false hcode]
    rfl
  rw [casedAhead, hignorable, hcased]
  rfl

/-! ## Lowercasing a trimmed text -/

/-- The lowercase form of a character between others. -/
def lowerAt (before : List Char) (c : Char) (after : List Char) : List Char :=
  if c.toNat = 0x3A3 then
    [Char.ofNat (if casedAhead before && !casedAhead after then 0x3C2 else 0x3C3)]
  else lower c

theorem lowerFrom_cons (before : List Char) (c : Char) (cs : List Char) :
    lowerFrom before (c :: cs) = lowerAt before c cs ++ lowerFrom (c :: before) cs := rfl

/-- How a character is lowercased depends on its neighbours only as far as there is a cased one
    ahead, on either side. -/
theorem lowerAt_congr {before before' after after' : List Char} (c : Char)
    (hbefore : casedAhead before = casedAhead before')
    (hafter : casedAhead after = casedAhead after') :
    lowerAt before c after = lowerAt before' c after' := by
  unfold lowerAt
  rw [hbefore, hafter]

theorem lowerAt_blank {c : Char} (h : isBlank c) (before after : List Char) :
    lowerAt before c after = [c] := by
  unfold lowerAt
  split
  · rename_i hsigma
    rw [isBlank, CharSet.contains, hsigma] at h
    exact absurd h (by decide)
  · exact lower_blank h

/-- What is no blank is lowercased to what is none, a capital sigma at the end included. -/
theorem isBlank_of_mem_lowerAt {before after : List Char} {c c' : Char} (h : ¬isBlank c)
    (hmem : c' ∈ lowerAt before c after) : ¬isBlank c' := by
  unfold lowerAt at hmem
  split at hmem
  · rw [List.mem_singleton.mp hmem]
    split <;> decide
  · exact isBlank_of_mem_lower h hmem

theorem lowerAt_ne_nil (before : List Char) (c : Char) (after : List Char) :
    lowerAt before c after ≠ [] := by
  unfold lowerAt
  split
  · simp
  · exact lower_ne_nil c

/-- Of what comes before a text it only matters whether it ends in a cased character. -/
theorem lowerFrom_congr {before before' : List Char} (h : casedAhead before = casedAhead before')
    (cs : List Char) : lowerFrom before cs = lowerFrom before' cs := by
  induction cs generalizing before before' with
  | nil => rfl
  | cons c cs ih =>
    have hnext : casedAhead (c :: before) = casedAhead (c :: before') := by
      rw [casedAhead, casedAhead, h]
    rw [lowerFrom_cons, lowerFrom_cons, lowerAt_congr c h rfl, ih hnext]

/-- Blanks at the beginning can be dropped before or afterwards. -/
theorem dropWhile_lowerFrom (cs : List Char) :
    (lowerFrom [] cs).dropWhile isBlank = lowerFrom [] (cs.dropWhile isBlank) := by
  induction cs with
  | nil => rfl
  | cons c cs ih =>
    by_cases hc : isBlank c
    · have hnext : lowerFrom [c] cs = lowerFrom [] cs := lowerFrom_congr (casedAhead_blank hc []) cs
      rw [lowerFrom_cons, lowerAt_blank hc, hnext, List.singleton_append,
        List.dropWhile_cons_of_pos hc, List.dropWhile_cons_of_pos hc, ih]
    · rw [List.dropWhile_cons_of_neg hc, lowerFrom_cons]
      have hne := lowerAt_ne_nil [] c cs
      have hblank : ∀ c' ∈ lowerAt [] c cs, ¬isBlank c' := fun _ => isBlank_of_mem_lowerAt hc
      cases hlower : lowerAt [] c cs with
      | nil => exact absurd hlower hne
      | cons c' rest =>
        rw [hlower] at hblank
        rw [List.cons_append, List.dropWhile_cons_of_neg (hblank c' (List.mem_cons_self ..))]

/-- A blank at the far end matters to no character before it. -/
theorem casedAhead_append_blank {c : Char} (h : isBlank c) (cs : List Char) :
    casedAhead (cs ++ [c]) = casedAhead cs := by
  induction cs with
  | nil => exact casedAhead_blank h []
  | cons c' cs ih => rw [List.cons_append, casedAhead, casedAhead, ih]

/-- A blank at the end stays there. -/
theorem lowerFrom_append_blank {c : Char} (h : isBlank c) (before cs : List Char) :
    lowerFrom before (cs ++ [c]) = lowerFrom before cs ++ [c] := by
  induction cs generalizing before with
  | nil => rw [List.nil_append, lowerFrom_cons, lowerAt_blank h]; rfl
  | cons c' cs ih =>
    rw [List.cons_append, lowerFrom_cons, lowerFrom_cons, ih,
      lowerAt_congr c' rfl (casedAhead_append_blank h cs), List.append_assoc]

/-- The lowercase form of the last character comes last. -/
theorem exists_lowerFrom_append (c : Char) (before cs : List Char) :
    ∃ front around, lowerFrom before (cs ++ [c]) = front ++ lowerAt around c [] := by
  induction cs generalizing before with
  | nil => exact ⟨[], before, by rw [List.nil_append, lowerFrom_cons]; exact List.append_nil _⟩
  | cons c' cs ih =>
    obtain ⟨front, around, hrest⟩ := ih (c' :: before)
    refine ⟨lowerAt before c' (cs ++ [c]) ++ front, around, ?_⟩
    rw [List.cons_append, lowerFrom_cons, hrest, List.append_assoc]

/-- Blanks at the end can be dropped before or afterwards. -/
theorem rdropWhile_lowerFrom (before cs : List Char) :
    (lowerFrom before cs).rdropWhile isBlank = lowerFrom before (cs.rdropWhile isBlank) := by
  induction cs using List.reverseRecOn with
  | nil => rfl
  | append_singleton cs c ih =>
    by_cases hc : isBlank c
    · rw [lowerFrom_append_blank hc, List.rdropWhile_concat_pos _ _ _ hc,
        List.rdropWhile_concat_pos _ _ _ hc, ih]
    · rw [List.rdropWhile_concat_neg _ _ _ hc, List.rdropWhile_eq_self_iff]
      obtain ⟨front, around, hlower⟩ := exists_lowerFrom_append c before cs
      have hne := lowerAt_ne_nil around c []
      rw [hlower]
      intro hl
      rw [List.getLast_append_of_ne_nil _ hne]
      exact isBlank_of_mem_lowerAt hc (List.getLast_mem hne)

/-! ## ASCII letters -/

/-- An ASCII letter is cased or not, and matters to case or not, whichever case it is in. -/
theorem ascii_case : ∀ n < 0x80, isCased (Char.ofNat n).toLower = isCased (Char.ofNat n) ∧
    isCaseIgnorable (Char.ofNat n).toLower = isCaseIgnorable (Char.ofNat n) ∧
    (Char.ofNat n).toLower.toLower = (Char.ofNat n).toLower ∧
    (Char.ofNat n).toLower.toNat < 0x80 := by
  simp only [isCased, isCaseIgnorable, cased, recentCased, caseIgnorable, recentCaseIgnorable,
    CharSet.ofTable, List.flatMap_cons, List.flatMap_nil]
  repeat rw [String.toList_ofList]
  decide +kernel

/-- Only ASCII letters have another case in ASCII. -/
theorem toLower_of_not_ascii {c : Char} (h : ¬ c.toNat < 0x80) : c.toLower = c := by
  unfold Char.toLower
  refine dif_neg fun hletter => h ?_
  have hz : c.toNat ≤ 'Z'.toNat := UInt32.le_iff_toNat_le.mp hletter.2
  have hcode : 'Z'.toNat = 90 := by decide
  omega

/-- A capital ASCII letter is cased as its small one is. -/
theorem isCased_toLower (c : Char) : isCased c.toLower = isCased c := by
  by_cases hascii : c.toNat < 0x80
  · have hcase := (ascii_case c.toNat hascii).1
    rwa [Char.ofNat_toNat] at hcase
  · rw [toLower_of_not_ascii hascii]

theorem isCaseIgnorable_toLower (c : Char) : isCaseIgnorable c.toLower = isCaseIgnorable c := by
  by_cases hascii : c.toNat < 0x80
  · have hcase := (ascii_case c.toNat hascii).2.1
    rwa [Char.ofNat_toNat] at hcase
  · rw [toLower_of_not_ascii hascii]

/-- Lowercasing ASCII is lowercasing its letters. -/
theorem lower_ascii {c : Char} (h : c.toNat < 0x80) : lower c = [c.toLower] := by
  rw [lower, if_pos h]

/-- Lowercasing the letters of ASCII first makes no difference. -/
theorem lower_toLower (c : Char) : lower c.toLower = lower c := by
  by_cases hascii : c.toNat < 0x80
  · obtain ⟨-, -, hagain, hstays⟩ := ascii_case c.toNat hascii
    rw [Char.ofNat_toNat] at hagain hstays
    rw [lower_ascii hascii, lower_ascii hstays, hagain]
  · rw [toLower_of_not_ascii hascii]

/-- A sigma is no ASCII letter, and so comes from none. -/
theorem toLower_eq_sigma (c : Char) : c.toLower.toNat = 0x3A3 ↔ c.toNat = 0x3A3 := by
  by_cases hascii : c.toNat < 0x80
  · obtain ⟨-, -, -, hstays⟩ := ascii_case c.toNat hascii
    rw [Char.ofNat_toNat] at hstays
    omega
  · rw [toLower_of_not_ascii hascii]

theorem casedAhead_map_toLower (cs : List Char) :
    casedAhead (cs.map Char.toLower) = casedAhead cs := by
  induction cs with
  | nil => rfl
  | cons c cs ih =>
    rw [List.map_cons, casedAhead, casedAhead, ih, isCased_toLower, isCaseIgnorable_toLower]

/-- **Lowercasing ASCII letters first changes nothing.** -/
theorem lowerFrom_map_toLower (before cs : List Char) :
    lowerFrom before (cs.map Char.toLower) = lowerFrom before cs := by
  induction cs generalizing before with
  | nil => rfl
  | cons c cs ih =>
    have hnext : casedAhead (c.toLower :: before) = casedAhead (c :: before) := by
      rw [casedAhead, casedAhead, isCased_toLower, isCaseIgnorable_toLower]
    have hhere : lowerAt before c.toLower (cs.map Char.toLower) = lowerAt before c cs := by
      unfold lowerAt
      simp only [toLower_eq_sigma, casedAhead_map_toLower, lower_toLower]
    rw [List.map_cons, lowerFrom_cons, lowerFrom_cons, hhere, ih, lowerFrom_congr hnext]

/-- In an ASCII text nothing but these letters is lowercased. -/
theorem lowerFrom_ascii {cs : List Char} (h : ∀ c ∈ cs, c.toNat < 0x80) (before : List Char) :
    lowerFrom before cs = cs.map Char.toLower := by
  induction cs generalizing before with
  | nil => rfl
  | cons c cs ih =>
    obtain ⟨hc, hcs⟩ := List.forall_mem_cons.mp h
    have hsigma : c.toNat ≠ 0x3A3 := by omega
    rw [lowerFrom_cons, ih hcs, lowerAt, if_neg hsigma, lower_ascii hc]
    rfl

end Unicode

section Ascii

variable {a b : String}

/-- Texts that differ only in the case of ASCII letters have the same lowercase form. -/
theorem lowercase_of_sameButAsciiCase (h : Grammar.sameButAsciiCase a b = true) :
    Unicode.lowercase a = Unicode.lowercase b := by
  have hletters : a.toList.map Char.toLower = b.toList.map Char.toLower := of_decide_eq_true h
  unfold Unicode.lowercase
  rw [← Unicode.lowerFrom_map_toLower, hletters, Unicode.lowerFrom_map_toLower]

/-- ASCII texts with the same lowercase form differ only in the case of letters. -/
theorem sameButAsciiCase_of_lowercase (ha : ∀ c ∈ a.toList, c.toNat < 0x80)
    (hb : ∀ c ∈ b.toList, c.toNat < 0x80) (h : Unicode.lowercase a = Unicode.lowercase b) :
    Grammar.sameButAsciiCase a b = true := by
  unfold Unicode.lowercase at h
  rw [Unicode.lowerFrom_ascii ha, Unicode.lowerFrom_ascii hb] at h
  exact decide_eq_true (String.ofList_inj.mp h)

end Ascii

/-! ## Names -/

/-- Trimming drops the blanks at the front, and then those at the back. -/
theorem Text.trimChars_eq (t : Text) :
    trimChars t = (t.dropWhile Unicode.isBlank).rdropWhile Unicode.isBlank := rfl

/-- A trimmed text has no blanks to trim. -/
theorem Text.trim_trim (s : String) : trim (trim s) = trim s := by
  have hdrop : ((s.toList.dropWhile Unicode.isBlank).rdropWhile Unicode.isBlank).dropWhile
      Unicode.isBlank = (s.toList.dropWhile Unicode.isBlank).rdropWhile Unicode.isBlank := by
    -- what is left begins as it did before blanks were dropped at the end
    rw [List.dropWhile_eq_self_iff]
    intro hl
    have hfront := List.rdropWhile_prefix Unicode.isBlank (s.toList.dropWhile Unicode.isBlank)
    rw [hfront.getElem hl]
    exact List.dropWhile_get_zero_not _ _ _
  unfold trim
  rw [String.toList_ofList, trimChars_eq, trimChars_eq, hdrop, List.rdropWhile_idempotent]

/-- **A name may be lowercased before it is trimmed.** -/
theorem nameKey_eq_trim (name : String) : nameKey name = Text.trim (Unicode.lowercase name) := by
  unfold nameKey Text.trim Unicode.lowercase
  rw [String.toList_ofList, String.toList_ofList, Text.trimChars_eq, Text.trimChars_eq,
    Unicode.dropWhile_lowerFrom, Unicode.rdropWhile_lowerFrom]

/-- Names with the same lowercase form have the same key. -/
theorem nameKey_congr {a b : String} (h : Unicode.lowercase a = Unicode.lowercase b) :
    nameKey a = nameKey b := by
  rw [nameKey_eq_trim, nameKey_eq_trim, h]

/-- The key of a name without blanks around it is its lowercase form. -/
theorem nameKey_of_trim_eq {name : String} (h : Text.trim name = name) :
    nameKey name = Unicode.lowercase name := by
  rw [nameKey, h]

end Highlight
