/-
  Which colour a literal denotes, or which fault it has.

  1. **The grammar** — `Denotes` gives a trimmed text its colour or its fault.  The forms are told
     apart by the first character, and within a form the conditions of the rules exclude each
     other, so that a text denotes one thing (`Denotes.eq_parse`).

  2. **Reading** — what is read is what the text denotes; every text denotes something
     (`parse_eq_iff_denotes`).

  3. **Slices** — digits can be taken out of a text by their offsets in bytes.  This is safe where
     every character has been found to be a digit before: then no offset falls inside a character
     (`ofSlices_eq_ofHex`).

  Main result: `parse_denotes`.
-/
import Highlight.Proofs.Color.Digits
import Highlight.Proofs.Scan.Guarded

namespace Highlight

open List (Forall₂)

namespace Color

open Text (Trimmed tokens)

variable {s : String} {t d : Text} {color : Color} {r : Except ColorError Color}

/-! ## The grammar

  The rules of `Denotes` state for each form which texts are good and which fault the others have,
  so that faults have their precedence: a rule for a later fault asks that none of the earlier ones
  is there. -/

/-- A text that begins with `#`, and what follows on all the `#` it begins with. -/
structure Hashed (t d : Text) : Prop where
  hashes : ∃ n, t = List.replicate (n + 1) '#' ++ d
  rest : d.head? ≠ some '#'

/-- A text that begins with an ASCII digit. -/
def Numeric (t : Text) : Prop := ∃ c v, t.head? = some c ∧ DecimalDigit c v

/-- A text that begins with anything else. -/
def Worded (t : Text) : Prop := ∃ c, t.head? = some c ∧ c ≠ '#' ∧ ∀ v, ¬DecimalDigit c v

/-- A name as the palette has it: without blanks and with every character lowercased. -/
def bareName (t : Text) : Text := (t.filter (¬Unicode.isBlank ·)).flatMap Unicode.lower

/-- The colour that a text without blanks around it denotes as a literal, or its fault. -/
inductive Denotes : Text → Except ColorError Color → Prop
  | blank : Denotes [] (.error .empty)
  | hex {t d : Text} {color : Color} (ht : Hashed t d) (h : HexColor d color) :
      Denotes t (.ok color)
  | notHex {t d : Text} (ht : Hashed t d) (h : ∀ color, ¬HexColor d color) :
      Denotes t (.error (.invalidHex (String.ofList t)))
  | solid {t : Text} {r g b : UInt8} (ht : Numeric t) (h : Forall₂ Channel (tokens t) [r, g, b]) :
      Denotes t (.ok ⟨r, g, b, 255⟩)
  | withAlpha {t : Text} {r g b a : UInt8} (ht : Numeric t)
      (h : Forall₂ Channel (tokens t) [r, g, b, a]) : Denotes t (.ok ⟨r, g, b, a⟩)
  | notChannel {t bad : Text} {good rest : List Text} {bytes : List UInt8} (ht : Numeric t)
      (hsplit : tokens t = good ++ bad :: rest) (hgood : Forall₂ Channel good bytes)
      (hbad : ∀ byte, ¬Channel bad byte) :
      Denotes t (.error (.invalidChannel (String.ofList bad)))
  | miscounted {t : Text} {bytes : List UInt8} (ht : Numeric t)
      (h : Forall₂ Channel (tokens t) bytes) (h3 : bytes.length ≠ 3) (h4 : bytes.length ≠ 4) :
      Denotes t (.error (.channelCount bytes.length))
  | name {t : Text} {name : String} {color : Color} (ht : Worded t)
      (hname : name.toList = bareName t) (h : (name, color) ∈ palette) : Denotes t (.ok color)
  | unknown {t : Text} (ht : Worded t)
      (h : ∀ name color, (name, color) ∈ palette → name.toList ≠ bareName t) :
      Denotes t (.error (.unknownName (String.ofList t)))

/-- A text that is not empty begins in one of three ways. -/
theorem exists_form (h : t ≠ []) : (∃ d, Hashed t d) ∨ Numeric t ∨ Worded t := by
  obtain ⟨c, t, rfl⟩ := List.exists_cons_of_ne_nil h
  by_cases hhash : c = '#'
  · subst hhash
    refine .inl ⟨t.dropWhile (· = '#'), ⟨(t.takeWhile (· = '#')).length, ?_⟩, ?_⟩
    · have hall : ∀ b ∈ t.takeWhile (· = '#'), b = '#' := fun b hb => by
        simpa using List.mem_takeWhile_imp hb
      rw [List.replicate_succ, ← List.eq_replicate_iff.mpr ⟨rfl, hall⟩, List.cons_append,
        List.takeWhile_append_dropWhile]
    · intro hrest
      have hnot := List.head?_dropWhile_not (· = '#') t
      rw [hrest] at hnot
      simp at hnot
  · by_cases hdigit : ∃ v, DecimalDigit c v
    · obtain ⟨v, hv⟩ := hdigit
      exact .inr (.inl ⟨c, v, rfl, hv⟩)
    · exact .inr (.inr ⟨c, rfl, hhash, fun v hv => hdigit ⟨v, hv⟩⟩)

/-! ## Reading

  One lemma for each way a text may begin.  What the reader comes to there is one of the rules; that
  the rules exclude each other then needs no proof of its own, since the reader comes to one thing
  only. -/

/-- The reader looks at the trimmed text only. -/
theorem parse_of_trimmed {c : Char} (ht : Trimmed s.toList t) (hc : t.head? = some c) :
    parse s = if c = '#' then ofHex (String.ofList t)
      else if '0' ≤ c ∧ c ≤ '9' then ofChannels (String.ofList t)
      else ofName (String.ofList t) := by
  obtain rfl := Text.trimmed_iff.mp ht
  obtain ⟨rest, hrest⟩ := List.head?_eq_some_iff.mp hc
  rw [parse, Text.trim]
  simp only [String.toList_ofList, hrest]

theorem trim_of_trimmed (ht : Trimmed s.toList t) :
    Text.trim (String.ofList t) = String.ofList t := by
  obtain rfl := Text.trimmed_iff.mp ht
  exact Text.trim_trim s

/-- The reader leaves out all the `#` that a text begins with. -/
theorem dropWhile_hashes (h : Hashed t d) : t.dropWhile (· = '#') = d := by
  obtain ⟨⟨n, rfl⟩, hrest⟩ := h
  rw [List.dropWhile_append_of_pos fun c hc => by simpa using (List.mem_replicate.mp hc).2]
  cases d with
  | nil => rfl
  | cons c d => exact List.dropWhile_cons_of_neg (by simpa using hrest)

/-- A literal with `#` is read digit by digit, or has a fault. -/
theorem parse_hashed (ht : Trimmed s.toList t) (h : Hashed t d) :
    parse s = ((d.mapM CharSet.hexDigit?).bind ofHexDigits?).elim
      (.error (.invalidHex (String.ofList t))) .ok := by
  obtain ⟨n, hn⟩ := h.hashes
  have hc : t.head? = some '#' := by rw [hn]; rfl
  have hagain : Text.trimChars t = t := by
    have h := congrArg String.toList (trim_of_trimmed ht)
    rwa [Text.trim, String.toList_ofList, String.toList_ofList] at h
  rw [parse_of_trimmed ht hc, if_pos rfl, ofHex, String.toList_ofList, hagain, dropWhile_hashes h]
  cases (d.mapM CharSet.hexDigit?).bind ofHexDigits? <;> rfl

/-- A literal that begins with a digit is read as a list of channels. -/
theorem parse_numeric (ht : Trimmed s.toList t) (h : Numeric t) :
    parse s = ofChannels (String.ofList t) := by
  obtain ⟨c, v, hc, hv⟩ := h
  obtain ⟨hlo, hhi, -⟩ := decimalDigit_iff.mp hv
  have hhash : c ≠ '#' := by
    rintro rfl
    exact absurd hlo (by decide)
  rw [parse_of_trimmed ht hc, if_neg hhash, if_pos ⟨hlo, hhi⟩]

/-- Any other literal is looked up among the names. -/
theorem parse_worded (ht : Trimmed s.toList t) (h : Worded t) :
    parse s = (palette.lookup (String.ofList (bareName t))).elim
      (.error (.unknownName (String.ofList t))) .ok := by
  obtain ⟨c, hc, hhash, hdigit⟩ := h
  have hdigit' : ¬('0' ≤ c ∧ c ≤ '9') := fun h =>
    hdigit _ (decimalDigit_iff.mpr ⟨h.1, h.2, rfl⟩)
  have hkey : paletteKey (String.ofList t) = String.ofList (bareName t) := by
    simp [paletteKey, bareName]
  rw [parse_of_trimmed ht hc, if_neg hhash, if_neg hdigit', ofName, hkey, trim_of_trimmed ht]
  cases palette.lookup (String.ofList (bareName t)) <;> rfl

/-- No two colours of the palette have one name. -/
theorem palette_nodup : (palette.map Prod.fst).Nodup := by decide +kernel

/-- No name stands twice in the palette, so what is looked up is what is listed. -/
theorem lookup_palette {name : String} :
    palette.lookup name = some color ↔ (name, color) ∈ palette := by
  rw [List.lookup_eq_some_iff]
  constructor
  · rintro ⟨before, after, hsplit, -⟩
    simp [hsplit]
  · intro hmem
    obtain ⟨before, after, hsplit⟩ := List.append_of_mem hmem
    refine ⟨before, after, hsplit, fun p hp => bne_iff_ne.mpr fun hname => ?_⟩
    -- an entry in front of it with this name would be another one
    have hnodup := palette_nodup
    rw [hsplit, List.map_append, List.map_cons] at hnodup
    have hapart := (List.nodup_append.mp hnodup).2.2 p.1 (List.mem_map_of_mem hp) name
    exact hapart (List.mem_cons_self ..) hname.symm

theorem ofChannels_of_forall₂ {bytes : List UInt8} (h : Forall₂ Channel (tokens t) bytes) :
    channels (Text.words (String.ofList t).toList) = .ok bytes := by
  rw [String.toList_ofList, Text.words_eq_tokens, channels_eq_ok_iff]
  exact h

/-- **What a text denotes is what is read**, so it denotes one thing only. -/
theorem Denotes.eq_parse (ht : Trimmed s.toList t) (h : Denotes t r) : parse s = r := by
  cases h with
  | blank =>
    have hnil : Text.trim s = String.ofList [] := by
      rw [Text.trim, ← Text.trimmed_iff.mp ht]
    rw [parse, hnil, String.toList_ofList]
  | hex hhash h => rw [parse_hashed ht hhash, readHex_iff.mpr h, Option.elim_some]
  | notHex hhash h =>
    have hnone : _ = none := Option.eq_none_iff_forall_ne_some.mpr
      fun color hcolor => h color (readHex_iff.mp hcolor)
    rw [parse_hashed ht hhash, hnone, Option.elim_none]
  | solid hnum h => rw [parse_numeric ht hnum, ofChannels, ofChannels_of_forall₂ h]; rfl
  | withAlpha hnum h => rw [parse_numeric ht hnum, ofChannels, ofChannels_of_forall₂ h]
  | notChannel hnum hsplit hgood hbad =>
    have herror := channels_eq_error_iff.mpr ⟨_, _, _, _, hsplit, hgood, hbad, rfl⟩
    rw [parse_numeric ht hnum, ofChannels, String.toList_ofList, Text.words_eq_tokens, herror]
  | @miscounted _ bytes hnum h h3 h4 =>
    rw [parse_numeric ht hnum, ofChannels, ofChannels_of_forall₂ h]
    match bytes, h3, h4 with
    | [_, _, _], h3, _ => exact absurd rfl h3
    | [_, _, _, _], _, h4 => exact absurd rfl h4
    | [], _, _ | [_], _, _ | [_, _], _, _ | _ :: _ :: _ :: _ :: _ :: _, _, _ => rfl
  | name hword hname h =>
    rw [parse_worded ht hword, ← hname, String.ofList_toList, lookup_palette.mpr h,
      Option.elim_some]
  | unknown hword h =>
    have hnone : palette.lookup (String.ofList (bareName t)) = none :=
      Option.eq_none_iff_forall_ne_some.mpr fun color hcolor =>
        h _ color (lookup_palette.mp hcolor) String.toList_ofList
    rw [parse_worded ht hword, hnone, Option.elim_none]

/-- Every text denotes a colour or has a fault. -/
theorem exists_denotes (t : Text) : ∃ r, Denotes t r := by
  by_cases hne : t = []
  · subst hne
    exact ⟨_, .blank⟩
  obtain ⟨d, hhash⟩ | hnum | hword := exists_form hne
  · by_cases h : ∃ color, HexColor d color
    · obtain ⟨color, hcolor⟩ := h
      exact ⟨_, .hex hhash hcolor⟩
    · exact ⟨_, .notHex hhash (not_exists.mp h)⟩
  · cases hread : channels (tokens t) with
    | error e =>
      obtain ⟨_, _, _, _, hsplit, hgood, hbad, -⟩ := channels_eq_error_iff.mp hread
      exact ⟨_, .notChannel hnum hsplit hgood hbad⟩
    | ok bytes =>
      have hbytes := channels_eq_ok_iff.mp hread
      match bytes with
      | [r, g, b] => exact ⟨_, .solid hnum hbytes⟩
      | [r, g, b, a] => exact ⟨_, .withAlpha hnum hbytes⟩
      | [] | [_] | [_, _] | _ :: _ :: _ :: _ :: _ :: _ =>
        exact ⟨_, .miscounted hnum hbytes (by simp) (by simp)⟩
  · by_cases h : ∃ name color, (name, color) ∈ palette ∧ name.toList = bareName t
    · obtain ⟨name, color, hmem, hname⟩ := h
      exact ⟨_, .name hword hname hmem⟩
    · exact ⟨_, .unknown hword fun name color hmem hname => h ⟨name, color, hmem, hname⟩⟩

/-- **A literal is read as what it denotes.** -/
theorem parse_eq_iff_denotes : parse s = r ↔ ∃ t, Trimmed s.toList t ∧ Denotes t r := by
  constructor
  · rintro rfl
    have htrimmed := Text.trimmed_trimChars s.toList
    obtain ⟨r, hr⟩ := exists_denotes (Text.trimChars s.toList)
    exact ⟨_, htrimmed, hr.eq_parse htrimmed ▸ hr⟩
  · rintro ⟨t, htrimmed, hr⟩
    exact hr.eq_parse htrimmed

end Color

/-! ## Slices

  The program takes digits out of the text by byte offsets, which would fail inside a character.  So
  slicing is spelled out here with a result that may be missing, and shown not to be missing. -/

namespace Text

variable {text : Text}

/-- The part of a text between two offsets; nothing if one of them falls inside a character or
    beyond the end. -/
def slice? (text : Text) (lo hi : Nat) : Option Text :=
  if lo ≤ hi ∧ text.IsBoundary lo ∧ text.IsBoundary hi then some (text.slice lo hi) else none

/-- Between two places of a text there is what stands between them. -/
theorem slice?_cut (before mid after : Text) :
    slice? (before ++ mid ++ after) before.size (before.size + mid.size) = some mid := by
  rw [slice?, if_pos, slice_cut]
  refine ⟨Nat.le_add_right _ _, ⟨before, mid ++ after, List.append_assoc .., rfl⟩,
    ⟨before ++ mid, after, rfl, (size_append _ _).symm⟩⟩

/-- Where every character takes one byte offsets are numbers of characters. -/
theorem size_eq_length (h : ∀ c ∈ text, c.utf8Size = 1) : text.size = text.length := by
  induction text with
  | nil => rfl
  | cons c rest ih =>
    obtain ⟨hc, hrest⟩ := List.forall_mem_cons.mp h
    rw [size_cons, hc, ih hrest, List.length_cons, Nat.add_comm]

/-- Where every character is one byte long, offsets count characters. -/
theorem slice?_of_bytes (h : ∀ c ∈ text, c.utf8Size = 1) {pos width : Nat}
    (hfits : pos + width ≤ text.length) :
    text.slice? pos (pos + width) = some ((text.drop pos).take width) := by
  have hbefore : size (text.take pos) = pos := by
    rw [size_eq_length fun c hc => h c (List.mem_of_mem_take hc), List.length_take]
    omega
  have hmid : size ((text.drop pos).take width) = width := by
    rw [size_eq_length fun c hc => h c (List.mem_of_mem_drop (List.mem_of_mem_take hc)),
      List.length_take, List.length_drop]
    omega
  have hcut := slice?_cut (text.take pos) ((text.drop pos).take width) ((text.drop pos).drop width)
  rwa [List.append_assoc, List.take_append_drop, List.take_append_drop, hbefore, hmid] at hcut

end Text

namespace Color

variable {s : String} {digits : Text} {c hi lo : Char} {x y : Nat}

/-- The byte that hexadecimal digits stand for, behind a plus sign or without. -/
def hexByte? (piece : Text) : Option UInt8 :=
  let digits := match piece with
    | '+' :: ds => ds
    | ds => ds
  if digits.isEmpty then none
  else (digits.mapM CharSet.hexDigit?).bind fun vs =>
    let n := vs.foldl (16 * · + ·) 0
    if n ≤ 255 then some (UInt8.ofNat n) else none

/-- The byte that so many characters at an offset stand for, as digits of the literal `s`. -/
def sliceByte (s : String) (digits : Text) (width pos : Nat) : ExceptT ColorError Option UInt8 :=
  (digits.slice? pos (pos + width)).map fun piece =>
    match hexByte? piece with
    | some byte => .ok byte
    | none => .error (.invalidHex s)

/-- Read digits by their offsets, as many as there are bytes. -/
def ofDigitSlices (s : String) (digits : Text) : ExceptT ColorError Option Color :=
  let short pos := (· * 0x11) <$> sliceByte s digits 1 pos
  let long pos := sliceByte s digits 2 pos
  match digits.size with
  | 3 => return rgb (← short 0) (← short 1) (← short 2)
  | 4 => return ⟨← short 0, ← short 1, ← short 2, ← short 3⟩
  | 6 => return rgb (← long 0) (← long 2) (← long 4)
  | 8 => return ⟨← long 0, ← long 2, ← long 4, ← long 6⟩
  | _ => throw (.invalidHex s)

/-- Read `#` and hexadecimal digits by their offsets.  There is no result at all if a slice is asked
    for that begins or ends inside a character. -/
def ofSlices (s : String) : ExceptT ColorError Option Color :=
  let digits := (Text.trimChars s.toList).dropWhile (· = '#')
  if digits.all fun c => (CharSet.hexDigit? c).isSome then ofDigitSlices s digits
  else throw (.invalidHex s)

section Digits

variable {vs : List Nat} {pos width : Nat}

/-- A hexadecimal digit takes one byte. -/
theorem HexDigit.utf8Size (h : HexDigit c x) : c.utf8Size = 1 := by
  have hascii := h.ascii
  exact Char.utf8Size_eq_one_iff.mpr (UInt32.le_iff_toNat_le.mpr (Nat.le_of_lt_succ hascii))

theorem HexDigit.ne_plus (h : HexDigit c x) : c ≠ '+' := by
  rintro rfl
  have hnone := hexDigit?_eq_some_iff.mpr h
  exact absurd hnone (by simp [CharSet.hexDigit?])

/-- A slice of one digit has its value. -/
theorem hexByte?_alone (h : HexDigit c x) : hexByte? [c] = some (UInt8.ofNat x) := by
  have hx := h.lt
  have hle : x ≤ 255 := by omega
  simp [hexByte?, h.ne_plus, hexDigit?_eq_some_iff.mpr h, hle]

/-- A slice of two digits has the value of both. -/
theorem hexByte?_followed (hhi : HexDigit hi x) (hlo : HexDigit lo y) :
    hexByte? [hi, lo] = some (ofDigits x y) := by
  have hx := hhi.lt
  have hy := hlo.lt
  have hle : 16 * x + y ≤ 255 := by omega
  simp [hexByte?, hhi.ne_plus, hexDigit?_eq_some_iff.mpr hhi, hexDigit?_eq_some_iff.mpr hlo, hle,
    ofDigits]

theorem utf8Size_of_digits (h : Forall₂ HexDigit digits vs) : ∀ c ∈ digits, c.utf8Size = 1 := by
  intro c hc
  obtain ⟨v, hv⟩ := exists_digits_iff.mp ⟨vs, h⟩ c hc
  exact hv.utf8Size

/-- A slice of digits is there, and holds as many of them. -/
theorem sliceByte_eq (h : Forall₂ HexDigit digits vs) (hfits : pos + width ≤ vs.length) :
    ∃ piece, Forall₂ HexDigit piece ((vs.drop pos).take width) ∧
      sliceByte s digits width pos = match hexByte? piece with
        | some byte => pure byte
        | none => throw (.invalidHex s) := by
  refine ⟨(digits.drop pos).take width, List.forall₂_take _ (List.forall₂_drop _ h), ?_⟩
  rw [sliceByte, Text.slice?_of_bytes (utf8Size_of_digits h) (h.length_eq ▸ hfits), Option.map_some]
  cases hexByte? ((digits.drop pos).take width) <;> rfl

/-- One digit by its offset, doubled. -/
theorem sliceByte_short (h : Forall₂ HexDigit digits vs) (hx : (vs.drop pos).take 1 = [x]) :
    (· * 0x11) <$> sliceByte s digits 1 pos = pure (ofDigits x x) := by
  have hdouble : ∀ x < 16, UInt8.ofNat x * 0x11 = ofDigits x x := by decide +kernel
  have hfits : pos + 1 ≤ vs.length := by
    have hlen := congrArg List.length hx
    simp at hlen
    omega
  obtain ⟨_, hpiece, heq⟩ := sliceByte_eq (s := s) h hfits
  rw [hx] at hpiece
  obtain _ | ⟨hc, _ | _⟩ := hpiece
  rw [heq, hexByte?_alone hc, ← hdouble x hc.lt]
  rfl

/-- Two digits by the offset of the first. -/
theorem sliceByte_long (h : Forall₂ HexDigit digits vs) (hxy : (vs.drop pos).take 2 = [x, y]) :
    sliceByte s digits 2 pos = pure (ofDigits x y) := by
  have hfits : pos + 2 ≤ vs.length := by
    have hlen := congrArg List.length hxy
    simp at hlen
    omega
  obtain ⟨_, hpiece, heq⟩ := sliceByte_eq (s := s) h hfits
  rw [hxy] at hpiece
  obtain _ | ⟨hhi, _ | ⟨hlo, _ | _⟩⟩ := hpiece
  rw [heq, hexByte?_followed hhi hlo]

/-- **Digits are read by their offsets as they are one after the other.** -/
theorem ofDigitSlices_eq (h : Forall₂ HexDigit digits vs) : ofDigitSlices s digits
    = match ofHexDigits? vs with
      | some color => pure color
      | none => throw (.invalidHex s) := by
  have hsize : Text.size digits = vs.length :=
    (Text.size_eq_length (utf8Size_of_digits h)).trans h.length_eq
  -- the length in bytes is the number of digits, which decides on both sides
  rw [ofDigitSlices, hsize]
  match vs, h with
  | [_, _, _], h =>
    simp only [List.length_cons, List.length_nil]
    rw [sliceByte_short h rfl, sliceByte_short h rfl, sliceByte_short h rfl]
    rfl
  | [_, _, _, _], h =>
    simp only [List.length_cons, List.length_nil]
    rw [sliceByte_short h rfl, sliceByte_short h rfl, sliceByte_short h rfl,
      sliceByte_short h rfl]
    rfl
  | [_, _, _, _, _, _], h =>
    simp only [List.length_cons, List.length_nil]
    rw [sliceByte_long h rfl, sliceByte_long h rfl, sliceByte_long h rfl]
    rfl
  | [_, _, _, _, _, _, _, _], h =>
    simp only [List.length_cons, List.length_nil]
    rw [sliceByte_long h rfl, sliceByte_long h rfl, sliceByte_long h rfl, sliceByte_long h rfl]
    rfl
  | [], _ | [_], _ | [_, _], _ | [_, _, _, _, _], _ | [_, _, _, _, _, _, _], _
  | _ :: _ :: _ :: _ :: _ :: _ :: _ :: _ :: _ :: _, _ => rfl

end Digits

/-- **No slice begins or ends inside a character**, and what is read from the slices is what is read
    one digit after the other. -/
theorem ofSlices_eq_ofHex (s : String) : (ofSlices s).run = some (ofHex s) := by
  unfold ofSlices ofHex
  simp only
  generalize (Text.trimChars s.toList).dropWhile (· = '#') = digits
  have hall : (digits.all fun c => (CharSet.hexDigit? c).isSome) ↔
      ∃ vs, Forall₂ HexDigit digits vs := by
    simp [exists_digits_iff, Option.isSome_iff_exists, hexDigit?_eq_some_iff]
  split
  · rename_i hdigits
    obtain ⟨vs, hvs⟩ := hall.mp hdigits
    have hread : digits.mapM CharSet.hexDigit? = some vs := by
      simpa only [mapM_eq_some_iff, hexDigit?_eq_some_iff] using hvs
    rw [ofDigitSlices_eq hvs, hread, Option.bind_some]
    cases ofHexDigits? vs <;> rfl
  · rename_i hdigits
    have hnone : digits.mapM CharSet.hexDigit? = none := by
      refine Option.eq_none_iff_forall_ne_some.mpr fun vs hvs => hdigits (hall.mpr ⟨vs, ?_⟩)
      simpa only [mapM_eq_some_iff, hexDigit?_eq_some_iff] using hvs
    rw [hnone]
    rfl

/-! ## The literals -/

/-- **A literal is read as the colour or the fault that it denotes**, and no slice that its digits
    are taken from begins or ends inside a character. -/
theorem parse_denotes (s : String) :
    (∀ r, parse s = r ↔ ∃ t, Text.Trimmed s.toList t ∧ Denotes t r) ∧
      ∀ t, (ofSlices t).run = some (ofHex t) :=
  ⟨fun _ => parse_eq_iff_denotes, ofSlices_eq_ofHex⟩

/-- A channel may have a plus sign, but a text that begins with one is a name. -/
example : parse "1 +2 3" = .ok (rgb 1 2 3) ∧
    parse "+1 2 3" = .error (.unknownName "+1 2 3") := by decide +kernel

end Color

end Highlight
