/-
  Colours as they are written.

  A colour can be written in many ways, and is written in one: `#` and eight small hexadecimal
  digits.

  1. **Digits** — every value below sixteen has one small digit (`hexDigitChar_spec`,
     `HexDigit.eq_hexDigitChar`), so every channel has one pair of them (`hexChannel_channelHex`,
     `HexChannel.eq_channelHex`).

  2. **Literals** — so the eight digits of a colour are read as that colour, and there are no other
     eight (`LongHex.parse_iff`, `HexColor.eq_hexDigits`).  Reading such a literal meets neither
     blanks to trim nor a second `#` to skip (`LongHex.trimmed`, `LongHex.hashed`), so the digits are
     all that counts.

  That the written literal is read back is one half; the other is that no other literal of its shape
  means the same.

  Main result: `toHex_unique`.
-/
import Highlight.Proofs.Color.Literal

namespace Highlight

namespace Color

open Text (Trimmed)

variable {c : Char} {x : Nat} {byte : UInt8} {piece ds : Text} {color : Color} {lit : String}

/-! ## Digits -/

/-- A text of small hexadecimal digits. -/
def SmallHex (ds : Text) : Prop := ∀ c ∈ ds, c ∈ smallDigits

/-- The digit written for a value below sixteen is read as that value, and is small. -/
theorem hexDigitChar_spec : ∀ x < 16, HexDigit (hexDigitChar x) x ∧
    hexDigitChar x ∈ smallDigits := by
  unfold HexDigit
  decide +kernel

/-- A value has one small digit. -/
theorem HexDigit.eq_hexDigitChar (h : HexDigit c x) (hsmall : c ∈ smallDigits) :
    c = hexDigitChar x := by
  have hlower : smallDigits.all (fun d => d.toLower = d) := by decide +kernel
  have hvalue : ∀ x < 16, smallDigits[x]? = some (hexDigitChar x) := by
    decide +kernel
  have hx := hvalue x h.lt
  rw [HexDigit, of_decide_eq_true (List.all_eq_true.mp hlower c hsmall), hx] at h
  exact (Option.some.inj h).symm

/-- The two digits written for a channel are worth its byte, by division with remainder. -/
theorem hexChannel_channelHex (byte : UInt8) : HexChannel 2 (channelHex byte) byte := by
  have hbyte := byte.toNat_lt
  exact .pair (hexDigitChar_spec _ (by omega)).1 (hexDigitChar_spec _ (by omega)).1 (by omega)

/-- A channel is written in small digits. -/
theorem smallHex_channelHex (byte : UInt8) : SmallHex (channelHex byte) := by
  have hbyte := byte.toNat_lt
  refine List.forall_mem_cons.mpr ⟨(hexDigitChar_spec _ (by omega)).2, ?_⟩
  exact List.forall_mem_singleton.mpr (hexDigitChar_spec _ (by omega)).2

/-- **A channel is written with one pair of small digits.** -/
theorem HexChannel.eq_channelHex (h : HexChannel 2 piece byte) (hsmall : SmallHex piece) :
    piece = channelHex byte := by
  cases h with
  | @pair hi lo x y _ hhi hlo hbyte =>
    have hy := hlo.lt
    have hdiv : byte.toNat / 16 = x := by omega
    have hmod : byte.toNat % 16 = y := by omega
    rw [channelHex, hdiv, hmod, hhi.eq_hexDigitChar (hsmall hi (by simp)),
      hlo.eq_hexDigitChar (hsmall lo (by simp))]

/-! ## Literals -/

/-- The digits with which a colour is written. -/
def hexDigits (color : Color) : Text :=
  channelHex color.r ++ channelHex color.g ++ channelHex color.b ++ channelHex color.a

/-- A literal of `#` and eight small hexadecimal digits. -/
structure LongHex (lit : String) (ds : Text) : Prop where
  text : lit.toList = '#' :: ds
  length : ds.length = 8
  small : SmallHex ds

/-- A colour is written with `#` and two digits for each of its four channels. -/
theorem longHex_toHex (color : Color) : LongHex (toHex color) color.hexDigits where
  text := String.toList_ofList
  length := rfl
  small := by
    simp only [SmallHex, hexDigits, List.forall_mem_append]
    exact ⟨⟨⟨smallHex_channelHex _, smallHex_channelHex _⟩, smallHex_channelHex _⟩,
      smallHex_channelHex _⟩

/-- The digits of a colour stand for it. -/
theorem hexColor_hexDigits (color : Color) : HexColor color.hexDigits color :=
  .withAlpha (hexChannel_channelHex _) (hexChannel_channelHex _) (hexChannel_channelHex _)
    (hexChannel_channelHex _)

/-- **Eight small digits are those with which their colour is written.** -/
theorem HexColor.eq_hexDigits (h : HexColor ds color) (hlength : ds.length = 8)
    (hsmall : SmallHex ds) : ds = color.hexDigits := by
  cases h with
  | solid hr hg hb =>
    -- three channels have three digits or six
    simp only [List.length_append, hr.length, hg.length, hb.length] at hlength
    omega
  | @withAlpha width _ _ _ _ _ _ _ _ hr hg hb ha =>
    simp only [List.length_append, hr.length, hg.length, hb.length, ha.length] at hlength
    obtain rfl : width = 2 := by omega
    simp only [SmallHex, List.forall_mem_append] at hsmall
    obtain ⟨⟨⟨hr', hg'⟩, hb'⟩, ha'⟩ := hsmall
    rw [hexDigits, hr.eq_channelHex hr', hg.eq_channelHex hg', hb.eq_channelHex hb',
      ha.eq_channelHex ha']

/-- Of such a literal the reader drops one `#` only, a digit being behind it. -/
theorem LongHex.hashed (h : LongHex lit ds) : Hashed lit.toList ds := by
  refine ⟨⟨0, h.text⟩, fun hhash => ?_⟩
  exact absurd (h.small '#' (List.mem_of_mem_head? hhash)) (by decide +kernel)

/-- There is no blank in such a literal, so trimming leaves all of it. -/
theorem LongHex.trimmed (h : LongHex lit ds) : Trimmed lit.toList lit.toList := by
  have hblank : ∀ c ∈ lit.toList, ¬Unicode.isBlank c := by
    have hdigit : smallDigits.all (fun c => ¬Unicode.isBlank c) := by decide +kernel
    rw [h.text]
    refine List.forall_mem_cons.mpr ⟨by decide +kernel, fun c hc => ?_⟩
    exact of_decide_eq_true (List.all_eq_true.mp hdigit c (h.small c hc))
  exact ⟨⟨[], [], by simp, by simp, by simp⟩, fun c hc => hblank c (List.mem_of_mem_head? hc),
    fun c hc => hblank c (List.mem_of_mem_getLast? hc)⟩

/-- **A long literal means what its digits stand for.** -/
theorem LongHex.parse_iff (h : LongHex lit ds) : parse lit = .ok color ↔ HexColor ds color := by
  rw [parse_hashed h.trimmed h.hashed, ← readHex_iff]
  cases (ds.mapM CharSet.hexDigit?).bind ofHexDigits? <;> simp

/-- A colour is read back from what is written. -/
theorem parse_toHex (color : Color) : parse (toHex color) = .ok color :=
  (longHex_toHex color).parse_iff.mpr (hexColor_hexDigits color)

/-- A long literal that is read as a colour is the one written for it. -/
theorem LongHex.eq_toHex (h : LongHex lit ds) (hparse : parse lit = .ok color) :
    lit = toHex color := by
  have hds := (h.parse_iff.mp hparse).eq_hexDigits h.length h.small
  rw [← String.toList_inj, h.text, hds, (longHex_toHex color).text]

/-- **A colour is written so that it is read back, and as the only literal of its shape**: whatever
    the literal that the colour was read from, the written one means the same, and no other of `#`
    and eight small digits does. -/
theorem toHex_unique :
    (∀ color, parse (toHex color) = .ok color) ∧
      ∀ s color, parse s = .ok color →
        ∀ lit, (∃ ds, LongHex lit ds) ∧ parse lit = parse s ↔ lit = toHex color := by
  refine ⟨parse_toHex, fun s color hs lit => ?_⟩
  rw [hs]
  constructor
  · rintro ⟨⟨ds, hlit⟩, hparse⟩
    exact hlit.eq_toHex hparse
  · rintro rfl
    exact ⟨⟨_, longHex_toHex color⟩, parse_toHex color⟩

/-- A name, and the one long literal that means the same. -/
theorem darkRed_toHex : parse "Dark Red" = .ok (rgb 0x80 0 0) ∧
    ∀ lit, (∃ ds, LongHex lit ds) ∧ parse lit = parse "Dark Red" ↔ lit = "#800000ff" := by
  have hname : parse "Dark Red" = .ok (rgb 0x80 0 0) := by decide +kernel
  have hwritten : toHex (rgb 0x80 0 0) = "#800000ff" := by decide +kernel
  exact ⟨hname, fun lit => hwritten ▸ toHex_unique.2 "Dark Red" _ hname lit⟩

end Color

end Highlight
