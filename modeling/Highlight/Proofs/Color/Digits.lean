/-
  What the parts of a colour literal stand for.

  The readers walk through characters and carry numbers along.  Here every part of a literal has a
  meaning that no reader takes part in, and each reader is shown to find it.

  1. **Blanks** — `Trimmed` is a text without the blanks around it, `tokens` are the pieces between
     blanks (`trimmed_iff`, `words_eq_tokens`).  Trimming is characterised by what is left: nothing
     blank at either end, and only blanks cut off; `tokens` is the library's splitting, without the
     walk's piece at hand.

  2. **Hexadecimal digits** — a channel is one digit or two, and a colour three channels or four of
     one width (`HexChannel`, `HexColor`).  The reader takes all digits first and then asks how many
     there are; `readHex_iff` puts the two together.  That the reader's digits are those of
     the table, in either case, is checked once over ASCII (`hexDigit?_ascii`) and holds beyond it
     because neither side knows a digit there (`HexDigit.ascii`).

  3. **Decimal channels** — a numeral in base ten below 256, with a plus sign or without
     (`Numeral`, `Channel`).  The reader multiplies as it goes; the numeral has its value from its
     end (`decimalDigits?_eq_some_iff`).  Of a list of pieces the reader reports the first that is
     no channel (`channels_eq_error_iff`).

  Main results: `readHex_iff`, `channel?_eq_some_iff`, `channels_eq_ok_iff`,
  `channels_eq_error_iff`.
-/
import Mathlib.Data.List.DropRight
import Mathlib.Data.List.Forall2
import Mathlib.Data.Nat.Digits.Defs
import Mathlib.Tactic.Ring
import Highlight.Color
import Highlight.Proofs.Naming

namespace Highlight

open List (Forall₂)

/-! ## Blanks -/

namespace Text

variable {s t : Text}

/-- `t` is what stands between the blanks at the two ends of `s`. -/
structure Trimmed (s t : Text) : Prop where
  around : ∃ front back, s = front ++ t ++ back ∧ (∀ c ∈ front, Unicode.isBlank c) ∧
    ∀ c ∈ back, Unicode.isBlank c
  first : ∀ c ∈ t.head?, ¬Unicode.isBlank c
  last : ∀ c ∈ t.getLast?, ¬Unicode.isBlank c

/-- What trimming leaves is trimmed: the blanks it drops are those around, and it drops all of them,
    on either side. -/
theorem trimmed_trimChars (s : Text) : Trimmed s (trimChars s) := by
  rw [trimChars_eq]
  refine ⟨⟨s.takeWhile Unicode.isBlank, (s.dropWhile Unicode.isBlank).rtakeWhile Unicode.isBlank,
    ?_, fun c => List.mem_takeWhile_imp, fun c => List.mem_rtakeWhile_imp⟩, ?_, ?_⟩
  · rw [List.append_assoc, List.rdropWhile_append_rtakeWhile, List.takeWhile_append_dropWhile]
  · intro c hc
    -- dropping at the end leaves the beginning, unless it leaves nothing
    obtain ⟨back, hback⟩ := List.rdropWhile_prefix Unicode.isBlank (s.dropWhile Unicode.isBlank)
    have hhead : (s.dropWhile Unicode.isBlank).head? = some c := by
      rw [← hback, List.head?_append, Option.mem_def.mp hc, Option.some_or]
    have hnot := List.head?_dropWhile_not Unicode.isBlank s
    rw [hhead] at hnot
    simpa using hnot
  · intro c hc
    obtain ⟨hne, hlast⟩ := List.mem_getLast?_eq_getLast hc
    rw [hlast]
    exact List.rdropWhile_last_not _ _ hne

/-- **Trimming leaves nothing else.** -/
theorem trimmed_iff : Trimmed s t ↔ t = trimChars s := by
  refine ⟨?_, fun h => h ▸ trimmed_trimChars s⟩
  rintro ⟨⟨front, back, rfl, hfront, hback⟩, hfirst, hlast⟩
  rw [trimChars_eq, List.append_assoc, List.dropWhile_append_of_pos hfront]
  -- if nothing stands between the blanks, all of them are dropped from the front
  cases t with
  | nil => simp [List.dropWhile_eq_nil_iff.mpr hback]
  | cons c t =>
    rw [List.cons_append, List.dropWhile_cons_of_neg (hfirst c rfl), ← List.cons_append,
      List.rdropWhile, List.reverse_append,
      List.dropWhile_append_of_pos fun c hc => hback c (List.mem_reverse.mp hc)]
    refine (List.rdropWhile_eq_self_iff.mpr fun hne => hlast _ ?_).symm
    exact List.getLast?_eq_some_getLast hne

/-- The pieces of a text between blanks; where two blanks meet there is none. -/
def tokens (t : Text) : List Text := (t.splitOnP Unicode.isBlank).filter (· ≠ [])

/-- The walk, with the piece at hand. -/
theorem wordsFrom_eq (piece t : Text) :
    wordsFrom piece t = (List.splitOnPPrepend Unicode.isBlank t piece).filter (· ≠ []) := by
  induction t generalizing piece with
  | nil => cases piece <;> simp [wordsFrom]
  | cons c t ih =>
    rw [wordsFrom, List.splitOnPPrepend_cons_eq_if]
    split
    · -- a blank ends the piece, which is left out if it is empty
      rw [List.splitOnP_eq_splitOnPPrepend, ih]
      cases piece <;> simp
    · exact ih _

/-- The words of a text are its tokens, the walk having begun with no piece. -/
theorem words_eq_tokens (t : Text) : words t = tokens t := by
  rw [words, wordsFrom_eq, tokens, List.splitOnP_eq_splitOnPPrepend]

end Text

namespace Color

variable {c : Char} {v : Nat} {byte : UInt8} {ds piece : Text} {color : Color}

/-- Reading every element succeeds if each of them can be read. -/
theorem mapM_eq_some_iff {α β : Type} {f : α → Option β} {l : List α} {ys : List β} :
    l.mapM f = some ys ↔ Forall₂ (fun a b => f a = some b) l ys := by
  induction l generalizing ys with
  | nil => simp [eq_comm]
  | cons a l ih =>
    rw [List.mapM_cons, List.forall₂_cons_left_iff]
    simp only [Option.bind_eq_bind, Option.bind_eq_some_iff, Option.pure_def, Option.some.injEq, ih]
    constructor
    · rintro ⟨b, hb, bs, hbs, rfl⟩
      exact ⟨b, bs, hb, hbs, rfl⟩
    · rintro ⟨b, bs, hb, hbs, rfl⟩
      exact ⟨b, hb, bs, hbs, rfl⟩

/-! ## Hexadecimal digits -/

/-- The hexadecimal digits by their values, small letters. -/
def smallDigits : Text := "0123456789abcdef".toList

/-- The hexadecimal digit of a value, in either letter case. -/
def HexDigit (c : Char) (v : Nat) : Prop := smallDigits[v]? = some c.toLower

/-- The reader of a digit and the table agree on ASCII, by a check of all 128 characters with all
    sixteen values. -/
theorem hexDigit?_ascii : ∀ n < 0x80, ∀ v < 16, CharSet.hexDigit? (Char.ofNat n) = some v ↔
    smallDigits[v]? = some (Char.ofNat n).toLower := by decide +kernel

/-- A hexadecimal digit is worth less than sixteen. -/
theorem HexDigit.lt (h : HexDigit c v) : v < 16 := (List.getElem?_eq_some_iff.mp h).1

/-- There is no digit beyond ASCII, in either letter case. -/
theorem HexDigit.ascii (h : HexDigit c v) : c.toNat < 0x80 := by
  by_contra hascii
  have hall : smallDigits.all (·.toNat < 0x80) := by decide +kernel
  rw [HexDigit, Unicode.toLower_of_not_ascii hascii] at h
  exact hascii (of_decide_eq_true (List.all_eq_true.mp hall c (List.mem_of_getElem? h)))

/-- The reader of a digit gives no value from sixteen on. -/
theorem hexDigit?_lt (h : CharSet.hexDigit? c = some v) : v < 16 := by
  unfold CharSet.hexDigit? at h
  grind

/-- **The reader of a digit finds its value**, and finds none where there is no digit. -/
theorem hexDigit?_eq_some_iff : CharSet.hexDigit? c = some v ↔ HexDigit c v := by
  by_cases hv : v < 16
  · by_cases hascii : c.toNat < 0x80
    · have h := hexDigit?_ascii c.toNat hascii v hv
      rwa [Char.ofNat_toNat] at h
    · refine ⟨fun h => ?_, fun h => absurd h.ascii hascii⟩
      unfold CharSet.hexDigit? at h
      grind
  · exact ⟨fun h => absurd (hexDigit?_lt h) hv, fun h => absurd h.lt hv⟩

/-- Digits have values if each of them has one. -/
theorem exists_digits_iff : (∃ vs, Forall₂ HexDigit ds vs) ↔ ∀ c ∈ ds, ∃ v, HexDigit c v := by
  constructor
  · rintro ⟨vs, h⟩
    induction h with
    | nil => simp
    | cons hc _ ih => exact List.forall_mem_cons.mpr ⟨⟨_, hc⟩, ih⟩
  · intro h
    induction ds with
    | nil => exact ⟨[], .nil⟩
    | cons c ds ih =>
      obtain ⟨⟨v, hv⟩, hds⟩ := List.forall_mem_cons.mp h
      obtain ⟨vs, hvs⟩ := ih hds
      exact ⟨v :: vs, .cons hv hvs⟩

/-- The value of a channel of one hexadecimal digit or two. -/
inductive HexChannel : (width : Nat) → Text → UInt8 → Prop
  | single {c : Char} {x : Nat} {byte : UInt8} (h : HexDigit c x) (hbyte : byte.toNat = 17 * x) :
      HexChannel 1 [c] byte
  | pair {hi lo : Char} {x y : Nat} {byte : UInt8} (hhi : HexDigit hi x) (hlo : HexDigit lo y)
      (hbyte : byte.toNat = 16 * x + y) : HexChannel 2 [hi, lo] byte

/-- The colour of three or four hexadecimal channels of one width. -/
inductive HexColor : Text → Color → Prop
  | solid {width : Nat} {r g b : Text} {vr vg vb : UInt8} (hr : HexChannel width r vr)
      (hg : HexChannel width g vg) (hb : HexChannel width b vb) :
      HexColor (r ++ g ++ b) ⟨vr, vg, vb, 255⟩
  | withAlpha {width : Nat} {r g b a : Text} {vr vg vb va : UInt8} (hr : HexChannel width r vr)
      (hg : HexChannel width g vg) (hb : HexChannel width b vb) (ha : HexChannel width a va) :
      HexColor (r ++ g ++ b ++ a) ⟨vr, vg, vb, va⟩

/-- A channel of one width has as many digits. -/
theorem HexChannel.length {width : Nat} (h : HexChannel width piece byte) :
    piece.length = width := by
  cases h <;> rfl

/-- Channels are one digit wide, or two. -/
theorem HexChannel.width {width : Nat} (h : HexChannel width piece byte) :
    width = 1 ∨ width = 2 := by
  cases h with
  | single => exact .inl rfl
  | pair => exact .inr rfl

/-- Two digits are worth sixteen times the first and the second; that fits a byte. -/
theorem toNat_ofDigits {hi lo : Nat} (hhi : hi < 16) (hlo : lo < 16) :
    (ofDigits hi lo).toNat = 16 * hi + lo := by
  have hlt : 16 * hi + lo < 2 ^ 8 := by omega
  rw [ofDigits, UInt8.toNat_ofNat_of_lt' hlt]

/-- A digit that stands alone counts for both digits of its channel. -/
theorem HexDigit.alone {x : Nat} (h : HexDigit c x) : HexChannel 1 [c] (ofDigits x x) := by
  have hvalue := toNat_ofDigits h.lt h.lt
  exact .single h (by omega)

theorem HexDigit.followed {hi lo : Char} {x y : Nat} (hhi : HexDigit hi x) (hlo : HexDigit lo y) :
    HexChannel 2 [hi, lo] (ofDigits x y) := .pair hhi hlo (toNat_ofDigits hhi.lt hlo.lt)

/-- A channel of one digit, as the reader makes it. -/
theorem hexChannel_one_iff :
    HexChannel 1 piece byte ↔ ∃ c x, piece = [c] ∧ HexDigit c x ∧ byte = ofDigits x x := by
  constructor
  · intro h
    cases h with
    | single h hbyte =>
      have hvalue := toNat_ofDigits h.lt h.lt
      exact ⟨_, _, rfl, h, UInt8.toNat_inj.mp (by omega)⟩
  · rintro ⟨c, x, rfl, h, rfl⟩
    exact h.alone

/-- A channel of two digits, as the reader makes it. -/
theorem hexChannel_two_iff : HexChannel 2 piece byte ↔
    ∃ hi lo x y, piece = [hi, lo] ∧ HexDigit hi x ∧ HexDigit lo y ∧ byte = ofDigits x y := by
  constructor
  · intro h
    cases h with
    | pair hhi hlo hbyte =>
      have hvalue := toNat_ofDigits hhi.lt hlo.lt
      exact ⟨_, _, _, _, rfl, hhi, hlo, UInt8.toNat_inj.mp (by omega)⟩
  · rintro ⟨hi, lo, x, y, rfl, hhi, hlo, rfl⟩
    exact hhi.followed hlo

/-- The reader gives digits the meaning that their number asks for. -/
theorem hexColor_of_digits {vs : List Nat} (h : Forall₂ HexDigit ds vs)
    (hcolor : ofHexDigits? vs = some color) : HexColor ds color := by
  unfold ofHexDigits? at hcolor
  -- three, four, six or eight digits, and no other number
  split at hcolor
  · obtain rfl := Option.some.inj hcolor
    obtain _ | ⟨hr, _ | ⟨hg, _ | ⟨hb, _ | _⟩⟩⟩ := h
    exact .solid hr.alone hg.alone hb.alone
  · obtain rfl := Option.some.inj hcolor
    obtain _ | ⟨hr, _ | ⟨hg, _ | ⟨hb, _ | ⟨ha, _ | _⟩⟩⟩⟩ := h
    exact .withAlpha hr.alone hg.alone hb.alone ha.alone
  · obtain rfl := Option.some.inj hcolor
    obtain _ | ⟨hr, _ | ⟨hr', _ | ⟨hg, _ | ⟨hg', _ | ⟨hb, _ | ⟨hb', _ | _⟩⟩⟩⟩⟩⟩ := h
    exact .solid (hr.followed hr') (hg.followed hg') (hb.followed hb')
  · obtain rfl := Option.some.inj hcolor
    obtain _ | ⟨hr, _ | ⟨hr', _ | ⟨hg, _ | ⟨hg', _ | ⟨hb, _ | ⟨hb', h⟩⟩⟩⟩⟩⟩ := h
    obtain _ | ⟨ha, _ | ⟨ha', _ | _⟩⟩ := h
    exact .withAlpha (hr.followed hr') (hg.followed hg') (hb.followed hb') (ha.followed ha')
  · exact absurd hcolor (by simp)

/-- The digits of a colour are read as such, and give it back. -/
theorem HexColor.exists_digits (h : HexColor ds color) :
    ∃ vs, Forall₂ HexDigit ds vs ∧ ofHexDigits? vs = some color := by
  cases h with
  | solid hr hg hb =>
    rcases hr.width with rfl | rfl
    · obtain ⟨_, x, rfl, hx, rfl⟩ := hexChannel_one_iff.mp hr
      obtain ⟨_, y, rfl, hy, rfl⟩ := hexChannel_one_iff.mp hg
      obtain ⟨_, z, rfl, hz, rfl⟩ := hexChannel_one_iff.mp hb
      exact ⟨[x, y, z], by simp [hx, hy, hz], rfl⟩
    · obtain ⟨_, _, x, x', rfl, hx, hx', rfl⟩ := hexChannel_two_iff.mp hr
      obtain ⟨_, _, y, y', rfl, hy, hy', rfl⟩ := hexChannel_two_iff.mp hg
      obtain ⟨_, _, z, z', rfl, hz, hz', rfl⟩ := hexChannel_two_iff.mp hb
      exact ⟨[x, x', y, y', z, z'], by simp [hx, hx', hy, hy', hz, hz'], rfl⟩
  | withAlpha hr hg hb ha =>
    rcases hr.width with rfl | rfl
    · obtain ⟨_, x, rfl, hx, rfl⟩ := hexChannel_one_iff.mp hr
      obtain ⟨_, y, rfl, hy, rfl⟩ := hexChannel_one_iff.mp hg
      obtain ⟨_, z, rfl, hz, rfl⟩ := hexChannel_one_iff.mp hb
      obtain ⟨_, w, rfl, hw, rfl⟩ := hexChannel_one_iff.mp ha
      exact ⟨[x, y, z, w], by simp [hx, hy, hz, hw], rfl⟩
    · obtain ⟨_, _, x, x', rfl, hx, hx', rfl⟩ := hexChannel_two_iff.mp hr
      obtain ⟨_, _, y, y', rfl, hy, hy', rfl⟩ := hexChannel_two_iff.mp hg
      obtain ⟨_, _, z, z', rfl, hz, hz', rfl⟩ := hexChannel_two_iff.mp hb
      obtain ⟨_, _, w, w', rfl, hw, hw', rfl⟩ := hexChannel_two_iff.mp ha
      exact ⟨[x, x', y, y', z, z', w, w'], by simp [hx, hx', hy, hy', hz, hz', hw, hw'], rfl⟩

/-- **The digits that are read as a colour are those that stand for it.** -/
theorem readHex_iff :
    (ds.mapM CharSet.hexDigit?).bind ofHexDigits? = some color ↔ HexColor ds color := by
  simp only [Option.bind_eq_some_iff, mapM_eq_some_iff, hexDigit?_eq_some_iff]
  constructor
  · rintro ⟨vs, hdigits, hcolor⟩
    exact hexColor_of_digits hdigits hcolor
  · exact HexColor.exists_digits

/-! ## Decimal channels -/

/-- The decimal digit of a value. -/
def DecimalDigit (c : Char) (v : Nat) : Prop := "0123456789".toList[v]? = some c

/-- The ten digits stand in a row in ASCII, so a digit's value is how far it is from the zero. -/
theorem decimalDigit_ascii : ∀ n < 0x80, ∀ v < 10,
    "0123456789".toList[v]? = some (Char.ofNat n) ↔ 0x30 ≤ n ∧ n ≤ 0x39 ∧ v = n - 0x30 := by
  decide +kernel

/-- The reader tells a decimal digit by its code, which comes to the same: there is none beyond
    ASCII. -/
theorem decimalDigit_iff : DecimalDigit c v ↔ '0' ≤ c ∧ c ≤ '9' ∧ v = c.toNat - 0x30 := by
  have hlo : '0' ≤ c ↔ 0x30 ≤ c.toNat := UInt32.le_iff_toNat_le
  have hhi : c ≤ '9' ↔ c.toNat ≤ 0x39 := UInt32.le_iff_toNat_le
  rw [hlo, hhi]
  by_cases hv : v < 10
  · by_cases hascii : c.toNat < 0x80
    · have h := decimalDigit_ascii c.toNat hascii v hv
      rwa [Char.ofNat_toNat] at h
    · have hall : "0123456789".toList.all (·.toNat < 0x80) := by decide +kernel
      refine ⟨fun h => absurd ?_ hascii, fun h => by omega⟩
      exact of_decide_eq_true (List.all_eq_true.mp hall c (List.mem_of_getElem? h))
  · exact ⟨fun h => absurd (List.getElem?_eq_some_iff.mp h).1 hv, fun h => by omega⟩

/-- The byte that decimal digits stand for; the last one counts once. -/
structure Numeral (ds : Text) (byte : UInt8) : Prop where
  nonempty : ds ≠ []
  value : ∃ vs, Forall₂ DecimalDigit ds vs ∧ byte.toNat = Nat.ofDigits 10 vs.reverse

/-- The channel that a piece of a literal stands for. -/
inductive Channel : Text → UInt8 → Prop
  | plain {ds : Text} {byte : UInt8} (h : Numeral ds byte) : Channel ds byte
  | signed {ds : Text} {byte : UInt8} (h : Numeral ds byte) : Channel ('+' :: ds) byte

/-- **Multiplying as it goes, the reader gets the value of the numeral**, behind what it has. -/
theorem decimalDigits?_eq_some_iff {n m : Nat} : decimalDigits? n ds = some m ↔
    ∃ vs, Forall₂ DecimalDigit ds vs ∧ m = Nat.ofDigits 10 (vs.reverse ++ [n]) := by
  induction ds generalizing n with
  | nil => simp [decimalDigits?, eq_comm]
  | cons c ds ih =>
    -- the digit at hand joins those that have been read, in front of those to come
    have hnext : ∀ vs : List Nat, ∀ v, Nat.ofDigits 10 (vs.reverse ++ [10 * n + v])
        = Nat.ofDigits 10 ((v :: vs).reverse ++ [n]) := by
      intro vs v
      simp only [List.reverse_cons, List.append_assoc, Nat.ofDigits_append, Nat.ofDigits_cons,
        Nat.ofDigits_nil, List.singleton_append]
      ring
    rw [decimalDigits?]
    split
    · rename_i hdigit
      rw [ih]
      constructor
      · rintro ⟨vs, hvs, rfl⟩
        exact ⟨_ :: vs, .cons (decimalDigit_iff.mpr ⟨hdigit.1, hdigit.2, rfl⟩) hvs, hnext vs _⟩
      · rintro ⟨_, _ | ⟨hv, hvs⟩, rfl⟩
        obtain ⟨-, -, rfl⟩ := decimalDigit_iff.mp hv
        exact ⟨_, hvs, (hnext _ _).symm⟩
    · rename_i hdigit
      refine ⟨fun h => absurd h (by simp), ?_⟩
      rintro ⟨_, _ | ⟨hv, hvs⟩, -⟩
      obtain ⟨hlo, hhi, -⟩ := decimalDigit_iff.mp hv
      exact absurd ⟨hlo, hhi⟩ hdigit

/-- A piece is a numeral if the reader gets a value from it that fits a byte, and there is a digit
    at all. -/
theorem numeral_iff : Numeral ds byte ↔
    ds ≠ [] ∧ ∃ n ≤ 255, decimalDigits? 0 ds = some n ∧ byte = UInt8.ofNat n := by
  have hzero : ∀ vs : List Nat, Nat.ofDigits 10 (vs ++ [0]) = Nat.ofDigits 10 vs := by
    intro vs
    simp [Nat.ofDigits_append]
  simp only [decimalDigits?_eq_some_iff, hzero]
  constructor
  · rintro ⟨hne, vs, hvs, hvalue⟩
    have hlt := byte.toNat_lt
    refine ⟨hne, byte.toNat, by omega, ⟨vs, hvs, hvalue⟩, ?_⟩
    rw [UInt8.ofNat_toNat]
  · rintro ⟨hne, n, hn, ⟨vs, hvs, hvalue⟩, rfl⟩
    have hlt : n < 2 ^ 8 := by omega
    exact ⟨hne, vs, hvs, by rw [UInt8.toNat_ofNat_of_lt' hlt, hvalue]⟩

/-- A sign is no digit, so what begins with one is no numeral. -/
theorem not_numeral_plus : ¬Numeral ('+' :: ds) byte := by
  rintro ⟨-, _, _ | ⟨hplus, -⟩, -⟩
  exact absurd (decimalDigit_iff.mp hplus).1 (by decide)

theorem channel_plus_iff : Channel ('+' :: ds) byte ↔ Numeral ds byte := by
  refine ⟨fun h => ?_, .signed⟩
  cases h with
  | plain h => exact absurd h not_numeral_plus
  | signed h => exact h

theorem channel_iff (hsign : ∀ ds, piece ≠ '+' :: ds) : Channel piece byte ↔ Numeral piece byte := by
  refine ⟨fun h => ?_, .plain⟩
  cases h with
  | plain h => exact h
  | signed h => exact absurd rfl (hsign _)

/-- **A piece is read as a channel if it stands for one.** -/
theorem channel?_eq_some_iff : channel? piece = some byte ↔ Channel piece byte := by
  unfold channel?
  split
  · rename_i ds
    rw [channel_plus_iff, numeral_iff]
    cases ds with
    | nil => simp
    | cons c ds => cases hvalue : decimalDigits? 0 (c :: ds) <;> simp [hvalue, eq_comm]
  · rename_i hsign
    rw [channel_iff hsign, numeral_iff]
    cases piece with
    | nil => simp
    | cons c ds => cases hvalue : decimalDigits? 0 (c :: ds) <;> simp [hvalue, eq_comm]

/-- All pieces are read just if each of them is a channel. -/
theorem channels_eq_ok_iff {pieces : List Text} {bytes : List UInt8} :
    channels pieces = .ok bytes ↔ Forall₂ Channel pieces bytes := by
  induction pieces generalizing bytes with
  | nil => simp [channels, eq_comm]
  | cons piece pieces ih =>
    rw [channels, List.forall₂_cons_left_iff]
    cases hpiece : channel? piece with
    | none =>
      simp [← channel?_eq_some_iff, hpiece]
    | some byte =>
      cases hrest : channels pieces with
      | error e =>
        simp [← ih, hrest, Except.map]
      | ok rest =>
        simp [← channel?_eq_some_iff, ← ih, hpiece, hrest, Except.map, eq_comm]

/-- **The error is about the first piece that stands for no channel.** -/
theorem channels_eq_error_iff {pieces : List Text} {e : ColorError} :
    channels pieces = .error e ↔ ∃ good bad rest bytes, pieces = good ++ bad :: rest ∧
      Forall₂ Channel good bytes ∧ (∀ byte, ¬Channel bad byte) ∧
      e = .invalidChannel (String.ofList bad) := by
  constructor
  · intro h
    induction pieces with
    | nil => exact absurd h (by simp [channels])
    | cons piece pieces ih =>
      rw [channels] at h
      cases hpiece : channel? piece with
      | none =>
        rw [hpiece] at h
        refine ⟨[], piece, pieces, [], rfl, .nil, fun byte hbyte => ?_, (Except.error.inj h).symm⟩
        rw [channel?_eq_some_iff.mpr hbyte] at hpiece
        exact absurd hpiece (by simp)
      | some byte =>
        rw [hpiece] at h
        cases hrest : channels pieces with
        | ok rest => simp [hrest, Except.map] at h
        | error e' =>
          obtain rfl : e' = e := by simpa [hrest, Except.map] using h
          obtain ⟨good, bad, rest, bytes, rfl, hgood, hbad, he⟩ := ih hrest
          exact ⟨piece :: good, bad, rest, byte :: bytes, rfl,
            .cons (channel?_eq_some_iff.mp hpiece) hgood, hbad, he⟩
  · rintro ⟨good, bad, rest, bytes, rfl, hgood, hbad, rfl⟩
    induction hgood with
    | nil =>
      have hnone : channel? bad = none :=
        Option.eq_none_iff_forall_ne_some.mpr fun byte h => hbad byte (channel?_eq_some_iff.mp h)
      rw [List.nil_append, channels, hnone]
    | cons hpiece _ ih =>
      rw [List.cons_append, channels, channel?_eq_some_iff.mpr hpiece, ih]
      rfl

end Color

end Highlight
