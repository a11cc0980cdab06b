/-
  Texts measured in UTF-8 bytes.

  A line of text is a list of characters, and everything the highlighter says about it (matches,
  spans, states) names places in it by byte offset.  This file ties the two together.

  1. **Offsets** — `size` is the length in bytes; `IsBoundary` says which offsets fall between two
     characters; `nextBoundary` is the end of the character at an offset.

  2. **Places** — a `Place` is a boundary seen from inside: the character before it, its offset,
     and the text after it.  `Place.seek?` walks to an offset.

  3. **Blanks** — `trim` and `words` cut a text at white space of any script.
-/
import Highlight.Unicode.Property

namespace Highlight

/-- The characters of one line. -/
abbrev Text := List Char

namespace Text

/-! ## Offsets -/

/-- The length of a text in bytes. -/
def size : Text → Nat
  | [] => 0
  | c :: cs => c.utf8Size + size cs

/-- The offsets that fall between two characters of a text, both ends included. -/
def IsBoundary (text : Text) (n : Nat) : Prop := ∃ before after, text = before ++ after ∧ n = size before

/-- The end of the character that offset `pos` lies in; past the text simply the next offset.  `off`
    is the offset at which the given text starts. -/
def nextBoundaryFrom (pos off : Nat) : Text → Nat
  | [] => pos + 1
  | c :: cs => if pos < off + c.utf8Size then off + c.utf8Size else nextBoundaryFrom pos (off + c.utf8Size) cs

/-- The offset of the character after the one at `pos`. -/
def nextBoundary (text : Text) (pos : Nat) : Nat := nextBoundaryFrom pos 0 text

/-- The characters that start at offset `lo` or later and before `hi`. -/
def sliceFrom (lo hi off : Nat) : Text → Text
  | [] => []
  | c :: cs =>
    if hi ≤ off then []
    else if lo ≤ off then c :: sliceFrom lo hi (off + c.utf8Size) cs
    else sliceFrom lo hi (off + c.utf8Size) cs

/-- The part of a text between two offsets. -/
def slice (text : Text) (lo hi : Nat) : Text := sliceFrom lo hi 0 text

@[simp] theorem size_nil : size [] = 0 := rfl

@[simp] theorem size_cons (c : Char) (cs : Text) : size (c :: cs) = c.utf8Size + size cs := rfl

/-- Sizes add up. -/
@[simp] theorem size_append (a b : Text) : size (a ++ b) = size a + size b := by
  induction a with
  | nil => simp
  | cons c cs ih => simp [ih, Nat.add_assoc]

/-- Only the empty text has no size. -/
theorem eq_nil_of_size {text : Text} (h : text.size = 0) : text = [] := by
  cases text with
  | nil => rfl
  | cons c rest =>
    have hpos := Char.utf8Size_pos c
    rw [size_cons] at h
    omega

/-- The next boundary lies beyond the offset. -/
theorem lt_nextBoundaryFrom (pos off : Nat) (text : Text) : pos < nextBoundaryFrom pos off text := by
  induction text generalizing off with
  | nil => simp [nextBoundaryFrom]
  | cons c cs ih =>
    unfold nextBoundaryFrom
    split
    · assumption
    · exact ih _

/-- The character after the one at an offset stands beyond it. -/
theorem lt_nextBoundary (text : Text) (pos : Nat) : pos < nextBoundary text pos :=
  lt_nextBoundaryFrom pos 0 text

/-! ## Places -/

/-- A place between two characters: what stands before it, how far it is from the start of the
    text, and what follows. -/
structure Place where
  prev : Option Char
  offset : Nat
  rest : Text
  deriving Repr

namespace Place

/-- The first place at or after offset `pos`, walking on from the given one, if there is one. -/
def seekFrom (pos : Nat) (prev : Option Char) (off : Nat) : Text → Option Place
  | [] => if pos ≤ off then some ⟨prev, off, []⟩ else none
  | c :: cs =>
    if pos ≤ off then some ⟨prev, off, c :: cs⟩ else seekFrom pos (some c) (off + c.utf8Size) cs

/-- The first place of a text at or after an offset; none if the text ends before it. -/
def seek? (text : Text) (pos : Nat) : Option Place := seekFrom pos none 0 text

end Place

/-! ## Blanks -/

/-- A text without the white space at its ends. -/
def trimChars (text : Text) : Text :=
  ((text.dropWhile Unicode.isBlank).reverse.dropWhile Unicode.isBlank).reverse

def trim (s : String) : String := String.ofList (trimChars s.toList)

/-- The pieces of a text between stretches of white space; `piece` is the one being collected, its
    characters in reverse. -/
def wordsFrom (piece : Text) : Text → List Text
  | [] => if piece.isEmpty then [] else [piece.reverse]
  | c :: cs =>
    if Unicode.isBlank c then
      if piece.isEmpty then wordsFrom [] cs else piece.reverse :: wordsFrom [] cs
    else wordsFrom (c :: piece) cs

/-- The pieces of a text between stretches of white space. -/
def words (text : Text) : List Text := wordsFrom [] text

/-- The text of a line without the line feed, and then the carriage return, that may end it. -/
def stripTerminator (text : Text) : Text :=
  let cut (c : Char) (t : Text) : Text := if t.getLast? = some c then t.dropLast else t
  cut '\r' (cut '\n' text)

end Text

end Highlight
