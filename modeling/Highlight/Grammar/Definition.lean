/-
  Grammar definitions: the documents that grammars are read from.

  1. **Reading** — a `Definition` has the fields of a document.  What a rule consists of is kept as
     it is, so that a bad rule does not spoil the document; only its shape has to be right.

  2. **Rules** — `ruleOf` and `blockOf` compile what a rule consists of.  A rule that has a problem
     comes out disabled.

  3. **Layering** — `Definition.applyTo` lays a definition over the grammar it is based on: what the
     definition declares replaces what was there.  A numbered rule goes to the slot of its number; a
     rule without a usable number goes nowhere.
-/
import Highlight.Grammar.Problem
import Highlight.Toml.Document
import Highlight.Toml.Printer
import Highlight.Toml.TableDate

namespace Highlight

open Toml

/-- The delimiters of a construct, as a document gives them. -/
structure BlockDeclaration where
  opening : Option Value := none
  closing : Option Value := none
  escape : Option Value := none
  deriving Repr, Inhabited

/-- A numbered rule, as a document gives it: a pattern or a list of words. -/
structure RuleDeclaration where
  slot : Option Value := none
  pattern : Option Value := none
  words : Option Value := none
  deriving Repr, Inhabited

/-- A numbered construct, as a document gives it. -/
structure NumberedBlock where
  slot : Option Value := none
  block : BlockDeclaration := {}
  deriving Repr, Inhabited

/-- A grammar document. -/
structure Definition where
  name : Option String := none
  parent : Option String := none
  style : Option String := none
  extensions : Option (List String) := none
  numbers : Option Value := none
  quotation : Option BlockDeclaration := none
  lineComment : Option Value := none
  blockComment : Option BlockDeclaration := none
  keywords : List RuleDeclaration := []
  expressions : List RuleDeclaration := []
  lineExpressions : List RuleDeclaration := []
  blockExpressions : List NumberedBlock := []
  deriving Repr, Inhabited

/-! ## Reading -/

/-- The delimiters among the fields of a construct. -/
def BlockDeclaration.ofFields? (t : Table) : Option BlockDeclaration := do
  return {
    opening := ← t.field? Value.any? "start"
    closing := ← t.field? Value.any? "end"
    escape := ← t.field? Value.any? "escapes" }

/-- Read the delimiters of a construct. -/
def BlockDeclaration.ofValue? (v : Value) : Option BlockDeclaration :=
  (v.record? ["start", "end", "escapes"]).bind ofFields?

/-- Read a numbered rule. -/
def RuleDeclaration.ofValue? (v : Value) : Option RuleDeclaration := do
  let t ← v.record? ["type", "pattern", "words"]
  return {
    slot := ← t.field? Value.any? "type"
    pattern := ← t.field? Value.any? "pattern"
    words := ← t.field? Value.any? "words" }

/-- Read a numbered construct. -/
def NumberedBlock.ofValue? (v : Value) : Option NumberedBlock := do
  let t ← v.record? ["type", "start", "end", "escapes"]
  return { slot := ← t.field? Value.any? "type", block := ← BlockDeclaration.ofFields? t }

namespace Definition

/-- The definition in the table of a document. -/
def ofTable? (t : Table) : Option Definition := do
  return {
    name := ← t.field? Value.string? "name"
    parent := ← t.field? Value.string? "use"
    style := ← t.field? Value.string? "style"
    extensions := ← t.field? (Value.listOf? Value.string?) "extensions"
    numbers := ← t.field? Value.any? "numbers"
    quotation := ← t.field? BlockDeclaration.ofValue? "quotations"
    lineComment := ← t.field? Value.any? "linecomment"
    blockComment := ← t.field? BlockDeclaration.ofValue? "blockcomment"
    keywords := ← t.fieldD? (Value.listOf? RuleDeclaration.ofValue?) "keywords" []
    expressions := ← t.fieldD? (Value.listOf? RuleDeclaration.ofValue?) "expression" []
    lineExpressions := ← t.fieldD? (Value.listOf? RuleDeclaration.ofValue?) "lineexpression" []
    blockExpressions := ← t.fieldD? (Value.listOf? NumberedBlock.ofValue?) "blockexpression" [] }

/-- Read a definition. -/
def parse? (text : String) : Option Definition := (Document.parse text).bind ofTable?

/-- The name a definition declares, without blanks around it; a blank name is none. -/
def declaredName? (d : Definition) : Option String :=
  (d.name.map Text.trim).filter fun name => !name.isEmpty

/-! ## Rules -/

/-- A rule or a grammar, and the problems met on the way to it. -/
abbrev Checked (α : Type) := α × List RuleProblem

/-- The fault of a value that should have been a pattern. -/
def notAString (category : Category) (index : Nat) (v : Value) : RuleProblem :=
  .invalidPattern category index v.text (.notAString v.kind)

/-- The rule of a pattern. -/
def patternRule (category : Category) (index : Nat) (pattern : String) : Checked Rule :=
  let style := StyleId.ofCategory category index
  match Rule.compile pattern style with
  | .ok r => (r, [])
  | .error e => (.disabled style, [.invalidPattern category index pattern (.refused e)])

/-- The rule of a value that should be a pattern. -/
def valueRule (category : Category) (index : Nat) (v : Value) : Checked Rule :=
  match v.string? with
  | some pattern => patternRule category index pattern
  | none => (.disabled (.ofCategory category index), [notAString category index v])

/-- The pattern that matches any of some words where it is not part of a longer word. -/
def wordsPattern (words : List String) : String :=
  "\\b(?:" ++ String.intercalate "|" (words.map Pattern.escape) ++ ")\\b"

/-- The words in a value, at least one. -/
def words? (v : Value) : Option (List String) :=
  (v.listOf? Value.string?).filter fun words => !words.isEmpty

/-- The rule of a declaration; if there is a pattern, words do not count. -/
def ruleOf (category : Category) (index : Nat) (d : RuleDeclaration) : Checked Rule :=
  match d.pattern, d.words with
  | some v, _ => valueRule category index v
  | none, some v =>
    match words? v with
    | some words => patternRule category index (wordsPattern words)
    | none =>
      (.disabled (.ofCategory category index), [.invalidPattern category index v.text .notWords])
  | none, none => (.disabled (.ofCategory category index), [.emptyRule category index])

/-- The text of a delimiter, if there is one. -/
def delimiter (category : Category) (index : Nat) : Option Value → Except RuleProblem (Option String)
  | none => .ok none
  | some v =>
    match v.string? with
    | some s => .ok (some s)
    | none => .error (notAString category index v)

/-- The rule of a construct, unless there is a problem. -/
def compileBlock (category : Category) (index : Nat) (d : BlockDeclaration) :
    Except RuleProblem BlockRule := do
  let opening := (← delimiter category index d.opening).getD ""
  let closing := (← delimiter category index d.closing).getD ""
  let escape ← delimiter category index d.escape
  if opening.isEmpty || closing.isEmpty then throw (.incompleteBlock category index)
  match BlockRule.compile opening closing escape (.ofCategory category index) with
  | .ok r => return r
  | .error e =>
    throw (.invalidPattern category index (opening ++ " .. " ++ closing) (.refused e))

/-- The rule of a construct. -/
def blockOf (category : Category) (index : Nat) (d : BlockDeclaration) : Checked BlockRule :=
  match compileBlock category index d with
  | .ok r => (r, [])
  | .error problem => (.disabled (.ofCategory category index), [problem])

/-! ## Layering -/

/-- The slot that a rule's number selects. -/
def slotOf (category : Category) (capacity : Nat) : Option Value → Except RuleProblem Nat
  | some (.integer n) =>
    if 0 ≤ n ∧ n < capacity then .ok n.toNat else .error (.slotOutOfRange category n capacity)
  | some v => .error (.invalidSlot category v.text)
  | none => .error (.invalidSlot category "nothing")

/-- Put a numbered rule into its slot. -/
def placeRule (category : Category) (slots : List Rule) (d : RuleDeclaration) : Checked (List Rule) :=
  match slotOf category slots.length d.slot with
  | .ok i =>
    let (r, problems) := ruleOf category i d
    (slots.set i r, problems)
  | .error problem => (slots, [problem])

/-- Put a numbered construct into its slot. -/
def placeBlock (slots : List BlockRule) (d : NumberedBlock) : Checked (List BlockRule) :=
  match slotOf .blockExpression slots.length d.slot with
  | .ok i =>
    let (r, problems) := blockOf .blockExpression i d.block
    (slots.set i r, problems)
  | .error problem => (slots, [problem])

/-- Apply declarations one after the other, collecting the problems. -/
def placeAll {α δ : Type} (place : α → δ → Checked α) (slots : α) : List δ → Checked α
  | [] => (slots, [])
  | d :: ds =>
    let (slots, problems) := place slots d
    let (slots, more) := placeAll place slots ds
    (slots, problems ++ more)

/-- What a declaration makes of a rule; without one the rule stays. -/
def replace {α δ : Type} (compile : δ → Checked α) (old : α) : Option δ → Checked α
  | none => (old, [])
  | some d => compile d

/-- Lay a definition over a grammar.  The name and the parent are the definition's own. -/
def applyTo (d : Definition) (name : String) (base : Grammar) : Checked Grammar :=
  let (numbers, p₁) := replace (valueRule .number 0) base.numbers d.numbers
  let (quotation, p₂) := replace (blockOf .quotation 0) base.quotation d.quotation
  let (lineComment, p₃) := replace (valueRule .lineComment 0) base.lineComment d.lineComment
  let (blockComment, p₄) := replace (blockOf .blockComment 0) base.blockComment d.blockComment
  let (keywords, p₅) := placeAll (placeRule .keyword) base.keywords d.keywords
  let (expressions, p₆) := placeAll (placeRule .expression) base.expressions d.expressions
  let (lineExpressions, p₇) :=
    placeAll (placeRule .lineExpression) base.lineExpressions d.lineExpressions
  let (blockExpressions, p₈) := placeAll placeBlock base.blockExpressions d.blockExpressions
  ({ name := name
     parent := d.parent
     style := d.style.or base.style
     extensions := d.extensions.getD base.extensions
     numbers := numbers
     quotation := quotation
     lineComment := lineComment
     blockComment := blockComment
     keywords := keywords
     expressions := expressions
     lineExpressions := lineExpressions
     blockExpressions := blockExpressions },
   p₁ ++ p₂ ++ p₃ ++ p₄ ++ p₅ ++ p₆ ++ p₇ ++ p₈)

end Definition

end Highlight
