/-
  Putting expressions together.

  1. **Lists** — one after the other and as alternatives, expressions form lists; `factors` and
     `alternatives` read the lists back, `sequence` and `alternation` write them.  What `concat` and
     `choice` make never has a sequence as a part of a sequence nor alternatives among alternatives,
     so that nothing is lost on the way.

  2. **Alternatives that are one set** — single characters, or sets of them, become one set.

  3. **A common beginning** — when all alternatives are sequences that begin alike, they are the
     common beginning followed by the choice between what remains.  Characters that follow each
     other belong together here: `ab` and `ac` are two different texts, without a common beginning.
     The beginning then decides before the alternatives do: of `.*?b|.*?c` the match that is over
     first is preferred.  Remembered groups are told apart, so two of them are never alike.

  4. **Repetitions** — what matches only the empty text is not repeated more than once.
-/
import Highlight.Pattern.Regex

namespace Highlight

namespace Regex

/-! ## Lists -/

/-- The expressions that stand one after the other. -/
def factors : Regex → List Regex
  | empty => []
  | cat a b => factors a ++ factors b
  | r => [r]

/-- The expressions that are alternatives of each other, the preferred one first. -/
def alternatives : Regex → List Regex
  | alt a b => alternatives a ++ alternatives b
  | r => [r]

/-- One expression after the other, each with its own place. -/
def sequence : List Regex → Regex
  | [] => empty
  | [r] => r
  | r :: rs => cat r (sequence rs)

/-- Alternatives, each with its own place. -/
def alternation : List Regex → Regex
  | [] => set .empty
  | [r] => r
  | r :: rs => alt r (alternation rs)

/-- One expression after the other. -/
def concat (rs : List Regex) : Regex := sequence (rs.flatMap factors)

/-! ## Alternatives that are one set -/

/-- Whether the expression is a single character. -/
def isCharacter : Regex → Bool
  | set s => s.isSingleton
  | _ => false

/-- The set an expression consists of. -/
def set? : Regex → Option CharSet
  | set s => some s
  | _ => none

/-- The set that alternatives amount to, if all are single characters or none is. -/
def oneSet? (rs : List Regex) : Option CharSet :=
  match rs.mapM set? with
  | none => none
  | some sets =>
    if rs.all isCharacter || !rs.any isCharacter then
      some (CharSet.ofRanges (sets.flatMap CharSet.ranges))
    else none

/-! ## A common beginning -/

/-- The parts of a sequence: texts, as long as they go, and what stands between them. -/
def parts (r : Regex) : List (List Regex) :=
  r.factors.splitBy fun a b => a.isCharacter && b.isCharacter

/-- The longest list of parts that two lists begin with. -/
def commonParts : List (List Regex) → List (List Regex) → List (List Regex)
  | p :: ps, q :: qs => if p = q ∧ !p.any hasGroup then p :: commonParts ps qs else []
  | _, _ => []

/-- The parts that all sequences begin with. -/
def sharedParts : List (List (List Regex)) → List (List Regex)
  | [] => []
  | [b] => b
  | b :: bs => commonParts b (sharedParts bs)

/-- How many expressions an expression is made of. -/
def nodes : Regex → Nat
  | empty => 1
  | set _ => 1
  | look _ => 1
  | cat a b => a.nodes + b.nodes
  | alt a b => a.nodes + b.nodes
  | repetition r _ _ _ => r.nodes
  | group r => r.nodes

/-- Expressions as alternatives.  A common beginning has at least one node of every alternative, so
    that the number of all their nodes suffices as `fuel`. -/
def choiceWithin : (fuel : Nat) → List Regex → Regex
  | 0, rs => alternation rs
  | fuel + 1, rs =>
    let rs := rs.flatMap alternatives
    match rs with
    | [r] => r
    | _ =>
      match oneSet? rs with
      | some s => set s
      | none =>
        let branches := rs.map parts
        if branches.any (·.length < 2) then alternation rs
        else
          match sharedParts branches with
          | [] => alternation rs
          | shared =>
            let remains := branches.map fun b => sequence (b.drop shared.length).flatten
            concat [sequence shared.flatten, choiceWithin fuel remains]

/-- The expressions as alternatives, the first preferred to the others. -/
def choice (rs : List Regex) : Regex := choiceWithin (rs.foldl (fun n r => n + r.nodes) 0) rs

/-! ## Repetitions -/

/-- Repeat an expression.  What matches only the empty text is not repeated more than once, and
    what is repeated exactly once or not at all needs no repetition. -/
def repeated (r : Regex) (min : Nat) (max : Option Nat) (greedy : Bool) : Regex :=
  let (min, max) :=
    if r.isNull then (Nat.min min 1, some (match max with | some n => Nat.min n 1 | none => 1))
    else (min, max)
  match min, max with
  | 0, some 0 => empty
  | 1, some 1 => r
  | _, _ => repetition r min max greedy

end Regex

end Highlight
