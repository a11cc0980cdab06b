/-
  Patterns as programs for a matching machine.

  1. **The machine code** — a `Program` is a list of instructions: take a character of a set, check
     an assertion, try two continuations in order, accept.

  2. **The compiler** — `Regex.compile r next` adds the code of `r` in front of the instruction
     `next` and returns the entry.  Only loops refer to an instruction that is written later: the
     branch of a loop is reserved, its body compiled in front of it, and then filled in.

  3. **Loops whose body may match nothing** — preferring one round more would then change which of
     the matches comes first.  Such a loop is entered through a branch of its own, and only the
     rounds after the first come back to the loop's branch.
-/
import Highlight.Pattern.Regex

namespace Highlight

/-- An instruction of the matching machine. -/
inductive Inst where
  | accept
  | take (set : CharSet) (next : Nat)
  | check (look : Look) (next : Nat)
  | fork (preferred other : Nat)
  deriving DecidableEq, Repr, Inhabited

/-- A program and the instruction it starts with. -/
structure Program where
  insts : Array Inst
  start : Nat
  deriving DecidableEq, Repr, Inhabited

namespace Regex

/-- Code under construction: the entry of what has been compiled last, and all instructions. -/
abbrev Code := Nat × Array Inst

/-- Add one instruction. -/
def emit (insts : Array Inst) (i : Inst) : Code := (insts.size, insts.push i)

/-- The branch of a loop or an option: `enter` is preferred when it is greedy. -/
def branch (greedy : Bool) (enter leave : Nat) : Inst :=
  if greedy then .fork enter leave else .fork leave enter

/-- Put `n` copies of a piece in front of `next`. -/
def copies (piece : Nat → Array Inst → Code) : Nat → Nat → Array Inst → Code
  | 0, next, insts => (next, insts)
  | n + 1, next, insts =>
    let (entry, insts) := piece next insts
    copies piece n entry insts

/-- Put `n` optional copies of a piece in front of `next`, each inside the one before it, so that
    leaving any of them leads to `leave`. -/
def options (piece : Nat → Array Inst → Code) (greedy : Bool) (leave : Nat) :
    Nat → Nat → Array Inst → Code
  | 0, next, insts => (next, insts)
  | n + 1, next, insts =>
    let (entry, insts) := piece next insts
    let (fork, insts) := emit insts (branch greedy entry leave)
    options piece greedy leave n fork insts

/-- A loop of at least one round in front of `next`: the entry of its body and its branch. -/
def loop (piece : Nat → Array Inst → Code) (greedy : Bool) (next : Nat) (insts : Array Inst) :
    Nat × Code :=
  let (fork, insts) := emit insts .accept
  let (entry, insts) := piece fork insts
  (entry, fork, insts.setIfInBounds fork (branch greedy entry next))

/-- Add the code of an expression in front of the instruction `next`. -/
def compile : Regex → Nat → Array Inst → Code
  | empty, next, insts => (next, insts)
  | set s, next, insts => emit insts (.take s next)
  | look l, next, insts => emit insts (.check l next)
  | cat a b, next, insts =>
    let (entry, insts) := compile b next insts
    compile a entry insts
  | alt a b, next, insts =>
    let (other, insts) := compile b next insts
    let (preferred, insts) := compile a next insts
    emit insts (.fork preferred other)
  | repetition r min max greedy, next, insts =>
    match max with
    | some max =>
      let (entry, insts) := options (compile r) greedy next (max - min) next insts
      copies (compile r) min entry insts
    | none =>
      let (entry, fork, insts) := loop (compile r) greedy next insts
      match min with
      | 0 => if r.consumes then (fork, insts) else emit insts (branch greedy entry next)
      | n + 1 => copies (compile r) n entry insts
  | group r, next, insts => compile r next insts

/-- The program of an expression. -/
def program (r : Regex) : Program :=
  let (start, insts) := compile r 0 #[.accept]
  ⟨insts, start⟩

end Regex

end Highlight
