/-
  The built-in grammars.

  The definitions of some common languages.  Their rules use the same numbers for the same things
  (keywords 0, types 1, constants 3, …), so that one theme suits them all.
-/
import Highlight.Grammar.Definition

namespace Highlight.Grammar.Builtin

/-! ## Pieces of definitions -/

/-- A numbered rule for some words. -/
def words (slot : Int) (ws : List String) : RuleDeclaration where
  slot := some (.integer slot)
  words := some (.array (ws.map .string))

/-- A numbered rule for a pattern. -/
def pattern (slot : Int) (p : String) : RuleDeclaration where
  slot := some (.integer slot)
  pattern := some (.string p)

/-- A construct without escapes. -/
def delimited (opening closing : String) : BlockDeclaration where
  opening := some (.string opening)
  closing := some (.string closing)

/-- A construct in which a backslash hides the next character. -/
def quoted (opening closing : String) : BlockDeclaration where
  opening := some (.string opening)
  closing := some (.string closing)
  escape := some (.string defaultEscape)

/-- Quotations between double quotes. -/
def quotes : BlockDeclaration := quoted defaultQuote defaultQuote

/-! ## The languages -/

/-- C. -/
def c : Definition where
  name := some "C"
  style := some "default"
  extensions := some ["c", "h"]
  numbers := some (.string
    r"\b(?:0[xX][0-9a-fA-F]+|\d+(?:\.\d*)?(?:[eE][+-]?\d+)?)[uUlLfF]*\b")
  quotation := some quotes
  lineComment := some (.string "//")
  blockComment := some (delimited r"/\*" r"\*/")
  keywords := [
    words 0
      ["break", "case", "const", "continue", "default", "do", "else", "enum", "extern", "for",
       "goto", "if", "inline", "register", "restrict", "return", "sizeof", "static", "struct",
       "switch", "typedef", "union", "volatile", "while", "_Alignas", "_Alignof", "_Atomic",
       "_Generic", "_Noreturn", "_Static_assert", "_Thread_local"],
    words 1
      ["auto", "char", "double", "float", "int", "long", "short", "signed", "unsigned", "void",
       "_Bool", "_Complex", "size_t", "ptrdiff_t", "intptr_t", "uintptr_t", "int8_t", "int16_t",
       "int32_t", "int64_t", "uint8_t", "uint16_t", "uint32_t", "uint64_t", "FILE"],
    words 3
      ["NULL", "EOF", "true", "false"]]
  expressions := [pattern 1 r"[+\-*/%&|^!<>=~?:]+"]
  lineExpressions := [pattern 0 r"^\s*#\s*\w+"]
  blockExpressions := [⟨some (.integer 1), delimited r"'(?:[^'\\]|\\.)" "'|$"⟩]

/-- C++, which has everything C has. -/
def cpp : Definition where
  name := some "C++"
  parent := some "c"
  extensions := some ["cpp", "hpp", "cc", "cxx", "hh", "hxx"]
  keywords := [
    words 2
      ["alignas", "alignof", "and", "and_eq", "asm", "bitand", "bitor", "bool", "catch", "class",
       "compl", "concept", "consteval", "constexpr", "constinit", "const_cast", "co_await",
       "co_return", "co_yield", "decltype", "delete", "dynamic_cast", "explicit", "export",
       "friend", "mutable", "namespace", "new", "noexcept", "not", "not_eq", "nullptr", "operator",
       "or", "or_eq", "private", "protected", "public", "reinterpret_cast", "requires",
       "static_assert", "static_cast", "template", "this", "thread_local", "throw", "try",
       "typeid", "typename", "using", "virtual", "xor", "xor_eq"]]
  blockExpressions := [⟨some (.integer 0), delimited "R\"\\(" "\\)\""⟩]

/-- Rust. -/
def rust : Definition where
  name := some "Rust"
  style := some "default"
  extensions := some ["rs"]
  numbers := some (.string
    r"\b(?:0[xob][0-9a-fA-F_]+|\d[\d_]*(?:\.\d[\d_]*)?(?:[eE][+-]?\d+)?)(?:[iu](?:8|16|32|64|128|size)|f32|f64)?\b")
  quotation := some quotes
  lineComment := some (.string "//")
  blockComment := some (delimited r"/\*" r"\*/")
  keywords := [
    words 0
      ["as", "async", "await", "break", "const", "continue", "crate", "dyn", "else", "enum",
       "extern", "false", "fn", "for", "if", "impl", "in", "let", "loop", "match", "mod", "move",
       "mut", "pub", "ref", "return", "self", "Self", "static", "struct", "super", "trait", "true",
       "type", "union", "unsafe", "use", "where", "while"],
    words 1
      ["bool", "char", "str", "u8", "u16", "u32", "u64", "u128", "usize", "i8", "i16", "i32",
       "i64", "i128", "isize", "f32", "f64", "String", "Vec", "Box", "Rc", "Arc", "Option",
       "Result", "Some", "None", "Ok", "Err"]]
  expressions := [pattern 0 r"\b\w+!",
    pattern 1 r"'\w+\b",
    pattern 2 r"'(?:[^'\\]|\\.)'",
    pattern 3 r"#!?\[[^\]]*\]"]
  blockExpressions := [⟨some (.integer 0), delimited "r#\"" "\"#"⟩]

/-- Python. -/
def python : Definition where
  name := some "Python"
  style := some "default"
  extensions := some ["py", "pyw", "pyi"]
  numbers := some (.string
    r"\b(?:0[xXoObB][0-9a-fA-F_]+|\d[\d_]*(?:\.\d*)?(?:[eE][+-]?\d+)?j?)\b")
  quotation := some quotes
  lineComment := some (.string "#")
  keywords := [
    words 0
      ["and", "as", "assert", "async", "await", "break", "class", "continue", "def", "del", "elif",
       "else", "except", "finally", "for", "from", "global", "if", "import", "in", "is", "lambda",
       "nonlocal", "not", "or", "pass", "raise", "return", "try", "while", "with", "yield",
       "match", "case"],
    words 3
      ["True", "False", "None", "self", "cls"]]
  expressions := [pattern 0 r"@[\w.]+"]
  blockExpressions := [⟨some (.integer 0), quoted "\"\"\"" "\"\"\""⟩,
    ⟨some (.integer 1), quoted "'''" "'''"⟩,
    ⟨some (.integer 2), quoted "'" "'|$"⟩]

/-- TOML. -/
def toml : Definition where
  name := some "TOML"
  style := some "default"
  extensions := some ["toml"]
  numbers := some (.string
    r"[+-]?\b(?:0[xob][0-9a-fA-F_]+|\d[\d_]*(?:\.\d[\d_]*)?(?:[eE][+-]?\d+)?)\b")
  quotation := some quotes
  lineComment := some (.string "#")
  keywords := [
    words 3
      ["true", "false", "inf", "nan"]]
  expressions := [pattern 0 r"^\s*[A-Za-z0-9_.\-]+",
    pattern 1 "'[^']*'"]
  lineExpressions := [pattern 0 r"^\s*\["]
  blockExpressions := [⟨some (.integer 0), quoted "\"\"\"" "\"\"\""⟩,
    ⟨some (.integer 1), delimited "'''" "'''"⟩]

/-- The built-in definitions by name, a parent before those that are derived from it. -/
def all : List (String × Definition) :=
  [("c", c), ("c++", cpp), ("rust", rust), ("python", python), ("toml", toml)]

end Highlight.Grammar.Builtin
