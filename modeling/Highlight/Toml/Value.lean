/-
  The values a TOML document is made of.

  `Value` is a scalar, an array or a table; a table lists its keys in the order in which they were
  declared.  The functions `string?`, `integer?`, … are the views of a value that readers of
  documents use.
-/
import Highlight.Dict
import Highlight.Toml.Binary64
import Highlight.Toml.DateTime

namespace Highlight.Toml

/-- A value of a document. -/
inductive Value where
  | string (s : String)
  | integer (n : Int)
  | real (x : Binary64)
  | boolean (b : Bool)
  | dateTime (d : DateTime)
  | array (elements : List Value)
  | table (entries : List (String × Value))
  deriving Repr, Inhabited

/-- The keys of a table with their values. -/
abbrev Table := Dict String Value

namespace Value

/-- The word for the kind of a value. -/
def kind : Value → String
  | string _ => "string"
  | integer _ => "integer"
  | real _ => "float"
  | boolean _ => "boolean"
  | dateTime _ => "datetime"
  | array _ => "array"
  | table _ => "table"

def string? : Value → Option String
  | string s => some s
  | _ => none

def integer? : Value → Option Int
  | integer n => some n
  | _ => none

def boolean? : Value → Option Bool
  | boolean b => some b
  | _ => none

def array? : Value → Option (List Value)
  | array vs => some vs
  | _ => none

end Value

end Highlight.Toml
