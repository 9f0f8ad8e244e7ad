import Gemini.VM.LanguageRegistry
import Gemini.VM.Numerals
import Gemini.Basic.Ast

/-!
# Names of variables and builtins

The checks of `BasicCompileUtils` and the tables of `BasicBuiltinNames` that the statement
parser and the emitter share.
-/

namespace Gemini.Basic

/-- `std::toupper` on every character. -/
def uppercase (s : String) : String := s.map Char.toUpper

/-- The name of an operand is canonical. -/
theorem canonicalVariableName_uppercase (name : String) :
    Gemini.VM.canonicalVariableName (uppercase name) = uppercase name := by
  rw [Gemini.VM.canonicalVariableName, uppercase, String.map_map]
  congr 1
  funext c
  exact VM.toUpper_toUpper c

/-- The system variables of a session, which no program assigns. -/
def isReadonlySessionSystemVariable (token : String) : Bool :=
  let u := uppercase token
  u = "@USERNO" || u = "@ACCOUNT" || u = "@LOGNAME" || u = "@DEFDATA"

/-- The characters of a name before its type suffix, which has to follow something. -/
def nameBody (token : List Char) : List Char :=
  if 1 < token.length && (token.getLast? = some '$' || token.getLast? = some '%') then
    token.dropLast
  else token

/-- The names that a variable may have. -/
def isValidVariableName (token : String) : Bool :=
  match token.toList with
  | [] => false
  | '@' :: _ => isReadonlySessionSystemVariable token
  | first :: rest => first.isAlpha && (nameBody (first :: rest)).all Char.isAlphanum

/-- A name that ends with `$` is that of a string variable. -/
def isStringVar (name : String) : Bool := name.toList.getLast? = some '$'

/-- A name that ends with `%` is that of a variable of whole numbers. -/
def isIntVar (name : String) : Bool := name.toList.getLast? = some '%'

/-- The least and the greatest number of arguments of a builtin. -/
def builtinArityBounds (upper : String) : Option (Nat × Nat) :=
  if upper ∈ ["DATE", "TIME", "STATUS"] then some (0, 0)
  else if upper = "RND" then some (0, 1)
  else if upper = "MOD" then some (2, 2)
  else if upper = "INDEX" then some (2, 3)
  else if upper = "FIELD" then some (3, 3)
  else if upper ∈ ["OCONV", "ICONV"] then some (2, 2)
  else if upper = "CONVERT" then some (3, 3)
  else if upper ∈ ["ABS", "SGN", "SEQ", "LEN", "TRIM", "LCASE", "UCASE", "SPACE", "INT", "SIN",
      "COS", "TAN", "EXP", "LOG", "SYSTEM", "STR", "NUM"] then some (1, 1)
  else none

/-- The names of the builtins. -/
def isBuiltinCallName (upper : String) : Bool :=
  upper ∈ ["ABS", "SGN", "SEQ", "LEN", "TRIM", "LCASE", "UCASE", "SPACE", "INT", "MOD", "RND",
    "SIN", "COS", "TAN", "EXP", "LOG", "DATE", "TIME", "SYSTEM", "INDEX", "FIELD", "STR",
    "OCONV", "ICONV", "NUM", "CONVERT", "STATUS"]

end Gemini.Basic
