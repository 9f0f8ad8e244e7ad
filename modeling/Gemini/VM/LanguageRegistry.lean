import Gemini.VM.Machine

/-!
# The language registry and the builtins of BASIC

`dispatch` of the registry, the numbers and arities that the BASIC namespace is registered
with, and the shim through which stored programs call a builtin by its name.
-/

namespace Gemini.VM

open Gemini.Semantics

variable {Double World : Type}

/-- The functions of the BASIC namespace, in the order of their numbers. -/
inductive BasicFunction where
  | abs
  | sgn
  | seq
  | len
  | trim
  | lcase
  | ucase
  | space
  | int
  | mod
  | sin
  | cos
  | tan
  | exp
  | log
  | date
  | time
  | system
  | index
  | field
  | str
  | oconv
  | iconv
  | num
  | convert
  | rnd0
  | rnd1
  | status
deriving DecidableEq

namespace BasicFunction

/-- The number of a builtin function. -/
def id : BasicFunction → Nat
  | .abs => 0
  | .sgn => 1
  | .seq => 2
  | .len => 3
  | .trim => 4
  | .lcase => 5
  | .ucase => 6
  | .space => 7
  | .int => 8
  | .mod => 9
  | .sin => 10
  | .cos => 11
  | .tan => 12
  | .exp => 13
  | .log => 14
  | .date => 15
  | .time => 16
  | .system => 17
  | .index => 18
  | .field => 19
  | .str => 20
  | .oconv => 21
  | .iconv => 22
  | .num => 23
  | .convert => 24
  | .rnd0 => 25
  | .rnd1 => 26
  | .status => 27

/-- The arities of `registerBasicLanguage`. -/
def arity : BasicFunction → Nat
  | .date | .time | .rnd0 | .status => 0
  | .mod | .oconv | .iconv => 2
  | .index | .field | .convert => 3
  | _ => 1

/-- The functions by their numbers. -/
def all : List BasicFunction :=
  [.abs, .sgn, .seq, .len, .trim, .lcase, .ucase, .space, .int, .mod, .sin, .cos, .tan, .exp,
    .log, .date, .time, .system, .index, .field, .str, .oconv, .iconv, .num, .convert, .rnd0,
    .rnd1, .status]

/-- The functions are registered in the order of their numbers. -/
theorem all_id (function : BasicFunction) : all[function.id]? = some function := by
  cases function <;> rfl

end BasicFunction

/-- What `registerBasicLanguage` registers: every function with its arity and its handler. -/
def registerBasicLanguage (handlers : BasicFunction → Handler Double World) :
    List (LanguageFunctionEntry Double World) :=
  BasicFunction.all.map fun function => { arity := function.arity, fn := some (handlers function) }

/-- The namespace of the BASIC functions. -/
def kNamespaceIdBasic : Nat := 2

/-- `functionIdForCall`. -/
def functionIdForCall (name : String) (argCount : Int) : Option BasicFunction :=
  match name with
  | "ABS" => if argCount = 1 then some .abs else none
  | "SGN" => if argCount = 1 then some .sgn else none
  | "SEQ" => if argCount = 1 then some .seq else none
  | "LEN" => if argCount = 1 then some .len else none
  | "TRIM" => if argCount = 1 then some .trim else none
  | "LCASE" => if argCount = 1 then some .lcase else none
  | "UCASE" => if argCount = 1 then some .ucase else none
  | "SPACE" => if argCount = 1 then some .space else none
  | "INT" => if argCount = 1 then some .int else none
  | "MOD" => if argCount = 2 then some .mod else none
  | "SIN" => if argCount = 1 then some .sin else none
  | "COS" => if argCount = 1 then some .cos else none
  | "TAN" => if argCount = 1 then some .tan else none
  | "EXP" => if argCount = 1 then some .exp else none
  | "LOG" => if argCount = 1 then some .log else none
  | "DATE" => if argCount = 0 then some .date else none
  | "TIME" => if argCount = 0 then some .time else none
  | "SYSTEM" => if argCount = 1 then some .system else none
  | "INDEX" => if argCount = 3 then some .index else none
  | "FIELD" => if argCount = 3 then some .field else none
  | "STR" => if argCount = 1 then some .str else none
  | "OCONV" => if argCount = 2 then some .oconv else none
  | "ICONV" => if argCount = 2 then some .iconv else none
  | "NUM" => if argCount = 1 then some .num else none
  | "CONVERT" => if argCount = 3 then some .convert else none
  | "RND" => if argCount = 0 then some .rnd0 else if argCount = 1 then some .rnd1 else none
  | "STATUS" => if argCount = 0 then some .status else none
  | _ => none

/-- The errors of the registry. -/
def languageError (kind detail : String) : Fault :=
  .runtimeError ("LANG: " ++ kind ++ if detail = "" then "" else " (" ++ detail ++ ")")

/-- Run a builtin on the stack. -/
def runHandler (handler : Handler Double World) : MemoryM Double World Unit := do
  let memory ← get
  match ← onEnvironment (attempt (handler memory.environment.statusCode memory.stack)) with
  | .error what => throw (.exception what)
  | .ok stack => modify fun memory => { memory with stack := stack }

/-- `dispatch`: the arity is checked and the handler run. -/
def dispatch (registry : LanguageRegistry Double World) (nsId fnId : Nat) (argCount : Int) :
    MemoryM Double World Unit := do
  match registry nsId with
  | none => throw (languageError "unknown namespace" (toString nsId))
  | some functions =>
      match functions[fnId]? with
      | none => throw (languageError "unknown function" (toString fnId))
      | some entry =>
          match entry.fn with
          | none => throw (languageError "unknown function" (toString fnId))
          | some handler =>
              let memory ← get
              if argCount ≠ entry.arity then throw .arityMismatch
              else if (memory.stack.length : Int) < argCount then throw .arityMismatch
              else runHandler handler

/-! ## Calls by name -/

/-- `argCountForBuiltinName`. -/
def argCountForBuiltinName (name : String) (stackSize : Int) : Int :=
  if name = "RND" then stackSize
  else if name = "DATE" ∨ name = "TIME" ∨ name = "STATUS" then 0
  else if name = "MOD" then 2
  else if name = "INDEX" ∨ name = "FIELD" ∨ name = "CONVERT" then 3
  else if name = "OCONV" ∨ name = "ICONV" then 2
  else 1

/-- `functionIdForBuiltinName`: `RND` has two forms. -/
def functionIdForBuiltinName (name : String) (stackSize : Int) : Option BasicFunction :=
  if name = "RND" then
    if stackSize < 0 ∨ 1 < stackSize then none
    else if stackSize = 0 then some .rnd0 else some .rnd1
  else functionIdForCall name (argCountForBuiltinName name stackSize)

/-- `invokeBuiltinShim`: a builtin by its name. -/
def invokeBuiltinShim (registry : Option (LanguageRegistry Double World)) (name : String) :
    MemoryM Double World Unit := do
  match registry with
  | none => throw (.runtimeError "BUILTIN: registry not configured")
  | some registry =>
      let memory ← get
      let stackSize : Int := memory.stack.length
      let argCount := argCountForBuiltinName name stackSize
      match functionIdForBuiltinName name stackSize with
      | none => throw (.runtimeError ("BUILTIN: unknown " ++ name))
      | some function =>
          if name ≠ "RND" ∧ stackSize < argCount then
            throw (.runtimeError ("BUILTIN: stack underflow for " ++ name))
          else dispatch registry kNamespaceIdBasic function.id argCount

end Gemini.VM
