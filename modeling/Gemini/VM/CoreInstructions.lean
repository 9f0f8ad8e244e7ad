import Gemini.VM.Environment
import Gemini.VM.LanguageRegistry

/-!
# The instructions on the stack, the variables and the arrays

The cases of `Runtime::step` that neither touch files nor transfer control. An instruction
takes its operand and its values from the stack before it acts on the environment.
-/

namespace Gemini.VM

open Gemini.Semantics

variable {Double World : Type}

/-! ## Operands -/

/-- The error for an operand of another type. -/
def operandError (instr : Instruction Double) (ip : Nat) (expected : String) : Fault :=
  .runtimeError ("Instruction " ++ toString ip ++ " (" ++ opCodeName instr.op ++
    "): expected " ++ expected ++ " operand")

/-- `intOperandAtIp`. -/
def intOperandAtIp (instr : Instruction Double) (ip : Nat) : MemoryM Double World Int :=
  match instr.operand with
  | .int number => pure number
  | _ => throw (operandError instr ip "int")

/-- `stringOperandAtIp`. -/
def stringOperandAtIp (instr : Instruction Double) (ip : Nat) : MemoryM Double World String :=
  match instr.operand with
  | .string text => pure text
  | _ => throw (operandError instr ip "string")

/-- `floatOperandAtIp`. -/
def floatOperandAtIp (instr : Instruction Double) (ip : Nat) : MemoryM Double World Double :=
  match instr.operand with
  | .double number => pure number
  | _ => throw (operandError instr ip "float")

/-- The operand of an instruction that names a variable, an array or a file variable. -/
def nameOperandAtIp (instr : Instruction Double) (ip : Nat) : MemoryM Double World String := do
  let name ← stringOperandAtIp instr ip
  return canonicalVariableName name

/-- `popInt`. -/
def popInt (op : OpCode) : MemoryM Double World Int := do
  match ← pop with
  | .int number => return number
  | _ => throw (.runtimeError (opCodeName op ++ ": expected int on stack"))

/-- `popString`. -/
def popString (op : OpCode) : MemoryM Double World String := do
  match ← pop with
  | .string text => return text
  | _ => throw (.runtimeError (opCodeName op ++ ": expected string on stack"))

/-- Push what an action on the environment gives. -/
def pushFrom (code : EnvironmentM Double World (Value Double)) : MemoryM Double World Unit := do
  let value ← onEnvironment code
  push value

/-! ## Values -/

/-- `MOD`. -/
def modulo : MemoryM Double World Unit := do
  let b ← popInt .mod
  let a ← popInt .mod
  if b = 0 then throw (.runtimeError "MOD: division by zero")
  else push (.int (a.tmod b))

/-- `CONCAT`. -/
def concat : MemoryM Double World Unit := do
  let b ← popString .concat
  let a ← popString .concat
  push (.string (a ++ b))

/-- `DUP`. -/
def dup : MemoryM Double World Unit := do
  let memory ← get
  match memory.stack with
  | [] => throw .stackUnderflow
  | value :: _ => push value

/-- `PRINT_CHAR`. -/
def printChar : MemoryM Double World Unit := do
  let v ← popInt .printChar
  if v < 0 ∨ 255 < v then throw (.runtimeError "PRINT_CHAR: code point out of range")
  else onEnvironment (emitText (String.ofList [Char.ofNat v.toNat]))

/-- `CALL_FUNC`. -/
def callFunc (host : Host Double World) (call : CallFuncOperand) :
    MemoryM Double World Unit := do
  match host.languageRegistry with
  | none => throw (.runtimeError "LANG: registry not configured")
  | some registry =>
      let memory ← get
      if (memory.stack.length : Int) < call.argCount then throw .arityMismatch
      else dispatch registry call.namespaceId call.functionId call.argCount

/-! ## Variables -/

/-- `LOAD_VAR`. -/
def loadVar (host : Host Double World) (instr : Instruction Double) (ip : Nat) :
    MemoryM Double World Unit := do
  let name ← nameOperandAtIp instr ip
  pushFrom (loadVariable host name)

/-- `STORE_VAR`. -/
def storeVar (instr : Instruction Double) (ip : Nat) : MemoryM Double World Unit := do
  let name ← nameOperandAtIp instr ip
  onEnvironment (requireWritable name)
  let value ← pop
  onEnvironment (storeVariable name value)

variable [Doubles Double]

/-- A value from the stack as an integer. -/
def popCoercedInt : MemoryM Double World Int := do
  let value ← pop
  return coerceToInt value

/-- A value from the stack as a text. -/
def popText : MemoryM Double World String := do
  let value ← pop
  return valueToString value

/-! ## Arithmetic and comparison -/

/-- `Add`, `Sub` and `Mul` of two values. -/
def arithmeticOf (onInts : Int → Int → Int) (onDoubles : Double → Double → Double) :
    Value Double → Value Double → Value Double
  | .int x, .int y => .int (wrapInt (onInts x y))
  | a, b => arithmeticResultValue a b (onDoubles (coerceToDouble a) (coerceToDouble b))

/-- `Div` of two values. -/
def quotientOf (a b : Value Double) : Except Fault (Value Double) :=
  if Doubles.eq (coerceToDouble b) (Doubles.ofInt 0) then
    .error (.runtimeError "DIV: divide by zero")
  else
    let quotient := Doubles.div (coerceToDouble a) (coerceToDouble b)
    match a, b with
    | .int _, .int _ => .ok (.int (Doubles.toInt quotient))
    | _, _ => .ok (.double quotient)

/-- A comparison of two values: which outcomes of `compareValues` give 1. -/
def comparisonOf (ctx : String) (holds : Ordering → Bool) (a b : Value Double) :
    Except Fault (Value Double) :=
  match compareValues a b with
  | none => .error (.runtimeError (ctx ++ ": type mismatch"))
  | some order => .ok (.int (if holds order then 1 else 0))

/-- An instruction on two values, the right one on top of the stack. -/
def binary (operation : Value Double → Value Double → Except Fault (Value Double)) :
    MemoryM Double World Unit := do
  let b ← pop
  let a ← pop
  match operation a b with
  | .ok value => push value
  | .error fault => throw fault

/-- `ADD`, `SUB` and `MUL`. -/
def arithmetic (onInts : Int → Int → Int) (onDoubles : Double → Double → Double) :
    MemoryM Double World Unit :=
  binary fun a b => .ok (arithmeticOf onInts onDoubles a b)

/-- `DIV`. -/
def divide : MemoryM Double World Unit := binary quotientOf

/-- The comparisons. -/
def comparison (ctx : String) (holds : Ordering → Bool) : MemoryM Double World Unit :=
  binary (comparisonOf ctx holds)

/-- `PRINT_VAL`. -/
def printVal : MemoryM Double World Unit := do
  let text ← popText
  onEnvironment (emitText text)

/-- `COERCE_INT`. -/
def coerceTopToInt : MemoryM Double World Unit := do
  let v ← popCoercedInt
  push (.int v)

/-- `COERCE_FLT`. -/
def coerceTopToFlt : MemoryM Double World Unit := do
  let v ← pop
  push (.double (coerceToDouble v))

/-- `ABS_INT`. -/
def absInt : MemoryM Double World Unit := do
  let v ← popCoercedInt
  push (.int (wrapInt v.natAbs))

/-- `SGN_INT`. -/
def sgnInt : MemoryM Double World Unit := do
  let v ← popCoercedInt
  push (.int (if 0 < v then 1 else if v < 0 then -1 else 0))

/-- `SEQ_STR`. -/
def seqStr : MemoryM Double World Unit := do
  let s ← popText
  push (.int ((s.toList.head?.map fun c => (c.toNat : Int)).getD 0))

/-! ## Arrays -/

/-- `DIM_ARRAY`. -/
def dimArray (instr : Instruction Double) (ip : Nat) : MemoryM Double World Unit := do
  let name ← nameOperandAtIp instr ip
  onEnvironment (requireWritable name)
  let size ← popCoercedInt
  onEnvironment (dimension name size)

/-- `LOAD_ARR`. -/
def loadArr (instr : Instruction Double) (ip : Nat) : MemoryM Double World Unit := do
  let name ← nameOperandAtIp instr ip
  let idx ← popCoercedInt
  pushFrom (loadElement name idx)

/-- `STORE_ARR`. -/
def storeArr (instr : Instruction Double) (ip : Nat) : MemoryM Double World Unit := do
  let name ← nameOperandAtIp instr ip
  onEnvironment (requireWritable name)
  let idx ← popCoercedInt
  let value ← pop
  onEnvironment (storeElement name idx value)

/-- `MAT_INIT`. -/
def matInit (instr : Instruction Double) (ip : Nat) : MemoryM Double World Unit := do
  let name ← nameOperandAtIp instr ip
  onEnvironment (requireWritable name)
  let scalar ← pop
  onEnvironment (fillArray name scalar)

/-- `MAT_COPY`: the two names are in one operand. -/
def matCopy (instr : Instruction Double) (ip : Nat) : MemoryM Double World Unit := do
  let operand ← stringOperandAtIp instr ip
  if '|' ∉ operand.toList then throw (.runtimeError "MAT_COPY: operand must be DST|SRC")
  else
    let dst := canonicalVariableName (String.ofList (operand.toList.takeWhile (· ≠ '|')))
    let src :=
      canonicalVariableName (String.ofList (operand.toList.dropWhile (· ≠ '|')).tail)
    onEnvironment (requireWritable dst)
    onEnvironment (copyArray dst src)

/-- `MAT_LOAD_FROM_REC`. -/
def matLoadFromRec (instr : Instruction Double) (ip : Nat) : MemoryM Double World Unit := do
  let name ← nameOperandAtIp instr ip
  onEnvironment (requireWritable name)
  let raw ← popText
  onEnvironment (loadArrayFromRecord name raw)

/-- `MAT_STORE_TO_REC`. -/
def matStoreToRec (instr : Instruction Double) (ip : Nat) : MemoryM Double World Unit := do
  let name ← nameOperandAtIp instr ip
  let raw ← onEnvironment (recordOfArray name)
  push (.string raw)

end Gemini.VM
