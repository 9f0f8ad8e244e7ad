import Gemini.VM.Machine

/-!
# Variables, arrays, input and output

What the instructions do to the environment once their operands are known. None of it uses
the operand stack.
-/

namespace Gemini.VM

open Gemini.Semantics
open Gemini.PickFS (StructuredRecord numberFrom ascending_numberFrom)

variable {Double World : Type}

/-- Print a text. -/
def emitText (text : String) : EnvironmentM Double World Unit :=
  modify fun environment => { environment with output := environment.output ++ text }

/-- `readInputLine`, or the error at the end of the input. -/
def readInputLine (op : OpCode) : EnvironmentM Double World String := do
  let environment ← get
  match environment.input with
  | [] => throw (.runtimeError (opCodeName op ++ ": end of input"))
  | line :: rest =>
      set { environment with input := rest }
      return line

/-- `INPUT_INT`. -/
def inputInt : EnvironmentM Double World (Value Double) := do
  let line ← readInputLine .inputInt
  match parseIntLine line.toList with
  | none => throw (.runtimeError "INPUT_INT: invalid integer input")
  | some value => return .int value

/-- `INPUT_STR`. -/
def inputStr : EnvironmentM Double World (Value Double) := do
  let line ← readInputLine .inputStr
  return .string (String.ofList (trim line.toList))

/-! ## Variables -/

/-- The error for a store under a system variable. -/
def readOnlyError (name : String) : Fault :=
  .runtimeError ("Read-only system variable: " ++ name)

/-- A system variable cannot be stored under. -/
def requireWritable (name : String) : EnvironmentM Double World Unit :=
  if isReadOnlySystemVariableName name then throw (readOnlyError name) else pure ()

/-- The value of a variable that the session gives it. -/
def systemVariable (host : Host Double World) (world : World) (name : String) :
    Option (Value Double) :=
  if isReadOnlySystemVariableName name then
    host.systemVarReader.bind fun reader => reader world name
  else none

/-- The value of a variable. System variables come first, and a name without a value is an error. -/
def loadVariable (host : Host Double World) (name : String) :
    EnvironmentM Double World (Value Double) := do
  let environment ← get
  match systemVariable host environment.world name with
  | some value => return value
  | none =>
      match environment.variableMap.lookup name with
      | none => throw (.runtimeError ("Undefined variable: " ++ name))
      | some value => return value

/-- Store a value under a name. -/
def storeVariable (name : String) (value : Value Double) : EnvironmentM Double World Unit :=
  modify fun environment =>
    { environment with variableMap := environment.variableMap.insert name value }

/-- `CLEAR_VARS`. -/
def clearVars : EnvironmentM Double World Unit :=
  modify fun environment => { environment with variableMap := ∅, arrays := ∅ }

/-- A loop has passed its limit. -/
def loopIsDone (frame : ForFrame) (value : Int) : Bool :=
  if 0 < frame.step then frame.limit < value else value < frame.limit

/-! ## Arrays -/

/-- The array of a name, or the error of the instruction that needs it. -/
def findArray (name : String) (missing : Fault) :
    EnvironmentM Double World (List (Value Double)) := do
  match (← get).arrays.lookup name with
  | none => throw missing
  | some elements => return elements

/-- Store an array under a name. -/
def setArray (name : String) (elements : List (Value Double)) :
    EnvironmentM Double World Unit :=
  modify fun environment => { environment with arrays := environment.arrays.insert name elements }

/-- The error for an array that is not there. -/
def notDimensioned (name : String) : Fault := .runtimeError ("Array not dimensioned: " ++ name)

/-- The error for an index that is not there. -/
def indexOutOfBounds (name : String) : Fault :=
  .runtimeError ("Array index out of bounds: " ++ name)

/-- The error of the `MAT` statements for an array that is not there. -/
def matUndefined (name : String) : Fault :=
  .runtimeError ("BUILTIN: MAT undefined array \"" ++ name ++ "\"")

/-- A new array of empty texts. -/
def dimension (name : String) (size : Int) : EnvironmentM Double World Unit :=
  if size < 1 then throw (.runtimeError "DIM: size must be >= 1")
  else setArray name (List.replicate size.toNat (.string ""))

/-- An element, counted from one. -/
def loadElement (name : String) (idx : Int) : EnvironmentM Double World (Value Double) := do
  let elements ← findArray name (notDimensioned name)
  if idx < 1 then throw (indexOutOfBounds name)
  else
    match elements[idx.toNat - 1]? with
    | none => throw (indexOutOfBounds name)
    | some value => return value

/-- Store an element. -/
def storeElement (name : String) (idx : Int) (value : Value Double) :
    EnvironmentM Double World Unit := do
  let elements ← findArray name (notDimensioned name)
  if idx < 1 ∨ elements.length < idx.toNat then throw (indexOutOfBounds name)
  else setArray name (elements.set (idx.toNat - 1) value)

/-- The arrays of integers have a percent sign. -/
def isIntArray (name : String) : Bool := name.toList.getLast? = some '%'

variable [Doubles Double]

/-- `INPUT_FLT`. -/
def inputFlt : EnvironmentM Double World (Value Double) := do
  let line ← readInputLine .inputFlt
  match parseFltLine line.toList with
  | none => throw (.runtimeError "INPUT_FLT: invalid float input")
  | some value => return .double value

/-- The value that `NEXT` gives the variable of a frame. -/
def nextLoopValue (variableMap : AList fun _ : String => Value Double) (frame : ForFrame) : Int :=
  wrapInt (((variableMap.lookup frame.varName).map coerceToInt).getD 0 + frame.step)

/-- Count the variable of a frame on; whether the loop is done. -/
def advanceLoop (frame : ForFrame) : EnvironmentM Double World Bool := do
  requireWritable frame.varName
  let environment ← get
  let newVal := nextLoopValue environment.variableMap frame
  storeVariable frame.varName (.int newVal)
  return loopIsDone frame newVal

/-- What a `MAT` statement stores in an element of an array. -/
def matElement (name : String) (value : Value Double) : Value Double :=
  if isIntArray name then .int (coerceToInt value) else value

/-- Every element becomes the same value. -/
def fillArray (name : String) (scalar : Value Double) : EnvironmentM Double World Unit := do
  let elements ← findArray name (matUndefined name)
  setArray name (elements.map fun _ => matElement name scalar)

/-- An array becomes another one of its length. -/
def copyArray (dst src : String) : EnvironmentM Double World Unit := do
  let target ← findArray dst (matUndefined dst)
  let source ← findArray src (matUndefined src)
  if target.length ≠ source.length then throw (.runtimeError "BUILTIN: MAT dimension mismatch")
  else setArray dst (source.map (matElement dst))

/-- An array becomes the attributes of a record. -/
def loadArrayFromRecord (name raw : String) : EnvironmentM Double World Unit := do
  let elements ← findArray name (matUndefined name)
  let record := StructuredRecord.fromRaw raw
  if record.attributes.length ≠ elements.length then
    throw (.runtimeError "BUILTIN: MAT READ attribute count mismatch")
  else setArray name (record.attributes.map fun entry => matElement name (.string entry.2.raw))

/-- A record with the elements as its attributes. -/
def recordOfArray (name : String) : EnvironmentM Double World String := do
  let elements ← findArray name (matUndefined name)
  let record : StructuredRecord :=
    ⟨numberFrom 1 (elements.map valueToString), ascending_numberFrom _ _⟩
  return record.toRaw

end Gemini.VM
