import Gemini.Basic.Layout
import Gemini.VM.FileInstructions
import Gemini.VM.Rows

/-!
# A reference interpreter for BASIC

What a program means, line by line and without code: the interpreter has the position of the
next line, the lines that `GOSUB` has to come back to and the loops that `FOR` has opened, and
it runs statements on the environment of the machine. Expressions are evaluated from left to
right. A statement in the arm of a branch belongs to the line of the branch, so what it calls
comes back to the next line.

The core of the language has no files and no error handler.
-/

namespace Gemini.Basic

open Gemini.Semantics
open Gemini.VM

variable {Double World : Type}

/-- A builtin as a function of the status code and its arguments. -/
abbrev Builtin (Double World : Type) :=
  Int → List (Value Double) → Program World String (Value Double)

/-- A loop that `FOR` has opened: its variable, its limit and its step, and the position of the
line that follows the `FOR`. -/
structure LoopFrame where
  varName : String
  limit : Int
  step : Int
  body : Nat

/-- The state of the interpreter: its line, its calls and loops, and the environment. -/
structure Interpreter (Double World : Type) where
  position : Nat := 0
  returns : List Nat := []
  loops : List LoopFrame := []
  environment : Environment Double World

/-- Where the interpreter goes on after a statement. -/
inductive Jump where
  | next
  | goTo (position : Nat)
  | stop

/-- What a statement does, or the fault that ends the program. -/
abbrev InterpreterM (Double World : Type) := Program (Interpreter Double World) Fault

/-- Code that works on the environment alone. -/
def onState {Result : Type} (code : EnvironmentM Double World Result) :
    InterpreterM Double World Result :=
  Program.zoom Interpreter.environment (fun state environment => { state with environment }) code

/-! ## Expressions -/

/-- A result, or its fault. -/
def liftResult {Result : Type} : Except Fault Result → EnvironmentM Double World Result
  | .ok result => pure result
  | .error fault => throw fault

/-- A builtin on its arguments; what it throws is a fault. -/
def Builtin.run (builtin : Builtin Double World) (arguments : List (Value Double)) :
    EnvironmentM Double World (Value Double) := do
  let environment ← get
  match ← attempt (builtin environment.statusCode arguments) with
  | .ok value => return value
  | .error what => throw (.exception what)

/-- The arguments of a call; the occurrence that `INDEX` looks for is the first by default. -/
def completed (name : String) (given : List (Value Double)) : List (Value Double) :=
  if name = "INDEX" ∧ given.length = 2 then given ++ [.int 1] else given

/-- A call of a builtin, with the arguments that are left out filled in. -/
def callBuiltin (builtins : BasicFunction → Builtin Double World) (name : String)
    (given : List (Value Double)) : EnvironmentM Double World (Value Double) :=
  match functionIdForCall name (completed name given).length with
  | none => throw (.runtimeError ("Internal error: unsupported builtin " ++ name))
  | some function => (builtins function).run (completed name given)

section Interpret

variable [Doubles Double] (host : Host Double World)
  (builtins : BasicFunction → Builtin Double World)

/-- An operator on two values. -/
def BinaryOp.apply : BinaryOp → Value Double → Value Double → Except Fault (Value Double)
  | .add, a, b => .ok (arithmeticOf (· + ·) Doubles.add a b)
  | .subtract, a, b => .ok (arithmeticOf (· - ·) Doubles.sub a b)
  | .multiply, a, b => .ok (arithmeticOf (· * ·) Doubles.mul a b)
  | .divide, a, b => quotientOf a b
  | .equal, a, b => comparisonOf "EQ" (· = .eq) a b
  | .notEqual, a, b => comparisonOf "NE" (· ≠ .eq) a b
  | .lessThan, a, b => comparisonOf "LT" (· = .lt) a b
  | .lessOrEqual, a, b => comparisonOf "LE" (· ≠ .gt) a b
  | .greaterThan, a, b => comparisonOf "GT" (· = .gt) a b
  | .greaterOrEqual, a, b => comparisonOf "GE" (· ≠ .lt) a b

mutual

/-- The value of an expression; operands are evaluated from the left. -/
def evaluate : Expr Double → EnvironmentM Double World (Value Double)
  | .intLiteral value => return .int value
  | .floatLiteral value => return .double value
  | .stringLiteral value => return .string value
  | .identifier name => loadVariable host (uppercase name)
  | .negate operand => do
      let value ← evaluate operand
      liftResult (BinaryOp.subtract.apply (.int 0) value)
  | .binary op left right => do
      let a ← evaluate left
      let b ← evaluate right
      liftResult (op.apply a b)
  | .grouped expression => evaluate expression
  | .subscript varName index => do
      let index ← evaluate index
      loadElement (uppercase varName) (coerceToInt index)
  | .attributeAccess varName attr => do
      let record ← loadVariable host (uppercase varName)
      let attr ← evaluate attr
      return extractedAttr record attr (.int 0)
  | .valueAccess varName attr valueIndex => do
      let record ← loadVariable host (uppercase varName)
      let attr ← evaluate attr
      let valueIndex ← evaluate valueIndex
      return extractedAttr record attr valueIndex
  | .dictField token => return .string token
  | .functionCall name arguments => do
      let values ← evaluateAll arguments
      callBuiltin builtins name values

/-- The values of the arguments, from the first to the last. -/
def evaluateAll : List (Expr Double) → EnvironmentM Double World (List (Value Double))
  | [] => return []
  | argument :: rest => do
      let value ← evaluate argument
      let values ← evaluateAll rest
      return value :: values

end

/-! ## Statements -/

/-- What a variable of this name holds after an assignment of a value. -/
def coerced (variableName : String) (value : Value Double) : Value Double :=
  if isIntVar variableName then .int (coerceToInt value) else value

/-- An assignment to a variable that may be written. -/
def assign (variableName : String) (value : Value Double) : EnvironmentM Double World Unit := do
  requireWritable (uppercase variableName)
  storeVariable (uppercase variableName) (coerced variableName value)

/-- `PRINT` of a value, without the end of the line. -/
def printValue (value : Value Double) : EnvironmentM Double World Unit :=
  emitText (valueToString value)

/-- The prompt of an `INPUT`, if there is one. -/
def promptFor : Option (Expr Double) → EnvironmentM Double World Unit
  | none => pure ()
  | some promptExpr => do printValue (← evaluate host builtins promptExpr)

/-- The step of a `FOR`; without one it is 1. -/
def stepOf : Option (Expr Double) → EnvironmentM Double World (Value Double)
  | none => return .int 1
  | some stepExpr => evaluate host builtins stepExpr

/-- Whether a condition holds; it has to be an integer. -/
def holds : Value Double → Except Fault Bool
  | .int number => .ok (number ≠ 0)
  | _ => .error (.runtimeError (opCodeName .jumpIfZero ++ ": expected int on stack"))

/-- Count the variable of a loop on; whether the loop is done. -/
def countLoop (loop : LoopFrame) : EnvironmentM Double World Bool := do
  requireWritable loop.varName
  let environment ← get
  let count :=
    wrapInt (((environment.variableMap.lookup loop.varName).map coerceToInt).getD 0 + loop.step)
  storeVariable loop.varName (.int count)
  return if 0 < loop.step then loop.limit < count else count < loop.limit

/-- `FOR`, when its counter is set. -/
def openLoop (variableName : String) (limit step : Int) : InterpreterM Double World Jump := do
  if step = 0 then throw (.runtimeError "FOR: STEP cannot be zero")
  else
    modify fun state =>
      { state with
        loops := { varName := uppercase variableName, limit, step, body := state.position + 1 } ::
          state.loops }
    return .next

/-- `NEXT`: the loop goes round, or it is closed. -/
def closeLoop (variableName : String) : InterpreterM Double World Jump := do
  match (← get).loops with
  | [] => throw (.runtimeError "NEXT without FOR")
  | loop :: outer =>
      if uppercase variableName ≠ "" ∧ loop.varName ≠ uppercase variableName then
        throw (.runtimeError "FOR/NEXT variable mismatch")
      else if ← onState (countLoop loop) then
        modify fun state => { state with loops := outer }
        return .next
      else return .goTo loop.body

/-- `RETURN`. -/
def comeBack : InterpreterM Double World Jump := do
  let state ← get
  match state.returns with
  | [] => throw (.runtimeError "RETURN without GOSUB")
  | position :: rest =>
      set { state with returns := rest }
      return .goTo position

variable (lines : List (BasicLine Double))

/-- `GOTO`, with the error of a line that is not there. -/
def goToLine (target : Int) : InterpreterM Double World Jump :=
  match linePosition lines target with
  | none => throw (.runtimeError ("Unknown target line " ++ toString target))
  | some position => return .goTo position

mutual

/-- A statement of the line at the interpreter's position. -/
def interpret : Stmt Double → InterpreterM Double World Jump
  | .letStmt variableName expression => do
      onState do assign variableName (← evaluate host builtins expression)
      return .next
  | .letArray variableName indexExpr valueExpr => do
      onState do
        let value ← evaluate host builtins valueExpr
        let index ← evaluate host builtins indexExpr
        requireWritable (uppercase variableName)
        storeElement (uppercase variableName) (coerceToInt index) (coerced variableName value)
      return .next
  | .dim variableName sizeExpr => do
      onState do
        let size ← evaluate host builtins sizeExpr
        requireWritable (uppercase variableName)
        dimension (uppercase variableName) (coerceToInt size)
      return .next
  | .print expression suppressEol => do
      onState do
        printValue (← evaluate host builtins expression)
        if suppressEol then pure () else emitText "\n"
      return .next
  | .input promptExpr variableName => do
      onState do
        promptFor host builtins promptExpr
        assign variableName (← inputStr)
      return .next
  | .ifStmt condition thenArm elseArm => do
      let value ← onState (evaluate host builtins condition)
      if ← onState (liftResult (holds value)) then interpretArm thenArm
      else interpretElse elseArm
  | .goto targetLine => goToLine lines targetLine
  | .gosub targetLine => do
      modify fun state => { state with returns := (state.position + 1) :: state.returns }
      goToLine lines targetLine
  | .returnStmt => comeBack
  | .forStmt variableName initExpr limitExpr stepExpr => do
      let (limit, step) ← onState do
        assign variableName (← evaluate host builtins initExpr)
        let limit ← evaluate host builtins limitExpr
        let step ← stepOf host builtins stepExpr
        return (limit, step)
      openLoop variableName (coerceToInt limit) (coerceToInt step)
  | .next variableName => closeLoop variableName
  | .clear => do
      onState clearVars
      return .next
  | .stop => return .stop
  | .endStmt => return .stop
  | .rem => return .next
  | _ => throw (.runtimeError "not a statement of the core")

/-- An arm: the line that it goes to, or its statement. -/
def interpretArm : BranchArm Double → InterpreterM Double World Jump
  | .line target => goToLine lines target
  | .inline statement => interpret statement

/-- An `ELSE`; without one the next line follows. -/
def interpretElse : Option (BranchArm Double) → InterpreterM Double World Jump
  | none => return .next
  | some arm => interpretArm arm

end

/-- A line of the program. -/
def interpretTurn (state : Interpreter Double World) :
    Turn (Interpreter Double World) (Outcome Double World) :=
  match lines[state.position]? with
  | none => .ends (.finished state.environment)
  | some line =>
      match Program.exec (interpret host builtins lines line.statement) state with
      | (.ok .next, after) => .goesOn { after with position := state.position + 1 }
      | (.ok (.goTo position), after) => .goesOn { after with position }
      | (.ok .stop, after) => .ends (.finished after.environment)
      | (.error fault, after) => .ends (.failed fault line.lineNumber after.environment)

end Interpret

/-- The interpreter before the first line. -/
def startInterpreter (input : List String) (world : World) : Interpreter Double World where
  environment := { input := input, world := world }

/-! ## The core of the language -/

mutual

/-- The statements without files and error handlers. -/
def Stmt.isCore : Stmt Double → Bool
  | .letStmt _ _ | .letArray _ _ _ | .dim _ _ | .print _ _ | .input _ _ => true
  | .ifStmt _ thenArm elseArm => thenArm.isCore && elseIsCore elseArm
  | .goto _ | .gosub _ | .returnStmt | .forStmt _ _ _ _ | .next _ => true
  | .clear | .stop | .endStmt | .rem => true
  | _ => false

/-- An arm is in the core when its statement is. -/
def BranchArm.isCore : BranchArm Double → Bool
  | .line _ => true
  | .inline statement => statement.isCore

/-- An `ELSE` is in the core when its arm is. -/
def elseIsCore : Option (BranchArm Double) → Bool
  | none => true
  | some arm => arm.isCore

end

end Gemini.Basic
