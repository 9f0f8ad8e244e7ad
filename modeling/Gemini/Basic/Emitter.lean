import Gemini.Basic.Names
import Gemini.Basic.Analyzer
import Gemini.Semantics.Program

/-!
# The bytecode emitter

`BasicBytecodeEmitter::emit` turns the lines of a program into instructions. It appends code
as it goes: a jump over code that is not there yet is emitted with the target 0 and patched
when its target is reached, and a jump to a line is patched after the last line.

A statement in the arm of a branch is emitted as a statement of a line is, but fewer
statements are supported there.
-/

namespace Gemini.Basic

open Gemini.VM (Instruction OpCode Value functionIdForCall kNamespaceIdBasic)
open Gemini.Semantics

variable {Double : Type}

/-! ## Expressions -/

/-- The operators that ask for numbers. -/
def BinaryOp.isArithmetic : BinaryOp → Bool
  | .add | .subtract | .multiply | .divide => true
  | _ => false

/-- The opcode of an operator. -/
def BinaryOp.toOpCode : BinaryOp → OpCode
  | .add => .add
  | .subtract => .sub
  | .multiply => .mul
  | .divide => .div
  | .equal => .eq
  | .notEqual => .ne
  | .lessThan => .lt
  | .lessOrEqual => .le
  | .greaterThan => .gt
  | .greaterOrEqual => .ge

/-- The instruction that pushes a whole number. -/
def pushInt (value : Int) : Instruction Double := { op := .pushInt, operand := .int value }

/-- An instruction whose operand is a name. -/
def onName (op : OpCode) (name : String) : Instruction Double :=
  { op, operand := .string (uppercase name) }

/-- Whether an argument of a builtin is an operand of arithmetic. -/
def builtinArgInArithmetic (name : String) (argIndex : Nat) : Bool :=
  if name = "INDEX" then argIndex = 2
  else if name = "FIELD" then argIndex = 2
  else if name = "STR" then true
  else if name = "OCONV" then false
  else if name ∈ ["ICONV", "CONVERT", "NUM"] then false
  else if name ∈ ["SEQ", "LEN", "TRIM", "LCASE", "UCASE"] then false
  else if name ∈ ["DATE", "TIME"] then false
  else true

/-- The call of a builtin whose arguments are on the stack. `INDEX` with two arguments gets
the occurrence 1 as its third. -/
def emitCall (name : String) (got : Nat) : Except String (List (Instruction Double)) :=
  let isShortIndex := name = "INDEX" ∧ got = 2
  let effectiveArgCount := if isShortIndex then 3 else got
  match functionIdForCall name effectiveArgCount with
  | none => .error ("Internal error: unsupported builtin " ++ name)
  | some function =>
      .ok ((if isShortIndex then [pushInt 1] else []) ++
        [{ op := .callFunc,
           callFunc := { namespaceId := kNamespaceIdBasic, functionId := function.id,
                         argCount := effectiveArgCount } }])

/-- The check of the number of arguments. -/
def checkArity (name : String) (got : Nat) : Except String Unit :=
  match builtinArityBounds name with
  | none => .error ("Internal error: unsupported builtin " ++ name)
  | some (minArgs, maxArgs) =>
      if got < minArgs ∨ maxArgs < got then
        .error (name ++ " expects " ++ toString minArgs ++ " to " ++ toString maxArgs ++
          " argument(s), got " ++ toString got)
      else .ok ()

mutual

/-- The code of an expression, which leaves its value on the stack. A string variable is
refused where `inArithmetic` is set. -/
def emitNode : Expr Double → Bool → Except String (List (Instruction Double))
  | .intLiteral value, _ => .ok [pushInt value]
  | .floatLiteral value, _ => .ok [{ op := .pushFlt, operand := .double value }]
  | .stringLiteral value, _ => .ok [{ op := .pushStr, operand := .string value }]
  | .dictField token, inArithmetic =>
      if inArithmetic then
        .error "DICT field tokens cannot be used in an arithmetic expression"
      else if token = "" then .error "DICT field token cannot be empty"
      else .ok [{ op := .pushStr, operand := .string token }]
  | .identifier name, inArithmetic =>
      if !isValidVariableName name then .error ("Invalid variable name '" ++ name ++ "'")
      else if inArithmetic && isStringVar name then
        .error ("String variable '" ++ name ++ "' cannot be used in an arithmetic expression")
      else .ok [onName .loadVar name]
  | .negate operand, _ => do
      let code ← emitNode operand true
      return pushInt 0 :: code ++ [{ op := .sub }]
  | .binary op left right, _ => do
      let leftCode ← emitNode left op.isArithmetic
      let rightCode ← emitNode right op.isArithmetic
      return leftCode ++ rightCode ++ [{ op := op.toOpCode }]
  | .grouped expression, inArithmetic => emitNode expression inArithmetic
  | .subscript varName index, inArithmetic =>
      if !isValidVariableName varName then
        .error ("Invalid array variable name '" ++ varName ++ "'")
      else if inArithmetic && isStringVar varName then
        .error ("String array '" ++ varName ++ "' cannot be used in an arithmetic expression")
      else do
        let code ← emitNode index false
        return code ++ [onName .loadArr varName]
  | .attributeAccess varName attr, _ =>
      if !isValidVariableName varName then .error ("Invalid variable name '" ++ varName ++ "'")
      else do
        let attrCode ← emitNode attr false
        return onName .loadVar varName :: attrCode ++ [pushInt 0, { op := .extractAttr }]
  | .valueAccess varName attr valueIndex, _ =>
      if !isValidVariableName varName then .error ("Invalid variable name '" ++ varName ++ "'")
      else do
        let attrCode ← emitNode attr false
        let indexCode ← emitNode valueIndex false
        return onName .loadVar varName :: attrCode ++ indexCode ++ [{ op := .extractAttr }]
  | .functionCall name arguments, _ => do
      checkArity name arguments.length
      let argumentCode ← emitArguments name 0 arguments
      let callCode ← emitCall name arguments.length
      return argumentCode ++ callCode

/-- The code of the arguments of a builtin from one of them on. -/
def emitArguments (name : String) (argIndex : Nat) :
    List (Expr Double) → Except String (List (Instruction Double))
  | [] => .ok []
  | argument :: rest => do
      let code ← emitNode argument (builtinArgInArithmetic name argIndex)
      let restCode ← emitArguments name (argIndex + 1) rest
      return code ++ restCode

end

/-! ## Appending and patching -/

/-- An instruction whose operand is to be the start of a line. -/
structure JumpFixup where
  instructionIndex : Nat
  targetLine : Int
deriving DecidableEq

/-- What has been emitted: the code, the jumps to lines, and whether a line was `END`. -/
structure Emission (Double : Type) where
  program : List (Instruction Double) := []
  jumpFixups : List JumpFixup := []
  explicitEnd : Bool := false

/-- What `BasicEmitter` does to the program that it builds up, or the error that it throws. -/
abbrev EmitM (Double : Type) := Program (Emission Double) String

/-- The index of the next instruction. -/
def currentIp : EmitM Double Nat := do return (← get).program.length

/-- Append instructions that need no correction. -/
def emitInstrs (code : List (Instruction Double)) : EmitM Double Unit :=
  modify fun emission => { emission with program := emission.program ++ code }

/-- `result.program[ip].operand = target`. -/
def patch (ip target : Nat) : EmitM Double Unit :=
  modify fun emission =>
    { emission with
      program := emission.program.modify ip fun instr => { instr with operand := .int target } }

/-- An instruction that refers to a line. -/
def emitReference (op : OpCode) (targetLine : Int) : EmitM Double Unit := do
  let ip ← currentIp
  emitInstrs [{ op, operand := .int 0 }]
  modify fun emission =>
    { emission with
      jumpFixups := emission.jumpFixups ++ [{ instructionIndex := ip, targetLine }] }

/-- `emitExpr`: the code of an expression, or the error of the statement that it is in. -/
def emitExpression (context : String) (expression : Expr Double) : EmitM Double Unit :=
  match emitNode expression false with
  | .ok code => emitInstrs code
  | .error error => throw (context ++ " error: " ++ error)

/-- An `IF`: its condition, its arms, and whether the `THEN` arm is a line. -/
def emitIf (condition : Expr Double) (thenIsLine : Bool) (thenArm : EmitM Double Unit)
    (elseArm : Option (EmitM Double Unit)) : EmitM Double Unit := do
  emitExpression "IF condition" condition
  let jzIp ← currentIp
  emitInstrs [{ op := .jumpIfZero, operand := .int 0 }]
  thenArm
  match elseArm with
  | none => patch jzIp (← currentIp)
  | some elseArm =>
      if thenIsLine then
        let elseStartIp ← currentIp
        elseArm
        patch jzIp elseStartIp
      else
        let jumpAfterElseIp ← currentIp
        emitInstrs [{ op := .jump, operand := .int 0 }]
        let elseStartIp ← currentIp
        elseArm
        patch jzIp elseStartIp
        patch jumpAfterElseIp (← currentIp)

/-- An instruction on a file and what follows it when it is done. With an `ELSE` arm the
instruction has its `Try` form, and what it has left on the stack is cleared before the arm. -/
def emitFileAction (plain tried : OpCode) (fileVar : String)
    (onDone onFailed : List (Instruction Double)) (elseArm : Option (EmitM Double Unit)) :
    EmitM Double Unit := do
  match elseArm with
  | none => emitInstrs (onName plain fileVar :: onDone)
  | some elseArm =>
      emitInstrs [onName tried fileVar]
      let jzIp ← currentIp
      emitInstrs [{ op := .jumpIfZero, operand := .int 0 }]
      emitInstrs onDone
      let skipElseJumpIp ← currentIp
      emitInstrs [{ op := .jump, operand := .int 0 }]
      let failPathIp ← currentIp
      emitInstrs onFailed
      elseArm
      patch jzIp failPathIp
      patch skipElseJumpIp (← currentIp)

/-! ## Statements -/

/-- A variable of whole numbers takes what it is assigned as an `int`. -/
def coercion (variableName : String) : List (Instruction Double) :=
  if isIntVar variableName then [{ op := .coerceInt }] else []

/-- The instruction of `MAT A = B`. -/
def matCopyInstr (targetArray rhsSourceArray : String) : Instruction Double where
  op := .matCopy
  operand := .string (uppercase targetArray ++ "|" ++ uppercase rhsSourceArray)

/-- Whether an expression is a field of a dictionary. -/
def isDictField : Expr Double → Bool
  | .dictField _ => true
  | _ => false

/-- Whether the attribute of a `READV` is a name that the dictionary resolves. -/
def readVAttrNeedsDictResolve : Expr Double → Bool
  | .dictField _ => true
  | .stringLiteral _ => true
  | _ => false

/-- The value index of `READV` and `WRITEV`; 0 when there is none. -/
def emitValueIndex (context : String) : Option (Expr Double) → EmitM Double Unit
  | some valueIndex => emitExpression context valueIndex
  | none => emitInstrs [pushInt 0]

/-- The prompt of an `INPUT`, printed without a newline. -/
def emitPrompt : Option (Expr Double) → EmitM Double Unit
  | none => pure ()
  | some promptExpr => do
      emitExpression "INPUT prompt expression" promptExpr
      emitInstrs [{ op := .printVal }]

/-- The step of a `FOR`; 1 when there is none. -/
def emitStep : Option (Expr Double) → EmitM Double Unit
  | some stepExpr => emitExpression "FOR STEP" stepExpr
  | none => emitInstrs [pushInt 1]

/-- The error of a `FOR` or `NEXT` whose variable is a string. -/
def stringLoopVariable (variableName : String) : String :=
  "String variable '" ++ variableName ++ "' cannot be used as a FOR loop variable"

/-- A statement that is only supported as the statement of a line. -/
def onlyOnLine (inArm : Bool) (code : EmitM Double Unit) : EmitM Double Unit :=
  if inArm then throw "Unsupported inline branch statement" else code

/-- Whether an arm is the number of a line. -/
def BranchArm.isLine : BranchArm Double → Bool
  | .line _ => true
  | .inline _ => false

mutual

/-- The code of a statement, of a line or in the arm of a branch. -/
def emitStatement (inArm : Bool) : Stmt Double → EmitM Double Unit
  | .letStmt variableName expression => do
      emitExpression "LET expression" expression
      emitInstrs (coercion variableName ++ [onName .storeVar variableName])
  | .input promptExpr variableName => do
      emitPrompt promptExpr
      emitInstrs ({ op := .inputStr } :: coercion variableName ++ [onName .storeVar variableName])
  | .chain programExpr => do
      emitExpression "CHAIN program expression" programExpr
      emitInstrs [{ op := .chain }]
  | .goto targetLine => emitReference .jump targetLine
  | .gosub targetLine => emitReference .call targetLine
  | .returnStmt => emitInstrs [{ op := .return_ }]
  | .forStmt variableName initExpr limitExpr stepExpr => onlyOnLine inArm <|
      if isStringVar variableName then throw (stringLoopVariable variableName)
      else do
        emitExpression "FOR init" initExpr
        emitInstrs (coercion variableName ++ [onName .storeVar variableName])
        emitExpression "FOR limit" limitExpr
        emitStep stepExpr
        emitInstrs [onName .forSetup variableName]
  | .next variableName => onlyOnLine inArm (emitInstrs [onName .forNext variableName])
  | .ifStmt condition thenArm elseArm =>
      emitIf condition thenArm.isLine (emitBranchArm thenArm) (emitElseArm elseArm)
  | .print expression suppressEol => do
      emitExpression "PRINT expression" expression
      emitInstrs ({ op := .printVal } :: if suppressEol then [] else [{ op := .printEol }])
  | .rem => pure ()
  | .stop => emitInstrs [{ op := .halt }]
  | .endStmt => do
      emitInstrs [{ op := .halt }]
      if inArm then pure ()
      else modify fun emission => { emission with explicitEnd := true }
  | .dim variableName sizeExpr => onlyOnLine inArm do
      emitExpression "DIM size" sizeExpr
      emitInstrs [onName .dimArray variableName]
  | .letArray variableName indexExpr valueExpr => onlyOnLine inArm do
      emitExpression "LET array value" valueExpr
      emitInstrs (coercion variableName)
      emitExpression "LET array index" indexExpr
      emitInstrs [onName .storeArr variableName]
  | .clear => emitInstrs [{ op := .clearVars }]
  | .openStmt fileExpr fileVar elseArm => do
      emitExpression "OPEN file expression" fileExpr
      emitFileAction .openFile .openFileTry fileVar [] [] (emitElseArm elseArm)
  | .read targetVar fileVar idExpr elseArm => do
      emitExpression "READ ID expression" idExpr
      emitFileAction .readRec .readRecTry fileVar [onName .storeVar targetVar] [{ op := .drop }]
        (emitElseArm elseArm)
  | .readU targetVar fileVar idExpr elseArm => do
      emitExpression "READU ID expression" idExpr
      emitFileAction .readRecU .readRecUTry fileVar [onName .storeVar targetVar]
        [{ op := .drop }] (emitElseArm elseArm)
  | .write valueExpr fileVar idExpr elseArm => do
      emitExpression "WRITE value expression" valueExpr
      emitExpression "WRITE ID expression" idExpr
      emitFileAction .writeRec .writeRecTry fileVar [] [] (emitElseArm elseArm)
  | .writeU valueExpr fileVar idExpr elseArm => do
      emitExpression "WRITEU value expression" valueExpr
      emitExpression "WRITEU ID expression" idExpr
      emitFileAction .writeRecU .writeRecUTry fileVar [] [] (emitElseArm elseArm)
  | .readNext targetVar fileVar elseArm =>
      emitFileAction .readNext .readNextTry fileVar [onName .storeVar targetVar] [{ op := .drop }]
        (emitElseArm elseArm)
  | .readV targetVar fileVar idExpr attrExpr valueIndexExpr elseArm => do
      emitExpression "READV ID expression" idExpr
      emitExpression "READV attribute expression" attrExpr
      emitInstrs (if readVAttrNeedsDictResolve attrExpr then [onName .resolveDictAttr fileVar]
        else [])
      emitValueIndex "READV value-index expression" valueIndexExpr
      emitFileAction .readV .readVTry fileVar [onName .storeVar targetVar] [{ op := .drop }]
        (emitElseArm elseArm)
  | .writeV valueExpr fileVar idExpr attrExpr valueIndexExpr elseArm => do
      emitExpression "WRITEV value expression" valueExpr
      emitExpression "WRITEV ID expression" idExpr
      emitExpression "WRITEV attribute expression" attrExpr
      -- In an arm the token of a dictionary field goes to `WRITEV` as it is.
      emitInstrs (if !inArm && isDictField attrExpr then [onName .resolveDictAttr fileVar] else [])
      emitValueIndex "WRITEV value-index expression" valueIndexExpr
      emitFileAction .writeV .writeVTry fileVar [] [] (emitElseArm elseArm)
  | .close fileVar => emitInstrs [onName .closeFile fileVar]
  | .release fileVar idExpr => do
      emitExpression "RELEASE ID expression" idExpr
      emitInstrs [onName .releaseRec fileVar]
  | .onError targetLine => onlyOnLine inArm
      (match targetLine with
      | none => emitInstrs [{ op := .setOnErrorHandler, operand := .int 0 }]
      | some targetLine => emitReference .setOnErrorHandler targetLine)
  | .matAssign targetArray rhsExpr => onlyOnLine inArm do
      emitExpression "MAT scalar expression" rhsExpr
      emitInstrs [onName .matInit targetArray]
  | .matCopy targetArray rhsSourceArray => onlyOnLine inArm
      (emitInstrs [matCopyInstr targetArray rhsSourceArray])
  | .matRead targetArray fileVar idExpr elseArm => onlyOnLine inArm do
      emitExpression "MAT READ ID expression" idExpr
      emitFileAction .readRec .readRecTry fileVar [onName .matLoadFromRec targetArray]
        [{ op := .drop }] (emitElseArm elseArm)
  | .matWrite sourceArray fileVar idExpr elseArm => onlyOnLine inArm do
      emitInstrs [onName .matStoreToRec sourceArray]
      emitExpression "MAT WRITE ID expression" idExpr
      emitFileAction .writeRec .writeRecTry fileVar [] [] (emitElseArm elseArm)

/-- The code of an arm: a jump to its line, or its statement. -/
def emitBranchArm : BranchArm Double → EmitM Double Unit
  | .line target => emitReference .jump target
  | .inline statement => emitStatement true statement

/-- The code of an `ELSE`, if there is one. -/
def emitElseArm : Option (BranchArm Double) → Option (EmitM Double Unit)
  | none => none
  | some arm => some (emitBranchArm arm)

end

/-! ## Programs -/

/-- The start of each line's code; of two lines with one number the later counts. -/
abbrev LineIndex := AList fun _ : Int => Nat

/-- The state of the loop over the lines. -/
structure LineEmission (Double : Type) where
  emission : Emission Double := {}
  lineToInstructionIndex : LineIndex := ∅
  sourceLinePerInstr : List Int := []
  errors : List BasicCompileError := []

/-- One turn of the loop over the lines. -/
def LineEmission.emitLine (state : LineEmission Double) (line : BasicLine Double) :
    LineEmission Double :=
  let lineStartIp := state.emission.program.length
  let starts := state.lineToInstructionIndex.insert line.lineNumber lineStartIp
  match Program.exec (emitStatement false line.statement) state.emission with
  | (.error message, emission) =>
      { state with
        emission
        lineToInstructionIndex := starts
        errors := state.errors ++ [{ line := line.lineNumber, message }] }
  | (.ok (), emission) =>
      { state with
        emission
        lineToInstructionIndex := starts
        sourceLinePerInstr := state.sourceLinePerInstr ++
          List.replicate (emission.program.length - lineStartIp) line.lineNumber }

/-- The patch of a jump to a line. -/
def resolveFixup (starts : LineIndex) (program : List (Instruction Double)) (fixup : JumpFixup) :
    List (Instruction Double) :=
  match starts.lookup fixup.targetLine with
  | none => program
  | some start =>
      program.modify fixup.instructionIndex fun instr => { instr with operand := .int start }

/-- `CompiledProgram`: the instructions, and the source line of each. -/
structure EmittedProgram (Double : Type) where
  program : List (Instruction Double)
  sourceLinePerInstr : List Int

/-- The instruction that ends a program. -/
def haltInstr : Instruction Double := { op := .halt }

/-- `BasicBytecodeEmitter::emit`. -/
def emit (lines : List (BasicLine Double)) :
    Except (List BasicCompileError) (EmittedProgram Double) :=
  let state := lines.foldl LineEmission.emitLine {}
  let program :=
    state.emission.jumpFixups.foldl (resolveFixup state.lineToInstructionIndex)
      state.emission.program
  if state.errors ≠ [] then .error state.errors
  else if !state.emission.explicitEnd || program.getLast?.map Instruction.op ≠ some .halt then
    .ok { program := program ++ [haltInstr],
          sourceLinePerInstr := state.sourceLinePerInstr ++ [0] }
  else .ok { program, sourceLinePerInstr := state.sourceLinePerInstr }

end Gemini.Basic
