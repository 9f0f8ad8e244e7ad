import Gemini.VM.Rows

/-!
# What single instructions do

The effect of each instruction that computes, on a stack that holds its operands. Where the
instruction takes a name, its effect is on the canonical form of the name.
-/

namespace Gemini.VM

open Gemini.Semantics

variable {Double World : Type} [Doubles Double] {host : Host Double World}
  {stack : List (Value Double)}

omit [Doubles Double] in
/-- A value that an instruction takes from the stack in another form. -/
theorem OnStack.popAsThen {Result : Type} {form : Value Double → Result} {value : Value Double}
    {rest : Result → MemoryM Double World Unit}
    {effect : EnvironmentM Double World (List (Value Double))}
    (does : OnStack stack (rest (form value)) effect) :
    OnStack (value :: stack) ((pop >>= fun value => pure (form value)) >>= rest) effect := by
  rw [bind_assoc]
  refine .popThen ?_
  rwa [pure_bind]

/-! ## Values -/

/-- What the instructions do on a stack, one by one: `PUSH_INT`. -/
theorem does_pushInt (number : Int) :
    RowDoes host [{ op := .pushInt, operand := .int number }] stack
      (pure (.int number :: stack)) :=
  .one fun _ => ⟨_, rfl, .push _⟩

theorem does_pushFlt (number : Double) :
    RowDoes host [{ op := .pushFlt, operand := .double number }] stack
      (pure (.double number :: stack)) :=
  .one fun _ => ⟨_, rfl, .push _⟩

theorem does_pushStr (text : String) :
    RowDoes host [{ op := .pushStr, operand := .string text }] stack
      (pure (.string text :: stack)) :=
  .one fun _ => ⟨_, rfl, .push _⟩

omit [Doubles Double] in
/-- An operator takes its second operand from the top. -/
theorem onStack_binary (operation : Value Double → Value Double → Except Fault (Value Double))
    (a b : Value Double) :
    OnStack (b :: a :: stack) (binary operation : MemoryM Double World Unit)
      (match operation a b with
      | .ok value => pure (value :: stack)
      | .error fault => throw fault) := by
  refine .popThen (.popThen ?_)
  cases operation a b with
  | ok value => exact .push value
  | error fault => exact .fails fault

/-- `COERCE_INT` in the same way. -/
theorem does_coerceInt (value : Value Double) :
    RowDoes host [{ op := .coerceInt }] (value :: stack) (pure (.int (coerceToInt value) :: stack)) :=
  .one fun _ => ⟨_, rfl, fun _ => rfl⟩

theorem does_extractAttr (record attrNo valueIndex : Value Double) :
    RowDoes host [{ op := .extractAttr }] (valueIndex :: attrNo :: record :: stack)
      (pure (extractedAttr record attrNo valueIndex :: stack)) :=
  .one fun _ => ⟨_, rfl, .popThen (.popThen (.popThen (.push _)))⟩

/-! ## Variables and arrays -/

/-- `LOAD_VAR` reads under the canonical name. -/
theorem does_loadVar (name : String) :
    RowDoes host [{ op := .loadVar, operand := .string name }] stack
      (loadVariable host (canonicalVariableName name) >>= fun value => pure (value :: stack)) :=
  .one fun _ => ⟨_, rfl, .environmentThen fun value => .push value⟩

/-- `STORE_VAR` stores under the canonical name. -/
theorem does_storeVar (name : String) (value : Value Double) :
    RowDoes host [{ op := .storeVar, operand := .string name }] (value :: stack)
      (requireWritable (canonicalVariableName name) >>= fun _ =>
        storeVariable (canonicalVariableName name) value >>= fun _ => pure stack) :=
  .one fun _ => ⟨_, rfl, .environmentThen fun _ => .popThen (.environment _)⟩

theorem does_dimArray (name : String) (size : Value Double) :
    RowDoes host [{ op := .dimArray, operand := .string name }] (size :: stack)
      (requireWritable (canonicalVariableName name) >>= fun _ =>
        dimension (canonicalVariableName name) (coerceToInt size) >>= fun _ => pure stack) :=
  .one fun _ => ⟨_, rfl, .environmentThen fun _ => .popAsThen (.environment _)⟩

theorem does_loadArr (name : String) (index : Value Double) :
    RowDoes host [{ op := .loadArr, operand := .string name }] (index :: stack)
      (loadElement (canonicalVariableName name) (coerceToInt index) >>= fun value =>
        pure (value :: stack)) :=
  .one fun _ => ⟨_, rfl, .popAsThen (.environmentThen fun value => .push value)⟩

/-- `STORE_ARR` takes the index from the top and the value below it. -/
theorem does_storeArr (name : String) (index value : Value Double) :
    RowDoes host [{ op := .storeArr, operand := .string name }] (index :: value :: stack)
      (requireWritable (canonicalVariableName name) >>= fun _ =>
        storeElement (canonicalVariableName name) (coerceToInt index) value >>= fun _ =>
          pure stack) :=
  .one fun _ => ⟨_, rfl, .environmentThen fun _ => .popAsThen (.popThen (.environment _))⟩

theorem does_clearVars :
    RowDoes host [{ op := .clearVars }] stack (clearVars >>= fun _ => pure stack) :=
  .one fun _ => ⟨_, rfl, .environment _⟩

/-! ## Input and output -/

theorem does_printVal (value : Value Double) :
    RowDoes host [{ op := .printVal }] (value :: stack)
      (emitText (valueToString value) >>= fun _ => pure stack) :=
  .one fun _ => ⟨_, rfl, .popAsThen (.environment _)⟩

theorem does_printEol :
    RowDoes host [{ op := .printEol }] stack (emitText "\n" >>= fun _ => pure stack) :=
  .one fun _ => ⟨_, rfl, .environment _⟩

theorem does_inputStr :
    RowDoes host [{ op := .inputStr }] stack (inputStr >>= fun value => pure (value :: stack)) :=
  .one fun _ => ⟨_, rfl, .environmentThen fun value => .push value⟩

/-! ## Control -/

section Control

variable {ip : Nat} {machine : Machine Double World}

/-- A number that is not negative is its own address. -/
theorem sizeOfInt_natCast (index : Nat) : sizeOfInt (index : Int) = index := by
  rw [sizeOfInt, if_neg (by omega), Int.toNat_natCast]

/-- What the instructions that transfer control do, one by one: `JUMP`. -/
theorem exec_jump (target : Nat) :
    Program.exec (execute host { op := .jump, operand := .int (target : Nat) } ip) machine =
      (.ok (.goTo target), machine) := by
  have jumps : Program.exec (execute host { op := .jump, operand := .int (target : Nat) } ip)
      machine = (.ok (.goTo (sizeOfInt (target : Nat))), machine) := rfl
  rw [jumps, sizeOfInt_natCast]

/-- `CALL` stores the address of the next instruction. -/
theorem exec_call (target : Nat) :
    Program.exec (execute host { op := .call, operand := .int (target : Nat) } ip) machine =
      (.ok (.goTo target), { machine with callStack := (ip + 1) :: machine.callStack }) := by
  have calls : Program.exec (execute host { op := .call, operand := .int (target : Nat) } ip)
      machine = (.ok (.goTo (sizeOfInt (target : Nat))),
        { machine with callStack := (ip + 1) :: machine.callStack }) := rfl
  rw [calls, sizeOfInt_natCast]

/-- `RETURN` goes back to the address that was stored last. -/
theorem exec_return :
    Program.exec (execute host { op := .return_ } ip) machine =
      match machine.callStack with
      | [] => (.error (.runtimeError "RETURN without GOSUB"), machine)
      | address :: rest => (.ok (.goTo address), { machine with callStack := rest }) := by
  obtain ⟨_, callStack, _, _, _⟩ := machine
  cases callStack <;> rfl

/-- `JUMP_IF_ZERO` jumps on the integer 0. -/
theorem exec_jumpIfZero_int (target : Nat) {number : Int} {environment : Environment Double World}
    (memory : machine.memory = { stack := .int number :: stack, environment }) :
    Program.exec (execute host { op := .jumpIfZero, operand := .int (target : Nat) } ip) machine =
      (.ok (if number = 0 then .goTo target else .next),
        { machine with memory := { stack, environment } }) := by
  obtain ⟨_, _, _, _, _⟩ := machine
  subst memory
  conv_rhs => rw [← sizeOfInt_natCast target]
  rfl

/-- `JUMP_IF_ZERO` fails on another value than an integer. -/
theorem exec_jumpIfZero_other (target : Nat) {value : Value Double}
    (notInt : ∀ number, value ≠ .int number) {environment : Environment Double World}
    (memory : machine.memory = { stack := value :: stack, environment }) :
    Program.exec (execute host { op := .jumpIfZero, operand := .int (target : Nat) } ip) machine =
      (.error (.runtimeError (opCodeName .jumpIfZero ++ ": expected int on stack")),
        { machine with memory := { stack, environment } }) := by
  obtain ⟨_, _, _, _, _⟩ := machine
  subst memory
  cases value with
  | int number => exact absurd rfl (notInt number)
  | double number => rfl
  | string text => rfl

/-- `FOR_SETUP` opens a loop, whose body is the next instruction. -/
theorem exec_forSetup (name : String) {step limit : Value Double}
    {environment : Environment Double World}
    (memory : machine.memory = { stack := step :: limit :: stack, environment }) :
    Program.exec (execute host { op := .forSetup, operand := .string name } ip) machine =
      if coerceToInt step = 0 then
        (.error (.runtimeError "FOR: STEP cannot be zero"),
          { machine with memory := { stack, environment } })
      else
        (.ok .next,
          { machine with
            forStack := { varName := canonicalVariableName name, limit := coerceToInt limit,
                          step := coerceToInt step, bodyIP := ip + 1 } :: machine.forStack
            memory := { stack, environment } }) := by
  obtain ⟨_, _, _, _, _⟩ := machine
  subst memory
  change Program.exec
    (if coerceToInt step = 0 then throw (Fault.runtimeError "FOR: STEP cannot be zero") else _) _ = _
  split <;> rfl

/-- `FOR_NEXT` goes on with the innermost loop, or closes it. A name has to be that of the loop. -/
theorem exec_forNext (name : String) {environment : Environment Double World}
    (memory : machine.memory = { stack, environment }) :
    Program.exec (execute host { op := .forNext, operand := .string name } ip) machine =
      match machine.forStack with
      | [] => (.error (.runtimeError "NEXT without FOR"), machine)
      | frame :: outer =>
          if canonicalVariableName name ≠ "" ∧ frame.varName ≠ canonicalVariableName name then
            (.error (.runtimeError "FOR/NEXT variable mismatch"), machine)
          else
            match Program.exec (advanceLoop frame) environment with
            | (.error fault, after) =>
                (.error fault, { machine with memory := { stack, environment := after } })
            | (.ok true, after) =>
                (.ok .next,
                  { machine with forStack := outer, memory := { stack, environment := after } })
            | (.ok false, after) =>
                (.ok (.goTo frame.bodyIP),
                  { machine with memory := { stack, environment := after } }) := by
  obtain ⟨pointer, callStack, forStack, onErrorIp, _⟩ := machine
  subst memory
  cases forStack with
  | nil => rfl
  | cons frame outer =>
      dsimp only
      change Program.exec
        (if canonicalVariableName name ≠ "" ∧ frame.varName ≠ canonicalVariableName name then
          throw (Fault.runtimeError "FOR/NEXT variable mismatch") else _)
        (⟨pointer, callStack, frame :: outer, onErrorIp, ⟨stack, environment⟩⟩ :
          Machine Double World) = _
      split
      · rfl
      · rw [Program.exec_bind, onMemory, Program.exec_zoom, exec_onEnvironment]
        rcases Program.exec (advanceLoop frame) environment with ⟨fault | done, after⟩
        · rfl
        · cases done <;> rfl

/-! ## Turns -/

variable {program : List (Instruction Double)} {sourceLinePerInstr : List Int}
  {instr : Instruction Double} {after : Machine Double World}

/-- A turn that executes an instruction. -/
theorem turn_of_flow (found : program[machine.ip]? = some instr) {flow : Flow}
    (executed : Program.exec (execute host instr machine.ip) machine = (.ok flow, after)) :
    patientTurn host program sourceLinePerInstr machine =
      .goesOn { after with ip := flow.land program.length machine.ip } := by
  simp only [patientTurn, found, executed]

/-- A turn whose instruction fails. -/
theorem turn_of_fault (found : program[machine.ip]? = some instr) {fault : Fault}
    (executed : Program.exec (execute host instr machine.ip) machine = (.error fault, after)) :
    patientTurn host program sourceLinePerInstr machine =
      .ends (.failed fault (sourceLineAtInstruction sourceLinePerInstr after.ip)
        after.memory.environment) := by
  simp only [patientTurn, found, executed]

end Control

end Gemini.VM
