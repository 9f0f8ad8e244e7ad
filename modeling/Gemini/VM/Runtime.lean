import Gemini.VM.FileInstructions

/-!
# One step of the machine

`execute` is the body of `Runtime::step` for each operation code and says where the machine
goes on; `step` moves the instruction pointer there. A run of a program is a run of `step`
that ends when a step throws or finds no instruction.
-/

namespace Gemini.VM

open Gemini.Semantics

variable {Double World : Type}

/-- Where the machine goes on after an instruction. -/
inductive Flow where
  | next
  | goTo (target : Nat)
  | halt
deriving DecidableEq

/-- Where the pointer is after an instruction at `ip` of a program of `size` instructions. -/
def Flow.land (size ip : Nat) : Flow → Nat
  | .next => ip + 1
  | .goTo target => target
  | .halt => size

/-! ## Instructions that transfer control -/

/-- `static_cast<std::size_t>` of an `int`. -/
def sizeOfInt (value : Int) : Nat := if value < 0 then (value + 2 ^ 64).toNat else value.toNat

/-- `JUMP`. -/
def jump (instr : Instruction Double) (ip : Nat) : MachineM Double World Flow := do
  let target ← onMemory (intOperandAtIp instr ip)
  return .goTo (sizeOfInt target)

/-- `JUMP_IF_ZERO`. -/
def jumpIfZero (instr : Instruction Double) (ip : Nat) : MachineM Double World Flow := do
  let target ← onMemory (intOperandAtIp instr ip)
  let v ← onMemory (popInt .jumpIfZero)
  return if v = 0 then .goTo (sizeOfInt target) else .next

/-- `CALL`. -/
def call (instr : Instruction Double) (ip : Nat) : MachineM Double World Flow := do
  let target ← onMemory (intOperandAtIp instr ip)
  modify fun machine => { machine with callStack := (ip + 1) :: machine.callStack }
  return .goTo (sizeOfInt target)

/-- `RETURN`. -/
def returnFromCall : MachineM Double World Flow := do
  let machine ← get
  match machine.callStack with
  | [] => throw (.runtimeError "RETURN without GOSUB")
  | address :: rest =>
      set { machine with callStack := rest }
      return .goTo address

/-- `SET_ON_ERROR_HANDLER`: a target that is not positive takes the handler away. -/
def setOnErrorHandler (instr : Instruction Double) (ip : Nat) : MachineM Double World Flow := do
  let targetIp ← onMemory (intOperandAtIp instr ip)
  modify fun machine =>
    { machine with onErrorIp := if targetIp ≤ 0 then none else some targetIp.toNat }
  return .next

/-- What `STATUS` says of a lock. -/
def kStatusRecordLocked : Int := 1

/-- `handleRecordLockConflict`. -/
def handleRecordLockConflict (op : String) : MachineM Double World Flow := do
  onMemory (onEnvironment (modify fun environment =>
    { environment with statusCode := kStatusRecordLocked }))
  match (← get).onErrorIp with
  | some handler => return .goTo handler
  | none => throw (makeIoError op .recordLocked "")

/-- An instruction that can find a record locked. -/
def orConflict (op : String) (locked : MemoryM Double World Bool) :
    MachineM Double World Flow := do
  if ← onMemory locked then handleRecordLockConflict op else return .next

/-- An instruction after which the machine goes on with the next one. -/
def andNext (code : MemoryM Double World Unit) : MachineM Double World Flow := do
  onMemory code
  return .next

variable [Doubles Double]

/-- `FOR_SETUP`. -/
def forSetup (instr : Instruction Double) (ip : Nat) : MachineM Double World Flow := do
  let varName ← onMemory (nameOperandAtIp instr ip)
  let step ← onMemory popCoercedInt
  let limit ← onMemory popCoercedInt
  if step = 0 then throw (.runtimeError "FOR: STEP cannot be zero")
  else
    modify fun machine =>
      { machine with forStack := { varName, limit, step, bodyIP := ip + 1 } :: machine.forStack }
    return .next

/-- `FOR_NEXT`. -/
def forNext (instr : Instruction Double) (ip : Nat) : MachineM Double World Flow := do
  let varName ← onMemory (nameOperandAtIp instr ip)
  match (← get).forStack with
  | [] => throw (.runtimeError "NEXT without FOR")
  | frame :: outer =>
      if varName ≠ "" ∧ frame.varName ≠ varName then
        throw (.runtimeError "FOR/NEXT variable mismatch")
      else if ← onMemory (onEnvironment (advanceLoop frame)) then
        modify fun machine => { machine with forStack := outer }
        return .next
      else return .goTo frame.bodyIP

/-! ## All instructions -/

/-- What an instruction does, and where the machine goes on. -/
def execute (host : Host Double World) (instr : Instruction Double) (ip : Nat) :
    MachineM Double World Flow :=
  match instr.op with
  | .halt => return .halt
  | .pushInt => andNext do push (.int (← intOperandAtIp instr ip))
  | .pushFlt => andNext do push (.double (← floatOperandAtIp instr ip))
  | .pushStr => andNext do push (.string (← stringOperandAtIp instr ip))
  | .add => andNext (arithmetic (· + ·) Doubles.add)
  | .sub => andNext (arithmetic (· - ·) Doubles.sub)
  | .mul => andNext (arithmetic (· * ·) Doubles.mul)
  | .div => andNext divide
  | .mod => andNext modulo
  | .eq => andNext (comparison "EQ" (· = .eq))
  | .ne => andNext (comparison "NE" (· ≠ .eq))
  | .lt => andNext (comparison "LT" (· = .lt))
  | .le => andNext (comparison "LE" (· ≠ .gt))
  | .gt => andNext (comparison "GT" (· = .gt))
  | .ge => andNext (comparison "GE" (· ≠ .lt))
  | .concat => andNext concat
  | .dup => andNext dup
  | .drop => andNext do let _ ← pop
  | .printInt => andNext do onEnvironment (emitText (toString (← popInt .printInt)))
  | .printStr => andNext do onEnvironment (emitText (← popString .printStr))
  | .printVal => andNext printVal
  | .printEol => andNext (onEnvironment (emitText "\n"))
  | .printChar => andNext printChar
  | .coerceInt => andNext coerceTopToInt
  | .coerceFlt => andNext coerceTopToFlt
  | .inputInt => andNext (pushFrom inputInt)
  | .inputFlt => andNext (pushFrom inputFlt)
  | .inputStr => andNext (pushFrom inputStr)
  | .jump => jump instr ip
  | .jumpIfZero => jumpIfZero instr ip
  | .call => call instr ip
  | .return_ => returnFromCall
  | .forSetup => forSetup instr ip
  | .forNext => forNext instr ip
  | .dimArray => andNext (dimArray instr ip)
  | .loadArr => andNext (loadArr instr ip)
  | .storeArr => andNext (storeArr instr ip)
  | .matInit => andNext (matInit instr ip)
  | .matCopy => andNext (matCopy instr ip)
  | .matLoadFromRec => andNext (matLoadFromRec instr ip)
  | .matStoreToRec => andNext (matStoreToRec instr ip)
  | .clearVars => andNext (onEnvironment clearVars)
  | .absInt => andNext absInt
  | .sgnInt => andNext sgnInt
  | .seqStr => andNext seqStr
  | .invokeBuiltin => andNext do
      invokeBuiltinShim host.languageRegistry (← stringOperandAtIp instr ip)
  | .callFunc => andNext (callFunc host instr.callFunc)
  | .openFile => andNext (openFile host instr ip)
  | .openFileTry => andNext (openFileTry host instr ip)
  | .readRec => orConflict "READ" (readRecord host "READ" FileBackend.read instr ip)
  | .readRecTry => andNext (readRecordTry host FileBackend.read instr ip)
  | .readRecU => orConflict "READU" (readRecord host "READU" FileBackend.readU instr ip)
  | .readRecUTry => andNext (readRecordTry host FileBackend.readU instr ip)
  | .writeRec => orConflict "WRITE" (writeRecord host "WRITE" FileBackend.write instr ip)
  | .writeRecTry => andNext (writeRecordTry host FileBackend.write instr ip)
  | .writeRecU => orConflict "WRITEU" (writeRecord host "WRITEU" FileBackend.writeU instr ip)
  | .writeRecUTry => andNext (writeRecordTry host FileBackend.writeU instr ip)
  | .releaseRec => andNext (releaseRec host instr ip)
  | .setOnErrorHandler => setOnErrorHandler instr ip
  | .readNext => andNext (readNext host instr ip)
  | .readNextTry => andNext (readNextTry host instr ip)
  | .readV => andNext (readV host instr ip)
  | .readVTry => andNext (readVTry host instr ip)
  | .extractAttr => andNext extractAttr
  | .resolveDictAttr => andNext (resolveDictAttr host instr ip)
  | .chain => andNext chain
  | .writeV => andNext (writeV host instr ip)
  | .writeVTry => andNext (writeVTry host instr ip)
  | .closeFile => andNext (closeFile instr ip)
  | .loadVar => andNext (loadVar host instr ip)
  | .storeVar => andNext (storeVar instr ip)

/-- `Runtime::step`; its result says whether there is an instruction left to execute. -/
def step (host : Host Double World) (program : List (Instruction Double)) :
    MachineM Double World Bool := do
  let ip := (← get).ip
  match program[ip]? with
  | none => return false
  | some instr =>
      let flow ← execute host instr ip
      modify fun machine => { machine with ip := flow.land program.length ip }
      return flow ≠ .halt && flow.land program.length ip < program.length

/-- The machine after a step, unless the step throws. -/
def stepState (host : Host Double World) (program : List (Instruction Double))
    (machine : Machine Double World) (_ : Unit) : Option (Machine Double World) :=
  match Program.exec (step host program) machine with
  | (.ok _, after) => some after
  | (.error _, _) => none

/-- `sourceLineAtInstruction`. -/
def sourceLineAtInstruction (sourceLinePerInstr : List Int) (ip : Nat) : Int :=
  sourceLinePerInstr.getD ip 0

end Gemini.VM
