import Gemini.VM.Parser
import Gemini.VM.Runtime
import Gemini.Semantics.Run
import Gemini.Data.Checked

/-!
# Where control can go

The parser checks the targets of jumps and calls once, by operation code. At run time control
also goes to return addresses, to the bodies of loops and to the error handler, which the
machine has stored before. `AddressesWithin` says that all of these are at most the size of
the program, and every instruction keeps it and lands there.

The operand of `SET_ON_ERROR_HANDLER` is the one target that nothing checks: a stored program
can name any handler, and the first lock conflict then leaves the program.
-/

namespace Gemini.VM

open Gemini.Semantics
open Gemini.Semantics.Program (Ensures)
open Gemini.Data (bind_eq_ok forM_eq_ok)

variable {Double World : Type}

/-- Every address the machine has stored is at most `size`. -/
structure AddressesWithin (size : Nat) (machine : Machine Double World) : Prop where
  calls : ∀ address ∈ machine.callStack, address ≤ size
  loops : ∀ frame ∈ machine.forStack, frame.bodyIP ≤ size
  handler : ∀ address ∈ machine.onErrorIp, address ≤ size

/-- An instruction at `ip` keeps the stored addresses within `size` and goes on within it. -/
def StaysWithin (size ip : Nat) (code : MachineM Double World Flow) : Prop :=
  Ensures (AddressesWithin size) code
    (fun flow machine => flow.land size ip ≤ size ∧ AddressesWithin size machine)
    (AddressesWithin size)

variable {size ip : Nat}

/-- Code on the memory stores no address. -/
theorem AddressesWithin.onMemory {Result : Type} (code : MemoryM Double World Result) :
    Ensures (AddressesWithin size) (onMemory code) (fun _ => AddressesWithin size)
      (AddressesWithin size) := by
  intro machine within
  rw [VM.onMemory, Program.exec_zoom]
  rcases Program.exec code machine.memory with ⟨_ | value, memory⟩
  · exact ⟨within.calls, within.loops, within.handler⟩
  · exact ⟨within.calls, within.loops, within.handler⟩

/-- An instruction that stores no address goes on in the program. -/
theorem StaysWithin.of_flow {flow : Flow} (lands : flow.land size ip ≤ size) :
    StaysWithin size ip (pure flow : MachineM Double World Flow) :=
  Ensures.pure fun _ within => ⟨lands, within⟩

/-- Code on the memory comes before what transfers control. -/
theorem StaysWithin.after {Result : Type} (code : MemoryM Double World Result)
    {rest : Result → MachineM Double World Flow} (stays : ∀ value, StaysWithin size ip (rest value)) :
    StaysWithin size ip (onMemory code >>= rest) :=
  (AddressesWithin.onMemory code).bind stays

/-! ## One instruction -/

/-- The target of an instruction that jumps is in the program. -/
def TargetWithin (size : Nat) (instr : Instruction Double) : Prop :=
  ∀ target, instr.operand = .int target → sizeOfInt target ≤ size

/-- An instruction that goes on with the next one. -/
theorem staysWithin_andNext (below : ip < size) (code : MemoryM Double World Unit) :
    StaysWithin size ip (andNext code) :=
  .after code fun _ => .of_flow below

/-- An integer operand is read or missed. -/
theorem intOperandAtIp_cases (instr : Instruction Double) (ip : Nat) :
    (∃ target, instr.operand = .int target ∧
      intOperandAtIp instr ip = (pure target : MemoryM Double World Int)) ∨
      intOperandAtIp instr ip =
        (throw (operandError instr ip "int") : MemoryM Double World Int) := by
  unfold intOperandAtIp
  split
  · exact .inl ⟨_, ‹_›, rfl⟩
  · exact .inr rfl

/-- The number an instruction gets as its operand is its operand. -/
theorem StaysWithin.withTarget {instr : Instruction Double}
    {rest : Int → MachineM Double World Flow}
    (stays : ∀ target, instr.operand = .int target → StaysWithin size ip (rest target)) :
    StaysWithin size ip (onMemory (intOperandAtIp instr ip) >>= rest) := by
  obtain ⟨target, operand, found⟩ | failed := @intOperandAtIp_cases Double World instr ip
  · rw [found]
    exact stays target operand
  · rw [failed]
    exact fun _ within => ⟨within.calls, within.loops, within.handler⟩

/-- A conflict goes on at the handler, which is in the program. -/
theorem staysWithin_orConflict (below : ip < size) (op : String)
    (locked : MemoryM Double World Bool) : StaysWithin size ip (orConflict op locked) := by
  refine .after locked fun conflict => ?_
  cases conflict with
  | false => exact .of_flow below
  | true =>
      refine .after _ fun _ => Ensures.get fun machine within => ?_
      cases handler : machine.onErrorIp with
      | none => exact Ensures.throw fun _ same => same ▸ within
      | some address =>
          exact Ensures.pure fun _ same => same ▸ ⟨within.handler address handler, within⟩

/-- A `RETURN` goes back to an address that was stored. -/
theorem staysWithin_returnFromCall :
    StaysWithin size ip (returnFromCall : MachineM Double World Flow) := by
  refine Ensures.get fun machine within => ?_
  cases calls : machine.callStack with
  | nil => exact Ensures.throw fun _ same => same ▸ within
  | cons address rest =>
      have stored := within.calls
      rw [calls, List.forall_mem_cons] at stored
      intro _ _
      exact ⟨stored.1, stored.2, within.loops, within.handler⟩

/-- A jump goes to its target. -/
theorem staysWithin_jump {instr : Instruction Double} (target : TargetWithin size instr) :
    StaysWithin size ip (jump instr ip : MachineM Double World Flow) :=
  .withTarget fun _ operand => .of_flow (target _ operand)

theorem staysWithin_jumpIfZero {instr : Instruction Double} (below : ip < size)
    (target : TargetWithin size instr) :
    StaysWithin size ip (jumpIfZero instr ip : MachineM Double World Flow) := by
  refine .withTarget fun address operand => .after _ fun v => .of_flow ?_
  split
  · exact target address operand
  · exact below

theorem staysWithin_call {instr : Instruction Double} (below : ip < size)
    (target : TargetWithin size instr) :
    StaysWithin size ip (call instr ip : MachineM Double World Flow) := by
  refine .withTarget fun address operand machine within => ⟨target address operand, ?_⟩
  exact ⟨List.forall_mem_cons.mpr ⟨below, within.calls⟩, within.loops, within.handler⟩

/-- A handler that an instruction sets is in the program. -/
def HandlerWithin (size : Nat) (instr : Instruction Double) : Prop :=
  instr.op = .setOnErrorHandler → ∀ target, instr.operand = .int target → target ≤ size

/-- A handler in the program is stored. -/
theorem staysWithin_setOnErrorHandler {instr : Instruction Double} (below : ip < size)
    (handler : ∀ target, instr.operand = .int target → target ≤ size) :
    StaysWithin size ip (setOnErrorHandler instr ip : MachineM Double World Flow) := by
  refine .withTarget fun target operand machine within => ⟨below, ?_⟩
  refine ⟨within.calls, within.loops, fun address set => ?_⟩
  have bound := handler target operand
  change address ∈ (if target ≤ 0 then none else some target.toNat) at set
  split at set
  · simp at set
  · obtain rfl := Option.some.inj set
    exact Int.toNat_le.mpr bound

variable [Doubles Double]

theorem staysWithin_forSetup {instr : Instruction Double} (below : ip < size) :
    StaysWithin size ip (forSetup instr ip : MachineM Double World Flow) := by
  refine .after _ fun varName => .after _ fun step => .after _ fun limit => ?_
  split
  · exact Ensures.throw fun _ within => within
  · intro machine within
    exact ⟨below, within.calls, List.forall_mem_cons.mpr ⟨below, within.loops⟩, within.handler⟩

theorem staysWithin_forNext {instr : Instruction Double} (below : ip < size) :
    StaysWithin size ip (forNext instr ip : MachineM Double World Flow) := by
  refine .after _ fun varName => Ensures.get fun machine within => ?_
  cases loops : machine.forStack with
  | nil => exact Ensures.throw fun _ same => same ▸ within
  | cons frame outer =>
      have stored := within.loops
      rw [loops, List.forall_mem_cons] at stored
      have started : Ensures (· = machine) (onMemory (onEnvironment (advanceLoop frame)))
          (fun _ => AddressesWithin size) (AddressesWithin size) :=
        fun _ same => AddressesWithin.onMemory _ _ (same ▸ within)
      dsimp only
      split
      · exact Ensures.throw fun _ same => same ▸ within
      · refine started.bind fun done => ?_
        cases done with
        | false => exact StaysWithin.of_flow stored.1
        | true =>
            intro current kept
            exact ⟨below, kept.calls, stored.2, kept.handler⟩

/-- An instruction keeps the stored addresses within the program and goes on within it, when
its targets are in the program. -/
theorem staysWithin_execute (host : Host Double World) {instr : Instruction Double}
    (below : ip < size) (target : isJump instr.op → TargetWithin size instr)
    (handler : HandlerWithin size instr) : StaysWithin size ip (execute host instr ip) := by
  unfold execute
  cases op : instr.op with
  | halt => exact .of_flow le_rfl
  | jump => exact staysWithin_jump (target (by simp [isJump, op]))
  | jumpIfZero => exact staysWithin_jumpIfZero below (target (by simp [isJump, op]))
  | call => exact staysWithin_call below (target (by simp [isJump, op]))
  | return_ => exact staysWithin_returnFromCall
  | forSetup => exact staysWithin_forSetup below
  | forNext => exact staysWithin_forNext below
  | setOnErrorHandler => exact staysWithin_setOnErrorHandler below (handler op)
  | readRec | readRecU | writeRec | writeRecU => exact staysWithin_orConflict below _ _
  | _ => exact staysWithin_andNext below _

/-! ## Checked programs -/

omit [Doubles Double] in
/-- What `validateJumpTargets` checks. -/
theorem targetWithin_of_validate {program : List (Instruction Double)}
    (valid : validateJumpTargets program = .ok ()) {i : Nat} {instr : Instruction Double}
    (found : program[i]? = some instr) (jumps : isJump instr.op) :
    TargetWithin program.length instr := by
  have member : (instr, i) ∈ program.zipIdx :=
    List.mem_zipIdx_iff_getElem?.mpr found
  have checked := forM_eq_ok valid _ member
  intro target operand
  simp only [validateJumpTarget, jumps, if_true, operand] at checked
  split at checked
  · cases checked
  · unfold sizeOfInt
    split <;> omega

/-- A state of a run of the program: the pointer and the stored addresses are within it. -/
structure ControlWithin (size : Nat) (machine : Machine Double World) : Prop where
  pointer : machine.ip ≤ size
  addresses : AddressesWithin size machine

omit [Doubles Double] in
/-- A program that is loaded starts at its first instruction. -/
theorem controlWithin_loadProgram (input : List String) (world : World) :
    ControlWithin size (loadProgram input world : Machine Double World) where
  pointer := Nat.zero_le _
  addresses := { calls := by simp [loadProgram], loops := by simp [loadProgram],
                 handler := by simp [loadProgram] }

/-- The instruction that the machine is about to execute sets no handler beyond the end of
the program. -/
def SetsHandlerWithin (program : List (Instruction Double)) (machine : Machine Double World) :
    Prop :=
  ∀ instr ∈ program[machine.ip]?, HandlerWithin program.length instr

/-- What a step leaves: the machine itself past the last instruction, or what the instruction
at the pointer leaves, with the pointer moved. -/
theorem stepState_cases {host : Host Double World} {program : List (Instruction Double)}
    {machine after : Machine Double World}
    (stepped : stepState host program machine () = some after) :
    (program[machine.ip]? = none ∧ after = machine) ∨
      ∃ instr flow executed, program[machine.ip]? = some instr ∧
        Program.exec (execute host instr machine.ip) machine = (.ok flow, executed) ∧
        after = { executed with ip := flow.land program.length machine.ip } := by
  unfold stepState step at stepped
  rw [Program.exec_bind, Program.exec_get] at stepped
  cases found : program[machine.ip]? with
  | none =>
      simp only [found, Program.exec_pure, Option.some.injEq] at stepped
      exact .inl ⟨rfl, stepped.symm⟩
  | some instr =>
      simp only [found, Program.exec_bind] at stepped
      rcases executed : Program.exec (execute host instr machine.ip) machine with ⟨_ | flow, left⟩
      · simp only [executed, reduceCtorEq] at stepped
      · simp only [executed, Program.exec_modify, Program.exec_pure, Option.some.injEq] at stepped
        exact .inr ⟨instr, flow, left, rfl, executed, stepped.symm⟩

/-- A step keeps the control in the program. -/
theorem controlWithin_step {host : Host Double World} {program : List (Instruction Double)}
    (valid : validateJumpTargets program = .ok ()) {machine after : Machine Double World}
    (within : ControlWithin program.length machine) (sets : SetsHandlerWithin program machine)
    (stepped : stepState host program machine () = some after) :
    ControlWithin program.length after := by
  obtain ⟨-, rfl⟩ | ⟨instr, flow, executed, found, done, rfl⟩ := stepState_cases stepped
  · exact within
  · have below := (List.getElem?_eq_some_iff.mp found).1
    have stays := staysWithin_execute host below (targetWithin_of_validate valid found)
      (sets instr found) machine within.addresses
    rw [done] at stays
    obtain ⟨lands, kept⟩ := stays
    exact ⟨lands, kept.calls, kept.loops, kept.handler⟩

/-- A text that is accepted has passed the check of its jumps. -/
theorem validate_of_parse {text : String} {loaded : LoadedBytecode Double}
    (parsed : parse text = .ok loaded) : validateJumpTargets loaded.program = .ok () := by
  obtain ⟨pass, -, parsed⟩ := bind_eq_ok.mp parsed
  obtain ⟨program, -, parsed⟩ := bind_eq_ok.mp parsed
  dsimp only at parsed
  split at parsed
  · cases parsed
  · obtain ⟨_, valid, loads⟩ := bind_eq_ok.mp parsed
    cases loads
    exact valid

/-- In a run of a stored program that sets no handler beyond its end, control never leaves
the program: the pointer is at an instruction or just after the last one, and so is every
address that a return, a loop or the error handler can take it to. -/
theorem parsed_control_within {text : String} {loaded : LoadedBytecode Double}
    (parsed : parse text = .ok loaded) (host : Host Double World) (input : List String)
    (world : World) (steps : List Unit)
    (sets : EachStep (stepState host loaded.program)
      (fun machine _ => SetsHandlerWithin loaded.program machine) (loadProgram input world) steps) :
    Always (stepState host loaded.program) (ControlWithin loaded.program.length)
      (loadProgram input world) steps :=
  always_of_invariant (fun within sets => controlWithin_step (validate_of_parse parsed) within sets)
    (controlWithin_loadProgram input world) sets

/-- A program whose handlers are all in range sets none beyond its end. -/
theorem eachStep_setsHandlerWithin {program : List (Instruction Double)}
    (handlers : ∀ instr ∈ program, HandlerWithin program.length instr) (host : Host Double World)
    (machine : Machine Double World) (steps : List Unit) :
    EachStep (stepState host program) (fun machine _ => SetsHandlerWithin program machine)
      machine steps := by
  induction steps generalizing machine with
  | nil => trivial
  | cons action rest inductionHypothesis =>
      constructor
      · intro instr found
        exact handlers instr (List.mem_of_getElem? found)
      · cases stepState host program machine action with
        | none => trivial
        | some after => exact inductionHypothesis after

/-! ## A handler beyond the end -/

/-- A file system in which every record is locked. -/
def lockedFiles : FileBackend Unit where
  openFile name := pure { name, root := "" }
  read _ _ := throw (.fileSystem "RECORD LOCKED")
  readU _ _ := throw (.fileSystem "RECORD LOCKED")
  write _ _ _ := throw (.fileSystem "RECORD LOCKED")
  writeU _ _ _ := throw (.fileSystem "RECORD LOCKED")
  releaseRecord _ _ := pure false
  readNextRecord handle := pure (none, handle)
  writeAttributeValue _ _ _ _ := throw (.fileSystem "RECORD LOCKED")
  writeSubvalue _ _ _ _ _ := throw (.fileSystem "RECORD LOCKED")
  resolveField _ _ := throw (.fileSystem "Unknown field")

/-- A host whose records are locked. -/
def lockedHost : Host Int Unit where
  fileSystem := some lockedFiles

/-- A handler outside of the program, and a read of a locked record. -/
def strayHandlerText : String :=
  "PUSH_STR \"ORDERS\"\nOPEN_FILE F\nSET_ON_ERROR_HANDLER 99\nPUSH_STR \"A\"\nREAD_REC F\nHALT\n"

/-- The program of this text. -/
def strayHandlerProgram : LoadedBytecode Int where
  program := [
    { op := .pushStr, operand := .string "ORDERS" },
    { op := .openFile, operand := .string "F" },
    { op := .setOnErrorHandler, operand := .int 99 },
    { op := .pushStr, operand := .string "A" },
    { op := .readRec, operand := .string "F" },
    { op := .halt }]
  labels := ∅
  sourceLinePerInstr := [1, 2, 3, 4, 5, 6]

/-- The parser accepts a handler beyond the end of the program, and the first lock conflict
takes the pointer there. -/
theorem strayHandler_leaves_program :
    parse strayHandlerText = .ok strayHandlerProgram ∧
      ¬ Always (stepState lockedHost strayHandlerProgram.program)
        (ControlWithin strayHandlerProgram.program.length) (loadProgram [] ())
        [(), (), (), (), ()] := by
  constructor
  · have letters : strayHandlerText.toList = _ := String.toList_ofList
    rw [parse, letters]
    rfl
  · intro always
    have ran : (run (stepState lockedHost strayHandlerProgram.program) (loadProgram [] ())
        [(), (), (), (), ()]).map Machine.ip = some 99 := by decide +kernel
    obtain ⟨final, reached, pointer⟩ := Option.map_eq_some_iff.mp ran
    have within := (always.finish reached).pointer
    rw [pointer] at within
    exact absurd within (by decide)

/-- The same with the handler in the program. -/
def checkedHandlerText : String :=
  "PUSH_STR \"ORDERS\"\nOPEN_FILE F\nSET_ON_ERROR_HANDLER 5\nPUSH_STR \"A\"\nREAD_REC F\nHALT\n"

/-- The program of this text. -/
def checkedHandlerProgram : LoadedBytecode Int where
  program := [
    { op := .pushStr, operand := .string "ORDERS" },
    { op := .openFile, operand := .string "F" },
    { op := .setOnErrorHandler, operand := .int 5 },
    { op := .pushStr, operand := .string "A" },
    { op := .readRec, operand := .string "F" },
    { op := .halt }]
  labels := ∅
  sourceLinePerInstr := [1, 2, 3, 4, 5, 6]

/-- It stays in its program. -/
theorem checkedHandler_stays_in_program :
    Always (stepState lockedHost checkedHandlerProgram.program)
      (ControlWithin checkedHandlerProgram.program.length) (loadProgram [] ())
      [(), (), (), (), (), ()] := by
  have letters : checkedHandlerText.toList = _ := String.toList_ofList
  have parsed : parse checkedHandlerText = .ok checkedHandlerProgram := by
    rw [parse, letters]
    rfl
  apply parsed_control_within parsed
  apply eachStep_setsHandlerWithin
  simp [checkedHandlerProgram, HandlerWithin]

end Gemini.VM
