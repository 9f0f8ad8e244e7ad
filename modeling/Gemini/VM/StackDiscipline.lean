import Gemini.VM.StackHeights
import Gemini.VM.ControlFlow

/-!
# Programs with a height at every index

A program is disciplined when there is a height of the operand stack for every index of it
that each instruction respects: the index where the machine goes on has the height that the
instruction leaves. Returns, loops and the error handler go to stored addresses, which all
have height 0. In a run of such a program the stack has the height of the index, and no step
fails for want of values.
-/

namespace Gemini.VM

open Gemini.Semantics
open Gemini.Semantics.Program (Obeys)

variable {Double World : Type}

/-- Every address that the machine has stored has height 0. -/
structure AddressesFlat (heights : Nat → Nat) (machine : Machine Double World) : Prop where
  calls : ∀ address ∈ machine.callStack, heights address = 0
  loops : ∀ frame ∈ machine.forStack, heights frame.bodyIP = 0
  handler : ∀ address ∈ machine.onErrorIp, heights address = 0

/-- The stack has this height, and the stored addresses have height 0. -/
def HasHeight (heights : Nat → Nat) (height : Nat) (machine : Machine Double World) : Prop :=
  machine.memory.stack.length = height ∧ AddressesFlat heights machine

/-- From a stack of `height` values an instruction at `ip` goes on where the height is the
one that it leaves. -/
def Lands (heights : Nat → Nat) (size ip height : Nat) (code : MachineM Double World Flow) :
    Prop :=
  Obeys (HasHeight heights height) code
    (fun flow => HasHeight heights (heights (flow.land size ip))) (fun fault => ¬ fault.OfStack)

variable {heights : Nat → Nat} {size ip height : Nat}

/-- Code on the memory moves the height and stores no address. -/
theorem HasHeight.onMemory {Result : Type} {code : MemoryM Double World Result}
    {left : Result → Nat} (moves : Heights height code left) :
    Obeys (HasHeight heights height) (onMemory code) (fun result => HasHeight heights (left result))
      (fun fault => ¬ fault.OfStack) := by
  rintro machine ⟨here, flat⟩
  have moved := moves machine.memory here
  rw [VM.onMemory, Program.exec_zoom]
  rcases ran : Program.exec code machine.memory with ⟨fault | result, memory⟩
  · rw [ran] at moved
    exact moved
  · rw [ran] at moved
    exact ⟨moved, flat.calls, flat.loops, flat.handler⟩

namespace Lands

/-- An instruction that stores no address lands where the height is its own. -/
theorem of_flow {flow : Flow} (reaches : heights (flow.land size ip) = height) :
    Lands heights size ip height (pure flow : MachineM Double World Flow) :=
  Obeys.pure fun _ here => reaches ▸ here

/-- Code on the memory comes before what transfers control. -/
theorem after {Result : Type} {code : MemoryM Double World Result} {left : Result → Nat}
    {rest : Result → MachineM Double World Flow} (moves : Heights height code left)
    (lands : ∀ value, Lands heights size ip (left value) (rest value)) :
    Lands heights size ip height (onMemory code >>= rest) :=
  Obeys.bind (HasHeight.onMemory moves) lands

/-- An instruction that goes on with the next one. -/
theorem andNext {code : MemoryM Double World Unit}
    (moves : Heights height code fun _ => heights (ip + 1)) :
    Lands heights size ip height (andNext code) :=
  .after moves fun _ => .of_flow rfl

/-- A lock conflict goes to the handler, and nothing may be left on the stack then. -/
theorem orConflict {op : String} {locked : MemoryM Double World Bool}
    (moves : Heights height locked fun conflict => if conflict then 0 else heights (ip + 1)) :
    Lands heights size ip height (orConflict op locked) := by
  refine .after moves fun conflict => ?_
  cases conflict with
  | false => exact .of_flow rfl
  | true =>
      have noted : Heights 0 (onEnvironment (modify fun environment =>
          { environment with statusCode := kStatusRecordLocked }) : MemoryM Double World PUnit)
          fun _ => 0 :=
        .environment (.change _)
      refine .after noted fun _ => Obeys.get fun machine here => ?_
      cases handler : machine.onErrorIp with
      | none => exact Obeys.throw id
      | some address =>
          have flat := here.2.handler address handler
          exact Obeys.pure fun _ same => same ▸ ⟨here.1.trans flat.symm, here.2⟩

/-- A `RETURN` goes back to height 0. -/
theorem returnFromCall : Lands heights size ip 0 (returnFromCall : MachineM Double World Flow) := by
  refine Obeys.get fun machine here => ?_
  cases calls : machine.callStack with
  | nil => exact Obeys.throw id
  | cons address rest =>
      obtain ⟨empty, flat⟩ := here
      have stored := flat.calls
      rw [calls, List.forall_mem_cons] at stored
      intro _ _
      exact ⟨empty.trans stored.1.symm, stored.2, flat.loops, flat.handler⟩

section Targets

variable {instr : Instruction Double} {target : Nat}

/-- The operand of an instruction that has an integer. -/
theorem exec_intOperandAtIp (operand : instr.operand = .int target) :
    (intOperandAtIp instr ip : MemoryM Double World Int) = pure (target : Int) := by
  rw [VM.intOperandAtIp, operand]

/-- The operand of an instruction that transfers control is its target. -/
theorem withTarget {rest : Int → MachineM Double World Flow}
    (operand : instr.operand = .int target) (lands : Lands heights size ip height (rest target)) :
    Lands heights size ip height (onMemory (intOperandAtIp instr ip) >>= rest) := by
  rw [exec_intOperandAtIp operand]
  exact lands

/-- A number that is not negative is its own address. -/
theorem sizeOfInt_natCast (index : Nat) : sizeOfInt index = index := by
  unfold sizeOfInt
  split <;> omega

theorem jump (operand : instr.operand = .int target) (reaches : heights target = height) :
    Lands heights size ip height (jump instr ip : MachineM Double World Flow) :=
  .withTarget operand (.of_flow (by rwa [sizeOfInt_natCast]))

theorem jumpIfZero (operand : instr.operand = .int target) (falls : heights (ip + 1) = height)
    (reaches : heights target = height) :
    Lands heights size ip (height + 1) (jumpIfZero instr ip : MachineM Double World Flow) := by
  refine .withTarget operand (.after (.popInt _) fun v => .of_flow ?_)
  split
  · rwa [sizeOfInt_natCast]
  · exact falls

theorem call (operand : instr.operand = .int target) (falls : heights (ip + 1) = 0)
    (reaches : heights target = height) :
    Lands heights size ip height (call instr ip : MachineM Double World Flow) := by
  refine .withTarget operand fun machine here => ?_
  obtain ⟨same, flat⟩ := here
  refine ⟨?_, List.forall_mem_cons.mpr ⟨falls, flat.calls⟩, flat.loops, flat.handler⟩
  rw [Flow.land, sizeOfInt_natCast, reaches]
  exact same

theorem setOnErrorHandler (operand : instr.operand = .int target)
    (falls : heights (ip + 1) = height) (reaches : 0 < target → heights target = 0) :
    Lands heights size ip height (setOnErrorHandler instr ip : MachineM Double World Flow) := by
  refine .withTarget operand fun machine here => ?_
  obtain ⟨same, flat⟩ := here
  refine ⟨same.trans falls.symm, flat.calls, flat.loops, fun address set => ?_⟩
  change address ∈ (if (target : Int) ≤ 0 then none else some (target : Int).toNat) at set
  split at set
  · simp at set
  · obtain rfl := Option.some.inj set
    exact reaches (by omega)

end Targets

variable [Doubles Double]

theorem forSetup (instr : Instruction Double) (falls : heights (ip + 1) = 0) :
    Lands heights size ip 2 (forSetup instr ip : MachineM Double World Flow) := by
  refine .after (.nameOperandAtIp _ _) fun varName => .after .popCoercedInt fun step =>
    .after .popCoercedInt fun limit => ?_
  split
  · exact Obeys.throw id
  · rintro machine ⟨empty, flat⟩
    exact ⟨empty.trans falls.symm, flat.calls, List.forall_mem_cons.mpr ⟨falls, flat.loops⟩,
      flat.handler⟩

theorem forNext (instr : Instruction Double) (falls : heights (ip + 1) = 0) :
    Lands heights size ip 0 (forNext instr ip : MachineM Double World Flow) := by
  refine .after (.nameOperandAtIp _ _) fun varName => Obeys.get fun machine here => ?_
  cases loops : machine.forStack with
  | nil => exact Obeys.throw id
  | cons frame outer =>
      have stored := here.2.loops
      rw [loops, List.forall_mem_cons] at stored
      dsimp only
      split
      · exact Obeys.throw id
      · have advanced : Obeys (· = machine) (onMemory (onEnvironment (advanceLoop frame)))
            (fun _ => HasHeight heights 0) (fun fault => ¬ fault.OfStack) :=
          fun _ same => HasHeight.onMemory (.environment (harmless_advanceLoop frame)) _
            (same ▸ here)
        refine advanced.bind fun done => ?_
        cases done with
        | false => exact of_flow stored.1
        | true =>
            rintro current ⟨empty, flat⟩
            exact ⟨empty.trans falls.symm, flat.calls, stored.2, flat.handler⟩

end Lands

/-! ## Disciplined programs -/

/-- An instruction at `ip` goes on only where the height is the one that it leaves. -/
inductive Respects (heights : Nat → Nat) (size ip : Nat) (instr : Instruction Double) : Prop
  | straight {takes leaves height : Nat} (effect : stackEffect instr = some (takes, leaves))
      (calls : instr.op = .callFunc → ∃ function, instr.callFunc.Calls function)
      (here : heights ip = height + takes) (next : heights (ip + 1) = height + leaves)
  | locking {takes leaves : Nat} (effect : lockingEffect instr.op = some (takes, leaves))
      (here : heights ip = takes) (next : heights (ip + 1) = leaves)
  | jump {target : Nat} (op : instr.op = .jump) (operand : instr.operand = .int target)
      (reaches : heights target = heights ip)
  | jumpIfZero {target : Nat} (op : instr.op = .jumpIfZero) (operand : instr.operand = .int target)
      (here : heights ip = heights (ip + 1) + 1) (reaches : heights target = heights (ip + 1))
  | call {target : Nat} (op : instr.op = .call) (operand : instr.operand = .int target)
      (next : heights (ip + 1) = 0) (reaches : heights target = heights ip)
  | setOnErrorHandler {target : Nat} (op : instr.op = .setOnErrorHandler)
      (operand : instr.operand = .int target) (next : heights (ip + 1) = heights ip)
      (reaches : 0 < target → heights target = 0)
  | returnFromCall (op : instr.op = .return_) (here : heights ip = 0)
  | forSetup (op : instr.op = .forSetup) (here : heights ip = 2) (next : heights (ip + 1) = 0)
  | forNext (op : instr.op = .forNext) (here : heights ip = 0) (next : heights (ip + 1) = 0)
  | halt (op : instr.op = .halt) (here : heights ip = heights size)

variable [Doubles Double]

/-- An instruction that respects the heights lands on them. -/
theorem lands_execute {host : Host Double World}
    {handlers : BasicFunction → Handler Double World} (basic : RunsBasic host handlers)
    {instr : Instruction Double} (respects : Respects heights size ip instr) :
    Lands heights size ip (heights ip) (execute host instr ip) := by
  cases respects with
  | @straight takes leaves height effect calls here next =>
      obtain ⟨code, runs, moves⟩ := heights_execute basic effect calls ip height
      rw [runs, here]
      exact .andNext (next ▸ moves)
  | locking effect here next =>
      obtain ⟨name, locked, runs, moves⟩ := heights_locking host effect ip 0
      simp only [Nat.zero_add] at moves
      rw [runs, here]
      exact .orConflict (next ▸ moves)
  | jump op operand reaches =>
      rw [execute, op]
      exact .jump operand reaches
  | jumpIfZero op operand here reaches =>
      rw [execute, op, here]
      exact .jumpIfZero operand rfl reaches
  | call op operand next reaches =>
      rw [execute, op]
      exact .call operand next reaches
  | setOnErrorHandler op operand next reaches =>
      rw [execute, op]
      exact .setOnErrorHandler operand next reaches
  | returnFromCall op here =>
      rw [execute, op, here]
      exact .returnFromCall
  | forSetup op here next =>
      rw [execute, op, here]
      exact .forSetup instr next
  | forNext op here next =>
      rw [execute, op, here]
      exact .forNext instr next
  | halt op here =>
      rw [execute, op]
      exact .of_flow here.symm

omit [Doubles Double] in
/-- Every instruction of a program respects the heights of its indices. -/
def Disciplined (heights : Nat → Nat) (program : List (Instruction Double)) : Prop :=
  ∀ ip instr, program[ip]? = some instr → Respects heights program.length ip instr

/-- The stack has the height of the instruction pointer. -/
def AtHeight (heights : Nat → Nat) (machine : Machine Double World) : Prop :=
  HasHeight heights (heights machine.ip) machine

/-- A step keeps the height of the stack. -/
theorem atHeight_step {host : Host Double World}
    {handlers : BasicFunction → Handler Double World} (basic : RunsBasic host handlers)
    {program : List (Instruction Double)} (disciplined : Disciplined heights program)
    {machine after : Machine Double World} (here : AtHeight heights machine)
    (stepped : stepState host program machine () = some after) : AtHeight heights after := by
  obtain ⟨-, rfl⟩ | ⟨instr, flow, executed, found, done, rfl⟩ := stepState_cases stepped
  · exact here
  · have lands := lands_execute basic (disciplined machine.ip instr found) machine here
    rw [done] at lands
    obtain ⟨height, flat⟩ := lands
    exact ⟨height, flat.calls, flat.loops, flat.handler⟩

/-- A step that fails does not fail for want of values. -/
theorem harmless_step {host : Host Double World}
    {handlers : BasicFunction → Handler Double World} (basic : RunsBasic host handlers)
    {program : List (Instruction Double)} (disciplined : Disciplined heights program)
    {machine : Machine Double World} (here : AtHeight heights machine) {fault : Fault}
    (failed : (Program.exec (step host program) machine).1 = .error fault) : ¬ fault.OfStack := by
  unfold step at failed
  rw [Program.exec_bind, Program.exec_get] at failed
  cases found : program[machine.ip]? with
  | none => simp [found] at failed
  | some instr =>
      have lands := lands_execute basic (disciplined machine.ip instr found) machine here
      simp only [found, Program.exec_bind] at failed
      rcases executed : Program.exec (execute host instr machine.ip) machine with ⟨thrown | flow, _⟩
      · simp only [executed, Except.error.injEq] at failed lands
        exact failed ▸ lands
      · simp [executed] at failed

end Gemini.VM
