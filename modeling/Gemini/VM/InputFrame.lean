import Gemini.VM.Frames

/-!
# Instructions that do not read the input

Only the `INPUT` instructions read lines of the input stream, and only `LOAD_VAR` asks for a
system variable. All other instructions do the same with any input, which they leave as it is,
and without the reader of system variables.
-/

namespace Gemini.VM

open Gemini.Semantics

variable {Double World : Type}

/-- Every host keeps a property that always holds. -/
theorem keeps_true {Result Error : Type} (code : Program World Error Result) :
    Program.Keeps (fun _ => True) code :=
  Program.keeps_iff.mpr fun _ _ => trivial

/-- Only the `INPUT` instructions read the input. -/
theorem IgnoresInput.execute [Doubles Double] (instr : Instruction Double) (ip : Nat)
    (host : Host Double World) (notInput : readsInput instr.op = false) :
    IgnoresInput (execute host instr ip) := by
  refine (@Frames.execute _ _ (fun _ => True) host _ instr ip ?_ notInput fun _ => ?_).ignores
  · exact {
      files := fun _ => {
        openFile := fun _ => keeps_true _
        read := fun _ _ => keeps_true _
        readU := fun _ _ => keeps_true _
        releaseRecord := fun _ _ => keeps_true _
        readNextRecord := fun _ => keeps_true _
        resolveField := fun _ _ => keeps_true _ }
      builtins := fun _ _ _ _ _ _ _ _ _ _ => keeps_true _ }
  · exact {
      write := fun _ _ _ _ => keeps_true _
      writeU := fun _ _ _ _ => keeps_true _
      values := fun _ _ _ _ _ _ => keeps_true _ }

/-! ## Steps with another input and without the reader -/

section Steps

variable [Doubles Double] {host : Host Double World} {program : List (Instruction Double)}
  {machine : Machine Double World} {instr : Instruction Double}

/-- A step of an instruction that does not read the input. -/
theorem exec_step_withInput (found : program[machine.ip]? = some instr)
    (notInput : IgnoresInput.readsInput instr.op = false) (lines : List String) :
    Program.exec (step host program) (HasInput.withInput lines machine) =
      ((Program.exec (step host program) machine).1,
        HasInput.withInput lines (Program.exec (step host program) machine).2) := by
  have same := IgnoresInput.execute instr machine.ip host notInput lines machine
  have place : (HasInput.withInput lines machine).ip = machine.ip := rfl
  rw [exec_step, exec_step, place, found]
  dsimp only
  rw [same]
  rcases Program.exec (execute host instr machine.ip) machine with ⟨_ | flow, after⟩ <;> rfl

/-- Such a step leaves the input as it is. -/
theorem withInput_step (found : program[machine.ip]? = some instr)
    (notInput : IgnoresInput.readsInput instr.op = false) :
    HasInput.withInput machine.memory.environment.input
      (Program.exec (step host program) machine).2 = (Program.exec (step host program) machine).2 := by
  have same := @exec_step_withInput _ _ _ host _ _ _ found notInput machine.memory.environment.input
  exact (congrArg Prod.snd same).symm

/-- The host without system variables. -/
def withoutReader (host : Host Double World) : Host Double World :=
  { host with systemVarReader := none }

/-- The system variable that an instruction gets from the session. -/
def systemVariableOf (host : Host Double World) (world : World) (instr : Instruction Double) :
    Option (Value Double) :=
  match instr.op, instr.operand with
  | .loadVar, .string name => systemVariable host world (canonicalVariableName name)
  | _, _ => none

omit [Doubles Double] in
/-- A variable of the program is loaded without the reader. -/
theorem exec_loadVariable_withoutReader {environment : Environment Double World} {name : String}
    (notSystem : systemVariable host environment.world name = none) :
    Program.exec (loadVariable (withoutReader host) name) environment =
      Program.exec (loadVariable host name) environment := by
  have none : systemVariable (withoutReader host) environment.world name = none := by
    unfold systemVariable
    split <;> rfl
  unfold loadVariable
  rw [Program.exec_bind, Program.exec_bind, Program.exec_get]
  simp only [notSystem, none]

/-- An instruction that gets no variable from the session does the same without the reader. -/
theorem exec_execute_withoutReader
    (notSystem : systemVariableOf host machine.memory.environment.world instr = none) (ip : Nat) :
    Program.exec (execute (withoutReader host) instr ip) machine =
      Program.exec (execute host instr ip) machine := by
  by_cases isLoad : instr.op = .loadVar
  · have loads (host : Host Double World) :
        execute host instr ip = andNext (loadVar host instr ip) := by
      unfold execute
      rw [isLoad]
    rw [loads, loads]
    unfold loadVar nameOperandAtIp stringOperandAtIp
    cases operand : instr.operand with
    | string name =>
        simp only [systemVariableOf, isLoad, operand] at notSystem
        simp only [andNext, onMemory, pushFrom, onEnvironment, pure_bind, Program.exec_bind,
          Program.exec_zoom, exec_loadVariable_withoutReader notSystem]
    | int => rfl
    | double => rfl
  · have same : execute (withoutReader host) instr ip = execute host instr ip := by
      unfold execute
      split <;> first | contradiction | rfl
    rw [same]

/-- A step of an instruction that gets no variable from the session. -/
theorem exec_step_withoutReader (found : program[machine.ip]? = some instr)
    (notSystem : systemVariableOf host machine.memory.environment.world instr = none) :
    Program.exec (step (withoutReader host) program) machine =
      Program.exec (step host program) machine := by
  rw [exec_step, exec_step, found]
  dsimp only
  rw [exec_execute_withoutReader notSystem]

end Steps

end Gemini.VM
