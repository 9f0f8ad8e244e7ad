import Gemini.VM.Runtime
import Gemini.Semantics.Simulation
import Gemini.Semantics.Run

/-!
# Runs of the machine and of instructions in a row

`runTurn` is the loop of `Runtime::run`. It ends when a step says that nothing is left to
execute; `patientTurn` only looks whether there is an instruction, and has the same outcomes.

An instruction that the machine goes on after acts on the operand stack and the environment
alone. `OnStack` says what it does to a given stack as a program on the environment, `RowDoes`
the same of instructions in a row, and `reaches_of_row` and `fails_of_row` what the machine does
where they are in its program.
-/

namespace Gemini.VM

open Gemini.Semantics

variable {Double World : Type} [Doubles Double]

/-! ## Runs -/

/-- How a run ends: without an error, or with the error that it ends with and its line. -/
inductive Outcome (Double World : Type) where
  | finished (environment : Environment Double World)
  | failed (fault : Fault) (line : Int) (environment : Environment Double World)

/-- A turn of the loop of `Runtime::run`. -/
def runTurn (host : Host Double World) (program : List (Instruction Double))
    (sourceLinePerInstr : List Int) (machine : Machine Double World) :
    Turn (Machine Double World) (Outcome Double World) :=
  match Program.exec (step host program) machine with
  | (.ok true, after) => .goesOn after
  | (.ok false, after) => .ends (.finished after.memory.environment)
  | (.error fault, after) =>
      .ends (.failed fault (sourceLineAtInstruction sourceLinePerInstr after.ip)
        after.memory.environment)

/-- The same loop when it looks for an instruction before each step. -/
def patientTurn (host : Host Double World) (program : List (Instruction Double))
    (sourceLinePerInstr : List Int) (machine : Machine Double World) :
    Turn (Machine Double World) (Outcome Double World) :=
  match program[machine.ip]? with
  | none => .ends (.finished machine.memory.environment)
  | some instr =>
      match Program.exec (execute host instr machine.ip) machine with
      | (.ok flow, after) => .goesOn { after with ip := flow.land program.length machine.ip }
      | (.error fault, after) =>
          .ends (.failed fault (sourceLineAtInstruction sourceLinePerInstr after.ip)
            after.memory.environment)

section Loops

variable {host : Host Double World} {program : List (Instruction Double)}
  {sourceLinePerInstr : List Int}

/-- A step of the machine: the instruction is executed and the pointer moved. -/
theorem exec_step (machine : Machine Double World) :
    Program.exec (step host program) machine =
      match program[machine.ip]? with
      | none => (.ok false, machine)
      | some instr =>
          match Program.exec (execute host instr machine.ip) machine with
          | (.ok flow, after) =>
              (.ok (flow ≠ .halt && flow.land program.length machine.ip < program.length),
                { after with ip := flow.land program.length machine.ip })
          | (.error fault, after) => (.error fault, after) := by
  unfold step
  rw [Program.exec_bind, Program.exec_get]
  dsimp only
  cases program[machine.ip]? with
  | none => rfl
  | some instr =>
      simp only [Program.exec_bind]
      rcases Program.exec (execute host instr machine.ip) machine with ⟨_ | flow, after⟩ <;> rfl

/-- The patient loop simulates the other. -/
theorem patient_simulates :
    Simulation (runTurn host program sourceLinePerInstr)
      (patientTurn host program sourceLinePerInstr) (· = ·) (fun _ => 0) where
  ends := by
    rintro machine _ outcome rfl ended
    unfold runTurn at ended
    rw [exec_step] at ended
    cases found : program[machine.ip]? with
    | none =>
        simp only [found, Turn.ends.injEq] at ended
        exact .now (by simp [patientTurn, found, ended])
    | some instr =>
        simp only [found] at ended
        rcases executed : Program.exec (execute host instr machine.ip) machine
          with ⟨fault | flow, after⟩
        · simp only [executed, Turn.ends.injEq] at ended
          exact .now (by simp [patientTurn, found, executed, ended])
        · simp only [executed] at ended
          have turned : patientTurn host program sourceLinePerInstr machine =
              .goesOn { after with ip := flow.land program.length machine.ip } := by
            simp [patientTurn, found, executed]
          refine (Reaches.one turned).ends (.now ?_)
          cases left : (decide (flow ≠ .halt) &&
              decide (flow.land program.length machine.ip < program.length)) with
          | true =>
              rw [left] at ended
              cases ended
          | false =>
              rw [left] at ended
              cases ended
              have outside : program[flow.land program.length machine.ip]? = none := by
                rw [List.getElem?_eq_none_iff]
                cases flow with
                | halt => exact le_rfl
                | next => simpa using left
                | goTo target => simpa using left
              simp [patientTurn, outside]
  goesOn := by
    rintro machine _ next rfl turned
    refine ⟨1, next, .one ?_, rfl, .inl Nat.one_pos⟩
    unfold runTurn at turned
    rw [exec_step] at turned
    cases found : program[machine.ip]? with
    | none =>
        simp only [found] at turned
        cases turned
    | some instr =>
        simp only [found] at turned
        rcases executed : Program.exec (execute host instr machine.ip) machine
          with ⟨fault | flow, after⟩
        · simp only [executed] at turned
          cases turned
        · simp only [executed] at turned
          cases left : (decide (flow ≠ .halt) &&
              decide (flow.land program.length machine.ip < program.length)) with
          | true =>
              rw [left] at turned
              cases turned
              simp [patientTurn, found, executed]
          | false =>
              rw [left] at turned
              cases turned

/-- The patient loop takes the steps of the machine. -/
theorem run_of_reaches {count : Nat} {machine after : Machine Double World}
    (reaches : Reaches (patientTurn host program sourceLinePerInstr) count machine after) :
    run (stepState host program) machine (List.replicate count ()) = some after := by
  induction reaches with
  | here => rfl
  | @next count machine middle final taken _ inductionHypothesis =>
      have stepped : stepState host program machine () = some middle := by
        unfold patientTurn at taken
        unfold stepState
        rw [exec_step]
        cases found : program[machine.ip]? with
        | none =>
            rw [found] at taken
            cases taken
        | some instr =>
            simp only [found] at taken
            rcases executed : Program.exec (execute host instr machine.ip) machine
              with ⟨fault | flow, after⟩
            · simp only [executed] at taken
              cases taken
            · simp only [executed] at taken
              cases taken
              simp [executed]
      rw [List.replicate_succ, run, stepped]
      exact inductionHypothesis

end Loops

/-! ## Instructions on a stack -/

section OnStack

variable {Result : Type} {stack : List (Value Double)}

omit [Doubles Double] in
/-- On this stack the code does to the environment what `effect` does, and leaves the stack
that `effect` returns. A stack that is left by an error does not matter. -/
def OnStack (stack : List (Value Double)) (code : MemoryM Double World Unit)
    (effect : EnvironmentM Double World (List (Value Double))) : Prop :=
  ∀ environment,
    match Program.exec effect environment with
    | (.ok left, after) =>
        Program.exec code { stack, environment } = (.ok (), { stack := left, environment := after })
    | (.error fault, after) =>
        ∃ left, Program.exec code { stack, environment } =
          (.error fault, { stack := left, environment := after })

omit [Doubles Double]

/-- Code on the environment leaves the stack alone. -/
theorem exec_onEnvironment (code : EnvironmentM Double World Result)
    (environment : Environment Double World) :
    Program.exec (onEnvironment code) { stack, environment } =
      ((Program.exec code environment).1,
        { stack, environment := (Program.exec code environment).2 }) := by
  rw [onEnvironment, Program.exec_zoom]

namespace OnStack

/-- An error. -/
theorem fails (fault : Fault) :
    OnStack stack (throw fault : MemoryM Double World Unit) (throw fault) :=
  fun _ => ⟨stack, rfl⟩

/-- A value that is pushed. -/
theorem push (value : Value Double) :
    OnStack stack (push value : MemoryM Double World Unit) (pure (value :: stack)) :=
  fun _ => rfl

/-- A value that is popped, and what follows. -/
theorem popThen {value : Value Double} {rest : Value Double → MemoryM Double World Unit}
    {effect : EnvironmentM Double World (List (Value Double))}
    (does : OnStack stack (rest value) effect) :
    OnStack (value :: stack) (pop >>= rest) effect := by
  intro environment
  rw [Program.exec_bind, exec_pop_cons]
  exact does environment

/-- Code on the environment, and what follows. -/
theorem environmentThen {code : EnvironmentM Double World Result}
    {rest : Result → MemoryM Double World Unit}
    {effect : Result → EnvironmentM Double World (List (Value Double))}
    (does : ∀ result, OnStack stack (rest result) (effect result)) :
    OnStack stack (onEnvironment code >>= rest) (code >>= effect) := by
  intro environment
  rw [Program.exec_bind, Program.exec_bind, exec_onEnvironment]
  rcases Program.exec code environment with ⟨fault | result, after⟩
  · exact ⟨stack, rfl⟩
  · exact does result after

/-- Code on the environment that leaves nothing. -/
theorem environment (code : EnvironmentM Double World Unit) :
    OnStack stack (onEnvironment code) (code >>= fun _ => pure stack) := by
  intro environment
  rw [Program.exec_bind, exec_onEnvironment]
  rcases Program.exec code environment with ⟨fault | result, after⟩
  · exact ⟨stack, rfl⟩
  · rfl

end OnStack

end OnStack

/-! ## Instructions in a row -/

/-- What instructions in a row come to: the memory that they leave, or their error. -/
inductive RowOutcome (Double World : Type) where
  | done (memory : Memory Double World)
  | failed (fault : Fault) (environment : Environment Double World)

/-- Instructions in a row from an index on, when the machine goes on after each of them. -/
inductive RowRuns (host : Host Double World) :
    Nat → List (Instruction Double) → Memory Double World → RowOutcome Double World → Prop
  | done {ip : Nat} {memory : Memory Double World} : RowRuns host ip [] memory (.done memory)
  | next {ip : Nat} {instr : Instruction Double} {rest : List (Instruction Double)}
      {memory after : Memory Double World} {outcome : RowOutcome Double World}
      {code : MemoryM Double World Unit} (executes : execute host instr ip = andNext code)
      (ran : Program.exec code memory = (.ok (), after))
      (later : RowRuns host (ip + 1) rest after outcome) :
      RowRuns host ip (instr :: rest) memory outcome
  | fails {ip : Nat} {instr : Instruction Double} {rest : List (Instruction Double)}
      {memory after : Memory Double World} {fault : Fault} {code : MemoryM Double World Unit}
      (executes : execute host instr ip = andNext code)
      (ran : Program.exec code memory = (.error fault, after)) :
      RowRuns host ip (instr :: rest) memory (.failed fault after.environment)

section Rows

variable {host : Host Double World} {ip : Nat} {first second : List (Instruction Double)}
  {memory middle : Memory Double World}

/-- Instructions after instructions. -/
theorem RowRuns.append {outcome : RowOutcome Double World}
    (runs : RowRuns host ip first memory (.done middle))
    (later : RowRuns host (ip + first.length) second middle outcome) :
    RowRuns host ip (first ++ second) memory outcome := by
  induction first generalizing ip memory with
  | nil =>
      cases runs
      exact later
  | cons instr rest inductionHypothesis =>
      cases runs with
      | next executes ran restRuns =>
          refine .next executes ran (inductionHypothesis restRuns ?_)
          rwa [Nat.add_assoc, Nat.add_comm 1]

/-- What has failed does so whatever follows. -/
theorem RowRuns.appendFailed {fault : Fault} {environment : Environment Double World}
    (runs : RowRuns host ip first memory (.failed fault environment)) :
    RowRuns host ip (first ++ second) memory (.failed fault environment) := by
  induction first generalizing ip memory with
  | nil => cases runs
  | cons instr rest inductionHypothesis =>
      cases runs with
      | next executes ran restRuns => exact .next executes ran (inductionHypothesis restRuns)
      | fails executes ran => exact .fails executes ran

/-- The outcome of a program on the environment that returns a stack. -/
def rowOutcome :
    Except Fault (List (Value Double)) × Environment Double World → RowOutcome Double World
  | (.ok stack, environment) => .done { stack, environment }
  | (.error fault, environment) => .failed fault environment

/-- On this stack the instructions do to the environment what `effect` does, and leave the
stack that it returns. -/
def RowDoes (host : Host Double World) (code : List (Instruction Double))
    (stack : List (Value Double)) (effect : EnvironmentM Double World (List (Value Double))) :
    Prop :=
  ∀ ip environment,
    RowRuns host ip code { stack, environment } (rowOutcome (Program.exec effect environment))

namespace RowDoes

variable {Result : Type} {stack : List (Value Double)}

/-- No instructions do nothing. -/
theorem nil : RowDoes host [] stack (pure stack) :=
  fun _ _ => .done

/-- One instruction does what its code does. -/
theorem one {instr : Instruction Double}
    {effect : EnvironmentM Double World (List (Value Double))}
    (does : ∀ ip, ∃ code, execute host instr ip = andNext code ∧ OnStack stack code effect) :
    RowDoes host [instr] stack effect := by
  intro ip environment
  obtain ⟨code, executes, onStack⟩ := does ip
  have ran := onStack environment
  rcases effected : Program.exec effect environment with ⟨fault | left, after⟩
  · rw [effected] at ran
    obtain ⟨left, ran⟩ := ran
    exact .fails executes ran
  · rw [effected] at ran
    exact .next executes ran .done

/-- Instructions after others start from the stack that these leave for what they have
returned. -/
theorem andThen {program : EnvironmentM Double World Result}
    {left : Result → List (Value Double)}
    {effect : Result → EnvironmentM Double World (List (Value Double))}
    (before : RowDoes host first stack (program >>= fun result => pure (left result)))
    (after : ∀ result, (∃ environment changed,
      Program.exec program environment = (.ok result, changed)) →
      RowDoes host second (left result) (effect result)) :
    RowDoes host (first ++ second) stack (program >>= effect) := by
  intro ip environment
  have ran := before ip environment
  rw [Program.exec_bind] at ran ⊢
  rcases done : Program.exec program environment with ⟨fault | result, changed⟩
  · rw [done] at ran
    exact ran.appendFailed
  · rw [done] at ran
    exact ran.append (after result ⟨environment, changed, done⟩ _ changed)

/-- The same, whatever the first instructions have returned. -/
theorem then_ {program : EnvironmentM Double World Result} {left : Result → List (Value Double)}
    {effect : Result → EnvironmentM Double World (List (Value Double))}
    (before : RowDoes host first stack (program >>= fun result => pure (left result)))
    (after : ∀ result, RowDoes host second (left result) (effect result)) :
    RowDoes host (first ++ second) stack (program >>= effect) :=
  before.andThen fun result _ => after result

/-- Instructions after others that do nothing to the environment. -/
theorem pureThen {reached : List (Value Double)}
    {effect : EnvironmentM Double World (List (Value Double))}
    (before : RowDoes host first stack (pure reached))
    (after : RowDoes host second reached effect) :
    RowDoes host (first ++ second) stack effect :=
  fun ip environment => (before ip environment).append (after _ environment)

end RowDoes

/-! ## Rows in a program -/

variable {program : List (Instruction Double)} {sourceLinePerInstr : List Int}

omit [Doubles Double] in
/-- An instruction that goes on with the next one. -/
theorem exec_andNext (code : MemoryM Double World Unit) (machine : Machine Double World) :
    Program.exec (andNext code) machine =
      match Program.exec code machine.memory with
      | (.ok _, after) => (.ok .next, { machine with memory := after })
      | (.error fault, after) => (.error fault, { machine with memory := after }) := by
  rw [andNext, Program.exec_bind, onMemory, Program.exec_zoom]
  rcases Program.exec code machine.memory with ⟨fault | result, after⟩ <;> rfl

/-- The machine executes instructions in a row. -/
theorem reaches_of_row {machine : Machine Double World} {after : Memory Double World}
    {code : List (Instruction Double)} (placed : CodeAt program machine.ip code)
    (runs : RowRuns host machine.ip code machine.memory (.done after)) :
    Reaches (patientTurn host program sourceLinePerInstr) code.length machine
      { machine with ip := machine.ip + code.length, memory := after } := by
  induction code generalizing machine with
  | nil =>
      cases runs
      exact .here
  | cons instr rest inductionHypothesis =>
      cases runs with
      | @next _ _ _ _ middle _ code executes ran later =>
          have turned : patientTurn host program sourceLinePerInstr machine =
              .goesOn { machine with ip := machine.ip + 1, memory := middle } := by
            simp [patientTurn, placed.1, executes, exec_andNext, ran, Flow.land]
          have reached := @inductionHypothesis
            { machine with ip := machine.ip + 1, memory := middle } placed.2 later
          have place : machine.ip + 1 + rest.length = machine.ip + (instr :: rest).length := by
            rw [List.length_cons]
            omega
          rw [← place]
          exact .next turned reached

/-- The machine fails where instructions in a row fail. -/
theorem fails_of_row {machine : Machine Double World} {fault : Fault}
    {environment : Environment Double World} {code : List (Instruction Double)}
    (placed : CodeAt program machine.ip code)
    (runs : RowRuns host machine.ip code machine.memory (.failed fault environment)) :
    ∃ count last, Reaches (patientTurn host program sourceLinePerInstr) count machine last ∧
      machine.ip ≤ last.ip ∧ last.ip < machine.ip + code.length ∧
      patientTurn host program sourceLinePerInstr last =
        .ends (.failed fault (sourceLineAtInstruction sourceLinePerInstr last.ip) environment) := by
  induction code generalizing machine with
  | nil => cases runs
  | cons instr rest inductionHypothesis =>
      cases runs with
      | @next _ _ _ _ middle _ code executes ran later =>
          have turned : patientTurn host program sourceLinePerInstr machine =
              .goesOn { machine with ip := machine.ip + 1, memory := middle } := by
            simp [patientTurn, placed.1, executes, exec_andNext, ran, Flow.land]
          obtain ⟨count, last, reached, low, high, failed⟩ := @inductionHypothesis
            { machine with ip := machine.ip + 1, memory := middle } placed.2 later
          refine ⟨count + 1, last, .next turned reached, ?_, ?_, failed⟩
          · dsimp only at low
            omega
          · dsimp only at high
            rw [List.length_cons]
            omega
      | fails executes ran =>
          refine ⟨0, machine, .here, Nat.le_refl _, by simp, ?_⟩
          simp [patientTurn, placed.1, executes, exec_andNext, ran]

end Rows

end Gemini.VM
