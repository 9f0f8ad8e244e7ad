import Mathlib.Data.Finset.Basic
import Gemini.Semantics.Run
import Gemini.VM.Debugging

/-!
# The BASIC debugger

After a break the shell reads debugger commands. `CONT` and `STEP` run `runBasicUntilStop`,
which looks for a breakpoint on the line of each instruction before it executes it. The line
to resume past is tested there and set nowhere, so a command that is given on a breakpoint line
stops where it started; and `CHAIN` throws through the debugger.

A debugger is a state, and its actions are the commands and the turns of the loop, so that
what holds after every action holds in every state of a command that does not end.
-/

namespace Gemini.PickShell

open Gemini.Semantics Gemini.VM

variable {Double World : Type}

/-- A compiled program with the BASIC line of each instruction. -/
structure CompiledProgram (Double : Type) where
  program : List (Instruction Double)
  sourceLinePerInstr : List Int

/-- What becomes of a run that does not go on. -/
inductive Ending where
  | finished
  | transfers (programName : String)
  | debugger (what : String)
  | escapes (fault : Fault)
deriving DecidableEq

/-- Where the debugger is: at its prompt, in the loop of a command, or done. -/
inductive Phase where
  | prompt
  | running (stopAtNextBasicLine : Bool) (initialLine : Int)
  | ended (ending : Ending)
deriving DecidableEq

/-- The state of the debugger. `executed`, `previous` and `fault` are for the statements: the
number of instructions executed since the break, where the last one of the command was, and
what the last one has thrown. -/
structure BasicDebugger (Double World : Type) where
  machine : Machine Double World
  basicBreakpoints : Finset Int := ∅
  basicResumePastLine : Option Int := none
  basicTrace : Bool := false
  phase : Phase := .prompt
  messages : List String := []
  executed : Nat := 0
  previous : Option Nat := none
  fault : Option Fault := none

/-- The commands of the debugger, and a turn of the loop that a command has started. -/
inductive DebuggerAction where
  | cont
  | step
  | breakpoint (line : Int)
  | clearBreakpoint (line : Int)
  | clearBreakpoints
  | trace (on : Bool)
  | goTo (line : Int)
  | quit
  | turn
deriving DecidableEq

/-- The exceptions that are a `runtime_error`; of those from the surroundings, the ones that
`caught` names. -/
def isRuntimeError (caught : String → Bool) : Fault → Bool
  | .stackUnderflow => true
  | .arityMismatch => true
  | .runtimeError _ => true
  | .exception what => caught what
  | .chainRequest _ => false

/-- The handlers around `Runtime::run` in `executeCompiledBasicProgram`. A name with a dot is
refused, and the run is over. -/
def endingOfRun (caught : String → Bool) : Option Fault → Ending
  | none => .finished
  | some (.chainRequest programName) =>
      if programName = "" ∨ '.' ∈ programName.toList then .finished else .transfers programName
  | some fault =>
      if isRuntimeError caught fault then .debugger (fault.what.getD "") else .escapes fault

namespace BasicDebugger

section Model

variable [Doubles Double] (host : Host Double World) (caught : String → Bool)
  (formatInstructionLine : Nat → Instruction Double → String) (image : CompiledProgram Double)

/-- The BASIC line of an instruction. -/
def lineAt (ip : Nat) : Int := sourceLineAtInstruction image.sourceLinePerInstr ip

/-- The line of an instruction is a breakpoint. -/
def onBreakpoint (debugger : BasicDebugger Double World) (ip : Nat) : Bool :=
  0 < lineAt image ip && lineAt image ip ∈ debugger.basicBreakpoints

/-- The trace line of `stepRuntime`. -/
def traceLine (debugger : BasicDebugger Double World) : List String :=
  if debugger.basicTrace then
    (image.program[debugger.machine.ip]?.map (formatInstructionLine debugger.machine.ip)).toList
  else []

/-- An instruction through `stepRuntime`, and what the loop does with its outcome. -/
def executeOne (stopAtNextBasicLine : Bool) (initialLine : Int)
    (debugger : BasicDebugger Double World) : BasicDebugger Double World :=
  let traced := { debugger with
    messages := debugger.messages ++ traceLine formatInstructionLine image debugger
    executed := debugger.executed + 1
    previous := some debugger.machine.ip }
  match Program.exec (VM.step host image.program) debugger.machine with
  | (.ok false, machine) => { traced with machine, phase := .ended .finished }
  | (.ok true, machine) =>
      let currentLine := lineAt image machine.ip
      if stopAtNextBasicLine && 0 < currentLine && currentLine ≠ initialLine then
        { traced with machine, phase := .prompt }
      else { traced with machine }
  | (.error fault, machine) =>
      if isRuntimeError caught fault then
        { traced with
          machine
          fault := some fault
          phase := .prompt
          messages := traced.messages ++ ["\nRuntime error: " ++ fault.what.getD "" ++ "\n"] }
      else { traced with machine, fault := some fault, phase := .ended (.escapes fault) }

/-- A turn of the loop of `runBasicUntilStop`. -/
def runBasicTurn (stopAtNextBasicLine : Bool) (initialLine : Int)
    (debugger : BasicDebugger Double World) : BasicDebugger Double World :=
  let ip := debugger.machine.ip
  let sourceLine := lineAt image ip
  if ip < image.program.length then
    if 0 < sourceLine && debugger.basicResumePastLine = some sourceLine then
      executeOne host caught formatInstructionLine image stopAtNextBasicLine initialLine
        { debugger with basicResumePastLine := none }
    else if onBreakpoint image debugger ip then
      { debugger with
        phase := .prompt
        messages := debugger.messages ++
          ["Breakpoint hit at line " ++ toString sourceLine ++ "\n"] }
    else
      executeOne host caught formatInstructionLine image stopAtNextBasicLine initialLine debugger
  else { debugger with phase := .ended .finished }

/-- `runBasicUntilStop` up to its loop. -/
def startCommand (stopAtNextBasicLine : Bool) (debugger : BasicDebugger Double World) :
    BasicDebugger Double World :=
  { debugger with
    phase := .running stopAtNextBasicLine (lineAt image debugger.machine.ip)
    previous := none }

/-- A command of `handleBasicDebuggerCommand`. -/
def handleBasicDebuggerCommand (debugger : BasicDebugger Double World) :
    DebuggerAction → BasicDebugger Double World
  | .cont => startCommand image false debugger
  | .step => startCommand image true debugger
  | .breakpoint line =>
      if 0 < line && line ∈ image.sourceLinePerInstr then
        { debugger with basicBreakpoints := insert line debugger.basicBreakpoints }
      else
        { debugger with
          messages := debugger.messages ++ ["No such BASIC line in compiled program\n"] }
  | .clearBreakpoint line =>
      if line ∈ debugger.basicBreakpoints then
        { debugger with basicBreakpoints := debugger.basicBreakpoints.erase line }
      else { debugger with messages := debugger.messages ++ ["No such breakpoint\n"] }
  | .clearBreakpoints => { debugger with basicBreakpoints := ∅ }
  | .trace on => { debugger with basicTrace := on }
  | .goTo line =>
      match image.sourceLinePerInstr.findIdx? (· = line) with
      | none =>
          { debugger with
            messages := debugger.messages ++ ["No such BASIC line in compiled program\n"] }
      | some ip => { debugger with machine := { debugger.machine with ip } }
  | .quit =>
      { debugger with
        machine := { debugger.machine with ip := image.program.length }
        phase := .ended .finished }
  | .turn => debugger

/-- An action of the debugger: commands at its prompt, turns in the loop of a command. -/
def act (debugger : BasicDebugger Double World) (action : DebuggerAction) :
    Option (BasicDebugger Double World) :=
  match debugger.phase, action with
  | .running stopAtNextBasicLine initialLine, .turn =>
      some (runBasicTurn host caught formatInstructionLine image stopAtNextBasicLine initialLine
        debugger)
  | .prompt, .turn => none
  | .prompt, command =>
      if debugger.machine.ip < image.program.length then
        some (handleBasicDebuggerCommand image debugger command)
      else none
  | _, _ => none

end Model

/-! ## What the debugger is to keep to -/

section Statement

variable [Doubles Double] (host : Host Double World) (caught : String → Bool)
  (formatInstructionLine : Nat → Instruction Double → String) (image : CompiledProgram Double)

/-- Where the run is that the debugger shows. -/
def position (debugger : BasicDebugger Double World) :
    Turn (Machine Double World) (Option Fault × Machine Double World) :=
  match debugger.fault, debugger.phase with
  | some fault, _ => .ends (some fault, debugger.machine)
  | none, .ended _ => .ends (none, debugger.machine)
  | none, _ => .goesOn debugger.machine

/-- What has been executed since the break is what the uninterrupted run executes. -/
def Transparent (start : Machine Double World) (debugger : BasicDebugger Double World) : Prop :=
  after (instructionTurn host image.program) start debugger.executed = debugger.position

/-- The program that the next instruction, a `CHAIN`, is to go on with. -/
def chainTarget (machine : Machine Double World) : Option String :=
  (image.program[machine.ip]?.filter fun instr => instr.op = .chain).bind fun _ =>
    (machine.memory.stack.head?.map valueToString).filter (· ≠ "")

/-- A command executes an instruction before anything else. -/
def Progresses (debugger : BasicDebugger Double World) (command : DebuggerAction) : Prop :=
  ∃ started stepped, act host caught formatInstructionLine image debugger command = some started ∧
    act host caught formatInstructionLine image started .turn = some stepped ∧
    stepped.executed = debugger.executed + 1

/-- What is to hold of each action: a command executes an instruction; a turn stops for a
breakpoint only where the run has arrived from another line or by a jump; and a `CHAIN` is what
it is in a run without the debugger. -/
def Behaves (debugger : BasicDebugger Double World) : DebuggerAction → Prop
  | .cont => debugger.phase = .prompt → debugger.machine.ip < image.program.length →
      Progresses host caught formatInstructionLine image debugger .cont
  | .step => debugger.phase = .prompt → debugger.machine.ip < image.program.length →
      Progresses host caught formatInstructionLine image debugger .step
  | .turn => ∀ next, act host caught formatInstructionLine image debugger .turn = some next →
      (next.executed = debugger.executed → next.phase = .prompt →
        ∃ previous, debugger.previous = some previous ∧
          (lineAt image previous ≠ lineAt image debugger.machine.ip ∨
            debugger.machine.ip ≠ previous + 1)) ∧
      ∀ programName, chainTarget image debugger.machine = some programName →
        next.phase = .ended (endingOfRun caught (some (.chainRequest programName)))
  | _ => True

/-- The actions after which the debugger keeps to this. A command is given on a line without a
breakpoint, no command is given after an exception, and no `CHAIN` is executed. -/
def Admitted (debugger : BasicDebugger Double World) : DebuggerAction → Prop
  | .cont | .step =>
      onBreakpoint image debugger debugger.machine.ip = false ∧ debugger.fault = none
  | .goTo _ | .quit => False
  | .turn => chainTarget image debugger.machine = none
  | _ => True

end Statement

/-! ## The invariant -/

section Proof

variable [Doubles Double] {host : Host Double World} {caught : String → Bool}
  {formatInstructionLine : Nat → Instruction Double → String} {image : CompiledProgram Double}
  {start : Machine Double World} {debugger next : BasicDebugger Double World}
  {stopAtNextBasicLine : Bool} {initialLine : Int}

/-- In the loop of a command, the instruction before this one was on no breakpoint; before the
first one, this is so of the one that the command starts from. -/
def quietPlace (debugger : BasicDebugger Double World) : Nat :=
  debugger.previous.getD debugger.machine.ip

variable (host image start) in
/-- What every admitted action keeps: the run is the one without the debugger, and no loop has
started on a breakpoint. -/
structure Invariant (debugger : BasicDebugger Double World) : Prop where
  transparent : Transparent host image start debugger
  resume : debugger.basicResumePastLine = none
  inside : debugger.fault = none → (∀ ending, debugger.phase ≠ .ended ending) →
    debugger.machine.ip < image.program.length
  sound : ∀ stop line, debugger.phase = .running stop line → debugger.fault = none
  quiet : ∀ stop line, debugger.phase = .running stop line →
    onBreakpoint image debugger (quietPlace debugger) = false

omit [Doubles Double] in
/-- A run that has neither failed nor ended is where the machine is. -/
theorem position_of_going (noFault : debugger.fault = none)
    (going : ∀ ending, debugger.phase ≠ .ended ending) :
    debugger.position = .goesOn debugger.machine := by
  unfold position
  rw [noFault]
  cases phase : debugger.phase with
  | prompt => rfl
  | running => rfl
  | ended ending => exact absurd phase (going ending)

variable (host image) in
/-- What the execution of an instruction does to the debugger. -/
structure Executed (debugger next : BasicDebugger Double World) : Prop where
  counted : next.executed = debugger.executed + 1
  resume : next.basicResumePastLine = debugger.basicResumePastLine
  breakpoints : next.basicBreakpoints = debugger.basicBreakpoints
  previous : next.previous = some debugger.machine.ip
  position : next.position = instructionTurn host image.program debugger.machine
  sound : ∀ stop line, next.phase = .running stop line → next.fault = none

/-- `executeOne` executes one instruction. -/
theorem executeOne_executed (running : debugger.phase = .running stopAtNextBasicLine initialLine)
    (noFault : debugger.fault = none) :
    Executed host image debugger (executeOne host caught formatInstructionLine image
      stopAtNextBasicLine initialLine debugger) := by
  unfold executeOne
  split
  · next machine stepped =>
      exact
        { counted := rfl, resume := rfl, breakpoints := rfl, previous := rfl
          position := by simp [position, noFault, instructionTurn, stepped]
          sound := fun _ _ _ => noFault }
  · next machine stepped =>
      dsimp only
      split
      · exact
          { counted := rfl, resume := rfl, breakpoints := rfl, previous := rfl
            position := by simp [position, noFault, instructionTurn, stepped]
            sound := fun _ _ _ => noFault }
      · exact
          { counted := rfl, resume := rfl, breakpoints := rfl, previous := rfl
            position := by simp [position, noFault, instructionTurn, stepped, running]
            sound := fun _ _ _ => noFault }
  · next fault machine stepped =>
      dsimp only
      split
      · exact
          { counted := rfl, resume := rfl, breakpoints := rfl, previous := rfl
            position := by simp [position, instructionTurn, stepped]
            sound := nofun }
      · exact
          { counted := rfl, resume := rfl, breakpoints := rfl, previous := rfl
            position := by simp [position, instructionTurn, stepped]
            sound := nofun }

/-- An instruction that the debugger executes is the next one of the uninterrupted run. -/
theorem Invariant.executed (invariant : Invariant host image start debugger)
    (running : debugger.phase = .running stopAtNextBasicLine initialLine)
    (quiet : onBreakpoint image debugger debugger.machine.ip = false)
    (executed : Executed host image debugger next) : Invariant host image start next := by
  have noFault := invariant.sound _ _ running
  have here := invariant.transparent
  rw [Transparent, position_of_going noFault (by simp [running])] at here
  have turned := after_succ here
  constructor
  · rw [Transparent, executed.counted, turned, executed.position]
  · rw [executed.resume, invariant.resume]
  · intro nextFault going
    have goes := executed.position
    rw [position_of_going nextFault going] at goes
    exact ip_lt_of_goesOn goes.symm
  · exact executed.sound
  · intro _ _ _
    rw [quietPlace, executed.previous, Option.getD_some, onBreakpoint, executed.breakpoints]
    exact quiet

/-- A turn executes an instruction, or stops on a breakpoint. -/
theorem runBasicTurn_cases (invariant : Invariant host image start debugger)
    (running : debugger.phase = .running stopAtNextBasicLine initialLine) :
    (onBreakpoint image debugger debugger.machine.ip = false ∧
      Executed host image debugger (runBasicTurn host caught formatInstructionLine image
        stopAtNextBasicLine initialLine debugger)) ∨
    (onBreakpoint image debugger debugger.machine.ip = true ∧
      ∃ messages, runBasicTurn host caught formatInstructionLine image stopAtNextBasicLine
        initialLine debugger = { debugger with phase := .prompt, messages }) := by
  have noFault := invariant.sound _ _ running
  have inside := invariant.inside noFault (by simp [running])
  unfold runBasicTurn
  simp only [invariant.resume, if_pos inside, reduceCtorEq, decide_false, Bool.and_false,
    Bool.false_eq_true, if_false]
  cases stops : onBreakpoint image debugger debugger.machine.ip with
  | false => exact .inl ⟨rfl, executeOne_executed running noFault⟩
  | true => exact .inr ⟨rfl, _, rfl⟩

/-- A turn of the loop keeps the invariant. -/
theorem Invariant.turn (invariant : Invariant host image start debugger)
    (turned : act host caught formatInstructionLine image debugger .turn = some next) :
    Invariant host image start next := by
  unfold act at turned
  cases phase : debugger.phase with
  | prompt => simp [phase] at turned
  | ended => simp [phase] at turned
  | running stop line =>
      simp only [phase, Option.some.injEq] at turned
      subst turned
      rcases @runBasicTurn_cases _ _ _ host caught formatInstructionLine _ _ _ _ _ invariant phase with
        ⟨quiet, executed⟩ | ⟨-, messages, stopped⟩
      · exact invariant.executed phase quiet executed
      · rw [stopped]
        have noFault := invariant.sound _ _ phase
        have here := invariant.transparent
        rw [Transparent, position_of_going noFault (by simp [phase])] at here
        exact
          { transparent := by simpa [Transparent, position, noFault] using here
            resume := invariant.resume
            inside := fun _ _ => invariant.inside noFault (by simp [phase])
            sound := nofun
            quiet := nofun }

/-- A command is given at the prompt, before the end of the program. -/
theorem act_command {command : DebuggerAction} (isCommand : command ≠ .turn)
    (done : act host caught formatInstructionLine image debugger command = some next) :
    debugger.phase = .prompt ∧ next = handleBasicDebuggerCommand image debugger command := by
  unfold act at done
  split at done
  · exact absurd rfl isCommand
  · cases done
  · next phase _ =>
      split at done
      · exact ⟨phase, (Option.some.inj done).symm⟩
      · cases done
  · cases done

/-- The invariant at the prompt is about the run alone. -/
theorem Invariant.atPrompt (invariant : Invariant host image start debugger)
    (prompt : debugger.phase = .prompt) (stays : next.phase = .prompt)
    (machine : next.machine = debugger.machine) (fault : next.fault = debugger.fault)
    (executed : next.executed = debugger.executed)
    (resume : next.basicResumePastLine = debugger.basicResumePastLine) :
    Invariant host image start next where
  transparent := by
    have here := invariant.transparent
    unfold Transparent position at here ⊢
    rwa [executed, fault, stays, machine, ← prompt]
  resume := by rw [resume, invariant.resume]
  inside := by
    intro noFault _
    rw [machine]
    exact invariant.inside (fault ▸ noFault) (by simp [prompt])
  sound := by simp [stays]
  quiet := by simp [stays]

/-- So does the start of a loop on a line without a breakpoint. -/
theorem Invariant.startCommand (invariant : Invariant host image start debugger)
    (prompt : debugger.phase = .prompt) (noFault : debugger.fault = none)
    (quiet : onBreakpoint image debugger debugger.machine.ip = false) (stop : Bool) :
    Invariant host image start (startCommand image stop debugger) where
  transparent := by
    have here := invariant.transparent
    rw [Transparent, position_of_going noFault (by simp [prompt])] at here
    simpa [Transparent, position, noFault, BasicDebugger.startCommand] using here
  resume := invariant.resume
  inside := fun _ _ => invariant.inside noFault (by simp [prompt])
  sound := fun _ _ _ => noFault
  quiet := fun _ _ _ => quiet

/-- An admitted command keeps the invariant. -/
theorem Invariant.command {command : DebuggerAction} (isCommand : command ≠ .turn)
    (invariant : Invariant host image start debugger)
    (admitted : Admitted image debugger command)
    (done : act host caught formatInstructionLine image debugger command = some next) :
    Invariant host image start next := by
  obtain ⟨prompt, rfl⟩ := act_command isCommand done
  cases command with
  | cont => exact invariant.startCommand prompt admitted.2 admitted.1 false
  | step => exact invariant.startCommand prompt admitted.2 admitted.1 true
  | breakpoint line =>
      simp only [handleBasicDebuggerCommand]
      split <;> exact invariant.atPrompt prompt prompt rfl rfl rfl rfl
  | clearBreakpoint line =>
      simp only [handleBasicDebuggerCommand]
      split <;> exact invariant.atPrompt prompt prompt rfl rfl rfl rfl
  | clearBreakpoints => exact invariant.atPrompt prompt prompt rfl rfl rfl rfl
  | trace on => exact invariant.atPrompt prompt prompt rfl rfl rfl rfl
  | goTo => exact admitted.elim
  | quit => exact admitted.elim
  | turn => exact absurd rfl isCommand

/-- An admitted action keeps the invariant. -/
theorem Invariant.act {action : DebuggerAction} (invariant : Invariant host image start debugger)
    (admitted : Admitted image debugger action)
    (done : act host caught formatInstructionLine image debugger action = some next) :
    Invariant host image start next := by
  by_cases isTurn : action = .turn
  · subst isTurn
    exact invariant.turn done
  · exact invariant.command isTurn admitted done

/-! ## What each action does -/

/-- `CONT` and `STEP` start the loop. -/
theorem act_startCommand {command : DebuggerAction}
    (runs : command = .cont ∨ command = .step) (prompt : debugger.phase = .prompt)
    (inside : debugger.machine.ip < image.program.length) :
    ∃ stop, BasicDebugger.act host caught formatInstructionLine image debugger command =
      some (BasicDebugger.startCommand image stop debugger) := by
  rcases runs with rfl | rfl
  · exact ⟨false, by simp [BasicDebugger.act, prompt, inside, handleBasicDebuggerCommand]⟩
  · exact ⟨true, by simp [BasicDebugger.act, prompt, inside, handleBasicDebuggerCommand]⟩

/-- A command that is given where no breakpoint is executes an instruction. -/
theorem Invariant.progresses {command : DebuggerAction}
    (invariant : Invariant host image start debugger) (runs : command = .cont ∨ command = .step)
    (prompt : debugger.phase = .prompt) (inside : debugger.machine.ip < image.program.length)
    (noFault : debugger.fault = none)
    (quiet : onBreakpoint image debugger debugger.machine.ip = false) :
    Progresses host caught formatInstructionLine image debugger command := by
  obtain ⟨stop, first⟩ :=
    act_startCommand runs prompt inside
  have started := invariant.startCommand prompt noFault quiet stop
  refine ⟨_, _, first, rfl, ?_⟩
  rcases @runBasicTurn_cases _ _ _ host caught formatInstructionLine _ _ _ _ _ started rfl with
    ⟨-, executed⟩ | ⟨stopped, -⟩
  · exact executed.counted
  · exact absurd (stopped.symm.trans quiet) (by simp)

/-- A turn stops for a breakpoint only where the run has come from another line. -/
theorem Invariant.stops (invariant : Invariant host image start debugger)
    (turned : BasicDebugger.act host caught formatInstructionLine image debugger .turn = some next)
    (nothing : next.executed = debugger.executed) :
    ∃ previous, debugger.previous = some previous ∧
      lineAt image previous ≠ lineAt image debugger.machine.ip := by
  unfold BasicDebugger.act at turned
  cases phase : debugger.phase with
  | prompt => simp [phase] at turned
  | ended => simp [phase] at turned
  | running stop line =>
      simp only [phase, Option.some.injEq] at turned
      subst turned
      have quiet := invariant.quiet _ _ phase
      rcases @runBasicTurn_cases _ _ _ host caught formatInstructionLine _ _ _ _ _ invariant phase with
        ⟨-, executed⟩ | ⟨stops, -⟩
      · have counted := executed.counted
        omega
      · cases before : debugger.previous with
        | none =>
            rw [quietPlace, before, Option.getD_none, stops] at quiet
            cases quiet
        | some previous =>
            refine ⟨previous, rfl, fun same => ?_⟩
            rw [quietPlace, before, Option.getD_some, onBreakpoint, same, ← onBreakpoint, stops]
              at quiet
            cases quiet

/-- An admitted action does what it is to do. -/
theorem Invariant.behaves {action : DebuggerAction}
    (invariant : Invariant host image start debugger) (admitted : Admitted image debugger action) :
    Behaves host caught formatInstructionLine image debugger action := by
  cases action with
  | cont =>
      exact fun prompt inside =>
        invariant.progresses (.inl rfl) prompt inside admitted.2 admitted.1
  | step =>
      exact fun prompt inside =>
        invariant.progresses (.inr rfl) prompt inside admitted.2 admitted.1
  | turn =>
      intro next turned
      refine ⟨fun nothing _ => ?_, fun programName chains => ?_⟩
      rotate_left
      · rw [show chainTarget image debugger.machine = none from admitted] at chains
        cases chains
      obtain ⟨previous, known, other⟩ := invariant.stops turned nothing
      exact ⟨previous, known, .inl other⟩
  | breakpoint => trivial
  | clearBreakpoint => trivial
  | clearBreakpoints => trivial
  | trace => trivial
  | goTo => trivial
  | quit => trivial

/-- After a break at an instruction of the program, every sequence of commands and turns whose
actions are all admitted executes the uninterrupted run, and each of its actions behaves. -/
theorem basicDebugger_transparent (host : Host Double World) (caught : String → Bool)
    (formatInstructionLine : Nat → Instruction Double → String) (image : CompiledProgram Double)
    (start : Machine Double World) (inside : start.ip < image.program.length)
    (actions : List DebuggerAction)
    (admitted : EachStep (BasicDebugger.act host caught formatInstructionLine image)
      (Admitted image) { machine := start } actions) :
    Always (BasicDebugger.act host caught formatInstructionLine image)
        (Transparent host image start) { machine := start } actions ∧
      EachStep (BasicDebugger.act host caught formatInstructionLine image)
        (Behaves host caught formatInstructionLine image) { machine := start } actions := by
  have broken : Invariant host image start { machine := start } :=
    { transparent := rfl
      resume := rfl
      inside := fun _ _ => inside
      sound := nofun
      quiet := nofun }
  constructor
  · refine (always_of_invariant ?_ broken admitted).mono fun _ invariant => invariant.transparent
    exact fun invariant admits done => invariant.act admits done
  · refine eachStep_of_invariant (fun invariant admits done => ?_)
      (fun invariant admits => ?_) broken admitted
    · exact invariant.act admits done
    · exact invariant.behaves admits

end Proof

/-! ## Two lines -/

/-- Whether an action is admitted can be computed. -/
instance decidableAdmitted [Doubles Double] (image : CompiledProgram Double)
    (debugger : BasicDebugger Double World) :
    (action : DebuggerAction) → Decidable (Admitted image debugger action)
  | .cont | .step => inferInstanceAs (Decidable (_ ∧ _))
  | .goTo _ | .quit => inferInstanceAs (Decidable False)
  | .turn => inferInstanceAs (Decidable (_ = none))
  | .breakpoint _ | .clearBreakpoint _ | .clearBreakpoints | .trace _ =>
      inferInstanceAs (Decidable True)

/-- `10 PRINT "A"` and `20 PRINT "B"`. -/
def twoLines : CompiledProgram Int where
  program := [{ op := .pushStr, operand := .string "A" }, { op := .printStr },
    { op := .pushStr, operand := .string "B" }, { op := .printStr }, { op := .halt }]
  sourceLinePerInstr := [10, 10, 20, 20, 20]

/-- The debugger on these two lines. -/
def actTwoLines : BasicDebugger Int Unit → DebuggerAction → Option (BasicDebugger Int Unit) :=
  act {} (fun _ => true) (fun _ _ => "") twoLines

/-- A step to the next line and a breakpoint there that is taken away again. -/
theorem twoLines_transparent :
    Always actTwoLines (Transparent {} twoLines (loadProgram [] ())) { machine := loadProgram [] () }
      [.breakpoint 20, .cont, .turn, .turn, .turn, .clearBreakpoint 20, .step, .turn, .turn, .turn] :=
  (basicDebugger_transparent {} (fun _ => true) (fun _ _ => "") twoLines (loadProgram [] ())
    (by decide) _ (by decide)).1

/-- `10 CHAIN "NEXT"`. -/
def chaining : CompiledProgram Int where
  program := [{ op := .pushStr, operand := .string "NEXT" }, { op := .chain }]
  sourceLinePerInstr := [10, 10]

/-- `CONT` on a breakpoint line executes nothing, and a `CHAIN` leaves the shell with its
exception, where without the debugger it goes on with the next program. -/
theorem breakpoint_line_holds :
    ((run actTwoLines { machine := loadProgram [] () } [.breakpoint 10, .cont, .turn]).map
      fun debugger => (debugger.executed, debugger.phase, debugger.machine.ip)) =
        some (0, .prompt, 0) ∧
    ((run (act ({} : Host Int Unit) (fun _ => true) (fun _ _ => "") chaining)
      { machine := loadProgram [] () } [.cont, .turn, .turn]).map
        fun debugger => (debugger.executed, debugger.phase)) =
          some (2, .ended (.escapes (.chainRequest "NEXT"))) ∧
    endingOfRun (fun _ => true) (some (.chainRequest "NEXT")) = .transfers "NEXT" := by
  decide

end BasicDebugger

end Gemini.PickShell
