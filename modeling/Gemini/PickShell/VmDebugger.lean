import Mathlib.Data.Finset.Sort
import Gemini.PickShell.BasicDebugger
import Gemini.VM.InputFrame

/-!
# The VM debugger

`RUN name`, `CONT` and `STEP` of the assembler shell. `RUN` and `CONT` run the loop of
`executeVmLoop`, with the session's input stream and system variables; `STEP` executes one
instruction through `stepVm`, which sets neither: an `INPUT` instruction then reads standard
input, and a system variable is not there. `STEP` also takes back the suspension, so that
`CONT` after it has nothing to resume.

As for the BASIC debugger, the actions are the commands and the turns of the loop.
-/

namespace Gemini.PickShell

open Gemini.Semantics Gemini.VM

variable {Double World : Type}

/-- The branch of `cmdRun` that has started the loop. -/
inductive Caller where
  | run
  | resume
deriving DecidableEq

/-- The debugger's part of a session. `console` is standard input, where the session has a
stream of its own. `start`, `executed`, `sinceCommand` and `fault` are for the statements: the
machine as the program was loaded, the numbers of instructions executed since then and since
the command, and what the last one has thrown. -/
structure VmDebugger (Double World : Type) where
  machine : Machine Double World
  lastLoaded : Option (List (Instruction Double)) := none
  running : Option Caller := none
  escaped : Bool := false
  suspended : Bool := false
  resumePastBreakpointIp : Option Nat := none
  breakpoints : Finset Nat := ∅
  trace : Bool := false
  console : Option (List String) := none
  messages : List String := []
  start : Machine Double World
  executed : Nat := 0
  sinceCommand : Nat := 0
  fault : Option Fault := none

/-- The commands of the assembler shell and the turns of the loop. `RUN` comes with the program
that is loaded for the name, or with the error that is printed where there is none. -/
inductive VmAction (Double : Type) where
  | run (image : Except String (List (Instruction Double)))
  | cont
  | step
  | breakpoint (index : Nat)
  | clearBreakpoint (index : Nat)
  | clearBreakpoints
  | trace (on : Bool)
  | end_
  | turn

namespace VmDebugger

section Model

variable [Doubles Double] (host : Host Double World) (caught : String → Bool)
  (formatInstructionLine : Nat → Instruction Double → String)

/-- A program with instructions is loaded. -/
def programImageLoaded (debugger : VmDebugger Double World) : Bool :=
  debugger.lastLoaded.any fun program => !program.isEmpty

/-- Print a message. -/
def say (message : String) (debugger : VmDebugger Double World) : VmDebugger Double World :=
  { debugger with messages := debugger.messages ++ [message] }

/-- `pruneBreakpointsForProgram`; the message names the breakpoints in ascending order. -/
def pruneBreakpointsForProgram (programSize : Nat) (debugger : VmDebugger Double World) :
    VmDebugger Double World :=
  let removed := debugger.breakpoints.filter (programSize ≤ ·)
  let kept := { debugger with breakpoints := debugger.breakpoints.filter (· < programSize) }
  if removed = ∅ then kept
  else
    say ("Removed invalid breakpoint(s):" ++
      String.join (removed.sort.map fun index => " " ++ toString index) ++ "\n") kept

/-- `RUN name` up to the loop. -/
def cmdRunName (image : Except String (List (Instruction Double)))
    (debugger : VmDebugger Double World) : VmDebugger Double World :=
  match image with
  | .error what => say ("Error: " ++ what ++ "\n") debugger
  | .ok program =>
      let environment := debugger.machine.memory.environment
      let machine := loadProgram environment.input environment.world
      { pruneBreakpointsForProgram program.length debugger with
        lastLoaded := some program
        machine
        suspended := false
        resumePastBreakpointIp := none
        running := some .run
        start := machine
        executed := 0
        sinceCommand := 0
        fault := none }

/-- `CONT` and a bare `RUN`, up to the loop. -/
def cmdRunResume (debugger : VmDebugger Double World) : VmDebugger Double World :=
  if !debugger.suspended then say "RUN requires a filename\n" debugger
  else if !programImageLoaded debugger then
    say "RUN requires a filename\n" { debugger with suspended := false }
  else
    { debugger with
      resumePastBreakpointIp := some debugger.machine.ip
      running := some .resume
      sinceCommand := 0 }

/-- An instruction in the loop of `executeVmLoop`. `RUN name` catches what is a
`std::exception`, a resumed run catches nothing. -/
def loopInstruction (program : List (Instruction Double)) (caller : Caller)
    (debugger : VmDebugger Double World) : VmDebugger Double World :=
  let traced := { debugger with
    messages := debugger.messages ++
      if debugger.trace then
        (program[debugger.machine.ip]?.map (formatInstructionLine debugger.machine.ip)).toList
      else []
    executed := debugger.executed + 1
    sinceCommand := debugger.sinceCommand + 1 }
  match Program.exec (VM.step host program) debugger.machine with
  | (.ok true, machine) => { traced with machine }
  | (.ok false, machine) => { traced with machine, suspended := false, running := none }
  | (.error fault, machine) =>
      let failed := { traced with machine, running := none, fault := some fault }
      match caller, fault.what with
      | .run, some what => say ("Error: " ++ what ++ "\n") failed
      | _, _ => { failed with escaped := true }

/-- A turn of `executeVmLoop`. -/
def executeVmTurn (program : List (Instruction Double)) (caller : Caller)
    (debugger : VmDebugger Double World) : VmDebugger Double World :=
  let ip := debugger.machine.ip
  if ip < program.length then
    let skipBpOnce := debugger.resumePastBreakpointIp = some ip
    let passed := if skipBpOnce then { debugger with resumePastBreakpointIp := none } else debugger
    if !skipBpOnce && ip ∈ debugger.breakpoints then
      say ("Breakpoint hit at " ++ toString ip ++ "\n")
        { passed with suspended := true, running := none }
    else loopInstruction host formatInstructionLine program caller passed
  else { debugger with running := none }

/-- The machine of `stepVm`: with standard input, where that is another stream. -/
def steppedMachine (debugger : VmDebugger Double World) : Machine Double World :=
  match debugger.console with
  | none => debugger.machine
  | some lines => HasInput.withInput lines debugger.machine

/-- What `stepVm` leaves: the session's stream is as it was, if standard input is another. -/
def afterStep (after : Machine Double World) (debugger : VmDebugger Double World) :
    VmDebugger Double World :=
  match debugger.console with
  | none => { debugger with machine := after }
  | some _ =>
      { debugger with
        machine := HasInput.withInput debugger.machine.memory.environment.input after
        console := some after.memory.environment.input }

/-- The instruction that `stepVm` executes, and what `STEP` prints for its outcome. -/
def stepInstruction (program : List (Instruction Double)) (debugger : VmDebugger Double World) :
    VmDebugger Double World :=
  let counted := { debugger with executed := debugger.executed + 1 }
  match Program.exec (VM.step (withoutReader host) program) (steppedMachine debugger) with
  | (.ok true, after) => afterStep after counted
  | (.ok false, after) => say "Program finished\n" (afterStep after counted)
  | (.error fault, after) =>
      let failed := afterStep after { counted with fault := some fault }
      if isRuntimeError caught fault then
        say ("Runtime error: " ++ fault.what.getD "" ++ "\n") failed
      else { failed with escaped := true }

/-- The command `STEP` with `stepVm`. -/
def stepVm (debugger : VmDebugger Double World) : VmDebugger Double World :=
  match debugger.lastLoaded with
  | none => say "No program loaded\n" debugger
  | some program =>
      if program.isEmpty then say "No program loaded\n" debugger
      else
        match program[debugger.machine.ip]? with
        | none => say "Program finished\n" debugger
        | some instr =>
            stepInstruction host caught program
              (say (formatInstructionLine debugger.machine.ip instr ++ "\n")
                { debugger with suspended := false, resumePastBreakpointIp := none })

/-- `endProgramContext`. -/
def endProgramContext (debugger : VmDebugger Double World) : VmDebugger Double World :=
  if !programImageLoaded debugger then say "No program loaded\n" debugger
  else
    let environment := debugger.machine.memory.environment
    { debugger with
      lastLoaded := none
      suspended := false
      resumePastBreakpointIp := none
      machine := loadProgram environment.input environment.world }

/-- A command of the assembler shell. -/
def handleCommand (debugger : VmDebugger Double World) : VmAction Double → VmDebugger Double World
  | .run image => cmdRunName image debugger
  | .cont => cmdRunResume debugger
  | .step => stepVm host caught formatInstructionLine debugger
  | .breakpoint index => { debugger with breakpoints := insert index debugger.breakpoints }
  | .clearBreakpoint index =>
      if index ∈ debugger.breakpoints then
        { debugger with breakpoints := debugger.breakpoints.erase index }
      else say "No such breakpoint\n" debugger
  | .clearBreakpoints => { debugger with breakpoints := ∅ }
  | .trace on => { debugger with trace := on }
  | .end_ => endProgramContext debugger
  | .turn => debugger

/-- An action of a session: commands at the prompt, turns in the loop. An exception that has
escaped ends the session. -/
def act (debugger : VmDebugger Double World) (action : VmAction Double) :
    Option (VmDebugger Double World) :=
  if debugger.escaped then none
  else
    match debugger.running, debugger.lastLoaded, action with
    | some caller, some program, .turn =>
        some (executeVmTurn host formatInstructionLine program caller debugger)
    | none, _, .turn => none
    | none, _, command => some (handleCommand host caught formatInstructionLine debugger command)
    | _, _, _ => none

end Model

/-! ## What the debugger is to keep to -/

section Statement

variable [Doubles Double] (host : Host Double World) (caught : String → Bool)
  (formatInstructionLine : Nat → Instruction Double → String)

/-- Where the run is that the debugger shows. -/
def position (program : List (Instruction Double)) (debugger : VmDebugger Double World) :
    Turn (Machine Double World) (Option Fault × Machine Double World) :=
  match debugger.fault with
  | some fault => .ends (some fault, debugger.machine)
  | none =>
      if debugger.executed = 0 ∨ debugger.machine.ip < program.length then
        .goesOn debugger.machine
      else .ends (none, debugger.machine)

/-- What has been executed since the program was loaded is what the uninterrupted run
executes. -/
def Transparent (debugger : VmDebugger Double World) : Prop :=
  ∀ program, debugger.lastLoaded = some program →
    after (instructionTurn host program) debugger.start debugger.executed =
      debugger.position program

/-- The program is stopped, and the uninterrupted run goes on from here. -/
def StoppedBeforeEnd (debugger : VmDebugger Double World) : Prop :=
  debugger.escaped = false ∧ debugger.running = none ∧ debugger.fault = none ∧
    ∃ program, debugger.lastLoaded = some program ∧ debugger.machine.ip < program.length

/-- What is to hold of each action: `CONT` executes an instruction, and a turn stops exactly on
a breakpoint that is not the one `CONT` resumes from. -/
def Behaves (debugger : VmDebugger Double World) : VmAction Double → Prop
  | .cont => StoppedBeforeEnd debugger →
      ∃ started stepped, act host caught formatInstructionLine debugger .cont = some started ∧
        act host caught formatInstructionLine started .turn = some stepped ∧
        stepped.executed = debugger.executed + 1
  | .turn => ∀ program next, debugger.lastLoaded = some program →
      debugger.machine.ip < program.length →
      act host caught formatInstructionLine debugger .turn = some next →
        (next.executed = debugger.executed ↔
          debugger.machine.ip ∈ debugger.breakpoints ∧
            ¬ (debugger.running = some .resume ∧ debugger.sinceCommand = 0))
  | _ => True

/-- The instruction that `STEP` executes depends neither on an input that is not the session's
nor on a system variable. -/
def StepsAlike (debugger : VmDebugger Double World) (instr : Instruction Double) : Prop :=
  (IgnoresInput.readsInput instr.op = true → debugger.console = none) ∧
    (systemVariableOf host debugger.machine.memory.environment.world instr).isSome = false

/-- The actions after which the debugger keeps to this. -/
def Admitted (debugger : VmDebugger Double World) : VmAction Double → Prop
  | .cont => StoppedBeforeEnd debugger → debugger.suspended = true
  | .step => ∀ program instr, debugger.lastLoaded = some program →
      program[debugger.machine.ip]? = some instr →
        debugger.fault = none ∧ StepsAlike host debugger instr
  | _ => True

end Statement

/-! ## The invariant -/

section Proof

variable [Doubles Double] {host : Host Double World} {caught : String → Bool}
  {formatInstructionLine : Nat → Instruction Double → String}
  {program : List (Instruction Double)} {caller : Caller}
  {debugger next : VmDebugger Double World}

variable (host) in
/-- What every admitted action keeps. -/
structure Invariant (debugger : VmDebugger Double World) : Prop where
  transparent : Transparent host debugger
  /-- A suspended program is on an instruction. -/
  suspends : debugger.suspended = true → debugger.escaped = false → debugger.running = none →
    StoppedBeforeEnd debugger
  /-- A program that is resumed is on an instruction; one that is run may have none. -/
  runs : ∀ caller, debugger.running = some caller → debugger.fault = none ∧
    ∃ program, debugger.lastLoaded = some program ∧
      (caller = .run ∨ debugger.machine.ip < program.length)
  fresh : debugger.running = some .run → debugger.suspended = false
  /-- The mark to resume past is for the first turn of `CONT`. -/
  marks : ∀ caller, debugger.running = some caller → debugger.resumePastBreakpointIp =
    if caller = .resume ∧ debugger.sinceCommand = 0 then some debugger.machine.ip else none

variable (host program) in
/-- What the execution of an instruction does to the run that the debugger shows. -/
structure Executed (debugger next : VmDebugger Double World) : Prop where
  counted : next.executed = debugger.executed + 1
  loaded : next.lastLoaded = debugger.lastLoaded
  start : next.start = debugger.start
  position : next.position program = instructionTurn host program debugger.machine

/-- The position after an instruction that the machine has executed. -/
theorem position_of_step {outcome : Except Fault Bool} {machine : Machine Double World}
    (inside : debugger.machine.ip < program.length)
    (stepped : Program.exec (step host program) debugger.machine = (outcome, machine))
    (isMachine : next.machine = machine) (counted : next.executed = debugger.executed + 1)
    (thrown : next.fault = match outcome with | .ok _ => none | .error fault => some fault) :
    next.position program = instructionTurn host program debugger.machine := by
  unfold position instructionTurn
  rw [stepped, thrown, isMachine, counted]
  cases outcome with
  | error fault => rfl
  | ok more =>
      cases more with
      | true => simp [ip_lt_of_step stepped]
      | false =>
          have outside := le_ip_of_step inside stepped
          simp [Nat.not_lt.mpr outside]

/-- The loop counts its instructions. -/
theorem executed_loopInstruction (debugger : VmDebugger Double World) :
    (loopInstruction host formatInstructionLine program caller debugger).executed =
      debugger.executed + 1 := by
  unfold loopInstruction
  rcases Program.exec (step host program) debugger.machine with ⟨fault | more, machine⟩
  · dsimp only
    split <;> rfl
  · cases more <;> rfl

/-- The loop executes one instruction. -/
theorem loopInstruction_executed (noFault : debugger.fault = none)
    (inside : debugger.machine.ip < program.length) :
    Executed host program debugger
      (loopInstruction host formatInstructionLine program caller debugger) := by
  rcases stepped : Program.exec (step host program) debugger.machine with ⟨outcome, machine⟩
  unfold loopInstruction
  rw [stepped]
  cases outcome with
  | ok more =>
      cases more with
      | true => exact ⟨rfl, rfl, rfl, position_of_step inside stepped rfl rfl noFault⟩
      | false => exact ⟨rfl, rfl, rfl, position_of_step inside stepped rfl rfl noFault⟩
  | error fault =>
      dsimp only
      split
      · exact ⟨rfl, rfl, rfl, position_of_step inside stepped rfl rfl rfl⟩
      · exact ⟨rfl, rfl, rfl, position_of_step inside stepped rfl rfl rfl⟩

/-- An instruction that the debugger executes is the next one of the uninterrupted run. -/
theorem Transparent.executed (transparent : Transparent host debugger)
    (isLoaded : debugger.lastLoaded = some program) (noFault : debugger.fault = none)
    (inside : debugger.machine.ip < program.length)
    (executed : Executed host program debugger next) : Transparent host next := by
  intro other loadedNext
  rw [executed.loaded, isLoaded] at loadedNext
  cases loadedNext
  have here := transparent program isLoaded
  have going : debugger.position program = .goesOn debugger.machine := by
    simp [position, noFault, inside]
  rw [going] at here
  rw [executed.counted, executed.start, executed.position]
  exact after_succ here

/-- The loop goes on after an instruction, or ends without a suspended program. -/
theorem loopInstruction_status (running : debugger.running = some caller)
    (noFault : debugger.fault = none) (fresh : caller = .run → debugger.suspended = false)
    (isNext : loopInstruction host formatInstructionLine program caller debugger = next) :
    (next.running = debugger.running ∧ next.suspended = debugger.suspended ∧ next.fault = none ∧
      next.machine.ip < program.length ∧ next.sinceCommand = debugger.sinceCommand + 1 ∧
      next.resumePastBreakpointIp = debugger.resumePastBreakpointIp) ∨
    (next.running = none ∧ (next.suspended = true → next.escaped = true)) := by
  rcases stepped : Program.exec (step host program) debugger.machine with ⟨outcome, machine⟩
  unfold loopInstruction at isNext
  rw [stepped] at isNext
  cases outcome with
  | ok more =>
      cases more with
      | true =>
          subst isNext
          exact .inl ⟨rfl, rfl, noFault, ip_lt_of_step stepped, rfl, rfl⟩
      | false =>
          subst isNext
          exact .inr ⟨rfl, nofun⟩
  | error fault =>
      dsimp only at isNext
      split at isNext
      · subst isNext
        refine .inr ⟨rfl, fun suspended => ?_⟩
        rw [say, fresh rfl] at suspended
        cases suspended
      · subst isNext
        exact .inr ⟨rfl, fun _ => rfl⟩

/-- The invariant holds after an instruction in the loop, once the mark is taken away. -/
theorem invariant_loopInstruction (transparent : Transparent host debugger)
    (running : debugger.running = some caller) (isLoaded : debugger.lastLoaded = some program)
    (inside : debugger.machine.ip < program.length) (noFault : debugger.fault = none)
    (fresh : caller = .run → debugger.suspended = false)
    (unmarked : debugger.resumePastBreakpointIp = none) :
    Invariant host (loopInstruction host formatInstructionLine program caller debugger) := by
  have executed := @loopInstruction_executed _ _ _ host formatInstructionLine program caller _
    noFault inside
  have transparentNext := transparent.executed isLoaded noFault inside executed
  have loadedNext := executed.loaded.trans isLoaded
  obtain ⟨next, isNext⟩ : ∃ next,
    loopInstruction host formatInstructionLine program caller debugger = next := ⟨_, rfl⟩
  rw [isNext] at transparentNext loadedNext ⊢
  rcases loopInstruction_status running noFault fresh isNext with
    ⟨goesOn, suspension, sound, within, since, mark⟩ | ⟨stopped, escapes⟩
  · exact
      { transparent := transparentNext
        suspends := fun _ _ idle => by simp [goesOn, running] at idle
        runs := fun _ _ => ⟨sound, program, loadedNext, .inr within⟩
        fresh := by
          rw [goesOn, running, suspension]
          exact fun run => fresh (Option.some.inj run)
        marks := fun _ _ => by simp [mark, unmarked, since] }
  · exact
      { transparent := transparentNext
        suspends := fun suspended sound => by simp [escapes suspended] at sound
        runs := fun _ run => by simp [stopped] at run
        fresh := fun run => by simp [stopped] at run
        marks := fun _ run => by simp [stopped] at run }

/-! ## Turns of the loop -/

/-- A turn stops on a breakpoint that is not the one to resume from, or executes an
instruction. -/
theorem Invariant.turn_cases (invariant : Invariant host debugger)
    (running : debugger.running = some caller) (inside : debugger.machine.ip < program.length) :
    (debugger.machine.ip ∈ debugger.breakpoints ∧
      ¬ (caller = .resume ∧ debugger.sinceCommand = 0) ∧
      ∃ messages, executeVmTurn host formatInstructionLine program caller debugger =
        { debugger with suspended := true, running := none, messages }) ∨
    (¬ (debugger.machine.ip ∈ debugger.breakpoints ∧
        ¬ (caller = .resume ∧ debugger.sinceCommand = 0)) ∧
      executeVmTurn host formatInstructionLine program caller debugger =
        loopInstruction host formatInstructionLine program caller
          { debugger with resumePastBreakpointIp := none }) := by
  have mark := invariant.marks caller running
  unfold executeVmTurn
  simp only [if_pos inside]
  by_cases first : caller = .resume ∧ debugger.sinceCommand = 0
  · rw [if_pos first] at mark
    refine .inr ⟨by simp [first], ?_⟩
    simp [mark]
  · rw [if_neg first] at mark
    have unmarked : { debugger with resumePastBreakpointIp := none } = debugger := by
      rw [← mark]
    by_cases stops : debugger.machine.ip ∈ debugger.breakpoints
    · refine .inl ⟨stops, first,
        debugger.messages ++ ["Breakpoint hit at " ++ toString debugger.machine.ip ++ "\n"], ?_⟩
      simp [mark, stops, say]
    · refine .inr ⟨by simp [stops], ?_⟩
      simp [mark, stops, unmarked]

/-- A turn of a program that is running. -/
theorem act_turn {caller : Caller} (sound : debugger.escaped = false)
    (running : debugger.running = some caller) (isLoaded : debugger.lastLoaded = some program) :
    act host caught formatInstructionLine debugger .turn =
      some (executeVmTurn host formatInstructionLine program caller debugger) := by
  simp [act, sound, running, isLoaded]

/-- A turn is taken in the loop of a program that is loaded. -/
theorem act_turn_eq_some (invariant : Invariant host debugger)
    (turned : act host caught formatInstructionLine debugger .turn = some next) :
    debugger.escaped = false ∧ ∃ caller program, debugger.running = some caller ∧
      debugger.lastLoaded = some program ∧
      next = executeVmTurn host formatInstructionLine program caller debugger := by
  cases sound : debugger.escaped with
  | true => simp [act, sound] at turned
  | false =>
      cases running : debugger.running with
      | none => simp [act, sound, running] at turned
      | some caller =>
          obtain ⟨-, program, isLoaded, -⟩ := invariant.runs caller running
          rw [act_turn sound running isLoaded] at turned
          exact ⟨rfl, caller, program, rfl, isLoaded, (Option.some.inj turned).symm⟩

/-- A turn keeps the invariant. -/
theorem Invariant.turn (invariant : Invariant host debugger)
    (turned : act host caught formatInstructionLine debugger .turn = some next) :
    Invariant host next := by
  obtain ⟨sound, caller, program, running, isLoaded, rfl⟩ := act_turn_eq_some invariant turned
  obtain ⟨noFault, -⟩ := invariant.runs caller running
  have fresh : caller = .run → debugger.suspended = false := by
    rintro rfl
    exact invariant.fresh running
  by_cases inside : debugger.machine.ip < program.length
  · rcases @Invariant.turn_cases _ _ _ host formatInstructionLine _ _ _ invariant running inside
      with ⟨-, -, messages, stopped⟩ | ⟨-, executes⟩
    · rw [stopped]
      exact
        { transparent := invariant.transparent
          suspends := fun _ _ _ => ⟨sound, rfl, noFault, program, isLoaded, inside⟩
          runs := fun _ run => by simp at run
          fresh := fun run => by simp at run
          marks := fun _ run => by simp at run }
    · rw [executes]
      exact invariant_loopInstruction invariant.transparent running isLoaded inside noFault fresh rfl
  · obtain ⟨-, known, loadedToo, starts⟩ := invariant.runs caller running
    obtain rfl := Option.some.inj (isLoaded.symm.trans loadedToo)
    have notSuspended := fresh (starts.resolve_right inside)
    unfold executeVmTurn
    simp only [if_neg inside]
    exact
      { transparent := invariant.transparent
        suspends := fun suspended => by simp [notSuspended] at suspended
        runs := fun _ run => by simp at run
        fresh := fun run => by simp at run
        marks := fun _ run => by simp at run }

/-! ## Commands -/

/-- The invariant at the prompt is about the run alone. -/
theorem Invariant.atPrompt (invariant : Invariant host debugger) (idle : debugger.running = none)
    (stays : next.running = none) (machine : next.machine = debugger.machine)
    (loaded : next.lastLoaded = debugger.lastLoaded) (start : next.start = debugger.start)
    (executed : next.executed = debugger.executed) (fault : next.fault = debugger.fault)
    (escaped : next.escaped = debugger.escaped)
    (suspended : next.suspended = true → debugger.suspended = true) : Invariant host next where
  transparent := by
    intro program isLoaded
    have here := invariant.transparent program (loaded ▸ isLoaded)
    unfold position at here ⊢
    rwa [start, executed, fault, machine]
  suspends := by
    intro isSuspended sound _
    have stopped := invariant.suspends (suspended isSuspended) (escaped ▸ sound) idle
    obtain ⟨wasSound, -, noFault, program, isLoaded, inside⟩ := stopped
    exact ⟨sound, stays, fault.trans noFault, program, loaded.trans isLoaded, machine ▸ inside⟩
  runs := fun _ run => by simp [stays] at run
  fresh := fun run => by simp [stays] at run
  marks := fun _ run => by simp [stays] at run

/-- So does `RUN` with the name of a program. -/
theorem Invariant.cmdRunName (invariant : Invariant host debugger) (idle : debugger.running = none)
    (image : Except String (List (Instruction Double))) :
    Invariant host (cmdRunName image debugger) := by
  cases image with
  | error what => exact invariant.atPrompt idle idle rfl rfl rfl rfl rfl rfl id
  | ok program =>
      exact
        { transparent := by
            intro other isLoaded
            simp [VmDebugger.cmdRunName] at isLoaded
            simp [VmDebugger.cmdRunName, position, after]
          suspends := fun suspended => by simp [VmDebugger.cmdRunName] at suspended
          runs := by
            intro caller run
            simp [VmDebugger.cmdRunName] at run
            exact ⟨rfl, program, rfl, .inl run.symm⟩
          fresh := fun _ => rfl
          marks := by
            intro caller run
            simp [VmDebugger.cmdRunName] at run
            simp [VmDebugger.cmdRunName, ← run] }

/-- So does `RUN` of a program that is suspended. -/
theorem Invariant.cmdRunResume (invariant : Invariant host debugger)
    (idle : debugger.running = none) (sound : debugger.escaped = false) :
    Invariant host (cmdRunResume debugger) := by
  unfold VmDebugger.cmdRunResume
  split
  · exact invariant.atPrompt idle idle rfl rfl rfl rfl rfl rfl id
  · next isSuspended =>
      split
      · exact invariant.atPrompt idle idle rfl rfl rfl rfl rfl rfl nofun
      · obtain ⟨-, -, noFault, program, isLoaded, inside⟩ :=
          invariant.suspends (by simpa using isSuspended) sound idle
        exact
          { transparent := invariant.transparent
            suspends := fun _ _ run => by simp at run
            runs := fun _ _ => ⟨noFault, program, isLoaded, .inr inside⟩
            fresh := fun run => by simp at run
            marks := fun caller run => by simp_all }

/-- A step through `stepVm` is the step of the uninterrupted run, if it is one that does not
depend on what `stepVm` leaves out. -/
theorem exec_stepVm {instr : Instruction Double}
    (found : program[debugger.machine.ip]? = some instr) (alike : StepsAlike host debugger instr) :
    ∃ after, Program.exec (step (withoutReader host) program) (steppedMachine debugger) =
        ((Program.exec (step host program) debugger.machine).1, after) ∧
      (afterStep after debugger).machine = (Program.exec (step host program) debugger.machine).2 := by
  obtain ⟨inputs, notSystem⟩ := alike
  have notSystem : systemVariableOf host debugger.machine.memory.environment.world instr = none := by
    simpa using notSystem
  unfold steppedMachine afterStep
  cases console : debugger.console with
  | none => exact ⟨_, exec_step_withoutReader found notSystem, rfl⟩
  | some lines =>
      have notInput : IgnoresInput.readsInput instr.op = false := by
        cases reads : IgnoresInput.readsInput instr.op with
        | false => rfl
        | true => simp [inputs reads] at console
      have stepped := @exec_step_withoutReader _ _ _ host program
        (HasInput.withInput lines debugger.machine) _ found notSystem
      have same := @exec_step_withInput _ _ _ host _ _ _ found notInput lines
      exact ⟨_, stepped.trans same, withInput_step found notInput⟩

omit [Doubles Double] in
/-- What a single step leaves of the debugger. -/
theorem afterStep_fields (after : Machine Double World) (debugger : VmDebugger Double World) :
    (afterStep after debugger).lastLoaded = debugger.lastLoaded ∧
      (afterStep after debugger).start = debugger.start ∧
      (afterStep after debugger).executed = debugger.executed ∧
      (afterStep after debugger).fault = debugger.fault ∧
      (afterStep after debugger).running = debugger.running ∧
      (afterStep after debugger).suspended = debugger.suspended := by
  unfold afterStep
  split <;> exact ⟨rfl, rfl, rfl, rfl, rfl, rfl⟩

omit [Doubles Double] in
/-- Where a single step leaves the machine depends on the machine and the console only. -/
theorem afterStep_machine (after : Machine Double World)
    (console : next.console = debugger.console) (machine : next.machine = debugger.machine) :
    (afterStep after next).machine = (afterStep after debugger).machine := by
  unfold afterStep
  rw [console]
  cases debugger.console with
  | none => rfl
  | some lines =>
      dsimp only
      rw [machine]

/-- A single step executes one instruction. -/
theorem stepInstruction_executed {instr : Instruction Double}
    (found : program[debugger.machine.ip]? = some instr) (noFault : debugger.fault = none)
    (alike : StepsAlike host debugger instr)
    (isNext : stepInstruction host caught program debugger = next) :
    Executed host program debugger next ∧ next.running = debugger.running ∧
      next.suspended = debugger.suspended := by
  obtain ⟨inside, -⟩ := List.getElem?_eq_some_iff.mp found
  obtain ⟨after, stepped, sameMachine⟩ := exec_stepVm found alike
  rcases really : Program.exec (step host program) debugger.machine with ⟨outcome, machine⟩
  rw [really] at stepped sameMachine
  unfold stepInstruction at isNext
  rw [stepped] at isNext
  cases outcome with
  | ok more =>
      obtain ⟨loaded, start, executed, fault, running, suspended⟩ :=
        afterStep_fields after { debugger with executed := debugger.executed + 1 }
      have isMachine := (@afterStep_machine _ _ debugger
        { debugger with executed := debugger.executed + 1 } after rfl rfl).trans sameMachine
      cases more with
      | true =>
          subst isNext
          exact ⟨⟨executed, loaded, start, position_of_step inside really isMachine executed
            (fault.trans noFault)⟩, running, suspended⟩
      | false =>
          subst isNext
          exact ⟨⟨executed, loaded, start, position_of_step inside really isMachine executed
            (fault.trans noFault)⟩, running, suspended⟩
  | error thrown =>
      obtain ⟨loaded, start, executed, fault, running, suspended⟩ :=
        afterStep_fields after
          { debugger with executed := debugger.executed + 1, fault := some thrown }
      have isMachine := (@afterStep_machine _ _ debugger
        { debugger with executed := debugger.executed + 1, fault := some thrown }
        after rfl rfl).trans sameMachine
      dsimp only at isNext
      split at isNext
      · subst isNext
        exact ⟨⟨executed, loaded, start, position_of_step inside really isMachine executed
          fault⟩, running, suspended⟩
      · subst isNext
        exact ⟨⟨executed, loaded, start, position_of_step inside really isMachine executed
          fault⟩, running, suspended⟩

/-- The invariant holds after an instruction at the prompt. -/
theorem invariant_of_executed (transparent : Transparent host debugger)
    (isLoaded : debugger.lastLoaded = some program) (inside : debugger.machine.ip < program.length)
    (noFault : debugger.fault = none) (executed : Executed host program debugger next)
    (idle : next.running = none) (notSuspended : next.suspended = false) :
    Invariant host next where
  transparent := transparent.executed isLoaded noFault inside executed
  suspends := fun suspended => by simp [notSuspended] at suspended
  runs := fun _ run => by simp [idle] at run
  fresh := fun run => by simp [idle] at run
  marks := fun _ run => by simp [idle] at run

/-- A single step establishes the invariant. -/
theorem invariant_stepInstruction {instr : Instruction Double}
    (transparent : Transparent host debugger) (isLoaded : debugger.lastLoaded = some program)
    (found : program[debugger.machine.ip]? = some instr) (noFault : debugger.fault = none)
    (alike : StepsAlike host debugger instr) (idle : debugger.running = none)
    (notSuspended : debugger.suspended = false) :
    Invariant host (stepInstruction host caught program debugger) := by
  obtain ⟨inside, -⟩ := List.getElem?_eq_some_iff.mp found
  obtain ⟨executed, running, suspended⟩ :=
    @stepInstruction_executed _ _ _ host caught _ _ _ _ found noFault alike rfl
  exact invariant_of_executed transparent isLoaded inside noFault executed (running.trans idle)
    (suspended.trans notSuspended)

/-- `STEP` keeps the invariant where it is admitted. -/
theorem Invariant.stepVm (invariant : Invariant host debugger) (idle : debugger.running = none)
    (admitted : Admitted host debugger .step) :
    Invariant host (stepVm host caught formatInstructionLine debugger) := by
  have prompt (message : String) : Invariant host (say message debugger) :=
    invariant.atPrompt idle idle rfl rfl rfl rfl rfl rfl id
  unfold VmDebugger.stepVm
  cases isLoaded : debugger.lastLoaded with
  | none => exact prompt _
  | some program =>
      dsimp only
      split
      · exact prompt _
      · cases found : program[debugger.machine.ip]? with
        | none => exact prompt _
        | some instr =>
            obtain ⟨noFault, alike⟩ := admitted program instr isLoaded found
            exact invariant_stepInstruction
              (fun other same => invariant.transparent other (isLoaded.trans same)) rfl found noFault
              alike idle rfl

/-- The end of the program context keeps it. -/
theorem Invariant.endProgramContext (invariant : Invariant host debugger)
    (idle : debugger.running = none) : Invariant host (endProgramContext debugger) := by
  unfold VmDebugger.endProgramContext
  split
  · exact invariant.atPrompt idle idle rfl rfl rfl rfl rfl rfl id
  · exact
      { transparent := nofun
        suspends := nofun
        runs := fun _ run => by simp [idle] at run
        fresh := fun run => by simp [idle] at run
        marks := fun _ run => by simp [idle] at run }

/-- A command is given at the prompt of a session that goes on. -/
theorem act_command {command : VmAction Double} (isCommand : command ≠ .turn)
    (done : act host caught formatInstructionLine debugger command = some next) :
    debugger.escaped = false ∧ debugger.running = none ∧
      next = handleCommand host caught formatInstructionLine debugger command := by
  unfold act at done
  split at done
  · cases done
  · next sound =>
      split at done
      · exact absurd rfl isCommand
      · cases done
      · next idle _ => exact ⟨by simpa using sound, idle, (Option.some.inj done).symm⟩
      · cases done

/-- Every admitted action keeps it. -/
theorem Invariant.act {action : VmAction Double} (invariant : Invariant host debugger)
    (admitted : Admitted host debugger action)
    (done : act host caught formatInstructionLine debugger action = some next) :
    Invariant host next := by
  by_cases isTurn : action = .turn
  · subst isTurn
    exact invariant.turn done
  · obtain ⟨sound, idle, rfl⟩ := act_command isTurn done
    cases action with
    | run image => exact invariant.cmdRunName idle image
    | cont => exact invariant.cmdRunResume idle sound
    | step => exact invariant.stepVm idle admitted
    | breakpoint index => exact invariant.atPrompt idle idle rfl rfl rfl rfl rfl rfl id
    | clearBreakpoint index =>
        simp only [handleCommand]
        split <;> exact invariant.atPrompt idle idle rfl rfl rfl rfl rfl rfl id
    | clearBreakpoints => exact invariant.atPrompt idle idle rfl rfl rfl rfl rfl rfl id
    | trace on => exact invariant.atPrompt idle idle rfl rfl rfl rfl rfl rfl id
    | end_ => exact invariant.endProgramContext idle
    | turn => exact absurd rfl isTurn

/-! ## What each action does -/

/-- `CONT` goes on from the breakpoint on which the program is suspended. -/
theorem Invariant.progresses (invariant : Invariant host debugger)
    (suspended : debugger.suspended = true) (stopped : StoppedBeforeEnd debugger) :
    ∃ started stepped,
      VmDebugger.act host caught formatInstructionLine debugger .cont = some started ∧
      VmDebugger.act host caught formatInstructionLine started .turn = some stepped ∧
      stepped.executed = debugger.executed + 1 := by
  obtain ⟨sound, idle, noFault, program, isLoaded, inside⟩ := stopped
  have notEmpty : programImageLoaded debugger = true := by
    cases program with
    | nil => simp at inside
    | cons => simp [programImageLoaded, isLoaded]
  have first : VmDebugger.act host caught formatInstructionLine debugger .cont =
      some (VmDebugger.cmdRunResume debugger) := by
    simp [VmDebugger.act, sound, idle, handleCommand]
  have resumed : VmDebugger.cmdRunResume debugger =
      { debugger with
        resumePastBreakpointIp := some debugger.machine.ip
        running := some .resume
        sinceCommand := 0 } := by
    simp [VmDebugger.cmdRunResume, suspended, notEmpty]
  have started := invariant.cmdRunResume idle sound
  rw [resumed] at first started
  refine ⟨_, _, first, act_turn sound rfl isLoaded, ?_⟩
  rcases @Invariant.turn_cases _ _ _ host formatInstructionLine _ _ _ started rfl inside with
    ⟨-, notFirst, -⟩ | ⟨-, executes⟩
  · exact absurd ⟨rfl, rfl⟩ notFirst
  · rw [executes, executed_loopInstruction]

/-- An admitted action does what it is to do. -/
theorem Invariant.behaves {action : VmAction Double} (invariant : Invariant host debugger)
    (admitted : Admitted host debugger action) :
    Behaves host caught formatInstructionLine debugger action := by
  cases action with
  | cont => exact fun stopped => invariant.progresses (admitted stopped) stopped
  | turn =>
      intro program next isLoaded inside turned
      obtain ⟨-, caller, other, running, loadedToo, rfl⟩ := act_turn_eq_some invariant turned
      obtain rfl := Option.some.inj (isLoaded.symm.trans loadedToo)
      rw [running, Option.some.injEq]
      rcases @Invariant.turn_cases _ _ _ host formatInstructionLine _ _ _ invariant running inside
        with ⟨stops, notFirst, messages, stopped⟩ | ⟨goes, executes⟩
      · rw [stopped]
        exact iff_of_true rfl ⟨stops, notFirst⟩
      · rw [executes, executed_loopInstruction]
        exact iff_of_false (by simp) goes
  | run => trivial
  | step => trivial
  | breakpoint => trivial
  | clearBreakpoint => trivial
  | clearBreakpoints => trivial
  | trace => trivial
  | end_ => trivial

/-- From a session without a program, every sequence of commands and turns whose actions are
all admitted shows the uninterrupted runs of the programs that are loaded, and each of its
actions behaves. -/
theorem vmDebugger_transparent (host : Host Double World) (caught : String → Bool)
    (formatInstructionLine : Nat → Instruction Double → String)
    (machine : Machine Double World) (console : Option (List String))
    (actions : List (VmAction Double))
    (admitted : EachStep (VmDebugger.act host caught formatInstructionLine) (Admitted host)
      { machine, console, start := machine } actions) :
    Always (VmDebugger.act host caught formatInstructionLine) (Transparent host)
        { machine, console, start := machine } actions ∧
      EachStep (VmDebugger.act host caught formatInstructionLine)
        (Behaves host caught formatInstructionLine) { machine, console, start := machine }
        actions := by
  have fresh : Invariant host { machine, console, start := machine } :=
    { transparent := nofun
      suspends := nofun
      runs := nofun
      fresh := nofun
      marks := nofun }
  constructor
  · refine (always_of_invariant ?_ fresh admitted).mono fun _ invariant => invariant.transparent
    exact fun invariant admits done => invariant.act admits done
  · refine eachStep_of_invariant (fun invariant admits done => ?_)
      (fun invariant admits => ?_) fresh admitted
    · exact invariant.act admits done
    · exact invariant.behaves admits

end Proof

/-! ## A program that asks for a name -/

/-- `INPUT` and `PRINT`. -/
def echo : List (Instruction Int) :=
  [{ op := .pushStr, operand := .string "NAME " }, { op := .printStr }, { op := .inputStr },
    { op := .printStr }, { op := .halt }]

/-- A session with the input `ADA`, in a process with the standard input `BOB`. -/
def session : VmDebugger Int Unit where
  machine := loadProgram ["ADA"] ()
  console := some ["BOB"]
  start := loadProgram ["ADA"] ()

/-- The debugger of this program. -/
def actEcho : VmDebugger Int Unit → VmAction Int → Option (VmDebugger Int Unit) :=
  act {} (fun _ => true) (fun _ _ => "")

/-- A breakpoint before the input, and the run that is resumed from there. -/
theorem echo_transparent :
    Always actEcho (Transparent {}) session
      [.breakpoint 2, .run (.ok echo), .turn, .turn, .turn, .cont, .turn, .turn, .turn] := by
  refine (vmDebugger_transparent {} (fun _ => true) (fun _ _ => "") (loadProgram ["ADA"] ())
    (some ["BOB"]) _ ?_).1
  exact ⟨trivial, trivial, trivial, trivial, trivial, fun _ => by decide +kernel, trivial, trivial,
    trivial, trivial⟩

/-- `STEP` of the input reads another stream, and `CONT` after `STEP` executes nothing. -/
theorem step_reads_console :
    ((run actEcho session [.breakpoint 2, .run (.ok echo), .turn, .turn, .turn, .step, .step]).map
      fun debugger => debugger.machine.memory.environment.output) = some "NAME BOB" ∧
    ((run actEcho session [.run (.ok echo), .turn, .turn, .turn, .turn]).map
      fun debugger => debugger.machine.memory.environment.output) = some "NAME ADA" ∧
    ((run actEcho session [.breakpoint 1, .run (.ok echo), .turn, .turn, .step, .cont]).map
      fun debugger => (debugger.executed, debugger.machine.ip, debugger.running)) =
        some (2, 2, none) := by
  decide +kernel

end VmDebugger

end Gemini.PickShell
