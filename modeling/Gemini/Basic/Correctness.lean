import Gemini.Basic.Evaluation
import Gemini.Basic.Targets

/-!
# The compiler is correct

The machine that runs an emitted program of the core language does what the reference
interpreter does with its lines. Between lines the two are in step: the operand stack is empty,
the environments are the same, and what the machine comes back to leads to the start of the
line that the interpreter comes back to. `Executes` says that the code of a statement keeps
them in step; a statement that fails does so at an instruction of its own line.
-/

namespace Gemini.Basic

open Gemini.Data
open Gemini.Semantics
open Gemini.VM

variable {Double World : Type}

/-- Jumps lead from one index of a program to another. -/
inductive Leads (program : List (Instruction Double)) : Nat → Nat → Prop
  | here {ip : Nat} : Leads program ip ip
  | jump {ip target final : Nat}
      (jumps : program[ip]? = some { op := .jump, operand := .int (target : Nat) })
      (later : Leads program target final) : Leads program ip final

/-- A frame of the machine counts as a loop of the interpreter does, and its body leads to the
line after the `FOR`. -/
structure CountsAs (program : List (Instruction Double)) (lines : List (BasicLine Double))
    (frame : ForFrame) (loop : LoopFrame) : Prop where
  counts : frame = { varName := loop.varName, limit := loop.limit, step := loop.step,
                     bodyIP := frame.bodyIP }
  body : Leads program frame.bodyIP (lineStart lines loop.body)

/-- The machine and the interpreter are in step, with these values on the operand stack. -/
structure InStep (program : List (Instruction Double)) (lines : List (BasicLine Double))
    (stack : List (Value Double)) (state : Interpreter Double World)
    (machine : Machine Double World) : Prop where
  memory : machine.memory = { stack, environment := state.environment }
  returns : List.Forall₂ (fun address position => Leads program address (lineStart lines position))
    machine.callStack state.returns
  loops : List.Forall₂ (CountsAs program lines) machine.forStack state.loops

/-- Jumps are followed one after the other. -/
theorem Leads.trans {program : List (Instruction Double)} {first second third : Nat}
    (leads : Leads program first second) (later : Leads program second third) :
    Leads program first third := by
  induction leads with
  | here => exact later
  | jump jumps _ inductionHypothesis => exact .jump jumps (inductionHypothesis later)

/-- Where the instruction pointer is does not matter. -/
theorem InStep.move {program : List (Instruction Double)} {lines : List (BasicLine Double)}
    {stack : List (Value Double)} {state : Interpreter Double World}
    {machine : Machine Double World} (inStep : InStep program lines stack state machine)
    (ip : Nat) : InStep program lines stack state { machine with ip } where
  memory := inStep.memory
  returns := inStep.returns
  loops := inStep.loops

section Statements

variable [Doubles Double] (host : Host Double World) (program : List (Instruction Double))
  (sourceLinePerInstr : List Int) (lines : List (BasicLine Double))

/-- The machine does what a statement has done, by code from `low` to `high`. -/
def Follows (low high : Nat) (machine : Machine Double World) :
    Except Fault Jump × Interpreter Double World → Prop
  | (.ok .next, after) => ∃ count final,
      Reaches (patientTurn host program sourceLinePerInstr) count machine final ∧
        final.ip = high ∧ InStep program lines [] after final
  | (.ok (.goTo position), after) => ∃ count final,
      Reaches (patientTurn host program sourceLinePerInstr) (count + 1) machine final ∧
        final.ip = lineStart lines position ∧ InStep program lines [] after final
  | (.ok .stop, after) => ∃ count final,
      Reaches (patientTurn host program sourceLinePerInstr) count machine final ∧
        final.ip = program.length ∧ final.memory.environment = after.environment
  | (.error fault, after) => ∃ count last,
      Reaches (patientTurn host program sourceLinePerInstr) count machine last ∧
        low ≤ last.ip ∧ last.ip < high ∧
        patientTurn host program sourceLinePerInstr last =
          .ends (.failed fault (sourceLineAtInstruction sourceLinePerInstr last.ip)
            after.environment)

/-- From `entry` and with these values on the stack, the machine does what the statement does,
when the end of its code leads to the next line. -/
def Executes (entry : Nat) (stack : List (Value Double)) (low high : Nat)
    (statement : InterpreterM Double World Jump) : Prop :=
  ∀ state machine, machine.ip = entry → InStep program lines stack state machine →
    Leads program high (lineStart lines (state.position + 1)) →
    Follows host program sourceLinePerInstr lines low high machine (Program.exec statement state)

variable {host program sourceLinePerInstr lines}

/-- The machine follows jumps without doing anything else. -/
theorem reaches_of_leads {ip final : Nat} (leads : Leads program ip final)
    {machine : Machine Double World} (here : machine.ip = ip) :
    ∃ count, Reaches (patientTurn host program sourceLinePerInstr) count machine
      { machine with ip := final } := by
  induction leads generalizing machine with
  | here =>
      subst here
      exact ⟨0, .here⟩
  | @jump ip target final jumps _ inductionHypothesis =>
      have turned : patientTurn host program sourceLinePerInstr machine =
          .goesOn { machine with ip := target } := by
        subst here
        exact turn_of_flow jumps (exec_jump target)
      obtain ⟨count, reached⟩ :=
        @inductionHypothesis { machine with ip := target } rfl
      exact ⟨count + 1, .next turned reached⟩

/-- What is followed from a state that the machine reaches is followed from where it comes from. -/
theorem Follows.after {low high count : Nat} {machine middle : Machine Double World}
    {outcome : Except Fault Jump × Interpreter Double World}
    (follows : Follows host program sourceLinePerInstr lines low high middle outcome)
    (reached : Reaches (patientTurn host program sourceLinePerInstr) count machine middle) :
    Follows host program sourceLinePerInstr lines low high machine outcome := by
  rcases outcome with ⟨fault | (_ | position | _), after⟩
  · obtain ⟨more, last, later, rest⟩ := follows
    exact ⟨count + more, last, reached.trans later, rest⟩
  · obtain ⟨more, last, later, rest⟩ := follows
    exact ⟨count + more, last, reached.trans later, rest⟩
  · obtain ⟨more, last, later, rest⟩ := follows
    exact ⟨count + more, last, reached.trans later, rest⟩
  · obtain ⟨more, last, later, rest⟩ := follows
    exact ⟨count + more, last, reached.trans later, rest⟩

/-- What is followed inside a part of the code is followed inside the whole. -/
theorem Follows.within {low high start stop : Nat} {machine : Machine Double World}
    {outcome : Except Fault Jump × Interpreter Double World}
    (follows : Follows host program sourceLinePerInstr lines low high machine outcome)
    (starts : start ≤ low) (stops : high ≤ stop) (leads : Leads program high stop) :
    Follows host program sourceLinePerInstr lines start stop machine outcome := by
  rcases outcome with ⟨fault | (_ | position | _), after⟩
  · obtain ⟨count, last, reached, above, below, failed⟩ := follows
    exact ⟨count, last, reached, by omega, by omega, failed⟩
  · obtain ⟨count, final, reached, atHigh, inStep⟩ := follows
    obtain ⟨more, moved⟩ := @reaches_of_leads _ _ _ host _ sourceLinePerInstr _ _ leads final atHigh
    exact ⟨count + more, _, reached.trans moved, rfl, inStep.move stop⟩
  · exact follows
  · exact follows

namespace Executes

variable {entry low high : Nat} {stack : List (Value Double)}
  {statement : InterpreterM Double World Jump}

/-- A statement whose code is a part of the code of another. -/
theorem within {start stop : Nat}
    (executes : Executes host program sourceLinePerInstr lines entry stack low high statement)
    (starts : start ≤ low) (stops : high ≤ stop) (leads : Leads program high stop) :
    Executes host program sourceLinePerInstr lines entry stack start stop statement := by
  intro state machine here inStep toNext
  exact (executes state machine here inStep (leads.trans toNext)).within starts stops leads

/-- Nothing to do at the end of the code. -/
theorem done : Executes host program sourceLinePerInstr lines high [] low high (pure .next) :=
  fun _ machine here inStep _ => ⟨0, machine, .here, here, inStep⟩

/-- Instructions in a row, and what follows them on the stack that they leave. -/
theorem rowThen {Result : Type} {code : List (Instruction Double)}
    {effect : EnvironmentM Double World Result} {left : Result → List (Value Double)}
    {next : Result → InterpreterM Double World Jump}
    (does : RowDoes host code stack (effect >>= fun result => pure (left result)))
    (placed : CodeAt program entry code) (above : low ≤ entry) (below : entry + code.length ≤ high)
    (later : ∀ result, Executes host program sourceLinePerInstr lines (entry + code.length)
      (left result) low high (next result)) :
    Executes host program sourceLinePerInstr lines entry stack low high
      (onState effect >>= next) := by
  rintro state machine rfl inStep toNext
  have runs := does machine.ip state.environment
  rw [← inStep.memory, Program.exec_bind] at runs
  rw [Program.exec_bind, onState, Program.exec_zoom]
  rcases effected : Program.exec effect state.environment with ⟨fault | result, environment⟩
  · rw [effected] at runs
    obtain ⟨count, last, reached, low, high, failed⟩ :=
      @fails_of_row _ _ _ _ _ sourceLinePerInstr _ _ _ _ placed runs
    exact ⟨count, last, reached, by omega, by omega, failed⟩
  · rw [effected] at runs
    have reached := @reaches_of_row _ _ _ _ _ sourceLinePerInstr _ _ _ placed runs
    refine (later result { state with environment } _ rfl ?_ toNext).after reached
    exact { memory := rfl, returns := inStep.returns, loops := inStep.loops }

/-- A statement that is instructions in a row. -/
theorem row {code : List (Instruction Double)} {effect : EnvironmentM Double World Unit}
    (does : RowDoes host code [] (effect >>= fun _ => pure []))
    (placed : CodeAt program entry code) (ends : high = entry + code.length) :
    Executes host program sourceLinePerInstr lines entry [] entry high
      (onState effect >>= fun _ => pure .next) := by
  subst ends
  exact rowThen does placed (Nat.le_refl _) (Nat.le_refl _) fun _ => done

/-! ### Control -/

/-- A jump to the start of a line does what `GOTO` does. -/
theorem goToLine {target : Int} {position : Nat}
    (jumps : program[entry]? =
      some { op := .jump, operand := .int (lineStart lines position : Nat) })
    (found : linePosition lines target = some position) :
    Executes host program sourceLinePerInstr lines entry [] low high (goToLine lines target) := by
  rintro state machine rfl inStep -
  unfold Basic.goToLine
  rw [found]
  exact ⟨0, _, .one (turn_of_flow jumps (exec_jump _)), rfl, inStep.move _⟩

/-- A call of the start of a line does what `GOSUB` does. -/
theorem gosub {target : Int} {position : Nat}
    (calls : program[entry]? =
      some { op := .call, operand := .int (lineStart lines position : Nat) })
    (found : linePosition lines target = some position) (ends : high = entry + 1) :
    Executes host program sourceLinePerInstr lines entry [] low high
      ((modify fun state => { state with returns := (state.position + 1) :: state.returns }) >>=
        fun _ => Basic.goToLine lines target) := by
  rintro state machine rfl inStep toNext
  subst ends
  rw [Program.exec_bind, Program.exec_modify]
  unfold Basic.goToLine
  rw [found]
  refine ⟨0, _, .one (turn_of_flow calls (exec_call _)), rfl, ?_⟩
  exact { memory := inStep.memory, returns := .cons toNext inStep.returns, loops := inStep.loops }

/-- The instruction of `RETURN` does what `RETURN` does. -/
theorem comeBack (returns : program[entry]? = some { op := .return_ }) (above : low ≤ entry)
    (below : entry < high) :
    Executes host program sourceLinePerInstr lines entry [] low high Basic.comeBack := by
  rintro state machine rfl inStep -
  have executed := @exec_return _ _ _ host machine.ip machine
  have addresses := inStep.returns
  unfold Basic.comeBack
  rw [Program.exec_bind, Program.exec_get]
  dsimp only
  cases stacked : machine.callStack with
  | nil =>
      rw [stacked] at executed addresses
      rw [List.forall₂_nil_left_iff.mp addresses]
      refine ⟨0, machine, .here, above, below, ?_⟩
      rw [turn_of_fault returns executed, inStep.memory]
  | cons address rest =>
      rw [stacked] at executed addresses
      obtain ⟨back, others, leads, later, positions⟩ := List.forall₂_cons_left_iff.mp addresses
      rw [positions]
      obtain ⟨more, moved⟩ := @reaches_of_leads _ _ _ host _ sourceLinePerInstr _ _ leads
        { machine with ip := address, callStack := rest } rfl
      refine ⟨more, _, .next (turn_of_flow returns executed) moved, rfl, ?_⟩
      exact { memory := inStep.memory, returns := later, loops := inStep.loops }

/-- The setup of a loop does what `FOR` does. -/
theorem openLoop {variableName : String} {limit step : Value Double}
    (opens : program[entry]? = some (onName .forSetup variableName)) (above : low ≤ entry)
    (ends : high = entry + 1) :
    Executes host program sourceLinePerInstr lines entry [step, limit] low high
      (Basic.openLoop variableName (coerceToInt limit) (coerceToInt step)) := by
  rintro state machine rfl inStep toNext
  subst ends
  have executed := @exec_forSetup _ _ _ host [] machine.ip machine (uppercase variableName)
    step limit state.environment inStep.memory
  rw [canonicalVariableName_uppercase] at executed
  unfold Basic.openLoop
  split
  · next zero =>
      rw [if_pos zero] at executed
      exact ⟨0, machine, .here, above, by omega, turn_of_fault opens executed⟩
  · next counts =>
      rw [if_neg counts] at executed
      refine ⟨1, _, .one (turn_of_flow opens executed), rfl, ?_⟩
      exact
        { memory := rfl
          returns := inStep.returns
          loops := .cons ⟨rfl, toNext⟩ inStep.loops }

/-- The end of a loop does what `NEXT` does. -/
theorem closeLoop {variableName : String}
    (closes : program[entry]? = some (onName .forNext variableName)) (above : low ≤ entry)
    (ends : high = entry + 1) :
    Executes host program sourceLinePerInstr lines entry [] low high
      (Basic.closeLoop variableName) := by
  rintro state machine rfl inStep -
  subst ends
  have executed := @exec_forNext _ _ _ host [] machine.ip machine (uppercase variableName)
    state.environment inStep.memory
  rw [canonicalVariableName_uppercase] at executed
  have frames := inStep.loops
  unfold Basic.closeLoop
  rw [Program.exec_bind, Program.exec_get]
  dsimp only
  cases stacked : machine.forStack with
  | nil =>
      rw [stacked] at executed frames
      rw [List.forall₂_nil_left_iff.mp frames]
      refine ⟨0, machine, .here, above, by omega, ?_⟩
      rw [turn_of_fault closes executed, inStep.memory]
  | cons frame rest =>
      rw [stacked] at executed frames
      obtain ⟨loop, outer, ⟨counts, body⟩, later, loops⟩ := List.forall₂_cons_left_iff.mp frames
      have sameName : frame.varName = loop.varName := by rw [counts]
      have sameCount : (countLoop loop : EnvironmentM Double World Bool) = advanceLoop frame := by
        rw [counts]
        rfl
      dsimp only at executed ⊢
      rw [loops]
      dsimp only
      rw [← sameName]
      split
      · next mismatch =>
          rw [if_pos mismatch] at executed
          refine ⟨0, machine, .here, above, by omega, ?_⟩
          rw [turn_of_fault closes executed, inStep.memory]
      · next sameVariable =>
          rw [if_neg sameVariable] at executed
          rw [Program.exec_bind, onState, Program.exec_zoom, sameCount]
          rcases counted : Program.exec (advanceLoop frame) state.environment
            with ⟨fault | done, environment⟩
          · rw [counted] at executed
            exact ⟨0, machine, .here, above, by omega, turn_of_fault closes executed⟩
          · rw [counted] at executed
            cases done with
            | true =>
                refine ⟨1, _, .one (turn_of_flow closes executed), rfl, ?_⟩
                exact { memory := rfl, returns := inStep.returns, loops := later }
            | false =>
                obtain ⟨more, moved⟩ := @reaches_of_leads _ _ _ host _ sourceLinePerInstr _ _ body
                  { machine with
                    ip := frame.bodyIP
                    forStack := frame :: rest
                    memory := { stack := [], environment } } rfl
                refine ⟨more, _, .next (turn_of_flow closes executed) moved, rfl, ?_⟩
                exact
                  { memory := rfl
                    returns := inStep.returns
                    loops := by
                      rw [← stacked]
                      exact inStep.loops }

/-- The jump of a branch. -/
theorem decide {value : Value Double} {target : Nat}
    {thenArm elseArm : InterpreterM Double World Jump}
    (skips : program[entry]? = some { op := .jumpIfZero, operand := .int (target : Nat) })
    (above : low ≤ entry) (below : entry < high)
    (thenDoes : Executes host program sourceLinePerInstr lines (entry + 1) [] low high thenArm)
    (elseDoes : Executes host program sourceLinePerInstr lines target [] low high elseArm) :
    Executes host program sourceLinePerInstr lines entry [value] low high
      (onState (liftResult (holds value)) >>= fun taken => if taken then thenArm else elseArm) := by
  rintro state machine rfl inStep toNext
  rw [Program.exec_bind, onState, Program.exec_zoom]
  have refused (notInt : ∀ number, value ≠ .int number) :
      Follows host program sourceLinePerInstr lines low high machine
        (.error (.runtimeError (opCodeName .jumpIfZero ++ ": expected int on stack")), state) :=
    ⟨0, machine, .here, above, below,
      turn_of_fault skips (exec_jumpIfZero_other target notInt inStep.memory)⟩
  cases value with
  | int number =>
      have executed := @exec_jumpIfZero_int _ _ _ host [] machine.ip machine target number
        state.environment inStep.memory
      have reached := Reaches.one
        (@turn_of_flow _ _ _ host machine program sourceLinePerInstr _ _ skips _ executed)
      have inStepAfter (ip : Nat) : InStep program lines [] state
          { machine with ip, memory := { stack := [], environment := state.environment } } :=
        { memory := rfl, returns := inStep.returns, loops := inStep.loops }
      by_cases zero : number = 0
      · have answer : holds (.int number : Value Double) = .ok false := by simp [holds, zero]
        rw [answer]
        rw [if_pos zero] at reached
        exact (elseDoes state _ rfl (inStepAfter target) toNext).after reached
      · have answer : holds (.int number : Value Double) = .ok true := by simp [holds, zero]
        rw [answer]
        rw [if_neg zero] at reached
        exact (thenDoes state _ rfl (inStepAfter _) toNext).after reached
  | double number => exact refused nofun
  | string text => exact refused nofun

/-- The instruction that halts does what `STOP` and `END` do. -/
theorem halt (halts : program[entry]? = some { op := .halt }) :
    Executes host program sourceLinePerInstr lines entry [] low high (pure .stop) := by
  rintro state machine rfl inStep -
  have executed : Program.exec (execute host { op := .halt } machine.ip) machine =
      (.ok .halt, machine) := rfl
  exact ⟨1, _, .one (turn_of_flow halts executed), rfl, by rw [inStep.memory]⟩

end Executes

/-! ## Statements -/

/-- Every line that a statement refers to has a position. -/
def Placed (lines : List (BasicLine Double)) (targets : List Int) : Prop :=
  ∀ target ∈ targets, ∃ position, linePosition lines target = some position

omit [Doubles Double] in
/-- A line that is found is resolved to the start of its code. -/
theorem resolvedTarget_eq {target : Int} {position : Nat}
    (found : linePosition lines target = some position) :
    resolvedTarget lines target = lineStart lines position := by
  rw [resolvedTarget, targetOf, found]
  rfl

variable {builtins : BasicFunction → Builtin Double World}
  {registry : LanguageRegistry Double World} (has : HasBuiltins host builtins registry)

include has

/-- The code of an `IF` takes the arm that its condition says. -/
theorem executes_branch {condition : Expr Double} {code : List (Instruction Double)}
    (coded : expressionCode "IF condition" condition = .ok code) {start jz elseStart stop : Nat}
    (conditionAt : CodeAt program start code) (jzIs : jz = start + code.length)
    (skips : program[jz]? = some { op := .jumpIfZero, operand := .int (elseStart : Nat) })
    (inside : jz < stop) {thenArm elseArm : InterpreterM Double World Jump}
    (thenDoes : Executes host program sourceLinePerInstr lines (jz + 1) [] start stop thenArm)
    (elseDoes : Executes host program sourceLinePerInstr lines elseStart [] start stop elseArm) :
    Executes host program sourceLinePerInstr lines start [] start stop
      (onState (evaluate host builtins condition) >>= fun value =>
        onState (liftResult (holds value)) >>= fun taken =>
          if taken then thenArm else elseArm) := by
  subst jzIs
  exact .rowThen (does_expressionCode has coded []) conditionAt (Nat.le_refl _) (by omega)
    fun _ => .decide skips (by omega) inside thenDoes elseDoes

omit has

mutual

/-- The code of a statement of the core does what the statement does. -/
theorem executes_statement (has : HasBuiltins host builtins registry) :
    (statement : Stmt Double) → statement.isCore →
    {inArm : Bool} → {code : Code Double} → statementCode inArm statement = .ok code →
    Placed lines statement.lineTargets → {start : Nat} →
    ItemsAt program (resolvedTarget lines) start (code start) →
    Executes host program sourceLinePerInstr lines start [] start
      (start + (code start).length) (interpret host builtins lines statement)
  | .letStmt variableName expression, _, _, _, coded, _, start, placed => by
      obtain ⟨value, valueCoded, done⟩ := bind_eq_ok.mp coded
      cases done
      unfold interpret
      refine .row ?_ (itemsAt_plain.mp placed) (by rw [Code.ofInstrs, List.length_map])
      rw [bind_assoc]
      exact (does_expressionCode has valueCoded []).then_ fun value =>
        does_assign variableName value []
  | .letArray variableName indexExpr valueExpr, _, _, _, coded, _, start, placed => by
      have coded := onlyOnLineCode_eq_ok coded
      obtain ⟨value, valueCoded, coded⟩ := bind_eq_ok.mp coded
      obtain ⟨index, indexCoded, done⟩ := bind_eq_ok.mp coded
      cases done
      unfold interpret
      refine .row ?_ (itemsAt_plain.mp placed) (by rw [Code.ofInstrs, List.length_map])
      simp only [bind_assoc, List.append_assoc]
      refine (does_expressionCode has valueCoded []).then_ fun value =>
        (does_coercion variableName value []).pureThen
          ((does_expressionCode has indexCoded _).then_ fun index => ?_)
      have stores := @does_storeArr _ World _ host [] (uppercase variableName) index
        (coerced variableName value)
      rwa [canonicalVariableName_uppercase] at stores
  | .dim variableName sizeExpr, _, _, _, coded, _, start, placed => by
      have coded := onlyOnLineCode_eq_ok coded
      obtain ⟨size, sizeCoded, done⟩ := bind_eq_ok.mp coded
      cases done
      unfold interpret
      refine .row ?_ (itemsAt_plain.mp placed) (by rw [Code.ofInstrs, List.length_map])
      simp only [bind_assoc]
      refine (does_expressionCode has sizeCoded []).then_ fun size => ?_
      have dimensions := @does_dimArray _ World _ host [] (uppercase variableName) size
      rwa [canonicalVariableName_uppercase] at dimensions
  | .print expression suppressEol, _, _, _, coded, _, start, placed => by
      obtain ⟨value, valueCoded, done⟩ := bind_eq_ok.mp coded
      cases done
      unfold interpret
      refine .row ?_ (itemsAt_plain.mp placed) (by rw [Code.ofInstrs, List.length_map])
      simp only [bind_assoc]
      refine (does_expressionCode has valueCoded []).then_ fun value =>
        (does_printVal value).then_ fun _ => ?_
      cases suppressEol with
      | true => exact .nil
      | false => exact does_printEol
  | .input promptExpr variableName, _, _, _, coded, _, start, placed => by
      obtain ⟨prompt, promptCoded, done⟩ := bind_eq_ok.mp coded
      cases done
      unfold interpret
      refine .row ?_ (itemsAt_plain.mp placed) (by rw [Code.ofInstrs, List.length_map])
      simp only [bind_assoc]
      exact (does_promptCode has promptCoded []).then_ fun _ =>
        does_inputStr.then_ fun value => does_assign variableName value []
  | .ifStmt condition thenArm none, core, _, _, coded, known, start, placed => by
      obtain ⟨thenCore, -⟩ := (Bool.and_eq_true _ _).mp core
      obtain ⟨conditionCode, conditionCoded, coded⟩ := bind_eq_ok.mp coded
      obtain ⟨thenCode, thenCoded, done⟩ := bind_eq_ok.mp coded
      cases done
      have branch := branchAt placed
      have inside := branch.stopIs
      have thenDoes := executes_arm has thenArm thenCore thenCoded
        (fun target refers => known target (List.mem_append_left _ refers)) branch.thenAt
      rw [← inside] at thenDoes
      unfold interpret interpretElse
      exact executes_branch has conditionCoded branch.conditionAt branch.jzIs branch.skips
        (by omega) (thenDoes.within (by omega) (Nat.le_refl _) .here) .done
  | .ifStmt condition thenArm (some elseArm), core, _, _, coded, known, start, placed => by
      obtain ⟨thenCore, elseCore⟩ := (Bool.and_eq_true _ _).mp core
      obtain ⟨conditionCode, conditionCoded, coded⟩ := bind_eq_ok.mp coded
      obtain ⟨thenCode, thenCoded, coded⟩ := bind_eq_ok.mp coded
      obtain ⟨elseCode, elseCoded, done⟩ := bind_eq_ok.mp coded
      cases done
      have thenDoes {armStart : Nat} := @executes_arm has thenArm thenCore _ thenCoded
        (fun target refers => known target (List.mem_append_left _ refers)) armStart
      have elseDoes {armStart : Nat} := @executes_arm has elseArm elseCore _ elseCoded
        (fun target refers => known target (List.mem_append_right _ refers)) armStart
      unfold interpret interpretElse
      cases thenArm with
      | line target =>
          cases thenCoded
          simp only [BranchArm.isLine, ↓reduceIte] at placed ⊢
          have branch := branchToLineAt placed
          have inside := branch.stopIs
          have elseDoes := elseDoes branch.elseAt
          rw [← inside] at elseDoes
          obtain ⟨position, found⟩ := known target (List.mem_append_left _ (.head _))
          have jumps := branch.jumps
          rw [resolvedTarget_eq found] at jumps
          simp only [interpretArm]
          refine executes_branch has conditionCoded branch.conditionAt branch.jzIs branch.skips
            (by omega) (.goToLine jumps found) ?_
          exact elseDoes.within (by omega) (Nat.le_refl _) .here
      | inline statement =>
          simp only [BranchArm.isLine, Bool.false_eq_true, ↓reduceIte] at placed ⊢
          have branch := branchElseAt placed
          have inside := branch.stopIs
          have thenEnds := branch.thenEndIs
          have thenDoes := thenDoes branch.thenAt
          have elseDoes := elseDoes branch.elseAt
          rw [← inside] at elseDoes
          rw [← thenEnds] at thenDoes
          exact executes_branch has conditionCoded branch.conditionAt branch.jzIs branch.skips
            (by omega) (thenDoes.within (by omega) (by omega) (.jump branch.leaves .here))
            (elseDoes.within (by omega) (Nat.le_refl _) .here)
  | .goto targetLine, _, _, _, coded, known, start, placed => by
      cases coded
      obtain ⟨position, found⟩ := known targetLine (List.mem_singleton_self _)
      have jumps := (itemsAt_cons.mp placed).1
      rw [CodeItem.resolved, resolvedTarget_eq found] at jumps
      unfold interpret
      exact .goToLine jumps found
  | .gosub targetLine, _, _, _, coded, known, start, placed => by
      cases coded
      obtain ⟨position, found⟩ := known targetLine (List.mem_singleton_self _)
      have calls := (itemsAt_cons.mp placed).1
      rw [CodeItem.resolved, resolvedTarget_eq found] at calls
      unfold interpret
      exact .gosub calls found rfl
  | .returnStmt, _, _, _, coded, _, start, placed => by
      cases coded
      unfold interpret
      exact .comeBack (itemsAt_cons.mp placed).1 (Nat.le_refl _) (Nat.lt_succ_self _)
  | .forStmt variableName initExpr limitExpr stepExpr, _, _, _, coded, _, start, placed => by
      have coded := onlyOnLineCode_eq_ok coded
      split at coded
      · cases coded
      · obtain ⟨init, initCoded, coded⟩ := bind_eq_ok.mp coded
        obtain ⟨limit, limitCoded, coded⟩ := bind_eq_ok.mp coded
        obtain ⟨step, stepCoded, done⟩ := bind_eq_ok.mp coded
        cases done
        obtain ⟨rowAt, opens, -⟩ := codeAt_append.mp (itemsAt_plain.mp placed)
        have ends : start + (Code.ofInstrs (init ++ (coercion variableName ++
            [onName .storeVar variableName]) ++ limit ++ step ++
            [onName .forSetup variableName]) start).length =
            start + (init ++ (coercion variableName ++ [onName .storeVar variableName]) ++
              limit ++ step).length + 1 := by
          rw [Code.ofInstrs, List.length_map, List.length_append]
          rfl
        unfold interpret
        have leaves : RowDoes host (init ++ (coercion variableName ++
            [onName .storeVar variableName]) ++ limit ++ step) []
            ((do
              assign variableName (← evaluate host builtins initExpr)
              let limit ← evaluate host builtins limitExpr
              let step ← stepOf host builtins stepExpr
              return (limit, step)) >>= fun values => pure [values.2, values.1]) := by
          simp only [bind_assoc, pure_bind]
          rw [List.append_assoc, List.append_assoc]
          refine (does_expressionCode has initCoded []).then_ fun init =>
            (does_assign variableName init []).then_ fun _ => ?_
          exact (does_expressionCode has limitCoded []).then_ fun limit =>
            does_stepCode has stepCoded [limit]
        exact .rowThen leaves rowAt (Nat.le_refl _) (by omega)
          fun _ => .openLoop opens (by omega) ends
  | .next variableName, _, _, _, coded, _, start, placed => by
      have coded := onlyOnLineCode_eq_ok coded
      cases coded
      unfold interpret
      exact .closeLoop (itemsAt_cons.mp placed).1 (Nat.le_refl _) rfl
  | .clear, _, _, _, coded, _, start, placed => by
      cases coded
      unfold interpret
      exact .row does_clearVars (itemsAt_plain.mp placed) rfl
  | .stop, _, _, _, coded, _, start, placed => by
      cases coded
      unfold interpret
      exact .halt (itemsAt_cons.mp placed).1
  | .endStmt, _, _, _, coded, _, start, placed => by
      cases coded
      unfold interpret
      exact .halt (itemsAt_cons.mp placed).1
  | .rem, _, _, _, coded, _, start, placed => by
      cases coded
      unfold interpret
      exact .done

/-- The code of an arm does what the arm does. -/
theorem executes_arm (has : HasBuiltins host builtins registry) :
    (arm : BranchArm Double) → arm.isCore → {code : Code Double} →
    armCode arm = .ok code → Placed lines arm.lineTargets → {start : Nat} →
    ItemsAt program (resolvedTarget lines) start (code start) →
    Executes host program sourceLinePerInstr lines start [] start
      (start + (code start).length) (interpretArm host builtins lines arm)
  | .line target, _, _, coded, known, start, placed => by
      cases coded
      obtain ⟨position, found⟩ := known target (List.mem_singleton_self _)
      have jumps := (itemsAt_cons.mp placed).1
      rw [CodeItem.resolved, resolvedTarget_eq found] at jumps
      unfold interpretArm
      exact .goToLine jumps found
  | .inline statement, core, _, coded, known, start, placed => by
      unfold interpretArm
      exact executes_statement has statement core coded known placed

end

end Statements

/-! ## Programs -/

/-- The machine is at the start of the interpreter's line, in step with it. -/
structure BetweenLines (lines : List (BasicLine Double)) (state : Interpreter Double World)
    (machine : Machine Double World) : Prop where
  place : machine.ip = lineStart lines state.position
  inStep : InStep (assembled lines).program lines [] state machine

section Programs

variable [Doubles Double] {host : Host Double World} {lines : List (BasicLine Double)}
  {builtins : BasicFunction → Builtin Double World} {registry : LanguageRegistry Double World}

/-- The machine ends behind the last instruction. -/
theorem ends_at_size {program : List (Instruction Double)} {sourceLinePerInstr : List Int}
    {machine : Machine Double World} (outside : machine.ip = program.length) :
    Ends (patientTurn host program sourceLinePerInstr) machine
      (.finished machine.memory.environment) := by
  refine .now ?_
  rw [patientTurn, outside, List.getElem?_eq_none (Nat.le_refl _)]

/-- After the last line the machine ends, with the `HALT` that the emitter adds or without. -/
theorem ends_after_lines {machine : Machine Double World} {position : Nat}
    (past : lines[position]? = none) (place : machine.ip = lineStart lines position) :
    Ends (patientTurn host (assembled lines).program (assembled lines).sourceLinePerInstr) machine
      (.finished machine.memory.environment) := by
  have all : lines.take position = lines :=
    List.take_of_length_le (List.getElem?_eq_none_iff.mp past)
  have atEnd : machine.ip =
      ((linesCode lines 0).map (CodeItem.resolved (resolvedTarget lines))).length := by
    rw [place, lineStart, all, List.length_map]
  have program := assembled_program lines
  by_cases adds : needsHalt lines
  · have halts : (assembled lines).program[machine.ip]? = some haltInstr := by
      rw [program, closing, if_pos adds, atEnd, List.getElem?_append_right (Nat.le_refl _),
        Nat.sub_self]
      rfl
    have executed : Program.exec (execute host haltInstr machine.ip) machine =
        (.ok .halt, machine) := rfl
    exact (Reaches.one (turn_of_flow halts executed)).ends (ends_at_size rfl)
  · refine ends_at_size ?_
    rw [program, closing, if_neg adds, List.append_nil, atEnd]

variable (known : TargetsKnown lines) (accepted : ∀ line ∈ lines, line.Accepted)
  (core : ∀ line ∈ lines, line.statement.isCore) (has : HasBuiltins host builtins registry)

include known accepted core has

/-- At the start of a line, the machine follows the interpreter through the line. -/
theorem follows_line {state : Interpreter Double World} {machine : Machine Double World}
    {line : BasicLine Double} (found : lines[state.position]? = some line)
    (between : BetweenLines lines state machine) :
    Follows host (assembled lines).program (assembled lines).sourceLinePerInstr lines
      (lineStart lines state.position) (lineStart lines (state.position + 1)) machine
      (Program.exec (interpret host builtins lines line.statement) state) := by
  have member := List.mem_of_getElem? found
  have placed : Placed lines line.statement.lineTargets := fun target refers =>
    Option.isSome_iff_exists.mp (linePosition_isSome (known line member target refers))
  have executes : Executes host (assembled lines).program (assembled lines).sourceLinePerInstr
      lines _ [] _ _ (interpret host builtins lines line.statement) :=
    executes_statement has line.statement (core line member) (accepted line member) placed
      (itemsAt_line found)
  rw [← lineStart_succ found] at executes
  exact executes state machine between.place between.inStep .here

/-- The machine simulates the interpreter line by line. -/
theorem lines_simulate :
    Simulation (interpretTurn host builtins lines)
      (patientTurn host (assembled lines).program (assembled lines).sourceLinePerInstr)
      (BetweenLines lines) (fun state : Interpreter Double World => lines.length - state.position)
      where
  ends := by
    intro state machine outcome between ended
    have same : machine.memory.environment = state.environment := by rw [between.inStep.memory]
    unfold interpretTurn at ended
    cases found : lines[state.position]? with
    | none =>
        rw [found] at ended
        cases ended
        rw [← same]
        exact ends_after_lines found between.place
    | some line =>
        have follows := follows_line known accepted core has found between
        simp only [found] at ended
        rcases interpreted : Program.exec (interpret host builtins lines line.statement) state
          with ⟨fault | (_ | position | _), after⟩
        · rw [interpreted] at follows
          simp only [interpreted] at ended
          cases ended
          obtain ⟨count, last, reached, above, below, failed⟩ := follows
          rw [sourceLineAtInstruction, source_of_line found above below] at failed
          exact reached.ends (.now failed)
        · simp only [interpreted] at ended
          cases ended
        · simp only [interpreted] at ended
          cases ended
        · rw [interpreted] at follows
          simp only [interpreted] at ended
          cases ended
          obtain ⟨count, final, reached, outside, environment⟩ := follows
          rw [← environment]
          exact reached.ends (ends_at_size outside)
  goesOn := by
    intro state machine next between turned
    unfold interpretTurn at turned
    cases found : lines[state.position]? with
    | none =>
        rw [found] at turned
        cases turned
    | some line =>
        have inside := (List.getElem?_eq_some_iff.mp found).1
        have follows := follows_line known accepted core has found between
        simp only [found] at turned
        rcases interpreted : Program.exec (interpret host builtins lines line.statement) state
          with ⟨fault | (_ | position | _), after⟩
        · simp only [interpreted] at turned
          cases turned
        · rw [interpreted] at follows
          simp only [interpreted] at turned
          cases turned
          obtain ⟨count, final, reached, place, inStep⟩ := follows
          refine ⟨count, final, reached, ⟨place, ?_⟩, .inr (by dsimp only; omega)⟩
          exact { memory := inStep.memory, returns := inStep.returns, loops := inStep.loops }
        · rw [interpreted] at follows
          simp only [interpreted] at turned
          cases turned
          obtain ⟨count, final, reached, place, inStep⟩ := follows
          refine ⟨count + 1, final, reached, ⟨place, ?_⟩, .inl (Nat.succ_pos _)⟩
          exact { memory := inStep.memory, returns := inStep.returns, loops := inStep.loops }
        · simp only [interpreted] at turned
          cases turned

end Programs

/-- The emitted program runs on the machine as its lines do on the interpreter: with the same
outcomes, and through the same environments. An outcome holds what was printed, the variables
and the arrays, and the error and its line if there is one. -/
structure RunsAs [Doubles Double] (host : Host Double World)
    (builtins : BasicFunction → Builtin Double World) (lines : List (BasicLine Double))
    (emitted : EmittedProgram Double) (input : List String) (world : World) : Prop where
  outcomes : ∀ outcome,
    Ends (interpretTurn host builtins lines) (startInterpreter input world) outcome ↔
      Ends (runTurn host emitted.program emitted.sourceLinePerInstr) (VM.loadProgram input world)
        outcome
  environments : ∀ {count state},
    Reaches (interpretTurn host builtins lines) count (startInterpreter input world) state →
      ∃ steps machine, run (stepState host emitted.program) (VM.loadProgram input world)
        (List.replicate steps ()) = some machine ∧
        machine.memory.environment = state.environment

/-- The compiler is correct for the core language. -/
theorem emitted_runsAs [Doubles Double] {host : Host Double World}
    {builtins : BasicFunction → Builtin Double World} {registry : LanguageRegistry Double World}
    {lines normalized : List (BasicLine Double)} {emitted : EmittedProgram Double}
    (analyzed : analyze lines = .ok normalized) (compiled : emit normalized = .ok emitted)
    (core : ∀ line ∈ normalized, line.statement.isCore)
    (has : HasBuiltins host builtins registry) (input : List String) (world : World) :
    RunsAs host builtins normalized emitted input world := by
  obtain ⟨known, rfl⟩ := analyze_eq_ok.mp analyzed
  obtain ⟨accepted, rfl⟩ := emit_eq_ok.mp compiled
  have simulation := lines_simulate known accepted core has
  have start : BetweenLines normalized (startInterpreter input world)
      (VM.loadProgram input world : Machine Double World) :=
    { place := rfl
      inStep := { memory := rfl, returns := .nil, loops := .nil } }
  constructor
  · intro outcome
    rw [simulation.ends_iff start]
    exact (patient_simulates.ends_iff rfl).symm
  · intro count state reached
    obtain ⟨steps, machine, run, between⟩ := simulation.reaches start reached
    refine ⟨steps, machine, run_of_reaches run, ?_⟩
    rw [between.inStep.memory]

/-- `10 FOR I% = 1 TO 2`, `20 IF I% = 1 THEN GOSUB 50 ELSE PRINT "B"`, `30 NEXT I%`, `40 END`,
`50 PRINT "A"`, `60 RETURN`. -/
def loopLines : List (BasicLine Int) :=
  [{ lineNumber := 10, statement := .forStmt "I%" (.intLiteral 1) (.intLiteral 2) none },
    { lineNumber := 20,
      statement := .ifStmt (.binary .equal (.identifier "I%") (.intLiteral 1))
        (.inline (.gosub 50)) (some (.inline (.print (.stringLiteral "B") false))) },
    { lineNumber := 30, statement := .next "I%" },
    { lineNumber := 40, statement := .endStmt },
    { lineNumber := 50, statement := .print (.stringLiteral "A") false },
    { lineNumber := 60, statement := .returnStmt }]

/-- The code of the lines, as the compiler emits it. -/
def loopProgram : EmittedProgram Int where
  program := [pushInt 1, { op := .coerceInt }, onName .storeVar "I%", pushInt 2, pushInt 1,
    onName .forSetup "I%",
    onName .loadVar "I%", pushInt 1, { op := .eq }, { op := .jumpIfZero, operand := .int 12 },
    { op := .call, operand := .int 17 }, { op := .jump, operand := .int 15 },
    { op := .pushStr, operand := .string "B" }, { op := .printVal }, { op := .printEol },
    onName .forNext "I%",
    { op := .halt },
    { op := .pushStr, operand := .string "A" }, { op := .printVal }, { op := .printEol },
    { op := .return_ },
    haltInstr]
  sourceLinePerInstr :=
    [10, 10, 10, 10, 10, 10, 20, 20, 20, 20, 20, 20, 20, 20, 20, 30, 40, 50, 50, 50, 60, 0]

/-- Builtins that answer 0, for programs that call none. -/
def zeroBuiltins (_ : BasicFunction) : Builtin Int Unit := fun _ _ => pure (.int 0)

/-- A registry whose builtins are the zero builtins. -/
def zeroRegistry : LanguageRegistry Int Unit := fun nsId =>
  if nsId = kNamespaceIdBasic then
    some (registerBasicLanguage fun function => (zeroBuiltins function).handler function.arity)
  else none

/-- The compiled loop runs as its lines do. -/
theorem loopProgram_runsAs :
    RunsAs { languageRegistry := some zeroRegistry } zeroBuiltins loopLines loopProgram [] () := by
  have analyzed : analyze loopLines = .ok loopLines := by rfl
  have compiled : emit loopLines = .ok loopProgram := by rfl
  have core : ∀ line ∈ loopLines, line.statement.isCore := by decide
  have has : HasBuiltins { languageRegistry := some zeroRegistry } zeroBuiltins zeroRegistry :=
    { bound := rfl, registered := rfl }
  exact emitted_runsAs analyzed compiled core has [] ()

end Gemini.Basic
