import Gemini.Basic.Correctness
import Gemini.VM.ArrayRecords

/-!
# How often the body of a loop runs

A `FOR` stores the first value of its variable and opens a loop, and each `NEXT` counts the
variable on and either leaves the loop or goes back to the line after the `FOR`. The body in
between may be anything that comes to the `NEXT` with the variable and the open loops as it
found them.

`NEXT` adds in 32 bits before it compares. The last value of the variable lies past the limit,
so a loop counts as it should exactly when that value is one of an `int`.
-/

namespace Gemini.Basic

open Gemini.Data
open Gemini.Semantics
open Gemini.VM

variable {Double World : Type}

/-! ## Counting -/

/-- How often the body is to run. -/
def timesOf (init limit step : Int) : Nat := (max 1 (Int.fdiv (limit - init) step + 1)).toNat

/-- The value that the variable has after a number of turns. -/
def valueAfter (init step : Int) (turns : Nat) : Int := init + turns * step

/-- The body of a loop runs at least once. -/
theorem timesOf_pos (init limit step : Int) : 0 < timesOf init limit step := by
  unfold timesOf
  omega

/-- The value after some turns is past the limit from the last turn on. -/
theorem loopIsDone_iff {init limit step : Int} (steps : step ≠ 0) {frame : ForFrame}
    (limited : frame.limit = limit) (stepped : frame.step = step) {turns : Nat}
    (started : 0 < turns) :
    loopIsDone frame (valueAfter init step turns) = true ↔ timesOf init limit step ≤ turns := by
  unfold loopIsDone valueAfter timesOf
  rw [limited, stepped]
  rcases Int.lt_or_gt_of_ne steps with down | up
  · have flipped : Int.fdiv (limit - init) step = (init - limit) / -step := by
      rw [← Int.neg_fdiv_neg, Int.fdiv_eq_ediv_of_nonneg _ (by omega)]
      congr 1
      omega
    have passes : (init - limit) / -step < turns ↔ init - limit < turns * -step :=
      Int.ediv_lt_iff_lt_mul (by omega)
    rw [Int.mul_neg] at passes
    rw [if_neg (by omega), decide_eq_true_iff, flipped]
    omega
  · have whole : Int.fdiv (limit - init) step = (limit - init) / step :=
      Int.fdiv_eq_ediv_of_nonneg _ (by omega)
    have passes : (limit - init) / step < turns ↔ limit - init < turns * step :=
      Int.ediv_lt_iff_lt_mul up
    rw [if_pos up, decide_eq_true_iff, whole]
    omega

/-! ## Expressions leave the variables alone -/

section Evaluation

variable [Doubles Double] {host : Host Double World}
  {builtins : BasicFunction → Builtin Double World}

/-- The environment differs from `start` in its world alone. -/
def OnlyWorld (start environment : Environment Double World) : Prop :=
  ∃ world, environment = { start with world }

variable {start : Environment Double World}

omit [Doubles Double] in
/-- Loading a variable keeps the world. -/
theorem keeps_loadVariable (name : String) :
    Program.Keeps (OnlyWorld start) (loadVariable host name) := by
  refine Program.Keeps.look fun environment => ?_
  split
  · exact Program.Ensures.pure fun _ holds => holds
  · split
    · exact Program.Ensures.throw fun _ holds => holds
    · exact Program.Ensures.pure fun _ holds => holds

omit [Doubles Double] in
theorem keeps_liftResult {Result : Type} (outcome : Except Fault Result) :
    Program.Keeps (OnlyWorld start) (liftResult outcome : EnvironmentM Double World Result) := by
  cases outcome with
  | ok result => exact Program.Ensures.pure fun _ holds => holds
  | error fault => exact Program.Ensures.throw fun _ holds => holds

omit [Doubles Double] in
/-- Loading an element of an array keeps the world. -/
theorem keeps_loadElement (name : String) (idx : Int) :
    Program.Keeps (OnlyWorld start)
      (loadElement name idx : EnvironmentM Double World (Value Double)) := by
  have found : Program.Keeps (OnlyWorld start)
      (findArray name (notDimensioned name) : EnvironmentM Double World _) := by
    refine Program.Keeps.look fun environment => ?_
    split
    · exact Program.Ensures.throw fun _ holds => holds
    · exact Program.Ensures.pure fun _ holds => holds
  refine found.bind fun elements => ?_
  split
  · exact Program.Ensures.throw fun _ holds => holds
  · split
    · exact Program.Ensures.throw fun _ holds => holds
    · exact Program.Ensures.pure fun _ holds => holds

omit [Doubles Double] in
/-- Builtins keep the world. -/
theorem keeps_callBuiltin (name : String) (given : List (Value Double)) :
    Program.Keeps (OnlyWorld start) (callBuiltin builtins name given) := by
  unfold callBuiltin
  split
  · exact Program.Ensures.throw fun _ holds => holds
  · refine Program.Keeps.look fun environment => ?_
    refine @Program.Ensures.bind _ _ _ _ _ _ (fun _ => OnlyWorld start) _ _ _ ?_ fun outcome => ?_
    · rintro _ ⟨world, rfl⟩
      exact ⟨_, rfl⟩
    · split
      · exact Program.Ensures.pure fun _ holds => holds
      · exact Program.Ensures.throw fun _ holds => holds

mutual

/-- Evaluating an expression keeps the world. -/
theorem keeps_evaluate : (expression : Expr Double) →
    Program.Keeps (OnlyWorld start) (evaluate host builtins expression)
  | .intLiteral _ => by
      unfold evaluate
      exact Program.Ensures.pure fun _ holds => holds
  | .floatLiteral _ => by
      unfold evaluate
      exact Program.Ensures.pure fun _ holds => holds
  | .stringLiteral _ => by
      unfold evaluate
      exact Program.Ensures.pure fun _ holds => holds
  | .dictField _ => by
      unfold evaluate
      exact Program.Ensures.pure fun _ holds => holds
  | .identifier name => by
      unfold evaluate
      exact keeps_loadVariable _
  | .negate operand => by
      unfold evaluate
      exact (keeps_evaluate operand).bind fun _ => keeps_liftResult _
  | .binary op left right => by
      unfold evaluate
      exact (keeps_evaluate left).bind fun _ =>
        (keeps_evaluate right).bind fun _ => keeps_liftResult _
  | .grouped expression => by
      unfold evaluate
      exact keeps_evaluate expression
  | .subscript varName index => by
      unfold evaluate
      exact (keeps_evaluate index).bind fun _ => keeps_loadElement _ _
  | .attributeAccess varName attr => by
      unfold evaluate
      exact (keeps_loadVariable _).bind fun _ =>
        (keeps_evaluate attr).bind fun _ => Program.Ensures.pure fun _ holds => holds
  | .valueAccess varName attr valueIndex => by
      unfold evaluate
      exact (keeps_loadVariable _).bind fun _ => (keeps_evaluate attr).bind fun _ =>
        (keeps_evaluate valueIndex).bind fun _ => Program.Ensures.pure fun _ holds => holds
  | .functionCall name arguments => by
      unfold evaluate
      exact (keeps_evaluateAll arguments).bind fun _ => keeps_callBuiltin _ _

/-- Evaluating arguments keeps the world. -/
theorem keeps_evaluateAll : (arguments : List (Expr Double)) →
    Program.Keeps (OnlyWorld start) (evaluateAll host builtins arguments)
  | [] => by
      unfold evaluateAll
      exact Program.Ensures.pure fun _ holds => holds
  | argument :: rest => by
      unfold evaluateAll
      exact (keeps_evaluate argument).bind fun _ =>
        (keeps_evaluateAll rest).bind fun _ => Program.Ensures.pure fun _ holds => holds

end

/-- Evaluating a step keeps the world. -/
theorem keeps_stepOf (stepExpr : Option (Expr Double)) :
    Program.Keeps (OnlyWorld start) (stepOf host builtins stepExpr) := by
  cases stepExpr with
  | none => exact Program.Ensures.pure fun _ holds => holds
  | some stepExpr => exact keeps_evaluate stepExpr

omit [Doubles Double] in
/-- Code that changes the world alone leaves the variables as they are. -/
theorem variableMap_of_keeps {Result : Type} {code : EnvironmentM Double World Result}
    (kept : ∀ start : Environment Double World, Program.Keeps (OnlyWorld start) code)
    {environment after : Environment Double World} {outcome : Except Fault Result}
    (ran : Program.exec code environment = (outcome, after)) :
    after.variableMap = environment.variableMap := by
  have only := (kept environment).after ⟨environment.world, rfl⟩
  rw [ran] at only
  obtain ⟨world, rfl⟩ := only
  rfl

/-- What a `FOR` evaluates: the first value, which it stores, the limit and the step. -/
def forHeader (host : Host Double World) (builtins : BasicFunction → Builtin Double World)
    (variableName : String) (initExpr limitExpr : Expr Double) (stepExpr : Option (Expr Double)) :
    EnvironmentM Double World (Value Double × Value Double × Value Double) := do
  let init ← evaluate host builtins initExpr
  assign variableName init
  let limit ← evaluate host builtins limitExpr
  let step ← stepOf host builtins stepExpr
  return (init, limit, step)

/-- After the header of a `FOR` its variable can be written and has the first value. -/
theorem counter_of_forHeader {variableName : String} {initExpr limitExpr : Expr Double}
    {stepExpr : Option (Expr Double)} {init limit step : Value Double}
    {environment after : Environment Double World}
    (evaluated : Program.exec
      (forHeader host builtins variableName initExpr limitExpr stepExpr) environment =
        (.ok (init, limit, step), after)) :
    isReadOnlySystemVariableName (uppercase variableName) = false ∧
      after.variableMap.lookup (uppercase variableName) = some (coerced variableName init) := by
  obtain ⟨first, middle, -, rest⟩ := Program.exec_bind_eq_ok.mp evaluated
  obtain ⟨_, stored, assigned, rest⟩ := Program.exec_bind_eq_ok.mp rest
  obtain ⟨second, late, limitDone, rest⟩ := Program.exec_bind_eq_ok.mp rest
  obtain ⟨third, final, stepDone, done⟩ := Program.exec_bind_eq_ok.mp rest
  cases done
  rw [variableMap_of_keeps (fun _ => keeps_stepOf stepExpr) stepDone,
    variableMap_of_keeps (fun _ => keeps_evaluate limitExpr) limitDone]
  obtain ⟨_, _, required, storedDone⟩ := Program.exec_bind_eq_ok.mp assigned
  unfold requireWritable at required
  split at required
  · cases required
  · next writable =>
      cases required
      cases storedDone
      exact ⟨by simpa using writable, AList.lookup_insert _⟩

end Evaluation

/-! ## A loop in a run -/

section Loop

variable (turn : Machine Double World → Turn (Machine Double World) (Outcome Double World))
  (bodyIp nextIp : Nat) (varName : String)

/-- The value of the variable of a loop. -/
def counterOf (machine : Machine Double World) : Option (Value Double) :=
  machine.memory.environment.variableMap.lookup varName

/-- From `machine` the body comes to the `NEXT` for the first time in `after`, with the open
loops and the variable as it found them. -/
structure BodyRuns (machine after : Machine Double World) : Prop where
  arrives : ∃ count, Reaches turn count machine after ∧
    ∀ earlier < count, ∀ between, Reaches turn earlier machine between → between.ip ≠ nextIp
  atNext : after.ip = nextIp
  loops : after.forStack = machine.forStack
  counter : counterOf varName after = counterOf varName machine

/-- The body runs once for each value, with the variable at that value, and the machine then
leaves the loop. -/
inductive Iterates : List Int → Machine Double World → Machine Double World → Prop
  | leaves {value : Int} {machine after final : Machine Double World}
      (atBody : machine.ip = bodyIp) (counter : counterOf varName machine = some (.int value))
      (body : BodyRuns turn nextIp varName machine after)
      (next : turn after = .goesOn final) (out : final.ip = nextIp + 1) :
      Iterates [value] machine final
  | again {value : Int} {values : List Int} {machine after back final : Machine Double World}
      (atBody : machine.ip = bodyIp) (counter : counterOf varName machine = some (.int value))
      (body : BodyRuns turn nextIp varName machine after)
      (next : turn after = .goesOn back) (stillOpen : back.forStack = machine.forStack)
      (later : Iterates values back final) : Iterates (value :: values) machine final

/-- The frame of a loop over these bounds. -/
def frameOf (limit step : Int) : ForFrame := { varName, limit, step, bodyIP := bodyIp }

/-- A loop that is entered from `machine` runs its body as often as its bounds say and with the
values that they say, leaves, and has the next value then. -/
def Counts (init limit step : Int) (machine : Machine Double World) : Prop :=
  ∃ count entry final, Reaches turn count machine entry ∧
    entry.forStack = frameOf bodyIp varName limit step :: machine.forStack ∧
    Iterates turn bodyIp nextIp varName
      ((List.range (timesOf init limit step)).map (valueAfter init step)) entry final ∧
    final.forStack = machine.forStack ∧
    counterOf varName final = some (.int (valueAfter init step (timesOf init limit step)))

variable {turn bodyIp nextIp varName}

/-- The first value is the one that the variable has at the start. -/
theorem Iterates.counter {value : Int} {values : List Int} {machine final : Machine Double World}
    (iterates : Iterates turn bodyIp nextIp varName (value :: values) machine final) :
    counterOf varName machine = some (.int value) := by
  cases iterates with
  | leaves atBody counter body next out => exact counter
  | again atBody counter body next stillOpen later => exact counter

end Loop

/-! ## One turn of a loop -/

/-- The values of a loop lie between the first and the last. -/
theorem isInt_between {init step : Int} {turns times : Nat} (first : IsInt init)
    (last : IsInt (valueAfter init step times)) (before : turns ≤ times) :
    IsInt (valueAfter init step turns) := by
  unfold IsInt valueAfter at *
  have ordered : (turns : Int) ≤ times := by exact_mod_cast before
  rcases Int.le_total 0 step with up | down
  · have above : 0 ≤ (turns : Int) * step := Int.mul_nonneg (by omega) up
    have below := Int.mul_le_mul_of_nonneg_right ordered up
    omega
  · have above := Int.mul_le_mul_of_nonpos_right ordered down
    have below : (turns : Int) * step ≤ 0 := Int.mul_nonpos_of_nonneg_of_nonpos (by omega) down
    omega

/-- The machine after `NEXT` has given the variable of a frame a value. -/
def afterNext (frame : ForFrame) (outer : List ForFrame) (value : Int)
    (machine : Machine Double World) : Machine Double World :=
  { machine with
    ip := if loopIsDone frame value then machine.ip + 1 else frame.bodyIP
    forStack := if loopIsDone frame value then outer else frame :: outer
    memory :=
      { machine.memory with
        environment :=
          { machine.memory.environment with
            variableMap :=
              machine.memory.environment.variableMap.insert frame.varName (.int value) } } }

/-- After a `NEXT` that goes round the counter has its new value. -/
theorem counterOf_afterNext (frame : ForFrame) (outer : List ForFrame) (value : Int)
    (machine : Machine Double World) :
    counterOf frame.varName (afterNext frame outer value machine) = some (.int value) :=
  AList.lookup_insert _

section Turns

variable [Doubles Double] {host : Host Double World} {program : List (Instruction Double)}
  {sourceLinePerInstr : List Int}

/-- A `NEXT` counts in 32 bits and then looks whether the loop is done. -/
theorem turn_next (exact : HoldsInts Double) {variableName : String} {frame : ForFrame}
    {outer : List ForFrame} {machine : Machine Double World} {value : Int}
    (closes : program[machine.ip]? = some (onName .forNext variableName))
    (loops : machine.forStack = frame :: outer) (named : frame.varName = uppercase variableName)
    (writable : isReadOnlySystemVariableName (uppercase variableName) = false)
    (counter : counterOf frame.varName machine = some (.int value)) (inRange : IsInt value) :
    patientTurn host program sourceLinePerInstr machine =
      .goesOn (afterNext frame outer (wrapInt (value + frame.step)) machine) := by
  have advanced : Program.exec (advanceLoop frame) machine.memory.environment =
      (.ok (loopIsDone frame (wrapInt (value + frame.step))),
        (afterNext frame outer (wrapInt (value + frame.step)) machine).memory.environment) := by
    have newVal : nextLoopValue machine.memory.environment.variableMap frame =
        wrapInt (value + frame.step) := by
      unfold counterOf at counter
      rw [nextLoopValue, counter, Option.map_some, Option.getD_some,
        coerceToInt_int exact inRange.1 inRange.2]
    rw [← named] at writable
    rw [← newVal]
    unfold advanceLoop requireWritable
    rw [writable]
    rfl
  have executed := @exec_forNext _ _ _ host machine.memory.stack machine.ip machine
    (uppercase variableName) machine.memory.environment rfl
  rw [canonicalVariableName_uppercase, loops] at executed
  dsimp only at executed
  rw [if_neg (fun mismatch => mismatch.2 named), advanced] at executed
  cases done : loopIsDone frame (wrapInt (value + frame.step)) with
  | true =>
      rw [done] at executed
      rw [turn_of_flow closes executed, afterNext, done]
      rfl
  | false =>
      rw [done] at executed
      rw [turn_of_flow closes executed, afterNext, done, ← loops]
      rfl

/-! ## The turns of a loop -/

/-- A loop in a program: where its body and its `NEXT` are, and its frame. -/
structure LoopIn (program : List (Instruction Double)) (nextIp : Nat) (variableName : String)
    (frame : ForFrame) : Prop where
  closes : program[nextIp]? = some (onName .forNext variableName)
  named : frame.varName = uppercase variableName
  writable : isReadOnlySystemVariableName (uppercase variableName) = false

variable {nextIp : Nat} {variableName : String} {frame : ForFrame} {outer : List ForFrame}

/-- What `NEXT` does after the body has run. -/
theorem LoopIn.turn_after (inProgram : LoopIn program nextIp variableName frame)
    (exact : HoldsInts Double) {machine after : Machine Double World} {value : Int}
    (body : BodyRuns (patientTurn host program sourceLinePerInstr) nextIp frame.varName machine
      after)
    (loops : machine.forStack = frame :: outer)
    (counter : counterOf frame.varName machine = some (.int value)) (inRange : IsInt value) :
    patientTurn host program sourceLinePerInstr after =
      .goesOn (afterNext frame outer (wrapInt (value + frame.step)) after) :=
  turn_next exact (by rw [body.atNext]; exact inProgram.closes) (body.loops.trans loops)
    inProgram.named inProgram.writable (body.counter.trans counter) inRange

/-- A loop that is left has a value of an `int` in its variable. -/
theorem LoopIn.isInt_of_iterates (inProgram : LoopIn program nextIp variableName frame)
    (exact : HoldsInts Double) {values : List Int} {machine final : Machine Double World}
    (iterates : Iterates (patientTurn host program sourceLinePerInstr) frame.bodyIP nextIp
      frame.varName values machine final)
    (loops : machine.forStack = frame :: outer)
    (inRange : ∀ value, counterOf frame.varName machine = some (.int value) → IsInt value) :
    ∃ last, counterOf frame.varName final = some (.int last) ∧ IsInt last := by
  induction iterates with
  | @leaves value machine after final atBody counter body next out =>
      have turned := inProgram.turn_after exact body loops counter (inRange value counter)
      rw [turned] at next
      cases next
      exact ⟨_, counterOf_afterNext _ _ _ _, isInt_wrapInt _⟩
  | @again value values machine after back final atBody counter body next stillOpen later
      inductionHypothesis =>
      have turned := inProgram.turn_after exact body loops counter (inRange value counter)
      rw [turned] at next
      cases next
      refine inductionHypothesis (stillOpen.trans loops) fun counted same => ?_
      rw [counterOf_afterNext] at same
      cases same
      exact isInt_wrapInt _

/-- A `NEXT` whose value is one of an `int` gives the variable the value of the next turn. -/
theorem LoopIn.turn_counted (inProgram : LoopIn program nextIp variableName frame)
    (exact : HoldsInts Double) {machine after : Machine Double World} {init : Int} {turns : Nat}
    (body : BodyRuns (patientTurn host program sourceLinePerInstr) nextIp frame.varName machine
      after)
    (loops : machine.forStack = frame :: outer)
    (counter : counterOf frame.varName machine =
      some (.int (valueAfter init frame.step turns)))
    (inRange : IsInt (valueAfter init frame.step turns))
    (nextInRange : IsInt (valueAfter init frame.step (turns + 1))) :
    patientTurn host program sourceLinePerInstr after =
      .goesOn (afterNext frame outer (valueAfter init frame.step (turns + 1)) after) := by
  have counted : valueAfter init frame.step turns + frame.step =
      valueAfter init frame.step (turns + 1) := by
    unfold valueAfter
    push_cast
    rw [Int.add_mul]
    omega
  rw [inProgram.turn_after exact body loops counter inRange, counted,
    wrapInt_of_isInt nextInRange]

/-- From its body on, a loop whose values are those of an `int` runs as often as it should. The
induction is on the turns that are left after this one. -/
theorem LoopIn.iterates (inProgram : LoopIn program nextIp variableName frame)
    (exact : HoldsInts Double) {init : Int} (steps : frame.step ≠ 0)
    (inRange : ∀ turns ≤ timesOf init frame.limit frame.step,
      IsInt (valueAfter init frame.step turns))
    {start : Machine Double World}
    (body : ∀ count machine,
      Reaches (patientTurn host program sourceLinePerInstr) count start machine →
      machine.ip = frame.bodyIP → machine.forStack = frame :: outer →
      ∃ after, BodyRuns (patientTurn host program sourceLinePerInstr) nextIp frame.varName
        machine after)
    {left turns : Nat} (total : turns + left + 1 = timesOf init frame.limit frame.step)
    {count : Nat} {machine : Machine Double World}
    (reached : Reaches (patientTurn host program sourceLinePerInstr) count start machine)
    (atBody : machine.ip = frame.bodyIP) (loops : machine.forStack = frame :: outer)
    (counter : counterOf frame.varName machine =
      some (.int (valueAfter init frame.step turns))) :
    ∃ final, Iterates (patientTurn host program sourceLinePerInstr) frame.bodyIP nextIp
        frame.varName ((List.range' turns (left + 1)).map (valueAfter init frame.step))
        machine final ∧
      final.forStack = outer ∧
      counterOf frame.varName final =
        some (.int (valueAfter init frame.step (timesOf init frame.limit frame.step))) := by
  induction left generalizing turns machine count with
  | zero =>
      obtain ⟨after, runs⟩ := body count machine reached atBody loops
      have turned := inProgram.turn_counted exact runs loops counter
        (inRange turns (by omega)) (inRange (turns + 1) (by omega))
      have done : loopIsDone frame (valueAfter init frame.step (turns + 1)) = true :=
        (loopIsDone_iff steps rfl rfl (Nat.succ_pos turns)).mpr (by omega)
      refine ⟨_, .leaves atBody counter runs turned ?_, ?_, ?_⟩
      · simp [afterNext, done, runs.atNext]
      · simp [afterNext, done]
      · rw [counterOf_afterNext, ← total]
  | succ left inductionHypothesis =>
      obtain ⟨after, runs⟩ := body count machine reached atBody loops
      have turned := inProgram.turn_counted exact runs loops counter
        (inRange turns (by omega)) (inRange (turns + 1) (by omega))
      have goesOn : loopIsDone frame (valueAfter init frame.step (turns + 1)) = false := by
        rw [← Bool.not_eq_true, loopIsDone_iff steps rfl rfl (Nat.succ_pos turns)]
        omega
      have stillOpen : (afterNext frame outer (valueAfter init frame.step (turns + 1))
          after).forStack = frame :: outer := by
        simp [afterNext, goesOn]
      obtain ⟨taken, arrives, -⟩ := runs.arrives
      obtain ⟨final, later, out, last⟩ := @inductionHypothesis (turns + 1) (by omega) _ _
        ((reached.trans arrives).trans (.one turned)) (by simp [afterNext, goesOn]) stillOpen
        (counterOf_afterNext _ _ _ _)
      exact ⟨final, .again atBody counter runs turned (stillOpen.trans loops.symm) later, out, last⟩

end Turns

/-! ## Compiled loops -/

section Compiled

variable [Doubles Double] (host : Host Double World)
  (builtins : BasicFunction → Builtin Double World) (lines : List (BasicLine Double))
  (emitted : EmittedProgram Double)

/-- A `FOR` over integers that the machine is about to execute and its `NEXT`: whenever the run
comes to the body with the loop on top, the body comes to the `NEXT`. -/
structure LoopAt (forPosition nextPosition : Nat) (variableName : String)
    (init limit step : Int) (machine : Machine Double World) : Prop where
  isFor : ∃ line initExpr limitExpr stepExpr after, lines[forPosition]? = some line ∧
    line.statement = .forStmt variableName initExpr limitExpr stepExpr ∧
    Program.exec (forHeader host builtins variableName initExpr limitExpr stepExpr)
      machine.memory.environment = (.ok (.int init, .int limit, .int step), after)
  isNext : ∃ line, lines[nextPosition]? = some line ∧ line.statement = .next variableName
  here : machine.ip = lineStart lines forPosition
  ints : IsInt init ∧ IsInt limit ∧ IsInt step
  steps : step ≠ 0
  body : ∀ count start,
    Reaches (patientTurn host emitted.program emitted.sourceLinePerInstr) count machine start →
    start.ip = lineStart lines (forPosition + 1) →
    start.forStack = frameOf (lineStart lines (forPosition + 1)) (uppercase variableName) limit
      step :: machine.forStack →
    ∃ after, BodyRuns (patientTurn host emitted.program emitted.sourceLinePerInstr)
      (lineStart lines nextPosition) (uppercase variableName) start after

variable {host builtins lines emitted} {registry : LanguageRegistry Double World}
  {forPosition nextPosition : Nat} {variableName : String} {init limit step : Int}
  {machine : Machine Double World}

/-- The code before the `FOR_SETUP` evaluates the header and leaves the limit and the step. -/
theorem does_forHeader (has : HasBuiltins host builtins registry) (variableName : String)
    {initExpr limitExpr : Expr Double} {stepExpr : Option (Expr Double)}
    {initCode limitCode countCode : List (Instruction Double)}
    (initCoded : expressionCode "FOR init" initExpr = .ok initCode)
    (limitCoded : expressionCode "FOR limit" limitExpr = .ok limitCode)
    (stepCoded : stepCode stepExpr = .ok countCode) (stack : List (Value Double)) :
    RowDoes host (initCode ++ (coercion variableName ++ [onName .storeVar variableName]) ++
        limitCode ++ countCode) stack
      (forHeader host builtins variableName initExpr limitExpr stepExpr >>= fun values =>
        pure (values.2.2 :: values.2.1 :: stack)) := by
  simp only [forHeader, bind_assoc, pure_bind]
  rw [List.append_assoc, List.append_assoc]
  refine (does_expressionCode has initCoded stack).then_ fun init =>
    (does_assign variableName init stack).then_ fun _ => ?_
  exact (does_expressionCode has limitCoded stack).then_ fun limit =>
    does_stepCode has stepCoded (limit :: stack)

/-- The `FOR` comes to its body with the loop open and the variable at its first value. -/
theorem LoopAt.enters (exact : HoldsInts Double) (has : HasBuiltins host builtins registry)
    (compiled : emit lines = .ok emitted)
    (loop : LoopAt host builtins lines emitted forPosition nextPosition variableName init limit
      step machine) :
    ∃ count entry, Reaches (patientTurn host emitted.program emitted.sourceLinePerInstr) count
        machine entry ∧
      entry.ip = lineStart lines (forPosition + 1) ∧
      entry.forStack = frameOf (lineStart lines (forPosition + 1)) (uppercase variableName) limit
        step :: machine.forStack ∧
      counterOf (uppercase variableName) entry = some (.int init) := by
  obtain ⟨accepted, rfl⟩ := emit_eq_ok.mp compiled
  obtain ⟨line, initExpr, limitExpr, stepExpr, after, found, statement, evaluated⟩ := loop.isFor
  have coded : statementCode false line.statement = .ok line.code :=
    accepted line (List.mem_of_getElem? found)
  have placed := itemsAt_line found
  have nextStart := lineStart_succ found
  rw [statement] at coded
  have coded := onlyOnLineCode_eq_ok coded
  split at coded
  · cases coded
  · obtain ⟨initCode, initCoded, coded⟩ := bind_eq_ok.mp coded
    obtain ⟨limitCode, limitCoded, coded⟩ := bind_eq_ok.mp coded
    obtain ⟨countCode, stepCoded, done⟩ := bind_eq_ok.mp coded
    rw [← Except.ok.inj done] at placed nextStart
    obtain ⟨rowAt, opens, -⟩ := codeAt_append.mp (itemsAt_plain.mp placed)
    rw [← loop.here] at rowAt opens nextStart
    have runs := does_forHeader has variableName initCoded limitCoded stepCoded
      machine.memory.stack machine.ip machine.memory.environment
    rw [Program.exec_bind, evaluated] at runs
    generalize initCode ++ (coercion variableName ++ [onName .storeVar variableName]) ++
      limitCode ++ countCode = row at rowAt opens nextStart runs
    have reached := @reaches_of_row _ _ _ _ _ (assembled lines).sourceLinePerInstr machine _ _
      rowAt runs
    have executed := @exec_forSetup _ _ _ host machine.memory.stack (machine.ip + row.length)
      { machine with
        ip := machine.ip + row.length
        memory :=
          { stack := .int step :: .int limit :: machine.memory.stack, environment := after } }
      (uppercase variableName) (.int step) (.int limit) after rfl
    rw [canonicalVariableName_uppercase, coerceToInt_int exact loop.ints.2.2.1 loop.ints.2.2.2,
      coerceToInt_int exact loop.ints.2.1.1 loop.ints.2.1.2, if_neg loop.steps] at executed
    have atBody : lineStart lines (forPosition + 1) = machine.ip + row.length + 1 := by
      rw [nextStart, Code.ofInstrs, List.length_map, List.length_append, Nat.add_assoc]
      rfl
    have opened := reached.trans (.one (turn_of_flow opens executed))
    refine ⟨_, _, opened, atBody.symm, ?_, ?_⟩
    · rw [atBody]
      rfl
    · have stored := (counter_of_forHeader evaluated).2
      unfold coerced at stored
      rw [coerceToInt_int exact loop.ints.1.1 loop.ints.1.2, ite_self] at stored
      exact stored

/-- What `NEXT` finds in the program of a loop. -/
theorem LoopAt.inProgram (compiled : emit lines = .ok emitted)
    (loop : LoopAt host builtins lines emitted forPosition nextPosition variableName init limit
      step machine) :
    LoopIn emitted.program (lineStart lines nextPosition) variableName
      (frameOf (lineStart lines (forPosition + 1)) (uppercase variableName) limit step) where
  closes := by
    obtain ⟨accepted, rfl⟩ := emit_eq_ok.mp compiled
    obtain ⟨line, found, statement⟩ := loop.isNext
    have coded : statementCode false line.statement = .ok line.code :=
      accepted line (List.mem_of_getElem? found)
    have placed := itemsAt_line found
    rw [statement] at coded
    rw [← Except.ok.inj coded] at placed
    exact (itemsAt_cons.mp placed).1
  named := rfl
  writable := by
    obtain ⟨_, _, _, _, _, -, -, evaluated⟩ := loop.isFor
    exact (counter_of_forHeader evaluated).1

/-- A loop that counts as it should leaves with a value of an `int`. -/
theorem LoopAt.isInt_of_counts (exact : HoldsInts Double) (compiled : emit lines = .ok emitted)
    (loop : LoopAt host builtins lines emitted forPosition nextPosition variableName init limit
      step machine)
    (counts : Counts (patientTurn host emitted.program emitted.sourceLinePerInstr)
      (lineStart lines (forPosition + 1)) (lineStart lines nextPosition)
      (uppercase variableName) init limit step machine) :
    IsInt (valueAfter init step (timesOf init limit step)) := by
  obtain ⟨count, entry, final, reached, opened, iterates, -, last⟩ := counts
  have first : counterOf (uppercase variableName) entry = some (.int init) := by
    obtain ⟨more, times⟩ := Nat.exists_eq_succ_of_ne_zero (timesOf_pos init limit step).ne'
    rw [times, Nat.succ_eq_add_one, List.range_succ_eq_map, List.map_cons] at iterates
    rw [iterates.counter, valueAfter, Int.natCast_zero, Int.zero_mul, Int.add_zero]
  obtain ⟨value, counter, inRange⟩ := (loop.inProgram compiled).isInt_of_iterates exact iterates
    opened fun value same => by
      obtain rfl : init = value := by simpa using first.symm.trans same
      exact loop.ints.1
  obtain rfl : value = valueAfter init step (timesOf init limit step) := by
    simpa using counter.symm.trans last
  exact inRange

/-- A compiled loop runs its body as often as its bounds say, with the values that they say, and
leaves, exactly when the value it leaves with is one of an `int`. -/
theorem compiled_loop_counts_iff (exact : HoldsInts Double)
    (has : HasBuiltins host builtins registry) (compiled : emit lines = .ok emitted)
    (loop : LoopAt host builtins lines emitted forPosition nextPosition variableName init limit
      step machine) :
    Counts (patientTurn host emitted.program emitted.sourceLinePerInstr)
        (lineStart lines (forPosition + 1)) (lineStart lines nextPosition)
        (uppercase variableName) init limit step machine ↔
      IsInt (valueAfter init step (timesOf init limit step)) := by
  refine ⟨loop.isInt_of_counts exact compiled, fun lastInRange => ?_⟩
  obtain ⟨count, entry, reached, atBody, opened, counter⟩ := loop.enters exact has compiled
  have starts : counterOf (uppercase variableName) entry =
      some (.int (valueAfter init step 0)) := by
    rw [counter, valueAfter, Int.natCast_zero, Int.zero_mul, Int.add_zero]
  have total : 0 + (timesOf init limit step - 1) + 1 = timesOf init limit step := by
    have := timesOf_pos init limit step
    omega
  obtain ⟨final, iterates, out, last⟩ := (loop.inProgram compiled).iterates exact loop.steps
    (fun turns before => isInt_between loop.ints.1 lastInRange before) loop.body total reached
    atBody opened starts
  refine ⟨count, entry, final, reached, opened, ?_, out, last⟩
  rwa [← total, Nat.zero_add, List.range_eq_range']

end Compiled

/-- `10 FOR I% = init TO limit`, `20 PRINT "*";`, `30 NEXT I%`. -/
def starLines (init limit : Int) : List (BasicLine Int) :=
  [{ lineNumber := 10, statement := .forStmt "I%" (.intLiteral init) (.intLiteral limit) none },
    { lineNumber := 20, statement := .print (.stringLiteral "*") true },
    { lineNumber := 30, statement := .next "I%" }]

/-- The code of the lines, as the compiler emits it. -/
def starProgram (init limit : Int) : EmittedProgram Int where
  program := [pushInt init, { op := .coerceInt }, onName .storeVar "I%", pushInt limit, pushInt 1,
    onName .forSetup "I%", { op := .pushStr, operand := .string "*" }, { op := .printVal },
    onName .forNext "I%", haltInstr]
  sourceLinePerInstr := [10, 10, 10, 10, 10, 10, 20, 20, 30, 0]

/-- A host that has the builtins and no files. -/
def starHost : Host Int Unit := { languageRegistry := some zeroRegistry }

/-- A turn of the machine on the program. -/
def starTurn (init limit : Int) : Machine Int Unit → Turn (Machine Int Unit) (Outcome Int Unit) :=
  @patientTurn Int Unit signedDoubles starHost (starProgram init limit).program
    (starProgram init limit).sourceLinePerInstr

/-- The body, which prints a star, comes to its end. -/
theorem starBody_runs (init limit : Int) {start : Machine Int Unit} (atBody : start.ip = 6) :
    ∃ after, BodyRuns (starTurn init limit) 8 (uppercase "I%") start after := by
  obtain ⟨ip, callStack, forStack, onErrorIp, ⟨stack, environment⟩⟩ := start
  obtain rfl : ip = 6 := atBody
  have pushed : starTurn init limit ⟨6, callStack, forStack, onErrorIp, ⟨stack, environment⟩⟩ =
      .goesOn ⟨7, callStack, forStack, onErrorIp, ⟨.string "*" :: stack, environment⟩⟩ := rfl
  have printed : starTurn init limit
      ⟨7, callStack, forStack, onErrorIp, ⟨.string "*" :: stack, environment⟩⟩ =
        .goesOn ⟨8, callStack, forStack, onErrorIp,
          ⟨stack, { environment with output := environment.output ++ "*" }⟩⟩ := rfl
  refine ⟨_, ⟨2, .next pushed (.one printed), ?_⟩, rfl, rfl, rfl⟩
  intro earlier before between reached
  rcases reached with _ | ⟨taken, reached⟩
  · exact Nat.ne_of_beq_eq_false rfl
  · rw [pushed] at taken
    cases taken
    rcases reached with _ | ⟨taken, reached⟩
    · exact Nat.ne_of_beq_eq_false rfl
    · omega

/-- The loop of the program, which counts from `init` to `limit`. -/
theorem starLoop {init limit : Int} (first : IsInt init) (last : IsInt limit) :
    @LoopAt Int Unit signedDoubles starHost zeroBuiltins (starLines init limit)
      (starProgram init limit) 0 2 "I%" init limit 1 (VM.loadProgram [] ()) := by
  have isFor : Program.exec (@forHeader Int Unit signedDoubles starHost zeroBuiltins "I%"
      (.intLiteral init) (.intLiteral limit) none) { input := [], world := () } =
        (.ok (.int init, .int limit, .int 1),
          { variableMap := AList.insert (uppercase "I%") (.int init) ∅, input := [], world := () }) := by
    have writable : isReadOnlySystemVariableName (uppercase "I%") = false := by decide +kernel
    have stored : @coerced Int signedDoubles "I%" (.int init) = .int init :=
      congrArg Value.int
        (@coerceToInt_int Int signedDoubles signedDoubles_holdsInts init first.1 first.2)
    simp [forHeader, evaluate, assign, requireWritable, writable, stored]
    rfl
  exact @LoopAt.mk Int Unit signedDoubles starHost zeroBuiltins (starLines init limit)
    (starProgram init limit) 0 2 "I%" init limit 1 (VM.loadProgram [] ())
    ⟨_, _, _, _, _, rfl, rfl, isFor⟩ ⟨_, rfl, rfl⟩ rfl ⟨first, last, by decide⟩ (by decide)
    fun count start reached atBody opened => starBody_runs init limit atBody

/-- The host has the zero builtins. -/
theorem starLoop_hasBuiltins : HasBuiltins starHost zeroBuiltins zeroRegistry where
  bound := rfl
  registered := rfl

/-- From 1 to 3 the loop prints its stars and counts. -/
theorem starLoop_counts :
    Counts (starTurn 1 3) 6 8 (uppercase "I%") 1 3 1 (VM.loadProgram [] ()) :=
  (@compiled_loop_counts_iff Int Unit signedDoubles _ _ _ _ _ _ _ _ _ _ _ _ signedDoubles_holdsInts
    starLoop_hasBuiltins rfl (starLoop (by decide) (by decide))).mpr (by decide)

/-- A loop to the greatest `int` does not end as it should. -/
theorem starLoop_to_intMax_miscounts :
    @LoopAt Int Unit signedDoubles starHost zeroBuiltins (starLines intMax intMax)
        (starProgram intMax intMax) 0 2 "I%" intMax intMax 1 (VM.loadProgram [] ()) ∧
      ¬ Counts (starTurn intMax intMax) 6 8 (uppercase "I%") intMax intMax 1
        (VM.loadProgram [] ()) := by
  have loop := @starLoop intMax intMax (by decide) (by decide)
  refine ⟨loop, fun counts => ?_⟩
  have inRange := @LoopAt.isInt_of_counts Int Unit signedDoubles _ _ _ _ _ _ _ _ _ _ _
    signedDoubles_holdsInts rfl loop counts
  exact absurd inRange (by decide)

end Gemini.Basic
