import Gemini.Basic.Interpreter
import Gemini.Basic.Shape
import Gemini.VM.InstructionEffects

/-!
# The code of an expression evaluates it

The code that is emitted for an expression does to the environment what evaluating the
expression does, and leaves the value on the stack, on whatever stack it starts.
-/

namespace Gemini.Basic

open Gemini.Data
open Gemini.Semantics
open Gemini.VM

variable {Double World : Type}

/-! ## Builtins -/

/-- The handler of a builtin takes the arguments from the stack, the last of them first, and
leaves the value there. -/
def Builtin.handler (arity : Nat) (builtin : Builtin Double World) : Handler Double World :=
  fun status stack => do
    let value ← builtin status (stack.take arity).reverse
    return value :: stack.drop arity

/-- A host whose registry has these builtins. -/
structure HasBuiltins (host : Host Double World)
    (builtins : BasicFunction → Builtin Double World) (registry : LanguageRegistry Double World) :
    Prop where
  bound : host.languageRegistry = some registry
  registered : registry kNamespaceIdBasic = some
    (registerBasicLanguage fun function => (builtins function).handler function.arity)

section Evaluation

variable [Doubles Double] {host : Host Double World}
  {builtins : BasicFunction → Builtin Double World} {registry : LanguageRegistry Double World}

omit [Doubles Double] in
/-- A call of a function takes its arguments from the stack and leaves its result. -/
theorem onStack_callFunc (has : HasBuiltins host builtins registry) {call : CallFuncOperand}
    {function : BasicFunction} (calls : call.Calls function) {arguments : List (Value Double)}
    (enough : arguments.length = function.arity) (stack : List (Value Double)) :
    OnStack (arguments.reverse ++ stack) (callFunc host call)
      ((builtins function).run arguments >>= fun value => pure (value :: stack)) := by
  obtain ⟨inBasic, number, arity⟩ := calls
  have entry : (registerBasicLanguage fun function =>
        (builtins function).handler function.arity)[function.id]? =
      some
        { arity := function.arity, fn := some ((builtins function).handler function.arity) } := by
    simp [registerBasicLanguage, BasicFunction.all_id]
  have taken : (arguments.reverse ++ stack).take function.arity = arguments.reverse :=
    List.take_left' (by rw [List.length_reverse, enough])
  have left : (arguments.reverse ++ stack).drop function.arity = stack :=
    List.drop_left' (by rw [List.length_reverse, enough])
  have present : ¬ ((arguments.reverse ++ stack).length : Int) < function.arity := by
    rw [List.length_append, List.length_reverse, enough]
    omega
  intro environment
  simp only [callFunc, has.bound, Program.exec_bind, Program.exec_get, present, arity, if_false,
    dispatch, inBasic, has.registered, number, entry, ne_eq, not_true_eq_false, runHandler,
    onEnvironment, Program.exec_zoom, attempt, Program.exec_caught, Builtin.handler, taken, left,
    List.reverse_reverse, Builtin.run]
  rcases Program.exec (builtins function environment.statusCode arguments) environment.world
    with ⟨what | value, world⟩
  · exact ⟨_, rfl⟩
  · rfl

/-! ## Expressions -/

omit [Doubles Double] in
theorem liftResult_bind (result : Except Fault (Value Double)) (stack : List (Value Double)) :
    (liftResult result >>= fun value => pure (value :: stack) :
        EnvironmentM Double World (List (Value Double))) =
      match result with
      | .ok value => pure (value :: stack)
      | .error fault => throw fault := by
  cases result <;> rfl

/-- The instruction of an operator does what the operator does to two values. -/
theorem does_binary (op : BinaryOp) (a b : Value Double) (stack : List (Value Double)) :
    RowDoes host [{ op := op.toOpCode }] (b :: a :: stack)
      (liftResult (op.apply a b) >>= fun value => pure (value :: stack)) := by
  rw [liftResult_bind]
  cases op <;> exact .one fun _ => ⟨_, rfl, onStack_binary _ a b⟩

/-- Loading a variable leaves its value on the stack. -/
theorem does_onName_loadVar (name : String) (stack : List (Value Double)) :
    RowDoes host [onName .loadVar name] stack
      (loadVariable host (uppercase name) >>= fun value => pure (value :: stack)) := by
  have loads := @does_loadVar Double World _ host stack (uppercase name)
  rwa [canonicalVariableName_uppercase] at loads

/-- The arguments of a call that are there, and the one that is added. -/
theorem does_emitCall (has : HasBuiltins host builtins registry) {name : String}
    {given : List (Value Double)} {code : List (Instruction Double)}
    (emitted : emitCall name given.length = .ok code) (stack : List (Value Double)) :
    RowDoes host code (given.reverse ++ stack)
      (callBuiltin builtins name given >>= fun value => pure (value :: stack)) := by
  have call {arguments : List (Value Double)} {function : BasicFunction}
      (found : functionIdForCall name arguments.length = some function) :
      RowDoes host
        [({ op := .callFunc,
            callFunc := { namespaceId := kNamespaceIdBasic, functionId := function.id,
                          argCount := arguments.length } } : Instruction Double)]
        (arguments.reverse ++ stack)
        ((builtins function).run arguments >>= fun value => pure (value :: stack)) := by
    have arity := arity_of_functionIdForCall found
    exact .one fun _ => ⟨_, rfl, onStack_callFunc has ⟨rfl, rfl, arity⟩ (by omega) stack⟩
  unfold emitCall at emitted
  unfold callBuiltin completed
  dsimp only at emitted
  by_cases short : name = "INDEX" ∧ given.length = 2
  · have size : (given ++ [Value.int 1]).length = 3 := by
      rw [List.length_append, short.2]
      rfl
    simp only [if_pos short] at emitted ⊢
    rw [size]
    cases found : functionIdForCall name ((3 : ℕ) : ℤ) with
    | none =>
        rw [found] at emitted
        cases emitted
    | some function =>
        rw [found] at emitted
        cases emitted
        have called := @call (given ++ [.int 1]) function (by rw [size]; exact found)
        rw [size, List.reverse_append] at called
        exact (does_pushInt 1).pureThen called
  · simp only [if_neg short] at emitted ⊢
    cases found : functionIdForCall name given.length with
    | none =>
        rw [found] at emitted
        cases emitted
    | some function =>
        rw [found] at emitted
        cases emitted
        exact call found

/-- Arguments that are evaluated are as many values. -/
theorem length_of_evaluateAll {arguments : List (Expr Double)} {values : List (Value Double)}
    {environment after : Environment Double World}
    (ran : Program.exec (evaluateAll host builtins arguments) environment = (.ok values, after)) :
    values.length = arguments.length := by
  induction arguments generalizing values environment with
  | nil =>
      cases ran
      rfl
  | cons argument rest inductionHypothesis =>
      unfold evaluateAll at ran
      obtain ⟨value, middle, -, ran⟩ := Program.exec_bind_eq_ok.mp ran
      obtain ⟨others, final, ranRest, done⟩ := Program.exec_bind_eq_ok.mp ran
      cases done
      rw [List.length_cons, List.length_cons, inductionHypothesis ranRest]

section Expressions

mutual

/-- The code of an expression evaluates it onto the stack. -/
theorem does_emitNode (has : HasBuiltins host builtins registry) :
    (expression : Expr Double) → {inArithmetic : Bool} →
    {code : List (Instruction Double)} → emitNode expression inArithmetic = .ok code →
    (stack : List (Value Double)) →
    RowDoes host code stack
      (evaluate host builtins expression >>= fun value => pure (value :: stack))
  | .intLiteral value, _, _, emitted, stack => by
      cases emitted
      exact does_pushInt value
  | .floatLiteral value, _, _, emitted, stack => by
      cases emitted
      exact does_pushFlt value
  | .stringLiteral value, _, _, emitted, stack => by
      cases emitted
      exact does_pushStr value
  | .dictField token, _, _, emitted, stack => by
      unfold emitNode at emitted
      split at emitted
      · cases emitted
      · split at emitted
        · cases emitted
        · cases emitted
          exact does_pushStr token
  | .identifier name, _, _, emitted, stack => by
      unfold emitNode at emitted
      split at emitted
      · cases emitted
      · split at emitted
        · cases emitted
        · cases emitted
          exact does_onName_loadVar name stack
  | .negate operand, _, _, emitted, stack => by
      obtain ⟨operandCode, operandEmitted, done⟩ := bind_eq_ok.mp emitted
      cases done
      unfold evaluate
      rw [bind_assoc]
      exact (does_pushInt 0).pureThen
        ((does_emitNode has operand operandEmitted _).then_ fun value =>
          does_binary .subtract (.int 0) value stack)
  | .binary op left right, _, _, emitted, stack => by
      obtain ⟨leftCode, leftEmitted, emitted⟩ := bind_eq_ok.mp emitted
      obtain ⟨rightCode, rightEmitted, done⟩ := bind_eq_ok.mp emitted
      cases done
      simp only [evaluate, bind_assoc]
      rw [List.append_assoc]
      exact (does_emitNode has left leftEmitted _).then_ fun a =>
        (does_emitNode has right rightEmitted _).then_ fun b => does_binary op a b stack
  | .grouped expression, _, _, emitted, stack => does_emitNode has expression emitted stack
  | .subscript varName index, _, _, emitted, stack => by
      unfold emitNode at emitted
      split at emitted
      · cases emitted
      · split at emitted
        · cases emitted
        · obtain ⟨indexCode, indexEmitted, done⟩ := bind_eq_ok.mp emitted
          cases done
          simp only [evaluate, bind_assoc]
          refine (does_emitNode has index indexEmitted stack).then_ fun index => ?_
          have loads := @does_loadArr Double World _ host stack (uppercase varName) index
          rwa [canonicalVariableName_uppercase] at loads
  | .attributeAccess varName attr, _, _, emitted, stack => by
      unfold emitNode at emitted
      split at emitted
      · cases emitted
      · obtain ⟨attrCode, attrEmitted, done⟩ := bind_eq_ok.mp emitted
        cases done
        simp only [evaluate, bind_assoc]
        exact (does_onName_loadVar varName stack).then_ fun record =>
          (does_emitNode has attr attrEmitted _).then_ fun attr =>
            (does_pushInt 0).pureThen (does_extractAttr record attr (.int 0))
  | .valueAccess varName attr valueIndex, _, _, emitted, stack => by
      unfold emitNode at emitted
      split at emitted
      · cases emitted
      · obtain ⟨attrCode, attrEmitted, emitted⟩ := bind_eq_ok.mp emitted
        obtain ⟨indexCode, indexEmitted, done⟩ := bind_eq_ok.mp emitted
        cases done
        simp only [evaluate, bind_assoc]
        rw [List.append_assoc]
        exact (does_onName_loadVar varName stack).then_ fun record =>
          (does_emitNode has attr attrEmitted _).then_ fun attr =>
            (does_emitNode has valueIndex indexEmitted _).then_ fun valueIndex =>
              does_extractAttr record attr valueIndex
  | .functionCall name arguments, _, _, emitted, stack => by
      obtain ⟨_, -, emitted⟩ := bind_eq_ok.mp emitted
      obtain ⟨argumentCode, argumentsEmitted, emitted⟩ := bind_eq_ok.mp emitted
      obtain ⟨callCode, callEmitted, done⟩ := bind_eq_ok.mp emitted
      cases done
      simp only [evaluate, bind_assoc]
      refine (does_emitArguments has arguments argumentsEmitted stack).andThen ?_
      rintro values ⟨environment, after, ran⟩
      rw [← length_of_evaluateAll ran] at callEmitted
      exact does_emitCall has callEmitted stack

/-- The code of the arguments leaves their values on the stack, the last one on top. -/
theorem does_emitArguments (has : HasBuiltins host builtins registry) :
    (arguments : List (Expr Double)) → {name : String} → {argIndex : Nat} →
    {code : List (Instruction Double)} →
    emitArguments name argIndex arguments = .ok code → (stack : List (Value Double)) →
    RowDoes host code stack
      (evaluateAll host builtins arguments >>= fun values => pure (values.reverse ++ stack))
  | [], _, _, _, emitted, stack => by
      cases emitted
      exact .nil
  | argument :: rest, _, _, _, emitted, stack => by
      obtain ⟨code, argumentEmitted, emitted⟩ := bind_eq_ok.mp emitted
      obtain ⟨restCode, restEmitted, done⟩ := bind_eq_ok.mp emitted
      cases done
      simp only [evaluateAll, bind_assoc, pure_bind]
      refine (does_emitNode has argument argumentEmitted stack).then_ fun value => ?_
      simpa using does_emitArguments has rest restEmitted (value :: stack)

end

variable (has : HasBuiltins host builtins registry)

include has

/-- The code of an expression leaves its value on the stack. -/
theorem does_expressionCode {context : String} {expression : Expr Double}
    {code : List (Instruction Double)} (coded : expressionCode context expression = .ok code)
    (stack : List (Value Double)) :
    RowDoes host code stack
      (evaluate host builtins expression >>= fun value => pure (value :: stack)) := by
  unfold expressionCode at coded
  split at coded
  · next code emitted =>
      cases coded
      exact does_emitNode has expression emitted stack
  · cases coded

/-! ## Assignments, prompts and steps -/

omit has in
/-- A coercion turns the value on the stack into an `int` when the variable takes only these. -/
theorem does_coercion (variableName : String) (value : Value Double)
    (stack : List (Value Double)) :
    RowDoes host (coercion variableName) (value :: stack)
      (pure (coerced variableName value :: stack)) := by
  unfold coercion coerced
  split
  · exact does_coerceInt value
  · exact .nil

omit has in
/-- The code of an assignment assigns. -/
theorem does_assign (variableName : String) (value : Value Double) (stack : List (Value Double)) :
    RowDoes host (coercion variableName ++ [onName .storeVar variableName]) (value :: stack)
      (assign variableName value >>= fun _ => pure stack) := by
  have stores := @does_storeVar Double World _ host stack (uppercase variableName)
    (coerced variableName value)
  rw [canonicalVariableName_uppercase] at stores
  rw [assign, bind_assoc]
  exact (does_coercion variableName value stack).pureThen stores

/-- The code of a prompt prints the prompt, if there is one. -/
theorem does_promptCode {promptExpr : Option (Expr Double)} {code : List (Instruction Double)}
    (coded : promptCode promptExpr = .ok code) (stack : List (Value Double)) :
    RowDoes host code stack (promptFor host builtins promptExpr >>= fun _ => pure stack) := by
  cases promptExpr with
  | none =>
      cases coded
      exact .nil
  | some promptExpr =>
      obtain ⟨text, textCoded, done⟩ := bind_eq_ok.mp coded
      cases done
      simp only [promptFor, bind_assoc]
      exact (does_expressionCode has textCoded stack).then_ fun value => does_printVal value

/-- The code of a step leaves the step on the stack, which is 1 without a `STEP`. -/
theorem does_stepCode {stepExpr : Option (Expr Double)} {code : List (Instruction Double)}
    (coded : stepCode stepExpr = .ok code) (stack : List (Value Double)) :
    RowDoes host code stack
      (stepOf host builtins stepExpr >>= fun value => pure (value :: stack)) := by
  cases stepExpr with
  | none =>
      cases coded
      exact does_pushInt 1
  | some stepExpr => exact does_expressionCode has coded stack

end Expressions

end Evaluation

end Gemini.Basic
