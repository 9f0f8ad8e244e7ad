import Gemini.Conversion.Codes
import Gemini.Data.Checked
import Gemini.English.IExpressionRoundTrip
import Gemini.English.Numbers
import Gemini.PickFS.StructuredRecord
import Gemini.Semantics.Signals

/-!
# The evaluator of I-type expressions

`IExpressionEvaluator::evaluate`. The routines of the source return a value or nothing, and leave
the text of an error in a string that they share; a condition is a plain truth value. `strict` is
the evaluation from left to right that stops at the first failure.
-/

namespace Gemini.English

open Gemini.Conversion (iconvNumber iconvOutput iconvOutputImpl oconvOutput oconvOutputImpl trimmed
  upperCopy)
open Gemini.Data (bind_eq_error bind_pure_eq_error pure_eq_error)
open Gemini.PickFS (StructuredRecord)
open Gemini.Semantics (Routine Signals TestSignals)
open Gemini.VM (Doubles)

/-- The operations on `double` that the evaluator uses besides those of the machine. -/
class EvaluatorDoubles (Number : Type) extends Doubles Number, Stod Number, Zero Number where
  neg : Number → Number
  isFinite : Number → Bool
  trunc : Number → Number
  /-- The cast to `long long`. -/
  toLongLong : Number → ℤ

namespace IType

/-! ## Values -/

/-- A value of the evaluation: a number or a text. -/
inductive EvalValue (Number : Type) where
  | numeric (number : Number)
  | text (text : String)
deriving DecidableEq

section Values

variable {Number : Type} [EvaluatorDoubles Number]

/-- A number as a text, whole numbers without a fraction. -/
def formatNumericResult (value : Number) : String :=
  if EvaluatorDoubles.isFinite value && Doubles.eq (EvaluatorDoubles.trunc value) value then
    toString (EvaluatorDoubles.toLongLong value)
  else
    let s := Doubles.print 15 value
    if '.' ∈ s then
      let digits := s.rdropWhile (· = '0')
      String.ofList (if digits.getLast? = some '.' then digits.dropLast else digits)
    else String.ofList s

/-- `evalValueToString`. -/
def EvalValue.toText : EvalValue Number → String
  | .text content => content
  | .numeric value => formatNumericResult value

/-- The first value of an attribute; an attribute that is missing is empty. -/
def fieldCellText (dataRecord : StructuredRecord) (attributeNo : ℕ) : String :=
  if dataRecord.hasAttribute attributeNo then (dataRecord.attributeAt attributeNo).firstValue
  else ""

/-- The comparison of two numbers. -/
def compareNumbers (op : ICompareOp) (l r : Number) : Bool :=
  match op with
  | .eq => Doubles.eq l r
  | .ne => !Doubles.eq l r
  | .lt => Doubles.lt l r
  | .le => Doubles.le l r
  | .gt => Doubles.lt r l
  | .ge => Doubles.le r l

/-- The comparison of two texts. -/
def compareTexts (op : ICompareOp) (l r : String) : Bool :=
  match op with
  | .eq => (compare l r).isEq
  | .ne => (compare l r).isNe
  | .lt => (compare l r).isLT
  | .le => (compare l r).isLE
  | .gt => (compare l r).isGT
  | .ge => (compare l r).isGE

/-- Values are compared as numbers when both are, and else as texts. -/
def compareValues (left right : EvalValue Number) (op : ICompareOp) : Bool :=
  match left, right with
  | .numeric l, .numeric r => compareNumbers op l r
  | left, right =>
      match (tryCoerceNumeric left.toText : Option Number), tryCoerceNumeric right.toText with
      | some ln, some rn => compareNumbers op ln rn
      | _, _ => compareTexts op left.toText right.toText

/-! ## The evaluator -/

/-- The evaluator returns nothing when it fails, and leaves an error in the text. -/
abbrev Evaluator (Result : Type) := Routine String Result

/-- What `evaluateNumeric` does with a value. -/
def numericOf : EvalValue Number → Evaluator Number
  | .numeric number => return number
  | .text text =>
      match tryCoerceNumeric text with
      | some n => return n
      | none => .fail "I-type: type mismatch"

/-- An operation on two numbers; a division by zero leaves an error. -/
def arithmetic (op : Char) (left right : Number) : Evaluator Number :=
  match op with
  | '+' => return Doubles.add left right
  | '-' => return Doubles.sub left right
  | '*' => return Doubles.mul left right
  | '/' =>
      if Doubles.eq right 0 then .fail "I-type: division by zero"
      else return Doubles.div left right
  | _ => .fail "I-type: invalid expression"

variable (Number) in
/-- The conversion that a call asks for. -/
def callOutput (kind : ICallKind) (input code : String) : Except String String :=
  match kind with
  | .oconv => oconvOutput Number input code
  | .iconv => iconvOutput input code

/-- A text, or the error that a conversion has left; the conversion clears the error first. -/
def convertedText (output : Except String String) : Evaluator String := do
  set ""
  match output with
  | .ok text => return text
  | .error message => .fail message

/-- A comparison as a condition; a side that fails makes it false. -/
def compareCondition (op : ICompareOp) (left right : Evaluator (EvalValue Number)) :
    StateM String Bool :=
  left.orFalse fun l => right.orFalse fun r => return compareValues l r op

/-- A number as a condition: true unless it is 0. -/
def numericCondition (value : Evaluator (EvalValue Number)) : StateM String Bool :=
  (do numericOf (← value) : Evaluator Number).orFalse fun numeric => return !Doubles.eq numeric 0

variable (dataRecord : StructuredRecord)

/-- `evaluateValue`. -/
def evaluateValue : IExpr Number → Evaluator (EvalValue Number)
  | .number value => return .numeric value
  | .string value => return .text value
  | .field attributeNo => return .text (fieldCellText dataRecord attributeNo)
  | .unary op operand => do
      let value ← numericOf (← evaluateValue operand)
      return .numeric (if op = '-' then EvaluatorDoubles.neg value else value)
  | .binary op left right => do
      let l ← numericOf (← evaluateValue left)
      let r ← numericOf (← evaluateValue right)
      return .numeric (← arithmetic op l r)
  | .ifThenElse condition thenExpr elseExpr =>
      .branch ""
        (match condition with
          | .compare op left right =>
              compareCondition op (evaluateValue left) (evaluateValue right)
          | condition => numericCondition (evaluateValue condition))
        (evaluateValue thenExpr) (evaluateValue elseExpr)
  | .call kind valueArg codeArg => do
      let input ← evaluateValue valueArg
      let code ← evaluateValue codeArg
      return .text (← convertedText (callOutput Number kind input.toText code.toText))
  | .compare _ _ _ => .fail "I-type: invalid expression"

/-- `evaluateCondition`. -/
def evaluateCondition : IExpr Number → StateM String Bool
  | .compare op left right =>
      compareCondition op (evaluateValue dataRecord left) (evaluateValue dataRecord right)
  | condition => numericCondition (evaluateValue dataRecord condition)

/-- A condition that leaves an error ends the evaluation. -/
theorem evaluateValue_ifThenElse (condition thenExpr elseExpr : IExpr Number) :
    evaluateValue dataRecord (.ifThenElse condition thenExpr elseExpr) =
      .branch "" (evaluateCondition dataRecord condition) (evaluateValue dataRecord thenExpr)
        (evaluateValue dataRecord elseExpr) := by
  cases condition <;> rfl

/-- `IExpressionEvaluator::evaluate`. -/
def evaluate (expr : IExpr Number) : Evaluator String := do
  set ""
  return (← evaluateValue dataRecord expr).toText

/-! ## Evaluation from left to right -/

/-- Why an expression has no value. -/
inductive Failure where
  | divisionByZero
  | typeMismatch
  | iconvInput (code : String)
  | iconvCode (code : String)
  | oconvCode (code : String)
  | invalidExpression
deriving DecidableEq

/-- The text of a failure. -/
def Failure.message : Failure → String
  | .divisionByZero => "I-type: division by zero"
  | .typeMismatch => "I-type: type mismatch"
  | .iconvInput code => "I-type: invalid ICONV \"" ++ code ++ "\" input"
  | .iconvCode code => "I-type: unsupported conversion code \"" ++ code ++ "\""
  | .oconvCode code => "F-type: unsupported conversion code \"" ++ code ++ "\""
  | .invalidExpression => "I-type: invalid expression"

/-- The number of a value, or a type mismatch. -/
def asNumber : EvalValue Number → Except Failure Number
  | .numeric number => .ok number
  | .text text => (tryCoerceNumeric text).elim (.error .typeMismatch) .ok

/-- An operation on two numbers, or its failure. -/
def computed (op : Char) (left right : Number) : Except Failure Number :=
  match op with
  | '+' => .ok (Doubles.add left right)
  | '-' => .ok (Doubles.sub left right)
  | '*' => .ok (Doubles.mul left right)
  | '/' =>
      if Doubles.eq right 0 then .error .divisionByZero else .ok (Doubles.div left right)
  | _ => .error .invalidExpression

/-- What a conversion that fails says: `ICONV` tells a code that it knows from others. -/
def conversionFailure (kind : ICallKind) (code : String) : Failure :=
  match kind with
  | .oconv => .oconvCode (trimmed code)
  | .iconv =>
      if upperCopy (trimmed code) ∈ ["D", "MT", "MTS", "MD", "MD2"] then .iconvInput (trimmed code)
      else .iconvCode (trimmed code)

variable (Number) in
/-- A conversion, or its failure. -/
def converted (kind : ICallKind) (input code : String) : Except Failure String :=
  (callOutput Number kind input code).mapError fun _ => conversionFailure kind code

/-- Operands are evaluated from left to right, the first failure is that of the whole, and of the
branches of an `IF` the one is evaluated that the condition chooses. -/
def strict : IExpr Number → Except Failure (EvalValue Number)
  | .number value => .ok (.numeric value)
  | .string value => .ok (.text value)
  | .field attributeNo => .ok (.text (fieldCellText dataRecord attributeNo))
  | .unary op operand => do
      let value ← asNumber (← strict operand)
      return .numeric (if op = '-' then EvaluatorDoubles.neg value else value)
  | .binary op left right => do
      let l ← asNumber (← strict left)
      let r ← asNumber (← strict right)
      return .numeric (← computed op l r)
  | .ifThenElse condition thenExpr elseExpr => do
      let truth ← (match condition with
        | .compare op left right => do return compareValues (← strict left) (← strict right) op
        | condition => do return !Doubles.eq (← asNumber (← strict condition)) 0)
      if truth then strict thenExpr else strict elseExpr
  | .call kind valueArg codeArg => do
      let input ← strict valueArg
      let code ← strict codeArg
      return .text (← converted Number kind input.toText code.toText)
  | .compare _ _ _ => .error .invalidExpression

/-- What a condition decides. -/
def decided : IExpr Number → Except Failure Bool
  | .compare op left right => do
      return compareValues (← strict dataRecord left) (← strict dataRecord right) op
  | condition => do return !Doubles.eq (← asNumber (← strict dataRecord condition)) 0

/-- Strictly, a condition that fails makes the whole fail. -/
theorem strict_ifThenElse (condition thenExpr elseExpr : IExpr Number) :
    strict dataRecord (.ifThenElse condition thenExpr elseExpr) =
      (decided dataRecord condition >>= fun truth =>
        if truth then strict dataRecord thenExpr else strict dataRecord elseExpr) := by
  cases condition <;> rfl

/-! ## The two channels -/

/-- A text that starts with another one is not empty. -/
theorem append_ne_empty {front : String} (some : front ≠ "") (back : String) :
    front ++ back ≠ "" := by
  intro empty
  rw [String.append_eq_empty_iff] at empty
  exact some empty.1

/-- No failure has an empty text. -/
theorem Failure.message_ne (failure : Failure) : failure.message ≠ "" := by
  cases failure with
  | iconvInput code => exact append_ne_empty (append_ne_empty (by decide) _) _
  | iconvCode code => exact append_ne_empty (append_ne_empty (by decide) _) _
  | oconvCode code => exact append_ne_empty (append_ne_empty (by decide) _) _
  | divisionByZero => decide
  | typeMismatch => decide
  | invalidExpression => decide

/-- The evaluator signals a value that is no number. -/
theorem signals_numericOf (value : EvalValue Number) :
    Signals "" Failure.message (numericOf value) (asNumber value) := by
  cases value with
  | numeric number => exact .pure number
  | text text =>
      unfold numericOf asNumber
      dsimp only
      cases (tryCoerceNumeric text : Option Number) with
      | none => exact .fail Failure.typeMismatch
      | some n => exact .pure n

/-- It signals a division by zero. -/
theorem signals_arithmetic (op : Char) (left right : Number) :
    Signals "" Failure.message (arithmetic op left right) (computed op left right) := by
  unfold arithmetic computed
  split
  · exact .pure _
  · exact .pure _
  · exact .pure _
  · split
    · exact .fail Failure.divisionByZero
    · exact .pure _
  · exact .fail Failure.invalidExpression

/-- `ICONV` for ENGLISH has no error of its own. -/
theorem iconvOutputImpl_ok (value code : String) :
    ∃ out, iconvOutputImpl value code false = .ok out := by
  have ofNumber : ∀ number : Option ℤ, ∃ out, iconvNumber number code false = .ok out := by
    intro number
    cases number with
    | none => exact ⟨_, rfl⟩
    | some number => exact ⟨_, rfl⟩
  unfold iconvOutputImpl
  split
  · exact ofNumber _
  · split
    · exact ofNumber _
    · split
      · exact ⟨_, rfl⟩
      · split
        · exact ⟨_, rfl⟩
        · split
          · exact ofNumber _
          · exact ⟨_, rfl⟩

/-- Nor has `OCONV`. -/
theorem oconvOutputImpl_ok (value code : String) :
    ∃ out, oconvOutputImpl Number value code false = .ok out := by
  unfold oconvOutputImpl
  dsimp only
  split
  · exact ⟨_, rfl⟩
  · split
    · exact ⟨_, rfl⟩
    · split
      · exact ⟨_, rfl⟩
      · split
        · exact ⟨_, rfl⟩
        · split
          · exact ⟨_, rfl⟩
          · exact ⟨_, rfl⟩

/-- The error of a conversion is the text of its failure. -/
theorem message_of_callOutput {kind : ICallKind} {input code message : String}
    (failed : callOutput Number kind input code = .error message) :
    message = (conversionFailure kind code).message := by
  cases kind with
  | oconv =>
      unfold callOutput oconvOutput at failed
      obtain ⟨out, done⟩ := @oconvOutputImpl_ok Number _ input (upperCopy (trimmed code))
      dsimp only at failed
      rw [done] at failed
      cases out with
      | none =>
          cases failed
          rfl
      | some text => cases failed
  | iconv =>
      unfold callOutput iconvOutput at failed
      obtain ⟨out, done⟩ := iconvOutputImpl_ok input (upperCopy (trimmed code))
      dsimp only at failed
      rw [done] at failed
      unfold conversionFailure
      cases out with
      | none =>
          dsimp only [bind, Except.bind] at failed ⊢
          split at failed
          · next known =>
              cases failed
              rw [if_pos known]
              rfl
          · next unknown =>
              cases failed
              rw [if_neg unknown]
              rfl
      | some text => cases failed

/-- The evaluator signals a conversion that fails. -/
theorem signals_convertedText (kind : ICallKind) (input code : String) :
    Signals "" Failure.message (convertedText (callOutput Number kind input code))
      (converted Number kind input code) := by
  unfold converted
  cases failed : callOutput Number kind input code with
  | ok text => exact @Signals.pure _ _ _ "" Failure.message text
  | error message =>
      rw [message_of_callOutput failed]
      exact .fail (conversionFailure kind code)

/-- It signals a condition that is no number. -/
theorem signals_numericCondition {value : Evaluator (EvalValue Number)}
    {outcome : Except Failure (EvalValue Number)} (signals : Signals "" Failure.message value outcome) :
    TestSignals "" Failure.message (numericCondition value)
      (do return !Doubles.eq (← asNumber (← outcome)) 0) := by
  have numeric := signals.bind signals_numericOf
  have tests : TestSignals "" Failure.message (numericCondition value)
      ((outcome >>= asNumber) >>= fun number => .ok (!Doubles.eq number 0)) :=
    .orFalse numeric fun _ => .pure _
  cases outcome <;> exact tests

/-- It signals a comparison one of whose sides fails. -/
theorem signals_compareCondition (op : ICompareOp) {left right : Evaluator (EvalValue Number)}
    {first second : Except Failure (EvalValue Number)}
    (leftSignals : Signals "" Failure.message left first)
    (rightSignals : Signals "" Failure.message right second) :
    TestSignals "" Failure.message (compareCondition op left right)
      (do return compareValues (← first) (← second) op) :=
  .orFalse leftSignals fun _ => .orFalse rightSignals fun _ => .pure _

/-- The routines do what the evaluation from left to right does, in both channels. -/
theorem signals_evaluate (expr : IExpr Number) :
    Signals "" Failure.message (evaluateValue dataRecord expr) (strict dataRecord expr) ∧
      TestSignals "" Failure.message (evaluateCondition dataRecord expr)
        (decided dataRecord expr) := by
  induction expr with
  | number value => exact ⟨.pure _, signals_numericCondition (.pure _)⟩
  | string value => exact ⟨.pure _, signals_numericCondition (.pure _)⟩
  | field attributeNo => exact ⟨.pure _, signals_numericCondition (.pure _)⟩
  | unary op operand inner =>
      have value : Signals "" Failure.message (evaluateValue dataRecord (.unary op operand))
          (strict dataRecord (.unary op operand)) :=
        inner.1.bind fun operandValue => (signals_numericOf operandValue).bind fun _ => .pure _
      exact ⟨value, signals_numericCondition value⟩
  | binary op left right first second =>
      have value : Signals "" Failure.message (evaluateValue dataRecord (.binary op left right))
          (strict dataRecord (.binary op left right)) := by
        refine first.1.bind fun leftValue => (signals_numericOf leftValue).bind fun l => ?_
        refine second.1.bind fun rightValue => (signals_numericOf rightValue).bind fun r => ?_
        exact (signals_arithmetic op l r).bind fun _ => .pure _
      exact ⟨value, signals_numericCondition value⟩
  | compare op left right first second =>
      exact ⟨.fail Failure.invalidExpression, signals_compareCondition op first.1 second.1⟩
  | ifThenElse condition thenExpr elseExpr tests first second =>
      have value : Signals "" Failure.message
          (evaluateValue dataRecord (.ifThenElse condition thenExpr elseExpr))
          (strict dataRecord (.ifThenElse condition thenExpr elseExpr)) := by
        rw [evaluateValue_ifThenElse, strict_ifThenElse]
        exact .branch Failure.message_ne tests.2 first.1 second.1
      exact ⟨value, signals_numericCondition value⟩
  | call kind valueArg codeArg first second =>
      have value : Signals "" Failure.message (evaluateValue dataRecord (.call kind valueArg codeArg))
          (strict dataRecord (.call kind valueArg codeArg)) := by
        refine first.1.bind fun input => second.1.bind fun code => ?_
        exact (signals_convertedText kind input.toText code.toText).bind fun _ => .pure _
      exact ⟨value, signals_numericCondition value⟩

/-! ## What is reached -/

/-- The condition is not a comparison, and must be a number. -/
def IsPlain (condition : IExpr Number) : Prop := ∀ op left right, condition ≠ .compare op left right

/-- The number of an operand. -/
def strictNumber (expr : IExpr Number) : Except Failure Number := do
  asNumber (← strict dataRecord expr)

/-- The parts of an expression that the evaluation from left to right comes to. -/
inductive Reached : IExpr Number → IExpr Number → Prop
  | self (expr : IExpr Number) : Reached expr expr
  | operand {op : Char} {operand part : IExpr Number} (inner : Reached operand part) :
      Reached (.unary op operand) part
  | left {op : Char} {left right part : IExpr Number} (inner : Reached left part) :
      Reached (.binary op left right) part
  | right {op : Char} {left right part : IExpr Number} {number : Number}
      (before : strictNumber dataRecord left = .ok number) (inner : Reached right part) :
      Reached (.binary op left right) part
  | comparedLeft {op : ICompareOp} {left right thenExpr elseExpr part : IExpr Number}
      (inner : Reached left part) :
      Reached (.ifThenElse (.compare op left right) thenExpr elseExpr) part
  | comparedRight {op : ICompareOp} {left right thenExpr elseExpr part : IExpr Number}
      {value : EvalValue Number} (before : strict dataRecord left = .ok value)
      (inner : Reached right part) :
      Reached (.ifThenElse (.compare op left right) thenExpr elseExpr) part
  | condition {condition thenExpr elseExpr part : IExpr Number} (plain : IsPlain condition)
      (inner : Reached condition part) : Reached (.ifThenElse condition thenExpr elseExpr) part
  | thenExpr {condition thenExpr elseExpr part : IExpr Number}
      (chosen : decided dataRecord condition = .ok true) (inner : Reached thenExpr part) :
      Reached (.ifThenElse condition thenExpr elseExpr) part
  | elseExpr {condition thenExpr elseExpr part : IExpr Number}
      (chosen : decided dataRecord condition = .ok false) (inner : Reached elseExpr part) :
      Reached (.ifThenElse condition thenExpr elseExpr) part
  | valueArg {kind : ICallKind} {valueArg codeArg part : IExpr Number}
      (inner : Reached valueArg part) : Reached (.call kind valueArg codeArg) part
  | codeArg {kind : ICallKind} {valueArg codeArg part : IExpr Number} {input : EvalValue Number}
      (before : strict dataRecord valueArg = .ok input) (inner : Reached codeArg part) :
      Reached (.call kind valueArg codeArg) part

/-- The parts of an expression have values, and the expression has none: an operand or a condition
is no number, a divisor is zero, or a conversion fails. -/
inductive FailsItself : IExpr Number → Failure → Prop
  | operand {op : Char} {operand : IExpr Number} {value : EvalValue Number} {failure : Failure}
      (isValue : strict dataRecord operand = .ok value) (noNumber : asNumber value = .error failure) :
      FailsItself (.unary op operand) failure
  | left {op : Char} {left right : IExpr Number} {value : EvalValue Number} {failure : Failure}
      (isValue : strict dataRecord left = .ok value) (noNumber : asNumber value = .error failure) :
      FailsItself (.binary op left right) failure
  | right {op : Char} {left right : IExpr Number} {l : Number} {value : EvalValue Number}
      {failure : Failure} (before : strictNumber dataRecord left = .ok l)
      (isValue : strict dataRecord right = .ok value) (noNumber : asNumber value = .error failure) :
      FailsItself (.binary op left right) failure
  | operation {op : Char} {left right : IExpr Number} {l r : Number} {failure : Failure}
      (isLeft : strictNumber dataRecord left = .ok l)
      (isRight : strictNumber dataRecord right = .ok r)
      (notComputed : computed op l r = .error failure) : FailsItself (.binary op left right) failure
  | condition {condition thenExpr elseExpr : IExpr Number} {value : EvalValue Number}
      {failure : Failure} (plain : IsPlain condition)
      (isValue : strict dataRecord condition = .ok value)
      (noNumber : asNumber value = .error failure) :
      FailsItself (.ifThenElse condition thenExpr elseExpr) failure
  | conversion {kind : ICallKind} {valueArg codeArg : IExpr Number} {input code : EvalValue Number}
      {failure : Failure} (isInput : strict dataRecord valueArg = .ok input)
      (isCode : strict dataRecord codeArg = .ok code)
      (notConverted : converted Number kind input.toText code.toText = .error failure) :
      FailsItself (.call kind valueArg codeArg) failure
  | compare {op : ICompareOp} {left right : IExpr Number} :
      FailsItself (.compare op left right) .invalidExpression

/-- A part that the evaluation comes to fails. -/
def FailsWithin (expr : IExpr Number) (failure : Failure) : Prop :=
  ∃ part, Reached dataRecord expr part ∧ FailsItself dataRecord part failure

variable {dataRecord} {failure : Failure}

/-! ## Where an expression fails -/

/-- A number fails with its expression, or because it is none. -/
theorem strictNumber_eq_error {expr : IExpr Number} :
    strictNumber dataRecord expr = .error failure ↔ strict dataRecord expr = .error failure ∨
      ∃ value, strict dataRecord expr = .ok value ∧ asNumber value = .error failure :=
  bind_eq_error

/-- A sign fails with its operand. -/
theorem strict_unary_eq_error {op : Char} {operand : IExpr Number} :
    strict dataRecord (.unary op operand) = .error failure ↔
      strictNumber dataRecord operand = .error failure := by
  have sequence : strict dataRecord (.unary op operand) =
      (strictNumber dataRecord operand >>= fun value =>
        pure (.numeric (if op = '-' then EvaluatorDoubles.neg value else value))) :=
    (bind_assoc _ _ _).symm
  rw [sequence, bind_pure_eq_error]

/-- An operation fails with an operand, or by itself. -/
theorem strict_binary_eq_error {op : Char} {left right : IExpr Number} :
    strict dataRecord (.binary op left right) = .error failure ↔
      strictNumber dataRecord left = .error failure ∨
        ∃ l, strictNumber dataRecord left = .ok l ∧
          (strictNumber dataRecord right = .error failure ∨
            ∃ r, strictNumber dataRecord right = .ok r ∧ computed op l r = .error failure) := by
  have sequence : strict dataRecord (.binary op left right) =
      (strictNumber dataRecord left >>= fun l => strictNumber dataRecord right >>= fun r =>
        computed op l r >>= fun number => pure (.numeric number)) := by
    simp only [strictNumber, bind_assoc]
    rfl
  rw [sequence]
  simp only [bind_eq_error, pure_eq_error, and_false, exists_false, or_false]

/-- An `IF` fails with its condition, or with the arm that is taken. -/
theorem strict_ifThenElse_eq_error {condition thenExpr elseExpr : IExpr Number} :
    strict dataRecord (.ifThenElse condition thenExpr elseExpr) = .error failure ↔
      decided dataRecord condition = .error failure ∨
        decided dataRecord condition = .ok true ∧ strict dataRecord thenExpr = .error failure ∨
          decided dataRecord condition = .ok false ∧
            strict dataRecord elseExpr = .error failure := by
  rw [strict_ifThenElse, bind_eq_error, Bool.exists_bool]
  simp only [Bool.false_eq_true, if_false, if_true]
  tauto

/-- A comparison fails with one of its sides. -/
theorem decided_compare_eq_error {op : ICompareOp} {left right : IExpr Number} :
    decided dataRecord (.compare op left right) = .error failure ↔
      strict dataRecord left = .error failure ∨
        ∃ value, strict dataRecord left = .ok value ∧ strict dataRecord right = .error failure := by
  have sequence : decided dataRecord (.compare op left right) =
      (strict dataRecord left >>= fun first => strict dataRecord right >>= fun second =>
        pure (compareValues first second op)) := rfl
  rw [sequence]
  simp only [bind_eq_error, pure_eq_error, and_false, exists_false, or_false]

/-- Another condition fails with its number. -/
theorem decided_plain_eq_error {condition : IExpr Number} (plain : IsPlain condition) :
    decided dataRecord condition = .error failure ↔
      strictNumber dataRecord condition = .error failure := by
  have sequence : decided dataRecord condition =
      (strictNumber dataRecord condition >>= fun number => pure (!Doubles.eq number 0)) := by
    rw [strictNumber, bind_assoc]
    cases condition with
    | compare op left right => exact absurd rfl (plain op left right)
    | _ => rfl
  rw [sequence, bind_pure_eq_error]

/-- A call fails with an argument, or by itself. -/
theorem strict_call_eq_error {kind : ICallKind} {valueArg codeArg : IExpr Number} :
    strict dataRecord (.call kind valueArg codeArg) = .error failure ↔
      strict dataRecord valueArg = .error failure ∨
        ∃ input, strict dataRecord valueArg = .ok input ∧
          (strict dataRecord codeArg = .error failure ∨
            ∃ code, strict dataRecord codeArg = .ok code ∧
              converted Number kind input.toText code.toText = .error failure) := by
  have sequence : strict dataRecord (.call kind valueArg codeArg) =
      (strict dataRecord valueArg >>= fun input => strict dataRecord codeArg >>= fun code =>
        converted Number kind input.toText code.toText >>= fun text => pure (.text text)) := rfl
  rw [sequence]
  simp only [bind_eq_error, pure_eq_error, and_false, exists_false, or_false]

/-- A part that fails by itself fails. -/
theorem FailsItself.strict_eq {expr : IExpr Number} (fails : FailsItself dataRecord expr failure) :
    strict dataRecord expr = .error failure := by
  cases fails with
  | operand isValue noNumber =>
      exact strict_unary_eq_error.mpr (strictNumber_eq_error.mpr (.inr ⟨_, isValue, noNumber⟩))
  | left isValue noNumber =>
      exact strict_binary_eq_error.mpr
        (.inl (strictNumber_eq_error.mpr (.inr ⟨_, isValue, noNumber⟩)))
  | right before isValue noNumber =>
      exact strict_binary_eq_error.mpr
        (.inr ⟨_, before, .inl (strictNumber_eq_error.mpr (.inr ⟨_, isValue, noNumber⟩))⟩)
  | operation isLeft isRight notComputed =>
      exact strict_binary_eq_error.mpr (.inr ⟨_, isLeft, .inr ⟨_, isRight, notComputed⟩⟩)
  | condition plain isValue noNumber =>
      exact strict_ifThenElse_eq_error.mpr (.inl ((decided_plain_eq_error plain).mpr
        (strictNumber_eq_error.mpr (.inr ⟨_, isValue, noNumber⟩))))
  | conversion isInput isCode notConverted =>
      exact strict_call_eq_error.mpr (.inr ⟨_, isInput, .inr ⟨_, isCode, notConverted⟩⟩)
  | compare => rfl

/-- A part that is reached fails the whole. -/
theorem Reached.strict_eq {expr part : IExpr Number} (reached : Reached dataRecord expr part)
    (fails : strict dataRecord part = .error failure) : strict dataRecord expr = .error failure := by
  induction reached with
  | self => exact fails
  | operand _ inner => exact strict_unary_eq_error.mpr (strictNumber_eq_error.mpr (.inl (inner fails)))
  | left _ inner =>
      exact strict_binary_eq_error.mpr (.inl (strictNumber_eq_error.mpr (.inl (inner fails))))
  | right before _ inner =>
      exact strict_binary_eq_error.mpr
        (.inr ⟨_, before, .inl (strictNumber_eq_error.mpr (.inl (inner fails)))⟩)
  | comparedLeft _ inner =>
      exact strict_ifThenElse_eq_error.mpr (.inl (decided_compare_eq_error.mpr (.inl (inner fails))))
  | comparedRight before _ inner =>
      exact strict_ifThenElse_eq_error.mpr
        (.inl (decided_compare_eq_error.mpr (.inr ⟨_, before, inner fails⟩)))
  | condition plain _ inner =>
      exact strict_ifThenElse_eq_error.mpr (.inl ((decided_plain_eq_error plain).mpr
        (strictNumber_eq_error.mpr (.inl (inner fails)))))
  | thenExpr chosen _ inner =>
      exact strict_ifThenElse_eq_error.mpr (.inr (.inl ⟨chosen, inner fails⟩))
  | elseExpr chosen _ inner =>
      exact strict_ifThenElse_eq_error.mpr (.inr (.inr ⟨chosen, inner fails⟩))
  | valueArg _ inner => exact strict_call_eq_error.mpr (.inl (inner fails))
  | codeArg before _ inner =>
      exact strict_call_eq_error.mpr (.inr ⟨_, before, .inl (inner fails)⟩)

/-- The failure of a plain condition is inside of it. -/
theorem failsWithin_of_plain {condition : IExpr Number} (plain : IsPlain condition)
    (inner : ∀ failure, strict dataRecord condition = .error failure →
      FailsWithin dataRecord condition failure)
    (fails : decided dataRecord condition = .error failure) (thenExpr elseExpr : IExpr Number) :
    FailsWithin dataRecord (.ifThenElse condition thenExpr elseExpr) failure := by
  rcases strictNumber_eq_error.mp ((decided_plain_eq_error plain).mp fails) with
    fails | ⟨value, isValue, noNumber⟩
  · obtain ⟨part, reached, itself⟩ := inner failure fails
    exact ⟨part, .condition plain reached, itself⟩
  · exact ⟨_, .self _, .condition plain isValue noNumber⟩

/-- An expression fails within itself, as a value and as a condition. -/
theorem failsWithin_of_strict (expr : IExpr Number) :
    (∀ failure, strict dataRecord expr = .error failure → FailsWithin dataRecord expr failure) ∧
      ∀ failure, decided dataRecord expr = .error failure → ∀ thenExpr elseExpr,
        FailsWithin dataRecord (.ifThenElse expr thenExpr elseExpr) failure := by
  have both : ∀ {expr : IExpr Number}, IsPlain expr →
      (∀ failure, strict dataRecord expr = .error failure → FailsWithin dataRecord expr failure) →
      (∀ failure, strict dataRecord expr = .error failure → FailsWithin dataRecord expr failure) ∧
        ∀ failure, decided dataRecord expr = .error failure → ∀ thenExpr elseExpr,
          FailsWithin dataRecord (.ifThenElse expr thenExpr elseExpr) failure :=
    fun plain value => ⟨value, fun _ fails => failsWithin_of_plain plain value fails⟩
  induction expr with
  | number value => exact both (by rintro _ _ _ ⟨⟩) (by rintro _ ⟨⟩)
  | string value => exact both (by rintro _ _ _ ⟨⟩) (by rintro _ ⟨⟩)
  | field attributeNo => exact both (by rintro _ _ _ ⟨⟩) (by rintro _ ⟨⟩)
  | unary op operand inner =>
      refine both (by rintro _ _ _ ⟨⟩) fun failure fails => ?_
      rcases strictNumber_eq_error.mp (strict_unary_eq_error.mp fails) with
        fails | ⟨value, isValue, noNumber⟩
      · obtain ⟨part, reached, itself⟩ := inner.1 failure fails
        exact ⟨part, .operand reached, itself⟩
      · exact ⟨_, .self _, .operand isValue noNumber⟩
  | binary op left right first second =>
      refine both (by rintro _ _ _ ⟨⟩) fun failure fails => ?_
      rcases strict_binary_eq_error.mp fails with fails | ⟨l, isLeft, fails | ⟨r, isRight, fails⟩⟩
      · rcases strictNumber_eq_error.mp fails with fails | ⟨value, isValue, noNumber⟩
        · obtain ⟨part, reached, itself⟩ := first.1 failure fails
          exact ⟨part, .left reached, itself⟩
        · exact ⟨_, .self _, .left isValue noNumber⟩
      · rcases strictNumber_eq_error.mp fails with fails | ⟨value, isValue, noNumber⟩
        · obtain ⟨part, reached, itself⟩ := second.1 failure fails
          exact ⟨part, .right isLeft reached, itself⟩
        · exact ⟨_, .self _, .right isLeft isValue noNumber⟩
      · exact ⟨_, .self _, .operation isLeft isRight fails⟩
  | compare op left right first second =>
      constructor
      · rintro _ ⟨⟩
        exact ⟨_, .self _, .compare⟩
      · intro failure fails thenExpr elseExpr
        rcases decided_compare_eq_error.mp fails with fails | ⟨value, isValue, fails⟩
        · obtain ⟨part, reached, itself⟩ := first.1 failure fails
          exact ⟨part, .comparedLeft reached, itself⟩
        · obtain ⟨part, reached, itself⟩ := second.1 failure fails
          exact ⟨part, .comparedRight isValue reached, itself⟩
  | ifThenElse condition thenExpr elseExpr tests first second =>
      refine both (by rintro _ _ _ ⟨⟩) fun failure fails => ?_
      rcases strict_ifThenElse_eq_error.mp fails with fails | ⟨chosen, fails⟩ | ⟨chosen, fails⟩
      · exact tests.2 failure fails thenExpr elseExpr
      · obtain ⟨part, reached, itself⟩ := first.1 failure fails
        exact ⟨part, .thenExpr chosen reached, itself⟩
      · obtain ⟨part, reached, itself⟩ := second.1 failure fails
        exact ⟨part, .elseExpr chosen reached, itself⟩
  | call kind valueArg codeArg first second =>
      refine both (by rintro _ _ _ ⟨⟩) fun failure fails => ?_
      rcases strict_call_eq_error.mp fails with
        fails | ⟨input, isInput, fails | ⟨code, isCode, fails⟩⟩
      · obtain ⟨part, reached, itself⟩ := first.1 failure fails
        exact ⟨part, .valueArg reached, itself⟩
      · obtain ⟨part, reached, itself⟩ := second.1 failure fails
        exact ⟨part, .codeArg isInput reached, itself⟩
      · exact ⟨_, .self _, .conversion isInput isCode fails⟩

/-- An expression fails exactly with a failure inside of it. -/
theorem strict_eq_error_iff {expr : IExpr Number} :
    strict dataRecord expr = .error failure ↔ FailsWithin dataRecord expr failure := by
  constructor
  · exact (failsWithin_of_strict expr).1 failure
  · rintro ⟨part, reached, itself⟩
    exact reached.strict_eq itself.strict_eq

/-! ## Expressions of the parser -/

omit [EvaluatorDoubles Number] in
/-- A plain condition is no comparison. -/
theorem level_ne_of_isPlain {condition : IExpr Number} (plain : IsPlain condition) :
    condition.level ≠ .condition := by
  cases condition with
  | compare op left right => exact absurd rfl (plain op left right)
  | binary op left right =>
      rw [IExpr.level]
      split <;> decide
  | _ => rintro ⟨⟩

/-- In an expression of the parser only a condition is a comparison, wherever the evaluation comes.
-/
theorem Reached.documented [Literals Number] {spell : Number → Literal} {expr part : IExpr Number}
    (reached : Reached dataRecord expr part) (documented : expr.Documented spell)
    (noCondition : expr.level ≠ .condition) :
    part.Documented spell ∧ part.level ≠ .condition := by
  induction reached with
  | self => exact ⟨documented, noCondition⟩
  | operand _ inner => exact inner documented.2.2 documented.2.1
  | left _ inner => exact inner documented.2.1.2 documented.2.1.1
  | right _ _ inner => exact inner documented.2.2.2 documented.2.2.1
  | comparedLeft _ inner => exact inner documented.1.1.2 documented.1.1.1
  | comparedRight _ _ inner => exact inner documented.1.2.2 documented.1.2.1
  | condition plain _ inner => exact inner documented.1 (level_ne_of_isPlain plain)
  | thenExpr _ _ inner => exact inner documented.2.1.2 documented.2.1.1
  | elseExpr _ _ inner => exact inner documented.2.2.2 documented.2.2.1
  | valueArg _ inner => exact inner documented.1.2 documented.1.1
  | codeArg _ _ inner => exact inner documented.2.2 documented.2.1

/-- A value is never an invalid expression. -/
theorem asNumber_ne_invalid {value : EvalValue Number} :
    asNumber value ≠ .error .invalidExpression := by
  cases value with
  | numeric => rintro ⟨⟩
  | text text =>
      unfold asNumber
      dsimp only
      cases (tryCoerceNumeric text : Option Number) <;> rintro ⟨⟩

/-- Nor is an operation. -/
theorem computed_ne_invalid {op : Char} {l r : Number} (isOperator : op ∈ ['+', '-', '*', '/']) :
    computed op l r ≠ .error .invalidExpression := by
  simp only [List.mem_cons, List.not_mem_nil, or_false] at isOperator
  rcases isOperator with rfl | rfl | rfl | rfl
  · rintro ⟨⟩
  · rintro ⟨⟩
  · rintro ⟨⟩
  · intro fails
    change (if Doubles.eq r 0 = true then (.error .divisionByZero : Except Failure Number)
      else .ok (Doubles.div l r)) = _ at fails
    split at fails <;> cases fails

/-- Nor is a conversion. -/
theorem converted_ne_invalid {kind : ICallKind} {input code : String} :
    converted Number kind input code ≠ .error .invalidExpression := by
  unfold converted
  cases callOutput Number kind input code with
  | ok => rintro ⟨⟩
  | error =>
      cases kind with
      | oconv => rintro ⟨⟩
      | iconv =>
          unfold conversionFailure
          dsimp only [Except.mapError]
          split <;> rintro ⟨⟩

/-- No part of a documented expression is an invalid one. -/
theorem FailsItself.ne_invalid [Literals Number] {spell : Number → Literal} {part : IExpr Number}
    (fails : FailsItself dataRecord part failure) (documented : part.Documented spell)
    (noCondition : part.level ≠ .condition) : failure ≠ .invalidExpression := by
  rintro rfl
  cases fails with
  | operand _ noNumber => exact asNumber_ne_invalid noNumber
  | left _ noNumber => exact asNumber_ne_invalid noNumber
  | right _ _ noNumber => exact asNumber_ne_invalid noNumber
  | operation _ _ notComputed => exact computed_ne_invalid documented.1 notComputed
  | condition _ _ noNumber => exact asNumber_ne_invalid noNumber
  | conversion _ _ notConverted => exact converted_ne_invalid notConverted
  | compare => exact noCondition rfl

/-- The evaluator returns the strict value, or leaves the failure's text. -/
theorem exec_evaluate (expr : IExpr Number) (error : String) :
    (evaluate dataRecord expr).exec error = match strict dataRecord expr with
      | .ok value => (some value.toText, "")
      | .error failure => (none, failure.message) := by
  have cleared : (set "" : Evaluator PUnit).exec error = (some ⟨⟩, "") := rfl
  rw [evaluate, Routine.exec_bind, cleared]
  dsimp only
  rw [Routine.exec_bind, (signals_evaluate dataRecord expr).1]
  cases strict dataRecord expr <;> rfl

/-- Evaluation never fails silently: it returns the text of the value and no error, or no text and
the message of the failure of a part that the evaluation from left to right comes to. -/
theorem evaluate_not_silent [DecidableEq Number] [Literals Number] {source : String}
    {expr : IExpr Number} (parsed : parse source = .ok expr) (dataRecord : StructuredRecord)
    (error : String) :
    (∃ value, (evaluate dataRecord expr).exec error = (some value.toText, "") ∧
      strict dataRecord expr = .ok value ∧ ∀ failure, ¬ FailsWithin dataRecord expr failure) ∨
    ∃ failure, (evaluate dataRecord expr).exec error = (none, failure.message) ∧
      failure.message ≠ "" ∧ failure ≠ .invalidExpression ∧
        FailsWithin dataRecord expr failure := by
  rw [exec_evaluate]
  cases result : strict dataRecord expr with
  | ok value =>
      refine .inl ⟨value, rfl, rfl, fun failure fails => ?_⟩
      rw [strict_eq_error_iff.mpr fails] at result
      cases result
  | error failure =>
      obtain ⟨spell, -, documented, noCondition, -⟩ := printing_of_parse parsed
      have fails := strict_eq_error_iff.mp result
      obtain ⟨part, reached, itself⟩ := fails
      obtain ⟨partDocumented, partNoCondition⟩ := reached.documented documented noCondition
      exact .inr ⟨failure, rfl, failure.message_ne,
        itself.ne_invalid partDocumented partNoCondition, part, reached, itself⟩

end Values

/-! ## A division by zero -/

/-- Whole numbers as literals. -/
@[reducible] def wholeLiterals : Literals ℤ where
  strtod text := Nat.ofDigitChars 10 text 0

/-- Whole numbers in the place of floating point. -/
@[reducible] def wholeEvaluator : EvaluatorDoubles ℤ where
  toDoubles := VM.wholeDoubles
  stod text := (VM.scanInteger text).map fun found =>
    (VM.signed found.1 found.2.1, text.length - found.2.2.length)
  zero := 0
  neg number := -number
  isFinite _ := true
  trunc number := number
  toLongLong number := number

/-- The condition chooses the branch that divides. -/
def dividing : IExpr ℤ := .ifThenElse (.field 1) (.binary '/' (.field 1) (.field 2)) (.number 1)

/-- A division by zero under a condition is signalled. -/
theorem evaluate_dividing :
    @parse ℤ _ wholeLiterals "IF A THEN A / B ELSE 1" = .ok dividing ∧
      ∃ failure, (@evaluate ℤ wholeEvaluator (.fromRaw "6\n0") dividing).exec "" =
          (none, failure.message) ∧ failure.message = "I-type: division by zero" ∧
        @FailsWithin ℤ wholeEvaluator (.fromRaw "6\n0") dividing failure := by
  have parsed : @parse ℤ _ wholeLiterals "IF A THEN A / B ELSE 1" = .ok dividing := by
    decide +kernel
  have failed : (@evaluate ℤ wholeEvaluator (.fromRaw "6\n0") dividing).exec "" =
      (none, "I-type: division by zero") := by
    decide +kernel
  refine ⟨parsed, ?_⟩
  rcases @evaluate_not_silent ℤ wholeEvaluator _ wholeLiterals _ _ parsed (.fromRaw "6\n0") ""
    with ⟨value, returned, -⟩ | ⟨failure, returned, -, -, within⟩
  · rw [failed] at returned
    cases returned
  · refine ⟨failure, returned, ?_, within⟩
    rw [failed] at returned
    exact (congrArg Prod.snd returned).symm

end IType

end Gemini.English
