import Gemini.VM.InstructionEffects
import Gemini.VM.ArrayRecords
import Mathlib.Data.Rat.Floor

/-!
# Where arithmetic is defined

The source computes with `int` and converts `double` to `int`, and some of these computations
have no defined result: a sum that does not fit, the remainder of the least `int` by -1, which
traps, and the conversion of a number outside the range. `outcome` follows the source with each
of these as a `Hazard`. Where there is none the machine does what `outcome` says.

Doubles are taken as exact numbers: `ExactNumbers` gives each of them a rational number that the
operations compute with.
-/

namespace Gemini.VM

open Gemini.Semantics

variable {Double World : Type} [Doubles Double]

/-! ## Exact numbers -/

/-- A number without its fraction. -/
def truncate (number : ℚ) : ℤ := if number < 0 then -⌊-number⌋ else ⌊number⌋

/-- The doubles are numbers, and the operations on them are exact. A conversion to `int` drops
the fraction where the result fits. -/
structure ExactNumbers (number : Double → ℚ) : Prop where
  ofInt : ∀ value, number (Doubles.ofInt value) = value
  div : ∀ first second, number second ≠ 0 →
    number (Doubles.div first second) = number first / number second
  lt : ∀ first second, Doubles.lt first second = decide (number first < number second)
  le : ∀ first second, Doubles.le first second = decide (number first ≤ number second)
  eq : ∀ first second, Doubles.eq first second = decide (number first = number second)
  floor : ∀ value, number (Doubles.floor value) = ⌊number value⌋
  toInt : ∀ value, IsInt (truncate (number value)) →
    Doubles.toInt value = truncate (number value)

/-- An integer is its own truncation. -/
theorem truncate_intCast (value : ℤ) : truncate value = value := by
  unfold truncate
  split
  · rw [← Int.cast_neg, Int.floor_intCast, neg_neg]
  · exact Int.floor_intCast value

/-- Truncation is the same on both sides of zero. -/
theorem truncate_neg (number : ℚ) : truncate (-number) = -truncate number := by
  unfold truncate
  rcases lt_trichotomy number 0 with below | rfl | above
  · rw [if_neg (by linarith), if_pos below, neg_neg]
  · simp
  · rw [if_pos (by linarith), if_neg (by linarith), neg_neg]

/-- Division without the fraction rounds toward zero. -/
theorem truncate_div (a b : ℤ) : truncate ((a : ℚ) / b) = a.tdiv b := by
  have natural (m n : ℕ) : truncate ((m : ℚ) / n) = (m : ℤ).tdiv n := by
    have notBelow : ¬ (m : ℚ) / n < 0 := not_lt.mpr (by positivity)
    have floored := Rat.floor_intCast_div_natCast (m : ℤ) n
    rw [Int.cast_natCast] at floored
    rw [truncate, if_neg notBelow, floored, Int.tdiv_eq_ediv_of_nonneg (by omega)]
  obtain ⟨m, rfl | rfl⟩ := Int.eq_nat_or_neg a
  · obtain ⟨n, rfl | rfl⟩ := Int.eq_nat_or_neg b
    · exact natural m n
    · rw [Int.cast_neg, div_neg, truncate_neg, Int.tdiv_neg]
      exact congrArg Neg.neg (natural m n)
  · obtain ⟨n, rfl | rfl⟩ := Int.eq_nat_or_neg b
    · rw [Int.cast_neg, neg_div, truncate_neg, Int.neg_tdiv]
      exact congrArg Neg.neg (natural m n)
    · rw [Int.cast_neg, Int.cast_neg, neg_div_neg_eq, Int.neg_tdiv_neg]
      exact natural m n

/-- Truncation keeps the order. -/
theorem truncate_mono {first second : ℚ} (ordered : first ≤ second) :
    truncate first ≤ truncate second := by
  unfold truncate
  split
  · next below =>
      split
      · have floors := Int.floor_mono (neg_le_neg ordered)
        omega
      · next above =>
          have positive : 0 ≤ ⌊-first⌋ := Int.floor_nonneg.mpr (by linarith)
          have notBelow : 0 ≤ ⌊second⌋ := Int.floor_nonneg.mpr (not_lt.mp above)
          omega
  · next above =>
      rw [if_neg (by linarith)]
      exact Int.floor_mono ordered

/-- A number in the range of an `int` is one without its fraction. -/
theorem isInt_truncate {number : ℚ} (low : (intMin : ℚ) ≤ number) (high : number ≤ intMax) :
    IsInt (truncate number) := by
  have least := truncate_mono low
  have greatest := truncate_mono high
  rw [truncate_intCast] at least greatest
  exact ⟨least, greatest⟩

/-- Among the numbers of the range, only the least `int` is that `int` without its fraction. -/
theorem truncate_eq_intMin {number : ℚ} (low : (intMin : ℚ) ≤ number) :
    truncate number = intMin ↔ number = intMin := by
  constructor
  · intro same
    unfold truncate at same
    split at same
    · have atLeast := Int.floor_le (-number)
      have floored : ⌊-number⌋ = -intMin := by omega
      rw [floored, Int.cast_neg] at atLeast
      linarith
    · next above =>
        have notBelow : 0 ≤ ⌊number⌋ := Int.floor_nonneg.mpr (not_lt.mp above)
        have : intMin < 0 := by decide
        omega
  · rintro rfl
    exact truncate_intCast intMin

/-! ## Computations without a defined result -/

/-- The computations that C++ gives no result. -/
inductive Hazard where
  | signedOverflow
  | trappingDivision
  | conversion
deriving DecidableEq

/-- The value of an `int` computation with this exact result. -/
def intResult (exactly : ℤ) : Except Hazard ℤ :=
  if IsInt exactly then .ok exactly else .error .signedOverflow

/-- `a % b` of two `int`; the divisor is not zero. -/
def intRemainder (a b : ℤ) : Except Hazard ℤ :=
  if a = intMin ∧ b = -1 then .error .trappingDivision else .ok (a.tmod b)

variable (number : Double → ℚ)

/-- `static_cast<int>`. -/
def castToInt (value : Double) : Except Hazard ℤ :=
  if IsInt (truncate (number value)) then .ok (Doubles.toInt value) else .error .conversion

/-- `coerceToInt`. -/
def hazardCoerceToInt (value : Value Double) : Except Hazard ℤ :=
  let n := coerceToDouble value
  if Doubles.lt n (Doubles.ofInt intMin) || Doubles.lt (Doubles.ofInt intMax) n then .ok 0
  else castToInt number n

/-- `arithmeticResultValue`. -/
def hazardResultValue (a b : Value Double) (result : Double) : Except Hazard (Value Double) :=
  if !(arithmeticOperandForcesDoubleResult a || arithmeticOperandForcesDoubleResult b) &&
      Doubles.le (Doubles.ofInt intMin) result && Doubles.le result (Doubles.ofInt intMax) &&
      Doubles.eq result (Doubles.floor result) then do
    let value ← castToInt number result
    return .int value
  else .ok (.double result)

/-! ## The builtins `ABS`, `INT` and `MOD` -/

/-- `std::fmod`. -/
class Fmod (Double : Type) where
  fmod : Double → Double → Double

/-- A handler of one argument; the registry has checked that it is there. -/
def unaryHandler (operation : Value Double → Except String (Value Double)) :
    Handler Double World :=
  fun _ stack =>
    match stack with
    | [] => return []
    | v :: rest =>
        match operation v with
        | .ok value => return value :: rest
        | .error what => throw what

/-- A handler of two arguments, the second on top of the stack. -/
def binaryHandler (operation : Value Double → Value Double → Except String (Value Double)) :
    Handler Double World :=
  fun _ stack =>
    match stack with
    | b :: a :: rest =>
        match operation a b with
        | .ok value => return value :: rest
        | .error what => throw what
    | short => return short

/-- `handlerAbs`. -/
def handlerAbs : Handler Double World :=
  unaryHandler fun v => .ok (.int (wrapInt (coerceToInt v).natAbs))

/-- `handlerInt`. -/
def handlerInt : Handler Double World :=
  unaryHandler fun v => .ok (.int (Doubles.toInt (coerceToDouble v)))

variable [Fmod Double]

/-- `handlerMod`. -/
def handlerMod : Handler Double World :=
  binaryHandler fun aVal bVal =>
    if Doubles.eq (coerceToDouble bVal) (Doubles.ofInt 0) then
      .error "BUILTIN: MOD division by zero"
    else .ok (.double (Fmod.fmod (coerceToDouble aVal) (coerceToDouble bVal)))

/-! ## The operations -/

/-- An arithmetic instruction or builtin with its operands. The operands of `FOR_NEXT` are what
its variable holds and the step of its frame. -/
inductive Arithmetic (Double : Type) where
  | add (a b : Value Double)
  | sub (a b : Value Double)
  | mul (a b : Value Double)
  | div (a b : Value Double)
  | mod (a b : Value Double)
  | absInt (v : Value Double)
  | forNext (current : Option (Value Double)) (step : ℤ)
  | builtinAbs (v : Value Double)
  | builtinInt (v : Value Double)
  | builtinMod (a b : Value Double)

/-- `Add`, `Sub` and `Mul`. -/
def hazardArithmetic (onInts : ℤ → ℤ → ℤ) (onDoubles : Double → Double → Double) :
    Value Double → Value Double → Except Hazard (Value Double)
  | .int x, .int y => do
      let value ← intResult (onInts x y)
      return .int value
  | a, b => hazardResultValue number a b (onDoubles (coerceToDouble a) (coerceToDouble b))

/-- The error of `DIV`. -/
def divideByZero : Fault := .runtimeError "DIV: divide by zero"

/-- The error of `MOD`. -/
def modByZero : Fault := .runtimeError "MOD: division by zero"

/-- The error of `MOD` on other values than integers. -/
def modExpectsInt : Fault := .runtimeError "MOD: expected int on stack"

/-- The error of the builtin `MOD`. -/
def builtinModByZero : Fault := .exception "BUILTIN: MOD division by zero"

/-- `Div`. -/
def hazardQuotient (a b : Value Double) : Except Hazard (Except Fault (Value Double)) :=
  if Doubles.eq (coerceToDouble b) (Doubles.ofInt 0) then .ok (.error divideByZero)
  else
    let quotient := Doubles.div (coerceToDouble a) (coerceToDouble b)
    match a, b with
    | .int _, .int _ => do
        let value ← castToInt number quotient
        return .ok (.int value)
    | _, _ => .ok (.ok (.double quotient))

omit [Doubles Double] [Fmod Double] in
/-- `Mod`. -/
def hazardRemainder : Value Double → Value Double → Except Hazard (Except Fault (Value Double))
  | .int a, .int b =>
      if b = 0 then .ok (.error modByZero)
      else do
        let value ← intRemainder a b
        return .ok (.int value)
  | _, _ => .ok (.error modExpectsInt)

/-- `std::abs` of a value that is taken as an `int`. -/
def hazardAbs (v : Value Double) : Except Hazard (Value Double) := do
  let n ← hazardCoerceToInt number v
  let value ← intResult n.natAbs
  return .int value

/-- What an operation comes to, as the source computes it: a hazard, an error, or a value. -/
def Arithmetic.outcome : Arithmetic Double → Except Hazard (Except Fault (Value Double))
  | .add a b => .ok <$> hazardArithmetic number (· + ·) Doubles.add a b
  | .sub a b => .ok <$> hazardArithmetic number (· - ·) Doubles.sub a b
  | .mul a b => .ok <$> hazardArithmetic number (· * ·) Doubles.mul a b
  | .div a b => hazardQuotient number a b
  | .mod a b => hazardRemainder a b
  | .absInt v => .ok <$> hazardAbs number v
  | .forNext current step => do
      let cur ← match current with
        | some value => hazardCoerceToInt number value
        | none => .ok 0
      let newVal ← intResult (cur + step)
      return .ok (.int newVal)
  | .builtinAbs v => .ok <$> hazardAbs number v
  | .builtinInt v => do
      let value ← castToInt number (coerceToDouble v)
      return .ok (.int value)
  | .builtinMod a b =>
      if Doubles.eq (coerceToDouble b) (Doubles.ofInt 0) then .ok (.error builtinModByZero)
      else .ok (.ok (.double (Fmod.fmod (coerceToDouble a) (coerceToDouble b))))

/-- What a result does to the stack under the operands. -/
def leaving (stack : List (Value Double)) :
    Except Fault (Value Double) → EnvironmentM Double World (List (Value Double))
  | .ok value => pure (value :: stack)
  | .error fault => throw fault

/-- What a builtin leaves on the stack, or what it throws. -/
def handlerResult (stack : List (Value Double)) :
    Except Fault (Value Double) → Except String (List (Value Double))
  | .ok value => .ok (value :: stack)
  | .error fault => .error (fault.what.getD "")

/-- The machine does the operation with this result. -/
def Arithmetic.DoneBy (result : Except Fault (Value Double)) : Arithmetic Double → Prop
  | .add a b => ∀ (World : Type) (host : Host Double World) stack,
      RowDoes host [{ op := .add }] (b :: a :: stack) (leaving stack result)
  | .sub a b => ∀ (World : Type) (host : Host Double World) stack,
      RowDoes host [{ op := .sub }] (b :: a :: stack) (leaving stack result)
  | .mul a b => ∀ (World : Type) (host : Host Double World) stack,
      RowDoes host [{ op := .mul }] (b :: a :: stack) (leaving stack result)
  | .div a b => ∀ (World : Type) (host : Host Double World) stack,
      RowDoes host [{ op := .div }] (b :: a :: stack) (leaving stack result)
  | .mod a b => ∀ (World : Type) (host : Host Double World) stack,
      RowDoes host [{ op := .mod }] (b :: a :: stack) (leaving stack result)
  | .absInt v => ∀ (World : Type) (host : Host Double World) stack,
      RowDoes host [{ op := .absInt }] (v :: stack) (leaving stack result)
  | .forNext current step => ∀ (variableMap : AList fun _ : String => Value Double) frame,
      variableMap.lookup frame.varName = current → frame.step = step →
        result = .ok (.int (nextLoopValue variableMap frame))
  | .builtinAbs v => ∀ (World : Type) (status : ℤ) stack (world : World),
      Program.exec (handlerAbs status (v :: stack)) world = (handlerResult stack result, world)
  | .builtinInt v => ∀ (World : Type) (status : ℤ) stack (world : World),
      Program.exec (handlerInt status (v :: stack)) world = (handlerResult stack result, world)
  | .builtinMod a b => ∀ (World : Type) (status : ℤ) stack (world : World),
      Program.exec (handlerMod status (b :: a :: stack)) world =
        (handlerResult stack result, world)

/-! ## What arithmetic is to do -/

namespace Arithmetic

/-- The errors that an operation is documented to raise. -/
def documentedErrors : Arithmetic Double → List Fault
  | .div _ _ => [divideByZero]
  | .mod _ _ => [modByZero, modExpectsInt]
  | .builtinMod _ _ => [builtinModByZero]
  | _ => []

/-- The exact result of an operation whose operands are all integers. -/
def exactInt : Arithmetic Double → Option ℤ
  | .add (.int x) (.int y) => some (x + y)
  | .sub (.int x) (.int y) => some (x - y)
  | .mul (.int x) (.int y) => some (x * y)
  | .div (.int x) (.int y) => some (x.tdiv y)
  | .mod (.int x) (.int y) => some (x.tmod y)
  | .absInt (.int x) => some x.natAbs
  | .forNext (some (.int x)) step => some (x + step)
  | .builtinAbs (.int x) => some x.natAbs
  | .builtinInt (.int x) => some x
  | _ => none

/-- What `INT` is to give: the value that `COERCE_INT` gives. -/
def coercion : Arithmetic Double → Option ℤ
  | .builtinInt v => some (coerceToInt v)
  | _ => none

/-- An operation has a defined result, which the machine gives it: a documented error or a
value, which is exact where it is an integer made from integers; and `INT` is `COERCE_INT`. -/
def IsDefined (operation : Arithmetic Double) : Prop :=
  ∃ result, operation.outcome number = .ok result ∧ operation.DoneBy result ∧
    (∀ fault, result = .error fault → fault ∈ operation.documentedErrors) ∧
    (∀ value exactly, result = .ok (.int value) → operation.exactInt = some exactly →
      value = exactly) ∧
    ∀ coerced, operation.coercion = some coerced → result = .ok (.int coerced)

/-- The integers among the operands are values of an `int`. -/
def InRange : Arithmetic Double → Prop
  | .add a b | .sub a b | .mul a b | .div a b | .mod a b | .builtinMod a b => a.InRange ∧ b.InRange
  | .absInt v | .builtinAbs v | .builtinInt v => v.InRange
  | .forNext current step => (∀ value ∈ current, value.InRange) ∧ IsInt step

/-- The number that a value is read as. -/
def numberOf (v : Value Double) : ℚ := number (coerceToDouble v)

/-- The operands lead to no hazard: sums, differences and products of integers fit, the least
`int` is not divided by -1 and its absolute value is not taken, a loop does not count past the
range, and `INT` is taken of a number in the range. -/
def Safe : Arithmetic Double → Prop
  | .add (.int x) (.int y) => IsInt (x + y)
  | .sub (.int x) (.int y) => IsInt (x - y)
  | .mul (.int x) (.int y) => IsInt (x * y)
  | .div (.int x) (.int y) => ¬ (x = intMin ∧ y = -1)
  | .mod (.int x) (.int y) => ¬ (x = intMin ∧ y = -1)
  | .absInt v => numberOf number v ≠ intMin
  | .builtinAbs v => numberOf number v ≠ intMin
  | .forNext current step => IsInt ((current.map coerceToInt).getD 0 + step)
  | .builtinInt v => intMin ≤ numberOf number v ∧ numberOf number v ≤ intMax
  | _ => True

end Arithmetic

/-! ## Conversions -/

section Conversions

variable {number}

omit [Fmod Double]

/-- A number that fits is cast to its truncation. -/
theorem castToInt_of_isInt (exact : ExactNumbers number) {value : Double}
    (fits : IsInt (truncate (number value))) :
    castToInt number value = .ok (truncate (number value)) := by
  rw [castToInt, if_pos fits, exact.toInt value fits]

/-- Whether a value is taken as a number outside the range. -/
theorem outOfRange_iff (exact : ExactNumbers number) (value : Double) :
    (Doubles.lt value (Doubles.ofInt intMin) || Doubles.lt (Doubles.ofInt intMax) value) =
      decide (number value < intMin ∨ (intMax : ℚ) < number value) := by
  rw [exact.lt, exact.lt, exact.ofInt, exact.ofInt, Bool.decide_or]

/-- The conversion of the machine has no hazard. -/
theorem hazardCoerceToInt_eq (exact : ExactNumbers number) (v : Value Double) :
    hazardCoerceToInt number v = .ok (coerceToInt v) := by
  unfold hazardCoerceToInt coerceToInt
  dsimp only
  rw [outOfRange_iff exact]
  split
  · rfl
  · next inside =>
      rw [decide_eq_true_iff, not_or, not_lt, not_lt] at inside
      have fits := isInt_truncate inside.1 inside.2
      rw [castToInt_of_isInt exact fits, exact.toInt _ fits]

/-- The result of an operator is always defined. -/
theorem hazardResultValue_eq (exact : ExactNumbers number) (a b : Value Double) (result : Double) :
    hazardResultValue number a b result = .ok (arithmeticResultValue a b result) := by
  unfold hazardResultValue arithmeticResultValue
  split
  · next inside =>
      simp only [Bool.and_eq_true, exact.le, exact.ofInt, decide_eq_true_iff] at inside
      have fits := isInt_truncate inside.1.1.2 inside.1.2
      rw [castToInt_of_isInt exact fits, exact.toInt _ fits]
      rfl
  · rfl

end Conversions

/-! ## The operations one by one -/

section Operations

variable {number}

omit [Fmod Double] in
/-- A binary instruction leaves the result of its operation. -/
theorem does_binaryOperation {op : OpCode} {a b : Value Double} {host : Host Double World}
    (operation : Value Double → Value Double → Except Fault (Value Double))
    (executes : ∀ ip, execute host { op } ip = andNext (binary operation))
    (stack : List (Value Double)) :
    RowDoes host [{ op }] (b :: a :: stack) (leaving stack (operation a b)) := by
  refine .one fun ip => ⟨_, executes ip, ?_⟩
  have does := @onStack_binary Double World stack operation a b
  cases result : operation a b with
  | ok value =>
      rw [result] at does
      exact does
  | error fault =>
      rw [result] at does
      exact does

omit [Fmod Double] in
/-- Sums, differences and products are those of the machine where those of integers fit. -/
theorem hazardArithmetic_eq (exact : ExactNumbers number) {onInts : ℤ → ℤ → ℤ}
    {onDoubles : Double → Double → Double} {a b : Value Double}
    (fits : ∀ x y, a = .int x → b = .int y → IsInt (onInts x y)) :
    hazardArithmetic number onInts onDoubles a b = .ok (arithmeticOf onInts onDoubles a b) := by
  cases a with
  | int x =>
      cases b with
      | int y =>
          have inRange := fits x y rfl rfl
          simp only [hazardArithmetic, arithmeticOf, intResult, if_pos inRange,
            wrapInt_of_isInt inRange]
          rfl
      | double y => exact hazardResultValue_eq exact _ _ _
      | string text => exact hazardResultValue_eq exact _ _ _
  | double x => exact hazardResultValue_eq exact _ _ _
  | string text => exact hazardResultValue_eq exact _ _ _

/-- An operation that comes to a hazard is not defined. -/
theorem Arithmetic.not_isDefined {operation : Arithmetic Double} {hazard : Hazard}
    (comes : operation.outcome number = .error hazard) : ¬ operation.IsDefined number := by
  rintro ⟨result, returned, -⟩
  rw [comes] at returned
  cases returned

/-- Sums, differences and products are defined exactly where those of integers fit. -/
theorem Arithmetic.isDefined_ring (exact : ExactNumbers number) {operation : Arithmetic Double}
    {onInts : ℤ → ℤ → ℤ} {onDoubles : Double → Double → Double} {a b : Value Double}
    (outcome : operation.outcome number = .ok <$> hazardArithmetic number onInts onDoubles a b)
    (done : operation.DoneBy (.ok (arithmeticOf onInts onDoubles a b)))
    (exactInt : ∀ exactly, operation.exactInt = some exactly →
      ∃ x y, a = .int x ∧ b = .int y ∧ exactly = onInts x y)
    (coercion : operation.coercion = none) :
    operation.IsDefined number ↔ ∀ x y, a = .int x → b = .int y → IsInt (onInts x y) := by
  constructor
  · rintro defined x y rfl rfl
    by_contra outside
    refine @Arithmetic.not_isDefined _ _ _ _ _ .signedOverflow ?_ defined
    rw [outcome]
    simp only [hazardArithmetic, intResult, if_neg outside]
    rfl
  · intro fits
    rw [hazardArithmetic_eq exact fits] at outcome
    refine ⟨_, outcome, done, by simp, ?_, by simp [coercion]⟩
    intro value exactly same isExact
    obtain ⟨x, y, rfl, rfl, rfl⟩ := exactInt exactly isExact
    simp only [arithmeticOf, Except.ok.injEq, Value.int.injEq] at same
    rw [← same, wrapInt_of_isInt (fits x y rfl rfl)]

omit [Doubles Double] [Fmod Double] in
/-- The quotient of two values of an `int` fits unless it is that of the least one by -1. -/
theorem isInt_tdiv_iff {x y : ℤ} (xInt : IsInt x) (nonzero : y ≠ 0) :
    IsInt (x.tdiv y) ↔ ¬ (x = intMin ∧ y = -1) := by
  constructor
  · rintro fits ⟨rfl, rfl⟩
    exact absurd fits (by decide)
  · intro notLeast
    unfold IsInt intMin intMax at *
    rcases eq_or_ne y (-1) with rfl | notNegated
    · rw [Int.tdiv_neg, Int.tdiv_one]
      omega
    · rcases eq_or_ne y 1 with rfl | notOne
      · rwa [Int.tdiv_one]
      · have quotient : (x.tdiv y).natAbs = x.natAbs / y.natAbs := Int.natAbs_tdiv x y
        have half : x.natAbs / y.natAbs ≤ x.natAbs / 2 :=
          Nat.div_le_div_left (by omega) (by decide)
        omega

omit [Fmod Double] in
/-- The number of a quotient of integers without its fraction. -/
theorem truncate_quotient (exact : ExactNumbers number) (x : ℤ) {y : ℤ} (nonzero : y ≠ 0) :
    truncate (number (Doubles.div (Doubles.ofInt x) (Doubles.ofInt y))) = x.tdiv y := by
  have divisor : number (Doubles.ofInt y) ≠ 0 := by
    rw [exact.ofInt]
    exact_mod_cast nonzero
  rw [exact.div _ _ divisor, exact.ofInt, exact.ofInt, truncate_div]

omit [Fmod Double] in
/-- An integer is zero as a number when it is zero. -/
theorem isZero_ofInt (exact : ExactNumbers number) (y : ℤ) :
    Doubles.eq (Doubles.ofInt y : Double) (Doubles.ofInt 0) = decide (y = 0) := by
  rw [exact.eq, exact.ofInt, exact.ofInt]
  simp

/-- A quotient of integers is defined exactly where it fits. -/
theorem Arithmetic.isDefined_div_ints (exact : ExactNumbers number) {x y : ℤ} (xInt : IsInt x)
    (done : (Arithmetic.div (.int x) (.int y)).DoneBy
      (quotientOf (.int x : Value Double) (.int y)))
    (documented : ∀ fault, quotientOf (.int x : Value Double) (.int y) = .error fault →
      fault ∈ (Arithmetic.div (.int x : Value Double) (.int y)).documentedErrors) :
    (Arithmetic.div (.int x) (.int y)).IsDefined number ↔
      (Arithmetic.div (.int x) (.int y)).Safe number := by
  have zeroDivisor := isZero_ofInt exact y
  by_cases zero : y = 0
  · rw [decide_eq_true zero] at zeroDivisor
    have fails : quotientOf (.int x : Value Double) (.int y) = .error divideByZero := by
      simp only [quotientOf, coerceToDouble, zeroDivisor]
      rfl
    have comes : hazardQuotient number (.int x : Value Double) (.int y) =
        .ok (.error divideByZero) := by
      simp only [hazardQuotient, coerceToDouble, zeroDivisor]
      rfl
    rw [fails] at done documented
    refine iff_of_true ⟨_, comes, done, documented, by simp, by simp [Arithmetic.coercion]⟩ ?_
    rintro ⟨-, rfl⟩
    exact absurd zero (by decide)
  · rw [decide_eq_false zero] at zeroDivisor
    have truncated := truncate_quotient exact x zero
    rw [Arithmetic.Safe, ← isInt_tdiv_iff xInt zero]
    constructor
    · intro defined
      by_contra outside
      refine @Arithmetic.not_isDefined _ _ _ _ _ .conversion ?_ defined
      simp only [Arithmetic.outcome, hazardQuotient, coerceToDouble, zeroDivisor, castToInt,
        truncated, if_neg outside]
      rfl
    · intro fits
      have returns : quotientOf (.int x : Value Double) (.int y) = .ok (.int (x.tdiv y)) := by
        have converted := exact.toInt _ (truncated ▸ fits)
        rw [truncated] at converted
        simp only [quotientOf, coerceToDouble, zeroDivisor, converted]
        rfl
      have comes : hazardQuotient number (.int x : Value Double) (.int y) =
          .ok (.ok (.int (x.tdiv y))) := by
        simp only [hazardQuotient, coerceToDouble, zeroDivisor,
          castToInt_of_isInt exact (truncated ▸ fits), truncated]
        rfl
      rw [returns] at done documented
      refine ⟨_, comes, done, documented, ?_, by simp [Arithmetic.coercion]⟩
      intro value exactly same isExact
      cases same
      cases isExact
      rfl

/-- A quotient is defined exactly where that of integers fits. -/
theorem Arithmetic.isDefined_div (exact : ExactNumbers number) {a b : Value Double}
    (inRange : (Arithmetic.div a b).InRange) :
    (Arithmetic.div a b).IsDefined number ↔ (Arithmetic.div a b).Safe number := by
  have done : (Arithmetic.div a b).DoneBy (quotientOf a b) :=
    fun World host stack => does_binaryOperation quotientOf (fun _ => rfl) stack
  have documented : ∀ fault, quotientOf a b = .error fault →
      fault ∈ (Arithmetic.div a b).documentedErrors := by
    intro fault failed
    unfold quotientOf at failed
    split at failed
    · cases failed
      exact List.mem_singleton_self _
    · dsimp only at failed
      split at failed <;> cases failed
  -- Only two integers give an integer.
  have others (same : hazardQuotient number a b = .ok (quotientOf a b))
      (noInt : (Arithmetic.div a b).exactInt = none) : (Arithmetic.div a b).IsDefined number :=
    ⟨_, same, done, documented, by simp [noInt], by simp [Arithmetic.coercion]⟩
  cases a with
  | int x =>
      cases b with
      | int y => exact Arithmetic.isDefined_div_ints exact inRange.1 done documented
      | double y =>
          exact iff_of_true (others (by unfold hazardQuotient quotientOf; split <;> rfl) rfl)
            trivial
      | string text =>
          exact iff_of_true (others (by unfold hazardQuotient quotientOf; split <;> rfl) rfl)
            trivial
  | double x =>
      exact iff_of_true (others (by unfold hazardQuotient quotientOf; split <;> rfl) rfl) trivial
  | string text =>
      exact iff_of_true (others (by unfold hazardQuotient quotientOf; split <;> rfl) rfl) trivial

omit [Doubles Double] [Fmod Double] in
/-- What `MOD` leaves for two values. -/
def remainderOf : Value Double → Value Double → Except Fault (Value Double)
  | .int a, .int b => if b = 0 then .error modByZero else .ok (.int (a.tmod b))
  | _, _ => .error modExpectsInt

omit [Fmod Double] in
/-- What `MOD` does. -/
theorem does_mod (a b : Value Double) (host : Host Double World) (stack : List (Value Double)) :
    RowDoes host [{ op := .mod }] (b :: a :: stack) (leaving stack (remainderOf a b)) := by
  refine .one fun ip => ⟨_, rfl, fun environment => ?_⟩
  cases b with
  | int y =>
      cases a with
      | int x =>
          have computes : Program.exec modulo { stack := .int y :: .int x :: stack, environment } =
              Program.exec (if y = 0 then throw modByZero else push (.int (x.tmod y)))
                { stack, environment } := rfl
          by_cases zero : y = 0
          · rw [remainderOf, if_pos zero]
            rw [if_pos zero] at computes
            exact ⟨_, computes⟩
          · rw [remainderOf, if_neg zero]
            rw [if_neg zero] at computes
            exact computes
      | double x => exact ⟨_, rfl⟩
      | string text => exact ⟨_, rfl⟩
  | double y => cases a <;> exact ⟨_, rfl⟩
  | string text => cases a <;> exact ⟨_, rfl⟩

/-- A remainder is defined unless it is that of the least `int` by -1. -/
theorem Arithmetic.isDefined_mod (a b : Value Double) :
    (Arithmetic.mod a b).IsDefined number ↔ (Arithmetic.mod a b).Safe number := by
  have done : (Arithmetic.mod a b).DoneBy (remainderOf a b) :=
    fun World host stack => does_mod a b host stack
  have documented : ∀ fault, remainderOf a b = .error fault →
      fault ∈ (Arithmetic.mod a b).documentedErrors := by
    intro fault failed
    unfold remainderOf at failed
    split at failed
    · split at failed <;> cases failed
      exact List.mem_cons_self
    · cases failed
      exact List.mem_cons_of_mem _ List.mem_cons_self
  have others (same : hazardRemainder a b = .ok (remainderOf a b))
      (exactly : ∀ value exactly, remainderOf a b = .ok (.int value) →
        (Arithmetic.mod a b).exactInt = some exactly → value = exactly) :
      (Arithmetic.mod a b).IsDefined number :=
    ⟨_, same, done, documented, exactly, by simp [Arithmetic.coercion]⟩
  cases a with
  | int x =>
      cases b with
      | int y =>
          constructor
          · rintro defined ⟨rfl, rfl⟩
            exact Arithmetic.not_isDefined rfl defined
          · intro safe
            refine others ?_ ?_
            · unfold hazardRemainder remainderOf
              dsimp only
              split
              · rfl
              · rw [intRemainder, if_neg safe]
                rfl
            · intro value exactly same isExact
              unfold remainderOf at same
              dsimp only at same
              split at same
              · cases same
              · cases same
                cases isExact
                rfl
      | double y => exact iff_of_true (others rfl (by simp [Arithmetic.exactInt])) trivial
      | string text => exact iff_of_true (others rfl (by simp [Arithmetic.exactInt])) trivial
  | double x => exact iff_of_true (others rfl (by simp [Arithmetic.exactInt])) trivial
  | string text => exact iff_of_true (others rfl (by simp [Arithmetic.exactInt])) trivial

omit [Fmod Double] in
/-- What a value is taken as: its number without the fraction, or 0 outside the range. -/
theorem coerceToInt_eq (exact : ExactNumbers number) (v : Value Double) :
    coerceToInt v =
      if (intMin : ℚ) ≤ Arithmetic.numberOf number v ∧ Arithmetic.numberOf number v ≤ intMax then
        truncate (Arithmetic.numberOf number v)
      else 0 := by
  unfold coerceToInt Arithmetic.numberOf
  dsimp only
  rw [outOfRange_iff exact]
  split
  · next outside =>
      rw [decide_eq_true_iff] at outside
      rw [if_neg]
      rintro ⟨low, high⟩
      rcases outside with below | above
      · exact absurd low (not_le.mpr below)
      · exact absurd high (not_le.mpr above)
  · next inside =>
      rw [decide_eq_true_iff, not_or, not_lt, not_lt] at inside
      rw [if_pos inside]
      exact exact.toInt _ (isInt_truncate inside.1 inside.2)

omit [Fmod Double] in
/-- A value as an integer is an `int`. -/
theorem isInt_coerceToInt (exact : ExactNumbers number) (v : Value Double) :
    IsInt (coerceToInt v) := by
  rw [coerceToInt_eq exact]
  split
  · next inside => exact isInt_truncate inside.1 inside.2
  · decide

omit [Fmod Double] in
/-- The least `int` comes from its own number only. -/
theorem coerceToInt_eq_intMin (exact : ExactNumbers number) (v : Value Double) :
    coerceToInt v = intMin ↔ Arithmetic.numberOf number v = intMin := by
  rw [coerceToInt_eq exact]
  split
  · next inside => exact truncate_eq_intMin inside.1
  · next outside =>
      refine iff_of_false (by decide) fun least => outside ?_
      rw [least]
      exact ⟨le_rfl, by exact_mod_cast (by decide : intMin ≤ intMax)⟩

omit [Fmod Double] in
/-- An integer in the range is taken as itself. -/
theorem coerceToInt_of_int (exact : ExactNumbers number) {x : ℤ} (inRange : IsInt x) :
    coerceToInt (.int x : Value Double) = x := by
  have itself : Arithmetic.numberOf number (.int x) = x := exact.ofInt x
  rw [coerceToInt_eq exact, itself, truncate_intCast, if_pos]
  exact ⟨by exact_mod_cast inRange.1, by exact_mod_cast inRange.2⟩

/-- Absolute values are defined except for that of the least `int`. -/
theorem Arithmetic.isDefined_abs (exact : ExactNumbers number) {operation : Arithmetic Double}
    {v : Value Double} (inRange : v.InRange)
    (outcome : operation.outcome number = .ok <$> hazardAbs number v)
    (done : operation.DoneBy (.ok (.int (wrapInt (coerceToInt v).natAbs))))
    (exactInt : ∀ exactly, operation.exactInt = some exactly →
      ∃ x, v = .int x ∧ exactly = x.natAbs)
    (coercion : operation.coercion = none) :
    operation.IsDefined number ↔ numberOf number v ≠ intMin := by
  have taken := isInt_coerceToInt exact v
  have fits : IsInt (coerceToInt v).natAbs ↔ numberOf number v ≠ intMin := by
    rw [Ne, ← coerceToInt_eq_intMin exact]
    unfold IsInt intMin intMax at *
    omega
  rw [← fits]
  constructor
  · intro defined
    by_contra outside
    refine @Arithmetic.not_isDefined _ _ _ _ _ .signedOverflow ?_ defined
    rw [outcome, hazardAbs, hazardCoerceToInt_eq exact]
    change Except.ok <$> (intResult _ >>= _) = _
    rw [intResult, if_neg outside]
    rfl
  · intro inside
    have comes : operation.outcome number =
        .ok (.ok (.int (wrapInt (coerceToInt v).natAbs))) := by
      rw [outcome, hazardAbs, hazardCoerceToInt_eq exact]
      change Except.ok <$> (intResult _ >>= _) = _
      rw [intResult, if_pos inside, wrapInt_of_isInt inside]
      rfl
    refine ⟨_, comes, done, by simp, ?_, by simp [coercion]⟩
    intro value exactly same isExact
    obtain ⟨x, rfl, rfl⟩ := exactInt exactly isExact
    rw [coerceToInt_of_int exact inRange] at same inside
    rw [wrapInt_of_isInt inside] at same
    exact (Value.int.inj (Except.ok.inj same)).symm

/-- A loop counts on exactly where the next value fits. -/
theorem Arithmetic.isDefined_forNext (exact : ExactNumbers number)
    {current : Option (Value Double)} {step : ℤ}
    (inRange : (Arithmetic.forNext current step).InRange) :
    (Arithmetic.forNext current step).IsDefined number ↔
      (Arithmetic.forNext current step).Safe number := by
  have outcome : (Arithmetic.forNext current step).outcome number =
      (do
        let newVal ← intResult ((current.map coerceToInt).getD 0 + step)
        return .ok (.int newVal)) := by
    cases current with
    | none => rfl
    | some value =>
        simp only [Arithmetic.outcome, hazardCoerceToInt_eq exact]
        rfl
  rw [Safe]
  constructor
  · intro defined
    by_contra outside
    refine @Arithmetic.not_isDefined _ _ _ _ _ .signedOverflow ?_ defined
    rw [outcome, intResult, if_neg outside]
    rfl
  · intro fits
    have comes : (Arithmetic.forNext current step).outcome number =
        .ok (.ok (.int ((current.map coerceToInt).getD 0 + step))) := by
      rw [outcome, intResult, if_pos fits]
      rfl
    refine ⟨_, comes, ?_, by simp, ?_, by simp [Arithmetic.coercion]⟩
    · rintro variableMap frame rfl rfl
      rw [nextLoopValue, wrapInt_of_isInt fits]
    · intro value exactly same isExact
      cases current with
      | none => cases isExact
      | some operand =>
          cases operand with
          | int x =>
              cases isExact
              rw [Option.map_some, Option.getD_some,
                coerceToInt_of_int exact (inRange.1 _ rfl)] at same
              exact (Value.int.inj (Except.ok.inj same)).symm
          | double x => cases isExact
          | string text => cases isExact

/-- `INT` is defined and the same as `COERCE_INT` exactly for the numbers of the range. -/
theorem Arithmetic.isDefined_builtinInt (exact : ExactNumbers number) {v : Value Double}
    (inRange : v.InRange) :
    (Arithmetic.builtinInt v).IsDefined number ↔ (Arithmetic.builtinInt v).Safe number := by
  have coerced := coerceToInt_eq exact v
  rw [Safe]
  constructor
  · rintro ⟨result, comes, -, -, -, same⟩
    by_contra outside
    rw [if_neg outside] at coerced
    obtain rfl := same _ rfl
    rw [coerced] at comes
    -- Outside the range the number is at least as far from 0 as an end of the range.
    have nonzero : truncate (numberOf number v) ≠ 0 := by
      rcases not_and_or.mp outside with below | above
      · have least := truncate_mono (not_le.mp below).le
        rw [truncate_intCast] at least
        exact (lt_of_le_of_lt least (by decide)).ne
      · have greatest := truncate_mono (not_le.mp above).le
        rw [truncate_intCast] at greatest
        exact (lt_of_lt_of_le (by decide) greatest).ne'
    change (castToInt number (coerceToDouble v) >>= _) = _ at comes
    by_cases fits : IsInt (truncate (number (coerceToDouble v)))
    · rw [castToInt_of_isInt exact fits] at comes
      exact nonzero (Value.int.inj (Except.ok.inj (Except.ok.inj comes)))
    · rw [castToInt, if_neg fits] at comes
      cases comes
  · intro inside
    rw [if_pos inside] at coerced
    have converted := castToInt_of_isInt exact (isInt_truncate inside.1 inside.2)
    have comes : (Arithmetic.builtinInt v).outcome number = .ok (.ok (.int (coerceToInt v))) := by
      rw [coerced]
      change (castToInt number (coerceToDouble v) >>= _) = _
      rw [converted]
      rfl
    refine ⟨_, comes, ?_, by simp, ?_, ?_⟩
    · intro World status stack world
      rw [coerced, numberOf, ← exact.toInt _ (isInt_truncate inside.1 inside.2)]
      rfl
    · intro value exactly same isExact
      cases v with
      | int x =>
          cases isExact
          rw [coerceToInt_of_int exact inRange] at same
          exact (Value.int.inj (Except.ok.inj same)).symm
      | double x => cases isExact
      | string text => cases isExact
    · intro expected same
      cases same
      rfl

/-- The builtin `MOD` is defined for all values. -/
theorem Arithmetic.isDefined_builtinMod (a b : Value Double) :
    (Arithmetic.builtinMod a b).IsDefined number := by
  by_cases zero : Doubles.eq (coerceToDouble b) (Doubles.ofInt 0)
  · refine ⟨.error builtinModByZero, ?_, ?_, ?_, by simp, by simp [Arithmetic.coercion]⟩
    · simp only [Arithmetic.outcome, zero, if_true]
    · intro World status stack world
      simp only [handlerMod, binaryHandler, zero, if_true]
      rfl
    · rintro fault same
      cases same
      exact List.mem_singleton_self _
  · refine ⟨.ok (.double (Fmod.fmod (coerceToDouble a) (coerceToDouble b))), ?_, ?_, by simp,
      by simp, by simp [Arithmetic.coercion]⟩
    · simp only [Arithmetic.outcome, zero]
      rfl
    · intro World status stack world
      simp only [handlerMod, binaryHandler, zero]
      rfl

/-- An arithmetic operation on values of the machine is defined exactly where its operands lead
to no hazard. -/
theorem arithmetic_isDefined_iff (exact : ExactNumbers number) (operation : Arithmetic Double)
    (inRange : operation.InRange) : operation.IsDefined number ↔ operation.Safe number := by
  cases operation with
  | add a b =>
      have done : (Arithmetic.add a b).DoneBy (.ok (arithmeticOf (· + ·) Doubles.add a b)) :=
        fun World host stack => does_binaryOperation
          (fun a b => .ok (arithmeticOf (· + ·) Doubles.add a b)) (fun _ => rfl) stack
      rw [Arithmetic.isDefined_ring exact rfl done
        (by cases a <;> cases b <;> simp [Arithmetic.exactInt, eq_comm]) rfl]
      cases a <;> cases b <;> simp [Arithmetic.Safe]
  | sub a b =>
      have done : (Arithmetic.sub a b).DoneBy (.ok (arithmeticOf (· - ·) Doubles.sub a b)) :=
        fun World host stack => does_binaryOperation
          (fun a b => .ok (arithmeticOf (· - ·) Doubles.sub a b)) (fun _ => rfl) stack
      rw [Arithmetic.isDefined_ring exact rfl done
        (by cases a <;> cases b <;> simp [Arithmetic.exactInt, eq_comm]) rfl]
      cases a <;> cases b <;> simp [Arithmetic.Safe]
  | mul a b =>
      have done : (Arithmetic.mul a b).DoneBy (.ok (arithmeticOf (· * ·) Doubles.mul a b)) :=
        fun World host stack => does_binaryOperation
          (fun a b => .ok (arithmeticOf (· * ·) Doubles.mul a b)) (fun _ => rfl) stack
      rw [Arithmetic.isDefined_ring exact rfl done
        (by cases a <;> cases b <;> simp [Arithmetic.exactInt, eq_comm]) rfl]
      cases a <;> cases b <;> simp [Arithmetic.Safe]
  | div a b => exact Arithmetic.isDefined_div exact inRange
  | mod a b => exact Arithmetic.isDefined_mod a b
  | absInt v =>
      exact Arithmetic.isDefined_abs exact inRange rfl
        (fun World host stack => .one fun ip => ⟨_, rfl, fun environment => rfl⟩)
        (by cases v <;> simp [Arithmetic.exactInt, eq_comm]) rfl
  | forNext current step => exact Arithmetic.isDefined_forNext exact inRange
  | builtinAbs v =>
      exact Arithmetic.isDefined_abs exact inRange rfl (fun World status stack world => rfl)
        (by cases v <;> simp [Arithmetic.exactInt, eq_comm]) rfl
  | builtinInt v => exact Arithmetic.isDefined_builtinInt exact inRange
  | builtinMod a b => exact iff_of_true (Arithmetic.isDefined_builtinMod a b) trivial

end Operations

/-- Rational numbers in place of doubles. -/
@[reducible]
def rationalDoubles : Doubles ℚ where
  ofInt value := value
  add := (· + ·)
  sub := (· - ·)
  mul := (· * ·)
  div := (· / ·)
  lt a b := a < b
  le a b := a ≤ b
  eq a b := a = b
  floor value := ⌊value⌋
  toInt := truncate
  strtod text := (scanInteger text).map fun (negative, magnitude, rest) =>
    { number := signed negative magnitude, rest, rangeError := false }
  print _ value := (toString value).toList

/-- The remainder with the sign of the dividend. -/
instance rationalFmod : Fmod ℚ where
  fmod a b := a - truncate (a / b) * b

/-- The rational numbers are exact. -/
theorem rationalDoubles_exact : @ExactNumbers ℚ rationalDoubles id :=
  @ExactNumbers.mk ℚ rationalDoubles id (fun _ => rfl) (fun _ _ _ => rfl) (fun _ _ => rfl)
    (fun _ _ => rfl) (fun _ _ => rfl) (fun _ => rfl) (fun _ _ => rfl)

/-- -7 divided by 2 is -3. -/
theorem quotient_isDefined :
    @Arithmetic.IsDefined ℚ rationalDoubles id rationalFmod (.div (.int (-7)) (.int 2)) :=
  (@arithmetic_isDefined_iff ℚ rationalDoubles id rationalFmod rationalDoubles_exact
    (.div (.int (-7)) (.int 2)) ⟨⟨by decide, by decide⟩, ⟨by decide, by decide⟩⟩).mpr
      fun least => absurd least.2 (by decide)

/-- The least `int` divided by -1, its remainder by -1 and its absolute value have no defined
result; nor has a sum past the greatest, nor `INT` of a number past it, where `COERCE_INT` has
one. -/
theorem arithmetic_has_hazards :
    (¬ @Arithmetic.IsDefined ℚ rationalDoubles id rationalFmod (.mod (.int intMin) (.int (-1)))) ∧
    (¬ @Arithmetic.IsDefined ℚ rationalDoubles id rationalFmod (.div (.int intMin) (.int (-1)))) ∧
    (¬ @Arithmetic.IsDefined ℚ rationalDoubles id rationalFmod (.absInt (.int intMin))) ∧
    (¬ @Arithmetic.IsDefined ℚ rationalDoubles id rationalFmod (.add (.int intMax) (.int 1))) ∧
    ¬ @Arithmetic.IsDefined ℚ rationalDoubles id rationalFmod
      (.builtinInt (.string "2147483648")) := by
  refine ⟨?_, ?_, ?_, ?_, ?_⟩
  · exact @Arithmetic.not_isDefined ℚ rationalDoubles id rationalFmod _ .trappingDivision rfl
  · exact @Arithmetic.not_isDefined ℚ rationalDoubles id rationalFmod _ .conversion
      (by decide +kernel)
  · exact @Arithmetic.not_isDefined ℚ rationalDoubles id rationalFmod _ .signedOverflow
      (by decide +kernel)
  · exact @Arithmetic.not_isDefined ℚ rationalDoubles id rationalFmod _ .signedOverflow rfl
  · exact @Arithmetic.not_isDefined ℚ rationalDoubles id rationalFmod _ .conversion
      (by decide +kernel)

end Gemini.VM
