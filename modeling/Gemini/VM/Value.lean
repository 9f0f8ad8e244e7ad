import Mathlib.Algebra.Ring.Int.Defs
import Mathlib.Algebra.Ring.Nat
import Mathlib.Data.List.DropRight

/-!
# Values of the machine and their coercions

A `Value` is a `std::variant` of an `int`, a `double` and a string. Integers are `Int`; where
the source computes with `int` the result is wrapped to 32 bits. A `std::string` is a
`String` whose characters stand for bytes.

Nothing in the machine depends on how a `double` is represented. The type of the doubles is
a parameter, and `Doubles` lists the operations of the language and of its library that the
source applies to them.
-/

namespace Gemini.VM

/-! ## Integers -/

/-- The least `int`. -/
def intMin : Int := -2 ^ 31

/-- The greatest `int`. -/
def intMax : Int := 2 ^ 31 - 1

/-- The value of an `int` computation in 32 bits. -/
def wrapInt (value : Int) : Int := Int.bmod value (2 ^ 32)

/-! ## Doubles -/

/-- What `strtod` finds: the number, the text after it, and whether it set `errno`. -/
structure Strtod (Double : Type) where
  number : Double
  rest : List Char
  rangeError : Bool

/-- The operations on `double` that the machine uses. -/
class Doubles (Double : Type) where
  ofInt : Int → Double
  add : Double → Double → Double
  sub : Double → Double → Double
  mul : Double → Double → Double
  div : Double → Double → Double
  lt : Double → Double → Bool
  le : Double → Double → Bool
  eq : Double → Double → Bool
  floor : Double → Double
  /-- `static_cast<int>`. -/
  toInt : Double → Int
  /-- `std::strtod`; nothing when no conversion is made. -/
  strtod : List Char → Option (Strtod Double)
  /-- `operator<<` on a stream with the given precision. -/
  print : Nat → Double → List Char

/-- Whole numbers in place of doubles, for programs that have no fractions. -/
instance wholeDoubles : Doubles Int where
  ofInt number := number
  add := (· + ·)
  sub := (· - ·)
  mul := (· * ·)
  div := Int.tdiv
  lt a b := a < b
  le a b := a ≤ b
  eq a b := a = b
  floor number := number
  toInt number := number
  strtod text :=
    if text.isEmpty || !text.all Char.isDigit then none
    else some { number := Nat.ofDigitChars 10 text 0, rest := [], rangeError := false }
  print _ number := (toString number).toList

/-- The precision of a stream that was given none. -/
def defaultPrecision : Nat := 6

/-- The characters a C string function sees. -/
def cString (text : String) : List Char := text.toList.takeWhile (· ≠ Char.ofNat 0)

/-! ## Values -/

/-- The values of a program. -/
inductive Value (Double : Type) where
  | int (number : Int)
  | double (number : Double)
  | string (text : String)
deriving DecidableEq

variable {Double : Type} [Doubles Double]

/-- `std::isspace` in the C locale. -/
def isSpace (c : Char) : Bool := c = ' ' || 9 ≤ c.toNat && c.toNat ≤ 13

/-- Drops what follows the last digit that is not a zero, and keeps a digit after the point. -/
def trimFraction (text : List Char) : List Char :=
  if text.contains '.' then
    let kept := text.rdropWhile (· = '0')
    if kept.getLast? = some '.' then kept ++ ['0'] else kept
  else text

/-- `valueToString`. -/
def valueToString : Value Double → String
  | .string text => text
  | .double number => String.ofList (trimFraction (Doubles.print 15 number))
  | .int number => toString number

/-- `coerceToDouble`. -/
def coerceToDouble : Value Double → Double
  | .int number => Doubles.ofInt number
  | .double number => number
  | .string text =>
      if text = "" then Doubles.ofInt 0
      else
        match Doubles.strtod (cString text) with
        | none => Doubles.ofInt 0
        | some found => if found.rangeError then Doubles.ofInt 0 else found.number

variable (Double) in
/-- `stringHasTrailingNonNumericJunk`. -/
def stringHasTrailingNonNumericJunk (text : String) : Bool :=
  if text = "" then false
  else
    match (Doubles.strtod (cString text) : Option (Strtod Double)) with
    | none => false
    | some found => !found.rangeError && !(found.rest.dropWhile isSpace).isEmpty

/-- `arithmeticOperandForcesDoubleResult`. -/
def arithmeticOperandForcesDoubleResult : Value Double → Bool
  | .double _ => true
  | .int _ => false
  | .string text => stringHasTrailingNonNumericJunk Double text

/-- `arithmeticResultValue`. -/
def arithmeticResultValue (a b : Value Double) (result : Double) : Value Double :=
  if !(arithmeticOperandForcesDoubleResult a || arithmeticOperandForcesDoubleResult b) &&
      Doubles.le (Doubles.ofInt intMin) result && Doubles.le result (Doubles.ofInt intMax) &&
      Doubles.eq result (Doubles.floor result) then
    .int (Doubles.toInt result)
  else .double result

/-- `coerceToInt`: 0 for a number that is no `int`. -/
def coerceToInt (value : Value Double) : Int :=
  let n := coerceToDouble value
  if Doubles.lt n (Doubles.ofInt intMin) || Doubles.lt (Doubles.ofInt intMax) n then 0
  else Doubles.toInt n

/-- The result of `compareValues`; nothing when the types do not match. -/
def compareValues : Value Double → Value Double → Option Ordering
  | .string a, .string b => some (compare a b)
  | .string _, _ => none
  | _, .string _ => none
  | a, b =>
      let ia := coerceToDouble a
      let ib := coerceToDouble b
      some (if Doubles.lt ia ib then .lt else if Doubles.lt ib ia then .gt else .eq)

/-! ## Input lines -/

/-- The characters of `find_first_not_of(" \t\r\n")`. -/
def isBlank (c : Char) : Bool := c = ' ' || c = '\t' || c = '\r' || c = '\n'

/-- `trim`. -/
def trim (text : List Char) : List Char := (text.dropWhile isBlank).rdropWhile isBlank

/-- The integer that the functions of the `stoi` family find: whether it has a minus sign,
its magnitude, and the characters after it. -/
def scanInteger (text : List Char) : Option (Bool × Nat × List Char) :=
  let body := text.dropWhile isSpace
  let unsigned := if body.head? = some '-' || body.head? = some '+' then body.tail else body
  let digits := unsigned.takeWhile Char.isDigit
  if digits.isEmpty then none
  else
    some (body.head? = some '-', Nat.ofDigitChars 10 digits 0, unsigned.dropWhile Char.isDigit)

/-- A number from its sign and its magnitude. -/
def signed (negative : Bool) (magnitude : Nat) : Int :=
  if negative then -(magnitude : Int) else magnitude

/-- `std::stoi`: the number and the characters after it. -/
def stoi (text : List Char) : Option (Int × List Char) := do
  let (negative, magnitude, rest) ← scanInteger text
  let number := signed negative magnitude
  if number < intMin || intMax < number then none else some (number, rest)

/-- A line as an integer. -/
def parseIntLine (line : List Char) : Option Int :=
  if line.all isBlank then none
  else
    match stoi (trim line) with
    | some (value, []) => some value
    | _ => none

/-- A line as a number. -/
def parseFltLine (line : List Char) : Option Double :=
  if line.all isBlank then none
  else
    match Doubles.strtod (cString (String.ofList (trim line))) with
    | some found =>
        if found.rangeError || !found.rest.isEmpty ||
            (trim line).contains (Char.ofNat 0) then none
        else some found.number
    | none => none

/-! ## Names -/

/-- `canonicalVariableName`. -/
def canonicalVariableName (raw : String) : String := raw.map Char.toUpper

/-- `isReadOnlySystemVariableName`. -/
def isReadOnlySystemVariableName (canonical : String) : Bool :=
  canonical = "@USERNO" || canonical = "@ACCOUNT" || canonical = "@LOGNAME" ||
    canonical = "@DEFDATA"

end Gemini.VM
