import Gemini.Data.Calendar
import Gemini.Data.Cuts
import Gemini.VM.Numerals

/-!
# The conversion codes

`PickIconv` and `PickOconv`: one table of codes for BASIC and for the dictionaries, and the
entry points that BASIC and the correlatives call. `gmtime_r` is the proleptic Gregorian
calendar. Where the source computes with `long long` the result is wrapped to 64 bits.
-/

namespace Gemini.Conversion

open Gemini.VM
open Gemini.Data (stripped)
open Gemini.Data.Calendar (Date ofDayNumber)

/-! ## Texts and streams -/

/-- `trimmed`. -/
def trimmed (text : String) : String := String.ofList (stripped isSpace text.toList)

/-- `std::toupper` on every character. -/
def upperCopy (text : String) : String := text.map Char.toUpper

/-- A text in capitals is kept. -/
theorem upperCopy_of_upper {text : String} (upper : text.toList.map Char.toUpper = text.toList) :
    upperCopy text = text := by
  rw [← String.toList_inj, upperCopy, String.toList_map, upper]

/-- `iss >> word`. -/
def extractWord (text : List Char) : Option (List Char × List Char) :=
  let body := text.dropWhile isSpace
  if body.isEmpty then none
  else some (body.takeWhile fun c => !isSpace c, body.dropWhile fun c => !isSpace c)

/-- `iss >> c`. -/
def extractChar (text : List Char) : Option (Char × List Char) :=
  match text.dropWhile isSpace with
  | [] => none
  | c :: rest => some (c, rest)

/-- `iss >> number` for an `int`. -/
def extractInt (text : List Char) : Option (Int × List Char) := stoi text

/-- `%02d` of a number that is not negative. -/
def twoDigits (number : Nat) : List Char :=
  if number < 10 then '0' :: Nat.toDigits 10 number else Nat.toDigits 10 number

/-! ## Dates -/

/-- The Pick day of 1 January 1970. -/
def kPickInternalDateAtUnixEpoch : Int := 732

/-- The days from the first of January of the year 1 to that of the year 1970. -/
def unixEpoch : Int := 719162

/-- The day count of `daysFromCivil`; its `unsigned` values stay small. -/
def daysFromCivil (y : Int) (m d : Nat) : Int :=
  let yAdj := y - (if m ≤ 2 then 1 else 0)
  let era := (if 0 ≤ yAdj then yAdj else yAdj - 399).tdiv 400
  let yoe := (yAdj - era * 400).toNat
  let doy := (153 * (if 2 < m then m - 3 else m + 9) + 2) / 5 + d - 1
  let doe := yoe * 365 + yoe / 4 - yoe / 100 + doy
  era * 146097 + doe - 719468

/-- The short names of the months. -/
def months : List String :=
  ["jan", "feb", "mar", "apr", "may", "jun", "jul", "aug", "sep", "oct", "nov", "dec"]

/-- The month whose abbreviation a word starts with, in any case. -/
def monthIndex (monStr : List Char) : Option Nat :=
  let head := (monStr.map Char.toLower).take 3
  if 3 ≤ monStr.length then months.findIdx? fun month => month.toList = head else none

/-- The Pick day of a text `DD MON YYYY`. -/
def pickDayFromDateString (text : List Char) : Option Int := do
  let (day, afterDay) ← extractInt text
  let (monStr, afterMonth) ← extractWord afterDay
  let (year, rest) ← extractInt afterMonth
  if !(rest.dropWhile isSpace).isEmpty then none
  else if day < 1 || 31 < day || year < 1 || 9999 < year then none
  else
    let monthIdx ← monthIndex monStr
    some (daysFromCivil year (monthIdx + 1) day.toNat + kPickInternalDateAtUnixEpoch)

/-- The names of the months in `strftime`. -/
def monthNames : List String :=
  ["Jan", "Feb", "Mar", "Apr", "May", "Jun", "Jul", "Aug", "Sep", "Oct", "Nov", "Dec"]

/-- `strftime` with `%d %b %Y`. -/
def dateText (date : Date) : List Char :=
  twoDigits date.day ++ ' ' :: ((monthNames.getD (date.month - 1) "?").toList ++
    ' ' :: (toString date.year).toList)

/-- A Pick day as `DD MON YYYY`. -/
def dateStringFromPickDay (day : Int) : List Char :=
  dateText (ofDayNumber (day - kPickInternalDateAtUnixEpoch + unixEpoch))

/-! ## Times -/

/-- The seconds of a time, where it has them. -/
def secondsPart (wantSeconds : Bool) (afterM : List Char) : Option (Int × List Char) :=
  if wantSeconds then do
    let (c2, afterC2) ← extractChar afterM
    let (sec, rest) ← extractInt afterC2
    if c2 = ':' then some (sec, rest) else none
  else some (0, afterM)

/-- The seconds of a text `HH:MM` or `HH:MM:SS`. -/
def secondsFromTimeString (text : List Char) (wantSeconds : Bool) : Option Int := do
  let (h, afterH) ← extractInt text
  let (c1, afterC1) ← extractChar afterH
  let (m, afterM) ← extractInt afterC1
  let (sec, rest) ← secondsPart wantSeconds afterM
  if c1 ≠ ':' then none
  else if !(rest.dropWhile isSpace).isEmpty then none
  else if h < 0 || 23 < h || m < 0 || 59 < m || sec < 0 || 59 < sec then none
  else some (h * 3600 + m * 60 + sec)

/-- Seconds as a time of the day. -/
def timeStringFromSeconds (n : Int) (wantSeconds : Bool) : List Char :=
  let rest := n.tmod 86400
  let inDay := (if rest < 0 then rest + 86400 else rest).toNat
  let hoursAndMinutes := twoDigits (inDay / 3600) ++ ':' :: twoDigits (inDay / 60 % 60)
  if wantSeconds then hoursAndMinutes ++ ':' :: twoDigits (inDay % 60) else hoursAndMinutes

/-! ## Decimal numbers -/

/-- The value of a `long long` computation in 64 bits. -/
def wrapLong (value : Int) : Int := Int.bmod value (2 ^ 64)

/-- `intPart * 10 + (s[i] - '0')`. -/
def appendDigit (value : Int) (c : Char) : Int := wrapLong (value * 10 + (c.toNat - 48 : Nat))

/-- The loop over the digits after the point. -/
structure FractionLoop where
  fracPart : Int := 0
  fracDigits : Nat := 0
  roundDigit : Option Nat := none

/-- A digit of the fraction: it is kept, decides the rounding, or is dropped. -/
def FractionLoop.step (decimals : Nat) (loop : FractionLoop) (c : Char) : FractionLoop :=
  if loop.fracDigits < decimals then
    { loop with fracPart := appendDigit loop.fracPart c, fracDigits := loop.fracDigits + 1 }
  else if loop.roundDigit = none then { loop with roundDigit := some (c.toNat - 48) }
  else loop

/-- The product that two loops of the source compute one factor at a time. -/
def timesTen (value : Int) : Nat → Int
  | 0 => value
  | count + 1 => timesTen (wrapLong (value * 10)) count

/-- Whether there is a minus sign, and what follows the sign. -/
def takeSign : List Char → Bool × List Char
  | '-' :: rest => (true, rest)
  | '+' :: rest => (false, rest)
  | text => (false, text)

/-- The digits after a point, and what follows them. -/
def takeFraction : List Char → List Char × List Char
  | '.' :: rest => (rest.takeWhile Char.isDigit, rest.dropWhile Char.isDigit)
  | text => ([], text)

/-- `parseMdScaled`; the sum is a `long long` that wraps round. -/
def parseMdScaled (text : List Char) (decimals : Nat) : Option Int :=
  let (negative, unsigned) := takeSign text
  let whole := unsigned.takeWhile Char.isDigit
  let (fraction, rest) := takeFraction (unsigned.dropWhile Char.isDigit)
  let intPart := whole.foldl appendDigit 0
  let loop := fraction.foldl (FractionLoop.step decimals) {}
  if !rest.isEmpty || (whole.isEmpty && fraction.isEmpty) then none
  else
    let fracPart := timesTen loop.fracPart (decimals - loop.fracDigits)
    let exact := wrapLong (intPart * timesTen 1 decimals + fracPart)
    let val := if loop.roundDigit.any (5 ≤ ·) then wrapLong (exact + 1) else exact
    some (if negative then wrapLong (-val) else val)

/-- `%0*llu`. -/
def paddedDigits (width number : Nat) : List Char :=
  let digits := Nat.toDigits 10 number
  List.replicate (width - digits.length) '0' ++ digits

/-- `formatMdScaled`; an `int` and its magnitude fit in 64 bits. -/
def formatMdScaled (intVal : Int) (decimals : Nat) : List Char :=
  if decimals = 0 then (toString intVal).toList
  else
    (if intVal < 0 then ['-'] else []) ++ Nat.toDigits 10 (intVal.natAbs / 10 ^ decimals) ++
      '.' :: paddedDigits decimals (intVal.natAbs % 10 ^ decimals)

/-! ## The table -/

/-- A number, or the error that the input is not one. -/
def iconvNumber (number : Option Int) (code : String) (builtinErrors : Bool) :
    Except String (Option String) :=
  match number with
  | some n => .ok (some (toString n))
  | none =>
      if builtinErrors then .error ("BUILTIN: ICONV invalid \"" ++ code ++ "\" input") else .ok none

/-- The decimals of `MD` and `MD2`. -/
def decimalsOf (code : String) : Nat := if code = "MD2" then 2 else 0

/-- `parseMdScaled` with the range of an `int`. -/
def parseMdInt (value : String) (code : String) : Option Int :=
  match parseMdScaled value.toList (decimalsOf code) with
  | none => none
  | some n => if n < intMin || intMax < n then none else some n

/-- What both entry points of `ICONV` share; none for a code that is not known. -/
def iconvOutputImpl (value code : String) (builtinErrors : Bool) :
    Except String (Option String) :=
  if code = "D" then iconvNumber (pickDayFromDateString value.toList) code builtinErrors
  else if code = "MT" || code = "MTS" then
    iconvNumber (secondsFromTimeString value.toList (code = "MTS")) code builtinErrors
  else if code = "MCU" then .ok (some (value.map Char.toUpper))
  else if code = "MCL" then .ok (some (value.map Char.toLower))
  else if code = "MD" || code = "MD2" then iconvNumber (parseMdInt value code) code builtinErrors
  else if builtinErrors then .error ("BUILTIN: ICONV unsupported code \"" ++ code ++ "\"")
  else .ok none

/-- `iconvOutput`, the entry point of ENGLISH. -/
def iconvOutput (value codeRaw : String) : Except String String := do
  let trimmedCode := trimmed codeRaw
  let code := upperCopy trimmedCode
  match ← iconvOutputImpl value code false with
  | some out => .ok out
  | none =>
      if code ∈ ["D", "MT", "MTS", "MD", "MD2"] then
        .error ("I-type: invalid ICONV \"" ++ trimmedCode ++ "\" input")
      else .error ("I-type: unsupported conversion code \"" ++ trimmedCode ++ "\"")

/-- `iconvOutputBuiltin`, the entry point of BASIC. -/
def iconvOutputBuiltin (value codeRaw : String) : Except String String := do
  match ← iconvOutputImpl value (upperCopy (trimmed codeRaw)) true with
  | some out => .ok out
  | none => .error ("BUILTIN: ICONV unsupported code \"" ++ codeRaw ++ "\"")

section Output

variable (Double : Type) [Doubles Double]

/-- A text as an `int`, which is 0 when it is no number. -/
def coerceStringToInt (text : String) : Int :=
  if text = "" then 0
  else
    match (Doubles.strtod (cString text) : Option (Strtod Double)) with
    | none => 0
    | some found =>
        if found.rangeError || Doubles.lt found.number (Doubles.ofInt intMin : Double) ||
            Doubles.lt (Doubles.ofInt intMax : Double) found.number then 0
        else Doubles.toInt found.number

/-- What both entry points of `OCONV` share; none for a code that is not known. -/
def oconvOutputImpl (value code : String) (builtinErrors : Bool) :
    Except String (Option String) :=
  let asInt := coerceStringToInt Double value
  if code = "D" then .ok (some (String.ofList (dateStringFromPickDay asInt)))
  else if code = "MT" || code = "MTS" then
    .ok (some (String.ofList (timeStringFromSeconds asInt (code = "MTS"))))
  else if code = "MCU" then .ok (some (value.map Char.toUpper))
  else if code = "MCL" then .ok (some (value.map Char.toLower))
  else if code = "MD" || code = "MD2" then
    .ok (some (String.ofList (formatMdScaled asInt (decimalsOf code))))
  else if builtinErrors then .error ("BUILTIN: OCONV unsupported code \"" ++ code ++ "\"")
  else .ok none

/-- `oconvOutput`, the entry point of ENGLISH. -/
def oconvOutput (value codeRaw : String) : Except String String := do
  let trimmedCode := trimmed codeRaw
  match ← oconvOutputImpl Double value (upperCopy trimmedCode) false with
  | some out => .ok out
  | none => .error ("F-type: unsupported conversion code \"" ++ trimmedCode ++ "\"")

/-- `oconvOutputBuiltin`, the entry point of BASIC. -/
def oconvOutputBuiltin (value codeRaw : String) : Except String String := do
  match ← oconvOutputImpl Double value (upperCopy (trimmed codeRaw)) true with
  | some out => .ok out
  | none => .error ("BUILTIN: OCONV unsupported code \"" ++ codeRaw ++ "\"")

end Output

/-! ## The builtins `ICONV` and `OCONV` -/

/-- The two directions of a conversion. -/
inductive ConvertDirection where
  | output
  | input

/-- `dispatchConvertCode`. -/
def dispatchConvertCode {Double : Type} [Doubles Double] (dir : ConvertDirection)
    (value : Value Double) (codeRaw : String) : Except String (Value Double) :=
  match dir with
  | .output => do return .string (← oconvOutputBuiltin Double (valueToString value) codeRaw)
  | .input => do
      let code := upperCopy codeRaw
      let converted ← iconvOutputBuiltin (valueToString value) codeRaw
      if code = "MCU" || code = "MCL" then return .string converted
      else return .int (coerceToInt (.string converted : Value Double))

end Gemini.Conversion
