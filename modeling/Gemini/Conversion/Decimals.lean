import Mathlib.Algebra.Order.Round
import Mathlib.Data.Rat.Floor
import Mathlib.Tactic.Linarith
import Mathlib.Tactic.Positivity
import Mathlib.Tactic.FieldSimp
import Mathlib.Tactic.Ring
import Gemini.Conversion.Codes
import Gemini.VM.ArrayRecords

/-!
# Decimal numbers and `MD`

`ICONV` with `MD` and `MD2` reads a decimal number, scales it and rounds it half away from zero. It
looks at one digit to round, which is enough. The digits are summed up in 64 bits with no bound on
their number, so a value that does not fit can come back as a small number.
-/

namespace Gemini.Conversion

open Gemini.VM

/-! ## Numbers as they are written -/

/-- A decimal number. Its fraction is what follows the point. -/
structure Decimal where
  sign : Option Char
  whole : List Char
  fraction : Option (List Char)

namespace Decimal

/-- The digits after the point. -/
def places (decimal : Decimal) : List Char := decimal.fraction.getD []

/-- The point and the digits after it. -/
def pointChars : Option (List Char) → List Char
  | none => []
  | some digits => '.' :: digits

/-- How a decimal is written. -/
def chars (decimal : Decimal) : List Char :=
  decimal.sign.toList ++ (decimal.whole ++ pointChars decimal.fraction)

/-- A decimal as `parseMdScaled` takes it: digits before or behind the point. -/
structure Valid (decimal : Decimal) : Prop where
  sign : ∀ c ∈ decimal.sign, c = '+' ∨ c = '-'
  whole : ∀ c ∈ decimal.whole, c.isDigit = true
  places : ∀ c ∈ decimal.places, c.isDigit = true
  nonempty : decimal.whole ≠ [] ∨ decimal.places ≠ []

/-- Whether a decimal has a minus sign. -/
def isNegative (decimal : Decimal) : Bool := decimal.sign = some '-'

/-- The value without its sign. -/
def magnitude (decimal : Decimal) : ℚ :=
  (Nat.ofDigitChars 10 (decimal.whole ++ decimal.places) 0 : ℕ) / 10 ^ decimal.places.length

/-- The number that a decimal stands for. -/
def value (decimal : Decimal) : ℚ :=
  if decimal.isNegative then -decimal.magnitude else decimal.magnitude

end Decimal

/-- The nearest integer; of two it is the one that is farther from zero. -/
def roundHalfAway (number : ℚ) : ℤ :=
  if number < 0 then -⌊-number + 1 / 2⌋ else ⌊number + 1 / 2⌋

/-- What `MD` stands for: the number with its decimals moved in front of the point. -/
def Decimal.scaled (decimal : Decimal) (decimals : ℕ) : ℤ :=
  roundHalfAway (decimal.value * 10 ^ decimals)

/-- Halves are rounded alike on both sides of zero. -/
theorem roundHalfAway_neg (number : ℚ) : roundHalfAway (-number) = -roundHalfAway number := by
  unfold roundHalfAway
  rcases lt_trichotomy number 0 with negative | rfl | positive
  · rw [if_neg (by linarith), if_pos negative, neg_neg]
  · have half : ⌊(0 : ℚ) + 1 / 2⌋ = 0 := by norm_num
    simp only [neg_zero, lt_irrefl, if_false, half]
  · rw [if_pos (by linarith), if_neg (by linarith), neg_neg]

/-! ## Arithmetic in 64 bits -/

/-- Two integers have the same 64 bits. -/
def SameBits (first second : ℤ) : Prop := wrapLong first = wrapLong second

/-- A number that wraps round keeps its low bits. -/
theorem sameBits_wrapLong (value : ℤ) : SameBits (wrapLong value) value := Int.bmod_bmod

/-- Sums of such numbers have the same low bits. -/
theorem SameBits.add {first second other another : ℤ} (same : SameBits first second)
    (otherSame : SameBits other another) : SameBits (first + other) (second + another) := by
  unfold SameBits wrapLong at *
  rw [← Int.bmod_add_bmod, same, Int.bmod_add_bmod, ← Int.add_bmod_bmod, otherSame,
    Int.add_bmod_bmod]

/-- So have their products. -/
theorem SameBits.mul {first second other another : ℤ} (same : SameBits first second)
    (otherSame : SameBits other another) : SameBits (first * other) (second * another) := by
  unfold SameBits wrapLong at *
  rw [← Int.bmod_mul_bmod, same, Int.bmod_mul_bmod, ← Int.mul_bmod_bmod, otherSame,
    Int.mul_bmod_bmod]

theorem SameBits.refl (value : ℤ) : SameBits value value := rfl

/-- Numbers with the low bits of a third one. -/
theorem SameBits.trans {first second third : ℤ} (same : SameBits first second)
    (next : SameBits second third) : SameBits first third := Eq.trans same next

theorem SameBits.wrapped {first second : ℤ} (same : SameBits first second) :
    SameBits (wrapLong first) second := (sameBits_wrapLong first).trans same

/-- Negated numbers have the same low bits. -/
theorem SameBits.neg {first second : ℤ} (same : SameBits first second) :
    SameBits (-first) (-second) := by
  have product := (SameBits.refl (-1)).mul same
  rwa [neg_one_mul, neg_one_mul] at product

theorem sameBits_appendDigit {value number : ℤ} (same : SameBits value number) (c : Char) :
    SameBits (appendDigit value c) (number * 10 + (c.toNat - 48 : ℕ)) :=
  ((same.mul (.refl 10)).add (.refl _)).wrapped

/-- The digits of a number are summed up to its low bits. -/
theorem sameBits_digits (digits : List Char) :
    SameBits (digits.foldl appendDigit 0) (Nat.ofDigitChars 10 digits 0 : ℕ) := by
  induction digits using List.reverseRecOn with
  | nil => rfl
  | append_singleton front c inductionHypothesis =>
      rw [List.foldl_append, Nat.ofDigitChars_append, List.foldl_cons, List.foldl_nil,
        Nat.ofDigitChars_cons, Nat.ofDigitChars_nil]
      have appended := sameBits_appendDigit inductionHypothesis c
      rw [mul_comm 10]
      exact_mod_cast appended

/-- Multiplying by ten keeps the low bits right. -/
theorem sameBits_timesTen {value number : ℤ} (same : SameBits value number) (count : ℕ) :
    SameBits (timesTen value count) (number * 10 ^ count) := by
  induction count generalizing value number with
  | zero => simpa [timesTen] using same
  | succ count inductionHypothesis =>
      have next := inductionHypothesis (same.mul (.refl 10)).wrapped
      rwa [mul_assoc, ← pow_succ'] at next

/-! ## The digits after the point -/

/-- What the loop has found after some digits. -/
structure FractionLoop.Found (loop : FractionLoop) (decimals : ℕ) (digits : List Char) : Prop where
  fracPart : SameBits loop.fracPart (Nat.ofDigitChars 10 (digits.take decimals) 0 : ℕ)
  fracDigits : loop.fracDigits = min decimals digits.length
  roundDigit : loop.roundDigit = (digits.drop decimals).head?.map fun c => c.toNat - 48

/-- The loop finds the digits that are kept, their number, and the digit that rounds. -/
theorem fractionLoop_found (decimals : ℕ) (digits : List Char) :
    (digits.foldl (FractionLoop.step decimals) {}).Found decimals digits := by
  induction digits using List.reverseRecOn with
  | nil => exact ⟨by simpa using SameBits.refl 0, by simp, by simp⟩
  | append_singleton front c inductionHypothesis =>
      obtain ⟨fracPart, fracDigits, roundDigit⟩ := inductionHypothesis
      rw [List.foldl_append, List.foldl_cons, List.foldl_nil]
      generalize front.foldl (FractionLoop.step decimals) {} = loop at *
      unfold FractionLoop.step
      split
      · next more =>
          have short : front.length < decimals := by omega
          refine ⟨?_, ?_, ?_⟩
          · rw [List.take_of_length_le short.le] at fracPart
            rw [List.take_of_length_le (by simpa using Nat.succ_le_of_lt short), Nat.ofDigitChars_append,
              Nat.ofDigitChars_cons, Nat.ofDigitChars_nil, mul_comm 10]
            exact_mod_cast sameBits_appendDigit fracPart c
          · simp only [fracDigits, List.length_append, List.length_singleton]
            omega
          · rw [List.drop_of_length_le short.le] at roundDigit
            rw [List.drop_of_length_le (by simpa using Nat.succ_le_of_lt short)]
            exact roundDigit
      · next enough =>
          have long : decimals ≤ front.length := by omega
          have sameTake : (front ++ [c]).take decimals = front.take decimals :=
            List.take_append_of_le_length long
          have sameDrop : (front ++ [c]).drop decimals = front.drop decimals ++ [c] :=
            List.drop_append_of_le_length long
          have sameDigits : min decimals (front ++ [c]).length = min decimals front.length := by
            rw [List.length_append, List.length_singleton]
            omega
          split
          · next first =>
              refine ⟨sameTake ▸ fracPart, by rw [sameDigits]; exact fracDigits, ?_⟩
              have none : front.drop decimals = [] := by
                rw [first] at roundDigit
                simpa using roundDigit.symm
              rw [sameDrop, none]
              rfl
          · next notFirst =>
              refine ⟨sameTake ▸ fracPart, by rw [sameDigits]; exact fracDigits, ?_⟩
              have some : front.drop decimals ≠ [] := by
                intro none
                rw [none] at roundDigit
                exact notFirst roundDigit
              rw [sameDrop, List.head?_append_of_ne_nil _ some, roundDigit]

/-! ## Rounding -/

/-- A number is below the power of ten of its digits. -/
theorem digits_lt (digits : List Char) (allDigits : ∀ c ∈ digits, c.isDigit = true) :
    Nat.ofDigitChars 10 digits 0 < 10 ^ digits.length := by
  induction digits using List.reverseRecOn with
  | nil => simp
  | append_singleton front c inductionHypothesis =>
      have digit := Char.isDigit_iff_toNat.mp (allDigits c (by simp))
      have front := inductionHypothesis fun other member => allDigits other (by simp [member])
      have small : c.toNat - 48 < 10 := by
        have high := digit.2
        simp only [Char.reduceToNat] at high
        omega
      rw [Nat.ofDigitChars_append, Nat.ofDigitChars_cons, Nat.ofDigitChars_nil, List.length_append,
        List.length_singleton, pow_succ]
      simp only [Char.reduceToNat]
      omega

/-- The first digit that is left out decides how a number is rounded. -/
theorem roundHalfAway_digits (kept : ℕ) {dropped : List Char}
    (allDigits : ∀ c ∈ dropped, c.isDigit = true) :
    roundHalfAway (kept + (Nat.ofDigitChars 10 dropped 0 : ℕ) / 10 ^ dropped.length) =
      kept + if (dropped.head?.map fun c => c.toNat - 48).any (5 ≤ ·) then 1 else 0 := by
  have notNegative : ¬ ((kept : ℚ) + (Nat.ofDigitChars 10 dropped 0 : ℕ) / 10 ^ dropped.length < 0) :=
    not_lt.mpr (by positivity)
  rw [roundHalfAway, if_neg notNegative, Int.floor_eq_iff]
  cases dropped with
  | nil => norm_num
  | cons first rest =>
      have digit := Char.isDigit_iff_toNat.mp (allDigits first List.mem_cons_self)
      have restDigits : ∀ c ∈ rest, c.isDigit = true := fun c member =>
        allDigits c (List.mem_cons_of_mem first member)
      have below := digits_lt rest restDigits
      generalize size : (10 : ℚ) ^ rest.length = scale
      have positive : 0 < scale := size ▸ by positivity
      have belowScale : ((Nat.ofDigitChars 10 rest 0 : ℕ) : ℚ) < scale := by
        rw [← size]
        exact_mod_cast below
      have split : ((Nat.ofDigitChars 10 (first :: rest) 0 : ℕ) : ℚ) =
          (first.toNat - 48 : ℕ) * scale + (Nat.ofDigitChars 10 rest 0 : ℕ) := by
        rw [Nat.ofDigitChars_cons, Nat.ofDigitChars_eq_ofDigitChars_zero, ← size]
        push_cast [Char.reduceToNat]
        ring
      generalize Nat.ofDigitChars 10 rest 0 = tail at *
      rw [split, List.length_cons, pow_succ, size]
      have nonneg : (0 : ℚ) ≤ tail := Nat.cast_nonneg tail
      have quotient : (((first.toNat - 48 : ℕ) : ℚ) * scale + tail) / (scale * 10) =
          (first.toNat - 48 : ℕ) / 10 + tail / scale / 10 := by
        field_simp
      have low : (0 : ℚ) ≤ tail / scale := by positivity
      have high : (tail : ℚ) / scale < 1 := (div_lt_one positive).mpr belowScale
      have high9 := digit.2
      simp only [Char.reduceToNat] at high9
      rw [quotient]
      simp only [List.head?_cons, Option.map_some, Option.any_some, decide_eq_true_eq]
      split
      · next up =>
          have five : (5 : ℚ) ≤ (first.toNat - 48 : ℕ) := by exact_mod_cast up
          have nine : ((first.toNat - 48 : ℕ) : ℚ) ≤ 9 := by
            have small : first.toNat - 48 ≤ 9 := by omega
            exact_mod_cast small
          push_cast
          constructor <;> linarith
      · next down =>
          have four : ((first.toNat - 48 : ℕ) : ℚ) ≤ 4 := by
            have small : first.toNat - 48 ≤ 4 := by omega
            exact_mod_cast small
          have zero : (0 : ℚ) ≤ (first.toNat - 48 : ℕ) := Nat.cast_nonneg _
          push_cast
          constructor <;> linarith

namespace Decimal

/-- The digits that the scaled number keeps. -/
def kept (decimal : Decimal) (decimals : ℕ) : ℕ :=
  Nat.ofDigitChars 10 (decimal.whole ++ decimal.places.take decimals) 0 *
    10 ^ (decimals - decimal.places.length)

/-- A scaled decimal is what is kept of it and a fraction. -/
theorem magnitude_mul (decimal : Decimal) (decimals : ℕ) :
    decimal.magnitude * 10 ^ decimals = decimal.kept decimals +
      (Nat.ofDigitChars 10 (decimal.places.drop decimals) 0 : ℕ) /
        10 ^ (decimal.places.drop decimals).length := by
  unfold magnitude kept
  generalize decimal.places = places
  rcases le_or_gt places.length decimals with short | long
  · rw [List.take_of_length_le short, List.drop_of_length_le short]
    have powers : (10 : ℚ) ^ decimals = 10 ^ (decimals - places.length) * 10 ^ places.length := by
      rw [← pow_add, Nat.sub_add_cancel short]
    rw [powers]
    push_cast
    field_simp
    simp
  · have cut : decimal.whole ++ places =
        decimal.whole ++ places.take decimals ++ places.drop decimals := by
      rw [List.append_assoc, List.take_append_drop]
    have lengths : places.length = decimals + (places.drop decimals).length := by
      rw [List.length_drop]
      omega
    have powers : (10 : ℚ) ^ places.length = 10 ^ decimals * 10 ^ (places.drop decimals).length := by
      rw [← pow_add, ← lengths]
    rw [cut, Nat.ofDigitChars_append, Nat.ofDigitChars_eq_ofDigitChars_zero, powers,
      Nat.sub_eq_zero_of_le long.le, pow_zero, mul_one]
    push_cast
    field_simp

/-- A scaled decimal is rounded by the first digit that is dropped. -/
theorem scaled_eq {decimal : Decimal} (valid : decimal.Valid) (decimals : ℕ) :
    decimal.scaled decimals =
      (if decimal.isNegative then -1 else 1) * (decimal.kept decimals +
        if ((decimal.places.drop decimals).head?.map fun c => c.toNat - 48).any (5 ≤ ·) then 1
        else 0) := by
  have allDigits : ∀ c ∈ decimal.places.drop decimals, c.isDigit = true := fun c member =>
    valid.places c (List.mem_of_mem_drop member)
  have rounded := roundHalfAway_digits (decimal.kept decimals) allDigits
  rw [← magnitude_mul] at rounded
  unfold scaled value
  split
  · rw [neg_mul, roundHalfAway_neg, rounded, neg_one_mul]
  · rw [rounded, one_mul]

end Decimal

/-! ## What `MD` reads -/

/-- A sign is taken off. -/
theorem takeSign_chars {decimal : Decimal} (valid : decimal.Valid) {rest : List Char}
    (starts : decimal.whole = [] → rest.head? = some '.') :
    takeSign (decimal.sign.toList ++ (decimal.whole ++ rest)) =
      (decimal.isNegative, decimal.whole ++ rest) := by
  unfold Decimal.isNegative
  rcases isSign : decimal.sign with _ | sign
  · rw [Option.toList_none, List.nil_append]
    have notSign : ∀ c ∈ (decimal.whole ++ rest).head?, c ≠ '-' ∧ c ≠ '+' := by
      intro c first
      rcases isWhole : decimal.whole with _ | ⟨digit, digits⟩
      · rw [isWhole, List.nil_append, starts isWhole] at first
        cases first
        decide
      · rw [isWhole] at first
        have isDigit := valid.whole digit (by rw [isWhole]; exact List.mem_cons_self)
        obtain rfl : digit = c := Option.some.inj first
        constructor
        · rintro rfl
          cases isDigit
        · rintro rfl
          cases isDigit
    unfold takeSign
    split
    · next first => exact absurd rfl (notSign '-' (by rw [first]; rfl)).1
    · next first => exact absurd rfl (notSign '+' (by rw [first]; rfl)).2
    · simp
  · rcases valid.sign sign isSign with rfl | rfl
    · rfl
    · rfl

theorem head?_pointChars {fraction : Option (List Char)} {c : Char}
    (first : (Decimal.pointChars fraction).head? = some c) : c.isDigit = false := by
  cases fraction with
  | none => cases first
  | some digits =>
      cases first
      rfl

/-- The fraction of a decimal is taken in full. -/
theorem takeFraction_pointChars {fraction : Option (List Char)}
    (allDigits : ∀ c ∈ fraction.getD [], c.isDigit = true) :
    takeFraction (Decimal.pointChars fraction) = (fraction.getD [], []) := by
  cases fraction with
  | none => rfl
  | some digits =>
      have taken := @takeWhile_digits digits [] allDigits (by simp)
      have left := @dropWhile_digits digits [] allDigits (by simp)
      rw [List.append_nil] at taken left
      simp [takeFraction, Decimal.pointChars, taken, left]

/-- A decimal without whole digits starts with its point. -/
theorem Decimal.Valid.starts {decimal : Decimal} (valid : decimal.Valid)
    (none : decimal.whole = []) : (Decimal.pointChars decimal.fraction).head? = some '.' := by
  rcases isFraction : decimal.fraction with _ | digits
  · have digits := valid.nonempty
    rw [Decimal.places, isFraction, none] at digits
    exact absurd digits (by simp)
  · rfl

/-- What the two loops make of the digits. -/
theorem sameBits_kept (decimal : Decimal) {decimals : ℕ} {loop : FractionLoop}
    (found : loop.Found decimals decimal.places) :
    SameBits (decimal.whole.foldl appendDigit 0 * timesTen 1 decimals +
      timesTen loop.fracPart (decimals - loop.fracDigits)) (decimal.kept decimals : ℕ) := by
  obtain ⟨fracPart, fracDigits, -⟩ := found
  have product := (sameBits_digits decimal.whole).mul (sameBits_timesTen (.refl 1) decimals)
  have sum := product.add (sameBits_timesTen fracPart (decimals - loop.fracDigits))
  have same : ((Nat.ofDigitChars 10 decimal.whole 0 : ℕ) : ℤ) * (1 * 10 ^ decimals) +
      (Nat.ofDigitChars 10 (decimal.places.take decimals) 0 : ℕ) *
        10 ^ (decimals - loop.fracDigits) = (decimal.kept decimals : ℕ) := by
    have powers : (10 : ℤ) ^ decimals =
        10 ^ min decimals decimal.places.length * 10 ^ (decimals - decimal.places.length) := by
      rw [← pow_add]
      congr 1
      omega
    have rest : decimals - min decimals decimal.places.length =
        decimals - decimal.places.length := by omega
    have joined := @Nat.ofDigitChars_eq_ofDigitChars_zero (decimal.places.take decimals)
      (Nat.ofDigitChars 10 decimal.whole 0)
    rw [Decimal.kept, Nat.ofDigitChars_append, joined, List.length_take, fracDigits, rest, powers]
    push_cast
    ring
  rwa [same] at sum

/-- A decimal number is scaled and rounded, up to the overflow of 64 bits. -/
theorem parseMdScaled_chars {decimal : Decimal} (valid : decimal.Valid) (decimals : ℕ) :
    parseMdScaled decimal.chars decimals = some (wrapLong (decimal.scaled decimals)) := by
  have found := fractionLoop_found decimals decimal.places
  have nonempty : (decimal.whole.isEmpty && decimal.places.isEmpty) = false := by
    rcases valid.nonempty with digits | digits <;> simp [digits]
  have point : ∀ c, (Decimal.pointChars decimal.fraction).head? = some c → c.isDigit = false :=
    fun c first => head?_pointChars first
  have fraction : takeFraction (Decimal.pointChars decimal.fraction) = (decimal.places, []) :=
    takeFraction_pointChars valid.places
  unfold parseMdScaled Decimal.chars
  rw [takeSign_chars valid valid.starts, Decimal.scaled_eq valid]
  simp only [takeWhile_digits valid.whole point, dropWhile_digits valid.whole point, fraction,
    nonempty, List.isEmpty_nil, Bool.not_true, Bool.or_false, Bool.false_eq_true, if_false,
    Option.some.injEq]
  have exact := (sameBits_kept decimal found).wrapped
  have isRound := found.roundDigit
  generalize decimal.places.foldl (FractionLoop.step decimals) {} = loop at *
  have unsigned : (if loop.roundDigit.any (5 ≤ ·) then
      wrapLong (wrapLong (decimal.whole.foldl appendDigit 0 * timesTen 1 decimals +
        timesTen loop.fracPart (decimals - loop.fracDigits)) + 1)
      else wrapLong (decimal.whole.foldl appendDigit 0 * timesTen 1 decimals +
        timesTen loop.fracPart (decimals - loop.fracDigits))) =
      wrapLong (decimal.kept decimals + if loop.roundDigit.any (5 ≤ ·) then 1 else 0) := by
    split
    · exact exact.add (.refl 1)
    · rw [add_zero]
      exact sameBits_kept decimal found
  rw [unsigned, isRound]
  split
  · rw [neg_one_mul]
    exact (sameBits_wrapLong _).neg
  · rw [one_mul]

/-- A text is its sign and the rest. -/
theorem takeSign_spec (text : List Char) : ∃ sign : Option Char,
    (∀ c ∈ sign, c = '+' ∨ c = '-') ∧ text = sign.toList ++ (takeSign text).2 := by
  unfold takeSign
  split
  · exact ⟨some '-', by simp, rfl⟩
  · exact ⟨some '+', by simp, rfl⟩
  · exact ⟨none, by simp, rfl⟩

/-- A text is its fraction and the rest. -/
theorem takeFraction_spec (text : List Char) : ∃ fraction : Option (List Char),
    text = Decimal.pointChars fraction ++ (takeFraction text).2 ∧
      fraction.getD [] = (takeFraction text).1 ∧ ∀ c ∈ fraction.getD [], c.isDigit = true := by
  unfold takeFraction
  split
  · next rest =>
      exact ⟨some (rest.takeWhile Char.isDigit), by simp [Decimal.pointChars], rfl,
        fun c member => List.mem_takeWhile_imp member⟩
  · exact ⟨none, rfl, rfl, by simp⟩

/-- Every text that is read is a decimal number. -/
theorem exists_decimal_of_parseMdScaled {text : List Char} {decimals : ℕ} {number : ℤ}
    (done : parseMdScaled text decimals = some number) :
    ∃ decimal : Decimal, decimal.Valid ∧ text = decimal.chars := by
  obtain ⟨sign, isSign, isText⟩ := takeSign_spec text
  unfold parseMdScaled at done
  generalize takeSign text = signed at *
  obtain ⟨negative, unsigned⟩ := signed
  obtain ⟨fraction, isRest, isPlaces, isDigit⟩ :=
    takeFraction_spec (unsigned.dropWhile Char.isDigit)
  dsimp only at done isText
  generalize takeFraction (unsigned.dropWhile Char.isDigit) = scanned at *
  obtain ⟨places, rest⟩ := scanned
  dsimp only at done isRest isPlaces
  split at done
  · cases done
  · next accepted =>
      simp only [Bool.or_eq_true, Bool.and_eq_true, Bool.not_eq_true', List.isEmpty_iff,
        List.isEmpty_eq_false_iff, not_or, not_not] at accepted
      obtain ⟨ended, digits⟩ := accepted
      refine ⟨⟨sign, unsigned.takeWhile Char.isDigit, fraction⟩,
        ⟨isSign, fun c member => List.mem_takeWhile_imp member, isDigit, ?_⟩, ?_⟩
      · rw [Decimal.places, isPlaces]
        exact not_and_or.mp digits
      · rw [ended, List.append_nil] at isRest
        rw [isText, Decimal.chars, ← isRest, List.takeWhile_append_dropWhile]

/-! ## `ICONV` with `MD` and `MD2` -/

/-- The codes of decimal numbers. -/
def IsMdCode (code : String) : Prop := code = "MD" ∨ code = "MD2"

/-- A text is a decimal number that is scaled to a given integer. -/
def ScalesTo (text code : String) (number : ℤ) : Prop :=
  ∃ decimal : Decimal, decimal.Valid ∧ text.toList = decimal.chars ∧
    decimal.scaled (decimalsOf code) = number

/-- `ICONV` is exact on a text: it returns the integer that the text is scaled to, and reports
invalid input where there is none or it is not an `int`. -/
structure MdExact (text code : String) : Prop where
  accepts : ∀ number, ScalesTo text code number → IsInt number →
    iconvOutputBuiltin text code = .ok (toString number) ∧
      iconvOutput text code = .ok (toString number)
  refuses : (∀ number, ScalesTo text code number → ¬ IsInt number) →
    iconvOutputBuiltin text code = .error ("BUILTIN: ICONV invalid \"" ++ code ++ "\" input") ∧
      iconvOutput text code = .error ("I-type: invalid ICONV \"" ++ code ++ "\" input")

/-- The scaled number is not an `int`, and its 64 bits are. -/
def Overflows (text code : String) : Prop :=
  ∃ number, ScalesTo text code number ∧ ¬ IsInt number ∧ IsInt (wrapLong number)

/-- A text is a decimal number in one way. -/
theorem scaled_unique {decimal other : Decimal} (valid : decimal.Valid) (otherValid : other.Valid)
    (same : decimal.chars = other.chars) (decimals : ℕ) :
    decimal.scaled decimals = other.scaled decimals := by
  have signs := takeSign_chars valid valid.starts
  have otherSigns := takeSign_chars otherValid otherValid.starts
  have sameText : decimal.sign.toList ++ (decimal.whole ++ Decimal.pointChars decimal.fraction) =
      other.sign.toList ++ (other.whole ++ Decimal.pointChars other.fraction) := same
  rw [sameText, otherSigns, Prod.mk.injEq] at signs
  obtain ⟨sameSign, sameRest⟩ := signs
  have digits := @takeWhile_digits _ _ valid.whole fun _ => @head?_pointChars decimal.fraction _
  have others := @takeWhile_digits _ _ otherValid.whole fun _ => @head?_pointChars other.fraction _
  have points := @dropWhile_digits _ _ valid.whole fun _ => @head?_pointChars decimal.fraction _
  have otherPoints :=
    @dropWhile_digits _ _ otherValid.whole fun _ => @head?_pointChars other.fraction _
  rw [sameRest, digits] at others
  rw [sameRest, points] at otherPoints
  have places := takeFraction_pointChars valid.places
  have otherPlaces := takeFraction_pointChars otherValid.places
  rw [otherPoints, otherPlaces, Prod.mk.injEq] at places
  have samePlaces : decimal.places = other.places := places.1.symm
  unfold Decimal.scaled Decimal.value Decimal.magnitude
  rw [others, samePlaces, sameSign]

/-- A text is scaled to one number. -/
theorem ScalesTo.unique {text code : String} {number other : ℤ} (scales : ScalesTo text code number)
    (others : ScalesTo text code other) : number = other := by
  obtain ⟨decimal, valid, isText, rfl⟩ := scales
  obtain ⟨same, sameValid, sameText, rfl⟩ := others
  exact scaled_unique valid sameValid (isText.symm.trans sameText) _

/-- A scaled text is an `int`, or it is refused. -/
theorem parseMdInt_eq_some {value code : String} {number : ℤ} :
    parseMdInt value code = some number ↔
      parseMdScaled value.toList (decimalsOf code) = some number ∧ IsInt number := by
  unfold parseMdInt IsInt
  cases parseMdScaled value.toList (decimalsOf code) with
  | none => simp
  | some found =>
      simp only [Option.some.injEq, Bool.or_eq_true, decide_eq_true_eq]
      split
      · next outside =>
          refine iff_of_false nofun ?_
          rintro ⟨rfl, low, high⟩
          omega
      · next inside =>
          rw [Option.some.injEq]
          refine ⟨?_, fun both => both.1⟩
          rintro rfl
          omega

/-- An `int` does not wrap round. -/
theorem wrapLong_of_isInt {number : ℤ} (isInt : IsInt number) : wrapLong number = number := by
  obtain ⟨low, high⟩ := isInt
  unfold intMin at low
  unfold intMax at high
  exact Int.bmod_eq_of_le (by omega) (by omega)

/-- A text is parsed as the low bits of its scaled value. -/
theorem parseMdInt_of_scalesTo {text code : String} {number : ℤ}
    (scales : ScalesTo text code number) :
    parseMdScaled text.toList (decimalsOf code) = some (wrapLong number) := by
  obtain ⟨decimal, valid, isText, rfl⟩ := scales
  rw [isText, parseMdScaled_chars valid]

/-- `ICONV` with an `MD` code is `parseMdInt`. -/
theorem iconvOutputImpl_md {code : String} (isMd : IsMdCode code) (value : String)
    (builtinErrors : Bool) :
    iconvOutputImpl value code builtinErrors =
      iconvNumber (parseMdInt value code) code builtinErrors := by
  rcases isMd with rfl | rfl <;> rfl

/-- The codes are spelled as they are looked up. -/
theorem IsMdCode.clean {code : String} (isMd : IsMdCode code) :
    trimmed code = code ∧ upperCopy code = code ∧ code ∈ ["D", "MT", "MTS", "MD", "MD2"] := by
  rcases isMd with rfl | rfl
  · exact ⟨by decide, upperCopy_of_upper (by decide), by decide⟩
  · exact ⟨by decide, upperCopy_of_upper (by decide), by decide⟩

/-- Both entry points give the number of a text that is parsed. -/
theorem iconv_of_parseMdInt {code text : String} (isMd : IsMdCode code) {number : ℤ}
    (parsed : parseMdInt text code = some number) :
    iconvOutputBuiltin text code = .ok (toString number) ∧
      iconvOutput text code = .ok (toString number) := by
  obtain ⟨trims, uppers, -⟩ := isMd.clean
  constructor
  · rw [iconvOutputBuiltin, trims, uppers, iconvOutputImpl_md isMd, parsed]
    rfl
  · simp only [iconvOutput, trims, uppers, iconvOutputImpl_md isMd, parsed]
    rfl

/-- Both entry points refuse a text that is not. -/
theorem iconv_of_not_parseMdInt {code text : String} (isMd : IsMdCode code)
    (notParsed : parseMdInt text code = none) :
    iconvOutputBuiltin text code = .error ("BUILTIN: ICONV invalid \"" ++ code ++ "\" input") ∧
      iconvOutput text code = .error ("I-type: invalid ICONV \"" ++ code ++ "\" input") := by
  obtain ⟨trims, uppers, known⟩ := isMd.clean
  constructor
  · rw [iconvOutputBuiltin, trims, uppers, iconvOutputImpl_md isMd, notParsed]
    rfl
  · simp only [iconvOutput, trims, uppers, iconvOutputImpl_md isMd, notParsed]
    exact if_pos known

/-- `MD` is exact on every text whose number does not overflow into an `int`. -/
theorem mdExact_iff {code : String} (isMd : IsMdCode code) (text : String) :
    MdExact text code ↔ ¬ Overflows text code := by
  constructor
  · rintro ⟨-, refuses⟩ ⟨number, scales, notInt, wraps⟩
    have parsed := parseMdInt_eq_some.mpr ⟨parseMdInt_of_scalesTo scales, wraps⟩
    have onlyOne : ∀ other, ScalesTo text code other → ¬ IsInt other := by
      intro other otherScales
      rwa [otherScales.unique scales]
    have refused := (refuses onlyOne).1
    rw [(iconv_of_parseMdInt isMd parsed).1] at refused
    cases refused
  · intro fits
    refine ⟨fun number scales isInt => ?_, fun outside => ?_⟩
    · refine iconv_of_parseMdInt isMd (parseMdInt_eq_some.mpr ⟨?_, isInt⟩)
      rw [parseMdInt_of_scalesTo scales, wrapLong_of_isInt isInt]
    · refine iconv_of_not_parseMdInt isMd ?_
      rcases parsed : parseMdInt text code with _ | found
      · rfl
      · obtain ⟨scaled, isInt⟩ := parseMdInt_eq_some.mp parsed
        obtain ⟨decimal, valid, isText⟩ := exists_decimal_of_parseMdScaled scaled
        have scales : ScalesTo text code (decimal.scaled (decimalsOf code)) :=
          ⟨decimal, valid, isText, rfl⟩
        rw [parseMdInt_of_scalesTo scales, Option.some.injEq] at scaled
        exact (fits ⟨_, scales, outside _ scales, scaled ▸ isInt⟩).elim

/-! ## The number that `OCONV` writes is read back -/

/-- Padded digits are as many as asked for. -/
theorem length_paddedDigits {width number : ℕ} (positive : 0 < width)
    (fits : number < 10 ^ width) : (paddedDigits width number).length = width := by
  have short := (Nat.length_toDigits_le_iff (by decide) positive).mpr fits
  simp only [paddedDigits, List.length_append, List.length_replicate]
  omega

theorem isDigit_of_mem_paddedDigits {width number : ℕ} {c : Char}
    (member : c ∈ paddedDigits width number) : c.isDigit = true := by
  rcases List.mem_append.mp member with zero | digit
  · rw [(List.mem_replicate.mp zero).2]
    rfl
  · exact isDigit_of_mem_digits digit

/-- Padded digits stand for the number. -/
theorem ofDigitChars_paddedDigits {width number : ℕ} (init : ℕ) (positive : 0 < width)
    (fits : number < 10 ^ width) :
    Nat.ofDigitChars 10 (paddedDigits width number) init = 10 ^ width * init + number := by
  rw [Nat.ofDigitChars_eq_ofDigitChars_zero, length_paddedDigits positive fits, paddedDigits,
    Nat.ofDigitChars_append, Nat.ofDigitChars_replicate_zero, Nat.mul_zero,
    Nat.ofDigitChars_ten_toDigits]

/-- An integer with some of its digits after the point. -/
def shifted (number : ℤ) (decimals : ℕ) : Decimal where
  sign := if number < 0 then some '-' else none
  whole := Nat.toDigits 10 (number.natAbs / 10 ^ decimals)
  fraction :=
    if decimals = 0 then none else some (paddedDigits decimals (number.natAbs % 10 ^ decimals))

/-- The decimal of a shifted number is valid. -/
theorem shifted_valid (number : ℤ) (decimals : ℕ) : (shifted number decimals).Valid where
  sign := by
    intro c sign
    unfold shifted at sign
    split at sign
    · exact .inr (Option.some.inj sign).symm
    · cases sign
  whole := fun c member => isDigit_of_mem_digits member
  places := by
    intro c member
    unfold Decimal.places shifted at member
    dsimp only at member
    split at member
    · cases member
    · exact isDigit_of_mem_paddedDigits member
  nonempty := .inl (digits_ne_nil _)

/-- A number is shown as its shifted decimal. -/
theorem formatMdScaled_eq (number : ℤ) (decimals : ℕ) :
    formatMdScaled number decimals = (shifted number decimals).chars := by
  unfold formatMdScaled shifted Decimal.chars Decimal.pointChars
  split
  · next zero =>
      subst zero
      rw [toList_toString_int, pow_zero, Nat.div_one, List.append_nil]
      split <;> rfl
  · split
    · simp
    · simp

/-- Shifting back and forth keeps a number. -/
theorem scaled_shifted (number : ℤ) (decimals : ℕ) :
    (shifted number decimals).scaled decimals = number := by
  have fits : number.natAbs % 10 ^ decimals < 10 ^ decimals := Nat.mod_lt _ (by positivity)
  have length : (shifted number decimals).places.length = decimals := by
    unfold Decimal.places shifted
    dsimp only
    split
    · next zero => exact zero.symm
    · next positive => exact length_paddedDigits (Nat.pos_of_ne_zero positive) fits
  have digits : (shifted number decimals).kept decimals = number.natAbs := by
    rw [Decimal.kept, List.take_of_length_le length.le, length, Nat.sub_self, pow_zero, mul_one,
      Nat.ofDigitChars_append]
    unfold Decimal.places shifted
    dsimp only
    rw [Nat.ofDigitChars_ten_toDigits]
    split
    · next zero => simp [zero]
    · next positive =>
        rw [Option.getD_some, ofDigitChars_paddedDigits _ (Nat.pos_of_ne_zero positive) fits,
          Nat.div_add_mod]
  have isNegative : (shifted number decimals).isNegative = decide (number < 0) := by
    unfold Decimal.isNegative shifted
    dsimp only
    split
    · next negative => simp [negative]
    · next notNegative => simp [notNegative]
  rw [Decimal.scaled_eq (shifted_valid number decimals), List.drop_of_length_le length.le, digits,
    isNegative]
  simp only [decide_eq_true_eq, List.head?_nil, Option.map_none, Option.any_none,
    Bool.false_eq_true, if_false, add_zero]
  split <;> omega

section RoundTrip

variable {Double : Type} [Doubles Double]

/-- A printed `int` is coerced to itself. -/
theorem coerceStringToInt_toString (holds : HoldsInts Double) {number : ℤ}
    (isInt : IsInt number) : coerceStringToInt Double (toString number) = number := by
  obtain ⟨low, high⟩ := isInt
  have notBelow := holds.lt_ofInt number intMin low high (by decide) (by decide)
  have notAbove := holds.lt_ofInt intMax number (by decide) (by decide) low high
  rw [decide_eq_false (by omega)] at notBelow notAbove
  rw [coerceStringToInt, if_neg (toString_int_ne_empty number), cString_toString_int,
    holds.strtod_toString number low high]
  simp [notBelow, notAbove, holds.toInt_ofInt number low high]

/-- `ICONV` of what `OCONV` makes of an integer is the integer. -/
def ReadsBack (Double : Type) [Doubles Double] (code : String) (number : ℤ) : Prop :=
  ∃ text, dispatchConvertCode .output (.int number : Value Double) code = .ok (.string text) ∧
    dispatchConvertCode .input (.string text : Value Double) code = .ok (.int number)

/-- An integer that is shown and read back as its numeral. -/
theorem readsBack_of_texts (holds : HoldsInts Double) {code text : String} {number : ℤ}
    (isInt : IsInt number) (notCase : upperCopy code ≠ "MCU" ∧ upperCopy code ≠ "MCL")
    (shown : oconvOutputBuiltin Double (toString number) code = .ok text)
    (read : iconvOutputBuiltin text code = .ok (toString number)) :
    ReadsBack Double code number := by
  refine ⟨text, ?_, ?_⟩
  · simp only [dispatchConvertCode, valueToString, shown]
    rfl
  · have back := coerceToInt_toString holds isInt.1 isInt.2
    simp only [dispatchConvertCode, valueToString, read, notCase.1, notCase.2]
    exact congrArg (fun n => Except.ok (Value.int n)) back

/-- `OCONV` with an `MD` code shifts the point. -/
theorem oconvOutputBuiltin_md {code : String} (isMd : IsMdCode code) (value : String) :
    oconvOutputBuiltin Double value code =
      .ok (String.ofList (formatMdScaled (coerceStringToInt Double value) (decimalsOf code))) := by
  obtain ⟨trims, uppers, -⟩ := isMd.clean
  rw [oconvOutputBuiltin, trims, uppers]
  rcases isMd with rfl | rfl <;> rfl

/-- What `OCONV` shows of an `int`, `ICONV` reads back. -/
theorem md_readsBack (holds : HoldsInts Double) {code : String} (isMd : IsMdCode code) {number : ℤ}
    (isInt : IsInt number) : ReadsBack Double code number := by
  have notCase : upperCopy code ≠ "MCU" ∧ upperCopy code ≠ "MCL" := by
    rw [isMd.clean.2.1]
    rcases isMd with rfl | rfl <;> decide
  have shown := @oconvOutputBuiltin_md Double _ code isMd (toString number)
  rw [coerceStringToInt_toString holds isInt] at shown
  refine readsBack_of_texts holds isInt notCase shown (iconv_of_parseMdInt isMd ?_).1
  refine parseMdInt_eq_some.mpr ⟨?_, isInt⟩
  rw [String.toList_ofList, formatMdScaled_eq, parseMdScaled_chars (shifted_valid _ _),
    scaled_shifted, wrapLong_of_isInt isInt]

/-- `ICONV` with `MD` and `MD2` is exact on a text unless its number overflows into an `int`, and
reads back every integer. -/
theorem md_exact_iff (holds : HoldsInts Double) {code : String} (isMd : IsMdCode code) :
    (∀ text, MdExact text code ↔ ¬ Overflows text code) ∧
      ∀ number, IsInt number → ReadsBack Double code number :=
  ⟨mdExact_iff isMd, fun _ isInt => md_readsBack holds isMd isInt⟩

end RoundTrip

/-- With two decimals `12.34` is read as `1234`, and `1234` is shown and read back. -/
theorem md_exact_whole :
    MdExact "12.34" "MD2" ∧ @ReadsBack Int signedDoubles "MD2" 1234 := by
  have scales : ScalesTo "12.34" "MD2" 1234 :=
    ⟨shifted 1234 2, shifted_valid _ _, by decide +kernel, scaled_shifted _ 2⟩
  have fits : ¬ Overflows "12.34" "MD2" := by
    rintro ⟨number, other, tooLarge, -⟩
    rw [other.unique scales] at tooLarge
    exact tooLarge (by decide)
  obtain ⟨exact, readsBack⟩ :=
    @md_exact_iff Int signedDoubles signedDoubles_holdsInts "MD2" (.inr rfl)
  exact ⟨(exact "12.34").mpr fits, readsBack 1234 (by decide)⟩

/-- Twenty digits come back as `1`. -/
theorem md_overflows :
    ¬ (∀ text, MdExact text "MD") ∧
      iconvOutputBuiltin "18446744073709551617" "MD" = .ok "1" := by
  have parsed : parseMdInt "18446744073709551617" "MD" = some 1 := by decide +kernel
  have returned := (iconv_of_parseMdInt (.inl rfl) parsed).1
  refine ⟨fun exact => ?_, returned⟩
  have scales : ScalesTo "18446744073709551617" "MD" 18446744073709551617 := by
    refine ⟨shifted 18446744073709551617 0, shifted_valid _ _, ?_, scaled_shifted _ 0⟩
    decide +kernel
  exact (mdExact_iff (.inl rfl) _).mp (exact _) ⟨_, scales, by decide, by decide⟩

end Gemini.Conversion
