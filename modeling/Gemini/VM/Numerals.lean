import Gemini.Data.Cuts
import Gemini.VM.Value

/-!
# Integers and their numerals

The integers that an `int` holds are those from `intMin` to `intMax`; a computation in 32 bits
gives one of them, and the exact result where that is one. An integer is printed in decimal
with a minus sign where it is negative, and is read back as the number it was. The letters of
numerals and of blanks have no case. A text without blanks around it is what trimming leaves of it.
-/

namespace Gemini.VM

open Gemini.Data (Bare stripped_append stripped_of_bare stripped_spec)

/-! ## The values of an `int` -/

/-- A number is a value of an `int`. -/
def IsInt (number : Int) : Prop := intMin ≤ number ∧ number ≤ intMax

instance (number : Int) : Decidable (IsInt number) :=
  inferInstanceAs (Decidable (intMin ≤ number ∧ number ≤ intMax))

/-- A wrapped number is an `int`. -/
theorem isInt_wrapInt (number : Int) : IsInt (wrapInt number) := by
  have low := @Int.le_bmod number (2 ^ 32) (by decide)
  have high := @Int.bmod_lt number (2 ^ 32) (by decide)
  unfold IsInt wrapInt intMin intMax
  omega

/-- An `int` is not wrapped. -/
theorem wrapInt_of_isInt {number : Int} (inRange : IsInt number) : wrapInt number = number := by
  obtain ⟨low, high⟩ := inRange
  unfold intMin at low
  unfold intMax at high
  exact Int.bmod_eq_of_le (by omega) (by omega)

/-! ## Letters -/

/-- The code of a letter in upper case. -/
theorem toNat_toUpper (c : Char) :
    c.toUpper.toNat = if 97 ≤ c.toNat ∧ c.toNat ≤ 122 then c.toNat - 32 else c.toNat := by
  have shift : ('A'.val - 'a'.val).toNat = 2 ^ 32 - 32 := by decide
  by_cases lower : 97 ≤ c.toNat ∧ c.toNat ≤ 122
  · have isLower : c.val ≥ 'a'.val ∧ c.val ≤ 'z'.val := by
      rw [ge_iff_le, UInt32.le_iff_toNat_le, UInt32.le_iff_toNat_le]
      exact lower
    have moved : c.toUpper.val = c.val + ('A'.val - 'a'.val) := by
      delta Char.toUpper
      rw [dif_pos isLower]
    have same : c.toNat = c.val.toNat := rfl
    rw [if_pos lower, ← Char.toNat_val, moved, UInt32.toNat_add, shift]
    omega
  · have notLower : ¬ (c.val ≥ 'a'.val ∧ c.val ≤ 'z'.val) := by
      rw [ge_iff_le, UInt32.le_iff_toNat_le, UInt32.le_iff_toNat_le]
      exact lower
    delta Char.toUpper
    rw [if_neg lower, dif_neg notLower]

/-- The codes of the capitals. -/
theorem isUpper_iff_toNat {c : Char} : c.isUpper = true ↔ 65 ≤ c.toNat ∧ c.toNat ≤ 90 := by
  delta Char.isUpper
  exact decide_eq_true_iff

/-- The codes of the letters. -/
theorem isAlpha_iff_toNat {c : Char} :
    c.isAlpha = true ↔ 65 ≤ c.toNat ∧ c.toNat ≤ 90 ∨ 97 ≤ c.toNat ∧ c.toNat ≤ 122 := by
  have isLower : c.isLower = true ↔ 97 ≤ c.toNat ∧ c.toNat ≤ 122 := by
    delta Char.isLower
    rw [Bool.and_eq_true, decide_eq_true_iff, decide_eq_true_iff]
    rfl
  delta Char.isAlpha
  rw [Bool.or_eq_true, isUpper_iff_toNat, isLower]

/-- Letters and digits are no spaces. -/
theorem isSpace_of_isAlphanum {c : Char} (alphanum : c.isAlphanum) : isSpace c = false := by
  have printed : 48 ≤ c.toNat := by
    rw [Char.isAlphanum, Bool.or_eq_true, isAlpha_iff_toNat, Char.isDigit_iff_toNat] at alphanum
    have zero : '0'.toNat = 48 := rfl
    omega
  have notBlank : c ≠ ' ' := by
    rintro rfl
    cases alphanum
  simp only [isSpace, Bool.or_eq_false_iff, decide_eq_false_iff_not, Bool.and_eq_false_imp,
    decide_eq_true_eq]
  exact ⟨notBlank, fun _ => by omega⟩

/-- The case of a character does not decide whether it is a space. -/
theorem isSpace_toUpper (c : Char) : isSpace c.toUpper = isSpace c := by
  have blank : ∀ letter : Char, letter = ' ' ↔ letter.toNat = 32 := by
    intro letter
    rw [← Char.toNat_inj]
    simp only [Char.reduceToNat]
  have code := toNat_toUpper c
  rw [Bool.eq_iff_iff]
  simp only [isSpace, Bool.or_eq_true, Bool.and_eq_true, decide_eq_true_eq, blank]
  split at code <;> omega

/-- Upper case of upper case. -/
theorem toUpper_toUpper (c : Char) : c.toUpper.toUpper = c.toUpper := by
  rw [← Char.toNat_inj, toNat_toUpper]
  have code := toNat_toUpper c
  split at code
  · exact if_neg (by omega)
  · next notLower => rw [code, if_neg notLower]

/-- The code of a letter in lower case. -/
theorem toNat_toLower (c : Char) :
    c.toLower.toNat = if 65 ≤ c.toNat ∧ c.toNat ≤ 90 then c.toNat + 32 else c.toNat := by
  have shift : ('a'.val - 'A'.val).toNat = 32 := by decide
  by_cases upper : 65 ≤ c.toNat ∧ c.toNat ≤ 90
  · have isUpper : c.val ≥ 'A'.val ∧ c.val ≤ 'Z'.val := by
      rw [ge_iff_le, UInt32.le_iff_toNat_le, UInt32.le_iff_toNat_le]
      exact upper
    have moved : c.toLower.val = c.val + ('a'.val - 'A'.val) := by
      delta Char.toLower
      rw [dif_pos isUpper]
    have same : c.toNat = c.val.toNat := rfl
    rw [if_pos upper, ← Char.toNat_val, moved, UInt32.toNat_add, shift]
    omega
  · have notUpper : ¬ (c.val ≥ 'A'.val ∧ c.val ≤ 'Z'.val) := by
      rw [ge_iff_le, UInt32.le_iff_toNat_le, UInt32.le_iff_toNat_le]
      exact upper
    delta Char.toLower
    rw [if_neg upper, dif_neg notUpper]

/-! ## Blanks around a text -/

/-- A blank is a space. -/
theorem isSpace_of_isBlank {c : Char} (blank : isBlank c = true) : isSpace c = true := by
  simp only [isBlank, Bool.or_eq_true, decide_eq_true_eq] at blank
  rcases blank with ((rfl | rfl) | rfl) | rfl <;> rfl

theorem trim_blank_left {text : List Char} (bare : Bare isBlank text) :
    trim (' ' :: text) = text := by
  have stripped := @stripped_append _ _ _ bare [' '] []
    (List.forall_mem_singleton.mpr rfl) (by nofun)
  rw [List.append_nil] at stripped
  exact stripped

theorem trim_blank_right {text : List Char} (bare : Bare isBlank text) :
    trim (text ++ [' ']) = text :=
  @stripped_append _ _ _ bare [] [' '] (by nofun) (List.forall_mem_singleton.mpr rfl)

/-- A text without blanks at its ends stays as it is. -/
theorem trim_of_bare {text : List Char} (bare : Bare isBlank text) : trim text = text :=
  stripped_of_bare bare

/-- A trimmed text stays as it is. -/
theorem trim_trim (text : List Char) : trim (trim text) = trim text :=
  trim_of_bare (stripped_spec isBlank text).1

/-! ## Decimal numerals -/

/-- A natural number is written in its digits. -/
theorem toList_toString_nat (number : Nat) :
    (toString number).toList = Nat.toDigits 10 number := by
  rw [Nat.toString_eq_ofList_toDigits, String.toList_ofList]

/-- An integer is written with a minus sign before its digits, if it is negative. -/
theorem toList_toString_int (number : Int) :
    (toString number).toList =
      (if number < 0 then ['-'] else []) ++ Nat.toDigits 10 number.natAbs := by
  cases number with
  | ofNat magnitude =>
      have positive : ¬ Int.ofNat magnitude < 0 := by simp
      rw [if_neg positive, List.nil_append]
      exact toList_toString_nat magnitude
  | negSucc predecessor =>
      rw [if_pos (Int.negSucc_lt_zero predecessor)]
      change ("-" ++ toString (predecessor + 1)).toList = _
      rw [String.toList_append, toList_toString_nat]
      rfl

/-- Digits are digits. -/
theorem isDigit_of_mem_digits {number : Nat} {letter : Char}
    (member : letter ∈ Nat.toDigits 10 number) : letter.isDigit = true :=
  Nat.isDigit_of_mem_toDigits (by decide) (by decide) member

/-- A number has a digit. -/
theorem digits_ne_nil (number : Nat) : Nat.toDigits 10 number ≠ [] :=
  Nat.toDigits_ne_nil

/-- A number is not written as nothing. -/
theorem toString_int_ne_empty (number : Int) : toString number ≠ "" := by
  intro empty
  have letters := congrArg String.toList empty
  rw [toList_toString_int, String.toList_empty, List.append_eq_nil_iff] at letters
  exact digits_ne_nil _ letters.2

/-- A printed integer has digits and the minus sign. -/
theorem letter_of_toString {number : Int} {letter : Char}
    (member : letter ∈ (toString number).toList) : letter.isDigit = true ∨ letter = '-' := by
  rw [toList_toString_int, List.mem_append] at member
  rcases member with sign | digit
  · split at sign
    · exact .inr (List.mem_singleton.mp sign)
    · cases sign
  · exact .inl (isDigit_of_mem_digits digit)

/-- A number has only digits and a minus sign. -/
theorem not_mem_toString {number : Int} {letter : Char} (notDigit : letter.isDigit = false)
    (notMinus : letter ≠ '-') : letter ∉ (toString number).toList := by
  intro member
  rcases letter_of_toString member with digit | minus
  · rw [notDigit] at digit
    cases digit
  · exact notMinus minus

/-- A number has no zero character. -/
theorem cString_toString_int (number : Int) :
    cString (toString number) = (toString number).toList := by
  rw [cString, List.takeWhile_eq_self_iff]
  intro letter member
  have different : letter ≠ Char.ofNat 0 := by
    rintro rfl
    exact not_mem_toString (by decide) (by decide) member
  simpa using different

/-- A number is its sign and its magnitude. -/
theorem signed_natAbs (number : Int) : signed (decide (number < 0)) number.natAbs = number := by
  unfold signed
  by_cases negative : number < 0
  · rw [if_pos (by simpa using negative)]
    omega
  · rw [if_neg (by simpa using negative)]
    omega

/-- A digit is no space. -/
theorem isSpace_of_isDigit {letter : Char} (digit : letter.isDigit = true) :
    isSpace letter = false := by
  have large : 48 ≤ letter.toNat := by
    have bounds := Char.isDigit_iff_toNat.mp digit
    simpa using bounds.1
  have notBlank : letter ≠ ' ' := by
    rintro rfl
    exact absurd large (by decide)
  unfold isSpace
  rw [decide_eq_false notBlank, decide_eq_false (show ¬ letter.toNat ≤ 13 by omega)]
  simp

section Scanning

variable {digits rest : List Char} (allDigits : ∀ letter ∈ digits, letter.isDigit = true)
  (ended : ∀ letter, rest.head? = some letter → letter.isDigit = false)
include allDigits ended

/-- The digits before a text that begins with none. -/
theorem takeWhile_digits : (digits ++ rest).takeWhile Char.isDigit = digits := by
  rw [List.takeWhile_append_of_pos allDigits]
  cases rest with
  | nil => simp
  | cons letter more => simp [ended letter rfl]

/-- The text behind the digits. -/
theorem dropWhile_digits : (digits ++ rest).dropWhile Char.isDigit = rest := by
  rw [List.dropWhile_append_of_pos allDigits]
  cases rest with
  | nil => rfl
  | cons letter more => simp [ended letter rfl]

/-- Digits are read with the sign that stands before them. -/
theorem scanInteger_digits (some : digits ≠ []) (negative : Bool) :
    scanInteger ((if negative then ['-'] else []) ++ (digits ++ rest)) =
      Option.some (negative, Nat.ofDigitChars 10 digits 0, rest) := by
  obtain ⟨first, others, rfl⟩ := List.exists_cons_of_ne_nil some
  have digit : first.isDigit = true := allDigits first List.mem_cons_self
  have notMinus : first ≠ '-' := by
    rintro rfl
    cases digit
  have notPlus : first ≠ '+' := by
    rintro rfl
    cases digit
  have taken := takeWhile_digits allDigits ended
  have left := dropWhile_digits allDigits ended
  rw [List.cons_append] at taken left
  unfold scanInteger
  cases negative with
  | true =>
      have body : List.dropWhile isSpace ('-' :: first :: (others ++ rest)) =
          '-' :: first :: (others ++ rest) := rfl
      simp [body, taken, left]
  | false =>
      have body : List.dropWhile isSpace (first :: (others ++ rest)) = first :: (others ++ rest) := by
        rw [List.dropWhile_cons_of_neg]
        simp [isSpace_of_isDigit digit]
      simp [body, taken, left, notMinus, notPlus]

end Scanning

/-- What is read as an integer are digits, with their sign and with blanks before them. -/
theorem scanInteger_spec {text rest : List Char} {negative : Bool} {magnitude : Nat}
    (scanned : scanInteger text = some (negative, magnitude, rest)) :
    ∃ sign digits, text.dropWhile isSpace = sign ++ (digits ++ rest) ∧
      sign ∈ [[], ['+'], ['-']] ∧ negative = decide (sign = ['-']) ∧ digits ≠ [] ∧
      (∀ letter ∈ digits, letter.isDigit = true) ∧
      magnitude = Nat.ofDigitChars 10 digits 0 := by
  have digitsOf : ∀ (sign unsigned : List Char) (isMinus : Bool),
      text.dropWhile isSpace = sign ++ unsigned → sign ∈ [[], ['+'], ['-']] →
      isMinus = decide (sign = ['-']) →
      (if (unsigned.takeWhile Char.isDigit).isEmpty then none
        else some (isMinus, Nat.ofDigitChars 10 (unsigned.takeWhile Char.isDigit) 0,
          unsigned.dropWhile Char.isDigit)) = some (negative, magnitude, rest) →
      ∃ sign digits, text.dropWhile isSpace = sign ++ (digits ++ rest) ∧
        sign ∈ [[], ['+'], ['-']] ∧ negative = decide (sign = ['-']) ∧ digits ≠ [] ∧
        (∀ letter ∈ digits, letter.isDigit = true) ∧
        magnitude = Nat.ofDigitChars 10 digits 0 := by
    intro sign unsigned isMinus isBody isSign minus found
    split at found
    · cases found
    · next some =>
        simp only [Option.some.injEq, Prod.mk.injEq] at found
        obtain ⟨isNegative, isNumber, isRest⟩ := found
        refine ⟨sign, unsigned.takeWhile Char.isDigit, ?_, isSign, isNegative ▸ minus,
          by simpa using some, fun letter member => List.mem_takeWhile_imp member, isNumber.symm⟩
        rw [isBody, ← isRest, List.takeWhile_append_dropWhile]
  unfold scanInteger at scanned
  generalize text.dropWhile isSpace = body at *
  dsimp only at scanned
  rcases body with _ | ⟨first, others⟩
  · exact digitsOf [] [] false rfl (by simp) (by simp) scanned
  · by_cases minus : first = '-'
    · subst minus
      exact digitsOf ['-'] others true rfl (by simp) (by simp) scanned
    · by_cases plus : first = '+'
      · subst plus
        exact digitsOf ['+'] others false rfl (by simp) (by simp) scanned
      · have notMinus : (some first = some '-') = False := by simp [minus]
        have notPlus : (some first = some '+') = False := by simp [plus]
        simp only [List.head?_cons, notMinus, notPlus, decide_false, Bool.or_self,
          Bool.false_eq_true, if_false] at scanned
        exact digitsOf [] (first :: others) false rfl (by simp) (by simp) scanned

/-- `stoi` on digits: none at all and too many are refused. -/
theorem stoi_digits {digits : List Char} (allDigits : ∀ letter ∈ digits, letter.isDigit = true) :
    stoi digits =
      if digits = [] ∨ intMax < Nat.ofDigitChars 10 digits 0 then none
      else some (((Nat.ofDigitChars 10 digits 0 : ℕ) : ℤ), []) := by
  by_cases empty : digits = []
  · subst empty
    rfl
  · have scanned := @scanInteger_digits digits [] allDigits (by rintro letter ⟨⟩) empty false
    rw [List.append_nil] at scanned
    have scanned : scanInteger digits = some (false, Nat.ofDigitChars 10 digits 0, []) := scanned
    have nonneg : ¬ ((Nat.ofDigitChars 10 digits 0 : ℕ) : ℤ) < intMin := by
      unfold intMin
      omega
    rw [stoi, scanned]
    simp [signed, empty, nonneg]

/-- A printed integer is read as its sign and its magnitude. -/
theorem scanInteger_toString (number : Int) {rest : List Char}
    (ended : ∀ letter, rest.head? = some letter → letter.isDigit = false) :
    scanInteger ((toString number).toList ++ rest) =
      some (decide (number < 0), number.natAbs, rest) := by
  have scanned := scanInteger_digits (fun _ => isDigit_of_mem_digits) ended
    (digits_ne_nil number.natAbs) (decide (number < 0))
  rw [Nat.ofDigitChars_ten_toDigits] at scanned
  rw [toList_toString_int, List.append_assoc, ← scanned]
  simp

end Gemini.VM
