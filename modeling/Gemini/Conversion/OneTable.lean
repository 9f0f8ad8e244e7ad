import Gemini.Conversion.Dates

/-!
# One table of conversions

BASIC and the dictionaries convert with one table, and look a code up in its trimmed upper-case
form. BASIC looks at the code once more to see whether the result is an integer, and there it does
not trim it: with blanks around `MCU` or `MCL` it reads the text as a number.
-/

namespace Gemini.Conversion

open Gemini.VM
open Gemini.Data (stripped stripped_spec stripped_of_bare Bare)

/-! ## The form of a code -/

/-- The form in which a code is looked up. -/
def normalForm (code : String) : String := upperCopy (trimmed code)

/-- A letter of a numeral. -/
def IsNumeralChar (c : Char) : Prop := c.isDigit = true ∨ c = '-'

theorem isNumeralChar_iff (c : Char) :
    IsNumeralChar c ↔ 48 ≤ c.toNat ∧ c.toNat ≤ 57 ∨ c.toNat = 45 := by
  rw [IsNumeralChar, Char.isDigit_iff_toNat, ← Char.toNat_inj]
  simp only [Char.reduceToNat]

/-- What is a digit or a minus sign in capitals is one already. -/
theorem toUpper_of_numeralChar {c : Char} (numeral : IsNumeralChar c.toUpper) : c.toUpper = c := by
  rw [isNumeralChar_iff] at numeral
  have code := toNat_toUpper c
  rw [← Char.toNat_inj]
  split at code <;> omega

/-- The same in small letters. -/
theorem toLower_of_numeralChar {c : Char} (numeral : IsNumeralChar c.toLower) : c.toLower = c := by
  rw [isNumeralChar_iff] at numeral
  have code := toNat_toLower c
  rw [← Char.toNat_inj]
  split at code <;> omega

theorem toUpper_numeralChar {c : Char} (numeral : IsNumeralChar c) : c.toUpper = c := by
  rw [isNumeralChar_iff] at numeral
  have code := toNat_toUpper c
  rw [← Char.toNat_inj]
  split at code <;> omega

theorem toLower_numeralChar {c : Char} (numeral : IsNumeralChar c) : c.toLower = c := by
  rw [isNumeralChar_iff] at numeral
  have code := toNat_toLower c
  rw [← Char.toNat_inj]
  split at code <;> omega

/-- A change of case that leaves a numeral has changed nothing. -/
theorem map_eq_toString_iff {change : Char → Char}
    (keeps : ∀ c, IsNumeralChar (change c) → change c = c)
    (fixes : ∀ c, IsNumeralChar c → change c = c) {value : String} {number : ℤ} :
    value.map change = toString number ↔ value = toString number := by
  have numeral : ∀ c ∈ (toString number).toList, IsNumeralChar c := fun _ => letter_of_toString
  constructor
  · intro same
    have letters : value.toList.map change = (toString number).toList := by
      rw [← same, String.toList_map]
    have unchanged : value.toList.map change = value.toList.map id := by
      refine List.map_congr_left fun c member => keeps c (numeral _ ?_)
      rw [← letters]
      exact List.mem_map_of_mem member
    rw [← String.toList_inj, ← letters, unchanged, List.map_id]
  · rintro rfl
    rw [← String.toList_inj, String.toList_map]
    exact (List.map_congr_left fun c member => fixes c (numeral c member)).trans (List.map_id _)

/-- A normal form is its own normal form. -/
theorem normalForm_normalForm (code : String) : normalForm (normalForm code) = normalForm code := by
  have bare := (stripped_spec isSpace code.toList).1
  have upperBare : Bare isSpace ((stripped isSpace code.toList).map Char.toUpper) := by
    constructor
    · intro c first
      rw [List.head?_map] at first
      obtain ⟨letter, isFirst, rfl⟩ := Option.map_eq_some_iff.mp first
      rw [isSpace_toUpper]
      exact bare.starts letter isFirst
    · intro c last
      rw [List.getLast?_map] at last
      obtain ⟨letter, isLast, rfl⟩ := Option.map_eq_some_iff.mp last
      rw [isSpace_toUpper]
      exact bare.ends letter isLast
  rw [← String.toList_inj]
  simp only [normalForm, upperCopy, trimmed, String.toList_map, String.toList_ofList,
    stripped_of_bare upperBare, List.map_map]
  congr 1
  funext c
  exact toUpper_toUpper c

/-! ## Results as they are shown -/

/-- The text of a result; nothing when the conversion fails. -/
def engineText (result : Except String String) : Option String := result.toOption

/-- The text of a converted value. -/
def displayText {Double : Type} [Doubles Double] (result : Except String (Value Double)) :
    Option String := result.toOption.map valueToString

/-- `static_cast<int>` gives an `int`. -/
structure CastsToInt (Double : Type) [Doubles Double] : Prop where
  isInt_toInt : ∀ number : Double, IsInt (Doubles.toInt number)

/-- The seconds of a time are an `int`. -/
theorem isInt_seconds {text : List Char} {wantSeconds : Bool} {number : ℤ}
    (found : secondsFromTimeString text wantSeconds = some number) : IsInt number := by
  obtain ⟨⟨h, afterH⟩, -, found⟩ := Option.bind_eq_some_iff.mp found
  obtain ⟨⟨c1, afterC1⟩, -, found⟩ := Option.bind_eq_some_iff.mp found
  obtain ⟨⟨m, afterM⟩, -, found⟩ := Option.bind_eq_some_iff.mp found
  obtain ⟨⟨sec, rest⟩, -, found⟩ := Option.bind_eq_some_iff.mp found
  dsimp only at found
  split at found
  · cases found
  · split at found
    · cases found
    · split at found
      · cases found
      · next inside =>
          obtain rfl := Option.some.inj found
          simp only [Bool.or_eq_true, decide_eq_true_eq, not_or, not_lt] at inside
          unfold IsInt intMin intMax
          omega

/-! ## The table -/

/-- The codes that change the case of letters. -/
def IsCaseCode (code : String) : Prop := code = "MCU" ∨ code = "MCL"

instance decidableIsCaseCode (code : String) : Decidable (IsCaseCode code) :=
  inferInstanceAs (Decidable (_ ∨ _))

/-- What a code other than those of letters makes of a text is the numeral of an `int`. -/
theorem exists_int_of_iconvOutputImpl {value code : String} {builtinErrors : Bool} {out : String}
    (notCase : ¬ IsCaseCode code)
    (found : iconvOutputImpl value code builtinErrors = .ok (some out)) :
    ∃ number, IsInt number ∧ out = toString number := by
  have ofNumber : ∀ number : Option ℤ, (∀ n, number = some n → IsInt n) →
      iconvNumber number code builtinErrors = .ok (some out) →
      ∃ n, IsInt n ∧ out = toString n := by
    intro number isInt done
    unfold iconvNumber at done
    split at done
    · next n =>
        cases done
        exact ⟨n, isInt n rfl, rfl⟩
    · split at done <;> cases done
  unfold iconvOutputImpl at found
  split at found
  · exact ofNumber _ (fun _ => isInt_pickDay) found
  · split at found
    · exact ofNumber _ (fun _ => isInt_seconds) found
    · split at found
      · next isUpper => exact (notCase (.inl isUpper)).elim
      · split at found
        · next isLower => exact (notCase (.inr isLower)).elim
        · split at found
          · exact ofNumber _ (fun n parsed => (parseMdInt_eq_some.mp parsed).2) found
          · split at found <;> cases found

/-- A result that is there has been returned. -/
theorem toOption_bind_eq_some {ε α : Type} {result : Except ε (Option α)} {out : α}
    (found : result.toOption.bind id = some out) : result = .ok (some out) := by
  rcases result with _ | _ | _
  · cases found
  · cases found
  · cases found
    rfl

/-- Whether errors are thrown does not matter for the texts. -/
theorem iconvOutputImpl_text (value code : String) :
    ((iconvOutputImpl value code true).toOption.bind id) =
      (iconvOutputImpl value code false).toOption.bind id := by
  have ofNumber : ∀ number : Option ℤ, (iconvNumber number code true).toOption.bind id =
      (iconvNumber number code false).toOption.bind id := by
    intro number
    cases number <;> rfl
  unfold iconvOutputImpl
  split
  · exact ofNumber _
  · split
    · exact ofNumber _
    · split
      · rfl
      · split
        · rfl
        · split
          · exact ofNumber _
          · rfl

section Agreement

variable {Double : Type} [Doubles Double]

/-- The two entry points of `ICONV` give the same texts, and both look the code up in its normal
form. -/
theorem engineText_iconv (value code : String) :
    engineText (iconvOutputBuiltin value code) =
        (iconvOutputImpl value (normalForm code) false).toOption.bind id ∧
      engineText (iconvOutput value code) =
        (iconvOutputImpl value (normalForm code) false).toOption.bind id := by
  constructor
  · rw [← iconvOutputImpl_text]
    unfold engineText iconvOutputBuiltin normalForm
    rcases iconvOutputImpl value (upperCopy (trimmed code)) true with _ | _ | _ <;> rfl
  · unfold engineText iconvOutput normalForm
    dsimp only
    rcases iconvOutputImpl value (upperCopy (trimmed code)) false with _ | _ | _
    · rfl
    · dsimp only [Bind.bind, Except.bind]
      split
      · rfl
      · rfl
    · rfl

/-- The texts of `OCONV` do not depend on the wording of errors. -/
theorem oconvOutputImpl_text (value code : String) :
    (oconvOutputImpl Double value code true).toOption.bind id =
      (oconvOutputImpl Double value code false).toOption.bind id := by
  unfold oconvOutputImpl
  dsimp only
  split
  · rfl
  · split
    · rfl
    · split
      · rfl
      · split
        · rfl
        · split <;> rfl

/-- Both entry points of `OCONV` show the same, for the normal form of the code. -/
theorem engineText_oconv (value code : String) :
    engineText (oconvOutputBuiltin Double value code) =
        (oconvOutputImpl Double value (normalForm code) false).toOption.bind id ∧
      engineText (oconvOutput Double value code) =
        (oconvOutputImpl Double value (normalForm code) false).toOption.bind id := by
  constructor
  · rw [← oconvOutputImpl_text]
    unfold engineText oconvOutputBuiltin normalForm
    rcases oconvOutputImpl Double value (upperCopy (trimmed code)) true with _ | _ | _ <;> rfl
  · unfold engineText oconvOutput normalForm
    dsimp only
    rcases oconvOutputImpl Double value (upperCopy (trimmed code)) false with _ | _ | _ <;> rfl

/-- `OCONV` shows in BASIC what the engine gives. -/
theorem displayText_output (value code : String) :
    displayText (dispatchConvertCode .output (.string value : Value Double) code) =
      engineText (oconvOutputBuiltin Double value code) := by
  unfold dispatchConvertCode displayText engineText
  dsimp only [valueToString]
  rcases oconvOutputBuiltin Double value code with _ | _ <;> rfl

/-- The dispatch shows what `ICONV` gives: the text with `MCU` and `MCL`, and else its `int`. -/
theorem displayText_input (value code : String) :
    displayText (dispatchConvertCode .input (.string value : Value Double) code) =
      (engineText (iconvOutputBuiltin value code)).map fun converted =>
        if IsCaseCode (upperCopy code) then converted
        else toString (coerceToInt (.string converted : Value Double)) := by
  unfold dispatchConvertCode displayText engineText
  dsimp only [valueToString]
  rcases iconvOutputBuiltin value code with _ | converted
  · rfl
  · dsimp only [Bind.bind, Except.bind]
    simp only [Bool.or_eq_true, decide_eq_true_eq]
    by_cases isCase : IsCaseCode (upperCopy code)
    · rw [if_pos (by exact isCase), Except.toOption, Option.map_some, if_pos isCase]
      rfl
    · rw [if_neg (by exact isCase), Except.toOption, Option.map_some, if_neg isCase]
      rfl

/-- The engine and BASIC convert a text alike, and as with the normal form of the code. -/
structure OneTable (Double : Type) [Doubles Double] (value code : String) : Prop where
  output : displayText (dispatchConvertCode .output (.string value : Value Double) code) =
    engineText (oconvOutput Double value code)
  input : displayText (dispatchConvertCode .input (.string value : Value Double) code) =
    engineText (iconvOutput value code)
  outputForm : displayText (dispatchConvertCode .output (.string value : Value Double) code) =
    displayText (dispatchConvertCode .output (.string value : Value Double) (normalForm code))
  inputForm : displayText (dispatchConvertCode .input (.string value : Value Double) code) =
    displayText (dispatchConvertCode .input (.string value : Value Double) (normalForm code))
  engineOutputForm : engineText (oconvOutput Double value code) =
    engineText (oconvOutput Double value (normalForm code))
  engineInputForm : engineText (iconvOutput value code) =
    engineText (iconvOutput value (normalForm code))

/-- A code of letters has no blanks around it, or the text is the numeral of an `int`. -/
def TakesCode (value code : String) : Prop :=
  IsCaseCode (normalForm code) → upperCopy code = normalForm code ∨
    ∃ number, IsInt number ∧ value = toString number

/-- Capitals stay capitals. -/
theorem upperCopy_upperCopy (text : String) : upperCopy (upperCopy text) = upperCopy text := by
  rw [upperCopy, upperCopy, String.map_map]
  congr 1
  funext c
  exact toUpper_toUpper c

/-- A code that is one of letters as it stands has no blanks around it. -/
theorem normalForm_of_isCaseCode {code : String} (isCase : IsCaseCode (upperCopy code)) :
    normalForm code = upperCopy code := by
  have letters : ∀ c ∈ (upperCopy code).toList, isSpace c = false := by
    rcases isCase with same | same <;> rw [same] <;> simp [isSpace]
  have codeLetters : ∀ c ∈ code.toList, isSpace c = false := by
    intro c member
    rw [← isSpace_toUpper]
    refine letters _ ?_
    rw [upperCopy, String.toList_map]
    exact List.mem_map_of_mem member
  have bare : Bare isSpace code.toList :=
    ⟨fun c first => codeLetters c (List.mem_of_mem_head? first),
      fun c last => codeLetters c (List.mem_of_getLast? last)⟩
  rw [normalForm, trimmed, stripped_of_bare bare, String.ofList_toList]

/-- A value is coerced to an `int`. -/
theorem isInt_coerceToInt (casts : CastsToInt Double) (value : Value Double) :
    IsInt (coerceToInt value) := by
  unfold coerceToInt
  dsimp only
  split
  · exact ⟨by decide, by decide⟩
  · exact casts.isInt_toInt _

/-- The texts that come back from a reading as an integer. -/
theorem toString_coerceToInt_eq_iff (holds : HoldsInts Double) (casts : CastsToInt Double)
    (text : String) :
    toString (coerceToInt (.string text : Value Double)) = text ↔
      ∃ number, IsInt number ∧ text = toString number := by
  constructor
  · exact fun same => ⟨_, isInt_coerceToInt casts _, same.symm⟩
  · rintro ⟨number, isInt, rfl⟩
    rw [coerceToInt_toString holds isInt.1 isInt.2]

/-- A code of letters that BASIC does not take for one converts the numerals of an `int` only. -/
theorem case_agrees_iff (holds : HoldsInts Double) (casts : CastsToInt Double)
    {value code : String} (isCase : IsCaseCode code) :
    ((iconvOutputImpl value code false).toOption.bind id).map
        (fun converted => toString (coerceToInt (.string converted : Value Double))) =
      (iconvOutputImpl value code false).toOption.bind id ↔
      ∃ number, IsInt number ∧ value = toString number := by
  have changed : ∀ change : Char → Char, (∀ c, IsNumeralChar (change c) → change c = c) →
      (∀ c, IsNumeralChar c → change c = c) →
      ((some (value.map change)).map (fun converted =>
          toString (coerceToInt (.string converted : Value Double))) = some (value.map change) ↔
        ∃ number, IsInt number ∧ value = toString number) := by
    intro change keeps fixes
    rw [Option.map_some, Option.some_inj, toString_coerceToInt_eq_iff holds casts]
    exact exists_congr fun number => and_congr_right fun _ => map_eq_toString_iff keeps fixes
  rcases isCase with rfl | rfl
  · exact changed _ (fun _ => toUpper_of_numeralChar) fun _ => toUpper_numeralChar
  · exact changed _ (fun _ => toLower_of_numeralChar) fun _ => toLower_numeralChar

/-- BASIC shows what the engine gives for the codes that it takes for what they are. -/
theorem input_agrees_iff (holds : HoldsInts Double) (casts : CastsToInt Double)
    (value code : String) :
    displayText (dispatchConvertCode .input (.string value : Value Double) code) =
      engineText (iconvOutput value code) ↔ TakesCode value code := by
  have texts := engineText_iconv value code
  rw [displayText_input, texts.1, texts.2]
  by_cases isCase : IsCaseCode (upperCopy code)
  · have same : TakesCode value code := fun _ => .inl (normalForm_of_isCaseCode isCase).symm
    simp only [if_pos isCase, Option.map_id_fun', id_eq, same]
  · simp only [if_neg isCase]
    by_cases normalCase : IsCaseCode (normalForm code)
    · have different : upperCopy code ≠ normalForm code := fun same => isCase (same ▸ normalCase)
      rw [case_agrees_iff holds casts normalCase]
      exact ⟨fun numeral _ => .inr numeral, fun takes => (takes normalCase).resolve_left different⟩
    · have takes : TakesCode value code := fun normal => (normalCase normal).elim
      simp only [takes, iff_true]
      cases found : (iconvOutputImpl value (normalForm code) false).toOption.bind id with
      | none => rfl
      | some out =>
          obtain ⟨number, isInt, rfl⟩ := exists_int_of_iconvOutputImpl normalCase
            (toOption_bind_eq_some found)
          rw [Option.map_some, (toString_coerceToInt_eq_iff holds casts _).mpr ⟨number, isInt, rfl⟩]

/-- Everything but the input side of BASIC looks a code up in its normal form. -/
theorem engineText_normalForm (value code : String) :
    engineText (oconvOutput Double value code) =
        engineText (oconvOutput Double value (normalForm code)) ∧
      engineText (iconvOutput value code) = engineText (iconvOutput value (normalForm code)) := by
  rw [(engineText_oconv value code).2, (engineText_oconv value (normalForm code)).2,
    (engineText_iconv value code).2, (engineText_iconv value (normalForm code)).2,
    normalForm_normalForm]
  exact ⟨rfl, rfl⟩

/-- The dispatch shows what `OCONV` gives. -/
theorem displayText_oconvOutput (value code : String) :
    displayText (dispatchConvertCode .output (.string value : Value Double) code) =
      engineText (oconvOutput Double value code) := by
  rw [displayText_output, (engineText_oconv value code).1, (engineText_oconv value code).2]

/-- A code in its normal form is taken. -/
theorem takesCode_normalForm (value code : String) : TakesCode value (normalForm code) := by
  intro _
  rw [normalForm_normalForm, normalForm, upperCopy_upperCopy]
  exact .inl rfl

/-- BASIC and the dictionaries convert a text with one table exactly when BASIC takes the code for
what it is. -/
theorem oneTable_iff (holds : HoldsInts Double) (casts : CastsToInt Double)
    (value code : String) : OneTable Double value code ↔ TakesCode value code := by
  have agrees := input_agrees_iff holds casts value
  have sameForm := @engineText_normalForm Double _ value code
  constructor
  · exact fun same => (agrees code).mp same.input
  · intro takes
    have input := (agrees code).mpr takes
    have inputForm := (agrees (normalForm code)).mpr (takesCode_normalForm value code)
    exact {
      output := displayText_oconvOutput value code
      input
      outputForm := by
        rw [displayText_oconvOutput, displayText_oconvOutput, sameForm.1]
      inputForm := by rw [input, inputForm, sameForm.2]
      engineOutputForm := sameForm.1
      engineInputForm := sameForm.2 }

end Agreement

/-- Whole numbers whose cast wraps to an `int`. -/
@[reducible] def wrappedDoubles : Doubles Int := { signedDoubles with toInt := wrapInt }

/-- Wrapped numbers hold every `int`. -/
theorem wrappedDoubles_holdsInts : @HoldsInts Int wrappedDoubles :=
  @HoldsInts.mk Int wrappedDoubles (@HoldsInts.strtod_toString Int signedDoubles
    signedDoubles_holdsInts) (fun _ _ _ _ _ _ => rfl) fun _ low high => wrapInt_of_isInt ⟨low, high⟩

/-- Wrapped numbers are cast to `int`s. -/
theorem wrappedDoubles_castsToInt : @CastsToInt Int wrappedDoubles :=
  @CastsToInt.mk Int wrappedDoubles isInt_wrapInt

/-- A code with blanks around it and in small letters means the same everywhere. -/
theorem oneTable_blank_money :
    @OneTable Int wrappedDoubles "-125" " md2 " ∧ TakesCode "-125" " md2 " := by
  have takes : TakesCode "-125" " md2 " := fun isCase => absurd isCase (by decide +kernel)
  exact ⟨(@oneTable_iff Int wrappedDoubles wrappedDoubles_holdsInts wrappedDoubles_castsToInt
    _ _).mpr takes, takes⟩

/-- With a blank around `MCU` BASIC reads the converted text as a number. -/
theorem blank_case_code_is_number : ¬ @OneTable Int wrappedDoubles "abc" " MCU " := by
  intro table
  have same := @OneTable.input Int wrappedDoubles _ _ table
  revert same
  decide +kernel

end Gemini.Conversion
