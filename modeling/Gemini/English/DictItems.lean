import Gemini.Conversion.Codes
import Gemini.English.DictionaryResolver
import Gemini.English.IExpressionParser
import Gemini.English.Sorting
import Gemini.PickVoc.VocResolver
import Gemini.VM.Numerals

/-!
# The items of a dictionary

What an item of a dictionary says is read twice: `DictItemClassifier::classify` for a list of the
dictionary, and `fieldFromStructuredDict` where a field is resolved. Both use the parsers of the
items of the types `F` and `I`, but the one strips blanks around the type code and around the
attribute number of an item of the type `A`, and the other does not.
-/

namespace Gemini.English

open Gemini.Conversion (trimmed)
open Gemini.Data (Bare stripped_of_bare)
open Gemini.PickFS (World FileSystem Record StructuredRecord)
open Gemini.PickVoc (upperAscii)
open Gemini.Semantics Program
open Gemini.VM (DictFieldKind FileError intMax isSpace isSpace_of_isDigit stoi_digits)

/-! ## Fields -/

/-- What an F-type item takes of an attribute. -/
inductive FSelectorKind where
  | valueIndex
  | leftmost
  | rightmost
  | conversionRaw
deriving DecidableEq

/-- The definition of an F-type item. -/
structure FCorrelativeDef where
  sourceAttributeNo : Int
  tailRaw : String
  selectorKind : FSelectorKind := .conversionRaw
  valueIndex : Int := 0

/-- The definition of an I-type item: a text, and the expression that it is. -/
structure ICorrelativeDef (Number : Type) where
  expressionRaw : String
  expression : IExpr Number

/-- A field as the dictionary resolves it. -/
structure FieldRef (Number : Type) where
  kind : DictFieldKind := .attribute
  attributeNo : Option Int := none
  conversion : ConversionCode := .none
  fCorrelative : Option FCorrelativeDef := none
  iCorrelative : Option (ICorrelativeDef Number) := none

variable {Number : Type}

/-- Whether a field has what its kind needs. -/
def fieldRefIsResolved (ref : FieldRef Number) : Bool :=
  match ref.kind with
  | .fCorrelative => ref.fCorrelative.isSome
  | .iCorrelative => ref.iCorrelative.isSome
  | .attribute => ref.attributeNo.isSome

/-- A field that is an attribute. -/
def makeAttributeRef (attributeNo : Option Int) (conversion : ConversionCode) : FieldRef Number :=
  { attributeNo, conversion }

/-- A field that is not known. -/
def makeUnresolvedRef : FieldRef Number := makeAttributeRef none .none

/-- The field for the machine, with what `evaluateFieldCell` gives for it. -/
def FieldRef.forMachine (evaluateFieldCell : FieldRef Number → StructuredRecord →
    Except FileError String) (ref : FieldRef Number) : VM.FieldRef where
  kind := ref.kind
  attributeNo := ref.attributeNo
  correlative := match ref.kind with
    | .fCorrelative => ref.fCorrelative.isSome
    | _ => ref.iCorrelative.isSome
  cell := evaluateFieldCell ref

/-- The machine knows the fields that ENGLISH knows. -/
theorem fieldRefIsResolved_forMachine (evaluateFieldCell : FieldRef Number → StructuredRecord →
    Except FileError String) (ref : FieldRef Number) :
    VM.fieldRefIsResolved (ref.forMachine evaluateFieldCell) = fieldRefIsResolved ref := by
  unfold VM.fieldRefIsResolved fieldRefIsResolved FieldRef.forMachine
  cases kind : ref.kind <;> rfl

/-- `classifyFromAttrs`: the conversion of the last attribute that names one. -/
def classifyFromAttrs (attrs : StructuredRecord) : ConversionCode :=
  let cells := [10, 9, 8, 7].map fun attributeNo =>
    upperAscii (trimmed (attrs.attributeAt attributeNo).firstValue)
  (cells.findSome? fun code =>
    if "MD".toList <+: code.toList then some .md
    else if "MC".toList <+: code.toList then some .mc
    else if "D".toList <+: code.toList then some .d
    else none).getD .none

/-! ## Parsers of items -/

namespace DictFItemParser

/-- `DictFItemParser::parse`: the item, or the text of the error. -/
def parse (dictAttrs : StructuredRecord) : Except FileError (Except String FCorrelativeDef) := do
  let type := (dictAttrs.attributeAt 1).firstValue
  if type ≠ "F" ∧ type ≠ "f" then
    return .error "Invalid F-type DICT item: not an F-type record"
  let sourceText := trimmed (dictAttrs.attributeAt 2).firstValue
  if sourceText = "" then
    return .error "Invalid F-type DICT item: missing source attribute"
  match ← parsePositiveInt sourceText with
  | none => return .error "Invalid F-type DICT item: bad source attribute number"
  | some sourceAttributeNo =>
      let tailRaw := trimmed (dictAttrs.attributeAt 3).firstValue
      if tailRaw = "" then
        return .error "Invalid F-type DICT item: missing selector"
      else if upperAscii tailRaw = "L" then
        return .ok { sourceAttributeNo, tailRaw, selectorKind := .leftmost }
      else if upperAscii tailRaw = "R" then
        return .ok { sourceAttributeNo, tailRaw, selectorKind := .rightmost }
      else
        match ← parsePositiveInt tailRaw with
        | some valueIndex =>
            return .ok { sourceAttributeNo, tailRaw, selectorKind := .valueIndex, valueIndex }
        | none => return .ok { sourceAttributeNo, tailRaw }

end DictFItemParser

namespace DictIItemParser

/-- `DictIItemParser::parse`. -/
def parse [DecidableEq Number] [IType.Literals Number] (dictAttrs : StructuredRecord) :
    Except String (ICorrelativeDef Number) := do
  let type := (dictAttrs.attributeAt 1).firstValue
  if type ≠ "I" ∧ type ≠ "i" then throw "Invalid I-type DICT item: not an I-type record"
  let expressionRaw := trimmed (dictAttrs.attributeAt 2).firstValue
  if expressionRaw = "" then throw "Invalid I-type DICT item: missing expression"
  let expression ← IType.parse expressionRaw
  return { expressionRaw, expression }

end DictIItemParser

section Items

variable [DecidableEq Number] [IType.Literals Number]

/-! ## Resolution -/

/-- `fieldFromStructuredDict`, which reads the type as it is. -/
def fieldFromStructuredDict (attrs : StructuredRecord) :
    Except FileError (Option (FieldRef Number)) := do
  let type := (attrs.attributeAt 1).firstValue
  if type = "A" ∨ type = "a" then
    let attributeNo ← parsePositiveInt (attrs.attributeAt 2).firstValue
    return some (makeAttributeRef attributeNo (classifyFromAttrs attrs))
  else if type = "F" ∨ type = "f" then
    match ← DictFItemParser.parse attrs with
    | .ok definition => return some { kind := .fCorrelative, fCorrelative := some definition }
    | .error _ => return none
  else if type = "I" ∨ type = "i" then
    match DictIItemParser.parse attrs with
    | .ok definition => return some { kind := .iCorrelative, iCorrelative := some definition }
    | .error _ => return none
  else if type = "S" ∨ type = "s" then return none
  else return some makeUnresolvedRef

/-- The items of a dictionary, as the machine uses them. -/
def dictItems (evaluateFieldCell : FieldRef Number → StructuredRecord →
    Except FileError String) : FieldItems where
  makeAttributeRef attributeNo :=
    (makeAttributeRef attributeNo .none).forMachine evaluateFieldCell
  fieldFromStructuredDict attrs :=
    (fieldFromStructuredDict attrs).map (Option.map (FieldRef.forMachine evaluateFieldCell))

/-! ## Classification -/

/-- What the classifier says of an item. -/
structure DictItemSummary where
  typeLabel : String
  valid : Bool := false
  error : String := ""
deriving DecidableEq

/-- An item that is not valid. -/
def invalidSummary (error : String) : DictItemSummary := { typeLabel := "INVALID", error }

/-- The summary of an item of a type with a parser: it is valid when the parser takes it. -/
def parsedSummary {Definition : Type} (typeLabel : String) :
    Except String Definition → DictItemSummary
  | .ok _ => { typeLabel, valid := true }
  | .error error => { typeLabel, error }

variable (Number) in
/-- `DictItemClassifier::classify`. -/
def classify (attrs : StructuredRecord) : Except FileError DictItemSummary := do
  let type := trimmed (attrs.attributeAt 1).firstValue
  if type = "" then return invalidSummary "Invalid DICT item: missing type code"
  else if type = "A" ∨ type = "a" then
    match ← parsePositiveInt (trimmed (attrs.attributeAt 2).firstValue) with
    | some _ => return { typeLabel := "A", valid := true }
    | none => return { typeLabel := "A", error := "Invalid A-type DICT item: bad attribute number" }
  else if type = "S" ∨ type = "s" then
    if trimmed (attrs.attributeAt 2).firstValue ≠ "" then
      return { typeLabel := "S", valid := true }
    else
      return { typeLabel := "S", error := "Invalid S-type DICT item: missing synonym target" }
  else if type = "F" ∨ type = "f" then
    return parsedSummary "F" (← DictFItemParser.parse attrs)
  else if type = "I" ∨ type = "i" then
    return parsedSummary "I" (DictIItemParser.parse attrs : Except String (ICorrelativeDef Number))
  else return invalidSummary ("Invalid DICT item: unknown type code \"" ++ type ++ "\"")

end Items

/-! ## Numbers in items -/

/-- A text of digits alone. -/
def IsNumeral (text : String) : Prop := text ≠ "" ∧ text.toList.all Char.isDigit = true

/-- The number of digits. -/
def numeral (text : String) : ℕ := Nat.ofDigitChars 10 text.toList 0

/-- `stoi` throws. -/
def TooLong (text : String) : Prop := IsNumeral text ∧ intMax < numeral text

/-- The numeral of a positive `int`. -/
def IsPositive (text : String) : Prop :=
  IsNumeral text ∧ 0 < numeral text ∧ (numeral text : Int) ≤ intMax

instance (text : String) : Decidable (IsNumeral text) := inferInstanceAs (Decidable (_ ∧ _))

instance (text : String) : Decidable (TooLong text) := inferInstanceAs (Decidable (_ ∧ _))

instance (text : String) : Decidable (IsPositive text) := inferInstanceAs (Decidable (_ ∧ _))

section Numerals

variable {text : String}

/-- The empty text is no numeral. -/
theorem not_isNumeral_empty : ¬ IsNumeral "" := fun isNumeral => isNumeral.1 rfl

/-- A numeral is its number, unless it is 0 or no `int`. -/
theorem parsePositiveInt_of_numeral (isNumeral : IsNumeral text) :
    parsePositiveInt text =
      if intMax < numeral text then .error (.other "stoi")
      else .ok (if numeral text = 0 then none else some (numeral text : Int)) := by
  obtain ⟨notEmpty, digits⟩ := isNumeral
  have some : text.toList ≠ [] := by simpa using notEmpty
  have number := stoi_digits fun letter => List.all_eq_true.mp digits letter
  rw [parsePositiveInt, if_neg (by simp [notEmpty, digits]), number, numeral]
  by_cases long : intMax < Nat.ofDigitChars 10 text.toList 0
  · rw [if_pos (.inr long), if_pos long]
  · rw [if_neg (not_or.mpr ⟨some, long⟩), if_neg long]
    by_cases zero : Nat.ofDigitChars 10 text.toList 0 = 0 <;> simp [zero]

/-- No other text is a number. -/
theorem parsePositiveInt_of_not_numeral (notNumeral : ¬ IsNumeral text) :
    parsePositiveInt text = .ok none := by
  refine if_pos ?_
  by_contra numeral
  rw [Bool.or_eq_true, not_or, decide_eq_true_iff, Bool.not_eq_true', Bool.not_eq_false] at numeral
  exact notNumeral numeral

/-- What `parsePositiveInt` gives: an exception, a positive number, or nothing. -/
theorem parsePositiveInt_of_tooLong (long : TooLong text) :
    parsePositiveInt text = .error (.other "stoi") := by
  rw [parsePositiveInt_of_numeral long.1, if_pos long.2]

/-- A positive numeral is its number. -/
theorem parsePositiveInt_of_positive (positive : IsPositive text) :
    parsePositiveInt text = .ok (some (numeral text : Int)) := by
  obtain ⟨isNumeral, notZero, fits⟩ := positive
  rw [parsePositiveInt_of_numeral isNumeral, if_neg (by omega), if_neg (by omega)]

/-- A text that is neither positive nor too long is no number. -/
theorem parsePositiveInt_of_neither (short : ¬ TooLong text) (notPositive : ¬ IsPositive text) :
    parsePositiveInt text = .ok none := by
  by_cases isNumeral : IsNumeral text
  · have fits : ¬ intMax < numeral text := fun long => short ⟨isNumeral, long⟩
    have zero : numeral text = 0 := by
      by_contra notZero
      exact notPositive ⟨isNumeral, Nat.pos_of_ne_zero notZero, by omega⟩
    rw [parsePositiveInt_of_numeral isNumeral, if_neg fits, if_pos zero]
  · exact parsePositiveInt_of_not_numeral isNumeral

/-- A numeral has no blanks around it. -/
theorem IsNumeral.trimmed_eq (isNumeral : IsNumeral text) : trimmed text = text := by
  have notBlank : ∀ c ∈ text.toList, isSpace c = false :=
    fun c member => isSpace_of_isDigit (List.all_eq_true.mp isNumeral.2 c member)
  have bare : Bare isSpace text.toList :=
    ⟨fun c first => notBlank c (List.mem_of_mem_head? first),
      fun c last => notBlank c (List.mem_of_getLast? last)⟩
  rw [trimmed, stripped_of_bare bare, String.ofList_toList]

/-- Digits have no case. -/
theorem IsNumeral.upperAscii_eq (isNumeral : IsNumeral text) : upperAscii text = text := by
  have sameLetter : ∀ c ∈ text.toList, c.toUpper = c := by
    intro c member
    have digit := Char.isDigit_iff_toNat.mp (List.all_eq_true.mp isNumeral.2 c member)
    have last : '9'.toNat = 57 := rfl
    rw [← Char.toNat_inj, VM.toNat_toUpper, if_neg (by omega)]
  rw [← String.toList_inj, upperAscii, String.toList_map]
  exact (List.map_congr_left sameLetter).trans (List.map_id' _)

/-- A text is too long, a number, or none. -/
theorem parsePositiveInt_cases (text : String) :
    (TooLong text ∧ parsePositiveInt text = .error (.other "stoi")) ∨
      (¬ TooLong text ∧ IsPositive text ∧ parsePositiveInt text = .ok (some (numeral text : Int))) ∨
      (¬ TooLong text ∧ ¬ IsPositive text ∧ parsePositiveInt text = .ok none) := by
  by_cases long : TooLong text
  · exact .inl ⟨long, parsePositiveInt_of_tooLong long⟩
  · by_cases positive : IsPositive text
    · exact .inr (.inl ⟨long, positive, parsePositiveInt_of_positive positive⟩)
    · exact .inr (.inr ⟨long, positive, parsePositiveInt_of_neither long positive⟩)

end Numerals

/-! ## What the parsers take -/

/-- An item of another type is no F-type item. -/
theorem DictFItemParser.parse_of_not {record : StructuredRecord}
    (notF : (record.attributeAt 1).firstValue ∉ ["F", "f"]) :
    parse record = .ok (.error "Invalid F-type DICT item: not an F-type record") := by
  rw [List.mem_pair, not_or] at notF
  exact if_pos notF

/-- The numbers of an item of the type `F` are in range, as far as they are read. -/
def FItemInRange (record : StructuredRecord) : Prop :=
  ¬ TooLong (trimmed (record.attributeAt 2).firstValue) ∧
    (IsPositive (trimmed (record.attributeAt 2).firstValue) →
      ¬ TooLong (trimmed (record.attributeAt 3).firstValue))

instance (record : StructuredRecord) : Decidable (FItemInRange record) :=
  inferInstanceAs (Decidable (_ ∧ _))

/-- An F-type item is parsed when its numbers are in range. -/
theorem DictFItemParser.parse_isOk_iff {record : StructuredRecord}
    (isF : (record.attributeAt 1).firstValue ∈ ["F", "f"]) :
    (parse record).isOk = true ↔ FItemInRange record := by
  rw [List.mem_pair] at isF
  have notOther : ¬ ((record.attributeAt 1).firstValue ≠ "F" ∧
      (record.attributeAt 1).firstValue ≠ "f") := by
    rintro ⟨notF, notf⟩
    exact isF.elim notF notf
  unfold parse FItemInRange
  dsimp only
  rw [if_neg notOther]
  generalize trimmed (record.attributeAt 2).firstValue = source
  generalize trimmed (record.attributeAt 3).firstValue = tail
  have notLetter : ∀ {letter : String}, IsNumeral tail → upperAscii tail = letter →
      ¬ letter.toList.all Char.isDigit = true → False := by
    intro letter isNumeral isLetter noDigits
    rw [isNumeral.upperAscii_eq] at isLetter
    subst isLetter
    exact noDigits isNumeral.2
  by_cases noSource : source = ""
  · subst noSource
    rw [if_pos rfl]
    exact iff_of_true rfl ⟨fun long => not_isNumeral_empty long.1,
      fun positive => absurd positive.1 not_isNumeral_empty⟩
  · rw [if_neg noSource]
    rcases parsePositiveInt_cases source with
      ⟨long, thrown⟩ | ⟨short, positive, number⟩ | ⟨short, notPositive, none⟩
    · rw [thrown]
      exact iff_of_false nofun fun inRange => inRange.1 long
    · have onlyTail : (¬ TooLong source ∧ (IsPositive source → ¬ TooLong tail)) ↔
          ¬ TooLong tail :=
        ⟨fun inRange => inRange.2 positive, fun short' => ⟨short, fun _ => short'⟩⟩
      rw [number, onlyTail]
      dsimp only [bind, Except.bind]
      split
      · next noTail =>
          rw [noTail]
          exact iff_of_true rfl fun long => not_isNumeral_empty long.1
      · split
        · next isLeftmost => exact iff_of_true rfl fun long => notLetter long.1 isLeftmost (by decide)
        · split
          · next isRightmost =>
              exact iff_of_true rfl fun long => notLetter long.1 isRightmost (by decide)
          · rcases parsePositiveInt_cases tail with
              ⟨long, thrown⟩ | ⟨short', -, index⟩ | ⟨short', -, none⟩
            · rw [thrown]
              exact iff_of_false nofun fun short' => short' long
            · rw [index]
              exact iff_of_true rfl short'
            · rw [none]
              exact iff_of_true rfl short'
    · rw [none]
      exact iff_of_true rfl ⟨short, fun positive => absurd positive notPositive⟩

/-- An item of another type is no I-type item. -/
theorem DictIItemParser.parse_of_not [DecidableEq Number] [IType.Literals Number]
    {record : StructuredRecord} (notI : (record.attributeAt 1).firstValue ∉ ["I", "i"]) :
    (parse record : Except String (ICorrelativeDef Number)) =
      .error "Invalid I-type DICT item: not an I-type record" := by
  rw [List.mem_pair, not_or] at notI
  unfold parse
  dsimp only
  rw [if_pos notI]
  rfl

/-! ## One item -/

section Item

variable (Number) [DecidableEq Number] [IType.Literals Number] (record : StructuredRecord)

/-- Whether the list of the dictionary calls the item valid. -/
def isValid : Except FileError Bool := (classify Number record).map DictItemSummary.valid

/-- Whether a field that the item describes can be used. -/
def isUsable : Except FileError Bool :=
  (fieldFromStructuredDict record : Except FileError (Option (FieldRef Number))).map fun field =>
    fieldRefIsResolved (field.getD makeUnresolvedRef)

variable {Number record}

/-- An A-type item is valid when it has an attribute number. -/
theorem isValid_aItem (isA : trimmed (record.attributeAt 1).firstValue ∈ ["A", "a"]) :
    isValid Number record =
      (parsePositiveInt (trimmed (record.attributeAt 2).firstValue)).map Option.isSome := by
  rw [List.mem_pair] at isA
  have notEmpty : trimmed (record.attributeAt 1).firstValue ≠ "" := by
    intro empty
    rw [empty] at isA
    revert isA
    decide
  unfold isValid classify
  dsimp only
  rw [if_neg notEmpty, if_pos isA]
  rcases parsePositiveInt (trimmed (record.attributeAt 2).firstValue) with error | _ | number <;> rfl

/-- An F-type item is valid when it is parsed. -/
theorem isValid_fItem (isF : trimmed (record.attributeAt 1).firstValue ∈ ["F", "f"]) :
    isValid Number record = (DictFItemParser.parse record).map Except.isOk := by
  rw [List.mem_pair] at isF
  unfold isValid classify
  dsimp only
  rcases isF with isF | isF <;> rw [isF] <;>
    rcases DictFItemParser.parse record with error | _ | definition <;> rfl

/-- An I-type item is valid when it is parsed. -/
theorem isValid_iItem (isI : trimmed (record.attributeAt 1).firstValue ∈ ["I", "i"]) :
    isValid Number record =
      .ok (DictIItemParser.parse record : Except String (ICorrelativeDef Number)).isOk := by
  rw [List.mem_pair] at isI
  unfold isValid classify
  dsimp only
  rcases isI with isI | isI <;> rw [isI] <;>
    rcases (DictIItemParser.parse record : Except String (ICorrelativeDef Number)) with
      error | definition <;> rfl

/-- An A-type item is usable when it has an attribute number. -/
theorem isUsable_aItem (isA : (record.attributeAt 1).firstValue ∈ ["A", "a"]) :
    isUsable Number record =
      (parsePositiveInt (record.attributeAt 2).firstValue).map Option.isSome := by
  rw [List.mem_pair] at isA
  unfold isUsable fieldFromStructuredDict
  dsimp only
  rw [if_pos isA]
  rcases parsePositiveInt (record.attributeAt 2).firstValue with error | _ | number <;> rfl

/-- An F-type item is usable when it is parsed. -/
theorem isUsable_fItem (isF : (record.attributeAt 1).firstValue ∈ ["F", "f"]) :
    isUsable Number record = (DictFItemParser.parse record).map Except.isOk := by
  rw [List.mem_pair] at isF
  unfold isUsable fieldFromStructuredDict
  dsimp only
  rcases isF with isF | isF <;> rw [isF] <;>
    rcases DictFItemParser.parse record with error | _ | definition <;> rfl

/-- An I-type item is usable when it is parsed. -/
theorem isUsable_iItem (isI : (record.attributeAt 1).firstValue ∈ ["I", "i"]) :
    isUsable Number record =
      .ok (DictIItemParser.parse record : Except String (ICorrelativeDef Number)).isOk := by
  rw [List.mem_pair] at isI
  unfold isUsable fieldFromStructuredDict
  dsimp only
  rcases isI with isI | isI <;> rw [isI] <;>
    rcases (DictIItemParser.parse record : Except String (ICorrelativeDef Number)) with
      error | definition <;> rfl

/-- With blanks around its type code no item can be used. -/
theorem isUsable_of_blanks
    (blanks : trimmed (record.attributeAt 1).firstValue ≠ (record.attributeAt 1).firstValue) :
    isUsable Number record = .ok false := by
  have differs : ∀ letter, trimmed letter = letter → (record.attributeAt 1).firstValue ≠ letter := by
    rintro _ bare rfl
    exact blanks bare
  unfold isUsable fieldFromStructuredDict
  dsimp only
  rw [if_neg (not_or.mpr ⟨differs "A" (by decide), differs "a" (by decide)⟩),
    if_neg (not_or.mpr ⟨differs "F" (by decide), differs "f" (by decide)⟩),
    if_neg (not_or.mpr ⟨differs "I" (by decide), differs "i" (by decide)⟩),
    if_neg (not_or.mpr ⟨differs "S" (by decide), differs "s" (by decide)⟩)]
  rfl

/-- The parser of `F` items does not take blanks around the type code either. -/
theorem isValid_eq_isUsable_fItem (isF : trimmed (record.attributeAt 1).firstValue ∈ ["F", "f"]) :
    isValid Number record = isUsable Number record := by
  rw [isValid_fItem isF]
  by_cases bare : trimmed (record.attributeAt 1).firstValue = (record.attributeAt 1).firstValue
  · rw [bare] at isF
    rw [isUsable_fItem isF]
  · rw [isUsable_of_blanks bare]
    have notF : (record.attributeAt 1).firstValue ∉ ["F", "f"] := by
      intro isF'
      rw [List.mem_pair] at isF'
      rcases isF' with isF' | isF' <;> rw [isF'] at bare <;> exact bare (by decide)
    rw [DictFItemParser.parse_of_not notF]
    rfl

/-- I-type items are valid exactly when they are usable. -/
theorem isValid_eq_isUsable_iItem (isI : trimmed (record.attributeAt 1).firstValue ∈ ["I", "i"]) :
    isValid Number record = isUsable Number record := by
  rw [isValid_iItem isI]
  by_cases bare : trimmed (record.attributeAt 1).firstValue = (record.attributeAt 1).firstValue
  · rw [bare] at isI
    rw [isUsable_iItem isI]
  · rw [isUsable_of_blanks bare]
    have notI : (record.attributeAt 1).firstValue ∉ ["I", "i"] := by
      intro isI'
      rw [List.mem_pair] at isI'
      rcases isI' with isI' | isI' <;> rw [isI'] at bare <;> exact bare (by decide)
    rw [DictIItemParser.parse_of_not notI]
    rfl

/-- Neither routine throws, and they say the same. -/
def Agrees (Number : Type) [DecidableEq Number] [IType.Literals Number]
    (record : StructuredRecord) : Prop :=
  ∃ usable, isValid Number record = .ok usable ∧ isUsable Number record = .ok usable

/-- An item of the type `A` or `F` as the resolver reads it: without blanks that only the list of
the dictionary strips, and with numbers in range. -/
structure ReadAlike (record : StructuredRecord) : Prop where
  aItem : trimmed (record.attributeAt 1).firstValue ∈ ["A", "a"] →
    ¬ TooLong (trimmed (record.attributeAt 2).firstValue) ∧
      (IsPositive (trimmed (record.attributeAt 2).firstValue) →
        trimmed (record.attributeAt 1).firstValue = (record.attributeAt 1).firstValue ∧
          trimmed (record.attributeAt 2).firstValue = (record.attributeAt 2).firstValue)
  fItem : (record.attributeAt 1).firstValue ∈ ["F", "f"] → FItemInRange record

instance (record : StructuredRecord) : Decidable (ReadAlike record) :=
  decidable_of_iff (_ ∧ _)
    ⟨fun both => ⟨both.1, both.2⟩, fun alike => ⟨alike.aItem, alike.fItem⟩⟩

/-- The two agree when they are equal and neither throws. -/
theorem Agrees.of_eq (same : isValid Number record = isUsable Number record) :
    Agrees Number record ↔ (isUsable Number record).isOk = true := by
  unfold Agrees
  rw [same]
  constructor
  · rintro ⟨usable, returned, -⟩
    rw [returned]
    rfl
  · intro returned
    cases outcome : isUsable Number record with
    | error error =>
        rw [outcome] at returned
        cases returned
    | ok usable => exact ⟨usable, rfl, rfl⟩

/-- When the two agree on an A-type item. -/
theorem agrees_aItem_iff (isA : trimmed (record.attributeAt 1).firstValue ∈ ["A", "a"]) :
    Agrees Number record ↔ ¬ TooLong (trimmed (record.attributeAt 2).firstValue) ∧
      (IsPositive (trimmed (record.attributeAt 2).firstValue) →
        trimmed (record.attributeAt 1).firstValue = (record.attributeAt 1).firstValue ∧
          trimmed (record.attributeAt 2).firstValue = (record.attributeAt 2).firstValue) := by
  unfold Agrees
  rw [isValid_aItem isA]
  rcases parsePositiveInt_cases (trimmed (record.attributeAt 2).firstValue) with
    ⟨long, thrown⟩ | ⟨short, positive, number⟩ | ⟨short, notPositive, none⟩
  · rw [thrown]
    refine iff_of_false ?_ fun alike => alike.1 long
    rintro ⟨usable, returned, -⟩
    cases returned
  · rw [number, and_iff_right short, forall_prop_of_true positive]
    constructor
    · rintro ⟨usable, returned, isUsable⟩
      cases returned
      by_cases bare : trimmed (record.attributeAt 1).firstValue =
          (record.attributeAt 1).firstValue
      · rw [bare] at isA
        rw [isUsable_aItem isA] at isUsable
        refine ⟨bare, ?_⟩
        rcases parsePositiveInt_cases (record.attributeAt 2).firstValue with
          ⟨-, thrown⟩ | ⟨-, positive', -⟩ | ⟨-, -, none⟩
        · rw [thrown] at isUsable
          cases isUsable
        · exact positive'.1.trimmed_eq
        · rw [none] at isUsable
          cases isUsable
      · rw [isUsable_of_blanks bare] at isUsable
        cases isUsable
    · rintro ⟨bareType, bareSource⟩
      rw [bareType] at isA
      rw [bareSource] at number
      rw [isUsable_aItem isA, number]
      exact ⟨true, rfl, rfl⟩
  · rw [none]
    refine iff_of_true ⟨false, rfl, ?_⟩ ⟨short, fun positive => absurd positive notPositive⟩
    by_cases bare : trimmed (record.attributeAt 1).firstValue = (record.attributeAt 1).firstValue
    · rw [bare] at isA
      rw [isUsable_aItem isA, parsePositiveInt_of_neither]
      · rfl
      · intro long
        rw [long.1.trimmed_eq] at short
        exact short long
      · intro positive
        rw [positive.1.trimmed_eq] at notPositive
        exact notPositive positive
    · exact isUsable_of_blanks bare

/-- When the two agree on an F-type item. -/
theorem agrees_fItem_iff (isF : trimmed (record.attributeAt 1).firstValue ∈ ["F", "f"]) :
    Agrees Number record ↔
      ((record.attributeAt 1).firstValue ∈ ["F", "f"] → FItemInRange record) := by
  rw [Agrees.of_eq (isValid_eq_isUsable_fItem isF)]
  by_cases isF' : (record.attributeAt 1).firstValue ∈ ["F", "f"]
  · rw [forall_prop_of_true isF', ← DictFItemParser.parse_isOk_iff isF', isUsable_fItem isF']
    cases DictFItemParser.parse record <;> rfl
  · refine iff_of_true ?_ fun isF'' => absurd isF'' isF'
    rw [isUsable_of_blanks]
    · rfl
    · intro bare
      rw [bare] at isF
      exact isF' isF

/-- They agree on every I-type item. -/
theorem agrees_iItem (isI : trimmed (record.attributeAt 1).firstValue ∈ ["I", "i"]) :
    Agrees Number record := by
  have returned := @isValid_iItem Number _ _ record isI
  exact ⟨_, returned, (isValid_eq_isUsable_iItem isI).symm.trans returned⟩

/-- The two routines agree on an item exactly when the resolver reads it as the list does. -/
theorem agrees_iff
    (dataItem : trimmed (record.attributeAt 1).firstValue ∈ ["A", "a", "F", "f", "I", "i"]) :
    Agrees Number record ↔ ReadAlike record := by
  have bareF : (record.attributeAt 1).firstValue ∈ ["F", "f"] →
      trimmed (record.attributeAt 1).firstValue ∈ ["F", "f"] := by
    intro isF
    rw [List.mem_pair] at isF
    rcases isF with isF | isF <;> rw [isF] <;> decide
  have types : trimmed (record.attributeAt 1).firstValue ∈ ["A", "a"] ∨
      trimmed (record.attributeAt 1).firstValue ∈ ["F", "f"] ∨
      trimmed (record.attributeAt 1).firstValue ∈ ["I", "i"] := by
    simpa [or_assoc] using dataItem
  have notA_of_f : ∀ {type : String}, type ∈ ["F", "f"] → type ∉ ["A", "a"] := by
    intro type isF
    rcases List.mem_pair.mp isF with rfl | rfl <;> decide
  have notA_of_i : ∀ {type : String}, type ∈ ["I", "i"] → type ∉ ["A", "a"] := by
    intro type isI
    rcases List.mem_pair.mp isI with rfl | rfl <;> decide
  have notF_of_i : ∀ {type : String}, type ∈ ["I", "i"] → type ∉ ["F", "f"] := by
    intro type isI
    rcases List.mem_pair.mp isI with rfl | rfl <;> decide
  rcases types with isA | isF | isI
  · rw [agrees_aItem_iff isA]
    exact ⟨fun alike => ⟨fun _ => alike, fun isF => absurd isA (notA_of_f (bareF isF))⟩,
      fun alike => alike.aItem isA⟩
  · rw [agrees_fItem_iff isF]
    exact ⟨fun inRange => ⟨fun isA => absurd isA (notA_of_f isF), inRange⟩,
      fun alike => alike.fItem⟩
  · exact iff_of_true (agrees_iItem isI) ⟨fun isA => absurd isA (notA_of_i isI),
      fun isF => absurd (bareF isF) (notF_of_i isI)⟩

end Item

/-! ## A field that names an item -/

section Resolver

variable [DecidableEq Number] [IType.Literals Number] (fileSystem : FileSystem)

/-- The item of a name: that of the dictionary of the file, or else of the common one. -/
def namedItem (dataFileName token : String) : Program World FileError (Option Record) := do
  let ownItem ← readScoped fileSystem dataFileName token
  let commonItem ← tryReadDictRecord fileSystem "DICT" token
  return ownItem <|> commonItem

/-- A token that is not the number of an attribute names an item. -/
structure NamesItem (dataFileName token : String) (world : World) (item : Record) : Prop where
  noAttribute : ¬ IsPositive token
  found : (exec (namedItem fileSystem dataFileName token) world).1 = .ok (some item)

variable (evaluateFieldCell : FieldRef Number → StructuredRecord → Except FileError String)

/-- The list of the dictionary and the resolver return, and the list calls the item valid exactly
when the field can be used. -/
def TellsTruth (dataFileName token : String) (world : World) (item : Record) : Prop :=
  ∃ summary field, classify Number (StructuredRecord.fromRaw item.value) = .ok summary ∧
    (exec (resolveField fileSystem (dictItems evaluateFieldCell) dataFileName token) world).1 =
      .ok field ∧
    (summary.valid = true ↔ VM.fieldRefIsResolved field = true)

variable {fileSystem evaluateFieldCell}

/-- A token that is too long ends the sentence with an exception. -/
theorem exec_resolveField_of_tooLong {dataFileName token : String} {world : World}
    (long : TooLong token) :
    (exec (resolveField fileSystem (dictItems evaluateFieldCell) dataFileName token) world).1 =
      .error (.other "stoi") := by
  rw [resolveField, resolveFieldRec, parsePositiveInt_of_tooLong long]
  rfl

/-- The field of a token that names an item is the one that the item describes. -/
theorem exec_resolveField_of_namesItem {dataFileName token : String} {world : World} {item : Record}
    (names : NamesItem fileSystem dataFileName token world item) (short : ¬ TooLong token)
    (noSynonym : ((StructuredRecord.fromRaw item.value).attributeAt 1).firstValue ∉ ["S", "s"]) :
    (exec (resolveField fileSystem (dictItems evaluateFieldCell) dataFileName token) world).1 =
      (fieldFromStructuredDict (StructuredRecord.fromRaw item.value)).map fun field =>
        (field.getD makeUnresolvedRef).forMachine evaluateFieldCell := by
  have found := names.found
  rw [List.mem_pair, PickFS.RecordAttribute.firstValue] at noSynonym
  unfold namedItem at found
  rw [exec_bind] at found
  rw [resolveField, resolveFieldRec, parsePositiveInt_of_neither short names.noAttribute]
  rcases own : exec (readScoped fileSystem dataFileName token) world with ⟨error | ownItem, middle⟩
  · rw [own] at found
    cases found
  rw [own] at found
  dsimp only at found
  rw [exec_bind] at found
  rcases common : exec (tryReadDictRecord fileSystem "DICT" token) middle with
    ⟨error | commonItem, after⟩
  · rw [common] at found
    cases found
  rw [common] at found
  have chosen : (ownItem <|> commonItem) = some item := Except.ok.inj found
  have started : exec (ofExcept (.ok none) : Program World FileError (Option Int)) world =
      (.ok none, world) := rfl
  rw [exec_bind, exec_bind, started]
  dsimp only
  rw [exec_bind, own]
  dsimp only
  rw [exec_bind, common]
  dsimp only
  rw [chosen]
  dsimp only
  rw [if_neg noSynonym]
  unfold dictItems
  dsimp only
  rcases (fieldFromStructuredDict (StructuredRecord.fromRaw item.value) :
    Except FileError (Option (FieldRef Number))) with error | _ | field <;> rfl

/-- On an item of the type `A`, `F` or `I`, the list of the dictionary tells the truth exactly when
the resolver reads the item as the list does, and the token is no number that is too long. -/
theorem tellsTruth_iff {dataFileName token : String} {world : World} {item : Record}
    (names : NamesItem fileSystem dataFileName token world item)
    (dataItem : trimmed ((StructuredRecord.fromRaw item.value).attributeAt 1).firstValue ∈
      ["A", "a", "F", "f", "I", "i"]) :
    TellsTruth fileSystem evaluateFieldCell dataFileName token world item ↔
      ¬ TooLong token ∧ ReadAlike (StructuredRecord.fromRaw item.value) := by
  unfold TellsTruth
  by_cases long : TooLong token
  · rw [exec_resolveField_of_tooLong long]
    refine iff_of_false ?_ fun alike => alike.1 long
    rintro ⟨summary, field, -, resolved, -⟩
    cases resolved
  · have noSynonym : ((StructuredRecord.fromRaw item.value).attributeAt 1).firstValue ∉
        ["S", "s"] := by
      intro isSynonym
      rw [List.mem_pair] at isSynonym
      rcases isSynonym with isS | isS <;> rw [isS] at dataItem <;> revert dataItem <;> decide
    rw [exec_resolveField_of_namesItem names long noSynonym, and_iff_right long,
      ← @agrees_iff Number _ _ _ dataItem]
    unfold Agrees isValid isUsable
    rcases classify Number (StructuredRecord.fromRaw item.value) with error | summary
    · refine iff_of_false ?_ ?_
      · rintro ⟨summary, field, ⟨⟩, -⟩
      · rintro ⟨usable, ⟨⟩, -⟩
    · rcases (fieldFromStructuredDict (StructuredRecord.fromRaw item.value) :
        Except FileError (Option (FieldRef Number))) with error | field
      · refine iff_of_false ?_ ?_
        · rintro ⟨summary, field, -, ⟨⟩, -⟩
        · rintro ⟨usable, -, ⟨⟩⟩
      · have resolved := fieldRefIsResolved_forMachine evaluateFieldCell
          (field.getD (makeUnresolvedRef : FieldRef Number))
        constructor
        · rintro ⟨_, _, ⟨⟩, ⟨⟩, same⟩
          rw [resolved, ← Bool.eq_iff_iff] at same
          exact ⟨_, rfl, congrArg Except.ok same.symm⟩
        · rintro ⟨usable, valid, usable'⟩
          refine ⟨_, _, rfl, rfl, ?_⟩
          rw [resolved, ← Bool.eq_iff_iff]
          exact Except.ok.inj (valid.trans usable'.symm)

end Resolver

/-! ## Two items -/

/-- Numbers that are natural. -/
@[reducible] def wholeLiterals : IType.Literals ℕ where
  strtod text := Nat.ofDigitChars 10 (text.takeWhile Char.isDigit) 0

/-- An account with one dictionary. -/
def dictAccount : FileSystem where
  root := "ACCT"

/-- An account whose `DICT` has an item `NAME`. -/
def dictWorld (text : String) : World where
  disk := fun _ => AList.insert "DICT" (.directory (AList.insert ("NAME", .item) text ∅)) ∅

/-- No cell of the example is looked at. -/
def noCells (_ : FieldRef ℕ) (_ : StructuredRecord) : Except FileError String := .ok ""

/-- `NAME` is the item of the dictionary. -/
theorem namesItem_dictWorld (text : String) :
    NamesItem dictAccount "" "NAME" (dictWorld text) (Record.ofText "NAME" text) where
  noAttribute := by decide
  found := rfl

/-- A blank after the number of a source attribute is stripped wherever the item is read. -/
theorem tellsTruth_fItem : @TellsTruth ℕ _ wholeLiterals dictAccount noCells "" "NAME"
    (dictWorld "F\n1 \nL") (Record.ofText "NAME" "F\n1 \nL") :=
  (@tellsTruth_iff ℕ _ wholeLiterals dictAccount noCells "" "NAME" _ _
    (namesItem_dictWorld "F\n1 \nL") (by decide +kernel)).mpr ⟨by decide, by decide +kernel⟩

/-- The blank before the number makes the item useless, and the list calls it valid. -/
theorem blank_number_listed_valid :
    trimmed ((StructuredRecord.fromRaw "A\n 1").attributeAt 1).firstValue ∈
        ["A", "a", "F", "f", "I", "i"] ∧
      NamesItem dictAccount "" "NAME" (dictWorld "A\n 1") (Record.ofText "NAME" "A\n 1") ∧
      ¬ @TellsTruth ℕ _ wholeLiterals dictAccount noCells "" "NAME" (dictWorld "A\n 1")
        (Record.ofText "NAME" "A\n 1") := by
  refine ⟨by decide +kernel, namesItem_dictWorld _, ?_⟩
  rintro ⟨summary, field, classified, resolved, same⟩
  have isListed : ((@classify ℕ _ wholeLiterals (StructuredRecord.fromRaw
      (Record.ofText "NAME" "A\n 1").value)).toOption.map DictItemSummary.valid) = some true := by
    decide +kernel
  have isUseless : ((exec (resolveField dictAccount (@dictItems ℕ _ wholeLiterals noCells) "" "NAME")
      (dictWorld "A\n 1")).1.toOption.map VM.fieldRefIsResolved) = some false := by
    decide +kernel
  rw [classified] at isListed
  rw [resolved] at isUseless
  have valid : summary.valid = true := Option.some.inj isListed
  have useless : VM.fieldRefIsResolved field = false := Option.some.inj isUseless
  rw [useless] at same
  exact Bool.false_ne_true (same.mp valid)

end Gemini.English
