import Gemini.Conversion.Decimals

/-!
# Numbers in cells

`tryParseNumeric`, for totals and sort keys, and `tryCoerceNumeric`, for computed fields. Both put a
blank in the place of each comma and each `$` of a cell and read the number that it then starts
with. A number with commas is therefore cut at its first comma, and a sign before a `$` stands
alone.
-/

namespace Gemini.English

open Gemini.Conversion (Decimal takeSign takeFraction)
open Gemini.Data (stripped stripped_append stripped_of_bare Bare)
open Gemini.VM (isSpace takeWhile_digits dropWhile_digits)

/-- `std::stod`: a number and how many characters it takes up; nothing when it throws. -/
class Stod (Number : Type) where
  stod : List Char → Option (Number × ℕ)

/-- `trimInPlace`. -/
def trimInPlace (text : List Char) : List Char := stripped isSpace text

/-- A comma and a dollar sign count as blanks. -/
def blankPunctuation (c : Char) : Char := if c = ',' || c = '$' then ' ' else c

section Reading

variable {Number : Type} [Stod Number]

/-- The number that a text starts with. -/
def leadingNumber (s : List Char) : Option Number :=
  match Stod.stod s with
  | none => none
  | some (v, pos) => if pos = 0 then none else some v

/-- `tryParseNumeric`, the number that a sort key starts with. -/
def tryParseNumeric (raw : String) : Option Number :=
  let s := trimInPlace ((trimInPlace raw.toList).map blankPunctuation)
  if s = [] then none else leadingNumber s

/-- `tryCoerceNumeric`; an empty text is 0. -/
def tryCoerceNumeric [Zero Number] (raw : String) : Option Number :=
  let s := trimInPlace raw.toList
  if s = [] then some 0
  else
    let s := trimInPlace (s.map blankPunctuation)
    if s = [] then some 0 else leadingNumber s

end Reading

/-! ## Grouped numbers -/

/-- Where a `$` stands. -/
inductive DollarPlace where
  | absent
  | beforeSign
  | afterSign
deriving DecidableEq

/-- A decimal number with commas between groups of its integer digits. -/
structure Grouped where
  sign : Option Char
  dollar : DollarPlace
  groups : List (List Char)
  fraction : Option (List Char)

namespace Grouped

/-- The number without its commas and its `$`. -/
def plain (number : Grouped) : Decimal where
  sign := number.sign
  whole := number.groups.flatten
  fraction := number.fraction

/-- The number from its first digit on, with this character between the groups. -/
def digits (separator : Char) (number : Grouped) : List Char :=
  [separator].intercalate number.groups ++ Decimal.pointChars number.fraction

/-- How a number is written, with commas between its groups. -/
def chars (number : Grouped) : List Char :=
  (if number.dollar = .beforeSign then ['$'] else []) ++ number.sign.toList ++
    (if number.dollar = .afterSign then ['$'] else []) ++ number.digits ','

/-- A number whose groups have digits. -/
structure Valid (number : Grouped) : Prop where
  plain : number.plain.Valid
  groups : ∀ group ∈ number.groups, group ≠ []

/-- No `$` is behind a sign, and there are no commas unless the number is zero. -/
structure KeepsValue (number : Grouped) : Prop where
  dollar : number.dollar = .afterSign → number.sign = none
  commas : number.groups.length ≤ 1 ∨ number.plain.value = 0

end Grouped

/-- Commas and `$`. -/
def isPunctuation (c : Char) : Bool := c = ',' || c = '$'

/-- A text is a grouped number with blanks around it. -/
def Writes (text : String) (number : Grouped) : Prop :=
  ∃ front back, text.toList = front ++ (number.chars ++ back) ∧
    (∀ c ∈ front, isSpace c = true) ∧ ∀ c ∈ back, isSpace c = true

/-- `stod` reads a decimal number in front of a blank or the end, and a sign alone is none. -/
structure ReadsDecimals [Stod ℚ] : Prop where
  plain : ∀ {decimal : Decimal} {rest : List Char}, decimal.Valid →
    (∀ c ∈ rest.head?, isSpace c = true) →
      Stod.stod (decimal.chars ++ rest) = some (decimal.value, decimal.chars.length)
  signOnly : ∀ {sign : Char} {rest : List Char}, sign = '+' ∨ sign = '-' →
    (∀ c ∈ rest.head?, isSpace c = true) → (Stod.stod (sign :: rest) : Option (ℚ × ℕ)) = none

/-- Both readings of a text give the number. -/
structure ReadAs [Stod ℚ] (text : String) (value : ℚ) : Prop where
  parsed : tryParseNumeric text = some value
  coerced : tryCoerceNumeric text = some value

/-! ## Groups of digits -/

section Groups

variable {groups : List (List Char)} {separator : Char}

/-- The groups are texts of digits. -/
def AreDigits (groups : List (List Char)) : Prop :=
  ∀ group ∈ groups, group ≠ [] ∧ ∀ c ∈ group, c.isDigit = true

/-- No digit is a blank. -/
theorem isSpace_of_isDigit {c : Char} (digit : c.isDigit = true) : isSpace c = false :=
  VM.isSpace_of_isAlphanum (by simp [Char.isAlphanum, digit])

/-- No digit is punctuation. -/
theorem isPunctuation_of_isDigit {c : Char} (digit : c.isDigit = true) :
    isPunctuation c = false := by
  unfold isPunctuation
  rw [Bool.or_eq_false_iff, decide_eq_false_iff_not, decide_eq_false_iff_not]
  constructor
  · rintro rfl
    cases digit
  · rintro rfl
    cases digit

/-- What is no punctuation is kept. -/
theorem blankPunctuation_of_not {c : Char} (plain : isPunctuation c = false) :
    blankPunctuation c = c := by
  unfold isPunctuation at plain
  rw [blankPunctuation, plain]
  rfl

/-- A text without punctuation is kept. -/
theorem map_of_plain {text : List Char} (plain : ∀ c ∈ text, isPunctuation c = false) :
    text.map blankPunctuation = text :=
  (List.map_congr_left fun c member => blankPunctuation_of_not (plain c member)).trans
    (List.map_id _)

theorem AreDigits.plain (digits : AreDigits groups) {group : List Char} (member : group ∈ groups) :
    ∀ c ∈ group, isPunctuation c = false :=
  fun c inside => isPunctuation_of_isDigit ((digits group member).2 c inside)

/-- Commas between groups become blanks. -/
theorem map_intercalate (digits : AreDigits groups) :
    ([','].intercalate groups).map blankPunctuation = [' '].intercalate groups := by
  induction groups with
  | nil => rfl
  | cons group groups hypothesis =>
      have head := map_of_plain (digits.plain List.mem_cons_self)
      have rest := hypothesis fun other member => digits other (List.mem_cons_of_mem _ member)
      cases groups with
      | nil => rw [List.intercalate_singleton, List.intercalate_singleton, head]
      | cons next more =>
          rw [List.intercalate_cons_cons, List.intercalate_cons_cons, List.map_append,
            List.map_append, head, rest]
          rfl

/-- Groups with separators between them start and end with a digit. -/
theorem intercalate_ends (digits : AreDigits groups) :
    (∀ c ∈ ([separator].intercalate groups).head?, c.isDigit = true) ∧
      (∀ c ∈ ([separator].intercalate groups).getLast?, c.isDigit = true) ∧
      ([separator].intercalate groups = [] → groups = []) := by
  induction groups with
  | nil => exact ⟨nofun, nofun, fun _ => rfl⟩
  | cons group groups hypothesis =>
      obtain ⟨some, isDigit⟩ := digits group List.mem_cons_self
      cases groups with
      | nil =>
          rw [List.intercalate_singleton]
          exact ⟨fun c first => isDigit c (List.mem_of_mem_head? first),
            fun c last => isDigit c (List.mem_of_getLast? last), fun none => absurd none some⟩
      | cons next more =>
          have rest := hypothesis fun other member => digits other (List.mem_cons_of_mem _ member)
          have restSome : [separator].intercalate (next :: more) ≠ [] :=
            fun none => absurd (rest.2.2 none) (List.cons_ne_nil _ _)
          rw [List.intercalate_cons_cons]
          refine ⟨fun c first => ?_, fun c last => ?_, fun none => ?_⟩
          · rw [List.append_assoc, List.head?_append_of_ne_nil _ some] at first
            exact isDigit c (List.mem_of_mem_head? first)
          · rw [List.getLast?_append_of_ne_nil _ restSome] at last
            exact rest.2.1 c last
          · exact absurd (List.append_eq_nil_iff.mp (List.append_eq_nil_iff.mp none).1).1 some

end Groups

/-! ## The letters of a grouped number -/

namespace Grouped

variable {number : Grouped}

/-- The groups of a number are digits. -/
theorem Valid.areDigits (valid : number.Valid) : AreDigits number.groups := fun group member =>
  ⟨valid.groups group member, fun c inside =>
    valid.plain.whole c (List.mem_flatten.mpr ⟨group, member, inside⟩)⟩

/-- Its sign is neither punctuation nor a blank. -/
theorem Valid.sign_plain (valid : number.Valid) :
    ∀ c ∈ number.sign.toList, isPunctuation c = false ∧ isSpace c = false := by
  intro c member
  rcases valid.plain.sign c (Option.mem_toList.mp member) with rfl | rfl
  · decide
  · decide

/-- Nor is its fraction. -/
theorem Valid.point_plain (valid : number.Valid) :
    ∀ c ∈ Decimal.pointChars number.fraction, isPunctuation c = false ∧ isSpace c = false := by
  have places := valid.plain.places
  intro c member
  rcases isFraction : number.fraction with _ | digits
  · rw [isFraction] at member
    cases member
  · rw [isFraction] at member
    rcases List.mem_cons.mp member with rfl | inside
    · decide
    · have digit : c.isDigit = true := places c (by
        rw [Decimal.places, Grouped.plain, isFraction]
        exact inside)
      exact ⟨isPunctuation_of_isDigit digit, isSpace_of_isDigit digit⟩

/-- A number has digits. -/
theorem digits_ne_nil (valid : number.Valid) (separator : Char) : number.digits separator ≠ [] := by
  intro none
  obtain ⟨noGroups, noPoint⟩ := List.append_eq_nil_iff.mp none
  have starts := valid.plain.starts
  rw [plain, (intercalate_ends valid.areDigits).2.2 noGroups] at starts
  have first := starts rfl
  rw [noPoint] at first
  cases first

/-- The digits of a number have no blanks around them. -/
theorem bare_digits (valid : number.Valid) (separator : Char) :
    Bare isSpace (number.digits separator) := by
  obtain ⟨starts, ends, -⟩ := @intercalate_ends _ separator valid.areDigits
  have point := valid.point_plain
  constructor
  · intro c first
    rw [digits, List.head?_append, Option.mem_def, Option.or_eq_some_iff] at first
    rcases first with inGroups | ⟨-, inPoint⟩
    · exact isSpace_of_isDigit (starts c inGroups)
    · exact (point c (List.mem_of_mem_head? inPoint)).2
  · intro c last
    rw [digits, List.getLast?_append, Option.mem_def, Option.or_eq_some_iff] at last
    rcases last with inPoint | ⟨-, inGroups⟩
    · exact (point c (List.mem_of_getLast? inPoint)).2
    · exact isSpace_of_isDigit (ends c inGroups)

/-- Nor have they with a sign in front. -/
theorem bare_append (valid : number.Valid) (separator : Char) {front : List Char}
    (letter : ∀ c ∈ front.head?, isSpace c = false) :
    Bare isSpace (front ++ number.digits separator) := by
  have bare := bare_digits valid separator
  constructor
  · intro c first
    rw [List.head?_append, Option.mem_def, Option.or_eq_some_iff] at first
    rcases first with inFront | ⟨-, inDigits⟩
    · exact letter c inFront
    · exact bare.starts c inDigits
  · intro c last
    rw [List.getLast?_append_of_ne_nil _ (digits_ne_nil valid separator)] at last
    exact bare.ends c last

/-- Nor has a written number. -/
theorem bare_chars (valid : number.Valid) : Bare isSpace number.chars := by
  refine bare_append valid ',' fun c first => ?_
  have member := List.mem_of_mem_head? first
  have dollar : ∀ place, ∀ c ∈ (if number.dollar = place then ['$'] else []),
      isSpace c = false := by
    intro place c inside
    split at inside
    · rw [List.mem_singleton.mp inside]
      decide
    · cases inside
  rcases List.mem_append.mp member with front | inside
  · rcases List.mem_append.mp front with inside | inside
    · exact dollar _ c inside
    · exact (valid.sign_plain c inside).2
  · exact dollar _ c inside

/-- The commas of a number become blanks. -/
theorem map_digits (valid : number.Valid) :
    (number.digits ',').map blankPunctuation = number.digits ' ' := by
  rw [digits, List.map_append, map_intercalate valid.areDigits,
    map_of_plain fun c member => (valid.point_plain c member).1]
  rfl

/-- What is left of a number when its punctuation is blanked. -/
def blanked (number : Grouped) : List Char :=
  number.sign.toList ++ (if number.dollar = .afterSign ∧ number.sign ≠ none then [' '] else []) ++
    number.digits ' '

/-- What is left of a number once its punctuation is blank. -/
theorem trim_blanked (valid : number.Valid) :
    trimInPlace (number.chars.map blankPunctuation) = number.blanked := by
  have sign := map_of_plain fun c member => (valid.sign_plain c member).1
  have signLetter : ∀ c ∈ number.sign.toList.head?, isSpace c = false := fun c first =>
    (valid.sign_plain c (List.mem_of_mem_head? first)).2
  have strips : ∀ {front text : List Char}, (∀ c ∈ front, isSpace c = true) → Bare isSpace text →
      trimInPlace (front ++ text) = text := by
    intro front text blanks bareText
    have done := stripped_append bareText blanks (by nofun : ∀ c ∈ ([] : List Char), _)
    rwa [List.append_nil] at done
  have noBlanks : ∀ c ∈ ([] : List Char), isSpace c = true := nofun
  have oneBlank : ∀ c ∈ [' '], isSpace c = true := List.forall_mem_singleton.mpr rfl
  simp only [chars, blanked, List.map_append, sign, map_digits valid]
  cases number.dollar with
  | absent => simpa using strips noBlanks (bare_append valid ' ' signLetter)
  | beforeSign => simpa [blankPunctuation] using strips oneBlank (bare_append valid ' ' signLetter)
  | afterSign =>
      cases isSign : number.sign with
      | none => simpa [blankPunctuation] using strips oneBlank (bare_digits valid ' ')
      | some c =>
          rw [isSign] at signLetter
          have letter : ∀ d ∈ [c, ' '].head?, isSpace d = false := signLetter
          simpa [blankPunctuation] using strips noBlanks (bare_append valid ' ' letter)

/-- Something is left of it. -/
theorem blanked_ne_nil (valid : number.Valid) : number.blanked ≠ [] := by
  intro none
  exact digits_ne_nil valid ' ' (List.append_eq_nil_iff.mp none).2

theorem chars_ne_nil (valid : number.Valid) : number.chars ≠ [] := by
  intro none
  exact digits_ne_nil valid ',' (List.append_eq_nil_iff.mp none).2

/-- Both readings read what is left of a number. -/
theorem readAs_iff [Stod ℚ] {text : String} (valid : number.Valid) (writes : Writes text number)
    (value : ℚ) : ReadAs text value ↔ leadingNumber number.blanked = some value := by
  obtain ⟨front, back, isText, before, after⟩ := writes
  have trimmed : trimInPlace text.toList = number.chars := by
    rw [isText]
    exact stripped_append (bare_chars valid) before after
  have parsed : tryParseNumeric text = (leadingNumber number.blanked : Option ℚ) := by
    unfold tryParseNumeric
    rw [trimmed, trim_blanked valid]
    exact if_neg (blanked_ne_nil valid)
  have coerced : tryCoerceNumeric text = (leadingNumber number.blanked : Option ℚ) := by
    unfold tryCoerceNumeric
    dsimp only
    rw [trimmed, trim_blanked valid]
    exact (if_neg (chars_ne_nil valid)).trans (if_neg (blanked_ne_nil valid))
  constructor
  · exact fun read => parsed ▸ read.parsed
  · exact fun read => ⟨parsed.trans read, coerced.trans read⟩

/-- The first group of a number, with its sign. -/
def leadingGroup (number : Grouped) (group : List Char) : Decimal where
  sign := number.sign
  whole := group
  fraction := none

section Values

variable [Stod ℚ] (reads : ReadsDecimals)

include reads

/-- A decimal before a blank is the leading number. -/
theorem leadingNumber_chars {decimal : Decimal} {rest : List Char} (valid : decimal.Valid)
    (blank : ∀ c ∈ rest.head?, isSpace c = true) :
    leadingNumber (decimal.chars ++ rest) = some decimal.value := by
  have some : decimal.chars.length ≠ 0 := by
    intro none
    have letters := List.append_eq_nil_iff.mp (List.length_eq_zero_iff.mp none)
    obtain ⟨noWhole, noPoint⟩ := List.append_eq_nil_iff.mp letters.2
    have first := valid.starts noWhole
    rw [noPoint] at first
    cases first
  unfold leadingNumber
  rw [reads.plain valid blank]
  exact if_neg some

/-- A sign alone is no number. -/
theorem leadingNumber_signOnly {sign : Char} {rest : List Char} (isSign : sign = '+' ∨ sign = '-')
    (blank : ∀ c ∈ rest.head?, isSpace c = true) :
    (leadingNumber (sign :: rest) : Option ℚ) = none := by
  unfold leadingNumber
  rw [reads.signOnly isSign blank]

/-- A number without commas is read to its end, any other one to its first comma. -/
theorem leadingNumber_blanked (valid : number.Valid)
    (noDollar : number.dollar = .afterSign → number.sign = none) :
    leadingNumber number.blanked = some (match number.groups with
      | group :: _ :: _ => (number.leadingGroup group).value
      | _ => number.plain.value) := by
  have isBlanked : number.blanked = number.sign.toList ++ number.digits ' ' := by
    have absent : ¬ (number.dollar = .afterSign ∧ number.sign ≠ none) := fun ⟨dollar, sign⟩ =>
      sign (noDollar dollar)
    rw [blanked, if_neg absent, List.append_nil]
  have noRest : ∀ c ∈ ([] : List Char).head?, isSpace c = true := nofun
  have whole := leadingNumber_chars reads valid.plain noRest
  rw [List.append_nil] at whole
  rw [isBlanked, digits]
  split
  · next group next more isGroups =>
      have groupValid : (number.leadingGroup group).Valid := {
        sign := valid.plain.sign
        whole := (valid.areDigits group (by rw [isGroups]; exact List.mem_cons_self)).2
        places := by nofun
        nonempty := .inl (valid.groups group (by rw [isGroups]; exact List.mem_cons_self)) }
      have blank : ∀ c ∈ (' ' :: ([' '].intercalate (next :: more) ++
          Decimal.pointChars number.fraction)).head?, isSpace c = true := by
        rintro _ ⟨⟩
        decide
      rw [← leadingNumber_chars reads groupValid blank, isGroups, List.intercalate_cons_cons]
      congr 1
      simp [leadingGroup, Decimal.chars, Decimal.pointChars]
  · next single =>
      rw [← whole]
      congr 1
      rw [plain, Decimal.chars]
      rcases isGroups : number.groups with _ | ⟨group, _ | ⟨next, more⟩⟩
      · rfl
      · simp
      · exact absurd isGroups (single group next more)

end Values

/-- The digits in front of others are the whole number only when that is zero. -/
theorem leading_eq_iff {group rest places : List Char} (some : rest ≠ []) :
    ((Nat.ofDigitChars 10 group 0 : ℕ) : ℚ) =
        (Nat.ofDigitChars 10 (group ++ rest ++ places) 0 : ℕ) / 10 ^ places.length ↔
      ((Nat.ofDigitChars 10 (group ++ rest ++ places) 0 : ℕ) : ℚ) / 10 ^ places.length = 0 := by
  have power : (10 : ℚ) ^ places.length ≠ 0 := by positivity
  rw [eq_div_iff power, div_eq_zero_iff, or_iff_left power]
  have tens : 10 ≤ 10 ^ rest.length :=
    Nat.le_self_pow (List.length_pos_iff.mpr some).ne' 10
  have behindLeading : Nat.ofDigitChars 10 (rest ++ places) (Nat.ofDigitChars 10 group 0) =
      10 ^ (rest ++ places).length * Nat.ofDigitChars 10 group 0 +
        Nat.ofDigitChars 10 (rest ++ places) 0 := Nat.ofDigitChars_eq_ofDigitChars_zero
  rw [List.append_assoc, Nat.ofDigitChars_append, behindLeading, List.length_append, pow_add]
  generalize Nat.ofDigitChars 10 group 0 = leading
  generalize Nat.ofDigitChars 10 (rest ++ places) 0 = behind
  norm_cast
  have grown : 10 * (leading * 10 ^ places.length) ≤
      10 ^ rest.length * 10 ^ places.length * leading := by
    calc 10 * (leading * 10 ^ places.length) ≤ 10 ^ rest.length * (leading * 10 ^ places.length) :=
          Nat.mul_le_mul_right _ tens
      _ = 10 ^ rest.length * 10 ^ places.length * leading := by ring
  constructor
  · intro same
    omega
  · intro zero
    have isZero : leading * 10 ^ places.length = 0 := by omega
    rw [isZero, zero]

/-- What is read of a number with commas is its value only when that is zero. -/
theorem leadingGroup_value_eq_iff {number : Grouped} {group next : List Char}
    {more : List (List Char)} (valid : number.Valid)
    (isGroups : number.groups = group :: next :: more) :
    (number.leadingGroup group).value = number.plain.value ↔ number.plain.value = 0 := by
  have some : (next :: more).flatten ≠ [] := by
    rw [List.flatten_cons]
    intro none
    exact valid.groups next (by rw [isGroups]; simp) (List.append_eq_nil_iff.mp none).1
  have magnitudes := @leading_eq_iff group _ number.plain.places some
  have whole : number.plain.whole = group ++ (next :: more).flatten := by
    rw [plain, isGroups]
    rfl
  have leading : (number.leadingGroup group).magnitude = (Nat.ofDigitChars 10 group 0 : ℕ) := by
    simp [leadingGroup, Decimal.magnitude, Decimal.places]
  rw [← whole, ← leading] at magnitudes
  change _ = number.plain.magnitude ↔ number.plain.magnitude = 0 at magnitudes
  have sameSign : (number.leadingGroup group).isNegative = number.plain.isNegative := rfl
  unfold Decimal.value
  rw [sameSign]
  split
  · rw [neg_inj, neg_eq_zero, magnitudes]
  · exact magnitudes

end Grouped

/-- A grouped number keeps its value exactly when no `$` is behind a sign, and it has no commas or
is zero. -/
theorem readAs_value_iff [Stod ℚ] (reads : ReadsDecimals) {text : String} {number : Grouped}
    (valid : number.Valid) (writes : Writes text number) :
    ReadAs text number.plain.value ↔ number.KeepsValue := by
  rw [Grouped.readAs_iff valid writes]
  by_cases noDollar : number.dollar = .afterSign → number.sign = none
  · have condition : number.KeepsValue ↔
        (number.groups.length ≤ 1 ∨ number.plain.value = 0) :=
      ⟨Grouped.KeepsValue.commas, fun commas => ⟨noDollar, commas⟩⟩
    rw [Grouped.leadingNumber_blanked reads valid noDollar, Option.some_inj, condition]
    split
    · next group next more isGroups =>
        have commas : ¬ number.groups.length ≤ 1 := by
          rw [isGroups]
          simp
        rw [or_iff_right commas]
        exact Grouped.leadingGroup_value_eq_iff valid isGroups
    · next single =>
        refine iff_of_true rfl (.inl ?_)
        rcases isGroups : number.groups with _ | ⟨group, _ | ⟨next, more⟩⟩
        · exact Nat.zero_le 1
        · exact le_rfl
        · exact absurd isGroups (single group next more)
  · refine iff_of_false ?_ fun keeps => noDollar keeps.dollar
    obtain ⟨dollar, signed⟩ := Classical.not_imp.mp noDollar
    obtain ⟨sign, isSign⟩ := Option.ne_none_iff_exists'.mp signed
    have blank : ∀ c ∈ (' ' :: number.digits ' ').head?, isSpace c = true := by
      rintro _ ⟨⟩
      decide
    have isBlanked : number.blanked = sign :: ' ' :: number.digits ' ' := by
      rw [Grouped.blanked, if_pos ⟨dollar, signed⟩, isSign]
      rfl
    rw [isBlanked, Grouped.leadingNumber_signOnly reads (valid.plain.sign sign isSign) blank]
    nofun

/-! ## Numbers that are and that are not kept -/

/-- `stod` on texts that are decimal numbers. -/
def readDecimal (text : List Char) : Option (ℚ × ℕ) :=
  let (negative, unsigned) := takeSign text
  let whole := unsigned.takeWhile Char.isDigit
  let (places, rest) := takeFraction (unsigned.dropWhile Char.isDigit)
  if whole = [] ∧ places = [] then none
  else
    let sign := if negative then some '-' else none
    let decimal : Decimal := { sign, whole, fraction := some places }
    some (decimal.value, text.length - rest.length)

/-- `stod` on decimals. -/
@[reducible] def decimalStod : Stod ℚ := ⟨readDecimal⟩

/-- No blank is a digit. -/
theorem isDigit_of_isSpace {c : Char} (blank : isSpace c = true) : c.isDigit = false := by
  by_contra digit
  rw [isSpace_of_isDigit (by simpa using digit)] at blank
  cases blank

/-- A blank is no fraction. -/
theorem takeFraction_of_blank {rest : List Char} (blank : ∀ c ∈ rest.head?, isSpace c = true) :
    takeFraction rest = ([], rest) := by
  unfold takeFraction
  split
  · exact absurd (blank '.' rfl) (by decide)
  · rfl

/-- A fraction ends before a blank. -/
theorem takeFraction_append {fraction : Option (List Char)} {rest : List Char}
    (digits : ∀ c ∈ fraction.getD [], c.isDigit = true)
    (blank : ∀ c ∈ rest.head?, isSpace c = true) :
    takeFraction (Decimal.pointChars fraction ++ rest) = (fraction.getD [], rest) := by
  cases fraction with
  | none => exact takeFraction_of_blank blank
  | some places =>
      have notDigit : ∀ c ∈ rest.head?, c.isDigit = false := fun c first =>
        isDigit_of_isSpace (blank c first)
      exact Prod.ext (takeWhile_digits digits notDigit) (dropWhile_digits digits notDigit)

/-- It reads decimals up to a blank. -/
theorem decimalStod_readsDecimals : @ReadsDecimals decimalStod := by
  refine @ReadsDecimals.mk decimalStod ?_ ?_
  · intro decimal rest valid blank
    have starts : decimal.whole = [] →
        (Decimal.pointChars decimal.fraction ++ rest).head? = some '.' := by
      intro none
      rw [List.head?_append, valid.starts none]
      rfl
    have notDigit : ∀ c ∈ (Decimal.pointChars decimal.fraction ++ rest).head?,
        c.isDigit = false := by
      intro c first
      rw [List.head?_append, Option.mem_def, Option.or_eq_some_iff] at first
      rcases first with inPoint | ⟨-, inRest⟩
      · exact Conversion.head?_pointChars inPoint
      · exact isDigit_of_isSpace (blank c inRest)
    have sign := Conversion.takeSign_chars valid starts
    have whole := takeWhile_digits valid.whole notDigit
    have behind := dropWhile_digits valid.whole notDigit
    have fraction := takeFraction_append valid.places blank
    have isText : decimal.chars ++ rest = decimal.sign.toList ++
        (decimal.whole ++ (Decimal.pointChars decimal.fraction ++ rest)) := by
      simp [Decimal.chars]
    have some : ¬ (decimal.whole = [] ∧ decimal.fraction.getD [] = []) := by
      rintro ⟨noWhole, noPlaces⟩
      exact valid.nonempty.elim (fun whole => whole noWhole) fun places => places noPlaces
    change readDecimal (decimal.chars ++ rest) = _
    unfold readDecimal
    rw [isText, sign]
    dsimp only
    rw [whole, behind, fraction]
    dsimp only
    rw [if_neg some]
    congr 2
    · unfold Decimal.value Decimal.magnitude Decimal.places
      cases decimal.isNegative <;> rfl
    · rw [← isText, List.length_append, Nat.add_sub_cancel]
  · intro sign rest isSign blank
    have notDigit : ∀ c ∈ rest.head?, c.isDigit = false := fun c first =>
      isDigit_of_isSpace (blank c first)
    have none : ∀ c ∈ ([] : List Char), c.isDigit = true := List.forall_mem_nil _
    have whole := takeWhile_digits none notDigit
    have behind := dropWhile_digits none notDigit
    rw [List.nil_append] at whole behind
    have signed : ∃ negative, takeSign (sign :: rest) = (negative, rest) := by
      rcases isSign with rfl | rfl
      · exact ⟨false, rfl⟩
      · exact ⟨true, rfl⟩
    obtain ⟨negative, signed⟩ := signed
    change readDecimal (sign :: rest) = _
    unfold readDecimal
    rw [signed]
    dsimp only
    rw [whole, behind, takeFraction_of_blank blank]
    rfl

/-- `$1,234.50`. -/
def grouped1234 (groups : List (List Char)) : Grouped where
  sign := none
  dollar := .afterSign
  groups
  fraction := some "50".toList

/-- A number without commas is read with its `$`. -/
theorem readAs_dollars :
    @ReadAs decimalStod " $1234.50" (grouped1234 ["1234".toList]).plain.value := by
  have valid : (grouped1234 ["1234".toList]).Valid :=
    ⟨⟨nofun, List.all_eq_true.mp rfl, List.all_eq_true.mp rfl, .inl (by decide)⟩, by decide⟩
  have writes : Writes " $1234.50" (grouped1234 ["1234".toList]) :=
    ⟨[' '], [], by decide, List.forall_mem_singleton.mpr rfl, nofun⟩
  exact (@readAs_value_iff decimalStod decimalStod_readsDecimals _ _ valid writes).mpr
    ⟨fun _ => rfl, .inl (by decide)⟩

/-- A number with commas is cut at the first. -/
theorem readAs_commas : Writes "$1,234.50" (grouped1234 ["1".toList, "234".toList]) ∧
    ¬ @ReadAs decimalStod "$1,234.50" (grouped1234 ["1".toList, "234".toList]).plain.value := by
  refine ⟨⟨[], [], by decide, nofun, nofun⟩, fun read => ?_⟩
  have parsed := @ReadAs.parsed decimalStod _ _ read
  revert parsed
  decide +kernel

end Gemini.English
