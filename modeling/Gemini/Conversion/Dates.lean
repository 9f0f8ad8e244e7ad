import Gemini.Conversion.Decimals

/-!
# Dates

`ICONV` with `D` reads a day, a month and a year from a stream. It checks neither the length of the
month nor the letters of its name after the third, so it takes days that do not exist and counts on
into the next month. Where the date exists, it is the one that `OCONV` shows.
-/

namespace Gemini.Conversion

open Gemini.VM
open Gemini.Data.Calendar

/-! ## The count of days -/

/-- The days of the eras and of the years since the last of them. -/
theorem yearStart_era (adjusted : ℤ) :
    yearStart (adjusted + 1) = adjusted / 400 * 146097 +
      ((adjusted - adjusted / 400 * 400).toNat * 365 + (adjusted - adjusted / 400 * 400).toNat / 4 -
        (adjusted - adjusted / 400 * 400).toNat / 100 : ℕ) := by
  unfold yearStart
  omega

/-- The years of the count start in March. -/
theorem monthStart_march (year : ℤ) {month : ℕ} (firstMonth : 1 ≤ month) (lastMonth : month ≤ 12) :
    (if month ≤ 2 then 0 else yearLength year) + (153 * (if 2 < month then month - 3 else month + 9)
      + 2) / 5 = monthStart year month + 306 := by
  unfold yearLength
  rcases leap : isLeap year
  · interval_cases month <;> simp [monthStart, monthLength, leap]
  · interval_cases month <;> simp [monthStart, monthLength, leap]

/-- `daysFromCivil` counts as the calendar does, and goes on after the last day of a month. -/
theorem daysFromCivil_eq {year : ℤ} {month day : ℕ} (firstYear : 1 ≤ year) (firstMonth : 1 ≤ month)
    (lastMonth : month ≤ 12) (firstDay : 1 ≤ day) :
    daysFromCivil year month day + unixEpoch = yearStart year + monthStart year month + day - 1 := by
  have march := monthStart_march year firstMonth lastMonth
  have adjusted : 0 ≤ year - (if month ≤ 2 then 1 else 0) := by split <;> omega
  have years := yearStart_era (year - (if month ≤ 2 then 1 else 0))
  have start : yearStart (year - (if month ≤ 2 then 1 else 0) + 1) =
      yearStart year + ((if month ≤ 2 then 0 else yearLength year : ℕ) : ℤ) := by
    split
    · rw [sub_add_cancel, Nat.cast_zero, add_zero]
    · rw [sub_zero, yearStart_succ]
  unfold daysFromCivil unixEpoch
  dsimp only
  rw [if_pos adjusted, Int.tdiv_eq_ediv_of_nonneg adjusted]
  generalize year - (if month ≤ 2 then 1 else 0) = shifted at *
  generalize (if month ≤ 2 then 0 else yearLength year) = passed at *
  generalize (153 * (if 2 < month then month - 3 else month + 9) + 2) / 5 = before at *
  generalize (shifted - shifted / 400 * 400).toNat = yoe at *
  omega

/-! ## Dates in texts -/

/-- Digits, with a plus sign before them or without one. -/
structure SpellsNumber (word : List Char) (number : ℤ) : Prop where
  exists_digits : ∃ sign digits, word = sign ++ digits ∧ (sign = [] ∨ sign = ['+']) ∧
    digits ≠ [] ∧ (∀ c ∈ digits, c.isDigit = true) ∧ (Nat.ofDigitChars 10 digits 0 : ℕ) = number

/-- A text is a day, a month and a year, with blanks between them and around them. The month is
its abbreviation, in any case. -/
structure SpellsDate (text : List Char) (date : Date) : Prop where
  exists_words : ∃ before day between month gap year after,
    text = before ++ (day ++ (between ++ (month ++ (gap ++ (year ++ after))))) ∧
      (∀ c ∈ before, isSpace c = true) ∧ (∀ c ∈ between, isSpace c = true) ∧
      (∀ c ∈ gap, isSpace c = true) ∧ (∀ c ∈ after, isSpace c = true) ∧ gap ≠ [] ∧
      SpellsNumber day date.day ∧ SpellsNumber year date.year ∧
      months[date.month - 1]? = some (String.ofList (month.map Char.toLower))

/-- The day, the month and the year that are read from a text. -/
def dateWords (text : List Char) : Option (ℤ × List Char × ℤ) := do
  let (day, afterDay) ← extractInt text
  let (monStr, afterMonth) ← extractWord afterDay
  let (year, rest) ← extractInt afterMonth
  if !(rest.dropWhile isSpace).isEmpty then none else some (day, monStr, year)

/-- The date of a day, a month and a year. -/
def dateOf (words : ℤ × List Char × ℤ) : Option Date :=
  let (day, monStr, year) := words
  if day < 1 || 31 < day || year < 1 || 9999 < year then none
  else (monthIndex monStr).map fun monthIdx => { year, month := monthIdx + 1, day := day.toNat }

/-- A date is read as its three words, and then as a day. -/
theorem pickDayFromDateString_eq (text : List Char) :
    pickDayFromDateString text = (dateWords text).bind fun words => (dateOf words).map fun date =>
      daysFromCivil date.year date.month date.day + kPickInternalDateAtUnixEpoch := by
  unfold pickDayFromDateString dateWords dateOf
  rcases extractInt text with _ | ⟨day, afterDay⟩
  · rfl
  · simp only [Option.bind_eq_bind, Option.bind_some]
    rcases extractWord afterDay with _ | ⟨monStr, afterMonth⟩
    · rfl
    · simp only [Option.bind_some]
      rcases extractInt afterMonth with _ | ⟨year, rest⟩
      · rfl
      · simp only [Option.bind_some]
        split
        · rfl
        · simp only [Option.bind_some]
          split
          · rfl
          · rcases monthIndex monStr with _ | monthIdx <;> rfl

/-! ### Streams -/

/-- Leading blanks are dropped, and nothing else. -/
theorem dropWhile_blanks {before text : List Char} (blank : ∀ c ∈ before, isSpace c = true)
    (starts : ∀ c ∈ text.head?, isSpace c = false) :
    (before ++ text).dropWhile isSpace = text := by
  rw [List.dropWhile_append_of_pos blank]
  cases text with
  | nil => rfl
  | cons c rest => rw [List.dropWhile_cons_of_neg (by simp [starts c rfl])]

/-- A number behind blanks is extracted. -/
theorem extractInt_number {before word rest : List Char} {number : ℤ}
    (blank : ∀ c ∈ before, isSpace c = true) (spells : SpellsNumber word number)
    (isInt : IsInt number) (ends : ∀ c, rest.head? = some c → c.isDigit = false) :
    extractInt (before ++ (word ++ rest)) = some (number, rest) := by
  obtain ⟨sign, digits, rfl, isSign, some, allDigits, rfl⟩ := spells.exists_digits
  have scanned : scanInteger (before ++ (sign ++ digits ++ rest)) =
      Option.some (false, Nat.ofDigitChars 10 digits 0, rest) := by
    obtain ⟨first, others, rfl⟩ := List.exists_cons_of_ne_nil some
    have digit : first.isDigit = true := allDigits first List.mem_cons_self
    have taken := takeWhile_digits allDigits ends
    have left := dropWhile_digits allDigits ends
    unfold scanInteger
    rcases isSign with rfl | rfl
    · rw [dropWhile_blanks blank (by simpa using isSpace_of_isDigit digit)]
      have notMinus : first ≠ '-' := by
        rintro rfl
        cases digit
      have notPlus : first ≠ '+' := by
        rintro rfl
        cases digit
      rw [List.cons_append] at taken left
      simp [taken, left, notMinus, notPlus]
    · rw [dropWhile_blanks blank (by simpa using (by decide : isSpace '+' = false))]
      rw [List.cons_append] at taken left
      simp [taken, left]
  rw [extractInt, stoi, scanned]
  obtain ⟨low, high⟩ := isInt
  simp only [Option.bind_eq_bind, Option.bind_some, signed, Bool.false_eq_true, if_false]
  rw [if_neg (by simp only [Bool.or_eq_true, decide_eq_true_eq]; omega)]

/-- A word behind blanks is extracted. -/
theorem extractWord_word {before word rest : List Char} (blank : ∀ c ∈ before, isSpace c = true)
    (letters : ∀ c ∈ word, isSpace c = false) (some : word ≠ [])
    (ends : ∀ c ∈ rest.head?, isSpace c = true) :
    extractWord (before ++ (word ++ rest)) = Option.some (word, rest) := by
  have starts : ∀ c ∈ (word ++ rest).head?, isSpace c = false := by
    intro c first
    rw [List.head?_append_of_ne_nil _ some] at first
    exact letters c (List.mem_of_mem_head? first)
  have kept : ∀ c ∈ word, (!isSpace c) = true := fun c member => by simp [letters c member]
  have word? : (word ++ rest).isEmpty = false := by simp [some]
  unfold extractWord
  rw [dropWhile_blanks blank starts]
  dsimp only
  rw [if_neg (by simp [word?]), List.takeWhile_append_of_pos kept,
    List.dropWhile_append_of_pos kept]
  cases rest with
  | nil => simp
  | cons c others => simp [ends c rfl]

/-- An extracted number is spelled at the start of the text. -/
theorem extractInt_spec {text rest : List Char} {number : ℤ} (positive : 1 ≤ number)
    (found : extractInt text = some (number, rest)) :
    ∃ before word, text = before ++ (word ++ rest) ∧ (∀ c ∈ before, isSpace c = true) ∧
      SpellsNumber word number := by
  unfold extractInt stoi at found
  obtain ⟨⟨negative, magnitude, after⟩, scanned, isResult⟩ := Option.bind_eq_some_iff.mp found
  dsimp only at isResult
  split at isResult
  · cases isResult
  · obtain ⟨rfl, rfl⟩ := Prod.mk.inj (Option.some.inj isResult)
    obtain ⟨sign, digits, isBody, isSign, isNegative, some, allDigits, isMagnitude⟩ :=
      scanInteger_spec scanned
    refine ⟨text.takeWhile isSpace, sign ++ digits, ?_,
      fun c member => List.mem_takeWhile_imp member, ⟨sign, digits, rfl, ?_, some, allDigits, ?_⟩⟩
    · rw [List.append_assoc, ← isBody, List.takeWhile_append_dropWhile]
    · have notMinus : sign ≠ ['-'] := by
        intro minus
        rw [isNegative, minus] at positive
        simp only [signed, decide_true, if_true] at positive
        omega
      simpa [notMinus] using isSign
    · rw [isNegative] at positive ⊢
      unfold signed at positive ⊢
      split
      · next minus =>
          rw [if_pos minus] at positive
          omega
      · rw [isMagnitude]

/-- An extracted word stands at the start of the text. -/
theorem extractWord_spec {text word rest : List Char} (found : extractWord text = some (word, rest)) :
    ∃ before, text = before ++ (word ++ rest) ∧ (∀ c ∈ before, isSpace c = true) ∧
      ∀ c ∈ rest.head?, isSpace c = true := by
  unfold extractWord at found
  dsimp only at found
  split at found
  · cases found
  · simp only [Option.some.injEq, Prod.mk.injEq] at found
    obtain ⟨rfl, rfl⟩ := found
    refine ⟨text.takeWhile isSpace, ?_, fun c member => List.mem_takeWhile_imp member, ?_⟩
    · rw [List.takeWhile_append_dropWhile, List.takeWhile_append_dropWhile]
    · intro c first
      have stops := List.head?_dropWhile_not (fun c => !isSpace c) (text.dropWhile isSpace)
      rw [first] at stops
      simpa using stops

/-! ### The words of a date -/

/-- A month is found by the three letters of its name. -/
theorem monthIndex_eq_some {monStr : List Char} (three : monStr.length = 3) {month : ℕ} :
    monthIndex monStr = some month ↔
      months[month]? = some (String.ofList (monStr.map Char.toLower)) := by
  have distinct : ∀ index (inside : index < months.length),
      months.findIdx? (fun other => other.toList = (months[index]).toList) = some index := by
    decide
  have head : (monStr.map Char.toLower).take 3 = monStr.map Char.toLower :=
    List.take_of_length_le (by simp [three])
  rw [monthIndex, if_pos three.ge, head]
  constructor
  · intro found
    obtain ⟨inside, isMonth, -⟩ := List.findIdx?_eq_some_iff_getElem.mp found
    rw [List.getElem?_eq_getElem inside, Option.some.injEq, ← String.toList_inj,
      String.toList_ofList]
    simpa using isMonth
  · intro isMonth
    obtain ⟨inside, isMonth⟩ := List.getElem?_eq_some_iff.mp isMonth
    have found := distinct month inside
    rwa [isMonth, String.toList_ofList] at found

/-- The name of a month has three letters, none of them a blank or a digit. -/
theorem month_letters {monStr : List Char} {month : ℕ}
    (isMonth : months[month]? = some (String.ofList (monStr.map Char.toLower))) :
    monStr.length = 3 ∧ ∀ c ∈ monStr, isSpace c = false ∧ c.isDigit = false := by
  have lower : ∀ name ∈ months, name.toList.length = 3 ∧
      name.toList.all (fun c => decide (97 ≤ c.toNat)) = true := by decide
  obtain ⟨length, letters⟩ := lower _ (List.mem_of_getElem? isMonth)
  rw [String.toList_ofList] at length letters
  refine ⟨by simpa using length, fun c member => ?_⟩
  have isLetter : 97 ≤ c.toLower.toNat :=
    of_decide_eq_true (List.all_eq_true.mp letters _ (List.mem_map_of_mem member))
  have code := toNat_toLower c
  have least : 65 ≤ c.toNat := by split at code <;> omega
  have notSpace : c ≠ ' ' := by
    rintro rfl
    exact absurd least (by decide)
  constructor
  · simp only [isSpace, notSpace, decide_false, Bool.false_or, Bool.and_eq_false_iff,
      decide_eq_false_iff_not]
    omega
  · rw [Bool.eq_false_iff, ne_eq, Char.isDigit_iff_toNat]
    rintro ⟨-, last⟩
    have nine : '9'.toNat = 57 := rfl
    omega

/-- A text that spells a date has its words. -/
theorem dateWords_of_spellsDate {text : List Char} {date : Date} (spells : SpellsDate text date)
    (isDay : IsInt date.day) (isYear : IsInt date.year) :
    ∃ monStr, dateWords text = some ((date.day : ℤ), monStr, date.year) ∧
      months[date.month - 1]? = some (String.ofList (monStr.map Char.toLower)) := by
  obtain ⟨before, day, between, month, gap, year, after, rfl, isBefore, isBetween, isGap, isAfter,
    some, spellsDay, spellsYear, isMonth⟩ := spells.exists_words
  obtain ⟨three, letters⟩ := month_letters isMonth
  have monthSome : month ≠ [] := by
    rintro rfl
    cases three
  have afterDay : ∀ c, (between ++ (month ++ (gap ++ (year ++ after)))).head? = Option.some c →
      c.isDigit = false := by
    intro c first
    rcases between with _ | ⟨blank, others⟩
    · rw [List.nil_append, List.head?_append_of_ne_nil _ monthSome] at first
      exact (letters c (List.mem_of_mem_head? first)).2
    · obtain rfl := Option.some.inj first
      by_contra digit
      rw [Bool.not_eq_false] at digit
      have notBlank := isSpace_of_isDigit digit
      rw [isBetween blank List.mem_cons_self] at notBlank
      cases notBlank
  have afterMonth : ∀ c ∈ (gap ++ (year ++ after)).head?, isSpace c = true := by
    intro c first
    rw [List.head?_append_of_ne_nil _ some] at first
    exact isGap c (List.mem_of_mem_head? first)
  have afterYear : ∀ c, after.head? = Option.some c → c.isDigit = false := by
    intro c first
    by_contra digit
    rw [Bool.not_eq_false] at digit
    have notBlank := isSpace_of_isDigit digit
    rw [isAfter c (List.mem_of_mem_head? first)] at notBlank
    cases notBlank
  have ended : after.dropWhile isSpace = [] := List.dropWhile_eq_nil_iff.mpr isAfter
  refine ⟨month, ?_, isMonth⟩
  unfold dateWords
  rw [extractInt_number isBefore spellsDay isDay afterDay]
  simp only [Option.bind_eq_bind, Option.bind_some]
  rw [extractWord_word isBetween (fun c member => (letters c member).1) monthSome afterMonth]
  simp only [Option.bind_some]
  rw [extractInt_number isGap spellsYear isYear afterYear]
  simp only [Option.bind_some, ended]
  rfl

/-- Three words that are a date spell it. -/
theorem spellsDate_of_dateWords {text monStr : List Char} {date : Date}
    (found : dateWords text = some ((date.day : ℤ), monStr, date.year)) (firstDay : 1 ≤ date.day)
    (firstYear : 1 ≤ date.year)
    (isMonth : months[date.month - 1]? = some (String.ofList (monStr.map Char.toLower))) :
    SpellsDate text date := by
  obtain ⟨⟨day, afterDay⟩, foundDay, found⟩ := Option.bind_eq_some_iff.mp found
  obtain ⟨⟨month, afterMonth⟩, foundMonth, found⟩ := Option.bind_eq_some_iff.mp found
  obtain ⟨⟨year, rest⟩, foundYear, found⟩ := Option.bind_eq_some_iff.mp found
  dsimp only at found foundMonth foundYear
  split at found
  · cases found
  · next ended =>
      simp only [Option.some.injEq, Prod.mk.injEq] at found
      obtain ⟨rfl, rfl, rfl⟩ := found
      obtain ⟨before, dayWord, isText, isBefore, spellsDay⟩ :=
        extractInt_spec (by exact_mod_cast firstDay) foundDay
      obtain ⟨between, isAfterDay, isBetween, isEnd⟩ := extractWord_spec foundMonth
      obtain ⟨gap, yearWord, isAfterMonth, isGap, spellsYear⟩ := extractInt_spec firstYear foundYear
      have after : ∀ c ∈ rest, isSpace c = true := by
        rw [← List.dropWhile_eq_nil_iff]
        simpa using ended
      have gapSome : gap ≠ [] := by
        rintro rfl
        obtain ⟨sign, digits, isWord, isSign, some, allDigits, -⟩ := spellsYear.exists_digits
        obtain ⟨first, others, isDigits⟩ := List.exists_cons_of_ne_nil some
        rw [isAfterMonth, isWord, isDigits] at isEnd
        rcases isSign with rfl | rfl
        · have blank := isEnd first rfl
          rw [isSpace_of_isDigit (allDigits first (by simp [isDigits]))] at blank
          cases blank
        · have blank := isEnd '+' rfl
          cases blank
      exact ⟨before, dayWord, between, month, gap, yearWord, rest,
        by rw [isText, isAfterDay, isAfterMonth], isBefore, isBetween, isGap, after, gapSome,
        spellsDay, spellsYear, isMonth⟩

/-- Digits spell their number. -/
theorem spellsNumber_digits {digits : List Char} (some : digits ≠ [])
    (allDigits : ∀ c ∈ digits, c.isDigit = true) {number : ℕ}
    (isNumber : Nat.ofDigitChars 10 digits 0 = number) : SpellsNumber digits number :=
  ⟨[], digits, rfl, .inl rfl, some, allDigits, congrArg _ isNumber⟩

/-- Two digits spell their number. -/
theorem spellsNumber_twoDigits (number : ℕ) : SpellsNumber (twoDigits number) number := by
  unfold twoDigits
  split
  · refine spellsNumber_digits (List.cons_ne_nil _ _) ?_ ?_
    · intro c member
      rcases List.mem_cons.mp member with rfl | digit
      · rfl
      · exact isDigit_of_mem_digits digit
    · rw [Nat.ofDigitChars_cons]
      exact Nat.ofDigitChars_ten_toDigits
  · exact spellsNumber_digits (digits_ne_nil _) (fun _ => isDigit_of_mem_digits)
      Nat.ofDigitChars_ten_toDigits

/-- The text of a date spells it. -/
theorem spellsDate_dateText {date : Date} (valid : date.Valid) (firstYear : 1 ≤ date.year) :
    SpellsDate (dateText date) date := by
  obtain ⟨year, isYear⟩ := Int.eq_ofNat_of_zero_le (show 0 ≤ date.year by omega)
  have digits : (toString date.year).toList = Nat.toDigits 10 year := by
    rw [isYear]
    exact toList_toString_nat year
  have names : ∀ month < 12, months[month]? =
      some (String.ofList ((monthNames.getD month "?").toList.map Char.toLower)) := by decide
  have isMonth := names (date.month - 1) (by have last := valid.lastMonth; omega)
  have oneBlank : ∀ c ∈ [' '], isSpace c = true := List.forall_mem_singleton.mpr rfl
  refine ⟨[], twoDigits date.day, [' '], (monthNames.getD (date.month - 1) "?").toList, [' '],
    Nat.toDigits 10 year, [], ?_, by simp, oneBlank, oneBlank, by simp, by decide,
    spellsNumber_twoDigits _, ?_, isMonth⟩
  · rw [dateText, digits, List.append_nil]
    rfl
  · rw [isYear]
    exact spellsNumber_digits (digits_ne_nil _) (fun _ => isDigit_of_mem_digits)
      Nat.ofDigitChars_ten_toDigits

/-! ## `ICONV` and `OCONV` with `D` -/

section RoundTrip

variable {Double : Type} [Doubles Double]

/-- The day that `OCONV` shows as a date. -/
def pickDay (date : Date) : ℤ := dayNumber date - unixEpoch + kPickInternalDateAtUnixEpoch

/-- A text that is read as a day spells an existing date, and `OCONV` shows that date. -/
structure DateInverse (Double : Type) [Doubles Double] (text : String) (number : ℤ) : Prop where
  exists_date : ∃ date shown, date.Valid ∧ 1 ≤ date.year ∧ date.year ≤ 9999 ∧
    SpellsDate text.toList date ∧
    dispatchConvertCode .output (.int number : Value Double) "D" = .ok (.string shown) ∧
    SpellsDate shown.toList date

/-- The month of a text is an abbreviation, and it has the day. -/
def HasItsDay (text : String) : Prop :=
  ∀ day monStr year month, dateWords text.toList = some (day, monStr, year) →
    monthIndex monStr = some month →
      monStr.length = 3 ∧ day ≤ monthLength year (month + 1)

/-- There are twelve months. -/
theorem monthIndex_lt {monStr : List Char} {month : ℕ} (found : monthIndex monStr = some month) :
    month < 12 := by
  unfold monthIndex at found
  split at found
  · obtain ⟨inside, -⟩ := List.findIdx?_eq_some_iff_getElem.mp found
    exact inside
  · cases found

/-- What is read from a text: the words, and the count of their day. -/
theorem pickDayFromDateString_eq_some {text : List Char} {number : ℤ} :
    pickDayFromDateString text = some number ↔ ∃ date monStr,
      dateWords text = some ((date.day : ℤ), monStr, date.year) ∧
      monthIndex monStr = some (date.month - 1) ∧ 1 ≤ date.month ∧ date.month ≤ 12 ∧
      1 ≤ date.day ∧ date.day ≤ 31 ∧ 1 ≤ date.year ∧ date.year ≤ 9999 ∧ number = pickDay date := by
  have count : ∀ date : Date, 1 ≤ date.year → 1 ≤ date.month → date.month ≤ 12 → 1 ≤ date.day →
      daysFromCivil date.year date.month date.day + kPickInternalDateAtUnixEpoch = pickDay date := by
    intro date firstYear firstMonth lastMonth firstDay
    have civil := daysFromCivil_eq firstYear firstMonth lastMonth firstDay
    unfold pickDay dayNumber
    omega
  rw [pickDayFromDateString_eq, Option.bind_eq_some_iff]
  constructor
  · rintro ⟨⟨day, monStr, year⟩, words, found⟩
    obtain ⟨date, isDate, rfl⟩ := Option.map_eq_some_iff.mp found
    unfold dateOf at isDate
    dsimp only at isDate
    split at isDate
    · cases isDate
    · next inside =>
        obtain ⟨month, isMonth, rfl⟩ := Option.map_eq_some_iff.mp isDate
        simp only [Bool.or_eq_true, decide_eq_true_eq, not_or, not_lt] at inside
        obtain ⟨⟨⟨firstDay, lastDay⟩, firstYear⟩, lastYear⟩ := inside
        have lastMonth := monthIndex_lt isMonth
        have sameDay : (day.toNat : ℤ) = day := Int.toNat_of_nonneg (by omega)
        refine ⟨{ year, month := month + 1, day := day.toNat }, monStr, ?_, isMonth,
          Nat.le_add_left 1 _, lastMonth, ?_, ?_, firstYear, lastYear,
          count _ firstYear (Nat.le_add_left 1 _) lastMonth ?_⟩
        · rw [sameDay]
          exact words
        · dsimp only
          omega
        · dsimp only
          omega
        · dsimp only
          omega
  · rintro ⟨date, monStr, words, isMonth, firstMonth, lastMonth, firstDay, lastDay, firstYear,
      lastYear, rfl⟩
    refine ⟨_, words, ?_⟩
    have inside : ¬ (decide ((date.day : ℤ) < 1) || decide (31 < (date.day : ℤ)) ||
        decide (date.year < 1) || decide (9999 < date.year)) = true := by
      simp only [Bool.or_eq_true, decide_eq_true_eq, not_or, not_lt]
      omega
    have sameMonth : date.month - 1 + 1 = date.month := by omega
    simp only [dateOf, if_neg inside, isMonth, Option.map_some, Int.toNat_natCast, sameMonth]
    rw [count date firstYear firstMonth lastMonth firstDay]

/-- A Pick day is an `int`. -/
theorem isInt_pickDay {text : List Char} {number : ℤ}
    (found : pickDayFromDateString text = some number) : IsInt number := by
  obtain ⟨date, monStr, -, -, firstMonth, lastMonth, firstDay, lastDay, firstYear, lastYear, rfl⟩ :=
    pickDayFromDateString_eq_some.mp found
  have months : monthStart date.year date.month ≤ 335 := by
    have start := monthStart_march date.year firstMonth lastMonth
    have length : yearLength date.year ≤ 366 := by
      unfold yearLength
      split <;> decide
    split at start
    · split at start <;> omega
    · split at start <;> omega
  unfold IsInt intMin intMax pickDay dayNumber yearStart unixEpoch kPickInternalDateAtUnixEpoch
  omega

/-- The day of a date is shown as the date. -/
theorem dateStringFromPickDay_pickDay {date : Date} (valid : date.Valid) :
    dateStringFromPickDay (pickDay date) = dateText date := by
  unfold dateStringFromPickDay pickDay
  have same : dayNumber date - unixEpoch + kPickInternalDateAtUnixEpoch -
      kPickInternalDateAtUnixEpoch + unixEpoch = dayNumber date := by omega
  rw [same, ofDayNumber_dayNumber valid]

/-- `ICONV` with `D` reads a date. -/
theorem iconvOutputBuiltin_date (text : String) :
    iconvOutputBuiltin text "D" = (do
      match ← iconvNumber (pickDayFromDateString text.toList) "D" true with
      | some out => .ok out
      | none => .error ("BUILTIN: ICONV unsupported code \"" ++ "D" ++ "\"")) := by
  have trims : trimmed "D" = "D" := by decide
  have uppers : upperCopy "D" = "D" := upperCopy_of_upper (by decide)
  rw [iconvOutputBuiltin, trims, uppers]
  rfl

/-- The conversion of a text with `D` is its Pick day. -/
theorem dispatch_date_input (holds : HoldsInts Double) {text : String} {number : ℤ} :
    dispatchConvertCode .input (.string text : Value Double) "D" = .ok (.int number) ↔
      pickDayFromDateString text.toList = some number := by
  have uppers : upperCopy "D" = "D" := upperCopy_of_upper (by decide)
  rcases found : pickDayFromDateString text.toList with _ | day
  · refine iff_of_false ?_ (by rintro ⟨⟩)
    simp only [dispatchConvertCode, valueToString, iconvOutputBuiltin_date, found]
    rintro ⟨⟩
  · have isInt := isInt_pickDay found
    have back := @coerceToInt_toString Double _ holds day isInt.1 isInt.2
    simp only [dispatchConvertCode, valueToString, iconvOutputBuiltin_date, found, uppers]
    rw [Option.some.injEq]
    constructor
    · intro same
      have same : Except.ok (Value.int (coerceToInt (.string (toString day) : Value Double))) =
          (.ok (.int number) : Except String (Value Double)) := same
      rw [back] at same
      cases same
      rfl
    · rintro rfl
      exact congrArg (fun n => Except.ok (Value.int n)) back

/-- The conversion of a Pick day with `D` is its date. -/
theorem dispatch_date_output (holds : HoldsInts Double) {number : ℤ} (isInt : IsInt number) :
    dispatchConvertCode .output (.int number : Value Double) "D" =
      .ok (.string (String.ofList (dateStringFromPickDay number))) := by
  have trims : trimmed "D" = "D" := by decide
  have uppers : upperCopy "D" = "D" := upperCopy_of_upper (by decide)
  simp only [dispatchConvertCode, valueToString, oconvOutputBuiltin, trims, uppers]
  rw [oconvOutputImpl, coerceStringToInt_toString holds isInt]
  rfl

/-- `ICONV` and `OCONV` with `D` are inverse where the day of a text exists, and on every day of
the years from 1 to 9999. -/
theorem date_inverse_iff (holds : HoldsInts Double) :
    (∀ text number,
      dispatchConvertCode .input (.string text : Value Double) "D" = .ok (.int number) →
        (DateInverse Double text number ↔ HasItsDay text)) ∧
      ∀ number, IsInt number →
        (∃ date : Date, date.Valid ∧ 1 ≤ date.year ∧ date.year ≤ 9999 ∧ number = pickDay date) →
          ReadsBack Double "D" number := by
  refine ⟨fun text number accepted => ⟨?_, fun hasItsDay => ?_⟩, ?_⟩
  · rintro ⟨date, shown, valid, firstYear, lastYear, spells, -, -⟩ day monStr year month words isMonth
    have lastDay : date.day ≤ 31 := valid.lastDay.trans (monthLength_le _ _)
    obtain ⟨other, sameWords, isName⟩ := dateWords_of_spellsDate spells
      (by unfold IsInt intMin intMax; omega) (by unfold IsInt intMin intMax; omega)
    obtain ⟨three, -⟩ := month_letters isName
    rw [words, Option.some.injEq, Prod.mk.injEq, Prod.mk.injEq] at sameWords
    obtain ⟨rfl, rfl, rfl⟩ := sameWords
    rw [(monthIndex_eq_some three).mpr isName, Option.some.injEq] at isMonth
    have sameMonth : month + 1 = date.month := by
      have first := valid.firstMonth
      omega
    rw [sameMonth]
    exact ⟨three, by exact_mod_cast valid.lastDay⟩
  · have found := (dispatch_date_input holds).mp accepted
    have isInt := isInt_pickDay found
    obtain ⟨date, monStr, words, isMonth, firstMonth, lastMonth, firstDay, -, firstYear, lastYear,
      rfl⟩ := pickDayFromDateString_eq_some.mp found
    obtain ⟨three, lastDay⟩ := hasItsDay _ _ _ _ words isMonth
    rw [show date.month - 1 + 1 = date.month by omega] at lastDay
    have valid : date.Valid := ⟨firstMonth, lastMonth, firstDay, by exact_mod_cast lastDay⟩
    have shown := @dispatch_date_output Double _ holds (pickDay date) isInt
    rw [dateStringFromPickDay_pickDay valid] at shown
    refine ⟨date, _, valid, firstYear, lastYear, ?_, shown, ?_⟩
    · exact spellsDate_of_dateWords words firstDay firstYear ((monthIndex_eq_some three).mp isMonth)
    · rw [String.toList_ofList]
      exact spellsDate_dateText valid firstYear
  · rintro number isInt ⟨date, valid, firstYear, lastYear, rfl⟩
    have shown := @dispatch_date_output Double _ holds (pickDay date) isInt
    rw [dateStringFromPickDay_pickDay valid] at shown
    refine ⟨_, shown, (dispatch_date_input holds).mpr ?_⟩
    rw [String.toList_ofList]
    have lastDay : date.day ≤ 31 := valid.lastDay.trans (monthLength_le _ _)
    obtain ⟨monStr, words, isName⟩ := dateWords_of_spellsDate (spellsDate_dateText valid firstYear)
      (by unfold IsInt intMin intMax; omega) (by unfold IsInt intMin intMax; omega)
    obtain ⟨three, -⟩ := month_letters isName
    exact pickDayFromDateString_eq_some.mpr ⟨date, monStr, words,
      (monthIndex_eq_some three).mpr isName, valid.firstMonth, valid.lastMonth, valid.firstDay,
      lastDay, firstYear, lastYear, rfl⟩

end RoundTrip

/-- 29 February 2024 is read, and shown, as day 20514. -/
theorem date_inverse_leap_day :
    @DateInverse Int signedDoubles "29 feb 2024" 20514 ∧
      @ReadsBack Int signedDoubles "D" 20514 := by
  have inverse := @date_inverse_iff Int signedDoubles signedDoubles_holdsInts
  have words : dateWords "29 feb 2024".toList = some (29, ['f', 'e', 'b'], 2024) := by
    decide +kernel
  have index : monthIndex ['f', 'e', 'b'] = some 1 := by decide
  have found : pickDayFromDateString "29 feb 2024".toList = some 20514 := by decide +kernel
  have accepted := (@dispatch_date_input Int signedDoubles signedDoubles_holdsInts _ _).mpr found
  refine ⟨(inverse.1 _ _ accepted).mpr ?_, inverse.2 20514 (by decide) ?_⟩
  · intro day monStr year month isWords isMonth
    rw [words] at isWords
    cases isWords
    rw [index] at isMonth
    cases isMonth
    exact ⟨rfl, by decide⟩
  · exact ⟨⟨2024, 2, 29⟩, ⟨by decide, by decide, by decide, by decide⟩, by decide, by decide,
      by decide⟩

/-- The thirty-first of February is taken for a day of March. -/
theorem date_past_month :
    ¬ ∀ text number, @dispatchConvertCode Int signedDoubles .input (.string text) "D" =
      .ok (.int number) → @DateInverse Int signedDoubles text number := by
  intro inverse
  have words : dateWords "31 Feb 2024".toList = some (31, ['F', 'e', 'b'], 2024) := by
    decide +kernel
  have found : pickDayFromDateString "31 Feb 2024".toList = some 20516 := by decide +kernel
  have accepted := (@dispatch_date_input Int signedDoubles signedDoubles_holdsInts _ _).mpr found
  obtain ⟨date, shown, valid, firstYear, lastYear, spells, -⟩ := inverse _ _ accepted
  have lastDay := valid.lastDay
  have short := monthLength_le date.year date.month
  obtain ⟨monStr, sameWords, isName⟩ := dateWords_of_spellsDate spells
    (by unfold IsInt intMin intMax; omega) (by unfold IsInt intMin intMax; omega)
  rw [words, Option.some.injEq, Prod.mk.injEq, Prod.mk.injEq] at sameWords
  obtain ⟨isDay, rfl, isYear⟩ := sameWords
  have index : monthIndex ['F', 'e', 'b'] = some 1 := by decide
  rw [(monthIndex_eq_some rfl).mpr isName, Option.some.injEq] at index
  have february : date.month = 2 := by
    have first := valid.firstMonth
    omega
  rw [february, ← isYear] at lastDay
  have length : monthLength 2024 2 = 29 := by decide
  omega

end Gemini.Conversion
