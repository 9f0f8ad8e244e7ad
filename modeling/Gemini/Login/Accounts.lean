import Gemini.Data.Fields
import Gemini.Login.LoginService
import Gemini.PickFS.StructuredRecord

/-!
# The accounts that can be entered

A console lets in any account of a valid catalogue whose name can be typed on the line of the name,
and whose password, where one is asked for, survives the trimming of its line. The name is compared
in any case, so that of two rows with one name the second cannot be reached.
-/

namespace Gemini.Login

open Gemini.Data (joined not_mem_of_mem_splitOn words words_joined)
open Gemini.PickFS (isValidName)
open Gemini.PickFS.StructuredRecord (getlines getlines_flatMap)
open Gemini.VM (isSpace isSpace_of_isAlphanum isUpper_iff_toNat isAlpha_iff_toNat toNat_toLower
  toNat_toUpper)

variable {catalog : CatalogRoot}

/-! ## Names in any case -/

/-- A letter in lower case has the same upper case. -/
theorem toUpper_toLower (c : Char) : c.toLower.toUpper = c.toUpper := by
  rw [← Char.toNat_inj, toNat_toUpper, toNat_toUpper, toNat_toLower]
  split_ifs <;> omega

/-- A letter of a name. -/
def isNameLetter (c : Char) : Bool := c.isAlphanum || c = '_' || c = '-'

/-- A name is valid when it is not empty and has only letters of a name. -/
theorem isValidName_iff {name : String} :
    isValidName name = true ↔ name ≠ "" ∧ ∀ c ∈ name.toList, isNameLetter c = true := by
  have letter (c : Char) : (('a' ≤ c && c ≤ 'z') || ('A' ≤ c && c ≤ 'Z') || ('0' ≤ c && c ≤ '9') ||
      c = '_' || c = '-') = isNameLetter c := by
    have range (low high : Char) : (low ≤ c && c ≤ high) = true ↔
        low.toNat ≤ c.toNat ∧ c.toNat ≤ high.toNat := by
      rw [Bool.and_eq_true, decide_eq_true_iff, decide_eq_true_iff]
      rfl
    have alphanum : c.isAlphanum = (('a' ≤ c && c ≤ 'z') || ('A' ≤ c && c ≤ 'Z') ||
        ('0' ≤ c && c ≤ '9')) := by
      rw [Bool.eq_iff_iff, Char.isAlphanum, Bool.or_eq_true, Bool.or_eq_true, Bool.or_eq_true,
        isAlpha_iff_toNat, Char.isDigit_iff_toNat, range, range, range]
      simp only [Char.reduceToNat]
      omega
    rw [isNameLetter, alphanum]
  unfold isValidName
  simp only [letter, Bool.and_eq_true, decide_eq_true_eq, List.all_eq_true, ne_eq]

/-- The case of a letter does not decide whether a name may have it. -/
theorem isNameLetter_toLower (c : Char) : isNameLetter c.toLower = isNameLetter c := by
  have code (c : Char) : isNameLetter c = true ↔ (65 ≤ c.toNat ∧ c.toNat ≤ 90 ∨
      97 ≤ c.toNat ∧ c.toNat ≤ 122) ∨ 48 ≤ c.toNat ∧ c.toNat ≤ 57 ∨ c.toNat = 95 ∨
        c.toNat = 45 := by
    simp only [isNameLetter, Char.isAlphanum, Bool.or_eq_true, isAlpha_iff_toNat,
      Char.isDigit_iff_toNat, decide_eq_true_eq, ← Char.toNat_inj, Char.reduceToNat, or_assoc]
  rw [Bool.eq_iff_iff, code, code, toNat_toLower]
  split_ifs <;> omega

/-- No letter of a name is a space. -/
theorem isSpace_of_isNameLetter {c : Char} (letter : isNameLetter c = true) :
    isSpace c = false := by
  simp only [isNameLetter, Bool.or_eq_true, decide_eq_true_eq] at letter
  rcases letter with (alphanum | rfl) | rfl
  · exact isSpace_of_isAlphanum alphanum
  · rfl
  · rfl

/-- No letter of a name is trimmed from the end of a line. -/
theorem isTrailingWs_of_isNameLetter {c : Char} (letter : isNameLetter c = true) :
    isTrailingWs c = false := by
  cases blank : isTrailingWs c with
  | false => rfl
  | true =>
      have space : isSpace c = true := by
        simp only [isTrailingWs, Bool.or_eq_true, decide_eq_true_eq] at blank
        rcases blank with ((rfl | rfl) | rfl) | rfl <;> rfl
      rw [isSpace_of_isNameLetter letter] at space
      cases space

/-- Two names are equal without case when they are equal in lower case. -/
theorem iequalsAscii_iff {a b : String} :
    iequalsAscii a b = true ↔ a.toList.map Char.toLower = b.toList.map Char.toLower :=
  decide_eq_true_iff

/-- What does not depend on the case of a letter is the same of two such names. -/
theorem map_of_iequals {Image : Type} {a b : String} (same : iequalsAscii a b = true)
    {image : Char → Image} (insensitive : ∀ c : Char, image c.toLower = image c) :
    a.toList.map image = b.toList.map image := by
  have lowered (letters : List Char) :
      letters.map image = (letters.map Char.toLower).map image := by
    rw [List.map_map]
    exact List.map_congr_left fun c _ => (insensitive c).symm
  rw [lowered a.toList, iequalsAscii_iff.mp same, ← lowered]

/-- The validity of a name does not depend on its case. -/
theorem isValidName_of_iequals {a b : String} (same : iequalsAscii a b = true) :
    isValidName a = isValidName b := by
  have letters := map_of_iequals same isNameLetter_toLower
  have empty : a = "" ↔ b = "" := by
    have length := congrArg List.length letters
    rw [List.length_map, List.length_map] at length
    rw [← String.toList_eq_nil_iff, ← String.toList_eq_nil_iff, ← List.length_eq_zero_iff, length,
      List.length_eq_zero_iff]
  have all (name : String) : (∀ c ∈ name.toList, isNameLetter c = true) ↔
      ∀ isLetter ∈ name.toList.map isNameLetter, isLetter = true := by
    rw [List.forall_mem_map]
  rw [Bool.eq_iff_iff, isValidName_iff, isValidName_iff, all, all, letters, Ne, Ne, empty]

/-- Nor does it matter to the reserved words. -/
theorem reserved_of_iequals {a b : String} (same : iequalsAscii a b = true) :
    reservedLogonToken a = reservedLogonToken b := by
  have upper : a.map Char.toUpper = b.map Char.toUpper := by
    rw [← String.toList_inj, String.toList_map, String.toList_map]
    exact map_of_iequals same toUpper_toLower
  rw [reservedLogonToken, upper, reservedLogonToken]

/-- Nor to the row that is found. -/
theorem findAccountRow_of_iequals {a b : String} (same : iequalsAscii a b = true)
    (accounts : List GeminiAccountRow) : findAccountRow accounts a = findAccountRow accounts b := by
  have lower := iequalsAscii_iff.mp same
  unfold findAccountRow iequalsAscii
  rw [lower]

/-! ## What can be typed -/

/-- A text that a line can hold and that its trimming leaves as it is. -/
structure Typeable (text : String) : Prop where
  oneLine : '\n' ∉ text.toList
  trimmed : trimTrailingAsciiWs text.toList = text.toList

/-- No line that is read has a line feed in it. -/
theorem not_mem_getlines {input line : List Char} (read : line ∈ getlines input) : '\n' ∉ line := by
  unfold getlines at read
  dsimp only at read
  split at read
  · exact not_mem_of_mem_splitOn (List.dropLast_subset _ read)
  · exact not_mem_of_mem_splitOn read

/-- What is read from a line can be typed. -/
theorem typeable_of_line {input line : List Char} (read : line ∈ getlines input) :
    Typeable (String.ofList (trimTrailingAsciiWs line)) where
  oneLine := by
    rw [String.toList_ofList]
    intro inTrimmed
    exact not_mem_getlines read ((List.rdropWhile_prefix isTrailingWs _).subset inTrimmed)
  trimmed := by
    rw [String.toList_ofList]
    exact List.rdropWhile_idempotent _ _

/-- A valid name can be typed on a line. -/
theorem typeable_of_name {name : String} (valid : isValidName name = true) : Typeable name := by
  obtain ⟨-, letters⟩ := isValidName_iff.mp valid
  refine ⟨fun newline => ?_, ?_⟩
  · cases letters _ newline
  · refine List.rdropWhile_eq_self_iff.mpr fun notEmpty => ?_
    rw [isTrailingWs_of_isNameLetter (letters _ (List.getLast_mem notEmpty))]
    exact Bool.false_ne_true

/-- A line with a name on it names it. -/
theorem parseSingleUsernameLine_name {name : String} (valid : isValidName name = true)
    (free : reservedLogonToken name = false) : parseSingleUsernameLine name.toList = some name := by
  obtain ⟨notEmpty, letters⟩ := isValidName_iff.mp valid
  have one : words isSpace (joined ' ' [name.toList]) = [name.toList] := by
    refine words_joined rfl fun text isName => ?_
    rw [List.mem_singleton.mp isName]
    exact ⟨mt String.toList_eq_nil_iff.mp notEmpty,
      fun c member => isSpace_of_isNameLetter (letters c member)⟩
  rw [joined, List.intercalate_singleton] at one
  unfold parseSingleUsernameLine
  rw [one]
  simp [String.ofList_toList, valid, free]

/-- A line that is read as a name holds a valid one that is not reserved. -/
theorem valid_of_parseSingleUsernameLine {line : List Char} {name : String}
    (named : parseSingleUsernameLine line = some name) :
    isValidName name = true ∧ reservedLogonToken name = false := by
  unfold parseSingleUsernameLine at named
  split at named
  · dsimp only at named
    split at named
    · next accepted =>
        cases named
        simpa using accepted
    · cases named
  · cases named

/-! ## The accounts -/

/-- A row that a console can enter. -/
structure CatalogRoot.CanEnter (catalog : CatalogRoot) (row : GeminiAccountRow) : Prop where
  /-- The catalogue is valid, and no row before this one has its name in any case. -/
  first : ∃ accounts, catalog.accountsFile = .rows accounts ∧
    (∀ other ∈ accounts, other.name ≠ "" ∧ other.root ≠ "") ∧
      findAccountRow accounts row.name = some row
  valid : isValidName row.name = true
  free : reservedLogonToken row.name = false
  typeable : row.asksPassword → ∀ hash ∈ row.passwordHash, Typeable hash
  isDirectory : catalog.isDirectory (catalog.pickRoot row.root) = true
  hasVoc : catalog.hasVoc (catalog.pickRoot row.root) = true

/-- The row that is found has the name in some case. -/
theorem iequals_of_findAccountRow {accounts : List GeminiAccountRow} {accountName : String}
    {row : GeminiAccountRow} (found : findAccountRow accounts accountName = some row) :
    iequalsAscii row.name accountName = true := by
  unfold findAccountRow at found
  exact (List.find?_eq_some_iff_append.mp found).1

/-- An account that some attempt was admitted to can be entered. -/
theorem canEnter_of_admittedTo {attempt : Attempt} {row : GeminiAccountRow}
    (admitted : attempt.AdmittedTo catalog row)
    (typed : Typeable attempt.password) : catalog.CanEnter row := by
  obtain ⟨accountName, named, admits⟩ := admitted
  obtain ⟨accounts, isFile, valid, found⟩ := admits.valid
  have same := iequals_of_findAccountRow found
  obtain ⟨isName, free⟩ := valid_of_parseSingleUsernameLine named
  exact {
    first := ⟨accounts, isFile, valid, by rw [findAccountRow_of_iequals same, found]⟩
    valid := by rw [isValidName_of_iequals same, isName]
    free := by rw [reserved_of_iequals same, free]
    typeable := by
      intro asks hash stored
      have isPassword := admits.verified asks
      rw [Option.mem_def.mp stored, Option.some.injEq] at isPassword
      exact isPassword ▸ typed
    isDirectory := admits.isDirectory
    hasVoc := admits.hasVoc }

/-- The lines that enter an account. -/
def GeminiAccountRow.keyed (row : GeminiAccountRow) : Attempt where
  nameLine := row.name.toList
  passwordLine := if row.asksPassword then row.passwordHash.map String.toList else none

/-- The attempt with the keys of a row reads a password when the account asks for one. -/
theorem read_keyed {row : GeminiAccountRow} (enter : catalog.CanEnter row) :
    row.keyed.Read catalog := by
  obtain ⟨accounts, isFile, -, found⟩ := enter.first
  have named : catalog.rowOfLine row.name.toList = some (row.name, row) := by
    refine rowOfLine_eq_some.mpr ⟨?_, accounts, isFile, found⟩
    rw [(typeable_of_name enter.valid).trimmed]
    exact parseSingleUsernameLine_name enter.valid enter.free
  unfold Attempt.Read GeminiAccountRow.keyed
  dsimp only
  rw [named, Option.any_some]
  cases asks : row.asksPassword with
  | false => rfl
  | true =>
      cases hash : row.passwordHash with
      | none => simp [GeminiAccountRow.asksPassword, hash] at asks
      | some text => rfl

/-- The keys of a row open its account. -/
theorem admittedTo_keyed {row : GeminiAccountRow} (enter : catalog.CanEnter row) :
    row.keyed.AdmittedTo catalog row := by
  refine ⟨row.name, ?_, enter.first, fun asks => ?_, enter.isDirectory, enter.hasVoc⟩
  · rw [GeminiAccountRow.keyed, (typeable_of_name enter.valid).trimmed]
    exact parseSingleUsernameLine_name enter.valid enter.free
  · cases hash : row.passwordHash with
    | none => simp [GeminiAccountRow.asksPassword, hash] at asks
    | some text =>
        have trimmed := (enter.typeable asks text hash).trimmed
        simp [Attempt.password, GeminiAccountRow.keyed, asks, hash, trimmed]

/-- A password that is compared was read from a line of the input, or no line was read for it. -/
theorem typeable_password {attempt : Attempt} {input : List Char}
    (read : ∀ line ∈ attempt.lines, line ∈ getlines input) : Typeable attempt.password := by
  unfold Attempt.password
  cases passwordLine : attempt.passwordLine with
  | none => exact ⟨List.not_mem_nil, rfl⟩
  | some line =>
      refine typeable_of_line (read line ?_)
      rw [Attempt.lines, passwordLine]
      exact List.mem_cons_of_mem _ (List.mem_singleton_self line)

/-- The text that enters an account is taken apart into its lines. -/
theorem getlines_keyed {row : GeminiAccountRow} (enter : catalog.CanEnter row) :
    getlines (row.keyed.lines.flatMap fun line => line ++ ['\n']) = row.keyed.lines := by
  have keyed := getlines_flatMap id row.keyed.lines fun line member => ?_
  · rwa [List.map_id] at keyed
  rcases List.mem_cons.mp member with rfl | isPassword
  · exact (typeable_of_name enter.valid).oneLine
  · rw [GeminiAccountRow.keyed, Option.mem_toList] at isPassword
    dsimp only at isPassword
    split at isPassword
    · next asks =>
        obtain ⟨hash, stored, rfl⟩ := Option.map_eq_some_iff.mp isPassword
        exact (enter.typeable asks hash stored).oneLine
    · cases isPassword

/-- The sessions that a console can open are those of the accounts that can be entered. -/
theorem enters_iff (catalog : CatalogRoot) (session : UserSession) :
    (∃ input, (catalog.runConsoleLogin (getlines input)).session = some session) ↔
      ∃ row, catalog.CanEnter row ∧ session = catalog.sessionOf row := by
  constructor
  · rintro ⟨input, entered⟩
    obtain ⟨refused, last, logon⟩ := runConsoleLogin_logon catalog (getlines input)
    obtain ⟨attempt, row, rfl, -, admitted, rfl⟩ := logon.exists_admitted entered
    refine ⟨row, canEnter_of_admittedTo admitted (@typeable_password _ input ?_), rfl⟩
    intro line member
    rw [logon.input]
    simp [member]
  · rintro ⟨row, enter, rfl⟩
    refine ⟨row.keyed.lines.flatMap fun line => line ++ ['\n'], ?_⟩
    have entered := runConsoleLogin_admitted (read_keyed enter) (admittedTo_keyed enter) []
    rw [List.append_nil] at entered
    rw [getlines_keyed enter, entered]

end Gemini.Login
