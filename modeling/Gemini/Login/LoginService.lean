import Gemini.Data.Checked
import Gemini.Data.Words
import Gemini.PickFS.FileSystem
import Gemini.VM.Numerals

/-!
# The login

`LoginService`: the catalogue logon of a console. A name is read, and a password where the account
has one, until an attempt is admitted or the input ends. What is printed does not depend on why an
attempt is refused. An account can be entered exactly when its name can be typed and its password
survives the trimming of the line it is typed on.
-/

namespace Gemini.Login

open Gemini.Data (bind_eq_ok words)
open Gemini.PickFS (Root World isValidName)
open Gemini.PickFS.StructuredRecord (getlines)
open Gemini.VM (isSpace)

/-! ## The catalogue -/

/-- A row of `ACCOUNTS.json`; an empty password hash is read as none. -/
structure GeminiAccountRow where
  name : String
  root : String
  passwordHash : Option String := none
  stored : passwordHash ≠ some "" := by decide

/-- What `ACCOUNTS.json` is. -/
inductive AccountsFile where
  | missing
  | malformed
  | rows (accounts : List GeminiAccountRow)

/-- The catalogue as the login sees it: its accounts and the directories of their roots. -/
structure CatalogRoot where
  accountsFile : AccountsFile
  /-- `(catalogRoot / root).lexically_normal()`. -/
  pickRoot : String → Root
  isDirectory : Root → Bool
  /-- `is_directory(pickRoot / "VOC")`. -/
  hasVoc : Root → Bool

/-- `GeminiCatalog::loadAccounts`. -/
def CatalogRoot.loadAccounts (catalog : CatalogRoot) : Option (List GeminiAccountRow) :=
  match catalog.accountsFile with
  | .rows accounts => some accounts
  | _ => none

/-- A user who has logged on: the account's root and name, the port and the user number. -/
structure UserSession where
  pickRoot : Root
  username : String
  accountName : String
  whoPort : Int := 0
  userNo : String := "0"
deriving DecidableEq

/-! ## Names and passwords -/

/-- Two names are compared without case. -/
def iequalsAscii (a b : String) : Bool := a.toList.map Char.toLower = b.toList.map Char.toLower

/-- The start of a password hash that is not checked. -/
def devPlaceholder : List Char := "dev-".toList

/-- An account with such a hash takes any password. -/
def passwordPlaceholderSkipsVerify (hash : String) : Bool := devPlaceholder.isPrefixOf hash.toList

/-- The words that nobody can log on with. -/
def kReservedLoginNames : List String :=
  ["LOGIN", "QUIT", "VERSION", "HELP", "TCL", "EDIT", "RUN", "BASIC", "PROC", "ASM", "ECHO", "SET",
    "GET", "UNSET", "WHO", "LOGTO", "LOGOFF", "CREATE-FILE", "DELETE-FILE", "LIST-FILES", "LIST",
    "READ", "WRITE", "LIST-PROGRAMS", "LIST-VARS", "DUMP-STACK", "SYSTEM", "ABOUT", "HELP-LIST",
    "HELP-EDIT"]

/-- What is trimmed from the end of a line that is read. -/
def isTrailingWs (c : Char) : Bool := c = '\r' || c = '\n' || c = ' ' || c = '\t'

/-- `trimTrailingAsciiWs`. -/
def trimTrailingAsciiWs (text : List Char) : List Char := text.rdropWhile isTrailingWs

/-- The first line of a record, trimmed at its end. -/
def firstLineFromRecordBody (body : String) : String :=
  String.ofList (trimTrailingAsciiWs (body.toList.takeWhile (· ≠ '\n')))

/-- The first row of the catalogue with the account's name. -/
def findAccountRow (accounts : List GeminiAccountRow) (accountName : String) :
    Option GeminiAccountRow :=
  accounts.find? fun row => iequalsAscii row.name accountName

/-- The first row without a name or a root, counted from an index. -/
def firstInvalidAccountRowReason (index : Nat) : List GeminiAccountRow → Option String
  | [] => none
  | row :: rest =>
      if row.name = "" then
        some ("Invalid ACCOUNTS.json: account row missing name (index " ++ toString index ++ ").")
      else if row.root = "" then
        some ("Invalid ACCOUNTS.json: account row missing root (index " ++ toString index ++ ").")
      else firstInvalidAccountRowReason (index + 1) rest

/-- Reserved words are reserved in every case. -/
def reservedLogonToken (token : String) : Bool :=
  kReservedLoginNames.contains (token.map Char.toUpper)

/-- `parseSingleUsernameLine`: one word that is a name and not reserved. -/
def parseSingleUsernameLine (line : List Char) : Option String :=
  match words isSpace line with
  | [word] =>
      let token := String.ofList word
      if isValidName token && !reservedLogonToken token then some token else none
  | _ => none

/-- Whether a line is read for the password of an account. -/
def GeminiAccountRow.asksPassword (row : GeminiAccountRow) : Bool :=
  row.passwordHash.any fun hash => !passwordPlaceholderSkipsVerify hash

/-- `readPasswordLineIfAccountRequires`, and the lines that it leaves. -/
def readPasswordLineIfAccountRequires (row : Option GeminiAccountRow) (lines : List (List Char)) :
    Option (String × List (List Char)) :=
  if row.any GeminiAccountRow.asksPassword then
    match lines with
    | [] => none
    | line :: rest => some (String.ofList (trimTrailingAsciiWs line), rest)
  else some ("", lines)

/-- The check of the password of a row. -/
def GeminiAccountRow.verifyPassword (row : GeminiAccountRow) (password : String) :
    Except String Unit :=
  match row.passwordHash with
  | none => .ok ()
  | some hash =>
      if passwordPlaceholderSkipsVerify hash then .ok ()
      else if password = "" then .error "Password required.\n"
      else if password ≠ hash then .error "Login failed.\n"
      else .ok ()

namespace CatalogRoot

variable (catalog : CatalogRoot)

/-- The session of a row whose password is right. -/
def openAccount (row : GeminiAccountRow) : Except String UserSession :=
  let pickRoot := catalog.pickRoot row.root
  if !catalog.isDirectory pickRoot then .error ("Account path not found: " ++ pickRoot ++ "\n")
  else if !catalog.hasVoc pickRoot then .error ("Account path has no VOC: " ++ pickRoot ++ "\n")
  else .ok { pickRoot, username := row.name, accountName := row.name }

/-- `authenticateAccount`: the catalogue, the row, the password and the account's directory are
checked in this order. -/
def authenticateAccount (accountName password : String) : Except String UserSession :=
  match catalog.accountsFile with
  | .missing => .error "ACCOUNTS.json not found.\n"
  | .malformed => .error "Invalid ACCOUNTS.json.\n"
  | .rows accounts =>
      match firstInvalidAccountRowReason 0 accounts with
      | some reason => .error (reason ++ "\n")
      | none =>
          match findAccountRow accounts accountName with
          | none => .error "Unknown account.\n"
          | some row => do
              row.verifyPassword password
              catalog.openAccount row

end CatalogRoot

/-! ## The console -/

/-- What a login leaves: a session or none, and what it has printed. -/
structure LoginResult where
  session : Option UserSession
  out : String
  /-- The lines that have not been read. -/
  rest : List (List Char)

/-- A login that has printed something before. -/
def LoginResult.after (printed : String) (result : LoginResult) : LoginResult :=
  { result with out := printed ++ result.out }

/-- The prompt for a name. -/
def logonPlease : String := "LOGON PLEASE: "

/-- What a refused attempt prints. -/
def loginIncorrect : String := "Login incorrect\n"

/-- A password takes a line when the account asks for one, and otherwise none. -/
theorem length_readPassword {row : Option GeminiAccountRow} {lines rest : List (List Char)}
    {password : String}
    (read : readPasswordLineIfAccountRequires row lines = some (password, rest)) :
    rest.length ≤ lines.length := by
  unfold readPasswordLineIfAccountRequires at read
  split at read
  · cases lines with
    | nil => cases read
    | cons line others =>
        cases read
        exact Nat.le_succ _
  · cases read
    exact le_rfl

/-- The row of the account that a line names. -/
def CatalogRoot.rowOfLine (catalog : CatalogRoot) (line : List Char) :
    Option (String × GeminiAccountRow) := do
  let accountName ← parseSingleUsernameLine (trimTrailingAsciiWs line)
  let accounts ← catalog.loadAccounts
  let row ← findAccountRow accounts accountName
  return (accountName, row)

/-- `runConsoleLogin` on the lines of the input. -/
def CatalogRoot.runConsoleLogin (catalog : CatalogRoot) : List (List Char) → LoginResult
  | [] => { session := none, out := logonPlease, rest := [] }
  | line :: lines =>
      match catalog.rowOfLine line with
      | none => (catalog.runConsoleLogin lines).after (logonPlease ++ loginIncorrect)
      | some (accountName, row) =>
          match _read : readPasswordLineIfAccountRequires (some row) lines with
          | none => { session := none, out := logonPlease, rest := [] }
          | some (password, rest) =>
              match catalog.authenticateAccount accountName password with
              | .ok session => { session := some session, out := logonPlease ++ "\n", rest }
              | .error _ => (catalog.runConsoleLogin rest).after (logonPlease ++ loginIncorrect)
termination_by lines => lines.length
decreasing_by
  · simp
  · exact Nat.lt_succ_of_le (length_readPassword _read)

/-! ## Who is admitted -/

/-- A name and a password are admitted to an account: every row of the catalogue has a name and a
root, the row is the first with the name in any case, the password is the one of the row where it
asks for one, and the root of the account is a directory with a `VOC`. -/
structure CatalogRoot.Admits (catalog : CatalogRoot) (accountName password : String)
    (row : GeminiAccountRow) : Prop where
  valid : ∃ accounts, catalog.accountsFile = .rows accounts ∧
    (∀ other ∈ accounts, other.name ≠ "" ∧ other.root ≠ "") ∧
      findAccountRow accounts accountName = some row
  verified : row.asksPassword → row.passwordHash = some password
  isDirectory : catalog.isDirectory (catalog.pickRoot row.root) = true
  hasVoc : catalog.hasVoc (catalog.pickRoot row.root) = true

/-- The session of an account. -/
def CatalogRoot.sessionOf (catalog : CatalogRoot) (row : GeminiAccountRow) : UserSession where
  pickRoot := catalog.pickRoot row.root
  username := row.name
  accountName := row.name

variable {catalog : CatalogRoot}

/-- A catalogue is valid when every row has a name and a root. -/
theorem firstInvalidAccountRowReason_eq_none {index : Nat} {accounts : List GeminiAccountRow} :
    firstInvalidAccountRowReason index accounts = none ↔
      ∀ row ∈ accounts, row.name ≠ "" ∧ row.root ≠ "" := by
  induction accounts generalizing index with
  | nil => simp [firstInvalidAccountRowReason]
  | cons row rest inductionHypothesis =>
      rw [firstInvalidAccountRowReason, List.forall_mem_cons]
      by_cases noName : row.name = ""
      · simp [noName]
      · by_cases noRoot : row.root = ""
        · simp [noName, noRoot]
        · simp [noName, noRoot, inductionHypothesis]

/-- A password is right when the account asks for none or it is the stored one. -/
theorem verifyPassword_eq_ok {row : GeminiAccountRow} {password : String} :
    row.verifyPassword password = .ok () ↔
      (row.asksPassword → row.passwordHash = some password) := by
  have stored := row.stored
  unfold GeminiAccountRow.verifyPassword GeminiAccountRow.asksPassword
  cases hash : row.passwordHash with
  | none => simp
  | some text =>
      rw [hash, Ne, Option.some.injEq] at stored
      by_cases skips : passwordPlaceholderSkipsVerify text
      · simp [skips]
      · by_cases empty : password = ""
        · simp [skips, empty, stored]
        · by_cases same : password = text
          · simp [skips, same, stored]
          · simp [skips, empty, same, Ne.symm same]

/-- An account opens when its root is a directory that has a dictionary. -/
theorem openAccount_eq_ok {row : GeminiAccountRow} {session : UserSession} :
    catalog.openAccount row = .ok session ↔
      catalog.isDirectory (catalog.pickRoot row.root) = true ∧
        catalog.hasVoc (catalog.pickRoot row.root) = true ∧ session = catalog.sessionOf row := by
  unfold CatalogRoot.openAccount
  by_cases isDirectory : catalog.isDirectory (catalog.pickRoot row.root)
  · by_cases hasVoc : catalog.hasVoc (catalog.pickRoot row.root)
    · simp [isDirectory, hasVoc, CatalogRoot.sessionOf, eq_comm]
    · simp [isDirectory, hasVoc]
  · simp [isDirectory]

/-- Who is let in is admitted by the catalogue, and to that row's session. -/
theorem authenticateAccount_eq_ok {accountName password : String} {session : UserSession} :
    catalog.authenticateAccount accountName password = .ok session ↔
      ∃ row, catalog.Admits accountName password row ∧ session = catalog.sessionOf row := by
  unfold CatalogRoot.authenticateAccount
  constructor
  · intro admitted
    split at admitted
    · cases admitted
    · cases admitted
    · next accounts isFile =>
        split at admitted
        · cases admitted
        · next valid =>
            split at admitted
            · cases admitted
            · next row found =>
                obtain ⟨_, verified, opened⟩ := bind_eq_ok.mp admitted
                obtain ⟨isDirectory, hasVoc, isSession⟩ := openAccount_eq_ok.mp opened
                exact ⟨row, ⟨⟨accounts, isFile, firstInvalidAccountRowReason_eq_none.mp valid,
                  found⟩, verifyPassword_eq_ok.mp verified, isDirectory, hasVoc⟩, isSession⟩
  · rintro ⟨row, ⟨⟨accounts, isFile, valid, found⟩, verified, isDirectory, hasVoc⟩, isSession⟩
    have opened := openAccount_eq_ok.mpr ⟨isDirectory, hasVoc, isSession⟩
    rw [isFile]
    simp only [@firstInvalidAccountRowReason_eq_none 0 _ |>.mpr valid, found]
    exact bind_eq_ok.mpr ⟨(), verifyPassword_eq_ok.mpr verified, opened⟩

/-! ## Attempts -/

/-- The lines of one attempt: a name, and a password where one is read. -/
structure Attempt where
  nameLine : List Char
  passwordLine : Option (List Char)

namespace Attempt

/-- The lines that an attempt reads. -/
def lines (attempt : Attempt) : List (List Char) := attempt.nameLine :: attempt.passwordLine.toList

/-- The password as it is compared. -/
def password (attempt : Attempt) : String :=
  (attempt.passwordLine.map fun line => String.ofList (trimTrailingAsciiWs line)).getD ""

/-- A password is read exactly when the line before it names an account that asks for one. -/
def Read (catalog : CatalogRoot) (attempt : Attempt) : Prop :=
  attempt.passwordLine.isSome =
    (catalog.rowOfLine attempt.nameLine).any fun named => named.2.asksPassword

/-- The account that an attempt is admitted to. -/
def AdmittedTo (catalog : CatalogRoot) (attempt : Attempt) (row : GeminiAccountRow) : Prop :=
  ∃ accountName, parseSingleUsernameLine (trimTrailingAsciiWs attempt.nameLine) =
    some accountName ∧ catalog.Admits accountName attempt.password row

end Attempt

/-- How the input ends: at a name, at a password, or at an attempt that is admitted. -/
inductive Ends (catalog : CatalogRoot) : List (List Char) → LoginResult → Prop
  | ended {out : String} : Ends catalog [] { session := none, out, rest := [] }
  | cutOff {line : List Char} {out : String}
      (asks : (catalog.rowOfLine line).any fun named => named.2.asksPassword) :
      Ends catalog [line] { session := none, out, rest := [] }
  | admitted {attempt : Attempt} {row : GeminiAccountRow} {out : String} {rest : List (List Char)}
      (read : attempt.Read catalog) (admitted : attempt.AdmittedTo catalog row) :
      Ends catalog attempt.lines { session := some (catalog.sessionOf row), out, rest }

/-- The row that a line names: the line is a valid name, and the catalogue has a row for it. -/
theorem rowOfLine_eq_some {line : List Char} {accountName : String} {row : GeminiAccountRow} :
    catalog.rowOfLine line = some (accountName, row) ↔
      parseSingleUsernameLine (trimTrailingAsciiWs line) = some accountName ∧
        ∃ accounts, catalog.accountsFile = .rows accounts ∧
          findAccountRow accounts accountName = some row := by
  have loaded (accounts : List GeminiAccountRow) :
      catalog.loadAccounts = some accounts ↔ catalog.accountsFile = .rows accounts := by
    unfold CatalogRoot.loadAccounts
    cases catalog.accountsFile <;> simp
  unfold CatalogRoot.rowOfLine
  simp only [Option.bind_eq_bind, Option.bind_eq_some_iff, loaded, Option.pure_def,
    Option.some.injEq, Prod.mk.injEq]
  constructor
  · rintro ⟨_, named, accounts, isFile, _, found, rfl, rfl⟩
    exact ⟨named, accounts, isFile, found⟩
  · rintro ⟨named, accounts, isFile, found⟩
    exact ⟨_, named, accounts, isFile, _, found, rfl, rfl⟩

/-- The session that an attempt gets. -/
def Attempt.session (catalog : CatalogRoot) (attempt : Attempt) : Option UserSession :=
  (catalog.rowOfLine attempt.nameLine).bind fun named =>
    (catalog.authenticateAccount named.1 attempt.password).toOption

/-- An attempt gives a session exactly when the catalogue admits it. -/
theorem Attempt.session_eq_some {attempt : Attempt} {session : UserSession} :
    attempt.session catalog = some session ↔
      ∃ row, attempt.AdmittedTo catalog row ∧ session = catalog.sessionOf row := by
  have admits (accountName : String) :
      (catalog.authenticateAccount accountName attempt.password).toOption = some session ↔
        catalog.authenticateAccount accountName attempt.password = .ok session := by
    cases catalog.authenticateAccount accountName attempt.password <;> simp [Except.toOption]
  unfold Attempt.session
  simp only [Option.bind_eq_some_iff, Prod.exists, rowOfLine_eq_some, admits,
    authenticateAccount_eq_ok]
  constructor
  · rintro ⟨accountName, _, ⟨named, -⟩, row, admitted, isSession⟩
    exact ⟨row, ⟨accountName, named, admitted⟩, isSession⟩
  · rintro ⟨row, ⟨accountName, named, admitted⟩, isSession⟩
    obtain ⟨accounts, isFile, -, found⟩ := admitted.valid
    exact ⟨accountName, row, ⟨named, accounts, isFile, found⟩, row, admitted, isSession⟩

/-- An attempt on the first lines of the input. -/
theorem runConsoleLogin_attempt {attempt : Attempt} (read : attempt.Read catalog)
    (rest : List (List Char)) :
    catalog.runConsoleLogin (attempt.lines ++ rest) =
      match attempt.session catalog with
      | some session => { session := some session, out := logonPlease ++ "\n", rest }
      | none => (catalog.runConsoleLogin rest).after (logonPlease ++ loginIncorrect) := by
  obtain ⟨nameLine, passwordLine⟩ := attempt
  unfold Attempt.Read at read
  rw [Attempt.lines, List.cons_append, CatalogRoot.runConsoleLogin, Attempt.session]
  rcases named : catalog.rowOfLine nameLine with _ | ⟨accountName, row⟩
  · rw [named, Option.any_none, Option.isSome_eq_false_iff, Option.isNone_iff_eq_none] at read
    rw [read]
    rfl
  · rw [named, Option.any_some] at read
    have password : readPasswordLineIfAccountRequires (some row) (passwordLine.toList ++ rest) =
        some (Attempt.password ⟨nameLine, passwordLine⟩, rest) := by
      unfold readPasswordLineIfAccountRequires
      rw [Option.any_some, ← read]
      cases passwordLine <;> rfl
    dsimp only
    split
    · next none =>
        rw [password] at none
        cases none
    · next found =>
        rw [password] at found
        cases found
        rw [Option.bind_some]
        cases catalog.authenticateAccount accountName
          (Attempt.password ⟨nameLine, passwordLine⟩) <;> rfl

/-- An attempt that is admitted ends the login. -/
theorem runConsoleLogin_admitted {attempt : Attempt} (read : attempt.Read catalog)
    {row : GeminiAccountRow} (admitted : attempt.AdmittedTo catalog row)
    (rest : List (List Char)) :
    catalog.runConsoleLogin (attempt.lines ++ rest) =
      { session := some (catalog.sessionOf row), out := logonPlease ++ "\n", rest } := by
  rw [runConsoleLogin_attempt read, Attempt.session_eq_some.mpr ⟨row, admitted, rfl⟩]

/-- An input that ends where a password is asked for ends the login without a session. -/
theorem runConsoleLogin_cutOff {line : List Char}
    (asks : (catalog.rowOfLine line).any fun named => named.2.asksPassword) :
    catalog.runConsoleLogin [line] = { session := none, out := logonPlease, rest := [] } := by
  rw [CatalogRoot.runConsoleLogin]
  rcases named : catalog.rowOfLine line with _ | ⟨accountName, row⟩
  · rw [named] at asks
    cases asks
  · rw [named, Option.any_some] at asks
    have noPassword : readPasswordLineIfAccountRequires (some row) [] = none := by
      rw [readPasswordLineIfAccountRequires, Option.any_some, if_pos asks]
    dsimp only
    split
    · rfl
    · next found =>
        rw [noPassword] at found
        cases found

/-- The input is at its end, or it goes on with an attempt. -/
theorem exists_attempt (line : List Char) (lines : List (List Char)) :
    (lines = [] ∧ (catalog.rowOfLine line).any fun named => named.2.asksPassword) ∨
      ∃ attempt : Attempt, ∃ rest, attempt.Read catalog ∧
        line :: lines = attempt.lines ++ rest := by
  by_cases asks : (catalog.rowOfLine line).any fun named => named.2.asksPassword
  · cases lines with
    | nil => exact .inl ⟨rfl, asks⟩
    | cons password rest => exact .inr ⟨⟨line, some password⟩, rest, asks.symm, rfl⟩
  · exact .inr ⟨⟨line, none⟩, lines, (Bool.eq_false_iff.mpr asks).symm, rfl⟩

/-- The refusals of a run, and how it ends. -/
structure Logon (catalog : CatalogRoot) (lines : List (List Char)) (result : LoginResult)
    (refused : List Attempt) (last : List (List Char)) : Prop where
  refusals : ∀ attempt ∈ refused,
    attempt.Read catalog ∧ ∀ row, ¬ attempt.AdmittedTo catalog row
  ends : Ends catalog last result
  input : lines = refused.flatMap Attempt.lines ++ last ++ result.rest
  /-- What is printed tells how many attempts were refused, and not why. -/
  printed : result.out =
    String.join (List.replicate refused.length (logonPlease ++ loginIncorrect)) ++
      logonPlease ++ if result.session.isSome then "\n" else ""

/-- A refused attempt before a login is one refusal more. -/
theorem Logon.refused {lines last : List (List Char)} {result : LoginResult}
    {attempts : List Attempt} (logon : Logon catalog lines result attempts last)
    {attempt : Attempt} (read : attempt.Read catalog)
    (refused : ∀ row, ¬ attempt.AdmittedTo catalog row) :
    Logon catalog (attempt.lines ++ lines) (result.after (logonPlease ++ loginIncorrect))
      (attempt :: attempts) last where
  refusals := List.forall_mem_cons.mpr ⟨⟨read, refused⟩, logon.refusals⟩
  ends := by
    cases logon.ends with
    | ended => exact .ended
    | cutOff asks => exact .cutOff asks
    | admitted isRead admitted => exact .admitted isRead admitted
  input := by
    rw [logon.input, List.flatMap_cons]
    simp [LoginResult.after]
  printed := by
    rw [LoginResult.after, logon.printed]
    simp [List.replicate_succ, String.append_assoc]

/-- A run of the console: attempts that are refused, and then one that is admitted or the end of
the input. -/
theorem runConsoleLogin_logon (catalog : CatalogRoot) (lines : List (List Char)) :
    ∃ refused last, Logon catalog lines (catalog.runConsoleLogin lines) refused last := by
  induction size : lines.length using Nat.strong_induction_on generalizing lines with
  | _ count inductionHypothesis =>
      cases lines with
      | nil =>
          refine ⟨[], [], ?_⟩
          rw [CatalogRoot.runConsoleLogin]
          exact ⟨List.forall_mem_nil _, .ended, rfl, by simp [String.join]⟩
      | cons line others =>
          rcases exists_attempt line others with ⟨rfl, asks⟩ | ⟨attempt, rest, read, isLines⟩
          · refine ⟨[], [line], ?_⟩
            rw [runConsoleLogin_cutOff asks]
            exact ⟨List.forall_mem_nil _, .cutOff asks, rfl, by simp [String.join]⟩
          · have shorter : rest.length < count := by
              rw [← size, isLines, List.length_append, Attempt.lines, List.length_cons]
              omega
            rw [isLines]
            by_cases admitted : ∃ row, attempt.AdmittedTo catalog row
            · obtain ⟨row, admitted⟩ := admitted
              refine ⟨[], attempt.lines, ?_⟩
              rw [runConsoleLogin_admitted read admitted]
              exact ⟨List.forall_mem_nil _, .admitted read admitted, rfl, by simp [String.join]⟩
            · push Not at admitted
              obtain ⟨refused, last, logon⟩ := inductionHypothesis _ shorter rest rfl
              refine ⟨attempt :: refused, last, ?_⟩
              have none : attempt.session catalog = none := by
                rw [Option.eq_none_iff_forall_ne_some]
                intro session got
                obtain ⟨row, isAdmitted, -⟩ := Attempt.session_eq_some.mp got
                exact admitted row isAdmitted
              rw [runConsoleLogin_attempt read, none]
              exact logon.refused read admitted

/-- A session that is got was got by the last attempt. -/
theorem Logon.exists_admitted {lines last : List (List Char)} {result : LoginResult}
    {refused : List Attempt} {session : UserSession}
    (logon : Logon catalog lines result refused last)
    (entered : result.session = some session) :
    ∃ attempt : Attempt, ∃ row, last = attempt.lines ∧ attempt.Read catalog ∧
      attempt.AdmittedTo catalog row ∧ session = catalog.sessionOf row := by
  cases logon.ends with
  | ended => cases entered
  | cutOff => cases entered
  | @admitted attempt row _ rest isRead admitted =>
      cases entered
      exact ⟨attempt, row, rfl, isRead, admitted, rfl⟩

end Gemini.Login
