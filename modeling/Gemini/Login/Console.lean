import Gemini.Login.LoginService

/-!
# The console of a process

A process logs a user on, runs his commands until he logs off, and logs the next one on. The first
logon may name its account by itself. `LOGTO` goes to another account without logging off. However
a session is got, its catalogue admits it, and a password that it asks for is a line that was read.
-/

namespace Gemini.Login

open Gemini.PickFS (FileSystem Root World isValidName)
open Gemini.Semantics.Program (exec)

/-- What a login sees of the machine at one moment. -/
structure Host where
  catalog : CatalogRoot
  world : World
  /-- The root of the shell before anybody has logged on. -/
  pickRoot : Root
  geminiAutoLogon : Option String
  geminiAutoLogin : Option String

/-- Whether a logon is the first one of a port: only then an account may log on by itself. -/
inductive CatalogLoginPhase where
  | ColdStartPortInit
  | InteractiveOnly
deriving DecidableEq

namespace Host

variable (host : Host)

/-- The token of an automatic logon, if it is a name that may log on. -/
def autoLogonToken (token : String) : Option String :=
  if isValidName token && !reservedLogonToken token then some token else none

/-- `readAutoLogonAccountIdFromMd`: an error of the file system counts as no record. -/
def readAutoLogonAccountIdFromMd : Option String :=
  match (exec (FileSystem.read { root := host.pickRoot } "MD" "AUTO-LOGON") host.world).1 with
  | .ok (some record) => autoLogonToken (firstLineFromRecordBody record.value)
  | _ => none

/-- `readAutoLogonAccountIdFromEnv`: a variable that is empty counts as unset. -/
def readAutoLogonAccountIdFromEnv : Option String := do
  let isSet := fun value => value ≠ ""
  autoLogonToken (← (host.geminiAutoLogon.filter isSet).or (host.geminiAutoLogin.filter isSet))

/-- The account that logs on by itself: from the record first, then from the environment. -/
def autoName : Option String :=
  host.readAutoLogonAccountIdFromMd.or host.readAutoLogonAccountIdFromEnv

/-- The row of an account, none when the catalogue cannot be read. -/
def rowOf (accountName : String) : Option GeminiAccountRow :=
  host.catalog.loadAccounts.bind fun accounts => findAccountRow accounts accountName

/-- `runCatalogLogin`: on a port's first logon the automatic account is tried once, after that names
are asked for. -/
def runCatalogLogin (phase : CatalogLoginPhase) (lines : List (List Char)) : LoginResult :=
  match phase, host.autoName with
  | .ColdStartPortInit, some accountName =>
      let echoed := logonPlease ++ accountName ++ "\n"
      match readPasswordLineIfAccountRequires (host.rowOf accountName) lines with
      | none => { session := none, out := echoed, rest := [] }
      | some (password, rest) =>
          match host.catalog.authenticateAccount accountName password with
          | .ok session => { session := some session, out := echoed ++ "\n", rest }
          | .error _ => (host.catalog.runConsoleLogin rest).after (echoed ++ loginIncorrect)
  | _, _ => host.catalog.runConsoleLogin lines

end Host

/-! ## The process -/

/-- A process: who is logged on, how the next logon is done, and the lines not yet read. -/
structure Console where
  session : Option UserSession := none
  phase : CatalogLoginPhase := .ColdStartPortInit
  unread : List (List Char)
  ended : Bool := false

/-- What a process does next. A command other than the two may read any number of lines. -/
inductive Action where
  | logon (host : Host)
  | logto (host : Host) (tokens : List String)
  | logoff (tokens : List String)
  | command (linesRead : Nat)

namespace Console

/-- `cmdLogto`, and what it prints. -/
def cmdLogto (console : Console) (host : Host) (tokens : List String) : String × Console :=
  if console.session.isNone then ("Not logged in.\n", console)
  else
    match tokens with
    | [_, accountName] =>
        match host.catalog.loadAccounts with
        | none => ("Cannot read ACCOUNTS.json.\n", console)
        | some accounts =>
            match findAccountRow accounts accountName with
            | none => ("Unknown account.\n", console)
            | some row =>
                match readPasswordLineIfAccountRequires (some row) console.unread with
                | none => ("EOF\n", { console with unread := [] })
                | some (password, unread) =>
                    match host.catalog.authenticateAccount accountName password with
                    | .ok session => ("", { console with session := some session, unread })
                    | .error message => (message, { console with unread })
    | _ => ("LOGTO requires an account name\n", console)

/-- `cmdLogoff`, and what it prints. -/
def cmdLogoff (console : Console) (tokens : List String) : String × Console :=
  if tokens.length ≠ 1 then ("LOGOFF takes no arguments\n", console)
  else if console.session.isNone then ("Not logged in.\n", console)
  else ("Logged off.\n", { console with session := none })

/-- One step of a process. A logon is only made when nobody is logged on, and commands are only
run when somebody is. -/
def step (console : Console) (action : Action) : String × Console :=
  if console.ended then ("", console)
  else
    match console.session, action with
    | none, .logon host =>
        let login := host.runCatalogLogin console.phase console.unread
        (login.out, {
          session := login.session, phase := .InteractiveOnly, unread := login.rest,
          ended := login.session.isNone })
    | some _, .logto host tokens => console.cmdLogto host tokens
    | some _, .logoff tokens => console.cmdLogoff tokens
    | some _, .command linesRead => ("", { console with unread := console.unread.drop linesRead })
    | _, _ => ("", console)

/-- The process after a list of actions. -/
def run (console : Console) (actions : List Action) : Console :=
  actions.foldl (fun console action => (console.step action).2) console

end Console

/-! ## Every session is admitted -/

/-- A session comes from a host: its catalogue admits a name to the account, and a password that
the account asks for is one of the lines. -/
def Admitted (lines : List (List Char)) (host : Host) (session : UserSession) : Prop :=
  ∃ accountName password row, host.catalog.Admits accountName password row ∧
    session = host.catalog.sessionOf row ∧
      (row.asksPassword → ∃ line ∈ lines, password = String.ofList (trimTrailingAsciiWs line))

/-- More lines read take no admission back. -/
theorem Admitted.mono {lines more : List (List Char)} {host : Host} {session : UserSession}
    (admitted : Admitted lines host session) (subset : lines ⊆ more) :
    Admitted more host session := by
  obtain ⟨accountName, password, row, admits, isSession, typed⟩ := admitted
  refine ⟨accountName, password, row, admits, isSession, fun asks => ?_⟩
  obtain ⟨line, member, isPassword⟩ := typed asks
  exact ⟨line, subset member, isPassword⟩

/-- What reading a password does to the lines. -/
theorem readPassword_eq_some {row : Option GeminiAccountRow} {lines rest : List (List Char)}
    {password : String}
    (read : readPasswordLineIfAccountRequires row lines = some (password, rest)) :
    ∃ typed, lines = typed ++ rest ∧ (row.any GeminiAccountRow.asksPassword →
      ∃ line ∈ typed, password = String.ofList (trimTrailingAsciiWs line)) := by
  unfold readPasswordLineIfAccountRequires at read
  split at read
  · cases lines with
    | nil => cases read
    | cons line others =>
        cases read
        exact ⟨[line], rfl, fun _ => ⟨line, List.mem_singleton_self line, rfl⟩⟩
  · next asksNot =>
      cases read
      exact ⟨[], rfl, fun asks => absurd asks asksNot⟩

/-- The lines that a login reads, and who it admits. -/
structure Sound (host : Host) (lines : List (List Char)) (result : LoginResult)
    (read : List (List Char)) : Prop where
  input : lines = read ++ result.rest
  admitted : ∀ session, result.session = some session → Admitted read host session

/-- A password that an account asks for is on the second line of the attempt. -/
theorem Attempt.admitted {host : Host} {attempt : Attempt} {row : GeminiAccountRow}
    (read : attempt.Read host.catalog) (admitted : attempt.AdmittedTo host.catalog row) :
    Admitted attempt.lines host (host.catalog.sessionOf row) := by
  obtain ⟨accountName, named, admits⟩ := admitted
  refine ⟨accountName, attempt.password, row, admits, rfl, fun asks => ?_⟩
  obtain ⟨accounts, isFile, -, found⟩ := admits.valid
  rw [Attempt.Read, rowOfLine_eq_some.mpr ⟨named, accounts, isFile, found⟩, Option.any_some,
    asks] at read
  obtain ⟨line, isLine⟩ := Option.isSome_iff_exists.mp read
  refine ⟨line, ?_, ?_⟩
  · rw [Attempt.lines, isLine]
    exact List.mem_cons_of_mem _ (List.mem_singleton_self line)
  · rw [Attempt.password, isLine]
    rfl

/-- A login at the console reads a first part of the lines, and whom it admits these lines admit. -/
theorem runConsoleLogin_sound (host : Host) (lines : List (List Char)) :
    ∃ read, Sound host lines (host.catalog.runConsoleLogin lines) read := by
  obtain ⟨refused, last, logon⟩ := runConsoleLogin_logon host.catalog lines
  refine ⟨refused.flatMap Attempt.lines ++ last, logon.input, fun session entered => ?_⟩
  obtain ⟨attempt, row, rfl, isRead, admitted, rfl⟩ := logon.exists_admitted entered
  exact (attempt.admitted isRead admitted).mono (List.subset_append_right _ _)

/-- A row is found and its password is read before an account is entered. -/
theorem admitted_of_authenticate {host : Host} {accountName password : String}
    {lines rest : List (List Char)} {session : UserSession}
    (read : readPasswordLineIfAccountRequires (host.rowOf accountName) lines =
      some (password, rest))
    (entered : host.catalog.authenticateAccount accountName password = .ok session) :
    ∃ typed, lines = typed ++ rest ∧ Admitted typed host session := by
  obtain ⟨row, admits, isSession⟩ := authenticateAccount_eq_ok.mp entered
  obtain ⟨typed, isLines, isPassword⟩ := readPassword_eq_some read
  obtain ⟨accounts, isFile, -, found⟩ := admits.valid
  have isRow : host.rowOf accountName = some row := by
    rw [Host.rowOf, CatalogRoot.loadAccounts, isFile]
    exact found
  rw [isRow] at isPassword
  exact ⟨typed, isLines, accountName, password, row, admits, isSession, isPassword⟩

/-- So does a logon with an automatic account. -/
theorem runCatalogLogin_sound (host : Host) (phase : CatalogLoginPhase)
    (lines : List (List Char)) :
    ∃ read, Sound host lines (host.runCatalogLogin phase lines) read := by
  unfold Host.runCatalogLogin
  split
  · next accountName automatic =>
      dsimp only
      split
      · exact ⟨lines, (List.append_nil lines).symm, fun session entered => by cases entered⟩
      · next password rest read =>
          split
          · next session entered =>
              obtain ⟨typed, isLines, admitted⟩ := admitted_of_authenticate read entered
              refine ⟨typed, isLines, fun other same => ?_⟩
              cases same
              exact admitted
          · obtain ⟨typed, isLines, -⟩ := readPassword_eq_some read
            obtain ⟨later, sound⟩ := runConsoleLogin_sound host rest
            refine ⟨typed ++ later, ?_, fun session entered => ?_⟩
            · rw [isLines, List.append_assoc]
              exact congrArg (typed ++ ·) sound.input
            · exact (sound.admitted session entered).mono (List.subset_append_right typed later)
  · exact runConsoleLogin_sound host lines

/-- The host that an action asks. -/
def Action.host? : Action → Option Host
  | .logon host => some host
  | .logto host _ => some host
  | .logoff _ => none
  | .command _ => none

namespace Console

/-- Where a process is after some hosts have been asked and some lines read. -/
structure Reached (lines : List (List Char)) (console : Console) (hosts : List Host)
    (read : List (List Char)) : Prop where
  input : lines = read ++ console.unread
  admitted : ∀ session, console.session = some session →
    ∃ host ∈ hosts, Admitted read host session

variable {lines read : List (List Char)} {console : Console} {hosts : List Host}

/-- More lines are read, and the session stays. -/
theorem Reached.reads (reached : Reached lines console hosts read) {typed unread : List (List Char)}
    (isUnread : console.unread = typed ++ unread) (next : Console)
    (same : next.session = console.session) (isNext : next.unread = unread) :
    Reached lines next hosts (read ++ typed) where
  input := by rw [reached.input, isUnread, isNext, List.append_assoc]
  admitted session entered := by
    obtain ⟨host, member, admitted⟩ := reached.admitted session (same ▸ entered)
    exact ⟨host, member, admitted.mono (List.subset_append_left read typed)⟩

/-- More lines are read, and a host admits to the session. -/
theorem Reached.enters (reached : Reached lines console hosts read) {host : Host}
    {typed : List (List Char)} {next : Console} (isUnread : console.unread = typed ++ next.unread)
    (entered : ∀ session, next.session = some session → Admitted typed host session) :
    Reached lines next (hosts ++ [host]) (read ++ typed) where
  input := by rw [reached.input, isUnread, List.append_assoc]
  admitted session isSession :=
    ⟨host, by simp, (entered session isSession).mono (List.subset_append_right read typed)⟩

/-- Asking another host changes nothing of where a process is. -/
theorem Reached.asks (reached : Reached lines console hosts read) (host : Host) :
    Reached lines console (hosts ++ [host]) read where
  input := reached.input
  admitted session entered := by
    obtain ⟨other, member, admitted⟩ := reached.admitted session entered
    exact ⟨other, List.mem_append_left _ member, admitted⟩

/-- `LOGTO` reads a first part of the unread lines, and its session is admitted. -/
theorem reached_cmdLogto (reached : Reached lines console hosts read) (host : Host)
    (tokens : List String) :
    ∃ typed, Reached lines (console.cmdLogto host tokens).2 (hosts ++ [host]) (read ++ typed) := by
  have stays : ∃ typed, Reached lines console (hosts ++ [host]) (read ++ typed) :=
    ⟨[], by simpa using reached.asks host⟩
  unfold cmdLogto
  split
  · exact stays
  · split
    · next accountName =>
        split
        · exact stays
        · next accounts loaded =>
            split
            · exact stays
            · next row found =>
                have isRow : host.rowOf accountName = some row := by
                  rw [Host.rowOf, loaded]
                  exact found
                split
                · exact ⟨console.unread,
                    (reached.asks host).reads (List.append_nil _).symm _ rfl rfl⟩
                · next password unread isRead =>
                    rw [← isRow] at isRead
                    split
                    · next session entered =>
                        obtain ⟨typed, isLines, admitted⟩ := admitted_of_authenticate isRead entered
                        refine ⟨typed, reached.enters isLines fun other same => ?_⟩
                        cases same
                        exact admitted
                    · obtain ⟨typed, isLines, -⟩ := readPassword_eq_some isRead
                      exact ⟨typed, (reached.asks host).reads isLines _ rfl rfl⟩
    · exact stays

/-- `LOGOFF` reads nothing and admits nobody. -/
theorem reached_cmdLogoff (reached : Reached lines console hosts read) (tokens : List String) :
    Reached lines (console.cmdLogoff tokens).2 hosts read := by
  unfold cmdLogoff
  split
  · exact reached
  · split
    · exact reached
    · exact ⟨reached.input, fun session entered => by cases entered⟩

/-- One action of a process: the lines it reads, and the host it asks. -/
theorem reached_step (reached : Reached lines console hosts read) (action : Action) :
    ∃ typed, Reached lines (console.step action).2 (hosts ++ action.host?.toList)
      (read ++ typed) := by
  have stays : ∃ typed, Reached lines console (hosts ++ action.host?.toList) (read ++ typed) := by
    refine ⟨[], ?_⟩
    rw [List.append_nil]
    cases action.host? with
    | none => simpa using reached
    | some host => exact reached.asks host
  unfold step
  split
  · exact stays
  · split
    · next host _ =>
        obtain ⟨typed, sound⟩ := runCatalogLogin_sound host console.phase console.unread
        exact ⟨typed, reached.enters sound.input sound.admitted⟩
    · next host tokens _ => exact reached_cmdLogto reached host tokens
    · next tokens _ =>
        refine ⟨[], ?_⟩
        simpa [Action.host?] using reached_cmdLogoff reached tokens
    · next linesRead _ =>
        refine ⟨console.unread.take linesRead, ?_⟩
        simpa [Action.host?] using
          reached.reads (List.take_append_drop linesRead console.unread).symm
            { console with unread := console.unread.drop linesRead } rfl rfl
    · exact stays

/-- Whatever a process does, the session that it is left with is one that a host it asked admits,
and a password that its account asks for is among the lines that were read. -/
theorem run_reached (actions : List Action) (lines : List (List Char)) :
    ∃ read, Reached lines (({ unread := lines } : Console).run actions)
      (actions.filterMap Action.host?) read := by
  induction actions using List.reverseRecOn with
  | nil => exact ⟨[], rfl, fun session entered => by cases entered⟩
  | append_singleton actions action inductionHypothesis =>
      obtain ⟨read, reached⟩ := inductionHypothesis
      obtain ⟨typed, next⟩ := reached_step reached action
      refine ⟨read ++ typed, ?_⟩
      have hosts : (actions ++ [action]).filterMap Action.host? =
          actions.filterMap Action.host? ++ action.host?.toList := by
        rw [List.filterMap_append]
        cases action <;> rfl
      rw [run, List.foldl_append, hosts]
      exact next

end Console

end Gemini.Login
