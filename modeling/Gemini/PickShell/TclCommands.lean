import Gemini.PickShell.Tokenizer
import Gemini.PickVoc.VerbNames
import Gemini.Proc.ProcInterpreter

/-!
# TCL command lines

A TCL line is split into words, its first word is resolved to a verb, and the command of this verb
gets the words. A line of a PROC has its first word resolved before the line is given to the TCL
commands, which resolve it again: it runs the command that the same line runs when it is typed.
-/

namespace Gemini.PickShell

open Gemini.Semantics Program
open Gemini.PickFS (FileSystem)
open Gemini.PickVoc (VocTable VocState VocM resolveVerbName ensureLoaded answer verbName
  verbName_resolved exec_answer_of_loaded upperAscii)
open Gemini.Proc (SessionAt)

/-! ## The commands -/

/-- A shell: its VOC, what it has written, and all that its commands work on. -/
structure TclState (Rest : Type) where
  voc : VocState
  output : String := ""
  rest : Rest

/-- What a command does. It returns whether the shell is left. -/
abbrev TclM (Rest Value : Type) := Program (TclState Rest) String Value

/-- The commands that are registered, and what they and the shell find in the session. -/
structure TclHost (Rest : Type) where
  fileSystem : Rest → FileSystem
  /-- `resolveSystemVariable` -/
  sessionAt : Rest → SessionAt
  /-- The assembler or the BASIC shell takes the line while it is active. -/
  activeShell : Rest → Option (List Char → TclM Rest Unit)
  tclCommands : String → Option (List String → TclM Rest Bool)

/-- The variables that a session has values for. -/
def isSessionSystemVariableName (name : String) : Bool :=
  upperAscii name ∈ ["@USERNO", "@ACCOUNT", "@LOGNAME", "@DEFDATA"]

/-- A word that names such a variable is replaced by its value. -/
def expandSessionAtOperand (sessionAt : SessionAt) (token : String) : String :=
  if token.toList.head? = some '@' ∧ isSessionSystemVariableName token then
    (sessionAt token).getD token
  else token

/-- The words after a verb. The first one after these verbs is a name. -/
def expandSessionAtOperands (sessionAt : SessionAt) (verb : String) (operands : List String) :
    List String :=
  if upperAscii verb ∈ ["SET", "GET", "UNSET", "RUN", "PROC"] then
    operands.take 1 ++ (operands.drop 1).map (expandSessionAtOperand sessionAt)
  else operands.map (expandSessionAtOperand sessionAt)

section Commands

variable {Rest : Type} (host : TclHost Rest)

/-- Print a text. -/
def write (text : String) : TclM Rest Unit :=
  modify fun state => { state with output := state.output ++ text }

/-- The verb of a word, by the VOC of the session. -/
def resolveVerb (token : String) : TclM Rest String := do
  let fileSystem := host.fileSystem (← get).rest
  Program.zoom TclState.voc (fun state voc => { state with voc }) (resolveVerbName fileSystem token)

/-- `handleTclCommand`: the verb is resolved, the operands expanded and the command looked up. -/
def handleTclCommand (verb : String) (operands : List String) : TclM Rest Bool := do
  let resolved ← resolveVerb host verb
  let verb := upperAscii resolved
  let work := verb :: expandSessionAtOperands (host.sessionAt (← get).rest) verb operands
  match host.tclCommands verb with
  | none =>
      write s!"Unknown command: {verb}\n"
      return false
  | some command => command work

/-- A line that is typed. -/
def handleLine (line : List Char) : TclM Rest Bool := do
  match host.activeShell (← get).rest with
  | some shell =>
      shell line
      return false
  | none =>
      let parsed := tokenize line
      match parsed.error with
      | some error =>
          write s!"Error: {error}\n"
          return false
      | none =>
          match parsed.tokens with
          | [] => return false
          | verb :: operands => handleTclCommand host verb operands

/-- A line of a PROC. It does not leave the shell. -/
def executeProcTclCommand (line : List Char) : TclM Rest Unit := do
  let parsed := tokenize line
  match parsed.error with
  | some error => write s!"Error: {error}\n"
  | none =>
      match parsed.tokens with
      | [] => return
      | token :: operands =>
          let verb ← resolveVerb host token
          let _ ← handleTclCommand host verb operands

end Commands

/-! ## Resolving twice -/

section Resolving

variable {Rest : Type} {host : TclHost Rest} {fileSystem : FileSystem} {state after : VocState}

/-- An answer from the table, after it has been loaded. -/
theorem exec_answer {Answer : Type} (ask : VocTable → Answer) :
    exec (answer fileSystem ask) state =
      match exec (ensureLoaded fileSystem) state with
      | (.ok _, after) => (.ok (ask after.resolver.table), after)
      | (.error error, after) => (.error error, after) := by
  rw [answer, exec_bind]
  rcases exec (ensureLoaded fileSystem) state with ⟨error | _, after⟩ <;> rfl

/-- What is loaded stays loaded. -/
theorem loaded_of_ensureLoaded (done : exec (ensureLoaded fileSystem) state = (.ok (), after)) :
    after.resolver.loaded = true := by
  unfold ensureLoaded at done
  rw [exec_bind, exec_get] at done
  dsimp only at done
  split at done
  · next loaded =>
      cases done
      exact loaded
  · obtain ⟨_, middle, -, last⟩ := exec_bind_eq_ok.mp done
    cases last
    rfl

/-- The table that verbs are resolved by has no more entries than `resolveVerbName` has hops. -/
def FewEntries (fileSystem : FileSystem) (state : VocState) : Prop :=
  ∀ after, exec (ensureLoaded fileSystem) state = (.ok (), after) →
    after.resolver.table.keys.length < 64

/-- The second answer is the first one, and it changes nothing. -/
theorem exec_resolveVerbName_again {token verb : String} (few : FewEntries fileSystem state)
    (resolved : exec (resolveVerbName fileSystem token) state = (.ok verb, after)) :
    exec (resolveVerbName fileSystem verb) after = (.ok verb, after) := by
  unfold resolveVerbName at resolved ⊢
  rw [exec_answer] at resolved
  rcases done : exec (ensureLoaded fileSystem) state with ⟨error | _, loaded⟩ <;>
    rw [done] at resolved <;> cases resolved
  rw [exec_answer_of_loaded (loaded_of_ensureLoaded done), verbName_resolved (few _ done)]

/-- A verb is resolved as the `VOC` resolves it. -/
theorem exec_resolveVerb (token : String) (shell : TclState Rest) :
    exec (resolveVerb host token) shell =
      ((exec (resolveVerbName (host.fileSystem shell.rest) token) shell.voc).1,
        { shell with
          voc := (exec (resolveVerbName (host.fileSystem shell.rest) token) shell.voc).2 }) := by
  rw [resolveVerb, exec_bind, exec_get]
  exact exec_zoom TclState.voc _ _ shell

/-- A command gets the same verb when the verb was resolved before. -/
theorem exec_handleTclCommand_resolved (token : String) (operands : List String)
    (shell : TclState Rest) (few : FewEntries (host.fileSystem shell.rest) shell.voc) :
    exec (resolveVerb host token >>= fun verb => handleTclCommand host verb operands) shell =
      exec (handleTclCommand host token operands) shell := by
  rw [handleTclCommand, exec_bind, exec_bind, exec_resolveVerb]
  rcases resolved : exec (resolveVerbName (host.fileSystem shell.rest) token) shell.voc with
    ⟨error | verb, voc⟩
  · rfl
  · dsimp only
    rw [handleTclCommand, exec_bind, exec_resolveVerb, exec_resolveVerbName_again few resolved]

/-- A verb that was resolved stands for itself, so that a line of a PROC, whose verb is resolved
twice, does what the same line does at the TCL prompt. -/
theorem executeProcTclCommand_eq_handleLine :
    (∀ table : VocTable, table.keys.length < 64 →
      ∀ token, verbName table (verbName table token) = verbName table token) ∧
    ∀ (shell : TclState Rest) (line : List Char), host.activeShell shell.rest = none →
      FewEntries (host.fileSystem shell.rest) shell.voc →
      exec (executeProcTclCommand host line) shell =
        exec (handleLine host line >>= fun _ => pure ()) shell := by
  refine ⟨fun table few token => verbName_resolved few token, fun shell line prompt few => ?_⟩
  unfold executeProcTclCommand handleLine
  rw [exec_bind _ _ shell, exec_bind _ _ shell, exec_get]
  dsimp only
  rw [prompt]
  dsimp only
  cases (tokenize line).error with
  | some error => rfl
  | none =>
      dsimp only
      cases (tokenize line).tokens with
      | nil => rfl
      | cons token operands =>
          dsimp only
          rw [← exec_handleTclCommand_resolved token operands shell few, ← exec_bind, bind_assoc]

/-- An entry that gives a verb, and one that leads from the verb back to it. -/
def cyclicTable : VocTable :=
  (∅ : VocTable).insert "T" { type := .V, attribute2 := "foo", attribute3 := "" } |>.insert "FOO"
    { type := .Q, attribute2 := "t", attribute3 := "" }

/-- A shell without commands. -/
def idleHost : TclHost Unit where
  fileSystem _ := { root := "" }
  sessionAt _ _ := none
  activeShell _ := none
  tclCommands _ := none

/-- A shell with this table. -/
def cyclicShell : TclState Unit where
  voc := { resolver := { table := cyclicTable, loaded := true }, files := {} }
  rest := ()

/-- Its table has few entries. -/
theorem fewEntries_cyclicShell :
    FewEntries (idleHost.fileSystem cyclicShell.rest) cyclicShell.voc := by
  intro after loaded
  have kept : exec (ensureLoaded (idleHost.fileSystem cyclicShell.rest)) cyclicShell.voc =
      (.ok (), cyclicShell.voc) := rfl
  rw [kept] at loaded
  cases loaded
  decide

/-- A verb and a line that go around a cycle of entries. -/
theorem cyclic_verb_resolved_twice :
    verbName cyclicTable (verbName cyclicTable "T") = verbName cyclicTable "T" ∧
      exec (executeProcTclCommand idleHost "t 1".toList) cyclicShell =
        exec (handleLine idleHost "t 1".toList >>= fun _ => pure ()) cyclicShell :=
  ⟨(@executeProcTclCommand_eq_handleLine Unit idleHost).1 cyclicTable (by decide) "T",
    executeProcTclCommand_eq_handleLine.2 cyclicShell "t 1".toList rfl fewEntries_cyclicShell⟩

end Resolving

end Gemini.PickShell
