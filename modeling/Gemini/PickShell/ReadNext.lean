import Gemini.PickShell.SelectCommand
import Gemini.Proc.SessionNames
import Gemini.Semantics.Run

/-!
# The active list of a session

A `SELECT` makes a list current, and the `READNEXT`s of a PROC walk along it. The list is kept in
the session and the place in it in the shell: a `SELECT` of a PROC and the start of a PROC set the
place back, and a `SELECT` of TCL and the end of a PROC do not.
-/

namespace Gemini.PickShell.ReadNext

open Gemini.English (Result)
open Gemini.Proc (ProcAction ProcReply ProcState Script SessionAt prepare)
open Gemini.Semantics (Always EachStep always_of_invariant run)

/-! ## The list and the place in it -/

/-- The list that a session keeps, and the place that the shell keeps. -/
structure WalkedList extends ActiveList where
  procReadNextIndex : ℕ := 0

namespace WalkedList

/-- `setActiveList` on the list of a session; the cursor stays. -/
def setActiveList (list : WalkedList) (ids : List String) (sourceFile : String) : WalkedList :=
  { list with toActiveList := list.toActiveList.setActiveList ids sourceFile }

/-- Let the next PROC read from the start. -/
def resetProcReadNextCursor (list : WalkedList) : WalkedList :=
  { list with procReadNextIndex := 0 }

/-- `result` is what the ENGLISH service returns. -/
def procSelect (list : WalkedList) (fileName : String) (result : Except String (List String)) :
    Except String WalkedList :=
  result.map fun selectedIds => (list.setActiveList selectedIds fileName).resetProcReadNextCursor

/-- `procReadNext`: the next id, none at the end, and an error without a list. -/
def procReadNext (list : WalkedList) : Except String (Option String × WalkedList) :=
  if list.activeListSourceFile.isNone then .error "No active list"
  else if list.activeList.length ≤ list.procReadNextIndex then .ok (none, list)
  else
    .ok (list.activeList[list.procReadNextIndex]?,
      { list with procReadNextIndex := list.procReadNextIndex + 1 })

/-- The list after `cmdSelect` at the TCL prompt or in a TCL statement. -/
def cmdSelect (list : WalkedList) (tokens : List String) (result : Except String (List String)) :
    WalkedList :=
  { list with
    toActiveList := listAfter (fun _ => result.map (Result.mk [])) tokens list.toActiveList }

end WalkedList

/-! ## PROCs that run -/

/-- A PROC that runs. Its `READNEXT`s have `returned` these ids since the latest selection. -/
structure ProcRun where
  script : Script
  state : ProcState
  returned : List String := []

/-- The innermost PROC stands first; `selected` is the list of the latest selection. -/
structure Session where
  list : WalkedList := {}
  selected : Option (List String) := none
  runs : List ProcRun := []

/-- The command of a TCL line, with what the session gives for it. -/
inductive Command where
  | select (tokens : List String) (result : Except String (List String))
  | proc (tokens : List String) (scriptText : Option (List (List Char)))
  /-- A command that leaves the list as it is. -/
  | other

/-- What a session gives a PROC for one turn. -/
structure Given where
  sessionAt : SessionAt := fun _ => none
  reply : ProcReply := .done none
  selected : Except String (List String) := .error ""
  command : Command := .other

/-- The name of a script stands after the verb, without an extension. -/
def procName (tokens : List String) : Bool :=
  match tokens with
  | _ :: name :: _ => name ≠ "" && '.' ∉ name.toList
  | _ => false

/-- A `SELECT` makes a list current when a word stands after the verb and the query runs. -/
def selects (tokens : List String) (result : Except String (List String)) : Bool :=
  2 ≤ tokens.length && result.isOk

namespace Session

/-- A selection has made a list current. -/
def select (session : Session) (list : WalkedList) : Session where
  list := list
  selected := some list.activeList
  runs := session.runs.map fun run => { run with returned := [] }

/-- The part of `cmdProc` before the script runs. -/
def cmdProc (session : Session) (tokens : List String) (scriptText : Option (List (List Char))) :
    Session :=
  match scriptText with
  | none => session
  | some lines =>
      if procName tokens then
        let session := { session with list := session.list.resetProcReadNextCursor }
        match prepare lines with
        | .error _ => session
        | .ok script =>
            let state := { variableMap := Proc.parameters (tokens.drop 2) }
            { session with runs := { script, state } :: session.runs }
      else session

/-- A command as the shell runs it. -/
def execute (session : Session) : Command → Session
  | .select tokens result =>
      let list := session.list.cmdSelect tokens result
      if selects tokens result then session.select list else { session with list }
  | .proc tokens scriptText => session.cmdProc tokens scriptText
  | .other => session

/-- A turn of the innermost PROC. -/
def proceed (session : Session) (run : ProcRun) (outer : List ProcRun) (given : Given) : Session :=
  let goesOn state := { session with runs := { run with state } :: outer }
  match Proc.turn run.script given.sessionAt run.state with
  | .tcl _ state => (goesOn state).execute given.command
  | .select fileName state =>
      match session.list.procSelect fileName given.selected with
      | .error _ => { session with runs := outer }
      | .ok list => (goesOn state).select list
  | .readNext resume =>
      match session.list.procReadNext with
      | .error _ => { session with runs := outer }
      | .ok (nextId, list) =>
          let returned := run.returned ++ [nextId.getD ""]
          { session with list, runs := { run with state := resume nextId, returned } :: outer }
  | action =>
      match action.after given.reply with
      | none => { session with runs := outer }
      | some state => goesOn state

end Session

/-- A command is typed at the prompt, where no PROC runs. -/
inductive Action where
  | typed (command : Command)
  | turn (given : Given)

/-- One action of a session: a command that is typed, or a turn of the innermost PROC. -/
def step (session : Session) : Action → Option Session
  | .typed command => if session.runs.isEmpty then some (session.execute command) else none
  | .turn given =>
      match session.runs with
      | [] => none
      | run :: outer => some (session.proceed run outer given)

/-- The prompt of a session, where a list may be current. -/
def atPrompt (list : WalkedList) : Session where
  list := list
  selected := list.activeListSourceFile.map fun _ => list.activeList

/-! ## Steps that leave the place alone -/

/-- The place in the list is the one after a number of `READNEXT`s. -/
def WalkedList.isAt (list : WalkedList) (count : ℕ) : Bool :=
  min list.procReadNextIndex list.activeList.length = min count list.activeList.length

/-- The last turn of a PROC. -/
def ProcRun.ends (run : ProcRun) (list : WalkedList) (given : Given) : Bool :=
  match Proc.turn run.script given.sessionAt run.state with
  | .tcl _ _ => false
  | .select _ _ => !given.selected.isOk
  | .readNext _ => list.activeListSourceFile.isNone
  | action => (action.after given.reply).isNone

/-- A command of a PROC that does not disturb it. A `SELECT` leaves the place where it is, and a
PROC that cannot run sets it back. -/
def WalkedList.undisturbed (list : WalkedList) (run : ProcRun) : Command → Bool
  | .select (_ :: _ :: _) (.ok selectedIds) =>
      list.procReadNextIndex = 0 || selectedIds.isEmpty
  | .proc tokens (some lines) =>
      !procName tokens || (prepare lines).isOk || run.returned.isEmpty || list.activeList.isEmpty
  | _ => true

/-- The place stays that of the innermost PROC: of one that goes on, or, when a PROC ends, of the
PROC that it was started by. -/
def undisturbed (session : Session) : Action → Bool
  | .typed _ => true
  | .turn given =>
      match session.runs with
      | [] => true
      | run :: outer =>
          if run.ends session.list given then
            outer.head?.all fun caller => session.list.isAt caller.returned.length
          else
            match Proc.turn run.script given.sessionAt run.state with
            | .tcl _ _ => session.list.undisturbed run given.command
            | _ => true

/-! ## The ids that are returned -/

/-- What a number of `READNEXT`s return: the ids in order, and then empty strings. -/
def walk (ids : List String) (count : ℕ) : List String :=
  ids.take count ++ List.replicate (count - ids.length) ""

/-- The latest selection is walked once: a `READNEXT` does not fail, and those of a PROC have
returned its ids in order, and empty strings after the last. -/
structure WalksOnce (session : Session) : Prop where
  reads : ∀ ids, session.selected = some ids → session.list.procReadNext.isOk = true
  walked : ∀ ids, session.selected = some ids →
    ∀ run ∈ session.runs, run.returned = walk ids run.returned.length

/-- Nothing has been read at the start. -/
theorem walk_zero (ids : List String) : walk ids 0 = [] := by
  rw [walk, List.take_zero, Nat.zero_sub, List.replicate_zero, List.nil_append]

/-- One more reading is the next id, or none. -/
theorem walk_succ (ids : List String) (count : ℕ) :
    walk ids (count + 1) = walk ids count ++ [ids[count]?.getD ""] := by
  unfold walk
  rcases Nat.lt_or_ge count ids.length with within | past
  · rw [Nat.sub_eq_zero_of_le within, Nat.sub_eq_zero_of_le within.le, List.take_add_one,
      List.getElem?_eq_getElem within, List.replicate_zero, List.append_nil, List.append_nil]
    rfl
  · rw [List.take_of_length_le past, List.take_of_length_le (Nat.le_succ_of_le past),
      List.getElem?_eq_none past, Nat.succ_sub past, List.replicate_succ', List.append_assoc]
    rfl

namespace WalkedList

variable {list next : WalkedList} {count : ℕ}

/-- The cursor is at a count when no id between them is left to read. -/
theorem isAt_iff : list.isAt count = true ↔
    min list.procReadNextIndex list.activeList.length = min count list.activeList.length :=
  decide_eq_true_iff

/-- A reset cursor is at the start. -/
theorem isAt_reset (list : WalkedList) : list.resetProcReadNextCursor.isAt 0 = true :=
  isAt_iff.mpr rfl

/-- In an empty list the cursor is anywhere. -/
theorem isAt_of_activeList_nil (noIds : list.activeList = []) (count : ℕ) :
    list.isAt count = true := by
  rw [isAt_iff, noIds, List.length_nil, Nat.min_zero, Nat.min_zero]

/-- A reading succeeds when there is a list. -/
theorem isOk_procReadNext (list : WalkedList) :
    list.procReadNext.isOk = list.activeListSourceFile.isSome := by
  unfold procReadNext
  cases list.activeListSourceFile with
  | none => rfl
  | some sourceFile =>
      rw [if_neg (by exact Bool.false_ne_true)]
      split <;> rfl

/-- A `SELECT` that selects leaves the ids and the second word as its file. -/
theorem cmdSelect_of_selects {tokens : List String} {result : Except String (List String)}
    (selected : selects tokens result = true) :
    ∃ verb fileName rest ids, tokens = verb :: fileName :: rest ∧ result = .ok ids ∧
      list.cmdSelect tokens result = list.setActiveList ids fileName := by
  match tokens, result with
  | verb :: fileName :: rest, .ok ids =>
      refine ⟨verb, fileName, rest, ids, rfl, rfl, ?_⟩
      rw [cmdSelect, listAfter_of_ok list.toActiveList rfl]
      rfl

/-- A `SELECT` that fails leaves the list as it is. -/
theorem cmdSelect_of_not_selects {tokens : List String} {result : Except String (List String)}
    (fails : ¬ selects tokens result = true) : list.cmdSelect tokens result = list := by
  match tokens, result with
  | [], result => rfl
  | [_], result => rfl
  | _ :: _ :: _, .error message => rfl
  | _ :: _ :: _, .ok ids => exact absurd rfl fails

/-- It leaves an active list. -/
theorem isSome_of_cmdSelect {tokens : List String} {result : Except String (List String)}
    (selected : selects tokens result = true) :
    (list.cmdSelect tokens result).activeListSourceFile.isSome = true := by
  obtain ⟨verb, fileName, rest, ids, -, -, isSet⟩ := @cmdSelect_of_selects list _ _ selected
  rw [isSet]
  rfl

/-- A `SELECT` of TCL that does not disturb a PROC leaves it at the first id. -/
theorem isAt_of_cmdSelect {tokens : List String} {result : Except String (List String)}
    {run : ProcRun} (kept : list.undisturbed run (.select tokens result) = true)
    (selected : selects tokens result = true) :
    (list.cmdSelect tokens result).isAt 0 = true := by
  obtain ⟨verb, fileName, rest, ids, rfl, rfl, isSet⟩ := @cmdSelect_of_selects list _ _ selected
  simp only [undisturbed, Bool.or_eq_true, decide_eq_true_iff, List.isEmpty_iff] at kept
  rw [isSet]
  rcases kept with atFirst | noIds
  · rw [isAt_iff, setActiveList, atFirst]
  · exact isAt_of_activeList_nil noIds 0

/-- A `READNEXT` returns the id at the place, and the place is then the one after it. -/
theorem procReadNext_of_isAt (placed : list.isAt count = true)
    (current : list.activeListSourceFile.isSome = true) :
    ∃ index, list.procReadNext =
        .ok (list.activeList[count]?, { list with procReadNextIndex := index }) ∧
      ({ list with procReadNextIndex := index } : WalkedList).isAt (count + 1) = true := by
  rw [isAt_iff] at placed
  have noError : ¬ list.activeListSourceFile.isNone = true := by
    rw [← Option.not_isSome, current]
    exact Bool.false_ne_true
  simp only [procReadNext, if_neg noError, isAt_iff]
  split
  · rename_i exhausted
    refine ⟨list.procReadNextIndex, ?_, by omega⟩
    rw [List.getElem?_eq_none (by omega)]
  · have same : list.procReadNextIndex = count := by omega
    subst same
    exact ⟨list.procReadNextIndex + 1, rfl, rfl⟩

end WalkedList

/-! ## Runs of a session -/

/-- The place in the list is that of the innermost PROC. -/
def Placed (session : Session) : Prop :=
  ∀ run outer, session.runs = run :: outer → session.list.isAt run.returned.length = true

/-- A PROC that ends goes back to its caller. -/
theorem proceed_of_ends {session : Session} {run : ProcRun} {given : Given}
    (ended : run.ends session.list given = true) (outer : List ProcRun) :
    session.proceed run outer given = { session with runs := outer } := by
  unfold ProcRun.ends at ended
  unfold Session.proceed
  split at ended
  · cases ended
  · cases selected : given.selected with
    | error text => rfl
    | ok ids =>
        rw [selected] at ended
        cases ended
  · dsimp only
    rw [WalkedList.procReadNext, if_pos ended]
  · rw [Option.isNone_iff_eq_none] at ended
    dsimp only
    split
    · rfl
    · rename_i goesOn
      rw [ended] at goesOn
      cases goesOn

/-- What the steps keep: the list of the session is the latest selection, the `READNEXT`s have
walked along it, and the place in it is that of the innermost PROC. -/
structure Walking (session : Session) : Prop where
  current : session.selected =
    session.list.activeListSourceFile.map fun _ => session.list.activeList
  walked : ∀ run ∈ session.runs,
    run.returned = walk session.list.activeList run.returned.length
  placed : Placed session

namespace Walking

variable {session : Session} {list : WalkedList} {run : ProcRun} {outer : List ProcRun}

/-- A session at its prompt walks nothing. -/
theorem start (list : WalkedList) : Walking (atPrompt list) where
  current := rfl
  walked := List.forall_mem_nil _
  placed := by
    intro run outer running
    cases running

/-- What every undisturbed step keeps says that no id is left out or repeated. -/
theorem walksOnce (walking : Walking session) : WalksOnce session where
  reads := by
    intro ids selected
    rw [walking.current, Option.map_eq_some_iff] at selected
    obtain ⟨sourceFile, isSource, -⟩ := selected
    rw [WalkedList.isOk_procReadNext, isSource]
    rfl
  walked := by
    intro ids selected run running
    have walked := walking.walked run running
    rw [walking.current, Option.map_eq_some_iff] at selected
    obtain ⟨-, -, rfl⟩ := selected
    exact walked

/-- A selection starts a walk, when the place is that of its first id. -/
theorem select (isSource : list.activeListSourceFile.isSome = true)
    (placed : ∀ run outer, session.runs = run :: outer → list.isAt 0 = true) :
    Walking (session.select list) where
  current := by
    obtain ⟨sourceFile, isSource⟩ := Option.isSome_iff_exists.mp isSource
    rw [Session.select, isSource]
    rfl
  walked := by
    intro run running
    rw [Session.select, List.mem_map] at running
    obtain ⟨before, -, rfl⟩ := running
    exact (walk_zero _).symm
  placed := by
    intro run outer running
    rw [Session.select, List.map_eq_cons_iff] at running
    obtain ⟨before, rest, isBefore, rfl, -⟩ := running
    exact placed before rest isBefore

/-- A PROC ends where its caller goes on. -/
theorem ends (walking : Walking session) (running : session.runs = run :: outer)
    (placed : (outer.head?.all fun caller => session.list.isAt caller.returned.length) = true) :
    Walking { session with runs := outer } where
  current := walking.current
  walked := by
    intro caller member
    exact walking.walked caller (running ▸ List.mem_cons_of_mem _ member)
  placed := by
    intro caller rest isCaller
    dsimp only at isCaller
    rw [isCaller] at placed
    exact placed

/-- A turn that reads nothing. -/
theorem goesOn (walking : Walking session) (running : session.runs = run :: outer)
    (state : ProcState) : Walking { session with runs := { run with state } :: outer } where
  current := walking.current
  walked := by
    have walked := walking.walked
    rw [running, List.forall_mem_cons] at walked
    exact List.forall_mem_cons.mpr walked
  placed := by
    intro later rest isRun
    cases isRun
    exact walking.placed run outer running

/-- A `READNEXT` of the innermost PROC. -/
theorem reads (walking : Walking session) (running : session.runs = run :: outer)
    (resume : Option String → ProcState) {nextId : Option String}
    (reads : session.list.procReadNext = .ok (nextId, list)) :
    Walking { session with
      list
      runs := { run with
        state := resume nextId
        returned := run.returned ++ [nextId.getD ""] } :: outer } := by
  have current := session.list.isOk_procReadNext
  rw [reads] at current
  obtain ⟨index, returns, placed⟩ :=
    WalkedList.procReadNext_of_isAt (walking.placed run outer running) current.symm
  rw [reads] at returns
  cases returns
  have walked := walking.walked
  rw [running, List.forall_mem_cons] at walked
  constructor
  · exact walking.current
  · refine List.forall_mem_cons.mpr ⟨?_, walked.2⟩
    dsimp only
    rw [List.length_append, List.length_singleton, walk_succ, ← walked.1]
  · rintro later rest ⟨⟩
    dsimp only
    rw [List.length_append, List.length_singleton]
    exact placed

/-- A PROC starts at the first id. -/
theorem cmdProc (walking : Walking session) (tokens : List String)
    (scriptText : Option (List (List Char)))
    (undisturbed : ∀ run outer, session.runs = run :: outer →
      session.list.undisturbed run (.proc tokens scriptText) = true) :
    Walking (session.cmdProc tokens scriptText) := by
  cases scriptText with
  | none => exact walking
  | some lines =>
      rw [Session.cmdProc]
      split
      · rename_i named
        cases prepared : prepare lines with
        | error text =>
            refine ⟨walking.current, walking.walked, ?_⟩
            intro run outer running
            have kept := undisturbed run outer running
            simp only [WalkedList.undisturbed, named, prepared, Bool.not_true, Bool.false_or,
              Except.isOk, Except.toBool, Bool.or_eq_true, List.isEmpty_iff] at kept
            rcases kept with noReads | noIds
            · rw [noReads]
              exact WalkedList.isAt_reset _
            · apply WalkedList.isAt_of_activeList_nil
              exact noIds
        | ok script =>
            refine ⟨walking.current, ?_, ?_⟩
            · exact List.forall_mem_cons.mpr ⟨(walk_zero _).symm, walking.walked⟩
            · intro run outer isRun
              cases isRun
              exact WalkedList.isAt_reset _
      · exact walking

/-- A command keeps the walk of the PROC that gives it. -/
theorem execute (walking : Walking session) (command : Command)
    (undisturbed : ∀ run outer, session.runs = run :: outer →
      session.list.undisturbed run command = true) : Walking (session.execute command) := by
  cases command with
  | other => exact walking
  | proc tokens scriptText => exact walking.cmdProc tokens scriptText undisturbed
  | select tokens result =>
      unfold Session.execute
      dsimp only
      split
      · rename_i selected
        apply select (WalkedList.isSome_of_cmdSelect selected)
        intro run outer running
        exact WalkedList.isAt_of_cmdSelect (undisturbed run outer running) selected
      · rename_i fails
        rw [WalkedList.cmdSelect_of_not_selects fails]
        exact walking

/-- A turn of the innermost PROC. -/
theorem proceed (walking : Walking session) (running : session.runs = run :: outer)
    (given : Given) (undisturbed : undisturbed session (.turn given) = true) :
    Walking (session.proceed run outer given) := by
  unfold ReadNext.undisturbed at undisturbed
  simp only [running] at undisturbed
  by_cases ended : run.ends session.list given = true
  · rw [if_pos ended] at undisturbed
    rw [proceed_of_ends ended]
    exact walking.ends running undisturbed
  · rw [if_neg ended] at undisturbed
    unfold ProcRun.ends at ended
    unfold Session.proceed
    split at ended
    · rename_i line state isTcl
      rw [isTcl] at undisturbed
      apply (walking.goesOn running state).execute
      rintro later rest ⟨⟩
      exact undisturbed
    · cases selected : given.selected with
      | error text =>
          rw [selected] at ended
          exact absurd rfl ended
      | ok ids =>
          apply select
          · rfl
          · rintro later rest ⟨⟩
            exact WalkedList.isAt_reset _
    · rename_i resume isReadNext
      dsimp only
      cases reads : session.list.procReadNext with
      | error text =>
          have noList := session.list.isOk_procReadNext
          rw [reads, ← Option.not_isNone, Bool.eq_false_iff.mpr ended] at noList
          cases noList
      | ok read => exact walking.reads running resume reads
    · dsimp only
      split
      · rename_i noState
        exact absurd (Option.isNone_iff_eq_none.mpr noState) ended
      · exact walking.goesOn running _

end Walking

/-- An undisturbed step keeps it. -/
theorem Walking.step {session next : Session} {action : Action} (walking : Walking session)
    (undisturbed : undisturbed session action = true)
    (taken : step session action = some next) : Walking next := by
  cases action with
  | typed command =>
      simp only [ReadNext.step, Option.ite_none_right_eq_some, List.isEmpty_iff] at taken
      obtain ⟨prompt, executed⟩ := taken
      cases executed
      apply walking.execute
      intro run outer running
      rw [prompt] at running
      cases running
  | turn given =>
      rw [ReadNext.step] at taken
      split at taken
      · cases taken
      · rename_i run outer running
        cases taken
        exact walking.proceed running given undisturbed

section Exact

variable {session next : Session} {run : ProcRun} {outer : List ProcRun}

/-- A command that leaves the place with the PROC that gives it does not disturb it. -/
theorem undisturbed_of_placed_execute {command : Command} (running : session.runs = run :: outer)
    (placed : Placed (session.execute command)) :
    session.list.undisturbed run command = true := by
  unfold WalkedList.undisturbed
  split
  · rename_i verb fileName rest ids
    have runs : (session.execute (.select (verb :: fileName :: rest) (.ok ids))).runs =
        (run :: outer).map fun run => { run with returned := [] } :=
      congrArg (List.map _) running
    have atFirst := WalkedList.isAt_iff.mp (placed _ _ runs)
    change min session.list.procReadNextIndex ids.length = min 0 ids.length at atFirst
    rw [Bool.or_eq_true, decide_eq_true_iff, List.isEmpty_iff_length_eq_zero]
    omega
  · rename_i tokens lines
    cases named : procName tokens with
    | false => rfl
    | true =>
        cases prepared : prepare lines with
        | ok script => rfl
        | error text =>
            have executed : session.execute (.proc tokens (some lines)) =
                { session with list := session.list.resetProcReadNextCursor } := by
              simp only [Session.execute, Session.cmdProc, named, prepared, if_true]
            rw [executed] at placed
            have atFirst := WalkedList.isAt_iff.mp (placed run outer running)
            change min 0 session.list.activeList.length =
              min run.returned.length session.list.activeList.length at atFirst
            simp only [Except.isOk, Except.toBool, Bool.not_true, Bool.false_or, Bool.or_eq_true,
              List.isEmpty_iff_length_eq_zero]
            omega
  · rfl

/-- A step after which the cursors are right was undisturbed. -/
theorem undisturbed_of_placed {action : Action} (taken : step session action = some next)
    (placed : Placed next) : undisturbed session action = true := by
  cases action with
  | typed command => rfl
  | turn given =>
      rw [step] at taken
      unfold undisturbed
      dsimp only
      split
      · rfl
      · rename_i run outer running
        rw [running] at taken
        cases taken
        split
        · rename_i ended
          rw [proceed_of_ends ended] at placed
          cases outer with
          | nil => rfl
          | cons caller rest => exact placed caller rest rfl
        · split
          · rename_i line state isTcl
            rw [Session.proceed, isTcl] at placed
            let goesOn := { session with runs := { run with state } :: outer }
            exact @undisturbed_of_placed_execute goesOn { run with state } outer _ rfl placed
          · rfl

/-- The steps that disturb are those that leave the place of the innermost PROC. -/
theorem undisturbed_iff {action : Action} (walking : Walking session)
    (taken : step session action = some next) :
    undisturbed session action = true ↔ Placed next :=
  ⟨fun undisturbed => (walking.step undisturbed taken).placed, undisturbed_of_placed taken⟩

end Exact

/-- A run that no step disturbs walks every selection once. -/
theorem always_walksOnce (list : WalkedList) (actions : List Action)
    (meets : EachStep step (fun session action => undisturbed session action = true)
      (atPrompt list) actions) : Always step WalksOnce (atPrompt list) actions :=
  (always_of_invariant Walking.step (Walking.start list) meets).mono fun _ => Walking.walksOnce

/-- What a run of a fresh session ends with: the latest selection, and the ids that its PROCs have
read. -/
def readBy (actions : List Action) : Option (Option (List String) × List (List String)) :=
  (run step (atPrompt {}) actions).map fun session =>
    (session.selected, session.runs.map ProcRun.returned)

/-- The final state of a run, from what it has read. -/
theorem readBy_eq_some {actions : List Action} {selected : Option (List String)}
    {reads : List (List String)} (ran : readBy actions = some (selected, reads)) :
    ∃ final, run step (atPrompt {}) actions = some final ∧ final.selected = selected ∧
      final.runs.map ProcRun.returned = reads := by
  obtain ⟨final, completed, isFinal⟩ := Option.map_eq_some_iff.mp ran
  cases isFinal
  exact ⟨final, completed, rfl, rfl⟩

/-- A PROC that calls another one, and then selects two ids and reads three times. -/
def readingActions : List Action :=
  [.typed (.proc ["PROC", "OUTER"] (some ["TCL PROC INNER".toList, "SELECT A".toList,
      "READNEXT X".toList, "READNEXT Y".toList, "READNEXT Z".toList])),
    .turn { command := .proc ["PROC", "INNER"] (some ["DISPLAY INNER".toList]) },
    .turn {}, .turn {}, .turn { selected := .ok ["1", "2"] }, .turn {}, .turn {}, .turn {}]

/-- This run is undisturbed, and reads each id once. -/
theorem always_walksOnce_readingActions : ∃ final,
    run step (atPrompt {}) readingActions = some final ∧ final.selected = some ["1", "2"] ∧
      final.runs.map ProcRun.returned = [["1", "2", ""]] ∧ WalksOnce final := by
  obtain ⟨final, completed, selected, reads⟩ := readBy_eq_some
    (show readBy readingActions = some (some ["1", "2"], [["1", "2", ""]]) by decide +kernel)
  have always := always_walksOnce {} readingActions (by decide +kernel)
  exact ⟨final, completed, selected, reads, always.finish completed⟩

/-- After an id of a first selection has been read, a `SELECT` of TCL leaves out the first id of its
own. -/
def selectingActions : List Action :=
  [.typed (.proc ["PROC", "P"] (some ["SELECT A".toList, "READNEXT X".toList,
      "TCL SELECT B".toList, "READNEXT Y".toList])),
    .turn { selected := .ok ["1", "2"] }, .turn {},
    .turn { command := .select ["SELECT", "B"] (.ok ["8", "9"]) }, .turn {}]

/-- After an id has been read, a PROC that reads nothing lets its caller read the id again. -/
def callingActions : List Action :=
  [.typed (.proc ["PROC", "P"] (some ["SELECT A".toList, "READNEXT X".toList,
      "TCL PROC INNER".toList, "READNEXT Y".toList])),
    .turn { selected := .ok ["1", "2"] }, .turn {},
    .turn { command := .proc ["PROC", "INNER"] (some ["DISPLAY INNER".toList]) },
    .turn {}, .turn {}, .turn {}]

/-- A PROC that has read other ids has not walked the selection. -/
theorem not_walksOnce_of_reads {final : Session} {ids read : List String}
    (selected : final.selected = some ids) (reads : final.runs.map ProcRun.returned = [read])
    (differs : read ≠ walk ids read.length) : ¬ WalksOnce final := by
  intro once
  obtain ⟨run, rest, isRuns, rfl, -⟩ := List.map_eq_cons_iff.mp reads
  exact differs (once.walked ids selected run (isRuns ▸ List.mem_cons_self))

/-- One run leaves an id out, the other reads one twice. -/
theorem read_skips_and_repeats :
    (∃ final, run step (atPrompt {}) selectingActions = some final ∧
      final.selected = some ["8", "9"] ∧ final.runs.map ProcRun.returned = [["9"]] ∧
      ¬ WalksOnce final) ∧
    ∃ final, run step (atPrompt {}) callingActions = some final ∧
      final.selected = some ["1", "2"] ∧ final.runs.map ProcRun.returned = [["1", "1"]] ∧
      ¬ WalksOnce final := by
  obtain ⟨final, completed, selected, reads⟩ := readBy_eq_some
    (show readBy selectingActions = some (some ["8", "9"], [["9"]]) by decide +kernel)
  obtain ⟨final', completed', selected', reads'⟩ := readBy_eq_some
    (show readBy callingActions = some (some ["1", "2"], [["1", "1"]]) by decide +kernel)
  exact ⟨⟨final, completed, selected, reads,
      not_walksOnce_of_reads selected reads (by decide)⟩,
    ⟨final', completed', selected', reads',
      not_walksOnce_of_reads selected' reads' (by decide)⟩⟩

end Gemini.PickShell.ReadNext
