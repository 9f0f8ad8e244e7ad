import Gemini.Proc.ProcInterpreter
import Gemini.VM.StoredNames

/-!
# The system variables of the session

Neither a program nor a script assigns a system variable of the session. A script has its variables
from its parameters, its assignments and what it reads; none of these takes such a name, so the
word stands for what the session gives, or for itself.
-/

namespace Gemini.Proc

open Gemini.PickVoc (upperAscii)
open Gemini.Semantics (Always EachStep always_of_invariant eachStep_of_forall run)

/-! ## Runs of a script -/

/-- What the shell answers to a turn. -/
inductive ProcReply where
  | done (text : Option String)
  | locked
  | failed

/-- The state in which a script goes on. -/
def ProcAction.after : ProcAction → ProcReply → Option ProcState
  | .ended _, _ => none
  | .goesOn _ state, _ => some state
  | .tcl _ state, _ => some state
  | .input resume, .done text => some (resume (text.getD ""))
  | .select _ state, .done _ => some state
  | .readNext resume, .done text => some (resume text)
  | .readU _ _ success _, .done (some body) => some (success body)
  | .readU _ _ _ locked, .locked => some locked
  | .writeU _ _ _ success _, .done _ => some success
  | .writeU _ _ _ _ locked, .locked => some locked
  | .release _ _ state, .done _ => some state
  | _, _ => none

/-- The turn of a script when the session gives these values and the shell answers so. -/
def turnAfter (script : Script) (state : ProcState) (given : SessionAt × ProcReply) :
    Option ProcState :=
  (turn script given.1 state).after given.2

/-! ## Names that are not stored under -/

/-- No variable has the name of a system variable. -/
def Unforged (variableMap : Variables) : Prop :=
  ∀ name, isReadonlySessionAtTarget name = true → name ∉ variableMap

/-- A store under a name that is no system variable forges none. -/
theorem Unforged.assign {state : ProcState} {name : String}
    (writable : isReadonlySessionAtTarget name = false) (value : String)
    (unforged : Unforged state.variableMap) : Unforged (state.assign name value).variableMap := by
  intro key isSession member
  rcases (AList.mem_insert _).mp member with rfl | member
  · rw [writable] at isSession
    cases isSession
  · exact unforged key isSession member

/-- Clearing `PROCERR` forges none. -/
theorem Unforged.clearProcErr {state : ProcState} (unforged : Unforged state.variableMap) :
    Unforged state.clearProcErr.variableMap :=
  unforged.assign (by decide +kernel) ""

/-- Setting it forges none. -/
theorem Unforged.setProcLocked {state : ProcState} (unforged : Unforged state.variableMap) :
    Unforged state.setProcLocked.variableMap :=
  unforged.assign (by decide +kernel) "?LOCKED?"

/-- A jump stores nothing. -/
theorem Unforged.jump {state : ProcState} (unforged : Unforged state.variableMap)
    (inlineStmt : Bool) (target : Nat) :
    Unforged (state.jump inlineStmt target).variableMap := by
  unfold ProcState.jump
  split <;> exact unforged

/-- Whatever the shell answers, the script goes on with variables of its own. -/
def KeepsNames (action : ProcAction) : Prop :=
  ∀ reply state, action.after reply = some state → Unforged state.variableMap

namespace KeepsNames

/-- A script that has ended stores nothing. -/
theorem ended (printed : String) : KeepsNames (.ended printed) := nofun

/-- A script that goes on without a forged name. -/
theorem goesOn {state : ProcState} (printed : String) (unforged : Unforged state.variableMap) :
    KeepsNames (.goesOn printed state) := by
  rintro _ _ ⟨⟩
  exact unforged

/-- `EXIT` stores nothing. -/
theorem exitLoop {state : ProcState} (inlineStmt : Bool)
    (unforged : Unforged state.variableMap) : KeepsNames (exitLoop state inlineStmt) := by
  unfold Proc.exitLoop
  split
  · exact ended _
  · refine goesOn _ (Unforged.jump ?_ inlineStmt _)
    exact unforged

variable {state : ProcState}

/-- The two forms of a test that has come out false. -/
theorem writable_of_not {name : String} (writable : ¬ isReadonlySessionAtTarget name = true) :
    isReadonlySessionAtTarget name = false := by
  simpa using writable

variable (script : Script) (sessionAt : SessionAt)

/-- A statement that stores asks first whether the name is one of the session. -/
theorem execSimple (unforged : Unforged state.variableMap) (inlineStmt : Bool)
    (tokens : List String) :
    KeepsNames (execSimple script sessionAt state inlineStmt tokens) := by
  have jumps (target : Nat) : Unforged (state.jump inlineStmt target).variableMap :=
    unforged.jump inlineStmt target
  unfold Proc.execSimple
  dsimp only
  cases parseStatement tokens with
  | display => exact goesOn _ unforged
  | input =>
      dsimp only
      split
      · split
        · exact ended _
        · next writable =>
            rintro (_ | _ | _) _ ⟨⟩
            exact unforged.assign (writable_of_not writable) _
      · exact ended _
  | go =>
      dsimp only
      split
      · split
        · exact ended _
        · exact goesOn _ (jumps _)
      · exact ended _
  | tcl =>
      rintro _ _ ⟨⟩
      exact unforged
  | end_ => exact goesOn _ (jumps _)
  | return_ => exact goesOn _ (jumps _)
  | loop =>
      dsimp only
      split
      · exact ended _
      · exact goesOn _ unforged
  | repeat_ =>
      dsimp only
      split
      · exact ended _
      · exact goesOn _ (jumps _)
  | exit => exact exitLoop inlineStmt unforged
  | exitIf =>
      dsimp only
      split
      · exact ended _
      · split
        · exact exitLoop inlineStmt unforged
        · exact goesOn _ unforged
  | select =>
      dsimp only
      split
      · rintro (_ | _ | _) _ ⟨⟩
        exact unforged
      · exact ended _
  | readNext =>
      dsimp only
      split
      · split
        · exact ended _
        · next writable =>
            rintro (_ | _ | _) _ ⟨⟩
            exact unforged.assign (writable_of_not writable) _
      · exact ended _
  | readU =>
      dsimp only
      split
      · split
        · exact ended _
        · next writable =>
            split
            · exact ended _
            · rintro ((_ | _) | _ | _) _ ⟨⟩
              · exact (unforged.assign (writable_of_not writable) _).clearProcErr
              · exact unforged.setProcLocked
      · exact ended _
  | writeU =>
      dsimp only
      split
      · exact ended _
      · split
        · exact ended _
        · rintro (_ | _ | _) _ ⟨⟩
          · exact unforged.clearProcErr
          · exact unforged.setProcLocked
  | release =>
      dsimp only
      split
      · exact ended _
      · split
        · exact ended _
        · rintro (_ | _ | _) _ ⟨⟩
          exact unforged.clearProcErr
  | assignment =>
      dsimp only
      split
      · split
        · exact ended _
        · next writable => exact goesOn _ (unforged.assign (writable_of_not writable) _)
      · exact ended _
  | if_ => exact ended _
  | unknown => exact ended _

/-- No statement forges a name. The induction is on the depth of nested `IF`s. -/
theorem execStatement (unforged : Unforged state.variableMap) (depth : Nat) (inlineStmt : Bool)
    (tokens : List String) :
    KeepsNames (execStatement script sessionAt state depth inlineStmt tokens) := by
  induction depth generalizing inlineStmt tokens with
  | zero => exact execSimple script sessionAt unforged inlineStmt tokens
  | succ depth hypothesis =>
      rw [Proc.execStatement]
      split
      · split
        · exact ended _
        · dsimp only
          split
          · exact goesOn _ unforged
          · exact hypothesis true _
      · exact execSimple script sessionAt unforged inlineStmt tokens

/-- So no turn does. -/
theorem turn (unforged : Unforged state.variableMap) : KeepsNames (turn script sessionAt state) := by
  unfold Proc.turn
  split
  · exact ended _
  · split
    · exact goesOn _ unforged
    · refine execStatement script sessionAt ?_ _ false _
      exact unforged

end KeepsNames

/-! ## Scripts -/

/-- The parameters of a script are the variables `P1`, `P2` and so on. -/
theorem isReadonlySessionAtTarget_parameter (number : String) :
    isReadonlySessionAtTarget ("P" ++ number) = false := by
  have letters : (upperAscii ("P" ++ number)).toList = 'P' :: number.toList.map Char.toUpper := by
    rw [upperAscii, String.toList_map, String.toList_append]
    rfl
  have differs : ∀ name : String, name.toList.head? = some '@' →
      upperAscii ("P" ++ number) ≠ name := by
    rintro _ first rfl
    rw [letters] at first
    exact absurd (Option.some.inj first) (by decide)
  simp only [isReadonlySessionAtTarget, decide_eq_false_iff_not, List.mem_cons, List.not_mem_nil,
    or_false, not_or]
  exact ⟨differs _ rfl, differs _ rfl, differs _ rfl, differs _ rfl⟩

/-- The parameters of a script are not named like system variables. -/
theorem unforged_parameters (params : List String) : Unforged (parameters params) := by
  have grows : ∀ (numbered : List (String × ℕ)) (variableMap : Variables), Unforged variableMap →
      Unforged (numbered.foldl
        (fun variableMap param => variableMap.insert ("P" ++ toString param.2) param.1)
        variableMap) := by
    intro numbered
    induction numbered with
    | nil => exact fun _ unforged => unforged
    | cons param numbered hypothesis =>
        intro variableMap unforged
        refine hypothesis _ ?_
        have writable := isReadonlySessionAtTarget_parameter (toString param.2)
        exact @Unforged.assign { variableMap } _ writable param.1 unforged
  exact grows _ ∅ fun _ _ => AList.notMem_empty _

/-- No variable has the name of a system variable, and such a word stands for what the session
gives, or for itself. -/
structure ReadsSession (state : ProcState) : Prop where
  unforged : Unforged state.variableMap
  reads : ∀ {token : String} (sessionAt : SessionAt), isReadonlySessionAtTarget token = true →
    substituteToken state.variableMap sessionAt token = (sessionAt token).getD token

/-- Without a variable of its name, a system variable reads as the session has it. -/
theorem Unforged.readsSession {state : ProcState} (unforged : Unforged state.variableMap) :
    ReadsSession state where
  unforged
  reads := by
    intro token sessionAt isSession
    rw [substituteToken, AList.lookup_eq_none.mpr (unforged token isSession), Option.none_or]

/-- No run of a script forges a system variable. -/
theorem always_readsSession (script : Script) (params : List String)
    (given : List (SessionAt × ProcReply)) :
    Always (turnAfter script) ReadsSession { variableMap := parameters params } given := by
  have anyTurn : EachStep (turnAfter script) (fun _ _ => True)
      { variableMap := parameters params } given :=
    eachStep_of_forall (fun _ _ => trivial) _
  have kept : ∀ {before : ProcState} {reply after}, Unforged before.variableMap → True →
      turnAfter script before reply = some after → Unforged after.variableMap :=
    fun unforged _ taken => KeepsNames.turn script _ unforged _ _ taken
  have start : Unforged ({ variableMap := parameters params } : ProcState).variableMap :=
    unforged_parameters params
  exact (always_of_invariant kept start anyTurn).mono fun _ => Unforged.readsSession

/-! ## Programs and scripts -/

/-- No run of a program on a fresh machine forges a system variable. -/
def ProgramsReadSession (Double World : Type) [VM.Doubles Double] : Prop :=
  ∀ (host : VM.Host Double World) program machine, VM.IsFresh machine → ∀ worlds,
    Always (VM.stepIn host program) (VM.ReadsSession host) machine worlds

/-- No run of a script forges a system variable, whatever its parameters are. -/
def ScriptsReadSession : Prop :=
  ∀ script params given,
    Always (turnAfter script) ReadsSession { variableMap := parameters params } given

/-- Neither programs nor scripts forge a system variable of the session. -/
theorem session_names_unforged (Double World : Type) [VM.Doubles Double] :
    ProgramsReadSession Double World ∧ ScriptsReadSession :=
  ⟨fun host program _ fresh => VM.always_readsSession host program fresh, always_readsSession⟩

/-- A program that tries to store under `@userno`. -/
def storesUserno : List (VM.Instruction Int) :=
  [{ op := .pushStr, operand := .string "1" }, { op := .storeVar, operand := .string "@userno" }]

/-- The store is refused, and `@USERNO` reads as before. -/
theorem session_names_unforged_userno : ∃ final,
    run (VM.stepIn {} storesUserno) (VM.loadProgram [] ()) [(), ()] = some final ∧
      VM.ReadsSession ({} : VM.Host Int Unit) final := by
  have always := (session_names_unforged Int Unit).1 {} storesUserno (VM.loadProgram [] ())
    ⟨rfl, rfl, rfl⟩ [(), ()]
  exact ⟨_, rfl, always.finish rfl⟩

end Gemini.Proc
