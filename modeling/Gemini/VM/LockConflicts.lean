import Gemini.VM.TryForms

/-!
# Lock conflicts and the error handler

`ON ERROR GOTO` is for one failure alone: a record that another session has locked. `Blind` says
that an instruction does not look at the handler. Every instruction is blind but the one that sets
the handler, and those that read or write a whole record, which look at it when the call of the
file system throws a conflict.
-/

namespace Gemini.VM

open Gemini.Semantics Program
open Gemini.PickFS (FileHandle)

variable {Double World : Type}

/-! ## Instructions that do not look at the handler -/

/-- The machine with another error handler. -/
def withHandler (handler : Option Nat) (machine : Machine Double World) : Machine Double World :=
  { machine with onErrorIp := handler }

@[simp] theorem withHandler_self (machine : Machine Double World) :
    withHandler machine.onErrorIp machine = machine := rfl

section Commutes

variable {handler : Option Nat} {Result : Type}

/-- Code on the memory does not look at the handler. -/
theorem commutes_onMemory (code : MemoryM Double World Result) :
    Commutes (withHandler handler) (onMemory code) := by
  intro machine
  rw [onMemory, exec_zoom, exec_zoom]
  rfl

/-- Code on the memory comes before what transfers control. -/
theorem commutes_after (code : MemoryM Double World Result)
    {rest : Result → MachineM Double World Flow}
    (second : ∀ value, Commutes (withHandler handler) (rest value)) :
    Commutes (withHandler handler) (onMemory code >>= rest) :=
  .bind (commutes_onMemory code) second

/-- Nor does an instruction that goes on with the next one. -/
theorem commutes_andNext (code : MemoryM Double World Unit) :
    Commutes (withHandler handler) (andNext code) :=
  commutes_after code fun _ => .pure _

theorem commutes_jump (instr : Instruction Double) (ip : Nat) :
    Commutes (withHandler handler) (jump instr ip : MachineM Double World Flow) :=
  commutes_after _ fun _ => .pure _

theorem commutes_jumpIfZero (instr : Instruction Double) (ip : Nat) :
    Commutes (withHandler handler) (jumpIfZero instr ip : MachineM Double World Flow) :=
  commutes_after _ fun _ => commutes_after _ fun _ => .pure _

theorem commutes_call (instr : Instruction Double) (ip : Nat) :
    Commutes (withHandler handler) (call instr ip : MachineM Double World Flow) :=
  commutes_after _ fun _ _ => rfl

theorem commutes_returnFromCall :
    Commutes (withHandler handler) (returnFromCall : MachineM Double World Flow) := by
  rintro ⟨ip, callStack, forStack, onErrorIp, memory⟩
  cases callStack <;> rfl

variable [Doubles Double]

theorem commutes_forSetup (instr : Instruction Double) (ip : Nat) :
    Commutes (withHandler handler) (forSetup instr ip : MachineM Double World Flow) := by
  refine commutes_after _ fun varName => commutes_after _ fun step => commutes_after _ fun limit => ?_
  split
  · exact .throw _
  · exact fun _ => rfl

theorem commutes_forNext (instr : Instruction Double) (ip : Nat) :
    Commutes (withHandler handler) (forNext instr ip : MachineM Double World Flow) := by
  refine commutes_after _ fun varName => Commutes.get (fun _ => rfl) fun machine => ?_
  split
  · exact .throw _
  · split
    · exact .throw _
    · refine commutes_after _ fun done => ?_
      split
      · exact fun _ => rfl
      · exact .pure _

end Commutes

variable [Doubles Double]

/-- The instruction does the same whatever the error handler is. -/
def Blind (host : Host Double World) (instr : Instruction Double) (ip : Nat)
    (machine : Machine Double World) : Prop :=
  ∀ handler, exec (execute host instr ip) (withHandler handler machine) =
    ((exec (execute host instr ip) machine).1,
      withHandler handler (exec (execute host instr ip) machine).2)

/-- The instructions that look at the handler. -/
def looksAtHandler : OpCode → Bool
  | .readRec | .readRecU | .writeRec | .writeRecU => true
  | _ => false

/-- The other instructions do not look at it. -/
theorem blind_of_other (host : Host Double World) {instr : Instruction Double}
    (other : looksAtHandler instr.op = false) (notSet : instr.op ≠ .setOnErrorHandler) (ip : Nat)
    (machine : Machine Double World) : Blind host instr ip machine := by
  intro handler
  refine (?_ : Commutes (withHandler handler) (execute host instr ip)) machine
  unfold execute
  cases op : instr.op with
  | halt => exact .pure _
  | jump => exact commutes_jump instr ip
  | jumpIfZero => exact commutes_jumpIfZero instr ip
  | call => exact commutes_call instr ip
  | return_ => exact commutes_returnFromCall
  | forSetup => exact commutes_forSetup instr ip
  | forNext => exact commutes_forNext instr ip
  | setOnErrorHandler => exact absurd op notSet
  | readRec | readRecU | writeRec | writeRecU =>
      rw [op] at other
      cases other
  | _ => exact commutes_andNext _

/-- A blind instruction leaves the handler. -/
theorem Blind.onErrorIp {host : Host Double World} {instr : Instruction Double} {ip : Nat}
    {machine : Machine Double World} (blind : Blind host instr ip machine) :
    (exec (execute host instr ip) machine).2.onErrorIp = machine.onErrorIp := by
  have same := blind machine.onErrorIp
  rw [withHandler_self] at same
  rw [same]
  rfl

/-! ## Conflicts -/

/-- The machine after `STATUS` has been set. -/
def conflicted (machine : Machine Double World) (memory : Memory Double World) :
    Machine Double World :=
  { machine with memory := { memory with
      environment := { memory.environment with statusCode := kStatusRecordLocked } } }

section Conflicts

variable {op : String} {locked : MemoryM Double World Bool} {machine : Machine Double World}
  {memory : Memory Double World}

omit [Doubles Double]

/-- A conflict sets `STATUS` and goes on at the handler, or is an error without one. -/
theorem exec_orConflict_of_conflict (conflict : exec locked machine.memory = (.ok true, memory)) :
    exec (orConflict op locked) machine =
      match machine.onErrorIp with
      | some handler => (.ok (.goTo handler), conflicted machine memory)
      | none => (.error (makeIoError op .recordLocked ""), conflicted machine memory) := by
  obtain ⟨ip, callStack, forStack, onErrorIp, before⟩ := machine
  rw [orConflict, exec_bind, onMemory, exec_zoom, conflict]
  cases onErrorIp <;> rfl

/-- Without a conflict the handler does not matter. -/
theorem exec_orConflict_of_none (other : ∀ memory, exec locked machine.memory ≠ (.ok true, memory))
    (handler : Option Nat) :
    exec (orConflict op locked) (withHandler handler machine) =
      ((exec (orConflict op locked) machine).1,
        withHandler handler (exec (orConflict op locked) machine).2) := by
  have same : (withHandler handler machine).memory = machine.memory := rfl
  rw [orConflict, exec_bind, exec_bind, onMemory, exec_zoom, exec_zoom, same]
  rcases done : exec locked machine.memory with ⟨fault | conflict, memory⟩
  · rfl
  · cases conflict with
    | false => rfl
    | true => exact absurd done (other memory)

/-- An instruction that can find a record locked leaves the handler. -/
theorem onErrorIp_orConflict :
    (exec (orConflict op locked) machine).2.onErrorIp = machine.onErrorIp := by
  rw [orConflict, exec_bind, onMemory, exec_zoom]
  rcases exec locked machine.memory with ⟨fault | conflict, memory⟩
  · rfl
  · obtain ⟨ip, callStack, forStack, onErrorIp, before⟩ := machine
    cases conflict with
    | false => rfl
    | true => cases onErrorIp <;> rfl

end Conflicts

/-- Only the instruction that sets the handler changes it. -/
theorem onErrorIp_execute (host : Host Double World) {instr : Instruction Double}
    (notSet : instr.op ≠ .setOnErrorHandler) (ip : Nat) (machine : Machine Double World) :
    (exec (execute host instr ip) machine).2.onErrorIp = machine.onErrorIp := by
  cases looks : looksAtHandler instr.op with
  | false => exact (blind_of_other host looks notSet ip machine).onErrorIp
  | true =>
      unfold execute
      cases op : instr.op with
      | readRec | readRecU | writeRec | writeRecU => exact onErrorIp_orConflict
      | _ =>
          rw [op] at looks
          cases looks

/-! ## When the instructions on records meet a conflict -/

section Meets

variable {host : Host Double World} {environment : Environment Double World} {fileVar id : String}

omit [Doubles Double] in
/-- A read finds a conflict when the call throws one. -/
theorem fetchRecord_eq_none_iff {op : String} {read : ReadCall World} :
    (exec (fetchRecord host op read fileVar id) environment).1 = .ok none ↔
      ∃ opened, openedAt host fileVar environment = some opened ∧
        ∃ error, (exec (read opened.2 opened.1.name id) environment.world).1 = .error error ∧
          error.isRecordLockConflict = true := by
  unfold fetchRecord
  rw [exec_bind]
  cases known : openedAt host fileVar environment with
  | none =>
      obtain ⟨fault, failed⟩ := @exec_requireOpenFile_of_not_opened _ _ host fileVar environment op
        known
      simp [failed]
  | some opened =>
      rw [exec_requireOpenFile_of_opened known]
      simp only [Option.some.injEq, exists_eq_left']
      rw [exec_bind, exec_attempt]
      rcases exec (read opened.2 opened.1.name id) environment.world with ⟨error | found, world⟩
      · cases conflict : error.isRecordLockConflict <;> simp [conflict]
      · cases found <;> simp

omit [Doubles Double] in
/-- So does a write. -/
theorem putRecord_eq_false_iff {op : String} {write : WriteCall World} {value : String} :
    (exec (putRecord host op write fileVar id value) environment).1 = .ok false ↔
      ∃ opened, openedAt host fileVar environment = some opened ∧
        ∃ error, (exec (write opened.2 opened.1.name id value) environment.world).1 = .error error ∧
          error.isRecordLockConflict = true := by
  unfold putRecord
  rw [exec_bind]
  cases known : openedAt host fileVar environment with
  | none =>
      obtain ⟨fault, failed⟩ := @exec_requireOpenFile_of_not_opened _ _ host fileVar environment op
        known
      simp [failed]
  | some opened =>
      rw [exec_requireOpenFile_of_opened known]
      simp only [Option.some.injEq, exists_eq_left']
      rw [exec_bind, exec_attempt]
      rcases exec (write opened.2 opened.1.name id value) environment.world with
        ⟨error | done, world⟩
      · cases conflict : error.isRecordLockConflict <;> simp [conflict]
      · simp only [exec_bind, exec_resetCursor]
        simp

variable {instr : Instruction Double} {ip : Nat} {memory : Memory Double World}

/-- `READ` and `READU` meet a conflict when the call throws one. -/
theorem readRecord_conflict_iff {op name : String} {read : ReadCall World}
    (operand : instr.operand = .string name) :
    (∃ after, exec (readRecord host op read instr ip) memory = (.ok true, after)) ↔
      ∃ id rest, memory.stack = id :: rest ∧
        ∃ opened, openedAt host (canonicalVariableName name) memory.environment = some opened ∧
          ∃ error, (exec (read opened.2 opened.1.name (valueToString id))
              memory.environment.world).1 = .error error ∧ error.isRecordLockConflict = true := by
  obtain ⟨stack, environment⟩ := memory
  obtain ⟨opCode, _, call⟩ := instr
  obtain rfl := operand
  cases stack with
  | nil =>
      refine iff_of_false ?_ (by simp)
      rintro ⟨after, done⟩
      cases congrArg Prod.fst done
  | cons id rest =>
      have fetched : exec (readRecord host op read ⟨opCode, .string name, call⟩ ip)
          { stack := id :: rest, environment } =
            exec (onEnvironment (fetchRecord host op read (canonicalVariableName name)
              (valueToString id)) >>= pushFound) { stack := rest, environment } := rfl
      simp only [List.cons.injEq, exists_and_left, exists_eq_left', and_assoc]
      rw [← fetchRecord_eq_none_iff, fetched, exec_bind, exec_onEnvironment]
      rcases exec (fetchRecord host op read (canonicalVariableName name) (valueToString id))
        environment with ⟨fault | found, after⟩
      · simp
      · cases found with
        | none => simp [pushFound]
        | some value =>
            simp only [pushFound, exec_bind, exec_push]
            simp

/-- `WRITE` and `WRITEU` meet a conflict when the call throws one. -/
theorem writeRecord_conflict_iff {op name : String} {write : WriteCall World}
    (operand : instr.operand = .string name) :
    (∃ after, exec (writeRecord host op write instr ip) memory = (.ok true, after)) ↔
      ∃ id value rest, memory.stack = id :: value :: rest ∧
        ∃ opened, openedAt host (canonicalVariableName name) memory.environment = some opened ∧
          ∃ error, (exec (write opened.2 opened.1.name (valueToString id) (valueToString value))
              memory.environment.world).1 = .error error ∧ error.isRecordLockConflict = true := by
  obtain ⟨stack, environment⟩ := memory
  obtain ⟨opCode, _, call⟩ := instr
  obtain rfl := operand
  match stack with
  | [] | [_] =>
      refine iff_of_false ?_ (by simp)
      rintro ⟨after, done⟩
      cases congrArg Prod.fst done
  | id :: value :: rest =>
      have put : exec (writeRecord host op write ⟨opCode, .string name, call⟩ ip)
          { stack := id :: value :: rest, environment } =
            exec (onEnvironment (putRecord host op write (canonicalVariableName name)
              (valueToString id) (valueToString value)) >>= fun done => pure !done)
              { stack := rest, environment } := rfl
      simp only [List.cons.injEq, exists_and_left, and_assoc, exists_eq_left']
      rw [← putRecord_eq_false_iff, put, exec_bind, exec_onEnvironment]
      rcases exec (putRecord host op write (canonicalVariableName name) (valueToString id)
        (valueToString value)) environment with ⟨fault | done, after⟩
      · simp
      · cases done <;> simp

end Meets

end Gemini.VM
