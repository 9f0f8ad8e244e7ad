import Gemini.VM.Rows

/-!
# The `Try` forms of the file instructions

Eight instructions on files come in two forms. `Captures` says what the `Try` form is for: it
does not throw, it does what the plain form does and pushes the flag 1 where that one goes on,
and else pushes the flag 0, with a placeholder where the plain form leaves a value.

The catch clauses differ from instruction to instruction, so which errors of the file system a
`Try` form lets through is a condition of its own for each of them.
-/

namespace Gemini.VM

open Gemini.Semantics Program
open Gemini.PickFS (FileHandle StructuredRecord)

variable {Double World : Type} [Doubles Double]

/-! ## The pairs -/

/-- The file statements that may have an `ELSE`. -/
inductive TryForm where
  | openFile
  | readRec
  | readRecU
  | writeRec
  | writeRecU
  | readNext
  | readV
  | writeV
deriving DecidableEq

namespace TryForm

/-- The instruction without an `ELSE`. -/
def plain : TryForm → OpCode
  | .openFile => .openFile
  | .readRec => .readRec
  | .readRecU => .readRecU
  | .writeRec => .writeRec
  | .writeRecU => .writeRecU
  | .readNext => .readNext
  | .readV => .readV
  | .writeV => .writeV

/-- The instruction with one. -/
def tried : TryForm → OpCode
  | .openFile => .openFileTry
  | .readRec => .readRecTry
  | .readRecU => .readRecUTry
  | .writeRec => .writeRecTry
  | .writeRecU => .writeRecUTry
  | .readNext => .readNextTry
  | .readV => .readVTry
  | .writeV => .writeVTry

/-- How many values the instruction takes from the stack. -/
def operands : TryForm → Nat
  | .readNext => 0
  | .openFile | .readRec | .readRecU => 1
  | .writeRec | .writeRecU => 2
  | .readV => 3
  | .writeV => 4

/-- What is left where a value was to be read. -/
def placeholder : TryForm → List (Value Double)
  | .readRec | .readRecU | .readNext | .readV => [.string ""]
  | .openFile | .writeRec | .writeRecU | .writeV => []

end TryForm

/-- The machine with the flag 1 on its stack. -/
def flagged (machine : Machine Double World) : Machine Double World :=
  { machine with memory := { machine.memory with stack := .int 1 :: machine.memory.stack } }

/-- The `Try` form of an instruction on a file variable routes every failure of the plain form to
its flag, and does what that one does where it goes on. -/
def Captures (host : Host Double World) (form : TryForm) (fileVar : String) (ip : Nat)
    (machine : Machine Double World) : Prop :=
  ∃ after, exec (execute host { op := form.tried, operand := .string fileVar } ip) machine =
      (.ok .next, after) ∧
    match exec (execute host { op := form.plain, operand := .string fileVar } ip) machine with
    | (.ok .next, plainAfter) => after = flagged plainAfter
    | _ => after.memory.stack =
        .int 0 :: form.placeholder ++ machine.memory.stack.drop form.operands

/-! ## What the two forms come to -/

/-- What the action of a form comes to: the values that are pushed, nothing where a `Try` form
pushes its flag 0 and a plain form has met a lock, or an error. -/
abbrev FormOutcome (Double World : Type) :=
  Except Fault (Option (List (Value Double))) × Environment Double World

/-- The outcome of an action whose result says what is pushed. -/
def outcomeOf {Result : Type} (pushed : Result → Option (List (Value Double)))
    (done : Except Fault Result × Environment Double World) : FormOutcome Double World :=
  (done.1.map pushed, done.2)

/-- What is pushed after an action that has no value. -/
def pushedFlag (done : Bool) : Option (List (Value Double)) := if done then some [] else none

/-- What is pushed after an action that reads a text. -/
def pushedText (found : Option String) : Option (List (Value Double)) :=
  found.map fun text => [.string text]

/-- What `READ` does with the record that it has found. -/
def pushFound : Option String → MemoryM Double World Bool
  | none => pure true
  | some value => do
      push (.string value)
      return false

/-- The machine after its environment and its stack have changed. -/
def leftAt (machine : Machine Double World) (stack : List (Value Double))
    (environment : Environment Double World) : Machine Double World :=
  { machine with memory := { stack, environment } }

/-- The plain form goes on with the next instruction exactly where its action pushes values. -/
def GoesBy (host : Host Double World) (form : TryForm) (fileVar : String) (ip : Nat)
    (machine : Machine Double World) (outcome : FormOutcome Double World) : Prop :=
  ∀ after, exec (execute host { op := form.plain, operand := .string fileVar } ip) machine =
      (.ok .next, after) ↔
    ∃ values environment, outcome = (.ok (some values), environment) ∧
      after = leftAt machine (values ++ machine.memory.stack.drop form.operands) environment

/-- The `Try` form pushes a flag for the outcome of its action. -/
def ComesTo (host : Host Double World) (form : TryForm) (fileVar : String) (ip : Nat)
    (machine : Machine Double World) (outcome : FormOutcome Double World) : Prop :=
  exec (execute host { op := form.tried, operand := .string fileVar } ip) machine =
    match outcome with
    | (.ok (some values), after) =>
        (.ok .next, leftAt machine (.int 1 :: values ++ machine.memory.stack.drop form.operands)
          after)
    | (.ok none, after) =>
        (.ok .next, leftAt machine
          (.int 0 :: form.placeholder ++ machine.memory.stack.drop form.operands) after)
    | (.error fault, after) =>
        (.error fault, leftAt machine (machine.memory.stack.drop form.operands) after)

/-- The outcome of the `Try` form is right for that of the plain form. -/
def Answers (tried : FormOutcome Double World) : FormOutcome Double World → Prop
  | (.ok (some values), after) => tried = (.ok (some values), after)
  | _ => tried.1 = .ok none

section Captures

variable {host : Host Double World} {form : TryForm} {fileVar : String} {ip : Nat}
  {machine : Machine Double World} {plain tried : FormOutcome Double World}

/-- A form whose action fails does not go on. -/
theorem GoesBy.not_next (goes : GoesBy host form fileVar ip machine plain)
    (fails : ∀ values environment, plain ≠ (.ok (some values), environment)) :
    ∀ after, exec (execute host { op := form.plain, operand := .string fileVar } ip) machine ≠
      (.ok .next, after) := by
  intro after next
  obtain ⟨values, environment, done, _⟩ := (goes after).mp next
  exact fails values environment done

/-- A `Try` form captures what happens exactly when its outcome is right. -/
theorem captures_iff (goes : GoesBy host form fileVar ip machine plain)
    (comes : ComesTo host form fileVar ip machine tried) :
    Captures host form fileVar ip machine ↔ Answers tried plain := by
  unfold Captures
  unfold ComesTo at comes
  rw [comes]
  by_cases succeeds : ∃ values environment, plain = (.ok (some values), environment)
  · obtain ⟨values, environment, rfl⟩ := succeeds
    have next := (goes _).mpr ⟨values, environment, rfl, rfl⟩
    rw [next]
    rcases tried with ⟨fault | found, after⟩
    · simp [Answers]
    · cases found with
      | none => simp [Answers, leftAt, flagged]
      | some found => simp [Answers, leftAt, flagged]
  · have fails := not_exists.mp succeeds
    have notNext := goes.not_next fun values environment done =>
      fails values ⟨environment, done⟩
    have answers : Answers tried plain ↔ tried.1 = .ok none := by
      unfold Answers
      split
      · rename_i values environment
        exact absurd ⟨environment, rfl⟩ (fails values)
      · rfl
    rw [answers]
    rcases tried with ⟨fault | found, after⟩
    · simp
    · cases found <;> simp [leftAt]

/-- A `Try` form that pushes the flag of its action. -/
theorem comesTo_flag (action : EnvironmentM Double World Bool) {code : MemoryM Double World Unit}
    (executed : execute host { op := form.tried, operand := .string fileVar } ip = andNext code)
    (pops : exec code machine.memory = exec (onEnvironment action >>= pushFlag)
      ⟨machine.memory.stack.drop form.operands, machine.memory.environment⟩)
    (noValue : (form.placeholder : List (Value Double)) = []) :
    ComesTo host form fileVar ip machine
      (outcomeOf pushedFlag (exec action machine.memory.environment)) := by
  unfold ComesTo
  rw [executed, exec_andNext, noValue, pops, exec_bind, exec_onEnvironment]
  rcases exec action machine.memory.environment with ⟨fault | done, after⟩
  · rfl
  · cases done <;> rfl

/-- A `Try` form that pushes what its action reads. -/
theorem comesTo_text (action : EnvironmentM Double World (Option String))
    {code : MemoryM Double World Unit}
    (executed : execute host { op := form.tried, operand := .string fileVar } ip = andNext code)
    (pops : exec code machine.memory = exec (onEnvironment action >>= pushFlagged)
      ⟨machine.memory.stack.drop form.operands, machine.memory.environment⟩)
    (reads : (form.placeholder : List (Value Double)) = [.string ""]) :
    ComesTo host form fileVar ip machine
      (outcomeOf pushedText (exec action machine.memory.environment)) := by
  unfold ComesTo
  rw [executed, exec_andNext, reads, pops, exec_bind, exec_onEnvironment]
  rcases exec action machine.memory.environment with ⟨fault | found, after⟩
  · rfl
  · cases found <;> rfl

/-- A plain form that pushes what its action gives. -/
theorem goesBy_value (action : EnvironmentM Double World (Value Double))
    {code : MemoryM Double World Unit}
    (executed : execute host { op := form.plain, operand := .string fileVar } ip = andNext code)
    (pops : exec code machine.memory = exec (pushFrom action)
      ⟨machine.memory.stack.drop form.operands, machine.memory.environment⟩) :
    GoesBy host form fileVar ip machine
      (outcomeOf (fun value => some [value]) (exec action machine.memory.environment)) := by
  intro after
  rw [executed, exec_andNext, pops, pushFrom, exec_bind, exec_onEnvironment]
  rcases exec action machine.memory.environment with ⟨fault | value, left⟩
  · simp [outcomeOf, Except.map]
  · simp [outcomeOf, Except.map, leftAt, eq_comm]

/-- A plain form that goes on once its action is done. -/
theorem goesBy_unit (action : EnvironmentM Double World Unit) {code : MemoryM Double World Unit}
    (executed : execute host { op := form.plain, operand := .string fileVar } ip = andNext code)
    (pops : exec code machine.memory = exec (onEnvironment action)
      ⟨machine.memory.stack.drop form.operands, machine.memory.environment⟩) :
    GoesBy host form fileVar ip machine
      (outcomeOf (fun _ => some []) (exec action machine.memory.environment)) := by
  intro after
  rw [executed, exec_andNext, pops, exec_onEnvironment]
  rcases exec action machine.memory.environment with ⟨fault | done, left⟩
  · simp [outcomeOf, Except.map]
  · simp [outcomeOf, Except.map, leftAt, eq_comm]

omit [Doubles Double] in
/-- A lock conflict does not go on with the next instruction. -/
theorem exec_handleRecordLockConflict_ne (op : String) (machine after : Machine Double World) :
    exec (handleRecordLockConflict op) machine ≠ (.ok .next, after) := by
  obtain ⟨pointer, callStack, forStack, onErrorIp, memory⟩ := machine
  cases onErrorIp <;> exact fun same => nomatch congrArg Prod.fst same

/-- A plain form that goes on unless its action has met a lock. -/
theorem goesBy_orConflict {Result : Type} (op : String)
    (action : EnvironmentM Double World Result) (pushed : Result → Option (List (Value Double)))
    (rest : Result → MemoryM Double World Bool) {code : MemoryM Double World Bool}
    (executed : execute host { op := form.plain, operand := .string fileVar } ip =
      orConflict op code)
    (pops : exec code machine.memory = exec (onEnvironment action >>= rest)
      ⟨machine.memory.stack.drop form.operands, machine.memory.environment⟩)
    (pushes : ∀ result stack environment, exec (rest result) { stack, environment } =
      (.ok (pushed result).isNone, { stack := (pushed result).getD [] ++ stack, environment })) :
    GoesBy host form fileVar ip machine
      (outcomeOf pushed (exec action machine.memory.environment)) := by
  intro after
  rw [executed, orConflict, exec_bind, onMemory, exec_zoom, pops, exec_bind, exec_onEnvironment]
  rcases exec action machine.memory.environment with ⟨fault | result, left⟩
  · simp [outcomeOf, Except.map]
  · dsimp only
    rw [pushes]
    cases found : pushed result with
    | none => simp [outcomeOf, Except.map, found, exec_handleRecordLockConflict_ne]
    | some values => simp [outcomeOf, Except.map, found, leftAt, eq_comm]

end Captures

/-! ## The files behind a file variable -/

/-- The open file of a variable and the file system, where both are there. -/
def openedAt (host : Host Double World) (fileVar : String)
    (environment : Environment Double World) : Option (FileHandle × FileBackend World) :=
  (environment.openFiles.lookup fileVar).bind fun handle =>
    host.fileSystem.map fun fileSystem => (handle, fileSystem)

section Actions

variable {host : Host Double World} {fileVar : String} {environment : Environment Double World}

omit [Doubles Double]

theorem exec_findOpenFile :
    exec (findOpenFile host fileVar) environment =
      (.ok (openedAt host fileVar environment), environment) := rfl

/-- A file variable that is open. -/
theorem exec_requireOpenFile_of_opened {op : String} {handle : FileHandle}
    {fileSystem : FileBackend World}
    (opened : openedAt host fileVar environment = some (handle, fileSystem)) :
    exec (requireOpenFile host op fileVar) environment =
      (.ok (handle, fileSystem), environment) := by
  unfold openedAt at opened
  unfold requireOpenFile
  rw [exec_bind, exec_get]
  dsimp only
  cases known : environment.openFiles.lookup fileVar with
  | none => simp [known] at opened
  | some found =>
      cases backend : host.fileSystem with
      | none => simp [known, backend] at opened
      | some files =>
          simp only [known, backend, Option.bind_some, Option.map_some, Option.some.injEq] at opened
          rw [← opened]
          rfl

/-- A file variable that is closed is an error. -/
theorem exec_requireOpenFile_of_not_opened {op : String}
    (notOpen : openedAt host fileVar environment = none) :
    ∃ fault, exec (requireOpenFile host op fileVar) environment = (.error fault, environment) := by
  unfold openedAt at notOpen
  unfold requireOpenFile
  rw [exec_bind, exec_get]
  dsimp only
  cases known : environment.openFiles.lookup fileVar with
  | none => exact ⟨_, rfl⟩
  | some found =>
      cases backend : host.fileSystem with
      | none => exact ⟨_, rfl⟩
      | some files => simp [known, backend] at notOpen

/-- A call of the host, with its error as a value. -/
theorem exec_attempt {Error Result : Type} (call : Program World Error Result) :
    exec (attempt call) environment =
      (.ok (exec call environment.world).1,
        { environment with world := (exec call environment.world).2 }) := rfl

theorem exec_setOpenFile (handle : FileHandle) :
    exec (setOpenFile fileVar handle) environment =
      (.ok (), { environment with openFiles := environment.openFiles.insert fileVar handle }) := rfl

theorem exec_resetCursor (handle : FileHandle) :
    exec (resetCursor fileVar handle) environment =
      (.ok (), { environment with
        openFiles := environment.openFiles.insert fileVar
          (PickFS.FileSystem.resetReadNextCursor handle) }) := rfl

/-- Without an open file the `Try` form pushes its flag 0; with one it is the rest of the two forms
that counts. -/
theorem answers_opened {Tried Plain : Type} {pushed : Tried → Option (List (Value Double))}
    {pushedPlain : Plain → Option (List (Value Double))} {op : String} {off : Tried}
    {tried : Option (FileHandle × FileBackend World) → EnvironmentM Double World Tried}
    {plain : FileHandle × FileBackend World → EnvironmentM Double World Plain}
    (gives : tried none = pure off) (nothing : pushed off = none) :
    Answers (outcomeOf pushed (exec (findOpenFile host fileVar >>= tried) environment))
        (outcomeOf pushedPlain (exec (requireOpenFile host op fileVar >>= plain) environment)) ↔
      ∀ opened, openedAt host fileVar environment = some opened →
        Answers (outcomeOf pushed (exec (tried (some opened)) environment))
          (outcomeOf pushedPlain (exec (plain opened) environment)) := by
  rw [exec_bind, exec_bind, exec_findOpenFile]
  dsimp only
  cases known : openedAt host fileVar environment with
  | none =>
      obtain ⟨fault, failed⟩ := @exec_requireOpenFile_of_not_opened _ _ host fileVar environment op
        known
      rw [failed, gives]
      simp [Answers, outcomeOf, Except.map, nothing]
  | some opened =>
      rw [exec_requireOpenFile_of_opened known]
      simp

/-- The two forms of an instruction make the same call. -/
theorem answers_attempt {Tried Plain Error Result : Type}
    {pushed : Tried → Option (List (Value Double))}
    {pushedPlain : Plain → Option (List (Value Double))} {call : Program World Error Result}
    {tried : Except Error Result → EnvironmentM Double World Tried}
    {plain : Except Error Result → EnvironmentM Double World Plain} :
    Answers (outcomeOf pushed (exec (attempt call >>= tried) environment))
        (outcomeOf pushedPlain (exec (attempt call >>= plain) environment)) ↔
      Answers
        (outcomeOf pushed (exec (tried (exec call environment.world).1)
          { environment with world := (exec call environment.world).2 }))
        (outcomeOf pushedPlain (exec (plain (exec call environment.world).1)
          { environment with world := (exec call environment.world).2 })) := by
  rw [exec_bind, exec_bind, exec_attempt]

/-- `READ` and `READU` with `ELSE` let through what is no lock conflict. -/
theorem answers_fetchRecord {op : String} {read : ReadCall World} {id : String} :
    Answers (outcomeOf pushedText (exec (fetchRecordTry host read fileVar id) environment) :
        FormOutcome Double World)
      (outcomeOf pushedText (exec (fetchRecord host op read fileVar id) environment)) ↔
      ∀ opened, openedAt host fileVar environment = some opened →
        ∀ error, (exec (read opened.2 opened.1.name id) environment.world).1 = .error error →
          error.isRecordLockConflict = true := by
  unfold fetchRecordTry fetchRecord
  rw [answers_opened (by rfl) (by rfl)]
  refine forall₂_congr fun opened _ => ?_
  dsimp only
  rw [answers_attempt]
  rcases exec (read opened.2 opened.1.name id) environment.world with ⟨error | found, world⟩
  · cases conflict : error.isRecordLockConflict with
    | true => simp [conflict, Answers, outcomeOf, pushedText, Except.map]
    | false => simp [conflict, Answers, outcomeOf, Except.map]
  · cases found <;> simp [Answers, outcomeOf, pushedText, Except.map]

/-- `WRITE` and `WRITEU` with `ELSE` let through what is no lock conflict, unless it is no error
of the file system either. -/
theorem answers_putRecord {op : String} {write : WriteCall World} {id value : String} :
    Answers (outcomeOf pushedFlag (exec (putRecordTry host write fileVar id value) environment) :
        FormOutcome Double World)
      (outcomeOf pushedFlag (exec (putRecord host op write fileVar id value) environment)) ↔
      ∀ opened, openedAt host fileVar environment = some opened →
        ∀ what, (exec (write opened.2 opened.1.name id value) environment.world).1 =
            .error (.fileSystem what) →
          (FileError.fileSystem what).isRecordLockConflict = true := by
  unfold putRecordTry putRecord
  rw [answers_opened (by rfl) (by rfl)]
  refine forall₂_congr fun opened _ => ?_
  dsimp only
  rw [answers_attempt]
  rcases exec (write opened.2 opened.1.name id value) environment.world with ⟨error | done, world⟩
  · cases error with
    | fileSystem what =>
        cases conflict : (FileError.fileSystem what).isRecordLockConflict with
        | true => simp [conflict, Answers, outcomeOf, pushedFlag, Except.map]
        | false => simp [conflict, Answers, outcomeOf, Except.map]
    | other what =>
        have noConflict : (FileError.other what).isRecordLockConflict = false := rfl
        simp [noConflict, Answers, outcomeOf, pushedFlag, Except.map]
  · simp only [exec_bind, exec_resetCursor]
    simp [Answers, outcomeOf, pushedFlag, Except.map]

/-- `OPEN` with `ELSE` lets through what is no error of the file system. -/
theorem answers_openNamed {fileName : String} :
    Answers (outcomeOf pushedFlag (exec (openNamedTry host fileVar fileName) environment) :
        FormOutcome Double World)
      (outcomeOf (fun _ => some []) (exec (openNamed host fileVar fileName) environment)) ↔
      ∀ fileSystem, host.fileSystem = some fileSystem →
        ∀ what, (exec (fileSystem.openFile fileName) environment.world).1 ≠
          .error (.other what) := by
  unfold openNamedTry openNamed
  cases host.fileSystem with
  | none => simp [Answers, outcomeOf, pushedFlag, Except.map]
  | some fileSystem =>
      simp only [Option.some.injEq, forall_eq', answers_attempt]
      rcases exec (fileSystem.openFile fileName) environment.world with ⟨error | handle, world⟩
      · cases error <;> simp [Answers, outcomeOf, pushedFlag, Except.map]
      · simp only [exec_bind, exec_resetCursor]
        simp [Answers, outcomeOf, pushedFlag, Except.map]

/-- `READNEXT` with `ELSE` captures whatever happens. -/
theorem answers_nextRecord :
    Answers (outcomeOf pushedText (exec (nextRecordTry host fileVar) environment) :
        FormOutcome Double World)
      (outcomeOf (fun value => some [value]) (exec (nextRecord host fileVar) environment)) := by
  unfold nextRecordTry nextRecord
  refine (answers_opened (by rfl) (by rfl)).mpr fun opened _ => ?_
  dsimp only
  rw [answers_attempt]
  rcases exec (opened.2.readNextRecord opened.1) environment.world with ⟨error | ⟨found, after⟩, world⟩
  · cases error <;> simp [Answers, outcomeOf, pushedText, Except.map]
  · simp only [exec_bind, exec_setOpenFile]
    cases found <;> simp [Answers, outcomeOf, pushedText, Except.map]

/-- A call of the files, with its error as an exception. -/
theorem exec_callFiles {Result : Type} (call : Program World FileError Result) :
    exec (callFiles call) environment =
      ((exec call environment.world).1.mapError fun error => .exception error.what,
        { environment with world := (exec call environment.world).2 }) := by
  rw [callFiles, exec_bind, exec_attempt]
  rcases exec call environment.world with ⟨error | result, world⟩ <;> rfl

/-- `WRITEV` with `ELSE` captures whatever happens. -/
theorem answers_putValue {id value : String} {attrNo valueIndex : Int} :
    Answers (outcomeOf pushedFlag
        (exec (putValueTry host fileVar id attrNo valueIndex value) environment) :
        FormOutcome Double World)
      (outcomeOf (fun _ => some [])
        (exec (putValue host fileVar id attrNo valueIndex value) environment)) := by
  unfold putValueTry putValue
  refine (answers_opened (by rfl) (by rfl)).mpr fun opened _ => ?_
  dsimp only
  rw [exec_bind, exec_bind, exec_attempt, exec_callFiles]
  rcases exec (writeValue opened.2 opened.1.name id attrNo valueIndex value) environment.world
    with ⟨error | done, world⟩
  · simp [Answers, outcomeOf, pushedFlag, Except.map, Except.mapError]
  · simp only [exec_bind, exec_resetCursor, Except.mapError]
    simp [Answers, outcomeOf, pushedFlag, Except.map]

/-- What `READV` needs of a record to be captured: a field of the dictionary is found, and its cell
is there exactly when the field is resolved. -/
def FieldIsClear (fileSystem : FileBackend World) (fileName : String) (world : World)
    (attrSlot : Value Double) (valueIndex : Int) (raw : String) : Prop :=
  match attrSlot with
  | .string token =>
      0 < valueIndex ∨ ∃ field, (exec (fileSystem.resolveField fileName token) world).1 = .ok field ∧
        (fieldRefIsResolved field = true ↔
          ∃ cell, field.cell (StructuredRecord.fromRaw raw) = .ok cell)
  | _ => True

/-- A cell is evaluated without the environment. -/
theorem exec_evaluateDictFieldCell {fileSystem : FileBackend World} {fileName token : String}
    {record : StructuredRecord} :
    exec (evaluateDictFieldCell fileSystem fileName token record) environment =
      (((exec (fileSystem.resolveField fileName token) environment.world).1.bind fun field =>
          field.cell record).mapError fun error => .exception error.what,
        { environment with
          world := (exec (fileSystem.resolveField fileName token) environment.world).2 }) := by
  rw [evaluateDictFieldCell, exec_bind, exec_callFiles]
  rcases exec (fileSystem.resolveField fileName token) environment.world with ⟨error | field, world⟩
  · rfl
  · simp only [Except.mapError, Except.bind]
    cases field.cell record <;> rfl

section ReadV

variable [Doubles Double]

/-- `READV` with `ELSE` lets every error of the reading through, and those of the dictionary. -/
theorem answers_fetchValue {id : String} {attrSlot : Value Double} {valueIndex : Int}
    (looks : ∀ opened, openedAt host fileVar environment = some opened → ∀ raw world,
      exec (opened.2.read opened.1.name id) environment.world = (.ok (some raw), world) →
        ∀ token, (exec (opened.2.resolveField opened.1.name token) world).2 = world) :
    Answers (outcomeOf pushedText
        (exec (fetchValueTry host fileVar id attrSlot valueIndex) environment) :
        FormOutcome Double World)
      (outcomeOf (fun value => some [value])
        (exec (fetchValue host fileVar id attrSlot valueIndex) environment)) ↔
      ∀ opened, openedAt host fileVar environment = some opened →
        match exec (opened.2.read opened.1.name id) environment.world with
        | (.error _, _) => False
        | (.ok none, _) => True
        | (.ok (some raw), world) =>
            FieldIsClear opened.2 opened.1.name world attrSlot valueIndex raw := by
  unfold fetchValueTry fetchValue
  rw [answers_opened (by rfl) (by rfl)]
  refine forall₂_congr fun opened known => ?_
  dsimp only
  simp only [exec_bind, exec_callFiles]
  rcases called : exec (opened.2.read opened.1.name id) environment.world with ⟨error | found, world⟩
  · simp [Answers, outcomeOf, Except.map, Except.mapError]
  · cases found with
    | none => simp [Answers, outcomeOf, pushedText, Except.map, Except.mapError]
    | some raw =>
        simp only [Except.mapError]
        cases attrSlot with
        | string token =>
            have leaves := looks opened known raw world called token
            unfold FieldIsClear
            dsimp only
            by_cases indexed : 0 < valueIndex
            · simp [indexed, Answers, outcomeOf, pushedText, Except.map]
            · simp only [indexed, if_false, false_or, exec_bind, exec_callFiles,
                exec_evaluateDictFieldCell]
              rcases resolves : exec (opened.2.resolveField opened.1.name token) world
                with ⟨error | field, after⟩
              · simp [Answers, outcomeOf, Except.map, Except.mapError, Except.bind]
              · obtain rfl : after = world := by rw [resolves] at leaves; exact leaves
                cases resolved : fieldRefIsResolved field with
                | true =>
                    simp only [resolved, if_true, exec_bind, exec_evaluateDictFieldCell, resolves,
                      Except.mapError, Except.bind]
                    cases cell : field.cell (StructuredRecord.fromRaw raw) <;>
                      simp [Answers, outcomeOf, Except.map, cell, resolved, pushedText]
                | false =>
                    cases cell : field.cell (StructuredRecord.fromRaw raw) <;>
                      simp [Answers, outcomeOf, Except.map, Except.mapError, Except.bind, cell,
                        resolved, pushedText]
        | _ =>
            unfold FieldIsClear
            dsimp only
            cases readAttribute (StructuredRecord.fromRaw raw) _ valueIndex <;>
              simp [Answers, outcomeOf, Except.map, pushedText, Except.toOption]

end ReadV

end Actions

/-! ## The instructions -/

section Instructions

variable {host : Host Double World} {fileVar : String} {ip : Nat} {machine : Machine Double World}
  {rest : List (Value Double)} {environment : Environment Double World}

/-- What the `ELSE` of `OPEN` takes. -/
theorem captures_openFile {fileName : Value Double} :
    Captures host .openFile fileVar ip (leftAt machine (fileName :: rest) environment) ↔
      ∀ fileSystem, host.fileSystem = some fileSystem →
        ∀ what, (exec (fileSystem.openFile (valueToString fileName)) environment.world).1 ≠
          .error (.other what) := by
  have goes : GoesBy host .openFile fileVar ip (leftAt machine (fileName :: rest) environment)
      (outcomeOf (fun _ => some []) (exec (openNamed host (canonicalVariableName fileVar)
        (valueToString fileName)) environment)) := goesBy_unit _ rfl rfl
  have comes : ComesTo host .openFile fileVar ip (leftAt machine (fileName :: rest) environment)
      (outcomeOf pushedFlag (exec (openNamedTry host (canonicalVariableName fileVar)
        (valueToString fileName)) environment)) := comesTo_flag _ rfl rfl rfl
  rw [captures_iff goes comes, answers_openNamed]

/-- The calls of the two forms of `READ` and `READU`. -/
structure ReadsBy (host : Host Double World) (form : TryForm) (fileVar : String) (ip : Nat)
    (op : String) (read : ReadCall World) : Prop where
  plain : execute host { op := form.plain, operand := .string fileVar } ip =
    orConflict op (readRecord host op read { op := form.plain, operand := .string fileVar } ip)
  tried : execute host { op := form.tried, operand := .string fileVar } ip =
    andNext (readRecordTry host read { op := form.tried, operand := .string fileVar } ip)
  operands : form.operands = 1
  placeholder : (form.placeholder : List (Value Double)) = [.string ""]

/-- `READ` reads. -/
theorem readsBy_readRec : ReadsBy host .readRec fileVar ip "READ" FileBackend.read :=
  ⟨rfl, rfl, rfl, rfl⟩

/-- `READU` reads with a lock. -/
theorem readsBy_readRecU : ReadsBy host .readRecU fileVar ip "READU" FileBackend.readU :=
  ⟨rfl, rfl, rfl, rfl⟩

/-- What the `ELSE` of a read takes. -/
theorem ReadsBy.captures {form : TryForm} {op : String} {read : ReadCall World}
    (reads : ReadsBy host form fileVar ip op read) {id : Value Double} :
    Captures host form fileVar ip (leftAt machine (id :: rest) environment) ↔
      ∀ opened, openedAt host (canonicalVariableName fileVar) environment = some opened →
        ∀ error, (exec (read opened.2 opened.1.name (valueToString id)) environment.world).1 =
            .error error → error.isRecordLockConflict = true := by
  have goes : GoesBy host form fileVar ip (leftAt machine (id :: rest) environment)
      (outcomeOf pushedText (exec (fetchRecord host op read (canonicalVariableName fileVar)
        (valueToString id)) environment)) := by
    refine goesBy_orConflict op _ pushedText pushFound reads.plain ?_ ?_
    · rw [reads.operands]
      rfl
    · rintro (_ | value) stack left <;> rfl
  have comes : ComesTo host form fileVar ip (leftAt machine (id :: rest) environment)
      (outcomeOf pushedText (exec (fetchRecordTry host read (canonicalVariableName fileVar)
        (valueToString id)) environment)) := by
    refine comesTo_text _ reads.tried ?_ reads.placeholder
    rw [reads.operands]
    rfl
  rw [captures_iff goes comes, answers_fetchRecord]

/-- The calls of the two forms of `WRITE` and `WRITEU`. -/
structure WritesBy (host : Host Double World) (form : TryForm) (fileVar : String) (ip : Nat)
    (op : String) (write : WriteCall World) : Prop where
  plain : execute host { op := form.plain, operand := .string fileVar } ip =
    orConflict op (writeRecord host op write { op := form.plain, operand := .string fileVar } ip)
  tried : execute host { op := form.tried, operand := .string fileVar } ip =
    andNext (writeRecordTry host write { op := form.tried, operand := .string fileVar } ip)
  operands : form.operands = 2
  placeholder : (form.placeholder : List (Value Double)) = []

/-- `WRITE` writes. -/
theorem writesBy_writeRec : WritesBy host .writeRec fileVar ip "WRITE" FileBackend.write :=
  ⟨rfl, rfl, rfl, rfl⟩

/-- `WRITEU` writes with a lock. -/
theorem writesBy_writeRecU : WritesBy host .writeRecU fileVar ip "WRITEU" FileBackend.writeU :=
  ⟨rfl, rfl, rfl, rfl⟩

/-- What the `ELSE` of a write takes. -/
theorem WritesBy.captures {form : TryForm} {op : String} {write : WriteCall World}
    (writes : WritesBy host form fileVar ip op write) {id value : Value Double} :
    Captures host form fileVar ip (leftAt machine (id :: value :: rest) environment) ↔
      ∀ opened, openedAt host (canonicalVariableName fileVar) environment = some opened →
        ∀ what, (exec (write opened.2 opened.1.name (valueToString id) (valueToString value))
            environment.world).1 = .error (.fileSystem what) →
          (FileError.fileSystem what).isRecordLockConflict = true := by
  have goes : GoesBy host form fileVar ip (leftAt machine (id :: value :: rest) environment)
      (outcomeOf pushedFlag (exec (putRecord host op write (canonicalVariableName fileVar)
        (valueToString id) (valueToString value)) environment)) := by
    refine goesBy_orConflict op _ pushedFlag (fun done => pure !done) writes.plain ?_ ?_
    · rw [writes.operands]
      rfl
    · rintro (_ | _) stack left <;> rfl
  have comes : ComesTo host form fileVar ip (leftAt machine (id :: value :: rest) environment)
      (outcomeOf pushedFlag (exec (putRecordTry host write (canonicalVariableName fileVar)
        (valueToString id) (valueToString value)) environment)) := by
    refine comesTo_flag _ writes.tried ?_ writes.placeholder
    rw [writes.operands]
    rfl
  rw [captures_iff goes comes, answers_putRecord]

/-- The `ELSE` of `READNEXT` takes every error. -/
theorem captures_readNext : Captures host .readNext fileVar ip (leftAt machine rest environment) := by
  have goes : GoesBy host .readNext fileVar ip (leftAt machine rest environment)
      (outcomeOf (fun value => some [value])
        (exec (nextRecord host (canonicalVariableName fileVar)) environment)) := goesBy_value _ rfl rfl
  have comes : ComesTo host .readNext fileVar ip (leftAt machine rest environment)
      (outcomeOf pushedText (exec (nextRecordTry host (canonicalVariableName fileVar))
        environment)) := comesTo_text _ rfl rfl rfl
  exact (captures_iff goes comes).mpr answers_nextRecord

/-- What the `ELSE` of `READV` takes. -/
theorem captures_readV {id attrSlot valueIndex : Value Double}
    (looks : ∀ opened, openedAt host (canonicalVariableName fileVar) environment = some opened →
      ∀ raw world,
        exec (opened.2.read opened.1.name (valueToString id)) environment.world =
            (.ok (some raw), world) →
          ∀ token, (exec (opened.2.resolveField opened.1.name token) world).2 = world) :
    Captures host .readV fileVar ip
        (leftAt machine (valueIndex :: attrSlot :: id :: rest) environment) ↔
      ∀ opened, openedAt host (canonicalVariableName fileVar) environment = some opened →
        match exec (opened.2.read opened.1.name (valueToString id)) environment.world with
        | (.error _, _) => False
        | (.ok none, _) => True
        | (.ok (some raw), world) =>
            FieldIsClear opened.2 opened.1.name world attrSlot (coerceToInt valueIndex) raw := by
  have goes : GoesBy host .readV fileVar ip
      (leftAt machine (valueIndex :: attrSlot :: id :: rest) environment)
      (outcomeOf (fun value => some [value]) (exec (fetchValue host (canonicalVariableName fileVar)
        (valueToString id) attrSlot (coerceToInt valueIndex)) environment)) := goesBy_value _ rfl rfl
  have comes : ComesTo host .readV fileVar ip
      (leftAt machine (valueIndex :: attrSlot :: id :: rest) environment)
      (outcomeOf pushedText (exec (fetchValueTry host (canonicalVariableName fileVar)
        (valueToString id) attrSlot (coerceToInt valueIndex)) environment)) := comesTo_text _ rfl rfl rfl
  rw [captures_iff goes comes, answers_fetchValue looks]

/-- What the `ELSE` of `WRITEV` takes. -/
theorem captures_writeV {value id attrNo valueIndex : Value Double} :
    Captures host .writeV fileVar ip
      (leftAt machine (valueIndex :: attrNo :: id :: value :: rest) environment) := by
  have goes : GoesBy host .writeV fileVar ip
      (leftAt machine (valueIndex :: attrNo :: id :: value :: rest) environment)
      (outcomeOf (fun _ => some []) (exec (putValue host (canonicalVariableName fileVar)
        (valueToString id) (coerceToInt attrNo) (coerceToInt valueIndex) (valueToString value))
        environment)) := goesBy_unit _ rfl rfl
  have comes : ComesTo host .writeV fileVar ip
      (leftAt machine (valueIndex :: attrNo :: id :: value :: rest) environment)
      (outcomeOf pushedFlag (exec (putValueTry host (canonicalVariableName fileVar)
        (valueToString id) (coerceToInt attrNo) (coerceToInt valueIndex) (valueToString value))
        environment)) := comesTo_flag _ rfl rfl rfl
  exact (captures_iff goes comes).mpr answers_putValue

end Instructions

end Gemini.VM
