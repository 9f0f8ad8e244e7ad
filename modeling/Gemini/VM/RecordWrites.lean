import Gemini.VM.Frames

/-!
# Instructions that write records

An instruction writes to the file that its file variable is open on, and to the record that the
stack names. What the calls of the host keep of the world, but for the writing of some records, is
kept by every step that writes to none of these.
-/

namespace Gemini.VM

open Gemini.Semantics Program
open Gemini.PickFS (FileHandle)

variable {Double World : Type}

/-- How many operands stand above the id that an instruction writes to. -/
def aboveId : OpCode → Nat
  | .writeV | .writeVTry => 2
  | _ => 0

/-- The file and the record that the next instruction writes to, when it writes a record and has
its operands. -/
def writtenRecord [Doubles Double] (program : List (Instruction Double))
    (machine : Machine Double World) : Option (String × String) := do
  let instr ← program[machine.ip]?
  if Frames.writesRecords instr.op then
    match instr.operand, machine.memory.stack.drop (aboveId instr.op) with
    | .string name, id :: _ :: _ => do
        let handle ← machine.memory.environment.openFiles.lookup (canonicalVariableName name)
        return (handle.name, valueToString id)
    | _, _ => none
  else none

/-- The calls that write to a record leave the world with a property. -/
structure SparedRecord (kept : World → Prop) (host : Host Double World) (world : World)
    (fileName id : String) : Prop where
  write : ∀ {fileSystem}, host.fileSystem = some fileSystem →
    ∀ value, kept (exec (fileSystem.write fileName id value) world).2
  writeU : ∀ {fileSystem}, host.fileSystem = some fileSystem →
    ∀ value, kept (exec (fileSystem.writeU fileName id value) world).2
  values : ∀ {fileSystem}, host.fileSystem = some fileSystem → ∀ attrNo valueIndex value,
    kept (exec (writeValue fileSystem fileName id attrNo valueIndex value) world).2

variable {kept : World → Prop} {host : Host Double World} {world : World}

/-! ## Code on an open file -/

/-- Code that leaves the world with the property, whichever way it ends. -/
abbrev Leaves (kept : World → Prop) {State Result : Type} [HasWorld State World]
    (pre : State → Prop) (code : Program State Fault Result) : Prop :=
  Ensures pre code (fun _ state => kept (HasWorld.world state))
    fun state => kept (HasWorld.world state)

section Open

variable {fileVar : String} {opened : Option FileHandle}

/-- In this world the file variable is open on this file. -/
def OpenedOn (world : World) (fileVar : String) (opened : Option FileHandle)
    (environment : Environment Double World) : Prop :=
  environment.world = world ∧ environment.openFiles.lookup fileVar = opened

/-- What follows a call that leaves the world with the property. -/
theorem leaves_attempt {Error Value Result : Type} {call : Program World Error Value}
    {next : Except Error Value → EnvironmentM Double World Result}
    (spared : kept (exec call world).2) (second : ∀ outcome, Frames kept (next outcome)) :
    Leaves kept (fun environment => environment.world = world) (attempt call >>= next) := by
  have called : Leaves kept (fun environment : Environment Double World =>
      environment.world = world) (attempt call) := by
    rintro environment rfl
    exact spared
  exact called.bind fun outcome => (second outcome).keeps

variable (holds : kept world)

include holds

/-- What follows when the file variable has to be open. -/
theorem leaves_requireOpenFile {Result : Type} {op : String}
    {next : FileHandle × FileBackend World → EnvironmentM Double World Result}
    (second : ∀ handle fileSystem, opened = some handle → host.fileSystem = some fileSystem →
      Leaves kept (fun environment => environment.world = world) (next (handle, fileSystem))) :
    Leaves kept (OpenedOn world fileVar opened) (requireOpenFile host op fileVar >>= next) := by
  unfold requireOpenFile
  rw [bind_assoc]
  refine .get fun environment before => ?_
  obtain ⟨rfl, same⟩ := before
  rw [same]
  cases opened with
  | none =>
      rintro _ rfl
      exact holds
  | some handle =>
      cases known : host.fileSystem with
      | none =>
          rintro _ rfl
          exact holds
      | some fileSystem =>
          rintro _ rfl
          exact second handle fileSystem rfl known _ rfl

/-- What follows when it may be closed. -/
theorem leaves_findOpenFile {Result : Type}
    {next : Option (FileHandle × FileBackend World) → EnvironmentM Double World Result}
    (missing : Frames kept (next none))
    (second : ∀ handle fileSystem, opened = some handle → host.fileSystem = some fileSystem →
      Leaves kept (fun environment => environment.world = world)
        (next (some (handle, fileSystem)))) :
    Leaves kept (OpenedOn world fileVar opened) (findOpenFile host fileVar >>= next) := by
  unfold findOpenFile
  rw [bind_assoc]
  refine .get fun environment before => ?_
  obtain ⟨rfl, same⟩ := before
  rw [pure_bind, same]
  rintro _ rfl
  cases opened with
  | none => exact missing.keeps _ holds
  | some handle =>
      cases known : host.fileSystem with
      | none => exact missing.keeps _ holds
      | some fileSystem => exact second handle fileSystem rfl known _ rfl

variable {id value : String} {write : WriteCall World}

/-- A write of a record leaves the property when the call does. -/
theorem leaves_putRecord (op : String)
    (spared : ∀ handle fileSystem, opened = some handle → host.fileSystem = some fileSystem →
      kept (exec (write fileSystem handle.name id value) world).2) :
    Leaves kept (OpenedOn world fileVar opened) (putRecord host op write fileVar id value) := by
  refine leaves_requireOpenFile holds fun handle fileSystem isOpen known =>
    leaves_attempt (spared handle fileSystem isOpen known) fun outcome => ?_
  split <;> simp

/-- So does one with an `ELSE`. -/
theorem leaves_putRecordTry
    (spared : ∀ handle fileSystem, opened = some handle → host.fileSystem = some fileSystem →
      kept (exec (write fileSystem handle.name id value) world).2) :
    Leaves kept (OpenedOn world fileVar opened) (putRecordTry host write fileVar id value) := by
  refine leaves_findOpenFile holds (.pure _) fun handle fileSystem isOpen known =>
    leaves_attempt (spared handle fileSystem isOpen known) fun outcome => ?_
  split <;> simp

variable {attrNo valueIndex : Int}

/-- So does a write of a value. -/
theorem leaves_putValue
    (spared : ∀ handle fileSystem, opened = some handle → host.fileSystem = some fileSystem →
      kept (exec (writeValue fileSystem handle.name id attrNo valueIndex value) world).2) :
    Leaves kept (OpenedOn world fileVar opened)
      (putValue host fileVar id attrNo valueIndex value) := by
  refine leaves_requireOpenFile holds fun handle fileSystem isOpen known => ?_
  unfold callFiles
  dsimp only
  rw [bind_assoc]
  refine leaves_attempt (spared handle fileSystem isOpen known) fun outcome => ?_
  cases outcome <;> simp

/-- So does a write of a value with an `ELSE`. -/
theorem leaves_putValueTry
    (spared : ∀ handle fileSystem, opened = some handle → host.fileSystem = some fileSystem →
      kept (exec (writeValue fileSystem handle.name id attrNo valueIndex value) world).2) :
    Leaves kept (OpenedOn world fileVar opened)
      (putValueTry host fileVar id attrNo valueIndex value) := by
  refine leaves_findOpenFile holds (.pure _) fun handle fileSystem isOpen known =>
    leaves_attempt (spared handle fileSystem isOpen known) fun outcome => ?_
  split <;> simp

end Open

/-! ## Instructions -/

variable [Doubles Double]

section Instructions

variable {instr : Instruction Double} {ip : Nat} {name : String} {opened : Option FileHandle}
  {above : Nat}

/-- The memory of a machine whose file variable is open on this file, where the record that the
stack names may be written to. -/
structure MemoryOn (kept : World → Prop) (host : Host Double World) (world : World) (name : String)
    (opened : Option FileHandle) (above : Nat) (memory : Memory Double World) : Prop where
  isOpen : OpenedOn world (canonicalVariableName name) opened memory.environment
  spared : ∀ id value rest, memory.stack.drop above = id :: value :: rest →
    ∀ handle, opened = some handle → SparedRecord kept host world handle.name (valueToString id)

omit [Doubles Double] in
/-- The name operand of an instruction is read. -/
theorem leaves_named {Result : Type} (operand : instr.operand = .string name)
    {pre : Memory Double World → Prop} {rest : String → MemoryM Double World Result}
    (second : Leaves kept pre (rest (canonicalVariableName name))) :
    Leaves kept pre (nameOperandAtIp instr ip >>= rest) := by
  have named : (nameOperandAtIp instr ip : MemoryM Double World String) =
      pure (canonicalVariableName name) := by
    rw [nameOperandAtIp, stringOperandAtIp, operand]
    rfl
  rw [named, pure_bind]
  exact second

/-- A memory on which this has been pushed. -/
abbrev Pushed (pre : Memory Double World → Prop) (value : Value Double)
    (memory : Memory Double World) : Prop :=
  pre { memory with stack := value :: memory.stack }

section Pops

variable {pre : Memory Double World → Prop}
  (fits : ∀ memory, pre memory → kept memory.environment.world)

include fits

omit [Doubles Double] in
/-- What an instruction takes from the stack before it writes. -/
theorem leaves_pop {Result : Type} {rest : Value Double → MemoryM Double World Result}
    (second : ∀ value, Leaves kept (Pushed pre value) (rest value)) :
    Leaves kept pre (pop >>= rest) := by
  rintro ⟨stack, environment⟩ before
  cases stack with
  | nil => exact fits _ before
  | cons value stack =>
      rw [exec_bind, exec_pop_cons]
      exact second value ⟨stack, environment⟩ before

omit [Doubles Double] in
/-- A value that was pushed does not change the world. -/
theorem fits_pushed (value : Value Double) (memory : Memory Double World)
    (pushed : Pushed pre value memory) : kept memory.environment.world :=
  fits { memory with stack := value :: memory.stack } pushed

/-- A text is popped and the rest goes on below it. -/
theorem leaves_popText {Result : Type} {rest : String → MemoryM Double World Result}
    (second : ∀ value, Leaves kept (Pushed pre value) (rest (valueToString value))) :
    Leaves kept pre (popText >>= rest) := by
  unfold popText
  rw [bind_assoc]
  exact leaves_pop fits second

/-- So is an integer. -/
theorem leaves_popCoercedInt {Result : Type} {rest : Int → MemoryM Double World Result}
    (second : ∀ value, Leaves kept (Pushed pre value) (rest (coerceToInt value))) :
    Leaves kept pre (popCoercedInt >>= rest) := by
  unfold popCoercedInt
  rw [bind_assoc]
  exact leaves_pop fits second

/-- The id and the text of a record. -/
theorem leaves_popRecord {Result : Type} {rest : String → String → MemoryM Double World Result}
    (second : ∀ id value, Leaves kept (Pushed (Pushed pre id) value)
      (rest (valueToString id) (valueToString value))) :
    Leaves kept pre (popText >>= fun id => popText >>= rest id) :=
  leaves_popText fits fun id => leaves_popText (fits_pushed fits id) (second id)

/-- The place in a record, with its id and the text that is written there. -/
theorem leaves_popCell {Result : Type}
    {rest : Int → Int → String → String → MemoryM Double World Result}
    (second : ∀ valueIndex attrNo id value,
      Leaves kept (Pushed (Pushed (Pushed (Pushed pre valueIndex) attrNo) id) value)
        (rest (coerceToInt valueIndex) (coerceToInt attrNo) (valueToString id)
          (valueToString value))) :
    Leaves kept pre (popCoercedInt >>= fun valueIndex => popCoercedInt >>= fun attrNo =>
      popText >>= fun id => popText >>= rest valueIndex attrNo id) := by
  refine leaves_popCoercedInt fits fun valueIndex => ?_
  have fitsIndex := fits_pushed fits valueIndex
  refine leaves_popCoercedInt fitsIndex fun attrNo => ?_
  exact leaves_popRecord (fits_pushed fitsIndex attrNo) (second valueIndex attrNo)

end Pops

omit [Doubles Double] in
/-- Code on the environment, in the memory. -/
theorem leaves_onEnvironment {Result : Type} {pre : Environment Double World → Prop}
    {code : EnvironmentM Double World Result} (leaves : Leaves kept pre code) :
    Leaves kept (fun memory => pre memory.environment) (onEnvironment code) := by
  apply Ensures.zoom leaves
  exact fun _ _ => rfl

section Writes

variable (holds : kept world)

include holds

/-- The property holds before the instruction. -/
theorem kept_of_memoryOn (memory : Memory Double World)
    (on : MemoryOn kept host world name opened above memory) : kept memory.environment.world := by
  rw [on.isOpen.1]
  exact holds

variable {write : WriteCall World}

/-- An instruction that has its operands writes to the record that they name. -/
theorem leaves_writeRecord (op : String) (operand : instr.operand = .string name)
    (calls : ∀ {fileName id}, SparedRecord kept host world fileName id →
      ∀ {fileSystem}, host.fileSystem = some fileSystem →
        ∀ value, kept (exec (write fileSystem fileName id value) world).2) :
    Leaves kept (MemoryOn kept host world name opened 0) (writeRecord host op write instr ip) := by
  refine leaves_named operand (leaves_popRecord (kept_of_memoryOn holds) fun id value => ?_)
  have puts (memory : Memory Double World)
      (on : MemoryOn kept host world name opened 0
        { memory with stack := id :: value :: memory.stack }) :=
    leaves_onEnvironment (leaves_putRecord holds op fun handle fileSystem isOpen known =>
      calls (on.spared id value _ rfl handle isOpen) known (valueToString value)) memory on.isOpen
  refine Ensures.bind puts fun _ => ?_
  exact .pure fun _ kept => kept

/-- A write of a record with an `ELSE`. -/
theorem leaves_writeRecordTry (operand : instr.operand = .string name)
    (calls : ∀ {fileName id}, SparedRecord kept host world fileName id →
      ∀ {fileSystem}, host.fileSystem = some fileSystem →
        ∀ value, kept (exec (write fileSystem fileName id value) world).2) :
    Leaves kept (MemoryOn kept host world name opened 0) (writeRecordTry host write instr ip) := by
  refine leaves_named operand (leaves_popRecord (kept_of_memoryOn holds) fun id value => ?_)
  have puts (memory : Memory Double World)
      (on : MemoryOn kept host world name opened 0
        { memory with stack := id :: value :: memory.stack }) :=
    leaves_onEnvironment (leaves_putRecordTry holds fun handle fileSystem isOpen known =>
      calls (on.spared id value _ rfl handle isOpen) known (valueToString value)) memory on.isOpen
  refine Ensures.bind puts fun _ => ?_
  exact (Frames.pushFlag _).keeps

/-- A write of a value. -/
theorem leaves_writeV (operand : instr.operand = .string name) :
    Leaves kept (MemoryOn kept host world name opened 2) (writeV host instr ip) := by
  refine leaves_named operand (leaves_popCell (kept_of_memoryOn holds) ?_)
  intro valueIndex attrNo id value memory on
  exact leaves_onEnvironment (leaves_putValue holds fun handle _ isOpen known =>
    (on.spared id value _ rfl handle isOpen).values known _ _ _) memory on.isOpen

/-- A write of a value with an `ELSE`. -/
theorem leaves_writeVTry (operand : instr.operand = .string name) :
    Leaves kept (MemoryOn kept host world name opened 2) (writeVTry host instr ip) := by
  refine leaves_named operand (leaves_popCell (kept_of_memoryOn holds) ?_)
  intro valueIndex attrNo id value
  have puts (memory : Memory Double World)
      (on : MemoryOn kept host world name opened 2 { memory with
        stack := valueIndex :: attrNo :: id :: value :: memory.stack }) :=
    leaves_onEnvironment (leaves_putValueTry holds fun handle _ isOpen known =>
      (on.spared id value _ rfl handle isOpen).values known (coerceToInt attrNo)
        (coerceToInt valueIndex) (valueToString value)) memory on.isOpen
  refine Ensures.bind puts fun _ => ?_
  exact (Frames.pushFlag _).keeps

end Writes

/-! ## Steps -/

omit [Doubles Double] in
/-- An instruction without a file variable stops before it writes. -/
theorem leaves_unnamed {Result : Type} (unnamed : ∀ name, instr.operand ≠ .string name)
    {rest : String → MemoryM Double World Result} :
    Leaves kept (fun memory => kept memory.environment.world)
      (nameOperandAtIp instr ip >>= rest) := by
  unfold nameOperandAtIp stringOperandAtIp
  split
  · next text known => exact absurd known (unnamed text)
  · exact Ensures.throw fun _ holds => holds

omit [Doubles Double] in
/-- An instruction that goes on with the next one. -/
theorem leaves_andNext {pre : Memory Double World → Prop} {code : MemoryM Double World Unit}
    (leaves : Leaves kept pre code) :
    Leaves kept (fun machine => pre machine.memory) (andNext code) := by
  have done : Leaves kept (fun machine => pre machine.memory) (onMemory code) := by
    apply Ensures.zoom leaves
    exact fun _ _ => rfl
  exact done.bind fun _ => .pure fun _ holds => holds

omit [Doubles Double] in
/-- An instruction that may meet a lock. -/
theorem leaves_orConflict {pre : Memory Double World → Prop} {locked : MemoryM Double World Bool}
    (op : String) (leaves : Leaves kept pre locked) :
    Leaves kept (fun machine => pre machine.memory) (orConflict op locked) := by
  refine Ensures.bind (Ensures.zoom leaves fun _ _ => rfl) fun conflict => ?_
  split
  · exact (Frames.handleRecordLockConflict op).keeps
  · exact .pure fun _ holds => holds

/-- An instruction that writes leaves the world as the writing of its record does. -/
theorem leaves_execute_writing (holds : kept world)
    (writing : Frames.writesRecords instr.op = true) (operand : instr.operand = .string name) :
    Leaves kept (fun machine =>
        MemoryOn kept host world name opened (aboveId instr.op) machine.memory)
      (execute host instr ip) := by
  simp only [Frames.writesRecords, Bool.or_eq_true, decide_eq_true_eq] at writing
  obtain ⟨op, _, _⟩ := instr
  obtain ((((rfl | rfl) | rfl) | rfl) | rfl) | rfl := writing
  · exact leaves_orConflict _ (leaves_writeRecord holds _ operand SparedRecord.write)
  · exact leaves_andNext (leaves_writeRecordTry holds operand SparedRecord.write)
  · exact leaves_orConflict _ (leaves_writeRecord holds _ operand SparedRecord.writeU)
  · exact leaves_andNext (leaves_writeRecordTry holds operand SparedRecord.writeU)
  · exact leaves_andNext (leaves_writeV holds operand)
  · exact leaves_andNext (leaves_writeVTry holds operand)

/-- A write without a name fails before it writes. -/
theorem leaves_execute_unnamed (writing : Frames.writesRecords instr.op = true)
    (unnamed : ∀ name, instr.operand ≠ .string name) :
    Leaves kept (fun machine : Machine Double World => kept machine.memory.environment.world)
      (execute host instr ip) := by
  simp only [Frames.writesRecords, Bool.or_eq_true, decide_eq_true_eq] at writing
  obtain ⟨op, _, _⟩ := instr
  obtain ((((rfl | rfl) | rfl) | rfl) | rfl) | rfl := writing
  · exact leaves_orConflict _ (leaves_unnamed unnamed)
  · exact leaves_andNext (leaves_unnamed unnamed)
  · exact leaves_orConflict _ (leaves_unnamed unnamed)
  · exact leaves_andNext (leaves_unnamed unnamed)
  · exact leaves_andNext (leaves_unnamed unnamed)
  · exact leaves_andNext (leaves_unnamed unnamed)

/-- The `INPUT` instructions change the input alone. -/
theorem keeps_execute_input (reading : IgnoresInput.readsInput instr.op = true) :
    Leaves kept (fun machine : Machine Double World => kept machine.memory.environment.world)
      (execute host instr ip) := by
  have line (op : OpCode) : Leaves kept (fun environment : Environment Double World =>
      kept environment.world) (readInputLine op) := by
    refine .get fun environment holds => ?_
    split
    · rintro _ rfl
      exact holds
    · rintro _ rfl
      exact holds
  have pushed {code : EnvironmentM Double World (Value Double)}
      (leaves : Leaves kept (fun environment => kept environment.world) code) :
      Leaves kept (fun machine => kept machine.memory.environment.world)
        (andNext (pushFrom code)) := by
    have done : Leaves kept (fun memory : Memory Double World => kept memory.environment.world)
        (onEnvironment code) := by
      apply Ensures.zoom leaves
      exact fun _ _ => rfl
    exact leaves_andNext (done.bind fun _ => (Frames.push _).keeps)
  simp only [IgnoresInput.readsInput, Bool.or_eq_true, decide_eq_true_eq] at reading
  obtain ⟨op, _, _⟩ := instr
  obtain (rfl | rfl) | rfl := reading
  · refine pushed (Ensures.bind (line _) fun text => ?_)
    split
    · exact (Frames.throw _).keeps
    · exact (Frames.pure _).keeps
  · refine pushed (Ensures.bind (line _) fun text => ?_)
    split
    · exact (Frames.throw _).keeps
    · exact (Frames.pure _).keeps
  · exact pushed (Ensures.bind (line _) fun text => (Frames.pure _).keeps)

end Instructions

variable {program : List (Instruction Double)} {machine : Machine Double World}

/-- What an instruction leaves, when the record that it writes to is none of those whose writing
breaks a property. -/
theorem world_of_execute {instr : Instruction Double} (spared : Spared kept host)
    (found : program[machine.ip]? = some instr)
    (written : ∀ fileName id, writtenRecord program machine = some (fileName, id) →
      SparedRecord kept host machine.memory.environment.world fileName id)
    (holds : kept machine.memory.environment.world) :
    kept (exec (execute host instr machine.ip) machine).2.memory.environment.world := by
  cases writing : Frames.writesRecords instr.op with
  | false =>
      cases reading : IgnoresInput.readsInput instr.op with
      | false =>
          refine (Frames.execute instr machine.ip spared reading ?_).keeps.after holds
          rw [writing]
          exact nofun
      | true => exact (keeps_execute_input reading).after holds
  | true =>
      cases operand : instr.operand with
      | string name =>
          refine (leaves_execute_writing holds writing operand).after ⟨⟨rfl, rfl⟩, ?_⟩
          intro id value rest onStack handle isOpen
          refine written handle.name (valueToString id) ?_
          simp [writtenRecord, found, writing, operand, onStack, isOpen]
      | int number =>
          exact (leaves_execute_unnamed writing (by simp [operand])).after holds
      | double number =>
          exact (leaves_execute_unnamed writing (by simp [operand])).after holds

/-- A step that writes to none of the records whose writing breaks a property keeps it. -/
theorem world_of_step (spared : Spared kept host)
    (written : ∀ fileName id, writtenRecord program machine = some (fileName, id) →
      SparedRecord kept host machine.memory.environment.world fileName id)
    (holds : kept machine.memory.environment.world) :
    kept (exec (step host program) machine).2.memory.environment.world := by
  rw [exec_step]
  cases found : program[machine.ip]? with
  | none => exact holds
  | some instr =>
      have executed := world_of_execute spared found written holds
      dsimp only
      rcases result : exec (execute host instr machine.ip) machine with ⟨_ | flow, after⟩
      · rwa [result] at executed
      · rwa [result] at executed

end Gemini.VM
