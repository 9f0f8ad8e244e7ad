import Gemini.VM.Runtime

/-!
# What instructions take from the operand stack

`stackEffect` gives, for each instruction after which the machine goes on with the next one,
how many values it takes and how many it leaves. `heights_execute` says that the instruction
does just that, and that with enough values on the stack it never fails for want of them.
The instructions that no compiler emits have no effect here.
-/

namespace Gemini.VM

open Gemini.Semantics
open Gemini.Semantics.Program (Obeys ThrowsOnly)

variable {Double World Result : Type}

/-- The failures of an instruction that finds too few values, or the wrong number of them. -/
def Fault.OfStack : Fault → Prop
  | .stackUnderflow => True
  | .arityMismatch => True
  | _ => False

/-- Code that never blames the stack. -/
abbrev Harmless (code : EnvironmentM Double World Result) : Prop :=
  ThrowsOnly (fun fault => ¬ fault.OfStack) code

/-! ## The environment -/

section Environment

/-- A call of the host whose error is a value. -/
theorem harmless_attempt {Error : Type} (call : Program World Error Result) :
    Harmless (attempt call : EnvironmentM Double World (Except Error Result)) :=
  fun _ _ => trivial

/-- A call of the files blames the files. -/
theorem harmless_callFiles (call : Program World FileError Result) :
    Harmless (callFiles call : EnvironmentM Double World Result) := by
  refine .bind (harmless_attempt call) fun outcome => ?_
  cases outcome with
  | ok result => exact .pure result
  | error error => exact .throw id

theorem harmless_readInputLine (op : OpCode) :
    Harmless (readInputLine op : EnvironmentM Double World String) := by
  refine .bind .get fun environment => ?_
  split
  · exact .throw id
  · exact .bind (.set _) fun _ => .pure _

theorem harmless_inputStr : Harmless (inputStr : EnvironmentM Double World (Value Double)) :=
  .bind (harmless_readInputLine _) fun _ => .pure _

theorem harmless_requireWritable (name : String) :
    Harmless (requireWritable name : EnvironmentM Double World Unit) := by
  unfold requireWritable
  split
  · exact .throw id
  · exact .pure ()

theorem harmless_loadVariable (host : Host Double World) (name : String) :
    Harmless (loadVariable host name) := by
  refine .bind .get fun environment => ?_
  split
  · exact .pure _
  · split
    · exact .throw id
    · exact .pure _

theorem harmless_findArray (name : String) {missing : Fault} (harmless : ¬ missing.OfStack) :
    Harmless (findArray name missing : EnvironmentM Double World (List (Value Double))) := by
  refine .bind .get fun environment => ?_
  split
  · exact .throw harmless
  · exact .pure _

theorem harmless_dimension (name : String) (size : Int) :
    Harmless (dimension name size : EnvironmentM Double World Unit) := by
  unfold dimension
  split
  · exact .throw id
  · exact .change _

theorem harmless_loadElement (name : String) (idx : Int) :
    Harmless (loadElement name idx : EnvironmentM Double World (Value Double)) := by
  refine .bind (harmless_findArray name id) fun elements => ?_
  split
  · exact .throw id
  · split
    · exact .throw id
    · exact .pure _

theorem harmless_storeElement (name : String) (idx : Int) (value : Value Double) :
    Harmless (storeElement name idx value : EnvironmentM Double World Unit) := by
  refine .bind (harmless_findArray name id) fun elements => ?_
  split
  · exact .throw id
  · exact .change _

theorem harmless_requireOpenFile (host : Host Double World) (op fileVar : String) :
    Harmless (requireOpenFile host op fileVar) := by
  refine .bind .get fun environment => ?_
  split
  · exact .throw id
  · split
    · exact .throw id
    · exact .pure _

theorem harmless_findOpenFile (host : Host Double World) (fileVar : String) :
    Harmless (findOpenFile host fileVar) :=
  .bind .get fun _ => .pure _

theorem harmless_openNamed (host : Host Double World) (fileVar fileName : String) :
    Harmless (openNamed host fileVar fileName) := by
  unfold openNamed
  split
  · exact .throw id
  · refine .bind (harmless_attempt _) fun outcome => ?_
    split
    · exact .change _
    · exact .throw id
    · exact .throw id

theorem harmless_openNamedTry (host : Host Double World) (fileVar fileName : String) :
    Harmless (openNamedTry host fileVar fileName) := by
  unfold openNamedTry
  split
  · exact .pure _
  · refine .bind (harmless_attempt _) fun outcome => ?_
    split
    · exact .bind (.change _) fun _ => .pure _
    · exact .pure _
    · exact .throw id

theorem harmless_fetchRecord (host : Host Double World) (op : String) (read : ReadCall World)
    (fileVar id : String) : Harmless (fetchRecord host op read fileVar id) := by
  refine .bind (harmless_requireOpenFile host op fileVar) fun _ =>
    .bind (harmless_attempt _) fun outcome => ?_
  split
  · exact .pure _
  · exact .throw fun blames => blames
  · split
    · exact .pure _
    · exact .throw fun blames => blames

theorem harmless_fetchRecordTry (host : Host Double World) (read : ReadCall World)
    (fileVar id : String) : Harmless (fetchRecordTry host read fileVar id) := by
  refine .bind (harmless_findOpenFile host fileVar) fun found => ?_
  split
  · exact .pure _
  · refine .bind (harmless_attempt _) fun outcome => ?_
    split
    · exact .pure _
    · split
      · exact .pure _
      · exact .throw fun blames => blames

theorem harmless_putRecord (host : Host Double World) (op : String) (write : WriteCall World)
    (fileVar id value : String) : Harmless (putRecord host op write fileVar id value) := by
  refine .bind (harmless_requireOpenFile host op fileVar) fun _ =>
    .bind (harmless_attempt _) fun outcome => ?_
  split
  · exact .bind (.change _) fun _ => .pure _
  · split
    · exact .pure _
    · exact .throw fun blames => blames

theorem harmless_putRecordTry (host : Host Double World) (write : WriteCall World)
    (fileVar id value : String) : Harmless (putRecordTry host write fileVar id value) := by
  refine .bind (harmless_findOpenFile host fileVar) fun found => ?_
  split
  · exact .pure _
  · refine .bind (harmless_attempt _) fun outcome => ?_
    split
    · exact .bind (.change _) fun _ => .pure _
    · split
      · exact .pure _
      · exact .throw fun blames => blames
    · exact .pure _

theorem harmless_releaseNamed (host : Host Double World) (fileVar id : String) :
    Harmless (releaseNamed host fileVar id) :=
  .bind (harmless_requireOpenFile host "RELEASE" fileVar) fun _ =>
    .bind (harmless_callFiles _) fun _ => .pure _

theorem harmless_nextRecord (host : Host Double World) (fileVar : String) :
    Harmless (nextRecord host fileVar) := by
  refine .bind (harmless_requireOpenFile host "READNEXT" fileVar) fun _ =>
    .bind (harmless_attempt _) fun outcome => ?_
  split
  · refine .bind (.change _) fun _ => ?_
    split
    · exact .pure _
    · exact .throw id
  · exact .throw id
  · exact .throw id

theorem harmless_nextRecordTry (host : Host Double World) (fileVar : String) :
    Harmless (nextRecordTry host fileVar) := by
  refine .bind (harmless_findOpenFile host fileVar) fun found => ?_
  split
  · exact .pure _
  · refine .bind (harmless_attempt _) fun outcome => ?_
    split
    · exact .bind (.change _) fun _ => .pure _
    · exact .pure _

theorem harmless_evaluateDictFieldCell (fileSystem : FileBackend World)
    (dataFileName token : String) (dataRecord : PickFS.StructuredRecord) :
    Harmless (evaluateDictFieldCell fileSystem dataFileName token dataRecord :
      EnvironmentM Double World String) := by
  refine .bind (harmless_callFiles _) fun ref => ?_
  split
  · exact .pure _
  · exact .throw id

theorem harmless_resolveSlot (host : Host Double World) (fileVar token : String) :
    Harmless (resolveSlot host fileVar token) := by
  refine .bind (harmless_findOpenFile host fileVar) fun found => ?_
  split
  · exact .pure _
  · refine .bind (harmless_attempt _) fun outcome => ?_
    split
    · exact .pure _
    · exact .pure _

theorem harmless_putValue (host : Host Double World) (fileVar id : String)
    (attrNo valueIndex : Int) (value : String) :
    Harmless (putValue host fileVar id attrNo valueIndex value) :=
  .bind (harmless_requireOpenFile host "WRITEV" fileVar) fun _ =>
    .bind (harmless_callFiles _) fun _ => .change _

theorem harmless_putValueTry (host : Host Double World) (fileVar id : String)
    (attrNo valueIndex : Int) (value : String) :
    Harmless (putValueTry host fileVar id attrNo valueIndex value) := by
  refine .bind (harmless_findOpenFile host fileVar) fun found => ?_
  split
  · exact .pure _
  · refine .bind (harmless_attempt _) fun outcome => ?_
    split
    · exact .bind (.change _) fun _ => .pure _
    · exact .pure _

variable [Doubles Double]

theorem harmless_advanceLoop (frame : ForFrame) :
    Harmless (advanceLoop frame : EnvironmentM Double World Bool) :=
  .bind (harmless_requireWritable _) fun _ =>
    .bind .get fun _ => .bind (.change _) fun _ => .pure _

theorem harmless_fillArray (name : String) (scalar : Value Double) :
    Harmless (fillArray name scalar : EnvironmentM Double World Unit) :=
  .bind (harmless_findArray name id) fun _ => .change _

theorem harmless_copyArray (dst src : String) :
    Harmless (copyArray dst src : EnvironmentM Double World Unit) := by
  refine .bind (harmless_findArray dst id) fun _ => .bind (harmless_findArray src id) fun _ => ?_
  split
  · exact .throw id
  · exact .change _

theorem harmless_loadArrayFromRecord (name raw : String) :
    Harmless (loadArrayFromRecord name raw : EnvironmentM Double World Unit) := by
  refine .bind (harmless_findArray name id) fun _ => ?_
  dsimp only
  split
  · exact .throw id
  · exact .change _

theorem harmless_recordOfArray (name : String) :
    Harmless (recordOfArray name : EnvironmentM Double World String) :=
  .bind (harmless_findArray name id) fun _ => .pure _

theorem harmless_fetchValue (host : Host Double World) (fileVar id : String)
    (attrSlot : Value Double) (valueIndex : Int) :
    Harmless (fetchValue host fileVar id attrSlot valueIndex) := by
  refine .bind (harmless_requireOpenFile host "READV" fileVar) fun _ =>
    .bind (harmless_callFiles _) fun found => ?_
  split
  · exact .throw fun blames => blames
  · dsimp only
    split
    · split
      · exact .throw fun blames => blames
      · exact .bind (harmless_evaluateDictFieldCell _ _ _ _) fun _ => .pure _
    · split
      · exact .pure _
      · exact .throw fun blames => blames

theorem harmless_fetchValueTry (host : Host Double World) (fileVar id : String)
    (attrSlot : Value Double) (valueIndex : Int) :
    Harmless (fetchValueTry host fileVar id attrSlot valueIndex) := by
  refine .bind (harmless_findOpenFile host fileVar) fun found => ?_
  split
  · exact .pure _
  · refine .bind (harmless_callFiles _) fun found => ?_
    split
    · exact .pure _
    · dsimp only
      split
      · split
        · exact .pure _
        · refine .bind (harmless_callFiles _) fun ref => ?_
          split
          · exact .bind (harmless_evaluateDictFieldCell _ _ _ _) fun _ => .pure _
          · exact .pure _
      · exact .pure _

end Environment

/-! ## The operand stack -/

/-- With `before` values on the stack the code leaves as many as its result says, or throws
something that is not the fault of the stack. -/
def Heights (before : Nat) (code : MemoryM Double World Result) (after : Result → Nat) : Prop :=
  Obeys (fun memory => memory.stack.length = before) code
    (fun result memory => memory.stack.length = after result) (fun fault => ¬ fault.OfStack)

namespace Heights

variable {Value' : Type} {height height' : Nat} {after : Result → Nat}

/-- Two codes after each other. -/
theorem bind {code : MemoryM Double World Value'} {rest : Value' → MemoryM Double World Result}
    {middle : Value' → Nat} (first : Heights height code middle)
    (second : ∀ value, Heights (middle value) (rest value) after) :
    Heights height (code >>= rest) after :=
  Obeys.bind first second

/-- A result. -/
theorem done (result : Result) (reached : height = after result) :
    Heights height (pure result : MemoryM Double World Result) after :=
  Obeys.pure fun _ here => here.trans reached

/-- An error that does not blame the stack. -/
theorem fails {fault : Fault} (harmless : ¬ fault.OfStack) :
    Heights height (throw fault : MemoryM Double World Result) after :=
  Obeys.throw harmless

/-- A value that is pushed. -/
theorem push (value : Value Double) :
    Heights height (push value : MemoryM Double World Unit) (fun _ => height + 1) :=
  fun _ here => congrArg (· + 1) here

/-- A value that is popped. -/
theorem pop : Heights (height + 1) (pop : MemoryM Double World (Value Double)) fun _ => height := by
  rintro ⟨stack, environment⟩ here
  obtain ⟨value, rest, rfl⟩ := List.exists_cons_of_length_eq_add_one here
  simpa using here

/-- Code on the environment. -/
theorem environment {code : EnvironmentM Double World Result} (harmless : Harmless code) :
    Heights height (onEnvironment code) fun _ => height := by
  intro memory here
  have safe := harmless memory.environment trivial
  rw [onEnvironment, Program.exec_zoom]
  rcases ran : Program.exec code memory.environment with ⟨fault | result, after⟩
  · rw [ran] at safe
    exact safe
  · exact here

theorem stringOperandAtIp (instr : Instruction Double) (ip : Nat) :
    Heights height (stringOperandAtIp instr ip : MemoryM Double World String) fun _ => height := by
  unfold VM.stringOperandAtIp
  split
  · exact .done _ rfl
  · exact .fails id

theorem intOperandAtIp (instr : Instruction Double) (ip : Nat) :
    Heights height (intOperandAtIp instr ip : MemoryM Double World Int) fun _ => height := by
  unfold VM.intOperandAtIp
  split
  · exact .done _ rfl
  · exact .fails id

theorem floatOperandAtIp (instr : Instruction Double) (ip : Nat) :
    Heights height (floatOperandAtIp instr ip : MemoryM Double World Double) fun _ => height := by
  unfold VM.floatOperandAtIp
  split
  · exact .done _ rfl
  · exact .fails id

theorem nameOperandAtIp (instr : Instruction Double) (ip : Nat) :
    Heights height (nameOperandAtIp instr ip : MemoryM Double World String) fun _ => height :=
  .bind (.stringOperandAtIp instr ip) fun _ => .done _ rfl

theorem pushFrom {code : EnvironmentM Double World (Value Double)} (harmless : Harmless code) :
    Heights height (pushFrom code) fun _ => height + 1 :=
  .bind (.environment harmless) fun _ => .push _

theorem pushFlagged (found : Option String) :
    Heights height (pushFlagged found : MemoryM Double World Unit) fun _ => height + 2 := by
  cases found with
  | none => exact .bind (.push _) fun _ => .push _
  | some text => exact .bind (.push _) fun _ => .push _

theorem popInt (op : OpCode) :
    Heights (height + 1) (popInt op : MemoryM Double World Int) fun _ => height := by
  refine .bind .pop fun value => ?_
  split
  · exact .done _ rfl
  · exact .fails id

/-- An operator takes two values and leaves one. -/
theorem binary {operation : Value Double → Value Double → Except Fault (Value Double)}
    (harmless : ∀ a b fault, operation a b = .error fault → ¬ fault.OfStack) :
    Heights (height + 2) (binary operation : MemoryM Double World Unit) fun _ => height + 1 := by
  refine .bind .pop fun b => .bind .pop fun a => ?_
  split
  · exact .push _
  · exact .fails (harmless _ _ _ ‹_›)

variable [Doubles Double]

theorem popCoercedInt :
    Heights (height + 1) (popCoercedInt : MemoryM Double World Int) fun _ => height :=
  .bind .pop fun _ => .done _ rfl

theorem popText :
    Heights (height + 1) (popText : MemoryM Double World String) fun _ => height :=
  .bind .pop fun _ => .done _ rfl

theorem arithmetic (onInts : Int → Int → Int) (onDoubles : Double → Double → Double) :
    Heights (height + 2) (arithmetic onInts onDoubles : MemoryM Double World Unit)
      fun _ => height + 1 :=
  .binary fun _ _ _ failed => by cases failed

theorem comparison (ctx : String) (holds : Ordering → Bool) :
    Heights (height + 2) (comparison ctx holds : MemoryM Double World Unit)
      fun _ => height + 1 := by
  refine .binary fun a b fault failed => ?_
  unfold comparisonOf at failed
  split at failed
  · cases failed
    exact id
  · cases failed

theorem divide : Heights (height + 2) (divide : MemoryM Double World Unit) fun _ => height + 1 := by
  refine .binary fun a b fault failed => ?_
  unfold quotientOf at failed
  split at failed
  · cases failed
    exact id
  · dsimp only at failed
    split at failed <;> cases failed

end Heights

/-! ## Builtins -/

/-- A host whose registry has the functions of BASIC, each with a handler that takes its
arguments from the stack and leaves its result there. -/
structure RunsBasic (host : Host Double World) (handlers : BasicFunction → Handler Double World) :
    Prop where
  registered : ∀ registry, host.languageRegistry = some registry →
    registry kNamespaceIdBasic = some (registerBasicLanguage handlers)
  balanced : ∀ function status stack world after worldAfter,
    function.arity ≤ stack.length →
    Program.exec (handlers function status stack) world = (.ok after, worldAfter) →
    after.length + function.arity = stack.length + 1

/-- A call with the number of arguments that its function is registered with. -/
def CallFuncOperand.Calls (call : CallFuncOperand) (function : BasicFunction) : Prop :=
  call.namespaceId = kNamespaceIdBasic ∧ call.functionId = function.id ∧
    call.argCount = function.arity

/-- A builtin takes its arguments and leaves its result. -/
theorem heights_callFunc {host : Host Double World}
    {handlers : BasicFunction → Handler Double World} (basic : RunsBasic host handlers)
    {call : CallFuncOperand} {function : BasicFunction} (calls : call.Calls function)
    (height : Nat) :
    Heights (height + function.arity) (callFunc host call) fun _ => height + 1 := by
  obtain ⟨inBasic, number, arity⟩ := calls
  unfold callFunc
  split
  · exact .fails id
  · rename_i registry found
    have entry : (registerBasicLanguage handlers)[function.id]? =
        some { arity := function.arity, fn := some (handlers function) } := by
      simp [registerBasicLanguage, BasicFunction.all_id]
    have enough : ¬ ((height + function.arity : Nat) : Int) < function.arity := by omega
    rintro memory here
    have handled := basic.balanced function memory.environment.statusCode memory.stack
      memory.environment.world
    simp only [Program.exec_bind, Program.exec_get, here, arity, enough, if_false, dispatch,
      inBasic, basic.registered registry found, number, entry, ne_eq, not_true_eq_false,
      runHandler, onEnvironment, Program.exec_zoom, attempt, Program.exec_caught]
    rcases ran : Program.exec (handlers function memory.environment.statusCode memory.stack)
      memory.environment.world with ⟨what | after, world⟩
    · exact id
    · have taken := handled after world (by omega) ran
      have left : after.length = height + 1 := by omega
      simpa using left

/-! ## Instructions -/

/-- How many values an instruction takes and leaves, for those that the machine goes on
after. -/
def stackEffect (instr : Instruction Double) : Option (Nat × Nat) :=
  match instr.op with
  | .printEol | .clearVars | .closeFile | .matCopy => some (0, 0)
  | .pushInt | .pushFlt | .pushStr | .loadVar | .inputStr | .matStoreToRec | .readNext =>
      some (0, 1)
  | .readNextTry => some (0, 2)
  | .storeVar | .printVal | .drop | .chain | .dimArray | .openFile | .releaseRec | .matInit
  | .matLoadFromRec => some (1, 0)
  | .coerceInt | .loadArr | .resolveDictAttr | .openFileTry => some (1, 1)
  | .readRecTry | .readRecUTry => some (1, 2)
  | .storeArr => some (2, 0)
  | .add | .sub | .mul | .div | .eq | .ne | .lt | .le | .gt | .ge | .writeRecTry
  | .writeRecUTry => some (2, 1)
  | .extractAttr | .readV => some (3, 1)
  | .readVTry => some (3, 2)
  | .writeV => some (4, 0)
  | .writeVTry => some (4, 1)
  | .callFunc => some (instr.callFunc.argCount.toNat, 1)
  | _ => none

/-- The same for the instructions that can meet a lock conflict, which leave nothing then. -/
def lockingEffect : OpCode → Option (Nat × Nat)
  | .readRec | .readRecU => some (1, 1)
  | .writeRec | .writeRecU => some (2, 0)
  | _ => none

variable [Doubles Double]

/-- An instruction takes and leaves what its effect says. -/
theorem heights_execute {host : Host Double World}
    {handlers : BasicFunction → Handler Double World} (basic : RunsBasic host handlers)
    {instr : Instruction Double} {takes leaves : Nat}
    (effect : stackEffect instr = some (takes, leaves))
    (calls : instr.op = .callFunc → ∃ function, instr.callFunc.Calls function) (ip height : Nat) :
    ∃ code, execute host instr ip = andNext code ∧
      Heights (height + takes) code fun _ => height + leaves := by
  obtain ⟨op, operand, call⟩ := instr
  cases op <;> simp only [stackEffect, Option.some.injEq, Prod.mk.injEq, reduceCtorEq] at effect
  all_goals
    obtain ⟨rfl, rfl⟩ := effect
    refine ⟨_, rfl, ?_⟩
  case pushInt => exact .bind (.intOperandAtIp _ _) fun _ => .push _
  case pushFlt => exact .bind (.floatOperandAtIp _ _) fun _ => .push _
  case pushStr => exact .bind (.stringOperandAtIp _ _) fun _ => .push _
  case add | sub | mul => exact .arithmetic _ _
  case div => exact .divide
  case eq | ne | lt | le | gt | ge => exact .comparison _ _
  case drop => exact .bind .pop fun _ => .done _ rfl
  case printVal => exact .bind .popText fun _ => .environment (.change _)
  case printEol | clearVars => exact .environment (.change _)
  case inputStr => exact .pushFrom harmless_inputStr
  case coerceInt => exact .bind .popCoercedInt fun _ => .push _
  case dimArray =>
      exact .bind (.nameOperandAtIp _ _) fun _ => .bind (.environment (harmless_requireWritable _))
        fun _ => .bind .popCoercedInt fun _ => .environment (harmless_dimension _ _)
  case loadArr =>
      exact .bind (.nameOperandAtIp _ _) fun _ => .bind .popCoercedInt fun _ =>
        .pushFrom (harmless_loadElement _ _)
  case storeArr =>
      exact .bind (.nameOperandAtIp _ _) fun _ => .bind (.environment (harmless_requireWritable _))
        fun _ => .bind .popCoercedInt fun _ => .bind .pop fun _ =>
        .environment (harmless_storeElement _ _ _)
  case matInit =>
      exact .bind (.nameOperandAtIp _ _) fun _ => .bind (.environment (harmless_requireWritable _))
        fun _ => .bind .pop fun _ => .environment (harmless_fillArray _ _)
  case matCopy =>
      refine .bind (.stringOperandAtIp _ _) fun operand => ?_
      split
      · exact .fails id
      · exact .bind (.environment (harmless_requireWritable _)) fun _ =>
          .environment (harmless_copyArray _ _)
  case matLoadFromRec =>
      exact .bind (.nameOperandAtIp _ _) fun _ => .bind (.environment (harmless_requireWritable _))
        fun _ => .bind .popText fun _ => .environment (harmless_loadArrayFromRecord _ _)
  case matStoreToRec =>
      exact .bind (.nameOperandAtIp _ _) fun _ =>
        .bind (.environment (harmless_recordOfArray _)) fun _ => .push _
  case callFunc =>
      obtain ⟨function, calls⟩ := calls rfl
      have arity : call.argCount.toNat = function.arity := by
        rw [show call.argCount = _ from calls.2.2, Int.toNat_natCast]
      rw [arity]
      exact heights_callFunc basic calls height
  case openFile =>
      exact .bind (.nameOperandAtIp _ _) fun _ => .bind .popText fun _ =>
        .environment (harmless_openNamed _ _ _)
  case openFileTry =>
      exact .bind (.nameOperandAtIp _ _) fun _ => .bind .popText fun _ =>
        .bind (.environment (harmless_openNamedTry _ _ _)) fun _ => .push _
  case readRecTry | readRecUTry =>
      exact .bind (.nameOperandAtIp _ _) fun _ => .bind .popText fun _ =>
        .bind (.environment (harmless_fetchRecordTry _ _ _ _)) fun _ => .pushFlagged _
  case writeRecTry | writeRecUTry =>
      exact .bind (.nameOperandAtIp _ _) fun _ => .bind .popText fun _ => .bind .popText fun _ =>
        .bind (.environment (harmless_putRecordTry _ _ _ _ _)) fun _ => .push _
  case releaseRec =>
      exact .bind (.nameOperandAtIp _ _) fun _ => .bind .popText fun _ =>
        .environment (harmless_releaseNamed _ _ _)
  case readNext =>
      exact .bind (.nameOperandAtIp _ _) fun _ => .pushFrom (harmless_nextRecord _ _)
  case readNextTry =>
      exact .bind (.nameOperandAtIp _ _) fun _ =>
        .bind (.environment (harmless_nextRecordTry _ _)) fun _ => .pushFlagged _
  case readV =>
      exact .bind (.nameOperandAtIp _ _) fun _ => .bind .popCoercedInt fun _ =>
        .bind .pop fun _ => .bind .popText fun _ => .pushFrom (harmless_fetchValue _ _ _ _ _)
  case readVTry =>
      exact .bind (.nameOperandAtIp _ _) fun _ => .bind .popCoercedInt fun _ =>
        .bind .pop fun _ => .bind .popText fun _ =>
        .bind (.environment (harmless_fetchValueTry _ _ _ _ _)) fun _ => .pushFlagged _
  case writeV =>
      exact .bind (.nameOperandAtIp _ _) fun _ => .bind .popCoercedInt fun _ =>
        .bind .popCoercedInt fun _ => .bind .popText fun _ => .bind .popText fun _ =>
        .environment (harmless_putValue _ _ _ _ _ _)
  case writeVTry =>
      exact .bind (.nameOperandAtIp _ _) fun _ => .bind .popCoercedInt fun _ =>
        .bind .popCoercedInt fun _ => .bind .popText fun _ => .bind .popText fun _ =>
        .bind (.environment (harmless_putValueTry _ _ _ _ _ _)) fun _ => .push _
  case extractAttr =>
      exact .bind .pop fun _ => .bind .pop fun _ => .bind .pop fun _ => .push _
  case resolveDictAttr =>
      exact .bind (.nameOperandAtIp _ _) fun _ => .bind .popText fun _ =>
        .pushFrom (harmless_resolveSlot _ _ _)
  case chain =>
      refine .bind .popText fun programName => ?_
      split
      · exact .fails id
      · exact .fails id
  case closeFile =>
      exact .bind (.nameOperandAtIp _ _) fun _ => .environment (.change _)
  case loadVar =>
      exact .bind (.nameOperandAtIp _ _) fun _ => .pushFrom (harmless_loadVariable _ _)
  case storeVar =>
      exact .bind (.nameOperandAtIp _ _) fun _ => .bind (.environment (harmless_requireWritable _))
        fun _ => .bind .pop fun _ => .environment (.change _)

/-- An instruction that can meet a lock conflict takes what its effect says, and leaves it
unless there is a conflict. -/
theorem heights_locking (host : Host Double World) {instr : Instruction Double}
    {takes leaves : Nat} (effect : lockingEffect instr.op = some (takes, leaves))
    (ip height : Nat) :
    ∃ name locked, execute host instr ip = orConflict name locked ∧
      Heights (height + takes) locked
        fun conflict => if conflict then height else height + leaves := by
  obtain ⟨op, operand, call⟩ := instr
  have reads (op : String) (read : ReadCall World) (instr : Instruction Double) :
      Heights (height + 1) (readRecord host op read instr ip)
        fun conflict => if conflict then height else height + 1 := by
    refine .bind (.nameOperandAtIp _ _) fun _ => .bind .popText fun _ =>
      .bind (.environment (harmless_fetchRecord _ _ _ _ _)) fun found => ?_
    cases found with
    | none => exact .done true rfl
    | some value => exact .bind (.push _) fun _ => .done false rfl
  have writes (op : String) (write : WriteCall World) (instr : Instruction Double) :
      Heights (height + 2) (writeRecord host op write instr ip)
        fun conflict => if conflict then height else height + 0 := by
    refine .bind (.nameOperandAtIp _ _) fun _ => .bind .popText fun _ => .bind .popText fun _ =>
      .bind (.environment (harmless_putRecord _ _ _ _ _ _)) fun written => .done _ ?_
    cases written <;> rfl
  cases op <;> simp only [lockingEffect, Option.some.injEq, Prod.mk.injEq, reduceCtorEq] at effect
  all_goals
    obtain ⟨rfl, rfl⟩ := effect
    refine ⟨_, _, rfl, ?_⟩
  case readRec | readRecU => exact reads _ _ _
  case writeRec | writeRecU => exact writes _ _ _

end Gemini.VM
