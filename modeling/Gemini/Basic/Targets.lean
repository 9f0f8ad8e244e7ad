import Gemini.Basic.Shape
import Gemini.VM.Parser

/-!
# The targets of emitted code

Every jump of an emitted program goes to the start of the line that its statement names, or
to the start of the code that the compiler has put after a statement or an arm. All of these
are indices of the program or the index just after it. The emitter adds a `HALT` there unless
one of the lines is an `END` and the code already ends in a `HALT`: a jump to the end of such a
program has no instruction to go to.
-/

namespace Gemini.Basic

open Gemini.VM
open CodeItem (plain toIndex toLine)
open Gemini.Data (forM_ok)

variable {Double : Type}

/-! ## Where the targets are -/

/-- The targets in the code of a statement, which is in a program from `start` to `stop`. -/
inductive TargetsPlaced (program : List (Instruction Double)) (target : Int → Option Nat) :
    Stmt Double → Nat → Nat → Prop
  | row {statement : Stmt Double} {start stop : Nat} (form : statement.form = .row) :
      TargetsPlaced program target statement start stop
  | reference {statement : Stmt Double} {op : OpCode} {line : Int} {start index : Nat}
      (form : statement.form = .reference op line) (found : target line = some index)
      (here : program[start]? = some { op, operand := .int index }) :
      TargetsPlaced program target statement start (start + 1)
  | branch {statement : Stmt Double} {thenArm : BranchArm Double} {start stop jz : Nat}
      (form : statement.form = .branch thenArm none) (after : start ≤ jz)
      (skips : program[jz]? = some { op := .jumpIfZero, operand := .int stop })
      (thenPlaced : TargetsPlaced program target thenArm.statement (jz + 1) stop) :
      TargetsPlaced program target statement start stop
  | branchToLine {statement : Stmt Double} {line : Int} {elseArm : BranchArm Double}
      {start stop jz : Nat} (form : statement.form = .branch (.line line) (some elseArm))
      (after : start ≤ jz)
      (skips : program[jz]? = some { op := .jumpIfZero, operand := .int (jz + 2 : Nat) })
      (thenPlaced : TargetsPlaced program target (.goto line) (jz + 1) (jz + 2))
      (elsePlaced : TargetsPlaced program target elseArm.statement (jz + 2) stop) :
      TargetsPlaced program target statement start stop
  | branchElse {statement thenStatement : Stmt Double} {elseArm : BranchArm Double}
      {start stop jz thenEnd : Nat}
      (form : statement.form = .branch (.inline thenStatement) (some elseArm))
      (after : start ≤ jz)
      (skips : program[jz]? = some { op := .jumpIfZero, operand := .int (thenEnd + 1 : Nat) })
      (thenPlaced : TargetsPlaced program target thenStatement (jz + 1) thenEnd)
      (leaves : program[thenEnd]? = some { op := .jump, operand := .int stop })
      (elsePlaced : TargetsPlaced program target elseArm.statement (thenEnd + 1) stop) :
      TargetsPlaced program target statement start stop
  | tried {statement : Stmt Double} {elseArm : BranchArm Double}
      {start stop jz doneEnd armStart : Nat} (form : statement.form = .onFile elseArm)
      (after : start ≤ jz)
      (fails : program[jz]? = some { op := .jumpIfZero, operand := .int (doneEnd + 1 : Nat) })
      (leaves : program[doneEnd]? = some { op := .jump, operand := .int stop })
      (clears : doneEnd + 1 ≤ armStart)
      (elsePlaced : TargetsPlaced program target elseArm.statement armStart stop) :
      TargetsPlaced program target statement start stop

/-- A statement refers to a line by a jump, a call or a handler. -/
theorem op_of_reference {statement : Stmt Double} {op : OpCode} {line : Int}
    (form : statement.form = .reference op line) :
    op = .jump ∨ op = .call ∨ op = .setOnErrorHandler := by
  cases statement
  case goto | gosub =>
      cases form
      simp
  case onError option =>
      cases option with
      | none => cases form
      | some targetLine =>
          cases form
          simp
  all_goals
    first
    | cases form
    | rename_i option
      cases option <;> cases form

/-- The lines that a statement refers to, by its form. -/
def Form.lineTargets : Form Double → List Int
  | .row => []
  | .reference _ line => [line]
  | .branch thenArm elseArm => thenArm.lineTargets ++ elseLineTargets elseArm
  | .onFile elseArm => elseArm.lineTargets

/-- The lines that a statement refers to, by the form of its code. -/
theorem lineTargets_eq (statement : Stmt Double) :
    statement.lineTargets = statement.form.lineTargets := by
  cases statement
  all_goals
    first
    | rfl
    | rename_i option
      cases option <;> rfl

theorem mem_lineTargets_statement {arm : BranchArm Double} {line : Int} :
    line ∈ arm.statement.lineTargets ↔ line ∈ arm.lineTargets := by
  cases arm <;> rfl

/-- The jumps in the code of a statement go where they should. -/
theorem targetsPlaced_of_built {program : List (Instruction Double)} {target : Int → Option Nat}
    {statement : Stmt Double} {code : Code Double} (built : Built statement code) (start : Nat)
    (known : ∀ line ∈ statement.lineTargets, (target line).isSome)
    (placed : ItemsAt program (fun line => (target line).getD 0) start (code start)) :
    TargetsPlaced program target statement start (start + (code start).length) := by
  have reference {statement : Stmt Double} {op : OpCode} {line : Int} {start : Nat}
      (form : statement.form = .reference op line) (known : (target line).isSome)
      (here : program[start]? = some { op, operand := .int ((target line).getD 0) }) :
      TargetsPlaced program target statement start (start + 1) := by
    obtain ⟨index, found⟩ := Option.isSome_iff_exists.mp known
    rw [found, Option.getD_some] at here
    exact .reference form found here
  induction built generalizing start with
  | row form => exact .row form
  | @reference statement op line form =>
      rw [lineTargets_eq, form] at known
      exact reference form (known line (by simp [Form.lineTargets])) placed.1
  | @branch statement thenArm condition thenCode form _ _ inductionHypothesis =>
      rw [lineTargets_eq, form] at known
      have shape := branchAt placed
      have thenPlaced := inductionHypothesis (start + condition.length + 1)
        (fun line refers => known line
          (List.mem_append_left _ (mem_lineTargets_statement.mp refers))) shape.thenAt
      rw [← shape.stopIs] at thenPlaced
      exact .branch form (Nat.le_add_right _ _) shape.skips thenPlaced
  | @branchToLine statement line elseArm condition elseCode form _ _ inductionHypothesis =>
      rw [lineTargets_eq, form] at known
      have shape := branchToLineAt placed
      have elsePlaced := inductionHypothesis (start + condition.length + 2)
        (fun line refers => known line
          (List.mem_append_right _ (mem_lineTargets_statement.mp refers))) shape.elseAt
      rw [← shape.stopIs] at elsePlaced
      exact .branchToLine form (Nat.le_add_right _ _) shape.skips
        (reference rfl (known line (List.mem_append_left _ (by simp [BranchArm.lineTargets])))
          shape.jumps) elsePlaced
  | @branchElse statement thenStatement elseArm condition thenCode elseCode form _ _ _
      thenHypothesis elseHypothesis =>
      rw [lineTargets_eq, form] at known
      have shape := branchElseAt placed
      have thenPlaced := thenHypothesis _
        (fun line refers => known line (List.mem_append_left _ refers)) shape.thenAt
      have elsePlaced := elseHypothesis _
        (fun line refers => known line
          (List.mem_append_right _ (mem_lineTargets_statement.mp refers))) shape.elseAt
      rw [← shape.stopIs] at elsePlaced
      exact .branchElse form (Nat.le_add_right _ _) shape.skips thenPlaced shape.leaves elsePlaced
  | @tried statement elseArm before onDone onFailed instr takes left elseCode form _ _ _ _ _ _ _
      inductionHypothesis =>
      rw [lineTargets_eq, form] at known
      simp only [Code.andThen, Code.ofInstrs, itemsAt_append, List.length_map] at placed ⊢
      have shape := triedAt placed.2
      have elsePlaced := inductionHypothesis _
        (fun line refers => known line (mem_lineTargets_statement.mp refers)) shape.elseAt
      rw [← shape.stopIs] at elsePlaced
      rw [List.length_append, List.length_map, ← Nat.add_assoc]
      exact .tried form (by omega) shape.fails shape.leaves (Nat.le_add_right _ _) elsePlaced

/-! ## Code that ends in a `HALT` -/

mutual

/-- Whether the code of a statement ends in a `HALT`. -/
def Stmt.endsInHalt : Stmt Double → Bool
  | .stop => true
  | .endStmt => true
  | .ifStmt _ thenArm none => thenArm.endsInHalt
  | .ifStmt _ _ (some elseArm) => elseArm.endsInHalt
  | .openStmt _ _ elseArm => elseEndsInHalt elseArm
  | .read _ _ _ elseArm => elseEndsInHalt elseArm
  | .readU _ _ _ elseArm => elseEndsInHalt elseArm
  | .write _ _ _ elseArm => elseEndsInHalt elseArm
  | .writeU _ _ _ elseArm => elseEndsInHalt elseArm
  | .readNext _ _ elseArm => elseEndsInHalt elseArm
  | .readV _ _ _ _ _ elseArm => elseEndsInHalt elseArm
  | .writeV _ _ _ _ _ elseArm => elseEndsInHalt elseArm
  | .matRead _ _ _ elseArm => elseEndsInHalt elseArm
  | .matWrite _ _ _ elseArm => elseEndsInHalt elseArm
  | _ => false

/-- Whether the code of an arm ends with a `HALT`. -/
def BranchArm.endsInHalt : BranchArm Double → Bool
  | .line _ => false
  | .inline statement => statement.endsInHalt

/-- Whether the code of an `ELSE` does. -/
def elseEndsInHalt : Option (BranchArm Double) → Bool
  | none => false
  | some arm => arm.endsInHalt

end

theorem endsInHalt_statement (arm : BranchArm Double) :
    arm.statement.endsInHalt = arm.endsInHalt := by
  cases arm <;> rfl

/-- Whether the code of a statement ends with a `HALT`, by its form. -/
theorem endsInHalt_eq (statement : Stmt Double) :
    statement.endsInHalt =
      match statement.form with
      | .row => statement.stops
      | .reference _ _ => false
      | .branch thenArm none => thenArm.endsInHalt
      | .branch _ (some elseArm) => elseArm.endsInHalt
      | .onFile elseArm => elseArm.endsInHalt := by
  cases statement
  all_goals
    first
    | rfl
    | rename_i option
      cases option <;> rfl

/-- The last of the items is a `HALT`. -/
def EndsInHalt (items : List (CodeItem Double)) : Prop :=
  items.getLast?.map CodeItem.op = some .halt

/-- Only the last part decides how code ends. -/
theorem endsInHalt_append {first : List (CodeItem Double)} (goesOn : ¬ EndsInHalt first)
    (second : List (CodeItem Double)) : EndsInHalt (first ++ second) ↔ EndsInHalt second := by
  unfold EndsInHalt at *
  rw [List.getLast?_append]
  cases second.getLast? with
  | none => simpa using goesOn
  | some item => rfl

theorem not_endsInHalt_concat (items : List (CodeItem Double)) {item : CodeItem Double}
    (goesOn : item.op ≠ .halt) : ¬ EndsInHalt (items ++ [item]) := by
  simpa [EndsInHalt] using goesOn

/-- A row ends with a `HALT` when its last instruction is one. -/
theorem endsInHalt_plain (code : List (Instruction Double)) :
    EndsInHalt (code.map plain) ↔ code.getLast?.map Instruction.op = some .halt := by
  rw [EndsInHalt, List.getLast?_map, Option.map_map]
  rfl

theorem not_endsInHalt_plain {code : List (Instruction Double)}
    (goesOn : ∀ instr ∈ code, instr.op ≠ .halt) : ¬ EndsInHalt (code.map plain) := by
  rw [endsInHalt_plain, Option.map_eq_some_iff]
  rintro ⟨instr, last, halts⟩
  exact goesOn instr (List.mem_of_getLast? last) halts

/-- The code of a statement ends with a `HALT` exactly when the statement is said to. -/
theorem endsInHalt_built {statement : Stmt Double} {code : Code Double}
    (built : Built statement code) (start : Nat) :
    EndsInHalt (code start) ↔ statement.endsInHalt := by
  induction built generalizing start with
  | row form _ _ halts =>
      rw [endsInHalt_eq, form, Code.ofInstrs, endsInHalt_plain]
      exact halts
  | @reference statement op line form =>
      have goesOn : op ≠ .halt := by
        rcases op_of_reference form with rfl | rfl | rfl <;> simp
      rw [endsInHalt_eq, form]
      simpa [EndsInHalt, Code.reference, CodeItem.op] using goesOn
  | @branch statement thenArm condition thenCode form _ _ inductionHypothesis =>
      rw [endsInHalt_eq, form]
      dsimp only
      rw [Code.branch, List.append_cons,
        endsInHalt_append (not_endsInHalt_concat _ (by simp [CodeItem.op])),
        inductionHypothesis, endsInHalt_statement]
  | branchToLine form _ _ inductionHypothesis =>
      rw [endsInHalt_eq, form]
      dsimp only
      rw [Code.branchToLine,
        endsInHalt_append (by simp [EndsInHalt, Code.reference, CodeItem.op]),
        inductionHypothesis, endsInHalt_statement]
  | branchElse form _ _ _ _ inductionHypothesis =>
      rw [endsInHalt_eq, form]
      dsimp only
      rw [Code.branchElse, List.append_cons,
        endsInHalt_append (not_endsInHalt_concat _ (by simp [CodeItem.op])),
        inductionHypothesis, endsInHalt_statement]
  | tried form _ _ _ _ _ goesOn _ inductionHypothesis =>
      rw [endsInHalt_eq, form]
      dsimp only
      rw [Code.andThen, Code.tried, ← List.append_assoc, ← List.append_assoc, List.append_cons,
        List.append_assoc, endsInHalt_append (not_endsInHalt_concat _ (by simp [CodeItem.op])),
        endsInHalt_append (not_endsInHalt_plain goesOn), inductionHypothesis,
        endsInHalt_statement]

/-! ## Jumps to the end of a statement -/

mutual

/-- Whether a statement has a jump to the index just after its code. -/
def Stmt.jumpsPastEnd : Stmt Double → Bool
  | .ifStmt _ (.line _) (some elseArm) => elseArm.statement.isRem || elseArm.jumpsPastEnd
  | .ifStmt _ _ _ => true
  | .openStmt _ _ elseArm => elseArm.isSome
  | .read _ _ _ elseArm => elseArm.isSome
  | .readU _ _ _ elseArm => elseArm.isSome
  | .write _ _ _ elseArm => elseArm.isSome
  | .writeU _ _ _ elseArm => elseArm.isSome
  | .readNext _ _ elseArm => elseArm.isSome
  | .readV _ _ _ _ _ elseArm => elseArm.isSome
  | .writeV _ _ _ _ _ elseArm => elseArm.isSome
  | .matRead _ _ _ elseArm => elseArm.isSome
  | .matWrite _ _ _ elseArm => elseArm.isSome
  | _ => false

/-- Whether the code of an arm has a jump to its end. -/
def BranchArm.jumpsPastEnd : BranchArm Double → Bool
  | .line _ => false
  | .inline statement => statement.jumpsPastEnd

end

theorem jumpsPastEnd_statement (arm : BranchArm Double) :
    arm.statement.jumpsPastEnd = arm.jumpsPastEnd := by
  cases arm <;> rfl

/-- Whether the code of a statement has a jump to its end, by its form. -/
theorem jumpsPastEnd_eq (statement : Stmt Double) :
    statement.jumpsPastEnd =
      match statement.form with
      | .row => false
      | .reference _ _ => false
      | .branch (.line _) (some elseArm) => elseArm.statement.isRem || elseArm.jumpsPastEnd
      | .branch _ _ => true
      | .onFile _ => true := by
  cases statement
  case ifStmt condition thenArm elseArm => cases thenArm <;> cases elseArm <;> rfl
  all_goals
    first
    | rfl
    | rename_i option
      cases option <;> rfl

/-- A `REM` has a row, which is empty. -/
theorem form_of_isRem {statement : Stmt Double} (isRem : statement.isRem) :
    statement.form = .row := by
  cases statement <;> first | rfl | cases isRem

/-- Only a remark has no code. -/
theorem built_eq_nil {statement : Stmt Double} {code : Code Double} (built : Built statement code)
    (start : Nat) : code start = [] ↔ statement.isRem := by
  have coded {items : List (CodeItem Double)} (some : items ≠ [])
      (form : statement.form ≠ .row) : items = [] ↔ statement.isRem :=
    ⟨fun none => absurd none some, fun isRem => absurd (form_of_isRem isRem) form⟩
  cases built with
  | row form _ empty _ => simpa [Code.ofInstrs] using empty
  | reference form => exact coded (by simp [Code.reference]) (by simp [form])
  | branch form => exact coded (by simp [Code.branch]) (by simp [form])
  | branchToLine form => exact coded (by simp [Code.branchToLine]) (by simp [form])
  | branchElse form => exact coded (by simp [Code.branchElse]) (by simp [form])
  | tried form => exact coded (by simp [Code.andThen, Code.tried]) (by simp [form])

/-- The operation codes whose operand is an index of the program. -/
def takesTarget : OpCode → Bool
  | .jump | .jumpIfZero | .call | .setOnErrorHandler => true
  | _ => false

/-- What the items of a statement's code are: an instruction with a target of its own is an
`ON ERROR STOP`, the compiler's jumps go at most to the end, and the lines are those that the
statement refers to. -/
inductive ItemOf (targets : List Int) (stop : Nat) : CodeItem Double → Prop
  | plain {instr : Instruction Double}
      (handler : takesTarget instr.op → instr.operand = .int 0) : ItemOf targets stop (.plain instr)
  | toIndex {op : OpCode} {index : Nat} (takes : takesTarget op) (within : index ≤ stop) :
      ItemOf targets stop (.toIndex op index)
  | toLine {op : OpCode} {line : Int} (takes : takesTarget op) (refers : line ∈ targets) :
      ItemOf targets stop (.toLine op line)

/-- More lines may be referred to, and the code may end later. -/
theorem ItemOf.weaken {targets wider : List Int} {stop later : Nat} {item : CodeItem Double}
    (itemOf : ItemOf targets stop item) (subset : targets ⊆ wider) (after : stop ≤ later) :
    ItemOf wider later item := by
  cases itemOf with
  | plain handler => exact .plain handler
  | toIndex takes within => exact .toIndex takes (within.trans after)
  | toLine takes refers => exact .toLine takes (subset refers)

/-- A row that moves the stack has no targets. -/
theorem itemOf_of_moves {code : List (Instruction Double)} {low high : Nat}
    (moves : Moves low code high) (targets : List Int) (stop : Nat) :
    ∀ item ∈ code.map plain, ItemOf targets stop item := by
  have untargeted {instr : Instruction Double} (none : ¬ takesTarget instr.op) :
      ItemOf targets stop (plain instr) :=
    .plain fun takes => absurd takes none
  induction moves with
  | done height => simp
  | @straight instr _ _ _ _ _ effect _ _ inductionHypothesis =>
      refine List.forall_mem_cons.mpr ⟨untargeted fun takes => ?_, inductionHypothesis⟩
      cases op : instr.op <;> simp [op, takesTarget, stackEffect] at takes effect
  | @locking instr _ _ _ _ effect _ inductionHypothesis =>
      refine List.forall_mem_cons.mpr ⟨untargeted fun takes => ?_, inductionHypothesis⟩
      cases op : instr.op <;> simp [op, takesTarget, lockingEffect] at takes effect
  | flat op _ inductionHypothesis =>
      refine List.forall_mem_cons.mpr ⟨untargeted ?_, inductionHypothesis⟩
      rcases op with op | op | op <;> simp [op, takesTarget]
  | forSetup op _ inductionHypothesis =>
      exact List.forall_mem_cons.mpr ⟨untargeted (by simp [op, takesTarget]), inductionHypothesis⟩
  | clearHandler op operand _ inductionHypothesis =>
      exact List.forall_mem_cons.mpr ⟨.plain fun _ => operand, inductionHypothesis⟩

/-- The targets of a statement are its lines and indices up to its end. -/
theorem itemOf_built {statement : Stmt Double} {code : Code Double}
    (built : Built statement code) (start : Nat) :
    ∀ item ∈ code start, ItemOf statement.lineTargets (start + (code start).length) item := by
  induction built generalizing start with
  | row form moves => exact itemOf_of_moves moves _ _
  | @reference statement op line form =>
      have takes : takesTarget op := by
        rcases op_of_reference form with rfl | rfl | rfl <;> rfl
      rw [lineTargets_eq, form]
      simpa [Code.reference] using .toLine takes (by simp [Form.lineTargets])
  | @branch statement thenArm condition thenCode form moves _ inductionHypothesis =>
      rw [lineTargets_eq, form, Code.end_branch]
      simp only [Code.branch, List.forall_mem_append, List.forall_mem_cons]
      refine ⟨itemOf_of_moves moves _ _, .toIndex rfl le_rfl, fun item member => ?_⟩
      refine (inductionHypothesis _ item member).weaken (fun line refers => ?_) le_rfl
      exact List.mem_append_left _ (mem_lineTargets_statement.mp refers)
  | @branchToLine statement target elseArm condition elseCode form moves _ inductionHypothesis =>
      rw [lineTargets_eq, form, Code.end_branchToLine]
      simp only [Code.branchToLine, Code.reference, List.forall_mem_append, List.forall_mem_cons]
      refine ⟨⟨itemOf_of_moves moves _ _, .toIndex rfl (by simp), .toLine rfl ?_, by simp⟩,
        fun item member => ?_⟩
      · exact List.mem_append_left _ (by simp [BranchArm.lineTargets])
      · refine (inductionHypothesis _ item member).weaken (fun line refers => ?_) le_rfl
        exact List.mem_append_right _ (mem_lineTargets_statement.mp refers)
  | @branchElse statement thenStatement elseArm condition thenCode elseCode form moves _ _
      thenHypothesis elseHypothesis =>
      rw [lineTargets_eq, form, Code.end_branchElse condition thenCode elseCode rfl]
      simp only [Code.branchElse, List.forall_mem_append, List.forall_mem_cons]
      refine ⟨⟨itemOf_of_moves moves _ _, .toIndex rfl (by omega), fun item member => ?_⟩,
        .toIndex rfl le_rfl, fun item member => ?_⟩
      · refine (thenHypothesis _ item member).weaken (fun line refers => ?_) (by omega)
        exact List.mem_append_left _ refers
      · refine (elseHypothesis _ item member).weaken (fun line refers => ?_) le_rfl
        exact List.mem_append_right _ (mem_lineTargets_statement.mp refers)
  | @tried statement elseArm before onDone onFailed instr takes left elseCode form moves effect
      noCall doneMoves failedMoves goesOn _ inductionHypothesis =>
      have tries : Moves takes [instr] (left + 1) := .one 0 effect noCall (by simp) (by simp)
      obtain ⟨doneEnd, doneEndIs⟩ : ∃ doneEnd, doneEnd = start + before.length + 2 + onDone.length :=
        ⟨_, rfl⟩
      have failStart : start + before.length + onDone.length + 3 = doneEnd + 1 := by omega
      rw [lineTargets_eq, form, Code.andThen, List.length_append, ← Nat.add_assoc]
      simp only [Code.ofInstrs, List.length_map]
      rw [Code.end_tried instr onDone onFailed elseCode doneEndIs]
      simp only [Code.tried, failStart, List.cons_append, List.forall_mem_append,
        List.forall_mem_cons]
      refine ⟨itemOf_of_moves moves _ _, itemOf_of_moves tries _ _ _ (by simp),
        .toIndex rfl (by omega), ⟨itemOf_of_moves doneMoves _ _, .toIndex rfl le_rfl,
        itemOf_of_moves failedMoves _ _⟩, fun item member => ?_⟩
      refine (inductionHypothesis _ item member).weaken (fun line refers => ?_) le_rfl
      exact mem_lineTargets_statement.mp refers

/-- Every line that a statement refers to is in its code. -/
theorem built_refers {statement : Stmt Double} {code : Code Double}
    (built : Built statement code) (start : Nat) {line : Int}
    (refers : line ∈ statement.lineTargets) : ∃ op, toLine op line ∈ code start := by
  induction built generalizing start with
  | row form =>
      rw [lineTargets_eq, form] at refers
      cases refers
  | @reference statement op target form =>
      rw [lineTargets_eq, form] at refers
      exact ⟨op, by simpa [Code.reference, Form.lineTargets] using refers⟩
  | branch form _ _ inductionHypothesis =>
      rw [lineTargets_eq, form] at refers
      obtain ⟨op, member⟩ := inductionHypothesis _
        (mem_lineTargets_statement.mpr (by simpa [Form.lineTargets, elseLineTargets] using refers))
      exact ⟨op, List.mem_append_right _ (List.mem_cons_of_mem _ member)⟩
  | branchToLine form _ _ inductionHypothesis =>
      rw [lineTargets_eq, form] at refers
      rcases List.mem_append.mp refers with here | later
      · refine ⟨.jump, List.mem_append_left _ (List.mem_append_right _ ?_)⟩
        simpa [Code.reference, BranchArm.lineTargets] using here
      · obtain ⟨op, member⟩ := inductionHypothesis _ (mem_lineTargets_statement.mpr later)
        exact ⟨op, List.mem_append_right _ member⟩
  | branchElse form _ _ _ thenHypothesis elseHypothesis =>
      rw [lineTargets_eq, form] at refers
      rcases List.mem_append.mp refers with here | later
      · obtain ⟨op, member⟩ := thenHypothesis _ here
        exact ⟨op, List.mem_append_left _ (List.mem_append_right _ (List.mem_cons_of_mem _ member))⟩
      · obtain ⟨op, member⟩ := elseHypothesis _ (mem_lineTargets_statement.mpr later)
        exact ⟨op, List.mem_append_right _ (List.mem_cons_of_mem _ member)⟩
  | tried form _ _ _ _ _ _ _ inductionHypothesis =>
      rw [lineTargets_eq, form] at refers
      obtain ⟨op, member⟩ := inductionHypothesis _ (mem_lineTargets_statement.mpr refers)
      exact ⟨op, List.mem_append_right _ (List.mem_append_right _ member)⟩

/-- A statement has a jump to the end of its code when its form says so. -/
theorem built_reachesEnd {statement : Stmt Double} {code : Code Double}
    (built : Built statement code) (start : Nat) :
    (∃ op, toIndex op (start + (code start).length) ∈ code start) ↔ statement.jumpsPastEnd := by
  induction built generalizing start with
  | row form =>
      rw [jumpsPastEnd_eq, form]
      simp [Code.ofInstrs]
  | reference form =>
      rw [jumpsPastEnd_eq, form]
      simp [Code.reference]
  | @branch statement thenArm condition thenCode form _ _ _ =>
      have ends : statement.jumpsPastEnd := by
        rw [jumpsPastEnd_eq, form]
        cases thenArm <;> rfl
      rw [Code.end_branch]
      simp only [ends, iff_true]
      exact ⟨.jumpIfZero, List.mem_append_right _ (List.mem_cons_self ..)⟩
  | @branchToLine statement target elseArm condition elseCode form _ elseBuilt
      inductionHypothesis =>
      have empty := built_eq_nil elseBuilt (start + condition.length + 2)
      have later := inductionHypothesis (start + condition.length + 2)
      rw [jumpsPastEnd_eq, form, Code.end_branchToLine]
      simp only [Bool.or_eq_true, ← empty, ← jumpsPastEnd_statement, ← later]
      constructor
      · rintro ⟨op, member⟩
        rcases List.mem_append.mp member with first | second
        · simp only [Code.reference, List.mem_append, List.mem_map, reduceCtorEq, and_false,
            exists_false, List.mem_cons, CodeItem.toIndex.injEq, List.not_mem_nil, or_false,
            false_or, List.length_singleton] at first
          exact .inl (List.eq_nil_iff_length_eq_zero.mpr (by omega))
        · exact .inr ⟨op, second⟩
      · rintro (none | ⟨op, member⟩)
        · refine ⟨.jumpIfZero, List.mem_append_left _ (List.mem_append_right _ ?_)⟩
          simp [Code.reference, none]
        · exact ⟨op, List.mem_append_right _ member⟩
  | branchElse form _ _ _ _ _ =>
      rw [jumpsPastEnd_eq, form, Code.end_branchElse _ _ _ rfl]
      simp only [iff_true]
      exact ⟨.jump, List.mem_append_right _ (List.mem_cons_self ..)⟩
  | @tried _ _ _ onDone _ _ _ _ _ form _ _ _ _ _ _ _ _ =>
      rw [jumpsPastEnd_eq, form]
      simp only [iff_true]
      refine ⟨.jump, ?_⟩
      rw [Code.andThen, List.length_append, ← Nat.add_assoc, List.mem_append]
      refine .inr ?_
      generalize start + (Code.ofInstrs _ start).length = tryAt
      have failStart : tryAt + onDone.length + 3 = tryAt + 2 + onDone.length + 1 := by omega
      rw [Code.end_tried _ _ _ _ rfl, Code.tried, failStart]
      simp

/-! ## Lines -/

/-- The last statement that is not a remark. -/
def lastStatement (lines : List (BasicLine Double)) : Option (Stmt Double) :=
  ((lines.map BasicLine.statement).filter fun statement => !statement.isRem).getLast?

/-- The last statement of the lines is that of the last line, unless it is a `REM`. -/
theorem lastStatement_concat (lines : List (BasicLine Double)) (line : BasicLine Double) :
    lastStatement (lines ++ [line]) =
      if line.statement.isRem then lastStatement lines else some line.statement := by
  unfold lastStatement
  cases isRem : line.statement.isRem <;> simp [isRem]

section Lines

variable {lines : List (BasicLine Double)} (accepted : ∀ line ∈ lines, line.Accepted)
include accepted

/-- Only lines of `REM`s have no code. -/
theorem linesCode_eq_nil (start : Nat) :
    linesCode lines start = [] ↔ ∀ line ∈ lines, line.statement.isRem := by
  induction lines generalizing start with
  | nil => simp [linesCode, Code.ofInstrs]
  | cons line rest inductionHypothesis =>
      rw [List.forall_mem_cons] at accepted ⊢
      rw [linesCode, Code.andThen, List.append_eq_nil_iff,
        built_eq_nil (built_of_accepted _ accepted.1), inductionHypothesis accepted.2]

/-- The code of lines ends as that of the last statement does. -/
theorem endsInHalt_lines (start : Nat) :
    EndsInHalt (linesCode lines start) ↔
      ∃ last, lastStatement lines = some last ∧ last.endsInHalt := by
  induction lines using List.reverseRecOn with
  | nil => simp [linesCode, Code.ofInstrs, EndsInHalt, lastStatement]
  | append_singleton rest line inductionHypothesis =>
      rw [List.forall_mem_append, List.forall_mem_singleton] at accepted
      have built := built_of_accepted _ accepted.2
      have before := inductionHypothesis accepted.1
      rw [linesCode_concat, lastStatement_concat]
      generalize start + (linesCode rest start).length = lineAt
      have empty := built_eq_nil built lineAt
      by_cases isRem : line.statement.isRem
      · rw [if_pos isRem, empty.mpr isRem, List.append_nil]
        exact before
      · have some : line.code lineAt ≠ [] := fun none => isRem (empty.mp none)
        have ends := endsInHalt_built built lineAt
        rw [if_neg isRem, EndsInHalt, List.getLast?_append_of_ne_nil _ some]
        simpa [EndsInHalt] using ends

/-- The targets of the lines are lines and indices up to their end. -/
theorem itemOf_lines (start : Nat) :
    ∀ item ∈ linesCode lines start,
      ItemOf (lines.flatMap fun line => line.statement.lineTargets)
        (start + (linesCode lines start).length) item := by
  induction lines generalizing start with
  | nil => simp [linesCode, Code.ofInstrs]
  | cons line rest inductionHypothesis =>
      rw [List.forall_mem_cons] at accepted
      rw [linesCode, Code.andThen, List.forall_mem_append, List.length_append, List.flatMap_cons,
        ← Nat.add_assoc]
      constructor
      · intro item member
        exact (itemOf_built (built_of_accepted _ accepted.1) start item member).weaken
          (List.subset_append_left _ _) (Nat.le_add_right _ _)
      · intro item member
        exact (inductionHypothesis accepted.2 _ item member).weaken
          (List.subset_append_right _ _) le_rfl

/-- A jump to the end of the code is one of the last statement. -/
theorem reachesEnd_lines (start : Nat) :
    (∃ op, toIndex op (start + (linesCode lines start).length) ∈ linesCode lines start) ↔
      ∃ last, lastStatement lines = some last ∧ last.jumpsPastEnd := by
  induction lines using List.reverseRecOn with
  | nil => simp [linesCode, Code.ofInstrs, lastStatement]
  | append_singleton rest line inductionHypothesis =>
      rw [List.forall_mem_append, List.forall_mem_singleton] at accepted
      have built := built_of_accepted _ accepted.2
      have before := inductionHypothesis accepted.1
      have within := itemOf_lines accepted.1 start
      rw [linesCode_concat, lastStatement_concat, List.length_append, ← Nat.add_assoc]
      generalize start + (linesCode rest start).length = lineAt at before within ⊢
      have empty := built_eq_nil built lineAt
      by_cases isRem : line.statement.isRem
      · rw [if_pos isRem, empty.mpr isRem, List.append_nil, List.length_nil]
        exact before
      · have some : 0 < (line.code lineAt).length :=
          List.length_pos_iff.mpr fun none => isRem (empty.mp none)
        have reaches := built_reachesEnd built lineAt
        rw [if_neg isRem]
        constructor
        · rintro ⟨op, member⟩
          rcases List.mem_append.mp member with first | second
          · cases within _ first with
            | toIndex _ bound => omega
          · exact ⟨_, rfl, reaches.mp ⟨op, second⟩⟩
        · rintro ⟨last, same, past⟩
          cases same
          obtain ⟨op, member⟩ := reaches.mpr past
          exact ⟨op, List.mem_append_right _ member⟩

/-- A line that a statement refers to is a target of the code. -/
theorem refers_lines {line : BasicLine Double} (member : line ∈ lines) {target : Int}
    (refers : target ∈ line.statement.lineTargets) (start : Nat) :
    ∃ op, toLine op target ∈ linesCode lines start := by
  induction lines generalizing start with
  | nil => cases member
  | cons first rest inductionHypothesis =>
      rw [List.forall_mem_cons] at accepted
      rcases List.mem_cons.mp member with rfl | later
      · obtain ⟨op, found⟩ := built_refers (built_of_accepted _ accepted.1) start refers
        exact ⟨op, List.mem_append_left _ found⟩
      · obtain ⟨op, found⟩ := inductionHypothesis accepted.2 later _
        exact ⟨op, List.mem_append_right _ found⟩

/-- The code of a line starts at the end of the program when only remarks follow. -/
theorem lineStart_eq_end (position : Nat) :
    lineStart lines position = (linesCode lines 0).length ↔
      ∀ later ∈ lines.drop position, later.statement.isRem := by
  have acceptedLater : ∀ line ∈ lines.drop position, line.Accepted :=
    fun line member => accepted line (List.mem_of_mem_drop member)
  have empty := linesCode_eq_nil acceptedLater (lineStart lines position)
  have whole : (linesCode lines 0).length = lineStart lines position +
      (linesCode (lines.drop position) (lineStart lines position)).length := by
    conv_lhs => rw [← List.take_append_drop position lines, linesCode_append, Nat.zero_add]
    rw [List.length_append]
    rfl
  rw [whole, ← empty, List.eq_nil_iff_length_eq_zero]
  omega

end Lines

/-! ## Programs -/

/-- Some line refers to a line that only remarks follow, so that it has no code of its own. -/
def RefersToEnd (lines : List (BasicLine Double)) : Prop :=
  ∃ line ∈ lines, ∃ target ∈ line.statement.lineTargets, ∃ position,
    linePosition lines target = some position ∧
      ∀ later ∈ lines.drop position, later.statement.isRem

/-- A program with an `END` whose last statement ends in a `HALT`, with a jump past it. -/
def RunsOffEnd (lines : List (BasicLine Double)) : Prop :=
  (∃ line ∈ lines, line.statement.isEnd) ∧
    ∃ last, lastStatement lines = some last ∧ last.endsInHalt ∧
      (last.jumpsPastEnd ∨ RefersToEnd lines)

/-- An instruction with a target has an index of the program as its operand. -/
def TargetsInRange (program : List (Instruction Double)) : Prop :=
  ∀ instr ∈ program, takesTarget instr.op →
    ∃ index : Nat, instr.operand = .int index ∧ index < program.length

/-- A known number has a position. -/
theorem linePosition_isSome {lines : List (BasicLine Double)} {number : Int}
    (known : number ∈ lines.map BasicLine.lineNumber) : (linePosition lines number).isSome := by
  induction lines with
  | nil => cases known
  | cons line rest inductionHypothesis =>
      rw [linePosition]
      split
      · rfl
      · next none =>
          rcases List.mem_cons.mp known with same | later
          · simp [same]
          · have found := inductionHypothesis later
            rw [none] at found
            cases found

/-- Every line starts inside the code, or at its end. -/
theorem lineStart_le_end {lines : List (BasicLine Double)} (position : Nat) :
    lineStart lines position ≤ (linesCode lines 0).length := by
  conv_rhs => rw [← List.take_append_drop position lines, linesCode_append, List.length_append]
  exact Nat.le_add_right _ _

/-- The index that an item goes to. -/
def CodeItem.target (starts : Int → Nat) : CodeItem Double → Option Nat
  | .plain _ => none
  | .toIndex _ index => some index
  | .toLine _ line => some (starts line)

theorem CodeItem.op_resolved (starts : Int → Nat) (item : CodeItem Double) :
    (item.resolved starts).op = item.op := by
  cases item <;> rfl

/-- A target is the operand of the resolved instruction. -/
theorem CodeItem.operand_resolved {starts : Int → Nat} {item : CodeItem Double} {index : Nat}
    (target : item.target starts = some index) : (item.resolved starts).operand = .int index := by
  cases item with
  | plain instr => cases target
  | toIndex op index =>
      cases target
      rfl
  | toLine op line =>
      cases target
      rfl

/-- A line that is referred to has a position. -/
theorem position_of_refers {lines : List (BasicLine Double)} (known : TargetsKnown lines)
    {number : Int} (refers : number ∈ lines.flatMap fun line => line.statement.lineTargets) :
    ∃ position, linePosition lines number = some position := by
  obtain ⟨line, member, refersHere⟩ := List.mem_flatMap.mp refers
  exact Option.isSome_iff_exists.mp (linePosition_isSome (known line member number refersHere))

section Programs

variable {lines : List (BasicLine Double)} (known : TargetsKnown lines)
  (accepted : ∀ line ∈ lines, line.Accepted)
include accepted

/-- No `HALT` is added when there is an `END` and the last statement ends with a `HALT`. -/
theorem needsHalt_eq_false :
    needsHalt lines = false ↔
      (∃ line ∈ lines, line.statement.isEnd) ∧
        ∃ last, lastStatement lines = some last ∧ last.endsInHalt := by
  rw [← endsInHalt_lines accepted 0]
  simp [needsHalt, EndsInHalt]

include known

/-- A target of an item is at most the end of the code. -/
theorem target_le_end {item : CodeItem Double} (member : item ∈ linesCode lines 0) {index : Nat}
    (target : item.target (resolvedTarget lines) = some index) :
    takesTarget item.op ∧ index ≤ (linesCode lines 0).length := by
  have itemOf := itemOf_lines accepted 0 item member
  rw [Nat.zero_add] at itemOf
  cases itemOf with
  | plain _ => cases target
  | toIndex takes within =>
      cases target
      exact ⟨takes, within⟩
  | toLine takes refers =>
      cases target
      obtain ⟨position, found⟩ := position_of_refers known refers
      refine ⟨takes, ?_⟩
      rw [resolvedTarget, targetOf, found]
      exact lineStart_le_end position

/-- Some target is the end of the code. -/
theorem target_eq_end_iff :
    (∃ item ∈ linesCode lines 0,
        item.target (resolvedTarget lines) = some (linesCode lines 0).length) ↔
      (∃ last, lastStatement lines = some last ∧ last.jumpsPastEnd) ∨ RefersToEnd lines := by
  have reaches := reachesEnd_lines accepted 0
  rw [Nat.zero_add] at reaches
  constructor
  · rintro ⟨item, member, target⟩
    cases itemOf_lines accepted 0 item member with
    | plain _ => cases target
    | @toIndex op index _ _ =>
        cases target
        exact .inl (reaches.mp ⟨op, member⟩)
    | @toLine op number _ refers =>
        obtain ⟨position, found⟩ := position_of_refers known refers
        obtain ⟨line, inLines, refersHere⟩ := List.mem_flatMap.mp refers
        refine .inr ⟨line, inLines, number, refersHere, position, found, ?_⟩
        rw [CodeItem.target, resolvedTarget, targetOf, found, Option.some.injEq] at target
        exact (lineStart_eq_end accepted position).mp target
  · rintro (past | ⟨line, inLines, number, refers, position, found, remarks⟩)
    · obtain ⟨op, member⟩ := reaches.mpr past
      exact ⟨_, member, rfl⟩
    · obtain ⟨op, member⟩ := refers_lines accepted inLines refers 0
      refine ⟨_, member, ?_⟩
      rw [CodeItem.target, resolvedTarget, targetOf, found, Option.some.injEq]
      exact (lineStart_eq_end accepted position).mpr remarks

/-- All targets are in range unless the lines run off the end. -/
theorem targetsInRange_iff :
    TargetsInRange (assembled lines).program ↔ ¬ RunsOffEnd lines := by
  have ends := needsHalt_eq_false accepted
  have atEnd := target_eq_end_iff known accepted
  rw [assembled_program]
  constructor
  · rintro inRange ⟨hasEnd, last, isLast, halts, past⟩
    have noHalt := ends.mpr ⟨hasEnd, last, isLast, halts⟩
    obtain ⟨item, member, target⟩ := atEnd.mpr (past.imp_left fun past => ⟨last, isLast, past⟩)
    obtain ⟨takes, -⟩ := target_le_end known accepted member target
    rw [closing, noHalt, if_neg Bool.false_ne_true, List.append_nil] at inRange
    obtain ⟨index, operand, below⟩ := inRange _ (List.mem_map_of_mem member)
      (by rwa [CodeItem.op_resolved])
    rw [CodeItem.operand_resolved target, Value.int.injEq, Int.natCast_inj] at operand
    rw [List.length_map] at below
    omega
  · intro stays instr member takes
    rw [List.length_append, List.length_map]
    rcases List.mem_append.mp member with inCode | inClosing
    · obtain ⟨item, inItems, rfl⟩ := List.mem_map.mp inCode
      rw [CodeItem.op_resolved] at takes
      cases target : item.target (resolvedTarget lines) with
      | none =>
          cases itemOf_lines accepted 0 item inItems with
          | plain handler =>
              exact ⟨0, handler takes, Nat.add_pos_left (List.length_pos_of_mem inItems) _⟩
          | toIndex => cases target
          | toLine => cases target
      | some index =>
          refine ⟨index, CodeItem.operand_resolved target, ?_⟩
          have within := (target_le_end known accepted inItems target).2
          cases halts : needsHalt lines with
          | true =>
              rw [closing, if_pos halts, List.length_singleton]
              omega
          | false =>
              obtain ⟨hasEnd, last, isLast, endsInHalt⟩ := ends.mp halts
              have notEnd : index ≠ (linesCode lines 0).length := by
                rintro rfl
                refine stays ⟨hasEnd, last, isLast, endsInHalt, ?_⟩
                refine (atEnd.mp ⟨item, inItems, target⟩).imp_left ?_
                rintro ⟨_, same, past⟩
                rw [isLast, Option.some.injEq] at same
                exact same ▸ past
              omega
    · unfold closing at inClosing
      split at inClosing
      · obtain rfl := List.mem_singleton.mp inClosing
        cases takes
      · cases inClosing

end Programs

/-- The parser's check accepts targets that are in range. -/
theorem validateJumpTargets_of_inRange {program : List (Instruction Double)}
    (inRange : TargetsInRange program) : validateJumpTargets program = .ok () := by
  apply forM_ok
  rintro ⟨instr, i⟩ member
  have inProgram := List.fst_mem_of_mem_zipIdx member
  simp only [validateJumpTarget]
  split
  · next jumps =>
      have takes : takesTarget instr.op := by
        revert jumps
        cases instr.op <;> decide
      obtain ⟨index, operand, below⟩ := inRange instr inProgram takes
      simp only [operand]
      rw [if_neg (by omega)]
  · rfl

/-- What is to be expected of the targets of an emitted program. -/
structure TargetsValid (lines : List (BasicLine Double)) (emitted : EmittedProgram Double) :
    Prop where
  inRange : TargetsInRange emitted.program
  placed : ∀ position line, lines[position]? = some line →
    TargetsPlaced emitted.program (targetOf lines) line.statement (lineStart lines position)
      (lineStart lines (position + 1))
  sources : emitted.sourceLinePerInstr.length = emitted.program.length
  validated : validateJumpTargets emitted.program = .ok ()

/-- The targets of an accepted program are valid unless it has an `END`, its last statement
ends in a `HALT`, and it jumps past it. -/
theorem emitted_targetsValid_iff {lines normalized : List (BasicLine Double)}
    {emitted : EmittedProgram Double} (analyzed : analyze lines = .ok normalized)
    (compiled : emit normalized = .ok emitted) :
    TargetsValid normalized emitted ↔ ¬ RunsOffEnd normalized := by
  obtain ⟨known, rfl⟩ := analyze_eq_ok.mp analyzed
  obtain ⟨accepted, rfl⟩ := emit_eq_ok.mp compiled
  rw [← targetsInRange_iff known accepted]
  refine ⟨TargetsValid.inRange, fun inRange => ⟨inRange, ?_, ?_, ?_⟩⟩
  · intro position line found
    have member := List.mem_of_getElem? found
    rw [lineStart_succ found]
    refine targetsPlaced_of_built (built_of_accepted _ (accepted line member)) _ ?_
      (itemsAt_line found)
    intro target refers
    rw [targetOf, Option.isSome_map]
    exact linePosition_isSome (known line member target refers)
  · exact length_assembled_sources normalized
  · exact validateJumpTargets_of_inRange inRange

/-! ## A jump past the last `HALT` -/

/-- `10 GOTO 30`, `20 END`, `30 REM`. -/
def gotoRemarkLines : List (BasicLine Int) :=
  [{ lineNumber := 10, statement := .goto 30 }, { lineNumber := 20, statement := .endStmt },
    { lineNumber := 30, statement := .rem }]

/-- The `GOTO` of an accepted program goes to index 2 of a program of two instructions. -/
theorem gotoRemark_leaves_program :
    analyze gotoRemarkLines = .ok gotoRemarkLines ∧
      emit gotoRemarkLines =
        .ok { program := [{ op := .jump, operand := .int 2 }, { op := .halt }],
              sourceLinePerInstr := [10, 20] } ∧
      ¬ TargetsValid gotoRemarkLines
        { program := [{ op := .jump, operand := .int 2 }, { op := .halt }],
          sourceLinePerInstr := [10, 20] } := by
  refine ⟨rfl, rfl, fun valid => ?_⟩
  obtain ⟨index, operand, below⟩ := valid.inRange { op := .jump, operand := .int 2 } (by simp) rfl
  cases operand
  exact absurd below (by decide)

/-- `10 IF 1 THEN 10 ELSE STOP`. -/
def branchLines : List (BasicLine Int) :=
  [{ lineNumber := 10,
     statement := .ifStmt (.intLiteral 1) (.line 10) (some (.inline .stop)) }]

/-- The code of the lines, as the compiler emits it. -/
def branchProgram : EmittedProgram Int where
  program := [pushInt 1, { op := .jumpIfZero, operand := .int 3 },
    { op := .jump, operand := .int 0 }, { op := .halt }, haltInstr]
  sourceLinePerInstr := [10, 10, 10, 10, 0]

/-- Without an `END` the targets are valid. -/
theorem branchProgram_targetsValid : TargetsValid branchLines branchProgram := by
  have analyzed : analyze branchLines = .ok branchLines := rfl
  have compiled : emit branchLines = .ok branchProgram := rfl
  apply (emitted_targetsValid_iff analyzed compiled).mpr
  rintro ⟨⟨line, member, isEnd⟩, -⟩
  obtain rfl := List.mem_singleton.mp member
  cases isEnd

end Gemini.Basic
