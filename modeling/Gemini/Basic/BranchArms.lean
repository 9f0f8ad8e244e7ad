import Gemini.Basic.Targets

/-!
# Statements in arms and on lines

The emitter has two case analyses over statements: `emitInlineStatement` for the arm of a branch
and the loop over the lines for a statement of its own. They are written out here as the source
has them, one beside the other. `emits_inline` and `emits_line` place both in the common layout,
and `armCode_eq_lineCode_iff` says when the code of the one is that of the other, moved to where
it starts.
-/

namespace Gemini.Basic

open Gemini.VM (Instruction OpCode Value stackEffect lockingEffect)
open Gemini.Semantics
open Gemini.Data (bind_eq_ok)
open CodeItem (plain toIndex toLine fixups)

variable {Double : Type}

/-! ## The two case analyses -/

mutual

/-- `emitInlineStatement`. -/
def emitInlineStatement : Stmt Double → EmitM Double Unit
  | .letStmt variableName expression => do
      emitExpression "LET expression" expression
      emitInstrs (coercion variableName ++ [onName .storeVar variableName])
  | .input promptExpr variableName => do
      emitPrompt promptExpr
      emitInstrs ({ op := .inputStr } :: coercion variableName ++ [onName .storeVar variableName])
  | .chain programExpr => do
      emitExpression "CHAIN program expression" programExpr
      emitInstrs [{ op := .chain }]
  | .goto targetLine => emitReference .jump targetLine
  | .gosub targetLine => emitReference .call targetLine
  | .returnStmt => emitInstrs [{ op := .return_ }]
  | .ifStmt condition thenArm elseArm =>
      emitIf condition thenArm.isLine (emitInlineArm thenArm) (emitInlineElse elseArm)
  | .print expression suppressEol => do
      emitExpression "PRINT expression" expression
      emitInstrs ({ op := .printVal } :: if suppressEol then [] else [{ op := .printEol }])
  | .stop => emitInstrs [{ op := .halt }]
  | .endStmt => emitInstrs [{ op := .halt }]
  | .openStmt fileExpr fileVar elseArm => do
      emitExpression "OPEN file expression" fileExpr
      emitFileAction .openFile .openFileTry fileVar [] [] (emitInlineElse elseArm)
  | .read targetVar fileVar idExpr elseArm => do
      emitExpression "READ ID expression" idExpr
      emitFileAction .readRec .readRecTry fileVar [onName .storeVar targetVar] [{ op := .drop }]
        (emitInlineElse elseArm)
  | .readU targetVar fileVar idExpr elseArm => do
      emitExpression "READU ID expression" idExpr
      emitFileAction .readRecU .readRecUTry fileVar [onName .storeVar targetVar]
        [{ op := .drop }] (emitInlineElse elseArm)
  | .writeU valueExpr fileVar idExpr elseArm => do
      emitExpression "WRITEU value expression" valueExpr
      emitExpression "WRITEU ID expression" idExpr
      emitFileAction .writeRecU .writeRecUTry fileVar [] [] (emitInlineElse elseArm)
  | .release fileVar idExpr => do
      emitExpression "RELEASE ID expression" idExpr
      emitInstrs [onName .releaseRec fileVar]
  | .write valueExpr fileVar idExpr elseArm => do
      emitExpression "WRITE value expression" valueExpr
      emitExpression "WRITE ID expression" idExpr
      emitFileAction .writeRec .writeRecTry fileVar [] [] (emitInlineElse elseArm)
  | .readNext targetVar fileVar elseArm =>
      emitFileAction .readNext .readNextTry fileVar [onName .storeVar targetVar] [{ op := .drop }]
        (emitInlineElse elseArm)
  | .readV targetVar fileVar idExpr attrExpr valueIndexExpr elseArm => do
      emitExpression "READV ID expression" idExpr
      emitExpression "READV attribute expression" attrExpr
      emitInstrs (if readVAttrNeedsDictResolve attrExpr then [onName .resolveDictAttr fileVar]
        else [])
      emitValueIndex "READV value-index expression" valueIndexExpr
      emitFileAction .readV .readVTry fileVar [onName .storeVar targetVar] [{ op := .drop }]
        (emitInlineElse elseArm)
  | .writeV valueExpr fileVar idExpr attrExpr valueIndexExpr elseArm => do
      emitExpression "WRITEV value expression" valueExpr
      emitExpression "WRITEV ID expression" idExpr
      emitExpression "WRITEV attribute expression" attrExpr
      emitValueIndex "WRITEV value-index expression" valueIndexExpr
      emitFileAction .writeV .writeVTry fileVar [] [] (emitInlineElse elseArm)
  | .close fileVar => emitInstrs [onName .closeFile fileVar]
  | .clear => emitInstrs [{ op := .clearVars }]
  | .rem => pure ()
  | _ => throw "Unsupported inline branch statement"

/-- `emitBranchArm`. -/
def emitInlineArm : BranchArm Double → EmitM Double Unit
  | .line target => emitReference .jump target
  | .inline statement => emitInlineStatement statement

/-- The code of an `ELSE` that stands in an arm. -/
def emitInlineElse : Option (BranchArm Double) → Option (EmitM Double Unit)
  | none => none
  | some arm => some (emitInlineArm arm)

end

/-- A reading with its `ELSE` arm as it is emitted on a line: the jump to the arm is patched before
the arm is emitted. -/
def emitReading (plain tried : OpCode) (fileVar : String) (onDone : List (Instruction Double))
    (elseArm : Option (EmitM Double Unit)) : EmitM Double Unit := do
  match elseArm with
  | none => emitInstrs (onName plain fileVar :: onDone)
  | some elseArm =>
      emitInstrs [onName tried fileVar]
      let jzIp ← currentIp
      emitInstrs [{ op := .jumpIfZero, operand := .int 0 }]
      emitInstrs onDone
      let skipElseJumpIp ← currentIp
      emitInstrs [{ op := .jump, operand := .int 0 }]
      let failPathIp ← currentIp
      emitInstrs [{ op := .drop }]
      patch jzIp failPathIp
      elseArm
      patch skipElseJumpIp (← currentIp)

/-- The statement of a line, in the loop of `BasicBytecodeEmitter::emit`. -/
def emitLineStatement : Stmt Double → EmitM Double Unit
  | .letStmt variableName expression => do
      emitExpression "LET expression" expression
      emitInstrs (coercion variableName ++ [onName .storeVar variableName])
  | .input promptExpr variableName => do
      emitPrompt promptExpr
      emitInstrs ({ op := .inputStr } :: coercion variableName ++ [onName .storeVar variableName])
  | .chain programExpr => do
      emitExpression "CHAIN program expression" programExpr
      emitInstrs [{ op := .chain }]
  | .goto targetLine => emitReference .jump targetLine
  | .gosub targetLine => emitReference .call targetLine
  | .returnStmt => emitInstrs [{ op := .return_ }]
  | .forStmt variableName initExpr limitExpr stepExpr =>
      if isStringVar variableName then throw (stringLoopVariable variableName)
      else do
        emitExpression "FOR init" initExpr
        emitInstrs (coercion variableName ++ [onName .storeVar variableName])
        emitExpression "FOR limit" limitExpr
        emitStep stepExpr
        emitInstrs [onName .forSetup variableName]
  | .next variableName => emitInstrs [onName .forNext variableName]
  | .ifStmt condition thenArm elseArm =>
      emitIf condition thenArm.isLine (emitInlineArm thenArm) (emitInlineElse elseArm)
  | .print expression suppressEol => do
      emitExpression "PRINT expression" expression
      emitInstrs ({ op := .printVal } :: if suppressEol then [] else [{ op := .printEol }])
  | .rem => pure ()
  | .stop => emitInstrs [{ op := .halt }]
  | .endStmt => do
      emitInstrs [{ op := .halt }]
      modify fun emission => { emission with explicitEnd := true }
  | .dim variableName sizeExpr => do
      emitExpression "DIM size" sizeExpr
      emitInstrs [onName .dimArray variableName]
  | .letArray variableName indexExpr valueExpr => do
      emitExpression "LET array value" valueExpr
      emitInstrs (coercion variableName)
      emitExpression "LET array index" indexExpr
      emitInstrs [onName .storeArr variableName]
  | .openStmt fileExpr fileVar elseArm => do
      emitExpression "OPEN file expression" fileExpr
      emitFileAction .openFile .openFileTry fileVar [] [] (emitInlineElse elseArm)
  | .read targetVar fileVar idExpr elseArm => do
      emitExpression "READ ID expression" idExpr
      emitReading .readRec .readRecTry fileVar [onName .storeVar targetVar] (emitInlineElse elseArm)
  | .write valueExpr fileVar idExpr elseArm => do
      emitExpression "WRITE value expression" valueExpr
      emitExpression "WRITE ID expression" idExpr
      emitFileAction .writeRec .writeRecTry fileVar [] [] (emitInlineElse elseArm)
  | .readU targetVar fileVar idExpr elseArm => do
      emitExpression "READU ID expression" idExpr
      emitReading .readRecU .readRecUTry fileVar [onName .storeVar targetVar]
        (emitInlineElse elseArm)
  | .writeU valueExpr fileVar idExpr elseArm => do
      emitExpression "WRITEU value expression" valueExpr
      emitExpression "WRITEU ID expression" idExpr
      emitFileAction .writeRecU .writeRecUTry fileVar [] [] (emitInlineElse elseArm)
  | .release fileVar idExpr => do
      emitExpression "RELEASE ID expression" idExpr
      emitInstrs [onName .releaseRec fileVar]
  | .onError none => emitInstrs [{ op := .setOnErrorHandler, operand := .int 0 }]
  | .onError (some targetLine) => emitReference .setOnErrorHandler targetLine
  | .readNext targetVar fileVar elseArm =>
      emitFileAction .readNext .readNextTry fileVar [onName .storeVar targetVar] [{ op := .drop }]
        (emitInlineElse elseArm)
  | .readV targetVar fileVar idExpr attrExpr valueIndexExpr elseArm => do
      emitExpression "READV ID expression" idExpr
      emitExpression "READV attribute expression" attrExpr
      emitInstrs (if readVAttrNeedsDictResolve attrExpr then [onName .resolveDictAttr fileVar]
        else [])
      emitValueIndex "READV value-index expression" valueIndexExpr
      emitFileAction .readV .readVTry fileVar [onName .storeVar targetVar] [{ op := .drop }]
        (emitInlineElse elseArm)
  | .writeV valueExpr fileVar idExpr attrExpr valueIndexExpr elseArm => do
      emitExpression "WRITEV value expression" valueExpr
      emitExpression "WRITEV ID expression" idExpr
      emitExpression "WRITEV attribute expression" attrExpr
      emitInstrs (if isDictField attrExpr then [onName .resolveDictAttr fileVar] else [])
      emitValueIndex "WRITEV value-index expression" valueIndexExpr
      emitFileAction .writeV .writeVTry fileVar [] [] (emitInlineElse elseArm)
  | .close fileVar => emitInstrs [onName .closeFile fileVar]
  | .clear => emitInstrs [{ op := .clearVars }]
  | .matAssign targetArray rhsExpr => do
      emitExpression "MAT scalar expression" rhsExpr
      emitInstrs [onName .matInit targetArray]
  | .matCopy targetArray rhsSourceArray => emitInstrs [matCopyInstr targetArray rhsSourceArray]
  | .matRead targetArray fileVar idExpr elseArm => do
      emitExpression "MAT READ ID expression" idExpr
      emitReading .readRec .readRecTry fileVar [onName .matLoadFromRec targetArray]
        (emitInlineElse elseArm)
  | .matWrite sourceArray fileVar idExpr elseArm => do
      emitInstrs [onName .matStoreToRec sourceArray]
      emitExpression "MAT WRITE ID expression" idExpr
      emitFileAction .writeRec .writeRecTry fileVar [] [] (emitInlineElse elseArm)

/-! ## The common layout -/

/-- A file statement emits its code: the plain opcode, or the one that tries, with the arms behind
it. -/
theorem EmitsAfter.reading {before onDone : List (Instruction Double)} {plain tried : OpCode}
    {fileVar : String} {elseArm : Option (EmitM Double Unit)}
    {elseCode : Option (Except String (Code Double))}
    (arms : Option.Rel (fun arm code => EmitsAfter [] arm code false) elseArm elseCode) :
    EmitsAfter before (emitReading plain tried fileVar onDone elseArm)
      (fileActionCode before plain tried fileVar onDone [{ op := .drop }] elseCode) false := by
  cases arms with
  | none => exact instrs _
  | @some arm armCode emits =>
      intro emission
      cases armCode with
      | error message =>
          simp only [emitReading, Program.exec_bind, exec_emitInstrs, exec_currentIp]
          rw [show ∀ ip target (emission : Emission Double), Program.exec (patch ip target) emission =
            (.ok (), (Program.exec (patch ip target) emission).2) from fun _ _ _ => rfl]
          dsimp only
          rw [emits.fails]
          rfl
      | ok code =>
          have armDone := emits.elsewhere
          obtain ⟨failStart, atFail⟩ : ∃ index, index =
            emission.program.length + before.length + onDone.length + 3 := ⟨_, rfl⟩
          obtain ⟨armStart, atArm⟩ : ∃ index, index = failStart + 1 := ⟨_, rfl⟩
          simp only [emitReading, Program.exec_bind, exec_emitInstrs, exec_currentIp,
            Emission.extend_append, Emission.length_extend]
          rw [exec_patch emission (before.map CodeItem.plain ++ [.plain (onName tried fileVar)])
            (onDone.map CodeItem.plain ++ [.plain { op := .jump, operand := .int 0 },
              .plain { op := .drop }]) .jumpIfZero failStart (by simp) (by simp) (by simp; omega)]
          have started : emission.program.length + (before.map CodeItem.plain ++
              [CodeItem.plain (onName tried fileVar)] ++ toIndex .jumpIfZero failStart ::
              (onDone.map CodeItem.plain ++ [CodeItem.plain { op := .jump, operand := .int 0 },
                CodeItem.plain { op := .drop }])).length = armStart := by
            simp
            omega
          simp only [armDone, Emission.extend_append, Emission.length_extend, started]
          rw [exec_patch emission (before.map CodeItem.plain ++ .plain (onName tried fileVar) ::
              .toIndex .jumpIfZero failStart :: onDone.map CodeItem.plain)
            (.plain { op := .drop } :: code armStart) .jump
            (armStart + (code armStart).length) (by simp) (by simp) (by simp; omega)]
          simp [fileActionCode, Bind.bind, Except.bind, pure, Except.pure, Code.andThen, Code.tried,
            Code.ofInstrs, ← atFail, ← atArm]

mutual

/-- An arm emits the code of its statement, or fails as it does. -/
theorem emits_inline : (statement : Stmt Double) →
    EmitsAfter [] (emitInlineStatement statement) (statementCode true statement) false
  | .letStmt _ _ => .expressionThen fun _ => .instrs _
  | .input _ _ => .promptThen fun _ => .instrs _
  | .chain _ => .expressionThen fun _ => .instrs _
  | .goto _ => .reference _ _
  | .gosub _ => .reference _ _
  | .returnStmt => .instrs _
  | .forStmt _ _ _ _ => fun _ => rfl
  | .next _ => fun _ => rfl
  | .ifStmt _ thenArm elseArm => .branch (emits_inlineArm thenArm) (emits_inlineElse elseArm)
  | .print _ _ => .expressionThen fun _ => .instrs _
  | .rem => .nothing
  | .stop => .instrs _
  | .endStmt => .instrs _
  | .dim _ _ => fun _ => rfl
  | .letArray _ _ _ => fun _ => rfl
  | .clear => .instrs _
  | .openStmt _ _ elseArm => .expressionThen fun _ => .fileAction (emits_inlineElse elseArm)
  | .read _ _ _ elseArm => .expressionThen fun _ => .fileAction (emits_inlineElse elseArm)
  | .readU _ _ _ elseArm => .expressionThen fun _ => .fileAction (emits_inlineElse elseArm)
  | .write _ _ _ elseArm =>
      .expressionThen fun _ => .expressionThen fun _ => .fileAction (emits_inlineElse elseArm)
  | .writeU _ _ _ elseArm =>
      .expressionThen fun _ => .expressionThen fun _ => .fileAction (emits_inlineElse elseArm)
  | .readNext _ _ elseArm => .fileAction (emits_inlineElse elseArm)
  | .readV _ _ _ _ _ elseArm =>
      .expressionThen fun _ => .expressionThen fun _ => .instrsThen
        (.valueIndexThen fun _ => .fileAction (emits_inlineElse elseArm))
  | .writeV _ _ _ _ _ elseArm =>
      .expressionThen fun _ => .expressionThen fun _ => .expressionThen fun attr =>
        .valueIndexThen fun _ => by
          simp only [Bool.not_true, Bool.false_and, Bool.false_eq_true, if_false, List.append_nil]
          exact .fileAction (emits_inlineElse elseArm)
  | .close _ => .instrs _
  | .release _ _ => .expressionThen fun _ => .instrs _
  | .onError _ => fun _ => rfl
  | .matAssign _ _ => fun _ => rfl
  | .matCopy _ _ => fun _ => rfl
  | .matRead _ _ _ _ => fun _ => rfl
  | .matWrite _ _ _ _ => fun _ => rfl

/-- The arm of a statement in an arm emits its code. -/
theorem emits_inlineArm : (arm : BranchArm Double) →
    EmitsAfter [] (emitInlineArm arm) (armCode arm) false
  | .line _ => .reference _ _
  | .inline statement => emits_inline statement

/-- An `ELSE` in an arm emits its code, and none without an `ELSE`. -/
theorem emits_inlineElse : (elseArm : Option (BranchArm Double)) →
    Option.Rel (fun arm code => EmitsAfter [] arm code false) (emitInlineElse elseArm)
      (elseArmCode elseArm)
  | none => .none
  | some arm => .some (emits_inlineArm arm)

end

/-- A line emits the code of its statement, or fails as it does. -/
theorem emits_line (statement : Stmt Double) :
    EmitsAfter [] (emitLineStatement statement) (statementCode false statement)
      statement.isEnd := by
  cases statement with
  | letStmt => exact .expressionThen fun _ => .instrs _
  | input => exact .promptThen fun _ => .instrs _
  | chain => exact .expressionThen fun _ => .instrs _
  | goto => exact .reference _ _
  | gosub => exact .reference _ _
  | returnStmt => exact .instrs _
  | forStmt variableName => exact .loop variableName _ _ _
  | next => exact .instrs _
  | ifStmt _ thenArm elseArm => exact .branch (emits_inlineArm thenArm) (emits_inlineElse elseArm)
  | print => exact .expressionThen fun _ => .instrs _
  | rem => exact .nothing
  | stop => exact .instrs _
  | endStmt => exact EmitsAfter.endStmt false
  | dim => exact .expressionThen fun _ => .instrs _
  | letArray =>
      exact .expressionThen fun _ => .instrsThen (.expressionThen fun _ => .instrs _)
  | clear => exact .instrs _
  | openStmt _ _ elseArm =>
      exact .expressionThen fun _ => .fileAction (emits_inlineElse elseArm)
  | read _ _ _ elseArm => exact .expressionThen fun _ => .reading (emits_inlineElse elseArm)
  | readU _ _ _ elseArm => exact .expressionThen fun _ => .reading (emits_inlineElse elseArm)
  | write _ _ _ elseArm =>
      exact .expressionThen fun _ => .expressionThen fun _ =>
        .fileAction (emits_inlineElse elseArm)
  | writeU _ _ _ elseArm =>
      exact .expressionThen fun _ => .expressionThen fun _ =>
        .fileAction (emits_inlineElse elseArm)
  | readNext _ _ elseArm => exact .fileAction (emits_inlineElse elseArm)
  | readV _ _ _ _ _ elseArm =>
      exact .expressionThen fun _ => .expressionThen fun _ => .instrsThen
        (.valueIndexThen fun _ => .fileAction (emits_inlineElse elseArm))
  | writeV _ _ _ _ _ elseArm =>
      exact .expressionThen fun _ => .expressionThen fun _ => .expressionThen fun _ => .instrsThen
        (.valueIndexThen fun _ => .fileAction (emits_inlineElse elseArm))
  | close => exact .instrs _
  | release => exact .expressionThen fun _ => .instrs _
  | onError targetLine =>
      cases targetLine with
      | none => exact .instrs _
      | some targetLine => exact .reference _ _
  | matAssign => exact .expressionThen fun _ => .instrs _
  | matCopy => exact .instrs _
  | matRead _ _ _ elseArm => exact .expressionThen fun _ => .reading (emits_inlineElse elseArm)
  | matWrite _ _ _ elseArm =>
      exact .instrsThen (.expressionThen fun _ => .fileAction (emits_inlineElse elseArm))

/-! ## Code that is moved -/

/-- Whether the operand of an opcode is an index of the program. -/
def isJump : OpCode → Bool
  | .jump | .jumpIfZero => true
  | _ => false

/-- An item, and the same item in code that starts elsewhere: a target that the compiler has chosen
keeps its distance from the start. -/
inductive MovedItem (start other : Nat) : CodeItem Double → CodeItem Double → Prop
  | plain {instr : Instruction Double} (noJump : isJump instr.op = false) :
      MovedItem start other (.plain instr) (.plain instr)
  | toIndex {op : OpCode} (jumps : isJump op = true) (offset : Nat) :
      MovedItem start other (.toIndex op (start + offset)) (.toIndex op (other + offset))
  | toLine (op : OpCode) (line : Int) : MovedItem start other (.toLine op line) (.toLine op line)

theorem MovedItem.jump {start other : Nat} {op : OpCode} (jumps : isJump op = true) {index moved : Nat}
    (offset : Nat) (isIndex : index = start + offset) (isMoved : moved = other + offset) :
    MovedItem start other (.toIndex op index : CodeItem Double) (.toIndex op moved) := by
  subst isIndex isMoved
  exact .toIndex jumps offset

/-- Wherever code starts, it is the same code. -/
def Movable (code : Code Double) : Prop :=
  ∀ start other, List.Forall₂ (MovedItem start other) (code start) (code other)

namespace Movable

/-- Movable code is equally long wherever it starts. -/
theorem length_eq {code : Code Double} (movable : Movable code) (start other : Nat) :
    (code start).length = (code other).length :=
  (movable start other).length_eq

/-- Code that is part of other code. -/
theorem within {code : Code Double} (movable : Movable code) {start other inner moved : Nat}
    (offset : Nat) (isInner : inner = start + offset) (isMoved : moved = other + offset) :
    List.Forall₂ (MovedItem start other) (code inner) (code moved) := by
  subst isInner isMoved
  refine (movable (start + offset) (other + offset)).imp fun item moved is => ?_
  cases is with
  | plain noJump => exact .plain noJump
  | toIndex jumps further =>
      rw [Nat.add_assoc, Nat.add_assoc]
      exact .toIndex jumps (offset + further)
  | toLine op line => exact .toLine op line

end Movable

/-- A row that moves the stack has no jumps. -/
theorem noJump_of_moves {code : List (Instruction Double)} {low high : Nat}
    (moves : Moves low code high) : ∀ instr ∈ code, isJump instr.op = false := by
  induction moves with
  | done height => simp
  | @straight instr _ _ _ _ _ effect _ _ inductionHypothesis =>
      refine List.forall_mem_cons.mpr ⟨?_, inductionHypothesis⟩
      cases op : instr.op <;> first | rfl | (simp [op, stackEffect] at effect)
  | @locking instr _ _ _ _ effect _ inductionHypothesis =>
      refine List.forall_mem_cons.mpr ⟨?_, inductionHypothesis⟩
      cases op : instr.op <;> first | rfl | (simp [op, lockingEffect] at effect)
  | flat op _ inductionHypothesis =>
      refine List.forall_mem_cons.mpr ⟨?_, inductionHypothesis⟩
      rcases op with op | op | op <;> rw [op] <;> rfl
  | forSetup op _ inductionHypothesis =>
      exact List.forall_mem_cons.mpr ⟨by rw [op]; rfl, inductionHypothesis⟩
  | clearHandler op operand _ inductionHypothesis =>
      exact List.forall_mem_cons.mpr ⟨by rw [op]; rfl, inductionHypothesis⟩

/-- A row without jumps is the same row anywhere. -/
theorem moved_row {code : List (Instruction Double)} {low high : Nat}
    (moves : Moves low code high) (start other : Nat) :
    List.Forall₂ (MovedItem start other) (code.map plain) (code.map plain) := by
  rw [List.forall₂_map_left_iff, List.forall₂_map_right_iff, List.forall₂_same]
  exact fun instr member => .plain (noJump_of_moves moves instr member)

/-- The code of an accepted statement is movable. -/
theorem movable_of_built {statement : Stmt Double} {code : Code Double}
    (built : Built statement code) : Movable code := by
  induction built with
  | row form moves => exact fun start other => moved_row moves start other
  | reference form => exact fun start other => .cons (.toLine _ _) .nil
  | @branch statement thenArm condition thenCode form moves _ thenMovable =>
      intro start other
      have length := thenMovable.length_eq (start + condition.length + 1)
        (other + condition.length + 1)
      refine List.rel_append (moved_row moves start other) (.cons ?_ ?_)
      · exact .jump rfl (condition.length + 1 + (thenCode (start + condition.length + 1)).length)
          (by omega) (by omega)
      · exact thenMovable.within (condition.length + 1) (by omega) (by omega)
  | @branchToLine statement target elseArm condition elseCode form moves _ elseMovable =>
      intro start other
      refine List.rel_append (List.rel_append (moved_row moves start other)
        (.cons ?_ (.cons (.toLine _ _) .nil))) ?_
      · exact .jump rfl (condition.length + 2) rfl rfl
      · exact elseMovable.within (condition.length + 2) rfl rfl
  | @branchElse statement thenStatement elseArm condition thenCode elseCode form moves _ _
      thenMovable elseMovable =>
      intro start other
      have length := thenMovable.length_eq (start + condition.length + 1)
        (other + condition.length + 1)
      obtain ⟨offset, isOffset⟩ : ∃ offset,
        offset = condition.length + 2 + (thenCode (start + condition.length + 1)).length := ⟨_, rfl⟩
      have elseLength := elseMovable.length_eq
        (start + condition.length + 1 + (thenCode (start + condition.length + 1)).length + 1)
        (other + condition.length + 1 + (thenCode (other + condition.length + 1)).length + 1)
      refine List.rel_append (List.rel_append (moved_row moves start other) (.cons ?_ ?_))
        (.cons ?_ ?_)
      · exact .jump rfl offset (by omega) (by omega)
      · exact thenMovable.within (condition.length + 1) (by omega) (by omega)
      · exact .jump rfl (offset + (elseCode (start + condition.length + 1 +
          (thenCode (start + condition.length + 1)).length + 1)).length) (by omega) (by omega)
      · exact elseMovable.within offset (by omega) (by omega)
  | @tried statement elseArm before onDone onFailed instr takes left elseCode form moves effect
      noCall doneMoves failedMoves goesOn _ elseMovable =>
      intro start other
      have tries : Moves takes [instr] (left + 1) := .one 0 effect noCall (by simp) (by simp)
      obtain ⟨offset, isOffset⟩ : ∃ offset,
        offset = before.length + onDone.length + 3 + onFailed.length := ⟨_, rfl⟩
      have length := elseMovable.length_eq
        (start + before.length + onDone.length + 3 + onFailed.length)
        (other + before.length + onDone.length + 3 + onFailed.length)
      simp only [Code.andThen, Code.ofInstrs, Code.tried, List.length_map, List.cons_append,
        List.append_assoc]
      refine List.rel_append (moved_row moves start other) (.cons ?_ (.cons ?_
        (List.rel_append (moved_row doneMoves start other) (.cons ?_
          (List.rel_append (moved_row failedMoves start other) ?_)))))
      · exact .plain (noJump_of_moves tries instr (by simp))
      · exact .jump rfl (before.length + onDone.length + 3) (by omega) (by omega)
      · exact .jump rfl (offset + (elseCode (start + before.length + onDone.length + 3 +
          onFailed.length)).length) (by omega) (by omega)
      · exact elseMovable.within offset (by omega) (by omega)

/-! ## The code of an arm and the code of a line -/

/-- The instructions that have been appended. -/
def Emission.appended (before after : Emission Double) : List (Instruction Double) :=
  after.program.drop before.program.length

/-- The references to lines that have been appended. -/
def Emission.appendedFixups (before after : Emission Double) : List JumpFixup :=
  after.jumpFixups.drop before.jumpFixups.length

/-- A jump of appended code whose target the compiler has chosen: no fixup is for it. -/
def madeByCompiler (start : Nat) (made : List JumpFixup) (index : Nat) (op : OpCode) : Bool :=
  isJump op && made.all fun fixup => fixup.instructionIndex != start + index

/-- The target of a jump in code that starts at `other` in place of `start`. -/
def movedTarget (start other : Nat) : Value Double → Value Double
  | .int target => .int (target - start + other)
  | operand => operand

/-- An instruction of appended code in code that starts elsewhere. -/
def movedInstr (start other : Nat) (made : List JumpFixup) (index : Nat)
    (instr : Instruction Double) : Instruction Double :=
  if madeByCompiler start made index instr.op then
    { instr with operand := movedTarget start other instr.operand }
  else instr

/-- What is emitted from one start is what is emitted from the other, but for the shift. -/
structure SameCode (armStart armDone lineStart lineDone : Emission Double) : Prop where
  code : lineStart.appended lineDone =
    (armStart.appended armDone).mapIdx (movedInstr armStart.program.length
      lineStart.program.length (armStart.appendedFixups armDone))
  fixups : lineStart.appendedFixups lineDone =
    (armStart.appendedFixups armDone).map fun fixup =>
      { fixup with instructionIndex :=
          fixup.instructionIndex - armStart.program.length + lineStart.program.length }

theorem Emission.appended_extend (emission : Emission Double) (items : List (CodeItem Double))
    (ends : Bool) :
    emission.appended (emission.extend items ends) = items.map CodeItem.emitted :=
  List.drop_left

theorem Emission.appendedFixups_extend (emission : Emission Double)
    (items : List (CodeItem Double)) (ends : Bool) :
    emission.appendedFixups (emission.extend items ends) = fixups emission.program.length items :=
  List.drop_left

/-- The fixups of items are for their references to lines. -/
theorem mem_fixups {start : Nat} {items : List (CodeItem Double)} {fixup : JumpFixup} :
    fixup ∈ fixups start items ↔ ∃ index op, fixup.instructionIndex = start + index ∧
      items[index]? = some (toLine op fixup.targetLine) := by
  induction items generalizing start with
  | nil => simp [fixups]
  | cons item rest inductionHypothesis =>
      have later : (∃ index op, fixup.instructionIndex = start + (index + 1) ∧
          (item :: rest)[index + 1]? = some (toLine op fixup.targetLine)) ↔
            fixup ∈ fixups (start + 1) rest := by
        rw [inductionHypothesis]
        simp only [List.getElem?_cons_succ, Nat.add_right_comm start, ← Nat.add_assoc]
      rw [← Nat.or_exists_add_one, later]
      obtain ⟨place, line⟩ := fixup
      cases item with
      | plain instr => simp [fixups]
      | toIndex op index => simp [fixups]
      | toLine op target => simp [fixups, eq_comm]

/-- Moved items are emitted as moved instructions. -/
theorem emitted_moved {start other : Nat} {items moved : List (CodeItem Double)}
    (same : List.Forall₂ (MovedItem start other) items moved) :
    moved.map CodeItem.emitted =
      (items.map CodeItem.emitted).mapIdx (movedInstr start other (fixups start items)) := by
  refine List.ext_getElem? fun index => ?_
  rw [List.getElem?_mapIdx, List.getElem?_map, List.getElem?_map]
  by_cases within : index < items.length
  · have withinMoved : index < moved.length := same.length_eq ▸ within
    have item := same.get within withinMoved
    obtain ⟨original, isItem⟩ : ∃ original, items[index]? = some original :=
      ⟨_, List.getElem?_eq_getElem within⟩
    obtain ⟨instr, isMoved⟩ : ∃ instr, moved[index]? = some instr :=
      ⟨_, List.getElem?_eq_getElem withinMoved⟩
    rw [List.get_eq_getElem, List.get_eq_getElem, (List.getElem?_eq_some_iff.mp isItem).2,
      (List.getElem?_eq_some_iff.mp isMoved).2] at item
    rw [isItem, isMoved, Option.map_some, Option.map_some, Option.map_some, Option.some.injEq,
      movedInstr]
    have referred (op line) (isLine : original = toLine op line) :
        (fixups start items).all (fun fixup => fixup.instructionIndex != start + index) = false := by
      rw [isLine] at isItem
      refine List.all_eq_false.mpr ⟨⟨start + index, line⟩, mem_fixups.mpr ⟨index, op, rfl, isItem⟩, ?_⟩
      simp
    have notReferred (noLine : ∀ op line, original ≠ toLine op line) :
        (fixups start items).all (fun fixup => fixup.instructionIndex != start + index) = true := by
      rw [List.all_eq_true]
      intro fixup member
      obtain ⟨place, op, isPlace, isLine⟩ := mem_fixups.mp member
      rw [bne_iff_ne]
      intro here
      obtain rfl : place = index := by omega
      rw [isItem] at isLine
      exact noLine _ _ (Option.some.inj isLine)
    cases item with
    | plain noJump => rw [madeByCompiler, CodeItem.emitted, noJump, Bool.false_and]; rfl
    | toIndex jumps offset =>
        rw [madeByCompiler, notReferred (by rintro _ _ ⟨⟩), Bool.and_true]
        simp only [CodeItem.emitted, jumps, if_true, movedTarget]
        congr 2
        omega
    | toLine op line =>
        rw [madeByCompiler, referred op line rfl, Bool.and_false]
        rfl
  · have length := same.length_eq
    rw [List.getElem?_eq_none (by omega), List.getElem?_eq_none (by omega)]
    rfl

/-- Moved items need the same corrections, at the indices that they have moved to. -/
theorem fixups_moved {start other : Nat} {items moved : List (CodeItem Double)}
    (same : List.Forall₂ (MovedItem start other) items moved) (offset : Nat) :
    fixups (other + offset) moved = (fixups (start + offset) items).map fun fixup =>
      { fixup with instructionIndex := fixup.instructionIndex - start + other } := by
  induction same generalizing offset with
  | nil => rfl
  | cons item _ inductionHypothesis =>
      have rest := inductionHypothesis (offset + 1)
      cases item with
      | plain => exact rest
      | toIndex => exact rest
      | toLine op line =>
          rw [fixups, fixups, List.map_cons, Nat.add_assoc, Nat.add_assoc, rest]
          congr 2
          dsimp only
          omega

/-- What movable code is emitted as from two starts. -/
theorem sameCode_of_movable {code : Code Double} (movable : Movable code)
    (armStart lineStart : Emission Double) (armEnds lineEnds : Bool) :
    SameCode armStart (armStart.extend (code armStart.program.length) armEnds)
      lineStart (lineStart.extend (code lineStart.program.length) lineEnds) := by
  have same := movable armStart.program.length lineStart.program.length
  constructor
  · rw [Emission.appended_extend, Emission.appended_extend, Emission.appendedFixups_extend]
    exact emitted_moved same
  · rw [Emission.appendedFixups_extend, Emission.appendedFixups_extend]
    exact fixups_moved same 0

/-- A `WRITEV` of an attribute that a dictionary field names. -/
def Stmt.writesDictField : Stmt Double → Bool
  | .writeV _ _ _ attrExpr _ _ => isDictField attrExpr
  | _ => false

/-- A statement of an arm has the same code on a line. -/
theorem lineCode_of_armCode {statement : Stmt Double} {code : Code Double}
    (coded : statementCode true statement = .ok code)
    (other : statement.writesDictField = false) : statementCode false statement = .ok code := by
  cases statement with
  | forStmt | next | dim | letArray | onError | matAssign | matCopy | matRead | matWrite =>
      cases coded
  | writeV valueExpr fileVar idExpr attrExpr valueIndexExpr elseArm =>
      change isDictField attrExpr = false at other
      unfold statementCode at coded ⊢
      rw [other]
      exact coded
  | _ => exact coded

/-- How long an action on a file is depends on what comes before it, not on where it starts. -/
theorem length_fileAction {before longer onDone onFailed : List (Instruction Double)}
    {plain tried : OpCode} {fileVar : String} {elseArm : Option (BranchArm Double)}
    {code : Code Double}
    (coded : fileActionCode before plain tried fileVar onDone onFailed (elseArmCode elseArm) =
      .ok code) :
    ∃ longCode, fileActionCode longer plain tried fileVar onDone onFailed (elseArmCode elseArm) =
        .ok longCode ∧ ∀ start other,
          (longCode other).length + before.length = (code start).length + longer.length := by
  cases elseArm with
  | none =>
      cases coded
      refine ⟨_, rfl, fun start other => ?_⟩
      simp only [Code.ofInstrs, List.length_map, List.length_append]
      omega
  | some arm =>
      obtain ⟨elseCode, elseCoded, done⟩ := bind_eq_ok.mp coded
      cases done
      refine ⟨_, bind_eq_ok.mpr ⟨elseCode, elseCoded, rfl⟩, fun start other => ?_⟩
      have movable := movable_of_built (built_of_arm arm elseCoded)
      simp only [Code.andThen, Code.ofInstrs, Code.tried, List.length_map, List.length_append,
        List.length_cons]
      rw [movable.length_eq (other + longer.length + onDone.length + 3 + onFailed.length)
        (start + before.length + onDone.length + 3 + onFailed.length)]
      omega

/-- The code of a `WRITEV` of a dictionary field has an instruction more on a line. -/
theorem length_lineCode {statement : Stmt Double} {code : Code Double}
    (coded : statementCode true statement = .ok code)
    (dictField : statement.writesDictField = true) :
    ∃ lineCode, statementCode false statement = .ok lineCode ∧
      ∀ start other, (lineCode other).length = (code start).length + 1 := by
  cases statement with
  | writeV valueExpr fileVar idExpr attrExpr valueIndexExpr elseArm =>
      change isDictField attrExpr = true at dictField
      unfold statementCode at coded ⊢
      obtain ⟨value, isValue, coded⟩ := bind_eq_ok.mp coded
      obtain ⟨id, isId, coded⟩ := bind_eq_ok.mp coded
      obtain ⟨attr, isAttr, coded⟩ := bind_eq_ok.mp coded
      obtain ⟨valueIndex, isIndex, coded⟩ := bind_eq_ok.mp coded
      obtain ⟨lineCode, lineCoded, lengths⟩ := @length_fileAction _ _
        (value ++ id ++ attr ++ [onName .resolveDictAttr fileVar] ++ valueIndex) _ _ _ _ _ _ _ coded
      refine ⟨lineCode, ?_, fun start other => ?_⟩
      · rw [dictField]
        exact bind_eq_ok.mpr ⟨value, isValue, bind_eq_ok.mpr ⟨id, isId, bind_eq_ok.mpr
          ⟨attr, isAttr, bind_eq_ok.mpr ⟨valueIndex, isIndex, lineCoded⟩⟩⟩⟩
      · have lengths := lengths start other
        simp at lengths
        omega
  | _ => cases dictField

/-- The code of an arm is the code of the same statement on a line, moved to where it starts, unless
the statement is a `WRITEV` of an attribute that a dictionary field names. -/
theorem armCode_eq_lineCode_iff {statement : Stmt Double} {armStart armDone : Emission Double}
    (accepted : Program.exec (emitInlineStatement statement) armStart = (.ok (), armDone))
    (lineStart : Emission Double) :
    (∃ lineDone, Program.exec (emitLineStatement statement) lineStart = (.ok (), lineDone) ∧
        SameCode armStart armDone lineStart lineDone) ↔ statement.writesDictField = false := by
  have inline := emits_inline statement
  have line := emits_line statement
  cases coded : statementCode true statement with
  | error message =>
      rw [coded] at inline
      rw [inline.fails] at accepted
      cases congrArg Prod.fst accepted
  | ok code =>
      rw [coded] at inline
      rw [inline.elsewhere] at accepted
      obtain rfl := (Prod.mk.inj accepted).2
      constructor
      · rintro ⟨lineDone, done, same⟩
        by_contra dictField
        obtain ⟨lineCode, lineCoded, longer⟩ :=
          length_lineCode coded (Bool.eq_true_of_not_eq_false dictField)
        rw [lineCoded] at line
        rw [line.elsewhere] at done
        obtain rfl := (Prod.mk.inj done).2
        have lengths := congrArg List.length same.code
        rw [List.length_mapIdx, Emission.appended_extend, Emission.appended_extend, List.length_map,
          List.length_map, longer armStart.program.length] at lengths
        omega
      · intro other
        rw [lineCode_of_armCode coded other] at line
        exact ⟨_, line.elsewhere lineStart, sameCode_of_movable
          (movable_of_built (built_of_accepted statement coded)) _ _ _ _⟩

/-- `IF 1 THEN STOP ELSE CLEAR`. -/
def stopOrClear : Stmt Int := .ifStmt (.intLiteral 1) (.inline .stop) (some (.inline .clear))

/-- After two instructions the targets of the branch are two further on. -/
theorem stopOrClear_moved :
    ∃ lineDone, Program.exec (emitLineStatement stopOrClear)
        { program := [haltInstr, haltInstr] } = (.ok (), lineDone) ∧
      SameCode {} (Program.exec (emitInlineStatement stopOrClear) {}).2
        { program := [haltInstr, haltInstr] } lineDone :=
  (armCode_eq_lineCode_iff rfl _).mpr rfl

/-- `WRITEV 1 ON F, "R1", DICT<NAME>`. -/
def writeDictField : Stmt Int :=
  .writeV (.intLiteral 1) "F" (.stringLiteral "R1") (.dictField "NAME") none none

/-- In an arm the field is not resolved. -/
theorem writeDictField_differs :
    (Program.exec (emitInlineStatement writeDictField) {}).1 = .ok () ∧
      ¬ ∃ lineDone, Program.exec (emitLineStatement writeDictField) {} = (.ok (), lineDone) ∧
        SameCode {} (Program.exec (emitInlineStatement writeDictField) {}).2 {} lineDone := by
  refine ⟨rfl, ?_⟩
  rintro ⟨lineDone, done, same⟩
  have lengths := congrArg List.length same.code
  rw [List.length_mapIdx] at lengths
  obtain rfl := (Prod.mk.inj done).2
  exact absurd lengths (by decide +kernel)

end Gemini.Basic
