import Gemini.Basic.Emitter
import Gemini.Data.Checked

/-!
# The code of a statement as a whole

The emitter appends and patches. Here the code of a statement is a list of items that depends
on where it starts: plain instructions, jumps to an index that the compiler has chosen, and
jumps to a line. `emits_statement` says that the emitter appends exactly these items, and
`emit_eq_ok` that an emitted program is the code of its lines in order, with every jump to a
line resolved, and the closing `HALT` where the emitter adds one.
-/

namespace Gemini.Basic

open Gemini.VM (Instruction OpCode Value CodeAt codeAt_append codeAt_middle)
open Gemini.Semantics

variable {Double : Type}

/-- An instruction of emitted code, with what a target stands for. -/
inductive CodeItem (Double : Type) where
  | plain (instr : Instruction Double)
  | toIndex (op : OpCode) (index : Nat)
  | toLine (op : OpCode) (line : Int)

namespace CodeItem

/-- The instruction as it is emitted: a jump to a line has no target yet. -/
def emitted : CodeItem Double → Instruction Double
  | .plain instr => instr
  | .toIndex op index => { op, operand := .int index }
  | .toLine op _ => { op, operand := .int 0 }

/-- The instruction with its target. -/
def resolved (starts : Int → Nat) : CodeItem Double → Instruction Double
  | .plain instr => instr
  | .toIndex op index => { op, operand := .int index }
  | .toLine op line => { op, operand := .int (starts line) }

/-- The fixups of items that start at an index. -/
def fixups (start : Nat) : List (CodeItem Double) → List JumpFixup
  | [] => []
  | .toLine _ line :: rest =>
      { instructionIndex := start, targetLine := line } :: fixups (start + 1) rest
  | _ :: rest => fixups (start + 1) rest

/-- The fixups of two parts, the second of which starts where the first ends. -/
theorem fixups_append (start : Nat) (first second : List (CodeItem Double)) :
    fixups start (first ++ second) = fixups start first ++ fixups (start + first.length) second := by
  induction first generalizing start with
  | nil => simp [fixups]
  | cons item rest inductionHypothesis =>
      have shifted : start + 1 + rest.length = start + (item :: rest).length := by
        simp only [List.length_cons]
        omega
      cases item <;> simp [fixups, inductionHypothesis, shifted]

theorem fixups_plain (start : Nat) (code : List (Instruction Double)) :
    fixups start (code.map plain) = [] := by
  induction code generalizing start with
  | nil => rfl
  | cons instr rest inductionHypothesis => exact inductionHypothesis (start + 1)

end CodeItem

open CodeItem (plain toIndex toLine fixups)

/-- Items by the index that they start at. -/
abbrev Code (Double : Type) := Nat → List (CodeItem Double)

namespace Code

/-- Instructions that are the same wherever they start. -/
def ofInstrs (code : List (Instruction Double)) : Code Double := fun _ => code.map plain

/-- Code that starts where other code ends. -/
def andThen (first second : Code Double) : Code Double := fun start =>
  first start ++ second (start + (first start).length)

/-- An instruction that refers to a line. -/
def reference (op : OpCode) (line : Int) : Code Double := fun _ => [toLine op line]

/-- A branch without an `ELSE`. -/
def branch (condition : List (Instruction Double)) (thenArm : Code Double) : Code Double :=
  fun start =>
    let thenStart := start + condition.length + 1
    condition.map plain ++
      toIndex .jumpIfZero (thenStart + (thenArm thenStart).length) :: thenArm thenStart

/-- A branch whose `THEN` arm does not fall through: it is a line. -/
def branchToLine (condition : List (Instruction Double)) (thenArm elseArm : Code Double) :
    Code Double := fun start =>
  let thenStart := start + condition.length + 1
  let elseStart := thenStart + (thenArm thenStart).length
  condition.map plain ++ toIndex .jumpIfZero elseStart :: thenArm thenStart ++ elseArm elseStart

/-- A branch whose `THEN` arm jumps over the other. -/
def branchElse (condition : List (Instruction Double)) (thenArm elseArm : Code Double) :
    Code Double := fun start =>
  let thenStart := start + condition.length + 1
  let elseStart := thenStart + (thenArm thenStart).length + 1
  condition.map plain ++ toIndex .jumpIfZero elseStart :: thenArm thenStart ++
    toIndex .jump (elseStart + (elseArm elseStart).length) :: elseArm elseStart

/-- The `Try` form of an instruction with its `ELSE` arm. -/
def tried (instr : Instruction Double) (onDone onFailed : List (Instruction Double))
    (elseArm : Code Double) : Code Double := fun start =>
  let failStart := start + onDone.length + 3
  let armStart := failStart + onFailed.length
  plain instr :: toIndex .jumpIfZero failStart :: onDone.map plain ++
    toIndex .jump (armStart + (elseArm armStart).length) :: onFailed.map plain ++ elseArm armStart

end Code

/-! ## Statements -/

/-- The code of an expression, or its error in a statement. -/
def expressionCode (context : String) (expression : Expr Double) :
    Except String (List (Instruction Double)) :=
  match emitNode expression false with
  | .ok code => .ok code
  | .error error => .error (context ++ " error: " ++ error)

/-- The code of an `IF` from the codes of its arms. -/
def ifCode (condition : Expr Double) (thenIsLine : Bool) (thenArm : Except String (Code Double))
    (elseArm : Option (Except String (Code Double))) : Except String (Code Double) := do
  let condition ← expressionCode "IF condition" condition
  let thenCode ← thenArm
  match elseArm with
  | none => return .branch condition thenCode
  | some elseArm => do
      let elseCode ← elseArm
      return if thenIsLine then .branchToLine condition thenCode elseCode
        else .branchElse condition thenCode elseCode

/-- The code of a file statement; with an `ELSE` it is the `Try` form. -/
def fileActionCode (before : List (Instruction Double)) (plain tried : OpCode) (fileVar : String)
    (onDone onFailed : List (Instruction Double))
    (elseArm : Option (Except String (Code Double))) : Except String (Code Double) :=
  match elseArm with
  | none => .ok (.ofInstrs (before ++ onName plain fileVar :: onDone))
  | some elseArm => do
      let elseCode ← elseArm
      return (Code.ofInstrs before).andThen (.tried (onName tried fileVar) onDone onFailed elseCode)

/-- The code of a value index, which is 0 when it is left out. -/
def valueIndexCode (context : String) :
    Option (Expr Double) → Except String (List (Instruction Double))
  | some valueIndex => expressionCode context valueIndex
  | none => .ok [pushInt 0]

/-- The code of the prompt of an `INPUT`. -/
def promptCode : Option (Expr Double) → Except String (List (Instruction Double))
  | none => .ok []
  | some promptExpr => do
      let text ← expressionCode "INPUT prompt expression" promptExpr
      return text ++ [{ op := .printVal }]

/-- The code of the step of a `FOR`, which is 1 when it is left out. -/
def stepCode : Option (Expr Double) → Except String (List (Instruction Double))
  | some stepExpr => expressionCode "FOR STEP" stepExpr
  | none => .ok [pushInt 1]

/-- The code of a statement that no arm may hold. -/
def onlyOnLineCode (inArm : Bool) (code : Except String (Code Double)) :
    Except String (Code Double) :=
  if inArm then .error "Unsupported inline branch statement" else code

mutual

/-- The code of a statement. -/
def statementCode (inArm : Bool) : Stmt Double → Except String (Code Double)
  | .letStmt variableName expression => do
      let value ← expressionCode "LET expression" expression
      return .ofInstrs (value ++ (coercion variableName ++ [onName .storeVar variableName]))
  | .input promptExpr variableName => do
      let prompt ← promptCode promptExpr
      return .ofInstrs (prompt ++
        ({ op := .inputStr } :: coercion variableName ++ [onName .storeVar variableName]))
  | .chain programExpr => do
      let name ← expressionCode "CHAIN program expression" programExpr
      return .ofInstrs (name ++ [{ op := .chain }])
  | .goto targetLine => .ok (.reference .jump targetLine)
  | .gosub targetLine => .ok (.reference .call targetLine)
  | .returnStmt => .ok (.ofInstrs [{ op := .return_ }])
  | .forStmt variableName initExpr limitExpr stepExpr => onlyOnLineCode inArm <|
      if isStringVar variableName then .error (stringLoopVariable variableName)
      else do
        let init ← expressionCode "FOR init" initExpr
        let limit ← expressionCode "FOR limit" limitExpr
        let step ← stepCode stepExpr
        return .ofInstrs (init ++ (coercion variableName ++ [onName .storeVar variableName]) ++
          limit ++ step ++ [onName .forSetup variableName])
  | .next variableName => onlyOnLineCode inArm (.ok (.ofInstrs [onName .forNext variableName]))
  | .ifStmt condition thenArm elseArm =>
      ifCode condition thenArm.isLine (armCode thenArm) (elseArmCode elseArm)
  | .print expression suppressEol => do
      let value ← expressionCode "PRINT expression" expression
      return .ofInstrs (value ++
        ({ op := .printVal } :: if suppressEol then [] else [{ op := .printEol }]))
  | .rem => .ok (.ofInstrs [])
  | .stop => .ok (.ofInstrs [{ op := .halt }])
  | .endStmt => .ok (.ofInstrs [{ op := .halt }])
  | .dim variableName sizeExpr => onlyOnLineCode inArm do
      let size ← expressionCode "DIM size" sizeExpr
      return .ofInstrs (size ++ [onName .dimArray variableName])
  | .letArray variableName indexExpr valueExpr => onlyOnLineCode inArm do
      let value ← expressionCode "LET array value" valueExpr
      let index ← expressionCode "LET array index" indexExpr
      return .ofInstrs (value ++ coercion variableName ++ index ++ [onName .storeArr variableName])
  | .clear => .ok (.ofInstrs [{ op := .clearVars }])
  | .openStmt fileExpr fileVar elseArm => do
      let file ← expressionCode "OPEN file expression" fileExpr
      fileActionCode file .openFile .openFileTry fileVar [] [] (elseArmCode elseArm)
  | .read targetVar fileVar idExpr elseArm => do
      let id ← expressionCode "READ ID expression" idExpr
      fileActionCode id .readRec .readRecTry fileVar [onName .storeVar targetVar] [{ op := .drop }]
        (elseArmCode elseArm)
  | .readU targetVar fileVar idExpr elseArm => do
      let id ← expressionCode "READU ID expression" idExpr
      fileActionCode id .readRecU .readRecUTry fileVar [onName .storeVar targetVar]
        [{ op := .drop }] (elseArmCode elseArm)
  | .write valueExpr fileVar idExpr elseArm => do
      let value ← expressionCode "WRITE value expression" valueExpr
      let id ← expressionCode "WRITE ID expression" idExpr
      fileActionCode (value ++ id) .writeRec .writeRecTry fileVar [] [] (elseArmCode elseArm)
  | .writeU valueExpr fileVar idExpr elseArm => do
      let value ← expressionCode "WRITEU value expression" valueExpr
      let id ← expressionCode "WRITEU ID expression" idExpr
      fileActionCode (value ++ id) .writeRecU .writeRecUTry fileVar [] [] (elseArmCode elseArm)
  | .readNext targetVar fileVar elseArm =>
      fileActionCode [] .readNext .readNextTry fileVar [onName .storeVar targetVar]
        [{ op := .drop }] (elseArmCode elseArm)
  | .readV targetVar fileVar idExpr attrExpr valueIndexExpr elseArm => do
      let id ← expressionCode "READV ID expression" idExpr
      let attr ← expressionCode "READV attribute expression" attrExpr
      let valueIndex ← valueIndexCode "READV value-index expression" valueIndexExpr
      fileActionCode
        (id ++ attr ++ (if readVAttrNeedsDictResolve attrExpr then
          [onName .resolveDictAttr fileVar] else []) ++ valueIndex)
        .readV .readVTry fileVar [onName .storeVar targetVar] [{ op := .drop }]
        (elseArmCode elseArm)
  | .writeV valueExpr fileVar idExpr attrExpr valueIndexExpr elseArm => do
      let value ← expressionCode "WRITEV value expression" valueExpr
      let id ← expressionCode "WRITEV ID expression" idExpr
      let attr ← expressionCode "WRITEV attribute expression" attrExpr
      let valueIndex ← valueIndexCode "WRITEV value-index expression" valueIndexExpr
      fileActionCode
        (value ++ id ++ attr ++ (if !inArm && isDictField attrExpr then
          [onName .resolveDictAttr fileVar] else []) ++ valueIndex)
        .writeV .writeVTry fileVar [] [] (elseArmCode elseArm)
  | .close fileVar => .ok (.ofInstrs [onName .closeFile fileVar])
  | .release fileVar idExpr => do
      let id ← expressionCode "RELEASE ID expression" idExpr
      return .ofInstrs (id ++ [onName .releaseRec fileVar])
  | .onError targetLine => onlyOnLineCode inArm
      (match targetLine with
      | none => .ok (.ofInstrs [{ op := .setOnErrorHandler, operand := .int 0 }])
      | some targetLine => .ok (.reference .setOnErrorHandler targetLine))
  | .matAssign targetArray rhsExpr => onlyOnLineCode inArm do
      let scalar ← expressionCode "MAT scalar expression" rhsExpr
      return .ofInstrs (scalar ++ [onName .matInit targetArray])
  | .matCopy targetArray rhsSourceArray => onlyOnLineCode inArm
      (.ok (.ofInstrs [matCopyInstr targetArray rhsSourceArray]))
  | .matRead targetArray fileVar idExpr elseArm => onlyOnLineCode inArm do
      let id ← expressionCode "MAT READ ID expression" idExpr
      fileActionCode id .readRec .readRecTry fileVar [onName .matLoadFromRec targetArray]
        [{ op := .drop }] (elseArmCode elseArm)
  | .matWrite sourceArray fileVar idExpr elseArm => onlyOnLineCode inArm do
      let id ← expressionCode "MAT WRITE ID expression" idExpr
      fileActionCode (onName .matStoreToRec sourceArray :: id) .writeRec .writeRecTry fileVar [] []
        (elseArmCode elseArm)

/-- The code of an arm. -/
def armCode : BranchArm Double → Except String (Code Double)
  | .line target => .ok (.reference .jump target)
  | .inline statement => statementCode true statement

/-- The code of an `ELSE`, if there is one. -/
def elseArmCode : Option (BranchArm Double) → Option (Except String (Code Double))
  | none => none
  | some arm => some (armCode arm)

end

/-! ## What the emitter appends -/

/-- What has been emitted, with items appended; `ends` when they are those of an `END`. -/
def Emission.extend (emission : Emission Double) (items : List (CodeItem Double)) (ends : Bool) :
    Emission Double where
  program := emission.program ++ items.map CodeItem.emitted
  jumpFixups := emission.jumpFixups ++ fixups emission.program.length items
  explicitEnd := emission.explicitEnd || ends

@[simp] theorem Emission.length_extend (emission : Emission Double)
    (items : List (CodeItem Double)) (ends : Bool) :
    (emission.extend items ends).program.length = emission.program.length + items.length := by
  simp [extend]

/-- Items that are emitted one after the other are emitted as one row. -/
theorem Emission.extend_append (emission : Emission Double) (first second : List (CodeItem Double))
    (ends : Bool) :
    (emission.extend first false).extend second ends = emission.extend (first ++ second) ends := by
  simp [extend, CodeItem.fixups_append]

/-- Instructions are emitted as plain items. -/
theorem exec_emitInstrs (code : List (Instruction Double)) (emission : Emission Double) :
    Program.exec (emitInstrs code) emission = (.ok (), emission.extend (code.map plain) false) := by
  have same : (code.map plain).map CodeItem.emitted = code := by
    rw [List.map_map]
    exact List.map_id code
  simp [emitInstrs, Emission.extend, same, CodeItem.fixups_plain]

/-- A reference to a line is emitted as an item whose target is still open. -/
theorem exec_emitReference (op : OpCode) (line : Int) (emission : Emission Double) :
    Program.exec (emitReference op line) emission =
      (.ok (), emission.extend [toLine op line] false) := by
  simp [emitReference, currentIp, emitInstrs, Program.exec_bind, Emission.extend,
    CodeItem.emitted, fixups]

theorem modify_append_cons {Item : Type} (change : Item → Item) (front back : List Item)
    (item : Item) :
    (front ++ item :: back).modify front.length change = front ++ change item :: back := by
  induction front with
  | nil => rfl
  | cons first rest inductionHypothesis =>
      simpa [List.modify_succ_cons] using inductionHypothesis

theorem exec_currentIp (emission : Emission Double) :
    Program.exec currentIp emission = (.ok emission.program.length, emission) := rfl

/-- The patch of a jump that was emitted without its target. -/
theorem exec_patch (emission : Emission Double) (first second : List (CodeItem Double))
    (op : OpCode) (index : Nat) {items : List (CodeItem Double)} {ip target : Nat}
    (split : items = first ++ plain { op, operand := .int 0 } :: second)
    (place : ip = emission.program.length + first.length) (reached : target = index) :
    Program.exec (patch ip target) (emission.extend items false) =
      (.ok (), emission.extend (first ++ toIndex op index :: second) false) := by
  subst reached
  have patched := modify_append_cons
    (fun instr : Instruction Double => { instr with operand := .int target })
    (emission.program ++ first.map CodeItem.emitted) (second.map CodeItem.emitted)
    { op, operand := .int 0 }
  have fixed : fixups emission.program.length
        (first ++ plain { op, operand := .int 0 } :: second) =
      fixups emission.program.length (first ++ toIndex op target :: second) := by
    rw [CodeItem.fixups_append, CodeItem.fixups_append]
    rfl
  rw [List.length_append, List.length_map, ← place] at patched
  subst split
  simpa [patch, Emission.extend, fixed, CodeItem.emitted, ← List.append_assoc] using patched

/-- After the instructions `before`, the action completes the given code, or fails as the code
does. -/
def EmitsAfter (before : List (Instruction Double)) (action : EmitM Double Unit)
    (code : Except String (Code Double)) (ends : Bool) : Prop :=
  ∀ emission : Emission Double,
    match code with
    | .ok code =>
        Program.exec action (emission.extend (before.map plain) false) =
          (.ok (), emission.extend (code emission.program.length) ends)
    | .error message =>
        (Program.exec action (emission.extend (before.map plain) false)).1 = .error message

namespace EmitsAfter

variable {before : List (Instruction Double)} {ends : Bool}

/-- Instructions behind others are emitted behind them. -/
theorem instrs (code : List (Instruction Double)) :
    EmitsAfter before (emitInstrs code) (.ok (.ofInstrs (before ++ code))) false := by
  intro emission
  rw [exec_emitInstrs, Emission.extend_append, ← List.map_append]
  rfl

/-- Instructions may be counted to those that are there already. -/
theorem instrsThen {code : List (Instruction Double)} {rest : EmitM Double Unit}
    {whole : Except String (Code Double)} (emits : EmitsAfter (before ++ code) rest whole ends) :
    EmitsAfter before (emitInstrs code >>= fun _ => rest) whole ends := by
  intro emission
  have later := emits emission
  rw [Program.exec_bind, exec_emitInstrs, Emission.extend_append, ← List.map_append]
  exact later

/-- The code of an expression, and then the rest. -/
theorem expressionThen {context : String} {expression : Expr Double} {rest : EmitM Double Unit}
    {whole : List (Instruction Double) → Except String (Code Double)}
    (emits : ∀ code, EmitsAfter (before ++ code) rest (whole code) ends) :
    EmitsAfter before (emitExpression context expression >>= fun _ => rest)
      (expressionCode context expression >>= whole) ends := by
  unfold emitExpression expressionCode
  cases emitNode expression false with
  | ok code => exact instrsThen (emits code)
  | error error => exact fun emission => rfl

/-- An action that emits its own code does so whatever was there before. -/
theorem elsewhere {action : EmitM Double Unit} {code : Code Double}
    (emits : EmitsAfter [] action (.ok code) ends) (emission : Emission Double) :
    Program.exec action emission =
      (.ok (), emission.extend (code emission.program.length) ends) := by
  have same : emission.extend [] false = emission := by simp [Emission.extend, fixups]
  simpa only [List.map_nil, same] using emits emission

/-- Where the code is an error, the action throws it. -/
theorem fails {action : EmitM Double Unit} {message : String}
    (emits : EmitsAfter [] action (.error message) ends) (emission : Emission Double) :
    Program.exec action emission = (.error message, (Program.exec action emission).2) := by
  have same : emission.extend [] false = emission := by simp [Emission.extend, fixups]
  have failed := emits emission
  rw [List.map_nil, same] at failed
  exact Prod.ext failed rfl

/-- A file statement emits its code when its `ELSE` does. -/
theorem fileAction {plain tried : OpCode} {fileVar : String}
    {onDone onFailed : List (Instruction Double)} {elseArm : Option (EmitM Double Unit)}
    {elseCode : Option (Except String (Code Double))}
    (arms : Option.Rel (fun arm code => EmitsAfter [] arm code false) elseArm elseCode) :
    EmitsAfter before (emitFileAction plain tried fileVar onDone onFailed elseArm)
      (fileActionCode before plain tried fileVar onDone onFailed elseCode) false := by
  cases arms with
  | none => exact instrs _
  | @some arm armCode emits =>
      intro emission
      cases armCode with
      | error message =>
          simp only [emitFileAction, Program.exec_bind, exec_emitInstrs, exec_currentIp]
          rw [emits.fails]
          rfl
      | ok code =>
          have armDone := emits.elsewhere
          obtain ⟨failStart, atFail⟩ : ∃ index, index =
            emission.program.length + before.length + onDone.length + 3 := ⟨_, rfl⟩
          obtain ⟨armStart, atArm⟩ : ∃ index, index = failStart + onFailed.length := ⟨_, rfl⟩
          simp only [emitFileAction, Program.exec_bind, exec_emitInstrs, exec_currentIp,
            Emission.extend_append, Emission.length_extend, armDone]
          rw [exec_patch emission (before.map CodeItem.plain ++ [.plain (onName tried fileVar)])
            (onDone.map CodeItem.plain ++ .plain { op := .jump, operand := .int 0 } ::
              (onFailed.map CodeItem.plain ++ code armStart)) .jumpIfZero failStart
            (by simp; congr 1; omega) (by simp) (by simp; omega)]
          dsimp only
          rw [exec_patch emission (before.map CodeItem.plain ++ .plain (onName tried fileVar) ::
              .toIndex .jumpIfZero failStart :: onDone.map CodeItem.plain)
            (onFailed.map CodeItem.plain ++ code armStart) .jump
            (armStart + (code armStart).length) (by simp) (by simp) (by simp; omega)]
          simp [fileActionCode, Bind.bind, Except.bind, pure, Except.pure, Code.andThen, Code.tried,
            Code.ofInstrs, ← atFail, ← atArm]

/-- An `IF` emits its code when its arms do. -/
theorem branch {condition : Expr Double} {thenIsLine : Bool} {thenArm : EmitM Double Unit}
    {thenCode : Except String (Code Double)} {elseArm : Option (EmitM Double Unit)}
    {elseCode : Option (Except String (Code Double))}
    (thenEmits : EmitsAfter [] thenArm thenCode false)
    (arms : Option.Rel (fun arm code => EmitsAfter [] arm code false) elseArm elseCode) :
    EmitsAfter [] (emitIf condition thenIsLine thenArm elseArm)
      (ifCode condition thenIsLine thenCode elseCode) false := by
  refine expressionThen fun condition => ?_
  intro emission
  cases thenCode with
  | error message =>
      simp only [List.nil_append, Program.exec_bind, exec_currentIp, exec_emitInstrs]
      rw [thenEmits.fails]
      rfl
  | ok thenCode =>
      have thenDone := thenEmits.elsewhere
      obtain ⟨thenStart, atThen⟩ : ∃ index, index =
        emission.program.length + condition.length + 1 := ⟨_, rfl⟩
      obtain ⟨thenEnd, atEnd⟩ : ∃ index, index = thenStart + (thenCode thenStart).length :=
        ⟨_, rfl⟩
      have started : emission.program.length +
          (condition.map plain ++ [plain { op := .jumpIfZero, operand := .int 0 }]).length =
          thenStart := by
        simp
        omega
      simp only [List.nil_append, Program.exec_bind, exec_currentIp, exec_emitInstrs, thenDone,
        Emission.extend_append, Emission.length_extend, List.map_cons, List.map_nil, started]
      cases arms with
      | none =>
          simp only [Program.exec_bind, exec_currentIp, Emission.length_extend]
          rw [exec_patch emission (condition.map plain) (thenCode thenStart) .jumpIfZero thenEnd
            (by simp) (by simp) (by simp; omega)]
          simp [Bind.bind, Except.bind, pure, Except.pure, Code.branch, ← atThen, ← atEnd]
      | @some arm armCode emits =>
          cases armCode with
          | error message =>
              cases thenIsLine
              · simp only [Bool.false_eq_true, if_false, Program.exec_bind, exec_currentIp,
                  exec_emitInstrs]
                rw [emits.fails]
                rfl
              · simp only [if_true, Program.exec_bind, exec_currentIp]
                rw [emits.fails]
                rfl
          | ok elseCode =>
              have armDone := emits.elsewhere
              cases thenIsLine with
              | true =>
                  simp only [if_true, Program.exec_bind, exec_currentIp, armDone,
                    Emission.extend_append, Emission.length_extend]
                  rw [exec_patch emission (condition.map plain)
                    (thenCode thenStart ++ elseCode thenEnd) .jumpIfZero thenEnd
                    (by simp; congr 1; omega) (by simp) (by simp; omega)]
                  simp [Bind.bind, Except.bind, pure, Except.pure, Code.branchToLine, ← atThen,
                    ← atEnd]
              | false =>
                  simp only [Bool.false_eq_true, if_false, Program.exec_bind, exec_currentIp,
                    exec_emitInstrs, armDone, Emission.extend_append, Emission.length_extend]
                  rw [exec_patch emission (condition.map plain)
                    (thenCode thenStart ++ plain { op := .jump, operand := .int 0 } ::
                      elseCode (thenEnd + 1)) .jumpIfZero (thenEnd + 1)
                    (by simp; congr 1; omega) (by simp) (by simp; omega)]
                  dsimp only
                  rw [exec_patch emission (condition.map plain ++
                      toIndex .jumpIfZero (thenEnd + 1) :: thenCode thenStart)
                    (elseCode (thenEnd + 1)) .jump (thenEnd + 1 + (elseCode (thenEnd + 1)).length)
                    (by simp) (by simp) (by simp; omega)]
                  simp [Bind.bind, Except.bind, pure, Except.pure, Code.branchElse, ← atThen,
                    ← atEnd]

/-- An `END`: the code of its `HALT`, and the flag. -/
theorem endStmt (inArm : Bool) :
    EmitsAfter [] (emitStatement inArm .endStmt : EmitM Double Unit)
      (.ok (.ofInstrs [{ op := .halt }])) (!inArm) := by
  intro emission
  unfold emitStatement
  rw [Program.exec_bind, exec_emitInstrs, Emission.extend_append, List.map_nil, List.nil_append]
  cases inArm with
  | true => rfl
  | false =>
      simp [Emission.extend, Code.ofInstrs, fixups]

/-- Nothing is emitted for a statement that does nothing. -/
theorem nothing : EmitsAfter [] (pure () : EmitM Double Unit) (.ok (.ofInstrs [])) false :=
  fun _ => rfl

/-- The code of a prompt, and then the rest. -/
theorem promptThen {promptExpr : Option (Expr Double)} {rest : EmitM Double Unit}
    {whole : List (Instruction Double) → Except String (Code Double)}
    (emits : ∀ code, EmitsAfter (before ++ code) rest (whole code) ends) :
    EmitsAfter before (emitPrompt promptExpr >>= fun _ => rest)
      (promptCode promptExpr >>= whole) ends := by
  cases promptExpr with
  | none =>
      have emits := emits []
      rwa [List.append_nil] at emits
  | some promptExpr =>
      have emits : EmitsAfter before
          (emitExpression "INPUT prompt expression" promptExpr >>= fun _ =>
            emitInstrs [{ op := .printVal }] >>= fun _ => rest)
          (expressionCode "INPUT prompt expression" promptExpr >>= fun text =>
            whole (text ++ [{ op := .printVal }])) ends := by
        refine expressionThen fun text => instrsThen ?_
        rw [List.append_assoc]
        exact emits _
      simpa [emitPrompt, promptCode, bind_assoc] using emits

/-- A statement that no arm may hold is refused in an arm by both. -/
theorem onlyOnLine {inArm : Bool} {action : EmitM Double Unit}
    {code : Except String (Code Double)} (emits : EmitsAfter before action code ends) :
    EmitsAfter before (onlyOnLine inArm action) (onlyOnLineCode inArm code) ends := by
  cases inArm with
  | true => exact fun emission => rfl
  | false => exact emits

/-- A reference to a line emits its instruction. -/
theorem reference (op : OpCode) (line : Int) :
    EmitsAfter [] (emitReference op line) (.ok (.reference op line) : Except _ (Code Double))
      false := by
  intro emission
  rw [exec_emitReference, Emission.extend_append]
  rfl

/-- The code of a value index, and then the rest. -/
theorem valueIndexThen {context : String} {valueIndex : Option (Expr Double)}
    {rest : EmitM Double Unit} {whole : List (Instruction Double) → Except String (Code Double)}
    (emits : ∀ code, EmitsAfter (before ++ code) rest (whole code) ends) :
    EmitsAfter before (emitValueIndex context valueIndex >>= fun _ => rest)
      (valueIndexCode context valueIndex >>= whole) ends := by
  cases valueIndex with
  | none => exact instrsThen (emits _)
  | some valueIndex => exact expressionThen emits

/-- The code of a step, and then the rest. -/
theorem stepThen {stepExpr : Option (Expr Double)} {rest : EmitM Double Unit}
    {whole : List (Instruction Double) → Except String (Code Double)}
    (emits : ∀ code, EmitsAfter (before ++ code) rest (whole code) ends) :
    EmitsAfter before (emitStep stepExpr >>= fun _ => rest) (stepCode stepExpr >>= whole) ends := by
  cases stepExpr with
  | none => exact instrsThen (emits _)
  | some stepExpr => exact expressionThen emits

/-- A `FOR` emits its code. -/
theorem loop (variableName : String) (initExpr limitExpr : Expr Double)
    (stepExpr : Option (Expr Double)) :
    EmitsAfter []
      (if isStringVar variableName then throw (stringLoopVariable variableName)
      else do
        emitExpression "FOR init" initExpr
        emitInstrs (coercion variableName ++ [onName .storeVar variableName])
        emitExpression "FOR limit" limitExpr
        emitStep stepExpr
        emitInstrs [onName .forSetup variableName])
      (if isStringVar variableName then .error (stringLoopVariable variableName)
      else do
        let init ← expressionCode "FOR init" initExpr
        let limit ← expressionCode "FOR limit" limitExpr
        let step ← stepCode stepExpr
        return .ofInstrs (init ++ (coercion variableName ++ [onName .storeVar variableName]) ++
          limit ++ step ++ [onName .forSetup variableName])) false := by
  split
  · exact fun emission => rfl
  · exact expressionThen fun _ => instrsThen
      (expressionThen fun _ => stepThen fun _ => instrs _)

end EmitsAfter

/-- Whether a statement is `END`. -/
def Stmt.isEnd : Stmt Double → Bool
  | .endStmt => true
  | _ => false

mutual

/-- The emitter appends the code of a statement, or fails as it does. -/
theorem emits_statement (inArm : Bool) : (statement : Stmt Double) →
    EmitsAfter [] (emitStatement inArm statement) (statementCode inArm statement)
      (statement.isEnd && !inArm)
  | .letStmt _ _ => .expressionThen fun _ => .instrs _
  | .input _ _ => .promptThen fun _ => .instrs _
  | .chain _ => .expressionThen fun _ => .instrs _
  | .goto _ => .reference _ _
  | .gosub _ => .reference _ _
  | .returnStmt => .instrs _
  | .forStmt variableName _ _ _ => .onlyOnLine (.loop variableName _ _ _)
  | .next _ => .onlyOnLine (.instrs _)
  | .ifStmt _ thenArm elseArm => .branch (emits_arm thenArm) (emits_elseArm elseArm)
  | .print _ _ => .expressionThen fun _ => .instrs _
  | .rem => .nothing
  | .stop => .instrs _
  | .endStmt => .endStmt inArm
  | .dim _ _ => .onlyOnLine (.expressionThen fun _ => .instrs _)
  | .letArray _ _ _ => .onlyOnLine
      (.expressionThen fun _ => .instrsThen (.expressionThen fun _ => .instrs _))
  | .clear => .instrs _
  | .openStmt _ _ elseArm => .expressionThen fun _ => .fileAction (emits_elseArm elseArm)
  | .read _ _ _ elseArm => .expressionThen fun _ => .fileAction (emits_elseArm elseArm)
  | .readU _ _ _ elseArm => .expressionThen fun _ => .fileAction (emits_elseArm elseArm)
  | .write _ _ _ elseArm =>
      .expressionThen fun _ => .expressionThen fun _ => .fileAction (emits_elseArm elseArm)
  | .writeU _ _ _ elseArm =>
      .expressionThen fun _ => .expressionThen fun _ => .fileAction (emits_elseArm elseArm)
  | .readNext _ _ elseArm => .fileAction (emits_elseArm elseArm)
  | .readV _ _ _ _ _ elseArm =>
      .expressionThen fun _ => .expressionThen fun _ => .instrsThen
        (.valueIndexThen fun _ => .fileAction (emits_elseArm elseArm))
  | .writeV _ _ _ _ _ elseArm =>
      .expressionThen fun _ => .expressionThen fun _ => .expressionThen fun _ => .instrsThen
        (.valueIndexThen fun _ => .fileAction (emits_elseArm elseArm))
  | .close _ => .instrs _
  | .release _ _ => .expressionThen fun _ => .instrs _
  | .onError none => .onlyOnLine (.instrs _)
  | .onError (some _) => .onlyOnLine (.reference _ _)
  | .matAssign _ _ => .onlyOnLine (.expressionThen fun _ => .instrs _)
  | .matCopy _ _ => .onlyOnLine (.instrs _)
  | .matRead _ _ _ elseArm =>
      .onlyOnLine (.expressionThen fun _ => .fileAction (emits_elseArm elseArm))
  | .matWrite _ _ _ elseArm =>
      .onlyOnLine (.instrsThen (.expressionThen fun _ => .fileAction (emits_elseArm elseArm)))

/-- An arm emits its code. -/
theorem emits_arm : (arm : BranchArm Double) →
    EmitsAfter [] (emitBranchArm arm) (armCode arm) false
  | .line _ => .reference _ _
  | .inline statement => by
      have emits := emits_statement true statement
      rwa [Bool.not_true, Bool.and_false] at emits

/-- An `ELSE` emits its code, and none without an `ELSE`. -/
theorem emits_elseArm : (elseArm : Option (BranchArm Double)) →
    Option.Rel (fun arm code => EmitsAfter [] arm code false) (emitElseArm elseArm)
      (elseArmCode elseArm)
  | none => .none
  | some arm => .some (emits_arm arm)

end

/-! ## Programs -/

/-- The code of a line that the emitter accepts. -/
def BasicLine.code (line : BasicLine Double) : Code Double :=
  match statementCode false line.statement with
  | .ok code => code
  | .error _ => .ofInstrs []

/-- The emitter accepts a line: its statement has code. -/
def BasicLine.Accepted (line : BasicLine Double) : Prop :=
  statementCode false line.statement = .ok line.code

/-- The code of lines in order. -/
def linesCode : List (BasicLine Double) → Code Double
  | [] => .ofInstrs []
  | line :: rest => line.code.andThen (linesCode rest)

/-- The lines that instructions come from. -/
def sourceLines (start : Nat) : List (BasicLine Double) → List Int
  | [] => []
  | line :: rest =>
      List.replicate (line.code start).length line.lineNumber ++
        sourceLines (start + (line.code start).length) rest

/-- Where the code of the line at a position starts. -/
def lineStart (lines : List (BasicLine Double)) (position : Nat) : Nat :=
  (linesCode (lines.take position) 0).length

/-- The position of the last line with a number. -/
def linePosition : List (BasicLine Double) → Int → Option Nat
  | [], _ => none
  | line :: rest, number =>
      match linePosition rest number with
      | some position => some (position + 1)
      | none => if line.lineNumber = number then some 0 else none

/-- The start of the code of the last line with a number. -/
def targetOf (lines : List (BasicLine Double)) (number : Int) : Option Nat :=
  (linePosition lines number).map (lineStart lines)

/-- The opcode of an item. -/
def CodeItem.op : CodeItem Double → OpCode
  | .plain instr => instr.op
  | .toIndex op _ => op
  | .toLine op _ => op

/-- Whether the emitter adds a `HALT`. -/
def needsHalt (lines : List (BasicLine Double)) : Bool :=
  !lines.any (fun line => line.statement.isEnd) ||
    (linesCode lines 0).getLast?.map CodeItem.op ≠ some .halt

/-- The program of the lines. -/
def assembled (lines : List (BasicLine Double)) : EmittedProgram Double :=
  let items := linesCode lines 0
  let program := items.map (CodeItem.resolved fun number => (targetOf lines number).getD 0)
  if needsHalt lines then
    { program := program ++ [haltInstr], sourceLinePerInstr := sourceLines 0 lines ++ [0] }
  else { program, sourceLinePerInstr := sourceLines 0 lines }

/-- The code of lines is the code of the first ones and that of the others behind it. -/
theorem linesCode_append (first second : List (BasicLine Double)) (start : Nat) :
    linesCode (first ++ second) start =
      linesCode first start ++ linesCode second (start + (linesCode first start).length) := by
  induction first generalizing start with
  | nil => simp [linesCode, Code.ofInstrs]
  | cons line rest inductionHypothesis =>
      simp [linesCode, Code.andThen, inductionHypothesis, Nat.add_assoc]

/-- The code of a last line stands behind all other code. -/
theorem linesCode_concat (lines : List (BasicLine Double)) (line : BasicLine Double) (start : Nat) :
    linesCode (lines ++ [line]) start =
      linesCode lines start ++ line.code (start + (linesCode lines start).length) := by
  simp [linesCode_append, linesCode, Code.andThen, Code.ofInstrs]

/-- The source lines of the first instructions, and those of the others. -/
theorem sourceLines_append (first second : List (BasicLine Double)) (start : Nat) :
    sourceLines start (first ++ second) =
      sourceLines start first ++ sourceLines (start + (linesCode first start).length) second := by
  induction first generalizing start with
  | nil => simp [sourceLines, linesCode, Code.ofInstrs]
  | cons line rest inductionHypothesis =>
      simp [sourceLines, linesCode, Code.andThen, inductionHypothesis, Nat.add_assoc]

theorem sourceLines_concat (lines : List (BasicLine Double)) (line : BasicLine Double)
    (start : Nat) :
    sourceLines start (lines ++ [line]) =
      sourceLines start lines ++
        List.replicate (line.code (start + (linesCode lines start).length)).length
          line.lineNumber := by
  simp [sourceLines_append, sourceLines]

/-- Every instruction of the lines has a source line. -/
theorem length_sourceLines (lines : List (BasicLine Double)) (start : Nat) :
    (sourceLines start lines).length = (linesCode lines start).length := by
  induction lines generalizing start with
  | nil => rfl
  | cons first rest inductionHypothesis =>
      simp [sourceLines, linesCode, Code.andThen, inductionHypothesis]

/-- A last line takes its number from the lines before it. -/
theorem linePosition_concat (lines : List (BasicLine Double)) (line : BasicLine Double)
    (number : Int) :
    linePosition (lines ++ [line]) number =
      if line.lineNumber = number then some lines.length else linePosition lines number := by
  induction lines with
  | nil => simp [linePosition]
  | cons first rest inductionHypothesis =>
      simp only [List.cons_append, linePosition, inductionHypothesis]
      by_cases same : line.lineNumber = number
      · simp [same]
      · simp [same]

/-- A line that is found is one of the lines. -/
theorem linePosition_lt {lines : List (BasicLine Double)} {number : Int} {position : Nat}
    (found : linePosition lines number = some position) : position < lines.length := by
  induction lines generalizing position with
  | nil => cases found
  | cons first rest inductionHypothesis =>
      simp only [linePosition] at found
      split at found
      · rename_i later atLater
        have bound := inductionHypothesis atLater
        cases found
        simpa using bound
      · split at found
        · cases found
          simp
        · cases found

theorem lineStart_concat {lines : List (BasicLine Double)} {position : Nat}
    (within : position ≤ lines.length) (line : BasicLine Double) :
    lineStart (lines ++ [line]) position = lineStart lines position := by
  rw [lineStart, lineStart, List.take_append_of_le_length within]

/-- Behind the last line starts what follows their code. -/
theorem lineStart_length (lines : List (BasicLine Double)) :
    lineStart lines lines.length = (linesCode lines 0).length := by
  rw [lineStart, List.take_length]

/-- Of two lines with one number the later counts. -/
theorem targetOf_concat (lines : List (BasicLine Double)) (line : BasicLine Double)
    (number : Int) :
    targetOf (lines ++ [line]) number =
      if line.lineNumber = number then some (linesCode lines 0).length
      else targetOf lines number := by
  rw [targetOf, linePosition_concat]
  split
  · rw [Option.map_some, lineStart_concat (Nat.le_refl _), lineStart_length]
  · rw [targetOf]
    cases found : linePosition lines number with
    | none => rfl
    | some position =>
        rw [Option.map_some, Option.map_some, lineStart_concat (linePosition_lt found).le]

/-- The state of the loop over lines that the emitter accepts. -/
structure EmittedLines (lines : List (BasicLine Double)) (state : LineEmission Double) :
    Prop where
  noErrors : state.errors = []
  emission : state.emission =
    Emission.extend {} (linesCode lines 0) (lines.any fun line => line.statement.isEnd)
  starts : ∀ number, state.lineToInstructionIndex.lookup number = targetOf lines number
  sources : state.sourceLinePerInstr = sourceLines 0 lines

theorem Emission.extend_extend (emission : Emission Double) (first second : List (CodeItem Double))
    (endsFirst endsSecond : Bool) :
    (emission.extend first endsFirst).extend second endsSecond =
      emission.extend (first ++ second) (endsFirst || endsSecond) := by
  simp [extend, CodeItem.fixups_append, Bool.or_assoc]

theorem Emission.length_start (items : List (CodeItem Double)) (ends : Bool) :
    (Emission.extend {} items ends).program.length = items.length := by
  simp [extend]

/-- Before the first line nothing is emitted. -/
theorem EmittedLines.start : EmittedLines ([] : List (BasicLine Double)) {} where
  noErrors := rfl
  emission := rfl
  starts := fun _ => rfl
  sources := rfl

/-- One turn of the loop. -/
theorem EmittedLines.emitLine {lines : List (BasicLine Double)} {state : LineEmission Double}
    (done : EmittedLines lines state) {line : BasicLine Double} (accepted : line.Accepted) :
    EmittedLines (lines ++ [line]) (state.emitLine line) := by
  have emits := emits_statement false line.statement
  rw [accepted, Bool.not_false, Bool.and_true] at emits
  have emits := emits.elsewhere state.emission
  rw [done.emission, Emission.extend_extend, Emission.length_start] at emits
  have turn : state.emitLine line =
      { emission := Emission.extend {} (linesCode (lines ++ [line]) 0)
          ((lines ++ [line]).any fun line => line.statement.isEnd)
        lineToInstructionIndex :=
          state.lineToInstructionIndex.insert line.lineNumber (linesCode lines 0).length
        sourceLinePerInstr := sourceLines 0 (lines ++ [line])
        errors := [] } := by
    simp only [LineEmission.emitLine, done.emission, done.sources, done.noErrors, emits,
      linesCode_concat, sourceLines_concat, Emission.length_start, Nat.zero_add]
    simp
  rw [turn]
  constructor
  · rfl
  · rfl
  · intro number
    rw [targetOf_concat]
    by_cases same : line.lineNumber = number
    · subst same
      rw [if_pos rfl]
      exact AList.lookup_insert _
    · rw [if_neg same, ← done.starts]
      exact AList.lookup_insert_ne (Ne.symm same)
  · rfl

/-- Accepted lines are emitted one after the other. -/
theorem EmittedLines.foldl {lines : List (BasicLine Double)}
    (accepted : ∀ line ∈ lines, line.Accepted) :
    EmittedLines lines (lines.foldl LineEmission.emitLine {}) := by
  induction lines using List.reverseRecOn with
  | nil => exact EmittedLines.start
  | append_singleton rest line inductionHypothesis =>
      rw [List.foldl_append]
      exact (inductionHypothesis fun line member =>
        accepted line (List.mem_append_left _ member)).emitLine (accepted line (by simp))

/-- An error stays. -/
theorem errors_emitLine_subset (state : LineEmission Double) (line : BasicLine Double) :
    state.errors <+: (state.emitLine line).errors := by
  unfold LineEmission.emitLine
  split
  · exact List.prefix_append _ _
  · exact List.prefix_rfl

/-- Without an error, every line has been accepted. -/
theorem accepted_of_noErrors {lines : List (BasicLine Double)} {state : LineEmission Double}
    (noErrors : (lines.foldl LineEmission.emitLine state).errors = []) :
    state.errors = [] ∧ ∀ line ∈ lines, line.Accepted := by
  induction lines generalizing state with
  | nil => exact ⟨noErrors, by simp⟩
  | cons line rest inductionHypothesis =>
      obtain ⟨first, later⟩ := inductionHypothesis noErrors
      have here : state.errors = [] := by
        have kept := errors_emitLine_subset state line
        rw [first] at kept
        exact List.prefix_nil.mp kept
      have emits := emits_statement false line.statement
      have accepted : line.Accepted := by
        unfold BasicLine.Accepted BasicLine.code
        cases coded : statementCode false line.statement with
        | ok code => rfl
        | error message =>
            rw [coded] at emits
            have failed := emits.fails state.emission
            unfold LineEmission.emitLine at first
            rw [failed] at first
            simp at first
      refine ⟨here, ?_⟩
      intro other member
      cases member with
      | head => exact accepted
      | tail _ inRest => exact later other inRest

/-- The fixups give every jump to a line its target. -/
theorem foldl_resolveFixup (starts : LineIndex) (items : List (CodeItem Double))
    (before : List (Instruction Double)) :
    (fixups before.length items).foldl (resolveFixup starts)
        (before ++ items.map CodeItem.emitted) =
      before ++ items.map (CodeItem.resolved fun number => (starts.lookup number).getD 0) := by
  induction items generalizing before with
  | nil => rfl
  | cons item rest inductionHypothesis =>
      have later := inductionHypothesis
        (before ++ [item.resolved fun number => (starts.lookup number).getD 0])
      simp only [List.length_append, List.length_singleton, List.append_assoc,
        List.singleton_append] at later
      cases item with
      | plain instr => exact later
      | toIndex op index => exact later
      | toLine op line =>
          simp only [fixups, List.foldl_cons, List.map_cons]
          rw [← later]
          congr 1
          unfold resolveFixup
          cases found : starts.lookup line with
          | none => simp [CodeItem.resolved, CodeItem.emitted, found]
          | some start =>
              simp [modify_append_cons, CodeItem.resolved, CodeItem.emitted, found]

/-- An emitted program is the code of its lines in order, with every jump to a line resolved,
and the `HALT` at its end where the emitter adds one. -/
theorem emit_eq_ok {lines : List (BasicLine Double)} {emitted : EmittedProgram Double} :
    emit lines = .ok emitted ↔ (∀ line ∈ lines, line.Accepted) ∧ emitted = assembled lines := by
  have whole (accepted : ∀ line ∈ lines, line.Accepted) : emit lines = .ok (assembled lines) := by
    have done := EmittedLines.foldl accepted
    have resolved := foldl_resolveFixup
      (lines.foldl LineEmission.emitLine {}).lineToInstructionIndex (linesCode lines 0) []
    simp only [List.nil_append, List.length_nil, done.starts] at resolved
    have lastOp : ((linesCode lines 0).map
          (CodeItem.resolved fun number => (targetOf lines number).getD 0)).getLast?.map
          Instruction.op = (linesCode lines 0).getLast?.map CodeItem.op := by
      rw [List.getLast?_map, Option.map_map]
      congr 1
      funext item
      cases item <;> rfl
    unfold emit assembled needsHalt
    simp only [done.noErrors, done.emission, done.sources, Emission.extend, List.nil_append,
      List.length_nil, Bool.false_or, resolved, lastOp]
    simp only [ne_eq, not_true_eq_false, if_false]
    split <;> simp_all
  constructor
  · intro emits
    have noErrors : (lines.foldl LineEmission.emitLine {}).errors = [] := by
      unfold emit at emits
      by_contra some
      simp only [ne_eq, some, not_false_eq_true, if_true] at emits
      cases emits
    have accepted := (accepted_of_noErrors noErrors).2
    rw [whole accepted] at emits
    exact ⟨accepted, (Except.ok.inj emits).symm⟩
  · rintro ⟨accepted, rfl⟩
    exact whole accepted

/-! ## Code in a program -/

/-- The items that start at an index are in the program there, with their targets. -/
def ItemsAt (program : List (Instruction Double)) (starts : Int → Nat) (start : Nat)
    (items : List (CodeItem Double)) : Prop :=
  CodeAt program start (items.map (CodeItem.resolved starts))

/-- The target that the program of the lines has for a line. -/
def resolvedTarget (lines : List (BasicLine Double)) (number : Int) : Nat :=
  (targetOf lines number).getD 0

/-- The instructions after the code of the lines. -/
def closing (lines : List (BasicLine Double)) : List (Instruction Double) :=
  if needsHalt lines then [haltInstr] else []

/-- The program is the resolved code of the lines, and the `HALT` that they may need. -/
theorem assembled_program (lines : List (BasicLine Double)) :
    (assembled lines).program =
      (linesCode lines 0).map (CodeItem.resolved (resolvedTarget lines)) ++ closing lines := by
  unfold assembled closing
  dsimp only
  split
  · rfl
  · exact (List.append_nil _).symm

/-- The source lines of the program; an added `HALT` has none. -/
theorem assembled_sources (lines : List (BasicLine Double)) :
    (assembled lines).sourceLinePerInstr =
      sourceLines 0 lines ++ if needsHalt lines then [0] else [] := by
  unfold assembled
  dsimp only
  split
  · rfl
  · exact (List.append_nil _).symm

/-- Every instruction of the program has a source line. -/
theorem length_assembled_sources (lines : List (BasicLine Double)) :
    (assembled lines).sourceLinePerInstr.length = (assembled lines).program.length := by
  unfold assembled
  dsimp only
  split
  · simp [length_sourceLines]
  · simp [length_sourceLines]

/-- Where the next line's code starts. -/
theorem lineStart_succ {lines : List (BasicLine Double)} {position : Nat} {line : BasicLine Double}
    (found : lines[position]? = some line) :
    lineStart lines (position + 1) =
      lineStart lines position + (line.code (lineStart lines position)).length := by
  rw [lineStart, List.take_add_one, found, Option.toList_some, linesCode_concat, List.length_append,
    Nat.zero_add]
  rfl

/-- The code of a line is in the program where the line starts. -/
theorem itemsAt_line {lines : List (BasicLine Double)} {position : Nat} {line : BasicLine Double}
    (found : lines[position]? = some line) :
    ItemsAt (assembled lines).program (resolvedTarget lines) (lineStart lines position)
      (line.code (lineStart lines position)) := by
  have below := (List.getElem?_eq_some_iff.mp found).1
  have split : lines = lines.take position ++ line :: lines.drop (position + 1) := by
    rw [← (List.getElem?_eq_some_iff.mp found).2, List.getElem_cons_drop,
      List.take_append_drop]
  have whole : linesCode lines 0 = linesCode (lines.take position) 0 ++
      (line.code (lineStart lines position) ++ linesCode (lines.drop (position + 1))
        (lineStart lines position + (line.code (lineStart lines position)).length)) := by
    conv_lhs => rw [split, linesCode_append, Nat.zero_add]
    rfl
  rw [ItemsAt, assembled_program, whole, List.map_append, List.map_append, List.append_assoc,
    List.append_assoc, ← List.append_assoc]
  have placed := codeAt_middle
    ((linesCode (lines.take position) 0).map (CodeItem.resolved (resolvedTarget lines)))
    ((line.code (lineStart lines position)).map (CodeItem.resolved (resolvedTarget lines)))
    ((linesCode (lines.drop (position + 1))
      (lineStart lines position + (line.code (lineStart lines position)).length)).map
      (CodeItem.resolved (resolvedTarget lines)) ++ closing lines)
  rwa [List.length_map] at placed

/-- The instructions of a line come from it. -/
theorem source_of_line {lines : List (BasicLine Double)} {position ip : Nat}
    {line : BasicLine Double} (found : lines[position]? = some line)
    (above : lineStart lines position ≤ ip) (below : ip < lineStart lines (position + 1)) :
    (assembled lines).sourceLinePerInstr.getD ip 0 = line.lineNumber := by
  have split : lines = lines.take position ++ line :: lines.drop (position + 1) := by
    rw [← (List.getElem?_eq_some_iff.mp found).2, List.getElem_cons_drop,
      List.take_append_drop]
  have before : (sourceLines 0 (lines.take position)).length = lineStart lines position :=
    length_sourceLines _ 0
  rw [lineStart_succ found] at below
  have sources : sourceLines 0 lines = sourceLines 0 (lines.take position) ++
      (List.replicate (line.code (lineStart lines position)).length line.lineNumber ++
        sourceLines (lineStart lines position + (line.code (lineStart lines position)).length)
          (lines.drop (position + 1))) := by
    conv_lhs => rw [split, sourceLines_append, Nat.zero_add]
    rfl
  rw [assembled_sources, sources, List.getD_eq_getElem?_getD, List.append_assoc,
    List.getElem?_append_right (by omega), List.append_assoc,
    List.getElem?_append_left (by rw [List.length_replicate]; omega),
    List.getElem?_replicate_of_lt (by omega)]
  rfl

/-! ## Branches in a program -/

section Branches

variable {program : List (Instruction Double)} {starts : Int → Nat}
  {condition onDone onFailed : List (Instruction Double)} {instr : Instruction Double}
  {thenCode elseCode : Code Double} {start : Nat}

/-- Code stands in a program when its two parts do, one behind the other. -/
theorem itemsAt_append {first second : List (CodeItem Double)} :
    ItemsAt program starts start (first ++ second) ↔
      ItemsAt program starts start first ∧
        ItemsAt program starts (start + first.length) second := by
  rw [ItemsAt, List.map_append, codeAt_append, List.length_map]
  rfl

theorem itemsAt_cons {item : CodeItem Double} {rest : List (CodeItem Double)} :
    ItemsAt program starts start (item :: rest) ↔
      program[start]? = some (item.resolved starts) ∧ ItemsAt program starts (start + 1) rest :=
  Iff.rfl

/-- Code without targets stands in a program as it is. -/
theorem itemsAt_plain {code : List (Instruction Double)} :
    ItemsAt program starts start (code.map plain) ↔ CodeAt program start code := by
  have same : (code.map plain).map (CodeItem.resolved starts) = code := by
    rw [List.map_map]
    exact List.map_id code
  rw [ItemsAt, same]

/-- Where an `IF` without an `ELSE` ends. -/
theorem Code.end_branch (condition : List (Instruction Double)) (thenCode : Code Double)
    (start : Nat) :
    start + (Code.branch condition thenCode start).length =
      start + condition.length + 1 + (thenCode (start + condition.length + 1)).length := by
  simp only [Code.branch, List.length_append, List.length_map, List.length_cons]
  omega

/-- Where an `IF` ends whose `THEN` is a line. -/
theorem Code.end_branchToLine (condition : List (Instruction Double)) (target : Int)
    (elseCode : Code Double) (start : Nat) :
    start + (Code.branchToLine condition (.reference .jump target) elseCode start).length =
      start + condition.length + 2 + (elseCode (start + condition.length + 2)).length := by
  simp only [Code.branchToLine, Code.reference, List.length_append, List.length_map,
    List.length_cons, List.length_nil, Nat.zero_add, Nat.add_assoc, Nat.reduceAdd]

/-- Where an `IF` with both arms ends. -/
theorem Code.end_branchElse (condition : List (Instruction Double))
    (thenCode elseCode : Code Double) {start thenEnd : Nat}
    (thenEndIs : thenEnd =
      start + condition.length + 1 + (thenCode (start + condition.length + 1)).length) :
    start + (Code.branchElse condition thenCode elseCode start).length =
      thenEnd + 1 + (elseCode (thenEnd + 1)).length := by
  simp only [Code.branchElse, List.length_append, List.length_map, List.length_cons, ← thenEndIs]
  omega

/-- Where a file statement with an `ELSE` ends. -/
theorem Code.end_tried (instr : Instruction Double) (onDone onFailed : List (Instruction Double))
    (elseCode : Code Double) {start doneEnd : Nat} (doneEndIs : doneEnd = start + 2 + onDone.length) :
    start + (Code.tried instr onDone onFailed elseCode start).length =
      doneEnd + 1 + onFailed.length + (elseCode (doneEnd + 1 + onFailed.length)).length := by
  have failStart : start + onDone.length + 3 = doneEnd + 1 := by omega
  simp only [Code.tried, failStart, List.length_append, List.length_map, List.length_cons]
  omega

/-- A branch without an `ELSE`: its jump is at `jz`, and it ends at `stop`. -/
structure BranchAt (program : List (Instruction Double)) (starts : Int → Nat)
    (condition : List (Instruction Double)) (thenCode : Code Double) (start jz stop : Nat) :
    Prop where
  conditionAt : CodeAt program start condition
  jzIs : jz = start + condition.length
  skips : program[jz]? = some { op := .jumpIfZero, operand := .int stop }
  thenAt : ItemsAt program starts (jz + 1) (thenCode (jz + 1))
  stopIs : stop = jz + 1 + (thenCode (jz + 1)).length

/-- The places of an `IF` without an `ELSE`. -/
theorem branchAt (placed : ItemsAt program starts start (Code.branch condition thenCode start)) :
    BranchAt program starts condition thenCode start (start + condition.length)
      (start + (Code.branch condition thenCode start).length) := by
  simp only [Code.branch, itemsAt_append, itemsAt_plain, itemsAt_cons, List.length_map] at placed
  obtain ⟨conditionAt, skips, thenAt⟩ := placed
  have stop := Code.end_branch condition thenCode start
  exact ⟨conditionAt, rfl, by rw [skips, stop]; rfl, thenAt, stop⟩

/-- A branch whose `THEN` arm is a line. -/
structure BranchToLineAt (program : List (Instruction Double)) (starts : Int → Nat)
    (condition : List (Instruction Double)) (target : Int) (elseCode : Code Double)
    (start jz stop : Nat) : Prop where
  conditionAt : CodeAt program start condition
  jzIs : jz = start + condition.length
  skips : program[jz]? = some { op := .jumpIfZero, operand := .int (jz + 2 : Nat) }
  jumps : program[jz + 1]? = some { op := .jump, operand := .int (starts target) }
  elseAt : ItemsAt program starts (jz + 2) (elseCode (jz + 2))
  stopIs : stop = jz + 2 + (elseCode (jz + 2)).length

/-- The places of an `IF` whose `THEN` is a line. -/
theorem branchToLineAt {target : Int}
    (placed : ItemsAt program starts start
      (Code.branchToLine condition (.reference .jump target) elseCode start)) :
    BranchToLineAt program starts condition target elseCode start (start + condition.length)
      (start + (Code.branchToLine condition (.reference .jump target) elseCode start).length) := by
  simp only [Code.branchToLine, Code.reference, itemsAt_append, itemsAt_plain, itemsAt_cons,
    List.length_map, List.length_append, List.length_cons, List.length_nil] at placed
  obtain ⟨⟨conditionAt, skips, jumps, -⟩, elseAt⟩ := placed
  exact ⟨conditionAt, rfl, skips, jumps, elseAt, Code.end_branchToLine condition target _ start⟩

/-- A branch whose `THEN` arm, which ends at `thenEnd`, jumps over the other. -/
structure BranchElseAt (program : List (Instruction Double)) (starts : Int → Nat)
    (condition : List (Instruction Double)) (thenCode elseCode : Code Double)
    (start jz thenEnd stop : Nat) : Prop where
  conditionAt : CodeAt program start condition
  jzIs : jz = start + condition.length
  skips : program[jz]? = some { op := .jumpIfZero, operand := .int (thenEnd + 1 : Nat) }
  thenAt : ItemsAt program starts (jz + 1) (thenCode (jz + 1))
  thenEndIs : thenEnd = jz + 1 + (thenCode (jz + 1)).length
  leaves : program[thenEnd]? = some { op := .jump, operand := .int stop }
  elseAt : ItemsAt program starts (thenEnd + 1) (elseCode (thenEnd + 1))
  stopIs : stop = thenEnd + 1 + (elseCode (thenEnd + 1)).length

/-- The places of an `IF` with both arms. -/
theorem branchElseAt
    (placed : ItemsAt program starts start
      (Code.branchElse condition thenCode elseCode start)) :
    BranchElseAt program starts condition thenCode elseCode start (start + condition.length)
      (start + condition.length + 1 + (thenCode (start + condition.length + 1)).length)
      (start + (Code.branchElse condition thenCode elseCode start).length) := by
  simp only [Code.branchElse, itemsAt_append, itemsAt_plain, itemsAt_cons, List.length_map,
    List.length_append, List.length_cons] at placed
  obtain ⟨⟨conditionAt, skips, thenAt⟩, leaves, elseAt⟩ := placed
  obtain ⟨thenEnd, thenEndIs⟩ : ∃ thenEnd, thenEnd =
    start + condition.length + 1 + (thenCode (start + condition.length + 1)).length := ⟨_, rfl⟩
  have place : start + (condition.length +
      ((thenCode (start + condition.length + 1)).length + 1)) = thenEnd := by omega
  have stop := Code.end_branchElse condition thenCode elseCode thenEndIs
  rw [← thenEndIs] at skips elseAt leaves ⊢
  rw [place] at leaves elseAt
  exact ⟨conditionAt, rfl, skips, thenAt, thenEndIs, by rw [leaves, stop]; rfl, elseAt, stop⟩

/-- The `Try` form of an instruction at `tryAt`: what follows it when it is done ends at
`doneEnd`, and the arm for its failure starts at `armStart`. -/
structure TriedAt (program : List (Instruction Double)) (starts : Int → Nat)
    (instr : Instruction Double) (onDone onFailed : List (Instruction Double))
    (elseCode : Code Double) (tryAt doneEnd armStart stop : Nat) : Prop where
  tries : program[tryAt]? = some instr
  fails : program[tryAt + 1]? =
    some { op := .jumpIfZero, operand := .int (doneEnd + 1 : Nat) }
  doneAt : CodeAt program (tryAt + 2) onDone
  doneEndIs : doneEnd = tryAt + 2 + onDone.length
  leaves : program[doneEnd]? = some { op := .jump, operand := .int stop }
  failedAt : CodeAt program (doneEnd + 1) onFailed
  armStartIs : armStart = doneEnd + 1 + onFailed.length
  elseAt : ItemsAt program starts armStart (elseCode armStart)
  stopIs : stop = armStart + (elseCode armStart).length

/-- The places of a file statement with an `ELSE`. -/
theorem triedAt
    (placed : ItemsAt program starts start (Code.tried instr onDone onFailed elseCode start)) :
    TriedAt program starts instr onDone onFailed elseCode start (start + 2 + onDone.length)
      (start + 2 + onDone.length + 1 + onFailed.length)
      (start + (Code.tried instr onDone onFailed elseCode start).length) := by
  obtain ⟨doneEnd, doneEndIs⟩ : ∃ doneEnd, doneEnd = start + 2 + onDone.length := ⟨_, rfl⟩
  have failStart : start + onDone.length + 3 = doneEnd + 1 := by omega
  simp only [Code.tried, failStart, List.cons_append, itemsAt_append, itemsAt_plain, itemsAt_cons,
    List.length_map, List.length_append, List.length_cons] at placed
  obtain ⟨tries, fails, ⟨doneAt, leaves, failedAt⟩, elseAt⟩ := placed
  have jumpAt : start + 1 + 1 + onDone.length = doneEnd := by omega
  have armAt : start + 1 + 1 + (onDone.length + (onFailed.length + 1)) =
      doneEnd + 1 + onFailed.length := by omega
  have stop := Code.end_tried instr onDone onFailed elseCode doneEndIs
  rw [jumpAt] at leaves failedAt
  rw [armAt] at elseAt
  rw [← doneEndIs]
  exact ⟨tries, fails, doneAt, doneEndIs, by rw [leaves, stop]; rfl, failedAt, rfl, elseAt, stop⟩

end Branches

end Gemini.Basic
