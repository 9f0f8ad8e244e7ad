import Gemini.Basic.Compiler
import Gemini.VM.BytecodeText

/-!
# Compiled programs as they are stored

What `COMPILE` stores and `RUN` loads again. The names and the numbers of a program that the
compiler accepts are such that every operand of its code is stored as the parser reads it, but for
numbers that need more than six digits and for a `NEXT` without a name.
-/

namespace Gemini.Basic

open Gemini.VM
open CodeItem (plain toIndex toLine)
open Gemini.Data (bind_eq_ok)

variable {Double : Type}

/-! ## Names -/

/-- A plain text, checked letter by letter. -/
theorem plainText_of_all {text : List Char} (some : text ≠ [])
    (plain : (text.all fun c => !isSpace c && c ≠ ':' && c ≠ '"' && c ≠ Char.ofNat 0) = true) :
    PlainText text := by
  refine ⟨some, fun c member => ?_⟩
  have isPlain := List.all_eq_true.mp plain c member
  simpa [and_assoc] using isPlain

/-- A letter, a digit or a type suffix in upper case is no separator of a line. -/
theorem plain_toUpper {c : Char} (letter : c.isAlphanum = true ∨ c = '$' ∨ c = '%') :
    isSpace c.toUpper = false ∧ c.toUpper ≠ ':' ∧ c.toUpper ≠ '"' ∧ c.toUpper ≠ Char.ofNat 0 := by
  rcases letter with alphanum | rfl | rfl
  · refine ⟨by rw [isSpace_toUpper, isSpace_of_isAlphanum alphanum], ?_⟩
    have code := toNat_toUpper c
    rw [Char.isAlphanum, Bool.or_eq_true, isAlpha_iff_toNat, Char.isDigit_iff_toNat] at alphanum
    have zero : '0'.toNat = 48 := rfl
    have nine : '9'.toNat = 57 := rfl
    refine ⟨?_, ?_, ?_⟩
    all_goals
      intro same
      rw [same] at code
      simp only [Char.reduceToNat] at code
      split at code <;> omega
  · exact ⟨rfl, by decide, by decide, by decide⟩
  · exact ⟨rfl, by decide, by decide, by decide⟩

/-- A letter of a name is one of its body, or the mark of its type. -/
theorem mem_nameBody {token : List Char} {c : Char} (member : c ∈ token) :
    c ∈ nameBody token ∨ c = '$' ∨ c = '%' := by
  unfold nameBody
  split
  · next suffixed =>
      simp only [Bool.and_eq_true, Bool.or_eq_true, decide_eq_true_eq, List.getLast?_eq_some_iff]
        at suffixed
      rcases suffixed.2 with ⟨front, rfl⟩ | ⟨front, rfl⟩
      all_goals
        rw [List.dropLast_concat]
        rcases List.mem_append.mp member with inFront | last
        · exact .inl inFront
        · rw [List.mem_singleton] at last
          simp [last]
  · exact .inl member

/-- The canonical name of a variable is an operand. -/
theorem plainText_uppercase {name : String} (named : Named name) :
    PlainText (uppercase name).toList := by
  unfold Named isValidVariableName at named
  split at named
  · cases named
  · rw [isReadonlySessionSystemVariable] at named
    simp only [Bool.or_eq_true, decide_eq_true_eq] at named
    rcases named with ((same | same) | same) | same
    all_goals
      rw [same]
      exact plainText_of_all (by decide) rfl
  · next first rest _ isName =>
      rw [Bool.and_eq_true, List.all_eq_true] at named
      constructor
      · rw [uppercase, String.toList_map, isName]
        exact List.cons_ne_nil _ _
      · rw [uppercase, String.toList_map, isName, List.forall_mem_map]
        intro c member
        exact plain_toUpper ((mem_nameBody member).imp_left (named.2 c))

/-- A name that has passed the check is a name. -/
theorem named_of_valid {name : String} (valid : ¬ (!isValidVariableName name) = true) :
    Named name := by
  simpa [Named] using valid

/-- An instruction on a valid name is one that compilers emit. -/
theorem compiled_onName {op : OpCode} {name : String} (kind : operandKind op = .name)
    (named : Named name) : Compiled (onName op name : Instruction Double) :=
  .name kind (plainText_uppercase named)

/-- So is the instruction that pushes an `int`. -/
theorem compiled_pushInt {value : Int} (isInt : IsInt value) :
    Compiled (pushInt value : Instruction Double) :=
  .int rfl isInt nofun

/-! ## Expressions -/

/-- Every instruction of a row has an operand that is stored as the parser reads it. -/
def AllCompiled (code : List (Instruction Double)) : Prop := ∀ instr ∈ code, Compiled instr

/-- Rows of such instructions, one after the other. -/
theorem AllCompiled.append {first second : List (Instruction Double)}
    (before : AllCompiled first) (after : AllCompiled second) : AllCompiled (first ++ second) :=
  List.forall_mem_append.mpr ⟨before, after⟩

/-- One such instruction in front of others. -/
theorem AllCompiled.cons {instr : Instruction Double} {rest : List (Instruction Double)}
    (compiled : Compiled instr) (others : AllCompiled rest) : AllCompiled (instr :: rest) :=
  List.forall_mem_cons.mpr ⟨compiled, others⟩

theorem AllCompiled.one {instr : Instruction Double} (compiled : Compiled instr) :
    AllCompiled [instr] :=
  List.forall_mem_singleton.mpr compiled

theorem allCompiled_nil : AllCompiled ([] : List (Instruction Double)) := List.forall_mem_nil _

/-- Calls are such instructions. -/
theorem allCompiled_emitCall (name : String) (got : Nat) :
    Yields AllCompiled (emitCall name got : Except String (List (Instruction Double))) := by
  unfold emitCall
  dsimp only
  split
  · exact .error
  · next function found =>
      have arity := arity_of_functionIdForCall found
      have small : function.id < 2 ^ 32 ∧ (function.arity : Int) ≤ intMax := by
        cases function <;> decide
      have namespaceId : kNamespaceIdBasic < 2 ^ 32 := by decide
      rw [← arity] at small
      refine .ok (AllCompiled.append ?_ (.one ?_))
      swap
      · exact .callFunc namespaceId small.1 ⟨Int.natCast_nonneg _, small.2⟩
      split
      · exact .one (compiled_pushInt (by decide))
      · exact allCompiled_nil

mutual

/-- The code of an expression whose whole numbers are `int`s. -/
theorem allCompiled_emitNode : (expression : Expr Double) → expression.Fits →
    (inArithmetic : Bool) → Yields AllCompiled (emitNode expression inArithmetic)
  | .intLiteral _, fits, _ => by
      cases fits with
      | intLiteral isInt => exact .ok (.one (compiled_pushInt isInt))
  | .floatLiteral value, _, _ => .ok (.one (.float value))
  | .stringLiteral text, _, _ => .ok (.one (.quoted rfl text))
  | .dictField token, _, _ => by
      unfold emitNode
      split
      · exact .error
      · split
        · exact .error
        · exact .ok (.one (.quoted rfl token))
  | .identifier name, _, _ => by
      unfold emitNode
      split
      · exact .error
      · next valid =>
          split
          · exact .error
          · exact .ok (.one (compiled_onName rfl (named_of_valid valid)))
  | .negate operand, fits, _ => by
      cases fits with
      | negate inner =>
          exact (allCompiled_emitNode operand inner true).bind fun _ compiled =>
            .ok ((compiled.cons (compiled_pushInt (by decide))).append (.one (.bare rfl)))
  | .binary op left right, fits, _ => by
      cases fits with
      | binary first second =>
          have operation : Compiled ({ op := op.toOpCode } : Instruction Double) := by
            cases op <;> exact .bare rfl
          exact (allCompiled_emitNode left first _).bind fun _ compiledLeft =>
            (allCompiled_emitNode right second _).bind fun _ compiledRight =>
              .ok ((compiledLeft.append compiledRight).append (.one operation))
  | .grouped expression, fits, inArithmetic => by
      cases fits with
      | grouped inner => exact allCompiled_emitNode expression inner inArithmetic
  | .subscript _ index, fits, _ => by
      cases fits with
      | subscript inner =>
          unfold emitNode
          split
          · exact .error
          · next valid =>
              split
              · exact .error
              · exact (allCompiled_emitNode index inner false).bind fun _ compiled =>
                  .ok (compiled.append (.one (compiled_onName rfl (named_of_valid valid))))
  | .attributeAccess _ attr, fits, _ => by
      cases fits with
      | attributeAccess inner =>
          unfold emitNode
          split
          · exact .error
          · next valid =>
              exact (allCompiled_emitNode attr inner false).bind fun _ compiled =>
                .ok ((compiled.cons (compiled_onName rfl (named_of_valid valid))).append
                  (.cons (compiled_pushInt (by decide)) (.one (.bare rfl))))
  | .valueAccess _ attr valueIndex, fits, _ => by
      cases fits with
      | valueAccess inner second =>
          unfold emitNode
          split
          · exact .error
          · next valid =>
              exact (allCompiled_emitNode attr inner false).bind fun _ compiledAttr =>
                (allCompiled_emitNode valueIndex second false).bind fun _ compiledIndex =>
                  .ok (((compiledAttr.append compiledIndex).cons
                    (compiled_onName rfl (named_of_valid valid))).append (.one (.bare rfl)))
  | .functionCall name arguments, fits, _ => by
      cases fits with
      | functionCall inner =>
          have checked : Yields (fun _ => True) (checkArity name arguments.length) :=
            fun _ _ => trivial
          exact checked.bind fun _ _ => (allCompiled_emitArguments name 0 arguments inner).bind
            fun _ compiled => (allCompiled_emitCall name _).bind fun _ compiledCall =>
              .ok (compiled.append compiledCall)

/-- The code of arguments consists of such instructions. -/
theorem allCompiled_emitArguments (name : String) (argIndex : Nat) :
    (arguments : List (Expr Double)) → (∀ argument ∈ arguments, argument.Fits) →
      Yields AllCompiled (emitArguments name argIndex arguments)
  | [], _ => .ok allCompiled_nil
  | argument :: rest, fits =>
      have fit := List.forall_mem_cons.mp fits
      (allCompiled_emitNode argument fit.1 _).bind fun _ compiled =>
        (allCompiled_emitArguments name (argIndex + 1) rest fit.2).bind fun _ compiledRest =>
          .ok (compiled.append compiledRest)

end

/-- So does the code of an expression that fits. -/
theorem allCompiled_expression (context : String) {expression : Expr Double}
    (fits : expression.Fits) : Yields AllCompiled (expressionCode context expression) := by
  unfold expressionCode
  split
  · exact .ok (allCompiled_emitNode expression fits false _ ‹_›)
  · exact .error

/-- So does the code of a prompt. -/
theorem allCompiled_prompt {promptExpr : Option (Expr Double)}
    (fits : ∀ prompt ∈ promptExpr, prompt.Fits) : Yields AllCompiled (promptCode promptExpr) := by
  cases promptExpr with
  | none => exact .ok allCompiled_nil
  | some prompt =>
      exact (allCompiled_expression _ (fits prompt rfl)).bind fun _ compiled =>
        .ok (compiled.append (.one (.bare rfl)))

/-- So does the code of a step. -/
theorem allCompiled_step {stepExpr : Option (Expr Double)}
    (fits : ∀ step ∈ stepExpr, step.Fits) : Yields AllCompiled (stepCode stepExpr) := by
  cases stepExpr with
  | none => exact .ok (.one (compiled_pushInt (by decide)))
  | some step => exact allCompiled_expression _ (fits step rfl)

/-- So does the code of a value index. -/
theorem allCompiled_valueIndex (context : String) {valueIndex : Option (Expr Double)}
    (fits : ∀ index ∈ valueIndex, index.Fits) :
    Yields AllCompiled (valueIndexCode context valueIndex) := by
  cases valueIndex with
  | none => exact .ok (.one (compiled_pushInt (by decide)))
  | some index => exact allCompiled_expression _ (fits index rfl)

/-- So does a coercion. -/
theorem allCompiled_coercion (variableName : String) :
    AllCompiled (coercion variableName : List (Instruction Double)) := by
  unfold coercion
  split
  · exact .one (.bare rfl)
  · exact allCompiled_nil

theorem allCompiled_resolve (resolves : Bool) {fileVar : String} (isFile : Named fileVar) :
    AllCompiled (if resolves then [onName .resolveDictAttr fileVar] else [] :
      List (Instruction Double)) := by
  split
  · exact .one (compiled_onName rfl isFile)
  · exact allCompiled_nil

/-! ## Statements -/

/-- The instructions without a target in the code of a statement, wherever it starts. -/
def CodeCompiled (code : Code Double) : Prop :=
  ∀ start, ∀ instr, plain instr ∈ code start → Compiled instr

theorem mem_row {code : List (Instruction Double)} {instr : Instruction Double} :
    plain instr ∈ code.map plain ↔ instr ∈ code := by
  simp

/-- Code without targets consists of compiled instructions when its row does. -/
theorem codeCompiled_ofInstrs {code : List (Instruction Double)} (compiled : AllCompiled code) :
    CodeCompiled (.ofInstrs code) :=
  fun _ instr member => compiled instr (mem_row.mp member)

/-- A reference to a line needs no operand. -/
theorem codeCompiled_reference (op : OpCode) (line : Int) :
    CodeCompiled (.reference op line : Code Double) := by
  intro start instr member
  cases List.mem_singleton.mp member

/-- The code of an `IF`, from that of its arms. -/
theorem codeCompiled_if {condition : Expr Double} {thenIsLine : Bool}
    {thenArm : Except String (Code Double)} {elseArm : Option (Except String (Code Double))}
    (fits : condition.Fits) (thenCompiled : Yields CodeCompiled thenArm)
    (elseCompiled : ∀ arm, elseArm = some arm → Yields CodeCompiled arm) :
    Yields CodeCompiled (ifCode condition thenIsLine thenArm elseArm) := by
  refine (allCompiled_expression _ fits).bind fun conditionCode compiled => ?_
  refine thenCompiled.bind fun thenCode thenCompiled => ?_
  cases elseArm with
  | none =>
      refine .ok fun start instr member => ?_
      simp only [Code.branch, List.mem_append, List.mem_cons, mem_row, reduceCtorEq, false_or]
        at member
      exact member.elim (compiled instr) (thenCompiled _ instr)
  | some elseArm =>
      refine (elseCompiled elseArm rfl).bind fun elseCode elseCompiled => .ok ?_
      cases thenIsLine with
      | true =>
          intro start instr member
          simp only [if_true, Code.branchToLine, List.mem_append, List.mem_cons, mem_row,
            reduceCtorEq, false_or] at member
          exact member.elim (Or.elim · (compiled instr) (thenCompiled _ instr))
            (elseCompiled _ instr)
      | false =>
          intro start instr member
          simp only [Bool.false_eq_true, if_false, Code.branchElse, List.mem_append, List.mem_cons,
            mem_row, reduceCtorEq, false_or] at member
          exact member.elim (Or.elim · (compiled instr) (thenCompiled _ instr))
            (elseCompiled _ instr)

/-- The code of a file statement, from that of its operands and its `ELSE`. -/
theorem codeCompiled_fileAction {before onDone onFailed : List (Instruction Double)}
    {plainOp triedOp : OpCode} {fileVar : String}
    {elseArm : Option (Except String (Code Double))} (compiledBefore : AllCompiled before)
    (plainKind : operandKind plainOp = .name) (triedKind : operandKind triedOp = .name)
    (isFile : Named fileVar) (compiledDone : AllCompiled onDone)
    (compiledFailed : AllCompiled onFailed)
    (elseCompiled : ∀ arm, elseArm = some arm → Yields CodeCompiled arm) :
    Yields CodeCompiled
      (fileActionCode before plainOp triedOp fileVar onDone onFailed elseArm) := by
  cases elseArm with
  | none =>
      exact .ok (codeCompiled_ofInstrs
        (compiledBefore.append (.cons (compiled_onName plainKind isFile) compiledDone)))
  | some elseArm =>
      refine (elseCompiled elseArm rfl).bind fun elseCode elseCompiled => .ok ?_
      intro start instr member
      simp only [Code.andThen, Code.ofInstrs, Code.tried, List.cons_append, List.mem_append,
        List.mem_cons, mem_row, reduceCtorEq, false_or, CodeItem.plain.injEq] at member
      rcases member with inBefore | rfl | (inDone | inFailed) | inElse
      · exact compiledBefore instr inBefore
      · exact compiled_onName triedKind isFile
      · exact compiledDone instr inDone
      · exact compiledFailed instr inFailed
      · exact elseCompiled _ instr inElse

theorem codeCompiled_onlyOnLine {inArm : Bool} {code : Except String (Code Double)}
    (compiled : Yields CodeCompiled code) : Yields CodeCompiled (onlyOnLineCode inArm code) := by
  cases inArm with
  | true => exact .error
  | false => exact compiled

theorem uppercase_empty : uppercase "" = "" := by simp [uppercase]

/-- The name of a `NEXT` may be missing. -/
theorem compiled_forNext {name : String} (named : name = "" ∨ Named name) :
    Compiled (onName .forNext name : Instruction Double) := by
  rcases named with rfl | named
  · rw [onName, uppercase_empty]
    exact .unnamed
  · exact compiled_onName rfl named

/-- The names of `MAT A = B` are in one operand. -/
theorem compiled_matCopyInstr {targetArray rhsSourceArray : String} (target : Named targetArray)
    (source : Named rhsSourceArray) :
    Compiled (matCopyInstr targetArray rhsSourceArray : Instruction Double) := by
  have plainTarget := plainText_uppercase target
  have plainSource := plainText_uppercase source
  refine .name rfl ⟨?_, ?_⟩
  · simp [plainTarget.1]
  · simp only [String.toList_append, List.forall_mem_append]
    exact ⟨⟨plainTarget.2, (@plainText_of_all "|".toList (by decide) rfl).2⟩, plainSource.2⟩

mutual

/-- The instructions in the code of a statement that fits are stored as the parser reads them. -/
theorem codeCompiled_statement : (statement : Stmt Double) → statement.Fits → (inArm : Bool) →
    Yields CodeCompiled (statementCode inArm statement)
  | .letStmt variableName expression, ⟨named, fits⟩, _ =>
      (allCompiled_expression _ fits).bind fun _ compiled => .ok <| codeCompiled_ofInstrs <|
        compiled.append ((allCompiled_coercion _).append (.one (compiled_onName rfl named)))
  | .input promptExpr _, ⟨fits, named⟩, _ =>
      (allCompiled_prompt fits).bind fun _ compiled => .ok <| codeCompiled_ofInstrs <|
        compiled.append (((allCompiled_coercion _).cons (.bare rfl)).append
          (.one (compiled_onName rfl named)))
  | .chain _, fits, _ => (allCompiled_expression _ fits).bind fun _ compiled =>
      .ok (codeCompiled_ofInstrs (compiled.append (.one (.bare rfl))))
  | .goto _, _, _ => .ok (codeCompiled_reference _ _)
  | .gosub _, _, _ => .ok (codeCompiled_reference _ _)
  | .returnStmt, _, _ => .ok (codeCompiled_ofInstrs (.one (.bare rfl)))
  | .forStmt variableName _ _ _, ⟨named, initFits, limitFits, stepFits⟩, _ => by
      refine codeCompiled_onlyOnLine ?_
      split
      · exact .error
      · refine (allCompiled_expression _ initFits).bind fun _ compiledInit => ?_
        refine (allCompiled_expression _ limitFits).bind fun _ compiledLimit => ?_
        refine (allCompiled_step stepFits).bind fun _ compiledStep => ?_
        have stored : AllCompiled (coercion variableName ++ [onName .storeVar variableName] :
            List (Instruction Double)) :=
          (allCompiled_coercion _).append (.one (compiled_onName rfl named))
        exact .ok (codeCompiled_ofInstrs ((((compiledInit.append stored).append
          compiledLimit).append compiledStep).append (.one (compiled_onName rfl named))))
  | .next _, named, _ =>
      codeCompiled_onlyOnLine (.ok (codeCompiled_ofInstrs (.one (compiled_forNext named))))
  | .ifStmt _ thenArm elseArm, ⟨fits, thenFits, elseFits⟩, _ =>
      codeCompiled_if fits (codeCompiled_arm thenArm thenFits)
        (codeCompiled_elseArm elseArm elseFits)
  | .print _ suppressEol, fits, _ => (allCompiled_expression _ fits).bind fun _ compiled => by
      refine .ok (codeCompiled_ofInstrs (compiled.append (.cons (.bare rfl) ?_)))
      cases suppressEol with
      | true => exact allCompiled_nil
      | false => exact .one (.bare rfl)
  | .rem, _, _ => .ok (codeCompiled_ofInstrs allCompiled_nil)
  | .stop, _, _ => .ok (codeCompiled_ofInstrs (.one (.bare rfl)))
  | .endStmt, _, _ => .ok (codeCompiled_ofInstrs (.one (.bare rfl)))
  | .dim _ _, ⟨named, fits⟩, _ => codeCompiled_onlyOnLine <|
      (allCompiled_expression _ fits).bind fun _ compiled =>
        .ok (codeCompiled_ofInstrs (compiled.append (.one (compiled_onName rfl named))))
  | .letArray _ _ _, ⟨named, indexFits, valueFits⟩, _ => codeCompiled_onlyOnLine <|
      (allCompiled_expression _ valueFits).bind fun _ compiledValue =>
        (allCompiled_expression _ indexFits).bind fun _ compiledIndex =>
          .ok (codeCompiled_ofInstrs (((compiledValue.append (allCompiled_coercion _)).append
            compiledIndex).append (.one (compiled_onName rfl named))))
  | .clear, _, _ => .ok (codeCompiled_ofInstrs (.one (.bare rfl)))
  | .openStmt _ _ elseArm, ⟨fits, isFile, elseFits⟩, _ =>
      (allCompiled_expression _ fits).bind fun _ compiled =>
        codeCompiled_fileAction compiled rfl rfl isFile allCompiled_nil allCompiled_nil
          (codeCompiled_elseArm elseArm elseFits)
  | .read _ _ _ elseArm, ⟨named, isFile, fits, elseFits⟩, _ =>
      (allCompiled_expression _ fits).bind fun _ compiled =>
        codeCompiled_fileAction compiled rfl rfl isFile (.one (compiled_onName rfl named))
          (.one (.bare rfl)) (codeCompiled_elseArm elseArm elseFits)
  | .readU _ _ _ elseArm, ⟨named, isFile, fits, elseFits⟩, _ =>
      (allCompiled_expression _ fits).bind fun _ compiled =>
        codeCompiled_fileAction compiled rfl rfl isFile (.one (compiled_onName rfl named))
          (.one (.bare rfl)) (codeCompiled_elseArm elseArm elseFits)
  | .write _ _ _ elseArm, ⟨valueFits, isFile, idFits, elseFits⟩, _ =>
      (allCompiled_expression _ valueFits).bind fun _ compiledValue =>
        (allCompiled_expression _ idFits).bind fun _ compiledId =>
          codeCompiled_fileAction (compiledValue.append compiledId) rfl rfl isFile
            allCompiled_nil allCompiled_nil (codeCompiled_elseArm elseArm elseFits)
  | .writeU _ _ _ elseArm, ⟨valueFits, isFile, idFits, elseFits⟩, _ =>
      (allCompiled_expression _ valueFits).bind fun _ compiledValue =>
        (allCompiled_expression _ idFits).bind fun _ compiledId =>
          codeCompiled_fileAction (compiledValue.append compiledId) rfl rfl isFile
            allCompiled_nil allCompiled_nil (codeCompiled_elseArm elseArm elseFits)
  | .readNext _ _ elseArm, ⟨named, isFile, elseFits⟩, _ =>
      codeCompiled_fileAction allCompiled_nil rfl rfl isFile (.one (compiled_onName rfl named))
        (.one (.bare rfl)) (codeCompiled_elseArm elseArm elseFits)
  | .readV _ _ _ _ _ elseArm, ⟨named, isFile, idFits, attrFits, indexFits, elseFits⟩, _ =>
      (allCompiled_expression _ idFits).bind fun _ compiledId =>
        (allCompiled_expression _ attrFits).bind fun _ compiledAttr =>
          (allCompiled_valueIndex _ indexFits).bind fun _ compiledIndex =>
            codeCompiled_fileAction (((compiledId.append compiledAttr).append
              (allCompiled_resolve _ isFile)).append compiledIndex) rfl rfl isFile
              (.one (compiled_onName rfl named)) (.one (.bare rfl))
              (codeCompiled_elseArm elseArm elseFits)
  | .writeV _ _ _ _ _ elseArm, ⟨valueFits, isFile, idFits, attrFits, indexFits, elseFits⟩, _ =>
      (allCompiled_expression _ valueFits).bind fun _ compiledValue =>
        (allCompiled_expression _ idFits).bind fun _ compiledId =>
          (allCompiled_expression _ attrFits).bind fun _ compiledAttr =>
            (allCompiled_valueIndex _ indexFits).bind fun _ compiledIndex =>
              codeCompiled_fileAction ((((compiledValue.append compiledId).append
                compiledAttr).append (allCompiled_resolve _ isFile)).append compiledIndex) rfl rfl
                isFile allCompiled_nil allCompiled_nil (codeCompiled_elseArm elseArm elseFits)
  | .close _, isFile, _ => .ok (codeCompiled_ofInstrs (.one (compiled_onName rfl isFile)))
  | .release _ _, ⟨isFile, fits⟩, _ => (allCompiled_expression _ fits).bind fun _ compiled =>
      .ok (codeCompiled_ofInstrs (compiled.append (.one (compiled_onName rfl isFile))))
  | .onError none, _, _ => codeCompiled_onlyOnLine <| .ok <| codeCompiled_ofInstrs <|
      .one (.int rfl (by decide) nofun)
  | .onError (some _), _, _ => codeCompiled_onlyOnLine (.ok (codeCompiled_reference _ _))
  | .matAssign _ _, ⟨named, fits⟩, _ => codeCompiled_onlyOnLine <|
      (allCompiled_expression _ fits).bind fun _ compiled =>
        .ok (codeCompiled_ofInstrs (compiled.append (.one (compiled_onName rfl named))))
  | .matCopy _ _, ⟨target, source⟩, _ => codeCompiled_onlyOnLine <|
      .ok (codeCompiled_ofInstrs (.one (compiled_matCopyInstr target source)))
  | .matRead _ _ _ elseArm, ⟨named, isFile, fits, elseFits⟩, _ => codeCompiled_onlyOnLine <|
      (allCompiled_expression _ fits).bind fun _ compiled =>
        codeCompiled_fileAction compiled rfl rfl isFile (.one (compiled_onName rfl named))
          (.one (.bare rfl)) (codeCompiled_elseArm elseArm elseFits)
  | .matWrite _ _ _ elseArm, ⟨named, isFile, fits, elseFits⟩, _ => codeCompiled_onlyOnLine <|
      (allCompiled_expression _ fits).bind fun _ compiled =>
        codeCompiled_fileAction (compiled.cons (compiled_onName rfl named)) rfl rfl isFile
          allCompiled_nil allCompiled_nil (codeCompiled_elseArm elseArm elseFits)

/-- The code of an arm that fits. -/
theorem codeCompiled_arm : (arm : BranchArm Double) → arm.Fits →
    Yields CodeCompiled (armCode arm)
  | .line _, _ => .ok (codeCompiled_reference _ _)
  | .inline statement, fits => codeCompiled_statement statement fits true

/-- The code of an `ELSE` that fits. -/
theorem codeCompiled_elseArm : (elseArm : Option (BranchArm Double)) → elseFits elseArm →
    ∀ arm, elseArmCode elseArm = some arm → Yields CodeCompiled arm
  | none, _ => nofun
  | some arm, fits => by
      rintro _ ⟨⟩
      exact codeCompiled_arm arm fits

end

/-! ## Programs -/

/-- An instruction with a target has a number as its operand. -/
theorem operandKind_of_takesTarget {op : OpCode} (takes : takesTarget op) :
    operandKind op = .int := by
  cases op <;> first | rfl | cases takes

section Programs

variable {lines : List (BasicLine Double)} (accepted : ∀ line ∈ lines, line.Accepted)
  (fits : ∀ line ∈ lines, line.statement.Fits)
include accepted fits

/-- The code of lines that fit. -/
theorem codeCompiled_lines : CodeCompiled (linesCode lines) := by
  intro start instr member
  obtain ⟨index, found⟩ := List.getElem?_of_mem member
  obtain ⟨position, line, offset, isLine, -, inCode⟩ := line_of_item found
  have inLines := List.mem_of_getElem? isLine
  exact codeCompiled_statement line.statement (fits line inLines) false line.code
    (accepted line inLines) _ instr (List.mem_of_getElem? inCode)

/-- The targets of a program with as many instructions as an `int` counts are `int`s. -/
theorem compiled_assembled (known : TargetsKnown lines)
    (countable : ((assembled lines).program.length : Int) ≤ intMax) :
    ∀ instr ∈ (assembled lines).program, Compiled instr := by
  rw [assembled_program] at countable ⊢
  rw [List.length_append, List.length_map] at countable
  have index {op : OpCode} {target : Nat}
      (within : takesTarget op ∧ target ≤ (linesCode lines 0).length) :
      Compiled ({ op, operand := .int target } : Instruction Double) := by
    refine .int (operandKind_of_takesTarget within.1) ⟨?_, by omega⟩ fun _ => Int.natCast_nonneg _
    exact le_trans (by decide) (Int.natCast_nonneg _)
  rw [List.forall_mem_append, List.forall_mem_map]
  constructor
  · intro item member
    cases item with
    | plain instr => exact codeCompiled_lines accepted fits 0 instr member
    | toIndex op target => exact index (target_le_end known accepted member rfl)
    | toLine op line => exact index (target_le_end known accepted member rfl)
  · unfold closing
    split
    · exact AllCompiled.one (.bare rfl)
    · exact allCompiled_nil

end Programs

/-- Every source line is the number of a line. -/
theorem mem_sourceLines {lines : List (BasicLine Double)} {start : Nat} {number : Int}
    (member : number ∈ sourceLines start lines) : ∃ line ∈ lines, line.lineNumber = number := by
  induction lines generalizing start with
  | nil => cases member
  | cons line rest inductionHypothesis =>
      rw [sourceLines, List.mem_append] at member
      rcases member with here | later
      · exact ⟨line, List.mem_cons_self, (List.eq_of_mem_replicate here).symm⟩
      · obtain ⟨other, inRest, isNumber⟩ := inductionHypothesis later
        exact ⟨other, List.mem_cons_of_mem _ inRest, isNumber⟩

/-- No program is empty. -/
theorem assembled_program_ne_nil (lines : List (BasicLine Double)) :
    (assembled lines).program ≠ [] := by
  rw [assembled_program, closing]
  split
  · simp
  · next ended =>
      intro none
      have empty : linesCode lines 0 = [] := by simpa using none
      simp [needsHalt, empty] at ended

variable [Doubles Double]

/-- What the compiler emits is of the shape that the writer and the loader are read at. -/
structure Storable (program : List (Instruction Double)) (sourceLinePerInstr : List Int) : Prop where
  compiled : ∀ instr ∈ program, Compiled instr
  notEmpty : program ≠ []
  sameLength : sourceLinePerInstr.length = program.length
  lines : ∀ line ∈ sourceLinePerInstr, 0 ≤ line ∧ line ≤ intMax

/-- The lines of a program have positive numbers, and its closing instruction has the line 0. -/
theorem storable_of_compile {lines : List (Int × String)} {emitted : EmittedProgram Double}
    (compiled : compile lines = .ok emitted)
    (numbered : ∀ line ∈ lines, 0 < line.1 ∧ line.1 ≤ intMax)
    (countable : (emitted.program.length : Int) ≤ intMax) :
    Storable emitted.program emitted.sourceLinePerInstr := by
  obtain ⟨-, known, accepted, rfl⟩ := compile_eq_ok.mp compiled
  have parsed := @fits_parseProgram Double _ lines
  refine ⟨?_, assembled_program_ne_nil _, length_assembled_sources _, ?_⟩
  · exact compiled_assembled accepted (fun line member => (parsed line member).1) known countable
  · rw [assembled_sources]
    intro number member
    rcases List.mem_append.mp member with inLines | closes
    · obtain ⟨line, inParsed, rfl⟩ := mem_sourceLines inLines
      obtain ⟨⟨_, text⟩, inText, isNumber⟩ := List.mem_map.mp (parsed line inParsed).2
      have inRange := numbered _ inText
      rw [isNumber] at inRange
      exact ⟨inRange.1.le, inRange.2⟩
    · split at closes
      · rw [List.mem_singleton.mp closes]
        decide
      · cases closes

/-- What `COMPILE` stores is what `RUN` loads exactly when the loader's check of the jumps accepts
it, every number in it is one that six digits spell, and every `NEXT` has its name. -/
theorem compiled_readsBack_iff (plain : PrintsPlain Double) {lines : List (Int × String)}
    {emitted : EmittedProgram Double} (compiled : compile lines = .ok emitted)
    (numbered : ∀ line ∈ lines, 0 < line.1 ∧ line.1 ≤ intMax)
    (countable : (emitted.program.length : Int) ≤ intMax) :
    ReadsBack emitted.program emitted.sourceLinePerInstr ↔
      validateJumpTargets emitted.program = .ok () ∧
        ∀ instr ∈ emitted.program, Legible instr := by
  have storable := storable_of_compile compiled numbered countable
  exact readsBack_iff plain storable.compiled storable.notEmpty storable.sameLength storable.lines

/-! ## A `NEXT` without a name -/

/-- Whole numbers are printed as plain texts. -/
theorem printsPlain_whole : PrintsPlain Int := plainText_toString

/-- `STOP` is parsed. -/
theorem parseLine_stop : parseLine "STOP".toList = .ok (.stop : Stmt Int) := by
  have word : upperWord (nextWord "STOP".toList).1 = "STOP" := upperWord_eq_iff.mpr rfl
  rw [parseLine_eq, parseWith, word]
  rfl

/-- `NEXT` without a name is parsed. -/
theorem parseLine_next : parseLine "NEXT".toList = .ok (.next "" : Stmt Int) := by
  have word : upperWord (nextWord "NEXT".toList).1 = "NEXT" := upperWord_eq_iff.mpr rfl
  rw [parseLine_eq, parseWith, word]
  rfl

/-- A program of one line without targets is compiled to the code of the line. -/
theorem compile_line {text : String} {statement : Stmt Int} (bare : trim text.toList = text.toList)
    (notEmpty : text ≠ "") (parsed : parseLine text.toList = .ok statement)
    (plain : statement.lineTargets = []) (accepted : (⟨10, statement⟩ : BasicLine Int).Accepted) :
    compile [(10, text)] = .ok (assembled [⟨10, statement⟩]) := by
  rw [compile_eq_ok, parseProgram_line bare notEmpty parsed]
  exact ⟨rfl, by simp [TargetsKnown, plain], by simpa using accepted, rfl⟩

/-- The stored code of `STOP` is read back. -/
theorem stop_readsBack : ∃ emitted : EmittedProgram Int, compile [(10, "STOP")] = .ok emitted ∧
    ReadsBack emitted.program emitted.sourceLinePerInstr := by
  have stop := @compile_line "STOP" .stop rfl (by decide) parseLine_stop rfl rfl
  refine ⟨_, stop, ?_⟩
  refine (compiled_readsBack_iff printsPlain_whole stop (by decide) (by decide)).mpr ⟨rfl, ?_⟩
  intro instr member
  obtain rfl | rfl := List.mem_pair.mp member <;> trivial

/-- The loader refuses a `NEXT` without a name, which the compiler accepts. -/
theorem next_not_readBack :
    ∃ emitted : EmittedProgram Int, compile [(10, "NEXT")] = .ok emitted ∧
      validateJumpTargets emitted.program = .ok () ∧
        ¬ ReadsBack emitted.program emitted.sourceLinePerInstr := by
  have next := @compile_line "NEXT" (.next "") rfl (by decide) parseLine_next rfl rfl
  refine ⟨_, next, rfl, fun readsBack => ?_⟩
  have storable := storable_of_compile next (by decide) (by decide)
  have legible := ((readsBack_iff printsPlain_whole storable.compiled storable.notEmpty
    storable.sameLength storable.lines).mp readsBack).2
  exact legible _ List.mem_cons_self rfl uppercase_empty

end Gemini.Basic
