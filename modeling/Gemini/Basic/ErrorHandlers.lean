import Gemini.Basic.Targets

/-!
# `ON ERROR` in emitted code

`ON ERROR` is a statement of a line, never of an arm, and its code is one instruction. So the
instruction that sets the error handler stands at the start of a line that is an `ON ERROR`, and
nowhere else, and its operand is the start of the line that the statement names.
-/

namespace Gemini.Basic

open Gemini.VM
open CodeItem (plain toIndex toLine)
open Gemini.Data (bind_eq_ok)

variable {Double : Type}

/-! ## Code that sets no handler -/

/-- What a computation returns has a property. -/
def Yields {Result : Type} (holds : Result → Prop) (computed : Except String Result) : Prop :=
  ∀ result, computed = .ok result → holds result

namespace Yields

variable {Value Result : Type} {met : Value → Prop} {holds : Result → Prop}

/-- A result with the property is yielded. -/
theorem ok {result : Result} (is : holds result) : Yields holds (.ok result) := by
  rintro _ ⟨⟩
  exact is

/-- An error yields nothing. -/
theorem error {message : String} : Yields holds (.error message) := nofun

/-- Code after other code yields what it yields for what the first returns. -/
theorem bind {first : Except String Value} {next : Value → Except String Result}
    (yields : Yields met first) (goesOn : ∀ value, met value → Yields holds (next value)) :
    Yields holds (first >>= next) := by
  intro result done
  obtain ⟨value, isFirst, isNext⟩ := bind_eq_ok.mp done
  exact goesOn value (yields value isFirst) result isNext

end Yields

/-- No instruction of a row sets the error handler. -/
def SetsNone (code : List (Instruction Double)) : Prop :=
  ∀ instr ∈ code, instr.op ≠ .setOnErrorHandler

@[simp] theorem setsNone_nil : SetsNone ([] : List (Instruction Double)) :=
  List.forall_mem_nil _

@[simp] theorem setsNone_cons {instr : Instruction Double} {rest : List (Instruction Double)} :
    SetsNone (instr :: rest) ↔ instr.op ≠ .setOnErrorHandler ∧ SetsNone rest :=
  List.forall_mem_cons

/-- Two rows set no handler exactly when neither does. -/
@[simp] theorem setsNone_append {first second : List (Instruction Double)} :
    SetsNone (first ++ second) ↔ SetsNone first ∧ SetsNone second :=
  List.forall_mem_append

/-- Coercions set no handler. -/
@[simp] theorem setsNone_coercion (variableName : String) :
    SetsNone (coercion variableName : List (Instruction Double)) := by
  unfold coercion
  split <;> simp

@[simp] theorem setsNone_resolves {resolves : Prop} [Decidable resolves] {fileVar : String} :
    SetsNone (if resolves then [onName .resolveDictAttr fileVar] else [] :
      List (Instruction Double)) := by
  split <;> simp [onName]

/-- Calls of functions set no handler. -/
theorem setsNone_emitCall (name : String) (got : Nat) :
    Yields SetsNone (emitCall name got : Except String (List (Instruction Double))) := by
  unfold emitCall
  dsimp only
  split
  · exact .error
  · refine .ok (setsNone_append.mpr ⟨?_, by simp⟩)
    split <;> simp [pushInt]

mutual

/-- The code of an expression sets no handler. -/
theorem setsNone_emitNode : (expression : Expr Double) → (inArithmetic : Bool) →
    Yields SetsNone (emitNode expression inArithmetic)
  | .intLiteral _, _ => .ok (by simp [pushInt])
  | .floatLiteral _, _ => .ok (by simp)
  | .stringLiteral _, _ => .ok (by simp)
  | .dictField _, _ => by
      unfold emitNode
      split
      · exact .error
      · split
        · exact .error
        · exact .ok (by simp)
  | .identifier _, _ => by
      unfold emitNode
      split
      · exact .error
      · split
        · exact .error
        · exact .ok (by simp [onName])
  | .negate operand, _ => (setsNone_emitNode operand true).bind fun _ none =>
      .ok (by simp [pushInt, none])
  | .binary op left right, _ =>
      (setsNone_emitNode left _).bind fun _ noneLeft =>
        (setsNone_emitNode right _).bind fun _ noneRight => .ok (by
          have operation : op.toOpCode ≠ .setOnErrorHandler := by cases op <;> nofun
          simp [noneLeft, noneRight, operation])
  | .grouped expression, inArithmetic => setsNone_emitNode expression inArithmetic
  | .subscript _ index, _ => by
      unfold emitNode
      split
      · exact .error
      · split
        · exact .error
        · exact (setsNone_emitNode index false).bind fun _ none => .ok (by simp [onName, none])
  | .attributeAccess _ attr, _ => by
      unfold emitNode
      split
      · exact .error
      · exact (setsNone_emitNode attr false).bind fun _ none =>
          .ok (by simp [onName, pushInt, none])
  | .valueAccess _ attr valueIndex, _ => by
      unfold emitNode
      split
      · exact .error
      · exact (setsNone_emitNode attr false).bind fun _ noneAttr =>
          (setsNone_emitNode valueIndex false).bind fun _ noneIndex =>
            .ok (by simp [onName, noneAttr, noneIndex])
  | .functionCall name arguments, _ => by
      have checked : Yields (fun _ => True) (checkArity name arguments.length) :=
        fun _ _ => trivial
      exact checked.bind fun _ _ => (setsNone_emitArguments name 0 arguments).bind
        fun _ noneArguments => (setsNone_emitCall name _).bind fun _ noneCall =>
          .ok (setsNone_append.mpr ⟨noneArguments, noneCall⟩)

theorem setsNone_emitArguments (name : String) (argIndex : Nat) :
    (arguments : List (Expr Double)) → Yields SetsNone (emitArguments name argIndex arguments)
  | [] => .ok setsNone_nil
  | argument :: rest =>
      (setsNone_emitNode argument _).bind fun _ none =>
        (setsNone_emitArguments name (argIndex + 1) rest).bind fun _ noneRest =>
          .ok (setsNone_append.mpr ⟨none, noneRest⟩)

end

/-- No code of an expression sets a handler. -/
theorem setsNone_expression (context : String) (expression : Expr Double) :
    Yields SetsNone (expressionCode context expression) := by
  unfold expressionCode
  split
  · exact .ok (setsNone_emitNode expression false _ ‹_›)
  · exact .error

/-- No code of a prompt sets a handler. -/
theorem setsNone_prompt (promptExpr : Option (Expr Double)) :
    Yields SetsNone (promptCode promptExpr) := by
  cases promptExpr with
  | none => exact .ok setsNone_nil
  | some promptExpr =>
      exact (setsNone_expression _ promptExpr).bind fun _ none => .ok (by simp [none])

/-- No code of a step sets a handler. -/
theorem setsNone_step (stepExpr : Option (Expr Double)) : Yields SetsNone (stepCode stepExpr) := by
  cases stepExpr with
  | none => exact .ok (by simp [pushInt])
  | some stepExpr => exact setsNone_expression _ stepExpr

/-- No code of a value index sets a handler. -/
theorem setsNone_valueIndex (context : String) (valueIndex : Option (Expr Double)) :
    Yields SetsNone (valueIndexCode context valueIndex) := by
  cases valueIndex with
  | none => exact .ok (by simp [pushInt])
  | some valueIndex => exact setsNone_expression _ valueIndex

/-! ## Statements that set no handler -/

/-- The code of a statement sets no handler, wherever it starts. -/
def CodeSetsNone (code : Code Double) : Prop :=
  ∀ start, ∀ item ∈ code start, item.op ≠ .setOnErrorHandler

/-- Code without jumps sets no handler when its row does not. -/
theorem codeSetsNone_ofInstrs {code : List (Instruction Double)} (none : SetsNone code) :
    CodeSetsNone (.ofInstrs code) := by
  intro start item member
  obtain ⟨instr, inCode, rfl⟩ := List.mem_map.mp member
  exact none instr inCode

/-- The items of a row that sets no handler set none. -/
theorem codeSetsNone_row {code : List (Instruction Double)} (none : SetsNone code) :
    ∀ item ∈ code.map plain, item.op ≠ .setOnErrorHandler :=
  codeSetsNone_ofInstrs none 0

/-- A jump to a line sets no handler. -/
theorem codeSetsNone_reference {op : OpCode} (other : op ≠ .setOnErrorHandler) (line : Int) :
    CodeSetsNone (.reference op line : Code Double) := by
  intro start item member
  obtain rfl := List.mem_singleton.mp member
  exact other

section Arms

variable {condition before onDone onFailed : List (Instruction Double)}
  {thenCode elseCode : Code Double}

/-- An `IF` sets no handler when its arms do not. -/
theorem codeSetsNone_if {condition : Expr Double} {thenIsLine : Bool}
    {thenArm : Except String (Code Double)} {elseArm : Option (Except String (Code Double))}
    (noneThen : Yields CodeSetsNone thenArm)
    (noneElse : ∀ arm, elseArm = some arm → Yields CodeSetsNone arm) :
    Yields CodeSetsNone (ifCode condition thenIsLine thenArm elseArm) := by
  refine (setsNone_expression _ condition).bind fun conditionCode none => ?_
  refine noneThen.bind fun thenCode thenNone => ?_
  have row := codeSetsNone_row none
  cases elseArm with
  | none =>
      refine .ok fun start => ?_
      simp only [Code.branch, List.forall_mem_append, List.forall_mem_cons]
      exact ⟨row, by rintro ⟨⟩, thenNone _⟩
  | some elseArm =>
      refine (noneElse elseArm rfl).bind fun elseCode elseNone => .ok ?_
      cases thenIsLine with
      | true =>
          intro start
          simp only [if_true, Code.branchToLine, List.forall_mem_append, List.forall_mem_cons]
          exact ⟨⟨row, by rintro ⟨⟩, thenNone _⟩, elseNone _⟩
      | false =>
          intro start
          simp only [Bool.false_eq_true, if_false, Code.branchElse, List.forall_mem_append,
            List.forall_mem_cons]
          exact ⟨⟨row, by rintro ⟨⟩, thenNone _⟩, by rintro ⟨⟩, elseNone _⟩

/-- A file statement sets no handler when its operands and its `ELSE` do not. -/
theorem codeSetsNone_fileAction {plainOp triedOp : OpCode} {fileVar : String}
    {elseArm : Option (Except String (Code Double))} (noneBefore : SetsNone before)
    (plainOther : plainOp ≠ .setOnErrorHandler) (triedOther : triedOp ≠ .setOnErrorHandler)
    (noneDone : SetsNone onDone) (noneFailed : SetsNone onFailed)
    (noneElse : ∀ arm, elseArm = some arm → Yields CodeSetsNone arm) :
    Yields CodeSetsNone
      (fileActionCode before plainOp triedOp fileVar onDone onFailed elseArm) := by
  cases elseArm with
  | none => exact .ok (codeSetsNone_ofInstrs (by simp [onName, noneBefore, plainOther, noneDone]))
  | some elseArm =>
      refine (noneElse elseArm rfl).bind fun elseCode elseNone => .ok fun start => ?_
      simp only [Code.andThen, Code.ofInstrs, Code.tried, List.cons_append, List.forall_mem_append,
        List.forall_mem_cons]
      exact ⟨codeSetsNone_row noneBefore, triedOther, by rintro ⟨⟩,
        ⟨codeSetsNone_row noneDone, by rintro ⟨⟩, codeSetsNone_row noneFailed⟩, elseNone _⟩

end Arms

/-- The line that an `ON ERROR` names, none for `ON ERROR STOP`. -/
def Stmt.onErrorTarget : Stmt Double → Option (Option Int)
  | .onError targetLine => some targetLine
  | _ => none

theorem codeSetsNone_onlyOnLine {inArm : Bool} {code : Except String (Code Double)}
    (none : Yields CodeSetsNone code) : Yields CodeSetsNone (onlyOnLineCode inArm code) := by
  cases inArm with
  | true => exact .error
  | false => exact none

mutual

/-- Only an `ON ERROR` sets a handler, and no arm does. -/
theorem codeSetsNone_statement : (statement : Stmt Double) → (inArm : Bool) →
    (inArm = false → statement.onErrorTarget = none) →
    Yields CodeSetsNone (statementCode inArm statement)
  | .letStmt _ expression, _, _ => (setsNone_expression _ expression).bind fun _ none =>
      .ok (codeSetsNone_ofInstrs (by simp [onName, none]))
  | .input promptExpr _, _, _ => (setsNone_prompt promptExpr).bind fun _ none =>
      .ok (codeSetsNone_ofInstrs (by simp [onName, none]))
  | .chain programExpr, _, _ => (setsNone_expression _ programExpr).bind fun _ none =>
      .ok (codeSetsNone_ofInstrs (by simp [none]))
  | .goto _, _, _ => .ok (@codeSetsNone_reference _ .jump nofun _)
  | .gosub _, _, _ => .ok (@codeSetsNone_reference _ .call nofun _)
  | .returnStmt, _, _ => .ok (codeSetsNone_ofInstrs (by simp))
  | .forStmt variableName initExpr limitExpr stepExpr, _, _ => by
      refine codeSetsNone_onlyOnLine ?_
      split
      · exact .error
      · refine (setsNone_expression _ initExpr).bind fun _ noneInit => ?_
        refine (setsNone_expression _ limitExpr).bind fun _ noneLimit => ?_
        refine (setsNone_step stepExpr).bind fun _ noneStep => ?_
        exact .ok (codeSetsNone_ofInstrs (by simp [onName, noneInit, noneLimit, noneStep]))
  | .next _, _, _ => codeSetsNone_onlyOnLine (.ok (codeSetsNone_ofInstrs (by simp [onName])))
  | .ifStmt _ thenArm elseArm, _, _ =>
      codeSetsNone_if (codeSetsNone_arm thenArm) (codeSetsNone_elseArm elseArm)
  | .print expression suppressEol, _, _ => (setsNone_expression _ expression).bind fun _ none =>
      .ok (codeSetsNone_ofInstrs (by cases suppressEol <;> simp [none]))
  | .rem, _, _ => .ok (codeSetsNone_ofInstrs setsNone_nil)
  | .stop, _, _ => .ok (codeSetsNone_ofInstrs (by simp))
  | .endStmt, _, _ => .ok (codeSetsNone_ofInstrs (by simp))
  | .dim _ sizeExpr, _, _ => codeSetsNone_onlyOnLine <|
      (setsNone_expression _ sizeExpr).bind fun _ none =>
        .ok (codeSetsNone_ofInstrs (by simp [onName, none]))
  | .letArray _ indexExpr valueExpr, _, _ => codeSetsNone_onlyOnLine <|
      (setsNone_expression _ valueExpr).bind fun _ noneValue =>
        (setsNone_expression _ indexExpr).bind fun _ noneIndex =>
          .ok (codeSetsNone_ofInstrs (by simp [onName, noneValue, noneIndex]))
  | .clear, _, _ => .ok (codeSetsNone_ofInstrs (by simp))
  | .openStmt fileExpr _ elseArm, _, _ => (setsNone_expression _ fileExpr).bind fun _ none =>
      codeSetsNone_fileAction none nofun nofun (by simp) (by simp) (codeSetsNone_elseArm elseArm)
  | .read _ _ idExpr elseArm, _, _ => (setsNone_expression _ idExpr).bind fun _ none =>
      codeSetsNone_fileAction none nofun nofun (by simp [onName]) (by simp)
        (codeSetsNone_elseArm elseArm)
  | .readU _ _ idExpr elseArm, _, _ => (setsNone_expression _ idExpr).bind fun _ none =>
      codeSetsNone_fileAction none nofun nofun (by simp [onName]) (by simp)
        (codeSetsNone_elseArm elseArm)
  | .write valueExpr _ idExpr elseArm, _, _ =>
      (setsNone_expression _ valueExpr).bind fun _ noneValue =>
        (setsNone_expression _ idExpr).bind fun _ noneId =>
          codeSetsNone_fileAction (by simp [noneValue, noneId]) nofun nofun (by simp) (by simp)
            (codeSetsNone_elseArm elseArm)
  | .writeU valueExpr _ idExpr elseArm, _, _ =>
      (setsNone_expression _ valueExpr).bind fun _ noneValue =>
        (setsNone_expression _ idExpr).bind fun _ noneId =>
          codeSetsNone_fileAction (by simp [noneValue, noneId]) nofun nofun (by simp) (by simp)
            (codeSetsNone_elseArm elseArm)
  | .readNext _ _ elseArm, _, _ =>
      codeSetsNone_fileAction setsNone_nil nofun nofun (by simp [onName]) (by simp)
        (codeSetsNone_elseArm elseArm)
  | .readV _ _ idExpr attrExpr valueIndexExpr elseArm, _, _ =>
      (setsNone_expression _ idExpr).bind fun _ noneId =>
        (setsNone_expression _ attrExpr).bind fun _ noneAttr =>
          (setsNone_valueIndex _ valueIndexExpr).bind fun _ noneIndex =>
            codeSetsNone_fileAction (by simp [noneId, noneAttr, noneIndex]) nofun nofun
              (by simp [onName]) (by simp) (codeSetsNone_elseArm elseArm)
  | .writeV valueExpr _ idExpr attrExpr valueIndexExpr elseArm, _, _ =>
      (setsNone_expression _ valueExpr).bind fun _ noneValue =>
        (setsNone_expression _ idExpr).bind fun _ noneId =>
          (setsNone_expression _ attrExpr).bind fun _ noneAttr =>
            (setsNone_valueIndex _ valueIndexExpr).bind fun _ noneIndex =>
              codeSetsNone_fileAction (by simp [noneValue, noneId, noneAttr, noneIndex]) nofun
                nofun (by simp) (by simp) (codeSetsNone_elseArm elseArm)
  | .close _, _, _ => .ok (codeSetsNone_ofInstrs (by simp [onName]))
  | .release _ idExpr, _, _ => (setsNone_expression _ idExpr).bind fun _ none =>
      .ok (codeSetsNone_ofInstrs (by simp [onName, none]))
  | .onError _, true, _ => .error
  | .onError _, false, notHandler => absurd (notHandler rfl) nofun
  | .matAssign _ rhsExpr, _, _ => codeSetsNone_onlyOnLine <|
      (setsNone_expression _ rhsExpr).bind fun _ none =>
        .ok (codeSetsNone_ofInstrs (by simp [onName, none]))
  | .matCopy _ _, _, _ =>
      codeSetsNone_onlyOnLine (.ok (codeSetsNone_ofInstrs (by simp [matCopyInstr])))
  | .matRead _ _ idExpr elseArm, _, _ => codeSetsNone_onlyOnLine <|
      (setsNone_expression _ idExpr).bind fun _ none =>
        codeSetsNone_fileAction none nofun nofun (by simp [onName]) (by simp)
          (codeSetsNone_elseArm elseArm)
  | .matWrite _ _ idExpr elseArm, _, _ => codeSetsNone_onlyOnLine <|
      (setsNone_expression _ idExpr).bind fun _ none =>
        codeSetsNone_fileAction (by simp [onName, none]) nofun nofun (by simp) (by simp)
          (codeSetsNone_elseArm elseArm)

/-- An arm sets no handler: `ON ERROR` is refused in an arm. -/
theorem codeSetsNone_arm : (arm : BranchArm Double) → Yields CodeSetsNone (armCode arm)
  | .line _ => .ok (@codeSetsNone_reference _ .jump nofun _)
  | .inline statement => codeSetsNone_statement statement true nofun

/-- Nor does an `ELSE`. -/
theorem codeSetsNone_elseArm : (elseArm : Option (BranchArm Double)) →
    ∀ arm, elseArmCode elseArm = some arm → Yields CodeSetsNone arm
  | none => nofun
  | some arm => by
      rintro _ ⟨⟩
      exact codeSetsNone_arm arm

end

/-! ## Where the handler is set -/

/-- The `ON ERROR` whose code starts at an index. -/
def onErrorAt (lines : List (BasicLine Double)) (ip : Nat) : Option (Option Int) :=
  (List.range lines.length).findSome? fun position =>
    if lineStart lines position = ip then
      lines[position]?.bind fun line => line.statement.onErrorTarget
    else none

/-- The instruction of an `ON ERROR`, given the starts of the lines. -/
def onErrorInstr (starts : Int → Nat) (targetLine : Option Int) : Instruction Double where
  op := .setOnErrorHandler
  operand := .int (targetLine.elim 0 fun line => (starts line : Int))

/-- An `ON ERROR` that is found at an index starts a line there. -/
theorem onErrorAt_eq_some {lines : List (BasicLine Double)} {ip : Nat} {targetLine : Option Int}
    (found : onErrorAt lines ip = some targetLine) :
    ∃ position line, lines[position]? = some line ∧ lineStart lines position = ip ∧
      line.statement = .onError targetLine := by
  obtain ⟨position, -, here⟩ := List.exists_of_findSome?_eq_some found
  split at here
  · obtain ⟨line, isLine, isHandler⟩ := Option.bind_eq_some_iff.mp here
    refine ⟨position, line, isLine, ‹_›, ?_⟩
    cases statement : line.statement <;> rw [statement] at isHandler <;> cases isHandler
    rfl
  · cases here

/-- The code of a line that is an `ON ERROR` is its instruction. -/
theorem code_onError {line : BasicLine Double} {targetLine : Option Int}
    (statement : line.statement = .onError targetLine) (starts : Int → Nat) (start : Nat) :
    (line.code start).map (CodeItem.resolved starts) = [onErrorInstr starts targetLine] := by
  unfold BasicLine.code
  rw [statement]
  cases targetLine <;> rfl

/-- The instruction of an `ON ERROR` is where its line starts. -/
theorem instr_of_onErrorAt {lines : List (BasicLine Double)} {ip : Nat} {targetLine : Option Int}
    (found : onErrorAt lines ip = some targetLine) :
    (assembled lines).program[ip]? = some (onErrorInstr (resolvedTarget lines) targetLine) := by
  obtain ⟨position, line, isLine, rfl, statement⟩ := onErrorAt_eq_some found
  have placed := itemsAt_line isLine
  rw [ItemsAt, code_onError statement] at placed
  exact placed.1

/-- An item of the lines' code is in the code of one of the lines. -/
theorem line_of_item {lines : List (BasicLine Double)} {start index : Nat} {item : CodeItem Double}
    (found : (linesCode lines start)[index]? = some item) :
    ∃ position line offset, lines[position]? = some line ∧
      index = (linesCode (lines.take position) start).length + offset ∧
      (line.code (start + (linesCode (lines.take position) start).length))[offset]? =
        some item := by
  induction lines generalizing start index with
  | nil => simp [linesCode, Code.ofInstrs] at found
  | cons line rest inductionHypothesis =>
      rw [linesCode, Code.andThen] at found
      by_cases here : index < (line.code start).length
      · rw [List.getElem?_append_left here] at found
        exact ⟨0, line, index, rfl, by simp [linesCode, Code.ofInstrs],
          by simpa [linesCode, Code.ofInstrs] using found⟩
      · rw [List.getElem?_append_right (Nat.le_of_not_lt here)] at found
        obtain ⟨position, other, offset, isLine, place, isItem⟩ := inductionHypothesis found
        refine ⟨position + 1, other, offset, isLine, ?_, ?_⟩
        · simp only [List.take_succ_cons, linesCode, Code.andThen, List.length_append]
          omega
        · simpa [linesCode, Code.andThen, Nat.add_assoc] using isItem

/-- Only an `ON ERROR` has an instruction that sets the handler. -/
theorem onErrorAt_of_instr {lines : List (BasicLine Double)}
    (accepted : ∀ line ∈ lines, line.Accepted) {ip : Nat} {instr : Instruction Double}
    (found : (assembled lines).program[ip]? = some instr) (sets : instr.op = .setOnErrorHandler) :
    ∃ targetLine, onErrorAt lines ip = some targetLine := by
  rw [assembled_program] at found
  by_cases inLines : ip < (linesCode lines 0).length
  · rw [List.getElem?_append_left (by simpa using inLines), List.getElem?_map] at found
    obtain ⟨item, isItem, rfl⟩ := Option.map_eq_some_iff.mp found
    rw [CodeItem.op_resolved] at sets
    obtain ⟨position, line, offset, isLine, place, inCode⟩ := line_of_item isItem
    have starts : 0 + (linesCode (lines.take position) 0).length = lineStart lines position :=
      Nat.zero_add _
    rw [starts] at inCode
    have coded := accepted line (List.mem_of_getElem? isLine)
    cases handler : line.statement.onErrorTarget with
    | none =>
        have none := codeSetsNone_statement line.statement false (fun _ => handler) _ coded
        exact absurd sets (none _ item (List.mem_of_getElem? inCode))
    | some targetLine =>
        have statement : line.statement = .onError targetLine := by
          cases statement : line.statement <;> rw [statement] at handler <;> cases handler
          rfl
        have alone : (line.code (lineStart lines position)).length = 1 := by
          simpa using congrArg List.length
            (code_onError statement (resolvedTarget lines) (lineStart lines position))
        have first : offset = 0 := by
          have below := (List.getElem?_eq_some_iff.mp inCode).1
          omega
        subst first
        refine Option.ne_none_iff_exists'.mp fun none => ?_
        have absent := List.findSome?_eq_none_iff.mp none position
          (List.mem_range.mpr (List.getElem?_eq_some_iff.mp isLine).1)
        have atStart : lineStart lines position = ip := place.symm
        simp [atStart, isLine, handler] at absent
  · rw [List.getElem?_append_right (by simpa using inLines)] at found
    have last := List.mem_of_getElem? found
    unfold closing at last
    split at last
    · obtain rfl := List.mem_singleton.mp last
      cases sets
    · cases last

end Gemini.Basic
