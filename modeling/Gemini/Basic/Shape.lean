import Gemini.Basic.Layout
import Gemini.VM.StackHeights

/-!
# The shapes of emitted code

The code of an accepted statement has one of a few shapes: instructions in a row, one
reference to a line, or a branch around the code of its arms. `Built` lists them, each with
what its instructions take from the operand stack and leave there, and `built_of_accepted`
says that there are no others. What follows about emitted code is proved over these shapes,
not over the statements.
-/

namespace Gemini.Basic

open Gemini.VM
open Gemini.Data (bind_eq_ok)

variable {Double : Type}

/-! ## Instructions in a row -/

/-- Instructions that the emitter puts in a row, from one height of the stack to another. -/
inductive Moves : Nat → List (Instruction Double) → Nat → Prop
  | done (height : Nat) : Moves height [] height
  | straight {instr : Instruction Double} {rest : List (Instruction Double)}
      {takes leaves height after : Nat} (effect : stackEffect instr = some (takes, leaves))
      (calls : instr.op = .callFunc → ∃ function, instr.callFunc.Calls function)
      (moves : Moves (height + leaves) rest after) : Moves (height + takes) (instr :: rest) after
  | locking {instr : Instruction Double} {rest : List (Instruction Double)}
      {takes leaves after : Nat} (effect : lockingEffect instr.op = some (takes, leaves))
      (moves : Moves leaves rest after) : Moves takes (instr :: rest) after
  | flat {instr : Instruction Double} {rest : List (Instruction Double)} {after : Nat}
      (op : instr.op = .halt ∨ instr.op = .return_ ∨ instr.op = .forNext)
      (moves : Moves 0 rest after) : Moves 0 (instr :: rest) after
  | forSetup {instr : Instruction Double} {rest : List (Instruction Double)} {after : Nat}
      (op : instr.op = .forSetup) (moves : Moves 0 rest after) : Moves 2 (instr :: rest) after
  | clearHandler {instr : Instruction Double} {rest : List (Instruction Double)} {after : Nat}
      (op : instr.op = .setOnErrorHandler) (operand : instr.operand = .int 0)
      (moves : Moves 0 rest after) : Moves 0 (instr :: rest) after

namespace Moves

variable {first second : List (Instruction Double)} {low middle high : Nat}

/-- Two rows move the stack one after the other. -/
theorem append (before : Moves low first middle) (after : Moves middle second high) :
    Moves low (first ++ second) high := by
  induction before with
  | done height => exact after
  | straight effect calls _ inductionHypothesis =>
      exact .straight effect calls (inductionHypothesis after)
  | locking effect _ inductionHypothesis => exact .locking effect (inductionHypothesis after)
  | flat op _ inductionHypothesis => exact .flat op (inductionHypothesis after)
  | forSetup op _ inductionHypothesis => exact .forSetup op (inductionHypothesis after)
  | clearHandler op operand _ inductionHypothesis =>
      exact .clearHandler op operand (inductionHypothesis after)

/-- An instruction other than a call. -/
theorem next {instr : Instruction Double} {takes leaves : Nat} (height : Nat)
    (effect : stackEffect instr = some (takes, leaves)) (noCall : instr.op ≠ .callFunc)
    (before : low = height + takes) (moves : Moves (height + leaves) second high) :
    Moves low (instr :: second) high := by
  subst before
  exact .straight effect (fun call => absurd call noCall) moves

/-- One instruction moves the stack by its effect. -/
theorem one {instr : Instruction Double} {takes leaves : Nat} (height : Nat)
    (effect : stackEffect instr = some (takes, leaves)) (noCall : instr.op ≠ .callFunc)
    (before : low = height + takes) (after : high = height + leaves) : Moves low [instr] high :=
  .next height effect noCall before (after ▸ .done _)

end Moves

/-! ## Expressions -/

/-- A function is called with as many arguments as it has. -/
theorem arity_of_functionIdForCall {name : String} {argCount : Int} {function : BasicFunction}
    (found : functionIdForCall name argCount = some function) : argCount = function.arity := by
  unfold functionIdForCall at found
  split at found
  all_goals
    first
    | cases found
    | split at found
      · cases found
        assumption
      · first
        | cases found
        | split at found
          · cases found
            assumption
          · cases found

/-- A call takes its arguments from the stack and leaves a value. -/
theorem moves_emitCall {name : String} {got : Nat} {code : List (Instruction Double)}
    (emitted : emitCall name got = .ok code) (height : Nat) :
    Moves (height + got) code (height + 1) := by
  have call {argCount : Nat} {function : BasicFunction}
      (found : functionIdForCall name argCount = some function) :
      Moves (height + argCount)
        [({ op := .callFunc,
            callFunc := { namespaceId := kNamespaceIdBasic, functionId := function.id,
                          argCount := argCount } } : Instruction Double)] (height + 1) :=
    .straight rfl (fun _ => ⟨function, rfl, rfl, arity_of_functionIdForCall found⟩) (.done _)
  unfold emitCall at emitted
  dsimp only at emitted
  split at emitted
  · cases emitted
  · rename_i function found
    cases emitted
    by_cases short : name = "INDEX" ∧ got = 2
    · obtain ⟨-, rfl⟩ := id short
      rw [if_pos short] at found
      have occurrence : Moves (height + 2) [(pushInt 1 : Instruction Double)] (height + 3) :=
        .one (height + 2) rfl nofun rfl rfl
      rw [if_pos short, if_pos short]
      exact occurrence.append (call found)
    · simp only [if_neg short] at found ⊢
      exact call found

mutual

/-- The code of an expression leaves its value on the stack. -/
theorem moves_emitNode : (expression : Expr Double) → {inArithmetic : Bool} →
    {code : List (Instruction Double)} → emitNode expression inArithmetic = .ok code →
    (height : Nat) → Moves height code (height + 1)
  | .intLiteral _, _, _, emitted, height => by
      cases emitted
      exact .one height rfl nofun rfl rfl
  | .floatLiteral _, _, _, emitted, height => by
      cases emitted
      exact .one height rfl nofun rfl rfl
  | .stringLiteral _, _, _, emitted, height => by
      cases emitted
      exact .one height rfl nofun rfl rfl
  | .dictField _, _, _, emitted, height => by
      unfold emitNode at emitted
      split at emitted
      · cases emitted
      · split at emitted
        · cases emitted
        · cases emitted
          exact .one height rfl nofun rfl rfl
  | .identifier _, _, _, emitted, height => by
      unfold emitNode at emitted
      split at emitted
      · cases emitted
      · split at emitted
        · cases emitted
        · cases emitted
          exact .one height rfl nofun rfl rfl
  | .negate operand, _, _, emitted, height => by
      obtain ⟨operandCode, operandEmitted, done⟩ := bind_eq_ok.mp emitted
      cases done
      have zero : Moves height [(pushInt 0 : Instruction Double)] (height + 1) :=
        .one height rfl nofun rfl rfl
      exact (zero.append (moves_emitNode operand operandEmitted _)).append
        (.one height rfl nofun rfl rfl)
  | .binary op left right, _, _, emitted, height => by
      obtain ⟨leftCode, leftEmitted, emitted⟩ := bind_eq_ok.mp emitted
      obtain ⟨rightCode, rightEmitted, done⟩ := bind_eq_ok.mp emitted
      cases done
      have operation : Moves (height + 2) [({ op := op.toOpCode } : Instruction Double)]
          (height + 1) := by
        cases op <;> exact .one height rfl nofun rfl rfl
      exact ((moves_emitNode left leftEmitted _).append
        (moves_emitNode right rightEmitted _)).append operation
  | .grouped expression, _, _, emitted, height => moves_emitNode expression emitted height
  | .subscript _ index, _, _, emitted, height => by
      unfold emitNode at emitted
      split at emitted
      · cases emitted
      · split at emitted
        · cases emitted
        · obtain ⟨indexCode, indexEmitted, done⟩ := bind_eq_ok.mp emitted
          cases done
          exact (moves_emitNode index indexEmitted height).append (.one height rfl nofun rfl rfl)
  | .attributeAccess varName attr, _, _, emitted, height => by
      unfold emitNode at emitted
      split at emitted
      · cases emitted
      · obtain ⟨attrCode, attrEmitted, done⟩ := bind_eq_ok.mp emitted
        cases done
        have record : Moves height [(onName .loadVar varName : Instruction Double)] (height + 1) :=
          .one height rfl nofun rfl rfl
        have index : Moves (height + 2) [(pushInt 0 : Instruction Double)] (height + 3) :=
          .one (height + 2) rfl nofun rfl rfl
        exact (record.append (moves_emitNode attr attrEmitted _)).append
          (index.append (.one height rfl nofun rfl rfl))
  | .valueAccess varName attr valueIndex, _, _, emitted, height => by
      unfold emitNode at emitted
      split at emitted
      · cases emitted
      · obtain ⟨attrCode, attrEmitted, emitted⟩ := bind_eq_ok.mp emitted
        obtain ⟨indexCode, indexEmitted, done⟩ := bind_eq_ok.mp emitted
        cases done
        have record : Moves height [(onName .loadVar varName : Instruction Double)] (height + 1) :=
          .one height rfl nofun rfl rfl
        exact ((record.append (moves_emitNode attr attrEmitted _)).append
          (moves_emitNode valueIndex indexEmitted _)).append (.one height rfl nofun rfl rfl)
  | .functionCall name arguments, _, _, emitted, height => by
      obtain ⟨_, -, emitted⟩ := bind_eq_ok.mp emitted
      obtain ⟨argumentCode, argumentsEmitted, emitted⟩ := bind_eq_ok.mp emitted
      obtain ⟨callCode, callEmitted, done⟩ := bind_eq_ok.mp emitted
      cases done
      exact (moves_emitArguments arguments argumentsEmitted height).append
        (moves_emitCall callEmitted height)

/-- The arguments of a call are left on the stack. -/
theorem moves_emitArguments : (arguments : List (Expr Double)) → {name : String} →
    {argIndex : Nat} → {code : List (Instruction Double)} →
    emitArguments name argIndex arguments = .ok code → (height : Nat) →
    Moves height code (height + arguments.length)
  | [], _, _, _, emitted, height => by
      cases emitted
      exact .done height
  | argument :: rest, _, _, _, emitted, height => by
      obtain ⟨code, argumentEmitted, emitted⟩ := bind_eq_ok.mp emitted
      obtain ⟨restCode, restEmitted, done⟩ := bind_eq_ok.mp emitted
      cases done
      have later := moves_emitArguments rest restEmitted (height + 1)
      rw [List.length_cons, ← Nat.add_assoc, Nat.add_right_comm]
      exact (moves_emitNode argument argumentEmitted height).append later

end

/-- The code of an expression leaves one value on the stack. -/
theorem moves_expressionCode {context : String} {expression : Expr Double}
    {code : List (Instruction Double)} (coded : expressionCode context expression = .ok code)
    (height : Nat) : Moves height code (height + 1) := by
  unfold expressionCode at coded
  split at coded
  · cases coded
    exact moves_emitNode expression ‹_› height
  · cases coded

/-! ## Statements -/

/-- The statement that an arm is emitted as. -/
def BranchArm.statement : BranchArm Double → Stmt Double
  | .line target => .goto target
  | .inline statement => statement

/-- What a statement is to the emitter: instructions in a row, a reference to a line, a
branch, or an action on a file with an arm for its failure. -/
inductive Form (Double : Type) where
  | row
  | reference (op : OpCode) (line : Int)
  | branch (thenArm : BranchArm Double) (elseArm : Option (BranchArm Double))
  | onFile (elseArm : BranchArm Double)

/-- The form of a file statement: a row, or a branch to its `ELSE`. -/
def Form.ofFile : Option (BranchArm Double) → Form Double
  | none => .row
  | some elseArm => .onFile elseArm

/-- The form of the code of a statement. -/
def Stmt.form : Stmt Double → Form Double
  | .goto targetLine => .reference .jump targetLine
  | .gosub targetLine => .reference .call targetLine
  | .onError (some targetLine) => .reference .setOnErrorHandler targetLine
  | .ifStmt _ thenArm elseArm => .branch thenArm elseArm
  | .openStmt _ _ elseArm => .ofFile elseArm
  | .read _ _ _ elseArm => .ofFile elseArm
  | .readU _ _ _ elseArm => .ofFile elseArm
  | .write _ _ _ elseArm => .ofFile elseArm
  | .writeU _ _ _ elseArm => .ofFile elseArm
  | .readNext _ _ elseArm => .ofFile elseArm
  | .readV _ _ _ _ _ elseArm => .ofFile elseArm
  | .writeV _ _ _ _ _ elseArm => .ofFile elseArm
  | .matRead _ _ _ elseArm => .ofFile elseArm
  | .matWrite _ _ _ elseArm => .ofFile elseArm
  | _ => .row

/-- The two statements whose code is one `HALT`. -/
def Stmt.stops : Stmt Double → Bool
  | .stop => true
  | .endStmt => true
  | _ => false

/-- Whether a statement is `REM`. -/
def Stmt.isRem : Stmt Double → Bool
  | .rem => true
  | _ => false

/-- The code of an accepted statement, by its form. -/
inductive Built : Stmt Double → Code Double → Prop
  | row {statement : Stmt Double} {code : List (Instruction Double)}
      (form : statement.form = .row) (moves : Moves 0 code 0)
      (empty : code = [] ↔ statement.isRem) 
      (halts : code.getLast?.map Instruction.op = some .halt ↔ statement.stops) :
      Built statement (.ofInstrs code)
  | reference {statement : Stmt Double} {op : OpCode} {line : Int}
      (form : statement.form = .reference op line) : Built statement (.reference op line)
  | branch {statement : Stmt Double} {thenArm : BranchArm Double}
      {condition : List (Instruction Double)} {thenCode : Code Double}
      (form : statement.form = .branch thenArm none) (moves : Moves 0 condition 1)
      (thenBuilt : Built thenArm.statement thenCode) :
      Built statement (.branch condition thenCode)
  | branchToLine {statement : Stmt Double} {target : Int} {elseArm : BranchArm Double}
      {condition : List (Instruction Double)} {elseCode : Code Double}
      (form : statement.form = .branch (.line target) (some elseArm)) (moves : Moves 0 condition 1)
      (elseBuilt : Built elseArm.statement elseCode) :
      Built statement (.branchToLine condition (.reference .jump target) elseCode)
  | branchElse {statement thenStatement : Stmt Double} {elseArm : BranchArm Double}
      {condition : List (Instruction Double)} {thenCode elseCode : Code Double}
      (form : statement.form = .branch (.inline thenStatement) (some elseArm))
      (moves : Moves 0 condition 1) (thenBuilt : Built thenStatement thenCode)
      (elseBuilt : Built elseArm.statement elseCode) :
      Built statement (.branchElse condition thenCode elseCode)
  | tried {statement : Stmt Double} {elseArm : BranchArm Double}
      {before onDone onFailed : List (Instruction Double)} {instr : Instruction Double}
      {takes left : Nat} {elseCode : Code Double} (form : statement.form = .onFile elseArm)
      (moves : Moves 0 before takes) (effect : stackEffect instr = some (takes, left + 1))
      (noCall : instr.op ≠ .callFunc) (doneMoves : Moves left onDone 0)
      (failedMoves : Moves left onFailed 0) (goesOn : ∀ instr ∈ onFailed, instr.op ≠ .halt)
      (elseBuilt : Built elseArm.statement elseCode) :
      Built statement ((Code.ofInstrs before).andThen (.tried instr onDone onFailed elseCode))

namespace Built

/-- Instructions in a row, the last of which goes on. -/
theorem rowTo {statement : Stmt Double} {front : List (Instruction Double)}
    {last : Instruction Double} (form : statement.form = .row)
    (moves : Moves 0 (front ++ [last]) 0) (runs : statement.isRem = false)
    (goesOn : statement.stops = false) (notHalt : last.op ≠ .halt) :
    Built statement (.ofInstrs (front ++ [last])) :=
  .row form moves (by simp [runs]) (by simp [goesOn, notHalt])

/-- An action on a file, with or without an arm for its failure. -/
theorem onFile {statement : Stmt Double} {elseArm : Option (BranchArm Double)}
    {before onDone onFailed : List (Instruction Double)} {plain tried : OpCode} {fileVar : String}
    {takes left : Nat} {code : Code Double}
    (coded : fileActionCode before plain tried fileVar onDone onFailed (elseArmCode elseArm) =
      .ok code)
    (form : statement.form = .ofFile elseArm) (runs : statement.isRem = false)
    (goesOn : statement.stops = false) (moves : Moves 0 before takes)
    (plainMoves : Moves takes (onName plain fileVar :: onDone) 0)
    (plainGoesOn : ∀ instr ∈ onName plain fileVar :: onDone, instr.op ≠ .halt)
    (effect : stackEffect (onName tried fileVar : Instruction Double) = some (takes, left + 1))
    (noCall : tried ≠ .callFunc) (doneMoves : Moves left onDone 0)
    (failedMoves : Moves left onFailed 0) (failedGoesOn : ∀ instr ∈ onFailed, instr.op ≠ .halt)
    (elseBuilt : ∀ arm ∈ elseArm, ∀ code, armCode arm = .ok code → Built arm.statement code) :
    Built statement code := by
  cases elseArm with
  | none =>
      cases coded
      have notHalt : ∀ instr ∈ (before ++ onName plain fileVar :: onDone).getLast?,
          instr.op ≠ .halt := by
        intro instr last
        rw [List.getLast?_append_of_ne_nil _ (List.cons_ne_nil _ _)] at last
        exact plainGoesOn instr (List.mem_of_getLast? last)
      refine .row form (moves.append plainMoves) (by simp [runs]) ?_
      rw [Option.map_eq_some_iff, goesOn]
      constructor
      · rintro ⟨instr, last, halts⟩
        exact absurd halts (notHalt instr last)
      · intro never
        cases never
  | some arm =>
      obtain ⟨elseCode, armCoded, done⟩ := bind_eq_ok.mp coded
      cases done
      exact .tried form moves effect noCall doneMoves failedMoves failedGoesOn
        (elseBuilt arm rfl elseCode armCoded)

/-- An action that reads a value and stores it under a name. -/
theorem reading {statement : Stmt Double} {elseArm : Option (BranchArm Double)}
    {before : List (Instruction Double)} {plain tried store : OpCode} {fileVar name : String}
    {takes : Nat} {code : Code Double}
    (coded : fileActionCode before plain tried fileVar [onName store name] [{ op := .drop }]
      (elseArmCode elseArm) = .ok code)
    (form : statement.form = .ofFile elseArm) (runs : statement.isRem = false)
    (goesOn : statement.stops = false) (moves : Moves 0 before takes)
    (plainMoves : Moves takes [onName plain fileVar, (onName store name : Instruction Double)] 0)
    (plainGoesOn : plain ≠ .halt ∧ store ≠ .halt)
    (effect : stackEffect (onName tried fileVar : Instruction Double) = some (takes, 2))
    (noCall : tried ≠ .callFunc) (storeMoves : Moves 1 [(onName store name : Instruction Double)] 0)
    (elseBuilt : ∀ arm ∈ elseArm, ∀ code, armCode arm = .ok code → Built arm.statement code) :
    Built statement code :=
  .onFile coded form runs goesOn moves plainMoves (by simpa [onName] using plainGoesOn) effect
    noCall storeMoves (.one 0 rfl nofun rfl rfl) (by simp) elseBuilt

/-- An action that leaves nothing. -/
theorem writing {statement : Stmt Double} {elseArm : Option (BranchArm Double)}
    {before : List (Instruction Double)} {plain tried : OpCode} {fileVar : String}
    {takes : Nat} {code : Code Double}
    (coded : fileActionCode before plain tried fileVar [] [] (elseArmCode elseArm) = .ok code)
    (form : statement.form = .ofFile elseArm) (runs : statement.isRem = false)
    (goesOn : statement.stops = false) (moves : Moves 0 before takes)
    (plainMoves : Moves takes [(onName plain fileVar : Instruction Double)] 0)
    (plainGoesOn : plain ≠ .halt)
    (effect : stackEffect (onName tried fileVar : Instruction Double) = some (takes, 1))
    (noCall : tried ≠ .callFunc)
    (elseBuilt : ∀ arm ∈ elseArm, ∀ code, armCode arm = .ok code → Built arm.statement code) :
    Built statement code :=
  .onFile coded form runs goesOn moves plainMoves (by simpa [onName] using plainGoesOn) effect
    noCall (.done 0) (.done 0) (by simp) elseBuilt

end Built

/-- A coercion leaves the stack as high as it is. -/
theorem moves_coercion (variableName : String) (height : Nat) :
    Moves (height + 1) (coercion variableName : List (Instruction Double)) (height + 1) := by
  unfold coercion
  split
  · exact .one height rfl nofun rfl rfl
  · exact .done _

/-- The code of a value index leaves one value on the stack. -/
theorem moves_valueIndexCode {context : String} {valueIndex : Option (Expr Double)}
    {code : List (Instruction Double)} (coded : valueIndexCode context valueIndex = .ok code)
    (height : Nat) : Moves height code (height + 1) := by
  cases valueIndex with
  | none =>
      cases coded
      exact .one height rfl nofun rfl rfl
  | some valueIndex => exact moves_expressionCode coded height

/-- The resolution of a dictionary field, where there is one. -/
theorem moves_resolve (resolves : Bool) (fileVar : String) (height : Nat) :
    Moves (height + 1)
      (if resolves then [(onName .resolveDictAttr fileVar : Instruction Double)] else [])
      (height + 1) := by
  split
  · exact .one height rfl nofun rfl rfl
  · exact .done _

/-- The code of a step leaves one value on the stack. -/
theorem moves_stepCode {stepExpr : Option (Expr Double)} {code : List (Instruction Double)}
    (coded : stepCode stepExpr = .ok code) (height : Nat) : Moves height code (height + 1) := by
  cases stepExpr with
  | none =>
      cases coded
      exact .one height rfl nofun rfl rfl
  | some stepExpr => exact moves_expressionCode coded height

/-- The code of a prompt leaves nothing on the stack. -/
theorem moves_promptCode {promptExpr : Option (Expr Double)} {code : List (Instruction Double)}
    (coded : promptCode promptExpr = .ok code) : Moves 0 code 0 := by
  cases promptExpr with
  | none =>
      cases coded
      exact .done 0
  | some promptExpr =>
      obtain ⟨text, textCoded, done⟩ := bind_eq_ok.mp coded
      cases done
      exact (moves_expressionCode textCoded 0).append (.one 0 rfl nofun rfl rfl)

theorem onlyOnLineCode_eq_ok {inArm : Bool} {code : Except String (Code Double)}
    {result : Code Double} (coded : onlyOnLineCode inArm code = .ok result) :
    code = .ok result := by
  cases inArm with
  | true => cases coded
  | false => exact coded

mutual

/-- The code of an accepted statement has the shape of its form. -/
theorem built_of_accepted : (statement : Stmt Double) → {inArm : Bool} → {code : Code Double} →
    statementCode inArm statement = .ok code → Built statement code
  | .letStmt variableName _, _, _, coded => by
      obtain ⟨value, valueCoded, done⟩ := bind_eq_ok.mp coded
      cases done
      rw [← List.append_assoc]
      exact .rowTo rfl (((moves_expressionCode valueCoded 0).append
        (moves_coercion variableName 0)).append (.one 0 rfl nofun rfl rfl)) rfl rfl nofun
  | .input _ variableName, _, _, coded => by
      obtain ⟨prompt, promptCoded, done⟩ := bind_eq_ok.mp coded
      cases done
      have read : Moves 0 [({ op := .inputStr } : Instruction Double)] 1 :=
        .one 0 rfl nofun rfl rfl
      rw [← List.append_assoc]
      exact .rowTo rfl (((moves_promptCode promptCoded).append
        (read.append (moves_coercion variableName 0))).append (.one 0 rfl nofun rfl rfl))
        rfl rfl nofun
  | .chain _, _, _, coded => by
      obtain ⟨name, nameCoded, done⟩ := bind_eq_ok.mp coded
      cases done
      exact .rowTo rfl ((moves_expressionCode nameCoded 0).append (.one 0 rfl nofun rfl rfl))
        rfl rfl nofun
  | .goto _, _, _, coded => by
      cases coded
      exact .reference rfl
  | .gosub _, _, _, coded => by
      cases coded
      exact .reference rfl
  | .returnStmt, _, _, coded => by
      cases coded
      exact @Built.rowTo _ _ [] _ rfl (.flat (.inr (.inl rfl)) (.done 0)) rfl rfl nofun
  | .forStmt variableName _ _ _, _, _, coded => by
      have coded := onlyOnLineCode_eq_ok coded
      split at coded
      · cases coded
      · obtain ⟨init, initCoded, coded⟩ := bind_eq_ok.mp coded
        obtain ⟨limit, limitCoded, coded⟩ := bind_eq_ok.mp coded
        obtain ⟨step, stepCoded, done⟩ := bind_eq_ok.mp coded
        cases done
        have stored : Moves 1 (coercion variableName ++ [onName .storeVar variableName] :
            List (Instruction Double)) 0 :=
          (moves_coercion variableName 0).append (.one 0 rfl nofun rfl rfl)
        exact .rowTo rfl (((((moves_expressionCode initCoded 0).append stored).append
          (moves_expressionCode limitCoded 0)).append (moves_stepCode stepCoded 1)).append
          (.forSetup rfl (.done 0))) rfl rfl nofun
  | .next _, _, _, coded => by
      cases onlyOnLineCode_eq_ok coded
      exact @Built.rowTo _ _ [] _ rfl (.flat (.inr (.inr rfl)) (.done 0)) rfl rfl nofun
  | .ifStmt condition thenArm elseArm, _, _, coded => by
      obtain ⟨conditionCode, conditionCoded, coded⟩ := bind_eq_ok.mp coded
      obtain ⟨thenCode, thenCoded, coded⟩ := bind_eq_ok.mp coded
      have moves := moves_expressionCode conditionCoded 0
      have thenBuilt := built_of_arm thenArm thenCoded
      cases elseArm with
      | none =>
          cases coded
          exact .branch rfl moves thenBuilt
      | some elseArm =>
          obtain ⟨elseCode, elseCoded, done⟩ := bind_eq_ok.mp coded
          have elseBuilt := built_of_arm elseArm elseCoded
          cases thenArm with
          | line target =>
              cases thenCoded
              cases done
              exact .branchToLine rfl moves elseBuilt
          | inline thenStatement =>
              cases done
              exact .branchElse rfl moves thenBuilt elseBuilt
  | .print _ suppressEol, _, _, coded => by
      obtain ⟨value, valueCoded, done⟩ := bind_eq_ok.mp coded
      cases done
      have printed : Moves 0 (value ++ [{ op := .printVal }]) 0 :=
        (moves_expressionCode valueCoded 0).append (.one 0 rfl nofun rfl rfl)
      cases suppressEol with
      | true => exact .rowTo rfl printed rfl rfl nofun
      | false =>
          rw [List.append_cons]
          exact .rowTo rfl (printed.append (.one 0 rfl nofun rfl rfl)) rfl rfl nofun
  | .rem, _, _, coded => by
      cases coded
      exact .row rfl (.done 0) (by simp [Stmt.isRem]) (by simp [Stmt.stops])
  | .stop, _, _, coded => by
      cases coded
      exact .row rfl (.flat (.inl rfl) (.done 0)) (by simp [Stmt.isRem]) (by simp [Stmt.stops])
  | .endStmt, _, _, coded => by
      cases coded
      exact .row rfl (.flat (.inl rfl) (.done 0)) (by simp [Stmt.isRem]) (by simp [Stmt.stops])
  | .dim _ _, _, _, coded => by
      obtain ⟨size, sizeCoded, done⟩ := bind_eq_ok.mp (onlyOnLineCode_eq_ok coded)
      cases done
      exact .rowTo rfl ((moves_expressionCode sizeCoded 0).append (.one 0 rfl nofun rfl rfl))
        rfl rfl nofun
  | .letArray variableName _ _, _, _, coded => by
      obtain ⟨value, valueCoded, coded⟩ := bind_eq_ok.mp (onlyOnLineCode_eq_ok coded)
      obtain ⟨index, indexCoded, done⟩ := bind_eq_ok.mp coded
      cases done
      exact .rowTo rfl ((((moves_expressionCode valueCoded 0).append
        (moves_coercion variableName 0)).append (moves_expressionCode indexCoded 1)).append
        (.one 0 rfl nofun rfl rfl)) rfl rfl nofun
  | .clear, _, _, coded => by
      cases coded
      exact @Built.rowTo _ _ [] _ rfl (.one 0 rfl nofun rfl rfl) rfl rfl nofun
  | .openStmt _ _ elseArm, _, _, coded => by
      obtain ⟨file, fileCoded, coded⟩ := bind_eq_ok.mp coded
      exact .writing coded rfl rfl rfl (moves_expressionCode fileCoded 0)
        (.one 0 rfl nofun rfl rfl) nofun rfl nofun (built_of_elseArm elseArm)
  | .read _ _ _ elseArm, _, _, coded => by
      obtain ⟨id, idCoded, coded⟩ := bind_eq_ok.mp coded
      exact .reading coded rfl rfl rfl (moves_expressionCode idCoded 0)
        (.locking rfl (.one 0 rfl nofun rfl rfl)) ⟨nofun, nofun⟩ rfl nofun
        (.one 0 rfl nofun rfl rfl) (built_of_elseArm elseArm)
  | .readU _ _ _ elseArm, _, _, coded => by
      obtain ⟨id, idCoded, coded⟩ := bind_eq_ok.mp coded
      exact .reading coded rfl rfl rfl (moves_expressionCode idCoded 0)
        (.locking rfl (.one 0 rfl nofun rfl rfl)) ⟨nofun, nofun⟩ rfl nofun
        (.one 0 rfl nofun rfl rfl) (built_of_elseArm elseArm)
  | .write _ _ _ elseArm, _, _, coded => by
      obtain ⟨value, valueCoded, coded⟩ := bind_eq_ok.mp coded
      obtain ⟨id, idCoded, coded⟩ := bind_eq_ok.mp coded
      exact .writing coded rfl rfl rfl ((moves_expressionCode valueCoded 0).append
        (moves_expressionCode idCoded 1)) (.locking rfl (.done 0)) nofun rfl nofun
        (built_of_elseArm elseArm)
  | .writeU _ _ _ elseArm, _, _, coded => by
      obtain ⟨value, valueCoded, coded⟩ := bind_eq_ok.mp coded
      obtain ⟨id, idCoded, coded⟩ := bind_eq_ok.mp coded
      exact .writing coded rfl rfl rfl ((moves_expressionCode valueCoded 0).append
        (moves_expressionCode idCoded 1)) (.locking rfl (.done 0)) nofun rfl nofun
        (built_of_elseArm elseArm)
  | .readNext _ _ elseArm, _, _, coded =>
      .reading coded rfl rfl rfl (.done 0)
        (.next 0 rfl nofun rfl (.one 0 rfl nofun rfl rfl)) ⟨nofun, nofun⟩ rfl nofun
        (.one 0 rfl nofun rfl rfl) (built_of_elseArm elseArm)
  | .readV _ fileVar _ attrExpr _ elseArm, _, _, coded => by
      obtain ⟨id, idCoded, coded⟩ := bind_eq_ok.mp coded
      obtain ⟨attr, attrCoded, coded⟩ := bind_eq_ok.mp coded
      obtain ⟨valueIndex, indexCoded, coded⟩ := bind_eq_ok.mp coded
      exact .reading coded rfl rfl rfl ((((moves_expressionCode idCoded 0).append
        (moves_expressionCode attrCoded 1)).append (moves_resolve _ fileVar 1)).append
        (moves_valueIndexCode indexCoded 2))
        (.next 0 rfl nofun rfl (.one 0 rfl nofun rfl rfl)) ⟨nofun, nofun⟩ rfl nofun
        (.one 0 rfl nofun rfl rfl) (built_of_elseArm elseArm)
  | .writeV _ fileVar _ attrExpr _ elseArm, _, _, coded => by
      obtain ⟨value, valueCoded, coded⟩ := bind_eq_ok.mp coded
      obtain ⟨id, idCoded, coded⟩ := bind_eq_ok.mp coded
      obtain ⟨attr, attrCoded, coded⟩ := bind_eq_ok.mp coded
      obtain ⟨valueIndex, indexCoded, coded⟩ := bind_eq_ok.mp coded
      exact .writing coded rfl rfl rfl (((((moves_expressionCode valueCoded 0).append
        (moves_expressionCode idCoded 1)).append (moves_expressionCode attrCoded 2)).append
        (moves_resolve _ fileVar 2)).append (moves_valueIndexCode indexCoded 3))
        (.one 0 rfl nofun rfl rfl) nofun rfl nofun (built_of_elseArm elseArm)
  | .close _, _, _, coded => by
      cases coded
      exact @Built.rowTo _ _ [] _ rfl (.one 0 rfl nofun rfl rfl) rfl rfl nofun
  | .release _ _, _, _, coded => by
      obtain ⟨id, idCoded, done⟩ := bind_eq_ok.mp coded
      cases done
      exact .rowTo rfl ((moves_expressionCode idCoded 0).append (.one 0 rfl nofun rfl rfl))
        rfl rfl nofun
  | .onError none, _, _, coded => by
      cases onlyOnLineCode_eq_ok coded
      exact @Built.rowTo _ _ [] _ rfl (.clearHandler rfl rfl (.done 0)) rfl rfl nofun
  | .onError (some _), _, _, coded => by
      cases onlyOnLineCode_eq_ok coded
      exact .reference rfl
  | .matAssign _ _, _, _, coded => by
      obtain ⟨scalar, scalarCoded, done⟩ := bind_eq_ok.mp (onlyOnLineCode_eq_ok coded)
      cases done
      exact .rowTo rfl ((moves_expressionCode scalarCoded 0).append (.one 0 rfl nofun rfl rfl))
        rfl rfl nofun
  | .matCopy _ _, _, _, coded => by
      cases onlyOnLineCode_eq_ok coded
      exact @Built.rowTo _ _ [] _ rfl (.one 0 rfl nofun rfl rfl) rfl rfl nofun
  | .matRead _ _ _ elseArm, _, _, coded => by
      obtain ⟨id, idCoded, coded⟩ := bind_eq_ok.mp (onlyOnLineCode_eq_ok coded)
      exact .reading coded rfl rfl rfl (moves_expressionCode idCoded 0)
        (.locking rfl (.one 0 rfl nofun rfl rfl)) ⟨nofun, nofun⟩ rfl nofun
        (.one 0 rfl nofun rfl rfl) (built_of_elseArm elseArm)
  | .matWrite sourceArray _ _ elseArm, _, _, coded => by
      obtain ⟨id, idCoded, coded⟩ := bind_eq_ok.mp (onlyOnLineCode_eq_ok coded)
      have record : Moves 0 [(onName .matStoreToRec sourceArray : Instruction Double)] 1 :=
        .one 0 rfl nofun rfl rfl
      exact .writing coded rfl rfl rfl (record.append (moves_expressionCode idCoded 1))
        (.locking rfl (.done 0)) nofun rfl nofun (built_of_elseArm elseArm)

/-- The code of an `ELSE` is built in the form of its statement. -/
theorem built_of_elseArm : (elseArm : Option (BranchArm Double)) →
    ∀ arm ∈ elseArm, ∀ code, armCode arm = .ok code → Built arm.statement code
  | none => nofun
  | some arm => by
      intro _ same code coded
      cases same
      exact built_of_arm arm coded

/-- The code of an arm is built in the form of its statement. -/
theorem built_of_arm : (arm : BranchArm Double) → {code : Code Double} →
    armCode arm = .ok code → Built arm.statement code
  | .line _, _, coded => by
      cases coded
      exact .reference rfl
  | .inline statement, _, coded => built_of_accepted statement coded

end

end Gemini.Basic
