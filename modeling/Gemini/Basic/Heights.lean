import Gemini.Basic.Shape
import Gemini.Basic.Targets
import Gemini.VM.StackDiscipline

/-!
# The operand stack of emitted code

Emitted code is disciplined: there is a height of the operand stack for every index of it that
every instruction respects, and the height is 0 where a line starts. So in every run the stack
is empty at the start of a line, and no instruction finds too few values on it.
-/

namespace Gemini.Basic

open Gemini.Semantics
open Gemini.VM
open CodeItem (plain toIndex toLine)

variable {Double World : Type}

/-! ## Heights and instructions from an index on -/

/-- The heights from an index on. -/
def HeightsAt (heights : Nat → Nat) : Nat → List Nat → Prop
  | _, [] => True
  | start, height :: rest => heights start = height ∧ HeightsAt heights (start + 1) rest

/-- Heights along a row are those along its two parts. -/
theorem heightsAt_append {heights : Nat → Nat} {start : Nat} {first second : List Nat} :
    HeightsAt heights start (first ++ second) ↔
      HeightsAt heights start first ∧ HeightsAt heights (start + first.length) second := by
  induction first generalizing start with
  | nil => simp [HeightsAt]
  | cons height rest inductionHypothesis =>
      have shifted : start + 1 + rest.length = start + (height :: rest).length := by
        simp only [List.length_cons]
        omega
      simp [HeightsAt, inductionHypothesis, shifted, and_assoc]

/-- The height at the start of a row is the first of its list. -/
theorem HeightsAt.first {heights : Nat → Nat} {start height : Nat} {list : List Nat}
    (here : HeightsAt heights start list) (head : list.head? = some height) :
    heights start = height := by
  cases list with
  | nil => cases head
  | cons first rest =>
      cases head
      exact here.1

/-- Every list of heights is that of some function. -/
theorem heightsAt_getD (before list : List Nat) :
    HeightsAt (fun ip => (before ++ list).getD ip 0) before.length list := by
  induction list generalizing before with
  | nil => trivial
  | cons height rest inductionHypothesis =>
      constructor
      · simp
      · simpa using inductionHypothesis (before ++ [height])

/-- The items from an index on respect the heights. -/
def RespectsAt (heights : Nat → Nat) (size : Nat) (starts : Int → Nat) :
    Nat → List (CodeItem Double) → Prop
  | _, [] => True
  | ip, item :: rest =>
      Respects heights size ip (item.resolved starts) ∧ RespectsAt heights size starts (ip + 1) rest

/-- Code respects the heights when its two parts do. -/
theorem respectsAt_append {heights : Nat → Nat} {size start : Nat} {starts : Int → Nat}
    {first second : List (CodeItem Double)} :
    RespectsAt heights size starts start (first ++ second) ↔
      RespectsAt heights size starts start first ∧
        RespectsAt heights size starts (start + first.length) second := by
  induction first generalizing start with
  | nil => simp [RespectsAt]
  | cons item rest inductionHypothesis =>
      have shifted : start + 1 + rest.length = start + (item :: rest).length := by
        simp only [List.length_cons]
        omega
      simp [RespectsAt, inductionHypothesis, shifted, and_assoc]

/-! ## Rows -/

/-- Wherever the instructions are, they respect the heights that the list gives them, from
`low` at the first to `high` after the last. -/
structure RowHeights (low : Nat) (code : List (Instruction Double)) (high : Nat)
    (list : List Nat) : Prop where
  length : list.length = code.length
  first : (list ++ [high]).head? = some low
  respects : ∀ (heights : Nat → Nat) (size : Nat) (starts : Int → Nat) (start : Nat),
    heights size = 0 → HeightsAt heights start (list ++ [high]) →
    RespectsAt heights size starts start (code.map plain)

/-- An instruction in front of a row, which takes its height to that of the row. -/
theorem RowHeights.cons {low middle high : Nat} {instr : Instruction Double}
    {rest : List (Instruction Double)} {list : List Nat}
    (later : RowHeights middle rest high list)
    (respects : ∀ (heights : Nat → Nat) (size ip : Nat), heights size = 0 → heights ip = low →
      heights (ip + 1) = middle → Respects heights size ip instr) :
    RowHeights low (instr :: rest) high (low :: list) where
  length := by simp [later.length]
  first := rfl
  respects := by
    rintro heights size starts start ends ⟨here, heightsLater⟩
    exact ⟨respects heights size start ends here (heightsLater.first later.first),
      later.respects heights size starts (start + 1) ends heightsLater⟩

/-- Instructions in a row have heights that they respect. -/
theorem rowHeights_of_moves {code : List (Instruction Double)} {low high : Nat}
    (moves : Moves low code high) : ∃ list, RowHeights low code high list := by
  induction moves with
  | done height => exact ⟨[], rfl, rfl, fun _ _ _ _ _ _ => trivial⟩
  | straight effect calls _ inductionHypothesis =>
      obtain ⟨list, later⟩ := inductionHypothesis
      exact ⟨_, later.cons fun heights size ip _ here next => .straight effect calls here next⟩
  | locking effect _ inductionHypothesis =>
      obtain ⟨list, later⟩ := inductionHypothesis
      exact ⟨_, later.cons fun heights size ip _ here next => .locking effect here next⟩
  | flat op _ inductionHypothesis =>
      obtain ⟨list, later⟩ := inductionHypothesis
      refine ⟨_, later.cons fun heights size ip ends here next => ?_⟩
      rcases op with op | op | op
      · exact .halt op (here.trans ends.symm)
      · exact .returnFromCall op here
      · exact .forNext op here next
  | forSetup op _ inductionHypothesis =>
      obtain ⟨list, later⟩ := inductionHypothesis
      exact ⟨_, later.cons fun heights size ip _ here next => .forSetup op here next⟩
  | clearHandler op operand _ inductionHypothesis =>
      obtain ⟨list, later⟩ := inductionHypothesis
      exact ⟨_, later.cons fun heights size ip _ here next =>
        .setOnErrorHandler op operand (next.trans here.symm) (by simp)⟩

/-! ## Statements -/

/-- Wherever the code is, it respects the heights of the list, which start and end at 0, when
the lines that it refers to have height 0. -/
structure CodeHeights (code : Code Double) (targets : List Int) (list : List Nat) : Prop where
  length : ∀ start, list.length = (code start).length
  first : (list ++ [0]).head? = some 0
  respects : ∀ (heights : Nat → Nat) (size : Nat) (starts : Int → Nat) (start : Nat),
    heights size = 0 → (∀ line ∈ targets, heights (starts line) = 0) →
    HeightsAt heights start (list ++ [0]) →
    RespectsAt heights size starts start (code start)

/-- Code may refer to fewer lines than it is given. -/
theorem CodeHeights.mono {code : Code Double} {targets wider : List Int} {list : List Nat}
    (codeHeights : CodeHeights code targets list) (subset : targets ⊆ wider) :
    CodeHeights code wider list where
  length := codeHeights.length
  first := codeHeights.first
  respects := fun heights size starts start ends flat here =>
    codeHeights.respects heights size starts start ends (fun line refers => flat line (subset refers))
      here

/-- A jump to a line needs an empty stack. -/
theorem respects_reference {heights : Nat → Nat} {size ip : Nat} {starts : Int → Nat}
    {op : OpCode} {line : Int} (takes : op = .jump ∨ op = .call ∨ op = .setOnErrorHandler)
    (here : heights ip = 0) (next : heights (ip + 1) = 0) (target : heights (starts line) = 0) :
    Respects heights size ip ((toLine op line : CodeItem Double).resolved starts) := by
  rcases takes with rfl | rfl | rfl
  · exact .jump rfl rfl (target.trans here.symm)
  · exact .call rfl rfl next (target.trans here.symm)
  · exact .setOnErrorHandler rfl rfl (next.trans here.symm) fun _ => target

section Branches

variable {condition : List (Instruction Double)} {conditionList thenList elseList : List Nat}
  {thenCode elseCode : Code Double} {thenTargets elseTargets : List Int}

/-- An `IF` without an `ELSE` keeps the stack in order. -/
theorem codeHeights_branch (conditionRow : RowHeights 0 condition 1 conditionList)
    (thenHeights : CodeHeights thenCode thenTargets thenList) :
    CodeHeights (.branch condition thenCode) thenTargets (conditionList ++ 1 :: thenList) where
  length := by
    intro start
    simp [Code.branch, conditionRow.length, ← thenHeights.length]
  first := by
    have head := conditionRow.first
    simpa [List.head?_append] using head
  respects := by
    intro heights size starts start ends flat here
    rw [List.append_assoc, heightsAt_append, conditionRow.length] at here
    obtain ⟨conditionAt, jzHeight, thenAt⟩ := here
    have stopHeight := (heightsAt_append.mp thenAt).2.1
    rw [thenHeights.length (start + condition.length + 1)] at stopHeight
    have conditionRespects := conditionRow.respects heights size starts start ends
      (heightsAt_append.mpr ⟨conditionAt, conditionRow.length ▸ jzHeight, trivial⟩)
    have thenFirst := thenAt.first thenHeights.first
    have thenRespects := thenHeights.respects heights size starts _ ends flat thenAt
    rw [Code.branch, respectsAt_append, List.length_map]
    exact ⟨conditionRespects,
      .jumpIfZero rfl rfl (by rw [jzHeight, thenFirst]) (stopHeight.trans thenFirst.symm),
      thenRespects⟩

/-- An `IF` whose `THEN` is a line keeps the stack in order. -/
theorem codeHeights_branchToLine {target : Int}
    (conditionRow : RowHeights 0 condition 1 conditionList)
    (elseHeights : CodeHeights elseCode elseTargets elseList) :
    CodeHeights (.branchToLine condition (.reference .jump target) elseCode)
      (target :: elseTargets) (conditionList ++ 1 :: 0 :: elseList) where
  length := by
    intro start
    simp [Code.branchToLine, Code.reference, conditionRow.length, ← elseHeights.length]
  first := by
    have head := conditionRow.first
    simpa [List.head?_append] using head
  respects := by
    intro heights size starts start ends flat here
    rw [List.forall_mem_cons] at flat
    rw [List.append_assoc, heightsAt_append, conditionRow.length] at here
    obtain ⟨conditionAt, jzHeight, jumpHeight, elseAt⟩ := here
    have conditionRespects := conditionRow.respects heights size starts start ends
      (heightsAt_append.mpr ⟨conditionAt, conditionRow.length ▸ jzHeight, trivial⟩)
    have elseFirst := elseAt.first elseHeights.first
    have elseRespects := elseHeights.respects heights size starts _ ends flat.2 elseAt
    rw [Code.branchToLine, List.append_assoc, respectsAt_append, List.length_map]
    exact ⟨conditionRespects,
      .jumpIfZero rfl rfl (by rw [jzHeight, jumpHeight]) (elseFirst.trans jumpHeight.symm),
      .jump rfl rfl (flat.1.trans jumpHeight.symm), elseRespects⟩

/-- An `IF` with both arms keeps the stack in order. -/
theorem codeHeights_branchElse (conditionRow : RowHeights 0 condition 1 conditionList)
    (thenHeights : CodeHeights thenCode thenTargets thenList)
    (elseHeights : CodeHeights elseCode elseTargets elseList) :
    CodeHeights (.branchElse condition thenCode elseCode) (thenTargets ++ elseTargets)
      (conditionList ++ 1 :: (thenList ++ 0 :: elseList)) where
  length := by
    intro start
    simp [Code.branchElse, conditionRow.length, ← thenHeights.length, ← elseHeights.length]
  first := by
    have head := conditionRow.first
    simpa [List.head?_append] using head
  respects := by
    intro heights size starts start ends flat here
    rw [List.forall_mem_append] at flat
    rw [List.append_assoc, heightsAt_append, conditionRow.length, List.cons_append,
      List.append_assoc] at here
    obtain ⟨conditionAt, jzHeight, armsAt⟩ := here
    rw [heightsAt_append, thenHeights.length (start + condition.length + 1)] at armsAt
    obtain ⟨thenAt, leaveHeight, elseAt⟩ := armsAt
    have stopHeight := (heightsAt_append.mp elseAt).2.1
    have conditionRespects := conditionRow.respects heights size starts start ends
      (heightsAt_append.mpr ⟨conditionAt, conditionRow.length ▸ jzHeight, trivial⟩)
    have thenWhole : HeightsAt heights (start + condition.length + 1) (thenList ++ [0]) :=
      heightsAt_append.mpr
        ⟨thenAt, by rwa [thenHeights.length (start + condition.length + 1)], trivial⟩
    have thenFirst := thenWhole.first thenHeights.first
    have thenRespects := thenHeights.respects heights size starts _ ends flat.1 thenWhole
    have elseFirst := elseAt.first elseHeights.first
    have elseRespects := elseHeights.respects heights size starts _ ends flat.2 elseAt
    rw [Code.branchElse, List.append_assoc, respectsAt_append, List.length_map]
    refine ⟨conditionRespects,
      .jumpIfZero rfl rfl (by rw [jzHeight, thenFirst]) (elseFirst.trans thenFirst.symm),
      respectsAt_append.mpr ?_⟩
    rw [elseHeights.length (start + condition.length + 1 +
      (thenCode (start + condition.length + 1)).length + 1)] at stopHeight
    exact ⟨thenRespects, .jump rfl rfl (stopHeight.trans leaveHeight.symm), elseRespects⟩

end Branches

/-- A file statement with an `ELSE` keeps the stack in order. -/
theorem codeHeights_tried {before onDone onFailed : List (Instruction Double)}
    {instr : Instruction Double} {takes left : Nat} {elseCode : Code Double}
    {beforeList doneList failedList elseList : List Nat} {elseTargets : List Int}
    (beforeRow : RowHeights 0 before takes beforeList)
    (effect : stackEffect instr = some (takes, left + 1)) (noCall : instr.op ≠ .callFunc)
    (doneRow : RowHeights left onDone 0 doneList) (failedRow : RowHeights left onFailed 0 failedList)
    (elseHeights : CodeHeights elseCode elseTargets elseList) :
    CodeHeights ((Code.ofInstrs before).andThen (.tried instr onDone onFailed elseCode)) elseTargets
      (beforeList ++ takes :: (left + 1) :: (doneList ++ 0 :: (failedList ++ elseList))) where
  length := by
    intro start
    simp [Code.andThen, Code.ofInstrs, Code.tried, beforeRow.length, doneRow.length,
      failedRow.length, ← elseHeights.length]
  first := by
    have head := beforeRow.first
    simpa [List.head?_append] using head
  respects := by
    intro heights size starts start ends flat here
    simp only [List.append_assoc, List.cons_append] at here
    rw [heightsAt_append, beforeRow.length] at here
    obtain ⟨beforeAt, tryHeight, jzHeight, rest⟩ := here
    rw [heightsAt_append, doneRow.length] at rest
    obtain ⟨doneAt, leaveHeight, rest⟩ := rest
    obtain ⟨failedAt, elseAt⟩ := heightsAt_append.mp rest
    have stopHeight := (heightsAt_append.mp elseAt).2.1
    have elseFirst := elseAt.first elseHeights.first
    have elseRespects := elseHeights.respects heights size starts _ ends flat elseAt
    have beforeRespects := beforeRow.respects heights size starts start ends
      (heightsAt_append.mpr ⟨beforeAt, beforeRow.length ▸ tryHeight, trivial⟩)
    have doneWhole : HeightsAt heights (start + before.length + 1 + 1) (doneList ++ [0]) :=
      heightsAt_append.mpr ⟨doneAt, doneRow.length ▸ leaveHeight, trivial⟩
    have doneFirst := doneWhole.first doneRow.first
    have doneRespects := doneRow.respects heights size starts _ ends doneWhole
    have failedWhole : HeightsAt heights (start + before.length + 1 + 1 + onDone.length + 1)
        (failedList ++ [0]) :=
      heightsAt_append.mpr ⟨failedAt, elseFirst, trivial⟩
    have failedFirst := failedWhole.first failedRow.first
    have failedRespects := failedRow.respects heights size starts _ ends failedWhole
    rw [failedRow.length] at elseRespects stopHeight
    rw [elseHeights.length (start + before.length + 1 + 1 + onDone.length + 1 + onFailed.length)]
      at stopHeight
    generalize doneEndIs : start + before.length + 1 + 1 + onDone.length = doneEnd at *
    have failStart : start + before.length + onDone.length + 3 = doneEnd + 1 := by omega
    rw [Code.andThen, Code.ofInstrs, respectsAt_append, List.length_map, Code.tried, failStart]
    refine ⟨beforeRespects, ?_⟩
    simp only [List.cons_append, List.append_assoc]
    refine ⟨.straight effect (fun call => absurd call noCall)
        (tryHeight.trans (Nat.zero_add _).symm) (jzHeight.trans (Nat.zero_add _).symm),
      .jumpIfZero rfl rfl (by rw [jzHeight, doneFirst]) (failedFirst.trans doneFirst.symm),
      respectsAt_append.mpr ⟨doneRespects, ?_⟩⟩
    rw [List.length_map, doneEndIs]
    refine ⟨.jump rfl rfl (stopHeight.trans leaveHeight.symm), respectsAt_append.mpr ?_⟩
    rw [List.length_map]
    exact ⟨failedRespects, elseRespects⟩

/-- The code of a statement has heights that it respects. -/
theorem codeHeights_of_built {statement : Stmt Double} {code : Code Double}
    (built : Built statement code) : ∃ list, CodeHeights code statement.lineTargets list := by
  induction built with
  | row form moves =>
      obtain ⟨list, row⟩ := rowHeights_of_moves moves
      refine ⟨list, fun start => by simp [row.length, Code.ofInstrs], row.first, ?_⟩
      intro heights size starts start ends _ here
      exact row.respects heights size starts start ends here
  | @reference statement op line form =>
      refine ⟨[0], fun start => rfl, rfl, ?_⟩
      rintro heights size starts start ends flat ⟨here, next, -⟩
      have target := flat line (by simp [lineTargets_eq, form, Form.lineTargets])
      exact ⟨respects_reference (op_of_reference form) here next target, trivial⟩
  | @branch statement thenArm condition thenCode form moves _ inductionHypothesis =>
      obtain ⟨conditionList, conditionRow⟩ := rowHeights_of_moves moves
      obtain ⟨thenList, thenHeights⟩ := inductionHypothesis
      refine ⟨_, (codeHeights_branch conditionRow thenHeights).mono fun line refers => ?_⟩
      rw [lineTargets_eq, form]
      exact List.mem_append_left _ (mem_lineTargets_statement.mp refers)
  | branchToLine form moves _ inductionHypothesis =>
      obtain ⟨conditionList, conditionRow⟩ := rowHeights_of_moves moves
      obtain ⟨elseList, elseHeights⟩ := inductionHypothesis
      refine ⟨_, (codeHeights_branchToLine conditionRow elseHeights).mono fun line refers => ?_⟩
      rw [lineTargets_eq, form]
      rcases List.mem_cons.mp refers with rfl | later
      · exact List.mem_append_left _ (List.mem_singleton_self _)
      · exact List.mem_append_right _ (mem_lineTargets_statement.mp later)
  | branchElse form moves _ _ thenHypothesis elseHypothesis =>
      obtain ⟨conditionList, conditionRow⟩ := rowHeights_of_moves moves
      obtain ⟨thenList, thenHeights⟩ := thenHypothesis
      obtain ⟨elseList, elseHeights⟩ := elseHypothesis
      refine ⟨_, (codeHeights_branchElse conditionRow thenHeights elseHeights).mono
        fun line refers => ?_⟩
      rw [lineTargets_eq, form]
      rcases List.mem_append.mp refers with here | later
      · exact List.mem_append_left _ here
      · exact List.mem_append_right _ (mem_lineTargets_statement.mp later)
  | tried form moves effect noCall doneMoves failedMoves _ _ inductionHypothesis =>
      obtain ⟨beforeList, beforeRow⟩ := rowHeights_of_moves moves
      obtain ⟨doneList, doneRow⟩ := rowHeights_of_moves doneMoves
      obtain ⟨failedList, failedRow⟩ := rowHeights_of_moves failedMoves
      obtain ⟨elseList, elseHeights⟩ := inductionHypothesis
      refine ⟨_, (codeHeights_tried beforeRow effect noCall doneRow failedRow elseHeights).mono
        fun line refers => ?_⟩
      rw [lineTargets_eq, form]
      exact mem_lineTargets_statement.mp refers

/-! ## Lines -/

/-- The code of lines has heights that it respects, with height 0 where a line starts. -/
structure LinesHeights (lines : List (BasicLine Double)) (list : List Nat) : Prop where
  code : CodeHeights (linesCode lines) (lines.flatMap fun line => line.statement.lineTargets) list
  flat : ∀ (heights : Nat → Nat) (start position : Nat), HeightsAt heights start (list ++ [0]) →
    heights (start + (linesCode (lines.take position) start).length) = 0

/-- The code of accepted lines has heights that each of its instructions respects. -/
theorem linesHeights_of_accepted {lines : List (BasicLine Double)}
    (accepted : ∀ line ∈ lines, line.Accepted) : ∃ list, LinesHeights lines list := by
  induction lines with
  | nil =>
      refine ⟨[], ⟨fun _ => rfl, rfl, fun _ _ _ _ _ _ _ => trivial⟩, ?_⟩
      intro heights start position here
      simpa [linesCode, Code.ofInstrs] using here.1
  | cons line rest inductionHypothesis =>
      rw [List.forall_mem_cons] at accepted
      obtain ⟨lineList, lineHeights⟩ := codeHeights_of_built (built_of_accepted _ accepted.1)
      obtain ⟨restList, restHeights⟩ := inductionHypothesis accepted.2
      have split {heights : Nat → Nat} {start : Nat}
          (here : HeightsAt heights start (lineList ++ restList ++ [0])) :
          HeightsAt heights start (lineList ++ [0]) ∧
            HeightsAt heights (start + (line.code start).length) (restList ++ [0]) := by
        rw [List.append_assoc, heightsAt_append, lineHeights.length start] at here
        refine ⟨heightsAt_append.mpr ⟨here.1, ?_, trivial⟩, here.2⟩
        rw [lineHeights.length start]
        exact here.2.first restHeights.code.first
      refine ⟨lineList ++ restList, ⟨?_, ?_, ?_⟩, ?_⟩
      · intro start
        rw [linesCode, Code.andThen, List.length_append, List.length_append,
          lineHeights.length start, restHeights.code.length]
      · cases lineList with
        | nil => exact restHeights.code.first
        | cons height _ => exact lineHeights.first
      · intro heights size starts start ends flat here
        obtain ⟨lineAt, restAt⟩ := split here
        rw [List.flatMap_cons, List.forall_mem_append] at flat
        exact respectsAt_append.mpr ⟨lineHeights.respects heights size starts start ends flat.1 lineAt,
          restHeights.code.respects heights size starts _ ends flat.2 restAt⟩
      · intro heights start position here
        obtain ⟨lineAt, restAt⟩ := split here
        cases position with
        | zero => exact lineAt.first lineHeights.first
        | succ position =>
            have flat := restHeights.flat heights _ position restAt
            rw [List.take_succ_cons, linesCode, Code.andThen, List.length_append, ← Nat.add_assoc]
            exact flat

/-! ## Programs -/

/-- Every instruction of code that respects the heights does. -/
theorem respects_of_respectsAt {heights : Nat → Nat} {size start : Nat} {starts : Int → Nat}
    {items : List (CodeItem Double)} (respects : RespectsAt heights size starts start items)
    {index : Nat} {instr : Instruction Double}
    (found : (items.map (CodeItem.resolved starts))[index]? = some instr) :
    Respects heights size (start + index) instr := by
  induction items generalizing start index with
  | nil => simp at found
  | cons item rest inductionHypothesis =>
      cases index with
      | zero =>
          cases found
          exact respects.1
      | succ index =>
          have later := inductionHypothesis respects.2 (by simpa using found)
          rwa [Nat.add_assoc, Nat.add_comm 1] at later

/-- An emitted program is disciplined, with height 0 where a line starts. -/
theorem disciplined_assembled {lines : List (BasicLine Double)} (known : TargetsKnown lines)
    (accepted : ∀ line ∈ lines, line.Accepted) :
    ∃ heights, Disciplined heights (assembled lines).program ∧
      ∀ position, heights (lineStart lines position) = 0 := by
  obtain ⟨list, lineHeights⟩ := linesHeights_of_accepted accepted
  obtain ⟨heights, heightsIs⟩ : ∃ heights : Nat → Nat,
    heights = fun ip => ([] ++ (list ++ [0])).getD ip 0 := ⟨_, rfl⟩
  have here : HeightsAt heights 0 (list ++ [0]) := heightsIs ▸ heightsAt_getD [] _
  have flat (position : Nat) : heights (lineStart lines position) = 0 := by
    have start := lineHeights.flat heights 0 position here
    rwa [Nat.zero_add] at start
  have later (ip : Nat) (past : (linesCode lines 0).length ≤ ip) : heights ip = 0 := by
    rw [← lineHeights.code.length 0] at past
    subst heightsIs
    rcases Nat.eq_or_lt_of_le past with rfl | beyond
    · simp
    · have outside : ([] ++ (list ++ [0]))[ip]? = none := by
        rw [List.getElem?_eq_none_iff]
        simpa using Nat.succ_le_of_lt beyond
      change ([] ++ (list ++ [0])).getD ip 0 = 0
      rw [List.getD_eq_getElem?_getD, outside, Option.getD_none]
  refine ⟨heights, fun ip instr found => ?_, flat⟩
  have ends : heights (assembled lines).program.length = 0 :=
    later _ (by simp [assembled_program])
  have respects := lineHeights.code.respects heights (assembled lines).program.length
    (resolvedTarget lines) 0 ends (fun target refers => ?_) here
  · generalize (assembled lines).program.length = size at ends respects ⊢
    rw [assembled_program] at found
    rcases Nat.lt_or_ge ip ((linesCode lines 0).map
      (CodeItem.resolved (resolvedTarget lines))).length with inCode | past
    · rw [List.getElem?_append_left inCode] at found
      have respected := respects_of_respectsAt respects found
      rwa [Nat.zero_add] at respected
    · rw [List.getElem?_append_right past] at found
      have isHalt : instr.op = .halt := by
        have member := List.mem_of_getElem? found
        unfold closing at member
        split at member
        · rw [List.mem_singleton.mp member]
          rfl
        · cases member
      rw [List.length_map] at past
      exact .halt isHalt ((later ip past).trans ends.symm)
  · obtain ⟨position, found⟩ := position_of_refers known refers
    rw [resolvedTarget, targetOf, found]
    exact flat position

/-- The operand stack is empty at the start of a line, and the next step does not fail for want
of values. -/
structure StackInOrder [Doubles Double] (host : Host Double World)
    (lines : List (BasicLine Double)) (program : List (Instruction Double))
    (machine : Machine Double World) : Prop where
  empty : ∀ position, machine.ip = lineStart lines position → machine.memory.stack = []
  noUnderflow : (Program.exec (step host program) machine).1 ≠ .error .stackUnderflow
  noMismatch : (Program.exec (step host program) machine).1 ≠ .error .arityMismatch

/-- In every run of an emitted program, whatever the input, the files, the locks and the
builtins do, the operand stack is in order. -/
theorem emitted_stackInOrder [Doubles Double] {lines normalized : List (BasicLine Double)}
    {emitted : EmittedProgram Double} (analyzed : analyze lines = .ok normalized)
    (compiled : emit normalized = .ok emitted) {host : Host Double World}
    {handlers : BasicFunction → Handler Double World} (basic : RunsBasic host handlers)
    (input : List String) (world : World) (steps : List Unit) :
    Always (stepState host emitted.program) (StackInOrder host normalized emitted.program)
      (VM.loadProgram input world) steps := by
  obtain ⟨known, rfl⟩ := analyze_eq_ok.mp analyzed
  obtain ⟨accepted, rfl⟩ := emit_eq_ok.mp compiled
  obtain ⟨heights, disciplined, flat⟩ := disciplined_assembled known accepted
  have started : AtHeight heights (VM.loadProgram input world : Machine Double World) := by
    have first : heights 0 = 0 := flat 0
    refine ⟨first.symm, ?_, ?_, ?_⟩ <;> simp [VM.loadProgram]
  have always : Always (stepState host (assembled normalized).program) (AtHeight heights)
      (VM.loadProgram input world) steps :=
    always_of_invariant (fun here _ stepped => atHeight_step basic disciplined here stepped)
      started (eachStep_of_forall (fun _ _ => trivial) _)
  refine always.mono fun machine here => ⟨?_, ?_, ?_⟩
  · intro position atStart
    exact List.length_eq_zero_iff.mp (here.1.trans (atStart ▸ flat position))
  · intro failed
    exact harmless_step basic disciplined here failed trivial
  · intro failed
    exact harmless_step basic disciplined here failed trivial

/-- Handlers that answer 0. -/
def zeroHandlers (function : BasicFunction) : Handler Int Unit := fun _ stack =>
  pure (.int 0 :: stack.drop function.arity)

/-- A host whose builtins are the zero handlers. -/
def zeroHost : Host Int Unit where
  languageRegistry := some fun nsId =>
    if nsId = kNamespaceIdBasic then some (registerBasicLanguage zeroHandlers) else none

/-- The zero handlers behave as builtins do. -/
theorem runsBasic_zeroHost : RunsBasic zeroHost zeroHandlers where
  registered := by
    rintro registry found
    cases found
    rfl
  balanced := by
    intro function status stack world after worldAfter enough ran
    cases ran
    simp only [List.length_cons, List.length_drop]
    omega

/-- `10 PRINT ABS(5)`. -/
def printLines : List (BasicLine Int) :=
  [{ lineNumber := 10, statement := .print (.functionCall "ABS" [.intLiteral 5]) false }]

/-- The code of the lines, as the compiler emits it. -/
def printProgram : EmittedProgram Int where
  program := [pushInt 5,
    { op := .callFunc, callFunc := { namespaceId := 2, functionId := 0, argCount := 1 } },
    { op := .printVal }, { op := .printEol }, haltInstr]
  sourceLinePerInstr := [10, 10, 10, 10, 0]

/-- The stack is in order after every step of the program that prints a number. -/
theorem printProgram_stackInOrder :
    Always (stepState zeroHost printProgram.program)
      (StackInOrder zeroHost printLines printProgram.program) (VM.loadProgram [] ())
      [(), (), (), (), ()] := by
  have analyzed : analyze printLines = .ok printLines := rfl
  have compiled : emit printLines = .ok printProgram := by rfl
  exact emitted_stackInOrder analyzed compiled runsBasic_zeroHost [] () _

end Gemini.Basic
