import Gemini.Basic.Targets

/-!
# Lines with other numbers

The lines of a program get other numbers, and the statement of each line refers to other lines. The
code of the lines stays where it is, and the instructions are the same exactly when every line
refers to code that starts where the code that it referred to did.
-/

namespace Gemini.Basic

open Gemini.VM (Instruction OpCode)
open CodeItem (plain toIndex toLine)

variable {Double : Type}

namespace CodeItem

/-- An item that refers to another line. -/
def refersTo (change : Int → Int) : CodeItem Double → CodeItem Double
  | .plain instr => .plain instr
  | .toIndex op index => .toIndex op index
  | .toLine op line => .toLine op (change line)

theorem refersTo_id (item : CodeItem Double) : item.refersTo id = item := by
  cases item <;> rfl

theorem op_refersTo (change : Int → Int) (item : CodeItem Double) :
    (item.refersTo change).op = item.op := by
  cases item <;> rfl

end CodeItem

/-- The line with its new number, and with a statement that refers to other lines. -/
structure Relined (new change : Int → Int) (line other : BasicLine Double) : Prop where
  number : other.lineNumber = new line.lineNumber
  code : ∀ start, other.code start = (line.code start).map (CodeItem.refersTo change)
  accepted : line.Accepted → other.Accepted
  isEnd : other.statement.isEnd = line.statement.isEnd
  targets : other.statement.lineTargets = line.statement.lineTargets.map change

namespace Relined

/-- A line that keeps its statement. -/
theorem same (new : Int → Int) (line : BasicLine Double) :
    Relined new id line ⟨new line.lineNumber, line.statement⟩ where
  number := rfl
  code start := by
    rw [List.map_congr_left fun item _ => item.refersTo_id, List.map_id']
    rfl
  accepted := id
  isEnd := rfl
  targets := (List.map_id _).symm

/-- A line whose code is known. -/
theorem of_statementCode {new change : Int → Int} {line other : BasicLine Double}
    {code otherCode : Code Double} (number : other.lineNumber = new line.lineNumber)
    (isCode : statementCode false line.statement = .ok code)
    (isOther : statementCode false other.statement = .ok otherCode)
    (relined : ∀ start, otherCode start = (code start).map (CodeItem.refersTo change))
    (isEnd : other.statement.isEnd = line.statement.isEnd)
    (targets : other.statement.lineTargets = line.statement.lineTargets.map change) :
    Relined new change line other where
  number := number
  code start := by
    rw [BasicLine.code, isOther, BasicLine.code, isCode]
    exact relined start
  accepted _ := by rw [BasicLine.Accepted, BasicLine.code, isOther]
  isEnd := isEnd
  targets := targets

end Relined

/-- Each line of a program in its new form; `change` says what it refers to. -/
abbrev RelinedAll (new : Int → Int) (change : BasicLine Double → Int → Int) :
    List (BasicLine Double) → List (BasicLine Double) → Prop :=
  List.Forall₂ fun line other => Relined new (change line) line other

namespace RelinedAll

variable {new : Int → Int} {change : BasicLine Double → Int → Int}
  {lines others : List (BasicLine Double)} (relined : RelinedAll new change lines others)
include relined

/-- The numbers of the lines are the new ones. -/
theorem numbers : others.map BasicLine.lineNumber = (lines.map BasicLine.lineNumber).map new := by
  induction relined with
  | nil => rfl
  | cons first rest inductionHypothesis =>
      rw [List.map_cons, List.map_cons, List.map_cons, first.number, inductionHypothesis]

/-- Lines with other numbers are accepted when the lines are. -/
theorem accepted (lineAccepted : ∀ line ∈ lines, line.Accepted) :
    ∀ line ∈ others, line.Accepted := by
  induction relined with
  | nil => exact List.forall_mem_nil _
  | cons first rest inductionHypothesis =>
      rw [List.forall_mem_cons] at lineAccepted ⊢
      exact ⟨first.accepted lineAccepted.1, inductionHypothesis lineAccepted.2⟩

/-- Their code has the same length. -/
theorem length_linesCode (start : Nat) :
    (linesCode others start).length = (linesCode lines start).length := by
  induction relined generalizing start with
  | nil => rfl
  | cons first rest inductionHypothesis =>
      simp only [linesCode, Code.andThen, List.length_append, first.code, List.length_map,
        inductionHypothesis]

/-- The code of a line starts where it did. -/
theorem lineStart_eq (position : Nat) : lineStart others position = lineStart lines position :=
  RelinedAll.length_linesCode (List.forall₂_take position relined) 0

/-- Their instructions have the new numbers as source lines. -/
theorem sourceLines_eq (start : Nat) :
    sourceLines start others = (sourceLines start lines).map new := by
  induction relined generalizing start with
  | nil => rfl
  | cons first rest inductionHypothesis =>
      simp only [sourceLines, first.code, List.length_map, first.number, inductionHypothesis,
        List.map_append, List.map_replicate]

/-- A new number stands where the old one does. -/
theorem linePosition_eq {number : Int}
    (injective : ∀ line ∈ lines, new line.lineNumber = new number → line.lineNumber = number) :
    linePosition others (new number) = linePosition lines number := by
  induction relined with
  | nil => rfl
  | @cons line other rest otherRest first _ inductionHypothesis =>
      obtain ⟨here, later⟩ := List.forall_mem_cons.mp injective
      have same : other.lineNumber = new number ↔ line.lineNumber = number := by
        rw [first.number]
        exact ⟨here, congrArg new⟩
      simp only [linePosition, inductionHypothesis later, same]

/-- A line is found under its new number where it was under its old one. -/
theorem targetOf_eq {number : Int}
    (injective : ∀ line ∈ lines, new line.lineNumber = new number → line.lineNumber = number) :
    targetOf others (new number) = targetOf lines number := by
  rw [targetOf, relined.linePosition_eq injective, targetOf]
  exact congrArg (fun start => Option.map start _) (funext relined.lineStart_eq)

theorem any_isEnd :
    others.any (fun line => line.statement.isEnd) = lines.any fun line => line.statement.isEnd := by
  induction relined with
  | nil => rfl
  | cons first rest inductionHypothesis =>
      rw [List.any_cons, List.any_cons, first.isEnd, inductionHypothesis]

/-- Their code has the same opcodes. -/
theorem ops_linesCode (start : Nat) :
    (linesCode others start).map CodeItem.op = (linesCode lines start).map CodeItem.op := by
  induction relined generalizing start with
  | nil => rfl
  | @cons line _ _ _ first _ inductionHypothesis =>
      have ops : CodeItem.op ∘ CodeItem.refersTo (change line) = @CodeItem.op Double :=
        funext (CodeItem.op_refersTo _)
      simp only [linesCode, Code.andThen, List.map_append, first.code, List.map_map, ops,
        List.length_map, inductionHypothesis]

/-- They need a `HALT` when the lines do. -/
theorem needsHalt_eq : needsHalt others = needsHalt lines := by
  have last : (linesCode others 0).getLast?.map CodeItem.op =
      (linesCode lines 0).getLast?.map CodeItem.op := by
    rw [← List.getLast?_map, relined.ops_linesCode, List.getLast?_map]
  rw [needsHalt, needsHalt, relined.any_isEnd, last]

/-- The instructions are the same exactly when every line refers to the same code. -/
theorem resolved_eq_iff (lineAccepted : ∀ line ∈ lines, line.Accepted) (start : Nat)
    (starts otherStarts : Int → Nat) :
    (linesCode others start).map (CodeItem.resolved otherStarts) =
        (linesCode lines start).map (CodeItem.resolved starts) ↔
      ∀ line ∈ lines, ∀ target ∈ line.statement.lineTargets,
        otherStarts (change line target) = starts target := by
  induction relined generalizing start with
  | nil => simp [linesCode, Code.ofInstrs]
  | @cons line other rest otherRest first later inductionHypothesis =>
      obtain ⟨accepted, lineAccepted⟩ := List.forall_mem_cons.mp lineAccepted
      have built := built_of_accepted _ accepted
      have sameLength : ((other.code start).map (CodeItem.resolved otherStarts)).length =
          ((line.code start).map (CodeItem.resolved starts)).length := by
        simp [first.code]
      have here : (other.code start).map (CodeItem.resolved otherStarts) =
          (line.code start).map (CodeItem.resolved starts) ↔
            ∀ target ∈ line.statement.lineTargets,
              otherStarts (change line target) = starts target := by
        rw [first.code, List.map_map, List.map_inj_left]
        constructor
        · intro same target refers
          obtain ⟨op, member⟩ := built_refers built start refers
          simpa [CodeItem.refersTo, CodeItem.resolved] using same _ member
        · intro same item member
          cases itemOf_built built start item member with
          | plain _ => rfl
          | toIndex _ _ => rfl
          | toLine _ refers =>
              simp [CodeItem.refersTo, CodeItem.resolved, same _ refers]
      simp only [linesCode, Code.andThen, List.map_append]
      have rest := inductionHypothesis lineAccepted (start + (line.code start).length)
      have sameStart : (other.code start).length = (line.code start).length := by
        rw [first.code, List.length_map]
      rw [sameStart, List.forall_mem_cons, ← here, ← rest]
      constructor
      · intro same
        exact List.append_inj same sameLength
      · intro both
        rw [both.1, both.2]

/-- The lines are assembled to the same instructions exactly when every line refers to the same
code. -/
theorem assembled_eq_iff (lineAccepted : ∀ line ∈ lines, line.Accepted) (none : new 0 = 0) :
    assembled others = ⟨(assembled lines).program, (assembled lines).sourceLinePerInstr.map new⟩ ↔
      ∀ line ∈ lines, ∀ target ∈ line.statement.lineTargets,
        resolvedTarget others (change line target) = resolvedTarget lines target := by
  have closings : closing others = closing lines := by rw [closing, closing, relined.needsHalt_eq]
  have sources : (assembled others).sourceLinePerInstr =
      (assembled lines).sourceLinePerInstr.map new := by
    rw [assembled_sources, assembled_sources, relined.sourceLines_eq, relined.needsHalt_eq,
      List.map_append]
    split <;> simp [none]
  rw [← relined.resolved_eq_iff lineAccepted 0]
  constructor
  · intro same
    have programs := congrArg EmittedProgram.program same
    rw [assembled_program, assembled_program, closings] at programs
    exact List.append_cancel_right programs
  · intro same
    have programs : (assembled others).program = (assembled lines).program := by
      rw [assembled_program, assembled_program, closings, same]
    rw [← programs, ← sources]

/-- The lines that are referred to. -/
theorem targets_iff (refersTo : Int → Prop) :
    (∀ line ∈ others, ∀ target ∈ line.statement.lineTargets, refersTo target) ↔
      ∀ line ∈ lines, ∀ target ∈ line.statement.lineTargets, refersTo (change line target) := by
  induction relined with
  | nil => simp
  | cons first rest inductionHypothesis =>
      rw [List.forall_mem_cons, List.forall_mem_cons, inductionHypothesis, first.targets,
        List.forall_mem_map]

omit relined in
/-- The number of a line has a target. -/
theorem isSome_targetOf {number : Int} (member : number ∈ lines.map BasicLine.lineNumber) :
    ∃ start, targetOf lines number = some start := by
  rw [← Option.isSome_iff_exists, targetOf, Option.isSome_map]
  exact linePosition_isSome member

end RelinedAll

/-- Where some lines refer to the new numbers and the others to the numbers as they were, the
instructions are the same exactly when what the others refer to is the new number of a line whose
code starts at the same place. -/
theorem relined_same_iff {new : Int → Int} {moves : BasicLine Double → Bool}
    {lines others : List (BasicLine Double)}
    (relined : RelinedAll new (fun line => if moves line then new else id) lines others)
    (known : TargetsKnown lines) (accepted : ∀ line ∈ lines, line.Accepted) (none : new 0 = 0)
    (injective : ∀ number ∈ lines.map BasicLine.lineNumber, ∀ line ∈ lines,
      new line.lineNumber = new number → line.lineNumber = number) :
    (TargetsKnown others ∧ assembled others =
        ⟨(assembled lines).program, (assembled lines).sourceLinePerInstr.map new⟩) ↔
      ∀ line ∈ lines, moves line = false → ∀ target ∈ line.statement.lineTargets,
        ∃ old ∈ lines, new old.lineNumber = target ∧
          targetOf lines old.lineNumber = targetOf lines target := by
  rw [relined.assembled_eq_iff accepted none, TargetsKnown, relined.numbers,
    relined.targets_iff fun target => target ∈ (lines.map BasicLine.lineNumber).map new]
  have renamed (number) (member : number ∈ lines.map BasicLine.lineNumber) :
      targetOf others (new number) = targetOf lines number :=
    relined.targetOf_eq (injective number member)
  constructor
  · rintro ⟨knownOthers, same⟩ line member kept target refers
    have isKnown := knownOthers line member target refers
    have isSame := same line member target refers
    rw [kept] at isKnown isSame
    obtain ⟨number, isNumber, isTarget⟩ := List.mem_map.mp isKnown
    obtain rfl : new number = target := isTarget
    obtain ⟨old, isOld, rfl⟩ := List.mem_map.mp isNumber
    obtain ⟨oldStart, atOld⟩ := RelinedAll.isSome_targetOf isNumber
    obtain ⟨targetStart, atTarget⟩ := RelinedAll.isSome_targetOf (known line member _ refers)
    have starts : resolvedTarget others (new old.lineNumber) =
      resolvedTarget lines (new old.lineNumber) := isSame
    rw [resolvedTarget, renamed _ isNumber, resolvedTarget, atOld, atTarget] at starts
    exact ⟨old, isOld, rfl, by rw [atOld, atTarget]; exact congrArg some starts⟩
  · intro kept
    refine ⟨fun line member target refers => ?_, fun line member target refers => ?_⟩
    · cases moved : moves line with
      | true => exact List.mem_map_of_mem (known line member target refers)
      | false =>
          obtain ⟨old, isOld, isTarget, -⟩ := kept line member moved target refers
          exact List.mem_map.mpr ⟨_, List.mem_map_of_mem isOld, isTarget⟩
    · cases moved : moves line with
      | true =>
          exact congrArg (Option.getD · 0) (renamed target (known line member target refers))
      | false =>
          obtain ⟨old, isOld, rfl, starts⟩ := kept line member moved target refers
          refine congrArg (Option.getD · 0) ?_
          exact (renamed _ (List.mem_map_of_mem isOld)).trans starts

end Gemini.Basic
