import Gemini.Basic.Ast

/-!
# The semantic analyzer

`BasicSemanticAnalyzer::analyze` accepts a parsed program when every line that a statement
refers to is there.
-/

namespace Gemini.Basic

variable {Double : Type}

mutual

/-- The lines that `validateStatement` looks up, in its order. -/
def Stmt.lineTargets : Stmt Double → List Int
  | .goto targetLine => [targetLine]
  | .gosub targetLine => [targetLine]
  | .ifStmt _ thenArm elseArm => thenArm.lineTargets ++ elseLineTargets elseArm
  | .openStmt _ _ elseArm => elseLineTargets elseArm
  | .read _ _ _ elseArm => elseLineTargets elseArm
  | .readU _ _ _ elseArm => elseLineTargets elseArm
  | .write _ _ _ elseArm => elseLineTargets elseArm
  | .writeU _ _ _ elseArm => elseLineTargets elseArm
  | .readNext _ _ elseArm => elseLineTargets elseArm
  | .readV _ _ _ _ _ elseArm => elseLineTargets elseArm
  | .writeV _ _ _ _ _ elseArm => elseLineTargets elseArm
  | .onError targetLine => targetLine.toList
  | .matRead _ _ _ elseArm => elseLineTargets elseArm
  | .matWrite _ _ _ elseArm => elseLineTargets elseArm
  | _ => []

/-- The lines that an arm refers to. -/
def BranchArm.lineTargets : BranchArm Double → List Int
  | .line target => [target]
  | .inline statement => statement.lineTargets

/-- The lines that an `ELSE` refers to, if there is one. -/
def elseLineTargets : Option (BranchArm Double) → List Int
  | none => []
  | some arm => arm.lineTargets

end

/-- An error of the compiler and the line it is about. -/
structure BasicCompileError where
  line : Int
  message : String
deriving DecidableEq

/-- The error of a line that refers to a line which is not there. -/
def unknownTargetError (ownerLine targetLine : Int) : BasicCompileError where
  line := ownerLine
  message := "Unknown target line " ++ toString targetLine

/-- The errors of the targets of a line that are not among the known lines. -/
def BasicLine.unknownTargets (knownLines : List Int) (line : BasicLine Double) :
    List BasicCompileError :=
  (line.statement.lineTargets.filter (· ∉ knownLines)).map (unknownTargetError line.lineNumber)

/-- `BasicSemanticAnalyzer::analyze`. -/
def analyze (lines : List (BasicLine Double)) :
    Except (List BasicCompileError) (List (BasicLine Double)) :=
  let knownLines := lines.map BasicLine.lineNumber
  let errors := lines.flatMap (BasicLine.unknownTargets knownLines)
  if errors = [] then .ok lines else .error errors

/-- Every line that a program refers to is one of its lines. -/
def TargetsKnown (lines : List (BasicLine Double)) : Prop :=
  ∀ line ∈ lines, ∀ target ∈ line.statement.lineTargets,
    target ∈ lines.map BasicLine.lineNumber

/-- What the analyzer accepts, and that it changes nothing. -/
theorem analyze_eq_ok {lines normalized : List (BasicLine Double)} :
    analyze lines = .ok normalized ↔ TargetsKnown lines ∧ normalized = lines := by
  unfold analyze
  dsimp only
  split
  · next noErrors =>
      have known : TargetsKnown lines := by
        intro line member target refers
        have none := List.flatMap_eq_nil_iff.mp noErrors line member
        rw [BasicLine.unknownTargets, List.map_eq_nil_iff, List.filter_eq_nil_iff] at none
        simpa using none target refers
      rw [Except.ok.injEq]
      exact ⟨fun same => ⟨known, same.symm⟩, fun accepted => accepted.2.symm⟩
  · next errors =>
      constructor
      · intro refused
        cases refused
      · rintro ⟨known, -⟩
        refine absurd (List.flatMap_eq_nil_iff.mpr fun line member => ?_) errors
        rw [BasicLine.unknownTargets, List.map_eq_nil_iff, List.filter_eq_nil_iff]
        intro target refers
        simpa using known line member target refers

end Gemini.Basic
