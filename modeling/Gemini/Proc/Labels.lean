import Gemini.Proc.ProcInterpreter

/-!
# Labels of a script

A label is a line of one word that ends with a colon. The label pass, `buildLoopPairs` and the main
loop look at the last character only, so that a statement that ends with a colon is a label for all
three and is never executed. In a script without such a statement the three agree with the labels.
-/

namespace Gemini.Proc

/-- A line of one word that ends with a colon. -/
def IsLabel (line : List Char) : Prop := (tokenize line).length = 1 ∧ line.getLast? = some ':'

/-! ## The three passes -/

/-- The label pass does not go on as if the line were not there. -/
def TakenByLabels (line : List Char) : Prop :=
  ∃ number rest labels, labelsFrom number (line :: rest) labels ≠ labelsFrom (number + 1) rest labels

/-- `buildLoopPairs` goes on as if the line were not there. -/
def PassedByLoops (line : List Char) : Prop :=
  ∀ number rest loopStack script, loopPairsFrom number (line :: rest) loopStack script =
    loopPairsFrom (number + 1) rest loopStack script

/-- The main loop goes on behind the line. -/
def PassedByRun (line : List Char) : Prop :=
  ∀ (script : Script) (sessionAt : SessionAt) (state : ProcState),
    script.lines[state.pc]? = some line → turn script sessionAt state = .goesOn "" state.nextLine

/-- The main loop executes the line. -/
def ExecutedByRun (line : List Char) : Prop :=
  ∀ (script : Script) (sessionAt : SessionAt) (state : ProcState),
    script.lines[state.pc]? = some line →
      turn script sessionAt state = execStatement script sessionAt state.syncLoopFramesForPc
        (tokenize line).length false (tokenize line)

/-- The line opens or closes a loop if it is a statement. -/
def IsLoopStatement (line : List Char) : Prop :=
  parseStatement (tokenize line) = .loop ∨ parseStatement (tokenize line) = .repeat_

variable {line : List Char}

/-- A line is a label exactly when it ends with a colon. -/
theorem takenByLabels_iff : TakenByLabels line ↔ isLabelLine line = true := by
  constructor
  · rintro ⟨number, rest, labels, differs⟩
    by_contra other
    rw [labelsFrom, if_neg other] at differs
    exact differs rfl
  · intro isLabel
    refine ⟨0, [], ∅, fun same => ?_⟩
    simp only [labelsFrom, isLabel, if_true] at same
    split at same
    · cases same
    · rw [if_neg (AList.notMem_empty _)] at same
      have names := congrArg AList.keys (Except.ok.inj same)
      rw [AList.keys_insert] at names
      cases names

/-- The lines that the pairing of loops passes over. -/
theorem passedByLoops_iff :
    PassedByLoops line ↔ line = [] ∨ isLabelLine line = true ∨ ¬ IsLoopStatement line := by
  constructor
  · intro passed
    by_contra statement
    obtain ⟨some, statement⟩ := not_or.mp statement
    obtain ⟨noLabel, isLoop⟩ := not_or.mp statement
    have same := passed 0 [] [] { lines := [] }
    rcases not_not.mp isLoop with isLoop | isRepeat
    · simp [loopPairsFrom, some, noLabel, isLoop] at same
    · simp [loopPairsFrom, some, noLabel, isRepeat] at same
  · intro passed number rest loopStack script
    conv_lhs => unfold loopPairsFrom
    by_cases skipped : line = [] ∨ isLabelLine line = true
    · rw [if_pos skipped]
    · have other : ¬ IsLoopStatement line :=
        (or_assoc.mpr passed).resolve_left skipped
      obtain ⟨noLoop, noRepeat⟩ := not_or.mp other
      rw [if_neg skipped]
      cases statement : parseStatement (tokenize line) <;>
        first | exact absurd statement noLoop | exact absurd statement noRepeat | rfl

/-- The main loop passes over a label. -/
theorem passedByRun_of_label (isLabel : isLabelLine line = true) : PassedByRun line := by
  intro script sessionAt state isLine
  unfold turn
  rw [isLine]
  exact if_pos (.inr isLabel)

/-- It executes every line that is neither empty nor a label. -/
theorem executedByRun_of_statement (some : line ≠ []) (noLabel : ¬ isLabelLine line = true) :
    ExecutedByRun line := by
  intro script sessionAt state isLine
  unfold turn
  rw [isLine]
  exact if_neg (not_or.mpr ⟨some, noLabel⟩)

/-! ## Scripts -/

/-- The labels of a script are those of its lines of one word that end with a colon, for each of
the passes, and every other line that is not blank is executed when control reaches it. -/
structure ReadsLabels (lines : List (List Char)) : Prop where
  labels : ∀ line ∈ lines, TakenByLabels line ↔ IsLabel line
  loops : ∀ line ∈ lines, PassedByLoops line ↔ line = [] ∨ IsLabel line ∨ ¬ IsLoopStatement line
  labelLines : ∀ line ∈ lines, IsLabel line → PassedByRun line
  statements : ∀ line ∈ lines, line ≠ [] → ¬ IsLabel line → ExecutedByRun line

/-- The passes read the labels exactly when no statement ends with a colon. -/
theorem readsLabels_iff (lines : List (List Char)) :
    ReadsLabels (lines.map trim) ↔
      ∀ line ∈ lines.map trim, line.getLast? = some ':' → (tokenize line).length = 1 := by
  constructor
  · intro reads line member ends
    exact ((reads.labels line member).mp (takenByLabels_iff.mpr (decide_eq_true ends))).1
  · intro singles
    have same : ∀ line ∈ lines.map trim, isLabelLine line = true ↔ IsLabel line := by
      intro line member
      constructor
      · intro isLabel
        have ends := of_decide_eq_true isLabel
        exact ⟨singles line member ends, ends⟩
      · intro isLabel
        exact decide_eq_true isLabel.2
    constructor
    · intro line member
      rw [takenByLabels_iff, same line member]
    · intro line member
      rw [passedByLoops_iff, same line member]
    · intro line member isLabel
      exact passedByRun_of_label ((same line member).mpr isLabel)
    · intro line member some noLabel
      exact executedByRun_of_statement some fun isLabel => noLabel ((same line member).mp isLabel)

/-- A statement that ends with a colon is a label, and nothing is displayed. -/
theorem display_name_is_label :
    tokenize "DISPLAY Name:".toList = ["DISPLAY", "Name:"] ∧
      TakenByLabels "DISPLAY Name:".toList ∧ PassedByRun "DISPLAY Name:".toList ∧
      ¬ ReadsLabels (["DISPLAY Name:".toList].map trim) := by
  have isLabel : isLabelLine "DISPLAY Name:".toList = true := rfl
  have words : tokenize "DISPLAY Name:".toList = ["DISPLAY", "Name:"] := by decide +kernel
  refine ⟨words, takenByLabels_iff.mpr isLabel, passedByRun_of_label isLabel, fun reads => ?_⟩
  have single := ((reads.labels _ (List.mem_singleton.mpr rfl)).mp (takenByLabels_iff.mpr isLabel)).1
  revert single
  decide +kernel

end Gemini.Proc
