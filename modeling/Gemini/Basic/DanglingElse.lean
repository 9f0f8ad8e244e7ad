import Gemini.Basic.ExpressionText
import Gemini.Basic.StatementParser

/-!
# Nested `IF`

A tree of inline `IF` statements is rendered in order, so that the tree says which `IF` an `ELSE`
belongs to. The parser cuts the text after `THEN` at the first `ELSE` it finds, before it looks at
the arm, so every `ELSE` goes to the outermost `IF` that is still without one.
-/

namespace Gemini.Basic

open Gemini.VM (Doubles isSpace isBlank trim isSpace_of_isBlank trim_blank_left trim_blank_right
  trim_of_bare trim_trim)
open Gemini.Data

variable {Double : Type}

/-- Nested `IF` statements with the texts of their conditions and of their other arms. -/
inductive IfTree where
  | leaf (text : List Char)
  | ifThen (condition : List Char) (thenArm : IfTree)
  | ifThenElse (condition : List Char) (thenArm elseArm : IfTree)

namespace IfTree

/-- A condition and what follows `THEN`. -/
def branchText (condition branchPart : List Char) : List Char :=
  ['I', 'F'] ++ (' ' :: condition ++ (' ' :: (['T', 'H', 'E', 'N'] ++ ' ' :: branchPart)))

/-- An arm, and what follows `ELSE`. -/
def elseText (thenRaw elseRaw : List Char) : List Char :=
  thenRaw ++ (' ' :: (['E', 'L', 'S', 'E'] ++ ' ' :: elseRaw))

/-- The text of the tree, with single blanks between its parts. -/
def render : IfTree → List Char
  | .leaf text => text
  | .ifThen condition thenArm => branchText condition thenArm.render
  | .ifThenElse condition thenArm elseArm =>
      branchText condition (elseText thenArm.render elseArm.render)

/-- No `IF` at the end of the text is without an `ELSE`. -/
def Closed : IfTree → Prop
  | .leaf _ => True
  | .ifThen _ _ => False
  | .ifThenElse _ _ elseArm => elseArm.Closed

/-- Every `IF` in a `THEN` arm that an `ELSE` follows has its own `ELSE`. -/
def Matched : IfTree → Prop
  | .leaf _ => True
  | .ifThen _ thenArm => thenArm.Matched
  | .ifThenElse _ thenArm elseArm => thenArm.Closed ∧ thenArm.Matched ∧ elseArm.Matched

/-- A text with no blanks around it, on one line. -/
structure Piece (text : List Char) : Prop where
  some : text ≠ []
  bare : Bare isBlank text
  oneLine : '\n' ∉ text

/-- The texts of the tree. -/
def Clean : IfTree → Prop
  | .leaf text => Piece text
  | .ifThen condition thenArm => Piece condition ∧ thenArm.Clean
  | .ifThenElse condition thenArm elseArm => Piece condition ∧ thenArm.Clean ∧ elseArm.Clean

/-- No condition has the word `THEN` in it and no other arm the word `ELSE`. -/
def Plain : IfTree → Prop
  | .leaf text => findKeywordToken text "ELSE" = none
  | .ifThen condition thenArm => findKeywordToken condition "THEN" = none ∧ thenArm.Plain
  | .ifThenElse condition thenArm elseArm =>
      findKeywordToken condition "THEN" = none ∧ thenArm.Plain ∧ elseArm.Plain

/-- An `IF` as an arm is one statement. -/
def OneStatement : IfTree → Prop
  | .leaf _ => True
  | tree => ':' ∉ tree.render

/-- The first `THEN` and the first `ELSE` are those of the tree: no condition has the word `THEN` in
it, and no `THEN` arm the word `ELSE`. -/
def Found : IfTree → Prop
  | .leaf _ => True
  | .ifThen condition thenArm =>
      findKeywordToken condition "THEN" = none ∧ findKeywordToken thenArm.render "ELSE" = none ∧
        thenArm.OneStatement ∧ thenArm.Found
  | .ifThenElse condition thenArm elseArm =>
      findKeywordToken condition "THEN" = none ∧ findKeywordToken thenArm.render "ELSE" = none ∧
        thenArm.OneStatement ∧ elseArm.OneStatement ∧ thenArm.Found ∧ elseArm.Found

end IfTree

/-- What a tree stands for. -/
inductive Means [Doubles Double] : IfTree → BranchArm Double → Prop
  | leaf {text : List Char} {arm : BranchArm Double}
      (parsed : ∀ context, parseBranchArmSpec parseLine context text = .ok arm) :
      Means (.leaf text) arm
  | ifThen {text : List Char} {condition : Expr Double} {tree : IfTree} {thenArm : BranchArm Double}
      (parsed : parseExpression (String.ofList text) = .ok condition) (arm : Means tree thenArm) :
      Means (.ifThen text tree) (.inline (.ifStmt condition thenArm none))
  | ifThenElse {text : List Char} {condition : Expr Double} {tree other : IfTree}
      {thenArm elseArm : BranchArm Double}
      (parsed : parseExpression (String.ofList text) = .ok condition) (arm : Means tree thenArm)
      (otherArm : Means other elseArm) :
      Means (.ifThenElse text tree other) (.inline (.ifStmt condition thenArm (some elseArm)))

/-! ## Texts -/

namespace IfTree

/-- A piece with a word in front of it. -/
theorem Piece.append {front text : List Char} (isPiece : Piece text) (some : front ≠ [])
    (starts : ∀ c ∈ front.head?, isBlank c = false) (oneLine : '\n' ∉ front) :
    Piece (front ++ text) where
  some := by simp [isPiece.some]
  bare := by
    constructor
    · intro c first
      rw [List.head?_append_of_ne_nil front some] at first
      exact starts c first
    · intro c last
      rw [List.getLast?_append_of_ne_nil front isPiece.some] at last
      exact isPiece.bare.ends c last
  oneLine := by simp [oneLine, isPiece.oneLine]

/-- An `IF` of pieces is a piece. -/
theorem Piece.branchText {condition branchPart : List Char} (isCondition : Piece condition)
    (isBranch : Piece branchPart) : Piece (IfTree.branchText condition branchPart) := by
  have split : IfTree.branchText condition branchPart =
      (['I', 'F', ' '] ++ condition ++ [' ', 'T', 'H', 'E', 'N', ' ']) ++ branchPart := by
    simp [IfTree.branchText]
  rw [split]
  refine isBranch.append (by simp) ?_ ?_
  · intro c first
    cases first
    rfl
  · simp [isCondition.oneLine]

/-- Two arms that are pieces make a piece. -/
theorem Piece.elseText {thenRaw elseRaw : List Char} (isThen : Piece thenRaw)
    (isElse : Piece elseRaw) : Piece (IfTree.elseText thenRaw elseRaw) := by
  have split : IfTree.elseText thenRaw elseRaw =
      (thenRaw ++ [' ', 'E', 'L', 'S', 'E', ' ']) ++ elseRaw := by
    simp [IfTree.elseText]
  rw [split]
  refine isElse.append (by simp) ?_ ?_
  · intro c first
    rw [List.head?_append_of_ne_nil thenRaw isThen.some] at first
    exact isThen.bare.starts c first
  · simp [isThen.oneLine]

/-- The text of a clean tree is a piece. -/
theorem Clean.piece {tree : IfTree} (clean : tree.Clean) : Piece tree.render := by
  induction tree with
  | leaf text => exact clean
  | ifThen condition thenArm inductionHypothesis =>
      exact clean.1.branchText (inductionHypothesis clean.2)
  | ifThenElse condition thenArm elseArm thenHypothesis elseHypothesis =>
      exact clean.1.branchText ((thenHypothesis clean.2.1).elseText (elseHypothesis clean.2.2))

end IfTree

/-- The keyword after a blank that a text without it ends with. -/
theorem findKeywordToken_word {keyword : String} (isKeyword : IsKeyword keyword)
    {front word rest : List Char} (free : findKeywordToken front keyword = none)
    (isWord : word.map Char.toUpper = keyword.toList) (gap : atGap isSpace rest = true) :
    findKeywordToken (front ++ (' ' :: (word ++ rest))) keyword = some (front ++ [' '], rest) := by
  have letters : ∀ c, c.toUpper ∈ keyword.toList → isSpace c = false :=
    fun _ member => isSpace_of_toUpper (isKeyword.2 _ member)
  have blank : isSpace ' ' = true := rfl
  have freeBlank := cutKeyword_blank letters isKeyword.1 blank free
  have ends : EndsAtGap isSpace true (front ++ [' ']) := by simpa [EndsAtGap] using blank
  have found := cutKeyword_word letters isKeyword.1 freeBlank ends isWord gap
  simpa [findKeywordToken] using found

section Parsing

open IfTree

/-- The first word of an `IF` is `IF`, and the rest is its condition and its arms. -/
theorem restOfLine_branchText {condition branchPart : List Char} (isCondition : Piece condition)
    (isBranch : Piece branchPart) :
    upperWord (nextWord (branchText condition branchPart)).1 = "IF" ∧
      restOfLine (branchText condition branchPart) =
        condition ++ (' ' :: (['T', 'H', 'E', 'N'] ++ ' ' :: branchPart)) := by
  have letters : ∀ c ∈ ['I', 'F'], isSpace c = false := by simp [isSpace]
  have some : ['I', 'F'] ≠ [] := List.cons_ne_nil _ _
  have gap : atGap isSpace
      (' ' :: condition ++ (' ' :: (['T', 'H', 'E', 'N'] ++ ' ' :: branchPart))) = true := rfl
  have isRest : Piece (condition ++ (' ' :: (['T', 'H', 'E', 'N'] ++ ' ' :: branchPart))) := by
    have split : condition ++ (' ' :: (['T', 'H', 'E', 'N'] ++ ' ' :: branchPart)) =
        (condition ++ [' ', 'T', 'H', 'E', 'N', ' ']) ++ branchPart := by simp
    rw [split]
    refine isBranch.append (by simp) ?_ (by simp [isCondition.oneLine])
    intro c first
    rw [List.head?_append_of_ne_nil condition isCondition.some] at first
    exact isCondition.bare.starts c first
  have word := @nextWord_append [] ['I', 'F'] _ (List.forall_mem_nil _) letters some gap
  refine ⟨?_, ?_⟩
  · rw [branchText, ← List.nil_append (['I', 'F'] ++ _), word]
    exact upperWord_eq_iff.mpr rfl
  · rw [branchText, restOfLine_append letters some gap (by simpa using isRest.oneLine)]
    exact trim_blank_left isRest.bare

theorem ok_bind {First Second : Type} (value : First) (next : First → Except String Second) :
    (Except.ok value >>= next) = next value := rfl

/-- A check that passes lets the code go on. -/
theorem check_of_passes {passes : Bool} (isTrue : passes = true) (message : String) :
    check passes message = .ok () := by
  rw [check, if_pos isTrue]

/-- Without an `ELSE` of its own, a `THEN` arm is cut off at the `ELSE` behind it. -/
theorem parseArms_elseText {arm : ArmParser Double} {thenRaw elseRaw : List Char}
    (isThen : Piece thenRaw) (isElse : Piece elseRaw)
    (free : findKeywordToken thenRaw "ELSE" = none) :
    parseArms arm (elseText thenRaw elseRaw) = do
      let thenArm ← arm "IF THEN" thenRaw
      let elseArm ← arm "IF ELSE" elseRaw
      return (thenArm, some elseArm) := by
  have found := @findKeywordToken_word "ELSE" (by decide) thenRaw ['E', 'L', 'S', 'E']
    (' ' :: elseRaw) free rfl rfl
  simp only [parseArms, elseText, found, trim_blank_left isElse.bare, trim_blank_right isThen.bare]

/-- Without an `ELSE` in it, the text after `THEN` is one arm. -/
theorem parseArms_of_free {arm : ArmParser Double} {thenRaw : List Char} (isThen : Piece thenRaw)
    (free : findKeywordToken thenRaw "ELSE" = none) :
    parseArms arm thenRaw = do return (← arm "IF THEN" thenRaw, none) := by
  simp only [parseArms, free, trim_of_bare isThen.bare]

theorem isEmpty_of_some {text : List Char} (some : text ≠ []) : (!text.isEmpty) = true := by
  simpa using some

/-- An `IF` is no line number. -/
theorem parseLineNumber_branchText (condition branchPart : List Char) :
    parseLineNumber (branchText condition branchPart) = none := by
  rw [parseLineNumber, if_pos]
  simp [branchText]

variable {statement : List Char → Except String (Stmt Double)}

/-- An `IF` as an arm. -/
theorem parseBranchArmSpec_branchText {condition branchPart : List Char}
    (isCondition : Piece condition) (isBranch : Piece branchPart) (context : String) :
    parseBranchArmSpec statement context (branchText condition branchPart) = do
      check (!(branchText condition branchPart).contains ':')
        (context ++ " supports exactly one statement")
      return .inline (← statement (branchText condition branchPart)) := by
  have isPiece := isCondition.branchText isBranch
  obtain ⟨isIf, -⟩ := restOfLine_branchText isCondition isBranch
  have notNumber : parsePositiveLineNumber (branchText condition branchPart) = none := by
    rw [parsePositiveLineNumber, trim_of_bare isPiece.bare, parseLineNumber_branchText]
  have notLoop : (!(decide ("IF" = "FOR") || decide ("IF" = "NEXT"))) = true := by decide
  simp only [parseBranchArmSpec, trim_of_bare isPiece.bare, notNumber, isIf, ok_bind,
    check_of_passes (isEmpty_of_some isPiece.some), check_of_passes notLoop]

variable [Doubles Double]

/-- An expression of a statement is what the expression parser makes of its text. -/
theorem expressionIn_eq_ok {context : String} {raw : List Char} {expression : Expr Double} :
    expressionIn context raw = .ok expression ↔
      parseExpression (String.ofList raw) = .ok expression := by
  unfold expressionIn
  cases (parseExpression (String.ofList raw) : Except String (Expr Double)) with
  | error message => exact iff_of_false nofun nofun
  | ok found => exact ⟨fun | rfl => rfl, fun | rfl => rfl⟩

/-- An `IF` whose condition has no `THEN` in it is cut at its own `THEN`. -/
theorem parseWith_branchText {arm : ArmParser Double} {condition branchPart : List Char}
    (isCondition : Piece condition) (isBranch : Piece branchPart)
    (free : findKeywordToken condition "THEN" = none) :
    parseWith arm (branchText condition branchPart) = do
      let (thenArm, elseArm) ← parseArms arm branchPart
      let parsed ← expressionIn "IF condition error: " condition
      return .ifStmt parsed thenArm elseArm := by
  obtain ⟨isIf, isRest⟩ := restOfLine_branchText isCondition isBranch
  have found := @findKeywordToken_word "THEN" (by decide) condition ['T', 'H', 'E', 'N']
    (' ' :: branchPart) free rfl rfl
  have someRest : (!(condition ++ (' ' :: (['T', 'H', 'E', 'N'] ++ ' ' :: branchPart))).isEmpty) =
      true := by simp
  have someCondition : (!condition.isEmpty) = true := by simpa using isCondition.some
  have someBranch : (!branchPart.isEmpty) = true := by simpa using isBranch.some
  simp only [parseWith, isIf, isRest, parseIf, check_of_passes someRest, found, cutOr, ok_bind,
    trim_blank_left isBranch.bare, trim_blank_right isCondition.bare,
    check_of_passes someCondition, check_of_passes someBranch]

/-- An `IF` without an `ELSE`. -/
theorem parseLine_ifThen {condition thenRaw : List Char} {parsed : Expr Double}
    {thenArm : BranchArm Double} (isCondition : Piece condition) (isThen : Piece thenRaw)
    (freeThen : findKeywordToken condition "THEN" = none)
    (freeElse : findKeywordToken thenRaw "ELSE" = none) :
    (parseBranchArmSpec parseLine "IF THEN" thenRaw = .ok thenArm ∧
      parseExpression (String.ofList condition) = .ok parsed) ↔
    parseLine (branchText condition thenRaw) = .ok (.ifStmt parsed thenArm none) := by
  rw [parseLine_eq, parseWith_branchText isCondition isThen freeThen,
    parseArms_of_free isThen freeElse]
  constructor
  · rintro ⟨isArm, isParsed⟩
    rw [isArm, ok_bind]
    exact bind_eq_ok.mpr ⟨_, rfl, bind_eq_ok.mpr ⟨parsed, expressionIn_eq_ok.mpr isParsed, rfl⟩⟩
  · intro done
    obtain ⟨⟨foundThen, foundElse⟩, arms, done⟩ := bind_eq_ok.mp done
    obtain ⟨expression, isExpression, isResult⟩ := bind_eq_ok.mp done
    obtain ⟨isThen, isArm, isPair⟩ := bind_eq_ok.mp arms
    cases isPair
    cases isResult
    exact ⟨isArm, expressionIn_eq_ok.mp isExpression⟩

/-- An `IF` with an `ELSE`. -/
theorem parseLine_ifThenElse {condition thenRaw elseRaw : List Char} {parsed : Expr Double}
    {thenArm elseArm : BranchArm Double} (isCondition : Piece condition) (isThen : Piece thenRaw)
    (isElse : Piece elseRaw) (freeThen : findKeywordToken condition "THEN" = none)
    (freeElse : findKeywordToken thenRaw "ELSE" = none) :
    (parseBranchArmSpec parseLine "IF THEN" thenRaw = .ok thenArm ∧
      parseBranchArmSpec parseLine "IF ELSE" elseRaw = .ok elseArm ∧
      parseExpression (String.ofList condition) = .ok parsed) ↔
    parseLine (branchText condition (elseText thenRaw elseRaw)) =
      .ok (.ifStmt parsed thenArm (some elseArm)) := by
  rw [parseLine_eq, parseWith_branchText isCondition (isThen.elseText isElse) freeThen,
    parseArms_elseText isThen isElse freeElse]
  constructor
  · rintro ⟨isArm, isOther, isParsed⟩
    rw [isArm, isOther, ok_bind]
    exact bind_eq_ok.mpr ⟨_, rfl, bind_eq_ok.mpr ⟨parsed, expressionIn_eq_ok.mpr isParsed, rfl⟩⟩
  · intro done
    obtain ⟨⟨foundThen, foundElse⟩, arms, done⟩ := bind_eq_ok.mp done
    obtain ⟨expression, isExpression, isResult⟩ := bind_eq_ok.mp done
    obtain ⟨first, isArm, arms⟩ := bind_eq_ok.mp arms
    obtain ⟨second, isOther, isPair⟩ := bind_eq_ok.mp arms
    cases isPair
    cases isResult
    exact ⟨isArm, isOther, expressionIn_eq_ok.mp isExpression⟩

omit [Doubles Double] in
/-- An inline arm is the statement of its text. -/
theorem parseBranchArmSpec_inline {context : String} {raw : List Char} {parsed : Stmt Double}
    (done : parseBranchArmSpec statement context raw = .ok (.inline parsed)) :
    statement (trim raw) = .ok parsed := by
  unfold parseBranchArmSpec at done
  obtain ⟨_, _, done⟩ := bind_eq_ok.mp done
  split at done
  · cases done
  · obtain ⟨_, _, done⟩ := bind_eq_ok.mp done
    obtain ⟨_, _, done⟩ := bind_eq_ok.mp done
    obtain ⟨found, isFound, isResult⟩ := bind_eq_ok.mp done
    cases isResult
    exact isFound

/-! ## Where the first words are those of the tree -/

/-- A tree is parsed as it stands when the first words are its own. -/
theorem Means.parses {tree : IfTree} {arm : BranchArm Double} (means : Means tree arm)
    (clean : tree.Clean) (found : tree.Found) :
    (∀ parsed, arm = .inline parsed → parseLine tree.render = .ok parsed) ∧
      (tree.OneStatement → ∀ context,
        parseBranchArmSpec parseLine context tree.render = .ok arm) := by
  induction means with
  | @leaf text arm parsed =>
      refine ⟨?_, fun _ => parsed⟩
      rintro statement rfl
      have line := parseBranchArmSpec_inline (parsed "")
      rwa [trim_of_bare clean.bare] at line
  | @ifThen text condition tree thenArm parsed _ inductionHypothesis =>
      obtain ⟨isCondition, cleanThen⟩ := clean
      obtain ⟨freeThen, freeElse, oneThen, foundThen⟩ := found
      have isThen := cleanThen.piece
      have thenParsed := (inductionHypothesis cleanThen foundThen).2 oneThen "IF THEN"
      have line := (parseLine_ifThen isCondition isThen freeThen freeElse).mp ⟨thenParsed, parsed⟩
      refine ⟨?_, fun one context => ?_⟩
      · rintro _ ⟨⟩
        exact line
      · have notColon : ':' ∉ branchText text tree.render := one
        rw [render, parseBranchArmSpec_branchText isCondition isThen, line,
          check_of_passes (by simpa using notColon)]
        rfl
  | @ifThenElse text condition tree other thenArm elseArm parsed _ _ thenHypothesis
      elseHypothesis =>
      obtain ⟨isCondition, cleanThen, cleanElse⟩ := clean
      obtain ⟨freeThen, freeElse, oneThen, oneElse, foundThen, foundElse⟩ := found
      have isThen := cleanThen.piece
      have isElse := cleanElse.piece
      have thenParsed := (thenHypothesis cleanThen foundThen).2 oneThen "IF THEN"
      have elseParsed := (elseHypothesis cleanElse foundElse).2 oneElse "IF ELSE"
      have line := (parseLine_ifThenElse isCondition isThen isElse freeThen freeElse).mp
        ⟨thenParsed, elseParsed, parsed⟩
      refine ⟨?_, fun one context => ?_⟩
      · rintro _ ⟨⟩
        exact line
      · have notColon : ':' ∉ branchText text (elseText tree.render other.render) := one
        rw [render, parseBranchArmSpec_branchText isCondition (isThen.elseText isElse), line,
          check_of_passes (by simpa using notColon)]
        rfl

/-! ## Where an `ELSE` is found too early -/

section Free

variable {keyword : String} (isKeyword : IsKeyword keyword)
include isKeyword

omit [Doubles Double] in
/-- A text without a keyword has none when it is trimmed. -/
theorem free_trim {text : List Char} (free : findKeywordToken text keyword = none) :
    findKeywordToken (trim text) keyword = none :=
  cutKeyword_stripped (fun _ member => isSpace_of_toUpper (isKeyword.2 _ member)) isKeyword.1
    (fun _ blank => isSpace_of_isBlank blank) free

omit [Doubles Double] in
/-- What stands behind a gap of such a text has no keyword. -/
theorem free_after {front back : List Char}
    (free : findKeywordToken (front ++ back) keyword = none) (gap : atGap isSpace back = true) :
    findKeywordToken back keyword = none :=
  cutKeyword_of_gap (fun _ member => isSpace_of_toUpper (isKeyword.2 _ member)) isKeyword.1 free gap

omit [Doubles Double] in
/-- What stands before a gap of such a text has no keyword. -/
theorem free_before {front back : List Char}
    (free : findKeywordToken (front ++ back) keyword = none) (gap : atGap isSpace back = true) :
    findKeywordToken front keyword = none :=
  cutKeyword_before_gap (fun _ member => isSpace_of_toUpper (isKeyword.2 _ member)) isKeyword.1
    free gap

omit [Doubles Double] in
/-- The rest of a line without a keyword has none. -/
theorem free_restOfLine {line : List Char} (free : findKeywordToken line keyword = none) :
    findKeywordToken (restOfLine line) keyword = none := by
  obtain ⟨gap, isLine, -, -, ends⟩ := nextWord_spec line
  rw [isLine, ← List.append_assoc] at free
  have after := free_after isKeyword free ends
  have scans := scans_self (· ≠ '\n') (nextWord line).2
  rw [scans.cut] at after
  refine free_trim isKeyword (free_before isKeyword after ?_)
  rw [atGap, Option.all_eq_true]
  intro c first
  have isNewline := scans.stops c first
  simp only [decide_eq_false_iff_not, not_not] at isNewline
  subst isNewline
  rfl

end Free

/-- An `IF` without the word `ELSE` has no such arm. -/
theorem noElse_of_free {line : List Char} {condition : Expr Double} {thenArm : BranchArm Double}
    {elseArm : Option (BranchArm Double)} (isIf : upperWord (nextWord line).1 = "IF")
    (free : findKeywordToken line "ELSE" = none)
    (done : parseLine line = .ok (.ifStmt condition thenArm elseArm)) : elseArm = none := by
  have isElse : IsKeyword "ELSE" := by decide
  have freeRest := free_restOfLine isElse free
  rw [parseLine_eq] at done
  simp only [parseWith, isIf, parseIf] at done
  obtain ⟨_, _, done⟩ := bind_eq_ok.mp done
  obtain ⟨⟨conditionText, branchText⟩, isCut, done⟩ := bind_eq_ok.mp done
  have cut : findKeywordToken (restOfLine line) "THEN" = some (conditionText, branchText) := by
    rcases parts : findKeywordToken (restOfLine line) "THEN" with _ | parts
    · rw [parts] at isCut
      cases isCut
    · rw [parts] at isCut
      cases isCut
      rfl
  obtain ⟨word, isText, -, gap, -⟩ := (findKeywordToken_eq_some (by decide)).mp cut
  rw [isText, ← List.append_assoc] at freeRest
  have freeBranch := free_trim isElse (free_after isElse freeRest gap)
  obtain ⟨_, _, done⟩ := bind_eq_ok.mp done
  obtain ⟨_, _, done⟩ := bind_eq_ok.mp done
  obtain ⟨⟨foundThen, foundElse⟩, arms, done⟩ := bind_eq_ok.mp done
  obtain ⟨_, _, isResult⟩ := bind_eq_ok.mp done
  cases isResult
  simp only [parseArms, freeBranch] at arms
  obtain ⟨_, _, isPair⟩ := bind_eq_ok.mp arms
  cases isPair
  rfl

omit [Doubles Double] in
/-- What stands before the first `ELSE` of an `IF` is an `IF` too. -/
theorem isIf_before_else {condition branchPart before after : List Char}
    (found : findKeywordToken (branchText condition branchPart) "ELSE" = some (before, after)) :
    upperWord (nextWord (trim before)).1 = "IF" := by
  obtain ⟨word, isText, isWord, -⟩ := (findKeywordToken_eq_some (by decide)).mp found
  obtain ⟨first, letters, rfl⟩ := List.exists_cons_of_ne_nil
    (show word ≠ [] by rintro rfl; cases isWord)
  have isE : first.toUpper = 'E' := (List.cons.inj isWord).1
  -- the word `ELSE` does not start in `IF` or the blank after it
  obtain ⟨more, rfl⟩ : ∃ more, before = 'I' :: 'F' :: ' ' :: more := by
    rcases before with _ | ⟨c, _ | ⟨d, _ | ⟨e, more⟩⟩⟩
    · obtain ⟨rfl, -⟩ := List.cons.inj isText
      cases isE
    · obtain ⟨-, isText⟩ := List.cons.inj isText
      obtain ⟨rfl, -⟩ := List.cons.inj isText
      cases isE
    · obtain ⟨-, isText⟩ := List.cons.inj isText
      obtain ⟨-, isText⟩ := List.cons.inj isText
      obtain ⟨rfl, -⟩ := List.cons.inj isText
      cases isE
    · obtain ⟨isI, isTail⟩ := List.cons.inj isText
      obtain ⟨isF, isRest⟩ := List.cons.inj isTail
      obtain ⟨isGap, -⟩ := List.cons.inj isRest
      exact ⟨more, by rw [isI, isF, isGap]⟩
  have trimmed : trim ('I' :: 'F' :: ' ' :: more) =
      [] ++ (['I', 'F'] ++ (' ' :: more).rdropWhile isBlank) := by
    have notBlank : isBlank 'F' = false := rfl
    rw [trim, List.dropWhile_cons_of_neg (by decide)]
    exact rdropWhile_append_letter notBlank ['I'] (' ' :: more)
  have gap : atGap isSpace ((' ' :: more).rdropWhile isBlank) = true := by
    obtain ⟨rest, isRest⟩ := List.rdropWhile_prefix isBlank (l := ' ' :: more)
    rcases isShorter : (' ' :: more).rdropWhile isBlank with _ | ⟨c, shorter⟩
    · rfl
    · rw [isShorter] at isRest
      obtain ⟨rfl, -⟩ := List.cons.inj isRest
      rfl
  have notBlank : ∀ c ∈ ['I', 'F'], isSpace c = false := by simp [isSpace]
  rw [trimmed, nextWord_append (List.forall_mem_nil _) notBlank (List.cons_ne_nil _ _) gap]
  exact upperWord_eq_iff.mpr rfl

/-- An `ELSE` in the arm of an `IF` without one is taken for its own. -/
theorem free_of_ifThen {condition thenRaw : List Char} {parsed : Expr Double}
    {thenArm : BranchArm Double} (isCondition : Piece condition) (isThen : Piece thenRaw)
    (freeThen : findKeywordToken condition "THEN" = none)
    (done : parseLine (branchText condition thenRaw) = .ok (.ifStmt parsed thenArm none)) :
    findKeywordToken thenRaw "ELSE" = none := by
  rcases found : findKeywordToken thenRaw "ELSE" with _ | ⟨before, after⟩
  · rfl
  · exfalso
    rw [parseLine_eq, parseWith_branchText isCondition isThen freeThen] at done
    obtain ⟨⟨first, second⟩, arms, done⟩ := bind_eq_ok.mp done
    obtain ⟨_, _, isResult⟩ := bind_eq_ok.mp done
    cases isResult
    simp only [parseArms, found] at arms
    obtain ⟨_, _, arms⟩ := bind_eq_ok.mp arms
    obtain ⟨_, _, isPair⟩ := bind_eq_ok.mp arms
    cases isPair

/-- An `ELSE` in the arm of an `IF` with one is taken for its own. -/
theorem free_of_ifThenElse {condition otherCondition branchPart elseRaw : List Char}
    {parsed inner : Expr Double} {first second elseArm : BranchArm Double}
    (isCondition : Piece condition) (isThen : Piece (branchText otherCondition branchPart))
    (isElse : Piece elseRaw) (freeThen : findKeywordToken condition "THEN" = none)
    (done : parseLine (branchText condition
        (elseText (branchText otherCondition branchPart) elseRaw)) =
      .ok (.ifStmt parsed (.inline (.ifStmt inner first (some second))) (some elseArm))) :
    findKeywordToken (branchText otherCondition branchPart) "ELSE" = none := by
  rcases found : findKeywordToken (branchText otherCondition branchPart) "ELSE"
    with _ | ⟨before, after⟩
  · rfl
  · exfalso
    have isElseWord : IsKeyword "ELSE" := by decide
    have foundFirst : findKeywordToken (elseText (branchText otherCondition branchPart) elseRaw)
        "ELSE" = some (before, after ++ (' ' :: (['E', 'L', 'S', 'E'] ++ ' ' :: elseRaw))) :=
      cutKeyword_append (fun _ member => isSpace_of_toUpper (isElseWord.2 _ member))
        isElseWord.1 found rfl
    rw [parseLine_eq, parseWith_branchText isCondition (isThen.elseText isElse) freeThen] at done
    obtain ⟨⟨foundThen, foundElse⟩, arms, done⟩ := bind_eq_ok.mp done
    obtain ⟨_, _, isResult⟩ := bind_eq_ok.mp done
    cases isResult
    simp only [parseArms, foundFirst] at arms
    obtain ⟨_, isArm, arms⟩ := bind_eq_ok.mp arms
    obtain ⟨_, _, isPair⟩ := bind_eq_ok.mp arms
    cases isPair
    obtain ⟨_, _, _, _, _, freeBefore⟩ := (findKeywordToken_eq_some isElseWord).mp found
    have line := parseBranchArmSpec_inline isArm
    rw [trim_trim] at line
    cases noElse_of_free (isIf_before_else found) (free_trim isElseWord freeBefore) line

omit [Doubles Double] in
/-- An arm that is an `IF` is one statement. -/
theorem parseBranchArmSpec_branchText_inline {condition branchPart : List Char} {context : String}
    {parsed : Stmt Double} (isCondition : Piece condition) (isBranch : Piece branchPart)
    (done : parseBranchArmSpec statement context (branchText condition branchPart) =
      .ok (.inline parsed)) :
    ':' ∉ branchText condition branchPart ∧
      statement (branchText condition branchPart) = .ok parsed := by
  rw [parseBranchArmSpec_branchText isCondition isBranch] at done
  obtain ⟨_, isChecked, done⟩ := bind_eq_ok.mp done
  obtain ⟨_, isFound, isResult⟩ := bind_eq_ok.mp done
  cases isResult
  refine ⟨?_, isFound⟩
  unfold check at isChecked
  split at isChecked
  · next passes => simpa using passes
  · cases isChecked

/-- A tree that is parsed as it stands has the first words for its own. -/
theorem Means.found {tree : IfTree} {arm : BranchArm Double} (means : Means tree arm)
    (clean : tree.Clean) (plain : tree.Plain) (matched : tree.Matched) :
    (∀ parsed, arm = .inline parsed → parseLine tree.render = .ok parsed → tree.Found) ∧
      ∀ context, parseBranchArmSpec parseLine context tree.render = .ok arm →
        tree.Found ∧ tree.OneStatement := by
  induction means with
  | leaf parsed => exact ⟨fun _ _ _ => trivial, fun _ _ => ⟨trivial, trivial⟩⟩
  | @ifThen text condition tree thenArm parsed _ inductionHypothesis =>
      obtain ⟨isCondition, cleanThen⟩ := clean
      have isThen := cleanThen.piece
      have isFound : parseLine (branchText text tree.render) =
          .ok (.ifStmt condition thenArm none) → (IfTree.ifThen text tree).Found := by
        intro line
        have freeElse := free_of_ifThen isCondition isThen plain.1 line
        obtain ⟨armParsed, -⟩ := (parseLine_ifThen isCondition isThen plain.1 freeElse).mpr line
        obtain ⟨foundThen, oneThen⟩ :=
          (inductionHypothesis cleanThen plain.2 matched).2 "IF THEN" armParsed
        exact ⟨plain.1, freeElse, oneThen, foundThen⟩
      refine ⟨?_, fun context done => ?_⟩
      · rintro _ ⟨⟩
        exact isFound
      · obtain ⟨notColon, line⟩ :=
          parseBranchArmSpec_branchText_inline isCondition isThen done
        exact ⟨isFound line, notColon⟩
  | @ifThenElse text condition tree other thenArm elseArm parsed isArm _ thenHypothesis
      elseHypothesis =>
      obtain ⟨isCondition, cleanThen, cleanElse⟩ := clean
      obtain ⟨freeThen, plainThen, plainElse⟩ := plain
      obtain ⟨closed, matchedThen, matchedElse⟩ := matched
      have isThen := cleanThen.piece
      have isElse := cleanElse.piece
      have isFound : parseLine (branchText text (elseText tree.render other.render)) =
          .ok (.ifStmt condition thenArm (some elseArm)) →
          (IfTree.ifThenElse text tree other).Found := by
        intro line
        have freeElse : findKeywordToken tree.render "ELSE" = none := by
          cases isArm with
          | leaf _ => exact plainThen
          | ifThen _ _ => exact closed.elim
          | ifThenElse _ _ _ => exact free_of_ifThenElse isCondition isThen isElse freeThen line
        obtain ⟨thenParsed, elseParsed, -⟩ :=
          (parseLine_ifThenElse isCondition isThen isElse freeThen freeElse).mpr line
        obtain ⟨foundThen, oneThen⟩ :=
          (thenHypothesis cleanThen plainThen matchedThen).2 "IF THEN" thenParsed
        obtain ⟨foundElse, oneElse⟩ :=
          (elseHypothesis cleanElse plainElse matchedElse).2 "IF ELSE" elseParsed
        exact ⟨freeThen, freeElse, oneThen, oneElse, foundThen, foundElse⟩
      refine ⟨?_, fun context done => ?_⟩
      · rintro _ ⟨⟩
        exact isFound
      · obtain ⟨notColon, line⟩ := parseBranchArmSpec_branchText_inline isCondition
          (isThen.elseText isElse) done
        exact ⟨isFound line, notColon⟩

/-- A nested `IF` is parsed as it stands when no condition has the word `THEN` in it, no `THEN` arm
the word `ELSE` and no nested `IF` a colon; and when the texts do not have these words, no other
nested `IF` with every `ELSE` in its place is. -/
theorem parseLine_render_iff {tree : IfTree} {parsed : Stmt Double}
    (means : Means tree (.inline parsed)) (clean : tree.Clean) :
    (tree.Found → parseLine tree.render = .ok parsed) ∧
      (tree.Plain → tree.Matched → (parseLine tree.render = .ok parsed ↔ tree.Found)) := by
  have parses := fun found => (means.parses clean found).1 parsed rfl
  refine ⟨parses, fun plain matched => ⟨?_, parses⟩⟩
  exact (means.found clean plain matched).1 parsed rfl

omit [Doubles Double] in
/-- A positive number alone is an arm that goes to a line. -/
theorem parseBranchArmSpec_line {raw : List Char} {lineNumber : Int}
    (number : parsePositiveLineNumber (trim raw) = some lineNumber) (some : trim raw ≠ [])
    (context : String) :
    parseBranchArmSpec statement context raw = .ok (.line lineNumber) := by
  simp only [parseBranchArmSpec, check_of_passes (isEmpty_of_some some), number, ok_bind]

/-- A single letter is a variable. -/
theorem parseExpression_letter {c : Char} (letter : c.isAlpha = true) :
    (parseExpression (String.ofList [c]) : Except String (Expr Double)) =
      .ok (.identifier (String.ofList [c])) := by
  have renders : Renders implemented (.expr .comparison (.identifier (String.ofList [c])))
      [(⟨.identifier, [c]⟩ : ExprToken Double)] :=
    .comparison (Renders.identifier [c]).sum_of_primary
  have written : ∀ token ∈ [(⟨.identifier, [c]⟩ : ExprToken Double)], token.Written := by
    simpa using written_name (valid_letter letter)
  have tokens := tokenize_spacedText written renders.flagged renders.head
  exact parseExpression_eq_ok.mpr ⟨_, tokens, parseTokens_renders renders⟩

theorem piece_letter {c : Char} (letter : isBlank c = false) : Piece [c] where
  some := List.cons_ne_nil _ _
  bare := ⟨fun _ first => Option.some.inj first ▸ letter, fun _ last => Option.some.inj last ▸ letter⟩
  oneLine := by
    rintro member
    obtain rfl := List.mem_singleton.mp member
    cases letter

end Parsing

open IfTree

/-- `IF A THEN 1 ELSE IF B THEN 2`. -/
theorem elseIf_parsed :
    parseLine "IF A THEN 1 ELSE IF B THEN 2".toList =
      .ok (.ifStmt (.identifier "A" : Expr Int) (.line 1)
        (some (.inline (.ifStmt (.identifier "B") (.line 2) none)))) := by
  have means : Means (.ifThenElse ['A'] (.leaf ['1']) (.ifThen ['B'] (.leaf ['2'])))
      (.inline (.ifStmt (.identifier "A" : Expr Int) (.line 1)
        (some (.inline (.ifStmt (.identifier "B") (.line 2) none))))) :=
    .ifThenElse (parseExpression_letter rfl)
      (.leaf (parseBranchArmSpec_line (by decide) (by decide)))
      (.ifThen (parseExpression_letter rfl)
        (.leaf (parseBranchArmSpec_line (by decide) (by decide))))
  have clean : (IfTree.ifThenElse ['A'] (.leaf ['1']) (.ifThen ['B'] (.leaf ['2']))).Clean :=
    ⟨piece_letter rfl, piece_letter rfl, piece_letter rfl, piece_letter rfl⟩
  refine (parseLine_render_iff means clean).1 ⟨by decide, by decide, trivial, ?_, trivial, ?_⟩
  · show ':' ∉ branchText _ _
    decide
  · exact ⟨by decide, by decide, trivial, trivial⟩

/-- `IF A THEN IF B THEN 1 ELSE 2` gives the `ELSE` to the first `IF`. -/
theorem dangling_else_goes_out :
    ¬ ∀ (tree : IfTree) (parsed : Stmt Int), Means tree (.inline parsed) → tree.Clean →
      tree.Matched → parseLine tree.render = .ok parsed := by
  intro parses
  have means : Means (.ifThen ['A'] (.ifThenElse ['B'] (.leaf ['1']) (.leaf ['2'])))
      (.inline (.ifStmt (.identifier "A" : Expr Int)
        (.inline (.ifStmt (.identifier "B") (.line 1) (some (.line 2)))) none)) :=
    .ifThen (parseExpression_letter rfl) (.ifThenElse (parseExpression_letter rfl)
      (.leaf (parseBranchArmSpec_line (by decide) (by decide)))
      (.leaf (parseBranchArmSpec_line (by decide) (by decide))))
  have clean : (IfTree.ifThen ['A'] (.ifThenElse ['B'] (.leaf ['1']) (.leaf ['2']))).Clean :=
    ⟨piece_letter rfl, piece_letter rfl, piece_letter rfl, piece_letter rfl⟩
  have line := parses _ _ means clean ⟨trivial, trivial, trivial⟩
  have free := free_of_ifThen (piece_letter rfl) clean.2.piece (by decide) line
  have found : (findKeywordToken ("IF B THEN 1 ELSE 2".toList) "ELSE").isSome = true := by decide
  have same : (IfTree.ifThenElse ['B'] (.leaf ['1']) (.leaf ['2'])).render =
      "IF B THEN 1 ELSE 2".toList := rfl
  rw [same] at free
  rw [free] at found
  cases found

end Gemini.Basic
