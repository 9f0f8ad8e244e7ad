import Gemini.Basic.Compiler
import Gemini.Basic.DanglingElse
import Gemini.Basic.Relining
import Gemini.Basic.StoredPrograms

/-!
# Renumbering

`BasicProgram::renumber` gives the lines new numbers in their order and rewrites the jumps in their
texts. It looks at the words of a text alone: it rewrites a `GOTO` that is followed by one word, and
an `IF` whose arms are one word each. Every other text stays as it is, also where it refers to a
line.
-/

namespace Gemini.Basic

open Gemini.Data
open Gemini.VM (Doubles IsInt Instruction intMax isSpace isBlank trim trim_of_bare trim_blank_left
  trim_blank_right)

variable {Double : Type}

/-! ## Rewriting a text -/

/-- The first word that is a keyword. -/
def firstKeyword (keyword : String) (tokens : List (List Char)) : Option Nat :=
  tokens.findIdx? fun token => upperWord token = keyword

/-- The last word that is a keyword. -/
def lastKeyword (keyword : String) (tokens : List (List Char)) : Option Nat :=
  (tokens.reverse.findIdx? fun token => upperWord token = keyword).map fun position =>
    tokens.length - 1 - position

/-- Positions of words that are all numbers of lines. -/
def numbered (tokens : List (List Char)) (positions : List Nat) : List Nat :=
  if positions.all fun position => (parseLineNumber (tokens.getD position [])).isSome then positions
  else []

/-- The words after the first that `rewriteRenumberTargets` looks up. -/
def jumpPositions (op : List Char) (rest : List (List Char)) : List Nat :=
  if upperWord op = "GOTO" ∧ rest.length = 1 then numbered rest [0]
  else if upperWord op = "IF" then
    match firstKeyword "THEN" rest, lastKeyword "ELSE" rest with
    | none, _ => []
    | some thenPos, none =>
        if thenPos + 2 = rest.length then numbered rest [thenPos + 1] else []
    | some thenPos, some elsePos =>
        if elsePos = thenPos + 2 ∧ elsePos + 2 = rest.length then
          numbered rest [thenPos + 1, elsePos + 1]
        else []
  else []

/-- The old numbers of lines and the new ones. -/
abbrev LineMap := List (Int × Int)

/-- The new number of a word, if it is the number of a line. -/
def LineMap.target (lineMap : LineMap) (token : List Char) : Option Int :=
  (parseLineNumber token).bind fun number => lineMap.lookup number

/-- The new number of a word; a word that is no number of a line stays. -/
def LineMap.renumberToken (lineMap : LineMap) (token : List Char) : List Char :=
  match lineMap.target token with
  | none => token
  | some lineNumber => (toString lineNumber).toList

/-- `rewriteRenumberTargets`: a text without jumps to look up is kept as it is. -/
def rewriteRenumberTargets (lineMap : LineMap) (text : String) : String :=
  match tokenize text.toList with
  | [] => text
  | op :: rest =>
      match jumpPositions op rest with
      | [] => text
      | [position] =>
          match lineMap.target (rest.getD position []) with
          | none => text
          | some _ =>
              String.ofList (joinTokens (op :: rest.modify position lineMap.renumberToken))
      | positions =>
          String.ofList (joinTokens (op :: positions.foldl
            (fun tokens position => tokens.modify position lineMap.renumberToken) rest))

/-! ## Renumbering a program -/

/-- The numbers that `renumber` gives to lines. -/
def lineMapFrom (increment : Int) : Int → List (Int × String) → LineMap
  | _, [] => []
  | mapped, (oldLine, _) :: rest =>
      (oldLine, mapped) :: lineMapFrom increment (mapped + increment) rest

/-- The lines that `renumber` puts into the new map. -/
def renumberFrom (lineMap : LineMap) (increment : Int) :
    Int → List (Int × String) → List (Int × String)
  | _, [] => []
  | next, (_, text) :: rest =>
      (next, rewriteRenumberTargets lineMap text) ::
        renumberFrom lineMap increment (next + increment) rest

/-- `BasicProgram::renumber`; `RENUM` is `renumber 10 10`. -/
def renumber (first increment : Int) (program : BasicProgram) : BasicProgram :=
  OrderedMap.insertAll .empty
    (renumberFrom (lineMapFrom increment first program.entries) increment first program.entries)

/-- What becomes of a number of a line. -/
def LineMap.newNumber (lineMap : LineMap) (number : Int) : Int :=
  (lineMap.lookup number).getD number

/-! ## The jumps that are rewritten -/

/-- The words of a text whose jumps are rewritten. -/
inductive JumpWords where
  | goto (op target : List Char)
  | ifThen (op : List Char) (condition : List (List Char)) (thenWord target : List Char)
  | ifElse (op : List Char) (condition : List (List Char))
      (thenWord target elseWord other : List Char)

namespace JumpWords

/-- The first word of a jump. -/
def op : JumpWords → List Char
  | .goto op _ => op
  | .ifThen op _ _ _ => op
  | .ifElse op _ _ _ _ _ => op

/-- The words behind the first one. -/
def rest : JumpWords → List (List Char)
  | .goto _ target => [target]
  | .ifThen _ condition thenWord target => condition ++ [thenWord, target]
  | .ifElse _ condition thenWord target elseWord other =>
      condition ++ [thenWord, target, elseWord, other]

/-- A change of the targets alone. -/
def map (change : List Char → List Char) : JumpWords → JumpWords
  | .goto op target => .goto op (change target)
  | .ifThen op condition thenWord target => .ifThen op condition thenWord (change target)
  | .ifElse op condition thenWord target elseWord other =>
      .ifElse op condition thenWord (change target) elseWord (change other)

/-- The keywords are where they should be, and the targets are numbers. -/
def Proper : JumpWords → Prop
  | .goto op target => upperWord op = "GOTO" ∧ (parseLineNumber target).isSome
  | .ifThen op condition thenWord target =>
      upperWord op = "IF" ∧ upperWord thenWord = "THEN" ∧
        (∀ word ∈ condition, upperWord word ≠ "THEN") ∧ (parseLineNumber target).isSome
  | .ifElse op condition thenWord target elseWord other =>
      upperWord op = "IF" ∧ upperWord thenWord = "THEN" ∧ upperWord elseWord = "ELSE" ∧
        (∀ word ∈ condition, upperWord word ≠ "THEN") ∧ (parseLineNumber target).isSome ∧
          (parseLineNumber other).isSome

end JumpWords

/-- The first keyword has no keyword before it. -/
theorem firstKeyword_eq_some {keyword : String} {tokens : List (List Char)} {position : Nat}
    (found : firstKeyword keyword tokens = some position) :
    ∃ before word after, tokens = before ++ word :: after ∧ before.length = position ∧
      upperWord word = keyword ∧ ∀ other ∈ before, upperWord other ≠ keyword := by
  obtain ⟨within, isWord, earlier⟩ := List.findIdx?_eq_some_iff_getElem.mp found
  refine ⟨tokens.take position, tokens[position], tokens.drop (position + 1), ?_, ?_, ?_, ?_⟩
  · rw [List.getElem_cons_drop, List.take_append_drop]
  · rw [List.length_take, Nat.min_eq_left within.le]
  · simpa using isWord
  · intro other member
    obtain ⟨index, bound, rfl⟩ := List.getElem_of_mem member
    rw [List.length_take] at bound
    have notWord := earlier index (by omega)
    rw [List.getElem_take]
    simpa using notWord

/-- The last keyword is a keyword. -/
theorem lastKeyword_eq_some {keyword : String} {tokens : List (List Char)} {position : Nat}
    (found : lastKeyword keyword tokens = some position) :
    ∃ word, tokens[position]? = some word ∧ upperWord word = keyword := by
  obtain ⟨back, isFound, rfl⟩ := Option.map_eq_some_iff.mp found
  obtain ⟨within, isWord, -⟩ := List.findIdx?_eq_some_iff_getElem.mp isFound
  rw [List.length_reverse] at within
  rw [List.getElem_reverse] at isWord
  exact ⟨_, List.getElem?_eq_getElem (by omega), by simpa using isWord⟩

/-- Positions that are looked up are all numbers. -/
theorem numbered_eq {tokens : List (List Char)} {positions : List Nat}
    (some : numbered tokens positions ≠ []) : numbered tokens positions = positions ∧
      ∀ position ∈ positions, (parseLineNumber (tokens.getD position [])).isSome := by
  unfold numbered at some ⊢
  split at some
  · next all => exact ⟨if_pos all, List.all_eq_true.mp all⟩
  · exact absurd rfl some

/-- The rewritten text of a jump. -/
def JumpWords.text (jump : JumpWords) : List Char := joinTokens (jump.op :: jump.rest)

/-- A word that is no number of a line is kept. -/
theorem renumberToken_eq_self {lineMap : LineMap} {token : List Char}
    (none : lineMap.target token = none) : lineMap.renumberToken token = token := by
  rw [LineMap.renumberToken, none]

theorem modify_eq_self {change : List Char → List Char} {tokens : List (List Char)}
    {position : Nat} (same : change (tokens.getD position []) = tokens.getD position []) :
    tokens.modify position change = tokens := by
  refine List.ext_getElem? fun index => ?_
  rw [List.getElem?_modify]
  cases found : tokens[index]? with
  | none => rfl
  | some token =>
      split
      · next here =>
          rw [here, List.getD_eq_getElem?_getD, found, Option.getD_some] at same
          exact congrArg some same
      · rfl

/-- The words at the positions of the jumps are looked up, and the others stay. -/
theorem rewriteRenumberTargets_eq (lineMap : LineMap) {text : String} {op : List Char}
    {rest : List (List Char)} (words : tokenize text.toList = op :: rest)
    (spaced : SingleSpaced isSpace ' ' text.toList) :
    rewriteRenumberTargets lineMap text = String.ofList (joinTokens
      (op :: (jumpPositions op rest).foldl
        (fun tokens position => tokens.modify position lineMap.renumberToken) rest)) := by
  have unchanged : text = String.ofList (joinTokens (op :: rest)) := by
    rw [← words, joinTokens_tokenize, (respaced_eq_self_iff rfl _).mpr spaced, String.ofList_toList]
  unfold rewriteRenumberTargets
  rw [words]
  dsimp only
  split
  · next none =>
      rw [none]
      exact unchanged
  · next position one =>
      rw [one, List.foldl_cons, List.foldl_nil]
      split
      · next none =>
          rw [modify_eq_self (renumberToken_eq_self none)]
          exact unchanged
      · rfl
  · rfl

/-- An `IF` without an `ELSE` that is looked up has one number behind its `THEN`. -/
theorem exists_ifThen {op : List Char} {rest : List (List Char)} {thenPos : Nat}
    (isIf : upperWord op = "IF") (hasThen : firstKeyword "THEN" rest = some thenPos)
    (ends : thenPos + 2 = rest.length) (some : numbered rest [thenPos + 1] ≠ []) :
    ∃ jump : JumpWords, jump.Proper ∧ jump.op = op ∧ jump.rest = rest ∧
      ∀ change : List Char → List Char, (numbered rest [thenPos + 1]).foldl
        (fun tokens position => tokens.modify position change) rest = (jump.map change).rest := by
  obtain ⟨condition, thenWord, after, rfl, isLength, isThen, free⟩ := firstKeyword_eq_some hasThen
  obtain ⟨target, rfl⟩ : ∃ target, after = [target] := by
    rw [← List.length_eq_one_iff]
    simp only [List.length_append, List.length_cons] at ends
    omega
  obtain ⟨positions, isNumber⟩ := numbered_eq some
  have isTarget := isNumber (thenPos + 1) (by simp)
  rw [← isLength] at isTarget
  refine ⟨.ifThen op condition thenWord target, ⟨isIf, isThen, free, ?_⟩, rfl, rfl, ?_⟩
  · simpa using isTarget
  · intro change
    have modified := modify_append_cons change (condition ++ [thenWord]) [] target
    rw [positions, ← isLength]
    simpa [JumpWords.map, JumpWords.rest] using modified

/-- An `IF` with an `ELSE` that is looked up has one number behind each of its keywords. -/
theorem exists_ifElse {op : List Char} {rest : List (List Char)} {thenPos elsePos : Nat}
    (isIf : upperWord op = "IF") (hasThen : firstKeyword "THEN" rest = some thenPos)
    (hasElse : lastKeyword "ELSE" rest = some elsePos)
    (ends : elsePos = thenPos + 2 ∧ elsePos + 2 = rest.length)
    (some : numbered rest [thenPos + 1, elsePos + 1] ≠ []) :
    ∃ jump : JumpWords, jump.Proper ∧ jump.op = op ∧ jump.rest = rest ∧
      ∀ change : List Char → List Char, (numbered rest [thenPos + 1, elsePos + 1]).foldl
        (fun tokens position => tokens.modify position change) rest = (jump.map change).rest := by
  obtain ⟨condition, thenWord, after, rfl, isLength, isThen, free⟩ := firstKeyword_eq_some hasThen
  obtain ⟨rfl, isEnd⟩ := ends
  obtain ⟨target, elseWord, other, rfl⟩ :
      ∃ target elseWord other, after = [target, elseWord, other] := by
    rw [← List.length_eq_three]
    simp only [List.length_append, List.length_cons] at isEnd
    omega
  obtain ⟨positions, isNumber⟩ := numbered_eq some
  obtain ⟨word, found, isElse⟩ := lastKeyword_eq_some hasElse
  obtain rfl : elseWord = word := by
    simpa [← isLength] using found
  have isTarget := isNumber (thenPos + 1) (by simp)
  have isOther := isNumber (thenPos + 3) (by simp)
  rw [← isLength] at isTarget isOther
  refine ⟨.ifElse op condition thenWord target elseWord other,
    ⟨isIf, isThen, isElse, free, ?_, ?_⟩, rfl, rfl, ?_⟩
  · simpa using isTarget
  · simpa using isOther
  · intro change
    have first := modify_append_cons change (condition ++ [thenWord]) [elseWord, other] target
    have second := modify_append_cons change
      (condition ++ [thenWord, change target, elseWord]) [] other
    rw [List.append_assoc, List.length_append] at first
    rw [List.append_assoc, List.length_append] at second
    rw [positions, ← isLength, List.foldl_cons, List.foldl_cons, List.foldl_nil]
    refine (congrArg (fun tokens => List.modify tokens (condition.length + 3) change)
      first).trans ?_
    simpa [JumpWords.map, JumpWords.rest] using second

/-- A text with jumps to look up is a `GOTO` or an `IF` whose arms are numbers. -/
theorem exists_jump {op : List Char} {rest : List (List Char)} (some : jumpPositions op rest ≠ []) :
    ∃ jump : JumpWords, jump.Proper ∧ jump.op = op ∧ jump.rest = rest ∧
      ∀ change : List Char → List Char, (jumpPositions op rest).foldl
        (fun tokens position => tokens.modify position change) rest = (jump.map change).rest := by
  unfold jumpPositions at some ⊢
  split at some
  · next isGoto =>
      obtain ⟨target, rfl⟩ := List.length_eq_one_iff.mp isGoto.2
      obtain ⟨positions, isNumber⟩ := numbered_eq some
      refine ⟨.goto op target, ⟨isGoto.1, isNumber 0 (by simp)⟩, rfl, rfl, fun change => ?_⟩
      rw [if_pos isGoto, positions]
      rfl
  · next notGoto =>
      rw [if_neg notGoto]
      split at some
      · next isIf =>
          rw [if_pos isIf]
          split at some
          · exact absurd rfl some
          · next thenPos hasThen noElse =>
              split at some
              · next ends =>
                  rw [if_pos ends]
                  exact exists_ifThen isIf hasThen ends some
              · exact absurd rfl some
          · next thenPos elsePos hasThen hasElse =>
              split at some
              · next ends =>
                  rw [if_pos ends]
                  exact exists_ifElse isIf hasThen hasElse ends some
              · exact absurd rfl some
      · exact absurd rfl some

/-! ## Words in a line -/

/-- Words without blanks in them. -/
def Clean (tokens : List (List Char)) : Prop :=
  ∀ token ∈ tokens, token ≠ [] ∧ ∀ letter ∈ token, isSpace letter = false

/-- The words of a text are clean. -/
theorem clean_tokenize (text : List Char) : Clean (tokenize text) := fun _ => mem_words

/-- Clean words are joined with single blanks. -/
theorem singleSpaced_joinTokens {tokens : List (List Char)} (clean : Clean tokens) :
    SingleSpaced isSpace ' ' (joinTokens tokens) := by
  rw [← respaced_eq_self_iff rfl, respaced, joinTokens, words_joined rfl clean]

/-- A text with single blanks is a piece. -/
theorem piece_of_singleSpaced {text : List Char} (spaced : SingleSpaced isSpace ' ' text)
    (some : text ≠ []) : IfTree.Piece text where
  some := some
  bare := by
    constructor
    · intro letter first
      rw [← Bool.not_eq_true]
      intro blank
      have letterFirst := spaced.starts letter first
      rw [VM.isSpace_of_isBlank blank] at letterFirst
      cases letterFirst
    · intro letter last
      rw [← Bool.not_eq_true]
      intro blank
      have letterLast := spaced.ends letter last
      rw [VM.isSpace_of_isBlank blank] at letterLast
      cases letterLast
  oneLine member := absurd (spaced.gaps '\n' member rfl) (by decide)

theorem joinTokens_ne_nil {token : List Char} {tokens : List (List Char)}
    (clean : Clean (token :: tokens)) : joinTokens (token :: tokens) ≠ [] := by
  intro none
  have words := @words_joined _ isSpace ' ' rfl _ clean
  rw [← joinTokens, none] at words
  cases words

/-- Joined clean words are a piece. -/
theorem piece_joinTokens {token : List Char} {tokens : List (List Char)}
    (clean : Clean (token :: tokens)) : IfTree.Piece (joinTokens (token :: tokens)) :=
  piece_of_singleSpaced (singleSpaced_joinTokens clean) (joinTokens_ne_nil clean)

theorem piece_token {token : List Char} (clean : Clean [token]) : IfTree.Piece token := by
  have piece := piece_joinTokens clean
  rwa [joinTokens, joined, List.intercalate_singleton] at piece

theorem joinTokens_cons (token next : List Char) (tokens : List (List Char)) :
    joinTokens (token :: next :: tokens) = token ++ ' ' :: joinTokens (next :: tokens) := by
  rw [joinTokens, joined, List.intercalate_cons_of_ne_nil (List.cons_ne_nil _ _)]
  simp [joinTokens, joined]

/-- Joined words, with a blank between two parts. -/
theorem joinTokens_append (first : List Char) (front : List (List Char)) (next : List Char)
    (back : List (List Char)) :
    joinTokens (first :: front ++ next :: back) =
      joinTokens (first :: front) ++ ' ' :: joinTokens (next :: back) := by
  induction front generalizing first with
  | nil => simp [joinTokens, joined]
  | cons second others inductionHypothesis =>
      rw [List.cons_append, List.cons_append, joinTokens_cons, ← List.cons_append,
        inductionHypothesis, joinTokens_cons]
      simp

/-- Without a keyword among the words, the text is not cut. -/
theorem findKeywordToken_joinTokens {keyword : String} (isKeyword : IsKeyword keyword)
    {tokens : List (List Char)} (clean : Clean tokens)
    (free : ∀ token ∈ tokens, upperWord token ≠ keyword) :
    findKeywordToken (joinTokens tokens) keyword = none := by
  refine cutKeyword_of_words (fun _ member => isSpace_of_toUpper (isKeyword.2 _ member)) isKeyword.1
    fun token member => ?_
  rw [joinTokens, words_joined rfl clean] at member
  exact fun isWord => free token member (upperWord_eq_iff.mpr isWord)

/-- The first word of a joined line, and the rest. -/
theorem line_of_words {op : List Char} {next : List Char} {rest : List (List Char)}
    (clean : Clean (op :: next :: rest)) :
    (nextWord (joinTokens (op :: next :: rest))).1 = op ∧
      restOfLine (joinTokens (op :: next :: rest)) = joinTokens (next :: rest) := by
  obtain ⟨⟨some, letters⟩, cleanRest⟩ := List.forall_mem_cons.mp clean
  have piece := piece_joinTokens cleanRest
  have gap : atGap isSpace (' ' :: joinTokens (next :: rest)) = true := rfl
  have word := @nextWord_append [] op _ (List.forall_mem_nil _) letters some gap
  rw [joinTokens_cons]
  constructor
  · rw [← List.nil_append (op ++ _), word]
  · rw [restOfLine_append letters some gap (by simpa using piece.oneLine)]
    exact trim_blank_left piece.bare

/-- A number is no keyword. -/
theorem not_keyword_of_number {keyword : String} (isKeyword : IsKeyword keyword)
    {token : List Char} {number : Int} (isNumber : parseLineNumber token = some number) :
    upperWord token ≠ keyword := by
  intro isWord
  have letters := upperWord_eq_iff.mp isWord
  have digits := (parseLineNumber_eq_some isNumber).2
  cases token with
  | nil => exact isKeyword.1 letters.symm
  | cons first others =>
      have upper : first.toUpper.isUpper = true := by
        refine isKeyword.2 _ ?_
        rw [← letters]
        exact List.mem_cons_self
      have digit := Char.isDigit_iff_toNat.mp (digits first List.mem_cons_self)
      have code := VM.toNat_toUpper first
      have letter := VM.isUpper_iff_toNat.mp upper
      have nine : '9'.toNat = 57 := rfl
      split at code <;> omega

/-! ## Parsing a jump -/

/-- A line number as an arm. -/
theorem parseBranchArmSpec_number {statement : List Char → Except String (Stmt Double)}
    {token : List Char} {number : Int} (clean : Clean [token])
    (isNumber : parseLineNumber token = some number) (context : String) :
    parseBranchArmSpec statement context token = .ok (.line number) := by
  have piece := piece_token clean
  simp only [parseBranchArmSpec, parsePositiveLineNumber, trim_of_bare piece.bare, isNumber,
    check_of_passes (isEmpty_of_some piece.some), ok_bind]

section Parsing

variable [Doubles Double]

/-- A `GOTO` and a number are parsed as the jump to the line. -/
theorem parseLine_goto {op token : List Char} {number : Int} (clean : Clean [op, token])
    (isGoto : upperWord op = "GOTO") (isNumber : parseLineNumber token = some number) :
    (parseLine (joinTokens [op, token]) : Except String (Stmt Double)) = .ok (.goto number) := by
  obtain ⟨isOp, isRest⟩ := line_of_words clean
  have piece := piece_token (List.forall_mem_cons.mp clean).2
  have single : joinTokens [token] = token := by simp [joinTokens, joined]
  simp only [parseLine_eq, parseWith, isOp, isRest, isGoto, parseJump, parsePositiveLineNumber,
    single, trim_of_bare piece.bare, isNumber]

/-- The search for `THEN` finds the first one among the words. -/
theorem findKeywordToken_then {thenWord first : List Char} {condition others : List (List Char)}
    (clean : Clean (condition ++ thenWord :: first :: others)) (isThen : upperWord thenWord = "THEN")
    (free : ∀ word ∈ condition, upperWord word ≠ "THEN") :
    ∃ before,
      findKeywordToken (joinTokens (condition ++ thenWord :: first :: others)) "THEN" =
        some (before, ' ' :: joinTokens (first :: others)) ∧
      trim before = joinTokens condition := by
  have isKeyword : IsKeyword "THEN" := by decide
  have letters : ∀ c, c.toUpper ∈ "THEN".toList → isSpace c = false :=
    fun _ member => isSpace_of_toUpper (isKeyword.2 _ member)
  have isThenWord := upperWord_eq_iff.mp isThen
  cases condition with
  | nil =>
      refine ⟨[], ?_, rfl⟩
      rw [List.nil_append, joinTokens_cons]
      have starts : EndsAtGap isSpace true [] := rfl
      exact cutKeyword_word letters isKeyword.1 rfl starts isThenWord rfl
  | cons word words =>
      have cleanCondition : Clean (word :: words) := fun token member =>
        clean token (List.mem_append_left _ member)
      have free := findKeywordToken_joinTokens isKeyword cleanCondition free
      refine ⟨joinTokens (word :: words) ++ [' '], ?_,
        trim_blank_right (piece_joinTokens cleanCondition).bare⟩
      rw [joinTokens_append, joinTokens_cons]
      exact findKeywordToken_word isKeyword free isThenWord rfl

/-- What an `IF` of words is parsed as, given its arms. -/
theorem parseLine_if {op thenWord : List Char} {condition : List (List Char)} {first : List Char}
    {others : List (List Char)}
    (clean : Clean (op :: (condition ++ thenWord :: first :: others)))
    (isIf : upperWord op = "IF") (isThen : upperWord thenWord = "THEN")
    (free : ∀ word ∈ condition, upperWord word ≠ "THEN") :
    (parseLine (joinTokens (op :: (condition ++ thenWord :: first :: others))) :
        Except String (Stmt Double)) = do
      check (!(joinTokens condition).isEmpty) "IF requires a condition expression"
      let (thenArm, elseArm) ←
        parseArms (parseBranchArmSpec parseLine) (joinTokens (first :: others))
      let parsed ← expressionIn "IF condition error: " (joinTokens condition)
      return .ifStmt parsed thenArm elseArm := by
  obtain ⟨next, more, isWords⟩ :
      ∃ next more, condition ++ thenWord :: first :: others = next :: more :=
    List.exists_cons_of_ne_nil (by simp)
  have cleanRest := (List.forall_mem_cons.mp clean).2
  have cleanBranch : Clean (first :: others) := fun token member =>
    cleanRest token (List.mem_append_right _ (List.mem_cons_of_mem _ member))
  have branch := piece_joinTokens cleanBranch
  have whole := isWords ▸ clean
  obtain ⟨isOp, isRest⟩ := line_of_words whole
  rw [← isWords] at isOp isRest
  have someRest : (!(joinTokens (condition ++ thenWord :: first :: others)).isEmpty) = true := by
    rw [isWords]
    exact isEmpty_of_some (joinTokens_ne_nil (List.forall_mem_cons.mp whole).2)
  obtain ⟨before, found, isCondition⟩ := findKeywordToken_then cleanRest isThen free
  rw [parseLine_eq]
  simp only [parseWith, isOp, isRest, isIf, parseIf, check_of_passes someRest, found, cutOr,
    ok_bind, isCondition, trim_blank_left branch.bare,
    check_of_passes (isEmpty_of_some branch.some)]

/-- The same jump to other lines. -/
inductive Moved (new : Int → Int) : Stmt Double → Stmt Double → Prop
  | goto (target : Int) : Moved new (.goto target) (.goto (new target))
  | ifThen (condition : Expr Double) (target : Int) :
      Moved new (.ifStmt condition (.line target) none)
        (.ifStmt condition (.line (new target)) none)
  | ifElse (condition : Expr Double) (target other : Int) :
      Moved new (.ifStmt condition (.line target) (some (.line other)))
        (.ifStmt condition (.line (new target)) (some (.line (new other))))

omit [Doubles Double] in
/-- A number is a clean word. -/
theorem clean_number {token : List Char} {number : Int}
    (isNumber : parseLineNumber token = some number) : Clean [token] := by
  refine List.forall_mem_singleton.mpr ⟨?_, fun letter member => ?_⟩
  · rintro rfl
    cases isNumber
  · exact VM.isSpace_of_isDigit ((parseLineNumber_eq_some isNumber).2 letter member)

/-- An `IF` of words without an `ELSE`. -/
theorem parseLine_ifThen_words {op thenWord token : List Char} {condition : List (List Char)}
    {number : Int} (clean : Clean (op :: (condition ++ [thenWord, token])))
    (isIf : upperWord op = "IF") (isThen : upperWord thenWord = "THEN")
    (free : ∀ word ∈ condition, upperWord word ≠ "THEN")
    (isNumber : parseLineNumber token = some number) :
    (parseLine (joinTokens (op :: (condition ++ [thenWord, token]))) :
        Except String (Stmt Double)) = do
      check (!(joinTokens condition).isEmpty) "IF requires a condition expression"
      let parsed ← expressionIn "IF condition error: " (joinTokens condition)
      return .ifStmt parsed (.line number) none := by
  have cleanToken := clean_number isNumber
  have single : joinTokens [token] = token := by simp [joinTokens, joined]
  have noElse : findKeywordToken token "ELSE" = none := by
    rw [← single]
    exact findKeywordToken_joinTokens (by decide) cleanToken
      (List.forall_mem_singleton.mpr (not_keyword_of_number (by decide) isNumber))
  rw [parseLine_if clean isIf isThen free, single,
    parseArms_of_free (piece_token cleanToken) noElse,
    parseBranchArmSpec_number cleanToken isNumber]
  rfl

/-- An `IF` of words with an `ELSE`. -/
theorem parseLine_ifElse_words {op thenWord token elseWord other : List Char}
    {condition : List (List Char)} {number otherNumber : Int}
    (clean : Clean (op :: (condition ++ [thenWord, token, elseWord, other])))
    (isIf : upperWord op = "IF") (isThen : upperWord thenWord = "THEN")
    (isElse : upperWord elseWord = "ELSE") (free : ∀ word ∈ condition, upperWord word ≠ "THEN")
    (isNumber : parseLineNumber token = some number)
    (isOther : parseLineNumber other = some otherNumber) :
    (parseLine (joinTokens (op :: (condition ++ [thenWord, token, elseWord, other]))) :
        Except String (Stmt Double)) = do
      check (!(joinTokens condition).isEmpty) "IF requires a condition expression"
      let parsed ← expressionIn "IF condition error: " (joinTokens condition)
      return .ifStmt parsed (.line number) (some (.line otherNumber)) := by
  have cleanToken := clean_number isNumber
  have cleanOther := clean_number isOther
  have single (token : List Char) : joinTokens [token] = token := by simp [joinTokens, joined]
  have noElse : findKeywordToken token "ELSE" = none := by
    rw [← single token]
    exact findKeywordToken_joinTokens (by decide) cleanToken
      (List.forall_mem_singleton.mpr (not_keyword_of_number (by decide) isNumber))
  have arms : parseArms (parseBranchArmSpec (parseLine : List Char → Except String (Stmt Double)))
      (joinTokens [token, elseWord, other]) = .ok (.line number, some (.line otherNumber)) := by
    have found := findKeywordToken_word (by decide) noElse (upperWord_eq_iff.mp isElse)
      (rfl : atGap isSpace (' ' :: other) = true)
    rw [joinTokens_cons, joinTokens_cons, single]
    simp only [parseArms, found, trim_blank_left (piece_token cleanOther).bare,
      trim_blank_right (piece_token cleanToken).bare, parseBranchArmSpec_number cleanToken isNumber,
      parseBranchArmSpec_number cleanOther isOther, ok_bind]
    rfl
  rw [parseLine_if clean isIf isThen free, arms]
  rfl

omit [Doubles Double] in
/-- Changed targets leave the words of a jump clean. -/
theorem clean_map {jump : JumpWords} (proper : jump.Proper) (clean : Clean (jump.op :: jump.rest))
    {change : List Char → List Char} {new : Int → Int}
    (changes : ∀ token number, parseLineNumber token = some number →
      parseLineNumber (change token) = some (new number)) :
    Clean ((jump.map change).op :: (jump.map change).rest) := by
  have cleanNew {token : List Char} (isNumber : (parseLineNumber token).isSome) :
      change token ≠ [] ∧ ∀ letter ∈ change token, isSpace letter = false := by
    obtain ⟨number, isNumber⟩ := Option.isSome_iff_exists.mp isNumber
    exact clean_number (changes token number isNumber) _ (List.mem_singleton_self _)
  cases jump with
  | goto op target =>
      simp only [Clean, JumpWords.op, JumpWords.rest, JumpWords.map, List.forall_mem_cons]
        at clean ⊢
      exact ⟨clean.1, cleanNew proper.2, List.forall_mem_nil _⟩
  | ifThen op condition thenWord target =>
      simp only [Clean, JumpWords.op, JumpWords.rest, JumpWords.map, List.forall_mem_cons,
        List.forall_mem_append] at clean ⊢
      exact ⟨clean.1, clean.2.1, clean.2.2.1, cleanNew proper.2.2.2, List.forall_mem_nil _⟩
  | ifElse op condition thenWord target elseWord other =>
      simp only [Clean, JumpWords.op, JumpWords.rest, JumpWords.map, List.forall_mem_cons,
        List.forall_mem_append] at clean ⊢
      exact ⟨clean.1, clean.2.1, clean.2.2.1, cleanNew proper.2.2.2.2.1, clean.2.2.2.2.1,
        cleanNew proper.2.2.2.2.2, List.forall_mem_nil _⟩

/-- A jump whose numbers are changed is the jump to the lines with the new numbers. -/
theorem moved_parseLine {jump : JumpWords} (proper : jump.Proper)
    (clean : Clean (jump.op :: jump.rest)) {change : List Char → List Char} {new : Int → Int}
    (changes : ∀ token number, parseLineNumber token = some number →
      parseLineNumber (change token) = some (new number)) {statement : Stmt Double}
    (parsed : parseLine jump.text = .ok statement) :
    ∃ moved, parseLine (jump.map change).text = .ok moved ∧ Moved new statement moved := by
  have cleanNew := clean_map proper clean changes
  cases jump with
  | goto op target =>
      obtain ⟨isGoto, isNumber⟩ := proper
      obtain ⟨number, isNumber⟩ := Option.isSome_iff_exists.mp isNumber
      have isNew := changes target number isNumber
      have same := parsed.symm.trans (parseLine_goto clean isGoto isNumber)
      obtain rfl := Except.ok.inj same
      exact ⟨_, parseLine_goto cleanNew isGoto isNew, .goto number⟩
  | ifThen op condition thenWord target =>
      obtain ⟨isIf, isThen, free, isNumber⟩ := proper
      obtain ⟨number, isNumber⟩ := Option.isSome_iff_exists.mp isNumber
      have isNew := changes target number isNumber
      have same := parsed.symm.trans (parseLine_ifThen_words clean isIf isThen free isNumber)
      obtain ⟨_, checked, done⟩ := bind_eq_ok.mp same.symm
      obtain ⟨found, isCondition, isResult⟩ := bind_eq_ok.mp done
      obtain rfl := Except.ok.inj isResult
      refine ⟨_, ?_, .ifThen found number⟩
      refine (parseLine_ifThen_words cleanNew isIf isThen free isNew).trans ?_
      rw [checked, isCondition]
      rfl
  | ifElse op condition thenWord target elseWord other =>
      obtain ⟨isIf, isThen, isElse, free, isNumber, isOther⟩ := proper
      obtain ⟨number, isNumber⟩ := Option.isSome_iff_exists.mp isNumber
      obtain ⟨otherNumber, isOther⟩ := Option.isSome_iff_exists.mp isOther
      have isNew := changes target number isNumber
      have isNewOther := changes other otherNumber isOther
      have same := parsed.symm.trans
        (parseLine_ifElse_words clean isIf isThen isElse free isNumber isOther)
      obtain ⟨_, checked, done⟩ := bind_eq_ok.mp same.symm
      obtain ⟨found, isCondition, isResult⟩ := bind_eq_ok.mp done
      obtain rfl := Except.ok.inj isResult
      refine ⟨_, ?_, .ifElse found number otherNumber⟩
      refine (parseLine_ifElse_words cleanNew isIf isThen isElse free isNew isNewOther).trans ?_
      rw [checked, isCondition]
      rfl

end Parsing

/-! ## The code of a jump -/

/-- The code of an `IF` whose arms are lines. -/
theorem statementCode_if (condition : Expr Double) (target : Int) (other : Option Int) :
    statementCode false (.ifStmt condition (.line target) (other.map .line)) = do
      let value ← expressionCode "IF condition" condition
      return match other with
        | none => .branch value (.reference .jump target)
        | some other => .branchToLine value (.reference .jump target) (.reference .jump other) := by
  cases other <;> rfl

/-- An `IF` with new targets has the code of the old one, with its targets changed. -/
theorem relined_if {new : Int → Int} {condition : Expr Double} {target number : Int}
    {other : Option Int}
    (accepted : (⟨number, .ifStmt condition (.line target) (other.map .line)⟩ :
      BasicLine Double).Accepted) :
    Relined new new ⟨number, .ifStmt condition (.line target) (other.map .line)⟩
      ⟨new number, .ifStmt condition (.line (new target)) ((other.map new).map .line)⟩ := by
  rw [BasicLine.Accepted, statementCode_if] at accepted
  obtain ⟨value, isValue, -⟩ := bind_eq_ok.mp accepted
  have codeOf (target : Int) (other : Option Int) := statementCode_if condition target other
  simp only [isValue, ok_bind] at codeOf
  refine .of_statementCode rfl (codeOf target other) (codeOf (new target) (other.map new))
    (fun start => ?_) rfl ?_
  · cases other with
    | none =>
        simp [Code.branch, Code.reference, CodeItem.refersTo]
    | some other =>
        simp [Code.branchToLine, Code.reference, CodeItem.refersTo]
  · cases other <;> rfl

/-- A jump that is moved is a line with other targets. -/
theorem Moved.relined {new : Int → Int} {statement moved : Stmt Double}
    (isMoved : Moved new statement moved) {number : Int}
    (accepted : (⟨number, statement⟩ : BasicLine Double).Accepted) :
    Relined new new ⟨number, statement⟩ ⟨new number, moved⟩ := by
  cases isMoved with
  | goto target => exact .of_statementCode rfl rfl rfl (fun _ => rfl) rfl rfl
  | ifThen condition target => exact @relined_if _ _ _ _ _ none accepted
  | ifElse condition target other => exact @relined_if _ _ _ _ _ (some other) accepted

/-! ## The new numbers -/

section Numbers

variable {increment : Int} {entries : List (Int × String)}

/-- The line at a position gets the number that is due there. -/
theorem lookup_lineMapFrom (ascending : entries.Pairwise fun first second => first.1 < second.1)
    (mapped : Int) {position : Nat} {line : Int × String}
    (found : entries[position]? = some line) :
    (lineMapFrom increment mapped entries).lookup line.1 =
      some (mapped + increment * position) := by
  induction entries generalizing mapped position with
  | nil => cases found
  | cons first rest inductionHypothesis =>
      obtain ⟨below, ascending⟩ := List.pairwise_cons.mp ascending
      cases position with
      | zero =>
          cases found
          simp [lineMapFrom]
      | succ position =>
          have later : rest[position]? = some line := found
          have different : (line.1 == first.1) = false :=
            beq_false_of_ne (ne_of_gt (below line (List.mem_of_getElem? later)))
          rw [lineMapFrom, List.lookup_cons, different, inductionHypothesis ascending _ later]
          rw [Nat.cast_add_one, mul_add_one, ← add_assoc, add_right_comm]

/-- Only numbers of lines have new ones. -/
theorem exists_of_lookup {mapped number new : Int}
    (found : (lineMapFrom increment mapped entries).lookup number = some new) :
    ∃ line ∈ entries, line.1 = number := by
  induction entries generalizing mapped with
  | nil => cases found
  | cons first rest inductionHypothesis =>
      rw [lineMapFrom, List.lookup_cons] at found
      split at found
      · next same => exact ⟨first, List.mem_cons_self, (beq_iff_eq.mp same).symm⟩
      · obtain ⟨line, member, isLine⟩ := inductionHypothesis found
        exact ⟨line, List.mem_cons_of_mem _ member, isLine⟩

/-- A renumbered line stands where the old one did, with its text rewritten. -/
theorem getElem?_renumberFrom (lineMap : LineMap) (next : Int) (position : Nat) :
    (renumberFrom lineMap increment next entries)[position]? =
      entries[position]?.map fun line =>
        (next + increment * position, rewriteRenumberTargets lineMap line.2) := by
  induction entries generalizing next position with
  | nil => rfl
  | cons first rest inductionHypothesis =>
      cases position with
      | zero => simp [renumberFrom]
      | succ position =>
          rw [renumberFrom, List.getElem?_cons_succ, inductionHypothesis, List.getElem?_cons_succ]
          have shifted : next + increment + increment * position =
              next + increment * (position + 1 : Nat) := by
            rw [Nat.cast_add_one, mul_add_one, ← add_assoc, add_right_comm]
          rw [shifted]

end Numbers

/-- The new number of a line of a program. -/
def newNumber (first increment : Int) (program : BasicProgram) : Int → Int :=
  (lineMapFrom increment first program.entries).newNumber

section Renumbered

variable {first increment : Int} {program : BasicProgram}

/-- The new number of a line by its position. -/
theorem newNumber_at {position : Nat} {line : Int × String}
    (found : program.entries[position]? = some line) :
    newNumber first increment program line.1 = first + increment * position := by
  rw [newNumber, LineMap.newNumber, lookup_lineMapFrom program.ascending first found,
    Option.getD_some]

/-- A number that is looked up is that of a line, and its new one is due there. -/
theorem newNumber_of_lookup {number new : Int}
    (found : (lineMapFrom increment first program.entries).lookup number = some new) :
    ∃ (position : Nat) (line : Int × String), program.entries[position]? = some line ∧
      line.1 = number ∧ new = first + increment * position := by
  obtain ⟨line, member, rfl⟩ := exists_of_lookup found
  obtain ⟨position, isLine⟩ := List.getElem?_of_mem member
  rw [lookup_lineMapFrom program.ascending first isLine] at found
  exact ⟨position, line, isLine, rfl, (Option.some.inj found).symm⟩

/-- A line of the renumbered program. -/
def renumberedLine (first increment : Int) (program : BasicProgram) (line : Int × String) :
    Int × String :=
  (newNumber first increment program line.1,
    rewriteRenumberTargets (lineMapFrom increment first program.entries) line.2)

variable (positive : 0 < increment)
include positive

/-- The lines stay in their order. -/
theorem newNumber_lt {line later : Int × String} (member : line ∈ program.entries)
    (laterMember : later ∈ program.entries) (below : line.1 < later.1) :
    newNumber first increment program line.1 < newNumber first increment program later.1 := by
  obtain ⟨position, isLine⟩ := List.getElem?_of_mem member
  obtain ⟨laterPosition, isLater⟩ := List.getElem?_of_mem laterMember
  rw [newNumber_at isLine, newNumber_at isLater]
  have before : position < laterPosition := by
    by_contra notBefore
    rcases Nat.lt_or_eq_of_le (not_lt.mp notBefore) with after | same
    · obtain ⟨bound, rfl⟩ := List.getElem?_eq_some_iff.mp isLine
      obtain ⟨laterBound, rfl⟩ := List.getElem?_eq_some_iff.mp isLater
      have order := List.pairwise_iff_getElem.mp program.ascending _ _ laterBound bound after
      exact absurd below (not_lt.mpr order.le)
    · rw [same, isLine] at isLater
      cases isLater
      exact lt_irrefl _ below
  have least : increment * position + increment ≤ increment * laterPosition := by
    rw [← mul_add_one]
    exact Int.mul_le_mul_of_nonneg_left (by exact_mod_cast before) positive.le
  omega

/-- Different lines get different numbers. -/
theorem newNumber_inj {line other : Int × String} (member : line ∈ program.entries)
    (otherMember : other ∈ program.entries)
    (same : newNumber first increment program line.1 = newNumber first increment program other.1) :
    line.1 = other.1 := by
  rcases lt_trichotomy line.1 other.1 with below | isSame | above
  · exact absurd same (ne_of_lt (newNumber_lt positive member otherMember below))
  · exact isSame
  · exact absurd same (ne_of_gt (newNumber_lt positive otherMember member above))

/-- Each line is there with its new number and its rewritten text. -/
theorem entries_renumber : (renumber first increment program).entries =
    program.entries.map (renumberedLine first increment program) := by
  have lines : renumberFrom (lineMapFrom increment first program.entries) increment first
      program.entries = program.entries.map (renumberedLine first increment program) := by
    refine List.ext_getElem? fun position => ?_
    rw [getElem?_renumberFrom, List.getElem?_map]
    cases found : program.entries[position]? with
    | none => rfl
    | some line => rw [Option.map_some, Option.map_some, renumberedLine, newNumber_at found]
  rw [renumber, lines]
  refine OrderedMap.entries_insertAll (List.pairwise_map.mpr ?_)
  exact program.ascending.imp_of_mem fun member laterMember below =>
    newNumber_lt positive member laterMember below

end Renumbered

/-! ## The lines that are parsed -/

section Lines

variable [Doubles Double]

/-- The line that is parsed from a line of the program, if it is one. -/
def parsedLine (line : Int × String) : Option (BasicLine Double) :=
  let text := trim line.2.toList
  if text.isEmpty then none
  else
    match parseLine text with
    | .ok statement => some ⟨line.1, statement⟩
    | .error _ => none

/-- The error of a line of the program, if it has one. -/
def parseError (Double : Type) [Doubles Double] (line : Int × String) : Option (Int × String) :=
  let text := trim line.2.toList
  if text.isEmpty then none
  else
    match (parseLine text : Except String (Stmt Double)) with
    | .ok _ => none
    | .error message => some (line.1, message)

/-- A program is parsed line by line, into its statements and its errors. -/
theorem parseProgram_eq (lines : List (Int × String)) :
    (parseProgram lines : StatementParseResult Double) =
      { lines := lines.filterMap parsedLine, errors := lines.filterMap (parseError Double) } := by
  induction lines using List.reverseRecOn with
  | nil => rfl
  | append_singleton lines last inductionHypothesis =>
      unfold parseProgram at inductionHypothesis ⊢
      rw [List.foldl_append, inductionHypothesis, List.foldl_cons, List.foldl_nil,
        List.filterMap_append, List.filterMap_append]
      simp only [List.filterMap_cons, List.filterMap_nil, parsedLine, parseError]
      split
      · simp
      · cases (parseLine (trim last.2.toList) : Except String (Stmt Double)) with
        | ok statement => simp
        | error message => simp

/-- Whether the jumps of a text are looked up. -/
def looksUp (text : String) : Bool :=
  match tokenize text.toList with
  | [] => false
  | op :: rest => jumpPositions op rest ≠ []

/-- A text that is not looked up is kept. -/
theorem rewriteRenumberTargets_of_not {text : String} (kept : looksUp text = false)
    (lineMap : LineMap) : rewriteRenumberTargets lineMap text = text := by
  unfold looksUp at kept
  unfold rewriteRenumberTargets
  split
  · rfl
  · next op rest words =>
      rw [words] at kept
      have none : jumpPositions op rest = [] := by simpa using kept
      simp only [none]

/-- A text with single blanks has none around it. -/
theorem trim_of_singleSpaced {text : List Char} (spaced : SingleSpaced isSpace ' ' text) :
    trim text = text := by
  cases text with
  | nil => rfl
  | cons first rest => exact trim_of_bare (piece_of_singleSpaced spaced (List.cons_ne_nil _ _)).bare

/-- A line of a program that the shell could have loaded is empty, or is parsed as it stands. -/
theorem line_cases_of_spaced {line : Int × String} (spaced : SingleSpaced isSpace ' ' line.2.toList)
    (noError : parseError Double line = none) :
    (line.2 = "" ∧ (parsedLine line : Option (BasicLine Double)) = none) ∨
      ∃ statement : Stmt Double, line.2 ≠ "" ∧ parseLine line.2.toList = .ok statement ∧
        parsedLine line = some ⟨line.1, statement⟩ := by
  unfold parseError at noError
  unfold parsedLine
  rw [trim_of_singleSpaced spaced] at noError ⊢
  dsimp only at noError ⊢
  split at noError
  · next empty => exact .inl ⟨by simpa using empty, by rw [if_pos empty]⟩
  · next some =>
      split at noError
      · next statement parsed =>
          exact .inr ⟨statement, by simpa using some, parsed, if_neg some⟩
      · cases noError

/-- A line is parsed as the statement of its text. -/
theorem parsedLine_of_parseLine {line : Int × String}
    (spaced : SingleSpaced isSpace ' ' line.2.toList) (some : line.2 ≠ "") {statement : Stmt Double}
    (parsed : parseLine line.2.toList = .ok statement) :
    parseError Double line = none ∧ parsedLine line = .some ⟨line.1, statement⟩ := by
  have notEmpty : line.2.toList.isEmpty = false := by simpa using some
  unfold parseError parsedLine
  rw [trim_of_singleSpaced spaced]
  simp only [notEmpty, parsed, Bool.false_eq_true, if_false]
  trivial

/-- A text that is looked up has words with jumps among them. -/
theorem exists_words_of_looksUp {text : String} (kept : looksUp text = true) :
    ∃ op rest, tokenize text.toList = op :: rest ∧ jumpPositions op rest ≠ [] := by
  unfold looksUp at kept
  split at kept
  · cases kept
  · next op rest words => exact ⟨op, rest, words, by simpa using kept⟩

/-- What becomes of a line. -/
theorem renumbered_line {lineMap : LineMap} {new : Int → Int}
    (changes : ∀ token number, parseLineNumber token = some number →
      parseLineNumber (lineMap.renumberToken token) = some (new number))
    {line : Int × String} (spaced : SingleSpaced isSpace ' ' line.2.toList) (some : line.2 ≠ "")
    {statement : Stmt Double} (parsed : parseLine line.2.toList = .ok statement) :
    ∃ moved : Stmt Double,
      parseError Double (new line.1, rewriteRenumberTargets lineMap line.2) = none ∧
      parsedLine (new line.1, rewriteRenumberTargets lineMap line.2) =
        .some ⟨new line.1, moved⟩ ∧
      if looksUp line.2 then Moved new statement moved else moved = statement := by
  cases kept : looksUp line.2 with
  | false =>
      rw [rewriteRenumberTargets_of_not kept]
      obtain ⟨noError, isLine⟩ :=
        @parsedLine_of_parseLine _ _ (new line.1, line.2) spaced some _ parsed
      exact ⟨statement, noError, isLine, rfl⟩
  | true =>
      obtain ⟨op, rest, words, looked⟩ := exists_words_of_looksUp kept
      obtain ⟨jump, proper, rfl, rfl, rewritten⟩ := exists_jump looked
      have clean : Clean (jump.op :: jump.rest) := words ▸ clean_tokenize line.2.toList
      have isText : line.2.toList = jump.text := by
        rw [JumpWords.text, ← words, joinTokens_tokenize, (respaced_eq_self_iff rfl _).mpr spaced]
      rw [isText] at parsed
      obtain ⟨moved, parsedMoved, isMoved⟩ := moved_parseLine proper clean changes parsed
      have cleanNew := clean_map proper clean changes
      have isNew : rewriteRenumberTargets lineMap line.2 =
          String.ofList (jump.map lineMap.renumberToken).text := by
        rw [rewriteRenumberTargets_eq lineMap words spaced, rewritten]
        cases jump <;> rfl
      have newSpaced := singleSpaced_joinTokens cleanNew
      have newSome : (jump.map lineMap.renumberToken).text ≠ [] := joinTokens_ne_nil cleanNew
      obtain ⟨noError, isLine⟩ := @parsedLine_of_parseLine _ _
        (new line.1, rewriteRenumberTargets lineMap line.2)
        (by rw [isNew, String.toList_ofList]; exact newSpaced)
        (by simpa [isNew, ← String.toList_eq_nil_iff] using newSome) moved
        (by rw [isNew, String.toList_ofList]; exact parsedMoved)
      exact ⟨moved, noError, isLine, isMoved⟩

end Lines

theorem forall₂_filterMap {Item Result : Type} {related : Result → Result → Prop}
    {items : List Item} {first second : Item → Option Result}
    (each : ∀ item ∈ items, Option.Rel related (first item) (second item)) :
    List.Forall₂ related (items.filterMap first) (items.filterMap second) := by
  induction items with
  | nil => exact .nil
  | cons item rest inductionHypothesis =>
      obtain ⟨here, later⟩ := List.forall_mem_cons.mp each
      have rest := inductionHypothesis later
      rw [List.filterMap_cons, List.filterMap_cons]
      cases isFirst : first item with
      | none =>
          cases isSecond : second item with
          | none => exact rest
          | some other =>
              rw [isFirst, isSecond] at here
              cases here
      | some result =>
          cases isSecond : second item with
          | none =>
              rw [isFirst, isSecond] at here
              cases here
          | some other =>
              rw [isFirst, isSecond] at here
              cases here with
              | some isRelated => exact .cons isRelated rest

/-- `BasicProgram::lineText`. -/
def lineText (program : BasicProgram) (lineNumber : Int) : Option String :=
  program.entries.lookup lineNumber

/-- The text of a line is found by its number. -/
theorem lineText_of_mem {program : BasicProgram} {line : Int × String}
    (member : line ∈ program.entries) : lineText program line.1 = some line.2 := by
  obtain ⟨before, after, isSplit⟩ := List.append_of_mem member
  refine List.lookup_eq_some_iff.mpr ⟨before, after, isSplit, fun earlier inBefore => ?_⟩
  have ascending := program.ascending
  rw [isSplit, List.pairwise_append] at ascending
  have below := ascending.2.2 earlier inBefore line List.mem_cons_self
  exact bne_iff_ne.mpr (ne_of_gt below)

/-- Whether the jumps of a line are looked up. -/
def moves (program : BasicProgram) (line : BasicLine Double) : Bool :=
  (lineText program line.lineNumber).any looksUp

/-- What the line of a renumbered program refers to. -/
def lineChange (program : BasicProgram) (new : Int → Int) (line : BasicLine Double) : Int → Int :=
  if moves program line then new else id

section Programs

variable [Doubles Double] {first increment : Int} {program : BasicProgram}
  (loadable : ∀ line ∈ program.entries, Loadable line) (start : 0 < first)
  (positive : 0 < increment) (inRange : first + increment * program.entries.length ≤ intMax)

section Changes

include start positive inRange

omit [Doubles Double] in
/-- A rewritten number is the new one. -/
theorem parseLineNumber_renumberToken (token : List Char) (number : Int)
    (isNumber : parseLineNumber token = some number) :
    parseLineNumber ((lineMapFrom increment first program.entries).renumberToken token) =
      some (newNumber first increment program number) := by
  rw [LineMap.renumberToken, LineMap.target, isNumber, Option.bind_some, newNumber,
    LineMap.newNumber]
  cases found : (lineMapFrom increment first program.entries).lookup number with
  | none => exact isNumber
  | some new =>
      obtain ⟨position, line, isLine, -, rfl⟩ := newNumber_of_lookup found
      obtain ⟨within, -⟩ := List.getElem?_eq_some_iff.mp isLine
      have least : 0 ≤ increment * position := Int.mul_nonneg positive.le (Int.natCast_nonneg _)
      have most : increment * position ≤ increment * program.entries.length :=
        Int.mul_le_mul_of_nonneg_left (by exact_mod_cast within.le) positive.le
      have isPositive : 0 < first + increment * position := by omega
      rw [parseLineNumber_of_digits
        (fun none => VM.toString_int_ne_empty _ (String.toList_eq_nil_iff.mp none))
        (List.all_eq_true.mpr (digits_of_positive isPositive))]
      exact leadingNumber_toString isPositive (by omega)

end Changes

include loadable start positive inRange

/-- A line that is parsed is parsed with its new number, and refers to other lines. -/
theorem relined_line {line : Int × String} (member : line ∈ program.entries)
    (noError : parseError Double line = none)
    (accepted : ∀ parsed : BasicLine Double, parsedLine line = some parsed → parsed.Accepted) :
    parseError Double (renumberedLine first increment program line) = none ∧
      Option.Rel (fun old renumbered : BasicLine Double =>
        Relined (newNumber first increment program)
          (lineChange program (newNumber first increment program) old) old renumbered)
        (parsedLine line) (parsedLine (renumberedLine first increment program line)) := by
  have spaced := (loadable line member).spaced
  rcases line_cases_of_spaced spaced noError with
    ⟨empty, isNone⟩ | ⟨statement, some, parsed, isLine⟩
  · have kept : looksUp line.2 = false := by rw [empty]; rfl
    have noLine : (parsedLine (renumberedLine first increment program line) :
        Option (BasicLine Double)) = none := by
      rw [renumberedLine, rewriteRenumberTargets_of_not kept, empty]
      rfl
    have noNewError : parseError Double (renumberedLine first increment program line) = none := by
      rw [renumberedLine, rewriteRenumberTargets_of_not kept, empty]
      rfl
    rw [isNone, noLine]
    exact ⟨noNewError, .none⟩
  · obtain ⟨moved, noNewError, isNew, becomes⟩ := renumbered_line
      (parseLineNumber_renumberToken start positive inRange) spaced some parsed
    rw [isLine, renumberedLine, isNew]
    refine ⟨noNewError, .some ?_⟩
    rw [lineChange, moves, lineText_of_mem member, Option.any_some]
    split at becomes
    · next looks =>
        rw [if_pos looks]
        exact becomes.relined (accepted _ isLine)
    · next kept =>
        rw [if_neg kept, becomes]
        exact .same _ _

/-- The lines of the renumbered program are parsed as the lines of the program, with other
targets. -/
theorem relined_renumber
    (noErrors : (parseProgram program.entries : StatementParseResult Double).errors = [])
    (accepted : ∀ line ∈ (parseProgram program.entries : StatementParseResult Double).lines,
      line.Accepted) :
    (parseProgram (renumber first increment program).entries : StatementParseResult Double).errors =
        [] ∧
      RelinedAll (newNumber first increment program)
        (lineChange program (newNumber first increment program))
        (parseProgram program.entries : StatementParseResult Double).lines
        (parseProgram (renumber first increment program).entries).lines := by
  rw [entries_renumber positive]
  simp only [parseProgram_eq, List.filterMap_map] at noErrors accepted ⊢
  have each (line) (member : line ∈ program.entries) := relined_line loadable start positive inRange
    member (List.filterMap_eq_nil_iff.mp noErrors line member)
    fun parsed isLine => accepted parsed (List.mem_filterMap.mpr ⟨line, member, isLine⟩)
  refine ⟨?_, ?_⟩
  · rw [List.filterMap_eq_nil_iff]
    intro line member
    rw [Function.comp_apply]
    exact (each line member).1
  · refine forall₂_filterMap fun line member => ?_
    rw [Function.comp_apply]
    exact (each line member).2

omit loadable start inRange in
/-- No two lines get one number. -/
theorem newNumber_injective {number : Int}
    (known : number ∈ (parseProgram program.entries : StatementParseResult Double).lines.map
      BasicLine.lineNumber)
    (line : BasicLine Double) (member : line ∈ (parseProgram program.entries).lines)
    (same : newNumber first increment program line.lineNumber =
      newNumber first increment program number) : line.lineNumber = number := by
  have entryOf (line : BasicLine Double) (member : line ∈ (parseProgram program.entries).lines) :
      ∃ entry ∈ program.entries, entry.1 = line.lineNumber :=
    List.mem_map.mp (fits_parseProgram program.entries line member).2
  obtain ⟨other, otherMember, rfl⟩ := List.mem_map.mp known
  obtain ⟨entry, inProgram, isNumber⟩ := entryOf line member
  obtain ⟨otherEntry, otherInProgram, isOther⟩ := entryOf other otherMember
  rw [← isNumber, ← isOther] at same ⊢
  exact newNumber_inj positive inProgram otherInProgram same

end Programs

/-- The lines that texts refer to whose jumps are not looked up. -/
def keptTargets (Double : Type) [Doubles Double] (program : BasicProgram) : List Int :=
  (parseProgram (program.entries.filter fun line => !looksUp line.2) :
    StatementParseResult Double).lines.flatMap fun line => line.statement.lineTargets

section Compiled

variable [Doubles Double] {first increment : Int} {program : BasicProgram}

/-- The targets of the lines whose text is not looked up. -/
theorem mem_keptTargets {target : Int} : target ∈ keptTargets Double program ↔
    ∃ line ∈ (parseProgram program.entries : StatementParseResult Double).lines,
      moves program line = false ∧ target ∈ line.statement.lineTargets := by
  have numberOf {entry : Int × String} {line : BasicLine Double}
      (parsed : parsedLine entry = some line) : line.lineNumber = entry.1 := by
    unfold parsedLine at parsed
    dsimp only at parsed
    split at parsed
    · cases parsed
    · split at parsed
      · cases parsed
        rfl
      · cases parsed
  unfold keptTargets
  simp only [parseProgram_eq, List.mem_flatMap, List.mem_filterMap, List.mem_filter]
  constructor
  · rintro ⟨line, ⟨entry, ⟨member, kept⟩, parsed⟩, refers⟩
    refine ⟨line, ⟨entry, member, parsed⟩, ?_, refers⟩
    rw [moves, numberOf parsed, lineText_of_mem member]
    simpa using kept
  · rintro ⟨line, ⟨entry, member, parsed⟩, kept, refers⟩
    refine ⟨line, ⟨entry, ⟨member, ?_⟩, parsed⟩, refers⟩
    rw [moves, numberOf parsed, lineText_of_mem member] at kept
    simpa using kept

/-- A compiled program is compiled to the same instructions after it has been renumbered exactly
when each line that a text refers to whose jumps are not looked up is the new number of a line whose
code starts where the code of that line did. -/
theorem renumber_same_iff {emitted : EmittedProgram Double}
    (loadable : ∀ line ∈ program.entries, Loadable line) (start : 0 < first)
    (positive : 0 < increment) (inRange : first + increment * program.entries.length ≤ intMax)
    (compiled : compile program.entries = .ok emitted) :
    compile (renumber first increment program).entries =
        .ok ⟨emitted.program,
          emitted.sourceLinePerInstr.map (newNumber first increment program)⟩ ↔
      ∀ target ∈ keptTargets Double program,
        ∃ line ∈ (parseProgram program.entries : StatementParseResult Double).lines,
          newNumber first increment program line.lineNumber = target ∧
            targetOf (parseProgram program.entries : StatementParseResult Double).lines
                line.lineNumber =
              targetOf (parseProgram program.entries : StatementParseResult Double).lines
                target := by
  obtain ⟨noErrors, known, accepted, rfl⟩ := compile_eq_ok.mp compiled
  obtain ⟨noNewErrors, relined⟩ :=
    relined_renumber loadable start positive inRange noErrors accepted
  have zero : newNumber first increment program 0 = 0 := by
    rw [newNumber, LineMap.newNumber]
    cases found : (lineMapFrom increment first program.entries).lookup 0 with
    | none => rfl
    | some new =>
        obtain ⟨line, member, isZero⟩ := exists_of_lookup found
        exact absurd isZero (ne_of_gt (loadable line member).positive)
  have same := relined_same_iff relined known accepted zero
    fun number isNumber => newNumber_injective positive isNumber
  have split (holds : Int → Prop) : (∀ target ∈ keptTargets Double program, holds target) ↔
      ∀ line ∈ (parseProgram program.entries : StatementParseResult Double).lines,
        moves program line = false → ∀ target ∈ line.statement.lineTargets, holds target := by
    simp only [mem_keptTargets]
    exact ⟨fun all line member kept target refers => all target ⟨line, member, kept, refers⟩,
      fun all target ⟨line, member, kept, refers⟩ => all line member kept target refers⟩
  rw [compile_eq_ok, split, ← same]
  constructor
  · rintro ⟨-, knownNew, -, isResult⟩
    exact ⟨knownNew, isResult.symm⟩
  · rintro ⟨knownNew, isResult⟩
    exact ⟨noNewErrors, knownNew, relined.accepted accepted, isResult.symm⟩

end Compiled

/-! ## A `GOTO`, alone and behind `THEN` -/

theorem upperWord_of_upper {word : String} (upper : word.toList.map Char.toUpper = word.toList) :
    upperWord word.toList = word := upperWord_eq_iff.mpr upper

/-- `GOTO 5` is parsed. -/
theorem parseLine_goto_five : parseLine "GOTO 5".toList = .ok (.goto 5 : Stmt Int) := by
  have word : upperWord (nextWord "GOTO 5".toList).1 = "GOTO" := upperWord_eq_iff.mpr rfl
  rw [parseLine_eq, parseWith, word]
  rfl

/-- The `GOTO` behind `THEN` is an arm of its own. -/
theorem parseLine_ifGoto_five : parseLine "IF A THEN GOTO 5".toList =
    .ok (.ifStmt (.identifier "A") (.inline (.goto 5)) none : Stmt Int) := by
  have words : "IF A THEN GOTO 5".toList = joinTokens
      ("IF".toList :: (["A".toList] ++ "THEN".toList :: "GOTO".toList :: ["5".toList])) := rfl
  have clean : Clean
      ("IF".toList :: (["A".toList] ++ "THEN".toList :: "GOTO".toList :: ["5".toList])) :=
    clean_tokenize "IF A THEN GOTO 5".toList
  have cleanArm : Clean ["GOTO".toList, "5".toList] := clean_tokenize "GOTO 5".toList
  have notThen : ∀ word ∈ ["A".toList], upperWord word ≠ "THEN" := by
    rw [List.forall_mem_singleton, ne_eq, upperWord_eq_iff]
    decide
  have noElse : findKeywordToken (joinTokens ["GOTO".toList, "5".toList]) "ELSE" = none := by decide
  have arm : parseBranchArmSpec parseLine "IF THEN" (joinTokens ["GOTO".toList, "5".toList]) =
      .ok (.inline (.goto 5) : BranchArm Int) := by
    have whole : joinTokens ["GOTO".toList, "5".toList] = "GOTO 5".toList := rfl
    have isGoto : upperWord (nextWord "GOTO 5".toList).1 = "GOTO" := upperWord_eq_iff.mpr rfl
    have bare : trim "GOTO 5".toList = "GOTO 5".toList := rfl
    have notNumber : parsePositiveLineNumber "GOTO 5".toList = none := by decide
    simp only [whole, parseBranchArmSpec, bare, notNumber, isGoto, parseLine_goto_five]
    rfl
  have isCondition : expressionIn "IF condition error: " (joinTokens ["A".toList]) =
      .ok (.identifier "A" : Expr Int) := by
    have isLetter : joinTokens ["A".toList] = ['A'] := rfl
    have letter : 'A'.isAlpha = true := by decide
    rw [expressionIn, isLetter, parseExpression_letter letter]
    rfl
  rw [words, parseLine_if clean (upperWord_of_upper rfl) (upperWord_of_upper rfl) notThen,
    parseArms_of_free (piece_joinTokens cleanArm) noElse, arm, isCondition]
  rfl

/-- A program of one line, with the number 5. -/
def lineFive (text : String) : BasicProgram := ⟨[(5, text)], by simp⟩

/-- Such a program compiles when the one line that it refers to is its own. -/
theorem compile_lineFive {text : String} {statement : Stmt Int}
    (bare : trim text.toList = text.toList) (notEmpty : text ≠ "")
    (parsed : parseLine text.toList = .ok statement) (plain : statement.lineTargets = [5])
    (accepted : (⟨5, statement⟩ : BasicLine Int).Accepted) :
    compile (lineFive text).entries = .ok (assembled [⟨5, statement⟩]) := by
  have parsedProgram : parseProgram (lineFive text).entries =
      ({ lines := [⟨5, statement⟩] } : StatementParseResult Int) :=
    parseProgram_line bare notEmpty parsed
  rw [compile_eq_ok, parsedProgram]
  exact ⟨rfl, by simp [TargetsKnown, plain], by simpa using accepted, rfl⟩

/-- The line 5 with a tidy text is loadable. -/
theorem lineFive_loadable {text : String}
    (spaced : respaced isSpace ' ' text.toList = text.toList) :
    ∀ line ∈ (lineFive text).entries, Loadable line :=
  List.forall_mem_singleton.mpr ⟨(by decide : (0 : Int) < 5), (by decide : (5 : Int) ≤ intMax),
    (respaced_eq_self_iff rfl _).mp spaced⟩

/-- `GOTO 5` is looked up. -/
theorem looksUp_goto : looksUp "GOTO 5" = true := by
  have words : tokenize "GOTO 5".toList = ["GOTO".toList, "5".toList] := by decide
  have isGoto : upperWord "GOTO".toList = "GOTO" := upperWord_of_upper rfl
  have number : numbered ["5".toList] [0] = [0] := by decide
  rw [looksUp, words]
  simp only [jumpPositions, isGoto, number]
  rfl

/-- A `GOTO` behind `THEN` is not. -/
theorem looksUp_ifGoto : looksUp "IF A THEN GOTO 5" = false := by
  have words : tokenize "IF A THEN GOTO 5".toList =
      ["IF".toList, "A".toList, "THEN".toList, "GOTO".toList, "5".toList] := by decide
  have isIf : upperWord "IF".toList = "IF" := upperWord_of_upper rfl
  rw [looksUp, words]
  simp only [jumpPositions, isIf, firstKeyword, lastKeyword, upperWord_eq_iff]
  decide

/-- `GOTO 5` goes to its line under its new number. -/
theorem goto_renumbered : @compile Int _ (renumber 10 10 (lineFive "GOTO 5")).entries =
    .ok ⟨[{ op := .jump, operand := .int 0 }, haltInstr], [10, 0]⟩ := by
  have goto := compile_lineFive rfl (by decide) parseLine_goto_five rfl rfl
  have goes := @renumber_same_iff Int _ 10 10 (lineFive "GOTO 5") _
    (lineFive_loadable (by decide)) (by decide) (by decide) (by decide) goto
  have looked : (lineFive "GOTO 5").entries.filter (fun line => !looksUp line.2) = [] := by
    simp [lineFive, looksUp_goto]
  refine goes.mpr fun target member => ?_
  rw [keptTargets, looked] at member
  cases member

/-- Behind `THEN` it still goes to line 5 after its line has got the number 10, and the program no
longer compiles. -/
theorem ifGoto_not_renumbered :
    (∃ emitted, @compile Int _ (lineFive "IF A THEN GOTO 5").entries = .ok emitted) ∧
      ∀ emitted, @compile Int _ (renumber 10 10 (lineFive "IF A THEN GOTO 5")).entries ≠
        .ok emitted := by
  have compiles := compile_lineFive rfl (by decide) parseLine_ifGoto_five rfl rfl
  refine ⟨⟨_, compiles⟩, fun emitted compiled => ?_⟩
  have entries : (renumber 10 10 (lineFive "IF A THEN GOTO 5")).entries =
      [(10, "IF A THEN GOTO 5")] := by
    rw [entries_renumber (by decide)]
    simp only [lineFive, renumberedLine, List.map_cons, List.map_nil,
      rewriteRenumberTargets_of_not looksUp_ifGoto]
    rfl
  rw [entries, compile_eq_ok, parseProgram_line rfl (by decide) parseLine_ifGoto_five] at compiled
  obtain ⟨-, known, -⟩ := compiled
  have isLine := known _ List.mem_cons_self 5 List.mem_cons_self
  simp at isLine

end Gemini.Basic
