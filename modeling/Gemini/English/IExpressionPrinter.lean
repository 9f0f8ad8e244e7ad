import Gemini.English.IExpressionGrammar
import Mathlib.Tactic.IntervalCases

/-!
# The text of an I-type expression

`IExpr.print` writes an expression with the parentheses that the precedence and the associativity of
its operators ask for. The parser reads it back, and it takes no other texts than such ones with more
parentheses and signs in them.
-/

namespace Gemini.English

namespace IType

/-- An expression of the level `own` may stand where one of this level is wanted. -/
def Level.allows (wanted own : Level) : Bool :=
  match own with
  | .primary => true
  | .unary => wanted ≠ .primary
  | .multiplicative => wanted ≠ .primary && wanted ≠ .unary
  | .additive => wanted = .additive || wanted = .expression || wanted = .condition
  | .expression => wanted = .expression
  | .condition => wanted = .condition

/-- Whether an operator is one of products. -/
def isProduct (op : Char) : Bool := op = '*' || op = '/'

/-- The symbols of the arithmetic operators. -/
def operatorSymbol (op : Char) : Symbol :=
  if op = '+' then .plus else if op = '-' then .minus else if op = '*' then .star else .slash

/-- The symbol of a comparison. -/
def compareSymbol : ICompareOp → Symbol
  | .eq => .eq
  | .ne => .ne
  | .lt => .lt
  | .le => .le
  | .gt => .gt
  | .ge => .ge

/-- The name of a function. -/
def callName : ICallKind → List Char
  | .iconv => "ICONV".toList
  | .oconv => "OCONV".toList

/-- A letter of a string, with a `\\` before a quote and a `\\`. -/
def escape (c : Char) : Letter := ⟨c = '"' || c = '\\', c⟩

/-- The letter of a field. -/
def fieldLetter (attributeNo : ℕ) : Char := Char.ofNat (attributeNo + 64)

/-- Lexemes in parentheses, unless they may stand as they are. -/
def wrap (wanted own : Level) (lexemes : List Lexeme) : List Lexeme :=
  if wanted.allows own then lexemes
  else .symbol .lParen :: (lexemes ++ [.symbol .rParen])

end IType

namespace IExpr

open IType

variable {Number : Type} (spell : Number → Literal)

/-- The level of the grammar that an expression is of. -/
def level : IExpr Number → Level
  | .number _ => .primary
  | .string _ => .primary
  | .field _ => .primary
  | .unary _ _ => .unary
  | .binary op _ _ => if isProduct op then .multiplicative else .additive
  | .compare _ _ _ => .condition
  | .ifThenElse _ _ _ => .expression
  | .call _ _ _ => .primary

/-- The lexemes of an expression, with the given literals for its numbers. -/
def print : IExpr Number → List Lexeme
  | .number value => [.number (spell value)]
  | .string value => [.string (value.toList.map escape)]
  | .field attributeNo => [.word [fieldLetter attributeNo]]
  | .unary _ operand => .symbol .minus :: wrap .unary operand.level operand.print
  | .binary op left right =>
      wrap (if isProduct op then .multiplicative else .additive) left.level left.print ++
        .symbol (operatorSymbol op) ::
          wrap (if isProduct op then .unary else .multiplicative) right.level right.print
  | .compare op left right =>
      wrap .additive left.level left.print ++
        .symbol (compareSymbol op) :: wrap .additive right.level right.print
  | .ifThenElse condition thenExpr elseExpr =>
      .word "IF".toList :: (wrap .condition condition.level condition.print ++
        .word "THEN".toList :: (wrap .expression thenExpr.level thenExpr.print ++
          .word "ELSE".toList :: wrap .expression elseExpr.level elseExpr.print))
  | .call kind valueArg codeArg =>
      .word (callName kind) :: .symbol .lParen :: (wrap .expression valueArg.level valueArg.print ++
        .symbol .comma :: (wrap .expression codeArg.level codeArg.print ++ [.symbol .rParen]))

/-- The expressions of the documentation, with literals for their numbers: fields have a letter, and
only a condition is compared. -/
def Documented [Literals Number] : IExpr Number → Prop
  | .number value => (spell value).Valid ∧ Literals.strtod (spell value).chars = value
  | .string _ => True
  | .field attributeNo => 1 ≤ attributeNo ∧ attributeNo ≤ 26
  | .unary op operand => op = '-' ∧ operand.level ≠ .condition ∧ operand.Documented
  | .binary op left right => op ∈ ['+', '-', '*', '/'] ∧
      (left.level ≠ .condition ∧ left.Documented) ∧ right.level ≠ .condition ∧ right.Documented
  | .compare _ left right =>
      (left.level ≠ .condition ∧ left.Documented) ∧ right.level ≠ .condition ∧ right.Documented
  | .ifThenElse condition thenExpr elseExpr => condition.Documented ∧
      (thenExpr.level ≠ .condition ∧ thenExpr.Documented) ∧
        elseExpr.level ≠ .condition ∧ elseExpr.Documented
  | .call _ valueArg codeArg =>
      (valueArg.level ≠ .condition ∧ valueArg.Documented) ∧
        codeArg.level ≠ .condition ∧ codeArg.Documented

end IExpr

namespace IType

variable {Number : Type}

/-! ## Levels -/

section Levels

variable {own wanted : Level} {expression : IExpr Number} {tokens : List (Token Number)}

/-- An expression of a level stands wherever its level may. -/
theorem Renders.raise (renders : Renders own expression tokens) (allows : wanted.allows own) :
    Renders wanted expression tokens := by
  have fromAdditive : ∀ level : Level, level.allows .additive →
      Renders .additive expression tokens → Renders level expression tokens := by
    intro level allows additive
    cases level with
    | additive => exact additive
    | expression => exact .expression additive
    | condition => exact .condition additive
    | _ => cases allows
  have fromMultiplicative : ∀ level : Level, level.allows .multiplicative →
      Renders .multiplicative expression tokens → Renders level expression tokens := by
    intro level allows multiplicative
    cases level with
    | multiplicative => exact multiplicative
    | additive => exact .additive multiplicative
    | expression | condition => exact fromAdditive _ rfl (.additive multiplicative)
    | _ => cases allows
  have fromUnary : ∀ level : Level, level.allows .unary →
      Renders .unary expression tokens → Renders level expression tokens := by
    intro level allows unary
    cases level with
    | unary => exact unary
    | multiplicative => exact .multiplicative unary
    | additive | expression | condition =>
        exact fromMultiplicative _ rfl (.multiplicative unary)
    | _ => cases allows
  cases own with
  | primary =>
      cases wanted with
      | primary => exact renders
      | _ => exact fromUnary _ rfl (.unary renders)
  | unary => exact fromUnary _ allows renders
  | multiplicative => exact fromMultiplicative _ allows renders
  | additive => exact fromAdditive _ allows renders
  | expression =>
      cases wanted with
      | expression => exact renders
      | _ => cases allows
  | condition =>
      cases wanted with
      | condition => exact renders
      | _ => cases allows

/-- A level that is not a condition's is that of an expression. -/
theorem Level.expression_allows {own : Level} (notCondition : own ≠ .condition) :
    Level.expression.allows own := by
  cases own with
  | condition => exact absurd rfl notCondition
  | _ => rfl

variable [Literals Number] {lexemes : List Lexeme}

/-- An expression in parentheses stands anywhere. -/
theorem renders_wrap (renders : Renders own expression (lexemes.map Lexeme.token))
    (mayStand : own ≠ .condition ∨ wanted = .condition) :
    Renders wanted expression ((wrap wanted own lexemes).map Lexeme.token) := by
  unfold wrap
  split
  · next allows => exact renders.raise allows
  · next refused =>
      have notCondition : own ≠ .condition := by
        rintro rfl
        rcases mayStand with other | rfl
        · exact other rfl
        · exact refused rfl
      have grouped := Renders.group (renders.raise (Level.expression_allows notCondition))
      rw [List.map_cons, List.map_append]
      exact grouped.raise rfl

end Levels

/-! ## A printed expression renders it -/

/-- The letter of an attribute is a word for it. -/
theorem fieldLetter_spec {attributeNo : ℕ} (first : 1 ≤ attributeNo) (last : attributeNo ≤ 26) :
    (fieldLetter attributeNo).isAlpha ∧
      (wordToken [fieldLetter attributeNo] : Token Number) = .field attributeNo := by
  interval_cases attributeNo <;> exact ⟨rfl, rfl⟩

/-- The keywords are words. -/
theorem keyword_tokens : (wordToken "IF".toList : Token Number) = .kwIf ∧
    (wordToken "THEN".toList : Token Number) = .kwThen ∧
      (wordToken "ELSE".toList : Token Number) = .kwElse ∧
        ∀ kind, (wordToken (callName kind) : Token Number) = callToken kind := by
  refine ⟨rfl, rfl, rfl, fun kind => ?_⟩
  cases kind <;> rfl

/-- A comparison comes back from its symbol. -/
theorem compareOp_symbol (op : ICompareOp) :
    compareOp ((compareSymbol op).token : Token Number) = some op := by
  cases op <;> rfl

/-- An operator comes back from its symbol. -/
theorem operatorSymbol_op {op : Char} (isOperator : op ∈ ['+', '-', '*', '/']) :
    if isProduct op then
      multiplicativeOp ((operatorSymbol op).token : Token Number) = some (.binary op)
    else additiveOp ((operatorSymbol op).token : Token Number) = some (.binary op) := by
  rcases List.mem_cons.mp isOperator with rfl | isOperator
  · rfl
  rcases List.mem_cons.mp isOperator with rfl | isOperator
  · rfl
  rcases List.mem_pair.mp isOperator with rfl | rfl
  · rfl
  · rfl

section Printing

variable [Literals Number] {spell : Number → Literal}

/-- The printed lexemes render the expression. -/
theorem renders_print {expression : IExpr Number} (documented : expression.Documented spell) :
    Renders expression.level expression ((expression.print spell).map Lexeme.token) := by
  obtain ⟨isIf, isThen, isElse, isCall⟩ := @keyword_tokens Number
  induction expression with
  | number value =>
      have isToken : (Lexeme.number (spell value)).token = .number value :=
        congrArg Token.number documented.2
      rw [IExpr.print, List.map_singleton, isToken]
      exact .number value
  | string value =>
      have letters : (value.toList.map escape).map Letter.letter = value.toList := by
        rw [List.map_map]
        exact List.map_id _
      have rendered := @Renders.string Number value.toList
      rw [String.ofList_toList] at rendered
      rw [IExpr.print, List.map_singleton, Lexeme.token, letters]
      exact rendered
  | field attributeNo =>
      rw [IExpr.print, List.map_singleton, Lexeme.token,
        (fieldLetter_spec documented.1 documented.2).2]
      exact .field attributeNo
  | unary op operand hypothesis =>
      obtain ⟨rfl, notCompared, inner⟩ := documented
      exact .negate (renders_wrap (hypothesis inner) (.inl notCompared))
  | binary op left right first second =>
      obtain ⟨isOperator, ⟨leftNotCompared, leftInner⟩, rightNotCompared, rightInner⟩ := documented
      have isOp := @operatorSymbol_op Number op isOperator
      have leftRenders := first leftInner
      have rightRenders := second rightInner
      rw [IExpr.print, IExpr.level, List.map_append, List.map_cons]
      split at isOp
      · next product =>
          rw [if_pos product, if_pos product]
          exact .product isOp (renders_wrap leftRenders (.inl leftNotCompared))
            (renders_wrap rightRenders (.inl rightNotCompared))
      · next sum =>
          rw [if_neg sum, if_neg sum]
          exact .sum isOp (renders_wrap leftRenders (.inl leftNotCompared))
            (renders_wrap rightRenders (.inl rightNotCompared))
  | compare op left right first second =>
      obtain ⟨⟨leftNotCompared, leftInner⟩, rightNotCompared, rightInner⟩ := documented
      rw [IExpr.print, List.map_append, List.map_cons]
      exact .compare (compareOp_symbol op)
        (renders_wrap (first leftInner) (.inl leftNotCompared))
        (renders_wrap (second rightInner) (.inl rightNotCompared))
  | ifThenElse condition thenExpr elseExpr tests first second =>
      obtain ⟨inner, ⟨thenNotCompared, thenInner⟩, elseNotCompared, elseInner⟩ := documented
      simp only [IExpr.print, List.map_cons, List.map_append, Lexeme.token, isIf, isThen, isElse]
      exact .ifThenElse (renders_wrap (tests inner) (.inr rfl))
        (renders_wrap (first thenInner) (.inl thenNotCompared))
        (renders_wrap (second elseInner) (.inl elseNotCompared))
  | call kind valueArg codeArg value code =>
      obtain ⟨⟨valueNotCompared, valueInner⟩, codeNotCompared, codeInner⟩ := documented
      simp only [IExpr.print, List.map_cons, List.map_append, Lexeme.token, isCall]
      exact .call (renders_wrap (value valueInner) (.inl valueNotCompared))
        (renders_wrap (code codeInner) (.inl codeNotCompared))

end Printing

/-! ## The text of a printed expression -/

/-- Lexemes with a blank between each two of them. -/
def spaced (lexemes : List Lexeme) : List Char := [' '].intercalate (lexemes.map Lexeme.chars)

/-- Every lexeme ends before a blank, and at the end of the text. -/
theorem endsBefore_blank (lexeme : Lexeme) :
    lexeme.EndsBefore none ∧ lexeme.EndsBefore (some ' ') := by
  cases lexeme with
  | string letters => exact ⟨trivial, trivial⟩
  | number literal =>
      refine ⟨nofun, ?_⟩
      rintro _ ⟨⟩
      exact ⟨rfl, fun _ => by decide⟩
  | word letters =>
      refine ⟨nofun, ?_⟩
      rintro _ ⟨⟩
      rfl
  | symbol mark =>
      cases mark with
      | lt =>
          refine ⟨nofun, ?_⟩
          rintro _ ⟨⟩
          decide
      | gt =>
          refine ⟨nofun, ?_⟩
          rintro _ ⟨⟩
          decide
      | _ => exact ⟨trivial, trivial⟩

/-- Lexemes with blanks between them spell themselves. -/
theorem spells_spaced {lexemes : List Lexeme} (valid : ∀ lexeme ∈ lexemes, lexeme.Valid) :
    Spells (spaced lexemes) lexemes := by
  unfold spaced
  induction lexemes with
  | nil => exact .done nofun
  | cons lexeme lexemes hypothesis =>
      obtain ⟨isValid, others⟩ := List.forall_mem_cons.mp valid
      obtain ⟨atEnd, atBlank⟩ := endsBefore_blank lexeme
      cases lexemes with
      | nil =>
          have last := @Spells.next [] [] lexeme [] nofun isValid atEnd (.done nofun)
          rw [List.nil_append, List.append_nil] at last
          rw [List.map_singleton, List.intercalate_singleton]
          exact last
      | cons next lexemes =>
          rw [List.map_cons, List.map_cons, List.intercalate_cons_cons, List.append_assoc]
          exact @Spells.next [] _ lexeme _ nofun isValid atBlank ((hypothesis others).blank rfl)

/-- Parentheses are valid. -/
theorem valid_wrap {wanted own : Level} {lexemes : List Lexeme}
    (valid : ∀ lexeme ∈ lexemes, lexeme.Valid) :
    ∀ lexeme ∈ wrap wanted own lexemes, lexeme.Valid := by
  unfold wrap
  split
  · exact valid
  · refine List.forall_mem_cons.mpr ⟨trivial, List.forall_mem_append.mpr ⟨valid, ?_⟩⟩
    exact List.forall_mem_singleton.mpr trivial

/-- Keywords are valid. -/
theorem valid_keywords : (Lexeme.word "IF".toList).Valid ∧ (Lexeme.word "THEN".toList).Valid ∧
    (Lexeme.word "ELSE".toList).Valid ∧ ∀ kind, (Lexeme.word (callName kind)).Valid := by
  have letters : ∀ word : List Char, word ≠ [] → word.all Char.isAlpha = true →
      (Lexeme.word word).Valid := fun word some all => ⟨some, List.all_eq_true.mp all⟩
  refine ⟨letters _ nofun rfl, letters _ nofun rfl, letters _ nofun rfl, fun kind => ?_⟩
  cases kind with
  | iconv => exact letters _ nofun rfl
  | oconv => exact letters _ nofun rfl

section Printing

variable [Literals Number] {spell : Number → Literal}

/-- The printed lexemes are valid. -/
theorem valid_print {expression : IExpr Number} (documented : expression.Documented spell) :
    ∀ lexeme ∈ expression.print spell, lexeme.Valid := by
  obtain ⟨isIf, isThen, isElse, isCall⟩ := valid_keywords
  induction expression with
  | number value => exact List.forall_mem_singleton.mpr documented.1
  | string value =>
      refine List.forall_mem_singleton.mpr fun part member plain => ?_
      obtain ⟨c, -, rfl⟩ := List.mem_map.mp member
      obtain ⟨notQuote, notEscape⟩ := Bool.or_eq_false_iff.mp plain
      exact ⟨of_decide_eq_false notQuote, of_decide_eq_false notEscape⟩
  | field attributeNo =>
      refine List.forall_mem_singleton.mpr ⟨nofun, List.forall_mem_singleton.mpr ?_⟩
      exact (@fieldLetter_spec Number _ documented.1 documented.2).1
  | unary op operand hypothesis =>
      exact List.forall_mem_cons.mpr ⟨trivial, valid_wrap (hypothesis documented.2.2)⟩
  | binary op left right first second =>
      obtain ⟨-, ⟨-, leftInner⟩, -, rightInner⟩ := documented
      refine List.forall_mem_append.mpr ⟨valid_wrap (first leftInner), ?_⟩
      exact List.forall_mem_cons.mpr ⟨trivial, valid_wrap (second rightInner)⟩
  | compare op left right first second =>
      obtain ⟨⟨-, leftInner⟩, -, rightInner⟩ := documented
      refine List.forall_mem_append.mpr ⟨valid_wrap (first leftInner), ?_⟩
      exact List.forall_mem_cons.mpr ⟨trivial, valid_wrap (second rightInner)⟩
  | ifThenElse condition thenExpr elseExpr tests first second =>
      obtain ⟨inner, ⟨-, thenInner⟩, -, elseInner⟩ := documented
      refine List.forall_mem_cons.mpr ⟨isIf, ?_⟩
      refine List.forall_mem_append.mpr ⟨valid_wrap (tests inner), ?_⟩
      refine List.forall_mem_cons.mpr ⟨isThen, ?_⟩
      refine List.forall_mem_append.mpr ⟨valid_wrap (first thenInner), ?_⟩
      exact List.forall_mem_cons.mpr ⟨isElse, valid_wrap (second elseInner)⟩
  | call kind valueArg codeArg value code =>
      obtain ⟨⟨-, valueInner⟩, -, codeInner⟩ := documented
      refine List.forall_mem_cons.mpr ⟨isCall kind, List.forall_mem_cons.mpr ⟨trivial, ?_⟩⟩
      refine List.forall_mem_append.mpr ⟨valid_wrap (value valueInner), ?_⟩
      refine List.forall_mem_cons.mpr ⟨trivial, ?_⟩
      refine List.forall_mem_append.mpr ⟨valid_wrap (code codeInner), ?_⟩
      exact List.forall_mem_singleton.mpr trivial

end Printing

end IType

end Gemini.English
