import Mathlib.Data.List.Chain
import Gemini.Basic.ExpressionParser

/-!
# The grammar of expressions

`Renders` gives the tokens of an expression, level by level. `renders_of_parseTokens` says that the
parser returns what its tokens render, and `parseTokens_renders` that it finds every rendering.

The grammar has two parameters: the level of what stands in parentheses and the level of the left
operand of a comparison. The documentation puts a comparison in both places, the parser neither.
-/

namespace Gemini.Basic

open Gemini.Data (bind_eq_ok)

variable {Double : Type}

/-- The levels of precedence. -/
inductive Level where
  | primary
  | unary
  | mulDiv
  | addSub
  | comparison
deriving DecidableEq

/-- What a grammar leaves open: the levels of two of its places. -/
structure Grammar where
  /-- What stands in the parentheses of a group or a subscript. -/
  inside : Level
  /-- The left operand of a comparison. -/
  compared : Level

/-- Comparisons associate to the left and stand in parentheses. -/
def documented : Grammar := { inside := .comparison, compared := .comparison }

/-- At most one comparison, which does not stand in parentheses. -/
def implemented : Grammar := { inside := .addSub, compared := .addSub }

/-- An expression at a level, or the arguments of a call. -/
inductive Phrase (Double : Type) where
  | expr (level : Level) (expression : Expr Double)
  | arguments (args : List (Expr Double))

/-- The tokens of a phrase. -/
inductive Renders (grammar : Grammar) : Phrase Double → List (ExprToken Double) → Prop
  | intLiteral (value : Int) (lexeme : List Char) :
      Renders grammar (.expr .primary (.intLiteral value)) [⟨.intLiteral value, lexeme⟩]
  | floatLiteral (value : Double) (lexeme : List Char) :
      Renders grammar (.expr .primary (.floatLiteral value)) [⟨.floatLiteral value, lexeme⟩]
  | stringLiteral (value : String) (lexeme : List Char) :
      Renders grammar (.expr .primary (.stringLiteral value)) [⟨.stringLiteral value, lexeme⟩]
  | identifier (name : List Char) :
      Renders grammar (.expr .primary (.identifier (String.ofList name))) [⟨.identifier, name⟩]
  | subscript {name opening closing : List Char} {index : Expr Double}
      {tokens : List (ExprToken Double)}
      (plain : isBuiltinCallName (uppercase (String.ofList name)) = false)
      (inner : Renders grammar (.expr grammar.inside index) tokens) :
      Renders grammar (.expr .primary (.subscript (String.ofList name) index))
        (⟨.identifier, name⟩ :: ⟨.lParen, opening⟩ :: (tokens ++ [⟨.rParen, closing⟩]))
  | attributeAccess {name opening closing : List Char} {attr : Expr Double}
      {tokens : List (ExprToken Double)}
      (inner : Renders grammar (.expr .addSub attr) tokens) :
      Renders grammar (.expr .primary (.attributeAccess (String.ofList name) attr))
        (⟨.identifier, name⟩ :: ⟨.lt true, opening⟩ :: (tokens ++ [⟨.gt, closing⟩]))
  | valueAccess {name opening separator closing : List Char} {attr valueIndex : Expr Double}
      {tokens others : List (ExprToken Double)}
      (inner : Renders grammar (.expr .addSub attr) tokens)
      (second : Renders grammar (.expr .addSub valueIndex) others) :
      Renders grammar (.expr .primary (.valueAccess (String.ofList name) attr valueIndex))
        (⟨.identifier, name⟩ :: ⟨.lt true, opening⟩ ::
          (tokens ++ ⟨.comma, separator⟩ :: (others ++ [⟨.gt, closing⟩])))
  | functionCall {name opening closing : List Char} {args : List (Expr Double)}
      {tokens : List (ExprToken Double)} {minArgs maxArgs : Nat}
      (builtin : isBuiltinCallName (uppercase (String.ofList name)))
      (bounds : builtinArityBounds (uppercase (String.ofList name)) = some (minArgs, maxArgs))
      (atLeast : minArgs ≤ args.length) (atMost : args.length ≤ maxArgs)
      (inner : Renders grammar (.arguments args) tokens) :
      Renders grammar (.expr .primary (.functionCall (uppercase (String.ofList name)) args))
        (⟨.identifier, name⟩ :: ⟨.lParen, opening⟩ :: (tokens ++ [⟨.rParen, closing⟩]))
  | grouped {opening closing : List Char} {expression : Expr Double}
      {tokens : List (ExprToken Double)}
      (inner : Renders grammar (.expr grammar.inside expression) tokens) :
      Renders grammar (.expr .primary (.grouped expression))
        (⟨.lParen, opening⟩ :: (tokens ++ [⟨.rParen, closing⟩]))
  | unary {expression : Expr Double} {tokens : List (ExprToken Double)}
      (inner : Renders grammar (.expr .primary expression) tokens) :
      Renders grammar (.expr .unary expression) tokens
  | negate {sign : List Char} {operand : Expr Double} {tokens : List (ExprToken Double)}
      (inner : Renders grammar (.expr .unary operand) tokens) :
      Renders grammar (.expr .unary (.negate operand)) (⟨.minus, sign⟩ :: tokens)
  | mulDiv {expression : Expr Double} {tokens : List (ExprToken Double)}
      (inner : Renders grammar (.expr .unary expression) tokens) :
      Renders grammar (.expr .mulDiv expression) tokens
  | product {token : ExprToken Double} {op : BinaryOp} {left right : Expr Double}
      {tokens others : List (ExprToken Double)} (isOp : multiplicativeOp token.type = some op)
      (first : Renders grammar (.expr .mulDiv left) tokens)
      (second : Renders grammar (.expr .unary right) others) :
      Renders grammar (.expr .mulDiv (.binary op left right)) (tokens ++ token :: others)
  | addSub {expression : Expr Double} {tokens : List (ExprToken Double)}
      (inner : Renders grammar (.expr .mulDiv expression) tokens) :
      Renders grammar (.expr .addSub expression) tokens
  | sum {token : ExprToken Double} {op : BinaryOp} {left right : Expr Double}
      {tokens others : List (ExprToken Double)} (isOp : additiveOp token.type = some op)
      (first : Renders grammar (.expr .addSub left) tokens)
      (second : Renders grammar (.expr .mulDiv right) others) :
      Renders grammar (.expr .addSub (.binary op left right)) (tokens ++ token :: others)
  | comparison {expression : Expr Double} {tokens : List (ExprToken Double)}
      (inner : Renders grammar (.expr .addSub expression) tokens) :
      Renders grammar (.expr .comparison expression) tokens
  | compare {token : ExprToken Double} {op : BinaryOp} {left right : Expr Double}
      {tokens others : List (ExprToken Double)} (isOp : comparisonOp token.type = some op)
      (spaced : token.type ≠ .lt true)
      (first : Renders grammar (.expr grammar.compared left) tokens)
      (second : Renders grammar (.expr .addSub right) others) :
      Renders grammar (.expr .comparison (.binary op left right)) (tokens ++ token :: others)
  | noArguments : Renders grammar (.arguments []) []
  | lastArgument {arg : Expr Double} {tokens : List (ExprToken Double)}
      (inner : Renders grammar (.expr .comparison arg) tokens) :
      Renders grammar (.arguments [arg]) tokens
  | moreArguments {separator : List Char} {arg : Expr Double} {args : List (Expr Double)}
      {tokens others : List (ExprToken Double)} (more : args ≠ [])
      (first : Renders grammar (.expr .comparison arg) tokens)
      (second : Renders grammar (.arguments args) others) :
      Renders grammar (.arguments (arg :: args)) (tokens ++ ⟨.comma, separator⟩ :: others)

/-! ## What may follow -/

/-- The tokens of a phrase that ends in an identifier do not go on as a call, a subscript or an
attribute access. -/
def MayFollow (tokens rest : List (ExprToken Double)) : Prop :=
  ∀ last ∈ tokens.getLast?, last.type = .identifier →
    ∀ next ∈ rest.head?, next.type ≠ .lParen ∧ next.type ≠ .lt true

/-- What may follow a phrase may follow it behind other tokens. -/
theorem MayFollow.of_append {front tokens rest : List (ExprToken Double)} (some : tokens ≠ [])
    (follows : MayFollow tokens rest) : MayFollow (front ++ tokens) rest := by
  intro last isLast
  rw [List.getLast?_append_of_ne_nil front some] at isLast
  exact follows last isLast

/-- What may follow tokens may follow the phrase at their end. -/
theorem MayFollow.to_append {front tokens rest : List (ExprToken Double)} (some : tokens ≠ [])
    (follows : MayFollow (front ++ tokens) rest) : MayFollow tokens rest := by
  intro last isLast
  exact follows last (by rwa [List.getLast?_append_of_ne_nil front some])

/-- Anything may follow a phrase that does not end in an identifier. -/
theorem mayFollow_of_last {front : List (ExprToken Double)} {last : ExprToken Double}
    (notName : last.type ≠ .identifier) (rest : List (ExprToken Double)) :
    MayFollow (front ++ [last]) rest := by
  intro other isLast isName
  rw [List.getLast?_append_of_ne_nil front (List.cons_ne_nil _ _)] at isLast
  obtain rfl : last = other := Option.some.inj isLast
  exact absurd isName notName

/-- A token that opens nothing may follow every phrase. -/
theorem mayFollow_of_next {tokens rest : List (ExprToken Double)} {next : ExprToken Double}
    (notParen : next.type ≠ .lParen) (notAdjacent : next.type ≠ .lt true) :
    MayFollow tokens (next :: rest) := by
  intro _ _ _ other isNext
  obtain rfl : next = other := Option.some.inj isNext
  exact ⟨notParen, notAdjacent⟩

/-- Every phrase may be the last. -/
theorem mayFollow_nil (tokens : List (ExprToken Double)) : MayFollow tokens [] :=
  fun _ _ _ => nofun

/-- What a phrase of an expression can start with. -/
structure Starts (token : ExprToken Double) : Prop where
  notRParen : isRParen token.type = false
  notComma : isComma token.type = false
  notGt : isGt token.type = false
  notAdjacent : token.type ≠ .lt true

/-- A token that starts an expression does not end an index. -/
theorem Starts.notIndexEnd {token : ExprToken Double} (starts : Starts token) :
    (isComma token.type || isGt token.type) = false := by
  rw [starts.notComma, starts.notGt]
  rfl

/-- The tokens of a phrase start with a token that starts an expression. -/
theorem Renders.starts {grammar : Grammar} {phrase : Phrase Double}
    {tokens : List (ExprToken Double)} (renders : Renders grammar phrase tokens)
    (notEmpty : phrase ≠ .arguments []) : ∃ token rest, tokens = token :: rest ∧ Starts token := by
  induction renders with
  | noArguments => exact absurd rfl notEmpty
  | unary _ inductionHypothesis | mulDiv _ inductionHypothesis | addSub _ inductionHypothesis
  | comparison _ inductionHypothesis | lastArgument _ inductionHypothesis =>
      exact inductionHypothesis nofun
  | product _ _ _ inductionHypothesis | sum _ _ _ inductionHypothesis
  | compare _ _ _ _ inductionHypothesis | moreArguments _ _ _ inductionHypothesis =>
      obtain ⟨token, rest, rfl, starts⟩ := inductionHypothesis nofun
      exact ⟨token, _, rfl, starts⟩
  | _ => exact ⟨_, _, rfl, rfl, rfl, rfl, nofun⟩

/-- The tokens of an expression are not empty. -/
theorem Renders.ne_nil {grammar : Grammar} {level : Level} {expression : Expr Double}
    {tokens : List (ExprToken Double)}
    (renders : Renders grammar (.expr level expression) tokens) : tokens ≠ [] := by
  obtain ⟨token, rest, rfl, -⟩ := renders.starts nofun
  exact List.cons_ne_nil token rest

/-! ## The parser returns what its tokens render -/

/-- A `<` that is marked as adjacent directly follows an identifier, unless it comes first. -/
def Flagged (tokens : List (ExprToken Double)) : Prop :=
  tokens.IsChain fun token next => next.type = .lt true → token.type = .identifier

/-- Marks stay right when tokens in front are left out. -/
theorem Flagged.right {front rest : List (ExprToken Double)} (flagged : Flagged (front ++ rest)) :
    Flagged rest :=
  List.IsChain.right_of_append flagged

theorem Flagged.tail {token : ExprToken Double} {rest : List (ExprToken Double)}
    (flagged : Flagged (token :: rest)) : Flagged rest :=
  List.IsChain.tail flagged

/-- The tokens of a phrase, and other tokens that may follow them. -/
def Parses (phrase : Phrase Double) (tokens rest : List (ExprToken Double)) : Prop :=
  ∃ front, tokens = front ++ rest ∧ Renders implemented phrase front ∧ MayFollow front rest

/-- A parser gives only expressions that its grammar renders as the tokens it has taken. -/
def Sound (level : Level) (parser : ExprParser Double) : Prop :=
  ∀ {tokens expression rest}, Flagged tokens → parser tokens = .ok (expression, rest) →
    Parses (.expr level expression) tokens rest

/-- A change of the error leaves the results alone. -/
theorem orError_eq_ok {Result : Type} {message : String} {outcome : Except ParseFailure Result}
    {result : Result} : orError message outcome = .ok result ↔ outcome = .ok result := by
  unfold orError
  split
  · exact iff_of_false nofun nofun
  · exact Iff.rfl

/-- An expected token is there, and is taken away. -/
theorem expect_eq_ok {test : ExprTokenType Double → Bool} {message : String}
    {tokens rest : List (ExprToken Double)} :
    expect test message tokens = .ok rest ↔ ∃ token, tokens = token :: rest ∧ test token.type := by
  cases tokens with
  | nil => exact iff_of_false (by rintro ⟨⟩) (by rintro ⟨_, ⟨⟩, -⟩)
  | cons token tail =>
      by_cases passes : test token.type
      · rw [expect, if_pos passes]
        constructor
        · rintro ⟨⟩
          exact ⟨token, rfl, passes⟩
        · rintro ⟨_, ⟨⟩, -⟩
          rfl
      · rw [expect, if_neg passes]
        refine iff_of_false (by rintro ⟨⟩) ?_
        rintro ⟨_, ⟨⟩, other⟩
        exact passes other

/-- The operators of a level, which associate to the left, and the level of their operands. -/
structure LeftLevel (operator : ExprTokenType Double → Option BinaryOp)
    (operandLevel level : Level) : Prop where
  lift : ∀ {expression : Expr Double} {front}, Renders implemented (.expr operandLevel expression)
    front → Renders implemented (.expr level expression) front
  join : ∀ {token op left right front back}, operator token.type = some op →
    Renders implemented (.expr level left) front →
    Renders implemented (.expr operandLevel right) back →
    Renders implemented (.expr level (.binary op left right)) (front ++ token :: back)

/-- Products are one level above their operands. -/
theorem mulDivLevel : LeftLevel (multiplicativeOp : ExprTokenType Double → _) .unary .mulDiv :=
  ⟨.mulDiv, .product⟩

/-- Sums are one level above products. -/
theorem addSubLevel : LeftLevel (additiveOp : ExprTokenType Double → _) .mulDiv .addSub :=
  ⟨.addSub, .sum⟩

/-- After an operator only the last operand decides what may follow. -/
theorem MayFollow.of_operand {front back rest : List (ExprToken Double)} (token : ExprToken Double)
    (some : back ≠ []) (follows : MayFollow back rest) :
    MayFollow (front ++ token :: back) rest := by
  have split : front ++ token :: back = (front ++ [token]) ++ back := by simp
  rw [split]
  exact follows.of_append some

/-- What may follow an operation may follow its right operand. -/
theorem MayFollow.to_operand {front back rest : List (ExprToken Double)} {token : ExprToken Double}
    (follows : MayFollow (front ++ token :: back) rest) (some : back ≠ []) :
    MayFollow back rest := by
  have split : front ++ token :: back = (front ++ [token]) ++ back := by simp
  rw [split] at follows
  exact follows.to_append some

/-- The loop over the operators of a level is sound. -/
theorem binaryLoop_sound {operator : ExprTokenType Double → Option BinaryOp}
    {operand : ExprParser Double} {level operandLevel : Level}
    (isLevel : LeftLevel operator operandLevel level) (sound : Sound operandLevel operand)
    {fuel : Nat} {left expression : Expr Double} {front tokens rest : List (ExprToken Double)}
    (flagged : Flagged tokens) (renders : Renders implemented (.expr level left) front)
    (follows : MayFollow front tokens)
    (done : binaryLoop operator operand fuel left tokens = .ok (expression, rest)) :
    Parses (.expr level expression) (front ++ tokens) rest := by
  induction fuel generalizing left front tokens with
  | zero => cases done
  | succ fuel inductionHypothesis =>
      cases tokens with
      | nil =>
          cases done
          exact ⟨front, rfl, renders, follows⟩
      | cons token others =>
          rw [binaryLoop] at done
          split at done
          · cases done
            exact ⟨front, rfl, renders, follows⟩
          · next op isOp =>
              obtain ⟨⟨right, after⟩, found, looped⟩ := bind_eq_ok.mp done
              obtain ⟨back, rfl, second, goesOn⟩ :=
                sound flagged.tail (orError_eq_ok.mp found)
              have joined := inductionHypothesis flagged.tail.right
                (isLevel.join isOp renders second) (goesOn.of_operand token second.ne_nil) looped
              simpa using joined

/-- A level is sound when its operands are. -/
theorem Sound.parseLeft {operator : ExprTokenType Double → Option BinaryOp}
    {operand : ExprParser Double} {level operandLevel : Level} (sound : Sound operandLevel operand)
    (isLevel : LeftLevel operator operandLevel level) :
    Sound level (parseLeft operator operand) := by
  intro tokens expression rest flagged done
  obtain ⟨⟨left, after⟩, found, looped⟩ := bind_eq_ok.mp done
  obtain ⟨front, rfl, renders, follows⟩ := sound flagged found
  exact binaryLoop_sound isLevel sound flagged.right (isLevel.lift renders) follows looped

theorem isRParen_iff {type : ExprTokenType Double} : isRParen type = true ↔ type = .rParen := by
  cases type <;> simp [isRParen]

theorem isGt_iff {type : ExprTokenType Double} : isGt type = true ↔ type = .gt := by
  cases type <;> simp [isGt]

theorem isComma_iff {type : ExprTokenType Double} : isComma type = true ↔ type = .comma := by
  cases type <;> simp [isComma]

/-- An expression of a level up to a closing token. -/
theorem Sound.closed {level : Level} {parser : ExprParser Double} (sound : Sound level parser)
    {test : ExprTokenType Double → Bool} {message : String} {expression : Expr Double}
    {tokens rest last : List (ExprToken Double)} (flagged : Flagged tokens)
    (done : parser tokens = .ok (expression, rest)) (closes : expect test message rest = .ok last) :
    ∃ front token, tokens = front ++ token :: last ∧ test token.type ∧
      Renders implemented (.expr level expression) front := by
  obtain ⟨front, rfl, renders, -⟩ := sound flagged done
  obtain ⟨token, rfl, passes⟩ := expect_eq_ok.mp closes
  exact ⟨front, token, rfl, passes, renders⟩

/-- Anything may follow a phrase that ends with a closing token. -/
theorem Parses.closed {phrase : Phrase Double} {opening inner rest : List (ExprToken Double)}
    {closing : ExprToken Double}
    (renders : Renders implemented phrase (opening ++ (inner ++ [closing])))
    (notName : closing.type ≠ .identifier) :
    Parses phrase (opening ++ (inner ++ closing :: rest)) rest := by
  refine ⟨opening ++ (inner ++ [closing]), by simp, renders, ?_⟩
  rw [← List.append_assoc]
  exact mayFollow_of_last notName rest

/-- Anything may follow a literal. -/
theorem Parses.literal {phrase : Phrase Double} {token : ExprToken Double}
    {rest : List (ExprToken Double)} (renders : Renders implemented phrase [token])
    (notName : token.type ≠ .identifier) : Parses phrase (token :: rest) rest :=
  ⟨[token], rfl, renders, @mayFollow_of_last _ [] token notName rest⟩

section Soundness

variable {unary : ExprParser Double} (sound : Sound .unary unary)
include sound

/-- Sums are parsed soundly. -/
theorem parseAddSub_sound : Sound .addSub (parseAddSub unary) :=
  Sound.parseLeft (Sound.parseLeft sound mulDivLevel) addSubLevel

/-- A comparison is parsed soundly. -/
theorem parseComparison_sound : Sound .comparison (parseComparison unary) := by
  intro tokens expression rest flagged done
  obtain ⟨⟨left, after⟩, found, goesOn⟩ := bind_eq_ok.mp done
  obtain ⟨front, rfl, first, follows⟩ := parseAddSub_sound sound flagged found
  cases after with
  | nil =>
      cases goesOn
      exact ⟨front, rfl, .comparison first, follows⟩
  | cons token others =>
      dsimp only at goesOn
      split at goesOn
      · cases goesOn
        exact ⟨front, rfl, .comparison first, follows⟩
      · next op isOp =>
          obtain ⟨⟨right, last⟩, operand, isResult⟩ := bind_eq_ok.mp goesOn
          cases isResult
          obtain ⟨back, rfl, second, ends⟩ :=
            parseAddSub_sound sound flagged.right.tail (orError_eq_ok.mp operand)
          have spaced : token.type ≠ .lt true := by
            -- an adjacent `<` would have been taken by the identifier before it
            intro adjacent
            obtain ⟨name, isLast⟩ := Option.ne_none_iff_exists'.mp
              (mt List.getLast?_eq_none_iff.mp first.ne_nil)
            have isName := (List.isChain_append.mp flagged).2.2 name isLast token rfl adjacent
            exact (follows name isLast isName token rfl).2 adjacent
          exact ⟨front ++ token :: back, by simp, .compare isOp spaced first second,
            ends.of_operand token second.ne_nil⟩

/-- The arguments of a call are parsed soundly. -/
theorem parseArguments_sound {upper : String} {fuel : Nat} {args : List (Expr Double)}
    {tokens rest : List (ExprToken Double)} (flagged : Flagged tokens)
    (done : parseArguments upper (parseComparison unary) fuel tokens = .ok (args, rest)) :
    args ≠ [] ∧ ∃ front, tokens = front ++ rest ∧ Renders implemented (.arguments args) front := by
  induction fuel generalizing tokens args with
  | zero => cases done
  | succ fuel inductionHypothesis =>
      rw [parseArguments] at done
      obtain ⟨⟨first, after⟩, found, goesOn⟩ := bind_eq_ok.mp done
      obtain ⟨front, rfl, renders, -⟩ := parseComparison_sound sound flagged found
      cases after with
      | nil =>
          cases goesOn
          exact ⟨List.cons_ne_nil _ _, front, rfl, .lastArgument renders⟩
      | cons token others =>
          dsimp only at goesOn
          split at goesOn
          · next separates =>
              obtain ⟨type, lexeme⟩ := token
              obtain rfl := isComma_iff.mp separates
              split at goesOn
              · cases goesOn
              · obtain ⟨⟨more, last⟩, found, isResult⟩ := bind_eq_ok.mp goesOn
                cases isResult
                obtain ⟨some, back, rfl, second⟩ := inductionHypothesis flagged.right.tail found
                exact ⟨List.cons_ne_nil _ _, front ++ ⟨.comma, lexeme⟩ :: back, by simp,
                  .moreArguments some renders second⟩
          · cases goesOn
            exact ⟨List.cons_ne_nil _ _, front, rfl, .lastArgument renders⟩

/-- The arguments of a call may be left out when none is needed. -/
theorem parseCallArguments_sound {upper : String} {minArgs : Nat} {args : List (Expr Double)}
    {tokens rest : List (ExprToken Double)} (flagged : Flagged tokens)
    (done : parseCallArguments unary upper minArgs tokens = .ok (args, rest)) :
    ∃ front, tokens = front ++ rest ∧ Renders implemented (.arguments args) front := by
  unfold parseCallArguments at done
  split at done
  · split at done
    · cases done
    · cases done
      exact ⟨[], rfl, .noArguments⟩
  · exact (parseArguments_sound sound flagged done).2

/-- A call of a builtin is parsed soundly, with a number of arguments in its bounds. -/
theorem parseCall_sound {name opening : List Char} {expression : Expr Double}
    {tokens rest : List (ExprToken Double)}
    (builtin : isBuiltinCallName (uppercase (String.ofList name))) (flagged : Flagged tokens)
    (done : parseCall unary (uppercase (String.ofList name)) tokens = .ok (expression, rest)) :
    Parses (.expr .primary expression) (⟨.identifier, name⟩ :: ⟨.lParen, opening⟩ :: tokens)
      rest := by
  unfold parseCall at done
  split at done
  · cases done
  · next minArgs maxArgs bounds =>
      obtain ⟨⟨args, after⟩, found, goesOn⟩ := bind_eq_ok.mp done
      obtain ⟨front, rfl, inner⟩ := parseCallArguments_sound sound flagged found
      obtain ⟨last, closes, result⟩ := bind_eq_ok.mp goesOn
      obtain ⟨⟨type, closing⟩, rfl, isClosing⟩ := expect_eq_ok.mp closes
      obtain rfl := isRParen_iff.mp isClosing
      split at result
      · cases result
      · next inBounds =>
          cases result
          simp only [Bool.or_eq_true, decide_eq_true_eq, not_or, not_lt] at inBounds
          have renders : Renders implemented (.expr .primary (.functionCall _ args))
              ([⟨.identifier, name⟩, ⟨.lParen, opening⟩] ++ (front ++ [⟨.rParen, closing⟩])) :=
            .functionCall builtin bounds inBounds.1 inBounds.2 inner
          exact Parses.closed renders nofun

/-- A subscript is parsed soundly. -/
theorem parseSubscript_sound {name opening : List Char} {expression : Expr Double}
    {tokens rest : List (ExprToken Double)}
    (plain : isBuiltinCallName (uppercase (String.ofList name)) = false) (flagged : Flagged tokens)
    (done : parseSubscript unary (String.ofList name) tokens = .ok (expression, rest)) :
    Parses (.expr .primary expression) (⟨.identifier, name⟩ :: ⟨.lParen, opening⟩ :: tokens)
      rest := by
  obtain ⟨⟨index, after⟩, found, goesOn⟩ := bind_eq_ok.mp done
  obtain ⟨last, closes, isResult⟩ := bind_eq_ok.mp goesOn
  cases isResult
  obtain ⟨front, ⟨type, closing⟩, rfl, isClosing, inner⟩ :=
    Sound.closed (parseAddSub_sound sound) flagged found closes
  obtain rfl := isRParen_iff.mp isClosing
  have renders : Renders implemented (.expr .primary (.subscript _ index))
      ([⟨.identifier, name⟩, ⟨.lParen, opening⟩] ++ (front ++ [⟨.rParen, closing⟩])) :=
    .subscript plain inner
  exact Parses.closed renders nofun

/-- An index is parsed soundly, whatever ends it. -/
theorem parseIndex_sound (ends : ExprTokenType Double → Bool) (message : String) :
    Sound .addSub (parseIndex unary ends message) := by
  intro tokens expression rest flagged done
  unfold parseIndex at done
  split at done
  · cases done
  · exact parseAddSub_sound sound flagged (orError_eq_ok.mp done)

/-- An access to an attribute, or to a value of it, is parsed soundly. -/
theorem parseAttribute_sound {name opening : List Char} {expression : Expr Double}
    {tokens rest : List (ExprToken Double)} (flagged : Flagged tokens)
    (done : parseAttribute unary (String.ofList name) tokens = .ok (expression, rest)) :
    Parses (.expr .primary expression) (⟨.identifier, name⟩ :: ⟨.lt true, opening⟩ :: tokens)
      rest := by
  obtain ⟨⟨attr, after⟩, found, goesOn⟩ := bind_eq_ok.mp done
  dsimp only at goesOn
  split at goesOn
  · next separates =>
      obtain ⟨⟨valueIndex, others⟩, second, closed⟩ := bind_eq_ok.mp goesOn
      obtain ⟨last, closes, isResult⟩ := bind_eq_ok.mp closed
      cases isResult
      obtain ⟨front, rfl, inner, -⟩ := parseIndex_sound sound _ _ flagged found
      rcases after with _ | ⟨⟨type, separator⟩, after⟩
      · cases separates
      obtain rfl := isComma_iff.mp separates
      obtain ⟨back, ⟨type, closing⟩, rfl, isClosing, innerValue⟩ :=
        Sound.closed (parseIndex_sound sound _ _) flagged.right.tail second closes
      obtain rfl := isGt_iff.mp isClosing
      have renders : Renders implemented
          (.expr .primary (.valueAccess (String.ofList name) attr valueIndex))
          ((⟨.identifier, name⟩ :: ⟨.lt true, opening⟩ :: (front ++ [⟨.comma, separator⟩])) ++
            (back ++ [⟨.gt, closing⟩])) := by
        simpa using Renders.valueAccess inner innerValue
      simpa using Parses.closed renders nofun
  · obtain ⟨last, closes, isResult⟩ := bind_eq_ok.mp goesOn
    cases isResult
    obtain ⟨front, ⟨type, closing⟩, rfl, isClosing, inner⟩ :=
      Sound.closed (parseIndex_sound sound _ _) flagged found closes
    obtain rfl := isGt_iff.mp isClosing
    have renders : Renders implemented (.expr .primary (.attributeAccess _ attr))
        ([⟨.identifier, name⟩, ⟨.lt true, opening⟩] ++ (front ++ [⟨.gt, closing⟩])) :=
      .attributeAccess inner
    exact Parses.closed renders nofun

/-- A group is parsed soundly. -/
theorem parseGroup_sound {opening : List Char} {expression : Expr Double}
    {tokens rest : List (ExprToken Double)} (flagged : Flagged tokens)
    (done : parseGroup unary tokens = .ok (expression, rest)) :
    Parses (.expr .primary expression) (⟨.lParen, opening⟩ :: tokens) rest := by
  unfold parseGroup at done
  split at done
  · cases done
  · obtain ⟨⟨inner, after⟩, found, goesOn⟩ := bind_eq_ok.mp done
    obtain ⟨last, closes, isResult⟩ := bind_eq_ok.mp goesOn
    cases isResult
    obtain ⟨front, ⟨type, closing⟩, rfl, isClosing, renders⟩ :=
      Sound.closed (parseAddSub_sound sound) flagged found closes
    obtain rfl := isRParen_iff.mp isClosing
    have grouped : Renders implemented (.expr .primary (.grouped inner))
        ([⟨.lParen, opening⟩] ++ (front ++ [⟨.rParen, closing⟩])) := .grouped renders
    exact Parses.closed grouped nofun

/-- What starts with an identifier is parsed soundly. -/
theorem parseIdentifier_sound {name : List Char} {expression : Expr Double}
    {tokens rest : List (ExprToken Double)} (flagged : Flagged tokens)
    (done : parseIdentifier unary (String.ofList name) tokens = .ok (expression, rest)) :
    Parses (.expr .primary expression) (⟨.identifier, name⟩ :: tokens) rest := by
  cases tokens with
  | nil =>
      cases done
      exact ⟨_, rfl, .identifier name, mayFollow_nil _⟩
  | cons token others =>
      obtain ⟨type, lexeme⟩ := token
      rw [parseIdentifier] at done
      split at done
      · next isOpening =>
          obtain rfl : type = .lParen := isOpening
          split at done
          · next builtin => exact parseCall_sound sound builtin flagged.tail done
          · next plain =>
              have plain := Bool.eq_false_of_not_eq_true plain
              exact parseSubscript_sound sound plain flagged.tail done
      · next isOpening =>
          obtain rfl : type = .lt true := isOpening
          exact parseAttribute_sound sound flagged.tail done
      · next notParen notAdjacent =>
          cases done
          exact ⟨_, rfl, .identifier name, mayFollow_of_next notParen notAdjacent⟩

/-- Operands are parsed soundly. -/
theorem parsePrimary_sound : Sound .primary (parsePrimary unary) := by
  intro tokens expression rest flagged done
  cases tokens with
  | nil => cases done
  | cons token others =>
      obtain ⟨type, lexeme⟩ := token
      rw [parsePrimary] at done
      split at done
      · next value isType =>
          obtain rfl : type = .intLiteral value := isType
          cases done
          exact Parses.literal (.intLiteral value lexeme) (by rintro ⟨⟩)
      · next value isType =>
          obtain rfl : type = .floatLiteral value := isType
          cases done
          exact Parses.literal (.floatLiteral value lexeme) (by rintro ⟨⟩)
      · next value isType =>
          obtain rfl : type = .stringLiteral value := isType
          cases done
          exact Parses.literal (.stringLiteral value lexeme) (by rintro ⟨⟩)
      · next isType =>
          obtain rfl : type = .identifier := isType
          exact parseIdentifier_sound sound flagged.tail done
      · next isType =>
          obtain rfl : type = .lParen := isType
          exact parseGroup_sound sound flagged.tail done
      · cases done

end Soundness

/-- Negations are parsed soundly, at each depth. -/
theorem parseUnary_sound (fuel : Nat) : Sound .unary (parseUnary fuel : ExprParser Double) := by
  induction fuel with
  | zero =>
      intro tokens expression rest flagged done
      cases done
  | succ fuel inductionHypothesis =>
      intro tokens expression rest flagged done
      cases tokens with
      | nil => cases done
      | cons token others =>
          obtain ⟨type, lexeme⟩ := token
          rw [parseUnary] at done
          split at done
          · next isType =>
              obtain rfl : type = .minus := isType
              obtain ⟨⟨operand, after⟩, found, isResult⟩ := bind_eq_ok.mp done
              cases isResult
              obtain ⟨front, rfl, renders, follows⟩ :=
                inductionHypothesis flagged.tail (orError_eq_ok.mp found)
              exact ⟨⟨.minus, lexeme⟩ :: front, rfl, .negate renders,
                @MayFollow.of_append _ [_] front rest renders.ne_nil follows⟩
          · obtain ⟨front, isFront, renders, follows⟩ :=
              parsePrimary_sound inductionHypothesis flagged done
            exact ⟨front, isFront, .unary renders, follows⟩

/-- The parser returns what its tokens render. -/
theorem renders_of_parseTokens {tokens : List (ExprToken Double)} {expression : Expr Double}
    (flagged : Flagged tokens) (done : parseTokens tokens = .ok expression) :
    Renders implemented (.expr .comparison expression) tokens := by
  unfold parseTokens at done
  split at done
  · cases done
  · obtain ⟨⟨found, rest⟩, parsed, isResult⟩ := bind_eq_ok.mp done
    cases rest with
    | nil =>
        cases isResult
        obtain ⟨front, rfl, renders, -⟩ :=
          parseComparison_sound (parseUnary_sound _) flagged parsed
        rwa [List.append_nil]
    | cons token others => cases isResult

/-! ## The parser finds every rendering -/

/-- The next token is not an operator of the level. -/
def Stops (operator : ExprTokenType Double → Option BinaryOp) (rest : List (ExprToken Double)) :
    Prop :=
  ∀ next ∈ rest.head?, operator next.type = none

/-- The loop over the operators stops at a token that is none of them. -/
theorem stops_cons {operator : ExprTokenType Double → Option BinaryOp} {token : ExprToken Double}
    (isNone : operator token.type = none) (rest : List (ExprToken Double)) :
    Stops operator (token :: rest) := by
  intro next isNext
  obtain rfl : token = next := Option.some.inj isNext
  exact isNone

/-- A parser of a level has come to its loop, with an expression and the tokens after it. -/
def ComesTo (operator : ExprTokenType Double → Option BinaryOp) (operand : ExprParser Double)
    (tokens : List (ExprToken Double)) (expression : Expr Double)
    (rest : List (ExprToken Double)) : Prop :=
  ∃ fuel, rest.length < fuel ∧
    parseLeft operator operand tokens = binaryLoop operator operand fuel expression rest

section Loops

variable {operator : ExprTokenType Double → Option BinaryOp} {operand : ExprParser Double}
  {tokens rest : List (ExprToken Double)} {expression : Expr Double}

/-- The loop starts with the first operand. -/
theorem comesTo_of_operand (reads : operand tokens = .ok (expression, rest)) :
    ComesTo operator operand tokens expression rest := by
  refine ⟨rest.length + 1, Nat.lt_succ_self _, ?_⟩
  rw [parseLeft, reads]
  rfl

/-- The loop takes an operator and its right operand. -/
theorem ComesTo.join {token : ExprToken Double} {op : BinaryOp} {left right : Expr Double}
    {others : List (ExprToken Double)}
    (comesTo : ComesTo operator operand tokens left (token :: others))
    (isOp : operator token.type = some op) (reads : operand others = .ok (right, rest))
    (shorter : rest.length ≤ others.length) :
    ComesTo operator operand tokens (.binary op left right) rest := by
  obtain ⟨fuel, enough, parsed⟩ := comesTo
  rw [List.length_cons] at enough
  obtain ⟨fuel, rfl⟩ := Nat.exists_eq_succ_of_ne_zero (Nat.ne_of_gt (Nat.zero_lt_of_lt enough))
  refine ⟨fuel, by omega, ?_⟩
  rw [parsed, binaryLoop, isOp]
  exact congrArg (· >>= _) (orError_eq_ok.mpr reads)

/-- When the loop stops, it has parsed what it has come to. -/
theorem ComesTo.stop (comesTo : ComesTo operator operand tokens expression rest)
    (stops : Stops operator rest) :
    parseLeft operator operand tokens = .ok (expression, rest) := by
  obtain ⟨fuel, enough, parsed⟩ := comesTo
  obtain ⟨fuel, rfl⟩ := Nat.exists_eq_succ_of_ne_zero (Nat.ne_of_gt (Nat.zero_lt_of_lt enough))
  rw [parsed]
  cases rest with
  | nil => rfl
  | cons token others => rw [binaryLoop, stops token rfl]

end Loops

/-- The parser finds a phrase, whatever follows that does not continue it. -/
def Complete : Phrase Double → List (ExprToken Double) → Prop
  | .expr .primary expression, tokens => ∀ fuel rest, tokens.length ≤ fuel → MayFollow tokens rest →
      parsePrimary (parseUnary fuel) (tokens ++ rest) = .ok (expression, rest)
  | .expr .unary expression, tokens => ∀ fuel rest, tokens.length < fuel → MayFollow tokens rest →
      parseUnary fuel (tokens ++ rest) = .ok (expression, rest)
  | .expr .mulDiv expression, tokens => ∀ fuel rest, tokens.length < fuel → MayFollow tokens rest →
      ComesTo multiplicativeOp (parseUnary fuel) (tokens ++ rest) expression rest
  | .expr .addSub expression, tokens => ∀ fuel rest, tokens.length < fuel → MayFollow tokens rest →
      Stops multiplicativeOp rest →
      ComesTo additiveOp (parseMulDiv (parseUnary fuel)) (tokens ++ rest) expression rest
  | .expr .comparison expression, tokens => ∀ fuel rest, tokens.length < fuel →
      MayFollow tokens rest → Stops multiplicativeOp rest → Stops additiveOp rest →
      Stops comparisonOp rest →
      parseComparison (parseUnary fuel) (tokens ++ rest) = .ok (expression, rest)
  | .arguments args, tokens => args ≠ [] → ∀ upper fuel count closing rest, tokens.length < fuel →
      tokens.length < count →
      parseArguments upper (parseComparison (parseUnary fuel)) count
        (tokens ++ ⟨.rParen, closing⟩ :: rest) = .ok (args, ⟨.rParen, closing⟩ :: rest)

/-- An operator between two operands. -/
structure Separates (token : ExprToken Double) : Prop where
  notParen : token.type ≠ .lParen
  notAdjacent : token.type ≠ .lt true

/-- An operator of products stands between two operands. -/
theorem separates_of_multiplicative {token : ExprToken Double} {op : BinaryOp}
    (isOp : multiplicativeOp token.type = some op) : Separates token := by
  constructor <;> intro isType <;> rw [isType] at isOp <;> cases isOp

/-- An operator of sums stands between two operands. -/
theorem separates_of_additive {token : ExprToken Double} {op : BinaryOp}
    (isOp : additiveOp token.type = some op) : Separates token := by
  constructor <;> intro isType <;> rw [isType] at isOp <;> cases isOp

/-- An operator of sums is none of products. -/
theorem multiplicativeOp_of_additive {type : ExprTokenType Double} {op : BinaryOp}
    (isOp : additiveOp type = some op) : multiplicativeOp type = none := by
  cases type <;> first | rfl | cases isOp

/-- An operator of comparisons is none of sums or products, and opens nothing. -/
theorem of_comparisonOp {type : ExprTokenType Double} {op : BinaryOp}
    (isOp : comparisonOp type = some op) :
    multiplicativeOp type = none ∧ additiveOp type = none ∧ type ≠ .lParen := by
  refine ⟨?_, ?_, ?_⟩
  · cases type <;> first | rfl | cases isOp
  · cases type <;> first | rfl | cases isOp
  · rintro rfl
    cases isOp

/-- A sum up to a token that does not continue it. -/
theorem Complete.addSub_closed {expression : Expr Double} {tokens rest : List (ExprToken Double)}
    (complete : Complete (.expr .addSub expression) tokens) {fuel : Nat}
    (enough : tokens.length < fuel) (follows : MayFollow tokens rest)
    (notMultiplicative : Stops multiplicativeOp rest) (notAdditive : Stops additiveOp rest) :
    parseAddSub (parseUnary fuel) (tokens ++ rest) = .ok (expression, rest) :=
  (complete fuel rest enough follows notMultiplicative).stop notAdditive

/-- A token that closes a bracket or separates what is in it. -/
def Closing (token : ExprToken Double) : Prop :=
  token.type = .rParen ∨ token.type = .gt ∨ token.type = .comma

/-- A sum is parsed up to a token that ends it. -/
theorem Complete.addSub_before {expression : Expr Double} {tokens : List (ExprToken Double)}
    (complete : Complete (.expr .addSub expression) tokens) {fuel : Nat}
    (enough : tokens.length < fuel) {token : ExprToken Double} (closing : Closing token)
    (rest : List (ExprToken Double)) :
    parseAddSub (parseUnary fuel) (tokens ++ token :: rest) = .ok (expression, token :: rest) := by
  obtain ⟨type, lexeme⟩ := token
  refine complete.addSub_closed enough ?_ ?_ ?_
  · rcases closing with isType | isType | isType <;> cases isType <;>
      exact mayFollow_of_next nofun nofun
  · rcases closing with isType | isType | isType <;> cases isType <;> exact stops_cons rfl rest
  · rcases closing with isType | isType | isType <;> cases isType <;> exact stops_cons rfl rest

/-- An operand without a sign is parsed as one. -/
theorem parseUnary_of_parsePrimary {fuel : Nat} {tokens rest : List (ExprToken Double)}
    {expression : Expr Double}
    (parsed : parsePrimary (parseUnary fuel) tokens = .ok (expression, rest)) :
    parseUnary (fuel + 1) tokens = .ok (expression, rest) := by
  cases tokens with
  | nil => cases parsed
  | cons token others =>
      rw [parseUnary]
      split
      · next isMinus =>
          rw [parsePrimary, isMinus] at parsed
          cases parsed
      · exact parsed

section Primaries

variable {fuel : Nat} {tokens : List (ExprToken Double)} {expression : Expr Double}

/-- The closing token that is expected is taken. -/
theorem expect_closing {test : ExprTokenType Double → Bool} {message : String}
    {token : ExprToken Double} (passes : test token.type) (rest : List (ExprToken Double)) :
    expect test message (token :: rest) = .ok rest :=
  expect_eq_ok.mpr ⟨token, rfl, passes⟩

theorem currentIs_append {test : ExprTokenType Double → Bool} {token : ExprToken Double}
    {others rest : List (ExprToken Double)} (starts : tokens = token :: others)
    (fails : test token.type = false) : currentIs test (tokens ++ rest) = false := by
  subst starts
  exact fails

variable (complete : Complete (.expr .addSub expression) tokens) (enough : tokens.length < fuel)
include complete enough

/-- Every subscript is parsed. -/
theorem parseSubscript_complete (name : String) (closing : List Char)
    (rest : List (ExprToken Double)) :
    parseSubscript (parseUnary fuel) name (tokens ++ ⟨.rParen, closing⟩ :: rest) =
      .ok (.subscript name expression, rest) := by
  have closes : Closing (⟨.rParen, closing⟩ : ExprToken Double) := .inl rfl
  refine bind_eq_ok.mpr ⟨_, complete.addSub_before enough closes rest, ?_⟩
  exact bind_eq_ok.mpr ⟨rest, expect_closing rfl rest, rfl⟩

variable (renders : Renders implemented (.expr .addSub expression) tokens)
include renders

/-- Every group is parsed. -/
theorem parseGroup_complete (closing : List Char) (rest : List (ExprToken Double)) :
    parseGroup (parseUnary fuel) (tokens ++ ⟨.rParen, closing⟩ :: rest) =
      .ok (.grouped expression, rest) := by
  obtain ⟨token, others, isTokens, starts⟩ := renders.starts nofun
  have closes : Closing (⟨.rParen, closing⟩ : ExprToken Double) := .inl rfl
  unfold parseGroup
  rw [currentIs_append isTokens starts.notRParen, if_neg Bool.false_ne_true]
  refine bind_eq_ok.mpr ⟨_, complete.addSub_before enough closes rest, ?_⟩
  exact bind_eq_ok.mpr ⟨rest, expect_closing rfl rest, rfl⟩

/-- Every index is parsed. -/
theorem parseIndex_complete (ends : ExprTokenType Double → Bool) (message : String)
    (notEnd : ∀ {token}, Starts token → ends token.type = false) {token : ExprToken Double}
    (closes : Closing token) (rest : List (ExprToken Double)) :
    parseIndex (parseUnary fuel) ends message (tokens ++ token :: rest) =
      .ok (expression, token :: rest) := by
  obtain ⟨first, others, isTokens, starts⟩ := renders.starts nofun
  have notEmpty : (tokens ++ token :: rest).isEmpty = false := by
    rw [isTokens]
    rfl
  unfold parseIndex
  rw [notEmpty, currentIs_append isTokens (notEnd starts), Bool.or_false,
    if_neg Bool.false_ne_true]
  exact orError_eq_ok.mpr (complete.addSub_before enough closes rest)

/-- Every access to an attribute is parsed. -/
theorem parseAttribute_complete (name : String) (closing : List Char)
    (rest : List (ExprToken Double)) :
    parseAttribute (parseUnary fuel) name (tokens ++ ⟨.gt, closing⟩ :: rest) =
      .ok (.attributeAccess name expression, rest) := by
  have closes : Closing (⟨.gt, closing⟩ : ExprToken Double) := .inr (.inl rfl)
  have found := parseIndex_complete complete enough renders (fun type => isComma type || isGt type)
    "Attribute index cannot be empty" Starts.notIndexEnd closes rest
  refine bind_eq_ok.mpr ⟨_, found, ?_⟩
  exact bind_eq_ok.mpr ⟨rest, expect_closing rfl rest, rfl⟩

/-- Every access to a value of an attribute is parsed. -/
theorem parseAttribute_value_complete {others : List (ExprToken Double)} {valueIndex : Expr Double}
    (second : Complete (.expr .addSub valueIndex) others) (enoughSecond : others.length < fuel)
    (rendersSecond : Renders implemented (.expr .addSub valueIndex) others)
    (name : String) (separator closing : List Char) (rest : List (ExprToken Double)) :
    parseAttribute (parseUnary fuel) name
        (tokens ++ ⟨.comma, separator⟩ :: (others ++ ⟨.gt, closing⟩ :: rest)) =
      .ok (.valueAccess name expression valueIndex, rest) := by
  have separates : Closing (⟨.comma, separator⟩ : ExprToken Double) := .inr (.inr rfl)
  have closes : Closing (⟨.gt, closing⟩ : ExprToken Double) := .inr (.inl rfl)
  have found := parseIndex_complete complete enough renders (fun type => isComma type || isGt type)
    "Attribute index cannot be empty" Starts.notIndexEnd separates
    (others ++ ⟨.gt, closing⟩ :: rest)
  have foundSecond := parseIndex_complete second enoughSecond rendersSecond isGt
    "Value index cannot be empty" (fun starts => starts.notGt) closes rest
  refine bind_eq_ok.mpr ⟨_, found, ?_⟩
  refine bind_eq_ok.mpr ⟨_, foundSecond, ?_⟩
  exact bind_eq_ok.mpr ⟨rest, expect_closing rfl rest, rfl⟩

end Primaries

/-- Arguments in the bounds of a call are parsed. -/
theorem parseCallArguments_complete {fuel : Nat} {tokens rest : List (ExprToken Double)}
    {args : List (Expr Double)} (complete : Complete (.arguments args) tokens)
    (renders : Renders implemented (.arguments args) tokens) (enough : tokens.length < fuel)
    {upper : String} {minArgs : Nat} (atLeast : minArgs ≤ args.length) (closing : List Char) :
    parseCallArguments (parseUnary fuel) upper minArgs (tokens ++ ⟨.rParen, closing⟩ :: rest) =
      .ok (args, ⟨.rParen, closing⟩ :: rest) := by
  unfold parseCallArguments
  by_cases none : args = []
  · subst none
    cases renders
    have closes : currentIs isRParen ([] ++ (⟨.rParen, closing⟩ : ExprToken Double) :: rest) := rfl
    have noneNeeded : ¬ 0 < minArgs := Nat.not_lt.mpr atLeast
    rw [if_pos closes, if_neg noneNeeded]
    rfl
  · obtain ⟨token, others, isTokens, starts⟩ := renders.starts
      (by rintro ⟨⟩; exact none rfl)
    rw [currentIs_append isTokens starts.notRParen, if_neg Bool.false_ne_true]
    refine complete none upper fuel _ closing rest enough ?_
    rw [List.length_append]
    omega

/-- Every call of a builtin is parsed. -/
theorem parseCall_complete {fuel : Nat} {tokens rest : List (ExprToken Double)}
    {args : List (Expr Double)} (complete : Complete (.arguments args) tokens)
    (renders : Renders implemented (.arguments args) tokens) (enough : tokens.length < fuel)
    {upper : String} {minArgs maxArgs : Nat}
    (bounds : builtinArityBounds upper = some (minArgs, maxArgs)) (atLeast : minArgs ≤ args.length)
    (atMost : args.length ≤ maxArgs) (closing : List Char) :
    parseCall (parseUnary fuel) upper (tokens ++ ⟨.rParen, closing⟩ :: rest) =
      .ok (.functionCall upper args, rest) := by
  unfold parseCall
  rw [bounds]
  refine bind_eq_ok.mpr
    ⟨_, parseCallArguments_complete complete renders enough atLeast closing, ?_⟩
  refine bind_eq_ok.mpr ⟨rest, expect_closing rfl rest, ?_⟩
  rw [if_neg (by simp [atLeast, atMost])]
  rfl

/-- Arguments behind a comma are parsed. -/
theorem complete_moreArguments {arg : Expr Double} {args : List (Expr Double)}
    {separator : List Char} {tokens others : List (ExprToken Double)} (more : args ≠ [])
    (first : Complete (.expr .comparison arg) tokens) (second : Complete (.arguments args) others)
    (renders : Renders implemented (.arguments args) others) :
    Complete (.arguments (arg :: args)) (tokens ++ ⟨.comma, separator⟩ :: others) := by
  intro _ upper fuel count closing rest enough counted
  obtain ⟨token, after, isOthers, starts⟩ := renders.starts (by rintro ⟨⟩; exact more rfl)
  rw [List.length_append, List.length_cons] at enough counted
  obtain ⟨count, rfl⟩ := Nat.exists_eq_succ_of_ne_zero (Nat.ne_of_gt (Nat.zero_lt_of_lt counted))
  have found := first fuel (⟨.comma, separator⟩ :: (others ++ ⟨.rParen, closing⟩ :: rest))
    (by omega) (mayFollow_of_next nofun nofun) (stops_cons rfl _) (stops_cons rfl _)
    (stops_cons rfl _)
  rw [List.append_assoc, List.cons_append, parseArguments]
  refine bind_eq_ok.mpr ⟨_, found, ?_⟩
  have goesOn := second more upper fuel count closing rest (by omega) (by omega)
  have separates : isComma (.comma : ExprTokenType Double) := rfl
  dsimp only
  rw [if_pos separates, currentIs_append isOthers starts.notRParen, if_neg Bool.false_ne_true]
  exact bind_eq_ok.mpr ⟨_, goesOn, rfl⟩

/-- The last argument is parsed. -/
theorem complete_lastArgument {arg : Expr Double} {tokens : List (ExprToken Double)}
    (complete : Complete (.expr .comparison arg) tokens) : Complete (.arguments [arg]) tokens := by
  intro _ upper fuel count closing rest enough counted
  obtain ⟨count, rfl⟩ := Nat.exists_eq_succ_of_ne_zero (Nat.ne_of_gt (Nat.zero_lt_of_lt counted))
  have found := complete fuel (⟨.rParen, closing⟩ :: rest) enough (mayFollow_of_next nofun nofun)
    (stops_cons rfl _) (stops_cons rfl _) (stops_cons rfl _)
  rw [parseArguments]
  exact bind_eq_ok.mpr ⟨_, found, rfl⟩

/-- A sum is parsed as a comparison without an operator. -/
theorem complete_comparison {expression : Expr Double} {tokens : List (ExprToken Double)}
    (complete : Complete (.expr .addSub expression) tokens) :
    Complete (.expr .comparison expression) tokens := by
  intro fuel rest enough follows notMultiplicative notAdditive notComparison
  refine bind_eq_ok.mpr
    ⟨_, complete.addSub_closed enough follows notMultiplicative notAdditive, ?_⟩
  cases rest with
  | nil => rfl
  | cons token others =>
      dsimp only
      rw [notComparison token rfl]

/-- A comparison of two sums is parsed. -/
theorem complete_compare {token : ExprToken Double} {op : BinaryOp} {left right : Expr Double}
    {tokens others : List (ExprToken Double)} (isOp : comparisonOp token.type = some op)
    (spaced : token.type ≠ .lt true) (first : Complete (.expr .addSub left) tokens)
    (second : Complete (.expr .addSub right) others) (some : others ≠ []) :
    Complete (.expr .comparison (.binary op left right)) (tokens ++ token :: others) := by
  intro fuel rest enough follows notMultiplicative notAdditive _
  rw [List.length_append, List.length_cons] at enough
  obtain ⟨isMultiplicative, isAdditive, notParen⟩ := of_comparisonOp isOp
  have enoughLeft : tokens.length < fuel := by omega
  have enoughRight : others.length < fuel := by omega
  have left := first.addSub_closed enoughLeft (mayFollow_of_next notParen spaced)
    (stops_cons isMultiplicative (others ++ rest)) (stops_cons isAdditive _)
  have right := second.addSub_closed enoughRight (follows.to_operand some) notMultiplicative
    notAdditive
  rw [List.append_assoc, List.cons_append]
  refine bind_eq_ok.mpr ⟨_, left, ?_⟩
  dsimp only
  rw [isOp]
  exact bind_eq_ok.mpr ⟨_, orError_eq_ok.mpr right, rfl⟩

/-- A product is parsed. -/
theorem complete_product {token : ExprToken Double} {op : BinaryOp} {left right : Expr Double}
    {tokens others : List (ExprToken Double)} (isOp : multiplicativeOp token.type = some op)
    (first : Complete (.expr .mulDiv left) tokens) (second : Complete (.expr .unary right) others)
    (some : others ≠ []) :
    Complete (.expr .mulDiv (.binary op left right)) (tokens ++ token :: others) := by
  intro fuel rest enough follows
  rw [List.length_append, List.length_cons] at enough
  obtain ⟨notParen, notAdjacent⟩ := separates_of_multiplicative isOp
  have comesTo := first fuel (token :: (others ++ rest)) (by omega)
    (mayFollow_of_next notParen notAdjacent)
  have reads := second fuel rest (by omega) (follows.to_operand some)
  rw [List.append_assoc, List.cons_append]
  exact comesTo.join isOp reads (by simp)

/-- A sum is parsed. -/
theorem complete_sum {token : ExprToken Double} {op : BinaryOp} {left right : Expr Double}
    {tokens others : List (ExprToken Double)} (isOp : additiveOp token.type = some op)
    (first : Complete (.expr .addSub left) tokens) (second : Complete (.expr .mulDiv right) others)
    (some : others ≠ []) :
    Complete (.expr .addSub (.binary op left right)) (tokens ++ token :: others) := by
  intro fuel rest enough follows notMultiplicative
  rw [List.length_append, List.length_cons] at enough
  obtain ⟨notParen, notAdjacent⟩ := separates_of_additive isOp
  have comesTo := first fuel (token :: (others ++ rest)) (by omega)
    (mayFollow_of_next notParen notAdjacent) (stops_cons (multiplicativeOp_of_additive isOp) _)
  have reads := (second fuel rest (by omega) (follows.to_operand some)).stop notMultiplicative
  rw [List.append_assoc, List.cons_append]
  exact comesTo.join isOp reads (by simp)

/-- Whatever the grammar renders is parsed, when nothing follows that would extend it. -/
theorem Renders.complete {phrase : Phrase Double} {tokens : List (ExprToken Double)}
    (renders : Renders implemented phrase tokens) : Complete phrase tokens := by
  induction renders with
  | intLiteral value lexeme => exact fun _ _ _ _ => rfl
  | floatLiteral value lexeme => exact fun _ _ _ _ => rfl
  | stringLiteral value lexeme => exact fun _ _ _ _ => rfl
  | identifier name =>
      intro fuel rest _ follows
      cases rest with
      | nil => rfl
      | cons token others =>
          obtain ⟨notParen, notAdjacent⟩ := follows _ rfl rfl token rfl
          show parseIdentifier _ _ (token :: others) = _
          rw [parseIdentifier]
          split
          · next isParen => exact absurd isParen notParen
          · next isAdjacent => exact absurd isAdjacent notAdjacent
          · rfl
  | @subscript name opening closing index tokens plain inner inductionHypothesis =>
      intro fuel rest enough _
      simp only [List.length_cons, List.length_append] at enough
      simp only [List.cons_append, List.append_assoc, List.nil_append]
      show parseIdentifier _ _ (⟨.lParen, opening⟩ :: _) = _
      rw [parseIdentifier]
      dsimp only
      rw [plain, if_neg Bool.false_ne_true]
      exact parseSubscript_complete inductionHypothesis (by omega) _ closing rest
  | @attributeAccess name opening closing attr tokens inner inductionHypothesis =>
      intro fuel rest enough _
      simp only [List.length_cons, List.length_append] at enough
      simp only [List.cons_append, List.append_assoc, List.nil_append]
      exact parseAttribute_complete inductionHypothesis (by omega) inner _ closing rest
  | @valueAccess name opening separator closing attr valueIndex tokens others inner second
      inductionHypothesis secondHypothesis =>
      intro fuel rest enough _
      simp only [List.length_cons, List.length_append] at enough
      simp only [List.cons_append, List.append_assoc, List.nil_append]
      exact parseAttribute_value_complete inductionHypothesis (by omega) inner secondHypothesis
        (by omega) second _ separator closing rest
  | @functionCall name opening closing args tokens minArgs maxArgs builtin bounds atLeast atMost
      inner inductionHypothesis =>
      intro fuel rest enough _
      simp only [List.length_cons, List.length_append] at enough
      simp only [List.cons_append, List.append_assoc, List.nil_append]
      show parseIdentifier _ _ (⟨.lParen, opening⟩ :: _) = _
      rw [parseIdentifier]
      dsimp only
      rw [if_pos builtin]
      exact parseCall_complete inductionHypothesis inner (by omega) bounds atLeast atMost closing
  | @grouped opening closing expression tokens inner inductionHypothesis =>
      intro fuel rest enough _
      simp only [List.length_cons, List.length_append] at enough
      simp only [List.cons_append, List.append_assoc, List.nil_append]
      exact parseGroup_complete inductionHypothesis (by omega) inner closing rest
  | unary inner inductionHypothesis =>
      intro fuel rest enough follows
      obtain ⟨fuel, rfl⟩ := Nat.exists_eq_succ_of_ne_zero (Nat.ne_of_gt (Nat.zero_lt_of_lt enough))
      exact parseUnary_of_parsePrimary
        (inductionHypothesis fuel rest (Nat.le_of_lt_succ enough) follows)
  | @negate sign operand tokens inner inductionHypothesis =>
      intro fuel rest enough follows
      obtain ⟨fuel, rfl⟩ := Nat.exists_eq_succ_of_ne_zero (Nat.ne_of_gt (Nat.zero_lt_of_lt enough))
      have reads := inductionHypothesis fuel rest (Nat.lt_of_succ_lt_succ enough)
        (@MayFollow.to_append _ [_] tokens rest inner.ne_nil follows)
      show (orError _ (parseUnary fuel (tokens ++ rest)) >>= _) = _
      exact bind_eq_ok.mpr ⟨_, orError_eq_ok.mpr reads, rfl⟩
  | mulDiv _ inductionHypothesis =>
      intro fuel rest enough follows
      exact comesTo_of_operand (inductionHypothesis fuel rest enough follows)
  | product isOp _ second inductionHypothesis secondHypothesis =>
      exact complete_product isOp inductionHypothesis secondHypothesis second.ne_nil
  | addSub _ inductionHypothesis =>
      intro fuel rest enough follows notMultiplicative
      exact comesTo_of_operand
        ((inductionHypothesis fuel rest enough follows).stop notMultiplicative)
  | sum isOp _ second inductionHypothesis secondHypothesis =>
      exact complete_sum isOp inductionHypothesis secondHypothesis second.ne_nil
  | comparison _ inductionHypothesis => exact complete_comparison inductionHypothesis
  | compare isOp spaced _ second inductionHypothesis secondHypothesis =>
      exact complete_compare isOp spaced inductionHypothesis secondHypothesis second.ne_nil
  | noArguments => exact fun some => absurd rfl some
  | lastArgument _ inductionHypothesis => exact complete_lastArgument inductionHypothesis
  | moreArguments more _ second inductionHypothesis secondHypothesis =>
      exact complete_moreArguments more inductionHypothesis secondHypothesis second

/-- The parser finds every rendering. -/
theorem parseTokens_renders {tokens : List (ExprToken Double)} {expression : Expr Double}
    (renders : Renders implemented (.expr .comparison expression) tokens) :
    parseTokens tokens = .ok expression := by
  have found := renders.complete (tokens.length + 1) [] (Nat.lt_succ_self _) (mayFollow_nil tokens)
    nofun nofun nofun
  rw [List.append_nil] at found
  unfold parseTokens
  rw [if_neg (by simpa using renders.ne_nil)]
  exact bind_eq_ok.mpr ⟨_, found, rfl⟩

end Gemini.Basic
