import Gemini.Basic.ExpressionLexer

/-!
# The parser of expressions

A parser by recursive descent over the tokens of an expression. Each level is given the parser of
the level below it, and the recursion goes through `parseUnary`, which counts it; `parseTokens_fuel`
says that the count is always enough.
-/

namespace Gemini.Basic

open Gemini.VM (Doubles)
open Gemini.Data (bind_eq_ok)

variable {Double : Type}

/-! ## The parser -/

/-- An error of the parser, or the end of the fuel, which every caller gives enough of. -/
inductive ParseFailure where
  | error (message : String)
  | outOfFuel
deriving DecidableEq

/-- What a part of the parser makes of tokens: a result and the tokens after it. -/
abbrev TokenParser (Double Result : Type) :=
  List (ExprToken Double) → Except ParseFailure (Result × List (ExprToken Double))

/-- A parser of expressions. -/
abbrev ExprParser (Double : Type) := TokenParser Double (Expr Double)

/-- An error of the parser. -/
def failed {Result : Type} (message : String) : Except ParseFailure Result :=
  .error (.error message)

/-- The error of a part that has failed, unless it has one already. -/
def orError {Result : Type} (message : String) :
    Except ParseFailure Result → Except ParseFailure Result
  | .error (.error "") => failed message
  | result => result

/-- The error of an operand or an operator that is out of place. -/
def placement (lexeme : List Char) : String :=
  "Invalid operand/operator placement near '" ++ String.ofList lexeme ++ "'"

/-- The error of a token that is left over. -/
def unexpectedToken (lexeme : List Char) : String :=
  "Unexpected token '" ++ String.ofList lexeme ++ "'"

/-- The operators of comparisons. -/
def comparisonOp : ExprTokenType Double → Option BinaryOp
  | .eq => some .equal
  | .ne => some .notEqual
  | .lt _ => some .lessThan
  | .le => some .lessOrEqual
  | .gt => some .greaterThan
  | .ge => some .greaterOrEqual
  | _ => none

/-- The operators of sums. -/
def additiveOp : ExprTokenType Double → Option BinaryOp
  | .plus => some .add
  | .minus => some .subtract
  | _ => none

/-- The operators of products. -/
def multiplicativeOp : ExprTokenType Double → Option BinaryOp
  | .star => some .multiply
  | .slash => some .divide
  | _ => none

def isRParen : ExprTokenType Double → Bool
  | .rParen => true
  | _ => false

def isGt : ExprTokenType Double → Bool
  | .gt => true
  | _ => false

def isComma : ExprTokenType Double → Bool
  | .comma => true
  | _ => false

/-- `current().type`. The end of the tokens has no type. -/
def currentIs (test : ExprTokenType Double → Bool) (tokens : List (ExprToken Double)) : Bool :=
  tokens.head?.any fun token => test token.type

/-- A token that has to be there. -/
def expect (test : ExprTokenType Double → Bool) (message : String) :
    List (ExprToken Double) → Except ParseFailure (List (ExprToken Double))
  | [] => failed message
  | token :: rest => if test token.type then .ok rest else failed message

/-- The loop over the operators of one level. -/
def binaryLoop (operator : ExprTokenType Double → Option BinaryOp) (operand : ExprParser Double) :
    Nat → Expr Double → ExprParser Double
  | 0, _, _ => .error .outOfFuel
  | _ + 1, left, [] => .ok (left, [])
  | fuel + 1, left, token :: rest =>
      match operator token.type with
      | none => .ok (left, token :: rest)
      | some op => do
          let (right, after) ← orError (placement token.lexeme) (operand rest)
          binaryLoop operator operand fuel (.binary op left right) after

/-- Operands joined by operators of one level, from the left. -/
def parseLeft (operator : ExprTokenType Double → Option BinaryOp) (operand : ExprParser Double) :
    ExprParser Double := fun tokens => do
  let (left, rest) ← operand tokens
  binaryLoop operator operand (rest.length + 1) left rest

/-- The loop over the arguments of a call. -/
def parseArguments (upper : String) (argument : ExprParser Double) :
    Nat → TokenParser Double (List (Expr Double))
  | 0, _ => .error .outOfFuel
  | fuel + 1, tokens => do
      let (first, rest) ← argument tokens
      match rest with
      | [] => .ok ([first], [])
      | token :: after =>
          if isComma token.type then
            if currentIs isRParen after then
              failed ("Trailing comma in " ++ upper ++ " argument list")
            else do
              let (others, last) ← parseArguments upper argument fuel after
              return (first :: others, last)
          else .ok ([first], token :: after)

section Levels

variable (unary : ExprParser Double)

/-- `parseMulDiv`. -/
def parseMulDiv : ExprParser Double := parseLeft multiplicativeOp unary

/-- `parseAddSub`. -/
def parseAddSub : ExprParser Double := parseLeft additiveOp (parseMulDiv unary)

/-- `parseComparison`: one comparison at most. -/
def parseComparison : ExprParser Double := fun tokens => do
  let (left, rest) ← parseAddSub unary tokens
  match rest with
  | [] => .ok (left, [])
  | token :: after =>
      match comparisonOp token.type with
      | none => .ok (left, token :: after)
      | some op => do
          let (right, last) ← orError (placement token.lexeme) (parseAddSub unary after)
          return (.binary op left right, last)

/-- The arguments of a call, up to its `)`. -/
def parseCallArguments (upper : String) (minArgs : Nat) : TokenParser Double (List (Expr Double)) :=
  fun tokens =>
    if currentIs isRParen tokens then
      if 0 < minArgs then failed (upper ++ " requires an argument") else .ok ([], tokens)
    else parseArguments upper (parseComparison unary) (tokens.length + 1) tokens

/-- A call of a builtin, after its `(`. -/
def parseCall (upper : String) : ExprParser Double := fun tokens =>
  match builtinArityBounds upper with
  | none => failed ("Internal error: missing arity for " ++ upper)
  | some (minArgs, maxArgs) => do
      let (args, rest) ← parseCallArguments unary upper minArgs tokens
      let last ← expect isRParen ("Missing ')' after " ++ upper ++ " argument") rest
      if args.length < minArgs || maxArgs < args.length then
        failed (upper ++ " expects " ++ toString minArgs ++ " to " ++ toString maxArgs ++
          " argument(s), got " ++ toString args.length)
      else return (.functionCall upper args, last)

/-- A subscript, after its `(`. -/
def parseSubscript (name : String) : ExprParser Double := fun tokens => do
  let (index, rest) ← parseAddSub unary tokens
  let last ← expect isRParen "Missing ')' in array subscript" rest
  return (.subscript name index, last)

/-- An index of an attribute access, which ends at a token that has the given property. -/
def parseIndex (ends : ExprTokenType Double → Bool) (message : String) : ExprParser Double :=
  fun tokens =>
    if tokens.isEmpty || currentIs ends tokens then failed message
    else orError message (parseAddSub unary tokens)

/-- An attribute access, after its `<`. -/
def parseAttribute (name : String) : ExprParser Double := fun tokens => do
  let (attr, rest) ←
    parseIndex unary (fun type => isComma type || isGt type) "Attribute index cannot be empty" tokens
  if currentIs isComma rest then
    let (valueIndex, after) ← parseIndex unary isGt "Value index cannot be empty" rest.tail
    let last ← expect isGt "Missing '>' in attribute access" after
    return (.valueAccess name attr valueIndex, last)
  else
    let last ← expect isGt "Missing '>' in attribute access" rest
    return (.attributeAccess name attr, last)

/-- What starts with an identifier. -/
def parseIdentifier (name : String) : ExprParser Double
  | [] => .ok (.identifier name, [])
  | token :: rest =>
      match token.type with
      | .lParen =>
          if isBuiltinCallName (uppercase name) then parseCall unary (uppercase name) rest
          else parseSubscript unary name rest
      | .lt true => parseAttribute unary name rest
      | _ => .ok (.identifier name, token :: rest)

/-- An expression in parentheses, after its `(`. -/
def parseGroup : ExprParser Double := fun tokens =>
  if currentIs isRParen tokens then failed "empty expression"
  else do
    let (inner, rest) ← parseAddSub unary tokens
    let last ← expect isRParen "Missing ')'" rest
    return (.grouped inner, last)

/-- `parsePrimary`. -/
def parsePrimary : ExprParser Double
  | [] => failed "empty expression"
  | token :: rest =>
      match token.type with
      | .intLiteral value => .ok (.intLiteral value, rest)
      | .floatLiteral value => .ok (.floatLiteral value, rest)
      | .stringLiteral value => .ok (.stringLiteral value, rest)
      | .identifier => parseIdentifier unary (String.ofList token.lexeme) rest
      | .lParen => parseGroup unary rest
      | _ => failed (unexpectedToken token.lexeme)

end Levels

/-- `parseUnary`; the fuel is the depth of the nesting. -/
def parseUnary : Nat → ExprParser Double
  | 0, _ => .error .outOfFuel
  | _ + 1, [] => failed "empty expression"
  | fuel + 1, token :: rest =>
      match token.type with
      | .minus => do
          let (operand, after) ← orError (placement ['-']) (parseUnary fuel rest)
          return (.negate operand, after)
      | _ => parsePrimary (parseUnary fuel) (token :: rest)

/-- `ExpressionParser::parse`. -/
def parseTokens (tokens : List (ExprToken Double)) : Except ParseFailure (Expr Double) := do
  if tokens.isEmpty then failed "empty expression"
  else
    let (expression, rest) ← parseComparison (parseUnary (tokens.length + 1)) tokens
    match rest with
    | [] => .ok expression
    | token :: _ => failed (unexpectedToken token.lexeme)

/-- The text of an error. -/
def ParseFailure.message : ParseFailure → String
  | .error message => message
  | .outOfFuel => ""

/-- `BasicExpressionParser::parse`. -/
def parseExpression [Doubles Double] (expressionText : String) : Except String (Expr Double) := do
  let tokens ← tokenizeExpression expressionText
  (parseTokens tokens).mapError ParseFailure.message

/-! ## The count is enough -/

/-- A part of the parser has not run out, and it has left fewer tokens than there were. -/
def Consumes {Result : Type} (size : Nat) :
    Except ParseFailure (Result × List (ExprToken Double)) → Prop
  | .error .outOfFuel => False
  | .error (.error _) => True
  | .ok (_, rest) => rest.length < size

/-- On fewer tokens than the bound a parser does not run out. -/
def Progresses {Result : Type} (bound : Nat) (parser : TokenParser Double Result) : Prop :=
  ∀ tokens, tokens.length < bound → Consumes tokens.length (parser tokens)

/-- Tokens that are consumed one part after the other. -/
theorem Consumes.bind {First Result : Type} {size total : Nat}
    {first : Except ParseFailure (First × List (ExprToken Double))}
    {next : First × List (ExprToken Double) →
      Except ParseFailure (Result × List (ExprToken Double))}
    (consumes : Consumes size first)
    (goesOn : ∀ value rest, rest.length < size → Consumes total (next (value, rest))) :
    Consumes total (first >>= next) := by
  rcases first with (message | _) | ⟨value, rest⟩
  · trivial
  · exact consumes
  · exact goesOn value rest consumes

/-- A change of the error consumes no less. -/
theorem Consumes.orError {Result : Type} {size : Nat}
    {outcome : Except ParseFailure (Result × List (ExprToken Double))}
    (consumes : Consumes size outcome) (message : String) :
    Consumes size (orError message outcome) := by
  unfold Basic.orError
  split
  · trivial
  · exact consumes

/-- What leaves fewer tokens than a size leaves fewer than a larger one. -/
theorem Consumes.mono {Result : Type} {size larger : Nat}
    {outcome : Except ParseFailure (Result × List (ExprToken Double))}
    (consumes : Consumes size outcome) (atMost : size ≤ larger) : Consumes larger outcome := by
  rcases outcome with (message | _) | ⟨value, rest⟩
  · trivial
  · exact consumes
  · exact Nat.lt_of_lt_of_le consumes atMost

/-- An expected token is consumed. -/
theorem consumes_expect {Result : Type} {total : Nat} {test : ExprTokenType Double → Bool}
    {message : String} {tokens : List (ExprToken Double)}
    {next : List (ExprToken Double) → Except ParseFailure (Result × List (ExprToken Double))}
    (goesOn : ∀ last, last.length < tokens.length → Consumes total (next last)) :
    Consumes total (expect test message tokens >>= next) := by
  cases tokens with
  | nil => trivial
  | cons token rest =>
      by_cases passes : test token.type
      · rw [expect, if_pos passes]
        exact goesOn rest (Nat.lt_succ_self _)
      · rw [expect, if_neg passes]
        trivial

/-- The loop over the operators has fuel enough, and consumes what its operands do. -/
theorem consumes_binaryLoop {operator : ExprTokenType Double → Option BinaryOp}
    {operand : ExprParser Double} {bound size fuel : Nat} (progresses : Progresses bound operand)
    (left : Expr Double) {tokens : List (ExprToken Double)} (short : tokens.length < bound)
    (enough : tokens.length < fuel) (fewer : tokens.length < size) :
    Consumes size (binaryLoop operator operand fuel left tokens) := by
  induction fuel generalizing left tokens with
  | zero => omega
  | succ fuel inductionHypothesis =>
      cases tokens with
      | nil => exact fewer
      | cons token rest =>
          rw [List.length_cons] at short enough fewer
          rw [binaryLoop]
          split
          · exact fewer
          · next op isOp =>
              refine ((progresses rest (by omega)).orError _).bind fun right after less => ?_
              exact inductionHypothesis _ (by omega) (by omega) (by omega)

/-- A level makes progress when its operands do. -/
theorem Progresses.parseLeft {operand : ExprParser Double} {bound : Nat}
    (progresses : Progresses bound operand) (operator : ExprTokenType Double → Option BinaryOp) :
    Progresses bound (parseLeft operator operand) := by
  intro tokens short
  refine (progresses tokens short).bind fun left rest less => ?_
  exact consumes_binaryLoop progresses left (by omega) (by omega) less

/-- Arguments have fuel enough and consume tokens. -/
theorem consumes_parseArguments {upper : String} {argument : ExprParser Double} {bound fuel : Nat}
    (progresses : Progresses bound argument) {tokens : List (ExprToken Double)}
    (short : tokens.length < bound) (enough : tokens.length < fuel) :
    Consumes tokens.length (parseArguments upper argument fuel tokens) := by
  induction fuel generalizing tokens with
  | zero => omega
  | succ fuel inductionHypothesis =>
      refine (progresses tokens short).bind fun first rest less => ?_
      cases rest with
      | nil => exact less
      | cons token after =>
          rw [List.length_cons] at less
          dsimp only
          split
          · split
            · trivial
            · refine (inductionHypothesis (by omega) (by omega)).bind fun others last fewer => ?_
              exact Nat.lt_trans fewer (by omega)
          · exact less

section Progress

variable {unary : ExprParser Double} {bound : Nat} (progresses : Progresses bound unary)
include progresses

theorem progresses_parseAddSub : Progresses bound (parseAddSub unary) :=
  (progresses.parseLeft _).parseLeft _

theorem progresses_parseComparison : Progresses bound (parseComparison unary) := by
  have addSub := progresses_parseAddSub progresses
  intro tokens short
  refine (addSub tokens short).bind fun left rest less => ?_
  cases rest with
  | nil => exact less
  | cons token after =>
      rw [List.length_cons] at less
      dsimp only
      split
      · exact less
      · refine ((addSub after (by omega)).orError _).bind fun right last fewer => ?_
        exact Nat.lt_trans fewer (by omega)

theorem progresses_parseCall (upper : String) : Progresses bound (parseCall unary upper) := by
  have comparison := progresses_parseComparison progresses
  intro tokens short
  unfold parseCall
  split
  · trivial
  · next minArgs maxArgs _ =>
      have arguments :
          Consumes (tokens.length + 1) (parseCallArguments unary upper minArgs tokens) := by
        unfold parseCallArguments
        split
        · split
          · trivial
          · exact Nat.lt_succ_self _
        · exact (consumes_parseArguments comparison short (Nat.lt_succ_self _)).mono (Nat.le_succ _)
      refine arguments.bind fun args rest less => ?_
      refine consumes_expect fun last fewer => ?_
      split
      · trivial
      · show last.length < tokens.length
        omega

theorem progresses_parseSubscript (name : String) :
    Progresses bound (parseSubscript unary name) := by
  intro tokens short
  refine (progresses_parseAddSub progresses tokens short).bind fun index rest less => ?_
  exact consumes_expect fun last fewer => Nat.lt_trans fewer less

theorem progresses_parseIndex (ends : ExprTokenType Double → Bool) (message : String) :
    Progresses bound (parseIndex unary ends message) := by
  intro tokens short
  unfold parseIndex
  split
  · trivial
  · exact (progresses_parseAddSub progresses tokens short).orError message

theorem progresses_parseAttribute (name : String) :
    Progresses bound (parseAttribute unary name) := by
  intro tokens short
  refine (progresses_parseIndex progresses _ _ tokens short).bind fun attr rest less => ?_
  dsimp only
  split
  · have shorter : rest.tail.length ≤ rest.length := by simp
    refine (progresses_parseIndex progresses _ _ rest.tail (by omega)).bind
      fun valueIndex after fewer => ?_
    refine consumes_expect fun last least => ?_
    dsimp only at least
    show last.length < tokens.length
    omega
  · exact consumes_expect fun last fewer => Nat.lt_trans fewer less

/-- Operands make progress when what stands inside of them does. -/
theorem progresses_parsePrimary : Progresses (bound + 1) (parsePrimary unary) := by
  intro tokens short
  cases tokens with
  | nil => trivial
  | cons token rest =>
      rw [List.length_cons] at short
      have shorter : rest.length < bound := by omega
      have larger : rest.length ≤ (token :: rest).length := Nat.le_succ _
      rw [parsePrimary]
      split
      · exact Nat.lt_succ_self _
      · exact Nat.lt_succ_self _
      · exact Nat.lt_succ_self _
      · cases rest with
        | nil => exact Nat.lt_succ_self _
        | cons next rest =>
            rw [List.length_cons] at shorter
            have least : rest.length ≤ (token :: next :: rest).length := by simp; omega
            rw [parseIdentifier]
            split
            · split
              · exact (progresses_parseCall progresses _ rest (by omega)).mono least
              · exact (progresses_parseSubscript progresses _ rest (by omega)).mono least
            · exact (progresses_parseAttribute progresses _ rest (by omega)).mono least
            · exact Nat.lt_succ_self _
      · unfold parseGroup
        split
        · trivial
        · refine (progresses_parseAddSub progresses rest shorter).bind fun inner after less => ?_
          refine consumes_expect fun last fewer => ?_
          show last.length < rest.length + 1
          omega
      · trivial

end Progress

/-- With fuel for its depth, the parser makes progress. -/
theorem progresses_parseUnary (fuel : Nat) :
    Progresses fuel (parseUnary fuel : ExprParser Double) := by
  induction fuel with
  | zero => exact fun tokens short => absurd short (Nat.not_lt_zero _)
  | succ fuel inductionHypothesis =>
      intro tokens short
      cases tokens with
      | nil => trivial
      | cons token rest =>
          rw [parseUnary]
          split
          · refine ((inductionHypothesis rest (Nat.lt_of_succ_lt_succ short)).orError _).bind
              fun operand after less => ?_
            exact Nat.lt_trans less (Nat.lt_succ_self _)
          · exact progresses_parsePrimary inductionHypothesis _ short

/-- The count of `parseTokens` is enough: every failure is one of the source. -/
theorem parseTokens_fuel (tokens : List (ExprToken Double)) :
    parseTokens tokens ≠ .error .outOfFuel := by
  have consumes := progresses_parseComparison (progresses_parseUnary (tokens.length + 1)) tokens
    (Nat.lt_succ_self _)
  unfold parseTokens
  split
  · exact nofun
  · rcases parsed : parseComparison (parseUnary (tokens.length + 1)) tokens with
      (message | _) | ⟨expression, _ | ⟨token, rest⟩⟩
    · exact nofun
    · rw [parsed] at consumes
      exact consumes.elim
    · exact nofun
    · exact nofun

end Gemini.Basic
