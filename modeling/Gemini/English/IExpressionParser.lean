import Gemini.Data.Descent
import Gemini.English.IExpressionLexer

/-!
# The parser of I-type expressions

Each level is given the parser of what stands in parentheses, in a call and in the branches of an
`IF`, and `parseExpr` counts how deep these go; `parseTokens_count` says that the count is enough.
Every error has one text.
-/

namespace Gemini.English

/-- The comparisons of I-type expressions. -/
inductive ICompareOp where
  | eq
  | ne
  | lt
  | le
  | gt
  | ge
deriving DecidableEq

/-- The functions of I-type expressions. -/
inductive ICallKind where
  | iconv
  | oconv
deriving DecidableEq

/-- `IExpr`; the attributes of fields count from 1. -/
inductive IExpr (Number : Type) where
  | number (value : Number)
  | string (value : String)
  | field (attributeNo : ℕ)
  | unary (op : Char) (operand : IExpr Number)
  | binary (op : Char) (left right : IExpr Number)
  | compare (op : ICompareOp) (left right : IExpr Number)
  | ifThenElse (condition thenExpr elseExpr : IExpr Number)
  | call (kind : ICallKind) (valueArg codeArg : IExpr Number)
deriving DecidableEq

namespace IType

open Gemini.Data (Descent Stop expectToken parseLeft Consumes Progresses consumes_expectToken)

variable {Number : Type}

/-- A parser of I-type expressions. -/
abbrev Parser (Number : Type) := Descent (Token Number) (IExpr Number)

/-- `isCompareToken` and `compareOpFromToken`. -/
def compareOp : Token Number → Option ICompareOp
  | .eq => some .eq
  | .ne => some .ne
  | .lt => some .lt
  | .le => some .le
  | .gt => some .gt
  | .ge => some .ge
  | _ => none

/-- The operators of sums. -/
def additiveOp : Token Number → Option (IExpr Number → IExpr Number → IExpr Number)
  | .plus => some (.binary '+')
  | .minus => some (.binary '-')
  | _ => none

/-- The operators of products. -/
def multiplicativeOp : Token Number → Option (IExpr Number → IExpr Number → IExpr Number)
  | .star => some (.binary '*')
  | .slash => some (.binary '/')
  | _ => none

section Levels

variable [DecidableEq Number] (inner : Parser Number)

/-- A call, after its name. -/
def parseCall (kind : ICallKind) : Parser Number := fun tokens => do
  let afterParen ← expectToken .lParen tokens
  let (valueArg, afterValue) ← inner afterParen
  let afterComma ← expectToken .comma afterValue
  let (codeArg, afterCode) ← inner afterComma
  let rest ← expectToken .rParen afterCode
  return (.call kind valueArg codeArg, rest)

/-- An expression in parentheses, after its `(`. -/
def parseGroup : Parser Number := fun tokens => do
  let (expression, after) ← inner tokens
  let rest ← expectToken .rParen after
  return (expression, rest)

/-- `parsePrimary`. -/
def parsePrimary : Parser Number
  | .number value :: rest => .ok (.number value, rest)
  | .string value :: rest => .ok (.string (String.ofList value), rest)
  | .field attributeNo :: rest => .ok (.field attributeNo, rest)
  | .kwIconv :: rest => parseCall inner .iconv rest
  | .kwOconv :: rest => parseCall inner .oconv rest
  | .lParen :: rest => parseGroup inner rest
  | _ => .error .refused

/-- `parseUnary`; a plus sign is left out. -/
def parseUnary : Parser Number
  | .minus :: rest => do
      let (operand, after) ← parseUnary rest
      return (.unary '-' operand, after)
  | .plus :: rest => parseUnary rest
  | tokens => parsePrimary inner tokens

/-- `parseMultiplicative`. -/
def parseMultiplicative : Parser Number := parseLeft multiplicativeOp (parseUnary inner)

/-- `parseAdditive`. -/
def parseAdditive : Parser Number := parseLeft additiveOp (parseMultiplicative inner)

/-- `parseComparison`: one comparison at most. -/
def parseComparison : Parser Number := fun tokens => do
  let (left, rest) ← parseAdditive inner tokens
  match rest with
  | [] => .ok (left, [])
  | token :: after =>
      match compareOp token with
      | none => .ok (left, token :: after)
      | some op => do
          let (right, last) ← parseAdditive inner after
          return (.compare op left right, last)

/-- An `IF`, after the keyword. -/
def parseIf : Parser Number := fun tokens => do
  let (condition, afterCondition) ← parseComparison inner tokens
  let afterThen ← expectToken .kwThen afterCondition
  let (thenExpr, afterBranch) ← inner afterThen
  let afterElse ← expectToken .kwElse afterBranch
  let (elseExpr, rest) ← inner afterElse
  return (.ifThenElse condition thenExpr elseExpr, rest)

/-- `parseExpr`, with the parser of the expressions inside. -/
def parseExprWith : Parser Number
  | .kwIf :: rest => parseIf inner rest
  | tokens => parseAdditive inner tokens

end Levels

section Parse

variable [DecidableEq Number]

/-- `parseExpr`, up to a depth of nesting. -/
def parseExpr : ℕ → Parser Number
  | 0 => fun _ => .error .exhausted
  | count + 1 => parseExprWith (parseExpr count)

/-- `parseExpression`. -/
def parseTokens (tokens : List (Token Number)) : Except Stop (IExpr Number) := do
  let (expression, rest) ← parseExpr (tokens.length + 1) tokens
  match rest with
  | [] => return expression
  | _ :: _ => .error .refused

/-- `IExpressionParser::parse`. -/
def parse [Literals Number] (source : String) : Except String (IExpr Number) :=
  (parseTokens (tokenize source.toList)).mapError fun _ => "I-type: invalid expression"

end Parse

/-! ## The count is enough -/

section Progress

variable [DecidableEq Number] {inner : Parser Number} {bound : ℕ}
  (progresses : Progresses bound inner)

include progresses

theorem progresses_parseCall (kind : ICallKind) : Progresses bound (parseCall inner kind) := by
  intro tokens short
  refine consumes_expectToken fun afterParen less => ?_
  refine (progresses afterParen (by omega)).bind fun valueArg afterValue fewer => ?_
  refine consumes_expectToken fun afterComma lessComma => ?_
  refine (progresses afterComma (by omega)).bind fun codeArg afterCode fewerCode => ?_
  refine consumes_expectToken fun rest last => ?_
  change rest.length < tokens.length
  omega

theorem progresses_parseGroup : Progresses bound (parseGroup inner) := by
  intro tokens short
  refine (progresses tokens short).bind fun expression after less => ?_
  exact consumes_expectToken fun rest fewer => Nat.lt_trans fewer less

/-- Operands make progress when what stands inside of them does. -/
theorem progresses_parsePrimary : Progresses (bound + 1) (parsePrimary inner) := by
  intro tokens short
  unfold parsePrimary
  split
  · exact Nat.lt_succ_self _
  · exact Nat.lt_succ_self _
  · exact Nat.lt_succ_self _
  · exact (progresses_parseCall progresses .iconv _ (Nat.lt_of_succ_lt_succ short)).mono
      (Nat.le_succ _)
  · exact (progresses_parseCall progresses .oconv _ (Nat.lt_of_succ_lt_succ short)).mono
      (Nat.le_succ _)
  · exact (progresses_parseGroup progresses _ (Nat.lt_of_succ_lt_succ short)).mono (Nat.le_succ _)
  · trivial

/-- So do signs. -/
theorem progresses_parseUnary : Progresses (bound + 1) (parseUnary inner) := by
  intro tokens short
  induction tokens using parseUnary.induct with
  | case1 rest hypothesis =>
      rw [List.length_cons] at short
      rw [parseUnary]
      refine (hypothesis (by omega)).bind fun operand after less => ?_
      exact Nat.lt_trans less (Nat.lt_succ_self _)
  | case2 rest hypothesis =>
      rw [List.length_cons] at short
      rw [parseUnary]
      exact (hypothesis (by omega)).mono (Nat.le_succ _)
  | case3 tokens notMinus notPlus =>
      rw [parseUnary]
      · exact progresses_parsePrimary progresses tokens short
      · exact notMinus
      · exact notPlus

theorem progresses_parseAdditive : Progresses (bound + 1) (parseAdditive inner) :=
  (progresses_parseUnary progresses).parseLeft.parseLeft

/-- So do comparisons. -/
theorem progresses_parseComparison : Progresses (bound + 1) (parseComparison inner) := by
  have additive := progresses_parseAdditive progresses
  intro tokens short
  refine (additive tokens short).bind fun left rest less => ?_
  cases rest with
  | nil => exact less
  | cons token after =>
      rw [List.length_cons] at less
      dsimp only
      split
      · exact less
      · refine (additive after (by omega)).bind fun right last fewer => ?_
        exact Nat.lt_trans fewer (by omega)

theorem progresses_parseIf : Progresses bound (parseIf inner) := by
  intro tokens short
  refine (progresses_parseComparison progresses tokens (by omega)).bind
    fun condition afterCondition less => ?_
  refine consumes_expectToken fun afterThen fewer => ?_
  refine (progresses afterThen (by omega)).bind fun thenExpr afterBranch lessThen => ?_
  refine consumes_expectToken fun afterElse fewerElse => ?_
  refine (progresses afterElse (by omega)).bind fun elseExpr rest last => ?_
  change rest.length < tokens.length
  omega

/-- So do expressions. -/
theorem progresses_parseExprWith : Progresses (bound + 1) (parseExprWith inner) := by
  intro tokens short
  unfold parseExprWith
  split
  · next rest =>
      rw [List.length_cons] at short ⊢
      exact (progresses_parseIf progresses rest (by omega)).mono (Nat.le_succ _)
  · exact progresses_parseAdditive progresses tokens short

end Progress

/-- With fuel for its depth, the parser makes progress. -/
theorem progresses_parseExpr [DecidableEq Number] (count : ℕ) :
    Progresses count (parseExpr count : Parser Number) := by
  induction count with
  | zero => exact fun tokens short => absurd short (Nat.not_lt_zero _)
  | succ count hypothesis => exact progresses_parseExprWith hypothesis

/-- The count of `parseTokens` is enough: every failure is one of the source. -/
theorem parseTokens_count [DecidableEq Number] (tokens : List (Token Number)) :
    parseTokens tokens ≠ .error .exhausted := by
  have consumes := progresses_parseExpr (tokens.length + 1) tokens (Nat.lt_succ_self _)
  unfold parseTokens
  rcases parsed : parseExpr (tokens.length + 1) tokens with (_ | _) | ⟨expression, _ | ⟨token, rest⟩⟩
  · nofun
  · rw [parsed] at consumes
    exact consumes.elim
  · nofun
  · nofun

end IType

end Gemini.English
