import Gemini.English.IExpressionParser

/-!
# The grammar of I-type expressions

`Renders` gives the tokens of an expression, level by level, with parentheses and unary `+` wherever
the grammar lets them stand, and `IExpr.print` puts parentheses only where they are needed.
`parse_eq_ok` says that the parser takes exactly the renderings.
-/

namespace Gemini.English.IType

open Gemini.Data (Stop Sound Complete Spine expectToken expectToken_eq_ok bind_eq_ok)

variable {Number : Type}

/-- The levels of precedence. A branch and an argument are expressions; only a condition is compared.
-/
inductive Level where
  | primary
  | unary
  | multiplicative
  | additive
  | expression
  | condition
deriving DecidableEq

/-- The keyword of a call. -/
def callToken : ICallKind → Token Number
  | .iconv => .kwIconv
  | .oconv => .kwOconv

/-- The tokens of an expression at a level. -/
inductive Renders : Level → IExpr Number → List (Token Number) → Prop
  | number (value : Number) : Renders .primary (.number value) [.number value]
  | string (value : List Char) : Renders .primary (.string (String.ofList value)) [.string value]
  | field (attributeNo : ℕ) : Renders .primary (.field attributeNo) [.field attributeNo]
  | call {kind : ICallKind} {valueArg codeArg : IExpr Number} {tokens others : List (Token Number)}
      (value : Renders .expression valueArg tokens) (code : Renders .expression codeArg others) :
      Renders .primary (.call kind valueArg codeArg)
        (callToken kind :: .lParen :: (tokens ++ .comma :: (others ++ [.rParen])))
  | group {expression : IExpr Number} {tokens : List (Token Number)}
      (inner : Renders .expression expression tokens) :
      Renders .primary expression (.lParen :: (tokens ++ [.rParen]))
  | unary {expression : IExpr Number} {tokens : List (Token Number)}
      (inner : Renders .primary expression tokens) : Renders .unary expression tokens
  | negate {operand : IExpr Number} {tokens : List (Token Number)}
      (inner : Renders .unary operand tokens) :
      Renders .unary (.unary '-' operand) (.minus :: tokens)
  | plus {expression : IExpr Number} {tokens : List (Token Number)}
      (inner : Renders .unary expression tokens) : Renders .unary expression (.plus :: tokens)
  | multiplicative {expression : IExpr Number} {tokens : List (Token Number)}
      (inner : Renders .unary expression tokens) : Renders .multiplicative expression tokens
  | product {token : Token Number} {apply : IExpr Number → IExpr Number → IExpr Number}
      {left right : IExpr Number} {tokens others : List (Token Number)}
      (isOp : multiplicativeOp token = some apply) (first : Renders .multiplicative left tokens)
      (second : Renders .unary right others) :
      Renders .multiplicative (apply left right) (tokens ++ token :: others)
  | additive {expression : IExpr Number} {tokens : List (Token Number)}
      (inner : Renders .multiplicative expression tokens) : Renders .additive expression tokens
  | sum {token : Token Number} {apply : IExpr Number → IExpr Number → IExpr Number}
      {left right : IExpr Number} {tokens others : List (Token Number)}
      (isOp : additiveOp token = some apply) (first : Renders .additive left tokens)
      (second : Renders .multiplicative right others) :
      Renders .additive (apply left right) (tokens ++ token :: others)
  | expression {expression : IExpr Number} {tokens : List (Token Number)}
      (inner : Renders .additive expression tokens) : Renders .expression expression tokens
  | ifThenElse {condition thenExpr elseExpr : IExpr Number}
      {tokens others last : List (Token Number)} (tests : Renders .condition condition tokens)
      (first : Renders .expression thenExpr others) (second : Renders .expression elseExpr last) :
      Renders .expression (.ifThenElse condition thenExpr elseExpr)
        (.kwIf :: (tokens ++ .kwThen :: (others ++ .kwElse :: last)))
  | condition {expression : IExpr Number} {tokens : List (Token Number)}
      (inner : Renders .additive expression tokens) : Renders .condition expression tokens
  | compare {token : Token Number} {op : ICompareOp} {left right : IExpr Number}
      {tokens others : List (Token Number)} (isOp : compareOp token = some op)
      (first : Renders .additive left tokens) (second : Renders .additive right others) :
      Renders .condition (.compare op left right) (tokens ++ token :: others)

/-! ## The parser takes only renderings -/

/-- A spine of products is a product. -/
theorem renders_of_products {expression : IExpr Number} {tokens : List (Token Number)}
    (spine : Spine multiplicativeOp (Renders .unary) expression tokens) :
    Renders .multiplicative expression tokens := by
  induction spine with
  | single first => exact .multiplicative first
  | join isOp _ last hypothesis => exact .product isOp hypothesis last

/-- A spine of sums is a sum. -/
theorem renders_of_sums {expression : IExpr Number} {tokens : List (Token Number)}
    (spine : Spine additiveOp (Renders .multiplicative) expression tokens) :
    Renders .additive expression tokens := by
  induction spine with
  | single first => exact .additive first
  | join isOp _ last hypothesis => exact .sum isOp hypothesis last

section Soundness

variable [DecidableEq Number] {inner : Parser Number} (sound : Sound (Renders .expression) inner)

include sound

/-- A call is parsed soundly. -/
theorem parseCall_sound {kind : ICallKind} {tokens rest : List (Token Number)}
    {expression : IExpr Number} (done : parseCall inner kind tokens = .ok (expression, rest)) :
    ∃ front, callToken kind :: tokens = front ++ rest ∧ Renders .primary expression front := by
  obtain ⟨afterParen, opens, done⟩ := bind_eq_ok.mp done
  obtain ⟨⟨valueArg, afterValue⟩, isValue, done⟩ := bind_eq_ok.mp done
  obtain ⟨afterComma, separates, done⟩ := bind_eq_ok.mp done
  obtain ⟨⟨codeArg, afterCode⟩, isCode, done⟩ := bind_eq_ok.mp done
  obtain ⟨last, closes, done⟩ := bind_eq_ok.mp done
  cases done
  obtain ⟨front, rfl, value⟩ := sound isValue
  rw [expectToken_eq_ok] at opens separates closes
  subst separates
  obtain ⟨back, rfl, code⟩ := sound isCode
  subst opens closes
  exact ⟨_, by simp, .call value code⟩

/-- A group is parsed soundly. -/
theorem parseGroup_sound {tokens rest : List (Token Number)} {expression : IExpr Number}
    (done : parseGroup inner tokens = .ok (expression, rest)) :
    ∃ front, .lParen :: tokens = front ++ rest ∧ Renders .primary expression front := by
  obtain ⟨⟨found, after⟩, isFound, done⟩ := bind_eq_ok.mp done
  obtain ⟨last, closes, done⟩ := bind_eq_ok.mp done
  cases done
  obtain ⟨front, rfl, renders⟩ := sound isFound
  rw [expectToken_eq_ok] at closes
  subst closes
  exact ⟨_, by simp, .group renders⟩

/-- Operands are parsed soundly. -/
theorem parsePrimary_sound : Sound (Renders .primary) (parsePrimary inner) := by
  intro tokens expression rest done
  unfold parsePrimary at done
  split at done
  · cases done
    exact ⟨_, rfl, .number _⟩
  · cases done
    exact ⟨_, rfl, .string _⟩
  · cases done
    exact ⟨_, rfl, .field _⟩
  · exact @parseCall_sound _ _ _ sound .iconv _ _ _ done
  · exact @parseCall_sound _ _ _ sound .oconv _ _ _ done
  · exact parseGroup_sound sound done
  · cases done

/-- Signs are parsed soundly. -/
theorem parseUnary_sound : Sound (Renders .unary) (parseUnary inner) := by
  intro tokens expression rest done
  induction tokens using parseUnary.induct generalizing expression with
  | case1 tokens hypothesis =>
      rw [parseUnary] at done
      obtain ⟨⟨operand, after⟩, found, done⟩ := bind_eq_ok.mp done
      cases done
      obtain ⟨front, rfl, renders⟩ := hypothesis found
      exact ⟨_, rfl, .negate renders⟩
  | case2 tokens hypothesis =>
      rw [parseUnary] at done
      obtain ⟨front, rfl, renders⟩ := hypothesis done
      exact ⟨_, rfl, .plus renders⟩
  | case3 tokens notMinus notPlus =>
      rw [parseUnary] at done
      · obtain ⟨front, isTokens, renders⟩ := parsePrimary_sound sound done
        exact ⟨front, isTokens, .unary renders⟩
      · exact notMinus
      · exact notPlus

/-- Sums are parsed soundly. -/
theorem parseAdditive_sound : Sound (Renders .additive) (parseAdditive inner) := by
  have products : Sound (Renders .multiplicative) (parseMultiplicative inner) := by
    intro tokens expression rest done
    obtain ⟨front, isTokens, spine⟩ := (parseUnary_sound sound).parseLeft done
    exact ⟨front, isTokens, renders_of_products spine⟩
  intro tokens expression rest done
  obtain ⟨front, isTokens, spine⟩ := products.parseLeft done
  exact ⟨front, isTokens, renders_of_sums spine⟩

/-- Comparisons are parsed soundly. -/
theorem parseComparison_sound : Sound (Renders .condition) (parseComparison inner) := by
  have additive := parseAdditive_sound sound
  intro tokens expression rest done
  obtain ⟨⟨left, after⟩, found, goesOn⟩ := bind_eq_ok.mp done
  obtain ⟨front, rfl, first⟩ := additive found
  cases after with
  | nil =>
      cases goesOn
      exact ⟨front, rfl, .condition first⟩
  | cons token others =>
      dsimp only at goesOn
      split at goesOn
      · cases goesOn
        exact ⟨front, rfl, .condition first⟩
      · next op isOp =>
          obtain ⟨⟨right, last⟩, operand, isResult⟩ := bind_eq_ok.mp goesOn
          cases isResult
          obtain ⟨back, rfl, second⟩ := additive operand
          exact ⟨_, by simp, .compare isOp first second⟩

/-- An `IF` is parsed soundly. -/
theorem parseExprWith_sound : Sound (Renders .expression) (parseExprWith inner) := by
  intro tokens expression rest done
  unfold parseExprWith at done
  split at done
  · next tokens =>
      obtain ⟨⟨condition, afterCondition⟩, isCondition, done⟩ := bind_eq_ok.mp done
      obtain ⟨afterThen, isThen, done⟩ := bind_eq_ok.mp done
      obtain ⟨⟨thenExpr, afterBranch⟩, isBranch, done⟩ := bind_eq_ok.mp done
      obtain ⟨afterElse, isElse, done⟩ := bind_eq_ok.mp done
      obtain ⟨⟨elseExpr, last⟩, isLast, done⟩ := bind_eq_ok.mp done
      cases done
      rw [expectToken_eq_ok] at isThen isElse
      obtain ⟨front, rfl, tests⟩ := parseComparison_sound sound isCondition
      subst isThen
      obtain ⟨middle, rfl, first⟩ := sound isBranch
      subst isElse
      obtain ⟨back, rfl, second⟩ := sound isLast
      exact ⟨_, by simp, .ifThenElse tests first second⟩
  · obtain ⟨front, isTokens, renders⟩ := parseAdditive_sound sound done
    exact ⟨front, isTokens, .expression renders⟩

end Soundness

/-- Expressions are parsed soundly, at each depth. -/
theorem parseExpr_sound [DecidableEq Number] (count : ℕ) :
    Sound (Renders .expression) (parseExpr count : Parser Number) := by
  induction count with
  | zero => nofun
  | succ count hypothesis => exact parseExprWith_sound hypothesis

/-! ## The parser takes every rendering -/

/-- The renderings with fewer tokens than the bound. -/
def Within (bound : ℕ) (level : Level) (expression : IExpr Number) (tokens : List (Token Number)) :
    Prop :=
  Renders level expression tokens ∧ tokens.length < bound

/-- The operators of the two levels, whose operands have fewer tokens. -/
theorem Renders.spine {bound : ℕ} {level : Level} {expression : IExpr Number}
    {tokens : List (Token Number)} (renders : Renders level expression tokens)
    (short : tokens.length < bound) :
    (level = .multiplicative →
      Spine multiplicativeOp (Within bound .unary) expression tokens) ∧
    (level = .additive → Spine additiveOp (Within bound .multiplicative) expression tokens) := by
  induction renders with
  | multiplicative inner => exact ⟨fun _ => .single ⟨inner, short⟩, nofun⟩
  | additive inner => exact ⟨nofun, fun _ => .single ⟨inner, short⟩⟩
  | product isOp first second hypothesis =>
      rw [List.length_append, List.length_cons] at short
      exact ⟨fun _ => .join isOp ((hypothesis (by omega)).1 rfl) ⟨second, by omega⟩, nofun⟩
  | sum isOp first second hypothesis =>
      rw [List.length_append, List.length_cons] at short
      exact ⟨nofun, fun _ => .join isOp ((hypothesis (by omega)).2 rfl) ⟨second, by omega⟩⟩
  | _ => exact ⟨nofun, nofun⟩

/-- No operator follows. -/
def NoOperator (rest : List (Token Number)) : Prop :=
  ∀ token ∈ rest.head?, multiplicativeOp token = none ∧ additiveOp token = none

/-- No operator follows when the next token is none. -/
theorem noOperator_cons {token : Token Number} (rest : List (Token Number))
    (multiplicative : multiplicativeOp token = none) (additive : additiveOp token = none) :
    NoOperator (token :: rest) := by
  rintro _ ⟨⟩
  exact ⟨multiplicative, additive⟩

/-- No operator follows at the end. -/
theorem noOperator_nil : NoOperator ([] : List (Token Number)) := nofun

/-- An operator of comparisons is none of sums or products. -/
theorem noOperator_compare {token : Token Number} {op : ICompareOp}
    (isOp : compareOp token = some op) (rest : List (Token Number)) : NoOperator (token :: rest) := by
  cases token
  all_goals first
    | exact noOperator_cons rest rfl rfl
    | cases isOp

/-- An operator of sums is none of products. -/
theorem multiplicativeOp_additive {token : Token Number} (isOp : (additiveOp token).isSome) :
    multiplicativeOp token = none := by
  cases token
  all_goals first
    | rfl
    | cases isOp

/-- A primary does not start with a sign. -/
theorem Renders.no_sign {expression : IExpr Number} {tokens : List (Token Number)}
    (renders : Renders .primary expression tokens) :
    ∃ token others, tokens = token :: others ∧ token ≠ .minus ∧ token ≠ .plus ∧ token ≠ .kwIf := by
  cases renders with
  | @call kind => cases kind <;> exact ⟨_, _, rfl, nofun, nofun, nofun⟩
  | _ => exact ⟨_, _, rfl, nofun, nofun, nofun⟩

section Completeness

variable [DecidableEq Number] {inner : Parser Number} {bound : ℕ}
  (complete : Complete NoOperator (Within bound .expression) inner)

include complete

/-- Every call is parsed. -/
theorem parseCall_complete {kind : ICallKind} {valueArg codeArg : IExpr Number}
    {tokens others : List (Token Number)} (value : Within bound .expression valueArg tokens)
    (code : Within bound .expression codeArg others) (rest : List (Token Number)) :
    parseCall inner kind (.lParen :: (tokens ++ .comma :: (others ++ .rParen :: rest))) =
      .ok (.call kind valueArg codeArg, rest) := by
  refine bind_eq_ok.mpr ⟨_, expectToken_eq_ok.mpr rfl, ?_⟩
  refine bind_eq_ok.mpr ⟨_, complete value (noOperator_cons _ rfl rfl), ?_⟩
  refine bind_eq_ok.mpr ⟨_, expectToken_eq_ok.mpr rfl, ?_⟩
  refine bind_eq_ok.mpr ⟨_, complete code (noOperator_cons _ rfl rfl), ?_⟩
  exact bind_eq_ok.mpr ⟨_, expectToken_eq_ok.mpr rfl, rfl⟩

/-- Every group is parsed. -/
theorem parseGroup_complete {expression : IExpr Number} {tokens : List (Token Number)}
    (renders : Within bound .expression expression tokens) (rest : List (Token Number)) :
    parseGroup inner (tokens ++ .rParen :: rest) = .ok (expression, rest) := by
  refine bind_eq_ok.mpr ⟨_, complete renders (noOperator_cons _ rfl rfl), ?_⟩
  exact bind_eq_ok.mpr ⟨_, expectToken_eq_ok.mpr rfl, rfl⟩

/-- Every operand is parsed. -/
theorem parsePrimary_complete :
    Complete (fun _ => True) (Within (bound + 1) .primary) (parsePrimary inner) := by
  rintro expression tokens rest ⟨renders, short⟩ -
  cases renders with
  | number value => rfl
  | string value => rfl
  | field attributeNo => rfl
  | @call kind valueArg codeArg tokens others value code =>
      simp only [List.length_cons, List.length_append] at short
      have called := @parseCall_complete _ _ _ _ complete kind _ _ _ _ ⟨value, by omega⟩
        ⟨code, by omega⟩ rest
      cases kind <;> simpa [parsePrimary, callToken] using called
  | @group _ tokens inside =>
      simp only [List.length_cons, List.length_append] at short
      have grouped := parseGroup_complete complete ⟨inside, by omega⟩ rest
      simpa [parsePrimary] using grouped

/-- Every sign is parsed. -/
theorem parseUnary_complete :
    Complete (fun _ => True) (Within (bound + 1) .unary) (parseUnary inner) := by
  rintro expression tokens rest ⟨renders, short⟩ -
  induction tokens generalizing expression with
  | nil =>
      cases renders with
      | unary isPrimary =>
          obtain ⟨_, _, none, -⟩ := isPrimary.no_sign
          cases none
  | cons token tokens hypothesis =>
      rw [List.length_cons] at short
      cases renders with
      | unary isPrimary =>
          obtain ⟨_, _, ⟨⟩, notMinus, notPlus, -⟩ := isPrimary.no_sign
          rw [List.cons_append, parseUnary]
          · exact parsePrimary_complete complete ⟨isPrimary, short⟩ trivial
          · rintro _ ⟨⟩
            exact notMinus rfl
          · rintro _ ⟨⟩
            exact notPlus rfl
      | negate operand =>
          rw [List.cons_append, parseUnary]
          exact bind_eq_ok.mpr ⟨_, hypothesis operand (by omega), rfl⟩
      | plus operand =>
          rw [List.cons_append, parseUnary]
          exact hypothesis operand (by omega)

theorem parseMultiplicative_complete :
    Complete (fun rest => ∀ token ∈ rest.head?, multiplicativeOp token = none)
      (Within (bound + 1) .multiplicative) (parseMultiplicative inner) := by
  rintro expression tokens rest ⟨renders, short⟩ ends
  exact (parseUnary_complete complete).parseLeft (fun _ _ _ => trivial)
    (fun _ ends => ⟨trivial, ends⟩) ((renders.spine short).1 rfl) ends

/-- Every sum is parsed. -/
theorem parseAdditive_complete :
    Complete NoOperator (Within (bound + 1) .additive) (parseAdditive inner) := by
  rintro expression tokens rest ⟨renders, short⟩ ends
  refine (parseMultiplicative_complete complete).parseLeft (fun token _ isOp => ?_)
    (fun _ ends => ⟨fun token first => (ends token first).1, fun token first => (ends token first).2⟩)
    ((renders.spine short).2 rfl) ends
  rintro _ ⟨⟩
  exact multiplicativeOp_additive isOp

/-- Every comparison is parsed. -/
theorem parseComparison_complete :
    Complete (fun rest => NoOperator rest ∧ ∀ token ∈ rest.head?, compareOp token = none)
      (Within (bound + 1) .condition) (parseComparison inner) := by
  have additive := parseAdditive_complete complete
  rintro expression tokens rest ⟨renders, short⟩ ⟨ends, notCompared⟩
  cases renders with
  | condition isAdditive =>
      refine bind_eq_ok.mpr ⟨_, additive ⟨isAdditive, short⟩ ends, ?_⟩
      cases rest with
      | nil => rfl
      | cons token rest =>
          dsimp only
          rw [notCompared token rfl]
  | @compare token op left right tokens others isOp first second =>
      rw [List.length_append, List.length_cons] at short
      rw [List.append_assoc]
      refine bind_eq_ok.mpr
        ⟨_, additive ⟨first, by omega⟩ (noOperator_compare isOp (others ++ rest)), ?_⟩
      dsimp only [List.cons_append]
      rw [isOp]
      exact bind_eq_ok.mpr ⟨_, additive ⟨second, by omega⟩ ends, rfl⟩

/-- Every `IF` is parsed. -/
theorem parseIf_complete {condition thenExpr elseExpr : IExpr Number}
    {tokens others last rest : List (Token Number)}
    (tests : Within (bound + 1) .condition condition tokens)
    (first : Within bound .expression thenExpr others)
    (second : Within bound .expression elseExpr last) (ends : NoOperator rest) :
    parseIf inner (tokens ++ .kwThen :: (others ++ .kwElse :: (last ++ rest))) =
      .ok (.ifThenElse condition thenExpr elseExpr, rest) := by
  refine bind_eq_ok.mpr ⟨_, parseComparison_complete complete tests
    ⟨noOperator_cons _ rfl rfl, by rintro _ ⟨⟩; rfl⟩, ?_⟩
  refine bind_eq_ok.mpr ⟨_, expectToken_eq_ok.mpr rfl, ?_⟩
  refine bind_eq_ok.mpr ⟨_, complete first (noOperator_cons _ rfl rfl), ?_⟩
  refine bind_eq_ok.mpr ⟨_, expectToken_eq_ok.mpr rfl, ?_⟩
  exact bind_eq_ok.mpr ⟨_, complete second ends, rfl⟩

end Completeness

/-- Only an `IF` starts with one. -/
theorem Renders.no_if {level : Level} {expression : IExpr Number} {tokens : List (Token Number)}
    (renders : Renders level expression tokens) (below : level ≠ .expression) :
    ∃ token others, tokens = token :: others ∧ token ≠ .kwIf := by
  induction renders with
  | @call kind => cases kind <;> exact ⟨_, _, rfl, nofun⟩
  | unary _ hypothesis | multiplicative _ hypothesis | additive _ hypothesis
  | condition _ hypothesis => exact hypothesis nofun
  | product _ _ _ hypothesis | sum _ _ _ hypothesis | compare _ _ _ hypothesis =>
      obtain ⟨token, others, rfl, notIf⟩ := hypothesis nofun
      exact ⟨token, _, rfl, notIf⟩
  | expression | ifThenElse => exact absurd rfl below
  | _ => exact ⟨_, _, rfl, nofun⟩

/-- Every expression is parsed, one level deeper. -/
theorem parseExprWith_complete [DecidableEq Number] {inner : Parser Number} {bound : ℕ}
    (complete : Complete NoOperator (Within bound .expression) inner) :
    Complete NoOperator (Within (bound + 1) .expression) (parseExprWith inner) := by
  rintro expression tokens rest ⟨renders, short⟩ ends
  cases renders with
  | expression isAdditive =>
      have parsed := parseAdditive_complete complete ⟨isAdditive, short⟩ ends
      obtain ⟨token, others, rfl, notIf⟩ := isAdditive.no_if nofun
      rw [List.cons_append] at parsed ⊢
      rw [parseExprWith]
      · exact parsed
      · rintro _ ⟨⟩
        exact notIf rfl
  | ifThenElse tests first second =>
      simp only [List.length_cons, List.length_append] at short
      have parsed := parseIf_complete complete ⟨tests, by omega⟩ ⟨first, by omega⟩
        ⟨second, by omega⟩ ends
      simpa [parseExprWith] using parsed

/-- Every expression is parsed, at each depth. -/
theorem parseExpr_complete [DecidableEq Number] (count : ℕ) :
    Complete NoOperator (Within count .expression) (parseExpr count : Parser Number) := by
  induction count with
  | zero =>
      rintro expression tokens rest ⟨-, short⟩
      exact absurd short (Nat.not_lt_zero _)
  | succ count hypothesis => exact parseExprWith_complete hypothesis

/-- The parser finds a tree exactly when the tokens render it. -/
theorem parseTokens_eq_ok [DecidableEq Number] {tokens : List (Token Number)}
    {expression : IExpr Number} :
    parseTokens tokens = .ok expression ↔ Renders .expression expression tokens := by
  constructor
  · intro done
    obtain ⟨⟨found, rest⟩, isFound, done⟩ := bind_eq_ok.mp done
    cases rest with
    | nil =>
        cases done
        obtain ⟨front, isTokens, renders⟩ := parseExpr_sound _ isFound
        rwa [isTokens, List.append_nil]
    | cons token rest => cases done
  · intro renders
    have parsed := parseExpr_complete (tokens.length + 1) ⟨renders, Nat.lt_succ_self _⟩
      noOperator_nil
    rw [List.append_nil] at parsed
    exact bind_eq_ok.mpr ⟨_, parsed, rfl⟩

/-- No expression has an invalid token. -/
theorem Renders.valid {level : Level} {expression : IExpr Number} {tokens : List (Token Number)}
    (renders : Renders level expression tokens) : .invalid ∉ tokens := by
  induction renders with
  | @call kind => cases kind <;> simp_all [callToken]
  | product isOp | sum isOp | compare isOp =>
      simp_all only [List.mem_append, List.mem_cons, or_false, false_or]
      rintro rfl
      cases isOp
  | _ => simp_all

/-- The parser takes the texts of the renderings, and no others. -/
theorem parse_eq_ok [DecidableEq Number] [Literals Number] {source : String}
    {expression : IExpr Number} :
    parse source = .ok expression ↔ ∃ lexemes, Spells source.toList lexemes ∧
      Renders .expression expression (lexemes.map Lexeme.token) := by
  have tokens : parse source = .ok expression ↔
      Renders .expression expression (tokenize source.toList) := by
    rw [← parseTokens_eq_ok]
    unfold parse
    cases parseTokens (tokenize source.toList : List (Token Number)) with
    | error stop => exact iff_of_false nofun nofun
    | ok found => exact ⟨fun | rfl => rfl, fun | rfl => rfl⟩
  rw [tokens]
  constructor
  · intro renders
    obtain ⟨lexemes, spells⟩ := spells_of_tokenize renders.valid
    rw [tokenize_spells spells] at renders
    exact ⟨lexemes, spells, renders⟩
  · rintro ⟨lexemes, spells, renders⟩
    rwa [tokenize_spells spells]

end Gemini.English.IType
