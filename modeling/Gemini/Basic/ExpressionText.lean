import Gemini.Basic.ExpressionGrammar

/-!
# Expressions as texts

The grammar speaks of tokens; here the tokens are written. `tokenize_spacedText` reads back a text
with single blanks between its tokens, and `flagged_of_spells` says that what the lexer makes of any
text marks a `<` as adjacent only where it directly follows an identifier. With them the parser
inverts rendering, and blanks do not change what a text means.
-/

namespace Gemini.Basic

open Gemini.VM (Doubles isSpace)
open Gemini.Data (bind_eq_ok)

variable {Double : Type} [Doubles Double]

/-! ## Tokens as they are written -/

/-- A token with a text of its own. -/
def ExprToken.Written (token : ExprToken Double) : Prop :=
  ∃ direct lexeme, lexeme.Valid ∧ classify direct lexeme = .ok token

/-- The types of literals. -/
def ExprTokenType.isLiteral : ExprTokenType Double → Bool
  | .intLiteral _ => true
  | .floatLiteral _ => true
  | .stringLiteral _ => true
  | _ => false

/-- The type of a token, as far as its lexeme gives it. -/
def Lexeme.HasType (direct : Bool) (type : ExprTokenType Double) : Lexeme → Prop
  | .string _ => type.isLiteral
  | .number _ => type.isLiteral
  | .system _ => type = .identifier
  | .name _ _ => type = .identifier
  | .symbol mark => type = mark.type direct

/-- A token keeps the text of its lexeme, and has a type that the lexeme may have. -/
theorem hasType_of_classify {direct : Bool} {lexeme : Lexeme} {token : ExprToken Double}
    (classified : classify direct lexeme = .ok token) :
    token.lexeme = lexeme.chars ∧ lexeme.HasType direct token.type := by
  unfold classify at classified
  split at classified
  case h_1 | h_4 | h_5 =>
    cases classified
    exact ⟨rfl, rfl⟩
  case h_2 =>
    split at classified
    · split at classified
      · cases classified
        exact ⟨rfl, rfl⟩
      · cases classified
    · split at classified
      · cases classified
        exact ⟨rfl, rfl⟩
      · cases classified
  case h_3 =>
    split at classified
    · cases classified
      exact ⟨rfl, rfl⟩
    · cases classified

omit [Doubles Double] in
/-- Names are identifiers, and no other lexeme is. -/
theorem Lexeme.HasType.isName_iff {direct : Bool} {type : ExprTokenType Double} {lexeme : Lexeme}
    (hasType : lexeme.HasType direct type) : lexeme.isName = true ↔ type = .identifier := by
  cases lexeme with
  | string content | number numeral =>
      refine iff_of_false nofun ?_
      rintro rfl
      cases hasType
  | system word | name body suffix => exact iff_of_true rfl hasType
  | symbol mark =>
      obtain rfl : type = mark.type direct := hasType
      cases mark <;> simp [Lexeme.isName, Symbol.type]

omit [Doubles Double] in
/-- A `<` counts as adjacent only directly behind an identifier. -/
theorem Lexeme.HasType.adjacent {direct : Bool} {lexeme : Lexeme}
    (hasType : lexeme.HasType direct (.lt true : ExprTokenType Double)) :
    direct = true ∧ lexeme = .symbol .lt := by
  cases lexeme with
  | string content | number numeral | system word | name body suffix => cases hasType
  | symbol mark =>
      have isType : (.lt true : ExprTokenType Double) = mark.type direct := hasType
      cases mark <;> simp [Symbol.type] at isType ⊢
      exact isType

/-- Only what a `<` means depends on what it follows. -/
theorem classify_of_ne_lt {direct other : Bool} {lexeme : Lexeme} (notLt : lexeme ≠ .symbol .lt) :
    (classify direct lexeme : Except String (ExprToken Double)) = classify other lexeme := by
  unfold classify
  cases lexeme with
  | symbol mark =>
      cases mark with
      | lt => exact absurd rfl notLt
      | _ => rfl
  | _ => rfl

/-! ## Single blanks -/

/-- No blank before the `<` of an attribute access, one before any other token. -/
def gapBefore (token : ExprToken Double) : List Char :=
  match token.type with
  | .lt true => []
  | _ => [' ']

/-- The tokens behind the first one, each with its gap. -/
def spacedRest : List (ExprToken Double) → List Char
  | [] => []
  | token :: rest => gapBefore token ++ (token.lexeme ++ spacedRest rest)

/-- Tokens with single blanks between them. -/
def spacedText : List (ExprToken Double) → List Char
  | [] => []
  | token :: rest => token.lexeme ++ spacedRest rest

omit [Doubles Double] in
/-- A blank stands before a token that need not be adjacent. -/
theorem gapBefore_of_ne {token : ExprToken Double} (notAdjacent : token.type ≠ .lt true) :
    gapBefore token = [' '] := by
  unfold gapBefore
  split
  · next isType => exact absurd isType notAdjacent
  · rfl

omit [Doubles Double] in
/-- Nothing stands before a `<` that opens an attribute access. -/
theorem gapBefore_of_eq {token : ExprToken Double} (adjacent : token.type = .lt true) :
    gapBefore token = [] := by
  unfold gapBefore
  rw [adjacent]

/-- A lexeme ends before a blank, and a name before `<`. -/
theorem Lexeme.endsBefore_of_spaced {lexeme : Lexeme} {adjacent : Bool} {next : Option Char}
    (spaced : ∀ c ∈ next, c = ' ' ∨ c = '<' ∧ lexeme.isName)
    (onlyLt : adjacent = true → lexeme = .symbol .lt) : lexeme.EndsBefore adjacent next := by
  cases lexeme with
  | string content => trivial
  | number numeral =>
      intro c isNext
      obtain rfl | ⟨_, isName⟩ := spaced c isNext
      · exact ⟨rfl, fun _ => rfl, fun _ => nofun⟩
      · cases isName
  | system word =>
      intro c isNext
      obtain rfl | ⟨rfl, _⟩ := spaced c isNext <;> rfl
  | name body suffix =>
      intro _ c isNext
      obtain rfl | ⟨rfl, _⟩ := spaced c isNext <;> exact ⟨rfl, rfl⟩
  | symbol mark =>
      have isBlank : ∀ c ∈ next, c = ' ' := fun c isNext =>
        (spaced c isNext).resolve_right fun isName => Bool.false_ne_true isName.2
      cases mark with
      | lt =>
          intro c isNext
          obtain rfl := isBlank c isNext
          exact ⟨nofun, nofun⟩
      | gt =>
          intro c isNext
          obtain rfl := isBlank c isNext
          exact nofun
      | ne =>
          cases adjacent with
          | false => rfl
          | true => exact nomatch onlyLt rfl
      | _ => trivial

/-- The rest of the text starts with a blank, or with `<` behind an identifier. -/
theorem head_spacedRest {previous : ExprToken Double} {tokens : List (ExprToken Double)}
    (written : ∀ token ∈ tokens, token.Written) (flagged : Flagged (previous :: tokens)) :
    ∀ c ∈ (spacedRest tokens).head?, c = ' ' ∨ c = '<' ∧ previous.type = .identifier := by
  cases tokens with
  | nil => exact nofun
  | cons token rest =>
      intro c first
      by_cases adjacent : token.type = .lt true
      · obtain ⟨direct, lexeme, valid, classified⟩ := written token List.mem_cons_self
        obtain ⟨isLexeme, hasType⟩ := hasType_of_classify classified
        rw [adjacent] at hasType
        obtain ⟨-, rfl⟩ := hasType.adjacent
        rw [spacedRest, gapBefore_of_eq adjacent, isLexeme] at first
        cases first
        exact .inr ⟨rfl, (List.isChain_cons_cons.mp flagged).1 adjacent⟩
      · rw [spacedRest, gapBefore_of_ne adjacent] at first
        cases first
        exact .inl rfl

/-- One more token in front of a text. -/
theorem spells_token {token : ExprToken Double} {rest : List (ExprToken Double)} {gap : List Char}
    {adjacent : Bool} (written : ∀ other ∈ token :: rest, other.Written)
    (flagged : Flagged (token :: rest)) (blank : ∀ c ∈ gap, isSpace c)
    (isDirect : (adjacent && gap.isEmpty) = true ↔ token.type = .lt true)
    (goesOn : ∀ {isName : Bool}, (isName = true ↔ token.type = .identifier) → ∃ lexemes,
      Spells isName (spacedRest rest) lexemes ∧ lexemes.mapM PlacedLexeme.classify = .ok rest) :
    ∃ lexemes, Spells adjacent (gap ++ (token.lexeme ++ spacedRest rest)) lexemes ∧
      lexemes.mapM PlacedLexeme.classify = .ok (token :: rest) := by
  obtain ⟨written, writtenRest⟩ := List.forall_mem_cons.mp written
  obtain ⟨direct, lexeme, valid, classified⟩ := written
  obtain ⟨isLexeme, hasType⟩ := hasType_of_classify classified
  have isName := hasType.isName_iff
  obtain ⟨lexemes, spells, tokens⟩ := goesOn isName
  have onlyLt : (adjacent && gap.isEmpty) = true → lexeme = .symbol .lt := by
    intro placed
    rw [isDirect.mp placed] at hasType
    exact hasType.adjacent.2
  have ends : lexeme.EndsBefore (adjacent && gap.isEmpty) (spacedRest rest).head? := by
    refine Lexeme.endsBefore_of_spaced (fun c first => ?_) onlyLt
    exact (head_spacedRest writtenRest flagged c first).imp_right fun ⟨isLt, isIdentifier⟩ =>
      ⟨isLt, isName.mpr isIdentifier⟩
  have reclassified : classify (adjacent && gap.isEmpty) lexeme = .ok token := by
    by_cases isLt : lexeme = .symbol .lt
    · subst isLt
      cases classified
      simp only [Symbol.type, ExprTokenType.lt.injEq] at isDirect
      rw [Bool.eq_iff_iff.mpr isDirect]
      rfl
    · rw [← classified]
      exact classify_of_ne_lt isLt
  rw [isLexeme]
  refine ⟨_, .next blank valid ends spells, ?_⟩
  rw [List.mapM_cons]
  exact bind_eq_ok.mpr ⟨token, reclassified, bind_eq_ok.mpr ⟨rest, tokens, rfl⟩⟩

/-- The rest of the text spells the tokens behind the first one. -/
theorem spells_spacedRest {previous : ExprToken Double} {tokens : List (ExprToken Double)}
    (written : ∀ token ∈ tokens, token.Written) (flagged : Flagged (previous :: tokens))
    {adjacent : Bool} (isAdjacent : adjacent = true ↔ previous.type = .identifier) :
    ∃ lexemes, Spells adjacent (spacedRest tokens) lexemes ∧
      lexemes.mapM PlacedLexeme.classify = .ok tokens := by
  induction tokens generalizing previous adjacent with
  | nil => exact ⟨[], .done nofun, rfl⟩
  | cons token rest inductionHypothesis =>
      have writtenRest := (List.forall_mem_cons.mp written).2
      rw [spacedRest]
      refine spells_token written flagged.tail ?_ ?_
        fun isName => inductionHypothesis writtenRest flagged.tail isName
      · by_cases adjacent : token.type = .lt true
        · rw [gapBefore_of_eq adjacent]
          exact nofun
        · rw [gapBefore_of_ne adjacent]
          exact List.forall_mem_singleton.mpr rfl
      · by_cases isLt : token.type = .lt true
        · have isName := (List.isChain_cons_cons.mp flagged).1 isLt
          rw [gapBefore_of_eq isLt, isAdjacent.mpr isName]
          exact iff_of_true rfl isLt
        · rw [gapBefore_of_ne isLt]
          exact iff_of_false (by simp) isLt

/-- The text of tokens spells them. -/
theorem spells_spacedText {tokens : List (ExprToken Double)}
    (written : ∀ token ∈ tokens, token.Written) (flagged : Flagged tokens)
    (starts : ∀ token ∈ tokens.head?, token.type ≠ .lt true) :
    ∃ lexemes, Spells false (spacedText tokens) lexemes ∧
      lexemes.mapM PlacedLexeme.classify = .ok tokens := by
  cases tokens with
  | nil => exact ⟨[], .done nofun, rfl⟩
  | cons token rest =>
      have writtenRest := (List.forall_mem_cons.mp written).2
      have notDirect : (false && ([] : List Char).isEmpty) = true ↔ token.type = .lt true :=
        iff_of_false nofun (starts token rfl)
      exact spells_token written flagged (by nofun) notDirect
        fun isName => spells_spacedRest writtenRest flagged isName

/-- A text with single blanks between its tokens has these tokens. -/
theorem tokenize_spacedText {tokens : List (ExprToken Double)}
    (written : ∀ token ∈ tokens, token.Written) (flagged : Flagged tokens)
    (starts : ∀ token ∈ tokens.head?, token.type ≠ .lt true) :
    tokenizeExpression (String.ofList (spacedText tokens)) = .ok tokens := by
  obtain ⟨lexemes, spells, classified⟩ := spells_spacedText written flagged starts
  rw [tokenizeExpression, String.toList_ofList, tokenizeFrom_spells spells, classified]

/-! ## What is marked as adjacent -/

omit [Doubles Double] in
/-- Marks stay right when tokens are joined, unless the second part starts with an adjacent `<`. -/
theorem Flagged.append {front back : List (ExprToken Double)} (first : Flagged front)
    (second : Flagged back) (starts : ∀ token ∈ back.head?, token.type ≠ .lt true) :
    Flagged (front ++ back) :=
  List.isChain_append.mpr ⟨first, second, fun _ _ token isNext adjacent =>
    absurd adjacent (starts token isNext)⟩

omit [Doubles Double] in
theorem Flagged.cons {token : ExprToken Double} {rest : List (ExprToken Double)}
    (flagged : Flagged rest) (starts : ∀ token ∈ rest.head?, token.type ≠ .lt true) :
    Flagged (token :: rest) :=
  Flagged.append (List.isChain_singleton token) flagged starts

omit [Doubles Double] in
/-- No phrase starts with an adjacent `<`. -/
theorem Renders.head {grammar : Grammar} {phrase : Phrase Double}
    {tokens : List (ExprToken Double)} (renders : Renders grammar phrase tokens) :
    ∀ token ∈ tokens.head?, token.type ≠ .lt true := by
  by_cases none : phrase = .arguments []
  · subst none
    cases renders
    exact nofun
  · obtain ⟨token, rest, rfl, starts⟩ := renders.starts none
    intro other isHead
    cases isHead
    exact starts.notAdjacent

omit [Doubles Double] in
/-- Tokens up to a closing one. -/
theorem Flagged.closed {tokens : List (ExprToken Double)} {closing : ExprToken Double}
    (flagged : Flagged tokens) (notAdjacent : closing.type ≠ .lt true) :
    Flagged (tokens ++ [closing]) :=
  flagged.append (List.isChain_singleton closing) fun token isHead => by
    cases isHead
    exact notAdjacent

omit [Doubles Double] in
theorem head_closed {tokens : List (ExprToken Double)} {closing : ExprToken Double}
    (starts : ∀ token ∈ tokens.head?, token.type ≠ .lt true)
    (notAdjacent : closing.type ≠ .lt true) (rest : List (ExprToken Double)) :
    ∀ token ∈ (tokens ++ closing :: rest).head?, token.type ≠ .lt true := by
  cases tokens with
  | nil =>
      intro token isHead
      cases isHead
      exact notAdjacent
  | cons first others => exact starts

omit [Doubles Double] in
/-- Marks stay right between brackets. -/
theorem Flagged.bracket {opening closing : ExprToken Double} {tokens : List (ExprToken Double)}
    (flagged : Flagged tokens) (starts : ∀ token ∈ tokens.head?, token.type ≠ .lt true)
    (notAdjacent : closing.type ≠ .lt true) : Flagged (opening :: (tokens ++ [closing])) :=
  (flagged.closed notAdjacent).cons (head_closed starts notAdjacent [])

omit [Doubles Double] in
/-- An operator or a separator between two phrases. -/
theorem Flagged.join {tokens others : List (ExprToken Double)} {token : ExprToken Double}
    (first : Flagged tokens) (second : Flagged others)
    (starts : ∀ other ∈ others.head?, other.type ≠ .lt true) (notAdjacent : token.type ≠ .lt true) :
    Flagged (tokens ++ token :: others) :=
  first.append (second.cons starts) fun other isHead => by
    cases isHead
    exact notAdjacent

omit [Doubles Double] in
/-- The tokens of a phrase are marked right. -/
theorem Renders.flagged {grammar : Grammar} {phrase : Phrase Double}
    {tokens : List (ExprToken Double)} (renders : Renders grammar phrase tokens) :
    Flagged tokens := by
  induction renders with
  | intLiteral | floatLiteral | stringLiteral | identifier => exact List.isChain_singleton _
  | noArguments => exact List.isChain_nil
  | unary _ inductionHypothesis | mulDiv _ inductionHypothesis | addSub _ inductionHypothesis
  | comparison _ inductionHypothesis | lastArgument _ inductionHypothesis =>
      exact inductionHypothesis
  | subscript _ inner inductionHypothesis
  | functionCall _ _ _ _ inner inductionHypothesis =>
      refine (inductionHypothesis.bracket inner.head (by nofun)).cons fun other isHead => ?_
      cases isHead
      exact nofun
  | grouped inner inductionHypothesis =>
      exact inductionHypothesis.bracket inner.head (by nofun)
  | attributeAccess inner inductionHypothesis =>
      refine List.isChain_cons_cons.mpr ⟨fun _ => rfl, ?_⟩
      exact inductionHypothesis.bracket inner.head (by nofun)
  | valueAccess inner second inductionHypothesis secondHypothesis =>
      refine List.isChain_cons_cons.mpr ⟨fun _ => rfl, ?_⟩
      refine (inductionHypothesis.join (secondHypothesis.closed (by nofun))
        (head_closed second.head (by nofun) []) (by nofun)).cons (head_closed inner.head (by nofun) _)
  | negate inner inductionHypothesis => exact inductionHypothesis.cons inner.head
  | product isOp _ second inductionHypothesis secondHypothesis =>
      exact inductionHypothesis.join secondHypothesis second.head
        (separates_of_multiplicative isOp).notAdjacent
  | sum isOp _ second inductionHypothesis secondHypothesis =>
      exact inductionHypothesis.join secondHypothesis second.head
        (separates_of_additive isOp).notAdjacent
  | compare _ spaced _ second inductionHypothesis secondHypothesis =>
      exact inductionHypothesis.join secondHypothesis second.head spaced
  | moreArguments _ _ second inductionHypothesis secondHypothesis =>
      exact inductionHypothesis.join secondHypothesis second.head (by nofun)

/-- What the lexer makes of a text marks a `<` as adjacent where it directly follows an
identifier. -/
theorem flagged_of_spells {adjacent : Bool} {text : List Char} {lexemes : List PlacedLexeme}
    {tokens : List (ExprToken Double)} (spells : Spells adjacent text lexemes)
    (classified : lexemes.mapM PlacedLexeme.classify = .ok tokens) :
    Flagged tokens ∧ (adjacent = false → ∀ token ∈ tokens.head?, token.type ≠ .lt true) := by
  induction spells generalizing tokens with
  | done blank =>
      cases classified
      exact ⟨List.isChain_nil, fun _ => nofun⟩
  | @next adjacent gap text lexeme lexemes blank valid ends rest inductionHypothesis =>
      rw [List.mapM_cons] at classified
      obtain ⟨token, isToken, classified⟩ := bind_eq_ok.mp classified
      obtain ⟨others, isOthers, isTokens⟩ := bind_eq_ok.mp classified
      cases isTokens
      obtain ⟨flagged, starts⟩ := inductionHypothesis isOthers
      have hasType := (hasType_of_classify isToken).2
      refine ⟨?_, ?_⟩
      · cases isName : lexeme.isName with
        | false => exact flagged.cons (starts isName)
        | true =>
            refine List.isChain_append.mpr ⟨List.isChain_singleton token, flagged, ?_⟩
            intro other isLast _ _ _
            cases isLast
            exact hasType.isName_iff.mp isName
      · rintro rfl other isHead isAdjacent
        cases isHead
        rw [isAdjacent] at hasType
        cases hasType.adjacent.1

/-! ## The parser inverts rendering -/

/-- An expression is what the parser makes of the tokens of its text. -/
theorem parseExpression_eq_ok {text : String} {expression : Expr Double} :
    parseExpression text = .ok expression ↔
      ∃ tokens, tokenizeExpression text = .ok tokens ∧ parseTokens tokens = .ok expression := by
  unfold parseExpression
  rw [bind_eq_ok]
  refine exists_congr fun tokens => and_congr_right fun _ => ?_
  cases parseTokens tokens with
  | error failure => exact iff_of_false nofun nofun
  | ok found => exact ⟨fun | rfl => rfl, fun | rfl => rfl⟩

/-- A rendering with single blanks is read back, and every text that the parser takes renders what
it returns, token for token. -/
theorem parseExpression_inverts_renders :
    (∀ (expression : Expr Double) (tokens : List (ExprToken Double)),
      (∀ token ∈ tokens, token.Written) →
      Renders implemented (.expr .comparison expression) tokens →
      parseExpression (String.ofList (spacedText tokens)) = .ok expression) ∧
    ∀ (text : String) (expression : Expr Double), parseExpression text = .ok expression →
      ∃ lexemes tokens, Spells false text.toList lexemes ∧
        lexemes.mapM PlacedLexeme.classify = .ok tokens ∧
        Renders implemented (.expr .comparison expression) tokens := by
  constructor
  · intro expression tokens written renders
    exact parseExpression_eq_ok.mpr ⟨tokens,
      tokenize_spacedText written renders.flagged renders.head, parseTokens_renders renders⟩
  · intro text expression parsed
    obtain ⟨tokens, isTokens, parsed⟩ := parseExpression_eq_ok.mp parsed
    obtain ⟨lexemes, spells, classified⟩ := spells_of_tokenizeFrom isTokens
    obtain ⟨flagged, -⟩ := flagged_of_spells spells classified
    exact ⟨lexemes, tokens, spells, classified, renders_of_parseTokens flagged parsed⟩

/-- A single character of a name. -/
theorem valid_letter {c : Char} (letter : c.isAlpha) : (Lexeme.name [c] none).Valid := by
  refine ⟨by simpa using letter, ?_, nofun⟩
  simp [Char.isAlphanum, letter]

/-- A valid name is written as it is. -/
theorem written_name {name : List Char} (valid : (Lexeme.name name none).Valid) :
    (⟨.identifier, name⟩ : ExprToken Double).Written := by
  refine ⟨false, .name name none, valid, ?_⟩
  rw [classify, Lexeme.chars, Option.toList_none, List.append_nil]

/-- A symbol is written as it is. -/
theorem written_symbol (direct : Bool) (mark : Symbol) :
    (⟨mark.type direct, mark.chars⟩ : ExprToken Double).Written :=
  ⟨direct, .symbol mark, trivial, rfl⟩

omit [Doubles Double] in
/-- An operand is a sum of one summand. -/
theorem Renders.sum_of_primary {grammar : Grammar} {expression : Expr Double}
    {tokens : List (ExprToken Double)}
    (renders : Renders grammar (.expr .primary expression) tokens) :
    Renders grammar (.expr .addSub expression) tokens :=
  .addSub (.mulDiv (.unary renders))

/-- An attribute access in a comparison. -/
theorem attribute_comparison_inverts :
    (parseExpression "A< B > = C" : Except String (Expr Int)) =
      .ok (.binary .equal (.attributeAccess "A" (.identifier "B")) (.identifier "C")) := by
  have access : Renders implemented (.expr .primary (.attributeAccess "A" (.identifier "B")))
      [(⟨.identifier, ['A']⟩ : ExprToken Int), ⟨.lt true, ['<']⟩, ⟨.identifier, ['B']⟩,
        ⟨.gt, ['>']⟩] :=
    .attributeAccess (Renders.identifier ['B']).sum_of_primary
  have renders : Renders implemented
      (.expr .comparison (.binary .equal (.attributeAccess "A" (.identifier "B"))
        (.identifier "C")))
      ([(⟨.identifier, ['A']⟩ : ExprToken Int), ⟨.lt true, ['<']⟩, ⟨.identifier, ['B']⟩,
        ⟨.gt, ['>']⟩] ++ ⟨.eq, ['=']⟩ :: [⟨.identifier, ['C']⟩]) :=
    .compare rfl (by nofun) access.sum_of_primary (Renders.identifier ['C']).sum_of_primary
  have written : ∀ token ∈ [(⟨.identifier, ['A']⟩ : ExprToken Int), ⟨.lt true, ['<']⟩,
      ⟨.identifier, ['B']⟩, ⟨.gt, ['>']⟩, ⟨.eq, ['=']⟩, ⟨.identifier, ['C']⟩], token.Written := by
    simp only [List.forall_mem_cons, List.not_mem_nil, false_imp_iff, implies_true, and_true]
    exact ⟨written_name (valid_letter rfl), written_symbol true .lt,
      written_name (valid_letter rfl), written_symbol false .gt,
      written_symbol false .eq, written_name (valid_letter rfl)⟩
  have text : "A< B > = C" = String.ofList (spacedText
      [(⟨.identifier, ['A']⟩ : ExprToken Int), ⟨.lt true, ['<']⟩, ⟨.identifier, ['B']⟩,
        ⟨.gt, ['>']⟩, ⟨.eq, ['=']⟩, ⟨.identifier, ['C']⟩]) := rfl
  rw [text]
  exact parseExpression_inverts_renders.1 _ _ written renders

/-- `( A = B )` has a place in the documented grammar, and the parser refuses it. -/
theorem grouped_comparison_refused :
    ¬ ∀ (expression : Expr Int) (tokens : List (ExprToken Int)),
      (∀ token ∈ tokens, token.Written) →
      Renders documented (.expr .comparison expression) tokens →
      parseExpression (String.ofList (spacedText tokens)) = .ok expression := by
  intro inverts
  have comparison : Renders documented
      (.expr .comparison (.binary .equal (.identifier "A") (.identifier "B")))
      ([(⟨.identifier, ['A']⟩ : ExprToken Int)] ++ ⟨.eq, ['=']⟩ :: [⟨.identifier, ['B']⟩]) :=
    .compare rfl (by nofun) (.comparison (Renders.identifier ['A']).sum_of_primary)
      (Renders.identifier ['B']).sum_of_primary
  have renders : Renders documented
      (.expr .comparison (.grouped (.binary .equal (.identifier "A") (.identifier "B"))))
      [(⟨.lParen, ['(']⟩ : ExprToken Int), ⟨.identifier, ['A']⟩, ⟨.eq, ['=']⟩,
        ⟨.identifier, ['B']⟩, ⟨.rParen, [')']⟩] :=
    .comparison (Renders.grouped comparison).sum_of_primary
  have written : ∀ token ∈ [(⟨.lParen, ['(']⟩ : ExprToken Int), ⟨.identifier, ['A']⟩,
      ⟨.eq, ['=']⟩, ⟨.identifier, ['B']⟩, ⟨.rParen, [')']⟩], token.Written := by
    simp only [List.forall_mem_cons, List.not_mem_nil, false_imp_iff, implies_true, and_true]
    exact ⟨written_symbol false .lParen, written_name (valid_letter rfl),
      written_symbol false .eq, written_name (valid_letter rfl),
      written_symbol false .rParen⟩
  have parsed := inverts _ _ written renders
  have text : String.ofList (spacedText [(⟨.lParen, ['(']⟩ : ExprToken Int), ⟨.identifier, ['A']⟩,
      ⟨.eq, ['=']⟩, ⟨.identifier, ['B']⟩, ⟨.rParen, [')']⟩]) = "( A = B )" := rfl
  rw [text] at parsed
  have refused : (parseExpression "( A = B )" : Except String (Expr Int)).isOk = false := by
    decide +kernel
  rw [parsed] at refused
  cases refused

/-! ## Blanks do not change what a text means -/

/-- The same tokens, placed differently but for a `<`. -/
def SameTokens (first second : List PlacedLexeme) : Prop :=
  List.Forall₂ (fun placed other => placed.lexeme = other.lexeme ∧
    (placed.lexeme = .symbol .lt → placed.direct = other.direct)) first second

/-- Lexemes that differ in their places alone are classified alike. -/
theorem SameTokens.classify_eq {first second : List PlacedLexeme} (same : SameTokens first second) :
    (first.mapM PlacedLexeme.classify : Except String (List (ExprToken Double))) =
      second.mapM PlacedLexeme.classify := by
  induction same with
  | nil => rfl
  | @cons placed other _ _ isSame _ inductionHypothesis =>
      obtain ⟨direct, lexeme⟩ := placed
      obtain ⟨otherDirect, otherLexeme⟩ := other
      obtain ⟨rfl, sameDirect⟩ := isSame
      have sameToken : (classify direct lexeme : Except String (ExprToken Double)) =
          classify otherDirect lexeme := by
        by_cases isLt : lexeme = .symbol .lt
        · obtain rfl : direct = otherDirect := sameDirect isLt
          rfl
        · exact classify_of_ne_lt isLt
      rw [List.mapM_cons, List.mapM_cons, inductionHypothesis]
      exact congrArg (· >>= _) sameToken

/-- Two texts of the same tokens, in which no token goes on into the next one and a `<` directly
follows the same identifiers, have the same expression or the same error. -/
theorem parseExpression_spacing {first second : String} {lexemes others : List PlacedLexeme}
    (spells : Spells false first.toList lexemes) (spellsOther : Spells false second.toList others)
    (same : SameTokens lexemes others) :
    (parseExpression first : Except String (Expr Double)) = parseExpression second := by
  have tokens : (tokenizeExpression first : Except String (List (ExprToken Double))) =
      tokenizeExpression second := by
    rw [tokenizeExpression, tokenizeExpression, tokenizeFrom_spells spells,
      tokenizeFrom_spells spellsOther, same.classify_eq]
  rw [parseExpression, parseExpression, tokens]

/-- The blanks around `+` may be moved. -/
theorem parseExpression_spacing_sum :
    (parseExpression "A+ B" : Except String (Expr Int)) = parseExpression "A  +B" := by
  have last : Spells false ['B'] [⟨false, .name ['B'] none⟩] :=
    @Spells.next false [] [] (.name ['B'] none) [] (by nofun) (valid_letter rfl) (by nofun)
      (.done (by nofun))
  have afterBlank : Spells false [' ', 'B'] [⟨false, .name ['B'] none⟩] := last.blank rfl
  have close : Spells false ['A', '+', ' ', 'B']
      [⟨false, .name ['A'] none⟩, ⟨true, .symbol .plus⟩, ⟨false, .name ['B'] none⟩] :=
    @Spells.next false [] ['+', ' ', 'B'] (.name ['A'] none) _ (by nofun) (valid_letter rfl)
      (by rintro - c ⟨⟩; exact ⟨rfl, rfl⟩)
      (@Spells.next true [] [' ', 'B'] (.symbol .plus) _ (by nofun) trivial trivial afterBlank)
  have wide : Spells false ['A', ' ', ' ', '+', 'B']
      [⟨false, .name ['A'] none⟩, ⟨false, .symbol .plus⟩, ⟨false, .name ['B'] none⟩] :=
    @Spells.next false [] [' ', ' ', '+', 'B'] (.name ['A'] none) _ (by nofun) (valid_letter rfl)
      (by rintro - c ⟨⟩; exact ⟨rfl, rfl⟩)
      (@Spells.next true [' ', ' '] ['B'] (.symbol .plus) _ (List.all_eq_true.mp rfl) trivial trivial
        last)
  exact parseExpression_spacing close wide (by simp [SameTokens])

/-- The lexemes with blanks between them, where only a name or a number has to end before the next
lexeme. -/
inductive SpellsLoosely : Bool → List Char → List PlacedLexeme → Prop
  | done {adjacent : Bool} {gap : List Char} (blank : ∀ c ∈ gap, isSpace c) :
      SpellsLoosely adjacent gap []
  | next {adjacent : Bool} {gap text : List Char} {lexeme : Lexeme} {lexemes : List PlacedLexeme}
      (blank : ∀ c ∈ gap, isSpace c) (valid : lexeme.Valid)
      (ends : (∀ mark, lexeme ≠ .symbol mark) →
        lexeme.EndsBefore (adjacent && gap.isEmpty) text.head?)
      (rest : SpellsLoosely lexeme.isName text lexemes) :
      SpellsLoosely adjacent (gap ++ (lexeme.chars ++ text))
        ({ direct := adjacent && gap.isEmpty, lexeme } :: lexemes)

/-- `<` and `=` are neither a name nor a number, and without a blank they are another token. -/
theorem spacing_merges_operators :
    ¬ ∀ (first second : String) (lexemes others : List PlacedLexeme),
      SpellsLoosely false first.toList lexemes → SpellsLoosely false second.toList others →
      SameTokens lexemes others →
      (parseExpression first : Except String (Expr Int)) = parseExpression second ∨
        (parseExpression first : Except String (Expr Int)).isOk = false ∧
          (parseExpression second : Except String (Expr Int)).isOk = false := by
  intro spacing
  have blank : ∀ c ∈ [' '], isSpace c := List.forall_mem_singleton.mpr rfl
  have one : (Lexeme.number { whole := ['1'] }).Valid :=
    ⟨List.cons_ne_nil _ _, List.forall_mem_singleton.mpr rfl, by nofun, by nofun⟩
  have last : SpellsLoosely false [' ', '1'] [⟨false, .number { whole := ['1'] }⟩] :=
    @SpellsLoosely.next false [' '] [] (.number { whole := ['1'] }) [] blank one
      (fun _ => by nofun) (.done (by nofun))
  have name : ∀ c ∈ some ' ', c.isAlphanum = false ∧ isSuffix c = false := by
    rintro c ⟨⟩
    exact ⟨rfl, rfl⟩
  have apart : SpellsLoosely false ['A', ' ', '<', ' ', '=', ' ', '1']
      [⟨false, .name ['A'] none⟩, ⟨false, .symbol .lt⟩, ⟨false, .symbol .eq⟩,
        ⟨false, .number { whole := ['1'] }⟩] :=
    @SpellsLoosely.next false [] _ (.name ['A'] none) _ (by nofun) (valid_letter rfl)
      (fun _ _ => name)
      (@SpellsLoosely.next true [' '] _ (.symbol .lt) _ blank trivial (by simp)
        (@SpellsLoosely.next false [' '] _ (.symbol .eq) _ blank trivial (by simp) last))
  have joined : SpellsLoosely false ['A', ' ', '<', '=', ' ', '1']
      [⟨false, .name ['A'] none⟩, ⟨false, .symbol .lt⟩, ⟨false, .symbol .eq⟩,
        ⟨false, .number { whole := ['1'] }⟩] :=
    @SpellsLoosely.next false [] _ (.name ['A'] none) _ (by nofun) (valid_letter rfl)
      (fun _ _ => name)
      (@SpellsLoosely.next true [' '] _ (.symbol .lt) _ blank trivial (by simp)
        (@SpellsLoosely.next false [] _ (.symbol .eq) _ (by nofun) trivial (by simp) last))
  have refused : (parseExpression "A < = 1" : Except String (Expr Int)).isOk = false := by
    decide +kernel
  have parsed : (parseExpression "A <= 1" : Except String (Expr Int)).isOk = true := by
    decide +kernel
  have same := spacing "A < = 1" "A <= 1" _ _ apart joined (by simp [SameTokens])
  rcases same with same | ⟨-, fails⟩
  · rw [same, parsed] at refused
    cases refused
  · rw [parsed] at fails
    cases fails

end Gemini.Basic
