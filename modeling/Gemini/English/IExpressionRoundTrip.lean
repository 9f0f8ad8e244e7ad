import Gemini.Data.Padding
import Gemini.English.IExpressionPrinter

/-!
# I-type expressions and their texts

The parser reads every expression back from its printing. A text that it takes is the printing of
its result with other blanks, with parentheses and unary `+` put in and with lexemes that are read
alike in the place of others.
-/

namespace Gemini.English.IType

open Gemini.Data (Padded padded_of_map)
open Gemini.Basic (Scans scans_iff)
open Gemini.VM (isSpace)

variable {Number : Type}

/-! ## Operators -/

/-- An operator of products is written with its symbol. -/
theorem multiplicativeOp_cases {token : Token Number}
    {apply : IExpr Number → IExpr Number → IExpr Number}
    (isOp : multiplicativeOp token = some apply) :
    ∃ op ∈ ['+', '-', '*', '/'], apply = .binary op ∧ isProduct op = true ∧
      token = (operatorSymbol op).token := by
  cases token with
  | star =>
      cases isOp
      exact ⟨'*', by decide, rfl, rfl, rfl⟩
  | slash =>
      cases isOp
      exact ⟨'/', by decide, rfl, rfl, rfl⟩
  | _ => cases isOp

/-- An operator of sums is written with its symbol. -/
theorem additiveOp_cases {token : Token Number}
    {apply : IExpr Number → IExpr Number → IExpr Number} (isOp : additiveOp token = some apply) :
    ∃ op ∈ ['+', '-', '*', '/'], apply = .binary op ∧ isProduct op = false ∧
      token = (operatorSymbol op).token := by
  cases token with
  | plus =>
      cases isOp
      exact ⟨'+', by decide, rfl, rfl, rfl⟩
  | minus =>
      cases isOp
      exact ⟨'-', by decide, rfl, rfl, rfl⟩
  | _ => cases isOp

/-- A comparison is written with its symbol. -/
theorem compareOp_cases {token : Token Number} {op : ICompareOp}
    (isOp : compareOp token = some op) : token = (compareSymbol op).token := by
  cases token
  all_goals cases isOp
  all_goals rfl

/-! ## Only conditions are compared -/

/-- Below the level of conditions there is no comparison. -/
theorem Renders.not_compared {level : Level} {expression : IExpr Number}
    {tokens : List (Token Number)} (renders : Renders level expression tokens)
    (notCondition : level ≠ .condition) : expression.level ≠ .condition := by
  induction renders with
  | number | string | field | call | negate | ifThenElse => rintro ⟨⟩
  | group _ hypothesis | unary _ hypothesis | plus _ hypothesis | multiplicative _ hypothesis
  | additive _ hypothesis | expression _ hypothesis => exact hypothesis (by decide)
  | product isOp =>
      obtain ⟨op, -, rfl, isProduct, -⟩ := multiplicativeOp_cases isOp
      rw [IExpr.level, isProduct]
      decide
  | sum isOp =>
      obtain ⟨op, -, rfl, isSum, -⟩ := additiveOp_cases isOp
      rw [IExpr.level, isSum]
      decide
  | condition | compare => exact absurd rfl notCondition

section Documented

variable [Literals Number] {spell : Number → Literal}

/-- A token that some lexeme is read as, with the literals of its numbers. -/
def Token.Written (spell : Number → Literal) : Token Number → Prop
  | .number value => (spell value).Valid ∧ Literals.strtod (spell value).chars = value
  | .field attributeNo => 1 ≤ attributeNo ∧ attributeNo ≤ 26
  | _ => True

/-- What written tokens render can be printed. -/
theorem Renders.documented {level : Level} {expression : IExpr Number}
    {tokens : List (Token Number)} (renders : Renders level expression tokens)
    (written : ∀ token ∈ tokens, token.Written spell) : expression.Documented spell := by
  induction renders with
  | number value => exact written _ (List.mem_singleton.mpr rfl)
  | string => trivial
  | field attributeNo => exact written _ (List.mem_singleton.mpr rfl)
  | call value code first second =>
      simp only [List.forall_mem_cons, List.forall_mem_append] at written
      obtain ⟨-, -, valueWritten, -, codeWritten, -⟩ := written
      exact ⟨⟨value.not_compared (by decide), first valueWritten⟩, code.not_compared (by decide),
        second codeWritten⟩
  | group _ hypothesis =>
      simp only [List.forall_mem_cons, List.forall_mem_append] at written
      exact hypothesis written.2.1
  | unary _ hypothesis | multiplicative _ hypothesis | additive _ hypothesis
  | expression _ hypothesis | condition _ hypothesis => exact hypothesis written
  | negate operand hypothesis =>
      exact ⟨rfl, operand.not_compared (by decide), hypothesis (List.forall_mem_cons.mp written).2⟩
  | plus _ hypothesis => exact hypothesis (List.forall_mem_cons.mp written).2
  | product isOp left right first second =>
      simp only [List.forall_mem_cons, List.forall_mem_append] at written
      obtain ⟨leftWritten, -, rightWritten⟩ := written
      obtain ⟨op, isOperator, rfl, -, -⟩ := multiplicativeOp_cases isOp
      exact ⟨isOperator, ⟨left.not_compared (by decide), first leftWritten⟩,
        right.not_compared (by decide),
        second rightWritten⟩
  | sum isOp left right first second =>
      simp only [List.forall_mem_cons, List.forall_mem_append] at written
      obtain ⟨leftWritten, -, rightWritten⟩ := written
      obtain ⟨op, isOperator, rfl, -, -⟩ := additiveOp_cases isOp
      exact ⟨isOperator, ⟨left.not_compared (by decide), first leftWritten⟩,
        right.not_compared (by decide),
        second rightWritten⟩
  | ifThenElse tests first second inner thenInner elseInner =>
      simp only [List.forall_mem_cons, List.forall_mem_append] at written
      obtain ⟨-, testsWritten, -, thenWritten, -, elseWritten⟩ := written
      exact ⟨inner testsWritten, ⟨first.not_compared (by decide), thenInner thenWritten⟩,
        second.not_compared (by decide), elseInner elseWritten⟩
  | compare isOp left right first second =>
      simp only [List.forall_mem_cons, List.forall_mem_append] at written
      obtain ⟨leftWritten, -, rightWritten⟩ := written
      exact ⟨⟨left.not_compared (by decide), first leftWritten⟩, right.not_compared (by decide),
        second rightWritten⟩

/-! ## A rendering pads the printing -/

/-- The tokens that may be put into a printing. -/
def Token.IsPadding (token : Token Number) : Prop :=
  token = .lParen ∨ token = .rParen ∨ token = .plus

/-- The tokens of an expression printed for a level. -/
def printed (spell : Number → Literal) (wanted : Level) (expression : IExpr Number) :
    List (Token Number) :=
  (wrap wanted expression.level (expression.print spell)).map Lexeme.token

/-- Tokens that are the items, with padding in between. -/
abbrev Pads (items tokens : List (Token Number)) : Prop := Padded Eq Token.IsPadding items tokens

/-- A level that allows more asks for fewer parentheses. -/
theorem pads_wider {wanted wider : Level} {expression : IExpr Number}
    {tokens : List (Token Number)} (more : ∀ own, wanted.allows own → wider.allows own)
    (pads : Pads (printed spell wanted expression) tokens) :
    Pads (printed spell wider expression) tokens := by
  unfold printed wrap at pads ⊢
  split at pads
  · next allows => rwa [if_pos (more _ allows)]
  split
  · rw [List.map_cons, List.map_append] at pads
    have opened := @Padded.leaveOut _ _ _ _ [] _ _ _
      (by rintro _ rfl; exact .inl rfl) pads
    have closed := Padded.leaveOut (by rintro _ rfl; exact .inr (.inl rfl)) opened
    rwa [List.map_nil, List.append_nil] at closed
  · exact pads

/-- A group is padded like what stands inside of it. -/
theorem pads_group {wanted : Level} {expression : IExpr Number} {tokens : List (Token Number)}
    (pads : Pads (printed spell .expression expression) tokens)
    (notCondition : expression.level ≠ .condition) :
    Pads (printed spell wanted expression) (.lParen :: (tokens ++ [.rParen])) := by
  unfold printed wrap at pads ⊢
  rw [if_pos (Level.expression_allows notCondition)] at pads
  split
  · have closed := pads.append (.pad (.inr (.inl rfl)) .nil : Pads [] [.rParen])
    rw [List.append_nil] at closed
    exact .pad (.inl rfl) closed
  · rw [List.map_cons, List.map_append]
    exact .keep rfl (pads.append (.keep rfl .nil))

/-- An expression that may stand somewhere needs no parentheses there. -/
theorem printed_of_allows {wanted : Level} {expression : IExpr Number}
    (allows : wanted.allows expression.level) :
    printed spell wanted expression = (expression.print spell).map Lexeme.token :=
  congrArg (List.map Lexeme.token) (if_pos allows)

/-- The tokens of an expression are its printed ones, with padding. -/
theorem Renders.pads {level : Level} {expression : IExpr Number} {tokens : List (Token Number)}
    (renders : Renders level expression tokens) (written : ∀ token ∈ tokens, token.Written spell) :
    Pads (printed spell level expression) tokens := by
  obtain ⟨isIf, isThen, isElse, isCall⟩ := @keyword_tokens Number
  induction renders with
  | number value =>
      obtain ⟨-, isValue⟩ := written (.number value) (List.mem_singleton.mpr rfl)
      exact .keep (congrArg Token.number isValue) .nil
  | string value =>
      refine .keep (congrArg Token.string ?_) .nil
      rw [List.map_map, String.toList_ofList]
      exact List.map_id _
  | field attributeNo =>
      obtain ⟨first, last⟩ := written (.field attributeNo) (List.mem_singleton.mpr rfl)
      rw [printed_of_allows rfl, IExpr.print, List.map_singleton, Lexeme.token,
        (fieldLetter_spec first last).2]
      exact .keep rfl .nil
  | call value code first second =>
      simp only [List.forall_mem_cons, List.forall_mem_append] at written
      obtain ⟨-, -, valueWritten, -, codeWritten, -⟩ := written
      rw [printed_of_allows rfl]
      simp only [IExpr.print, List.map_cons, List.map_append, Lexeme.token, isCall]
      refine .keep rfl (.keep rfl ((first valueWritten).append (.keep rfl ?_)))
      exact (second codeWritten).append (.keep rfl .nil)
  | group inner hypothesis =>
      simp only [List.forall_mem_cons, List.forall_mem_append] at written
      exact pads_group (hypothesis written.2.1) (inner.not_compared (by decide))
  | unary _ hypothesis | multiplicative _ hypothesis | additive _ hypothesis
  | expression _ hypothesis | condition _ hypothesis =>
      exact pads_wider (fun own => by cases own <;> decide) (hypothesis written)
  | negate operand hypothesis =>
      exact .keep rfl (hypothesis (List.forall_mem_cons.mp written).2)
  | plus _ hypothesis =>
      exact .pad (.inr (.inr rfl)) (hypothesis (List.forall_mem_cons.mp written).2)
  | product isOp left right first second =>
      simp only [List.forall_mem_cons, List.forall_mem_append] at written
      obtain ⟨leftWritten, -, rightWritten⟩ := written
      obtain ⟨op, -, rfl, isProduct, rfl⟩ := multiplicativeOp_cases isOp
      rw [printed_of_allows (by rw [IExpr.level, isProduct]; rfl)]
      rw [IExpr.print, isProduct, List.map_append, List.map_cons]
      exact (first leftWritten).append (.keep rfl (second rightWritten))
  | sum isOp left right first second =>
      simp only [List.forall_mem_cons, List.forall_mem_append] at written
      obtain ⟨leftWritten, -, rightWritten⟩ := written
      obtain ⟨op, -, rfl, isSum, rfl⟩ := additiveOp_cases isOp
      rw [printed_of_allows (by rw [IExpr.level, isSum]; rfl)]
      rw [IExpr.print, isSum, List.map_append, List.map_cons]
      exact (first leftWritten).append (.keep rfl (second rightWritten))
  | ifThenElse tests first second inner thenInner elseInner =>
      simp only [List.forall_mem_cons, List.forall_mem_append] at written
      obtain ⟨-, testsWritten, -, thenWritten, -, elseWritten⟩ := written
      rw [printed_of_allows rfl]
      simp only [IExpr.print, List.map_cons, List.map_append, Lexeme.token, isIf, isThen, isElse]
      refine .keep rfl ((inner testsWritten).append (.keep rfl ?_))
      exact (thenInner thenWritten).append (.keep rfl (elseInner elseWritten))
  | compare isOp left right first second =>
      simp only [List.forall_mem_cons, List.forall_mem_append] at written
      obtain ⟨leftWritten, -, rightWritten⟩ := written
      rw [printed_of_allows rfl, IExpr.print, List.map_append, List.map_cons]
      exact (first leftWritten).append
        (.keep (compareOp_cases isOp).symm (second rightWritten))

end Documented

/-! ## Lexemes that are read alike -/

/-- Two lexemes are read alike: literals of one number, the same letters in a string, a word in
upper or lower case, `<>` and `#`. -/
inductive Lexeme.Alike (Number : Type) [Literals Number] : Lexeme → Lexeme → Prop
  | number {first second : Literal}
      (same : (Literals.strtod first.chars : Number) = Literals.strtod second.chars) :
      Alike Number (.number first) (.number second)
  | string {first second : List Letter}
      (same : first.map Letter.letter = second.map Letter.letter) :
      Alike Number (.string first) (.string second)
  | word {first second : List Char} (same : first.map Char.toUpper = second.map Char.toUpper) :
      Alike Number (.word first) (.word second)
  | symbol (mark : Symbol) : Alike Number (.symbol mark) (.symbol mark)
  | hash : Alike Number (.symbol .ne) (.symbol .hash)
  | angle : Alike Number (.symbol .hash) (.symbol .ne)

/-- The words that a token is read from, in upper case. -/
def Token.word : Token Number → Option (List Char)
  | .kwIf => some "IF".toList
  | .kwThen => some "THEN".toList
  | .kwElse => some "ELSE".toList
  | .kwIconv => some "ICONV".toList
  | .kwOconv => some "OCONV".toList
  | .field attributeNo => some [fieldLetter attributeNo]
  | _ => none

/-- No symbol is a word. -/
theorem Symbol.word_token (mark : Symbol) : (mark.token : Token Number).word = none := by
  cases mark <;> rfl

section Alike

variable [Literals Number] {spell : Number → Literal}

/-- A letter comes back from its attribute. -/
theorem fieldLetter_toNat {letter : Char} (first : 'A' ≤ letter) (last : letter ≤ 'Z') :
    fieldLetter (letter.toNat - 'A'.toNat + 1) = letter ∧
      1 ≤ letter.toNat - 'A'.toNat + 1 ∧ letter.toNat - 'A'.toNat + 1 ≤ 26 := by
  have least : 'A'.toNat ≤ letter.toNat := first
  have greatest : letter.toNat ≤ 'Z'.toNat := last
  have isCode : letter.toNat - 'A'.toNat + 1 + 64 = letter.toNat := by
    change 65 ≤ letter.toNat at least
    change letter.toNat - 65 + 1 + 64 = _
    omega
  refine ⟨?_, Nat.le_add_left _ _, ?_⟩
  · rw [fieldLetter, isCode, Char.ofNat_toNat]
  · change letter.toNat ≤ 90 at greatest
    omega

/-- A valid word comes back from its token, in capitals. -/
theorem wordToken_word {letters : List Char} (valid : (wordToken letters : Token Number) ≠ .invalid) :
    (wordToken letters : Token Number).word = some (letters.map Char.toUpper) ∧
      (wordToken letters : Token Number).Written spell := by
  have keyword : ∀ word : String, String.ofList (letters.map Char.toUpper) = word →
      some word.toList = some (letters.map Char.toUpper) := by
    rintro _ rfl
    rw [String.toList_ofList]
  revert valid
  unfold wordToken
  dsimp only
  split
  · next isIf => exact fun _ => ⟨keyword _ isIf, trivial⟩
  split
  · next isThen => exact fun _ => ⟨keyword _ isThen, trivial⟩
  split
  · next isElse => exact fun _ => ⟨keyword _ isElse, trivial⟩
  split
  · next isIconv => exact fun _ => ⟨keyword _ isIconv, trivial⟩
  split
  · next isOconv => exact fun _ => ⟨keyword _ isOconv, trivial⟩
  split
  · next letter =>
      split
      · next inRange =>
          obtain ⟨isLetter, bounds⟩ := fieldLetter_toNat inRange.1 inRange.2
          intro _
          refine ⟨?_, bounds⟩
          rw [Token.word, isLetter]
          rfl
      · exact fun valid => absurd rfl valid
  · exact fun valid => absurd rfl valid

/-- The word of a lexeme. -/
theorem Lexeme.word_token {lexeme : Lexeme} (valid : (lexeme.token : Token Number) ≠ .invalid) :
    (lexeme.token : Token Number).word =
      match lexeme with
      | .word letters => some (letters.map Char.toUpper)
      | _ => none := by
  cases lexeme with
  | word letters => exact (@wordToken_word Number _ (fun _ => ⟨[], none⟩) _ valid).1
  | symbol mark => exact mark.word_token
  | _ => rfl

/-- Lexemes with one token are alike. -/
theorem alike_of_token {first second : Lexeme} (valid : (second.token : Token Number) ≠ .invalid)
    (same : (first.token : Token Number) = second.token) : first.Alike Number second := by
  have words := (Lexeme.word_token (same ▸ valid)).symm.trans
    ((congrArg Token.word same).trans (Lexeme.word_token valid))
  cases first with
  | word letters =>
      cases second with
      | word others => exact .word (Option.some.inj words)
      | _ => cases words
  | number literal =>
      cases second with
      | number other => exact .number (Token.number.inj same)
      | string others => cases same
      | word others => cases words
      | symbol mark => cases mark <;> cases same
  | string letters =>
      cases second with
      | number other => cases same
      | string others => exact .string (Token.string.inj same)
      | word others => cases words
      | symbol mark => cases mark <;> cases same
  | symbol mark =>
      cases second with
      | number other => cases mark <;> cases same
      | string others => cases mark <;> cases same
      | word others => cases words
      | symbol other =>
          cases mark <;> cases other
          all_goals first
            | exact .symbol _
            | exact .hash
            | exact .angle
            | cases same

/-- The lexemes that may be put into a printing. -/
def Lexeme.IsPadding (lexeme : Lexeme) : Prop :=
  lexeme ∈ [.symbol .lParen, .symbol .rParen, .symbol .plus]

/-- A lexeme whose token is padding is padding. -/
theorem padding_of_token {lexeme : Lexeme} (padding : (lexeme.token : Token Number).IsPadding) :
    lexeme.IsPadding := by
  have alike : ∀ mark : Symbol, (lexeme.token : Token Number) = mark.token →
      (Lexeme.symbol mark).Alike Number lexeme := by
    intro mark isMark
    refine alike_of_token ?_ isMark.symm
    rw [isMark]
    cases mark <;> nofun
  rcases padding with isParen | isParen | isPlus
  · cases alike .lParen isParen
    exact List.mem_cons_self
  · cases alike .rParen isParen
    exact List.mem_cons_of_mem _ List.mem_cons_self
  · cases alike .plus isPlus
    exact List.mem_cons_of_mem _ (List.mem_cons_of_mem _ List.mem_cons_self)

/-- The literals of numbers that have one. -/
theorem exists_spell : ∃ spell : Number → Literal, ∀ literal : Literal, literal.Valid →
    (Token.number (Literals.strtod literal.chars)).Written spell := by
  have each : ∀ value : Number, ∃ chosen : Literal, ∀ literal : Literal, literal.Valid →
      Literals.strtod literal.chars = value →
        chosen.Valid ∧ Literals.strtod chosen.chars = value := by
    intro value
    by_cases known : ∃ literal : Literal, literal.Valid ∧ Literals.strtod literal.chars = value
    · obtain ⟨literal, valid, isValue⟩ := known
      exact ⟨literal, fun _ _ _ => ⟨valid, isValue⟩⟩
    · exact ⟨⟨[], none⟩, fun literal valid isValue => absurd ⟨literal, valid, isValue⟩ known⟩
  choose spell spelled using each
  exact ⟨spell, fun literal valid => spelled _ literal valid rfl⟩

/-- The token of a valid lexeme can be written. -/
theorem Lexeme.Valid.written {lexeme : Lexeme} (valid : lexeme.Valid)
    (notInvalid : (lexeme.token : Token Number) ≠ .invalid)
    (spells : ∀ literal : Literal, literal.Valid →
      (Token.number (Literals.strtod literal.chars)).Written spell) :
    (lexeme.token : Token Number).Written spell := by
  cases lexeme with
  | number literal => exact spells literal valid
  | string letters => trivial
  | word letters => exact (wordToken_word notInvalid).2
  | symbol mark => cases mark <;> trivial

end Alike

/-! ## The parser inverts the printer -/

section RoundTrip

variable [DecidableEq Number] [Literals Number]

/-- A text that spells the printed lexemes is parsed as the expression. -/
theorem parse_of_spells {spell : Number → Literal} {expression : IExpr Number} {text : String}
    (documented : expression.Documented spell) (notCondition : expression.level ≠ .condition)
    (spells : Spells text.toList (expression.print spell)) : parse text = .ok expression :=
  parse_eq_ok.mpr
    ⟨_, spells, (renders_print documented).raise (Level.expression_allows notCondition)⟩

/-- A parsed text is the printed one, with padding and other spellings. -/
theorem printing_of_parse {text : String} {expression : IExpr Number}
    (parsed : parse text = .ok expression) : ∃ (spell : Number → Literal) (lexemes : List Lexeme),
      expression.Documented spell ∧ expression.level ≠ .condition ∧ Spells text.toList lexemes ∧
        Padded (Lexeme.Alike Number) Lexeme.IsPadding (expression.print spell) lexemes := by
  obtain ⟨lexemes, spells, renders⟩ := parse_eq_ok.mp parsed
  obtain ⟨spell, spelled⟩ := @exists_spell Number _
  have notCondition := renders.not_compared (by decide)
  have notInvalid : ∀ lexeme ∈ lexemes, (lexeme.token : Token Number) ≠ .invalid := by
    intro lexeme member isInvalid
    exact renders.valid (isInvalid ▸ List.mem_map_of_mem member)
  have written : ∀ token ∈ (lexemes.map Lexeme.token : List (Token Number)),
      token.Written spell :=
    List.forall_mem_map.mpr fun lexeme member =>
      (spells.valid lexeme member).written (notInvalid lexeme member) spelled
  have pads := renders.pads written
  rw [printed_of_allows (Level.expression_allows notCondition)] at pads
  refine ⟨spell, lexemes, renders.documented written, notCondition, spells, ?_⟩
  refine (padded_of_map pads).loosen (fun printed _ lexeme member => ?_) fun lexeme _ => ?_
  · exact alike_of_token (notInvalid lexeme member)
  · exact padding_of_token

/-- Printing and parsing give the expression back, and a text that is taken is a printing of what it
is parsed to: blanks, parentheses, unary `+`, the case of words, `#` for `<>`, other literals of a
number and needless `\`s in strings are the only differences. -/
theorem parse_inverts_print :
    (∀ (spell : Number → Literal) (expression : IExpr Number), expression.Documented spell →
      expression.level ≠ .condition →
        parse (String.ofList (spaced (expression.print spell))) = .ok expression ∧
          ∀ text : String, Spells text.toList (expression.print spell) →
            parse text = .ok expression) ∧
    ∀ (text : String) (expression : IExpr Number), parse text = .ok expression →
      ∃ (spell : Number → Literal) (lexemes : List Lexeme),
        expression.Documented spell ∧ expression.level ≠ .condition ∧ Spells text.toList lexemes ∧
          Padded (Lexeme.Alike Number) Lexeme.IsPadding (expression.print spell) lexemes := by
  refine ⟨fun spell expression documented notCondition => ⟨?_, fun text => ?_⟩, fun _ _ => ?_⟩
  · have spells := spells_spaced (valid_print documented)
    exact parse_of_spells documented notCondition (by rwa [String.toList_ofList])
  · exact parse_of_spells documented notCondition
  · exact printing_of_parse

end RoundTrip

/-- `strtod` with exact numbers. -/
instance exactLiterals : Literals ℚ where
  strtod text :=
    let whole := text.takeWhile Char.isDigit
    let fraction := (text.dropWhile Char.isDigit).drop 1
    (Nat.ofDigitChars 10 (whole ++ fraction) 0 : ℚ) / 10 ^ fraction.length

/-- A product of a sum is printed and parsed. -/
theorem product_of_sum_round_trip : parse "- A * ( B + 1.5 )" = .ok (.binary '*'
    (.unary '-' (.field 1)) (.binary '+' (.field 2) (.number (3 / 2 : ℚ)))) := by
  let spell : ℚ → Literal := fun _ => ⟨['1'], some ['5']⟩
  have literal : (spell (3 / 2)).Valid ∧
      Literals.strtod (spell (3 / 2)).chars = (3 / 2 : ℚ) := by
    refine ⟨⟨by decide, List.forall_mem_singleton.mpr rfl, ?_⟩, by decide +kernel⟩
    rintro _ ⟨⟩
    exact List.forall_mem_singleton.mpr rfl
  have parsed := (parse_inverts_print.1 spell (.binary '*' (.unary '-' (.field 1))
    (.binary '+' (.field 2) (.number (3 / 2)))) ⟨by decide, ⟨nofun, rfl, nofun, by decide, by decide⟩,
      nofun, by decide, ⟨nofun, by decide, by decide⟩, nofun, literal⟩ nofun).1
  exact parsed

/-- A string may hold a `\` that no printing has. -/
theorem needless_escape : ¬ ∀ (text : String) (expression : IExpr ℚ),
    parse text = .ok expression → ∃ (spell : ℚ → Literal) (lexemes : List Lexeme),
      Spells text.toList lexemes ∧
        (∀ letters, .string letters ∈ lexemes → ∀ part ∈ letters, part = escape part.letter) ∧
          Padded (Lexeme.Alike ℚ) Lexeme.IsPadding (expression.print spell) lexemes := by
  intro claimed
  have valid : (Lexeme.string [⟨true, 'a'⟩]).Valid := by
    intro part member plain
    cases List.mem_singleton.mp member
    cases plain
  have spells : Spells "\"\\a\"".toList [.string [⟨true, 'a'⟩]] :=
    spells_spaced (List.forall_mem_singleton.mpr valid)
  have parsed : parse "\"\\a\"" = .ok (.string "a" : IExpr ℚ) :=
    parse_eq_ok.mpr ⟨_, spells, .expression (.additive (.multiplicative (.unary (.string ['a']))))⟩
  obtain ⟨spell, lexemes, spelled, escapes, -⟩ := claimed _ _ parsed
  rw [← spells.unique spelled] at escapes
  exact absurd (escapes _ List.mem_cons_self _ List.mem_cons_self) (by decide)

end Gemini.English.IType
