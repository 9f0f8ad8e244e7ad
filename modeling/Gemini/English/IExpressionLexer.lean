import Gemini.Basic.ExpressionLexer

/-!
# The lexer of I-type expressions

`Lexer::next` takes one token from the front of a text. A `Lexeme` is a token as it is written;
`lexLexeme_eq` says exactly when the lexer takes a lexeme, and the tokens of a text are those of
its lexemes. The parser asks for one token after the other; here they are a list, and the token
`End` is its end.
-/

namespace Gemini.English.IType

open Gemini.Basic (Scans scans_iff scans_self scanFraction scanFraction_eq isAlpha_start)
open Gemini.Basic.Numeral (fractionChars)
open Gemini.VM (isSpace isSpace_of_isAlphanum)

/-- `std::strtod` on a decimal literal. -/
class Literals (Number : Type) where
  strtod : List Char → Number

/-- `Token`; nothing reads the text of an invalid one. -/
inductive Token (Number : Type) where
  | number (numberValue : Number)
  | string (lexeme : List Char)
  | field (fieldAttributeNo : ℕ)
  | kwIf
  | kwThen
  | kwElse
  | kwIconv
  | kwOconv
  | plus
  | minus
  | star
  | slash
  | lParen
  | rParen
  | comma
  | eq
  | ne
  | lt
  | le
  | gt
  | ge
  | invalid
deriving DecidableEq

/-! ## Lexemes -/

/-- The operators and the punctuation of expressions. -/
inductive Symbol where
  | plus
  | minus
  | star
  | slash
  | lParen
  | rParen
  | comma
  | eq
  | ne
  /-- `#`. -/
  | hash
  | lt
  | le
  | gt
  | ge
deriving DecidableEq

/-- How a symbol is written. -/
def Symbol.chars : Symbol → List Char
  | .plus => ['+']
  | .minus => ['-']
  | .star => ['*']
  | .slash => ['/']
  | .lParen => ['(']
  | .rParen => [')']
  | .comma => [',']
  | .eq => ['=']
  | .ne => ['<', '>']
  | .hash => ['#']
  | .lt => ['<']
  | .le => ['<', '=']
  | .gt => ['>']
  | .ge => ['>', '=']

/-- The token of a symbol; `#` is one more way to write `<>`. -/
def Symbol.token {Number : Type} : Symbol → Token Number
  | .plus => .plus
  | .minus => .minus
  | .star => .star
  | .slash => .slash
  | .lParen => .lParen
  | .rParen => .rParen
  | .comma => .comma
  | .eq => .eq
  | .ne => .ne
  | .hash => .ne
  | .lt => .lt
  | .le => .le
  | .gt => .gt
  | .ge => .ge

/-- A letter of a string literal, with a `\` before it or without. -/
structure Letter where
  escaped : Bool
  letter : Char
deriving DecidableEq

/-- How a letter of a string is written. -/
def Letter.chars (part : Letter) : List Char :=
  if part.escaped then ['\\', part.letter] else [part.letter]

/-- A number literal; its fraction is what follows the point. -/
structure Literal where
  whole : List Char
  fraction : Option (List Char)
deriving DecidableEq

/-- How a number is written. -/
def Literal.chars (literal : Literal) : List Char := literal.whole ++ fractionChars literal.fraction

/-- A token as it is written. -/
inductive Lexeme where
  | string (letters : List Letter)
  | number (literal : Literal)
  | word (letters : List Char)
  | symbol (mark : Symbol)
deriving DecidableEq

/-- How a lexeme is written. -/
def Lexeme.chars : Lexeme → List Char
  | .string letters => '"' :: (letters.flatMap Letter.chars ++ ['"'])
  | .number literal => literal.chars
  | .word letters => letters
  | .symbol mark => mark.chars

/-- The token of an identifier. -/
def wordToken {Number : Type} (lexeme : List Char) : Token Number :=
  let upper := String.ofList (lexeme.map Char.toUpper)
  if upper = "IF" then .kwIf
  else if upper = "THEN" then .kwThen
  else if upper = "ELSE" then .kwElse
  else if upper = "ICONV" then .kwIconv
  else if upper = "OCONV" then .kwOconv
  else
    match lexeme with
    | [letter] =>
        if 'A' ≤ letter.toUpper ∧ letter.toUpper ≤ 'Z' then
          .field (letter.toUpper.toNat - 'A'.toNat + 1)
        else .invalid
    | _ => .invalid

/-- The token of a lexeme. -/
def Lexeme.token {Number : Type} [Literals Number] : Lexeme → Token Number
  | .string letters => .string (letters.map Letter.letter)
  | .number literal => .number (Literals.strtod literal.chars)
  | .word letters => wordToken letters
  | .symbol mark => mark.token

/-! ## Scanning -/

/-- The loop of `lexString`: the letters up to the closing quote and what follows it. -/
def lexString : List Char → Option (List Letter × List Char)
  | [] => none
  | '"' :: rest => some ([], rest)
  | '\\' :: c :: rest => (lexString rest).map fun (letters, after) => (⟨true, c⟩ :: letters, after)
  | c :: rest => (lexString rest).map fun (letters, after) => (⟨false, c⟩ :: letters, after)

/-- `lexNumber`; `strtod` makes nothing of a point alone. -/
def lexNumber (text : List Char) : Option Lexeme × List Char :=
  let whole := text.takeWhile Char.isDigit
  let (fraction, after) := scanFraction (text.dropWhile Char.isDigit)
  if whole = [] ∧ fraction.getD [] = [] then (none, after)
  else (some (.number { whole, fraction }), after)

/-- The longest symbol at the start of a text. -/
def lexSymbol : Char → List Char → Option Symbol × List Char
  | '<', '>' :: rest => (some .ne, rest)
  | '<', '=' :: rest => (some .le, rest)
  | '<', rest => (some .lt, rest)
  | '>', '=' :: rest => (some .ge, rest)
  | '>', rest => (some .gt, rest)
  | '=', rest => (some .eq, rest)
  | '#', rest => (some .hash, rest)
  | '+', rest => (some .plus, rest)
  | '-', rest => (some .minus, rest)
  | '*', rest => (some .star, rest)
  | '/', rest => (some .slash, rest)
  | '(', rest => (some .lParen, rest)
  | ')', rest => (some .rParen, rest)
  | ',', rest => (some .comma, rest)
  | _, rest => (none, rest)

/-- The lexeme at the front of a text that starts with a character other than a blank; there is none
for an invalid token. -/
def lexLexeme (c : Char) (rest : List Char) : Option Lexeme × List Char :=
  if c = '"' then
    match lexString rest with
    | some (letters, after) => (some (.string letters), after)
    | none => (none, [])
  else if c.isDigit || c = '.' then lexNumber (c :: rest)
  else if c.isAlpha then
    (some (.word ((c :: rest).takeWhile Char.isAlpha)), (c :: rest).dropWhile Char.isAlpha)
  else
    let (mark, after) := lexSymbol c rest
    (mark.map .symbol, after)

/-! ## What a lexeme is -/

/-- The numbers that are scanned: digits before or behind the point. -/
structure Literal.Valid (literal : Literal) : Prop where
  some : literal.whole ≠ [] ∨ literal.fraction.getD [] ≠ []
  whole : ∀ c ∈ literal.whole, c.isDigit
  fraction : ∀ digits ∈ literal.fraction, ∀ c ∈ digits, c.isDigit

/-- The lexemes of the language. -/
def Lexeme.Valid : Lexeme → Prop
  | .string letters =>
      ∀ part ∈ letters, part.escaped = false → part.letter ≠ '"' ∧ part.letter ≠ '\\'
  | .number literal => literal.Valid
  | .word letters => letters ≠ [] ∧ ∀ c ∈ letters, c.isAlpha
  | .symbol _ => True

/-- The lexeme does not go on with the next character. -/
def Lexeme.EndsBefore (next : Option Char) : Lexeme → Prop
  | .string _ => True
  | .number literal => ∀ c ∈ next, c.isDigit = false ∧ (literal.fraction = none → c ≠ '.')
  | .word _ => ∀ c ∈ next, c.isAlpha = false
  | .symbol .lt => ∀ c ∈ next, c ≠ '>' ∧ c ≠ '='
  | .symbol .gt => ∀ c ∈ next, c ≠ '='
  | .symbol _ => True

/-! ## What the scanners take -/

/-- A string is its letters, up to a quote. -/
theorem lexString_sound {text after : List Char} {letters : List Letter}
    (done : lexString text = some (letters, after)) :
    text = letters.flatMap Letter.chars ++ '"' :: after ∧ (Lexeme.string letters).Valid := by
  induction text using lexString.induct generalizing letters after with
  | case1 => cases done
  | case2 rest =>
      cases done
      exact ⟨rfl, nofun⟩
  | case3 c rest hypothesis =>
      obtain ⟨⟨others, last⟩, found, isDone⟩ := Option.map_eq_some_iff.mp done
      cases isDone
      obtain ⟨rfl, valid⟩ := hypothesis found
      exact ⟨rfl, List.forall_mem_cons.mpr ⟨nofun, valid⟩⟩
  | case4 c rest notQuote notEscape hypothesis =>
      rw [lexString] at done
      · obtain ⟨⟨others, last⟩, found, isDone⟩ := Option.map_eq_some_iff.mp done
        have notLast : c ≠ '\\' := by
          rintro rfl
          cases rest with
          | nil => cases found
          | cons next rest => exact notEscape next rest rfl rfl
        cases isDone
        obtain ⟨rfl, valid⟩ := hypothesis found
        exact ⟨rfl, List.forall_mem_cons.mpr ⟨fun _ => ⟨notQuote, notLast⟩, valid⟩⟩
      · exact notQuote
      · exact notEscape

/-- A valid string is scanned. -/
theorem lexString_complete {letters : List Letter} (valid : (Lexeme.string letters).Valid)
    (after : List Char) :
    lexString (letters.flatMap Letter.chars ++ '"' :: after) = some (letters, after) := by
  induction letters with
  | nil => rfl
  | cons part letters hypothesis =>
      obtain ⟨plain, rest⟩ := List.forall_mem_cons.mp valid
      have found := hypothesis rest
      obtain ⟨escaped, letter⟩ := part
      cases escaped with
      | true =>
          change lexString ('\\' :: letter :: (letters.flatMap Letter.chars ++ '"' :: after)) = _
          rw [lexString, found]
          rfl
      | false =>
          obtain ⟨notQuote, notEscape⟩ := plain rfl
          change lexString (letter :: (letters.flatMap Letter.chars ++ '"' :: after)) = _
          rw [lexString]
          · rw [found]
            rfl
          · exact notQuote
          · intro c rest isEscape
            exact absurd isEscape notEscape

/-- What a number is, and where it ends. -/
theorem lexNumber_eq {text after : List Char} {literal : Literal} :
    lexNumber text = (some (.number literal), after) ↔
      text = literal.chars ++ after ∧ literal.Valid ∧
        (Lexeme.number literal).EndsBefore after.head? := by
  unfold lexNumber
  dsimp only
  constructor
  · intro done
    have scans := scans_self Char.isDigit text
    rcases scanned : scanFraction (text.dropWhile Char.isDigit) with ⟨fraction, last⟩
    obtain ⟨cut, digits, stops⟩ := scanFraction_eq.mp scanned
    rw [scanned] at done
    split at done
    · cases done
    · next some =>
        cases done
        refine ⟨?_, ⟨?_, scans.kept, digits⟩, fun c first => ?_⟩
        · rw [Literal.chars, List.append_assoc, ← cut]
          exact scans.cut
        · exact not_and_or.mp some
        · have stop := stops c first
          cases fraction with
          | none =>
              refine ⟨scans.stops c ?_, fun _ => stop⟩
              rw [cut]
              exact first
          | some digits => exact ⟨stop, nofun⟩
  · rintro ⟨rfl, valid, ends⟩
    obtain ⟨whole, fraction⟩ := literal
    have scans : Scans Char.isDigit (whole ++ (fractionChars fraction ++ after)) whole
        (fractionChars fraction ++ after) := by
      refine ⟨rfl, valid.whole, fun c first => ?_⟩
      cases fraction with
      | none => exact (ends c first).1
      | some digits =>
          cases first
          rfl
    obtain ⟨isWhole, isRest⟩ := scans_iff.mp scans
    have scanned : scanFraction (fractionChars fraction ++ after) = (fraction, after) := by
      refine scanFraction_eq.mpr ⟨rfl, valid.fraction, fun c first => ?_⟩
      split
      · next none => exact (ends c first).2 none
      · exact (ends c first).1
    rw [Literal.chars, List.append_assoc, isWhole, isRest, scanned]
    exact if_neg fun ⟨noWhole, noFraction⟩ =>
      valid.some.elim (fun some => some noWhole) fun some => some noFraction

/-- What a symbol is, and where it ends. -/
theorem lexSymbol_eq {c : Char} {rest after : List Char} {mark : Symbol} :
    lexSymbol c rest = (some mark, after) ↔
      c :: rest = mark.chars ++ after ∧ (Lexeme.symbol mark).EndsBefore after.head? := by
  constructor
  · intro done
    unfold lexSymbol at done
    split at done
    case h_3 rest notNe notLe =>
      cases done
      refine ⟨rfl, fun c first => ?_⟩
      obtain ⟨more, rfl⟩ := List.head?_eq_some_iff.mp first
      exact ⟨fun isGt => notNe more (isGt ▸ rfl), fun isEq => notLe more (isEq ▸ rfl)⟩
    case h_5 rest notGe =>
      cases done
      refine ⟨rfl, fun c first => ?_⟩
      obtain ⟨more, rfl⟩ := List.head?_eq_some_iff.mp first
      exact fun isEq => notGe more (isEq ▸ rfl)
    all_goals
      cases done
      try exact ⟨rfl, trivial⟩
  · rintro ⟨cut, ends⟩
    cases mark with
    | lt =>
        obtain ⟨rfl, rfl⟩ := List.cons.inj cut
        unfold lexSymbol
        split
        · exact absurd rfl (ends '>' rfl).1
        · exact absurd rfl (ends '=' rfl).2
        all_goals first | rfl | contradiction
    | gt =>
        obtain ⟨rfl, rfl⟩ := List.cons.inj cut
        unfold lexSymbol
        split
        case h_4 => exact absurd rfl (ends '=' rfl)
        all_goals first | rfl | contradiction
    | _ =>
        cases cut
        rfl

/-- A symbol starts with none of the characters that start other lexemes. -/
theorem symbol_start {mark : Symbol} {c : Char} {rest after : List Char}
    (cut : c :: rest = mark.chars ++ after) :
    c ≠ '"' ∧ (c.isDigit || c = '.') = false ∧ c.isAlpha = false := by
  cases mark <;> (obtain ⟨rfl, -⟩ := List.cons.inj cut; decide)

/-- A literal starts with a digit or a point. -/
theorem Literal.Valid.starts {literal : Literal} (valid : literal.Valid) :
    ∃ c rest, literal.chars = c :: rest ∧ (c.isDigit || c = '.') = true := by
  obtain ⟨whole, fraction⟩ := literal
  cases whole with
  | cons c whole =>
      have digit : c.isDigit = true := valid.whole c List.mem_cons_self
      exact ⟨c, _, rfl, by rw [digit]; rfl⟩
  | nil =>
      cases fraction with
      | none => exact valid.some.elim (absurd rfl) (absurd rfl)
      | some digits => exact ⟨'.', digits, rfl, rfl⟩

theorem not_quote_of_literal {c : Char} (starts : (c.isDigit || c = '.') = true) : c ≠ '"' := by
  rintro rfl
  cases starts

/-- A lexeme is a valid one, cut off where it ends. -/
theorem lexLexeme_sound {c : Char} {rest after : List Char} {lexeme : Lexeme}
    (done : lexLexeme c rest = (some lexeme, after)) :
    c :: rest = lexeme.chars ++ after ∧ lexeme.Valid ∧ lexeme.EndsBefore after.head? := by
  unfold lexLexeme at done
  split at done
  · next isQuote =>
      subst isQuote
      split at done
      · next letters last found =>
          cases done
          obtain ⟨rfl, valid⟩ := lexString_sound found
          exact ⟨by simp [Lexeme.chars], valid, trivial⟩
      · cases done
  split at done
  · next isNumber =>
      rcases scanned : lexNumber (c :: rest) with ⟨_ | lexeme', last⟩
      · rw [scanned] at done
        cases done
      · rw [scanned] at done
        cases done
        obtain ⟨literal, rfl⟩ : ∃ literal, lexeme = .number literal := by
          unfold lexNumber at scanned
          dsimp only at scanned
          split at scanned
          · cases scanned
          · cases scanned
            exact ⟨_, rfl⟩
        exact lexNumber_eq.mp scanned
  split at done
  · next isAlpha =>
      cases done
      have scans := scans_self Char.isAlpha (c :: rest)
      refine ⟨scans.cut, ⟨?_, scans.kept⟩, scans.stops⟩
      rw [List.takeWhile_cons_of_pos isAlpha]
      exact List.cons_ne_nil _ _
  · rcases scanned : lexSymbol c rest with ⟨_ | mark, last⟩
    · rw [scanned] at done
      cases done
    · rw [scanned] at done
      cases done
      obtain ⟨cut, ends⟩ := lexSymbol_eq.mp scanned
      exact ⟨cut, trivial, ends⟩

/-- A valid lexeme is cut off where it ends. -/
theorem lexLexeme_complete {c : Char} {rest after : List Char} {lexeme : Lexeme}
    (cut : c :: rest = lexeme.chars ++ after) (valid : lexeme.Valid)
    (ends : lexeme.EndsBefore after.head?) : lexLexeme c rest = (some lexeme, after) := by
  cases lexeme with
  | string letters =>
      obtain ⟨rfl, isRest⟩ := List.cons.inj cut
      rw [List.append_eq, List.append_assoc] at isRest
      rw [lexLexeme, if_pos rfl, isRest]
      change (match lexString (letters.flatMap Letter.chars ++ '"' :: after) with
        | some (letters, after) => (some (Lexeme.string letters), after)
        | none => (none, [])) = _
      rw [lexString_complete valid]
  | number literal =>
      obtain ⟨first, others, chars, starts⟩ := Literal.Valid.starts valid
      have isFirst : c = first := by
        rw [Lexeme.chars, chars] at cut
        exact (List.cons.inj cut).1
      subst isFirst
      rw [lexLexeme, if_neg (not_quote_of_literal starts), if_pos starts]
      exact lexNumber_eq.mpr ⟨cut, valid, ends⟩
  | word letters =>
      obtain ⟨notEmpty, alpha⟩ := valid
      obtain ⟨first, others, rfl⟩ := List.exists_cons_of_ne_nil notEmpty
      obtain ⟨rfl, rfl⟩ := List.cons.inj cut
      have isAlpha := alpha c List.mem_cons_self
      obtain ⟨notQuote, notDigit, -, -⟩ := isAlpha_start isAlpha
      have notPoint : (c.isDigit || c = '.') = false := by
        rw [notDigit, Bool.false_or, decide_eq_false_iff_not]
        rintro rfl
        cases isAlpha
      have scans : Scans Char.isAlpha (c :: others ++ after) (c :: others) after :=
        ⟨rfl, alpha, ends⟩
      obtain ⟨isWord, isAfter⟩ := scans_iff.mp scans
      rw [lexLexeme, if_neg notQuote, if_neg (by rw [notPoint]; nofun), if_pos isAlpha]
      exact Prod.ext (congrArg (fun word => some (Lexeme.word word)) isWord) isAfter
  | symbol mark =>
      obtain ⟨notQuote, notNumber, notAlpha⟩ := symbol_start cut
      have scanned := lexSymbol_eq.mpr ⟨cut, ends⟩
      rw [lexLexeme, if_neg notQuote, if_neg (by rw [notNumber]; nofun),
        if_neg (by rw [notAlpha]; nofun), scanned]
      rfl

/-- A valid lexeme starts with a character that is no blank. -/
theorem Lexeme.Valid.starts {lexeme : Lexeme} (valid : lexeme.Valid) :
    ∃ c rest, lexeme.chars = c :: rest ∧ isSpace c = false := by
  cases lexeme with
  | string letters => exact ⟨_, _, rfl, rfl⟩
  | number literal =>
      obtain ⟨c, rest, chars, starts⟩ := Literal.Valid.starts valid
      refine ⟨c, rest, chars, ?_⟩
      rcases Bool.or_eq_true_iff.mp starts with digit | point
      · exact isSpace_of_isAlphanum (by simp [Char.isAlphanum, digit])
      · rw [of_decide_eq_true point]
        rfl
  | word letters =>
      obtain ⟨some, alpha⟩ := valid
      obtain ⟨c, others, rfl⟩ := List.exists_cons_of_ne_nil some
      exact ⟨c, others, rfl, isSpace_of_isAlphanum (isAlpha_start (alpha c (by simp))).2.2.2⟩
  | symbol mark => cases mark <;> exact ⟨_, _, rfl, rfl⟩

/-! ## Texts -/

/-- A number shortens the text. -/
theorem length_lexNumber {c : Char} (starts : (c.isDigit || c = '.') = true) (rest : List Char) :
    (lexNumber (c :: rest)).2.length ≤ rest.length := by
  have scans := scans_self Char.isDigit (c :: rest)
  rcases scanned : scanFraction ((c :: rest).dropWhile Char.isDigit) with ⟨fraction, last⟩
  obtain ⟨cut, -, stops⟩ := scanFraction_eq.mp scanned
  have isLast : (lexNumber (c :: rest)).2 = last := by
    unfold lexNumber
    rw [scanned]
    dsimp only
    split <;> rfl
  have whole := congrArg List.length scans.cut
  rw [cut, List.length_append, List.length_append, List.length_cons] at whole
  rw [isLast]
  by_contra longer
  -- then nothing is taken, and the text starts with what it starts with
  have noWhole : (c :: rest).takeWhile Char.isDigit = [] := List.length_eq_zero_iff.mp (by omega)
  have noFraction : fractionChars fraction = [] := List.length_eq_zero_iff.mp (by omega)
  have isNone : fraction = none := by
    cases fraction with
    | none => rfl
    | some digits => cases noFraction
  have isText : c :: rest = last := by
    rw [noFraction, List.nil_append] at cut
    rw [← cut]
    exact scans.cut.trans (by rw [noWhole]; rfl)
  have notPoint := stops c (by rw [← isText]; rfl)
  have notDigit := scans.stops c (by rw [cut, noFraction, List.nil_append, ← isText]; rfl)
  rw [if_pos isNone] at notPoint
  rw [notDigit, Bool.false_or, decide_eq_true_iff] at starts
  exact notPoint starts

/-- A symbol shortens the text. -/
theorem length_lexSymbol (c : Char) (rest : List Char) :
    (lexSymbol c rest).2.length ≤ rest.length := by
  unfold lexSymbol
  split
  all_goals simp

/-- Every token takes its first character. -/
theorem length_lexLexeme (c : Char) (rest : List Char) :
    (lexLexeme c rest).2.length ≤ rest.length := by
  unfold lexLexeme
  split
  · split
    · next letters after found =>
        rw [(lexString_sound found).1, List.length_append, List.length_cons]
        dsimp only
        omega
    · exact Nat.zero_le _
  split
  · next starts => exact length_lexNumber starts rest
  split
  · next isAlpha =>
      rw [List.dropWhile_cons_of_pos isAlpha]
      exact List.length_dropWhile_le _ _
  · exact length_lexSymbol c rest

/-- The tokens that `next` gives up to `End`. -/
def tokenize {Number : Type} [Literals Number] (text : List Char) : List (Token Number) :=
  match text with
  | [] => []
  | c :: rest =>
      if isSpace c then tokenize rest
      else (lexLexeme c rest).1.elim .invalid Lexeme.token :: tokenize (lexLexeme c rest).2
termination_by text.length
decreasing_by
  · exact Nat.lt_succ_self _
  · exact Nat.lt_succ_of_le (length_lexLexeme c rest)

/-- A text is its lexemes with blanks between them, and no lexeme goes on into the next one. -/
inductive Spells : List Char → List Lexeme → Prop
  | done {gap : List Char} (blank : ∀ c ∈ gap, isSpace c) : Spells gap []
  | next {gap text : List Char} {lexeme : Lexeme} {lexemes : List Lexeme}
      (blank : ∀ c ∈ gap, isSpace c) (valid : lexeme.Valid) (ends : lexeme.EndsBefore text.head?)
      (rest : Spells text lexemes) : Spells (gap ++ (lexeme.chars ++ text)) (lexeme :: lexemes)

/-- A blank in front changes nothing. -/
theorem Spells.blank {c : Char} {text : List Char} {lexemes : List Lexeme} (isBlank : isSpace c)
    (spells : Spells text lexemes) : Spells (c :: text) lexemes := by
  cases spells with
  | done blank => exact .done (List.forall_mem_cons.mpr ⟨isBlank, blank⟩)
  | @next gap _ _ _ blank valid ends rest =>
      have longer : ∀ other ∈ c :: gap, isSpace other :=
        List.forall_mem_cons.mpr ⟨isBlank, blank⟩
      exact @Spells.next (c :: gap) _ _ _ longer valid ends rest

/-- What a text spells is valid. -/
theorem Spells.valid {text : List Char} {lexemes : List Lexeme} (spells : Spells text lexemes) :
    ∀ lexeme ∈ lexemes, lexeme.Valid := by
  induction spells with
  | done => nofun
  | next _ valid _ _ hypothesis => exact List.forall_mem_cons.mpr ⟨valid, hypothesis⟩

/-- A lexeme stands behind the blanks in front of it. -/
theorem dropWhile_blanks {gap text : List Char} {lexeme : Lexeme} (blank : ∀ c ∈ gap, isSpace c)
    (valid : lexeme.Valid) : ∃ c rest, (gap ++ (lexeme.chars ++ text)).dropWhile isSpace = c :: rest ∧
      c :: rest = lexeme.chars ++ text := by
  obtain ⟨c, rest, chars, notBlank⟩ := valid.starts
  refine ⟨c, rest ++ text, ?_, by rw [chars, List.cons_append]⟩
  rw [List.dropWhile_append_of_pos blank, chars, List.cons_append,
    List.dropWhile_cons_of_neg (by rw [notBlank]; nofun)]

/-- The first lexeme of a text is the one that the lexer takes behind the blanks. -/
theorem Spells.first {text : List Char} {lexemes : List Lexeme} (spells : Spells text lexemes) :
    match text.dropWhile isSpace with
    | [] => lexemes = []
    | c :: rest => ∃ lexeme after others, lexLexeme c rest = (some lexeme, after) ∧
        Spells after others ∧ lexemes = lexeme :: others := by
  cases spells with
  | done blank =>
      rw [List.dropWhile_eq_nil_iff.mpr blank]
  | next blank valid ends others =>
      obtain ⟨c, rest, dropped, cut⟩ := dropWhile_blanks blank valid
      rw [dropped]
      exact ⟨_, _, _, lexLexeme_complete cut valid ends, others, rfl⟩

/-- A text has one spelling. -/
theorem Spells.unique {text : List Char} {lexemes others : List Lexeme}
    (spells : Spells text lexemes) (spelled : Spells text others) : lexemes = others := by
  induction spells generalizing others with
  | done blank =>
      have isLast := spelled.first
      rw [List.dropWhile_eq_nil_iff.mpr blank] at isLast
      exact isLast.symm
  | next blank valid ends _ hypothesis =>
      obtain ⟨c, rest, dropped, cut⟩ := dropWhile_blanks blank valid
      have isFirst := spelled.first
      rw [dropped] at isFirst
      obtain ⟨lexeme, after, more, lexed, spelledAfter, rfl⟩ := isFirst
      rw [lexLexeme_complete cut valid ends] at lexed
      obtain ⟨isLexeme, rfl⟩ := Prod.mk.inj lexed
      rw [Option.some.inj isLexeme, hypothesis spelledAfter]

section Tokenize

variable {Number : Type} [Literals Number]

/-- Blanks in front of a lexeme are skipped. -/
theorem tokenize_blank {gap : List Char} (blank : ∀ c ∈ gap, isSpace c) (text : List Char) :
    (tokenize (gap ++ text) : List (Token Number)) = tokenize text := by
  induction gap with
  | nil => rfl
  | cons c gap hypothesis =>
      rw [List.cons_append, tokenize, if_pos (blank c List.mem_cons_self)]
      exact hypothesis fun other member => blank other (List.mem_cons_of_mem c member)

/-- A lexeme at the start of a text is the first token. -/
theorem tokenize_lexeme {lexeme : Lexeme} {text : List Char} (valid : lexeme.Valid)
    (ends : lexeme.EndsBefore text.head?) :
    (tokenize (lexeme.chars ++ text) : List (Token Number)) = lexeme.token :: tokenize text := by
  obtain ⟨c, rest, chars, notBlank⟩ := valid.starts
  have lexed : lexLexeme c (rest ++ text) = (some lexeme, text) :=
    lexLexeme_complete (by rw [chars]; rfl) valid ends
  rw [chars, List.cons_append, tokenize, if_neg (by rw [notBlank]; nofun), lexed]
  rfl

/-- The tokens of a text are those of its lexemes. -/
theorem tokenize_spells {text : List Char} {lexemes : List Lexeme} (spells : Spells text lexemes) :
    (tokenize text : List (Token Number)) = lexemes.map Lexeme.token := by
  induction spells with
  | @done gap blank =>
      have blanks := @tokenize_blank Number _ gap blank []
      rw [List.append_nil] at blanks
      rw [blanks, tokenize]
      rfl
  | next blank valid ends _ hypothesis =>
      rw [tokenize_blank blank, tokenize_lexeme valid ends, hypothesis, List.map_cons]

/-- A text whose tokens are valid is its lexemes. -/
theorem spells_of_tokenize {text : List Char}
    (valid : .invalid ∉ (tokenize text : List (Token Number))) :
    ∃ lexemes, Spells text lexemes := by
  induction text using tokenize.induct with
  | case1 => exact ⟨[], .done nofun⟩
  | case2 c rest isBlank hypothesis =>
      rw [tokenize, if_pos isBlank] at valid
      obtain ⟨lexemes, spells⟩ := hypothesis valid
      exact ⟨lexemes, spells.blank isBlank⟩
  | case3 c rest notBlank hypothesis =>
      rw [tokenize, if_neg notBlank] at valid
      obtain ⟨first, others⟩ := List.ne_and_not_mem_of_not_mem_cons valid
      obtain ⟨lexemes, spells⟩ := hypothesis others
      rcases lexed : lexLexeme c rest with ⟨_ | lexeme, after⟩
      · rw [lexed] at first
        exact absurd rfl first
      · rw [lexed] at spells
        obtain ⟨cut, isValid, ends⟩ := lexLexeme_sound lexed
        rw [cut]
        exact ⟨_, @Spells.next [] _ _ _ nofun isValid ends spells⟩

end Tokenize

end Gemini.English.IType
