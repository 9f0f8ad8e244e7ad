import Gemini.Basic.Names
import Gemini.Data.Checked

/-!
# The lexer of expressions

`tokenizeExpression` cuts a text into tokens. A `Lexeme` is a token as it is written, before its
literal is read; `lexLexeme_eq_ok` says exactly when the lexer takes a lexeme from the front of a
text. A text `Spells` lexemes when it is the lexemes with blanks between them, and no lexeme goes on
into the next one; `tokenizeFrom_spells` gives the tokens of such a text, and
`spells_of_tokenizeFrom` says that there are no others.

Of the ranges of the tokens only one thing is ever asked: whether a `<` directly follows an
identifier. The type of the token keeps it. The token `End` is the end of the list.
-/

namespace Gemini.Basic

open Gemini.VM (Doubles isSpace isSpace_of_isAlphanum intMax)
open Gemini.Data (bind_eq_ok)

variable {Double : Type}

/-- The kinds of tokens, with the values of literals. -/
inductive ExprTokenType (Double : Type) where
  | intLiteral (value : Int)
  | floatLiteral (value : Double)
  | stringLiteral (value : String)
  | identifier
  | plus
  | minus
  | star
  | slash
  | eq
  | ne
  /-- `adjacent` when it directly follows an identifier. -/
  | lt (adjacent : Bool)
  | le
  | gt
  | ge
  | lParen
  | rParen
  | comma
deriving DecidableEq

/-- A token and the text that it is read from. -/
structure ExprToken (Double : Type) where
  type : ExprTokenType Double
  lexeme : List Char
deriving DecidableEq

/-! ## Lexemes -/

/-- The operators and the punctuation of expressions. -/
inductive Symbol where
  | plus
  | minus
  | star
  | slash
  | eq
  | ne
  | lt
  | le
  | gt
  | ge
  | lParen
  | rParen
  | comma
deriving DecidableEq

/-- How a symbol is written. -/
def Symbol.chars : Symbol → List Char
  | .plus => ['+']
  | .minus => ['-']
  | .star => ['*']
  | .slash => ['/']
  | .eq => ['=']
  | .ne => ['<', '>']
  | .lt => ['<']
  | .le => ['<', '=']
  | .gt => ['>']
  | .ge => ['>', '=']
  | .lParen => ['(']
  | .rParen => [')']
  | .comma => [',']

/-- The token of a symbol. -/
def Symbol.type (adjacent : Bool) : Symbol → ExprTokenType Double
  | .plus => .plus
  | .minus => .minus
  | .star => .star
  | .slash => .slash
  | .eq => .eq
  | .ne => .ne
  | .lt => .lt adjacent
  | .le => .le
  | .gt => .gt
  | .ge => .ge
  | .lParen => .lParen
  | .rParen => .rParen
  | .comma => .comma

/-- The exponent of a number. -/
structure Exponent where
  letter : Char
  sign : Option Char
  digits : List Char
deriving DecidableEq

/-- How an exponent is written. -/
def Exponent.chars (exponent : Exponent) : List Char :=
  exponent.letter :: exponent.sign.toList ++ exponent.digits

/-- A numeral. Its fraction is what follows the point. -/
structure Numeral where
  whole : List Char
  fraction : Option (List Char) := none
  exponent : Option Exponent := none
deriving DecidableEq

namespace Numeral

/-- How a fraction is written; without one nothing is. -/
def fractionChars : Option (List Char) → List Char
  | none => []
  | some digits => '.' :: digits

/-- How the exponent of a numeral is written, if it has one. -/
def exponentChars : Option Exponent → List Char
  | none => []
  | some exponent => exponent.chars

/-- How a numeral is written. -/
def chars (numeral : Numeral) : List Char :=
  numeral.whole ++ (fractionChars numeral.fraction ++ exponentChars numeral.exponent)

/-- A numeral with a fraction or an exponent is a floating point number. -/
def isFloat (numeral : Numeral) : Bool := numeral.fraction.isSome || numeral.exponent.isSome

end Numeral

/-- A token as it is written. -/
inductive Lexeme where
  | string (content : List Char)
  | number (numeral : Numeral)
  /-- A system variable, without its `@`. -/
  | system (word : List Char)
  | name (body : List Char) (suffix : Option Char)
  | symbol (mark : Symbol)
deriving DecidableEq

namespace Lexeme

/-- How a lexeme is written. -/
def chars : Lexeme → List Char
  | .string content => '"' :: (content ++ ['"'])
  | .number numeral => numeral.chars
  | .system word => '@' :: word
  | .name body suffix => body ++ suffix.toList
  | .symbol mark => mark.chars

/-- Whether the token is an identifier. -/
def isName : Lexeme → Bool
  | .system _ => true
  | .name _ _ => true
  | _ => false

end Lexeme

/-! ## Scanning -/

/-- The digits behind a point, and what follows them. -/
def scanFraction : List Char → Option (List Char) × List Char
  | '.' :: rest => (some (rest.takeWhile Char.isDigit), rest.dropWhile Char.isDigit)
  | rest => (none, rest)

/-- One character that may be there. -/
def scanMark (isMark : Char → Bool) : List Char → Option Char × List Char
  | [] => (none, [])
  | c :: rest => if isMark c then (some c, rest) else (none, c :: rest)

/-- The signs of an exponent. -/
def isSign (c : Char) : Bool := c = '+' || c = '-'

/-- The suffixes of names. -/
def isSuffix (c : Char) : Bool := c = '$' || c = '%'

/-- The letters that start an exponent. -/
def isExponentLetter (c : Char) : Bool := c = 'E' || c = 'e'

/-- The exponent at the start of a text; it needs digits. -/
def scanExponent : List Char → Except String (Option Exponent × List Char)
  | [] => .ok (none, [])
  | letter :: rest =>
      if isExponentLetter letter then
        let (sign, unsigned) := scanMark isSign rest
        let digits := unsigned.takeWhile Char.isDigit
        if digits = [] then .error "Invalid float literal"
        else .ok (some { letter, sign, digits }, unsigned.dropWhile Char.isDigit)
      else .ok (none, letter :: rest)

/-- A number, part by part, and what follows it. -/
def scanNumeral (text : List Char) : Except String (Numeral × List Char) := do
  let whole := text.takeWhile Char.isDigit
  let (fraction, afterFraction) := scanFraction (text.dropWhile Char.isDigit)
  let (exponent, after) ← scanExponent afterFraction
  return ({ whole, fraction, exponent }, after)

/-- A symbol. `<>` directly after an identifier is two symbols. -/
def scanSymbol (adjacent : Bool) : Char → List Char → Except String (Symbol × List Char)
  | '<', '=' :: rest => .ok (.le, rest)
  | '>', '=' :: rest => .ok (.ge, rest)
  | '<', '>' :: rest => if adjacent then .ok (.lt, '>' :: rest) else .ok (.ne, rest)
  | '+', rest => .ok (.plus, rest)
  | '-', rest => .ok (.minus, rest)
  | '*', rest => .ok (.star, rest)
  | '/', rest => .ok (.slash, rest)
  | '=', rest => .ok (.eq, rest)
  | '<', rest => .ok (.lt, rest)
  | '>', rest => .ok (.gt, rest)
  | '(', rest => .ok (.lParen, rest)
  | ')', rest => .ok (.rParen, rest)
  | ',', rest => .ok (.comma, rest)
  | c, _ => .error ("Unexpected token '" ++ String.ofList [c] ++ "'")

/-- The lexeme at the front of a text that starts with a character other than a blank. -/
def lexLexeme (adjacent : Bool) (c : Char) (rest : List Char) :
    Except String (Lexeme × List Char) :=
  if c = '"' then
    match rest.dropWhile (· ≠ '"') with
    | [] => .error "Unterminated string literal"
    | _ :: after => .ok (.string (rest.takeWhile (· ≠ '"')), after)
  else if c.isDigit then do
    let (numeral, after) ← scanNumeral (c :: rest)
    return (.number numeral, after)
  else if c = '@' then
    if rest.head?.any Char.isAlpha then
      .ok (.system (rest.takeWhile Char.isAlphanum), rest.dropWhile Char.isAlphanum)
    else .error "Invalid identifier after '@'"
  else if c.isAlpha then
    let (suffix, after) := scanMark isSuffix ((c :: rest).dropWhile Char.isAlphanum)
    .ok (.name ((c :: rest).takeWhile Char.isAlphanum) suffix, after)
  else do
    let (mark, after) ← scanSymbol adjacent c rest
    return (.symbol mark, after)

/-! ## Tokens -/

/-- `parseIntLiteral` on digits. -/
def parseIntLiteral (literal : List Char) : Option Int :=
  let value := Nat.ofDigitChars 10 literal 0
  if (value : Int) ≤ intMax then some value else none

/-- The number that `strtod` finds in the whole of a literal. -/
def parseFloatLiteral [Doubles Double] (literal : List Char) : Option Double :=
  match Doubles.strtod literal with
  | none => none
  | some found => if found.rangeError || found.rest ≠ [] then none else some found.number

/-- The token of a lexeme. -/
def classify [Doubles Double] (adjacent : Bool) (lexeme : Lexeme) :
    Except String (ExprToken Double) :=
  match lexeme with
  | .string content => .ok ⟨.stringLiteral (String.ofList content), lexeme.chars⟩
  | .number numeral =>
      if numeral.isFloat then
        match parseFloatLiteral numeral.chars with
        | some value => .ok ⟨.floatLiteral value, lexeme.chars⟩
        | none => .error ("Invalid float literal '" ++ String.ofList numeral.chars ++ "'")
      else
        match parseIntLiteral numeral.chars with
        | some value => .ok ⟨.intLiteral value, lexeme.chars⟩
        | none => .error ("Invalid integer literal '" ++ String.ofList numeral.chars ++ "'")
  | .system word =>
      if isReadonlySessionSystemVariable (String.ofList ('@' :: word)) then
        .ok ⟨.identifier, lexeme.chars⟩
      else .error ("Unknown system variable '" ++ String.ofList ('@' :: word) ++ "'")
  | .name _ _ => .ok ⟨.identifier, lexeme.chars⟩
  | .symbol mark => .ok ⟨mark.type adjacent, lexeme.chars⟩

/-! ## What a lexeme is -/

/-- The exponents that are scanned. -/
def Exponent.Valid (exponent : Exponent) : Prop :=
  isExponentLetter exponent.letter ∧ (∀ c ∈ exponent.sign, isSign c) ∧ exponent.digits ≠ [] ∧
    ∀ c ∈ exponent.digits, c.isDigit

/-- The numerals that are scanned. -/
structure Numeral.Valid (numeral : Numeral) : Prop where
  some : numeral.whole ≠ []
  whole : ∀ c ∈ numeral.whole, c.isDigit
  fraction : ∀ digits ∈ numeral.fraction, ∀ c ∈ digits, c.isDigit
  exponent : ∀ exponent ∈ numeral.exponent, exponent.Valid

/-- The lexemes of the language. -/
def Lexeme.Valid : Lexeme → Prop
  | .string content => '"' ∉ content
  | .number numeral => numeral.Valid
  | .system word => word.head?.any Char.isAlpha ∧ ∀ c ∈ word, c.isAlphanum
  | .name body suffix =>
      body.head?.any Char.isAlpha ∧ (∀ c ∈ body, c.isAlphanum) ∧ ∀ c ∈ suffix, isSuffix c
  | .symbol _ => True

/-- The lexeme does not go on with the next character. Directly after an identifier `<` and `>` do
not merge. -/
def Lexeme.EndsBefore (adjacent : Bool) (next : Option Char) : Lexeme → Prop
  | .string _ => True
  | .number numeral => ∀ c ∈ next, c.isDigit = false ∧
      (numeral.exponent = none → isExponentLetter c = false) ∧ (numeral.isFloat = false → c ≠ '.')
  | .system _ => ∀ c ∈ next, c.isAlphanum = false
  | .name _ suffix => suffix = none → ∀ c ∈ next, c.isAlphanum = false ∧ isSuffix c = false
  | .symbol .lt => ∀ c ∈ next, c ≠ '=' ∧ (c = '>' → adjacent = true)
  | .symbol .gt => ∀ c ∈ next, c ≠ '='
  | .symbol .ne => adjacent = false
  | .symbol _ => True

/-! ## What the scanners take -/

/-- A text is cut where its characters stop having a property. -/
structure Scans (keeps : Char → Bool) (text front back : List Char) : Prop where
  cut : text = front ++ back
  kept : ∀ c ∈ front, keeps c
  stops : ∀ c ∈ back.head?, keeps c = false

/-- A scan is the longest run of characters that it keeps. -/
theorem scans_iff {keeps : Char → Bool} {text front back : List Char} :
    Scans keeps text front back ↔ text.takeWhile keeps = front ∧ text.dropWhile keeps = back := by
  constructor
  · rintro ⟨rfl, kept, stops⟩
    rw [List.takeWhile_append_of_pos kept, List.dropWhile_append_of_pos kept]
    cases back with
    | nil => simp
    | cons c rest => simp [stops c rfl]
  · rintro ⟨rfl, rfl⟩
    refine ⟨List.takeWhile_append_dropWhile.symm, fun c member => List.mem_takeWhile_imp member, ?_⟩
    intro c first
    have stops := List.head?_dropWhile_not keeps text
    rw [first] at stops
    simpa using stops

theorem scans_self (keeps : Char → Bool) (text : List Char) :
    Scans keeps text (text.takeWhile keeps) (text.dropWhile keeps) :=
  scans_iff.mpr ⟨rfl, rfl⟩

/-- What a fraction is, and where it ends. -/
theorem scanFraction_eq {text after : List Char} {fraction : Option (List Char)} :
    scanFraction text = (fraction, after) ↔
      text = Numeral.fractionChars fraction ++ after ∧
        (∀ digits ∈ fraction, ∀ c ∈ digits, c.isDigit) ∧
        ∀ c ∈ after.head?, if fraction = none then c ≠ '.' else c.isDigit = false := by
  unfold scanFraction
  split
  · next rest =>
      constructor
      · rintro ⟨⟩
        have scans := scans_self Char.isDigit rest
        refine ⟨?_, ?_, ?_⟩
        · exact congrArg ('.' :: ·) scans.cut
        · rintro _ ⟨⟩
          exact scans.kept
        · simpa using scans.stops
      · rintro ⟨cut, kept, stops⟩
        cases fraction with
        | none =>
            simp only [Numeral.fractionChars, List.nil_append] at cut
            subst cut
            exact absurd rfl (stops '.' rfl)
        | some digits =>
            have scans : Scans Char.isDigit rest digits after :=
              ⟨(List.cons.inj cut).2, kept digits rfl, by simpa using stops⟩
            obtain ⟨rfl, rfl⟩ := scans_iff.mp scans
            rfl
  · next other =>
      constructor
      · rintro ⟨⟩
        refine ⟨rfl, nofun, fun c first => ?_⟩
        rw [if_pos rfl]
        rintro rfl
        cases text with
        | nil => cases first
        | cons head rest =>
            cases first
            exact other rest rfl
      · rintro ⟨cut, kept, stops⟩
        cases fraction with
        | none =>
            subst cut
            rfl
        | some digits => exact absurd cut (other _)

/-- What an optional mark is, and where it ends. -/
theorem scanMark_eq {isMark : Char → Bool} {text after : List Char} {mark : Option Char} :
    scanMark isMark text = (mark, after) ↔
      text = mark.toList ++ after ∧ (∀ c ∈ mark, isMark c) ∧
        (mark = none → ∀ c ∈ after.head?, isMark c = false) := by
  cases text with
  | nil =>
      cases mark with
      | none =>
          constructor
          · rintro ⟨⟩
            exact ⟨rfl, nofun, fun _ => nofun⟩
          · rintro ⟨rfl, -⟩
            rfl
      | some c => exact iff_of_false nofun nofun
  | cons c rest =>
      by_cases marked : isMark c
      · rw [scanMark, if_pos marked]
        constructor
        · rintro ⟨⟩
          exact ⟨rfl, fun _ is => Option.some.inj is ▸ marked, nofun⟩
        · rintro ⟨cut, -, plain⟩
          cases mark with
          | none =>
              obtain rfl : c :: rest = after := cut
              rw [plain rfl c rfl] at marked
              cases marked
          | some mark =>
              obtain ⟨rfl, rfl⟩ := List.cons.inj cut
              rfl
      · rw [scanMark, if_neg marked]
        constructor
        · rintro ⟨⟩
          exact ⟨rfl, nofun, fun _ _ is => Option.some.inj is ▸ Bool.eq_false_of_not_eq_true marked⟩
        · rintro ⟨cut, marks, -⟩
          cases mark with
          | none =>
              obtain rfl : c :: rest = after := cut
              rfl
          | some mark =>
              obtain ⟨rfl, -⟩ := List.cons.inj cut
              exact absurd (marks c rfl) marked

theorem isDigit_of_isExponentLetter {c : Char} (letter : isExponentLetter c) :
    c.isDigit = false := by
  simp only [isExponentLetter, Bool.or_eq_true, decide_eq_true_eq] at letter
  rcases letter with rfl | rfl <;> rfl

theorem isDigit_of_isSign {c : Char} (sign : isSign c) : c.isDigit = false := by
  simp only [isSign, Bool.or_eq_true, decide_eq_true_eq] at sign
  rcases sign with rfl | rfl <;> rfl

/-- What an exponent is, and where it ends. -/
theorem scanExponent_eq_ok {text after : List Char} {exponent : Option Exponent} :
    scanExponent text = .ok (exponent, after) ↔
      text = Numeral.exponentChars exponent ++ after ∧ (∀ part ∈ exponent, part.Valid) ∧
        ∀ c ∈ after.head?, if exponent = none then isExponentLetter c = false
          else c.isDigit = false := by
  cases text with
  | nil =>
      cases exponent with
      | none =>
          constructor
          · rintro ⟨⟩
            exact ⟨rfl, nofun, nofun⟩
          · rintro ⟨rfl, -⟩
            rfl
      | some exponent => exact iff_of_false nofun nofun
  | cons letter rest =>
      by_cases isLetter : isExponentLetter letter
      · rcases scanned : scanMark isSign rest with ⟨sign, unsigned⟩
        obtain ⟨rfl, signs, unmarked⟩ := scanMark_eq.mp scanned
        have scans := scans_self Char.isDigit unsigned
        rw [scanExponent, if_pos isLetter, scanned]
        dsimp only
        constructor
        · intro done
          split at done
          · cases done
          · next some =>
              cases done
              refine ⟨?_, fun _ is => Option.some.inj is ▸ ⟨isLetter, signs, some, scans.kept⟩, ?_⟩
              · simp only [Numeral.exponentChars, Exponent.chars, List.cons_append,
                  List.append_assoc]
                rw [← scans.cut]
              · simpa using scans.stops
        · rintro ⟨cut, valid, stops⟩
          cases exponent with
          | none =>
              obtain rfl : letter :: (sign.toList ++ unsigned) = after := cut
              have plain := stops letter rfl
              rw [if_pos rfl, isLetter] at plain
              cases plain
          | some exponent =>
              obtain ⟨partLetter, partSign, digits⟩ := exponent
              obtain ⟨-, partSigns, some, kept⟩ := valid _ rfl
              dsimp only at partSigns some kept
              simp only [Numeral.exponentChars, Exponent.chars, List.cons_append,
                List.append_assoc] at cut
              obtain ⟨rfl, sameRest⟩ := List.cons.inj cut
              have again : scanMark isSign (sign.toList ++ unsigned) =
                  (partSign, digits ++ after) := by
                refine scanMark_eq.mpr ⟨sameRest, partSigns, fun _ c first => ?_⟩
                obtain ⟨digit, digits, rfl⟩ := List.exists_cons_of_ne_nil some
                obtain rfl : digit = c := Option.some.inj first
                have isDigit := kept digit List.mem_cons_self
                by_contra isSigned
                rw [isDigit_of_isSign (Bool.eq_true_of_not_eq_false isSigned)] at isDigit
                cases isDigit
              rw [scanned] at again
              cases again
              have ofDigits : Scans Char.isDigit (digits ++ after) digits after :=
                ⟨rfl, kept, by simpa using stops⟩
              obtain ⟨isDigits, isAfter⟩ := scans_iff.mp ofDigits
              rw [isDigits, isAfter, if_neg some]
      · rw [scanExponent, if_neg isLetter]
        constructor
        · rintro ⟨⟩
          refine ⟨rfl, nofun, fun c first => ?_⟩
          obtain rfl : letter = c := Option.some.inj first
          rw [if_pos rfl]
          exact Bool.eq_false_of_not_eq_true isLetter
        · rintro ⟨cut, valid, -⟩
          cases exponent with
          | none =>
              obtain rfl : letter :: rest = after := cut
              rfl
          | some exponent =>
              obtain ⟨rfl, -⟩ := List.cons.inj cut
              exact absurd (valid exponent rfl).1 isLetter

/-- The first character of an optional exponent is its letter, or what follows it. -/
theorem head?_exponentChars {exponent : Option Exponent} {after : List Char} {c : Char}
    (first : c ∈ (Numeral.exponentChars exponent ++ after).head?) :
    exponent = none ∧ c ∈ after.head? ∨ ∃ part ∈ exponent, c = part.letter := by
  cases exponent with
  | none => exact .inl ⟨rfl, first⟩
  | some part => exact .inr ⟨part, rfl, (Option.some.inj first).symm⟩

/-- A numeral is scanned as its three parts, one after the other. -/
theorem scanNumeral_eq_ok_iff_scans {text after : List Char} {numeral : Numeral} :
    scanNumeral text = .ok (numeral, after) ↔
      ∃ afterWhole afterFraction, Scans Char.isDigit text numeral.whole afterWhole ∧
        scanFraction afterWhole = (numeral.fraction, afterFraction) ∧
        scanExponent afterFraction = .ok (numeral.exponent, after) := by
  obtain ⟨whole, fraction, exponent⟩ := numeral
  unfold scanNumeral
  rcases fractions : scanFraction (text.dropWhile Char.isDigit) with ⟨isFraction, afterFraction⟩
  dsimp only
  constructor
  · intro done
    rcases exponents : scanExponent afterFraction with error | ⟨isExponent, isAfter⟩
    · rw [exponents] at done
      cases done
    · rw [exponents] at done
      cases done
      exact ⟨_, _, scans_self Char.isDigit text, fractions, exponents⟩
  · rintro ⟨afterWhole, isAfter, scans, isFraction, isExponent⟩
    obtain ⟨rfl, rfl⟩ := scans_iff.mp scans
    rw [fractions] at isFraction
    cases isFraction
    rw [isExponent]
    rfl

/-- What a numeral is, and where it ends. -/
theorem scanNumeral_eq_ok {text after : List Char} {numeral : Numeral} :
    scanNumeral text = .ok (numeral, after) ↔
      text = numeral.chars ++ after ∧ (∀ c ∈ numeral.whole, c.isDigit) ∧
        (∀ digits ∈ numeral.fraction, ∀ c ∈ digits, c.isDigit) ∧
        (∀ exponent ∈ numeral.exponent, exponent.Valid) ∧
        (Lexeme.number numeral).EndsBefore false after.head? := by
  rw [scanNumeral_eq_ok_iff_scans]
  obtain ⟨whole, fraction, exponent⟩ := numeral
  simp only [scanFraction_eq, scanExponent_eq_ok, Numeral.chars, Lexeme.EndsBefore, Numeral.isFloat]
  constructor
  · rintro ⟨afterWhole, afterFraction, ⟨rfl, wholeDigits, stops⟩, ⟨rfl, digits, afterDigits⟩,
      rfl, valid, afterExponent⟩
    refine ⟨by simp, wholeDigits, digits, valid, fun c first => ⟨?_, ?_, ?_⟩⟩
    · cases exponent with
      | some part => simpa using afterExponent c first
      | none =>
          cases fraction with
          | some part => simpa using afterDigits c first
          | none => exact stops c first
    · rintro rfl
      simpa using afterExponent c first
    · intro whole
      obtain ⟨noFraction, noExponent⟩ := Bool.or_eq_false_iff.mp whole
      rw [Option.isSome_eq_false_iff, Option.isNone_iff_eq_none] at noFraction noExponent
      subst noFraction noExponent
      simpa using afterDigits c first
  · rintro ⟨rfl, wholeDigits, digits, valid, ends⟩
    refine ⟨Numeral.fractionChars fraction ++ (Numeral.exponentChars exponent ++ after),
      Numeral.exponentChars exponent ++ after, ⟨by simp, wholeDigits, ?_⟩, ⟨rfl, digits, ?_⟩, rfl,
      valid, ?_⟩
    · intro c first
      cases fraction with
      | some part =>
          obtain rfl : '.' = c := Option.some.inj first
          rfl
      | none =>
          rcases head?_exponentChars first with ⟨rfl, first⟩ | ⟨part, isPart, rfl⟩
          · exact (ends c first).1
          · exact isDigit_of_isExponentLetter (valid part isPart).1
    · intro c first
      rcases head?_exponentChars first with ⟨rfl, first⟩ | ⟨part, isPart, rfl⟩
      · split
        · next none => exact (ends c first).2.2 (by simp [none])
        · exact (ends c first).1
      · have isLetter := (valid part isPart).1
        split
        · intro isPoint
          rw [isPoint] at isLetter
          cases isLetter
        · exact isDigit_of_isExponentLetter isLetter
    · intro c first
      split
      · next none => exact (ends c first).2.1 none
      · exact (ends c first).1

/-- What a symbol is, and where it ends. -/
theorem scanSymbol_eq_ok {adjacent : Bool} {c : Char} {rest after : List Char} {mark : Symbol} :
    scanSymbol adjacent c rest = .ok (mark, after) ↔
      c :: rest = mark.chars ++ after ∧ (Lexeme.symbol mark).EndsBefore adjacent after.head? := by
  constructor
  · intro done
    unfold scanSymbol at done
    split at done
    case h_3 rest =>
      cases adjacent with
      | true =>
          cases done
          refine ⟨rfl, fun c first => ?_⟩
          obtain rfl : '>' = c := Option.some.inj first
          exact ⟨by decide, fun _ => rfl⟩
      | false =>
          cases done
          exact ⟨rfl, rfl⟩
    case h_9 rest notLe notNe =>
      cases done
      refine ⟨rfl, fun c first => ?_⟩
      obtain ⟨more, rfl⟩ := List.head?_eq_some_iff.mp first
      exact ⟨fun isEq => notLe more (isEq ▸ rfl), fun isGt => absurd (isGt ▸ rfl) (notNe more)⟩
    case h_10 rest notGe =>
      cases done
      refine ⟨rfl, fun c first => ?_⟩
      obtain ⟨more, rfl⟩ := List.head?_eq_some_iff.mp first
      exact fun isEq => notGe more (isEq ▸ rfl)
    all_goals
      cases done
      try exact ⟨rfl, trivial⟩
  · rintro ⟨cut, ends⟩
    cases mark with
    | lt =>
        obtain ⟨rfl, rfl⟩ := List.cons.inj cut
        unfold scanSymbol
        split
        · exact absurd rfl (ends '=' rfl).1
        · contradiction
        · rw [if_pos ((ends '>' rfl).2 rfl)]
        all_goals first | rfl | contradiction
    | gt =>
        obtain ⟨rfl, rfl⟩ := List.cons.inj cut
        unfold scanSymbol
        split
        case h_2 => exact absurd rfl (ends '=' rfl)
        all_goals first | rfl | contradiction
    | ne =>
        obtain ⟨rfl, rfl⟩ := List.cons.inj cut
        obtain rfl : adjacent = false := ends
        rfl
    | _ =>
        cases cut
        rfl

/-- A symbol starts with none of the characters that start other lexemes. -/
theorem symbol_start {mark : Symbol} {c : Char} {rest after : List Char}
    (cut : c :: rest = mark.chars ++ after) :
    c ≠ '"' ∧ c.isDigit = false ∧ c ≠ '@' ∧ c.isAlpha = false := by
  cases mark <;> (obtain ⟨rfl, -⟩ := List.cons.inj cut; decide)

/-- A letter starts neither a string, nor a number, nor a system variable. -/
theorem isAlpha_start {c : Char} (alpha : c.isAlpha) :
    c ≠ '"' ∧ c.isDigit = false ∧ c ≠ '@' ∧ c.isAlphanum := by
  refine ⟨?_, ?_, ?_, by simp [Char.isAlphanum, alpha]⟩
  · rintro rfl
    cases alpha
  · rw [VM.isAlpha_iff_toNat] at alpha
    rw [Bool.eq_false_iff, ne_eq, Char.isDigit_iff_toNat]
    rintro ⟨-, last⟩
    have nine : '9'.toNat = 57 := rfl
    omega
  · rintro rfl
    cases alpha

/-- A lexeme is a valid one, cut off where it ends. -/
theorem lexLexeme_sound {adjacent : Bool} {c : Char} {rest after : List Char} {lexeme : Lexeme}
    (done : lexLexeme adjacent c rest = .ok (lexeme, after)) :
    c :: rest = lexeme.chars ++ after ∧ lexeme.Valid ∧
      lexeme.EndsBefore adjacent after.head? := by
  unfold lexLexeme at done
  split at done
  · next isQuote =>
      subst isQuote
      have scans := scans_self (· ≠ '"') rest
      split at done
      · cases done
      · next quote after closed =>
          cases done
          rw [closed] at scans
          obtain rfl : quote = '"' := by simpa using scans.stops quote rfl
          refine ⟨?_, fun member => ?_, trivial⟩
          · rw [Lexeme.chars, List.cons_append, List.append_assoc]
            exact congrArg ('"' :: ·) scans.cut
          · simpa using scans.kept '"' member
  · split at done
    · next isDigit =>
        rcases scanned : scanNumeral (c :: rest) with error | ⟨numeral, isAfter⟩
        · rw [scanned] at done
          cases done
        · rw [scanned] at done
          cases done
          obtain ⟨cut, whole, fraction, exponent, ends⟩ := scanNumeral_eq_ok.mp scanned
          refine ⟨cut, ⟨?_, whole, fraction, exponent⟩, ends⟩
          obtain ⟨_, _, scans, _⟩ := scanNumeral_eq_ok_iff_scans.mp scanned
          intro none
          rw [none] at scans
          have stops := scans.stops c (congrArg List.head? scans.cut.symm)
          rw [isDigit] at stops
          cases stops
    · split at done
      · next isAt =>
          subst isAt
          split at done
          · next isAlpha =>
              cases done
              have scans := scans_self Char.isAlphanum rest
              refine ⟨congrArg ('@' :: ·) scans.cut, ⟨?_, scans.kept⟩, scans.stops⟩
              cases rest with
              | nil => cases isAlpha
              | cons c rest =>
                  have alpha : c.isAlpha := by simpa using isAlpha
                  simpa [(isAlpha_start alpha).2.2.2] using alpha
          · cases done
      · split at done
        · next isAlpha =>
            have scans := scans_self Char.isAlphanum (c :: rest)
            rcases scanned : scanMark isSuffix ((c :: rest).dropWhile Char.isAlphanum)
              with ⟨suffix, isAfter⟩
            rw [scanned] at done
            cases done
            obtain ⟨cut, suffixes, unmarked⟩ := scanMark_eq.mp scanned
            refine ⟨?_, ⟨?_, scans.kept, suffixes⟩, ?_⟩
            · rw [Lexeme.chars, List.append_assoc, ← cut]
              exact scans.cut
            · simpa [(isAlpha_start isAlpha).2.2.2] using isAlpha
            · rintro rfl c first
              refine ⟨scans.stops c ?_, unmarked rfl c first⟩
              rw [cut]
              exact first
        · rcases scanned : scanSymbol adjacent c rest with error | ⟨mark, isAfter⟩
          · rw [scanned] at done
            cases done
          · rw [scanned] at done
            cases done
            obtain ⟨cut, ends⟩ := scanSymbol_eq_ok.mp scanned
            exact ⟨cut, trivial, ends⟩

/-- A valid lexeme is cut off where it ends. -/
theorem lexLexeme_complete {adjacent : Bool} {c : Char} {rest after : List Char} {lexeme : Lexeme}
    (cut : c :: rest = lexeme.chars ++ after) (valid : lexeme.Valid)
    (ends : lexeme.EndsBefore adjacent after.head?) :
    lexLexeme adjacent c rest = .ok (lexeme, after) := by
  cases lexeme with
  | string content =>
      rw [Lexeme.chars, List.cons_append, List.append_assoc] at cut
      obtain ⟨rfl, rfl⟩ := List.cons.inj cut
      have scans : Scans (· ≠ '"') (content ++ (['"'] ++ after)) content (['"'] ++ after) := by
        refine ⟨rfl, fun c member => ?_, fun c first => ?_⟩
        · rw [decide_eq_true_iff]
          rintro rfl
          exact valid member
        · obtain rfl : '"' = c := Option.some.inj first
          rfl
      obtain ⟨isContent, isRest⟩ := scans_iff.mp scans
      rw [lexLexeme, if_pos rfl, isContent, isRest]
      rfl
  | number numeral =>
      have isDigit : c.isDigit := by
        obtain ⟨digit, digits, whole⟩ := List.exists_cons_of_ne_nil valid.some
        rw [Lexeme.chars, Numeral.chars, whole] at cut
        obtain ⟨rfl, -⟩ := List.cons.inj cut
        exact valid.whole c (whole ▸ List.mem_cons_self)
      have notQuote : c ≠ '"' := by
        rintro rfl
        cases isDigit
      have scanned := scanNumeral_eq_ok.mpr
        ⟨cut, valid.whole, valid.fraction, valid.exponent, ends⟩
      rw [lexLexeme, if_neg notQuote, if_pos isDigit, scanned]
      rfl
  | system word =>
      obtain ⟨rfl, isRest⟩ := List.cons.inj cut
      replace isRest : rest = word ++ after := isRest
      subst isRest
      obtain ⟨isAlpha, kept⟩ := valid
      have scans : Scans Char.isAlphanum (word ++ after) word after := ⟨rfl, kept, ends⟩
      obtain ⟨isWord, isAfter⟩ := scans_iff.mp scans
      have starts : (word ++ after).head?.any Char.isAlpha := by
        cases word with
        | nil => cases isAlpha
        | cons c word => exact isAlpha
      rw [lexLexeme, if_neg (by decide), if_neg (by decide), if_pos rfl, if_pos starts, isWord,
        isAfter]
  | name body suffix =>
      obtain ⟨isAlpha, kept, suffixes⟩ := valid
      have alpha : c.isAlpha := by
        cases body with
        | nil => cases isAlpha
        | cons first body =>
            obtain ⟨rfl, -⟩ := List.cons.inj cut
            simpa using isAlpha
      obtain ⟨notQuote, notDigit, notAt, -⟩ := isAlpha_start alpha
      rw [Lexeme.chars, List.append_assoc] at cut
      have scans : Scans Char.isAlphanum (c :: rest) body (suffix.toList ++ after) := by
        refine ⟨cut, kept, fun next first => ?_⟩
        cases suffix with
        | none => exact (ends rfl next first).1
        | some mark =>
            obtain rfl : mark = next := Option.some.inj first
            have isMark := suffixes mark rfl
            simp only [isSuffix, Bool.or_eq_true, decide_eq_true_eq] at isMark
            rcases isMark with rfl | rfl <;> rfl
      obtain ⟨isBody, isRest⟩ := scans_iff.mp scans
      have scanned : scanMark isSuffix (suffix.toList ++ after) = (suffix, after) :=
        scanMark_eq.mpr ⟨rfl, suffixes, fun none next first => (ends none next first).2⟩
      rw [lexLexeme, if_neg notQuote, if_neg (by simp [notDigit]), if_neg notAt, if_pos alpha,
        isBody, isRest, scanned]
  | symbol mark =>
      obtain ⟨notQuote, notDigit, notAt, notAlpha⟩ := symbol_start cut
      have scanned := scanSymbol_eq_ok.mpr ⟨cut, ends⟩
      rw [lexLexeme, if_neg notQuote, if_neg (by simp [notDigit]), if_neg notAt,
        if_neg (by simp [notAlpha]), scanned]
      rfl

/-- A valid lexeme starts with a character that is no blank. -/
theorem Lexeme.Valid.starts {lexeme : Lexeme} (valid : lexeme.Valid) :
    ∃ c rest, lexeme.chars = c :: rest ∧ isSpace c = false := by
  cases lexeme with
  | string content => exact ⟨_, _, rfl, rfl⟩
  | number numeral =>
      obtain ⟨digit, digits, whole⟩ := List.exists_cons_of_ne_nil (Numeral.Valid.some valid)
      refine ⟨digit, _, by rw [Lexeme.chars, Numeral.chars, whole]; rfl, ?_⟩
      exact isSpace_of_isAlphanum (by
        simp [Char.isAlphanum, Numeral.Valid.whole valid digit (whole ▸ List.mem_cons_self)])
  | system word => exact ⟨_, _, rfl, rfl⟩
  | name body suffix =>
      cases body with
      | nil => cases valid.1
      | cons c body => exact ⟨c, _, rfl, isSpace_of_isAlphanum (valid.2.1 c List.mem_cons_self)⟩
  | symbol mark => cases mark <;> exact ⟨_, _, rfl, rfl⟩

/-- A lexeme shortens the text. -/
theorem length_of_lexLexeme {adjacent : Bool} {c : Char} {rest after : List Char} {lexeme : Lexeme}
    (done : lexLexeme adjacent c rest = .ok (lexeme, after)) : after.length < (c :: rest).length := by
  obtain ⟨cut, valid, -⟩ := lexLexeme_sound done
  obtain ⟨first, others, chars, -⟩ := valid.starts
  rw [cut, chars, List.length_append, List.length_cons]
  omega

/-! ## Texts -/

/-- The loop of `tokenizeExpression`. `adjacent` when the last token is an identifier that ends
here. -/
def tokenizeFrom [Doubles Double] (adjacent : Bool) (text : List Char) :
    Except String (List (ExprToken Double)) :=
  match text with
  | [] => .ok []
  | c :: rest =>
      if isSpace c then tokenizeFrom false rest
      else
        match lexed : lexLexeme adjacent c rest with
        | .error error => .error error
        | .ok (lexeme, after) => do
            let token ← classify adjacent lexeme
            let tokens ← tokenizeFrom lexeme.isName after
            return token :: tokens
termination_by text.length
decreasing_by
  · simp
  · exact length_of_lexLexeme lexed

/-- `ExprLexer::tokenize`. -/
def tokenizeExpression [Doubles Double] (expressionText : String) :
    Except String (List (ExprToken Double)) :=
  tokenizeFrom false expressionText.toList

/-- A lexeme in a text, and whether it directly follows an identifier. -/
structure PlacedLexeme where
  direct : Bool
  lexeme : Lexeme

/-- The token of a lexeme in its place. -/
def PlacedLexeme.classify [Doubles Double] (placed : PlacedLexeme) :
    Except String (ExprToken Double) :=
  Basic.classify placed.direct placed.lexeme

/-- A text is its lexemes with blanks between them, and no lexeme goes on into the next one. -/
inductive Spells : Bool → List Char → List PlacedLexeme → Prop
  | done {adjacent : Bool} {gap : List Char} (blank : ∀ c ∈ gap, isSpace c) :
      Spells adjacent gap []
  | next {adjacent : Bool} {gap text : List Char} {lexeme : Lexeme} {lexemes : List PlacedLexeme}
      (blank : ∀ c ∈ gap, isSpace c) (valid : lexeme.Valid)
      (ends : lexeme.EndsBefore (adjacent && gap.isEmpty) text.head?)
      (rest : Spells lexeme.isName text lexemes) :
      Spells adjacent (gap ++ (lexeme.chars ++ text))
        ({ direct := adjacent && gap.isEmpty, lexeme } :: lexemes)

section Tokenize

variable [Doubles Double]

/-- Blanks in front of a lexeme are skipped. -/
theorem tokenizeFrom_blank {adjacent : Bool} {gap : List Char} (blank : ∀ c ∈ gap, isSpace c)
    (text : List Char) :
    (tokenizeFrom adjacent (gap ++ text) : Except String (List (ExprToken Double))) =
      tokenizeFrom (adjacent && gap.isEmpty) text := by
  induction gap generalizing adjacent with
  | nil => rw [List.isEmpty_nil, Bool.and_true]; rfl
  | cons c gap inductionHypothesis =>
      rw [List.cons_append, tokenizeFrom, if_pos (blank c List.mem_cons_self),
        inductionHypothesis fun other member => blank other (List.mem_cons_of_mem c member)]
      simp

/-- A lexeme at the start of a text is the first token. -/
theorem tokenizeFrom_lexeme {direct : Bool} {lexeme : Lexeme} {text : List Char}
    (valid : lexeme.Valid) (ends : lexeme.EndsBefore direct text.head?) :
    (tokenizeFrom direct (lexeme.chars ++ text) : Except String (List (ExprToken Double))) = do
      let token ← classify direct lexeme
      let tokens ← tokenizeFrom lexeme.isName text
      return token :: tokens := by
  obtain ⟨c, rest, chars, notBlank⟩ := valid.starts
  rw [chars, List.cons_append, tokenizeFrom, if_neg (by simp [notBlank])]
  have lexed : lexLexeme direct c (rest ++ text) = .ok (lexeme, text) :=
    lexLexeme_complete (by rw [chars]; rfl) valid ends
  split
  · next error failed =>
      rw [lexed] at failed
      cases failed
  · next other after done =>
      rw [lexed] at done
      cases done
      rfl

/-- The tokens of a text are those of its lexemes. -/
theorem tokenizeFrom_spells {adjacent : Bool} {text : List Char} {lexemes : List PlacedLexeme}
    (spells : Spells adjacent text lexemes) :
    (tokenizeFrom adjacent text : Except String (List (ExprToken Double))) =
      lexemes.mapM PlacedLexeme.classify := by
  induction spells with
  | @done adjacent gap blank =>
      have blanks := @tokenizeFrom_blank Double _ adjacent gap blank []
      rw [List.append_nil, tokenizeFrom] at blanks
      exact blanks
  | next blank valid ends _ inductionHypothesis =>
      rw [tokenizeFrom_blank blank, tokenizeFrom_lexeme valid ends, inductionHypothesis,
        List.mapM_cons]
      rfl

omit [Doubles Double] in
theorem Spells.blank {adjacent : Bool} {c : Char} {text : List Char} {lexemes : List PlacedLexeme}
    (isBlank : isSpace c) (spells : Spells false text lexemes) :
    Spells adjacent (c :: text) lexemes := by
  cases spells with
  | done blank => exact .done (List.forall_mem_cons.mpr ⟨isBlank, blank⟩)
  | @next _ gap _ _ _ blank valid ends rest =>
      have longer : ∀ other ∈ c :: gap, isSpace other :=
        List.forall_mem_cons.mpr ⟨isBlank, blank⟩
      have same : (adjacent && (c :: gap).isEmpty) = (false && gap.isEmpty) := by simp
      rw [← same] at ends ⊢
      exact .next longer valid ends rest

/-- A text that the lexer takes is its lexemes. -/
theorem spells_of_tokenizeFrom {adjacent : Bool} {text : List Char}
    {tokens : List (ExprToken Double)} (done : tokenizeFrom adjacent text = .ok tokens) :
    ∃ lexemes, Spells adjacent text lexemes ∧
      lexemes.mapM PlacedLexeme.classify = .ok tokens := by
  induction adjacent, text using tokenizeFrom.induct generalizing tokens with
  | case1 adjacent =>
      rw [tokenizeFrom] at done
      exact ⟨[], .done nofun, done⟩
  | case2 adjacent c rest isBlank inductionHypothesis =>
      rw [tokenizeFrom, if_pos isBlank] at done
      obtain ⟨lexemes, spells, classified⟩ := inductionHypothesis done
      exact ⟨lexemes, spells.blank isBlank, classified⟩
  | case3 adjacent c rest notBlank error lexed =>
      rw [tokenizeFrom, if_neg notBlank] at done
      split at done
      · cases done
      · next failed =>
          rw [lexed] at failed
          cases failed
  | case4 adjacent c rest notBlank lexeme after lexed inductionHypothesis =>
      obtain ⟨cut, valid, ends⟩ := lexLexeme_sound lexed
      rw [cut, tokenizeFrom_lexeme valid ends] at done
      obtain ⟨token, isToken, done⟩ := bind_eq_ok.mp done
      obtain ⟨others, isOthers, done⟩ := bind_eq_ok.mp done
      cases done
      obtain ⟨lexemes, spells, classified⟩ := inductionHypothesis isOthers
      have direct : (adjacent && ([] : List Char).isEmpty) = adjacent := by simp
      have placed : Spells adjacent ([] ++ (lexeme.chars ++ after))
          ({ direct := adjacent && ([] : List Char).isEmpty, lexeme } :: lexemes) :=
        .next nofun valid (direct.symm ▸ ends) spells
      rw [direct, List.nil_append, ← cut] at placed
      refine ⟨_, placed, ?_⟩
      rw [List.mapM_cons]
      exact bind_eq_ok.mpr ⟨token, isToken, bind_eq_ok.mpr ⟨others, classified, rfl⟩⟩

end Tokenize

end Gemini.Basic
