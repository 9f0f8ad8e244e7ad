import Gemini.VM.Value

/-!
# The words of a TCL line

`Shell::tokenize` reads a line from the left and keeps a word that is begun, whether it is between
double quotes, whether it had any, and whether a backslash stands before the next character. What is
written between double quotes with its quotes and backslashes escaped is read back as it was.
-/

namespace Gemini.PickShell

open Gemini.VM (isSpace)

/-! ## The loop -/

/-- The tokens of a line, and an error for a line that is cut off. -/
structure TokenizeResult where
  tokens : List String := []
  error : Option String := none
deriving DecidableEq

/-- What the loop keeps between two characters. -/
structure Tokenizer where
  tokens : List String := []
  current : List Char := []
  inQuotes : Bool := false
  sawQuoteInCurrent : Bool := false
  escaping : Bool := false

namespace Tokenizer

/-- End the token that is being read, if there is one. -/
def flushToken (scan : Tokenizer) : Tokenizer :=
  { scan with
    tokens :=
      if !scan.current.isEmpty || scan.sawQuoteInCurrent then
        scan.tokens ++ [String.ofList scan.current]
      else scan.tokens
    current := []
    sawQuoteInCurrent := false }

/-- One character of the line. -/
def next (scan : Tokenizer) (ch : Char) : Tokenizer :=
  if scan.escaping then { scan with current := scan.current ++ [ch], escaping := false }
  else if ch = '\\' then { scan with escaping := true }
  else if ch = '"' then { scan with inQuotes := !scan.inQuotes, sawQuoteInCurrent := true }
  else if !scan.inQuotes && isSpace ch then scan.flushToken
  else { scan with current := scan.current ++ [ch] }

/-- What the line has given at its end. -/
def result (scan : Tokenizer) : TokenizeResult :=
  if scan.escaping then { tokens := scan.tokens, error := some "Invalid escape sequence" }
  else if scan.inQuotes then { tokens := scan.tokens, error := some "Unterminated quoted string" }
  else { tokens := scan.flushToken.tokens }

end Tokenizer

/-- `tokenize`. -/
def tokenize (line : List Char) : TokenizeResult := (line.foldl Tokenizer.next {}).result

/-! ## Quoted words -/

/-- A character as it is written between double quotes. -/
def quotedChar (ch : Char) : List Char := if ch = '\\' ∨ ch = '"' then ['\\', ch] else [ch]

/-- A token in quotes. -/
def quoted (token : String) : List Char := '"' :: (token.toList.flatMap quotedChar ++ ['"'])

/-- A gap has nothing but blanks. -/
def Blank (gap : List Char) : Prop := ∀ ch ∈ gap, isSpace ch = true

/-- A line of quoted words that are separated by blanks. -/
inductive QuotedLine : List String → List Char → Prop where
  | empty : QuotedLine [] []
  | last (token : String) : QuotedLine [token] (quoted token)
  | more (token : String) {gap line : List Char} {tokens : List String}
      (separated : gap ≠ []) (blank : Blank gap) (rest : QuotedLine tokens line) :
      QuotedLine (token :: tokens) (quoted token ++ gap ++ line)

namespace Tokenizer

/-- Between two words: nothing is begun. -/
def between (tokens : List String) : Tokenizer := { tokens }

/-- In a word between double quotes. -/
def inside (tokens : List String) (current : List Char) : Tokenizer :=
  { tokens, current, inQuotes := true, sawQuoteInCurrent := true }

/-- After the second double quote of a word. -/
def closed (tokens : List String) (token : String) : Tokenizer :=
  { tokens, current := token.toList, sawQuoteInCurrent := true }

/-- Between tokens there is none to end. -/
theorem flushToken_between (tokens : List String) :
    (between tokens).flushToken = between tokens := by
  simp [between, flushToken]

/-- A token whose quote has been closed is ended. -/
theorem flushToken_closed (tokens : List String) (token : String) :
    (closed tokens token).flushToken = between (tokens ++ [token]) := by
  simp [closed, between, flushToken]

/-- A blank outside quotes ends a token. -/
theorem next_blank {scan : Tokenizer} {ch : Char} (outside : scan.inQuotes = false)
    (complete : scan.escaping = false) (blank : isSpace ch = true) :
    scan.next ch = scan.flushToken := by
  have noBackslash : ch ≠ '\\' := by
    rintro rfl
    cases blank
  have noQuote : ch ≠ '"' := by
    rintro rfl
    cases blank
  simp [next, outside, complete, noBackslash, noQuote, blank]

/-- A gap between tokens adds nothing. -/
theorem foldl_next_blanks (tokens : List String) {gap : List Char} (blank : Blank gap) :
    gap.foldl next (between tokens) = between tokens := by
  induction gap with
  | nil => rfl
  | cons ch gap inductionHypothesis =>
      obtain ⟨isBlank, blank⟩ := List.forall_mem_cons.mp blank
      have flushed : (between tokens).next ch = between tokens := by
        rw [next_blank rfl rfl isBlank, flushToken_between]
      rw [List.foldl_cons, flushed]
      exact inductionHypothesis blank

/-- The first blank after a quoted word ends it, and the others do nothing. -/
theorem foldl_next_gap (tokens : List String) (token : String) {gap : List Char}
    (separated : gap ≠ []) (blank : Blank gap) :
    gap.foldl next (closed tokens token) = between (tokens ++ [token]) := by
  obtain ⟨ch, gap, rfl⟩ := List.exists_cons_of_ne_nil separated
  obtain ⟨isBlank, blank⟩ := List.forall_mem_cons.mp blank
  have flushed : (closed tokens token).next ch = between (tokens ++ [token]) := by
    rw [next_blank rfl rfl isBlank, flushToken_closed]
  rw [List.foldl_cons, flushed]
  exact foldl_next_blanks _ blank

/-- A character in quotes is read as itself. -/
theorem foldl_next_quotedChar (tokens : List String) (current : List Char) (ch : Char) :
    (quotedChar ch).foldl next (inside tokens current) = inside tokens (current ++ [ch]) := by
  by_cases escaped : ch = '\\' ∨ ch = '"'
  · simp [quotedChar, escaped, next, inside]
  · obtain ⟨noBackslash, noQuote⟩ := not_or.mp escaped
    simp [quotedChar, noBackslash, noQuote, next, inside]

/-- So is a text in quotes. -/
theorem foldl_next_flatMap (tokens : List String) (text : List Char) (current : List Char) :
    (text.flatMap quotedChar).foldl next (inside tokens current) =
      inside tokens (current ++ text) := by
  induction text generalizing current with
  | nil => rw [List.flatMap_nil, List.foldl_nil, List.append_nil]
  | cons ch text inductionHypothesis =>
      rw [List.flatMap_cons, List.foldl_append, foldl_next_quotedChar, inductionHypothesis,
        List.append_assoc, List.singleton_append]

/-- A token in quotes is read whole. -/
theorem foldl_next_quoted (tokens : List String) (token : String) :
    (quoted token).foldl next (between tokens) = closed tokens token := by
  have opened : (between tokens).next '"' = inside tokens [] := rfl
  have closes : (inside tokens token.toList).next '"' = closed tokens token := rfl
  rw [quoted, List.foldl_cons, opened, List.foldl_append, foldl_next_flatMap, List.nil_append,
    List.foldl_cons, closes, List.foldl_nil]

/-- What stands between two words goes to neither of them. -/
theorem result_foldl_next {tokens : List String} {line : List Char}
    (written : QuotedLine tokens line) (before : List String) :
    (line.foldl next (between before)).result = { tokens := before ++ tokens } := by
  induction written generalizing before with
  | empty =>
      rw [List.foldl_nil, List.append_nil]
      simp [between, result, flushToken]
  | last token =>
      rw [foldl_next_quoted, result]
      simp [closed, flushToken]
  | @more token gap line tokens separated blank _ inductionHypothesis =>
      rw [List.foldl_append, List.foldl_append, foldl_next_quoted,
        foldl_next_gap before token separated blank, inductionHypothesis, List.append_assoc,
        List.singleton_append]

end Tokenizer

/-- A line of quoted words is read as these words. -/
theorem tokenize_quotedLine {tokens : List String} {line front : List Char}
    (blank : Blank front) (written : QuotedLine tokens line) :
    tokenize (front ++ line) = { tokens, error := none } := by
  have start : front.foldl Tokenizer.next {} = Tokenizer.between [] :=
    Tokenizer.foldl_next_blanks [] blank
  rw [tokenize, List.foldl_append, start, Tokenizer.result_foldl_next written, List.nil_append]

/-- An empty word, a blank one and one of a quote and a backslash. -/
theorem tokenize_three_words :
    tokenize "\"\"  \" \"\t\"\\\"\\\\\"".toList = { tokens := ["", " ", "\"\\"], error := none } :=
  tokenize_quotedLine (List.forall_mem_nil _)
    (@QuotedLine.more "" [' ', ' '] _ _ (by simp) (by simp [Blank, isSpace])
      (@QuotedLine.more " " ['\t'] _ _ (by simp) (by simp [Blank, isSpace]) (.last "\"\\")))

end Gemini.PickShell
