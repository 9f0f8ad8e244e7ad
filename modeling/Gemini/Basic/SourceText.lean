import Gemini.Data.OrderedMap
import Gemini.Data.Words
import Gemini.PickFS.RecordCells
import Gemini.VM.Numerals

/-!
# The source text of a program

A line of source is a number and a statement. The BASIC shell takes a line apart into words,
at the prompt and when it loads a record, and keeps the words with one blank between them.
TCL `RUN` reads the number with `stoi` and keeps what follows it as it is, but for one blank.
The two agree on a line whose number is all digits and whose words have single blanks between
them.
-/

namespace Gemini.Basic

open Gemini.Data Gemini.Semantics Program
open Gemini.VM (isSpace stoi intMin intMax)
open Gemini.PickFS (FileSystem Record StructuredRecord Writable)
open Gemini.PickFS.StructuredRecord (getlines)

/-- The numbered lines of a program. -/
abbrev BasicProgram := OrderedMap Int String

/-! ## Lines -/

/-- `while (iss >> tok)`, as in `Shell::tokenizeDebuggerLine`. -/
def tokenize (line : List Char) : List (List Char) := words isSpace line

/-- Words with a blank between two of them. -/
def joinTokens (tokens : List (List Char)) : List Char := joined ' ' tokens

/-- The positive number that `stoi` finds at the start of a token. -/
def leadingNumber (token : List Char) : Option Int :=
  ((stoi token).map Prod.fst).filter fun number => 0 < number

/-- The number of a line: digits alone. -/
def parseLineNumber (token : List Char) : Option Int :=
  if token.isEmpty || !token.all Char.isDigit then none else leadingNumber token

/-- A line as `loadProgramIfPresent` reads it. -/
def loadLine (line : List Char) : Option (Int × String) :=
  match tokenize line with
  | [] => none
  | token :: rest =>
      (parseLineNumber token).map fun number => (number, String.ofList (joinTokens rest))

/-- What follows the number; one blank before it is dropped. -/
def eraseBlank (text : List Char) : List Char :=
  if text.head? = some ' ' then text.tail else text

/-- A line as `ensureProgramObjectExistsForRun` reads it. -/
def runLine (line : List Char) : Option (Int × String) :=
  match line.dropWhile isSpace with
  | [] => none
  | body =>
      (leadingNumber (body.takeWhile fun letter => !isSpace letter)).map fun number =>
        (number, String.ofList (eraseBlank (body.dropWhile fun letter => !isSpace letter)))

/-- The program that the BASIC shell loads from a record. -/
def loadProgramIfPresent (source : String) : BasicProgram :=
  OrderedMap.insertAll {} ((getlines source.toList).filterMap loadLine)

/-- The program that `RUN` and `CHAIN` compile from a record. -/
def programForRun (source : String) : BasicProgram :=
  OrderedMap.insertAll {} ((getlines source.toList).filterMap runLine)

/-! ## Where the two readings agree -/

/-- A line that has no number, or a number in digits and then a blank and single-spaced
words. -/
def Tidy (line : List Char) : Prop :=
  let body := line.dropWhile isSpace
  let token := body.takeWhile fun letter => !isSpace letter
  let rest := body.dropWhile fun letter => !isSpace letter
  leadingNumber token = none ∨
    token.all Char.isDigit = true ∧
      (rest = [] ∨ ∃ text, rest = ' ' :: text ∧ SingleSpaced isSpace ' ' text)

/-- The words of a text, joined, are the text with single blanks. -/
theorem joinTokens_tokenize (text : List Char) :
    joinTokens (tokenize text) = respaced isSpace ' ' text := rfl

/-- The text after the number is the same in both readings. -/
theorem joinTokens_eq_eraseBlank_iff {rest : List Char} (ends : atGap isSpace rest = true) :
    joinTokens (tokenize rest) = eraseBlank rest ↔
      rest = [] ∨ ∃ text, rest = ' ' :: text ∧ SingleSpaced isSpace ' ' text := by
  cases rest with
  | nil => exact iff_of_true rfl (.inl rfl)
  | cons letter text =>
      have isBlank : isSpace letter = true := by simpa [atGap] using ends
      have shorter := @length_respaced_le _ isSpace ' ' text
      rw [joinTokens_tokenize, respaced_cons_blank isBlank, eraseBlank]
      by_cases blank : letter = ' '
      · subst blank
        rw [List.head?_cons, if_pos rfl, List.tail_cons, respaced_eq_self_iff rfl]
        simp
      · rw [List.head?_cons, if_neg (by simpa using blank)]
        refine iff_of_false (fun same => ?_) (by simp [blank])
        rw [same, List.length_cons] at shorter
        omega

theorem parseLineNumber_of_digits {token : List Char} (notEmpty : token ≠ [])
    (digits : token.all Char.isDigit = true) : parseLineNumber token = leadingNumber token := by
  have some : token.isEmpty = false := by simpa using notEmpty
  rw [parseLineNumber, if_neg (by simp [some, digits])]

/-- A line is blank, or a token and what follows it. -/
theorem line_cases (line : List Char) :
    (loadLine line = none ∧ runLine line = none ∧ Tidy line) ∨
      ∃ token rest, token ≠ [] ∧ atGap isSpace rest = true ∧
        loadLine line = (parseLineNumber token).map (fun number =>
          (number, String.ofList (joinTokens (tokenize rest)))) ∧
        runLine line = (leadingNumber token).map (fun number =>
          (number, String.ofList (eraseBlank rest))) ∧
        (Tidy line ↔ leadingNumber token = none ∨ token.all Char.isDigit = true ∧
          (rest = [] ∨ ∃ text, rest = ' ' :: text ∧ SingleSpaced isSpace ' ' text)) := by
  unfold loadLine runLine Tidy
  rw [tokenize, words_eq]
  cases body : line.dropWhile isSpace with
  | nil => exact .inl ⟨rfl, rfl, .inl rfl⟩
  | cons first others =>
      have letter : isSpace first = false := by
        have stopped := List.head?_dropWhile_not isSpace line
        rw [body] at stopped
        simpa using stopped
      exact .inr ⟨_, _, by simp [letter], atGap_dropWhile _, rfl, rfl, Iff.rfl⟩

/-- A line is read alike in both ways exactly when it is tidy. -/
theorem loadLine_eq_runLine_iff (line : List Char) : loadLine line = runLine line ↔ Tidy line := by
  rcases line_cases line with ⟨loaded, ran, tidy⟩ |
    ⟨token, rest, notEmpty, ends, loaded, ran, tidy⟩
  · rw [loaded, ran]
    exact iff_of_true rfl tidy
  · rw [loaded, ran, tidy, ← joinTokens_eq_eraseBlank_iff ends]
    by_cases digits : token.all Char.isDigit = true
    · rw [parseLineNumber_of_digits notEmpty digits]
      cases leadingNumber token with
      | none => exact iff_of_true rfl (.inl rfl)
      | some number => simp [digits, String.ofList_inj]
    · rw [parseLineNumber, if_pos (by simp [digits])]
      cases leadingNumber token with
      | none => exact iff_of_true rfl (.inl rfl)
      | some number => simp [digits]

/-- A record of tidy lines is the same program for the shell and for `RUN`. -/
theorem programs_eq_of_tidy {source : String}
    (tidy : ∀ line ∈ getlines source.toList, Tidy line) :
    loadProgramIfPresent source = programForRun source := by
  have lines : (getlines source.toList).filterMap loadLine =
      (getlines source.toList).filterMap runLine :=
    List.filterMap_congr fun line member => (loadLine_eq_runLine_iff line).mpr (tidy line member)
  rw [loadProgramIfPresent, programForRun, lines]

/-- `RUN` finds the number of every line that has one for the shell. -/
theorem runLine_of_loadLine {line : List Char} {number : Int} {text : String}
    (loads : loadLine line = some (number, text)) :
    ∃ runText, runLine line = some (number, runText) := by
  rcases line_cases line with ⟨loaded, -⟩ | ⟨token, rest, notEmpty, ends, loaded, ran, -⟩
  · rw [loaded] at loads
    cases loads
  · rw [loaded] at loads
    by_cases digits : token.all Char.isDigit = true
    · rw [parseLineNumber_of_digits notEmpty digits] at loads
      obtain ⟨found, isNumber, same⟩ := Option.map_eq_some_iff.mp loads
      obtain ⟨rfl, -⟩ := Prod.mk.inj same
      exact ⟨_, by rw [ran, isNumber]; rfl⟩
    · rw [parseLineNumber, if_pos (by simp [digits])] at loads
      cases loads

/-- Where no number is on two lines, an untidy line makes a difference. -/
theorem tidy_of_programs_eq {source : String}
    (different : ((getlines source.toList).filterMap runLine).Pairwise fun first second =>
      first.1 ≠ second.1)
    (same : loadProgramIfPresent source = programForRun source) :
    ∀ line ∈ getlines source.toList, Tidy line := by
  intro line member
  rw [← loadLine_eq_runLine_iff]
  cases ran : runLine line with
  | none =>
      cases loads : loadLine line with
      | none => rfl
      | some entry =>
          obtain ⟨runText, runs⟩ := @runLine_of_loadLine line entry.1 entry.2 loads
          rw [ran] at runs
          cases runs
  | some entry =>
      have inRun : entry ∈ (programForRun source).entries :=
        (OrderedMap.mem_insertAll_iff different (fun _ _ _ none => absurd none List.not_mem_nil)
          entry).mpr
          (.inr (List.mem_filterMap.mpr ⟨line, member, ran⟩))
      rw [← same] at inRun
      obtain none | inLines := OrderedMap.mem_insertAll inRun
      · cases none
      · obtain ⟨other, otherMember, loads⟩ := List.mem_filterMap.mp inLines
        -- The shell has the entry from a line of the same number, which is this line.
        obtain ⟨runText, runs⟩ := @runLine_of_loadLine other entry.1 entry.2 loads
        have apart := List.pairwise_filterMap.mp different
        have symmetric : Std.Symm fun first second : List Char =>
            ∀ a, runLine first = some a → ∀ b, runLine second = some b → a.1 ≠ b.1 :=
          ⟨fun _ _ differ a first b second => (differ b second a first).symm⟩
        by_contra notLoaded
        have otherLine : line ≠ other := by
          rintro rfl
          exact notLoaded loads
        exact apart.forall member otherMember otherLine entry ran _ runs rfl

/-! ## String literals -/

/-- The parts between the first two quotes, the next two and so on. -/
def quoted : List (List Char) → List (List Char)
  | _ :: literal :: next :: rest => literal :: quoted (next :: rest)
  | _ => []

/-- The string literals of a line, as `tokenizeExpression` finds them. -/
def literals (line : List Char) : List (List Char) := quoted (line.splitOn '"')

/-- A change of all parts is one of the quoted parts. -/
theorem quoted_map (change : List Char → List Char) : ∀ parts : List (List Char),
    quoted (parts.map change) = (quoted parts).map change
  | [] => rfl
  | [_] => rfl
  | [_, _] => rfl
  | first :: literal :: next :: rest => by
      have later := quoted_map change (next :: rest)
      rw [List.map_cons] at later
      simp only [List.map_cons, quoted, later]

/-- What follows the last quote is in no literal. -/
theorem quoted_last (last other : List Char) : ∀ parts : List (List Char),
    quoted (parts ++ [last]) = quoted (parts ++ [other])
  | [] => rfl
  | [_] => rfl
  | [_, _] => rfl
  | first :: literal :: next :: rest => by
      have later := quoted_last last other (next :: rest)
      rw [List.cons_append, List.cons_append] at later
      simp only [List.cons_append, quoted, later]

/-- What stands before the first quote is in no literal. -/
theorem quoted_first (first other : List Char) (parts : List (List Char)) :
    quoted (first :: parts) = quoted (other :: parts) := by
  match parts with
  | [] => rfl
  | [_] => rfl
  | _ :: _ :: _ => rfl

section Literals

variable {text before after : List Char}

/-- The parts between the quotes of a line. -/
theorem exists_parts (text : List Char) : ∃ parts : List (List Char), parts ≠ [] ∧
    (∀ part ∈ parts, '"' ∉ part) ∧ text = ['"'].intercalate parts ∧
      literals text = quoted parts :=
  ⟨text.splitOn '"', List.splitOn_ne_nil '"' text, fun _ => not_mem_of_mem_splitOn,
    (List.intercalate_splitOn '"').symm, rfl⟩

/-- The literals of parts that are joined by quotes are every second part. -/
theorem literals_intercalate {parts : List (List Char)} (some : parts ≠ [])
    (clean : ∀ part ∈ parts, '"' ∉ part) : literals (['"'].intercalate parts) = quoted parts := by
  rw [literals, List.splitOn_intercalate '"' clean some]

/-- A text without quotes in front adds no literal. -/
theorem literals_append_left (clean : '"' ∉ before) :
    literals (before ++ text) = literals text := by
  obtain ⟨parts, some, cleanParts, is, found⟩ := exists_parts text
  obtain ⟨first, others, rfl⟩ := List.exists_cons_of_ne_nil some
  obtain ⟨cleanFirst, cleanOthers⟩ := List.forall_mem_cons.mp cleanParts
  have joins : before ++ text = ['"'].intercalate ((before ++ first) :: others) := by
    rw [is]
    cases others with
    | nil => simp
    | cons next more =>
        rw [List.intercalate_cons_of_ne_nil (List.cons_ne_nil _ _),
          List.intercalate_cons_of_ne_nil (List.cons_ne_nil _ _)]
        simp
  have cleanJoined : ∀ part ∈ (before ++ first) :: others, '"' ∉ part :=
    List.forall_mem_cons.mpr ⟨by simp [clean, cleanFirst], cleanOthers⟩
  rw [joins, literals_intercalate (List.cons_ne_nil _ _) cleanJoined, found]
  exact quoted_first _ _ _

theorem intercalate_append_last (parts : List (List Char)) (last after : List Char) :
    ['"'].intercalate (parts ++ [last]) ++ after = ['"'].intercalate (parts ++ [last ++ after]) := by
  induction parts with
  | nil => simp
  | cons part others inductionHypothesis =>
      rw [List.cons_append, List.cons_append, List.intercalate_cons_of_ne_nil (by simp),
        List.intercalate_cons_of_ne_nil (by simp), List.append_assoc, inductionHypothesis]

/-- A text without quotes behind adds no literal. -/
theorem literals_append_right (clean : '"' ∉ after) :
    literals (text ++ after) = literals text := by
  obtain ⟨parts, some, cleanParts, is, found⟩ := exists_parts text
  rcases List.eq_nil_or_concat parts with none | ⟨others, last, rfl⟩
  · exact absurd none some
  · rw [List.concat_eq_append] at some cleanParts is found
    have cleanJoined : ∀ part ∈ others ++ [last ++ after], '"' ∉ part := by
      intro part member
      rcases List.mem_append.mp member with inOthers | isLast
      · exact cleanParts part (List.mem_append_left _ inOthers)
      · have cleanLast := cleanParts last (by simp)
        rw [List.mem_singleton.mp isLast]
        simp [clean, cleanLast]
    rw [is, intercalate_append_last, literals_intercalate (by simp) cleanJoined, ← is, found]
    exact quoted_last _ _ _

/-- Gaps are squeezed part by part. -/
theorem squeezed_intercalate (parts : List (List Char)) :
    squeezed isSpace ' ' (['"'].intercalate parts) =
      ['"'].intercalate (parts.map (squeezed isSpace ' ')) := by
  induction parts with
  | nil => rfl
  | cons part others inductionHypothesis =>
      cases others with
      | nil => simp
      | cons next more =>
          have later : (next :: more).map (squeezed isSpace ' ') ≠ [] := by simp
          rw [List.intercalate_cons_of_ne_nil (List.cons_ne_nil next more), List.map_cons,
            List.intercalate_cons_of_ne_nil later, ← inductionHypothesis]
          simpa using @squeezed_append_letter _ isSpace ' ' '"' (by decide) part _

/-- A squeezed text has the letters of the text, and blanks. -/
theorem mem_squeezed {letter : Char} {text : List Char}
    (member : letter ∈ squeezed isSpace ' ' text) : letter ∈ text ∨ letter = ' ' := by
  induction text with
  | nil => cases member
  | cons first rest inductionHypothesis =>
      unfold squeezed at member
      split at member
      · split at member
        · exact (inductionHypothesis member).imp_left (List.mem_cons_of_mem _)
        · rcases List.mem_cons.mp member with same | later
          · exact .inr same
          · exact (inductionHypothesis later).imp_left (List.mem_cons_of_mem _)
      · rcases List.mem_cons.mp member with same | later
        · exact .inl (same ▸ List.mem_cons_self)
        · exact (inductionHypothesis later).imp_left (List.mem_cons_of_mem _)

/-- A literal of a line that has been respaced has one blank for each run of blanks. -/
theorem literals_respaced (text : List Char) :
    literals (respaced isSpace ' ' text) = (literals text).map (squeezed isSpace ' ') := by
  obtain ⟨before, after, squeezes, gapsBefore, gapsAfter, -⟩ := @squeezed_eq_append _ isSpace ' ' text
  have cleanBefore : '"' ∉ before := fun member => absurd (gapsBefore _ member) (by decide)
  have cleanAfter : '"' ∉ after := fun member => absurd (gapsAfter _ member) (by decide)
  obtain ⟨parts, some, clean, is, found⟩ := exists_parts text
  have cleanSqueezed : ∀ part ∈ parts.map (squeezed isSpace ' '), '"' ∉ part := by
    intro part member
    obtain ⟨source, inParts, rfl⟩ := List.mem_map.mp member
    intro quote
    rcases mem_squeezed quote with inSource | same
    · exact clean source inParts inSource
    · exact absurd same (by decide)
  calc literals (respaced isSpace ' ' text)
      = literals (before ++ respaced isSpace ' ' text ++ after) := by
        rw [literals_append_right cleanAfter, literals_append_left cleanBefore]
    _ = literals (squeezed isSpace ' ' text) := by rw [squeezes]
    _ = quoted (parts.map (squeezed isSpace ' ')) := by
        rw [is, squeezed_intercalate, literals_intercalate (by simpa using some) cleanSqueezed]
    _ = (literals text).map (squeezed isSpace ' ') := by rw [quoted_map, found]

end Literals

end Gemini.Basic
