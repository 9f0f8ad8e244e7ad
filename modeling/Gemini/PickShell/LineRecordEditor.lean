import Gemini.Data.Cuts
import Gemini.Data.Words
import Gemini.PickFS.RecordCells
import Gemini.PickVoc.VocResolver

/-!
# The line editor

`LineRecordEditor` edits the lines of a record: `EDIT` takes them from the text of the record,
`INSERT`, `REPLACE` and `DELETE` change them, and `SAVE` writes them back. `EDIT` reads a text up to
its last newline, so that an empty line at the end is lost. All other lines are kept, and a record
that is opened again has the lines that the commands have left.
-/

namespace Gemini.PickShell.LineRecordEditor

open Gemini.Data (words stripped)
open Gemini.Semantics Program
open Gemini.PickFS (World FileSystem FileM Record cells joinLines)
open Gemini.PickFS.StructuredRecord (getlines)
open Gemini.PickVoc (VocState VocM upperAscii)
open Gemini.VM (isSpace stoi intMax)

/-! ## Words -/

/-- `tokenizeWs`: the words between blanks. -/
def tokenizeWs (line : String) : List String := (words isSpace line.toList).map String.ofList

/-- `trimAscii`. -/
def trimAscii (text : String) : String := String.ofList (stripped isSpace text.toList)

/-- `canonicalCommand`: the long form of a command, in upper case. -/
def canonicalCommand (token : String) : String :=
  match upperAscii token with
  | "L" => "LIST"
  | "I" => "INSERT"
  | "R" => "REPLACE"
  | "D" => "DELETE"
  | "FI" => "SAVE"
  | "Q" => "QUIT"
  | upper => upper

/-- `parsePositiveInt`: what `stoi` reads, if it is positive. The rest of the word is not looked at.
-/
def parsePositiveInt (token : String) : Option ℤ :=
  match stoi token.toList with
  | some (value, _) => if 0 < value then some value else none
  | none => none

/-- The first and the last line that `LIST` shows. -/
def parseListRangeTokens : List String → Option (ℤ × ℤ)
  | [_] => some (1, intMax)
  | [_, arg] =>
      if '-' ∈ arg.toList then do
        let start ← parsePositiveInt (String.ofList (arg.toList.takeWhile (· ≠ '-')))
        let last ← parsePositiveInt (String.ofList (arg.toList.dropWhile (· ≠ '-')).tail)
        if last < start then none else some (start, last)
      else do
        let line ← parsePositiveInt arg
        return (line, line)
  | _ => none

/-! ## The editor -/

/-- The record that is edited. -/
structure EditorTarget where
  fileSystem : FileSystem
  fileName : String
  recordKey : String

/-- The editor while it runs: the record's lines, the input and the session's files. -/
structure EditorState where
  lines : List String
  /-- The lines that are still to be read. -/
  input : List String
  output : String := ""
  voc : VocState

/-- Print a text. -/
def say (text : String) (state : EditorState) : EditorState :=
  { state with output := state.output ++ text }

/-- A line as `LIST` shows it, with its number. -/
def listedLine (entry : String × ℕ) : String :=
  toString entry.2 ++ (if entry.1 = "" then "" else " " ++ entry.1) ++ "\n"

/-- `cmdList`. -/
def cmdList (tokens : List String) (state : EditorState) : EditorState :=
  match parseListRangeTokens tokens with
  | none => say "LIST takes no args, LIST <line>, or LIST <start-end>\n" state
  | some (startLine, endLine) =>
      let shown := (state.lines.zipIdx 1).filter fun entry =>
        startLine ≤ entry.2 && (entry.2 : ℤ) ≤ endLine
      say (String.join (shown.map listedLine)) state

/-- `cmdHelp`. -/
def cmdHelp (state : EditorState) : EditorState :=
  say ("LIST (L) — list lines; optional LIST <line> or LIST <start-end>\n" ++
    "INSERT (I) — optional line number, then lines until '.' alone\n" ++
    "REPLACE (R) — line number, then lines until '.' alone\n" ++
    "DELETE (D) — line number\n" ++
    "SAVE (FI) — write buffer to record\n" ++
    "QUIT (Q) — exit without saving\n") state

/-- The lines before a line with a period alone, and those after it. -/
def readPeriodTerminatedBlock : List String → Option (List String × List String)
  | [] => none
  | line :: rest =>
      if trimAscii line = "." then some ([], rest)
      else (readPeriodTerminatedBlock rest).map fun (block, rest) => (line :: block, rest)

/-- Go on with a block; without its end the whole input has been read. -/
def withBlock (next : List String → EditorState → EditorState) (state : EditorState) :
    EditorState :=
  match readPeriodTerminatedBlock state.input with
  | none => say "Unexpected end of input during INSERT/REPLACE\n" { state with input := [] }
  | some (block, rest) => next block { state with input := rest }

/-- Put a block before the line of this index. -/
def insertLines (index : ℕ) (block : List String) (state : EditorState) : EditorState :=
  { state with lines := state.lines.take index ++ block ++ state.lines.drop index }

/-- `cmdInsert`: without a number the block goes to the end. -/
def cmdInsert (operands : List String) (state : EditorState) : EditorState :=
  match operands with
  | [] => withBlock (insertLines state.lines.length) state
  | [operand] =>
      match parsePositiveInt operand with
      | none => say "INSERT requires a positive line number\n" state
      | some afterLine =>
          if afterLine < 1 ∨ state.lines.length < afterLine then say "No such line\n" state
          else withBlock (insertLines afterLine.toNat) state
  | _ => say "INSERT takes no line number or one line number\n" state

/-- The line of a `REPLACE` or a `DELETE`. -/
def withLine (verb : String) (next : ℕ → EditorState → EditorState) (operands : List String)
    (state : EditorState) : EditorState :=
  match operands with
  | [operand] =>
      match parsePositiveInt operand with
      | none => say (verb ++ " requires a line number\n") state
      | some lineNo =>
          if lineNo < 1 ∨ state.lines.length < lineNo then say "No such line\n" state
          else next (lineNo - 1).toNat state
  | _ => say (verb ++ " requires a line number\n") state

/-- Put a block in the place of a line. An empty block is refused. -/
def replaceLine (index : ℕ) (block : List String) (state : EditorState) : EditorState :=
  if block = [] then say "REPLACE requires at least one line before '.'\n" state
  else insertLines index block { state with lines := state.lines.eraseIdx index }

/-- `cmdReplace`. -/
def cmdReplace : List String → EditorState → EditorState :=
  withLine "REPLACE" fun index => withBlock (replaceLine index)

/-- `cmdDelete`. -/
def cmdDelete : List String → EditorState → EditorState :=
  withLine "DELETE" fun index state => { state with lines := state.lines.eraseIdx index }

section Session

variable (target : EditorTarget)

/-- `ensureFileExistsForWrite`: a file that is missing is made. -/
def ensureFileExistsForWrite : FileM Unit :=
  tryCatch (do let _ ← target.fileSystem.openFile target.fileName) fun error =>
    if "File not found: ".isPrefixOf error then target.fileSystem.createFile target.fileName
    else throw error

/-- The body of `cmdSave`, with the hook that drops the table of the VOC. -/
def writeLines (lines : List String) : VocM Unit :=
  PickVoc.changeFile target.fileName do
    ensureFileExistsForWrite target
    target.fileSystem.write target.fileName (.ofText target.recordKey (joinLines lines))

/-- `cmdSave`: an error is shown and the editor goes on. -/
def cmdSave (state : EditorState) : EditorState :=
  match exec (writeLines target state.lines) state.voc with
  | (.ok (), voc) => { state with voc }
  | (.error error, voc) => say ("Error: " ++ error ++ "\n") { state with voc }

/-- A command other than `QUIT`. -/
def perform (verb : String) (operands : List String) (state : EditorState) : EditorState :=
  match canonicalCommand verb with
  | "SAVE" => cmdSave target state
  | "HELP" => cmdHelp state
  | "LIST" => cmdList (verb :: operands) state
  | "INSERT" => cmdInsert operands state
  | "REPLACE" => cmdReplace operands state
  | "DELETE" => cmdDelete operands state
  | _ => say ("Unknown command: " ++ verb ++ "\n") state

end Session

/-! ### Input -/

/-- A block takes lines from the input. -/
theorem length_readPeriodTerminatedBlock {input block rest : List String}
    (found : readPeriodTerminatedBlock input = some (block, rest)) :
    rest.length ≤ input.length := by
  induction input generalizing block with
  | nil => cases found
  | cons line input inductionHypothesis =>
      unfold readPeriodTerminatedBlock at found
      split at found
      · cases found
        exact Nat.le_succ _
      · obtain ⟨⟨block, rest⟩, found, same⟩ := Option.map_eq_some_iff.mp found
        cases same
        exact (inductionHypothesis found).trans (Nat.le_succ _)

/-- What is done with a block reads no more input than the block. -/
theorem input_withBlock {next : List String → EditorState → EditorState}
    (keeps : ∀ block state, (next block state).input = state.input) (state : EditorState) :
    (withBlock next state).input.length ≤ state.input.length := by
  unfold withBlock
  split
  · exact Nat.zero_le _
  · next block rest found =>
      rw [keeps]
      exact length_readPeriodTerminatedBlock found

/-- What is done with a line reads what the command reads. -/
theorem input_withLine {next : ℕ → EditorState → EditorState}
    (reads : ∀ index state, (next index state).input.length ≤ state.input.length) (verb : String)
    (operands : List String) (state : EditorState) :
    (withLine verb next operands state).input.length ≤ state.input.length := by
  unfold withLine
  split
  · split
    · exact le_rfl
    · split
      · exact le_rfl
      · exact reads _ state
  · exact le_rfl

/-- A command reads on and never back. -/
theorem input_perform (target : EditorTarget) (verb : String) (operands : List String)
    (state : EditorState) : (perform target verb operands state).input.length ≤ state.input.length := by
  have inserted : ∀ index block state, (insertLines index block state).input = state.input :=
    fun _ _ _ => rfl
  unfold perform
  split
  · unfold cmdSave
    split <;> exact le_rfl
  · exact le_rfl
  · unfold cmdList
    split <;> exact le_rfl
  · unfold cmdInsert
    split
    · exact input_withBlock (inserted _) state
    · split
      · exact le_rfl
      · split
        · exact le_rfl
        · exact input_withBlock (inserted _) state
    · exact le_rfl
  · refine input_withLine (fun index state => input_withBlock (fun block state => ?_) state) _ _ _
    unfold replaceLine
    split <;> rfl
  · unfold cmdDelete
    refine input_withLine (fun index state => ?_) _ _ _
    exact le_rfl
  · exact le_rfl

/-! ### The session -/

section Run

variable (target : EditorTarget)

/-- The loop of `run`. The input ends with `QUIT` or at its end. -/
def loop (state : EditorState) : EditorState :=
  match _read : state.input with
  | [] => say "ED> " state
  | line :: rest =>
      let asked := say "ED> " { state with input := rest }
      match tokenizeWs line with
      | [] => loop asked
      | verb :: operands =>
          if canonicalCommand verb = "QUIT" then asked
          else loop (perform target verb operands asked)
termination_by state.input.length
decreasing_by
  · simp [say, _read]
  · have reads := input_perform target verb operands (say "ED> " { state with input := rest })
    rw [_read, List.length_cons]
    exact Nat.lt_succ_of_le reads

/-- `run`, which shows a line of the record first. -/
def run (highlightPhysicalLine : Option ℤ) (state : EditorState) : EditorState :=
  match highlightPhysicalLine with
  | some row =>
      loop target (if 1 ≤ row ∧ row ≤ state.lines.length then cmdList ["LIST", toString row] state
        else state)
  | none => loop target state

/-- The lines that `EDIT` takes from a record. -/
def openLines : FileM (List String) := do
  match ← target.fileSystem.read target.fileName target.recordKey with
  | some record => return (getlines record.value.toList).map String.ofList
  | none => return []

/-- The editor on a record, from reading its lines to the end of its input. -/
def runLineRecordEditorForLocation (highlightPhysicalLine : Option ℤ) (input : List String)
    (voc : VocState) : EditorState :=
  match exec (PickVoc.onFiles (openLines target)) voc with
  | (.ok lines, voc) => run target highlightPhysicalLine { lines, input, voc }
  | (.error error, voc) =>
      { lines := [], input, output := "Error: " ++ error ++ "\n", voc }

end Run

/-! ## Texts and lines -/

section Texts

variable {raw : String} {lines : List String}

/-- The lines that `EDIT` takes from a text. -/
def textLines (raw : String) : List String := (getlines raw.toList).map String.ofList

/-- Without a newline at its end a text has the lines of its attributes. -/
theorem textLines_eq_cells (unended : raw.toList.getLast? ≠ some '\n') :
    textLines raw = cells raw := by
  have last := PickFS.StructuredRecord.getLast_splitOn raw.toList
  unfold textLines cells getlines
  by_cases empty : raw = ""
  · subst empty
    rfl
  · have some : raw.toList ≠ [] := fun none => empty (String.toList_eq_nil_iff.mp none)
    have goesOn : ¬ (raw.toList.splitOn '\n').getLast? = Option.some [] := by
      rw [last]
      exact not_or.mpr ⟨some, unended⟩
    rw [if_neg empty, if_neg goesOn]

/-- The letters of joined lines. -/
theorem toList_joinLines (lines : List String) :
    (joinLines lines).toList = ['\n'].intercalate (lines.map String.toList) :=
  String.toList_ofList

/-- Lines come back when they are joined and split. -/
theorem splitOn_joinLines (some : lines ≠ []) (clean : ∀ line ∈ lines, '\n' ∉ line.toList) :
    ((joinLines lines).toList.splitOn '\n').map String.ofList = lines := by
  rw [toList_joinLines]
  exact PickFS.splitOn_joined some clean

/-- Lines come back from their text unless the last one is empty. -/
theorem textLines_joinLines (clean : ∀ line ∈ lines, '\n' ∉ line.toList) :
    textLines (joinLines lines) = lines ↔ lines.getLast? ≠ some "" := by
  by_cases none : lines = []
  · subst none
    exact iff_of_true rfl (by simp)
  · have parts := splitOn_joinLines none clean
    have last : ((joinLines lines).toList.splitOn '\n').getLast? = some [] ↔
        lines.getLast? = some "" := by
      conv_rhs => rw [← parts, List.getLast?_map]
      cases ((joinLines lines).toList.splitOn '\n').getLast? <;> simp
    unfold textLines getlines
    dsimp only
    by_cases ended : lines.getLast? = some ""
    · rw [if_pos (last.mpr ended), List.map_dropLast, parts]
      refine iff_of_false (fun same => ?_) (by simp [ended])
      have length := congrArg List.length same
      have some : 0 < lines.length := List.length_pos_iff.mpr none
      rw [List.length_dropLast] at length
      omega
    · rw [if_neg (fun isLast => ended (last.mp isLast)), parts]
      exact iff_of_true rfl ended

/-- A record is its lines joined. -/
theorem joinLines_cells (raw : String) : joinLines (cells raw) = raw := by
  refine String.toList_inj.mp ?_
  rw [toList_joinLines]
  unfold cells
  split
  · next empty => rw [empty]; rfl
  · have same : String.toList ∘ String.ofList = id := by
      funext text
      exact String.toList_ofList
    rw [List.map_map, same, List.map_id, List.intercalate_splitOn]

/-- No line of the editor has a line feed. -/
theorem newline_not_mem_textLines : ∀ line ∈ textLines raw, '\n' ∉ line.toList := by
  intro line member
  obtain ⟨field, inFields, rfl⟩ := List.mem_map.mp member
  rw [String.toList_ofList]
  unfold getlines at inFields
  dsimp only at inFields
  split at inFields
  · exact Data.not_mem_of_mem_splitOn (List.mem_of_mem_dropLast inFields)
  · exact Data.not_mem_of_mem_splitOn inFields

/-- A text comes back from the lines that `EDIT` takes unless it ends with a newline. -/
theorem joinLines_textLines : joinLines (textLines raw) = raw ↔ raw.toList.getLast? ≠ some '\n' := by
  constructor
  · -- The lines of a text that ends with a newline would have an empty one at their end.
    intro same ended
    have lines := (textLines_joinLines (@newline_not_mem_textLines raw)).mp (by rw [same])
    have last := (PickFS.StructuredRecord.getLast_splitOn raw.toList).mpr (.inr ended)
    have some : textLines raw ≠ [] := by
      intro none
      rw [none] at same
      rw [← same] at ended
      cases ended
    have parts := splitOn_joinLines some newline_not_mem_textLines
    rw [same] at parts
    rw [← parts, List.getLast?_map, last] at lines
    exact lines rfl
  · intro unended
    rw [textLines_eq_cells unended, joinLines_cells]

end Texts

/-! ## What the commands say -/

/-- A change of a list of lines, which are counted from 1. -/
inductive Edit where
  | insert (after : ℕ) (block : List String)
  | replace (line : ℕ) (block : List String)
  | delete (line : ℕ)

/-- The lines after a change. -/
def Edit.apply : Edit → List String → List String
  | .insert after block, lines => lines.take after ++ block ++ lines.drop after
  | .replace line block, lines => lines.take (line - 1) ++ block ++ lines.drop line
  | .delete line, lines => lines.take (line - 1) ++ lines.drop line

/-- The line that the operand of a command names. -/
def lineNamed (lines : List String) : List String → Option ℕ
  | [operand] =>
      (parsePositiveInt operand).bind fun n => if n ≤ lines.length then some n.toNat else none
  | _ => none

/-- The line after which `INSERT` puts its block. -/
def insertPlace (lines operands : List String) : Option ℕ :=
  if operands = [] then some lines.length else lineNamed lines operands

/-- The lines that are typed for a block. -/
structure Block (block typed : List String) : Prop where
  noPeriod : ∀ line ∈ block, trimAscii line ≠ "."
  ends : ∃ period, trimAscii period = "." ∧ typed = block ++ [period]

/-- What is typed for one command, and the change that it makes if it succeeds. The block of a
command whose line was refused is not read. -/
inductive Typed (lines : List String) : List String → Option Edit → Prop
  | insert {line verb : String} {operands block typed : List String} {after : ℕ}
      (isWords : tokenizeWs line = verb :: operands) (command : canonicalCommand verb = "INSERT")
      (place : insertPlace lines operands = some after) (isBlock : Block block typed) :
      Typed lines (line :: typed) (some (.insert after block))
  | replace {line verb : String} {operands block typed : List String} {n : ℕ}
      (isWords : tokenizeWs line = verb :: operands) (command : canonicalCommand verb = "REPLACE")
      (place : lineNamed lines operands = some n) (isBlock : Block block typed)
      (notEmpty : block ≠ []) : Typed lines (line :: typed) (some (.replace n block))
  | replaceNothing {line verb : String} {operands typed : List String} {n : ℕ}
      (isWords : tokenizeWs line = verb :: operands) (command : canonicalCommand verb = "REPLACE")
      (place : lineNamed lines operands = some n) (isBlock : Block [] typed) :
      Typed lines (line :: typed) none
  | delete {line verb : String} {operands : List String} {n : ℕ}
      (isWords : tokenizeWs line = verb :: operands) (command : canonicalCommand verb = "DELETE")
      (place : lineNamed lines operands = some n) : Typed lines [line] (some (.delete n))
  | refusedInsert {line verb : String} {operands : List String}
      (isWords : tokenizeWs line = verb :: operands) (command : canonicalCommand verb = "INSERT")
      (noPlace : insertPlace lines operands = none) : Typed lines [line] none
  | refused {line verb : String} {operands : List String}
      (isWords : tokenizeWs line = verb :: operands)
      (command : canonicalCommand verb = "REPLACE" ∨ canonicalCommand verb = "DELETE")
      (noPlace : lineNamed lines operands = none) : Typed lines [line] none

/-- The lines after a change, or as they were. -/
def edited (lines : List String) (edit : Option Edit) : List String :=
  edit.elim lines fun edit => edit.apply lines

/-- What is typed for a sequence of commands, and the lines after those that succeed. -/
inductive Edits : List String → List String → List String → Prop
  | done (lines : List String) : Edits lines [] lines
  | command {lines typed rest result : List String} {edit : Option Edit}
      (first : Typed lines typed edit) (others : Edits (edited lines edit) rest result) :
      Edits lines (typed ++ rest) result

/-! ### The editor does what the commands say -/

section Commands

variable {target : EditorTarget} {lines operands block typed rest : List String} {line verb : String}
  {state : EditorState} {n : ℕ}

/-- A block that is typed is read back. -/
theorem readPeriodTerminatedBlock_block (isBlock : Block block typed) (rest : List String) :
    readPeriodTerminatedBlock (typed ++ rest) = some (block, rest) := by
  obtain ⟨noPeriod, period, isPeriod, rfl⟩ := isBlock
  induction block with
  | nil => simp [readPeriodTerminatedBlock, isPeriod]
  | cons line block inductionHypothesis =>
      obtain ⟨goesOn, noPeriod⟩ := List.forall_mem_cons.mp noPeriod
      rw [List.cons_append, List.cons_append, readPeriodTerminatedBlock, if_neg goesOn,
        inductionHypothesis noPeriod]
      rfl

/-- A command is given the block that is typed after it. -/
theorem withBlock_block (next : List String → EditorState → EditorState)
    (isBlock : Block block typed) (isInput : state.input = typed ++ rest) :
    withBlock next state = next block { state with input := rest } := by
  rw [withBlock, isInput, readPeriodTerminatedBlock_block isBlock]

/-- `parsePositiveInt` gives positive numbers only. -/
theorem pos_of_parsePositiveInt {operand : String} {value : ℤ}
    (isNumber : parsePositiveInt operand = some value) : 0 < value := by
  unfold parsePositiveInt at isNumber
  split at isNumber
  · next positive =>
      split at isNumber
      · next positive =>
          cases isNumber
          exact positive
      · cases isNumber
  · cases isNumber

/-- A line is named by one operand, which is the number of a line that is there. -/
theorem lineNamed_eq_some (named : lineNamed lines operands = some n) :
    ∃ operand, operands = [operand] ∧ parsePositiveInt operand = some (n : ℤ) ∧ 1 ≤ n ∧
      n ≤ lines.length := by
  unfold lineNamed at named
  split at named
  · next operand =>
      obtain ⟨value, isNumber, named⟩ := Option.bind_eq_some_iff.mp named
      have positive := pos_of_parsePositiveInt isNumber
      split at named
      · next within =>
          cases named
          have same : (value.toNat : ℤ) = value := by omega
          exact ⟨operand, rfl, by rw [same]; exact isNumber, by omega, by omega⟩
      · cases named
  · cases named

/-- A command is given the line that it names. -/
theorem withLine_named (next : ℕ → EditorState → EditorState) (verb : String)
    (named : lineNamed state.lines operands = some n) :
    withLine verb next operands state = next (n - 1) state := by
  obtain ⟨operand, rfl, isNumber, positive, within⟩ := lineNamed_eq_some named
  have index : ((n : ℤ) - 1).toNat = n - 1 := by omega
  unfold withLine
  dsimp only
  rw [isNumber]
  dsimp only
  rw [if_neg (by omega), index]

/-- Without a line that its operand names a command prints an error. -/
theorem withLine_none (next : ℕ → EditorState → EditorState) (verb : String)
    (noLine : lineNamed state.lines operands = none) :
    ∃ text, withLine verb next operands state = say text state := by
  unfold withLine
  split
  · next operand =>
      split
      · exact ⟨_, rfl⟩
      · next lineNo isNumber =>
          split
          · exact ⟨_, rfl⟩
          · next within =>
              rw [lineNamed, isNumber, Option.bind_some, if_pos (by omega)] at noLine
              cases noLine
  · exact ⟨_, rfl⟩

/-- `INSERT` puts its block in the place that it names. -/
theorem cmdInsert_place (place : insertPlace state.lines operands = some n) :
    cmdInsert operands state = withBlock (insertLines n) state := by
  unfold insertPlace at place
  split at place
  · next none =>
      cases place
      rw [none]
      rfl
  · obtain ⟨operand, rfl, isNumber, positive, within⟩ := lineNamed_eq_some place
    unfold cmdInsert
    dsimp only
    rw [isNumber]
    dsimp only
    rw [if_neg (by omega), Int.toNat_natCast]

/-- Without a place `INSERT` only prints. -/
theorem cmdInsert_none (noPlace : insertPlace state.lines operands = none) :
    ∃ text, cmdInsert operands state = say text state := by
  unfold insertPlace at noPlace
  split at noPlace
  · cases noPlace
  · next some =>
      unfold cmdInsert
      split
      · exact absurd rfl some
      · next operand =>
          split
          · exact ⟨_, rfl⟩
          · next afterLine isNumber =>
              split
              · exact ⟨_, rfl⟩
              · next within =>
                  rw [lineNamed, isNumber, Option.bind_some, if_pos (by omega)] at noPlace
                  cases noPlace
      · exact ⟨_, rfl⟩

/-- The spellings of `INSERT`. -/
theorem perform_insert (command : canonicalCommand verb = "INSERT") (state : EditorState) :
    perform target verb operands state = cmdInsert operands state := by
  simp only [perform, command]

/-- The spellings of `REPLACE`. -/
theorem perform_replace (command : canonicalCommand verb = "REPLACE") (state : EditorState) :
    perform target verb operands state = cmdReplace operands state := by
  simp only [perform, command]

/-- The spellings of `DELETE`. -/
theorem perform_delete (command : canonicalCommand verb = "DELETE") (state : EditorState) :
    perform target verb operands state = cmdDelete operands state := by
  simp only [perform, command]

/-- The spellings of `SAVE`. -/
theorem perform_save (command : canonicalCommand verb = "SAVE") (state : EditorState) :
    perform target verb operands state = cmdSave target state := by
  simp only [perform, command]

/-- The line that is replaced is taken out, and the block put in its place. -/
theorem insertLines_eraseIdx (lines block : List String) (index : ℕ) :
    (lines.eraseIdx index).take index ++ block ++ (lines.eraseIdx index).drop index =
      lines.take index ++ block ++ lines.drop (index + 1) := by
  rw [List.eraseIdx_eq_take_drop_succ]
  by_cases within : index < lines.length
  · have length : (lines.take index).length = index := by
      rw [List.length_take]
      omega
    rw [List.take_left' length, List.drop_left' length]
  · have nothing : lines.drop (index + 1) = [] := List.drop_eq_nil_of_le (by omega)
    have all : lines.take index = lines := List.take_of_length_le (by omega)
    have beyond : lines.drop index = [] := List.drop_eq_nil_of_le (by omega)
    rw [nothing, List.append_nil, all, all, beyond]

/-- What the editor has, but for what it has printed. -/
structure Holds (lines input : List String) (voc : VocState) (state : EditorState) : Prop where
  lines : state.lines = lines
  input : state.input = input
  voc : state.voc = voc

variable {voc : VocState}

/-- A command that is typed reads its lines and makes its change. -/
theorem perform_typed {edit : Option Edit} (isTyped : Typed lines (line :: typed) edit)
    (holds : Holds lines (typed ++ rest) voc state) :
    ∃ verb operands, tokenizeWs line = verb :: operands ∧ canonicalCommand verb ≠ "QUIT" ∧
      Holds (edited lines edit) rest voc (perform target verb operands state) := by
  obtain ⟨rfl, isInput, rfl⟩ := holds
  cases isTyped with
  | insert isWords command place isBlock =>
      refine ⟨_, _, isWords, by rw [command]; decide, ?_⟩
      rw [perform_insert command, cmdInsert_place place, withBlock_block _ isBlock isInput]
      exact ⟨rfl, rfl, rfl⟩
  | @replace _ _ _ block _ n isWords command place isBlock notEmpty =>
      obtain ⟨-, -, -, positive, -⟩ := lineNamed_eq_some place
      have next : n - 1 + 1 = n := by omega
      refine ⟨_, _, isWords, by rw [command]; decide, ?_⟩
      rw [perform_replace command, cmdReplace, withLine_named _ _ place,
        withBlock_block _ isBlock isInput, replaceLine, if_neg notEmpty]
      refine ⟨?_, rfl, rfl⟩
      have replaced := insertLines_eraseIdx state.lines block (n - 1)
      rw [next] at replaced
      exact replaced
  | replaceNothing isWords command place isBlock =>
      refine ⟨_, _, isWords, by rw [command]; decide, ?_⟩
      rw [perform_replace command, cmdReplace, withLine_named _ _ place,
        withBlock_block _ isBlock isInput, replaceLine, if_pos rfl]
      exact ⟨rfl, rfl, rfl⟩
  | @delete _ _ _ n isWords command place =>
      obtain ⟨-, -, -, positive, -⟩ := lineNamed_eq_some place
      have next : n - 1 + 1 = n := by omega
      refine ⟨_, _, isWords, by rw [command]; decide, ?_⟩
      rw [perform_delete command, cmdDelete, withLine_named _ _ place]
      refine ⟨?_, isInput, rfl⟩
      dsimp only
      rw [List.eraseIdx_eq_take_drop_succ, next]
      rfl
  | refusedInsert isWords command noPlace =>
      obtain ⟨text, refused⟩ := cmdInsert_none noPlace
      refine ⟨_, _, isWords, by rw [command]; decide, ?_⟩
      rw [perform_insert command, refused]
      exact ⟨rfl, isInput, rfl⟩
  | refused isWords command noPlace =>
      rcases command with command | command
      · obtain ⟨text, refused⟩ :=
          withLine_none (fun index => withBlock (replaceLine index)) "REPLACE" noPlace
        refine ⟨_, _, isWords, by rw [command]; decide, ?_⟩
        rw [perform_replace command, cmdReplace, refused]
        exact ⟨rfl, isInput, rfl⟩
      · obtain ⟨text, refused⟩ := withLine_none
          (fun index state => { state with lines := state.lines.eraseIdx index }) "DELETE" noPlace
        refine ⟨_, _, isWords, by rw [command]; decide, ?_⟩
        rw [perform_delete command, cmdDelete, refused]
        exact ⟨rfl, isInput, rfl⟩

/-- A line of the input is performed and the loop goes on. -/
theorem loop_command {operands : List String} (isInput : state.input = line :: rest)
    (isWords : tokenizeWs line = verb :: operands) (goesOn : canonicalCommand verb ≠ "QUIT") :
    loop target state =
      loop target (perform target verb operands (say "ED> " { state with input := rest })) := by
  obtain ⟨lines, input, output, voc⟩ := state
  dsimp only at isInput
  subst isInput
  rw [loop]
  dsimp only
  rw [isWords]
  dsimp only
  rw [if_neg goesOn]

/-- A sequence of commands leaves the lines that those which succeed make. -/
theorem loop_edits {result : List String} (edits : Edits lines typed result)
    (holds : Holds lines (typed ++ rest) voc state) :
    ∃ after, Holds result rest voc after ∧ loop target state = loop target after := by
  induction edits generalizing state with
  | done lines => exact ⟨state, holds, rfl⟩
  | @command lines typed others result edit first _ inductionHypothesis =>
      obtain ⟨line, typed, rfl⟩ : ∃ line more, typed = line :: more := by
        cases first <;> exact ⟨_, _, rfl⟩
      rw [List.append_assoc, List.cons_append] at holds
      have asked : Holds lines (typed ++ (others ++ rest)) voc
          (say "ED> " { state with input := typed ++ (others ++ rest) }) :=
        ⟨holds.lines, rfl, holds.voc⟩
      obtain ⟨verb, operands, isWords, goesOn, done⟩ := @perform_typed target _ _ _ _ _ _ _ first asked
      obtain ⟨after, left, same⟩ := inductionHypothesis done
      exact ⟨after, left, (loop_command holds.input isWords goesOn).trans same⟩

/-- The input ends, or goes on with `QUIT`. -/
def Quits (input : List String) : Prop :=
  ∀ line ∈ input.head?, ∃ verb operands, tokenizeWs line = verb :: operands ∧
    canonicalCommand verb = "QUIT"

/-- `QUIT` and the end of the input change no file. -/
theorem loop_quits (quits : Quits state.input) : (loop target state).voc = state.voc := by
  obtain ⟨lines, input, output, voc⟩ := state
  cases input with
  | nil => rw [loop]; rfl
  | cons line rest =>
      obtain ⟨verb, operands, isWords, isQuit⟩ := quits line rfl
      rw [loop]
      dsimp only
      rw [isWords]
      dsimp only
      rw [if_pos isQuit]
      rfl

end Commands

/-! ## What is saved -/

section Saved

variable {target : EditorTarget} {voc : VocState} {raw saveLine : String}
  {lines typed rest result : List String}

/-- The record that is edited is stored as a text. -/
abbrev StoredAs (target : EditorTarget) (voc : VocState) (raw : String) : Prop :=
  PickFS.Stored target.fileSystem voc.files target.fileName target.recordKey raw

/-- The lines of a stored record are written over it. -/
theorem exec_writeLines (stored : StoredAs target voc raw) (lines : List String) :
    ∃ after, exec (writeLines target lines) voc = (.ok (), after) ∧
      StoredAs target after (joinLines lines) := by
  obtain ⟨files, wrote, after⟩ := PickFS.stored_of_writable stored.toWritable (joinLines lines)
  have found : exec (ensureFileExistsForWrite target) voc.files = (.ok (), voc.files) := by
    rw [ensureFileExistsForWrite, exec_tryCatch, exec_bind,
      PickFS.exec_openFile_of_writable stored.toWritable]
    rfl
  have written : exec (PickVoc.onFiles do
      ensureFileExistsForWrite target
      target.fileSystem.write target.fileName (.ofText target.recordKey (joinLines lines))) voc =
      (.ok (), { voc with files }) := by
    rw [PickVoc.onFiles, exec_zoom, exec_bind, found]
    dsimp only
    rw [wrote]
  rw [writeLines, PickVoc.changeFile, exec_bind, written]
  unfold PickVoc.invalidateIfVoc
  dsimp only
  split
  · exact ⟨_, rfl, after⟩
  · exact ⟨_, rfl, after⟩

/-- The editor opens on the lines of the record. -/
theorem exec_openLines (stored : StoredAs target voc raw) :
    exec (openLines target) voc.files = (.ok (textLines raw), voc.files) := by
  rw [openLines, exec_bind, PickFS.exec_read stored]
  dsimp only
  rw [PickFS.Record.value_ofText]
  rfl

/-- A line that is typed for `SAVE`. -/
def Saves (line : String) : Prop :=
  ∃ verb operands, tokenizeWs line = verb :: operands ∧ canonicalCommand verb = "SAVE"

/-- A save that succeeds prints nothing. -/
theorem cmdSave_done {state : EditorState} {after : VocState}
    (wrote : exec (writeLines target state.lines) state.voc = (.ok (), after)) :
    cmdSave target state = { state with voc := after } := by
  rw [cmdSave, wrote]

/-- After the commands and `SAVE` the record is stored with the lines that they have left. -/
theorem stored_after_edits (stored : StoredAs target voc raw)
    (edits : Edits (textLines raw) typed result) (saves : Saves saveLine) (quits : Quits rest)
    (highlightPhysicalLine : Option ℤ) :
    StoredAs target (runLineRecordEditorForLocation target highlightPhysicalLine
      (typed ++ saveLine :: rest) voc).voc (joinLines result) := by
  have opened : exec (PickVoc.onFiles (openLines target)) voc = (.ok (textLines raw), voc) := by
    rw [PickVoc.onFiles, exec_zoom, exec_openLines stored]
  -- The line that is shown first changes nothing.
  obtain ⟨start, holds, same⟩ : ∃ start, Holds (textLines raw) (typed ++ saveLine :: rest) voc start ∧
      runLineRecordEditorForLocation target highlightPhysicalLine (typed ++ saveLine :: rest) voc =
        loop target start := by
    rw [runLineRecordEditorForLocation, opened]
    dsimp only
    cases highlightPhysicalLine with
    | none => exact ⟨_, ⟨rfl, rfl, rfl⟩, rfl⟩
    | some row =>
        refine ⟨_, ?_, rfl⟩
        split
        · unfold cmdList
          split <;> exact ⟨rfl, rfl, rfl⟩
        · exact ⟨rfl, rfl, rfl⟩
  obtain ⟨edited, holds, toSave⟩ := @loop_edits target _ _ _ _ _ _ edits holds
  obtain ⟨verb, operands, isWords, isSave⟩ := saves
  obtain ⟨after, wrote, storedAfter⟩ := exec_writeLines stored result
  rw [same, toSave, loop_command holds.input isWords (by rw [isSave]; decide), perform_save isSave]
  have wrote : exec (writeLines target (say "ED> " { edited with input := rest }).lines)
      (say "ED> " { edited with input := rest }).voc = (.ok (), after) := by
    have isLines : (say "ED> " { edited with input := rest }).lines = result := holds.lines
    have isVoc : (say "ED> " { edited with input := rest }).voc = voc := holds.voc
    rw [isLines, isVoc, wrote]
  rw [cmdSave_done wrote, loop_quits quits]
  exact storedAfter

/-- The attributes of the record. -/
def attributes (target : EditorTarget) (voc : VocState) : Option (List String) :=
  match (exec (target.fileSystem.read target.fileName target.recordKey) voc.files).1 with
  | .ok (some record) => some (cells record.value)
  | _ => none

/-- The attributes of a stored record are the lines of its text. -/
theorem attributes_eq (stored : StoredAs target voc raw) :
    attributes target voc = some (cells raw) := by
  rw [attributes, PickFS.exec_read stored]
  dsimp only
  rw [PickFS.Record.value_ofText]

/-- Two texts with the same lines are the same. -/
theorem cells_inj {raw' : String} : cells raw = cells raw' ↔ raw = raw' := by
  constructor
  · intro same
    rw [← joinLines_cells raw, same, joinLines_cells]
  · rintro rfl
    rfl

/-- The lines after a command were there or have been typed. -/
theorem mem_edited {edit : Option Edit} {line : String} (isTyped : Typed lines typed edit)
    (member : line ∈ edited lines edit) : line ∈ lines ∨ line ∈ typed := by
  have inBlock : ∀ {block more : List String} (first : String), Block block more → line ∈ block →
      line ∈ first :: more := by
    rintro block more first ⟨-, period, -, rfl⟩ inside
    exact List.mem_cons_of_mem _ (List.mem_append_left _ inside)
  cases isTyped with
  | insert isWords command place isBlock =>
      rcases List.mem_append.mp member with member | member
      · rcases List.mem_append.mp member with member | member
        · exact .inl (List.mem_of_mem_take member)
        · exact .inr (inBlock _ isBlock member)
      · exact .inl (List.mem_of_mem_drop member)
  | replace isWords command place isBlock notEmpty =>
      rcases List.mem_append.mp member with member | member
      · rcases List.mem_append.mp member with member | member
        · exact .inl (List.mem_of_mem_take member)
        · exact .inr (inBlock _ isBlock member)
      · exact .inl (List.mem_of_mem_drop member)
  | delete isWords command place =>
      rcases List.mem_append.mp member with member | member
      · exact .inl (List.mem_of_mem_take member)
      · exact .inl (List.mem_of_mem_drop member)
  | replaceNothing => exact .inl member
  | refusedInsert => exact .inl member
  | refused => exact .inl member

/-- The lines after a sequence of commands have no newlines. -/
theorem clean_edits (edits : Edits lines typed result) (cleanLines : ∀ line ∈ lines, '\n' ∉ line.toList)
    (cleanTyped : ∀ line ∈ typed, '\n' ∉ line.toList) : ∀ line ∈ result, '\n' ∉ line.toList := by
  induction edits with
  | done lines => exact cleanLines
  | @command lines typed rest result edit first _ inductionHypothesis =>
      obtain ⟨cleanFirst, cleanRest⟩ := List.forall_mem_append.mp cleanTyped
      refine inductionHypothesis (fun line member => ?_) cleanRest
      rcases mem_edited first member with wasThere | isNew
      · exact cleanLines line wasThere
      · exact cleanFirst line isNew

/-- `EDIT` and `SAVE` keep the attributes of a record, and a record that is opened again has the
lines that the commands have left, exactly when no empty line comes last. -/
theorem keeps_record_iff (stored : StoredAs target voc raw)
    (cleanTyped : ∀ line ∈ typed, '\n' ∉ line.toList) (edits : Edits (cells raw) typed result)
    (saves : Saves saveLine) (quits : Quits rest) (highlightPhysicalLine : Option ℤ) :
    (attributes target (runLineRecordEditorForLocation target highlightPhysicalLine
        (saveLine :: rest) voc).voc = some (cells raw) ∧
      (exec (openLines target) (runLineRecordEditorForLocation target highlightPhysicalLine
        (typed ++ saveLine :: rest) voc).voc.files).1 = .ok result) ↔
      raw.toList.getLast? ≠ some '\n' ∧ result.getLast? ≠ some "" := by
  have unedited := stored_after_edits stored (.done _) saves quits highlightPhysicalLine
  rw [List.nil_append] at unedited
  rw [attributes_eq unedited, Option.some_inj, cells_inj, joinLines_textLines]
  refine and_congr_right fun unended => ?_
  have cleanResult := clean_edits edits (fun line => PickFS.newline_not_mem_cells) cleanTyped
  rw [← textLines_eq_cells unended] at edits
  have saved := stored_after_edits stored edits saves quits highlightPhysicalLine
  rw [exec_openLines saved]
  dsimp only
  rw [Except.ok.injEq, textLines_joinLines cleanResult]

/-! ### A record that is kept, and one that is not -/

/-- The record that is edited. -/
def fileTarget : EditorTarget where
  fileSystem := PickFS.plainFiles
  fileName := "F"
  recordKey := "R"

/-- A session whose file `F` has one record. -/
def recordVoc (text : String) : VocState where
  files := { disk := fun _ => AList.insert "F" (.directory (AList.insert ("R", .item) text ∅)) ∅ }

/-- It is stored with its text. -/
theorem stored_recordVoc (text : String) : StoredAs fileTarget (recordVoc text) text := by
  have read := @PickFS.stored_of_read PickFS.plainFiles (recordVoc text).files _ "F" "R"
    (.ofText "R" text) rfl (Prod.ext rfl rfl)
  rwa [PickFS.Record.value_ofText] at read

/-- `FI` in lower case saves. -/
theorem saves_fi : Saves "fi" := ⟨"fi", [], rfl, by decide +kernel⟩

/-- An input that has ended quits. -/
theorem quits_nil : Quits [] := by
  rintro line ⟨⟩

/-- A line that is put after the last one. -/
theorem edits_insert {text : String} {lines : List String} (noPeriod : trimAscii text ≠ ".") :
    Edits lines ["i", text, "."] (lines.take lines.length ++ [text] ++ lines.drop lines.length) :=
  .command (.insert rfl (by decide +kernel) rfl
    ⟨List.forall_mem_singleton.mpr noPeriod, ".", by decide +kernel, rfl⟩) (.done _)

/-- A line is appended to a record of one line; without changes the record stays what it was. -/
theorem line_inserted :
    attributes fileTarget (runLineRecordEditorForLocation fileTarget none ["fi"]
        (recordVoc "A")).voc = some (cells "A") ∧
      (exec (openLines fileTarget) (runLineRecordEditorForLocation fileTarget none
        ["i", "B", ".", "fi"] (recordVoc "A")).voc.files).1 = .ok ["A", "B"] :=
  (keeps_record_iff (stored_recordVoc "A") (by decide +kernel)
    (edits_insert (by decide +kernel)) saves_fi quits_nil none).mpr
    ⟨by decide, by decide⟩

/-- An empty attribute at the end is lost, and so is an empty line that is put there. -/
theorem empty_line_lost :
    attributes fileTarget (recordVoc "A\n") = some ["A", ""] ∧
      attributes fileTarget (runLineRecordEditorForLocation fileTarget none ["fi"]
        (recordVoc "A\n")).voc = some ["A"] ∧
      (exec (openLines fileTarget) (runLineRecordEditorForLocation fileTarget none
        ["i", "", ".", "fi"] (recordVoc "A")).voc.files).1 = .ok ["A"] := by
  refine ⟨attributes_eq (stored_recordVoc "A\n"), ?_, ?_⟩
  · exact attributes_eq
      (stored_after_edits (stored_recordVoc "A\n") (.done _) saves_fi quits_nil none)
  · have inserted := stored_after_edits (stored_recordVoc "A")
      (@edits_insert "" ["A"] (by decide +kernel)) saves_fi quits_nil none
    exact congrArg Prod.fst (exec_openLines inserted)

end Saved

end Gemini.PickShell.LineRecordEditor
