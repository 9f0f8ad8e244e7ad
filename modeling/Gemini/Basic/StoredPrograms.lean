import Gemini.Basic.SourceText
import Gemini.PickFS.Changes

/-!
# Programs that are typed in and stored

A numbered line at the prompt goes into the program as its words. A program is saved line by
line, as a number and a text, and is loaded as the shell reads any record.
-/

namespace Gemini.Basic

open Gemini.Data Gemini.Semantics Program
open Gemini.VM (isSpace stoi intMin intMax)
open Gemini.PickFS (FileSystem FileM World Record Writable)
open Gemini.PickFS.StructuredRecord (getlines getlines_flatMap)

/-! ## Lines at the prompt -/

/-- A line at the prompt of the BASIC shell. One that is not numbered is a command, and is no
change to the program here. -/
def handleBasicCommand (program : BasicProgram) (line : List Char) : BasicProgram :=
  match tokenize line with
  | [] => program
  | token :: rest =>
      match parseLineNumber token with
      | none => program
      | some lineNumber =>
          if rest.isEmpty then program.erase lineNumber
          else program.insert lineNumber (String.ofList (joinTokens rest))

/-- A leading number is a positive `int`. -/
theorem leadingNumber_bounds {token : List Char} {number : Int}
    (isNumber : leadingNumber token = some number) : 0 < number ∧ number ≤ intMax := by
  unfold leadingNumber at isNumber
  obtain ⟨found, positive⟩ := Option.filter_eq_some_iff.mp isNumber
  obtain ⟨⟨value, rest⟩, scanned, rfl⟩ := Option.map_eq_some_iff.mp found
  refine ⟨by simpa using positive, ?_⟩
  unfold stoi at scanned
  obtain ⟨⟨negative, magnitude, left⟩, -, bounded⟩ := Option.bind_eq_some_iff.mp scanned
  dsimp only at bounded
  split at bounded
  · cases bounded
  · next inRange =>
      obtain ⟨rfl, -⟩ := Prod.mk.inj (Option.some.inj bounded)
      simp only [Bool.or_eq_true, decide_eq_true_eq, not_or] at inRange
      omega

/-- A number token is digits, which have no quote. -/
theorem parseLineNumber_eq_some {token : List Char} {number : Int}
    (parsed : parseLineNumber token = some number) :
    leadingNumber token = some number ∧ ∀ letter ∈ token, letter.isDigit = true := by
  unfold parseLineNumber at parsed
  split at parsed
  · cases parsed
  · next digits =>
      have both : token ≠ [] ∧ ∀ letter ∈ token, letter.isDigit = true := by simpa using digits
      exact ⟨parsed, both.2⟩

/-- A line that the shell takes a text from, with its token and the words after it. -/
theorem loadLine_eq_some {line : List Char} {number : Int} {text : String}
    (loads : loadLine line = some (number, text)) :
    ∃ token rest, tokenize line = token :: rest ∧ parseLineNumber token = some number ∧
      text = String.ofList (joinTokens rest) := by
  unfold loadLine at loads
  split at loads
  · cases loads
  · next token rest known =>
      obtain ⟨found, parsed, same⟩ := Option.map_eq_some_iff.mp loads
      obtain ⟨rfl, rfl⟩ := Prod.mk.inj same
      exact ⟨token, rest, known, parsed, rfl⟩

/-- The literals of a line are squeezed when it goes into the program. -/
theorem literals_of_loadLine {line : List Char} {number : Int} {text : String}
    (loads : loadLine line = some (number, text)) :
    literals text.toList = (literals line).map (squeezed isSpace ' ') := by
  obtain ⟨token, rest, known, parsed, rfl⟩ := loadLine_eq_some loads
  have digits := (parseLineNumber_eq_some parsed).2
  have clean : '"' ∉ token := fun member => absurd (digits _ member) (by decide)
  rw [← literals_respaced, ← joinTokens_tokenize, known, String.toList_ofList]
  cases rest with
  | nil =>
      have none : literals [] = literals token := by
        have short := @literals_append_left [] token clean
        rwa [List.append_nil, eq_comm] at short
      simpa [joinTokens, joined] using none
  | cons next more =>
      have joins : joinTokens (token :: next :: more) =
          (token ++ [' ']) ++ joinTokens (next :: more) := by
        rw [joinTokens, joined, List.intercalate_cons_of_ne_nil (List.cons_ne_nil _ _)]
        rfl
      rw [joins, literals_append_left (by simp [clean])]

/-- A change keeps a list when it keeps all of its items. -/
theorem map_eq_self_iff {Item : Type} {change : Item → Item} (items : List Item) :
    items.map change = items ↔ ∀ item ∈ items, change item = item := by
  conv_lhs => rhs; rw [← List.map_id items]
  exact List.map_inj_left

/-- A line keeps its literals exactly when each of them has single gaps. -/
theorem literals_kept_iff {line : List Char} {number : Int} {text : String}
    (loads : loadLine line = some (number, text)) :
    literals text.toList = literals line ↔
      ∀ literal ∈ literals line, SingleGaps isSpace ' ' literal := by
  rw [literals_of_loadLine loads, map_eq_self_iff]
  exact forall₂_congr fun literal _ => squeezed_eq_self_iff literal

/-- A numbered line with a text goes into the program as the shell would load it. -/
theorem handleBasicCommand_eq {program : BasicProgram} {line : List Char} {number : Int}
    {text : String} (loads : loadLine line = some (number, text)) (some : text ≠ "") :
    handleBasicCommand program line = program.insert number text := by
  obtain ⟨token, rest, known, parsed, rfl⟩ := loadLine_eq_some loads
  have notEmpty : rest.isEmpty = false := by
    cases rest with
    | nil => exact absurd rfl some
    | cons => rfl
  rw [handleBasicCommand, known]
  simp only [parsed, notEmpty, Bool.false_eq_true, if_false]

/-! ## Saving -/

/-- A line as `flushProgramSourceToDisk` writes it. -/
def savedLine (line : Int × String) : List Char :=
  (toString line.1).toList ++ if line.2 = "" then [] else ' ' :: line.2.toList

/-- The source text that `flushProgramSourceToDisk` stores. -/
def sourceText (program : BasicProgram) : String :=
  String.ofList (program.entries.flatMap fun line => savedLine line ++ ['\n'])

/-- What a line can be that the shell has loaded. -/
structure Loadable (line : Int × String) : Prop where
  positive : 0 < line.1
  bounded : line.1 ≤ intMax
  spaced : SingleSpaced isSpace ' ' line.2.toList

/-- A line that is loaded is loadable. -/
theorem loadable_of_loadLine {line : List Char} {entry : Int × String}
    (loads : loadLine line = some entry) : Loadable entry := by
  obtain ⟨token, rest, known, parsed, isText⟩ := @loadLine_eq_some line entry.1 entry.2 loads
  obtain ⟨positive, bounded⟩ := leadingNumber_bounds (parseLineNumber_eq_some parsed).1
  refine ⟨positive, bounded, ?_⟩
  have tokens : ∀ word ∈ rest, word ≠ [] ∧ ∀ letter ∈ word, isSpace letter = false := by
    intro word member
    refine @mem_words _ isSpace line word ?_
    rw [← tokenize, known]
    exact List.mem_cons_of_mem _ member
  rw [isText, String.toList_ofList, ← respaced_eq_self_iff rfl, respaced, joinTokens,
    words_joined rfl tokens]

/-- A positive `int` is read back from its digits. -/
theorem leadingNumber_toString {number : Int} (positive : 0 < number) (bounded : number ≤ intMax) :
    leadingNumber (toString number).toList = some number := by
  have scanned := @VM.scanInteger_toString number [] nofun
  have inRange : (decide (number < intMin) || decide (intMax < number)) = false := by
    have least : intMin ≤ 0 := by decide
    simp
    omega
  have sign := VM.signed_natAbs number
  rw [List.append_nil] at scanned
  rw [leadingNumber, stoi, scanned]
  simp only [Option.bind_eq_bind, Option.bind_some, sign, inRange, Bool.false_eq_true, if_false]
  simp [positive]

/-- A positive number is printed as digits alone. -/
theorem digits_of_positive {number : Int} (positive : 0 < number) :
    ∀ letter ∈ (toString number).toList, letter.isDigit = true := by
  intro letter member
  rw [VM.toList_toString_int, if_neg (by omega)] at member
  exact VM.isDigit_of_mem_digits member

/-- A line that is saved is loaded as it was. -/
theorem loadLine_savedLine {line : Int × String} (loadable : Loadable line) :
    loadLine (savedLine line) = some line := by
  obtain ⟨number, text⟩ := line
  obtain ⟨positive, bounded, spaced⟩ := loadable
  have digits := digits_of_positive positive
  have notEmpty : (toString number).toList ≠ [] := fun none =>
    VM.toString_int_ne_empty number (String.toList_eq_nil_iff.mp none)
  have letters : ∀ letter ∈ (toString number).toList, isSpace letter = false :=
    fun letter member => VM.isSpace_of_isDigit (digits letter member)
  have parsed : parseLineNumber (toString number).toList = some number := by
    rw [parseLineNumber_of_digits notEmpty (List.all_eq_true.mpr digits)]
    exact leadingNumber_toString positive bounded
  have tokens : tokenize (savedLine (number, text)) =
      (toString number).toList :: tokenize text.toList := by
    have saved : savedLine (number, text) =
        (toString number).toList ++ if text = "" then [] else ' ' :: text.toList := rfl
    have ends : atGap isSpace (if text = "" then [] else ' ' :: text.toList) = true := by
      split <;> rfl
    rw [saved, tokenize, words_append notEmpty letters ends]
    split
    · next none =>
        subst none
        rfl
    · rw [words_cons_blank rfl, tokenize]
  rw [loadLine, tokens]
  simp only [parsed, Option.map_some, joinTokens_tokenize, (respaced_eq_self_iff rfl _).mpr spaced,
    String.ofList_toList]

/-- A loadable line is saved on one line. -/
theorem newline_not_mem_savedLine {line : Int × String} (loadable : Loadable line) :
    '\n' ∉ savedLine line := by
  intro member
  rcases List.mem_append.mp member with inNumber | inText
  · exact absurd (digits_of_positive loadable.positive _ inNumber) (by decide)
  · split at inText
    · cases inText
    · rcases List.mem_cons.mp inText with same | later
      · exact absurd same (by decide)
      · exact absurd (loadable.spaced.gaps '\n' later (by decide)) (by decide)

/-- A program is loaded as it was saved exactly when the shell could have loaded its lines. -/
theorem loadProgramIfPresent_sourceText_iff (program : BasicProgram) :
    loadProgramIfPresent (sourceText program) = program ↔
      ∀ line ∈ program.entries, Loadable line := by
  constructor
  · intro same line member
    rw [← same] at member
    rcases OrderedMap.mem_insertAll member with none | inLines
    · cases none
    · obtain ⟨source, -, loads⟩ := List.mem_filterMap.mp inLines
      exact loadable_of_loadLine loads
  · intro loadable
    have lines := getlines_flatMap savedLine program.entries
      fun line member => newline_not_mem_savedLine (loadable line member)
    have loaded : (program.entries.map savedLine).filterMap loadLine = program.entries := by
      rw [List.filterMap_map]
      conv_rhs => rw [← List.filterMap_some (l := program.entries)]
      exact List.filterMap_congr fun line member => loadLine_savedLine (loadable line member)
    rw [loadProgramIfPresent, sourceText, String.toList_ofList, lines, loaded,
      OrderedMap.insertAll_entries]

/-! ## The stored record -/

/-- A record of a program, with its file; the file is made when it is not there. -/
def writeProgramRecord (fileSystem : FileSystem) (fileName recordKey payload : String) :
    FileM Unit := do
  tryCatch (do let _ ← fileSystem.openFile fileName) fun error =>
    if "File not found: ".isPrefixOf error then fileSystem.createFile fileName else throw error
  fileSystem.write fileName (.ofText recordKey payload)

/-- The text of a record; none when it cannot be read. -/
def readProgramRecord (fileSystem : FileSystem) (fileName recordKey : String) (world : World) :
    Option String :=
  match (exec (fileSystem.read fileName recordKey) world).1 with
  | .ok record => record.map Record.value
  | .error _ => none

/-- `SAVE`. -/
def saveProgram (fileSystem : FileSystem) (fileName recordKey : String) (program : BasicProgram) :
    FileM Unit :=
  writeProgramRecord fileSystem fileName recordKey (sourceText program)

/-- The program after `LOAD`: without a record it has no lines. -/
def loadProgram (fileSystem : FileSystem) (fileName recordKey : String) (world : World) :
    BasicProgram :=
  ((readProgramRecord fileSystem fileName recordKey world).map loadProgramIfPresent).getD .empty

section Stored

variable {fileSystem : FileSystem} {fileName recordKey payload : String} {world after : World}

/-- The file system does not make a host fail. -/
theorem faithful_of_changes {deletes : String → Prop}
    (changes : PickFS.Changes fileSystem deletes world after) (faithful : world.faults = []) :
    after.faults = [] := by
  induction changes with
  | refl => exact faithful
  | tail _ change inductionHypothesis =>
      cases change with
      | faults => simp [inductionHypothesis]
      | directory => exact inductionHypothesis
      | locks => exact inductionHypothesis

/-- A file that is opened or made. -/
theorem opensProgramFile_changes {deletes : String → Prop} {start : World}
    (fileSystem : FileSystem) (fileName : String) :
    Keeps (PickFS.Changes fileSystem deletes start)
      (tryCatch (do let _ ← fileSystem.openFile fileName) fun error =>
        if "File not found: ".isPrefixOf error then fileSystem.createFile fileName
        else throw error) := by
  refine Keeps.tryCatch ?_ fun error => ?_
  · refine (PickFS.openFile_ensures PickFS.steady_changes fileName).bind fun _ => ?_
    exact Ensures.pure fun _ reached => reached.1
  · split
    · exact PickFS.createFile_changes fileName
    · exact Ensures.throw fun _ reached => reached

/-- What has been written is read. -/
theorem readProgramRecord_of_write (faithful : world.faults = [])
    (done : exec (writeProgramRecord fileSystem fileName recordKey payload) world =
      (.ok (), after)) :
    readProgramRecord fileSystem fileName recordKey after = some payload := by
  obtain ⟨_, middle, made, wrote⟩ := exec_bind_eq_ok.mp done
  clear done
  -- The file was there, or has been made; neither makes the host fail.
  have changes : PickFS.Changes fileSystem (fun _ => False) world middle := by
    have kept := @opensProgramFile_changes (fun _ => False) world fileSystem fileName world .refl
    rwa [made] at kept
  have writable : Writable fileSystem middle fileName recordKey :=
    PickFS.writable_of_write (faithful_of_changes changes faithful) wrote
  obtain ⟨written, wroteSame, stored⟩ := PickFS.stored_of_writable writable payload
  rw [wrote] at wroteSame
  obtain rfl := (Prod.mk.inj wroteSame).2
  rw [readProgramRecord, PickFS.exec_read stored]
  simp only [Option.map_some, PickFS.Record.value_ofText]

/-- `SAVE` and then `LOAD` give back the program exactly when its lines are loadable. -/
theorem loadProgram_saved_iff {program : BasicProgram} (faithful : world.faults = [])
    (saved : exec (saveProgram fileSystem fileName recordKey program) world = (.ok (), after)) :
    loadProgram fileSystem fileName recordKey after = program ↔
      ∀ line ∈ program.entries, Loadable line := by
  rw [loadProgram, readProgramRecord_of_write faithful saved]
  exact loadProgramIfPresent_sourceText_iff program

end Stored

/-! ## One text, one program -/

/-- A line that is typed in is a line of the program, and keeps its literals exactly when these
have single gaps. -/
theorem typed_line (program : BasicProgram) {line : List Char} {number : Int} {text : String}
    (loads : loadLine line = some (number, text)) (some : text ≠ "") :
    (number, text) ∈ (handleBasicCommand program line).entries ∧
      (literals text.toList = literals line ↔
        ∀ literal ∈ literals line, SingleGaps isSpace ' ' literal) := by
  refine ⟨?_, literals_kept_iff loads⟩
  rw [handleBasicCommand_eq loads some, OrderedMap.insert]
  exact (OrderedMap.mem_insertEntry_iff program.ascending _).mpr (.inl rfl)

/-- The shell and `RUN` see one program in a record of tidy lines, and in no other record
without repeated numbers; a typed line keeps its literals exactly when these have single gaps;
and a saved program is loaded as it was exactly when its lines are loadable. -/
theorem sourceText_laws (source : String) (program : BasicProgram) :
    ((∀ line ∈ getlines source.toList, Tidy line) →
      loadProgramIfPresent source = programForRun source) ∧
    (((getlines source.toList).filterMap runLine).Pairwise
        (fun first second => first.1 ≠ second.1) →
      loadProgramIfPresent source = programForRun source →
        ∀ line ∈ getlines source.toList, Tidy line) ∧
    (∀ (line : List Char) (number : Int) (text : String),
      loadLine line = some (number, text) → text ≠ "" →
        (number, text) ∈ (handleBasicCommand program line).entries ∧
        (literals text.toList = literals line ↔
          ∀ literal ∈ literals line, SingleGaps isSpace ' ' literal)) ∧
    ∀ (fileSystem : FileSystem) (fileName recordKey : String) (world after : World),
      world.faults = [] →
      exec (saveProgram fileSystem fileName recordKey program) world = (.ok (), after) →
        (loadProgram fileSystem fileName recordKey after = program ↔
          ∀ line ∈ program.entries, Loadable line) :=
  ⟨programs_eq_of_tidy, tidy_of_programs_eq, fun _ _ _ => typed_line program,
    fun _ _ _ _ _ => loadProgram_saved_iff⟩

/-- The program that is typed in as one line. -/
def greeting : BasicProgram := ⟨[(10, "PRINT \"A B\"")], by simp⟩

/-- The one line of the program is loadable. -/
theorem greeting_loadable : ∀ line ∈ greeting.entries, Loadable line := by
  intro line member
  rw [List.mem_singleton.mp member]
  exact ⟨by decide, by decide, (respaced_eq_self_iff rfl _).mp (by decide)⟩

/-- Single blanks are kept in every way. -/
theorem greeting_kept :
    loadProgramIfPresent "10 PRINT \"A B\"\n" = programForRun "10 PRINT \"A B\"\n" ∧
      literals "PRINT \"A B\"".toList = literals "10 PRINT \"A B\"".toList ∧
      loadProgram PickFS.dataFiles "BP" "HELLO"
        (exec (saveProgram PickFS.dataFiles "BP" "HELLO" greeting) PickFS.emptyWorld).2 =
          greeting := by
  have saved : exec (saveProgram PickFS.dataFiles "BP" "HELLO" greeting) PickFS.emptyWorld =
      (.ok (), (exec (saveProgram PickFS.dataFiles "BP" "HELLO" greeting) PickFS.emptyWorld).2) :=
    Prod.ext (by decide +kernel) rfl
  obtain ⟨alike, -, -, returned⟩ := sourceText_laws "10 PRINT \"A B\"\n" greeting
  obtain ⟨-, -, typed, -⟩ := sourceText_laws "" {}
  obtain ⟨-, kept⟩ := typed "10 PRINT \"A B\"".toList 10 "PRINT \"A B\"" (by decide +kernel)
    (by decide)
  refine ⟨alike ?_, kept.mpr ?_,
    (returned PickFS.dataFiles "BP" "HELLO" PickFS.emptyWorld _ rfl saved).mpr
      greeting_loadable⟩
  · intro line member
    rw [← loadLine_eq_runLine_iff]
    revert line member
    decide +kernel
  · intro literal member
    rw [← squeezed_eq_self_iff]
    revert literal member
    decide +kernel

/-- Two blanks in a literal are one for the shell and two for `RUN`, and one when they are
typed. -/
theorem two_blanks_differ :
    (loadProgramIfPresent "10 PRINT \"A  B\"\n").entries = [(10, "PRINT \"A B\"")] ∧
      (programForRun "10 PRINT \"A  B\"\n").entries = [(10, "PRINT \"A  B\"")] ∧
      literals "10 PRINT \"A  B\"".toList = ["A  B".toList] ∧
      (handleBasicCommand {} "10 PRINT \"A  B\"".toList).entries = [(10, "PRINT \"A B\"")] ∧
      literals "PRINT \"A B\"".toList = ["A B".toList] := by
  decide +kernel

end Gemini.Basic
