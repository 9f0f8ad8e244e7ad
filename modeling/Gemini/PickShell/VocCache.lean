import Gemini.Semantics.Run
import Gemini.Basic.StoredPrograms
import Gemini.English.DictionaryResolver
import Gemini.PickFS.FileFrame
import Gemini.PickShell.LineRecordEditor
import Gemini.VM.LanguageRegistry
import Gemini.VM.RecordWrites

/-!
# The VOC that a session has loaded

A session resolves verbs and programs with the table of `VOC` that it loaded when it was first
asked. The commands of the shell that write to `VOC` drop the table, so that the next question
loads it again. A BASIC program writes to the file system below the shell, and so does
`DEFINE-FIELD`, which does not expect a dictionary to be `VOC`: after these the session goes on
with the old table.

A run of a session is a list of actions: the questions that the dispatch of a command asks, the
bodies of the commands on records and files, what a PROC and the program commands do to them,
and the instructions of the BASIC program, one at a time.
-/

namespace Gemini.PickShell

open Gemini.Semantics Program
open Gemini.PickFS (World FileSystem FileHandle FileM Record)
open Gemini.PickVoc (VocResolver VocState VocM ProgramLocation upperAscii)
open Gemini.VM (Doubles Value Instruction Machine Host FileBackend BasicFunction Handler
  registerBasicLanguage kNamespaceIdBasic writtenRecord)
open Gemini.English (FieldItems fileCall exec_fileCall)

namespace VocCache

/-! ## Sessions -/

/-- The files, and whatever else the builtins and the system variables look at. -/
structure Surroundings (Rest : Type) where
  files : World
  rest : Rest

/-- A session. Its files are the world of its machine. -/
structure VocSession (Double Rest : Type) where
  resolver : VocResolver := {}
  defaultDataFile : Option String := none
  output : String := ""
  program : List (Instruction Double) := []
  machine : Machine Double (Surroundings Rest)

variable {Double Rest : Type}

namespace VocSession

/-- The resolver and the files. -/
def voc (session : VocSession Double Rest) : VocState where
  resolver := session.resolver
  files := session.machine.memory.environment.world.files

/-- The session in other surroundings. -/
def withWorld (session : VocSession Double Rest) (world : Surroundings Rest) :
    VocSession Double Rest :=
  { session with
    machine := { session.machine with
      memory := { session.machine.memory with
        environment := { session.machine.memory.environment with world } } } }

/-- The session with another resolver and other files. -/
def withVoc (session : VocSession Double Rest) (voc : VocState) : VocSession Double Rest :=
  { session.withWorld { session.machine.memory.environment.world with files := voc.files } with
    resolver := voc.resolver }

/-- The resolver and the files that have been set. -/
@[simp] theorem voc_withVoc (session : VocSession Double Rest) (voc : VocState) :
    (session.withVoc voc).voc = voc := rfl

end VocSession

/-- A program that works on a session, and may throw an error text. -/
abbrev SessionM (Double Rest : Type) := Program (VocSession Double Rest) String

/-- A program of the resolver, in the session. -/
def onVoc {Result : Type} (program : VocM Result) : SessionM Double Rest Result :=
  Program.zoom VocSession.voc VocSession.withVoc program

/-- A call of the file system, in the session. -/
def onFiles {Result : Type} (program : FileM Result) : SessionM Double Rest Result :=
  onVoc (PickVoc.onFiles program)

/-- Print a text. -/
def say (text : String) : SessionM Double Rest Unit :=
  modify fun session => { session with output := session.output ++ text }

/-- A body whose exceptions are printed. -/
def reporting (body : SessionM Double Rest Unit) : SessionM Double Rest Unit :=
  tryCatch body fun what => say ("Error: " ++ what ++ "\n")

/-- A change of a file by the shell. -/
def changeFile {Result : Type} (fileName : String) (program : FileM Result) :
    SessionM Double Rest Result :=
  onVoc (PickVoc.changeFile fileName program)

/-! ## The commands on records -/

/-- The record that a command reads. -/
structure FileRecordReadTarget where
  fileName : String
  recordKey : String

/-- The record that a command writes, and the token where the value starts. -/
structure FileRecordWriteTarget where
  fileName : String
  recordKey : String
  valueStart : Nat := 0

/-- `parseFileRecordReadOperands`: the file may be the default one. -/
def parseFileRecordReadOperands (tokens : List String) (defaultDataFile : Option String) :
    Option FileRecordReadTarget :=
  match tokens, defaultDataFile with
  | [_, fileName, recordKey], _ => some { fileName, recordKey }
  | [_, recordKey], some fileName => some { fileName, recordKey }
  | _, _ => none

/-- `parseFileRecordWriteOperands`. -/
def parseFileRecordWriteOperands (tokens : List String) (defaultDataFile : Option String) :
    Option FileRecordWriteTarget :=
  match tokens, defaultDataFile with
  | _ :: fileName :: recordKey :: _ :: _, _ => some { fileName, recordKey, valueStart := 3 }
  | [_, recordKey, _], some fileName => some { fileName, recordKey, valueStart := 2 }
  | _, _ => none

/-- The message for operands that are missing. -/
def fileRecordReadArityMessage (verb : String) : String :=
  verb ++ " requires a file and record name (or " ++ verb ++
    " <record> when MD DEFDATA is set)\n"

/-- The message for operands of a write that are missing. -/
def fileRecordWriteArityMessage (verb : String) : String :=
  verb ++ " requires a file, record name, and value (or " ++ verb ++
    " <record> <value> when MD DEFDATA is set)\n"

/-- The value of a write, its tokens with blanks between them. -/
def joinTokensFrom (tokens : List String) (start : Nat) : String :=
  " ".intercalate (tokens.drop start)

section Commands

variable (fileSystem : FileSystem)

/-- `READ` and `READU`. -/
def readWith (verb : String) (read : String → String → FileM (Option Record))
    (tokens : List String) : SessionM Double Rest Unit := do
  match parseFileRecordReadOperands tokens (← get).defaultDataFile with
  | none => say (fileRecordReadArityMessage verb)
  | some target => reporting do
      match ← onFiles (read target.fileName target.recordKey) with
      | none => say "No such record\n"
      | some record => say (record.value ++ "\n")

/-- `cmdRead`. -/
def cmdRead (tokens : List String) : SessionM Double Rest Unit :=
  readWith "READ" fileSystem.read tokens

/-- `cmdReadU`. -/
def cmdReadU (tokens : List String) : SessionM Double Rest Unit :=
  readWith "READU" fileSystem.readU tokens

/-- `WRITE` and `WRITEU`. -/
def writeWith (verb : String) (write : String → Record → FileM Unit) (tokens : List String) :
    SessionM Double Rest Unit := do
  match parseFileRecordWriteOperands tokens (← get).defaultDataFile with
  | none => say (fileRecordWriteArityMessage verb)
  | some target => reporting do
      changeFile target.fileName (write target.fileName
        (.ofText target.recordKey (joinTokensFrom tokens target.valueStart)))

/-- `cmdWrite`. -/
def cmdWrite (tokens : List String) : SessionM Double Rest Unit :=
  writeWith "WRITE" fileSystem.write tokens

/-- `cmdWriteU`. -/
def cmdWriteU (tokens : List String) : SessionM Double Rest Unit :=
  writeWith "WRITEU" fileSystem.writeU tokens

/-- `cmdRelease`. -/
def cmdRelease (tokens : List String) : SessionM Double Rest Unit := do
  match parseFileRecordReadOperands tokens (← get).defaultDataFile with
  | none => say (fileRecordReadArityMessage "RELEASE")
  | some target => reporting do
      let _ ← onFiles (fileSystem.releaseRecord target.fileName target.recordKey)

/-! ## The commands on files -/

/-- `cmdCreateFile`. -/
def cmdCreateFile (tokens : List String) : SessionM Double Rest Unit :=
  match tokens with
  | [_, fileName] => reporting (changeFile fileName (fileSystem.createFile fileName))
  | _ => say "CREATE-FILE requires a filename\n"

/-- `cmdDeleteFile`. -/
def cmdDeleteFile (tokens : List String) : SessionM Double Rest Unit :=
  match tokens with
  | [_, fileName] => reporting (changeFile fileName (fileSystem.deleteFile fileName))
  | _ => say "DELETE-FILE requires a filename\n"

/-! ## The commands on the VOC and on dictionaries -/

/-- The types of an entry that may be created. -/
def canonicalVocType (token : String) : Option Char :=
  match token.toList with
  | [letter] =>
      if letter.toUpper ∈ ['A', 'D', 'F', 'Q', 'V', 'X'] then some letter.toUpper else none
  | _ => none

/-- The record of an entry: its type and the words of its target, a line each. -/
def vocItem (type : Char) (targets : List String) : String :=
  String.ofList [type] ++ "\n" ++ String.join (targets.map (· ++ "\n"))

/-- `cmdCreateVoc`. -/
def cmdCreateVoc (tokens : List String) : SessionM Double Rest Unit :=
  match tokens with
  | _ :: itemId :: typeToken :: target :: targets =>
      match canonicalVocType typeToken with
      | none => say "CREATE-VOC type must be one of A,D,F,Q,V,X\n"
      | some type => reporting do
          changeFile "VOC" do
            let voc ← fileSystem.openFile "VOC"
            fileSystem.writeRecord voc (.ofText itemId (vocItem type (target :: targets)))
  | _ => say "CREATE-VOC requires <item-id> <type> <target...>\n"

/-- `cmdDeleteVoc`. -/
def cmdDeleteVoc (tokens : List String) : SessionM Double Rest Unit :=
  match tokens with
  | [_, itemId] => reporting do
      changeFile "VOC" do
        let voc ← fileSystem.openFile "VOC"
        fileSystem.deleteRecord voc itemId
  | _ => say "DELETE-VOC requires an item-id\n"

/-- `DEFINE-FIELD`. The record is written without a look at the name of the file. -/
def cmdDefineField (tokens : List String) : SessionM Double Rest Unit := do
  match tokens with
  | [_, dictFile, fieldName, attrToken] =>
      match Basic.leadingNumber attrToken.toList with
      | none => say "DEFINE-FIELD requires a positive integer attribute-number\n"
      | some attrNo =>
          let opened ← tryCatch (do
            let _ ← onFiles (fileSystem.openFile dictFile)
            return true) fun _ => return false
          if opened then
            reporting do
              onFiles (fileSystem.write dictFile
                (.ofText fieldName ("A\n" ++ toString attrNo ++ "\n")))
          else
            say ("DEFINE-FIELD requires dictionary file " ++ dictFile ++
              "; use CREATE-FILE first\n")
  | _ => say "DEFINE-FIELD takes <dict-file> <field-name> <attribute-number>\n"

/-! ## What a PROC does to records -/

/-- How a statement of a PROC on a record ends. -/
inductive ProcLockOutcome where
  | success
  | missingRecord
  | locked
  | hardError
deriving DecidableEq

/-- How a PROC sees an exception of the file system. -/
def lockOutcome (what : String) : ProcLockOutcome :=
  if (VM.FileError.fileSystem what).isRecordLockConflict then .locked else .hardError

/-- `procReadU`, with the text of the record. -/
def procReadU (fileName recordKey : String) :
    SessionM Double Rest (ProcLockOutcome × String) :=
  tryCatch (do
    match ← onFiles (fileSystem.readU fileName recordKey) with
    | none => return (.missingRecord, "")
    | some record => return (.success, record.value))
    fun what => return (lockOutcome what, "")

/-- `procWriteU`. -/
def procWriteU (fileName recordKey value : String) : SessionM Double Rest ProcLockOutcome :=
  tryCatch (do
    changeFile fileName (fileSystem.writeU fileName (.ofText recordKey value))
    return .success)
    fun what => return lockOutcome what

/-- `procRelease`. -/
def procRelease (fileName recordKey : String) : SessionM Double Rest Bool :=
  tryCatch (do
    let _ ← onFiles (fileSystem.releaseRecord fileName recordKey)
    return true)
    fun _ => return false

/-! ## Programs and the editor -/

/-- The record of a program's object code. -/
def programObjectRecordKey (recordKey : String) : String := recordKey ++ "_OBJ"

/-- `writeProgramRecord`; the error when it fails. -/
def writeProgramRecord (location : ProgramLocation) (objectRecord : Bool) (payload : String) :
    SessionM Double Rest (Option String) :=
  let recordKey :=
    if objectRecord then programObjectRecordKey location.recordKey else location.recordKey
  tryCatch (do
    changeFile location.fileName
      (Basic.writeProgramRecord fileSystem location.fileName recordKey payload)
    return none)
    fun what => return some what

/-- `LineRecordEditor::cmdSave` in an `EDIT`. -/
def editSave (fileName recordKey : String) (lines : List String) : SessionM Double Rest Unit :=
  reporting (onVoc (LineRecordEditor.writeLines { fileSystem, fileName, recordKey } lines))

/-! ## BASIC programs -/

/-- What the machine is given beside the files. -/
structure Bindings (Double Rest : Type) where
  items : FieldItems
  builtins : BasicFunction → Int → List (Value Double) → Program Rest String (List (Value Double))
  systemVariables : Surroundings Rest → String → Option (Value Double)

/-- A call of the file system in the world of the machine. -/
def inSurroundings {Result Error : Type} (program : Program World Error Result) :
    Program (Surroundings Rest) Error Result :=
  Program.zoom Surroundings.files (fun surroundings files => { surroundings with files }) program

/-- The file system as `Runtime` has it. -/
def fileBackend (items : FieldItems) : FileBackend (Surroundings Rest) where
  openFile fileName := inSurroundings (fileCall (fileSystem.openFile fileName))
  read fileName id := inSurroundings do
    let record ← fileCall (fileSystem.read fileName id)
    return record.map Record.value
  readU fileName id := inSurroundings do
    let record ← fileCall (fileSystem.readU fileName id)
    return record.map Record.value
  write fileName id value :=
    inSurroundings (fileCall (fileSystem.write fileName (.ofText id value)))
  writeU fileName id value :=
    inSurroundings (fileCall (fileSystem.writeU fileName (.ofText id value)))
  releaseRecord fileName id := inSurroundings (fileCall (fileSystem.releaseRecord fileName id))
  readNextRecord handle := inSurroundings (fileCall (FileSystem.readNextRecord handle))
  writeAttributeValue fileName id attrNo value :=
    inSurroundings (fileCall (fileSystem.writeAttributeValue fileName id attrNo value))
  writeSubvalue fileName id attrNo valueIndex value :=
    inSurroundings (fileCall (fileSystem.writeSubvalue fileName id attrNo valueIndex value))
  resolveField fileName token :=
    inSurroundings (English.resolveField fileSystem items fileName token)

/-- A builtin, which has no access to the files. -/
def handlerOf (bindings : Bindings Double Rest) (function : BasicFunction) :
    Handler Double (Surroundings Rest) := fun status stack =>
  Program.zoom Surroundings.rest (fun surroundings rest => { surroundings with rest })
    (bindings.builtins function status stack)

/-- What the session binds to its `Runtime`. -/
def host (bindings : Bindings Double Rest) : Host Double (Surroundings Rest) where
  fileSystem := some (fileBackend fileSystem bindings.items)
  systemVarReader := some bindings.systemVariables
  languageRegistry := some fun nsId =>
    if nsId = kNamespaceIdBasic then some (registerBasicLanguage (handlerOf bindings)) else none

end Commands

/-! ## Runs -/

/-- The commands of the shell that read or change files. -/
inductive TclCommand where
  | read
  | write
  | readU
  | writeU
  | release
  | createFile
  | deleteFile
  | createVoc
  | deleteVoc
  | defineField
deriving DecidableEq

/-- The body of a command on its tokens. -/
def TclCommand.body (fileSystem : FileSystem) :
    TclCommand → List String → SessionM Double Rest Unit
  | .read => cmdRead fileSystem
  | .write => cmdWrite fileSystem
  | .readU => cmdReadU fileSystem
  | .writeU => cmdWriteU fileSystem
  | .release => cmdRelease fileSystem
  | .createFile => cmdCreateFile fileSystem
  | .deleteFile => cmdDeleteFile fileSystem
  | .createVoc => cmdCreateVoc fileSystem
  | .deleteVoc => cmdDeleteVoc fileSystem
  | .defineField => cmdDefineField fileSystem

/-- What a session does. The commands of the shell and of a PROC resolve their verb and their
program before their bodies run; a BASIC program is loaded, and executed by instructions that
may come between other actions when it is suspended. -/
inductive Action (Double : Type) where
  | resolveVerb (token : String)
  | resolveProgram (programName : String)
  | resolveProcScript (scriptName : String)
  | command (command : TclCommand) (tokens : List String)
  | procReadU (fileName recordKey : String)
  | procWriteU (fileName recordKey value : String)
  | procRelease (fileName recordKey : String)
  | writeProgram (location : ProgramLocation) (objectRecord : Bool) (payload : String)
  | editSave (fileName recordKey : String) (lines : List String)
  | loadProgram (program : List (Instruction Double)) (input : List String)
  | instruction

variable [Doubles Double] (fileSystem : FileSystem) (bindings : Bindings Double Rest)

/-- The code of an action, whose result is of no matter to the session. -/
def actionCode : Action Double → SessionM Double Rest Unit
  | .resolveVerb token => do let _ ← onVoc (PickVoc.resolveVerbName fileSystem token)
  | .resolveProgram programName => do
      let _ ← onVoc (PickVoc.resolveProgramLocation fileSystem programName)
  | .resolveProcScript scriptName => do
      let _ ← onVoc (PickVoc.resolveProcScriptLocation fileSystem scriptName)
  | .command verb tokens => verb.body fileSystem tokens
  | .procReadU fileName recordKey => do let _ ← procReadU fileSystem fileName recordKey
  | .procWriteU fileName recordKey value => do
      let _ ← procWriteU fileSystem fileName recordKey value
  | .procRelease fileName recordKey => do let _ ← procRelease fileSystem fileName recordKey
  | .writeProgram location objectRecord payload => do
      let _ ← writeProgramRecord fileSystem location objectRecord payload
  | .editSave fileName recordKey lines => editSave fileSystem fileName recordKey lines
  | .loadProgram program input => modify fun session =>
      { session with
        program
        machine := VM.loadProgram input session.machine.memory.environment.world }
  | .instruction => modify fun session =>
      { session with
        machine := (exec (VM.step (host fileSystem bindings) session.program) session.machine).2 }

/-- One action of a session. -/
def sessionStep (session : VocSession Double Rest) (action : Action Double) :
    Option (VocSession Double Rest) :=
  some (exec (actionCode fileSystem bindings action) session).2

/-- The record that a `DEFINE-FIELD` writes, when its operands are in order. -/
def definedField : List String → Option (String × String)
  | [_, dictFile, fieldName, attrToken] =>
      (Basic.leadingNumber attrToken.toList).map fun _ => (dictFile, fieldName)
  | _ => none

/-- The file and the record that an action writes to around the shell's own commands. -/
def writtenAround (session : VocSession Double Rest) : Action Double → Option (String × String)
  | .command .defineField tokens => definedField tokens
  | .instruction => writtenRecord session.program session.machine
  | _ => none

/-- A write to `VOC` around the shell's own commands that is not refused. -/
def WritesVoc (session : VocSession Double Rest) (action : Action Double) : Prop :=
  ∃ id, writtenAround session action = some ("VOC", id) ∧
    PickFS.Writable fileSystem session.voc.files "VOC" id

/-- What is written elsewhere is not written to `VOC`. -/
theorem not_writesVoc {session : VocSession Double Rest} {action : Action Double}
    (elsewhere : (writtenAround session action).map Prod.fst ≠ some "VOC") :
    ¬ WritesVoc fileSystem session action := by
  rintro ⟨id, written, -⟩
  rw [written] at elsewhere
  exact elsewhere rfl

/-! ## Coherence -/

open PickVoc (storedTable Coherent)

/-- The stored records of `VOC` make this table, on a host that does not fail. -/
def Stored (fileSystem : FileSystem) (table : PickVoc.VocTable) (world : World) : Prop :=
  world.faults = [] ∧ storedTable (world.disk fileSystem.root) = table

section Stored

variable {fileSystem : FileSystem} {table : PickVoc.VocTable}

omit [Doubles Double]

/-- The table depends on the file `VOC` alone. -/
theorem storedTable_congr {first second : PickFS.Directory}
    (same : first.lookup "VOC" = second.lookup "VOC") : storedTable first = storedTable second := by
  have records : first.records "VOC" = second.records "VOC" := by
    simp only [PickFS.Directory.records, same]
  have content (file : PickFS.RecordFile) : first.content "VOC" file = second.content "VOC" file := by
    simp only [PickFS.Directory.content, records]
  have add : PickVoc.addStored first = PickVoc.addStored second := by
    funext table recordName
    simp only [PickVoc.addStored, PickVoc.storedText, content]
  simp only [storedTable, records, add]

/-- The table that is stored depends on the file `VOC` only. -/
theorem frame_stored :
    PickFS.FileFrame fileSystem.root (· = "VOC") (Stored fileSystem table) where
  faithful stored := stored.1
  depends stored faithful same :=
    ⟨faithful, (storedTable_congr (same "VOC" rfl)).trans stored.2⟩

/-- A new file `VOC` has no entries, as there were none without it. -/
theorem createFile_stored (fileName : String) :
    Keeps (Stored fileSystem table) (fileSystem.createFile fileName) := by
  by_cases isVoc : fileName = "VOC"
  · refine frame_stored.createFile_keeps fun world stored unused => ⟨stored.1, ?_⟩
    rw [isVoc] at unused ⊢
    have before : storedTable (world.disk fileSystem.root) = ∅ := by
      simp only [storedTable, PickFS.Directory.records, unused]
    rw [← stored.2, before]
    simp only [Function.update_self]
    simp [storedTable, PickFS.Directory.records, FileSystem.recordNames, FileSystem.sortUnique]
  · exact frame_stored.createFile isVoc

/-- A program that is written breaks the stored table only by a write to `VOC`. -/
theorem writeProgramRecord_spares (fileName recordKey payload : String) :
    PickFS.FileFrame.Spares (· = "VOC") (Stored fileSystem table) fileName
      (Basic.writeProgramRecord fileSystem fileName recordKey payload) := by
  refine Ensures.bind (Keeps.tryCatch (Ensures.bind (frame_stored.openFile fileName) fun _ =>
    Ensures.pure fun _ stored => stored) fun error => ?_) fun _ =>
      frame_stored.write_spares fileName _
  split
  · exact createFile_stored fileName
  · exact Ensures.throw fun _ stored => stored

/-- A table is coherent when it is not loaded, or is the one that is stored. -/
theorem coherent_iff {state : VocState} :
    Coherent fileSystem state ↔ ∃ table, Stored fileSystem table state.files ∧
      (state.resolver.loaded = true → state.resolver.table = table) := by
  constructor
  · intro coherent
    exact ⟨_, ⟨coherent.faithful, rfl⟩, coherent.table⟩
  · rintro ⟨_, ⟨faithful, rfl⟩, same⟩
    exact ⟨faithful, same⟩

/-- What changes no file keeps the table coherent. -/
theorem coherent_onFiles {Result : Type} {program : FileM Result}
    (kept : ∀ table, Keeps (Stored fileSystem table) program) :
    Keeps (Coherent fileSystem) (PickVoc.onFiles program) := by
  rw [keeps_iff]
  intro state coherent
  obtain ⟨table, stored, same⟩ := coherent_iff.mp coherent
  rw [PickVoc.onFiles, exec_zoom]
  exact coherent_iff.mpr ⟨table, (kept table).after stored, same⟩

/-- A change of a file after which the table is dropped if the file is `VOC`. -/
theorem coherent_changeFile {Result : Type} {fileName : String} {program : FileM Result}
    (spares : ∀ table, PickFS.FileFrame.Spares (· = "VOC") (Stored fileSystem table) fileName
      program) :
    Keeps (Coherent fileSystem) (PickVoc.changeFile fileName program) := by
  rw [keeps_iff]
  intro state coherent
  obtain ⟨table, stored, same⟩ := coherent_iff.mp coherent
  have done := spares table state.files stored
  rw [PickVoc.changeFile, exec_bind, PickVoc.onFiles, exec_zoom]
  rcases result : exec program state.files with ⟨error | value, after⟩
  · rw [result] at done
    exact coherent_iff.mpr ⟨table, done, same⟩
  · rw [result] at done
    dsimp only
    rw [exec_bind]
    unfold PickVoc.invalidateIfVoc
    by_cases isVoc : fileName = "VOC"
    · rw [if_pos isVoc]
      exact ⟨done.1, by rintro ⟨⟩⟩
    · rw [if_neg isVoc]
      exact coherent_iff.mpr ⟨table, done.2 isVoc, same⟩

end Stored

/-! ## Commands keep the table coherent -/

section Commands

variable {fileSystem : FileSystem}

/-- The table of the session is coherent. -/
abbrev SessionCoherent (fileSystem : FileSystem) (session : VocSession Double Rest) : Prop :=
  Coherent fileSystem session.voc

omit [Doubles Double]

/-- What keeps the resolver coherent keeps the session so. -/
theorem keeps_onVoc {Result : Type} {program : VocM Result}
    (kept : Keeps (Coherent fileSystem) program) :
    Keeps (SessionCoherent fileSystem) (onVoc program : SessionM Double Rest Result) := by
  apply Ensures.zoom kept
  exact fun _ _ => rfl

/-- A program that only returns keeps the session coherent. -/
theorem keeps_pure {Result : Type} (value : Result) :
    Keeps (SessionCoherent fileSystem) (pure value : SessionM Double Rest Result) :=
  fun _ coherent => coherent

/-- The result of an action is of no matter. -/
theorem keeps_discard {Result : Type} {code : SessionM Double Rest Result}
    (kept : Keeps (SessionCoherent fileSystem) code) :
    Keeps (SessionCoherent fileSystem) (do let _ ← code) :=
  Ensures.bind kept fun _ => keeps_pure ()

/-- So does an answer from the table. -/
theorem keeps_answer {Answer : Type} (ask : PickVoc.VocTable → Answer) :
    Keeps (SessionCoherent fileSystem)
      (onVoc (PickVoc.answer fileSystem ask) : SessionM Double Rest Answer) :=
  keeps_onVoc (keeps_iff.mpr fun _ coherent => (PickVoc.coherent_answer coherent).2)

/-- So does a call of the file system that leaves the stored table. -/
theorem keeps_onFiles {Result : Type} {program : FileM Result}
    (kept : ∀ table, Keeps (Stored fileSystem table) program) :
    Keeps (SessionCoherent fileSystem) (onFiles program : SessionM Double Rest Result) :=
  keeps_onVoc (coherent_onFiles kept)

/-- So does a change of a file, after which the table is dropped where it has to be. -/
theorem keeps_changeFile {Result : Type} {fileName : String} {program : FileM Result}
    (spares : ∀ table, PickFS.FileFrame.Spares (· = "VOC") (Stored fileSystem table) fileName
      program) :
    Keeps (SessionCoherent fileSystem)
      (changeFile fileName program : SessionM Double Rest Result) :=
  keeps_onVoc (coherent_changeFile spares)

/-- A text that is printed changes no table. -/
theorem keeps_say (text : String) :
    Keeps (SessionCoherent fileSystem) (say text : SessionM Double Rest Unit) :=
  fun _ coherent => coherent

/-- An error that is shown changes no table. -/
theorem keeps_reporting {body : SessionM Double Rest Unit}
    (kept : Keeps (SessionCoherent fileSystem) body) :
    Keeps (SessionCoherent fileSystem) (reporting body) :=
  Keeps.tryCatch kept fun _ => keeps_say _

/-- The commands that read keep the session coherent. -/
theorem keeps_readWith (verb : String) {read : String → String → FileM (Option Record)}
    (kept : ∀ table fileName recordKey, Keeps (Stored fileSystem table) (read fileName recordKey))
    (tokens : List String) :
    Keeps (SessionCoherent fileSystem) (readWith verb read tokens : SessionM Double Rest Unit) := by
  refine Keeps.look fun session => ?_
  split
  · exact keeps_say _
  · refine keeps_reporting (Ensures.bind (keeps_onFiles fun table => kept table _ _) ?_)
    rintro (_ | record) <;> exact keeps_say _

/-- So do those that write. -/
theorem keeps_writeWith (verb : String) {write : String → Record → FileM Unit}
    (spares : ∀ table fileName record, PickFS.FileFrame.Spares (· = "VOC")
      (Stored fileSystem table) fileName (write fileName record))
    (tokens : List String) :
    Keeps (SessionCoherent fileSystem)
      (writeWith verb write tokens : SessionM Double Rest Unit) := by
  refine Keeps.look fun session => ?_
  split
  · exact keeps_say _
  · exact keeps_reporting (keeps_changeFile fun table => spares table _ _)

/-- A `READU` of a PROC keeps it so. -/
theorem keeps_procReadU (fileName recordKey : String) :
    Keeps (SessionCoherent fileSystem)
      (procReadU fileSystem fileName recordKey : SessionM Double Rest _) := by
  refine Keeps.tryCatch (Ensures.bind (keeps_onFiles fun _ =>
    frame_stored.readU fileName recordKey) fun found => ?_) fun _ => keeps_pure _
  split <;> exact keeps_pure _

/-- So does its `WRITEU`. -/
theorem keeps_procWriteU (fileName recordKey value : String) :
    Keeps (SessionCoherent fileSystem)
      (procWriteU fileSystem fileName recordKey value : SessionM Double Rest _) :=
  Keeps.tryCatch (Ensures.bind (keeps_changeFile fun _ =>
    frame_stored.writeU_spares fileName _) fun _ => keeps_pure _) fun _ => keeps_pure _

/-- So does its `RELEASE`. -/
theorem keeps_procRelease (fileName recordKey : String) :
    Keeps (SessionCoherent fileSystem)
      (procRelease fileSystem fileName recordKey : SessionM Double Rest _) :=
  Keeps.tryCatch (Ensures.bind (keeps_onFiles fun _ =>
    frame_stored.releaseLock fileName recordKey) fun _ => keeps_pure _) fun _ => keeps_pure _

/-- A program or its object code is written and the table dropped where it has to be. -/
theorem keeps_writeProgramRecord (location : ProgramLocation) (objectRecord : Bool)
    (payload : String) :
    Keeps (SessionCoherent fileSystem)
      (writeProgramRecord fileSystem location objectRecord payload : SessionM Double Rest _) :=
  Keeps.tryCatch (Ensures.bind (keeps_changeFile fun _ =>
    writeProgramRecord_spares location.fileName _ payload) fun _ => keeps_pure _) fun _ =>
      keeps_pure _

/-- A `SAVE` of the editor keeps the session coherent. -/
theorem keeps_editSave (fileName recordKey : String) (lines : List String) :
    Keeps (SessionCoherent fileSystem)
      (editSave fileSystem fileName recordKey lines : SessionM Double Rest _) :=
  keeps_reporting (keeps_changeFile fun _ => writeProgramRecord_spares fileName recordKey _)

variable (fileSystem)

/-- The body of a command other than `DEFINE-FIELD`. -/
theorem keeps_body (command : TclCommand) (tokens : List String)
    (noField : command ≠ .defineField) :
    Keeps (SessionCoherent fileSystem)
      (command.body fileSystem tokens : SessionM Double Rest Unit) := by
  cases command with
  | read => exact keeps_readWith _ (fun _ => frame_stored.read) tokens
  | readU => exact keeps_readWith _ (fun _ => frame_stored.readU) tokens
  | write => exact keeps_writeWith _ (fun _ => frame_stored.write_spares) tokens
  | writeU => exact keeps_writeWith _ (fun _ => frame_stored.writeU_spares) tokens
  | release =>
      refine Keeps.look fun session => ?_
      split
      · exact keeps_say _
      · refine keeps_reporting (Ensures.bind (keeps_onFiles fun _ => ?_) fun _ => ?_)
        · exact frame_stored.releaseLock _ _
        · exact Ensures.pure fun _ coherent => coherent
  | createFile =>
      change Keeps _ (cmdCreateFile fileSystem tokens)
      unfold cmdCreateFile
      split
      · refine keeps_reporting (keeps_changeFile fun table => ?_)
        exact (createFile_stored _).weakenPost fun _ _ stored => ⟨stored.1, fun _ => stored⟩
      · exact keeps_say _
  | deleteFile =>
      change Keeps _ (cmdDeleteFile fileSystem tokens)
      unfold cmdDeleteFile
      split
      · exact keeps_reporting (keeps_changeFile fun _ => frame_stored.deleteFile_spares _)
      · exact keeps_say _
  | createVoc =>
      change Keeps _ (cmdCreateVoc fileSystem tokens)
      unfold cmdCreateVoc
      split
      · split
        · exact keeps_say _
        · exact keeps_reporting (keeps_changeFile fun _ => frame_stored.write_spares "VOC" _)
      · exact keeps_say _
  | deleteVoc =>
      change Keeps _ (cmdDeleteVoc fileSystem tokens)
      unfold cmdDeleteVoc
      split
      · refine keeps_reporting (keeps_changeFile fun table => ?_)
        refine (PickFS.openFile_ensures frame_stored.steady "VOC").bind fun handle => ?_
        refine .assume fun same => ?_
        subst same
        exact frame_stored.deleteRecord_spares "VOC" _
      · exact keeps_say _
  | defineField => exact absurd rfl noField

variable {fileSystem}

/-- A call of the file system leaves the resolver alone. -/
theorem voc_onFiles {Result : Type} (program : FileM Result) (session : VocSession Double Rest) :
    (exec (onFiles program) session).2.voc =
      { session.voc with files := (exec program session.voc.files).2 } := by
  rw [onFiles, onVoc, exec_zoom, PickVoc.onFiles, exec_zoom]
  rfl

/-- What is shown of an error does not change the resolver or the files. -/
theorem voc_reporting (body : SessionM Double Rest Unit) (session : VocSession Double Rest) :
    (exec (reporting body) session).2.voc = (exec body session).2.voc := by
  rw [reporting, exec_tryCatch]
  rcases exec body session with ⟨_ | _, after⟩ <;> rfl

/-- Whether there is a file is found out without a change. -/
theorem voc_opens (dictFile : String) {session : VocSession Double Rest}
    (faithful : session.voc.files.faults = []) :
    ∃ opened after, exec (tryCatch (do
        let _ ← onFiles (fileSystem.openFile dictFile)
        return true) fun _ => return false : SessionM Double Rest Bool) session =
      (.ok opened, after) ∧ after.voc = session.voc := by
  have kept : Keeps (· = session.voc.files) (fileSystem.openFile dictFile) :=
    (PickFS.openFile_ensures (PickFS.steady_same faithful) dictFile).weakenPost fun _ _ => And.left
  have same := voc_onFiles (fileSystem.openFile dictFile) session
  rw [exec_of_keeps kept] at same
  rw [exec_tryCatch, exec_bind]
  rcases result : exec (onFiles (fileSystem.openFile dictFile)) session with ⟨_ | _, after⟩
  · rw [result] at same
    exact ⟨false, after, rfl, same⟩
  · rw [result] at same
    exact ⟨true, after, rfl, same⟩

/-- A `DEFINE-FIELD` in another file keeps the session coherent. -/
theorem keeps_defineField {tokens : List String}
    (free : ∀ fieldName, definedField tokens ≠ some ("VOC", fieldName)) :
    Keeps (SessionCoherent fileSystem)
      (cmdDefineField fileSystem tokens : SessionM Double Rest Unit) := by
  unfold cmdDefineField
  split
  · next dictFile fieldName attrToken =>
      split
      · exact keeps_say _
      · next number isNumber =>
          have notVoc : dictFile ≠ "VOC" := by
            rintro rfl
            exact free fieldName (by rw [definedField, isNumber, Option.map_some])
          refine Ensures.bind (Keeps.tryCatch (Ensures.bind (keeps_onFiles fun _ =>
            frame_stored.openFile _) fun _ => ?_) fun _ => ?_) fun opened => ?_
          · exact Ensures.pure fun _ coherent => coherent
          · exact Ensures.pure fun _ coherent => coherent
          · split
            · exact keeps_reporting (keeps_onFiles fun _ => frame_stored.write notVoc _)
            · exact keeps_say _
  · exact keeps_say _

/-- A `DEFINE-FIELD` in `VOC` whose write is refused. -/
theorem coherent_defineField {session : VocSession Double Rest}
    (coherent : SessionCoherent fileSystem session) {tokens : List String} {fieldName : String}
    (defines : definedField tokens = some ("VOC", fieldName))
    (refused : ¬ PickFS.Writable fileSystem session.voc.files "VOC" fieldName) :
    SessionCoherent fileSystem (exec (cmdDefineField fileSystem tokens) session).2 := by
  unfold definedField at defines
  split at defines
  · next verb dictFile field attrToken =>
      obtain ⟨number, isNumber, names⟩ := Option.map_eq_some_iff.mp defines
      obtain ⟨rfl, rfl⟩ := Prod.mk.inj names
      obtain ⟨opened, after, opens, same⟩ := @voc_opens _ _ fileSystem "VOC" _ coherent.faithful
      unfold cmdDefineField
      dsimp only
      rw [isNumber]
      dsimp only
      rw [exec_bind, opens]
      cases opened with
      | false =>
          change Coherent fileSystem after.voc
          rwa [same]
      | true =>
          obtain ⟨table, stored, sameTable⟩ := coherent_iff.mp coherent
          dsimp only
          rw [if_pos rfl, SessionCoherent, voc_reporting, voc_onFiles, same]
          exact coherent_iff.mpr ⟨table, frame_stored.write_refused stored refused, sameTable⟩
  · cases defines

end Commands

/-! ## Instructions that write to other files -/

section Instructions

variable {fileSystem : FileSystem} {bindings : Bindings Double Rest} {table : PickVoc.VocTable}

/-- The files around a machine. -/
abbrev StoredAround (fileSystem : FileSystem) (table : PickVoc.VocTable)
    (world : Surroundings Rest) : Prop :=
  Stored fileSystem table world.files

/-- A program on the files leaves the stored table, also around a machine. -/
theorem keeps_inSurroundings {Result Error : Type} {program : Program World Error Result}
    (kept : Keeps (Stored fileSystem table) program) :
    Keeps (StoredAround fileSystem table)
      (inSurroundings program : Program (Surroundings Rest) Error Result) := by
  apply Ensures.zoom kept
  exact fun _ _ => rfl

/-- A call of the file system that changes nothing in `VOC`. -/
theorem keeps_call {Result : Type} {program : FileM Result}
    (kept : Keeps (Stored fileSystem table) program) :
    Keeps (StoredAround fileSystem table) (inSurroundings (fileCall program) :
      Program (Surroundings Rest) VM.FileError Result) :=
  keeps_inSurroundings (English.keeps_fileCall kept)

/-- A record is read as its text. -/
theorem keeps_readCall {program : FileM (Option Record)}
    (kept : Keeps (Stored fileSystem table) program) :
    Keeps (StoredAround fileSystem table) (inSurroundings (do
        let record ← fileCall program
        return record.map Record.value) :
      Program (Surroundings Rest) VM.FileError (Option String)) :=
  keeps_inSurroundings (Ensures.bind (English.keeps_fileCall kept) fun _ =>
    Ensures.pure fun _ stored => stored)

omit [Doubles Double] in
/-- Every call of the host on another file leaves the stored table. -/
theorem spared_host :
    VM.Spared (StoredAround fileSystem table) (host fileSystem bindings) where
  files known := by
    cases known
    exact {
      openFile := fun fileName => keeps_call (frame_stored.openFile fileName)
      read := fun fileName id => keeps_readCall (frame_stored.read fileName id)
      readU := fun fileName id => keeps_readCall (frame_stored.readU fileName id)
      releaseRecord := fun fileName id => keeps_call (frame_stored.releaseLock fileName id)
      readNextRecord := fun handle =>
        keeps_call ((@frame_stored fileSystem table).readNextRecord handle)
      resolveField := fun fileName token =>
        keeps_inSurroundings (English.keeps_resolveField frame_stored.steady fileName token) }
  builtins known := by
    cases known
    intro nsId functions entry handler registered member bound status stack
    dsimp only at registered
    split at registered
    · cases registered
      obtain ⟨function, -, rfl⟩ := List.mem_map.mp member
      cases bound
      rw [keeps_iff]
      intro world stored
      rw [handlerOf, exec_zoom]
      exact stored
    · cases registered

omit [Doubles Double] in
/-- The writes to another file. -/
theorem sparedRecord_of_ne {world : Surroundings Rest} {fileName : String} (free : fileName ≠ "VOC")
    (stored : StoredAround fileSystem table world) (id : String) :
    VM.SparedRecord (StoredAround fileSystem table) (host fileSystem bindings) world fileName
      id where
  write known value := by
    cases known
    exact (keeps_call (frame_stored.write free _)).after stored
  writeU known value := by
    cases known
    exact (keeps_call (frame_stored.writeU free _)).after stored
  values known attrNo valueIndex value := by
    cases known
    unfold VM.writeValue
    split
    · exact (keeps_call (frame_stored.writeSubvalue free id attrNo valueIndex value)).after stored
    · exact (keeps_call (frame_stored.writeAttributeValue free id attrNo value)).after stored

omit [Doubles Double] in
/-- A program on the files, run around a machine. -/
theorem exec_inSurroundings {Result Error : Type} (program : Program World Error Result)
    (world : Surroundings Rest) :
    exec (inSurroundings program) world =
      ((exec program world.files).1, { world with files := (exec program world.files).2 }) := by
  rw [inSurroundings, exec_zoom]

omit [Doubles Double] in
/-- The writes to `VOC` are refused. -/
theorem sparedRecord_of_refused {world : Surroundings Rest} {id : String}
    (refused : ¬ PickFS.Writable fileSystem world.files "VOC" id)
    (stored : StoredAround fileSystem table world) :
    VM.SparedRecord (StoredAround fileSystem table) (host fileSystem bindings) world "VOC" id where
  write known value := by
    cases known
    rw [StoredAround, fileBackend, exec_inSurroundings, exec_fileCall]
    exact frame_stored.write_refused stored refused
  writeU known value := by
    cases known
    rw [StoredAround, fileBackend, exec_inSurroundings, exec_fileCall]
    exact frame_stored.writeU_refused stored refused
  values known attrNo valueIndex value := by
    cases known
    unfold VM.writeValue
    split
    · rw [StoredAround, fileBackend, exec_inSurroundings, exec_fileCall]
      exact frame_stored.writeSubvalue_refused stored refused attrNo valueIndex value
    · rw [StoredAround, fileBackend, exec_inSurroundings, exec_fileCall]
      exact frame_stored.writeAttributeValue_refused stored refused attrNo value

/-- An instruction that does not write to `VOC` keeps the table coherent. -/
theorem coherent_instruction {session : VocSession Double Rest}
    (free : ∀ id, writtenRecord session.program session.machine = some ("VOC", id) →
      ¬ PickFS.Writable fileSystem session.voc.files "VOC" id)
    (coherent : SessionCoherent fileSystem session) :
    SessionCoherent fileSystem
      (exec (actionCode fileSystem bindings .instruction) session).2 := by
  obtain ⟨table, stored, same⟩ := coherent_iff.mp coherent
  refine coherent_iff.mpr ⟨table, ?_, same⟩
  refine @VM.world_of_step _ _ (StoredAround fileSystem table) _ _ _ _ spared_host
    (fun fileName id written => ?_) stored
  by_cases isVoc : fileName = "VOC"
  · subst isVoc
    exact sparedRecord_of_refused (free id written) stored
  · exact sparedRecord_of_ne isVoc stored id

end Instructions

/-! ## Every run -/

open PickVoc (fresh resolveVerbName resolveProgramLocation VocAccessible)

/-- The session answers as a resolver does that has just been loaded from the stored `VOC`. While
another session has a lock on a record of `VOC`, a fresh resolver may not get an answer. -/
structure AnswersAsFresh (fileSystem : FileSystem) (session : VocSession Double Rest) : Prop where
  verb : ∀ token answer,
    (exec (resolveVerbName fileSystem token) (fresh session.voc)).1 = .ok answer →
      (exec (resolveVerbName fileSystem token) session.voc).1 = .ok answer
  program : ∀ programName location,
    (exec (resolveProgramLocation fileSystem programName) (fresh session.voc)).1 =
        .ok location →
      (exec (resolveProgramLocation fileSystem programName) session.voc).1 = .ok location
  unlocked : VocAccessible fileSystem session.voc.files →
    (∀ token, (exec (resolveVerbName fileSystem token) session.voc).1 =
      (exec (resolveVerbName fileSystem token) (fresh session.voc)).1) ∧
    ∀ programName, (exec (resolveProgramLocation fileSystem programName) session.voc).1 =
      (exec (resolveProgramLocation fileSystem programName) (fresh session.voc)).1

omit [Doubles Double] in
/-- A session with a coherent table answers as if its table had just been loaded. -/
theorem answersAsFresh {fileSystem : FileSystem} {session : VocSession Double Rest}
    (coherent : SessionCoherent fileSystem session) : AnswersAsFresh fileSystem session where
  verb _ _ := PickVoc.answer_eq_fresh coherent
  program _ _ := PickVoc.answer_eq_fresh coherent
  unlocked accessible := by
    constructor
    · intro token
      obtain ⟨answer, answered⟩ := PickVoc.fresh_answers coherent.faithful accessible
      exact (PickVoc.answer_eq_fresh coherent answered).trans answered.symm
    · intro programName
      obtain ⟨answer, answered⟩ := PickVoc.fresh_answers coherent.faithful accessible
      exact (PickVoc.answer_eq_fresh coherent answered).trans answered.symm

/-- An action that goes through the shell keeps the table coherent. -/
theorem coherent_step {session after : VocSession Double Rest} {action : Action Double}
    (coherent : SessionCoherent fileSystem session)
    (spares : ¬ WritesVoc fileSystem session action)
    (stepped : sessionStep fileSystem bindings session action = some after) :
    SessionCoherent fileSystem after := by
  cases stepped
  cases action with
  | resolveVerb token => exact (keeps_discard (keeps_answer _)).after coherent
  | resolveProgram programName => exact (keeps_discard (keeps_answer _)).after coherent
  | resolveProcScript scriptName => exact (keeps_discard (keeps_answer _)).after coherent
  | command command tokens =>
      by_cases isField : command = .defineField
      · subst isField
        by_cases around : ∃ fieldName, definedField tokens = some ("VOC", fieldName)
        · obtain ⟨fieldName, defines⟩ := around
          exact coherent_defineField coherent defines fun writable =>
            spares ⟨fieldName, defines, writable⟩
        · exact (keeps_defineField (not_exists.mp around)).after coherent
      · exact (keeps_body fileSystem command tokens isField).after coherent
  | procReadU fileName recordKey =>
      exact (keeps_discard (keeps_procReadU fileName recordKey)).after coherent
  | procWriteU fileName recordKey value =>
      exact (keeps_discard (keeps_procWriteU fileName recordKey value)).after coherent
  | procRelease fileName recordKey =>
      exact (keeps_discard (keeps_procRelease fileName recordKey)).after coherent
  | writeProgram location objectRecord payload =>
      exact (keeps_discard (keeps_writeProgramRecord location objectRecord payload)).after coherent
  | editSave fileName recordKey lines =>
      exact (keeps_editSave fileName recordKey lines).after coherent
  | loadProgram program input => exact coherent
  | instruction =>
      exact coherent_instruction (fun id written writable => spares ⟨id, written, writable⟩) coherent

/-- A session on a host whose calls do not fail. In every run in which no BASIC program and no
`DEFINE-FIELD` writes to `VOC`, the session answers after each action as a resolver does that is
loaded from the stored `VOC`. -/
theorem vocCache_answersAsFresh (start : VocSession Double Rest) (actions : List (Action Double))
    (faithful : start.voc.files.faults = []) (notLoaded : start.resolver.loaded = false)
    (spares : EachStep (sessionStep fileSystem bindings)
      (fun session action => ¬ WritesVoc fileSystem session action) start actions) :
    Always (sessionStep fileSystem bindings) (AnswersAsFresh fileSystem) start actions := by
  have coherent : SessionCoherent fileSystem start := by
    refine ⟨faithful, fun loaded => ?_⟩
    rw [VocSession.voc, notLoaded] at loaded
    cases loaded
  refine (always_of_invariant ?_ coherent spares).mono fun _ holds => answersAsFresh holds
  exact fun holds spared stepped => coherent_step fileSystem bindings holds spared stepped

/-! ## A verb that a program defines -/

/-- A session without locks. -/
def account : FileSystem where
  root := "ACCT"

/-- A machine without builtin functions and system variables. -/
def noBuiltins : Bindings Int Unit where
  items := {
    makeAttributeRef := fun attributeNo =>
      { kind := .attribute, attributeNo, correlative := false, cell := fun _ => .ok "" }
    fieldFromStructuredDict := fun _ => .ok none }
  builtins := fun _ _ stack => pure stack
  systemVariables := fun _ _ => none

/-- An account with a file `DATA` and a `VOC` without entries. -/
def emptyVoc : VocSession Int Unit where
  machine := VM.loadProgram [] {
    files := {
      disk := fun _ => AList.insert "VOC" (.directory ∅) (AList.insert "DATA" (.directory ∅) ∅) }
    rest := () }

/-- `OPEN` a file and `WRITE` an entry for the verb `SHOW` in it. -/
def writesShow (fileName : String) : List (Instruction Int) :=
  [{ op := .pushStr, operand := .string fileName },
    { op := .openFile, operand := .string "F" },
    { op := .pushStr, operand := .string "V\nREAD" },
    { op := .pushStr, operand := .string "SHOW" },
    { op := .writeRec, operand := .string "F" }]

/-- The verb is resolved, and then the program is run. -/
def runsProgram (fileName : String) : List (Action Int) :=
  [.resolveVerb "SHOW", .loadProgram (writesShow fileName) [], .instruction, .instruction,
    .instruction, .instruction, .instruction]

/-- The entry is made by `CREATE-VOC`, and the program writes to `DATA`. -/
theorem createVoc_answersAsFresh :
    Always (sessionStep account noBuiltins) (AnswersAsFresh account) emptyVoc
      (.resolveVerb "SHOW" :: .command .createVoc ["CREATE-VOC", "SHOW", "V", "READ"] ::
        runsProgram "DATA") := by
  refine vocCache_answersAsFresh account noBuiltins emptyVoc _ rfl rfl ?_
  refine ⟨?_, ?_, ?_, ?_, ?_, ?_, ?_, ?_, ?_, trivial⟩
  all_goals
    refine not_writesVoc account ?_
    decide +kernel

/-- The program writes to `VOC`, and the session goes on without the entry. -/
theorem program_defines_verb :
    ¬ Always (sessionStep account noBuiltins) (AnswersAsFresh account) emptyVoc
      (runsProgram "VOC") := by
  intro always
  have answers : ((run (sessionStep account noBuiltins) emptyVoc (runsProgram "VOC")).map
      fun session => ((exec (resolveVerbName account "SHOW") session.voc).1.toOption,
        (exec (resolveVerbName account "SHOW") (fresh session.voc)).1.toOption)) =
      some (some "SHOW", some "READ") := by
    decide +kernel
  obtain ⟨session, completed, same⟩ := Option.map_eq_some_iff.mp answers
  obtain ⟨own, stored⟩ := Prod.mk.inj same
  have verb := (always.finish completed).verb "SHOW" "READ"
  have loaded : (exec (resolveVerbName account "SHOW") (fresh session.voc)).1 = .ok "READ" := by
    cases result : (exec (resolveVerbName account "SHOW") (fresh session.voc)).1 with
    | error what =>
        rw [result] at stored
        cases stored
    | ok answer =>
        rw [result] at stored
        cases stored
        rfl
  rw [verb loaded] at own
  exact absurd own (by decide)

end VocCache

end Gemini.PickShell
