import Gemini.PickFS.FailedOperations
import Gemini.VM.Value

/-!
# The VOC and its resolver

`PickVoc::VocResolver` reads the records of the file `VOC` as entries, each of which gives a name
a meaning: a file, another name, or the verb that it stands for. The resolver keeps the table of
the entries once it has loaded it. `storedTable` is the table that the stored records make, and
`Coherent` says that a table which is kept is that one.
-/

namespace Gemini.PickVoc

open Gemini.Semantics Program
open Gemini.PickFS (World FileSystem FileHandle FileM Record Records Storage Directory
  candidateExtensions isValidName)
open Gemini.PickFS.StructuredRecord (getlines)
open Gemini.VM (isSpace)

/-! ## Entries -/

/-- The types of an entry. -/
inductive EntryType where
  | F
  | Q
  | V
  | D
  | A
  | X
deriving DecidableEq

/-- An entry of the `VOC`. -/
structure VocEntry where
  type : EntryType
  attribute2 : String
  attribute3 : String
deriving DecidableEq

/-- Where a program is stored. -/
structure ProgramLocation where
  fileName : String
  recordKey : String
deriving DecidableEq

/-- The entries by key, in upper case. -/
abbrev VocTable := AList fun _ : String => VocEntry

/-- The file of a BASIC program without an entry. -/
def kDefaultProgramFile : String := "BP"

/-- The file of a PROC without an entry. -/
def kDefaultProcFile : String := "PROC"

/-- `upperAscii`. -/
def upperAscii (text : String) : String := text.map Char.toUpper

/-- A line without the number of the attribute that may stand before it. -/
def stripAttributeLinePrefix (line : List Char) : List Char :=
  let rest := line.dropWhile Char.isDigit
  if line.head?.any Char.isDigit && rest.head?.any isSpace then rest.dropWhile isSpace else line

/-- `parseAttributes`: the lines of a record, without their numbers. -/
def parseAttributes (value : String) : List String :=
  (getlines value.toList).map (fun line => String.ofList (stripAttributeLinePrefix line)) ++
    if value.toList.getLast? = some '\n' then [""] else []

/-- `parseVocEntry`: none for a record that is no entry. -/
def parseVocEntry (value : String) : Option VocEntry :=
  match parseAttributes value with
  | [] => none
  | first :: rest =>
      let attribute2 := rest.getD 0 ""
      let attribute3 := rest.getD 1 ""
      let entry (type : EntryType) : Option VocEntry := some { type, attribute2, attribute3 }
      -- The entries of a file and those of another name are nothing without it.
      let required (type : EntryType) : Option VocEntry :=
        if attribute2 = "" then none else entry type
      match upperAscii first with
      | "F" => required .F
      | "Q" => required .Q
      | "V" => entry .V
      | "D" => required .D
      | "A" => required .A
      | "X" => entry .X
      | _ => none

/-! ## Names -/

/-- The loop of `resolveVerbName`: the hops that are left, the keys that were visited, the next
key and the verb found so far. -/
def verbAfter (table : VocTable) : Nat → List String → String → String → String
  | 0, _, _, resolved => resolved
  | hop + 1, visited, nextKey, resolved =>
      if nextKey ∈ visited then resolved
      else
        match table.lookup nextKey with
        | none => resolved
        | some entry =>
            match entry.type with
            | .Q =>
                if entry.attribute2 = "" then resolved
                else verbAfter table hop (nextKey :: visited) (upperAscii entry.attribute2) resolved
            | .V | .X =>
                if entry.attribute2 = "" then resolved
                else
                  verbAfter table hop (nextKey :: visited) (upperAscii entry.attribute2)
                    entry.attribute2
            | .F | .D | .A => resolved

/-- `resolveVerbName` on a table: at most 64 entries are followed. -/
def verbName (table : VocTable) (token : String) : String :=
  verbAfter table 64 [] (upperAscii token) token

/-- A key of the table that is visited is one less to visit. -/
theorem card_unvisited_lt {table : VocTable} {visited : Finset String} {key : String}
    {entry : VocEntry} (visits : key ∉ visited) (found : table.lookup key = some entry) :
    (table.keys.toFinset \ insert key visited).card < (table.keys.toFinset \ visited).card := by
  have known : key ∈ table.keys.toFinset := by
    rw [List.mem_toFinset]
    exact AList.lookup_isSome.mp (by rw [found]; rfl)
  refine Finset.card_lt_card ⟨Finset.sdiff_subset_sdiff subset_rfl (Finset.subset_insert _ _), ?_⟩
  intro all
  have still := all (Finset.mem_sdiff.mpr ⟨known, visits⟩)
  exact (Finset.mem_sdiff.mp still).2 (Finset.mem_insert_self _ _)

/-- `resolveFileFromVocKey`. No key of the table is visited twice. -/
def resolveFileFromVocKey (table : VocTable) (visited : Finset String) (vocKey : String) :
    Option String :=
  if _visits : upperAscii vocKey ∈ visited then none
  else
    match _found : table.lookup (upperAscii vocKey) with
    | none => none
    | some entry =>
        if entry.attribute2 = "" then none
        else
          match entry.type with
          | .F | .D | .A => some entry.attribute2
          | .Q =>
              resolveFileFromVocKey table (insert (upperAscii vocKey) visited) entry.attribute2
          | .V | .X => none
termination_by (table.keys.toFinset \ visited).card
decreasing_by exact card_unvisited_lt ‹_› ‹_›

/-- The file and the record of a name, which is a record of a default file without an entry. -/
def locate (table : VocTable) (defaultFile name : String) : ProgramLocation where
  fileName := (resolveFileFromVocKey table ∅ name).getD defaultFile
  recordKey := name

/-! ## The resolver -/

/-- A table that is loaded when it is first asked for. -/
structure VocResolver where
  table : VocTable := ∅
  loaded : Bool := false

/-- A resolver and the files that it reads. -/
structure VocState where
  resolver : VocResolver := {}
  files : World

/-- A program of the resolver. -/
abbrev VocM := Program VocState String

/-- A call of the file system. -/
def onFiles {Value : Type} (program : FileM Value) : VocM Value :=
  Program.zoom VocState.files (fun state files => { state with files }) program

/-- Change the resolver. -/
def setResolver (change : VocResolver → VocResolver) : VocM Unit :=
  modify fun state => { state with resolver := change state.resolver }

/-- `invalidate`: the table will be loaded again. -/
def invalidate : VocM Unit := setResolver fun _ => {}

/-- Drop the table when the file that has been changed is `VOC`. -/
def invalidateIfVoc (fileName : String) : VocM Unit :=
  if fileName = "VOC" then invalidate else return

/-- A change of a file by the shell. -/
def changeFile {Value : Type} (fileName : String) (program : FileM Value) : VocM Value := do
  let result ← onFiles program
  invalidateIfVoc fileName
  return result

section Resolver

variable (fileSystem : FileSystem)

/-- The entry of a record, if it is one, put in the table. -/
def addRecord (recordName : String) (found : Option Record) : VocM Unit :=
  match found.bind fun record => parseVocEntry record.value with
  | none => return
  | some entry => setResolver fun resolver =>
      { resolver with table := resolver.table.insert (upperAscii recordName) entry }

/-- Read the records one by one and put their entries in the table. -/
def loadRecords (handle : FileHandle) : List String → VocM Unit
  | [] => return
  | recordName :: rest => do
      let record ← onFiles (fileSystem.readRecord handle recordName)
      addRecord recordName record
      loadRecords handle rest

/-- `loadVocTable`. Without a file `VOC` the table is empty. -/
def loadVocTable : VocM Unit := do
  setResolver fun resolver => { resolver with table := ∅ }
  let opened ← Program.caught VocState.files (fun state files => { state with files })
    (fileSystem.openFile "VOC")
  match opened with
  | .error _ => return
  | .ok handle =>
      let recordNames ← onFiles (FileSystem.listRecords handle)
      loadRecords fileSystem handle recordNames

/-- `ensureLoaded`. -/
def ensureLoaded : VocM Unit := do
  if (← get).resolver.loaded then return
  else
    loadVocTable fileSystem
    setResolver fun resolver => { resolver with loaded := true }

/-- An answer from the table. -/
def answer {Answer : Type} (ask : VocTable → Answer) : VocM Answer := do
  ensureLoaded fileSystem
  return ask (← get).resolver.table

/-- `resolveVerbName`. -/
def resolveVerbName (token : String) : VocM String :=
  answer fileSystem fun table => verbName table token

/-- `resolveProgramLocation`. -/
def resolveProgramLocation (programName : String) : VocM ProgramLocation :=
  answer fileSystem fun table => locate table kDefaultProgramFile programName

/-- `resolveProcScriptLocation`. -/
def resolveProcScriptLocation (scriptName : String) : VocM ProgramLocation :=
  answer fileSystem fun table => locate table kDefaultProcFile scriptName

end Resolver

/-! ## The stored table -/

/-- The text of a record among those of a file. -/
def storedText (directory : Directory) (fileName recordName : String) : Option String :=
  ((candidateExtensions fileName).find? fun extension =>
    (directory.content fileName (recordName, extension)).isSome).bind fun extension =>
      directory.content fileName (recordName, extension)

/-- A record of a stored file put in a table, if it is an entry. -/
def addStored (directory : Directory) (table : VocTable) (recordName : String) : VocTable :=
  match (storedText directory "VOC" recordName).bind parseVocEntry with
  | none => table
  | some entry => table.insert (upperAscii recordName) entry

/-- The table that the stored records of `VOC` make. -/
def storedTable (directory : Directory) : VocTable :=
  match directory.records "VOC" with
  | none => ∅
  | some records =>
      (FileSystem.sortUnique (FileSystem.recordNames records)).foldl (addStored directory) ∅

section Loading

variable {fileSystem : FileSystem} {world : World}

/-- A record is read as it is stored, unless another session has it locked. -/
theorem readRecord_ensures (faithful : world.faults = []) (handle : FileHandle)
    (recordName : String) :
    Ensures (· = world) (fileSystem.readRecord handle recordName)
      (fun found after => after = world ∧
        found.map Record.value = storedText (world.disk handle.root) handle.name recordName)
      (· = world) := by
  unfold FileSystem.readRecord
  split
  · exact Ensures.throw fun _ same => same
  · refine ((PickFS.assertRecordAccessible_ensures handle.name recordName).weakenPost
      fun _ _ => And.left).bind fun _ => ?_
    intro state same
    rw [same, exec_bind, PickFS.exec_firstExisting faithful]
    dsimp only
    unfold storedText
    cases found : (candidateExtensions handle.name).find? fun extension =>
        ((world.disk handle.root).content handle.name (recordName, extension)).isSome with
    | none => exact ⟨rfl, rfl⟩
    | some extension =>
        have stored := List.find?_some found
        obtain ⟨text, content⟩ := Option.isSome_iff_exists.mp stored
        simp only [exec_bind, PickFS.exec_inspect faithful, content]
        exact ⟨rfl, by simp [content]⟩

/-- A resolver that has loaded part of its table. -/
structure Filled (world : World) (table : VocTable) (state : VocState) : Prop where
  files : state.files = world
  resolver : state.resolver = { table, loaded := false }

/-- A resolver that could not load its table. -/
structure Unloaded (world : World) (state : VocState) : Prop where
  files : state.files = world
  loaded : state.resolver.loaded = false

/-- A call of the file system leaves the table alone. -/
theorem onFiles_ensures {Value : Type} {table : VocTable} {program : FileM Value}
    {post : Value → Prop}
    (ensures : Ensures (· = world) program (fun value after => after = world ∧ post value)
      (· = world)) :
    Ensures (Filled world table) (onFiles program)
      (fun value state => Filled world table state ∧ post value) (Unloaded world) := by
  rintro ⟨resolver, files⟩ ⟨same, loaded⟩
  dsimp only at same loaded
  have done := ensures files same
  rw [onFiles, exec_zoom]
  dsimp only
  rcases result : exec program files with ⟨error | value, after⟩
  · rw [result] at done
    exact ⟨done, by rw [loaded]⟩
  · rw [result] at done
    exact ⟨⟨done.1, loaded⟩, done.2⟩

/-- A record puts its entry in the table. -/
theorem addRecord_ensures {table : VocTable} {recordName : String} {found : Option Record}
    (stored : found.map Record.value =
      storedText (world.disk fileSystem.root) "VOC" recordName) :
    Ensures (Filled world table) (addRecord recordName found)
      (fun _ => Filled world (addStored (world.disk fileSystem.root) table recordName))
      (Unloaded world) := by
  have same : (found.bind fun record => parseVocEntry record.value) =
      (storedText (world.disk fileSystem.root) "VOC" recordName).bind parseVocEntry := by
    rw [← stored, Option.bind_map]
    rfl
  unfold addRecord addStored
  rw [same]
  split
  · exact Ensures.pure fun _ filled => filled
  · rintro ⟨resolver, files⟩ ⟨rfl, loaded⟩
    dsimp only at loaded
    subst loaded
    exact ⟨rfl, rfl⟩

/-- The records that are listed fill the table. -/
theorem loadRecords_ensures (faithful : world.faults = []) (recordNames : List String)
    (table : VocTable) :
    Ensures (Filled world table) (loadRecords fileSystem (fileSystem.handle "VOC") recordNames)
      (fun _ => Filled world
        (recordNames.foldl (addStored (world.disk fileSystem.root)) table))
      (Unloaded world) := by
  induction recordNames generalizing table with
  | nil => exact Ensures.pure fun _ filled => filled
  | cons recordName rest inductionHypothesis =>
      refine (onFiles_ensures (readRecord_ensures faithful _ recordName)).bind fun found => ?_
      refine .assume fun stored => ?_
      exact (addRecord_ensures stored).bind fun _ => inductionHypothesis _

/-- The listing of `VOC` changes nothing. -/
theorem listRecords_ensures (faithful : world.faults = []) :
    Ensures (· = world) (FileSystem.listRecords (fileSystem.handle "VOC"))
      (fun recordNames after => after = world ∧
        recordNames = FileSystem.sortUnique
          ((((world.disk fileSystem.root).records "VOC").map FileSystem.recordNames).getD []))
      (· = world) := by
  intro state same
  rw [same, FileSystem.listRecords, exec_bind, PickFS.exec_inspect faithful]
  exact ⟨rfl, rfl⟩

/-- `VOC` is opened when it is a file. -/
theorem exec_openVoc (faithful : world.faults = []) :
    exec (fileSystem.openFile "VOC") world =
      (match (world.disk fileSystem.root).lookup "VOC" with
        | none => .error "File not found: VOC"
        | some .other => .error "Invalid file storage for: VOC"
        | some (.directory _) => .ok (fileSystem.handle "VOC"), world) := by
  have valid : isValidName "VOC" = true := by decide
  rw [PickFS.exec_openFile faithful, valid]
  rfl

/-- A load fills the table with what is stored, or leaves it unloaded. -/
theorem loadVocTable_ensures (faithful : world.faults = []) :
    Ensures (Unloaded world) (loadVocTable fileSystem)
      (fun _ => Filled world (storedTable (world.disk fileSystem.root))) (Unloaded world) := by
  have cleared : Ensures (Unloaded world)
      (setResolver fun resolver => { resolver with table := ∅ })
      (fun _ => Filled world ∅) (Unloaded world) := by
    rintro ⟨⟨_, loaded⟩, files⟩ ⟨same, notLoaded⟩
    dsimp only at same notLoaded
    subst same notLoaded
    exact ⟨rfl, rfl⟩
  refine cleared.bind fun _ => ?_
  rintro state filled
  rw [exec_bind, exec_caught, filled.files, exec_openVoc faithful]
  unfold storedTable Directory.records
  have filled : Filled world ∅ ({ state with files := world } : VocState) := ⟨rfl, filled.resolver⟩
  cases known : (world.disk fileSystem.root).lookup "VOC" with
  | none => exact filled
  | some storage =>
      cases storage with
      | other => exact filled
      | directory records =>
          refine Ensures.bind (onFiles_ensures (listRecords_ensures faithful)) ?_ _ filled
          intro recordNames
          refine .assume fun same => ?_
          subst same
          have listed : (world.disk fileSystem.root).records "VOC" = some records := by
            rw [Directory.records, known]
          rw [listed]
          exact loadRecords_ensures faithful _ _

end Loading

/-! ## Answers -/

/-- A table that is kept is the one that the stored records make. -/
structure Coherent (fileSystem : FileSystem) (state : VocState) : Prop where
  faithful : state.files.faults = []
  table : state.resolver.loaded = true →
    state.resolver.table = storedTable (state.files.disk fileSystem.root)

/-- The same files with a resolver that has loaded nothing. -/
def fresh (state : VocState) : VocState := { state with resolver := {} }

section Answers

variable {fileSystem : FileSystem} {state : VocState} {Answer : Type} {ask : VocTable → Answer}

/-- A table that is not loaded is coherent. -/
theorem coherent_fresh (faithful : state.files.faults = []) :
    Coherent fileSystem (fresh state) where
  faithful := faithful
  table := nofun

/-- A coherent table that is loaded is the stored one. -/
theorem ensureLoaded_ensures (coherent : Coherent fileSystem state) :
    Ensures (· = state) (ensureLoaded fileSystem)
      (fun _ after => after.files = state.files ∧ after.resolver =
        { table := storedTable (state.files.disk fileSystem.root), loaded := true })
      (Unloaded state.files) := by
  refine .get fun start same => ?_
  subst same
  split
  · next loaded =>
      rintro _ rfl
      refine ⟨rfl, ?_⟩
      rw [← coherent.table loaded, ← loaded]
  · next notLoaded =>
      have unloaded : Unloaded start.files start := ⟨rfl, by simpa using notLoaded⟩
      intro begun same
      subst same
      refine (loadVocTable_ensures coherent.faithful).bind ?_ _ unloaded
      rintro _ ⟨resolver, files⟩ ⟨rfl, filled⟩
      dsimp only at filled
      subst filled
      exact ⟨rfl, rfl⟩

/-- An answer is the one of the stored table. -/
theorem answer_ensures (coherent : Coherent fileSystem state) :
    Ensures (· = state) (answer fileSystem ask)
      (fun result after => after.files = state.files ∧ after.resolver =
        { table := storedTable (state.files.disk fileSystem.root), loaded := true } ∧
        result = ask (storedTable (state.files.disk fileSystem.root)))
      (Unloaded state.files) := by
  refine (ensureLoaded_ensures coherent).bind fun _ => ?_
  rintro ⟨resolver, files⟩ ⟨same, loaded⟩
  dsimp only at same loaded
  subst same loaded
  exact ⟨rfl, rfl, rfl⟩

/-- The question leaves the table coherent, and the files as they were. -/
theorem coherent_answer (coherent : Coherent fileSystem state) :
    (exec (answer fileSystem ask) state).2.files = state.files ∧
      Coherent fileSystem (exec (answer fileSystem ask) state).2 := by
  have done := @answer_ensures fileSystem state Answer ask coherent state rfl
  split at done
  · next result after asked =>
      rw [asked]
      obtain ⟨files, resolver, -⟩ := done
      refine ⟨files, ⟨by rw [files]; exact coherent.faithful, fun _ => ?_⟩⟩
      rw [resolver, files]
  · next after asked =>
      rw [asked]
      refine ⟨done.files, ⟨by rw [done.files]; exact coherent.faithful, fun loaded => ?_⟩⟩
      rw [done.loaded] at loaded
      cases loaded

/-- A resolver that has loaded nothing answers like a fresh one. -/
theorem exec_answer_of_unloaded (notLoaded : state.resolver.loaded = false) :
    exec (answer fileSystem ask) state = exec (answer fileSystem ask) (fresh state) := by
  obtain ⟨⟨table, loaded⟩, files⟩ := state
  dsimp only at notLoaded
  subst notLoaded
  rfl

/-- A table that is loaded answers at once. -/
theorem exec_answer_of_loaded (loaded : state.resolver.loaded = true) :
    exec (answer fileSystem ask) state = (.ok (ask state.resolver.table), state) := by
  obtain ⟨⟨table, _⟩, files⟩ := state
  dsimp only at loaded
  subst loaded
  rfl

/-- A coherent resolver answers what a fresh one answers. -/
theorem answer_eq_fresh (coherent : Coherent fileSystem state) {result : Answer}
    (answered : (exec (answer fileSystem ask) (fresh state)).1 = .ok result) :
    (exec (answer fileSystem ask) state).1 = .ok result := by
  cases loaded : state.resolver.loaded with
  | false => rwa [exec_answer_of_unloaded loaded]
  | true =>
      have stored := @answer_ensures fileSystem _ Answer ask
        (coherent_fresh coherent.faithful) (fresh state) rfl
      rcases asked : exec (answer fileSystem ask) (fresh state) with ⟨error | found, after⟩
      · rw [asked] at answered
        cases answered
      · rw [asked] at answered stored
        cases answered
        rw [exec_answer_of_loaded loaded, stored.2.2, coherent.table loaded]
        rfl

end Answers

/-! ## Locks -/

section Locks

variable {fileSystem : FileSystem} {world : World}

/-- No other session has a lock on a record of `VOC`. -/
def VocAccessible (fileSystem : FileSystem) (world : World) : Prop :=
  ∀ recordName, PickFS.Accessible fileSystem world "VOC" recordName

/-- A record that is not locked can be read. -/
theorem exec_readRecord_of_accessible (faithful : world.faults = []) (handle : FileHandle)
    {recordName : String} (valid : PickFS.isValidRecordName recordName = true)
    (accessible : PickFS.Accessible fileSystem world handle.name recordName) :
    ∃ found, exec (fileSystem.readRecord handle recordName) world = (.ok found, world) := by
  unfold FileSystem.readRecord
  rw [valid]
  simp only [Bool.not_true, Bool.false_eq_true, if_false]
  rw [exec_bind, PickFS.exec_assertRecordAccessible accessible]
  dsimp only
  rw [exec_bind, PickFS.exec_firstExisting faithful]
  dsimp only
  cases found : (candidateExtensions handle.name).find? fun extension =>
      ((world.disk handle.root).content handle.name (recordName, extension)).isSome with
  | none => exact ⟨none, rfl⟩
  | some extension =>
      have stored := List.find?_some found
      obtain ⟨text, content⟩ := Option.isSome_iff_exists.mp stored
      simp only [exec_bind, PickFS.exec_inspect faithful, content]
      exact ⟨_, rfl⟩

/-- A record that has been read changes the resolver only. -/
theorem exec_addRecord (recordName : String) (found : Option Record) (state : VocState) :
    ∃ resolver, exec (addRecord recordName found) state = (.ok (), { state with resolver }) := by
  unfold addRecord
  split
  · exact ⟨state.resolver, rfl⟩
  · exact ⟨_, rfl⟩

/-- When no record is locked all of them are loaded. -/
theorem exec_loadRecords_of_accessible (faithful : world.faults = [])
    (accessible : VocAccessible fileSystem world) {recordNames : List String}
    (valid : ∀ recordName ∈ recordNames, PickFS.isValidRecordName recordName = true)
    {state : VocState} (files : state.files = world) :
    (exec (loadRecords fileSystem (fileSystem.handle "VOC") recordNames) state).1 = .ok () := by
  induction recordNames generalizing state with
  | nil => rfl
  | cons recordName rest inductionHypothesis =>
      obtain ⟨found, read⟩ := exec_readRecord_of_accessible faithful (fileSystem.handle "VOC")
        (valid recordName List.mem_cons_self) (accessible recordName)
      obtain ⟨resolver, added⟩ := exec_addRecord recordName found { state with files := world }
      rw [loadRecords, exec_bind, onFiles, exec_zoom, files, read]
      dsimp only
      rw [exec_bind, added]
      exact inductionHypothesis
        (fun other member => valid other (List.mem_cons_of_mem _ member)) rfl

/-- The names that a directory lists are names of records. -/
theorem valid_of_listed {records : Records} {recordName : String}
    (listed : recordName ∈ FileSystem.sortUnique (FileSystem.recordNames records)) :
    PickFS.isValidRecordName recordName = true := by
  rw [PickFS.sortUnique_eq, Finset.mem_sort, List.mem_toFinset] at listed
  exact (List.mem_filter.mp listed).2

/-- Where no other session has a lock on `VOC`, a fresh resolver answers. -/
theorem fresh_answers {Answer : Type} {ask : VocTable → Answer} {state : VocState}
    (faithful : state.files.faults = []) (accessible : VocAccessible fileSystem state.files) :
    ∃ result, (exec (answer fileSystem ask) (fresh state)).1 = .ok result := by
  have loads : (exec (loadVocTable fileSystem) (fresh state)).1 = .ok () := by
    have cleared : exec (setResolver fun resolver => { resolver with table := ∅ }) (fresh state) =
        (.ok (), fresh state) := rfl
    rw [loadVocTable, exec_bind, cleared]
    dsimp only
    rw [exec_bind, exec_caught]
    have opened := @exec_openVoc fileSystem _ faithful
    change exec (fileSystem.openFile "VOC") (fresh state).files = _ at opened
    rw [opened]
    cases known : (state.files.disk fileSystem.root).lookup "VOC" with
    | none => rfl
    | some storage =>
        cases storage with
        | other => rfl
        | directory records =>
            dsimp only
            have listed : exec (FileSystem.listRecords (fileSystem.handle "VOC")) state.files =
                (.ok (FileSystem.sortUnique (FileSystem.recordNames records)), state.files) := by
              rw [FileSystem.listRecords, exec_bind, PickFS.exec_inspect faithful]
              simp only [FileSystem.handle, Directory.records, known]
              rfl
            rw [exec_bind, onFiles, exec_zoom, listed]
            exact exec_loadRecords_of_accessible faithful accessible (fun _ => valid_of_listed) rfl
  rcases loaded : exec (loadVocTable fileSystem) (fresh state) with ⟨error | done, after⟩
  · rw [loaded] at loads
    cases loads
  · refine ⟨ask after.resolver.table, ?_⟩
    have ensured : exec (ensureLoaded fileSystem) (fresh state) =
        (.ok (), { after with resolver := { after.resolver with loaded := true } }) := by
      change exec (loadVocTable fileSystem >>= fun _ =>
        setResolver fun resolver => { resolver with loaded := true }) (fresh state) = _
      rw [exec_bind, loaded]
      rfl
    rw [answer, exec_bind, ensured]
    rfl

end Locks

end Gemini.PickVoc
