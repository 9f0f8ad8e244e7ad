import Gemini.English.Verbs
import Gemini.PickFS.RecordCells

/-!
# What a list shows

`LIST` of a file succeeds exactly when the file is there, all of its fields are known and no other
session has a lock on a record. It then shows every record once, in the order of the ids, with the
cells of the text that is stored.
-/

namespace Gemini.English

open Gemini.Data (bind_eq_ok)
open Gemini.PickFS (Accessible FileSystem Record Records Stored World isValidName isValidRecordName
  recordFile steady_same)
open Gemini.Semantics Program

namespace Executor

variable {fileSystem : FileSystem} {world : World} {fileName id : String} {records : Records}

/-- The ids of the records of a directory, in ascending order. -/
def idsOf (records : Records) : List String :=
  FileSystem.sortUnique (FileSystem.recordNames records)

/-- The text of a record, under the first extension that it is looked for with. -/
def textOf (fileSystem : FileSystem) (world : World) (fileName id : String) : String :=
  let directory := world.disk fileSystem.root
  (directory.content fileName (recordFile directory fileName id)).getD ""

/-- A file that is there. -/
structure IsFile (fileSystem : FileSystem) (world : World) (fileName : String)
    (records : Records) : Prop where
  valid : isValidName fileName = true
  directory : (world.disk fileSystem.root).lookup fileName = some (.directory records)

/-- The records of a file. -/
theorem IsFile.records_eq (isFile : IsFile fileSystem world fileName records) :
    (world.disk fileSystem.root).records fileName = some records := by
  rw [PickFS.Directory.records, isFile.directory]

/-- The names are those of the file, and of nothing that is no file. -/
theorem listRecordNames_eq_ok (faithful : world.faults = []) {names : List String} :
    outcome (fileSystem.listRecordNames fileName) world = .ok names ↔
      ∃ records, IsFile fileSystem world fileName records ∧ names = idsOf records := by
  have kept := (@PickFS.openFile_ensures fileSystem _ (steady_same faithful)
    fileName).weakenPost fun _ _ => And.left
  have listed (records : Records)
      (directory : (world.disk fileSystem.root).lookup fileName = some (.directory records)) :
      outcome (FileSystem.listRecords (fileSystem.handle fileName)) world =
        .ok (idsOf records) := by
    unfold outcome FileSystem.listRecords
    rw [exec_bind, PickFS.exec_inspect faithful]
    simp only [FileSystem.handle, PickFS.Directory.records, directory]
    rfl
  rw [FileSystem.listRecordNames, outcome_bind kept, outcome, PickFS.exec_openFile faithful]
  cases valid : isValidName fileName with
  | false =>
      constructor
      · intro done
        cases done
      · rintro ⟨records, isFile, -⟩
        rw [isFile.valid] at valid
        cases valid
  | true =>
      simp only [Bool.not_true, Bool.false_eq_true, if_false]
      constructor
      · intro done
        split at done
        · cases done
        · cases done
        · next records directory =>
            have names := (listed records directory).symm.trans done
            exact ⟨records, ⟨valid, directory⟩, (Except.ok.inj names).symm⟩
      · rintro ⟨records, isFile, rfl⟩
        rw [isFile.directory]
        exact listed records isFile.directory

/-- The ids of a file are the valid names of its records. -/
theorem mem_idsOf : id ∈ idsOf records ↔
    isValidRecordName id = true ∧ ∃ extension, (id, extension) ∈ records := by
  rw [idsOf, PickFS.sortUnique_eq, Finset.mem_sort, List.mem_toFinset]
  simp [FileSystem.recordNames, AList.mem_keys, and_comm]

/-- A record that is listed has a text. -/
theorem IsFile.stored (isFile : IsFile fileSystem world fileName records)
    (faithful : world.faults = []) (listed : id ∈ idsOf records)
    (accessible : Accessible fileSystem world fileName id) :
    Stored fileSystem world fileName id (textOf fileSystem world fileName id) := by
  obtain ⟨valid, extension, member⟩ := mem_idsOf.mp listed
  have present : ((world.disk fileSystem.root).content fileName (id, extension)).isSome = true := by
    rw [PickFS.Directory.content, isFile.records_eq]
    exact AList.lookup_isSome.mpr member
  have found : ((PickFS.candidateExtensions fileName).find? fun extension =>
      ((world.disk fileSystem.root).content fileName (id, extension)).isSome).isSome = true :=
    List.find?_isSome.mpr ⟨extension, PickFS.mem_candidateExtensions _ _, present⟩
  obtain ⟨first, isFirst⟩ := Option.isSome_iff_exists.mp found
  have content : ((world.disk fileSystem.root).content fileName
      (recordFile (world.disk fileSystem.root) fileName id)).isSome = true := by
    rw [recordFile, isFirst]
    exact (List.find?_eq_some_iff_append.mp isFirst).1
  obtain ⟨text, isText⟩ := Option.isSome_iff_exists.mp content
  exact {
    faithful
    validFile := isFile.valid
    validRecord := valid
    directory := by
      rw [isFile.records_eq]
      rfl
    accessible
    content := by
      rw [textOf, isText]
      rfl }

/-- A record that is listed is read exactly when no other session has its lock. -/
theorem IsFile.read_eq_ok (isFile : IsFile fileSystem world fileName records)
    (faithful : world.faults = []) (listed : id ∈ idsOf records) {found : Option Record} :
    outcome (fileSystem.read fileName id) world = .ok found ↔
      Accessible fileSystem world fileName id ∧
        found = some (.ofText id (textOf fileSystem world fileName id)) := by
  have read (accessible : Accessible fileSystem world fileName id) :
      outcome (fileSystem.read fileName id) world =
        .ok (some (.ofText id (textOf fileSystem world fileName id))) := by
    rw [outcome, PickFS.exec_read (isFile.stored faithful listed accessible)]
  constructor
  · intro done
    have accessible : Accessible fileSystem world fileName id := by
      have ensures := @PickFS.read_ensures fileSystem _ (steady_same faithful) fileName id
      have ran := exec_of_keeps (ensures.weakenPost fun _ _ => And.left)
      have ensured := ensures world rfl
      rw [ran, done] at ensured
      exact ensured.2
    rw [read accessible] at done
    exact ⟨accessible, (Except.ok.inj done).symm⟩
  · rintro ⟨accessible, rfl⟩
    exact read accessible

/-- The record of an id that is listed. -/
def listedOf (fileSystem : FileSystem) (world : World) (fileName id : String) : Listed where
  id
  record := some (.fromRaw (textOf fileSystem world fileName id))

/-- Listed ids are read when no other session has their records locked. -/
theorem IsFile.readListed_eq_ok (isFile : IsFile fileSystem world fileName records)
    (faithful : world.faults = []) {ids : List String} (listed : ∀ id ∈ ids, id ∈ idsOf records)
    {found : List Listed} :
    outcome (readListed fileSystem fileName ids) world = .ok found ↔
      (∀ id ∈ ids, Accessible fileSystem world fileName id) ∧
        found = ids.map (listedOf fileSystem world fileName) := by
  have steady := steady_same faithful
  induction ids generalizing found with
  | nil => simp [readListed, eq_comm]
  | cons id ids inductionHypothesis =>
      obtain ⟨here, later⟩ := List.forall_mem_cons.mp listed
      rw [readListed, outcome_bind (keeps_reported
        ((PickFS.read_ensures steady fileName id).weakenPost fun _ _ => And.left)), bind_eq_ok,
        List.forall_mem_cons]
      simp only [outcome_reported_eq_ok, isFile.read_eq_ok faithful here,
        outcome_bind (keeps_readListed steady _ _), bind_eq_ok, inductionHypothesis later]
      constructor
      · rintro ⟨record, ⟨accessible, rfl⟩, others, ⟨alsoAccessible, rfl⟩, done⟩
        refine ⟨⟨accessible, alsoAccessible⟩, ?_⟩
        have same := Except.ok.inj done
        rw [← same, Option.map_some, PickFS.Record.value_ofText]
        rfl
      · rintro ⟨⟨accessible, alsoAccessible⟩, rfl⟩
        refine ⟨_, ⟨accessible, rfl⟩, _, ⟨alsoAccessible, rfl⟩, ?_⟩
        rw [Option.map_some, PickFS.Record.value_ofText]
        rfl

/-! ## Fields that are known -/

variable {Number : Type} [LinearOrder Number] [IType.Literals Number]

/-- A token resolves to a field that is known. -/
structure Resolves (fileSystem : FileSystem) (world : World) (fileName token : String)
    (named : NamedRef Number) : Prop where
  same : named.1 = token
  found : outcome (resolveRef fileSystem (refItems Number) fileName token) world = .ok named.2
  known : fieldRefIsResolved named.2 = true

/-- A call succeeds alike inside and outside of the executor. -/
theorem outcome_leaving_eq_ok {Value : Type} {program : Program World VM.FileError Value}
    {value : Value} :
    outcome (leaving program) world = .ok value ↔ outcome program world = .ok value := by
  unfold leaving outcome
  rw [exec_bind, exec_caught, id]
  cases (exec program world).1 <;> simp

/-- Fields are required of the file exactly when every token resolves. -/
theorem requireFields_eq_ok (faithful : world.faults = []) {tokens : List String}
    {refs : List (NamedRef Number)} :
    outcome (requireFields Number fileSystem fileName tokens) world = .ok refs ↔
      List.Forall₂ (Resolves fileSystem world fileName) tokens refs := by
  have steady := steady_same faithful
  have resolves {refs : List (NamedRef Number)} :
      outcome (resolveFields Number fileSystem fileName tokens) world = .ok refs ↔
        List.Forall₂ (fun token named => named.1 = token ∧
          outcome (resolveRef fileSystem (refItems Number) fileName token) world = .ok named.2)
          tokens refs := by
    induction tokens generalizing refs with
    | nil => simp [resolveFields, eq_comm]
    | cons token tokens inductionHypothesis =>
        rw [resolveFields, outcome_bind (keeps_leaving (keeps_resolveRef steady _ _)), bind_eq_ok]
        simp only [outcome_leaving_eq_ok, outcome_bind (keeps_resolveFields steady _ _), bind_eq_ok,
          inductionHypothesis, outcome_pure, Except.ok.injEq]
        rw [List.forall₂_cons_left_iff]
        constructor
        · rintro ⟨ref, found, others, resolved, rfl⟩
          exact ⟨(token, ref), others, ⟨rfl, found⟩, resolved, rfl⟩
        · rintro ⟨⟨named, ref⟩, others, ⟨rfl, found⟩, resolved, rfl⟩
          exact ⟨ref, found, others, resolved, rfl⟩
  have known {refs : List (NamedRef Number)} :
      firstUnresolvedFieldError refs fileName = none ↔
        ∀ named ∈ refs, fieldRefIsResolved named.2 = true := by
    simp [firstUnresolvedFieldError]
  rw [requireFields, outcome_bind (keeps_resolveFields steady _ _), bind_eq_ok]
  constructor
  · rintro ⟨value, resolved, done⟩
    cases unresolved : firstUnresolvedFieldError value fileName with
    | some message =>
        rw [unresolved] at done
        cases done
    | none =>
        rw [unresolved] at done
        cases done
        have allKnown := known.mp unresolved
        refine List.forall₂_iff_get.mpr ?_
        obtain ⟨length, each⟩ := List.forall₂_iff_get.mp (resolves.mp resolved)
        refine ⟨length, fun index here there => ?_⟩
        obtain ⟨same, found⟩ := each index here there
        exact ⟨same, found, allKnown _ (List.get_mem _ _)⟩
  · intro each
    refine ⟨refs, resolves.mpr (each.imp fun _ _ field => ⟨field.same, field.found⟩), ?_⟩
    have allKnown : ∀ named ∈ refs, fieldRefIsResolved named.2 = true := by
      intro named member
      obtain ⟨index, rfl⟩ := List.mem_iff_get.mp member
      obtain ⟨length, fields⟩ := List.forall₂_iff_get.mp each
      exact (fields index.1 (by omega) index.2).known
    rw [known.mpr allKnown]
    rfl

/-! ## The rows -/

variable [ReportDoubles Number] {query : Query} {options : EnglishRunOptions}

/-- What is listed of a file. -/
structure ListsFile (fileSystem : FileSystem) (world : World) (query : Query) (records : Records)
    (fields breakRef totalRef : List (NamedRef Number)) : Prop where
  isFile : IsFile fileSystem world query.fileName records
  unlocked : ∀ id ∈ idsOf records, Accessible fileSystem world query.fileName id
  fields : List.Forall₂ (Resolves fileSystem world query.fileName) query.fields fields
  breakRef : List.Forall₂ (Resolves fileSystem world query.fileName) query.breakOnField.toList
    breakRef
  totalRef : List.Forall₂ (Resolves fileSystem world query.fileName) query.totalField.toList
    totalRef

/-- `LIST` of a file shows every record once, in the order of the ids, from the text that is
stored; and it does so exactly when the fields are known and no record is locked by another
session. -/
theorem lists_file_iff (faithful : world.faults = []) (whole : options.constrainRecordIds = none)
    {listing : Produced Number} :
    under fileSystem world query options .LIST = .ok listing ↔
      ∃ records fields breakRef totalRef,
        ListsFile fileSystem world query records fields breakRef totalRef ∧ listing = {
          rows := (idsOf records).map fun id => rowOf query fields breakRef totalRef
            (listedOf fileSystem world query.fileName id)
          selectedIds := idsOf records } := by
  have ids {names : List String} :
      outcome (recordIds fileSystem query options) world = .ok names ↔
        ∃ records, IsFile fileSystem world query.fileName records ∧ names = idsOf records := by
    rw [recordIds, whole]
    exact outcome_reported_eq_ok.trans (listRecordNames_eq_ok faithful)
  rw [list_eq_ok faithful]
  constructor
  · rintro ⟨names, fields, breakRef, totalRef, listed, lists, rfl⟩
    obtain ⟨records, isFile, rfl⟩ := ids.mp lists.named
    obtain ⟨unlocked, rfl⟩ :=
      (isFile.readListed_eq_ok faithful fun _ member => member).mp lists.listed
    refine ⟨records, fields, breakRef, totalRef, ⟨isFile, unlocked,
      (requireFields_eq_ok faithful).mp lists.fields,
      (requireFields_eq_ok faithful).mp lists.breakRef,
      (requireFields_eq_ok faithful).mp lists.totalRef⟩, ?_⟩
    rw [List.map_map]
    rfl
  · rintro ⟨records, fields, breakRef, totalRef, lists, rfl⟩
    refine ⟨idsOf records, fields, breakRef, totalRef, _, ⟨ids.mpr ⟨records, lists.isFile, rfl⟩,
      (requireFields_eq_ok faithful).mpr lists.fields,
      (requireFields_eq_ok faithful).mpr lists.breakRef,
      (requireFields_eq_ok faithful).mpr lists.totalRef,
      (lists.isFile.readListed_eq_ok faithful fun _ member => member).mpr
        ⟨lists.unlocked, rfl⟩⟩, ?_⟩
    rw [List.map_map]
    rfl

/-! ## A file with one record -/

/-- A file with one record is listed as one row. -/
theorem lists_oneRecord :
    ∃ records fields breakRef totalRef,
      @ListsFile ℤ _ IType.wholeLiterals account oneRecord dataQuery records fields breakRef
        totalRef ∧ oneRow = {
          rows := (idsOf records).map fun id =>
            @rowOf ℤ wholeReports dataQuery fields breakRef totalRef
              (listedOf account oneRecord "DATA" id)
          selectedIds := idsOf records } :=
  (@lists_file_iff _ _ ℤ _ IType.wholeLiterals wholeReports _ _ rfl rfl _).mp list_oneRecord

end Executor

end Gemini.English
