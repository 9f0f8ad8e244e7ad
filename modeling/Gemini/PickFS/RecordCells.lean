import Gemini.Data.Fields
import Gemini.PickFS.RecordStore

/-!
# The cells of a stored record

A record is read and written as text, and its attributes are numbered by the lines they stand
on. An attribute that is set beyond the line after the last one is written without the lines
between: `setAttribute_cells` says where it goes. The law of cells, that a write changes its
own cell and no other, holds exactly where the two places agree.
-/

namespace Gemini.PickFS

open Gemini.Data Gemini.Semantics Gemini.Locking Program

/-! ## The lines of a text -/

/-- The attributes of a text in order. -/
def cells (raw : String) : List String :=
  if raw = "" then [] else (raw.toList.splitOn '\n').map String.ofList

/-- Lines joined by line feeds. -/
def joinLines (lines : List String) : String :=
  String.ofList (['\n'].intercalate (lines.map String.toList))

/-- The attributes of a record are its lines, numbered from one. -/
theorem fromRaw_attributes (raw : String) :
    (StructuredRecord.fromRaw raw).attributes = numberFrom 1 (cells raw) := by
  have last := StructuredRecord.getLast_splitOn raw.toList
  have lines : StructuredRecord.getlines raw.toList ++
      (if raw.toList.getLast? = some '\n' then [[]] else []) =
        if raw = "" then [] else raw.toList.splitOn '\n' := by
    unfold StructuredRecord.getlines
    by_cases empty : raw = ""
    · subst empty
      rfl
    · have some : raw.toList ≠ [] := fun none => empty (String.toList_eq_nil_iff.mp none)
      rw [if_neg empty]
      by_cases newline : raw.toList.getLast? = Option.some '\n'
      · have ended := last.mpr (.inr newline)
        rw [if_pos ended, if_pos newline]
        exact List.dropLast_append_getLast? [] ended
      · have unended : ¬ (raw.toList.splitOn '\n').getLast? = Option.some [] := by
          rw [last]
          exact not_or.mpr ⟨some, newline⟩
        rw [if_neg unended, if_neg newline, List.append_nil]
  unfold StructuredRecord.fromRaw cells
  simp only [lines]
  split <;> rfl

/-- Every line gets a number. -/
theorem length_numberFrom (attributeNo : Int) (lines : List String) :
    (numberFrom attributeNo lines).length = lines.length := by
  induction lines generalizing attributeNo with
  | nil => rfl
  | cons line rest inductionHypothesis =>
      rw [numberFrom, List.length_cons, List.length_cons, inductionHypothesis]

/-- The number of a line finds it. -/
theorem find_numberFrom (attributeNo : Int) (lines : List String) (index : Nat) :
    ((numberFrom attributeNo lines).find? fun entry => entry.1 = attributeNo + index) =
      lines[index]?.map fun line => (attributeNo + index, { raw := line }) := by
  induction lines generalizing attributeNo index with
  | nil => rfl
  | cons line rest inductionHypothesis =>
      cases index with
      | zero => simp [numberFrom]
      | succ index =>
          have later := inductionHypothesis (attributeNo + 1) index
          have place : attributeNo + 1 + (index : Int) = attributeNo + ((index + 1 : Nat) : Int) := by
            omega
          rw [place] at later
          rw [numberFrom, List.find?_cons_of_neg, later]
          · rfl
          · simp
            omega

/-- An attribute is the line of its number, and empty where there is none. -/
theorem attributeAt_fromRaw (raw : String) {attributeNo : Int} (positive : 0 < attributeNo) :
    ((StructuredRecord.fromRaw raw).attributeAt attributeNo).raw =
      (cells raw).getD (attributeNo - 1).toNat "" := by
  have place : (1 : Int) + ((attributeNo - 1).toNat : Int) = attributeNo := by omega
  have found := find_numberFrom 1 (cells raw) (attributeNo - 1).toNat
  rw [place] at found
  rw [StructuredRecord.attributeAt, if_neg (by omega), fromRaw_attributes, found,
    List.getD_eq_getElem?_getD]
  cases (cells raw)[(attributeNo - 1).toNat]? <;> rfl

/-- No line of a text has a newline in it. -/
theorem newline_not_mem_cells {raw line : String} (member : line ∈ cells raw) :
    '\n' ∉ line.toList := by
  unfold cells at member
  split at member
  · cases member
  · obtain ⟨field, inFields, rfl⟩ := List.mem_map.mp member
    rw [String.toList_ofList]
    exact not_mem_of_mem_splitOn inFields

/-- Fields without the separator come back when they are joined and split. -/
theorem splitOn_joined {separator : Char} {fields : List String} (some : fields ≠ [])
    (clean : ∀ field ∈ fields, separator ∉ field.toList) :
    (([separator].intercalate (fields.map String.toList)).splitOn separator).map String.ofList =
      fields := by
  rw [List.splitOn_intercalate, List.map_map]
  · have same : String.ofList ∘ String.toList = id := by
      funext text
      exact String.ofList_toList
    rw [same, List.map_id]
  · intro field member
    obtain ⟨text, inFields, rfl⟩ := List.mem_map.mp member
    exact clean text inFields
  · exact fun none => some (List.map_eq_nil_iff.mp none)

/-- Lines that are joined and taken apart again read as before. -/
theorem getD_cells_joinLines {lines : List String} (clean : ∀ line ∈ lines, '\n' ∉ line.toList)
    (index : Nat) : (cells (joinLines lines)).getD index "" = lines.getD index "" := by
  by_cases some : lines = []
  · subst some
    rfl
  · have parts := splitOn_joined some clean
    have text : (joinLines lines).toList = ['\n'].intercalate (lines.map String.toList) :=
      String.toList_ofList
    unfold cells
    split
    · next empty =>
        -- Only a single empty line is written as no text.
        rw [empty] at text
        rw [← text] at parts
        rw [← parts]
        cases index <;> rfl
    · rw [text, parts]

/-! ## Setting an attribute -/

/-- The numbered lines are the lines. -/
theorem map_raw_numberFrom (attributeNo : Int) (lines : List String) :
    (numberFrom attributeNo lines).map (fun entry => entry.2.raw) = lines := by
  induction lines generalizing attributeNo with
  | nil => rfl
  | cons line rest inductionHypothesis =>
      rw [numberFrom, List.map_cons, inductionHypothesis]

/-- A line assigned to a numbered list is put in its place, or at the end. -/
theorem map_assign_numberFrom (start : Int) (lines : List String) (index : Nat) (line : String) :
    (assign (start + index) { raw := line } (numberFrom start lines)).map (fun entry =>
      entry.2.raw) = putField lines index line := by
  induction lines generalizing start index with
  | nil => simp [numberFrom, assign, putField]
  | cons first rest inductionHypothesis =>
      have tail := map_raw_numberFrom (start + 1) rest
      cases index with
      | zero =>
          rw [numberFrom, assign, if_neg (by omega), if_pos (by omega)]
          simp [putField, tail]
      | succ index =>
          have place : start + ((index + 1 : Nat) : Int) = start + 1 + (index : Int) := by omega
          rw [place, numberFrom, assign, if_neg (by omega), if_neg (by omega), List.map_cons,
            inductionHypothesis]
          unfold putField
          rw [List.length_cons]
          by_cases inside : index < rest.length
          · rw [if_pos inside, if_pos (by omega), List.set_cons_succ]
          · rw [if_neg inside, if_neg (by omega), List.cons_append]

/-- Where an attribute that is set goes in the text. -/
theorem toRaw_setAttribute (raw line : String) {attributeNo : Int} (positive : 0 < attributeNo) :
    ((StructuredRecord.fromRaw raw).setAttribute attributeNo { raw := line }).toRaw =
      joinLines (putField (cells raw) (attributeNo - 1).toNat line) := by
  have place : (1 : Int) + ((attributeNo - 1).toNat : Int) = attributeNo := by omega
  have lines := map_assign_numberFrom 1 (cells raw) (attributeNo - 1).toNat line
  rw [place, ← fromRaw_attributes] at lines
  rw [StructuredRecord.setAttribute, if_neg (by omega), StructuredRecord.toRaw, joinLines, ← lines,
    List.map_map]
  rfl

/-- A line put into a record breaks no other. -/
theorem clean_putField {raw line : String} {index : Nat} (clean : '\n' ∉ line.toList) :
    ∀ cell ∈ putField (cells raw) index line, '\n' ∉ cell.toList := by
  intro cell member
  unfold putField at member
  split at member
  · rcases List.mem_or_eq_of_mem_set member with before | rfl
    · exact newline_not_mem_cells before
    · exact clean
  · rcases List.mem_append.mp member with before | same
    · exact newline_not_mem_cells before
    · rw [List.mem_singleton.mp same]
      exact clean

/-- What an attribute reads as in a text. -/
def cellAt (raw : String) (attributeNo : Int) : String :=
  ((StructuredRecord.fromRaw raw).attributeAt attributeNo).raw

/-- The text of a cell: the line of its number. -/
theorem cellAt_eq (raw : String) (attributeNo : Int) :
    cellAt raw attributeNo =
      if attributeNo ≤ 0 then "" else (cells raw).getD (attributeNo - 1).toNat "" := by
  split
  · next nowhere => rw [cellAt, StructuredRecord.attributeAt, if_pos nowhere]
  · next positive => exact attributeAt_fromRaw raw (by omega)

/-- What the attributes read as after one has been set. -/
theorem cellAt_setAttribute (raw line : String) {attributeNo : Int} (positive : 0 < attributeNo)
    (clean : '\n' ∉ line.toList) {other : Int} (otherPositive : 0 < other) :
    cellAt ((StructuredRecord.fromRaw raw).setAttribute attributeNo { raw := line }).toRaw other =
      (putField (cells raw) (attributeNo - 1).toNat line).getD (other - 1).toNat "" := by
  rw [cellAt_eq, if_neg (by omega), toRaw_setAttribute raw line positive,
    getD_cells_joinLines (clean_putField clean)]

/-- Only this attribute has changed, and it reads as the line. -/
def OnlyCell (before after : String) (attributeNo : Int) (line : String) : Prop :=
  ∀ other, cellAt after other = if other = attributeNo then line else cellAt before other

/-- A write changes its own cell and no other exactly when the cell is on a line of the record
or on the one after, or the cell is empty. -/
theorem onlyCell_iff (raw line : String) {attributeNo : Int} (positive : 0 < attributeNo)
    (clean : '\n' ∉ line.toList) :
    OnlyCell raw ((StructuredRecord.fromRaw raw).setAttribute attributeNo { raw := line }).toRaw
      attributeNo line ↔ attributeNo ≤ (cells raw).length + 1 ∨ line = "" := by
  constructor
  · intro only
    by_contra neither
    obtain ⟨beyond, some⟩ := not_or.mp neither
    -- The line is written right after the last one, where another attribute is.
    have moved := only ((cells raw).length + 1)
    rw [cellAt_setAttribute raw line positive clean (by omega), if_neg (by omega), cellAt_eq,
      if_neg (by omega), putField, if_neg (by omega)] at moved
    have index : ((cells raw).length + 1 - 1 : Int).toNat = (cells raw).length := by omega
    rw [index] at moved
    exact some (by simpa using moved)
  · intro reachable other
    by_cases nowhere : other ≤ 0
    · rw [cellAt_eq, if_pos nowhere, if_neg (by omega), cellAt_eq, if_pos nowhere]
    · rw [cellAt_setAttribute raw line positive clean (by omega), cellAt_eq raw other,
        if_neg nowhere]
      by_cases within : attributeNo ≤ (cells raw).length + 1
      · rw [getD_putField _ _ _ (by omega)]
        by_cases same : other = attributeNo
        · rw [if_pos same, if_pos (by rw [same])]
        · rw [if_neg same, if_neg (by omega)]
      · have empty : line = "" := reachable.resolve_left within
        subst empty
        rw [getD_putField_absent _ _ (by omega)]
        by_cases same : other = attributeNo
        · rw [if_pos same, List.getD_eq_default _ _ (by omega)]
        · rw [if_neg same]

/-! ## Setting a value of an attribute -/

/-- No value of an attribute has a value mark in it. -/
theorem mark_not_mem_splitValues {attr : RecordAttribute} {value : String}
    (member : value ∈ attr.splitValues) : kValueMark ∉ value.toList := by
  obtain ⟨field, inFields, rfl⟩ := List.mem_map.mp member
  rw [String.toList_ofList]
  exact not_mem_of_mem_splitOn inFields

/-- An attribute has at least one value. -/
theorem splitValues_ne_nil (attr : RecordAttribute) : attr.splitValues ≠ [] := by
  intro none
  exact List.splitOn_ne_nil kValueMark _ (List.map_eq_nil_iff.mp none)

/-- Values that are joined and taken apart again are the same. -/
theorem splitValues_joinValues {values : List String} (some : values ≠ [])
    (clean : ∀ value ∈ values, kValueMark ∉ value.toList) :
    RecordAttribute.splitValues { raw := joinValues values } = values := by
  have text : (joinValues values).toList = [kValueMark].intercalate (values.map String.toList) :=
    String.toList_ofList
  rw [RecordAttribute.splitValues, text]
  exact splitOn_joined some clean

/-- The values of an attribute after one of them has been replaced. -/
theorem getD_replaceValue {values : List String} (some : values ≠ []) {valueIndex : Int}
    (positive : 0 < valueIndex) (value : String) (other : Nat) :
    (FileSystem.replaceValue values valueIndex value).getD other "" =
      if other = (valueIndex - 1).toNat then value else values.getD other "" := by
  have notEmpty : values.isEmpty = false := by simpa using some
  have padding (index : Nat) :
      (values ++ List.replicate (valueIndex.toNat - values.length) "").getD index "" =
        values.getD index "" := by
    by_cases inside : index < values.length
    · rw [List.getD_append _ _ _ _ inside]
    · rw [List.getD_append_right _ _ _ _ (by omega), List.getD_eq_default values _ (by omega),
        List.getD_eq_getElem?_getD, List.getElem?_replicate]
      split <;> rfl
  simp only [FileSystem.replaceValue, notEmpty, Bool.false_eq_true, if_false]
  by_cases same : other = (valueIndex - 1).toNat
  · subst same
    rw [if_pos rfl, List.getD_eq_getElem?_getD, List.getElem?_set_self]
    · rfl
    · simp only [List.length_append, List.length_replicate]
      omega
  · rw [if_neg same, List.getD_eq_getElem?_getD, List.getElem?_set_ne (Ne.symm same),
      ← List.getD_eq_getElem?_getD, padding]

/-- A value of the changed attribute was there before or is the new one. -/
theorem mem_replaceValue {values : List String} {valueIndex : Int} {value other : String}
    (member : other ∈ FileSystem.replaceValue values valueIndex value) :
    other ∈ values ∨ other = "" ∨ other = value := by
  unfold FileSystem.replaceValue at member
  rcases List.mem_or_eq_of_mem_set member with before | same
  · rcases List.mem_append.mp before with stored | padding
    · split at stored
      · exact .inr (.inl (List.mem_singleton.mp stored))
      · exact .inl stored
    · exact .inr (.inl (List.eq_of_mem_replicate padding))
  · exact .inr (.inr same)

/-- What a value of an attribute reads as in a text. -/
def valueAt (raw : String) (attributeNo valueIndex : Int) : String :=
  ((StructuredRecord.fromRaw raw).attributeAt attributeNo).valueAt valueIndex

/-- The attribute that a value is written into. -/
def replacedAttribute (raw : String) (attributeNo valueIndex : Int) (value : String) : String :=
  joinValues (FileSystem.replaceValue
    ((StructuredRecord.fromRaw raw).attributeAt attributeNo).splitValues valueIndex value)

/-- The values of the changed attribute. -/
theorem splitValues_replacedAttribute {raw value : String} (attributeNo valueIndex : Int)
    (unmarked : kValueMark ∉ value.toList) :
    RecordAttribute.splitValues { raw := replacedAttribute raw attributeNo valueIndex value } =
      FileSystem.replaceValue ((StructuredRecord.fromRaw raw).attributeAt attributeNo).splitValues
        valueIndex value := by
  refine splitValues_joinValues ?_ ?_
  · have notEmpty := splitValues_ne_nil ((StructuredRecord.fromRaw raw).attributeAt attributeNo)
    simp [FileSystem.replaceValue, notEmpty]
  · intro other member
    rcases mem_replaceValue member with stored | rfl | rfl
    · exact mark_not_mem_splitValues stored
    · exact List.not_mem_nil
    · exact unmarked

/-- A cell has no line feed. -/
theorem newline_not_mem_cellAt (raw : String) (attributeNo : Int) :
    '\n' ∉ (cellAt raw attributeNo).toList := by
  rw [cellAt_eq]
  split
  · exact List.not_mem_nil
  · rw [List.getD_eq_getElem?_getD]
    cases found : (cells raw)[(attributeNo - 1).toNat]? with
    | none => exact List.not_mem_nil
    | some line => exact newline_not_mem_cells (List.mem_of_getElem? found)

/-- A changed attribute has no line feed when the new value has none. -/
theorem newline_not_mem_replacedAttribute {raw value : String} (attributeNo valueIndex : Int)
    (clean : '\n' ∉ value.toList) :
    '\n' ∉ (replacedAttribute raw attributeNo valueIndex value).toList := by
  intro member
  rw [replacedAttribute, joinValues, String.toList_ofList] at member
  rcases mem_intercalate member with same | ⟨field, inFields, inField⟩
  · exact absurd same (by decide)
  · obtain ⟨other, inValues, rfl⟩ := List.mem_map.mp inFields
    rcases mem_replaceValue inValues with stored | rfl | rfl
    · obtain ⟨part, inParts, rfl⟩ := List.mem_map.mp stored
      rw [String.toList_ofList] at inField
      exact newline_not_mem_cellAt raw attributeNo (mem_of_mem_splitOn inParts inField)
    · cases inField
    · exact clean inField

/-- Only this value of this attribute has changed, and it reads as the text. -/
structure OnlyValue (before after : String) (attributeNo valueIndex : Int) (value : String) :
    Prop where
  values : ∀ other, valueAt after attributeNo other =
    if other = valueIndex then value else valueAt before attributeNo other
  attributes : ∀ other, other ≠ attributeNo → cellAt after other = cellAt before other

/-- The text of one value of a cell. -/
theorem valueAt_eq (raw : String) (attributeNo valueIndex : Int) :
    valueAt raw attributeNo valueIndex =
      if valueIndex ≤ 0 then ""
      else (RecordAttribute.splitValues { raw := cellAt raw attributeNo }).getD
        (valueIndex - 1).toNat "" :=
  rfl

/-- The value of an attribute that is not there is written as a text that is empty exactly when
the value is empty and the first one. -/
theorem replacedAttribute_eq_empty {raw value : String} {attributeNo valueIndex : Int}
    (absent : cellAt raw attributeNo = "") (positive : 0 < valueIndex)
    (unmarked : kValueMark ∉ value.toList) :
    replacedAttribute raw attributeNo valueIndex value = "" ↔ value = "" ∧ valueIndex = 1 := by
  have noValues : ((StructuredRecord.fromRaw raw).attributeAt attributeNo).splitValues = [""] := by
    have same : (StructuredRecord.fromRaw raw).attributeAt attributeNo = { raw := "" } := by
      rw [← absent]
      rfl
    rw [same]
    rfl
  constructor
  · intro empty
    have values := @splitValues_replacedAttribute raw value attributeNo valueIndex unmarked
    rw [empty, noValues] at values
    have values : [""] = FileSystem.replaceValue [""] valueIndex value := values
    have lengths := congrArg List.length values
    simp only [FileSystem.replaceValue, List.isEmpty_cons, Bool.false_eq_true, if_false,
      List.length_set, List.length_append, List.length_replicate, List.length_singleton] at lengths
    have first : valueIndex = 1 := by omega
    subst first
    have written := @getD_replaceValue [""] (List.cons_ne_nil _ _) 1 (by omega) value 0
    rw [← values] at written
    exact ⟨written.symm, rfl⟩
  · rintro ⟨rfl, rfl⟩
    rw [replacedAttribute, noValues]
    rfl

/-- One value is written and no other changes exactly when its cell is on a line of the record or on
the one after, or the cell stays empty. -/
theorem onlyValue_iff (raw value : String) {attributeNo valueIndex : Int}
    (positive : 0 < attributeNo) (positiveIndex : 0 < valueIndex) (clean : '\n' ∉ value.toList)
    (unmarked : kValueMark ∉ value.toList) :
    OnlyValue raw ((StructuredRecord.fromRaw raw).setAttribute attributeNo
      { raw := replacedAttribute raw attributeNo valueIndex value }).toRaw attributeNo valueIndex
      value ↔ attributeNo ≤ (cells raw).length + 1 ∨ value = "" ∧ valueIndex = 1 := by
  have cleanAttribute :=
    @newline_not_mem_replacedAttribute raw value attributeNo valueIndex clean
  have cellLaw := onlyCell_iff raw (replacedAttribute raw attributeNo valueIndex value) positive
    cleanAttribute
  have absent (beyond : ¬ attributeNo ≤ (cells raw).length + 1) : cellAt raw attributeNo = "" := by
    rw [cellAt_eq, if_neg (by omega), List.getD_eq_default _ _ (by omega)]
  constructor
  · intro only
    by_contra neither
    obtain ⟨beyond, some⟩ := not_or.mp neither
    have moved := only.attributes ((cells raw).length + 1) (by omega)
    rw [cellAt_setAttribute raw _ positive cleanAttribute (by omega), cellAt_eq,
      if_neg (by omega), putField, if_neg (by omega)] at moved
    have index : ((cells raw).length + 1 - 1 : Int).toNat = (cells raw).length := by omega
    rw [index] at moved
    refine some ((replacedAttribute_eq_empty (absent beyond) positiveIndex unmarked).mp ?_)
    simpa using moved
  · intro reachable
    have only := cellLaw.mpr (by
      by_cases within : attributeNo ≤ (cells raw).length + 1
      · exact .inl within
      · exact .inr ((replacedAttribute_eq_empty (absent within) positiveIndex unmarked).mpr
          (reachable.resolve_left within)))
    constructor
    · intro other
      rw [valueAt_eq, only attributeNo, if_pos rfl,
        splitValues_replacedAttribute attributeNo valueIndex unmarked, valueAt_eq]
      by_cases nowhere : other ≤ 0
      · rw [if_pos nowhere, if_neg (by omega), if_pos nowhere]
      · rw [if_neg nowhere, getD_replaceValue (splitValues_ne_nil _) positiveIndex, if_neg nowhere]
        by_cases same : other = valueIndex
        · rw [if_pos same, if_pos (by rw [same])]
        · rw [if_neg same, if_neg (by omega)]
          rfl
    · intro other different
      rw [only other, if_neg different]

/-! ## Reading and writing records -/

section Stored

variable {fileSystem : FileSystem} {world after : World} {fileName recordName text : String}

/-- The session can write the record, on a host that does not fail. -/
structure Writable (fileSystem : FileSystem) (world : World) (fileName recordName : String) :
    Prop where
  faithful : world.faults = []
  validFile : isValidName fileName = true
  validRecord : isValidRecordName recordName = true
  directory : ((world.disk fileSystem.root).records fileName).isSome = true
  accessible : Accessible fileSystem world fileName recordName

/-- The session reads the record as this text. -/
structure Stored (fileSystem : FileSystem) (world : World) (fileName recordName text : String) :
    Prop extends Writable fileSystem world fileName recordName where
  content : (world.disk fileSystem.root).content fileName
    (recordFile (world.disk fileSystem.root) fileName recordName) = some text

/-- A record that passes the check is accessible. -/
theorem accessible_of_exec
    (passed : exec (fileSystem.assertRecordAccessible fileName recordName) world = (.ok (), after)) :
    Accessible fileSystem world fileName recordName := by
  intro enabled entry found
  by_contra foreign
  unfold FileSystem.assertRecordAccessible at passed
  rw [enabled] at passed
  simp only [Bool.not_true, Bool.false_eq_true, if_false] at passed
  rw [exec_bind, exec_lockCall, found] at passed
  simp only [if_neg foreign] at passed
  cases passed

/-- A file has records when it is a directory. -/
theorem records_isSome {directory : Directory} (fileName : String) :
    (directory.records fileName).isSome = true ↔
      ∃ records, directory.lookup fileName = some (.directory records) := by
  unfold Directory.records
  cases directory.lookup fileName with
  | none => simp
  | some storage => cases storage <;> simp

/-- The file of a record that can be written opens. -/
theorem exec_openFile_of_writable (writable : Writable fileSystem world fileName recordName) :
    exec (fileSystem.openFile fileName) world = (.ok (fileSystem.handle fileName), world) := by
  obtain ⟨records, known⟩ := (records_isSome fileName).mp writable.directory
  rw [exec_openFile writable.faithful, writable.validFile, known]
  rfl

/-- A record that has a text has it in the file that it is looked for in. -/
theorem find_extension_of_content {directory : Directory}
    (content : directory.content fileName (recordFile directory fileName recordName) = some text) :
    ((candidateExtensions fileName).find? fun extension =>
      (directory.content fileName (recordName, extension)).isSome) =
        some (recordFile directory fileName recordName).2 := by
  cases found : (candidateExtensions fileName).find? fun extension =>
      (directory.content fileName (recordName, extension)).isSome with
  | none =>
      have preferred : recordFile directory fileName recordName =
          (recordName, preferredExtensionForFile fileName) := by
        rw [recordFile, found]
        rfl
      rw [preferred] at content
      have missing := List.find?_eq_none.mp found (preferredExtensionForFile fileName)
        List.mem_cons_self
      rw [content] at missing
      exact absurd rfl missing
  | some extension =>
      rw [recordFile, found]
      rfl

/-- A stored record reads as it is stored. -/
theorem exec_read (stored : Stored fileSystem world fileName recordName text) :
    exec (fileSystem.read fileName recordName) world =
      (.ok (some (.ofText recordName text)), world) := by
  have valid : (!isValidRecordName recordName) = false := by rw [stored.validRecord]; rfl
  have content := stored.content
  rw [FileSystem.read, exec_bind, exec_openFile_of_writable stored.toWritable]
  simp only [FileSystem.readRecord, valid, Bool.false_eq_true, if_false, exec_bind,
    FileSystem.handle, exec_assertRecordAccessible stored.accessible,
    exec_firstExisting stored.faithful, find_extension_of_content content]
  have name : (recordName, (recordFile (world.disk fileSystem.root) fileName recordName).2) =
      recordFile (world.disk fileSystem.root) fileName recordName := rfl
  rw [exec_inspect stored.faithful, name, content]
  rfl

/-- A file that has been opened is a directory with a valid name. -/
theorem openFile_eq_ok {handle : FileHandle} (faithful : world.faults = [])
    (done : exec (fileSystem.openFile fileName) world = (.ok handle, after)) :
    isValidName fileName = true ∧ ((world.disk fileSystem.root).records fileName).isSome = true ∧
      handle = fileSystem.handle fileName ∧ after = world := by
  rw [exec_openFile faithful] at done
  obtain ⟨opened, rfl⟩ := Prod.mk.inj done
  split at opened
  · cases opened
  · next valid =>
      split at opened
      · cases opened
      · cases opened
      · next records known =>
          cases opened
          exact ⟨by simpa using valid, (records_isSome fileName).mpr ⟨records, known⟩, rfl, rfl⟩

/-- The check of a lock leaves the world as it was. -/
theorem assertRecordAccessible_eq_ok
    (passed : exec (fileSystem.assertRecordAccessible fileName recordName) world = (.ok (), after)) :
    Accessible fileSystem world fileName recordName ∧ after = world := by
  have accessible := accessible_of_exec passed
  rw [exec_assertRecordAccessible accessible] at passed
  exact ⟨accessible, (Prod.mk.inj passed).2.symm⟩

/-- What is read is stored. -/
theorem stored_of_read {record : Record} (faithful : world.faults = [])
    (read : exec (fileSystem.read fileName recordName) world = (.ok (some record), after)) :
    Stored fileSystem world fileName recordName record.value := by
  obtain ⟨handle, middle, opened, done⟩ := exec_bind_eq_ok.mp read
  clear read
  obtain ⟨validFile, directory, rfl, rfl⟩ := openFile_eq_ok faithful opened
  unfold FileSystem.readRecord at done
  split at done
  · cases done
  · next valid =>
      obtain ⟨_, middle, passed, found⟩ := exec_bind_eq_ok.mp done
      clear done
      obtain ⟨accessible, rfl⟩ := assertRecordAccessible_eq_ok passed
      rw [exec_bind, exec_firstExisting faithful] at found
      dsimp only [FileSystem.handle] at found
      cases first : (candidateExtensions fileName).find? fun extension =>
          ((middle.disk fileSystem.root).content fileName (recordName, extension)).isSome with
      | none =>
          rw [first] at found
          cases found
      | some extension =>
          have file : recordFile (middle.disk fileSystem.root) fileName recordName =
              (recordName, extension) := by
            rw [recordFile, first]
            rfl
          rw [first] at found
          dsimp only at found
          rw [exec_bind, exec_inspect faithful] at found
          dsimp only [Option.join] at found
          cases content : (middle.disk fileSystem.root).content fileName (recordName, extension) with
          | none =>
              rw [content] at found
              cases found
          | some text =>
              rw [content] at found
              cases found
              rw [Record.value_ofText]
              exact
                { faithful, validFile, directory, accessible
                  validRecord := by simpa using valid
                  content := by rw [file, content] }

/-- A text that is put into the file of a record is found there. -/
theorem recordFile_putContent {directory : Directory} {records : Records}
    (known : directory.records fileName = some records) :
    recordFile (directory.putContent fileName (recordFile directory fileName recordName) text)
      fileName recordName = recordFile directory fileName recordName := by
  have contents (extension : Extension) :
      ((directory.putContent fileName (recordFile directory fileName recordName) text).content
        fileName (recordName, extension)).isSome =
        (decide (extension = (recordFile directory fileName recordName).2) ||
          (directory.content fileName (recordName, extension)).isSome) := by
    rw [content_putContent known]
    by_cases same : extension = (recordFile directory fileName recordName).2
    · subst same
      simp [recordFile]
    · have different : ¬ (fileName = fileName ∧
          (recordName, extension) = recordFile directory fileName recordName) :=
        fun both => same (congrArg Prod.snd both.2)
      rw [if_neg different, decide_eq_false same, Bool.false_or]
  obtain ⟨file, fileIs⟩ : ∃ file, recordFile directory fileName recordName = file := ⟨_, rfl⟩
  rw [fileIs] at contents ⊢
  rw [recordFile]
  simp only [contents]
  cases first : (candidateExtensions fileName).find? fun extension =>
      (directory.content fileName (recordName, extension)).isSome with
  | none =>
      rw [recordFile, first] at fileIs
      subst fileIs
      rw [candidateExtensions, List.find?_cons_of_pos (by simp)]
      rfl
  | some extension =>
      rw [recordFile, first] at fileIs
      subst fileIs
      have present := List.find?_some first
      have same : (fun other => decide (other = (some extension).getD
            (preferredExtensionForFile fileName)) ||
          (directory.content fileName (recordName, other)).isSome) =
          fun other => (directory.content fileName (recordName, other)).isSome := by
        funext other
        by_cases equal : other = extension
        · subst equal
          rw [present, Bool.or_true]
        · simp [equal]
      rw [same, first]

/-- A write to a record that can be written. -/
theorem exec_write (writable : Writable fileSystem world fileName recordName)
    (text : String) :
    exec (fileSystem.write fileName (.ofText recordName text)) world =
      (.ok (), { world with
        disk := Function.update world.disk fileSystem.root
          ((world.disk fileSystem.root).putContent fileName
            (recordFile (world.disk fileSystem.root) fileName recordName) text) }) := by
  have valid : (!isValidRecordName recordName) = false := by rw [writable.validRecord]; rfl
  have name : (Record.ofText recordName text).name = recordName := rfl
  rw [FileSystem.write, exec_bind, exec_openFile_of_writable writable]
  simp only [FileSystem.writeRecord, name, valid, Bool.false_eq_true, if_false, exec_bind,
    FileSystem.handle, exec_assertRecordAccessible writable.accessible,
    exec_resolveRecordPath writable.faithful, isDirectory, exec_inspect writable.faithful,
    writable.directory, exec_systemCall writable.faithful, Record.value_ofText,
    StructuredRecord.toRaw_fromRaw]
  rfl

/-- What is written is stored. -/
theorem stored_of_writable (writable : Writable fileSystem world fileName recordName)
    (text : String) :
    ∃ after, exec (fileSystem.write fileName (.ofText recordName text)) world = (.ok (), after) ∧
      Stored fileSystem after fileName recordName text := by
  obtain ⟨records, known⟩ := Option.isSome_iff_exists.mp writable.directory
  refine ⟨_, exec_write writable text, ?_⟩
  constructor
  · exact
      { faithful := writable.faithful
        validFile := writable.validFile
        validRecord := writable.validRecord
        directory := by
          dsimp only
          rw [Function.update_self, Directory.putContent, known]
          simp [Directory.records]
        accessible := writable.accessible }
  · dsimp only
    rw [Function.update_self, recordFile_putContent known, content_putContent known,
      if_pos ⟨rfl, rfl⟩]

/-- A record that has been written could be written. -/
theorem writable_of_write {record : Record} (faithful : world.faults = [])
    (done : exec (fileSystem.write fileName record) world = (.ok (), after)) :
    Writable fileSystem world fileName record.name := by
  obtain ⟨handle, middle, opened, wrote⟩ := exec_bind_eq_ok.mp done
  clear done
  obtain ⟨validFile, directory, rfl, rfl⟩ := openFile_eq_ok faithful opened
  unfold FileSystem.writeRecord at wrote
  split at wrote
  · cases wrote
  · next valid =>
      obtain ⟨_, later, passed, -⟩ := exec_bind_eq_ok.mp wrote
      have accessible := accessible_of_exec passed
      exact { faithful, validFile, directory, accessible, validRecord := by simpa using valid }

/-- An attribute of a stored record is the first value of its cell. -/
theorem exec_readAttributeValue (stored : Stored fileSystem world fileName recordName text)
    (attributeNo : Int) :
    exec (fileSystem.readAttributeValue fileName recordName attributeNo) world =
      (.ok (some (cellAt text attributeNo)), world) := by
  rw [FileSystem.readAttributeValue, exec_bind, exec_read stored]
  simp only [Option.map_some, Record.value_ofText]
  rfl

/-- A value of a stored record is the value of its cell. -/
theorem exec_readSubvalue (stored : Stored fileSystem world fileName recordName text)
    (attributeNo valueIndex : Int) :
    exec (fileSystem.readSubvalue fileName recordName attributeNo valueIndex) world =
      (.ok (some (valueAt text attributeNo valueIndex)), world) := by
  rw [FileSystem.readSubvalue, exec_bind, exec_read stored]
  simp only [Option.map_some, Record.value_ofText]
  rfl

/-- The write of an attribute stores the changed record. -/
theorem exec_writeAttributeValue (stored : Stored fileSystem world fileName recordName text)
    (attributeNo : Int) (value : String) :
    ∃ after, exec (fileSystem.writeAttributeValue fileName recordName attributeNo value) world =
        (.ok (), after) ∧
      Stored fileSystem after fileName recordName
        ((StructuredRecord.fromRaw text).setAttribute attributeNo { raw := value }).toRaw := by
  rw [FileSystem.writeAttributeValue, exec_bind, exec_read stored]
  simp only [FileSystem.structuredOf, Record.value_ofText]
  exact stored_of_writable stored.toWritable _

/-- So does the write of a value. -/
theorem exec_writeSubvalue (stored : Stored fileSystem world fileName recordName text)
    (attributeNo : Int) {valueIndex : Int} (positive : 0 < valueIndex) (value : String) :
    ∃ after, exec (fileSystem.writeSubvalue fileName recordName attributeNo valueIndex value)
        world = (.ok (), after) ∧
      Stored fileSystem after fileName recordName
        ((StructuredRecord.fromRaw text).setAttribute attributeNo
          { raw := replacedAttribute text attributeNo valueIndex value }).toRaw := by
  rw [FileSystem.writeSubvalue, if_neg (by omega), exec_bind, exec_read stored]
  simp only [FileSystem.structuredOf, Record.value_ofText]
  exact stored_of_writable stored.toWritable _

end Stored

/-! ## The law of cells -/

/-- After the write, its attribute reads as the value and every other one as before. -/
def WritesAttribute (fileSystem : FileSystem) (world : World) (fileName recordName : String)
    (attributeNo : Int) (value : String) : Prop :=
  ∃ after, exec (fileSystem.writeAttributeValue fileName recordName attributeNo value) world =
      (.ok (), after) ∧
    ∀ other, ∃ before,
      (exec (fileSystem.readAttributeValue fileName recordName other) world).1 =
        .ok (some before) ∧
      (exec (fileSystem.readAttributeValue fileName recordName other) after).1 =
        .ok (some (if other = attributeNo then value else before))

/-- After the write, its value reads as written, and the other values of its attribute and the
other attributes as before. -/
def WritesSubvalue (fileSystem : FileSystem) (world : World) (fileName recordName : String)
    (attributeNo valueIndex : Int) (value : String) : Prop :=
  ∃ after, exec (fileSystem.writeSubvalue fileName recordName attributeNo valueIndex value) world =
      (.ok (), after) ∧
    (∀ other, ∃ before,
      (exec (fileSystem.readSubvalue fileName recordName attributeNo other) world).1 =
        .ok (some before) ∧
      (exec (fileSystem.readSubvalue fileName recordName attributeNo other) after).1 =
        .ok (some (if other = valueIndex then value else before))) ∧
    ∀ other, other ≠ attributeNo → ∃ before,
      (exec (fileSystem.readAttributeValue fileName recordName other) world).1 =
        .ok (some before) ∧
      (exec (fileSystem.readAttributeValue fileName recordName other) after).1 =
        .ok (some before)

/-- The number of attributes of a record. -/
def attributeCount (record : Record) : Nat := (StructuredRecord.fromRaw record.value).attributes.length

/-- A record has as many attributes as lines. -/
theorem attributeCount_eq (record : Record) : attributeCount record = (cells record.value).length := by
  rw [attributeCount, fromRaw_attributes, length_numberFrom]

section Law

variable {fileSystem : FileSystem} {world : World} {fileName recordName text value : String}
  {attributeNo valueIndex : Int}

/-- An attribute is written as it should when only its cell changes. -/
theorem writesAttribute_iff (stored : Stored fileSystem world fileName recordName text) :
    WritesAttribute fileSystem world fileName recordName attributeNo value ↔
      OnlyCell text ((StructuredRecord.fromRaw text).setAttribute attributeNo { raw := value }).toRaw
        attributeNo value := by
  obtain ⟨after, wrote, storedAfter⟩ := exec_writeAttributeValue stored attributeNo value
  constructor
  · rintro ⟨written, wroteSame, reads⟩ other
    rw [wrote] at wroteSame
    obtain rfl := (Prod.mk.inj wroteSame).2
    obtain ⟨before, readBefore, readAfter⟩ := reads other
    rw [exec_readAttributeValue stored] at readBefore
    rw [exec_readAttributeValue storedAfter] at readAfter
    cases readBefore
    simpa using readAfter
  · intro only
    refine ⟨after, wrote, fun other =>
      ⟨_, congrArg Prod.fst (exec_readAttributeValue stored other), ?_⟩⟩
    rw [exec_readAttributeValue storedAfter, only other]

/-- A value is written as it should when only that value changes. -/
theorem writesSubvalue_iff (stored : Stored fileSystem world fileName recordName text)
    (positive : 0 < valueIndex) :
    WritesSubvalue fileSystem world fileName recordName attributeNo valueIndex value ↔
      OnlyValue text ((StructuredRecord.fromRaw text).setAttribute attributeNo
        { raw := replacedAttribute text attributeNo valueIndex value }).toRaw attributeNo valueIndex
        value := by
  obtain ⟨after, wrote, storedAfter⟩ := exec_writeSubvalue stored attributeNo positive value
  constructor
  · rintro ⟨written, wroteSame, readValues, readOthers⟩
    rw [wrote] at wroteSame
    obtain rfl := (Prod.mk.inj wroteSame).2
    constructor
    · intro other
      obtain ⟨before, readBefore, readAfter⟩ := readValues other
      rw [exec_readSubvalue stored] at readBefore
      rw [exec_readSubvalue storedAfter] at readAfter
      cases readBefore
      simpa using readAfter
    · intro other different
      obtain ⟨before, readBefore, readAfter⟩ := readOthers other different
      rw [exec_readAttributeValue stored] at readBefore
      rw [exec_readAttributeValue storedAfter] at readAfter
      cases readBefore
      simpa using readAfter
  · intro only
    refine ⟨after, wrote,
      fun other => ⟨_, congrArg Prod.fst (exec_readSubvalue stored attributeNo other), ?_⟩,
      fun other different => ⟨_, congrArg Prod.fst (exec_readAttributeValue stored other), ?_⟩⟩
    · rw [exec_readSubvalue storedAfter, only.values other]
    · rw [exec_readAttributeValue storedAfter, only.attributes other different]

end Law

/-- A write keeps to its cell exactly when the cell is at most one attribute beyond the last
one, or the text that is written is empty. -/
theorem writes_cell_iff {fileSystem : FileSystem} {world : World} {fileName recordName : String}
    {record : Record} (faithful : world.faults = [])
    (stored : (exec (fileSystem.read fileName recordName) world).1 = .ok (some record))
    {attributeNo : Int} (positive : 0 < attributeNo) {value : String}
    (clean : '\n' ∉ value.toList) :
    (WritesAttribute fileSystem world fileName recordName attributeNo value ↔
      attributeNo ≤ attributeCount record + 1 ∨ value = "") ∧
    ∀ valueIndex, 0 < valueIndex → kValueMark ∉ value.toList →
      (WritesSubvalue fileSystem world fileName recordName attributeNo valueIndex value ↔
        attributeNo ≤ attributeCount record + 1 ∨ value = "" ∧ valueIndex = 1) := by
  have stored := stored_of_read faithful (Prod.ext stored rfl)
  rw [attributeCount_eq]
  constructor
  · rw [writesAttribute_iff stored]
    exact onlyCell_iff record.value value positive clean
  · intro valueIndex positiveIndex unmarked
    rw [writesSubvalue_iff stored positiveIndex]
    exact onlyValue_iff record.value value positive positiveIndex clean unmarked

/-- A file `F` with the record `R`, which has one attribute. -/
def oneAttributeWorld : World where
  disk := fun _ => AList.insert "F" (.directory (AList.insert ("R", .item) "A" ∅)) ∅

/-- A session without locks. -/
def plainFiles : FileSystem where
  root := "ACCOUNT"

/-- The second attribute of a record with one can be written, and a value of it. -/
theorem writes_cell_next :
    WritesAttribute plainFiles oneAttributeWorld "F" "R" 2 "B" ∧
      WritesSubvalue plainFiles oneAttributeWorld "F" "R" 2 3 "B" := by
  have laws := @writes_cell_iff plainFiles oneAttributeWorld "F" "R" { name := "R", value := "A" }
    rfl rfl 2 (by decide) "B" (by decide)
  exact ⟨laws.1.mpr (.inl (by decide)), (laws.2 3 (by decide) (by decide)).mpr (.inl (by decide))⟩

/-- The third attribute of a record with one attribute is written as the second. -/
theorem third_attribute_moves :
    ¬ WritesAttribute plainFiles oneAttributeWorld "F" "R" 3 "B" := by
  have stored : Stored plainFiles oneAttributeWorld "F" "R" "A" :=
    @stored_of_read plainFiles oneAttributeWorld _ "F" "R" { name := "R", value := "A" } rfl
      (Prod.ext rfl rfl)
  rw [writesAttribute_iff stored, onlyCell_iff "A" "B" (by decide) (by decide)]
  decide

end Gemini.PickFS
