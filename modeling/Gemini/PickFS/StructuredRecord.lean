import Mathlib.Data.List.Basic

/-!
# Records and their attributes

`RecordAttribute`, `StructuredRecord` and `Record`. A `std::string` is a `String` whose
characters stand for bytes, so the value mark is the character 0xFD.

A record's text is its attributes in lines. The numbered attributes stand in ascending
order, as the `std::map` of the source keeps them.
-/

namespace Gemini.PickFS

/-! ## Attributes -/

/-- The value mark. -/
def kValueMark : Char := Char.ofNat 0xFD

/-- Values joined by value marks. -/
def joinValues (values : List String) : String :=
  String.ofList ([kValueMark].intercalate (values.map String.toList))

/-- An attribute: its text with the value marks in it. -/
structure RecordAttribute where
  raw : String := ""
deriving DecidableEq

namespace RecordAttribute

/-- The values of an attribute. -/
def splitValues (attr : RecordAttribute) : List String :=
  (attr.raw.toList.splitOn kValueMark).map String.ofList

/-- One value, numbered from one; empty where there is none. -/
def valueAt (attr : RecordAttribute) (valueNo : Int) : String :=
  if valueNo ≤ 0 then "" else attr.splitValues.getD (valueNo - 1).toNat ""

/-- The first value. -/
def firstValue (attr : RecordAttribute) : String := attr.valueAt 1

/-- Whether an attribute has a value of this number. -/
def hasValueAt (attr : RecordAttribute) (valueNo : Int) : Bool :=
  0 < valueNo && (valueNo - 1).toNat < attr.splitValues.length

end RecordAttribute

/-! ## The numbered attributes of a record -/

/-- Numbered attributes in the order a `std::map` keeps them. -/
abbrev Numbered := List (Int × RecordAttribute)

/-- The attributes stand in the order of their numbers. -/
def Ascending (attributes : Numbered) : Prop :=
  attributes.Pairwise fun first second => first.1 < second.1

/-- `attributes_[attributeNo] = attr`. -/
def assign (attributeNo : Int) (attr : RecordAttribute) : Numbered → Numbered
  | [] => [(attributeNo, attr)]
  | entry :: rest =>
      if attributeNo < entry.1 then (attributeNo, attr) :: entry :: rest
      else if attributeNo = entry.1 then (attributeNo, attr) :: rest
      else entry :: assign attributeNo attr rest

/-- The lines of a text, numbered from a given attribute on. -/
def numberFrom (attributeNo : Int) : List String → Numbered
  | [] => []
  | line :: rest => (attributeNo, { raw := line }) :: numberFrom (attributeNo + 1) rest

/-- What is assigned, or was there before. -/
theorem mem_assign {attributeNo : Int} {attr : RecordAttribute} {attributes : Numbered}
    {entry : Int × RecordAttribute} (present : entry ∈ assign attributeNo attr attributes) :
    entry = (attributeNo, attr) ∨ entry ∈ attributes := by
  induction attributes with
  | nil => simpa [assign] using present
  | cons first rest inductionHypothesis =>
      unfold assign at present
      split at present
      · simpa using present
      · split at present
        · rcases List.mem_cons.mp present with same | later
          · exact .inl same
          · exact .inr (List.mem_cons_of_mem _ later)
        · rcases List.mem_cons.mp present with same | later
          · exact .inr (same ▸ List.mem_cons_self)
          · exact (inductionHypothesis later).imp_right (List.mem_cons_of_mem _)

/-- An assignment keeps the order. -/
theorem Ascending.assign {attributes : Numbered} (ascending : Ascending attributes)
    (attributeNo : Int) (attr : RecordAttribute) :
    Ascending (assign attributeNo attr attributes) := by
  induction attributes with
  | nil => exact List.pairwise_singleton _ _
  | cons first rest inductionHypothesis =>
      obtain ⟨below, tail⟩ := List.pairwise_cons.mp ascending
      unfold PickFS.assign
      split
      · rename_i before
        refine List.pairwise_cons.mpr ⟨fun entry later => ?_, ascending⟩
        rcases List.mem_cons.mp later with rfl | later
        · exact before
        · exact Int.lt_trans before (below entry later)
      · split
        · rename_i same
          exact List.pairwise_cons.mpr ⟨fun entry later => same ▸ below entry later, tail⟩
        · refine List.pairwise_cons.mpr ⟨fun entry later => ?_, inductionHypothesis tail⟩
          rcases mem_assign later with rfl | later
          · change first.1 < attributeNo
            omega
          · exact below entry later

/-- No line gets a number below the first. -/
theorem le_of_mem_numberFrom {attributeNo : Int} {lines : List String}
    {entry : Int × RecordAttribute} (present : entry ∈ numberFrom attributeNo lines) :
    attributeNo ≤ entry.1 := by
  induction lines generalizing attributeNo with
  | nil => cases present
  | cons line rest inductionHypothesis =>
      rcases List.mem_cons.mp present with rfl | later
      · exact Int.le_refl _
      · have := inductionHypothesis later
        omega

/-- Lines are numbered upwards. -/
theorem ascending_numberFrom (attributeNo : Int) (lines : List String) :
    Ascending (numberFrom attributeNo lines) := by
  induction lines generalizing attributeNo with
  | nil => exact .nil
  | cons line rest inductionHypothesis =>
      refine List.pairwise_cons.mpr ⟨fun entry later => ?_, inductionHypothesis _⟩
      exact Int.lt_iff_add_one_le.mpr (le_of_mem_numberFrom later)

/-- A record as its attributes, in ascending order of their numbers. -/
structure StructuredRecord where
  attributes : Numbered := []
  ascending : Ascending attributes := by exact .nil

namespace StructuredRecord

/-- An attribute by its number; empty where there is none. -/
def attributeAt (record : StructuredRecord) (attributeNo : Int) : RecordAttribute :=
  if attributeNo ≤ 0 then {}
  else ((record.attributes.find? fun entry => entry.1 = attributeNo).map Prod.snd).getD {}

/-- Whether a record has an attribute of this number. -/
def hasAttribute (record : StructuredRecord) (attributeNo : Int) : Bool :=
  0 < attributeNo && record.attributes.any fun entry => entry.1 = attributeNo

/-- An attribute put in its place. A number that is not positive is none. -/
def setAttribute (record : StructuredRecord) (attributeNo : Int) (attr : RecordAttribute) :
    StructuredRecord :=
  if attributeNo ≤ 0 then record
  else ⟨assign attributeNo attr record.attributes, record.ascending.assign _ _⟩

/-- `toRaw`: one line for each attribute. -/
def toRaw (record : StructuredRecord) : String :=
  String.ofList (['\n'].intercalate (record.attributes.map fun entry => entry.2.raw.toList))

/-- The lines `std::getline` gives: what follows the last newline is one if it is not empty. -/
def getlines (raw : List Char) : List (List Char) :=
  let fields := raw.splitOn '\n'
  if fields.getLast? = some [] then fields.dropLast else fields

/-- Lines that each end with a newline are taken apart again. -/
theorem getlines_flatMap {Line : Type} (written : Line → List Char) (lines : List Line)
    (clean : ∀ line ∈ lines, '\n' ∉ written line) :
    getlines (lines.flatMap fun line => written line ++ ['\n']) = lines.map written := by
  have text : lines.flatMap (fun line => written line ++ ['\n']) =
      ['\n'].intercalate (lines.map written ++ [[]]) := by
    clear clean
    induction lines with
    | nil => rfl
    | cons line rest inductionHypothesis =>
        rw [List.flatMap_cons, inductionHypothesis, List.map_cons, List.cons_append,
          List.intercalate_cons_of_ne_nil (by simp)]
  have cleanAll : ∀ part ∈ lines.map written ++ [[]], '\n' ∉ part := by
    intro part member
    rcases List.mem_append.mp member with inLines | isLast
    · obtain ⟨line, inSource, rfl⟩ := List.mem_map.mp inLines
      exact clean line inSource
    · rw [List.mem_singleton.mp isLast]
      exact List.not_mem_nil
  rw [text, getlines, List.splitOn_intercalate '\n' cleanAll (by simp)]
  simp

/-- `fromRaw`: the lines of a text are its attributes, also the empty one at its end. -/
def fromRaw (raw : String) : StructuredRecord :=
  let lines := getlines raw.toList ++ if raw.toList.getLast? = some '\n' then [[]] else []
  ⟨numberFrom 1 (lines.map String.ofList), ascending_numberFrom _ _⟩

/-- The text after the last newline is empty when there is no text, or when it ends with a
newline. -/
theorem getLast_splitOn (raw : List Char) :
    (raw.splitOn '\n').getLast? = some [] ↔ raw = [] ∨ raw.getLast? = some '\n' := by
  induction raw with
  | nil => simp
  | cons letter rest inductionHypothesis =>
      cases fields : rest.splitOn '\n' with
      | nil => exact absurd fields (List.splitOn_ne_nil '\n' rest)
      | cons first others =>
          have split : (letter :: rest).splitOn '\n' =
              if letter = '\n' then [] :: first :: others else (letter :: first) :: others := by
            simp [List.splitOn_cons_eq_if_modifyHead, fields]
          have joined : ['\n'].intercalate (first :: others) = rest := by
            rw [← fields, List.intercalate_splitOn]
          rw [fields] at inductionHypothesis
          rw [split]
          cases rest with
          | nil =>
              rw [List.splitOn_nil] at fields
              obtain ⟨rfl, rfl⟩ := List.cons.inj fields
              by_cases newline : letter = '\n' <;> simp [newline]
          | cons next more =>
              by_cases newline : letter = '\n'
              · simp_all
              · cases others with
                | nil => simp_all
                | cons => simp_all

theorem map_raw_numberFrom (attributeNo : Int) (lines : List (List Char)) :
    (numberFrom attributeNo (lines.map String.ofList)).map (fun entry => entry.2.raw.toList) =
      lines := by
  induction lines generalizing attributeNo with
  | nil => rfl
  | cons line rest inductionHypothesis =>
      simp only [List.map_cons, numberFrom, inductionHypothesis, String.toList_ofList]

/-- A text is the attributes it is taken apart into. -/
theorem toRaw_fromRaw (raw : String) : (fromRaw raw).toRaw = raw := by
  have lines : ['\n'].intercalate (getlines raw.toList ++
      if raw.toList.getLast? = some '\n' then [[]] else []) = raw.toList := by
    have last := getLast_splitOn raw.toList
    by_cases newline : raw.toList.getLast? = some '\n'
    · have ended := last.mpr (.inr newline)
      have fields : (raw.toList.splitOn '\n').dropLast ++ [[]] = raw.toList.splitOn '\n' :=
        List.dropLast_append_getLast? [] ended
      rw [getlines, if_pos ended, if_pos newline, fields, List.intercalate_splitOn]
    · by_cases empty : raw.toList = []
      · simp [getlines, empty]
      · have unended : ¬ (raw.toList.splitOn '\n').getLast? = some [] := by
          rw [last]
          exact not_or.mpr ⟨empty, newline⟩
        rw [getlines, if_neg unended, if_neg newline, List.append_nil, List.intercalate_splitOn]
  simp only [toRaw, fromRaw, map_raw_numberFrom, lines, String.ofList_toList]

end StructuredRecord

/-- A record of a file: its id and its text. -/
structure Record where
  name : String
  value : String
deriving DecidableEq

/-- The record of a name and a text. -/
def Record.ofText (name value : String) : Record where
  name := name
  value := (StructuredRecord.fromRaw value).toRaw

@[simp] theorem Record.value_ofText (name value : String) : (ofText name value).value = value :=
  StructuredRecord.toRaw_fromRaw value

end Gemini.PickFS
