import Gemini.PickFS.RecordCells
import Gemini.VM.CoreInstructions
import Gemini.VM.Numerals

/-!
# Arrays in records

`MAT WRITE` packs an array into a record, an element a line, and `MAT READ` unpacks a record
into an array that has as many elements as the record has attributes. A record of one empty
line is the empty text, which has no attribute: such an array does not come back.
-/

namespace Gemini.VM

open Gemini.Semantics Program
open Gemini.PickFS (FileSystem Record StructuredRecord Writable cells joinLines numberFrom)

variable {Double World : Type} [Doubles Double]

/-! ## The integers among the doubles -/

/-- What a `double` does with the values of an `int`: it holds each of them exactly, and
`strtod` reads the number that was printed. -/
structure HoldsInts (Double : Type) [Doubles Double] : Prop where
  strtod_toString : ∀ number, intMin ≤ number → number ≤ intMax →
    (Doubles.strtod (toString number).toList : Option (Strtod Double)) =
      some { number := Doubles.ofInt number, rest := [], rangeError := false }
  lt_ofInt : ∀ first second, intMin ≤ first → first ≤ intMax → intMin ≤ second →
    second ≤ intMax →
      Doubles.lt (Doubles.ofInt first : Double) (Doubles.ofInt second) = decide (first < second)
  toInt_ofInt : ∀ number, intMin ≤ number → number ≤ intMax →
    Doubles.toInt (Doubles.ofInt number : Double) = number

/-- A value that is read as an integer is that integer. -/
theorem coerceToInt_of_ofInt (holds : HoldsInts Double) {value : Value Double} {number : Int}
    (low : intMin ≤ number) (high : number ≤ intMax)
    (read : coerceToDouble value = Doubles.ofInt number) : coerceToInt value = number := by
  have notBelow := holds.lt_ofInt number intMin low high (by decide) (by decide)
  have notAbove := holds.lt_ofInt intMax number (by decide) (by decide) low high
  rw [decide_eq_false (by omega)] at notBelow notAbove
  rw [coerceToInt, read, notBelow, notAbove]
  simp [holds.toInt_ofInt number low high]

/-- An integer in range is itself. -/
theorem coerceToInt_int (holds : HoldsInts Double) {number : Int} (low : intMin ≤ number)
    (high : number ≤ intMax) : coerceToInt (.int number : Value Double) = number :=
  coerceToInt_of_ofInt holds low high rfl

/-- An integer in range comes back from its digits. -/
theorem coerceToInt_toString (holds : HoldsInts Double) {number : Int} (low : intMin ≤ number)
    (high : number ≤ intMax) :
    coerceToInt (.string (toString number) : Value Double) = number := by
  refine coerceToInt_of_ofInt holds low high ?_
  simp only [coerceToDouble]
  rw [if_neg (toString_int_ne_empty number), cString_toString_int,
    holds.strtod_toString number low high]
  rfl

/-! ## The text of an array -/

/-- The integers of a value are those of an `int`. -/
def Value.InRange : Value Double → Prop
  | .int number => intMin ≤ number ∧ number ≤ intMax
  | _ => True

/-- What an element is after the round: its text, or its number in an array of integers. -/
def unpackedElement (name : String) : Value Double → Value Double
  | .int number => if isIntArray name then .int number else .string (toString number)
  | element => matElement name (.string (valueToString element))

/-- An element that is written as text and stored again. -/
theorem matElement_text (holds : HoldsInts Double) (name : String) {element : Value Double}
    (inRange : element.InRange) :
    matElement name (.string (valueToString element)) = unpackedElement name element := by
  cases element with
  | int number =>
      rw [unpackedElement, matElement, valueToString, coerceToInt_toString holds inRange.1 inRange.2]
  | double number => rfl
  | string text => rfl

/-- The text that an array is packed into. -/
def packed (elements : List (Value Double)) : String := joinLines (elements.map valueToString)

/-- The record of an array: one attribute for each element. -/
theorem exec_recordOfArray {name : String} {environment : Environment Double World}
    {elements : List (Value Double)} (known : environment.arrays.lookup name = some elements) :
    exec (recordOfArray name) environment = (.ok (packed elements), environment) := by
  have lines := PickFS.map_raw_numberFrom 1 (elements.map (valueToString : Value Double → String))
  have text : (StructuredRecord.mk (numberFrom 1 (elements.map valueToString))
      (PickFS.ascending_numberFrom _ _)).toRaw = packed elements := by
    conv_rhs => rw [packed, joinLines, ← lines, List.map_map]
    rfl
  rw [recordOfArray, exec_bind, findArray, exec_bind, exec_get]
  simp only [known, exec_pure, text]

/-- An array is loaded from a record with as many attributes as it has elements. -/
theorem exec_loadArrayFromRecord {name text : String} {environment : Environment Double World}
    {elements : List (Value Double)} (known : environment.arrays.lookup name = some elements) :
    exec (loadArrayFromRecord name text) environment =
      if (cells text).length = elements.length then
        (.ok (), { environment with
          arrays := environment.arrays.insert name
            ((cells text).map fun line => matElement name (.string line)) })
      else
        (.error (.runtimeError "BUILTIN: MAT READ attribute count mismatch"), environment) := by
  have count : (StructuredRecord.fromRaw text).attributes.length = (cells text).length := by
    rw [PickFS.fromRaw_attributes, PickFS.length_numberFrom]
  have lines : ((StructuredRecord.fromRaw text).attributes.map fun entry =>
      (matElement name (.string entry.2.raw) : Value Double)) =
      (cells text).map fun line => matElement name (.string line) := by
    have raws := PickFS.map_raw_numberFrom 1 (cells text)
    rw [← PickFS.fromRaw_attributes] at raws
    conv_rhs => rw [← raws]
    rw [List.map_map]
    rfl
  rw [loadArrayFromRecord, exec_bind, findArray, exec_bind, exec_get]
  simp only [known, exec_pure, count, lines]
  by_cases same : (cells text).length = elements.length
  · rw [if_pos same, if_neg (not_not.mpr same)]
    rfl
  · rw [if_neg same, if_pos same]
    rfl

/-- The lines of a packed array are the texts of its elements, unless it is one empty text. -/
theorem cells_packed {elements : List (Value Double)} (some : elements ≠ [])
    (clean : ∀ element ∈ elements, '\n' ∉ (valueToString element).toList) :
    cells (packed elements) =
      if elements.map valueToString = [""] then [] else elements.map valueToString := by
  have notEmpty : elements.map valueToString ≠ [] := fun none => some (List.map_eq_nil_iff.mp none)
  have cleanLines : ∀ line ∈ elements.map valueToString, '\n' ∉ line.toList := by
    intro line member
    obtain ⟨element, inArray, rfl⟩ := List.mem_map.mp member
    exact clean element inArray
  have parts := PickFS.splitOn_joined notEmpty cleanLines
  have text : (packed elements).toList =
      ['\n'].intercalate ((elements.map valueToString).map String.toList) := String.toList_ofList
  rw [← text] at parts
  unfold cells
  by_cases empty : packed elements = ""
  · rw [empty] at parts
    have single : elements.map valueToString = [""] := parts.symm
    rw [if_pos empty, if_pos single]
  · have different : elements.map valueToString ≠ [""] := by
      intro single
      exact empty (by rw [packed, single]; rfl)
    rw [if_neg empty, if_neg different, parts]

/-! ## The round -/

/-- The array `source` is packed, the record is written and read, and the array `target` is
unpacked from it: each of its elements is that of the source. -/
def Returns (fileSystem : FileSystem) (files : PickFS.World) (fileName recordName : String)
    (source target : String) (ip : Nat) (memory : Memory Double World)
    (elements : List (Value Double)) : Prop :=
  ∃ text, exec (matStoreToRec { op := .matStoreToRec, operand := .string source } ip) memory =
      (.ok (), { memory with stack := .string text :: memory.stack }) ∧
    ∃ written record,
      exec (fileSystem.write fileName (.ofText recordName text)) files = (.ok (), written) ∧
      exec (fileSystem.read fileName recordName) written = (.ok (some record), written) ∧
      ∃ loaded,
        exec (matLoadFromRec { op := .matLoadFromRec, operand := .string target } ip)
          { memory with stack := .string record.value :: memory.stack } = (.ok (), loaded) ∧
        loaded.environment.arrays.lookup (canonicalVariableName target) =
          some (elements.map (unpackedElement (canonicalVariableName target)))

section Round

variable {source target : String} {ip : Nat} {memory : Memory Double World}
  {elements slots : List (Value Double)}

/-- `MAT_STORE_TO_REC` pushes the record of its array. -/
theorem exec_matStoreToRec
    (packs : memory.environment.arrays.lookup (canonicalVariableName source) = some elements) :
    exec (matStoreToRec { op := .matStoreToRec, operand := .string source } ip) memory =
      (.ok (), { memory with stack := .string (packed elements) :: memory.stack }) := by
  change exec (onEnvironment (recordOfArray (canonicalVariableName source)) >>= fun raw =>
    push (.string raw)) memory = _
  rw [exec_bind, onEnvironment, exec_zoom, exec_recordOfArray packs]
  rfl

/-- `MAT_LOAD_FROM_REC` loads the record into its array. -/
theorem exec_matLoadFromRec {text : String}
    (writable : isReadOnlySystemVariableName (canonicalVariableName target) = false)
    (unpacks : memory.environment.arrays.lookup (canonicalVariableName target) = some slots) :
    exec (matLoadFromRec { op := .matLoadFromRec, operand := .string target } ip)
        { memory with stack := .string text :: memory.stack } =
      if (cells text).length = slots.length then
        (.ok (), { memory with
          environment := { memory.environment with
            arrays := memory.environment.arrays.insert (canonicalVariableName target)
              ((cells text).map fun line =>
                matElement (canonicalVariableName target) (.string line)) } })
      else
        (.error (.runtimeError "BUILTIN: MAT READ attribute count mismatch"), memory) := by
  have allowed : (requireWritable (canonicalVariableName target) :
      EnvironmentM Double World Unit) = pure () := by
    rw [requireWritable, writable]
    rfl
  change exec (onEnvironment (requireWritable (canonicalVariableName target)) >>= fun _ =>
    (pop >>= fun value => pure (valueToString value)) >>= fun raw =>
      onEnvironment (loadArrayFromRecord (canonicalVariableName target) raw)) _ = _
  rw [allowed]
  change exec (onEnvironment (loadArrayFromRecord (canonicalVariableName target) text)) memory = _
  rw [onEnvironment, exec_zoom, exec_loadArrayFromRecord unpacks]
  split <;> rfl

/-- The arrays that are packed into no text at all. -/
theorem texts_eq_single_iff {elements : List (Value Double)} (dimensioned : 1 ≤ elements.length) :
    elements.map valueToString = [""] ↔
      ¬ (2 ≤ elements.length ∨ ∀ element ∈ elements, valueToString element ≠ "") := by
  match elements with
  | [] => cases dimensioned
  | [element] => simp
  | first :: second :: rest => simp

section Files

variable {fileSystem : FileSystem} {files : PickFS.World} {fileName recordName : String}
  (storable : Writable fileSystem files fileName recordName)
  (packs : memory.environment.arrays.lookup (canonicalVariableName source) = some elements)
  (unpacks : memory.environment.arrays.lookup (canonicalVariableName target) = some slots)
  (writable : isReadOnlySystemVariableName (canonicalVariableName target) = false)
  (sameSize : slots.length = elements.length)
include storable packs unpacks writable sameSize

/-- The array comes back when it is packed into the texts of its elements. -/
theorem returns_of_texts (holds : HoldsInts Double) (inRange : ∀ element ∈ elements, element.InRange)
    (lines : cells (packed elements) = elements.map valueToString) :
    Returns fileSystem files fileName recordName source target ip memory elements := by
  obtain ⟨written, wrote, stored⟩ := PickFS.stored_of_writable storable (packed elements)
  have load := @exec_matLoadFromRec Double World _ target ip memory slots (packed elements)
    writable unpacks
  rw [lines, sameSize, if_pos (List.length_map _)] at load
  refine ⟨_, exec_matStoreToRec packs, written, _, wrote, PickFS.exec_read stored, ?_⟩
  rw [PickFS.Record.value_ofText, load]
  refine ⟨_, rfl, ?_⟩
  rw [AList.lookup_insert, List.map_map]
  refine congrArg some (List.map_congr_left fun element member => ?_)
  exact matElement_text holds _ (inRange element member)

/-- The array does not come back when it is packed into no line at all. -/
theorem not_returns_of_none (dimensioned : 1 ≤ elements.length)
    (lines : cells (packed elements) = []) :
    ¬ Returns fileSystem files fileName recordName source target ip memory elements := by
  obtain ⟨written, wrote, stored⟩ := PickFS.stored_of_writable storable (packed elements)
  have load := @exec_matLoadFromRec Double World _ target ip memory slots (packed elements)
    writable unpacks
  have none : ¬ ([] : List String).length = elements.length := by
    rw [List.length_nil]
    omega
  rw [lines, sameSize, if_neg none] at load
  rintro ⟨text, stores, after, record, wroteSame, readSame, final, loadsSame, -⟩
  rw [exec_matStoreToRec packs] at stores
  obtain rfl : packed elements = text := by simpa using stores
  rw [wrote] at wroteSame
  obtain rfl := (Prod.mk.inj wroteSame).2
  rw [PickFS.exec_read stored] at readSame
  cases readSame
  rw [PickFS.Record.value_ofText, load] at loadsSame
  cases loadsSame

end Files

end Round

/-- An array comes back from its record exactly when it has more than one element or its
element has a text. -/
theorem mat_returns_iff (holds : HoldsInts Double) {fileSystem : FileSystem}
    {files : PickFS.World} {fileName recordName : String}
    (storable : Writable fileSystem files fileName recordName) {source target : String} {ip : Nat}
    {memory : Memory Double World} {elements slots : List (Value Double)}
    (packs : memory.environment.arrays.lookup (canonicalVariableName source) = some elements)
    (unpacks : memory.environment.arrays.lookup (canonicalVariableName target) = some slots)
    (writable : isReadOnlySystemVariableName (canonicalVariableName target) = false)
    (sameSize : slots.length = elements.length) (dimensioned : 1 ≤ elements.length)
    (inRange : ∀ element ∈ elements, element.InRange)
    (clean : ∀ element ∈ elements, '\n' ∉ (valueToString element).toList) :
    Returns fileSystem files fileName recordName source target ip memory elements ↔
      2 ≤ elements.length ∨ ∀ element ∈ elements, valueToString element ≠ "" := by
  have some : elements ≠ [] := by
    rintro rfl
    cases dimensioned
  have lines := cells_packed some clean
  have condition := texts_eq_single_iff dimensioned
  by_cases single : elements.map valueToString = [""]
  · rw [if_pos single] at lines
    exact iff_of_false
      (not_returns_of_none storable packs unpacks writable sameSize dimensioned lines)
      (condition.mp single)
  · rw [if_neg single] at lines
    exact iff_of_true
      (returns_of_texts storable packs unpacks writable sameSize holds inRange lines)
      (not_not.mp fun fails => single (condition.mpr fails))

/-- Whole numbers in place of doubles, read with their sign. -/
@[reducible]
def signedDoubles : Doubles Int where
  ofInt number := number
  add := (· + ·)
  sub := (· - ·)
  mul := (· * ·)
  div := Int.tdiv
  lt a b := a < b
  le a b := a ≤ b
  eq a b := a = b
  floor number := number
  toInt number := number
  strtod text := (scanInteger text).map fun (negative, magnitude, rest) =>
    { number := signed negative magnitude, rest, rangeError := false }
  print _ number := (toString number).toList

/-- These numbers hold every integer. -/
theorem signedDoubles_holdsInts : @HoldsInts Int signedDoubles :=
  @HoldsInts.mk Int signedDoubles
    (by
      intro number _ _
      have scanned := @scanInteger_toString number [] (by simp)
      rw [List.append_nil] at scanned
      change (scanInteger (toString number).toList).map _ = _
      rw [scanned]
      change some ({ number := signed (decide (number < 0)) number.natAbs, .. } : Strtod Int) = _
      rw [signed_natAbs]
      rfl)
    (fun _ _ _ _ _ _ => rfl) (fun _ _ _ => rfl)

/-- A run that has dimensioned the array `name`. -/
def withArray (name : String) (elements : List (Value Int)) : Memory Int Unit where
  environment :=
    { arrays := AList.insert name elements ∅
      input := []
      world := () }

/-- The record can be written. -/
theorem storable_in_file : Writable PickFS.plainFiles PickFS.oneAttributeWorld "F" "R" :=
  (@PickFS.stored_of_read PickFS.plainFiles PickFS.oneAttributeWorld _ "F" "R"
    { name := "R", value := "A" } rfl (Prod.ext rfl rfl)).toWritable

/-- A name in upper case is canonical. -/
theorem canonicalVariableName_eq_self {name : String}
    (upper : name.toList.map Char.toUpper = name.toList) : canonicalVariableName name = name := by
  rw [← String.toList_inj, canonicalVariableName, String.toList_map, upper]

/-- Two integers come back from the record. -/
theorem int_array_returns :
    @Returns Int Unit signedDoubles PickFS.plainFiles PickFS.oneAttributeWorld "F" "R" "A%" "A%" 0
      (withArray "A%" [.int (-5), .int 7]) [.int (-5), .int 7] := by
  have name : canonicalVariableName "A%" = "A%" := canonicalVariableName_eq_self (by decide)
  have known : (withArray "A%" [.int (-5), .int 7]).environment.arrays.lookup
      (canonicalVariableName "A%") = some [.int (-5), .int 7] := by
    rw [name]
    rfl
  have inRange : ∀ element ∈ ([.int (-5), .int 7] : List (Value Int)), element.InRange := by
    simp [Value.InRange, intMin, intMax]
  have writable : isReadOnlySystemVariableName (canonicalVariableName "A%") = false := by
    rw [name]
    decide
  exact (@mat_returns_iff Int Unit signedDoubles signedDoubles_holdsInts _ _ _ _ storable_in_file
    "A%" "A%" 0 _ _ _ known known writable rfl (by decide) inRange (by decide)).mpr
      (.inl (by decide))

/-- A fresh array of one element does not come back. -/
theorem empty_element_is_lost :
    ¬ @Returns Int Unit signedDoubles PickFS.plainFiles PickFS.oneAttributeWorld "F" "R" "A" "A" 0
      (withArray "A" [.string ""]) [.string ""] := by
  have name : canonicalVariableName "A" = "A" := canonicalVariableName_eq_self (by decide)
  have known : (withArray "A" [.string ""]).environment.arrays.lookup
      (canonicalVariableName "A") = some [.string ""] := by
    rw [name]
    rfl
  have writable : isReadOnlySystemVariableName (canonicalVariableName "A") = false := by
    rw [name]
    decide
  exact @not_returns_of_none Int Unit signedDoubles "A" "A" 0 _ _ _ _ _ _ _ storable_in_file known
    known writable rfl (by decide) rfl

end Gemini.VM
