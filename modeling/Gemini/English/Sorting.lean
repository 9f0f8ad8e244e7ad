import Gemini.English.Numbers
import Gemini.PickFS.StructuredRecord
import Mathlib.Order.Compare
import Mathlib.Data.String.Basic
import Mathlib.Data.List.Sort

/-!
# The order of SORT

`produceRows` compares two rows by one part of a key after the other and then by their ids. Two
numbers are compared by value and anything else by its text, where a number has none. An empty text
is therefore equal to every number, and three rows can go around in a circle.
-/

namespace Gemini.English

open Gemini.PickFS (StructuredRecord)

/-- `ConversionCode`. -/
inductive ConversionCode where
  | none
  | d
  | md
  | mc
deriving DecidableEq

/-- A part of a sort key; the `str` of a number is empty. -/
inductive KeyPart (Number : Type) where
  | text (str : String)
  | number (num : Number)

/-- The text of a part; a number has none. -/
def KeyPart.str {Number : Type} : KeyPart Number → String
  | .text str => str
  | .number _ => ""

/-- A sort key with the field that it resolves to: `cell` is `evaluateFieldCell`. -/
structure SortRef where
  conversion : ConversionCode
  descending : Bool
  cell : StructuredRecord → String

/-- An id and what is read of it. -/
structure Listed where
  id : String
  record : Option StructuredRecord

section Comparison

variable {Number : Type} [Stod Number]

/-- `makeSortPart`: a number for a column with a conversion, where there is one. -/
def makeSortPart (rawFirstValue : String) (conv : ConversionCode) : KeyPart Number :=
  if conv = .none then .text rawFirstValue
  else
    match tryParseNumeric rawFirstValue with
    | some n => .number n
    | none => .text rawFirstValue

/-- The parts of a record, a part for each key. -/
def materializeSortKeys (record : StructuredRecord) (refs : List SortRef) :
    List (KeyPart Number) :=
  refs.map fun ref => makeSortPart (ref.cell record) ref.conversion

/-- The key of a row when there are no keys. -/
def itemIdKey (id : String) : List (KeyPart Number) := [.text id]

/-- The key of a row. -/
def rowKeys (sortRefs : List SortRef) (row : Listed) : List (KeyPart Number) :=
  if sortRefs = [] then itemIdKey row.id
  else
    match row.record with
    | some record => materializeSortKeys record sortRefs
    | none => List.replicate sortRefs.length (.text "")

variable [LinearOrder Number]

/-- Two numbers are compared as such, and all else as texts. -/
def comparePartsAsc (a b : KeyPart Number) : Ordering :=
  match a, b with
  | .number num, .number other => cmp num other
  | _, _ => cmp a.str b.str

/-- The comparison of a column, in its direction. -/
def comparePartsWithDesc (a b : KeyPart Number) (desc : Bool) : Ordering :=
  if desc then (comparePartsAsc a b).swap else comparePartsAsc a b

/-- The loop of `cmpRows` over the parts of two keys. -/
def cmpKeys : List Bool → List (KeyPart Number) → List (KeyPart Number) → Ordering
  | sortDesc, a :: ka, b :: kb =>
      match comparePartsWithDesc a b (sortDesc.headD false) with
      | .eq => cmpKeys sortDesc.tail ka kb
      | decided => decided
  | _, _, _ => .eq

variable (Number)

/-- The comparison that rows are sorted with; ids decide between equal keys. -/
def cmpRows (sortRefs : List SortRef) (a b : Listed) : Bool :=
  match cmpKeys (sortRefs.map SortRef.descending)
      (rowKeys sortRefs a : List (KeyPart Number)) (rowKeys sortRefs b) with
  | .lt => true
  | .gt => false
  | .eq => a.id < b.id

/-- `std::stable_sort` with `cmpRows`. -/
def stableSort (sortRefs : List SortRef) (rows : List Listed) : List Listed :=
  rows.mergeSort fun a b => !cmpRows Number sortRefs b a

end Comparison

/-- The records of the ids, in the order of the ids. -/
def readRows (read : String → Option StructuredRecord) (ids : List String) : List Listed :=
  ids.map fun id => ⟨id, read id⟩

section Rows

variable {Row : Type} (materialize : Listed → Row) (read : String → Option StructuredRecord)

/-- The rows of `LIST`. -/
def listRows (ids : List String) : List Row := (readRows read ids).map materialize

/-- The rows of `SORT`. -/
def sortRows (Number : Type) [Stod Number] [LinearOrder Number] (sortRefs : List SortRef)
    (ids : List String) : List Row :=
  (stableSort Number sortRefs (readRows read ids)).map materialize

/-- The comparison of the rows is a strict weak order that tells ids apart, and the rows are those
of `LIST` in that order, whatever the order of the ids. -/
structure SortsInOrder (Number : Type) [Stod Number] [LinearOrder Number]
    (sortRefs : List SortRef) (ids : List String) : Prop where
  irreflexive : ∀ a ∈ readRows read ids, cmpRows Number sortRefs a a = false
  transitive : ∀ a ∈ readRows read ids, ∀ b ∈ readRows read ids, ∀ c ∈ readRows read ids,
    cmpRows Number sortRefs a b = true → cmpRows Number sortRefs b c = true →
      cmpRows Number sortRefs a c = true
  incomparable : ∀ a ∈ readRows read ids, ∀ b ∈ readRows read ids, ∀ c ∈ readRows read ids,
    (cmpRows Number sortRefs a b = false ∧ cmpRows Number sortRefs b a = false) →
      (cmpRows Number sortRefs b c = false ∧ cmpRows Number sortRefs c b = false) →
        cmpRows Number sortRefs a c = false ∧ cmpRows Number sortRefs c a = false
  distinct : ∀ a ∈ readRows read ids, ∀ b ∈ readRows read ids, a.id ≠ b.id →
    cmpRows Number sortRefs a b = true ∨ cmpRows Number sortRefs b a = true
  sameRows : (sortRows materialize read Number sortRefs ids).Perm (listRows materialize read ids)
  ascending : ∃ rows : List Listed, rows.Perm (readRows read ids) ∧
    sortRows materialize read Number sortRefs ids = rows.map materialize ∧
      rows.IsChain fun before after => cmpRows Number sortRefs after before = false
  listing : ∀ {others : List String}, others.Perm ids →
    sortRows materialize read Number sortRefs others =
      sortRows materialize read Number sortRefs ids

end Rows

/-! ## Columns -/

/-- One column of the sort keys. -/
structure SortColumn (Number : Type) where
  descending : Bool
  part : Listed → KeyPart Number

/-- The column of a sort key; an absent record has an empty text in it. -/
def SortRef.column {Number : Type} [Stod Number] (ref : SortRef) : SortColumn Number where
  descending := ref.descending
  part row := (row.record.map fun record => makeSortPart (ref.cell record) ref.conversion).getD
    (.text "")

/-- The columns of the sort keys; without any it is the one of the ids. -/
def columns {Number : Type} [Stod Number] : List SortRef → List (SortColumn Number)
  | [] => [⟨false, fun row => .text row.id⟩]
  | ref :: refs => (ref :: refs).map SortRef.column

section Columns

variable {Number : Type} [LinearOrder Number]

/-- Two rows are equal in a column. -/
def Tied (column : SortColumn Number) (a b : Listed) : Prop :=
  comparePartsAsc (column.part a) (column.part b) = .eq

/-- The first column in which two rows differ, and otherwise their ids, put one before the other. -/
inductive Before : List (SortColumn Number) → Listed → Listed → Prop where
  | ids {a b : Listed} (less : a.id < b.id) : Before [] a b
  | here {column : SortColumn Number} {rest : List (SortColumn Number)} {a b : Listed}
      (less : comparePartsWithDesc (column.part a) (column.part b) column.descending = .lt) :
      Before (column :: rest) a b
  | later {column : SortColumn Number} {rest : List (SortColumn Number)} {a b : Listed}
      (tied : Tied column a b) (behind : Before rest a b) : Before (column :: rest) a b

/-- In some column, after others in which three rows are equal, one row has an empty text and two
have numbers, and the columns behind it put the higher one before the empty one and that before the
lower one. -/
inductive Clash : List (SortColumn Number) → Listed → Listed → Listed → Prop where
  | here {column : SortColumn Number} {rest : List (SortColumn Number)} {empty low high : Listed}
      {lower higher : Number} (isEmpty : column.part empty = .text "")
      (isLow : column.part low = .number lower) (isHigh : column.part high = .number higher)
      (less : if column.descending then higher < lower else lower < higher)
      (highFirst : Before rest high empty) (lowLast : Before rest empty low) :
      Clash (column :: rest) empty low high
  | later {column : SortColumn Number} {rest : List (SortColumn Number)} {empty low high : Listed}
      (lows : Tied column empty low) (numbers : Tied column low high)
      (highs : Tied column high empty) (behind : Clash rest empty low high) :
      Clash (column :: rest) empty low high

/-! ## The comparison of two parts -/

/-- Two parts compare the other way round when they are swapped. -/
theorem comparePartsAsc_swap (a b : KeyPart Number) :
    (comparePartsAsc a b).swap = comparePartsAsc b a := by
  cases a <;> cases b <;> exact cmp_swap _ _

/-- Descending, the two parts are swapped. -/
theorem comparePartsWithDesc_eq (a b : KeyPart Number) (desc : Bool) :
    comparePartsWithDesc a b desc = if desc then comparePartsAsc b a else comparePartsAsc a b := by
  unfold comparePartsWithDesc
  rw [comparePartsAsc_swap]

theorem comparePartsWithDesc_swap (a b : KeyPart Number) (desc : Bool) :
    (comparePartsWithDesc a b desc).swap = comparePartsWithDesc b a desc := by
  rw [comparePartsWithDesc_eq, comparePartsWithDesc_eq]
  cases desc <;> exact comparePartsAsc_swap _ _

/-- The direction does not decide what is equal. -/
theorem comparePartsWithDesc_eq_iff {a b : KeyPart Number} {desc : Bool} :
    comparePartsWithDesc a b desc = .eq ↔ comparePartsAsc a b = .eq := by
  unfold comparePartsWithDesc
  cases desc
  · exact Iff.rfl
  · exact Ordering.swap_eq_iff_eq_swap

/-- Parts that go around in a circle are two numbers and an empty text. -/
theorem comparePartsAsc_cycle {p q r : KeyPart Number} (first : comparePartsAsc p q = .lt)
    (second : comparePartsAsc q r ≠ .gt) (third : comparePartsAsc r p ≠ .gt) :
    r = .text "" ∧ ∃ num other, p = .number num ∧ q = .number other ∧ num < other := by
  have noSmaller : ∀ text : String, ¬ text < "" := fun text less => by
    rw [String.lt_iff_toList_lt] at less
    exact absurd less (List.not_lt_nil _)
  cases p with
  | text p =>
      have less : p < q.str := (cmp_eq_lt_iff _ _).mp first
      have above : q.str ≤ r.str := by
        cases q with
        | text q => exact le_of_not_gt fun after => second ((cmp_eq_gt_iff _ _).mpr after)
        | number num => exact absurd less (noSmaller p)
      have below : r.str ≤ p := by
        cases r <;> exact le_of_not_gt fun after => third ((cmp_eq_gt_iff _ _).mpr after)
      exact absurd (less.trans_le (above.trans below)) (lt_irrefl p)
  | number num =>
      cases q with
      | text q =>
          have less : "" < q := (cmp_eq_lt_iff _ _).mp first
          have above : q ≤ r.str := le_of_not_gt fun after => second ((cmp_eq_gt_iff _ _).mpr after)
          cases r with
          | text r =>
              have below : r ≤ "" := le_of_not_gt fun after => third ((cmp_eq_gt_iff _ _).mpr after)
              exact absurd (less.trans_le (above.trans below)) (lt_irrefl "")
          | number other => exact absurd (less.trans_le above) (lt_irrefl "")
      | number other =>
          have less : num < other := (cmp_eq_lt_iff _ _).mp first
          cases r with
          | text r =>
              have below : r ≤ "" := le_of_not_gt fun after => third ((cmp_eq_gt_iff _ _).mpr after)
              have isEmpty : r = "" := le_antisymm below (le_of_not_gt (noSmaller r))
              exact ⟨by rw [isEmpty], num, other, rfl, rfl, less⟩
          | number last =>
              have above : other ≤ last := le_of_not_gt fun after =>
                second ((cmp_eq_gt_iff _ _).mpr after)
              have below : last ≤ num := le_of_not_gt fun after =>
                third ((cmp_eq_gt_iff _ _).mpr after)
              exact absurd (less.trans_le (above.trans below)) (lt_irrefl num)

/-- A cycle of three parts has a number and an empty text in it. -/
theorem comparePartsWithDesc_cycle {p q r : KeyPart Number} {desc : Bool}
    (first : comparePartsWithDesc p q desc = .lt) (second : comparePartsWithDesc q r desc ≠ .gt)
    (third : comparePartsWithDesc r p desc ≠ .gt) :
    r = .text "" ∧ ∃ num other, p = .number num ∧ q = .number other ∧
      if desc then other < num else num < other := by
  rw [comparePartsWithDesc_eq] at first second third
  cases desc with
  | false => exact comparePartsAsc_cycle first second third
  | true =>
      obtain ⟨isEmpty, other, num, isOther, isNum, less⟩ :=
        comparePartsAsc_cycle first third second
      exact ⟨isEmpty, num, other, isNum, isOther, less⟩

/-! ## One row before another -/

variable {column : SortColumn Number} {rest : List (SortColumn Number)} {a b c : Listed}

/-- Ties go both ways. -/
theorem Tied.symm (tied : Tied column a b) : Tied column b a := by
  unfold Tied at *
  rw [← comparePartsAsc_swap, tied]
  rfl

/-- Rows are tied when their parts compare equal. -/
theorem tied_iff : Tied column a b ↔
    comparePartsWithDesc (column.part a) (column.part b) column.descending = .eq :=
  comparePartsWithDesc_eq_iff.symm

/-- The first column decides, or the others when it ties. -/
theorem before_cons_iff : Before (column :: rest) a b ↔
    comparePartsWithDesc (column.part a) (column.part b) column.descending = .lt ∨
      Tied column a b ∧ Before rest a b := by
  constructor
  · intro before
    cases before with
    | here less => exact .inl less
    | later tied behind => exact .inr ⟨tied, behind⟩
  · rintro (less | ⟨tied, behind⟩)
    · exact .here less
    · exact .later tied behind

/-- A row is not above the rows that it is before. -/
theorem Before.not_above (before : Before (column :: rest) a b) :
    comparePartsWithDesc (column.part a) (column.part b) column.descending ≠ .gt := by
  cases before with
  | here less =>
      rw [less]
      nofun
  | later tied behind =>
      rw [tied_iff.mp tied]
      nofun

/-- No two rows stand before each other. -/
theorem Before.asymm {columns : List (SortColumn Number)} (before : Before columns a b) :
    ¬ Before columns b a := by
  induction before with
  | ids less =>
      rintro ⟨⟩
      next more => exact lt_asymm less more
  | here less =>
      intro back
      refine back.not_above ?_
      rw [← comparePartsWithDesc_swap, less]
      rfl
  | later tied behind hypothesis =>
      intro back
      cases back with
      | here less =>
          rw [tied_iff.mp tied.symm] at less
          cases less
      | later _ behindBack => exact hypothesis behindBack

/-- Of two rows with different ids one stands before the other. -/
theorem before_or_before (columns : List (SortColumn Number)) (other : a.id ≠ b.id) :
    Before columns a b ∨ Before columns b a := by
  induction columns with
  | nil => exact (lt_or_gt_of_ne other).imp .ids .ids
  | cons column rest hypothesis =>
      cases compared : comparePartsWithDesc (column.part a) (column.part b) column.descending with
      | lt => exact .inl (.here compared)
      | gt =>
          refine .inr (.here ?_)
          rw [← comparePartsWithDesc_swap, compared]
          rfl
      | eq =>
          have tied : Tied column a b := tied_iff.mpr compared
          exact hypothesis.imp (.later tied) (.later tied.symm)

/-- A circle that goes up in the first column is a clash there. -/
theorem clash_of_less
    (less : comparePartsWithDesc (column.part a) (column.part b) column.descending = .lt)
    (second : Before (column :: rest) b c) (third : Before (column :: rest) c a) :
    Clash (column :: rest) c a b := by
  obtain ⟨isEmpty, num, other, isNum, isOther, numbers⟩ :=
    comparePartsWithDesc_cycle less second.not_above third.not_above
  have tied : Tied column b c := by
    unfold Tied
    rw [isEmpty, isOther]
    rfl
  have tiedBack : Tied column c a := by
    unfold Tied
    rw [isEmpty, isNum]
    rfl
  have behind : ∀ {x y : Listed}, Tied column x y → Before (column :: rest) x y →
      Before rest x y := by
    intro x y equal before
    rcases before_cons_iff.mp before with above | ⟨-, behind⟩
    · rw [tied_iff.mp equal] at above
      cases above
    · exact behind
  exact .here isEmpty isNum isOther numbers (behind tied second) (behind tiedBack third)

/-- Rows that go around in a circle clash. -/
theorem clash_of_cycle {columns : List (SortColumn Number)} (first : Before columns a b)
    (second : Before columns b c) (third : Before columns c a) :
    Clash columns c a b ∨ Clash columns a b c ∨ Clash columns b c a := by
  induction columns with
  | nil =>
      cases first with | ids first =>
      cases second with | ids second =>
      cases third with | ids third =>
      exact absurd (first.trans (second.trans third)) (lt_irrefl _)
  | cons column rest hypothesis =>
      rcases before_cons_iff.mp first with less | ⟨ab, behindFirst⟩
      · exact .inl (clash_of_less less second third)
      rcases before_cons_iff.mp second with less | ⟨bc, behindSecond⟩
      · exact .inr (.inl (clash_of_less less third first))
      rcases before_cons_iff.mp third with less | ⟨ca, behindThird⟩
      · exact .inr (.inr (clash_of_less less first second))
      rcases hypothesis behindFirst behindSecond behindThird with clash | clash | clash
      · exact .inl (.later ca ab bc clash)
      · exact .inr (.inl (.later ab bc ca clash))
      · exact .inr (.inr (.later bc ca ab clash))

/-- Rows that clash go around in a circle. -/
theorem Clash.cycle {columns : List (SortColumn Number)} {empty low high : Listed}
    (clash : Clash columns empty low high) :
    Before columns low high ∧ Before columns high empty ∧ Before columns empty low := by
  induction clash with
  | @here column rest empty low high lower higher isEmpty isLow isHigh less highFirst lowLast =>
      have tied : Tied column high empty := by
        unfold Tied
        rw [isEmpty, isHigh]
        rfl
      have tiedBack : Tied column empty low := by
        unfold Tied
        rw [isEmpty, isLow]
        rfl
      refine ⟨.here ?_, .later tied highFirst, .later tiedBack lowLast⟩
      rw [comparePartsWithDesc_eq, isLow, isHigh]
      cases isDescending : column.descending with
      | false =>
          rw [isDescending] at less
          exact (cmp_eq_lt_iff _ _).mpr less
      | true =>
          rw [isDescending] at less
          exact (cmp_eq_lt_iff _ _).mpr less
  | later lows numbers highs behind hypothesis =>
      obtain ⟨first, second, third⟩ := hypothesis
      exact ⟨.later numbers first, .later highs second, .later lows third⟩

/-- Keys are compared column by column, and then by id. -/
theorem cmpKeys_columns (columns : List (SortColumn Number)) :
    (match cmpKeys (columns.map SortColumn.descending) (columns.map fun column => column.part a)
        (columns.map fun column => column.part b) with
      | .lt => true
      | .gt => false
      | .eq => decide (a.id < b.id)) = true ↔ Before columns a b := by
  induction columns with
  | nil =>
      refine decide_eq_true_iff.trans ⟨.ids, fun before => ?_⟩
      cases before with | ids less => exact less
  | cons column rest hypothesis =>
      rw [before_cons_iff, tied_iff, ← hypothesis]
      simp only [List.map_cons, cmpKeys, List.headD_cons, List.tail_cons]
      cases comparePartsWithDesc (column.part a) (column.part b) column.descending <;> simp

end Columns

section Orders

variable {Number : Type} [Stod Number]

/-- The key of a row is that of its columns. -/
theorem rowKeys_eq (sortRefs : List SortRef) (row : Listed) :
    (rowKeys sortRefs row : List (KeyPart Number)) =
      (columns sortRefs).map fun column => column.part row := by
  cases sortRefs with
  | nil => rfl
  | cons ref refs =>
      unfold rowKeys columns
      rw [if_neg (List.cons_ne_nil ref refs), List.map_map]
      cases isRecord : row.record with
      | none =>
          refine (List.eq_replicate_iff.mpr ⟨List.length_map _, fun part member => ?_⟩).symm
          obtain ⟨ref, -, rfl⟩ := List.mem_map.mp member
          simp [SortRef.column, isRecord]
      | some record =>
          refine List.map_congr_left fun ref _ => ?_
          simp [SortRef.column, isRecord]

variable [LinearOrder Number] {sortRefs : List SortRef}

/-- `cmpRows` goes through the columns. -/
theorem cmpRows_iff {a b : Listed} :
    cmpRows Number sortRefs a b = true ↔
      Before (columns sortRefs : List (SortColumn Number)) a b := by
  rw [← cmpKeys_columns, ← rowKeys_eq, ← rowKeys_eq]
  cases sortRefs with
  | nil => rfl
  | cons ref refs =>
      unfold cmpRows columns
      rw [List.map_map]
      rfl

/-- The comparison goes one way. -/
theorem cmpRows_asymm {a b : Listed} (less : cmpRows Number sortRefs a b = true) :
    cmpRows Number sortRefs b a = false := by
  rw [Bool.eq_false_iff]
  exact fun more => (cmpRows_iff.mp less).asymm (cmpRows_iff.mp more)

theorem cmpRows_self (a : Listed) : cmpRows Number sortRefs a a = false := by
  rw [Bool.eq_false_iff]
  exact fun less => (cmpRows_iff.mp less).asymm (cmpRows_iff.mp less)

/-- The comparison decides between different ids. -/
theorem cmpRows_total {a b : Listed} (other : a.id ≠ b.id) :
    cmpRows Number sortRefs a b = true ∨ cmpRows Number sortRefs b a = true :=
  (before_or_before (columns sortRefs) other).imp cmpRows_iff.mpr cmpRows_iff.mpr

/-! ## Rows in order -/

section Reading

variable {read : String → Option StructuredRecord} {ids : List String} {a b c : Listed}

/-- Rows with one id are one. -/
theorem eq_of_id (first : a ∈ readRows read ids) (second : b ∈ readRows read ids)
    (same : a.id = b.id) : a = b := by
  obtain ⟨id, -, rfl⟩ := List.mem_map.mp first
  obtain ⟨other, -, rfl⟩ := List.mem_map.mp second
  cases same
  rfl

/-- Rows that are not told apart are one. -/
theorem eq_of_incomparable (first : a ∈ readRows read ids) (second : b ∈ readRows read ids)
    (notLess : cmpRows Number sortRefs a b = false)
    (notMore : cmpRows Number sortRefs b a = false) : a = b := by
  by_contra differ
  have other : a.id ≠ b.id := fun same => differ (eq_of_id first second same)
  rcases @cmpRows_total Number _ _ sortRefs _ _ other with less | more
  · rw [less] at notLess
    cases notLess
  · rw [more] at notMore
    cases notMore

variable (noClash : ∀ empty ∈ readRows read ids, ∀ low ∈ readRows read ids,
  ∀ high ∈ readRows read ids,
    ¬ Clash (columns sortRefs : List (SortColumn Number)) empty low high)

include noClash

/-- On rows whose columns do not mix, the comparison is transitive. -/
theorem cmpRows_trans (first : a ∈ readRows read ids) (second : b ∈ readRows read ids)
    (third : c ∈ readRows read ids) (less : cmpRows Number sortRefs a b = true)
    (next : cmpRows Number sortRefs b c = true) : cmpRows Number sortRefs a c = true := by
  have other : a.id ≠ c.id := by
    intro same
    rw [eq_of_id first third same, cmpRows_asymm next] at less
    cases less
  rcases @cmpRows_total Number _ _ sortRefs _ _ other with done | back
  · exact done
  · rcases clash_of_cycle (cmpRows_iff.mp less) (cmpRows_iff.mp next) (cmpRows_iff.mp back) with
      clash | clash | clash
    · exact absurd clash (noClash c third a first b second)
    · exact absurd clash (noClash a first b second c third)
    · exact absurd clash (noClash b second c third a first)

/-- The order that the rows are left in is transitive too. -/
theorem notAfter_trans (first : a ∈ readRows read ids) (second : b ∈ readRows read ids)
    (third : c ∈ readRows read ids) (ab : cmpRows Number sortRefs b a = false)
    (bc : cmpRows Number sortRefs c b = false) : cmpRows Number sortRefs c a = false := by
  by_cases sameFirst : a.id = b.id
  · rwa [eq_of_id first second sameFirst]
  by_cases sameLast : b.id = c.id
  · rwa [← eq_of_id second third sameLast]
  have less := (@cmpRows_total Number _ _ sortRefs _ _ sameFirst).resolve_right
    (by rw [ab]; nofun)
  have next := (@cmpRows_total Number _ _ sortRefs _ _ sameLast).resolve_right
    (by rw [bc]; nofun)
  exact cmpRows_asymm (cmpRows_trans noClash first second third less next)

/-- No row stands before one that is less. -/
theorem pairwise_stableSort : (stableSort Number sortRefs (readRows read ids)).Pairwise
    fun before after => cmpRows Number sortRefs after before = false := by
  have attached : stableSort Number sortRefs (readRows read ids) =
      (((readRows read ids).attach.mergeSort fun a b =>
        !cmpRows Number sortRefs b.1 a.1).map Subtype.val) := by
    rw [List.map_mergeSort (s := fun a b => !cmpRows Number sortRefs b a) fun _ _ _ _ => rfl,
      List.attach_map_subtype_val]
    rfl
  rw [attached, List.pairwise_map]
  refine (List.pairwise_mergeSort ?_ ?_ _).imp fun notAfter => by simpa using notAfter
  · intro a b c ab bc
    rw [Bool.not_eq_true'] at *
    exact notAfter_trans noClash a.2 b.2 c.2 ab bc
  · intro a b
    cases less : cmpRows Number sortRefs b.1 a.1 with
    | false => rfl
    | true =>
        rw [cmpRows_asymm less]
        rfl

end Reading

/-- Sorting keeps the rows. -/
theorem perm_stableSort (rows : List Listed) :
    (stableSort Number sortRefs rows).Perm rows := List.mergeSort_perm _ _

/-- `SORT` puts the rows in one order exactly when no three of them clash. -/
theorem sortsInOrder_iff {Row : Type} (materialize : Listed → Row)
    (read : String → Option StructuredRecord) (sortRefs : List SortRef) (ids : List String) :
    SortsInOrder materialize read Number sortRefs ids ↔
      ∀ empty ∈ readRows read ids, ∀ low ∈ readRows read ids, ∀ high ∈ readRows read ids,
        ¬ Clash (columns sortRefs : List (SortColumn Number)) empty low high := by
  constructor
  · intro sorts empty isEmpty low isLow high isHigh clash
    obtain ⟨first, second, third⟩ := clash.cycle
    have around := sorts.transitive low isLow high isHigh empty isEmpty (cmpRows_iff.mpr first)
      (cmpRows_iff.mpr second)
    exact (cmpRows_iff.mp around).asymm third
  · intro noClash
    exact {
      irreflexive := fun a _ => cmpRows_self a
      transitive := fun a first b second c third => cmpRows_trans noClash first second third
      incomparable := by
        rintro a first b second c third ⟨ab, ba⟩ ⟨bc, cb⟩
        cases eq_of_incomparable first second ab ba
        exact ⟨bc, cb⟩
      distinct := fun a _ b _ other => cmpRows_total other
      sameRows := (perm_stableSort _).map materialize
      ascending := ⟨stableSort Number sortRefs (readRows read ids), perm_stableSort _, rfl,
        (pairwise_stableSort noClash).isChain⟩
      listing := by
        intro others permuted
        have rows : (readRows read others).Perm (readRows read ids) := permuted.map _
        have noClashThere : ∀ empty ∈ readRows read others, ∀ low ∈ readRows read others,
            ∀ high ∈ readRows read others,
              ¬ Clash (columns sortRefs : List (SortColumn Number)) empty low high :=
          fun empty isEmpty low isLow high isHigh =>
            noClash empty (rows.subset isEmpty) low (rows.subset isLow) high (rows.subset isHigh)
        unfold sortRows
        congr 1
        refine List.Perm.eq_of_pairwise (fun a b first second notMore notLess => ?_)
          (pairwise_stableSort noClashThere) (pairwise_stableSort noClash)
          ((perm_stableSort _).trans (rows.trans (perm_stableSort _).symm))
        have inFirst := rows.subset ((perm_stableSort _).subset first)
        exact eq_of_incomparable inFirst ((perm_stableSort _).subset second) notLess notMore }

end Orders

/-! ## Three rows in a circle -/

section Example

/-- Records with a price in their first attribute: 2 and 1, and a blank one. -/
def prices : String → Option StructuredRecord
  | "a" => some (.fromRaw "2")
  | "m" => some (.fromRaw "")
  | "z" => some (.fromRaw "1")
  | _ => none

/-- A column of prices. -/
def byPrice : SortRef where
  conversion := .md
  descending := false
  cell record := (record.attributeAt 1).raw

/-- 2 is before the empty text and that before 1, by their ids, but 2 is not before 1. -/
theorem prices_unsorted :
    ¬ @SortsInOrder Listed id prices ℚ decimalStod _ [byPrice] ["a", "m", "z"] := by
  intro sorts
  have transitive := @SortsInOrder.transitive _ _ _ _ decimalStod _ _ _ sorts
  have around := transitive ⟨"a", prices "a"⟩ (by simp [readRows]) ⟨"m", prices "m"⟩
    (by simp [readRows]) ⟨"z", prices "z"⟩ (by simp [readRows]) (by decide +kernel)
    (by decide +kernel)
  revert around
  decide +kernel

end Example

end Gemini.English
