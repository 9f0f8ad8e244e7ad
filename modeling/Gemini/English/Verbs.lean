import Gemini.Data.Checked
import Gemini.English.Executor
import Gemini.PickFS.FailedOperations
import Gemini.PickFS.RecordStore

/-!
# The verbs of the sentences

On a host that does not fail, a sentence leaves the world as it was, and its outcome is put
together from the outcomes of its parts. `LIST` makes a row of every id, and the other verbs agree
with it: `COUNT` and `SELECT` about the ids, `SORT` about the rows.
-/

namespace Gemini.English

open Gemini.Data (bind_eq_ok)
open Gemini.PickFS (World FileSystem steady_same)
open Gemini.Semantics Program
open Gemini.VM (FileError)

/-- What the file system throws, the executor reports. -/
theorem outcome_reported {Value : Type} (program : PickFS.FileM Value) (world : World) :
    outcome (reported program) world = (outcome program world).mapError .error := by
  unfold reported outcome
  rw [exec_bind, exec_caught, id]
  cases (exec program world).1 <;> rfl

/-- A call that is reported succeeds when the operation does. -/
theorem outcome_reported_eq_ok {Value : Type} {program : PickFS.FileM Value} {world : World}
    {value : Value} :
    outcome (reported program) world = .ok value ↔ outcome program world = .ok value := by
  rw [outcome_reported]
  cases outcome program world <;> simp [Except.mapError]

namespace Executor

variable {Number : Type} [LinearOrder Number] [IType.Literals Number] [ReportDoubles Number]
  {fileSystem : FileSystem} {world : World}

/-- The row of a record that has been read. -/
def rowOf (query : Query) (fields breakRef totalRef : List (NamedRef Number)) (listed : Listed) :
    Row Number :=
  produceRow query (rowCells fields breakRef totalRef) listed.id listed.record

/-- The outcome of a query under one of the verbs. -/
def under (fileSystem : FileSystem) (world : World) (query : Query) (options : EnglishRunOptions)
    (verb : Verb) : Except Stop (Produced Number) :=
  outcome (produceRows fileSystem { query with verb } options) world

/-- The outcome of a sentence from the outcomes of its parts. -/
theorem under_eq (faithful : world.faults = []) (query : Query) (options : EnglishRunOptions)
    (verb : Verb) :
    (under fileSystem world query options verb : Except Stop (Produced Number)) = (do
      let ids ← outcome (recordIds fileSystem query options) world
      if verb = .COUNT then .ok { trailingLines := [toString ids.length] }
      else
        let fields ← outcome (requireFields Number fileSystem query.fileName query.fields) world
        let breakRef ← outcome
          (requireFields Number fileSystem query.fileName query.breakOnField.toList) world
        let totalRef ← outcome
          (requireFields Number fileSystem query.fileName query.totalField.toList) world
        if verb = .SELECT then
          .ok {
            trailingLines := [toString ids.length ++ " records selected"]
            selectedIds := ids }
        else
          let listed ← outcome (readListed fileSystem query.fileName ids) world
          let row := rowOf query fields breakRef totalRef
          if verb = .SORT then
            let tokens := query.sortKeys.map SortKeySpec.fieldToken
            let sortRefs ← outcome (requireFields Number fileSystem query.fileName tokens) world
            let order := stableSort Number (query.sortKeys.zipWith sortRef sortRefs) listed
            .ok { rows := order.map row, selectedIds := ids }
          else .ok { rows := listed.map row, selectedIds := ids }) := by
  have steady := steady_same faithful
  rw [under, produceRows, outcome_bind (keeps_recordIds steady _ _)]
  refine congrArg _ (funext fun ids => ?_)
  split
  · rfl
  · rw [outcome_bind (keeps_requireFields steady _ _)]
    refine congrArg _ (funext fun fields => ?_)
    rw [outcome_bind (keeps_requireFields steady _ _)]
    refine congrArg _ (funext fun breakRef => ?_)
    rw [outcome_bind (keeps_requireFields steady _ _)]
    refine congrArg _ (funext fun totalRef => ?_)
    split
    · rfl
    · rw [outcome_bind (keeps_readListed steady _ _)]
      refine congrArg _ (funext fun listed => ?_)
      dsimp only
      split
      · rw [outcome_bind (keeps_requireFields steady _ _)]
        rfl
      · rfl

/-! ## What a list reads -/

/-- The ids, the fields and the records that `LIST` gets. -/
structure Lists (fileSystem : FileSystem) (world : World) (query : Query)
    (options : EnglishRunOptions) (ids : List String)
    (fields breakRef totalRef : List (NamedRef Number)) (listed : List Listed) : Prop where
  named : outcome (recordIds fileSystem query options) world = .ok ids
  fields : outcome (requireFields Number fileSystem query.fileName query.fields) world = .ok fields
  breakRef : outcome (requireFields Number fileSystem query.fileName query.breakOnField.toList)
    world = .ok breakRef
  totalRef : outcome (requireFields Number fileSystem query.fileName query.totalField.toList)
    world = .ok totalRef
  listed : outcome (readListed fileSystem query.fileName ids) world = .ok listed

variable {query : Query} {options : EnglishRunOptions} {ids : List String}
  {fields breakRef totalRef : List (NamedRef Number)} {listed : List Listed}

/-- What a `LIST` that succeeds has done. -/
theorem list_eq_ok (faithful : world.faults = []) {produced : Produced Number} :
    under fileSystem world query options .LIST = .ok produced ↔
      ∃ ids fields breakRef totalRef listed,
        Lists fileSystem world query options ids fields breakRef totalRef listed ∧
          produced = {
            rows := listed.map (rowOf query fields breakRef totalRef), selectedIds := ids } := by
  rw [under_eq faithful]
  constructor
  · intro done
    obtain ⟨ids, isIds, done⟩ := bind_eq_ok.mp done
    rw [if_neg (by decide)] at done
    obtain ⟨fields, isFields, done⟩ := bind_eq_ok.mp done
    obtain ⟨breakRef, isBreak, done⟩ := bind_eq_ok.mp done
    obtain ⟨totalRef, isTotal, done⟩ := bind_eq_ok.mp done
    rw [if_neg (by decide)] at done
    obtain ⟨listed, isListed, done⟩ := bind_eq_ok.mp done
    rw [if_neg (by decide), Except.ok.injEq] at done
    exact ⟨ids, fields, breakRef, totalRef, listed,
      ⟨isIds, isFields, isBreak, isTotal, isListed⟩, done.symm⟩
  · rintro ⟨ids, fields, breakRef, totalRef, listed, lists, rfl⟩
    refine bind_eq_ok.mpr ⟨ids, lists.named, ?_⟩
    rw [if_neg (by decide)]
    refine bind_eq_ok.mpr ⟨fields, lists.fields, bind_eq_ok.mpr ⟨breakRef, lists.breakRef,
      bind_eq_ok.mpr ⟨totalRef, lists.totalRef, ?_⟩⟩⟩
    rw [if_neg (by decide)]
    refine bind_eq_ok.mpr ⟨listed, lists.listed, ?_⟩
    rw [if_neg (by decide)]

/-- `COUNT` counts what is listed. -/
theorem Lists.count
    (lists : Lists fileSystem world query options ids fields breakRef totalRef listed)
    (faithful : world.faults = []) :
    (under fileSystem world query options .COUNT : Except Stop (Produced Number)) =
      .ok { trailingLines := [toString ids.length] } := by
  rw [under_eq faithful]
  refine bind_eq_ok.mpr ⟨ids, lists.named, ?_⟩
  rw [if_pos rfl]

/-- `SELECT` selects what is listed. -/
theorem Lists.select
    (lists : Lists fileSystem world query options ids fields breakRef totalRef listed)
    (faithful : world.faults = []) :
    (under fileSystem world query options .SELECT : Except Stop (Produced Number)) =
      .ok {
        trailingLines := [toString ids.length ++ " records selected"], selectedIds := ids } := by
  rw [under_eq faithful]
  refine bind_eq_ok.mpr ⟨ids, lists.named, ?_⟩
  rw [if_neg (by decide)]
  refine bind_eq_ok.mpr ⟨fields, lists.fields, bind_eq_ok.mpr ⟨breakRef, lists.breakRef,
    bind_eq_ok.mpr ⟨totalRef, lists.totalRef, ?_⟩⟩⟩
  rw [if_pos rfl]

/-- The ids that `SELECT` gives are those of the file, or of the active list. -/
theorem recordIds_of_select (faithful : world.faults = []) {selected : Produced Number}
    (done : under fileSystem world query options .SELECT = .ok selected) :
    outcome (recordIds fileSystem query options) world = .ok selected.selectedIds := by
  rw [under_eq faithful] at done
  obtain ⟨ids, named, done⟩ := bind_eq_ok.mp done
  rw [if_neg (by decide)] at done
  obtain ⟨_, -, done⟩ := bind_eq_ok.mp done
  obtain ⟨_, -, done⟩ := bind_eq_ok.mp done
  obtain ⟨_, -, done⟩ := bind_eq_ok.mp done
  rw [if_pos rfl] at done
  cases done
  exact named

/-- `SORT` goes on from the same records with its keys. -/
theorem Lists.sort
    (lists : Lists fileSystem world query options ids fields breakRef totalRef listed)
    (faithful : world.faults = []) :
    under fileSystem world query options .SORT =
      (outcome (requireFields Number fileSystem query.fileName
        (query.sortKeys.map SortKeySpec.fieldToken)) world >>= fun sortRefs =>
          .ok {
            rows := (stableSort Number (query.sortKeys.zipWith sortRef sortRefs) listed).map
              (rowOf query fields breakRef totalRef)
            selectedIds := ids }) := by
  have ok_bind : ∀ {First Second : Type} (value : First) (next : First → Except Stop Second),
      (.ok value >>= next) = next value := fun _ _ => rfl
  simp only [under_eq faithful, lists.named, lists.fields, lists.breakRef, lists.totalRef, ok_bind,
    lists.listed, if_neg (show ¬ Verb.SORT = .COUNT by decide),
    if_neg (show ¬ Verb.SORT = .SELECT by decide), if_true]

/-- The rows have the ids that were asked for. -/
theorem id_of_readListed (faithful : world.faults = []) {fileName : String}
    (read : outcome (readListed fileSystem fileName ids) world = .ok listed) :
    listed.map Listed.id = ids := by
  have steady := steady_same faithful
  induction ids generalizing listed with
  | nil =>
      cases read
      rfl
  | cons id ids inductionHypothesis =>
      rw [readListed, outcome_bind (keeps_reported
        ((PickFS.read_ensures steady fileName id).weakenPost fun _ _ => And.left))] at read
      obtain ⟨record, -, read⟩ := bind_eq_ok.mp read
      rw [outcome_bind (keeps_readListed steady _ _)] at read
      obtain ⟨others, isOthers, read⟩ := bind_eq_ok.mp read
      cases read
      rw [List.map_cons, inductionHypothesis isOthers]

/-! ## The verbs agree -/

/-- What the other verbs give where `LIST` gives a listing. -/
structure VerbsAgree (Number : Type) [LinearOrder Number] [IType.Literals Number]
    [ReportDoubles Number] (fileSystem : FileSystem) (world : World)
    (query : Query) (options : EnglishRunOptions) (listing : Produced Number) : Prop where
  rows : listing.rows.map Row.id = listing.selectedIds
  count : (under fileSystem world query options .COUNT : Except Stop (Produced Number)) =
    .ok { trailingLines := [toString listing.rows.length] }
  select : (under fileSystem world query options .SELECT : Except Stop (Produced Number)) = .ok {
    trailingLines := [toString listing.rows.length ++ " records selected"]
    selectedIds := listing.selectedIds }
  /-- The rows are sorted if all of the keys are known, and otherwise there are none. -/
  sort : (∃ sorted : Produced Number, under fileSystem world query options .SORT = .ok sorted) ↔
    ∃ refs, outcome (requireFields Number fileSystem query.fileName
      (query.sortKeys.map SortKeySpec.fieldToken)) world = .ok refs
  sorted : ∀ sorted : Produced Number, under fileSystem world query options .SORT = .ok sorted →
    sorted.rows.Perm listing.rows ∧ sorted.selectedIds = listing.selectedIds ∧
      sorted.trailingLines = []
  /-- Without keys the rows of a file are in order already. -/
  unsorted : query.sortKeys = [] → options.constrainRecordIds = none →
    under fileSystem world query options .SORT = .ok listing
  /-- The ids that are selected list as the file does. -/
  selected : under fileSystem world query
    { options with constrainRecordIds := some listing.selectedIds } .LIST = .ok listing

/-- The ids of a file are in ascending order. -/
theorem pairwise_recordIds (whole : options.constrainRecordIds = none)
    (named : outcome (recordIds fileSystem query options) world = .ok ids) :
    ids.Pairwise (· < ·) := by
  have ascending : Ensures (fun _ : World => True) (fileSystem.listRecordNames query.fileName)
      (fun names _ => names.Pairwise (· < ·)) fun _ => True := by
    have steady : PickFS.Steady fun _ => True := fun _ _ => trivial
    refine ((PickFS.openFile_ensures steady _).weakenPost fun _ _ _ => trivial).bind
      fun handle => ?_
    refine (PickFS.inspect_keeps steady _ _).bind fun found => Ensures.pure fun _ _ => ?_
    rw [PickFS.sortUnique_eq]
    exact (Finset.sortedLT_sort _).pairwise
  have listed := ascending world trivial
  unfold recordIds at named
  rw [whole] at named
  have done := outcome_reported_eq_ok.mp named
  unfold outcome at done
  rcases ran : exec (fileSystem.listRecordNames query.fileName) world with ⟨what | names, after⟩
  · rw [ran] at done
    cases done
  · rw [ran] at listed done
    cases done
    exact listed

omit [IType.Literals Number] in
/-- Rows that are in the order of their ids stay so without any keys. -/
theorem stableSort_of_pairwise (ascending : (listed.map Listed.id).Pairwise (· < ·)) :
    stableSort Number [] listed = listed := by
  refine List.mergeSort_of_pairwise ((List.pairwise_map.mp ascending).imp fun {a b} less => ?_)
  have before : cmpRows Number [] a b = true :=
    cmpRows_iff.mpr (.here ((cmp_eq_lt_iff _ _).mpr less))
  rw [cmpRows_asymm before]
  rfl

/-- When `LIST` succeeds, the other verbs agree with it. -/
theorem verbs_agree (faithful : world.faults = []) {listing : Produced Number}
    (done : under fileSystem world query options .LIST = .ok listing) :
    VerbsAgree Number fileSystem world query options listing := by
  obtain ⟨ids, fields, breakRef, totalRef, listed, lists, rfl⟩ := (list_eq_ok faithful).mp done
  have idsOf := id_of_readListed faithful lists.listed
  have length : ids.length = (listed.map (rowOf query fields breakRef totalRef)).length := by
    rw [List.length_map, ← idsOf, List.length_map]
  exact {
    rows := by
      rw [List.map_map]
      exact idsOf
    count := by rw [lists.count faithful, length]
    select := by rw [lists.select faithful, length]
    sort := by
      rw [lists.sort faithful]
      constructor
      · rintro ⟨sorted, isSorted⟩
        obtain ⟨refs, isRefs, -⟩ := bind_eq_ok.mp isSorted
        exact ⟨refs, isRefs⟩
      · rintro ⟨refs, isRefs⟩
        exact ⟨_, bind_eq_ok.mpr ⟨refs, isRefs, rfl⟩⟩
    sorted := by
      intro sorted isSorted
      rw [lists.sort faithful] at isSorted
      obtain ⟨refs, -, same⟩ := bind_eq_ok.mp isSorted
      cases same
      exact ⟨(perm_stableSort _).map _, rfl, rfl⟩
    unsorted := by
      intro noKeys whole
      have ascending := pairwise_recordIds whole lists.named
      rw [← idsOf] at ascending
      rw [lists.sort faithful, noKeys]
      refine bind_eq_ok.mpr ⟨[], rfl, ?_⟩
      rw [List.zipWith_nil_left, stableSort_of_pairwise ascending]
    selected := (list_eq_ok faithful).mpr ⟨ids, fields, breakRef, totalRef, listed,
      { lists with named := rfl }, rfl⟩ }

/-! ## A file with one record -/

/-- Reports with whole numbers. -/
@[reducible] def wholeReports : ReportDoubles ℤ :=
  { IType.wholeEvaluator, (inferInstance : AddMonoid ℤ) with toFixed := toString }

/-- The account of the example. -/
def account : FileSystem where
  root := "ACCOUNT"

/-- A file with one record. -/
def oneRecord : World where
  disk _ := AList.insert "DATA" (.directory (AList.insert ("R1", .item) "A" ∅)) ∅

/-- `SELECT DATA`. -/
def dataQuery : Query where
  verb := .SELECT
  fileName := "DATA"

/-- The file has one name. -/
theorem listRecordNames_oneRecord :
    exec (account.listRecordNames "DATA") oneRecord = (.ok ["R1"], oneRecord) := by
  have isThere : (oneRecord.disk account.root).lookup "DATA" =
      some (.directory (AList.insert ("R1", .item) "A" ∅)) := rfl
  have valid : (!PickFS.isValidName "DATA") = false := by decide
  have one : FileSystem.recordNames (AList.insert ("R1", .item) "A" ∅) = ["R1"] := by decide
  rw [FileSystem.listRecordNames, exec_bind, PickFS.exec_openFile rfl, isThere, valid]
  simp only [Bool.false_eq_true, if_false]
  unfold FileSystem.listRecords
  rw [exec_bind, PickFS.exec_inspect rfl]
  simp only [FileSystem.handle, PickFS.Directory.records, isThere, Option.join_some,
    Option.map_some, Option.getD_some, one]
  rw [FileSystem.sortUnique, List.mergeSort_singleton]
  rfl

/-- What `LIST` gives of the file. -/
def oneRow : Produced ℤ where
  rows := [⟨"R1", [], "", 0, []⟩]
  selectedIds := ["R1"]

/-- The file is listed as one row. -/
theorem list_oneRecord :
    @under ℤ _ IType.wholeLiterals wholeReports account oneRecord dataQuery {} .LIST =
      .ok oneRow := by
  unfold under produceRows recordIds outcome
  rw [exec_bind]
  dsimp only
  unfold reported
  rw [exec_bind, exec_caught, id]
  dsimp only [dataQuery]
  rw [listRecordNames_oneRecord]
  rfl

/-- On the file with one record the verbs agree. -/
theorem verbs_agree_oneRecord :
    @VerbsAgree ℤ _ IType.wholeLiterals wholeReports account oneRecord dataQuery {} oneRow :=
  @verbs_agree ℤ _ IType.wholeLiterals wholeReports _ _ _ _ rfl _ list_oneRecord

end Executor

end Gemini.English
