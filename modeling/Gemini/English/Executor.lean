import Gemini.English.DictItems
import Gemini.English.IExpressionEvaluator
import Gemini.English.ReportTemplates

/-!
# The executor of sentences

`Executor::produceRows` reads the records of a file, or of an active list, and makes the rows of
the formatter from them. It only reads. On a host that does not fail its outcome is a function of
the files, and the verbs go together: `COUNT` counts the rows of `LIST`, `SELECT` gives their ids,
and `SORT` puts them in another order.
-/

namespace Gemini.English

open Gemini.Conversion (oconvOutput)
open Gemini.PickFS (World FileSystem FileM Record StructuredRecord)
open Gemini.Semantics Program
open Gemini.VM (DictFieldKind FileError)

/-! ## The fields of a sentence -/

/-- What the items of a dictionary mean, for fields of any kind. -/
structure RefItems (Ref : Type) where
  makeAttributeRef : Option Int → Ref
  fieldFromStructuredDict : StructuredRecord → Except FileError (Option Ref)

section Resolver

variable {Ref : Type} (fileSystem : FileSystem) (items : RefItems Ref)

/-- `resolveFieldRec` for fields of any kind. -/
def resolveRefRec (dataFileName : String) : Nat → String →
    Program World FileError (Option Ref)
  | 0, _ => return none
  | levels + 1, lookupToken => do
      match ← ofExcept (parsePositiveInt lookupToken) with
      | some attributeNo => return some (items.makeAttributeRef (some attributeNo))
      | none =>
          let ownItem ← readScoped fileSystem dataFileName lookupToken
          let commonItem ← tryReadDictRecord fileSystem "DICT" lookupToken
          match ownItem <|> commonItem with
          | none => return none
          | some chosen =>
              let structured := StructuredRecord.fromRaw chosen.value
              let type := (structured.attributeAt 1).valueAt 1
              if type = "S" ∨ type = "s" then
                let target := (structured.attributeAt 2).valueAt 1
                if target = "" then return some (items.makeAttributeRef none)
                else resolveRefRec dataFileName levels target
              else
                let field ← ofExcept (items.fieldFromStructuredDict structured)
                return some (field.getD (items.makeAttributeRef none))

/-- `DictionaryResolver::resolveField`. -/
def resolveRef (dataFileName token : String) : Program World FileError Ref := do
  let found ← resolveRefRec fileSystem items dataFileName 17 token
  return found.getD (items.makeAttributeRef none)

end Resolver

/-- The items for the machine, which keeps less of a field. -/
def RefItems.forMachine {Ref : Type} (items : RefItems Ref) (kept : Ref → VM.FieldRef) :
    FieldItems where
  makeAttributeRef attributeNo := kept (items.makeAttributeRef attributeNo)
  fieldFromStructuredDict attrs :=
    (items.fieldFromStructuredDict attrs).map (Option.map kept)

/-- The operations on `double` of the executor and the formatter. -/
class ReportDoubles (Number : Type) extends EvaluatorDoubles Number, AddMonoid Number, Totals Number

section Sentences

variable {Number : Type} [LinearOrder Number] [IType.Literals Number]

variable (Number) in
/-- The fields of the sentences. -/
def refItems : RefItems (FieldRef Number) where
  makeAttributeRef attributeNo := makeAttributeRef attributeNo .none
  fieldFromStructuredDict := fieldFromStructuredDict

/-! ## Cells -/

variable [ReportDoubles Number]

namespace CorrelativeEvaluator

variable (Number) in
/-- The cell of an F-type field. -/
def evaluateF (definition : FCorrelativeDef) (dataRecord : StructuredRecord) :
    Except String String :=
  let attrNo := definition.sourceAttributeNo
  if !dataRecord.hasAttribute attrNo then
    .error ("F-type: attribute " ++ toString attrNo ++ " missing")
  else
    let attr := dataRecord.attributeAt attrNo
    match definition.selectorKind with
    | .conversionRaw => oconvOutput Number attr.firstValue definition.tailRaw
    | .valueIndex =>
        if definition.valueIndex ≤ 0 then .error "F-type: invalid value index"
        else .ok (attr.valueAt definition.valueIndex)
    | .leftmost => .ok attr.firstValue
    | .rightmost => .ok (attr.splitValues.getLast?.getD "")

/-- The cell of an I-type field; none when it fails. -/
def evaluateI (definition : ICorrelativeDef Number) (dataRecord : StructuredRecord) :
    Option String :=
  ((IType.evaluate dataRecord definition.expression).exec "").1

/-- A cell is empty where a correlative fails. -/
def evaluateFieldCell (ref : FieldRef Number) (dataRecord : StructuredRecord) : String :=
  match ref.kind with
  | .fCorrelative =>
      (ref.fCorrelative.bind fun definition =>
        (evaluateF Number definition dataRecord).toOption).getD ""
  | .iCorrelative =>
      (ref.iCorrelative.bind fun definition => evaluateI definition dataRecord).getD ""
  | .attribute =>
      (ref.attributeNo.map fun attributeNo =>
        (dataRecord.attributeAt attributeNo).firstValue).getD ""

end CorrelativeEvaluator

open CorrelativeEvaluator

/-! ## The executor -/

/-- What a sentence is run with, beside its query. -/
structure EnglishRunOptions where
  constrainRecordIds : Option (List String) := none
  pageLength : Option ℤ := none

/-- Why a sentence has no result: the error that the executor reports, or an exception that leaves
it. -/
inductive Stop where
  | error (message : String)
  | exception (thrown : FileError)

/-- What the executor does to the world, or how it stops. -/
abbrev ExecutorM := Program World Stop

/-- What `produceRows` leaves. -/
structure Produced (Number : Type) where
  rows : List (Row Number) := []
  trailingLines : List String := []
  selectedIds : List String := []

/-- A field with its token. -/
abbrev NamedRef (Number : Type) := String × FieldRef Number

/-- The error of the first field that is not known. -/
def firstUnresolvedFieldError (refs : List (NamedRef Number)) (dataFile : String) :
    Option String :=
  (refs.find? fun named => !fieldRefIsResolved named.2).map fun named =>
    "Unknown ENGLISH field \"" ++ named.1 ++ "\" (not in " ++ scopedDictLogicalName dataFile ++
      " nor DICT)"

/-- A call of the file system, whose exceptions the executor reports. -/
def reported {Value : Type} (program : FileM Value) : ExecutorM Value := do
  match ← (caught id (fun _ world => world) program : ExecutorM (Except String Value)) with
  | .ok value => return value
  | .error what => throw (.error what)

/-- A call whose exceptions leave the executor. -/
def leaving {Value : Type} (program : Program World FileError Value) : ExecutorM Value := do
  match ← (caught id (fun _ world => world) program : ExecutorM (Except FileError Value)) with
  | .ok value => return value
  | .error thrown => throw (.exception thrown)

namespace Executor

variable (fileSystem : FileSystem)

variable (Number) in
/-- The fields of the tokens, one after the other. -/
def resolveFields (fileName : String) : List String → ExecutorM (List (NamedRef Number))
  | [] => return []
  | token :: tokens => do
      let ref ← leaving (resolveRef fileSystem (refItems Number) fileName token)
      let refs ← resolveFields fileName tokens
      return (token, ref) :: refs

variable (Number) in
/-- Fields that all have to be known. -/
def requireFields (fileName : String) (tokens : List String) :
    ExecutorM (List (NamedRef Number)) := do
  let refs ← resolveFields Number fileSystem fileName tokens
  match firstUnresolvedFieldError refs fileName with
  | some message => throw (.error message)
  | none => return refs

/-- The records of the ids. -/
def readListed (fileName : String) : List String → ExecutorM (List Listed)
  | [] => return []
  | id :: ids => do
      let rec_ ← reported (fileSystem.read fileName id)
      let listed ← readListed fileName ids
      return ⟨id, rec_.map fun record => .fromRaw record.value⟩ :: listed

/-- The ids of a query: those it is held to, or those of its file. -/
def recordIds (query : Query) (options : EnglishRunOptions) : ExecutorM (List String) :=
  match options.constrainRecordIds with
  | some ids => return ids
  | none => reported (fileSystem.listRecordNames query.fileName)

/-- What the fields of a query give for a record. -/
def rowCells (fields : List (NamedRef Number)) (breakRef totalRef : List (NamedRef Number)) :
    RowCells Number where
  materializeProjection record :=
    match record with
    | some record => fields.map fun named => evaluateFieldCell named.2 record
    | none => []
  materializeBreakKey record :=
    (record.bind fun record => breakRef.head?.map fun named =>
      evaluateFieldCell named.2 record).getD ""
  totalAddend record :=
    (totalRef.head?.bind fun named => tryParseNumeric
      ((record.map fun record => evaluateFieldCell named.2 record).getD "")).getD 0

/-- The sort key of a resolved field. -/
def sortRef (key : SortKeySpec) (ref : NamedRef Number) : SortRef where
  conversion := ref.2.conversion
  descending := key.descending
  cell := evaluateFieldCell ref.2

/-- `produceRows`: the rows of a query, with what is shown below them. -/
def produceRows (query : Query) (options : EnglishRunOptions) : ExecutorM (Produced Number) := do
  let ids ← recordIds fileSystem query options
  if query.verb = .COUNT then return { trailingLines := [toString ids.length] }
  else
    let fields ← requireFields Number fileSystem query.fileName query.fields
    let breakRef ← requireFields Number fileSystem query.fileName query.breakOnField.toList
    let totalRef ← requireFields Number fileSystem query.fileName query.totalField.toList
    if query.verb = .SELECT then
      return {
        trailingLines := [toString ids.length ++ " records selected"]
        selectedIds := ids }
    else
      let listed ← readListed fileSystem query.fileName ids
      let row := fun listed : Listed =>
        produceRow query (rowCells fields breakRef totalRef) listed.id listed.record
      if query.verb = .SORT then
        let tokens := query.sortKeys.map SortKeySpec.fieldToken
        let sortRefs ← requireFields Number fileSystem query.fileName tokens
        let order := stableSort Number (query.sortKeys.zipWith sortRef sortRefs) listed
        return { rows := order.map row, selectedIds := ids }
      else return { rows := listed.map row, selectedIds := ids }

variable (Number) in
/-- `Executor::execute`, with the context that the formatter gets unless the length of a page is
set. -/
def execute (ctx : FormatterContext) (query : Query) (options : EnglishRunOptions) :
    ExecutorM Result := do
  let produced : Produced Number ← produceRows fileSystem query options
  let ctx := { ctx with pageLength := options.pageLength.getD ctx.pageLength }
  return format query ctx produced.rows produced.trailingLines produced.selectedIds

end Executor

variable (Number) in
/-- `EnglishService::run`. -/
def EnglishService.run (fileSystem : FileSystem) (ctx : FormatterContext) (parseCtx : ParseContext)
    (execOpts : EnglishRunOptions) (tokens : List String) : ExecutorM Result :=
  match parse parseCtx tokens with
  | .error error => throw (.error error)
  | .ok query => Executor.execute Number fileSystem ctx query execOpts

end Sentences

/-! ## One resolver -/

section Resolving

variable {Ref : Type} {fileSystem : FileSystem} {items : RefItems Ref}

/-- A sentence and a program of the machine look fields up alike. -/
theorem exec_resolveFieldRec_forMachine (kept : Ref → VM.FieldRef) (dataFileName : String)
    (levels : Nat) (lookupToken : String) (world : World) :
    exec (resolveFieldRec fileSystem (items.forMachine kept) dataFileName levels lookupToken)
        world =
      Prod.map (Except.map (Option.map kept)) id
        (exec (resolveRefRec fileSystem items dataFileName levels lookupToken) world) := by
  induction levels generalizing lookupToken world with
  | zero => rfl
  | succ levels inductionHypothesis =>
      simp only [resolveFieldRec, resolveRefRec, exec_bind]
      rcases exec (ofExcept (parsePositiveInt lookupToken)) world with ⟨error | number, afterNumber⟩
      · rfl
      cases number with
      | some attributeNo => rfl
      | none =>
          dsimp only
          rw [exec_bind, exec_bind]
          rcases exec (readScoped fileSystem dataFileName lookupToken) afterNumber with
            ⟨error | ownItem, afterOwn⟩
          · rfl
          dsimp only
          rw [exec_bind, exec_bind]
          rcases exec (tryReadDictRecord fileSystem "DICT" lookupToken) afterOwn with
            ⟨error | commonItem, afterCommon⟩
          · rfl
          dsimp only
          cases ownItem <|> commonItem with
          | none => rfl
          | some chosen =>
              dsimp only
              split
              · split
                · rfl
                · exact inductionHypothesis _ _
              · simp only [RefItems.forMachine, exec_bind]
                rcases items.fieldFromStructuredDict (.fromRaw chosen.value) with
                  _ | _ | field <;> rfl

/-- The machine resolves a field as ENGLISH does. -/
theorem exec_resolveField_forMachine (kept : Ref → VM.FieldRef) (dataFileName token : String)
    (world : World) :
    exec (resolveField fileSystem (items.forMachine kept) dataFileName token) world =
      Prod.map (Except.map kept) id
        (exec (resolveRef fileSystem items dataFileName token) world) := by
  simp only [resolveField, resolveRef, exec_bind, exec_resolveFieldRec_forMachine]
  rcases exec (resolveRefRec fileSystem items dataFileName 17 token) world with
    ⟨_ | _ | field, after⟩ <;> rfl

/-- A field that only says that it is there. -/
def noField : VM.FieldRef := (makeUnresolvedRef : FieldRef ℕ).forMachine fun _ _ => .ok ""

/-- Resolving a field keeps the files. -/
theorem keeps_resolveRef {holds : World → Prop} (steady : PickFS.Steady holds)
    (dataFileName token : String) :
    Keeps holds (resolveRef fileSystem items dataFileName token) := by
  refine keeps_iff.mpr fun world before => ?_
  have kept := (@keeps_resolveField fileSystem (items.forMachine fun _ => noField) holds steady
    dataFileName token).after before
  rwa [exec_resolveField_forMachine] at kept

end Resolving

/-! ## A sentence only reads -/

section Reading

variable {holds : World → Prop} (steady : PickFS.Steady holds)

/-- A reported call keeps what the operation keeps. -/
theorem keeps_reported {Value : Type} {program : FileM Value} (keeps : Keeps holds program) :
    Keeps holds (reported program) := by
  refine Ensures.bind (keeps.caught fun _ _ => rfl) fun outcome => ?_
  cases outcome with
  | ok value => exact Ensures.pure fun _ before => before
  | error what => exact Ensures.throw fun _ before => before

/-- So does a call whose exceptions leave the executor. -/
theorem keeps_leaving {Value : Type} {program : Program World FileError Value}
    (keeps : Keeps holds program) : Keeps holds (leaving program) := by
  refine Ensures.bind (keeps.caught fun _ _ => rfl) fun outcome => ?_
  cases outcome with
  | ok value => exact Ensures.pure fun _ before => before
  | error thrown => exact Ensures.throw fun _ before => before

namespace Executor

variable {Number : Type} [LinearOrder Number] [IType.Literals Number] {fileSystem : FileSystem}

include steady

/-- Listing the records keeps the files. -/
theorem keeps_listRecordNames (fileName : String) :
    Keeps holds (fileSystem.listRecordNames fileName) := by
  refine ((PickFS.openFile_ensures steady fileName).weakenPost fun _ _ => And.left).bind
    fun handle => ?_
  exact (PickFS.inspect_keeps steady _ _).bind fun _ => Ensures.pure fun _ before => before

/-- So does asking for the ids. -/
theorem keeps_recordIds (query : Query) (options : EnglishRunOptions) :
    Keeps holds (recordIds fileSystem query options) := by
  unfold recordIds
  split
  · exact Ensures.pure fun _ before => before
  · exact keeps_reported (keeps_listRecordNames steady _)

/-- So does resolving fields. -/
theorem keeps_resolveFields (fileName : String) (tokens : List String) :
    Keeps holds (resolveFields Number fileSystem fileName tokens) := by
  induction tokens with
  | nil => exact Ensures.pure fun _ before => before
  | cons token tokens inductionHypothesis =>
      refine Ensures.bind (keeps_leaving (keeps_resolveRef steady _ _)) fun ref => ?_
      exact Ensures.bind inductionHypothesis fun _ => Ensures.pure fun _ before => before

/-- So does requiring them. -/
theorem keeps_requireFields (fileName : String) (tokens : List String) :
    Keeps holds (requireFields Number fileSystem fileName tokens) := by
  refine Ensures.bind (keeps_resolveFields steady _ _) fun refs => ?_
  split
  · exact Ensures.throw fun _ before => before
  · exact Ensures.pure fun _ before => before

/-- So does reading the records of a list. -/
theorem keeps_readListed (fileName : String) (ids : List String) :
    Keeps holds (readListed fileSystem fileName ids) := by
  induction ids with
  | nil => exact Ensures.pure fun _ before => before
  | cons id ids inductionHypothesis =>
      refine Ensures.bind (keeps_reported
        ((PickFS.read_ensures steady fileName id).weakenPost fun _ _ => And.left)) fun record => ?_
      exact Ensures.bind inductionHypothesis fun _ => Ensures.pure fun _ before => before

/-- Whatever a sentence asks for and however it ends, it changes nothing. -/
theorem keeps_produceRows [ReportDoubles Number] (query : Query) (options : EnglishRunOptions) :
    Keeps holds (produceRows fileSystem query options : ExecutorM (Produced Number)) := by
  refine Ensures.bind (keeps_recordIds steady _ _) fun ids => ?_
  split
  · exact Ensures.pure fun _ before => before
  · refine Ensures.bind (keeps_requireFields steady _ _) fun fields => ?_
    refine Ensures.bind (keeps_requireFields steady _ _) fun breakRef => ?_
    refine Ensures.bind (keeps_requireFields steady _ _) fun totalRef => ?_
    split
    · exact Ensures.pure fun _ before => before
    · refine Ensures.bind (keeps_readListed steady _ _) fun listed => ?_
      split
      · exact Ensures.bind (keeps_requireFields steady _ _) fun sortRefs =>
          Ensures.pure fun _ before => before
      · exact Ensures.pure fun _ before => before

end Executor

end Reading

end Gemini.English
