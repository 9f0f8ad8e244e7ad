import Gemini.VM.Machine
import Gemini.PickFS.Changes

/-!
# The fields of a dictionary

`DictionaryResolver::resolveField` looks a field up in the dictionary of a file and then in the
common one, and follows synonyms. What the item of a field says is read by `FieldItems`; the
resolver itself only reads records, and so keeps what the reading of a file keeps.
-/

namespace Gemini.English

open Gemini.Semantics Program
open Gemini.PickFS (World FileSystem FileM Record StructuredRecord)
open Gemini.VM (FieldRef FileError stoi)

/-- A call of the file system among code that throws other exceptions too. -/
def fileCall {Value : Type} (program : FileM Value) : Program World FileError Value := do
  match ← (Program.caught id (fun _ world => world) program :
      Program World FileError (Except String Value)) with
  | .ok value => return value
  | .error what => throw (.fileSystem what)

/-- A call of the file system, with its exceptions. -/
theorem exec_fileCall {Value : Type} (program : FileM Value) (world : World) :
    exec (fileCall program) world =
      ((exec program world).1.mapError .fileSystem, (exec program world).2) := by
  rw [fileCall, exec_bind, exec_caught, id]
  rcases exec program world with ⟨_ | _, after⟩ <;> rfl

/-- A call keeps what the operation keeps. -/
theorem keeps_fileCall {Value : Type} {program : FileM Value} {holds : World → Prop}
    (keeps : Keeps holds program) : Keeps holds (fileCall program) := by
  refine Ensures.bind (keeps.caught fun _ _ => rfl) fun outcome => ?_
  split
  · exact Ensures.pure fun _ before => before
  · exact Ensures.throw fun _ before => before

/-- What the items of a dictionary mean: a field of an attribute, and the field that an item
describes. -/
structure FieldItems where
  makeAttributeRef : Option Int → FieldRef
  fieldFromStructuredDict : StructuredRecord → Except FileError (Option FieldRef)

/-- `parsePositiveInt`; the number of too many digits is an exception of `stoi`. -/
def parsePositiveInt (text : String) : Except FileError (Option Int) :=
  if text = "" || !text.toList.all Char.isDigit then .ok none
  else
    match stoi text.toList with
    | none => .error (.other "stoi")
    | some (number, _) => .ok (if number ≤ 0 then none else some number)

section Resolver

variable (fileSystem : FileSystem) (items : FieldItems)

/-- The record of a token; an exception counts as none. -/
def tryReadDictRecord (dictLogicalFile token : String) :
    Program World FileError (Option Record) :=
  tryCatch (fileCall (fileSystem.read dictLogicalFile token)) fun _ => return none

/-- Whether a file can be opened. -/
def logicalFileExists (logicalName : String) : Program World FileError Bool :=
  tryCatch (do
    let _ ← fileCall (fileSystem.openFile logicalName)
    return true) fun _ => return false

/-- The dictionary of a file. -/
def scopedDictLogicalName (dataFileName : String) : String := "DICT-" ++ dataFileName

/-- The item of a token in the dictionary of the file, if there is one. -/
def readScoped (dataFileName lookupToken : String) :
    Program World FileError (Option Record) := do
  if dataFileName = "" then return none
  else if ← logicalFileExists fileSystem (scopedDictLogicalName dataFileName) then
    tryReadDictRecord fileSystem (scopedDictLogicalName dataFileName) lookupToken
  else return none

/-- `resolveFieldRec`, with the number of synonyms that it may still follow. -/
def resolveFieldRec (dataFileName : String) : Nat → String →
    Program World FileError (Option FieldRef)
  | 0, _ => return none
  | levels + 1, lookupToken => do
      match ← ofExcept (parsePositiveInt lookupToken) with
      | some attributeNo => return some (items.makeAttributeRef (some attributeNo))
      | none =>
          let ownItem ← readScoped fileSystem dataFileName lookupToken
          let commonItem ← tryReadDictRecord fileSystem "DICT" lookupToken
          match ownItem <|> commonItem with
          | none => return none
          | some chosen =>
              let structured := StructuredRecord.fromRaw chosen.value
              let type := (structured.attributeAt 1).valueAt 1
              if type = "S" ∨ type = "s" then
                let target := (structured.attributeAt 2).valueAt 1
                if target = "" then return some (items.makeAttributeRef none)
                else resolveFieldRec dataFileName levels target
              else
                let field ← ofExcept (items.fieldFromStructuredDict structured)
                return some (field.getD (items.makeAttributeRef none))

/-- `resolveField`; a field that is not found is unresolved. -/
def resolveField (dataFileName token : String) : Program World FileError FieldRef := do
  let found ← resolveFieldRec fileSystem items dataFileName 17 token
  return found.getD (items.makeAttributeRef none)

end Resolver

/-! ## Reading only -/

section Frame

variable {fileSystem : FileSystem} {items : FieldItems} {holds : World → Prop}
  (steady : PickFS.Steady holds)

theorem keeps_ofExcept {Value : Type} (outcome : Except FileError Value) :
    Keeps holds (ofExcept outcome : Program World FileError Value) := by
  cases outcome with
  | ok value => exact Ensures.pure fun _ before => before
  | error error => exact Ensures.throw fun _ before => before

include steady

/-- Reading an item keeps the files. -/
theorem keeps_tryReadDictRecord (dictLogicalFile token : String) :
    Keeps holds (tryReadDictRecord fileSystem dictLogicalFile token) :=
  Keeps.tryCatch (keeps_fileCall
    ((PickFS.read_ensures steady dictLogicalFile token).weakenPost fun _ _ => And.left)) fun _ =>
    Ensures.pure fun _ before => before

/-- Asking for a file keeps the files. -/
theorem keeps_logicalFileExists (logicalName : String) :
    Keeps holds (logicalFileExists fileSystem logicalName) := by
  refine Keeps.tryCatch (Ensures.bind (keeps_fileCall
    ((PickFS.openFile_ensures steady logicalName).weakenPost fun _ _ => And.left)) fun _ => ?_)
    fun _ => ?_
  · exact Ensures.pure fun _ before => before
  · exact Ensures.pure fun _ before => before

/-- Reading in a dictionary keeps the files. -/
theorem keeps_readScoped (dataFileName lookupToken : String) :
    Keeps holds (readScoped fileSystem dataFileName lookupToken) := by
  unfold readScoped
  split
  · exact Ensures.pure fun _ before => before
  · refine Ensures.bind (keeps_logicalFileExists steady _) fun isThere => ?_
    split
    · exact keeps_tryReadDictRecord steady _ _
    · exact Ensures.pure fun _ before => before

/-- Resolving a field keeps the files, at each level of synonyms. -/
theorem keeps_resolveFieldRec (dataFileName : String) (levels : Nat) (lookupToken : String) :
    Keeps holds (resolveFieldRec fileSystem items dataFileName levels lookupToken) := by
  induction levels generalizing lookupToken with
  | zero => exact Ensures.pure fun _ before => before
  | succ levels inductionHypothesis =>
      refine Ensures.bind (keeps_ofExcept _) fun number => ?_
      split
      · exact Ensures.pure fun _ before => before
      · refine Ensures.bind (keeps_readScoped steady _ _) fun ownItem => ?_
        refine Ensures.bind (keeps_tryReadDictRecord steady _ _) fun commonItem => ?_
        split
        · exact Ensures.pure fun _ before => before
        · dsimp only
          split
          · split
            · exact Ensures.pure fun _ before => before
            · exact inductionHypothesis _
          · exact Ensures.bind (keeps_ofExcept _) fun _ => Ensures.pure fun _ before => before

/-- A field is resolved without a change of any file. -/
theorem keeps_resolveField (dataFileName token : String) :
    Keeps holds (resolveField fileSystem items dataFileName token) :=
  Ensures.bind (keeps_resolveFieldRec steady dataFileName 17 token) fun _ =>
    Ensures.pure fun _ before => before

end Frame

end Gemini.English
