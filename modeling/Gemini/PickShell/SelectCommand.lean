import Gemini.English.Formatter
import Gemini.English.RoundTrip

/-!
# The SELECT command

`Shell::cmdSelect` runs a query and keeps the ids it selects as the session's active list,
with the token after the verb as the file they come from. That token is the file of the query
when no clause stands before it.

The executor of queries is a parameter: what is said here is true of every one.
-/

namespace Gemini.PickShell

open Gemini.English

/-- `EnglishService::run`, whose planner passes the query on. -/
def runEnglish (execute : Query → Except String Result) (ctx : ParseContext)
    (tokens : List String) : Except String Result := do
  let query ← parse ctx tokens
  execute query

/-- The active list of a session, as `GeminiSession` keeps it. -/
structure ActiveList where
  activeList : List String := []
  activeListSourceFile : Option String := none

/-- `setActiveList`. -/
def ActiveList.setActiveList (list : ActiveList) (ids : List String) (sourceFile : String) :
    ActiveList :=
  { list with activeList := ids, activeListSourceFile := some sourceFile }

/-- The ids of a list that has been set. -/
@[simp]
theorem ActiveList.activeList_setActiveList (list : ActiveList) (ids : List String)
    (sourceFile : String) : (list.setActiveList ids sourceFile).activeList = ids :=
  rfl

/-- The file of a list that has been set. -/
@[simp]
theorem ActiveList.sourceFile_setActiveList (list : ActiveList) (ids : List String)
    (sourceFile : String) :
    (list.setActiveList ids sourceFile).activeListSourceFile = some sourceFile :=
  rfl

/-- A result as the shell writes it out. -/
def shown : Except String Result → String
  | .ok result => String.join (result.lines.map fun line => line ++ "\n")
  | .error message => "Error: " ++ message ++ "\n"

/-- `Shell::cmdSelect` on the ENGLISH service of the session, with the list that it leaves. -/
def cmdSelect {m : Type → Type} [Monad m] (service : List String → m (Except String Result))
    (tokens : List String) (list : ActiveList) : m (String × ActiveList) :=
  match tokens with
  | _ :: second :: _ => do
      match ← service tokens with
      | .error message => return (shown (.error message), list)
      | .ok result =>
          return (shown (.ok result), list.setActiveList result.selectedIds second)
  | _ => return ("SELECT requires a filename\n", list)

/-- The list after a `SELECT` on a service that answers at once. -/
def listAfter (service : List String → Except String Result) (tokens : List String)
    (list : ActiveList) : ActiveList :=
  (Id.run (cmdSelect (fun tokens => pure (service tokens)) tokens list)).2

/-- A run of the query leaves the active list with the ids and the file of the query. -/
def RecordsList (query : Query) (tokens : List String) : Prop :=
  ∀ execute result list, execute query = .ok result →
    listAfter (runEnglish execute {}) tokens list =
      list.setActiveList result.selectedIds query.fileName

/-- The first piece is the file name, not a clause. -/
def FileFirst (pieces : List Piece) : Prop := (pieces.head?.bind Piece.word?).isSome = true

variable {query : Query} {withBody : Option (List String)} {pieces : List Piece}

/-- A sentence that is answered leaves its ids and its second word. -/
theorem listAfter_of_ok {service : List String → Except String Result} {result : Result}
    {verb second : String} {rest : List String} (list : ActiveList)
    (answers : service (verb :: second :: rest) = .ok result) :
    listAfter service (verb :: second :: rest) list =
      list.setActiveList result.selectedIds second := by
  simp only [listAfter, cmdSelect, answers]
  rfl

/-- So does a query that is parsed and executed. -/
theorem listAfter_of_parsed {tokens rest : List String} {verb second : String}
    (spelled : tokens = verb :: second :: rest) (parsed : parse {} tokens = .ok query)
    {execute : Query → Except String Result} {result : Result} (list : ActiveList)
    (executed : execute query = .ok result) :
    listAfter (runEnglish execute {}) tokens list =
      list.setActiveList result.selectedIds second := by
  subst spelled
  apply listAfter_of_ok
  rw [runEnglish, parsed]
  exact executed

/-- The file is recorded exactly when its name stands right after the verb. -/
theorem recordsList_iff (renders : Renders query withBody pieces)
    (renderable : Renderable query withBody)
    (parsed : parse {} (rendered query pieces) = .ok query) :
    RecordsList query (rendered query pieces) ↔ FileFirst pieces := by
  have words := renders.words
  cases pieces with
  | nil => cases words
  | cons piece rest =>
      cases piece with
      | word token =>
          obtain ⟨rfl, -⟩ := List.cons.inj words
          refine iff_of_true (fun execute result list executed => ?_) rfl
          exact listAfter_of_parsed rfl parsed list executed
      | clause inserted =>
          refine iff_of_false (fun records => ?_) nofun
          have recorded := records (fun _ => .ok ⟨[], []⟩) ⟨[], []⟩ {} rfl
          have kept := @listAfter_of_parsed query (rendered query (.clause inserted :: rest)) _ _ _
            rfl parsed (fun _ => .ok ⟨[], []⟩) ⟨[], []⟩ {} rfl
          -- A keyword is recorded in place of the file name, which is none.
          have keyword : inserted.kind.keyword = query.fileName :=
            Option.some.inj (congrArg ActiveList.activeListSourceFile (kept.symm.trans recorded))
          have notKeyword := clauseKindOf_of_plain renderable.fileName
          rw [← keyword, clauseKindOf_keyword] at notKeyword
          cases notKeyword

/-- A query comes back from its tokens, and a `SELECT` records its file, exactly when no
argument of a clause is a keyword, no name is empty, the first sort key is ascending, and the
file name of a `SELECT` stands right after the verb. -/
theorem rendered_returns_iff (query : Query) (withBody : Option (List String))
    (pieces : List Piece) (renders : Renders query withBody pieces)
    (renderable : Renderable query withBody) :
    (parse {} (rendered query pieces) = .ok query ∧
      (query.verb = .SELECT → RecordsList query (rendered query pieces))) ↔
      Returnable query ∧ (query.verb = .SELECT → FileFirst pieces) := by
  rw [← renders.parse_iff renderable]
  refine and_congr_right fun parsed => ?_
  rw [recordsList_iff renders renderable parsed]

/-- `SELECT DATA NAME HEADING "CITIES"`. -/
def selectNames : Query where
  heading := some "CITIES"
  verb := .SELECT
  fileName := "DATA"
  fields := ["NAME"]

/-- The pieces of this sentence. -/
def selectNamesPieces : List Piece :=
  [.word "DATA", .word "NAME", .clause (.heading "CITIES")]

/-- They are a sentence of the query. -/
theorem renders_selectNames : Renders selectNames none selectNamesPieces where
  words := rfl
  clauses := .refl _

/-- The query has one. -/
theorem renderable_selectNames : Renderable selectNames none where
  fileName := by decide
  fields := by decide
  withBody := nofun
  sortKeys := by decide
  sorted _ := rfl

/-- The query comes back from its tokens, and its file is recorded. -/
theorem selectNames_returns :
    parse {} ["SELECT", "DATA", "NAME", "HEADING", "CITIES"] = .ok selectNames ∧
      RecordsList selectNames ["SELECT", "DATA", "NAME", "HEADING", "CITIES"] := by
  have returnable : Returnable selectNames := by
    refine ⟨?_, by decide, nofun, nofun⟩
    intro clause member
    rw [List.mem_singleton.mp member]
    rintro argument ⟨⟩
    decide
  have returns := (rendered_returns_iff selectNames none selectNamesPieces renders_selectNames
    renderable_selectNames).mpr ⟨returnable, fun _ => rfl⟩
  exact ⟨returns.1, returns.2 rfl⟩

/-- `SORT DATA BY-DSND CITY` -/
def sortDescending : Query where
  verb := .SORT
  fileName := "DATA"
  sortKeys := [{ fieldToken := "CITY", descending := true }]

/-- A first key that descends is taken for fields, and a clause before the file name for the
file. -/
theorem descending_key_and_early_clause :
    parse {} ["SORT", "DATA", "BY-DSND", "CITY"] ≠ .ok sortDescending ∧
      ¬ RecordsList selectNames ["SELECT", "HEADING", "CITIES", "DATA", "NAME"] := by
  constructor
  · intro parsed
    cases parsed
  · intro records
    have recorded : some "HEADING" = some "DATA" :=
      congrArg ActiveList.activeListSourceFile (records (fun _ => .ok ⟨[], []⟩) ⟨[], []⟩ {} rfl)
    exact absurd recorded (by decide)

end Gemini.PickShell
