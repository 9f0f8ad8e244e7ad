import Gemini.English.Verbs
import Gemini.PickShell.SelectCommand

/-!
# Sentences at the prompt

`LIST`, `COUNT`, `SORT` and `SELECT` of the shell. `SELECT` leaves an active list, and a sentence
without a file is about the list. While nothing has changed, such a sentence says what it says with
the name of the file in it.
-/

namespace Gemini.PickShell

open Gemini.Data (bind_eq_ok)
open Gemini.English
open Gemini.PickFS (World FileSystem steady_same)
open Gemini.Semantics Program
open Gemini.VM (FileError)

/-- What a session keeps for its sentences. -/
structure EnglishSession extends ActiveList where
  fileSystem : FileSystem
  reportPageLength : ℤ := 24
  /-- The clock of the formatter. -/
  context : FormatterContext := {}

/-- A word after the verb is one of the keywords `WITH`, `BY` and `BY-DSND`. -/
def hasEnglishClauseKeywords (tokens : List String) : Bool :=
  tokens.tail.any fun token => isWith token || isBy token || isByDsnd token

namespace EnglishSession

variable (session : EnglishSession)

/-- There is an active list with records in it. -/
def activeListReady : Bool :=
  !session.activeList.isEmpty && session.activeListSourceFile.isSome

/-- Whether the records of a file can be listed; every error counts as no. -/
def logicalPickFileExists (name : String) : Program World FileError Bool :=
  tryCatch (do
    let _ ← fileCall (session.fileSystem.listRecordNames name)
    return true) fun _ => return false

/-- Whether a sentence names no file. -/
def wantImplicit : List String → Program World FileError Bool
  | [] => return false
  | [verb] => return ieq verb "COUNT"
  | verb :: second :: rest =>
      if ieq verb "LIST" || ieq verb "SORT" then
        if !rest.isEmpty && (isBy second || isWith second) then return true
        else if rest.isEmpty then do
          return !(← session.logicalPickFileExists second)
        else return false
      else return false

/-- The contexts of a sentence, or an error when it is about an active list that is not there. -/
def englishImplicitSetup (tokens : List String) :
    Program World FileError (Except String (ParseContext × EnglishRunOptions)) := do
  let options : EnglishRunOptions := { pageLength := some session.reportPageLength }
  if !(← session.wantImplicit tokens) then return .ok ({}, options)
  else if !session.activeListReady then
    return .error "No active list for implicit ENGLISH scope"
  else
    return .ok (
      { implicitFile := true, imposedFileName := session.activeListSourceFile },
      { options with constrainRecordIds := some session.activeList })

/-- Whether a `LIST` is a sentence of ENGLISH. -/
def shellIsEnglishList (tokens : List String) : Program World FileError Bool :=
  if hasEnglishClauseKeywords tokens || 3 ≤ tokens.length then return true
  else
    match tokens with
    | [_, second] => do return !(← session.logicalPickFileExists second) && session.activeListReady
    | _ => return false

/-- Whether a `COUNT` is one. -/
def shellIsEnglishCount (tokens : List String) : Bool :=
  2 ≤ tokens.length || session.activeListReady

/-- Whether a `SORT` is one. -/
def shellIsEnglishSort (tokens : List String) : Program World FileError Bool :=
  if hasEnglishClauseKeywords tokens || 3 ≤ tokens.length then return true
  else
    match tokens with
    | [_, second] => do return (← session.logicalPickFileExists second) || session.activeListReady
    | _ => return false

section Commands

variable (Number : Type) [LinearOrder Number] [IType.Literals Number] [ReportDoubles Number]

/-- A sentence as the shell runs it: its result, or the error that is shown. -/
def run (parseCtx : ParseContext) (execOpts : EnglishRunOptions) (tokens : List String) :
    Program World FileError (Except String Result) := do
  let sentence := EnglishService.run Number session.fileSystem session.context parseCtx execOpts
    tokens
  match ← (caught id (fun _ world => world) sentence :
      Program World FileError (Except Stop Result)) with
  | .ok result => return .ok result
  | .error (.error message) => return .error message
  | .error (.exception thrown) => throw thrown

/-- What `cmdList`, `cmdCount` and `cmdSort` have in common. -/
def sentence (tokens : List String) : Program World FileError String := do
  match ← session.englishImplicitSetup tokens with
  | .error message => return shown (.error message)
  | .ok (parseCtx, execOpts) => return shown (← session.run Number parseCtx execOpts tokens)

/-- The list of the records of a file. -/
def listRecords (tokens : List String) : Program World FileError String :=
  match tokens with
  | [_, fileName] =>
      tryCatch (do
        let names ← fileCall (session.fileSystem.listRecordNames fileName)
        if names.isEmpty then return "No records\n"
        else return "Records:\n" ++ String.join (names.map fun name => "  " ++ name ++ "\n"))
        fun error => return "Error: " ++ error.what ++ "\n"
  | _ => return "LIST requires a filename\n"

/-- `cmdList`: a sentence, or the record ids of a file. -/
def cmdList (tokens : List String) : Program World FileError String := do
  if ← session.shellIsEnglishList tokens then session.sentence Number tokens
  else session.listRecords tokens

/-- `cmdCount`. -/
def cmdCount (tokens : List String) : Program World FileError String :=
  if session.shellIsEnglishCount tokens then session.sentence Number tokens
  else return "COUNT requires a filename or active-list scope\n"

/-- `cmdSort`. -/
def cmdSort (tokens : List String) : Program World FileError String := do
  if ← session.shellIsEnglishSort tokens then session.sentence Number tokens
  else return "SORT: ENGLISH syntax not detected; legacy Tcl SORT is not implemented\n"

/-- The session with the active list that a result gives. -/
def selecting (result : Result) (fileName : String) : EnglishSession :=
  { session with toActiveList := session.setActiveList result.selectedIds fileName }

/-- `cmdSelect`, with the session that it leaves. -/
def cmdSelect (tokens : List String) : Program World FileError (String × EnglishSession) := do
  let execOpts : EnglishRunOptions := { pageLength := some session.reportPageLength }
  let (text, list) ←
    PickShell.cmdSelect (session.run Number {} execOpts) tokens session.toActiveList
  return (text, { session with toActiveList := list })

/-- A command by its verb. -/
def command (verb : Verb) (tokens : List String) : Program World FileError String :=
  match verb with
  | .LIST => session.cmdList Number tokens
  | .COUNT => session.cmdCount Number tokens
  | .SORT => session.cmdSort Number tokens
  | .SELECT => return (← session.cmdSelect Number tokens).1

end Commands

end EnglishSession

/-! ## Sentences with and without a file -/

section Parsing

variable {fileName word : String} {rest : List String}

/-- What a verb in any case is compared with, its keyword is compared with alike. -/
theorem ieq_of_verb {verb : Verb} (isVerb : ieq word verb.keyword = true) (other : String) :
    ieq word other = ieq verb.keyword other := by
  have lower := of_decide_eq_true isVerb
  unfold ieq
  rw [lower]

/-- The keyword of a verb is read as the verb. -/
theorem verbFrom_of_ieq {verb : Verb} (isVerb : ieq word verb.keyword = true) :
    verbFrom word = some verb := by
  rw [← verbFrom_keyword verb]
  unfold verbFrom
  simp only [ieq_of_verb isVerb]

/-- The fields and clauses of a sentence do not decide its verb and file. -/
theorem of_parseFields {verb : Verb} {clauses : Clauses} {query : Query}
    (parsed : parseFields verb clauses fileName rest = .ok query) :
    query.fileName = fileName ∧ query.verb = verb := by
  unfold parseFields at parsed
  dsimp only at parsed
  split at parsed
  · cases parsed
  · split at parsed
    · cases parsed
      exact ⟨rfl, rfl⟩
    · obtain ⟨sortKeys, -, parsed⟩ := bind_eq_ok.mp parsed
      cases parsed
      exact ⟨rfl, rfl⟩

/-- The name of a file stays when the clauses are taken out. -/
theorem stripClauses_fileName (plain : isStructuralKeyword fileName = false) :
    stripClauses {} (fileName :: rest) = (do
      let (tokens, clauses) ← stripClauses {} rest
      return (fileName :: tokens, clauses)) := by
  rw [stripClauses, clauseKindOf_of_plain plain]

/-- A sentence whose second word is no keyword is about the file of that name. -/
theorem parse_fileName (plain : isStructuralKeyword fileName = false) (named : fileName ≠ "") :
    parse {} (word :: fileName :: rest) =
      match verbFrom word with
      | none => .error "Unsupported ENGLISH verb"
      | some verb => (do
          let (tokens, clauses) ← stripClauses {} rest
          parseFields verb clauses fileName tokens) := by
  rw [parse]
  cases verbFrom word with
  | none => rfl
  | some verb =>
      dsimp only
      rw [stripClauses_fileName plain]
      cases stripClauses {} rest with
      | error error => rfl
      | ok stripped =>
          have whole (tokens : List String) (clauses : Clauses) :
              parseStripped {} verb clauses (fileName :: tokens) =
                parseFields verb clauses fileName tokens := by
            unfold parseStripped
            rw [if_neg (by simp), if_neg (by simp)]
            exact if_neg named
          exact whole stripped.1 stripped.2

/-- A file that is named is the file of the query. -/
theorem of_parse_fileName (plain : isStructuralKeyword fileName = false) (named : fileName ≠ "")
    {query : Query} (parsed : parse {} (word :: fileName :: rest) = .ok query) :
    query.fileName = fileName ∧ verbFrom word = some query.verb := by
  rw [parse_fileName plain named] at parsed
  cases isVerb : verbFrom word with
  | none =>
      rw [isVerb] at parsed
      cases parsed
  | some verb =>
      rw [isVerb] at parsed
      obtain ⟨stripped, -, parsed⟩ := bind_eq_ok.mp parsed
      obtain ⟨sameFile, rfl⟩ := of_parseFields parsed
      exact ⟨sameFile, rfl⟩

/-- A sentence on an active list is parsed like the one with the name of its file. -/
theorem parse_implicit (plain : isStructuralKeyword fileName = false) (named : fileName ≠ "") :
    parse { implicitFile := true, imposedFileName := some fileName } (word :: rest) =
      parse {} (word :: fileName :: rest) := by
  rw [parse_fileName plain named, parse]
  cases verbFrom word with
  | none => rfl
  | some verb =>
      refine congrArg (stripClauses {} rest >>= ·) (funext fun stripped => ?_)
      have imposed : ParseContext.imposedFile
          { implicitFile := true, imposedFileName := some fileName } = some fileName := by
        simp [ParseContext.imposedFile, named]
      obtain ⟨tokens, clauses⟩ := stripped
      dsimp only
      unfold parseStripped
      rw [imposed]
      by_cases counts : verb = .COUNT ∧ tokens = []
      · obtain ⟨rfl, rfl⟩ := counts
        rfl
      · rw [if_neg counts, if_pos rfl]

end Parsing

/-! ## Sentences on an active list -/

section Active

variable {Number : Type} [LinearOrder Number] [IType.Literals Number] [ReportDoubles Number]
  {session : EnglishSession} {world : World} {fileName : String}

namespace EnglishSession

/-- Two sentences that are parsed alike and have the same ids do the same. -/
theorem exec_run_congr {parseCtx otherCtx : ParseContext} {execOpts otherOpts : EnglishRunOptions}
    {tokens others : List String} (parsed : parse parseCtx tokens = parse otherCtx others)
    (page : execOpts.pageLength = otherOpts.pageLength)
    (ids : ∀ query, parse parseCtx tokens = .ok query →
      exec (Executor.recordIds session.fileSystem query execOpts) world =
        exec (Executor.recordIds session.fileSystem query otherOpts) world) :
    exec (session.run Number parseCtx execOpts tokens) world =
      exec (session.run Number otherCtx otherOpts others) world := by
  have sentences :
      exec (EnglishService.run Number session.fileSystem session.context parseCtx execOpts tokens)
          world =
        exec (EnglishService.run Number session.fileSystem session.context otherCtx otherOpts
            others)
          world := by
    unfold EnglishService.run
    rw [← parsed]
    cases query : parse parseCtx tokens with
    | error error => rfl
    | ok query =>
        dsimp only
        unfold Executor.execute Executor.produceRows
        simp only [exec_bind, ids _ query, page]
  unfold run
  rw [exec_bind, exec_bind, exec_caught, exec_caught, id, sentences]

/-- `SELECT` of a file has succeeded. -/
structure Selects (Number : Type) [LinearOrder Number] [IType.Literals Number]
    [ReportDoubles Number] (session : EnglishSession) (world : World) (fileName : String)
    (result : Result) : Prop where
  plain : isStructuralKeyword fileName = false
  named : fileName ≠ ""
  ran : ∃ word fields after, ieq word "SELECT" = true ∧
    exec (session.run Number {} { pageLength := some session.reportPageLength }
      (word :: fileName :: fields)) world = (.ok (.ok result), after)

/-- A result that the shell shows is the outcome of the sentence. -/
theorem outcome_of_run {parseCtx : ParseContext} {execOpts : EnglishRunOptions}
    {tokens : List String} {result : Result} {after : World}
    (ran : exec (session.run Number parseCtx execOpts tokens) world = (.ok (.ok result), after)) :
    outcome (EnglishService.run Number session.fileSystem session.context parseCtx execOpts tokens)
      world = .ok result := by
  unfold run at ran
  rw [exec_bind, exec_caught, id] at ran
  unfold outcome
  cases done : (exec (EnglishService.run Number session.fileSystem session.context parseCtx execOpts
      tokens) world).1 with
  | ok other =>
      rw [done] at ran
      cases ran
      rfl
  | error stop =>
      rw [done] at ran
      cases stop <;> cases ran

/-- The session that a `SELECT` of a file leaves. -/
theorem Selects.exec_cmdSelect {result : Result}
    (selects : Selects Number session world fileName result) :
    ∃ word fields after, ieq word "SELECT" = true ∧
      exec (session.cmdSelect Number (word :: fileName :: fields)) world =
        (.ok (shown (.ok result), session.selecting result fileName), after) := by
  obtain ⟨word, fields, after, isSelect, ran⟩ := selects.ran
  refine ⟨word, fields, after, isSelect, ?_⟩
  unfold cmdSelect PickShell.cmdSelect
  rw [exec_bind, exec_bind, ran]
  rfl

/-- The ids that are selected are those of the file. -/
theorem Selects.recordIds (faithful : world.faults = []) {result : Result}
    (selects : Selects Number session world fileName result) {query : Query}
    (ofFile : query.fileName = fileName) (pageLength : Option ℤ) :
    exec (Executor.recordIds session.fileSystem query { pageLength }) world =
      (.ok result.selectedIds, world) := by
  have steady := steady_same faithful
  obtain ⟨word, fields, after, isSelect, ran⟩ := selects.ran
  have done := outcome_of_run ran
  unfold EnglishService.run at done
  cases parsed : parse {} (word :: fileName :: fields) with
  | error error =>
      rw [parsed] at done
      cases done
  | ok asked =>
      obtain ⟨sameFile, isVerb⟩ := of_parse_fileName selects.plain selects.named parsed
      rw [@verbFrom_of_ieq _ .SELECT isSelect, Option.some.injEq] at isVerb
      rw [parsed] at done
      dsimp only at done
      rw [Executor.execute, outcome_bind (Executor.keeps_produceRows steady _ _)] at done
      obtain ⟨selected, isSelected, done⟩ := bind_eq_ok.mp done
      have underSelect : Executor.under session.fileSystem world asked
          { pageLength := some session.reportPageLength } .SELECT = .ok selected := by
        rw [Executor.under, isVerb]
        exact isSelected
      have ids := Executor.recordIds_of_select faithful underSelect
      cases done
      rw [exec_of_keeps (Executor.keeps_recordIds steady _ _)]
      have same : Executor.recordIds session.fileSystem query { pageLength } =
          Executor.recordIds session.fileSystem asked
            { pageLength := some session.reportPageLength } := by
        unfold Executor.recordIds
        rw [ofFile, sameFile]
      rw [same, ids]
      rfl

/-- To ask whether a file exists changes nothing. -/
theorem keeps_logicalPickFileExists {holds : World → Prop} (steady : PickFS.Steady holds)
    (name : String) : Keeps holds (session.logicalPickFileExists name) :=
  Keeps.tryCatch (Ensures.bind (keeps_fileCall (Executor.keeps_listRecordNames steady name))
    fun _ => Ensures.pure fun _ before => before) fun _ => Ensures.pure fun _ before => before

/-- The rest of a sentence that names no file. -/
inductive NoFile (session : EnglishSession) (world : World) : Verb → List String → Prop
  | count : NoFile session world .COUNT []
  | field {verb : Verb} {field : String} (lists : verb = .LIST ∨ verb = .SORT)
      (noFile : outcome (session.logicalPickFileExists field) world = .ok false) :
      NoFile session world verb [field]
  | clause {verb : Verb} {second third : String} {more : List String}
      (lists : verb = .LIST ∨ verb = .SORT) (isClause : (isBy second || isWith second) = true) :
      NoFile session world verb (second :: third :: more)

variable {word : String} {verb : Verb} {rest : List String}

/-- A sentence that names no file wants the active list. -/
theorem exec_wantImplicit (faithful : world.faults = []) (isVerb : ieq word verb.keyword = true)
    (noFile : NoFile session world verb rest) :
    exec (session.wantImplicit (word :: rest)) world = (.ok true, world) := by
  cases noFile with
  | count =>
      rw [wantImplicit, ieq_of_verb isVerb]
      rfl
  | field lists noFile =>
      have isList : (ieq word "LIST" || ieq word "SORT") = true := by
        rw [ieq_of_verb isVerb, ieq_of_verb isVerb]
        rcases lists with rfl | rfl <;> decide
      rw [wantImplicit, if_pos isList]
      simp only [List.isEmpty_nil, Bool.not_true, Bool.false_and, Bool.false_eq_true, if_false,
        if_true]
      rw [exec_bind, exec_of_keeps (keeps_logicalPickFileExists (steady_same faithful) _), noFile]
      rfl
  | clause lists isClause =>
      have isList : (ieq word "LIST" || ieq word "SORT") = true := by
        rw [ieq_of_verb isVerb, ieq_of_verb isVerb]
        rcases lists with rfl | rfl <;> decide
      rw [wantImplicit, if_pos isList, if_pos (by simp [isClause])]
      rfl

variable (Number) in
/-- What is shown of a sentence. -/
def shownRun (session : EnglishSession) (parseCtx : ParseContext) (execOpts : EnglishRunOptions)
    (tokens : List String) : Program World FileError String := do
  return shown (← session.run Number parseCtx execOpts tokens)

/-- A sentence, once it is known whether it wants the active list. -/
theorem exec_sentence {tokens : List String} {wants : Bool} (ready : session.activeListReady = true)
    (wanted : exec (session.wantImplicit tokens) world = (.ok wants, world)) :
    exec (session.sentence Number tokens) world =
      exec (if wants then
          session.shownRun Number
            { implicitFile := true, imposedFileName := session.activeListSourceFile }
            { constrainRecordIds := some session.activeList
              pageLength := some session.reportPageLength } tokens
        else session.shownRun Number {} { pageLength := some session.reportPageLength } tokens)
        world := by
  unfold sentence englishImplicitSetup
  rw [exec_bind, exec_bind, wanted]
  cases wants with
  | false => rfl
  | true =>
      simp only [Bool.not_true, Bool.false_eq_true, if_false, ready, if_true]
      rfl

/-- A command that is a sentence is run as one. -/
theorem exec_command_lists {tokens : List String} (lists : verb = .LIST ∨ verb = .SORT)
    (isList : exec (session.shellIsEnglishList tokens) world = (.ok true, world))
    (isSort : exec (session.shellIsEnglishSort tokens) world = (.ok true, world)) :
    exec (session.command Number verb tokens) world =
      exec (session.sentence Number tokens) world := by
  rcases lists with rfl | rfl
  · rw [command, cmdList, exec_bind, isList]
    rfl
  · rw [command, cmdSort, exec_bind, isSort]
    rfl

/-- A `LIST` or `SORT` of three words or more is a sentence. -/
theorem exec_command_long {tokens : List String} (lists : verb = .LIST ∨ verb = .SORT)
    (long : 3 ≤ tokens.length) :
    exec (session.command Number verb tokens) world =
      exec (session.sentence Number tokens) world := by
  have isSentence : (hasEnglishClauseKeywords tokens || (3 ≤ tokens.length)) = true := by
    simp [long]
  refine exec_command_lists lists ?_ ?_
  · unfold shellIsEnglishList
    rw [if_pos isSentence]
    rfl
  · unfold shellIsEnglishSort
    rw [if_pos isSentence]
    rfl

/-- A command without a file is run on the active list. -/
theorem exec_command_of_list (ready : session.activeListReady = true)
    (faithful : world.faults = []) (noFile : NoFile session world verb rest) :
    exec (session.command Number verb (word :: rest)) world =
      exec (session.sentence Number (word :: rest)) world := by
  cases noFile with
  | count =>
      rw [command, cmdCount, shellIsEnglishCount, ready, Bool.or_true]
      rfl
  | @field _ field lists noFile =>
      have asked := exec_of_keeps
        (@keeps_logicalPickFileExists session _ (steady_same faithful) field)
      rw [noFile] at asked
      refine exec_command_lists lists ?_ ?_
      · unfold shellIsEnglishList
        split
        · rfl
        · dsimp only
          rw [exec_bind, asked, ready]
          rfl
      · unfold shellIsEnglishSort
        split
        · rfl
        · dsimp only
          rw [exec_bind, asked, ready]
          rfl
  | clause lists isClause => exact exec_command_long lists (by simp)

/-- The same command with a file in it is a sentence. -/
theorem exec_command_of_file (noFile : NoFile session world verb rest) :
    exec (session.command Number verb (word :: fileName :: rest)) world =
      exec (session.sentence Number (word :: fileName :: rest)) world := by
  cases noFile with
  | count => rfl
  | field lists noFile => exact exec_command_long lists (by simp)
  | clause lists isClause => exact exec_command_long lists (by simp)

/-- A sentence that names a file wants no active list. -/
theorem exec_wantImplicit_of_file (plain : isStructuralKeyword fileName = false)
    (isVerb : ieq word verb.keyword = true) (noFile : NoFile session world verb rest) :
    exec (session.wantImplicit (word :: fileName :: rest)) world = (.ok false, world) := by
  have notClause : (isBy fileName || isWith fileName) = false := by
    simp only [isStructuralKeyword, Bool.or_eq_false_iff] at plain
    rw [plain.1.1.1, plain.1.2]
    rfl
  have long (some : rest.isEmpty = false) :
      exec (session.wantImplicit (word :: fileName :: rest)) world = (.ok false, world) := by
    rw [wantImplicit, notClause, some]
    split <;> rfl
  cases noFile with
  | count =>
      have notList : (ieq word "LIST" || ieq word "SORT") = false := by
        rw [ieq_of_verb isVerb, ieq_of_verb isVerb]
        decide
      rw [wantImplicit, notList]
      rfl
  | field lists noFile => exact long rfl
  | clause lists isClause => exact long rfl

/-- After a `SELECT` a sentence without a file says what it says with the file that was selected
from, as long as there are ids. -/
theorem command_without_file (faithful : world.faults = []) {result : Result}
    (selects : Selects Number session world fileName result) (some : result.selectedIds ≠ [])
    (isVerb : ieq word verb.keyword = true)
    (noFile : NoFile (session.selecting result fileName) world verb rest) :
    exec ((session.selecting result fileName).command Number verb (word :: rest)) world =
      exec ((session.selecting result fileName).command Number verb
        (word :: fileName :: rest)) world := by
  have ready : (session.selecting result fileName).activeListReady = true := by
    simp [activeListReady, selecting, some]
  rw [exec_command_of_list ready faithful noFile, exec_command_of_file noFile,
    exec_sentence ready (exec_wantImplicit faithful isVerb noFile),
    exec_sentence ready (exec_wantImplicit_of_file selects.plain isVerb noFile)]
  simp only [if_true, Bool.false_eq_true, if_false]
  unfold shownRun
  rw [exec_bind, exec_bind]
  have parsed := @parse_implicit fileName word rest selects.plain selects.named
  have same : exec ((session.selecting result fileName).run Number
      { implicitFile := true
        imposedFileName := (session.selecting result fileName).activeListSourceFile }
      { constrainRecordIds := .some (session.selecting result fileName).activeList
        pageLength := .some (session.selecting result fileName).reportPageLength }
        (word :: rest)) world =
      exec ((session.selecting result fileName).run Number {}
        { pageLength := .some (session.selecting result fileName).reportPageLength }
        (word :: fileName :: rest)) world := by
    refine exec_run_congr parsed rfl fun query isQuery => ?_
    obtain ⟨ofFile, -⟩ := of_parse_fileName selects.plain selects.named (parsed.symm.trans isQuery)
    exact (selects.recordIds faithful ofFile _).symm
  rw [same]

end EnglishSession

end Active

/-! ## A list of one record -/

open Executor (account dataQuery listRecordNames_oneRecord oneRecord wholeReports)

/-- A session of the account that has one record. -/
def accountSession : EnglishSession where
  fileSystem := account

/-- Its `SELECT` selects the record. -/
theorem selects_oneRecord :
    @EnglishSession.Selects ℤ _ IType.wholeLiterals wholeReports accountSession oneRecord "DATA"
      ⟨["1 records selected"], ["R1"]⟩ := by
  have parsed : parse {} ["SELECT", "DATA"] = .ok dataQuery := by decide
  refine @EnglishSession.Selects.mk _ _ (_) (_) _ _ _ _ (by decide) (by decide)
    ⟨"SELECT", [], oneRecord, by decide, ?_⟩
  unfold EnglishSession.run EnglishService.run
  rw [exec_bind, exec_caught, id, parsed]
  dsimp only
  unfold Executor.execute Executor.produceRows Executor.recordIds
  rw [exec_bind, exec_bind]
  dsimp only [dataQuery]
  unfold reported
  rw [exec_bind, exec_caught, id]
  dsimp only [accountSession]
  rw [listRecordNames_oneRecord]
  rfl

/-- After that `SELECT` a `COUNT` without a file counts the list. -/
theorem count_without_file :
    exec (@EnglishSession.command (accountSession.selecting ⟨["1 records selected"], ["R1"]⟩ "DATA")
        ℤ _ IType.wholeLiterals wholeReports .COUNT ["COUNT"]) oneRecord =
      exec (@EnglishSession.command
        (accountSession.selecting ⟨["1 records selected"], ["R1"]⟩ "DATA")
        ℤ _ IType.wholeLiterals wholeReports .COUNT ["COUNT", "DATA"]) oneRecord :=
  @EnglishSession.command_without_file ℤ _ IType.wholeLiterals wholeReports _ _ _ _ _ _ rfl _
    selects_oneRecord (by decide) (by decide) .count

end Gemini.PickShell
