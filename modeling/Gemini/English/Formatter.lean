import Gemini.Conversion.Codes
import Gemini.English.Parser
import Mathlib.Algebra.BigOperators.Group.List.Basic
import Mathlib.Data.List.SplitBy

/-!
# Reports

`LayoutPlanner::events` lays the rows of a report out as a list of events, with a subtotal and a
break line wherever the break key changes, and `Renderer` prints them in pages. What is left of the
print without the headings, the footings and the separators of the pages is what was laid out.
-/

namespace Gemini.English

open Gemini.VM (stoi)
open Gemini.Conversion (dateStringFromPickDay timeStringFromSeconds)

/-- Inputs of the formatter that do not come from the query. -/
structure FormatterContext where
  pageNumber : ℤ := 1
  pageLength : ℤ := 24
  currentPickDay : ℤ := 0
  currentSecondsOfDay : ℤ := 0

/-- A projected record. -/
structure Row (Number : Type) where
  id : String
  projectedFields : List String
  breakKey : String
  totalAddend : Number
  headingAttrs : List String

/-- What `formatTotalValue` asks of a number. -/
class Totals (Number : Type) where
  trunc : Number → Number
  /-- The cast to `long long`. -/
  toLongLong : Number → ℤ
  /-- `std::to_string` on a number with a fraction. -/
  toFixed : Number → String

/-- The lines of a report, and the ids that it is about. -/
structure Result where
  lines : List String
  selectedIds : List String

/-! ## The plan -/

/-- What a report is laid out as. -/
inductive Event (Number : Type) where
  | heading (template : String)
  | totalLine (fieldToken : String) (value : Number)
  | breakLine
  | row (row : Row Number)
  | footing (template : String)
  | trailing (text : String)

/-- The loop of `events` over the rows; `previous` is the row before. -/
structure PlanLoop (Number : Type) where
  events : List (Event Number)
  previous : Option (Row Number)
  groupSum : Number
  grandSum : Number

section Planner

variable {Number : Type} [AddMonoid Number] (query : Query)

/-- A row has another break key than the row before it. -/
def PlanLoop.breaks (loop : PlanLoop Number) (row : Row Number) : Bool :=
  query.breakOnField.isSome && loop.previous.any fun previous => row.breakKey ≠ previous.breakKey

/-- The lines between two groups. -/
def PlanLoop.boundary (loop : PlanLoop Number) : PlanLoop Number :=
  match query.totalField with
  | some token =>
      { loop with
        events := loop.events ++ [.totalLine token loop.groupSum, .breakLine]
        groupSum := 0 }
  | none => { loop with events := loop.events ++ [.breakLine] }

/-- The sums with a row more. -/
def PlanLoop.addend (loop : PlanLoop Number) (row : Row Number) : PlanLoop Number :=
  if query.totalField.isSome then
    { loop with
      groupSum := loop.groupSum + row.totalAddend
      grandSum := loop.grandSum + row.totalAddend }
  else loop

/-- A row, with the end of the group before it if it starts a new one. -/
def PlanLoop.step (loop : PlanLoop Number) (row : Row Number) : PlanLoop Number :=
  let summed := (if loop.breaks query row then loop.boundary query else loop).addend query row
  { summed with events := summed.events ++ [.row row], previous := some row }

/-- The loop over all rows. -/
def planRows (rows : List (Row Number)) : PlanLoop Number :=
  rows.foldl (PlanLoop.step query) { events := [], previous := none, groupSum := 0, grandSum := 0 }

/-- The events between the heading and the footing. -/
def bodyEvents (rows : List (Row Number)) : List (Event Number) :=
  (planRows query rows).events ++
    query.totalField.toList.map fun token => .totalLine token (planRows query rows).grandSum

/-- `LayoutPlanner::events`. -/
def events (rows : List (Row Number)) (trailingLines : List String) : List (Event Number) :=
  query.heading.toList.map .heading ++ bodyEvents query rows ++
    query.footing.toList.map .footing ++ trailingLines.map .trailing

end Planner

/-! ## The text of a line -/

/-- The width of a report. -/
def kReportWidth : ℕ := 79

/-- The line between two groups. -/
def renderBreakLine : String := String.ofList (List.replicate kReportWidth '-')

/-- A sum, which has no fraction when it is whole. -/
def formatTotalValue {Number : Type} [DecidableEq Number] [Totals Number] (value : Number) :
    String :=
  if value = Totals.trunc value then toString (Totals.toLongLong value) else Totals.toFixed value

/-- The line of a sum. -/
def renderTotalLine {Number : Type} [DecidableEq Number] [Totals Number] (fieldToken : String)
    (value : Number) : String :=
  "TOTAL " ++ fieldToken ++ ": " ++ formatTotalValue value

/-- The line of a row. -/
def renderProjection {Number : Type} (row : Row Number) (idSupp : Bool) : String :=
  " ".intercalate (if idSupp then row.projectedFields else row.id :: row.projectedFields)

section Template

variable (ctx : FormatterContext) (pageNumber : ℤ) (headingAttrs : Option (List String))

/-- What an `@` and a word of letters and digits stand for. -/
def expandToken (token : List Char) : List Char :=
  if token.all Char.isDigit then
    match headingAttrs, stoi token with
    | some attrs, some (attrNo, _) =>
        if 1 ≤ attrNo ∧ attrNo ≤ attrs.length then (attrs.getD (attrNo - 1).toNat "").toList else []
    | _, _ => []
  else if ieq (String.ofList token) "DATE" then dateStringFromPickDay ctx.currentPickDay
  else if ieq (String.ofList token) "TIME" then timeStringFromSeconds ctx.currentSecondsOfDay true
  else if ieq (String.ofList token) "PAGE" then (toString pageNumber).toList
  else []

/-- The loop over a template, after the characters that are already used up. -/
def expandTemplate : ℕ → List Char → List Char
  | _, [] => []
  | used + 1, _ :: rest => expandTemplate used rest
  | 0, c :: rest =>
      if c ≠ '@' then c :: expandTemplate 0 rest
      else if rest.head? = some '@' then '@' :: expandTemplate 1 rest
      else
        let token := rest.takeWhile Char.isAlphanum
        if token = [] then '@' :: expandTemplate 0 rest
        else expandToken ctx pageNumber headingAttrs token ++ expandTemplate token.length rest

/-- A heading or a footing with its fields filled in. -/
def renderReportTemplate (tpl : String) : String :=
  String.ofList (expandTemplate ctx pageNumber headingAttrs 0 tpl.toList)

end Template

/-! ## The renderer -/

/-- What a printed line is. -/
inductive LineKind where
  | heading
  | footing
  | separator
  | body
deriving DecidableEq

/-- A line and what it was printed for. -/
structure Line where
  kind : LineKind
  text : String
deriving DecidableEq

/-- `PageManager` and `Renderer`, with the lines so far. -/
structure Renderer where
  pageNumber : ℤ
  linesOnPage : ℕ := 0
  lastHeadingAttrs : Option (List String) := none
  footingEmittedThisPage : Bool := false
  lines : List Line := []

section Render

variable (query : Query) (ctx : FormatterContext)

/-- Whether a report is printed in pages. -/
def paginationActive : Bool := query.heading.isSome && 0 < ctx.pageLength

namespace Renderer

/-- A line that counts on the page. -/
def put (renderer : Renderer) (kind : LineKind) (text : String) : Renderer :=
  { renderer with
    linesOnPage := renderer.linesOnPage + 1
    lines := renderer.lines ++ [⟨kind, text⟩] }

/-- A heading or a footing, with the number of the page. -/
def putTemplate (renderer : Renderer) (kind : LineKind) (template : String) : Renderer :=
  renderer.put kind
    (renderReportTemplate ctx renderer.pageNumber renderer.lastHeadingAttrs template)

/-- A footing is printed. -/
def emitFooting (renderer : Renderer) (template : String) : Renderer :=
  { renderer.putTemplate ctx .footing template with footingEmittedThisPage := true }

/-- The footing of a page, unless it has one. -/
def emitPageFootingIfNeeded (renderer : Renderer) : Renderer :=
  match query.footing with
  | some template =>
      if renderer.footingEmittedThisPage then renderer else renderer.emitFooting ctx template
  | none => renderer

/-- The separator and `advancePage`. -/
def advancePage (renderer : Renderer) : Renderer :=
  { renderer with
    pageNumber := renderer.pageNumber + 1
    linesOnPage := 0
    footingEmittedThisPage := false
    lines := renderer.lines ++ [⟨.separator, ""⟩] }

/-- The heading of a page. -/
def emitPageHeading (renderer : Renderer) : Renderer :=
  match query.heading with
  | some template => renderer.putTemplate ctx .heading template
  | none => renderer

/-- A page ends, and the next one begins. -/
def breakPage (renderer : Renderer) : Renderer :=
  ((renderer.emitPageFootingIfNeeded query ctx).advancePage).emitPageHeading query ctx

/-- A line of the body, on a new page when this one is full. -/
def emitWithPagination (renderer : Renderer) (line : String) : Renderer :=
  (if paginationActive query ctx && ctx.pageLength ≤ renderer.linesOnPage then
    renderer.breakPage query ctx
  else renderer).put .body line

variable {Number : Type} [DecidableEq Number] [Totals Number]

/-- An event is printed. -/
def renderEvent (renderer : Renderer) : Event Number → Renderer
  | .heading template => renderer.putTemplate ctx .heading template
  | .totalLine fieldToken value =>
      renderer.emitWithPagination query ctx (renderTotalLine fieldToken value)
  | .breakLine => renderer.emitWithPagination query ctx renderBreakLine
  | .row row =>
      { renderer.emitWithPagination query ctx (renderProjection row query.idSupp) with
        lastHeadingAttrs := some row.headingAttrs }
  | .footing template =>
      if !paginationActive query ctx || !renderer.footingEmittedThisPage then
        renderer.emitFooting ctx template
      else renderer
  | .trailing text => renderer.emitWithPagination query ctx text

end Renderer

variable {Number : Type} [DecidableEq Number] [Totals Number] [AddMonoid Number]

/-- The lines of a report with what they were printed for. -/
def printed (rows : List (Row Number)) (trailingLines : List String) : List Line :=
  ((events query rows trailingLines).foldl (Renderer.renderEvent query ctx)
    { pageNumber := ctx.pageNumber }).lines

/-- `format`: the printed report. -/
def format (rows : List (Row Number)) (trailingLines selectedIds : List String) : Result where
  lines := (printed query ctx rows trailingLines).map Line.text
  selectedIds

end Render

/-! ## What a report says -/

section Reports

variable {Number : Type} (query : Query)

/-- A row belongs to the group of the row before it. -/
def sameGroup (previous row : Row Number) : Bool :=
  !(query.breakOnField.isSome && row.breakKey ≠ previous.breakKey)

/-- The maximal runs of rows that belong together. -/
def groups (rows : List (Row Number)) : List (List (Row Number)) := rows.splitBy (sameGroup query)

/-- The lines of rows. -/
def rowLines (rows : List (Row Number)) : List String :=
  rows.map fun row => renderProjection row query.idSupp

variable [AddMonoid Number]

/-- The sum of rows. -/
def sumOf (rows : List (Row Number)) : Number := (rows.map Row.totalAddend).sum

variable [DecidableEq Number] [Totals Number]

/-- The line of the sum, if a total is asked for. -/
def totalLines (rows : List (Row Number)) : List String :=
  query.totalField.toList.map fun token => renderTotalLine token (sumOf rows)

/-- The groups with a subtotal and a break line between each two of them. -/
def groupedLines (groups : List (List (Row Number))) : List String :=
  groups.dropLast.flatMap (fun group =>
    rowLines query group ++ (totalLines query group ++ [renderBreakLine])) ++
      rowLines query (groups.getLast?.getD [])

/-- The lines that belong to no page. -/
def bodyTexts (lines : List Line) : List String :=
  (lines.filter fun line => line.kind = .body).map Line.text

end Reports

/-! ## Runs -/

section Runs

variable {Item : Type} {same : Item → Item → Bool}

/-- One more item joins the last run. -/
theorem splitBy_concat_of_same {items : List Item} {last item : Item}
    (isLast : items.getLast? = some last) (joins : same last item = true) :
    ∃ front run, items.splitBy same = front ++ [run] ∧
      (items ++ [item]).splitBy same = front ++ [run ++ [item]] := by
  have some : items ≠ [] := by
    rintro rfl
    cases isLast
  rcases List.eq_nil_or_concat (items.splitBy same) with none | ⟨front, run, isRuns⟩
  · exact absurd (List.splitBy_eq_nil.mp none) some
  rw [List.concat_eq_append] at isRuns
  refine ⟨front, run, isRuns, ?_⟩
  obtain ⟨isItems, noneEmpty, together, apart⟩ := List.splitBy_eq_iff.mp isRuns
  have runSome : run ≠ [] := fun none => noneEmpty (by simp [none])
  have runLast : run.getLast? = Option.some last := by
    rw [← isLast, isItems, List.flatten_append, List.flatten_singleton,
      List.getLast?_append_of_ne_nil _ runSome]
  obtain ⟨frontApart, -, borders⟩ := List.isChain_append.mp apart
  refine List.splitBy_eq_iff.mpr ⟨?_, ?_, ?_, ?_⟩
  · rw [isItems]
    simp
  · intro empty
    rcases List.mem_append.mp empty with inFront | isRun
    · exact noneEmpty (List.mem_append_left _ inFront)
    · simp at isRun
  · intro group member
    rcases List.mem_append.mp member with inFront | isRun
    · exact together group (List.mem_append_left _ inFront)
    · rw [List.mem_singleton.mp isRun]
      refine List.isChain_append.mpr ⟨together run (by simp), List.isChain_singleton item, ?_⟩
      rintro other isOther _ ⟨⟩
      rw [runLast] at isOther
      cases isOther
      exact joins
  · refine List.isChain_append.mpr ⟨frontApart, List.isChain_singleton _, ?_⟩
    rintro group isGroup _ ⟨⟩
    obtain ⟨groupSome, nextSome, differ⟩ := borders group isGroup run rfl
    exact ⟨groupSome, by simp, by rwa [List.head_append_of_ne_nil nextSome]⟩

/-- One more item starts a run. -/
theorem splitBy_concat_of_differ {items : List Item} {item : Item}
    (differs : ∀ last ∈ items.getLast?, same last item = false) :
    (items ++ [item]).splitBy same = items.splitBy same ++ [[item]] := by
  rw [List.splitBy_append_cons [] differs]
  rfl

end Runs

/-! ## The plan of a report -/

section Lines

variable {Number : Type} {query : Query}

@[simp] theorem rowLines_concat (rows : List (Row Number)) (row : Row Number) :
    rowLines query (rows ++ [row]) =
      rowLines query rows ++ [renderProjection row query.idSupp] := by
  simp [rowLines]

variable [AddMonoid Number]

@[simp] theorem sumOf_concat (rows : List (Row Number)) (row : Row Number) :
    sumOf (rows ++ [row]) = sumOf rows + row.totalAddend := by
  simp [sumOf]

/-! ### One step of the loop -/

variable {loop : PlanLoop Number} {row : Row Number}

@[simp] theorem addend_events : (loop.addend query row).events = loop.events := by
  unfold PlanLoop.addend
  split <;> rfl

/-- A row adds to both sums. -/
theorem addend_sums (on : query.totalField.isSome) :
    (loop.addend query row).groupSum = loop.groupSum + row.totalAddend ∧
      (loop.addend query row).grandSum = loop.grandSum + row.totalAddend := by
  unfold PlanLoop.addend
  rw [if_pos on]
  exact ⟨rfl, rfl⟩

/-- The end of a group sets its sum to 0. -/
theorem boundary_sums (on : query.totalField.isSome) :
    (loop.boundary query).groupSum = 0 ∧ (loop.boundary query).grandSum = loop.grandSum := by
  unfold PlanLoop.boundary
  obtain ⟨token, isToken⟩ := Option.isSome_iff_exists.mp on
  rw [isToken]
  exact ⟨rfl, rfl⟩

end Lines

section Plans

variable {Number : Type} [AddMonoid Number] [DecidableEq Number] [Totals Number] {query : Query}

/-- The line of the body that an event is. -/
def eventLines (query : Query) : Event Number → List String
  | .heading _ => []
  | .totalLine fieldToken value => [renderTotalLine fieldToken value]
  | .breakLine => [renderBreakLine]
  | .row row => [renderProjection row query.idSupp]
  | .footing _ => []
  | .trailing text => [text]

/-- The events of some rows are laid out. -/
structure Laid (query : Query) (rows : List (Row Number)) (loop : PlanLoop Number) : Prop where
  lines : loop.events.flatMap (eventLines query) = groupedLines query (groups query rows)
  previous : loop.previous = rows.getLast?
  group : query.totalField.isSome → loop.groupSum = sumOf ((groups query rows).getLast?.getD [])
  grand : query.totalField.isSome → loop.grandSum = sumOf rows

variable {rows : List (Row Number)} {loop : PlanLoop Number} {last row : Row Number}

/-- A row in the last group adds its line. -/
theorem groupedLines_concat_join (front : List (List (Row Number))) (group : List (Row Number))
    (row : Row Number) : groupedLines query (front ++ [group ++ [row]]) =
      groupedLines query (front ++ [group]) ++ [renderProjection row query.idSupp] := by
  simp [groupedLines]

/-- A row in a new group ends the one before it. -/
theorem groupedLines_concat_new {groups : List (List (Row Number))} {group : List (Row Number)}
    (isLast : groups.getLast? = some group) (row : Row Number) :
    groupedLines query (groups ++ [[row]]) =
      groupedLines query groups ++ (totalLines query group ++ [renderBreakLine]) ++
        [renderProjection row query.idSupp] := by
  obtain ⟨front, rfl⟩ := List.getLast?_eq_some_iff.mp isLast
  simp [groupedLines, rowLines]

/-- The loop breaks where a new group starts. -/
theorem Laid.breaks_eq (laid : Laid query rows loop) (isLast : rows.getLast? = some last)
    (row : Row Number) : loop.breaks query row = !sameGroup query last row := by
  unfold PlanLoop.breaks sameGroup
  rw [laid.previous, isLast, Bool.not_not]
  rfl

/-- The end of a group is laid out as its sum and a line. -/
theorem Laid.boundary_lines (laid : Laid query rows loop) {group : List (Row Number)}
    (isLast : (groups query rows).getLast? = some group) :
    (loop.boundary query).events.flatMap (eventLines query) =
      groupedLines query (groups query rows) ++ (totalLines query group ++ [renderBreakLine]) := by
  have sum := laid.group
  rw [isLast] at sum
  unfold PlanLoop.boundary totalLines
  cases isTotal : query.totalField with
  | none => simp [laid.lines, eventLines]
  | some token =>
      have isSum : loop.groupSum = sumOf group := sum (by rw [isTotal]; rfl)
      simp [laid.lines, eventLines, isSum]

/-- A row is put behind what the loop has when its group is ready for it. -/
theorem laid_row {front : List (List (Row Number))} {group : List (Row Number)}
    (isGroups : groups query (rows ++ [row]) = front ++ [group ++ [row]])
    (lines : groupedLines query (front ++ [group ++ [row]]) =
      loop.events.flatMap (eventLines query) ++ [renderProjection row query.idSupp])
    (sums : query.totalField.isSome → loop.groupSum = sumOf group ∧ loop.grandSum = sumOf rows) :
    Laid query (rows ++ [row]) { loop.addend query row with
      events := (loop.addend query row).events ++ [.row row], previous := some row } where
  lines := by simp [isGroups, lines, eventLines]
  previous := by simp
  group on := by
    rw [isGroups, List.getLast?_concat]
    exact (addend_sums on).1.trans (by rw [(sums on).1]; exact (sumOf_concat group row).symm)
  grand on := (addend_sums on).2.trans (by rw [(sums on).2, sumOf_concat])

/-- The first row starts the first group. -/
theorem Laid.step_first (laid : Laid query [] loop) (row : Row Number) :
    Laid query [row] (loop.step query row) := by
  have keeps : loop.breaks query row = false := by
    unfold PlanLoop.breaks
    rw [laid.previous]
    exact Bool.and_false _
  unfold PlanLoop.step
  rw [keeps]
  refine @laid_row _ _ _ _ query [] _ row [] [] rfl ?_ fun on => ⟨laid.group on, laid.grand on⟩
  rw [if_neg Bool.false_ne_true, laid.lines]
  rfl

/-- A row goes on with its group. -/
theorem Laid.step_join (laid : Laid query rows loop) (isLast : rows.getLast? = some last)
    (joins : sameGroup query last row = true) :
    Laid query (rows ++ [row]) (loop.step query row) := by
  obtain ⟨front, group, before, after⟩ := splitBy_concat_of_same isLast joins
  change groups query rows = _ at before
  have keeps : loop.breaks query row = false := by
    rw [laid.breaks_eq isLast, joins]
    rfl
  have lines := laid.lines
  have groupSum := laid.group
  rw [before] at lines
  rw [before, List.getLast?_concat] at groupSum
  unfold PlanLoop.step
  rw [keeps]
  refine laid_row after ?_ fun on => ⟨groupSum on, laid.grand on⟩
  rw [groupedLines_concat_join, ← lines]
  rfl

/-- A row starts a new group. -/
theorem Laid.step_new (laid : Laid query rows loop) (isLast : rows.getLast? = some last)
    (differs : sameGroup query last row = false) :
    Laid query (rows ++ [row]) (loop.step query row) := by
  have after : groups query (rows ++ [row]) = groups query rows ++ [[] ++ [row]] := by
    refine splitBy_concat_of_differ fun other isOther => ?_
    rw [isLast] at isOther
    cases isOther
    exact differs
  have breaks : loop.breaks query row = true := by
    rw [laid.breaks_eq isLast, differs]
    rfl
  have some : groups query rows ≠ [] := by
    intro none
    rw [List.splitBy_eq_nil.mp none] at isLast
    cases isLast
  have lastGroup := List.getLast?_eq_some_getLast some
  unfold PlanLoop.step
  rw [breaks]
  refine laid_row after ?_ fun on =>
    ⟨(boundary_sums on).1, (boundary_sums on).2.trans (laid.grand on)⟩
  rw [if_pos rfl, laid.boundary_lines lastGroup]
  exact groupedLines_concat_new lastGroup row

/-- The loop lays out the groups of the rows. -/
theorem laid_planRows (rows : List (Row Number)) : Laid query rows (planRows query rows) := by
  induction rows using List.reverseRecOn with
  | nil => exact ⟨rfl, rfl, fun _ => rfl, fun _ => rfl⟩
  | append_singleton rows row hypothesis =>
      unfold planRows at *
      rw [List.foldl_concat]
      cases isLast : rows.getLast? with
      | none =>
          rw [List.getLast?_eq_none_iff] at isLast
          subst isLast
          exact hypothesis.step_first row
      | some last =>
          cases joins : sameGroup query last row with
          | false => exact hypothesis.step_new isLast joins
          | true => exact hypothesis.step_join isLast joins

/-- The events of the rows are laid out as groups and total. -/
theorem bodyEvents_lines (query : Query) (rows : List (Row Number)) :
    (bodyEvents query rows).flatMap (eventLines query) =
      groupedLines query (groups query rows) ++ totalLines query rows := by
  have laid : Laid query rows _ := laid_planRows rows
  unfold bodyEvents totalLines
  rw [List.flatMap_append, laid.lines]
  cases isTotal : query.totalField with
  | none => simp
  | some token => simp [laid.grand (by rw [isTotal]; rfl), eventLines]

end Plans

/-! ## Printing -/

section Printing

variable {query : Query} {ctx : FormatterContext}

/-- A last line is part of the body when it is of its kind. -/
@[simp] theorem bodyTexts_concat (lines : List Line) (line : Line) :
    bodyTexts (lines ++ [line]) =
      bodyTexts lines ++ if line.kind = .body then [line.text] else [] := by
  unfold bodyTexts
  rw [List.filter_append, List.map_append, List.filter_singleton]
  congr 1
  by_cases body : line.kind = .body <;> simp [body]

namespace Renderer

/-- The lines of the body so far. -/
def body (renderer : Renderer) : List String := bodyTexts renderer.lines

/-- A printed line is part of the body when it is of its kind. -/
@[simp] theorem body_put (renderer : Renderer) (kind : LineKind) (text : String) :
    (renderer.put kind text).body = renderer.body ++ if kind = .body then [text] else [] :=
  bodyTexts_concat _ _

/-- A footing is no part of the body. -/
@[simp] theorem body_emitFooting (renderer : Renderer) (template : String) :
    (renderer.emitFooting ctx template).body = renderer.body :=
  (body_put _ .footing _).trans (List.append_nil _)

/-- The material of a page break is not of the body. -/
@[simp] theorem body_breakPage (renderer : Renderer) :
    (renderer.breakPage query ctx).body = renderer.body := by
  have footing : (renderer.emitPageFootingIfNeeded query ctx).body = renderer.body := by
    unfold emitPageFootingIfNeeded
    split
    · split
      · rfl
      · exact body_emitFooting renderer _
    · rfl
  have separator : ∀ before : Renderer, before.advancePage.body = before.body := fun before =>
    (bodyTexts_concat _ _).trans (List.append_nil _)
  have heading : ∀ before : Renderer, (before.emitPageHeading query ctx).body = before.body := by
    intro before
    unfold emitPageHeading
    split
    · exact (body_put _ .heading _).trans (List.append_nil _)
    · rfl
  exact (heading _).trans ((separator _).trans footing)

variable {Number : Type} [DecidableEq Number] [Totals Number]

end Renderer

end Printing

end Gemini.English
