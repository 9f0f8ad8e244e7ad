import Gemini.English.Formatter
import Mathlib.Tactic.Ring

/-!
# Pages

A page is full when it has as many lines as `PAGE-LENGTH`, and only then is its footing printed, one
line too many. The footing at the end of the rows is printed without asking for room, and the lines
behind it can start a page that has none.
-/

namespace Gemini.English

/-! ## The pages of a report -/

/-- Whether a line is the end of a page. -/
def isSeparator (line : Line) : Bool := line.kind = .separator

/-- Whether a line is a footing. -/
def isFooting (line : Line) : Bool := line.kind = .footing

/-- The print of a report cut at its separators. -/
def pages (lines : List Line) : List (List Line) := lines.splitOnP isSeparator

section Statements

variable (query : Query) (ctx : FormatterContext)

/-- A line is a template with the number of a page. -/
def Prints (number : ℤ) (kind : LineKind) (template : String) (line : Line) : Prop :=
  ∃ attrs, line = ⟨kind, renderReportTemplate ctx number attrs template⟩

/-- A page starts with the heading, has no more lines than the length of a page and has one
footing, if there are any. -/
structure IsPage (number : ℤ) (page : List Line) : Prop where
  heading : ∀ template ∈ query.heading, ∃ line ∈ page.head?,
    Prints ctx number .heading template line
  length : page.length ≤ ctx.pageLength
  footing : ∀ template ∈ query.footing, ∃ line, Prints ctx number .footing template line ∧
    page.filter isFooting = [line]

variable {Number : Type} [DecidableEq Number] [Totals Number] [AddMonoid Number]

/-- The report is cut into pages with consecutive numbers. -/
def PagesFit (rows : List (Row Number)) (trailingLines : List String) : Prop :=
  ∀ (index : ℕ) (page : List Line),
    (pages (printed query ctx rows trailingLines))[index]? = some page →
      IsPage query ctx (ctx.pageNumber + index) page

end Statements

/-- The lines between the heading and the footing: the rows, the lines between the groups, and the
grand total. -/
def bodySize {Number : Type} (query : Query) (rows : List (Row Number)) : ℕ :=
  rows.length + ((groups query rows).length - 1) * (if query.totalField.isSome then 2 else 1) +
    if query.totalField.isSome then 1 else 0

/-! ## The page that is being printed -/

section Printing

variable {query : Query} {ctx : FormatterContext} {heading : String}

/-- A page as far as it is printed: `footed` is whether its footing is. -/
structure PageSoFar (query : Query) (ctx : FormatterContext) (heading : String) (number : ℤ)
    (footed : Bool) (page : List Line) : Prop where
  starts : ∃ line ∈ page.head?, Prints ctx number .heading heading line
  footing : footed = true → ∃ template line, query.footing = some template ∧
    Prints ctx number .footing template line ∧ page.filter isFooting = [line]
  noFooting : footed = false → page.filter isFooting = []

/-- Where the renderer is: the pages that it is done with and the one that it prints. -/
structure Paging (query : Query) (ctx : FormatterContext) (heading : String) (renderer : Renderer)
    (done : List (List Line)) (current : List Line) : Prop where
  cut : pages renderer.lines = done ++ [current]
  number : renderer.pageNumber = ctx.pageNumber + done.length
  count : renderer.linesOnPage = current.length
  closed : ∀ (index : ℕ) (page : List Line), done[index]? = some page →
    PageSoFar query ctx heading (ctx.pageNumber + index) query.footing.isSome page
  opened : PageSoFar query ctx heading (ctx.pageNumber + done.length)
    renderer.footingEmittedThisPage current

/-- A last item goes to the last part, or starts a new one. -/
theorem splitOnP_concat {Item : Type} {separates : Item → Bool} {items current : List Item}
    {done : List (List Item)} {item : Item} (cut : items.splitOnP separates = done ++ [current])
    (stays : separates item = false) :
    (items ++ [item]).splitOnP separates = done ++ [current ++ [item]] := by
  induction items generalizing done current with
  | nil =>
      obtain ⟨rfl, rfl⟩ : done = [] ∧ current = [] := by
        cases done with
        | nil =>
            cases cut
            exact ⟨rfl, rfl⟩
        | cons page done => simp at cut
      simp [List.splitOnP_cons_eq_if_modifyHead, stays]
  | cons head items hypothesis =>
      rw [List.splitOnP_cons_eq_if_modifyHead] at cut
      rw [List.cons_append, List.splitOnP_cons_eq_if_modifyHead]
      split
      · next separated =>
          rw [if_pos separated] at cut
          cases done with
          | nil =>
              rw [List.nil_append, List.cons.injEq] at cut
              exact absurd cut.2 (List.splitOnP_ne_nil _ _)
          | cons page done =>
              rw [List.cons_append, List.cons.injEq] at cut
              rw [hypothesis cut.2, ← cut.1]
              rfl
      · next joined =>
          rw [if_neg joined] at cut
          rcases isCut : items.splitOnP separates with _ | ⟨first, rest⟩
          · exact absurd isCut (List.splitOnP_ne_nil _ _)
          · rw [isCut, List.modifyHead_cons] at cut
            cases done with
            | nil =>
                rw [List.nil_append, List.cons.injEq] at cut
                have inner := @hypothesis first [] (by rw [isCut, cut.2]; rfl)
                rw [inner, ← cut.1]
                rfl
            | cons page done =>
                rw [List.cons_append, List.cons.injEq] at cut
                have inner := @hypothesis current (first :: done) (by rw [isCut, cut.2]; rfl)
                rw [inner, ← cut.1]
                rfl

variable {renderer : Renderer} {done : List (List Line)} {current : List Line}

namespace Paging

/-- A line that is neither a footing nor a separator is put on the page. -/
theorem put (paging : Paging query ctx heading renderer done current) {kind : LineKind}
    (text : String) (plain : kind ≠ .footing ∧ kind ≠ .separator) :
    Paging query ctx heading (renderer.put kind text) done (current ++ [⟨kind, text⟩]) := by
  have notFooting : isFooting ⟨kind, text⟩ = false := decide_eq_false plain.1
  have sameFootings : (current ++ [(⟨kind, text⟩ : Line)]).filter isFooting =
      current.filter isFooting := by
    simp [notFooting]
  exact {
    cut := splitOnP_concat paging.cut (decide_eq_false plain.2)
    number := paging.number
    count := by simp [Renderer.put, paging.count]
    closed := paging.closed
    opened := {
      starts := by
        obtain ⟨line, first, prints⟩ := paging.opened.starts
        exact ⟨line, by simp [List.head?_append, Option.mem_def.mp first], prints⟩
      footing := fun footed => by
        rw [sameFootings]
        exact paging.opened.footing footed
      noFooting := fun unfooted => by
        rw [sameFootings]
        exact paging.opened.noFooting unfooted } }

/-- The footing is put on a page that has none. -/
theorem emitFooting (paging : Paging query ctx heading renderer done current) {template : String}
    (isTemplate : query.footing = some template)
    (unfooted : renderer.footingEmittedThisPage = false) :
    ∃ line, Paging query ctx heading (renderer.emitFooting ctx template) done
      (current ++ [line]) := by
  refine ⟨⟨.footing, renderReportTemplate ctx renderer.pageNumber renderer.lastHeadingAttrs
    template⟩, ?_⟩
  exact {
    cut := splitOnP_concat paging.cut rfl
    number := paging.number
    count := by simp [Renderer.emitFooting, Renderer.putTemplate, Renderer.put, paging.count]
    closed := paging.closed
    opened := {
      starts := by
        obtain ⟨line, first, prints⟩ := paging.opened.starts
        exact ⟨line, by simp [List.head?_append, Option.mem_def.mp first], prints⟩
      footing := fun _ => by
        refine ⟨template, _, isTemplate, ⟨renderer.lastHeadingAttrs, rfl⟩, ?_⟩
        rw [List.filter_append, paging.opened.noFooting unfooted, paging.number]
        rfl
      noFooting := nofun } }

/-- The number of the footings that a page break prints. -/
def missingFootings (query : Query) (renderer : Renderer) : ℕ :=
  if query.footing.isSome && !renderer.footingEmittedThisPage then 1 else 0

/-- A page is left with its footing. -/
theorem emitPageFootingIfNeeded (paging : Paging query ctx heading renderer done current) :
    ∃ closed, Paging query ctx heading (renderer.emitPageFootingIfNeeded query ctx) done closed ∧
      (renderer.emitPageFootingIfNeeded query ctx).footingEmittedThisPage = query.footing.isSome ∧
        closed.length = current.length + missingFootings query renderer := by
  unfold Renderer.emitPageFootingIfNeeded missingFootings
  cases isTemplate : query.footing with
  | none =>
      refine ⟨current, paging, ?_, rfl⟩
      cases footed : renderer.footingEmittedThisPage with
      | false => rfl
      | true =>
          obtain ⟨template, -, given, -⟩ := paging.opened.footing footed
          rw [isTemplate] at given
          cases given
  | some template =>
      dsimp only
      cases footed : renderer.footingEmittedThisPage with
      | true => exact ⟨current, paging, footed, rfl⟩
      | false =>
          obtain ⟨line, emitted⟩ := paging.emitFooting isTemplate footed
          exact ⟨_, emitted, rfl, by simp⟩

/-- The next page starts with its heading. -/
theorem nextPage (paging : Paging query ctx heading renderer done current)
    (isHeading : query.heading = some heading)
    (footed : renderer.footingEmittedThisPage = query.footing.isSome) :
    ∃ line, Paging query ctx heading (renderer.advancePage.emitPageHeading query ctx)
      (done ++ [current]) [line] := by
  refine ⟨⟨.heading, renderReportTemplate ctx (renderer.pageNumber + 1) renderer.lastHeadingAttrs
    heading⟩, ?_⟩
  unfold Renderer.emitPageHeading
  rw [isHeading]
  have cut : pages (renderer.lines ++ [⟨.separator, ""⟩]) = done ++ [current] ++ [[]] := by
    have separates : isSeparator ⟨.separator, ""⟩ = true := rfl
    refine (List.splitOnP_append_cons renderer.lines [] separates).trans ?_
    rw [List.splitOnP_nil]
    exact congrArg (· ++ [[]]) paging.cut
  have number : renderer.pageNumber + 1 = ctx.pageNumber + (done ++ [current]).length := by
    rw [paging.number, List.length_append, List.length_singleton]
    omega
  exact {
    cut := splitOnP_concat cut rfl
    number
    count := rfl
    closed := by
      intro index page isPage
      rw [List.getElem?_append] at isPage
      split at isPage
      · exact paging.closed index page isPage
      · next beyond =>
          obtain ⟨rfl, rfl⟩ : index = done.length ∧ page = current := by
            rcases isIndex : index - done.length with _ | more
            · rw [isIndex] at isPage
              cases isPage
              exact ⟨by omega, rfl⟩
            · rw [isIndex] at isPage
              cases isPage
          exact footed ▸ paging.opened
    opened := {
      starts := ⟨_, rfl, renderer.lastHeadingAttrs, by rw [← number]⟩
      footing := nofun
      noFooting := fun _ => rfl } }

/-- A break of the page closes it and starts the next one. -/
theorem breakPage (paging : Paging query ctx heading renderer done current)
    (isHeading : query.heading = some heading) :
    ∃ closed line, Paging query ctx heading (renderer.breakPage query ctx) (done ++ [closed])
        [line] ∧ (renderer.breakPage query ctx).footingEmittedThisPage = false ∧
      closed.length = current.length + missingFootings query renderer := by
  obtain ⟨closed, footingDone, footed, length⟩ := paging.emitPageFootingIfNeeded
  obtain ⟨line, next⟩ := footingDone.nextPage isHeading footed
  refine ⟨closed, line, next, ?_, length⟩
  unfold Renderer.breakPage Renderer.emitPageHeading
  rw [isHeading]
  rfl

/-- The attributes of the heading change nothing that is printed. -/
theorem withAttrs (paging : Paging query ctx heading renderer done current)
    (attrs : Option (List String)) :
    Paging query ctx heading { renderer with lastHeadingAttrs := attrs } done current :=
  ⟨paging.cut, paging.number, paging.count, paging.closed, paging.opened⟩

end Paging

/-! ### The events of the body -/

section Events

variable {Number : Type} [DecidableEq Number] [Totals Number]

/-- The events that print a template. -/
def Event.isTemplate : Event Number → Bool
  | .heading _ => true
  | .footing _ => true
  | _ => false

/-- Every other event prints one line. -/
theorem renderEvent_line {event : Event Number} (plain : event.isTemplate = false)
    (renderer : Renderer) : ∃ text attrs, renderer.renderEvent query ctx event =
      { renderer.emitWithPagination query ctx text with lastHeadingAttrs := attrs } := by
  cases event with
  | heading template => cases plain
  | totalLine fieldToken value => exact ⟨_, _, rfl⟩
  | breakLine => exact ⟨_, _, rfl⟩
  | row row => exact ⟨_, _, rfl⟩
  | footing template => cases plain
  | trailing text => exact ⟨_, _, rfl⟩

/-- Every event but a template is a line. -/
theorem length_eventLines {events : List (Event Number)}
    (plain : ∀ event ∈ events, event.isTemplate = false) :
    (events.flatMap (eventLines query)).length = events.length := by
  induction events with
  | nil => rfl
  | cons event events hypothesis =>
      have rest := hypothesis fun other member => plain other (List.mem_cons_of_mem _ member)
      have one : (eventLines query event).length = 1 := by
        have isPlain := plain event List.mem_cons_self
        cases event with
        | heading template => cases isPlain
        | footing template => cases isPlain
        | _ => rfl
      rw [List.flatMap_cons, List.length_append, one, rest, List.length_cons, Nat.add_comm]

namespace Paging

variable {event : Event Number}

/-- With room on the page a line is put on it. -/
theorem stays (paging : Paging query ctx heading renderer done current)
    (plain : event.isTemplate = false) (room : current.length < ctx.pageLength) :
    ∃ line, Paging query ctx heading (renderer.renderEvent query ctx event) done
      (current ++ [line]) ∧ (renderer.renderEvent query ctx event).footingEmittedThisPage =
        renderer.footingEmittedThisPage := by
  obtain ⟨text, attrs, isEvent⟩ := @renderEvent_line query ctx _ _ _ event plain renderer
  have notFull : (paginationActive query ctx && decide (ctx.pageLength ≤ renderer.linesOnPage)) =
      false := by
    rw [paging.count, decide_eq_false (not_le.mpr room)]
    exact Bool.and_false _
  rw [isEvent]
  unfold Renderer.emitWithPagination
  rw [notFull]
  exact ⟨_, (paging.put text (by decide)).withAttrs attrs, rfl⟩

/-- On a full page the line starts the next one. -/
theorem turns (paging : Paging query ctx heading renderer done current)
    (isHeading : query.heading = some heading) (active : 0 < ctx.pageLength)
    (plain : event.isTemplate = false) (full : ctx.pageLength ≤ current.length) :
    ∃ closed first line, Paging query ctx heading (renderer.renderEvent query ctx event)
        (done ++ [closed]) [first, line] ∧
      (renderer.renderEvent query ctx event).footingEmittedThisPage = false ∧
        closed.length = current.length + missingFootings query renderer := by
  obtain ⟨text, attrs, isEvent⟩ := @renderEvent_line query ctx _ _ _ event plain renderer
  have isFull : (paginationActive query ctx && decide (ctx.pageLength ≤ renderer.linesOnPage)) =
      true := by
    rw [paging.count, decide_eq_true full, Bool.and_true, paginationActive, isHeading]
    simpa using active
  obtain ⟨closed, first, broken, unfooted, length⟩ := paging.breakPage isHeading
  rw [isEvent]
  unfold Renderer.emitWithPagination
  rw [isFull]
  exact ⟨closed, first, _, (broken.put text (by decide)).withAttrs attrs, unfooted, length⟩

end Paging

/-! ### The run over the lines of the body -/

/-- A page is longer than pages may be. -/
def Overfull (ctx : FormatterContext) (done : List (List Line)) (current : List Line) : Prop :=
  ∃ page ∈ done ++ [current], ctx.pageLength < page.length

variable {events : List (Event Number)}

/-- What holds while lines are put on pages holds in the end. -/
theorem Paging.run (holds : Renderer → List (List Line) → List Line → Prop)
    (plain : ∀ event ∈ events, event.isTemplate = false)
    (step : ∀ {renderer : Renderer} {done : List (List Line)} {current : List Line}
      {event : Event Number}, event.isTemplate = false →
        Paging query ctx heading renderer done current → holds renderer done current →
          ∃ done current, Paging query ctx heading (renderer.renderEvent query ctx event) done
            current ∧ holds (renderer.renderEvent query ctx event) done current)
    (paging : Paging query ctx heading renderer done current)
    (before : holds renderer done current) :
    ∃ done current,
      Paging query ctx heading (events.foldl (Renderer.renderEvent query ctx) renderer) done
        current ∧ holds (events.foldl (Renderer.renderEvent query ctx) renderer) done current := by
  induction events generalizing renderer done current with
  | nil => exact ⟨done, current, paging, before⟩
  | cons event events hypothesis =>
      obtain ⟨done, current, next, after⟩ := step (plain event List.mem_cons_self) paging before
      exact hypothesis (fun other member => plain other (List.mem_cons_of_mem _ member)) next after

/-- A page that is overfull stays so. -/
theorem Overfull.concat {done : List (List Line)} {current : List Line}
    (overfull : Overfull ctx done current) (line : Line) :
    Overfull ctx done (current ++ [line]) := by
  obtain ⟨page, member, long⟩ := overfull
  rcases List.mem_append.mp member with isDone | isCurrent
  · exact ⟨page, List.mem_append_left _ isDone, long⟩
  · cases List.mem_singleton.mp isCurrent
    refine ⟨_, List.mem_append_right _ (List.mem_singleton_self _), ?_⟩
    rw [List.length_append, List.length_singleton]
    omega

namespace Paging

/-- Without a footing none is printed. -/
theorem unfooted_of_none (paging : Paging query ctx heading renderer done current)
    (noFooting : query.footing = none) : renderer.footingEmittedThisPage = false := by
  cases footed : renderer.footingEmittedThisPage with
  | false => rfl
  | true =>
      obtain ⟨template, -, given, -⟩ := paging.opened.footing footed
      rw [noFooting] at given
      cases given

variable (Number) in
/-- The event of the footing. -/
theorem footing_event (paging : Paging query ctx heading renderer done current)
    {template : String} (isTemplate : query.footing = some template)
    (unfooted : renderer.footingEmittedThisPage = false) :
    ∃ line, Paging query ctx heading
      (renderer.renderEvent query ctx (.footing template : Event Number)) done
        (current ++ [line]) ∧
          (renderer.renderEvent query ctx
            (.footing template : Event Number)).footingEmittedThisPage = true := by
  obtain ⟨line, emitted⟩ := paging.emitFooting isTemplate unfooted
  dsimp only [Renderer.renderEvent]
  rw [unfooted, Bool.not_false, Bool.or_true]
  exact ⟨line, emitted, rfl⟩

/-- Lines that have room are put on the page. -/
theorem fits (paging : Paging query ctx heading renderer done current)
    (plain : ∀ event ∈ events, event.isTemplate = false)
    (room : current.length + events.length ≤ ctx.pageLength) :
    ∃ more : List Line, more.length = events.length ∧
      Paging query ctx heading (events.foldl (Renderer.renderEvent query ctx) renderer) done
        (current ++ more) ∧
          (events.foldl (Renderer.renderEvent query ctx) renderer).footingEmittedThisPage =
            renderer.footingEmittedThisPage := by
  induction events generalizing renderer current with
  | nil => exact ⟨[], rfl, by simpa using paging, rfl⟩
  | cons event events hypothesis =>
      rw [List.length_cons] at room
      obtain ⟨line, next, same⟩ := paging.stays (plain event List.mem_cons_self) (by omega)
      obtain ⟨more, length, last, sameLast⟩ := hypothesis next
        (fun other member => plain other (List.mem_cons_of_mem _ member))
        (by rw [List.length_append, List.length_singleton]; omega)
      refine ⟨line :: more, by rw [List.length_cons, length, List.length_cons], ?_,
        sameLast.trans same⟩
      rwa [List.append_assoc] at last

/-- Lines that have no room fill the page first and then turn it. -/
theorem overflows (paging : Paging query ctx heading renderer done current)
    (isHeading : query.heading = some heading) (active : 0 < ctx.pageLength)
    (plain : ∀ event ∈ events, event.isTemplate = false)
    (short : current.length ≤ ctx.pageLength)
    (long : ctx.pageLength < current.length + events.length) :
    ∃ (turned : Renderer) (rest : List (Event Number)) (closed : List Line) (first line : Line),
      events.foldl (Renderer.renderEvent query ctx) renderer =
        rest.foldl (Renderer.renderEvent query ctx) turned ∧
      (∀ event ∈ rest, event.isTemplate = false) ∧
      Paging query ctx heading turned (done ++ [closed]) [first, line] ∧
      turned.footingEmittedThisPage = false ∧
      closed.length = ctx.pageLength + missingFootings query renderer := by
  obtain ⟨room, isRoom⟩ := Int.le.dest short
  have inside : room < events.length := by omega
  have parts : events = events.take room ++ events[room] :: events.drop (room + 1) := by
    rw [List.getElem_cons_drop, List.take_append_drop]
  have taken : (events.take room).length = room := List.length_take_of_le inside.le
  obtain ⟨more, length, filled, same⟩ := @fits query ctx heading renderer done current _ _ _
    (events.take room) paging (fun event member => plain event (List.mem_of_mem_take member))
    (by rw [taken]; omega)
  have full : (current ++ more).length = ctx.pageLength := by
    rw [List.length_append, length, taken]
    omega
  obtain ⟨closed, first, line, turned, unfooted, closedLength⟩ := filled.turns isHeading active
    (plain _ (List.getElem_mem inside)) full.ge
  refine ⟨_, events.drop (room + 1), closed, first, line, ?_,
    fun event member => plain event (List.mem_of_mem_drop member), turned, unfooted, ?_⟩
  · conv_lhs => rw [parts]
    rw [List.foldl_append, List.foldl_cons]
  · unfold missingFootings at *
    rw [closedLength, same]
    omega

/-- Behind a page that was turned no footing is printed. -/
theorem unfooted_run (paging : Paging query ctx heading renderer done current)
    (isHeading : query.heading = some heading) (active : 0 < ctx.pageLength)
    (plain : ∀ event ∈ events, event.isTemplate = false)
    (unfooted : renderer.footingEmittedThisPage = false) :
    ∃ done current,
      Paging query ctx heading (events.foldl (Renderer.renderEvent query ctx) renderer) done
        current ∧
          (events.foldl (Renderer.renderEvent query ctx) renderer).footingEmittedThisPage =
            false := by
  refine run (fun renderer _ _ => renderer.footingEmittedThisPage = false) plain ?_ paging
    unfooted
  intro renderer done current event plain paging unfooted
  by_cases room : current.length < ctx.pageLength
  · obtain ⟨line, next, same⟩ := paging.stays plain room
    exact ⟨_, _, next, same.trans unfooted⟩
  · obtain ⟨closed, first, line, next, turned, -⟩ :=
      paging.turns isHeading active plain (not_lt.mp room)
    exact ⟨_, _, next, turned⟩

/-- While no footing is printed an overfull page stays one. -/
theorem overfull_run (paging : Paging query ctx heading renderer done current)
    (isHeading : query.heading = some heading) (active : 0 < ctx.pageLength)
    (plain : ∀ event ∈ events, event.isTemplate = false) (overfull : Overfull ctx done current) :
    ∃ done current,
      Paging query ctx heading (events.foldl (Renderer.renderEvent query ctx) renderer) done
        current ∧ Overfull ctx done current := by
  refine run (fun _ done current => Overfull ctx done current) plain ?_ paging overfull
  intro renderer done current event plain paging overfull
  obtain ⟨page, member, long⟩ := overfull
  rcases List.mem_append.mp member with isDone | isCurrent
  · by_cases room : current.length < ctx.pageLength
    · obtain ⟨line, next, -⟩ := paging.stays plain room
      exact ⟨_, _, next, page, List.mem_append_left _ isDone, long⟩
    · obtain ⟨closed, first, line, next, -, -⟩ :=
        paging.turns isHeading active plain (not_lt.mp room)
      exact ⟨_, _, next, page, List.mem_append_left _ (List.mem_append_left _ isDone), long⟩
  · cases List.mem_singleton.mp isCurrent
    obtain ⟨closed, first, line, next, -, length⟩ := paging.turns isHeading active plain long.le
    refine ⟨_, _, next, closed, by simp, ?_⟩
    omega

/-- Without footings no page is overfull. -/
theorem short_run (paging : Paging query ctx heading renderer done current)
    (isHeading : query.heading = some heading) (active : 2 ≤ ctx.pageLength)
    (noFooting : query.footing = none) (plain : ∀ event ∈ events, event.isTemplate = false)
    (short : ¬ Overfull ctx done current) :
    ∃ done current,
      Paging query ctx heading (events.foldl (Renderer.renderEvent query ctx) renderer) done
        current ∧ ¬ Overfull ctx done current := by
  refine run (fun _ done current => ¬ Overfull ctx done current) plain ?_ paging short
  intro renderer done current event plain paging short
  have longest : ∀ page ∈ done ++ [current], page.length ≤ ctx.pageLength := fun page member =>
    not_lt.mp fun long => short ⟨page, member, long⟩
  by_cases room : current.length < ctx.pageLength
  · obtain ⟨line, next, -⟩ := paging.stays plain room
    refine ⟨_, _, next, ?_⟩
    rintro ⟨page, member, long⟩
    rcases List.mem_append.mp member with isDone | isCurrent
    · exact absurd (longest page (List.mem_append_left _ isDone)) (not_le.mpr long)
    · rw [List.mem_singleton.mp isCurrent, List.length_append, List.length_singleton] at long
      omega
  · obtain ⟨closed, first, line, next, -, length⟩ :=
      paging.turns isHeading (by omega) plain (not_lt.mp room)
    have noneMissing : missingFootings query renderer = 0 := by
      unfold missingFootings
      rw [noFooting]
      rfl
    have bound := longest current (by simp)
    refine ⟨_, _, next, ?_⟩
    rintro ⟨page, member, long⟩
    rcases List.mem_append.mp member with isDone | isCurrent
    · rcases List.mem_append.mp isDone with before | isClosed
      · exact absurd (longest page (List.mem_append_left _ before)) (not_le.mpr long)
      · rw [List.mem_singleton.mp isClosed, length, noneMissing] at long
        omega
    · rw [List.mem_singleton.mp isCurrent, List.length_cons, List.length_singleton] at long
      omega

end Paging

end Events

/-! ## Whole reports -/

/-- Whether a page so far is a page. -/
theorem isPage_iff (isHeading : query.heading = some heading) {number : ℤ} {footed : Bool}
    {page : List Line} (soFar : PageSoFar query ctx heading number footed page) :
    IsPage query ctx number page ↔
      page.length ≤ ctx.pageLength ∧ footed = query.footing.isSome := by
  constructor
  · intro isPage
    refine ⟨isPage.length, ?_⟩
    cases isTemplate : query.footing with
    | none =>
        cases footed with
        | false => rfl
        | true =>
            obtain ⟨template, -, given, -⟩ := soFar.footing rfl
            rw [isTemplate] at given
            cases given
    | some template =>
        cases footed with
        | true => rfl
        | false =>
            obtain ⟨line, -, isLine⟩ := isPage.footing template isTemplate
            rw [soFar.noFooting rfl] at isLine
            cases isLine
  · rintro ⟨length, isFooted⟩
    refine ⟨fun template given => ?_, length, fun template given => ?_⟩
    · rw [isHeading] at given
      cases given
      exact soFar.starts
    · rw [Option.mem_def.mp given] at isFooted
      obtain ⟨other, line, isOther, prints, isLine⟩ := soFar.footing isFooted
      rw [Option.mem_def.mp given] at isOther
      cases isOther
      exact ⟨line, prints, isLine⟩

/-- The pages are as they should be when none is overfull and the last one has its footing. -/
theorem isPages_iff (isHeading : query.heading = some heading)
    (paging : Paging query ctx heading renderer done current) :
    (∀ (index : ℕ) (page : List Line), (pages renderer.lines)[index]? = some page →
      IsPage query ctx (ctx.pageNumber + index) page) ↔
        ¬ Overfull ctx done current ∧ renderer.footingEmittedThisPage = query.footing.isSome := by
  have lastPage : (pages renderer.lines)[done.length]? = some current := by
    rw [paging.cut]
    simp
  constructor
  · intro fit
    refine ⟨?_, ((isPage_iff isHeading paging.opened).mp (fit _ _ lastPage)).2⟩
    rintro ⟨page, member, long⟩
    rw [← paging.cut] at member
    obtain ⟨index, isPage⟩ := List.mem_iff_getElem?.mp member
    exact absurd (fit index page isPage).length (not_le.mpr long)
  · rintro ⟨short, footed⟩ index page isPage
    rw [paging.cut] at isPage
    have length : page.length ≤ ctx.pageLength := not_lt.mp fun long =>
      short ⟨page, List.mem_of_getElem? isPage, long⟩
    rw [List.getElem?_append] at isPage
    split at isPage
    · exact (isPage_iff isHeading (paging.closed index page isPage)).mpr ⟨length, rfl⟩
    · next beyond =>
        rcases isIndex : index - done.length with _ | more
        · rw [isIndex] at isPage
          cases isPage
          have same : index = done.length := by omega
          rw [same]
          exact (isPage_iff isHeading paging.opened).mpr ⟨length, footed⟩
        · rw [isIndex] at isPage
          cases isPage

/-- The first heading starts the first page. -/
theorem paging_heading (query : Query) (ctx : FormatterContext) (heading : String) :
    ∃ line, Paging query ctx heading
      (Renderer.putTemplate ctx { pageNumber := ctx.pageNumber } .heading heading) [] [line] := by
  refine ⟨⟨.heading, renderReportTemplate ctx ctx.pageNumber none heading⟩, ?_⟩
  exact {
    cut := @splitOnP_concat _ isSeparator [] [] [] _ List.splitOnP_nil rfl
    number := (add_zero _).symm
    count := rfl
    closed := nofun
    opened := {
      starts := ⟨_, rfl, none, by simp⟩
      footing := nofun
      noFooting := fun _ => rfl } }

section Rows

variable {Number : Type} [AddMonoid Number]

/-- The rows are laid out without headings and footings. -/
theorem planRows_plain (query : Query) (rows : List (Row Number)) :
    ∀ event ∈ (planRows query rows).events, event.isTemplate = false := by
  induction rows using List.reverseRecOn with
  | nil => nofun
  | append_singleton rows row hypothesis =>
      unfold planRows at *
      rw [List.foldl_concat]
      generalize rows.foldl (PlanLoop.step query) _ = loop at *
      have boundary : ∀ event ∈ (loop.boundary query).events, event.isTemplate = false := by
        unfold PlanLoop.boundary
        intro event member
        split at member
        · rcases List.mem_append.mp member with before | inside
          · exact hypothesis event before
          · rcases List.mem_pair.mp inside with rfl | rfl
            · rfl
            · rfl
        · rcases List.mem_append.mp member with before | inside
          · exact hypothesis event before
          · cases List.mem_singleton.mp inside
            rfl
      intro event member
      unfold PlanLoop.step at member
      rcases List.mem_append.mp member with before | isRow
      · rw [addend_events] at before
        split at before
        · exact boundary event before
        · exact hypothesis event before
      · cases List.mem_singleton.mp isRow
        rfl

/-- So is the body. -/
theorem bodyEvents_plain (query : Query) (rows : List (Row Number)) :
    ∀ event ∈ bodyEvents query rows, event.isTemplate = false := by
  intro event member
  rcases List.mem_append.mp member with inRows | isTotal
  · exact planRows_plain query rows event inRows
  · obtain ⟨token, -, rfl⟩ := List.mem_map.mp isTotal
    rfl

variable [DecidableEq Number] [Totals Number]

/-- A total is one line. -/
theorem length_totalLines (rows : List (Row Number)) :
    (totalLines query rows).length = if query.totalField.isSome then 1 else 0 := by
  unfold totalLines
  cases query.totalField <;> rfl

/-- The lines of the groups: their rows, and those at the end of each but the last. -/
theorem length_groupedLines (groups : List (List (Row Number))) :
    (groupedLines query groups).length =
      groups.flatten.length + (groups.length - 1) * (if query.totalField.isSome then 2 else 1) := by
  have boundary : ∀ group : List (Row Number), (rowLines query group ++
      (totalLines query group ++ [renderBreakLine])).length =
        group.length + if query.totalField.isSome then 2 else 1 := by
    intro group
    rw [List.length_append, List.length_append, length_totalLines, rowLines, List.length_map]
    split <;> rfl
  rcases List.eq_nil_or_concat groups with rfl | ⟨front, last, rfl⟩
  · simp [groupedLines, rowLines]
  rw [List.concat_eq_append]
  unfold groupedLines
  rw [List.dropLast_concat, List.getLast?_concat, List.length_append, List.flatten_append,
    List.flatten_singleton, List.length_append, List.length_append, List.length_singleton,
    Nat.add_sub_cancel]
  have lastRows : (rowLines query ((some last).getD [])).length = last.length := List.length_map _
  have frontRows : (front.flatMap fun group => rowLines query group ++
      (totalLines query group ++ [renderBreakLine])).length =
        front.flatten.length + front.length * (if query.totalField.isSome then 2 else 1) := by
    induction front with
    | nil => simp
    | cons group front hypothesis =>
        rw [List.flatMap_cons, List.length_append, hypothesis, boundary, List.flatten_cons,
          List.length_append, List.length_cons]
        ring
  rw [lastRows, frontRows]
  ring

/-- The lines of the body. -/
theorem length_bodyEvents (query : Query) (rows : List (Row Number)) :
    (bodyEvents query rows).length = bodySize query rows := by
  have isRows : (groups query rows).flatten = rows := List.flatten_splitBy _ rows
  rw [← @length_eventLines query _ _ _ _ (bodyEvents_plain query rows), bodyEvents_lines,
    List.length_append, length_groupedLines, length_totalLines, isRows]
  rfl

/-- A report prints its heading, its body, its footing and its trailing lines. -/
theorem printed_eq (isHeading : query.heading = some heading) (rows : List (Row Number))
    (trailingLines : List String) : printed query ctx rows trailingLines =
      ((trailingLines.map (Event.trailing : String → Event Number)).foldl
        (Renderer.renderEvent query ctx)
        ((query.footing.toList.map (Event.footing : String → Event Number)).foldl
          (Renderer.renderEvent query ctx)
          ((bodyEvents query rows).foldl (Renderer.renderEvent query ctx)
            (Renderer.putTemplate ctx { pageNumber := ctx.pageNumber } .heading
              heading)))).lines := by
  unfold printed events
  rw [List.foldl_append, List.foldl_append, List.foldl_append, isHeading]
  rfl

end Rows

end Printing

section Footed

variable {Number : Type} [DecidableEq Number] [Totals Number] {query : Query}
  {ctx : FormatterContext} {heading template : String} {renderer : Renderer} {current : List Line}
  {body : List (Event Number)}

/-- The renderer behind the lines of the body and the footing. -/
def Renderer.footed (query : Query) (ctx : FormatterContext) (renderer : Renderer)
    (body : List (Event Number)) (template : String) : Renderer :=
  (body.foldl (renderEvent query ctx) renderer).renderEvent query ctx
    (.footing template : Event Number)

/-- A body that has room with its footing stays on its page. -/
theorem Paging.footed_fits (paging : Paging query ctx heading renderer [] current)
    (isTemplate : query.footing = some template)
    (unfooted : renderer.footingEmittedThisPage = false)
    (plain : ∀ event ∈ body, event.isTemplate = false)
    (room : current.length + body.length + 1 ≤ ctx.pageLength) :
    ∃ page : List Line, page.length = current.length + body.length + 1 ∧
      Paging query ctx heading (renderer.footed query ctx body template) [] page ∧
        (renderer.footed query ctx body template).footingEmittedThisPage = true := by
  obtain ⟨more, length, filled, same⟩ := paging.fits plain (by omega)
  obtain ⟨line, emitted, footed⟩ := filled.footing_event Number isTemplate (same.trans unfooted)
  refine ⟨_, ?_, emitted, footed⟩
  rw [List.length_append, List.length_append, List.length_singleton, length]

/-- One that has none makes a page overfull. -/
theorem Paging.footed_overflows (paging : Paging query ctx heading renderer [] current)
    (isHeading : query.heading = some heading) (active : 0 < ctx.pageLength)
    (isTemplate : query.footing = some template)
    (unfooted : renderer.footingEmittedThisPage = false)
    (plain : ∀ event ∈ body, event.isTemplate = false) (short : current.length ≤ ctx.pageLength)
    (noRoom : ctx.pageLength < current.length + body.length + 1) :
    ∃ done page, Paging query ctx heading (renderer.footed query ctx body template) done page ∧
      Overfull ctx done page := by
  by_cases room : current.length + body.length ≤ ctx.pageLength
  · obtain ⟨more, length, filled, same⟩ := paging.fits plain room
    obtain ⟨line, emitted, -⟩ := filled.footing_event Number isTemplate (same.trans unfooted)
    refine ⟨_, _, emitted, _, List.mem_append_right _ (List.mem_singleton_self _), ?_⟩
    rw [List.length_append, List.length_append, List.length_singleton, length]
    omega
  · obtain ⟨turned, rest, closed, first, line, isRun, restPlain, turnedPaging, -, length⟩ :=
      paging.overflows isHeading active plain short (by omega)
    have oneMissing : missingFootings query renderer = 1 := by
      unfold missingFootings
      rw [isTemplate, unfooted]
      rfl
    have overfull : Overfull ctx [closed] [first, line] :=
      ⟨closed, List.mem_cons_self, by rw [length, oneMissing]; omega⟩
    obtain ⟨done, page, filled, overfull⟩ :=
      turnedPaging.overfull_run isHeading active restPlain overfull
    obtain ⟨-, -, -, stillUnfooted⟩ := paging.unfooted_run isHeading active plain unfooted
    rw [← isRun] at filled
    obtain ⟨line, emitted, -⟩ := filled.footing_event Number isTemplate stillUnfooted
    exact ⟨_, _, emitted, overfull.concat line⟩

end Footed

/-- The pages of a report with a heading are as they should be exactly when it has no footing or
fits on one page. -/
theorem pagesFit_iff {Number : Type} [DecidableEq Number] [Totals Number] [AddMonoid Number]
    (query : Query) (ctx : FormatterContext) (rows : List (Row Number))
    (trailingLines : List String) (hasHeading : query.heading.isSome)
    (threeLines : 3 ≤ ctx.pageLength) :
    PagesFit query ctx rows trailingLines ↔
      query.footing = none ∨ 2 + bodySize query rows + trailingLines.length ≤ ctx.pageLength := by
  obtain ⟨heading, isHeading⟩ := Option.isSome_iff_exists.mp hasHeading
  have active : 0 < ctx.pageLength := by omega
  have plain := bodyEvents_plain query rows
  have trailingPlain : ∀ event ∈ trailingLines.map (Event.trailing : String → Event Number),
      event.isTemplate = false := by
    intro event member
    obtain ⟨line, -, rfl⟩ := List.mem_map.mp member
    rfl
  have length := length_bodyEvents query rows
  have trailingLength : (trailingLines.map (Event.trailing : String → Event Number)).length =
      trailingLines.length := List.length_map _
  obtain ⟨first, start⟩ := paging_heading query ctx heading
  unfold PagesFit
  rw [printed_eq isHeading]
  cases isFooting : query.footing with
  | none =>
      have notOverfull : ¬ Overfull ctx [] [first] := by
        rintro ⟨page, member, long⟩
        rw [List.mem_singleton.mp member, List.length_singleton] at long
        omega
      obtain ⟨done, current, body, short⟩ :=
        start.short_run isHeading (by omega) isFooting plain notOverfull
      obtain ⟨done, current, whole, short⟩ :=
        body.short_run isHeading (by omega) isFooting trailingPlain short
      refine iff_of_true ((isPages_iff isHeading whole).mpr ⟨short, ?_⟩) (.inl rfl)
      rw [isFooting]
      exact whole.unfooted_of_none isFooting
  | some template =>
      rw [or_iff_right (Option.some_ne_none template)]
      change (∀ (index : ℕ) (page : List Line),
        (pages (List.foldl _ (Renderer.footed query ctx _ (bodyEvents query rows) template)
          _).lines)[index]? = some page → _) ↔ _
      by_cases bodyFits : 2 + bodySize query rows ≤ ctx.pageLength
      · obtain ⟨page, pageLength, footed, isFooted⟩ := start.footed_fits isFooting rfl plain
          (by rw [length, List.length_singleton]; omega)
        rw [length, List.length_singleton] at pageLength
        by_cases allFit : 2 + bodySize query rows + trailingLines.length ≤ ctx.pageLength
        · obtain ⟨more, moreLength, whole, same⟩ := footed.fits trailingPlain
            (by rw [trailingLength]; omega)
          rw [trailingLength] at moreLength
          refine iff_of_true ((isPages_iff isHeading whole).mpr ⟨?_, ?_⟩) allFit
          · rintro ⟨other, member, long⟩
            rw [List.mem_singleton.mp member, List.length_append] at long
            omega
          · rw [isFooting, same, isFooted]
            rfl
        · obtain ⟨turned, rest, closed, first, line, isRun, restPlain, turnedPaging, unfooted, -⟩ :=
            footed.overflows isHeading active trailingPlain (by omega)
              (by rw [trailingLength]; omega)
          obtain ⟨done, last, whole, unfooted⟩ :=
            turnedPaging.unfooted_run isHeading active restPlain unfooted
          rw [← isRun] at whole unfooted
          refine iff_of_false (fun fit => ?_) allFit
          have lastFooted := ((isPages_iff isHeading whole).mp fit).2
          rw [unfooted, isFooting] at lastFooted
          cases lastFooted
      · obtain ⟨done, page, footed, overfull⟩ := start.footed_overflows isHeading active isFooting
          rfl plain (by rw [List.length_singleton]; omega)
          (by rw [length, List.length_singleton]; omega)
        obtain ⟨done, last, whole, overfull⟩ :=
          footed.overfull_run isHeading active trailingPlain overfull
        exact iff_of_false (fun fit => ((isPages_iff isHeading whole).mp fit).1 overfull) (by omega)

/-! ## Reports that fit and that do not -/

section Examples

/-- Whole numbers are printed as they are. -/
@[reducible] def wholeTotals : Totals ℤ := ⟨id, id, toString⟩

/-- A report with a heading and a footing. -/
def pageReport : Query where
  verb := .LIST
  fileName := "CUSTOMERS"
  heading := some "Page @PAGE"
  footing := some "end @PAGE"

/-- Pages of three lines. -/
def threeLines : FormatterContext where
  pageLength := 3

/-- A row with its id alone. -/
def customer (id : String) : Row ℤ where
  id
  projectedFields := []
  breakKey := ""
  totalAddend := 0
  headingAttrs := []

/-- One row fits with its heading and its footing. -/
theorem one_customer_fits :
    @PagesFit pageReport threeLines ℤ _ wholeTotals _ [customer "R1"] [] :=
  (@pagesFit_iff ℤ _ wholeTotals _ pageReport threeLines [customer "R1"] [] rfl (by decide)).mpr
    (.inr (by decide))

/-- Three rows give a first page of four lines. -/
theorem three_customers_overfull : ¬ @PagesFit pageReport threeLines ℤ _ wholeTotals _
    [customer "R1", customer "R2", customer "R3"] [] := by
  intro fit
  have lengths : (pages (@printed pageReport threeLines ℤ _ wholeTotals _
      [customer "R1", customer "R2", customer "R3"] []))[0]?.map List.length = some 4 := by
    decide +kernel
  obtain ⟨page, isPage, length⟩ := Option.map_eq_some_iff.mp lengths
  have short := (fit 0 page isPage).length
  rw [length] at short
  exact absurd short (by decide)

end Examples

end Gemini.English
