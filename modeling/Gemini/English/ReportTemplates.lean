import Gemini.English.Pages
import Gemini.PickFS.StructuredRecord
import Gemini.VM.Numerals

/-!
# The attributes of a report template

Before the rows are produced, `maxTemplateAttributeIndex` looks for the largest attribute that the
heading and the footing name, and each row keeps its attributes up to that one. The formatter
reads the templates with a loop of its own. Both find the same numbers, so that a heading or
a footing that comes after a row has every attribute that the record of the row has.
-/

namespace Gemini.English

open Gemini.PickFS (StructuredRecord)
open Gemini.VM (stoi stoi_digits intMax)

/-! ## Rows -/

/-- The largest attribute so far, after a word of digits. -/
def raiseMaxAttr (maxAttr : ℤ) (token : List Char) : ℤ :=
  match stoi token with
  | some (attrNo, _) => if maxAttr < attrNo then attrNo else maxAttr
  | none => maxAttr

/-- The loop of `maxTemplateAttributeIndex`, after the characters that are already used up. -/
def scanTemplate : ℕ → List Char → ℤ → ℤ
  | _, [], maxAttr => maxAttr
  | used + 1, _ :: rest, maxAttr => scanTemplate used rest maxAttr
  | 0, c :: rest, maxAttr =>
      if c ≠ '@' then scanTemplate 0 rest maxAttr
      else if rest.head? = some '@' then scanTemplate 1 rest maxAttr
      else if !rest.head?.any Char.isDigit then scanTemplate 0 rest maxAttr
      else
        let token := rest.takeWhile Char.isAlphanum
        scanTemplate token.length rest
          (if token.all Char.isDigit then raiseMaxAttr maxAttr token else maxAttr)

/-- The largest attribute that a template names. -/
def maxTemplateAttributeIndex (tpl : String) : ℤ := scanTemplate 0 tpl.toList 0

/-- The cell of an attribute, empty when the record does not have it. -/
def headingAttr (rec : StructuredRecord) (n : ℕ) : String :=
  if rec.hasAttribute n then (rec.attributeAt n).firstValue else ""

/-- The first values of the attributes that templates may name. -/
def materializeHeadingAttrs (rec : StructuredRecord) (maxAttr : ℤ) : List String :=
  (List.range maxAttr.toNat).map fun n => headingAttr rec (n + 1)

section Rows

variable (query : Query)

/-- The templates of a query. -/
def templates : List String := query.heading.toList ++ query.footing.toList

/-- The largest attribute that the templates of a query name. -/
def templateMaxAttr : ℤ :=
  (templates query).foldl (fun maxAttr tpl => max maxAttr (maxTemplateAttributeIndex tpl)) 0

/-- The attributes that a row keeps for the templates. -/
def headingAttrs (rec : Option StructuredRecord) : List String :=
  match rec with
  | some rec =>
      if 0 < templateMaxAttr query then materializeHeadingAttrs rec (templateMaxAttr query) else []
  | none => []

/-- What the fields of a query give for a record, which may be missing. -/
structure RowCells (Number : Type) where
  materializeProjection : Option StructuredRecord → List String
  materializeBreakKey : Option StructuredRecord → String
  totalAddend : Option StructuredRecord → Number

/-- The row that `produceRows` makes of a record. -/
def produceRow {Number : Type} (cells : RowCells Number) (id : String)
    (rec : Option StructuredRecord) : Row Number where
  id
  projectedFields := cells.materializeProjection rec
  breakKey := cells.materializeBreakKey rec
  totalAddend := cells.totalAddend rec
  headingAttrs := headingAttrs query rec

end Rows

/-! ## The pieces of a template -/

/-- A character that stays, or an `@` with a word after it. -/
inductive TemplatePiece where
  | char (c : Char)
  | token (letters : List Char)

/-- A template taken apart as `renderReportTemplate` does. -/
def templatePieces : ℕ → List Char → List TemplatePiece
  | _, [] => []
  | used + 1, _ :: rest => templatePieces used rest
  | 0, c :: rest =>
      if c ≠ '@' then .char c :: templatePieces 0 rest
      else if rest.head? = some '@' then .char '@' :: templatePieces 1 rest
      else
        let token := rest.takeWhile Char.isAlphanum
        if token = [] then .char '@' :: templatePieces 0 rest
        else .token token :: templatePieces token.length rest

/-- What a piece of a template is filled in with. -/
def TemplatePiece.expand (ctx : FormatterContext) (pageNumber : ℤ)
    (headingAttrs : Option (List String)) : TemplatePiece → List Char
  | .char c => [c]
  | .token letters => expandToken ctx pageNumber headingAttrs letters

/-- The number that a piece names. -/
def TemplatePiece.attributeToken : TemplatePiece → Option (List Char)
  | .char _ => none
  | .token letters => if letters.all Char.isDigit then some letters else none

/-- The words of digits that `renderReportTemplate` expands. -/
def attributeTokens (tpl : String) : List (List Char) :=
  (templatePieces 0 tpl.toList).filterMap TemplatePiece.attributeToken

/-! ## The two loops -/

/-- A template is filled in piece by piece. -/
theorem expandTemplate_pieces (ctx : FormatterContext) (pageNumber : ℤ)
    (headingAttrs : Option (List String)) (used : ℕ) (text : List Char) :
    expandTemplate ctx pageNumber headingAttrs used text =
      (templatePieces used text).flatMap (TemplatePiece.expand ctx pageNumber headingAttrs) := by
  fun_induction templatePieces used text with
  | case1 used => rw [expandTemplate, List.flatMap_nil]
  | case2 used c rest inductionHypothesis => rw [expandTemplate, inductionHypothesis]
  | case3 c rest plain inductionHypothesis =>
      rw [expandTemplate, if_pos plain, inductionHypothesis]
      rfl
  | case4 c rest isAt doubled inductionHypothesis =>
      rw [expandTemplate, if_neg isAt, if_pos doubled, inductionHypothesis]
      rfl
  | case5 c rest isAt single token bare inductionHypothesis =>
      have bare : rest.takeWhile Char.isAlphanum = [] := bare
      rw [expandTemplate, if_neg isAt, if_neg single, bare, if_pos rfl, inductionHypothesis]
      rfl
  | case6 c rest isAt single token word inductionHypothesis =>
      have word : ¬ rest.takeWhile Char.isAlphanum = [] := word
      rw [expandTemplate, if_neg isAt, if_neg single]
      dsimp only
      rw [if_neg word, inductionHypothesis]
      rfl

/-- Without an `@` among them, characters are passed whether they are used up or not. -/
theorem scanTemplate_skip (used : ℕ) (text : List Char) (maxAttr : ℤ)
    (noAt : ∀ c ∈ text.take used, c ≠ '@') :
    scanTemplate used text maxAttr = scanTemplate 0 text maxAttr := by
  induction used generalizing text with
  | zero => rfl
  | succ used inductionHypothesis =>
      cases text with
      | nil => rw [scanTemplate, scanTemplate]
      | cons c rest =>
          obtain ⟨plain, noAt⟩ := List.forall_mem_cons.mp noAt
          rw [scanTemplate, scanTemplate, if_pos plain]
          exact inductionHypothesis rest noAt

/-- The letters and digits at the front hold no `@`. -/
theorem ne_at_of_mem_word {text : List Char} :
    ∀ c ∈ text.take (text.takeWhile Char.isAlphanum).length, c ≠ '@' := by
  intro c member
  rw [← List.prefix_iff_eq_take.mp (List.takeWhile_prefix _)] at member
  have letter := List.mem_takeWhile_imp member
  rintro rfl
  cases letter

/-- No digit stands where no word does. -/
theorem noDigit_of_bare {text : List Char} (bare : text.takeWhile Char.isAlphanum = []) :
    (!text.head?.any Char.isDigit) = true := by
  cases text with
  | nil => rfl
  | cons c rest =>
      have noWord : c.isAlphanum = false := by
        by_contra letter
        rw [List.takeWhile_cons_of_pos (by simpa using letter)] at bare
        cases bare
      simpa using (Bool.or_eq_false_iff.mp noWord).2

/-- A word that starts with a letter is not a number. -/
theorem mixed_of_letter {text : List Char} (word : text.takeWhile Char.isAlphanum ≠ [])
    (noDigit : (!text.head?.any Char.isDigit) = true) :
    ¬ (text.takeWhile Char.isAlphanum).all Char.isDigit = true := by
  cases text with
  | nil => exact absurd rfl word
  | cons c rest =>
      have noDigit : c.isDigit = false := by simpa using noDigit
      by_cases letter : c.isAlphanum = true
      · rw [List.takeWhile_cons_of_pos letter]
        simp [noDigit]
      · exact absurd (List.takeWhile_cons_of_neg letter) word

/-- `maxTemplateAttributeIndex` sees the numbers that `renderReportTemplate` expands. -/
theorem scanTemplate_pieces (used : ℕ) (text : List Char) (maxAttr : ℤ) :
    scanTemplate used text maxAttr =
      ((templatePieces used text).filterMap TemplatePiece.attributeToken).foldl raiseMaxAttr
        maxAttr := by
  fun_induction templatePieces used text generalizing maxAttr with
  | case1 used => rw [scanTemplate, List.filterMap_nil, List.foldl_nil]
  | case2 used c rest inductionHypothesis => rw [scanTemplate, inductionHypothesis]
  | case3 c rest plain inductionHypothesis =>
      rw [scanTemplate, if_pos plain, inductionHypothesis]
      rfl
  | case4 c rest isAt doubled inductionHypothesis =>
      rw [scanTemplate, if_neg isAt, if_pos doubled, inductionHypothesis]
      rfl
  | case5 c rest isAt single token bare inductionHypothesis =>
      rw [scanTemplate, if_neg isAt, if_neg single, if_pos (noDigit_of_bare bare),
        inductionHypothesis]
      rfl
  | case6 c rest isAt single token word inductionHypothesis =>
      rw [scanTemplate, if_neg isAt, if_neg single, List.filterMap_cons]
      by_cases digit : (!rest.head?.any Char.isDigit) = true
      · -- The scanner passes the letters one by one, the formatter all at once.
        have mixed : TemplatePiece.attributeToken (.token token) = none :=
          if_neg (mixed_of_letter word digit)
        rw [if_pos digit, mixed, ← inductionHypothesis]
        exact (scanTemplate_skip _ rest maxAttr ne_at_of_mem_word).symm
      · rw [if_neg digit, TemplatePiece.attributeToken]
        dsimp only
        rw [inductionHypothesis]
        split <;> rfl

/-! ## The largest number -/

section Largest

variable {Item : Type} {grow : ℤ → Item → ℤ} (grows : ∀ most item, most ≤ grow most item)
include grows

/-- A maximum does not fall. -/
theorem le_foldl_grow (items : List Item) (most : ℤ) : most ≤ items.foldl grow most := by
  induction items generalizing most with
  | nil => exact le_rfl
  | cons item items inductionHypothesis =>
      exact (grows most item).trans (inductionHypothesis _)

/-- A maximum is no less than any of its items. -/
theorem le_foldl_grow_of_mem {items : List Item} {item : Item} {bound : ℤ} (member : item ∈ items)
    (reaches : ∀ most, bound ≤ grow most item) (most : ℤ) : bound ≤ items.foldl grow most := by
  obtain ⟨front, back, rfl⟩ := List.append_of_mem member
  rw [List.foldl_append, List.foldl_cons]
  exact (reaches _).trans (le_foldl_grow grows back _)

end Largest

/-- A token does not lower the maximum. -/
theorem le_raiseMaxAttr (maxAttr : ℤ) (token : List Char) : maxAttr ≤ raiseMaxAttr maxAttr token := by
  unfold raiseMaxAttr
  split
  · split <;> omega
  · exact le_rfl

/-- A number that the formatter reads in a template is not larger than the largest one. -/
theorem le_maxTemplateAttributeIndex {tpl : String} {token rest : List Char} {attrNo : ℤ}
    (expanded : token ∈ attributeTokens tpl) (number : stoi token = some (attrNo, rest)) :
    attrNo ≤ maxTemplateAttributeIndex tpl := by
  rw [maxTemplateAttributeIndex, scanTemplate_pieces]
  refine le_foldl_grow_of_mem le_raiseMaxAttr expanded (fun most => ?_) 0
  rw [raiseMaxAttr, number]
  dsimp only
  split <;> omega

/-- The maximum of the query is no less than that of a template. -/
theorem maxTemplateAttributeIndex_le {query : Query} {tpl : String} (named : tpl ∈ templates query) :
    maxTemplateAttributeIndex tpl ≤ templateMaxAttr query :=
  @le_foldl_grow_of_mem String (fun maxAttr tpl => max maxAttr (maxTemplateAttributeIndex tpl))
    (fun _ _ => le_max_left _ _) _ tpl _ named (fun _ => le_max_right _ _) 0

/-! ## What a template shows -/

/-- The keys of the attributes are of the type `int`. -/
def IntKeys (rec : StructuredRecord) : Prop := ∀ entry ∈ rec.attributes, entry.1 ≤ intMax

/-- The cell of an attribute of the last row, whose record may be missing. -/
def lastRowCell (rec : Option StructuredRecord) (n : ℕ) : String :=
  rec.elim "" fun rec => headingAttr rec n

/-- A piece with the cells of a record: the number after an `@` is that of an attribute. -/
def TemplatePiece.shown (ctx : FormatterContext) (pageNumber : ℤ) (cell : ℕ → String) :
    TemplatePiece → List Char
  | .char c => [c]
  | .token letters =>
      if letters.all Char.isDigit then
        let n := Nat.ofDigitChars 10 letters 0
        if 1 ≤ n then (cell n).toList else []
      else expandToken ctx pageNumber none letters

/-- A template with its cells filled in. -/
def shownTemplate (ctx : FormatterContext) (pageNumber : ℤ) (cell : ℕ → String) (tpl : String) :
    String :=
  String.ofList ((templatePieces 0 tpl.toList).flatMap (TemplatePiece.shown ctx pageNumber cell))

/-- An attribute beyond the `int`s is empty. -/
theorem headingAttr_of_large {rec : StructuredRecord} (bounded : IntKeys rec) {n : ℕ}
    (large : intMax < n) : headingAttr rec n = "" := by
  have missing : rec.hasAttribute n = false := by
    rw [StructuredRecord.hasAttribute, Bool.and_eq_false_iff]
    right
    rw [List.any_eq_false]
    intro entry member
    have small := bounded entry member
    simp only [decide_eq_true_eq]
    omega
  rw [headingAttr, missing]
  rfl

/-- As many attributes are kept as are named. -/
theorem length_materializeHeadingAttrs (rec : StructuredRecord) (maxAttr : ℤ) :
    (materializeHeadingAttrs rec maxAttr).length = maxAttr.toNat := by
  rw [materializeHeadingAttrs, List.length_map, List.length_range]

/-- A kept attribute is that of the record. -/
theorem getD_materializeHeadingAttrs (rec : StructuredRecord) {maxAttr : ℤ} {n : ℕ}
    (within : (n : ℤ) < maxAttr) :
    (materializeHeadingAttrs rec maxAttr).getD n "" = headingAttr rec (n + 1) := by
  have inRange : n < maxAttr.toNat := by omega
  simp [materializeHeadingAttrs, List.getD, inRange]

/-- A number of a template of the query shows the cell of the last row. -/
theorem expandToken_digits {query : Query} {tpl : String} {token : List Char}
    {rec : Option StructuredRecord} (ctx : FormatterContext) (pageNumber : ℤ)
    (bounded : ∀ present ∈ rec, IntKeys present) (named : tpl ∈ templates query)
    (expanded : token ∈ attributeTokens tpl) (isNumber : token.all Char.isDigit = true) :
    expandToken ctx pageNumber (some (headingAttrs query rec)) token =
      let n := Nat.ofDigitChars 10 token 0
      if 1 ≤ n then (lastRowCell rec n).toList else [] := by
  unfold expandToken
  rw [if_pos isNumber]
  have number := stoi_digits fun letter => List.all_eq_true.mp isNumber letter
  have within : ∀ attrNo rest, stoi token = some (attrNo, rest) → attrNo ≤ templateMaxAttr query :=
    fun attrNo rest read => (le_maxTemplateAttributeIndex expanded read).trans
      (maxTemplateAttributeIndex_le named)
  by_cases unread : token = [] ∨ intMax < Nat.ofDigitChars 10 token 0
  · -- The number is not an `int`, so no record has its attribute.
    rw [number, if_pos unread]
    dsimp only
    rcases unread with rfl | large
    · rfl
    · have empty : lastRowCell rec (Nat.ofDigitChars 10 token 0) = "" := by
        cases rec with
        | none => rfl
        | some rec => exact headingAttr_of_large (bounded rec rfl) large
      rw [empty]
      split <;> rfl
  · rw [if_neg unread] at number
    rw [number]
    have within := within _ _ number
    generalize Nat.ofDigitChars 10 token 0 = n at within ⊢
    dsimp only
    cases rec with
    | none => simp [headingAttrs, lastRowCell]
    | some rec =>
        cases n with
        | zero => simp
        | succ n =>
            have attrs : headingAttrs query (some rec) =
                materializeHeadingAttrs rec (templateMaxAttr query) := if_pos (by omega)
            have index : (((n + 1 : ℕ) : ℤ) - 1).toNat = n := by omega
            rw [attrs, if_pos ⟨by omega, by rw [length_materializeHeadingAttrs]; omega⟩, index,
              getD_materializeHeadingAttrs rec (by omega), if_pos (by omega)]
            rfl

/-- A template of the query shows the cells of the last row. -/
theorem renderReportTemplate_lastRow {query : Query} {tpl : String}
    {rec : Option StructuredRecord} (ctx : FormatterContext) (pageNumber : ℤ)
    (bounded : ∀ present ∈ rec, IntKeys present) (named : tpl ∈ templates query) :
    renderReportTemplate ctx pageNumber (some (headingAttrs query rec)) tpl =
      shownTemplate ctx pageNumber (lastRowCell rec) tpl := by
  rw [renderReportTemplate, shownTemplate, expandTemplate_pieces]
  congr 1
  refine List.flatMap_congr fun piece member => ?_
  cases piece with
  | char c => rfl
  | token letters =>
      by_cases isNumber : letters.all Char.isDigit = true
      · have expanded : letters ∈ attributeTokens tpl :=
          List.mem_filterMap.mpr ⟨_, member, if_pos isNumber⟩
        rw [TemplatePiece.expand, expandToken_digits ctx pageNumber bounded named expanded isNumber,
          TemplatePiece.shown, if_pos isNumber]
      · rw [TemplatePiece.expand, TemplatePiece.shown, if_neg isNumber]
        unfold expandToken
        rw [if_neg isNumber, if_neg isNumber]

/-! ## Runs of the renderer -/

/-- The row of an event. -/
def Event.emitted {Number : Type} : Event Number → Option (Row Number)
  | .row projected => some projected
  | _ => none

/-- The row that was emitted last. -/
def lastRow {Number : Type} (events : List (Event Number)) : Option (Row Number) :=
  (events.filterMap Event.emitted).getLast?

/-- The last row is that of the last event, if it has one. -/
theorem lastRow_concat {Number : Type} (events : List (Event Number)) (event : Event Number) :
    lastRow (events ++ [event]) = event.emitted.or (lastRow events) := by
  rw [lastRow, List.filterMap_append, List.getLast?_append]
  cases emitted : event.emitted <;> simp [emitted, lastRow]

section Runs

variable (query : Query) (ctx : FormatterContext)

/-- A line of a template of the query shows the attributes that are kept. -/
def Shows (attrs : Option (List String)) (line : Line) : Prop :=
  line.kind = .heading ∨ line.kind = .footing →
    ∃ tpl ∈ templates query, ∃ pageNumber, line.text = renderReportTemplate ctx pageNumber attrs tpl

/-- What comes to the lines shows the attributes that are kept. -/
structure Grows (before after : Renderer) : Prop where
  attrs : after.lastHeadingAttrs = before.lastHeadingAttrs
  lines : ∃ new, after.lines = before.lines ++ new ∧
    ∀ line ∈ new, Shows query ctx before.lastHeadingAttrs line

variable {query ctx} {before after last : Renderer}

theorem Grows.refl (renderer : Renderer) : Grows query ctx renderer renderer where
  attrs := rfl
  lines := ⟨[], (List.append_nil _).symm, List.forall_mem_nil _⟩

/-- A report grows step by step. -/
theorem Grows.trans (first : Grows query ctx before after) (second : Grows query ctx after last) :
    Grows query ctx before last where
  attrs := second.attrs.trans first.attrs
  lines := by
    obtain ⟨new, lines, shows⟩ := first.lines
    obtain ⟨more, moreLines, moreShows⟩ := second.lines
    rw [first.attrs] at moreShows
    exact ⟨new ++ more, by rw [moreLines, lines, List.append_assoc],
      List.forall_mem_append.mpr ⟨shows, moreShows⟩⟩

theorem heading_mem_templates {tpl : String} (isHeading : query.heading = some tpl) :
    tpl ∈ templates query := by
  simp [templates, isHeading]

theorem footing_mem_templates {tpl : String} (isFooting : query.footing = some tpl) :
    tpl ∈ templates query := by
  simp [templates, isFooting]

namespace Renderer

/-- A line of the body uses no attributes. -/
theorem grows_body (renderer : Renderer) (text : String) :
    Grows query ctx renderer (renderer.put .body text) where
  attrs := rfl
  lines := by
    refine ⟨[⟨.body, text⟩], rfl, List.forall_mem_singleton.mpr ?_⟩
    intro kind
    rcases kind with kind | kind <;> cases kind

/-- Nor does the end of a page. -/
theorem grows_advancePage (renderer : Renderer) : Grows query ctx renderer renderer.advancePage where
  attrs := rfl
  lines := by
    refine ⟨[⟨.separator, ""⟩], rfl, List.forall_mem_singleton.mpr ?_⟩
    intro kind
    rcases kind with kind | kind <;> cases kind

/-- A template uses the attributes that it names. -/
theorem grows_putTemplate (renderer : Renderer) (kind : LineKind) {tpl : String}
    (named : tpl ∈ templates query) : Grows query ctx renderer (renderer.putTemplate ctx kind tpl) where
  attrs := rfl
  lines := ⟨[⟨kind, renderReportTemplate ctx renderer.pageNumber renderer.lastHeadingAttrs tpl⟩], rfl,
    List.forall_mem_singleton.mpr fun _ => ⟨tpl, named, renderer.pageNumber, rfl⟩⟩

/-- So does a footing. -/
theorem grows_emitFooting (renderer : Renderer) {tpl : String} (named : tpl ∈ templates query) :
    Grows query ctx renderer (renderer.emitFooting ctx tpl) where
  attrs := rfl
  lines := (renderer.grows_putTemplate .footing named).lines

/-- So does a break of the page. -/
theorem grows_breakPage (renderer : Renderer) :
    Grows query ctx renderer (renderer.breakPage query ctx) := by
  have footing : Grows query ctx renderer (renderer.emitPageFootingIfNeeded query ctx) := by
    unfold emitPageFootingIfNeeded
    split
    · next tpl isFooting =>
        split
        · exact .refl renderer
        · exact renderer.grows_emitFooting (footing_mem_templates isFooting)
    · exact .refl renderer
  have heading (before : Renderer) : Grows query ctx before (before.emitPageHeading query ctx) := by
    unfold emitPageHeading
    split
    · next tpl isHeading => exact before.grows_putTemplate .heading (heading_mem_templates isHeading)
    · exact .refl before
  exact (footing.trans (grows_advancePage _)).trans (heading _)

/-- So does a line on a new page. -/
theorem grows_emitWithPagination (renderer : Renderer) (line : String) :
    Grows query ctx renderer (renderer.emitWithPagination query ctx line) := by
  unfold emitWithPagination
  split
  · exact renderer.grows_breakPage.trans (grows_body _ line)
  · exact renderer.grows_body line

end Renderer

variable {Number : Type} [DecidableEq Number] [Totals Number]

/-- The template of an event is one of the query. -/
def Event.Named (query : Query) : Event Number → Prop
  | .heading tpl => query.heading = some tpl
  | .footing tpl => query.footing = some tpl
  | _ => True

/-- An event prints templates with the attributes of the row before it. -/
theorem renderEvent_lines {event : Event Number} (named : event.Named query) (renderer : Renderer) :
    ∃ new, (renderer.renderEvent query ctx event).lines = renderer.lines ++ new ∧
      ∀ line ∈ new, Shows query ctx renderer.lastHeadingAttrs line := by
  cases event with
  | heading tpl => exact (renderer.grows_putTemplate .heading (heading_mem_templates named)).lines
  | totalLine fieldToken value => exact (renderer.grows_emitWithPagination _).lines
  | breakLine => exact (renderer.grows_emitWithPagination _).lines
  | row row => exact (renderer.grows_emitWithPagination (renderProjection row query.idSupp)).lines
  | footing tpl =>
      dsimp only [Renderer.renderEvent]
      split
      · exact (renderer.grows_emitFooting (footing_mem_templates named)).lines
      · exact (Grows.refl renderer).lines
  | trailing text => exact (renderer.grows_emitWithPagination _).lines

/-- After an event the attributes of its row are kept, or those that were. -/
theorem renderEvent_attrs (event : Event Number) (renderer : Renderer) :
    (renderer.renderEvent query ctx event).lastHeadingAttrs =
      (event.emitted.map Row.headingAttrs).or renderer.lastHeadingAttrs := by
  cases event with
  | heading tpl => rfl
  | totalLine fieldToken value => exact (renderer.grows_emitWithPagination _).attrs
  | breakLine => exact (renderer.grows_emitWithPagination _).attrs
  | row row => rfl
  | footing tpl =>
      dsimp only [Renderer.renderEvent]
      split <;> rfl
  | trailing text => exact (renderer.grows_emitWithPagination _).attrs

/-- After the events the attributes are those of the last row. -/
theorem render_attrs (events : List (Event Number)) (pageNumber : ℤ) :
    (events.foldl (Renderer.renderEvent query ctx) { pageNumber }).lastHeadingAttrs =
      (lastRow events).map Row.headingAttrs := by
  induction events using List.reverseRecOn with
  | nil => rfl
  | append_singleton events event inductionHypothesis =>
      rw [List.foldl_append, List.foldl_cons, List.foldl_nil, renderEvent_attrs, inductionHypothesis,
        lastRow_concat]
      cases event.emitted <;> rfl

variable [AddMonoid Number]

omit [DecidableEq Number] [Totals Number] in
/-- The templates of a report are those of its query. -/
theorem events_named (query : Query) (rows : List (Row Number)) (trailingLines : List String) :
    ∀ event ∈ events query rows trailingLines, event.Named query := by
  have plain : ∀ event : Event Number, event.isTemplate = false → event.Named query := by
    intro event isPlain
    cases event <;> trivial
  intro event member
  rcases List.mem_append.mp member with member | isTrailing
  · rcases List.mem_append.mp member with member | isFooting
    · rcases List.mem_append.mp member with isHeading | inBody
      · obtain ⟨tpl, present, rfl⟩ := List.mem_map.mp isHeading
        exact Option.mem_toList.mp present
      · exact plain event (bodyEvents_plain query rows event inBody)
    · obtain ⟨tpl, present, rfl⟩ := List.mem_map.mp isFooting
      exact Option.mem_toList.mp present
  · obtain ⟨text, -, rfl⟩ := List.mem_map.mp isTrailing
    trivial

/-- What an event prints of the templates shows the cells of the row before it. -/
def ShowsLastRow (query : Query) (ctx : FormatterContext) (cells : RowCells Number)
    (front : List (Event Number)) (event : Event Number) : Prop :=
  let before := front.foldl (Renderer.renderEvent query ctx) { pageNumber := ctx.pageNumber }
  ∃ new, (before.renderEvent query ctx event).lines = before.lines ++ new ∧
    ∀ line ∈ new, line.kind = .heading ∨ line.kind = .footing →
      ∃ tpl ∈ templates query, ∃ pageNumber, ∀ id rec, (∀ present ∈ rec, IntKeys present) →
        lastRow front = some (produceRow query cells id rec) →
        line.text = shownTemplate ctx pageNumber (lastRowCell rec) tpl

/-- No number that the formatter reads in a template is larger than the largest one that was
looked for, so that each shows its attribute of the row that was emitted last. -/
theorem templates_show_lastRow (query : Query) (ctx : FormatterContext) (cells : RowCells Number)
    {rows : List (Row Number)} {trailingLines : List String} {front back : List (Event Number)}
    {event : Event Number} (planned : events query rows trailingLines = front ++ event :: back) :
    (∀ tpl, ∀ token ∈ attributeTokens tpl, ∀ attrNo rest, stoi token = some (attrNo, rest) →
      attrNo ≤ maxTemplateAttributeIndex tpl) ∧ ShowsLastRow query ctx cells front event := by
  refine ⟨fun tpl token expanded attrNo rest => le_maxTemplateAttributeIndex expanded, ?_⟩
  have named := events_named query rows trailingLines event
    (planned ▸ List.mem_append_right front List.mem_cons_self)
  obtain ⟨new, lines, shows⟩ := @renderEvent_lines query ctx Number _ _ event named
    (front.foldl (Renderer.renderEvent query ctx) { pageNumber := ctx.pageNumber })
  refine ⟨new, lines, fun line isNew isTemplate => ?_⟩
  obtain ⟨tpl, isNamed, pageNumber, text⟩ := shows line isNew isTemplate
  refine ⟨tpl, isNamed, pageNumber, fun id rec bounded last => ?_⟩
  rw [text, render_attrs, last]
  exact renderReportTemplate_lastRow ctx pageNumber bounded isNamed

/-- The footing of a report shows the second attribute of its row. -/
def cityReport : Query where
  verb := .LIST
  fileName := "CUSTOMERS"
  footing := some "to @2, @@2 @A1@9"

/-- A row without fields. -/
def plainCells : RowCells ℤ := ⟨fun _ => [], fun _ => "", fun _ => 0⟩

/-- The one row of the report. -/
def cityRow : Row ℤ :=
  produceRow cityReport plainCells "R1" (some (StructuredRecord.fromRaw "Ann\nOslo"))

/-- A footing shows the city of the row. -/
theorem city_in_footing :
    @events ℤ _ cityReport [cityRow] [] = [.row cityRow] ++ .footing "to @2, @@2 @A1@9" :: [] ∧
    (∀ tpl, ∀ token ∈ attributeTokens tpl, ∀ attrNo rest, stoi token = some (attrNo, rest) →
      attrNo ≤ maxTemplateAttributeIndex tpl) ∧
    @ShowsLastRow ℤ _ wholeTotals cityReport threeLines plainCells [.row cityRow]
      (.footing "to @2, @@2 @A1@9") :=
  ⟨rfl, @templates_show_lastRow ℤ _ wholeTotals _ cityReport threeLines plainCells [cityRow] []
    [.row cityRow] [] (.footing "to @2, @@2 @A1@9") rfl⟩

end Runs

end Gemini.English
