import Mathlib.Data.List.Pairwise
import Mathlib.Data.List.Perm.Basic
import Gemini.English.Parser

/-!
# Queries and the tokens that render them

A query is rendered as its verb, its file, its fields, a `WITH` clause with any body, and its
sort keys, each with `BY` or `BY-DSND` before it. The formatting clauses stand between these
words wherever they like. The parser gives the query back when no argument of a clause is a
keyword, the names are not empty, and the first sort key is ascending: the keys are looked
for from the first `BY` on.
-/

namespace Gemini.English

/-! ## Rendering a query -/

/-- A formatting clause. -/
inductive Clause where
  | heading (text : String)
  | footing (text : String)
  | breakOn (field : String)
  | total (field : String)
  | idSupp
deriving DecidableEq

namespace Clause

/-- The kind of a clause. -/
def kind : Clause → ClauseKind
  | .heading _ => .heading
  | .footing _ => .footing
  | .breakOn _ => .breakOn
  | .total _ => .total
  | .idSupp => .idSupp

/-- The argument of a clause. -/
def argument : Clause → Option String
  | .heading text => some text
  | .footing text => some text
  | .breakOn field => some field
  | .total field => some field
  | .idSupp => none

/-- The words of a clause. -/
def tokens (clause : Clause) : List String := clause.kind.keyword :: clause.argument.toList

/-- The argument of a clause is not taken for the next keyword. -/
def Plain (clause : Clause) : Prop :=
  ∀ argument ∈ clause.argument, isStructuralKeyword argument = false

end Clause

/-- A word of the query, or a clause between the words. -/
inductive Piece where
  | word (token : String)
  | clause (inserted : Clause)

namespace Piece

/-- The words of a piece. -/
def tokens : Piece → List String
  | .word token => [token]
  | .clause inserted => inserted.tokens

/-- The word of a piece that is one. -/
def word? : Piece → Option String
  | .word token => some token
  | .clause _ => none

/-- The clause of a piece that is one. -/
def clause? : Piece → Option Clause
  | .word _ => none
  | .clause inserted => some inserted

end Piece

/-- The words of a sort key. -/
def SortKeySpec.tokens (key : SortKeySpec) : List String :=
  [if key.descending then "BY-DSND" else "BY", key.fieldToken]

/-- The clauses that are given. -/
def Clauses.list (clauses : Clauses) : List Clause :=
  (clauses.heading.map Clause.heading).toList ++ (clauses.footing.map Clause.footing).toList ++
    (clauses.breakOnField.map Clause.breakOn).toList ++
    (clauses.totalField.map Clause.total).toList ++ if clauses.idSupp then [.idSupp] else []

/-- The words of a query after the verb. -/
def Query.words (query : Query) (withBody : Option (List String)) : List String :=
  query.fileName :: (query.fields ++ (withBody.elim [] fun body => "WITH" :: body) ++
    query.sortKeys.flatMap SortKeySpec.tokens)

/-- The pieces render the query: its words in order, and each of its clauses somewhere. -/
structure Renders (query : Query) (withBody : Option (List String)) (pieces : List Piece) : Prop where
  words : pieces.filterMap Piece.word? = query.words withBody
  clauses : (pieces.filterMap Piece.clause?).Perm query.toClauses.list

/-- No name of the query and no word of its `WITH` body is a keyword, and only a `SORT` has
sort keys. -/
structure Renderable (query : Query) (withBody : Option (List String)) : Prop where
  fileName : isStructuralKeyword query.fileName = false
  fields : ∀ field ∈ query.fields, isStructuralKeyword field = false
  withBody : ∀ body ∈ withBody, ∀ token ∈ body, isStructuralKeyword token = false
  sortKeys : ∀ key ∈ query.sortKeys, isStructuralKeyword key.fieldToken = false
  sorted : query.verb ≠ .SORT → query.sortKeys = []

/-- The words of a query. -/
def rendered (query : Query) (pieces : List Piece) : List String :=
  query.verb.keyword :: pieces.flatMap Piece.tokens

/-! ## Stripping the clauses -/

/-- The clauses with one more. -/
def Clauses.add (clauses : Clauses) (clause : Clause) : Clauses :=
  clauses.put (clause.argument.getD "") clause.kind

/-- The keyword of a clause is one. -/
theorem clauseKindOf_keyword (kind : ClauseKind) : clauseKindOf kind.keyword = some kind := by
  cases kind <;> decide

/-- A plain word is no keyword of a clause. -/
theorem clauseKindOf_of_plain {token : String} (plain : isStructuralKeyword token = false) :
    clauseKindOf token = none := by
  unfold isStructuralKeyword at plain
  simpa using (Bool.or_eq_false_iff.mp plain).2

/-- An argument is taken unless it is a keyword. -/
theorem taken_or_refused {text error : String}
    {next outcome : Except String (List String × Clauses)}
    (checked : outcome = if isStructuralKeyword text then .error error else next) :
    ((∀ argument ∈ some text, isStructuralKeyword argument = false) → outcome = next) ∧
      (¬ (∀ argument ∈ some text, isStructuralKeyword argument = false) →
        ∃ error, outcome = .error error) := by
  by_cases keyword : isStructuralKeyword text = true
  · rw [if_pos keyword] at checked
    exact ⟨by simp [keyword], fun _ => ⟨error, checked⟩⟩
  · rw [if_neg keyword] at checked
    exact ⟨fun _ => checked, by simp [keyword]⟩

/-- A clause that has not been seen is recorded, or its argument is refused. -/
theorem stripClauses_clause {clauses : Clauses} {clause : Clause}
    (unseen : clauses.has clause.kind = false) (rest : List String) :
    (clause.Plain → stripClauses clauses (clause.tokens ++ rest) =
      stripClauses (clauses.add clause) rest) ∧
    (¬ clause.Plain → ∃ error, stripClauses clauses (clause.tokens ++ rest) = .error error) := by
  rw [Clause.tokens, List.cons_append, stripClauses, clauseKindOf_keyword]
  simp only [unseen, Bool.false_eq_true, if_false]
  cases clause with
  | idSupp => exact ⟨fun _ => rfl, fun refused => absurd nofun refused⟩
  | heading text => exact taken_or_refused rfl
  | footing text => exact taken_or_refused rfl
  | breakOn field => exact taken_or_refused rfl
  | total field => exact taken_or_refused rfl

/-- One clause more gives no other. -/
theorem has_add {clauses : Clauses} {clause other : Clause} (different : clause.kind ≠ other.kind) :
    (clauses.add clause).has other.kind = clauses.has other.kind := by
  cases clause <;> cases other <;> first | rfl | exact absurd rfl different

/-- Pieces whose words are no clauses are stripped, when each clause is there once. -/
theorem stripClauses_pieces {pieces : List Piece} {clauses : Clauses}
    (words : ∀ word ∈ pieces.filterMap Piece.word?, clauseKindOf word = none)
    (unseen : ∀ clause ∈ pieces.filterMap Piece.clause?, clauses.has clause.kind = false)
    (once : (pieces.filterMap Piece.clause?).Pairwise fun first second =>
      first.kind ≠ second.kind) :
    ((∀ clause ∈ pieces.filterMap Piece.clause?, clause.Plain) →
      stripClauses clauses (pieces.flatMap Piece.tokens) =
        .ok (pieces.filterMap Piece.word?,
          (pieces.filterMap Piece.clause?).foldl Clauses.add clauses)) ∧
    (¬ (∀ clause ∈ pieces.filterMap Piece.clause?, clause.Plain) →
      ∃ error, stripClauses clauses (pieces.flatMap Piece.tokens) = .error error) := by
  induction pieces generalizing clauses with
  | nil => exact ⟨fun _ => rfl, fun refused => absurd nofun refused⟩
  | cons piece rest inductionHypothesis =>
      cases piece with
      | word token =>
          have notClause : clauseKindOf token = none := words token List.mem_cons_self
          have tail := inductionHypothesis
            (fun word member => words word (List.mem_cons_of_mem _ member)) unseen once
          have step : stripClauses clauses (token :: rest.flatMap Piece.tokens) =
              (stripClauses clauses (rest.flatMap Piece.tokens)).map fun stripped =>
                (token :: stripped.1, stripped.2) := by
            rw [stripClauses, notClause]
            cases stripClauses clauses (rest.flatMap Piece.tokens) <;> rfl
          constructor
          · intro plain
            exact step.trans (by rw [tail.1 plain]; rfl)
          · intro refused
            obtain ⟨error, failed⟩ := tail.2 refused
            exact ⟨error, step.trans (by rw [failed]; rfl)⟩
      | clause inserted =>
          obtain ⟨others, once⟩ := List.pairwise_cons.mp once
          have first := stripClauses_clause (unseen inserted List.mem_cons_self)
            (rest.flatMap Piece.tokens)
          have stillUnseen : ∀ clause ∈ rest.filterMap Piece.clause?,
              (clauses.add inserted).has clause.kind = false := by
            intro clause member
            rw [has_add (others clause member)]
            exact unseen clause (List.mem_cons_of_mem _ member)
          have tail := inductionHypothesis words stillUnseen once
          have split : (∀ clause ∈ (Piece.clause inserted :: rest).filterMap Piece.clause?,
              clause.Plain) ↔ inserted.Plain ∧ ∀ clause ∈ rest.filterMap Piece.clause?,
                clause.Plain := List.forall_mem_cons
          rw [split]
          constructor
          · rintro ⟨plain, restPlain⟩
            exact (first.1 plain).trans (tail.1 restPlain)
          · intro refused
            by_cases plain : inserted.Plain
            · obtain ⟨error, failed⟩ := tail.2 fun restPlain => refused ⟨plain, restPlain⟩
              exact ⟨error, (first.1 plain).trans failed⟩
            · exact first.2 plain

/-! ## The clauses of a query -/

/-- No word of a query begins a clause. -/
theorem Renderable.clauseKindOf_words {query : Query} {withBody : Option (List String)}
    (renderable : Renderable query withBody) :
    ∀ word ∈ query.words withBody, clauseKindOf word = none := by
  intro word member
  rcases List.mem_cons.mp member with rfl | member
  · exact clauseKindOf_of_plain renderable.fileName
  rcases List.mem_append.mp member with member | inKeys
  · rcases List.mem_append.mp member with inFields | inWith
    · exact clauseKindOf_of_plain (renderable.fields word inFields)
    · cases withBody with
      | none => cases inWith
      | some body =>
          rcases List.mem_cons.mp inWith with rfl | inBody
          · decide
          · exact clauseKindOf_of_plain (renderable.withBody body rfl word inBody)
  · obtain ⟨key, keyMember, inKey⟩ := List.mem_flatMap.mp inKeys
    rcases List.mem_cons.mp inKey with rfl | isToken
    · cases key.descending <;> decide
    · rw [List.mem_singleton.mp isToken]
      exact clauseKindOf_of_plain (renderable.sortKeys key keyMember)

/-- A query has each clause once. -/
theorem pairwise_list (clauses : Clauses) :
    clauses.list.Pairwise fun first second => first.kind ≠ second.kind := by
  obtain ⟨heading, footing, breakOnField, totalField, idSupp⟩ := clauses
  cases heading <;> cases footing <;> cases breakOnField <;> cases totalField <;> cases idSupp <;>
    simp [Clauses.list, Clause.kind]

/-- The clauses come back from their list. -/
theorem foldl_list (clauses : Clauses) : clauses.list.foldl Clauses.add {} = clauses := by
  obtain ⟨heading, footing, breakOnField, totalField, idSupp⟩ := clauses
  cases heading <;> cases footing <;> cases breakOnField <;> cases totalField <;> cases idSupp <;>
    rfl

/-- Clauses of two kinds may be given in any order. -/
theorem add_add_comm {first second : Clause} (different : first.kind ≠ second.kind)
    (clauses : Clauses) : (clauses.add first).add second = (clauses.add second).add first := by
  cases first <;> cases second <;> first | rfl | exact absurd rfl different

theorem has_empty (kind : ClauseKind) : Clauses.has {} kind = false := by
  cases kind <;> rfl

section Clauses

variable {query : Query} {withBody : Option (List String)} {pieces : List Piece}
  (renders : Renders query withBody pieces)
include renders

/-- No kind of clause is given twice. -/
theorem Renders.once :
    (pieces.filterMap Piece.clause?).Pairwise fun first second => first.kind ≠ second.kind :=
  (renders.clauses.pairwise_iff fun different => Ne.symm different).mpr (pairwise_list _)

/-- The order of the clauses does not matter. -/
theorem Renders.foldl_clauses :
    (pieces.filterMap Piece.clause?).foldl Clauses.add {} = query.toClauses := by
  rw [← foldl_list query.toClauses]
  refine renders.clauses.foldl_eq' ?_ _
  intro first memberFirst second memberSecond clauses
  by_cases same : first = second
  · rw [same]
  · have symmetric : Std.Symm fun first second : Clause => first.kind ≠ second.kind :=
      ⟨fun _ _ different => different.symm⟩
    exact add_add_comm (renders.once.forall memberFirst memberSecond same) clauses

/-- The parser sees the words and the clauses, or refuses the argument of a clause. -/
theorem Renders.stripped (renderable : Renderable query withBody) :
    ((∀ clause ∈ query.toClauses.list, clause.Plain) →
      stripClauses {} (pieces.flatMap Piece.tokens) =
        .ok (query.words withBody, query.toClauses)) ∧
    (¬ (∀ clause ∈ query.toClauses.list, clause.Plain) →
      ∃ error, stripClauses {} (pieces.flatMap Piece.tokens) = .error error) := by
  have words : ∀ word ∈ pieces.filterMap Piece.word?, clauseKindOf word = none := by
    rw [renders.words]
    exact renderable.clauseKindOf_words
  have stripped := stripClauses_pieces words (fun clause _ => has_empty clause.kind) renders.once
  rw [renders.foldl_clauses, renders.words] at stripped
  have same : (∀ clause ∈ pieces.filterMap Piece.clause?, clause.Plain) ↔
      ∀ clause ∈ query.toClauses.list, clause.Plain :=
    forall_congr' fun clause => by rw [renders.clauses.mem_iff]
  rwa [same] at stripped

end Clauses

/-! ## The sort keys -/

/-- A token that names a sort key. -/
def isKeyToken (token : String) : Bool := !isBy token && !isByDsnd token

/-- A plain word is a sort key. -/
theorem isKeyToken_of_plain {token : String} (plain : isStructuralKeyword token = false) :
    isKeyToken token = true := by
  unfold isStructuralKeyword at plain
  simp only [Bool.or_eq_false_iff] at plain
  simp [isKeyToken, plain.1.1.1, plain.1.1.2]

theorem notBy_of_plain {token : String} (plain : isStructuralKeyword token = false) :
    (!isBy token) = true := by
  have field := isKeyToken_of_plain plain
  unfold isKeyToken at field
  exact (Bool.and_eq_true_iff.mp field).1

theorem notWith_of_plain {token : String} (plain : isStructuralKeyword token = false) :
    (!isWith token) = true := by
  unfold isStructuralKeyword at plain
  simp only [Bool.or_eq_false_iff] at plain
  simp [plain.1.2]

/-- The keys that are found are the tokens that name keys, in order. -/
theorem parseSortSection_fields {nextDesc : Bool} {tokens : List String}
    {keys : List SortKeySpec} (parsed : parseSortSection nextDesc tokens = .ok keys) :
    keys.map SortKeySpec.fieldToken = tokens.filter isKeyToken := by
  induction tokens generalizing nextDesc keys with
  | nil =>
      cases nextDesc with
      | true => cases parsed
      | false =>
          cases parsed
          rfl
  | cons token rest inductionHypothesis =>
      unfold parseSortSection at parsed
      split at parsed
      · next by_ =>
          rw [List.filter_cons_of_neg (by simp [isKeyToken, by_])]
          exact inductionHypothesis parsed
      · next notBy =>
          split at parsed
          · next byDsnd =>
              rw [List.filter_cons_of_neg (by simp [isKeyToken, byDsnd])]
              exact inductionHypothesis parsed
          · next notByDsnd =>
              split at parsed
              · cases parsed
              · cases more : parseSortSection false rest with
                | error message =>
                    rw [more] at parsed
                    cases parsed
                | ok others =>
                    rw [more] at parsed
                    cases parsed
                    rw [List.filter_cons_of_pos (by simp [isKeyToken, notBy, notByDsnd]),
                      List.map_cons, inductionHypothesis more]

section Keys

variable {keys : List SortKeySpec}
  (plain : ∀ key ∈ keys, isStructuralKeyword key.fieldToken = false)
include plain

/-- The words of sort keys without their keywords are their fields. -/
theorem filter_keyTokens :
    (keys.flatMap SortKeySpec.tokens).filter isKeyToken = keys.map SortKeySpec.fieldToken := by
  induction keys with
  | nil => rfl
  | cons key rest inductionHypothesis =>
      have introducer : isKeyToken (if key.descending then "BY-DSND" else "BY") = false := by
        cases key.descending <;> decide
      have named := isKeyToken_of_plain (plain key List.mem_cons_self)
      rw [List.flatMap_cons, SortKeySpec.tokens, List.cons_append, List.cons_append,
        List.filter_cons_of_neg (by simp [introducer]), List.filter_cons_of_pos named,
        List.nil_append, List.map_cons,
        inductionHypothesis fun other member => plain other (List.mem_cons_of_mem _ member)]

/-- The keys are found unless one has no name. -/
theorem parseSortSection_keyTokens (named : ∀ key ∈ keys, key.fieldToken ≠ "") :
    parseSortSection false (keys.flatMap SortKeySpec.tokens) = .ok keys := by
  induction keys with
  | nil => rfl
  | cons key rest inductionHypothesis =>
      have tail := inductionHypothesis
        (fun other member => plain other (List.mem_cons_of_mem _ member))
        (fun other member => named other (List.mem_cons_of_mem _ member))
      have token := isKeyToken_of_plain (plain key List.mem_cons_self)
      obtain ⟨notBy, notByDsnd⟩ := Bool.and_eq_true_iff.mp token
      have field (nextDesc : Bool) :
          parseSortSection nextDesc (key.fieldToken :: rest.flatMap SortKeySpec.tokens) =
            .ok ({ fieldToken := key.fieldToken, descending := nextDesc } :: rest) := by
        rw [parseSortSection, if_neg (by simpa using notBy), if_neg (by simpa using notByDsnd),
          if_neg (named key List.mem_cons_self), tail]
        rfl
      rw [List.flatMap_cons, SortKeySpec.tokens, List.cons_append, List.cons_append,
        List.nil_append]
      obtain ⟨fieldToken, descending⟩ := key
      cases descending with
      | true =>
          rw [if_pos rfl, parseSortSection, if_neg (by decide), if_pos (by decide)]
          exact field true
      | false =>
          rw [if_neg Bool.false_ne_true, parseSortSection, if_pos (by decide)]
          exact field false

end Keys

/-- Parsed sort keys have names. -/
theorem parseSortSection_named {nextDesc : Bool} {tokens : List String} {keys : List SortKeySpec}
    (parsed : parseSortSection nextDesc tokens = .ok keys) :
    ∀ key ∈ keys, key.fieldToken ≠ "" := by
  induction tokens generalizing nextDesc keys with
  | nil =>
      cases nextDesc with
      | true => cases parsed
      | false =>
          cases parsed
          nofun
  | cons token rest inductionHypothesis =>
      unfold parseSortSection at parsed
      split at parsed
      · exact inductionHypothesis parsed
      · split at parsed
        · exact inductionHypothesis parsed
        · split at parsed
          · cases parsed
          · next notEmpty =>
              cases more : parseSortSection false rest with
              | error message =>
                  rw [more] at parsed
                  cases parsed
              | ok others =>
                  rw [more] at parsed
                  cases parsed
                  exact List.forall_mem_cons.mpr ⟨notEmpty, inductionHypothesis more⟩

/-! ## The round -/

/-- The tokens from the first `BY` on. -/
def fromBy (tokens : List String) : List String := tokens.dropWhile fun t => !isBy t

/-- What the sort keys of a parsed query are. -/
theorem parseFields_sortKeys {verb : Verb} {clauses : Clauses} {fileName : String}
    {tokens : List String} {query : Query}
    (parsed : parseFields verb clauses fileName tokens = .ok query) :
    query.sortKeys.map SortKeySpec.fieldToken = (fromBy tokens).filter isKeyToken ∧
      ∀ key ∈ query.sortKeys, key.fieldToken ≠ "" := by
  unfold parseFields at parsed
  simp only at parsed
  split at parsed
  · cases parsed
  · by_cases none : tokens.dropWhile (fun t => !isBy t) = []
    · rw [none] at parsed
      cases parsed
      exact ⟨by rw [fromBy, none]; rfl, nofun⟩
    · rw [if_neg (by simpa using none)] at parsed
      cases found : parseSortSection false (tokens.dropWhile fun t => !isBy t) with
      | error message =>
          rw [found] at parsed
          cases parsed
      | ok keys =>
          rw [found] at parsed
          cases parsed
          exact ⟨parseSortSection_fields found, parseSortSection_named found⟩

section Round

variable {query : Query} {withBody : Option (List String)}
  (renderable : Renderable query withBody)
include renderable

/-- No word before the sort keys is `BY`. -/
theorem Renderable.notBy_lead :
    ∀ token ∈ query.fields ++ withBody.elim [] fun body => "WITH" :: body,
      (!isBy token) = true := by
  intro token member
  rcases List.mem_append.mp member with inFields | inWith
  · exact notBy_of_plain (renderable.fields token inFields)
  · cases withBody with
    | none => cases inWith
    | some body =>
        rcases List.mem_cons.mp inWith with rfl | inBody
        · decide
        · exact notBy_of_plain (renderable.withBody body rfl token inBody)

/-- The projection fields end at the `WITH` clause. -/
theorem Renderable.takeWhile_lead :
    ((query.fields ++ withBody.elim [] fun body => "WITH" :: body).takeWhile fun t => !isWith t) =
      query.fields := by
  rw [List.takeWhile_append_of_pos fun field member =>
    notWith_of_plain (renderable.fields field member)]
  cases withBody with
  | none => exact List.append_nil _
  | some body =>
      rw [Option.elim_some, List.takeWhile_cons_of_neg (by decide), List.append_nil]

/-- The sort section starts with the first key. -/
theorem Renderable.fromBy_words :
    fromBy (query.fields ++ (withBody.elim [] fun body => "WITH" :: body) ++
      query.sortKeys.flatMap SortKeySpec.tokens) =
        fromBy (query.sortKeys.flatMap SortKeySpec.tokens) :=
  List.dropWhile_append_of_pos renderable.notBy_lead

/-- The words after the file name are parsed exactly when every key has a name and the first
one is ascending. -/
theorem Renderable.parseFields_iff :
    parseFields query.verb query.toClauses query.fileName
      (query.fields ++ (withBody.elim [] fun body => "WITH" :: body) ++
        query.sortKeys.flatMap SortKeySpec.tokens) = .ok query ↔
      (∀ key ∈ query.sortKeys, key.fieldToken ≠ "") ∧
        ∀ key ∈ query.sortKeys.head?, key.descending = false := by
  constructor
  · intro parsed
    obtain ⟨fields, named⟩ := parseFields_sortKeys parsed
    refine ⟨named, ?_⟩
    rw [renderable.fromBy_words] at fields
    intro key first
    cases keys : query.sortKeys with
    | nil =>
        rw [keys] at first
        cases first
    | cons leading rest =>
        rw [keys] at first fields
        cases first
        by_contra descending
        have descending : key.descending = true := by simpa using descending
        have plain := renderable.sortKeys
        rw [keys] at plain
        -- Both tokens of the first key stand before any `BY`.
        have dropped : fromBy ((key :: rest).flatMap SortKeySpec.tokens) =
            fromBy (rest.flatMap SortKeySpec.tokens) := by
          rw [List.flatMap_cons, SortKeySpec.tokens, if_pos descending]
          refine List.dropWhile_append_of_pos fun token member => ?_
          rcases List.mem_cons.mp member with rfl | isToken
          · decide
          · rw [List.mem_singleton.mp isToken]
            exact notBy_of_plain (plain key List.mem_cons_self)
        have fewer : ((fromBy (rest.flatMap SortKeySpec.tokens)).filter isKeyToken).length ≤
            rest.length := by
          have kept : ((fromBy (rest.flatMap SortKeySpec.tokens)).filter isKeyToken).length ≤
              ((rest.flatMap SortKeySpec.tokens).filter isKeyToken).length :=
            ((List.dropWhile_sublist _).filter isKeyToken).length_le
          rw [filter_keyTokens fun other member => plain other (List.mem_cons_of_mem _ member),
            List.length_map] at kept
          exact kept
        have lengths := congrArg List.length fields
        rw [dropped, List.length_map, List.length_cons] at lengths
        omega
  · rintro ⟨named, ascending⟩
    have plain := renderable.sortKeys
    have sorted := renderable.sorted
    have lead := renderable.takeWhile_lead
    have notBy := renderable.notBy_lead
    unfold parseFields
    simp only [List.takeWhile_append_of_pos notBy, List.dropWhile_append_of_pos notBy]
    obtain ⟨clauses, verb, fileName, fields, sortKeys⟩ := query
    cases sortKeys with
    | nil =>
        simp only [List.flatMap_nil, List.takeWhile_nil, List.append_nil, lead]
        rfl
    | cons key rest =>
        have isSort : verb = .SORT := not_not.mp fun other => List.cons_ne_nil _ _ (sorted other)
        have ascending : key.descending = false := ascending key rfl
        have tokens : (key :: rest).flatMap SortKeySpec.tokens =
            "BY" :: key.fieldToken :: rest.flatMap SortKeySpec.tokens := by
          rw [List.flatMap_cons, SortKeySpec.tokens, ascending, if_neg Bool.false_ne_true]
          rfl
        have found := parseSortSection_keyTokens plain named
        rw [tokens] at found
        simp only [tokens]
        rw [List.takeWhile_cons_of_neg (by decide), List.dropWhile_cons_of_neg (by decide),
          List.append_nil, lead, found, isSort]
        rfl

end Round

/-- The keyword of a verb is one. -/
theorem verbFrom_keyword (verb : Verb) : verbFrom verb.keyword = some verb := by
  cases verb <;> decide

/-- What a query needs to come back from its tokens. -/
structure Returnable (query : Query) : Prop where
  clauses : ∀ clause ∈ query.toClauses.list, clause.Plain
  fileName : query.fileName ≠ ""
  named : ∀ key ∈ query.sortKeys, key.fieldToken ≠ ""
  ascending : ∀ key ∈ query.sortKeys.head?, key.descending = false

/-- A query comes back from its tokens exactly when it has what it needs. -/
theorem Renders.parse_iff {query : Query} {withBody : Option (List String)} {pieces : List Piece}
    (renders : Renders query withBody pieces) (renderable : Renderable query withBody) :
    parse {} (rendered query pieces) = .ok query ↔ Returnable query := by
  have stripped := renders.stripped renderable
  have parsed := renderable.parseFields_iff
  have outcome : parse {} (rendered query pieces) =
      stripClauses {} (pieces.flatMap Piece.tokens) >>= fun stripped =>
        parseStripped {} query.verb stripped.2 stripped.1 := by
    rw [rendered, parse, verbFrom_keyword]
  rw [outcome]
  by_cases plain : ∀ clause ∈ query.toClauses.list, clause.Plain
  · rw [stripped.1 plain]
    change parseStripped {} query.verb query.toClauses (query.words withBody) = .ok query ↔ _
    have words : ¬ (query.verb = .COUNT ∧ query.words withBody = []) := fun both => nomatch both.2
    unfold parseStripped
    rw [if_neg words, if_neg Bool.false_ne_true, Query.words]
    dsimp only
    by_cases unnamed : query.fileName = ""
    · rw [if_pos unnamed]
      exact iff_of_false nofun fun returnable => returnable.fileName unnamed
    · rw [if_neg unnamed, parsed]
      constructor
      · rintro ⟨named, ascending⟩
        exact ⟨plain, unnamed, named, ascending⟩
      · intro returnable
        exact ⟨returnable.named, returnable.ascending⟩
  · obtain ⟨error, failed⟩ := stripped.2 plain
    rw [failed]
    exact iff_of_false nofun fun returnable => plain returnable.clauses

end Gemini.English
