import Mathlib.Data.List.TakeWhile

/-!
# The ENGLISH parser

`EnglishParser::parse`. The formatting clauses are taken out of the tokens first, wherever
they stand after the verb. What is left is the file, the projection fields, an optional
`WITH` clause, whose body is not evaluated, and for `SORT` the sort keys from the first `BY`
on.
-/

namespace Gemini.English

/-! ## Keywords -/

/-- Equality up to the case of the letters. -/
def ieq (a b : String) : Bool := a.toList.map Char.toLower = b.toList.map Char.toLower

/-- The keyword of an ascending key. -/
def isBy (t : String) : Bool := ieq t "BY"

/-- The keyword of a descending key. -/
def isByDsnd (t : String) : Bool := ieq t "BY-DSND"

/-- The keyword of a selection. -/
def isWith (t : String) : Bool := ieq t "WITH"

/-- The clauses that may stand anywhere after the verb. -/
inductive ClauseKind where
  | heading
  | footing
  | breakOn
  | total
  | idSupp
deriving DecidableEq

/-- The keyword of a clause. -/
def ClauseKind.keyword : ClauseKind → String
  | .heading => "HEADING"
  | .footing => "FOOTING"
  | .breakOn => "BREAK-ON"
  | .total => "TOTAL"
  | .idSupp => "ID-SUPP"

/-- What the token after the keyword is; `ID-SUPP` has none. -/
def ClauseKind.argument : ClauseKind → Option String
  | .heading => some "a quoted string"
  | .footing => some "a quoted string"
  | .breakOn => some "a field"
  | .total => some "a field"
  | .idSupp => none

/-- `isHeading`, `isFooting`, `isBreakOn`, `isTotal` and `isIdSupp`. -/
def clauseKindOf (t : String) : Option ClauseKind :=
  [.heading, .footing, .breakOn, .total, .idSupp].find? fun kind => ieq t kind.keyword

/-- The words that no field is called. -/
def isStructuralKeyword (t : String) : Bool :=
  isBy t || isByDsnd t || isWith t || (clauseKindOf t).isSome

/-- The verbs of ENGLISH. -/
inductive Verb where
  | LIST
  | COUNT
  | SELECT
  | SORT
deriving DecidableEq

/-- The keyword of a verb. -/
def Verb.keyword : Verb → String
  | .LIST => "LIST"
  | .COUNT => "COUNT"
  | .SELECT => "SELECT"
  | .SORT => "SORT"

/-- The verb of a word, in any case. -/
def verbFrom (t : String) : Option Verb :=
  [.LIST, .COUNT, .SELECT, .SORT].find? fun verb => ieq t verb.keyword

/-! ## Queries -/

/-- A sort key and its direction. -/
structure SortKeySpec where
  fieldToken : String
  descending : Bool := false
deriving DecidableEq

/-- The formatting clauses of a query. -/
structure Clauses where
  heading : Option String := none
  footing : Option String := none
  breakOnField : Option String := none
  totalField : Option String := none
  idSupp : Bool := false
deriving DecidableEq

/-- `Query`: a sentence, taken apart. -/
structure Query extends Clauses where
  verb : Verb
  fileName : String
  fields : List String := []
  sortKeys : List SortKeySpec := []
deriving DecidableEq

/-- Whether a clause has been given. -/
def Clauses.has (clauses : Clauses) : ClauseKind → Bool
  | .heading => clauses.heading.isSome
  | .footing => clauses.footing.isSome
  | .breakOn => clauses.breakOnField.isSome
  | .total => clauses.totalField.isSome
  | .idSupp => clauses.idSupp

/-- Record a clause; the argument of `ID-SUPP` is not used. -/
def Clauses.put (clauses : Clauses) (argument : String) : ClauseKind → Clauses
  | .heading => { clauses with heading := some argument }
  | .footing => { clauses with footing := some argument }
  | .breakOn => { clauses with breakOnField := some argument }
  | .total => { clauses with totalField := some argument }
  | .idSupp => { clauses with idSupp := true }

/-! ## Parsing -/

/-- The loop that strips the formatting clauses from the tokens after the verb. -/
def stripClauses (clauses : Clauses) : List String → Except String (List String × Clauses)
  | [] => .ok ([], clauses)
  | t :: rest =>
      match clauseKindOf t with
      | none => do
          let (tokens, clauses) ← stripClauses clauses rest
          return (t :: tokens, clauses)
      | some kind =>
          if clauses.has kind then .error (kind.keyword ++ " can only appear once")
          else
            match kind.argument, rest with
            | none, rest => stripClauses (clauses.put "" kind) rest
            | some what, [] => .error (kind.keyword ++ " requires " ++ what)
            | some what, argument :: rest =>
                if isStructuralKeyword argument then
                  .error (kind.keyword ++ " requires " ++ what)
                else stripClauses (clauses.put argument kind) rest

/-- The keys from the first `BY` on. `nextDesc` is set by a `BY-DSND` for the next field. -/
def parseSortSection (nextDesc : Bool) : List String → Except String (List SortKeySpec)
  | [] => if nextDesc then .error "BY-DSND without following field" else .ok []
  | t :: rest =>
      if isBy t then parseSortSection nextDesc rest
      else if isByDsnd t then parseSortSection true rest
      else if t = "" then .error "Empty BY field"
      else do
        let keys ← parseSortSection false rest
        return { fieldToken := t, descending := nextDesc } :: keys

/-- The file of a sentence that names none. -/
structure ParseContext where
  implicitFile : Bool := false
  imposedFileName : Option String := none

/-- The tokens after the file name. -/
def parseFields (verb : Verb) (clauses : Clauses) (fileName : String) (tokens : List String) :
    Except String Query := do
  let beforeBy := tokens.takeWhile fun t => !isBy t
  let fromBy := tokens.dropWhile fun t => !isBy t
  if !fromBy.isEmpty && verb ≠ .SORT then throw "BY is only valid with SORT"
  else
    let sortKeys ← if fromBy.isEmpty then pure [] else parseSortSection false fromBy
    return {
      toClauses := clauses
      verb := verb
      fileName := fileName
      fields := beforeBy.takeWhile fun t => !isWith t
      sortKeys := sortKeys }

/-- The file name that an active list imposes. -/
def ParseContext.imposedFile (ctx : ParseContext) : Option String :=
  ctx.imposedFileName.filter fun fileName => fileName ≠ ""

/-- The tokens after the verb, once they have been stripped of the clauses. -/
def parseStripped (ctx : ParseContext) (verb : Verb) (clauses : Clauses) (tokens : List String) :
    Except String Query :=
  if verb = .COUNT ∧ tokens = [] then
    match ctx.imposedFile with
    | some fileName =>
        if ctx.implicitFile then
          return { toClauses := clauses, verb := verb, fileName := fileName }
        else throw "COUNT requires filename or active-list scope"
    | none => throw "COUNT requires filename or active-list scope"
  else if ctx.implicitFile then
    match ctx.imposedFile with
    | none => throw "Internal: implicit scope requires imposed filename"
    | some fileName => parseFields verb clauses fileName tokens
  else
    match tokens with
    | [] => throw "Command requires filename"
    | fileName :: tokens =>
        if fileName = "" then throw "Filename must be non-empty"
        else parseFields verb clauses fileName tokens

/-- `EnglishParser::parse`. -/
def parse (ctx : ParseContext) : List String → Except String Query
  | [] => .error "Empty query"
  | verbToken :: rawTokens =>
      match verbFrom verbToken with
      | none => .error "Unsupported ENGLISH verb"
      | some verb => do
          let (tokens, clauses) ← stripClauses {} rawTokens
          parseStripped ctx verb clauses tokens

end Gemini.English
