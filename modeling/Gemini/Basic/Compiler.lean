import Gemini.Basic.Analyzer
import Gemini.Basic.Emitter
import Gemini.Basic.ErrorHandlers
import Gemini.Basic.ExpressionText
import Gemini.Basic.StatementParser

/-!
# The compiler

`BasicCompiler::compile` parses the lines of a program, checks the lines that they refer to and
emits the code. The emitter relies on what the parser has checked: the names that statements act on
are names of variables, and the numbers of expressions are `int`s.
-/

namespace Gemini.Basic

open Gemini.VM (Doubles IsInt intMax intMin)
open Gemini.Data (bind_eq_ok)

variable {Double : Type}

/-- `BasicCompiler::compile` on the lines of a program. -/
def compile [Doubles Double] (lines : List (Int × String)) :
    Except (List BasicCompileError) (EmittedProgram Double) :=
  let parsed : StatementParseResult Double := parseProgram lines
  if parsed.errors ≠ [] then
    .error (parsed.errors.map fun (line, message) => { line, message })
  else do
    let normalized ← analyze parsed.lines
    emit normalized

/-- A program is compiled when its lines are parsed, the lines that they refer to are there, and the
emitter accepts each of them. -/
theorem compile_eq_ok [Doubles Double] {lines : List (Int × String)}
    {emitted : EmittedProgram Double} :
    compile lines = .ok emitted ↔
      (parseProgram lines : StatementParseResult Double).errors = [] ∧
        TargetsKnown (parseProgram lines : StatementParseResult Double).lines ∧
          (∀ line ∈ (parseProgram lines : StatementParseResult Double).lines, line.Accepted) ∧
            emitted = assembled (parseProgram lines).lines := by
  unfold compile
  dsimp only
  split
  · next errors => exact iff_of_false nofun fun parsed => errors parsed.1
  · next noErrors =>
      rw [bind_eq_ok]
      constructor
      · rintro ⟨normalized, analyzed, compiled⟩
        obtain ⟨known, rfl⟩ := analyze_eq_ok.mp analyzed
        obtain ⟨accepted, rfl⟩ := emit_eq_ok.mp compiled
        exact ⟨not_not.mp noErrors, known, accepted, rfl⟩
      · rintro ⟨-, known, accepted, rfl⟩
        exact ⟨_, analyze_eq_ok.mpr ⟨known, rfl⟩, emit_eq_ok.mpr ⟨accepted, rfl⟩⟩

/-- A program of one line, which is parsed. -/
theorem parseProgram_line [Doubles Double] {number : Int} {text : String}
    {statement : Stmt Double} (bare : VM.trim text.toList = text.toList) (notEmpty : text ≠ "")
    (parsed : parseLine text.toList = .ok statement) :
    parseProgram [(number, text)] =
      ({ lines := [⟨number, statement⟩] } : StatementParseResult Double) := by
  simp [parseProgram, bare, notEmpty, parsed]

/-! ## What the emitter relies on -/

/-- The whole numbers of an expression are `int`s. -/
inductive Expr.Fits : Expr Double → Prop
  | intLiteral {value : Int} (isInt : IsInt value) : Fits (.intLiteral value)
  | floatLiteral (value : Double) : Fits (.floatLiteral value)
  | stringLiteral (value : String) : Fits (.stringLiteral value)
  | identifier (name : String) : Fits (.identifier name)
  | negate {operand : Expr Double} (inner : Fits operand) : Fits (.negate operand)
  | binary {op : BinaryOp} {left right : Expr Double} (first : Fits left) (second : Fits right) :
      Fits (.binary op left right)
  | grouped {expression : Expr Double} (inner : Fits expression) : Fits (.grouped expression)
  | subscript {varName : String} {index : Expr Double} (inner : Fits index) :
      Fits (.subscript varName index)
  | attributeAccess {varName : String} {attr : Expr Double} (inner : Fits attr) :
      Fits (.attributeAccess varName attr)
  | valueAccess {varName : String} {attr valueIndex : Expr Double} (inner : Fits attr)
      (second : Fits valueIndex) : Fits (.valueAccess varName attr valueIndex)
  | dictField (token : String) : Fits (.dictField token)
  | functionCall {name : String} {arguments : List (Expr Double)}
      (inner : ∀ argument ∈ arguments, Fits argument) : Fits (.functionCall name arguments)

/-- A name that a statement acts on. -/
def Named (name : String) : Prop := isValidVariableName name = true

mutual

/-- The names of a statement are names of variables, and its numbers are `int`s. -/
def Stmt.Fits : Stmt Double → Prop
  | .letStmt variableName expression => Named variableName ∧ expression.Fits
  | .input promptExpr variableName => (∀ prompt ∈ promptExpr, prompt.Fits) ∧ Named variableName
  | .chain programExpr => programExpr.Fits
  | .forStmt variableName initExpr limitExpr stepExpr =>
      Named variableName ∧ initExpr.Fits ∧ limitExpr.Fits ∧ ∀ step ∈ stepExpr, step.Fits
  | .next variableName => variableName = "" ∨ Named variableName
  | .ifStmt condition thenArm elseArm => condition.Fits ∧ thenArm.Fits ∧ elseFits elseArm
  | .print expression _ => expression.Fits
  | .dim variableName sizeExpr => Named variableName ∧ sizeExpr.Fits
  | .letArray variableName indexExpr valueExpr =>
      Named variableName ∧ indexExpr.Fits ∧ valueExpr.Fits
  | .openStmt fileExpr fileVar elseArm => fileExpr.Fits ∧ Named fileVar ∧ elseFits elseArm
  | .read targetVar fileVar idExpr elseArm =>
      Named targetVar ∧ Named fileVar ∧ idExpr.Fits ∧ elseFits elseArm
  | .readU targetVar fileVar idExpr elseArm =>
      Named targetVar ∧ Named fileVar ∧ idExpr.Fits ∧ elseFits elseArm
  | .write valueExpr fileVar idExpr elseArm =>
      valueExpr.Fits ∧ Named fileVar ∧ idExpr.Fits ∧ elseFits elseArm
  | .writeU valueExpr fileVar idExpr elseArm =>
      valueExpr.Fits ∧ Named fileVar ∧ idExpr.Fits ∧ elseFits elseArm
  | .readNext targetVar fileVar elseArm =>
      Named targetVar ∧ Named fileVar ∧ elseFits elseArm
  | .readV targetVar fileVar idExpr attrExpr valueIndexExpr elseArm =>
      Named targetVar ∧ Named fileVar ∧ idExpr.Fits ∧ attrExpr.Fits ∧
        (∀ valueIndex ∈ valueIndexExpr, valueIndex.Fits) ∧ elseFits elseArm
  | .writeV valueExpr fileVar idExpr attrExpr valueIndexExpr elseArm =>
      valueExpr.Fits ∧ Named fileVar ∧ idExpr.Fits ∧ attrExpr.Fits ∧
        (∀ valueIndex ∈ valueIndexExpr, valueIndex.Fits) ∧ elseFits elseArm
  | .close fileVar => Named fileVar
  | .release fileVar idExpr => Named fileVar ∧ idExpr.Fits
  | .matAssign targetArray rhsExpr => Named targetArray ∧ rhsExpr.Fits
  | .matCopy targetArray rhsSourceArray => Named targetArray ∧ Named rhsSourceArray
  | .matRead targetArray fileVar idExpr elseArm =>
      Named targetArray ∧ Named fileVar ∧ idExpr.Fits ∧ elseFits elseArm
  | .matWrite sourceArray fileVar idExpr elseArm =>
      Named sourceArray ∧ Named fileVar ∧ idExpr.Fits ∧ elseFits elseArm
  | _ => True

/-- An arm with a statement fits when the statement does. -/
def BranchArm.Fits : BranchArm Double → Prop
  | .line _ => True
  | .inline statement => statement.Fits

/-- An `ELSE` fits when its arm does. -/
def elseFits : Option (BranchArm Double) → Prop
  | none => True
  | some arm => arm.Fits

end

/-! ## Expressions -/

/-- Whole numbers among the tokens are `int`s. -/
def IntTokens (tokens : List (ExprToken Double)) : Prop :=
  ∀ token ∈ tokens, ∀ value, token.type = .intLiteral value → IsInt value

/-- A literal that is parsed as a whole number is an `int`. -/
theorem isInt_of_parseIntLiteral {literal : List Char} {value : Int}
    (parsed : parseIntLiteral literal = some value) : IsInt value := by
  unfold parseIntLiteral at parsed
  dsimp only at parsed
  split at parsed <;> cases parsed
  exact ⟨le_trans (by decide) (Int.natCast_nonneg _), ‹_›⟩

/-- The whole number of a classified token is an `int`. -/
theorem isInt_of_classify [Doubles Double] {adjacent : Bool} {lexeme : Lexeme}
    {token : ExprToken Double} (classified : classify adjacent lexeme = .ok token) {value : Int}
    (isLiteral : token.type = .intLiteral value) : IsInt value := by
  cases lexeme with
  | string content =>
      cases classified
      cases isLiteral
  | number numeral =>
      rw [classify] at classified
      split at classified
      · split at classified <;> cases classified
        cases isLiteral
      · split at classified
        · next found parsed =>
            cases classified
            cases isLiteral
            exact isInt_of_parseIntLiteral parsed
        · cases classified
  | system word =>
      rw [classify] at classified
      split at classified <;> cases classified
      cases isLiteral
  | name body suffix =>
      cases classified
      cases isLiteral
  | symbol mark =>
      cases classified
      cases mark <;> cases isLiteral

/-- The tokens of the lexer have `int`s as whole numbers. -/
theorem intTokens_of_classify [Doubles Double] {lexemes : List PlacedLexeme}
    {tokens : List (ExprToken Double)}
    (classified : lexemes.mapM PlacedLexeme.classify = .ok tokens) : IntTokens tokens := by
  induction lexemes generalizing tokens with
  | nil =>
      cases classified
      exact List.forall_mem_nil _
  | cons lexeme rest inductionHypothesis =>
      rw [List.mapM_cons] at classified
      obtain ⟨token, isToken, classified⟩ := bind_eq_ok.mp classified
      obtain ⟨others, isOthers, done⟩ := bind_eq_ok.mp classified
      cases done
      exact List.forall_mem_cons.mpr
        ⟨fun value => isInt_of_classify isToken, inductionHypothesis isOthers⟩

/-- A phrase whose whole numbers are `int`s. -/
def Phrase.Fits : Phrase Double → Prop
  | .expr _ expression => expression.Fits
  | .arguments args => ∀ argument ∈ args, argument.Fits

/-- The whole numbers of an expression are among its tokens. -/
theorem Renders.fits {grammar : Grammar} {phrase : Phrase Double}
    {tokens : List (ExprToken Double)} (renders : Renders grammar phrase tokens)
    (ints : IntTokens tokens) : phrase.Fits := by
  unfold IntTokens at ints
  induction renders with
  | intLiteral value lexeme => exact .intLiteral (ints _ List.mem_cons_self value rfl)
  | floatLiteral value lexeme => exact .floatLiteral value
  | stringLiteral value lexeme => exact .stringLiteral value
  | identifier name => exact .identifier _
  | subscript plain inner inductionHypothesis =>
      simp only [List.forall_mem_cons, List.forall_mem_append] at ints
      exact .subscript (inductionHypothesis ints.2.2.1)
  | attributeAccess inner inductionHypothesis =>
      simp only [List.forall_mem_cons, List.forall_mem_append] at ints
      exact .attributeAccess (inductionHypothesis ints.2.2.1)
  | valueAccess inner second innerHypothesis secondHypothesis =>
      simp only [List.forall_mem_cons, List.forall_mem_append] at ints
      exact .valueAccess (innerHypothesis ints.2.2.1) (secondHypothesis ints.2.2.2.2.1)
  | functionCall builtin bounds atLeast atMost inner inductionHypothesis =>
      simp only [List.forall_mem_cons, List.forall_mem_append] at ints
      exact .functionCall (inductionHypothesis ints.2.2.1)
  | grouped inner inductionHypothesis =>
      simp only [List.forall_mem_cons, List.forall_mem_append] at ints
      exact .grouped (inductionHypothesis ints.2.1)
  | unary inner inductionHypothesis => exact inductionHypothesis ints
  | negate inner inductionHypothesis =>
      exact .negate (inductionHypothesis (List.forall_mem_cons.mp ints).2)
  | mulDiv inner inductionHypothesis => exact inductionHypothesis ints
  | product isOp first second firstHypothesis secondHypothesis =>
      simp only [List.forall_mem_cons, List.forall_mem_append] at ints
      exact .binary (firstHypothesis ints.1) (secondHypothesis ints.2.2)
  | addSub inner inductionHypothesis => exact inductionHypothesis ints
  | sum isOp first second firstHypothesis secondHypothesis =>
      simp only [List.forall_mem_cons, List.forall_mem_append] at ints
      exact .binary (firstHypothesis ints.1) (secondHypothesis ints.2.2)
  | comparison inner inductionHypothesis => exact inductionHypothesis ints
  | compare isOp spaced first second firstHypothesis secondHypothesis =>
      simp only [List.forall_mem_cons, List.forall_mem_append] at ints
      exact .binary (firstHypothesis ints.1) (secondHypothesis ints.2.2)
  | noArguments => exact List.forall_mem_nil _
  | lastArgument inner inductionHypothesis =>
      exact List.forall_mem_singleton.mpr (inductionHypothesis ints)
  | moreArguments more first second firstHypothesis secondHypothesis =>
      simp only [List.forall_mem_cons, List.forall_mem_append] at ints
      exact List.forall_mem_cons.mpr ⟨firstHypothesis ints.1, secondHypothesis ints.2.2⟩

/-- Every parsed expression fits. -/
theorem fits_parseExpression [Doubles Double] {text : String} {expression : Expr Double}
    (parsed : parseExpression text = .ok expression) : expression.Fits := by
  obtain ⟨tokens, tokenized, parsed⟩ := bind_eq_ok.mp parsed
  obtain ⟨lexemes, spells, classified⟩ := spells_of_tokenizeFrom tokenized
  cases found : parseTokens tokens with
  | error failure =>
      rw [found] at parsed
      cases parsed
  | ok other =>
      rw [found] at parsed
      cases parsed
      have renders := renders_of_parseTokens (flagged_of_spells spells classified).1 found
      exact renders.fits (intTokens_of_classify classified)

/-! ## Statements -/

namespace Yields

variable {Result : Type} {holds : Result → Prop}

/-- Code behind a check need only be looked at when the check passes. -/
theorem check {passes : Bool} {message : String} {next : Unit → Except String Result}
    (goesOn : passes = true → Yields holds (next ())) :
    Yields holds (Basic.check passes message >>= next) := by
  cases passes with
  | true => exact goesOn rfl
  | false => exact .error

/-- Code behind a cut is looked at for all parts that the cut may give. -/
theorem cutOr {cut : Option (List Char × List Char)} {message : String}
    {next : List Char × List Char → Except String Result}
    (goesOn : ∀ parts, Yields holds (next parts)) :
    Yields holds (Basic.cutOr cut message >>= next) := by
  cases cut with
  | none => exact .error
  | some parts => exact goesOn parts

end Yields

/-- An expression that a statement takes from its text fits. -/
theorem fits_expressionIn [Doubles Double] (context : String) (raw : List Char) :
    Yields Expr.Fits (expressionIn context raw : Except String (Expr Double)) := by
  intro expression done
  unfold expressionIn at done
  cases parsed : (parseExpression (String.ofList raw) : Except String (Expr Double)) with
  | error message =>
      rw [parsed] at done
      cases done
  | ok other =>
      rw [parsed] at done
      cases done
      exact fits_parseExpression parsed

/-- The arms that a parser of arms returns. -/
def ArmFits (arm : ArmParser Double) : Prop :=
  ∀ context raw, Yields BranchArm.Fits (arm context raw)

/-- The `ELSE` of a file statement fits when arms do. -/
theorem fits_parseElse {arm : ArmParser Double} (armFits : ArmFits arm) (context : String)
    (text : List Char) : Yields (fun parts => elseFits parts.2) (parseElse arm context text) := by
  unfold parseElse
  split
  · exact .ok trivial
  · exact (armFits _ _).bind fun parsed fits => .ok fits

variable [Doubles Double]

theorem fits_parseLetArray (baseRaw subscript rhsRaw : List Char) :
    Yields Stmt.Fits (parseLetArray baseRaw subscript rhsRaw : Except String (Stmt Double)) := by
  unfold parseLetArray
  refine .check fun isName => .check fun _ => .cutOr fun _ => .check fun _ => ?_
  refine (fits_expressionIn _ _).bind fun index indexFits => ?_
  exact (fits_expressionIn _ _).bind fun value valueFits => .ok ⟨isName, indexFits, valueFits⟩

/-- What `LET` parses fits. -/
theorem fits_parseLet (rest : List Char) :
    Yields Stmt.Fits (parseLet rest : Except String (Stmt Double)) := by
  unfold parseLet
  refine .cutOr fun _ => .check fun _ => ?_
  split
  · exact fits_parseLetArray _ _ _
  · refine .check fun isName => .check fun _ => ?_
    exact (fits_expressionIn _ _).bind fun value fits => .ok ⟨isName, fits⟩

theorem fits_parseDim (rest : List Char) :
    Yields Stmt.Fits (parseDim rest : Except String (Stmt Double)) := by
  unfold parseDim
  refine .cutOr fun _ => .check fun isName => .check fun _ => .cutOr fun _ => .check fun _ => ?_
  exact (fits_expressionIn _ _).bind fun size fits => .ok ⟨isName, fits⟩

omit [Doubles Double] in
/-- The variable of an `INPUT` has a valid name. -/
theorem named_inputVariable (varName : List Char) : Yields Named (inputVariable varName) := by
  unfold inputVariable
  exact .check fun isName => .check fun _ => .ok isName

theorem fits_parseInput (rest : List Char) :
    Yields Stmt.Fits (parseInput rest : Except String (Stmt Double)) := by
  unfold parseInput
  refine .check fun _ => ?_
  split
  · refine .check fun _ => .check fun _ => ?_
    refine (fits_expressionIn _ _).bind fun prompt fits => ?_
    exact (named_inputVariable _).bind fun name named => .ok ⟨by simpa using fits, named⟩
  · split
    · exact (named_inputVariable _).bind fun name named => .ok ⟨by simp, named⟩
    · exact .error

theorem fits_parseChain (rest : List Char) :
    Yields Stmt.Fits (parseChain rest : Except String (Stmt Double)) := by
  unfold parseChain
  exact .check fun _ => (fits_expressionIn _ _).bind fun program fits => .ok fits

omit [Doubles Double] in
/-- A statement that jumps to a line fits, whatever the line. -/
theorem fits_parseJump (op : String) (statement : Int → Stmt Double)
    (fits : ∀ line, (statement line).Fits) (rest : List Char) :
    Yields Stmt.Fits (parseJump op statement rest) := by
  unfold parseJump
  split
  · exact .error
  · exact .ok (fits _)

omit [Doubles Double] in
/-- A statement without operands fits. -/
theorem fits_parsePlain (op : String) (statement : Stmt Double) (fits : statement.Fits)
    (rest : List Char) : Yields Stmt.Fits (parsePlain op statement rest) := by
  unfold parsePlain
  exact .check fun _ => .ok fits

omit [Doubles Double] in
theorem fits_parseOn (text : List Char) :
    Yields Stmt.Fits (parseOn text : Except String (Stmt Double)) := by
  unfold parseOn
  refine .check fun _ => .check fun _ => ?_
  split
  · exact .ok trivial
  · refine .cutOr fun (_, afterGoto) => ?_
    dsimp only
    split
    · exact .error
    · exact .ok trivial

/-- The file variable of a record statement has a valid name. -/
theorem fits_fileAndId (op : String) (text : List Char) :
    Yields (fun parts => Named parts.1) (fileAndId op text) := by
  unfold fileAndId
  exact .cutOr fun _ => .check fun isName => .check fun _ => .ok isName

section Arms

variable {arm : ArmParser Double} (armFits : ArmFits arm)
include armFits

theorem fits_parseOpen (rest : List Char) : Yields Stmt.Fits (parseOpen arm rest) := by
  unfold parseOpen
  refine .check fun _ => (fits_parseElse armFits _ _).bind fun parts elseFits => ?_
  refine .cutOr fun _ => .check fun _ => .check fun isName => ?_
  exact (fits_expressionIn _ _).bind fun file fits => .ok ⟨fits, isName, elseFits⟩

/-- What `READ` and `READU` parse fits. -/
theorem fits_parseRead (op : String)
    (statement : String → String → Expr Double → Option (BranchArm Double) → Stmt Double)
    (fits : ∀ targetVar fileVar idExpr elseArm, Named targetVar → Named fileVar → idExpr.Fits →
      elseFits elseArm → (statement targetVar fileVar idExpr elseArm).Fits) (rest : List Char) :
    Yields Stmt.Fits (parseRead op statement arm rest) := by
  unfold parseRead
  refine .check fun _ => (fits_parseElse armFits _ _).bind fun parts elseFits => ?_
  refine .cutOr fun _ => .check fun isName => ?_
  refine (fits_fileAndId _ _).bind fun file isFile => ?_
  exact (fits_expressionIn _ _).bind fun id idFits =>
    .ok (fits _ _ _ _ isName isFile idFits elseFits)

/-- What `WRITE` and `WRITEU` parse fits. -/
theorem fits_parseWrite (op : String)
    (statement : Expr Double → String → Expr Double → Option (BranchArm Double) → Stmt Double)
    (fits : ∀ valueExpr fileVar idExpr elseArm, valueExpr.Fits → Named fileVar → idExpr.Fits →
      elseFits elseArm → (statement valueExpr fileVar idExpr elseArm).Fits) (rest : List Char) :
    Yields Stmt.Fits (parseWrite op statement arm rest) := by
  unfold parseWrite
  refine .check fun _ => (fits_parseElse armFits _ _).bind fun parts elseFits => ?_
  refine .cutOr fun _ => .check fun _ => ?_
  refine (fits_fileAndId _ _).bind fun file isFile => ?_
  refine (fits_expressionIn _ _).bind fun value valueFits => ?_
  exact (fits_expressionIn _ _).bind fun id idFits =>
    .ok (fits _ _ _ _ valueFits isFile idFits elseFits)

/-- What `MATREAD` and `MATWRITE` parse fits. -/
theorem fits_parseMatFile (op connector : String)
    (statement : String → String → Expr Double → Option (BranchArm Double) → Stmt Double)
    (fits : ∀ arrayName fileVar idExpr elseArm, Named arrayName → Named fileVar → idExpr.Fits →
      elseFits elseArm → (statement arrayName fileVar idExpr elseArm).Fits) (body : List Char) :
    Yields Stmt.Fits (parseMatFile op connector statement arm body) := by
  unfold parseMatFile
  refine .check fun _ => (fits_parseElse armFits _ _).bind fun parts elseFits => ?_
  refine .cutOr fun _ => .check fun isName => .check fun _ => ?_
  refine (fits_fileAndId _ _).bind fun file isFile => ?_
  exact (fits_expressionIn _ _).bind fun id idFits =>
    .ok (fits _ _ _ _ isName isFile idFits elseFits)

omit [Doubles Double] in
theorem fits_parseReadNext (rest : List Char) : Yields Stmt.Fits (parseReadNext arm rest) := by
  unfold parseReadNext
  refine .check fun _ => (fits_parseElse armFits _ _).bind fun parts elseFits => ?_
  exact .cutOr fun _ => .check fun isName => .check fun isFile => .ok ⟨isName, isFile, elseFits⟩

end Arms

/-- The attribute number of a `READV` or a `WRITEV` fits. -/
theorem fits_attributeExpr (op : String) (raw : List Char) :
    Yields Expr.Fits (attributeExpr op raw : Except String (Expr Double)) := by
  unfold attributeExpr
  split
  · split
    · exact .error
    · exact .ok (.dictField _)
  · exact fits_expressionIn _ _

/-- The value index of a `READV` or a `WRITEV` fits, if there is one. -/
theorem fits_valueIndexExpr (op : String) (raws : List (List Char)) :
    Yields (fun valueIndex => ∀ expression ∈ valueIndex, expression.Fits)
      (valueIndexExpr op raws : Except String (Option (Expr Double))) := by
  unfold valueIndexExpr
  split
  · exact .ok (by simp)
  · refine .check fun _ => ?_
    exact (fits_expressionIn _ _).bind fun index fits => .ok (by simpa using fits)

/-- What `READV` and `WRITEV` have after their connector. -/
structure FieldArguments.Fits (args : FieldArguments Double) : Prop where
  isFile : Named args.fileVar
  idExpr : args.idExpr.Fits
  attrExpr : args.attrExpr.Fits
  valueIndexExpr : ∀ valueIndex ∈ args.valueIndexExpr, valueIndex.Fits

/-- The operands that `READV` and `WRITEV` share fit. -/
theorem fits_fieldArguments (op : String) (text : List Char) :
    Yields FieldArguments.Fits
      (fieldArguments op text : Except String (FieldArguments Double)) := by
  unfold fieldArguments
  split
  · refine .check fun _ => .check fun isFile => .check fun _ => ?_
    refine (fits_expressionIn _ _).bind fun id idFits => ?_
    refine (fits_attributeExpr _ _).bind fun attr attrFits => ?_
    exact (fits_valueIndexExpr _ _).bind fun index indexFits =>
      .ok ⟨isFile, idFits, attrFits, indexFits⟩
  · exact .error

theorem fits_parseRelease (rest : List Char) :
    Yields Stmt.Fits (parseRelease rest : Except String (Stmt Double)) := by
  unfold parseRelease
  refine .check fun _ => (fits_fileAndId _ _).bind fun file isFile => ?_
  exact (fits_expressionIn _ _).bind fun id fits => .ok ⟨isFile, fits⟩

omit [Doubles Double] in
theorem fits_parseClose (rest : List Char) :
    Yields Stmt.Fits (parseClose rest : Except String (Stmt Double)) := by
  unfold parseClose
  exact .check fun isFile => .ok isFile

/-- The step of a `FOR` fits, if there is one. -/
theorem fits_stepExpr (stepRaw : List Char) :
    Yields (fun step => ∀ expression ∈ step, expression.Fits)
      (stepExpr stepRaw : Except String (Option (Expr Double))) := by
  unfold stepExpr
  split
  · exact .ok (by simp)
  · exact (fits_expressionIn _ _).bind fun step fits => .ok (by simpa using fits)

theorem fits_parseFor (rest : List Char) :
    Yields Stmt.Fits (parseFor rest : Except String (Stmt Double)) := by
  unfold parseFor
  refine .cutOr fun _ => .check fun isName => .check fun _ => .cutOr fun _ => .check fun _ => ?_
  refine .check fun _ => (fits_expressionIn _ _).bind fun init initFits => ?_
  refine (fits_expressionIn _ _).bind fun limit limitFits => ?_
  exact (fits_stepExpr _).bind fun step stepFits => .ok ⟨isName, initFits, limitFits, stepFits⟩

omit [Doubles Double] in
theorem fits_parseNext (rest : List Char) :
    Yields Stmt.Fits (parseNext rest : Except String (Stmt Double)) := by
  unfold parseNext
  refine .check fun named => .check fun _ => .ok ?_
  rw [Bool.or_eq_true, List.isEmpty_iff] at named
  exact named.imp_left fun isEmpty => by rw [isEmpty]

omit [Doubles Double] in
/-- Both arms of an `IF` fit when arms do. -/
theorem fits_parseArms {arm : ArmParser Double} (armFits : ArmFits arm) (branchPart : List Char) :
    Yields (fun arms => arms.1.Fits ∧ elseFits arms.2) (parseArms arm branchPart) := by
  unfold parseArms
  split
  · exact (armFits _ _).bind fun thenArm fits => .ok ⟨fits, trivial⟩
  · refine (armFits _ _).bind fun thenArm thenFits => ?_
    exact (armFits _ _).bind fun elseArm elseFits => .ok ⟨thenFits, elseFits⟩

theorem fits_parsePrint (rest : List Char) :
    Yields Stmt.Fits (parsePrint rest : Except String (Stmt Double)) := by
  unfold parsePrint
  exact .check fun _ => (fits_expressionIn _ _).bind fun value fits => .ok fits

omit [Doubles Double] in
theorem fits_parseMatCopy {targetName : List Char} (isName : isName targetName = true)
    (srcRaw : List Char) :
    Yields Stmt.Fits (parseMatCopy targetName srcRaw : Except String (Stmt Double)) := by
  unfold parseMatCopy
  exact .check fun _ => .check fun _ => .check fun isSource => .ok ⟨isName, isSource⟩

theorem fits_parseMatAssign (rest : List Char) :
    Yields Stmt.Fits (parseMatAssign rest : Except String (Stmt Double)) := by
  unfold parseMatAssign
  refine .cutOr fun _ => .check fun isName => .check fun _ => .check fun _ => ?_
  split
  · exact fits_parseMatCopy isName _
  · exact (fits_expressionIn _ _).bind fun scalar fits => .ok ⟨isName, fits⟩

section Lines

variable {arm : ArmParser Double} (armFits : ArmFits arm)
include armFits

theorem fits_parseReadV (rest : List Char) : Yields Stmt.Fits (parseReadV arm rest) := by
  unfold parseReadV
  refine .check fun _ => (fits_parseElse armFits _ _).bind fun parts elseFits => ?_
  refine .cutOr fun _ => .check fun isName => ?_
  exact (fits_fieldArguments _ _).bind fun args fits =>
    .ok ⟨isName, fits.isFile, fits.idExpr, fits.attrExpr, fits.valueIndexExpr, elseFits⟩

theorem fits_parseWriteV (rest : List Char) : Yields Stmt.Fits (parseWriteV arm rest) := by
  unfold parseWriteV
  refine .check fun _ => (fits_parseElse armFits _ _).bind fun parts elseFits => ?_
  refine .cutOr fun _ => .check fun _ => ?_
  refine (fits_expressionIn _ _).bind fun value valueFits => ?_
  exact (fits_fieldArguments _ _).bind fun args fits =>
    .ok ⟨valueFits, fits.isFile, fits.idExpr, fits.attrExpr, fits.valueIndexExpr, elseFits⟩

/-- What `IF` parses fits. -/
theorem fits_parseIf (rest : List Char) : Yields Stmt.Fits (parseIf arm rest) := by
  unfold parseIf
  refine .check fun _ => .cutOr fun _ => .check fun _ => .check fun _ => ?_
  refine (fits_parseArms armFits _).bind fun arms armsFit => ?_
  exact (fits_expressionIn _ _).bind fun condition fits => .ok ⟨fits, armsFit⟩

/-- What `MAT` parses fits, be it a copy, an assignment, a read or a write. -/
theorem fits_parseMat (rest : List Char) : Yields Stmt.Fits (parseMat arm rest) := by
  unfold parseMat
  refine .check fun _ => ?_
  split
  · exact fits_parseMatFile armFits _ _ .matRead
      (fun _ _ _ _ first second id arm => ⟨first, second, id, arm⟩) _
  · exact fits_parseMatFile armFits _ _ .matWrite
      (fun _ _ _ _ first second id arm => ⟨first, second, id, arm⟩) _
  · exact fits_parseMatAssign _

/-- The parser of a line returns a statement that fits when the parser of arms does. -/
theorem fits_parseWith (line : List Char) : Yields Stmt.Fits (parseWith arm line) := by
  unfold parseWith
  dsimp only
  split
  · exact .ok trivial
  · exact fits_parseLet _
  · exact fits_parseDim _
  · exact fits_parseInput _
  · exact fits_parseChain _
  · exact fits_parseJump _ .goto (fun _ => trivial) _
  · exact fits_parseJump _ .gosub (fun _ => trivial) _
  · exact fits_parsePlain _ .returnStmt trivial _
  · exact fits_parsePlain _ .clear trivial _
  · exact fits_parseOn _
  · exact fits_parseOpen armFits _
  · exact fits_parseRead armFits _ .readU
      (fun _ _ _ _ first second id arm => ⟨first, second, id, arm⟩) _
  · exact fits_parseRead armFits _ .read
      (fun _ _ _ _ first second id arm => ⟨first, second, id, arm⟩) _
  · exact fits_parseWrite armFits _ .writeU
      (fun _ _ _ _ first second id arm => ⟨first, second, id, arm⟩) _
  · exact fits_parseWrite armFits _ .write
      (fun _ _ _ _ first second id arm => ⟨first, second, id, arm⟩) _
  · exact fits_parseReadNext armFits _
  · exact fits_parseReadV armFits _
  · exact fits_parseWriteV armFits _
  · exact fits_parseRelease _
  · exact fits_parseClose _
  · exact fits_parseFor _
  · exact fits_parseNext _
  · exact fits_parseIf armFits _
  · exact fits_parsePrint _
  · exact fits_parsePlain _ .stop trivial _
  · exact fits_parsePlain _ .endStmt trivial _
  · exact fits_parseMat armFits _
  · exact .error

end Lines

/-- Every parsed statement fits, at each depth of nesting. -/
theorem fits_parseStatement (depth : Nat) (line : List Char) :
    Yields Stmt.Fits (parseStatement depth line : Except String (Stmt Double)) := by
  induction depth generalizing line with
  | zero => exact .error
  | succ depth inductionHypothesis =>
      refine fits_parseWith (fun context raw => ?_) line
      unfold parseBranchArmSpec
      refine .check fun _ => ?_
      split
      · exact .ok trivial
      · refine .check fun _ => .check fun _ => ?_
        exact (inductionHypothesis _).bind fun statement fits => .ok fits

/-- The statements of a parsed program fit, and its lines have the numbers of the text. -/
theorem fits_parseProgram (lines : List (Int × String)) :
    ∀ line ∈ (parseProgram lines : StatementParseResult Double).lines,
      line.statement.Fits ∧ line.lineNumber ∈ lines.map Prod.fst := by
  unfold parseProgram
  induction lines using List.reverseRecOn with
  | nil => exact List.forall_mem_nil _
  | append_singleton lines last inductionHypothesis =>
      obtain ⟨lineNumber, sourceText⟩ := last
      have before : ∀ line ∈ (parseProgram lines : StatementParseResult Double).lines,
          line.statement.Fits ∧
            line.lineNumber ∈ (lines ++ [(lineNumber, sourceText)]).map Prod.fst := by
        intro line member
        obtain ⟨fits, numbered⟩ := inductionHypothesis line member
        exact ⟨fits, by rw [List.map_append]; exact List.mem_append_left _ numbered⟩
      rw [List.foldl_append, List.foldl_cons, List.foldl_nil]
      dsimp only
      split
      · exact before
      · split
        · next statement parsed =>
            refine List.forall_mem_append.mpr ⟨before, List.forall_mem_singleton.mpr ⟨?_, by simp⟩⟩
            exact fits_parseStatement _ _ statement parsed
        · exact before

end Gemini.Basic
