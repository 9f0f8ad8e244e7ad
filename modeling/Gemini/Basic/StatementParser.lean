import Gemini.Basic.ExpressionParser
import Gemini.Basic.SourceText
import Gemini.Data.Cuts

/-!
# The parser of statements

A line is a keyword and a text, and the text is cut at keywords and separators. The cuts look at
the characters alone: they do not know of string literals. The arm of a branch is a line of its own,
so the parser of a line is given the parser of arms; `parseStatement` counts the depth of arms, and
`parseStatement_fuel` says that the length of a line is always enough.
-/

namespace Gemini.Basic

open Gemini.VM (Doubles isSpace isSpace_of_isAlphanum isBlank trim)
open Gemini.Data (cutFirst cutLast cutKeyword cutKeyword_eq_some atGap EndsAtGap
  length_stripped_le)

variable {Double : Type}

/-! ## Texts -/

/-- `iss >> word`, and what it leaves. -/
def nextWord (text : List Char) : List Char × List Char :=
  let body := text.dropWhile isSpace
  (body.takeWhile fun c => !isSpace c, body.dropWhile fun c => !isSpace c)

/-- `std::getline`. -/
def getline (text : List Char) : List Char := text.takeWhile (· ≠ '\n')

/-- What follows a word in its line. -/
def restOfLine (text : List Char) : List Char := trim (getline (nextWord text).2)

/-- A word in upper case. -/
def upperWord (word : List Char) : String := uppercase (String.ofList word)

/-- `findKeywordToken` on the upper-case text, and the text before and after the keyword. -/
def findKeywordToken (text : List Char) (keyword : String) : Option (List Char × List Char) :=
  cutKeyword isSpace Char.toUpper keyword.toList true text

/-- `std::getline` with a comma, as often as it finds something. -/
def splitArguments (text : List Char) : List (List Char) :=
  let fields := text.splitOn ','
  (if fields.getLast? = some [] then fields.dropLast else fields).map trim

/-- The number of a line, with blanks around it. -/
def parsePositiveLineNumber (raw : List Char) : Option Int := parseLineNumber (trim raw)

/-- A valid name of a variable. -/
def isName (raw : List Char) : Bool := isValidVariableName (String.ofList raw)

/-- A system variable that cannot be assigned. -/
def isReadonly (raw : List Char) : Bool := isReadonlySessionSystemVariable (String.ofList raw)

/-- A check with the message of its failure. -/
def check (passes : Bool) (message : String) : Except String Unit :=
  if passes then .ok () else .error message

/-- The error of an assignment to a system variable. -/
def readonlyMessage (raw : List Char) : String :=
  "Read-only system variable '" ++ String.ofList raw ++ "'"

/-- An expression with the context of its error. -/
def expressionIn [Doubles Double] (context : String) (raw : List Char) :
    Except String (Expr Double) :=
  (parseExpression (String.ofList raw)).mapError (context ++ ·)

/-- The part of a text that has to have a separator. -/
def cutOr (cut : Option (List Char × List Char)) (message : String) :
    Except String (List Char × List Char) :=
  match cut with
  | none => .error message
  | some parts => .ok parts

/-! ## Arms -/

/-- The arm of a branch, given its context. -/
abbrev ArmParser (Double : Type) := String → List Char → Except String (BranchArm Double)

/-- An arm: the number of a line, or else a statement. -/
def parseBranchArmSpec (statement : List Char → Except String (Stmt Double)) : ArmParser Double :=
  fun context raw => do
    let token := trim raw
    check (!token.isEmpty) (context ++ " requires a line number or statement")
    match parsePositiveLineNumber token with
    | some lineNumber => .ok (.line lineNumber)
    | none =>
        check (!token.contains ':') (context ++ " supports exactly one statement")
        let branchOp := upperWord (nextWord token).1
        check (!(branchOp = "FOR" || branchOp = "NEXT")) (context ++ " does not allow FOR/NEXT")
        return .inline (← statement token)

/-- The text before `ELSE` and the arm after it. -/
def parseElse (arm : ArmParser Double) (context : String) (text : List Char) :
    Except String (List Char × Option (BranchArm Double)) :=
  match findKeywordToken text "ELSE" with
  | none => .ok (text, none)
  | some (mainPart, elseRaw) => do
      let parsed ← arm context (trim elseRaw)
      return (trim mainPart, some parsed)

/-! ## Statements -/

section Statements

variable [Doubles Double]

/-- `LET` of an element of an array. -/
def parseLetArray (baseRaw subscript rhsRaw : List Char) : Except String (Stmt Double) := do
  let baseName := trim baseRaw
  check (isName baseName) ("Invalid array variable name '" ++ String.ofList baseName ++ "'")
  check (!isReadonly baseName) (readonlyMessage baseName)
  let (indexRaw, _) ← cutOr (cutLast ')' subscript) "Missing ')' in array subscript"
  let idxRaw := trim indexRaw
  check (!idxRaw.isEmpty) "Array subscript cannot be empty"
  let indexExpr ← expressionIn "Array index error: " idxRaw
  let valueExpr ← expressionIn "LET expression error: " rhsRaw
  return .letArray (String.ofList baseName) indexExpr valueExpr

/-- `LET`. -/
def parseLet (rest : List Char) : Except String (Stmt Double) := do
  let (lhs, rhs) ← cutOr (cutFirst '=' rest) "LET requires assignment with '='"
  let lhsRaw := trim lhs
  let rhsRaw := trim rhs
  check (!rhsRaw.isEmpty) "LET requires an expression"
  match cutFirst '(' lhsRaw with
  | some (baseRaw, subscript) => parseLetArray baseRaw subscript rhsRaw
  | none =>
      check (isName lhsRaw) ("Invalid variable name '" ++ String.ofList lhsRaw ++ "'")
      check (!isReadonly lhsRaw) (readonlyMessage lhsRaw)
      return .letStmt (String.ofList lhsRaw) (← expressionIn "LET expression error: " rhsRaw)

/-- `DIM`. -/
def parseDim (rest : List Char) : Except String (Stmt Double) := do
  let (baseRaw, subscript) ← cutOr (cutFirst '(' rest) "DIM requires '(' after variable name"
  let baseName := trim baseRaw
  check (isName baseName) ("Invalid array variable name '" ++ String.ofList baseName ++ "'")
  check (!isReadonly baseName) (readonlyMessage baseName)
  let (sizeText, _) ← cutOr (cutLast ')' subscript) "DIM missing closing ')'"
  let sizeRaw := trim sizeText
  check (!sizeRaw.isEmpty) "DIM size expression cannot be empty"
  return .dim (String.ofList baseName) (← expressionIn "DIM size error: " sizeRaw)

/-- The variable of `INPUT`. -/
def inputVariable (varName : List Char) : Except String String := do
  check (isName varName) ("Invalid variable name '" ++ String.ofList varName ++ "'")
  check (!isReadonly varName) (readonlyMessage varName)
  return String.ofList varName

/-- `INPUT`; a prompt ends at the last comma. -/
def parseInput (rest : List Char) : Except String (Stmt Double) := do
  check (!rest.isEmpty) "INPUT requires a variable name"
  match cutLast ',' rest with
  | some (promptText, varText) =>
      let promptRaw := trim promptText
      let varRaw := trim varText
      check (!promptRaw.isEmpty) "INPUT prompt expression cannot be empty"
      check (!varRaw.isEmpty) "INPUT requires a variable name"
      let promptExpr ← expressionIn "INPUT prompt expression error: " promptRaw
      return .input (some promptExpr) (← inputVariable varRaw)
  | none =>
      match tokenize rest with
      | [varName] => return .input none (← inputVariable varName)
      | _ => .error "INPUT requires a variable name"

/-- `CHAIN`. -/
def parseChain (rest : List Char) : Except String (Stmt Double) := do
  check (!rest.isEmpty) "CHAIN requires a program name expression"
  return .chain (← expressionIn "CHAIN program expression error: " rest)

/-- `GOTO` and `GOSUB`. -/
def parseJump (op : String) (statement : Int → Stmt Double) (rest : List Char) :
    Except String (Stmt Double) :=
  match parsePositiveLineNumber rest with
  | none => .error (op ++ " requires a line number")
  | some targetLine => .ok (statement targetLine)

/-- The statements that take no arguments. -/
def parsePlain (op : String) (statement : Stmt Double) (rest : List Char) :
    Except String (Stmt Double) := do
  check rest.isEmpty (op ++ " takes no arguments")
  return statement

/-- What follows `ON`; the word `ERROR` may stand on another line than what follows it. -/
def parseOn (text : List Char) : Except String (Stmt Double) := do
  check (upperWord (nextWord text).1 = "ERROR") "Unknown ON statement"
  let rest := restOfLine text
  check (!rest.isEmpty) "ON ERROR requires GOTO <line> or STOP"
  if upperWord rest = "STOP" then return .onError none
  else
    let (_, afterGoto) ←
      cutOr (findKeywordToken rest "GOTO") "ON ERROR requires GOTO <line> or STOP"
    match parsePositiveLineNumber (trim afterGoto) with
    | none => .error "ON ERROR GOTO requires a line number"
    | some targetLine => .ok (.onError (some targetLine))

/-- `OPEN`. -/
def parseOpen (arm : ArmParser Double) (rest : List Char) : Except String (Stmt Double) := do
  check (!rest.isEmpty) "OPEN requires a file expression and TO <filevar>"
  let (mainPart, elseArm) ← parseElse arm "OPEN ELSE" rest
  let (fileText, varText) ← cutOr (findKeywordToken mainPart "TO") "OPEN requires TO <filevar>"
  let fileExprRaw := trim fileText
  let fileVar := trim varText
  check (!fileExprRaw.isEmpty) "OPEN requires a file expression"
  check (isName fileVar) "OPEN requires a valid file variable name"
  return .openStmt (← expressionIn "OPEN file expression error: " fileExprRaw)
    (String.ofList fileVar) elseArm

/-- A file variable and the text of a record's id. -/
def fileAndId (op : String) (text : List Char) : Except String (String × List Char) := do
  let (fileText, idText) ← cutOr (cutFirst ',' text) (op ++ " requires FVAR, ID")
  let fileVar := trim fileText
  let idExprRaw := trim idText
  check (isName fileVar) (op ++ " requires a valid file variable name")
  check (!idExprRaw.isEmpty) (op ++ " requires an ID expression")
  return (String.ofList fileVar, idExprRaw)

/-- `READ` and `READU`. -/
def parseRead (op : String)
    (statement : String → String → Expr Double → Option (BranchArm Double) → Stmt Double)
    (arm : ArmParser Double) (rest : List Char) : Except String (Stmt Double) := do
  check (!rest.isEmpty) (op ++ " requires REC FROM FVAR, ID")
  let (mainPart, elseArm) ← parseElse arm (op ++ " ELSE") rest
  let (targetText, afterText) ← cutOr (findKeywordToken mainPart "FROM") (op ++ " requires FROM")
  let targetVar := trim targetText
  check (isName targetVar) (op ++ " requires a valid target variable name")
  let (fileVar, idExprRaw) ← fileAndId op (trim afterText)
  let idExpr ← expressionIn (op ++ " ID expression error: ") idExprRaw
  return statement (String.ofList targetVar) fileVar idExpr elseArm

/-- `WRITE` and `WRITEU`. -/
def parseWrite (op : String)
    (statement : Expr Double → String → Expr Double → Option (BranchArm Double) → Stmt Double)
    (arm : ArmParser Double) (rest : List Char) : Except String (Stmt Double) := do
  check (!rest.isEmpty) (op ++ " requires REC ON FVAR, ID")
  let (mainPart, elseArm) ← parseElse arm (op ++ " ELSE") rest
  let (valueText, afterText) ← cutOr (findKeywordToken mainPart "ON") (op ++ " requires ON")
  let valueExprRaw := trim valueText
  check (!valueExprRaw.isEmpty) (op ++ " requires a value expression")
  let (fileVar, idExprRaw) ← fileAndId op (trim afterText)
  let valueExpr ← expressionIn (op ++ " value expression error: ") valueExprRaw
  let idExpr ← expressionIn (op ++ " ID expression error: ") idExprRaw
  return statement valueExpr fileVar idExpr elseArm

/-- `MAT READ` and `MAT WRITE`. -/
def parseMatFile (op connector : String)
    (statement : String → String → Expr Double → Option (BranchArm Double) → Stmt Double)
    (arm : ArmParser Double) (body : List Char) : Except String (Stmt Double) := do
  check (!body.isEmpty) (op ++ " requires <arr> " ++ connector ++ " FVAR, ID")
  let (mainPart, elseArm) ← parseElse arm (op ++ " ELSE") body
  let (arrayText, afterText) ←
    cutOr (findKeywordToken mainPart connector) (op ++ " requires " ++ connector)
  let arrayName := trim arrayText
  check (isName arrayName) (op ++ " requires a valid array name")
  check (!isReadonly arrayName) (readonlyMessage arrayName)
  let (fileVar, idExprRaw) ← fileAndId op (trim afterText)
  let idExpr ← expressionIn (op ++ " ID expression error: ") idExprRaw
  return statement (String.ofList arrayName) fileVar idExpr elseArm

/-- `READNEXT`. -/
def parseReadNext (arm : ArmParser Double) (rest : List Char) : Except String (Stmt Double) := do
  check (!rest.isEmpty) "READNEXT requires <var> FROM <filevar>"
  let (mainPart, elseArm) ← parseElse arm "READNEXT ELSE" rest
  let (targetText, fileText) ← cutOr (findKeywordToken mainPart "FROM") "READNEXT requires FROM"
  let targetVar := trim targetText
  let fileVar := trim fileText
  check (isName targetVar) "READNEXT requires a valid target variable name"
  check (isName fileVar) "READNEXT requires a valid file variable name"
  return .readNext (String.ofList targetVar) (String.ofList fileVar) elseArm

/-- Whether both ends of a text are the given quote. -/
def quotedBy (quote : Char) (text : List Char) : Bool :=
  2 ≤ text.length && text.head? = some quote && text.getLast? = some quote

/-- The token of a field, without its quotes. -/
def tryParseDictFieldToken (raw : List Char) : Option (List Char) :=
  let trimmed := trim raw
  if "DICT<".toList.isPrefixOf (trimmed.map Char.toUpper) && trimmed.getLast? = some '>' then
    let inner := trim (trimmed.drop 5).dropLast
    let token :=
      if quotedBy '"' inner || quotedBy '\'' inner then trim inner.tail.dropLast else inner
    if token.isEmpty then none else some token
  else none

/-- The attribute of `READV` and `WRITEV`. -/
def attributeExpr (op : String) (raw : List Char) : Except String (Expr Double) :=
  if "DICT<".toList.isPrefixOf ((trim raw).map Char.toUpper) then
    match tryParseDictFieldToken raw with
    | none =>
        .error (op ++ " attribute expression error: malformed DICT field; expected DICT<token>")
    | some token => .ok (.dictField (String.ofList token))
  else expressionIn (op ++ " attribute expression error: ") raw

/-- The value index of `READV` and `WRITEV`. -/
def valueIndexExpr (op : String) : List (List Char) → Except String (Option (Expr Double))
  | [] => .ok none
  | raw :: _ => do
      check (!raw.isEmpty) (op ++ " value-index expression cannot be empty")
      return some (← expressionIn (op ++ " value-index expression error: ") raw)

/-- What `READV` and `WRITEV` have after their connector. -/
structure FieldArguments (Double : Type) where
  fileVar : String
  idExpr : Expr Double
  attrExpr : Expr Double
  valueIndexExpr : Option (Expr Double)

/-- The operands that `READV` and `WRITEV` share. -/
def fieldArguments (op : String) (text : List Char) : Except String (FieldArguments Double) :=
  match splitArguments text with
  | fileVar :: idRaw :: attrRaw :: others => do
      check (others.length ≤ 1) (op ++ " requires <filevar>, <id>, <attr>[, <value-index>]")
      check (isName fileVar) (op ++ " requires a valid file variable name")
      check (!(idRaw.isEmpty || attrRaw.isEmpty))
        (op ++ " requires non-empty ID and attribute expressions")
      let idExpr ← expressionIn (op ++ " ID expression error: ") idRaw
      let attrExpr ← attributeExpr op attrRaw
      let valueIndexExpr ← valueIndexExpr op others
      return { fileVar := String.ofList fileVar, idExpr, attrExpr, valueIndexExpr }
  | _ => .error (op ++ " requires <filevar>, <id>, <attr>[, <value-index>]")

/-- `READV`. -/
def parseReadV (arm : ArmParser Double) (rest : List Char) : Except String (Stmt Double) := do
  check (!rest.isEmpty) "READV requires <var> FROM <filevar>, <id>, <attr>[, <value-index>]"
  let (mainPart, elseArm) ← parseElse arm "READV ELSE" rest
  let (targetText, afterText) ← cutOr (findKeywordToken mainPart "FROM") "READV requires FROM"
  let targetVar := trim targetText
  check (isName targetVar) "READV requires a valid target variable name"
  let args ← fieldArguments "READV" (trim afterText)
  return .readV (String.ofList targetVar) args.fileVar args.idExpr args.attrExpr
    args.valueIndexExpr elseArm

/-- `WRITEV`. -/
def parseWriteV (arm : ArmParser Double) (rest : List Char) : Except String (Stmt Double) := do
  check (!rest.isEmpty) "WRITEV requires <value> ON <filevar>, <id>, <attr>[, <value-index>]"
  let (mainPart, elseArm) ← parseElse arm "WRITEV ELSE" rest
  let (valueText, afterText) ← cutOr (findKeywordToken mainPart "ON") "WRITEV requires ON"
  let valueExprRaw := trim valueText
  check (!valueExprRaw.isEmpty) "WRITEV requires a value expression"
  let valueExpr ← expressionIn "WRITEV value expression error: " valueExprRaw
  let args ← fieldArguments "WRITEV" (trim afterText)
  return .writeV valueExpr args.fileVar args.idExpr args.attrExpr args.valueIndexExpr elseArm

/-- `RELEASE`. -/
def parseRelease (rest : List Char) : Except String (Stmt Double) := do
  check (!rest.isEmpty) "RELEASE requires FVAR, ID"
  let (fileVar, idExprRaw) ← fileAndId "RELEASE" rest
  return .release fileVar (← expressionIn "RELEASE ID expression error: " idExprRaw)

/-- `CLOSE`. -/
def parseClose (rest : List Char) : Except String (Stmt Double) := do
  check (isName rest) "CLOSE requires a valid file variable name"
  return .close (String.ofList rest)

/-- The limit and the step of a loop, as texts. -/
def limitAndStep (afterTo : List Char) : List Char × List Char :=
  match findKeywordToken afterTo "STEP" with
  | none => (afterTo, [])
  | some (limitText, stepText) => (trim limitText, trim stepText)

/-- The step of a loop; no text is no step. -/
def stepExpr (stepRaw : List Char) : Except String (Option (Expr Double)) :=
  if stepRaw.isEmpty then .ok none
  else do return some (← expressionIn "FOR STEP error: " stepRaw)

/-- `FOR`. -/
def parseFor (rest : List Char) : Except String (Stmt Double) := do
  let (varText, afterText) ← cutOr (cutFirst '=' rest) "FOR requires '='"
  let varRaw := trim varText
  check (isName varRaw) "FOR requires a valid variable name"
  check (!isReadonly varRaw) (readonlyMessage varRaw)
  let (initText, toText) ← cutOr (findKeywordToken (trim afterText) "TO") "FOR requires TO"
  let initRaw := trim initText
  check (!initRaw.isEmpty) "FOR requires an initial value"
  let (limitRaw, stepRaw) := limitAndStep (trim toText)
  check (!limitRaw.isEmpty) "FOR requires a limit value"
  let initExpr ← expressionIn "FOR init error: " initRaw
  let limitExpr ← expressionIn "FOR limit error: " limitRaw
  return .forStmt (String.ofList varRaw) initExpr limitExpr (← stepExpr stepRaw)

/-- The variable is optional. -/
def parseNext (rest : List Char) : Except String (Stmt Double) := do
  check (rest.isEmpty || isName rest) "NEXT requires a valid variable name"
  check (rest.isEmpty || !isReadonly rest) (readonlyMessage rest)
  return .next (String.ofList rest)

/-- The arms of `IF`. -/
def parseArms (arm : ArmParser Double) (branchPart : List Char) :
    Except String (BranchArm Double × Option (BranchArm Double)) :=
  match findKeywordToken branchPart "ELSE" with
  | none => do return (← arm "IF THEN" (trim branchPart), none)
  | some (thenRaw, elseRaw) => do
      let thenArm ← arm "IF THEN" (trim thenRaw)
      let elseArm ← arm "IF ELSE" (trim elseRaw)
      return (thenArm, some elseArm)

/-- `IF`; the condition ends at the first `THEN`. -/
def parseIf (arm : ArmParser Double) (rest : List Char) : Except String (Stmt Double) := do
  check (!rest.isEmpty) "IF requires THEN <line>"
  let (conditionText, branchText) ←
    cutOr (findKeywordToken rest "THEN") "IF requires THEN <line>"
  let conditionExpr := trim conditionText
  check (!conditionExpr.isEmpty) "IF requires a condition expression"
  let branchPart := trim branchText
  check (!branchPart.isEmpty) "IF THEN requires a line number or statement"
  let (thenArm, elseArm) ← parseArms arm branchPart
  let condition ← expressionIn "IF condition error: " conditionExpr
  return .ifStmt condition thenArm elseArm

/-- The text of `PRINT` without its semicolon, and whether it has one. -/
def printText (rest : List Char) : List Char × Bool :=
  if rest.getLast? = some ';' then (trim rest.dropLast, true) else (rest, false)

/-- `PRINT`, with or without the end of the line. -/
def parsePrint (rest : List Char) : Except String (Stmt Double) := do
  let (exprText, suppressEol) := printText rest
  check (!exprText.isEmpty) "PRINT requires an expression"
  return .print (← expressionIn "PRINT expression error: " exprText) suppressEol

/-- The source of a copy of a whole array. -/
def parseMatCopy (targetName srcRaw : List Char) : Except String (Stmt Double) := do
  check (!srcRaw.isEmpty) "MAT copy requires a source array name"
  let (srcName, others) := nextWord srcRaw
  check (tokenize others).isEmpty "MAT copy source must be a bare array name"
  check (isName srcName) "MAT copy requires a valid source array name"
  return .matCopy (String.ofList targetName) (String.ofList srcName)

/-- `MAT` with an assignment or a copy. -/
def parseMatAssign (rest : List Char) : Except String (Stmt Double) := do
  let (targetText, rhsText) ← cutOr (cutFirst '=' rest) "MAT requires READ, WRITE, or '<arr> ='"
  let targetName := trim targetText
  let rhsRaw := trim rhsText
  check (isName targetName) "MAT requires a valid array name"
  check (!isReadonly targetName) (readonlyMessage targetName)
  check (!rhsRaw.isEmpty) "MAT assignment requires an expression"
  if upperWord (nextWord rhsRaw).1 = "MAT" then parseMatCopy targetName (restOfLine rhsRaw)
  else
    return .matAssign (String.ofList targetName)
      (← expressionIn "MAT scalar expression error: " rhsRaw)

/-- `MAT`, by the word after it. -/
def parseMat (arm : ArmParser Double) (rest : List Char) : Except String (Stmt Double) := do
  check (!rest.isEmpty) "MAT requires READ, WRITE, or '<arr> ='"
  match upperWord (nextWord rest).1 with
  | "READ" => parseMatFile "MAT READ" "FROM" .matRead arm (restOfLine rest)
  | "WRITE" => parseMatFile "MAT WRITE" "ON" .matWrite arm (restOfLine rest)
  | _ => parseMatAssign rest

/-- A line with a word in it. -/
def parseWith (arm : ArmParser Double) (line : List Char) : Except String (Stmt Double) :=
  let rest := restOfLine line
  match upperWord (nextWord line).1 with
  | "REM" => .ok .rem
  | "LET" => parseLet rest
  | "DIM" => parseDim rest
  | "INPUT" => parseInput rest
  | "CHAIN" => parseChain rest
  | "GOTO" => parseJump "GOTO" .goto rest
  | "GOSUB" => parseJump "GOSUB" .gosub rest
  | "RETURN" => parsePlain "RETURN" .returnStmt rest
  | "CLEAR" => parsePlain "CLEAR" .clear rest
  | "ON" => parseOn (nextWord line).2
  | "OPEN" => parseOpen arm rest
  | "READU" => parseRead "READU" .readU arm rest
  | "READ" => parseRead "READ" .read arm rest
  | "WRITEU" => parseWrite "WRITEU" .writeU arm rest
  | "WRITE" => parseWrite "WRITE" .write arm rest
  | "READNEXT" => parseReadNext arm rest
  | "READV" => parseReadV arm rest
  | "WRITEV" => parseWriteV arm rest
  | "RELEASE" => parseRelease rest
  | "CLOSE" => parseClose rest
  | "FOR" => parseFor rest
  | "NEXT" => parseNext rest
  | "IF" => parseIf arm rest
  | "PRINT" => parsePrint rest
  | "STOP" => parsePlain "STOP" .stop rest
  | "END" => parsePlain "END" .endStmt rest
  | "MAT" => parseMat arm rest
  | op => .error ("Unknown keyword '" ++ op ++ "'")

/-- `parseStatement`, up to a depth of nested arms. -/
def parseStatement : Nat → List Char → Except String (Stmt Double)
  | 0, _ => .error ""
  | depth + 1, line => parseWith (parseBranchArmSpec (parseStatement depth)) line

/-- A line of a program, without the blanks around it. -/
def parseLine (line : List Char) : Except String (Stmt Double) :=
  parseStatement (line.length + 1) line

/-- The lines that are parsed, and the errors of those that are not. -/
structure StatementParseResult (Double : Type) where
  lines : List (BasicLine Double) := []
  errors : List (Int × String) := []

/-- `BasicStatementParser::parse`. -/
def parseProgram (lines : List (Int × String)) : StatementParseResult Double :=
  lines.foldl (fun result (lineNumber, sourceText) =>
    let line := trim sourceText.toList
    if line.isEmpty then result
    else
      match parseLine line with
      | .ok statement =>
          { result with lines := result.lines ++ [{ lineNumber, statement }] }
      | .error message =>
          { result with errors := result.errors ++ [(lineNumber, message)] }) {}

end Statements

/-! ## Words and lines -/

/-- A word is a keyword, whatever the case of its letters. -/
theorem upperWord_eq_iff {word : List Char} {keyword : String} :
    upperWord word = keyword ↔ word.map Char.toUpper = keyword.toList := by
  rw [upperWord, uppercase, ← String.toList_inj, String.toList_map, String.toList_ofList]

/-- The next word ends at a gap. -/
theorem nextWord_append {gap word rest : List Char} (blank : ∀ c ∈ gap, isSpace c = true)
    (letters : ∀ c ∈ word, isSpace c = false) (notEmpty : word ≠ [])
    (ends : atGap isSpace rest = true) : nextWord (gap ++ (word ++ rest)) = (word, rest) := by
  have body : (gap ++ (word ++ rest)).dropWhile isSpace = word ++ rest := by
    rw [List.dropWhile_append_of_pos blank]
    obtain ⟨first, others, rfl⟩ := List.exists_cons_of_ne_nil notEmpty
    rw [List.cons_append, List.dropWhile_cons_of_neg (by simp [letters first])]
  have kept : ∀ c ∈ word, (!isSpace c) = true := fun c member => by simp [letters c member]
  have scans : Scans (fun c => !isSpace c) (word ++ rest) word rest := by
    refine ⟨rfl, kept, fun c first => ?_⟩
    rw [atGap, first] at ends
    simpa using ends
  obtain ⟨isWord, isRest⟩ := scans_iff.mp scans
  rw [nextWord, body, isWord, isRest]

/-- A line is a word and what follows it. -/
theorem nextWord_spec (line : List Char) :
    ∃ gap, line = gap ++ ((nextWord line).1 ++ (nextWord line).2) ∧
    (∀ c ∈ gap, isSpace c = true) ∧ (∀ c ∈ (nextWord line).1, isSpace c = false) ∧
    atGap isSpace (nextWord line).2 = true := by
  have blanks := scans_self isSpace line
  have word := scans_self (fun c => !isSpace c) (line.dropWhile isSpace)
  refine ⟨line.takeWhile isSpace, ?_, blanks.kept, ?_, ?_⟩
  · rw [nextWord, ← word.cut]
    exact blanks.cut
  · intro c member
    simpa using word.kept c member
  · have stops := word.stops
    rw [nextWord, atGap, Option.all_eq_true]
    intro c first
    simpa using stops c first

/-- A text on one line is its first line. -/
theorem getline_of_not_mem {text : List Char} (oneLine : '\n' ∉ text) : getline text = text := by
  rw [getline, List.takeWhile_eq_self_iff]
  intro c member
  rw [decide_eq_true_iff]
  rintro rfl
  exact oneLine member

/-- The rest of a line is what stands behind its first word, without the blanks around it. -/
theorem restOfLine_append {word rest : List Char} (letters : ∀ c ∈ word, isSpace c = false)
    (notEmpty : word ≠ []) (ends : atGap isSpace rest = true) (oneLine : '\n' ∉ rest) :
    restOfLine (word ++ rest) = trim rest := by
  have split := @nextWord_append [] word rest (by nofun) letters notEmpty ends
  rw [List.nil_append] at split
  rw [restOfLine, split, getline_of_not_mem oneLine]

/-! ## Where the keywords are found -/

/-- Letters in upper case. -/
def IsKeyword (keyword : String) : Prop :=
  keyword.toList ≠ [] ∧ ∀ c ∈ keyword.toList, c.isUpper = true

instance decidableIsKeyword (keyword : String) : Decidable (IsKeyword keyword) :=
  decidable_of_iff (keyword.toList ≠ [] ∧ keyword.toList.all Char.isUpper = true)
    (and_congr_right fun _ => List.all_eq_true)

/-- A letter is no blank. -/
theorem isSpace_of_toUpper {c : Char} (upper : c.toUpper.isUpper = true) : isSpace c = false := by
  have letter := VM.isUpper_iff_toNat.mp upper
  have code := VM.toNat_toUpper c
  have alpha : c.isAlpha = true := VM.isAlpha_iff_toNat.mpr (by split at code <;> omega)
  exact isSpace_of_isAlphanum (by simp [Char.isAlphanum, alpha])

/-- The keyword that is found is a word, and no word before it is the keyword. -/
theorem findKeywordToken_eq_some {keyword : String} (isKeyword : IsKeyword keyword)
    {text before after : List Char} :
    findKeywordToken text keyword = some (before, after) ↔
      ∃ word, text = before ++ (word ++ after) ∧ word.map Char.toUpper = keyword.toList ∧
        atGap isSpace after = true ∧ EndsAtGap isSpace true before ∧
        findKeywordToken before keyword = none :=
  cutKeyword_eq_some (fun _ member => isSpace_of_toUpper (isKeyword.2 _ member)) isKeyword.1

/-- Both sides of a keyword are shorter than the text. -/
theorem length_of_findKeywordToken {keyword : String} (isKeyword : IsKeyword keyword)
    {text before after : List Char} (found : findKeywordToken text keyword = some (before, after)) :
    before.length < text.length ∧ after.length < text.length := by
  obtain ⟨word, isText, isWord, -⟩ := (findKeywordToken_eq_some isKeyword).mp found
  have lengths := congrArg List.length isText
  have lengthWord : word.length = keyword.toList.length := by
    rw [← isWord, List.length_map]
  have positive : 0 < keyword.toList.length := List.length_pos_iff.mpr isKeyword.1
  simp only [List.length_append] at lengths
  omega

/-! ## The depth is enough -/

theorem length_trim_le (text : List Char) : (trim text).length ≤ text.length :=
  length_stripped_le isBlank text

theorem length_restOfLine_le (line : List Char) : (restOfLine line).length ≤ line.length := by
  have trimmed := length_trim_le (getline (nextWord line).2)
  have cut := (List.takeWhile_sublist (l := (nextWord line).2) (· ≠ '\n')).length_le
  have word := (List.dropWhile_sublist (l := line.dropWhile isSpace) fun c => !isSpace c).length_le
  have blanks := (List.dropWhile_sublist (l := line) isSpace).length_le
  exact trimmed.trans (cut.trans (word.trans blanks))

/-- Two parsers of arms agree on the texts that are shorter than a bound. -/
def AgreeBelow (bound : Nat) (arm other : ArmParser Double) : Prop :=
  ∀ context raw, raw.length < bound → arm context raw = other context raw

section Depth

variable {bound : Nat} {arm other : ArmParser Double} (agree : AgreeBelow bound arm other)
include agree

/-- The `ELSE` of a statement depends on arms that are no longer than the text. -/
theorem parseElse_congr (context : String) {text : List Char} (short : text.length ≤ bound) :
    parseElse arm context text = parseElse other context text := by
  unfold parseElse
  split
  · rfl
  · next mainPart elseRaw found =>
      have shorter := (length_of_findKeywordToken (by decide) found).2
      have trimmed := length_trim_le elseRaw
      rw [agree context (trim elseRaw) (by omega)]

/-- The arms of an `IF` depend on arms that are shorter than their text. -/
theorem parseArms_congr {branchPart : List Char} (short : branchPart.length < bound) :
    parseArms arm branchPart = parseArms other branchPart := by
  have trimmed := length_trim_le branchPart
  unfold parseArms
  split
  · rw [agree _ _ (by omega)]
  · next thenRaw elseRaw found =>
      have shorter := length_of_findKeywordToken (by decide) found
      have trimmedThen := length_trim_le thenRaw
      have trimmedElse := length_trim_le elseRaw
      rw [agree _ (trim thenRaw) (by omega), agree _ (trim elseRaw) (by omega)]

variable [Doubles Double]

/-- An `IF` depends on arms that are no longer than its text. -/
theorem parseIf_congr {rest : List Char} (short : rest.length ≤ bound) :
    parseIf arm rest = parseIf other rest := by
  unfold parseIf
  rcases found : findKeywordToken rest "THEN" with _ | ⟨conditionText, branchText⟩
  · rfl
  · have shorter := (length_of_findKeywordToken (by decide) found).2
    have trimmed := length_trim_le branchText
    have arms := parseArms_congr agree (Nat.lt_of_le_of_lt trimmed (by omega))
    simp only [cutOr, Bind.bind, Except.bind, arms]

/-- A `MAT` depends on arms that are no longer than its text. -/
theorem parseMat_congr {rest : List Char} (short : rest.length ≤ bound) :
    parseMat arm rest = parseMat other rest := by
  have shortBody := (length_restOfLine_le rest).trans short
  simp only [parseMat, parseMatFile, parseElse_congr agree _ shortBody]

/-- The parser of a line asks the parser of arms about shorter texts only. -/
theorem parseWith_congr {line : List Char} (short : line.length ≤ bound) :
    parseWith arm line = parseWith other line := by
  have shortRest := (length_restOfLine_le line).trans short
  simp only [parseWith, parseOpen, parseRead, parseWrite, parseReadNext, parseReadV, parseWriteV,
    parseElse_congr agree _ shortRest, parseIf_congr agree shortRest,
    parseMat_congr agree shortRest]

end Depth

/-- Arms depend on the statements that are no longer than they are. -/
theorem parseBranchArmSpec_congr {bound : Nat}
    {statement other : List Char → Except String (Stmt Double)}
    (agree : ∀ line, line.length < bound → statement line = other line) :
    AgreeBelow bound (parseBranchArmSpec statement) (parseBranchArmSpec other) := by
  intro context raw short
  have same := agree (trim raw) (Nat.lt_of_le_of_lt (length_trim_le raw) short)
  simp only [parseBranchArmSpec, same]

variable [Doubles Double]

/-- Any depth that is more than the length of a line gives the same result. -/
theorem parseStatement_fuel {depth other : Nat} {line : List Char} (enough : line.length < depth)
    (enoughOther : line.length < other) :
    (parseStatement depth line : Except String (Stmt Double)) = parseStatement other line := by
  induction depth generalizing other line with
  | zero => omega
  | succ depth inductionHypothesis =>
      obtain ⟨other, rfl⟩ := Nat.exists_eq_succ_of_ne_zero (Nat.ne_of_gt (by omega : 0 < other))
      have agree : AgreeBelow line.length
          (parseBranchArmSpec (parseStatement depth : List Char → Except String (Stmt Double)))
          (parseBranchArmSpec (parseStatement other)) :=
        parseBranchArmSpec_congr fun text short => inductionHypothesis (by omega) (by omega)
      exact parseWith_congr agree le_rfl

/-- A line is parsed with arms that are lines. -/
theorem parseLine_eq (line : List Char) :
    (parseLine line : Except String (Stmt Double)) =
      parseWith (parseBranchArmSpec parseLine) line := by
  have agree : AgreeBelow line.length
      (parseBranchArmSpec (parseStatement line.length : List Char → Except String (Stmt Double)))
      (parseBranchArmSpec parseLine) :=
    parseBranchArmSpec_congr fun text short => parseStatement_fuel short (Nat.lt_succ_self _)
  exact parseWith_congr agree le_rfl

end Gemini.Basic
