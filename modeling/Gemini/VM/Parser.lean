import Gemini.VM.Instruction
import Gemini.PickFS.StructuredRecord
import Mathlib.Data.List.AList

/-!
# Stored programs as text

`Parser::parse`: a stored program has one instruction to a line, an optional label before it,
and a `#BASICLINES` line with the source line of each instruction. The first pass collects the
lines and the labels, the second makes the instructions. Texts inside the parser are lists of
characters.
-/

namespace Gemini.VM

open Gemini.PickFS.StructuredRecord (getlines)

variable {Double : Type}

/-! ## Numbers and strings -/

/-- The pieces that `std::getline` with a delimiter gives. -/
def getItems (delimiter : Char) (text : List Char) : List (List Char) :=
  let fields := text.splitOn delimiter
  if fields.getLast? = some [] then fields.dropLast else fields

/-- `parseNonNegativeInt`. -/
def parseNonNegativeInt (text : List Char) : Option Int :=
  match scanInteger text with
  | some (negative, magnitude, []) =>
      let v := signed negative magnitude
      if v < 0 || intMax < v then none else some v
  | _ => none

/-- `parseUint32`. `std::stoull` takes a minus sign and negates in 64 bits. -/
def parseUint32 (text : List Char) : Option Nat :=
  match scanInteger text with
  | some (negative, magnitude, []) =>
      let v := if negative then (2 ^ 64 - magnitude) % 2 ^ 64 else magnitude
      if 2 ^ 64 ≤ magnitude || 2 ^ 32 ≤ v then none else some v
  | _ => none

/-- The place of an error. -/
def atLine (line : Nat) : String := " at line " ++ toString line

/-- The operand in an error. -/
def quotedOperand (operand : List Char) : String := ": '" ++ String.ofList operand ++ "'"

/-- `parseCallFuncOperands`. -/
def parseCallFuncOperands (operand : List Char) (line : Nat) : Except String CallFuncOperand :=
  let parts := ((getItems ',' operand).map trim).filter (· ≠ [])
  match parts with
  | [namespaceId, functionId, argCount] =>
      match parseUint32 namespaceId with
      | none =>
          .error ("Invalid CALL_FUNC namespace-id" ++ atLine line ++ quotedOperand namespaceId)
      | some namespaceId =>
          match parseUint32 functionId with
          | none =>
              .error ("Invalid CALL_FUNC function-id" ++ atLine line ++ quotedOperand functionId)
          | some functionId =>
              match parseNonNegativeInt argCount with
              | none =>
                  .error ("Invalid CALL_FUNC arg-count" ++ atLine line ++ quotedOperand argCount)
              | some argCount => .ok { namespaceId, functionId, argCount }
  | _ => .error ("CALL_FUNC requires namespace-id, function-id, arg-count" ++ atLine line)

/-- A text in quotes without its escapes; none for an escape that is not known. -/
def unescape : List Char → Option (List Char)
  | [] => some []
  | ['\\'] => none
  | '\\' :: e :: rest =>
      match e with
      | '\\' => (unescape rest).map ('\\' :: ·)
      | '"' => (unescape rest).map ('"' :: ·)
      | 'n' => (unescape rest).map ('\n' :: ·)
      | 'r' => (unescape rest).map ('\r' :: ·)
      | 't' => (unescape rest).map ('\t' :: ·)
      | _ => none
  | c :: rest => (unescape rest).map (c :: ·)

/-- `parseQuotedString`: a text without quotes stands for itself. -/
def parseQuotedString (token : List Char) (line : Nat) : Except String String :=
  if token.length < 2 ∨ token.head? ≠ some '"' ∨ token.getLast? ≠ some '"' then
    .ok (String.ofList token)
  else
    match unescape token.tail.dropLast with
    | none => .error ("Invalid string escape" ++ atLine line)
    | some text => .ok (String.ofList text)

/-! ## Lines -/

/-- What the line with the BASIC lines begins with. -/
def basicLinesTag : List Char := "#BASICLINES:".toList

/-- One of the BASIC lines. -/
def parseBasicLinesItem (item : List Char) : Except String Int :=
  match parseNonNegativeInt (trim item) with
  | none => .error "Invalid #BASICLINES metadata"
  | some value => .ok value

/-- `parseBasicLinesMetadata`, on a line that starts with the tag. -/
def parseBasicLinesMetadata (trimmed : List Char) : Except String (List Int) :=
  (getItems ',' (trimmed.drop basicLinesTag.length)).mapM parseBasicLinesItem

/-- A line in its parts. -/
structure ParsedLine where
  label : List Char := []
  opcode : List Char := []
  operand : List Char := []
  sourceLine : Nat := 0
deriving DecidableEq

/-- The text before and after the first colon outside a quoted string. -/
def splitLabel : Bool → List Char → Option (List Char × List Char)
  | _, [] => none
  | true, '\\' :: c :: rest => (splitLabel true rest).map fun found =>
      ('\\' :: c :: found.1, found.2)
  | true, c :: rest => (splitLabel (c ≠ '"') rest).map fun found => (c :: found.1, found.2)
  | false, c :: rest =>
      if c = ':' then some ([], rest)
      else (splitLabel (c = '"') rest).map fun found => (c :: found.1, found.2)

/-- The operation code and the operand of a line without its label. -/
def parseInstructionText (label line : List Char) : ParsedLine where
  label := label
  opcode := (line.dropWhile isSpace).takeWhile (! isSpace ·)
  operand := trim ((line.dropWhile isSpace).dropWhile (! isSpace ·))

/-- `parseLine`. -/
def parseLine (raw : List Char) : ParsedLine :=
  let line := trim raw
  if line.isEmpty || line.head? = some '#' then {}
  else
    match splitLabel false line with
    | none => parseInstructionText [] line
    | some (label, rest) =>
        if (trim rest).isEmpty then { label := trim label }
        else parseInstructionText (trim label) (trim rest)

/-! ## Instructions -/

/-- The operation code that the parser knows by a name. -/
def opCodeOfName : String → Option OpCode
  | "HALT" => some .halt
  | "PUSH_INT" => some .pushInt
  | "PUSH_FLT" => some .pushFlt
  | "PUSH_STR" => some .pushStr
  | "ADD" => some .add
  | "SUB" => some .sub
  | "MUL" => some .mul
  | "DIV" => some .div
  | "MOD" => some .mod
  | "EQ" => some .eq
  | "NE" => some .ne
  | "LT" => some .lt
  | "LE" => some .le
  | "GT" => some .gt
  | "GE" => some .ge
  | "DUP" => some .dup
  | "DROP" => some .drop
  | "CONCAT" => some .concat
  | "PRINT_INT" => some .printInt
  | "PRINT_STR" => some .printStr
  | "PRINT_VAL" => some .printVal
  | "PRINT_EOL" => some .printEol
  | "PRINT_CHAR" => some .printChar
  | "INPUT_INT" => some .inputInt
  | "INPUT_STR" => some .inputStr
  | "INPUT_FLT" => some .inputFlt
  | "COERCE_INT" => some .coerceInt
  | "COERCE_FLT" => some .coerceFlt
  | "JUMP" => some .jump
  | "JZ" => some .jumpIfZero
  | "CALL" => some .call
  | "RETURN" => some .return_
  | "FOR_SETUP" => some .forSetup
  | "FOR_NEXT" => some .forNext
  | "DIM_ARRAY" => some .dimArray
  | "LOAD_ARR" => some .loadArr
  | "STORE_ARR" => some .storeArr
  | "MAT_INIT" => some .matInit
  | "MAT_COPY" => some .matCopy
  | "MAT_LOAD_FROM_REC" => some .matLoadFromRec
  | "MAT_STORE_TO_REC" => some .matStoreToRec
  | "CLEAR_VARS" => some .clearVars
  | "ABS_INT" => some .absInt
  | "SGN_INT" => some .sgnInt
  | "SEQ_STR" => some .seqStr
  | "INVOKE_BUILTIN" => some .invokeBuiltin
  | "CALL_FUNC" => some .callFunc
  | "OPEN_FILE" => some .openFile
  | "OPEN_FILE_TRY" => some .openFileTry
  | "READ_REC" => some .readRec
  | "READ_REC_TRY" => some .readRecTry
  | "READ_REC_U" => some .readRecU
  | "READ_REC_U_TRY" => some .readRecUTry
  | "WRITE_REC" => some .writeRec
  | "WRITE_REC_TRY" => some .writeRecTry
  | "WRITE_REC_U" => some .writeRecU
  | "WRITE_REC_U_TRY" => some .writeRecUTry
  | "RELEASE_REC" => some .releaseRec
  | "SET_ON_ERROR_HANDLER" => some .setOnErrorHandler
  | "READ_NEXT" => some .readNext
  | "READ_NEXT_TRY" => some .readNextTry
  | "READ_V" => some .readV
  | "READ_V_TRY" => some .readVTry
  | "RESOLVE_DICT_ATTR" => some .resolveDictAttr
  | "WRITE_V" => some .writeV
  | "WRITE_V_TRY" => some .writeVTry
  | "EXTRACT_ATTR" => some .extractAttr
  | "CHAIN" => some .chain
  | "CLOSE_FILE" => some .closeFile
  | "LOAD_VAR" => some .loadVar
  | "STORE_VAR" => some .storeVar
  | _ => none

/-- The instructions without an operand. -/
def requireNoOperand (line : ParsedLine) (op : OpCode) : Except String (Instruction Double) :=
  if line.operand = [] then .ok { op }
  else .error (String.ofList line.opcode ++ " takes no operand" ++ atLine line.sourceLine)

/-- An instruction whose operand is a name; the error says what it requires. -/
def requireName (line : ParsedLine) (op : OpCode) (required : String) :
    Except String (Instruction Double) :=
  if line.operand = [] then
    .error (String.ofList line.opcode ++ " requires " ++ required ++ atLine line.sourceLine)
  else do
    let name ← parseQuotedString line.operand line.sourceLine
    return { op, operand := .string name }

/-- The labels with their instructions. -/
abbrev LabelMap := AList fun _ : List Char => Int

/-- The target of a jump: an index, or a label. -/
def requireTarget (labels : LabelMap) (line : ParsedLine) (op : OpCode) :
    Except String (Instruction Double) :=
  match parseNonNegativeInt line.operand with
  | some target => .ok { op, operand := .int target }
  | none =>
      match labels.lookup line.operand with
      | some target => .ok { op, operand := .int target }
      | none =>
          .error ("Unknown label for " ++ String.ofList line.opcode ++ atLine line.sourceLine ++
            ": " ++ String.ofList line.operand)

/-- The error for an operand that cannot be read. -/
def invalidOperand (line : ParsedLine) : String :=
  "Invalid " ++ String.ofList line.opcode ++ " operand" ++ atLine line.sourceLine ++
    quotedOperand line.operand

/-- An instruction with the number that `std::stoi` finds; what follows it is not looked at. -/
def requireInt (line : ParsedLine) (op : OpCode) : Except String (Instruction Double) :=
  match stoi line.operand with
  | some (value, _) => .ok { op, operand := .int value }
  | none => .error (invalidOperand line)

/-- The instruction with a number. -/
def requireFloat [Doubles Double] (line : ParsedLine) : Except String (Instruction Double) :=
  match Doubles.strtod (cString (String.ofList line.operand)) with
  | some found =>
      if found.rangeError || !found.rest.isEmpty || line.operand.contains (Char.ofNat 0) then
        .error (invalidOperand line)
      else .ok { op := .pushFlt, operand := .double found.number }
  | none => .error (invalidOperand line)

/-- `parseInstruction`. -/
def parseInstruction [Doubles Double] (labels : LabelMap) (line : ParsedLine) :
    Except String (Instruction Double) :=
  match opCodeOfName (String.ofList line.opcode) with
  | none => .error ("Unknown opcode" ++ atLine line.sourceLine ++ ": " ++
      String.ofList line.opcode)
  | some op =>
      match op with
      | .pushInt => requireInt line op
      | .pushFlt => requireFloat line
      | .pushStr => do
          let text ← parseQuotedString line.operand line.sourceLine
          return { op, operand := .string text }
      | .jump | .jumpIfZero | .call => requireTarget labels line op
      | .callFunc => do
          let callFunc ← parseCallFuncOperands line.operand line.sourceLine
          return { op, callFunc }
      | .setOnErrorHandler =>
          if line.operand = [] then
            .error ("SET_ON_ERROR_HANDLER requires a target IP" ++ atLine line.sourceLine)
          else requireInt line op
      | .forSetup | .forNext | .dimArray | .loadArr | .storeArr | .loadVar | .storeVar =>
          requireName line op "a variable name"
      | .matInit | .matLoadFromRec | .matStoreToRec => requireName line op "an array name"
      | .matCopy => requireName line op "a DST|SRC operand"
      | .invokeBuiltin => requireName line op "a quoted builtin name"
      | .openFile | .openFileTry | .readRec | .readRecTry | .readRecU | .readRecUTry
      | .writeRec | .writeRecTry | .writeRecU | .writeRecUTry | .releaseRec | .readNext
      | .readNextTry | .readV | .readVTry | .resolveDictAttr | .writeV | .writeVTry
      | .closeFile => requireName line op "a file variable"
      | .halt | .add | .sub | .mul | .div | .mod | .eq | .ne | .lt | .le | .gt | .ge | .dup
      | .drop | .concat | .printInt | .printStr | .printVal | .printEol | .printChar
      | .inputInt | .inputStr | .inputFlt | .coerceInt | .coerceFlt | .return_ | .clearVars
      | .absInt | .sgnInt | .seqStr | .extractAttr | .chain => requireNoOperand line op

/-! ## The whole text -/

/-- The instructions whose target is checked. -/
def isJump (op : OpCode) : Bool := op = .jump || op = .jumpIfZero || op = .call

/-- The check of `validateJumpTargets` on the instruction at an index. -/
def validateJumpTarget (size i : Nat) (instr : Instruction Double) : Except String Unit :=
  if isJump instr.op then
    match instr.operand with
    | .int t =>
        if t < 0 ∨ (size : Int) ≤ t then
          .error ("Control-flow target out of range at instruction " ++ toString i ++ ": " ++
            toString t)
        else .ok ()
    | _ => .error ("Control-flow instruction at index " ++ toString i ++ " has no int target")
  else .ok ()

/-- `validateJumpTargets`. -/
def validateJumpTargets (program : List (Instruction Double)) : Except String Unit :=
  program.zipIdx.forM fun (instr, i) => validateJumpTarget program.length i instr

/-- What the first pass has collected. -/
structure FirstPass where
  labels : LabelMap := ∅
  lines : List ParsedLine := []
  metadata : List Int := []
  physLine : Nat := 0

/-- The first pass on one line. -/
def FirstPass.readLine (pass : FirstPass) (raw : List Char) : Except String FirstPass :=
  let physLine := pass.physLine + 1
  if basicLinesTag.isPrefixOf (trim raw) then do
    let metadata ← parseBasicLinesMetadata (trim raw)
    return { pass with metadata, physLine }
  else
    let line := parseLine raw
    let labels :=
      if line.label = [] then pass.labels
      else pass.labels.insert line.label pass.lines.length
    let lines :=
      if line.opcode = [] then pass.lines
      else pass.lines ++ [{ line with sourceLine := physLine }]
    .ok { pass with labels, lines, physLine }

/-- A program that has been loaded, with its labels and BASIC lines. -/
structure LoadedBytecode (Double : Type) where
  program : List (Instruction Double)
  labels : LabelMap
  sourceLinePerInstr : List Int

/-- `Parser::parse`. -/
def parse [Doubles Double] (text : String) : Except String (LoadedBytecode Double) := do
  let pass ← (getlines text.toList).foldlM FirstPass.readLine {}
  let program ← pass.lines.mapM (parseInstruction pass.labels)
  if pass.metadata ≠ [] ∧ pass.metadata.length ≠ program.length then
    throw "#BASICLINES metadata size mismatch"
  let sourceLinePerInstr : List Int :=
    if pass.metadata = [] then pass.lines.map fun line => (line.sourceLine : Int)
    else pass.metadata
  validateJumpTargets program
  return { program, labels := pass.labels, sourceLinePerInstr }

end Gemini.VM
