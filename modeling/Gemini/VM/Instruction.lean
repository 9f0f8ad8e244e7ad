import Gemini.VM.Value

/-!
# Instructions

The operation codes in the order of the source's enumeration, their names in listings and
stored programs, and instructions with their operands.
-/

namespace Gemini.VM

/-- The instructions of the machine. -/
inductive OpCode where
  | halt
  | pushInt
  | pushFlt
  | pushStr
  | add
  | sub
  | mul
  | div
  | eq
  | ne
  | lt
  | le
  | gt
  | ge
  | concat
  | dup
  | drop
  | printInt
  | printStr
  | printVal
  | printEol
  | inputInt
  | inputStr
  | coerceInt
  | jump
  | jumpIfZero
  | call
  | return_
  | forSetup
  | forNext
  | dimArray
  | loadArr
  | storeArr
  | matInit
  | matCopy
  | matLoadFromRec
  | matStoreToRec
  | clearVars
  | absInt
  | sgnInt
  | seqStr
  | invokeBuiltin
  | callFunc
  | openFile
  | openFileTry
  | readRec
  | readRecTry
  | readRecU
  | readRecUTry
  | writeRec
  | writeRecTry
  | writeRecU
  | writeRecUTry
  | releaseRec
  | readNext
  | readNextTry
  | readV
  | readVTry
  | writeV
  | writeVTry
  | extractAttr
  | resolveDictAttr
  | chain
  | closeFile
  | setOnErrorHandler
  | loadVar
  | storeVar
  | printChar
  | inputFlt
  | coerceFlt
  | mod
deriving DecidableEq, Repr

/-- The name of an instruction in bytecode text. -/
def opCodeName : OpCode → String
  | .halt => "HALT"
  | .pushInt => "PUSH_INT"
  | .pushFlt => "PUSH_FLT"
  | .pushStr => "PUSH_STR"
  | .add => "ADD"
  | .sub => "SUB"
  | .mul => "MUL"
  | .div => "DIV"
  | .eq => "EQ"
  | .ne => "NE"
  | .lt => "LT"
  | .le => "LE"
  | .gt => "GT"
  | .ge => "GE"
  | .concat => "CONCAT"
  | .dup => "DUP"
  | .drop => "DROP"
  | .printInt => "PRINT_INT"
  | .printStr => "PRINT_STR"
  | .printVal => "PRINT_VAL"
  | .printEol => "PRINT_EOL"
  | .inputInt => "INPUT_INT"
  | .inputStr => "INPUT_STR"
  | .coerceInt => "COERCE_INT"
  | .jump => "JUMP"
  | .jumpIfZero => "JZ"
  | .call => "CALL"
  | .return_ => "RETURN"
  | .forSetup => "FOR_SETUP"
  | .forNext => "FOR_NEXT"
  | .dimArray => "DIM_ARRAY"
  | .loadArr => "LOAD_ARR"
  | .storeArr => "STORE_ARR"
  | .matInit => "MAT_INIT"
  | .matCopy => "MAT_COPY"
  | .matLoadFromRec => "MAT_LOAD_FROM_REC"
  | .matStoreToRec => "MAT_STORE_TO_REC"
  | .clearVars => "CLEAR_VARS"
  | .absInt => "ABS_INT"
  | .sgnInt => "SGN_INT"
  | .seqStr => "SEQ_STR"
  | .invokeBuiltin => "INVOKE_BUILTIN"
  | .callFunc => "CALL_FUNC"
  | .openFile => "OPEN_FILE"
  | .openFileTry => "OPEN_FILE_TRY"
  | .readRec => "READ_REC"
  | .readRecTry => "READ_REC_TRY"
  | .readRecU => "READ_REC_U"
  | .readRecUTry => "READ_REC_U_TRY"
  | .writeRec => "WRITE_REC"
  | .writeRecTry => "WRITE_REC_TRY"
  | .writeRecU => "WRITE_REC_U"
  | .writeRecUTry => "WRITE_REC_U_TRY"
  | .releaseRec => "RELEASE_REC"
  | .readNext => "READ_NEXT"
  | .readNextTry => "READ_NEXT_TRY"
  | .readV => "READ_V"
  | .readVTry => "READ_V_TRY"
  | .writeV => "WRITE_V"
  | .writeVTry => "WRITE_V_TRY"
  | .extractAttr => "EXTRACT_ATTR"
  | .resolveDictAttr => "RESOLVE_DICT_ATTR"
  | .chain => "CHAIN"
  | .closeFile => "CLOSE_FILE"
  | .setOnErrorHandler => "SET_ON_ERROR_HANDLER"
  | .loadVar => "LOAD_VAR"
  | .storeVar => "STORE_VAR"
  | .printChar => "PRINT_CHAR"
  | .inputFlt => "INPUT_FLT"
  | .coerceFlt => "COERCE_FLT"
  | .mod => "MOD"

/-- The operand of `CALL_FUNC`. -/
structure CallFuncOperand where
  namespaceId : Nat := 0
  functionId : Nat := 0
  argCount : Int := 0
deriving DecidableEq

/-- An instruction; one that takes no operand has the value a default `Value` holds. -/
structure Instruction (Double : Type) where
  op : OpCode
  operand : Value Double := .int 0
  callFunc : CallFuncOperand := {}
deriving DecidableEq

/-! ## Code in a program -/

variable {Double : Type}

/-- The code is in the program from an index on. -/
def CodeAt (program : List (Instruction Double)) : Nat → List (Instruction Double) → Prop
  | _, [] => True
  | start, instr :: rest => program[start]? = some instr ∧ CodeAt program (start + 1) rest

/-- Code at a place is its first part there and the second part behind it. -/
theorem codeAt_append {program first second : List (Instruction Double)} {start : Nat} :
    CodeAt program start (first ++ second) ↔
      CodeAt program start first ∧ CodeAt program (start + first.length) second := by
  induction first generalizing start with
  | nil => simp [CodeAt]
  | cons instr rest inductionHypothesis =>
      have shifted : start + 1 + rest.length = start + (instr :: rest).length := by
        simp only [List.length_cons]
        omega
      simp [CodeAt, inductionHypothesis, shifted, and_assoc]

/-- Code between other code is at the length of what comes before. -/
theorem codeAt_middle (before code after : List (Instruction Double)) :
    CodeAt (before ++ code ++ after) before.length code := by
  induction code generalizing before with
  | nil => trivial
  | cons instr rest inductionHypothesis =>
      constructor
      · simp
      · simpa using inductionHypothesis (before ++ [instr])

end Gemini.VM
