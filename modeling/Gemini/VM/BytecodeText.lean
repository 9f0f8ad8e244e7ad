import Gemini.Data.Checked
import Gemini.Data.Cuts
import Gemini.Data.Fields
import Gemini.VM.Numerals
import Gemini.VM.Parser

/-!
# Programs as they are stored

`serializeBytecodeText` writes a program an instruction to a line, after a line with the source
lines. The parser reads back every operand that the compiler writes but two: a number that six
digits do not spell, and the name of a `NEXT` that has none.
-/

namespace Gemini.VM

open Gemini.Data (Bare bind_eq_ok mem_intercalate stripped_append)
open Gemini.PickFS.StructuredRecord (getlines getlines_flatMap)

variable {Double : Type}

/-! ## The text of a program -/

/-- A character as it is written in quotes. -/
def escapeQuotedChar : Char → List Char
  | '\\' => ['\\', '\\']
  | '"' => ['\\', '"']
  | '\n' => ['\\', 'n']
  | '\r' => ['\\', 'r']
  | '\t' => ['\\', 't']
  | c => [c]

/-- `escapeQuoted`. -/
def escapeQuoted (input : List Char) : List Char := input.flatMap escapeQuotedChar

/-- What is written after the name of an operation code. -/
inductive OperandKind where
  | bare
  | int
  | float
  | quoted
  | name
  | callFunc
deriving DecidableEq

/-- How the operand of an instruction is written. -/
def operandKind : OpCode → OperandKind
  | .pushInt | .jump | .jumpIfZero | .call | .setOnErrorHandler => .int
  | .pushFlt => .float
  | .pushStr | .invokeBuiltin => .quoted
  | .loadVar | .storeVar | .forSetup | .forNext | .dimArray | .loadArr | .storeArr | .matInit
  | .matCopy | .matLoadFromRec | .matStoreToRec | .openFile | .openFileTry | .readRec
  | .readRecTry | .readRecU | .readRecUTry | .writeRec | .writeRecTry | .writeRecU
  | .writeRecUTry | .releaseRec | .readNext | .readNextTry | .readV | .readVTry | .writeV
  | .writeVTry | .resolveDictAttr | .closeFile => .name
  | .callFunc => .callFunc
  | _ => .bare

/-- The operand of `CALL_FUNC`. -/
def callFuncText (callFunc : CallFuncOperand) : List Char :=
  (toString callFunc.namespaceId).toList ++ ", ".toList ++
    (toString callFunc.functionId).toList ++ ", ".toList ++ (toString callFunc.argCount).toList

/-- The operand of an instruction; `std::get` throws where it is of another type. -/
def operandText [Doubles Double] (instr : Instruction Double) : Option (List Char) :=
  match operandKind instr.op, instr.operand with
  | .int, .int value => some (' ' :: (toString value).toList)
  | .float, .double value => some (' ' :: Doubles.print defaultPrecision value)
  | .quoted, .string text => some (' ' :: '"' :: (escapeQuoted text.toList ++ ['"']))
  | .name, .string name => some (' ' :: name.toList)
  | .callFunc, _ => some (' ' :: callFuncText instr.callFunc)
  | .bare, _ => some []
  | _, _ => none

/-- The line of an instruction, none when its operand has another type. -/
def instructionText [Doubles Double] (instr : Instruction Double) : Option (List Char) :=
  (operandText instr).map fun operand => (opCodeName instr.op).toList ++ operand

/-- The line with the BASIC lines of the instructions. -/
def basicLinesText (sourceLinePerInstr : List Int) : List Char :=
  basicLinesTag ++ [','].intercalate (sourceLinePerInstr.map fun line => (toString line).toList)

/-- `serializeBytecodeText`. -/
def serializeBytecodeText [Doubles Double] (program : List (Instruction Double))
    (sourceLinePerInstr : List Int) : Option String := do
  let lines ← program.mapM instructionText
  let metadata :=
    if sourceLinePerInstr = [] then []
    else [basicLinesText (sourceLinePerInstr.take program.length)]
  return String.ofList ((metadata ++ lines).flatMap fun line => line ++ ['\n'])

/-! ## Quoted texts -/

/-- A character is escaped, or it is none of those that end a text or a line. -/
theorem escapeQuotedChar_cases (c : Char) :
    (∃ e, escapeQuotedChar c = ['\\', e] ∧ e ≠ '\n' ∧
      ∀ rest, unescape ('\\' :: e :: rest) = (unescape rest).map (c :: ·)) ∨
    escapeQuotedChar c = [c] ∧ c ≠ '\\' ∧ c ≠ '"' ∧ c ≠ '\n' := by
  unfold escapeQuotedChar
  split
  · exact .inl ⟨'\\', rfl, by decide, fun _ => rfl⟩
  · exact .inl ⟨'"', rfl, by decide, fun _ => rfl⟩
  · exact .inl ⟨'n', rfl, by decide, fun _ => rfl⟩
  · exact .inl ⟨'r', rfl, by decide, fun _ => rfl⟩
  · exact .inl ⟨'t', rfl, by decide, fun _ => rfl⟩
  · rename_i noBackslash noQuote noNewline _ _
    exact .inr ⟨rfl, noBackslash, noQuote, noNewline⟩

/-- A text is escaped character by character. -/
theorem escapeQuoted_cons (c : Char) (rest : List Char) :
    escapeQuoted (c :: rest) = escapeQuotedChar c ++ escapeQuoted rest :=
  List.flatMap_cons

/-- A character that is no backslash stands for itself. -/
theorem unescape_cons {c : Char} (plain : c ≠ '\\') (rest : List Char) :
    unescape (c :: rest) = (unescape rest).map (c :: ·) := by
  rw [unescape]
  · rintro rfl
    exact absurd rfl plain
  · rintro e others rfl
    exact absurd rfl plain

/-- What is escaped is read back. -/
theorem unescape_escapeQuoted (text : List Char) : unescape (escapeQuoted text) = some text := by
  induction text with
  | nil => rfl
  | cons c rest inductionHypothesis =>
      rw [escapeQuoted_cons]
      rcases escapeQuotedChar_cases c with ⟨e, escaped, -, reads⟩ | ⟨plain, noBackslash, -, -⟩
      · rw [escaped, List.cons_append, List.singleton_append, reads, inductionHypothesis]
        rfl
      · rw [plain, List.singleton_append, unescape_cons noBackslash, inductionHypothesis]
        rfl

/-- An escaped text is on one line. -/
theorem newline_not_mem_escapeQuoted (text : List Char) : '\n' ∉ escapeQuoted text := by
  intro member
  obtain ⟨c, -, inChar⟩ := List.mem_flatMap.mp member
  rcases escapeQuotedChar_cases c with ⟨e, escaped, noNewline, -⟩ | ⟨plain, -, -, noNewline⟩
  · rw [escaped, List.mem_pair] at inChar
    rcases inChar with isBackslash | isNewline
    · cases isBackslash
    · exact noNewline isNewline.symm
  · rw [plain, List.mem_singleton] at inChar
    exact noNewline inChar.symm

/-- No colon of a quoted text ends a label. -/
theorem splitLabel_escapeQuoted (text : List Char) :
    splitLabel true (escapeQuoted text ++ ['"']) = none := by
  induction text with
  | nil => rfl
  | cons c rest inductionHypothesis =>
      rw [escapeQuoted_cons, List.append_assoc]
      rcases escapeQuotedChar_cases c with ⟨e, escaped, -, -⟩ | ⟨plain, noBackslash, noQuote, -⟩
      · rw [escaped, List.cons_append, List.singleton_append, splitLabel, inductionHypothesis]
        rfl
      · rw [plain, List.singleton_append, splitLabel, decide_eq_true noQuote, inductionHypothesis]
        · rfl
        · rintro e others rfl
          exact absurd rfl noBackslash

/-- A text in quotes is read back. -/
theorem parseQuotedString_escapeQuoted (text : String) (line : Nat) :
    parseQuotedString ('"' :: (escapeQuoted text.toList ++ ['"'])) line = .ok text := by
  have long : ¬ ('"' :: (escapeQuoted text.toList ++ ['"'])).length < 2 := by
    rw [List.length_cons, List.length_append, List.length_singleton]
    omega
  have last : ('"' :: (escapeQuoted text.toList ++ ['"'])).getLast? = some '"' := by
    rw [← List.cons_append, List.getLast?_concat]
  rw [parseQuotedString, if_neg (by simp [last]), List.tail_cons, List.dropLast_concat,
    unescape_escapeQuoted]
  exact congrArg Except.ok String.ofList_toList

/-! ## Lines of a stored program -/

/-- A text without a blank, a quote or a colon. -/
def PlainText (text : List Char) : Prop :=
  text ≠ [] ∧ ∀ c ∈ text, isSpace c = false ∧ c ≠ ':' ∧ c ≠ '"' ∧ c ≠ Char.ofNat 0

/-- A start without a colon and a quote gives a line no label. -/
theorem splitLabel_append {front : List Char} (plain : ∀ c ∈ front, c ≠ ':' ∧ c ≠ '"')
    {back : List Char} (noLabel : splitLabel false back = none) :
    splitLabel false (front ++ back) = none := by
  induction front with
  | nil => exact noLabel
  | cons c rest inductionHypothesis =>
      rw [List.forall_mem_cons] at plain
      rw [List.cons_append, splitLabel, if_neg plain.1.1, decide_eq_false plain.1.2,
        inductionHypothesis plain.2]
      rfl

/-- A text without spaces has none at its ends. -/
theorem bare_of_letters {text : List Char} (letters : ∀ c ∈ text, isSpace c = false) :
    Bare isBlank text := by
  have notBlank : ∀ c ∈ text, isBlank c = false := by
    intro c member
    have letter := letters c member
    contrapose! letter
    exact Bool.ne_false_iff.mpr (isSpace_of_isBlank (Bool.ne_false_iff.mp letter))
  exact ⟨fun c first => notBlank c (List.mem_of_mem_head? first),
    fun c last => notBlank c (List.mem_of_mem_getLast? last)⟩

/-- A word of capital letters and underscores. -/
def isCapitals (text : List Char) : Bool :=
  text.head?.isSome && text.all fun c => c.isUpper || c = '_'

/-- A string of capitals. -/
theorem isCapitals_ofList {letters : List Char} (capitals : isCapitals letters = true) :
    isCapitals (String.ofList letters).toList = true := by
  rwa [String.toList_ofList]

/-- The name of an operation code is a word of capital letters and underscores. -/
theorem isCapitals_opCodeName (op : OpCode) : isCapitals (opCodeName op).toList = true := by
  -- The letters are taken from the literal, which is far faster than to decode it.
  cases op <;> exact isCapitals_ofList rfl

/-- Such a word is plain. -/
theorem plainText_opCodeName (op : OpCode) : PlainText (opCodeName op).toList := by
  obtain ⟨some, letters⟩ := (Bool.and_eq_true _ _).mp (isCapitals_opCodeName op)
  constructor
  · intro empty
    rw [empty] at some
    cases some
  · intro c member
    have letter := List.all_eq_true.mp letters c member
    rw [Bool.or_eq_true, decide_eq_true_iff] at letter
    rcases letter with upper | rfl
    · have alpha : c.isAlpha = true := isAlpha_iff_toNat.mpr (.inl (isUpper_iff_toNat.mp upper))
      refine ⟨isSpace_of_isAlphanum (by simp [Char.isAlphanum, alpha]), ?_, ?_, ?_⟩
      all_goals
        rintro rfl
        exact absurd upper (by decide)
    · exact ⟨rfl, by decide, by decide, by decide⟩

/-- A word and what follows it. -/
theorem parseInstructionText_append {word rest : List Char} (plain : PlainText word)
    (ends : ∀ c ∈ rest.head?, isSpace c = true) :
    parseInstructionText [] (word ++ rest) = { opcode := word, operand := trim rest } := by
  obtain ⟨first, others, rfl⟩ := List.exists_cons_of_ne_nil plain.1
  have firstLetter : isSpace first = false := (plain.2 first List.mem_cons_self).1
  have body : (first :: others ++ rest).dropWhile isSpace = first :: others ++ rest := by
    rw [List.cons_append, List.dropWhile_cons_of_neg (by simp [firstLetter])]
  have letters : ∀ c ∈ first :: others, (!isSpace c) = true := by
    intro c member
    rw [(plain.2 c member).1]
    rfl
  have stops : rest.takeWhile (! isSpace ·) = [] ∧ rest.dropWhile (! isSpace ·) = rest := by
    cases rest with
    | nil => exact ⟨rfl, rfl⟩
    | cons c more =>
        have blank : isSpace c = true := ends c rfl
        exact ⟨List.takeWhile_cons_of_neg (by simp [blank]),
          List.dropWhile_cons_of_neg (by simp [blank])⟩
  rw [parseInstructionText, body, List.takeWhile_append_of_pos letters,
    List.dropWhile_append_of_pos letters, stops.1, stops.2, List.append_nil]

/-- A line that is neither empty nor a comment and has no label. -/
theorem parseLine_of_trim {raw line : List Char} (trimmed : trim raw = line) (notEmpty : line ≠ [])
    (noComment : line.head? ≠ some '#') (noLabel : splitLabel false line = none) :
    parseLine raw = parseInstructionText [] line := by
  rw [parseLine, trimmed, if_neg (by simp [notEmpty, noComment]), noLabel]

/-- The name of an operation code starts a line that is no comment. -/
theorem head_opCodeName (op : OpCode) (rest : List Char) :
    ((opCodeName op).toList ++ rest).head? ≠ some '#' := by
  obtain ⟨some, letters⟩ := (Bool.and_eq_true _ _).mp (isCapitals_opCodeName op)
  cases name : (opCodeName op).toList with
  | nil =>
      rw [name] at some
      cases some
  | cons first others =>
      intro isHash
      obtain rfl := Option.some.inj isHash
      rw [name] at letters
      have letter := List.all_eq_true.mp letters '#' List.mem_cons_self
      exact absurd letter (by decide)

/-- Nor is it a line with the numbers of the source lines. -/
theorem not_metadata (op : OpCode) (rest : List Char) :
    basicLinesTag.isPrefixOf ((opCodeName op).toList ++ rest) = false := by
  rw [Bool.eq_false_iff, ne_eq, List.isPrefixOf_iff_prefix]
  rintro ⟨others, isLine⟩
  apply head_opCodeName op rest
  rw [← isLine]
  rfl

/-- A line that the first pass takes for an instruction. -/
structure ReadsAs (raw : List Char) (line : ParsedLine) : Prop where
  notMetadata : basicLinesTag.isPrefixOf (trim raw) = false
  parsed : parseLine raw = line

/-- A line of a stored program is the name of its operation code and an operand. -/
theorem readsAs_instruction (op : OpCode) {operand : List Char} (bare : Bare isBlank operand)
    (notEmpty : operand ≠ []) (noLabel : splitLabel false operand = none) :
    ReadsAs ((opCodeName op).toList ++ ' ' :: operand)
      { opcode := (opCodeName op).toList, operand } := by
  have plain := plainText_opCodeName op
  have bareName := bare_of_letters fun c member => (plain.2 c member).1
  have bareLine : Bare isBlank ((opCodeName op).toList ++ ' ' :: operand) := by
    constructor
    · intro c first
      rw [List.head?_append_of_ne_nil _ plain.1] at first
      exact bareName.starts c first
    · intro c last
      rw [List.getLast?_append_of_ne_nil _ (List.cons_ne_nil _ _),
        List.getLast?_cons_of_ne_nil notEmpty] at last
      exact bare.ends c last
  have trimmed := trim_of_bare bareLine
  have blankBefore : ∀ c ∈ (' ' :: operand).head?, isSpace c = true := by
    rintro c ⟨⟩
    rfl
  have noLabelBefore : splitLabel false (' ' :: operand) = none := by
    rw [splitLabel, if_neg (by decide), decide_eq_false (by decide), noLabel]
    rfl
  constructor
  · rw [trimmed]
    exact not_metadata op _
  · rw [parseLine_of_trim trimmed (by simp) (head_opCodeName op _),
      parseInstructionText_append plain blankBefore, trim_blank_left bare]
    exact splitLabel_append (fun c member => (plain.2 c member).2.imp_right And.left) noLabelBefore

/-- An instruction without an operand may have blanks after it. -/
theorem readsAs_bare (op : OpCode) {blanks : List Char}
    (areBlanks : ∀ c ∈ blanks, isBlank c = true) :
    ReadsAs ((opCodeName op).toList ++ blanks) { opcode := (opCodeName op).toList } := by
  have plain := plainText_opCodeName op
  have bareName := bare_of_letters fun c member => (plain.2 c member).1
  have trimmed : trim ((opCodeName op).toList ++ blanks) = (opCodeName op).toList :=
    @stripped_append _ _ _ bareName [] blanks (List.forall_mem_nil _) areBlanks
  have noLabel : splitLabel false ((opCodeName op).toList ++ []) = none :=
    splitLabel_append (fun c member => (plain.2 c member).2.imp_right And.left) rfl
  have metadata := not_metadata op []
  have head := head_opCodeName op []
  have read := @parseInstructionText_append _ [] plain (by rintro c ⟨⟩)
  rw [List.append_nil] at noLabel metadata head read
  constructor
  · rw [trimmed]
    exact metadata
  · rw [parseLine_of_trim trimmed plain.1 head noLabel, read]
    rfl

/-! ## Operands that are read back -/

/-- An operand that fits its operation code: a name has no blank, and the operand of a jump is an
index. A `NEXT` may have no name. -/
inductive Compiled : Instruction Double → Prop
  | bare {op : OpCode} (kind : operandKind op = .bare) : Compiled { op }
  | int {op : OpCode} {value : Int} (kind : operandKind op = .int) (isInt : IsInt value)
      (index : isJump op = true → 0 ≤ value) : Compiled { op, operand := .int value }
  | float (value : Double) : Compiled { op := .pushFlt, operand := .double value }
  | quoted {op : OpCode} (kind : operandKind op = .quoted) (text : String) :
      Compiled { op, operand := .string text }
  | name {op : OpCode} {name : String} (kind : operandKind op = .name)
      (plain : PlainText name.toList) : Compiled { op, operand := .string name }
  | unnamed : Compiled { op := .forNext, operand := .string "" }
  | callFunc {callFunc : CallFuncOperand} (namespaceId : callFunc.namespaceId < 2 ^ 32)
      (functionId : callFunc.functionId < 2 ^ 32)
      (argCount : 0 ≤ callFunc.argCount ∧ callFunc.argCount ≤ intMax) :
      Compiled { op := .callFunc, callFunc }

/-- A number that its six digits spell, and a name that is not empty. -/
def Legible [Doubles Double] (instr : Instruction Double) : Prop :=
  match instr.operand with
  | .int _ => True
  | .double value =>
      Doubles.strtod (Doubles.print defaultPrecision value) =
        some { number := value, rest := [], rangeError := false }
  | .string text => operandKind instr.op = .name → text ≠ ""

/-- A number is printed as a text without blanks. -/
def PrintsPlain (Double : Type) [Doubles Double] : Prop :=
  ∀ number : Double, PlainText (Doubles.print defaultPrecision number)

/-- A line of the parser with an operation code. -/
def lineOf (op : OpCode) (operand : List Char) (number : Nat) : ParsedLine :=
  { opcode := (opCodeName op).toList, operand, sourceLine := number }

/-- The name on the line of an instruction is that of its code. -/
theorem opCodeOfName_lineOf (op : OpCode) (operand : List Char) (number : Nat) :
    opCodeOfName (String.ofList (lineOf op operand number).opcode) = some op := by
  rw [lineOf, String.ofList_toList]
  cases op <;> decide +kernel

section Operands

variable [Doubles Double] (labels : LabelMap) (op : OpCode) (operand : List Char) (number : Nat)

/-- How an instruction without an operand is read. -/
theorem parseInstruction_bare (kind : operandKind op = .bare) :
    (parseInstruction labels (lineOf op operand number) : Except String (Instruction Double)) =
      requireNoOperand (lineOf op operand number) op := by
  rw [parseInstruction, opCodeOfName_lineOf]
  cases op <;> first | (cases kind; done) | rfl

/-- How an instruction with a name is read. -/
theorem parseInstruction_name (kind : operandKind op = .name) : ∃ required,
    (parseInstruction labels (lineOf op operand number) : Except String (Instruction Double)) =
      requireName (lineOf op operand number) op required := by
  rw [parseInstruction, opCodeOfName_lineOf]
  cases op <;> first | (cases kind; done) | exact ⟨_, rfl⟩

/-- `stoi` reads the digits of an `int` back. -/
theorem stoi_toString {value : Int} (isInt : IsInt value) :
    stoi (toString value).toList = some (value, []) := by
  have scanned := @scanInteger_toString value [] (by rintro letter ⟨⟩)
  rw [List.append_nil] at scanned
  have inRange : ¬ (value < intMin ∨ intMax < value) := by
    rintro (low | high)
    · exact absurd isInt.1 (Int.not_le.mpr low)
    · exact absurd isInt.2 (Int.not_le.mpr high)
  rw [stoi, scanned]
  simp only [Option.bind_eq_bind, Option.bind_some, signed_natAbs, Bool.or_eq_true,
    decide_eq_true_eq, if_neg inRange]

/-- So does `parseNonNegativeInt`, for one that is not negative. -/
theorem parseNonNegativeInt_toString {value : Int} (nonneg : 0 ≤ value) (small : value ≤ intMax) :
    parseNonNegativeInt (toString value).toList = some value := by
  have scanned := @scanInteger_toString value [] (by rintro letter ⟨⟩)
  rw [List.append_nil] at scanned
  rw [parseNonNegativeInt, scanned]
  simp only [signed_natAbs]
  rw [if_neg]
  simp only [Bool.or_eq_true, decide_eq_true_eq]
  omega

/-- A natural number is written the same as an integer. -/
theorem toString_natCast (value : Nat) : toString (value : Int) = toString value := by
  rw [← String.toList_inj, toList_toString_int, toList_toString_nat, if_neg (by omega)]
  rfl

/-- `parseUint32` reads the digits of a number of 32 bits back. -/
theorem parseUint32_toString {value : Nat} (small : value < 2 ^ 32) :
    parseUint32 (toString value).toList = some value := by
  have scanned := @scanInteger_toString value [] (by rintro letter ⟨⟩)
  rw [List.append_nil] at scanned
  have positive : decide ((value : Int) < 0) = false := by
    rw [decide_eq_false_iff_not]
    omega
  rw [← toString_natCast, parseUint32, scanned, positive]
  simp only [Int.natAbs_natCast, Bool.false_eq_true, if_false]
  rw [if_neg]
  simp only [Bool.or_eq_true, decide_eq_true_eq]
  omega

/-- The integer operands are read back: a number by `stoi`, and the target of a jump as an index. -/
theorem parseInstruction_int {value : Int} (kind : operandKind op = .int) (isInt : IsInt value)
    (index : isJump op = true → 0 ≤ value) :
    (parseInstruction labels (lineOf op (toString value).toList number) :
      Except String (Instruction Double)) = .ok { op, operand := .int value } := by
  have isOperand : (lineOf op (toString value).toList number).operand = (toString value).toList :=
    rfl
  have notEmpty : (toString value).toList ≠ [] := by
    rw [Ne, String.toList_eq_nil_iff]
    exact toString_int_ne_empty value
  have int : (requireInt (lineOf op (toString value).toList number) op :
      Except String (Instruction Double)) = .ok { op, operand := .int value } := by
    rw [requireInt, isOperand, stoi_toString isInt]
  have target : isJump op = true →
      (requireTarget labels (lineOf op (toString value).toList number) op :
        Except String (Instruction Double)) = .ok { op, operand := .int value } := by
    intro jumps
    rw [requireTarget, isOperand, parseNonNegativeInt_toString (index jumps) isInt.2]
  rw [parseInstruction, opCodeOfName_lineOf]
  cases op with
  | pushInt => exact int
  | jump => exact target rfl
  | jumpIfZero => exact target rfl
  | call => exact target rfl
  | setOnErrorHandler => exact (if_neg notEmpty).trans int
  | _ => cases kind

/-- An instruction with a text is read back. -/
theorem parseInstruction_quoted (kind : operandKind op = .quoted) (text : String) :
    (parseInstruction labels (lineOf op ('"' :: (escapeQuoted text.toList ++ ['"'])) number) :
      Except String (Instruction Double)) = .ok { op, operand := .string text } := by
  obtain ⟨line, isLine⟩ : ∃ line,
      line = lineOf op ('"' :: (escapeQuoted text.toList ++ ['"'])) number := ⟨_, rfl⟩
  have known : opCodeOfName (String.ofList line.opcode) = some op := by
    rw [isLine, opCodeOfName_lineOf]
  have read : parseQuotedString line.operand line.sourceLine = .ok text := by
    rw [isLine]
    exact parseQuotedString_escapeQuoted text number
  have notEmpty : line.operand ≠ [] := by
    rw [isLine]
    exact List.cons_ne_nil _ _
  rw [← isLine, parseInstruction, known]
  cases op with
  | pushStr =>
      dsimp only
      rw [read]
      rfl
  | invokeBuiltin =>
      dsimp only
      rw [requireName, if_neg notEmpty, read]
      rfl
  | _ => cases kind

/-- Items with delimiters between them are taken apart again. -/
theorem getItems_intercalate {delimiter : Char} {items : List (List Char)}
    (clean : ∀ item ∈ items, delimiter ∉ item ∧ item ≠ []) (notEmpty : items ≠ []) :
    getItems delimiter ([delimiter].intercalate items) = items := by
  have noEmptyItem : items.getLast? ≠ some [] := by
    intro last
    exact (clean [] (List.mem_of_getLast? last)).2 rfl
  rw [getItems, List.splitOn_intercalate delimiter (fun item member => (clean item member).1)
    notEmpty]
  exact if_neg noEmptyItem

/-- A numeral is one word: of digits, and of a minus sign. -/
theorem plainText_toString (value : Int) : PlainText (toString value).toList := by
  constructor
  · rw [Ne, String.toList_eq_nil_iff]
    exact toString_int_ne_empty value
  · intro c member
    rcases letter_of_toString member with digit | rfl
    · refine ⟨isSpace_of_isDigit digit, ?_, ?_, ?_⟩
      all_goals
        rintro rfl
        exact absurd digit (by decide)
    · exact ⟨rfl, by decide, by decide, by decide⟩

/-- The digits of a number have no spaces around them. -/
theorem trim_toString (value : Int) : trim (toString value).toList = (toString value).toList :=
  trim_of_bare (bare_of_letters fun c member => ((plainText_toString value).2 c member).1)

/-- A number has no comma. -/
theorem comma_not_mem_toString (value : Int) : ',' ∉ (toString value).toList :=
  not_mem_toString (by decide) (by decide)

/-- A `CALL_FUNC` is read back. -/
theorem parseInstruction_callFunc {callFunc : CallFuncOperand}
    (namespaceId : callFunc.namespaceId < 2 ^ 32) (functionId : callFunc.functionId < 2 ^ 32)
    (argCount : 0 ≤ callFunc.argCount ∧ callFunc.argCount ≤ intMax) :
    (parseInstruction labels (lineOf .callFunc (callFuncText callFunc) number) :
      Except String (Instruction Double)) = .ok { op := .callFunc, callFunc } := by
  obtain ⟨first, isFirst⟩ : ∃ first, first = (toString (callFunc.namespaceId : Int)).toList :=
    ⟨_, rfl⟩
  obtain ⟨second, isSecond⟩ : ∃ second, second = (toString (callFunc.functionId : Int)).toList :=
    ⟨_, rfl⟩
  obtain ⟨third, isThird⟩ : ∃ third, third = (toString callFunc.argCount).toList := ⟨_, rfl⟩
  have items : getItems ',' (callFuncText callFunc) = [first, ' ' :: second, ' ' :: third] := by
    have text : callFuncText callFunc = [','].intercalate [first, ' ' :: second, ' ' :: third] := by
      rw [callFuncText, isFirst, isSecond, isThird, toString_natCast, toString_natCast]
      simp [List.intercalate_cons_of_ne_nil]
    rw [text]
    apply getItems_intercalate _ (List.cons_ne_nil _ _)
    have noComma : ∀ value : Int, ',' ∉ ' ' :: (toString value).toList := by
      intro value member
      exact comma_not_mem_toString value (List.mem_of_ne_of_mem (by decide) member)
    rw [isFirst, isSecond, isThird, List.forall_mem_cons, List.forall_mem_cons,
      List.forall_mem_singleton]
    exact ⟨⟨comma_not_mem_toString _, (plainText_toString _).1⟩,
      ⟨noComma _, List.cons_ne_nil _ _⟩, ⟨noComma _, List.cons_ne_nil _ _⟩⟩
  have parts : ((getItems ',' (callFuncText callFunc)).map trim).filter (· ≠ []) =
      [first, second, third] := by
    have trimmed : ∀ value : Int, trim (' ' :: (toString value).toList) = (toString value).toList :=
      fun value => trim_blank_left
        (bare_of_letters fun c member => ((plainText_toString value).2 c member).1)
    rw [items, isFirst, isSecond, isThird]
    simp only [List.map_cons, List.map_nil, trimmed, trim_toString]
    apply List.filter_eq_self.mpr
    rw [List.forall_mem_cons, List.forall_mem_cons, List.forall_mem_singleton]
    have kept : ∀ value : Int, decide ((toString value).toList ≠ []) = true :=
      fun value => decide_eq_true (plainText_toString value).1
    exact ⟨kept _, kept _, kept _⟩
  have operands : parseCallFuncOperands (callFuncText callFunc) number = .ok callFunc := by
    rw [parseCallFuncOperands, parts, isFirst, isSecond, isThird, toString_natCast,
      toString_natCast]
    simp only [parseUint32_toString namespaceId, parseUint32_toString functionId,
      parseNonNegativeInt_toString argCount.1 argCount.2]
  rw [parseInstruction, opCodeOfName_lineOf]
  change (parseCallFuncOperands (callFuncText callFunc) number >>= _) = _
  rw [operands]
  rfl

end Operands

/-! ## Instructions that are read back -/

/-- An instruction is written on one line, and the parser takes the line for its operation code and
an operand that gives the instruction back when it is legible. -/
structure StoredAs [Doubles Double] (instr : Instruction Double) (text : List Char) : Prop where
  written : instructionText instr = some text
  oneLine : '\n' ∉ text
  read : ∃ operand, ReadsAs text { opcode := (opCodeName instr.op).toList, operand } ∧
    ∀ labels number,
      parseInstruction labels (lineOf instr.op operand number) = .ok instr ↔ Legible instr

section Stored

variable [Doubles Double]

/-- An instruction is on one line. -/
theorem newline_not_mem_line (op : OpCode) {rest : List Char} (oneLine : '\n' ∉ rest) :
    '\n' ∉ (opCodeName op).toList ++ rest := by
  rw [List.mem_append, not_or]
  refine ⟨fun member => ?_, oneLine⟩
  have letter := ((plainText_opCodeName op).2 _ member).1
  cases letter

/-- An instruction with an operand on its line. -/
theorem storedAs_of_operand {instr : Instruction Double} {operand : List Char}
    (written : operandText instr = some (' ' :: operand)) (oneLine : '\n' ∉ operand)
    (bare : Bare isBlank operand) (notEmpty : operand ≠ [])
    (noLabel : splitLabel false operand = none)
    (read : ∀ labels number,
      parseInstruction labels (lineOf instr.op operand number) = .ok instr ↔ Legible instr) :
    StoredAs instr ((opCodeName instr.op).toList ++ ' ' :: operand) where
  written := by rw [instructionText, written, Option.map_some]
  oneLine := newline_not_mem_line _ fun member =>
    oneLine (List.mem_of_ne_of_mem (by decide) member)
  read := ⟨operand, readsAs_instruction _ bare notEmpty noLabel, read⟩

/-- An instruction with blanks or nothing after its name. -/
theorem storedAs_of_blanks {instr : Instruction Double} {blanks : List Char}
    (written : operandText instr = some blanks) (areBlanks : ∀ c ∈ blanks, c = ' ')
    (read : ∀ labels number,
      parseInstruction labels (lineOf instr.op [] number) = .ok instr ↔ Legible instr) :
    StoredAs instr ((opCodeName instr.op).toList ++ blanks) where
  written := by rw [instructionText, written, Option.map_some]
  oneLine := newline_not_mem_line _ fun member => absurd (areBlanks _ member) (by decide)
  read := by
    refine ⟨[], readsAs_bare _ ?_, read⟩
    intro c member
    rw [areBlanks c member]
    rfl

/-- A word after the name of an operation code. -/
theorem PlainText.operand {text : List Char} (plain : PlainText text) :
    '\n' ∉ text ∧ Bare isBlank text ∧ splitLabel false text = none := by
  refine ⟨?_, bare_of_letters fun c member => (plain.2 c member).1, ?_⟩
  · intro member
    have letter := (plain.2 _ member).1
    cases letter
  · have noLabel := @splitLabel_append text
      (fun c member => (plain.2 c member).2.imp_right And.left) [] rfl
    rwa [List.append_nil] at noLabel

/-- A plain text has no zero in it. -/
theorem PlainText.cString_ofList {text : List Char} (plain : PlainText text) :
    cString (String.ofList text) = text := by
  rw [cString, String.toList_ofList, List.takeWhile_eq_self_iff]
  intro c member
  exact decide_eq_true (plain.2 c member).2.2.2

/-- A number is read back when `strtod` reads all of it as that number. -/
theorem requireFloat_iff {line : ParsedLine} (plain : PlainText line.operand) (value : Double) :
    requireFloat line = .ok ({ op := .pushFlt, operand := .double value } : Instruction Double) ↔
      Doubles.strtod line.operand = some { number := value, rest := [], rangeError := false } := by
  have noNul : line.operand.contains (Char.ofNat 0) = false := by
    rw [← Bool.not_eq_true, List.contains_iff_mem]
    exact fun member => (plain.2 _ member).2.2.2 rfl
  rw [requireFloat, plain.cString_ofList, noNul]
  generalize (Doubles.strtod line.operand : Option (Strtod Double)) = found
  rcases found with _ | ⟨number, rest, rangeError⟩
  · constructor <;> rintro ⟨⟩
  · cases rangeError <;> cases rest <;> simp

/-- The instruction of a number is stored when numbers are printed plainly. -/
theorem storedAs_float (plain : PrintsPlain Double) (value : Double) :
    ∃ text, StoredAs ({ op := .pushFlt, operand := .double value } : Instruction Double) text := by
  obtain ⟨oneLine, bare, noLabel⟩ := (plain value).operand
  refine ⟨_, storedAs_of_operand rfl oneLine bare (plain value).1 noLabel fun labels number => ?_⟩
  rw [parseInstruction, opCodeOfName_lineOf]
  exact @requireFloat_iff _ _ (lineOf .pushFlt (Doubles.print defaultPrecision value) number)
    (plain value) value

/-- The instructions with a name are stored. -/
theorem storedAs_name {op : OpCode} {name : String} (kind : operandKind op = .name)
    (plain : PlainText name.toList) :
    ∃ text, StoredAs ({ op, operand := .string name } : Instruction Double) text := by
  obtain ⟨oneLine, bare, noLabel⟩ := plain.operand
  refine ⟨_, storedAs_of_operand ?_ oneLine bare plain.1 noLabel fun labels number => ?_⟩
  · rw [operandText, kind]
  · have legible : Legible ({ op, operand := .string name } : Instruction Double) := by
      rintro - rfl
      exact plain.1 String.toList_empty
    have noQuote : name.toList.head? ≠ some '"' := by
      intro first
      exact (plain.2 _ (List.mem_of_head? first)).2.2.1 rfl
    have bareName : parseQuotedString name.toList number = .ok name := by
      rw [parseQuotedString, if_pos (.inr (.inl noQuote)), String.ofList_toList]
    obtain ⟨required, read⟩ := @parseInstruction_name Double _ labels op name.toList number kind
    refine iff_of_true ?_ legible
    rw [read, requireName, if_neg (show (lineOf op name.toList number).operand ≠ [] from plain.1)]
    change (parseQuotedString name.toList number >>= _) = _
    rw [bareName]
    rfl

/-- A `NEXT` without a variable cannot be read back. -/
theorem storedAs_unnamed :
    ∃ text, StoredAs ({ op := .forNext, operand := .string "" } : Instruction Double) text := by
  refine ⟨_, storedAs_of_blanks rfl (List.forall_mem_singleton.mpr rfl) fun labels number => ?_⟩
  have notLegible : ¬ Legible ({ op := .forNext, operand := .string "" } : Instruction Double) :=
    fun legible => legible rfl rfl
  obtain ⟨required, read⟩ := @parseInstruction_name Double _ labels .forNext [] number rfl
  refine iff_of_false ?_ notLegible
  have noOperand : (lineOf .forNext [] number).operand = [] := rfl
  rw [read, requireName, if_pos noOperand]
  rintro ⟨⟩

/-- The instructions with a text are stored. -/
theorem storedAs_quoted {op : OpCode} (kind : operandKind op = .quoted) (text : String) :
    ∃ line, StoredAs ({ op, operand := .string text } : Instruction Double) line := by
  have ends : ('"' :: (escapeQuoted text.toList ++ ['"'])).getLast? = some '"' := by
    rw [← List.cons_append, List.getLast?_concat]
  have written : operandText ({ op, operand := .string text } : Instruction Double) =
      some (' ' :: '"' :: (escapeQuoted text.toList ++ ['"'])) := by
    rw [operandText, kind]
  refine ⟨_, storedAs_of_operand written ?_ ⟨?_, ?_⟩ (List.cons_ne_nil _ _) ?_ ?_⟩
  · intro member
    rcases List.mem_cons.mp member with isQuote | inText
    · cases isQuote
    · rcases List.mem_append.mp inText with escaped | isQuote
      · exact newline_not_mem_escapeQuoted _ escaped
      · cases List.mem_singleton.mp isQuote
  · rintro c ⟨⟩
    rfl
  · intro c last
    rw [ends] at last
    cases last
    rfl
  · rw [splitLabel, if_neg (by decide), decide_eq_true rfl, splitLabel_escapeQuoted]
    rfl
  · intro labels number
    refine iff_of_true (parseInstruction_quoted labels op number kind text) ?_
    intro isName
    rw [kind] at isName
    cases isName

/-- The instructions that call a function are stored. -/
theorem storedAs_callFunc {callFunc : CallFuncOperand}
    (namespaceId : callFunc.namespaceId < 2 ^ 32) (functionId : callFunc.functionId < 2 ^ 32)
    (argCount : 0 ≤ callFunc.argCount ∧ callFunc.argCount ≤ intMax) :
    ∃ text, StoredAs ({ op := .callFunc, callFunc } : Instruction Double) text := by
  have first := plainText_toString callFunc.namespaceId
  have second := plainText_toString callFunc.functionId
  have third := plainText_toString callFunc.argCount
  rw [toString_natCast] at first second
  have notEmpty : callFuncText callFunc ≠ [] := by
    simp [callFuncText]
  have letters : ∀ c ∈ callFuncText callFunc,
      c ≠ '\n' ∧ c ≠ ':' ∧ c ≠ '"' := by
    have inNumeral : ∀ {text : List Char} {c}, PlainText text → c ∈ text →
        c ≠ '\n' ∧ c ≠ ':' ∧ c ≠ '"' := by
      rintro text c plain member
      refine ⟨?_, (plain.2 c member).2.imp_right And.left⟩
      rintro rfl
      exact plain.operand.1 member
    have separator : ∀ c ∈ ", ".toList, c ≠ '\n' ∧ c ≠ ':' ∧ c ≠ '"' :=
      List.forall_mem_cons.mpr ⟨by decide, List.forall_mem_singleton.mpr (by decide)⟩
    intro c member
    simp only [callFuncText, List.mem_append] at member
    rcases member with (((inFirst | comma) | inSecond) | comma) | inThird
    · exact inNumeral first inFirst
    · exact separator c comma
    · exact inNumeral second inSecond
    · exact separator c comma
    · exact inNumeral third inThird
  have bare : Bare isBlank (callFuncText callFunc) := by
    constructor
    · intro c isFirst
      simp only [callFuncText, List.append_assoc] at isFirst
      rw [List.head?_append_of_ne_nil _ first.1] at isFirst
      exact first.operand.2.1.starts c isFirst
    · intro c isLast
      rw [callFuncText, List.getLast?_append_of_ne_nil _ third.1] at isLast
      exact third.operand.2.1.ends c isLast
  refine ⟨_, storedAs_of_operand rfl ?_ bare notEmpty ?_ fun labels number =>
    iff_of_true (parseInstruction_callFunc labels number namespaceId functionId argCount) trivial⟩
  · exact fun member => (letters _ member).1 rfl
  · have noLabel := @splitLabel_append (callFuncText callFunc)
      (fun c member => (letters c member).2) [] rfl
    rwa [List.append_nil] at noLabel

/-- Every instruction of the compiler is stored. -/
theorem Compiled.stored (plain : PrintsPlain Double) {instr : Instruction Double}
    (compiled : Compiled instr) : ∃ text, StoredAs instr text := by
  cases compiled with
  | @bare op kind =>
      refine ⟨_, storedAs_of_blanks ?_ (List.forall_mem_nil _) fun labels number => ?_⟩
      · rw [operandText, kind]
      · refine iff_of_true ?_ trivial
        rw [parseInstruction_bare labels op [] number kind]
        rfl
  | @int op value kind isInt index =>
      obtain ⟨oneLine, bare, noLabel⟩ := (plainText_toString value).operand
      refine ⟨_, storedAs_of_operand ?_ oneLine bare (plainText_toString value).1 noLabel
        fun labels number => ?_⟩
      · rw [operandText, kind]
      · exact iff_of_true (parseInstruction_int labels op number kind isInt index) trivial
  | float value => exact storedAs_float plain value
  | quoted kind text => exact storedAs_quoted kind text
  | name kind plain => exact storedAs_name kind plain
  | unnamed => exact storedAs_unnamed
  | callFunc namespaceId functionId argCount =>
      exact storedAs_callFunc namespaceId functionId argCount

end Stored

/-! ## Whole programs -/

section Programs

variable [Doubles Double] {program : List (Instruction Double)} {texts : List (List Char)}

/-- The text of a program is read back as the program, with the source line of each instruction. -/
def ReadsBack (program : List (Instruction Double)) (sourceLinePerInstr : List Int) : Prop :=
  ∃ text loaded, serializeBytecodeText program sourceLinePerInstr = some text ∧
    parse text = .ok loaded ∧ loaded.program = program ∧
      loaded.sourceLinePerInstr = sourceLinePerInstr

/-- Every instruction of a compiled program has its line. -/
theorem stored_program (plain : PrintsPlain Double)
    (compiled : ∀ instr ∈ program, Compiled instr) : ∃ texts, List.Forall₂ StoredAs program texts := by
  induction program with
  | nil => exact ⟨[], .nil⟩
  | cons instr rest inductionHypothesis =>
      rw [List.forall_mem_cons] at compiled
      obtain ⟨text, stored⟩ := compiled.1.stored plain
      obtain ⟨texts, storedRest⟩ := inductionHypothesis compiled.2
      exact ⟨text :: texts, .cons stored storedRest⟩

/-- The instructions of a program are on a line each. -/
theorem oneLine_of_stored (stored : List.Forall₂ StoredAs program texts) :
    ∀ text ∈ texts, '\n' ∉ text := by
  induction stored with
  | nil => exact List.forall_mem_nil _
  | cons here _ inductionHypothesis =>
      exact List.forall_mem_cons.mpr ⟨here.oneLine, inductionHypothesis⟩

/-- The lines of a program. -/
theorem mapM_instructionText (stored : List.Forall₂ StoredAs program texts) :
    program.mapM instructionText = some texts := by
  induction stored with
  | nil => rfl
  | cons here _ inductionHypothesis =>
      rw [List.mapM_cons, here.written, inductionHypothesis]
      rfl

/-- A parsed line gives an instruction back exactly when it is legible. -/
def GivesBack (instr : Instruction Double) (line : ParsedLine) : Prop :=
  ∀ labels, parseInstruction labels line = .ok instr ↔ Legible instr

/-- A line without a label adds its instruction. -/
theorem readLine_instruction {raw : List Char} {line : ParsedLine} (reads : ReadsAs raw line)
    (noLabel : line.label = []) (notEmpty : line.opcode ≠ []) (pass : FirstPass) :
    pass.readLine raw = .ok { pass with
      lines := pass.lines ++ [{ line with sourceLine := pass.physLine + 1 }]
      physLine := pass.physLine + 1 } := by
  rw [FirstPass.readLine, reads.notMetadata, reads.parsed]
  simp only [Bool.false_eq_true, if_false, if_pos noLabel, if_neg notEmpty]

/-- The first pass over the lines of a program. -/
theorem foldlM_readLine (stored : List.Forall₂ StoredAs program texts) (pass : FirstPass) :
    ∃ final added, texts.foldlM FirstPass.readLine pass = .ok final ∧
      final.metadata = pass.metadata ∧ final.lines = pass.lines ++ added ∧
      List.Forall₂ GivesBack program added := by
  induction stored generalizing pass with
  | nil => exact ⟨pass, [], rfl, rfl, (List.append_nil _).symm, .nil⟩
  | @cons instr text rest texts here _ inductionHypothesis =>
      obtain ⟨operand, reads, gives⟩ := here.read
      have step := readLine_instruction reads rfl (plainText_opCodeName instr.op).1 pass
      obtain ⟨final, added, folded, isMetadata, isLines, givesRest⟩ := inductionHypothesis
        { pass with
          lines := pass.lines ++ [lineOf instr.op operand (pass.physLine + 1)]
          physLine := pass.physLine + 1 }
      refine ⟨final, lineOf instr.op operand (pass.physLine + 1) :: added, ?_, isMetadata, ?_,
        .cons (fun labels => gives labels _) givesRest⟩
      · rw [List.foldlM_cons, step]
        exact folded
      · rw [isLines, List.append_assoc]
        rfl

/-- The second pass gives the program back exactly when its instructions are legible. -/
theorem mapM_parseInstruction_iff {lines : List ParsedLine}
    (gives : List.Forall₂ GivesBack program lines) (labels : LabelMap) :
    lines.mapM (parseInstruction labels) = .ok program ↔ ∀ instr ∈ program, Legible instr := by
  induction gives with
  | nil => exact iff_of_true rfl (List.forall_mem_nil _)
  | @cons instr line rest lines here _ inductionHypothesis =>
      rw [List.mapM_cons, List.forall_mem_cons, ← here labels, ← inductionHypothesis]
      simp only [bind_eq_ok]
      constructor
      · rintro ⟨value, isValue, values, areValues, ⟨⟩⟩
        exact ⟨isValue, areValues⟩
      · rintro ⟨isValue, areValues⟩
        exact ⟨instr, isValue, rest, areValues, rfl⟩

/-- The BASIC lines are read back. -/
theorem mapM_parseBasicLinesItem {sourceLinePerInstr : List Int}
    (inRange : ∀ line ∈ sourceLinePerInstr, 0 ≤ line ∧ line ≤ intMax) :
    (sourceLinePerInstr.map fun line => (toString line).toList).mapM parseBasicLinesItem =
      .ok sourceLinePerInstr := by
  induction sourceLinePerInstr with
  | nil => rfl
  | cons line rest inductionHypothesis =>
      rw [List.forall_mem_cons] at inRange
      have item : parseBasicLinesItem (toString line).toList = .ok line := by
        rw [parseBasicLinesItem, trim_toString,
          parseNonNegativeInt_toString inRange.1.1 inRange.1.2]
      rw [List.map_cons, List.mapM_cons, item, inductionHypothesis inRange.2]
      rfl

/-- Their line has no spaces. -/
theorem letters_basicLinesText (sourceLinePerInstr : List Int) :
    ∀ c ∈ basicLinesText sourceLinePerInstr, isSpace c = false := by
  intro c member
  rcases List.mem_append.mp member with inTag | inBody
  · have tag : (basicLinesTag.all fun c => !isSpace c) = true := rfl
    simpa using List.all_eq_true.mp tag c inTag
  · rcases mem_intercalate inBody with rfl | ⟨item, inItems, inItem⟩
    · rfl
    · obtain ⟨line, -, rfl⟩ := List.mem_map.mp inItems
      exact ((plainText_toString line).2 c inItem).1

/-- The line with the source lines is read back. -/
theorem readLine_basicLinesText {sourceLinePerInstr : List Int} (notEmpty : sourceLinePerInstr ≠ [])
    (inRange : ∀ line ∈ sourceLinePerInstr, 0 ≤ line ∧ line ≤ intMax) (pass : FirstPass) :
    pass.readLine (basicLinesText sourceLinePerInstr) =
      .ok { pass with metadata := sourceLinePerInstr, physLine := pass.physLine + 1 } := by
  have clean : ∀ item ∈ sourceLinePerInstr.map fun line => (toString line).toList,
      ',' ∉ item ∧ item ≠ [] := by
    intro item member
    obtain ⟨line, -, rfl⟩ := List.mem_map.mp member
    exact ⟨comma_not_mem_toString line, (plainText_toString line).1⟩
  have trimmed := trim_of_bare (bare_of_letters (letters_basicLinesText sourceLinePerInstr))
  have tagged : basicLinesTag.isPrefixOf (basicLinesText sourceLinePerInstr) = true :=
    List.isPrefixOf_iff_prefix.mpr (List.prefix_append _ _)
  have items := getItems_intercalate clean (by simpa using notEmpty)
  have parsed : parseBasicLinesMetadata (basicLinesText sourceLinePerInstr) =
      .ok sourceLinePerInstr := by
    rw [parseBasicLinesMetadata, basicLinesText, List.drop_left, items]
    exact mapM_parseBasicLinesItem inRange
  rw [FirstPass.readLine, trimmed, if_pos tagged, parsed]
  rfl

/-- A stored program is read back exactly when its jumps are in range and its operands are legible. -/
theorem readsBack_iff (plain : PrintsPlain Double) {sourceLinePerInstr : List Int}
    (compiled : ∀ instr ∈ program, Compiled instr) (notEmpty : program ≠ [])
    (sameLength : sourceLinePerInstr.length = program.length)
    (inRange : ∀ line ∈ sourceLinePerInstr, 0 ≤ line ∧ line ≤ intMax) :
    ReadsBack program sourceLinePerInstr ↔
      validateJumpTargets program = .ok () ∧ ∀ instr ∈ program, Legible instr := by
  obtain ⟨texts, stored⟩ := stored_program plain compiled
  have someLines : sourceLinePerInstr ≠ [] := by
    rw [← List.length_pos_iff, sameLength, List.length_pos_iff]
    exact notEmpty
  have written : serializeBytecodeText program sourceLinePerInstr =
      some (String.ofList ((basicLinesText sourceLinePerInstr :: texts).flatMap
        fun line => line ++ ['\n'])) := by
    rw [serializeBytecodeText, mapM_instructionText stored, if_neg someLines,
      List.take_of_length_le sameLength.le]
    rfl
  have oneLine : ∀ line ∈ basicLinesText sourceLinePerInstr :: texts, '\n' ∉ id line := by
    refine List.forall_mem_cons.mpr ⟨fun member => ?_, oneLine_of_stored stored⟩
    have letter := letters_basicLinesText sourceLinePerInstr '\n' member
    cases letter
  obtain ⟨final, lines, folded, isMetadata, isLines, gives⟩ := foldlM_readLine stored
    { metadata := sourceLinePerInstr, physLine := 1 }
  have split : getlines ((basicLinesText sourceLinePerInstr :: texts).flatMap
      fun line => line ++ ['\n']) = basicLinesText sourceLinePerInstr :: texts :=
    (getlines_flatMap id _ oneLine).trans (List.map_id _)
  have read : (getlines ((basicLinesText sourceLinePerInstr :: texts).flatMap
      fun line => line ++ ['\n'])).foldlM FirstPass.readLine {} = .ok final := by
    rw [split, List.foldlM_cons, readLine_basicLinesText someLines inRange]
    exact folded
  rw [List.nil_append] at isLines
  rw [← mapM_parseInstruction_iff gives final.labels]
  constructor
  · rintro ⟨text, loaded, isText, parsed, isProgram, -⟩
    rw [written, Option.some.injEq] at isText
    subst isText
    rw [parse, String.toList_ofList, read] at parsed
    change (final.lines.mapM (parseInstruction final.labels) >>= _) = _ at parsed
    obtain ⟨program', mapped, parsed⟩ := bind_eq_ok.mp parsed
    dsimp only at parsed
    split at parsed
    · cases parsed
    · obtain ⟨_, validated, loads⟩ := bind_eq_ok.mp parsed
      cases loads
      rw [isLines] at mapped
      obtain rfl : program' = program := isProgram
      exact ⟨validated, mapped⟩
  · rintro ⟨validated, mapped⟩
    refine ⟨_, ⟨program, final.labels, sourceLinePerInstr⟩, written, ?_, rfl, rfl⟩
    have fits : ¬ (final.metadata ≠ [] ∧ final.metadata.length ≠ program.length) := by
      rw [isMetadata]
      exact fun misfit => misfit.2 sameLength
    have someMetadata : final.metadata ≠ [] := by
      rw [isMetadata]
      exact someLines
    rw [← isLines] at mapped
    rw [parse, String.toList_ofList, read]
    change (final.lines.mapM (parseInstruction final.labels) >>= _) = _
    rw [mapped]
    change (if final.metadata ≠ [] ∧ final.metadata.length ≠ program.length then _ else _) = _
    rw [if_neg fits, if_neg someMetadata, isMetadata]
    rw [validated]
    rfl

end Programs

end Gemini.VM
