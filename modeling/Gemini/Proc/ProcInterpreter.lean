import Mathlib.Data.List.AList
import Gemini.Data.Words
import Gemini.PickVoc.VocResolver

/-!
# PROC scripts

`ProcInterpreter::runScript`. A script is a list of lines: labels, and statements of words. Its
labels and its loops are paired before it runs. What a statement asks of the shell (a line of
input, a TCL command, the active list, a record) is an action that the shell carries out, and
the state after the statement is given with it.
-/

namespace Gemini.Proc

open Gemini.Data (words joined)
open Gemini.VM (isSpace)
open Gemini.PickVoc (upperAscii)

/-! ## Words -/

/-- `trim`. -/
def trim (text : List Char) : List Char :=
  ((text.dropWhile isSpace).reverse.dropWhile isSpace).reverse

/-- `tokenize`: the words between blanks. -/
def tokenize (line : List Char) : List String := (words isSpace line).map String.ofList

/-- `joinTokens`. -/
def joinTokens (tokens : List String) : String := " ".intercalate tokens

/-- `tokenEq`: words are compared without case. -/
def tokenEq (token target : String) : Bool := upperAscii token = upperAscii target

/-- The variables of a script. -/
abbrev Variables := AList fun _ : String => String

/-- What a name that is no variable stands for: a system variable of the session. -/
abbrev SessionAt := String → Option String

/-- `substituteToken`: a variable comes before a system variable of the session. -/
def substituteToken (variableMap : Variables) (sessionAt : SessionAt) (token : String) : String :=
  ((variableMap.lookup token).or (sessionAt token)).getD token

/-- `substituteTokens`. -/
def substituteTokens (variableMap : Variables) (sessionAt : SessionAt) (tokens : List String) :
    List String :=
  tokens.map (substituteToken variableMap sessionAt)

/-- `evalValue`: the words with their values, joined by blanks. -/
def evalValue (variableMap : Variables) (sessionAt : SessionAt) (tokens : List String) : String :=
  joinTokens (substituteTokens variableMap sessionAt tokens)

/-- `isReadonlySessionAtTarget`: the names that a script cannot store under. -/
def isReadonlySessionAtTarget (token : String) : Bool :=
  upperAscii token ∈ ["@USERNO", "@ACCOUNT", "@LOGNAME", "@DEFDATA"]

/-- `defaultDataFile`: an empty `@DEFDATA` is none. -/
def defaultDataFile (sessionAt : SessionAt) : Option String :=
  (sessionAt "@DEFDATA").filter fun fileName => fileName ≠ ""

/-! ## Statements -/

/-- The statements, by their first word. -/
inductive Command where
  | display
  | input
  | if_
  | go
  | tcl
  | end_
  | return_
  | loop
  | repeat_
  | exit
  | exitIf
  | select
  | readNext
  | readU
  | writeU
  | release
  | assignment
  | unknown
deriving DecidableEq

/-- `canonicalKeyword` and `commandFromCanonical`. -/
def commandOf (token : String) : Command :=
  match upperAscii token with
  | "DISPLAY" | "D" => .display
  | "INPUT" | "I" => .input
  | "IF" => .if_
  | "GO" | "G" => .go
  | "TCL" | "T" => .tcl
  | "END" | "E" => .end_
  | "RETURN" => .return_
  | "LOOP" => .loop
  | "REPEAT" => .repeat_
  | "EXIT" => .exit
  | "EXITIF" => .exitIf
  | "SELECT" | "S" => .select
  | "READNEXT" | "RN" => .readNext
  | "READU" => .readU
  | "WRITEU" => .writeU
  | "RELEASE" => .release
  | _ => .unknown

/-- `parseStatement`: a word before an equals sign is never a keyword. -/
def parseStatement (tokens : List String) : Command :=
  match tokens with
  | _ :: "=" :: _ :: _ => .assignment
  | token :: _ => commandOf token
  | [] => .unknown

/-- The parts of an `IF`: the sides of its equals sign and its arms. -/
structure IfParts where
  lhsTokens : List String
  rhsTokens : List String
  thenTokens : List String
  elseTokens : List String

/-- The place of the first word after the keyword that a test finds. -/
def placeOf (test : String → Bool) (tokens : List String) : Option Nat :=
  (tokens.tail.findIdx? test).map (· + 1)

/-- The words from one place up to another. -/
def slice (tokens : List String) (start stop : Nat) : List String :=
  (tokens.take stop).drop start

/-- `parseIfParts`. -/
def parseIfParts (tokens : List String) : Option IfParts := do
  guard (6 ≤ tokens.length)
  let eqPos ← placeOf (· == "=") tokens
  let thenPos ← placeOf (tokenEq · "THEN") tokens
  guard (1 < eqPos ∧ eqPos + 1 < thenPos ∧ thenPos + 1 < tokens.length)
  match placeOf (tokenEq · "ELSE") tokens with
  | none =>
      return {
        lhsTokens := slice tokens 1 eqPos
        rhsTokens := slice tokens (eqPos + 1) thenPos
        thenTokens := tokens.drop (thenPos + 1)
        elseTokens := [] }
  | some elsePos =>
      guard (thenPos + 1 < elsePos)
      return {
        lhsTokens := slice tokens 1 eqPos
        rhsTokens := slice tokens (eqPos + 1) thenPos
        thenTokens := slice tokens (thenPos + 1) elsePos
        elseTokens := tokens.drop (elsePos + 1) }

/-- `parseExitIfCondition`: the two sides of the equals sign. -/
def parseExitIfCondition (tokens : List String) : Option (List String × List String) := do
  guard (3 ≤ tokens.length)
  let eqPos ← placeOf (· == "=") tokens
  guard (1 < eqPos)
  return (slice tokens 1 eqPos, tokens.drop (eqPos + 1))

/-! ## Scripts -/

/-- A script with its labels and the pairs of its loops, by line number. -/
structure Script where
  lines : List (List Char)
  labels : AList fun _ : String => Nat := ∅
  loopToRepeat : AList fun _ : Nat => Nat := ∅
  repeatToLoop : AList fun _ : Nat => Nat := ∅

/-- `isLabelLine`: a line that ends with a colon. -/
def isLabelLine (line : List Char) : Bool := line.getLast? = some ':'

/-- The labels of the lines from a number on. -/
def labelsFrom : Nat → List (List Char) → (AList fun _ : String => Nat) →
    Except String (AList fun _ : String => Nat)
  | _, [], labels => .ok labels
  | number, line :: rest, labels =>
      if isLabelLine line then
        let label := trim line.dropLast
        if label = [] then .error "Error: Invalid label line\n"
        else
          let canon := upperAscii (String.ofList label)
          if canon ∈ labels then .error ("Error: Duplicate label: " ++ canon ++ "\n")
          else labelsFrom (number + 1) rest (labels.insert canon number)
      else labelsFrom (number + 1) rest labels

/-- `buildLoopPairs` from a line on; the loops that are open stand innermost first. -/
def loopPairsFrom : Nat → List (List Char) → List Nat → Script → Except String Script
  | _, [], [], script => .ok script
  | _, [], _ :: _, _ => .error "Error: LOOP without REPEAT\n"
  | number, line :: rest, loopStack, script =>
      if line = [] ∨ isLabelLine line then loopPairsFrom (number + 1) rest loopStack script
      else
        match parseStatement (tokenize line), loopStack with
        | .loop, loopStack => loopPairsFrom (number + 1) rest (number :: loopStack) script
        | .repeat_, [] => .error "Error: REPEAT without LOOP\n"
        | .repeat_, loopPc :: outer =>
            loopPairsFrom (number + 1) rest outer { script with
              loopToRepeat := script.loopToRepeat.insert loopPc number
              repeatToLoop := script.repeatToLoop.insert number loopPc }
        | _, loopStack => loopPairsFrom (number + 1) rest loopStack script

/-- What `runScript` does before the first line, or the error it prints. -/
def prepare (lines : List (List Char)) : Except String Script := do
  let lines := lines.map trim
  let labels ← labelsFrom 0 lines ∅
  loopPairsFrom 0 lines [] { lines, labels }

/-! ## Running a script -/

/-- `LoopFrame`: the lines of a `LOOP` and its `REPEAT`. -/
structure LoopFrame where
  loopPc : Nat
  repeatPc : Nat
deriving DecidableEq

/-- The innermost loop stands first in `loopFrames`. -/
structure ProcState where
  variableMap : Variables := ∅
  pc : Nat := 0
  loopFrames : List LoopFrame := []

namespace ProcState

/-- `syncLoopFramesForPc`: the frames of loops that have been left are dropped. -/
def syncLoopFramesForPc (state : ProcState) : ProcState :=
  { state with loopFrames :=
      state.loopFrames.filter fun frame => frame.loopPc < state.pc && state.pc ≤ frame.repeatPc }

/-- Store a value under a name. -/
def assign (state : ProcState) (name value : String) : ProcState :=
  { state with variableMap := state.variableMap.insert name value }

/-- `clearProcErr`. -/
def clearProcErr (state : ProcState) : ProcState := state.assign "PROCERR" ""

/-- `setProcLocked`. -/
def setProcLocked (state : ProcState) : ProcState := state.assign "PROCERR" "?LOCKED?"

/-- Go on at the next line. -/
def nextLine (state : ProcState) : ProcState := { state with pc := state.pc + 1 }

/-- Go on at a line. An `IF` takes an arm that stays where it is for one that falls through. -/
def jump (state : ProcState) (inlineStmt : Bool) (target : Nat) : ProcState :=
  if inlineStmt && target = state.pc then state.nextLine else { state with pc := target }

end ProcState

/-- What a turn of the interpreter does. The state that goes with it is the one after the
statement; a request that fails ends the script with the error it printed. -/
inductive ProcAction where
  | ended (printed : String)
  | goesOn (printed : String) (state : ProcState)
  | input (resume : String → ProcState)
  | tcl (line : String) (state : ProcState)
  | select (fileName : String) (state : ProcState)
  | readNext (resume : Option String → ProcState)
  | readU (fileName id : String) (success : String → ProcState) (locked : ProcState)
  | writeU (fileName id value : String) (success locked : ProcState)
  | release (fileName id : String) (state : ProcState)

/-- `exitLoop`: go on behind the innermost loop. -/
def exitLoop (state : ProcState) (inlineStmt : Bool) : ProcAction :=
  match state.syncLoopFramesForPc.loopFrames with
  | [] => .ended "Error: EXIT outside LOOP\n"
  | frame :: outer =>
      .goesOn "" ({ state with loopFrames := outer }.jump inlineStmt (frame.repeatPc + 1))

section Statements

variable (script : Script) (sessionAt : SessionAt)

/-- `parseReadUOperands` and `parseFileRecordPair`. -/
def parseFileRecordPair (operands : List String) : Option (String × String) :=
  match operands with
  | [file, id] => some (file, id)
  | [id] => (defaultDataFile sessionAt).map fun file => (file, id)
  | _ => none

/-- The operands of `WRITEU`: a file, a record and a value. -/
def parseWriteUOperands (operands : List String) : Option (String × String × String) :=
  (match operands with
    | file :: id :: value :: rest => some (file, id, joinTokens (value :: rest))
    | [id, value] => (defaultDataFile sessionAt).map fun file => (file, id, value)
    | _ => none).filter fun target => target.2.2 ≠ ""

/-- `execStatement` but for `IF`, whose arms are statements themselves. -/
def execSimple (state : ProcState) (inlineStmt : Bool) (tokens : List String) : ProcAction :=
  let substituted (start : Nat) :=
    substituteTokens state.variableMap sessionAt (tokens.drop start)
  match parseStatement tokens with
  | .display => .goesOn (joinTokens (substituted 1) ++ "\n") state.nextLine
  | .input =>
      match tokens with
      | [_, name] =>
          if isReadonlySessionAtTarget name then .ended "Error: Read-only system variable\n"
          else .input fun value => (state.assign name value).nextLine
      | _ => .ended "Error: INPUT requires a variable name\n"
  | .go =>
      match tokens with
      | [_, label] =>
          match script.labels.lookup (upperAscii label) with
          | none => .ended ("Error: Unknown label: " ++ label ++ "\n")
          | some target => .goesOn "" (state.jump inlineStmt target)
      | _ => .ended "Error: GO requires a label\n"
  | .tcl => .tcl (joinTokens (substituted 1)) state.nextLine
  | .end_ | .return_ => .goesOn "" (state.jump inlineStmt script.lines.length)
  | .loop =>
      match script.loopToRepeat.lookup state.pc with
      | none => .ended "Error: LOOP without REPEAT\n"
      | some repeatPc =>
          let open_ := (state.loopFrames.head?.map LoopFrame.loopPc) = some state.pc
          let loopFrames :=
            if open_ then state.loopFrames
            else { loopPc := state.pc, repeatPc } :: state.loopFrames
          .goesOn "" { state with loopFrames }.nextLine
  | .repeat_ =>
      match script.repeatToLoop.lookup state.pc with
      | none => .ended "Error: REPEAT without LOOP\n"
      | some loopPc => .goesOn "" (state.jump inlineStmt (loopPc + 1))
  | .exit => exitLoop state inlineStmt
  | .exitIf =>
      match parseExitIfCondition tokens with
      | none => .ended "Error: EXITIF requires EXITIF <lhs> = <rhs>\n"
      | some (lhs, rhs) =>
          if evalValue state.variableMap sessionAt lhs = evalValue state.variableMap sessionAt rhs
          then exitLoop state inlineStmt
          else .goesOn "" state.nextLine
  | .select =>
      match tokens with
      | [_, fileName] =>
          .select (substituteToken state.variableMap sessionAt fileName) state.nextLine
      | _ => .ended "Error: SELECT requires a filename\n"
  | .readNext =>
      match tokens with
      | [_, name] =>
          if isReadonlySessionAtTarget name then .ended "Error: Read-only system variable\n"
          else .readNext fun nextId => (state.assign name (nextId.getD "")).nextLine
      | _ => .ended "Error: READNEXT requires a variable name\n"
  | .readU =>
      match tokens with
      | _ :: name :: _ :: _ =>
          if isReadonlySessionAtTarget name then .ended "Error: Read-only system variable\n"
          else
            match parseFileRecordPair sessionAt (substituted 2) with
            | none =>
                .ended
                  "Error: READU requires <var> <file> <id> or <var> <id> when MD DEFDATA is set\n"
            | some (file, id) =>
                .readU file id (fun body => (state.assign name body).clearProcErr.nextLine)
                  state.setProcLocked.nextLine
      | _ => .ended "Error: READU requires a variable and file/record operands\n"
  | .writeU =>
      if tokens.length < 3 then .ended "Error: WRITEU requires file/record/value operands\n"
      else
        match parseWriteUOperands sessionAt (substituted 1) with
        | none =>
            .ended
              "Error: WRITEU requires <file> <id> <value> or <id> <value> when MD DEFDATA is set\n"
        | some (file, id, value) =>
            .writeU file id value state.clearProcErr.nextLine state.setProcLocked.nextLine
  | .release =>
      if tokens.length < 2 then .ended "Error: RELEASE requires file/record operands\n"
      else
        match parseFileRecordPair sessionAt (substituted 1) with
        | none => .ended "Error: RELEASE requires <file> <id> or <id> when MD DEFDATA is set\n"
        | some (file, id) => .release file id state.clearProcErr.nextLine
  | .assignment =>
      match tokens with
      | name :: _ =>
          if isReadonlySessionAtTarget name then .ended "Error: Read-only system variable\n"
          else .goesOn "" (state.assign name (joinTokens (substituted 2))).nextLine
      | [] => .ended "Error: Unknown PROC statement\n"
  | .if_ | .unknown => .ended "Error: Unknown PROC statement\n"

/-- The arm of an `IF` that is taken. -/
def IfParts.branch (parts : IfParts) (variableMap : Variables) (sessionAt : SessionAt) :
    List String :=
  if evalValue variableMap sessionAt parts.lhsTokens =
      evalValue variableMap sessionAt parts.rhsTokens
  then parts.thenTokens
  else parts.elseTokens

/-- `execStatement`. The words of an arm are fewer than those of its `IF`, so that as many
turns as there are words are enough. -/
def execStatement (state : ProcState) : Nat → Bool → List String → ProcAction
  | 0, inlineStmt, tokens => execSimple script sessionAt state inlineStmt tokens
  | depth + 1, inlineStmt, tokens =>
      match parseStatement tokens with
      | .if_ =>
          match parseIfParts tokens with
          | none => .ended "Error: IF requires IF <lhs> = <rhs> THEN GO <label>\n"
          | some parts =>
              let branchTokens := parts.branch state.variableMap sessionAt
              if branchTokens = [] then .goesOn "" state.nextLine
              else execStatement state depth true branchTokens
      | _ => execSimple script sessionAt state inlineStmt tokens

/-- One turn of the loop of `runScript`. -/
def turn (state : ProcState) : ProcAction :=
  match script.lines[state.pc]? with
  | none => .ended ""
  | some line =>
      if line = [] ∨ isLabelLine line then .goesOn "" state.nextLine
      else
        let tokens := tokenize line
        execStatement script sessionAt state.syncLoopFramesForPc tokens.length false tokens

end Statements

/-- The variables that the parameters of a script are. -/
def parameters (params : List String) : Variables :=
  (params.zipIdx 1).foldl
    (fun variableMap param => variableMap.insert ("P" ++ toString param.2) param.1) ∅

/-! ## Nested statements -/

/-- A slice that leaves the first word out is shorter. -/
theorem length_slice_lt {tokens : List String} {start stop : Nat} (later : 0 < start)
    (some : tokens ≠ []) : (slice tokens start stop).length < tokens.length := by
  have positive := List.length_pos_iff.mpr some
  rw [slice, List.length_drop, List.length_take]
  omega

/-- The arms of an `IF` have fewer words than the `IF`. -/
theorem length_arms_lt {tokens : List String} {parts : IfParts}
    (parsed : parseIfParts tokens = some parts) :
    parts.thenTokens.length < tokens.length ∧ parts.elseTokens.length < tokens.length := by
  simp only [parseIfParts, Option.bind_eq_bind, Option.bind_eq_some_iff, Option.guard_eq_some',
    exists_const] at parsed
  obtain ⟨long, eqPos, -, thenPos, -, places, arms⟩ := parsed
  have some : tokens ≠ [] := by
    rintro rfl
    simp at long
  split at arms
  · cases arms
    simp only [List.length_drop, List.length_nil]
    omega
  · rename_i elsePos _
    simp only [Option.bind_eq_some_iff, Option.guard_eq_some', exists_const] at arms
    obtain ⟨after, built⟩ := arms
    cases built
    refine ⟨length_slice_lt (Nat.succ_pos _) some, ?_⟩
    simp only [List.length_drop]
    omega

/-- An arm is shorter than its `IF`. -/
theorem length_branch_lt {tokens : List String} {parts : IfParts}
    (parsed : parseIfParts tokens = some parts) (variableMap : Variables)
    (sessionAt : SessionAt) : (parts.branch variableMap sessionAt).length < tokens.length := by
  unfold IfParts.branch
  split
  · exact (length_arms_lt parsed).1
  · exact (length_arms_lt parsed).2

/-- More turns than a statement has words change nothing. -/
theorem execStatement_of_length_le (script : Script) (sessionAt : SessionAt) (state : ProcState)
    {depth : Nat} {tokens : List String} (enough : tokens.length ≤ depth) (inlineStmt : Bool) :
    execStatement script sessionAt state depth inlineStmt tokens =
      execStatement script sessionAt state tokens.length inlineStmt tokens := by
  induction depth using Nat.strongRecOn generalizing tokens inlineStmt with
  | ind depth inductionHypothesis =>
      cases depth with
      | zero => rw [Nat.le_zero.mp enough]
      | succ depth =>
          cases length : tokens.length with
          | zero =>
              rw [List.length_eq_zero_iff.mp length]
              rfl
          | succ count =>
              rw [execStatement, execStatement]
              split
              · split
                · rfl
                · rename_i parts parsed
                  have shorter := length_branch_lt parsed state.variableMap sessionAt
                  dsimp only
                  rw [inductionHypothesis depth (by omega) (by omega),
                    inductionHypothesis count (by omega) (by omega)]
              · rfl

end Gemini.Proc
