import Gemini.Data.Nesting
import Gemini.Proc.SessionNames

/-!
# Loops of a script

`buildLoopPairs` pairs every `LOOP` with its `REPEAT`, and the blocks between them are nested. A run
keeps a frame for every block that it has entered and drops the frames of the blocks that it has
left only when the next statement is executed. In a script whose `GO`s do not jump into a block from
outside, the frames that are left then are those of the blocks around the statement.
-/

namespace Gemini.Proc

open Gemini.Data (Block Nesting Fits enclosing)
open Gemini.PickVoc (upperAscii)
open Gemini.Semantics (Always EachStep always_of_invariant eachStep_of_forall run)

/-! ## Pairs of loops -/

/-- The statement of a line that is no label. -/
def IsStatement (line : List Char) (command : Command) : Prop :=
  line ≠ [] ∧ ¬ isLabelLine line = true ∧ parseStatement (tokenize line) = command

/-- The statement of a line by its number. -/
def StatementAt (lines : List (List Char)) (number : ℕ) (command : Command) : Prop :=
  ∃ line, lines[number]? = some line ∧ IsStatement line command

/-- What `buildLoopPairs` keeps: the loops before a line are open or paired. -/
structure Matching (lines : List (List Char)) (number : ℕ) (loopStack : List ℕ) (script : Script) :
    Prop where
  stackDescending : loopStack.Pairwise fun inner outer => outer < inner
  stackBefore : ∀ loopPc ∈ loopStack, loopPc < number
  stackLoops : ∀ loopPc ∈ loopStack, StatementAt lines loopPc .loop
  stackOpen : ∀ loopPc ∈ loopStack, ∀ first last, script.loopToRepeat.lookup first = some last →
    last < loopPc ∨ loopPc < first
  pairs : ∀ {first last}, script.loopToRepeat.lookup first = some last →
    first < last ∧ last < number ∧ StatementAt lines first .loop ∧ StatementAt lines last .repeat_
  nested : ∀ {first last first' last'}, script.loopToRepeat.lookup first = some last →
    script.loopToRepeat.lookup first' = some last' → first < first' → first' < last → last' < last
  back : ∀ {first last}, script.repeatToLoop.lookup last = some first ↔
    script.loopToRepeat.lookup first = some last
  loops : ∀ {first}, first < number → StatementAt lines first .loop →
    first ∈ loopStack ∨ (script.loopToRepeat.lookup first).isSome
  repeats : ∀ {last}, last < number → StatementAt lines last .repeat_ →
    (script.repeatToLoop.lookup last).isSome

section Pairs

variable {lines : List (List Char)} {number loopPc : ℕ} {loopStack : List ℕ} {script : Script}
  {line : List Char} {command command' : Command}

/-- A line has one statement. -/
theorem StatementAt.unique (here : StatementAt lines number command)
    (there : StatementAt lines number command') : command = command' := by
  obtain ⟨line, isLine, -, -, statement⟩ := here
  obtain ⟨line', isLine', -, -, statement'⟩ := there
  rw [isLine] at isLine'
  cases isLine'
  rw [← statement, statement']

/-- Before the first line no loop is open or paired. -/
theorem matching_nil (script : Script) (noLoops : script.loopToRepeat = ∅)
    (noRepeats : script.repeatToLoop = ∅) : Matching lines 0 [] script := by
  have noPair : ∀ first last, script.loopToRepeat.lookup first ≠ some last := by
    intro first last pair
    rw [noLoops, AList.lookup_empty] at pair
    cases pair
  constructor
  · exact .nil
  · exact List.forall_mem_nil _
  · exact List.forall_mem_nil _
  · exact List.forall_mem_nil _
  · exact fun pair => absurd pair (noPair _ _)
  · exact fun pair => absurd pair (noPair _ _)
  · intro first last
    rw [noLoops, noRepeats, AList.lookup_empty, AList.lookup_empty]
    constructor <;> intro pair <;> cases pair
  · exact fun before => absurd before (Nat.not_lt_zero _)
  · exact fun before => absurd before (Nat.not_lt_zero _)

/-- A line that is neither a `LOOP` nor a `REPEAT`. -/
theorem Matching.skip (matched : Matching lines number loopStack script)
    (noLoop : ¬ StatementAt lines number .loop) (noRepeat : ¬ StatementAt lines number .repeat_) :
    Matching lines (number + 1) loopStack script where
  stackDescending := matched.stackDescending
  stackBefore := fun loopPc member => Nat.lt_succ_of_lt (matched.stackBefore loopPc member)
  stackLoops := matched.stackLoops
  stackOpen := matched.stackOpen
  pairs := by
    intro first last pair
    obtain ⟨order, before, loop, close⟩ := matched.pairs pair
    exact ⟨order, Nat.lt_succ_of_lt before, loop, close⟩
  nested := matched.nested
  back := matched.back
  loops := by
    intro first before isLoop
    rcases Nat.lt_succ_iff_lt_or_eq.mp before with before | rfl
    · exact matched.loops before isLoop
    · exact absurd isLoop noLoop
  repeats := by
    intro last before isRepeat
    rcases Nat.lt_succ_iff_lt_or_eq.mp before with before | rfl
    · exact matched.repeats before isRepeat
    · exact absurd isRepeat noRepeat

/-- A `LOOP` is open until its `REPEAT`. -/
theorem Matching.opens (matched : Matching lines number loopStack script)
    (isLoop : StatementAt lines number .loop) :
    Matching lines (number + 1) (number :: loopStack) script where
  stackDescending := List.pairwise_cons.mpr ⟨matched.stackBefore, matched.stackDescending⟩
  stackBefore := List.forall_mem_cons.mpr
    ⟨Nat.lt_succ_self _, fun loopPc member => Nat.lt_succ_of_lt (matched.stackBefore loopPc member)⟩
  stackLoops := List.forall_mem_cons.mpr ⟨isLoop, matched.stackLoops⟩
  stackOpen := List.forall_mem_cons.mpr
    ⟨fun _ _ pair => .inl (matched.pairs pair).2.1, matched.stackOpen⟩
  pairs := by
    intro first last pair
    obtain ⟨order, before, loop, close⟩ := matched.pairs pair
    exact ⟨order, Nat.lt_succ_of_lt before, loop, close⟩
  nested := matched.nested
  back := matched.back
  loops := by
    intro first before isLoop'
    rcases Nat.lt_succ_iff_lt_or_eq.mp before with before | rfl
    · exact (matched.loops before isLoop').imp_left (List.mem_cons_of_mem _)
    · exact .inl List.mem_cons_self
  repeats := by
    intro last before isRepeat
    rcases Nat.lt_succ_iff_lt_or_eq.mp before with before | rfl
    · exact matched.repeats before isRepeat
    · cases isLoop.unique isRepeat

/-- A `REPEAT` is paired with the innermost open `LOOP`. -/
theorem Matching.closes {outer : List ℕ} (matched : Matching lines number (loopPc :: outer) script)
    (isRepeat : StatementAt lines number .repeat_) :
    Matching lines (number + 1) outer { script with
      loopToRepeat := script.loopToRepeat.insert loopPc number
      repeatToLoop := script.repeatToLoop.insert number loopPc } := by
  obtain ⟨inside, descending⟩ := List.pairwise_cons.mp matched.stackDescending
  obtain ⟨before, stackBefore⟩ := List.forall_mem_cons.mp matched.stackBefore
  obtain ⟨isLoop, stackLoops⟩ := List.forall_mem_cons.mp matched.stackLoops
  obtain ⟨isOpen, stackOpen⟩ := List.forall_mem_cons.mp matched.stackOpen
  -- The new pair, or one of those before.
  have pairOf : ∀ {first last}, (script.loopToRepeat.insert loopPc number).lookup first = some last →
      first = loopPc ∧ last = number ∨ script.loopToRepeat.lookup first = some last := by
    intro first last pair
    by_cases same : first = loopPc
    · subst same
      rw [AList.lookup_insert] at pair
      exact .inl ⟨rfl, (Option.some.inj pair).symm⟩
    · rw [AList.lookup_insert_ne same] at pair
      exact .inr pair
  have oldDiffers : ∀ {last}, script.loopToRepeat.lookup loopPc ≠ some last := by
    intro last pair
    have order := (matched.pairs pair).1
    rcases isOpen loopPc last pair with ends | starts <;> omega
  constructor
  · exact descending
  · exact fun other member => Nat.lt_succ_of_lt (stackBefore other member)
  · exact stackLoops
  · intro other member first last pair
    rcases pairOf pair with ⟨rfl, rfl⟩ | old
    · exact .inr (inside other member)
    · exact stackOpen other member first last old
  · intro first last pair
    rcases pairOf pair with ⟨rfl, rfl⟩ | old
    · exact ⟨before, Nat.lt_succ_self _, isLoop, isRepeat⟩
    · obtain ⟨order, ends, loop, close⟩ := matched.pairs old
      exact ⟨order, Nat.lt_succ_of_lt ends, loop, close⟩
  · intro first last first' last' pair pair' starts goesOn
    rcases pairOf pair with ⟨rfl, rfl⟩ | old <;> rcases pairOf pair' with ⟨rfl, rfl⟩ | old'
    · exact absurd starts (Nat.lt_irrefl _)
    · exact (matched.pairs old').2.1
    · rcases isOpen first last old with ends | opens <;> omega
    · exact matched.nested old old' starts goesOn
  · intro first last
    by_cases here : last = number
    · subst here
      rw [AList.lookup_insert, Option.some.injEq]
      constructor
      · rintro rfl
        exact AList.lookup_insert _
      · intro pair
        rcases pairOf pair with ⟨rfl, -⟩ | old
        · rfl
        · exact absurd (matched.pairs old).2.1 (Nat.lt_irrefl _)
    · rw [AList.lookup_insert_ne here, matched.back]
      constructor
      · intro old
        rw [AList.lookup_insert_ne]
        · exact old
        · rintro rfl
          exact oldDiffers old
      · intro pair
        rcases pairOf pair with ⟨-, same⟩ | old
        · exact absurd same here
        · exact old
  · intro first starts isLoop'
    by_cases same : first = loopPc
    · subst same
      rw [AList.lookup_insert]
      exact .inr rfl
    · rw [AList.lookup_insert_ne same]
      rcases Nat.lt_succ_iff_lt_or_eq.mp starts with starts | rfl
      · refine (matched.loops starts isLoop').imp_left fun member => ?_
        exact (List.mem_cons.mp member).resolve_left same
      · cases isLoop'.unique isRepeat
  · intro last ends isRepeat'
    by_cases same : last = number
    · subst same
      rw [AList.lookup_insert]
      rfl
    · rw [AList.lookup_insert_ne same]
      exact matched.repeats (lt_of_le_of_ne (Nat.le_of_lt_succ ends) same) isRepeat'

/-- What `buildLoopPairs` returns has paired every loop. -/
theorem matching_of_loopPairsFrom {done rest : List (List Char)} {script result : Script}
    (isLines : lines = done ++ rest) (matched : Matching lines done.length loopStack script)
    (paired : loopPairsFrom done.length rest loopStack script = .ok result) :
    Matching lines lines.length [] result ∧ result.lines = script.lines ∧
      result.labels = script.labels := by
  induction rest generalizing done loopStack script with
  | nil =>
      cases loopStack with
      | cons => cases paired
      | nil =>
          cases paired
          rw [isLines, List.append_nil]
          exact ⟨by rwa [isLines, List.append_nil] at matched, rfl, rfl⟩
  | cons line rest inductionHypothesis =>
      have isLine : lines[done.length]? = some line := by
        rw [isLines]
        simp
      have onward : lines = (done ++ [line]) ++ rest := by simp [isLines]
      have length : (done ++ [line]).length = done.length + 1 := by simp
      have onLine : ∀ {command}, StatementAt lines done.length command ↔ IsStatement line command := by
        intro command
        constructor
        · rintro ⟨line', isLine', statement⟩
          rw [isLine] at isLine'
          cases isLine'
          exact statement
        · exact fun statement => ⟨line, isLine, statement⟩
      have hypothesis : ∀ {loopStack script},
          Matching lines (done.length + 1) loopStack script →
          loopPairsFrom (done.length + 1) rest loopStack script = .ok result →
          Matching lines lines.length [] result ∧ result.lines = script.lines ∧
            result.labels = script.labels :=
        fun matched paired => inductionHypothesis onward (by rwa [length]) (by rwa [length])
      unfold loopPairsFrom at paired
      split at paired
      · next skipped =>
          refine hypothesis (matched.skip ?_ ?_) paired <;> rw [onLine] <;>
            exact fun statement => skipped.elim statement.1 statement.2.1
      · next notSkipped =>
          obtain ⟨some, noLabel⟩ := not_or.mp notSkipped
          split at paired
          · next isLoop => exact hypothesis (matched.opens (onLine.mpr ⟨some, noLabel, isLoop⟩)) paired
          · cases paired
          · next isRepeat =>
              have closed := matched.closes (onLine.mpr ⟨some, noLabel, isRepeat⟩)
              obtain ⟨allMatched, sameLines, sameLabels⟩ := hypothesis closed paired
              exact ⟨allMatched, sameLines, sameLabels⟩
          · next openLoops _ _ noLoop alone paired' =>
              refine hypothesis (matched.skip ?_ ?_) paired <;> rw [onLine]
              · exact fun statement => noLoop statement.2.2
              · intro statement
                cases openLoops with
                | nil => exact alone statement.2.2 rfl
                | cons loopPc outer => exact paired' loopPc outer statement.2.2 rfl

/-- The labels are all that a script has before its loops are paired. -/
theorem matching_of_prepare {lines : List (List Char)} (prepared : prepare lines = .ok script) :
    script.lines = lines.map trim ∧ Matching script.lines script.lines.length [] script := by
  unfold prepare at prepared
  cases labelled : labelsFrom 0 (lines.map trim) ∅ with
  | error error =>
      simp only [labelled] at prepared
      cases prepared
  | ok labels =>
      simp only [labelled] at prepared
      have empty := @matching_nil (lines.map trim) { lines := lines.map trim, labels } rfl rfl
      obtain ⟨matched, sameLines, -⟩ :=
        @matching_of_loopPairsFrom (lines.map trim) _ [] _ _ _ (List.nil_append _).symm empty prepared
      rw [sameLines]
      exact ⟨rfl, matched⟩

end Pairs

/-! ## Blocks -/

/-- The line of the `REPEAT` of the loop that a line opens. -/
def Script.close (script : Script) (loopPc : ℕ) : Option ℕ := script.loopToRepeat.lookup loopPc

/-- A frame as the lines of its block. -/
def LoopFrame.block (frame : LoopFrame) : Block := (frame.loopPc, frame.repeatPc)

/-- The label of a `GO`. -/
def goTarget (tokens : List String) : Option String :=
  match parseStatement tokens, tokens with
  | .go, [_, label] => some label
  | _, _ => none

/-- The labels of the `GO`s of a statement; an `IF` has those of its arms. -/
def goTargets : ℕ → List String → List String
  | 0, tokens => (goTarget tokens).toList
  | depth + 1, tokens =>
      match parseStatement tokens, parseIfParts tokens with
      | .if_, some parts => goTargets depth parts.thenTokens ++ goTargets depth parts.elseTokens
      | _, _ => (goTarget tokens).toList

/-- A label is reached from within the blocks around its line. -/
def Script.Reaches (script : Script) (pc : ℕ) (label : String) : Prop :=
  ∀ target, script.labels.lookup (upperAscii label) = some target →
    ∀ block : Block, script.close block.1 = some block.2 → block.Holds target → block.Holds pc

/-- Every block that contains the label of a `GO` contains the `GO`. -/
def Script.Lexical (script : Script) : Prop :=
  ∀ {pc line}, script.lines[pc]? = some line → line ≠ [] → ¬ isLabelLine line = true →
    ∀ label ∈ goTargets (tokenize line).length (tokenize line), script.Reaches pc label

/-- The frames have the blocks around the line; others have been left. -/
def InBlocks (script : Script) (state : ProcState) : Prop :=
  Fits script.close state.pc (state.loopFrames.map LoopFrame.block)

/-- The blocks of a script do not cross. -/
theorem Matching.nesting {lines : List (List Char)} {number : ℕ} {script : Script}
    (matched : Matching lines number [] script) : Nesting script.close where
  later := fun pair => (matched.pairs pair).1
  nested := matched.nested
  apart := by
    intro first last pair
    cases again : script.close last with
    | none => rfl
    | some => cases (matched.pairs again).2.2.1.unique (matched.pairs pair).2.2.2

/-- The frames that are kept at a line are those whose block holds it. -/
theorem map_syncLoopFramesForPc (state : ProcState) :
    state.syncLoopFramesForPc.loopFrames.map LoopFrame.block =
      (state.loopFrames.map LoopFrame.block).filter fun block => block.Holds state.pc := by
  rw [List.filter_map, ProcState.syncLoopFramesForPc]
  congr 1
  refine List.filter_congr fun frame _ => ?_
  exact (Bool.decide_and _ _).symm

namespace InBlocks

variable {script : Script} {state : ProcState}

/-- Dropping the frames that have been left keeps the blocks. -/
theorem sync (fits : InBlocks script state) : InBlocks script state.syncLoopFramesForPc := by
  unfold InBlocks
  rw [map_syncLoopFramesForPc]
  exact Fits.sync fits

/-- The frames that are left are those of the blocks around the line, the outermost last. -/
theorem sync_eq (fits : InBlocks script state) :
    (state.syncLoopFramesForPc.loopFrames.map LoopFrame.block).reverse =
      enclosing script.close state.pc := by
  rw [map_syncLoopFramesForPc]
  exact Fits.sync_eq fits

/-- The next line is in the blocks of this one, unless this one opens another. -/
theorem nextLine (fits : InBlocks script state) (closed : script.close state.pc = none) :
    InBlocks script state.nextLine := Fits.next fits closed

/-- A jump fits when its target does. -/
theorem jump {inlineStmt : Bool} {target : ℕ} (fits : InBlocks script state)
    (closed : script.close state.pc = none)
    (there : InBlocks script { state with pc := target }) :
    InBlocks script (state.jump inlineStmt target) := by
  unfold ProcState.jump
  split
  · exact fits.nextLine closed
  · exact there

/-- Past the last line there is no block. -/
theorem toEnd (matched : Matching script.lines script.lines.length [] script)
    (fits : InBlocks script state) :
    InBlocks script { state with pc := script.lines.length } := by
  refine Fits.moves fits fun block closes holds => ?_
  have before := (matched.pairs closes).2.1
  exact absurd holds.2 (Nat.not_le.mpr before)

/-- The innermost of the frames that are left holds the line. -/
theorem innermost {frame : LoopFrame} {outer : List LoopFrame} (fits : InBlocks script state)
    (frames : state.syncLoopFramesForPc.loopFrames = frame :: outer) :
    Fits script.close state.pc (frame.block :: outer.map LoopFrame.block) ∧
      frame.block.Holds state.pc := by
  have synced := fits.sync
  unfold InBlocks at synced
  rw [frames, List.map_cons] at synced
  have member : frame ∈ state.syncLoopFramesForPc.loopFrames := by
    rw [frames]
    exact List.mem_cons_self
  have holds := (List.mem_filter.mp member).2
  rw [Bool.and_eq_true, decide_eq_true_iff, decide_eq_true_iff] at holds
  exact ⟨synced, holds⟩

end InBlocks

/-- A jump forward is the same in the arm of an `IF`. -/
theorem jump_of_lt {state : ProcState} {target : ℕ} (inlineStmt : Bool) (forward : state.pc < target) :
    state.jump inlineStmt target = { state with pc := target } := by
  rw [ProcState.jump, decide_eq_false (Nat.ne_of_gt forward), Bool.and_false, if_neg nofun]

/-- Whatever the shell answers, the script goes on with the frames of the blocks around the line. -/
def KeepsFrames (script : Script) (action : ProcAction) : Prop :=
  ∀ reply state, action.after reply = some state → InBlocks script state

namespace KeepsFrames

variable {script : Script} {state : ProcState} {sessionAt : SessionAt} {tokens : List String}

/-- A script that has ended has no frames. -/
theorem ended (printed : String) : KeepsFrames script (.ended printed) := by
  rintro _ _ ⟨⟩

/-- A script that goes on with fitting frames. -/
theorem goesOn (printed : String) (fits : InBlocks script state) :
    KeepsFrames script (.goesOn printed state) := by
  rintro _ _ ⟨⟩
  exact fits

/-- `EXIT` leaves the innermost block. -/
theorem exitLoop (matched : Matching script.lines script.lines.length [] script)
    (fits : InBlocks script state) (inlineStmt : Bool) :
    KeepsFrames script (exitLoop state inlineStmt) := by
  unfold Proc.exitLoop
  split
  · exact ended _
  · next frame outer frames =>
      obtain ⟨synced, holds⟩ := fits.innermost frames
      have forward : state.pc < frame.repeatPc + 1 := Nat.lt_succ_of_le holds.2
      rw [@jump_of_lt { state with loopFrames := outer } _ inlineStmt forward]
      exact goesOn _ (Fits.pop matched.nesting synced holds)

variable (script sessionAt)

/-- A statement that is no `LOOP` stays in its blocks, and a `LOOP` enters one. -/
theorem execSimple (matched : Matching script.lines script.lines.length [] script)
    (fits : InBlocks script state)
    (synced : ∀ block ∈ state.loopFrames.map LoopFrame.block, block.1 < state.pc)
    (opens : ∀ last, script.close state.pc = some last → parseStatement tokens = .loop)
    (confined : ∀ label ∈ goTarget tokens, script.Reaches state.pc label) (inlineStmt : Bool) :
    KeepsFrames script (execSimple script sessionAt state inlineStmt tokens) := by
  have closedUnless : parseStatement tokens ≠ .loop → script.close state.pc = none := by
    intro noLoop
    rw [Option.eq_none_iff_forall_ne_some]
    exact fun last closes => noLoop (opens last closes)
  have onward : parseStatement tokens ≠ .loop → InBlocks script state.nextLine :=
    fun noLoop => fits.nextLine (closedUnless noLoop)
  unfold Proc.execSimple
  dsimp only
  unfold goTarget at confined
  cases statement : parseStatement tokens with
  | loop =>
      dsimp only
      split
      · exact ended _
      · next repeatPc closes =>
          have notOpen : (state.loopFrames.head?.map LoopFrame.loopPc) ≠ some state.pc := by
            intro open_
            obtain ⟨frame, first, same⟩ := Option.map_eq_some_iff.mp open_
            have member := List.mem_map_of_mem (f := LoopFrame.block) (List.mem_of_mem_head? first)
            exact absurd same (Nat.ne_of_lt (synced _ member))
          rw [if_neg notOpen]
          exact goesOn _ (Fits.push fits closes synced)
  | repeat_ =>
      have closed := closedUnless (by rw [statement]; rintro ⟨⟩)
      dsimp only
      split
      · exact ended _
      · next loopPc pair =>
          refine goesOn _ (fits.jump closed ?_)
          exact Fits.goesBack matched.nesting fits (matched.back.mp pair)
  | go =>
      have closed := closedUnless (by rw [statement]; rintro ⟨⟩)
      dsimp only
      split
      · next label =>
          split
          · exact ended _
          · next target isTarget =>
              rw [statement] at confined
              refine goesOn _ (fits.jump closed (Fits.moves fits ?_))
              exact confined label rfl target isTarget
      · exact ended _
  | end_ | return_ =>
      have closed := closedUnless (by rw [statement]; rintro ⟨⟩)
      exact goesOn _ (fits.jump closed (fits.toEnd matched))
  | exit => exact exitLoop matched fits inlineStmt
  | exitIf =>
      have next := onward (by rw [statement]; rintro ⟨⟩)
      dsimp only
      split
      · exact ended _
      · split
        · exact exitLoop matched fits inlineStmt
        · exact goesOn _ next
  | if_ | unknown => exact ended _
  | display =>
      have next := onward (by rw [statement]; rintro ⟨⟩)
      exact goesOn _ next
  | tcl =>
      have next := onward (by rw [statement]; rintro ⟨⟩)
      rintro _ _ ⟨⟩
      exact next
  | input =>
      have next := onward (by rw [statement]; rintro ⟨⟩)
      dsimp only
      split
      · split
        · exact ended _
        · rintro (_ | _ | _) _ ⟨⟩
          exact next
      · exact ended _
  | select =>
      have next := onward (by rw [statement]; rintro ⟨⟩)
      dsimp only
      split
      · rintro (_ | _ | _) _ ⟨⟩
        exact next
      · exact ended _
  | readNext =>
      have next := onward (by rw [statement]; rintro ⟨⟩)
      dsimp only
      split
      · split
        · exact ended _
        · rintro (_ | _ | _) _ ⟨⟩
          exact next
      · exact ended _
  | readU =>
      have next := onward (by rw [statement]; rintro ⟨⟩)
      dsimp only
      split
      · split
        · exact ended _
        · split
          · exact ended _
          · rintro ((_ | _) | _ | _) _ ⟨⟩ <;> exact next
      · exact ended _
  | writeU =>
      have next := onward (by rw [statement]; rintro ⟨⟩)
      dsimp only
      split
      · exact ended _
      · split
        · exact ended _
        · rintro (_ | _ | _) _ ⟨⟩ <;> exact next
  | release =>
      have next := onward (by rw [statement]; rintro ⟨⟩)
      dsimp only
      split
      · exact ended _
      · split
        · exact ended _
        · rintro (_ | _ | _) _ ⟨⟩
          exact next
  | assignment =>
      have next := onward (by rw [statement]; rintro ⟨⟩)
      dsimp only
      split
      · split
        · exact ended _
        · exact goesOn _ next
      · exact ended _

/-- A statement keeps the frames. The induction is on the depth of nested `IF`s. -/
theorem execStatement (matched : Matching script.lines script.lines.length [] script)
    (fits : InBlocks script state)
    (synced : ∀ block ∈ state.loopFrames.map LoopFrame.block, block.1 < state.pc)
    (opens : ∀ last, script.close state.pc = some last → parseStatement tokens = .loop)
    (depth : ℕ) (confined : ∀ label ∈ goTargets depth tokens, script.Reaches state.pc label)
    (inlineStmt : Bool) :
    KeepsFrames script (execStatement script sessionAt state depth inlineStmt tokens) := by
  induction depth generalizing inlineStmt tokens with
  | zero =>
      refine execSimple script sessionAt matched fits synced opens ?_ inlineStmt
      exact fun label member => confined label (Option.mem_toList.mpr member)
  | succ depth inductionHypothesis =>
      unfold goTargets at confined
      rw [Proc.execStatement]
      split
      · next isIf =>
          have closed : script.close state.pc = none := by
            rw [Option.eq_none_iff_forall_ne_some]
            intro last closes
            have isLoop := opens last closes
            rw [isIf] at isLoop
            cases isLoop
          split
          · exact ended _
          · next parts parsed =>
              rw [isIf, parsed] at confined
              dsimp only
              split
              · exact goesOn _ (fits.nextLine closed)
              · refine inductionHypothesis ?_ ?_ true
                · intro last closes
                  rw [closed] at closes
                  cases closes
                · intro label member
                  refine confined label (List.mem_append.mpr ?_)
                  unfold IfParts.branch at member
                  split at member
                  · exact .inl member
                  · exact .inr member
      · next notIf =>
          refine execSimple script sessionAt matched fits synced opens ?_ inlineStmt
          intro label member
          refine confined label ?_
          split
          · next isIf _ => exact absurd isIf notIf
          · exact Option.mem_toList.mpr member

/-- One turn; a line that is no statement opens no block. -/
theorem turn (matched : Matching script.lines script.lines.length [] script)
    (lexical : script.Lexical) (fits : InBlocks script state) :
    KeepsFrames script (turn script sessionAt state) := by
  have opens : ∀ last line, script.close state.pc = some last → script.lines[state.pc]? = some line →
      IsStatement line .loop := by
    intro last line closes isLine
    obtain ⟨line', isLine', statement⟩ := (matched.pairs closes).2.2.1
    rw [isLine] at isLine'
    cases isLine'
    exact statement
  unfold Proc.turn
  split
  · exact ended _
  · next line isLine =>
      split
      · next skipped =>
          refine goesOn _ (fits.nextLine ?_)
          rw [Option.eq_none_iff_forall_ne_some]
          intro last closes
          obtain ⟨isSome, noLabel, -⟩ := opens last line closes isLine
          exact skipped.elim isSome noLabel
      · next notSkipped =>
          obtain ⟨isSome, noLabel⟩ := not_or.mp notSkipped
          refine execStatement script sessionAt matched fits.sync ?_ ?_ _ ?_ false
          · intro block member
            rw [map_syncLoopFramesForPc] at member
            exact (of_decide_eq_true (List.mem_filter.mp member).2).1
          · exact fun last closes => (opens last line closes isLine).2.2
          · exact lexical isLine isSome noLabel

end KeepsFrames

/-! ## Leaving a loop -/

/-- The statement that a statement comes to: an `IF` comes to the arm that is taken. -/
def statementTaken (variableMap : Variables) (sessionAt : SessionAt) :
    ℕ → List String → List String
  | 0, tokens => tokens
  | depth + 1, tokens =>
      match parseStatement tokens, parseIfParts tokens with
      | .if_, some parts =>
          statementTaken variableMap sessionAt depth (parts.branch variableMap sessionAt)
      | _, _ => tokens

/-- An `EXIT`, or an `EXITIF` whose sides are equal. -/
def LeavesLoop (variableMap : Variables) (sessionAt : SessionAt) (tokens : List String) : Prop :=
  parseStatement tokens = .exit ∨ parseStatement tokens = .exitIf ∧
    ∃ lhs rhs, parseExitIfCondition tokens = some (lhs, rhs) ∧
      evalValue variableMap sessionAt lhs = evalValue variableMap sessionAt rhs

/-- The script goes on behind the innermost block, and ends only outside of every block. -/
def ExitsAt (blocks : List Block) (state : ProcState) (action : ProcAction) : Prop :=
  match blocks.getLast? with
  | none => action = .ended "Error: EXIT outside LOOP\n"
  | some innermost => ∃ after, action = .goesOn "" after ∧ after.pc = innermost.2 + 1 ∧
      after.variableMap = state.variableMap

section Exits

variable {script : Script} {state : ProcState} {sessionAt : SessionAt} {tokens : List String}

/-- Without words there is no statement. -/
theorem statementTaken_nil (variableMap : Variables) (sessionAt : SessionAt) (depth : ℕ) :
    statementTaken variableMap sessionAt depth [] = [] := by
  cases depth <;> rfl

/-- An empty statement leaves no loop. -/
theorem not_leavesLoop_nil {variableMap : Variables} : ¬ LeavesLoop variableMap sessionAt [] := by
  rintro (⟨⟨⟩⟩ | ⟨⟨⟩, -⟩)

/-- An `IF` leaves a loop only by its arm. -/
theorem not_leavesLoop_of_if {variableMap : Variables} (isIf : parseStatement tokens = .if_) :
    ¬ LeavesLoop variableMap sessionAt tokens := by
  unfold LeavesLoop
  rw [isIf]
  rintro (⟨⟨⟩⟩ | ⟨⟨⟩, -⟩)

/-- A statement that leaves a loop does what `EXIT` does. -/
theorem execSimple_of_leavesLoop (leaves : LeavesLoop state.variableMap sessionAt tokens)
    (inlineStmt : Bool) :
    execSimple script sessionAt state inlineStmt tokens = exitLoop state inlineStmt := by
  unfold execSimple
  rcases leaves with isExit | ⟨isExitIf, lhs, rhs, parsed, equal⟩
  · rw [isExit]
  · rw [isExitIf]
    dsimp only
    rw [parsed]
    exact if_pos equal

/-- So does an `IF` whose arm leaves a loop. -/
theorem execStatement_of_leavesLoop {depth : ℕ} {inlineStmt : Bool}
    (leaves : LeavesLoop state.variableMap sessionAt
      (statementTaken state.variableMap sessionAt depth tokens)) :
    ∃ inlineArm, execStatement script sessionAt state depth inlineStmt tokens =
      exitLoop state inlineArm := by
  induction depth generalizing inlineStmt tokens with
  | zero => exact ⟨inlineStmt, execSimple_of_leavesLoop leaves inlineStmt⟩
  | succ depth inductionHypothesis =>
      unfold statementTaken at leaves
      rw [execStatement]
      split
      · next isIf =>
          split
          · next unparsed =>
              rw [isIf, unparsed] at leaves
              exact absurd leaves (not_leavesLoop_of_if isIf)
          · next parts parsed =>
              rw [isIf, parsed] at leaves
              dsimp only at leaves ⊢
              split
              · next noArm =>
                  rw [noArm, statementTaken_nil] at leaves
                  exact absurd leaves not_leavesLoop_nil
              · exact inductionHypothesis leaves
      · next notIf =>
          split at leaves
          · next isIf _ => exact absurd isIf notIf
          · exact ⟨inlineStmt, execSimple_of_leavesLoop leaves inlineStmt⟩

/-- `EXIT` goes on behind the innermost block around its line. -/
theorem exitLoop_exitsAt (fits : InBlocks script state) (inlineStmt : Bool) :
    ExitsAt (enclosing script.close state.pc) state (exitLoop state inlineStmt) := by
  have blocks := fits.sync_eq
  unfold exitLoop ExitsAt
  cases frames : state.syncLoopFramesForPc.loopFrames with
  | nil =>
      rw [frames] at blocks
      rw [← blocks]
      rfl
  | cons frame outer =>
      have forward : state.pc < frame.repeatPc + 1 :=
        Nat.lt_succ_of_le (fits.innermost frames).2.2
      rw [frames, List.map_cons, List.reverse_cons] at blocks
      rw [← blocks, List.getLast?_concat]
      refine ⟨_, rfl, ?_⟩
      rw [@jump_of_lt { state with loopFrames := outer } _ inlineStmt forward]
      exact ⟨rfl, rfl⟩

end Exits

/-! ## Runs -/

/-- The frames that are left are those of the blocks around the line, each once, and a statement
that leaves a loop leaves the innermost of these blocks. -/
structure InLoops (script : Script) (state : ProcState) : Prop where
  frames : (state.syncLoopFramesForPc.loopFrames.map LoopFrame.block).reverse =
    enclosing script.close state.pc
  exits : ∀ {sessionAt line}, script.lines[state.pc]? = some line → line ≠ [] →
    ¬ isLabelLine line = true →
    LeavesLoop state.variableMap sessionAt
      (statementTaken state.variableMap sessionAt (tokenize line).length (tokenize line)) →
    ExitsAt (enclosing script.close state.pc) state (turn script sessionAt state)

/-- A script whose frames fit its blocks is in its loops. -/
theorem InBlocks.inLoops {script : Script} {state : ProcState} (fits : InBlocks script state) :
    InLoops script state where
  frames := fits.sync_eq
  exits := by
    intro sessionAt line isLine isSome noLabel leaves
    unfold turn
    rw [isLine]
    dsimp only
    rw [if_neg (not_or.mpr ⟨isSome, noLabel⟩)]
    obtain ⟨inlineArm, left⟩ := @execStatement_of_leavesLoop script
      state.syncLoopFramesForPc sessionAt _ _ false leaves
    rw [left]
    exact exitLoop_exitsAt fits.sync inlineArm

/-- Every `LOOP` has its `REPEAT`, and the blocks do not cross. -/
structure LoopsPaired (script : Script) : Prop where
  pairs : ∀ {first last}, script.close first = some last → first < last ∧
    StatementAt script.lines first .loop ∧ StatementAt script.lines last .repeat_
  nested : ∀ {first last first' last'}, script.close first = some last →
    script.close first' = some last' → first < first' → first' < last → last' < last
  loops : ∀ {first}, StatementAt script.lines first .loop → ∃ last, script.close first = some last
  repeats : ∀ {last}, StatementAt script.lines last .repeat_ →
    ∃ first, script.close first = some last

/-- A statement is on a line of the script. -/
theorem StatementAt.lt_length {lines : List (List Char)} {number : ℕ} {command : Command}
    (here : StatementAt lines number command) : number < lines.length := by
  obtain ⟨line, isLine, -⟩ := here
  exact (List.getElem?_eq_some_iff.mp isLine).1

/-- Loops that are all matched are paired. -/
theorem Matching.loopsPaired {script : Script}
    (matched : Matching script.lines script.lines.length [] script) : LoopsPaired script where
  pairs := by
    intro first last pair
    obtain ⟨order, -, loop, close⟩ := matched.pairs pair
    exact ⟨order, loop, close⟩
  nested := matched.nested
  loops := by
    intro first isLoop
    have paired := (matched.loops isLoop.lt_length isLoop).resolve_left List.not_mem_nil
    exact Option.isSome_iff_exists.mp paired
  repeats := by
    intro last isRepeat
    obtain ⟨first, pair⟩ := Option.isSome_iff_exists.mp (matched.repeats isRepeat.lt_length isRepeat)
    exact ⟨first, matched.back.mp pair⟩

/-- The frames of a script whose `GO`s stay in their blocks are the blocks around the line, in
every run. -/
theorem always_inLoops {lines : List (List Char)} {script : Script}
    (prepared : prepare lines = .ok script) (lexical : script.Lexical) (params : List String)
    (given : List (SessionAt × ProcReply)) :
    LoopsPaired script ∧
      Always (turnAfter script) (InLoops script) { variableMap := parameters params } given := by
  obtain ⟨-, matched⟩ := matching_of_prepare prepared
  have anyTurn : EachStep (turnAfter script) (fun _ _ => True)
      { variableMap := parameters params } given :=
    eachStep_of_forall (fun _ _ => trivial) _
  have kept : ∀ {before : ProcState} {reply after}, InBlocks script before → True →
      turnAfter script before reply = some after → InBlocks script after :=
    fun fits _ taken => KeepsFrames.turn script _ matched lexical fits _ _ taken
  have start : InBlocks script { variableMap := parameters params } := Fits.empty
  exact ⟨matched.loopsPaired,
    (always_of_invariant kept start anyTurn).mono fun _ => InBlocks.inLoops⟩

/-- A loop that a `GO` leaves; the label stands behind it. -/
def leavingScript : List (List Char) :=
  ["LOOP".toList, "EXITIF P1 = 1".toList, "IF P1 = 2 THEN GO OUT".toList, "REPEAT".toList,
    "OUT:".toList, "DISPLAY P1".toList]

/-- What the session and the shell answer in this run. -/
def leavingReplies : List (SessionAt × ProcReply) :=
  List.replicate 4 (fun _ => none, .done none)

/-- The label and the pair of this script. -/
theorem prepare_leavingScript : (prepare leavingScript).toOption.map
    (fun script => (script.lines, script.labels.entries, script.loopToRepeat.entries)) =
      some (leavingScript, [⟨"OUT", 4⟩], [⟨0, 3⟩]) := by
  decide +kernel

/-- The only label that its `GO`s name. -/
theorem goTargets_leavingScript : ∀ line ∈ leavingScript,
    ∀ label ∈ goTargets (tokenize line).length (tokenize line), label = "OUT" := by
  decide +kernel

/-- Its run leaves the loop. -/
theorem run_leavingScript : ((prepare leavingScript).toOption.bind fun script =>
    run (turnAfter script) { variableMap := parameters ["2"] } leavingReplies).map ProcState.pc =
      some 5 := by
  decide +kernel

/-- After the jump behind the loop its frame is dropped. -/
theorem always_inLoops_leavingScript : ∃ script final, prepare leavingScript = .ok script ∧
    run (turnAfter script) { variableMap := parameters ["2"] } leavingReplies = some final ∧
    final.pc = 5 ∧ LoopsPaired script ∧ InLoops script final := by
  obtain ⟨script, prepared⟩ : ∃ script, prepare leavingScript = .ok script := by
    cases prepared : prepare leavingScript with
    | ok script => exact ⟨script, rfl⟩
    | error =>
        have parts := prepare_leavingScript
        rw [prepared] at parts
        cases parts
  have parts := prepare_leavingScript
  have ran := run_leavingScript
  rw [prepared] at parts ran
  simp only [Except.toOption, Option.map_some, Option.some.injEq, Prod.mk.injEq] at parts
  obtain ⟨isLines, isLabels, isLoops⟩ := parts
  obtain ⟨final, completed, isEnd⟩ := Option.map_eq_some_iff.mp ran
  have lexical : script.Lexical := by
    intro pc line isLine isSome noLabel label member target isTarget block closes holds
    rw [isLines] at isLine
    rw [goTargets_leavingScript line (List.mem_of_getElem? isLine) label member] at isTarget
    have atLabel : target = 4 := by
      have entry := AList.mem_lookup_iff.mp isTarget
      rw [isLabels] at entry
      exact eq_of_heq (Sigma.mk.inj_iff.mp (List.mem_singleton.mp entry)).2
    have inLoop : block.2 = 3 := by
      have entry := AList.mem_lookup_iff.mp closes
      rw [isLoops] at entry
      exact eq_of_heq (Sigma.mk.inj_iff.mp (List.mem_singleton.mp entry)).2
    have ends := holds.2
    omega
  obtain ⟨paired, always⟩ := always_inLoops prepared lexical ["2"] leavingReplies
  exact ⟨script, final, prepared, completed, isEnd, paired, always.finish completed⟩

end Gemini.Proc
