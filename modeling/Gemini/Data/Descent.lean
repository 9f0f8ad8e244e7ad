import Gemini.Data.Checked

/-!
# Recursive descent

Parsers that take a tree from the front of a list of tokens. For the parts that a grammar is made of
there are three rules each: a part uses up tokens, it finds a tree only where the grammar has one
(`Sound`), and it finds every tree behind which the right tokens follow (`Complete`).
-/

namespace Gemini.Data

variable {Token Tree Other : Type}

/-- Why a parser has no result: the tokens are refused, or its count is used up. -/
inductive Stop where
  | refused
  | exhausted
deriving DecidableEq

/-- What a parser makes of tokens: a tree and the tokens behind it. -/
abbrev Descent (Token Tree : Type) := List Token → Except Stop (Tree × List Token)

/-- A token that has to be there. -/
def expectToken [DecidableEq Token] (wanted : Token) : List Token → Except Stop (List Token)
  | [] => .error .refused
  | token :: rest => if token = wanted then .ok rest else .error .refused

/-- The loop over the operators of one level, which associate to the left. -/
def leftLoop (operator : Token → Option (Tree → Tree → Tree)) (operand : Descent Token Tree) :
    ℕ → Tree → Descent Token Tree
  | 0, _, _ => .error .exhausted
  | _ + 1, left, [] => .ok (left, [])
  | count + 1, left, token :: rest =>
      match operator token with
      | none => .ok (left, token :: rest)
      | some join => do
          let (right, after) ← operand rest
          leftLoop operator operand count (join left right) after

/-- Operands joined by operators of one level, from the left. -/
def parseLeft (operator : Token → Option (Tree → Tree → Tree)) (operand : Descent Token Tree) :
    Descent Token Tree := fun tokens => do
  let (left, rest) ← operand tokens
  leftLoop operator operand (rest.length + 1) left rest

/-- An expected token is there, and is taken away. -/
theorem expectToken_eq_ok [DecidableEq Token] {wanted : Token} {tokens rest : List Token} :
    expectToken wanted tokens = .ok rest ↔ tokens = wanted :: rest := by
  cases tokens with
  | nil => exact iff_of_false nofun nofun
  | cons token tail =>
      rw [expectToken, List.cons.injEq]
      split
      · next isWanted => exact ⟨fun | rfl => ⟨isWanted, rfl⟩, fun ⟨_, same⟩ => same ▸ rfl⟩
      · next other => exact iff_of_false nofun fun ⟨isWanted, _⟩ => other isWanted

/-! ## Tokens are used up -/

/-- A part of a parser has not used up its count, and it has left fewer tokens than there were. -/
def Consumes (size : ℕ) : Except Stop (Tree × List Token) → Prop
  | .error .exhausted => False
  | .error .refused => True
  | .ok (_, rest) => rest.length < size

/-- On fewer tokens than the bound a parser uses some up. -/
def Progresses (bound : ℕ) (parser : Descent Token Tree) : Prop :=
  ∀ tokens, tokens.length < bound → Consumes tokens.length (parser tokens)

/-- Tokens that are consumed one part after the other. -/
theorem Consumes.bind {size total : ℕ} {first : Except Stop (Other × List Token)}
    {next : Other × List Token → Except Stop (Tree × List Token)} (consumes : Consumes size first)
    (goesOn : ∀ value rest, rest.length < size → Consumes total (next (value, rest))) :
    Consumes total (first >>= next) := by
  rcases first with (_ | _) | ⟨value, rest⟩
  · trivial
  · exact consumes
  · exact goesOn value rest consumes

/-- What leaves fewer tokens than a size leaves fewer than a larger one. -/
theorem Consumes.mono {size larger : ℕ} {outcome : Except Stop (Tree × List Token)}
    (consumes : Consumes size outcome) (atMost : size ≤ larger) : Consumes larger outcome := by
  rcases outcome with (_ | _) | ⟨value, rest⟩
  · trivial
  · exact consumes
  · exact Nat.lt_of_lt_of_le consumes atMost

/-- An expected token is consumed. -/
theorem consumes_expectToken [DecidableEq Token] {total : ℕ} {wanted : Token} {tokens : List Token}
    {next : List Token → Except Stop (Tree × List Token)}
    (goesOn : ∀ last, last.length < tokens.length → Consumes total (next last)) :
    Consumes total (expectToken wanted tokens >>= next) := by
  cases tokens with
  | nil => trivial
  | cons token rest =>
      rw [expectToken]
      split
      · exact goesOn rest (Nat.lt_succ_self _)
      · trivial

section Loops

variable {operator : Token → Option (Tree → Tree → Tree)} {operand : Descent Token Tree}

/-- The loop over the operators has fuel enough, and consumes what its operands do. -/
theorem consumes_leftLoop {bound size count : ℕ} (progresses : Progresses bound operand)
    (left : Tree) {tokens : List Token} (short : tokens.length < bound)
    (enough : tokens.length < count) (fewer : tokens.length < size) :
    Consumes size (leftLoop operator operand count left tokens) := by
  induction count generalizing left tokens with
  | zero => omega
  | succ count hypothesis =>
      cases tokens with
      | nil => exact fewer
      | cons token rest =>
          rw [List.length_cons] at short enough fewer
          rw [leftLoop]
          split
          · exact fewer
          · refine (progresses rest (by omega)).bind fun right after less => ?_
            exact hypothesis _ (by omega) (by omega) (by omega)

/-- A level makes progress when its operands do. -/
theorem Progresses.parseLeft {bound : ℕ} (progresses : Progresses bound operand) :
    Progresses bound (parseLeft operator operand) := by
  intro tokens short
  refine (progresses tokens short).bind fun left rest less => ?_
  exact consumes_leftLoop progresses left (by omega) (by omega) less

end Loops

/-! ## Only what the grammar has is found -/

/-- The tokens of a parser's tree are ones that the grammar has for it. -/
def Sound (grammar : Tree → List Token → Prop) (parser : Descent Token Tree) : Prop :=
  ∀ ⦃tokens tree rest⦄, parser tokens = .ok (tree, rest) →
    ∃ front, tokens = front ++ rest ∧ grammar tree front

/-- Operands with operators between them, joined from the left. -/
inductive Spine (operator : Token → Option (Tree → Tree → Tree))
    (operand : Tree → List Token → Prop) : Tree → List Token → Prop where
  | single {tree : Tree} {tokens : List Token} (first : operand tree tokens) :
      Spine operator operand tree tokens
  | join {token : Token} {apply : Tree → Tree → Tree} {left right : Tree}
      {tokens others : List Token} (isOperator : operator token = some apply)
      (before : Spine operator operand left tokens) (last : operand right others) :
      Spine operator operand (apply left right) (tokens ++ token :: others)

section Operators

variable {operator : Token → Option (Tree → Tree → Tree)} {operand : Descent Token Tree}
  {grammar : Tree → List Token → Prop}

/-- The loop over the operators is sound. -/
theorem leftLoop_sound (sound : Sound grammar operand) {count : ℕ} {left tree : Tree}
    {front tokens rest : List Token} (before : Spine operator grammar left front)
    (done : leftLoop operator operand count left tokens = .ok (tree, rest)) :
    ∃ whole, front ++ tokens = whole ++ rest ∧ Spine operator grammar tree whole := by
  induction count generalizing left front tokens with
  | zero => cases done
  | succ count hypothesis =>
      cases tokens with
      | nil =>
          cases done
          exact ⟨front, rfl, before⟩
      | cons token others =>
          rw [leftLoop] at done
          split at done
          · cases done
            exact ⟨front, rfl, before⟩
          · next apply isOperator =>
              obtain ⟨⟨right, after⟩, found, looped⟩ := bind_eq_ok.mp done
              obtain ⟨back, rfl, second⟩ := sound found
              obtain ⟨whole, isWhole, joined⟩ := hypothesis (.join isOperator before second) looped
              exact ⟨whole, by rw [← isWhole]; simp, joined⟩

/-- A level is sound when its operands are. -/
theorem Sound.parseLeft (sound : Sound grammar operand) :
    Sound (Spine operator grammar) (parseLeft operator operand) := by
  intro tokens tree rest done
  obtain ⟨⟨left, after⟩, found, looped⟩ := bind_eq_ok.mp done
  obtain ⟨front, rfl, first⟩ := sound found
  exact leftLoop_sound sound (.single first) looped

end Operators

/-! ## Everything that the grammar has is found -/

/-- A parser finds a tree of the grammar when tokens follow that do not go on with it. -/
def Complete (follows : List Token → Prop) (grammar : Tree → List Token → Prop)
    (parser : Descent Token Tree) : Prop :=
  ∀ ⦃tree tokens rest⦄, grammar tree tokens → follows rest →
    parser (tokens ++ rest) = .ok (tree, rest)

/-- What the loop still joins to a tree. -/
inductive Joins (operator : Token → Option (Tree → Tree → Tree))
    (operand : Tree → List Token → Prop) : Tree → List Token → Tree → Prop where
  | done {tree : Tree} : Joins operator operand tree [] tree
  | next {token : Token} {apply : Tree → Tree → Tree} {left right tree : Tree}
      {tokens others : List Token} (isOperator : operator token = some apply)
      (first : operand right tokens)
      (later : Joins operator operand (apply left right) others tree) :
      Joins operator operand left (token :: (tokens ++ others)) tree

section Operators

variable {operator : Token → Option (Tree → Tree → Tree)} {operand : Descent Token Tree}
  {grammar : Tree → List Token → Prop} {follows operandFollows : List Token → Prop}

/-- One operator more is joined at the end. -/
theorem Joins.snoc {left tree right : Tree} {tokens others : List Token} {token : Token}
    {apply : Tree → Tree → Tree} (joins : Joins operator grammar left tokens tree)
    (isOperator : operator token = some apply) (last : grammar right others) :
    Joins operator grammar left (tokens ++ token :: others) (apply tree right) := by
  induction joins with
  | @done tree =>
      have one := @Joins.next _ _ _ _ _ _ tree _ _ _ _ isOperator last .done
      rwa [List.append_nil] at one
  | next isFirst first _ hypothesis =>
      have more := Joins.next isFirst first hypothesis
      rwa [List.cons_append, List.append_assoc]

/-- A spine is a first operand and what is joined to it. -/
theorem Spine.joins {tree : Tree} {tokens : List Token}
    (spine : Spine operator grammar tree tokens) :
    ∃ first front back, tokens = front ++ back ∧ grammar first front ∧
      Joins operator grammar first back tree := by
  induction spine with
  | @single tree tokens first => exact ⟨tree, tokens, [], (List.append_nil _).symm, first, .done⟩
  | join isOperator _ last hypothesis =>
      obtain ⟨first, front, back, rfl, isFirst, joins⟩ := hypothesis
      exact ⟨first, front, _, List.append_assoc _ _ _, isFirst, joins.snoc isOperator last⟩

/-- The next tokens are no operator, or one behind which the loop goes on. -/
theorem leftLoop_complete (complete : Complete operandFollows grammar operand)
    (operators : ∀ token rest, (operator token).isSome → operandFollows (token :: rest))
    (stops : ∀ rest, follows rest → operandFollows rest ∧
      ∀ token ∈ rest.head?, operator token = none)
    {count : ℕ} {left tree : Tree} {tokens rest : List Token}
    (joins : Joins operator grammar left tokens tree) (ends : follows rest)
    (enough : tokens.length < count) :
    leftLoop operator operand count left (tokens ++ rest) = .ok (tree, rest) := by
  induction joins generalizing count with
  | done =>
      obtain ⟨count, rfl⟩ := Nat.exists_eq_succ_of_ne_zero (Nat.ne_of_gt enough)
      cases rest with
      | nil => rfl
      | cons token rest =>
          rw [List.nil_append, leftLoop, (stops _ ends).2 token rfl]
  | @next token apply left right tree tokens others isOperator first later hypothesis =>
      obtain ⟨count, rfl⟩ := Nat.exists_eq_succ_of_ne_zero (Nat.ne_of_gt (Nat.zero_lt_of_lt enough))
      rw [List.length_cons, List.length_append] at enough
      have goesOn : operandFollows (others ++ rest) := by
        cases later with
        | done => exact (stops rest ends).1
        | next isNext _ _ => exact operators _ _ (by rw [isNext]; rfl)
      rw [List.cons_append, List.append_assoc, leftLoop, isOperator]
      refine bind_eq_ok.mpr ⟨(right, others ++ rest), complete first goesOn, ?_⟩
      exact hypothesis (by omega)

/-- A level is complete when its operands are and its operators may follow them. -/
theorem Complete.parseLeft (complete : Complete operandFollows grammar operand)
    (operators : ∀ token rest, (operator token).isSome → operandFollows (token :: rest))
    (stops : ∀ rest, follows rest → operandFollows rest ∧
      ∀ token ∈ rest.head?, operator token = none) :
    Complete follows (Spine operator grammar) (parseLeft operator operand) := by
  intro tree tokens rest spine ends
  obtain ⟨first, front, back, rfl, isFirst, joins⟩ := spine.joins
  have goesOn : operandFollows (back ++ rest) := by
    cases joins with
    | done => exact (stops rest ends).1
    | next isNext _ _ => exact operators _ _ (by rw [isNext]; rfl)
  rw [List.append_assoc]
  refine bind_eq_ok.mpr ⟨(first, back ++ rest), complete isFirst goesOn, ?_⟩
  exact leftLoop_complete complete operators stops joins ends (by grind)

end Operators

end Gemini.Data
