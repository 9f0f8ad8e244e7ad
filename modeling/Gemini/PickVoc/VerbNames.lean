import Gemini.Data.Walks
import Gemini.PickVoc.VocResolver

/-!
# Resolved verbs

The entries of the VOC make a walk from a token to the verb that it stands for, and the last `V` or
`X` entry of the walk gives the verb. A verb that was resolved stands for itself.
-/

namespace Gemini.PickVoc

open Gemini.Data (Steps Walk lastMark lastMark_append lastMark_cons)

variable {table : VocTable} {token start key : String} {passed path visited : List String}

/-- The key that an entry leads to. -/
def nextKey (table : VocTable) (key : String) : Option String :=
  (table.lookup key).bind fun entry =>
    match entry.type with
    | .Q | .V | .X => if entry.attribute2 = "" then none else some (upperAscii entry.attribute2)
    | .F | .D | .A => none

/-- The verb that an entry gives. -/
def verbAt (table : VocTable) (key : String) : Option String :=
  (table.lookup key).bind fun entry =>
    match entry.type with
    | .V | .X => if entry.attribute2 = "" then none else some entry.attribute2
    | .Q | .F | .D | .A => none

/-- An entry that gives a verb leads to the key of that verb. -/
theorem nextKey_of_verbAt {verb : String} (gives : verbAt table key = some verb) :
    nextKey table key = some (upperAscii verb) := by
  unfold verbAt at gives
  obtain ⟨entry, found, gives⟩ := Option.bind_eq_some_iff.mp gives
  rw [nextKey, found, Option.bind_some]
  rcases entry with ⟨_ | _ | _ | _ | _ | _, attribute2, _⟩ <;> grind

/-- Only a key of the table leads on. -/
theorem mem_keys_of_nextKey {after : String} (leads : nextKey table key = some after) :
    key ∈ table.keys := by
  obtain ⟨entry, found, -⟩ := Option.bind_eq_some_iff.mp leads
  exact AList.lookup_isSome.mp (by rw [found]; rfl)

/-- One round of the loop of `resolveVerbName`. -/
theorem verbAfter_succ (hop : ℕ) (visited : List String) (key resolved : String) :
    verbAfter table (hop + 1) visited key resolved =
      if key ∈ visited then resolved
      else
        match nextKey table key with
        | none => resolved
        | some after =>
            verbAfter table hop (key :: visited) after ((verbAt table key).getD resolved) := by
  rw [verbAfter]
  split
  · rfl
  · unfold nextKey verbAt
    cases table.lookup key with
    | none => rfl
    | some entry =>
        obtain ⟨type, attribute2, attribute3⟩ := entry
        by_cases empty : attribute2 = "" <;> cases type <;> simp [empty]

/-- The keys that were visited are keys of the table, so they are not more than it has. -/
theorem length_le_of_steps (steps : Steps (nextKey table) start passed key)
    (nodup : passed.Nodup) : passed.length ≤ table.keys.length := by
  refine (List.subperm_of_subset nodup fun place visited => ?_).length_le
  obtain ⟨after, leads⟩ := steps.leads visited
  exact mem_keys_of_nextKey leads

/-- The loop stops where the walk does when it has a hop for every key that it has not visited. -/
theorem verbAfter_walk (hop : ℕ) (resolved : String)
    (steps : Steps (nextKey table) start passed key) (nodup : passed.Nodup)
    (same : ∀ place, place ∈ visited ↔ place ∈ passed)
    (enough : table.keys.length < hop + passed.length) :
    ∃ path, Walk (nextKey table) start (passed ++ path) ∧
      verbAfter table hop visited key resolved =
        (lastMark (verbAt table) path).getD resolved := by
  induction hop generalizing visited passed key resolved with
  | zero =>
      have few := length_le_of_steps steps nodup
      omega
  | succ hop inductionHypothesis =>
      rw [verbAfter_succ]
      split
      case isTrue seen =>
          exact ⟨[], by rw [List.append_nil]; exact ⟨⟨key, steps, .inr ((same key).mp seen)⟩, nodup⟩,
            rfl⟩
      case isFalse unseen =>
          rw [same] at unseen
          cases leads : nextKey table key with
          | none =>
              exact ⟨[], by rw [List.append_nil]; exact ⟨⟨key, steps, .inl leads⟩, nodup⟩, rfl⟩
          | some after =>
              have onward := steps.append (.go leads (.stay after))
              have nodup : (passed ++ [key]).Nodup := by
                rw [List.nodup_append_comm]
                exact List.nodup_cons.mpr ⟨unseen, nodup⟩
              have same : ∀ place, place ∈ key :: visited ↔ place ∈ passed ++ [key] := by
                intro place
                rw [List.mem_cons, List.mem_append, List.mem_singleton, same, or_comm]
              obtain ⟨path, walk, result⟩ :=
                inductionHypothesis ((verbAt table key).getD resolved) onward nodup same
                  (by rw [List.length_append, List.length_singleton]; omega)
              refine ⟨key :: path, by simpa using walk, ?_⟩
              dsimp only
              rw [result, lastMark_cons]
              cases lastMark (verbAt table) path <;> rfl

/-- The verb of a token is what the last entry of its walk that gives a verb gives. -/
theorem verbName_walk (few : table.keys.length < 64) (token : String) :
    ∃ path, Walk (nextKey table) (upperAscii token) path ∧
      verbName table token = (lastMark (verbAt table) path).getD token :=
  verbAfter_walk 64 token (.stay _) List.nodup_nil (fun _ => Iff.rfl) few

/-- A verb that was resolved stands for itself. -/
theorem verbName_resolved (few : table.keys.length < 64) (token : String) :
    verbName table (verbName table token) = verbName table token := by
  obtain ⟨path, walk, resolved⟩ := verbName_walk few token
  cases found : lastMark (verbAt table) path with
  | none =>
      rw [found, Option.getD_none] at resolved
      rw [resolved, resolved]
  | some verb =>
      rw [found, Option.getD_some] at resolved
      obtain ⟨path', walk', resolved'⟩ := verbName_walk few verb
      rw [resolved, resolved']
      exact walk.lastMark_again (fun _ _ => nextKey_of_verbAt) found walk'

end Gemini.PickVoc
