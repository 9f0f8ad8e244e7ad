import Mathlib.Data.List.AList

/-!
# Dropping entries of an association list

`filterMapValues` sends every value through a partial function and drops the entries
without a result, as a pass over a map that erases while it iterates.
-/

namespace Gemini.Data

universe u v

variable {Key : Type u} {Value : Type v}

/-- One entry of the list, when its value is kept. -/
def keptEntry (keep : Value → Option Value) (entry : Sigma fun _ : Key => Value) :
    Option (Sigma fun _ : Key => Value) :=
  (keep entry.2).map fun value => ⟨entry.1, value⟩

/-- No key is new. -/
theorem keys_filterMap_keptEntry (keep : Value → Option Value)
    (entries : List (Sigma fun _ : Key => Value)) :
    (entries.filterMap (keptEntry keep)).keys.Sublist entries.keys := by
  induction entries with
  | nil => exact .slnil
  | cons entry rest inductionHypothesis =>
      cases kept : keep entry.2 with
      | none =>
          rw [List.filterMap_cons_none (by simp [keptEntry, kept])]
          exact inductionHypothesis.cons _
      | some value =>
          have keeps : keptEntry keep entry = some ⟨entry.1, value⟩ := by simp [keptEntry, kept]
          rw [List.filterMap_cons_some keeps]
          exact inductionHypothesis.cons_cons _

/-- The entries whose values are kept, with their new values. -/
def filterMapValues (keep : Value → Option Value) (list : AList fun _ : Key => Value) :
    AList fun _ : Key => Value where
  entries := list.entries.filterMap (keptEntry keep)
  nodupKeys := List.Nodup.sublist (keys_filterMap_keptEntry keep list.entries) list.nodupKeys

/-- A key has what is kept of its value. -/
@[simp] theorem lookup_filterMapValues [DecidableEq Key] (keep : Value → Option Value)
    (list : AList fun _ : Key => Value) (key : Key) :
    (filterMapValues keep list).lookup key = (list.lookup key).bind keep := by
  ext value
  have found : (filterMapValues keep list).lookup key = some value ↔
      ⟨key, value⟩ ∈ list.entries.filterMap (keptEntry keep) := AList.mem_lookup_iff
  have before (old : Value) : list.lookup key = some old ↔ ⟨key, old⟩ ∈ list.entries :=
    AList.mem_lookup_iff
  simp only [found, before, Option.bind_eq_some_iff, List.mem_filterMap, keptEntry,
    Option.map_eq_some_iff]
  constructor
  · rintro ⟨⟨_, old⟩, present, _, kept, ⟨⟩⟩
    exact ⟨old, present, kept⟩
  · rintro ⟨old, present, kept⟩
    exact ⟨⟨key, old⟩, present, value, kept, rfl⟩

end Gemini.Data
