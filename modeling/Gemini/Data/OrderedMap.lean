import Mathlib.Data.List.Basic
import Mathlib.Order.Lattice

/-!
# Maps in ascending order

A map whose entries stand in the order of their keys, as a `std::map` gives them to a loop.
-/

namespace Gemini.Data

/-- Entries with ascending keys. -/
structure OrderedMap (Key Value : Type) [LinearOrder Key] where
  entries : List (Key × Value) := []
  ascending : entries.Pairwise fun first second => first.1 < second.1 := by exact .nil

namespace OrderedMap

variable {Key Value : Type} [LinearOrder Key]

/-- The map without entries. -/
def empty : OrderedMap Key Value := {}

/-- A map is its entries. -/
theorem ext_entries {first second : OrderedMap Key Value} (same : first.entries = second.entries) :
    first = second := by
  cases first
  cases second
  cases same
  rfl

/-- Put an entry in its place, instead of one with the same key. -/
def insertEntry (key : Key) (value : Value) : List (Key × Value) → List (Key × Value)
  | [] => [(key, value)]
  | entry :: rest =>
      if key < entry.1 then (key, value) :: entry :: rest
      else if key = entry.1 then (key, value) :: rest
      else entry :: insertEntry key value rest

/-- An entry is the new one, or one that was there. -/
theorem mem_insertEntry {key : Key} {value : Value} {entries : List (Key × Value)}
    {entry : Key × Value} (member : entry ∈ insertEntry key value entries) :
    entry = (key, value) ∨ entry ∈ entries := by
  induction entries with
  | nil => simpa [insertEntry] using member
  | cons first rest inductionHypothesis =>
      unfold insertEntry at member
      split at member
      · simpa using member
      · split at member
        · rcases List.mem_cons.mp member with same | later
          · exact .inl same
          · exact .inr (List.mem_cons_of_mem _ later)
        · rcases List.mem_cons.mp member with same | later
          · exact .inr (same ▸ List.mem_cons_self)
          · exact (inductionHypothesis later).imp_right (List.mem_cons_of_mem _)

/-- Keys stay in order. -/
theorem ascending_insertEntry (key : Key) (value : Value) {entries : List (Key × Value)}
    (ascending : entries.Pairwise fun first second => first.1 < second.1) :
    (insertEntry key value entries).Pairwise fun first second => first.1 < second.1 := by
  induction entries with
  | nil => exact List.pairwise_singleton _ _
  | cons first rest inductionHypothesis =>
      obtain ⟨below, tail⟩ := List.pairwise_cons.mp ascending
      unfold insertEntry
      split
      · next before =>
          refine List.pairwise_cons.mpr ⟨fun entry member => ?_, ascending⟩
          rcases List.mem_cons.mp member with rfl | later
          · exact before
          · exact lt_trans before (below entry later)
      · next notBefore =>
          split
          · next same =>
              exact List.pairwise_cons.mpr ⟨fun entry later => same ▸ below entry later, tail⟩
          · next different =>
              refine List.pairwise_cons.mpr ⟨fun entry member => ?_, inductionHypothesis tail⟩
              rcases mem_insertEntry member with rfl | later
              · exact lt_of_le_of_ne (not_lt.mp notBefore) (Ne.symm different)
              · exact below entry later

/-- The map with an entry, in the place of one with the same key. -/
def insert (map : OrderedMap Key Value) (key : Key) (value : Value) : OrderedMap Key Value :=
  ⟨insertEntry key value map.entries, ascending_insertEntry key value map.ascending⟩

/-- The map without a key. -/
def erase (map : OrderedMap Key Value) (key : Key) : OrderedMap Key Value :=
  ⟨map.entries.filter fun entry => entry.1 ≠ key, map.ascending.filter _⟩

/-- Put the entries of a list into a map, one after the other. -/
def insertAll (map : OrderedMap Key Value) (entries : List (Key × Value)) :
    OrderedMap Key Value :=
  entries.foldl (fun map entry => map.insert entry.1 entry.2) map

/-- An entry is one of the new ones, or one that was there. -/
theorem mem_insertAll {map : OrderedMap Key Value} {entries : List (Key × Value)}
    {entry : Key × Value} (member : entry ∈ (map.insertAll entries).entries) :
    entry ∈ map.entries ∨ entry ∈ entries := by
  induction entries generalizing map with
  | nil => exact .inl member
  | cons first rest inductionHypothesis =>
      rcases inductionHypothesis member with inMap | later
      · rcases mem_insertEntry inMap with rfl | before
        · exact .inr List.mem_cons_self
        · exact .inl before
      · exact .inr (List.mem_cons_of_mem _ later)

/-- An entry after all others is put at the end. -/
theorem insertEntry_last {key : Key} {entries : List (Key × Value)} (value : Value)
    (below : ∀ entry ∈ entries, entry.1 < key) :
    insertEntry key value entries = entries ++ [(key, value)] := by
  induction entries with
  | nil => rfl
  | cons first rest inductionHypothesis =>
      obtain ⟨less, below⟩ := List.forall_mem_cons.mp below
      rw [insertEntry, if_neg (lt_asymm less), if_neg (ne_of_gt less), inductionHypothesis below,
        List.cons_append]

/-- Entries that stand in order after those of a map are added at its end. -/
theorem entries_insertAll {map : OrderedMap Key Value} {entries : List (Key × Value)}
    (ascending : (map.entries ++ entries).Pairwise fun first second => first.1 < second.1) :
    (map.insertAll entries).entries = map.entries ++ entries := by
  induction entries generalizing map with
  | nil => simp [insertAll]
  | cons entry rest inductionHypothesis =>
      have below : ∀ before ∈ map.entries, before.1 < entry.1 := fun before member =>
        (List.pairwise_append.mp ascending).2.2 before member entry List.mem_cons_self
      have added : (map.insert entry.1 entry.2).entries = map.entries ++ [entry] :=
        insertEntry_last entry.2 below
      have next := @inductionHypothesis (map.insert entry.1 entry.2)
        (by rwa [added, List.append_assoc])
      rw [added, List.append_assoc] at next
      exact next

/-- A map comes back from its entries. -/
theorem insertAll_entries (map : OrderedMap Key Value) :
    OrderedMap.insertAll {} map.entries = map := by
  refine ext_entries ?_
  exact entries_insertAll (by simpa using map.ascending)

/-- An entry of a list is in the map exactly when no later one takes its place. -/
theorem mem_insertEntry_iff {key : Key} {value : Value} {entries : List (Key × Value)}
    (ascending : entries.Pairwise fun first second => first.1 < second.1)
    (entry : Key × Value) :
    entry ∈ insertEntry key value entries ↔
      entry = (key, value) ∨ entry ∈ entries ∧ entry.1 ≠ key := by
  induction entries with
  | nil => simp [insertEntry]
  | cons first rest inductionHypothesis =>
      obtain ⟨below, tail⟩ := List.pairwise_cons.mp ascending
      unfold insertEntry
      split
      · next before =>
          rw [List.mem_cons]
          refine or_congr_right ⟨fun member => ⟨member, ?_⟩, And.left⟩
          rcases List.mem_cons.mp member with rfl | later
          · exact ne_of_gt before
          · exact ne_of_gt (lt_trans before (below entry later))
      · next notBefore =>
          split
          · next same =>
              rw [List.mem_cons]
              refine or_congr_right ⟨fun later => ⟨List.mem_cons_of_mem _ later, ?_⟩, ?_⟩
              · rw [same]
                exact ne_of_gt (below entry later)
              · rintro ⟨member, different⟩
                rcases List.mem_cons.mp member with rfl | later
                · exact absurd same.symm different
                · exact later
          · next different =>
              rw [List.mem_cons, inductionHypothesis tail, List.mem_cons]
              constructor
              · rintro (rfl | rfl | ⟨later, other⟩)
                · exact .inr ⟨.inl rfl, Ne.symm different⟩
                · exact .inl rfl
                · exact .inr ⟨.inr later, other⟩
              · rintro (rfl | ⟨rfl | later, other⟩)
                · exact .inr (.inl rfl)
                · exact .inl rfl
                · exact .inr (.inr ⟨later, other⟩)

/-- A map that is filled from entries with different keys has exactly these. -/
theorem mem_insertAll_iff {map : OrderedMap Key Value} {entries : List (Key × Value)}
    (different : entries.Pairwise fun first second => first.1 ≠ second.1)
    (fresh : ∀ entry ∈ entries, ∀ other ∈ map.entries, other.1 ≠ entry.1)
    (entry : Key × Value) :
    entry ∈ (map.insertAll entries).entries ↔ entry ∈ map.entries ∨ entry ∈ entries := by
  induction entries generalizing map with
  | nil => simp [insertAll]
  | cons first rest inductionHypothesis =>
      obtain ⟨others, different⟩ := List.pairwise_cons.mp different
      obtain ⟨freshFirst, fresh⟩ := List.forall_mem_cons.mp fresh
      have inserted (entry : Key × Value) : entry ∈ (map.insert first.1 first.2).entries ↔
          entry = first ∨ entry ∈ map.entries := by
        rw [insert, mem_insertEntry_iff map.ascending]
        refine or_congr_right ⟨And.left, fun member => ⟨member, freshFirst entry member⟩⟩
      have next := @inductionHypothesis (map.insert first.1 first.2) different (by
        intro entry member other inMap
        rcases (inserted other).mp inMap with rfl | inMap
        · exact others entry member
        · exact fresh entry member other inMap)
      have step : map.insertAll (first :: rest) = (map.insert first.1 first.2).insertAll rest := rfl
      rw [step, next, inserted, List.mem_cons]
      tauto

end OrderedMap

end Gemini.Data
