import Mathlib.Data.List.Sort

/-!
# Round-robin choice

The next of a set of candidates after the one served last: the least candidate
beyond it, or the least of all when none is. `Precedes last` is the cyclic order
that starts behind `last`; the choice is its first candidate, so it stays the
choice of any smaller set that it belongs to. `InTurn` says that one of those who
ask can be chosen, although the candidates hold others who do not ask.
-/

namespace Gemini.Data

universe u

variable {α : Type u} [LinearOrder α]

/-- The first of the sorted candidates beyond `last`, else the first of all. -/
def roundRobin (last : α) (candidates : List α) : Option α :=
  let sorted := candidates.insertionSort (· ≤ ·)
  (sorted.find? (last < ·)).or sorted.head?

/-- `first` comes no later than `second` in the cyclic order that starts behind `last`. -/
def Precedes (last first second : α) : Prop :=
  (last < first ∧ (second ≤ last ∨ first ≤ second)) ∨
    (first ≤ last ∧ second ≤ last ∧ first ≤ second)

/-- Two items that come before each other are one. -/
theorem Precedes.antisymm {last first second : α} (one : Precedes last first second)
    (two : Precedes last second first) : first = second := by
  unfold Precedes at one two
  grind

/-- Of any two, one comes first. -/
theorem Precedes.total (last first second : α) :
    Precedes last first second ∨ Precedes last second first := by
  unfold Precedes
  rcases le_total first last with before | beyond <;> grind

/-- What comes before an earlier item comes before a later one. -/
theorem Precedes.trans {last first second third : α} (one : Precedes last first second)
    (two : Precedes last second third) : Precedes last first third := by
  unfold Precedes at one two ⊢
  grind

/-- An item comes no later than itself. -/
@[simp] theorem Precedes.refl (last first : α) : Precedes last first first :=
  or_self_iff.mp (Precedes.total last first first)

/-- Nobody comes after the one served last. -/
@[simp] theorem Precedes.before_last (last first : α) : Precedes last first last := by
  unfold Precedes
  grind

/-- There is a choice unless there are no candidates. -/
theorem roundRobin_eq_none {last : α} {candidates : List α} :
    roundRobin last candidates = none ↔ candidates = [] := by
  constructor
  · intro nothing
    obtain ⟨-, empty⟩ := Option.or_eq_none_iff.mp nothing
    rw [List.head?_eq_none_iff] at empty
    rw [← List.length_eq_zero_iff, ← List.length_insertionSort (· ≤ ·) candidates, empty,
      List.length_nil]
  · rintro rfl
    rfl

/-- The choice is a candidate. -/
theorem roundRobin_mem {last next : α} {candidates : List α}
    (chosen : roundRobin last candidates = some next) : next ∈ candidates := by
  rw [← List.mem_insertionSort (· ≤ ·)]
  rcases Option.or_eq_some_iff.mp chosen with found | ⟨-, head⟩
  · exact List.mem_of_find?_eq_some found
  · exact List.mem_of_mem_head? head

/-- The choice comes first in the cyclic order. -/
theorem roundRobin_precedes {last next other : α} {candidates : List α}
    (chosen : roundRobin last candidates = some next) (member : other ∈ candidates) :
    Precedes last next other := by
  rw [← List.mem_insertionSort (· ≤ ·)] at member
  have sorted := List.pairwise_insertionSort (· ≤ ·) candidates
  unfold roundRobin at chosen
  generalize candidates.insertionSort (· ≤ ·) = list at chosen member sorted
  rcases Option.or_eq_some_iff.mp chosen with found | ⟨none, head⟩
  · -- What stands before the choice is not beyond `last`, what stands behind it is greater.
    obtain ⟨beyond, before, after, rfl, earlier⟩ := List.find?_eq_some_iff_append.mp found
    rw [decide_eq_true_iff] at beyond
    refine .inl ⟨beyond, ?_⟩
    rcases List.mem_append.mp member with inFront | behind
    · left
      simpa using earlier other inFront
    · right
      rcases List.mem_cons.mp behind with rfl | behind
      · exact le_refl _
      · obtain ⟨-, sortedTail, -⟩ := List.pairwise_append.mp sorted
        exact (List.pairwise_cons.mp sortedTail).1 other behind
  · have notBeyond : ∀ candidate ∈ list, candidate ≤ last := by
      simpa using none
    cases list with
    | nil => cases head
    | cons first rest =>
        cases head
        refine .inr ⟨notBeyond _ (by simp), notBeyond _ member, ?_⟩
        rcases List.mem_cons.mp member with rfl | member
        · exact le_refl _
        · exact (List.pairwise_cons.mp sorted).1 other member

/-- A candidate that comes first is the choice. -/
theorem roundRobin_eq_some {last next : α} {candidates : List α} (member : next ∈ candidates)
    (first : ∀ other ∈ candidates, Precedes last next other) :
    roundRobin last candidates = some next := by
  cases chosen : roundRobin last candidates with
  | none =>
      rw [roundRobin_eq_none] at chosen
      simp [chosen] at member
  | some other =>
      rw [(roundRobin_precedes chosen member).antisymm (first other (roundRobin_mem chosen))]

/-! ## Those who ask among the candidates -/

/-- Of those who ask, one need not be the choice, or comes before all the others. -/
def InTurn (last : α) (asks exempt others : α → Prop) : Prop :=
  ∃ id, asks id ∧ (exempt id ∨ ∀ other, others other → Precedes last id other)

section InTurn

variable {last id : α} {asks exempt others fewer : α → Prop}

/-- With fewer others it is still the turn. -/
theorem InTurn.mono (inTurn : InTurn last asks exempt others)
    (less : ∀ other, fewer other → others other) : InTurn last asks exempt fewer := by
  obtain ⟨id, asked, exempted | first⟩ := inTurn
  · exact ⟨id, asked, .inl exempted⟩
  · exact ⟨id, asked, .inr fun other member => first other (less other member)⟩

/-- Whether the one served last is among the others makes no difference. -/
theorem inTurn_congr_of_last (same : ∀ other, other ≠ last → (fewer other ↔ others other)) :
    InTurn last asks exempt fewer ↔ InTurn last asks exempt others := by
  have firsts (id : α) : (∀ other, fewer other → Precedes last id other) ↔
      ∀ other, others other → Precedes last id other := by
    refine forall_congr' fun other => ?_
    by_cases is : other = last
    · simp [is]
    · rw [same other is]
  simp only [InTurn, firsts]

/-- One more candidate does no harm exactly when one of those who ask comes before it. -/
theorem inTurn_insert_iff (inTurn : InTurn last asks exempt others) :
    InTurn last asks exempt (fun other => others other ∨ other = id) ↔
      ∃ asker, asks asker ∧ (exempt asker ∨ Precedes last asker id) := by
  constructor
  · rintro ⟨asker, asked, exempted | first⟩
    · exact ⟨asker, asked, .inl exempted⟩
    · exact ⟨asker, asked, .inr (first id (.inr rfl))⟩
  · rintro ⟨asker, asked, exempted | before⟩
    · exact ⟨asker, asked, .inl exempted⟩
    · obtain ⟨leader, leads, exempted | first⟩ := inTurn
      · exact ⟨leader, leads, .inl exempted⟩
      · -- Of the two, the one that comes first comes before all the others and the new one.
        rcases Precedes.total last leader asker with one | two
        · refine ⟨leader, leads, .inr ?_⟩
          rintro other (member | rfl)
          · exact first other member
          · exact one.trans before
        · refine ⟨asker, asked, .inr ?_⟩
          rintro other (member | rfl)
          · exact two.trans (first other member)
          · exact before

end InTurn

end Gemini.Data
