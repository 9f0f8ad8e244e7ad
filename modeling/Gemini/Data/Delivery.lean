import Mathlib.Algebra.Ring.Nat

/-!
# Taking whole items from an arriving stream

Items of given sizes arrive one behind the other in a stream that is cut
anywhere into pieces, with pauses in between. A consumer buffers what arrives
and takes at most one whole item at each pause. `leftover_eq_nil_iff` says
exactly when it has taken all of them by the end of the stream: behind the
last unit of every item there must be a pause for that item and one for each
item after it.
-/

namespace Gemini.Data.Delivery

/-- One event of an arriving stream. -/
inductive Arrival where
  | units (count : Nat)
  | pause
deriving DecidableEq

/-- The pauses that come once at least `needed` units have arrived. -/
def pausesAfter (needed : Nat) : List Arrival → Nat
  | [] => 0
  | .units count :: rest => pausesAfter (needed - count) rest
  | .pause :: rest => (if needed = 0 then 1 else 0) + pausesAfter needed rest

/-- The items that remain when the stream ends, for a consumer that takes one
whole item at each pause. -/
def leftover : List Arrival → List Nat → Nat → List Nat
  | [], sizes, _ => sizes
  | .units count :: rest, sizes, buffered => leftover rest sizes (buffered + count)
  | .pause :: rest, [], buffered => leftover rest [] buffered
  | .pause :: rest, size :: sizes, buffered =>
      if size ≤ buffered then leftover rest sizes (buffered - size)
      else leftover rest (size :: sizes) buffered

/-- Nothing is left over that was not there. -/
theorem length_leftover_le (arrivals : List Arrival) (sizes : List Nat) (buffered : Nat) :
    (leftover arrivals sizes buffered).length ≤ sizes.length := by
  induction arrivals generalizing sizes buffered with
  | nil => exact Nat.le_refl _
  | cons arrival rest inductionHypothesis =>
      cases arrival with
      | units count => exact inductionHypothesis _ _
      | pause =>
          cases sizes with
          | nil => exact inductionHypothesis _ _
          | cons size sizes =>
              simp only [leftover]
              split
              · exact Nat.le_succ_of_le (inductionHypothesis _ _)
              · exact inductionHypothesis _ _

/-- Waiting for more units passes over no fewer pauses. -/
theorem pausesAfter_antitone {needed fewer : Nat} (le : fewer ≤ needed) (arrivals : List Arrival) :
    pausesAfter needed arrivals ≤ pausesAfter fewer arrivals := by
  induction arrivals generalizing needed fewer with
  | nil => exact Nat.le_refl _
  | cons arrival rest inductionHypothesis =>
      cases arrival with
      | units count => exact inductionHypothesis (Nat.sub_le_sub_right le count)
      | pause =>
          have tail := inductionHypothesis le
          simp only [pausesAfter]
          split <;> split <;> omega

/-- Every remaining item, with those behind it, finds its pauses. -/
def Served (sizes : List Nat) (buffered : Nat) (arrivals : List Arrival) : Prop :=
  ∀ j, j < sizes.length →
    sizes.length - j ≤ pausesAfter ((sizes.take (j + 1)).sum - buffered) arrivals

/-- Units that arrive are buffered. -/
theorem served_units {sizes : List Nat} {buffered count : Nat} {rest : List Arrival} :
    Served sizes buffered (.units count :: rest) ↔ Served sizes (buffered + count) rest := by
  simp only [Served, pausesAfter, Nat.sub_add_eq]

/-- A pause that finds the first item incomplete serves nobody. -/
theorem served_pause_short {size buffered : Nat} {sizes : List Nat} {rest : List Arrival}
    (short : buffered < size) :
    Served (size :: sizes) buffered (.pause :: rest) ↔ Served (size :: sizes) buffered rest := by
  have waiting (j : Nat) : ¬ ((size :: sizes).take (j + 1)).sum - buffered = 0 := by
    simp only [List.take_succ_cons, List.sum_cons]
    omega
  simp only [Served, pausesAfter, waiting, if_false, Nat.zero_add]

/-- A pause that finds the first item whole serves it, and the others need what
they needed before. -/
theorem served_pause_whole {size buffered : Nat} {sizes : List Nat} {rest : List Arrival}
    (whole : size ≤ buffered) :
    Served (size :: sizes) buffered (.pause :: rest) ↔ Served sizes (buffered - size) rest := by
  have shift (j : Nat) : ((size :: sizes).take (j + 1)).sum - buffered =
      (sizes.take j).sum - (buffered - size) := by
    simp only [List.take_succ_cons, List.sum_cons]
    omega
  have first : (sizes.take 0).sum - (buffered - size) = 0 := by simp
  simp only [Served, pausesAfter, shift, List.length_cons]
  constructor
  · intro served j within
    have head := served 0 (by omega)
    have here := served (j + 1) (by omega)
    rw [first] at head
    by_cases arrived : (sizes.take (j + 1)).sum - (buffered - size) = 0
    · -- The item is whole already, so it waits as long as the first one did.
      rw [arrived]
      simp only [if_true] at head
      omega
    · simp only [arrived, if_false] at here
      omega
  · intro served j within
    cases j with
    | zero =>
        rw [first]
        simp only [if_true]
        cases sizes with
        | nil => simp
        | cons next others =>
            have here := served 0 (by simp)
            have more := pausesAfter_antitone
              (Nat.zero_le (((next :: others).take (0 + 1)).sum - (buffered - size))) rest
            simp only [List.length_cons] at here ⊢
            omega
    | succ j =>
        have here := served j (by omega)
        omega

/-- Everything is taken exactly when every item finds, after its last unit, a
pause for itself and one for each item behind it. -/
theorem leftover_eq_nil_iff (arrivals : List Arrival) (sizes : List Nat) (buffered : Nat) :
    leftover arrivals sizes buffered = [] ↔ Served sizes buffered arrivals := by
  induction arrivals generalizing sizes buffered with
  | nil =>
      cases sizes with
      | nil => simp [leftover, Served]
      | cons size sizes =>
          constructor
          · intro impossible
            cases impossible
          · intro served
            have head := served 0 (by simp)
            simp [pausesAfter] at head
  | cons arrival rest inductionHypothesis =>
      cases arrival with
      | units count =>
          rw [served_units]
          exact inductionHypothesis sizes (buffered + count)
      | pause =>
          cases sizes with
          | nil =>
              have nothing : Served [] buffered (.pause :: rest) ↔ Served [] buffered rest := by
                simp [Served]
              rw [nothing]
              exact inductionHypothesis [] buffered
          | cons size sizes =>
              simp only [leftover]
              by_cases whole : size ≤ buffered
              · rw [if_pos whole, served_pause_whole whole]
                exact inductionHypothesis sizes (buffered - size)
              · rw [if_neg whole, served_pause_short (Nat.lt_of_not_le whole)]
                exact inductionHypothesis (size :: sizes) buffered

end Gemini.Data.Delivery
