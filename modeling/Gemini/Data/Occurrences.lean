import Mathlib.Algebra.Ring.Nat
import Mathlib.Data.List.Infix
import Mathlib.Data.Nat.Count
import Mathlib.Order.Bounds.Basic

/-!
# Occurrences of a text in another

A needle stands at some positions of a text, which may overlap. A search from a position finds the
least of them that is not before it. A text cut at each occurrence after the previous cut is the
list of pieces between them.
-/

namespace Gemini.Data

variable {Item : Type} {needle text : List Item} {start position : Nat}

/-- The needle stands in the text at a position. -/
def OccursAt (needle text : List Item) (position : Nat) : Prop := needle <+: text.drop position

instance [DecidableEq Item] (needle text : List Item) : DecidablePred (OccursAt needle text) :=
  fun position => inferInstanceAs (Decidable (needle <+: text.drop position))

/-- The positions of the needle that a search from a position can find. -/
def OccursFrom (needle text : List Item) (start : Nat) : Set Nat :=
  {position | start ≤ position ∧ OccursAt needle text position}

/-- An occurrence starts inside the text. -/
theorem OccursAt.lt_length (notEmpty : needle ≠ []) (occurs : OccursAt needle text position) :
    position < text.length := by
  have fits := List.IsPrefix.length_le occurs
  have letters := List.length_pos_iff.mpr notEmpty
  rw [List.length_drop] at fits
  omega

/-- The text from an occurrence on is the needle and what follows it. -/
theorem OccursAt.drop_eq (occurs : OccursAt needle text position) :
    text.drop position = needle ++ text.drop (position + needle.length) := by
  obtain ⟨rest, isText⟩ := occurs
  rw [← isText, ← List.drop_drop, ← isText, List.drop_left]

section Search

variable [DecidableEq Item]

/-- The first position of the needle that is not before `start`. -/
def findFrom (needle text : List Item) (start : Nat) : Option Nat :=
  (List.range' start (text.length - start)).find? fun position =>
    decide (OccursAt needle text position)

/-- Nothing is found where there is no occurrence. -/
theorem findFrom_eq_none (notEmpty : needle ≠ []) :
    findFrom needle text start = none ↔ ∀ position, start ≤ position →
      ¬ OccursAt needle text position := by
  rw [findFrom, List.find?_eq_none]
  constructor
  · intro absent position after occurs
    have inside := occurs.lt_length notEmpty
    have member : position ∈ List.range' start (text.length - start) := by
      rw [List.mem_range'_1]
      omega
    exact absent position member (decide_eq_true occurs)
  · intro absent position member occurs
    exact absent position (List.mem_range'_1.mp member).1 (of_decide_eq_true occurs)

/-- The first occurrence is found. -/
theorem findFrom_eq_some (notEmpty : needle ≠ []) :
    findFrom needle text start = some position ↔
      IsLeast (OccursFrom needle text start) position := by
  rw [findFrom, List.find?_range'_eq_some]
  constructor
  · rintro ⟨occurs, member, before⟩
    rw [List.mem_range'_1] at member
    refine ⟨⟨member.1, of_decide_eq_true occurs⟩, fun other ⟨after, otherOccurs⟩ => ?_⟩
    by_contra less
    have absent := before other after (not_le.mp less)
    simp [otherOccurs] at absent
  · rintro ⟨⟨after, occurs⟩, least⟩
    have inside := occurs.lt_length notEmpty
    refine ⟨decide_eq_true occurs, List.mem_range'_1.mpr (by omega), ?_⟩
    intro other otherAfter less
    have absent : ¬ OccursAt needle text other := fun otherOccurs =>
      absurd (least ⟨otherAfter, otherOccurs⟩) (not_le.mpr less)
    simp [absent]

/-- The count stays where there is no occurrence. -/
theorem count_eq_of_absent {stop : Nat} (after : start ≤ stop) (absent : ∀ position,
    start ≤ position → position < stop → ¬ OccursAt needle text position) :
    Nat.count (OccursAt needle text) stop = Nat.count (OccursAt needle text) start := by
  obtain ⟨gap, rfl⟩ := Nat.exists_eq_add_of_le after
  rw [Nat.count_add, Nat.add_eq_left, Nat.count_iff_forall_not]
  exact fun other less => absent _ (Nat.le_add_right start other) (by omega)

/-- No position between the start of a search and what it finds counts. -/
theorem count_of_isLeast (found : IsLeast (OccursFrom needle text start) position) :
    Nat.count (OccursAt needle text) position = Nat.count (OccursAt needle text) start :=
  count_eq_of_absent found.1.1 fun _ after less occurs =>
    absurd (found.2 ⟨after, occurs⟩) (not_le.mpr less)

/-- No count is above that of the whole text. -/
theorem count_le_count_length (notEmpty : needle ≠ []) (position : Nat) :
    Nat.count (OccursAt needle text) position ≤ Nat.count (OccursAt needle text) text.length := by
  rcases Nat.le_total position text.length with short | long
  · exact Nat.count_monotone _ short
  · exact (count_eq_of_absent long fun _ after _ occurs =>
      absurd (occurs.lt_length notEmpty) (not_lt.mpr after)).le

/-- A search that finds nothing has every position before it. -/
theorem count_length_of_findFrom_eq_none (notEmpty : needle ≠ [])
    (absent : findFrom needle text start = none) :
    Nat.count (OccursAt needle text) text.length = Nat.count (OccursAt needle text) start := by
  rw [findFrom_eq_none notEmpty] at absent
  refine le_antisymm ?_ (count_le_count_length notEmpty start)
  rcases Nat.le_total start text.length with short | long
  · exact (count_eq_of_absent short fun position after _ => absent position after).le
  · exact Nat.count_monotone _ long

end Search

/-! ## Pieces -/

/-- Where a piece starts when each piece before it is followed by a separator. -/
def pieceStart (needle : List Item) (start : Nat) (pieces : List (List Item)) (index : Nat) : Nat :=
  start + ((pieces.take index).map fun piece => piece.length + needle.length).sum

/-- The pieces of a text from a position on. -/
structure Pieces (needle text : List Item) (start : Nat) (pieces : List (List Item)) : Prop where
  joined : needle.intercalate pieces = text.drop start
  separate : ∀ piece ∈ pieces, ¬ needle <:+: piece
  /-- Each cut is at the first occurrence after the previous cut. -/
  leftmost : ∀ index piece, index + 1 < pieces.length → pieces[index]? = some piece →
    IsLeast (OccursFrom needle text (pieceStart needle start pieces index))
      (pieceStart needle start pieces index + piece.length)

theorem pieceStart_zero (pieces : List (List Item)) :
    pieceStart needle start pieces 0 = start := by
  simp [pieceStart]

/-- A piece starts behind the separator that ends the one before it. -/
theorem pieceStart_succ (piece : List Item) (pieces : List (List Item)) (index : Nat) :
    pieceStart needle start (piece :: pieces) (index + 1) =
      pieceStart needle (start + piece.length + needle.length) pieces index := by
  simp only [pieceStart, List.take_succ_cons, List.map_cons, List.sum_cons]
  omega

/-- A needle inside the rest of a text stands there in the text. -/
theorem exists_occursAt_of_infix_drop (inside : needle <:+: text.drop start) :
    ∃ position, start ≤ position ∧ OccursAt needle text position := by
  obtain ⟨front, back, isText⟩ := inside
  refine ⟨start + front.length, Nat.le_add_right .., back, ?_⟩
  rw [← List.drop_drop, ← isText, List.append_assoc, List.drop_left]

/-- Without an occurrence the rest is one piece. -/
theorem pieces_of_absent (absent : ∀ position, start ≤ position →
    ¬ OccursAt needle text position) : Pieces needle text start [text.drop start] where
  joined := by simp [List.intercalate]
  separate := by
    intro piece member inside
    obtain rfl := List.mem_singleton.mp member
    obtain ⟨position, after, occurs⟩ := exists_occursAt_of_infix_drop inside
    exact absent position after occurs
  leftmost := by
    intro index piece last
    simp at last

/-- The first occurrence ends the first piece. -/
theorem pieces_cons (notEmpty : needle ≠ [])
    (found : IsLeast (OccursFrom needle text start) position) {pieces : List (List Item)}
    (rest : Pieces needle text (position + needle.length) pieces) (some : pieces ≠ []) :
    Pieces needle text start ((text.drop start).take (position - start) :: pieces) := by
  have after := found.1.1
  have inside := found.1.2.lt_length notEmpty
  have size : ((text.drop start).take (position - start)).length = position - start := by
    rw [List.length_take, List.length_drop]
    omega
  have cut : text.drop start = (text.drop start).take (position - start) ++ text.drop position := by
    conv_lhs => rw [← List.take_append_drop (position - start) (text.drop start)]
    rw [List.drop_drop, Nat.add_sub_cancel' after]
  refine ⟨?_, ?_, ?_⟩
  · obtain ⟨next, more, rfl⟩ := List.exists_cons_of_ne_nil some
    rw [List.intercalate_cons_cons, rest.joined, List.append_assoc, ← found.1.2.drop_eq]
    exact cut.symm
  · intro piece member
    rcases List.mem_cons.mp member with rfl | member
    · rintro ⟨front, back, isPiece⟩
      have sizes := congrArg List.length isPiece
      rw [size, List.length_append, List.length_append] at sizes
      have occurs : OccursAt needle text (start + front.length) := by
        refine ⟨back ++ text.drop position, ?_⟩
        rw [← List.drop_drop, cut, ← isPiece]
        simp
      have least := found.2 ⟨Nat.le_add_right .., occurs⟩
      have letters := List.length_pos_iff.mpr notEmpty
      omega
    · exact rest.separate piece member
  · intro index piece last isPiece
    cases index with
    | zero =>
        obtain rfl : _ = piece := Option.some.inj isPiece
        rw [pieceStart_zero, size, Nat.add_sub_cancel' after]
        exact found
    | succ index =>
        rw [pieceStart_succ, size, Nat.add_sub_cancel' after]
        refine rest.leftmost index piece ?_ isPiece
        simpa using last

end Gemini.Data
