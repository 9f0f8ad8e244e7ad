import Mathlib.Data.List.Sort

/-!
# Nested blocks

A block goes from the place that opens it to the place that closes it, and of two blocks one is
inside the other or they are apart. The blocks around a place are kept on a stack while a point moves
from place to place: a block is pushed where it opens, popped where it is left, and dropped later if
the point has jumped out of it. `Fits` is what the stack keeps, and the blocks of the stack that hold
the point are then all blocks that do.
-/

namespace Gemini.Data

/-- The place where a block opens and the place where it closes. -/
abbrev Block := ℕ × ℕ

/-- The block goes on at the place. -/
def Block.Holds (block : Block) (place : ℕ) : Prop := block.1 < place ∧ place ≤ block.2

instance (block : Block) (place : ℕ) : Decidable (block.Holds place) :=
  inferInstanceAs (Decidable (_ ∧ _))

/-- Where the block that a place opens is closed; blocks do not cross. -/
structure Nesting (close : ℕ → Option ℕ) : Prop where
  later : ∀ {first last}, close first = some last → first < last
  nested : ∀ {first last first' last'}, close first = some last → close first' = some last' →
    first < first' → first' < last → last' < last
  apart : ∀ {first last}, close first = some last → close last = none

/-- The blocks around a place, outermost first. -/
def enclosing (close : ℕ → Option ℕ) (place : ℕ) : List Block :=
  (List.range place).filterMap fun first =>
    ((close first).filter fun last => place ≤ last).map fun last => (first, last)

/-- A stack of blocks, innermost first, that has those around a place. -/
structure Fits (close : ℕ → Option ℕ) (place : ℕ) (stack : List Block) : Prop where
  descending : stack.Pairwise fun inner outer => outer.1 < inner.1
  blocks : ∀ block ∈ stack, close block.1 = some block.2
  complete : ∀ block : Block, close block.1 = some block.2 → block.Holds place → block ∈ stack

variable {close : ℕ → Option ℕ} {place target first last : ℕ} {stack outer : List Block}
  {block : Block}

/-- The blocks around a place are those that hold it. -/
theorem mem_enclosing :
    block ∈ enclosing close place ↔ close block.1 = some block.2 ∧ block.Holds place := by
  obtain ⟨first, last⟩ := block
  constructor
  · intro member
    obtain ⟨first', inRange, found⟩ := List.mem_filterMap.mp member
    obtain ⟨last', within, same⟩ := Option.map_eq_some_iff.mp found
    cases same
    obtain ⟨closes, within⟩ := Option.filter_eq_some_iff.mp within
    exact ⟨closes, List.mem_range.mp inRange, of_decide_eq_true within⟩
  · rintro ⟨closes, before, within⟩
    refine List.mem_filterMap.mpr ⟨first, List.mem_range.mpr before, ?_⟩
    have kept : (some last).filter (fun last => decide (place ≤ last)) = some last :=
      Option.filter_eq_some_iff.mpr ⟨rfl, decide_eq_true within⟩
    dsimp only at closes
    rw [closes, kept]
    rfl

/-- An outer block opens before an inner one. -/
theorem enclosing_ascending (close : ℕ → Option ℕ) (place : ℕ) :
    (enclosing close place).Pairwise fun outer inner => outer.1 < inner.1 := by
  refine List.Pairwise.filterMap _ (fun first first' ascends => ?_) List.pairwise_lt_range
  rintro block found block' found'
  obtain ⟨last, -, rfl⟩ := Option.map_eq_some_iff.mp found
  obtain ⟨last', -, rfl⟩ := Option.map_eq_some_iff.mp found'
  exact ascends

namespace Fits

/-- At the first place there are no blocks around. -/
theorem empty : Fits close 0 [] where
  descending := .nil
  blocks := List.forall_mem_nil _
  complete := fun _ _ holds => absurd holds.1 (Nat.not_lt_zero _)

/-- The point moves without entering a block. -/
theorem moves (fits : Fits close place stack)
    (enters : ∀ block : Block, close block.1 = some block.2 → block.Holds target →
      block.Holds place) : Fits close target stack where
  descending := fits.descending
  blocks := fits.blocks
  complete := fun block closes holds => fits.complete block closes (enters block closes holds)

/-- The blocks that the point has left are dropped. -/
theorem sync (fits : Fits close place stack) :
    Fits close place (stack.filter fun block => block.Holds place) where
  descending := fits.descending.filter _
  blocks := fun block member => fits.blocks block (List.mem_of_mem_filter member)
  complete := fun block closes holds =>
    List.mem_filter.mpr ⟨fits.complete block closes holds, decide_eq_true holds⟩

/-- What is left is the blocks around the place. -/
theorem sync_eq (fits : Fits close place stack) :
    (stack.filter fun block => block.Holds place).reverse = enclosing close place := by
  have ascending : (stack.filter fun block => block.Holds place).reverse.Pairwise
      fun outer inner => outer.1 < inner.1 := by
    rw [List.pairwise_reverse]
    exact fits.sync.descending
  have : Std.Irrefl fun outer inner : Block => outer.1 < inner.1 := ⟨fun _ => Nat.lt_irrefl _⟩
  have : Std.Asymm fun outer inner : Block => outer.1 < inner.1 := ⟨fun _ _ => Nat.lt_asymm⟩
  refine ascending.eq_of_mem_iff (enclosing_ascending close place) fun block => ?_
  rw [List.mem_reverse, List.mem_filter, mem_enclosing, decide_eq_true_iff]
  constructor
  · rintro ⟨member, holds⟩
    exact ⟨fits.blocks block member, holds⟩
  · rintro ⟨closes, holds⟩
    exact ⟨fits.complete block closes holds, holds⟩

/-- The next place enters a block only where one opens. -/
theorem next (fits : Fits close place stack) (opens : close place = none) :
    Fits close (place + 1) stack := by
  refine fits.moves fun block closes holds => ⟨?_, by have := holds.2; omega⟩
  refine lt_of_le_of_ne (Nat.le_of_lt_succ holds.1) fun same => ?_
  rw [same, opens] at closes
  cases closes

/-- The point enters the block that opens at its place. -/
theorem push (fits : Fits close place stack) (opens : close place = some last)
    (inside : ∀ block ∈ stack, block.1 < place) :
    Fits close (place + 1) ((place, last) :: stack) where
  descending := List.pairwise_cons.mpr ⟨inside, fits.descending⟩
  blocks := List.forall_mem_cons.mpr ⟨opens, fits.blocks⟩
  complete := by
    intro block closes holds
    by_cases same : block.1 = place
    · obtain ⟨first, last'⟩ := block
      dsimp only at same closes
      rw [same, opens] at closes
      cases closes
      rw [same]
      exact List.mem_cons_self
    · have before : block.1 < place := lt_of_le_of_ne (Nat.le_of_lt_succ holds.1) same
      have within := holds.2
      exact List.mem_cons_of_mem _ (fits.complete block closes ⟨before, by omega⟩)

/-- Back from the end of a block to its start the point enters no block. -/
theorem goesBack (nesting : Nesting close) (fits : Fits close place stack)
    (closes : close first = some place) : Fits close (first + 1) stack := by
  have later := nesting.later closes
  refine fits.moves fun block isBlock holds => ?_
  obtain ⟨starts, goesOn⟩ := holds
  by_cases same : block.1 = first
  · rw [same, closes] at isBlock
    have ends := Option.some.inj isBlock
    exact ⟨by omega, by omega⟩
  · have before : block.1 < first := by omega
    have ends := nesting.nested isBlock closes before (by omega)
    exact ⟨by omega, by omega⟩

/-- Behind the innermost block the point is in the others only. -/
theorem pop (nesting : Nesting close) (fits : Fits close place (block :: outer))
    (holds : block.Holds place) : Fits close (block.2 + 1) outer where
  descending := (List.pairwise_cons.mp fits.descending).2
  blocks := fun other member => fits.blocks other (List.mem_cons_of_mem _ member)
  complete := by
    intro other isBlock goesOn
    have closes := fits.blocks block List.mem_cons_self
    have notClosed : other.1 ≠ block.2 := by
      intro same
      rw [same, nesting.apart closes] at isBlock
      cases isBlock
    obtain ⟨starts, ends⟩ := goesOn
    obtain ⟨entered, within⟩ := holds
    have before : other.1 < block.1 := by
      rcases Nat.lt_trichotomy other.1 block.1 with before | same | after
      · exact before
      · rw [same, closes] at isBlock
        have ends' := Option.some.inj isBlock
        omega
      · have ends' := nesting.nested closes isBlock after (by omega)
        omega
    have member := fits.complete other isBlock ⟨by omega, by omega⟩
    rcases List.mem_cons.mp member with rfl | member
    · exact absurd before (Nat.lt_irrefl _)
    · exact member

end Fits

end Gemini.Data
