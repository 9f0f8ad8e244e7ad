import Mathlib.Data.List.GetD

/-!
# Fields of a text

A text that is taken apart at a separator, and lists of fields that read as empty where they
have no field.
-/

namespace Gemini.Data

variable {Item : Type}

/-- A field has no separator in it. -/
theorem not_mem_of_mem_splitOn [DecidableEq Item] {separator : Item} {text field : List Item}
    (member : field ∈ text.splitOn separator) : separator ∉ field := by
  induction text generalizing field with
  | nil =>
      rw [List.splitOn_nil, List.mem_singleton] at member
      subst member
      exact List.not_mem_nil
  | cons letter rest inductionHypothesis =>
      rw [List.splitOn_cons_eq_if_modifyHead] at member
      split at member
      · rcases List.mem_cons.mp member with rfl | later
        · exact List.not_mem_nil
        · exact inductionHypothesis later
      · next different =>
          cases fields : rest.splitOn separator with
          | nil => exact absurd fields (List.splitOn_ne_nil separator rest)
          | cons first others =>
              rw [fields] at member inductionHypothesis
              rcases List.mem_cons.mp member with rfl | later
              · intro inField
                rcases List.mem_cons.mp inField with same | inFirst
                · exact different (by simp [same])
                · exact inductionHypothesis List.mem_cons_self inFirst
              · exact inductionHypothesis (List.mem_cons_of_mem _ later)

/-- An item of joined fields is a separator, or an item of a field. -/
theorem mem_intercalate {separator item : Item} {fields : List (List Item)}
    (member : item ∈ [separator].intercalate fields) :
    item = separator ∨ ∃ field ∈ fields, item ∈ field := by
  induction fields with
  | nil => cases member
  | cons first others inductionHypothesis =>
      by_cases last : others = []
      · subst last
        rw [List.intercalate_singleton] at member
        exact .inr ⟨first, List.mem_cons_self, member⟩
      · rw [List.intercalate_cons_of_ne_nil last] at member
        rcases List.mem_append.mp member with inFront | later
        · rcases List.mem_append.mp inFront with inFirst | same
          · exact .inr ⟨first, List.mem_cons_self, inFirst⟩
          · exact .inl (List.mem_singleton.mp same)
        · rcases inductionHypothesis later with same | ⟨field, inOthers, inField⟩
          · exact .inl same
          · exact .inr ⟨field, List.mem_cons_of_mem _ inOthers, inField⟩

/-- The items of the fields are in the joined text. -/
theorem mem_intercalate_of_mem {separator item : Item} {field : List Item}
    {fields : List (List Item)} (inFields : field ∈ fields) (inField : item ∈ field) :
    item ∈ [separator].intercalate fields := by
  induction fields with
  | nil => cases inFields
  | cons first others inductionHypothesis =>
      by_cases last : others = []
      · subst last
        rw [List.mem_singleton] at inFields
        rw [List.intercalate_singleton, ← inFields]
        exact inField
      · rw [List.intercalate_cons_of_ne_nil last]
        rcases List.mem_cons.mp inFields with rfl | later
        · exact List.mem_append_left _ (List.mem_append_left _ inField)
        · exact List.mem_append_right _ (inductionHypothesis later)

/-- What is in a field is in the text. -/
theorem mem_of_mem_splitOn [DecidableEq Item] {separator item : Item} {text field : List Item}
    (inFields : field ∈ text.splitOn separator) (inField : item ∈ field) : item ∈ text := by
  have joined : [separator].intercalate (text.splitOn separator) = text :=
    List.intercalate_splitOn separator
  rw [← joined]
  exact mem_intercalate_of_mem inFields inField

/-- A field that is replaced, or put after the last one when there is none of its place. -/
def putField (fields : List Item) (index : Nat) (field : Item) : List Item :=
  if index < fields.length then fields.set index field else fields ++ [field]

/-- A field that is put is there, and the others are as they were. -/
theorem getD_putField (fields : List Item) {index : Nat} (field absent : Item)
    (reachable : index ≤ fields.length) (other : Nat) :
    (putField fields index field).getD other absent =
      if other = index then field else fields.getD other absent := by
  unfold putField
  split
  · next inside =>
      by_cases same : other = index
      · subst same
        simp [inside]
      · rw [if_neg same, List.getD_eq_getElem?_getD, List.getElem?_set_ne (Ne.symm same),
          List.getD_eq_getElem?_getD]
  · have atEnd : index = fields.length := by omega
    subst atEnd
    by_cases same : other = fields.length
    · subst same
      simp
    · rw [if_neg same]
      rcases Nat.lt_or_gt_of_ne same with before | after
      · rw [List.getD_append _ _ _ _ before]
      · rw [List.getD_eq_default _ _ (by simp; omega), List.getD_eq_default _ _ (by omega)]

/-- A field that is put after the last one reads as absent everywhere if it is so itself. -/
theorem getD_putField_absent (fields : List Item) {index : Nat} (absent : Item)
    (beyond : fields.length ≤ index) (other : Nat) :
    (putField fields index absent).getD other absent = fields.getD other absent := by
  rw [putField, if_neg (by omega)]
  rcases Nat.lt_trichotomy other fields.length with before | rfl | after
  · rw [List.getD_append _ _ _ _ before]
  · simp
  · rw [List.getD_eq_default _ _ (by simp; omega), List.getD_eq_default _ _ (by omega)]

end Gemini.Data
