import Mathlib.Data.List.Basic
import Mathlib.Data.List.Chain
import Mathlib.Data.List.TakeWhile

/-!
# Words and the gaps between them

A text is taken apart into words at its blanks, and words are joined with one gap between
two of them. A text comes back from its words exactly when it is single-spaced. `squeezed`
keeps the blanks at the ends: it replaces every run of blanks by one gap.
-/

namespace Gemini.Data

variable {Item : Type} (blank : Item → Bool) (gap : Item)

/-- The text is at its end or begins with a blank. -/
def atGap (text : List Item) : Bool := text.head?.all blank

/-- The words of a text: what stands between blanks. -/
def words : List Item → List (List Item)
  | [] => []
  | item :: rest =>
      if blank item then words rest
      else if atGap blank rest then [item] :: words rest
      else
        match words rest with
        | [] => [[item]]
        | word :: others => (item :: word) :: others

/-- Texts with a gap between two of them. -/
def joined (texts : List (List Item)) : List Item := [gap].intercalate texts

/-- The words of a text with one gap between two of them. -/
def respaced (text : List Item) : List Item := joined gap (words blank text)

/-- Every run of blanks is one gap. -/
def squeezed : List Item → List Item
  | [] => []
  | item :: rest =>
      if blank item then
        if rest ≠ [] && atGap blank rest then squeezed rest else gap :: squeezed rest
      else item :: squeezed rest

/-- The only blanks are gaps, and no two of them are neighbours. -/
structure SingleGaps (text : List Item) : Prop where
  gaps : ∀ item ∈ text, blank item = true → item = gap
  apart : text.IsChain fun first second => ¬ (blank first = true ∧ blank second = true)

/-- Single gaps between words, and no blank before or after them. -/
structure SingleSpaced (text : List Item) : Prop extends SingleGaps blank gap text where
  starts : ∀ item, text.head? = some item → blank item = false
  ends : ∀ item, text.getLast? = some item → blank item = false

variable {blank gap}

/-! ## Words -/

section Words

variable {item : Item} {rest text : List Item}

/-- A blank in front is no part of a word. -/
theorem words_cons_blank (isBlank : blank item = true) :
    words blank (item :: rest) = words blank rest := by
  rw [words, if_pos isBlank]

/-- A letter before a gap is a word. -/
theorem words_cons_last (letter : blank item = false) (ends : atGap blank rest = true) :
    words blank (item :: rest) = [item] :: words blank rest := by
  rw [words, if_neg (by simp [letter]), if_pos ends]

/-- A text that does not begin with a blank begins with a word. -/
theorem words_eq_cons (letter : blank item = false) :
    ∃ word others, words blank (item :: rest) = (item :: word) :: others := by
  rw [words, if_neg (by simp [letter])]
  split
  · exact ⟨[], _, rfl⟩
  · cases words blank rest with
    | nil => exact ⟨[], [], rfl⟩
    | cons word others => exact ⟨word, others, rfl⟩

/-- A letter before a letter is in its word. -/
theorem words_cons_letter (letter : blank item = false) (goesOn : atGap blank rest = false)
    {word : List Item} {others : List (List Item)} (known : words blank rest = word :: others) :
    words blank (item :: rest) = (item :: word) :: others := by
  rw [words, if_neg (by simp [letter]), if_neg (by simp [goesOn]), known]

/-- What goes on is a word. -/
theorem words_of_goesOn (goesOn : atGap blank rest = false) :
    ∃ word others, words blank rest = word :: others := by
  cases rest with
  | nil => cases goesOn
  | cons next more =>
      have letter : blank next = false := by simpa [atGap] using goesOn
      obtain ⟨word, others, known⟩ := @words_eq_cons _ blank next more letter
      exact ⟨_, _, known⟩

/-- A word is not empty and has no blank. -/
theorem mem_words {word : List Item} (member : word ∈ words blank text) :
    word ≠ [] ∧ ∀ letter ∈ word, blank letter = false := by
  induction text generalizing word with
  | nil => cases member
  | cons item rest inductionHypothesis =>
      cases letter : blank item with
      | true =>
          rw [words_cons_blank letter] at member
          exact inductionHypothesis member
      | false =>
          cases gapNext : atGap blank rest with
          | true =>
              rw [words_cons_last letter gapNext] at member
              rcases List.mem_cons.mp member with rfl | later
              · simpa using letter
              · exact inductionHypothesis later
          | false =>
              obtain ⟨first, others, known⟩ := words_of_goesOn gapNext
              rw [words_cons_letter letter gapNext known] at member
              rw [known] at inductionHypothesis
              rcases List.mem_cons.mp member with rfl | later
              · have letters := (inductionHypothesis List.mem_cons_self).2
                exact ⟨List.cons_ne_nil _ _, List.forall_mem_cons.mpr ⟨letter, letters⟩⟩
              · exact inductionHypothesis (List.mem_cons_of_mem _ later)

/-- The first word of a text is what stands before the first gap. -/
theorem words_append {word : List Item} (notEmpty : word ≠ [])
    (letters : ∀ letter ∈ word, blank letter = false) (ends : atGap blank rest = true) :
    words blank (word ++ rest) = word :: words blank rest := by
  induction word with
  | nil => exact absurd rfl notEmpty
  | cons letter others inductionHypothesis =>
      obtain ⟨isLetter, letters⟩ := List.forall_mem_cons.mp letters
      cases others with
      | nil => exact words_cons_last isLetter ends
      | cons next more =>
          have goesOn : atGap blank (next :: more ++ rest) = false := by
            simpa [atGap] using letters next List.mem_cons_self
          exact words_cons_letter isLetter goesOn
            (inductionHypothesis (List.cons_ne_nil _ _) letters)

/-- What follows a word is at a gap. -/
theorem atGap_dropWhile (text : List Item) :
    atGap blank (text.dropWhile fun item => !blank item) = true := by
  have stopped := List.head?_dropWhile_not (fun item => !blank item) text
  unfold atGap
  cases after : (text.dropWhile fun item => !blank item).head? with
  | none => rfl
  | some next =>
      rw [after] at stopped
      simpa using stopped

/-- The first word of a text, and the text after it. -/
theorem words_eq (text : List Item) :
    words blank text =
      match text.dropWhile blank with
      | [] => []
      | item :: rest => (item :: rest).takeWhile (fun other => !blank other) ::
          words blank ((item :: rest).dropWhile fun other => !blank other) := by
  induction text with
  | nil => rfl
  | cons item rest inductionHypothesis =>
      cases letter : blank item with
      | true =>
          rw [words_cons_blank letter, List.dropWhile_cons_of_pos letter]
          exact inductionHypothesis
      | false =>
          rw [List.dropWhile_cons_of_neg (by simp [letter])]
          dsimp only
          have notEmpty : (item :: rest).takeWhile (fun other => !blank other) ≠ [] := by
            simp [letter]
          have letters : ∀ other ∈ (item :: rest).takeWhile (fun other => !blank other),
              blank other = false := by
            intro other member
            simpa using List.mem_takeWhile_imp member
          rw [← words_append notEmpty letters (atGap_dropWhile _), List.takeWhile_append_dropWhile]

/-- Words that are joined and taken apart again are the same. -/
theorem words_joined (gapBlank : blank gap = true) {texts : List (List Item)}
    (clean : ∀ text ∈ texts, text ≠ [] ∧ ∀ letter ∈ text, blank letter = false) :
    words blank (joined gap texts) = texts := by
  induction texts with
  | nil => rfl
  | cons text others inductionHypothesis =>
      obtain ⟨⟨notEmpty, letters⟩, clean⟩ := List.forall_mem_cons.mp clean
      cases others with
      | nil =>
          have single := @words_append _ blank [] text notEmpty letters rfl
          rw [List.append_nil] at single
          rw [joined, List.intercalate_singleton, single]
          rfl
      | cons next more =>
          have split : joined gap (text :: next :: more) =
              text ++ gap :: joined gap (next :: more) := by
            rw [joined, List.intercalate_cons_of_ne_nil (List.cons_ne_nil _ _)]
            simp [joined]
          rw [split, words_append notEmpty letters (by simpa [atGap] using gapBlank),
            words_cons_blank gapBlank, inductionHypothesis clean]

end Words

/-! ## Respacing -/

section Respaced

variable {item : Item} {rest text : List Item}

/-- A letter in front is a letter of the first word. -/
theorem joined_cons_cons (word : List Item) (others : List (List Item)) :
    joined gap ((item :: word) :: others) = item :: joined gap (word :: others) := by
  cases others with
  | nil => simp [joined]
  | cons next more =>
      simp only [joined]
      rw [List.intercalate_cons_of_ne_nil (List.cons_ne_nil _ _),
        List.intercalate_cons_of_ne_nil (List.cons_ne_nil _ _)]
      rfl

/-- A blank in front is left out. -/
theorem respaced_cons_blank (isBlank : blank item = true) :
    respaced blank gap (item :: rest) = respaced blank gap rest := by
  rw [respaced, words_cons_blank isBlank, respaced]

/-- A letter inside a word is kept. -/
theorem respaced_cons_letter (letter : blank item = false) (goesOn : atGap blank rest = false) :
    respaced blank gap (item :: rest) = item :: respaced blank gap rest := by
  obtain ⟨word, others, known⟩ := words_of_goesOn goesOn
  rw [respaced, words_cons_letter letter goesOn known, joined_cons_cons, respaced, known]

/-- The last letter of a word has one gap behind it, if another word follows. -/
theorem respaced_cons_last (letter : blank item = false) (ends : atGap blank rest = true) :
    respaced blank gap (item :: rest) =
      if words blank rest = [] then [item] else item :: gap :: respaced blank gap rest := by
  rw [respaced, words_cons_last letter ends]
  split
  · next none => rw [none, joined, List.intercalate_singleton]
  · next some =>
      rw [joined, List.intercalate_cons_of_ne_nil some]
      rfl

/-- Squeezing leaves what respacing leaves, with gaps around it. -/
theorem squeezed_eq_append (text : List Item) : ∃ before after,
    squeezed blank gap text = before ++ respaced blank gap text ++ after ∧
      (∀ item ∈ before, item = gap) ∧ (∀ item ∈ after, item = gap) ∧
      (atGap blank text = false → before = []) ∧
      (atGap blank text = true → words blank text ≠ [] → before = [gap]) := by
  induction text with
  | nil => exact ⟨[], [], rfl, nofun, nofun, nofun, fun _ some => absurd rfl some⟩
  | cons item rest inductionHypothesis =>
      obtain ⟨before, after, squeezes, gapsBefore, gapsAfter, letterFirst, gapFirst⟩ :=
        inductionHypothesis
      cases letter : blank item with
      | true =>
          have atGapHere : atGap blank (item :: rest) = true := by simpa [atGap] using letter
          rw [squeezed, if_pos letter, respaced_cons_blank letter, words_cons_blank letter,
            atGapHere]
          by_cases more : (rest ≠ [] && atGap blank rest) = true
          · rw [if_pos more]
            have gapNext := (Bool.and_eq_true_iff.mp more).2
            exact ⟨before, after, squeezes, gapsBefore, gapsAfter, nofun,
              fun _ some => gapFirst gapNext some⟩
          · rw [if_neg more, squeezes]
            refine ⟨gap :: before, after, by simp, ?_, gapsAfter, nofun, fun _ some => ?_⟩
            · exact List.forall_mem_cons.mpr ⟨rfl, gapsBefore⟩
            · have goesOn : atGap blank rest = false := by
                cases rest with
                | nil => exact absurd rfl some
                | cons next others => simpa using more
              rw [letterFirst goesOn]
      | false =>
          have atGapHere : atGap blank (item :: rest) = false := by simpa [atGap] using letter
          rw [squeezed, if_neg (by simp [letter]), squeezes, atGapHere]
          cases gapNext : atGap blank rest with
          | false =>
              rw [letterFirst gapNext, respaced_cons_letter letter gapNext]
              exact ⟨[], after, by simp, nofun, gapsAfter, fun _ => rfl, nofun⟩
          | true =>
              rw [respaced_cons_last letter gapNext]
              split
              · next none =>
                  refine ⟨[], before ++ after, ?_, nofun, ?_, fun _ => rfl, nofun⟩
                  · simp [respaced, none, joined]
                  · intro other member
                    exact (List.mem_append.mp member).elim (gapsBefore other) (gapsAfter other)
              · next some =>
                  rw [gapFirst gapNext some]
                  exact ⟨[], after, by simp, nofun, gapsAfter, fun _ => rfl, nofun⟩

/-- Squeezing makes no text longer. -/
theorem length_squeezed_le (text : List Item) :
    (squeezed blank gap text).length ≤ text.length := by
  induction text with
  | nil => exact Nat.le_refl _
  | cons item rest inductionHypothesis =>
      rw [squeezed, List.length_cons]
      split
      · split
        · omega
        · rw [List.length_cons]
          omega
      · rw [List.length_cons]
        omega

/-- Nor does respacing. -/
theorem length_respaced_le (text : List Item) :
    (respaced blank gap text).length ≤ text.length := by
  obtain ⟨before, after, squeezes, -⟩ := @squeezed_eq_append _ blank gap text
  have shorter := @length_squeezed_le _ blank gap text
  rw [squeezes, List.length_append, List.length_append] at shorter
  omega

/-- Gaps are single when the first one is and the others are. -/
theorem singleGaps_cons_iff :
    SingleGaps blank gap (item :: rest) ↔
      (blank item = true → item = gap ∧ ¬ (rest ≠ [] && atGap blank rest) = true) ∧
        SingleGaps blank gap rest := by
  have neighbours : (∀ next ∈ rest.head?, ¬ (blank item = true ∧ blank next = true)) ↔
      (blank item = true → ¬ (rest ≠ [] && atGap blank rest) = true) := by
    cases rest with
    | nil => simp
    | cons next more => simp [atGap]
  constructor
  · rintro ⟨gaps, apart⟩
    obtain ⟨first, apart⟩ := List.isChain_cons.mp apart
    obtain ⟨here, gaps⟩ := List.forall_mem_cons.mp gaps
    exact ⟨fun isBlank => ⟨here isBlank, neighbours.mp first isBlank⟩, gaps, apart⟩
  · rintro ⟨first, gaps, apart⟩
    refine ⟨List.forall_mem_cons.mpr ⟨fun isBlank => (first isBlank).1, gaps⟩, ?_⟩
    exact List.isChain_cons.mpr ⟨neighbours.mpr fun isBlank => (first isBlank).2, apart⟩

/-- Squeezing leaves a text as it is exactly when it has single gaps. -/
theorem squeezed_eq_self_iff (text : List Item) :
    squeezed blank gap text = text ↔ SingleGaps blank gap text := by
  induction text with
  | nil => exact iff_of_true rfl ⟨nofun, .nil⟩
  | cons item rest inductionHypothesis =>
      rw [squeezed, singleGaps_cons_iff, ← inductionHypothesis]
      cases letter : blank item with
      | false => simp
      | true =>
          by_cases more : (rest ≠ [] && atGap blank rest) = true
          · have shorter := @length_squeezed_le _ blank gap rest
            refine iff_of_false (fun same => ?_) fun both => (both.1 rfl).2 more
            rw [if_pos rfl, if_pos more] at same
            rw [same, List.length_cons] at shorter
            omega
          · rw [if_pos rfl, if_neg more, List.cons_eq_cons]
            constructor
            · rintro ⟨here, later⟩
              exact ⟨fun _ => ⟨here.symm, more⟩, later⟩
            · rintro ⟨here, later⟩
              exact ⟨(here rfl).1.symm, later⟩

/-- What is joined ends with the last of the texts. -/
theorem joined_append_singleton (texts : List (List Item)) (last : List Item) :
    ∃ front, joined gap (texts ++ [last]) = front ++ last := by
  induction texts with
  | nil => exact ⟨[], by simp [joined]⟩
  | cons text others inductionHypothesis =>
      obtain ⟨front, ends⟩ := inductionHypothesis
      refine ⟨text ++ gap :: front, ?_⟩
      rw [joined] at ends
      rw [List.cons_append, joined, List.intercalate_cons_of_ne_nil (by simp), ends]
      simp

/-- A respaced text ends with a letter. -/
theorem getLast_respaced {item : Item} (last : (respaced blank gap text).getLast? = some item) :
    blank item = false := by
  rcases List.eq_nil_or_concat (words blank text) with none | ⟨others, word, known⟩
  · rw [respaced, none] at last
    cases last
  · obtain ⟨notEmpty, letters⟩ : word ≠ [] ∧ ∀ letter ∈ word, blank letter = false :=
      @mem_words _ blank text word (by simp [known])
    obtain ⟨front, ends⟩ := @joined_append_singleton _ gap others word
    rw [respaced, known, List.concat_eq_append, ends, List.getLast?_append_of_ne_nil _ notEmpty] at last
    exact letters item (List.mem_of_getLast? last)

/-- A text comes back from its words exactly when it is single-spaced. -/
theorem respaced_eq_self_iff (gapBlank : blank gap = true) (text : List Item) :
    respaced blank gap text = text ↔ SingleSpaced blank gap text := by
  obtain ⟨before, after, squeezes, -, gapsAfter, letterFirst, -⟩ :=
    @squeezed_eq_append _ blank gap text
  have shorter := @length_squeezed_le _ blank gap text
  constructor
  · intro same
    rw [same] at squeezes
    have lengths := congrArg List.length squeezes
    rw [List.length_append, List.length_append] at lengths
    have noneBefore : before = [] := List.eq_nil_of_length_eq_zero (by omega)
    have noneAfter : after = [] := List.eq_nil_of_length_eq_zero (by omega)
    rw [noneBefore, noneAfter, List.nil_append, List.append_nil] at squeezes
    refine ⟨(squeezed_eq_self_iff text).mp squeezes, ?_, ?_⟩
    · intro item first
      cases text with
      | nil => cases first
      | cons head rest =>
          obtain rfl : head = item := by simpa using first
          by_contra isBlank
          have isBlank : blank head = true := by simpa using isBlank
          have lessThan := @length_respaced_le _ blank gap rest
          rw [← respaced_cons_blank isBlank, same, List.length_cons] at lessThan
          omega
    · intro item last
      rw [← same] at last
      exact getLast_respaced last
  · intro spaced
    rw [(squeezed_eq_self_iff text).mpr spaced.toSingleGaps] at squeezes
    cases text with
    | nil => rfl
    | cons head rest =>
        have goesOn : atGap blank (head :: rest) = false := by
          simpa [atGap] using spaced.starts head rfl
        rw [letterFirst goesOn, List.nil_append] at squeezes
        rcases List.eq_nil_or_concat after with none | ⟨others, item, known⟩
        · rw [none, List.append_nil] at squeezes
          exact squeezes.symm
        · have isGap : item = gap := gapsAfter item (by simp [known])
          have last := spaced.ends item (by rw [squeezes, known]; simp)
          rw [isGap, gapBlank] at last
          cases last

/-- Squeezing respects what is not blank. -/
theorem squeezed_append_letter {separator : Item} (letter : blank separator = false)
    (front rest : List Item) :
    squeezed blank gap (front ++ separator :: rest) =
      squeezed blank gap front ++ separator :: squeezed blank gap rest := by
  induction front with
  | nil => simp [squeezed, letter]
  | cons item others inductionHypothesis =>
      have sameGap : (others ++ separator :: rest ≠ [] &&
          atGap blank (others ++ separator :: rest)) = (others ≠ [] && atGap blank others) := by
        cases others with
        | nil => simp [atGap, letter]
        | cons next more => simp [atGap]
      rw [List.cons_append, squeezed, squeezed, inductionHypothesis, sameGap]
      split
      · split <;> rfl
      · rfl

end Respaced

end Gemini.Data
