import Mathlib.Data.List.DropRight
import Gemini.Data.Words

/-!
# Cutting a text

A text is cut at the first or the last separator, or at the first word that is a keyword up to the
case of its letters. Each cut has one lemma that says where it is. The blanks around a text are
stripped.
-/

namespace Gemini.Data

variable {Item : Type}

/-! ## Blanks around a text -/

section Blanks

variable {blank : Item → Bool} {text : List Item}

/-- A text without the blanks around it. -/
def stripped (blank : Item → Bool) (text : List Item) : List Item :=
  (text.dropWhile blank).rdropWhile blank

/-- There are no blanks around the text. -/
structure Bare (blank : Item → Bool) (text : List Item) : Prop where
  starts : ∀ item ∈ text.head?, blank item = false
  ends : ∀ item ∈ text.getLast?, blank item = false

/-- Blanks at the end are dropped. -/
theorem rdropWhile_append_blanks {back : List Item} (blanks : ∀ item ∈ back, blank item = true)
    (ends : ∀ item ∈ text.getLast?, blank item = false) :
    (text ++ back).rdropWhile blank = text := by
  rw [List.rdropWhile, List.reverse_append,
    List.dropWhile_append_of_pos (by simpa using blanks)]
  rcases List.eq_nil_or_concat text with rfl | ⟨front, last, rfl⟩
  · rfl
  · have notBlank : blank last = false := ends last (by simp)
    simp [notBlank]

/-- A letter ends what is dropped in front. -/
theorem dropWhile_append_letter {item : Item} (letter : blank item = false)
    (front back : List Item) :
    (front ++ item :: back).dropWhile blank = front.dropWhile blank ++ item :: back := by
  rw [List.dropWhile_append]
  split
  · next none => rw [List.isEmpty_iff.mp none, List.dropWhile_cons_of_neg (by simp [letter])]; rfl
  · rfl

/-- A letter ends what is dropped behind. -/
theorem rdropWhile_append_letter {item : Item} (letter : blank item = false)
    (front back : List Item) :
    (front ++ item :: back).rdropWhile blank = front ++ item :: back.rdropWhile blank := by
  have reversed : (front ++ item :: back).reverse = back.reverse ++ item :: front.reverse := by
    simp
  rw [List.rdropWhile, reversed, dropWhile_append_letter letter, List.rdropWhile]
  simp

/-- The text is what is left when the blanks around it are stripped. -/
theorem stripped_append (bare : Bare blank text) {front back : List Item}
    (before : ∀ item ∈ front, blank item = true) (after : ∀ item ∈ back, blank item = true) :
    stripped blank (front ++ (text ++ back)) = text := by
  rw [stripped, List.dropWhile_append_of_pos before]
  cases text with
  | nil =>
      have allBlank : (back.dropWhile blank) = [] := List.dropWhile_eq_nil_iff.mpr after
      rw [List.nil_append, allBlank]
      rfl
  | cons first rest =>
      have notBlank : blank first = false := bare.starts first rfl
      rw [List.cons_append, List.dropWhile_cons_of_neg (by simp [notBlank]), ← List.cons_append]
      exact rdropWhile_append_blanks after bare.ends

/-- A text without blanks around it is kept. -/
theorem stripped_of_bare (bare : Bare blank text) : stripped blank text = text := by
  have none : ∀ item ∈ ([] : List Item), blank item = true := nofun
  simpa using stripped_append bare none none

/-- A text is what is left of it, with blanks around. -/
theorem stripped_spec (blank : Item → Bool) (text : List Item) :
    Bare blank (stripped blank text) ∧ ∃ front back, text = front ++ (stripped blank text ++ back) ∧
      (∀ item ∈ front, blank item = true) ∧ ∀ item ∈ back, blank item = true := by
  refine ⟨⟨?_, ?_⟩, text.takeWhile blank, (text.dropWhile blank).rtakeWhile blank, ?_, ?_, ?_⟩
  · intro item first
    obtain ⟨more, isRest⟩ := List.rdropWhile_prefix blank (l := text.dropWhile blank)
    have isHead : (text.dropWhile blank).head? = some item := by
      rw [← isRest, List.head?_append]
      exact Option.or_eq_some_iff.mpr (.inl first)
    have stops := List.head?_dropWhile_not blank text
    rw [isHead] at stops
    simpa using stops
  · intro item last
    have notEmpty : (text.dropWhile blank).rdropWhile blank ≠ [] := by
      intro none
      rw [stripped, none] at last
      cases last
    have notBlank := List.rdropWhile_last_not blank (text.dropWhile blank) notEmpty
    rw [stripped, List.getLast?_eq_getLast_of_ne_nil notEmpty] at last
    obtain rfl := Option.some.inj last
    simpa using notBlank
  · rw [stripped, List.rdropWhile_append_rtakeWhile, List.takeWhile_append_dropWhile]
  · exact fun item member => List.mem_takeWhile_imp member
  · exact fun item member => List.mem_rtakeWhile_imp member

/-- No text gets longer. -/
theorem length_stripped_le (blank : Item → Bool) (text : List Item) :
    (stripped blank text).length ≤ text.length := by
  obtain ⟨-, front, back, isText, -⟩ := stripped_spec blank text
  have lengths := congrArg List.length isText
  simp only [List.length_append] at lengths
  omega

end Blanks

/-! ## Separators -/

variable [DecidableEq Item]

/-- What stands before and after the first separator. -/
def cutFirst (separator : Item) : List Item → Option (List Item × List Item)
  | [] => none
  | item :: rest =>
      if item = separator then some ([], rest)
      else (cutFirst separator rest).map fun (before, after) => (item :: before, after)

/-- What stands before and after the last separator. -/
def cutLast (separator : Item) (text : List Item) : Option (List Item × List Item) :=
  (cutFirst separator text.reverse).map fun (after, before) => (before.reverse, after.reverse)

/-! ## Keywords -/

section Keywords

variable (blank : Item → Bool) (fold : Item → Item) (keyword : List Item)

/-- The text starts with the keyword, and with nothing more of a word. -/
def startsKeyword (text : List Item) : Bool :=
  keyword.isPrefixOf (text.map fold) && atGap blank (text.drop keyword.length)

/-- What stands before and after the first word that is the keyword. `atStart` when a word can
start at the front of the text. -/
def cutKeyword (atStart : Bool) : List Item → Option (List Item × List Item)
  | [] => none
  | item :: rest =>
      if atStart && startsKeyword blank fold keyword (item :: rest) then
        some ([], (item :: rest).drop keyword.length)
      else
        (cutKeyword (blank item) rest).map fun (before, after) => (item :: before, after)

/-- A word can start after the text. -/
def EndsAtGap (atStart : Bool) (text : List Item) : Prop :=
  match text.getLast? with
  | none => atStart = true
  | some last => blank last = true

variable {blank fold keyword}

/-- A text starts with a keyword when a word at its start is one and ends at a gap. -/
theorem startsKeyword_iff {text : List Item} :
    startsKeyword blank fold keyword text = true ↔
      ∃ word rest, text = word ++ rest ∧ word.map fold = keyword ∧ atGap blank rest = true := by
  rw [startsKeyword, Bool.and_eq_true, List.isPrefixOf_iff_prefix]
  constructor
  · rintro ⟨⟨rest, starts⟩, ends⟩
    refine ⟨text.take keyword.length, text.drop keyword.length,
      (List.take_append_drop _ _).symm, ?_, ends⟩
    rw [List.map_take, ← starts, List.take_left]
  · rintro ⟨word, rest, rfl, rfl, ends⟩
    rw [List.map_append, List.length_map, List.drop_left]
    exact ⟨List.prefix_append _ _, ends⟩

variable (letters : ∀ item, fold item ∈ keyword → blank item = false)
include letters

/-- A keyword at the front ends before the next blank. -/
theorem startsKeyword_iff_before {front : List Item} {item : Item} (isBlank : blank item = true)
    (rest : List Item) :
    startsKeyword blank fold keyword (front ++ item :: rest) = true ↔
      ∃ word others, front = word ++ others ∧ word.map fold = keyword ∧
        atGap blank (others ++ [item]) = true := by
  rw [startsKeyword_iff]
  constructor
  · rintro ⟨word, others, isText, isWord, ends⟩
    rcases List.append_eq_append_iff.mp isText with ⟨more, rfl, isRest⟩ | ⟨more, rfl, rfl⟩
    · cases more with
      | nil =>
          refine ⟨front, [], by simp, by simpa using isWord, ?_⟩
          simpa [atGap] using isBlank
      | cons first more =>
          obtain ⟨rfl, -⟩ := List.cons.inj isRest
          have inKeyword : fold item ∈ keyword := by
            rw [← isWord]
            simp
          rw [letters item inKeyword] at isBlank
          cases isBlank
    · refine ⟨word, more, rfl, isWord, ?_⟩
      cases more with
      | nil => simpa [atGap] using isBlank
      | cons first more => exact ends
  · rintro ⟨word, others, rfl, isWord, ends⟩
    refine ⟨word, others ++ item :: rest, by simp, isWord, ?_⟩
    cases others with
    | nil => exact ends
    | cons first others => exact ends

/-- What follows a blank does not decide whether a text starts with the keyword. -/
theorem startsKeyword_append {front : List Item} {item : Item} (isBlank : blank item = true)
    (rest : List Item) :
    startsKeyword blank fold keyword (front ++ item :: rest) =
      startsKeyword blank fold keyword (front ++ [item]) := by
  rw [Bool.eq_iff_iff, startsKeyword_iff_before letters isBlank,
    startsKeyword_iff_before letters isBlank]

/-- A text that ends with a blank starts with the keyword when it does so with more after it. -/
theorem startsKeyword_of_endsAtGap {item : Item} {before : List Item} (rest : List Item)
    (ends : EndsAtGap blank (blank item) before) :
    startsKeyword blank fold keyword (item :: (before ++ rest)) =
      startsKeyword blank fold keyword (item :: before) := by
  rcases List.eq_nil_or_concat before with rfl | ⟨front, last, rfl⟩
  · exact @startsKeyword_append _ _ blank fold keyword letters [] item ends rest
  · have isBlank : blank last = true := by simpa [EndsAtGap] using ends
    have append := @startsKeyword_append _ _ _ _ _ letters (item :: front) last isBlank rest
    simpa using append

omit [DecidableEq Item] letters in
/-- What stands before a gap depends on the last item alone. -/
theorem endsAtGap_cons {atStart : Bool} {item : Item} {before : List Item} :
    EndsAtGap blank atStart (item :: before) ↔ EndsAtGap blank (blank item) before := by
  rcases List.eq_nil_or_concat before with rfl | ⟨front, last, rfl⟩
  · rfl
  · unfold EndsAtGap
    rw [List.concat_eq_append, ← List.cons_append, List.getLast?_append, List.getLast?_append]
    rfl

/-- A text is cut at the first word that is the keyword. -/
theorem cutKeyword_eq_some (notEmpty : keyword ≠ []) {atStart : Bool}
    {text before after : List Item} :
    cutKeyword blank fold keyword atStart text = some (before, after) ↔
      ∃ word, text = before ++ (word ++ after) ∧ word.map fold = keyword ∧
        atGap blank after = true ∧ EndsAtGap blank atStart before ∧
        cutKeyword blank fold keyword atStart before = none := by
  induction text generalizing atStart before with
  | nil =>
      refine iff_of_false nofun ?_
      rintro ⟨word, isText, isWord, -⟩
      obtain ⟨-, isRest⟩ := List.append_eq_nil_iff.mp isText.symm
      obtain ⟨rfl, -⟩ := List.append_eq_nil_iff.mp isRest
      exact notEmpty isWord.symm
  | cons item rest inductionHypothesis =>
      cases before with
      | nil =>
          constructor
          · intro isCut
            rw [cutKeyword] at isCut
            split at isCut
            · next here =>
                rw [Bool.and_eq_true, startsKeyword_iff] at here
                obtain ⟨starts, word, others, isText, isWord, ends⟩ := here
                rw [isText, ← isWord, List.length_map, List.drop_left] at isCut
                cases isCut
                exact ⟨word, isText, isWord, ends, starts, rfl⟩
            · obtain ⟨_, _, isResult⟩ := Option.map_eq_some_iff.mp isCut
              cases isResult
          · rintro ⟨word, isText, isWord, ends, starts, -⟩
            have here : (atStart && startsKeyword blank fold keyword (item :: rest)) = true := by
              rw [Bool.and_eq_true, startsKeyword_iff]
              exact ⟨starts, word, after, isText, isWord, ends⟩
            rw [List.nil_append] at isText
            rw [cutKeyword, if_pos here, isText, ← isWord, List.length_map, List.drop_left]
      | cons first before =>
          constructor
          · intro isCut
            rw [cutKeyword] at isCut
            split at isCut
            · cases isCut
            · next notHere =>
                obtain ⟨⟨front, back⟩, isCut, isResult⟩ := Option.map_eq_some_iff.mp isCut
                cases isResult
                obtain ⟨word, rfl, isWord, ends, starts, isNone⟩ := inductionHypothesis.mp isCut
                refine ⟨word, rfl, isWord, ends, endsAtGap_cons.mpr starts, ?_⟩
                rw [startsKeyword_of_endsAtGap letters _ starts] at notHere
                rw [cutKeyword, if_neg notHere, isNone]
                rfl
          · rintro ⟨word, isText, isWord, ends, starts, isNone⟩
            rw [List.cons_append, List.cons.injEq] at isText
            obtain ⟨rfl, rfl⟩ := isText
            rw [endsAtGap_cons] at starts
            rw [cutKeyword] at isNone
            split at isNone
            · cases isNone
            · next notHere =>
                rw [Option.map_eq_none_iff] at isNone
                rw [cutKeyword, startsKeyword_of_endsAtGap letters _ starts, if_neg notHere]
                rw [inductionHypothesis.mpr ⟨word, rfl, isWord, ends, starts, isNone⟩]
                rfl

/-- A keyword is found in front of what follows a gap. -/
theorem cutKeyword_append (notEmpty : keyword ≠ []) {atStart : Bool}
    {text before after rest : List Item}
    (found : cutKeyword blank fold keyword atStart text = some (before, after))
    (gap : atGap blank rest = true) :
    cutKeyword blank fold keyword atStart (text ++ rest) = some (before, after ++ rest) := by
  obtain ⟨word, rfl, isWord, ends, starts, isNone⟩ := (cutKeyword_eq_some letters notEmpty).mp found
  refine (cutKeyword_eq_some letters notEmpty).mpr ⟨word, by simp, isWord, ?_, starts, isNone⟩
  cases after with
  | nil => exact gap
  | cons first after => exact ends

/-- The keyword at a gap, after a text without it. -/
theorem cutKeyword_word (notEmpty : keyword ≠ []) {atStart : Bool} {front word rest : List Item}
    (free : cutKeyword blank fold keyword atStart front = none)
    (starts : EndsAtGap blank atStart front) (isWord : word.map fold = keyword)
    (gap : atGap blank rest = true) :
    cutKeyword blank fold keyword atStart (front ++ (word ++ rest)) = some (front, rest) :=
  (cutKeyword_eq_some letters notEmpty).mpr ⟨word, rfl, isWord, gap, starts, free⟩

/-- A blank in front adds no keyword. -/
theorem cutKeyword_blank {atStart : Bool} {text : List Item} {item : Item}
    (notEmpty : keyword ≠ []) (isBlank : blank item = true)
    (free : cutKeyword blank fold keyword atStart text = none) :
    cutKeyword blank fold keyword atStart (text ++ [item]) = none := by
  rcases isCut : cutKeyword blank fold keyword atStart (text ++ [item]) with _ | ⟨before, after⟩
  · rfl
  · exfalso
    obtain ⟨word, isText, isWord, ends, starts, isNone⟩ :=
      (cutKeyword_eq_some letters notEmpty).mp isCut
    -- the word does not reach into the blank
    rcases List.eq_nil_or_concat after with rfl | ⟨shorter, last, rfl⟩
    · rw [List.append_nil] at isText
      have notNil : word ≠ [] := by
        rintro rfl
        exact notEmpty isWord.symm
      have isLast : word.getLast? = some item := by
        have lasts := congrArg List.getLast? isText
        rw [List.getLast?_append_of_ne_nil _ notNil, List.getLast?_concat] at lasts
        exact lasts.symm
      have member : fold item ∈ keyword :=
        isWord ▸ List.mem_map_of_mem (List.mem_of_getLast? isLast)
      rw [letters item member] at isBlank
      cases isBlank
    · rw [List.concat_eq_append, ← List.append_assoc, ← List.append_assoc] at isText
      obtain ⟨isFront, isLast⟩ := List.append_inj' isText rfl
      cases isLast
      rw [List.append_assoc] at isFront
      have gap : atGap blank shorter = true := by
        cases shorter with
        | nil => rfl
        | cons first shorter => exact ends
      have found := (cutKeyword_eq_some letters notEmpty).mpr
        ⟨word, isFront, isWord, gap, starts, isNone⟩
      rw [free] at found
      cases found

/-- Without a keyword in a text, there is none before a gap of it. -/
theorem cutKeyword_before_gap (notEmpty : keyword ≠ []) {atStart : Bool} {text rest : List Item}
    (free : cutKeyword blank fold keyword atStart (text ++ rest) = none)
    (gap : atGap blank rest = true) : cutKeyword blank fold keyword atStart text = none := by
  rcases isCut : cutKeyword blank fold keyword atStart text with _ | ⟨before, after⟩
  · rfl
  · rw [cutKeyword_append letters notEmpty isCut gap] at free
    cases free

omit letters in
/-- Without a keyword in a text, there is none after a gap of it. -/
theorem cutKeyword_after_gap {atStart : Bool} {front back : List Item}
    (free : cutKeyword blank fold keyword atStart (front ++ back) = none)
    (gap : EndsAtGap blank atStart front) : cutKeyword blank fold keyword true back = none := by
  induction front generalizing atStart with
  | nil =>
      obtain rfl : atStart = true := gap
      exact free
  | cons item front inductionHypothesis =>
      rw [List.cons_append, cutKeyword] at free
      split at free
      · cases free
      · exact inductionHypothesis (Option.map_eq_none_iff.mp free) (endsAtGap_cons.mp gap)

/-- A text without a keyword has none behind a gap. -/
theorem cutKeyword_of_gap (notEmpty : keyword ≠ []) {atStart : Bool} {front back : List Item}
    (free : cutKeyword blank fold keyword atStart (front ++ back) = none)
    (gap : atGap blank back = true) : cutKeyword blank fold keyword true back = none := by
  cases back with
  | nil => rfl
  | cons item back =>
      have isBlank : blank item = true := by simpa [atGap] using gap
      have split : front ++ item :: back = (front ++ [item]) ++ back := by simp
      have ends : EndsAtGap blank atStart (front ++ [item]) := by
        simpa [EndsAtGap] using isBlank
      rw [split] at free
      have later := cutKeyword_after_gap free ends
      have notHere : startsKeyword blank fold keyword (item :: back) = false := by
        rw [Bool.eq_false_iff]
        intro starts
        obtain ⟨word, others, isWord, isKeyword, -⟩ :=
          (@startsKeyword_iff_before _ _ _ _ _ letters [] item isBlank back).mp starts
        obtain ⟨rfl, -⟩ := List.append_eq_nil_iff.mp isWord.symm
        exact notEmpty isKeyword.symm
      rw [cutKeyword, notHere, Bool.and_false, if_neg Bool.false_ne_true, isBlank, later]
      rfl

/-- Without a keyword in a text, there is none when blanks around it are stripped. -/
theorem cutKeyword_stripped (notEmpty : keyword ≠ []) {around : Item → Bool}
    (blanks : ∀ item, around item = true → blank item = true) {text : List Item}
    (free : cutKeyword blank fold keyword true text = none) :
    cutKeyword blank fold keyword true (stripped around text) = none := by
  obtain ⟨-, front, back, isText, before, after⟩ := stripped_spec around text
  rw [isText] at free
  have starts : EndsAtGap blank true front := by
    rcases List.eq_nil_or_concat front with rfl | ⟨others, last, rfl⟩
    · rfl
    · simpa [EndsAtGap] using blanks last (before last (by simp))
  have gap : atGap blank back = true := by
    cases back with
    | nil => rfl
    | cons item back => simpa [atGap] using blanks item (after item List.mem_cons_self)
  exact cutKeyword_before_gap letters notEmpty (cutKeyword_after_gap free starts) gap

omit [DecidableEq Item] letters in
/-- A text that ends at a gap keeps its words when another text follows. -/
theorem words_append_of_endsAtGap {front : List Item} (ends : EndsAtGap blank true front)
    (rest : List Item) : words blank (front ++ rest) = words blank front ++ words blank rest := by
  induction front with
  | nil => rfl
  | cons item others inductionHypothesis =>
      rw [endsAtGap_cons] at ends
      have later : EndsAtGap blank true others := by
        rcases List.eq_nil_or_concat others with rfl | ⟨front, last, rfl⟩
        · rfl
        · simpa [EndsAtGap] using ends
      have same := inductionHypothesis later
      cases letter : blank item with
      | true => rw [List.cons_append, words_cons_blank letter, words_cons_blank letter, same]
      | false =>
          rw [letter] at ends
          cases others with
          | nil => cases ends
          | cons next more =>
              cases goesOn : atGap blank (next :: more) with
              | true =>
                  rw [List.cons_append, words_cons_last letter goesOn,
                    words_cons_last letter (by simpa [atGap] using goesOn), same]
                  rfl
              | false =>
                  obtain ⟨word, found, known⟩ := words_of_goesOn goesOn
                  rw [known] at same
                  rw [List.cons_append, words_cons_letter letter goesOn known,
                    words_cons_letter letter (by simpa [atGap] using goesOn) same]
                  rfl

/-- A text none of whose words is the keyword is not cut. -/
theorem cutKeyword_of_words (notEmpty : keyword ≠ []) {text : List Item}
    (free : ∀ word ∈ words blank text, word.map fold ≠ keyword) :
    cutKeyword blank fold keyword true text = none := by
  rcases isCut : cutKeyword blank fold keyword true text with _ | ⟨before, after⟩
  · rfl
  · exfalso
    obtain ⟨word, rfl, isWord, gap, ends, -⟩ := (cutKeyword_eq_some letters notEmpty).mp isCut
    have some : word ≠ [] := by
      rintro rfl
      exact notEmpty isWord.symm
    have noBlank : ∀ item ∈ word, blank item = false := by
      intro item member
      refine letters item ?_
      rw [← isWord]
      exact List.mem_map_of_mem member
    have member : word ∈ words blank (before ++ (word ++ after)) := by
      rw [words_append_of_endsAtGap ends, words_append some noBlank gap]
      simp
    exact free word member isWord

end Keywords

end Gemini.Data
