import Gemini.Data.Occurrences
import Gemini.VM.DefinedArithmetic

/-!
# `INDEX`, `FIELD` and `CONVERT`

`INDEX` goes on one character after each occurrence, so that occurrences overlap; `FIELD` goes on
after the delimiter, so that its cuts do not. `CONVERT` maps each character by its first index. The
position that `INDEX` finds is cast to an `int`, and a position past the last `int` is not given.
-/

namespace Gemini.VM

open Gemini.Data
open Gemini.Semantics (Program)

variable {Double : Type} [Doubles Double]

/-! ## The handlers -/

section Handlers

variable {World : Type}

/-- A handler of three arguments, the third on top of the stack. -/
def ternaryHandler
    (operation : Value Double → Value Double → Value Double → Except String (Value Double)) :
    Handler Double World :=
  fun _ stack =>
    match stack with
    | c :: b :: a :: rest =>
        match operation a b c with
        | .ok value => return value :: rest
        | .error what => throw what
    | short => return short

/-- The loop of `INDEX` from a position, with a number of occurrences left to find. -/
def indexLoop (hay needle : List Char) : Nat → Nat → ℤ
  | _, 0 => 0
  | pos, left + 1 =>
      match findFrom needle hay pos with
      | none => 0
      | some found =>
          if left = 0 then wrapInt (found + 1) else indexLoop hay needle (found + 1) left

/-- `handlerIndex`. -/
def handlerIndex : Handler Double World :=
  ternaryHandler fun hayVal needleVal occVal =>
    let hay := (valueToString hayVal).toList
    let needle := (valueToString needleVal).toList
    let occ := coerceToInt occVal
    if needle = [] then .error "BUILTIN: INDEX empty substring"
    else if occ < 1 then .error "BUILTIN: INDEX occurrence"
    else .ok (.int (indexLoop hay needle 0 occ.toNat))

/-- The loop of `FIELD` from a position. -/
def fieldsFrom (hay : List Char) {delim : List Char} (notEmpty : delim ≠ []) (start : Nat) :
    List (List Char) :=
  match _ : findFrom delim hay start with
  | none => [hay.drop start]
  | some f => (hay.drop start).take (f - start) :: fieldsFrom hay notEmpty (f + delim.length)
termination_by hay.length + 1 - start
decreasing_by
  have inside := ((findFrom_eq_some notEmpty).mp ‹_›).1
  have before := inside.2.lt_length notEmpty
  have after := inside.1
  have letters := List.length_pos_iff.mpr notEmpty
  omega

/-- `handlerField`. -/
def handlerField : Handler Double World :=
  ternaryHandler fun hayVal delimVal fieldIdxVal =>
    let hay := (valueToString hayVal).toList
    let delim := (valueToString delimVal).toList
    let fieldNum := coerceToInt fieldIdxVal
    if empty : delim = [] then .error "BUILTIN: FIELD empty delimiter"
    else if fieldNum < 1 then .error "BUILTIN: FIELD field index"
    else
      let fields := fieldsFrom hay empty 0
      if fields.length < fieldNum.toNat then .ok (.string "")
      else .ok (.string (String.ofList (fields.getD (fieldNum.toNat - 1) [])))

/-- The turn of the loop of `CONVERT`. -/
def convertTurn (source target out : List Char) (c : Char) : List Char :=
  match source.idxOf? c with
  | none => out ++ [c]
  | some pos => if inside : pos < target.length then out ++ [target[pos]] else out

/-- `handlerConvert`. -/
def handlerConvert : Handler Double World :=
  ternaryHandler fun srcVal fromVal toVal =>
    let src := (valueToString srcVal).toList
    let source := (valueToString fromVal).toList
    let target := (valueToString toVal).toList
    .ok (.string (String.ofList (src.foldl (convertTurn source target) [])))

end Handlers

/-- A handler takes its arguments off the stack and leaves this result. -/
def Gives (handler : ∀ World, Handler Double World) (a b c result : Value Double) : Prop :=
  ∀ (World : Type) (status : ℤ) stack (world : World),
    Program.exec (handler World status (c :: b :: a :: stack)) world = (.ok (result :: stack), world)

/-! ## `INDEX` -/

/-- The index of an occurrence, counted from one; 0 where there are not so many. -/
structure IsIndex (hay needle : List Char) (occ index : ℤ) : Prop where
  at_iff : ∀ position : ℕ, index = position + 1 ↔
    OccursAt needle hay position ∧ (Nat.count (OccursAt needle hay) position : ℤ) = occ - 1
  zero_iff : index = 0 ↔ (Nat.count (OccursAt needle hay) hay.length : ℤ) < occ

/-- There are not so many occurrences, or so many of them start at a position that, counted from
one, is an `int`. -/
def IndexFits (hay needle : List Char) (occ : ℤ) : Prop :=
  (Nat.count (OccursAt needle hay) hay.length : ℤ) < occ ∨
    occ ≤ Nat.count (OccursAt needle hay) intMax.toNat

section Index

variable {hay needle : List Char}

/-- One more occurrence is counted. -/
theorem count_succ_of_occursAt {position : Nat} (occurs : OccursAt needle hay position) :
    Nat.count (OccursAt needle hay) (position + 1) =
      Nat.count (OccursAt needle hay) position + 1 := by
  rw [Nat.count_succ, if_pos occurs]

/-- The loop finds the occurrence that is so many after the first `pos` characters. -/
theorem indexLoop_spec (notEmpty : needle ≠ []) (left pos : Nat) :
    (Nat.count (OccursAt needle hay) hay.length ≤ Nat.count (OccursAt needle hay) pos + left ∧
        indexLoop hay needle pos (left + 1) = 0) ∨
      ∃ position, OccursAt needle hay position ∧
        Nat.count (OccursAt needle hay) position = Nat.count (OccursAt needle hay) pos + left ∧
        indexLoop hay needle pos (left + 1) = wrapInt (position + 1) := by
  induction left generalizing pos with
  | zero =>
      rw [indexLoop]
      cases found : findFrom needle hay pos with
      | none => exact .inl ⟨(count_length_of_findFrom_eq_none notEmpty found).le, rfl⟩
      | some position =>
          have least := (findFrom_eq_some notEmpty).mp found
          exact .inr ⟨position, least.1.2, count_of_isLeast least, if_pos rfl⟩
  | succ left hypothesis =>
      rw [indexLoop]
      cases found : findFrom needle hay pos with
      | none =>
          have counted := count_length_of_findFrom_eq_none notEmpty found
          exact .inl ⟨by omega, rfl⟩
      | some position =>
          have least := (findFrom_eq_some notEmpty).mp found
          have counted := count_succ_of_occursAt least.1.2
          rw [count_of_isLeast least] at counted
          rcases hypothesis (position + 1) with ⟨few, gives⟩ | ⟨last, occurs, before, gives⟩
          · exact .inl ⟨by omega, gives⟩
          · exact .inr ⟨last, occurs, by omega, gives⟩

/-- The loop gives the index of the occurrence exactly when it fits. -/
theorem isIndex_indexLoop_iff (notEmpty : needle ≠ []) {occ : ℤ} (some : 1 ≤ occ) :
    IsIndex hay needle occ (indexLoop hay needle 0 occ.toNat) ↔ IndexFits hay needle occ := by
  obtain ⟨left, rfl⟩ : ∃ left : ℕ, occ = left + 1 := ⟨(occ - 1).toNat, by omega⟩
  have turns : ((left : ℤ) + 1).toNat = left + 1 := by omega
  rw [turns, IndexFits]
  have spec := @indexLoop_spec hay _ notEmpty left 0
  rw [Nat.count_zero, Nat.zero_add] at spec
  rcases spec with ⟨few, gives⟩ | ⟨found, occurs, before, gives⟩
  · rw [gives]
    refine iff_of_true ⟨fun position => ?_, ?_⟩ (.inl (by omega))
    · refine iff_of_false (by omega) fun ⟨occurs, before⟩ => ?_
      have counted := count_succ_of_occursAt occurs
      have all := @count_le_count_length _ _ hay _ notEmpty (position + 1)
      omega
    · exact iff_of_true rfl (by omega)
  · have counted := count_succ_of_occursAt occurs
    have all := @count_le_count_length _ _ hay _ notEmpty (found + 1)
    have notFew : ¬ (Nat.count (OccursAt needle hay) hay.length : ℤ) < left + 1 := by omega
    have inside : ((left : ℤ) + 1 ≤ Nat.count (OccursAt needle hay) intMax.toNat) ↔
        found < intMax.toNat := by
      constructor
      · intro many
        exact Nat.lt_of_count_lt_count (p := OccursAt needle hay) (by omega)
      · intro less
        have more := Nat.count_monotone (OccursAt needle hay) (Nat.succ_le_of_lt less)
        rw [Nat.succ_eq_add_one] at more
        omega
    rw [gives, or_iff_right notFew, inside]
    have last : (intMax.toNat : ℤ) = intMax := by decide
    constructor
    · intro isIndex
      have same := (isIndex.at_iff found).mpr ⟨occurs, by omega⟩
      have isInt := isInt_wrapInt (found + 1)
      rw [same] at isInt
      have high := isInt.2
      omega
    · intro less
      have isInt : IsInt ((found : ℤ) + 1) := ⟨by unfold intMin; omega, by omega⟩
      rw [wrapInt_of_isInt isInt]
      refine ⟨fun position => ⟨fun same => ?_, fun ⟨otherOccurs, otherBefore⟩ => ?_⟩, ?_⟩
      · obtain rfl : found = position := by omega
        exact ⟨occurs, by omega⟩
      · rw [Nat.count_injective occurs otherOccurs (by omega)]
      · exact iff_of_false (by omega) notFew

end Index

/-! ## `FIELD` -/

/-- A text has at least one field. -/
theorem fieldsFrom_ne_nil (hay : List Char) {delim : List Char} (notEmpty : delim ≠ [])
    (start : Nat) : fieldsFrom hay notEmpty start ≠ [] := by
  unfold fieldsFrom
  split <;> simp

/-- The fields are the pieces between the leftmost delimiters. -/
theorem pieces_fieldsFrom (hay : List Char) {delim : List Char} (notEmpty : delim ≠ [])
    (start : Nat) : Pieces delim hay start (fieldsFrom hay notEmpty start) := by
  fun_induction fieldsFrom hay notEmpty start with
  | case1 start absent => exact pieces_of_absent ((findFrom_eq_none notEmpty).mp absent)
  | case2 start found isFound hypothesis =>
      exact pieces_cons notEmpty ((findFrom_eq_some notEmpty).mp isFound) hypothesis
        (fieldsFrom_ne_nil hay notEmpty _)

/-! ## `CONVERT` -/

/-- What a character becomes, by its first index in `source`. -/
structure ConvertsTo (source target : List Char) (c : Char) (image : List Char) : Prop where
  kept : c ∉ source → image = [c]
  sent : ∀ (index : ℕ) (d : Char), source[index]? = some c →
    (∀ before < index, source[before]? ≠ some c) → target[index]? = some d → image = [d]
  deleted : ∀ index : ℕ, source[index]? = some c → (∀ before < index, source[before]? ≠ some c) →
    target.length ≤ index → image = []

/-- What `convertTurn` adds for a character. -/
def converted (source target : List Char) (c : Char) : List Char :=
  convertTurn source target [] c

/-- The loop of `CONVERT` converts character by character. -/
theorem foldl_convertTurn (source target src out : List Char) :
    src.foldl (convertTurn source target) out = out ++ src.flatMap (converted source target) := by
  induction src generalizing out with
  | nil => simp
  | cons c src hypothesis =>
      have turn : convertTurn source target out c = out ++ converted source target c := by
        unfold converted convertTurn
        split
        · rfl
        · split
          · rfl
          · rw [List.append_nil]
      rw [List.foldl_cons, turn, hypothesis, List.flatMap_cons, List.append_assoc]

/-- The index that the search finds is the first one. -/
theorem idxOf?_eq_of_first {source : List Char} {c : Char} {index : ℕ}
    (here : source[index]? = some c) (first : ∀ before < index, source[before]? ≠ some c) :
    source.idxOf? c = some index := by
  obtain ⟨inside, isLetter⟩ := List.getElem?_eq_some_iff.mp here
  rw [List.idxOf?, List.findIdx?_eq_some_iff_getElem]
  refine ⟨inside, by simp [isLetter], fun before less same => first before less ?_⟩
  rw [List.getElem?_eq_getElem (less.trans inside), beq_iff_eq.mp same]

/-- What a character is converted to. -/
theorem convertsTo_converted (source target : List Char) (c : Char) :
    ConvertsTo source target c (converted source target c) where
  kept := by
    intro absent
    rw [converted, convertTurn, List.idxOf?_eq_none_iff.mpr absent]
    rfl
  sent := by
    intro index d here first isImage
    obtain ⟨inside, isLetter⟩ := List.getElem?_eq_some_iff.mp isImage
    rw [converted, convertTurn, idxOf?_eq_of_first here first]
    simp only [dif_pos inside, isLetter, List.nil_append]
  deleted := by
    intro index here first past
    rw [converted, convertTurn, idxOf?_eq_of_first here first]
    exact dif_neg (not_lt.mpr past)

/-! ## The three builtins -/

/-- The builtins of strings do what they are to do with these arguments. -/
structure StringBuiltins (Double : Type) [Doubles Double]
    (hay needle occ source target : Value Double) : Prop where
  index : ∃ index, Gives (fun _ => handlerIndex) hay needle occ (.int index) ∧
    IsIndex (valueToString hay).toList (valueToString needle).toList (coerceToInt occ) index
  field : ∃ pieces, Pieces (valueToString needle).toList (valueToString hay).toList 0 pieces ∧
    ∀ number, 1 ≤ coerceToInt number → Gives (fun _ => handlerField) hay needle number
      (.string (String.ofList (pieces.getD ((coerceToInt number).toNat - 1) [])))
  convert : ∃ image, (∀ c, ConvertsTo (valueToString source).toList (valueToString target).toList
      c (image c)) ∧
    Gives (fun _ => handlerConvert) hay source target
      (.string (String.ofList ((valueToString hay).toList.flatMap image)))

section Builtins

variable {hay needle occ : Value Double}

omit [Doubles Double] in
/-- A handler of three arguments gives what its operation does. -/
theorem gives_ternaryHandler {operation : Value Double → Value Double → Value Double →
    Except String (Value Double)} {a b c result : Value Double}
    (gives : operation a b c = .ok result) :
    Gives (fun _ => ternaryHandler operation) a b c result := by
  intro World status stack world
  unfold ternaryHandler
  dsimp only
  rw [gives]
  rfl

/-- What `INDEX` gives. -/
theorem gives_handlerIndex (notEmpty : (valueToString needle).toList ≠ [])
    (some : 1 ≤ coerceToInt occ) :
    Gives (fun _ => handlerIndex) hay needle occ (.int (indexLoop (valueToString hay).toList
      (valueToString needle).toList 0 (coerceToInt occ).toNat)) := by
  refine gives_ternaryHandler ?_
  dsimp only
  rw [if_neg notEmpty, if_neg (not_lt.mpr some)]

/-- What `FIELD` gives. -/
theorem gives_handlerField (notEmpty : (valueToString needle).toList ≠ [])
    (some : 1 ≤ coerceToInt occ) :
    Gives (fun _ => handlerField) hay needle occ (.string (String.ofList
      ((fieldsFrom (valueToString hay).toList notEmpty 0).getD ((coerceToInt occ).toNat - 1)
        []))) := by
  refine gives_ternaryHandler ?_
  dsimp only
  rw [dif_neg notEmpty, if_neg (not_lt.mpr some)]
  split
  · next past =>
      rw [List.getD_eq_default _ _ (by omega)]
  · rfl

/-- What `CONVERT` gives. -/
theorem gives_handlerConvert (source target : Value Double) :
    Gives (fun _ => handlerConvert) hay source target (.string (String.ofList
      ((valueToString hay).toList.flatMap (converted (valueToString source).toList
        (valueToString target).toList)))) := by
  refine gives_ternaryHandler ?_
  dsimp only
  rw [foldl_convertTurn, List.nil_append]

omit [Doubles Double] in
/-- A handler gives one value. -/
theorem Gives.unique {handler : ∀ World, Handler Double World} {a b c first second : Value Double}
    (gives : Gives handler a b c first) (also : Gives handler a b c second) : first = second := by
  have same := (gives Unit 0 [] ()).symm.trans (also Unit 0 [] ())
  simpa using same

/-- The builtins meet their definitions exactly when the index fits. -/
theorem stringBuiltins_iff (source target : Value Double) (notEmpty : valueToString needle ≠ "")
    (some : 1 ≤ coerceToInt occ) :
    StringBuiltins Double hay needle occ source target ↔
      IndexFits (valueToString hay).toList (valueToString needle).toList (coerceToInt occ) := by
  have letters : (valueToString needle).toList ≠ [] := by
    rwa [Ne, String.toList_eq_nil_iff]
  rw [← isIndex_indexLoop_iff letters some]
  constructor
  · rintro ⟨⟨index, gives, isIndex⟩, -, -⟩
    obtain rfl := Value.int.inj (gives.unique (gives_handlerIndex letters some))
    exact isIndex
  · intro isIndex
    exact {
      index := ⟨_, gives_handlerIndex letters some, isIndex⟩
      field := ⟨_, pieces_fieldsFrom _ letters 0, fun _ => gives_handlerField letters⟩
      convert := ⟨_, convertsTo_converted _ _, gives_handlerConvert source target⟩ }

end Builtins

/-- Overlapping occurrences are counted, and characters without a counterpart are dropped. -/
theorem stringBuiltins_overlap : StringBuiltins Int (.string "abababa") (.string "aba") (.int 2)
    (.string "ab") (.string "x") := by
  refine (stringBuiltins_iff _ _ (by decide) (by decide)).mpr (.inr ?_)
  have inText : 2 ≤ Nat.count (OccursAt "aba".toList "abababa".toList) 7 := by decide +kernel
  have more : 7 ≤ intMax.toNat := by decide
  exact Int.ofNat_le.mpr (inText.trans (Nat.count_monotone _ more))

/-- Behind `size` letters `a` the first `b` is the character of that number. -/
theorem occursAt_after_replicate {size position : ℕ} :
    OccursAt ['b'] (List.replicate size 'a' ++ ['b']) position ↔ position = size := by
  unfold OccursAt
  rcases Nat.lt_trichotomy position size with less | rfl | more
  · refine iff_of_false ?_ less.ne
    obtain ⟨left, rfl⟩ := Nat.exists_eq_add_of_lt less
    rw [List.drop_append_of_le_length (by simp; omega), List.drop_replicate]
    have more : position + left + 1 - position = left + 1 := by omega
    rw [more, List.replicate_succ]
    simp
  · simp
  · refine iff_of_false ?_ more.ne'
    rw [List.drop_eq_nil_of_le (by simp; omega)]
    simp

/-- Where the position behind a run of letters fits. -/
theorem indexFits_after_replicate {size : ℕ} :
    IndexFits (List.replicate size 'a' ++ ['b']) ['b'] 1 ↔ size < intMax.toNat := by
  have counted : ∀ stop, 1 ≤ Nat.count (OccursAt ['b'] (List.replicate size 'a' ++ ['b'])) stop ↔
      size < stop := by
    intro stop
    rw [Nat.one_le_iff_ne_zero, Nat.count_ne_iff_exists]
    simp [occursAt_after_replicate]
  have inText := (counted (List.replicate size 'a' ++ ['b']).length).mpr (by simp)
  rw [IndexFits, or_iff_right (by omega), ← counted]
  exact Nat.one_le_cast

/-- From there on the builtins do not do what they are to do. -/
theorem not_stringBuiltins_after_replicate {size : ℕ} (past : intMax.toNat ≤ size) :
    ¬ StringBuiltins Int (.string (String.ofList (List.replicate size 'a' ++ ['b'])))
      (.string "b") (.int 1) (.string "") (.string "") := by
  intro meets
  obtain ⟨index, gives, isIndex⟩ := meets.index
  obtain rfl := Value.int.inj (gives.unique (gives_handlerIndex (by decide) (by decide)))
  have fits := (isIndex_indexLoop_iff (by decide) (by decide)).mp isIndex
  rw [valueToString, String.toList_ofList] at fits
  exact absurd (indexFits_after_replicate.mp fits) (not_lt.mpr past)

/-- The index of a letter behind 2147483647 others is given as a negative number. -/
theorem index_past_int : ¬ StringBuiltins Int
    (.string (String.ofList (List.replicate 2147483647 'a' ++ ['b']))) (.string "b") (.int 1)
    (.string "") (.string "") :=
  not_stringBuiltins_after_replicate (by decide)

end Gemini.VM
