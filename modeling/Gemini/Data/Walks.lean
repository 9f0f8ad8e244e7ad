import Mathlib.Data.List.Nodup

/-!
# Walks that stop where they have been

Every place has at most one next place. A walk goes from place to place until there is no next
one or it comes to a place where it has been. Some places are marked, and the mark tells the next
place: who starts again where the last mark of a walk points to finds no other mark there, or the
same one last.
-/

namespace Gemini.Data

universe u v

variable {Place : Type u} {Mark : Type v}

/-- The places that are passed on the way from one place to another, which is left out. -/
inductive Steps (next : Place → Option Place) : Place → List Place → Place → Prop where
  | stay (place : Place) : Steps next place [] place
  | go {place after stop : Place} {path : List Place} (leads : next place = some after)
      (rest : Steps next after path stop) : Steps next place (place :: path) stop

/-- The places of a walk that went on as long as it could. -/
structure Walk (next : Place → Option Place) (start : Place) (path : List Place) : Prop where
  stops : ∃ stop, Steps next start path stop ∧ (next stop = none ∨ stop ∈ path)
  nodup : path.Nodup

/-- The mark of the last marked place. -/
def lastMark (mark : Place → Option Mark) (path : List Place) : Option Mark :=
  (path.filterMap mark).getLast?

variable {next : Place → Option Place} {mark : Place → Option Mark}
  {start stop place after : Place} {path front back : List Place}

namespace Steps

/-- Steps, one part after the other. -/
theorem append {middle : Place} (first : Steps next start front middle)
    (second : Steps next middle back stop) : Steps next start (front ++ back) stop := by
  induction first with
  | stay place => exact second
  | go leads _ inductionHypothesis => exact .go leads (inductionHypothesis second)

/-- Steps can be cut anywhere. -/
theorem split (steps : Steps next start (front ++ back) stop) :
    ∃ middle, Steps next start front middle ∧ Steps next middle back stop := by
  induction front generalizing start with
  | nil => exact ⟨start, .stay start, steps⟩
  | cons place front inductionHypothesis =>
      cases steps with
      | go leads rest =>
          obtain ⟨middle, first, second⟩ := inductionHypothesis rest
          exact ⟨middle, .go leads first, second⟩

/-- The first step leads on from the start. -/
theorem first (steps : Steps next start (place :: path) stop) :
    place = start ∧ ∃ after, next place = some after ∧ Steps next after path stop := by
  cases steps with
  | go leads rest => exact ⟨rfl, _, leads, rest⟩

/-- Every place that is passed leads on. -/
theorem leads (steps : Steps next start path stop) (passed : place ∈ path) :
    ∃ after, next place = some after := by
  induction steps with
  | stay place => cases passed
  | go leads _ inductionHypothesis =>
      rcases List.mem_cons.mp passed with rfl | passed
      · exact ⟨_, leads⟩
      · exact inductionHypothesis passed

/-- Two ways from one place go together as far as the shorter one goes. -/
theorem compare {stop' : Place} {path' : List Place} (steps : Steps next start path stop)
    (steps' : Steps next start path' stop') :
    (∃ more, path' = path ++ more ∧ Steps next stop more stop') ∨
      ∃ more, path = path' ++ more ∧ Steps next stop' more stop := by
  induction steps generalizing path' with
  | stay place => exact .inl ⟨path', rfl, steps'⟩
  | go leads rest inductionHypothesis =>
      cases steps' with
      | stay => exact .inr ⟨_, rfl, .go leads rest⟩
      | go leads' rest' =>
          rw [leads] at leads'
          cases leads'
          rcases inductionHypothesis rest' with ⟨more, rfl, onward⟩ | ⟨more, rfl, onward⟩
          · exact .inl ⟨more, rfl, onward⟩
          · exact .inr ⟨more, rfl, onward⟩

/-- A place that leads back to itself is passed on the way. -/
theorem mem_of_loop (steps : Steps next start path start) (moves : path ≠ []) : start ∈ path := by
  cases steps with
  | stay place => exact absurd rfl moves
  | go => exact List.mem_cons_self

/-- A walk that could not go on does not go on. -/
theorem no_more {more : List Place} (ended : next start = none ∨ start ∈ path)
    (nodup : (path ++ more).Nodup) (steps : Steps next start more stop) : more = [] := by
  cases steps with
  | stay place => rfl
  | go leads rest =>
      rcases ended with nowhere | passed
      · rw [nowhere] at leads
        cases leads
      · exact absurd List.mem_cons_self (List.disjoint_of_nodup_append nodup passed)

end Steps

namespace Walk

/-- There is one walk from a place. -/
theorem unique {path' : List Place} (walk : Walk next start path) (walk' : Walk next start path') :
    path = path' := by
  obtain ⟨⟨stop, steps, ended⟩, nodup⟩ := walk
  obtain ⟨⟨stop', steps', ended'⟩, nodup'⟩ := walk'
  rcases steps.compare steps' with ⟨more, rfl, onward⟩ | ⟨more, rfl, onward⟩
  · rw [onward.no_more ended nodup', List.append_nil]
  · rw [onward.no_more ended' nodup, List.append_nil]

/-- The walk from a place that was reached goes on as before. If it comes back to a place before
the one that led to it, it stops after that one. -/
theorem again (walk : Walk next start (front ++ place :: back)) (leads : next place = some after) :
    ∃ more, Walk next after (back ++ more) ∧ (more = [] ∨ more.getLast? = some place) := by
  obtain ⟨⟨stop, steps, ended⟩, nodup⟩ := walk
  obtain ⟨middle, before, fromPlace⟩ := steps.split
  obtain ⟨rfl, after', leads', rest⟩ := fromPlace.first
  rw [leads] at leads'
  cases leads'
  obtain ⟨-, nodupBack, apart⟩ := List.nodup_append'.mp nodup
  have nodupBack := (List.nodup_cons.mp nodupBack).2
  by_cases earlier : stop ∈ front ++ [place]
  · -- The walk came back to `stop`, from which it had gone on to `place`.
    obtain ⟨first, second, cut⟩ := List.append_of_mem earlier
    have whole : front ++ place :: back = first ++ (stop :: second ++ back) := by
      calc front ++ place :: back = (front ++ [place]) ++ back := by simp
        _ = first ++ (stop :: second ++ back) := by rw [cut]; simp
    have toPlace : Steps next start (first ++ stop :: second) after := by
      rw [← cut]
      exact before.append (.go leads (.stay after))
    obtain ⟨middle, -, fromStop⟩ := toPlace.split
    obtain ⟨rfl, -⟩ := fromStop.first
    refine ⟨stop :: second, ⟨⟨after, rest.append fromStop, .inr ?_⟩, ?_⟩, .inr ?_⟩
    · exact (rest.append fromStop).mem_of_loop (by simp)
    · rw [whole] at nodup
      exact List.nodup_append_comm.mp (List.nodup_append'.mp nodup).2.1
    · have last : (front ++ [place]).getLast? = (first ++ stop :: second).getLast? := by rw [cut]
      rw [List.getLast?_append, List.getLast?_append] at last
      simpa using last.symm
  · have ended : next stop = none ∨ stop ∈ back := by
      refine ended.imp id fun passed => ?_
      rw [List.append_cons, List.mem_append] at passed
      exact passed.resolve_left earlier
    refine ⟨[], ⟨⟨stop, ?_, ?_⟩, ?_⟩, .inl rfl⟩
    · rwa [List.append_nil]
    · rwa [List.append_nil]
    · rwa [List.append_nil]

end Walk

/-- The last mark is in the second part, or else in the first. -/
theorem lastMark_append (front back : List Place) :
    lastMark mark (front ++ back) = (lastMark mark back).or (lastMark mark front) := by
  rw [lastMark, List.filterMap_append, List.getLast?_append]
  rfl

theorem lastMark_cons (place : Place) (path : List Place) :
    lastMark mark (place :: path) = (lastMark mark path).or (mark place) := by
  rw [← List.singleton_append, lastMark_append]
  cases marked : mark place <;> simp [lastMark, marked]

/-- A mark at the last place is the last one. -/
theorem lastMark_of_getLast? {found : Mark} (last : path.getLast? = some place)
    (marked : mark place = some found) : lastMark mark path = some found := by
  obtain ⟨front, rfl⟩ := List.getLast?_eq_some_iff.mp last
  rw [lastMark_append, lastMark_cons, marked]
  rfl

/-- The last marked place, with no mark after it. -/
theorem exists_of_lastMark {found : Mark} (marked : lastMark mark path = some found) :
    ∃ front place back, path = front ++ place :: back ∧ mark place = some found ∧
      lastMark mark back = none := by
  induction path with
  | nil => cases marked
  | cons place path inductionHypothesis =>
      rw [lastMark_cons] at marked
      rcases later : lastMark mark path with _ | last
      · rw [later, Option.none_or] at marked
        exact ⟨[], place, path, rfl, marked, later⟩
      · rw [later, Option.some_or] at marked
        obtain ⟨front, place', back, rfl, isMark, unmarked⟩ := inductionHypothesis (later.trans marked)
        exact ⟨place :: front, place', back, rfl, isMark, unmarked⟩

/-- Who starts where the last mark of a walk points to ends with the same mark. -/
theorem Walk.lastMark_again {target : Mark → Place} {found : Mark} {path' : List Place}
    (aims : ∀ place found, mark place = some found → next place = some (target found))
    (walk : Walk next start path) (marked : lastMark mark path = some found)
    (walk' : Walk next (target found) path') : (lastMark mark path').getD found = found := by
  obtain ⟨front, place, back, rfl, isMark, unmarked⟩ := exists_of_lastMark marked
  obtain ⟨more, again, closes⟩ := walk.again (aims place found isMark)
  rw [walk'.unique again, lastMark_append, unmarked, Option.or_none]
  rcases closes with rfl | last
  · rfl
  · rw [lastMark_of_getLast? last isMark, Option.getD_some]

end Gemini.Data
