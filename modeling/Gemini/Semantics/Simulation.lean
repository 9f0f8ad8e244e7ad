/-!
# Simulation between loops

A loop is given by its turn: from a state it ends with an outcome or goes on with a state. One
loop simulates another when related states lead to the same outcome or to related states
again. A turn of the simulated loop may take any number of turns of the other, none of them
included as long as a rank goes down, so that neither runs on while the other has ended.
-/

namespace Gemini.Semantics

universe u v w

variable {State : Type u} {Abstract : Type u} {Concrete : Type v} {Outcome : Type w}

/-- What a turn of a loop leads to. -/
inductive Turn (State : Type u) (Outcome : Type w) where
  | ends (outcome : Outcome)
  | goesOn (state : State)

/-- A number of turns that go on. -/
inductive Reaches (turn : State → Turn State Outcome) : Nat → State → State → Prop
  | here {state : State} : Reaches turn 0 state state
  | next {count : Nat} {state middle final : State} (taken : turn state = .goesOn middle)
      (later : Reaches turn count middle final) : Reaches turn (count + 1) state final

/-- The loop ends with an outcome after a number of turns. -/
def EndsIn (turn : State → Turn State Outcome) (count : Nat) (state : State)
    (outcome : Outcome) : Prop :=
  ∃ last, Reaches turn count state last ∧ turn last = .ends outcome

/-- The loop ends with an outcome. -/
def Ends (turn : State → Turn State Outcome) (state : State) (outcome : Outcome) : Prop :=
  ∃ count, EndsIn turn count state outcome

section Loop

variable {turn : State → Turn State Outcome} {state middle final : State}
  {outcome other : Outcome} {count more : Nat}

/-- A turn that goes on. -/
theorem Reaches.one (taken : turn state = .goesOn middle) : Reaches turn 1 state middle :=
  .next taken .here

/-- Turns after turns. -/
theorem Reaches.trans (first : Reaches turn count state middle)
    (second : Reaches turn more middle final) : Reaches turn (count + more) state final := by
  induction first with
  | here => rwa [Nat.zero_add]
  | next taken _ inductionHypothesis =>
      rw [Nat.add_right_comm]
      exact .next taken (inductionHypothesis second)

/-- A loop ends when it does so after some turns. -/
theorem Reaches.ends (reaches : Reaches turn count state middle)
    (ends : Ends turn middle outcome) : Ends turn state outcome := by
  obtain ⟨more, last, later, ended⟩ := ends
  exact ⟨count + more, last, reaches.trans later, ended⟩

/-- A turn that ends the loop. -/
theorem Ends.now (ended : turn state = .ends outcome) : Ends turn state outcome :=
  ⟨0, state, .here, ended⟩

/-- A loop that ends does so after the turns that it is known to take. -/
theorem EndsIn.after (ends : EndsIn turn count state outcome)
    (reaches : Reaches turn more state middle) :
    ∃ left, count = left + more ∧ EndsIn turn left middle outcome := by
  induction reaches generalizing count with
  | here => exact ⟨count, rfl, ends⟩
  | next taken _ inductionHypothesis =>
      obtain ⟨last, run, ended⟩ := ends
      cases run with
      | here =>
          rw [taken] at ended
          cases ended
      | next other later =>
          rw [taken] at other
          cases other
          obtain ⟨left, counted, endsLater⟩ := inductionHypothesis ⟨last, later, ended⟩
          exact ⟨left, by rw [counted, Nat.add_assoc], endsLater⟩

/-- A loop has at most one outcome. -/
theorem Ends.unique (ends : Ends turn state outcome) (endsToo : Ends turn state other) :
    outcome = other := by
  obtain ⟨count, endsIn⟩ := ends
  obtain ⟨more, last, reaches, ended⟩ := endsToo
  obtain ⟨left, -, final, run, finished⟩ := endsIn.after reaches
  cases run with
  | here =>
      rw [ended] at finished
      cases finished
      rfl
  | next taken _ =>
      rw [ended] at taken
      cases taken

/-- Where a loop is after a number of turns; one that has ended stays where it ended. -/
def after (turn : State → Turn State Outcome) (start : State) : Nat → Turn State Outcome
  | 0 => .goesOn start
  | count + 1 =>
      match after turn start count with
      | .goesOn state => turn state
      | .ends outcome => .ends outcome

/-- A loop that is still going makes one more turn. -/
theorem after_succ {start : State} (going : after turn start count = .goesOn state) :
    after turn start (count + 1) = turn state := by
  rw [after, going]

end Loop

/-- The concrete loop simulates the abstract one. -/
structure Simulation (abstract : Abstract → Turn Abstract Outcome)
    (concrete : Concrete → Turn Concrete Outcome) (related : Abstract → Concrete → Prop)
    (rank : Abstract → Nat) : Prop where
  ends : ∀ {state machine outcome}, related state machine → abstract state = .ends outcome →
    Ends concrete machine outcome
  goesOn : ∀ {state machine next}, related state machine → abstract state = .goesOn next →
    ∃ count after, Reaches concrete count machine after ∧ related next after ∧
      (0 < count ∨ rank next < rank state)

namespace Simulation

variable {abstract : Abstract → Turn Abstract Outcome}
  {concrete : Concrete → Turn Concrete Outcome} {related : Abstract → Concrete → Prop}
  {rank : Abstract → Nat} {state next : Abstract} {machine : Concrete} {outcome : Outcome}
  {count : Nat}

/-- What the abstract loop reaches, the concrete one reaches a related state of. -/
theorem reaches (simulation : Simulation abstract concrete related rank)
    (start : related state machine) (run : Reaches abstract count state next) :
    ∃ steps after, Reaches concrete steps machine after ∧ related next after := by
  induction run generalizing machine with
  | here => exact ⟨0, machine, .here, start⟩
  | next taken _ inductionHypothesis =>
      obtain ⟨first, middle, reached, relatedMiddle, -⟩ := simulation.goesOn start taken
      obtain ⟨rest, after, reachedAfter, relatedAfter⟩ := inductionHypothesis relatedMiddle
      exact ⟨first + rest, after, reached.trans reachedAfter, relatedAfter⟩

/-- An outcome of the concrete loop is one of the abstract loop: each turn of the abstract
loop leaves fewer turns of the concrete one, or as many and a smaller rank. -/
theorem ends_of_concrete (simulation : Simulation abstract concrete related rank)
    (start : related state machine) (ends : EndsIn concrete count machine outcome) :
    Ends abstract state outcome := by
  induction count using Nat.strongRecOn generalizing state machine with
  | ind count byCount =>
      induction ranked : rank state using Nat.strongRecOn generalizing state machine with
      | ind order byRank =>
          cases turned : abstract state with
          | ends other =>
              obtain rfl := Ends.unique (simulation.ends start turned) ⟨count, ends⟩
              exact .now turned
          | goesOn next =>
              obtain ⟨first, after, reached, relatedNext, progress⟩ :=
                simulation.goesOn start turned
              obtain ⟨left, counted, endsLater⟩ := ends.after reached
              have later : Ends abstract next outcome := by
                rcases progress with taken | lower
                · exact byCount left (by omega) relatedNext endsLater
                · cases first with
                  | zero =>
                      obtain rfl : count = left := by omega
                      exact byRank (rank next) (by omega) relatedNext endsLater rfl
                  | succ first => exact byCount left (by omega) relatedNext endsLater
              exact (Reaches.one turned).ends later

/-- The two loops have the same outcomes. -/
theorem ends_iff (simulation : Simulation abstract concrete related rank)
    (start : related state machine) :
    Ends abstract state outcome ↔ Ends concrete machine outcome := by
  constructor
  · rintro ⟨count, last, run, ended⟩
    obtain ⟨steps, after, reached, relatedLast⟩ := simulation.reaches start run
    exact reached.ends (simulation.ends relatedLast ended)
  · rintro ⟨count, ends⟩
    exact simulation.ends_of_concrete start ends

end Simulation

end Gemini.Semantics
