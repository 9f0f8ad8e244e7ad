import Gemini.VM.Rows

/-!
# Instructions one at a time

The debuggers execute a program instruction by instruction and stop between two of them.
`instructionTurn` is an instruction as a turn of the uninterrupted run: what a debugger has
executed is compared with `after instructionTurn`.
-/

namespace Gemini.VM

open Gemini.Semantics

variable {Double World : Type} [Doubles Double]

/-- An instruction of the uninterrupted run. It ends the run with the last machine, and with the
exception that the instruction throws. -/
def instructionTurn (host : Host Double World) (program : List (Instruction Double))
    (machine : Machine Double World) :
    Turn (Machine Double World) (Option Fault × Machine Double World) :=
  match Program.exec (step host program) machine with
  | (.ok true, after) => .goesOn after
  | (.ok false, after) => .ends (none, after)
  | (.error fault, after) => .ends (some fault, after)

variable {host : Host Double World} {program : List (Instruction Double)}
  {machine after : Machine Double World}

/-- A step after which something is left to execute has gone to an instruction. -/
theorem ip_lt_of_step (stepped : Program.exec (step host program) machine = (.ok true, after)) :
    after.ip < program.length := by
  rw [exec_step] at stepped
  split at stepped
  · cases stepped
  · split at stepped
    · obtain ⟨more, rfl⟩ := Prod.mk.inj stepped
      simp only [Except.ok.injEq, Bool.and_eq_true, decide_eq_true_eq] at more
      exact more.2
    · cases stepped

/-- A step after which nothing is left to execute has gone to the end of the program. -/
theorem le_ip_of_step (inside : machine.ip < program.length)
    (stepped : Program.exec (step host program) machine = (.ok false, after)) :
    program.length ≤ after.ip := by
  rw [exec_step, List.getElem?_eq_getElem inside] at stepped
  dsimp only at stepped
  split at stepped
  · next flow _ _ =>
      obtain ⟨more, rfl⟩ := Prod.mk.inj stepped
      cases flow with
      | halt => exact le_rfl
      | next => simpa using more
      | goTo target => simpa using more
  · cases stepped

/-- A turn that goes on is on an instruction afterwards. -/
theorem ip_lt_of_goesOn (turned : instructionTurn host program machine = .goesOn after) :
    after.ip < program.length := by
  unfold instructionTurn at turned
  split at turned
  · next machine stepped =>
      cases turned
      exact ip_lt_of_step stepped
  · cases turned
  · cases turned

end Gemini.VM
