import Mathlib.Data.List.TakeWhile
import Gemini.PickFS.FileSystem

/-!
# A session's view of its account

`GeminiSession::attach`: after a login the session's file system is at the root of the
account, bound to the shared lock table under an id made of the port, the account and
the user. Sessions on different ports have different ids, whatever the names of their
accounts and users are.
-/

namespace Gemini.PickShell

open Gemini.PickFS

/-- `makeSessionLockId`. -/
def makeSessionLockId (port : Int) (account username : String) : String :=
  "S:" ++ toString port ++ ":" ++ account ++ ":" ++ username

/-- What a session is attached with: a user session of the catalogue, at the port of the
daemon's session. -/
structure UserSession where
  pickRoot : Root
  username : String
  accountName : String
  port : Int

/-- The file system of the session once it is attached. -/
def UserSession.attach (session : UserSession) : FileSystem where
  root := session.pickRoot
  lockTable := true
  lockSessionId := makeSessionLockId session.port session.accountName session.username

/-! ## Ids of different ports -/

/-- The digits of a number. -/
theorem toList_toString_ofNat (number : Nat) :
    (toString (Int.ofNat number)).toList = Nat.toDigits 10 number := by
  simp [toString, Int.repr]

/-- A negative number has a minus sign before its digits. -/
theorem toList_toString_negSucc (number : Nat) :
    (toString (Int.negSucc number)).toList = '-' :: Nat.toDigits 10 (number + 1) := by
  simp [toString, Int.repr]

/-- Nothing but digits is among the digits of a number. -/
theorem not_mem_toDigits {letter : Char} (letterOnly : letter.isDigit = false) (number : Nat) :
    letter ∉ Nat.toDigits 10 number := by
  intro present
  simp [Nat.isDigit_of_mem_toDigits (by decide) (by decide) present] at letterOnly

/-- No minus sign is in them. -/
theorem minus_not_mem_toDigits (number : Nat) : '-' ∉ Nat.toDigits 10 number :=
  not_mem_toDigits rfl number

/-- A number has no colon. -/
theorem colon_not_mem_toString (port : Int) : ':' ∉ (toString port).toList := by
  cases port with
  | ofNat number =>
      rw [toList_toString_ofNat]
      exact not_mem_toDigits rfl number
  | negSucc number =>
      rw [toList_toString_negSucc]
      exact List.not_mem_cons_of_ne_of_not_mem (by decide) (not_mem_toDigits rfl _)

/-- Two numbers with the same digits are the same. -/
theorem toDigits_injective {first second : Nat}
    (same : Nat.toDigits 10 first = Nat.toDigits 10 second) : first = second := by
  have numbers := congrArg (Nat.ofDigitChars 10 · 0) same
  simpa only [Nat.ofDigitChars_ten_toDigits] using numbers

/-- Two ports that are written the same are the same. -/
theorem port_injective {first second : Int}
    (same : (toString first).toList = (toString second).toList) : first = second := by
  cases first with
  | ofNat first =>
      rw [toList_toString_ofNat] at same
      cases second with
      | ofNat second =>
          rw [toList_toString_ofNat] at same
          exact congrArg Int.ofNat (toDigits_injective same)
      | negSucc second =>
          rw [toList_toString_negSucc] at same
          exact absurd (same ▸ List.mem_cons_self) (minus_not_mem_toDigits first)
  | negSucc first =>
      rw [toList_toString_negSucc] at same
      cases second with
      | ofNat second =>
          rw [toList_toString_ofNat] at same
          exact absurd (same ▸ List.mem_cons_self) (minus_not_mem_toDigits second)
      | negSucc second =>
          rw [toList_toString_negSucc] at same
          have numbers := toDigits_injective (List.cons.inj same).2
          exact congrArg Int.negSucc (Nat.succ.inj numbers)

/-- What stands before the first colon of two equal texts is the same. -/
theorem before_colon {first second firstRest secondRest : List Char} (firstOnly : ':' ∉ first)
    (secondOnly : ':' ∉ second)
    (same : first ++ ':' :: firstRest = second ++ ':' :: secondRest) : first = second := by
  have taken {text rest : List Char} (only : ':' ∉ text) :
      (text ++ ':' :: rest).takeWhile (· ≠ ':') = text := by
    rw [List.takeWhile_append_of_pos]
    · simp
    · intro letter present
      rw [decide_eq_true_iff]
      rintro rfl
      exact only present
  rw [← taken firstOnly, same, taken secondOnly]

/-- A lock id letter by letter. -/
theorem toList_makeSessionLockId (port : Int) (account username : String) :
    (makeSessionLockId port account username).toList =
      'S' :: ':' :: ((toString port).toList ++
        ':' :: (account.toList ++ ':' :: username.toList)) := by
  simp [makeSessionLockId]

/-- Sessions on different ports have different lock ids. -/
theorem makeSessionLockId_ne {first second : Int} (ports : first ≠ second)
    (account username otherAccount otherUsername : String) :
    makeSessionLockId first account username ≠
      makeSessionLockId second otherAccount otherUsername := by
  intro same
  have texts := congrArg String.toList same
  rw [toList_makeSessionLockId, toList_makeSessionLockId] at texts
  have rest := (List.cons.inj (List.cons.inj texts).2).2
  exact ports (port_injective
    (before_colon (colon_not_mem_toString first) (colon_not_mem_toString second) rest))

end Gemini.PickShell
