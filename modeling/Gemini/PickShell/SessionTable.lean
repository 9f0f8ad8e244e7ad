import Mathlib.Data.List.AList
import Mathlib.Order.Interval.Finset.Nat
import Gemini.Semantics.Run
import Gemini.Daemon.DaemonRunner
import Gemini.PickShell.GeminiSession

/-!
# The daemon's sessions

`GeminiSession` as far as the login and the record locks go, and the `SessionTable` that
owns the sessions of a daemon. A session gets its port when it is created, is attached to
an account by a login or by `LOGTO`, is detached by `LOGOFF`, and is destroyed when its
worker ends or when it is killed. Left out of a session are its streams, its program and
its debugging state, none of which the functions below read.
-/

namespace Gemini.PickShell

open Gemini.Semantics Gemini.Locking Gemini.PickFS
open Gemini.Daemon (SessionId PortManager)

/-! ## One session -/

/-- A session of the shell, as far as its locks depend on it. -/
structure GeminiSession where
  fileSystem : FileSystem := { root := "filesystem" }
  loggedIn : Bool := false
  whoPort : Int := 0
  daemonPortAssigned : Bool := false
  sessionUsername : String := ""
  sessionAccount : String := ""
  userNo : String := "0"
  defaultDataFile : Option String := none
  lockTable : Bool := false
  sessionLockId : String := ""

/-- `trimAsciiWsInPlace`; a line has no line feed of its own. -/
def trimAsciiWs (line : List Char) : List Char :=
  let blank (c : Char) : Bool := c = ' ' || c = '\t' || c = '\r'
  ((line.dropWhile blank).reverse.dropWhile blank).reverse

/-- The first line of the record that is not blank, when it is a file name. -/
def defaultDataFileOf (record : Record) : Option String :=
  match ((StructuredRecord.getlines record.value.toList).map trimAsciiWs).find? (· ≠ []) with
  | some line => if isValidName (String.ofList line) then some (String.ofList line) else none
  | none => none

/-- `loadDefaultDataFileFromMd`: any error of the file system counts as no default. -/
def loadDefaultDataFileFromMd (fileSystem : FileSystem) (world : World) : Option String × World :=
  match (fileSystem.read "MD" "DEFDATA").exec world with
  | (.ok (some record), world) => (defaultDataFileOf record, world)
  | (_, world) => (none, world)

namespace GeminiSession

variable (session : GeminiSession)

/-- `syncLockContextToFileSystem`: the file system locks under the id of the session. -/
def syncLockContextToFileSystem : GeminiSession :=
  if session.lockTable && session.sessionLockId ≠ "" then
    { session with fileSystem :=
        { session.fileSystem with lockTable := true, lockSessionId := session.sessionLockId } }
  else
    { session with fileSystem :=
        { session.fileSystem with lockTable := false, lockSessionId := "" } }

/-- `bindLockSession`. -/
def bindLockSession (sessionLockId : String) : GeminiSession :=
  { session with sessionLockId := sessionLockId }.syncLockContextToFileSystem

/-- `releaseSessionLocks`. -/
def releaseSessionLocks (world : World) : World :=
  if session.lockTable && session.sessionLockId ≠ "" then
    { world with locks := (world.locks.releaseAllForSession session.sessionLockId).2 }
  else world

/-- `setSharedLockTable`. -/
def setSharedLockTable : GeminiSession :=
  { session with lockTable := true }.syncLockContextToFileSystem

/-- `setDaemonPort`. -/
def setDaemonPort (port : Int) : GeminiSession :=
  { session with whoPort := port, daemonPortAssigned := true }

/-- `setFileSystemRoot`: the default file is looked up under the new root. -/
def setFileSystemRoot (root : Root) (world : World) : GeminiSession × World :=
  let session := { session with fileSystem := { session.fileSystem with root := root } }
  let (defaultDataFile, world) := loadDefaultDataFileFromMd session.fileSystem world
  ({ session with defaultDataFile := defaultDataFile }.syncLockContextToFileSystem, world)

/-- `reset`: of what is modelled here it gives up the locks only. -/
def reset (world : World) : GeminiSession × World :=
  (session, session.releaseSessionLocks world)

/-- `detach`: the locks are released before the id is given up. -/
def detach (world : World) : GeminiSession × World :=
  let world := session.releaseSessionLocks world
  let session := session.bindLockSession ""
  ({ session with
      loggedIn := false
      whoPort := if session.daemonPortAssigned then session.whoPort else 0
      sessionUsername := ""
      sessionAccount := ""
      userNo := "0"
      defaultDataFile := none }, world)

/-- The destructor: a session that is logged in is detached first. -/
def destroy (world : World) : GeminiSession × World :=
  let (session, world) := if session.loggedIn then session.detach world else (session, world)
  session.reset world

/-- `attach`. The port of a daemon's session stays; another session takes the port of the
login. -/
def attach (user : UserSession) (userNo : String) (world : World) : GeminiSession × World :=
  let (session, world) := session.setFileSystemRoot user.pickRoot world
  let (session, world) := session.reset world
  let port := if session.daemonPortAssigned then session.whoPort else user.port
  let session := { session with
    whoPort := port
    sessionUsername := user.username
    sessionAccount := user.accountName
    loggedIn := true
    userNo := if userNo = "" then "0" else userNo }
  (session.bindLockSession (makeSessionLockId port user.accountName user.username), world)

end GeminiSession

/-! ## The table -/

/-- `SessionTable`: the sessions by port. -/
structure SessionTable where
  /-- Whether `daemon_` has been set. -/
  daemon : Bool := false
  maxSessions : Nat := 1
  sessions : AList fun _ : SessionId => GeminiSession := ∅

/-- A daemon's ports, its sessions and the world that they share. -/
structure SessionHost where
  portManager : PortManager := {}
  table : SessionTable := {}
  world : World := {}

/-- `static_cast<int>` of a port. -/
def portNumber (port : SessionId) : Int := port.toBitVec.toInt

namespace SessionHost

/-- The constructors raise both limits to one. -/
def start (maxPorts maxSessions : Nat) (world : World) : SessionHost where
  portManager := .make maxPorts
  table := { maxSessions := if maxSessions < 1 then 1 else maxSessions }
  world := world

variable (host : SessionHost)

/-- The session that `createSession` puts into the table. -/
def newSession (port : SessionId) : GeminiSession :=
  ({} : GeminiSession).setSharedLockTable.setDaemonPort (portNumber port)

/-- `createSession`, with what it leaves behind also when it throws. -/
def createSession : Except String SessionId × SessionHost :=
  if host.table.sessions.keys.length ≥ host.table.maxSessions then
    (.error "session table full", host)
  else
    let table := { host.table with daemon := true }
    match host.portManager.allocate with
    | none => (.error "session table full", { host with table := table })
    | some (port, portManager) =>
        -- `emplace` leaves a session that is there already.
        let sessions :=
          if port ∈ table.sessions then table.sessions
          else table.sessions.insert port (newSession port)
        (.ok port, { host with
          portManager := portManager
          table := { table with sessions := sessions } })

/-- `destroySession`: the port is released with the session. -/
def destroySession (port : SessionId) : SessionHost :=
  match host.table.sessions.lookup port with
  | none => host
  | some session =>
      { host with
        portManager :=
          if host.table.daemon then host.portManager.release port else host.portManager
        table := { host.table with sessions := host.table.sessions.erase port }
        world := (session.destroy host.world).2 }

/-- Let a session of the table do something; an unknown port is nobody's. -/
def update (port : SessionId) (change : GeminiSession → World → GeminiSession × World) :
    SessionHost :=
  match host.table.sessions.lookup port with
  | none => host
  | some session =>
      let (session, world) := change session host.world
      { host with
        table := { host.table with sessions := host.table.sessions.insert port session }
        world := world }

end SessionHost

/-! ## The steps of a daemon -/

/-- What happens to a daemon's sessions. `LOGTO` is an `attach`, `LOGOFF` a `detach` and a
`reset`, and a session that ends or is killed is destroyed. File operations come with the
failures that their system calls have. -/
inductive SessionAction where
  | create
  | destroy (port : SessionId)
  | attach (port : SessionId) (user : UserSession) (userNo : String) (faults : List Bool)
  | detach (port : SessionId)
  | reset (port : SessionId)
  | perform (port : SessionId) (operation : FileOperation) (faults : List Bool)

/-- One action on the table. -/
def sessionStep (host : SessionHost) : SessionAction → Option SessionHost
  | .create => some host.createSession.2
  | .destroy port => some (host.destroySession port)
  | .attach port user userNo faults =>
      some (host.update port fun session world =>
        session.attach user userNo { world with faults := faults })
  | .detach port => some (host.update port fun session => session.detach)
  | .reset port => some (host.update port fun session => session.reset)
  | .perform port operation faults =>
      some (host.update port fun session world =>
        (session, (FileAction.outcome
          { session := session.fileSystem, operation := operation, faults := faults } world).2))

/-! ## Ports and sessions stay in step -/

/-- `port` is the smallest positive port that is not in use. -/
def SmallestFree (inUse : Finset SessionId) (port : SessionId) : Prop :=
  0 < port ∧ port ∉ inUse ∧ ∀ other, 0 < other → other ∉ inUse → port ≤ other

/-- The ports in use are the keys of the table, and no more than it may hold. -/
structure InStep (host : SessionHost) : Prop where
  keys : ∀ port, port ∈ host.table.sessions ↔ port ∈ host.portManager.inUse
  bounded : host.table.sessions.keys.length ≤ host.table.maxSessions

/-- A session is created at the smallest free port, or nothing changes. -/
def CreatesInOrder (host : SessionHost) (action : SessionAction) : Prop :=
  action = .create →
    match host.createSession with
    | (.ok port, _) => SmallestFree host.portManager.inUse port
    | (.error _, after) =>
        after.portManager = host.portManager ∧ after.table.sessions = host.table.sessions

/-- The ports from `candidate` on that are in use. -/
def usedFrom (inUse : Finset SessionId) (candidate : SessionId) : Finset SessionId :=
  inUse.filter fun port => candidate ≤ port

/-- The search ends at the first free port, when there is one to find. -/
theorem firstFree_spec {inUse : Finset SessionId} {free : SessionId} (unused : free ∉ inUse)
    {steps : Nat} {candidate : SessionId} (enough : (usedFrom inUse candidate).card ≤ steps)
    (below : candidate ≤ free) :
    candidate ≤ PortManager.firstFree inUse steps candidate ∧
      PortManager.firstFree inUse steps candidate ≤ free ∧
      PortManager.firstFree inUse steps candidate ∉ inUse ∧
      ∀ port, candidate ≤ port → port < PortManager.firstFree inUse steps candidate →
        port ∈ inUse := by
  induction steps generalizing candidate with
  | zero =>
      have none : candidate ∉ inUse := by
        intro used
        have member : candidate ∈ usedFrom inUse candidate := by simp [usedFrom, used]
        have positive := Finset.card_pos.mpr ⟨_, member⟩
        omega
      simp only [PortManager.firstFree]
      refine ⟨UInt32.le_refl _, below, none, ?_⟩
      intro port above under
      exact absurd above (UInt32.not_le.mpr under)
  | succ steps inductionHypothesis =>
      unfold PortManager.firstFree
      by_cases used : candidate ∈ inUse
      · have smaller : candidate < free := by
          refine UInt32.lt_of_le_of_ne below ?_
          rintro rfl
          exact unused used
        rw [UInt32.lt_iff_toNat_lt] at smaller
        have next : (candidate + 1).toNat = candidate.toNat + 1 := by
          have bound := free.toNat_lt
          rw [UInt32.toNat_add, UInt32.toNat_one, Nat.mod_eq_of_lt (by omega)]
        have split : usedFrom inUse candidate = insert candidate (usedFrom inUse (candidate + 1)) := by
          ext port
          have same : port = candidate ↔ port.toNat = candidate.toNat := UInt32.toNat_inj.symm
          simp only [usedFrom, Finset.mem_insert, Finset.mem_filter, UInt32.le_iff_toNat_le, next,
            same]
          constructor
          · rintro ⟨inside, above⟩
            by_cases equal : port.toNat = candidate.toNat
            · exact .inl equal
            · exact .inr ⟨inside, by omega⟩
          · rintro (equal | ⟨inside, above⟩)
            · have := UInt32.toNat_inj.mp equal
              subst this
              exact ⟨used, Nat.le_refl _⟩
            · exact ⟨inside, by omega⟩
        have fresh : candidate ∉ usedFrom inUse (candidate + 1) := by
          simp only [usedFrom, Finset.mem_filter, UInt32.le_iff_toNat_le, next]
          omega
        rw [split, Finset.card_insert_of_notMem fresh] at enough
        have fewer : (usedFrom inUse (candidate + 1)).card ≤ steps := by omega
        obtain ⟨above, under, found, before⟩ :=
          inductionHypothesis fewer (by rw [UInt32.le_iff_toNat_le, next]; omega)
        rw [if_pos used]
        refine ⟨?_, under, found, ?_⟩
        · rw [UInt32.le_iff_toNat_le] at above ⊢
          omega
        · intro port from_ until_
          by_cases equal : port.toNat = candidate.toNat
          · have := UInt32.toNat_inj.mp equal
            subst this
            exact used
          · refine before port ?_ until_
            rw [UInt32.le_iff_toNat_le] at from_ ⊢
            omega
      · rw [if_neg used]
        refine ⟨UInt32.le_refl _, below, used, ?_⟩
        intro port above under
        exact absurd above (UInt32.not_le.mpr under)

/-- When every positive port up to `last` is in use, that many ports are. -/
theorem toNat_le_card {inUse : Finset SessionId} {last : SessionId}
    (used : ∀ port, 0 < port → port ≤ last → port ∈ inUse) : last.toNat ≤ inUse.card := by
  have covered : Finset.Ico 1 (last.toNat + 1) ⊆ inUse.image UInt32.toNat := by
    intro number member
    obtain ⟨positive, upTo⟩ := Finset.mem_Ico.mp member
    have bound := last.toNat_lt
    have same : (UInt32.ofNat number).toNat = number := by
      rw [UInt32.toNat_ofNat', Nat.mod_eq_of_lt (by omega)]
    refine Finset.mem_image.mpr ⟨UInt32.ofNat number, used _ ?_ ?_, same⟩
    · rw [UInt32.lt_iff_toNat_lt, same]
      exact positive
    · rw [UInt32.le_iff_toNat_le, same]
      omega
  have size := (Finset.card_le_card covered).trans Finset.card_image_le
  rwa [Nat.card_Ico, Nat.add_sub_cancel] at size

/-- The limits that keep `SessionId` from running over: there is a port to spare. -/
def PortToSpare (maxPorts maxSessions : Nat) : Prop :=
  maxPorts < 2 ^ 32 - 1 ∨ maxSessions < 2 ^ 32 - 1

/-- What creation and destruction keep. `below` is what makes the search for a port start at
the right place. -/
structure Ledger (host : SessionHost) : Prop where
  keys : ∀ port, port ∈ host.table.sessions ↔ port ∈ host.portManager.inUse
  ports : host.portManager.inUse.card ≤ host.portManager.maxPorts
  bounded : host.portManager.inUse.card ≤ host.table.maxSessions
  daemon : ∀ port ∈ host.table.sessions, host.table.daemon = true
  zero : 0 ∉ host.portManager.inUse
  next : 0 < host.portManager.nextCandidate
  below : ∀ port, 0 < port → port < host.portManager.nextCandidate →
    port ∈ host.portManager.inUse
  limit : PortToSpare host.portManager.maxPorts host.table.maxSessions

/-- The table has one session for each port in use. -/
theorem length_keys {host : SessionHost}
    (keys : ∀ port, port ∈ host.table.sessions ↔ port ∈ host.portManager.inUse) :
    host.table.sessions.keys.length = host.portManager.inUse.card := by
  have same : host.table.sessions.keys.toFinset = host.portManager.inUse := by
    ext port
    rw [List.mem_toFinset, ← keys port]
    exact Iff.rfl
  rw [← same, List.toFinset_card_of_nodup host.table.sessions.keys_nodup]

/-- What the ledger keeps says that ports and sessions are in step. -/
theorem Ledger.inStep {host : SessionHost} (ledger : Ledger host) : InStep host where
  keys := ledger.keys
  bounded := by
    rw [length_keys ledger.keys]
    exact ledger.bounded

/-- Below both limits the search finds the smallest free port, and another one above it is
still there. -/
theorem Ledger.firstFree {host : SessionHost} (ledger : Ledger host)
    (portsLeft : host.portManager.inUse.card < host.portManager.maxPorts)
    (sessionsLeft : host.portManager.inUse.card < host.table.maxSessions) :
    let port := PortManager.firstFree host.portManager.inUse host.portManager.inUse.card
      host.portManager.nextCandidate
    SmallestFree host.portManager.inUse port ∧ port.toNat + 1 < 2 ^ 32 := by
  intro port
  have spare : host.portManager.inUse.card + 1 < 2 ^ 32 - 1 := by
    rcases ledger.limit with ports | sessions <;> omega
  -- Not every port is in use, so there is one at or above the candidate.
  obtain ⟨free, positive, unused⟩ : ∃ free : SessionId, 0 < free ∧ free ∉ host.portManager.inUse := by
    refine by_contra fun none => ?_
    have all : ∀ other : SessionId, 0 < other → other ≤ UInt32.ofNat (2 ^ 32 - 1) →
        other ∈ host.portManager.inUse := by
      intro other positive _
      refine by_contra fun unused => ?_
      exact none ⟨other, positive, unused⟩
    have many := toNat_le_card all
    rw [UInt32.toNat_ofNat', Nat.mod_eq_of_lt (by omega)] at many
    omega
  have above : host.portManager.nextCandidate ≤ free := by
    refine UInt32.not_lt.mp fun under => ?_
    exact unused (ledger.below free positive under)
  have few : (usedFrom host.portManager.inUse host.portManager.nextCandidate).card ≤
      host.portManager.inUse.card := Finset.card_le_card (Finset.filter_subset _ _)
  obtain ⟨fromCandidate, -, found, before⟩ := firstFree_spec unused few above
  have lower : ∀ other, 0 < other → other < port → other ∈ host.portManager.inUse := by
    intro other positive under
    by_cases early : other < host.portManager.nextCandidate
    · exact ledger.below other positive early
    · exact before other (UInt32.not_lt.mp early) under
  refine ⟨⟨UInt32.lt_of_lt_of_le ledger.next fromCandidate, found, ?_⟩, ?_⟩
  · intro other positive unused
    refine UInt32.not_lt.mp fun under => ?_
    exact unused (lower other positive under)
  · -- Otherwise all ports below it are in use, which is more than the limits admit.
    have positive : 0 < port.toNat := by
      have := UInt32.lt_of_lt_of_le ledger.next fromCandidate
      rwa [UInt32.lt_iff_toNat_lt] at this
    have bound := port.toNat_lt
    have previous : (UInt32.ofNat (port.toNat - 1)).toNat = port.toNat - 1 := by
      rw [UInt32.toNat_ofNat', Nat.mod_eq_of_lt (by omega)]
    have all : ∀ other : SessionId, 0 < other → other ≤ UInt32.ofNat (port.toNat - 1) →
        other ∈ host.portManager.inUse := by
      intro other positive upTo
      apply lower other positive
      rw [UInt32.le_iff_toNat_le, previous] at upTo
      rw [UInt32.lt_iff_toNat_lt]
      omega
    have many := toNat_le_card all
    omega

/-- What `createSession` does while the table and the ports are in step: it is refused at a
limit, or takes the port that the search finds. -/
theorem Ledger.createSession_cases {host : SessionHost} (ledger : Ledger host) :
    (∃ message daemon, (daemon = host.table.daemon ∨ daemon = true) ∧
      host.createSession =
        (.error message, { host with table := { host.table with daemon := daemon } })) ∨
    ∃ port, SmallestFree host.portManager.inUse port ∧ port.toNat + 1 < 2 ^ 32 ∧
      host.portManager.inUse.card < host.portManager.maxPorts ∧
      host.portManager.inUse.card < host.table.maxSessions ∧
      host.createSession = (.ok port, { host with
        portManager := { host.portManager with
          inUse := insert port host.portManager.inUse
          nextCandidate := port + 1 }
        table := { host.table with
          daemon := true
          sessions := host.table.sessions.insert port (SessionHost.newSession port) } }) := by
  by_cases full : host.table.sessions.keys.length ≥ host.table.maxSessions
  · exact .inl ⟨_, host.table.daemon, .inl rfl, by rw [SessionHost.createSession, if_pos full]⟩
  by_cases exhausted : host.portManager.inUse.card ≥ host.portManager.maxPorts
  · refine .inl ⟨"session table full", true, .inr rfl, ?_⟩
    rw [SessionHost.createSession, if_neg full, PortManager.allocate, if_pos exhausted]
  · rw [length_keys ledger.keys] at full
    obtain ⟨smallest, bound⟩ := ledger.firstFree (by omega) (by omega)
    refine .inr ⟨_, smallest, bound, by omega, by omega, ?_⟩
    have fresh : PortManager.firstFree host.portManager.inUse host.portManager.inUse.card
        host.portManager.nextCandidate ∉ host.table.sessions := by
      rw [ledger.keys]
      exact smallest.2.1
    rw [SessionHost.createSession, length_keys ledger.keys, if_neg full, PortManager.allocate,
      if_neg exhausted]
    simp only [if_neg fresh]

/-- A session that is created keeps the ledger. -/
theorem Ledger.createSession {host : SessionHost} (ledger : Ledger host) :
    Ledger host.createSession.2 := by
  obtain ⟨message, daemon, known, refused⟩ | ⟨port, smallest, bound, portsLeft, sessionsLeft, taken⟩ :=
    ledger.createSession_cases
  · rw [refused]
    refine { ledger with daemon := ?_ }
    intro port present
    rcases known with same | set
    · exact same.trans (ledger.daemon port present)
    · exact set
  · rw [taken]
    obtain ⟨positive, unused, least⟩ := smallest
    have next : (port + 1).toNat = port.toNat + 1 := by
      rw [UInt32.toNat_add, UInt32.toNat_one, Nat.mod_eq_of_lt bound]
    have card : (insert port host.portManager.inUse).card = host.portManager.inUse.card + 1 :=
      Finset.card_insert_of_notMem unused
    refine {
      keys := ?_
      ports := by simp only [card]; omega
      bounded := by simp only [card]; omega
      daemon := fun _ _ => rfl
      zero := ?_
      next := ?_
      below := ?_
      limit := ledger.limit }
    · intro other
      simp only [AList.mem_insert, Finset.mem_insert, ledger.keys]
    · simp only [Finset.mem_insert, not_or]
      exact ⟨(UInt32.ne_of_lt positive), ledger.zero⟩
    · rw [UInt32.lt_iff_toNat_lt, next, UInt32.toNat_zero]
      omega
    · intro other otherPositive under
      rw [UInt32.lt_iff_toNat_lt, next] at under
      rw [Finset.mem_insert]
      by_cases same : other = port
      · exact .inl same
      · refine .inr (by_contra fun free => ?_)
        have above := least other otherPositive free
        rw [UInt32.le_iff_toNat_le] at above
        exact same (UInt32.toNat_inj.mp (by omega))

/-- So does one that is destroyed. -/
theorem Ledger.destroySession {host : SessionHost} (ledger : Ledger host) (port : SessionId) :
    Ledger (host.destroySession port) := by
  unfold SessionHost.destroySession
  split
  · exact ledger
  · rename_i session found
    have present : port ∈ host.table.sessions := AList.lookup_isSome.mp (by rw [found]; rfl)
    have used := (ledger.keys port).mp present
    have positive : 0 < port := by
      refine UInt32.lt_of_le_of_ne (UInt32.zero_le) ?_
      rintro rfl
      exact ledger.zero used
    have fewer : (host.portManager.inUse.erase port).card ≤ host.portManager.inUse.card :=
      Finset.card_le_card (Finset.erase_subset _ _)
    simp only [ledger.daemon port present, if_true, PortManager.release]
    refine {
      keys := ?_
      ports := fewer.trans ledger.ports
      bounded := fewer.trans ledger.bounded
      daemon := fun _ _ => rfl
      zero := fun member => ledger.zero (Finset.mem_of_mem_erase member)
      next := ?_
      below := ?_
      limit := ledger.limit }
    · intro other
      simp only [AList.mem_erase, Finset.mem_erase, ledger.keys]
    · split
      · exact positive
      · exact ledger.next
    · intro other otherPositive under
      rw [Finset.mem_erase]
      split at under
      · rename_i early
        refine ⟨UInt32.ne_of_lt under, ledger.below other otherPositive ?_⟩
        exact UInt32.lt_trans under early
      · rename_i late
        refine ⟨?_, ledger.below other otherPositive under⟩
        rintro rfl
        exact late under

/-- What a session does does not touch the ports or the keys of the table. -/
theorem Ledger.update {host : SessionHost} (ledger : Ledger host) (port : SessionId)
    (change : GeminiSession → World → GeminiSession × World) :
    Ledger (host.update port change) := by
  unfold SessionHost.update
  split
  · exact ledger
  · rename_i session found
    have present : port ∈ host.table.sessions := AList.lookup_isSome.mp (by rw [found]; rfl)
    have same : ∀ other, other ∈ host.table.sessions.insert port (change session host.world).1 ↔
        other ∈ host.table.sessions := by
      intro other
      rw [AList.mem_insert]
      constructor
      · rintro (rfl | member)
        · exact present
        · exact member
      · exact .inr
    exact { ledger with
      keys := fun other => (same other).trans (ledger.keys other)
      daemon := fun other member => ledger.daemon other ((same other).mp member) }

/-- Every action keeps it. -/
theorem Ledger.step {host next : SessionHost} {action : SessionAction} (ledger : Ledger host)
    (taken : sessionStep host action = some next) : Ledger next := by
  cases action with
  | create =>
      cases taken
      exact ledger.createSession
  | destroy port =>
      cases taken
      exact ledger.destroySession port
  | attach =>
      cases taken
      exact ledger.update _ _
  | detach =>
      cases taken
      exact ledger.update _ _
  | reset =>
      cases taken
      exact ledger.update _ _
  | perform =>
      cases taken
      exact ledger.update _ _

/-- A creation takes the lowest port that is free, or fails as it should. -/
theorem Ledger.createsInOrder {host : SessionHost} (ledger : Ledger host)
    (action : SessionAction) : CreatesInOrder host action := by
  intro _
  obtain ⟨message, daemon, -, refused⟩ | ⟨port, smallest, -, -, -, taken⟩ :=
    ledger.createSession_cases
  · rw [refused]
    exact ⟨rfl, rfl⟩
  · rw [taken]
    exact smallest

/-- A new daemon has an empty ledger. -/
theorem ledger_start {maxPorts maxSessions : Nat} (spare : PortToSpare maxPorts maxSessions)
    (world : World) : Ledger (.start maxPorts maxSessions world) where
  keys port := by simp [SessionHost.start, PortManager.make]
  ports := by simp [SessionHost.start, PortManager.make]
  bounded := by simp [SessionHost.start, PortManager.make]
  daemon port present := by simp [SessionHost.start] at present
  zero := by simp [SessionHost.start, PortManager.make]
  next := by simp [SessionHost.start, PortManager.make]
  below port positive under := by
    simp only [SessionHost.start, PortManager.make, UInt32.lt_iff_toNat_lt, UInt32.toNat_one,
      UInt32.toNat_zero] at positive under
    omega
  limit := by
    simp only [PortToSpare, SessionHost.start, PortManager.make] at spare ⊢
    split <;> split <;> omega

/-! ## Without a port to spare

The last port makes `nextCandidate` wrap to zero, and no release brings it back. -/

/-- The ports `1` to `count` are in use, one session each, and nothing was released. -/
structure Filled (maxPorts maxSessions count : Nat) (host : SessionHost) : Prop where
  keys : ∀ port, port ∈ host.table.sessions ↔ port ∈ host.portManager.inUse
  inUse : ∀ port, port ∈ host.portManager.inUse ↔ 0 < port.toNat ∧ port.toNat ≤ count
  card : host.portManager.inUse.card = count
  next : host.portManager.nextCandidate.toNat = (count + 1) % 2 ^ 32
  daemon : 0 < count → host.table.daemon = true
  ports : host.portManager.maxPorts = if maxPorts < 1 then 1 else maxPorts
  sessions : host.table.maxSessions = if maxSessions < 1 then 1 else maxSessions

/-- A free candidate is the port that the search gives. -/
theorem firstFree_of_notMem {inUse : Finset SessionId} {candidate : SessionId}
    (free : candidate ∉ inUse) (steps : Nat) :
    PortManager.firstFree inUse steps candidate = candidate := by
  cases steps with
  | zero => rfl
  | succ steps => rw [PortManager.firstFree, if_neg free]

/-- Below both limits a free candidate is given out. -/
theorem createSession_of_notMem (host : SessionHost)
    (keys : ∀ port, port ∈ host.table.sessions ↔ port ∈ host.portManager.inUse)
    (free : host.portManager.nextCandidate ∉ host.portManager.inUse)
    (portsLeft : host.portManager.inUse.card < host.portManager.maxPorts)
    (sessionsLeft : host.portManager.inUse.card < host.table.maxSessions) :
    host.createSession = (.ok host.portManager.nextCandidate, { host with
      portManager := { host.portManager with
        inUse := insert host.portManager.nextCandidate host.portManager.inUse
        nextCandidate := host.portManager.nextCandidate + 1 }
      table := { host.table with
        daemon := true
        sessions := host.table.sessions.insert host.portManager.nextCandidate
          (SessionHost.newSession host.portManager.nextCandidate) } }) := by
  have fresh : host.portManager.nextCandidate ∉ host.table.sessions := by
    rw [keys]
    exact free
  rw [SessionHost.createSession, length_keys keys, if_neg (by omega), PortManager.allocate,
    if_neg (by omega)]
  simp only [firstFree_of_notMem free, if_neg fresh]

/-- One more session takes the next port. -/
theorem Filled.createSession {maxPorts maxSessions count : Nat} {host : SessionHost}
    (filled : Filled maxPorts maxSessions count host) (small : count < 2 ^ 32 - 1)
    (ports : count < maxPorts) (sessions : count < maxSessions) :
    Filled maxPorts maxSessions (count + 1) host.createSession.2 := by
  have next : host.portManager.nextCandidate.toNat = count + 1 := by
    rw [filled.next, Nat.mod_eq_of_lt (by omega)]
  have free : host.portManager.nextCandidate ∉ host.portManager.inUse := by
    rw [filled.inUse, next]
    omega
  have card := filled.card
  have maxPortsIs := filled.ports
  have maxSessionsIs := filled.sessions
  rw [if_neg (by omega)] at maxPortsIs maxSessionsIs
  rw [createSession_of_notMem host filled.keys free (by omega) (by omega)]
  refine {
    keys := ?_
    inUse := ?_
    card := by rw [Finset.card_insert_of_notMem free, card]
    next := by rw [UInt32.toNat_add, next, UInt32.toNat_one]
    daemon := fun _ => rfl
    ports := filled.ports
    sessions := filled.sessions }
  · intro port
    simp only [AList.mem_insert, Finset.mem_insert, filled.keys]
  · intro port
    rw [Finset.mem_insert, filled.inUse, ← UInt32.toNat_inj, next]
    omega

/-- A new daemon has no session. -/
theorem filled_start (maxPorts maxSessions : Nat) (world : World) :
    Filled maxPorts maxSessions 0 (.start maxPorts maxSessions world) where
  keys port := by simp [SessionHost.start, PortManager.make]
  inUse port := by
    simp only [SessionHost.start, PortManager.make, Finset.notMem_empty, false_iff]
    omega
  card := rfl
  next := rfl
  daemon positive := absurd positive (Nat.lt_irrefl 0)
  ports := rfl
  sessions := rfl

/-- Creating sessions one after the other fills the ports from one on. -/
theorem run_create (maxPorts maxSessions : Nat) (world : World) (count : Nat)
    (small : count ≤ 2 ^ 32 - 1) (ports : count ≤ maxPorts) (sessions : count ≤ maxSessions) :
    ∃ host, run sessionStep (.start maxPorts maxSessions world)
        (List.replicate count SessionAction.create) = some host ∧
      Filled maxPorts maxSessions count host := by
  -- The creations still to come are counted down, those made are counted up.
  have further : ∀ left done (host : SessionHost), done + left = count →
      Filled maxPorts maxSessions done host →
      ∃ last, run sessionStep host (List.replicate left SessionAction.create) = some last ∧
        Filled maxPorts maxSessions count last := by
    intro left
    induction left with
    | zero =>
        intro done host total filled
        obtain rfl : done = count := total
        exact ⟨host, rfl, filled⟩
    | succ left inductionHypothesis =>
        intro done host total filled
        have created := filled.createSession (by omega) (by omega) (by omega)
        obtain ⟨last, reached, filledLast⟩ :=
          inductionHypothesis (done + 1) host.createSession.2 (by omega) created
        exact ⟨last, reached, filledLast⟩
  exact further count 0 _ (Nat.zero_add _) (filled_start maxPorts maxSessions world)

/-- Fill every port, give one back, and ask for another. -/
def overrun : List SessionAction :=
  List.replicate (2 ^ 32 - 1) SessionAction.create ++ [SessionAction.destroy 1, .create]

/-- Without a port to spare, the session created last is at port zero. -/
theorem overrun_not_inOrder {maxPorts maxSessions : Nat}
    (noSpare : ¬ PortToSpare maxPorts maxSessions) (world : World) :
    ¬ EachStep sessionStep CreatesInOrder (.start maxPorts maxSessions world) overrun := by
  simp only [PortToSpare, not_or] at noSpare
  obtain ⟨full, reached, filled⟩ := run_create maxPorts maxSessions world (2 ^ 32 - 1)
    (by omega) (by omega) (by omega)
  intro each
  have inOrder : CreatesInOrder (full.destroySession 1) .create := (each.after reached).2.1
  have inUse : (1 : SessionId) ∈ full.portManager.inUse := by
    rw [filled.inUse, UInt32.toNat_one]
    omega
  have present := (filled.keys 1).mpr inUse
  obtain ⟨session, found⟩ := Option.isSome_iff_exists.mp (AList.lookup_isSome.mpr present)
  have next : full.portManager.nextCandidate = 0 := by
    apply UInt32.toNat_inj.mp
    rw [filled.next, UInt32.toNat_zero]
    omega
  have zero : (0 : SessionId) ∉ full.portManager.inUse := by
    rw [filled.inUse, UInt32.toNat_zero]
    omega
  have maxPortsIs := filled.ports
  have maxSessionsIs := filled.sessions
  rw [if_neg (by omega)] at maxPortsIs maxSessionsIs
  have one : ¬ (1 : SessionId) < 0 := by
    rw [UInt32.lt_iff_toNat_lt, UInt32.toNat_zero]
    omega
  have destroyed : full.destroySession 1 = { full with
      portManager := { full.portManager with inUse := full.portManager.inUse.erase 1 }
      table := { full.table with sessions := full.table.sessions.erase 1 }
      world := (session.destroy full.world).2 } := by
    simp only [SessionHost.destroySession, found, filled.daemon (by omega), if_true,
      PortManager.release, next, if_neg one]
  have card := filled.card
  have fewer := Finset.card_erase_of_mem inUse
  have created := createSession_of_notMem (full.destroySession 1)
    (by
      intro port
      rw [destroyed]
      simp only [AList.mem_erase, Finset.mem_erase, filled.keys])
    (by
      rw [destroyed]
      simp only [next]
      exact fun member => zero (Finset.mem_of_mem_erase member))
    (by
      rw [destroyed]
      simp only [fewer]
      omega)
    (by
      rw [destroyed]
      simp only [fewer]
      omega)
  have smallest := inOrder rfl
  rw [created, destroyed] at smallest
  simp only [SmallestFree, next] at smallest
  exact absurd smallest.1 (UInt32.lt_irrefl 0)

/-- Table and ports stay in step, and sessions are created in order, in every run exactly
when one of the limits leaves a port to spare. -/
theorem sessions_in_step_iff (maxPorts maxSessions : Nat) (world : World) :
    (∀ actions, Always sessionStep InStep (.start maxPorts maxSessions world) actions ∧
      EachStep sessionStep CreatesInOrder (.start maxPorts maxSessions world) actions) ↔
      PortToSpare maxPorts maxSessions := by
  constructor
  · intro always
    refine by_contra fun noSpare => ?_
    exact overrun_not_inOrder noSpare world (always overrun).2
  · intro spare actions
    have start := ledger_start spare world
    have anyStep : EachStep sessionStep (fun _ _ => True) (.start maxPorts maxSessions world)
        actions := eachStep_of_forall (fun _ _ => trivial) _
    constructor
    · exact (always_of_invariant (fun ledger _ taken => ledger.step taken) start anyStep).mono
        fun _ ledger => ledger.inStep
    · exact eachStep_of_invariant (fun ledger _ taken => ledger.step taken)
        (fun ledger _ => ledger.createsInOrder _) start anyStep

/-- With 4294967295 sessions admitted, the run that fills them all, ends the first and
creates one more does not create it at the smallest free port. -/
theorem overrun_out_of_order :
    ¬ EachStep sessionStep CreatesInOrder (.start 4294967295 4294967295 {}) overrun :=
  overrun_not_inOrder (by simp [PortToSpare]) {}

end Gemini.PickShell
