import Mathlib.Data.Finset.Card
import Mathlib.Data.Finset.Insert
import Mathlib.Logic.Function.Basic
import Gemini.Daemon.IpcServer

/-!
# The daemon behind the server's handlers

`GeminiDaemonRunner` with the session table and the port allocator: what the
handlers of the IPC server do when a connection reserves, attaches or detaches a
session, and what an administrator's kill and the main loop's deferred destruction
do to the same tables. Channels are known by a number, as the source knows them by
their address; `closedChannels` and `scheduledChannels` are their state as far as
the daemon sets it.

Left out are the parts of a session that no binding depends on: its streams, its
shell, the login phase of its port, and the runner, whose `activeSession` the
deferred destruction is told.
-/

namespace Gemini.Daemon

/-! ## Ports -/

/-- `SessionPortManager`: the ports in use, and where the search starts. -/
structure PortManager where
  maxPorts : Nat := 64
  inUse : Finset SessionId := ∅
  nextCandidate : SessionId := 1

namespace PortManager

/-- The constructor raises the limit to one. -/
def make (maxPorts : Nat) : PortManager :=
  { maxPorts := if maxPorts < 1 then 1 else maxPorts }

/-- The search for a free port. Each step leaves one port in use behind, so their number
bounds the steps. -/
def firstFree (inUse : Finset SessionId) : Nat → SessionId → SessionId
  | 0, candidate => candidate
  | steps + 1, candidate =>
      if candidate ∈ inUse then firstFree inUse steps (candidate + 1) else candidate

/-- `allocate`: the first free port from the candidate on. -/
def allocate (ports : PortManager) : Option (SessionId × PortManager) :=
  if ports.inUse.card ≥ ports.maxPorts then none
  else
    let candidate := firstFree ports.inUse ports.inUse.card ports.nextCandidate
    some (candidate,
      { ports with
        inUse := insert candidate ports.inUse
        nextCandidate := candidate + 1 })

/-- `release`: the search starts no later than at the port. -/
def release (ports : PortManager) (port : SessionId) : PortManager :=
  { ports with
    inUse := ports.inUse.erase port
    nextCandidate := if port < ports.nextCandidate then port else ports.nextCandidate }

end PortManager

/-! ## The daemon's tables -/

/-- A channel, by the number it is made with. -/
abbrev ChannelId := Nat

/-- The tables of the daemon. -/
structure DaemonHost where
  ports : PortManager := {}
  maxSessions : Nat := 1
  sessions : Finset SessionId := ∅
  boundSessionPorts : Finset SessionId := ∅
  boundChannels : SessionId → Option ChannelId := fun _ => none
  sessionWorkerThreads : Finset SessionId := ∅
  pendingDestroyPorts : List SessionId := []
  nextChannel : ChannelId := 0
  closedChannels : Finset ChannelId := ∅
  scheduledChannels : ChannelId → Option SessionId := fun _ => none
  shutdownRequested : Bool := false

namespace DaemonHost

/-- A daemon with no sessions. -/
def start (maxPorts maxSessions : Nat) : DaemonHost where
  ports := .make maxPorts
  maxSessions := if maxSessions < 1 then 1 else maxSessions

/-- `createSession`; `none` where the source throws. -/
def createSession (host : DaemonHost) : Option (SessionId × DaemonHost) :=
  if host.sessions.card ≥ host.maxSessions then none
  else
    match host.ports.allocate with
    | none => none
    | some (port, ports) =>
        some (port, { host with ports := ports, sessions := insert port host.sessions })

/-- `destroySession`. -/
def destroySession (host : DaemonHost) (port : SessionId) : DaemonHost :=
  if port ∈ host.sessions then
    { host with sessions := host.sessions.erase port, ports := host.ports.release port }
  else host

/-- `joinSessionWorker` after the worker has ended. -/
def joinSessionWorker (host : DaemonHost) (port : SessionId) : DaemonHost :=
  { host with sessionWorkerThreads := host.sessionWorkerThreads.erase port }

/-- `startSessionWorker`; a worker that is there is joined first. -/
def startSessionWorker (host : DaemonHost) (port : SessionId) : DaemonHost :=
  if port ∈ host.sessions then
    let host := host.joinSessionWorker port
    { host with sessionWorkerThreads := insert port host.sessionWorkerThreads }
  else host

/-! ### Channels -/

/-- A new channel. -/
def makeChannel (host : DaemonHost) : ChannelId × DaemonHost :=
  (host.nextChannel, { host with nextChannel := host.nextChannel + 1 })

/-- `clearSessionScheduling` and `close`. -/
def closeChannel (host : DaemonHost) (channel : ChannelId) : DaemonHost :=
  { host with
    scheduledChannels := Function.update host.scheduledChannels channel none
    closedChannels := insert channel host.closedChannels }

/-- Close the channel bound to a port, if there is one, and forget it. -/
def unbindChannel (host : DaemonHost) (port : SessionId) : DaemonHost :=
  match host.boundChannels port with
  | some channel =>
      let host := host.closeChannel channel
      { host with boundChannels := Function.update host.boundChannels port none }
  | none => host

/-! ### Attaching and detaching -/

/-- Bind a channel to a session and start its worker. -/
def bindChannel (host : DaemonHost) (port : SessionId) (channel : ChannelId) : DaemonHost :=
  { host with
    scheduledChannels := Function.update host.scheduledChannels channel (some port)
    boundSessionPorts := insert port host.boundSessionPorts
    boundChannels := Function.update host.boundChannels port (some channel) }.startSessionWorker port

/-- The tail of `attachSession`, with the port known. -/
def attachPort (host : DaemonHost) (port : SessionId) (channel : ChannelId) :
    AttachSessionResult × DaemonHost :=
  if port ∈ host.boundSessionPorts then ({ status := .SessionAlreadyBound }, host)
  else if port ∉ host.sessions then ({ status := .SessionNotFound }, host)
  else ({ status := .Ok, sessionPort := port }, host.bindChannel port channel)

/-- `attachSession`; port 0 asks for a new session. -/
def attachSession (host : DaemonHost) (requestedPort : SessionId) (channel : ChannelId) :
    AttachSessionResult × DaemonHost :=
  if requestedPort = 0 then
    match host.createSession with
    | none => ({ status := .SessionTableFull }, host)
    | some (port, host) => host.attachPort port channel
  else if requestedPort ∉ host.sessions then ({ status := .SessionNotFound }, host)
  else host.attachPort requestedPort channel

/-- `detachSession`: the channel is closed and the worker joined. -/
def detachSession (host : DaemonHost) (port : SessionId) : DaemonHost :=
  let host := (host.unbindChannel port).joinSessionWorker port
  { host with boundSessionPorts := host.boundSessionPorts.erase port }

/-! ### Killing -/

/-- The end of a worker, which does not join itself. -/
def unbindConsoleWithoutJoin (host : DaemonHost) (port : SessionId) : DaemonHost :=
  let host := host.unbindChannel port
  { host with boundSessionPorts := host.boundSessionPorts.erase port }

/-- `killSession`, called from the shell of some session. -/
def killSession (host : DaemonHost) (port : SessionId) : DaemonHost :=
  if port ∉ host.sessions then host
  else if port ∈ host.boundSessionPorts then
    let host := host.unbindConsoleWithoutJoin port
    { host with pendingDestroyPorts := host.pendingDestroyPorts ++ [port] }
  else if port ∈ host.sessionWorkerThreads then
    { host with pendingDestroyPorts := host.pendingDestroyPorts ++ [port] }
  else host.destroySession port

/-- One port of `drainPendingSessionDestroys`, with the session that is active then. -/
def drainPort (active : Option SessionId) (host : DaemonHost) (port : SessionId) : DaemonHost :=
  if active.isSome ∧ active ≠ some port then
    { host with pendingDestroyPorts := host.pendingDestroyPorts ++ [port] }
  else (host.joinSessionWorker port).destroySession port

/-- `drainPendingSessionDestroys`; the source reads the active session anew for each port. -/
def drainPendingSessionDestroys (active : SessionId → Option SessionId) (host : DaemonHost) :
    DaemonHost :=
  host.pendingDestroyPorts.foldl (fun host port => drainPort (active port) host port)
    { host with pendingDestroyPorts := [] }

/-! ### As handlers of the server -/

/-- The channels of the daemon, as its connections use them. -/
def channelOps : ChannelOps DaemonHost ChannelId where
  make := makeChannel
  close := closeChannel
  -- Input goes into the channel's queue, which no table of the daemon mentions.
  pushInput host _ _ := host

/-- The handlers that `GeminiDaemonRunner::run` installs. -/
def handlers : DaemonIpcHandlers DaemonHost ChannelId where
  reserveSession := some fun host =>
    match host.createSession with
    | none => (none, host)
    | some (port, host) => (some port, host)
  attachSession := some attachSession
  detachSession := some detachSession
  requestShutdown := some fun host => { host with shutdownRequested := true }

/-! ## What the operations do to the bindings -/

variable {host : DaemonHost} {port : SessionId} {channel : ChannelId}

@[simp] theorem boundChannels_closeChannel :
    (host.closeChannel channel).boundChannels = host.boundChannels := rfl

/-- An unbound port has no channel. -/
theorem boundChannels_unbindChannel :
    (host.unbindChannel port).boundChannels = Function.update host.boundChannels port none := by
  unfold unbindChannel
  split
  · rfl
  · rename_i unbound
    rw [← unbound, Function.update_eq_self]

@[simp] theorem nextChannel_unbindChannel :
    (host.unbindChannel port).nextChannel = host.nextChannel := by
  unfold unbindChannel
  split <;> rfl

@[simp] theorem boundSessionPorts_unbindChannel :
    (host.unbindChannel port).boundSessionPorts = host.boundSessionPorts := by
  unfold unbindChannel
  split <;> rfl

/-- Unbinding closes the bound channel and no other. -/
theorem mem_closedChannels_unbindChannel {other : ChannelId} :
    other ∈ (host.unbindChannel port).closedChannels ↔
      host.boundChannels port = some other ∨ other ∈ host.closedChannels := by
  unfold unbindChannel
  split
  · rename_i bound known
    simp [closeChannel, known, eq_comm]
  · rename_i unbound
    simp [unbound]

/-- A detached port has no channel. -/
@[simp] theorem boundChannels_detachSession :
    (host.detachSession port).boundChannels = Function.update host.boundChannels port none := by
  simp [detachSession, joinSessionWorker, boundChannels_unbindChannel]

@[simp] theorem nextChannel_detachSession :
    (host.detachSession port).nextChannel = host.nextChannel := by
  simp [detachSession, joinSessionWorker]

/-- A detached port is no longer bound. -/
@[simp] theorem boundSessionPorts_detachSession :
    (host.detachSession port).boundSessionPorts = host.boundSessionPorts.erase port := by
  simp [detachSession, joinSessionWorker]

/-- A detachment closes the channel of the port, and no other. -/
@[simp] theorem mem_closedChannels_detachSession {other : ChannelId} :
    other ∈ (host.detachSession port).closedChannels ↔
      host.boundChannels port = some other ∨ other ∈ host.closedChannels :=
  mem_closedChannels_unbindChannel

/-- No port is bound that was not, or bound to another channel; channels may have been made. -/
structure Narrows (host after : DaemonHost) : Prop where
  nextChannel : host.nextChannel ≤ after.nextChannel
  boundChannels : ∀ {port channel}, after.boundChannels port = some channel →
    host.boundChannels port = some channel

/-- Equal bindings are narrower. -/
theorem Narrows.of_eq {after : DaemonHost} (nextChannel : host.nextChannel ≤ after.nextChannel)
    (boundChannels : after.boundChannels = host.boundChannels) : Narrows host after where
  nextChannel := nextChannel
  boundChannels bound := boundChannels ▸ bound

/-- The bindings without a port are narrower. -/
theorem Narrows.of_unbound {after : DaemonHost} (port : SessionId)
    (nextChannel : host.nextChannel ≤ after.nextChannel)
    (boundChannels : after.boundChannels = Function.update host.boundChannels port none) :
    Narrows host after where
  nextChannel := nextChannel
  boundChannels := by
    intro other channel bound
    rw [boundChannels] at bound
    by_cases same : other = port
    · simp [same] at bound
    · simpa [same] using bound

theorem Narrows.refl (host : DaemonHost) : Narrows host host := .of_eq le_rfl rfl

/-- Bindings narrow step by step. -/
theorem Narrows.trans {middle after : DaemonHost} (first : Narrows host middle)
    (second : Narrows middle after) : Narrows host after where
  nextChannel := first.nextChannel.trans second.nextChannel
  boundChannels bound := first.boundChannels (second.boundChannels bound)

/-- A destroyed session binds nothing new. -/
theorem destroySession_narrows (host : DaemonHost) (port : SessionId) :
    Narrows host (host.destroySession port) := by
  unfold destroySession
  split
  · exact .of_eq le_rfl rfl
  · exact .refl host

/-- A kill unbinds the killed session at most. -/
theorem killSession_narrows (host : DaemonHost) (port : SessionId) :
    Narrows host (host.killSession port) := by
  unfold killSession
  split
  · exact .refl host
  · split
    · exact .of_unbound port (by simp [unbindConsoleWithoutJoin])
        (by simp [unbindConsoleWithoutJoin, boundChannels_unbindChannel])
    · split
      · exact .of_eq le_rfl rfl
      · exact destroySession_narrows host port

/-- Nor does a drained port. -/
theorem drainPort_narrows (active : Option SessionId) (host : DaemonHost) (port : SessionId) :
    Narrows host (drainPort active host port) := by
  unfold drainPort
  split
  · exact .of_eq le_rfl rfl
  · have joined : Narrows host (host.joinSessionWorker port) := .of_eq le_rfl rfl
    exact joined.trans (destroySession_narrows _ port)

/-- The deferred destruction binds nothing. -/
theorem drainPendingSessionDestroys_narrows (host : DaemonHost)
    (active : SessionId → Option SessionId) :
    Narrows host (host.drainPendingSessionDestroys active) := by
  have loop (ports : List SessionId) (host : DaemonHost) :
      Narrows host (ports.foldl (fun host port => drainPort (active port) host port) host) := by
    induction ports generalizing host with
    | nil => exact .refl host
    | cons port ports inductionHypothesis =>
        exact (drainPort_narrows (active port) host port).trans (inductionHypothesis _)
  have taken : Narrows host { host with pendingDestroyPorts := [] } := .of_eq le_rfl rfl
  exact taken.trans (loop host.pendingDestroyPorts _)

/-- A new session leaves the bindings as they are. -/
theorem createSession_bindings {created : DaemonHost}
    (done : host.createSession = some (port, created)) :
    created.nextChannel = host.nextChannel ∧ created.boundChannels = host.boundChannels ∧
      created.boundSessionPorts = host.boundSessionPorts := by
  unfold createSession at done
  split at done
  · cases done
  · split at done
    · cases done
    · cases done
      exact ⟨rfl, rfl, rfl⟩

/-- The port that a request to attach is for: a new session's, or an existing one's. -/
def attachTarget (host : DaemonHost) (requestedPort : SessionId) : Option SessionId :=
  if requestedPort = 0 then host.createSession.map Prod.fst
  else if requestedPort ∈ host.sessions then some requestedPort
  else none

/-- What a request to attach does to the bindings: it binds the channel to the requested
port, which was not bound, or changes nothing. -/
inductive AttachOutcome (host : DaemonHost) (requestedPort : SessionId) (channel : ChannelId)
    (result : AttachSessionResult) (after : DaemonHost) : Prop where
  | bound (done : result.status = .Ok)
      (target : host.attachTarget requestedPort = some result.sessionPort)
      (unbound : result.sessionPort ∉ host.boundSessionPorts)
      (bindings : after.boundChannels =
        Function.update host.boundChannels result.sessionPort (some channel))
      (nextChannel : after.nextChannel = host.nextChannel)
  | refused (failed : result.status ≠ .Ok) (bindings : after.boundChannels = host.boundChannels)
      (nextChannel : after.nextChannel = host.nextChannel)

/-- A port is bound to its new channel, and the others keep theirs. -/
theorem bindChannel_bindings (host : DaemonHost) (port : SessionId) (channel : ChannelId) :
    (host.bindChannel port channel).boundChannels =
        Function.update host.boundChannels port (some channel) ∧
      (host.bindChannel port channel).nextChannel = host.nextChannel := by
  unfold bindChannel startSessionWorker
  split <;> exact ⟨rfl, rfl⟩

/-- The outcome of an attachment to a port. -/
theorem attachPort_outcome {requestedPort : SessionId} {base : DaemonHost}
    (target : base.attachTarget requestedPort = some port)
    (bindings : host.boundChannels = base.boundChannels)
    (ports : host.boundSessionPorts = base.boundSessionPorts)
    (nextChannel : host.nextChannel = base.nextChannel) :
    AttachOutcome base requestedPort channel (host.attachPort port channel).1
      (host.attachPort port channel).2 := by
  unfold attachPort
  split
  · exact .refused (by simp) bindings nextChannel
  · rename_i unbound
    split
    · exact .refused (by simp) bindings nextChannel
    · obtain ⟨bound, next⟩ := bindChannel_bindings host port channel
      exact .bound rfl target (ports ▸ unbound) (by rw [bound, bindings]) (next.trans nextChannel)

/-- The outcome of every attachment. -/
theorem attachSession_outcome (host : DaemonHost) (requestedPort : SessionId)
    (channel : ChannelId) :
    AttachOutcome host requestedPort channel (host.attachSession requestedPort channel).1
      (host.attachSession requestedPort channel).2 := by
  unfold attachSession
  split
  · rename_i zero
    split
    · exact .refused (by simp) rfl rfl
    · rename_i port created done
      obtain ⟨next, bound, ports⟩ := createSession_bindings done
      have target : host.attachTarget requestedPort = some port := by
        simp [attachTarget, zero, done]
      exact attachPort_outcome target bound ports next
  · rename_i nonzero
    split
    · exact .refused (by simp) rfl rfl
    · rename_i present
      have target : host.attachTarget requestedPort = some requestedPort := by
        simp [attachTarget, nonzero, not_not.mp present]
      exact attachPort_outcome target rfl rfl rfl

end DaemonHost

end Gemini.Daemon
