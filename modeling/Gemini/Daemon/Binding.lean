import Mathlib.Data.List.AList
import Gemini.Semantics.Run
import Gemini.Daemon.DaemonRunner

/-!
# Who is bound to which session

The open connections of the server together with the daemon's tables. A binding is
recorded four times: as the port and the channel of a connection, among the bound
ports, and as the bound channel of a port. `BindingIntegrity` says that the records
agree. A kill takes a session's binding out of the tables but not out of the
connection that had it, so the records can part when the port is bound again;
`daemonStep_bindingIntegrity` shows that this is the only way they do.
-/

namespace Gemini.Daemon

open Gemini.Semantics
open DaemonHost (Narrows)

/-- The descriptor of a connection. -/
abbrev Fd := Nat

/-- The daemon and its open connections. -/
structure DaemonState where
  host : DaemonHost
  connections : AList fun _ : Fd => Connection ChannelId := ∅

/-- What happens at the daemon. -/
inductive DaemonAction where
  | accept (fd : Fd)
  /-- A frame of a connection is complete; `results` are those of the writes. -/
  | dispatch (fd : Fd) (frame : DaemonIpcFrame) (results : List WriteResult)
  /-- The peer has hung up. -/
  | close (fd : Fd)
  | killSession (port : SessionId)
  | drainPendingSessionDestroys (active : SessionId → Option SessionId)

/-- The host after a connection is detached. -/
def detachedHost (host : DaemonHost) (connection : Connection ChannelId) : DaemonHost :=
  (detachConnection DaemonHost.channelOps DaemonHost.handlers host connection).2

namespace DaemonState

/-- The connection of a descriptor. -/
def find (state : DaemonState) (fd : Fd) : Option (Connection ChannelId) :=
  state.connections.lookup fd

/-- `removeConnectionAt`. -/
def removeConnection (state : DaemonState) (fd : Fd) (connection : Connection ChannelId) :
    DaemonState where
  host := detachedHost state.host connection
  connections := state.connections.erase fd

/-- A frame is dispatched, and the connection removed when the outcome says so. -/
def dispatch (config : DaemonIpcServerConfig) (state : DaemonState) (fd : Fd)
    (connection : Connection ChannelId) (frame : DaemonIpcFrame) (results : List WriteResult) :
    DaemonState :=
  let dispatched := dispatchFrame DaemonHost.channelOps DaemonHost.handlers config results []
    state.host connection frame
  let state : DaemonState :=
    { host := dispatched.host, connections := state.connections.insert fd dispatched.connection }
  if dispatched.outcome.closeConnection then state.removeConnection fd dispatched.connection
  else state

end DaemonState

/-- One step of the daemon; none when it cannot happen. -/
def daemonStep (config : DaemonIpcServerConfig) (state : DaemonState) :
    DaemonAction → Option DaemonState
  | .accept fd =>
      if fd ∈ state.connections then none
      else some { state with connections := state.connections.insert fd {} }
  | .dispatch fd frame results =>
      (state.find fd).map fun connection => state.dispatch config fd connection frame results
  | .close fd => (state.find fd).map fun connection => state.removeConnection fd connection
  | .killSession port => some { state with host := state.host.killSession port }
  | .drainPendingSessionDestroys active =>
      some { state with host := state.host.drainPendingSessionDestroys active }

/-! ## The property -/

/-- The channel and the session of a connection are as open and as bound as before. -/
structure Untouched (connection : Connection ChannelId) (host after : DaemonHost) : Prop where
  channel : ∀ channel, connection.channel = some channel →
    (channel ∈ after.closedChannels ↔ channel ∈ host.closedChannels)
  session : ∀ port, connection.attachedPort = some port →
    after.boundChannels port = host.boundChannels port ∧
      (port ∈ after.boundSessionPorts ↔ port ∈ host.boundSessionPorts)

/-- Connections, ports and channels belong together. -/
structure BindingIntegrity (state : DaemonState) : Prop where
  /-- No two open connections have the same port. -/
  distinct : ∀ first second firstConnection secondConnection port,
    state.find first = some firstConnection → state.find second = some secondConnection →
    firstConnection.attachedPort = some port → secondConnection.attachedPort = some port →
    first = second
  /-- The bound channel of a port is that of the open connection attached to it. -/
  owned : ∀ port channel, state.host.boundChannels port = some channel →
    ∃ fd connection, state.find fd = some connection ∧
      connection.attachedPort = some port ∧ connection.channel = some channel
  /-- Detaching or removing a connection leaves the others alone. -/
  separate : ∀ leaving staying leavingConnection stayingConnection, leaving ≠ staying →
    state.find leaving = some leavingConnection → state.find staying = some stayingConnection →
    Untouched stayingConnection state.host (detachedHost state.host leavingConnection)

/-- The port that a frame from a connection is going to be attached to, when it is a request
to attach that the daemon grants. -/
def attachingPort (state : DaemonState) (fd : Fd) (frame : DaemonIpcFrame)
    (results : List WriteResult) : Option SessionId := do
  let connection ← state.find fd
  let payload ← decodeAttachSessionPayload frame.payload
  let port ← state.host.attachTarget payload.sessionPort
  if frame.version = kDaemonIpcProtocolVersion ∧ connection.handshaken = true ∧
      connection.attachedPort = none ∧ frame.type = .AttachSession ∧
      port ∉ state.host.boundSessionPorts ∧ 16 ≤ room results then
    some port
  else none

/-- No open connection has the port that a step is about to attach. -/
def AttachesFreePort (state : DaemonState) : DaemonAction → Prop
  | .dispatch fd frame results => ∀ port ∈ attachingPort state fd frame results,
      ∀ entry ∈ state.connections.entries, entry.2.attachedPort ≠ some port
  | _ => True

instance (state : DaemonState) :
    (action : DaemonAction) → Decidable (AttachesFreePort state action)
  -- The instance is named: the ports themselves are a finite type and could be enumerated.
  | .dispatch fd frame results => Option.decidableForallMem (attachingPort state fd frame results)
  | .accept _ | .close _ | .killSession _ | .drainPendingSessionDestroys _ =>
      inferInstanceAs (Decidable True)

/-! ## The invariant -/

/-- The bindings agree, and no two connections share a channel. `find` is the connection of
a descriptor. -/
structure Bound (host : DaemonHost) (find : Fd → Option (Connection ChannelId)) : Prop where
  distinct : ∀ {first second firstConnection secondConnection port},
    find first = some firstConnection → find second = some secondConnection →
    firstConnection.attachedPort = some port → secondConnection.attachedPort = some port →
    first = second
  owned : ∀ {port channel}, host.boundChannels port = some channel →
    ∃ fd connection, find fd = some connection ∧
      connection.attachedPort = some port ∧ connection.channel = some channel
  apart : ∀ {first second firstConnection secondConnection channel},
    find first = some firstConnection → find second = some secondConnection →
    firstConnection.channel = some channel → secondConnection.channel = some channel →
    first = second
  fresh : ∀ {fd connection channel}, find fd = some connection →
    connection.channel = some channel → channel < host.nextChannel

section Invariant

variable {host after : DaemonHost} {find : Fd → Option (Connection ChannelId)} {fd : Fd}
  {connection : Connection ChannelId}

/-- Fewer bindings of the daemon are bound as well. -/
theorem Bound.narrow (bound : Bound host find) (narrows : Narrows host after) :
    Bound after find where
  distinct := bound.distinct
  owned known := bound.owned (narrows.boundChannels known)
  apart := bound.apart
  fresh known owns := (bound.fresh known owns).trans_le narrows.nextChannel

/-- After a change at one descriptor, a connection is the changed one or another's. -/
theorem update_eq_some {now : Option (Connection ChannelId)} {other : Fd}
    (known : Function.update find fd now other = some connection) :
    (other = fd ∧ now = some connection) ∨ (other ≠ fd ∧ find other = some connection) := by
  by_cases same : other = fd
  · subst same
    exact .inl ⟨rfl, by simpa using known⟩
  · exact .inr ⟨same, by simpa [same] using known⟩

/-- One connection changes, and the tables with it. -/
theorem Bound.update (bound : Bound host find) {now : Option (Connection ChannelId)}
    (nextChannel : host.nextChannel ≤ after.nextChannel)
    (distinct : ∀ {changed port}, now = some changed → changed.attachedPort = some port →
      ∀ {other connection}, other ≠ fd → find other = some connection →
        connection.attachedPort ≠ some port)
    (apart : ∀ {changed channel}, now = some changed → changed.channel = some channel →
      channel < after.nextChannel ∧ ∀ {other connection}, other ≠ fd →
        find other = some connection → connection.channel ≠ some channel)
    (owned : ∀ {port channel}, after.boundChannels port = some channel →
      (∃ changed, now = some changed ∧ changed.attachedPort = some port ∧
        changed.channel = some channel) ∨
      (∃ other connection, other ≠ fd ∧ find other = some connection ∧
        connection.attachedPort = some port ∧ connection.channel = some channel)) :
    Bound after (Function.update find fd now) where
  distinct := by
    intro first second _ _ port firstKnown secondKnown firstPort secondPort
    obtain ⟨firstSame, firstNow⟩ | ⟨firstOther, firstFound⟩ := update_eq_some firstKnown
    · obtain ⟨secondSame, _⟩ | ⟨secondOther, secondFound⟩ := update_eq_some secondKnown
      · exact firstSame.trans secondSame.symm
      · exact absurd secondPort (distinct firstNow firstPort secondOther secondFound)
    · obtain ⟨_, secondNow⟩ | ⟨_, secondFound⟩ := update_eq_some secondKnown
      · exact absurd firstPort (distinct secondNow secondPort firstOther firstFound)
      · exact bound.distinct firstFound secondFound firstPort secondPort
  owned := by
    intro port channel known
    obtain ⟨changed, isNow, owns⟩ | ⟨other, connection, different, found, owns⟩ := owned known
    · exact ⟨fd, changed, by simp [isNow], owns⟩
    · exact ⟨other, connection, by simp [different, found], owns⟩
  apart := by
    intro first second _ _ channel firstKnown secondKnown firstOwns secondOwns
    obtain ⟨firstSame, firstNow⟩ | ⟨firstOther, firstFound⟩ := update_eq_some firstKnown
    · obtain ⟨secondSame, _⟩ | ⟨secondOther, secondFound⟩ := update_eq_some secondKnown
      · exact firstSame.trans secondSame.symm
      · exact absurd secondOwns ((apart firstNow firstOwns).2 secondOther secondFound)
    · obtain ⟨_, secondNow⟩ | ⟨_, secondFound⟩ := update_eq_some secondKnown
      · exact absurd firstOwns ((apart secondNow secondOwns).2 firstOther firstFound)
      · exact bound.apart firstFound secondFound firstOwns secondOwns
  fresh := by
    intro other connection channel known owns
    obtain ⟨_, isNow⟩ | ⟨_, found⟩ := update_eq_some known
    · exact (apart isNow owns).1
    · exact (bound.fresh found owns).trans_le nextChannel

/-- A new connection has neither port nor channel. -/
theorem Bound.admit (bound : Bound host find) (unused : find fd = none) :
    Bound host (Function.update find fd (some {})) := by
  refine bound.update le_rfl ?_ ?_ ?_
  · rintro _ port ⟨⟩ ⟨⟩
  · rintro _ channel ⟨⟩ ⟨⟩
  · intro port channel known
    obtain ⟨owner, connection, found, owns⟩ := bound.owned known
    refine .inr ⟨owner, connection, ?_, found, owns⟩
    rintro rfl
    simp [unused] at found

/-- A connection keeps its port and its channel. -/
theorem Bound.keep (bound : Bound host find) (found : find fd = some connection)
    {changed : Connection ChannelId} (port : changed.attachedPort = connection.attachedPort)
    (channel : changed.channel = connection.channel) :
    Bound host (Function.update find fd (some changed)) := by
  refine bound.update le_rfl ?_ ?_ ?_
  · rintro _ attached ⟨⟩ has other connection different known same
    exact different (bound.distinct known found same (port ▸ has))
  · rintro _ owned ⟨⟩ owns
    have owner := channel ▸ owns
    refine ⟨bound.fresh found owner, fun different known same => ?_⟩
    exact different (bound.apart known found same owner)
  · intro attached owned known
    obtain ⟨owner, connection', known, has, owns⟩ := bound.owned known
    by_cases same : owner = fd
    · subst same
      obtain rfl : connection' = connection := by simpa [found] using known.symm
      exact .inl ⟨changed, rfl, port.trans has, channel.trans owns⟩
    · exact .inr ⟨owner, connection', same, known, has, owns⟩

/-- A connection whose port is not bound to a channel gives it up, or goes away. -/
theorem Bound.giveUp (bound : Bound host find) (found : find fd = some connection)
    (unbound : ∀ {port}, connection.attachedPort = some port → host.boundChannels port = none)
    {now : Option (Connection ChannelId)}
    (leaves : ∀ {changed}, now = some changed → changed.attachedPort = none ∧
      changed.channel = none) :
    Bound host (Function.update find fd now) := by
  refine bound.update le_rfl ?_ ?_ ?_
  · intro changed port isNow has
    simp [(leaves isNow).1] at has
  · intro changed channel isNow owns
    simp [(leaves isNow).2] at owns
  · intro port channel known
    obtain ⟨owner, connection', owns, has, channels⟩ := bound.owned known
    refine .inr ⟨owner, connection', ?_, owns, has, channels⟩
    rintro rfl
    obtain rfl : connection' = connection := by simpa [found] using owns.symm
    simp [unbound has] at known

/-- A connection without a port gets one that no connection has, with a new channel. -/
theorem Bound.attach (bound : Bound host find) (found : find fd = some connection)
    (free : connection.attachedPort = none) {port : SessionId}
    (unowned : ∀ {other connection}, find other = some connection →
      connection.attachedPort ≠ some port)
    (boundChannels : after.boundChannels =
      Function.update host.boundChannels port (some host.nextChannel))
    (nextChannel : after.nextChannel = host.nextChannel + 1) :
    Bound after (Function.update find fd
      (some { connection with channel := some host.nextChannel, attachedPort := some port })) := by
  refine bound.update (nextChannel ▸ Nat.le_succ _) ?_ ?_ ?_
  · rintro _ attached ⟨⟩ ⟨⟩ other connection different known
    exact unowned known
  · rintro _ channel ⟨⟩ ⟨⟩
    refine ⟨nextChannel ▸ Nat.lt_succ_self _, fun different known owns => ?_⟩
    exact absurd (bound.fresh known owns) (lt_irrefl _)
  · intro attached channel known
    rw [boundChannels] at known
    by_cases same : attached = port
    · subst same
      obtain rfl : host.nextChannel = channel := by simpa using known
      exact .inl ⟨_, rfl, rfl, rfl⟩
    · rw [Function.update_of_ne same] at known
      obtain ⟨owner, connection', owns, has, channels⟩ := bound.owned known
      refine .inr ⟨owner, connection', ?_, owns, has, channels⟩
      rintro rfl
      obtain rfl : connection' = connection := by simpa [found] using owns.symm
      simp [free] at has

end Invariant

/-! ### Detaching -/

section Detach

variable {host : DaemonHost} {connection : Connection ChannelId} {port : SessionId}

/-- A connection without a port has nothing to detach. -/
theorem detachedHost_of_free (free : connection.attachedPort = none) :
    detachedHost host connection = host := by
  simp [detachedHost, detachConnection, free]

/-- An attached connection closes its own channel and detaches its session. -/
theorem detachedHost_of_attached (attached : connection.attachedPort = some port) :
    detachedHost host connection =
      ((connection.channel.elim host host.closeChannel).detachSession port) := by
  cases owned : connection.channel <;>
    simp [detachedHost, detachConnection, attached, owned, DaemonHost.handlers,
      DaemonHost.channelOps]

/-- A detached port has no channel. -/
theorem boundChannels_detachedHost (attached : connection.attachedPort = some port) :
    (detachedHost host connection).boundChannels =
      Function.update host.boundChannels port none := by
  rw [detachedHost_of_attached attached]
  cases connection.channel <;> simp

theorem nextChannel_detachedHost :
    (detachedHost host connection).nextChannel = host.nextChannel := by
  cases attached : connection.attachedPort with
  | none => rw [detachedHost_of_free attached]
  | some port =>
      rw [detachedHost_of_attached attached]
      cases connection.channel <;> simp [DaemonHost.closeChannel]

/-- A detached port is no longer bound. -/
theorem boundSessionPorts_detachedHost (attached : connection.attachedPort = some port) :
    (detachedHost host connection).boundSessionPorts = host.boundSessionPorts.erase port := by
  rw [detachedHost_of_attached attached]
  cases connection.channel <;> simp [DaemonHost.closeChannel]

/-- Detaching closes the connection's channel and the one bound to its port. -/
theorem mem_closedChannels_detachedHost (attached : connection.attachedPort = some port)
    {channel : ChannelId} :
    channel ∈ (detachedHost host connection).closedChannels ↔
      host.boundChannels port = some channel ∨ connection.channel = some channel ∨
        channel ∈ host.closedChannels := by
  rw [detachedHost_of_attached attached]
  cases connection.channel <;> simp [DaemonHost.closeChannel, eq_comm]

/-- A detachment only takes bindings away. -/
theorem detachedHost_narrows (host : DaemonHost) (connection : Connection ChannelId) :
    Narrows host (detachedHost host connection) := by
  cases attached : connection.attachedPort with
  | none =>
      rw [detachedHost_of_free attached]
      exact .refl host
  | some port =>
      exact .of_unbound port nextChannel_detachedHost.ge (boundChannels_detachedHost attached)

/-- After a detachment the port has no channel. -/
theorem detachedHost_unbound (host : DaemonHost) (attached : connection.attachedPort = some port) :
    (detachedHost host connection).boundChannels port = none := by
  simp [boundChannels_detachedHost attached]

/-- A connection that was attached has neither port nor channel then. -/
theorem detachConnection_leaves (host : DaemonHost) (attached : connection.attachedPort.isSome) :
    (detachConnection DaemonHost.channelOps DaemonHost.handlers host connection).1.attachedPort =
        none ∧
      (detachConnection DaemonHost.channelOps DaemonHost.handlers host connection).1.channel =
        none := by
  rw [detachConnection_attached _ _ _ attached]
  exact ⟨rfl, rfl⟩

variable {find : Fd → Option (Connection ChannelId)} {fd : Fd}

/-- Detaching a connection, which then stays or goes away, keeps the bindings. -/
theorem Bound.detach (bound : Bound host find) (found : find fd = some connection)
    {now : Option (Connection ChannelId)}
    (leaves : ∀ {changed}, now = some changed → changed.attachedPort = none ∧
      changed.channel = none) :
    Bound (detachedHost host connection) (Function.update find fd now) :=
  (bound.narrow (detachedHost_narrows host connection)).giveUp found
    (fun attached => detachedHost_unbound host attached) leaves

/-- Detaching one connection leaves another one alone. -/
theorem Bound.untouched (bound : Bound host find) {leaving staying : Fd}
    {stayingConnection : Connection ChannelId} (different : leaving ≠ staying)
    (left : find leaving = some connection) (stays : find staying = some stayingConnection) :
    Untouched stayingConnection host (detachedHost host connection) := by
  cases attached : connection.attachedPort with
  | none =>
      rw [detachedHost_of_free attached]
      exact ⟨fun _ _ => Iff.rfl, fun _ _ => ⟨rfl, Iff.rfl⟩⟩
  | some port =>
      constructor
      · intro channel owns
        rw [mem_closedChannels_detachedHost attached]
        refine ⟨?_, fun closed => .inr (.inr closed)⟩
        rintro (boundTo | shared | closed)
        · -- The channel bound to the port belongs to the connection that leaves.
          obtain ⟨owner, ownerConnection, found, has, ownerOwns⟩ := bound.owned boundTo
          obtain rfl := bound.distinct found left has attached
          exact absurd (bound.apart found stays ownerOwns owns) different
        · exact absurd (bound.apart left stays shared owns) different
        · exact closed
      · intro other has
        have otherPort : other ≠ port := by
          rintro rfl
          exact different (bound.distinct left stays attached has)
        rw [boundChannels_detachedHost attached, boundSessionPorts_detachedHost attached]
        simp [otherPort]

end Detach

/-! ## Every step -/

section Step

variable {state : DaemonState} {fd : Fd} {connection : Connection ChannelId}
  {frame : DaemonIpcFrame} {results : List WriteResult}

/-- A changed connection is found in the place of the old one. -/
@[simp] theorem find_insert (host : DaemonHost)
    (connections : AList fun _ : Fd => Connection ChannelId) :
    (DaemonState.mk host (connections.insert fd connection)).find =
      Function.update (DaemonState.mk host connections).find fd (some connection) := by
  funext other
  by_cases same : other = fd
  · subst same
    simp [DaemonState.find]
  · simp [DaemonState.find, same]

/-- A closed connection is not found. -/
@[simp] theorem find_erase (host : DaemonHost)
    (connections : AList fun _ : Fd => Connection ChannelId) :
    (DaemonState.mk host (connections.erase fd)).find =
      Function.update (DaemonState.mk host connections).find fd none := by
  funext other
  by_cases same : other = fd
  · subst same
    simp [DaemonState.find]
  · simp [DaemonState.find, same]

/-- The making of a channel does not move the port that is attached to. -/
theorem attachTarget_makeChannel (host : DaemonHost) (requestedPort : SessionId) :
    host.makeChannel.2.attachTarget requestedPort = host.attachTarget requestedPort := by
  have created : host.makeChannel.2.createSession.map Prod.fst =
      host.createSession.map Prod.fst := by
    unfold DaemonHost.createSession DaemonHost.makeChannel
    cases host.ports.allocate <;> simp [apply_ite]
  simp only [DaemonHost.attachTarget, created]
  rfl

/-- A refused request to attach binds nothing. -/
theorem attachConnection_refused {host : DaemonHost} {requestedPort : SessionId}
    (failed : attachStatus DaemonHost.channelOps DaemonHost.attachSession host requestedPort ≠ .Ok) :
    Narrows host
      (attachConnection DaemonHost.channelOps DaemonHost.attachSession host connection
        requestedPort).2 := by
  rcases DaemonHost.attachSession_outcome host.makeChannel.2 requestedPort host.nextChannel with
    ⟨done⟩ | ⟨_, bindings, nextChannel⟩
  · exact absurd done failed
  · exact .of_eq (nextChannel.ge.trans' (Nat.le_succ _)) bindings

/-- A granted request binds a new channel to the port it is for. -/
theorem attachConnection_done {host : DaemonHost} {requestedPort : SessionId}
    (connection : Connection ChannelId)
    (done : attachStatus DaemonHost.channelOps DaemonHost.attachSession host requestedPort = .Ok) :
    ∃ port, host.attachTarget requestedPort = some port ∧ port ∉ host.boundSessionPorts ∧
      (attachConnection DaemonHost.channelOps DaemonHost.attachSession host connection
        requestedPort).1 =
          { connection with channel := some host.nextChannel, attachedPort := some port } ∧
      (attachConnection DaemonHost.channelOps DaemonHost.attachSession host connection
        requestedPort).2.boundChannels =
          Function.update host.boundChannels port (some host.nextChannel) ∧
      (attachConnection DaemonHost.channelOps DaemonHost.attachSession host connection
        requestedPort).2.nextChannel = host.nextChannel + 1 := by
  rcases DaemonHost.attachSession_outcome host.makeChannel.2 requestedPort host.nextChannel with
    ⟨_, target, unbound, bindings, nextChannel⟩ | ⟨failed⟩
  · rw [attachTarget_makeChannel] at target
    exact ⟨_, target, unbound, rfl, bindings, nextChannel⟩
  · exact absurd done failed

/-- A granted request that is undone at once binds nothing. -/
theorem attachConnection_undone {host : DaemonHost} {requestedPort : SessionId}
    (done : attachStatus DaemonHost.channelOps DaemonHost.attachSession host requestedPort = .Ok) :
    Narrows host (detachedHost
      (attachConnection DaemonHost.channelOps DaemonHost.attachSession host connection
        requestedPort).2
      (attachConnection DaemonHost.channelOps DaemonHost.attachSession host connection
        requestedPort).1) := by
  obtain ⟨port, _, _, isNow, bindings, nextChannel⟩ :=
    attachConnection_done connection done
  rw [isNow]
  refine .of_unbound port ?_ ?_
  · rw [nextChannel_detachedHost, nextChannel]
    exact Nat.le_succ _
  · rw [boundChannels_detachedHost rfl, bindings, Function.update_idem]

/-- A new session binds nothing. -/
theorem createSession_narrows (host : DaemonHost) {reserveSession}
    (known : DaemonHost.handlers.reserveSession = some reserveSession) :
    Narrows host (reserveSession host).2 := by
  cases known
  simp only
  split
  · exact .refl host
  · obtain ⟨nextChannel, bindings, _⟩ := DaemonHost.createSession_bindings ‹_›
    exact .of_eq nextChannel.ge bindings

/-- Whatever a dispatch does keeps the bindings. -/
theorem HostMove.bound {changed : Connection ChannelId} {after : DaemonHost}
    (move : HostMove DaemonHost.channelOps DaemonHost.handlers results state.host connection frame
      changed after)
    (bound : Bound state.host state.find) (found : state.find fd = some connection)
    (attachesFree : AttachesFreePort state (.dispatch fd frame results)) :
    Bound after (Function.update state.find fd (some changed)) := by
  cases move with
  | kept port channel => exact bound.keep found port channel
  | shutdown known =>
      cases known
      have narrows : Narrows state.host { state.host with shutdownRequested := true } :=
        .of_eq le_rfl rfl
      exact (bound.narrow narrows).keep found rfl rfl
  | reserved known =>
      exact (bound.narrow (createSession_narrows state.host known)).keep found rfl rfl
  | input channel data => exact bound.keep found rfl rfl
  | refused known requestedPort failed =>
      cases known
      exact (bound.narrow (attachConnection_refused failed)).keep found rfl rfl
  | attached known admitted free attaches decoded done sent =>
      cases known
      obtain ⟨port, target, unbound, isNow, bindings, nextChannel⟩ :=
        attachConnection_done connection done
      have attaching : attachingPort state fd frame results = some port := by
        simp [attachingPort, found, decoded, target, admitted, free, attaches, unbound, sent]
      rw [isNow]
      refine bound.attach found free (fun {other _} known => ?_) bindings nextChannel
      exact attachesFree port attaching ⟨other, _⟩ (AList.mem_lookup_iff.mp known)
  | undone known requestedPort free done =>
      cases known
      refine (bound.narrow (attachConnection_undone done)).giveUp found (by simp [free]) ?_
      rintro _ ⟨⟩
      exact detachConnection_leaves _ rfl
  | detached attached =>
      refine bound.detach found ?_
      rintro _ ⟨⟩
      exact detachConnection_leaves _ attached

/-- Every step that attaches no port in use keeps the bindings. -/
theorem daemonStep_bound {config : DaemonIpcServerConfig} {next : DaemonState}
    {action : DaemonAction} (bound : Bound state.host state.find)
    (attachesFree : AttachesFreePort state action)
    (taken : daemonStep config state action = some next) : Bound next.host next.find := by
  cases action with
  | accept fd =>
      simp only [daemonStep, Option.ite_none_left_eq_some, Option.some.injEq] at taken
      obtain ⟨unused, rfl⟩ := taken
      rw [find_insert]
      exact bound.admit (AList.lookup_eq_none.mpr unused)
  | dispatch fd frame results =>
      simp only [daemonStep, Option.map_eq_some_iff] at taken
      obtain ⟨connection, found, rfl⟩ := taken
      have dispatched := (dispatchFrame_moves DaemonHost.channelOps DaemonHost.handlers config
        results [] state.host connection frame).bound bound found attachesFree
      simp only [DaemonState.dispatch]
      split
      · simp only [DaemonState.removeConnection, find_erase, find_insert]
        exact dispatched.detach (by simp) (by simp)
      · rw [find_insert]
        exact dispatched
  | close fd =>
      simp only [daemonStep, Option.map_eq_some_iff] at taken
      obtain ⟨connection, found, rfl⟩ := taken
      simp only [DaemonState.removeConnection, find_erase]
      exact bound.detach found (by simp)
  | killSession port =>
      cases taken
      exact bound.narrow (DaemonHost.killSession_narrows state.host port)
  | drainPendingSessionDestroys active =>
      cases taken
      exact bound.narrow (DaemonHost.drainPendingSessionDestroys_narrows state.host active)

end Step

/-- The invariant gives the integrity of the bindings. -/
theorem Bound.bindingIntegrity {state : DaemonState} (bound : Bound state.host state.find) :
    BindingIntegrity state where
  distinct _ _ _ _ _ := bound.distinct
  owned _ _ := bound.owned
  separate _ _ _ _ different left stays := bound.untouched different left stays

/-- A daemon with neither sessions nor connections. -/
def DaemonState.start (maxPorts maxSessions : Nat) : DaemonState where
  host := .start maxPorts maxSessions

/-- At the start nothing is bound. -/
theorem bound_start (maxPorts maxSessions : Nat) :
    Bound (DaemonState.start maxPorts maxSessions).host
      (DaemonState.start maxPorts maxSessions).find where
  distinct known := by simp [DaemonState.start, DaemonState.find] at known
  owned known := by simp [DaemonState.start, DaemonHost.start] at known
  apart known := by simp [DaemonState.start, DaemonState.find] at known
  fresh known := by simp [DaemonState.start, DaemonState.find] at known

/-- In every run that attaches no port which an open connection still has, the bindings
agree in every state. -/
theorem daemonStep_bindingIntegrity (config : DaemonIpcServerConfig) (maxPorts maxSessions : Nat)
    (actions : List DaemonAction)
    (attachesFree : EachStep (daemonStep config) AttachesFreePort
      (.start maxPorts maxSessions) actions) :
    Always (daemonStep config) BindingIntegrity (.start maxPorts maxSessions) actions := by
  have always := always_of_invariant (fun bound => daemonStep_bound bound)
    (bound_start maxPorts maxSessions) attachesFree
  exact always.mono fun _ => Bound.bindingIntegrity

/-! ## Two runs -/

/-- A client connects and attaches to a session. -/
def attachClient (fd : Fd) (port : SessionId) : List DaemonAction :=
  [.accept fd, .dispatch fd handshakeFrame [.accepted 20],
    .dispatch fd
      { type := .AttachSession, payload := encodeAttachSessionPayload { sessionPort := port } }
      [.accepted 16]]

/-- A session is killed and its client hangs up before the port is used again; then a client
detaches. -/
def killedAndGone : List DaemonAction :=
  attachClient 0 0 ++ attachClient 1 0 ++
    [DaemonAction.killSession 2, .drainPendingSessionDestroys fun _ => none, .close 1] ++
    attachClient 2 0 ++ [DaemonAction.dispatch 0 { type := .DetachSession } [.accepted 12]]

/-- A client that attaches, is killed and goes away leaves the bindings in order. -/
theorem killedAndGone_bindingIntegrity :
    (run (daemonStep {}) (.start 64 64) killedAndGone).isSome ∧
      EachStep (daemonStep {}) AttachesFreePort (.start 64 64) killedAndGone ∧
      Always (daemonStep {}) BindingIntegrity (.start 64 64) killedAndGone :=
  have attachesFree :
      EachStep (daemonStep {}) AttachesFreePort (.start 64 64) killedAndGone := by
    decide +kernel
  ⟨by decide +kernel, attachesFree, daemonStep_bindingIntegrity _ _ _ _ attachesFree⟩

/-- The same, but the client of the killed session is still connected when a third client
gets a session on the freed port. -/
def killedAndReused : List DaemonAction :=
  attachClient 0 0 ++ attachClient 1 0 ++
    [DaemonAction.killSession 2, .drainPendingSessionDestroys fun _ => none] ++ attachClient 2 0

/-- Both connections have port 2 then. -/
theorem killedAndReused_shared :
    ¬ Always (daemonStep {}) BindingIntegrity (.start 64 64) killedAndReused := by
  intro always
  have attached : (run (daemonStep {}) (.start 64 64) killedAndReused).map (fun final =>
      ((final.find 1).map Connection.attachedPort, (final.find 2).map Connection.attachedPort)) =
        some (some (some 2), some (some 2)) := by decide +kernel
  obtain ⟨final, completed, ports⟩ := Option.map_eq_some_iff.mp attached
  simp only [Prod.mk.injEq, Option.map_eq_some_iff] at ports
  obtain ⟨⟨first, firstFound, firstPort⟩, ⟨second, secondFound, secondPort⟩⟩ := ports
  have shared := (always.finish completed).distinct 1 2 first second 2 firstFound secondFound
    firstPort secondPort
  exact absurd shared (by decide)

end Gemini.Daemon
