import Gemini.Daemon.IpcServer
import Gemini.Daemon.OutputFraming

/-!
# Frames on one connection of the server

Two writers share a connection's descriptor: `dispatchFrame` writes its replies
straight to the socket, and `flushPendingOutput` keeps the rest of a half-sent
session frame in the channel. `ServerOk` is the account of the accepted bytes over
both, whatever the host behind the handlers does; it survives every step at which
the socket's results do not cut an unchecked error short and no reply is written
into a half-sent session frame (`KeepsWhole`).
-/

namespace Gemini.Daemon

open Gemini.Semantics

/-- One accepted connection, with the host behind the handlers, the stage of the flush
in progress and the bytes the descriptor has accepted. -/
structure ServerConnection (Host : Type) where
  host : Host
  connection : Connection ChannelOutput := {}
  stage : FlushStage := .idle
  sent : Bytes := []
  isOpen : Bool := true

/-- What happens on a connection with an attached session. -/
inductive ServerAction (Host : Type) where
  /-- A write of the worker, or a section of `flushPendingOutput`. -/
  | flush (action : FlushAction)
  /-- A frame of the client; `results` are those of the writes of its reply. -/
  | dispatch (frame : DaemonIpcFrame) (results : List WriteResult)
  /-- The other threads and connections change the host. -/
  | host (host : Host)
  /-- The client is gone or has sent bytes that are no frame. -/
  | close

/-- The channel's buffers and the descriptor as a flush sees them. -/
def ServerConnection.flush {Host : Type} (state : ServerConnection Host) : FlushState where
  channel := state.connection.channel.getD {}
  stage := state.stage
  sent := state.sent

/-- No session frame of the channel is half sent. -/
def ChannelOutput.Between (channel : ChannelOutput) : Prop :=
  ∀ kind, ¬ (channel.stream kind).HalfSent

instance (channel : ChannelOutput) : Decidable channel.Between :=
  decidable_of_iff (¬ channel.output.HalfSent ∧ ¬ channel.diagnostic.HalfSent) <| by
    constructor
    · intro both kind
      cases kind with
      | output => exact both.1
      | diagnostic => exact both.2
    · intro between
      exact ⟨between .output, between .diagnostic⟩

/-- What the socket must do with an answer, given the bytes it takes. A reply that it
takes whole is not written into a half-sent session frame. An error whose write result is
discarded is taken whole, and not into a half-sent session frame, or not at all. -/
def Answer.KeepsWhole (taken : Nat) (channel : ChannelOutput) : Answer → Prop
  | .silent => True
  | .reply frame => (encodeDaemonIpcFrame frame).length ≤ taken → channel.Between
  | .refusal frame =>
      taken ≠ 0 → (encodeDaemonIpcFrame frame).length ≤ taken ∧ channel.Between
  | .farewell _ => True

instance (taken : Nat) (channel : ChannelOutput) :
    (answer : Answer) → Decidable (answer.KeepsWhole taken channel)
  | .silent => isTrue trivial
  | .reply _ => inferInstanceAs (Decidable (_ → _))
  | .refusal _ => inferInstanceAs (Decidable (_ → _))
  | .farewell _ => isTrue trivial

section Server

variable {Host : Type} (close : Host → ChannelOutput → Host)
  (pushInput : Host → ChannelOutput → Bytes → Host)

/-- The channel operations of a host: a new channel has nothing to send. -/
def outputOps : ChannelOps Host ChannelOutput where
  make host := ({}, host)
  close := close
  pushInput := pushInput

variable (handlers : DaemonIpcHandlers Host ChannelOutput) (config : DaemonIpcServerConfig)

/-- `removeConnectionAt`. -/
def removeConnection (state : ServerConnection Host) : ServerConnection Host :=
  let (connection, host) :=
    detachConnection (outputOps close pushInput) handlers state.host state.connection
  { state with connection := connection, host := host, isOpen := false }

/-- One step of the server on one connection. `pollAndDispatch` runs on one thread, so a
frame is dispatched between two flushes; `flushPendingOutput` is called for an attached
connection only. -/
def serverStep (state : ServerConnection Host) : ServerAction Host → Option (ServerConnection Host)
  | .flush action =>
      match state.isOpen, state.connection.channel with
      | true, some channel =>
          if action = .call ∧ state.connection.attachedPort.isNone then none
          else
            (flushStep ⟨channel, state.stage, state.sent⟩ action).map fun next =>
              { state with
                connection := { state.connection with channel := some next.channel }
                stage := next.stage
                sent := next.sent }
      | _, _ => none
  | .dispatch frame results =>
      if state.isOpen ∧ state.stage = .idle then
        let dispatched := dispatchFrame (outputOps close pushInput) handlers config results
          state.sent state.host state.connection frame
        let next : ServerConnection Host :=
          { state with
            connection := dispatched.connection, host := dispatched.host, sent := dispatched.sent }
        if dispatched.outcome.closeConnection then
          some (removeConnection close pushInput handlers next)
        else some next
      else none
  | .host host => some { state with host := host }
  | .close =>
      if state.isOpen ∧ state.stage = .idle then
        some (removeConnection close pushInput handlers state)
      else none

/-- While the connection is open, the accepted bytes are a first part of complete
frames. -/
def WholeFrames (state : ServerConnection Host) : Prop :=
  state.isOpen = true →
    ∃ frames : List DaemonIpcFrame, (∀ frame ∈ frames, Fits frame) ∧
      state.sent <+: frames.flatMap encodeDaemonIpcFrame

/-- The condition on a step: the answer to a frame keeps the frames whole, and so does a
section of the flush. -/
def KeepsWhole (state : ServerConnection Host) : ServerAction Host → Prop
  | .flush action => Undivided state.flush action
  | .dispatch frame results =>
      (answerOf (outputOps close pushInput) handlers config state.host state.connection
        frame).KeepsWhole (room results) state.flush.channel
  | .host _ => True
  | .close => True

instance (state : ServerConnection Host) : (action : ServerAction Host) →
    Decidable (KeepsWhole close pushInput handlers config state action)
  | .flush action => inferInstanceAs (Decidable (Undivided state.flush action))
  | .dispatch frame results =>
      inferInstanceAs (Decidable ((answerOf (outputOps close pushInput) handlers config state.host
        state.connection frame).KeepsWhole (room results) state.flush.channel))
  | .host _ => isTrue trivial
  | .close => isTrue trivial

/-! ## The account -/

/-- The account of an open connection. -/
structure ServerOk (state : ServerConnection Host) : Prop where
  paired : state.connection.channel.isSome = state.connection.attachedPort.isSome
  cut : ∃ (frames : List DaemonIpcFrame) (halves : StreamKind → Bytes),
    (∀ frame ∈ frames, Fits frame) ∧ Cut state.flush (frames.flatMap encodeDaemonIpcFrame) halves

/-- A connection that the server has closed has nothing to account for. -/
def OpenOk (state : ServerConnection Host) : Prop :=
  state.isOpen = true → ServerOk state

/-- Frames that fit, one after the other. -/
theorem fits_append {first second : List DaemonIpcFrame} (fits : ∀ frame ∈ first, Fits frame)
    (more : ∀ frame ∈ second, Fits frame) : ∀ frame ∈ first ++ second, Fits frame := by
  intro frame member
  rcases List.mem_append.mp member with member | member
  · exact fits frame member
  · exact more frame member

/-- A frame of bounded data fits. -/
theorem fits_sessionFrame (kind : StreamKind) {data : Bytes}
    (bounded : data.length ≤ kDaemonIpcMaxSessionDataSize) : Fits (sessionFrame kind data) := by
  simp only [Fits, sessionFrame, length_encodeSessionDataPayload]
  simp only [kDaemonIpcMaxSessionDataSize, kDaemonIpcMaxPayloadSize] at bounded ⊢
  omega

/-- Between two session frames nothing is half out. -/
theorem Cut.halves_eq_nil {channel : ChannelOutput} {sent base : Bytes}
    {halves : StreamKind → Bytes} (cut : Cut ⟨channel, .idle, sent⟩ base halves)
    (between : channel.Between) (kind : StreamKind) : halves kind = [] := by
  have ok : StreamOk kind (channel.stream kind) (halves kind) := cut.streams kind
  by_cases begun : halves kind = []
  · exact begun
  · exact (between kind (ok.halfSent_iff.mpr begun)).elim

/-- A frame written between two session frames. -/
theorem Cut.between {channel other : ChannelOutput} {sent base : Bytes}
    {halves : StreamKind → Bytes} (cut : Cut ⟨channel, .idle, sent⟩ base halves)
    (between : channel.Between) (next : other = channel ∨ other = {}) (bytes : Bytes) :
    Cut ⟨other, .idle, sent ++ bytes⟩ (base ++ bytes) halves := by
  have none := cut.halves_eq_nil between
  have whole : sent = base := by simpa [none] using cut.sent
  refine ⟨by simp [none, whole], cut.single, fun kind => ?_, trivial⟩
  rcases next with rfl | rfl
  · exact cut.streams kind
  · rw [none kind]
    cases kind <;> exact .idle []

/-- A dispatch leaves the channel's buffers, or a channel with nothing to send. -/
theorem SessionMove.buffers {before after : Connection ChannelOutput} {answer : Answer}
    (move : SessionMove {} before after answer)
    (paired : before.channel.isSome = before.attachedPort.isSome) :
    after.channel.isSome = after.attachedPort.isSome ∧
      (after.channel.getD {} = before.channel.getD {} ∨
        after.channel.getD {} = {} ∧ ∃ frame, answer = .reply frame) := by
  cases move with
  | kept port channel => exact ⟨by rw [port, channel, paired], .inl (by rw [channel])⟩
  | attached free port channel => exact ⟨by simp [port, channel], .inr ⟨by simp [channel], _, rfl⟩⟩
  | detached port channel => exact ⟨by simp [port, channel], .inr ⟨by simp [channel], _, rfl⟩⟩

/-- A section of the flush keeps the connection in order. -/
theorem flushStep_ok {state next : ServerConnection Host} {action : FlushAction}
    (ok : ServerOk state) (undivided : Undivided state.flush action)
    (taken : serverStep close pushInput handlers config state (.flush action) = some next) :
    ServerOk next := by
  obtain ⟨paired, frames, halves, fits, cut⟩ := ok
  simp only [serverStep] at taken
  split at taken
  · rename_i channel isOpen known
    split at taken
    · cases taken
    · obtain ⟨flushed, step, rfl⟩ := Option.map_eq_some_iff.mp taken
      simp only [ServerConnection.flush, known, Option.getD_some] at cut undivided
      obtain ⟨kind, datas, halves', cut', bounded, -⟩ := cut.step undivided step
      refine ⟨by simpa [known] using paired,
        frames ++ datas.map (sessionFrame kind), halves', fits_append fits ?_, ?_⟩
      · intro frame member
        obtain ⟨data, among, rfl⟩ := List.mem_map.mp member
        exact fits_sessionFrame kind (bounded data among)
      · rw [List.flatMap_append, List.flatMap_map]
        exact cut'
  · cases taken

/-- An answer that leaves the connection open adds one whole frame or nothing. -/
theorem Answer.KeepsWhole.added {taken : Nat} {channel : ChannelOutput} {answer : Answer}
    (fits : answer.Fits) (keeps : answer.KeepsWhole taken channel)
    (stays : answer.closes taken = false) :
    (answer.bytes.take taken = [] ∧ ∀ frame, answer ≠ .reply frame) ∨
      (∃ frame, Daemon.Fits frame ∧ answer.bytes.take taken = encodeDaemonIpcFrame frame) ∧
        channel.Between := by
  cases answer with
  | silent => exact .inl ⟨by simp [Answer.bytes], by simp⟩
  | farewell frame => cases stays
  | reply frame =>
      have whole : (encodeDaemonIpcFrame frame).length ≤ taken := by
        simpa [Answer.closes] using stays
      exact .inr ⟨⟨frame, fits, List.take_of_length_le whole⟩, keeps whole⟩
  | refusal frame =>
      by_cases nothing : taken = 0
      · exact .inl ⟨by simp [nothing], by simp⟩
      · obtain ⟨whole, between⟩ := keeps nothing
        exact .inr ⟨⟨frame, fits, List.take_of_length_le whole⟩, between⟩

/-- An answer between two frames keeps the connection in order. -/
theorem answered_ok {state : ServerConnection Host} {results : List WriteResult}
    {dispatched : Dispatched Host ChannelOutput} {answer : Answer} (ok : ServerOk state)
    (idle : state.stage = .idle)
    (answers : Answers {} results state.sent state.connection dispatched answer)
    (keeps : answer.KeepsWhole (room results) state.flush.channel)
    (stays : dispatched.outcome.closeConnection = false) :
    ServerOk { state with
      connection := dispatched.connection, host := dispatched.host, sent := dispatched.sent } := by
  obtain ⟨host, connection, stage, sent, isOpen⟩ := state
  subst idle
  obtain ⟨paired, frames, halves, fits, cut⟩ := ok
  obtain ⟨paired', buffers⟩ := (answers.session stays).buffers paired
  refine ⟨paired', ?_⟩
  simp only [ServerConnection.flush, answers.sent] at cut keeps ⊢
  rcases keeps.added answers.fits (answers.closes ▸ stays) with
    ⟨nothing, notReply⟩ | ⟨⟨frame, small, whole⟩, between⟩
  · -- Without a reply the session stays as it was.
    have same : dispatched.connection.channel.getD {} = connection.channel.getD {} := by
      rcases buffers with same | ⟨-, frame, is⟩
      · exact same
      · exact (notReply frame is).elim
    rw [nothing, List.append_nil, same]
    exact ⟨frames, halves, fits, cut⟩
  · refine ⟨frames ++ [frame], halves, fits_append fits (by simpa using small), ?_⟩
    rw [whole, List.flatMap_append, List.flatMap_singleton]
    exact cut.between between (buffers.imp_right And.left) _

/-- Every step that keeps frames whole keeps the connection in order. -/
theorem serverStep_ok {state next : ServerConnection Host} {action : ServerAction Host}
    (ok : OpenOk state) (keeps : KeepsWhole close pushInput handlers config state action)
    (taken : serverStep close pushInput handlers config state action = some next) :
    OpenOk next := by
  intro isOpen
  cases action with
  | flush action =>
      cases before : state.isOpen with
      | false => simp [serverStep, before] at taken
      | true => exact flushStep_ok close pushInput handlers config (ok before) keeps taken
  | host host =>
      cases taken
      exact ⟨(ok isOpen).paired, (ok isOpen).cut⟩
  | close =>
      simp only [serverStep] at taken
      split at taken
      · cases taken
        cases isOpen
      · cases taken
  | dispatch frame results =>
      simp only [serverStep] at taken
      split at taken
      · rename_i ready
        split at taken
        · cases taken
          cases isOpen
        · rename_i stays
          cases taken
          have answers := dispatchFrame_answers (outputOps close pushInput) handlers config results
            state.sent state.host state.connection frame
          exact answered_ok (ok ready.1) ready.2 answers keeps (by simpa using stays)
      · cases taken

/-- The account gives complete frames that begin with the accepted bytes. -/
theorem ServerOk.wholeFrames {state : ServerConnection Host} (ok : ServerOk state) :
    ∃ frames : List DaemonIpcFrame, (∀ frame ∈ frames, Fits frame) ∧
      state.sent <+: frames.flatMap encodeDaemonIpcFrame := by
  obtain ⟨-, frames, halves, fits, cut⟩ := ok
  rcases begun_or_none halves with ⟨kind, begun⟩ | none
  · have completed := cut.completed begun
    obtain ⟨-, small, -⟩ := (cut.streams kind).frame begun
    have bounded := Nat.le_trans (List.length_take_le _ (state.flush.inHand kind).queue) small
    generalize (state.flush.inHand kind).queue.take _ = data at completed bounded
    refine ⟨frames ++ [sessionFrame kind data],
      fits_append fits (by simpa using fits_sessionFrame kind bounded), ?_⟩
    rw [List.flatMap_append, List.flatMap_singleton]
    exact completed
  · refine ⟨frames, fits, ⟨[], ?_⟩⟩
    rw [List.append_nil]
    exact cut.whole none

end Server

/-- For every host and every handler, every sequence of client frames, every interleaving
with the flushes of the channel and every pattern of `::write` results: as long as the
connection is open, the bytes sent are a first part of complete frames, when each answer
and each section of a flush keeps the frames whole. -/
theorem serverStep_wholeFrames {Host : Type} (close : Host → ChannelOutput → Host)
    (pushInput : Host → ChannelOutput → Bytes → Host)
    (handlers : DaemonIpcHandlers Host ChannelOutput) (config : DaemonIpcServerConfig)
    (host : Host) (actions : List (ServerAction Host))
    (keeps : EachStep (serverStep close pushInput handlers config)
      (KeepsWhole close pushInput handlers config) { host := host } actions) :
    Always (serverStep close pushInput handlers config) WholeFrames { host := host } actions := by
  have start : ServerOk ({ host := host } : ServerConnection Host) := by
    refine ⟨rfl, [], fun _ => [], nofun, rfl, .inl rfl, fun kind => ?_, trivial⟩
    cases kind <;> exact .idle []
  have always := always_of_invariant (serverStep_ok close pushInput handlers config)
    (fun _ => start) keeps
  exact always.mono fun state ok isOpen => (ok isOpen).wholeFrames


/-! ## Two connections -/

/-- A host that binds every connection to port 1. -/
def soleSession : DaemonIpcHandlers Unit ChannelOutput where
  attachSession := some fun _ _ _ => ({ status := .Ok, sessionPort := 1 }, ())
  detachSession := some fun _ _ => ()

/-- The steps of a connection to that host. -/
def soleStep : ServerConnection Unit → ServerAction Unit → Option (ServerConnection Unit) :=
  serverStep (fun _ _ => ()) (fun _ _ _ => ()) soleSession {}

/-- The condition on a server with one session. -/
def SoleKeepsWhole : ServerConnection Unit → ServerAction Unit → Prop :=
  KeepsWhole (fun _ _ => ()) (fun _ _ _ => ()) soleSession {}

/-- A client that attaches, gets output in two pieces and pings after the second. -/
def attachedAndPinged : List (ServerAction Unit) :=
  [.dispatch handshakeFrame [.accepted 20],
    .dispatch { type := .AttachSession, payload := encodeAttachSessionPayload {} } [.accepted 16],
    .flush (.write .output [0x68, 0x69]), .flush .call, .flush .take,
    .flush (.send [.accepted 3, .wouldBlock]), .flush .restore,
    .flush .call, .flush .take, .flush (.send [.accepted 15]),
    .flush .take, .flush (.send []), .flush .take,
    .dispatch {} [.accepted 4, .accepted 8]]

/-- A client that attaches and pings gets whole frames. -/
theorem attachedAndPinged_wholeFrames :
    (run soleStep { host := () } attachedAndPinged).isSome ∧
      EachStep soleStep SoleKeepsWhole { host := () } attachedAndPinged ∧
      Always soleStep WholeFrames { host := () } attachedAndPinged :=
  have keeps : EachStep soleStep SoleKeepsWhole { host := () } attachedAndPinged := by
    unfold soleStep SoleKeepsWhole
    decide +kernel
  ⟨by decide +kernel, keeps, serverStep_wholeFrames _ _ _ _ _ _ keeps⟩

/-- A client that sends input before it is attached, twice; the socket takes one byte of
the first error and all of the second. -/
def inputTwice : List (ServerAction Unit) :=
  [.dispatch handshakeFrame [.accepted 20],
    .dispatch { type := .SessionInput } [.accepted 1, .wouldBlock],
    .dispatch { type := .SessionInput } [.accepted 100]]

/-- The second error lands behind the one byte of the first. -/
theorem error_inside_error : ¬ Always soleStep WholeFrames { host := () } inputTwice := by
  intro always
  have bytes : (run soleStep { host := () } inputTwice).map (fun final =>
      (final.isOpen, completeFrameLength final.sent, completeFrameLength (final.sent.drop 20))) =
        some (true, some 20, some 0) := by decide +kernel
  obtain ⟨final, completed, known⟩ := Option.map_eq_some_iff.mp bytes
  simp only [Prod.mk.injEq] at known
  obtain ⟨isOpen, first, second⟩ := known
  obtain ⟨frames, fits, cut⟩ := always.finish completed isOpen
  rcases completeFrameLength_of_stream fits cut with none | ⟨frame, rest, rfl, length, cut⟩
  · simp [none] at first
  · rw [length, Option.some.injEq] at first
    rw [first] at cut
    have fitsRest : ∀ other ∈ rest, Fits other := fun other member => fits other (.tail _ member)
    rcases completeFrameLength_of_stream fitsRest cut with none | ⟨frame, -, -, length, -⟩
    · simp [none] at second
    · rw [length, Option.some.injEq, length_encodeDaemonIpcFrame] at second
      omega

end Gemini.Daemon
