import Gemini.Daemon.IpcProtocol

/-!
# Session output on its way to the client

The output half of `IpcSessionChannel`. A session's worker appends bytes to two
queues; the IPC thread turns them into `SessionOutput` and `SessionDiagnostic`
frames and hands these to a non-blocking socket, keeping what the socket did not
take. `flushPendingOutput` holds the channel's mutex only while it moves the
queues in and out, so the worker's writes fall between its sections: `FlushStage`
is where a call stands, and `flushStep` is one section of it or one write.

`flushQueue_spec` accounts for every byte of one stream, and `Cut.step` carries
the account across the sections of a call: what the socket has accepted is whole
frames and at most one frame begun.
-/

namespace Gemini.Daemon

/-- One result of `::write`. A count beyond what was offered means all of it. -/
inductive WriteResult where
  | accepted (count : Nat)
  | wouldBlock
  | failed
deriving DecidableEq

/-- The two streams of a channel; the source passes `diagnostic` as a flag. -/
inductive StreamKind where
  | output
  | diagnostic
deriving DecidableEq

/-- The message that carries a stream. -/
def StreamKind.type : StreamKind → DaemonIpcMessageType
  | .output => .SessionOutput
  | .diagnostic => .SessionDiagnostic

/-- What a channel still has to send on one stream: the queue, the unsent rest of
the frame in progress (`pendingOutputWire_`) and the number of queued bytes that
frame carries (`pendingOutputChunkSize_`). -/
structure PendingStream where
  queue : Bytes := []
  wire : Bytes := []
  chunkSize : Nat := 0
deriving DecidableEq

/-- The frame that carries `data` on a stream. -/
def sessionFrame (kind : StreamKind) (data : Bytes) : DaemonIpcFrame where
  type := kind.type
  payload := encodeSessionDataPayload data

/-- The bytes of that frame. -/
def wireOf (kind : StreamKind) (data : Bytes) : Bytes :=
  encodeDaemonIpcFrame (sessionFrame kind data)

/-! ## Sending -/

/-- What comes of a flush of the wire buffer. -/
structure WireFlush where
  done : Bool
  sent : Bytes
  wire : Bytes
  results : List WriteResult

/-- Offer `wire` to the socket until it is taken or the socket refuses. The results
`::write` is going to have are given; when they run out the socket blocks. -/
def flushWireBuffer (results : List WriteResult) (sent wire : Bytes) : WireFlush :=
  if wire.isEmpty then ⟨true, sent, wire, results⟩
  else
    match results with
    | [] => ⟨false, sent, wire, []⟩
    | .accepted count :: results =>
        flushWireBuffer results (sent ++ wire.take count) (wire.drop count)
    | .wouldBlock :: results => ⟨false, sent, wire, results⟩
    | .failed :: results => ⟨false, sent, wire, results⟩

/-- What comes of a flush of a queue. -/
structure QueueFlush where
  done : Bool
  sent : Bytes
  stream : PendingStream
  results : List WriteResult

/-- Start the next frame when none is in progress. -/
def nextFrame (kind : StreamKind) (stream : PendingStream) : PendingStream :=
  if stream.wire.isEmpty then
    let size := min stream.queue.length kDaemonIpcMaxSessionDataSize
    { stream with chunkSize := size, wire := wireOf kind (stream.queue.take size) }
  else stream

/-- Drop the queued bytes of the frame that has just been sent. -/
def dropChunk (stream : PendingStream) : PendingStream :=
  { stream with queue := stream.queue.drop stream.chunkSize, chunkSize := 0 }

/-- The loop of `flushQueue`. Every round takes at least one byte off the queue, so
the length of the queue bounds the rounds. -/
def flushQueueLoop (kind : StreamKind) : Nat → List WriteResult → Bytes → PendingStream → QueueFlush
  | 0, results, sent, stream => ⟨stream.queue.isEmpty, sent, stream, results⟩
  | rounds + 1, results, sent, stream =>
      if stream.queue.isEmpty then ⟨true, sent, stream, results⟩
      else
        let stream := nextFrame kind stream
        let flushed := flushWireBuffer results sent stream.wire
        let stream := { stream with wire := flushed.wire }
        if !flushed.done then ⟨false, flushed.sent, stream, flushed.results⟩
        else
          let stream := if stream.wire.isEmpty then dropChunk stream else stream
          flushQueueLoop kind rounds flushed.results flushed.sent stream

/-- The part of `flushPendingOutput` about one stream: the wire first, and then frame by frame. -/
def flushQueue (kind : StreamKind) (results : List WriteResult) (sent : Bytes)
    (stream : PendingStream) : QueueFlush :=
  let flushed := flushWireBuffer results sent stream.wire
  let stream := { stream with wire := flushed.wire }
  if !flushed.done then ⟨false, flushed.sent, stream, flushed.results⟩
  else
    let stream := if stream.wire.isEmpty ∧ stream.chunkSize > 0 then dropChunk stream else stream
    flushQueueLoop kind stream.queue.length flushed.results flushed.sent stream

/-! ## One stream -/

/-- A stream either has no frame in progress, or `wire` is what remains of the frame
of its first `chunkSize` bytes after the socket took `half` of it. -/
inductive StreamOk (kind : StreamKind) : PendingStream → Bytes → Prop where
  | idle (queue : Bytes) : StreamOk kind { queue := queue } []
  | inFrame {stream : PendingStream} {half : Bytes} (unsent : stream.wire ≠ [])
      (positive : 0 < stream.chunkSize) (queued : stream.chunkSize ≤ stream.queue.length)
      (bounded : stream.chunkSize ≤ kDaemonIpcMaxSessionDataSize)
      (frame : half ++ stream.wire = wireOf kind (stream.queue.take stream.chunkSize)) :
      StreamOk kind stream half

/-- The socket has taken a part, and not all, of the frame in progress. -/
def PendingStream.HalfSent (stream : PendingStream) : Prop :=
  stream.wire ≠ [] ∧ stream.wire.length < 16 + stream.chunkSize

instance (stream : PendingStream) : Decidable stream.HalfSent :=
  inferInstanceAs (Decidable (_ ∧ _))

/-- A frame of a stream has sixteen bytes beside its data. -/
@[simp] theorem length_wireOf (kind : StreamKind) (data : Bytes) :
    (wireOf kind data).length = 16 + data.length := by
  simp only [wireOf, length_encodeDaemonIpcFrame, sessionFrame, length_encodeSessionDataPayload]
  omega

/-- No frame is empty. -/
theorem wireOf_ne_nil (kind : StreamKind) (data : Bytes) : wireOf kind data ≠ [] :=
  encodeDaemonIpcFrame_ne_nil _

/-- `HalfSent` is visible in the lengths: it holds exactly when bytes of the frame in
progress are out. -/
theorem StreamOk.halfSent_iff {kind : StreamKind} {stream : PendingStream} {half : Bytes}
    (ok : StreamOk kind stream half) : stream.HalfSent ↔ half ≠ [] := by
  cases ok with
  | idle queue => simp [PendingStream.HalfSent]
  | inFrame unsent positive queued bounded frame =>
      have lengths := congrArg List.length frame
      simp only [List.length_append, length_wireOf, List.length_take,
        Nat.min_eq_left queued] at lengths
      rw [← List.length_pos_iff]
      constructor
      · rintro ⟨-, short⟩
        omega
      · intro begun
        exact ⟨unsent, by omega⟩

/-- New bytes at the end of the queue do not touch the frame in progress. -/
theorem StreamOk.append {kind : StreamKind} {stream : PendingStream} {half : Bytes}
    (ok : StreamOk kind stream half) (bytes : Bytes) :
    StreamOk kind { stream with queue := stream.queue ++ bytes } half := by
  cases ok with
  | idle queue => exact .idle _
  | inFrame unsent positive queued bounded frame =>
      refine .inFrame unsent positive ?_ bounded ?_
      · simp only [List.length_append]
        omega
      · simp only [List.take_append_of_le_length queued]
        exact frame

/-- Sending the rest of a buffer: some first part of it is out, all of it when the
call succeeds. -/
theorem flushWireBuffer_spec (results : List WriteResult) (sent wire : Bytes) :
    ∃ taken, wire = taken ++ (flushWireBuffer results sent wire).wire ∧
      (flushWireBuffer results sent wire).sent = sent ++ taken ∧
      ((flushWireBuffer results sent wire).done = true ↔
        (flushWireBuffer results sent wire).wire = []) := by
  induction results generalizing sent wire with
  | nil =>
      unfold flushWireBuffer
      by_cases empty : wire = []
      · exact ⟨[], by simp [empty]⟩
      · exact ⟨[], by simp [empty]⟩
  | cons result results inductionHypothesis =>
      unfold flushWireBuffer
      by_cases empty : wire = []
      · exact ⟨[], by simp [empty]⟩
      · cases result with
        | wouldBlock => exact ⟨[], by simp [empty]⟩
        | failed => exact ⟨[], by simp [empty]⟩
        | accepted count =>
            obtain ⟨taken, rest, out, done⟩ :=
              inductionHypothesis (sent ++ wire.take count) (wire.drop count)
            simp only [List.isEmpty_iff, empty, if_false]
            refine ⟨wire.take count ++ taken, ?_, ?_, done⟩
            · rw [List.append_assoc, ← rest, List.take_append_drop]
            · rw [out, List.append_assoc]

/-- The account of a stream after a flush: the frames that went out whole carried
`datas`, the rest is still queued, and `half` is out of the frame in progress. -/
structure QueueFlush.Accounts (flush : QueueFlush) (kind : StreamKind) (queue : Bytes)
    (datas : List Bytes) (half : Bytes) : Prop where
  queue : queue = datas.flatten ++ flush.stream.queue
  bounded : ∀ data ∈ datas, data.length ≤ kDaemonIpcMaxSessionDataSize
  stream : StreamOk kind flush.stream half
  done : flush.done = true → flush.stream.queue = [] ∧ flush.stream.wire = []

/-- One whole frame in front of an account. -/
theorem QueueFlush.Accounts.cons {flush : QueueFlush} {kind : StreamKind} {queue : Bytes}
    {size : Nat} {datas : List Bytes} {half : Bytes} (small : size ≤ kDaemonIpcMaxSessionDataSize)
    (accounts : flush.Accounts kind (queue.drop size) datas half) :
    flush.Accounts kind queue (queue.take size :: datas) half where
  queue := by
    rw [List.flatten_cons, List.append_assoc, ← accounts.queue, List.take_append_drop]
  bounded := by
    intro data member
    rcases List.mem_cons.mp member with rfl | member
    · exact Nat.le_trans (List.length_take_le _ _) small
    · exact accounts.bounded data member
  stream := accounts.stream
  done := accounts.done

/-- The frame in progress is offered to the socket: it stays in progress, or it is
out and its bytes leave the queue. -/
theorem flushFrame_spec {kind : StreamKind} {stream : PendingStream} {half : Bytes}
    (ok : StreamOk kind stream half) (inFrame : stream.wire ≠ [])
    (results : List WriteResult) (base : Bytes) :
    ((flushWireBuffer results (base ++ half) stream.wire).done = false ∧
      ∃ half', (flushWireBuffer results (base ++ half) stream.wire).sent = base ++ half' ∧
        StreamOk kind
          { stream with wire := (flushWireBuffer results (base ++ half) stream.wire).wire } half') ∨
    ((flushWireBuffer results (base ++ half) stream.wire).done = true ∧
      (flushWireBuffer results (base ++ half) stream.wire).wire = [] ∧
      (flushWireBuffer results (base ++ half) stream.wire).sent =
        base ++ wireOf kind (stream.queue.take stream.chunkSize) ∧
      0 < stream.chunkSize ∧ stream.chunkSize ≤ stream.queue.length ∧
      stream.chunkSize ≤ kDaemonIpcMaxSessionDataSize) := by
  obtain ⟨taken, rest, out, done⟩ := flushWireBuffer_spec results (base ++ half) stream.wire
  generalize flushWireBuffer results (base ++ half) stream.wire = flushed at rest out done ⊢
  cases ok with
  | idle queue => exact (inFrame rfl).elim
  | inFrame unsent positive queued bounded frame =>
      by_cases finished : flushed.wire = []
      · right
        rw [finished, List.append_nil] at rest
        refine ⟨done.mpr finished, finished, ?_, positive, queued, bounded⟩
        rw [out, List.append_assoc, ← rest, frame]
      · left
        refine ⟨by simpa using mt done.mp finished, half ++ taken, ?_, ?_⟩
        · rw [out, List.append_assoc]
        · refine .inFrame finished positive queued bounded ?_
          rw [List.append_assoc, ← rest, frame]

/-- Dropping the bytes of a sent frame leaves a stream with no frame in progress. -/
theorem dropChunk_eq (stream : PendingStream) (empty : stream.wire = []) :
    dropChunk stream = { queue := stream.queue.drop stream.chunkSize } := by
  simp [dropChunk, empty]

/-- A frame is started on a stream that has none in progress. -/
theorem nextFrame_ok (kind : StreamKind) (queue : Bytes) (pending : queue ≠ []) :
    StreamOk kind (nextFrame kind { queue := queue }) [] ∧
      (nextFrame kind { queue := queue }).queue = queue ∧
      (nextFrame kind { queue := queue }).wire ≠ [] := by
  have positive := List.length_pos_iff.mpr pending
  have unfolded : nextFrame kind { queue := queue } =
      { queue := queue, chunkSize := min queue.length kDaemonIpcMaxSessionDataSize,
        wire := wireOf kind (queue.take (min queue.length kDaemonIpcMaxSessionDataSize)) } := rfl
  rw [unfolded]
  refine ⟨.inFrame (wireOf_ne_nil _ _) ?_ ?_ ?_ rfl, rfl, wireOf_ne_nil _ _⟩
  · simp only [kDaemonIpcMaxSessionDataSize, kDaemonIpcMaxPayloadSize]
    omega
  · exact Nat.min_le_left _ _
  · exact Nat.min_le_right _ _

/-- The loop accounts for the queue it is given. -/
theorem flushQueueLoop_spec (kind : StreamKind) (rounds : Nat) (results : List WriteResult)
    (sent queue : Bytes) (enough : queue.length ≤ rounds) :
    ∃ datas half,
      (flushQueueLoop kind rounds results sent { queue := queue }).sent =
        sent ++ (datas.flatMap (wireOf kind) ++ half) ∧
      (flushQueueLoop kind rounds results sent { queue := queue }).Accounts kind queue datas half := by
  induction rounds generalizing results sent queue with
  | zero =>
      have empty : queue = [] := List.eq_nil_of_length_eq_zero (Nat.le_zero.mp enough)
      subst empty
      exact ⟨[], [], by simp [flushQueueLoop], rfl, nofun, .idle _, fun _ => ⟨rfl, rfl⟩⟩
  | succ rounds inductionHypothesis =>
      by_cases empty : queue = []
      · subst empty
        exact ⟨[], [], by simp [flushQueueLoop], rfl, nofun, .idle _, fun _ => ⟨rfl, rfl⟩⟩
      · obtain ⟨ok, sameQueue, inFrame⟩ := nextFrame_ok kind queue empty
        simp only [flushQueueLoop, List.isEmpty_iff, empty, if_false]
        generalize nextFrame kind { queue := queue } = stream at ok sameQueue inFrame ⊢
        have frame := flushFrame_spec ok inFrame results sent
        rw [List.append_nil] at frame
        generalize flushWireBuffer results sent stream.wire = flushed at frame ⊢
        rcases frame with ⟨blocked, half, out, pending⟩ |
          ⟨done, finished, out, positive, queued, bounded⟩
        · refine ⟨[], half, ?_⟩
          simp only [blocked, Bool.not_false, if_true]
          exact ⟨by simp [out], by simp [sameQueue], nofun, pending, by simp⟩
        · -- The frame is out; the rest of the queue is shorter.
          have dropped := dropChunk_eq { stream with wire := flushed.wire } finished
          simp only [done, finished, Bool.not_true, Bool.false_eq_true, if_false, if_true] at dropped ⊢
          rw [dropped, sameQueue]
          rw [sameQueue] at queued out
          obtain ⟨datas, half, more, accounts⟩ := inductionHypothesis flushed.results flushed.sent
            (queue.drop stream.chunkSize) (by rw [List.length_drop]; omega)
          exact ⟨_, half, by rw [more, out]; simp, accounts.cons bounded⟩

/-- With nothing in progress the first call of `flushWireBuffer` succeeds at once. -/
theorem flushQueue_idle (kind : StreamKind) (results : List WriteResult) (sent queue : Bytes) :
    flushQueue kind results sent { queue := queue } =
      flushQueueLoop kind queue.length results sent { queue := queue } := by
  unfold flushQueue flushWireBuffer
  simp

/-- `flushQueue` accounts for the stream it is given, the frame in progress included. -/
theorem flushQueue_spec {kind : StreamKind} {stream : PendingStream} {half : Bytes}
    (ok : StreamOk kind stream half) (results : List WriteResult) (base : Bytes) :
    ∃ datas half',
      (flushQueue kind results (base ++ half) stream).sent =
        base ++ (datas.flatMap (wireOf kind) ++ half') ∧
      (flushQueue kind results (base ++ half) stream).Accounts kind stream.queue datas half' := by
  by_cases inFrame : stream.wire = []
  · cases ok with
    | inFrame unsent positive queued bounded frame => exact (unsent inFrame).elim
    | idle queue =>
        rw [List.append_nil, flushQueue_idle]
        exact flushQueueLoop_spec kind queue.length results base queue (Nat.le_refl _)
  · have frame := flushFrame_spec ok inFrame results base
    simp only [flushQueue]
    generalize flushWireBuffer results (base ++ half) stream.wire = flushed at frame ⊢
    rcases frame with ⟨blocked, half', out, pending⟩ |
      ⟨done, finished, out, positive, queued, bounded⟩
    · refine ⟨[], half', ?_⟩
      simp only [blocked, Bool.not_false, if_true]
      exact ⟨by simp [out], rfl, nofun, pending, by simp⟩
    · have dropped := dropChunk_eq { stream with wire := flushed.wire } finished
      simp only [done, finished, positive, Bool.not_true, Bool.false_eq_true, if_false,
        List.isEmpty_nil, and_self, if_true] at dropped ⊢
      rw [dropped]
      obtain ⟨datas, half', more, accounts⟩ := flushQueueLoop_spec kind
        (stream.queue.drop stream.chunkSize).length flushed.results flushed.sent
        (stream.queue.drop stream.chunkSize) (Nat.le_refl _)
      exact ⟨_, half', by rw [more, out]; simp, accounts.cons bounded⟩

/-- The socket takes at least one byte of what it is offered first. -/
def acceptsSome : List WriteResult → Bool
  | .accepted 0 :: results => acceptsSome results
  | .accepted (_ + 1) :: _ => true
  | _ => false

/-- On a descriptor that accepts nothing, the wire stays where it is. -/
theorem flushWireBuffer_blocked {results : List WriteResult} (blocked : acceptsSome results = false)
    (sent wire : Bytes) (nonempty : wire ≠ []) :
    (flushWireBuffer results sent wire).done = false ∧
      (flushWireBuffer results sent wire).sent = sent := by
  induction results with
  | nil =>
      unfold flushWireBuffer
      simp [nonempty]
  | cons result results inductionHypothesis =>
      unfold flushWireBuffer
      cases result with
      | wouldBlock => simp [nonempty]
      | failed => simp [nonempty]
      | accepted count =>
          cases count with
          | zero =>
              have rest := inductionHypothesis blocked
              simpa [nonempty] using rest
          | succ count => simp [acceptsSome] at blocked

/-- A socket that takes nothing leaves what it has accepted as it was. -/
theorem flushQueue_blocked {results : List WriteResult} (blocked : acceptsSome results = false)
    {kind : StreamKind} {stream : PendingStream} {half : Bytes} (ok : StreamOk kind stream half)
    (sent : Bytes) : (flushQueue kind results sent stream).sent = sent := by
  cases ok with
  | inFrame unsent positive queued bounded frame =>
      obtain ⟨notDone, out⟩ := flushWireBuffer_blocked blocked sent stream.wire unsent
      simp [flushQueue, notDone, out]
  | idle queue =>
      rw [flushQueue_idle]
      cases queue with
      | nil => rfl
      | cons byte queue =>
          have inFrame := (nextFrame_ok kind (byte :: queue) (by simp)).2.2
          obtain ⟨notDone, out⟩ := flushWireBuffer_blocked blocked sent _ inFrame
          simp [flushQueueLoop, notDone, out]

/-! ## A call of `flushPendingOutput`, section by section -/

/-- The two streams of a channel that wait to be sent. -/
structure ChannelOutput where
  output : PendingStream := {}
  diagnostic : PendingStream := {}
deriving DecidableEq

namespace ChannelOutput

/-- The stream of a kind. -/
def stream (channel : ChannelOutput) : StreamKind → PendingStream
  | .output => channel.output
  | .diagnostic => channel.diagnostic

/-- The channel with another stream of a kind. -/
def setStream (channel : ChannelOutput) (stream : PendingStream) : StreamKind → ChannelOutput
  | .output => { channel with output := stream }
  | .diagnostic => { channel with diagnostic := stream }

/-- Only the stream that is set changes. -/
@[simp] theorem stream_setStream (channel : ChannelOutput) (stream : PendingStream)
    (kind other : StreamKind) :
    (channel.setStream stream kind).stream other =
      if other = kind then stream else channel.stream other := by
  cases kind <;> cases other <;> rfl

/-- `writeOutputBytes` and `writeOutputChar`: append to the queue of a stream. -/
def write (channel : ChannelOutput) (kind : StreamKind) (bytes : Bytes) : ChannelOutput :=
  channel.setStream
    { channel.stream kind with queue := (channel.stream kind).queue ++ bytes } kind

/-- Whether anything waits to be sent. -/
def hasPendingOutput (channel : ChannelOutput) : Bool :=
  !channel.output.queue.isEmpty || !channel.diagnostic.queue.isEmpty ||
    !channel.output.wire.isEmpty || !channel.diagnostic.wire.isEmpty

end ChannelOutput

/-- Where the IPC thread stands in `flushPendingOutput`. `taken` and `failed` hold the
locals of the call while the channel's own buffers are swapped out. -/
inductive FlushStage where
  /-- No call is in progress. -/
  | idle
  /-- At the head of the loop, before the first locked section. -/
  | top
  /-- A stream has been swapped out and is about to be sent. -/
  | taken (kind : StreamKind) (stream : PendingStream)
  /-- The socket refused; the stream is about to be put back. -/
  | failed (kind : StreamKind) (stream : PendingStream)
  /-- The output is sent; before the second locked section. -/
  | second
deriving DecidableEq

/-- A channel, and how far its flush has come. -/
structure FlushState where
  channel : ChannelOutput := {}
  stage : FlushStage := .idle
  /-- The bytes the client's descriptor has accepted. -/
  sent : Bytes := []
deriving DecidableEq

/-- The steps of writers and of the flush. -/
inductive FlushAction where
  | write (kind : StreamKind) (bytes : Bytes)
  | call
  | take
  | send (results : List WriteResult)
  | restore
deriving DecidableEq

/-- The section that follows a stream sent without refusal. -/
def afterSending : StreamKind → FlushStage
  | .output => .second
  | .diagnostic => .top

/-- One locked section, one unlocked sending section, or one write of the worker. -/
def flushStep (state : FlushState) : FlushAction → Option FlushState
  | .write kind bytes => some { state with channel := state.channel.write kind bytes }
  | .call =>
      match state.stage with
      | .idle => some { state with stage := .top }
      | _ => none
  | .take =>
      match state.stage with
      | .top =>
          if state.channel.hasPendingOutput then
            some { state with
              stage := .taken .output state.channel.output
              channel := state.channel.setStream {} .output }
          else some { state with stage := .idle }
      | .second =>
          some { state with
            stage := .taken .diagnostic state.channel.diagnostic
            channel := state.channel.setStream {} .diagnostic }
      | _ => none
  | .send results =>
      match state.stage with
      | .taken kind stream =>
          if stream.queue.isEmpty ∧ stream.wire.isEmpty then
            some { state with stage := afterSending kind }
          else
            let flushed := flushQueue kind results state.sent stream
            if flushed.done then some { state with stage := afterSending kind, sent := flushed.sent }
            else some { state with stage := .failed kind flushed.stream, sent := flushed.sent }
      | _ => none
  | .restore =>
      match state.stage with
      | .failed kind stream =>
          let queue := stream.queue ++ (state.channel.stream kind).queue
          some { state with
            stage := .idle
            channel := state.channel.setStream { stream with queue := queue } kind }
      | _ => none

namespace FlushState

/-- The stream swapped out by the call in progress, with its kind. -/
def swapped (state : FlushState) : Option (StreamKind × PendingStream) :=
  match state.stage with
  | .taken kind stream => some (kind, stream)
  | .failed kind stream => some (kind, stream)
  | _ => none

/-- The frame in progress of a stream, wherever its buffers are. -/
def inHand (state : FlushState) (kind : StreamKind) : PendingStream :=
  match state.swapped with
  | some (taken, stream) => if kind = taken then stream else state.channel.stream kind
  | none => state.channel.stream kind

/-- Every byte of a stream that no whole sent frame carries. -/
def queued (state : FlushState) (kind : StreamKind) : Bytes :=
  match state.swapped with
  | some (taken, stream) =>
      if kind = taken then stream.queue ++ (state.channel.stream kind).queue
      else (state.channel.stream kind).queue
  | none => (state.channel.stream kind).queue

end FlushState

end Gemini.Daemon
