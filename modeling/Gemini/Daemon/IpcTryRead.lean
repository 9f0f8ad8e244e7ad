import Gemini.Daemon.IpcProtocol
import Gemini.Data.Delivery

/-!
# Reading frames from a non-blocking socket

`tryReadDaemonIpcFrame` appends what `::read` gives to the caller's buffer until
`::read` would block, and then takes one frame from the buffer. End of file is
answered inside the reading loop, before the buffer is looked at.

`tryReadCalls_outcome` ties the repeated calls to the consumer of
`Gemini.Data.Delivery`: a call that ends with `EAGAIN` is a pause, and the frames
still buffered at the end of file are the items left over.
-/

namespace Gemini.Daemon

open Gemini.Data.Delivery

/-- One result of `::read`. -/
inductive ReadResult where
  | data (bytes : Bytes)
  | wouldBlock
  | failed
deriving DecidableEq

/-- What has come of an attempt to read a frame. -/
inductive DaemonIpcTryReadStatus where
  | Incomplete
  | FrameReady
  | ConnectionClosed
  | ProtocolError
deriving DecidableEq

/-- The status of an attempt, with the frame that it may have. -/
structure DaemonIpcTryReadResult where
  status : DaemonIpcTryReadStatus := .Incomplete
  frame : Option DaemonIpcFrame := none
deriving DecidableEq

/-- How the reading loop of `tryReadDaemonIpcFrame` ends. -/
inductive ReadLoopExit where
  | endOfFile
  | wouldBlock
  | failed
deriving DecidableEq

/-- The reading loop. The results still to come are the descriptor's state; once
they are used up, `::read` keeps returning zero. -/
def readAvailable : List ReadResult → Bytes → ReadLoopExit × List ReadResult × Bytes
  | [], buffer => (.endOfFile, [], buffer)
  | .data bytes :: fd, buffer =>
      if bytes.isEmpty then (.endOfFile, fd, buffer) else readAvailable fd (buffer ++ bytes)
  | .wouldBlock :: fd, buffer => (.wouldBlock, fd, buffer)
  | .failed :: fd, buffer => (.failed, fd, buffer)

/-- What follows the reading loop: take one frame from the buffer. -/
def takeBufferedFrame (buffer : Bytes) : DaemonIpcTryReadResult × Bytes :=
  match completeFrameLength buffer with
  | none => ({ status := .Incomplete }, buffer)
  | some frameLen =>
      if frameLen = 0 then ({ status := .ProtocolError }, buffer)
      else
        match decodeDaemonIpcFrame (buffer.take frameLen) with
        | none => ({ status := .ProtocolError }, buffer.drop frameLen)
        | some frame => ({ status := .FrameReady, frame := some frame }, buffer.drop frameLen)

/-- One call, with the descriptor and the buffer it leaves behind. -/
def tryReadDaemonIpcFrame (fd : List ReadResult) (buffer : Bytes) :
    DaemonIpcTryReadResult × List ReadResult × Bytes :=
  match readAvailable fd buffer with
  | (.endOfFile, fd, buffer) =>
      ({ status := if buffer.isEmpty then .ConnectionClosed else .ProtocolError }, fd, buffer)
  | (.failed, fd, buffer) => ({ status := .ConnectionClosed }, fd, buffer)
  | (.wouldBlock, fd, buffer) =>
      let (result, buffer) := takeBufferedFrame buffer
      (result, fd, buffer)

/-- The results of the first `n` calls on one descriptor and one buffer. -/
def tryReadCalls : Nat → List ReadResult → Bytes → List DaemonIpcTryReadResult
  | 0, _, _ => []
  | n + 1, fd, buffer =>
      let (result, fd, buffer) := tryReadDaemonIpcFrame fd buffer
      result :: tryReadCalls n fd buffer

/-! ## The stream a descriptor delivers -/

/-- Every byte the results of `::read` deliver. -/
def received (fd : List ReadResult) : Bytes :=
  fd.flatMap fun
    | .data bytes => bytes
    | _ => []

/-- A result that `::read` into a 4096-byte chunk can have on an open, healthy
connection. -/
def ReadResult.Ordinary : ReadResult → Prop
  | .data bytes => 0 < bytes.length ∧ bytes.length ≤ 4096
  | .wouldBlock => True
  | .failed => False

instance (result : ReadResult) : Decidable result.Ordinary :=
  match result with
  | .data _ => inferInstanceAs (Decidable (_ ∧ _))
  | .wouldBlock => inferInstanceAs (Decidable True)
  | .failed => inferInstanceAs (Decidable False)

/-- `fd` delivers exactly `stream`, cut into ordinary results, and then end of file. -/
def IsCutOf (fd : List ReadResult) (stream : Bytes) : Prop :=
  (∀ result ∈ fd, result.Ordinary) ∧ received fd = stream

instance (fd : List ReadResult) (stream : Bytes) : Decidable (IsCutOf fd stream) :=
  inferInstanceAs (Decidable (_ ∧ _))

/-- The arrivals a descriptor stands for: bytes by their number, `EAGAIN` a pause. -/
def ReadResult.arrival : ReadResult → Arrival
  | .data bytes => .units bytes.length
  | _ => .pause

/-- The length of each frame on the wire. -/
def wireSizes (frames : List DaemonIpcFrame) : List Nat :=
  frames.map fun frame => (encodeDaemonIpcFrame frame).length

/-- The frames that are still in the buffer when the end of file is read. -/
def unreadAtEnd (fd : List ReadResult) (frames : List DaemonIpcFrame) (buffer : Bytes) : Nat :=
  (leftover (fd.map ReadResult.arrival) (wireSizes frames) buffer.length).length

/-! ## One call -/

/-- A piece of data only moves from the descriptor into the buffer. -/
theorem tryReadDaemonIpcFrame_data {bytes : Bytes} (nonempty : 0 < bytes.length)
    (fd : List ReadResult) (buffer : Bytes) :
    tryReadDaemonIpcFrame (.data bytes :: fd) buffer =
      tryReadDaemonIpcFrame fd (buffer ++ bytes) := by
  have notEmpty : bytes.isEmpty = false := by
    cases bytes with
    | nil => simp at nonempty
    | cons => rfl
  simp only [tryReadDaemonIpcFrame, readAvailable, notEmpty, Bool.false_eq_true, if_false]

/-- Bytes on the descriptor are taken into the buffer. -/
theorem tryReadCalls_data {bytes : Bytes} (nonempty : 0 < bytes.length) (n : Nat)
    (fd : List ReadResult) (buffer : Bytes) :
    tryReadCalls n (.data bytes :: fd) buffer = tryReadCalls n fd (buffer ++ bytes) := by
  cases n with
  | zero => rfl
  | succ n => simp only [tryReadCalls, tryReadDaemonIpcFrame_data nonempty]

/-- On a descriptor without bytes only the buffer is looked at. -/
theorem tryReadDaemonIpcFrame_wouldBlock (fd : List ReadResult) (buffer : Bytes) :
    tryReadDaemonIpcFrame (.wouldBlock :: fd) buffer =
      ((takeBufferedFrame buffer).1, fd, (takeBufferedFrame buffer).2) := rfl

/-- The buffer holds part of the next frame, or nothing. -/
theorem takeBufferedFrame_short (frame : DaemonIpcFrame) (buffer rest tail : Bytes)
    (fits : Fits frame) (cut : buffer ++ rest = encodeDaemonIpcFrame frame ++ tail)
    (short : buffer.length < (encodeDaemonIpcFrame frame).length) :
    takeBufferedFrame buffer = ({ status := .Incomplete }, buffer) := by
  have length := completeFrameLength_of_cut frame buffer rest tail fits cut
  rw [if_pos short] at length
  simp only [takeBufferedFrame, length]

/-- The buffer holds the next frame: it is taken, and exactly its bytes leave. -/
theorem takeBufferedFrame_whole (frame : DaemonIpcFrame) (more : Bytes) (fits : Fits frame) :
    takeBufferedFrame (encodeDaemonIpcFrame frame ++ more) =
      ({ status := .FrameReady, frame := some frame }, more) := by
  have length := completeFrameLength_of_cut frame (encodeDaemonIpcFrame frame ++ more) [] more
    fits (List.append_nil _)
  have long : ¬ (encodeDaemonIpcFrame frame ++ more).length <
      (encodeDaemonIpcFrame frame).length := by
    rw [List.length_append]
    omega
  have positive : (encodeDaemonIpcFrame frame).length ≠ 0 := by
    rw [length_encodeDaemonIpcFrame]
    omega
  have decoded : decodeDaemonIpcFrame (encodeDaemonIpcFrame frame) = some frame := by
    simpa using decodeDaemonIpcFrame_encode frame [] fits
  rw [if_neg long] at length
  simp only [takeBufferedFrame, length, if_neg positive, List.take_left' rfl,
    List.drop_left' rfl, decoded]

/-! ## Repeated calls -/

/-- At the end of file every further call gives the same answer. -/
theorem tryReadCalls_atEnd (n : Nat) (buffer : Bytes) :
    tryReadCalls n [] buffer = List.replicate n
      { status := if buffer.isEmpty then .ConnectionClosed else .ProtocolError } := by
  induction n with
  | zero => rfl
  | succ n inductionHypothesis =>
      have call : tryReadDaemonIpcFrame [] buffer =
          ({ status := if buffer.isEmpty then .ConnectionClosed else .ProtocolError }, [], buffer) :=
        rfl
      simp only [tryReadCalls, call, inductionHypothesis, List.replicate_succ]

/-- The calls on `fd` and `buffer` hand out the frames `handed`, in order, and then
report for ever a clean close when `unread` is zero and a protocol error otherwise. -/
def Outcome (fd : List ReadResult) (buffer : Bytes) (handed : List DaemonIpcFrame)
    (unread : Nat) : Prop :=
  ∃ earlier : List DaemonIpcTryReadResult,
    (∀ n, tryReadCalls (earlier.length + n) fd buffer = earlier ++ List.replicate n
      { status := if unread = 0 then .ConnectionClosed else .ProtocolError }) ∧
    (∀ result ∈ earlier, result.status = .Incomplete ∨ result.status = .FrameReady) ∧
    earlier.filterMap (·.frame) = handed

/-- One call that neither closes nor fails comes before the outcome of the rest. -/
theorem Outcome.call {fd later : List ReadResult} {buffer after : Bytes}
    {result : DaemonIpcTryReadResult} {handed : List DaemonIpcFrame} {unread : Nat}
    (outcome : Outcome later after handed unread)
    (call : tryReadDaemonIpcFrame fd buffer = (result, later, after))
    (progress : result.status = .Incomplete ∨ result.status = .FrameReady) :
    Outcome fd buffer (result.frame.toList ++ handed) unread := by
  obtain ⟨earlier, calls, earlierProgress, taken⟩ := outcome
  refine ⟨result :: earlier, fun n => ?_, ?_, ?_⟩
  · simp only [List.length_cons, Nat.add_right_comm _ 1 n, tryReadCalls, call, calls,
      List.cons_append]
  · intro other member
    rcases List.mem_cons.mp member with rfl | member
    · exact progress
    · exact earlierProgress other member
  · cases present : result.frame with
    | none => simp [present, taken]
    | some frame => simp [present, taken]

/-- A piece of data changes nothing but the place where the bytes are. -/
theorem Outcome.data {fd : List ReadResult} {buffer bytes : Bytes}
    {handed : List DaemonIpcFrame} {unread : Nat} (nonempty : 0 < bytes.length)
    (outcome : Outcome fd (buffer ++ bytes) handed unread) :
    Outcome (.data bytes :: fd) buffer handed unread := by
  obtain ⟨earlier, calls, progress, taken⟩ := outcome
  refine ⟨earlier, fun n => ?_, progress, taken⟩
  rw [tryReadCalls_data nonempty, calls]

/-- At the end of file the buffer holds the frames that were not taken. -/
theorem Outcome.endOfFile (frames : List DaemonIpcFrame) :
    Outcome [] (frames.flatMap encodeDaemonIpcFrame) [] frames.length := by
  refine ⟨[], fun n => ?_, by simp, rfl⟩
  have empty : (frames.flatMap encodeDaemonIpcFrame).isEmpty = true ↔ frames.length = 0 := by
    cases frames with
    | nil => simp
    | cons frame rest => simp [encodeDaemonIpcFrame_ne_nil]
  simp only [List.length_nil, Nat.zero_add, List.nil_append, tryReadCalls_atEnd, empty]

/-- No more frames are unread than there are. -/
theorem unreadAtEnd_le (fd : List ReadResult) (frames : List DaemonIpcFrame) (buffer : Bytes) :
    unreadAtEnd fd frames buffer ≤ frames.length := by
  have bound := length_leftover_le (fd.map ReadResult.arrival) (wireSizes frames) buffer.length
  simpa [unreadAtEnd, wireSizes] using bound

/-- Bytes that arrive are in the buffer. -/
theorem unreadAtEnd_data (bytes : Bytes) (fd : List ReadResult) (frames : List DaemonIpcFrame)
    (buffer : Bytes) :
    unreadAtEnd (.data bytes :: fd) frames buffer = unreadAtEnd fd frames (buffer ++ bytes) := by
  simp [unreadAtEnd, ReadResult.arrival, leftover]

/-- A call on an incomplete frame leaves it unread. -/
theorem unreadAtEnd_wouldBlock_short {frame : DaemonIpcFrame} {buffer : Bytes}
    (short : buffer.length < (encodeDaemonIpcFrame frame).length) (fd : List ReadResult)
    (frames : List DaemonIpcFrame) :
    unreadAtEnd (.wouldBlock :: fd) (frame :: frames) buffer =
      unreadAtEnd fd (frame :: frames) buffer := by
  simp only [unreadAtEnd, List.map_cons, ReadResult.arrival, wireSizes, leftover,
    if_neg (Nat.not_le.mpr short)]

/-- A call on a complete frame reads it. -/
theorem unreadAtEnd_wouldBlock_whole (fd : List ReadResult) (frame : DaemonIpcFrame)
    (frames : List DaemonIpcFrame) (more : Bytes) :
    unreadAtEnd (.wouldBlock :: fd) (frame :: frames) (encodeDaemonIpcFrame frame ++ more) =
      unreadAtEnd fd frames more := by
  simp only [unreadAtEnd, List.map_cons, ReadResult.arrival, wireSizes, leftover,
    List.length_append, if_pos (Nat.le_add_right _ _), Nat.add_sub_cancel_left]

/-- A buffer that is at least as long as the first frame starts with it. -/
theorem starts_with_frame {frame : DaemonIpcFrame} {buffer rest tail : Bytes}
    (cut : buffer ++ rest = encodeDaemonIpcFrame frame ++ tail)
    (long : (encodeDaemonIpcFrame frame).length ≤ buffer.length) :
    ∃ more, buffer = encodeDaemonIpcFrame frame ++ more ∧ more ++ rest = tail := by
  have headed : encodeDaemonIpcFrame frame <+: buffer ++ rest := by
    rw [cut]
    exact List.prefix_append _ _
  obtain ⟨more, rfl⟩ := List.prefix_of_prefix_length_le headed (List.prefix_append buffer _) long
  exact ⟨more, rfl, by simpa using cut⟩

/-- The calls up to the end of file hand out the frames that are not left over, in
order; from then on every call reports a clean close if nothing is left over and a
protocol error otherwise. -/
theorem tryReadCalls_outcome {fd : List ReadResult} {frames : List DaemonIpcFrame} {buffer : Bytes}
    (ordinary : ∀ result ∈ fd, result.Ordinary) (fits : ∀ frame ∈ frames, Fits frame)
    (cut : buffer ++ received fd = frames.flatMap encodeDaemonIpcFrame) :
    Outcome fd buffer (frames.take (frames.length - unreadAtEnd fd frames buffer))
      (unreadAtEnd fd frames buffer) := by
  induction fd generalizing frames buffer with
  | nil =>
      have whole : buffer = frames.flatMap encodeDaemonIpcFrame := by simpa [received] using cut
      have unread : unreadAtEnd [] frames buffer = frames.length := by
        simp [unreadAtEnd, leftover, wireSizes]
      rw [unread, Nat.sub_self, List.take_zero, whole]
      exact .endOfFile frames
  | cons result fd inductionHypothesis =>
      have ordinaryTail : ∀ other ∈ fd, other.Ordinary := fun other member =>
        ordinary other (List.mem_cons_of_mem _ member)
      cases result with
      | failed => exact (ordinary .failed List.mem_cons_self).elim
      | data bytes =>
          have shifted : (buffer ++ bytes) ++ received fd =
              frames.flatMap encodeDaemonIpcFrame := by
            simpa [received] using cut
          rw [unreadAtEnd_data]
          exact .data (ordinary _ List.mem_cons_self).1
            (inductionHypothesis ordinaryTail fits shifted)
      | wouldBlock =>
          have rest : buffer ++ received fd = frames.flatMap encodeDaemonIpcFrame := by
            simpa [received] using cut
          -- The call takes at most one frame; what follows is the same stream from there.
          cases frames with
          | nil =>
              have nothing : buffer = [] := (List.append_eq_nil_iff.mp rest).1
              subst nothing
              have call : tryReadDaemonIpcFrame (.wouldBlock :: fd) [] =
                  ({ status := .Incomplete }, fd, []) := rfl
              exact (inductionHypothesis ordinaryTail fits rest).call call (.inl rfl)
          | cons frame frames =>
              have fitsHead := fits frame List.mem_cons_self
              have fitsTail : ∀ other ∈ frames, Fits other := fun other member =>
                fits other (List.mem_cons_of_mem _ member)
              by_cases short : buffer.length < (encodeDaemonIpcFrame frame).length
              · have call := takeBufferedFrame_short frame buffer (received fd)
                  (frames.flatMap encodeDaemonIpcFrame) fitsHead rest short
                rw [unreadAtEnd_wouldBlock_short short]
                exact (inductionHypothesis ordinaryTail fits rest).call
                  (by rw [tryReadDaemonIpcFrame_wouldBlock, call]) (.inl rfl)
              · obtain ⟨more, rfl, later⟩ := starts_with_frame rest (Nat.le_of_not_lt short)
                have call := takeBufferedFrame_whole frame more fitsHead
                rw [unreadAtEnd_wouldBlock_whole, List.length_cons,
                  Nat.succ_sub (unreadAtEnd_le fd frames more), List.take_succ_cons]
                exact (inductionHypothesis ordinaryTail fitsTail later).call
                  (by rw [tryReadDaemonIpcFrame_wouldBlock, call]) (.inr rfl)

/-! ## What the reader delivers -/

/-- Repeated calls hand out exactly `frames`, in order, before the first report of a
closed connection, and none of them reports a protocol error. -/
def DeliversExactly (fd : List ReadResult) (frames : List DaemonIpcFrame) : Prop :=
  (∀ n, ∀ result ∈ tryReadCalls n fd [], result.status ≠ .ProtocolError) ∧
  ∃ (n : Nat) (earlier : List DaemonIpcTryReadResult),
    tryReadCalls n fd [] = earlier ++ [{ status := .ConnectionClosed }] ∧
    (∀ result ∈ earlier, result.status ≠ .ConnectionClosed) ∧
    earlier.filterMap (·.frame) = frames

/-- The number of `EAGAIN` results that come once `needed` bytes have been read. -/
def wouldBlocksAfter (needed : Nat) (fd : List ReadResult) : Nat :=
  pausesAfter needed (fd.map ReadResult.arrival)

/-- After the last byte of every frame the socket reports `EAGAIN` once for that
frame and once more for each frame behind it, before it reports the end of file. -/
def PausesBeforeClose (fd : List ReadResult) (frames : List DaemonIpcFrame) : Prop :=
  ∀ j, j < frames.length →
    frames.length - j ≤
      wouldBlocksAfter ((frames.take (j + 1)).flatMap encodeDaemonIpcFrame).length fd

instance (fd : List ReadResult) (frames : List DaemonIpcFrame) :
    Decidable (PausesBeforeClose fd frames) :=
  inferInstanceAs (Decidable (∀ j, j < frames.length → _))

/-- The pauses are those that leave no frame unread. -/
theorem pausesBeforeClose_iff (fd : List ReadResult) (frames : List DaemonIpcFrame) :
    PausesBeforeClose fd frames ↔ unreadAtEnd fd frames [] = 0 := by
  have sizes (j : Nat) : ((frames.take j).flatMap encodeDaemonIpcFrame).length =
      ((wireSizes frames).take j).sum := by
    rw [List.length_flatMap, wireSizes, List.map_take]
  rw [unreadAtEnd, List.length_eq_zero_iff, leftover_eq_nil_iff]
  simp only [PausesBeforeClose, Served, wouldBlocksAfter, sizes, wireSizes, List.length_map,
    List.length_nil, Nat.sub_zero]

/-- The first `n` results are a part of the first `n + m`. -/
theorem tryReadCalls_extend (n m : Nat) (fd : List ReadResult) (buffer : Bytes) :
    tryReadCalls n fd buffer <+: tryReadCalls (n + m) fd buffer := by
  induction n generalizing fd buffer with
  | zero => exact List.nil_prefix
  | succ n inductionHypothesis =>
      rw [Nat.add_right_comm]
      simp only [tryReadCalls, List.cons_prefix_cons, true_and]
      exact inductionHypothesis _ _

/-- A stream of frames, followed by the close of the connection, is delivered frame
by frame exactly when the socket pauses often enough before the close. -/
theorem tryReadDaemonIpcFrame_delivers_iff (fd : List ReadResult) (frames : List DaemonIpcFrame)
    (fits : ∀ frame ∈ frames, Fits frame)
    (cut : IsCutOf fd (frames.flatMap encodeDaemonIpcFrame)) :
    DeliversExactly fd frames ↔ PausesBeforeClose fd frames := by
  obtain ⟨ordinary, stream⟩ := cut
  have fromStart : [] ++ received fd = frames.flatMap encodeDaemonIpcFrame := stream
  obtain ⟨earlier, calls, progress, taken⟩ := tryReadCalls_outcome ordinary fits fromStart
  rw [pausesBeforeClose_iff]
  constructor
  · rintro ⟨noError, -⟩
    -- Otherwise the first call at the end of file reports a protocol error.
    by_cases unread : unreadAtEnd fd frames [] = 0
    · exact unread
    · have error := noError (earlier.length + 1) { status := .ProtocolError }
      rw [calls, if_neg unread] at error
      exact (error (by simp) rfl).elim
  · intro allRead
    simp only [allRead, Nat.sub_zero, List.take_length, if_true] at calls taken
    refine ⟨fun n result member => ?_, earlier.length + 1, earlier, calls 1, ?_, taken⟩
    · have later := (tryReadCalls_extend n earlier.length fd []).subset member
      rw [Nat.add_comm, calls, List.mem_append, List.mem_replicate] at later
      rcases later with soon | ⟨-, rfl⟩
      · rcases progress result soon with status | status <;> simp [status]
      · simp
    · intro result member
      rcases progress result member with status | status <;> simp [status]

/-- A `Ping`, an `EAGAIN`, half of the next `Ping`, another `EAGAIN`, its other half
and a last `EAGAIN` before the close: both frames are delivered. -/
theorem delivers_two_pings :
    DeliversExactly
      [.data (encodeDaemonIpcFrame {}), .wouldBlock,
        .data ((encodeDaemonIpcFrame {}).take 5), .wouldBlock,
        .data ((encodeDaemonIpcFrame {}).drop 5), .wouldBlock] [{}, {}] :=
  (tryReadDaemonIpcFrame_delivers_iff _ _ (by decide) (by decide)).mpr (by decide)

/-- One `Ping` that arrives together with the close of the connection is reported as
a protocol error: the end of file is answered before the buffer is looked at. -/
theorem not_delivers_ping_with_close :
    ¬ ∀ fd frames, (∀ frame ∈ frames, Fits frame) →
        IsCutOf fd (frames.flatMap encodeDaemonIpcFrame) → DeliversExactly fd frames := by
  intro delivers
  have cut : IsCutOf [.data (encodeDaemonIpcFrame {})]
      ([{}].flatMap encodeDaemonIpcFrame) := by decide
  obtain ⟨noError, -⟩ := delivers _ _ (by decide) cut
  have call : tryReadCalls 1 [.data (encodeDaemonIpcFrame {})] [] =
      [{ status := .ProtocolError }] := by decide
  exact noError 1 { status := .ProtocolError } (by rw [call]; simp) rfl

end Gemini.Daemon
