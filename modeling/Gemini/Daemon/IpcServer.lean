import Gemini.Daemon.ChannelOutput

/-!
# The IPC server's answer to one frame

`DaemonIpcServer::dispatchFrame` with every branch: the handshake, the control
requests, attaching and detaching a session, and session input. What stands behind
the handlers is a parameter, a `Host` that the handlers read and change, so the
same dispatch serves any host; the socket is the list of results its `::write`
calls are going to have.

`answerOf` says what a frame is answered with before anything is written, and
`dispatchFrame_answers` that the bytes sent are those of the answer, cut where the
socket stops taking them.
-/

namespace Gemini.Daemon

/-- Whether a session could be attached. -/
inductive AttachSessionStatus where
  | Ok
  | SessionTableFull
  | SessionNotFound
  | SessionAlreadyBound
deriving DecidableEq

/-- The answer of the daemon to an attachment. -/
structure AttachSessionResult where
  status : AttachSessionStatus := .SessionTableFull
  sessionPort : SessionId := 0
deriving DecidableEq

/-- The configuration of the server. `buildVersion` is the version string the daemon was
built with, which a payload has room for. -/
structure DaemonIpcServerConfig where
  maxSessions : Nat := 64
  buildVersion : Bytes := []
  versionFits : 8 + buildVersion.length ≤ kDaemonIpcMaxPayloadSize := by decide

/-- The handlers of the server. Each may be missing, as an empty `std::function` is. -/
structure DaemonIpcHandlers (Host Channel : Type) where
  reserveSession : Option (Host → Option SessionId × Host) := none
  attachSession : Option (Host → SessionId → Channel → AttachSessionResult × Host) := none
  detachSession : Option (Host → SessionId → Host) := none
  requestShutdown : Option (Host → Host) := none

/-- What the server itself does to a channel: make one, close it (after clearing its
scheduling) and push input into it. -/
structure ChannelOps (Host Channel : Type) where
  make : Host → Channel × Host
  close : Host → Channel → Host
  pushInput : Host → Channel → Bytes → Host

/-- A `Connection`, less its descriptor and its read buffer. -/
structure Connection (Channel : Type) where
  handshaken : Bool := false
  attachedPort : Option SessionId := none
  channel : Option Channel := none

/-- What the server does after a frame. -/
structure DispatchOutcome where
  closeConnection : Bool := false
  shutdownRequested : Bool := false
deriving DecidableEq

/-- The result of `dispatchFrame`: the connection and the host it leaves, the bytes the
descriptor has accepted, and the outcome. -/
structure Dispatched (Host Channel : Type) where
  connection : Connection Channel
  host : Host
  sent : Bytes
  outcome : DispatchOutcome := {}

/-! ## Writing a reply -/

/-- `writeExact`: offer the bytes until all are taken. A refusal gives up, and so does a
write that takes nothing. -/
def writeExact (results : List WriteResult) (sent bytes : Bytes) : Bool × Bytes :=
  if bytes.isEmpty then (true, sent)
  else
    match results with
    | .accepted (count + 1) :: results =>
        writeExact results (sent ++ bytes.take (count + 1)) (bytes.drop (count + 1))
    | _ => (false, sent)

/-- `writeDaemonIpcFrame`, with the bytes that have been sent. -/
def writeDaemonIpcFrame (results : List WriteResult) (sent : Bytes) (frame : DaemonIpcFrame) :
    Bool × Bytes :=
  writeExact results sent (encodeDaemonIpcFrame frame)

/-- The frame of an error. -/
def errorFrame (code : DaemonIpcErrorCode) (message : String) : DaemonIpcFrame where
  type := .Error
  payload := encodeErrorPayload { code := code, message := text message }

/-- The frame of an error is sent. -/
def sendError (results : List WriteResult) (sent : Bytes) (code : DaemonIpcErrorCode)
    (message : String) : Bool × Bytes :=
  writeDaemonIpcFrame results sent (errorFrame code message)

/-- The number of bytes the socket takes from `writeExact` before it refuses. -/
def room : List WriteResult → Nat
  | .accepted (count + 1) :: results => count + 1 + room results
  | _ => 0

/-- `writeExact` sends what there is room for, and succeeds when that is all. -/
theorem writeExact_eq (results : List WriteResult) (sent bytes : Bytes) :
    writeExact results sent bytes =
      (decide (bytes.length ≤ room results), sent ++ bytes.take (room results)) := by
  induction results generalizing sent bytes with
  | nil =>
      unfold writeExact
      cases bytes <;> simp [room]
  | cons result results inductionHypothesis =>
      unfold writeExact
      by_cases empty : bytes = []
      · simp [empty]
      · have positive := List.length_pos_iff.mpr empty
        simp only [List.isEmpty_iff, empty, if_false]
        rcases result with (count | count) | _ | _
        case accepted.succ =>
          simp only [room]
          rw [inductionHypothesis, List.length_drop, List.append_assoc, ← List.take_add]
          congr 2
          exact propext Nat.sub_le_iff_le_add'
        all_goals simp [room, Nat.not_le.mpr positive]

/-! ## The branches of `dispatchFrame` -/

/-- The code of an attachment that failed. -/
def attachStatusToErrorCode : AttachSessionStatus → DaemonIpcErrorCode
  | .SessionNotFound => .SessionNotFound
  | .SessionAlreadyBound => .SessionAlreadyBound
  | .SessionTableFull => .SessionTableFull
  | .Ok => .InvalidMessage

/-- The text of an attachment that failed. -/
def attachStatusMessage : AttachSessionStatus → String
  | .SessionNotFound => "session not found"
  | .SessionAlreadyBound => "session already bound"
  | .SessionTableFull => "session table full"
  | .Ok => "attach failed"

/-- The first frame of a client of this version. -/
def handshakeFrame : DaemonIpcFrame where
  type := .Handshake
  payload := encodeHandshakePayload { clientProtocolVersion := kDaemonIpcProtocolVersion }

/-- The `HandshakeAck` of a server. -/
def handshakeAck (config : DaemonIpcServerConfig) : DaemonIpcFrame where
  type := .HandshakeAck
  payload := encodeHandshakeAckPayload {
    serverProtocolVersion := kDaemonIpcProtocolVersion
    maxSessions := UInt16.ofNat config.maxSessions
    buildVersion := config.buildVersion }

/-- The answer with the port of a new session. -/
def reserveSessionAck (port : SessionId) : DaemonIpcFrame where
  type := .ReserveSessionAck
  payload := encodeReserveSessionAckPayload { sessionPort := port }

/-- The answer with the port of the attached session. -/
def attachSessionAck (port : SessionId) : DaemonIpcFrame where
  type := .AttachSessionAck
  payload := encodeAttachSessionAckPayload { sessionPort := port }

section Dispatch

variable {Host Channel : Type} (ops : ChannelOps Host Channel)
  (handlers : DaemonIpcHandlers Host Channel)

/-- The channel of a connection is closed, and its session is detached. -/
def detachConnection (host : Host) (connection : Connection Channel) : Connection Channel × Host :=
  match connection.attachedPort with
  | none => (connection, host)
  | some port =>
      let host := match connection.channel with
        | some channel => ops.close host channel
        | none => host
      let host := match handlers.detachSession with
        | some detachSession => detachSession host port
        | none => host
      ({ connection with attachedPort := none, channel := none }, host)

/-- An error whose write result is discarded; `closing` is the outcome. -/
def refuse (results : List WriteResult) (sent : Bytes) (host : Host)
    (connection : Connection Channel) (code : DaemonIpcErrorCode) (message : String)
    (closing : Bool) : Dispatched Host Channel where
  connection := connection
  host := host
  sent := (sendError results sent code message).2
  outcome := { closeConnection := closing }

/-- A reply that closes the connection when it cannot be written. -/
def reply (results : List WriteResult) (sent : Bytes) (host : Host)
    (connection : Connection Channel) (frame : DaemonIpcFrame) : Dispatched Host Channel :=
  let (written, sent) := writeDaemonIpcFrame results sent frame
  { connection := connection, host := host, sent := sent
    outcome := { closeConnection := !written } }

/-- The first frame of a connection. -/
def dispatchHandshake (config : DaemonIpcServerConfig) (results : List WriteResult) (sent : Bytes)
    (host : Host) (connection : Connection Channel) (frame : DaemonIpcFrame) :
    Dispatched Host Channel :=
  if frame.type ≠ .Handshake then
    refuse results sent host connection .NotHandshaken "handshake required" true
  else
    match decodeHandshakePayload frame.payload with
    | none =>
        refuse results sent host connection .UnsupportedVersion
          "unsupported client protocol version" true
    | some handshake =>
        if handshake.clientProtocolVersion ≠ kDaemonIpcProtocolVersion then
          refuse results sent host connection .UnsupportedVersion
            "unsupported client protocol version" true
        else
          let (written, sent) := writeDaemonIpcFrame results sent (handshakeAck config)
          if !written then
            { connection := connection, host := host, sent := sent
              outcome := { closeConnection := true } }
          else { connection := { connection with handshaken := true }, host := host, sent := sent }

/-- The dispatch of a `ShutdownRequest`. -/
def dispatchShutdownRequest (results : List WriteResult) (sent : Bytes) (host : Host)
    (connection : Connection Channel) : Dispatched Host Channel :=
  let (written, sent) := writeDaemonIpcFrame results sent { type := .ShutdownAck }
  if !written then
    { connection := connection, host := host, sent := sent
      outcome := { closeConnection := true } }
  else
    let host := match handlers.requestShutdown with
      | some requestShutdown => requestShutdown host
      | none => host
    { connection := connection, host := host, sent := sent
      outcome := { shutdownRequested := true, closeConnection := true } }

/-- The dispatch of a `ReserveSession`. -/
def dispatchReserveSession (results : List WriteResult) (sent : Bytes) (host : Host)
    (connection : Connection Channel) : Dispatched Host Channel :=
  match handlers.reserveSession with
  | none =>
      refuse results sent host connection .InvalidMessage "reserve session unavailable" true
  | some reserveSession =>
      match reserveSession host with
      | (none, host) =>
          refuse results sent host connection .SessionTableFull "session table full" true
      | (some port, host) => reply results sent host connection (reserveSessionAck port)

/-- The dispatch of an `AttachSession`. -/
def dispatchAttachSession (results : List WriteResult) (sent : Bytes) (host : Host)
    (connection : Connection Channel) (frame : DaemonIpcFrame) : Dispatched Host Channel :=
  if connection.attachedPort.isSome then
    refuse results sent host connection .InvalidMessage "already attached" false
  else
    match decodeAttachSessionPayload frame.payload with
    | none => refuse results sent host connection .InvalidMessage "invalid attach payload" false
    | some payload =>
        match handlers.attachSession with
        | none =>
            refuse results sent host connection .InvalidMessage "session attach unavailable" false
        | some attachSession =>
            let (channel, host) := ops.make host
            let (result, host) := attachSession host payload.sessionPort channel
            if result.status ≠ .Ok then
              refuse results sent host connection (attachStatusToErrorCode result.status)
                (attachStatusMessage result.status) false
            else
              let connection :=
                { connection with channel := some channel, attachedPort := some result.sessionPort }
              let (written, sent) :=
                writeDaemonIpcFrame results sent (attachSessionAck result.sessionPort)
              if !written then
                let (connection, host) := detachConnection ops handlers host connection
                { connection := connection, host := host, sent := sent
                  outcome := { closeConnection := true } }
              else { connection := connection, host := host, sent := sent }

/-- The dispatch of a `DetachSession`. -/
def dispatchDetachSession (results : List WriteResult) (sent : Bytes) (host : Host)
    (connection : Connection Channel) : Dispatched Host Channel :=
  if connection.attachedPort.isNone then
    refuse results sent host connection .NotAttached "session not attached" false
  else
    let (connection, host) := detachConnection ops handlers host connection
    reply results sent host connection { type := .DetachSessionAck }

/-- The dispatch of a `SessionInput`. -/
def dispatchSessionInput (results : List WriteResult) (sent : Bytes) (host : Host)
    (connection : Connection Channel) (frame : DaemonIpcFrame) : Dispatched Host Channel :=
  match connection.attachedPort, connection.channel with
  | some _, some channel =>
      match decodeSessionDataPayload frame.payload with
      | none => refuse results sent host connection .InvalidMessage "invalid session input" false
      | some data =>
          { connection := connection, host := ops.pushInput host channel data, sent := sent }
  | _, _ => refuse results sent host connection .NotAttached "session not attached" false

/-- A frame only the server may send. -/
def dispatchSessionData (results : List WriteResult) (sent : Bytes) (host : Host)
    (connection : Connection Channel) : Dispatched Host Channel :=
  if connection.attachedPort.isSome then
    refuse results sent host connection .InvalidMessage "invalid message direction" false
  else refuse results sent host connection .NotAttached "session not attached" false

/-- `dispatchFrame`: the version, the handshake, and then the type decide. -/
def dispatchFrame (config : DaemonIpcServerConfig) (results : List WriteResult) (sent : Bytes)
    (host : Host) (connection : Connection Channel) (frame : DaemonIpcFrame) :
    Dispatched Host Channel :=
  if frame.version ≠ kDaemonIpcProtocolVersion then
    refuse results sent host connection .UnsupportedVersion "unsupported protocol version" true
  else if !connection.handshaken then
    dispatchHandshake config results sent host connection frame
  else if frame.type = .Ping then reply results sent host connection { type := .Pong }
  else if frame.type = .ShutdownRequest then
    dispatchShutdownRequest handlers results sent host connection
  else if frame.type = .ReserveSession then
    dispatchReserveSession handlers results sent host connection
  else if frame.type = .AttachSession then
    dispatchAttachSession ops handlers results sent host connection frame
  else if frame.type = .DetachSession then
    dispatchDetachSession ops handlers results sent host connection
  else if frame.type = .SessionInput then
    dispatchSessionInput ops results sent host connection frame
  else if frame.type = .SessionOutput ∨ frame.type = .SessionDiagnostic then
    dispatchSessionData results sent host connection
  else refuse results sent host connection .InvalidMessage "invalid message type" true

/-! ## What a frame is answered with -/

/-- The answer to a frame, decided before anything is written. -/
inductive Answer where
  /-- Nothing is written. -/
  | silent
  /-- A reply; the connection is closed when it cannot be written. -/
  | reply (frame : DaemonIpcFrame)
  /-- An error whose write result is discarded, on a connection that stays open. -/
  | refusal (frame : DaemonIpcFrame)
  /-- The last frame of a connection that is closed whatever becomes of the write. -/
  | farewell (frame : DaemonIpcFrame)

/-- The bytes of an answer. -/
def Answer.bytes : Answer → Bytes
  | .silent => []
  | .reply frame => encodeDaemonIpcFrame frame
  | .refusal frame => encodeDaemonIpcFrame frame
  | .farewell frame => encodeDaemonIpcFrame frame

/-- Whether the connection is closed, given the bytes the socket takes. -/
def Answer.closes (taken : Nat) : Answer → Bool
  | .silent => false
  | .reply frame => decide (taken < (encodeDaemonIpcFrame frame).length)
  | .refusal _ => false
  | .farewell _ => true

/-- The frame of an answer can be sent. -/
def Answer.Fits : Answer → Prop
  | .silent => True
  | .reply frame => Daemon.Fits frame
  | .refusal frame => Daemon.Fits frame
  | .farewell frame => Daemon.Fits frame

/-- The answer to the first frame. -/
def answerHandshake (config : DaemonIpcServerConfig) (frame : DaemonIpcFrame) : Answer :=
  if frame.type ≠ .Handshake then .farewell (errorFrame .NotHandshaken "handshake required")
  else
    match decodeHandshakePayload frame.payload with
    | none => .farewell (errorFrame .UnsupportedVersion "unsupported client protocol version")
    | some handshake =>
        if handshake.clientProtocolVersion ≠ kDaemonIpcProtocolVersion then
          .farewell (errorFrame .UnsupportedVersion "unsupported client protocol version")
        else .reply (handshakeAck config)

/-- The answer to a `ReserveSession`. -/
def answerReserveSession (host : Host) : Answer :=
  match handlers.reserveSession with
  | none => .farewell (errorFrame .InvalidMessage "reserve session unavailable")
  | some reserveSession =>
      match (reserveSession host).1 with
      | none => .farewell (errorFrame .SessionTableFull "session table full")
      | some port => .reply (reserveSessionAck port)

/-- The answer to an `AttachSession`. -/
def answerAttachSession (host : Host) (connection : Connection Channel) (frame : DaemonIpcFrame) :
    Answer :=
  if connection.attachedPort.isSome then .refusal (errorFrame .InvalidMessage "already attached")
  else
    match decodeAttachSessionPayload frame.payload, handlers.attachSession with
    | none, _ => .refusal (errorFrame .InvalidMessage "invalid attach payload")
    | some _, none => .refusal (errorFrame .InvalidMessage "session attach unavailable")
    | some payload, some attachSession =>
        let result := (attachSession (ops.make host).2 payload.sessionPort (ops.make host).1).1
        if result.status ≠ .Ok then
          .refusal (errorFrame (attachStatusToErrorCode result.status)
            (attachStatusMessage result.status))
        else .reply (attachSessionAck result.sessionPort)

/-- The answer to a `SessionInput`. -/
def answerSessionInput (connection : Connection Channel) (frame : DaemonIpcFrame) : Answer :=
  if connection.attachedPort.isNone ∨ connection.channel.isNone then
    .refusal (errorFrame .NotAttached "session not attached")
  else if (decodeSessionDataPayload frame.payload).isNone then
    .refusal (errorFrame .InvalidMessage "invalid session input")
  else .silent

/-- The answer to a frame on a connection. -/
def answerOf (config : DaemonIpcServerConfig) (host : Host) (connection : Connection Channel)
    (frame : DaemonIpcFrame) : Answer :=
  if frame.version ≠ kDaemonIpcProtocolVersion then
    .farewell (errorFrame .UnsupportedVersion "unsupported protocol version")
  else if !connection.handshaken then answerHandshake config frame
  else if frame.type = .Ping then .reply { type := .Pong }
  else if frame.type = .ShutdownRequest then .farewell { type := .ShutdownAck }
  else if frame.type = .ReserveSession then answerReserveSession handlers host
  else if frame.type = .AttachSession then answerAttachSession ops handlers host connection frame
  else if frame.type = .DetachSession then
    if connection.attachedPort.isNone then
      .refusal (errorFrame .NotAttached "session not attached")
    else .reply { type := .DetachSessionAck }
  else if frame.type = .SessionInput then answerSessionInput connection frame
  else if frame.type = .SessionOutput ∨ frame.type = .SessionDiagnostic then
    if connection.attachedPort.isSome then
      .refusal (errorFrame .InvalidMessage "invalid message direction")
    else .refusal (errorFrame .NotAttached "session not attached")
  else .farewell (errorFrame .InvalidMessage "invalid message type")

/-- What a dispatch may do to the session of a connection: leave it, or together with a
reply attach the channel `made` to a connection that has none, or detach. -/
inductive SessionMove (made : Channel) (before after : Connection Channel) : Answer → Prop where
  | kept {answer : Answer} (port : after.attachedPort = before.attachedPort)
      (channel : after.channel = before.channel) : SessionMove made before after answer
  | attached {frame : DaemonIpcFrame} (free : before.attachedPort = none)
      (port : after.attachedPort.isSome) (channel : after.channel = some made) :
      SessionMove made before after (.reply frame)
  | detached {frame : DaemonIpcFrame} (port : after.attachedPort = none)
      (channel : after.channel = none) : SessionMove made before after (.reply frame)

/-- A dispatch that answers with `answer`. -/
structure Answers (made : Channel) (results : List WriteResult) (sent : Bytes)
    (connection : Connection Channel) (dispatched : Dispatched Host Channel) (answer : Answer) :
    Prop where
  fits : answer.Fits
  sent : dispatched.sent = sent ++ answer.bytes.take (room results)
  closes : dispatched.outcome.closeConnection = answer.closes (room results)
  session : dispatched.outcome.closeConnection = false →
    SessionMove made connection dispatched.connection answer

variable {ops handlers} {made : Channel} {results : List WriteResult} {sent : Bytes} {host : Host}
  {connection : Connection Channel}

/-- Both branches of a test answer as they should. -/
theorem Answers.ite {condition : Prop} [Decidable condition]
    {first second : Dispatched Host Channel}
    {firstAnswer secondAnswer : Answer}
    (yes : condition → Answers made results sent connection first firstAnswer)
    (no : ¬ condition → Answers made results sent connection second secondAnswer) :
    Answers made results sent connection (if condition then first else second)
      (if condition then firstAnswer else secondAnswer) := by
  split
  · exact yes ‹_›
  · exact no ‹_›

/-- The frame of a short error fits. -/
theorem fits_errorFrame (code : DaemonIpcErrorCode) {message : String}
    (short : message.length ≤ 100) : Fits (errorFrame code message) := by
  simp only [Fits, errorFrame, encodeErrorPayload, text, List.length_append, length_writeU32,
    List.length_nil, List.length_map, String.length_toList, kDaemonIpcMaxPayloadSize]
  omega

/-- The length of a message is that of its letters. -/
theorem short_of_letters {letters : List Char} (short : letters.length ≤ 100) :
    (String.ofList letters).length ≤ 100 := by
  rwa [String.length_ofList]

theorem fits_handshakeAck (config : DaemonIpcServerConfig) : Fits (handshakeAck config) := by
  have bound := config.versionFits
  simp only [Fits, handshakeAck, encodeHandshakeAckPayload, List.length_append, length_writeU32,
    length_writeU16, List.length_nil]
  omega

theorem fits_attachSessionAck (port : SessionId) : Fits (attachSessionAck port) := by
  simp [Fits, attachSessionAck, encodeAttachSessionAckPayload, encodePortPayload,
    kDaemonIpcMaxPayloadSize]

theorem fits_reserveSessionAck (port : SessionId) : Fits (reserveSessionAck port) := by
  simp [Fits, reserveSessionAck, encodeReserveSessionAckPayload, encodePortPayload,
    kDaemonIpcMaxPayloadSize]

/-- A frame is refused, and the connection closed. -/
theorem refuse_farewell (code : DaemonIpcErrorCode) (message : String)
    (short : message.length ≤ 100) :
    Answers made results sent connection (refuse results sent host connection code message true)
      (.farewell (errorFrame code message)) where
  fits := fits_errorFrame code short
  sent := by simp [refuse, sendError, writeDaemonIpcFrame, writeExact_eq, Answer.bytes]
  closes := rfl
  session _ := .kept rfl rfl

/-- A frame is refused, and the connection goes on. -/
theorem refuse_refusal (code : DaemonIpcErrorCode) (message : String)
    (short : message.length ≤ 100) :
    Answers made results sent connection (refuse results sent host connection code message false)
      (.refusal (errorFrame code message)) where
  fits := fits_errorFrame code short
  sent := by simp [refuse, sendError, writeDaemonIpcFrame, writeExact_eq, Answer.bytes]
  closes := rfl
  session _ := .kept rfl rfl

/-- A reply is sent, and a connection that it cannot be sent to is closed. -/
theorem reply_answers {after : Connection Channel} {frame : DaemonIpcFrame} (fits : Fits frame)
    (session : SessionMove made connection after (.reply frame)) :
    Answers made results sent connection (reply results sent host after frame) (.reply frame) where
  fits := fits
  sent := by simp [reply, writeDaemonIpcFrame, writeExact_eq, Answer.bytes]
  closes := by
    simp only [reply, writeDaemonIpcFrame, writeExact_eq, Answer.closes]
    grind
  session _ := session

/-- A reply with a continuation for each result of the write. -/
theorem written_answers {frame : DaemonIpcFrame} (fits : Fits frame)
    (failed done : Bytes → Dispatched Host Channel)
    (sentFailed : ∀ sent, (failed sent).sent = sent)
    (closing : ∀ sent, (failed sent).outcome.closeConnection = true)
    (sentDone : ∀ sent, (done sent).sent = sent)
    (staysOpen : ∀ sent, (done sent).outcome.closeConnection = false)
    (session : ∀ sent, SessionMove made connection (done sent).connection (.reply frame)) :
    Answers made results sent connection
      (if !(writeDaemonIpcFrame results sent frame).1
        then failed (writeDaemonIpcFrame results sent frame).2
        else done (writeDaemonIpcFrame results sent frame).2)
      (.reply frame) := by
  simp only [writeDaemonIpcFrame, writeExact_eq, Bool.not_eq_true', decide_eq_false_iff_not]
  split
  · rename_i short
    refine ⟨fits, sentFailed _, ?_, ?_⟩
    · rw [closing, Answer.closes, eq_comm, decide_eq_true_iff]
      exact Nat.not_le.mp short
    · intro stays
      rw [closing] at stays
      cases stays
  · rename_i whole
    refine ⟨fits, sentDone _, ?_, fun _ => session _⟩
    rw [staysOpen, Answer.closes, eq_comm, decide_eq_false_iff_not, Nat.not_lt]
    exact Decidable.not_not.mp whole

/-- A handshake is answered as it should be. -/
theorem dispatchHandshake_answers (config : DaemonIpcServerConfig) (frame : DaemonIpcFrame) :
    Answers made results sent connection
      (dispatchHandshake config results sent host connection frame)
      (answerHandshake config frame) := by
  unfold dispatchHandshake answerHandshake
  split
  · exact refuse_farewell _ _ (short_of_letters (by decide))
  · cases decodeHandshakePayload frame.payload with
    | none => exact refuse_farewell _ _ (short_of_letters (by decide))
    | some handshake =>
        simp only
        split
        · exact refuse_farewell _ _ (short_of_letters (by decide))
        · exact written_answers (fits_handshakeAck config)
            (fun sent => ⟨connection, host, sent, { closeConnection := true }⟩)
            (fun sent => ⟨{ connection with handshaken := true }, host, sent, {}⟩)
            (fun _ => rfl) (fun _ => rfl) (fun _ => rfl) (fun _ => rfl) (fun _ => .kept rfl rfl)

/-- A `ShutdownRequest` is acknowledged. -/
theorem dispatchShutdownRequest_answers :
    Answers made results sent connection
      (dispatchShutdownRequest handlers results sent host connection)
      (.farewell { type := .ShutdownAck }) := by
  have fits : Fits { type := .ShutdownAck } := by decide
  simp only [dispatchShutdownRequest, writeDaemonIpcFrame, writeExact_eq]
  split
  · exact ⟨fits, rfl, rfl, nofun⟩
  · exact ⟨fits, rfl, rfl, nofun⟩

/-- A `ReserveSession` is answered as it should be. -/
theorem dispatchReserveSession_answers :
    Answers made results sent connection
      (dispatchReserveSession handlers results sent host connection)
      (answerReserveSession handlers host) := by
  unfold dispatchReserveSession answerReserveSession
  cases handlers.reserveSession with
  | none => exact refuse_farewell _ _ (short_of_letters (by decide))
  | some reserveSession =>
      simp only
      rcases reserveSession host with ⟨_ | port, host⟩
      · exact refuse_farewell _ _ (short_of_letters (by decide))
      · exact reply_answers (fits_reserveSessionAck port) (.kept rfl rfl)

/-- An `AttachSession` is answered as it should be. -/
theorem dispatchAttachSession_answers (frame : DaemonIpcFrame) :
    Answers (ops.make host).1 results sent connection
      (dispatchAttachSession ops handlers results sent host connection frame)
      (answerAttachSession ops handlers host connection frame) := by
  unfold dispatchAttachSession answerAttachSession
  split
  · exact refuse_refusal _ _ (short_of_letters (by decide))
  · rename_i free
    cases decodeAttachSessionPayload frame.payload with
    | none => exact refuse_refusal _ _ (short_of_letters (by decide))
    | some payload =>
        cases handlers.attachSession with
        | none => exact refuse_refusal _ _ (short_of_letters (by decide))
        | some attachSession =>
            obtain ⟨channel, made⟩ := ops.make host
            simp only
            obtain ⟨result, bound⟩ := attachSession made payload.sessionPort channel
            simp only
            split
            · exact refuse_refusal _ _ (by cases result.status <;> exact short_of_letters (by decide))
            · refine written_answers (fits_attachSessionAck result.sessionPort)
                (fun sent =>
                  let detached := detachConnection ops handlers bound
                    { connection with
                      channel := some channel, attachedPort := some result.sessionPort }
                  ⟨detached.1, detached.2, sent, { closeConnection := true }⟩)
                (fun sent =>
                  ⟨{ connection with
                      channel := some channel, attachedPort := some result.sessionPort },
                    bound, sent, {}⟩)
                (fun _ => rfl) (fun _ => rfl) (fun _ => rfl) (fun _ => rfl) (fun _ => ?_)
              exact .attached (by simpa using free) rfl rfl

/-- Detaching an attached connection leaves it without port and channel. -/
theorem detachConnection_attached (ops : ChannelOps Host Channel)
    (handlers : DaemonIpcHandlers Host Channel) (host : Host)
    (attached : connection.attachedPort.isSome) :
    (detachConnection ops handlers host connection).1 =
      { connection with attachedPort := none, channel := none } := by
  unfold detachConnection
  cases known : connection.attachedPort with
  | none => simp [known] at attached
  | some port => rfl

/-- A `DetachSession` is acknowledged, or refused without a session. -/
theorem dispatchDetachSession_answers :
    Answers made results sent connection
      (dispatchDetachSession ops handlers results sent host connection)
      (if connection.attachedPort.isNone then
        .refusal (errorFrame .NotAttached "session not attached")
      else .reply { type := .DetachSessionAck }) := by
  unfold dispatchDetachSession
  split
  · exact refuse_refusal _ _ (short_of_letters (by decide))
  · rename_i attached
    have detached := detachConnection_attached ops handlers host
      (Option.isSome_iff_ne_none.mpr (by simpa using attached))
    generalize detachConnection ops handlers host connection = after at detached ⊢
    obtain ⟨after, host⟩ := after
    subst detached
    exact reply_answers (by decide) (.detached rfl rfl)

/-- A `SessionInput` is answered as it should be. -/
theorem dispatchSessionInput_answers (frame : DaemonIpcFrame) :
    Answers made results sent connection
      (dispatchSessionInput ops results sent host connection frame)
      (answerSessionInput connection frame) := by
  unfold dispatchSessionInput answerSessionInput
  obtain ⟨handshaken, port, channel⟩ := connection
  cases port with
  | none => exact refuse_refusal _ _ (short_of_letters (by decide))
  | some port =>
      cases channel with
      | none => exact refuse_refusal _ _ (short_of_letters (by decide))
      | some channel =>
          simp only [Option.isNone_some, Bool.false_eq_true, or_self, if_false]
          cases decodeSessionDataPayload frame.payload with
          | none => exact refuse_refusal _ _ (short_of_letters (by decide))
          | some data => exact ⟨trivial, by simp [Answer.bytes], rfl, fun _ => .kept rfl rfl⟩

/-- Output of a session is refused when it comes from a client. -/
theorem dispatchSessionData_answers :
    Answers made results sent connection (dispatchSessionData results sent host connection)
      (if connection.attachedPort.isSome then
        .refusal (errorFrame .InvalidMessage "invalid message direction")
      else .refusal (errorFrame .NotAttached "session not attached")) := by
  refine .ite (fun _ => ?_) fun _ => ?_
  · exact refuse_refusal _ _ (short_of_letters (by decide))
  · exact refuse_refusal _ _ (short_of_letters (by decide))

/-- Every dispatch answers as `answerOf` says. -/
theorem dispatchFrame_answers (ops : ChannelOps Host Channel)
    (handlers : DaemonIpcHandlers Host Channel) (config : DaemonIpcServerConfig)
    (results : List WriteResult) (sent : Bytes) (host : Host) (connection : Connection Channel)
    (frame : DaemonIpcFrame) :
    Answers (ops.make host).1 results sent connection
      (dispatchFrame ops handlers config results sent host connection frame)
      (answerOf ops handlers config host connection frame) := by
  unfold dispatchFrame answerOf
  refine .ite (fun _ => refuse_farewell _ _ (short_of_letters (by decide))) fun _ => ?_
  refine .ite (fun _ => dispatchHandshake_answers config frame) fun _ => ?_
  refine .ite (fun _ => reply_answers (by decide) (.kept rfl rfl)) fun _ => ?_
  refine .ite (fun _ => dispatchShutdownRequest_answers) fun _ => ?_
  refine .ite (fun _ => dispatchReserveSession_answers) fun _ => ?_
  refine .ite (fun _ => dispatchAttachSession_answers frame) fun _ => ?_
  refine .ite (fun _ => dispatchDetachSession_answers) fun _ => ?_
  refine .ite (fun _ => dispatchSessionInput_answers frame) fun _ => ?_
  refine .ite (fun _ => dispatchSessionData_answers) fun _ => ?_
  exact refuse_farewell _ _ (short_of_letters (by decide))

/-! ## What a dispatch does to the host -/

/-- A new channel, attached to a session by the handler. -/
def attachConnection (ops : ChannelOps Host Channel)
    (attachSession : Host → SessionId → Channel → AttachSessionResult × Host) (host : Host)
    (connection : Connection Channel) (requestedPort : SessionId) : Connection Channel × Host :=
  let (channel, host) := ops.make host
  let (result, host) := attachSession host requestedPort channel
  ({ connection with channel := some channel, attachedPort := some result.sessionPort }, host)

/-- The status a handler gives to a request to attach. -/
def attachStatus (ops : ChannelOps Host Channel)
    (attachSession : Host → SessionId → Channel → AttachSessionResult × Host) (host : Host)
    (requestedPort : SessionId) : AttachSessionStatus :=
  (attachSession (ops.make host).2 requestedPort (ops.make host).1).1.status

/-- The calls of the handlers that a dispatch makes, with the connection it leaves and
whether it closes it. -/
inductive HostMove (ops : ChannelOps Host Channel) (handlers : DaemonIpcHandlers Host Channel)
    (results : List WriteResult) (host : Host) (connection : Connection Channel)
    (frame : DaemonIpcFrame) : Connection Channel → Host → Prop where
  | kept {after : Connection Channel} (port : after.attachedPort = connection.attachedPort)
      (channel : after.channel = connection.channel) :
      HostMove ops handlers results host connection frame after host
  | shutdown {requestShutdown : Host → Host}
      (known : handlers.requestShutdown = some requestShutdown) :
      HostMove ops handlers results host connection frame connection (requestShutdown host)
  | reserved {reserveSession : Host → Option SessionId × Host}
      (known : handlers.reserveSession = some reserveSession) :
      HostMove ops handlers results host connection frame connection (reserveSession host).2
  | input (channel : Channel) (data : Bytes) :
      HostMove ops handlers results host connection frame connection
        (ops.pushInput host channel data)
  | refused {attachSession : Host → SessionId → Channel → AttachSessionResult × Host}
      (known : handlers.attachSession = some attachSession) (requestedPort : SessionId)
      (failed : attachStatus ops attachSession host requestedPort ≠ .Ok) :
      HostMove ops handlers results host connection frame connection
        (attachConnection ops attachSession host connection requestedPort).2
  /-- The session is attached and the acknowledgement sent. -/
  | attached {attachSession : Host → SessionId → Channel → AttachSessionResult × Host}
      (known : handlers.attachSession = some attachSession)
      (admitted : frame.version = kDaemonIpcProtocolVersion ∧ connection.handshaken = true)
      (free : connection.attachedPort = none) (attaches : frame.type = .AttachSession)
      {payload : DaemonIpcPortPayload}
      (decoded : decodeAttachSessionPayload frame.payload = some payload)
      (done : attachStatus ops attachSession host payload.sessionPort = .Ok)
      (sent : 16 ≤ room results) :
      HostMove ops handlers results host connection frame
        (attachConnection ops attachSession host connection payload.sessionPort).1
        (attachConnection ops attachSession host connection payload.sessionPort).2
  /-- The session is attached, and detached again as the acknowledgement fails. -/
  | undone {attachSession : Host → SessionId → Channel → AttachSessionResult × Host}
      (known : handlers.attachSession = some attachSession) (requestedPort : SessionId)
      (free : connection.attachedPort = none)
      (done : attachStatus ops attachSession host requestedPort = .Ok) :
      HostMove ops handlers results host connection frame
        (detachConnection ops handlers
          (attachConnection ops attachSession host connection requestedPort).2
          (attachConnection ops attachSession host connection requestedPort).1).1
        (detachConnection ops handlers
          (attachConnection ops attachSession host connection requestedPort).2
          (attachConnection ops attachSession host connection requestedPort).1).2
  | detached (attached : connection.attachedPort.isSome) :
      HostMove ops handlers results host connection frame
        (detachConnection ops handlers host connection).1
        (detachConnection ops handlers host connection).2

/-- A dispatch that makes one of the moves. -/
def Moves (ops : ChannelOps Host Channel) (handlers : DaemonIpcHandlers Host Channel)
    (results : List WriteResult) (host : Host) (connection : Connection Channel)
    (frame : DaemonIpcFrame) (dispatched : Dispatched Host Channel) : Prop :=
  HostMove ops handlers results host connection frame dispatched.connection dispatched.host

/-- Both branches of a test move the connection as they should. -/
theorem Moves.ite {frame : DaemonIpcFrame} {condition : Prop} [Decidable condition]
    {first second : Dispatched Host Channel}
    (yes : condition → Moves ops handlers results host connection frame first)
    (no : ¬ condition → Moves ops handlers results host connection frame second) :
    Moves ops handlers results host connection frame (if condition then first else second) := by
  split
  · exact yes ‹_›
  · exact no ‹_›

/-- A handshake moves no binding. -/
theorem dispatchHandshake_moves (config : DaemonIpcServerConfig) (frame : DaemonIpcFrame) :
    Moves ops handlers results host connection frame
      (dispatchHandshake config results sent host connection frame) := by
  unfold dispatchHandshake
  refine .ite (fun _ => .kept rfl rfl) fun _ => ?_
  cases decodeHandshakePayload frame.payload with
  | none => exact .kept rfl rfl
  | some handshake =>
      refine .ite (fun _ => .kept rfl rfl) fun _ => ?_
      exact .ite (fun _ => .kept rfl rfl) fun _ => .kept rfl rfl

theorem dispatchShutdownRequest_moves (frame : DaemonIpcFrame) :
    Moves ops handlers results host connection frame
      (dispatchShutdownRequest handlers results sent host connection) := by
  unfold dispatchShutdownRequest
  refine .ite (fun _ => .kept rfl rfl) fun _ => ?_
  cases known : handlers.requestShutdown with
  | none => exact .kept rfl rfl
  | some requestShutdown => exact .shutdown known

/-- A new session moves no binding of a connection. -/
theorem dispatchReserveSession_moves (frame : DaemonIpcFrame) :
    Moves ops handlers results host connection frame
      (dispatchReserveSession handlers results sent host connection) := by
  unfold dispatchReserveSession
  cases known : handlers.reserveSession with
  | none => exact .kept rfl rfl
  | some reserveSession =>
      have move : HostMove ops handlers results host connection frame connection
          (reserveSession host).2 := .reserved known
      simp only
      generalize reserveSession host = outcome at move ⊢
      obtain ⟨_ | port, reserved⟩ := outcome
      · exact move
      · exact move

/-- An attachment binds the connection to a port. -/
theorem dispatchAttachSession_moves {frame : DaemonIpcFrame}
    (admitted : frame.version = kDaemonIpcProtocolVersion ∧ connection.handshaken = true)
    (attaches : frame.type = .AttachSession) :
    Moves ops handlers results host connection frame
      (dispatchAttachSession ops handlers results sent host connection frame) := by
  unfold dispatchAttachSession
  refine .ite (fun _ => .kept rfl rfl) fun notAttached => ?_
  have free : connection.attachedPort = none := by simpa using notAttached
  cases decoded : decodeAttachSessionPayload frame.payload with
  | none => exact .kept rfl rfl
  | some payload =>
      cases known : handlers.attachSession with
      | none => exact .kept rfl rfl
      | some attachSession =>
          refine .ite (fun failed => .refused known payload.sessionPort failed) fun done => ?_
          have isOk := Decidable.not_not.mp done
          simp only [writeDaemonIpcFrame, writeExact_eq]
          refine .ite (fun _ => .undone known payload.sessionPort free isOk) fun written => ?_
          refine .attached known admitted free attaches decoded isOk ?_
          simpa [attachSessionAck, encodeAttachSessionAckPayload, encodePortPayload] using written

/-- A detachment unbinds the connection. -/
theorem dispatchDetachSession_moves (frame : DaemonIpcFrame) :
    Moves ops handlers results host connection frame
      (dispatchDetachSession ops handlers results sent host connection) := by
  unfold dispatchDetachSession
  refine .ite (fun _ => .kept rfl rfl) fun attached => ?_
  exact .detached (Option.isSome_iff_ne_none.mpr (by simpa using attached))

/-- Input moves no binding. -/
theorem dispatchSessionInput_moves (frame : DaemonIpcFrame) :
    Moves ops handlers results host connection frame
      (dispatchSessionInput ops results sent host connection frame) := by
  unfold dispatchSessionInput
  split
  · split
    · exact .kept rfl rfl
    · exact .input _ _
  · exact .kept rfl rfl

/-- Every dispatch makes one of the moves. -/
theorem dispatchFrame_moves (ops : ChannelOps Host Channel)
    (handlers : DaemonIpcHandlers Host Channel) (config : DaemonIpcServerConfig)
    (results : List WriteResult) (sent : Bytes) (host : Host) (connection : Connection Channel)
    (frame : DaemonIpcFrame) :
    Moves ops handlers results host connection frame
      (dispatchFrame ops handlers config results sent host connection frame) := by
  unfold dispatchFrame
  refine .ite (fun _ => .kept rfl rfl) fun version => ?_
  refine .ite (fun _ => dispatchHandshake_moves config frame) fun handshaken => ?_
  have admitted : frame.version = kDaemonIpcProtocolVersion ∧ connection.handshaken = true :=
    ⟨Decidable.not_not.mp version, by simpa using handshaken⟩
  refine .ite (fun _ => .kept rfl rfl) fun _ => ?_
  refine .ite (fun _ => dispatchShutdownRequest_moves frame) fun _ => ?_
  refine .ite (fun _ => dispatchReserveSession_moves frame) fun _ => ?_
  refine .ite (fun attaches => dispatchAttachSession_moves admitted attaches) fun _ => ?_
  refine .ite (fun _ => dispatchDetachSession_moves frame) fun _ => ?_
  refine .ite (fun _ => dispatchSessionInput_moves frame) fun _ => ?_
  refine .ite (fun _ => ?_) fun _ => .kept rfl rfl
  exact .ite (fun _ => .kept rfl rfl) fun _ => .kept rfl rfl

end Dispatch

end Gemini.Daemon
