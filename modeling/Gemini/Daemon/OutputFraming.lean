import Gemini.Daemon.ChannelOutput
import Gemini.Semantics.Run

/-!
# Session frames on the wire

The bytes one descriptor accepts from `flushPendingOutput`, over every
interleaving of its sections with the worker's writes and every pattern of
`::write` results. `Cut.step` is the account of one section: the accepted bytes
are whole frames and at most one frame begun, as long as no output is sent while
a diagnostic frame is half sent (`Undivided`). The source does send it then, and
`output_inside_diagnostic_frame` is the run that shows it.
-/

namespace Gemini.Daemon

open Gemini.Semantics

/-- A stream with no frame in progress. -/
def PendingStream.Clear (stream : PendingStream) : Prop :=
  stream.wire = [] ∧ stream.chunkSize = 0

/-- What the sections of a call have left of the channel's own buffers: a stream that
is swapped out has no frame there, and the output is sent before the diagnostics. -/
def FlushState.StageOk (state : FlushState) : Prop :=
  match state.stage with
  | .idle => True
  | .top => True
  | .second => state.channel.output.Clear
  | .taken .output _ => state.channel.output.Clear
  | .failed .output _ => state.channel.output.Clear
  | .taken .diagnostic _ => state.channel.output.Clear ∧ state.channel.diagnostic.Clear
  | .failed .diagnostic _ => state.channel.output.Clear ∧ state.channel.diagnostic.Clear

/-- The accepted bytes are `base` and what is out of the frames in progress, of which
at most one is begun. -/
structure Cut (state : FlushState) (base : Bytes) (halves : StreamKind → Bytes) : Prop where
  sent : state.sent = base ++ (halves .output ++ halves .diagnostic)
  single : halves .output = [] ∨ halves .diagnostic = []
  streams : ∀ kind, StreamOk kind (state.inHand kind) (halves kind)
  stage : state.StageOk

/-- No output is sent while the socket holds a part of a diagnostic frame, unless the
socket takes none of it. -/
def Undivided (state : FlushState) : FlushAction → Prop
  | .send results =>
      match state.stage with
      | .taken .output stream =>
          state.channel.diagnostic.HalfSent →
            (stream.queue = [] ∧ stream.wire = []) ∨ acceptsSome results = false
      | _ => True
  | _ => True

instance (state : FlushState) : (action : FlushAction) → Decidable (Undivided state action)
  | .send results =>
      match known : state.stage with
      | .taken .output stream =>
          decidable_of_iff
            (state.channel.diagnostic.HalfSent →
              (stream.queue = [] ∧ stream.wire = []) ∨ acceptsSome results = false)
            (by simp [Undivided, known])
      | .taken .diagnostic _ => isTrue (by simp [Undivided, known])
      | .idle => isTrue (by simp [Undivided, known])
      | .top => isTrue (by simp [Undivided, known])
      | .failed _ _ => isTrue (by simp [Undivided, known])
      | .second => isTrue (by simp [Undivided, known])
  | .write _ _ => isTrue trivial
  | .call => isTrue trivial
  | .take => isTrue trivial
  | .restore => isTrue trivial

/-- What an action adds to a stream. -/
def FlushAction.written : FlushAction → StreamKind → Bytes
  | .write kind bytes, other => if other = kind then bytes else []
  | _, _ => []

/-- A section that sends nothing: the account stays, and the queues grow by what the
worker wrote. -/
structure Quiet (state next : FlushState) (action : FlushAction) : Prop where
  sent : next.sent = state.sent
  streams : ∀ kind half, StreamOk kind (state.inHand kind) half →
    StreamOk kind (next.inHand kind) half
  stage : next.StageOk
  queued : ∀ kind, next.queued kind = state.queued kind ++ action.written kind

/-- A section that sends nothing keeps the account. -/
theorem Cut.quiet {state next : FlushState} {action : FlushAction} {base : Bytes}
    {halves : StreamKind → Bytes} (cut : Cut state base halves)
    (quiet : Quiet state next action) : Cut next base halves where
  sent := by rw [quiet.sent, cut.sent]
  single := cut.single
  streams kind := quiet.streams kind _ (cut.streams kind)
  stage := quiet.stage

/-- A stream whose buffer is empty has no part of a frame out. -/
theorem StreamOk.half_eq_nil {kind : StreamKind} {stream : PendingStream} {half : Bytes}
    (ok : StreamOk kind stream half) (empty : stream.wire = []) : half = [] := by
  cases ok with
  | idle queue => rfl
  | inFrame unsent positive queued bounded frame => exact (unsent empty).elim

/-- A stream without anything in progress is in order. -/
theorem PendingStream.Clear.ok {stream : PendingStream} (clear : stream.Clear) (kind : StreamKind) :
    StreamOk kind stream [] := by
  obtain ⟨queue, wire, chunkSize⟩ := stream
  obtain ⟨rfl, rfl⟩ := clear
  exact .idle queue

/-- A write of the worker sends nothing. -/
theorem quiet_write {state : FlushState} (ok : state.StageOk) (kind : StreamKind) (bytes : Bytes) :
    Quiet state { state with channel := state.channel.write kind bytes } (.write kind bytes) := by
  obtain ⟨channel, stage, sent⟩ := state
  have appended (other : StreamKind) (half : Bytes)
      (before : StreamOk other (channel.stream other) half) :
      StreamOk other ((channel.write kind bytes).stream other) half := by
    simp only [ChannelOutput.write, ChannelOutput.stream_setStream]
    split
    · rename_i same
      subst same
      exact before.append bytes
    · exact before
  have queue (other : StreamKind) : ((channel.write kind bytes).stream other).queue =
      (channel.stream other).queue ++ (FlushAction.write kind bytes).written other := by
    simp only [ChannelOutput.write, ChannelOutput.stream_setStream, FlushAction.written]
    split
    · rename_i same
      rw [same]
    · rw [List.append_nil]
  refine ⟨rfl, fun other half before => ?_, ?_, fun other => ?_⟩
  · cases stage <;> simp only [FlushState.inHand, FlushState.swapped] at before ⊢
    case idle => exact appended other half before
    case top => exact appended other half before
    case second => exact appended other half before
    all_goals
      split
      · rename_i same
        simpa [same] using before
      · rename_i different
        simp only [different, if_false] at before
        exact appended other half before
  · cases kind <;> cases stage <;> trivial
  · cases stage <;> simp only [FlushState.queued, FlushState.swapped, queue]
    all_goals
      split
      · rw [List.append_assoc]
      · rfl

/-- Swapping a stream out hides nothing. -/
theorem quiet_take {state next : FlushState} (ok : state.StageOk)
    (taken : flushStep state .take = some next) : Quiet state next .take := by
  obtain ⟨channel, stage, sent⟩ := state
  cases stage <;> simp only [flushStep, reduceCtorEq] at taken
  case top =>
    split at taken <;> cases taken
    · refine ⟨rfl, fun kind half before => ?_, ⟨rfl, rfl⟩, fun kind => ?_⟩
      · cases kind <;> exact before
      · cases kind <;> simp [FlushState.queued, FlushState.swapped, FlushAction.written,
          ChannelOutput.stream, ChannelOutput.setStream]
    · exact ⟨rfl, fun _ _ before => before, trivial, fun _ => (List.append_nil _).symm⟩
  case second =>
    cases taken
    refine ⟨rfl, fun kind half before => ?_, ⟨ok, rfl, rfl⟩, fun kind => ?_⟩
    · cases kind <;> exact before
    · cases kind <;> simp [FlushState.queued, FlushState.swapped, FlushAction.written,
        ChannelOutput.stream, ChannelOutput.setStream]

/-- Putting a refused stream back in front of what was written meanwhile. -/
theorem quiet_restore {state next : FlushState} (taken : flushStep state .restore = some next) :
    Quiet state next .restore := by
  obtain ⟨channel, stage, sent⟩ := state
  cases stage <;> simp only [flushStep, reduceCtorEq] at taken
  case failed kind stream =>
    cases taken
    refine ⟨rfl, fun other half before => ?_, trivial, fun other => ?_⟩
    · simp only [FlushState.inHand, FlushState.swapped, ChannelOutput.stream_setStream] at before ⊢
      split
      · rename_i same
        simp only [same, if_true] at before
        rw [same]
        exact before.append _
      · rename_i different
        simpa [different] using before
    · simp only [FlushState.queued, FlushState.swapped, ChannelOutput.stream_setStream,
        FlushAction.written, List.append_nil]
      split
      · rename_i same
        rw [same]
      · rfl

/-- Every action but a sending section is quiet. -/
theorem quiet_step {state next : FlushState} {action : FlushAction} (ok : state.StageOk)
    (notSend : ∀ results, action ≠ .send results) (taken : flushStep state action = some next) :
    Quiet state next action := by
  cases action with
  | send results => exact (notSend results rfl).elim
  | write kind bytes =>
      cases taken
      exact quiet_write ok kind bytes
  | call =>
      obtain ⟨channel, stage, sent⟩ := state
      cases stage <;> simp only [flushStep, reduceCtorEq] at taken
      cases taken
      exact ⟨rfl, fun _ _ before => before, trivial, fun _ => (List.append_nil _).symm⟩
  | take => exact quiet_take ok taken
  | restore => exact quiet_restore taken

/-- The channel's own buffers of a stream that is swapped out are clear. -/
theorem FlushState.StageOk.clear {state : FlushState} {kind : StreamKind} {stream : PendingStream}
    (ok : state.StageOk) (stage : state.stage = .taken kind stream) :
    (state.channel.stream kind).Clear := by
  obtain ⟨channel, _, sent⟩ := state
  subst stage
  cases kind with
  | output => exact ok
  | diagnostic => exact ok.2

/-- After a stream is sent its buffers are clear again. -/
theorem FlushState.StageOk.afterSending {channel : ChannelOutput} {kind : StreamKind}
    {stream : PendingStream} {sent sent' : Bytes}
    (ok : FlushState.StageOk ⟨channel, .taken kind stream, sent⟩) :
    FlushState.StageOk ⟨channel, Daemon.afterSending kind, sent'⟩ := by
  cases kind with
  | output => exact ok
  | diagnostic => trivial

/-- A flush that fails leaves its stage in order. -/
theorem FlushState.StageOk.failed {channel : ChannelOutput} {kind : StreamKind}
    {stream refused : PendingStream} {sent sent' : Bytes}
    (ok : FlushState.StageOk ⟨channel, .taken kind stream, sent⟩) :
    FlushState.StageOk ⟨channel, .failed kind refused, sent'⟩ := by
  cases kind <;> exact ok

/-- Replace what is out of one stream. -/
def setHalf (halves : StreamKind → Bytes) (kind : StreamKind) (half : Bytes) : StreamKind → Bytes :=
  fun other => if other = kind then half else halves other

/-- Nothing of a stream is out before or after. -/
theorem setHalf_nil {halves : StreamKind → Bytes} {kind : StreamKind} (none : halves kind = []) :
    setHalf halves kind [] = halves := by
  funext other
  by_cases same : other = kind <;> simp [setHalf, same, none]

/-- A frame begun on the other stream keeps this one from sending. -/
theorem Cut.other_or_blocked {state : FlushState} {base : Bytes} {halves : StreamKind → Bytes}
    (cut : Cut state base halves) {kind : StreamKind} {stream : PendingStream}
    (stage : state.stage = .taken kind stream) {results : List WriteResult}
    (undivided : Undivided state (.send results))
    (sending : ¬ (stream.queue = [] ∧ stream.wire = [])) :
    (∀ other, other ≠ kind → halves other = []) ∨
      (halves kind = [] ∧ acceptsSome results = false) := by
  obtain ⟨channel, _, sent⟩ := state
  subst stage
  cases kind with
  | diagnostic =>
      -- The output was sent first, so nothing of it is in progress.
      left
      intro other different
      cases other with
      | diagnostic => exact (different rfl).elim
      | output => exact (cut.streams .output).half_eq_nil cut.stage.1.1
  | output =>
      by_cases begun : halves .diagnostic = []
      · left
        intro other different
        cases other with
        | output => exact (different rfl).elim
        | diagnostic => exact begun
      · right
        have halfSent := (cut.streams .diagnostic).halfSent_iff.mpr begun
        exact ⟨cut.single.resolve_right begun, (undivided halfSent).resolve_left sending⟩

/-- Where at most one frame is begun, the begun bytes are those of its stream. -/
theorem halves_alone {halves : StreamKind → Bytes} {kind : StreamKind}
    (alone : ∀ other, other ≠ kind → halves other = []) :
    halves .output ++ halves .diagnostic = halves kind ∧
      (halves .output = [] ∨ halves .diagnostic = []) := by
  cases kind with
  | output =>
      have none := alone .diagnostic (by decide)
      simp [none]
  | diagnostic =>
      have none := alone .output (by decide)
      simp [none]

/-- The account of the sending section, before its outcome is looked at. -/
theorem Cut.flushQueue {state : FlushState} {base : Bytes} {halves : StreamKind → Bytes}
    (cut : Cut state base halves) {kind : StreamKind} {stream : PendingStream}
    (stage : state.stage = .taken kind stream) {results : List WriteResult}
    (undivided : Undivided state (.send results))
    (sending : ¬ (stream.queue = [] ∧ stream.wire = [])) :
    ∃ datas half,
      (Daemon.flushQueue kind results state.sent stream).sent =
        (base ++ datas.flatMap (wireOf kind)) ++
          (setHalf halves kind half .output ++ setHalf halves kind half .diagnostic) ∧
      (setHalf halves kind half .output = [] ∨ setHalf halves kind half .diagnostic = []) ∧
      (Daemon.flushQueue kind results state.sent stream).Accounts kind stream.queue datas half := by
  have ok : StreamOk kind stream (halves kind) := by
    simpa [FlushState.inHand, FlushState.swapped, stage] using cut.streams kind
  rcases cut.other_or_blocked stage undivided sending with alone | ⟨none, blocked⟩
  · obtain ⟨whole, -⟩ := halves_alone alone
    have sent : state.sent = base ++ halves kind := by rw [cut.sent, whole]
    obtain ⟨datas, half, more, accounts⟩ := flushQueue_spec ok results base
    have aloneAfter : ∀ other, other ≠ kind → setHalf halves kind half other = [] := by
      intro other different
      simp only [setHalf, different, if_false]
      exact alone other different
    obtain ⟨wholeAfter, single⟩ := halves_alone aloneAfter
    rw [← sent] at more accounts
    refine ⟨datas, half, ?_, single, accounts⟩
    rw [more, wholeAfter]
    simp [setHalf]
  · -- The other stream has begun a frame, and the socket takes nothing of this one.
    rw [none] at ok
    obtain ⟨datas, half, more, accounts⟩ := flushQueue_spec ok results state.sent
    rw [List.append_nil] at more accounts
    rw [flushQueue_blocked blocked ok] at more ⊢
    obtain ⟨noFrames, noHalf⟩ := List.append_eq_nil_iff.mp (List.self_eq_append_right.mp more)
    have noDatas : datas = [] := by
      cases datas with
      | nil => rfl
      | cons data datas =>
          exact (wireOf_ne_nil kind data (List.append_eq_nil_iff.mp noFrames).1).elim
    subst noDatas noHalf
    refine ⟨[], [], ?_, ?_, accounts⟩
    · simpa [setHalf_nil none] using cut.sent
    · simpa [setHalf_nil none] using cut.single

/-- While a stream is flushed, its bytes wait in the copy that was taken. -/
@[simp] theorem queued_taken (channel : ChannelOutput) (kind other : StreamKind)
    (stream : PendingStream) (sent : Bytes) :
    FlushState.queued ⟨channel, .taken kind stream, sent⟩ other =
      if other = kind then stream.queue ++ (channel.stream other).queue
      else (channel.stream other).queue := rfl

/-- After a stream is sent, the channel has it in hand. -/
@[simp] theorem inHand_afterSending (channel : ChannelOutput) (kind other : StreamKind)
    (sent : Bytes) :
    FlushState.inHand ⟨channel, afterSending kind, sent⟩ other = channel.stream other := by
  cases kind <;> rfl

/-- And its bytes wait in the channel. -/
@[simp] theorem queued_afterSending (channel : ChannelOutput) (kind other : StreamKind)
    (sent : Bytes) :
    FlushState.queued ⟨channel, afterSending kind, sent⟩ other = (channel.stream other).queue := by
  cases kind <;> rfl

/-- The streams of a state that differs only in the stream just sent. -/
theorem Cut.streams_sent {channel : ChannelOutput} {kind : StreamKind} {stream : PendingStream}
    {sent base : Bytes} {halves : StreamKind → Bytes}
    (cut : Cut ⟨channel, .taken kind stream, sent⟩ base halves) {next : FlushState} {half : Bytes}
    (own : StreamOk kind (next.inHand kind) half)
    (rest : ∀ other, other ≠ kind → next.inHand other = channel.stream other) (other : StreamKind) :
    StreamOk other (next.inHand other) (setHalf halves kind half other) := by
  by_cases same : other = kind
  · subst same
    simpa [setHalf] using own
  · have before := cut.streams other
    simp only [FlushState.inHand, FlushState.swapped, same, if_false] at before
    simpa [setHalf, same, rest other same] using before

/-- A section that finds nothing to send leaves what is out as it is. -/
theorem Cut.send_nothing {channel : ChannelOutput} {kind : StreamKind} {stream : PendingStream}
    {sent base : Bytes} {halves : StreamKind → Bytes}
    (cut : Cut ⟨channel, .taken kind stream, sent⟩ base halves) (noWire : stream.wire = []) :
    Cut ⟨channel, afterSending kind, sent⟩ base halves := by
  have own := cut.streams kind
  simp only [FlushState.inHand, FlushState.swapped, if_true] at own
  have none := own.half_eq_nil noWire
  have clear : (channel.stream kind).Clear := cut.stage.clear rfl
  have own : StreamOk kind (FlushState.inHand ⟨channel, afterSending kind, sent⟩ kind) [] := by
    simpa using clear.ok kind
  have streams := cut.streams_sent own (by simp)
  rw [setHalf_nil none] at streams
  exact ⟨cut.sent, cut.single, streams, cut.stage.afterSending⟩

/-- One sending section extends the whole frames by those of the stream it sends. -/
theorem Cut.send {state next : FlushState} {base : Bytes} {halves : StreamKind → Bytes}
    (cut : Cut state base halves) {results : List WriteResult}
    (undivided : Undivided state (.send results))
    (taken : flushStep state (.send results) = some next) :
    ∃ kind, ∃ datas : List Bytes, ∃ halves',
      Cut next (base ++ datas.flatMap (wireOf kind)) halves' ∧
      (∀ data ∈ datas, data.length ≤ kDaemonIpcMaxSessionDataSize) ∧
      ∀ other, state.queued other =
        (if other = kind then datas.flatten else []) ++ next.queued other := by
  obtain ⟨channel, stage, sent⟩ := state
  cases stage with
  | idle => cases taken
  | top => cases taken
  | second => cases taken
  | failed kind stream => cases taken
  | taken kind stream =>
      have clear : (channel.stream kind).Clear := cut.stage.clear rfl
      simp only [flushStep] at taken
      by_cases nothing : stream.queue = [] ∧ stream.wire = []
      · simp only [nothing, List.isEmpty_nil, and_self, if_true] at taken
        cases taken
        refine ⟨kind, [], halves, by simpa using cut.send_nothing nothing.2, nofun, ?_⟩
        intro other
        simp [nothing]
      · have busy : ¬ (stream.queue.isEmpty = true ∧ stream.wire.isEmpty = true) := by
          simpa using nothing
        simp only [if_neg busy] at taken
        obtain ⟨datas, half, out, single, accounts⟩ := cut.flushQueue rfl undivided nothing
        simp only at out accounts
        generalize Daemon.flushQueue kind results sent stream = flushed at taken out accounts
        refine ⟨kind, datas, setHalf halves kind half, ?_⟩
        by_cases done : flushed.done = true
        · simp only [done, if_true] at taken
          cases taken
          obtain ⟨empty, noWire⟩ := accounts.done done
          have none : half = [] := accounts.stream.half_eq_nil noWire
          refine ⟨⟨out, single,
            cut.streams_sent (by simpa [none] using clear.ok kind) (by simp),
            cut.stage.afterSending⟩, accounts.bounded, ?_⟩
          intro other
          have queue := accounts.queue
          rw [empty, List.append_nil] at queue
          rw [queued_taken, queued_afterSending, queue]
          split <;> rfl
        · simp only [done, Bool.false_eq_true, if_false] at taken
          cases taken
          refine ⟨⟨out, single, cut.streams_sent ?_ ?_, cut.stage.failed⟩, accounts.bounded, ?_⟩
          · simpa [FlushState.inHand, FlushState.swapped] using accounts.stream
          · intro other different
            simp [FlushState.inHand, FlushState.swapped, different]
          · intro other
            simp only [FlushState.queued, FlushState.swapped]
            split
            · rw [accounts.queue, List.append_assoc]
            · rfl

/-- One action keeps the account: the whole frames grow by the frames of at most one
stream, and every byte is in a sent frame or still queued. -/
theorem Cut.step {state next : FlushState} {action : FlushAction} {base : Bytes}
    {halves : StreamKind → Bytes} (cut : Cut state base halves)
    (undivided : Undivided state action) (taken : flushStep state action = some next) :
    ∃ kind, ∃ datas : List Bytes, ∃ halves',
      Cut next (base ++ datas.flatMap (wireOf kind)) halves' ∧
      (∀ data ∈ datas, data.length ≤ kDaemonIpcMaxSessionDataSize) ∧
      ∀ other, state.queued other ++ action.written other =
        (if other = kind then datas.flatten else []) ++ next.queued other := by
  by_cases sends : ∃ results, action = .send results
  · obtain ⟨results, rfl⟩ := sends
    simpa [FlushAction.written] using cut.send undivided taken
  · have quiet := quiet_step cut.stage (fun results is => sends ⟨results, is⟩) taken
    refine ⟨.output, [], halves, by simpa using cut.quiet quiet, nofun, fun other => ?_⟩
    simp [quiet.queued other]

/-! ## Whole runs -/

/-- A channel with its descriptor, and all that was ever written to its two streams. -/
structure ChannelRun where
  flush : FlushState := {}
  written : StreamKind → Bytes := fun _ => []

/-- A step of the flush, with an account of what was written. -/
def channelStep (state : ChannelRun) (action : FlushAction) : Option ChannelRun :=
  (flushStep state.flush action).map fun next =>
    { flush := next, written := fun kind => state.written kind ++ action.written kind }

/-- A `SessionOutput` or `SessionDiagnostic` frame, with data that fits into one. -/
structure SessionFrame where
  kind : StreamKind
  data : Bytes
  bounded : data.length ≤ kDaemonIpcMaxSessionDataSize

/-- A frame of a session as it is sent. -/
def SessionFrame.wire (frame : SessionFrame) : Bytes := wireOf frame.kind frame.data

/-- The data the frames of one stream carry. -/
def dataOf (kind : StreamKind) (frames : List SessionFrame) : Bytes :=
  (frames.filter fun frame => frame.kind = kind).flatMap SessionFrame.data

/-- The accepted bytes are a first part of complete session frames, each stream's data
in them a first part of what was written to it; with no call in progress and nothing
pending, both are complete. -/
def Framed (state : ChannelRun) : Prop :=
  ∃ frames : List SessionFrame,
    state.flush.sent <+: frames.flatMap SessionFrame.wire ∧
    (∀ kind, dataOf kind frames <+: state.written kind) ∧
    (state.flush.stage = .idle → state.flush.channel.hasPendingOutput = false →
      state.flush.sent = frames.flatMap SessionFrame.wire ∧
        ∀ kind, dataOf kind frames = state.written kind)

/-- Every byte written is in a frame that is wholly out or still queued. -/
def Accounted (state : ChannelRun) : Prop :=
  ∃ (frames : List SessionFrame) (halves : StreamKind → Bytes),
    Cut state.flush (frames.flatMap SessionFrame.wire) halves ∧
      ∀ kind, state.written kind = dataOf kind frames ++ state.flush.queued kind

/-- The data of frames, part by part. -/
@[simp] theorem dataOf_append (kind : StreamKind) (first second : List SessionFrame) :
    dataOf kind (first ++ second) = dataOf kind first ++ dataOf kind second := by
  simp [dataOf]

/-- The frames that carry `datas` on one stream. -/
def framesOf (kind : StreamKind) (datas : List Bytes)
    (bounded : ∀ data ∈ datas, data.length ≤ kDaemonIpcMaxSessionDataSize) : List SessionFrame :=
  datas.pmap (SessionFrame.mk kind) bounded

/-- Data are sent as their frames. -/
theorem wire_framesOf (kind : StreamKind) (datas : List Bytes)
    (bounded : ∀ data ∈ datas, data.length ≤ kDaemonIpcMaxSessionDataSize) :
    (framesOf kind datas bounded).flatMap SessionFrame.wire = datas.flatMap (wireOf kind) := by
  induction datas with
  | nil => rfl
  | cons data datas inductionHypothesis =>
      have rest := inductionHypothesis fun other member => bounded other (.tail _ member)
      simp only [framesOf, List.pmap_cons, List.flatMap_cons, SessionFrame.wire] at rest ⊢
      rw [rest]

/-- The frames of a stream have its data, and none of the other. -/
theorem dataOf_framesOf (kind other : StreamKind) (datas : List Bytes)
    (bounded : ∀ data ∈ datas, data.length ≤ kDaemonIpcMaxSessionDataSize) :
    dataOf other (framesOf kind datas bounded) =
      if other = kind then datas.flatten else [] := by
  induction datas with
  | nil => simp [framesOf, dataOf]
  | cons data datas inductionHypothesis =>
      have rest := inductionHypothesis fun other member => bounded other (.tail _ member)
      simp only [framesOf, List.pmap_cons, dataOf] at rest ⊢
      by_cases same : other = kind
      · simp only [same, decide_true, List.filter_cons_of_pos, List.flatMap_cons, if_true,
          List.flatten_cons] at rest ⊢
        rw [rest]
      · simp only [Ne.symm same, decide_false, Bool.false_eq_true, not_false_eq_true,
          List.filter_cons_of_neg, same, if_false] at rest ⊢
        exact rest

/-- At the start there is nothing to account for. -/
theorem accounted_start : Accounted {} := by
  refine ⟨[], fun _ => [], ⟨rfl, .inl rfl, fun kind => ?_, trivial⟩, fun kind => ?_⟩
  · cases kind <;> exact .idle []
  · cases kind <;> rfl

/-- A step that divides no frame keeps the account. -/
theorem accounted_step {state next : ChannelRun} {action : FlushAction}
    (accounted : Accounted state)
    (undivided : Undivided state.flush action) (taken : channelStep state action = some next) :
    Accounted next := by
  obtain ⟨frames, halves, cut, written⟩ := accounted
  simp only [channelStep, Option.map_eq_some_iff] at taken
  obtain ⟨flush, step, rfl⟩ := taken
  obtain ⟨kind, datas, halves', cut', bounded, queued⟩ := cut.step undivided step
  refine ⟨frames ++ framesOf kind datas bounded, halves', ?_, fun other => ?_⟩
  · rw [List.flatMap_append, wire_framesOf]
    exact cut'
  · rw [dataOf_append, dataOf_framesOf, List.append_assoc, ← queued other, ← List.append_assoc,
      ← written other]

/-- The bytes of the frame in progress are still queued. -/
theorem inHand_queue_le (state : FlushState) (kind : StreamKind) :
    (state.inHand kind).queue <+: state.queued kind := by
  simp only [FlushState.inHand, FlushState.queued]
  split
  · split
    · exact List.prefix_append _ _
    · exact List.prefix_refl _
  · exact List.prefix_refl _

/-- The frame of which `half` is out. -/
theorem StreamOk.frame {kind : StreamKind} {stream : PendingStream} {half : Bytes}
    (ok : StreamOk kind stream half) (begun : half ≠ []) :
    stream.wire ≠ [] ∧ stream.chunkSize ≤ kDaemonIpcMaxSessionDataSize ∧
      half ++ stream.wire = wireOf kind (stream.queue.take stream.chunkSize) := by
  cases ok with
  | idle queue => exact (begun rfl).elim
  | inFrame unsent positive queued bounded frame => exact ⟨unsent, bounded, frame⟩

/-- Between calls, a channel with nothing pending has every buffer empty. -/
theorem drained {state : FlushState} (idle : state.stage = .idle)
    (nothing : state.channel.hasPendingOutput = false) (kind : StreamKind) :
    state.queued kind = [] ∧ (state.inHand kind).wire = [] := by
  obtain ⟨channel, stage, sent⟩ := state
  subst idle
  simp only [ChannelOutput.hasPendingOutput, Bool.or_eq_false_iff, Bool.not_eq_false',
    List.isEmpty_iff] at nothing
  obtain ⟨⟨⟨output, diagnostic⟩, outputWire⟩, diagnosticWire⟩ := nothing
  cases kind with
  | output => exact ⟨output, outputWire⟩
  | diagnostic => exact ⟨diagnostic, diagnosticWire⟩

/-- A frame is begun, or none is. -/
theorem begun_or_none (halves : StreamKind → Bytes) :
    (∃ kind, halves kind ≠ []) ∨ ∀ kind, halves kind = [] := by
  by_cases output : halves .output = []
  · by_cases diagnostic : halves .diagnostic = []
    · right
      intro kind
      cases kind with
      | output => exact output
      | diagnostic => exact diagnostic
    · exact .inl ⟨_, diagnostic⟩
  · exact .inl ⟨_, output⟩

/-- At most one stream has a frame begun. -/
theorem Cut.alone {state : FlushState} {base : Bytes} {halves : StreamKind → Bytes}
    (cut : Cut state base halves) {kind : StreamKind} (begun : halves kind ≠ []) :
    ∀ other, other ≠ kind → halves other = [] := by
  intro other different
  rcases cut.single with none | none <;> cases other <;> cases kind <;>
    first | exact none | exact (begun none).elim | exact (different rfl).elim

/-- The frame in progress completes what the socket has accepted of it. -/
theorem Cut.completed {state : FlushState} {base : Bytes} {halves : StreamKind → Bytes}
    (cut : Cut state base halves) {kind : StreamKind} (begun : halves kind ≠ []) :
    state.sent <+: base ++
      wireOf kind ((state.inHand kind).queue.take (state.inHand kind).chunkSize) := by
  rw [cut.sent, (halves_alone (cut.alone begun)).1, ← ((cut.streams kind).frame begun).2.2]
  apply (List.prefix_append_right_inj _).mpr
  exact ⟨_, rfl⟩

/-- With no frame begun the accepted bytes are the whole frames. -/
theorem Cut.whole {state : FlushState} {base : Bytes} {halves : StreamKind → Bytes}
    (cut : Cut state base halves) (none : ∀ kind, halves kind = []) : state.sent = base := by
  rw [cut.sent, none, none]
  simp

/-- With a frame begun, the output is whole frames and the start of one. -/
theorem framed_of_begun {state : ChannelRun} {frames : List SessionFrame}
    {halves : StreamKind → Bytes} (cut : Cut state.flush (frames.flatMap SessionFrame.wire) halves)
    (written : ∀ kind, state.written kind = dataOf kind frames ++ state.flush.queued kind)
    {kind : StreamKind} (begun : halves kind ≠ []) : Framed state := by
  obtain ⟨unsent, small, -⟩ := (cut.streams kind).frame begun
  have accepted := cut.completed begun
  have inQueue := inHand_queue_le state.flush kind
  have pending : state.flush.stage = .idle → state.flush.channel.hasPendingOutput ≠ false := by
    intro idle nothing
    exact unsent (drained idle nothing kind).2
  generalize state.flush.inHand kind = stream at accepted inQueue small
  have bounded : ∀ data ∈ [stream.queue.take stream.chunkSize],
      data.length ≤ kDaemonIpcMaxSessionDataSize := by
    intro data member
    rw [List.mem_singleton.mp member]
    exact Nat.le_trans (List.length_take_le _ _) small
  refine ⟨frames ++ framesOf kind _ bounded, ?_, ?_, ?_⟩
  · rw [List.flatMap_append, wire_framesOf, List.flatMap_singleton]
    exact accepted
  · intro other
    rw [dataOf_append, dataOf_framesOf, List.flatten_singleton, written other]
    apply (List.prefix_append_right_inj _).mpr
    split
    · rename_i same
      rw [same]
      exact List.IsPrefix.trans ⟨_, List.take_append_drop _ _⟩ inQueue
    · exact ⟨_, rfl⟩
  · intro idle nothing
    exact (pending idle nothing).elim

/-- What is accounted for is framed. -/
theorem framed_of_accounted {state : ChannelRun} (accounted : Accounted state) : Framed state := by
  obtain ⟨frames, halves, cut, written⟩ := accounted
  rcases begun_or_none halves with ⟨kind, begun⟩ | none
  · exact framed_of_begun cut written begun
  · have sent := cut.whole none
    refine ⟨frames, ⟨[], by rw [sent, List.append_nil]⟩, ?_, ?_⟩
    · intro kind
      exact ⟨_, (written kind).symm⟩
    · intro idle nothing
      refine ⟨sent, fun kind => ?_⟩
      rw [written kind, (drained idle nothing kind).1, List.append_nil]

/-- The condition under which a section keeps the frames of one descriptor apart. -/
def KeepsFrames (state : ChannelRun) (action : FlushAction) : Prop :=
  Undivided state.flush action

instance (state : ChannelRun) (action : FlushAction) : Decidable (KeepsFrames state action) :=
  inferInstanceAs (Decidable (Undivided state.flush action))

/-- Over every interleaving of writes and flush sections, and every pattern of `::write`
results, the descriptor has accepted a first part of complete frames that carry what was
written, as long as no output is sent while a diagnostic frame is half sent. -/
theorem flushPendingOutput_framed (actions : List FlushAction)
    (keeps : EachStep channelStep KeepsFrames {} actions) : Always channelStep Framed {} actions :=
  (always_of_invariant accounted_step accounted_start keeps).mono fun _ => framed_of_accounted

/-- A diagnostic frame cut by `EAGAIN` and finished by the next call, with output
written after it. -/
def finishedDiagnostic : List FlushAction :=
  [.write .diagnostic [0x21], .call, .take, .send [], .take,
    .send [.accepted 5, .wouldBlock], .restore,
    .call, .take, .send [], .take, .send [.accepted 12], .take, .write .output [0x68, 0x69],
    .call, .take, .send [.accepted 3, .accepted 15]]

/-- A diagnostic frame that is finished before output goes on leaves whole frames. -/
theorem finishedDiagnostic_framed :
    (run channelStep {} finishedDiagnostic).isSome ∧
      EachStep channelStep KeepsFrames {} finishedDiagnostic ∧
      Always channelStep Framed {} finishedDiagnostic :=
  ⟨by decide +kernel, by decide +kernel,
    flushPendingOutput_framed finishedDiagnostic (by decide +kernel)⟩

/-- The same cut, with output written before the next call. -/
def outputInsideDiagnostic : List FlushAction :=
  [.write .diagnostic [0x21], .call, .take, .send [], .take,
    .send [.accepted 1, .wouldBlock], .restore,
    .write .output [0x68], .call, .take, .send [.accepted 17]]

/-- Complete frames start with the first bytes of the magic number. -/
theorem take_frames (frames : List SessionFrame) (nonempty : frames ≠ []) :
    (frames.flatMap SessionFrame.wire).take 2 = [0x47, 0x45] := by
  cases frames with
  | nil => exact (nonempty rfl).elim
  | cons frame frames =>
      simp [SessionFrame.wire, wireOf, encodeDaemonIpcFrame, kDaemonIpcMagic, writeU16, writeU32]

/-- The output frame lands inside the diagnostic frame. -/
theorem output_inside_diagnostic_frame :
    ¬ ∀ actions, Always channelStep Framed {} actions := by
  intro framed
  have begins : (run channelStep {} outputInsideDiagnostic).map
      (fun final => final.flush.sent.take 2) = some [0x47, 0x47] := by decide +kernel
  obtain ⟨final, completed, begins⟩ := Option.map_eq_some_iff.mp begins
  obtain ⟨frames, ⟨rest, accepted⟩, -, -⟩ := (framed outputInsideDiagnostic).finish completed
  have long : 2 ≤ final.flush.sent.length := by
    have length := congrArg List.length begins
    simp only [List.length_take, List.length_cons, List.length_nil] at length
    omega
  have nonempty : frames ≠ [] := by
    rintro rfl
    have empty := congrArg List.length accepted
    simp only [List.length_append, List.flatMap_nil, List.length_nil] at empty
    omega
  have starts := take_frames frames nonempty
  rw [← accepted, List.take_append_of_le_length long, begins] at starts
  exact absurd starts (by decide)

end Gemini.Daemon
