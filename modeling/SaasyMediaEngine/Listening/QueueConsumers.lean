import SaasyMediaEngine.Listening.Provenance

/-!
# Who takes frames off the queue of the sink

`audio_queue_` is a single-producer single-consumer queue, and two threads take frames off it:
the forwarding thread of the media stream in `GetNextFrame`, and `Session::Cleanup` in
`AudioTrackSink::Stop`, which discards what is left.  `queueUse` is `mediaPath` with a `pop` that
begins and ends, and a `Cleanup` that goes on only once the queue is drained.

`Cleanup` stops the sink before it stops the streams, so nothing keeps the two apart.  They are
apart as long as `Stop` finds the sink running only after the last `pop` of the forwarding
thread (`PastLastPop`), and any other `Stop` lets them in together.

`pop` takes two steps for either thread, and `inPop` lists the threads that are between the two.
Where the forwarding thread goes next depends on where it is and, outside of `GetNextFrame`, on
`running_`, which nothing sets again once it is cleared; so `mayFetch`, that it can still get to a
`pop`, never comes back (`mayFetch_of_step`), and one test at the moment of `Stop` is enough.

That the condition cannot be weaker is proved from any state and not by one run: a thread that is
not past its last `pop` can still get there, `fetches_of_mayFetch`, while `Cleanup` stands in its
loop.
-/

namespace Saasy.ListeningEngine

open Transition Wire

/-- Where `AudioTrackSink::Stop` is, whose loop pops until the queue is empty; each `pop` begins in
one step and ends in another. -/
inductive DrainPhase where
  /-- Not in its loop. -/
  | outside
  /-- At `while (audio_queue_.pop(frame))`. -/
  | looping
  /-- In `pop`. -/
  | popping
  deriving DecidableEq

inductive QueueThread where
  | forwarder
  | cleanup
  deriving DecidableEq

structure QueueUse where
  path : MediaPath
  /-- The forwarding thread is in `pop`. -/
  fetching : Bool
  drain : DrainPhase

namespace MediaPath

/-- The forwarding thread can still call `GetNextFrame`. -/
def mayFetch (s : MediaPath) : Bool :=
  match s.forwarder with
  | .fetching => true
  | .exited => false
  | _ => s.media.running

end MediaPath

namespace QueueUse

/-- The threads that are in `audio_queue_.pop`. -/
def inPop (s : QueueUse) : List QueueThread :=
  (if s.fetching then [.forwarder] else []) ++ (if s.drain = .popping then [.cleanup] else [])

/-- The forwarding thread goes on; its `pop` takes two steps. -/
def stepForward (writeOk : Bool) (s : QueueUse) : Option QueueUse :=
  match s.path.forwarder with
  | .fetching =>
      if s.fetching then
        (s.path.stepForward writeOk).map fun path => { s with path, fetching := false }
      else some { s with fetching := true }
  | _ => (s.path.stepForward writeOk).map fun path => { s with path }

/-- `Cleanup` calls `Stop`, and that finds the sink running. -/
def StopsSink (s : QueueUse) : Prop :=
  s.path.cleaning .cleanup = some .stopSink ∧ s.path.sink.running = true

instance (s : QueueUse) : Decidable s.StopsSink :=
  inferInstanceAs (Decidable (_ ∧ _))

/-- `Cleanup` goes on, in the loop of `Stop` or behind it. -/
def stepCleanup [Double.UndefinedCast] (s : QueueUse) : Option QueueUse :=
  match s.drain with
  | .outside =>
      (s.path.stepControl .cleanup).map fun path =>
        { s with path, drain := if s.StopsSink then .looping else .outside }
  | .looping => some { s with drain := .popping }
  | .popping =>
      if s.path.sink.audioQueue = [] then some { s with drain := .outside }
      else (s.path.step .discard).map fun path => { s with path, drain := .looping }

/-- One step, if it is enabled. -/
def step [Double.UndefinedCast] (s : QueueUse) : MediaAction → Option QueueUse
  | .control .cleanup => s.stepCleanup
  | .discard => none
  | .forward writeOk => s.stepForward writeOk
  | action => (s.path.step action).map fun path => { s with path }

/-- `Stop` finds the sink running only once the forwarding thread is past its last `pop`. -/
def PastLastPop (s : QueueUse) : MediaAction → Prop
  | .control .cleanup => s.drain = .outside → s.StopsSink → s.path.mayFetch = false
  | _ => True

instance (s : QueueUse) : DecidablePred s.PastLastPop
  | .control .cleanup =>
      inferInstanceAs (Decidable (s.drain = .outside → s.StopsSink → s.path.mayFetch = false))
  | .control (.push _) | .control (.tryPop _) | .control .thread | .onData _ _ | .discard
  | .forward _ | .turnEvent _ | .vad _ _ => .isTrue trivial

end QueueUse

/-- The threads around the queue, interleaved: those of `mediaPath`, with the two calls of `pop`
taken apart. -/
def queueUse [Double.UndefinedCast] (sessionId participantId : String) :
    Machine QueueUse MediaAction where
  init := ⟨.started sessionId participantId, false, .outside⟩
  step := QueueUse.step

/-! ### The forwarding thread stops for good

The thread is past its last `pop` when it cannot get to `GetNextFrame` any more, because the stream
has stopped before its next test or it has left the loop.  Nothing starts the stream again, so it
stays past it. -/

namespace MediaPath

variable {s t : MediaPath}

/-- Nothing starts a media stream again. -/
theorem running_of_stepSend {phase : SendPhase} {writeOk : Bool} {media : MediaStream TrackByte}
    {next : Option SendPhase} (step : s.stepSend phase writeOk = some (media, next))
    (running : media.running = true) : s.media.running = true := by
  cases phase with
  | checking deviceConsumerId frame =>
      cases step
      unfold MediaStream.prepareMediaFrame at running
      split_ifs at running with stopped
      · exact running
      · exact running
      · exact running
  | locking payload =>
      obtain ⟨-, ⟨⟩⟩ := Option.ite_none_right_eq_some.mp step
      exact running
  | writing payload =>
      cases step
      unfold MediaStream.finishWrite at running
      split_ifs at running
      exact running

/-- The thread stays where it is. -/
theorem mayFetch_of_running (fetches : t.mayFetch = true)
    (running : t.media.running = true → s.media.running = true)
    (forwarder : t.forwarder = s.forwarder) : s.mayFetch = true := by
  unfold mayFetch at fetches ⊢
  rw [forwarder] at fetches
  split
  case h_1 => rfl
  case h_2 phase => simp [phase] at fetches
  case h_3 => simp_all

variable [Double.UndefinedCast] {action : MediaAction}

theorem running_of_step (step : s.step action = some t) (running : t.media.running = true) :
    s.media.running = true := by
  cases action with
  | control action =>
      obtain ⟨control, -, rfl⟩ := Option.map_eq_some_iff.mp step
      exact (Bool.and_eq_true_iff.mp running).1
  | onData track data =>
      obtain ⟨-, ⟨⟩⟩ := Option.ite_none_right_eq_some.mp step
      exact running
  | discard =>
      obtain ⟨-, ⟨⟩⟩ := Option.ite_none_left_eq_some.mp step
      exact running
  | forward writeOk =>
      change s.stepForward writeOk = some t at step
      unfold stepForward at step
      split at step
      case h_2 =>
        split at step <;>
        · cases step
          exact running
      case h_6 phase _ =>
        obtain ⟨⟨media, next⟩, sent, rfl⟩ := Option.map_eq_some_iff.mp step
        exact running_of_stepSend sent running
      all_goals
        cases step <;> exact running
  | turnEvent eventType =>
      change s.stepTurnEvent eventType = some t at step
      unfold stepTurnEvent at step
      split at step
      · split_ifs at step <;>
        · cases step
          exact running
      · cases step
  | vad writeOk nowMs =>
      change s.stepVad writeOk nowMs = some t at step
      unfold stepVad at step
      split at step
      case h_3 phase _ =>
        obtain ⟨⟨media, next⟩, sent, rfl⟩ := Option.map_eq_some_iff.mp step
        exact running_of_stepSend sent running
      all_goals
        cases step <;> exact running

/-- **A thread past its last `pop`** stays past it, whoever takes the step. (The lemma says it the
other way round.) -/
theorem mayFetch_of_step (step : s.step action = some t) (fetches : t.mayFetch = true) :
    s.mayFetch = true := by
  have running := running_of_step step
  cases step_moved step with
  | loops looping =>
      simp only [mayFetch, looping]
      by_contra stopped
      simp [mayFetch, stopped] at fetches
  | waits fetching | pops fetching _ => simp only [mayFetch, fetching]
  | appends phase =>
      simp only [mayFetch, phase]
      exact running fetches
  | testsGate phase | addresses phase =>
      simp only [mayFetch, phase]
      refine running ?_
      simp only [mayFetch] at fetches
      split_ifs at fetches <;> exact fetches
  | @forwards _ _ _ next phase _ =>
      simp only [mayFetch, phase]
      refine running ?_
      cases next <;> exact fetches
  | _ => exact mayFetch_of_running fetches running rfl

/-- Only its own steps move it. -/
theorem forwarder_of_step (step : s.step action = some t)
    (other : ∀ writeOk, action ≠ .forward writeOk) : t.forwarder = s.forwarder := by
  cases step_moved step with
  | loops | waits | pops | appends | testsGate | addresses | forwards => exact absurd rfl (other _)
  | _ => rfl

end MediaPath

/-! ### What a step can do

The machine is that of `Listening.MediaPath` with the two calls of `pop` taken apart, so most of
its steps are steps of the path, and what it reaches is a state of the path together with where the
two threads are. -/

namespace QueueUse

/-- The steps of everybody: what the path does apart from the forwarding thread and `Cleanup`, and
the ways in which these two go on. -/
inductive Moved [Double.UndefinedCast] (s : QueueUse) : MediaAction → QueueUse → Prop
  | fetches {writeOk : Bool} (fetching : s.path.forwarder = .fetching) :
      Moved s (.forward writeOk) { s with fetching := true }
  | fetched {writeOk : Bool} {path : MediaPath} (fetching : s.path.forwarder = .fetching)
      (stepped : s.path.step (.forward writeOk) = some path) :
      Moved s (.forward writeOk) { s with path, fetching := false }
  | forwards {writeOk : Bool} {path : MediaPath} (elsewhere : s.path.forwarder ≠ .fetching)
      (stepped : s.path.step (.forward writeOk) = some path) :
      Moved s (.forward writeOk) { s with path }
  | cleans {path : MediaPath} (outside : s.drain = .outside)
      (stepped : s.path.step (.control .cleanup) = some path) :
      Moved s (.control .cleanup)
        { s with path, drain := if s.StopsSink then .looping else .outside }
  | drains (looping : s.drain = .looping) :
      Moved s (.control .cleanup) { s with drain := .popping }
  | drained (popping : s.drain = .popping) :
      Moved s (.control .cleanup) { s with drain := .outside }
  | discards {path : MediaPath} (popping : s.drain = .popping)
      (stepped : s.path.step .discard = some path) :
      Moved s (.control .cleanup) { s with path, drain := .looping }
  | others {action : MediaAction} {path : MediaPath}
      (other : ∀ writeOk, action ≠ .forward writeOk)
      (stepped : s.path.step action = some path) : Moved s action { s with path }

variable {s t : QueueUse}

/-- The forwarding thread is in `pop` only where it fetches, and past its last one as soon as
`Cleanup` is in its loop. -/
structure Apart (s : QueueUse) : Prop where
  fetching : s.fetching = true → s.path.forwarder = .fetching
  drain : s.drain ≠ .outside → s.path.mayFetch = false

/-- **One at a time**: who is in the loop of `Stop` finds the other one past its last `pop`. -/
theorem Apart.length_inPop_le (apart : s.Apart) : s.inPop.length ≤ 1 := by
  by_cases both : s.fetching = true ∧ s.drain = .popping
  · have past := apart.drain (by rw [both.2]; nofun)
    rw [MediaPath.mayFetch, apart.fetching both.1] at past
    cases past
  · unfold inPop
    split_ifs <;> simp_all

variable [Double.UndefinedCast] {action : MediaAction}

theorem stepForward_moved {writeOk : Bool} (step : s.stepForward writeOk = some t) :
    s.Moved (.forward writeOk) t := by
  unfold stepForward at step
  split at step
  case h_1 fetching =>
    split_ifs at step with inside
    · obtain ⟨path, stepped, rfl⟩ := Option.map_eq_some_iff.mp step
      exact .fetched fetching stepped
    · cases step
      exact .fetches fetching
  case h_2 elsewhere =>
    obtain ⟨path, stepped, rfl⟩ := Option.map_eq_some_iff.mp step
    exact .forwards elsewhere stepped

theorem stepCleanup_moved (step : s.stepCleanup = some t) : s.Moved (.control .cleanup) t := by
  unfold stepCleanup at step
  split at step
  case h_1 outside =>
    obtain ⟨path, stepped, rfl⟩ := Option.map_eq_some_iff.mp step
    exact .cleans outside stepped
  case h_2 looping =>
    cases step
    exact .drains looping
  case h_3 popping =>
    split_ifs at step with empty
    · cases step
      exact .drained popping
    · obtain ⟨path, stepped, rfl⟩ := Option.map_eq_some_iff.mp step
      exact .discards popping stepped

theorem step_moved (step : s.step action = some t) : s.Moved action t := by
  unfold QueueUse.step at step
  split at step
  case h_1 => exact stepCleanup_moved step
  case h_2 => cases step
  case h_3 => exact stepForward_moved step
  case h_4 =>
    obtain ⟨path, stepped, rfl⟩ := Option.map_eq_some_iff.mp step
    exact .others (by rintro writeOk rfl; simp_all) stepped

/-- **It is the path of the media**, with nothing added but where the threads are. -/
theorem Moved.path (moved : s.Moved action t) :
    t.path = s.path ∨ ∃ action', s.path.step action' = some t.path := by
  cases moved with
  | fetches | drains | drained => exact .inl rfl
  | fetched _ stepped | forwards _ stepped | cleans _ stepped | discards _ stepped
  | others _ stepped => exact .inr ⟨_, stepped⟩

theorem reachable_path {sessionId participantId : String}
    (reached : (queueUse sessionId participantId).Reachable s) :
    (mediaPath sessionId participantId).Reachable s.path := by
  refine (queueUse sessionId participantId).invariant
    (motive := fun s => (mediaPath sessionId participantId).Reachable s.path) ⟨[], rfl⟩ ?_ reached
  intro s action t before step
  obtain same | ⟨action', stepped⟩ := (step_moved step).path
  · rw [same]
    exact before
  · exact before.step stepped

/-- **What a step preserves** that meets the condition.  `Stop` alone can bring `Cleanup` into the
loop, and there the condition says where the other thread is. -/
theorem Apart.moved (apart : s.Apart) (past : s.PastLastPop action) (moved : s.Moved action t) :
    t.Apart := by
  have stays {path : MediaPath} {action : MediaAction} (stepped : s.path.step action = some path)
      (before : s.path.mayFetch = false) : path.mayFetch = false :=
    Bool.eq_false_of_not_eq_true fun fetches =>
      absurd (MediaPath.mayFetch_of_step stepped fetches) (by rw [before]; nofun)
  have inside {path : MediaPath} {action : MediaAction} (stepped : s.path.step action = some path)
      (other : ∀ writeOk, action ≠ .forward writeOk) (fetching : s.fetching = true) :
      path.forwarder = .fetching :=
    (MediaPath.forwarder_of_step stepped other).trans (apart.fetching fetching)
  cases moved with
  | fetches fetching => exact ⟨fun _ => fetching, apart.drain⟩
  | fetched _ stepped => exact ⟨nofun, fun drain => stays stepped (apart.drain drain)⟩
  | forwards elsewhere stepped =>
      exact ⟨fun fetching => absurd (apart.fetching fetching) elsewhere,
        fun drain => stays stepped (apart.drain drain)⟩
  | cleans outside stepped =>
      refine ⟨inside stepped nofun, fun drain => stays stepped (past outside ?_)⟩
      by_contra keeps
      exact drain (if_neg keeps)
  | drains looping => exact ⟨apart.fetching, fun _ => apart.drain (by rw [looping]; nofun)⟩
  | drained => exact ⟨apart.fetching, nofun⟩
  | discards popping stepped =>
      exact ⟨inside stepped nofun,
        fun _ => stays stepped (apart.drain (by rw [popping]; nofun))⟩
  | others other stepped =>
      exact ⟨inside stepped other, fun drain => stays stepped (apart.drain drain)⟩

/-! ### Two at a time

The other direction, by a run for each phase of the forwarding thread.  Where it stands in
`SendMediaFrame` the write of the other thread has to end first, as they exclude each other there.
-/

variable {sessionId participantId : String}

/-- The forwarding thread can get into `pop` before `Cleanup` goes on. -/
def Fetches (sessionId participantId : String) (s : QueueUse) : Prop :=
  ∃ later t, (queueUse sessionId participantId).run s later = some t ∧ t.fetching = true ∧
    t.drain = s.drain

theorem Fetches.of_step (step : s.step action = some t) (drain : t.drain = s.drain)
    (fetches : t.Fetches sessionId participantId) : s.Fetches sessionId participantId := by
  obtain ⟨later, r, run, inside, same⟩ := fetches
  refine ⟨action :: later, r, ?_, inside, same.trans drain⟩
  exact (queueUse sessionId participantId).run_cons_eq_some.mpr ⟨t, step, run⟩

/-- At `GetNextFrame`. -/
theorem fetches_of_fetching (fetching : s.path.forwarder = .fetching) :
    s.Fetches sessionId participantId := by
  obtain inside | outside := Bool.eq_false_or_eq_true s.fetching
  · exact ⟨[], s, rfl, inside, rfl⟩
  · have step : s.step (.forward true) = some { s with fetching := true } := by
      simp [QueueUse.step, stepForward, fetching, outside]
    exact .of_step step rfl ⟨[], _, rfl, rfl, rfl⟩

/-- Another step of the forwarding thread. -/
theorem Fetches.of_stepForward {path : MediaPath} (elsewhere : s.path.forwarder ≠ .fetching)
    (stepped : s.path.stepForward true = some path)
    (fetches : ({ s with path } : QueueUse).Fetches sessionId participantId) :
    s.Fetches sessionId participantId := by
  have step : s.step (.forward true) = some { s with path } := by
    change s.stepForward true = _
    unfold stepForward
    split
    case h_1 fetching => exact absurd fetching elsewhere
    case h_2 => rw [stepped, Option.map_some]
  exact .of_step step rfl fetches

/-! Wherever the thread is, it comes back to `GetNextFrame` while the media stream is running. -/

theorem fetches_of_looping (running : s.path.media.running = true)
    (looping : s.path.forwarder = .looping) : s.Fetches sessionId participantId := by
  have stepped : s.path.stepForward true = some { s.path with forwarder := .fetching } := by
    simp [MediaPath.stepForward, looping, running]
  exact .of_stepForward (by simp [looping]) stepped (fetches_of_fetching rfl)

theorem fetches_of_writing {payload : MediaPayload TrackByte}
    (running : s.path.media.running = true)
    (writing : s.path.forwarder = .sending (.writing payload)) :
    s.Fetches sessionId participantId := by
  have stepped : s.path.stepForward true = some { s.path with
      media := s.path.media.finishWrite payload true, forwarder := .looping } := by
    simp [MediaPath.stepForward, MediaPath.stepSend, writing]
  exact .of_stepForward (by simp [writing]) stepped (fetches_of_looping running rfl)

theorem fetches_of_free {payload : MediaPayload TrackByte}
    (running : s.path.media.running = true)
    (locking : s.path.forwarder = .sending (.locking payload)) (free : s.path.inWrite = []) :
    s.Fetches sessionId participantId := by
  have stepped : s.path.stepForward true = some { s.path with
      forwarder := .sending (.writing payload) } := by
    simp [MediaPath.stepForward, MediaPath.stepSend, locking, free]
  exact .of_stepForward (by simp [locking]) stepped (fetches_of_writing running rfl)

/-- The `Write` of the other thread returns. -/
theorem fetches_of_locking {payload : MediaPayload TrackByte}
    (running : s.path.media.running = true)
    (locking : s.path.forwarder = .sending (.locking payload)) :
    s.Fetches sessionId participantId := by
  have inWrite : s.path.inWrite = s.path.vad.inWrite := by
    rw [MediaPath.inWrite, locking]
    rfl
  rcases vad : s.path.vad with _ | _ | (_ | _ | written) | _
  case sending.writing =>
    have stepped : s.step (.vad true 0) = some { s with path := { s.path with
        media := s.path.media.finishWrite written true, vad := .opening } } := by
      simp [QueueUse.step, MediaPath.step, MediaPath.stepVad, MediaPath.stepSend, vad]
    refine .of_step stepped rfl (fetches_of_free running locking ?_)
    simp [MediaPath.inWrite, locking, ForwarderPhase.inWrite, SendPhase.inWrite, VadPhase.inWrite]
  all_goals
    refine fetches_of_free running locking ?_
    rw [inWrite, vad]
    rfl

theorem fetches_of_checking {consumer : String} {frame : AudioFrame TrackByte}
    (running : s.path.media.running = true)
    (checking : s.path.forwarder = .sending (.checking consumer frame)) :
    s.Fetches sessionId participantId := by
  have elsewhere : s.path.forwarder ≠ .fetching := by
    simp [checking]
  by_cases large : kMaxFrameSize < frame.data.length
  · have stepped : s.path.stepForward true = some { s.path with
        media := { s.path.media with framesDropped := s.path.media.framesDropped + 1 }
        forwarder := .looping } := by
      simp [MediaPath.stepForward, MediaPath.stepSend, checking, MediaStream.prepareMediaFrame,
        running, large]
    exact .of_stepForward elsewhere stepped (fetches_of_looping running rfl)
  · have stepped : s.path.stepForward true = some { s.path with
        media := { s.path.media with requestCounter := s.path.media.requestCounter + 1 }
        forwarder := .sending (.locking ⟨s.path.media.requestId, s.path.media.sessionId,
          s.path.media.participantId, consumer, frame⟩) } := by
      simp [MediaPath.stepForward, MediaPath.stepSend, checking, MediaStream.prepareMediaFrame,
        running, large]
    exact .of_stepForward elsewhere stepped (fetches_of_locking running rfl)

theorem fetches_of_passed {frame : AudioFrame TrackByte} (running : s.path.media.running = true)
    (passed : s.path.forwarder = .passed frame) : s.Fetches sessionId participantId := by
  have elsewhere : s.path.forwarder ≠ .fetching := by
    simp [passed]
  by_cases consumer : s.path.firstConsumerId = ""
  · have stepped : s.path.stepForward true = some { s.path with forwarder := .looping } := by
      simp [MediaPath.stepForward, passed, consumer]
    exact .of_stepForward elsewhere stepped (fetches_of_looping running rfl)
  · have stepped : s.path.stepForward true = some { s.path with
        forwarder := .sending (.checking s.path.firstConsumerId frame) } := by
      simp [MediaPath.stepForward, passed, consumer]
    exact .of_stepForward elsewhere stepped (fetches_of_checking running rfl)

theorem fetches_of_appended {frame : AudioFrame TrackByte} (running : s.path.media.running = true)
    (appended : s.path.forwarder = .appended frame) : s.Fetches sessionId participantId := by
  have elsewhere : s.path.forwarder ≠ .fetching := by
    simp [appended]
  obtain gate | gate := Bool.eq_false_or_eq_true s.path.media.gateOpen
  · have stepped : s.path.stepForward true = some { s.path with forwarder := .passed frame } := by
      simp [MediaPath.stepForward, appended, gate]
    exact .of_stepForward elsewhere stepped (fetches_of_passed running rfl)
  · have stepped : s.path.stepForward true = some { s.path with forwarder := .looping } := by
      simp [MediaPath.stepForward, appended, gate]
    exact .of_stepForward elsewhere stepped (fetches_of_looping running rfl)

theorem fetches_of_popped {frame : AudioFrame TrackByte} (running : s.path.media.running = true)
    (popped : s.path.forwarder = .popped frame) : s.Fetches sessionId participantId := by
  have stepped : s.path.stepForward true = some { s.path with
      media := s.path.media.appendPreRoll frame.data, forwarder := .appended frame } := by
    simp [MediaPath.stepForward, popped]
  exact .of_stepForward (by simp [popped]) stepped (fetches_of_appended running rfl)

/-- **A thread that is not past its last `pop`** can still get there, wherever it is, with
`Cleanup` standing where it stands. -/
theorem fetches_of_mayFetch (mayFetch : s.path.mayFetch = true) :
    s.Fetches sessionId participantId := by
  unfold MediaPath.mayFetch at mayFetch
  rcases phase : s.path.forwarder with _ | _ | frame | frame | frame | (_ | payload | payload) | _
  all_goals rw [phase] at mayFetch
  case looping => exact fetches_of_looping mayFetch phase
  case fetching => exact fetches_of_fetching phase
  case popped => exact fetches_of_popped mayFetch phase
  case appended => exact fetches_of_appended mayFetch phase
  case passed => exact fetches_of_passed mayFetch phase
  case sending.checking => exact fetches_of_checking mayFetch phase
  case sending.locking => exact fetches_of_locking mayFetch phase
  case sending.writing => exact fetches_of_writing mayFetch phase
  case exited => cases mayFetch

/-- `Cleanup` finds the thread in `pop`. -/
theorem exists_both_of_fetches (looping : s.drain = .looping)
    (fetches : s.Fetches sessionId participantId) :
    ∃ later t, (queueUse sessionId participantId).run s later = some t ∧
      t.inPop = [.forwarder, .cleanup] := by
  obtain ⟨later, t, run, inside, same⟩ := fetches
  have drains : (queueUse sessionId participantId).step t (.control .cleanup) =
      some { t with drain := .popping } := by
    show t.stepCleanup = _
    simp only [stepCleanup, same.trans looping]
  refine ⟨later ++ [.control .cleanup], _, Machine.run_concat _ run drains, ?_⟩
  simp [inPop, inside]

/-- A `Stop` that does not meet the condition. -/
theorem exists_both_of_not_past (step : s.step action = some t) (early : ¬ s.PastLastPop action) :
    ∃ later u, (queueUse sessionId participantId).run t later = some u ∧
      u.inPop = [.forwarder, .cleanup] := by
  unfold PastLastPop at early
  split at early
  case h_2 => exact absurd trivial early
  case h_1 =>
    push Not at early
    obtain ⟨outside, stops, mayFetch⟩ := early
    change s.stepCleanup = some t at step
    simp only [stepCleanup, outside, if_pos stops] at step
    obtain ⟨path, stepped, rfl⟩ := Option.map_eq_some_iff.mp step
    refine exists_both_of_fetches rfl (fetches_of_mayFetch ?_)
    -- what stops the sink leaves the media stream alone
    obtain ⟨control, -, rfl⟩ := Option.map_eq_some_iff.mp stepped
    have kept : (s.path.media.running && !(s.path.cleaning .cleanup == some .stopStreams)) =
        s.path.media.running := by
      rw [stops.1]
      exact Bool.and_true _
    simpa only [MediaPath.mayFetch, kept] using Bool.eq_true_of_not_eq_false mayFetch

/-- **One consumer at a time**, in every run in which `Stop` finds the sink running only after
the last `pop` of the forwarding thread.  After any other `Stop` both threads can get into `pop`
at once. -/
theorem oneConsumer_of_meets (sessionId participantId : String) (actions : List MediaAction)
    (s : QueueUse)
    (reached : (queueUse sessionId participantId).run (queueUse sessionId participantId).init
      actions = some s)
    (past : (queueUse sessionId participantId).Meets PastLastPop
      (queueUse sessionId participantId).init actions) :
    s.inPop.length ≤ 1 ∧
      ∀ action t, (queueUse sessionId participantId).step s action = some t →
        ¬ s.PastLastPop action →
          ∃ later u, (queueUse sessionId participantId).run t later = some u ∧
            u.inPop = [.forwarder, .cleanup] := by
  have apart := (queueUse sessionId participantId).invariant_of_meets
    (fun _ _ _ apart past step => Apart.moved apart past (step_moved step))
    (⟨nofun, fun drain => absurd rfl drain⟩ : Apart (queueUse sessionId participantId).init)
    reached past
  exact ⟨apart.length_inPop_le, fun action t step early => exists_both_of_not_past step early⟩

omit [Double.UndefinedCast]

/-- A write fails, the forwarding thread leaves its loop, and `Cleanup` drains the queue. -/
def failedWrite : List MediaAction :=
  [MediaPath.twoConsumers,
    [.turnEvent "speech_started", .vad true 0, .onData 4 (MediaPath.oneSample 48000),
      .onData 4 (MediaPath.oneSample 48000)],
    List.replicate 8 (.forward true), [.forward false, .forward true],
    List.replicate 2 (.control .cleanup)].flatten

theorem oneConsumer_of_meets_failed :
    letI := Double.x86Cast
    ∃ s, (queueUse "s" "p").run (queueUse "s" "p").init failedWrite = some s ∧
      s.drain = .popping ∧ s.path.sink.audioQueue.length = 1 ∧ s.inPop.length ≤ 1 := by
  let := Double.x86Cast
  have final : ((queueUse "s" "p").run (queueUse "s" "p").init failedWrite).map (fun s =>
      (s.drain, s.path.sink.audioQueue.length)) = some (.popping, 1) := by
    decide +kernel
  obtain ⟨s, reached, ended⟩ := Option.map_eq_some_iff.mp final
  obtain ⟨popping, queued⟩ := Prod.mk.inj ended
  refine ⟨s, reached, popping, queued, (oneConsumer_of_meets "s" "p" _ s reached ?_).1⟩
  show ∀ t ∈ (queueUse "s" "p").transitions (queueUse "s" "p").init failedWrite,
    PastLastPop t.before t.action
  decide +kernel

/-- `Cleanup` is called while the forwarding thread is running. -/
theorem two_consumers :
    letI := Double.x86Cast
    ∃ s, (queueUse "s" "p").run (queueUse "s" "p").init [.forward true, .forward true,
        .control .cleanup, .control .cleanup] = some s ∧
      s.inPop = [.forwarder, .cleanup] ∧ ¬ s.inPop.length ≤ 1 :=
  ⟨_, rfl, rfl, by decide⟩

end QueueUse

end Saasy.ListeningEngine
