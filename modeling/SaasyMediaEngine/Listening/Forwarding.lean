import Mathlib.Data.List.Infix
import Mathlib.Data.List.Nodup
import SaasyMediaEngine.Transition.Machine
import SaasyMediaEngine.Listening.MediaStream

/-!
# Two threads on one media stream

The forwarding thread pops a frame, appends it to the pre-roll ring, tests the gate
and, if it found it open, sends the frame; the VAD thread opens a turn by copying
the ring, sending the copy and opening the gate, and ends it by closing the gate.
`forwardMachine` interleaves these steps freely.  `append`, `testGate` and `send`
in a row are `forwardMediaStream`, `copy`, `sendPreRoll` and `openGate` in a row
are `onVadTurnEvent` on `speech_started` (`forwardMediaStream_eq_run`,
`onVadTurnEvent_eq_run`).

Every byte that is dequeued carries its position, so that `ForwardLaw` can say what
is wanted of the bytes written: those of one turn are a segment of the bytes
dequeued, and none is written twice.  The ring and the gate have no common lock,
and `InStep` lists the interleavings that must not happen for the law to hold.

`Tracked` cuts the bytes dequeued into three stretches: those that are settled, those that the
current turn may still send, and those of a frame that is not in the ring yet.  Whatever is written
moves the first boundary, whatever enters the ring the second one, and `law_write` is the one place
where the two halves of the law are proved: bytes that continue a turn inside the bytes dequeued
keep it a segment, and bytes behind all that were written are not written twice.

A send is one step of this machine, since it looks at neither the ring nor the gate; and only sends
that deliver are steps, because a write that fails loses bytes however the threads are ordered.
-/

namespace Saasy.ListeningEngine

open Transition

/-- A byte of captured audio and its position among the bytes dequeued, by which two bytes of one
value are told apart.  No step looks at it. -/
structure CapturedByte where
  pos : ℕ
  value : UInt8
  deriving DecidableEq

/-- Where the forwarding thread stands with its frame.  `appended` remembers how
many turns had been opened when the frame went to the ring. -/
inductive ForwardPhase
  | waiting
  | popped (frame : AudioFrame CapturedByte)
  | appended (frame : AudioFrame CapturedByte) (turnsBefore : ℕ)
  | passed (frame : AudioFrame CapturedByte)

/-- Where the VAD thread stands with its turn.  The copy of the ring is in its hand from `copied`
until it was sent. -/
inductive TurnPhase
  | closed
  | copied (preRollData : List CapturedByte)
  | flushed
  | opened

structure ForwardState where
  media : MediaStream CapturedByte
  forward : ForwardPhase
  turn : TurnPhase
  /-- The bytes dequeued so far. -/
  dequeued : List CapturedByte
  /-- The bytes written for each turn, the current one first. -/
  turns : List (List CapturedByte)

inductive ForwardAction
  | pop (data : List UInt8) (sampleRate channels : UInt32) (timestampMs : ℕ)
  | append
  | testGate
  | send (env : MediaEnv)
  | copy
  | sendPreRoll (env : MediaEnv)
  | openGate
  | userTurnComplete

/-- The bytes of a popped frame, numbered from `start`. -/
def capture (start : ℕ) (data : List UInt8) : List CapturedByte :=
  (data.zipIdx start).map fun b => ⟨b.2, b.1⟩

/-- The bytes written between two states of the media stream go to the current turn. -/
def recordTurn (before after : MediaStream CapturedByte) (turns : List (List CapturedByte)) :
    List (List CapturedByte) :=
  let bytes := (after.written.drop before.written.length).flatMap fun p => p.frame.data
  match turns with
  | [] => [bytes]
  | turn :: earlier => (turn ++ bytes) :: earlier

/-- A consumer is present and writes succeed. -/
def MediaEnv.delivers (env : MediaEnv) : Bool := env.consumerId ≠ "" && env.writeOk

/-- One atomic step of either thread.  The forwarding thread pops, appends, tests the gate and
sends; the VAD thread copies the ring, sends the copy, and opens the gate or closes it. -/
def forwardStep (s : ForwardState) : ForwardAction → Option ForwardState
  | .pop data sampleRate channels timestampMs =>
      match s.forward with
      | .waiting =>
          let bytes := capture s.dequeued.length data
          some { s with
            forward := .popped ⟨bytes, sampleRate, channels, timestampMs⟩
            dequeued := s.dequeued ++ bytes }
      | _ => none
  | .append =>
      match s.forward with
      | .popped frame =>
          some { s with
            media := s.media.appendPreRoll frame.data
            forward := .appended frame s.turns.length }
      | _ => none
  | .testGate =>
      match s.forward with
      | .appended frame _ =>
          some { s with forward := if s.media.gateOpen then .passed frame else .waiting }
      | _ => none
  | .send env =>
      match s.forward with
      | .passed frame =>
          if env.delivers then
            let media := s.media.forwardFrame env frame
            some { s with
              media := media
              forward := .waiting
              turns := recordTurn s.media media s.turns }
          else none
      | _ => none
  | .copy =>
      match s.turn with
      | .closed =>
          some { s with turn := .copied s.media.preRollBuffer.contents, turns := [] :: s.turns }
      | _ => none
  | .sendPreRoll env =>
      match s.turn with
      | .copied preRollData =>
          if env.delivers then
            let media := s.media.sendPreRoll env preRollData
            some { s with
              media := media
              turn := .flushed
              turns := recordTurn s.media media s.turns }
          else none
      | _ => none
  | .openGate =>
      match s.turn with
      | .flushed => some { s with media := { s.media with gateOpen := true }, turn := .opened }
      | _ => none
  | .userTurnComplete =>
      match s.turn with
      | .opened => some { s with media := { s.media with gateOpen := false }, turn := .closed }
      | _ => none

/-- Both threads at rest on a stream just started: no frame was popped, the gate is closed, and
nothing has been written. -/
def forwardMachine (sessionId participantId : String) :
    Machine ForwardState ForwardAction where
  init := ⟨.start sessionId participantId, .waiting, .closed, [], []⟩
  step := forwardStep

/-! ### The threads' programs

The steps of a thread, taken without anybody in between, are the body that `Listening.MediaStream`
translates from the source.  So the machine adds nothing but the interleaving. -/

section Programs

variable {sessionId participantId : String}

/-- The forwarding thread's steps, undisturbed, are its loop body. -/
theorem forwardMediaStream_eq_run (s : ForwardState) (frame : AudioFrame CapturedByte)
    (env : MediaEnv) (popped : s.forward = .popped frame) (delivers : env.delivers = true) :
    ∃ t, (forwardMachine sessionId participantId).run s
        (if s.media.gateOpen then [.append, .testGate, .send env] else [.append, .testGate]) =
          some t ∧
      t.media = s.media.forwardMediaStream env frame ∧ t.forward = .waiting := by
  cases gate : s.media.gateOpen <;>
    simp [forwardMachine, Machine.run, forwardStep, popped, gate, delivers,
      MediaStream.forwardMediaStream, MediaStream.appendPreRoll]

/-- The VAD thread's steps, undisturbed, are its callback on `speech_started`. -/
theorem onVadTurnEvent_eq_run (s : ForwardState) (env : MediaEnv) (timestampMs : ℕ)
    (closed : s.turn = .closed) (delivers : env.delivers = true) :
    ∃ t, (forwardMachine sessionId participantId).run s [.copy, .sendPreRoll env, .openGate] =
        some t ∧
      t.media = s.media.onVadTurnEvent env "speech_started" timestampMs ∧ t.turn = .opened := by
  simp [forwardMachine, Machine.run, forwardStep, closed, delivers, MediaStream.onVadTurnEvent,
    MediaStream.flushPreRollBuffer]

end Programs

/-! ### The law and the interleavings that keep it

Both are decidable, and the condition is one on the state before a step and on the step.  It speaks
of three moments: the copy of the ring, the way from the copy to the opening of the gate, and the
frames that stand between the ring and the gate then. -/

/-- **The law**, in every state: the bytes of each turn are a segment of the bytes
dequeued, and no byte is written twice. -/
structure ForwardLaw (s : ForwardState) : Prop where
  segment : ∀ turn ∈ s.turns, turn <:+: s.dequeued
  once : s.turns.flatten.Nodup

instance (s : ForwardState) : Decidable (ForwardLaw s) :=
  decidable_of_iff ((∀ turn ∈ s.turns, turn <:+: s.dequeued) ∧ s.turns.flatten.Nodup)
    ⟨fun h => ⟨h.1, h.2⟩, fun h => ⟨h.segment, h.once⟩⟩

/-- **In step.**  A frame fits in a payload.  When the ring is copied it holds
nothing written before and no frame is on its way out.  Between the copy and the
opening of the gate no newer frame meets the closed gate, and when it opens no frame
that is in the copy is still to meet it. -/
def InStep (s : ForwardState) : ForwardAction → Prop
  | .pop data .. => data.length ≤ kMaxFrameSize
  | .copy =>
      (∀ b ∈ s.media.preRollBuffer.contents, b ∉ s.turns.flatten) ∧
        match s.forward with
        | .passed frame => frame.data = []
        | _ => True
  | .testGate =>
      match s.turn, s.forward with
      | .copied _, .appended frame turnsBefore
      | .flushed, .appended frame turnsBefore =>
          turnsBefore < s.turns.length ∨ frame.data = []
      | _, _ => True
  | .openGate =>
      match s.forward with
      | .appended frame turnsBefore => turnsBefore = s.turns.length ∨ frame.data = []
      | _ => True
  | _ => True

instance (s : ForwardState) : DecidablePred (InStep s) := by
  intro a
  unfold InStep
  cases a <;> simp only <;> (try split) <;> infer_instance

/-! ### Captured bytes and written ones

Bytes are numbered as they are dequeued.  Two bytes with one value are different ones here, without
which "written twice" could not be told from "said twice". -/

theorem length_capture (start : ℕ) (data : List UInt8) :
    (capture start data).length = data.length := by
  simp [capture]

/-- Captured bytes are numbered on from `start`. -/
theorem map_pos_capture (start : ℕ) (data : List UInt8) :
    (capture start data).map CapturedByte.pos = List.range' start data.length := by
  rw [capture, List.map_map, ← List.zipIdx_map_snd start data]
  rfl

/-- Sending a frame that fits writes its bytes to the current turn. -/
theorem recordTurn_sendMediaFrame {m : MediaStream CapturedByte} {env : MediaEnv}
    {frame : AudioFrame CapturedByte} (running : m.running = true) (ok : env.writeOk = true)
    (fits : frame.data.length ≤ kMaxFrameSize) (turns : List (List CapturedByte)) :
    recordTurn m (m.sendMediaFrame env frame) turns =
      (turns.headD [] ++ frame.data) :: turns.tail := by
  cases turns <;>
    simp [recordTurn, MediaStream.sendMediaFrame, running, ok, not_lt.mpr fits]

theorem recordTurn_self (m : MediaStream CapturedByte) (turns : List (List CapturedByte)) :
    recordTurn m m turns = (turns.headD [] ++ []) :: turns.tail := by
  cases turns <;> simp [recordTurn]

theorem sendMediaFrame_running {m : MediaStream CapturedByte} {env : MediaEnv}
    {frame : AudioFrame CapturedByte} (running : m.running = true) (ok : env.writeOk = true) :
    (m.sendMediaFrame env frame).running = true := by
  simp only [MediaStream.sendMediaFrame, running, ok]
  split_ifs <;> simp_all

theorem sendMediaFrame_preRollBuffer (m : MediaStream CapturedByte) (env : MediaEnv)
    (frame : AudioFrame CapturedByte) :
    (m.sendMediaFrame env frame).preRollBuffer = m.preRollBuffer := by
  simp only [MediaStream.sendMediaFrame]
  split_ifs <;> rfl

theorem MediaEnv.delivers_iff {env : MediaEnv} :
    env.delivers = true ↔ env.consumerId ≠ "" ∧ env.writeOk = true := by
  simp [MediaEnv.delivers]

/-! ### The invariant

It cuts the bytes dequeued into three parts: those that are settled, those that the current turn
may still send, and those that are not in the ring yet.  A step moves bytes from one part to the
one before it, and what is written continues the turn at the end of what is settled. -/

namespace ForwardPhase

/-- The frame the forwarding thread holds. -/
def frame? : ForwardPhase → Option (AudioFrame CapturedByte)
  | .waiting => none
  | .popped frame | .appended frame _ | .passed frame => some frame

/-- Bytes dequeued but not in the ring yet. -/
def unappended : ForwardPhase → List CapturedByte
  | .popped frame => frame.data
  | _ => []

/-- Bytes in the ring that the current one of `turns` turns may still have to send. -/
def pending (turns : ℕ) : ForwardPhase → List CapturedByte
  | .appended frame turnsBefore => if turnsBefore = turns then frame.data else []
  | .passed frame => frame.data
  | _ => []

end ForwardPhase

namespace ForwardState

/-- The bytes written for the current turn. -/
def current (s : ForwardState) : List CapturedByte := s.turns.headD []

/-- What the phase of the turn says of the bytes before the pending ones: they end
with what is written for the turn, or with what is about to be. -/
def Continues (s : ForwardState) (settled : List CapturedByte) : Prop :=
  match s.turn with
  | .closed => ∀ frame, s.forward = .passed frame → s.current <:+ settled
  | .copied preRollData =>
      preRollData <:+ settled ∧ preRollData.length ≤ kMaxFrameSize ∧
        (∃ earlier, s.turns = [] :: earlier) ∧ (∀ b ∈ preRollData, b ∉ s.turns.flatten) ∧
        ∀ frame, s.forward = .passed frame → frame.data = []
  | .flushed => s.current <:+ settled ∧ ∀ frame, s.forward = .passed frame → frame.data = []
  | .opened => s.current <:+ settled ∧
      ∀ frame turnsBefore, s.forward = .appended frame turnsBefore →
        turnsBefore = s.turns.length ∨ frame.data = []

/-- **The invariant.**  The bytes dequeued are the settled ones, then those the
current turn may still send, then those not in the ring yet; only settled bytes have
been written. -/
structure Tracked (s : ForwardState) (settled : List CapturedByte) : Prop where
  dequeued_eq : s.dequeued =
    settled ++ s.forward.pending s.turns.length ++ s.forward.unappended
  numbered : s.dequeued.map CapturedByte.pos = List.range' 0 s.dequeued.length
  ring : s.media.preRollBuffer.contents <:+ settled ++ s.forward.pending s.turns.length
  capacity : s.media.preRollBuffer.capacity = kPreRollBytes
  running : s.media.running = true
  gate : s.media.gateOpen = true ↔ s.turn = .opened
  fits : ∀ frame, s.forward.frame? = some frame → frame.data.length ≤ kMaxFrameSize
  known : ∀ frame turnsBefore, s.forward = .appended frame turnsBefore →
    turnsBefore ≤ s.turns.length
  law : ForwardLaw s
  written : ∀ b ∈ s.turns.flatten, b ∈ settled
  continues : s.Continues settled

theorem Tracked.nodup {s : ForwardState} {settled : List CapturedByte}
    (inv : s.Tracked settled) : s.dequeued.Nodup := by
  refine List.Nodup.of_map CapturedByte.pos ?_
  rw [inv.numbered]
  exact List.nodup_range'

/-- The ring fits in one payload. -/
theorem Tracked.ring_fits {s : ForwardState} {settled : List CapturedByte}
    (inv : s.Tracked settled) : s.media.preRollBuffer.contents.length ≤ kMaxFrameSize := by
  have fits : kPreRollBytes ≤ kMaxFrameSize := by decide
  exact (inv.capacity ▸ s.media.preRollBuffer.bounded).trans fits

theorem flatten_eq (turns : List (List CapturedByte)) :
    turns.flatten = turns.headD [] ++ turns.tail.flatten := by
  cases turns <;> simp

/-- **Writing the next bytes of the current turn** keeps the law: they continue the
turn inside the bytes dequeued, and none of them was written before. -/
theorem law_write {s t : ForwardState} {settled data : List CapturedByte} (law : ForwardLaw s)
    (turns : t.turns = (s.turns.headD [] ++ data) :: s.turns.tail)
    (dequeued : t.dequeued = s.dequeued) (continued : s.turns.headD [] ++ data <:+ settled)
    (before : settled <+: s.dequeued) (nodup : data.Nodup)
    (fresh : ∀ b ∈ data, b ∉ s.turns.flatten) : ForwardLaw t where
  segment := by
    rw [turns, dequeued, List.forall_mem_cons]
    refine ⟨continued.isInfix.trans before.isInfix, fun turn mem => law.segment turn ?_⟩
    exact List.mem_of_mem_tail mem
  once := by
    have same : t.turns.flatten.Perm (data ++ s.turns.flatten) := by
      rw [turns, flatten_eq s.turns, List.flatten_cons, ← List.append_assoc]
      exact List.perm_append_comm.append_right _
    rw [same.nodup_iff, List.nodup_append]
    refine ⟨nodup, law.once, fun a ha b hb eq => ?_⟩
    exact fresh a ha (eq ▸ hb)

theorem mem_flatten_write {turns : List (List CapturedByte)} {data : List CapturedByte}
    {b : CapturedByte} :
    b ∈ ((turns.headD [] ++ data) :: turns.tail).flatten ↔ b ∈ turns.flatten ∨ b ∈ data := by
  rw [flatten_eq turns, List.flatten_cons]
  simp only [List.mem_append]
  tauto

theorem tracked_init (sessionId participantId : String) :
    (forwardMachine sessionId participantId).init.Tracked [] where
  dequeued_eq := rfl
  numbered := rfl
  ring := List.suffix_refl _
  capacity := rfl
  running := rfl
  gate := by simp [forwardMachine, MediaStream.start]
  fits := nofun
  known := nofun
  law := ⟨by simp [forwardMachine], by simp [forwardMachine]⟩
  written := by simp [forwardMachine]
  continues := by simp [forwardMachine, Continues]

section Steps

variable {s t : ForwardState} {settled : List CapturedByte}

theorem Tracked.pop {data : List UInt8} {sampleRate channels : UInt32} {timestampMs : ℕ}
    (inv : s.Tracked settled) (inStep : InStep s (.pop data sampleRate channels timestampMs))
    (step : forwardStep s (.pop data sampleRate channels timestampMs) = some t) :
    t.Tracked settled := by
  obtain ⟨media, forward, turn, dequeued, turns⟩ := s
  cases forward with
  | waiting =>
      cases step
      have dequeued_eq : dequeued = settled ++ [] ++ [] := inv.dequeued_eq
      refine ⟨?_, ?_, inv.ring, inv.capacity, inv.running, inv.gate, ?_, nofun, ?_, inv.written,
        ?_⟩
      · show dequeued ++ _ = settled ++ [] ++ _
        rw [dequeued_eq, List.append_nil, List.append_nil]
        rfl
      · have numbered : dequeued.map CapturedByte.pos = _ := inv.numbered
        rw [List.map_append, numbered, map_pos_capture, List.length_append, length_capture,
          ← List.range'_append]
        simp
      · intro frame mem
        obtain rfl := Option.some.inj mem
        rw [length_capture]
        exact inStep
      · refine ⟨fun turn mem => ?_, inv.law.once⟩
        exact (inv.law.segment turn mem).trans (List.prefix_append _ _).isInfix
      · have continues := inv.continues
        cases turn <;> simp_all [Continues, current]
  | _ => cases step

theorem Tracked.append (inv : s.Tracked settled) (step : forwardStep s .append = some t) :
    t.Tracked settled := by
  obtain ⟨media, forward, turn, dequeued, turns⟩ := s
  cases forward with
  | popped frame =>
      cases step
      have dequeued_eq : dequeued = settled ++ [] ++ frame.data := inv.dequeued_eq
      have ring : media.preRollBuffer.contents <:+ settled ++ [] := inv.ring
      rw [List.append_nil] at ring dequeued_eq
      have pending : ForwardPhase.pending turns.length (.appended frame turns.length) =
          frame.data := if_pos rfl
      refine ⟨?_, inv.numbered, ?_, inv.capacity, inv.running, inv.gate, inv.fits, ?_,
        ⟨inv.law.segment, inv.law.once⟩, inv.written, ?_⟩
      · show dequeued = settled ++ ForwardPhase.pending _ _ ++ []
        rw [pending, dequeued_eq, List.append_nil]
      · show _ <:+ settled ++ ForwardPhase.pending _ _
        rw [pending]
        exact CircularBuffer.pushBack_suffix ring frame.data
      · rintro _ _ ⟨⟩
        exact le_rfl
      · have continues := inv.continues
        cases turn <;> simp_all [Continues, current]
  | _ => cases step

/-- A frame that finds the gate open belongs to the open turn. -/
theorem Tracked.testGate_open {media : MediaStream CapturedByte}
    {frame : AudioFrame CapturedByte} {turnsBefore : ℕ} {dequeued : List CapturedByte}
    {turns : List (List CapturedByte)}
    (inv : Tracked ⟨media, .appended frame turnsBefore, .opened, dequeued, turns⟩ settled) :
    Tracked ⟨media, .passed frame, .opened, dequeued, turns⟩ settled := by
  obtain ⟨suffix, fresh⟩ := inv.continues
  have pending : ForwardPhase.pending turns.length (.appended frame turnsBefore) =
      ForwardPhase.pending turns.length (.passed frame) := by
    rcases fresh frame turnsBefore rfl with same | empty
    · exact if_pos same
    · simp [ForwardPhase.pending, empty]
  have dequeued_eq := inv.dequeued_eq
  have ring := inv.ring
  dsimp only at dequeued_eq ring
  rw [pending] at dequeued_eq ring
  exact ⟨dequeued_eq, inv.numbered, ring, inv.capacity, inv.running, inv.gate, inv.fits, nofun,
    ⟨inv.law.segment, inv.law.once⟩, inv.written, suffix, fun _ _ h => by cases h⟩

/-- A frame that finds the gate closed is dropped, and its bytes settle unwritten; in
step, that is no frame of a turn about to open. -/
theorem Tracked.testGate_closed {media : MediaStream CapturedByte}
    {frame : AudioFrame CapturedByte} {turnsBefore : ℕ} {turn : TurnPhase}
    {dequeued : List CapturedByte} {turns : List (List CapturedByte)}
    (inv : Tracked ⟨media, .appended frame turnsBefore, turn, dequeued, turns⟩ settled)
    (inStep : InStep ⟨media, .appended frame turnsBefore, turn, dequeued, turns⟩ .testGate)
    (notOpened : turn ≠ .opened) :
    Tracked ⟨media, .waiting, turn, dequeued, turns⟩
      (settled ++ ForwardPhase.pending turns.length (.appended frame turnsBefore)) := by
  set late := ForwardPhase.pending turns.length (.appended frame turnsBefore) with hlate
  have continues := inv.continues
  have dequeued_eq : dequeued = settled ++ late ++ [] := inv.dequeued_eq
  have ring : media.preRollBuffer.contents <:+ settled ++ late := inv.ring
  refine ⟨?_, inv.numbered, ?_, inv.capacity, inv.running, inv.gate, nofun, nofun,
    ⟨inv.law.segment, inv.law.once⟩, fun b mem => List.mem_append_left _ (inv.written b mem), ?_⟩
  · show dequeued = settled ++ late ++ [] ++ []
    rw [dequeued_eq]
    simp
  · show _ <:+ settled ++ late ++ []
    rw [List.append_nil]
    exact ring
  -- between copy and opening nothing is pending, so nothing is lost
  have kept : turn ≠ .closed → late = [] := by
    intro busy
    have earlier : turnsBefore < turns.length ∨ frame.data = [] := by
      cases turn <;> simp_all [InStep]
    rcases earlier with earlier | empty
    · exact if_neg earlier.ne
    · rw [hlate, ForwardPhase.pending, empty, ite_self]
  cases turn with
  | closed => exact nofun
  | opened => exact absurd rfl notOpened
  | copied preRollData =>
      rw [kept (by simp), List.append_nil]
      exact ⟨continues.1, continues.2.1, continues.2.2.1, continues.2.2.2.1, nofun⟩
  | flushed =>
      rw [kept (by simp), List.append_nil]
      exact ⟨continues.1, nofun⟩

theorem Tracked.testGate (inv : s.Tracked settled) (inStep : InStep s .testGate)
    (step : forwardStep s .testGate = some t) : ∃ settled', t.Tracked settled' := by
  obtain ⟨media, forward, turn, dequeued, turns⟩ := s
  cases forward with
  | appended frame turnsBefore =>
      have gate : media.gateOpen = true ↔ turn = .opened := inv.gate
      cases hgate : media.gateOpen with
      | true =>
          obtain rfl := gate.mp hgate
          obtain rfl : ForwardState.mk media (.passed frame) .opened dequeued turns = t := by
            simpa [forwardStep, hgate] using step
          exact ⟨settled, inv.testGate_open⟩
      | false =>
          have notOpened : turn ≠ .opened := fun opened => by simp [gate.mpr opened] at hgate
          obtain rfl : ForwardState.mk media .waiting turn dequeued turns = t := by
            simpa [forwardStep, hgate] using step
          exact ⟨_, inv.testGate_closed inStep notOpened⟩
  | _ => cases step

/-- What is written for the current turn ends the settled bytes whenever a frame has
passed the gate. -/
theorem Continues.current_suffix {frame : AudioFrame CapturedByte}
    (continues : s.Continues settled) (passed : s.forward = .passed frame) :
    s.current <:+ settled := by
  unfold Continues at continues
  cases turn : s.turn <;> simp only [turn] at continues
  case closed => exact continues frame passed
  case copied preRollData =>
    obtain ⟨earlier, current⟩ := continues.2.2.1
    simp [current, ForwardState.current]
  case flushed | opened => exact continues.1

/-- The frame that passed is written: the turn goes on from there. -/
theorem Continues.write {frame : AudioFrame CapturedByte} {media : MediaStream CapturedByte}
    (continues : s.Continues settled) (passed : s.forward = .passed frame)
    (continued : s.current ++ frame.data <:+ settled ++ frame.data) :
    Continues ⟨media, .waiting, s.turn, s.dequeued, (s.current ++ frame.data) :: s.turns.tail⟩
      (settled ++ frame.data) := by
  unfold Continues at continues ⊢
  -- the thread holds no frame any more
  cases turn : s.turn <;> simp only [turn] at continues ⊢
  case closed =>
    intro _ held
    cases held
  case copied preRollData =>
    obtain ⟨before, small, ⟨earlier, current⟩, fresh, empty⟩ := continues
    have empty := empty frame passed
    refine ⟨by simpa [empty] using before, small,
      ⟨earlier, by simp [ForwardState.current, current, empty]⟩, ?_, ?_⟩
    · intro b mem again
      rcases mem_flatten_write.mp again with again | again
      · exact fresh b mem again
      · simp [empty] at again
    · intro _ held
      cases held
  case flushed =>
    refine ⟨continued, ?_⟩
    intro _ held
    cases held
  case opened =>
    refine ⟨continued, ?_⟩
    intro _ _ held
    cases held

/-- The send of a frame that found the gate open continues the current turn. -/
theorem Tracked.send {env : MediaEnv} (inv : s.Tracked settled)
    (step : forwardStep s (.send env) = some t) : ∃ settled', t.Tracked settled' := by
  obtain ⟨media, forward, turn, dequeued, turns⟩ := s
  cases forward with
  | passed frame =>
      simp only [forwardStep] at step
      split_ifs at step with delivers
      obtain ⟨consumer, ok⟩ := MediaEnv.delivers_iff.mp delivers
      have sent : media.forwardFrame env frame = media.sendMediaFrame env frame := by
        simp [MediaStream.forwardFrame, consumer]
      have running : media.running = true := inv.running
      rw [sent, recordTurn_sendMediaFrame running ok (inv.fits frame rfl) turns] at step
      cases step
      have dequeued_eq : dequeued = settled ++ frame.data ++ [] := inv.dequeued_eq
      have nodup : (settled ++ frame.data).Nodup := by
        have nodup := inv.nodup
        rw [show ForwardState.dequeued _ = dequeued from rfl, dequeued_eq,
          List.append_nil] at nodup
        exact nodup
      have continued : turns.headD [] ++ frame.data <:+ settled ++ frame.data :=
        List.suffix_append_self_iff.mpr (inv.continues.current_suffix rfl)
      have law := law_write inv.law
        (t := ⟨media.sendMediaFrame env frame, .waiting, turn, dequeued,
          (turns.headD [] ++ frame.data) :: turns.tail⟩) rfl rfl continued ⟨[], dequeued_eq.symm⟩
        (List.nodup_append.mp nodup).2.1
        fun b mem again => (List.nodup_append.mp nodup).2.2 b (inv.written b again) b mem rfl
      refine ⟨settled ++ frame.data, ?_, inv.numbered, ?_, ?_, ?_, ?_, ?_, ?_, law, ?_, ?_⟩
      · show dequeued = settled ++ frame.data ++ [] ++ []
        rw [dequeued_eq]
        simp
      · show (media.sendMediaFrame env frame).preRollBuffer.contents <:+ _ ++ []
        rw [sendMediaFrame_preRollBuffer, List.append_nil]
        exact inv.ring
      · exact (congrArg _ (sendMediaFrame_preRollBuffer ..)).trans inv.capacity
      · exact sendMediaFrame_running running ok
      · rw [MediaStream.sendMediaFrame_gateOpen]
        exact inv.gate
      -- the thread holds no frame any more
      · intro _ held
        cases held
      · intro _ _ held
        cases held
      · intro b mem
        rcases mem_flatten_write.mp mem with mem | mem
        · exact List.mem_append_left _ (inv.written b mem)
        · exact List.mem_append_right _ mem
      · exact inv.continues.write rfl continued
  | _ => cases step

/-- A new turn starts from the ring: everything in it settles, and all of it is new. -/
theorem Tracked.copy (inv : s.Tracked settled) (inStep : InStep s .copy)
    (step : forwardStep s .copy = some t) : ∃ settled', t.Tracked settled' := by
  obtain ⟨media, forward, turn, dequeued, turns⟩ := s
  cases turn with
  | closed =>
      cases step
      obtain ⟨fresh, out⟩ := inStep
      -- nothing is pending for the new turn
      have none : ForwardPhase.pending (turns.length + 1) forward = [] := by
        cases forward with
        | passed frame => exact out
        | appended frame turnsBefore =>
            have known : turnsBefore ≤ turns.length := inv.known frame turnsBefore rfl
            exact if_neg (by omega)
        | _ => rfl
      refine ⟨settled ++ forward.pending turns.length, ?_, inv.numbered, ?_, inv.capacity,
        inv.running, ?_, inv.fits, ?_, ⟨?_, ?_⟩, ?_, ?_⟩
      · show dequeued = settled ++ forward.pending turns.length ++
          forward.pending (turns.length + 1) ++ forward.unappended
        rw [none, List.append_nil]
        exact inv.dequeued_eq
      · show _ <:+ settled ++ forward.pending turns.length ++ forward.pending (turns.length + 1)
        rw [none, List.append_nil]
        exact inv.ring
      · rw [inv.gate]
        exact ⟨nofun, nofun⟩
      · intro frame turnsBefore held
        exact Nat.le_succ_of_le (inv.known frame turnsBefore held)
      · rw [List.forall_mem_cons]
        exact ⟨List.nil_infix, inv.law.segment⟩
      · exact inv.law.once
      · exact fun b mem => List.mem_append_left _ (inv.written b mem)
      · refine ⟨inv.ring, inv.ring_fits, ⟨turns, rfl⟩, fresh, ?_⟩
        rintro frame rfl
        exact out
  | _ => cases step

/-- The pre-roll opens the turn with bytes that settled with the copy. -/
theorem Tracked.sendPreRoll {env : MediaEnv} (inv : s.Tracked settled)
    (step : forwardStep s (.sendPreRoll env) = some t) : t.Tracked settled := by
  obtain ⟨media, forward, turn, dequeued, turns⟩ := s
  cases turn with
  | copied preRollData =>
      simp only [forwardStep] at step
      split_ifs at step with delivers
      obtain ⟨consumer, ok⟩ := MediaEnv.delivers_iff.mp delivers
      have running : media.running = true := inv.running
      obtain ⟨before, small, ⟨earlier, rfl⟩, fresh, empty⟩ := inv.continues
      -- the copy is written, if there is any
      have sent : ∃ media', media.sendPreRoll env preRollData = media' ∧
          recordTurn media media' ([] :: earlier) = preRollData :: earlier ∧
          media'.preRollBuffer = media.preRollBuffer ∧ media'.running = true ∧
          media'.gateOpen = media.gateOpen := by
        cases preRollData with
        | nil => exact ⟨media, rfl, recordTurn_self media _, rfl, running, rfl⟩
        | cons b rest =>
            refine ⟨media.sendMediaFrame env (MediaStream.preRollFrame env (b :: rest)), ?_,
              recordTurn_sendMediaFrame running ok small _, sendMediaFrame_preRollBuffer ..,
              sendMediaFrame_running running ok, MediaStream.sendMediaFrame_gateOpen ..⟩
            simp [MediaStream.sendPreRoll, consumer]
      obtain ⟨media', hmedia, recorded, ring, running', gate⟩ := sent
      rw [hmedia, recorded] at step
      cases step
      have settledFirst : settled <+: dequeued :=
        ⟨_, (inv.dequeued_eq.trans (List.append_assoc ..)).symm⟩
      have nodup : preRollData.Nodup :=
        inv.nodup.sublist ((before.sublist).trans settledFirst.sublist)
      have law := law_write inv.law (t := ⟨media', forward, .flushed, dequeued,
        preRollData :: earlier⟩) rfl rfl before settledFirst nodup fresh
      refine ⟨inv.dequeued_eq, inv.numbered, ?_, ?_, running', ?_, inv.fits, inv.known, law, ?_, ?_⟩
      · rw [ring]
        exact inv.ring
      · rw [ring]
        exact inv.capacity
      · rw [gate, inv.gate]
        constructor <;> intro h <;> cases h
      · intro b mem
        rcases List.mem_append.mp (List.flatten_cons ▸ mem) with mem | mem
        · exact before.subset mem
        · exact inv.written b mem
      · exact ⟨before, empty⟩
  | _ => cases step

theorem Tracked.openGate (inv : s.Tracked settled) (inStep : InStep s .openGate)
    (step : forwardStep s .openGate = some t) : t.Tracked settled := by
  obtain ⟨media, forward, turn, dequeued, turns⟩ := s
  cases turn with
  | flushed =>
      cases step
      refine ⟨inv.dequeued_eq, inv.numbered, inv.ring, inv.capacity, inv.running,
        ⟨fun _ => rfl, fun _ => rfl⟩, inv.fits, inv.known, ⟨inv.law.segment, inv.law.once⟩,
        inv.written, inv.continues.1, ?_⟩
      rintro frame turnsBefore rfl
      exact inStep
  | _ => cases step

theorem Tracked.userTurnComplete (inv : s.Tracked settled)
    (step : forwardStep s .userTurnComplete = some t) : t.Tracked settled := by
  obtain ⟨media, forward, turn, dequeued, turns⟩ := s
  cases turn with
  | opened =>
      cases step
      exact ⟨inv.dequeued_eq, inv.numbered, inv.ring, inv.capacity, inv.running,
        ⟨nofun, nofun⟩, inv.fits, inv.known, ⟨inv.law.segment, inv.law.once⟩,
        inv.written, fun _ _ => inv.continues.1⟩
  | _ => cases step

/-- **One step in step** keeps the invariant.  The three conditions of `InStep` are used in the
cases of the steps they speak of, and nowhere else. -/
theorem Tracked.step {a : ForwardAction} (inv : s.Tracked settled) (inStep : InStep s a)
    (step : forwardStep s a = some t) : ∃ settled', t.Tracked settled' := by
  cases a with
  | pop data sampleRate channels timestampMs => exact ⟨settled, inv.pop inStep step⟩
  | append => exact ⟨settled, inv.append step⟩
  | testGate => exact inv.testGate inStep step
  | send env => exact inv.send step
  | copy => exact inv.copy inStep step
  | sendPreRoll env => exact ⟨settled, inv.sendPreRoll step⟩
  | openGate => exact ⟨settled, inv.openGate inStep step⟩
  | userTurnComplete => exact ⟨settled, inv.userTurnComplete step⟩

end Steps

end ForwardState

/-- **In step, forwarding is exactly once and in order**, in every state a run reaches: the bytes
written for a turn are a segment of the bytes dequeued, and no byte is written twice, in one turn
or in two. -/
theorem forwardLaw_of_inStep (sessionId participantId : String) (actions : List ForwardAction)
    (s : ForwardState)
    (run : (forwardMachine sessionId participantId).run
      (forwardMachine sessionId participantId).init actions = some s)
    (inStep : (forwardMachine sessionId participantId).Meets InStep
      (forwardMachine sessionId participantId).init actions) : ForwardLaw s := by
  have tracked : ∃ settled, s.Tracked settled :=
    (forwardMachine sessionId participantId).invariant_of_meets
      (motive := fun s => ∃ settled, s.Tracked settled)
      (fun _ _ _ ⟨_, inv⟩ inStep step => inv.step inStep step)
      ⟨[], ForwardState.tracked_init sessionId participantId⟩ run inStep
  obtain ⟨settled, inv⟩ := tracked
  exact inv.law

/-- One turn in step: a frame before the turn goes out with the ring, a frame of the
turn on its own, and the next frame meets the closed gate. -/
theorem forwardLaw_one_turn :
    let M := forwardMachine "s" "p"
    let env : MediaEnv := ⟨"c", true, 0⟩
    let actions : List ForwardAction :=
      [.pop [1, 2] 48000 1 0, .append, .testGate, .copy, .sendPreRoll env, .openGate,
        .pop [3] 48000 1 10, .append, .testGate, .send env, .userTurnComplete,
        .pop [4] 48000 1 20, .append, .testGate]
    ∃ s ∈ M.run M.init actions, s.turns = [[⟨0, 1⟩, ⟨1, 2⟩, ⟨2, 3⟩]] ∧ ForwardLaw s := by
  intro M env actions
  obtain ⟨s, run, turns⟩ : ∃ s ∈ M.run M.init actions, s.turns = [[⟨0, 1⟩, ⟨1, 2⟩, ⟨2, 3⟩]] := by
    decide +kernel
  refine ⟨s, run, turns, forwardLaw_of_inStep "s" "p" actions s run ?_⟩
  show ∀ t ∈ M.transitions M.init actions, InStep t.before t.action
  decide +kernel

/-- A frame appended before the ring is copied and tested after the gate opens is
written twice. -/
theorem frame_written_twice :
    let M := forwardMachine "s" "p"
    let env : MediaEnv := ⟨"c", true, 0⟩
    let actions : List ForwardAction :=
      [.pop [1, 2] 48000 1 0, .append, .copy, .sendPreRoll env, .openGate, .testGate, .send env]
    ∃ s ∈ M.run M.init actions,
      s.turns = [[⟨0, 1⟩, ⟨1, 2⟩, ⟨0, 1⟩, ⟨1, 2⟩]] ∧ ¬ ForwardLaw s := by
  decide +kernel

end Saasy.ListeningEngine
