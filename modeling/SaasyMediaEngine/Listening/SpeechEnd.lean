import SaasyMediaEngine.Listening.Pauses

/-!
# When the end of speech is reported

`speech_ended` is sent in one place only: `handleSilenceDetected` on a pipeline
that is still in `speech` when the VAD is back in `idle`.  A pause the pipeline
has mirrored as `silence` ends without it.  `SpeechEndLaw` says what an event
stream should see, and `speechEndsReported_iff` says for which configurations
every run of a sole user sees it.

The law is taken apart along a run.  `TurnRecord` is what the outputs so far have to say about the
state that they led to: a pipeline with a turn has its `speech_started` on record, and one that
waits for its turn to be decided, with the VAD idle, a `speech_ended` after it.  A chunk on which
the VAD returns keeps the record if it finds the pipeline in `speech`, and only then reports the
end once.  So a single run keeps the law exactly when each of its returns is of this kind,
`ReturnsToSpeech`, and this is `speechEndLaw_iff`.

From runs to configurations it is a matter of which returns can happen at all: with a minimum
silence of at most one chunk the VAD goes to `idle` straight from `speech`, where the pipeline still
is, and under `NeverEnds` it does not return.  Every other configuration has the run of
`Listening.Pauses`, which breaks the law.  There the pipeline has mirrored every pause by the time
the VAD returns, so the runs that keep the law are those in which it never does.
-/

namespace Saasy.ListeningEngine

open Transition VadTurnPipeline

namespace TurnOutput

variable {Sample : Type*}

def isSpeechStarted : TurnOutput Sample → Bool
  | .speechStarted _ => true
  | _ => false

def isSpeechEnded : TurnOutput Sample → Bool
  | .speechEnded _ => true
  | _ => false

def isUserTurnComplete : TurnOutput Sample → Bool
  | .userTurnComplete .. => true
  | _ => false

def isBackchannel : TurnOutput Sample → Bool
  | .backchannel _ => true
  | _ => false

end TurnOutput

/-! ### The law

A return to `idle` is reported by the chunk that brings it, once, or discarded as a backchannel;
and a turn that completes has had its end reported before. -/

section Law

variable {Sample Rnn : Type*}

/-- Some `speech_started` is the last one, with `since` true of what follows it. -/
def SinceStart (since : List (TurnOutput Sample) → Prop) (outputs : List (TurnOutput Sample)) :
    Prop :=
  ∃ pre start post, outputs = pre ++ start :: post ∧ start.isSpeechStarted = true ∧
    (∀ o ∈ post, o.isSpeechStarted = false) ∧ since post

/-- The last `speech_started` is followed by a `speech_ended`. -/
def EndedSinceStart (outputs : List (TurnOutput Sample)) : Prop :=
  SinceStart (fun post => ∃ o ∈ post, o.isSpeechEnded = true) outputs

/-- Every `user_turn_complete` comes after a `speech_ended` of its turn. -/
def EndedBeforeComplete (outputs : List (TurnOutput Sample)) : Prop :=
  ∀ front o back, outputs = front ++ o :: back → o.isUserTurnComplete = true →
    EndedSinceStart front

/-- The VAD returns to `idle` after speech. -/
def ReturnsToIdle (t : Taken (TurnState Sample Rnn) (TurnAction Sample)) : Prop :=
  t.before.vad.state ≠ .idle ∧ t.after.vad.state = .idle

instance (t : Taken (TurnState Sample Rnn) (TurnAction Sample)) : Decidable (ReturnsToIdle t) :=
  inferInstanceAs (Decidable (_ ∧ _))

/-- **The law.**  Each return to `idle` that is not discarded as a backchannel is
reported by exactly one `speech_ended`, and no turn completes without one. -/
structure SpeechEndLaw (onnx : OnnxSession Sample Rnn) (config : TurnDetectorConfig)
    (history : List (Taken (TurnState Sample Rnn) (TurnAction Sample))) : Prop where
  once : ∀ t ∈ history, ReturnsToIdle t →
    (∀ o ∈ emitted onnx config t, o.isBackchannel = false) →
      (emitted onnx config t).countP TurnOutput.isSpeechEnded = 1
  before : EndedBeforeComplete (history.flatMap (emitted onnx config))

end Law

/-- The law holds of every run of a pipeline that has its VAD to itself. -/
def SpeechEndsReported (config : TurnDetectorConfig) (vadConfig : VadConfig) : Prop :=
  ∀ {Sample Rnn : Type} [Zero Sample] [Zero Rnn] (onnx : OnnxSession Sample Rnn) (t₀ t₁ : ℤ)
    (actions : List (TurnAction Sample)) (s : TurnState Sample Rnn),
    SoleRun onnx config vadConfig t₀ t₁ actions s →
      SpeechEndLaw onnx config
        ((turnMachine onnx config vadConfig t₀ t₁).transitions
          (turnMachine onnx config vadConfig t₀ t₁).init actions)

section Sequences

variable {Sample : Type*} {outputs more : List (TurnOutput Sample)}

/-- More outputs, none of them a `speech_started`, extend what follows the last one. -/
theorem SinceStart.append {since since' : List (TurnOutput Sample) → Prop}
    (started : SinceStart since outputs) (quiet : ∀ o ∈ more, o.isSpeechStarted = false)
    (extend : ∀ post, since post → since' (post ++ more)) :
    SinceStart since' (outputs ++ more) := by
  obtain ⟨pre, start, post, rfl, hstart, none, hpost⟩ := started
  refine ⟨pre, start, post ++ more, by simp, hstart, ?_, extend post hpost⟩
  intro o mem
  rcases List.mem_append.mp mem with mem | mem
  · exact none o mem
  · exact quiet o mem

/-- Nothing but a new `speech_started` takes a reported end back. -/
theorem EndedSinceStart.append (ended : EndedSinceStart outputs)
    (quiet : ∀ o ∈ more, o.isSpeechStarted = false) : EndedSinceStart (outputs ++ more) := by
  refine SinceStart.append ended quiet ?_
  rintro post ⟨o, mem, reported⟩
  exact ⟨o, List.mem_append_left _ mem, reported⟩

theorem endedBeforeComplete_nil : EndedBeforeComplete ([] : List (TurnOutput Sample)) := by
  intro front o back eq
  simp at eq

/-- Outputs that complete no turn extend a lawful sequence. -/
theorem EndedBeforeComplete.append (lawful : EndedBeforeComplete outputs)
    (unfinished : ∀ o ∈ more, o.isUserTurnComplete = false) :
    EndedBeforeComplete (outputs ++ more) := by
  intro front o back eq complete
  rcases List.append_eq_append_iff.mp eq with ⟨xs, rfl, hmore⟩ | ⟨xs, houtputs, hback⟩
  · have := unfinished o (by simp [hmore])
    simp [complete] at this
  · cases xs with
    | nil =>
        have : o ∈ more := by
          rw [List.nil_append] at hback
          simp [← hback]
        simp [unfinished o this] at complete
    | cons x xs =>
        obtain ⟨rfl, -⟩ : o = x ∧ back = xs ++ more := by simpa using hback
        exact lawful front o xs houtputs complete

/-- A completed turn extends a lawful sequence whose turn has ended. -/
theorem EndedBeforeComplete.concat (lawful : EndedBeforeComplete outputs)
    (ended : EndedSinceStart outputs) (last : TurnOutput Sample) :
    EndedBeforeComplete (outputs ++ [last]) := by
  intro front o back eq complete
  rcases List.append_eq_append_iff.mp eq with ⟨xs, rfl, hlast⟩ | ⟨xs, houtputs, hback⟩
  · cases xs with
    | nil => simpa using ended
    | cons x xs => simp at hlast
  · cases xs with
    | nil =>
        rw [List.append_nil] at houtputs
        exact houtputs ▸ ended
    | cons x xs =>
        obtain ⟨rfl, -⟩ : o = x ∧ back = xs ++ [last] := by simpa using hback
        exact lawful front o xs houtputs complete

end Sequences

variable {Sample Rnn : Type*} {onnx : OnnxSession Sample Rnn} {config : TurnDetectorConfig}
  {vadConfig : VadConfig}

/-- A detection by itself reports neither the start nor the end of speech, and
discards nothing. -/
theorem VadTurnPipeline.Detection.output_cases {p q : VadTurnPipeline Sample}
    {env : ChunkEnv Sample} {outputs : List (TurnOutput Sample)}
    (detected : Detection config p env q outputs) {o : TurnOutput Sample} (mem : o ∈ outputs) :
    o.isSpeechStarted = false ∧ o.isSpeechEnded = false ∧ o.isBackchannel = false := by
  cases detected with
  | empty => cases mem
  | complete =>
      rcases List.mem_cons.mp mem with rfl | mem
      · exact ⟨rfl, rfl, rfl⟩
      · unfold send at mem
        split_ifs at mem
        · obtain rfl := List.mem_singleton.mp mem
          exact ⟨rfl, rfl, rfl⟩
        · cases mem
  | _ =>
      obtain rfl := List.mem_singleton.mp mem
      exact ⟨rfl, rfl, rfl⟩

/-- A detection after a reported end keeps the sequence lawful. -/
theorem EndedBeforeComplete.detection {outputs more : List (TurnOutput Sample)}
    (lawful : EndedBeforeComplete outputs) (ended : EndedSinceStart outputs)
    {p q : VadTurnPipeline Sample} {env : ChunkEnv Sample}
    (detected : Detection config p env q more) : EndedBeforeComplete (outputs ++ more) := by
  cases detected with
  | complete =>
      rw [← List.singleton_append, ← List.append_assoc]
      have analysed : EndedBeforeComplete (outputs ++ [.smartTurn p.turnBuffer.buffer]) :=
        lawful.append (by simp [TurnOutput.isUserTurnComplete])
      unfold send
      split_ifs
      · exact analysed.concat (ended.append (by simp [TurnOutput.isSpeechStarted])) _
      · simpa using analysed
  | _ => exact lawful.append (by simp [TurnOutput.isUserTurnComplete])

/-! ### The runs that keep it

The record of a turn is what the second half needs: that a pipeline which waits for the turn to be
decided has its end on record.  The one way to lose that is to come to wait by mirroring a pause
and to have the VAD return there. -/

/-- What the events so far say about a pipeline in `state` next to a VAD in `v`: an open
turn has its start on record, and one that waits on an idle VAD its end. -/
structure TurnRecord (outputs : List (TurnOutput Sample)) (v state : VadState) : Prop where
  lawful : EndedBeforeComplete outputs
  started : state ≠ .idle → SinceStart (fun _ => True) outputs
  ended : v = .idle → state = .silence → EndedSinceStart outputs

/-- A detection reports nothing that the record of a waiting turn does not allow. -/
theorem TurnRecord.detection {outputs more : List (TurnOutput Sample)}
    {p q : VadTurnPipeline Sample} {env : ChunkEnv Sample}
    (record : TurnRecord outputs .idle .silence) (detected : Detection config p env q more) :
    TurnRecord (outputs ++ more) .idle q.currentState where
  lawful := record.lawful.detection (record.ended rfl rfl) detected
  started := fun _ => (record.started (by simp)).append
    (fun _ mem => (detected.output_cases mem).1) (fun _ _ => trivial)
  ended := fun _ _ => (record.ended rfl rfl).append fun _ mem => (detected.output_cases mem).1

/-- **The record through a reaction** that finds the pipeline in `speech` if the VAD
returns.  It reports the end then before it asks SmartTurn; on a VAD that was idle
already the pipeline waits with the end on record. -/
theorem TurnRecord.react {outputs more : List (TurnOutput Sample)}
    {p q : VadTurnPipeline Sample} {env : ChunkEnv Sample} {v v' : VadState}
    (record : TurnRecord outputs v p.currentState) (attached : env.hasEventStream = true)
    (unmirrored : v ≠ .idle → v' = .idle → p.currentState = .speech)
    (reacted : Reaction config p env v' q more) :
    TurnRecord (outputs ++ more) v' q.currentState := by
  have atSpeech := (ChunkEnv.hasEventStream_eq_true.mp attached).1
  cases reacted with
  | quiet idle silent =>
      rw [List.append_nil]
      exact ⟨record.lawful, record.started, fun _ silence => by simp [idle] at silence⟩
  | started idle =>
      have opened : SinceStart (fun _ => True)
          (outputs ++ [.speechStarted env.clock.speechStartedMs]) :=
        ⟨outputs, _, [], rfl, rfl, by simp, trivial⟩
      rw [atSpeech, send_true]
      exact ⟨record.lawful.append (by simp [TurnOutput.isUserTurnComplete]), fun _ => opened,
        fun idle => by cases idle⟩
  | mirrored opened busy =>
      rw [List.append_nil]
      exact ⟨record.lawful, fun _ => record.started opened, fun idle => absurd idle busy⟩
  | backchannel speech short =>
      exact ⟨record.lawful.append (by simp [TurnOutput.isUserTurnComplete]),
        fun busy => absurd rfl busy, fun _ silence => by cases silence⟩
  | ended speech long detected =>
      have reported :
          TurnRecord (outputs ++ [.speechEnded env.clock.speechEndedMs]) .idle .silence := by
        have started := record.started (by simp [speech])
        refine ⟨record.lawful.append (by simp [TurnOutput.isUserTurnComplete]), fun _ => ?_,
          fun _ _ => ?_⟩
        · exact started.append (by simp [TurnOutput.isSpeechStarted]) fun _ _ => trivial
        · exact started.append (by simp [TurnOutput.isSpeechStarted]) fun post _ =>
            ⟨.speechEnded env.clock.speechEndedMs, by simp, rfl⟩
      rw [atSpeech, send_true, ← List.append_assoc]
      exact reported.detection detected
  | paused silence detected =>
      have idle : v = .idle := by
        by_contra spoke
        exact absurd (unmirrored spoke rfl) (by simp [silence])
      rw [idle, silence] at record
      exact record.detection detected

/-- A return to `idle` is reported by one `speech_ended`, or discarded as a
backchannel, if it finds the pipeline in `speech`, and otherwise it is neither. -/
theorem VadTurnPipeline.Reaction.reports_iff {p q : VadTurnPipeline Sample}
    {env : ChunkEnv Sample} {more : List (TurnOutput Sample)} (attached : env.hasEventStream = true)
    (reacted : Reaction config p env .idle q more) :
    ((∀ o ∈ more, o.isBackchannel = false) → more.countP TurnOutput.isSpeechEnded = 1) ↔
      p.currentState = .speech := by
  have none {p q : VadTurnPipeline Sample} {more : List (TurnOutput Sample)}
      (detected : Detection config p env q more) : more.countP TurnOutput.isSpeechEnded = 0 :=
    List.countP_eq_zero.mpr fun o mem => ne_true_of_eq_false (detected.output_cases mem).2.1
  cases reacted with
  | quiet idle => simp [idle]
  | mirrored _ busy => exact absurd rfl busy
  | backchannel speech => simp [speech, TurnOutput.isBackchannel]
  | ended speech long detected =>
      refine iff_of_true (fun _ => ?_) speech
      rw [(ChunkEnv.hasEventStream_eq_true.mp attached).1, List.countP_append, none detected]
      rfl
  | paused silence detected =>
      refine iff_of_false (fun once => ?_) (by simp [silence])
      rw [none detected] at once
      exact absurd (once fun o mem => (detected.output_cases mem).2.2) (by decide)

/-- One chunk that finds the pipeline in `speech` if the VAD returns. -/
theorem TurnRecord.processChunk {s : TurnState Sample Rnn} {env : ChunkEnv Sample}
    {outputs : List (TurnOutput Sample)}
    (record : TurnRecord outputs s.vad.state s.pipeline.currentState) (unit : onnx.InUnit)
    (attached : env.hasEventStream = true)
    (unmirrored : s.vad.state ≠ .idle → (s.processChunk onnx config env).1.vad.state = .idle →
      s.pipeline.currentState = .speech) :
    TurnRecord (outputs ++ (s.processChunk onnx config env).2)
      (s.processChunk onnx config env).1.vad.state
      (s.processChunk onnx config env).1.pipeline.currentState := by
  obtain failed | ⟨vad, q, more, -, reacted, result⟩ := chunk_cases unit s env
  · rw [failed, List.append_nil]
    exact record
  · rw [result] at unmirrored ⊢
    set p := { s.pipeline with vadAccumulator := s.pipeline.vadAccumulator.drop kChunkSize }
    exact TurnRecord.react (p := p) record attached unmirrored reacted

/-- The same for one chunk, which the VAD has processed if it returns. -/
theorem reports_iff_processChunk {s : TurnState Sample Rnn} {env : ChunkEnv Sample}
    (unit : onnx.InUnit) (attached : env.hasEventStream = true) (spoke : s.vad.state ≠ .idle)
    (idle : (s.processChunk onnx config env).1.vad.state = .idle) :
    ((∀ o ∈ (s.processChunk onnx config env).2, o.isBackchannel = false) →
      (s.processChunk onnx config env).2.countP TurnOutput.isSpeechEnded = 1) ↔
        s.pipeline.currentState = .speech := by
  obtain failed | ⟨vad, q, more, -, reacted, result⟩ := chunk_cases unit s env
  · rw [failed] at idle
    exact absurd idle spoke
  · rw [result] at idle ⊢
    set p := { s.pipeline with vadAccumulator := s.pipeline.vadAccumulator.drop kChunkSize }
    exact VadTurnPipeline.Reaction.reports_iff (p := p) attached (idle ▸ reacted)

/-- The VAD returns to a pipeline that has mirrored no pause. -/
def ReturnsToSpeech (history : List (Taken (TurnState Sample Rnn) (TurnAction Sample))) : Prop :=
  ∀ t ∈ history, ReturnsToIdle t → t.before.pipeline.currentState = .speech

instance (history : List (Taken (TurnState Sample Rnn) (TurnAction Sample))) :
    Decidable (ReturnsToSpeech history) :=
  inferInstanceAs (Decidable (∀ t ∈ history, _))

theorem returnsToSpeech_append
    {front back : List (Taken (TurnState Sample Rnn) (TurnAction Sample))} :
    ReturnsToSpeech (front ++ back) ↔ ReturnsToSpeech front ∧ ReturnsToSpeech back :=
  List.forall_mem_append

/-- One more step, on its outputs. -/
theorem SpeechEndLaw.concat {history : List (Taken (TurnState Sample Rnn) (TurnAction Sample))}
    {t : Taken (TurnState Sample Rnn) (TurnAction Sample)} (law : SpeechEndLaw onnx config history)
    (once : ReturnsToIdle t → (∀ o ∈ emitted onnx config t, o.isBackchannel = false) →
      (emitted onnx config t).countP TurnOutput.isSpeechEnded = 1)
    (before : EndedBeforeComplete
      (history.flatMap (emitted onnx config) ++ emitted onnx config t)) :
    SpeechEndLaw onnx config (history ++ [t]) where
  once := by
    intro r mem
    rcases List.mem_append.mp mem with mem | mem
    · exact law.once r mem
    · obtain rfl := List.mem_singleton.mp mem
      exact once
  before := by simpa using before

/-- Only a VAD in `speech` leaves the pipeline there. -/
theorem VadTurnPipeline.Reaction.eq_speech {p q : VadTurnPipeline Sample} {env : ChunkEnv Sample}
    {v : VadState} {outputs : List (TurnOutput Sample)}
    (reacted : Reaction config p env v q outputs) (speech : q.currentState = .speech) :
    v = .speech := by
  cases v with
  | speech => rfl
  | idle => exact absurd speech (reacted.currentState_of_idle rfl)
  | silence =>
      cases reacted with
      | quiet idle => cases idle.symm.trans speech
      | mirrored => cases speech

/-- A pipeline in `speech` finds the VAD there, which has not counted any silence.  So where the
silence has to be longer than one chunk, the VAD does not return from under such a pipeline. -/
structure Speaking (vadConfig : VadConfig) (s : TurnState Sample Rnn) : Prop where
  config_eq : s.vad.config = vadConfig
  counted : s.vad.state = .speech → s.vad.silenceDurationMs = 0
  opened : s.pipeline.currentState = .speech → s.vad.state = .speech

variable (config) in
theorem Speaking.processChunk {s : TurnState Sample Rnn} (inv : Speaking vadConfig s)
    (unit : onnx.InUnit) (env : ChunkEnv Sample) :
    Speaking vadConfig (s.processChunk onnx config env).1 ∧
      (32 < vadConfig.minSilenceDurationMs → s.pipeline.currentState = .speech →
        (s.processChunk onnx config env).1.vad.state ≠ .idle) := by
  obtain failed | ⟨vad, q, outputs, step, reacted, result⟩ := chunk_cases unit s env
  · rw [failed]
    exact ⟨⟨inv.config_eq, inv.counted, inv.opened⟩, fun _ speech => by simp [inv.opened speech]⟩
  · rw [result]
    refine ⟨⟨step.config_eq.trans inv.config_eq, fun speech => ?_,
      fun speech => reacted.eq_speech speech⟩, fun long speech idle => ?_⟩
    · cases step with
      | loud _ _ _ _ _ _ silence => exact silence
      | stillIdle _ _ _ _ _ state => cases state.symm.trans speech
      | pause _ _ _ _ _ _ state => cases state.symm.trans speech
      | offset _ _ _ _ _ _ state => cases state.symm.trans speech
    · have spoke := inv.opened speech
      cases step with
      | loud _ _ _ _ state => simp [spoke, state] at idle
      | stillIdle _ _ _ _ quiet => cases quiet.symm.trans spoke
      | pause _ _ _ _ _ _ state => cases state.symm.trans idle
      | offset _ _ _ _ _ enough =>
          rw [inv.counted spoke, inv.config_eq] at enough
          exact absurd long (UInt32.not_lt.mpr (by simpa using enough))

section Runs

variable [Zero Sample] [Zero Rnn] {t₀ t₁ : ℤ} {actions : List (TurnAction Sample)}
  {s : TurnState Sample Rnn}

/-- **No pause mirrored at a return: the law holds.** The record of the turn is kept by every chunk
then, and a turn that completes has its end on record. -/
theorem speechEndLaw_of_returnsToSpeech (sole : SoleRun onnx config vadConfig t₀ t₁ actions s)
    (unmirrored : ReturnsToSpeech ((turnMachine onnx config vadConfig t₀ t₁).transitions
      (turnMachine onnx config vadConfig t₀ t₁).init actions)) :
    SpeechEndLaw onnx config ((turnMachine onnx config vadConfig t₀ t₁).transitions
      (turnMachine onnx config vadConfig t₀ t₁).init actions) := by
  have inv := sole.induction
    (motive := fun past s => ReturnsToSpeech past → SpeechEndLaw onnx config past ∧
      TurnRecord (past.flatMap (emitted onnx config)) s.vad.state s.pipeline.currentState)
    (fun _ => ⟨⟨by simp, endedBeforeComplete_nil⟩, endedBeforeComplete_nil,
      fun busy => absurd rfl busy, fun _ silence => by cases silence⟩)
    ?_ ?_
  · exact (inv unmirrored).1
  · intro past s xs ih unmirrored
    obtain ⟨law, record⟩ := ih (returnsToSpeech_append.mp unmirrored).1
    refine ⟨law.concat (fun back => absurd back.2 back.1) ?_, ?_⟩
    · simpa [emitted] using law.before
    · rw [List.flatMap_append]
      exact (List.append_nil _).symm ▸ record
  · intro past s env attached _ ih unmirrored
    obtain ⟨earlier, last⟩ := returnsToSpeech_append.mp unmirrored
    obtain ⟨law, record⟩ := ih earlier
    have speech := last _ (List.mem_singleton_self _)
    have after := record.processChunk sole.unit attached fun spoke idle => speech ⟨spoke, idle⟩
    refine ⟨law.concat (fun back => ?_) after.lawful, ?_⟩
    · exact (reports_iff_processChunk sole.unit attached back.1 back.2).mpr (speech back)
    · rw [List.flatMap_append, List.flatMap_singleton]
      exact after

/-- **Which runs report every end of speech**: those in which the VAD finds the pipeline in
`speech` whenever it returns. -/
theorem speechEndLaw_iff (sole : SoleRun onnx config vadConfig t₀ t₁ actions s) :
    SpeechEndLaw onnx config ((turnMachine onnx config vadConfig t₀ t₁).transitions
        (turnMachine onnx config vadConfig t₀ t₁).init actions) ↔
      ReturnsToSpeech ((turnMachine onnx config vadConfig t₀ t₁).transitions
        (turnMachine onnx config vadConfig t₀ t₁).init actions) := by
  refine ⟨fun law => ?_, speechEndLaw_of_returnsToSpeech sole⟩
  have inv := sole.induction
    (motive := fun past _ => (∀ t ∈ past, ReturnsToIdle t →
      (∀ o ∈ emitted onnx config t, o.isBackchannel = false) →
        (emitted onnx config t).countP TurnOutput.isSpeechEnded = 1) → ReturnsToSpeech past)
    (fun _ => List.forall_mem_nil _) ?_ ?_
  · exact inv law.once
  · intro past s xs ih once
    refine returnsToSpeech_append.mpr ⟨ih (List.forall_mem_append.mp once).1, ?_⟩
    exact List.forall_mem_singleton.mpr fun back => absurd back.2 back.1
  · intro past s env attached _ ih once
    obtain ⟨earlier, last⟩ := List.forall_mem_append.mp once
    refine returnsToSpeech_append.mpr ⟨ih earlier, List.forall_mem_singleton.mpr fun back => ?_⟩
    exact (reports_iff_processChunk sole.unit attached back.1 back.2).mp
      (last _ (List.mem_singleton_self _) back)

/-- Where one quiet chunk does not end speech, the first one is mirrored: every return finds
the pipeline in `silence`. -/
theorem returnsToSpeech_iff_of_long (long : 32 < vadConfig.minSilenceDurationMs)
    (sole : SoleRun onnx config vadConfig t₀ t₁ actions s) :
    ReturnsToSpeech ((turnMachine onnx config vadConfig t₀ t₁).transitions
        (turnMachine onnx config vadConfig t₀ t₁).init actions) ↔
      ∀ t ∈ (turnMachine onnx config vadConfig t₀ t₁).transitions
        (turnMachine onnx config vadConfig t₀ t₁).init actions, ¬ ReturnsToIdle t := by
  refine ⟨?_, fun stays t mem back => absurd back (stays t mem)⟩
  have inv := sole.induction
    (motive := fun past s => Speaking vadConfig s ∧
      (ReturnsToSpeech past → ∀ t ∈ past, ¬ ReturnsToIdle t))
    ⟨⟨rfl, by simp [SileroVad.create], by simp [VadTurnPipeline.start]⟩,
      fun _ => List.forall_mem_nil _⟩ ?_ ?_
  · exact inv.2
  · rintro past s xs ⟨speaking, ih⟩
    refine ⟨⟨speaking.config_eq, speaking.counted, speaking.opened⟩, fun returns => ?_⟩
    refine List.forall_mem_append.mpr ⟨ih (returnsToSpeech_append.mp returns).1, ?_⟩
    exact List.forall_mem_singleton.mpr fun back => back.1 back.2
  · rintro past s env - - ⟨speaking, ih⟩
    obtain ⟨after, stays⟩ := speaking.processChunk config sole.unit env
    refine ⟨after, fun returns => ?_⟩
    obtain ⟨earlier, last⟩ := returnsToSpeech_append.mp returns
    refine List.forall_mem_append.mpr ⟨ih earlier, List.forall_mem_singleton.mpr fun back => ?_⟩
    exact stays long (last _ (List.mem_singleton_self _) back) back.2

/-! ### The configurations that keep it

They are those in which no return finds a mirrored pause, as there is none or as there are no
returns. -/

/-- **One quiet chunk ends speech: the law holds**, as no pause is ever mirrored and the VAD always
returns to a pipeline in `speech`. -/
theorem speechEndLaw_of_short (short : vadConfig.minSilenceDurationMs ≤ 32)
    (sole : SoleRun onnx config vadConfig t₀ t₁ actions s) :
    SpeechEndLaw onnx config
      ((turnMachine onnx config vadConfig t₀ t₁).transitions
        (turnMachine onnx config vadConfig t₀ t₁).init actions) := by
  have inv := sole.induction
    (motive := fun past s => ShortSilence vadConfig s ∧ ReturnsToSpeech past)
    ⟨.start t₀ t₁, List.forall_mem_nil _⟩ ?_ ?_
  · exact (speechEndLaw_iff sole).mpr inv.2
  · rintro past s xs ⟨states, earlier⟩
    refine ⟨states.bufferAudio xs, returnsToSpeech_append.mpr ⟨earlier, ?_⟩⟩
    exact List.forall_mem_singleton.mpr fun back => absurd back.2 back.1
  · rintro past s env - - ⟨states, earlier⟩
    refine ⟨states.processChunk config sole.unit short env,
      returnsToSpeech_append.mpr ⟨earlier, List.forall_mem_singleton.mpr fun back => ?_⟩⟩
    have spoke : s.vad.state = .speech := by
      have noPause := states.noPause
      have busy : s.vad.state ≠ .idle := back.1
      cases h : s.vad.state <;> simp_all
    exact states.opened spoke

/-- **The VAD never comes back: the law holds**, as nothing is ever to report and no turn
completes. -/
theorem speechEndLaw_of_neverEnds (never : NeverEnds vadConfig)
    (sole : SoleRun onnx config vadConfig t₀ t₁ actions s) :
    SpeechEndLaw onnx config
      ((turnMachine onnx config vadConfig t₀ t₁).transitions
        (turnMachine onnx config vadConfig t₀ t₁).init actions) := by
  have inv := sole.induction
    (motive := fun past s => NoReturn vadConfig s ∧ ReturnsToSpeech past)
    ⟨.start t₀ t₁, List.forall_mem_nil _⟩ ?_ ?_
  · exact (speechEndLaw_iff sole).mpr inv.2
  · rintro past s xs ⟨states, earlier⟩
    refine ⟨states.bufferAudio xs, returnsToSpeech_append.mpr ⟨earlier, ?_⟩⟩
    exact List.forall_mem_singleton.mpr fun back => absurd back.2 back.1
  · rintro past s env - - ⟨states, earlier⟩
    obtain ⟨after, busy, -⟩ := states.processChunk config sole.unit never env
    refine ⟨after,
      returnsToSpeech_append.mpr ⟨earlier, List.forall_mem_singleton.mpr fun back => ?_⟩⟩
    exact absurd back.2 (busy back.1)

end Runs

/-! ### The configurations that lose it

In all others the burst of `Listening.Pauses` ends in a mirrored pause, and no end of speech is
ever reported of it. -/

variable (config) in
/-- **A mirrored pause: the law fails** on `segment`: the VAD returns with its last chunk, and
nothing is reported. -/
theorem not_speechEndLaw_segment (pauses : Pauses vadConfig) :
    ∃ s, SoleRun loudness config vadConfig 0 0 (script (stillEnv 0) (segment vadConfig)) s ∧
      ¬ SpeechEndLaw loudness config
        ((turnMachine loudness config vadConfig 0 0).transitions
          (turnMachine loudness config vadConfig 0 0).init
            (script (stillEnv 0) (segment vadConfig))) := by
  obtain ⟨s, past, spoke, pause, last, run, history, ends⟩ :=
    exists_offset config 0 0 (stillEnv 0) pauses
  have sole := soleRun_script le_rfl le_rfl run
  refine ⟨s, sole, fun law => ?_⟩
  have speech := (speechEndLaw_iff sole).mp law last (by simp [history])
    ⟨by simp [ends.silence], ends.idle⟩
  simp [ends.waiting] at speech

/-- **Which configurations report every end of speech**: those whose minimum
silence is at most one chunk, so that the pipeline never mirrors a pause, and
those whose VAD never completes a segment.  Under the others, the default among
them, it is the runs in which no return of the VAD finds a mirrored pause, and so those
in which it does not return. -/
theorem speechEndsReported_iff (config : TurnDetectorConfig) (vadConfig : VadConfig) :
    (SpeechEndsReported config vadConfig ↔
      vadConfig.minSilenceDurationMs ≤ 32 ∨ NeverEnds vadConfig) ∧
    ∀ {Sample Rnn : Type} [Zero Sample] [Zero Rnn] (onnx : OnnxSession Sample Rnn) (t₀ t₁ : ℤ)
      (actions : List (TurnAction Sample)) (s : TurnState Sample Rnn),
      SoleRun onnx config vadConfig t₀ t₁ actions s →
        (SpeechEndLaw onnx config
            ((turnMachine onnx config vadConfig t₀ t₁).transitions
              (turnMachine onnx config vadConfig t₀ t₁).init actions) ↔
          ReturnsToSpeech
            ((turnMachine onnx config vadConfig t₀ t₁).transitions
              (turnMachine onnx config vadConfig t₀ t₁).init actions)) ∧
        (32 < vadConfig.minSilenceDurationMs →
          (ReturnsToSpeech
              ((turnMachine onnx config vadConfig t₀ t₁).transitions
                (turnMachine onnx config vadConfig t₀ t₁).init actions) ↔
            ∀ t ∈ (turnMachine onnx config vadConfig t₀ t₁).transitions
              (turnMachine onnx config vadConfig t₀ t₁).init actions, ¬ ReturnsToIdle t)) := by
  refine ⟨⟨?_, ?_⟩, fun onnx t₀ t₁ actions s sole =>
    ⟨speechEndLaw_iff sole, fun long => returnsToSpeech_iff_of_long long sole⟩⟩
  · intro reported
    by_contra neither
    rw [not_or] at neither
    obtain ⟨s, sole, broken⟩ := not_speechEndLaw_segment config
      (pauses_of_not neither.1 neither.2)
    exact broken (reported loudness 0 0 _ s sole)
  · rintro (short | never) Sample Rnn _ _ onnx t₀ t₁ actions s sole
    · exact speechEndLaw_of_short short sole
    · exact speechEndLaw_of_neverEnds never sole

/-- With the default configuration, a pause of three chunks after which the user goes on. -/
theorem speechEndsReported_iff_resumed :
    ∃ s, SoleRun loudness {} {} 0 0 (script (stillEnv 0) [1, 1, 0, 0, 0, 1]) s ∧
      SpeechEndLaw loudness {}
        ((turnMachine loudness {} {} 0 0).transitions (turnMachine loudness {} {} 0 0).init
          (script (stillEnv 0) [1, 1, 0, 0, 0, 1])) := by
  have runs : ((turnMachine loudness {} {} 0 0).run (turnMachine loudness {} {} 0 0).init
      (script (stillEnv 0) [1, 1, 0, 0, 0, 1])).isSome := by
    decide +kernel
  obtain ⟨s, run⟩ := Option.isSome_iff_exists.mp runs
  have sole := soleRun_script le_rfl le_rfl run
  obtain ⟨lawful, stays⟩ := (speechEndsReported_iff {} {}).2 loudness 0 0 _ s sole
  refine ⟨s, sole, lawful.mpr ((stays (by decide)).mpr ?_)⟩
  decide +kernel

/-- With the default configuration, two loud chunks and ten quiet ones: the VAD
hears speech and comes back, and no end is reported. -/
theorem speechEnd_lost_default :
    ∃ s, SoleRun loudness {} {} 0 0
        (script (stillEnv 0) (List.replicate 2 1 ++ List.replicate 10 0)) s ∧
      ¬ SpeechEndLaw loudness {}
        ((turnMachine loudness {} {} 0 0).transitions (turnMachine loudness {} {} 0 0).init
          (script (stillEnv 0) (List.replicate 2 1 ++ List.replicate 10 0))) :=
  not_speechEndLaw_segment {} pauses_default

end Saasy.ListeningEngine
