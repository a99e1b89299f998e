import Mathlib.Logic.Function.Basic
import SaasyMediaEngine.Listening.Pauses

/-!
# One VAD for all sessions

`ListeningEngineServiceImpl` loads one `SileroVad` and hands it to the pipeline of
every session it creates: the RNN state, the context, the two counters and the
speech state are common property, and nothing resets them.  `serviceMachine` is
that service as far as turn detection goes, `observed` what the chunks of one
session see and emit.

The question is noninterference: two runs in which a session does the same, and
the others whatever they like, should look the same to it.  `noninterference_iff`
answers it schedule by schedule, where a schedule says of each `ProcessVadChunk`
call of the service only whether it is the session's own: they do look the same
exactly when no other session's chunk comes before the session's last one.

A session is never told of another one, so everything it can learn comes through the VAD.  Two
states are `Alike` to a session when they have the same VAD and the same pipeline for it; its own
steps keep this, and so does every step of another session other than a chunk.  That is one
direction, by induction over the first of the two runs, against the session's own part of it.

The other direction needs runs that can be told apart, for every pair of schedules that is
disturbed.  `loudness` is a model that goes by the last sample of its input alone, and two loud
chunks start speech.  The `scene` has quiet chunks throughout except for the session's last one and,
in one of the two runs, a single chunk of the other session before it: there the last chunk is the
second loud one, and the session sees speech that it did not hear.
-/

namespace Saasy.ListeningEngine

open Transition VadTurnPipeline

/-- The shared VAD and the pipelines of the sessions, which a session has from its `Control` call
on. -/
structure Service (Sample Rnn : Type*) where
  vad : SileroVad Sample Rnn
  pipelines : String → Option (VadTurnPipeline Sample)

/-- What a session does: `Control` creates and starts its pipeline; then come the steps of
`ProcessAudio`, each with what the session reads in it. -/
inductive SessionStep (Sample : Type*)
  | control (silenceStart speechStart : ℤ)
  | audio (resampled : List Sample)
  | vadChunk (env : ChunkEnv Sample)

structure ServiceAction (Sample : Type*) where
  session : String
  step : SessionStep Sample

namespace Service

variable {Sample Rnn : Type*}

/-- A session's pipeline next to the VAD it shares. -/
def view (s : Service Sample Rnn) (session : String) : Option (TurnState Sample Rnn) :=
  (s.pipelines session).map fun p => ⟨s.vad, p⟩

/-- A session's pipeline and the shared VAD after its own step. -/
def put (s : Service Sample Rnn) (session : String) (turn : TurnState Sample Rnn) :
    Service Sample Rnn where
  vad := turn.vad
  pipelines := Function.update s.pipelines session (some turn.pipeline)

@[simp] theorem view_put (s : Service Sample Rnn) (session : String)
    (turn : TurnState Sample Rnn) : (s.put session turn).view session = some turn := by
  simp [view, put]

@[simp] theorem put_put (s : Service Sample Rnn) (session : String)
    (turn turn' : TurnState Sample Rnn) : (s.put session turn).put session turn' =
      s.put session turn' := by
  simp [put]

end Service

section Machine

variable {Sample Rnn : Type*} (onnx : OnnxSession Sample Rnn) (config : TurnDetectorConfig)

/-- A step of a session's pipeline on the shared VAD; without `Control` there is no
pipeline, and no step. -/
def Service.turn (s : Service Sample Rnn) (session : String) (action : TurnAction Sample) :
    Option (Service Sample Rnn) :=
  (s.view session).bind fun turn => (turnStep onnx config turn action).map (s.put session)

/-- One step of the service, by one session. -/
def serviceStep (s : Service Sample Rnn) (a : ServiceAction Sample) :
    Option (Service Sample Rnn) :=
  match a.step with
  | .control t₀ t₁ => some (s.put a.session ⟨s.vad, .start t₀ t₁⟩)
  | .audio xs => s.turn onnx config a.session (.audio xs)
  | .vadChunk env => s.turn onnx config a.session (.vadChunk env)

/-- The service after `Initialize`: a fresh VAD and no session.  All pipelines use the one model
and the one configuration that it was initialized with. -/
def serviceMachine [Zero Sample] [Zero Rnn] (vadConfig : VadConfig) :
    Machine (Service Sample Rnn) (ServiceAction Sample) where
  init := ⟨.create vadConfig, fun _ => none⟩
  step := serviceStep onnx config

/-- What a session learns from a step: of its own chunks, the VAD state its pipeline
observes and the calls it makes. -/
def observed (session : String) (t : Taken (Service Sample Rnn) (ServiceAction Sample)) :
    List (VadState × List (TurnOutput Sample)) :=
  match t.action.step with
  | .vadChunk env =>
      if t.action.session = session then
        (t.before.view session).toList.map fun turn =>
          (t.after.vad.state, (turn.processChunk onnx config env).2)
      else []
  | _ => []

end Machine

/-! ### Schedules

A schedule says of each chunk whose it is, and nothing more.  Noninterference is a property of two
schedules and quantifies over everything else, the model and the audio included. -/

section Schedule

variable {Sample : Type*}

/-- Whether a `ProcessVadChunk` call is the session's own. -/
def ownCall (session : String) (a : ServiceAction Sample) : Option Bool :=
  match a.step with
  | .vadChunk _ => some (a.session = session)
  | _ => none

theorem ownCall_eq_some {session : String} {a : ServiceAction Sample} {b : Bool}
    (call : ownCall session a = some b) : b = decide (a.session = session) := by
  unfold ownCall at call
  split at call
  · exact (Option.some.inj call).symm
  · cases call

/-- The calls of a run, each as the session's own or not. -/
def schedule (session : String) (actions : List (ServiceAction Sample)) : List Bool :=
  actions.filterMap (ownCall session)

/-- What the session does itself, with all it reads: its audio, its clock readings
and the SmartTurn results on its own buffers. -/
def own (session : String) (actions : List (ServiceAction Sample)) :
    List (ServiceAction Sample) :=
  actions.filter fun a => a.session = session

/-- No other session's chunk comes before the session's last one. -/
def Undisturbed (calls : List Bool) : Prop :=
  ∀ front back, calls = front ++ false :: back → true ∉ back

end Schedule

/-- **Noninterference, for two schedules.**  Any two runs of the service on them in which
the session itself does the same give it the same observations: whatever model,
configurations and audio, and whatever the other sessions do. -/
def Noninterference (session : String) (calls calls' : List Bool) : Prop :=
  ∀ {Sample Rnn : Type} [Zero Sample] [Zero Rnn] (onnx : OnnxSession Sample Rnn)
    (config : TurnDetectorConfig) (vadConfig : VadConfig)
    (actions actions' : List (ServiceAction Sample)) (s s' : Service Sample Rnn),
    let M := serviceMachine onnx config vadConfig
    M.run M.init actions = some s → M.run M.init actions' = some s' →
    schedule session actions = calls → schedule session actions' = calls' →
    own session actions = own session actions' →
      (M.transitions M.init actions).flatMap (observed onnx config session) =
        (M.transitions M.init actions').flatMap (observed onnx config session)

/-! ### Undisturbed, a session sees only itself

The run is compared with that of the session alone, step by step.  Steps of others do not show as
long as they are no chunks, and once the session has had its last chunk nothing shows at all. -/

section Alone

variable {Sample Rnn : Type*} {onnx : OnnxSession Sample Rnn} {config : TurnDetectorConfig}

theorem Service.turn_eq_some {s t : Service Sample Rnn} {session : String}
    {action : TurnAction Sample} :
    s.turn onnx config session action = some t ↔ ∃ turn turn', s.view session = some turn ∧
      turnStep onnx config turn action = some turn' ∧ s.put session turn' = t := by
  simp [Service.turn, Option.bind_eq_some_iff]

/-- An undisturbed schedule stays undisturbed, and ends at another session's chunk. -/
theorem Undisturbed.tail {b : Bool} {calls : List Bool} (alone : Undisturbed (b :: calls)) :
    Undisturbed calls := by
  intro front back eq
  exact alone (b :: front) back (by rw [eq, List.cons_append])

theorem Undisturbed.head {calls : List Bool} (alone : Undisturbed (false :: calls)) :
    true ∉ calls := alone [] calls rfl

/-- A run without chunks of the session shows it nothing. -/
theorem observed_eq_nil (M : Machine (Service Sample Rnn) (ServiceAction Sample))
    {session : String} {actions : List (ServiceAction Sample)} (s : Service Sample Rnn)
    (none : true ∉ schedule session actions) :
    (M.transitions s actions).flatMap (observed onnx config session) = [] := by
  induction actions generalizing s with
  | nil => rfl
  | cons a rest ih =>
      cases step : M.step s a with
      | none => simp [Machine.transitions, step]
      | some t =>
          rw [schedule, List.filterMap_cons] at none
          have foreign : observed onnx config session ⟨s, a, t⟩ = [] := by
            obtain ⟨id, what⟩ := a
            cases what with
            | vadChunk env =>
                have other : id ≠ session := by
                  rintro rfl
                  simp [ownCall] at none
                simp [observed, other]
            | _ => rfl
          have later : true ∉ schedule session rest := by
            intro mem
            refine none ?_
            split
            · exact mem
            · exact List.mem_cons_of_mem _ mem
          rw [M.transitions_cons rest step, List.flatMap_cons, foreign, ih t later,
            List.append_nil]

/-- Two states of the service a session cannot tell apart: it only ever looks at the VAD and at its
own pipeline. -/
structure Alike (session : String) (s s' : Service Sample Rnn) : Prop where
  vad : s.vad = s'.vad
  pipeline : s.pipelines session = s'.pipelines session

theorem Alike.refl {session : String} (s : Service Sample Rnn) : Alike session s s := ⟨rfl, rfl⟩

theorem Alike.put {session : String} (s s' : Service Sample Rnn) (turn : TurnState Sample Rnn) :
    Alike session (s.put session turn) (s'.put session turn) :=
  ⟨rfl, by simp [Service.put]⟩

/-- The session's own step takes states it cannot tell apart to such states, and
shows it the same. -/
theorem Alike.ownStep {session : String} {s s' t : Service Sample Rnn}
    {a : ServiceAction Sample} (alike : Alike session s s') (mine : a.session = session)
    (step : serviceStep onnx config s a = some t) :
    ∃ t', serviceStep onnx config s' a = some t' ∧ Alike session t t' ∧
      observed onnx config session ⟨s, a, t⟩ = observed onnx config session ⟨s', a, t'⟩ := by
  obtain ⟨id, what⟩ := a
  obtain rfl : id = session := mine
  have view : s.view id = s'.view id := by
    rw [Service.view, Service.view, alike.vad, alike.pipeline]
  cases what with
  | control t₀ t₁ =>
      cases step
      refine ⟨_, rfl, ?_, rfl⟩
      rw [alike.vad]
      exact Alike.put s s' _
  | audio xs =>
      obtain ⟨turn, turn', hview, hturn, rfl⟩ := Service.turn_eq_some.mp step
      exact ⟨_, Service.turn_eq_some.mpr ⟨turn, turn', view ▸ hview, hturn, rfl⟩,
        Alike.put s s' turn', rfl⟩
  | vadChunk env =>
      obtain ⟨turn, turn', hview, hturn, rfl⟩ := Service.turn_eq_some.mp step
      refine ⟨_, Service.turn_eq_some.mpr ⟨turn, turn', view ▸ hview, hturn, rfl⟩,
        Alike.put s s' turn', ?_⟩
      simp [observed, ← view, hview, Service.put]

/-- Another session's step that is not a chunk is invisible. -/
theorem alike_of_foreign {session : String} {s t : Service Sample Rnn}
    {a : ServiceAction Sample} (other : a.session ≠ session) (noCall : ownCall session a = none)
    (step : serviceStep onnx config s a = some t) : Alike session t s := by
  obtain ⟨id, what⟩ := a
  cases what with
  | control t₀ t₁ =>
      cases step
      exact ⟨rfl, Function.update_of_ne (Ne.symm other) _ _⟩
  | audio xs =>
      obtain ⟨turn, turn', hview, hturn, rfl⟩ := Service.turn_eq_some.mp step
      obtain ⟨p, -, rfl⟩ := Option.map_eq_some_iff.mp hview
      cases hturn
      exact ⟨rfl, Function.update_of_ne (Ne.symm other) _ _⟩
  | vadChunk env => cases noCall

theorem Alike.trans {session : String} {s t r : Service Sample Rnn} (first : Alike session s t)
    (second : Alike session t r) : Alike session s r :=
  ⟨first.vad.trans second.vad, first.pipeline.trans second.pipeline⟩

variable (onnx config) in
/-- **A session left undisturbed observes what it would observe alone.** The run is compared with
the one that has only its own steps; the induction keeps the states alike up to its last chunk, and
after that there is nothing to observe. -/
theorem observed_own [Zero Sample] [Zero Rnn] (vadConfig : VadConfig) {session : String}
    {actions : List (ServiceAction Sample)} {s s' : Service Sample Rnn}
    (alone : Undisturbed (schedule session actions)) (alike : Alike session s s')
    (defined : ((serviceMachine onnx config vadConfig).run s actions).isSome) :
    ((serviceMachine onnx config vadConfig).transitions s actions).flatMap
        (observed onnx config session) =
      ((serviceMachine onnx config vadConfig).transitions s' (own session actions)).flatMap
        (observed onnx config session) := by
  set M := serviceMachine onnx config vadConfig
  induction actions generalizing s s' with
  | nil => rfl
  | cons a rest ih =>
      obtain ⟨final, hrun⟩ := Option.isSome_iff_exists.mp defined
      obtain ⟨t, step, hrest⟩ := M.run_cons_eq_some.mp hrun
      have runs : (M.run t rest).isSome := Option.isSome_iff_exists.mpr ⟨final, hrest⟩
      rw [M.transitions_cons rest step, List.flatMap_cons]
      by_cases mine : a.session = session
      · obtain ⟨t', step', after, same⟩ := alike.ownStep mine step
        have later : Undisturbed (schedule session rest) := by
          rw [schedule, List.filterMap_cons] at alone
          split at alone
          · exact alone
          · exact alone.tail
        rw [own, List.filter_cons_of_pos (by simpa using mine),
          M.transitions_cons _ step', List.flatMap_cons, same]
        exact congrArg _ (ih later after runs)
      · rw [own, List.filter_cons_of_neg (by simpa using mine)]
        have hidden : observed onnx config session ⟨s, a, t⟩ = [] := by
          obtain ⟨id, what⟩ := a
          cases what with
          | vadChunk env => exact if_neg mine
          | _ => rfl
        rw [hidden, List.nil_append]
        cases call : ownCall session a with
        | none =>
            have later : Undisturbed (schedule session rest) := by
              rw [schedule, List.filterMap_cons_none call] at alone
              exact alone
            exact ih later ((alike_of_foreign mine call step).trans alike) runs
        | some b =>
            -- the session has made its last call: nothing more to observe
            rw [schedule, List.filterMap_cons_some call, ownCall_eq_some call,
              decide_eq_false mine] at alone
            have none := alone.head
            have none' : true ∉ schedule session (own session rest) := by
              intro mem
              obtain ⟨c, hc, hcall⟩ := List.mem_filterMap.mp mem
              exact none (List.mem_filterMap.mpr ⟨c, List.mem_of_mem_filter hc, hcall⟩)
            exact (observed_eq_nil M t none).trans (observed_eq_nil M s' none').symm

end Alone

/-! ### Disturbed, a session can be made to hear another one

The model is `loudness` and speech starts with the second loud chunk.  Every chunk
is quiet but the session's last and, in one of the two runs, a single one of the
other session: there the session's last chunk is the second loud one. -/

section Disturbed

variable (config : TurnDetectorConfig)

/-- Speech starts after two loud chunks. -/
def slowStart : VadConfig := { minSpeechDurationMs := 64 }

/-- A chunk of equal samples: buffered, then processed. -/
def chunkOf (session : String) (x : ℚ) : List (ServiceAction ℚ) :=
  [⟨session, .audio (List.replicate kChunkSize x)⟩, ⟨session, .vadChunk (stillEnv 0)⟩]

/-- The chunks of two sessions, each `mine` or not. -/
def play (mine other : String) (chunks : List (Bool × ℚ)) : List (ServiceAction ℚ) :=
  chunks.flatMap fun c => chunkOf (if c.1 then mine else other) c.2

def quiet (calls : List Bool) : List (Bool × ℚ) := calls.map fun b => (b, 0)

theorem play_append (mine other : String) (xs ys : List (Bool × ℚ)) :
    play mine other (xs ++ ys) = play mine other xs ++ play mine other ys :=
  List.flatMap_append

/-- Both sessions have a pipeline with nothing left over. -/
def Ready (sessions : List String) (s : Service ℚ ℚ) : Prop :=
  ∀ id ∈ sessions, ∃ p, s.pipelines id = some p ∧ p.vadAccumulator = []

theorem Ready.put {sessions : List String} {s : Service ℚ ℚ} (ready : Ready sessions s)
    (id : String) {turn : TurnState ℚ ℚ} (drained : turn.pipeline.vadAccumulator = []) :
    Ready sessions (s.put id turn) := by
  intro id' mem
  rcases eq_or_ne id' id with rfl | ne
  · exact ⟨turn.pipeline, Function.update_self .., drained⟩
  · obtain ⟨p, hp, empty⟩ := ready id' mem
    exact ⟨p, (Function.update_of_ne ne ..).trans hp, empty⟩

/-- **One chunk of either session**: the VAD takes its step, and the chunk is observed by the
session it belongs to.  The accumulators are empty before and after, so that the next chunk of
either can be played as well. -/
theorem Ready.chunk {sessions : List String} {s : Service ℚ ℚ} (ready : Ready sessions s)
    {id : String} (mem : id ∈ sessions) (x : ℚ) (mine : String) :
    ∃ t context outputs,
      (serviceMachine loudness config slowStart).run s (chunkOf id x) = some t ∧
      Ready sessions t ∧
      t.vad = { s.vad with stateTensor := (0 : ℚ), contextBuffer := context }.updateState
        (loudnessOf x) ∧
      ((serviceMachine loudness config slowStart).transitions s (chunkOf id x)).flatMap
        (observed loudness config mine) = if id = mine then [(t.vad.state, outputs)] else [] := by
  set M := serviceMachine loudness config slowStart
  obtain ⟨p, hp, drained⟩ := ready id mem
  have size := length_replicate_chunk x
  have last := getLast?_replicate_chunk x
  rw [chunkOf]
  generalize List.replicate kChunkSize x = chunk at size last
  set turn : TurnState ℚ ℚ := ⟨s.vad, p⟩
  have view : s.view id = some turn := by rw [Service.view, hp]; rfl
  obtain ⟨context, processed⟩ := processChunk_loudness config (s := turn) drained size last
    (stillEnv 0)
  set after := ((turn.bufferAudio chunk).processChunk loudness config (stillEnv 0)).1
  have buffer : M.step s ⟨id, .audio chunk⟩ = some (s.put id (turn.bufferAudio chunk)) :=
    Service.turn_eq_some.mpr ⟨turn, _, view, rfl, rfl⟩
  have full : kChunkSize ≤ (turn.bufferAudio chunk).pipeline.vadAccumulator.length := by
    simp [TurnState.bufferAudio, turn, drained, size]
  have call : M.step (s.put id (turn.bufferAudio chunk)) ⟨id, .vadChunk (stillEnv 0)⟩ =
      some (s.put id after) :=
    Service.turn_eq_some.mpr ⟨_, after, Service.view_put .., turnStep_vadChunk.mpr ⟨full, rfl⟩,
      Service.put_put ..⟩
  have empty : after.pipeline.vadAccumulator = [] := by
    rw [TurnState.processChunk_vadAccumulator]
    simp [TurnState.bufferAudio, turn, drained, size]
  have vad : after.vad = _ := congrArg (fun r => r.1.vad) processed
  refine ⟨_, context, ((turn.bufferAudio chunk).processChunk loudness config (stillEnv 0)).2,
    M.run_cons_eq_some.mpr ⟨_, buffer, M.run_cons_eq_some.mpr ⟨_, call, rfl⟩⟩,
    ready.put id empty, vad, ?_⟩
  · rw [M.transitions_cons _ buffer, M.transitions_cons _ call]
    by_cases same : id = mine
    · subst same
      simp [observed, Service.put, Service.view]
    · simp [observed, same]

/-- The idle VAD has heard one loud chunk, or none.  That is all there is to know of it before
speech starts, and the session cannot see which it is. -/
structure Heard (loud : Bool) (s : Service ℚ ℚ) : Prop where
  config_eq : s.vad.config = slowStart
  idle : s.vad.state = .idle
  counted : s.vad.speechDurationMs = if loud then 32 else 0

/-- A quiet chunk is not counted. -/
theorem Heard.quiet {loud : Bool} {s t : Service ℚ ℚ} {context : List ℚ} (heard : Heard loud s)
    (vad : t.vad = { s.vad with stateTensor := (0 : ℚ), contextBuffer := context }.updateState
      (loudnessOf 0)) : Heard loud t := by
  set v : SileroVad ℚ ℚ := { s.vad with stateTensor := (0 : ℚ), contextBuffer := context }
  have below : loudnessOf 0 < v.config.threshold := by
    rw [show v.config = slowStart from heard.config_eq]
    decide +kernel
  rw [SileroVad.updateState_of_lt below, if_pos (show v.state = .idle from heard.idle)] at vad
  exact ⟨by rw [vad]; exact heard.config_eq, by rw [vad]; exact heard.idle,
    by rw [vad]; exact heard.counted⟩

/-- A loud chunk is the first one heard, or it starts speech. -/
theorem Heard.loud {loud : Bool} {s t : Service ℚ ℚ} {context : List ℚ} (heard : Heard loud s)
    (vad : t.vad = { s.vad with stateTensor := (0 : ℚ), contextBuffer := context }.updateState
      (loudnessOf 1)) :
    t.vad.state = (if loud then .speech else .idle) ∧ (loud = false → Heard true t) := by
  set v : SileroVad ℚ ℚ := { s.vad with stateTensor := (0 : ℚ), contextBuffer := context }
  have above : v.config.threshold ≤ loudnessOf 1 := by
    rw [show v.config = slowStart from heard.config_eq]
    decide +kernel
  rw [SileroVad.updateState_of_le above] at vad
  have state : t.vad.state = if loud then .speech else .idle := by
    rw [vad]
    simp only [v, heard.idle, heard.config_eq, heard.counted]
    cases loud <;> rfl
  refine ⟨state, ?_⟩
  rintro rfl
  refine ⟨by rw [vad]; exact heard.config_eq, state, ?_⟩
  rw [vad]
  simp only [v, heard.counted]
  rfl

section Play

variable {mine other : String}

theorem mem_sessions (mine other : String) (b : Bool) :
    (if b then mine else other) ∈ [mine, other] := by
  cases b <;> simp

/-- Quiet chunks of both sessions change nothing that counts. -/
theorem run_quiet (calls : List Bool) {loud : Bool} {s : Service ℚ ℚ}
    (ready : Ready [mine, other] s) (heard : Heard loud s) :
    ∃ t, (serviceMachine loudness config slowStart).run s (play mine other (quiet calls)) =
      some t ∧ Ready [mine, other] t ∧ Heard loud t := by
  induction calls generalizing s with
  | nil => exact ⟨s, rfl, ready, heard⟩
  | cons b rest ih =>
      obtain ⟨r, context, outputs, run, ready', vad, -⟩ :=
        ready.chunk config (mem_sessions mine other b) 0 mine
      obtain ⟨t, hrest, after⟩ := ih ready' (heard.quiet vad)
      refine ⟨t, ?_, after⟩
      rw [quiet, List.map_cons, ← List.singleton_append, play_append, Machine.run_append_eq_some]
      exact ⟨r, by simpa [play] using run, hrest⟩

/-- The chunks go through whatever is in them. -/
theorem run_play (chunks : List (Bool × ℚ)) {s : Service ℚ ℚ} (ready : Ready [mine, other] s) :
    ∃ t, (serviceMachine loudness config slowStart).run s (play mine other chunks) = some t := by
  induction chunks generalizing s with
  | nil => exact ⟨s, rfl⟩
  | cons c rest ih =>
      obtain ⟨r, context, outputs, run, ready', -, -⟩ :=
        ready.chunk config (mem_sessions mine other c.1) c.2 mine
      obtain ⟨t, hrest⟩ := ih ready'
      refine ⟨t, ?_⟩
      rw [← List.singleton_append, play_append, Machine.run_append_eq_some]
      exact ⟨r, by simpa [play] using run, hrest⟩

/-- Both sessions are created, and then their chunks are played. -/
def scene (mine other : String) (chunks : List (Bool × ℚ)) : List (ServiceAction ℚ) :=
  ⟨mine, .control 0 0⟩ :: ⟨other, .control 0 0⟩ :: play mine other chunks

theorem schedule_scene (ne : other ≠ mine) (chunks : List (Bool × ℚ)) :
    schedule mine (scene mine other chunks) = chunks.map Prod.fst := by
  have played : schedule mine (play mine other chunks) = chunks.map Prod.fst := by
    induction chunks with
    | nil => rfl
    | cons c rest ih =>
        rw [← List.singleton_append, play_append, schedule, List.filterMap_append,
          List.map_append]
        rw [schedule] at ih
        rw [ih]
        obtain ⟨b, x⟩ := c
        cases b <;> simp [play, chunkOf, List.filterMap_cons, ownCall, ne]
  exact played

/-- What the session does in a scene: its own chunks. -/
theorem own_scene (ne : other ≠ mine) (chunks : List (Bool × ℚ)) :
    own mine (scene mine other chunks) =
      ⟨mine, .control 0 0⟩ ::
        (chunks.filter Prod.fst).flatMap fun c => chunkOf mine c.2 := by
  have played : own mine (play mine other chunks) =
      (chunks.filter Prod.fst).flatMap fun c => chunkOf mine c.2 := by
    induction chunks with
    | nil => rfl
    | cons c rest ih =>
        rw [← List.singleton_append, play_append, own, List.filter_append, List.filter_append,
          List.flatMap_append]
        rw [own] at ih
        rw [ih]
        obtain ⟨b, x⟩ := c
        cases b <;> simp [play, chunkOf, ne]
  rw [scene, own, List.filter_cons_of_pos (by simp), List.filter_cons_of_neg (by simpa using ne)]
  exact congrArg _ played

/-- **The last chunk tells.**  Chunks that leave the VAD idle with `loud` known, the
session's last chunk, and then chunks of the other session: the last thing the
session observes is `speech` exactly when another loud chunk came before. -/
theorem observed_scene (ne : other ≠ mine) {before : List (Bool × ℚ)} (after : List Bool)
    (loud : Bool) (last : true ∉ after)
    (reached : ∀ s : Service ℚ ℚ, Ready [mine, other] s → Heard false s →
      ∃ t, (serviceMachine loudness config slowStart).run s (play mine other before) = some t ∧
        Ready [mine, other] t ∧ Heard loud t) :
    ∃ s front outputs,
      (serviceMachine loudness config slowStart).run
        (serviceMachine loudness config slowStart).init
          (scene mine other (before ++ (true, 1) :: quiet after)) = some s ∧
      ((serviceMachine loudness config slowStart).transitions
        (serviceMachine loudness config slowStart).init
          (scene mine other (before ++ (true, 1) :: quiet after))).flatMap
            (observed loudness config mine) =
        front ++ [(if loud then .speech else .idle, outputs)] := by
  set M := serviceMachine loudness config slowStart
  set created := (M.init.put mine ⟨M.init.vad, .start 0 0⟩).put other ⟨M.init.vad, .start 0 0⟩
  have open₁ : M.step M.init ⟨mine, .control 0 0⟩ =
    some (M.init.put mine ⟨M.init.vad, .start 0 0⟩) := rfl
  have open₂ : M.step (M.init.put mine ⟨M.init.vad, .start 0 0⟩) ⟨other, .control 0 0⟩ =
    some created := rfl
  have ready : Ready [mine, other] created := by
    intro id mem
    rcases eq_or_ne id other with rfl | other_ne
    · exact ⟨_, Function.update_self .., rfl⟩
    · have : id = mine := by simpa [other_ne] using mem
      subst this
      exact ⟨_, (Function.update_of_ne other_ne ..).trans (Function.update_self ..), rfl⟩
  obtain ⟨r, hbefore, ready', heard⟩ := reached created ready ⟨rfl, rfl, rfl⟩
  obtain ⟨t, context, outputs, hlast, ready'', vad, hobserved⟩ :=
    ready'.chunk config (List.mem_cons_self : mine ∈ [mine, other]) 1 mine
  obtain ⟨s, hafter⟩ := run_play config (quiet after) ready''
  have hchunks : play mine other (before ++ (true, 1) :: quiet after) =
      play mine other before ++ (chunkOf mine 1 ++ play mine other (quiet after)) := by
    rw [play_append, ← List.singleton_append, play_append]
    simp [play]
  have seen : (M.transitions r (chunkOf mine 1)).flatMap (observed loudness config mine) =
      [(if loud then .speech else .idle, outputs)] := by
    rw [← (heard.loud vad).1]
    exact hobserved.trans (if_pos rfl)
  have silent : (M.transitions t (play mine other (quiet after))).flatMap
      (observed loudness config mine) = [] := by
    refine observed_eq_nil M t ?_
    have calls := schedule_scene ne (quiet after)
    have same : schedule mine (scene mine other (quiet after)) =
        schedule mine (play mine other (quiet after)) := rfl
    rw [← same, calls, quiet, List.map_map]
    simpa using last
  refine ⟨s, (M.transitions created (play mine other before)).flatMap
    (observed loudness config mine), outputs, ?_, ?_⟩
  · rw [scene, hchunks, M.run_cons_eq_some]
    refine ⟨_, open₁, M.run_cons_eq_some.mpr ⟨_, open₂, ?_⟩⟩
    exact M.run_append_eq_some.mpr ⟨r, hbefore, M.run_append_eq_some.mpr ⟨t, hlast, hafter⟩⟩
  · rw [scene, hchunks, M.transitions_cons _ open₁, M.transitions_cons _ open₂,
      M.transitions_append _ hbefore, M.transitions_append _ hlast]
    simp only [List.flatMap_cons, List.flatMap_append, seen, silent, List.append_nil]
    rfl

theorem filter_quiet (calls : List Bool) :
    (quiet calls).filter Prod.fst = List.replicate (calls.count true) (true, 0) := by
  induction calls with
  | nil => rfl
  | cons b rest ih =>
      rw [quiet] at ih ⊢
      cases b <;> simp [ih, List.replicate_succ]

theorem map_fst_quiet (calls : List Bool) : (quiet calls).map Prod.fst = calls := by
  simp [quiet, Function.comp_def]

end Play

end Disturbed

/-! ### Exactly the undisturbed schedules

The other direction builds two runs from a schedule in which another session's chunk comes before
the session's last one, and lets that chunk be loud in one of them. -/

theorem Noninterference.symm {session : String} {calls calls' : List Bool}
    (quietly : Noninterference session calls calls') : Noninterference session calls' calls := by
  intro Sample Rnn _ _ onnx config vadConfig actions actions' s s' M run run' hcalls hcalls' same
  exact (quietly onnx config vadConfig actions' actions s' s run' run hcalls' hcalls
    same.symm).symm

/-- The session's own last call. -/
theorem exists_last_call {calls : List Bool} (called : true ∈ calls) :
    ∃ before after, calls = before ++ true :: after ∧ true ∉ after := by
  obtain ⟨after, before, eq, none⟩ := List.eq_append_cons_of_mem (List.mem_reverse.mpr called)
  refine ⟨before.reverse, after.reverse, ?_, by simpa using none⟩
  rw [← List.reverse_reverse calls, eq]
  simp

/-- Two scenes on schedules of equally many own calls: the session does the same in
both, and its last chunk tells it whether the other one was loud. -/
theorem not_noninterference {session : String} {calls calls' : List Bool}
    (counts : calls.count true = calls'.count true) (disturbed : ¬ Undisturbed calls) :
    ¬ Noninterference session calls calls' := by
  have ne : session ++ "'" ≠ session := by
    intro same
    have := congrArg String.length same
    simp [String.length_append] at this
  unfold Undisturbed at disturbed
  push Not at disturbed
  obtain ⟨front, back, rfl, called⟩ := disturbed
  obtain ⟨mid, after, rfl, last⟩ := exists_last_call called
  obtain ⟨before', after', rfl, last'⟩ : ∃ before after, calls' = before ++ true :: after ∧
      true ∉ after := by
    refine exists_last_call (List.count_pos_iff.mp ?_)
    rw [← counts]
    simp
  have silent := List.count_eq_zero.mpr last
  have silent' := List.count_eq_zero.mpr last'
  -- one loud chunk of the other session, in the first run only
  have loudOnce : ∀ s : Service ℚ ℚ, Ready [session, session ++ "'"] s → Heard false s →
      ∃ t, (serviceMachine loudness {} slowStart).run s
          (play session (session ++ "'") (quiet front ++ (false, 1) :: quiet mid)) = some t ∧
        Ready [session, session ++ "'"] t ∧ Heard true t := by
    intro s ready heard
    obtain ⟨r, hfront, ready₁, heard₁⟩ := run_quiet {} front ready heard
    obtain ⟨t, context, outputs, hloud, ready₂, vad, -⟩ :=
      ready₁.chunk {} (mem_sessions session (session ++ "'") false) 1 session
    obtain ⟨u, hmid, reached⟩ := run_quiet {} mid ready₂ ((heard₁.loud vad).2 rfl)
    refine ⟨u, ?_, reached⟩
    rw [play_append, Machine.run_append_eq_some]
    refine ⟨r, hfront, ?_⟩
    rw [← List.singleton_append, play_append, Machine.run_append_eq_some]
    exact ⟨t, by simpa [play] using hloud, hmid⟩
  obtain ⟨s, seen, outputs, run, observes⟩ := observed_scene {} ne after true last loudOnce
  obtain ⟨s', seen', outputs', run', observes'⟩ := observed_scene {} ne after' false last'
    fun s ready heard => run_quiet {} before' ready heard
  intro quietly
  have mine : before'.count true = front.count true + mid.count true := by
    simp only [List.count_append, List.count_cons, silent, silent'] at counts
    simp at counts
    omega
  have same := quietly loudness {} slowStart _ _ s s' run run'
    (by simp [schedule_scene ne, map_fst_quiet]) (by simp [schedule_scene ne, map_fst_quiet]) ?_
  · rw [observes, observes'] at same
    have := congrArg List.getLast? same
    simp at this
  · simp [own_scene ne, filter_quiet, silent, silent', mine, ← List.replicate_append_replicate]

/-- The calls of what the session does itself. -/
theorem schedule_own {Sample : Type*} (session : String) (actions : List (ServiceAction Sample)) :
    schedule session (own session actions) = (schedule session actions).filter id := by
  induction actions with
  | nil => rfl
  | cons a rest ih =>
      rw [schedule, schedule, own] at ih ⊢
      by_cases mine : a.session = session
      · rw [List.filter_cons_of_pos (by simpa using mine), List.filterMap_cons,
          List.filterMap_cons, ih]
        cases call : ownCall session a with
        | none => rfl
        | some b =>
            simp [ownCall_eq_some call, mine]
      · rw [List.filter_cons_of_neg (by simpa using mine), List.filterMap_cons, ih]
        cases call : ownCall session a with
        | none => rfl
        | some b =>
            simp [ownCall_eq_some call, mine]

/-- **When sessions do not interfere**: two schedules with equally many own calls
always look the same to the session exactly when in neither of them another
session's chunk comes before the session's last one. -/
theorem noninterference_iff (session : String) (calls calls' : List Bool) :
    Noninterference session calls calls' ↔
      (calls.count true = calls'.count true → Undisturbed calls ∧ Undisturbed calls') := by
  constructor
  · intro quietly counts
    constructor
    · by_contra disturbed
      exact not_noninterference counts disturbed quietly
    · by_contra disturbed
      exact not_noninterference counts.symm disturbed quietly.symm
  · rintro alone Sample Rnn _ _ onnx config vadConfig actions actions' s s' M run run' rfl rfl same
    have counts : (schedule session actions).count true =
        (schedule session actions').count true := by
      have filtered := congrArg (schedule session) same
      rw [schedule_own, schedule_own] at filtered
      have := congrArg (List.count true) filtered
      rwa [List.count_filter (by rfl), List.count_filter (by rfl)] at this
    obtain ⟨alone₁, alone₂⟩ := alone counts
    have first := observed_own onnx config vadConfig alone₁ (Alike.refl M.init)
      (Option.isSome_iff_exists.mpr ⟨s, run⟩)
    have second := observed_own onnx config vadConfig alone₂ (Alike.refl M.init)
      (Option.isSome_iff_exists.mpr ⟨s', run'⟩)
    rw [first, second, same]

/-- Another session's chunk, then the session's own: what the other one said shows. -/
theorem sessions_interfere : ¬ Noninterference "a" [false, true] [false, true] :=
  not_noninterference rfl fun alone => alone [] [true] rfl (by simp)

end Saasy.ListeningEngine
