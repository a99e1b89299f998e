import Mathlib.Data.List.Perm.Subperm
import SaasyMediaEngine.Control.DeviceLife
import SaasyMediaEngine.Listening.Teardown

/-!
# The tracks the sink is attached to

`CreateConsumer` attaches the sink to the track of a consumer before it registers the
consumer, and `Cleanup` detaches it from the tracks of the registered consumers.  Two courses
of the command leave something behind that `Cleanup` does not see: a consumer that replaces
another one under its id, whose track keeps the sink; and a consumer without a track, which
the transport keeps although the command fails.

`Attached` is the invariant up to there.  It counts: the sink is attached to as many tracks
as there are consumers, so that a consumer that is lost to the map shows in the numbers.

A command is run to its end here, on whatever mediasoupclient does in it, and `ConsumerCreation` is
the list of the ends of a `CreateConsumer`: refused, without a track, or registered.  No other
command touches the sink or the consumers, and one that creates a transport starts it without any
(`Unattached`).  The law of a step has two halves, and a course that leaves something behind breaks
the first one or the second: after a replacement the sink is attached to a track too many, and a
command without a track is answered with an error although the transport has one more consumer.
-/

namespace Saasy.ListeningEngine

open Transition Control Wire Codec Throwing

/-! ### What one command does

A command is run from its beginning to its end here, with what mediasoupclient does during it as a
parameter.  `executed_createConsumer` lists the courses of the one command that creates consumers;
that all others change neither the sink nor the consumers is one statement about them,
`Unattached`. -/

/-- A command, executed from the beginning to the end. -/
def Session.executed [Double.UndefinedCast] (s : Session) (command : Command) (outcome : Outcome) :
    Program.Ended Session (Answer CommandResult) Unit :=
  (executing (command.body outcome)).exec SessionOp.apply s

/-- The session after a consumer with a track was created. -/
def Session.consumed (consumerId : String) (s : Session) : Session :=
  let consumer : Consumer := ⟨s.objects, some (s.objects + 1), false⟩
  (SessionOp.registerConsumer consumerId consumer).apply
    ((SessionOp.addSink (s.objects + 1)).apply
      ((SessionOp.consume consumerId consumer).apply s))

/-- `CreateConsumer` finds a transport that returns a consumer, with or without a track. -/
def Session.Consumes (s : Session) (kind : MediaKind) (outcome : Outcome) (hasTrack : Bool) :
    Prop :=
  s.transport.isSome ∧ kind = .audio ∧ outcome.consume = .ok (some hasTrack)

/-- The courses of `CreateConsumer`: refused before anything was created, created without a track
and answered with an error, or registered and answered with its id. -/
inductive ConsumerCreation (s : Session) (consumerId : String) (kind : MediaKind)
    (outcome : Outcome) : Program.Ended Session (Answer CommandResult) Unit → Prop
  | refused (message : String) (none : ∀ hasTrack, ¬ s.Consumes kind outcome hasTrack) :
      ConsumerCreation s consumerId kind outcome ⟨s, [.error message], ()⟩
  | trackless (consumes : s.Consumes kind outcome false) :
      ConsumerCreation s consumerId kind outcome
        ⟨(SessionOp.consume consumerId ⟨s.objects, none, false⟩).apply s,
          [.error "Consumer has no track"], ()⟩
  | registered (consumes : s.Consumes kind outcome true) :
      ConsumerCreation s consumerId kind outcome
        ⟨s.consumed consumerId, [.ok (.createConsumer consumerId)], ()⟩

variable [Double.UndefinedCast]

theorem executed_createConsumer (s : Session) (consumerId : String) (kind : MediaKind)
    (outcome : Outcome) :
    ConsumerCreation s consumerId kind outcome
      (s.executed (.createConsumer consumerId kind) outcome) := by
  simp only [Session.executed, Command.body, executing, createConsumer, exec_catchWith,
    exec_read_bind, exec_require_bind, exec_call_bind, exec_require?_bind, exec_perform_bind]
  cases there : s.transport.isSome with
  | false => exact .refused _ fun _ consumes => absurd consumes.1 (by simp [there])
  | true =>
      by_cases audio : kind = .audio
      · subst audio
        cases consume : outcome.consume with
        | error message =>
            refine .refused message fun _ consumes => ?_
            have returns := consumes.2.2
            simp [consume] at returns
        | ok consumed =>
            cases consumed with
            | none =>
                refine .refused "Failed to create consumer" fun _ consumes => ?_
                have returns := consumes.2.2
                simp [consume] at returns
            | some hasTrack =>
                cases hasTrack with
                | false => exact .trackless ⟨there, rfl, consume⟩
                | true => exact .registered ⟨there, rfl, consume⟩
      · have other : (kind == .audio) = false := beq_false_of_ne audio
        rw [other]
        exact .refused _ fun _ consumes => audio consumes.2.1

/-- What the commands that create no consumer do to sink and consumers: nothing.  The transport
stays as well, or is replaced by one that has no consumers, and then the command succeeds. -/
structure Unattached (s : Session) (ended : Program.Ended Session (Answer CommandResult) Unit) :
    Prop where
  sinks : ended.state.sinks = s.sinks
  consumers : ended.state.consumers = s.consumers
  objects : s.objects ≤ ended.state.objects
  /-- The transport stays, or a command that succeeds creates another one. -/
  transport : ended.state.transport = s.transport ∨
    (∀ transport ∈ ended.state.transport, transport.consumers = []) ∧
      ∀ message, .error message ∉ ended.outputs

theorem executed_resumeConsumer (s : Session) (deviceConsumerId : String) (outcome : Outcome) :
    (s.executed (.resumeConsumer deviceConsumerId) outcome).state = s := by
  simp only [Session.executed, Command.body, executing, resumeConsumer, exec_catchWith, exec_bind,
    exec_read, exec_require]
  cases (s.consumers.lookup deviceConsumerId).isSome <;> rfl

theorem unattached_loadDevice (s : Session) (outcome : Outcome)
    (capabilities : RtpCapabilitiesFinalized) :
    Unattached s (s.executed (.loadDevice capabilities) outcome) := by
  cases there : s.device with
  | some device =>
      have executed : s.executed (.loadDevice capabilities) outcome =
        ⟨s, [.ok .loadDevice], ()⟩ := devices.executed_loadDevice_of_some rfl there
      rw [executed]
      exact ⟨rfl, rfl, le_rfl, .inl rfl⟩
  | none =>
      have executed := devices.executed_loadDevice_of_none
        (c := .loadDevice capabilities) (o := outcome) (s := s) rfl there
      change s.executed (.loadDevice capabilities) outcome = _ at executed
      rw [executed]
      cases devices.loading capabilities outcome with
      | ok loaded => exact ⟨rfl, rfl, Nat.le_succ _, .inl rfl⟩
      | error message => exact ⟨rfl, rfl, Nat.le_succ _, .inl rfl⟩

theorem unattached_createTransport (s : Session) (outcome : Outcome) (transportId : String) :
    Unattached s (s.executed (.createTransport transportId) outcome) := by
  cases there : s.device with
  | none =>
      have executed : s.executed (.createTransport transportId) outcome =
        ⟨s, [.error "Device not loaded yet"], ()⟩ :=
          devices.executed_createTransport_of_none rfl there
      rw [executed]
      exact ⟨rfl, rfl, le_rfl, .inl rfl⟩
  | some device =>
      have executed := devices.executed_createTransport_of_some
        (c := .createTransport transportId) (o := outcome) (s := s) rfl there
      change s.executed (.createTransport transportId) outcome = _ at executed
      rw [executed]
      cases (devices.outcome outcome).createTransport with
      | error message => exact ⟨rfl, rfl, Nat.le_succ _, .inl rfl⟩
      | ok created =>
          refine ⟨rfl, rfl, Nat.le_add_right _ 2, .inr ⟨?_, ?_⟩⟩
          · rintro transport ⟨⟩
            rfl
          · intro message failed
            cases List.mem_singleton.mp failed

theorem unattached_of_other (s : Session) (outcome : Outcome) {command : Command}
    (other : ∀ consumerId kind, command ≠ .createConsumer consumerId kind) :
    Unattached s (s.executed command outcome) := by
  cases command with
  | createConsumer consumerId kind => exact absurd rfl (other consumerId kind)
  | resumeConsumer deviceConsumerId =>
      have same := executed_resumeConsumer s deviceConsumerId outcome
      exact ⟨by rw [same], by rw [same], by rw [same], .inl (by rw [same])⟩
  | getDeviceRtpCapabilities =>
      have same : (s.executed .getDeviceRtpCapabilities outcome).state = s :=
        devices.executed_getDeviceRtpCapabilities rfl
      exact ⟨by rw [same], by rw [same], by rw [same], .inl (by rw [same])⟩
  | loadDevice capabilities => exact unattached_loadDevice s outcome capabilities
  | createTransport transportId => exact unattached_createTransport s outcome transportId

omit [Double.UndefinedCast]

/-! ### The invariant

Every object has a number of its own, so a track can be told from any other one, and what the sink
is attached to can be compared with what the map holds.  The two ways in which a command can break
it are lemmas of their own, since the exactness of the law rests on them. -/

/-- The sink is attached to the tracks of the registered consumers, one each. -/
structure Attached (s : Session) : Prop where
  tracks : ∀ track, track ∈ s.sinks ↔ track ∈ s.tracks
  nodup : s.sinks.Nodup
  count : s.sinks.length = s.consumers.length
  ordered : SortedMap.Ordered s.consumers
  /-- Tracks and consumers were created before now. -/
  older : ∀ track ∈ s.sinks, track < s.objects
  consumed : ∀ transport ∈ s.transport, ∀ entry ∈ transport.consumers, entry.2 < s.objects

theorem attached_created : Attached .created where
  tracks _ := Iff.rfl
  nodup := List.nodup_nil
  count := rfl
  ordered := List.Pairwise.nil
  older _ mem := absurd mem List.not_mem_nil
  consumed _ mem := absurd mem (Option.not_mem_none _)

variable {s : Session} {consumerId : String}

theorem Attached.of_unattached (attached : Attached s)
    {ended : Program.Ended Session (Answer CommandResult) Unit} (unattached : Unattached s ended) :
    Attached ended.state := by
  have tracks : ended.state.tracks = s.tracks := by
    rw [Session.tracks, unattached.consumers, Session.tracks]
  refine ⟨?_, ?_, ?_, ?_, ?_, ?_⟩
  · rw [tracks, unattached.sinks]
    exact attached.tracks
  · rw [unattached.sinks]
    exact attached.nodup
  · rw [unattached.sinks, unattached.consumers]
    exact attached.count
  · rw [unattached.consumers]
    exact attached.ordered
  · rw [unattached.sinks]
    exact fun track mem => (attached.older track mem).trans_le unattached.objects
  · intro transport mem entry here
    obtain same | ⟨empty, -⟩ := unattached.transport
    · exact (attached.consumed transport (same ▸ mem) entry here).trans_le unattached.objects
    · rw [empty transport mem] at here
      cases here

/-- The track of a new consumer is one the sink was not attached to. -/
theorem Attached.sinks_consumed (attached : Attached s) (consumerId : String) :
    (s.consumed consumerId).sinks = (s.objects + 1) :: s.sinks := by
  refine List.insert_of_not_mem fun mem => ?_
  exact absurd (attached.older _ mem) (Nat.not_lt.mpr (Nat.le_succ _))

theorem Attached.nodup_consumed (attached : Attached s) (consumerId : String) :
    (s.consumed consumerId).sinks.Nodup :=
  attached.nodup.insert

/-- What the transport has consumed is older than what is created next. -/
theorem Attached.consumed_of_consume (attached : Attached s) (consumer : Consumer)
    (new : consumer.object = s.objects) :
    ∀ transport ∈ ((SessionOp.consume consumerId consumer).apply s).transport,
      ∀ entry ∈ transport.consumers, entry.2 < s.objects + 2 := by
  intro transport mem entry here
  obtain ⟨old, found, rfl⟩ := Option.map_eq_some_iff.mp mem
  obtain rfl | before := SortedMap.mem_of_mem_insert here
  · show consumer.object < s.objects + 2
    rw [new]
    exact Nat.lt_add_of_pos_right two_pos
  · exact (attached.consumed old found entry before).trans (Nat.lt_add_of_pos_right two_pos)

/-- **A consumer under a new id** is registered together with its track, so that one more track
stands against one more consumer. -/
theorem Attached.consumed_of_free (attached : Attached s)
    (free : s.consumers.lookup consumerId = none) : Attached (s.consumed consumerId) := by
  refine ⟨fun track => ⟨fun mem => ?_, fun mem => ?_⟩, attached.nodup_consumed consumerId, ?_,
    attached.ordered.insert _ _, fun track mem => ?_, attached.consumed_of_consume _ rfl⟩
  · refine Teardown.mem_tracks_registerConsumer free ?_
    rw [attached.sinks_consumed] at mem
    obtain new | old := List.mem_cons.mp mem
    · exact .inr (congrArg some new.symm)
    · exact .inl ((attached.tracks track).mp old)
  · rw [attached.sinks_consumed]
    obtain ⟨entry, registered, isTrack⟩ := List.mem_filterMap.mp mem
    obtain rfl | old := SortedMap.mem_of_mem_insert registered
    · cases isTrack
      exact List.mem_cons_self
    · refine List.mem_cons_of_mem _ ((attached.tracks track).mpr ?_)
      exact List.mem_filterMap.mpr ⟨entry, old, isTrack⟩
  · have grown := attached.ordered.length_insert consumerId
      (⟨s.objects, some (s.objects + 1), false⟩ : Consumer)
    rw [if_pos free] at grown
    rw [attached.sinks_consumed, List.length_cons, attached.count]
    exact grown.symm
  · rw [attached.sinks_consumed] at mem
    show track < s.objects + 2
    obtain rfl | old := List.mem_cons.mp mem
    · exact Nat.lt_succ_self _
    · exact (attached.older track old).trans (Nat.lt_add_of_pos_right two_pos)

/-- **A consumer that replaces another one** leaves the sink attached to more tracks than there are
consumers: the map keeps its size, and the old track keeps the sink. -/
theorem Attached.not_tracks_of_taken (attached : Attached s)
    (taken : s.consumers.lookup consumerId ≠ none) :
    ¬ ∀ track, track ∈ (s.consumed consumerId).sinks ↔
      track ∈ (s.consumed consumerId).tracks := by
  intro tracks
  have inside : (s.consumed consumerId).sinks ⊆ (s.consumed consumerId).tracks :=
    fun track mem => (tracks track).mp mem
  have fewer : (s.consumed consumerId).sinks.length ≤ (s.consumed consumerId).consumers.length :=
    (List.subperm_of_subset (attached.nodup_consumed consumerId) inside).length_le.trans
      (List.length_filterMap_le _ _)
  have kept := attached.ordered.length_insert consumerId
    (⟨s.objects, some (s.objects + 1), false⟩ : Consumer)
  rw [if_neg taken] at kept
  rw [attached.sinks_consumed, List.length_cons, attached.count] at fewer
  exact absurd (fewer.trans_eq kept) (Nat.not_succ_le_self _)

/-- **A consumer without a track** stays with the transport, which has created it; no map of the
session leads to it. -/
theorem Attached.transport_consumes (attached : Attached s) (there : s.transport.isSome) :
    ((SessionOp.consume consumerId ⟨s.objects, none, false⟩).apply s).transport.map
      RecvTransport.consumers ≠ s.transport.map RecvTransport.consumers := by
  obtain ⟨transport, found⟩ := Option.isSome_iff_exists.mp there
  intro same
  simp only [SessionOp.apply, found, Option.map_some, Option.some.injEq] at same
  have mem := SortedMap.mem_insert_self consumerId s.objects transport.consumers
  rw [same] at mem
  exact absurd (attached.consumed transport found _ mem) (Nat.lt_irrefl _)

/-! ### What registers a consumer

The condition on a command.  It looks at what the transport returns and at the ids that are taken,
both of which are there before the command has changed anything. -/

/-- A consumer that the transport returns has a track, and an id that no registered consumer
has. -/
def Registers (s : Session) (action : Command × Outcome) : Prop :=
  ∀ consumerId kind, action.1 = .createConsumer consumerId kind →
    ∀ hasTrack, s.Consumes kind action.2 hasTrack →
      hasTrack = true ∧ s.consumers.lookup consumerId = none

theorem registers_createConsumer {kind : MediaKind} {outcome : Outcome} {hasTrack : Bool}
    (consumes : s.Consumes kind outcome hasTrack) :
    Registers s (.createConsumer consumerId kind, outcome) ↔
      hasTrack = true ∧ s.consumers.lookup consumerId = none := by
  refine ⟨fun registers => registers consumerId kind rfl hasTrack consumes, ?_⟩
  rintro both _ _ ⟨⟩ other consumes'
  have same := consumes.2.2.symm.trans consumes'.2.2
  simp only [Except.ok.injEq, Option.some.injEq] at same
  exact same ▸ both

/-! ### The law

A law for a step, so that a run is lawful if its steps are.  A command that is answered with an
error has to leave everything as it was; one that succeeds has to leave the sink attached as the
invariant says. -/

section

variable [Double.UndefinedCast]

/-- **The law of attachment**, for a step: the sink is attached to the tracks of the
consumers, and a command answered with an error leaves sink, consumers and the consumers of
the transport as they were. -/
structure AttachLaw (t : Taken Session (Command × Outcome)) : Prop where
  tracks : ∀ track, track ∈ t.after.sinks ↔ track ∈ t.after.tracks
  failed : ∀ message, .error message ∈ listeningEngine.answers t →
    t.after.sinks = t.before.sinks ∧ t.after.consumers = t.before.consumers ∧
      t.after.transport.map RecvTransport.consumers =
        t.before.transport.map RecvTransport.consumers

/-- **One `CreateConsumer`** is lawful exactly if it registers what it creates, and nothing else
under its id.  The two ways to break the law are those of the header. -/
theorem attachLaw_createConsumer (attached : Attached s) (kind : MediaKind) (outcome : Outcome) :
    AttachLaw ⟨s, (.createConsumer consumerId kind, outcome),
        (s.executed (.createConsumer consumerId kind) outcome).state⟩ ↔
      Registers s (.createConsumer consumerId kind, outcome) := by
  have answers : ∀ (t : Session) (answer : Answer CommandResult),
      answer ∈ listeningEngine.answers ⟨s, (.createConsumer consumerId kind, outcome), t⟩ ↔
        answer ∈ (s.executed (.createConsumer consumerId kind) outcome).outputs :=
    fun _ _ => Iff.rfl
  have creation := executed_createConsumer s consumerId kind outcome
  generalize s.executed (.createConsumer consumerId kind) outcome = ended at creation answers ⊢
  cases creation with
  | refused message none =>
      refine iff_of_true ⟨attached.tracks, fun _ _ => ⟨rfl, rfl, rfl⟩⟩ ?_
      rintro _ _ ⟨⟩ hasTrack consumes
      exact absurd consumes (none hasTrack)
  | trackless consumes =>
      rw [registers_createConsumer consumes]
      refine iff_of_false (fun law => ?_) fun registers => Bool.noConfusion registers.1
      have failed := law.failed _ ((answers _ _).mpr (List.mem_singleton_self _))
      exact attached.transport_consumes consumes.1 failed.2.2
  | registered consumes =>
      rw [registers_createConsumer consumes]
      constructor
      · intro law
        by_contra taken
        exact attached.not_tracks_of_taken (fun free => taken ⟨rfl, free⟩) law.tracks
      · rintro ⟨-, free⟩
        refine ⟨(attached.consumed_of_free free).tracks, fun message failed => ?_⟩
        cases List.mem_singleton.mp ((answers _ _).mp failed)

/-- **One command** is lawful exactly if it registers the consumer that it creates, if it creates
one.  All other commands are lawful. -/
theorem attachLaw_step (attached : Attached s) (action : Command × Outcome) :
    AttachLaw ⟨s, action, (s.executed action.1 action.2).state⟩ ↔ Registers s action := by
  obtain ⟨command, outcome⟩ := action
  by_cases creates : ∃ consumerId kind, command = .createConsumer consumerId kind
  · obtain ⟨consumerId, kind, rfl⟩ := creates
    exact attachLaw_createConsumer attached kind outcome
  · have unattached := unattached_of_other s outcome
      fun consumerId kind same => creates ⟨consumerId, kind, same⟩
    refine iff_of_true ⟨(attached.of_unattached unattached).tracks, fun message failed => ?_⟩
      fun consumerId kind same => absurd ⟨consumerId, kind, same⟩ creates
    refine ⟨unattached.sinks, unattached.consumers, ?_⟩
    obtain same | ⟨-, succeeds⟩ := unattached.transport
    · exact congrArg _ same
    · exact absurd failed (succeeds message)

/-- A command that registers what it creates keeps the sink attached to the consumers. -/
theorem attached_step (attached : Attached s) (action : Command × Outcome)
    (registers : Registers s action) : Attached (s.executed action.1 action.2).state := by
  obtain ⟨command, outcome⟩ := action
  by_cases creates : ∃ consumerId kind, command = .createConsumer consumerId kind
  · obtain ⟨consumerId, kind, rfl⟩ := creates
    have creation := executed_createConsumer s consumerId kind outcome
    generalize s.executed (.createConsumer consumerId kind) outcome = ended at creation ⊢
    cases creation with
    | refused message none => exact attached
    | trackless consumes => exact Bool.noConfusion (registers consumerId kind rfl false consumes).1
    | registered consumes =>
        exact attached.consumed_of_free (registers consumerId kind rfl true consumes).2
  · exact attached.of_unattached (unattached_of_other s outcome
      fun consumerId kind same => creates ⟨consumerId, kind, same⟩)

end

/-! ### After the last command

`Cleanup` detaches the sink from the tracks of the consumers that are registered when it begins,
and closes these.  The commands are over here, and what happens when one is still under way is the
subject of `Listening.Teardown`.  A track that has lost its consumer to another one is not among
those that are detached. -/

/-- What `Cleanup` does to a session whose command thread has nothing left to do. -/
def Session.cleaned (s : Session) : Session :=
  ({ s.detachSinks with consumers := [] } : Session).closeTransport

theorem run_cleanup [Double.UndefinedCast] (session : Session) :
    teardown.run ⟨session, true, .empty, .checking, cleanupSteps⟩
      (List.replicate 9 .cleanup ++ [.thread, .cleanup]) =
        some ⟨session.cleaned, false, CommandQueue.empty.stop, .exited, []⟩ := rfl

theorem Attached.sinks_cleaned (attached : Attached s) : s.cleaned.sinks = [] := by
  refine List.filter_eq_nil_iff.mpr fun track mem => ?_
  simpa using (attached.tracks track).mp mem

/-- **The sink is attached exactly to the tracks of the consumers, and to none after
`Cleanup`, exactly when** every consumer that is created has a track and an id of its own. -/
theorem attachLaw_iff [Double.UndefinedCast] (actions : List (Command × Outcome)) :
    ((∀ t ∈ (commandMachine listeningEngine .created).transitions .created actions,
        AttachLaw t) ∧
      ∀ s, (commandMachine listeningEngine .created).run .created actions = some s →
        s.cleaned.sinks = []) ↔
      (commandMachine listeningEngine .created).Meets Registers .created actions := by
  have preserved : ∀ s action t, Attached s → Registers s action →
      (commandMachine listeningEngine .created).step s action = some t → Attached t := by
    rintro s action _ attached registers ⟨⟩
    exact attached_step attached action registers
  have steps : (∀ t ∈ (commandMachine listeningEngine .created).transitions .created actions,
      AttachLaw t) ↔
        (commandMachine listeningEngine .created).Meets Registers .created actions := by
    refine (commandMachine listeningEngine .created).forall_transitions_iff ?_ preserved
      attached_created actions
    rintro s action _ attached ⟨⟩
    exact attachLaw_step attached action
  refine ⟨fun law => steps.mp law.1, fun registers => ⟨steps.mpr registers, fun s reached => ?_⟩⟩
  exact ((commandMachine listeningEngine .created).invariant_of_meets preserved attached_created
    reached registers).sinks_cleaned

/-- Two consumers with one id: `Cleanup` leaves the sink attached to the track of the first. -/
theorem sink_left_attached :
    letI := Double.x86Cast
    ∃ actions s, (commandMachine listeningEngine .created).run .created actions = some s ∧
      s.sinks = [6, 4] ∧ s.tracks = [6] ∧ s.cleaned.sinks = [4] := by
  let := Double.x86Cast
  let actions : List (Command × Outcome) :=
    [(.loadDevice ⟨[], []⟩, succeeding), (.createTransport "transport", succeeding),
      (.createConsumer "consumer" .audio, succeeding),
      (.createConsumer "consumer" .audio, succeeding)]
  have final : ((commandMachine listeningEngine .created).run .created actions).map
      (fun s => (s.sinks, s.tracks, s.cleaned.sinks)) = some ([6, 4], [6], [4]) := by
    decide +kernel
  obtain ⟨s, reached, ended⟩ := Option.map_eq_some_iff.mp final
  simp only [Prod.mk.injEq] at ended
  exact ⟨actions, s, reached, ended⟩

end Saasy.ListeningEngine
