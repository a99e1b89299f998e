import SaasyMediaEngine.Control.CommandRuns
import SaasyMediaEngine.Listening.Commands
import SaasyMediaEngine.Speaking.Commands

/-!
# A session's device and transport over its commands

`LoadDevice` and `CreateTransport` change the session before the calls that can throw, and
nothing changes it back.  After a failed `LoadDevice` the session has a device that is not
loaded, which the next `LoadDevice` takes for a loaded one; after a failed
`CreateTransport` it has a new listener, and the old one, which the transport still calls,
is destroyed.

`DeviceEngine` says how an engine has the commands on devices among its own.  What is
proved about the runs of its commands is an `iff` each time: the session is as it should be
after every command exactly when no command fails in that window.

Both engines have these commands, over sessions and among other commands of their own.  So the
laws are stated over a `DeviceEngine`: a view of the session as far as it matters here
(`DeviceSession`), with the proof that the other commands of the engine leave it alone
(`Keeps`).  The two instances at the end are the two engines.

The source means to be strict about this.  `LoadDevice` answers a session that has a device with
success because the device was loaded before, and `CreateTransport` tests the device for that
reason; neither test tells a device that is loaded from one on which `Load` has thrown.
-/

namespace Saasy.Control

open Transition Wire Throwing

/-- The commands that the engines share, and the only ones that create a device or a transport. -/
inductive DeviceCommand where
  | loadDevice (routerRtpCapabilities : RtpCapabilitiesFinalized)
  | getDeviceRtpCapabilities
  | createTransport (transportId : String)

/-- `Execute`. -/
def DeviceCommand.body [Double.UndefinedCast] {Op Session Result : Type}
    (access : DeviceAccess Op Session Result) (command : DeviceCommand) (outcome : DeviceOutcome) :
    CommandM Op Session Result Unit :=
  match command with
  | .loadDevice routerRtpCapabilities => Control.loadDevice access routerRtpCapabilities outcome
  | .getDeviceRtpCapabilities => Control.getDeviceRtpCapabilities access outcome
  | .createTransport transportId => Control.createTransport access transportId outcome

/-! ### What the commands see

Both engines have the three commands on the device, with sessions of different types.
`DeviceEngine` is what is used of either: the members that these commands change, and that no other
command changes them. -/

/-- The members of a session that these commands change, in whichever engine, with the count of the
objects that were created. -/
structure DeviceSession (Transport : Type) where
  device : Option Device
  transportListener : Option TransportListener
  transport : Option Transport
  objects : ℕ

namespace DeviceSession

variable {Transport : Type}

def newDevice (object : ℕ) (s : DeviceSession Transport) : DeviceSession Transport :=
  { s with device := some ⟨object, false⟩, objects := s.objects + 1 }

def deviceLoaded (s : DeviceSession Transport) : DeviceSession Transport :=
  { s with device := s.device.map ({ · with loaded := true }) }

def newTransportListener (listener : TransportListener) (s : DeviceSession Transport) :
    DeviceSession Transport :=
  { s with transportListener := some listener, objects := s.objects + 1 }

def resetTransport (transport : Transport) (s : DeviceSession Transport) :
    DeviceSession Transport :=
  { s with transport := some transport, objects := s.objects + 1 }

/-- What a command that is not one of these leaves alone: a transport may change, but not the
listener it was created with. -/
structure Keeps (listener : Transport → Option ℕ) (s t : DeviceSession Transport) : Prop where
  device : t.device = s.device
  transportListener : t.transportListener = s.transportListener
  listener : t.transport.map listener = s.transport.map listener
  objects : s.objects ≤ t.objects

theorem Keeps.rfl {listener : Transport → Option ℕ} {s : DeviceSession Transport} :
    Keeps listener s s :=
  ⟨Eq.refl _, Eq.refl _, Eq.refl _, le_rfl⟩

theorem Keeps.trans {listener : Transport → Option ℕ} {r s t : DeviceSession Transport}
    (first : Keeps listener r s) (second : Keeps listener s t) : Keeps listener r t where
  device := second.device.trans first.device
  transportListener := second.transportListener.trans first.transportListener
  listener := second.listener.trans first.listener
  objects := first.objects.trans second.objects

end DeviceSession

/-- An engine with these commands: how they reach the session, and that its other commands keep
what they see.  Both engines are instances, and a law about devices is proved once for both. -/
structure DeviceEngine [Double.UndefinedCast] (E : Engine) (Transport : Type) where
  access : DeviceAccess E.Op E.Session E.Result
  outcome : E.Outcome → DeviceOutcome
  command : E.Command → Option DeviceCommand
  view : E.Session → DeviceSession Transport
  create (object : ℕ) (listener : Option ℕ) : Transport
  listener : Transport → Option ℕ
  listener_create : ∀ object l, listener (create object l) = l
  device_eq : ∀ s, access.device s = (view s).device
  transportListener_eq : ∀ s, access.transportListener s = (view s).transportListener
  objects_eq : ∀ s, access.objects s = (view s).objects
  newDevice_eq : ∀ object s, view (E.apply (access.newDevice object) s) =
    (view s).newDevice object
  deviceLoaded_eq : ∀ s, view (E.apply access.deviceLoaded s) = (view s).deviceLoaded
  newTransportListener_eq : ∀ l s, view (E.apply (access.newTransportListener l) s) =
    (view s).newTransportListener l
  resetTransport_eq : ∀ object l s, view (E.apply (access.resetTransport object l) s) =
    (view s).resetTransport (create object l)
  execute_eq : ∀ c deviceCommand, command c = some deviceCommand → ∀ o,
    E.execute c o = executing (deviceCommand.body access (outcome o))
  keeps : ∀ c, command c = none → ∀ s o,
    (view s).Keeps listener (view (E.executed s (c, o)).state)

namespace DeviceEngine

variable [Double.UndefinedCast] {E : Engine} {Transport : Type} (D : DeviceEngine E Transport)

/-! ### What one command does

A command is run to its end here, as the command thread does when nobody removes the session.  The
courses of each of the three are written out as equations. -/

/-- What `LoadDevice` does after `make_unique<Device>()`, up to the response. -/
def loading (routerRtpCapabilities : RtpCapabilitiesFinalized) (outcome : E.Outcome) :
    Except String Unit :=
  routerRtpCapabilitiesJson routerRtpCapabilities >>= (D.outcome outcome).load

/-- `LoadDevice` on a session that has a device. -/
theorem executed_loadDevice_of_some {c : E.Command} {o : E.Outcome}
    {capabilities : RtpCapabilitiesFinalized} {s : E.Session} {device : Device}
    (command : D.command c = some (.loadDevice capabilities))
    (loaded : (D.view s).device = some device) :
    E.executed s (c, o) = ⟨s, [.ok D.access.loadDeviceResponse], ()⟩ := by
  have there : D.access.device s = some device := (D.device_eq s).trans loaded
  rw [Engine.executed, D.execute_eq c _ command]
  simp only [executing, DeviceCommand.body, loadDevice, exec_catchWith, exec_bind, exec_read,
    there, Option.isSome_some, if_true, invokeCallback, exec_output, List.nil_append]

/-- `LoadDevice` on a session that has none. -/
theorem executed_loadDevice_of_none {c : E.Command} {o : E.Outcome}
    {capabilities : RtpCapabilitiesFinalized} {s : E.Session}
    (command : D.command c = some (.loadDevice capabilities))
    (missing : (D.view s).device = none) :
    E.executed s (c, o) =
      match D.loading capabilities o with
      | .ok () =>
          ⟨E.apply D.access.deviceLoaded (E.apply (D.access.newDevice (D.view s).objects) s),
            [.ok D.access.loadDeviceResponse], ()⟩
      | .error message =>
          ⟨E.apply (D.access.newDevice (D.view s).objects) s, [.error message], ()⟩ := by
  have gone : D.access.device s = none := (D.device_eq s).trans missing
  rw [Engine.executed, D.execute_eq c _ command, loading]
  simp only [executing, DeviceCommand.body, loadDevice, exec_catchWith, exec_bind, exec_read,
    gone, Option.isSome_none, Bool.false_eq_true, if_false, exec_perform, exec_call, D.objects_eq]
  cases routerRtpCapabilitiesJson capabilities with
  | error message => rfl
  | ok json =>
      dsimp only [Bind.bind, Except.bind]
      cases (D.outcome o).load json with
      | error message => rfl
      | ok loaded => rfl

/-- `GetDeviceRtpCapabilities` changes nothing. -/
theorem executed_getDeviceRtpCapabilities {c : E.Command} {o : E.Outcome} {s : E.Session}
    (command : D.command c = some .getDeviceRtpCapabilities) :
    (E.executed s (c, o)).state = s := by
  rw [Engine.executed, D.execute_eq c _ command]
  simp only [executing, DeviceCommand.body, getDeviceRtpCapabilities, exec_catchWith, exec_bind,
    exec_read, exec_require, exec_call]
  cases (D.access.device s).isSome with
  | false => rfl
  | true =>
      cases (D.outcome o).getRtpCapabilities with
      | error message => rfl
      | ok json =>
          simp only [if_true]
          cases RtpCapabilities.jsonToProto json <;> rfl

/-- `CreateTransport` on a session that has no device. -/
theorem executed_createTransport_of_none {c : E.Command} {o : E.Outcome} {transportId : String}
    {s : E.Session} (command : D.command c = some (.createTransport transportId))
    (missing : (D.view s).device = none) :
    E.executed s (c, o) = ⟨s, [.error "Device not loaded yet"], ()⟩ := by
  have gone : D.access.device s = none := (D.device_eq s).trans missing
  rw [Engine.executed, D.execute_eq c _ command]
  simp only [executing, DeviceCommand.body, createTransport, exec_catchWith, exec_bind, exec_read,
    gone, Option.isSome_none, Bool.false_eq_true, if_false, exec_require, List.nil_append]

/-- `CreateTransport` on a session that has one. -/
theorem executed_createTransport_of_some {c : E.Command} {o : E.Outcome} {transportId : String}
    {s : E.Session} {device : Device} (command : D.command c = some (.createTransport transportId))
    (there : (D.view s).device = some device) :
    let listener : TransportListener := ⟨(D.view s).objects, transportId⟩
    let listening := E.apply (D.access.newTransportListener listener) s
    E.executed s (c, o) =
      match (D.outcome o).createTransport with
      | .ok () =>
          ⟨E.apply (D.access.resetTransport ((D.view s).objects + 1) (some listener.object))
            listening, [.ok D.access.createTransportResponse], ()⟩
      | .error message => ⟨listening, [.error message], ()⟩ := by
  intro listener listening
  have loaded : D.access.device s = some device := (D.device_eq s).trans there
  have listens : D.access.transportListener listening = some listener := by
    rw [D.transportListener_eq, D.newTransportListener_eq]
    rfl
  have objects : D.access.objects listening = (D.view s).objects + 1 := by
    rw [D.objects_eq, D.newTransportListener_eq]
    rfl
  rw [Engine.executed, D.execute_eq c _ command]
  simp only [executing, DeviceCommand.body, createTransport, exec_catchWith, exec_bind, exec_read,
    loaded, Option.isSome_some, if_true, exec_require, exec_perform, exec_call, D.objects_eq s]
  cases (D.outcome o).createTransport with
  | error message => rfl
  | ok created =>
      rw [← objects, ← Option.map_some, ← listens]
      rfl

/-! ### A failed load

`LoadDevice` creates the device before it loads it, and does not take it back when the load throws.
So an error leaves a device behind that is not loaded, and the next `LoadDevice` finds it and takes
it for a loaded one. -/

/-- **The law of loading**, for a step: a `LoadDevice` answered with an error leaves the device
as it was, and one answered with success leaves a loaded device. -/
structure LoadLaw (t : Taken E.Session (E.Command × E.Outcome)) : Prop where
  failed : ∀ capabilities, D.command t.action.1 = some (.loadDevice capabilities) →
    ∀ message, .error message ∈ E.answers t → (D.view t.after).device = (D.view t.before).device
  succeeded : ∀ capabilities, D.command t.action.1 = some (.loadDevice capabilities) →
    ∀ response, .ok response ∈ E.answers t →
      ∃ device, (D.view t.after).device = some device ∧ device.loaded = true

/-- A `LoadDevice` that finds no device does not fail. -/
def LoadsDevice (s : E.Session) (action : E.Command × E.Outcome) : Prop :=
  ∀ capabilities, D.command action.1 = some (.loadDevice capabilities) →
    (D.view s).device = none → D.loading capabilities action.2 = .ok ()

/-- A device, if there is one, is loaded. -/
def DeviceLoaded (s : E.Session) : Prop :=
  ∀ device, (D.view s).device = some device → device.loaded = true

/-- Only `LoadDevice` changes the device. -/
theorem device_of_executed {s : E.Session} {action : E.Command × E.Outcome}
    (other : ∀ capabilities, D.command action.1 ≠ some (.loadDevice capabilities)) :
    (D.view (E.executed s action).state).device = (D.view s).device := by
  obtain ⟨c, o⟩ := action
  cases command : D.command c with
  | none => exact (D.keeps c command s o).device
  | some deviceCommand =>
      cases deviceCommand with
      | loadDevice capabilities => exact absurd command (other capabilities)
      | getDeviceRtpCapabilities => rw [D.executed_getDeviceRtpCapabilities command]
      | createTransport transportId =>
          cases there : (D.view s).device with
          | none => rw [D.executed_createTransport_of_none command there, there]
          | some device =>
              rw [D.executed_createTransport_of_some command there]
              cases (D.outcome o).createTransport with
              | error message => simp [D.newTransportListener_eq,
                  DeviceSession.newTransportListener, there]
              | ok created => simp [D.newTransportListener_eq, D.resetTransport_eq,
                  DeviceSession.newTransportListener, DeviceSession.resetTransport, there]

/-- **One `LoadDevice`** is lawful exactly if it does not fail on a session without a device.  A
failed one leaves the device that it has created, so the next is answered with success. -/
theorem loadLaw_step {s : E.Session} {action : E.Command × E.Outcome} (loaded : D.DeviceLoaded s) :
    D.LoadLaw ⟨s, action, (E.executed s action).state⟩ ↔ D.LoadsDevice s action := by
  obtain ⟨c, o⟩ := action
  by_cases load : ∃ capabilities, D.command c = some (.loadDevice capabilities)
  · obtain ⟨capabilities, command⟩ := load
    cases there : (D.view s).device with
    | some device =>
        refine iff_of_true ⟨?_, ?_⟩ fun _ _ missing => by simp [there] at missing
        · intro _ _ message failed
          simp [Engine.answers, D.executed_loadDevice_of_some command there] at failed
        · intro _ _ response _
          rw [D.executed_loadDevice_of_some command there]
          exact ⟨device, there, loaded device there⟩
    | none =>
        have executed := D.executed_loadDevice_of_none (o := o) command there
        cases result : D.loading capabilities o with
        | error message =>
            rw [result] at executed
            refine iff_of_false (fun law => ?_) fun loads => ?_
            · have answered : .error message ∈ (E.executed s (c, o)).outputs := by simp [executed]
              have kept := law.failed capabilities command message answered
              simp [executed, D.newDevice_eq, DeviceSession.newDevice, there] at kept
            · simp [loads capabilities command there] at result
        | ok done =>
            rw [result] at executed
            refine iff_of_true ⟨?_, ?_⟩ fun capabilities' command' _ => ?_
            · intro _ _ message failed
              simp [Engine.answers, executed] at failed
            · intro _ _ response _
              refine ⟨⟨(D.view s).objects, true⟩, ?_, rfl⟩
              simp [executed, D.newDevice_eq, D.deviceLoaded_eq, DeviceSession.newDevice,
                DeviceSession.deviceLoaded]
            · obtain rfl : capabilities = capabilities' := by simpa [command] using command'
              exact result
  · exact iff_of_true ⟨fun capabilities command => absurd ⟨capabilities, command⟩ load,
      fun capabilities command => absurd ⟨capabilities, command⟩ load⟩
      fun capabilities command => absurd ⟨capabilities, command⟩ load

/-- A command that loads what it creates keeps the device loaded. -/
theorem deviceLoaded_step {s : E.Session} {action : E.Command × E.Outcome}
    (loaded : D.DeviceLoaded s) (loads : D.LoadsDevice s action) :
    D.DeviceLoaded (E.executed s action).state := by
  by_cases load : ∃ capabilities, D.command action.1 = some (.loadDevice capabilities)
  · obtain ⟨capabilities, command⟩ := load
    cases there : (D.view s).device with
    | some device =>
        rw [D.executed_loadDevice_of_some (o := action.2) command there]
        exact loaded
    | none =>
        have executed := D.executed_loadDevice_of_none (o := action.2) command there
        rw [loads capabilities command there] at executed
        rintro device some
        simp only [executed, D.newDevice_eq, D.deviceLoaded_eq, DeviceSession.newDevice,
          DeviceSession.deviceLoaded, Option.map_some, Option.some.injEq] at some
        rw [← some]
  · intro device some
    rw [D.device_of_executed fun capabilities command => load ⟨capabilities, command⟩] at some
    exact loaded device some

/-- **Every load is lawful exactly when** none that finds no device fails, in any sequence of
commands. -/
theorem loadLaw_iff {session : E.Session} (fresh : (D.view session).device = none)
    (actions : List (E.Command × E.Outcome)) :
    (∀ t ∈ (commandMachine E session).transitions session actions, D.LoadLaw t) ↔
      (commandMachine E session).Meets D.LoadsDevice session actions := by
  refine (commandMachine E session).forall_transitions_iff (motive := D.DeviceLoaded)
    ?_ ?_ (fun device some => ?_) actions
  · rintro s action _ loaded ⟨⟩
    exact D.loadLaw_step loaded
  · rintro s action _ loaded loads ⟨⟩
    exact D.deviceLoaded_step loaded loads
  · rw [fresh] at some
    cases some

/-! ### A failed transport

`CreateTransport` replaces the listener before it asks for a transport.  When that throws, the
transport that was there before calls a listener that is gone. -/

/-- The listener that the transport calls is the one that the session owns. -/
def ListenerAlive (s : E.Session) : Prop :=
  ∀ transport, (D.view s).transport = some transport →
    ∃ l, (D.view s).transportListener = some l ∧ D.listener transport = some l.object

/-- **The law of transports**, for a step: the listener is alive after it, and a
`CreateTransport` answered with an error leaves transport and listener as they were. -/
structure TransportLaw (t : Taken E.Session (E.Command × E.Outcome)) : Prop where
  alive : D.ListenerAlive t.after
  failed : ∀ transportId, D.command t.action.1 = some (.createTransport transportId) →
    ∀ message, .error message ∈ E.answers t →
      (D.view t.after).transport = (D.view t.before).transport ∧
        (D.view t.after).transportListener = (D.view t.before).transportListener

/-- A `CreateTransport` that finds a device does not throw. -/
def CreatesTransport (s : E.Session) (action : E.Command × E.Outcome) : Prop :=
  ∀ transportId, D.command action.1 = some (.createTransport transportId) →
    (D.view s).device ≠ none → (D.outcome action.2).createTransport = .ok ()

/-- What the commands keep: the listener is alive, and it was created before now, so that a new one
is not mistaken for it. -/
structure Listened (s : E.Session) : Prop where
  alive : D.ListenerAlive s
  older : ∀ l, (D.view s).transportListener = some l → l.object < (D.view s).objects

/-- Only `CreateTransport` changes the listener, or the transport in what matters here. -/
theorem listener_of_executed {s : E.Session} {action : E.Command × E.Outcome}
    (other : ∀ transportId, D.command action.1 ≠ some (.createTransport transportId)) :
    let t := (E.executed s action).state
    (D.view t).transportListener = (D.view s).transportListener ∧
      (D.view t).transport.map D.listener = (D.view s).transport.map D.listener ∧
      (D.view s).objects ≤ (D.view t).objects := by
  obtain ⟨c, o⟩ := action
  cases command : D.command c with
  | none =>
      have keeps := D.keeps c command s o
      exact ⟨keeps.transportListener, keeps.listener, keeps.objects⟩
  | some deviceCommand =>
      cases deviceCommand with
      | createTransport transportId => exact absurd command (other transportId)
      | getDeviceRtpCapabilities =>
          rw [D.executed_getDeviceRtpCapabilities command]
          exact ⟨rfl, rfl, le_rfl⟩
      | loadDevice capabilities =>
          cases there : (D.view s).device with
          | some device =>
              rw [D.executed_loadDevice_of_some command there]
              exact ⟨rfl, rfl, le_rfl⟩
          | none =>
              rw [D.executed_loadDevice_of_none command there]
              cases D.loading capabilities o with
              | error message => simp [D.newDevice_eq, DeviceSession.newDevice]
              | ok loaded => simp [D.newDevice_eq, D.deviceLoaded_eq, DeviceSession.newDevice,
                  DeviceSession.deviceLoaded]

theorem Listened.of_other {D : DeviceEngine E Transport} {s : E.Session}
    {action : E.Command × E.Outcome} (listened : D.Listened s)
    (other : ∀ transportId, D.command action.1 ≠ some (.createTransport transportId)) :
    D.Listened (E.executed s action).state := by
  obtain ⟨same, transports, objects⟩ := D.listener_of_executed (s := s) other
  refine ⟨fun transport created => ?_, fun l owned => ?_⟩
  · rw [created, Option.map_some] at transports
    obtain ⟨old, before, hold⟩ := Option.map_eq_some_iff.mp transports.symm
    obtain ⟨l, owned, alive⟩ := listened.alive old before
    exact ⟨l, same.trans owned, hold ▸ alive⟩
  · exact lt_of_lt_of_le (listened.older l (same ▸ owned)) objects

/-- A new transport is created on a new listener. -/
theorem listened_of_created {s : E.Session} (transportId : String) :
    let listener : TransportListener := ⟨(D.view s).objects, transportId⟩
    D.Listened (E.apply
      (D.access.resetTransport ((D.view s).objects + 1) (some listener.object))
      (E.apply (D.access.newTransportListener listener) s)) := by
  intro listener
  refine ⟨fun transport created => ⟨listener, ?_, ?_⟩, fun l owned => ?_⟩
  · simp [D.resetTransport_eq, D.newTransportListener_eq, DeviceSession.resetTransport,
      DeviceSession.newTransportListener]
  · simp only [D.resetTransport_eq, DeviceSession.resetTransport, Option.some.injEq] at created
    rw [← created, D.listener_create]
  · simp only [D.resetTransport_eq, D.newTransportListener_eq, DeviceSession.resetTransport,
      DeviceSession.newTransportListener, Option.some.injEq] at owned ⊢
    rw [← owned]
    exact Nat.lt_add_right 1 (Nat.lt_succ_self _)

/-- **One `CreateTransport`**: it creates the transport on the listener it has just created, or
fails with the listener already replaced, under the transport that may be there. -/
theorem transportLaw_step {s : E.Session} {action : E.Command × E.Outcome}
    (listened : D.Listened s) :
    D.TransportLaw ⟨s, action, (E.executed s action).state⟩ ↔ D.CreatesTransport s action := by
  obtain ⟨c, o⟩ := action
  by_cases create : ∃ transportId, D.command c = some (.createTransport transportId)
  · obtain ⟨transportId, command⟩ := create
    cases there : (D.view s).device with
    | none =>
        rw [D.executed_createTransport_of_none command there]
        exact iff_of_true ⟨listened.alive, fun _ _ _ _ => ⟨rfl, rfl⟩⟩
          fun _ _ device => absurd there device
    | some device =>
        have executed := D.executed_createTransport_of_some (o := o) command there
        cases result : (D.outcome o).createTransport with
        | error message =>
            rw [result] at executed
            refine iff_of_false (fun law => ?_) fun creates => ?_
            · obtain ⟨-, kept⟩ :=
                law.failed transportId command message (by simp [Engine.answers, executed])
              simp only [executed, D.newTransportListener_eq,
                DeviceSession.newTransportListener] at kept
              exact absurd (listened.older _ kept.symm) (Nat.lt_irrefl _)
            · simp [creates transportId command (by simp [there])] at result
        | ok created =>
            rw [result] at executed
            refine iff_of_true ⟨?_, ?_⟩ fun _ _ _ => result
            · rw [executed]
              exact (D.listened_of_created transportId).alive
            · intro _ _ message failed
              simp [Engine.answers, executed] at failed
  · refine iff_of_true ⟨?_, fun transportId command => absurd ⟨transportId, command⟩ create⟩
      fun transportId command => absurd ⟨transportId, command⟩ create
    exact (listened.of_other fun transportId command => create ⟨transportId, command⟩).alive

/-- A command that creates the transport whose listener it has created keeps the listener
alive. -/
theorem listened_step {s : E.Session} {action : E.Command × E.Outcome}
    (listened : D.Listened s) (creates : D.CreatesTransport s action) :
    D.Listened (E.executed s action).state := by
  by_cases create : ∃ transportId, D.command action.1 = some (.createTransport transportId)
  · obtain ⟨transportId, command⟩ := create
    cases there : (D.view s).device with
    | none =>
        rw [D.executed_createTransport_of_none (o := action.2) command there]
        exact listened
    | some device =>
        have executed := D.executed_createTransport_of_some (o := action.2) command there
        rw [creates transportId command (by simp [there])] at executed
        rw [executed]
        exact D.listened_of_created transportId
  · exact listened.of_other fun transportId command => create ⟨transportId, command⟩

/-- **Every step is lawful exactly when** no `CreateTransport` that finds a device throws, in any
sequence of commands that starts without listener and transport. -/
theorem transportLaw_iff {session : E.Session}
    (noListener : (D.view session).transportListener = none)
    (noTransport : (D.view session).transport = none) (actions : List (E.Command × E.Outcome)) :
    (∀ t ∈ (commandMachine E session).transitions session actions, D.TransportLaw t) ↔
      (commandMachine E session).Meets D.CreatesTransport session actions := by
  refine (commandMachine E session).forall_transitions_iff (motive := D.Listened)
    ?_ ?_ ⟨fun transport some => ?_, fun l some => ?_⟩ actions
  · rintro s action _ listened ⟨⟩
    exact D.transportLaw_step listened
  · rintro s action _ listened creates ⟨⟩
    exact D.listened_step listened creates
  · rw [noTransport] at some
    cases some
  · rw [noListener] at some
    cases some

end DeviceEngine

/-! ### The two engines

Each engine has to show that its other commands keep device and listener.  They are programs whose
operations are listed, so it is enough to look at what an operation changes. -/

/-- Only some operations are performed. -/
def performing {Op ω : Type} (allowed : Op → Bool) : Unit → Op ⊕ ω → Option Unit
  | (), .inl op => if allowed op then some () else none
  | (), .inr _ => some ()

theorem performing_inl {Op ω : Type} {allowed : Op → Bool} {op : Op} :
    @performing Op ω allowed () (.inl op) = some () ↔ allowed op = true := by
  show (if allowed op = true then some () else none) = some () ↔ _
  split_ifs with allows <;> simp [allows]

/-- What each allowed operation keeps is kept by a command that performs no other. -/
theorem keeps_of_performing {E : Engine} {Transport : Type}
    {view : E.Session → DeviceSession Transport} {listener : Transport → Option ℕ}
    {allowed : E.Op → Bool}
    (kept : ∀ op, allowed op = true → ∀ s, (view s).Keeps listener (view (E.apply op s)))
    {body : CommandM E.Op E.Session E.Result Unit}
    (follows : Throwing.Follows (performing allowed) body () (fun _ _ => True) fun _ => True)
    (s : E.Session) :
    (view s).Keeps listener (view ((executing body).exec E.apply s).state) := by
  have whole : (executing body).Follows (performing allowed) () fun _ _ => True :=
    follows_catchWith (Program.Follows.mono follows fun result _ _ => by
      cases result with
      | ok _ => trivial
      | error message => exact fun _ => ⟨(), rfl, trivial⟩)
  refine (whole.exec (motive := fun _ t => (view s).Keeps listener (view t)) ?_
    (fun _ _ _ _ _ keeps => keeps) DeviceSession.Keeps.rfl).elim fun _ ended => ended.2
  rintro ⟨⟩ op ⟨⟩ t step keeps
  exact keeps.trans (kept op (performing_inl.mp step) t)

end Saasy.Control

namespace Saasy.ListeningEngine

open Transition Control Wire Codec Throwing

/-- The operations of the commands on consumers. -/
def SessionOp.onConsumers : SessionOp → Bool
  | .consume .. | .addSink _ | .registerConsumer .. => true
  | _ => false

def Session.deviceSession (s : Session) : DeviceSession RecvTransport :=
  ⟨s.device, s.transportListener, s.transport, s.objects⟩

theorem SessionOp.keeps {op : SessionOp} (onConsumers : op.onConsumers = true) (s : Session) :
    s.deviceSession.Keeps RecvTransport.listener (op.apply s).deviceSession := by
  cases op with
  | consume consumerId consumer =>
      refine ⟨rfl, rfl, ?_, Nat.le_add_right _ _⟩
      simp only [apply, Session.deviceSession, Option.map_map]
      rfl
  | addSink track => exact .rfl
  | registerConsumer consumerId consumer => exact .rfl
  | _ => cases onConsumers

theorem performing_createConsumer (consumerId : String) (kind : MediaKind) (outcome : Outcome) :
    Throwing.Follows (performing SessionOp.onConsumers) (createConsumer consumerId kind outcome) ()
      (fun _ _ => True) fun _ => True := by
  unfold createConsumer
  simp only [follows_bind, follows_read, follows_perform]
  intro s
  refine follows_require (follows_require (follows_call (fun consumed => ?_) trivial) trivial)
    trivial
  refine follows_require? (fun hasTrack _ s => ⟨(), rfl, ?_⟩) trivial
  refine follows_require? (fun track _ => ⟨(), rfl, (), rfl, ?_⟩) trivial
  exact ⟨(), rfl, trivial⟩

theorem performing_resumeConsumer (deviceConsumerId : String) :
    Throwing.Follows (performing SessionOp.onConsumers) (resumeConsumer deviceConsumerId) ()
      (fun _ _ => True) fun _ => True := by
  unfold resumeConsumer
  simp only [follows_bind, follows_read]
  intro s
  exact follows_require ⟨(), rfl, trivial⟩ trivial

def devices [Double.UndefinedCast] : DeviceEngine listeningEngine RecvTransport where
  access := deviceAccess
  outcome := Outcome.toDeviceOutcome
  command
    | .loadDevice routerRtpCapabilities => some (.loadDevice routerRtpCapabilities)
    | .getDeviceRtpCapabilities => some .getDeviceRtpCapabilities
    | .createTransport transportId => some (.createTransport transportId)
    | _ => none
  view := Session.deviceSession
  create object listener := ⟨object, listener, [], false⟩
  listener := RecvTransport.listener
  listener_create _ _ := rfl
  device_eq _ := rfl
  transportListener_eq _ := rfl
  objects_eq _ := rfl
  newDevice_eq _ _ := rfl
  deviceLoaded_eq _ := rfl
  newTransportListener_eq _ _ := rfl
  resetTransport_eq _ _ _ := rfl
  execute_eq := by
    rintro (_ | _ | _ | _ | _) _ ⟨⟩ o <;> rfl
  keeps := by
    rintro (_ | _ | _ | ⟨consumerId, kind⟩ | deviceConsumerId) none s o
    iterate 3 cases none
    · exact keeps_of_performing (fun _ => SessionOp.keeps)
        (performing_createConsumer consumerId kind o) s
    · exact keeps_of_performing (fun _ => SessionOp.keeps)
        (performing_resumeConsumer deviceConsumerId) s

end Saasy.ListeningEngine

namespace Saasy.SpeakingEngine

open Transition Control Wire Codec Throwing

/-- The operations of the commands on the producer and on the audio device. -/
def SessionOp.onProduction : SessionOp → Bool
  | .newProducerListener _ | .produce | .setAudioProducerId _ | .flushAudioBuffer _
  | .speechGenerationComplete => true
  | _ => false

def Session.deviceSession (s : Session) : DeviceSession SendTransport :=
  ⟨s.device, s.transportListener, s.transport, s.objects⟩

theorem SessionOp.keeps {op : SessionOp} (onProduction : op.onProduction = true) (s : Session) :
    s.deviceSession.Keeps SendTransport.listener (op.apply s).deviceSession := by
  cases op with
  | newProducerListener object => exact ⟨rfl, rfl, rfl, Nat.le_add_right _ _⟩
  | produce => exact .rfl
  | setAudioProducerId producerId => exact .rfl
  | flushAudioBuffer fadeDurationMs => exact .rfl
  | speechGenerationComplete => exact .rfl
  | _ => cases onProduction

theorem performing_startProduction (outcome : Outcome) :
    Throwing.Follows (performing SessionOp.onProduction) (startProduction outcome) ()
      (fun _ _ => True) fun _ => True := by
  unfold startProduction
  simp only [follows_bind, follows_read, follows_perform]
  intro s
  refine follows_require (fun s => follows_require (fun s => ⟨(), rfl, (), rfl, ?_⟩) trivial)
    trivial
  refine follows_call (fun producer => follows_require? (fun _ _ => ⟨(), rfl, ?_⟩) trivial) trivial
  exact ⟨(), rfl, trivial⟩

theorem performing_admCommand {op : SessionOp} (onProduction : op.onProduction = true)
    (response : CommandResult) :
    Throwing.Follows (performing SessionOp.onProduction) (admCommand op response) ()
      (fun _ _ => True) fun _ => True := by
  unfold admCommand
  simp only [follows_bind, follows_read, follows_perform]
  intro s
  exact follows_require ⟨(), performing_inl.mpr onProduction, (), rfl, trivial⟩ trivial

def devices [Double.UndefinedCast] : DeviceEngine speakingEngine SendTransport where
  access := deviceAccess
  outcome := Outcome.toDeviceOutcome
  command
    | .loadDevice routerRtpCapabilities => some (.loadDevice routerRtpCapabilities)
    | .getDeviceRtpCapabilities => some .getDeviceRtpCapabilities
    | .createTransport transportId => some (.createTransport transportId)
    | _ => none
  view := Session.deviceSession
  create object listener := ⟨object, listener, false⟩
  listener := SendTransport.listener
  listener_create _ _ := rfl
  device_eq _ := rfl
  transportListener_eq _ := rfl
  objects_eq _ := rfl
  newDevice_eq _ _ := rfl
  deviceLoaded_eq _ := rfl
  newTransportListener_eq _ _ := rfl
  resetTransport_eq _ _ _ := rfl
  execute_eq := by
    rintro (_ | _ | _ | _ | _ | _) _ ⟨⟩ o <;> rfl
  keeps := by
    rintro (_ | _ | _ | _ | fadeDurationMs | _) none s o
    iterate 3 cases none
    · exact keeps_of_performing (fun _ => SessionOp.keeps) (performing_startProduction o) s
    · exact keeps_of_performing (fun _ => SessionOp.keeps) (performing_admCommand rfl _) s
    · exact keeps_of_performing (fun _ => SessionOp.keeps) (performing_admCommand rfl _) s

end Saasy.SpeakingEngine

namespace Saasy.Control

open Transition Wire Codec

/-- **When loads are undone**, in both engines, whatever else is executed in between: exactly when
each `LoadDevice` on a session without a device succeeds. -/
theorem loadLaw_iff_loadsDevice [Double.UndefinedCast] :
    (∀ actions,
      (∀ t ∈ (commandMachine ListeningEngine.listeningEngine .created).transitions .created actions,
          ListeningEngine.devices.LoadLaw t) ↔
        (commandMachine ListeningEngine.listeningEngine .created).Meets
          ListeningEngine.devices.LoadsDevice .created actions) ∧
    ∀ actions,
      (∀ t ∈ (commandMachine SpeakingEngine.speakingEngine .created).transitions .created actions,
          SpeakingEngine.devices.LoadLaw t) ↔
        (commandMachine SpeakingEngine.speakingEngine .created).Meets
          SpeakingEngine.devices.LoadsDevice .created actions :=
  ⟨ListeningEngine.devices.loadLaw_iff rfl, SpeakingEngine.devices.loadLaw_iff rfl⟩

/-- **When the transport's listener is alive**, in both engines, after every command of a sequence.
-/
theorem transportLaw_iff_createsTransport [Double.UndefinedCast] :
    (∀ actions,
      (∀ t ∈ (commandMachine ListeningEngine.listeningEngine .created).transitions .created actions,
          ListeningEngine.devices.TransportLaw t) ↔
        (commandMachine ListeningEngine.listeningEngine .created).Meets
          ListeningEngine.devices.CreatesTransport .created actions) ∧
    ∀ actions,
      (∀ t ∈ (commandMachine SpeakingEngine.speakingEngine .created).transitions .created actions,
          SpeakingEngine.devices.TransportLaw t) ↔
        (commandMachine SpeakingEngine.speakingEngine .created).Meets
          SpeakingEngine.devices.CreatesTransport .created actions :=
  ⟨ListeningEngine.devices.transportLaw_iff rfl rfl,
    SpeakingEngine.devices.transportLaw_iff rfl rfl⟩

/-- Two commands of one session: **a load that fails, and a load that is answered with success
on the device the first one has left behind.** -/
theorem unloaded_device_taken_for_loaded :
    letI := Double.x86Cast
    let E := ListeningEngine.listeningEngine
    let first : E.Command × E.Outcome :=
      (.loadDevice ⟨[], []⟩, ⟨⟨fun _ => .error "load", .ok .null, .ok ()⟩, .ok none⟩)
    let second : E.Command × E.Outcome :=
      (.loadDevice ⟨[], []⟩, ⟨⟨fun _ => .ok (), .ok .null, .ok ()⟩, .ok none⟩)
    let history := (commandMachine E .created).transitions .created [first, second]
    (history.map E.answers = [[.error "load"], [.ok .loadDevice]] ∧
      history.map (·.after.device) = [some ⟨0, false⟩, some ⟨0, false⟩]) ∧
      ¬ ∀ t ∈ history, ListeningEngine.devices.LoadLaw t := by
  let := Double.x86Cast
  intro E first second history
  refine ⟨⟨rfl, rfl⟩, fun law => ?_⟩
  have answered : (history[1]?).map E.answers = some [.ok .loadDevice] := rfl
  obtain ⟨last, here, answers⟩ := Option.map_eq_some_iff.mp answered
  have success : .ok .loadDevice ∈ E.answers last := by
    rw [answers]
    exact List.mem_singleton_self _
  obtain ⟨device, there, loaded⟩ := (law last (List.mem_of_getElem? here)).succeeded ⟨[], []⟩
    (by cases here; rfl) .loadDevice success
  cases here
  cases there
  cases loaded

/-- Two transports, the second of which is not created: **the first one is left with a listener
that is gone.** -/
theorem listener_replaced_without_transport :
    letI := Double.x86Cast
    let E := ListeningEngine.listeningEngine
    let works : DeviceOutcome := ⟨fun _ => .ok (), .ok .null, .ok ()⟩
    let fails : DeviceOutcome := ⟨fun _ => .ok (), .ok .null, .error "transport"⟩
    let actions : List (E.Command × E.Outcome) :=
      [(.loadDevice ⟨[], []⟩, ⟨works, .ok none⟩), (.createTransport "first", ⟨works, .ok none⟩),
        (.createTransport "second", ⟨fails, .ok none⟩)]
    let history := (commandMachine E .created).transitions .created actions
    (history.map (·.after.transport.map (·.listener)) = [none, some (some 1), some (some 1)] ∧
      history.map (·.after.transportListener.map (·.object)) = [none, some 1, some 3]) ∧
      ¬ ∀ t ∈ history, ListeningEngine.devices.TransportLaw t := by
  let := Double.x86Cast
  intro E works fails actions history
  refine ⟨⟨rfl, rfl⟩, fun law => ?_⟩
  have there : (history[2]?).map (·.after.transport.map (·.object)) = some (some 2) := rfl
  obtain ⟨last, here, -⟩ := Option.map_eq_some_iff.mp there
  obtain ⟨l, owned, alive⟩ := (law last (List.mem_of_getElem? here)).alive ⟨2, some 1, [], false⟩
    (by cases here; rfl)
  cases here
  cases owned
  cases alive

end Saasy.Control
