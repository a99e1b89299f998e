import SaasyMediaEngine.Control.DeviceLife

/-!
# What LoadDevice loads

mediasoupclient wants every codec it is loaded with to have a `kind`, for which the schema
has no field.  `LoadDevice` adds the member to what the converters have written, by the
mime type of the codec.  The converters read members by name, and none of a codec's is
called `kind`: `RtpCodecCapabilityFinalized.overlooks` is that they read the same codec before and
after.  `loaded_capabilities` is what is loaded; there is nothing to load if a codec is of
neither kind, for which the converters write an empty object.

The session has its device by then, and keeps it: `first_load_decides` is that the first
`LoadDevice` of a session decides whether its device is ever loaded.

`AgreeApart` and `Overlooks` are about any document: two objects agree apart from one member, and
a reader overlooks a member if it cannot tell such objects apart.  From there it is a matter of
comparing the keys that a converter asks for with one string.

The second property is where the two engines and `Control.DeviceLife` meet: after its first
`LoadDevice` a session has a device for good, and whether it can ever be used was decided then.
-/

namespace Saasy

open Codec Transition

/-! ### Readers that overlook a member

The converters look members up by their keys, so a member that no converter asks for is invisible
to them.  The lemmas follow the converters down to the members. -/

namespace Wire

namespace Json

/-- Two objects with the same members, except for one, which either may have or lack.  A reader
that does not ask for it cannot tell them apart. -/
structure AgreeApart (apart : String) (json json' : Json) : Prop where
  object : json.object?.isSome = true
  object' : json'.object?.isSome = true
  find? : ∀ key, key ≠ apart → json'.find? key = json.find? key

theorem agreeApart_set {json : Json} (object : json.object?.isSome = true) (apart : String)
    (value : Json) : AgreeApart apart json (json.set apart value) := by
  cases json with
  | object members =>
      refine ⟨object, rfl, fun key other => ?_⟩
      exact (SortedMap.lookup_insert apart key value members).trans (if_neg other)
  | _ => cases object

theorem find?_set {json : Json} (object : json.object?.isSome = true) (key : String)
    (value : Json) : (json.set key value).find? key = some value := by
  cases json with
  | object members => exact (SortedMap.lookup_insert key key value members).trans (if_pos rfl)
  | _ => cases object

/-- What is read does not depend on a member. -/
def Overlooks {α : Type} (apart : String) (read : Json → α) : Prop :=
  ∀ json json', AgreeApart apart json json' → read json' = read json

variable {α : Type} {apart key : String}

theorem overlooks_member? {read : Json → Option α} (other : key ≠ apart) :
    Overlooks apart (member? key read) := by
  intro json json' agree
  unfold member?
  rw [agree.find? key other]

theorem overlooks_member {message : String} {read : Json → Option α} (other : key ≠ apart) :
    Overlooks apart (member message key read) := by
  intro json json' agree
  unfold member
  rw [agree.find? key other]

theorem overlooks_valueUInt32 [Double.UndefinedCast] {default : UInt32} (other : key ≠ apart) :
    Overlooks apart (valueUInt32 key default) := by
  intro json json' agree
  have found := agree.find? key other
  obtain ⟨members, rfl⟩ : ∃ members, json = .object members := by
    cases json with
    | object members => exact ⟨members, rfl⟩
    | _ => cases agree.object
  obtain ⟨members', rfl⟩ : ∃ members, json' = .object members := by
    cases json' with
    | object members => exact ⟨members, rfl⟩
    | _ => cases agree.object'
  change members'.lookup key = members.lookup key at found
  simp only [valueUInt32, found]

end Json

open Json

variable [Double.UndefinedCast]

/-- **A codec is read from its own members.** -/
theorem RtpCodec.overlooks {Payload Mime Channels : Type} {message apart : String}
    {payload : Field Payload} {mime : Naming String Mime} {channels : Field Channels}
    (hpayload : Overlooks apart payload.read) (hchannels : Overlooks apart channels.read)
    (other : apart ∉ ["mimeType", "clockRate", "parameters", "rtcpFeedback"]) :
    Overlooks apart (jsonToProto message payload mime channels) := by
  intro json json' agree
  simp only [List.mem_cons, not_or] at other
  obtain ⟨mimeType, clockRate, parameters, rtcpFeedback, -⟩ := other
  unfold jsonToProto
  rw [hpayload json json' agree, hchannels json json' agree,
    overlooks_member (Ne.symm mimeType) json json' agree,
    overlooks_member (Ne.symm clockRate) json json' agree,
    overlooks_member? (Ne.symm parameters) json json' agree,
    overlooks_member? (Ne.symm rtcpFeedback) json json' agree]

omit [Double.UndefinedCast] in
theorem CodecOneof.overlooks {Audio Video : Type} {message apart : String}
    {audio : Json → Except String Audio} {video : Json → Except String Video}
    (haudio : Overlooks apart audio) (hvideo : Overlooks apart video) (other : "mimeType" ≠ apart) :
    Overlooks apart (jsonToProto message audio video) := by
  intro json json' agree
  unfold jsonToProto
  rw [haudio json json' agree, hvideo json json' agree, overlooks_member other json json' agree]

/-- No converter of a codec capability looks at its kind. -/
theorem RtpCodecCapabilityFinalized.overlooks :
    Overlooks "kind" RtpCodecCapabilityFinalized.jsonToProto := by
  have other : "preferredPayloadType" ≠ "kind" := by decide
  have payload : ∀ message, Overlooks "kind" (Field.number message "preferredPayloadType").read :=
    fun _ => overlooks_member other
  have channels : Overlooks "kind" Field.channels.read := overlooks_valueUInt32 (by decide)
  have absent : Overlooks "kind" Field.absent.read := fun _ _ _ => rfl
  exact CodecOneof.overlooks (RtpCodec.overlooks (payload _) channels (by decide))
    (RtpCodec.overlooks (payload _) absent (by decide)) (by decide)

end Wire

/-! ### What is loaded

The loop tests the prefix of the mime type.  For a codec that is set it finds the kind of the
codec; what is printed for one that is not set has no mime type at all, and is rejected. -/

namespace Control

open Wire Json Throwing

variable [Double.UndefinedCast]

/-- The kind of a codec that is set. -/
def kind? : RtpCodecCapabilityFinalized → Option MediaKind
  | .audio _ => some .audio
  | .video _ => some .video
  | .notSet => none

/-- A codec of a kind, as it is loaded: what was sent of it, and its kind, which the message has as
the type of the codec only. -/
structure LoadedAs (codec : RtpCodecCapabilityFinalized) (json : Json) : Prop where
  kind : ∃ kind, kind? codec = some kind ∧
    json.find? "kind" = some (.string (mediaKindToString kind))
  agree : AgreeApart "kind" (RtpCodecCapabilityFinalized.protoToJson codec) json

omit [Double.UndefinedCast] in
theorem addKind_eq_ok {json : Json} {mimeType : String} {kind : MediaKind}
    (found : json.find? "mimeType" = some (.string mimeType))
    (prefixed : kind = .audio ∧ startsWith "audio/" mimeType = true ∨
      kind = .video ∧ startsWith "audio/" mimeType = false ∧ startsWith "video/" mimeType = true) :
    addKind json = .ok (json.set "kind" (.string (mediaKindToString kind))) := by
  unfold addKind
  rw [found]
  obtain ⟨rfl, isAudio⟩ | ⟨rfl, notAudio, isVideo⟩ := prefixed
  · exact if_pos isAudio
  · exact (if_neg (Bool.eq_false_iff.mp notAudio)).trans (if_pos isVideo)

omit [Double.UndefinedCast] in
theorem addKind_eq_error {json : Json} (absent : json.find? "mimeType" = none) :
    addKind json = .error "[json.exception.type_error.302] type must be string, but is null" := by
  unfold addKind
  rw [absent]
  rfl

/-- What is written for a codec of a kind. -/
theorem protoToJson_of_kind? {codec : RtpCodecCapabilityFinalized} {kind : MediaKind}
    (set : kind? codec = some kind) :
    (RtpCodecCapabilityFinalized.protoToJson codec).object?.isSome = true ∧
      ∃ mimeType, (RtpCodecCapabilityFinalized.protoToJson codec).find? "mimeType" =
        some (.string mimeType) ∧
        (kind = .audio ∧ startsWith "audio/" mimeType = true ∨
          kind = .video ∧ startsWith "audio/" mimeType = false ∧
            startsWith "video/" mimeType = true) := by
  cases codec with
  | audio codec =>
      cases set
      have distinct : RtpCodec.DistinctKeys
          (Field.number "AudioRtpCodecCapabilityFinalized" "preferredPayloadType").key
          Field.channels.key := distinctKeys_preferredPayloadType
      obtain ⟨members, json, -, -, mimeType, -⟩ :=
        RtpCodec.protoToJson_eq_object distinct mimeTypeAudioNaming codec
      change RtpCodecCapabilityFinalized.protoToJson (.audio codec) = _ at json
      rw [json]
      exact ⟨rfl, _, mimeType, .inl ⟨rfl, startsWith_print_mimeTypeAudio codec.mimeType⟩⟩
  | video codec =>
      cases set
      have distinct : RtpCodec.DistinctKeys
          (Field.number "VideoRtpCodecCapabilityFinalized" "preferredPayloadType").key
          Field.absent.key := distinctKeys_preferredPayloadType
      obtain ⟨members, json, -, -, mimeType, -⟩ :=
        RtpCodec.protoToJson_eq_object distinct mimeTypeVideoNaming codec
      change RtpCodecCapabilityFinalized.protoToJson (.video codec) = _ at json
      rw [json]
      exact ⟨rfl, _, mimeType, .inr ⟨rfl, startsWith_print_mimeTypeVideo codec.mimeType⟩⟩
  | notSet => cases set

/-- **A codec of a kind is loaded with it**: the kind is found again in the mime type that was
printed. -/
theorem addKind_protoToJson {codec : RtpCodecCapabilityFinalized} (isSet : codec ≠ .notSet) :
    ∃ json, addKind (RtpCodecCapabilityFinalized.protoToJson codec) = .ok json ∧
      LoadedAs codec json := by
  obtain ⟨kind, set⟩ : ∃ kind, kind? codec = some kind := by
    cases codec with
    | notSet => exact absurd rfl isSet
    | _ => exact ⟨_, rfl⟩
  obtain ⟨object, mimeType, found, prefixed⟩ := protoToJson_of_kind? set
  refine ⟨_, addKind_eq_ok found prefixed, ⟨kind, set, find?_set object _ _⟩, ?_⟩
  exact agreeApart_set object _ _

/-- The loop over the codecs, where each has a kind. -/
theorem mapM_addKind {codecs : List RtpCodecCapabilityFinalized} (set : .notSet ∉ codecs) :
    ∃ elements, (codecs.map RtpCodecCapabilityFinalized.protoToJson).mapM addKind = .ok elements ∧
      List.Forall₂ LoadedAs codecs elements := by
  induction codecs with
  | nil => exact ⟨[], rfl, .nil⟩
  | cons codec rest ih =>
      rw [List.mem_cons, not_or] at set
      obtain ⟨elements, hrest, loaded⟩ := ih set.2
      obtain ⟨json, first, loadedAs⟩ := addKind_protoToJson (Ne.symm set.1)
      refine ⟨json :: elements, ?_, .cons loadedAs loaded⟩
      rw [List.map_cons, List.mapM_cons, first, ok_bind, hrest]
      rfl

theorem mapM_addKind_notSet {codecs : List RtpCodecCapabilityFinalized} (mem : .notSet ∈ codecs) :
    (codecs.map RtpCodecCapabilityFinalized.protoToJson).mapM addKind =
      .error "[json.exception.type_error.302] type must be string, but is null" := by
  refine mapM_eq_error_of_mem (fun document hdocument => ?_)
    ⟨_, List.mem_map_of_mem mem, addKind_eq_error rfl⟩
  obtain ⟨codec, -, rfl⟩ := List.mem_map.mp hdocument
  by_cases set : codec = .notSet
  · rw [set]
    exact .inl (addKind_eq_error rfl)
  · obtain ⟨json, added, -⟩ := addKind_protoToJson set
    exact .inr ⟨json, added⟩

theorem find?_codecs_protoToJson (capabilities : RtpCapabilitiesFinalized) :
    (RtpCapabilitiesFinalized.protoToJson capabilities).find? "codecs" =
      some (.array (capabilities.codecs.map RtpCodecCapabilityFinalized.protoToJson)) := by
  refine (find?_ofMembers _ _).trans ?_
  simp [SortedMap.lookup_cons_eq]

/-- Loaded codecs are read as those that were sent. -/
theorem mapM_jsonToProto_of_loadedAs {codecs : List RtpCodecCapabilityFinalized}
    {elements : List Json} (loaded : List.Forall₂ LoadedAs codecs elements) :
    elements.mapM RtpCodecCapabilityFinalized.jsonToProto =
      (codecs.map RtpCodecCapabilityFinalized.protoToJson).mapM
        RtpCodecCapabilityFinalized.jsonToProto := by
  induction loaded with
  | nil => rfl
  | cons first _ ih =>
      rw [List.map_cons, List.mapM_cons, List.mapM_cons, ih,
        RtpCodecCapabilityFinalized.overlooks _ _ first.agree]

/-- What the device is loaded with, beside the capabilities it was sent: the same list of codecs,
each with its kind. -/
structure LoadedWith (capabilities : RtpCapabilitiesFinalized) (json : Json) : Prop where
  codecs : ∃ elements, json.find? "codecs" = some (.array elements) ∧
    List.Forall₂ LoadedAs capabilities.codecs elements
  agree : AgreeApart "codecs" (RtpCapabilitiesFinalized.protoToJson capabilities) json

/-- The capabilities that are read are those that were sent. -/
theorem LoadedWith.jsonToProto {capabilities : RtpCapabilitiesFinalized} {json : Json}
    (loaded : LoadedWith capabilities json) :
    RtpCapabilitiesFinalized.jsonToProto json =
      RtpCapabilitiesFinalized.jsonToProto (RtpCapabilitiesFinalized.protoToJson capabilities) := by
  obtain ⟨elements, found, codecs⟩ := loaded.codecs
  have read : ∀ {json : Json} {elements : List Json}, json.find? "codecs" = some (.array elements) →
      json.member "RtpCapabilitiesFinalized" "codecs" array? = .ok elements := fun found =>
    member_eq_ok.mpr (by rw [member?, found]; rfl)
  unfold RtpCapabilitiesFinalized.jsonToProto RtpCapabilitiesOf.jsonToProto
  rw [read found, read (find?_codecs_protoToJson capabilities),
    overlooks_member (by decide) _ _ loaded.agree]
  simp only [ok_bind, mapM_jsonToProto_of_loadedAs codecs]

theorem routerRtpCapabilitiesJson_of_notSet {capabilities : RtpCapabilitiesFinalized}
    (mem : .notSet ∈ capabilities.codecs) : routerRtpCapabilitiesJson capabilities =
      .error "[json.exception.type_error.302] type must be string, but is null" := by
  simp only [routerRtpCapabilitiesJson, find?_codecs_protoToJson, mapM_addKind_notSet mem]
  rfl

theorem routerRtpCapabilitiesJson_of_set {capabilities : RtpCapabilitiesFinalized}
    (set : .notSet ∉ capabilities.codecs) :
    ∃ json, routerRtpCapabilitiesJson capabilities = .ok json ∧ LoadedWith capabilities json := by
  obtain ⟨elements, added, loaded⟩ := mapM_addKind set
  refine ⟨(RtpCapabilitiesFinalized.protoToJson capabilities).set "codecs" (.array elements), ?_,
    ⟨elements, find?_set rfl _ _, loaded⟩, agreeApart_set rfl _ _⟩
  simp only [routerRtpCapabilitiesJson, find?_codecs_protoToJson, added]
  rfl

/-- **What a device is loaded with.**  If a codec is neither audio nor video, nothing is
loaded; else every codec is, with its kind, and the JSON still stands for the capabilities
that were sent. -/
theorem loaded_capabilities (capabilities : RtpCapabilitiesFinalized) :
    (.notSet ∈ capabilities.codecs → routerRtpCapabilitiesJson capabilities =
      .error "[json.exception.type_error.302] type must be string, but is null") ∧
    (.notSet ∉ capabilities.codecs → ∃ json, routerRtpCapabilitiesJson capabilities = .ok json ∧
      LoadedWith capabilities json ∧
      RtpCapabilitiesFinalized.jsonToProto json =
        RtpCapabilitiesFinalized.jsonToProto (RtpCapabilitiesFinalized.protoToJson capabilities) ∧
      (capabilities.Valid RtpCodecOf.Valid → RtpCapabilitiesFinalized.jsonToProto json =
        .ok (capabilities.canonical RtpCodecOf.canonical))) := by
  refine ⟨routerRtpCapabilitiesJson_of_notSet, fun set => ?_⟩
  obtain ⟨json, loads, loadedWith⟩ := routerRtpCapabilitiesJson_of_set set
  refine ⟨json, loads, loadedWith, loadedWith.jsonToProto, fun valid => ?_⟩
  rw [loadedWith.jsonToProto]
  exact RtpCapabilitiesOf.restores RtpCodecCapabilityFinalized.restores capabilities valid

omit [Double.UndefinedCast] in
/-- A video and an audio codec; and the audio codec with one that is not set. -/
theorem loaded_capabilities_vp9_opus :
    letI := Double.x86Cast
    let vp9 : RtpCodecCapabilityFinalized := .video ⟨101, .vp9, 90000, (), [], [⟨"nack", "pli"⟩]⟩
    let opus : RtpCodecCapabilityFinalized := .audio ⟨100, .opus, 48000, 2, [], []⟩
    (∃ json, routerRtpCapabilitiesJson ⟨[vp9, opus], []⟩ = .ok json ∧
      LoadedWith ⟨[vp9, opus], []⟩ json ∧
      RtpCapabilitiesFinalized.jsonToProto json = .ok ⟨[vp9, opus], []⟩) ∧
    routerRtpCapabilitiesJson ⟨[opus, .notSet], []⟩ =
      .error "[json.exception.type_error.302] type must be string, but is null" := by
  let := Double.x86Cast
  intro vp9 opus
  have set : .notSet ∉ [vp9, opus] := by decide
  have valid : RtpCapabilitiesOf.Valid RtpCodecOf.Valid ⟨[vp9, opus], []⟩ := by
    refine ⟨List.forall_mem_cons.mpr ⟨⟨by decide, by decide, by decide⟩,
      List.forall_mem_singleton.mpr ⟨by decide, by decide, by decide⟩⟩, List.forall_mem_nil _⟩
  obtain ⟨json, loads, loadedWith, -, reads⟩ := (loaded_capabilities ⟨[vp9, opus], []⟩).2 set
  exact ⟨⟨json, loads, loadedWith, reads valid⟩,
    (loaded_capabilities ⟨[opus, .notSet], []⟩).1 (by decide)⟩

/-! ### The first load decides

A device is created once in the life of a session, by the first `LoadDevice`, and no command
removes it.  Whether it is loaded is decided in the same command and never again. -/

namespace DeviceEngine

variable {E : Engine} {Transport : Type} (D : DeviceEngine E Transport)

/-- A command is a `LoadDevice`. -/
def Loads (command : E.Command) : Prop :=
  ∃ capabilities, D.command command = some (.loadDevice capabilities)

theorem loading_of_notSet {capabilities : RtpCapabilitiesFinalized}
    (mem : .notSet ∈ capabilities.codecs) (outcome : E.Outcome) : D.loading capabilities outcome =
      .error "[json.exception.type_error.302] type must be string, but is null" := by
  rw [loading, routerRtpCapabilitiesJson_of_notSet mem]
  rfl

theorem exists_loading {capabilities : RtpCapabilitiesFinalized}
    (set : .notSet ∉ capabilities.codecs) (outcome : E.Outcome) :
    ∃ json, LoadedWith capabilities json ∧
      D.loading capabilities outcome = (D.outcome outcome).load json := by
  obtain ⟨json, loads, loadedWith⟩ := routerRtpCapabilitiesJson_of_set set
  refine ⟨json, loadedWith, ?_⟩
  rw [loading, loads, ok_bind]

/-- The device of a session is never replaced. -/
theorem device_kept {s : E.Session} {device : Device} (action : E.Command × E.Outcome)
    (there : (D.view s).device = some device) :
    (D.view (E.executed s action).state).device = some device := by
  by_cases loads : D.Loads action.1
  · obtain ⟨capabilities, command⟩ := loads
    rw [D.executed_loadDevice_of_some (o := action.2) command there]
    exact there
  · rw [D.device_of_executed fun capabilities command => loads ⟨capabilities, command⟩]
    exact there

/-- Without a device there are no capabilities. -/
theorem executed_getDeviceRtpCapabilities_of_none {c : E.Command} {o : E.Outcome} {s : E.Session}
    (command : D.command c = some .getDeviceRtpCapabilities)
    (missing : (D.view s).device = none) :
    E.executed s (c, o) = ⟨s, [.error "Device not loaded yet"], ()⟩ := by
  have gone : D.access.device s = none := (D.device_eq s).trans missing
  rw [Engine.executed, D.execute_eq c _ command]
  simp only [executing, DeviceCommand.body, getDeviceRtpCapabilities, exec_catchWith, exec_bind,
    exec_read, gone, Option.isSome_none, Bool.false_eq_true, if_false, exec_require,
    List.nil_append]

/-- What the commands of a session lead to, by its first `LoadDevice`: before it there is no
device, and after it everything is as it went. -/
structure FirstLoad (past rest : List (Taken E.Session (E.Command × E.Outcome)))
    (first : Taken E.Session (E.Command × E.Outcome)) (capabilities : RtpCapabilitiesFinalized) :
    Prop where
  /-- Before it there is no device, and nothing that needs one succeeds. -/
  before : ∀ t ∈ past, (D.view t.after).device = none ∧
    (D.command t.action.1 ≠ none → E.answers t = [.error "Device not loaded yet"])
  /-- It is answered by how loading went, and so it is with the device from then on. -/
  device : ∃ object, ∀ t ∈ first :: rest, (D.view t.after).device =
    some ⟨object, (D.loading capabilities first.action.2).isOk⟩
  answers : E.answers first = [(D.loading capabilities first.action.2).map
    fun _ => D.access.loadDeviceResponse]
  /-- No later one reports anything but success. -/
  later : ∀ t ∈ rest, D.Loads t.action.1 → E.answers t = [.ok D.access.loadDeviceResponse]
  /-- There is nothing to load if a codec is of neither kind, -/
  refused : .notSet ∈ capabilities.codecs → D.loading capabilities first.action.2 =
    .error "[json.exception.type_error.302] type must be string, but is null"
  /-- and else loading goes as mediasoupclient has it. -/
  loading : .notSet ∉ capabilities.codecs → ∃ json, LoadedWith capabilities json ∧
    D.loading capabilities first.action.2 = (D.outcome first.action.2).load json

variable {D}

theorem firstLoad_of_run {session : E.Session} (fresh : (D.view session).device = none)
    {actions : List (E.Command × E.Outcome)}
    {past rest : List (Taken E.Session (E.Command × E.Outcome))}
    {first : Taken E.Session (E.Command × E.Outcome)} {capabilities : RtpCapabilitiesFinalized}
    (split : (commandMachine E session).transitions session actions = past ++ first :: rest)
    (isFirst : ∀ t ∈ past, ¬ D.Loads t.action.1)
    (loads : D.command first.action.1 = some (.loadDevice capabilities)) :
    D.FirstLoad past rest first capabilities := by
  -- there is no device up to the first load
  have others : ∀ t ∈ past, ∀ capabilities,
      D.command t.action.1 ≠ some (.loadDevice capabilities) :=
    fun t mem capabilities command => isFirst t mem ⟨capabilities, command⟩
  have stays : ∀ t ∈ past, (D.view t.before).device = none →
      (commandMachine E session).step t.before t.action = some t.after →
      (D.view t.after).device = none := by
    intro t mem missing step
    rw [← Option.some.inj step, D.device_of_executed (others t mem), missing]
  obtain ⟨inside, missing, step⟩ := (commandMachine E session).before_of_stretch
    (motive := fun s => (D.view s).device = none) split fresh stays
  obtain ⟨-, later, tail⟩ := (commandMachine E session).after_of_split split
  have ended : first.after = (E.executed first.before first.action).state :=
    (Option.some.inj step).symm
  have executed := D.executed_loadDevice_of_none (o := first.action.2) loads missing
  -- and the one that it leaves is there from then on
  let device : Device := ⟨(D.view first.before).objects,
    (D.loading capabilities first.action.2).isOk⟩
  have left : (D.view first.after).device = some device := by
    rw [ended, executed]
    cases result : D.loading capabilities first.action.2 with
    | error message => simp only [D.newDevice_eq, device, result]; rfl
    | ok loaded => simp only [D.deviceLoaded_eq, D.newDevice_eq, device, result]; rfl
  have kept : ∀ t ∈ rest, (D.view t.before).device = some device ∧
      (commandMachine E session).step t.before t.action = some t.after := by
    rw [tail]
    exact (commandMachine E session).transitions_of_invariant
      (motive := fun s => (D.view s).device = some device)
      (fun s action t there taken => Option.some.inj taken ▸ D.device_kept action there) left
  refine ⟨fun t mem => ?_, ⟨device.object, List.forall_mem_cons.mpr ⟨left, fun t mem => ?_⟩⟩,
    ?_, fun t mem loads => ?_, fun mem => D.loading_of_notSet mem first.action.2,
    fun set => D.exists_loading set first.action.2⟩
  · obtain ⟨none, taken⟩ := inside t mem
    refine ⟨stays t mem none taken, fun isDevice => ?_⟩
    rcases command : D.command t.action.1 with _ | (capabilities | _ | transportId)
    · exact absurd command isDevice
    · exact absurd command (others t mem capabilities)
    · exact congrArg _ (D.executed_getDeviceRtpCapabilities_of_none (o := t.action.2) command none)
    · exact congrArg _ (D.executed_createTransport_of_none (o := t.action.2) command none)
  · obtain ⟨there, taken⟩ := kept t (mem)
    rw [← Option.some.inj taken]
    exact D.device_kept t.action there
  · refine (congrArg _ executed).trans ?_
    cases D.loading capabilities first.action.2 <;> rfl
  · obtain ⟨capabilities, command⟩ := loads
    obtain ⟨there, -⟩ := kept t (mem)
    exact congrArg _ (D.executed_loadDevice_of_some (o := t.action.2) command there)

end DeviceEngine

/-- **The first load decides**, in both engines: a session whose first `LoadDevice` fails has a
device that is never loaded, whatever else it is asked for. -/
theorem first_load_decides :
    (∀ actions past rest first capabilities,
      (commandMachine ListeningEngine.listeningEngine .created).transitions .created actions =
        past ++ first :: rest →
      (∀ t ∈ past, ¬ ListeningEngine.devices.Loads t.action.1) →
      ListeningEngine.devices.command first.action.1 = some (.loadDevice capabilities) →
      ListeningEngine.devices.FirstLoad past rest first capabilities) ∧
    ∀ actions past rest first capabilities,
      (commandMachine SpeakingEngine.speakingEngine .created).transitions .created actions =
        past ++ first :: rest →
      (∀ t ∈ past, ¬ SpeakingEngine.devices.Loads t.action.1) →
      SpeakingEngine.devices.command first.action.1 = some (.loadDevice capabilities) →
      SpeakingEngine.devices.FirstLoad past rest first capabilities :=
  ⟨fun _ _ _ _ _ split isFirst loads => DeviceEngine.firstLoad_of_run rfl split isFirst loads,
    fun _ _ _ _ _ split isFirst loads => DeviceEngine.firstLoad_of_run rfl split isFirst loads⟩

omit [Double.UndefinedCast] in
/-- A first `LoadDevice` with a codec of neither kind, and then one that could be loaded. -/
theorem first_load_decides_notSet :
    letI := Double.x86Cast
    let outcome : DeviceOutcome := ⟨fun _ => .ok (), .ok .null, .ok ()⟩
    let unset : RtpCapabilitiesFinalized := ⟨[.notSet], []⟩
    let opus : RtpCapabilitiesFinalized := ⟨[.audio ⟨100, .opus, 48000, 2, [], []⟩], []⟩
    let listening : List (ListeningEngine.Command × ListeningEngine.Outcome) :=
      [(.getDeviceRtpCapabilities, ⟨outcome, .ok none⟩), (.loadDevice unset, ⟨outcome, .ok none⟩),
        (.loadDevice opus, ⟨outcome, .ok none⟩)]
    let speaking : List (SpeakingEngine.Command × SpeakingEngine.Outcome) :=
      [(.loadDevice unset, ⟨outcome, .ok none⟩), (.loadDevice opus, ⟨outcome, .ok none⟩)]
    (∃ past first last,
      (commandMachine ListeningEngine.listeningEngine .created).transitions .created listening =
        [past, first, last] ∧
      (∃ message, ListeningEngine.listeningEngine.answers first = [.error message]) ∧
      ListeningEngine.listeningEngine.answers last = [.ok .loadDevice] ∧
      ∃ object, last.after.device = some ⟨object, false⟩) ∧
    ∃ first last,
      (commandMachine SpeakingEngine.speakingEngine .created).transitions .created speaking =
        [first, last] ∧
      SpeakingEngine.speakingEngine.answers last = [.ok .loadDevice] ∧
      ∃ object, last.after.device = some ⟨object, false⟩ := by
  let := Double.x86Cast
  intro outcome unset opus listening speaking
  have theorems := @first_load_decides Double.x86Cast
  constructor
  · refine ⟨_, _, _, rfl, ?_⟩
    have decided := theorems.1 listening [_] [_] _ unset rfl
    have isFirst : ¬ ListeningEngine.devices.Loads .getDeviceRtpCapabilities := by
      rintro ⟨capabilities, ⟨⟩⟩
    have decided := decided (List.forall_mem_singleton.mpr isFirst) rfl
    obtain ⟨object, device⟩ := decided.device
    have answers := decided.answers
    rw [decided.refused List.mem_cons_self] at device answers
    exact ⟨⟨_, answers⟩, decided.later _ List.mem_cons_self ⟨_, rfl⟩, object,
      device _ (List.mem_cons_of_mem _ List.mem_cons_self)⟩
  · refine ⟨_, _, rfl, ?_⟩
    have decided := theorems.2 speaking [] [_] _ unset rfl
    have decided := decided (List.forall_mem_nil _) rfl
    obtain ⟨object, device⟩ := decided.device
    rw [decided.refused List.mem_cons_self] at device
    exact ⟨decided.later _ List.mem_cons_self ⟨_, rfl⟩, object,
      device _ (List.mem_cons_of_mem _ List.mem_cons_self)⟩

end Control

end Saasy
