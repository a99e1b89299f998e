import SaasyMediaEngine.Wire.Json
import SaasyMediaEngine.Wire.RtpNames

/-!
# Codecs on the wire

The schema has six codec messages: audio and video, each in the capabilities of a
device, in finalized capabilities and in RTP parameters.  Their converters repeat each
other, up to the name of the message in the errors, the payload type (required or
optional, under one key or another), the table of mime types, and the channels, which
only audio has.

`RtpCodec` is the message, with the types of what differs as parameters, and
`RtpCodec.jsonToProto` and `RtpCodec.protoToJson` are the converters.  What differs is
handed to them as a `Field`: how a member is read, how it is written, and the proof
that the one undoes the other.  `RtpCodec.restores` is the round trip of all six.

The members of a codec are read by name, so the fields that differ must not be read under one
key: `DistinctKeys` is all that the round trip asks of the two keys, and it is decided for those of
the source.  The parameters of a codec are an object of its own, whose members are strings and
numbers.  They are written through a `std::map` and come back in the order of their keys, so a
codec comes back up to that order, `canonical`.  A member of any other type is read as a parameter
without a value, for which nothing is written: this is why `ValidParameters` asks every parameter
for one.
-/

namespace Saasy.Wire

open Codec Json

variable [Double.UndefinedCast]

/-! ### Codec parameters

A parameter is a string or a number on the wire.  What is neither becomes a parameter without a
value, and is not written again. -/

/-- The `oneof` of a codec parameter.  Its other case, neither of the two, is the missing value of
a parameter. -/
inductive ParameterValue where
  | string (value : String)
  | number (value : UInt32)
  deriving DecidableEq

structure RtpCodecParametersParameters where
  key : String
  value : Option ParameterValue
  deriving DecidableEq

namespace RtpCodecParametersParameters

/-- The body of the loop in `JsonObjectToParameters`.  Its third branch, meant for signed
numbers, repeats the condition of the second and is never taken. -/
def ofMember (member : String × Json) : RtpCodecParametersParameters where
  key := member.1
  value :=
    match member.2.string?, member.2.uint32? with
    | some s, _ => some (.string s)
    | none, some n => some (.number n)
    | none, none => none

/-- The body of the loop in `ParametersToJsonObject`: nothing is written for a parameter
without a value. -/
def toMember? (parameter : RtpCodecParametersParameters) : Option (String × Json) :=
  match parameter.value with
  | some (.string s) => some (parameter.key, string s)
  | some (.number n) => some (parameter.key, uint32 n)
  | none => none

/-- The order in which the members of an object are read. -/
def Before (a b : RtpCodecParametersParameters) : Prop := a.key ≤ b.key

instance : DecidableRel Before := fun a b => inferInstanceAs (Decidable (a.key ≤ b.key))

end RtpCodecParametersParameters

/-- `JsonObjectToParameters`, on the members of an object. -/
def jsonObjectToParameters (members : List (String × Json)) :
    List RtpCodecParametersParameters :=
  members.map .ofMember

/-- `ParametersToJsonObject`. -/
def parametersToJsonObject (parameters : List RtpCodecParametersParameters) : Json :=
  ofMembers (parameters.filterMap RtpCodecParametersParameters.toMember?)

/-! ### Feedback -/

structure RtcpFeedback where
  type : String
  parameter : String
  deriving DecidableEq

/-- `JsonToProto(RtcpFeedback)`. -/
def RtcpFeedback.jsonToProto (json : Json) : Except String RtcpFeedback := do
  let type ← json.member "RtcpFeedback" "type" string?
  return ⟨type, (json.member? "parameter" string?).getD ""⟩

/-- `ProtoToJson(RtcpFeedback)`. -/
def RtcpFeedback.protoToJson (feedback : RtcpFeedback) : Json :=
  ofMembers [("type", string feedback.type), ("parameter", string feedback.parameter)]

/-! ### Members that differ between the codec messages

The payload type is called by one of two names and may be required or not; video codecs have no
channels.  A `Field` is such a member together with the proof that it survives. -/

/-- A member of an object, as a field of a message: how it is read and written, and that reading
gives back what was written. -/
structure Field (α : Type) where
  key : String
  read : Json → Except String α
  /-- What is written for a value, if anything is. -/
  write : α → Option Json
  restores : ∀ value members, (object members).find? key = write value →
    read (object members) = .ok value

namespace Field

omit [Double.UndefinedCast] in
/-- Write a field to an object. -/
def set {α : Type} (field : Field α) (json : Json) (value : α) : Json :=
  match field.write value with
  | some written => json.set field.key written
  | none => json

theorem uint32?_uint32 (n : UInt32) : (uint32 n).uint32? = some n :=
  congrArg some n.toUInt32_toUInt64

/-- A number that must be there. -/
def number (message key : String) : Field UInt32 where
  key := key
  read json := json.member message key uint32?
  write n := some (uint32 n)
  restores := by
    intro n members found
    simp only [member, found, Option.bind_some, uint32?_uint32]

/-- A number that may be there. -/
def number? (key : String) : Field (Option UInt32) where
  key := key
  read json := .ok (json.member? key uint32?)
  write n := n.map uint32
  restores := by
    intro n members found
    cases n with
    | none => simp [member?, found]
    | some n => simp [member?, found, uint32?_uint32]

/-- The channels of an audio codec, one by default. -/
def channels : Field UInt32 where
  key := "channels"
  read json := json.valueUInt32 "channels" 1
  write n := some (uint32 n)
  restores := by
    intro n members found
    have found' : members.lookup "channels" = some (uint32 n) := found
    simp only [valueUInt32, found', getUInt32, uint32?_uint32]

omit [Double.UndefinedCast] in
/-- The channels of a video codec. -/
def absent : Field Unit where
  key := "channels"
  read _ := .ok ()
  write _ := none
  restores _ _ _ := rfl

end Field

/-! ### The codec messages -/

structure RtpCodec (Payload Mime Channels : Type) where
  payloadType : Payload
  mimeType : Mime
  clockRate : UInt32
  channels : Channels
  parameters : List RtpCodecParametersParameters
  rtcpFeedback : List RtcpFeedback
  deriving DecidableEq

namespace RtpCodec

variable {Payload Mime Channels : Type}

/-- What the six `JsonToProto` of codecs do. -/
def jsonToProto (message : String) (payload : Field Payload) (mime : Naming String Mime)
    (channels : Field Channels) (json : Json) :
    Except String (RtpCodec Payload Mime Channels) := do
  let payloadType ← payload.read json
  let mimeType ← json.member message "mimeType" string?
  let clockRate ← json.member message "clockRate" uint32?
  let channels ← channels.read json
  let parameters := ((json.member? "parameters" object?).map jsonObjectToParameters).getD []
  let rtcpFeedback ← ((json.member? "rtcpFeedback" array?).getD []).mapM
    RtcpFeedback.jsonToProto
  return { payloadType, mimeType := mime.read mimeType, clockRate, channels, parameters,
           rtcpFeedback }

/-- What the six `ProtoToJson` of codecs do. -/
def protoToJson (payload : Field Payload) (mime : Naming String Mime)
    (channels : Field Channels) (codec : RtpCodec Payload Mime Channels) : Json :=
  payload.set (channels.set
    (ofMembers [("mimeType", string (mime.print codec.mimeType)),
      ("clockRate", uint32 codec.clockRate),
      ("parameters", parametersToJsonObject codec.parameters),
      ("rtcpFeedback", array (codec.rtcpFeedback.map RtcpFeedback.protoToJson))])
    codec.channels) codec.payloadType

end RtpCodec

/-! ### Accepted codecs

What an accepted codec says of the document that it was read from. -/

namespace RtpCodec

/-- What an accepted codec was read from. -/
structure Reads {Payload Mime Channels : Type} (payload : Field Payload)
    (mime : Naming String Mime) (channels : Field Channels) (json : Json)
    (codec : RtpCodec Payload Mime Channels) : Prop where
  payloadType : payload.read json = .ok codec.payloadType
  mimeType : ∃ mimeType, json.member? "mimeType" string? = some mimeType ∧
    codec.mimeType = mime.read mimeType
  clockRate : json.member? "clockRate" uint32? = some codec.clockRate
  channels : channels.read json = .ok codec.channels
  parameters : codec.parameters =
    ((json.member? "parameters" object?).map jsonObjectToParameters).getD []

theorem of_jsonToProto {Payload Mime Channels : Type} {message : String}
    {payload : Field Payload} {mime : Naming String Mime} {channels : Field Channels}
    {json : Json} {codec : RtpCodec Payload Mime Channels}
    (accepted : jsonToProto message payload mime channels json = .ok codec) :
    Reads payload mime channels json codec := by
  obtain ⟨payloadType, hpayload, rest⟩ := bind_eq_ok.mp accepted
  obtain ⟨mimeType, hmime, rest⟩ := bind_eq_ok.mp rest
  obtain ⟨clockRate, hclock, rest⟩ := bind_eq_ok.mp rest
  obtain ⟨channelCount, hchannels, rest⟩ := bind_eq_ok.mp rest
  obtain ⟨feedback, -, rest⟩ := bind_eq_ok.mp rest
  cases rest
  exact ⟨hpayload, ⟨mimeType, member_eq_ok.mp hmime, rfl⟩, member_eq_ok.mp hclock, hchannels, rfl⟩

end RtpCodec

/-! ### The round trip of the parts

Parameters become members of one object, in the order of their keys.  So they come back sorted, and
a list with a key that occurs twice would come back shorter. -/

omit [Double.UndefinedCast] in
theorem RtcpFeedback.restores : Restores protoToJson jsonToProto id (fun _ => True) := by
  intro feedback _
  simp [jsonToProto, protoToJson, member, member?, string?, find?_ofMembers,
    SortedMap.lookup_cons_eq]

/-- What a codec's parameter list must be like: keys are distinct, as they become members of one
object, and values are set. -/
structure ValidParameters (parameters : List RtpCodecParametersParameters) : Prop where
  distinct : (parameters.map RtpCodecParametersParameters.key).Nodup
  set : ∀ parameter ∈ parameters, parameter.value.isSome = true

/-- The order in which an object returns them. -/
def sortParameters (parameters : List RtpCodecParametersParameters) :
    List RtpCodecParametersParameters :=
  parameters.insertionSort RtpCodecParametersParameters.Before

/-- A parameter with a value is one member, which reads as the parameter. -/
theorem RtpCodecParametersParameters.toMember?_eq {parameter : RtpCodecParametersParameters}
    (set : parameter.value.isSome = true) :
    ∃ member, parameter.toMember? = some member ∧ member.1 = parameter.key ∧
      ofMember member = parameter := by
  obtain ⟨key, value⟩ := parameter
  cases value with
  | none => cases set
  | some value =>
      cases value with
      | string s => exact ⟨_, rfl, rfl, rfl⟩
      | number n =>
          refine ⟨_, rfl, rfl, ?_⟩
          simp only [ofMember, Field.uint32?_uint32]
          rfl

/-- **Parameters survive the wire, up to their order**, which becomes that of their keys. -/
theorem jsonObjectToParameters_parametersToJsonObject
    {parameters : List RtpCodecParametersParameters} (valid : ValidParameters parameters) :
    ((parametersToJsonObject parameters).object?.map jsonObjectToParameters) =
      some (sortParameters parameters) := by
  -- all parameters are written
  obtain ⟨members, written, keys, reads⟩ : ∃ members : List (String × Json),
      parameters.filterMap RtpCodecParametersParameters.toMember? = members ∧
        members.map Prod.fst = parameters.map RtpCodecParametersParameters.key ∧
        members.map RtpCodecParametersParameters.ofMember = parameters := by
    have hset := valid.set
    clear valid
    induction parameters with
    | nil => exact ⟨[], rfl, rfl, rfl⟩
    | cons parameter rest ih =>
        rw [List.forall_mem_cons] at hset
        obtain ⟨members, written, keys, reads⟩ := ih hset.2
        obtain ⟨member, hmember, hkey, hread⟩ :=
          RtpCodecParametersParameters.toMember?_eq hset.1
        refine ⟨member :: members, ?_, ?_, ?_⟩
        · rw [List.filterMap_cons_some hmember, written]
        · rw [List.map_cons, List.map_cons, hkey, keys]
        · rw [List.map_cons, hread, reads]
  have distinct : (members.map Prod.fst).Nodup := keys ▸ valid.distinct
  show some ((SortedMap.ofList (parameters.filterMap _)).map _) = _
  have sorted := List.map_insertionSort SortedMap.Before RtpCodecParametersParameters.Before
    RtpCodecParametersParameters.ofMember members fun _ _ _ _ => Iff.rfl
  rw [written, SortedMap.ofList_eq_insertionSort distinct, sorted, reads]
  rfl

/-! ### The round trip of a codec -/

namespace Field

variable {α : Type}

omit [Double.UndefinedCast] in
/-- Writing a field adds its member, and nothing else. -/
theorem set_object (field : Field α) (value : α) {members : List (String × Json)}
    (new : members.lookup field.key = none) :
    ∃ members', field.set (object members) value = object members' ∧
      members'.lookup field.key = field.write value ∧
      ∀ key, key ≠ field.key → members'.lookup key = members.lookup key := by
  unfold set
  cases write : field.write value with
  | none => exact ⟨members, rfl, new, fun _ _ => rfl⟩
  | some written =>
      refine ⟨SortedMap.insert field.key written members, rfl, ?_, fun key other => ?_⟩
      · rw [SortedMap.lookup_insert, if_pos rfl]
      · rw [SortedMap.lookup_insert, if_neg other]

end Field

namespace RtpCodec

variable {Payload Mime Channels : Type}

/-- What the converters promise of a codec: its mime type survives, and its parameters are
valid. -/
structure Valid (mime : Naming String Mime) (codec : RtpCodec Payload Mime Channels) : Prop where
  mimeType : mime.read (mime.print codec.mimeType) = codec.mimeType
  parameters : ValidParameters codec.parameters

/-- A codec as it comes back. -/
def canonical (codec : RtpCodec Payload Mime Channels) : RtpCodec Payload Mime Channels :=
  { codec with parameters := sortParameters codec.parameters }

/-- The names of the members of a codec, which must not clash. -/
def DistinctKeys (payload channels : String) : Prop :=
  [payload, channels, "mimeType", "clockRate", "parameters", "rtcpFeedback"].Nodup

instance (payload channels : String) : Decidable (DistinctKeys payload channels) :=
  inferInstanceAs (Decidable (List.Nodup _))

omit [Double.UndefinedCast] in
/-- What is written for a codec. -/
theorem protoToJson_eq_object {payload : Field Payload} {channels : Field Channels}
    (distinct : DistinctKeys payload.key channels.key) (mime : Naming String Mime)
    (codec : RtpCodec Payload Mime Channels) :
    ∃ members, protoToJson payload mime channels codec = object members ∧
      members.lookup payload.key = payload.write codec.payloadType ∧
      members.lookup channels.key = channels.write codec.channels ∧
      members.lookup "mimeType" = some (string (mime.print codec.mimeType)) ∧
      members.lookup "clockRate" = some (uint32 codec.clockRate) ∧
      members.lookup "parameters" = some (parametersToJsonObject codec.parameters) ∧
      members.lookup "rtcpFeedback" =
        some (array (codec.rtcpFeedback.map RtcpFeedback.protoToJson)) := by
  simp only [DistinctKeys, List.nodup_cons, List.mem_cons, not_or] at distinct
  obtain ⟨⟨hchannels, hmime, hclock, hparameters, hfeedback, -⟩,
    ⟨hmime', hclock', hparameters', hfeedback', -⟩, -⟩ := distinct
  -- the members written in any case
  obtain ⟨base, hbase, common⟩ : ∃ base, base = SortedMap.ofList
      [("mimeType", string (mime.print codec.mimeType)), ("clockRate", uint32 codec.clockRate),
        ("parameters", parametersToJsonObject codec.parameters),
        ("rtcpFeedback", array (codec.rtcpFeedback.map RtcpFeedback.protoToJson))] ∧
      ∀ key, base.lookup key =
        if key = "rtcpFeedback" then
          some (array (codec.rtcpFeedback.map RtcpFeedback.protoToJson))
        else if key = "parameters" then some (parametersToJsonObject codec.parameters)
        else if key = "clockRate" then some (uint32 codec.clockRate)
        else if key = "mimeType" then some (string (mime.print codec.mimeType))
        else none := by
    refine ⟨_, rfl, fun key => ?_⟩
    rw [SortedMap.lookup_ofList]
    simp only [List.reverse_cons, List.reverse_nil, List.nil_append, List.cons_append,
      SortedMap.lookup_cons_eq, List.lookup_nil]
  -- the channels, and then the payload type
  have newChannels : base.lookup channels.key = none := by
    rw [common]
    simp [hmime', hclock', hparameters', hfeedback']
  obtain ⟨members, hmembers, hwritten, hold⟩ := channels.set_object codec.channels newChannels
  have newPayload : members.lookup payload.key = none := by
    rw [hold _ hchannels, common]
    simp [hmime, hclock, hparameters, hfeedback]
  obtain ⟨members', hmembers', hwritten', hold'⟩ :=
    payload.set_object codec.payloadType newPayload
  have kept : ∀ key, key ≠ payload.key → key ≠ channels.key →
      members'.lookup key = base.lookup key := fun key first second =>
    (hold' key first).trans (hold key second)
  refine ⟨members', ?_, hwritten', (hold' _ (Ne.symm hchannels)).trans hwritten, ?_, ?_, ?_, ?_⟩
  · rw [← hmembers', ← hmembers, hbase]
    rfl
  · rw [kept _ (Ne.symm hmime) (Ne.symm hmime'), common]
    simp
  · rw [kept _ (Ne.symm hclock) (Ne.symm hclock'), common]
    simp
  · rw [kept _ (Ne.symm hparameters) (Ne.symm hparameters'), common]
    simp
  · rw [kept _ (Ne.symm hfeedback) (Ne.symm hfeedback'), common]
    simp

/-- **A codec survives the wire.** -/
theorem restores {message : String} {payload : Field Payload} {mime : Naming String Mime}
    {channels : Field Channels} (distinct : DistinctKeys payload.key channels.key) :
    Restores (protoToJson payload mime channels) (jsonToProto message payload mime channels)
      canonical (Valid mime) := by
  intro codec valid
  obtain ⟨members, json, payloadType, channelCount, mimeType, clockRate, parameters, feedback⟩ :=
    protoToJson_eq_object distinct mime codec
  have readPayload := payload.restores codec.payloadType members payloadType
  have readChannels := channels.restores codec.channels members channelCount
  have readParameters := jsonObjectToParameters_parametersToJsonObject valid.parameters
  have readFeedback := RtcpFeedback.restores.list codec.rtcpFeedback fun _ _ => trivial
  rw [List.map_id] at readFeedback
  rw [json]
  simp only [jsonToProto, readPayload, readChannels, member, member?, find?, mimeType, clockRate,
    parameters, feedback, Option.bind_some, string?, array?, Field.uint32?_uint32, ok_bind,
    Option.getD_some, readFeedback, readParameters, pure_eq_ok, valid.mimeType]
  rfl

end RtpCodec

/-! ### Audio or video

The mime type decides which of the two decoders is called, and it is printed by the encoder of the
same kind, so the kind survives. -/

/-- The `oneof` of an audio and a video codec, which one depends on the mime type when it is read.
-/
inductive CodecOneof (Audio Video : Type) where
  | audio (codec : Audio)
  | video (codec : Video)
  | notSet
  deriving DecidableEq

/-- `s.find(start) == 0`. -/
def startsWith (start s : String) : Bool := start.toList.isPrefixOf s.toList

namespace CodecOneof

variable {Audio Video : Type}

/-- What the three `JsonToProto` of a codec of either kind do: the kind is told by the mime
type. -/
def jsonToProto (message : String) (audio : Json → Except String Audio)
    (video : Json → Except String Video) (json : Json) :
    Except String (CodecOneof Audio Video) := do
  let mimeType ← json.member message "mimeType" string?
  if startsWith "audio/" mimeType then
    let codec ← audio json
    return .audio codec
  else if startsWith "video/" mimeType then
    let codec ← video json
    return .video codec
  else
    throw (message ++ " unknown mimeType: " ++ mimeType)

/-- What the three `ProtoToJson` of a codec of either kind do. -/
def protoToJson (audio : Audio → Json) (video : Video → Json) : CodecOneof Audio Video → Json
  | .audio codec => audio codec
  | .video codec => video codec
  | .notSet => ofMembers []

end CodecOneof

/-- What an accepted codec of either kind was read from. -/
inductive CodecOneof.Reads {Audio Video : Type} (audio : Json → Audio → Prop)
    (video : Json → Video → Prop) (json : Json) : CodecOneof Audio Video → Prop
  | audio {mimeType : String} {codec : Audio}
      (found : json.member? "mimeType" string? = some mimeType)
      (kind : startsWith "audio/" mimeType = true) (reads : audio json codec) :
      Reads audio video json (.audio codec)
  | video {mimeType : String} {codec : Video}
      (found : json.member? "mimeType" string? = some mimeType)
      (other : startsWith "audio/" mimeType = false)
      (kind : startsWith "video/" mimeType = true) (reads : video json codec) :
      Reads audio video json (.video codec)

omit [Double.UndefinedCast] in
theorem CodecOneof.of_jsonToProto {Audio Video : Type} {message : String}
    {audio : Json → Except String Audio} {video : Json → Except String Video} {json : Json}
    {codec : CodecOneof Audio Video} (accepted : jsonToProto message audio video json = .ok codec) :
    Reads (fun json codec => audio json = .ok codec) (fun json codec => video json = .ok codec)
      json codec := by
  obtain ⟨mimeType, hmime, rest⟩ := bind_eq_ok.mp accepted
  have found := member_eq_ok.mp hmime
  by_cases isAudio : startsWith "audio/" mimeType = true
  · rw [if_pos isAudio] at rest
    obtain ⟨codec, hcodec, rest⟩ := bind_eq_ok.mp rest
    cases rest
    exact .audio found isAudio hcodec
  · rw [if_neg isAudio] at rest
    by_cases isVideo : startsWith "video/" mimeType = true
    · rw [if_pos isVideo] at rest
      obtain ⟨codec, hcodec, rest⟩ := bind_eq_ok.mp rest
      cases rest
      exact .video found (Bool.eq_false_iff.mpr isAudio) isVideo hcodec
    · rw [if_neg isVideo] at rest
      cases rest

omit [Double.UndefinedCast] in
theorem startsWith_print_mimeTypeAudio (mimeType : MimeTypeAudio) :
    startsWith "audio/" (mimeTypeAudioNaming.print mimeType) = true := by
  cases mimeType <;> decide

omit [Double.UndefinedCast] in
theorem startsWith_print_mimeTypeVideo (mimeType : MimeTypeVideo) :
    startsWith "audio/" (mimeTypeVideoNaming.print mimeType) = false ∧
      startsWith "video/" (mimeTypeVideoNaming.print mimeType) = true := by
  cases mimeType <;> decide

/-- The codecs of one family: audio has channels, video has not. -/
abbrev RtpCodecOf (Payload : Type) :=
  CodecOneof (RtpCodec Payload MimeTypeAudio UInt32) (RtpCodec Payload MimeTypeVideo Unit)

namespace RtpCodecOf

variable {Payload : Type}

/-- The messages that are sent: the kind is set, the mime type specified, and the parameters
are valid. -/
def Valid : RtpCodecOf Payload → Prop
  | .audio codec => codec.mimeType ≠ .unspecified ∧ ValidParameters codec.parameters
  | .video codec => codec.mimeType ≠ .unspecified ∧ ValidParameters codec.parameters
  | .notSet => False

/-- A codec as it comes back. -/
def canonical : RtpCodecOf Payload → RtpCodecOf Payload
  | .audio codec => .audio codec.canonical
  | .video codec => .video codec.canonical
  | .notSet => .notSet

/-- **A codec of either kind survives the wire.** -/
theorem restores {message audioMessage videoMessage : String} {audio video : Field Payload}
    (distinctAudio : RtpCodec.DistinctKeys audio.key Field.channels.key)
    (distinctVideo : RtpCodec.DistinctKeys video.key Field.absent.key) :
    Restores
      (CodecOneof.protoToJson (RtpCodec.protoToJson audio mimeTypeAudioNaming .channels)
        (RtpCodec.protoToJson video mimeTypeVideoNaming .absent))
      (CodecOneof.jsonToProto message
        (RtpCodec.jsonToProto audioMessage audio mimeTypeAudioNaming .channels)
        (RtpCodec.jsonToProto videoMessage video mimeTypeVideoNaming .absent))
      canonical Valid := by
  intro codec valid
  cases codec with
  | audio codec =>
      obtain ⟨specified, parameters⟩ := valid
      have decoded : RtpCodec.jsonToProto audioMessage audio mimeTypeAudioNaming .channels
          (RtpCodec.protoToJson audio mimeTypeAudioNaming .channels codec) = .ok codec.canonical :=
        RtpCodec.restores distinctAudio codec
          ⟨read_mimeTypeAudioToString specified, parameters⟩
      obtain ⟨members, json, -, -, mimeType, -⟩ :=
        RtpCodec.protoToJson_eq_object distinctAudio mimeTypeAudioNaming codec
      have prefixed := startsWith_print_mimeTypeAudio codec.mimeType
      simp only [CodecOneof.protoToJson, CodecOneof.jsonToProto, decoded, ok_bind]
      rw [json]
      simp only [member, find?, mimeType, Option.bind_some, string?, ok_bind]
      rw [if_pos prefixed]
      rfl
  | video codec =>
      obtain ⟨specified, parameters⟩ := valid
      have decoded : RtpCodec.jsonToProto videoMessage video mimeTypeVideoNaming .absent
          (RtpCodec.protoToJson video mimeTypeVideoNaming .absent codec) = .ok codec.canonical :=
        RtpCodec.restores distinctVideo codec
          ⟨read_mimeTypeVideoToString specified, parameters⟩
      obtain ⟨members, json, -, -, mimeType, -⟩ :=
        RtpCodec.protoToJson_eq_object distinctVideo mimeTypeVideoNaming codec
      obtain ⟨other, prefixed⟩ := startsWith_print_mimeTypeVideo codec.mimeType
      simp only [CodecOneof.protoToJson, CodecOneof.jsonToProto, decoded, ok_bind]
      rw [json]
      simp only [member, find?, mimeType, Option.bind_some, string?, ok_bind]
      rw [if_neg (Bool.eq_false_iff.mp other), if_pos prefixed]
      rfl
  | notSet => exact valid.elim

end RtpCodecOf

end Saasy.Wire
