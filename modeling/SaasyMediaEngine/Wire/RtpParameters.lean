import SaasyMediaEngine.Wire.RtpCodecs

/-!
# RTP parameters on the wire

`RtpParameters`: codecs, header extensions, encodings and the RTCP parameters.  Most
fields of an encoding are optional, and their presence matters: they are `Option`s
here.  The other scalar fields are modelled by how they read.

A member that is missing is not an error then, and a member of another type is passed over as if
it were missing; the scalability mode is the exception, which is decoded whatever it is: a name is
looked up, an object must be a custom mode, and any other value stands for `L1T1`.  The encoder
writes a member for each field that is set and none for the others, `members`, so that presence
survives: this is where a converter that wrote defaults would fail the round trip.

The RTCP parameters are the one field that does not come back as it was: they are not optional in
what `ProtoToJson` writes, and a message without them comes back with those of
`RtcpParameters.default` set.  `canonical` says so.
-/

namespace Saasy.Wire

open Codec Json

variable [Double.UndefinedCast]

/-! ### Optional members

Members that are written only where the field is set, and read only where they are there.  Such a
field survives together with its presence. -/

omit [Double.UndefinedCast] in
theorem string?_string (value : Option String) : (value.map string).bind string? = value := by
  cases value <;> rfl

omit [Double.UndefinedCast] in
theorem boolean?_boolean (value : Option Bool) : (value.map boolean).bind boolean? = value := by
  cases value <;> rfl

/-! ### Codecs -/

abbrev AudioRtpCodecParameters := RtpCodec UInt32 MimeTypeAudio UInt32
abbrev VideoRtpCodecParameters := RtpCodec UInt32 MimeTypeVideo Unit
abbrev RtpCodecParameters := RtpCodecOf UInt32

def AudioRtpCodecParameters.jsonToProto : Json → Except String AudioRtpCodecParameters :=
  RtpCodec.jsonToProto "AudioRtpCodecParameters" (.number "AudioRtpCodecParameters" "payloadType")
    mimeTypeAudioNaming .channels

def AudioRtpCodecParameters.protoToJson : AudioRtpCodecParameters → Json :=
  RtpCodec.protoToJson (.number "AudioRtpCodecParameters" "payloadType") mimeTypeAudioNaming
    .channels

def VideoRtpCodecParameters.jsonToProto : Json → Except String VideoRtpCodecParameters :=
  RtpCodec.jsonToProto "VideoRtpCodecParameters" (.number "VideoRtpCodecParameters" "payloadType")
    mimeTypeVideoNaming .absent

def VideoRtpCodecParameters.protoToJson : VideoRtpCodecParameters → Json :=
  RtpCodec.protoToJson (.number "VideoRtpCodecParameters" "payloadType") mimeTypeVideoNaming
    .absent

def RtpCodecParameters.jsonToProto : Json → Except String RtpCodecParameters :=
  CodecOneof.jsonToProto "RtpCodecParameters" AudioRtpCodecParameters.jsonToProto
    VideoRtpCodecParameters.jsonToProto

def RtpCodecParameters.protoToJson : RtpCodecParameters → Json :=
  CodecOneof.protoToJson AudioRtpCodecParameters.protoToJson VideoRtpCodecParameters.protoToJson

omit [Double.UndefinedCast] in
theorem distinctKeys_payloadType : RtpCodec.DistinctKeys "payloadType" "channels" := by decide

theorem RtpCodecParameters.restores :
    Restores protoToJson jsonToProto RtpCodecOf.canonical RtpCodecOf.Valid :=
  RtpCodecOf.restores distinctKeys_payloadType distinctKeys_payloadType

/-! ### Header extensions -/

structure RtpHeaderExtensionParameters where
  id : UInt32
  uri : RtpHeaderExtensionUri
  encrypt : Bool
  deriving DecidableEq

namespace RtpHeaderExtensionParameters

/-- `JsonToProto(RtpHeaderExtensionParameters)`. -/
def jsonToProto (json : Json) : Except String RtpHeaderExtensionParameters := do
  let id ← json.member "RtpHeaderExtensionParameters" "id" uint32?
  let uri ← json.member "RtpHeaderExtensionParameters" "uri" string?
  return {
    id
    uri := stringToRtpHeaderExtensionUri uri
    encrypt := (json.member? "encrypt" boolean?).getD false }

/-- `ProtoToJson(RtpHeaderExtensionParameters)`. -/
def protoToJson (extension : RtpHeaderExtensionParameters) : Json :=
  ofMembers [("id", uint32 extension.id),
    ("uri", string (rtpHeaderExtensionUriToString extension.uri)),
    ("encrypt", boolean extension.encrypt)]

/-- What an accepted header extension was read from. -/
theorem of_jsonToProto {json : Json} {extension : RtpHeaderExtensionParameters}
    (accepted : jsonToProto json = .ok extension) :
    json.member? "id" uint32? = some extension.id ∧
      ∃ uri, json.member? "uri" string? = some uri ∧
        extension.uri = stringToRtpHeaderExtensionUri uri := by
  obtain ⟨id, hid, rest⟩ := bind_eq_ok.mp accepted
  obtain ⟨uri, huri, rest⟩ := bind_eq_ok.mp rest
  cases rest
  exact ⟨member_eq_ok.mp hid, uri, member_eq_ok.mp huri, rfl⟩

theorem restores :
    Restores protoToJson jsonToProto (fun extension => extension) (fun _ => True) := by
  intro extension _
  simp [jsonToProto, protoToJson, member, member?, string?, boolean?, find?_ofMembers,
    SortedMap.lookup_cons_eq, Field.uint32?_uint32, read_rtpHeaderExtensionUriToString]

end RtpHeaderExtensionParameters

/-! ### Scalability modes

One member for two types: a string is a predefined mode, an object a custom one.  Anything else is
read as the mode without layers. -/

structure ScalabilityModeCustom where
  scalabilityMode : String
  spatialLayers : UInt32
  temporalLayers : UInt32
  ksvc : Bool
  deriving DecidableEq

namespace ScalabilityModeCustom

/-- `JsonToProto(ScalabilityModeCustom)`. -/
def jsonToProto (json : Json) : Except String ScalabilityModeCustom := do
  let scalabilityMode ← json.member "ScalabilityModeCustom" "scalabilityMode" string?
  let spatialLayers ← json.member "ScalabilityModeCustom" "spatialLayers" uint32?
  if spatialLayers = 0 then
    throw "ScalabilityModeCustom spatialLayers must be non-zero"
  let temporalLayers ← json.member "ScalabilityModeCustom" "temporalLayers" uint32?
  if temporalLayers = 0 then
    throw "ScalabilityModeCustom temporalLayers must be non-zero"
  let ksvc ← json.member "ScalabilityModeCustom" "ksvc" boolean?
  return { scalabilityMode, spatialLayers, temporalLayers, ksvc }

/-- `ProtoToJson(ScalabilityModeCustom)`. -/
def protoToJson (mode : ScalabilityModeCustom) : Json :=
  ofMembers [("scalabilityMode", string mode.scalabilityMode),
    ("spatialLayers", uint32 mode.spatialLayers), ("temporalLayers", uint32 mode.temporalLayers),
    ("ksvc", boolean mode.ksvc)]

/-- There are layers. -/
def Valid (mode : ScalabilityModeCustom) : Prop :=
  mode.spatialLayers ≠ 0 ∧ mode.temporalLayers ≠ 0

/-- What an accepted custom mode was read from. -/
theorem of_jsonToProto {json : Json} {mode : ScalabilityModeCustom}
    (accepted : jsonToProto json = .ok mode) :
    json.member? "scalabilityMode" string? = some mode.scalabilityMode ∧
      json.member? "spatialLayers" uint32? = some mode.spatialLayers ∧
      json.member? "temporalLayers" uint32? = some mode.temporalLayers := by
  obtain ⟨scalabilityMode, hmode, rest⟩ := bind_eq_ok.mp accepted
  obtain ⟨spatialLayers, hspatial, rest⟩ := bind_eq_ok.mp rest
  by_cases noSpatial : spatialLayers = 0
  · rw [if_pos noSpatial] at rest
    cases rest
  · rw [if_neg noSpatial] at rest
    obtain ⟨temporalLayers, htemporal, rest⟩ := bind_eq_ok.mp rest
    by_cases noTemporal : temporalLayers = 0
    · rw [if_pos noTemporal] at rest
      cases rest
    · rw [if_neg noTemporal] at rest
      obtain ⟨ksvc, -, rest⟩ := bind_eq_ok.mp rest
      cases rest
      exact ⟨member_eq_ok.mp hmode, member_eq_ok.mp hspatial, member_eq_ok.mp htemporal⟩

theorem restores : Restores protoToJson jsonToProto id Valid := by
  rintro mode ⟨spatial, temporal⟩
  simp [jsonToProto, protoToJson, member, string?, boolean?, find?_ofMembers,
    SortedMap.lookup_cons_eq, Field.uint32?_uint32, spatial, temporal]

end ScalabilityModeCustom

/-- The `oneof` of a scalability mode: one of the predefined ones, or a custom one with a name and
layers of its own. -/
inductive ScalabilityMode where
  | predefined (mode : ScalabilityModeEnum)
  | custom (mode : ScalabilityModeCustom)
  | notSet
  deriving DecidableEq

namespace ScalabilityMode

/-- `JsonToProto(ScalabilityMode)`. -/
def jsonToProto : Json → Except String ScalabilityMode
  | .string s => .ok (.predefined (stringToScalabilityModeEnum s))
  | .object members => do
      let mode ← ScalabilityModeCustom.jsonToProto (object members)
      return .custom mode
  | _ => .ok (.predefined .none)

/-- `ProtoToJson(ScalabilityMode)`. -/
def protoToJson : ScalabilityMode → Json
  | .predefined mode => string (scalabilityModeEnumToString mode)
  | .custom mode => mode.protoToJson
  | .notSet => string "L1T1"

/-- A specified mode, or a custom one with layers. -/
def Valid : ScalabilityMode → Prop
  | .predefined mode => mode ≠ .unspecified
  | .custom mode => mode.Valid
  | .notSet => False

theorem restores : Restores protoToJson jsonToProto id Valid := by
  intro mode valid
  cases mode with
  | predefined mode =>
      show Except.ok (predefined _) = _
      rw [read_scalabilityModeEnumToString valid]
      rfl
  | custom mode =>
      show (ScalabilityModeCustom.jsonToProto mode.protoToJson >>= fun mode =>
        pure (custom mode)) = _
      rw [ScalabilityModeCustom.restores mode valid]
      rfl
  | notSet => exact valid.elim

end ScalabilityMode

/-! ### Encodings

All members are optional, and one of another type counts as missing.  What an encoding can be
rejected for is a custom scalability mode. -/

structure RtpEncodingParametersRtx where
  ssrc : UInt32
  deriving DecidableEq

namespace RtpEncodingParametersRtx

/-- `JsonToProto(RtpEncodingParametersRtx)`. -/
def jsonToProto (json : Json) : RtpEncodingParametersRtx where
  ssrc := (json.member? "ssrc" uint32?).getD 0

/-- `ProtoToJson(RtpEncodingParametersRtx)`. -/
def protoToJson (rtx : RtpEncodingParametersRtx) : Json := ofMembers [("ssrc", uint32 rtx.ssrc)]

theorem jsonToProto_protoToJson (rtx : RtpEncodingParametersRtx) :
    jsonToProto rtx.protoToJson = rtx := by
  simp [jsonToProto, protoToJson, member?, find?_ofMembers, Field.uint32?_uint32]

end RtpEncodingParametersRtx

structure RtpEncodingParameters where
  ssrc : Option UInt32
  rid : Option String
  codecPayloadType : Option UInt32
  dtx : Option Bool
  maxBitrate : Option UInt32
  rtx : Option RtpEncodingParametersRtx
  scalabilityMode : Option ScalabilityMode
  deriving DecidableEq

namespace RtpEncodingParameters

/-- The member `scalabilityMode`, which may be of any type. -/
def readScalabilityMode (json : Json) : Except String (Option ScalabilityMode) :=
  match json.find? "scalabilityMode" with
  | some mode => some <$> ScalabilityMode.jsonToProto mode
  | none => .ok none

/-- `JsonToProto(RtpEncodingParameters)`. -/
def jsonToProto (json : Json) : Except String RtpEncodingParameters := do
  let rtx := json.member? "rtx" object?
  let scalabilityMode ← readScalabilityMode json
  return {
    ssrc := json.member? "ssrc" uint32?
    rid := json.member? "rid" string?
    codecPayloadType := json.member? "codecPayloadType" uint32?
    dtx := json.member? "dtx" boolean?
    maxBitrate := json.member? "maxBitrate" uint32?
    rtx := rtx.map fun members => RtpEncodingParametersRtx.jsonToProto (object members)
    scalabilityMode }

/-- The members `ProtoToJson(RtpEncodingParameters)` writes: one for each field that is
set. -/
def members (encoding : RtpEncodingParameters) : List (String × Option Json) :=
  [("ssrc", encoding.ssrc.map uint32), ("rid", encoding.rid.map string),
    ("codecPayloadType", encoding.codecPayloadType.map uint32),
    ("dtx", encoding.dtx.map boolean), ("maxBitrate", encoding.maxBitrate.map uint32),
    ("rtx", encoding.rtx.map RtpEncodingParametersRtx.protoToJson),
    ("scalabilityMode", encoding.scalabilityMode.map ScalabilityMode.protoToJson)]

/-- `ProtoToJson(RtpEncodingParameters)`. -/
def protoToJson (encoding : RtpEncodingParameters) : Json := ofOptionalMembers encoding.members

/-- The scalability mode, if present, is one that is sent. -/
def Valid (encoding : RtpEncodingParameters) : Prop :=
  ∀ mode ∈ encoding.scalabilityMode, mode.Valid

/-- What an accepted encoding was read from. -/
theorem of_jsonToProto {json : Json} {encoding : RtpEncodingParameters}
    (accepted : jsonToProto json = .ok encoding) :
    encoding.ssrc = json.member? "ssrc" uint32? ∧
      encoding.codecPayloadType = json.member? "codecPayloadType" uint32? ∧
      encoding.maxBitrate = json.member? "maxBitrate" uint32? ∧
      encoding.rtx = (json.member? "rtx" object?).map (fun members =>
        RtpEncodingParametersRtx.jsonToProto (object members)) ∧
      readScalabilityMode json = .ok encoding.scalabilityMode := by
  obtain ⟨scalabilityMode, hmode, rest⟩ := bind_eq_ok.mp accepted
  cases rest
  exact ⟨rfl, rfl, rfl, rfl, hmode⟩

omit [Double.UndefinedCast] in
theorem find?_protoToJson (encoding : RtpEncodingParameters) (key : String) :
    encoding.protoToJson.find? key = (encoding.members.lookup key).join := by
  have distinct : (encoding.members.map Prod.fst).Nodup := by
    show List.Nodup ["ssrc", "rid", "codecPayloadType", "dtx", "maxBitrate", "rtx",
      "scalabilityMode"]
    decide
  exact find?_ofOptionalMembers distinct key

theorem restores : Restores protoToJson jsonToProto id Valid := by
  intro encoding valid
  have find := encoding.find?_protoToJson
  obtain ⟨ssrc, rid, codecPayloadType, dtx, maxBitrate, rtx, scalabilityMode⟩ := encoding
  have readRtx : ((rtx.map RtpEncodingParametersRtx.protoToJson).bind object?).map
      (fun members => RtpEncodingParametersRtx.jsonToProto (object members)) = rtx := by
    cases rtx with
    | none => rfl
    | some rtx => exact congrArg some (RtpEncodingParametersRtx.jsonToProto_protoToJson rtx)
  have readMode : readScalabilityMode (protoToJson ⟨ssrc, rid, codecPayloadType, dtx, maxBitrate,
      rtx, scalabilityMode⟩) = .ok scalabilityMode := by
    simp only [readScalabilityMode, find, members, SortedMap.lookup_cons_eq]
    cases scalabilityMode with
    | none => rfl
    | some mode =>
        show some <$> ScalabilityMode.jsonToProto mode.protoToJson = .ok (some mode)
        rw [ScalabilityMode.restores mode (valid mode rfl)]
        rfl
  simp only [jsonToProto, readMode, member?, find, members, SortedMap.lookup_cons_eq]
  simp [readRtx, bind_map_of_read Field.uint32?_uint32, string?_string, boolean?_boolean]

end RtpEncodingParameters

/-! ### RTCP -/

structure RtcpParameters where
  cname : Option String
  reducedSize : Bool
  deriving DecidableEq

namespace RtcpParameters

/-- A message that is not set reads as this. -/
def default : RtcpParameters := ⟨none, false⟩

/-- `JsonToProto(RtcpParameters)`. -/
def jsonToProto (json : Json) : RtcpParameters where
  cname := json.member? "cname" string?
  reducedSize := (json.member? "reducedSize" boolean?).getD false

/-- `ProtoToJson(RtcpParameters)`. -/
def protoToJson (rtcp : RtcpParameters) : Json :=
  ofOptionalMembers [("reducedSize", some (boolean rtcp.reducedSize)),
    ("cname", rtcp.cname.map string)]

omit [Double.UndefinedCast] in
theorem jsonToProto_protoToJson (rtcp : RtcpParameters) :
    jsonToProto rtcp.protoToJson = rtcp := by
  have find : ∀ key, rtcp.protoToJson.find? key = _ :=
    find?_ofOptionalMembers (show List.Nodup ["reducedSize", "cname"] by decide)
  simp only [jsonToProto, member?, find, SortedMap.lookup_cons_eq]
  simp [string?_string, boolean?]

end RtcpParameters

/-! ### RTP parameters

The RTCP parameters are written whether they are set or not, so they come back set. -/

structure RtpParameters where
  mid : Option String
  codecs : List RtpCodecParameters
  headerExtensions : List RtpHeaderExtensionParameters
  encodings : List RtpEncodingParameters
  rtcp : Option RtcpParameters
  deriving DecidableEq

namespace RtpParameters

/-- `JsonToProto(RtpParameters)`. -/
def jsonToProto (json : Json) : Except String RtpParameters := do
  let codecs ← json.member "RtpParameters" "codecs" array?
  let codecs ← codecs.mapM RtpCodecParameters.jsonToProto
  let headerExtensions ← ((json.member? "headerExtensions" array?).getD []).mapM
    RtpHeaderExtensionParameters.jsonToProto
  let encodings ← ((json.member? "encodings" array?).getD []).mapM
    RtpEncodingParameters.jsonToProto
  return {
    mid := json.member? "mid" string?
    codecs
    headerExtensions
    encodings
    rtcp := (json.member? "rtcp" object?).map fun members =>
      RtcpParameters.jsonToProto (object members) }

/-- The members `ProtoToJson(RtpParameters)` writes. -/
def members (parameters : RtpParameters) : List (String × Option Json) :=
  [("mid", parameters.mid.map string),
    ("codecs", some (array (parameters.codecs.map RtpCodecParameters.protoToJson))),
    ("headerExtensions", some (array
      (parameters.headerExtensions.map RtpHeaderExtensionParameters.protoToJson))),
    ("encodings", some (array (parameters.encodings.map RtpEncodingParameters.protoToJson))),
    ("rtcp", some (parameters.rtcp.getD .default).protoToJson)]

/-- `ProtoToJson(RtpParameters)`. -/
def protoToJson (parameters : RtpParameters) : Json := ofOptionalMembers parameters.members

/-- What accepted parameters were read from. -/
theorem of_jsonToProto {json : Json} {parameters : RtpParameters}
    (accepted : jsonToProto json = .ok parameters) :
    (∃ codecs, json.member? "codecs" array? = some codecs ∧
        codecs.mapM RtpCodecParameters.jsonToProto = .ok parameters.codecs) ∧
      ((json.member? "headerExtensions" array?).getD []).mapM
        RtpHeaderExtensionParameters.jsonToProto = .ok parameters.headerExtensions ∧
      ((json.member? "encodings" array?).getD []).mapM RtpEncodingParameters.jsonToProto =
        .ok parameters.encodings := by
  obtain ⟨codecs, hcodecs, rest⟩ := bind_eq_ok.mp accepted
  obtain ⟨decoded, hdecoded, rest⟩ := bind_eq_ok.mp rest
  obtain ⟨extensions, hextensions, rest⟩ := bind_eq_ok.mp rest
  obtain ⟨encodings, hencodings, rest⟩ := bind_eq_ok.mp rest
  cases rest
  exact ⟨⟨codecs, member_eq_ok.mp hcodecs, hdecoded⟩, hextensions, hencodings⟩

/-- Codecs and encodings are as they are sent. -/
structure Valid (parameters : RtpParameters) : Prop where
  codecs : ∀ codec ∈ parameters.codecs, RtpCodecOf.Valid codec
  encodings : ∀ encoding ∈ parameters.encodings, encoding.Valid

/-- Parameters as they come back: those of each codec sorted, and the RTCP parameters set, to their
default if they were not. -/
def canonical (parameters : RtpParameters) : RtpParameters :=
  { parameters with
    codecs := parameters.codecs.map RtpCodecOf.canonical
    rtcp := some (parameters.rtcp.getD .default) }

theorem find?_protoToJson (parameters : RtpParameters) (key : String) :
    parameters.protoToJson.find? key = (parameters.members.lookup key).join := by
  have distinct : (parameters.members.map Prod.fst).Nodup := by
    show List.Nodup ["mid", "codecs", "headerExtensions", "encodings", "rtcp"]
    decide
  exact find?_ofOptionalMembers distinct key

theorem restores : Restores protoToJson jsonToProto canonical Valid := by
  intro parameters valid
  have find := parameters.find?_protoToJson
  have codecs := RtpCodecParameters.restores.list parameters.codecs valid.codecs
  have extensions := RtpHeaderExtensionParameters.restores.list parameters.headerExtensions
    fun _ _ => trivial
  have encodings := RtpEncodingParameters.restores.list parameters.encodings valid.encodings
  have rtcp := RtcpParameters.jsonToProto_protoToJson (parameters.rtcp.getD .default)
  rw [List.map_id'] at extensions
  rw [List.map_id] at encodings
  simp only [jsonToProto, member, member?, find, members, SortedMap.lookup_cons_eq]
  simp [array?, codecs, extensions, encodings, canonical,
    string?_string]
  exact ⟨_, rfl, rtcp⟩

/-- **RTP parameters survive the wire**: they come back as they were, with the parameters of
each codec in the order of their keys, and with the RTCP parameters set. -/
theorem parameters_roundTrip (parameters : RtpParameters) (valid : parameters.Valid) :
    jsonToProto parameters.protoToJson = .ok parameters.canonical :=
  restores parameters valid

omit [Double.UndefinedCast] in
/-- An Opus codec and two encodings. -/
theorem parameters_roundTrip_opus :
    letI := Double.x86Cast
    let parameters : RtpParameters := {
      mid := some "0"
      codecs := [.audio ⟨111, .opus, 48000, 2,
        [⟨"useinbandfec", some (.number 1)⟩, ⟨"minptime", some (.number 10)⟩],
        [⟨"transport-cc", ""⟩]⟩]
      headerExtensions := [⟨1, .mid, false⟩, ⟨2, .unspecified, true⟩]
      encodings := [⟨some 1111, none, some 111, some true, none, some ⟨2222⟩,
          some (.predefined .l1t3)⟩,
        ⟨none, some "h", none, none, some 64000, none, some (.custom ⟨"S4T2", 4, 2, false⟩)⟩]
      rtcp := none }
    jsonToProto parameters.protoToJson = .ok parameters.canonical := by
  refine @parameters_roundTrip Double.x86Cast _ ⟨?_, ?_⟩
  · rw [List.forall_mem_singleton]
    exact ⟨by decide, by decide, by decide⟩
  · rw [List.forall_mem_cons, List.forall_mem_singleton]
    constructor
    · rintro _ ⟨⟩
      show ScalabilityModeEnum.l1t3 ≠ .unspecified
      decide
    · rintro _ ⟨⟩
      show (4 : UInt32) ≠ 0 ∧ (2 : UInt32) ≠ 0
      decide

end RtpParameters

end Saasy.Wire
