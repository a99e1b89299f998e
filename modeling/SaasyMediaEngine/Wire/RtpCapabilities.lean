import SaasyMediaEngine.Wire.RtpCodecs

/-!
# RTP capabilities on the wire

`RtpCapabilities` and `RtpCapabilitiesFinalized`, which differ in whether a codec must
have a preferred payload type.

Both are `RtpCapabilitiesOf` the codecs of their family, and their converters are one pair of
functions, applied to the converters of those codecs and to the name of the message in the errors.
The two `abbrev`s that follow carry the names of the source.

`RtpCapabilitiesFinalized` is what the orchestrator sends with `LoadDevice`, and the only one for
which `proto_json_converter.h` declares a `ProtoToJson`; `RtpCapabilities` is what a device says
of itself, and goes the other way.  Both directions are defined for both in the source, and the
round trip holds of both.
-/

namespace Saasy.Wire

open Codec Json

variable [Double.UndefinedCast]

/-! ### Header extensions -/

structure RtpHeaderExtension where
  uri : RtpHeaderExtensionUri
  preferredId : UInt32
  kind : MediaKind
  preferredEncrypt : Bool
  direction : RtpHeaderExtensionDirection
  deriving DecidableEq

namespace RtpHeaderExtension

/-- `JsonToProto(RtpHeaderExtension)`. -/
def jsonToProto (json : Json) : Except String RtpHeaderExtension := do
  let uri ← json.member "RtpHeaderExtension" "uri" string?
  let preferredId ← json.member "RtpHeaderExtension" "preferredId" uint32?
  let kind ← json.member "RtpHeaderExtension" "kind" string?
  let direction := json.member? "direction" string?
  return {
    uri := stringToRtpHeaderExtensionUri uri
    preferredId
    kind := stringToMediaKind kind
    preferredEncrypt := (json.member? "preferredEncrypt" boolean?).getD false
    direction := (direction.map stringToRtpHeaderExtensionDirection).getD .unspecified }

/-- `ProtoToJson(RtpHeaderExtension)`. -/
def protoToJson (extension : RtpHeaderExtension) : Json :=
  ofMembers [("uri", string (rtpHeaderExtensionUriToString extension.uri)),
    ("preferredId", uint32 extension.preferredId),
    ("preferredEncrypt", boolean extension.preferredEncrypt),
    ("kind", string (mediaKindToString extension.kind)),
    ("direction", string (rtpHeaderExtensionDirectionToString extension.direction))]

/-- Kind and direction have a value. -/
def Valid (extension : RtpHeaderExtension) : Prop :=
  extension.kind ≠ .unspecified ∧ extension.direction ≠ .unspecified

/-- What an accepted header extension was read from. -/
theorem of_jsonToProto {json : Json} {extension : RtpHeaderExtension}
    (accepted : jsonToProto json = .ok extension) :
    (∃ uri, json.member? "uri" string? = some uri ∧
        extension.uri = stringToRtpHeaderExtensionUri uri) ∧
      json.member? "preferredId" uint32? = some extension.preferredId ∧
      (∃ kind, json.member? "kind" string? = some kind ∧
        extension.kind = stringToMediaKind kind) ∧
      extension.direction = ((json.member? "direction" string?).map
        stringToRtpHeaderExtensionDirection).getD .unspecified := by
  obtain ⟨uri, huri, rest⟩ := bind_eq_ok.mp accepted
  obtain ⟨preferredId, hpreferredId, rest⟩ := bind_eq_ok.mp rest
  obtain ⟨kind, hkind, rest⟩ := bind_eq_ok.mp rest
  cases rest
  exact ⟨⟨uri, member_eq_ok.mp huri, rfl⟩, member_eq_ok.mp hpreferredId,
    ⟨kind, member_eq_ok.mp hkind, rfl⟩, rfl⟩

theorem restores : Restores protoToJson jsonToProto id Valid := by
  rintro extension ⟨kind, direction⟩
  simp [jsonToProto, protoToJson, member, member?, string?, boolean?, find?_ofMembers,
    SortedMap.lookup_cons_eq, Field.uint32?_uint32, read_rtpHeaderExtensionUriToString,
    read_mediaKindToString kind,
    read_rtpHeaderExtensionDirectionToString direction]

end RtpHeaderExtension

/-! ### Codecs

The two families of codec messages, as instances of the general ones: the source's names with their
payload type, mime type and channels. -/

abbrev AudioRtpCodecCapability := RtpCodec (Option UInt32) MimeTypeAudio UInt32
abbrev VideoRtpCodecCapability := RtpCodec (Option UInt32) MimeTypeVideo Unit
abbrev RtpCodecCapability := RtpCodecOf (Option UInt32)

def AudioRtpCodecCapability.jsonToProto : Json → Except String AudioRtpCodecCapability :=
  RtpCodec.jsonToProto "AudioRtpCodecCapability" (.number? "preferredPayloadType")
    mimeTypeAudioNaming .channels

def AudioRtpCodecCapability.protoToJson : AudioRtpCodecCapability → Json :=
  RtpCodec.protoToJson (.number? "preferredPayloadType") mimeTypeAudioNaming .channels

def VideoRtpCodecCapability.jsonToProto : Json → Except String VideoRtpCodecCapability :=
  RtpCodec.jsonToProto "VideoRtpCodecCapability" (.number? "preferredPayloadType")
    mimeTypeVideoNaming .absent

def VideoRtpCodecCapability.protoToJson : VideoRtpCodecCapability → Json :=
  RtpCodec.protoToJson (.number? "preferredPayloadType") mimeTypeVideoNaming .absent

def RtpCodecCapability.jsonToProto : Json → Except String RtpCodecCapability :=
  CodecOneof.jsonToProto "RtpCodecCapability" AudioRtpCodecCapability.jsonToProto
    VideoRtpCodecCapability.jsonToProto

def RtpCodecCapability.protoToJson : RtpCodecCapability → Json :=
  CodecOneof.protoToJson AudioRtpCodecCapability.protoToJson VideoRtpCodecCapability.protoToJson

abbrev AudioRtpCodecCapabilityFinalized := RtpCodec UInt32 MimeTypeAudio UInt32
abbrev VideoRtpCodecCapabilityFinalized := RtpCodec UInt32 MimeTypeVideo Unit
abbrev RtpCodecCapabilityFinalized := RtpCodecOf UInt32

def AudioRtpCodecCapabilityFinalized.jsonToProto :
    Json → Except String AudioRtpCodecCapabilityFinalized :=
  RtpCodec.jsonToProto "AudioRtpCodecCapabilityFinalized"
    (.number "AudioRtpCodecCapabilityFinalized" "preferredPayloadType")
    mimeTypeAudioNaming .channels

def AudioRtpCodecCapabilityFinalized.protoToJson : AudioRtpCodecCapabilityFinalized → Json :=
  RtpCodec.protoToJson (.number "AudioRtpCodecCapabilityFinalized" "preferredPayloadType")
    mimeTypeAudioNaming .channels

def VideoRtpCodecCapabilityFinalized.jsonToProto :
    Json → Except String VideoRtpCodecCapabilityFinalized :=
  RtpCodec.jsonToProto "VideoRtpCodecCapabilityFinalized"
    (.number "VideoRtpCodecCapabilityFinalized" "preferredPayloadType")
    mimeTypeVideoNaming .absent

def VideoRtpCodecCapabilityFinalized.protoToJson : VideoRtpCodecCapabilityFinalized → Json :=
  RtpCodec.protoToJson (.number "VideoRtpCodecCapabilityFinalized" "preferredPayloadType")
    mimeTypeVideoNaming .absent

def RtpCodecCapabilityFinalized.jsonToProto : Json → Except String RtpCodecCapabilityFinalized :=
  CodecOneof.jsonToProto "RtpCodecCapabilityFinalized"
    AudioRtpCodecCapabilityFinalized.jsonToProto VideoRtpCodecCapabilityFinalized.jsonToProto

def RtpCodecCapabilityFinalized.protoToJson : RtpCodecCapabilityFinalized → Json :=
  CodecOneof.protoToJson AudioRtpCodecCapabilityFinalized.protoToJson
    VideoRtpCodecCapabilityFinalized.protoToJson

omit [Double.UndefinedCast] in
theorem distinctKeys_preferredPayloadType :
    RtpCodec.DistinctKeys "preferredPayloadType" "channels" := by decide

theorem RtpCodecCapability.restores :
    Restores protoToJson jsonToProto RtpCodecOf.canonical RtpCodecOf.Valid :=
  RtpCodecOf.restores distinctKeys_preferredPayloadType distinctKeys_preferredPayloadType

theorem RtpCodecCapabilityFinalized.restores :
    Restores protoToJson jsonToProto RtpCodecOf.canonical RtpCodecOf.Valid :=
  RtpCodecOf.restores distinctKeys_preferredPayloadType distinctKeys_preferredPayloadType

/-! ### Capabilities

The two messages differ in the family of their codecs, so there is one pair of converters for both.
-/

/-- The capabilities, with the codecs of one family.  The two messages of the source differ in this
family alone. -/
structure RtpCapabilitiesOf (Codec : Type) where
  codecs : List Codec
  headerExtensions : List RtpHeaderExtension
  deriving DecidableEq

namespace RtpCapabilitiesOf

variable {Codec : Type}

/-- What the two `JsonToProto` of capabilities do. -/
def jsonToProto (message : String) (codec : Json → Except String Codec) (json : Json) :
    Except String (RtpCapabilitiesOf Codec) := do
  let codecs ← json.member message "codecs" array?
  let codecs ← codecs.mapM codec
  let extensions ← json.member message "headerExtensions" array?
  let headerExtensions ← extensions.mapM RtpHeaderExtension.jsonToProto
  return { codecs, headerExtensions }

/-- What the two `ProtoToJson` of capabilities do. -/
def protoToJson (codec : Codec → Json) (capabilities : RtpCapabilitiesOf Codec) : Json :=
  ofMembers [("codecs", array (capabilities.codecs.map codec)),
    ("headerExtensions", array
      (capabilities.headerExtensions.map RtpHeaderExtension.protoToJson))]

/-- What accepted capabilities were read from. -/
theorem of_jsonToProto {message : String}
    {codec : Json → Except String Codec} {json : Json} {capabilities : RtpCapabilitiesOf Codec}
    (accepted : jsonToProto message codec json = .ok capabilities) :
    (∃ codecs, json.member? "codecs" array? = some codecs ∧
        codecs.mapM codec = .ok capabilities.codecs) ∧
      ∃ extensions, json.member? "headerExtensions" array? = some extensions ∧
        extensions.mapM RtpHeaderExtension.jsonToProto = .ok capabilities.headerExtensions := by
  obtain ⟨codecs, hcodecs, rest⟩ := bind_eq_ok.mp accepted
  obtain ⟨decoded, hdecoded, rest⟩ := bind_eq_ok.mp rest
  obtain ⟨extensions, hextensions, rest⟩ := bind_eq_ok.mp rest
  obtain ⟨decoded', hdecoded', rest⟩ := bind_eq_ok.mp rest
  cases rest
  exact ⟨⟨codecs, member_eq_ok.mp hcodecs, hdecoded⟩, extensions, member_eq_ok.mp hextensions,
    hdecoded'⟩

/-- Codecs and header extensions are as they are sent. -/
structure Valid (ValidCodec : Codec → Prop) (capabilities : RtpCapabilitiesOf Codec) : Prop where
  codecs : ∀ codec ∈ capabilities.codecs, ValidCodec codec
  headerExtensions : ∀ extension ∈ capabilities.headerExtensions, extension.Valid

/-- Capabilities as they come back. -/
def canonical (codec : Codec → Codec) (capabilities : RtpCapabilitiesOf Codec) :
    RtpCapabilitiesOf Codec :=
  { capabilities with codecs := capabilities.codecs.map codec }

theorem restores {message : String} {encode : Codec → Json} {decode : Json → Except String Codec}
    {canonicalCodec : Codec → Codec} {ValidCodec : Codec → Prop}
    (codec : Restores encode decode canonicalCodec ValidCodec) :
    Restores (protoToJson encode) (jsonToProto message decode) (canonical canonicalCodec)
      (Valid ValidCodec) := by
  intro capabilities valid
  have codecs := codec.list capabilities.codecs valid.codecs
  have extensions := RtpHeaderExtension.restores.list capabilities.headerExtensions
    valid.headerExtensions
  rw [List.map_id] at extensions
  simp only [jsonToProto, protoToJson, member, find?_ofMembers, List.reverse_cons,
    List.reverse_nil, List.nil_append, List.cons_append, SortedMap.lookup_cons_eq]
  simp [array?, codecs, extensions, canonical]

end RtpCapabilitiesOf

abbrev RtpCapabilities := RtpCapabilitiesOf RtpCodecCapability
abbrev RtpCapabilitiesFinalized := RtpCapabilitiesOf RtpCodecCapabilityFinalized

def RtpCapabilities.jsonToProto : Json → Except String RtpCapabilities :=
  RtpCapabilitiesOf.jsonToProto "RtpCapabilities" RtpCodecCapability.jsonToProto

def RtpCapabilities.protoToJson : RtpCapabilities → Json :=
  RtpCapabilitiesOf.protoToJson RtpCodecCapability.protoToJson

def RtpCapabilitiesFinalized.jsonToProto : Json → Except String RtpCapabilitiesFinalized :=
  RtpCapabilitiesOf.jsonToProto "RtpCapabilitiesFinalized"
    RtpCodecCapabilityFinalized.jsonToProto

def RtpCapabilitiesFinalized.protoToJson : RtpCapabilitiesFinalized → Json :=
  RtpCapabilitiesOf.protoToJson RtpCodecCapabilityFinalized.protoToJson

/-- **Capabilities survive the wire**, finalized or not: they come back as they were, with
the parameters of each codec in the order of their keys. -/
theorem RtpCapabilities.capabilities_roundTrip :
    (∀ capabilities : RtpCapabilities, capabilities.Valid RtpCodecOf.Valid →
      jsonToProto (protoToJson capabilities) =
        .ok (capabilities.canonical RtpCodecOf.canonical)) ∧
    ∀ capabilities : RtpCapabilitiesFinalized, capabilities.Valid RtpCodecOf.Valid →
      RtpCapabilitiesFinalized.jsonToProto (RtpCapabilitiesFinalized.protoToJson capabilities) =
        .ok (capabilities.canonical RtpCodecOf.canonical) :=
  ⟨RtpCapabilitiesOf.restores RtpCodecCapability.restores,
    RtpCapabilitiesOf.restores RtpCodecCapabilityFinalized.restores⟩

omit [Double.UndefinedCast] in
/-- A video codec without a payload type, and an audio codec with one. -/
theorem RtpCapabilities.capabilities_roundTrip_vp9 :
    letI := Double.x86Cast
    let capabilities : RtpCapabilities := {
      codecs := [.video ⟨none, .vp9, 90000, (),
        [⟨"x", some (.string "y")⟩, ⟨"a", some (.number 2)⟩], [⟨"nack", "pli"⟩]⟩]
      headerExtensions := [⟨.mid, 1, .video, false, .sendRecv⟩] }
    let finalized : RtpCapabilitiesFinalized := {
      codecs := [.audio ⟨100, .opus, 48000, 2, [], []⟩]
      headerExtensions := [] }
    jsonToProto (protoToJson capabilities) = .ok (capabilities.canonical RtpCodecOf.canonical) ∧
      RtpCapabilitiesFinalized.jsonToProto (RtpCapabilitiesFinalized.protoToJson finalized) =
        .ok (finalized.canonical RtpCodecOf.canonical) := by
  have theorems := @capabilities_roundTrip Double.x86Cast
  refine ⟨theorems.1 _ ⟨?_, ?_⟩, theorems.2 _ ⟨?_, ?_⟩⟩
  · rw [List.forall_mem_singleton]
    exact ⟨by decide, by decide, by decide⟩
  · rw [List.forall_mem_singleton]
    exact ⟨by decide, by decide⟩
  · rw [List.forall_mem_singleton]
    exact ⟨by decide, by decide, by decide⟩
  · exact List.forall_mem_nil _

end Saasy.Wire
