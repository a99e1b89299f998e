import SaasyMediaEngine.Codec.Settling
import SaasyMediaEngine.Wire.Dtls
import SaasyMediaEngine.Wire.RtpCapabilities
import SaasyMediaEngine.Wire.RtpParameters

/-!
# What the converters write is a normal form

The converters accept unknown names, missing members and values of other types, and each of
them gets a value that can be written.  So `ProtoToJson` after `JsonToProto` is a normalisation:
what it returns is accepted, and returned again as it is.

`Tidying` does the bookkeeping for each message: a parameter that lost its value is dropped, a
role or a direction that is not set becomes the one that is written for it.

The proof follows the documents from the leaves up.  For each message there is a `tidy`, which
turns a value that was read into one for which the round trip of `Wire.Dtls`, `Wire.RtpParameters`
or `Wire.RtpCapabilities` holds, and two facts about it: a tidy value is written as the untidy one
was, and a value that was read is tidied into a valid one.  The round trips are used as they are,
and none of the converters is taken apart again.
-/

namespace Saasy.Wire

open Codec Json

/-! ### DTLS

The role that was not in the document is the one thing to tidy: it is written as `auto`, and read
as that. -/

theorem DtlsFingerprint.jsonToProto_specified {json : Json} {fingerprint : DtlsFingerprint}
    (accepted : jsonToProto json = .ok fingerprint) : fingerprint.algorithm ≠ .unspecified := by
  obtain ⟨algorithm, -, decoded⟩ := of_jsonToProto accepted
  rw [decoded]
  exact dtlsFingerprintAlgorithmNaming.forall_read (· ≠ .unspecified) (by decide) (by decide)
    algorithm

def DtlsFingerprint.tidying :
    Tidying protoToJson jsonToProto id
      (fun fingerprint : DtlsFingerprint => fingerprint.algorithm ≠ .unspecified) where
  tidy := id
  valid := jsonToProto_specified
  encode_tidy _ := rfl
  encode_canonical _ := rfl

namespace DtlsParameters

/-- The role that is written. -/
def tidy (parameters : DtlsParameters) : DtlsParameters :=
  { parameters with role := dtlsRoleNaming.settle parameters.role }

theorem protoToJson_tidy (parameters : DtlsParameters) :
    parameters.tidy.protoToJson = parameters.protoToJson := by
  obtain ⟨role, fingerprints⟩ := parameters
  cases role <;> rfl

def tidying : Tidying protoToJson jsonToProto id Specified where
  tidy := tidy
  valid {json parameters} accepted := by
    obtain ⟨-, fingerprints, found, decoded⟩ := of_jsonToProto accepted
    refine ⟨?_, ?_, ?_⟩
    · show dtlsRoleNaming.settle parameters.role ≠ .unspecified
      cases parameters.role <;> decide
    · -- an empty list was refused
      rintro (none : parameters.fingerprints = [])
      rw [none, mapM_eq_ok_iff, List.forall₂_nil_right_iff] at decoded
      obtain ⟨read, hread, rest⟩ := bind_eq_ok.mp accepted
      obtain rfl : read = [] :=
        (Option.some.inj ((member_eq_ok.mp hread).symm.trans found)).trans decoded
      cases rest
    · have each : ∀ fingerprint ∈ parameters.fingerprints.map id, fingerprint.algorithm ≠ _ :=
        DtlsFingerprint.tidying.list.valid decoded
      rwa [List.map_id] at each
  encode_tidy := protoToJson_tidy
  encode_canonical _ := rfl

end DtlsParameters

/-! ### Codecs

Parameters are tidied by writing and reading them, so what has no value or is overwritten by
another one under its key is gone. -/

namespace RtpCodecParametersParameters

variable [Double.UndefinedCast]

/-- What is written for a parameter reads as one with a value, which is written alike. -/
theorem ofMember_toMember? {parameter : RtpCodecParametersParameters} {member : String × Json}
    (written : parameter.toMember? = some member) :
    (ofMember member).value.isSome = true ∧ (ofMember member).toMember? = some member := by
  obtain ⟨key, value⟩ := parameter
  cases value with
  | none => cases written
  | some value =>
      cases value with
      | string s =>
          cases written
          exact ⟨rfl, rfl⟩
      | number n =>
          cases written
          simp only [ofMember, toMember?, string?, Field.uint32?_uint32]
          exact ⟨rfl, rfl⟩

end RtpCodecParametersParameters

section Parameters

variable [Double.UndefinedCast] (parameters : List RtpCodecParametersParameters)

/-- The members that are written. -/
def writtenMembers : List (String × Json) :=
  SortedMap.ofList (parameters.filterMap RtpCodecParametersParameters.toMember?)

/-- The parameters as they are written. -/
def tidyParameters : List RtpCodecParametersParameters :=
  jsonObjectToParameters (writtenMembers parameters)

theorem of_mem_writtenMembers {member : String × Json} (mem : member ∈ writtenMembers parameters) :
    (RtpCodecParametersParameters.ofMember member).value.isSome = true ∧
      (RtpCodecParametersParameters.ofMember member).toMember? = some member := by
  obtain ⟨parameter, -, written⟩ := List.mem_filterMap.mp (SortedMap.mem_of_mem_ofList mem)
  exact RtpCodecParametersParameters.ofMember_toMember? written

theorem validParameters_tidyParameters : ValidParameters (tidyParameters parameters) where
  distinct := by
    rw [tidyParameters, jsonObjectToParameters, List.map_map]
    exact (SortedMap.ordered_ofList _).nodup_keys
  set parameter mem := by
    obtain ⟨member, written, rfl⟩ := List.mem_map.mp mem
    exact (of_mem_writtenMembers parameters written).1

theorem parametersToJsonObject_tidyParameters :
    parametersToJsonObject (tidyParameters parameters) = parametersToJsonObject parameters := by
  have same : (tidyParameters parameters).filterMap RtpCodecParametersParameters.toMember? =
      writtenMembers parameters := by
    rw [tidyParameters, jsonObjectToParameters, List.filterMap_map]
    calc
      _ = (writtenMembers parameters).filterMap some :=
        List.filterMap_congr fun member mem => (of_mem_writtenMembers parameters mem).2
      _ = writtenMembers parameters := List.filterMap_some
  rw [parametersToJsonObject, same, parametersToJsonObject, ofMembers, writtenMembers,
    (SortedMap.ordered_ofList _).ofList_eq]
  rfl

variable {parameters}

/-- Valid parameters are sorted, and nothing else. -/
theorem parametersToJsonObject_sortParameters (valid : ValidParameters parameters) :
    parametersToJsonObject (sortParameters parameters) = parametersToJsonObject parameters := by
  have sorted : tidyParameters parameters = sortParameters parameters :=
    Option.some.inj (jsonObjectToParameters_parametersToJsonObject valid)
  rw [← sorted, parametersToJsonObject_tidyParameters]

end Parameters

namespace RtpCodec

variable [Double.UndefinedCast] {Payload Mime Channels : Type} {payload : Field Payload}
  {mime : Naming String Mime} {channels : Field Channels}

omit [Double.UndefinedCast] in
/-- Mime type and parameters of a codec matter as they are written. -/
theorem protoToJson_congr {codec : RtpCodec Payload Mime Channels} {mimeType : Mime}
    {parameters : List RtpCodecParametersParameters}
    (sameType : mime.print mimeType = mime.print codec.mimeType)
    (same : parametersToJsonObject parameters = parametersToJsonObject codec.parameters) :
    protoToJson payload mime channels { codec with mimeType, parameters } =
      protoToJson payload mime channels codec := by
  simp only [protoToJson, sameType, same]

/-- A codec as it is written. -/
def tidy (mime : Naming String Mime) (codec : RtpCodec Payload Mime Channels) :
    RtpCodec Payload Mime Channels :=
  { codec with
    mimeType := mime.settle codec.mimeType
    parameters := tidyParameters codec.parameters }

end RtpCodec

/-! ### Codecs of either kind -/

theorem settle_mimeTypeAudio (mimeType : MimeTypeAudio) :
    mimeTypeAudioNaming.print (mimeTypeAudioNaming.settle mimeType) =
        mimeTypeAudioNaming.print mimeType ∧
      mimeTypeAudioNaming.settle mimeType ≠ .unspecified := by
  cases mimeType <;> decide

theorem settle_mimeTypeVideo (mimeType : MimeTypeVideo) :
    mimeTypeVideoNaming.print (mimeTypeVideoNaming.settle mimeType) =
        mimeTypeVideoNaming.print mimeType ∧
      mimeTypeVideoNaming.settle mimeType ≠ .unspecified := by
  cases mimeType <;> decide

namespace RtpCodecOf

variable [Double.UndefinedCast] {Payload : Type} {audio video : Field Payload}
  {message audioMessage videoMessage : String}

def tidy : RtpCodecOf Payload → RtpCodecOf Payload
  | .audio codec => .audio (codec.tidy mimeTypeAudioNaming)
  | .video codec => .video (codec.tidy mimeTypeVideoNaming)
  | .notSet => .notSet

def tidying :
    Tidying
      (CodecOneof.protoToJson (RtpCodec.protoToJson audio mimeTypeAudioNaming .channels)
        (RtpCodec.protoToJson video mimeTypeVideoNaming .absent))
      (CodecOneof.jsonToProto message
        (RtpCodec.jsonToProto audioMessage audio mimeTypeAudioNaming .channels)
        (RtpCodec.jsonToProto videoMessage video mimeTypeVideoNaming .absent))
      canonical Valid where
  tidy := tidy
  valid accepted := by
    cases CodecOneof.of_jsonToProto accepted with
    | audio => exact ⟨(settle_mimeTypeAudio _).2, validParameters_tidyParameters _⟩
    | video => exact ⟨(settle_mimeTypeVideo _).2, validParameters_tidyParameters _⟩
  encode_tidy codec := by
    cases codec with
    | audio codec =>
        exact RtpCodec.protoToJson_congr (settle_mimeTypeAudio _).1
          (parametersToJsonObject_tidyParameters _)
    | video codec =>
        exact RtpCodec.protoToJson_congr (settle_mimeTypeVideo _).1
          (parametersToJsonObject_tidyParameters _)
    | notSet => rfl
  encode_canonical {codec} valid := by
    cases codec with
    | audio codec | video codec =>
        exact RtpCodec.protoToJson_congr rfl (parametersToJsonObject_sortParameters valid.2)
    | notSet => rfl

end RtpCodecOf

/-! ### Capabilities -/

section Capabilities

variable [Double.UndefinedCast]

namespace RtpHeaderExtension

/-- Kind and direction as they are written. -/
def tidy (extension : RtpHeaderExtension) : RtpHeaderExtension :=
  { extension with
    kind := mediaKindNaming.settle extension.kind
    direction := rtpHeaderExtensionDirectionNaming.settle extension.direction }

def tidying : Tidying protoToJson jsonToProto id Valid where
  tidy := tidy
  valid {_ extension} _ := by
    refine ⟨?_, ?_⟩
    · show mediaKindNaming.settle extension.kind ≠ .unspecified
      cases extension.kind <;> decide
    · show rtpHeaderExtensionDirectionNaming.settle extension.direction ≠ .unspecified
      cases extension.direction <;> decide
  encode_tidy extension := by
    obtain ⟨uri, preferredId, kind, preferredEncrypt, direction⟩ := extension
    have sameKind : mediaKindToString (mediaKindNaming.settle kind) = mediaKindToString kind := by
      cases kind <;> decide
    have sameDirection : rtpHeaderExtensionDirectionToString
        (rtpHeaderExtensionDirectionNaming.settle direction) =
          rtpHeaderExtensionDirectionToString direction := by
      cases direction <;> decide
    simp only [protoToJson, tidy, sameKind, sameDirection]
  encode_canonical _ := rfl

end RtpHeaderExtension

namespace RtpCapabilitiesOf

variable {Codec : Type} {message : String} {encode : Codec → Json}
  {decode : Json → Except String Codec} {canonicalCodec : Codec → Codec}
  {ValidCodec : Codec → Prop}

def tidying (codec : Tidying encode decode canonicalCodec ValidCodec) :
    Tidying (protoToJson encode) (jsonToProto message decode) (canonical canonicalCodec)
      (Valid ValidCodec) where
  tidy capabilities :=
    ⟨codec.list.tidy capabilities.codecs,
      RtpHeaderExtension.tidying.list.tidy capabilities.headerExtensions⟩
  valid accepted := by
    obtain ⟨⟨codecs, -, decodedCodecs⟩, extensions, -, decodedExtensions⟩ :=
      of_jsonToProto accepted
    exact ⟨codec.list.valid decodedCodecs,
      RtpHeaderExtension.tidying.list.valid decodedExtensions⟩
  encode_tidy capabilities := by
    simp only [protoToJson, codec.list.encode_tidy, RtpHeaderExtension.tidying.list.encode_tidy]
  encode_canonical {capabilities} valid := by
    have codecs := codec.list.encode_canonical valid.codecs
    simp only [protoToJson, canonical, codecs]

end RtpCapabilitiesOf

end Capabilities

/-! ### RTP parameters -/

section Parameters

variable [Double.UndefinedCast]

/-- A custom mode that was read has layers. -/
theorem ScalabilityModeCustom.valid_of_jsonToProto {json : Json} {mode : ScalabilityModeCustom}
    (accepted : jsonToProto json = .ok mode) : mode.Valid := by
  obtain ⟨scalabilityMode, -, rest⟩ := bind_eq_ok.mp accepted
  obtain ⟨spatialLayers, -, rest⟩ := bind_eq_ok.mp rest
  by_cases noSpatial : spatialLayers = 0
  · rw [if_pos noSpatial] at rest
    cases rest
  · rw [if_neg noSpatial] at rest
    obtain ⟨temporalLayers, -, rest⟩ := bind_eq_ok.mp rest
    by_cases noTemporal : temporalLayers = 0
    · rw [if_pos noTemporal] at rest
      cases rest
    · rw [if_neg noTemporal] at rest
      obtain ⟨ksvc, -, ⟨⟩⟩ := bind_eq_ok.mp rest
      exact ⟨noSpatial, noTemporal⟩

omit [Double.UndefinedCast] in
theorem settle_scalabilityModeEnum (mode : ScalabilityModeEnum) :
    scalabilityModeEnumNaming.print (scalabilityModeEnumNaming.settle mode) =
        scalabilityModeEnumNaming.print mode ∧
      scalabilityModeEnumNaming.settle mode ≠ .unspecified := by
  cases mode <;> decide

namespace ScalabilityMode

/-- The mode that is written. -/
def tidy : ScalabilityMode → ScalabilityMode
  | .predefined mode => .predefined (scalabilityModeEnumNaming.settle mode)
  | .custom mode => .custom mode
  | .notSet => .predefined .none

def tidying : Tidying protoToJson jsonToProto id Valid where
  tidy := tidy
  valid {json mode} accepted := by
    cases mode with
    | predefined mode => exact (settle_scalabilityModeEnum mode).2
    | custom mode =>
        cases json with
        | object members =>
            obtain ⟨read, hread, ⟨⟩⟩ := bind_eq_ok.mp accepted
            exact ScalabilityModeCustom.valid_of_jsonToProto hread
        | _ => cases accepted
    | notSet =>
        show ScalabilityModeEnum.none ≠ .unspecified
        decide
  encode_tidy mode := by
    cases mode with
    | predefined mode => exact congrArg string (settle_scalabilityModeEnum mode).1
    | custom mode => rfl
    | notSet => rfl
  encode_canonical _ := rfl

end ScalabilityMode

def RtpEncodingParameters.tidying : Tidying protoToJson jsonToProto id Valid where
  tidy encoding :=
    { encoding with scalabilityMode := encoding.scalabilityMode.map ScalabilityMode.tidy }
  valid {json encoding} accepted := by
    obtain ⟨-, -, -, -, read⟩ := of_jsonToProto accepted
    rintro _ mem
    obtain ⟨mode, set, rfl⟩ := Option.map_eq_some_iff.mp mem
    unfold readScalabilityMode at read
    split at read
    case h_1 found =>
      rw [set] at read
      obtain ⟨decoded, hdecoded, ⟨⟩⟩ := bind_eq_ok.mp read
      exact ScalabilityMode.tidying.valid hdecoded
    case h_2 =>
      rw [set] at read
      cases read
  encode_tidy encoding := by
    have same : (encoding.scalabilityMode.map ScalabilityMode.tidy).map
        ScalabilityMode.protoToJson = encoding.scalabilityMode.map ScalabilityMode.protoToJson := by
      rw [Option.map_map]
      exact Option.map_congr fun mode _ => ScalabilityMode.tidying.encode_tidy mode
    simp only [protoToJson, members, same]
  encode_canonical _ := rfl

namespace RtpParameters

def codecTidying : Tidying RtpCodecParameters.protoToJson RtpCodecParameters.jsonToProto
    RtpCodecOf.canonical RtpCodecOf.Valid :=
  RtpCodecOf.tidying

def tidying : Tidying protoToJson jsonToProto canonical Valid where
  tidy parameters :=
    { parameters with
      codecs := parameters.codecs.map RtpCodecOf.tidy
      encodings := parameters.encodings.map RtpEncodingParameters.tidying.tidy }
  valid accepted := by
    obtain ⟨⟨codecs, -, decodedCodecs⟩, -, decodedEncodings⟩ := of_jsonToProto accepted
    exact ⟨codecTidying.list.valid decodedCodecs,
      RtpEncodingParameters.tidying.list.valid decodedEncodings⟩
  encode_tidy parameters := by
    have codecs : (parameters.codecs.map RtpCodecOf.tidy).map RtpCodecParameters.protoToJson =
        parameters.codecs.map RtpCodecParameters.protoToJson :=
      codecTidying.list.encode_tidy parameters.codecs
    have encodings := RtpEncodingParameters.tidying.list.encode_tidy parameters.encodings
    change (parameters.encodings.map _).map _ = _ at encodings
    simp only [protoToJson, members, codecs, encodings]
  encode_canonical {parameters} valid := by
    have codecs : (parameters.codecs.map RtpCodecOf.canonical).map RtpCodecParameters.protoToJson =
        parameters.codecs.map RtpCodecParameters.protoToJson :=
      codecTidying.list.encode_canonical valid.codecs
    simp only [protoToJson, members, canonical, codecs, Option.getD_some]

end RtpParameters

end Parameters

/-! ### The four formats

Each format is restored where it is valid, by its own module, and tidied by this one; the statement
follows from the two. -/

/-- **What `ProtoToJson` returns for an accepted document is accepted by `JsonToProto`, and
returned again as it is**: for DTLS parameters, RTP parameters and RTP capabilities, finalized or
not, whatever names, types and members the document had. -/
theorem settles_of_accepted [Double.UndefinedCast] :
    (∀ json parameters, DtlsParameters.jsonToProto json = .ok parameters →
      ∃ settled, DtlsParameters.jsonToProto parameters.protoToJson = .ok settled ∧
        settled.protoToJson = parameters.protoToJson) ∧
    (∀ json parameters, RtpParameters.jsonToProto json = .ok parameters →
      ∃ settled, RtpParameters.jsonToProto parameters.protoToJson = .ok settled ∧
        settled.protoToJson = parameters.protoToJson) ∧
    (∀ json capabilities, RtpCapabilities.jsonToProto json = .ok capabilities →
      ∃ settled, RtpCapabilities.jsonToProto (RtpCapabilities.protoToJson capabilities) =
          .ok settled ∧
        RtpCapabilities.protoToJson settled = RtpCapabilities.protoToJson capabilities) ∧
    ∀ json capabilities, RtpCapabilitiesFinalized.jsonToProto json = .ok capabilities →
      ∃ settled, RtpCapabilitiesFinalized.jsonToProto
          (RtpCapabilitiesFinalized.protoToJson capabilities) = .ok settled ∧
        RtpCapabilitiesFinalized.protoToJson settled =
          RtpCapabilitiesFinalized.protoToJson capabilities :=
  ⟨DtlsParameters.tidying.settles DtlsParameters.restores,
    RtpParameters.tidying.settles RtpParameters.restores,
    (RtpCapabilitiesOf.tidying RtpCodecOf.tidying).settles
      (RtpCapabilitiesOf.restores RtpCodecCapability.restores),
    (RtpCapabilitiesOf.tidying RtpCodecOf.tidying).settles
      (RtpCapabilitiesOf.restores RtpCodecCapabilityFinalized.restores)⟩

/-- A role that is not in the table. -/
def actpassParameters : Json :=
  ofMembers [("role", string "actpass"),
    ("fingerprints", array [ofMembers [("algorithm", string "md5"), ("value", string "00")]])]

/-- A mode that is none. -/
def looseParameters : Json :=
  ofMembers [("codecs", array []),
    ("encodings", array [ofMembers [("ssrc", numberUnsigned 7),
      ("scalabilityMode", string "L9T9")]])]

/-- A codec that is not in the table. -/
def ulpfecCapabilities : Json :=
  ofMembers [("codecs", array [ofMembers [("mimeType", string "audio/ulpfec"),
      ("preferredPayloadType", numberUnsigned 100), ("clockRate", numberUnsigned 8000)]]),
    ("headerExtensions", array [])]

/-- They settle after one turn. -/
theorem settles_of_accepted_loose :
    letI := Double.x86Cast
    (∃ decoded, DtlsParameters.jsonToProto actpassParameters = .ok decoded ∧
      ∃ settled, DtlsParameters.jsonToProto decoded.protoToJson = .ok settled ∧
        settled.protoToJson = decoded.protoToJson) ∧
    (∃ decoded, RtpParameters.jsonToProto looseParameters = .ok decoded ∧
      ∃ settled, RtpParameters.jsonToProto decoded.protoToJson = .ok settled ∧
        settled.protoToJson = decoded.protoToJson) ∧
    (∃ decoded, RtpCapabilities.jsonToProto ulpfecCapabilities = .ok decoded ∧
      ∃ settled, RtpCapabilities.jsonToProto (RtpCapabilities.protoToJson decoded) =
          .ok settled ∧
        RtpCapabilities.protoToJson settled = RtpCapabilities.protoToJson decoded) ∧
    ∃ decoded, RtpCapabilitiesFinalized.jsonToProto ulpfecCapabilities = .ok decoded ∧
      ∃ settled, RtpCapabilitiesFinalized.jsonToProto
          (RtpCapabilitiesFinalized.protoToJson decoded) = .ok settled ∧
        RtpCapabilitiesFinalized.protoToJson settled =
          RtpCapabilitiesFinalized.protoToJson decoded := by
  have theorems := @settles_of_accepted Double.x86Cast
  exact ⟨⟨_, rfl, theorems.1 actpassParameters _ rfl⟩,
    ⟨_, rfl, theorems.2.1 looseParameters _ rfl⟩,
    ⟨_, rfl, theorems.2.2.1 ulpfecCapabilities _ rfl⟩, _, rfl,
    theorems.2.2.2 ulpfecCapabilities _ rfl⟩

end Saasy.Wire
