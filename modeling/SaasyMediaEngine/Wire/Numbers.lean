import Mathlib.Data.Rat.Floor
import SaasyMediaEngine.Wire.Paths
import SaasyMediaEngine.Wire.RtpCapabilities
import SaasyMediaEngine.Wire.RtpParameters

/-!
# What becomes of the numbers in an accepted document

The converters ask `is_number()` and take `get<uint32_t>()`, which casts: a number that
is not a `uint32_t` is not rejected.  `ReadFrom` is what the cast leaves of a number, and
`Origin` is where a numeric field of a message comes from, with the two fields that have
a default.  `Numeric` lists the numeric fields of each message, with their positions.

The parameters of a codec have no fixed positions.  They are compared with the members of
the object they were read from, one by one (`ParameterOf`).

`get<uint32_t>()` of a signed or unsigned number is its remainder modulo 2^32; of a `double` it is
the cast of C++, which the language leaves undefined outside the range of the target.  What the
machine does there is the parameter `UndefinedCast`, and nothing is assumed of it: so a number
that is not a `uint32_t` comes back as something else in any case, and that is all that is said.
-/

namespace Saasy.Wire

open Codec Json

/-! ### Casts

What is left of a number is one thing, and when it is the number itself another.  Both are said of
each field, as no converter tests the range before it casts. -/

/-- The number a JSON value denotes. -/
def Json.number? : Json → Option ℚ
  | numberInteger n => some n.toInt
  | numberUnsigned n => some n.toNat
  | numberFloat x => x.value?
  | _ => none

/-- What a cast leaves of a number: an integer is taken modulo `2 ^ 32`, and a double is
truncated if its integer part fits. -/
def CastOf : Json → UInt32 → Prop
  | numberInteger z, n => (n.toNat : ℤ) = z.toInt % 2 ^ 32
  | numberUnsigned z, n => n.toNat = z.toNat % 2 ^ 32
  | numberFloat x, n =>
      ∀ truncated, x.truncate? = some truncated → 0 ≤ truncated → truncated < 2 ^ 32 →
        (n.toNat : ℤ) = truncated
  | _, _ => False

/-- How a field depends on the number it was read from: it is the cast of it, and the same
number only when that is a `uint32_t`. -/
structure ReadFrom (value : Json) (n : UInt32) : Prop where
  cast : CastOf value n
  exact_iff : ∀ number, value.number? = some number →
    ((n.toNat : ℚ) = number ↔ ∃ k : ℕ, number = k ∧ k < 2 ^ 32)

theorem toNat_ofInt (z : ℤ) : ((UInt32.ofInt z).toNat : ℤ) = z % 2 ^ 32 := by
  have nonneg : 0 ≤ z % 2 ^ 32 := Int.emod_nonneg z (by decide)
  have small : z % 2 ^ 32 < 2 ^ 32 := Int.emod_lt_of_pos z (by decide)
  rw [UInt32.ofInt, UInt32.toNat_ofNat']
  omega

variable [Double.UndefinedCast]

theorem castOf_of_uint32? {value : Json} {n : UInt32} (read : value.uint32? = some n) :
    CastOf value n := by
  cases value with
  | numberInteger z =>
      cases read
      exact toNat_ofInt z.toInt
  | numberUnsigned z =>
      cases read
      rfl
  | numberFloat x =>
      cases read
      intro truncated htruncated nonneg small
      show ((x.toUInt32).toNat : ℤ) = truncated
      rw [Double.toUInt32, htruncated]
      simp only [nonneg, small, and_self, if_true]
      rw [toNat_ofInt, Int.emod_eq_of_lt nonneg small]
  | _ => cases read

omit [Double.UndefinedCast] in
/-- A number that fits is what the cast leaves of it. -/
theorem CastOf.eq_of_number? {value : Json} {n : UInt32} (cast : CastOf value n) {k : ℕ}
    (number : value.number? = some (k : ℚ)) (small : k < 2 ^ 32) : n.toNat = k := by
  cases value with
  | numberInteger z =>
      have same : z.toInt = k := by exact_mod_cast Option.some.inj number
      have cast : (n.toNat : ℤ) = z.toInt % 2 ^ 32 := cast
      omega
  | numberUnsigned z =>
      have same : z.toNat = k := by exact_mod_cast Option.some.inj number
      have cast : n.toNat = z.toNat % 2 ^ 32 := cast
      omega
  | numberFloat x =>
      have value : x.value? = some (k : ℚ) := number
      have truncated : x.truncate? = some (k : ℤ) := by
        rw [Double.truncate?, value]
        simp
      have cast := cast k truncated (Int.natCast_nonneg k) (by exact_mod_cast small)
      exact_mod_cast cast
  | _ => cases number

theorem readFrom_of_uint32? {value : Json} {n : UInt32} (read : value.uint32? = some n) :
    ReadFrom value n := by
  have cast := castOf_of_uint32? read
  refine ⟨cast, fun number hnumber => ⟨fun same => ?_, ?_⟩⟩
  · exact ⟨n.toNat, same.symm, n.toNat_lt⟩
  · rintro ⟨k, rfl, small⟩
    exact_mod_cast cast.eq_of_number? hnumber small

/-! ### Fields

A field is named by its position in the document, with the default that it may have.  That all
fields come from the document is then a statement about positions. -/

/-- How a numeric field is filled when the document has no number for it.  It depends on the field,
and only the channels take a boolean for a number. -/
inductive Absent where
  /-- It is not set, or the document is rejected. -/
  | unset
  /-- The channels of an audio codec: one, or a boolean as a number. -/
  | channels
  /-- The `ssrc` of a retransmission: zero. -/
  | rtx

/-- Where a field comes from: the number at its position, or the default of a field that has one.
-/
inductive Origin (position : Option Json) : Absent → UInt32 → Prop
  | number {absent : Absent} {value : Json} {n : UInt32} (found : position = some value)
      (read : ReadFrom value n) : Origin position absent n
  | channels (missing : position = none) : Origin position .channels 1
  | boolean {b : Bool} (found : position = some (boolean b)) :
      Origin position .channels (if b then 1 else 0)
  | rtx (missing : ∀ value ∈ position, value.uint32? = none) : Origin position .rtx 0

omit [Double.UndefinedCast] in
theorem at?_member_eq (json : Json) (key : String) :
    json.at? [.member key] = json.find? key := by
  show (json.find? key).bind some = _
  exact Option.bind_fun_some (json.find? key)

/-- Where the numeric fields of a message are read, and what they hold. -/
abbrev Fields := List PathStep → Absent → UInt32 → Prop

/-- All fields of a message come from the document, each from its own position in it. -/
def ReadsFields (fields : Fields) (json : Json) : Prop :=
  ∀ path absent n, fields path absent n → Origin (json.at? path) absent n

theorem origin_of_member? {json : Json} {key : String} {n : UInt32} {absent : Absent}
    (read : json.member? key uint32? = some n) : Origin (json.at? [.member key]) absent n := by
  obtain ⟨value, found, hvalue⟩ := Option.bind_eq_some_iff.mp read
  exact .number ((at?_member_eq json key).trans found) (readFrom_of_uint32? hvalue)

theorem origin_of_valueUInt32 {json : Json} {n : UInt32}
    (read : json.valueUInt32 "channels" 1 = .ok n) :
    Origin (json.at? [.member "channels"]) .channels n := by
  rw [at?_member_eq]
  cases json with
  | object members =>
      show Origin (members.lookup "channels") .channels n
      rw [valueUInt32] at read
      cases found : members.lookup "channels" with
      | none =>
          rw [found] at read
          cases read
          exact .channels rfl
      | some value =>
          rw [found] at read
          change value.getUInt32 = .ok n at read
          rw [getUInt32] at read
          cases number : value.uint32? with
          | some m =>
              rw [number] at read
              cases read
              exact .number rfl (readFrom_of_uint32? number)
          | none =>
              rw [number] at read
              cases value with
              | boolean b =>
                  cases read
                  exact .boolean rfl
              | _ => cases read
  | _ => cases read

/-- The fields of an element of an array, at the element's position. -/
theorem ReadsFields.element {α : Type} {fields : α → Fields} {decode : Json → Except String α}
    {json : Json} {key : String} {values : List α}
    (each : ∀ json value, decode json = .ok value → ReadsFields (fields value) json)
    (decoded : ((json.member? key array?).getD []).mapM decode = .ok values)
    {index : ℕ} {value : α} (found : values[index]? = some value) {path : List PathStep}
    {absent : Absent} {n : UInt32} (field : fields value path absent n) :
    Origin (json.at? (.member key :: .element index :: path)) absent n := by
  obtain ⟨element, helement, position⟩ := exists_element_of_decoded decoded found
  rw [position]
  exact each element value helement path absent n field

/-! ### Codecs

The codecs of the two families differ in the name and the presence of the payload type, which is
why both are parameters here. -/

/-- How a codec parameter depends on the member it was read from. -/
def ParameterOf (member : String × Json) (parameter : RtpCodecParametersParameters) : Prop :=
  parameter.key = member.1 ∧
    match parameter.value with
    | some (.string s) => member.2 = string s
    | some (.number n) => ReadFrom member.2 n
    | none => member.2.string? = none ∧ member.2.uint32? = none

theorem parameterOf_ofMember (member : String × Json) :
    ParameterOf member (.ofMember member) := by
  obtain ⟨key, value⟩ := member
  refine ⟨rfl, ?_⟩
  cases value with
  | string s => rfl
  | numberInteger z => exact readFrom_of_uint32? rfl
  | numberUnsigned z => exact readFrom_of_uint32? rfl
  | numberFloat x => exact readFrom_of_uint32? rfl
  | null => exact ⟨rfl, rfl⟩
  | boolean b => exact ⟨rfl, rfl⟩
  | array elements => exact ⟨rfl, rfl⟩
  | object members => exact ⟨rfl, rfl⟩

namespace RtpCodecOf

variable {Payload : Type}

/-- The parameters of a codec of either kind. -/
def parameters : RtpCodecOf Payload → List RtpCodecParametersParameters
  | .audio codec => codec.parameters
  | .video codec => codec.parameters
  | .notSet => []

/-- The numeric fields of a codec: `held` is the payload type, if there is one. -/
inductive Numeric (key : String) (held : Payload → Option UInt32) : RtpCodecOf Payload → Fields
  | audioPayloadType {codec : RtpCodec Payload MimeTypeAudio UInt32} {n : UInt32}
      (set : held codec.payloadType = some n) :
      Numeric key held (.audio codec) [.member key] .unset n
  | audioClockRate {codec : RtpCodec Payload MimeTypeAudio UInt32} :
      Numeric key held (.audio codec) [.member "clockRate"] .unset codec.clockRate
  | audioChannels {codec : RtpCodec Payload MimeTypeAudio UInt32} :
      Numeric key held (.audio codec) [.member "channels"] .channels codec.channels
  | videoPayloadType {codec : RtpCodec Payload MimeTypeVideo Unit} {n : UInt32}
      (set : held codec.payloadType = some n) :
      Numeric key held (.video codec) [.member key] .unset n
  | videoClockRate {codec : RtpCodec Payload MimeTypeVideo Unit} :
      Numeric key held (.video codec) [.member "clockRate"] .unset codec.clockRate

/-- A codec keeps its numbers and its parameters. -/
structure Numbers (key : String) (held : Payload → Option UInt32) (json : Json)
    (codec : RtpCodecOf Payload) : Prop where
  fields : ReadsFields (Numeric key held codec) json
  parameters : List.Forall₂ ParameterOf ((json.member? "parameters" object?).getD [])
    codec.parameters

theorem parameters_of_reads {Mime Channels : Type} {payload : Field Payload}
    {mime : Naming String Mime} {channels : Field Channels} {json : Json}
    {codec : RtpCodec Payload Mime Channels}
    (reads : RtpCodec.Reads payload mime channels json codec) :
    List.Forall₂ ParameterOf ((json.member? "parameters" object?).getD []) codec.parameters := by
  rw [reads.parameters]
  cases json.member? "parameters" object? with
  | none => exact .nil
  | some members =>
      show List.Forall₂ ParameterOf members (members.map .ofMember)
      rw [List.forall₂_map_right_iff]
      exact List.forall₂_same.mpr fun member _ => parameterOf_ofMember member

theorem numbers {message audioMessage videoMessage : String} {audio video : Field Payload}
    {key : String} {held : Payload → Option UInt32}
    (readsAudio : ∀ json payload n, audio.read json = .ok payload → held payload = some n →
      json.member? key uint32? = some n)
    (readsVideo : ∀ json payload n, video.read json = .ok payload → held payload = some n →
      json.member? key uint32? = some n)
    (json : Json) (codec : RtpCodecOf Payload)
    (accepted : CodecOneof.jsonToProto message
      (RtpCodec.jsonToProto audioMessage audio mimeTypeAudioNaming .channels)
      (RtpCodec.jsonToProto videoMessage video mimeTypeVideoNaming .absent) json = .ok codec) :
    Numbers key held json codec := by
  cases CodecOneof.of_jsonToProto accepted with
  | audio _ _ reads =>
      have reads := RtpCodec.of_jsonToProto reads
      refine ⟨?_, parameters_of_reads reads⟩
      intro path absent n field
      cases field with
      | audioPayloadType set => exact origin_of_member? (readsAudio _ _ _ reads.payloadType set)
      | audioClockRate => exact origin_of_member? reads.clockRate
      | audioChannels => exact origin_of_valueUInt32 reads.channels
  | video _ _ _ reads =>
      have reads := RtpCodec.of_jsonToProto reads
      refine ⟨?_, parameters_of_reads reads⟩
      intro path absent n field
      cases field with
      | videoPayloadType set => exact origin_of_member? (readsVideo _ _ _ reads.payloadType set)
      | videoClockRate => exact origin_of_member? reads.clockRate

end RtpCodecOf

theorem RtpCodecCapability.numbers (json : Json) (codec : RtpCodecCapability)
    (accepted : jsonToProto json = .ok codec) :
    RtpCodecOf.Numbers "preferredPayloadType" (fun payloadType => payloadType) json codec := by
  refine RtpCodecOf.numbers ?_ ?_ json codec accepted
  · intro json payload n read set
    cases read
    exact set
  · intro json payload n read set
    cases read
    exact set

theorem RtpCodecParameters.numbers (json : Json) (codec : RtpCodecParameters)
    (accepted : jsonToProto json = .ok codec) :
    RtpCodecOf.Numbers "payloadType" some json codec := by
  refine RtpCodecOf.numbers ?_ ?_ json codec accepted
  · rintro json payload n read ⟨⟩
    exact member_eq_ok.mp read
  · rintro json payload n read ⟨⟩
    exact member_eq_ok.mp read

/-! ### Header extensions and encodings -/

inductive RtpHeaderExtension.Numeric (extension : RtpHeaderExtension) : Fields
  | preferredId : Numeric extension [.member "preferredId"] .unset extension.preferredId

theorem RtpHeaderExtension.readsFields (json : Json) (extension : RtpHeaderExtension)
    (accepted : jsonToProto json = .ok extension) : ReadsFields extension.Numeric json := by
  rintro path absent n ⟨⟩
  obtain ⟨-, preferredId, -⟩ := of_jsonToProto accepted
  exact origin_of_member? preferredId

inductive RtpHeaderExtensionParameters.Numeric (extension : RtpHeaderExtensionParameters) : Fields
  | id : Numeric extension [.member "id"] .unset extension.id

theorem RtpHeaderExtensionParameters.readsFields (json : Json)
    (extension : RtpHeaderExtensionParameters) (accepted : jsonToProto json = .ok extension) :
    ReadsFields extension.Numeric json := by
  rintro path absent n ⟨⟩
  obtain ⟨id, -⟩ := of_jsonToProto accepted
  exact origin_of_member? id

inductive RtpEncodingParameters.Numeric (encoding : RtpEncodingParameters) : Fields
  | ssrc {n : UInt32} (set : encoding.ssrc = some n) : Numeric encoding [.member "ssrc"] .unset n
  | codecPayloadType {n : UInt32} (set : encoding.codecPayloadType = some n) :
      Numeric encoding [.member "codecPayloadType"] .unset n
  | maxBitrate {n : UInt32} (set : encoding.maxBitrate = some n) :
      Numeric encoding [.member "maxBitrate"] .unset n
  | rtx {rtx : RtpEncodingParametersRtx} (set : encoding.rtx = some rtx) :
      Numeric encoding [.member "rtx", .member "ssrc"] .rtx rtx.ssrc
  | spatialLayers {mode : ScalabilityModeCustom}
      (set : encoding.scalabilityMode = some (.custom mode)) :
      Numeric encoding [.member "scalabilityMode", .member "spatialLayers"] .unset
        mode.spatialLayers
  | temporalLayers {mode : ScalabilityModeCustom}
      (set : encoding.scalabilityMode = some (.custom mode)) :
      Numeric encoding [.member "scalabilityMode", .member "temporalLayers"] .unset
        mode.temporalLayers

omit [Double.UndefinedCast] in
/-- A field of a member that is an object. -/
theorem at?_member_member {json child : Json} {key key' : String}
    (found : json.find? key = some child) :
    json.at? [.member key, .member key'] = child.at? [.member key'] := by
  show (json.find? key).bind _ = _
  rw [found]
  rfl

theorem RtpEncodingParameters.exists_custom {json : Json} {mode : ScalabilityModeCustom}
    (read : readScalabilityMode json = .ok (some (.custom mode))) :
    ∃ child, json.find? "scalabilityMode" = some child ∧
      ScalabilityModeCustom.jsonToProto child = .ok mode := by
  rw [readScalabilityMode] at read
  cases found : json.find? "scalabilityMode" with
  | none =>
      rw [found] at read
      cases read
  | some child =>
      rw [found] at read
      obtain ⟨decoded, hdecoded, same⟩ := bind_eq_ok.mp read
      cases same
      refine ⟨child, rfl, ?_⟩
      cases child with
      | object members =>
          obtain ⟨custom, hcustom, same⟩ := bind_eq_ok.mp hdecoded
          cases same
          exact hcustom
      | _ => cases hdecoded

theorem RtpEncodingParameters.readsFields (json : Json) (encoding : RtpEncodingParameters)
    (accepted : jsonToProto json = .ok encoding) : ReadsFields encoding.Numeric json := by
  obtain ⟨ssrc, codecPayloadType, maxBitrate, rtx, scalabilityMode⟩ := of_jsonToProto accepted
  intro path absent n field
  cases field with
  | ssrc set => exact origin_of_member? (ssrc.symm.trans set)
  | codecPayloadType set => exact origin_of_member? (codecPayloadType.symm.trans set)
  | maxBitrate set => exact origin_of_member? (maxBitrate.symm.trans set)
  | rtx set =>
      obtain ⟨members, hmembers, rfl⟩ := Option.map_eq_some_iff.mp (rtx.symm.trans set)
      obtain ⟨child, found, hchild⟩ := Option.bind_eq_some_iff.mp hmembers
      cases child with
      | object members' =>
          cases hchild
          rw [at?_member_member found]
          cases read : (object members).member? "ssrc" uint32? with
          | some n =>
              rw [RtpEncodingParametersRtx.jsonToProto, read]
              exact origin_of_member? read
          | none =>
              rw [RtpEncodingParametersRtx.jsonToProto, read, at?_member_eq]
              exact .rtx fun value hvalue => Option.bind_eq_none_iff.mp read value hvalue
      | _ => cases hchild
  | spatialLayers set =>
      obtain ⟨child, found, read⟩ := exists_custom (set ▸ scalabilityMode)
      obtain ⟨-, spatial, -⟩ := ScalabilityModeCustom.of_jsonToProto read
      rw [at?_member_member found]
      exact origin_of_member? spatial
  | temporalLayers set =>
      obtain ⟨child, found, read⟩ := exists_custom (set ▸ scalabilityMode)
      obtain ⟨-, -, temporal⟩ := ScalabilityModeCustom.of_jsonToProto read
      rw [at?_member_member found]
      exact origin_of_member? temporal

/-! ### Whole messages

An array puts its elements at their indices, so the fields of a message are those of its parts,
further down. -/

inductive RtpCapabilities.Numeric (capabilities : RtpCapabilities) : Fields
  | codec {index : ℕ} {codec : RtpCodecCapability} {path : List PathStep} {absent : Absent}
      {n : UInt32} (found : capabilities.codecs[index]? = some codec)
      (field : RtpCodecOf.Numeric "preferredPayloadType" (fun payloadType => payloadType) codec
        path absent n) :
      Numeric capabilities (.member "codecs" :: .element index :: path) absent n
  | headerExtension {index : ℕ} {extension : RtpHeaderExtension} {path : List PathStep}
      {absent : Absent} {n : UInt32}
      (found : capabilities.headerExtensions[index]? = some extension)
      (field : extension.Numeric path absent n) :
      Numeric capabilities (.member "headerExtensions" :: .element index :: path) absent n

inductive RtpParameters.Numeric (parameters : RtpParameters) : Fields
  | codec {index : ℕ} {codec : RtpCodecParameters} {path : List PathStep} {absent : Absent}
      {n : UInt32} (found : parameters.codecs[index]? = some codec)
      (field : RtpCodecOf.Numeric "payloadType" some codec path absent n) :
      Numeric parameters (.member "codecs" :: .element index :: path) absent n
  | headerExtension {index : ℕ} {extension : RtpHeaderExtensionParameters}
      {path : List PathStep} {absent : Absent} {n : UInt32}
      (found : parameters.headerExtensions[index]? = some extension)
      (field : extension.Numeric path absent n) :
      Numeric parameters (.member "headerExtensions" :: .element index :: path) absent n
  | encoding {index : ℕ} {encoding : RtpEncodingParameters} {path : List PathStep}
      {absent : Absent} {n : UInt32} (found : parameters.encodings[index]? = some encoding)
      (field : encoding.Numeric path absent n) :
      Numeric parameters (.member "encodings" :: .element index :: path) absent n

/-- The parameters of all codecs are those of the document. -/
def KeepsParameters {Payload : Type} (json : Json) (codecs : List (RtpCodecOf Payload)) : Prop :=
  ∀ index codec, codecs[index]? = some codec →
    List.Forall₂ ParameterOf
      (((json.at? [.member "codecs", .element index, .member "parameters"]).bind object?).getD [])
      (RtpCodecOf.parameters codec)

theorem keepsParameters_of_decoded {Payload : Type} {key : String}
    {held : Payload → Option UInt32} {json : Json} {codecs : List (RtpCodecOf Payload)}
    {decode : Json → Except String (RtpCodecOf Payload)}
    (each : ∀ json codec, decode json = .ok codec → RtpCodecOf.Numbers key held json codec)
    (decoded : ((json.member? "codecs" array?).getD []).mapM decode = .ok codecs) :
    KeepsParameters json codecs := by
  intro index codec found
  obtain ⟨element, helement, position⟩ := exists_element_of_decoded decoded found
  rw [position, at?_member_eq]
  exact (each element codec helement).parameters

theorem RtpCapabilities.readsFields {json : Json} {capabilities : RtpCapabilities}
    (accepted : jsonToProto json = .ok capabilities) :
    ReadsFields capabilities.Numeric json ∧ KeepsParameters json capabilities.codecs := by
  obtain ⟨⟨codecs, hcodecs, decodedCodecs⟩, extensions, hextensions, decodedExtensions⟩ :=
    RtpCapabilitiesOf.of_jsonToProto accepted
  have codecs : ((json.member? "codecs" array?).getD []).mapM RtpCodecCapability.jsonToProto =
      .ok capabilities.codecs := by
    rw [hcodecs]
    exact decodedCodecs
  have extensions : ((json.member? "headerExtensions" array?).getD []).mapM
      RtpHeaderExtension.jsonToProto = .ok capabilities.headerExtensions := by
    rw [hextensions]
    exact decodedExtensions
  refine ⟨?_, keepsParameters_of_decoded RtpCodecCapability.numbers codecs⟩
  intro path absent n field
  cases field with
  | codec found field =>
      exact ReadsFields.element (fun json codec accepted =>
        (RtpCodecCapability.numbers json codec accepted).fields) codecs found field
  | headerExtension found field =>
      exact ReadsFields.element RtpHeaderExtension.readsFields extensions found field

theorem RtpParameters.readsFields {json : Json} {parameters : RtpParameters}
    (accepted : jsonToProto json = .ok parameters) :
    ReadsFields parameters.Numeric json ∧ KeepsParameters json parameters.codecs := by
  obtain ⟨⟨codecs, hcodecs, decodedCodecs⟩, extensions, encodings⟩ := of_jsonToProto accepted
  have codecs : ((json.member? "codecs" array?).getD []).mapM RtpCodecParameters.jsonToProto =
      .ok parameters.codecs := by
    rw [hcodecs]
    exact decodedCodecs
  refine ⟨?_, keepsParameters_of_decoded RtpCodecParameters.numbers codecs⟩
  intro path absent n field
  cases field with
  | codec found field =>
      exact ReadsFields.element (fun json codec accepted =>
        (RtpCodecParameters.numbers json codec accepted).fields) codecs found field
  | headerExtension found field =>
      exact ReadsFields.element RtpHeaderExtensionParameters.readsFields extensions found field
  | encoding found field =>
      exact ReadsFields.element RtpEncodingParameters.readsFields encodings found field

/-- **What becomes of the numbers of an accepted document**: every numeric field is the cast
of the number at its position, hence that number when it is a `uint32_t` and no other, and
every codec parameter keeps its key, with its string or the cast of its number. -/
theorem readsFields_of_accepted :
    (∀ json parameters, RtpParameters.jsonToProto json = .ok parameters →
      ReadsFields parameters.Numeric json ∧ KeepsParameters json parameters.codecs) ∧
    ∀ json capabilities, RtpCapabilities.jsonToProto json = .ok capabilities →
      ReadsFields (RtpCapabilities.Numeric capabilities) json ∧
        KeepsParameters json capabilities.codecs :=
  ⟨fun _ _ => RtpParameters.readsFields, fun _ _ => RtpCapabilities.readsFields⟩

omit [Double.UndefinedCast] in
/-- Parameters with an audio codec; and capabilities with a video codec, whose payload type is
beyond 32 bits, and a header extension. -/
theorem readsFields_of_accepted_opus :
    letI := Double.x86Cast
    let opus := ofMembers [("mimeType", string "audio/opus"), ("payloadType", numberInteger (-1)),
      ("clockRate", numberUnsigned 48000),
      ("parameters", ofMembers [("useinbandfec", numberUnsigned 1)])]
    let parameters := ofMembers [("codecs", array [opus])]
    let vp9 := ofMembers [("mimeType", string "video/VP9"),
      ("preferredPayloadType", numberUnsigned 4294967398), ("clockRate", numberUnsigned 90000),
      ("parameters", ofMembers [("profile-id", numberInteger (-2))])]
    let mid := ofMembers [("uri", string "urn:ietf:params:rtp-hdrext:sdes:mid"),
      ("preferredId", numberUnsigned 1), ("kind", string "video")]
    let capabilities := ofMembers [("codecs", array [vp9]), ("headerExtensions", array [mid])]
    (∃ decoded, RtpParameters.jsonToProto parameters = .ok decoded ∧
      ReadsFields decoded.Numeric parameters ∧ KeepsParameters parameters decoded.codecs) ∧
    ∃ decoded, RtpCapabilities.jsonToProto capabilities = .ok decoded ∧
      ReadsFields (RtpCapabilities.Numeric decoded) capabilities ∧
        KeepsParameters capabilities decoded.codecs := by
  have theorems := @readsFields_of_accepted Double.x86Cast
  exact ⟨⟨_, rfl, theorems.1 _ _ rfl⟩, _, rfl, theorems.2 _ _ rfl⟩

omit [Double.UndefinedCast] in
/-- A negative payload type, a clock rate between two numbers and a parameter beyond 32 bits
are accepted and altered, and a boolean parameter is dropped. -/
theorem not_numbers_of_accepted :
    letI := Double.x86Cast
    let opus := ofMembers [("mimeType", string "audio/opus"), ("payloadType", numberInteger (-1)),
      ("clockRate", numberFloat (.finite 96001 (-1) (by decide))),
      ("parameters", ofMembers [("stereo", boolean true), ("x", numberUnsigned 4294967301)])]
    RtpParameters.jsonToProto (ofMembers [("codecs", array [opus])]) = .ok {
      mid := none
      codecs := [.audio ⟨4294967295, .opus, 48000, 1,
        [⟨"stereo", none⟩, ⟨"x", some (.number 5)⟩], []⟩]
      headerExtensions := []
      encodings := []
      rtcp := none } := by
  decide +kernel

end Saasy.Wire
