import SaasyMediaEngine.Wire.Dtls
import SaasyMediaEngine.Wire.Paths
import SaasyMediaEngine.Wire.RtpCapabilities
import SaasyMediaEngine.Wire.RtpParameters

/-!
# What becomes of the names in an accepted document

A document is decoded and encoded again.  A name that is in its table comes back at the
position where it was.  No decoder rejects a name that is not: it takes its fallback,
and what comes back is the name the encoder has for that.  Only a codec whose mime type
starts with neither `audio/` nor `video/` is rejected.

`Spelling` is what holds at a position: the names of the table, and what every other
name turns into.  `Respells` says that all the
positions of a kind of document behave that way; it is proved from the leaves up.

A position is a path through the document, so the property is about every enumerated name at
once, however deep it stands, and not about one field at a time.  What the spelling of a position
is follows from its place alone: `Positions` lists, for each kind of document, the paths to its
enumerated names, and the array indices in them are free.  `Respells` then compares the document
that was accepted with the one that is written for it: where the first has a string at the path,
the second has the respelled one.
-/

namespace Saasy.Wire

open Codec Json

/-! ### Spellings

What comes back for a name depends on the position where it stands.  A position of an enumeration
has a table, and a string that is copied has none. -/

/-- The names that come back as they are, and what every other one turns into, which may depend on
the name. -/
structure Spelling where
  names : List String
  otherwise : String → String

/-- What comes back for a name. -/
def Spelling.respell (spelling : Spelling) (s : String) : String :=
  if s ∈ spelling.names then s else spelling.otherwise s

/-- The spelling of an enumeration. -/
def namingSpelling {α : Type} (naming : Naming String α) : Spelling where
  names := naming.table.map Prod.fst
  otherwise _ := naming.print naming.fallback

theorem respell_namingSpelling {α : Type} (naming : Naming String α) (s : String) :
    (namingSpelling naming).respell s = naming.print (naming.read s) :=
  (naming.print_read s).symm

/-- The spelling of mime types, with a table for each kind of codec. -/
def mimeTypeSpelling : Spelling where
  names := (namingSpelling mimeTypeAudioNaming).names ++ (namingSpelling mimeTypeVideoNaming).names
  otherwise s := if startsWith "audio/" s then "audio/opus" else "video/VP8"

/-- The spelling of a string that is copied. -/
def anySpelling : Spelling := ⟨[], id⟩

theorem respell_mimeTypeSpelling_audio {s : String} (kind : startsWith "audio/" s = true) :
    mimeTypeSpelling.respell s = mimeTypeAudioNaming.print (mimeTypeAudioNaming.read s) := by
  rw [← respell_namingSpelling]
  have other : s ∉ (namingSpelling mimeTypeVideoNaming).names := by
    intro known
    have videos : ∀ name ∈ (namingSpelling mimeTypeVideoNaming).names,
        startsWith "audio/" name = false := by decide
    exact absurd (kind.symm.trans (videos s known)) (by decide)
  unfold Spelling.respell mimeTypeSpelling
  simp only [List.mem_append, other, or_false, kind, if_true]
  rfl

theorem respell_mimeTypeSpelling_video {s : String} (kind : startsWith "audio/" s = false) :
    mimeTypeSpelling.respell s = mimeTypeVideoNaming.print (mimeTypeVideoNaming.read s) := by
  rw [← respell_namingSpelling]
  have other : s ∉ (namingSpelling mimeTypeAudioNaming).names := by
    intro known
    have audios : ∀ name ∈ (namingSpelling mimeTypeAudioNaming).names,
        startsWith "audio/" name = true := by decide
    exact absurd (kind.symm.trans (audios s known)) (by decide)
  unfold Spelling.respell mimeTypeSpelling
  simp only [List.mem_append, other, false_or, kind]
  rfl

/-- Which spelling holds at which position. -/
abbrev Positions := List PathStep → Spelling → Prop

/-- The names at these positions of one document come back in the other as they are respelled, and
in the same places. -/
def Respells (positions : Positions) (json reencoded : Json) : Prop :=
  ∀ path spelling s, positions path spelling → json.at? path = some (string s) →
    reencoded.at? path = some (string (spelling.respell s))

/-- The elements of an array, from each of them. -/
theorem Respells.elements {α : Type} {positions : Positions} {decode : Json → Except String α}
    {encode : α → Json} {json reencoded : Json} {key : String} {values : List α}
    (each : ∀ json value, decode json = .ok value → Respells positions json (encode value))
    (decoded : ((json.member? key array?).getD []).mapM decode = .ok values)
    (written : reencoded.find? key = some (array (values.map encode)))
    {index : ℕ} {path : List PathStep} {spelling : Spelling} {s : String}
    (position : positions path spelling)
    (found : json.at? (.member key :: .element index :: path) = some (string s)) :
    reencoded.at? (.member key :: .element index :: path) =
      some (string (spelling.respell s)) := by
  obtain ⟨element, value, leaf, helement, hvalue⟩ := exists_decoded_of_at? decoded found
  refine Json.at?_member.mpr ⟨_, written, Json.at?_element.mpr ⟨_, encode value, rfl, ?_, ?_⟩⟩
  · rw [List.getElem?_map, hvalue]
    rfl
  · exact each _ _ helement _ _ _ position leaf

/-! ### DTLS parameters -/

inductive DtlsFingerprint.Enumerated : Positions
  | algorithm : Enumerated [.member "algorithm"] (namingSpelling dtlsFingerprintAlgorithmNaming)

inductive DtlsParameters.Enumerated : Positions
  | role : Enumerated [.member "role"] (namingSpelling dtlsRoleNaming)
  | fingerprint (index : ℕ) {path : List PathStep} {spelling : Spelling}
      (position : DtlsFingerprint.Enumerated path spelling) :
      Enumerated (.member "fingerprints" :: .element index :: path) spelling

theorem DtlsFingerprint.respells (json : Json) (fingerprint : DtlsFingerprint)
    (accepted : jsonToProto json = .ok fingerprint) :
    Respells Enumerated json fingerprint.protoToJson := by
  rintro path spelling s ⟨⟩ found
  obtain ⟨algorithm, halgorithm, decoded⟩ := of_jsonToProto accepted
  obtain rfl : algorithm = s := Option.some.inj (halgorithm.symm.trans (Json.at?_leaf found))
  rw [respell_namingSpelling, Json.at?_member, protoToJson, find?_ofMembers, decoded]
  exact ⟨_, rfl, rfl⟩

theorem DtlsParameters.respells (json : Json) (parameters : DtlsParameters)
    (accepted : jsonToProto json = .ok parameters) :
    Respells Enumerated json parameters.protoToJson := by
  obtain ⟨role, fingerprints, hfingerprints, decoded⟩ := of_jsonToProto accepted
  intro path spelling s position found
  cases position with
  | role =>
      rw [Json.at?_leaf found] at role
      rw [respell_namingSpelling, Json.at?_member, protoToJson, find?_ofMembers, role]
      exact ⟨_, rfl, rfl⟩
  | fingerprint index position =>
      refine Respells.elements DtlsFingerprint.respells ?_ (find?_ofMembers _ _) position found
      rw [hfingerprints]
      exact decoded

/-! ### Codecs -/

inductive CodecOneof.Enumerated : Positions
  | mimeType : Enumerated [.member "mimeType"] mimeTypeSpelling

section

variable [Double.UndefinedCast] {Payload : Type} {message audioMessage videoMessage : String}
  {audio video : Field Payload}

theorem RtpCodecOf.respells (distinctAudio : RtpCodec.DistinctKeys audio.key Field.channels.key)
    (distinctVideo : RtpCodec.DistinctKeys video.key Field.absent.key) (json : Json)
    (codec : RtpCodecOf Payload)
    (accepted : CodecOneof.jsonToProto message
      (RtpCodec.jsonToProto audioMessage audio mimeTypeAudioNaming .channels)
      (RtpCodec.jsonToProto videoMessage video mimeTypeVideoNaming .absent) json = .ok codec) :
    Respells CodecOneof.Enumerated json
      (CodecOneof.protoToJson (RtpCodec.protoToJson audio mimeTypeAudioNaming .channels)
        (RtpCodec.protoToJson video mimeTypeVideoNaming .absent) codec) := by
  rintro path spelling s ⟨⟩ found
  have leaf := Json.at?_leaf found
  rw [Json.at?_member]
  cases CodecOneof.of_jsonToProto accepted with
  | @audio mimeType codec hfound kind reads =>
      obtain rfl : mimeType = s := Option.some.inj (hfound.symm.trans leaf)
      obtain ⟨mimeType', hmimeType', decoded⟩ := (RtpCodec.of_jsonToProto reads).mimeType
      obtain rfl : mimeType' = mimeType := Option.some.inj (hmimeType'.symm.trans leaf)
      obtain ⟨members, json, -, -, written, -⟩ :=
        RtpCodec.protoToJson_eq_object distinctAudio mimeTypeAudioNaming codec
      rw [respell_mimeTypeSpelling_audio kind, ← decoded]
      exact ⟨_, (congrArg (find? · "mimeType") json).trans written, rfl⟩
  | @video mimeType codec hfound other kind reads =>
      obtain rfl : mimeType = s := Option.some.inj (hfound.symm.trans leaf)
      obtain ⟨mimeType', hmimeType', decoded⟩ := (RtpCodec.of_jsonToProto reads).mimeType
      obtain rfl : mimeType' = mimeType := Option.some.inj (hmimeType'.symm.trans leaf)
      obtain ⟨members, json, -, -, written, -⟩ :=
        RtpCodec.protoToJson_eq_object distinctVideo mimeTypeVideoNaming codec
      rw [respell_mimeTypeSpelling_video other, ← decoded]
      exact ⟨_, (congrArg (find? · "mimeType") json).trans written, rfl⟩

theorem RtpCodecCapability.respells (json : Json) (codec : RtpCodecCapability)
    (accepted : jsonToProto json = .ok codec) :
    Respells CodecOneof.Enumerated json (protoToJson codec) :=
  RtpCodecOf.respells distinctKeys_preferredPayloadType distinctKeys_preferredPayloadType json
    codec accepted

theorem RtpCodecParameters.respells (json : Json) (codec : RtpCodecParameters)
    (accepted : jsonToProto json = .ok codec) :
    Respells CodecOneof.Enumerated json (protoToJson codec) :=
  RtpCodecOf.respells distinctKeys_payloadType distinctKeys_payloadType json codec accepted

/-! ### RTP capabilities -/

inductive RtpHeaderExtension.Enumerated : Positions
  | uri : Enumerated [.member "uri"] (namingSpelling rtpHeaderExtensionUriNaming)
  | kind : Enumerated [.member "kind"] (namingSpelling mediaKindNaming)
  | direction : Enumerated [.member "direction"] (namingSpelling rtpHeaderExtensionDirectionNaming)

inductive RtpCapabilities.Enumerated : Positions
  | codec (index : ℕ) {path : List PathStep} {spelling : Spelling}
      (position : CodecOneof.Enumerated path spelling) :
      Enumerated (.member "codecs" :: .element index :: path) spelling
  | headerExtension (index : ℕ) {path : List PathStep} {spelling : Spelling}
      (position : RtpHeaderExtension.Enumerated path spelling) :
      Enumerated (.member "headerExtensions" :: .element index :: path) spelling

theorem RtpHeaderExtension.respells (json : Json) (extension : RtpHeaderExtension)
    (accepted : jsonToProto json = .ok extension) :
    Respells Enumerated json extension.protoToJson := by
  obtain ⟨⟨uri, huri, decodedUri⟩, -, ⟨kind, hkind, decodedKind⟩, decodedDirection⟩ :=
    of_jsonToProto accepted
  intro path spelling s position found
  cases position with
  | uri =>
      obtain rfl : uri = s := Option.some.inj (huri.symm.trans (Json.at?_leaf found))
      rw [respell_namingSpelling, Json.at?_member, protoToJson, find?_ofMembers, decodedUri]
      exact ⟨_, rfl, rfl⟩
  | kind =>
      obtain rfl : kind = s := Option.some.inj (hkind.symm.trans (Json.at?_leaf found))
      rw [respell_namingSpelling, Json.at?_member, protoToJson, find?_ofMembers, decodedKind]
      exact ⟨_, rfl, rfl⟩
  | direction =>
      rw [Json.at?_leaf found] at decodedDirection
      rw [respell_namingSpelling, Json.at?_member, protoToJson, find?_ofMembers,
        decodedDirection]
      exact ⟨_, rfl, rfl⟩

theorem RtpCapabilities.respells (json : Json) (capabilities : RtpCapabilities)
    (accepted : jsonToProto json = .ok capabilities) :
    Respells Enumerated json (protoToJson capabilities) := by
  obtain ⟨⟨codecs, hcodecs, decodedCodecs⟩, extensions, hextensions, decodedExtensions⟩ :=
    RtpCapabilitiesOf.of_jsonToProto accepted
  intro path spelling s position found
  cases position with
  | codec index position =>
      refine Respells.elements RtpCodecCapability.respells ?_ (find?_ofMembers _ _) position found
      rw [hcodecs]
      exact decodedCodecs
  | headerExtension index position =>
      refine Respells.elements RtpHeaderExtension.respells ?_ (find?_ofMembers _ _) position found
      rw [hextensions]
      exact decodedExtensions

/-! ### RTP parameters -/

inductive RtpHeaderExtensionParameters.Enumerated : Positions
  | uri : Enumerated [.member "uri"] (namingSpelling rtpHeaderExtensionUriNaming)

/-- A predefined mode is a string and is looked up; a custom one is an object with a name, which is
free and comes back as it is. -/
inductive RtpEncodingParameters.Enumerated : Positions
  | predefined : Enumerated [.member "scalabilityMode"] (namingSpelling scalabilityModeEnumNaming)
  | custom : Enumerated [.member "scalabilityMode", .member "scalabilityMode"] anySpelling

inductive RtpParameters.Enumerated : Positions
  | codec (index : ℕ) {path : List PathStep} {spelling : Spelling}
      (position : CodecOneof.Enumerated path spelling) :
      Enumerated (.member "codecs" :: .element index :: path) spelling
  | headerExtension (index : ℕ) {path : List PathStep} {spelling : Spelling}
      (position : RtpHeaderExtensionParameters.Enumerated path spelling) :
      Enumerated (.member "headerExtensions" :: .element index :: path) spelling
  | encoding (index : ℕ) {path : List PathStep} {spelling : Spelling}
      (position : RtpEncodingParameters.Enumerated path spelling) :
      Enumerated (.member "encodings" :: .element index :: path) spelling

theorem RtpHeaderExtensionParameters.respells (json : Json)
    (extension : RtpHeaderExtensionParameters) (accepted : jsonToProto json = .ok extension) :
    Respells Enumerated json extension.protoToJson := by
  rintro path spelling s ⟨⟩ found
  obtain ⟨-, uri, huri, decoded⟩ := of_jsonToProto accepted
  obtain rfl : uri = s := Option.some.inj (huri.symm.trans (Json.at?_leaf found))
  rw [respell_namingSpelling, Json.at?_member, protoToJson, find?_ofMembers, decoded]
  exact ⟨_, rfl, rfl⟩

theorem RtpEncodingParameters.respells (json : Json) (encoding : RtpEncodingParameters)
    (accepted : jsonToProto json = .ok encoding) :
    Respells Enumerated json encoding.protoToJson := by
  obtain ⟨-, -, -, -, decoded⟩ := of_jsonToProto accepted
  have written : encoding.protoToJson.find? "scalabilityMode" =
      encoding.scalabilityMode.map ScalabilityMode.protoToJson := by
    rw [find?_protoToJson]
    rfl
  -- the mode that was read, if there was one
  have mode : ∀ child, json.find? "scalabilityMode" = some child →
      ∃ mode, ScalabilityMode.jsonToProto child = .ok mode ∧
        encoding.scalabilityMode = some mode := by
    intro child hchild
    rw [readScalabilityMode, hchild] at decoded
    obtain ⟨mode, hmode, same⟩ := bind_eq_ok.mp decoded
    exact ⟨mode, hmode, (Except.ok.inj same).symm⟩
  intro path spelling s position found
  cases position with
  | predefined =>
      obtain ⟨child, hchild, leaf⟩ := Json.at?_member.mp found
      cases leaf
      obtain ⟨mode, hmode, same⟩ := mode _ hchild
      cases hmode
      rw [same] at written
      rw [respell_namingSpelling]
      exact Json.at?_member.mpr ⟨_, written, rfl⟩
  | custom =>
      obtain ⟨child, hchild, inside⟩ := Json.at?_member.mp found
      obtain ⟨mode, hmode, same⟩ := mode _ hchild
      rw [same] at written
      have name := Json.at?_leaf inside
      -- only an object has a member
      cases child with
      | object members =>
          obtain ⟨custom, hcustom, h⟩ := bind_eq_ok.mp hmode
          cases h
          obtain ⟨read, -⟩ := ScalabilityModeCustom.of_jsonToProto hcustom
          obtain rfl : custom.scalabilityMode = s := Option.some.inj (read.symm.trans name)
          refine Json.at?_member.mpr ⟨_, written, Json.at?_member.mpr ?_⟩
          show ∃ child, custom.protoToJson.find? "scalabilityMode" = some child ∧ _
          rw [ScalabilityModeCustom.protoToJson, find?_ofMembers]
          exact ⟨_, rfl, rfl⟩
      | _ => cases name

theorem RtpParameters.respells (json : Json) (parameters : RtpParameters)
    (accepted : jsonToProto json = .ok parameters) :
    Respells Enumerated json parameters.protoToJson := by
  obtain ⟨⟨codecs, hcodecs, decodedCodecs⟩, decodedExtensions, decodedEncodings⟩ :=
    of_jsonToProto accepted
  intro path spelling s position found
  cases position with
  | codec index position =>
      refine Respells.elements RtpCodecParameters.respells ?_ (find?_protoToJson _ _) position found
      rw [hcodecs]
      exact decodedCodecs
  | headerExtension index position =>
      exact Respells.elements RtpHeaderExtensionParameters.respells decodedExtensions
        (find?_protoToJson _ _) position found
  | encoding index position =>
      exact Respells.elements RtpEncodingParameters.respells decodedEncodings
        (find?_protoToJson _ _) position found

/-! ### Mime types that are rejected

A mime type decides whether a codec is audio or video, so of an unknown one the prefix has to be
known. -/

/-- A codec is one of audio or of video. -/
def Prefixed (mimeType : String) : Prop :=
  startsWith "audio/" mimeType = true ∨ startsWith "video/" mimeType = true

omit [Double.UndefinedCast] in
theorem CodecOneof.prefixed {Audio Video : Type} {message : String}
    {audio : Json → Except String Audio} {video : Json → Except String Video} {json : Json}
    {codec : CodecOneof Audio Video} (accepted : jsonToProto message audio video json = .ok codec)
    {mimeType : String} (found : json.at? [.member "mimeType"] = some (string mimeType)) :
    Prefixed mimeType := by
  have leaf := Json.at?_leaf found
  cases of_jsonToProto accepted with
  | audio hfound kind _ =>
      cases hfound.symm.trans leaf
      exact .inl kind
  | video hfound _ kind _ =>
      cases hfound.symm.trans leaf
      exact .inr kind

/-- The mime types of all codecs of a document start as they should. -/
def MimeTypesPrefixed (json : Json) : Prop :=
  ∀ index mimeType,
    json.at? [.member "codecs", .element index, .member "mimeType"] = some (string mimeType) →
      Prefixed mimeType

theorem RtpParameters.mimeTypesPrefixed {json : Json} {parameters : RtpParameters}
    (accepted : jsonToProto json = .ok parameters) : MimeTypesPrefixed json := by
  intro index mimeType found
  obtain ⟨⟨codecs, hcodecs, decoded⟩, -⟩ := of_jsonToProto accepted
  have elements : ((json.member? "codecs" array?).getD []).mapM RtpCodecParameters.jsonToProto =
      .ok parameters.codecs := by
    rw [hcodecs]
    exact decoded
  obtain ⟨element, codec, leaf, read, -⟩ := exists_decoded_of_at? elements found
  exact CodecOneof.prefixed read leaf

theorem RtpCapabilities.mimeTypesPrefixed {json : Json} {capabilities : RtpCapabilities}
    (accepted : jsonToProto json = .ok capabilities) : MimeTypesPrefixed json := by
  intro index mimeType found
  obtain ⟨⟨codecs, hcodecs, decoded⟩, -⟩ := RtpCapabilitiesOf.of_jsonToProto accepted
  have elements : ((json.member? "codecs" array?).getD []).mapM RtpCodecCapability.jsonToProto =
      .ok capabilities.codecs := by
    rw [hcodecs]
    exact decoded
  obtain ⟨element, codec, leaf, read, -⟩ := exists_decoded_of_at? elements found
  exact CodecOneof.prefixed read leaf

/-! ### All documents

The three messages together.  What a name turns into when it is not in the table is part of the
statement, as it is what the other side gets to read. -/

/-- **What becomes of the enumerated names of an accepted document**: at every position, a
name of the table is kept, and another turns into the encoder's default.  The mime types
are those of audio or of video. -/
theorem respells_of_accepted :
    (∀ json parameters, DtlsParameters.jsonToProto json = .ok parameters →
      Respells DtlsParameters.Enumerated json parameters.protoToJson) ∧
    (∀ json parameters, RtpParameters.jsonToProto json = .ok parameters →
      Respells RtpParameters.Enumerated json parameters.protoToJson ∧ MimeTypesPrefixed json) ∧
    ∀ json capabilities, RtpCapabilities.jsonToProto json = .ok capabilities →
      Respells RtpCapabilities.Enumerated json (RtpCapabilities.protoToJson capabilities) ∧
        MimeTypesPrefixed json :=
  ⟨DtlsParameters.respells,
    fun json parameters accepted => ⟨RtpParameters.respells json parameters accepted,
      RtpParameters.mimeTypesPrefixed accepted⟩,
    fun json capabilities accepted => ⟨RtpCapabilities.respells json capabilities accepted,
      RtpCapabilities.mimeTypesPrefixed accepted⟩⟩

omit [Double.UndefinedCast] in
theorem respells_of_accepted_client :
    letI := Double.x86Cast
    let fingerprint := ofMembers [("algorithm", string "md5"), ("value", string "00")]
    let dtls := ofMembers [("role", string "client"), ("fingerprints", array [fingerprint])]
    let opus := ofMembers [("mimeType", string "audio/opus"), ("payloadType", numberUnsigned 100),
      ("clockRate", numberUnsigned 48000)]
    let parameters := ofMembers [("codecs", array [opus])]
    let extension := ofMembers [("uri", string "urn:x"), ("preferredId", numberUnsigned 1),
      ("kind", string "video")]
    let capabilities := ofMembers [("codecs", array []), ("headerExtensions", array [extension])]
    (∃ decoded, DtlsParameters.jsonToProto dtls = .ok decoded ∧
      Respells DtlsParameters.Enumerated dtls decoded.protoToJson) ∧
    (∃ decoded, RtpParameters.jsonToProto parameters = .ok decoded ∧
      Respells RtpParameters.Enumerated parameters decoded.protoToJson ∧
        MimeTypesPrefixed parameters) ∧
    ∃ decoded, RtpCapabilities.jsonToProto capabilities = .ok decoded ∧
      Respells RtpCapabilities.Enumerated capabilities (RtpCapabilities.protoToJson decoded) ∧
        MimeTypesPrefixed capabilities := by
  have theorems := @respells_of_accepted Double.x86Cast
  exact ⟨⟨_, rfl, theorems.1 _ _ rfl⟩, ⟨_, rfl, theorems.2.1 _ _ rfl⟩, _, rfl,
    theorems.2.2 _ _ rfl⟩

omit [Double.UndefinedCast] in
/-- A role that is not in the table comes back as another, and so does a codec. -/
theorem not_reencoded_of_accepted :
    letI := Double.x86Cast
    let fingerprint := ofMembers [("algorithm", string "sha-256"), ("value", string "00")]
    let dtls := ofMembers [("role", string "actpass"), ("fingerprints", array [fingerprint])]
    let codec := ofMembers [("mimeType", string "audio/ulpfec"),
      ("clockRate", numberUnsigned 8000)]
    let capabilities := ofMembers [("codecs", array [codec]), ("headerExtensions", array [])]
    (∃ parameters, DtlsParameters.jsonToProto dtls = .ok parameters ∧
      dtls.at? [.member "role"] = some (string "actpass") ∧
      parameters.protoToJson.at? [.member "role"] = some (string "auto")) ∧
    ∃ decoded, RtpCapabilities.jsonToProto capabilities = .ok decoded ∧
      capabilities.at? [.member "codecs", .element 0, .member "mimeType"] =
        some (string "audio/ulpfec") ∧
      (RtpCapabilities.protoToJson decoded).at?
          [.member "codecs", .element 0, .member "mimeType"] =
        some (string "audio/opus") :=
  ⟨⟨_, rfl, rfl, rfl⟩, _, rfl, rfl, rfl⟩

end

end Saasy.Wire
