import SaasyMediaEngine.Codec.Naming
import SaasyMediaEngine.Wire.Hex
import SaasyMediaEngine.Wire.Json

/-!
# DTLS parameters on the wire

`JsonToProto` and `ProtoToJson` for `DtlsParameters`.  The protobuf messages are
structures; a scalar field that is not set reads as its default, and is modelled by
that reading.

A role or an algorithm is decoded by an `if` chain, whose last branch is the fallback,
and encoded by a `switch`, whose `default` is another one.  `dtlsRoleNaming` and
`dtlsFingerprintAlgorithmNaming` pair the two.

A fingerprint is an algorithm and bytes, which travel as a hexadecimal string.  The role and the
algorithm of a message may have no value at all, as any enumeration of the schema; then the
encoder prints its default, and what the other side reads is that default and not the message.
`Specified` rules this out and asks for a fingerprint, since a document without one is rejected:
under it the round trip (`restores`) gives the message back as it was, and nothing is said of the
others.  `Wire.Settling` and `Wire.Respelling` go on from here to the documents that somebody
else has written.
-/

namespace Saasy.Wire

open Codec Json

inductive DtlsRole where
  | unspecified
  | auto
  | client
  | server
  deriving DecidableEq

inductive DtlsFingerprintAlgorithm where
  | unspecified
  | sha1
  | sha224
  | sha256
  | sha384
  | sha512
  deriving DecidableEq

structure DtlsFingerprint where
  algorithm : DtlsFingerprintAlgorithm
  value : List UInt8
  deriving DecidableEq

structure DtlsParameters where
  role : DtlsRole
  fingerprints : List DtlsFingerprint
  deriving DecidableEq

/-! ### Names

The tables of the two enumerations, each with the fallbacks of both directions as the source has
them. -/

/-- `DtlsRoleToString`. -/
def dtlsRoleToString : DtlsRole → String
  | .auto => "auto"
  | .client => "client"
  | .server => "server"
  | .unspecified => "auto"

/-- The branches of `StringToDtlsRole`, and `DtlsRoleToString`. -/
def dtlsRoleNaming : Naming String DtlsRole where
  table := [("auto", .auto), ("client", .client), ("server", .server)]
  fallback := .auto
  print := dtlsRoleToString
  prints := by decide

/-- `StringToDtlsRole`. -/
def stringToDtlsRole (role : String) : DtlsRole := dtlsRoleNaming.read role

/-- `DtlsFingerprintAlgorithmToString`. -/
def dtlsFingerprintAlgorithmToString : DtlsFingerprintAlgorithm → String
  | .sha1 => "sha-1"
  | .sha224 => "sha-224"
  | .sha256 => "sha-256"
  | .sha384 => "sha-384"
  | .sha512 => "sha-512"
  | .unspecified => "sha-256"

/-- The branches of `StringToDtlsFingerprintAlgorithm`, and
`DtlsFingerprintAlgorithmToString`. -/
def dtlsFingerprintAlgorithmNaming : Naming String DtlsFingerprintAlgorithm where
  table := [("sha-1", .sha1), ("sha-224", .sha224), ("sha-256", .sha256), ("sha-384", .sha384),
    ("sha-512", .sha512)]
  fallback := .sha256
  print := dtlsFingerprintAlgorithmToString
  prints := by decide

/-- `StringToDtlsFingerprintAlgorithm`. -/
def stringToDtlsFingerprintAlgorithm (algorithm : String) : DtlsFingerprintAlgorithm :=
  dtlsFingerprintAlgorithmNaming.read algorithm

theorem read_dtlsRoleToString {role : DtlsRole} (specified : role ≠ .unspecified) :
    stringToDtlsRole (dtlsRoleToString role) = role := by
  cases role with
  | unspecified => exact absurd rfl specified
  | _ => decide

theorem read_dtlsFingerprintAlgorithmToString {algorithm : DtlsFingerprintAlgorithm}
    (specified : algorithm ≠ .unspecified) :
    stringToDtlsFingerprintAlgorithm (dtlsFingerprintAlgorithmToString algorithm) =
      algorithm := by
  cases algorithm with
  | unspecified => exact absurd rfl specified
  | _ => decide

/-! ### Decoders

In the order of the source, so that of two things that are wrong with a document the error is about
the first. -/

namespace DtlsFingerprint

/-- `JsonToProto(DtlsFingerprint)`. -/
def jsonToProto (json : Json) : Except String DtlsFingerprint := do
  let algorithm ← json.member "DtlsFingerprint" "algorithm" string?
  let value ← json.member "DtlsFingerprint" "value" string?
  let bytes ← hexStringToBytes value
  return ⟨stringToDtlsFingerprintAlgorithm algorithm, bytes⟩

/-- `ProtoToJson(DtlsFingerprint)`. -/
def protoToJson (fingerprint : DtlsFingerprint) : Json :=
  ofMembers [("algorithm", string (dtlsFingerprintAlgorithmToString fingerprint.algorithm)),
    ("value", string (bytesToHexString fingerprint.value))]

end DtlsFingerprint

namespace DtlsParameters

/-- `JsonToProto(DtlsParameters)`. -/
def jsonToProto (json : Json) : Except String DtlsParameters := do
  let role := ((json.member? "role" string?).map stringToDtlsRole).getD .unspecified
  let fingerprints ← json.member "DtlsParameters" "fingerprints" array?
  if fingerprints.isEmpty then
    throw "DtlsParameters fingerprints array cannot be empty"
  let decoded ← fingerprints.mapM DtlsFingerprint.jsonToProto
  return ⟨role, decoded⟩

/-- `ProtoToJson(DtlsParameters)`. -/
def protoToJson (parameters : DtlsParameters) : Json :=
  ofMembers [("role", string (dtlsRoleToString parameters.role)),
    ("fingerprints", array (parameters.fingerprints.map DtlsFingerprint.protoToJson))]

end DtlsParameters

/-! ### Accepted documents

What is known of a document that was accepted: which members it has, and what they were read as. -/

theorem DtlsFingerprint.of_jsonToProto {json : Json} {fingerprint : DtlsFingerprint}
    (accepted : jsonToProto json = .ok fingerprint) :
    ∃ algorithm, json.member? "algorithm" string? = some algorithm ∧
      fingerprint.algorithm = stringToDtlsFingerprintAlgorithm algorithm := by
  obtain ⟨algorithm, found, rest⟩ := bind_eq_ok.mp accepted
  obtain ⟨value, -, rest⟩ := bind_eq_ok.mp rest
  obtain ⟨bytes, -, rest⟩ := bind_eq_ok.mp rest
  cases rest
  exact ⟨algorithm, member_eq_ok.mp found, rfl⟩

theorem DtlsParameters.of_jsonToProto {json : Json} {parameters : DtlsParameters}
    (accepted : jsonToProto json = .ok parameters) :
    parameters.role =
        ((json.member? "role" string?).map stringToDtlsRole).getD .unspecified ∧
      ∃ fingerprints, json.member? "fingerprints" array? = some fingerprints ∧
        fingerprints.mapM DtlsFingerprint.jsonToProto = .ok parameters.fingerprints := by
  obtain ⟨fingerprints, found, rest⟩ := bind_eq_ok.mp accepted
  by_cases empty : fingerprints.isEmpty = true
  · rw [if_pos empty] at rest
    cases rest
  · rw [if_neg empty] at rest
    obtain ⟨decoded, hdecoded, rest⟩ := bind_eq_ok.mp rest
    cases rest
    exact ⟨rfl, fingerprints, member_eq_ok.mp found, hdecoded⟩

/-! ### The round trip

Member by member.  What has to be asked for is a value in each enumeration, as an unspecified one
is printed as another, and a fingerprint, as an empty list is rejected. -/

theorem DtlsFingerprint.restores :
    Restores protoToJson jsonToProto id
      (fun fingerprint : DtlsFingerprint => fingerprint.algorithm ≠ .unspecified) := by
  intro fingerprint specified
  simp [jsonToProto, protoToJson, member, string?, find?_ofMembers, SortedMap.lookup_cons_eq,
    hexStringToBytes_bytesToHexString, read_dtlsFingerprintAlgorithmToString specified]

/-- The messages that are sent: all enumerations have a value, and there is a fingerprint.  One
without a fingerprint is rejected when it comes back. -/
structure DtlsParameters.Specified (parameters : DtlsParameters) : Prop where
  role : parameters.role ≠ .unspecified
  fingerprints : parameters.fingerprints ≠ []
  algorithms : ∀ fingerprint ∈ parameters.fingerprints, fingerprint.algorithm ≠ .unspecified

theorem DtlsParameters.restores : Restores protoToJson jsonToProto id Specified := by
  intro parameters specified
  have fingerprints := DtlsFingerprint.restores.list parameters.fingerprints specified.algorithms
  rw [List.map_id] at fingerprints
  simp [jsonToProto, protoToJson, member, member?, string?, array?, find?_ofMembers,
    SortedMap.lookup_cons_eq, fingerprints, specified.fingerprints,
    read_dtlsRoleToString specified.role]

/-- **DTLS parameters survive the wire**, and so does every string of bytes in them, whatever its
length. -/
theorem DtlsParameters.dtls_roundTrip :
    (∀ parameters : DtlsParameters, parameters.Specified →
      jsonToProto parameters.protoToJson = .ok parameters) ∧
    ∀ bytes, hexStringToBytes (bytesToHexString bytes) = .ok bytes :=
  ⟨DtlsParameters.restores, hexStringToBytes_bytesToHexString⟩

theorem DtlsParameters.dtls_roundTrip_client :
    let parameters : DtlsParameters := ⟨.client, [⟨.sha256, [0x00, 0x7F, 0xFF]⟩, ⟨.sha1, []⟩]⟩
    jsonToProto parameters.protoToJson = .ok parameters :=
  dtls_roundTrip.1 _ ⟨by decide, by decide, by decide⟩

end Saasy.Wire
