import SaasyMediaEngine.Codec.Naming

/-!
# The enumerations of RTP parameters and their names

Each enumeration of the schema has a decoder, an `if` chain with a fallback, and an
encoder, a `switch` with a default.  They are written apart from each other, in
`json_proto_converter.cpp` and `proto_json_converter.cpp`, and paired here.

All the decoders but those of the DTLS parameters fall back to the unspecified value,
and all the encoders but the one of header extension URIs print that as some value of
the format.

A `Naming` keeps the branches of the decoder as a table, in the order of the source, next to its
fallback and the encoder; that the two agree on the table is decided once and for all, name by
name.  So a slip in one spelling of the several dozen names would show here, and the modules that
use an enumeration only ever ask whether it is specified (`read_…ToString`), or what becomes of
any name whatsoever (`Naming.print_read`).
-/

namespace Saasy.Wire

open Codec

/-! ### Header extension URIs -/

inductive RtpHeaderExtensionUri where
  | unspecified
  | mid
  | rtpStreamId
  | repairRtpStreamId
  | audioLevel
  | videoOrientation
  | timeOffset
  | transportWideCcDraft01
  | absSendTime
  | absCaptureTime
  | playoutDelay
  | dependencyDescriptor
  deriving DecidableEq

/-- `RtpHeaderExtensionUriToString`. -/
def rtpHeaderExtensionUriToString : RtpHeaderExtensionUri → String
  | .mid => "urn:ietf:params:rtp-hdrext:sdes:mid"
  | .rtpStreamId => "urn:ietf:params:rtp-hdrext:sdes:rtp-stream-id"
  | .repairRtpStreamId => "urn:ietf:params:rtp-hdrext:sdes:repaired-rtp-stream-id"
  | .audioLevel => "urn:ietf:params:rtp-hdrext:ssrc-audio-level"
  | .videoOrientation => "urn:3gpp:video-orientation"
  | .timeOffset => "urn:ietf:params:rtp-hdrext:toffset"
  | .transportWideCcDraft01 =>
      "http://www.ietf.org/id/draft-holmer-rmcat-transport-wide-cc-extensions-01"
  | .absSendTime => "http://www.webrtc.org/experiments/rtp-hdrext/abs-send-time"
  | .absCaptureTime => "http://www.webrtc.org/experiments/rtp-hdrext/abs-capture-time"
  | .playoutDelay => "http://www.webrtc.org/experiments/rtp-hdrext/playout-delay"
  | .dependencyDescriptor =>
      "https://aomediacodec.github.io/av1-rtp-spec/#dependency-descriptor-rtp-header-extension"
  | .unspecified => ""

/-- The branches of `StringToRtpHeaderExtensionUri`, and `RtpHeaderExtensionUriToString`. -/
def rtpHeaderExtensionUriNaming : Naming String RtpHeaderExtensionUri where
  table := [("urn:ietf:params:rtp-hdrext:sdes:mid", .mid),
    ("urn:ietf:params:rtp-hdrext:sdes:rtp-stream-id", .rtpStreamId),
    ("urn:ietf:params:rtp-hdrext:sdes:repaired-rtp-stream-id", .repairRtpStreamId),
    ("urn:ietf:params:rtp-hdrext:ssrc-audio-level", .audioLevel),
    ("urn:3gpp:video-orientation", .videoOrientation),
    ("urn:ietf:params:rtp-hdrext:toffset", .timeOffset),
    ("http://www.ietf.org/id/draft-holmer-rmcat-transport-wide-cc-extensions-01",
      .transportWideCcDraft01),
    ("http://www.webrtc.org/experiments/rtp-hdrext/abs-send-time", .absSendTime),
    ("http://www.webrtc.org/experiments/rtp-hdrext/abs-capture-time", .absCaptureTime),
    ("http://www.webrtc.org/experiments/rtp-hdrext/playout-delay", .playoutDelay),
    ("https://aomediacodec.github.io/av1-rtp-spec/#dependency-descriptor-rtp-header-extension",
      .dependencyDescriptor)]
  fallback := .unspecified
  print := rtpHeaderExtensionUriToString
  prints := by decide

/-- `StringToRtpHeaderExtensionUri`. -/
def stringToRtpHeaderExtensionUri (uri : String) : RtpHeaderExtensionUri :=
  rtpHeaderExtensionUriNaming.read uri

/-- An unspecified URI has a name of its own, the empty string. -/
theorem read_rtpHeaderExtensionUriToString (uri : RtpHeaderExtensionUri) :
    stringToRtpHeaderExtensionUri (rtpHeaderExtensionUriToString uri) = uri := by
  cases uri <;> decide

/-! ### Directions -/

inductive RtpHeaderExtensionDirection where
  | unspecified
  | sendRecv
  | sendOnly
  | recvOnly
  | inactive
  deriving DecidableEq

/-- `RtpHeaderExtensionDirectionToString`. -/
def rtpHeaderExtensionDirectionToString : RtpHeaderExtensionDirection → String
  | .sendRecv => "sendrecv"
  | .sendOnly => "sendonly"
  | .recvOnly => "recvonly"
  | .inactive => "inactive"
  | .unspecified => "sendrecv"

/-- The branches of `StringToRtpHeaderExtensionDirection`, and
`RtpHeaderExtensionDirectionToString`. -/
def rtpHeaderExtensionDirectionNaming : Naming String RtpHeaderExtensionDirection where
  table := [("sendrecv", .sendRecv), ("sendonly", .sendOnly), ("recvonly", .recvOnly),
    ("inactive", .inactive)]
  fallback := .unspecified
  print := rtpHeaderExtensionDirectionToString
  prints := by decide

/-- `StringToRtpHeaderExtensionDirection`. -/
def stringToRtpHeaderExtensionDirection (direction : String) : RtpHeaderExtensionDirection :=
  rtpHeaderExtensionDirectionNaming.read direction

theorem read_rtpHeaderExtensionDirectionToString {direction : RtpHeaderExtensionDirection}
    (specified : direction ≠ .unspecified) :
    stringToRtpHeaderExtensionDirection (rtpHeaderExtensionDirectionToString direction) =
      direction := by
  cases direction with
  | unspecified => exact absurd rfl specified
  | _ => decide

/-! ### Media kinds -/

inductive MediaKind where
  | unspecified
  | audio
  | video
  deriving DecidableEq

/-- `MediaKindToString`. -/
def mediaKindToString : MediaKind → String
  | .audio => "audio"
  | .video => "video"
  | .unspecified => "audio"

/-- The branches of `StringToMediaKind`, and `MediaKindToString`. -/
def mediaKindNaming : Naming String MediaKind where
  table := [("audio", .audio), ("video", .video)]
  fallback := .unspecified
  print := mediaKindToString
  prints := by decide

/-- `StringToMediaKind`. -/
def stringToMediaKind (kind : String) : MediaKind := mediaKindNaming.read kind

theorem read_mediaKindToString {kind : MediaKind}
    (specified : kind ≠ .unspecified) :
    stringToMediaKind (mediaKindToString kind) = kind := by
  cases kind with
  | unspecified => exact absurd rfl specified
  | _ => decide

/-! ### Audio codecs -/

inductive MimeTypeAudio where
  | unspecified
  | opus
  | multiChannelOpus
  | pcmu
  | pcma
  | isac
  | g722
  | ilbc
  | silk
  | cn
  | telephoneEvent
  | rtx
  | red
  deriving DecidableEq

/-- `MimeTypeAudioToString`. -/
def mimeTypeAudioToString : MimeTypeAudio → String
  | .opus => "audio/opus"
  | .multiChannelOpus => "audio/multiopus"
  | .pcmu => "audio/PCMU"
  | .pcma => "audio/PCMA"
  | .isac => "audio/ISAC"
  | .g722 => "audio/G722"
  | .ilbc => "audio/iLBC"
  | .silk => "audio/SILK"
  | .cn => "audio/CN"
  | .telephoneEvent => "audio/telephone-event"
  | .rtx => "audio/rtx"
  | .red => "audio/red"
  | .unspecified => "audio/opus"

/-- The branches of `StringToMimeTypeAudio`, and `MimeTypeAudioToString`. -/
def mimeTypeAudioNaming : Naming String MimeTypeAudio where
  table := [("audio/opus", .opus), ("audio/multiopus", .multiChannelOpus), ("audio/PCMU", .pcmu),
    ("audio/PCMA", .pcma), ("audio/ISAC", .isac), ("audio/G722", .g722), ("audio/iLBC", .ilbc),
    ("audio/SILK", .silk), ("audio/CN", .cn), ("audio/telephone-event", .telephoneEvent),
    ("audio/rtx", .rtx), ("audio/red", .red)]
  fallback := .unspecified
  print := mimeTypeAudioToString
  prints := by decide

/-- `StringToMimeTypeAudio`. -/
def stringToMimeTypeAudio (mimeType : String) : MimeTypeAudio := mimeTypeAudioNaming.read mimeType

theorem read_mimeTypeAudioToString {mimeType : MimeTypeAudio}
    (specified : mimeType ≠ .unspecified) :
    stringToMimeTypeAudio (mimeTypeAudioToString mimeType) = mimeType := by
  cases mimeType with
  | unspecified => exact absurd rfl specified
  | _ => decide

/-! ### Video codecs -/

inductive MimeTypeVideo where
  | unspecified
  | vp8
  | vp9
  | h264
  | av1
  | rtx
  | red
  | ulpfec
  deriving DecidableEq

/-- `MimeTypeVideoToString`. -/
def mimeTypeVideoToString : MimeTypeVideo → String
  | .vp8 => "video/VP8"
  | .vp9 => "video/VP9"
  | .h264 => "video/H264"
  | .av1 => "video/Av1"
  | .rtx => "video/rtx"
  | .red => "video/red"
  | .ulpfec => "video/ulpfec"
  | .unspecified => "video/VP8"

/-- The branches of `StringToMimeTypeVideo`, and `MimeTypeVideoToString`. -/
def mimeTypeVideoNaming : Naming String MimeTypeVideo where
  table := [("video/VP8", .vp8), ("video/VP9", .vp9), ("video/H264", .h264), ("video/Av1", .av1),
    ("video/rtx", .rtx), ("video/red", .red), ("video/ulpfec", .ulpfec)]
  fallback := .unspecified
  print := mimeTypeVideoToString
  prints := by decide

/-- `StringToMimeTypeVideo`. -/
def stringToMimeTypeVideo (mimeType : String) : MimeTypeVideo := mimeTypeVideoNaming.read mimeType

theorem read_mimeTypeVideoToString {mimeType : MimeTypeVideo}
    (specified : mimeType ≠ .unspecified) :
    stringToMimeTypeVideo (mimeTypeVideoToString mimeType) = mimeType := by
  cases mimeType with
  | unspecified => exact absurd rfl specified
  | _ => decide

/-! ### Scalability modes

The longest of the tables.  `none` is the one that is called `L1T1`, and an unspecified mode is
printed as that. -/

inductive ScalabilityModeEnum where
  | unspecified | none | l1t2 | l1t2h | l1t3 | l1t3h | l2t1 | l2t1h | l2t1Key | l2t2 | l2t2h
  | l2t2Key | l2t2KeyShift | l2t3 | l2t3h | l2t3Key | l2t3KeyShift | l3t1 | l3t1h | l3t1Key
  | l3t2 | l3t2h | l3t2Key | l3t2KeyShift | l3t3 | l3t3h | l3t3Key | l3t3KeyShift | s2t1
  | s2t1h | s2t2 | s2t2h | s2t3 | s2t3h | s3t1 | s3t1h | s3t2 | s3t2h | s3t3 | s3t3h
  deriving DecidableEq

/-- `ScalabilityModeEnumToString`. -/
def scalabilityModeEnumToString : ScalabilityModeEnum → String
  | .none => "L1T1"
  | .l1t2 => "L1T2"
  | .l1t2h => "L1T2h"
  | .l1t3 => "L1T3"
  | .l1t3h => "L1T3h"
  | .l2t1 => "L2T1"
  | .l2t1h => "L2T1h"
  | .l2t1Key => "L2T1_KEY"
  | .l2t2 => "L2T2"
  | .l2t2h => "L2T2h"
  | .l2t2Key => "L2T2_KEY"
  | .l2t2KeyShift => "L2T2_KEY_SHIFT"
  | .l2t3 => "L2T3"
  | .l2t3h => "L2T3h"
  | .l2t3Key => "L2T3_KEY"
  | .l2t3KeyShift => "L2T3_KEY_SHIFT"
  | .l3t1 => "L3T1"
  | .l3t1h => "L3T1h"
  | .l3t1Key => "L3T1_KEY"
  | .l3t2 => "L3T2"
  | .l3t2h => "L3T2h"
  | .l3t2Key => "L3T2_KEY"
  | .l3t2KeyShift => "L3T2_KEY_SHIFT"
  | .l3t3 => "L3T3"
  | .l3t3h => "L3T3h"
  | .l3t3Key => "L3T3_KEY"
  | .l3t3KeyShift => "L3T3_KEY_SHIFT"
  | .s2t1 => "S2T1"
  | .s2t1h => "S2T1h"
  | .s2t2 => "S2T2"
  | .s2t2h => "S2T2h"
  | .s2t3 => "S2T3"
  | .s2t3h => "S2T3h"
  | .s3t1 => "S3T1"
  | .s3t1h => "S3T1h"
  | .s3t2 => "S3T2"
  | .s3t2h => "S3T2h"
  | .s3t3 => "S3T3"
  | .s3t3h => "S3T3h"
  | .unspecified => "L1T1"

/-- The branches of `StringToScalabilityModeEnum`, and `ScalabilityModeEnumToString`. -/
def scalabilityModeEnumNaming : Naming String ScalabilityModeEnum where
  table := [("L1T1", .none), ("L1T2", .l1t2), ("L1T2h", .l1t2h), ("L1T3", .l1t3), ("L1T3h", .l1t3h),
    ("L2T1", .l2t1), ("L2T1h", .l2t1h), ("L2T1_KEY", .l2t1Key), ("L2T2", .l2t2), ("L2T2h", .l2t2h),
    ("L2T2_KEY", .l2t2Key), ("L2T2_KEY_SHIFT", .l2t2KeyShift), ("L2T3", .l2t3), ("L2T3h", .l2t3h),
    ("L2T3_KEY", .l2t3Key), ("L2T3_KEY_SHIFT", .l2t3KeyShift), ("L3T1", .l3t1), ("L3T1h", .l3t1h),
    ("L3T1_KEY", .l3t1Key), ("L3T2", .l3t2), ("L3T2h", .l3t2h), ("L3T2_KEY", .l3t2Key),
    ("L3T2_KEY_SHIFT", .l3t2KeyShift), ("L3T3", .l3t3), ("L3T3h", .l3t3h), ("L3T3_KEY", .l3t3Key),
    ("L3T3_KEY_SHIFT", .l3t3KeyShift), ("S2T1", .s2t1), ("S2T1h", .s2t1h), ("S2T2", .s2t2),
    ("S2T2h", .s2t2h), ("S2T3", .s2t3), ("S2T3h", .s2t3h), ("S3T1", .s3t1), ("S3T1h", .s3t1h),
    ("S3T2", .s3t2), ("S3T2h", .s3t2h), ("S3T3", .s3t3), ("S3T3h", .s3t3h)]
  fallback := .unspecified
  print := scalabilityModeEnumToString
  prints := by decide

/-- `StringToScalabilityModeEnum`. -/
def stringToScalabilityModeEnum (mode : String) : ScalabilityModeEnum :=
  scalabilityModeEnumNaming.read mode

theorem read_scalabilityModeEnumToString {mode : ScalabilityModeEnum}
    (specified : mode ≠ .unspecified) :
    stringToScalabilityModeEnum (scalabilityModeEnumToString mode) = mode := by
  cases mode with
  | unspecified => exact absurd rfl specified
  | _ => decide

end Saasy.Wire
