import OpenPlay.Common.Config

/-!
# Signaling messages

The message set of `openplay-protocol` and the gate both ends put in front of
it: `SignalingMessage.validate` runs right after a frame is deserialised, before
any state machine sees the message.
-/

namespace OpenPlay

/-! ## The message set -/

structure Resolution where
  width : UInt32
  height : UInt32
deriving DecidableEq, Repr

/-- Capabilities advertised by the sender during session request. -/
structure Capabilities where
  videoCodecs : List String
  audioCodecs : List String
  maxResolution : Option Resolution
  maxFramerate : Option UInt32
  supportsCursor : Bool
deriving DecidableEq, Repr

/-- Parameters negotiated between sender and receiver. -/
structure NegotiatedParams where
  videoCodec : String
  audioCodec : Option String
  maxBitrateKbps : UInt32
  framerate : UInt32
deriving DecidableEq, Repr

inductive RejectReason
  | busy
  | versionMismatch
  | noCompatibleCodecs
  | notPaired
  | denied
deriving DecidableEq, Repr

inductive BitrateHintReason
  | packetLoss
  | highRtt
  | recovery
deriving DecidableEq, Repr

inductive SessionEndReason
  | userStopped
  | error
  | timeout
  | networkLost
deriving DecidableEq, Repr

/-- All signaling messages exchanged over the WebSocket connection. -/
inductive SignalingMessage
  | sessionRequest (senderId displayName : String) (protocolVersion : UInt32)
      (capabilities : Capabilities)
  | sessionAccept (receiverId : String) (negotiated : NegotiatedParams)
  | sessionReject (reason : RejectReason)
  | pairingChallenge (receiverPubEcdh : String)
  | pairingResponse (senderPubEcdh pinProof : String)
  | pairingConfirm (confirm receiverCertFingerprint : String)
  | authChallenge (nonce : String)
  | authResponse (nonce proof : String)
  | authConfirm (proof : String)
  | sdpOffer (sdp : String)
  | sdpAnswer (sdp : String)
  | iceCandidate (candidate : String) (sdpMid : Option String)
      (sdpMlineIndex : Option UInt32)
  | iceComplete
  | bitrateHint (targetKbps : UInt32) (reason : BitrateHintReason)
  | ping (timestampMs : UInt64)
  | pong (timestampMs receiverTimestampMs : UInt64)
  | sessionEnd (reason : SessionEndReason)
deriving DecidableEq, Repr

namespace SignalingMessage

def isSessionRequest : SignalingMessage → Bool
  | sessionRequest _ _ _ _ => true
  | _ => false

def isSessionAccept : SignalingMessage → Bool
  | sessionAccept _ _ => true
  | _ => false

def isSessionReject : SignalingMessage → Bool
  | sessionReject _ => true
  | _ => false

def isSessionEnd : SignalingMessage → Bool
  | sessionEnd _ => true
  | _ => false

end SignalingMessage

/-! ## Validation -/

def maxNameChars : Nat := 64
def maxSdpBytes : Nat := 16 * 1024
def maxCandidateBytes : Nat := 1024
def maxProofBytes : Nat := 1024
def maxCodecs : Nat := 16
def maxCodecChars : Nat := 32

/-- Why a message was rejected before it reached any state machine. -/
structure ValidationError where
  text : String
deriving DecidableEq, Repr

/-- Rejects a name that is empty, over-long, or carries control characters. -/
def checkName (field value : String) : Except ValidationError Unit :=
  let chars := value.length
  if value.isEmpty then
    .error ⟨s!"{field} must not be empty"⟩
  else if maxNameChars < chars then
    .error ⟨s!"{field} must be at most {maxNameChars} characters, got {chars}"⟩
  else if value.toList.any isControl then
    .error ⟨s!"{field} must not contain control characters"⟩
  else
    .ok ()

def checkLen (field : String) (len max : Nat) : Except ValidationError Unit :=
  if max < len then
    .error ⟨s!"{field} must be at most {max} bytes, got {len}"⟩
  else
    .ok ()

def checkCodecs (field : String) (codecs : List String) :
    Except ValidationError Unit :=
  let count := codecs.length
  if maxCodecs < count then
    .error ⟨s!"{field} must list at most {maxCodecs} codecs, got {count}"⟩
  else
    codecs.forM fun codec =>
      let chars := codec.length
      if maxCodecChars < chars then
        .error
          ⟨s!"{field} entries must be at most {maxCodecChars} characters, got {chars}"⟩
      else
        .ok ()

/-- Checks that every field is within its documented bound. -/
def SignalingMessage.validate : SignalingMessage → Except ValidationError Unit
  | sessionRequest senderId displayName _ capabilities => do
      checkName "sender_id" senderId
      checkName "display_name" displayName
      checkCodecs "video_codecs" capabilities.videoCodecs
      checkCodecs "audio_codecs" capabilities.audioCodecs
  | sessionAccept receiverId _ => checkName "receiver_id" receiverId
  | sdpOffer sdp | sdpAnswer sdp => checkLen "sdp" sdp.utf8ByteSize maxSdpBytes
  | iceCandidate candidate sdpMid _ => do
      checkLen "candidate" candidate.utf8ByteSize maxCandidateBytes
      match sdpMid with
      | some mid => checkLen "sdp_mid" mid.utf8ByteSize maxNameChars
      | none => .ok ()
  | pairingChallenge receiverPubEcdh =>
      checkLen "receiver_pub_ecdh" receiverPubEcdh.utf8ByteSize maxProofBytes
  | pairingResponse senderPubEcdh pinProof => do
      checkLen "sender_pub_ecdh" senderPubEcdh.utf8ByteSize maxProofBytes
      checkLen "pin_proof" pinProof.utf8ByteSize maxProofBytes
  | pairingConfirm confirm receiverCertFingerprint => do
      checkLen "confirm" confirm.utf8ByteSize maxProofBytes
      checkLen "receiver_cert_fingerprint" receiverCertFingerprint.utf8ByteSize
        maxProofBytes
  | authChallenge nonce => checkLen "nonce" nonce.utf8ByteSize maxProofBytes
  | authResponse nonce proof => do
      checkLen "nonce" nonce.utf8ByteSize maxProofBytes
      checkLen "proof" proof.utf8ByteSize maxProofBytes
  | authConfirm proof => checkLen "proof" proof.utf8ByteSize maxProofBytes
  | iceComplete | sessionReject _ | bitrateHint _ _ | ping _ | pong _ _
  | sessionEnd _ => .ok ()

/-- The outcome of `validate` as the two read loops use it. -/
def SignalingMessage.valid (message : SignalingMessage) : Bool :=
  match message.validate with
  | .ok _ => true
  | .error _ => false

/-- A session can always be refused and always be ended: neither message has a
field the gate could object to. -/
@[simp] theorem SignalingMessage.valid_sessionReject (reason : RejectReason) :
    (sessionReject reason).valid = true := rfl

@[simp] theorem SignalingMessage.valid_sessionEnd (reason : SessionEndReason) :
    (sessionEnd reason).valid = true := rfl

end OpenPlay
