import OpenPlay.Foundation.Json
import OpenPlay.Protocol.Message

/-!
# The wire format of signaling messages

What the derived serialiser of `openplay-protocol`'s `message.rs` writes, and what the
derived deserialiser reads.

A message is an object that holds its tag under the key `type`, and then its fields in
the order of the source.  Tags and reasons are the names of the source, renamed by
`snakeCase`.  The deserialiser takes the tag out of the object and looks the fields up
among the rest by name: each of them once, those that are optional at most once, and
whatever else there is does not matter.  The forms that the serialiser never writes,
sequences in place of objects among them, are left out.
-/

namespace OpenPlay

/-- `rename_all = "snake_case"`. -/
def snakeCase (name : String) : String :=
  String.ofList (name.toList.zipIdx.flatMap fun (c, i) =>
    if 0 < i ∧ c.isUpper then ['_', c.toLower] else [c.toLower])

/-! ## Reading values and members -/

namespace Wire

abbrev Members := List (String × Json)

def readText : Json → Option String
  | .str s => some s
  | _ => none

def readBool : Json → Option Bool
  | .bool b => some b
  | _ => none

def readU32 : Json → Option UInt32
  | .num n => if n < UInt32.size then some (UInt32.ofNat n) else none
  | _ => none

def readU64 : Json → Option UInt64
  | .num n => if n < UInt64.size then some (UInt64.ofNat n) else none
  | _ => none

def readObject : Json → Option Members
  | .obj members => some members
  | _ => none

def readTexts : Json → Option (List String)
  | .arr items => items.mapM readText
  | _ => none

/-- One of some unit variants, by its name on the wire. -/
def readUnit {α : Type} (all : List α) (tag : α → String) : Json → Option α
  | .str s => all.find? fun a => tag a = s
  | _ => none

/-- What an object has under a key. -/
def values (key : String) (members : Members) : List Json :=
  (members.filter fun m => m.1 = key).map Prod.snd

/-- A field that there must be, once. -/
def single {α : Type} (read : Json → Option α) : List Json → Option α
  | [v] => read v
  | _ => none

/-- A field that may be missing, or `null`. -/
def atMostOne {α : Type} (read : Json → Option α) : List Json → Option (Option α)
  | [] => some none
  | [.null] => some none
  | [v] => (read v).map some
  | _ => none

def requiredField {α : Type} (read : Json → Option α) (key : String) (members : Members) : Option α :=
  single read (values key members)

def optionalField {α : Type} (read : Json → Option α) (key : String) (members : Members) :
    Option (Option α) :=
  atMostOne read (values key members)

/-- `Option<T>`: the value, or `null`. -/
def orNull {α : Type} (write : α → Json) : Option α → Json
  | some a => write a
  | none => .null

def u32 (n : UInt32) : Json := .num n.toNat
def u64 (n : UInt64) : Json := .num n.toNat
def texts (l : List String) : Json := .arr (l.map .str)

@[simp] theorem readText_str (s : String) : readText (.str s) = some s := rfl

@[simp] theorem readBool_bool (b : Bool) : readBool (.bool b) = some b := rfl

@[simp] theorem readU32_u32 (n : UInt32) : readU32 (u32 n) = some n := by
  show (if n.toNat < UInt32.size then some (UInt32.ofNat n.toNat) else none) = some n
  rw [if_pos n.toNat_lt, UInt32.ofNat_toNat]

@[simp] theorem readU64_u64 (n : UInt64) : readU64 (u64 n) = some n := by
  show (if n.toNat < UInt64.size then some (UInt64.ofNat n.toNat) else none) = some n
  rw [if_pos n.toNat_lt, UInt64.ofNat_toNat]

@[simp] theorem readObject_obj (members : Members) : readObject (.obj members) = some members :=
  rfl

@[simp] theorem readTexts_texts (l : List String) : readTexts (texts l) = some l := by
  show (l.map Json.str).mapM readText = some l
  induction l with
  | nil => rfl
  | cons s l ih => simp [ih]

/-- Variants with different names are told apart. -/
theorem readUnit_tag {α : Type} {all : List α} {tag : α → String} {a : α} (hmem : a ∈ all)
    (htag : Function.Injective tag) : readUnit all tag (.str (tag a)) = some a := by
  show all.find? (fun b => tag b = tag a) = some a
  cases hfind : all.find? fun b => tag b = tag a with
  | none => exact absurd (decide_eq_true rfl) (List.find?_eq_none.mp hfind a hmem)
  | some b =>
    have hsame := List.find?_some hfind
    rw [htag (of_decide_eq_true hsame)]

end Wire

/-! ## Variants -/

namespace SignalingMessage

inductive Variant
  | sessionRequest
  | sessionAccept
  | sessionReject
  | pairingChallenge
  | pairingResponse
  | pairingConfirm
  | authChallenge
  | authResponse
  | authConfirm
  | sdpOffer
  | sdpAnswer
  | iceCandidate
  | iceComplete
  | bitrateHint
  | ping
  | pong
  | sessionEnd
deriving DecidableEq, Repr

namespace Variant

def all : List Variant :=
  [sessionRequest, sessionAccept, sessionReject, pairingChallenge, pairingResponse,
    pairingConfirm, authChallenge, authResponse, authConfirm, sdpOffer, sdpAnswer,
    iceCandidate, iceComplete, bitrateHint, ping, pong, sessionEnd]

/-- The name in the source. -/
def name : Variant → String
  | sessionRequest => "SessionRequest"
  | sessionAccept => "SessionAccept"
  | sessionReject => "SessionReject"
  | pairingChallenge => "PairingChallenge"
  | pairingResponse => "PairingResponse"
  | pairingConfirm => "PairingConfirm"
  | authChallenge => "AuthChallenge"
  | authResponse => "AuthResponse"
  | authConfirm => "AuthConfirm"
  | sdpOffer => "SdpOffer"
  | sdpAnswer => "SdpAnswer"
  | iceCandidate => "IceCandidate"
  | iceComplete => "IceComplete"
  | bitrateHint => "BitrateHint"
  | ping => "Ping"
  | pong => "Pong"
  | sessionEnd => "SessionEnd"

def tag (v : Variant) : String := snakeCase v.name

/-- The fields, in the order of the source. -/
def fields : Variant → List String
  | sessionRequest => ["sender_id", "display_name", "protocol_version", "capabilities"]
  | sessionAccept => ["receiver_id", "negotiated"]
  | sessionReject => ["reason"]
  | pairingChallenge => ["receiver_pub_ecdh"]
  | pairingResponse => ["sender_pub_ecdh", "pin_proof"]
  | pairingConfirm => ["confirm", "receiver_cert_fingerprint"]
  | authChallenge => ["nonce"]
  | authResponse => ["nonce", "proof"]
  | authConfirm => ["proof"]
  | sdpOffer => ["sdp"]
  | sdpAnswer => ["sdp"]
  | iceCandidate => ["candidate", "sdp_mid", "sdp_mline_index"]
  | iceComplete => []
  | bitrateHint => ["target_kbps", "reason"]
  | ping => ["timestamp_ms"]
  | pong => ["timestamp_ms", "receiver_timestamp_ms"]
  | sessionEnd => ["reason"]

theorem mem_all (v : Variant) : v ∈ all := by
  cases v <;> decide

theorem tag_injective : Function.Injective tag := by
  have hnodup : (all.map tag).Nodup := by decide
  intro v w h
  exact List.inj_on_of_nodup_map hnodup (mem_all v) (mem_all w) h

/-- No field is named like the key of the tag. -/
theorem type_not_mem_fields (v : Variant) : "type" ∉ v.fields := by
  cases v <;> decide

end Variant

def variant : SignalingMessage → Variant
  | sessionRequest _ _ _ _ => .sessionRequest
  | sessionAccept _ _ => .sessionAccept
  | sessionReject _ => .sessionReject
  | pairingChallenge _ => .pairingChallenge
  | pairingResponse _ _ => .pairingResponse
  | pairingConfirm _ _ => .pairingConfirm
  | authChallenge _ => .authChallenge
  | authResponse _ _ => .authResponse
  | authConfirm _ => .authConfirm
  | sdpOffer _ => .sdpOffer
  | sdpAnswer _ => .sdpAnswer
  | iceCandidate _ _ _ => .iceCandidate
  | iceComplete => .iceComplete
  | bitrateHint _ _ => .bitrateHint
  | ping _ => .ping
  | pong _ _ => .pong
  | sessionEnd _ => .sessionEnd

end SignalingMessage

/-! ### Reasons -/

namespace RejectReason

def all : List RejectReason := [busy, versionMismatch, noCompatibleCodecs, notPaired, denied]

def name : RejectReason → String
  | busy => "Busy"
  | versionMismatch => "VersionMismatch"
  | noCompatibleCodecs => "NoCompatibleCodecs"
  | notPaired => "NotPaired"
  | denied => "Denied"

def tag (r : RejectReason) : String := snakeCase r.name

theorem mem_all (r : RejectReason) : r ∈ all := by
  cases r <;> decide

theorem tag_injective : Function.Injective tag := by
  have hnodup : (all.map tag).Nodup := by decide
  intro r s h
  exact List.inj_on_of_nodup_map hnodup (mem_all r) (mem_all s) h

end RejectReason

namespace BitrateHintReason

def all : List BitrateHintReason := [packetLoss, highRtt, recovery]

def name : BitrateHintReason → String
  | packetLoss => "PacketLoss"
  | highRtt => "HighRtt"
  | recovery => "Recovery"

def tag (r : BitrateHintReason) : String := snakeCase r.name

theorem mem_all (r : BitrateHintReason) : r ∈ all := by
  cases r <;> decide

theorem tag_injective : Function.Injective tag := by
  have hnodup : (all.map tag).Nodup := by decide
  intro r s h
  exact List.inj_on_of_nodup_map hnodup (mem_all r) (mem_all s) h

end BitrateHintReason

namespace SessionEndReason

def all : List SessionEndReason := [userStopped, error, timeout, networkLost]

def name : SessionEndReason → String
  | userStopped => "UserStopped"
  | error => "Error"
  | timeout => "Timeout"
  | networkLost => "NetworkLost"

def tag (r : SessionEndReason) : String := snakeCase r.name

theorem mem_all (r : SessionEndReason) : r ∈ all := by
  cases r <;> decide

theorem tag_injective : Function.Injective tag := by
  have hnodup : (all.map tag).Nodup := by decide
  intro r s h
  exact List.inj_on_of_nodup_map hnodup (mem_all r) (mem_all s) h

end SessionEndReason

/-! ## Writing -/

open Wire

def Resolution.toJson (r : Resolution) : Json :=
  .obj [("width", u32 r.width), ("height", u32 r.height)]

def Capabilities.toJson (c : Capabilities) : Json :=
  .obj [("video_codecs", texts c.videoCodecs), ("audio_codecs", texts c.audioCodecs),
    ("max_resolution", orNull Resolution.toJson c.maxResolution),
    ("max_framerate", orNull u32 c.maxFramerate), ("supports_cursor", .bool c.supportsCursor)]

def NegotiatedParams.toJson (n : NegotiatedParams) : Json :=
  .obj [("video_codec", .str n.videoCodec), ("audio_codec", orNull .str n.audioCodec),
    ("max_bitrate_kbps", u32 n.maxBitrateKbps), ("framerate", u32 n.framerate)]

namespace SignalingMessage

/-- The fields of a message, behind its tag. -/
def members : SignalingMessage → Members
  | sessionRequest senderId displayName protocolVersion capabilities =>
      [("sender_id", .str senderId), ("display_name", .str displayName),
        ("protocol_version", u32 protocolVersion), ("capabilities", capabilities.toJson)]
  | sessionAccept receiverId negotiated =>
      [("receiver_id", .str receiverId), ("negotiated", negotiated.toJson)]
  | sessionReject reason => [("reason", .str reason.tag)]
  | pairingChallenge receiverPubEcdh => [("receiver_pub_ecdh", .str receiverPubEcdh)]
  | pairingResponse senderPubEcdh pinProof =>
      [("sender_pub_ecdh", .str senderPubEcdh), ("pin_proof", .str pinProof)]
  | pairingConfirm confirm receiverCertFingerprint =>
      [("confirm", .str confirm), ("receiver_cert_fingerprint", .str receiverCertFingerprint)]
  | authChallenge nonce => [("nonce", .str nonce)]
  | authResponse nonce proof => [("nonce", .str nonce), ("proof", .str proof)]
  | authConfirm proof => [("proof", .str proof)]
  | sdpOffer sdp => [("sdp", .str sdp)]
  | sdpAnswer sdp => [("sdp", .str sdp)]
  | iceCandidate candidate sdpMid sdpMlineIndex =>
      [("candidate", .str candidate), ("sdp_mid", orNull .str sdpMid),
        ("sdp_mline_index", orNull u32 sdpMlineIndex)]
  | iceComplete => []
  | bitrateHint targetKbps reason =>
      [("target_kbps", u32 targetKbps), ("reason", .str reason.tag)]
  | ping timestampMs => [("timestamp_ms", u64 timestampMs)]
  | pong timestampMs receiverTimestampMs =>
      [("timestamp_ms", u64 timestampMs), ("receiver_timestamp_ms", u64 receiverTimestampMs)]
  | sessionEnd reason => [("reason", .str reason.tag)]

def toJson (m : SignalingMessage) : Json := .obj (("type", .str m.variant.tag) :: m.members)

/-- `serde_json::to_string`. -/
def serialize (m : SignalingMessage) : List Char := m.toJson.text

end SignalingMessage

/-! ## Reading -/

def Resolution.fromJson (v : Json) : Option Resolution := do
  let members ← readObject v
  let width ← requiredField readU32 "width" members
  let height ← requiredField readU32 "height" members
  return ⟨width, height⟩

def Capabilities.fromJson (v : Json) : Option Capabilities := do
  let members ← readObject v
  let videoCodecs ← requiredField readTexts "video_codecs" members
  let audioCodecs ← requiredField readTexts "audio_codecs" members
  let maxResolution ← optionalField Resolution.fromJson "max_resolution" members
  let maxFramerate ← optionalField readU32 "max_framerate" members
  let supportsCursor ← requiredField readBool "supports_cursor" members
  return ⟨videoCodecs, audioCodecs, maxResolution, maxFramerate, supportsCursor⟩

def NegotiatedParams.fromJson (v : Json) : Option NegotiatedParams := do
  let members ← readObject v
  let videoCodec ← requiredField readText "video_codec" members
  let audioCodec ← optionalField readText "audio_codec" members
  let maxBitrateKbps ← requiredField readU32 "max_bitrate_kbps" members
  let framerate ← requiredField readU32 "framerate" members
  return ⟨videoCodec, audioCodec, maxBitrateKbps, framerate⟩

namespace SignalingMessage

/-- The message of a variant with some fields. -/
def fromMembers (members : Members) : Variant → Option SignalingMessage
  | .sessionRequest => do
      let senderId ← requiredField readText "sender_id" members
      let displayName ← requiredField readText "display_name" members
      let protocolVersion ← requiredField readU32 "protocol_version" members
      let capabilities ← requiredField Capabilities.fromJson "capabilities" members
      return sessionRequest senderId displayName protocolVersion capabilities
  | .sessionAccept => do
      let receiverId ← requiredField readText "receiver_id" members
      let negotiated ← requiredField NegotiatedParams.fromJson "negotiated" members
      return sessionAccept receiverId negotiated
  | .sessionReject => do
      let reason ← requiredField (readUnit RejectReason.all RejectReason.tag) "reason" members
      return sessionReject reason
  | .pairingChallenge => do
      let receiverPubEcdh ← requiredField readText "receiver_pub_ecdh" members
      return pairingChallenge receiverPubEcdh
  | .pairingResponse => do
      let senderPubEcdh ← requiredField readText "sender_pub_ecdh" members
      let pinProof ← requiredField readText "pin_proof" members
      return pairingResponse senderPubEcdh pinProof
  | .pairingConfirm => do
      let confirm ← requiredField readText "confirm" members
      let receiverCertFingerprint ← requiredField readText "receiver_cert_fingerprint" members
      return pairingConfirm confirm receiverCertFingerprint
  | .authChallenge => do
      let nonce ← requiredField readText "nonce" members
      return authChallenge nonce
  | .authResponse => do
      let nonce ← requiredField readText "nonce" members
      let proof ← requiredField readText "proof" members
      return authResponse nonce proof
  | .authConfirm => do
      let proof ← requiredField readText "proof" members
      return authConfirm proof
  | .sdpOffer => do
      let sdp ← requiredField readText "sdp" members
      return sdpOffer sdp
  | .sdpAnswer => do
      let sdp ← requiredField readText "sdp" members
      return sdpAnswer sdp
  | .iceCandidate => do
      let candidate ← requiredField readText "candidate" members
      let sdpMid ← optionalField readText "sdp_mid" members
      let sdpMlineIndex ← optionalField readU32 "sdp_mline_index" members
      return iceCandidate candidate sdpMid sdpMlineIndex
  | .iceComplete => return iceComplete
  | .bitrateHint => do
      let targetKbps ← requiredField readU32 "target_kbps" members
      let reason ← requiredField (readUnit BitrateHintReason.all BitrateHintReason.tag) "reason" members
      return bitrateHint targetKbps reason
  | .ping => do
      let timestampMs ← requiredField readU64 "timestamp_ms" members
      return ping timestampMs
  | .pong => do
      let timestampMs ← requiredField readU64 "timestamp_ms" members
      let receiverTimestampMs ← requiredField readU64 "receiver_timestamp_ms" members
      return pong timestampMs receiverTimestampMs
  | .sessionEnd => do
      let reason ← requiredField (readUnit SessionEndReason.all SessionEndReason.tag) "reason" members
      return sessionEnd reason

/-- The tag decides on the variant, and the rest of the object has its fields. -/
def fromJson (v : Json) : Option SignalingMessage := do
  let members ← readObject v
  let variant ← requiredField (readUnit Variant.all Variant.tag) "type" members
  fromMembers (members.filter fun m => m.1 ≠ "type") variant

/-- `serde_json::from_str`, on texts without white space. -/
def deserialize (text : List Char) : Option SignalingMessage := (Json.read text).bind fromJson

end SignalingMessage

/-! ## The round trip -/

namespace Wire

variable {α : Type} {read : Json → Option α}

@[simp] theorem values_nil (key : String) : values key [] = [] := rfl

@[simp] theorem values_cons (key other : String) (v : Json) (rest : Members) :
    values key ((other, v) :: rest) =
      if other = key then v :: values key rest else values key rest := by
  unfold values
  split_ifs with h <;> simp [h]

theorem values_of_not_mem {key : String} {members : Members} (h : key ∉ members.map Prod.fst) :
    values key members = [] := by
  have hnone : (members.filter fun m => m.1 = key) = [] := by
    rw [List.filter_eq_nil_iff]
    intro m hm hkey
    exact h (of_decide_eq_true hkey ▸ List.mem_map_of_mem hm)
  rw [values, hnone, List.map_nil]

@[simp] theorem single_singleton (v : Json) : single read [v] = read v := rfl

/-- An optional field is read back, whether it is there or `null`. -/
theorem atMostOne_option {write : α → Json} (hread : ∀ a, read (write a) = some a)
    (hnull : read .null = none) (o : Option α) :
    atMostOne read [orNull write o] = some o := by
  cases o with
  | none => rfl
  | some a =>
    show atMostOne read [write a] = _
    have hvalue := hread a
    cases hw : write a with
    | null => rw [hw, hnull] at hvalue; cases hvalue
    | _ =>
      rw [hw] at hvalue
      rw [atMostOne, hvalue]
      · rfl
      · nofun

@[simp] theorem atMostOne_text (o : Option String) :
    atMostOne readText [orNull .str o] = some o :=
  atMostOne_option readText_str rfl o

@[simp] theorem atMostOne_u32 (o : Option UInt32) : atMostOne readU32 [orNull u32 o] = some o :=
  atMostOne_option readU32_u32 rfl o

end Wire

@[simp] theorem Resolution.fromJson_toJson (r : Resolution) : fromJson r.toJson = some r := by
  simp [fromJson, toJson, requiredField]

@[simp] theorem Wire.atMostOne_resolution (o : Option Resolution) :
    atMostOne Resolution.fromJson [orNull Resolution.toJson o] = some o :=
  atMostOne_option Resolution.fromJson_toJson rfl o

@[simp] theorem NegotiatedParams.fromJson_toJson (n : NegotiatedParams) :
    fromJson n.toJson = some n := by
  simp [fromJson, toJson, requiredField, optionalField]

@[simp] theorem Capabilities.fromJson_toJson (c : Capabilities) : fromJson c.toJson = some c := by
  simp [fromJson, toJson, requiredField, optionalField]

namespace SignalingMessage

/-- The fields of a message are those of its variant. -/
theorem map_fst_members (m : SignalingMessage) : m.members.map Prod.fst = m.variant.fields := by
  cases m <;> rfl

@[simp] theorem readUnit_reject (r : RejectReason) :
    readUnit RejectReason.all RejectReason.tag (.str r.tag) = some r :=
  readUnit_tag r.mem_all RejectReason.tag_injective

@[simp] theorem readUnit_bitrateHint (r : BitrateHintReason) :
    readUnit BitrateHintReason.all BitrateHintReason.tag (.str r.tag) = some r :=
  readUnit_tag r.mem_all BitrateHintReason.tag_injective

@[simp] theorem readUnit_sessionEnd (r : SessionEndReason) :
    readUnit SessionEndReason.all SessionEndReason.tag (.str r.tag) = some r :=
  readUnit_tag r.mem_all SessionEndReason.tag_injective

/-- The fields of a message are read back. -/
theorem fromMembers_members (m : SignalingMessage) :
    fromMembers m.members m.variant = some m := by
  cases m <;> simp [fromMembers, members, variant, requiredField, optionalField]

/-- **A message is read back from its value.** -/
theorem fromJson_toJson (m : SignalingMessage) : fromJson m.toJson = some m := by
  have htype : "type" ∉ m.members.map Prod.fst := by
    rw [map_fst_members]
    exact m.variant.type_not_mem_fields
  have hrest : (("type", Json.str m.variant.tag) :: m.members).filter (fun f => f.1 ≠ "type") =
      m.members := by
    rw [List.filter_cons_of_neg (by simp), List.filter_eq_self]
    intro f hf
    exact decide_eq_true fun h => htype (h ▸ List.mem_map_of_mem hf)
  have htag : requiredField (readUnit Variant.all Variant.tag) "type"
      (("type", Json.str m.variant.tag) :: m.members) = some m.variant := by
    rw [requiredField, values_cons, if_pos rfl, values_of_not_mem htype]
    exact readUnit_tag m.variant.mem_all Variant.tag_injective
  unfold fromJson toJson
  simp only [readObject_obj, htag, hrest, Option.bind_eq_bind, Option.bind_some]
  exact fromMembers_members m

/-- **The wire format**: a message is read back from its text, no two messages have the
same text, no two variants the same tag, and no field takes the key of the tag. -/
theorem deserialize_serialize :
    (∀ m : SignalingMessage, deserialize m.serialize = some m) ∧
    (∀ m : SignalingMessage, fromJson m.toJson = some m) ∧
    (∀ m m' : SignalingMessage, m.serialize = m'.serialize → m = m') ∧
    (∀ m m' : SignalingMessage, m.toJson = m'.toJson → m = m') ∧
    (∀ v w : Variant, v.tag = w.tag → v = w) ∧
    ∀ m : SignalingMessage, "type" ∉ m.variant.fields ∧
      m.members.map Prod.fst = m.variant.fields := by
  have hread : ∀ m : SignalingMessage, deserialize m.serialize = some m := by
    intro m
    rw [deserialize, serialize, Json.read_text, Option.bind_some, fromJson_toJson]
  refine ⟨hread, fromJson_toJson, fun m m' h => ?_, fun m m' h => ?_,
    fun v w h => Variant.tag_injective h, fun m => ⟨m.variant.type_not_mem_fields, map_fst_members m⟩⟩
  · exact Option.some.inj ((hread m).symm.trans ((congrArg deserialize h).trans (hread m')))
  · exact Option.some.inj
      ((fromJson_toJson m).symm.trans ((congrArg fromJson h).trans (fromJson_toJson m')))

end SignalingMessage

end OpenPlay
