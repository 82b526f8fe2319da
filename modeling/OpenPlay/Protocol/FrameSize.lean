import OpenPlay.Protocol.Bounds

/-!
# How long a message is on the wire

The text of a valid message against the frame limit `MAX_MESSAGE_BYTES`, which is the
same in `openplay-signaling`'s `server.rs` and `client.rs`.

The bounds of `validate` are on characters and on bytes, the limit is on escaped text.
`serialize_le_iff` says for which messages the two fit: for all but session descriptions
with many characters to escape, and the codec names that are not checked.
-/

namespace OpenPlay

open Wire

/-! ## The text of a field -/

/-- How many bytes a string has on the wire: one more for each character that is escaped
with a letter, five more for each that is escaped with its number. -/
def wireBytes (s : String) : Nat :=
  s.utf8ByteSize + s.toList.countP Json.isLettered + 5 * s.toList.countP Json.isNumbered

theorem escapedBytes_eq_wireBytes (s : String) : Json.escapedBytes s = wireBytes s :=
  Json.escapedBytes_eq s

theorem bytes_u32_le (n : UInt32) : (u32 n).bytes ≤ 10 := by
  rw [u32, Json.bytes_num]
  have hn := n.toNat_lt
  exact Text.length_digits_le (by decide) (by decide) (by omega)

theorem bytes_u64_le (n : UInt64) : (u64 n).bytes ≤ 20 := by
  rw [u64, Json.bytes_num]
  have hn := n.toNat_lt
  exact Text.length_digits_le (by decide) (by decide) (by omega)

theorem bytes_orNull_le {α : Type} {write : α → Json} {n : Nat} (o : Option α) (hn : 4 ≤ n)
    (h : ∀ a ∈ o, (write a).bytes ≤ n) : (orNull write o).bytes ≤ n := by
  cases o with
  | none => exact hn
  | some a => exact h a rfl

/-- A name that was checked has nothing that is escaped with its number. -/
theorem bytes_name_le {s : String} (h : (Field.name s).passes = true) :
    Json.escapedBytes s ≤ 4 * maxNameChars := by
  simp only [Field.passes, Bool.and_eq_true, decide_eq_true_eq, Bool.not_eq_true',
    List.any_eq_false] at h
  obtain ⟨⟨-, hlen⟩, hcontrol⟩ := h
  refine (Json.escapedBytes_le_of_forall fun c hc => ?_).trans (Nat.mul_le_mul_left 4 hlen)
  apply (Json.length_encode_escapeChar_le c).2.2
  have hlow := hcontrol c hc
  simp only [isControl, Bool.or_eq_true, decide_eq_true_eq, not_or, UInt32.not_lt] at hlow
  exact UInt32.le_iff_toNat_le.mp hlow.1

theorem bytes_codec_le {s : String} (h : s.length ≤ maxCodecChars) :
    Json.escapedBytes s ≤ 6 * maxCodecChars :=
  (Json.escapedBytes_le_of_forall fun c _ => (Json.length_encode_escapeChar_le c).2.1).trans
    (Nat.mul_le_mul_left 6 h)

theorem bytes_codecs_le {l : List String} (h : (Field.codecs l).passes = true) :
    (texts l).bytes ≤ maxCodecs * (6 * maxCodecChars + 3) + 2 := by
  obtain ⟨hcount, heach⟩ := Bool.and_eq_true_iff.mp h
  have hsum : ∀ b ∈ (l.map Json.str).map (fun v => v.bytes + 1), b ≤ 6 * maxCodecChars + 3 := by
    rw [List.map_map, List.forall_mem_map]
    intro s hs
    have hs := bytes_codec_le (of_decide_eq_true (List.all_eq_true.mp heach s hs))
    show (Json.str s).bytes + 1 ≤ _
    rw [Json.bytes_str]
    omega
  have hlist := List.sum_le_card_nsmul _ _ hsum
  rw [List.length_map, List.length_map] at hlist
  rw [texts, Json.bytes_arr]
  exact Nat.add_le_add_right ((Json.itemsBytes_le _).trans
    (hlist.trans (Nat.mul_le_mul_right _ (of_decide_eq_true hcount)))) 2

/-! ## The text of a message -/

namespace SignalingMessage

/-- `MAX_MESSAGE_BYTES` of the server and of the client. -/
def maxMessageBytes : Nat := 64 * 1024

theorem Variant.escapedBytes_fields (v : Variant) :
    ∀ key ∈ v.fields, Json.escapedBytes key ≤ 25 := by
  cases v <;> decide

theorem Variant.escapedBytes_tag (v : Variant) : Json.escapedBytes v.tag ≤ 17 := by
  cases v <;> decide

/-- A message is as long as what its fields hold, up to their names. -/
theorem bytes_toJson_le (m : SignalingMessage) :
    m.toJson.bytes ≤ 29 + (m.members.map fun f => 29 + f.2.bytes).sum := by
  have htag := m.variant.escapedBytes_tag
  have htype : Json.escapedBytes "type" = 4 := by decide
  have hkeys : ∀ f ∈ m.members,
      Json.escapedBytes f.1 + 4 + f.2.bytes ≤ 29 + f.2.bytes := by
    intro f hf
    have hkey := m.variant.escapedBytes_fields f.1
      (m.map_fst_members ▸ List.mem_map_of_mem hf)
    omega
  have hmembers := Json.membersBytes_le (("type", Json.str m.variant.tag) :: m.members)
  have hsum := List.sum_le_sum hkeys
  rw [List.map_cons, List.sum_cons, Json.bytes_str, htype] at hmembers
  rw [toJson, Json.bytes_obj]
  omega

theorem bytes_sdpOffer (sdp : String) : (sdpOffer sdp).toJson.bytes = 29 + wireBytes sdp := by
  have hkeys : Json.escapedBytes "type" = 4 ∧ Json.escapedBytes "sdp" = 3 ∧
      Json.escapedBytes Variant.sdpOffer.tag = 9 := by
    decide
  simp [toJson, members, variant, hkeys, escapedBytes_eq_wireBytes sdp]
  omega

theorem bytes_sdpAnswer (sdp : String) : (sdpAnswer sdp).toJson.bytes = 30 + wireBytes sdp := by
  have hkeys : Json.escapedBytes "type" = 4 ∧ Json.escapedBytes "sdp" = 3 ∧
      Json.escapedBytes Variant.sdpAnswer.tag = 10 := by
    decide
  simp [toJson, members, variant, hkeys, escapedBytes_eq_wireBytes sdp]
  omega

end SignalingMessage

/-- The bytes of the parameters on the wire, up to the text that is always there. -/
def NegotiatedParams.wireBytes (n : NegotiatedParams) : Nat :=
  OpenPlay.wireBytes n.videoCodec +
    (match n.audioCodec with
      | some codec => OpenPlay.wireBytes codec + 2
      | none => 4) +
    (Text.digits 10 n.maxBitrateKbps.toNat).length + (Text.digits 10 n.framerate.toNat).length

theorem NegotiatedParams.bytes_toJson (n : NegotiatedParams) :
    n.toJson.bytes = 66 + n.wireBytes := by
  have hkeys : Json.escapedBytes "video_codec" = 11 ∧ Json.escapedBytes "audio_codec" = 11 ∧
      Json.escapedBytes "max_bitrate_kbps" = 16 ∧ Json.escapedBytes "framerate" = 9 := by
    decide
  unfold wireBytes
  cases haudio : n.audioCodec <;>
    simp [toJson, haudio, orNull, u32, hkeys, escapedBytes_eq_wireBytes] <;> omega

theorem Capabilities.bytes_toJson_le {c : Capabilities}
    (hvideo : (Field.codecs c.videoCodecs).passes = true)
    (haudio : (Field.codecs c.audioCodecs).passes = true) : c.toJson.bytes ≤ 7000 := by
  have hkeys : Json.escapedBytes "video_codecs" = 12 ∧ Json.escapedBytes "audio_codecs" = 12 ∧
      Json.escapedBytes "max_resolution" = 14 ∧ Json.escapedBytes "max_framerate" = 13 ∧
      Json.escapedBytes "supports_cursor" = 15 ∧ Json.escapedBytes "width" = 5 ∧
      Json.escapedBytes "height" = 6 := by
    decide
  have hresolution : (orNull Resolution.toJson c.maxResolution).bytes ≤ 41 := by
    refine bytes_orNull_le _ (by decide) fun r _ => ?_
    have hwidth := bytes_u32_le r.width
    have hheight := bytes_u32_le r.height
    simp [Resolution.toJson, hkeys]
    omega
  have hframerate := bytes_orNull_le c.maxFramerate (n := 10) (by decide) fun n _ => bytes_u32_le n
  have hcursor : (Json.bool c.supportsCursor).bytes ≤ 5 := by
    rw [Json.bytes_bool]
    split_ifs <;> decide
  have hvideo := bytes_codecs_le hvideo
  have haudio := bytes_codecs_le haudio
  simp only [maxCodecs, maxCodecChars] at hvideo haudio
  simp only [toJson, Json.bytes_obj, Json.membersBytes_cons, Json.membersBytes_singleton, hkeys]
  omega

namespace SignalingMessage

theorem bytes_sessionAccept (receiverId : String) (negotiated : NegotiatedParams) :
    (sessionAccept receiverId negotiated).toJson.bytes =
      122 + OpenPlay.wireBytes receiverId + negotiated.wireBytes := by
  have hkeys : Json.escapedBytes "type" = 4 ∧ Json.escapedBytes "receiver_id" = 11 ∧
      Json.escapedBytes "negotiated" = 10 ∧
      Json.escapedBytes Variant.sessionAccept.tag = 14 := by
    decide
  simp [toJson, members, variant, hkeys, NegotiatedParams.bytes_toJson,
    escapedBytes_eq_wireBytes receiverId]
  omega

/-- What a message must leave room for: the strings that are not bounded tightly enough. -/
def leavesRoom : SignalingMessage → Prop
  | sdpOffer sdp => 29 + wireBytes sdp ≤ maxMessageBytes
  | sdpAnswer sdp => 30 + wireBytes sdp ≤ maxMessageBytes
  | sessionAccept receiverId negotiated =>
      122 + wireBytes receiverId + negotiated.wireBytes ≤ maxMessageBytes
  | _ => True

instance (m : SignalingMessage) : Decidable m.leavesRoom := by
  cases m <;> unfold leavesRoom <;> infer_instance

/-- The variants whose strings are bounded tightly enough. -/
def isShort : SignalingMessage → Bool
  | sdpOffer _ | sdpAnswer _ | sessionAccept _ _ => false
  | _ => true

theorem bytes_reason_le (r : RejectReason) (b : BitrateHintReason) (e : SessionEndReason) :
    Json.escapedBytes r.tag ≤ 20 ∧ Json.escapedBytes b.tag ≤ 20 ∧
      Json.escapedBytes e.tag ≤ 20 := by
  refine ⟨?_, ?_, ?_⟩
  · cases r <;> decide
  · cases b <;> decide
  · cases e <;> decide

/-- A string of bounded bytes, every one of them escaped with its number. -/
theorem bytes_str_le {s : String} {n : Nat} (hs : s.utf8ByteSize ≤ n) (hn : n ≤ 1024) :
    (Json.str s).bytes ≤ 7000 := by
  have hescaped := Json.escapedBytes_le s
  rw [Json.bytes_str]
  omega

theorem bytes_str_name_le {s : String} (hs : (Field.name s).passes = true) :
    (Json.str s).bytes ≤ 7000 := by
  have hname := bytes_name_le hs
  rw [Json.bytes_str]
  simp only [maxNameChars] at hname
  omega

theorem bytes_str_proof_le {s : String} (hs : (Field.proof s).passes = true) :
    (Json.str s).bytes ≤ 7000 :=
  bytes_str_le (of_decide_eq_true hs) (by decide)

theorem bytes_str_tag_le {s : String} (hs : Json.escapedBytes s ≤ 20) :
    (Json.str s).bytes ≤ 7000 := by
  rw [Json.bytes_str]
  omega

/-- No field of these variants is long. -/
theorem bytes_member_le {m : SignalingMessage} (h : m.valid = true) (hshort : m.isShort = true) :
    ∀ f ∈ m.members, f.2.bytes ≤ 7000 := by
  have hfields := (valid_iff m).mp h
  have hproof := @bytes_str_proof_le
  have htwo : ∀ {a b : String} {k l : String}, (Field.proof a).passes = true →
      (Field.proof b).passes = true → ∀ f ∈ [(k, Json.str a), (l, Json.str b)], f.2.bytes ≤ 7000 :=
    fun ha hb => List.forall_mem_cons.mpr ⟨hproof ha, List.forall_mem_singleton.mpr (hproof hb)⟩
  have hu32 := fun n => (bytes_u32_le n).trans (show 10 ≤ 7000 by decide)
  have hu64 := fun n => (bytes_u64_le n).trans (show 20 ≤ 7000 by decide)
  cases m with
  | sessionRequest senderId displayName protocolVersion capabilities =>
    simp only [boundedFields, List.forall_mem_cons] at hfields
    obtain ⟨hsender, hdisplay, hvideo, haudio, -⟩ := hfields
    simp only [members, List.forall_mem_cons]
    exact ⟨bytes_str_name_le hsender, bytes_str_name_le hdisplay, hu32 _,
      Capabilities.bytes_toJson_le hvideo haudio, List.forall_mem_nil _⟩
  | iceCandidate candidate sdpMid sdpMlineIndex =>
    simp only [boundedFields, List.forall_mem_cons] at hfields
    simp only [members, List.forall_mem_cons]
    refine ⟨bytes_str_le (of_decide_eq_true hfields.1) (by decide),
      bytes_orNull_le _ (by decide) fun mid hmid => ?_,
      bytes_orNull_le _ (by decide) fun n _ => hu32 n, List.forall_mem_nil _⟩
    refine bytes_str_le (of_decide_eq_true (hfields.2 (.mid mid) ?_))
      (show maxNameChars ≤ 1024 by decide)
    rw [Option.mem_def.mp hmid]
    exact List.mem_cons_self
  | pairingChallenge k =>
    exact List.forall_mem_singleton.mpr (hproof (hfields (.proof k) List.mem_cons_self))
  | pairingResponse k p =>
    exact htwo (hfields (.proof k) List.mem_cons_self)
      (hfields (.proof p) (List.mem_cons_of_mem _ List.mem_cons_self))
  | pairingConfirm c f =>
    exact htwo (hfields (.proof c) List.mem_cons_self)
      (hfields (.proof f) (List.mem_cons_of_mem _ List.mem_cons_self))
  | authChallenge n =>
    exact List.forall_mem_singleton.mpr (hproof (hfields (.proof n) List.mem_cons_self))
  | authResponse n p =>
    exact htwo (hfields (.proof n) List.mem_cons_self)
      (hfields (.proof p) (List.mem_cons_of_mem _ List.mem_cons_self))
  | authConfirm p =>
    exact List.forall_mem_singleton.mpr (hproof (hfields (.proof p) List.mem_cons_self))
  | sessionReject r =>
    exact List.forall_mem_singleton.mpr (bytes_str_tag_le (bytes_reason_le r .packetLoss .error).1)
  | bitrateHint n b =>
    exact List.forall_mem_cons.mpr ⟨hu32 n,
      List.forall_mem_singleton.mpr (bytes_str_tag_le (bytes_reason_le .busy b .error).2.1)⟩
  | ping t => exact List.forall_mem_singleton.mpr (hu64 t)
  | pong t u => exact List.forall_mem_cons.mpr ⟨hu64 t, List.forall_mem_singleton.mpr (hu64 u)⟩
  | sessionEnd e =>
    exact List.forall_mem_singleton.mpr (bytes_str_tag_le (bytes_reason_le .busy .packetLoss e).2.2)
  | iceComplete => exact List.forall_mem_nil _
  | sdpOffer _ => cases hshort
  | sdpAnswer _ => cases hshort
  | sessionAccept _ _ => cases hshort

theorem bytes_toJson_le_of_isShort {m : SignalingMessage} (h : m.valid = true)
    (hshort : m.isShort = true) : m.toJson.bytes ≤ maxMessageBytes := by
  have hcount : m.members.length ≤ 4 := by
    cases m <;> simp [members]
  have hsum : ∀ b ∈ m.members.map (fun f => 29 + f.2.bytes), b ≤ 7029 := by
    rw [List.forall_mem_map]
    intro f hf
    have hf := bytes_member_le h hshort f hf
    omega
  have hmembers := List.sum_le_card_nsmul _ _ hsum
  have hsize := bytes_toJson_le m
  rw [List.length_map, nsmul_eq_mul, Nat.cast_id] at hmembers
  have hmax : maxMessageBytes = 65536 := rfl
  omega

/-- **Which valid messages fit into a frame.** -/
theorem serialize_le_iff {m : SignalingMessage} (h : m.valid = true) :
    (Utf8.encode m.serialize).length ≤ maxMessageBytes ↔ m.leavesRoom := by
  show m.toJson.bytes ≤ maxMessageBytes ↔ _
  by_cases hshort : m.isShort = true
  · refine iff_of_true (bytes_toJson_le_of_isShort h hshort) ?_
    cases m <;> trivial
  · cases m with
    | sdpOffer sdp => rw [bytes_sdpOffer, leavesRoom]
    | sdpAnswer sdp => rw [bytes_sdpAnswer, leavesRoom]
    | sessionAccept receiverId negotiated => rw [bytes_sessionAccept, leavesRoom]
    | _ => exact absurd rfl hshort

theorem serialize_le_of_ping :
    (Utf8.encode (ping 1000).serialize).length ≤ maxMessageBytes ↔ (ping 1000).leavesRoom :=
  serialize_le_iff (m := ping 1000) rfl

/-- A session description within its bound whose characters all grow sixfold. -/
theorem exists_sdp_of_controls :
    ∃ sdp : String, sdp.utf8ByteSize = maxSdpBytes ∧ wireBytes sdp = 6 * maxSdpBytes := by
  have hsize : '\x01'.utf8Size = 1 ∧ Json.isNumbered '\x01' = true ∧
      Json.isLettered '\x01' = false := by
    decide
  have hbytes : (String.ofList (List.replicate maxSdpBytes '\x01')).utf8ByteSize =
      maxSdpBytes := by
    simp [Utf8.utf8ByteSize_eq, hsize]
  refine ⟨_, hbytes, ?_⟩
  rw [wireBytes, hbytes]
  simp [List.countP_replicate, hsize]
  omega

/-- A valid session description of control characters is half as long again as a frame
may be. -/
theorem sdpOffer_too_long :
    ¬ ∀ m : SignalingMessage, m.valid = true →
      (Utf8.encode m.serialize).length ≤ maxMessageBytes := by
  intro hall
  obtain ⟨sdp, hbytes, hwire⟩ := exists_sdp_of_controls
  have hvalid : (sdpOffer sdp).valid = true :=
    (valid_iff _).mpr (List.forall_mem_singleton.mpr (decide_eq_true (Nat.le_of_eq hbytes)))
  have hframe : (sdpOffer sdp).toJson.bytes ≤ maxMessageBytes := hall _ hvalid
  rw [bytes_sdpOffer, hwire, maxSdpBytes, maxMessageBytes] at hframe
  omega

end SignalingMessage

end OpenPlay
