import OpenPlay.Protocol.Wire

/-!
# What validation bounds

The fields of a signaling message that have no size of their own, the documented bound
of each, and what `validate` makes of them.

`valid_iff` says which fields are checked: all but the codec names of a `SessionAccept`.
From it come the two results on sizes, one on the fields and one on the text of a
message.  Either says exactly what those names, and the control characters of a session
description, leave open.
-/

namespace OpenPlay

/-! ## Fields and their bounds -/

/-- A string or a list among the fields of a message, by what it is for. -/
inductive Field
  | name (s : String)
  | sdp (s : String)
  | candidate (s : String)
  | mid (s : String)
  | proof (s : String)
  | codec (s : String)
  | codecs (l : List String)
deriving DecidableEq, Repr

namespace Field

def bytes : Field → Nat
  | name s | sdp s | candidate s | mid s | proof s | codec s => s.utf8ByteSize
  | codecs l => (l.map String.utf8ByteSize).sum

/-- The documented bound. -/
def withinBound : Field → Bool
  | name s => s.length ≤ maxNameChars
  | sdp s => s.utf8ByteSize ≤ maxSdpBytes
  | candidate s => s.utf8ByteSize ≤ maxCandidateBytes
  | mid s => s.utf8ByteSize ≤ maxNameChars
  | proof s => s.utf8ByteSize ≤ maxProofBytes
  | codec s => s.length ≤ maxCodecChars
  | codecs l => l.length ≤ maxCodecs && l.all fun s => decide (s.length ≤ maxCodecChars)

/-- What is checked of a field: its bound and, of a name, that there is one without
control characters.  A single codec name is not checked. -/
def passes : Field → Bool
  | name s => !s.isEmpty && decide (s.length ≤ maxNameChars) && !s.toList.any isControl
  | codec _ => true
  | field => field.withinBound

/-- The bound in bytes: a character has up to four. -/
def maxBytes : Field → Nat
  | name _ => 4 * maxNameChars
  | sdp _ => maxSdpBytes
  | candidate _ => maxCandidateBytes
  | mid _ => maxNameChars
  | proof _ => maxProofBytes
  | codec _ => 4 * maxCodecChars
  | codecs _ => maxCodecs * (4 * maxCodecChars)

end Field

namespace SignalingMessage

/-- The strings and lists of a message, nested ones included. -/
def boundedFields : SignalingMessage → List Field
  | sessionRequest senderId displayName _ capabilities =>
      [.name senderId, .name displayName, .codecs capabilities.videoCodecs,
        .codecs capabilities.audioCodecs]
  | sessionAccept receiverId negotiated =>
      .name receiverId :: .codec negotiated.videoCodec ::
        (negotiated.audioCodec.map Field.codec).toList
  | pairingChallenge receiverPubEcdh => [.proof receiverPubEcdh]
  | pairingResponse senderPubEcdh pinProof => [.proof senderPubEcdh, .proof pinProof]
  | pairingConfirm confirm receiverCertFingerprint =>
      [.proof confirm, .proof receiverCertFingerprint]
  | authChallenge nonce => [.proof nonce]
  | authResponse nonce proof => [.proof nonce, .proof proof]
  | authConfirm proof => [.proof proof]
  | sdpOffer sdp | sdpAnswer sdp => [.sdp sdp]
  | iceCandidate candidate sdpMid _ => .candidate candidate :: (sdpMid.map Field.mid).toList
  | sessionReject _ | iceComplete | bitrateHint _ _ | ping _ | pong _ _ | sessionEnd _ => []

/-- How many bytes its strings and lists have. -/
def totalBytes (m : SignalingMessage) : Nat := (m.boundedFields.map Field.bytes).sum

end SignalingMessage

/-! ## What is checked -/

section Checks

variable {field : String}

/-- Two checks in a row. -/
theorem check_bind {first more : Except ValidationError Unit} :
    (first >>= fun _ => more) = .ok () ↔ first = .ok () ∧ more = .ok () := by
  rcases first with e | ⟨⟩
  · exact iff_of_false nofun fun h => nomatch h.1
  · exact ⟨fun h => ⟨rfl, h⟩, fun h => h.2⟩

theorem checkLen_ok {len max : Nat} : checkLen field len max = .ok () ↔ len ≤ max := by
  unfold checkLen
  split_ifs with h
  · exact iff_of_false nofun (Nat.not_le.mpr h)
  · exact iff_of_true rfl (Nat.not_lt.mp h)

theorem checkName_ok {value : String} :
    checkName field value = .ok () ↔ (Field.name value).passes = true := by
  simp only [checkName, Field.passes]
  split_ifs with h₁ h₂ h₃
  · simp [h₁]
  · simp [Nat.not_le.mpr h₂]
  · simp [h₃]
  · simp [h₁, h₃, Nat.not_lt.mp h₂]

theorem checkCodecs_ok {codecs : List String} :
    checkCodecs field codecs = .ok () ↔ (Field.codecs codecs).passes = true := by
  have hall : ∀ check : String → Except ValidationError Unit,
      codecs.forM check = .ok () ↔ ∀ codec ∈ codecs, check codec = .ok () := by
    intro check
    induction codecs with
    | nil => exact iff_of_true rfl nofun
    | cons codec rest ih =>
      rw [List.forM_eq_forM, List.forM_cons, ← List.forM_eq_forM, check_bind, ih,
        List.forall_mem_cons]
  simp only [checkCodecs, Field.passes, Field.withinBound]
  split_ifs with h
  · simp [Nat.not_le.mpr h]
  · rw [hall, decide_eq_true (Nat.not_lt.mp h), Bool.true_and, List.all_eq_true]
    refine forall₂_congr fun codec _ => ?_
    split_ifs with hlong
    · simp [Nat.not_le.mpr hlong]
    · simp [Nat.not_lt.mp hlong]

end Checks

namespace SignalingMessage

theorem valid_eq_true_iff (m : SignalingMessage) : m.valid = true ↔ m.validate = .ok () := by
  unfold valid
  rcases m.validate with e | ⟨⟩
  · exact iff_of_false nofun nofun
  · exact iff_of_true rfl rfl

/-- **Which fields are checked**, and for what. -/
theorem valid_iff (m : SignalingMessage) :
    m.valid = true ↔ ∀ f ∈ m.boundedFields, f.passes = true := by
  rw [valid_eq_true_iff]
  cases m with
  | iceCandidate candidate sdpMid _ =>
    cases sdpMid <;> simp [validate, boundedFields, check_bind, checkLen_ok, Field.passes,
      Field.withinBound]
  | sessionAccept receiverId negotiated =>
    cases h : negotiated.audioCodec <;>
      simp [validate, boundedFields, checkName_ok, Field.passes, h]
  | _ =>
    simp [validate, boundedFields, check_bind, checkLen_ok, checkName_ok, checkCodecs_ok,
      Field.passes, Field.withinBound]

end SignalingMessage

/-! ## The size of the fields -/

namespace Field

theorem bytes_le_maxBytes {f : Field} (h : f.withinBound = true) : f.bytes ≤ f.maxBytes := by
  have hchars : ∀ {s : String} {n : Nat}, s.length ≤ n → s.utf8ByteSize ≤ 4 * n := by
    intro s n hs
    exact (Utf8.utf8ByteSize_le s).trans (Nat.mul_le_mul_left 4 hs)
  cases f with
  | name s => exact hchars (of_decide_eq_true h)
  | codec s => exact hchars (of_decide_eq_true h)
  | codecs l =>
    obtain ⟨hcount, heach⟩ := Bool.and_eq_true_iff.mp h
    have hsum : ∀ b ∈ l.map String.utf8ByteSize, b ≤ 4 * maxCodecChars := by
      rw [List.forall_mem_map]
      intro s hs
      exact hchars (of_decide_eq_true (List.all_eq_true.mp heach s hs))
    have hlist := List.sum_le_card_nsmul _ _ hsum
    rw [List.length_map] at hlist
    exact hlist.trans (Nat.mul_le_mul_right _ (of_decide_eq_true hcount))
  | _ => exact of_decide_eq_true h

theorem withinBound_of_passes {f : Field} (h : f.passes = true) :
    (∃ s, f = .codec s) ∨ f.withinBound = true := by
  cases f with
  | name s => exact .inr (Bool.and_eq_true_iff.mp (Bool.and_eq_true_iff.mp h).1).2
  | codec s => exact .inl ⟨s, rfl⟩
  | _ => exact .inr h

end Field

/-- The bytes of the codec names that were negotiated. -/
def NegotiatedParams.codecBytes (n : NegotiatedParams) : Nat :=
  n.videoCodec.utf8ByteSize + (n.audioCodec.map String.utf8ByteSize).getD 0

/-- The bound on all fields of a message. -/
def maxFieldBytes : Nat :=
  max (2 * (4 * maxNameChars) + 2 * (maxCodecs * (4 * maxCodecChars)))
    (max (4 * maxNameChars + 2 * (4 * maxCodecChars))
      (max maxSdpBytes (max (maxCandidateBytes + maxNameChars) (2 * maxProofBytes))))

namespace SignalingMessage

/-- The codec names of a `SessionAccept` are as long as codec names may be. -/
def negotiatedWithin : SignalingMessage → Bool
  | sessionAccept _ negotiated =>
      decide (negotiated.videoCodec.length ≤ maxCodecChars) &&
        negotiated.audioCodec.all fun codec => decide (codec.length ≤ maxCodecChars)
  | _ => true

theorem totalBytes_le {m : SignalingMessage} (h : ∀ f ∈ m.boundedFields, f.withinBound = true) :
    m.totalBytes ≤ maxFieldBytes := by
  have hsum : m.totalBytes ≤ (m.boundedFields.map Field.maxBytes).sum :=
    List.sum_le_sum fun f hf => Field.bytes_le_maxBytes (h f hf)
  refine hsum.trans ?_
  cases m with
  | iceCandidate candidate sdpMid _ => cases sdpMid <;> simp [boundedFields, Field.maxBytes] <;> decide
  | sessionAccept receiverId negotiated =>
    cases hcodec : negotiated.audioCodec <;> simp [boundedFields, Field.maxBytes, hcodec] <;> decide
  | _ => simp [boundedFields, Field.maxBytes] <;> decide

/-- What is valid is within its bounds, up to the codec names that were negotiated. -/
theorem withinBound_iff {m : SignalingMessage} (h : m.valid = true) :
    (∀ f ∈ m.boundedFields, f.withinBound = true) ↔ m.negotiatedWithin = true := by
  have hfields : ∀ f ∈ m.boundedFields, (∃ s, f = .codec s) ∨ f.withinBound = true :=
    fun f hf => Field.withinBound_of_passes ((valid_iff m).mp h f hf)
  cases m with
  | sessionAccept receiverId negotiated =>
    have hname : (Field.name receiverId).withinBound = true := by
      simpa using hfields (.name receiverId) List.mem_cons_self
    cases hcodec : negotiated.audioCodec <;>
      simp_all [boundedFields, negotiatedWithin, Field.withinBound]
  | _ =>
    refine iff_of_true (fun f hf => ?_) rfl
    rcases hfields f hf with ⟨s, rfl⟩ | hbound
    · simp [boundedFields] at hf
    · exact hbound

theorem totalBytes_sessionAccept (receiverId : String) (negotiated : NegotiatedParams) :
    (sessionAccept receiverId negotiated).totalBytes =
      receiverId.utf8ByteSize + negotiated.codecBytes := by
  cases hcodec : negotiated.audioCodec <;>
    simp [totalBytes, boundedFields, Field.bytes, NegotiatedParams.codecBytes, hcodec]

theorem valid_sessionAccept_iff (receiverId : String) (negotiated : NegotiatedParams) :
    (sessionAccept receiverId negotiated).valid = true ↔ (Field.name receiverId).passes = true := by
  rw [valid_iff]
  cases hcodec : negotiated.audioCodec <;> simp [boundedFields, Field.passes, hcodec]

/-- **What validation bounds.**  The valid messages of a class have a bound on their bytes
just when the codec names of its valid `SessionAccept`s have one.  Every field of a valid
message is within its documented bound just when those names are, and `maxFieldBytes`
then bounds the message. -/
theorem validate_bounds_iff (C : SignalingMessage → Prop) :
    ((∃ K, ∀ m : SignalingMessage, m.valid = true → C m → m.totalBytes ≤ K) ↔
      ∃ L, ∀ receiverId negotiated, (sessionAccept receiverId negotiated).valid = true →
        C (sessionAccept receiverId negotiated) → negotiated.codecBytes ≤ L) ∧
    ∀ m : SignalingMessage, m.valid = true →
      ((∀ f ∈ m.boundedFields, f.withinBound = true) ↔ m.negotiatedWithin = true) ∧
        (m.negotiatedWithin = true → m.totalBytes ≤ maxFieldBytes) := by
  refine ⟨⟨?_, ?_⟩, fun m hm => ⟨withinBound_iff hm, fun h =>
    totalBytes_le ((withinBound_iff hm).mpr h)⟩⟩
  · rintro ⟨K, hK⟩
    refine ⟨K, fun receiverId negotiated hvalid hC => ?_⟩
    have hbytes := hK _ hvalid hC
    rw [totalBytes_sessionAccept] at hbytes
    exact Nat.le_of_add_left_le hbytes
  · rintro ⟨L, hL⟩
    refine ⟨maxFieldBytes + L, fun m hm hC => ?_⟩
    -- Only a `SessionAccept` may have more bytes than its bounds allow.
    by_cases hwithin : m.negotiatedWithin = true
    · exact (totalBytes_le ((withinBound_iff hm).mpr hwithin)).trans (Nat.le_add_right _ _)
    · cases m with
      | sessionAccept receiverId negotiated =>
        have hname : (Field.name receiverId).withinBound = true := by
          have hpasses := (valid_sessionAccept_iff receiverId negotiated).mp hm
          rcases Field.withinBound_of_passes hpasses with ⟨s, hs⟩ | hbound
          · cases hs
          · exact hbound
        have hreceiver : receiverId.utf8ByteSize ≤ maxFieldBytes :=
          (Field.bytes_le_maxBytes hname).trans
            (show 4 * maxNameChars ≤ maxFieldBytes by decide)
        rw [totalBytes_sessionAccept]
        exact Nat.add_le_add hreceiver (hL _ _ hm hC)
      | _ => exact absurd rfl hwithin

/-- A `SessionAccept` is valid with a codec name of any length. -/
theorem sessionAccept_unbounded :
    ¬ ∃ K, ∀ m : SignalingMessage, m.valid = true → m.totalBytes ≤ K := by
  rintro ⟨K, hK⟩
  let codec := String.ofList (List.replicate (K + 1) 'a')
  have hvalid := (valid_sessionAccept_iff "r" ⟨codec, none, 0, 0⟩).mpr (by decide)
  have hbytes := hK _ hvalid
  have hcodec : codec.utf8ByteSize = (K + 1) * 'a'.utf8Size := by
    simp [codec, Utf8.utf8ByteSize_eq]
  have hsize : 'a'.utf8Size = 1 := by decide
  rw [totalBytes_sessionAccept, NegotiatedParams.codecBytes] at hbytes
  simp only [hcodec, hsize] at hbytes
  omega

end SignalingMessage

end OpenPlay
