import OpenPlay.Foundation.FixedWidth

/-!
# The packets of a mirror stream

`mirror_header.rs` and the packets that `mirror_stream.rs` writes: a header of 128
bytes with the size of the payload, then the payload.  `parsePackets` is what a receiver
does with the stream, one header and one payload after the other.

* `MirrorHeader.decode_encode`: a header is read as it was written
* `parsePackets_flatMap`: whole packets are read as they were written, and what follows
  them is left if it is only the beginning of a packet
-/

namespace OpenPlay.Airplay

/-! ## The header -/

inductive PacketType
  | video
  | codecData
  | heartbeat
deriving DecidableEq, Repr

/-- `packet_type as u16`. -/
def PacketType.toU16 : PacketType → UInt16
  | video => 0
  | codecData => 1
  | heartbeat => 2

/-- `PacketType::from_u16`. -/
def PacketType.fromU16 (val : UInt16) : Option PacketType :=
  if val = 0 then some video
  else if val = 1 then some codecData
  else if val = 2 then some heartbeat
  else none

@[simp] theorem PacketType.fromU16_toU16 (t : PacketType) : fromU16 t.toU16 = some t := by
  cases t <;> rfl

structure MirrorHeader where
  payloadSize : UInt32
  packetType : PacketType
  ntpTimestamp : UInt64
deriving DecidableEq

/-- `HEADER_SIZE`. -/
def headerSize : Nat := 128

namespace MirrorHeader

/-- `MirrorHeader::encode`. -/
def encode (h : MirrorHeader) : List UInt8 :=
  FixedWidth.le 4 h.payloadSize.toNat ++ (FixedWidth.le 2 h.packetType.toU16.toNat ++
    (FixedWidth.le 2 0 ++ (FixedWidth.be 8 h.ntpTimestamp.toNat ++
      List.replicate (headerSize - 16) 0)))

/-- `MirrorHeader::decode`. -/
def decode (data : List UInt8) : Option MirrorHeader :=
  if data.length < headerSize then none
  else
    let payloadSize := UInt32.ofNat (FixedWidth.ofLe (data.take 4))
    let typeVal := UInt16.ofNat (FixedWidth.ofLe ((data.drop 4).take 2))
    (PacketType.fromU16 typeVal).map fun packetType =>
      ⟨payloadSize, packetType, UInt64.ofNat (FixedWidth.ofBe ((data.drop 8).take 8))⟩

@[simp] theorem length_encode (h : MirrorHeader) : h.encode.length = headerSize := by
  simp [encode, headerSize]

/-- **A header is read as it was written.** -/
theorem decode_encode (h : MirrorHeader) : decode h.encode = some h := by
  have size : h.encode.take 4 = FixedWidth.le 4 h.payloadSize.toNat :=
    List.take_left' (FixedWidth.length_le _ _)
  have afterSize : h.encode.drop 4 = FixedWidth.le 2 h.packetType.toU16.toNat ++
      (FixedWidth.le 2 0 ++ (FixedWidth.be 8 h.ntpTimestamp.toNat ++
        List.replicate (headerSize - 16) 0)) :=
    List.drop_left' (FixedWidth.length_le _ _)
  have afterPadding : h.encode.drop 8 = FixedWidth.be 8 h.ntpTimestamp.toNat ++
      List.replicate (headerSize - 16) 0 := by
    rw [show 8 = 4 + 4 from rfl, ← List.drop_drop, afterSize, ← List.append_assoc]
    exact List.drop_left' (by simp)
  have typed : (h.encode.drop 4).take 2 = FixedWidth.le 2 h.packetType.toU16.toNat := by
    rw [afterSize]
    exact List.take_left' (FixedWidth.length_le _ _)
  have stamped : (h.encode.drop 8).take 8 = FixedWidth.be 8 h.ntpTimestamp.toNat := by
    rw [afterPadding]
    exact List.take_left' (FixedWidth.length_be _ _)
  rw [decode, length_encode, if_neg (Nat.lt_irrefl _), size, typed, stamped,
    FixedWidth.ofLe_le h.payloadSize.toNat_lt, FixedWidth.ofLe_le h.packetType.toU16.toNat_lt,
    FixedWidth.ofBe_be h.ntpTimestamp.toNat_lt]
  simp

end MirrorHeader

/-! ## Packets -/

/-- A packet to be written, with the time that its header will bear. -/
structure Packet where
  packetType : PacketType
  payload : List UInt8
  ntpTimestamp : UInt64
deriving DecidableEq

namespace Packet

/-- The header that `send_codec_data`, `send_video_frame` and `send_heartbeat` make. -/
def header (p : Packet) : MirrorHeader :=
  ⟨UInt32.ofNat p.payload.length, p.packetType, p.ntpTimestamp⟩

/-- The bytes of a packet. -/
def encode (p : Packet) : List UInt8 := p.header.encode ++ p.payload

theorem length_encode (p : Packet) : p.encode.length = headerSize + p.payload.length := by
  rw [encode, List.length_append, MirrorHeader.length_encode]

end Packet

/-- Read packets from the front of a stream as long as they are whole. -/
def parsePackets (data : List UInt8) : List (PacketType × List UInt8) × List UInt8 :=
  if _short : data.length < headerSize then ([], data)
  else
    match MirrorHeader.decode (data.take headerSize) with
    | none => ([], data)
    | some h =>
        let body := data.drop headerSize
        if body.length < h.payloadSize.toNat then ([], data)
        else
          let next := parsePackets (body.drop h.payloadSize.toNat)
          ((h.packetType, body.take h.payloadSize.toNat) :: next.1, next.2)
termination_by data.length
decreasing_by
  rw [List.length_drop, List.length_drop]
  unfold headerSize at *
  omega

section Parse

variable {p : Packet} {more rest : List UInt8}

theorem decode_take_encode (p : Packet) (more : List UInt8) :
    MirrorHeader.decode ((p.encode ++ more).take headerSize) = some p.header := by
  rw [Packet.encode, List.append_assoc, List.take_left' p.header.length_encode,
    MirrorHeader.decode_encode]

theorem payloadSize_toNat (small : p.payload.length < 2 ^ 32) :
    p.header.payloadSize.toNat = p.payload.length := by
  rw [Packet.header, UInt32.toNat_ofNat', Nat.mod_eq_of_lt small]

theorem drop_encode (p : Packet) (more : List UInt8) :
    (p.encode ++ more).drop headerSize = p.payload ++ more := by
  rw [Packet.encode, List.append_assoc, List.drop_left' p.header.length_encode]

/-- A packet in front is read. -/
theorem parsePackets_append (small : p.payload.length < 2 ^ 32) (more : List UInt8) :
    parsePackets (p.encode ++ more) =
      ((p.packetType, p.payload) :: (parsePackets more).1, (parsePackets more).2) := by
  have long : ¬ (p.encode ++ more).length < headerSize := by
    rw [List.length_append, p.length_encode]
    omega
  have whole : ¬ (p.payload ++ more).length < p.header.payloadSize.toNat := by
    rw [payloadSize_toNat small, List.length_append]
    omega
  rw [parsePackets, dif_neg long, decode_take_encode]
  simp only [drop_encode]
  rw [if_neg whole, payloadSize_toNat small, List.take_left, List.drop_left]
  rfl

/-- The beginning of a packet is left. -/
theorem parsePackets_incomplete (small : p.payload.length < 2 ^ 32) (part : rest <+: p.encode)
    (proper : rest.length < p.encode.length) : parsePackets rest = ([], rest) := by
  rw [parsePackets]
  split_ifs with short
  · rfl
  · obtain ⟨tail, htail⟩ := part
    have front : rest.take headerSize = p.header.encode := by
      have htake := congrArg (List.take headerSize) htail
      rwa [List.take_append_of_le_length (Nat.not_lt.mp short), Packet.encode,
        List.take_left' p.header.length_encode] at htake
    have few : (rest.drop headerSize).length < p.header.payloadSize.toNat := by
      rw [payloadSize_toNat small, List.length_drop]
      rw [p.length_encode] at proper
      omega
    rw [front, MirrorHeader.decode_encode]
    exact if_pos few

/-- **Packets are read as they were written.** -/
theorem parsePackets_flatMap {ps : List Packet} (small : ∀ p ∈ ps, p.payload.length < 2 ^ 32)
    (left : parsePackets rest = ([], rest)) :
    parsePackets (ps.flatMap Packet.encode ++ rest) =
      (ps.map fun p => (p.packetType, p.payload), rest) := by
  induction ps with
  | nil => exact left
  | cons p ps ih =>
      rw [List.flatMap_cons, List.append_assoc,
        parsePackets_append (small p List.mem_cons_self),
        ih fun q mem => small q (List.mem_cons_of_mem _ mem)]
      rfl

end Parse

/-! ## Commands -/

inductive SessionCommand
  | sendCodecData (data : List UInt8)
  | sendVideoFrame (data : List UInt8)
  | stop
deriving DecidableEq

end OpenPlay.Airplay
