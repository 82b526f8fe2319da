import OpenPlay.Foundation.FixedWidth
import OpenPlay.Foundation.Utf8

/-!
# The encrypted control channel

`ControlChannel` of `openplay-airplay`'s `control_channel.rs`: frames of two bytes of
length, a ciphertext of that length and a tag of 16 bytes, sealed with a nonce that
counts the frames of a direction.  The length is read before it is authenticated, so
`recv` believes it until the tag says otherwise.

The cipher is any one that decrypts what it has encrypted (`Aead`).  A socket takes the
bytes of a frame, or some of them before it fails; what it has yet to read is whatever
the network put there.

* `ControlChannel.send_of_le`, `send_of_gt` and `recv_cases` say all that a call can do
* `recv_frame`: a frame that stands before the right counter is read as it was sent
-/

namespace OpenPlay.Airplay

/-! ## The cipher -/

/-- An AEAD cipher, ChaCha20-Poly1305 for one: what was sealed is opened, and a sealed
text is 16 bytes longer than the plain one. -/
structure Aead (Key : Type) where
  encrypt : Key → (nonce aad msg : List UInt8) → List UInt8
  decrypt : Key → (nonce aad msg : List UInt8) → Option (List UInt8)
  decrypt_encrypt : ∀ key nonce aad msg,
    decrypt key nonce aad (encrypt key nonce aad msg) = some msg
  length_encrypt : ∀ key nonce aad msg, (encrypt key nonce aad msg).length = msg.length + 16

/-- `MAX_FRAME`. -/
def maxFrame : Nat := 0xFFFF

/-- `CONTROL_SALT`. -/
def controlSalt : List UInt8 := Utf8.encode "Control-Salt".toList

/-- `WRITE_INFO`. -/
def writeInfo : List UInt8 := Utf8.encode "Control-Write-Encryption-Key".toList

/-- `READ_INFO`. -/
def readInfo : List UInt8 := Utf8.encode "Control-Read-Encryption-Key".toList

/-- `nonce_for`. -/
def nonceFor (counter : UInt64) : List UInt8 :=
  [0, 0, 0, 0] ++ FixedWidth.le 8 counter.toNat

theorem nonceFor_injective {m n : UInt64} (h : nonceFor m = nonceFor n) : m = n :=
  UInt64.toNat_inj.mp (FixedWidth.le_injective m.toNat_lt n.toNat_lt (List.append_cancel_left h))

/-! ## The socket -/

/-- A connection: what was read from it, what is there to be read, whether anything
more can come, and what was written. -/
structure TcpStream where
  taken : List UInt8
  incoming : List UInt8
  ended : Bool
  written : List UInt8
deriving DecidableEq

/-- A connection on which nothing has been said. -/
def TcpStream.new : TcpStream := ⟨[], [], false, []⟩

/-- `read_exact`, with `none` as long as it waits.  A connection that ends before gives
no bytes, and has lost those that were there. -/
def TcpStream.readExact (s : TcpStream) (n : Nat) : Option (Option (List UInt8) × TcpStream) :=
  if n ≤ s.incoming.length then
    some (some (s.incoming.take n),
      { s with taken := s.taken ++ s.incoming.take n, incoming := s.incoming.drop n })
  else if s.ended then
    some (none, { s with taken := s.taken ++ s.incoming, incoming := [] })
  else none

/-- What a socket makes of the bytes it is given. -/
inductive SocketWrite
  | all
  | fails (e : String) (taken : Nat)
deriving DecidableEq

/-! ## The channel -/

inductive ControlError
  | tooLong (length : Nat)
  | write (e : String)
  | closedAtLength
  | closedMidFrame
  | notAuthentic
deriving DecidableEq

def ControlError.text : ControlError → String
  | tooLong length => s!"control frame of {length} bytes exceeds the {maxFrame}-byte limit"
  | write e => e
  | closedAtLength => "control channel closed while reading a frame length"
  | closedMidFrame => "control channel closed mid-frame"
  | notAuthentic => "control frame authentication failed: aead::Error"

structure ControlChannel (Key : Type) where
  stream : TcpStream
  writeCipher : Key
  readCipher : Key
  writeCounter : UInt64
  readCounter : UInt64

namespace ControlChannel

variable {Key : Type} (cipher : Aead Key)

/-- `ControlChannel::new`, with `hkdf` from a salt, a secret and an info to a key. -/
def new (hkdf : List UInt8 → List UInt8 → List UInt8 → Key) (stream : TcpStream)
    (sessionKey : List UInt8) : ControlChannel Key :=
  ⟨stream, hkdf controlSalt sessionKey writeInfo, hkdf controlSalt sessionKey readInfo, 0, 0⟩

/-- The other end: its keys are those of `ch`, the other way round. -/
def mirrored (ch : ControlChannel Key) : ControlChannel Key :=
  { ch with writeCipher := ch.readCipher, readCipher := ch.writeCipher }

/-- The bytes of a frame. -/
def frame (key : Key) (counter : UInt64) (plaintext : List UInt8) : List UInt8 :=
  let len := FixedWidth.le 2 plaintext.length
  len ++ cipher.encrypt key (nonceFor counter) len plaintext

/-- The socket has taken some bytes. -/
def wrote (ch : ControlChannel Key) (bytes : List UInt8) : ControlChannel Key :=
  { ch with stream := { ch.stream with written := ch.stream.written ++ bytes } }

/-- `send`. -/
def send (ch : ControlChannel Key) (plaintext : List UInt8) (write : SocketWrite) :
    Except ControlError Unit × ControlChannel Key :=
  if plaintext.length > maxFrame then (.error (.tooLong plaintext.length), ch)
  else
    let bytes := frame cipher ch.writeCipher ch.writeCounter plaintext
    -- the counter is stepped before anything is written
    let counted := { ch with writeCounter := ch.writeCounter + 1 }
    match write with
    | .all => (.ok (), counted.wrote bytes)
    | .fails e taken => (.error (.write e), counted.wrote (bytes.take taken))

/-- `recv`, with `none` as long as it waits. -/
def recv (ch : ControlChannel Key) :
    Option (Except ControlError (List UInt8) × ControlChannel Key) :=
  (ch.stream.readExact 2).bind fun
    | (none, stream) => some (.error .closedAtLength, { ch with stream := stream })
    | (some lenBuf, stream) =>
        (stream.readExact (FixedWidth.ofLe lenBuf + 16)).bind fun
          | (none, stream) => some (.error .closedMidFrame, { ch with stream := stream })
          | (some sealed, stream) =>
              match cipher.decrypt ch.readCipher (nonceFor ch.readCounter) lenBuf sealed with
              | none => some (.error .notAuthentic, { ch with stream := stream })
              | some plaintext =>
                  some (.ok plaintext,
                    { ch with stream := stream, readCounter := ch.readCounter + 1 })

end ControlChannel

/-! ## What the calls do -/

namespace TcpStream

variable {s s' : TcpStream} {n : Nat} {bytes : List UInt8}

theorem readExact_some (h : s.readExact n = some (some bytes, s')) :
    bytes.length = n ∧ s.incoming = bytes ++ s'.incoming ∧
      s' = { s with taken := s.taken ++ bytes, incoming := s'.incoming } := by
  rw [readExact] at h
  split_ifs at h with enough
  · cases h
    refine ⟨List.length_take_of_le enough, ?_, rfl⟩
    exact (List.take_append_drop n s.incoming).symm
  · cases h

theorem readExact_none (h : s.readExact n = some (none, s')) :
    s.ended = true ∧ s.incoming.length < n ∧
      s' = { s with taken := s.taken ++ s.incoming, incoming := [] } := by
  rw [readExact] at h
  split_ifs at h with enough ended
  · cases h
  · cases h
    exact ⟨ended, Nat.lt_of_not_le enough, rfl⟩

/-- Bytes that are there are read. -/
theorem readExact_append {rest : List UInt8} (h : s.incoming = bytes ++ rest) :
    s.readExact bytes.length =
      some (some bytes, { s with taken := s.taken ++ bytes, incoming := rest }) := by
  have enough : bytes.length ≤ s.incoming.length := by
    rw [h, List.length_append]
    exact Nat.le_add_right _ _
  rw [readExact, if_pos enough, h, List.take_left, List.drop_left]

end TcpStream

namespace ControlChannel

variable {Key : Type} {cipher : Aead Key} {ch ch' : ControlChannel Key}
variable {plaintext : List UInt8} {write : SocketWrite}

theorem length_frame (key : Key) (counter : UInt64) (plaintext : List UInt8) :
    (frame cipher key counter plaintext).length = plaintext.length + 18 := by
  rw [frame, List.length_append, FixedWidth.length_le, cipher.length_encrypt]
  omega

/-- The bytes that a socket takes of a frame. -/
def takenOf (bytes : List UInt8) : SocketWrite → List UInt8
  | .all => bytes
  | .fails _ taken => bytes.take taken

/-- A frame that is not too long is sealed, and steps the counter. -/
theorem send_of_le (h : plaintext.length ≤ maxFrame) (write : SocketWrite) :
    (ch.send cipher plaintext write).2 =
      ({ ch with writeCounter := ch.writeCounter + 1 } : ControlChannel Key).wrote
        (takenOf (frame cipher ch.writeCipher ch.writeCounter plaintext) write) := by
  rw [send, if_neg (Nat.not_lt.mpr h)]
  cases write <;> rfl

theorem send_of_gt (h : maxFrame < plaintext.length) (write : SocketWrite) :
    ch.send cipher plaintext write = (.error (.tooLong plaintext.length), ch) :=
  if_pos h

theorem send_ok_iff :
    (ch.send cipher plaintext write).1 = .ok () ↔
      plaintext.length ≤ maxFrame ∧ write = .all := by
  rw [send]
  split_ifs with long
  · exact iff_of_false nofun fun h => absurd h.1 (Nat.not_le.mpr long)
  · cases write with
    | all => exact iff_of_true rfl ⟨Nat.not_lt.mp long, rfl⟩
    | fails e taken => exact iff_of_false nofun fun h => nomatch h.2

/-- What `recv` can do: return the text of the frame in front and count it, or fail,
with the bytes it has read gone and nothing counted. -/
inductive Receives (cipher : Aead Key) (ch : ControlChannel Key) :
    Except ControlError (List UInt8) → ControlChannel Key → Prop
  | returned {lenBuf sealed rest plaintext : List UInt8}
      (length : lenBuf.length = 2) (size : sealed.length = FixedWidth.ofLe lenBuf + 16)
      (front : ch.stream.incoming = lenBuf ++ (sealed ++ rest))
      (opened : cipher.decrypt ch.readCipher (nonceFor ch.readCounter) lenBuf sealed =
        some plaintext) :
      Receives cipher ch (.ok plaintext)
        { ch with
          stream := { ch.stream with
            taken := ch.stream.taken ++ (lenBuf ++ sealed), incoming := rest }
          readCounter := ch.readCounter + 1 }
  | refused {lenBuf sealed rest : List UInt8}
      (length : lenBuf.length = 2) (size : sealed.length = FixedWidth.ofLe lenBuf + 16)
      (front : ch.stream.incoming = lenBuf ++ (sealed ++ rest))
      (closed : cipher.decrypt ch.readCipher (nonceFor ch.readCounter) lenBuf sealed = none) :
      Receives cipher ch (.error .notAuthentic)
        { ch with stream := { ch.stream with
            taken := ch.stream.taken ++ (lenBuf ++ sealed), incoming := rest } }
  | short {e : ControlError} (ended : ch.stream.ended = true)
      (short : ch.stream.incoming.length < FixedWidth.ofLe (ch.stream.incoming.take 2) + 18) :
      Receives cipher ch (.error e)
        { ch with stream := { ch.stream with
            taken := ch.stream.taken ++ ch.stream.incoming, incoming := [] } }

theorem recv_cases {result : Except ControlError (List UInt8)}
    (h : ch.recv cipher = some (result, ch')) : Receives cipher ch result ch' := by
  rw [recv, Option.bind_eq_some_iff] at h
  obtain ⟨⟨first, s₁⟩, hfirst, h⟩ := h
  cases first with
  | none =>
      cases h
      obtain ⟨ended, few, hs⟩ := TcpStream.readExact_none hfirst
      rw [hs]
      exact .short ended (by omega)
  | some lenBuf =>
      obtain ⟨hlen, hfront, hs₁⟩ := TcpStream.readExact_some hfirst
      obtain ⟨⟨second, s₂⟩, hsecond, h⟩ := Option.bind_eq_some_iff.mp h
      cases second with
      | none =>
          cases h
          obtain ⟨ended, few, hs⟩ := TcpStream.readExact_none hsecond
          have htake : ch.stream.incoming.take 2 = lenBuf := by
            rw [hfront, ← hlen, List.take_left]
          rw [hs, hs₁]
          have all : ch.stream.taken ++ lenBuf ++ s₁.incoming =
              ch.stream.taken ++ ch.stream.incoming := by
            rw [hfront, List.append_assoc]
          dsimp only
          rw [all]
          refine .short ?_ ?_
          · rw [hs₁] at ended
            exact ended
          · rw [htake, hfront, List.length_append, hlen]
            omega
      | some sealed =>
          obtain ⟨hsize, hrest, hs₂⟩ := TcpStream.readExact_some hsecond
          rw [hrest] at hfront
          have hs : s₂ = { ch.stream with
              taken := ch.stream.taken ++ (lenBuf ++ sealed), incoming := s₂.incoming } := by
            rw [hs₂, hs₁, List.append_assoc]
          dsimp only at h
          cases opened : cipher.decrypt ch.readCipher (nonceFor ch.readCounter) lenBuf sealed with
          | none =>
              rw [opened] at h
              cases h
              rw [hs]
              exact .refused hlen hsize hfront opened
          | some plaintext =>
              rw [opened] at h
              cases h
              rw [hs]
              exact .returned hlen hsize hfront opened

/-- **A frame in front is read**, if its key is the one to read with and its number is
the next one. -/
theorem recv_frame {rest : List UInt8} (small : plaintext.length ≤ maxFrame)
    (front : ch.stream.incoming =
      frame cipher ch.readCipher ch.readCounter plaintext ++ rest) :
    ch.recv cipher = some (.ok plaintext,
      { ch with
        stream := { ch.stream with
          taken := ch.stream.taken ++ frame cipher ch.readCipher ch.readCounter plaintext
          incoming := rest }
        readCounter := ch.readCounter + 1 }) := by
  have hread : FixedWidth.ofLe (FixedWidth.le 2 plaintext.length) = plaintext.length :=
    FixedWidth.ofLe_le (Nat.lt_of_le_of_lt small (by decide))
  rw [frame, List.append_assoc] at front
  have hfirst := TcpStream.readExact_append front
  rw [FixedWidth.length_le] at hfirst
  rw [recv, hfirst, Option.bind_some]
  dsimp only
  rw [hread, ← cipher.length_encrypt ch.readCipher (nonceFor ch.readCounter)
    (FixedWidth.le 2 plaintext.length) plaintext, TcpStream.readExact_append rfl,
    Option.bind_some]
  simp only [cipher.decrypt_encrypt, frame, List.append_assoc]

end ControlChannel

end OpenPlay.Airplay
