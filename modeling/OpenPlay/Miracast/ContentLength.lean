import OpenPlay.Airplay.Response
import OpenPlay.Miracast.ControlChannel
import OpenPlay.Miracast.Framing

/-!
# Declared lengths

A peer may declare any length below `2 ^ 64`.  `framed_message_len` and `recv_response` add
it to what stands in front of the body, in 64 bits and without a check.

The sum is exact unless the declared length is one of the largest ones
(`framesExactly_iff`).  As long as it is, a read message holds at least its header block,
and the control loop runs out of messages (`readMessages_progress`).  Where it wraps to
zero, the loop reads empty messages for ever.
-/

namespace OpenPlay.Miracast

open Utf8 (IsAscii)

/-! ## Framing -/

/-- The first header block of a buffer leaves room for the length that it declares. -/
def Fits (buf : List UInt8) : Prop :=
  ∀ headerEnd, Text.find headerEndMark buf = some headerEnd →
    headerEnd + 4 + contentLength (Utf8.decodeLossy (buf.take headerEnd)) < UInt64.size

/-- The length of the front message is the exact sum, and within bounds. -/
structure FramesExactly (buf : List UInt8) : Prop where
  exact : ∀ headerEnd, Text.find headerEndMark buf = some headerEnd →
    (headerEnd + 4 + contentLength (Utf8.decodeLossy (buf.take headerEnd))) % UInt64.size =
      headerEnd + 4 + contentLength (Utf8.decodeLossy (buf.take headerEnd))
  bounds : ∀ n, framedMessageLen buf = some n → ∃ headerEnd,
    Text.find headerEndMark buf = some headerEnd ∧ headerEnd + 4 ≤ n ∧ n ≤ buf.length

theorem framedMessageLen_of_find {buf : List UInt8} {headerEnd : Nat}
    (hfind : Text.find headerEndMark buf = some headerEnd) :
    framedMessageLen buf =
      let total := (headerEnd + 4 + contentLength (Utf8.decodeLossy (buf.take headerEnd))) %
        UInt64.size
      if buf.length ≥ total then some total else none := by
  rw [framedMessageLen, hfind]

/-- A sum that fits is within bounds. -/
theorem Fits.framesExactly {buf : List UInt8} (h : Fits buf) : FramesExactly buf where
  exact headerEnd hfind := Nat.mod_eq_of_lt (h headerEnd hfind)
  bounds n hn := by
    rcases hfind : Text.find headerEndMark buf with _ | headerEnd
    · rw [framedMessageLen, hfind] at hn
      cases hn
    · rw [framedMessageLen_of_find hfind, Nat.mod_eq_of_lt (h headerEnd hfind)] at hn
      dsimp only at hn
      split_ifs at hn with hroom
      cases hn
      exact ⟨headerEnd, rfl, Nat.le_add_right _ _, hroom⟩

/-- **A sum that does not fit cuts the message inside its own header block.** -/
theorem fits_of_bounds {buf : List UInt8} (hlen : buf.length < UInt64.size)
    (h : ∀ n, framedMessageLen buf = some n → ∃ headerEnd,
      Text.find headerEndMark buf = some headerEnd ∧ headerEnd + 4 ≤ n ∧ n ≤ buf.length) :
    Fits buf := by
  intro headerEnd hfind
  by_contra hlarge
  have hroom : headerEnd + 4 ≤ buf.length := Text.length_le_of_find hfind
  have hdeclared := contentLength_lt (Utf8.decodeLossy (buf.take headerEnd))
  have hwrap : (headerEnd + 4 + contentLength (Utf8.decodeLossy (buf.take headerEnd))) %
      UInt64.size =
        headerEnd + 4 + contentLength (Utf8.decodeLossy (buf.take headerEnd)) - UInt64.size := by
    rw [Nat.mod_eq_sub_mod (Nat.not_lt.mp hlarge), Nat.mod_eq_of_lt (by omega)]
  have hframed : framedMessageLen buf =
      some (headerEnd + 4 + contentLength (Utf8.decodeLossy (buf.take headerEnd)) -
        UInt64.size) := by
    rw [framedMessageLen_of_find hfind, hwrap]
    exact if_pos (by omega)
  obtain ⟨headerEnd', hfind', hle, -⟩ := h _ hframed
  cases hfind.symm.trans hfind'
  omega

theorem framesExactly_iff {buf : List UInt8} (hlen : buf.length < UInt64.size) :
    FramesExactly buf ↔ Fits buf :=
  ⟨fun h => fits_of_bounds hlen h.bounds, Fits.framesExactly⟩

/-! ## Progress -/

/-- The buffer with which the next call of `read_message` ends. -/
def settledBuffer (s : RtspStream) : List UInt8 :=
  Framing.settled framedMessageLen maxMessageBytes s

/-- The header blocks of some calls all leave room. -/
def AllFit (n : Nat) (s : RtspStream) : Prop :=
  ∀ i < n, Fits (settledBuffer (readMessages i s).2)

/-- A message that was read holds its header block. -/
theorem header_of_mem_messages {n : Nat} {s : RtspStream} (h : AllFit n s) {m : List UInt8}
    (hm : m ∈ Framing.messages (readMessages n s).1) :
    ∃ headerEnd, Text.find headerEndMark m = some headerEnd ∧ headerEnd + 4 ≤ m.length := by
  obtain ⟨i, hi, hread⟩ := Framing.exists_read_of_mem_messages hm
  obtain ⟨len, hframe, rfl⟩ := Framing.readFrom_message _ _ hread
  obtain ⟨headerEnd, hfind, hle, hroom⟩ := (h i hi).framesExactly.bounds len hframe
  refine ⟨headerEnd, Text.find_take hfind hle, ?_⟩
  rw [List.length_take]
  exact Nat.le_min.mpr ⟨hle, hle.trans hroom⟩

/-- What a call of `read_message` is to the control loop. -/
def controlEventOf : Framing.Outcome UInt8 (List Char) → Option ControlEvent
  | .message raw => some (.message (Utf8.decodeLossy raw))
  | .tooLarge => some (.failure "RTSP message too large".toList)
  | .closed => some (.failure "Connection closed".toList)
  | .failed e => some (.failure ("Read error: ".toList ++ e))
  | .elapsed => some .silence
  | .waiting => none

/-- The events of the control loop on a stream. -/
def controlEvents (n : Nat) (s : RtspStream) : List ControlEvent :=
  (readMessages n s).1.filterMap controlEventOf

def ControlEvent.isMessage : ControlEvent → Bool
  | message _ => true
  | _ => false

theorem countP_controlEvents (n : Nat) (s : RtspStream) :
    (controlEvents n s).countP ControlEvent.isMessage =
      (Framing.messages (readMessages n s).1).length := by
  rw [controlEvents, Framing.messages, List.countP_filterMap, List.length_filterMap_eq_countP]
  congr 1
  funext outcome
  cases outcome <;> rfl

/-- **The control loop makes progress**: every message takes its header block out of the
stream, so that there are only so many. -/
theorem readMessages_progress {n : Nat} {s : RtspStream} (h : AllFit n s) :
    4 * (controlEvents n s).countP ControlEvent.isMessage ≤ s.content.length := by
  rw [countP_controlEvents]
  refine Framing.calls_progress fun m hm => ?_
  obtain ⟨headerEnd, -, hle⟩ := header_of_mem_messages h hm
  omega

/-! ## Both readers -/

/-- **Declared lengths and framing.**  For every buffer, every stream and every response:
sums are exact and messages within bounds where the declared length leaves room for them,
and only there; and reads whose buffers all do so make progress. -/
theorem content_length_keeps_framing_iff (buf : List UInt8) (hbuf : buf.length < UInt64.size)
    (n : Nat) (s : RtspStream) (incoming : List UInt8)
    (hincoming : incoming.length < UInt64.size) :
    (FramesExactly buf ↔ Fits buf) ∧
    (AllFit n s →
      (∀ m ∈ Framing.messages (readMessages n s).1, ∃ headerEnd,
        Text.find headerEndMark m = some headerEnd ∧ headerEnd + 4 ≤ m.length) ∧
      4 * (controlEvents n s).countP ControlEvent.isMessage ≤ s.content.length) ∧
    ((∀ sizes, Airplay.recvResponse incoming sizes ≠ .overflow) ↔
      ¬ Airplay.DeclaresTooMuch incoming) := by
  refine ⟨framesExactly_iff hbuf, fun h => ⟨fun m hm => header_of_mem_messages h hm,
    readMessages_progress h⟩, ?_⟩
  rw [← Airplay.recvResponse_overflows_iff hincoming, not_exists]

theorem content_length_keeps_framing_iff_on_two_messages :
    let buf := optionsText.bytes ++ bodyText.bytes
    (FramesExactly buf ↔ Fits buf) ∧
    (AllFit 2 ⟨buf, []⟩ →
      (∀ m ∈ Framing.messages (readMessages 2 ⟨buf, []⟩).1, ∃ headerEnd,
        Text.find headerEndMark m = some headerEnd ∧ headerEnd + 4 ≤ m.length) ∧
      4 * (controlEvents 2 ⟨buf, []⟩).countP ControlEvent.isMessage ≤
        (Framing.Stream.content (⟨buf, []⟩ : RtspStream)).length) ∧
    ((∀ sizes, Airplay.recvResponse bodyText.bytes sizes ≠ .overflow) ↔
      ¬ Airplay.DeclaresTooMuch bodyText.bytes) :=
  content_length_keeps_framing_iff (optionsText.bytes ++ bodyText.bytes) (by decide) 2 _
    bodyText.bytes (by decide)

/-! ### A length that wraps to zero -/

/-- A request whose header block has 60 bytes and declares `2 ^ 64 - 60` more. -/
def wrappingHead : List Char :=
  "OPTIONS * RTSP/1.0\r\nContent-Length: 18446744073709551556".toList

def wrappingRequest : List UInt8 := Utf8.encode wrappingHead ++ (headerEndMark ++ [])

theorem framedMessageLen_wrappingRequest : framedMessageLen wrappingRequest = some 0 := by
  have hascii : ∀ c ∈ wrappingHead, IsAscii c := List.all_iff_forall_prop.mp (by decide)
  have hlength : wrappingHead.length = 56 := by decide
  have hfind : Text.find headerEndMark wrappingRequest = some 56 := by
    rw [← hlength]
    exact find_headerEnd hascii (by decide) []
  have hhead : Utf8.decodeLossy (wrappingRequest.take 56) = wrappingHead := by
    rw [wrappingRequest, List.take_left' (by rw [Utf8.length_encode_ascii hascii, hlength]),
      Utf8.decodeLossy_encode]
  have hdeclared : contentLength wrappingHead = 18446744073709551556 := by decide
  rw [framedMessageLen_of_find hfind, hhead, hdeclared]
  exact if_pos (Nat.zero_le _)

/-- **Empty messages for ever**: no call takes anything out of the buffer. -/
theorem readMessages_wrappingRequest (n : Nat) :
    readMessages n ⟨wrappingRequest, []⟩ =
      (List.replicate n (.message []), ⟨wrappingRequest, []⟩) := by
  induction n with
  | zero => rfl
  | succ n ih =>
    have hread : readMessage ⟨wrappingRequest, []⟩ =
        (.message [], (⟨wrappingRequest, []⟩ : RtspStream)) := by
      rw [readMessage, Framing.read, Framing.readFrom.eq_def, framedMessageLen_wrappingRequest]
      rfl
    rw [readMessages_succ, hread, ih]
    rfl

/-- A response that declares `2 ^ 64 - 1` bytes. -/
def hugeHead : List Char :=
  "HTTP/1.1 200 OK\r\nContent-Length: 18446744073709551615".toList

theorem declaresTooMuch_hugeHead :
    Airplay.DeclaresTooMuch (Utf8.encode hugeHead ++ (headerEndMark ++ [])) := by
  have hascii : ∀ c ∈ hugeHead, IsAscii c := List.all_iff_forall_prop.mp (by decide)
  have hhead : Utf8.decodeLossy ((Utf8.encode hugeHead ++ (headerEndMark ++ [])).take
      hugeHead.length) = hugeHead := by
    rw [List.take_left' (Utf8.length_encode_ascii hascii), Utf8.decodeLossy_encode]
  have hdeclared : (Airplay.parseContentLength hugeHead).getD 0 = 18446744073709551615 := by
    decide
  refine ⟨hugeHead.length, find_headerEnd hascii (by decide) [], ?_⟩
  dsimp only
  rw [hhead, hdeclared]
  exact ⟨rfl, by decide⟩

/-- A message that is shorter than its header block, messages without end, and a sum that
does not fit. -/
theorem declared_length_wraps :
    (¬ ∀ buf : List UInt8, buf.length < UInt64.size → FramesExactly buf) ∧
    (¬ ∀ (n : Nat) (s : RtspStream),
      4 * (controlEvents n s).countP ControlEvent.isMessage ≤ s.content.length) ∧
    ¬ ∀ (incoming : List UInt8) (sizes : List Nat),
      Airplay.recvResponse incoming sizes ≠ .overflow := by
  refine ⟨fun hall => ?_, fun hall => ?_, fun hall => ?_⟩
  · obtain ⟨headerEnd, -, hle, -⟩ :=
      (hall wrappingRequest (by decide)).bounds 0 framedMessageLen_wrappingRequest
    exact absurd hle (by omega)
  · have hlength : (Framing.Stream.content (⟨wrappingRequest, []⟩ : RtspStream)).length = 60 := by
      decide
    have hmessages := hall 60 ⟨wrappingRequest, []⟩
    rw [countP_controlEvents, readMessages_wrappingRequest, hlength] at hmessages
    exact absurd hmessages (by decide)
  · obtain ⟨sizes, hoverflow⟩ :=
      (Airplay.recvResponse_overflows_iff (by decide)).mpr declaresTooMuch_hugeHead
    exact hall _ sizes hoverflow

end OpenPlay.Miracast
