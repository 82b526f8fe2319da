import OpenPlay.Common.Config
import OpenPlay.Foundation.Text
import OpenPlay.Foundation.Utf8

/-!
# Responses to pairing requests

`recv_response` of `openplay-airplay`'s `hap_pairing.rs`: the header block of an HTTP
response, and a body of the length that the header declares, read from a stream into a
buffer that grows.

The sum of the two lengths is the one addition that the peer has a say in.  It overflows
exactly when the header block declares too much (`recvResponse_overflows_iff`).
-/

namespace OpenPlay.Airplay

/-! ## The header -/

/-- The end of a header block, in bytes. -/
def headerEndMark : List UInt8 := [13, 10, 13, 10]

/-- `find_header_end`. -/
def findHeaderEnd (data : List UInt8) : Option Nat := Text.find headerEndMark data

/-- `parse_content_length`: the first such line decides. -/
def parseContentLength (header : List Char) : Option Nat :=
  ((Text.lines header).findSome? fun line =>
    (Text.stripPrefix "Content-Length: ".toList line).or
      (Text.stripPrefix "content-length: ".toList line)).bind fun value =>
        Text.parseUnsigned 10 UInt64.size (Text.trim isWhitespace value)

/-- What `check_http_status` adds to some refusals. -/
def statusHint (code : Nat) : String :=
  match code with
  | 403 =>
      " — the receiver refused this device. On macOS, check System Settings → " ++
        "General → AirDrop & Handoff → AirPlay Receiver; \"Current User\" rejects " ++
        "devices not signed into the same Apple ID. This is not a pairing failure"
  | 470 | 401 => " — the receiver requires a password or PIN"
  | 500 => " — the receiver rejected the request body"
  | _ => ""

/-- `check_http_status`: a status line without a code is left to the body parser. -/
def checkHttpStatus (headers : List Char) : Except String Unit :=
  match (Text.lines headers).head? with
  | none => .error "Empty HTTP response"
  | some statusLine =>
      match (Text.words isWhitespace statusLine)[1]?.bind
          (Text.parseUnsigned 10 UInt16.size) with
      | none => .ok ()
      | some code =>
          if 200 ≤ code ∧ code < 300 then .ok ()
          else .error ("Receiver returned HTTP " ++ toString code ++ statusHint code)

/-- The code of a response, in the second word of its first line. -/
def codeOf (headers : List Char) : Option Nat :=
  ((Text.lines headers).head?.bind fun line => (Text.words isWhitespace line)[1]?).bind
    (Text.parseUnsigned 10 UInt16.size)

/-! ## The stream -/

/-- What the function returns; `waiting` when it does not, and `overflow` when a sum of
lengths does not fit a `usize`. -/
inductive Received where
  | body (bytes : List UInt8)
  | failed (e : String)
  | waiting
  | overflow
deriving DecidableEq, Repr

/-- The bytes that one `read` gives: at most `size` of those that came, and no more than
there is room for. -/
def readCount (room size : Nat) (incoming : List UInt8) : Nat :=
  min size (min room incoming.length)

/-- The loop behind the header. -/
def recvBody (bufLen bodyStart contentLength : Nat) (received incoming : List UInt8)
    (sizes : List Nat) : Received :=
  if received.length - bodyStart < contentLength then
    match sizes with
    | [] => .waiting
    | size :: more =>
        let n := readCount (bufLen - received.length) size incoming
        if n = 0 then .failed "Connection closed mid-body"
        else
          recvBody bufLen bodyStart contentLength (received ++ incoming.take n)
            (incoming.drop n) more
  else .body ((received.drop bodyStart).take contentLength)

/-- What follows the header block: the status, the declared length, and the body. -/
def recvRest (bufLen headerEnd : Nat) (received incoming : List UInt8)
    (sizes : List Nat) : Received :=
  let header := Utf8.decodeLossy (received.take headerEnd)
  match checkHttpStatus header with
  | .error e => .failed e
  | .ok () =>
      let contentLength := (parseContentLength header).getD 0
      let bodyStart := headerEnd + 4
      let bodyReceived := received.length - bodyStart
      if bodyReceived ≥ contentLength then
        .body ((received.drop bodyStart).take contentLength)
      else if bodyStart + contentLength ≥ UInt64.size then
        .overflow
      else
        recvBody (max bufLen (bodyStart + contentLength)) bodyStart contentLength received
          incoming sizes

/-- The loop up to the end of the header. -/
def recvHeader (bufLen : Nat) (received incoming : List UInt8) : List Nat → Received
  | [] => .waiting
  | size :: more =>
      let n := readCount (bufLen - received.length) size incoming
      if n = 0 then .failed "Connection closed"
      else
        let total := received ++ incoming.take n
        match findHeaderEnd total with
        | some headerEnd => recvRest bufLen headerEnd total (incoming.drop n) more
        | none =>
            recvHeader (if total.length ≥ bufLen then bufLen * 2 else bufLen) total
              (incoming.drop n) more

/-- `recv_response`, on the bytes that come and the sizes of the reads. -/
def recvResponse (incoming : List UInt8) (sizes : List Nat) : Received :=
  recvHeader 8192 [] incoming sizes

/-! ## Where it overflows -/

/-- The status is not refused and the declared length is too large for what stands in front
of the body. -/
def DeclaresTooMuch (incoming : List UInt8) : Prop :=
  ∃ headerEnd, findHeaderEnd incoming = some headerEnd ∧
    let header := Utf8.decodeLossy (incoming.take headerEnd)
    checkHttpStatus header = .ok () ∧
      headerEnd + 4 + (parseContentLength header).getD 0 ≥ UInt64.size

theorem recvBody_ne_overflow (bufLen bodyStart contentLength : Nat)
    (received incoming : List UInt8) (sizes : List Nat) :
    recvBody bufLen bodyStart contentLength received incoming sizes ≠ .overflow := by
  fun_induction recvBody bufLen bodyStart contentLength received incoming sizes with
  | case1 | case2 | case4 => nofun
  | case3 _ _ _ _ _ _ _ ih => exact ih

/-- The header block of what was received is that of all that comes. -/
theorem declaresTooMuch_of_recvRest {bufLen headerEnd : Nat} {received incoming : List UInt8}
    {sizes : List Nat} (hfind : findHeaderEnd received = some headerEnd)
    (h : recvRest bufLen headerEnd received incoming sizes = .overflow) :
    DeclaresTooMuch received := by
  rw [recvRest] at h
  dsimp only at h
  split at h
  · cases h
  · rename_i hstatus
    split_ifs at h with henough htoo
    · exact ⟨headerEnd, hfind, hstatus, htoo⟩
    · exact absurd h (recvBody_ne_overflow _ _ _ _ _ _)

theorem DeclaresTooMuch.append {received : List UInt8} (h : DeclaresTooMuch received)
    (incoming : List UInt8) : DeclaresTooMuch (received ++ incoming) := by
  obtain ⟨headerEnd, hfind, htoo⟩ := h
  have hroom := Text.length_le_of_find hfind
  refine ⟨headerEnd, Text.find_append hfind incoming, ?_⟩
  rw [List.take_append_of_le_length (Nat.le_of_add_right_le hroom)]
  exact htoo

theorem declaresTooMuch_of_recvHeader (bufLen : Nat) (received incoming : List UInt8)
    (sizes : List Nat) (h : recvHeader bufLen received incoming sizes = .overflow) :
    DeclaresTooMuch (received ++ incoming) := by
  fun_induction recvHeader bufLen received incoming sizes with
  | case1 | case2 => cases h
  | case3 bufLen received incoming size more n hn total headerEnd hfind =>
    have htotal := (declaresTooMuch_of_recvRest hfind h).append (incoming.drop n)
    rwa [List.append_assoc, List.take_append_drop] at htotal
  | case4 bufLen received incoming size more n hn total hfind ih =>
    have htotal := ih h
    rwa [List.append_assoc, List.take_append_drop] at htotal

/-- The part of the header block that came so far. -/
theorem findHeaderEnd_take_eq_none {incoming : List UInt8} {headerEnd front : Nat}
    (hfind : findHeaderEnd incoming = some headerEnd) (hfront : front < headerEnd + 4) :
    findHeaderEnd (incoming.take front) = none := by
  rcases htake : findHeaderEnd (incoming.take front) with _ | i
  · rfl
  · have hwhole := Text.find_append htake (incoming.drop front)
    have hroom := Text.length_le_of_find htake
    rw [List.take_append_drop] at hwhole
    cases hfind.symm.trans hwhole
    rw [List.length_take] at hroom
    exact absurd (hroom.trans (Nat.min_le_left _ _)) (Nat.not_le.mpr hfront)

theorem recvRest_overflows {incoming : List UInt8} {headerEnd : Nat} (bufLen : Nat)
    (rest : List UInt8) (sizes : List Nat)
    (hstatus : checkHttpStatus (Utf8.decodeLossy (incoming.take headerEnd)) = .ok ())
    (htoo : headerEnd + 4 + (parseContentLength
      (Utf8.decodeLossy (incoming.take headerEnd))).getD 0 ≥ UInt64.size)
    (hlen : headerEnd + 4 < UInt64.size) :
    recvRest bufLen headerEnd (incoming.take (headerEnd + 4)) rest sizes = .overflow := by
  have htake : (incoming.take (headerEnd + 4)).take headerEnd = incoming.take headerEnd := by
    rw [List.take_take, Nat.min_eq_left (Nat.le_add_right _ _)]
  have hlength : (incoming.take (headerEnd + 4)).length ≤ headerEnd + 4 := by
    rw [List.length_take]
    exact Nat.min_le_left _ _
  rw [recvRest, htake]
  simp only [hstatus]
  rw [if_neg (by omega), if_pos htoo]

/-- A read of one byte. -/
theorem recvHeader_one {incoming : List UInt8} {front bufLen : Nat} (hroom : front < bufLen)
    (hmore : front < incoming.length) (sizes : List Nat) :
    recvHeader bufLen (incoming.take front) (incoming.drop front) (1 :: sizes) =
      match findHeaderEnd (incoming.take (front + 1)) with
      | some headerEnd =>
          recvRest bufLen headerEnd (incoming.take (front + 1)) (incoming.drop (front + 1)) sizes
      | none =>
          recvHeader (if (incoming.take (front + 1)).length ≥ bufLen then bufLen * 2 else bufLen)
            (incoming.take (front + 1)) (incoming.drop (front + 1)) sizes := by
  have hcount : readCount (bufLen - (incoming.take front).length) 1 (incoming.drop front) = 1 := by
    rw [readCount, List.length_take, List.length_drop]
    omega
  have htotal : incoming.take front ++ (incoming.drop front).take 1 =
      incoming.take (front + 1) := List.take_add.symm
  rw [recvHeader]
  simp only [hcount, htotal, List.drop_drop, if_neg Nat.one_ne_zero]

/-- Reads of one byte each run into the overflow. -/
theorem recvHeader_overflows {incoming : List UInt8} {headerEnd : Nat}
    (hfind : findHeaderEnd incoming = some headerEnd)
    (hstatus : checkHttpStatus (Utf8.decodeLossy (incoming.take headerEnd)) = .ok ())
    (htoo : headerEnd + 4 + (parseContentLength
      (Utf8.decodeLossy (incoming.take headerEnd))).getD 0 ≥ UInt64.size)
    (hlen : headerEnd + 4 < UInt64.size) (left : Nat) :
    ∀ front bufLen, front < bufLen → front + (left + 1) = headerEnd + 4 →
      recvHeader bufLen (incoming.take front) (incoming.drop front)
        (List.replicate (left + 1) 1) = .overflow := by
  have hroom : headerEnd + 4 ≤ incoming.length := Text.length_le_of_find hfind
  induction left with
  | zero =>
    intro front bufLen hfront hleft
    have hwhole : findHeaderEnd (incoming.take (headerEnd + 4)) = some headerEnd :=
      Text.find_take hfind (Nat.le_refl _)
    rw [List.replicate_succ, recvHeader_one hfront (by omega)]
    rw [Nat.zero_add] at hleft
    rw [hleft, hwhole]
    exact recvRest_overflows bufLen _ _ hstatus htoo hlen
  | succ left ih =>
    intro front bufLen hfront hleft
    rw [List.replicate_succ, recvHeader_one hfront (by omega),
      findHeaderEnd_take_eq_none hfind (by omega)]
    refine ih (front + 1) _ ?_ (by omega)
    rw [List.length_take]
    split_ifs <;> omega

/-- **Where the sum of the lengths overflows.** -/
theorem recvResponse_overflows_iff {incoming : List UInt8}
    (hlen : incoming.length < UInt64.size) :
    (∃ sizes, recvResponse incoming sizes = .overflow) ↔ DeclaresTooMuch incoming := by
  constructor
  · rintro ⟨sizes, h⟩
    exact declaresTooMuch_of_recvHeader 8192 [] incoming sizes h
  · rintro ⟨headerEnd, hfind, hstatus, htoo⟩
    have hroom : headerEnd + 4 ≤ incoming.length := Text.length_le_of_find hfind
    exact ⟨List.replicate (headerEnd + 3 + 1) 1, recvHeader_overflows hfind hstatus htoo
      (by omega) (headerEnd + 3) 0 8192 (by decide) (by omega)⟩

end OpenPlay.Airplay
