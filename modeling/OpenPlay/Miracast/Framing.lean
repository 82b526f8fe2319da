import OpenPlay.Foundation.Framing
import OpenPlay.Miracast.Negotiation

/-!
# Reading RTSP messages

How `RtspConnection` of `openplay-miracast`'s `rtsp_server.rs` cuts messages out of the
bytes that it reads.  A message ends behind the body whose length its header block
declares; `framed_message_len` works on bytes, in the 64-bit arithmetic of the machine.

`framedMessageLen` delimits every well-formed message (`RtspText.delimits`), so that the
reader returns the messages of a sink as they were sent (`messages_reassembled`).
-/

namespace OpenPlay.Miracast

open Text (blankLine)
open Utf8 (IsAscii)

/-! ## The code -/

/-- `b"\r\n\r\n"`. -/
def headerEndMark : List UInt8 := [13, 10, 13, 10]

/-- The length that a header block declares; 0 when it declares none that can be read. -/
def contentLength (headers : List Char) : Nat :=
  ((headerField "content-length:".toList headers).bind (parseTrimmed UInt64.size)).getD 0

/-- `framed_message_len`.  The sum wraps: release builds do not check for overflow. -/
def framedMessageLen (buf : List UInt8) : Option Nat :=
  match Text.find headerEndMark buf with
  | none => none
  | some headerEnd =>
      let bodyStart := headerEnd + 4
      let headers := Utf8.decodeLossy (buf.take headerEnd)
      let total := (bodyStart + contentLength headers) % UInt64.size
      if buf.length ≥ total then some total else none

/-- `MAX_MESSAGE_BYTES`. -/
def maxMessageBytes : Nat := 64 * 1024

/-- The bytes of a connection: `buf`, and what its reads will return. -/
abbrev RtspStream := Framing.Stream UInt8 (List Char)

/-- What a call of `read_message_within` returns, or nothing as long as it waits. -/
def readingOf : Framing.Outcome UInt8 (List Char) → Option Reading
  | .message raw => some (.ok (Utf8.decodeLossy raw))
  | .tooLarge => some (.error (.rtsp "RTSP message too large".toList))
  | .closed => some (.error (.rtsp "Connection closed".toList))
  | .failed e => some (.error (.rtsp ("Read error: ".toList ++ e)))
  | .elapsed => some silence
  | .waiting => none

/-- `read_message`, in a caller that may give it up. -/
def readMessage (s : RtspStream) : Framing.Outcome UInt8 (List Char) × RtspStream :=
  Framing.read framedMessageLen maxMessageBytes s

/-- Some calls of `read_message`, one after the other. -/
def readMessages (n : Nat) (s : RtspStream) :
    List (Framing.Outcome UInt8 (List Char)) × RtspStream :=
  Framing.calls framedMessageLen maxMessageBytes n s

theorem readMessages_succ (n : Nat) (s : RtspStream) :
    readMessages (n + 1) s =
      ((readMessage s).1 :: (readMessages n (readMessage s).2).1,
        (readMessages n (readMessage s).2).2) :=
  Framing.calls_succ n s

/-! ## Well-formed messages -/

/-- A header line that declares a length. -/
def IsContentLength (line : List Char) : Prop :=
  ∃ name value, line = name ++ ':' :: value ∧
    name.map Char.toLower = "content-length".toList

/-- Header lines that declare a length once, or not at all when there is no body. -/
inductive Declares : List (List Char) → Nat → Prop where
  | absent {lines} (none : ∀ line ∈ lines, ¬ IsContentLength line) : Declares lines 0
  | present {before after name lead digits trail n}
      (others : ∀ line ∈ before ++ after, ¬ IsContentLength line)
      (named : name.map Char.toLower = "content-length".toList)
      (blank : ∀ c ∈ lead ++ trail, c = ' ' ∨ c = '\t')
      (nonempty : digits ≠ [])
      (decimal : ∀ c ∈ digits, ∃ d < 10, c = Text.digitChar d)
      (value : Text.ofDigits 10 digits = some n) :
      Declares (before ++ (name ++ ':' :: (lead ++ (digits ++ trail))) :: after) n

/-- A well-formed message: an ASCII header block without a blank line in it, and a text
whose length the header block declares. -/
structure RtspText where
  head : List Char
  body : List Char
  ascii : ∀ c ∈ head, IsAscii c
  noBlankLine : Text.find blankLine (head ++ blankLine) = some head.length
  declares : Declares (Text.lines head) (Utf8.encode body).length
  small : (Utf8.encode (head ++ (blankLine ++ body))).length ≤ maxMessageBytes

namespace RtspText

def text (m : RtspText) : List Char := m.head ++ (blankLine ++ m.body)

def bytes (m : RtspText) : List UInt8 := Utf8.encode m.text

end RtspText

/-! ## The declared length -/

theorem toLower_eq_colon_iff (c : Char) : c.toLower = ':' ↔ c = ':' := by
  unfold Char.toLower
  split_ifs with h
  · have hfirst : 65 ≤ c.val.toNat := h.1
    refine iff_of_false (fun hc => ?_) (by rintro rfl; exact absurd hfirst (by decide))
    have hval := congrArg (fun d : Char => d.val.toNat) hc
    simp only [UInt32.toNat_add] at hval
    have hlast : c.val.toNat ≤ 90 := h.2
    change (c.val.toNat + 32) % 2 ^ 32 = 58 at hval
    omega
  · exact Iff.rfl

theorem startsWithLower_iff (line : List Char) :
    startsWithLower "content-length:".toList line = true ↔ IsContentLength line := by
  have hname : "content-length:".toList = "content-length".toList ++ [':'] := by decide
  rw [startsWithLower, List.isPrefixOf_iff_prefix, hname]
  constructor
  · rintro ⟨rest, hrest⟩
    rw [List.append_assoc] at hrest
    obtain ⟨name, tail, rfl, hlower, htail⟩ := List.map_eq_append_iff.mp hrest.symm
    obtain ⟨c, value, rfl, hcolon, -⟩ := List.map_eq_cons_iff.mp htail
    rw [(toLower_eq_colon_iff c).mp hcolon]
    exact ⟨name, value, rfl, hlower⟩
  · rintro ⟨name, value, rfl, hlower⟩
    refine ⟨value.map Char.toLower, ?_⟩
    rw [List.map_append, List.map_cons, hlower, List.append_assoc,
      (toLower_eq_colon_iff ':').mpr rfl]
    rfl

/-- The value of a header line is what stands behind its only colon. -/
theorem splitOn_contentLength {name value : List Char}
    (named : name.map Char.toLower = "content-length".toList) (h : ':' ∉ value) :
    ((name ++ ':' :: value).splitOn ':')[1]? = some value := by
  have hname : ':' ∉ name := by
    intro hmem
    have hlower := List.mem_map_of_mem (f := Char.toLower) hmem
    rw [named, (toLower_eq_colon_iff ':').mpr rfl] at hlower
    exact absurd hlower (by decide)
  rw [List.splitOn_append_cons_self_of_not_mem hname, List.splitOn_eq_singleton h]
  rfl

theorem contentLength_lt (headers : List Char) : contentLength headers < UInt64.size := by
  rw [contentLength]
  rcases h : (headerField "content-length:".toList headers).bind (parseTrimmed UInt64.size) with
    _ | n
  · decide
  · obtain ⟨value, -, hvalue⟩ := Option.bind_eq_some_iff.mp h
    exact Text.parseUnsigned_lt hvalue

/-- What stands behind the colon of a header that declares a length. -/
theorem value_of_padded {lead digits trail : List Char} {n : Nat}
    (blank : ∀ c ∈ lead ++ trail, c = ' ' ∨ c = '\t') (nonempty : digits ≠ [])
    (decimal : ∀ c ∈ digits, ∃ d < 10, c = Text.digitChar d)
    (value : Text.ofDigits 10 digits = some n) (hn : n < UInt64.size) :
    ':' ∉ lead ++ (digits ++ trail) ∧
      parseTrimmed UInt64.size (lead ++ (digits ++ trail)) = some n := by
  have hdigit : ∀ c ∈ digits, c ≠ ':' ∧ isWhitespace c = false := by
    intro c hc
    obtain ⟨d, hd, rfl⟩ := decimal c hc
    have hall : ∀ d : Fin 10, Text.digitChar d ≠ ':' ∧
      isWhitespace (Text.digitChar d) = false := by decide
    exact hall ⟨d, hd⟩
  have hblank : ∀ c ∈ lead ++ trail, c ≠ ':' ∧ isWhitespace c = true := by
    intro c hc
    rcases blank c hc with rfl | rfl <;> decide
  constructor
  · simp only [List.mem_append, not_or]
    exact ⟨fun hc => (hblank _ (List.mem_append_left _ hc)).1 rfl,
      fun hc => (hdigit _ hc).1 rfl, fun hc => (hblank _ (List.mem_append_right _ hc)).1 rfl⟩
  · rw [parseTrimmed, Text.trim_pad (fun c hc => (hblank c (List.mem_append_left _ hc)).2)
        nonempty (fun c hc => (hdigit c hc).2)
        (fun c hc => (hblank c (List.mem_append_right _ hc)).2),
      Text.parseUnsigned_of_digits (by decide) nonempty decimal value hn]

theorem contentLength_of_declares {headers : List Char} {n : Nat}
    (h : Declares (Text.lines headers) n) (hn : n < UInt64.size) :
    contentLength headers = n := by
  have hother : ∀ line, ¬ IsContentLength line →
      startsWithLower "content-length:".toList line = false := fun line hline =>
    Bool.eq_false_iff.mpr fun hstarts => hline ((startsWithLower_iff line).mp hstarts)
  rw [contentLength, headerField]
  generalize Text.lines headers = lines at h
  cases h with
  | absent none =>
    rw [List.find?_eq_none.mpr fun line hline =>
      Bool.eq_false_iff.mp (hother line (none line hline))]
    rfl
  | @present before after name lead digits trail _ others named blank nonempty decimal value =>
    obtain ⟨hcolon, hvalue⟩ := value_of_padded blank nonempty decimal value hn
    have hfind : (before ++ (name ++ ':' :: (lead ++ (digits ++ trail))) :: after).find?
        (startsWithLower "content-length:".toList) =
          some (name ++ ':' :: (lead ++ (digits ++ trail))) := by
      rw [List.find?_append, List.find?_eq_none.mpr fun line hline => Bool.eq_false_iff.mp
          (hother line (others line (List.mem_append_left _ hline))),
        List.find?_cons_of_pos ((startsWithLower_iff _).mpr ⟨name, _, rfl, named⟩)]
      rfl
    rw [hfind, Option.bind_some, splitOn_contentLength named hcolon, Option.bind_some, hvalue,
      Option.getD_some]

/-! ## Messages are delimited -/

theorem find_headerEnd {head : List Char} (ascii : ∀ c ∈ head, IsAscii c)
    (h : Text.find blankLine (head ++ blankLine) = some head.length) (rest : List UInt8) :
    Text.find headerEndMark (Utf8.encode head ++ (headerEndMark ++ rest)) =
      some head.length := by
  have hblank : ∀ c ∈ blankLine, IsAscii c := List.all_iff_forall_prop.mp (by decide)
  have hall : ∀ c ∈ head ++ blankLine, IsAscii c := fun c hc =>
    (List.mem_append.mp hc).elim (ascii c) (hblank c)
  have hmark : headerEndMark = blankLine.map fun c => c.val.toUInt8 := by decide
  have hbytes : Text.find headerEndMark ((head ++ blankLine).map fun c => c.val.toUInt8) =
      some head.length := by
    rw [hmark, Text.find_map fun x hx y hy => Utf8.toUInt8_inj (hblank x hx) (hall y hy), h]
  rw [List.map_append, ← hmark, ← Utf8.encode_ascii ascii] at hbytes
  rw [← List.append_assoc]
  exact Text.find_append hbytes rest

namespace RtspText

theorem bytes_eq (m : RtspText) :
    m.bytes = Utf8.encode m.head ++ (headerEndMark ++ Utf8.encode m.body) := by
  have hmark : Utf8.encode blankLine = headerEndMark := by
    rw [Utf8.encode_ascii (List.all_iff_forall_prop.mp (by decide))]
    rfl
  rw [bytes, text, Utf8.encode_append, Utf8.encode_append, hmark]

theorem length_bytes (m : RtspText) :
    m.bytes.length = m.head.length + 4 + (Utf8.encode m.body).length := by
  rw [bytes_eq, List.length_append, List.length_append, Utf8.length_encode_ascii m.ascii,
    ← Nat.add_assoc]
  rfl

theorem find_bytes (m : RtspText) (more : List UInt8) :
    Text.find headerEndMark (m.bytes ++ more) = some m.head.length := by
  rw [bytes_eq, List.append_assoc, List.append_assoc]
  exact find_headerEnd m.ascii m.noBlankLine _

theorem take_bytes (m : RtspText) (more : List UInt8) :
    (m.bytes ++ more).take m.head.length = Utf8.encode m.head := by
  rw [bytes_eq, List.append_assoc]
  exact List.take_left' (Utf8.length_encode_ascii m.ascii)

/-- What the framing function returns once the header block is there. -/
theorem framedMessageLen_eq (m : RtspText) {buf : List UInt8}
    (hfind : Text.find headerEndMark buf = some m.head.length)
    (hhead : buf.take m.head.length = Utf8.encode m.head) :
    framedMessageLen buf =
      if buf.length ≥ m.bytes.length then some m.bytes.length else none := by
  have hsmall : m.bytes.length ≤ 64 * 1024 := m.small
  have hsize : m.bytes.length < UInt64.size := hsmall.trans_lt (by decide)
  have hlength := m.length_bytes
  have hcontent : contentLength m.head = (Utf8.encode m.body).length :=
    contentLength_of_declares m.declares (by omega)
  simp only [framedMessageLen, hfind, hhead, Utf8.decodeLossy_encode, hcontent, ← hlength,
    Nat.mod_eq_of_lt hsize]

/-- **A well-formed message is delimited.** -/
theorem delimits (m : RtspText) : Framing.Delimits framedMessageLen m.bytes where
  complete more := by
    rw [m.framedMessageLen_eq (m.find_bytes more) (m.take_bytes more), List.length_append,
      if_pos (Nat.le_add_right _ _)]
  incomplete front missing hm hmissing := by
    have hshort : ¬ front.length ≥ m.bytes.length := by
      have hpos := List.length_pos_iff.mpr hmissing
      rw [hm, List.length_append]
      omega
    rcases hfind : Text.find headerEndMark front with _ | i
    · rw [framedMessageLen, hfind]
    · have hwhole := Text.find_append hfind missing
      have hroom := Text.length_le_of_find hfind
      rw [← hm, ← List.append_nil m.bytes, m.find_bytes []] at hwhole
      cases hwhole
      have hhead : front.take m.head.length = Utf8.encode m.head := by
        rw [← m.take_bytes [], List.append_nil, hm,
          List.take_append_of_le_length (Nat.le_of_add_right_le hroom)]
      rw [m.framedMessageLen_eq hfind hhead, if_neg hshort]

end RtspText

/-! ## Reassembly -/

/-- The texts that calls of `read_message` returned. -/
def textsRead (n : Nat) (s : RtspStream) : List (List Char) :=
  (Framing.messages (readMessages n s).1).map Utf8.decodeLossy

/-- A negotiation that reads from the stream reads these texts, and fails on all else. -/
theorem texts_of_readings (n : Nat) (s : RtspStream) :
    ((readMessages n s).1.filterMap readingOf).filterMap Except.toOption = textsRead n s := by
  rw [textsRead, Framing.messages, List.filterMap_filterMap, List.map_filterMap]
  congr 1
  funext outcome
  cases outcome <;> rfl

/-- **RTSP reassembly.**  A stream of well-formed messages, cut into any non-empty pieces
and read by calls that are given up at any points between them: the calls return the
messages, one by one and in order, and all of them once there are enough calls. -/
theorem messages_reassembled (msgs : List RtspText) (s : RtspStream)
    (hcontent : s.content = (msgs.map RtspText.bytes).flatten)
    (horderly : ∀ arrival ∈ s.arrivals, arrival.IsOrderly) (n : Nat) :
    (∃ left, msgs.map RtspText.text = textsRead n s ++ left ∧
      (msgs.length + s.elapses ≤ n → left = [])) ∧
    ∀ outcome ∈ (readMessages n s).1, outcome.IsOrderly := by
  have hempty : framedMessageLen [] = none := rfl
  have hmsgs : ∀ m ∈ msgs.map RtspText.bytes,
      Framing.Delimits framedMessageLen m ∧ m.length ≤ maxMessageBytes := by
    rw [List.forall_mem_map]
    exact fun m _ => ⟨m.delimits, m.small⟩
  obtain ⟨left, hleft, -, houtcomes, hdone⟩ :=
    Framing.calls_reassemble hempty hmsgs ⟨hcontent, horderly⟩ n
  refine ⟨⟨left.map Utf8.decodeLossy, ?_, fun hn => ?_⟩, houtcomes⟩
  · have htexts := congrArg (List.map Utf8.decodeLossy) hleft
    rw [List.map_map, List.map_append] at htexts
    rw [textsRead, readMessages, ← htexts]
    exact List.map_congr_left fun m _ => (Utf8.decodeLossy_encode m.text).symm
  · rw [Framing.Stream.work, List.length_map] at hdone
    rw [hdone hn, List.map_nil]

/-- A request without a body. -/
def optionsText : RtspText where
  head := "OPTIONS * RTSP/1.0".toList
  body := []
  ascii := List.all_iff_forall_prop.mp (by decide)
  noBlankLine := by decide
  declares := .absent fun line hline hlength => by
    rw [← startsWithLower_iff] at hlength
    revert line
    decide
  small := by decide

/-- A response with a body, its length in front of it. -/
def bodyText : RtspText where
  head := "RTSP/1.0 200 OK\r\nContent-Length: 5".toList
  body := "hello".toList
  ascii := List.all_iff_forall_prop.mp (by decide)
  noBlankLine := by decide
  declares :=
    @Declares.present ["RTSP/1.0 200 OK".toList] [] "Content-Length".toList [' '] ['5'] [] 5
      (by
        intro line hline hlength
        rw [← startsWithLower_iff] at hlength
        revert line
        decide)
      (by decide) (List.all_iff_forall_prop.mp (by decide)) (by decide)
      (fun c hc => ⟨5, by decide, List.mem_singleton.mp hc⟩) (by decide)
  small := by decide

/-- Both messages in three pieces, with a read given up in the middle of the second. -/
theorem messages_reassembled_from_pieces :
    let bytes := optionsText.bytes ++ bodyText.bytes
    let s : RtspStream := ⟨[], [.data (bytes.take 30), .elapsed, .data (bytes.drop 30)]⟩
    (∃ left, [optionsText, bodyText].map RtspText.text = textsRead 3 s ++ left ∧
      (2 + s.elapses ≤ 3 → left = [])) ∧
    ∀ outcome ∈ (readMessages 3 s).1, outcome.IsOrderly := by
  intro bytes s
  have hlength : bytes.length > 30 := by decide
  refine messages_reassembled [optionsText, bodyText] s ?_ ?_ 3
  · show bytes.take 30 ++ (bytes.drop 30 ++ []) = optionsText.bytes ++ (bodyText.bytes ++ [])
    rw [List.append_nil, List.append_nil, List.take_append_drop]
  · refine List.forall_mem_cons.mpr ⟨fun h => ?_, List.forall_mem_cons.mpr ⟨trivial,
      List.forall_mem_singleton.mpr fun h => ?_⟩⟩
    · have htake := congrArg List.length h
      rw [List.length_take, List.length_nil] at htake
      omega
    · have hdrop := congrArg List.length h
      rw [List.length_drop, List.length_nil] at hdrop
      omega

end OpenPlay.Miracast
