import OpenPlay.Foundation.Utf8
import OpenPlay.Miracast.WfdParams

/-!
# RTSP messages

The messages of `openplay-miracast`'s `rtsp_server.rs`: what the source writes,
and the helpers that read responses, requests, capabilities and the transport
header out of what the sink writes.

Every message of the source is some lines, a blank line and a body
(`rtspMessage`), so that one theorem says how each is read
(`splitHeaderBody_rtspMessage`) and one which `CSeq` is found in it
(`cseq_parseRequest`).
-/

namespace OpenPlay.Miracast

open Text (crlf blankLine IsLine)

/-! ## Reading -/

/-- `split_header_body`. -/
def splitHeaderBody (raw : List Char) : List Char × List Char :=
  match Text.find blankLine raw with
  | some pos => (raw.take pos, raw.drop (pos + 4))
  | none => (raw, [])

/-- `line.to_lowercase().starts_with(pattern)`.  The two patterns of the code are
in ASCII and have neither a `k` nor an `i`, the two letters that a character
outside ASCII becomes in lower case. -/
def startsWithLower (pattern line : List Char) : Bool :=
  pattern.isPrefixOf (line.map Char.toLower)

/-- What stands between the first and the second colon of the first line that
starts with `name`. -/
def headerField (name headers : List Char) : Option (List Char) :=
  ((Text.lines headers).find? (startsWithLower name)).bind fun line =>
    (line.splitOn ':')[1]?

/-- `v.trim().parse()` for an unsigned number below `size`. -/
def parseTrimmed (size : Nat) (text : List Char) : Option Nat :=
  Text.parseUnsigned 10 size (Text.trim isWhitespace text)

/-- `raw.starts_with("RTSP/")`: a response, and not a request. -/
def isResponse (raw : List Char) : Bool := "RTSP/".toList.isPrefixOf raw

structure RtspResponse where
  code : UInt16
  status : List Char
  headers : List Char
  body : List Char
deriving DecidableEq, Repr

structure RtspRequest where
  method : List Char
  uri : List Char
  headers : List Char
  body : List Char
  cseq : UInt32
deriving DecidableEq, Repr

/-- `parse_response`: a status line without a code gives code 0. -/
def parseResponse (raw : List Char) : RtspResponse :=
  let (headerPart, body) := splitHeaderBody raw
  let status := (Text.lines headerPart).head?.getD []
  let code := ((Text.words isWhitespace status)[1]?.bind
    (Text.parseUnsigned 10 UInt16.size)).getD 0
  ⟨UInt16.ofNat code, status, headerPart, body⟩

/-- `parse_request`: a request without a readable `CSeq` gives 0. -/
def parseRequest (raw : List Char) : RtspRequest :=
  let (headerPart, body) := splitHeaderBody raw
  let firstLine := (Text.lines headerPart).head?.getD []
  let parts := Text.words isWhitespace firstLine
  let method := parts[0]?.getD []
  let uri := parts[1]?.getD []
  let cseq := ((headerField "cseq:".toList headerPart).bind
    (parseTrimmed UInt32.size)).getD 0
  ⟨method, uri, headerPart, body, UInt32.ofNat cseq⟩

/-- `parse_sink_video_formats`: the first such line decides. -/
def parseSinkVideoFormats (body : List Char) : Option WfdVideoFormats :=
  ((Text.lines body).findSome? (Text.stripPrefix "wfd_video_formats:".toList)).bind
    fun val => WfdVideoFormats.parse (Text.trim isWhitespace val)

/-- `parse_sink_rtp_ports`. -/
def parseSinkRtpPorts (body : List Char) : Option WfdClientRtpPorts :=
  ((Text.lines body).findSome? (Text.stripPrefix "wfd_client_rtp_ports:".toList)).bind
    fun val => WfdClientRtpPorts.parse (Text.trim isWhitespace val)

/-- The port of a `client_port=` parameter: the first number of its range. -/
def clientPort (part : List Char) : Option UInt16 :=
  (Text.stripPrefix "client_port=".toList (Text.trim isWhitespace part)).bind fun value =>
    let first := (value.splitOn '-').head?.getD []
    (parseTrimmed UInt16.size first).map UInt16.ofNat

/-- `parse_transport_port`: the first usable port of the transport lines. -/
def parseTransportPort (headers : List Char) : Option UInt16 :=
  (Text.lines headers).findSome? fun line =>
    ((Text.stripPrefix "Transport:".toList line).or
      (Text.stripPrefix "transport:".toList line)).bind fun transport =>
        (transport.splitOn ';').findSome? clientPort

/-! ## Writing -/

/-- A decimal number. -/
def decimal (n : Nat) : List Char := Text.digits 10 n

/-- Some lines, a blank line and a body. -/
def rtspMessage (lines : List (List Char)) (body : List Char) : List Char :=
  List.intercalate crlf lines ++ (blankLine ++ body)

/-- The line that numbers a message. -/
def cseqLine (cseq : UInt32) : List Char := "CSeq: ".toList ++ decimal cseq.toNat

/-- The line that names the one session. -/
def sessionLine : List Char := "Session: 1".toList

def okLine : List Char := "RTSP/1.0 200 OK".toList

/-- `send_options`: M1. -/
def sendOptions (cseq : UInt32) : List Char :=
  rtspMessage
    ["OPTIONS * RTSP/1.0".toList, cseqLine cseq, "Require: org.wfa.wfd1.0".toList] []

/-- `send_options_response`. -/
def sendOptionsResponse (req : RtspRequest) : List Char :=
  rtspMessage
    [okLine, cseqLine req.cseq,
      "Public: org.wfa.wfd1.0, GET_PARAMETER, SET_PARAMETER".toList] []

/-- A request with parameters in its body. -/
def parameterRequest (start : List Char) (cseq : UInt32) (body : List Char) : List Char :=
  rtspMessage
    [start, cseqLine cseq, "Content-Type: text/parameters".toList,
      "Content-Length: ".toList ++ decimal (Utf8.encode body).length] body

/-- `send_get_parameter`: M3. -/
def sendGetParameter (cseq : UInt32) : List Char :=
  parameterRequest "GET_PARAMETER rtsp://localhost/wfd1.0 RTSP/1.0".toList cseq
    "wfd_video_formats\r\nwfd_audio_codecs\r\nwfd_client_rtp_ports\r\n".toList

/-- The body of M4. -/
def setParameterBody (formats : WfdVideoFormats) : List Char :=
  "wfd_video_formats: ".toList ++ formats.encode ++ crlf ++
    "wfd_client_rtp_ports: RTP/AVP/UDP;unicast 1028 0 mode=play\r\n".toList

/-- `send_set_parameter`: M4. -/
def sendSetParameter (cseq : UInt32) (formats : WfdVideoFormats) : List Char :=
  parameterRequest "SET_PARAMETER rtsp://localhost/wfd1.0 RTSP/1.0".toList cseq
    (setParameterBody formats)

/-- `send_trigger_setup`: M5. -/
def sendTriggerSetup (cseq : UInt32) : List Char :=
  parameterRequest "SET_PARAMETER rtsp://localhost/wfd1.0 RTSP/1.0".toList cseq
    "wfd_trigger_method: SETUP\r\n".toList

/-- The transport line of M6. -/
def transportLine (rtpPort : UInt16) : List Char :=
  "Transport: RTP/AVP/UDP;unicast;client_port=".toList ++ decimal rtpPort.toNat ++
    ";server_port=".toList ++ decimal rtpPort.toNat

/-- `send_setup_response`: the response to M6. -/
def sendSetupResponse (req : RtspRequest) (rtpPort : UInt16) : List Char :=
  rtspMessage
    [okLine, cseqLine req.cseq, "Session: 1;timeout=30".toList, transportLine rtpPort] []

/-- `send_play_response` and `send_ok`. -/
def sendOk (req : RtspRequest) : List Char :=
  rtspMessage [okLine, cseqLine req.cseq, sessionLine] []

/-- `send_keepalive`. -/
def sendKeepalive (cseq : UInt32) : List Char :=
  rtspMessage
    ["GET_PARAMETER rtsp://localhost/wfd1.0 RTSP/1.0".toList, cseqLine cseq, sessionLine] []

/-! ## Reading what the source writes -/

/-- What holds of ten digits holds of every character of a decimal number. -/
theorem forall_mem_decimal {p : Char → Prop} (h : ∀ d : Fin 10, p (Text.digitChar d)) (n : Nat) :
    ∀ c ∈ decimal n, p c :=
  Text.forall_mem_digits (by decide) h n

theorem not_mem_decimal {c : Char} (h : ∀ d : Fin 10, Text.digitChar d ≠ c) (n : Nat) :
    c ∉ decimal n :=
  fun hc => @forall_mem_decimal (fun x => x ≠ c) h n c hc rfl

theorem isLine_append_decimal {line : List Char} (h : IsLine line) (n : Nat) :
    IsLine (line ++ decimal n) :=
  h.append (not_mem_decimal (by decide) n) (not_mem_decimal (by decide) n)

theorem trim_decimal (n : Nat) : Text.trim isWhitespace (decimal n) = decimal n := by
  have hspace := @forall_mem_decimal (fun c => isWhitespace c = false) (by decide) n
  exact Text.trim_eq_self (fun c hc => hspace c (List.mem_of_mem_head? hc))
    fun c hc => hspace c (List.mem_of_mem_getLast? hc)

theorem parseTrimmed_decimal {size n : Nat} (h : n < size) :
    parseTrimmed size (decimal n) = some n := by
  rw [parseTrimmed, trim_decimal]
  exact Text.parseUnsigned_digits (by decide) (by decide) h

theorem parseTrimmed_space (size : Nat) (text : List Char) :
    parseTrimmed size (' ' :: text) = parseTrimmed size text := by
  rw [parseTrimmed, Text.trim_cons rfl, parseTrimmed]

/-- **How a message of the source is split.** -/
theorem splitHeaderBody_rtspMessage {lines : List (List Char)} (hne : lines ≠ [])
    (h : ∀ line ∈ lines, IsLine line) (body : List Char) :
    splitHeaderBody (rtspMessage lines body) = (List.intercalate crlf lines, body) := by
  have hdrop : (List.intercalate crlf lines ++ (blankLine ++ body)).drop
      ((List.intercalate crlf lines).length + 4) = body := by
    rw [List.drop_length_add_append]
    rfl
  rw [splitHeaderBody, rtspMessage, Text.find_blankLine hne h]
  simp only [List.take_left, hdrop]

theorem isLine_cseqLine (cseq : UInt32) : IsLine (cseqLine cseq) :=
  isLine_append_decimal (Text.isLine_of_all rfl) _

/-- The number is between the only colon and the end of the line. -/
theorem field_cseqLine (cseq : UInt32) :
    ((cseqLine cseq).splitOn ':')[1]? = some (' ' :: decimal cseq.toNat) := by
  have hcolon : ':' ∉ ' ' :: decimal cseq.toNat := by
    intro h
    rcases List.mem_cons.mp h with hspace | hdigit
    · cases hspace
    · exact not_mem_decimal (by decide) _ hdigit
  have hname : ':' ∉ ['C', 'S', 'e', 'q'] := by decide
  have hsplit : (cseqLine cseq).splitOn ':' =
      ['C', 'S', 'e', 'q'] :: (' ' :: decimal cseq.toNat).splitOn ':' :=
    List.splitOn_append_cons_self_of_not_mem hname _
  rw [hsplit, List.splitOn_eq_singleton hcolon]
  rfl

/-- **Which number is read.**  A message whose second line is its number is read
with that number, unless the first line looks like one. -/
theorem cseq_parseRequest {start : List Char} {rest : List (List Char)}
    (hstart : IsLine start) (hrest : ∀ line ∈ rest, IsLine line)
    (hother : startsWithLower "cseq:".toList start = false) (cseq : UInt32)
    (body : List Char) :
    (parseRequest (rtspMessage (start :: cseqLine cseq :: rest) body)).cseq = cseq := by
  have hlines : ∀ line ∈ start :: cseqLine cseq :: rest, IsLine line := by
    intro line hline
    rcases List.mem_cons.mp hline with rfl | hline
    · exact hstart
    · rcases List.mem_cons.mp hline with rfl | hline
      · exact isLine_cseqLine cseq
      · exact hrest line hline
  have hthis : startsWithLower "cseq:".toList (cseqLine cseq) = true := rfl
  have hfield : headerField "cseq:".toList
      (List.intercalate crlf (start :: cseqLine cseq :: rest)) =
        some (' ' :: decimal cseq.toNat) := by
    rw [headerField, Text.lines_intercalate hlines, List.find?_cons_of_neg
      (by rw [hother]; exact Bool.false_ne_true), List.find?_cons_of_pos hthis,
      Option.bind_some, field_cseqLine]
  rw [parseRequest, splitHeaderBody_rtspMessage (List.cons_ne_nil _ _) hlines]
  simp only [hfield, Option.bind_some, parseTrimmed_space,
    parseTrimmed_decimal cseq.toNat_lt, Option.getD_some, UInt32.ofNat_toNat]

/-! ### The messages -/

theorem isLine_okLine : IsLine okLine := Text.isLine_of_all rfl

theorem isLine_sessionLine : IsLine sessionLine := Text.isLine_of_all rfl

theorem isLine_transportLine (rtpPort : UInt16) : IsLine (transportLine rtpPort) :=
  isLine_append_decimal ((isLine_append_decimal (Text.isLine_of_all rfl) _).append
    (by decide) (by decide)) _

theorem cseq_sendOptions (cseq : UInt32) : (parseRequest (sendOptions cseq)).cseq = cseq :=
  cseq_parseRequest (Text.isLine_of_all rfl)
    (List.forall_mem_singleton.mpr (Text.isLine_of_all rfl)) rfl cseq []

theorem cseq_parameterRequest {start : List Char} (hstart : IsLine start)
    (hother : startsWithLower "cseq:".toList start = false) (cseq : UInt32)
    (body : List Char) : (parseRequest (parameterRequest start cseq body)).cseq = cseq :=
  cseq_parseRequest hstart (List.forall_mem_cons.mpr ⟨Text.isLine_of_all rfl,
    List.forall_mem_singleton.mpr (isLine_append_decimal (Text.isLine_of_all rfl) _)⟩) hother cseq body

theorem cseq_sendGetParameter (cseq : UInt32) :
    (parseRequest (sendGetParameter cseq)).cseq = cseq :=
  cseq_parameterRequest (Text.isLine_of_all rfl) rfl cseq _

theorem cseq_sendSetParameter (cseq : UInt32) (formats : WfdVideoFormats) :
    (parseRequest (sendSetParameter cseq formats)).cseq = cseq :=
  cseq_parameterRequest (Text.isLine_of_all rfl) rfl cseq _

theorem cseq_sendTriggerSetup (cseq : UInt32) :
    (parseRequest (sendTriggerSetup cseq)).cseq = cseq :=
  cseq_parameterRequest (Text.isLine_of_all rfl) rfl cseq _

/-- The body of a parameter request is read back. -/
theorem body_parameterRequest {start : List Char} (hstart : IsLine start) (cseq : UInt32)
    (body : List Char) : (splitHeaderBody (parameterRequest start cseq body)).2 = body := by
  rw [parameterRequest, splitHeaderBody_rtspMessage (List.cons_ne_nil _ _)]
  simp only [List.forall_mem_cons]
  exact ⟨hstart, isLine_cseqLine cseq, Text.isLine_of_all rfl,
    isLine_append_decimal (Text.isLine_of_all rfl) _, nofun⟩

theorem cseq_sendKeepalive (cseq : UInt32) :
    (parseRequest (sendKeepalive cseq)).cseq = cseq :=
  cseq_parseRequest (Text.isLine_of_all rfl)
    (List.forall_mem_singleton.mpr isLine_sessionLine) rfl cseq []

/-- A 200 response to a request, with its number. -/
structure IsResponseTo (req : RtspRequest) (msg : List Char) : Prop where
  response : isResponse msg = true
  code : (parseResponse msg).code = 200
  cseq : (parseRequest msg).cseq = req.cseq

theorem code_ok {rest : List (List Char)} (h : ∀ line ∈ rest, IsLine line)
    (body : List Char) : (parseResponse (rtspMessage (okLine :: rest) body)).code = 200 := by
  have hlines : ∀ line ∈ okLine :: rest, IsLine line :=
    List.forall_mem_cons.mpr ⟨isLine_okLine, h⟩
  rw [parseResponse, splitHeaderBody_rtspMessage (List.cons_ne_nil _ _) hlines]
  simp only [Text.lines_intercalate hlines]
  rfl

theorem body_ok {rest : List (List Char)} (h : ∀ line ∈ rest, IsLine line)
    (body : List Char) : (parseResponse (rtspMessage (okLine :: rest) body)).body = body := by
  rw [parseResponse, splitHeaderBody_rtspMessage (List.cons_ne_nil _ _)
    (List.forall_mem_cons.mpr ⟨isLine_okLine, h⟩)]

theorem isResponseTo_ok {rest : List (List Char)} (h : ∀ line ∈ rest, IsLine line)
    (req : RtspRequest) :
    IsResponseTo req (rtspMessage (okLine :: cseqLine req.cseq :: rest) []) where
  response := rfl
  code := code_ok (List.forall_mem_cons.mpr ⟨isLine_cseqLine req.cseq, h⟩) []
  cseq := cseq_parseRequest isLine_okLine h rfl req.cseq []

theorem isResponseTo_sendOptionsResponse (req : RtspRequest) :
    IsResponseTo req (sendOptionsResponse req) :=
  isResponseTo_ok (List.forall_mem_singleton.mpr (Text.isLine_of_all rfl)) req

theorem isResponseTo_sendSetupResponse (req : RtspRequest) (rtpPort : UInt16) :
    IsResponseTo req (sendSetupResponse req rtpPort) :=
  isResponseTo_ok (List.forall_mem_cons.mpr ⟨Text.isLine_of_all rfl,
    List.forall_mem_singleton.mpr (isLine_transportLine rtpPort)⟩) req

theorem isResponseTo_sendOk (req : RtspRequest) : IsResponseTo req (sendOk req) :=
  isResponseTo_ok (List.forall_mem_singleton.mpr isLine_sessionLine) req

theorem clientPort_decimal (port : UInt16) :
    clientPort ("client_port=".toList ++ decimal port.toNat) = some port := by
  have hdigits : ∀ c ∈ decimal port.toNat, isWhitespace c = false :=
    @forall_mem_decimal (fun c => isWhitespace c = false) (by decide) _
  have htrim : Text.trim isWhitespace ("client_port=".toList ++ decimal port.toNat) =
      "client_port=".toList ++ decimal port.toNat := by
    refine Text.trim_eq_self (fun c hc => ?_) fun c hc => ?_
    · cases hc
      rfl
    · rcases List.mem_append.mp (List.mem_of_mem_getLast? hc) with hname | hdigit
      · have hall : ∀ c ∈ "client_port=".toList, isWhitespace c = false :=
          List.all_iff_forall_prop.mp (by decide)
        exact hall c hname
      · exact hdigits c hdigit
  have hdash : '-' ∉ decimal port.toNat := not_mem_decimal (by decide) _
  rw [clientPort, htrim, Text.stripPrefix_append, Option.bind_some,
    List.splitOn_eq_singleton hdash]
  show (parseTrimmed UInt16.size (decimal port.toNat)).map UInt16.ofNat = _
  rw [parseTrimmed_decimal port.toNat_lt, Option.map_some, UInt16.ofNat_toNat]

/-- The parameters of the transport line, in front of the port. -/
theorem splitOn_transport (port : List Char) (rest : List Char) (h : ';' ∉ port) :
    (" RTP/AVP/UDP;unicast;client_port=".toList ++ (port ++ ';' :: rest)).splitOn ';' =
      " RTP/AVP/UDP".toList :: "unicast".toList :: ("client_port=".toList ++ port) ::
        rest.splitOn ';' := by
  have hname : ';' ∉ "client_port=".toList ++ port := by
    rw [List.mem_append]
    rintro (hmem | hmem)
    · exact absurd hmem (by decide)
    · exact h hmem
  have hfirst : ';' ∉ " RTP/AVP/UDP".toList := by decide
  have hsecond : ';' ∉ "unicast".toList := by decide
  rw [← List.splitOn_append_cons_self_of_not_mem hname,
    ← List.splitOn_append_cons_self_of_not_mem hsecond,
    ← List.splitOn_append_cons_self_of_not_mem hfirst, List.append_assoc]
  rfl

/-- The transport line in front of and behind its port. -/
theorem transportLine_eq (rtpPort : UInt16) :
    transportLine rtpPort = "Transport:".toList ++
      (" RTP/AVP/UDP;unicast;client_port=".toList ++
        (decimal rtpPort.toNat ++ ';' :: ("server_port=".toList ++ decimal rtpPort.toNat))) := by
  have hname : "Transport: RTP/AVP/UDP;unicast;client_port=".toList =
      "Transport:".toList ++ " RTP/AVP/UDP;unicast;client_port=".toList := by decide
  have hserver : ";server_port=".toList = ';' :: "server_port=".toList := by decide
  unfold transportLine
  rw [hname, hserver]
  simp only [List.append_assoc, List.cons_append]

/-- **The port of a setup response is read back.** -/
theorem parseTransportPort_sendSetupResponse (req : RtspRequest) (rtpPort : UInt16) :
    parseTransportPort (splitHeaderBody (sendSetupResponse req rtpPort)).1 =
      some rtpPort := by
  have hlines : ∀ line ∈ [okLine, cseqLine req.cseq, "Session: 1;timeout=30".toList,
      transportLine rtpPort], IsLine line :=
    List.forall_mem_cons.mpr ⟨isLine_okLine, List.forall_mem_cons.mpr ⟨isLine_cseqLine _,
      List.forall_mem_cons.mpr ⟨Text.isLine_of_all rfl,
        List.forall_mem_singleton.mpr (isLine_transportLine rtpPort)⟩⟩⟩
  have hothers : ∀ line ∈ [okLine, cseqLine req.cseq, "Session: 1;timeout=30".toList],
      (Text.stripPrefix "Transport:".toList line).or
        (Text.stripPrefix "transport:".toList line) = none :=
    List.forall_mem_cons.mpr ⟨rfl, List.forall_mem_cons.mpr ⟨rfl,
      List.forall_mem_singleton.mpr rfl⟩⟩
  have hport : ';' ∉ decimal rtpPort.toNat := not_mem_decimal (by decide) _
  have hprofile : clientPort " RTP/AVP/UDP".toList = none := by decide
  have hunicast : clientPort "unicast".toList = none := by decide
  rw [sendSetupResponse, splitHeaderBody_rtspMessage (List.cons_ne_nil _ _) hlines,
    parseTransportPort, Text.lines_intercalate hlines]
  show List.findSome? _ ([okLine, cseqLine req.cseq, "Session: 1;timeout=30".toList] ++
    [transportLine rtpPort]) = _
  rw [List.findSome?_append, List.findSome?_eq_none_iff.mpr fun line hline => by
      rw [hothers line hline, Option.bind_none],
    Option.none_or, List.findSome?_singleton, transportLine_eq, Text.stripPrefix_append,
    Option.some_or, Option.bind_some, splitOn_transport _ _ hport]
  rw [List.findSome?_cons, hprofile, List.findSome?_cons, hunicast, List.findSome?_cons,
    clientPort_decimal]

end OpenPlay.Miracast
