import OpenPlay.Foundation.Dialogue
import OpenPlay.Miracast.Rtsp
import Mathlib.Tactic.IntervalCases

/-!
# WFD negotiation, M1 to M7

`negotiate` of `openplay-miracast`'s `rtsp_server.rs`, as a dialogue with a sink that
may send anything, or nothing, at any point.

Seven messages are read and seven written.  `course` lists them in the order of the
code, with what makes each message of the sink acceptable, and `negotiate_follows`
says that the code follows it.  The results about the negotiation are read off that
one theorem.

A response is acceptable when its code is 200.  Which request it belongs to is not
looked at: the code does not compare the `CSeq` of a response with that of its own
request.
-/

namespace OpenPlay.Miracast

open Dialogue (Step Event Follows heard outcome sayings played)

/-! ## The connection -/

/-- The errors of a negotiation: `Rtsp` and `RtspTimeout`, the latter in
milliseconds. -/
inductive MiracastError where
  | rtsp (message : List Char)
  | rtspTimeout (millis : Nat)
deriving DecidableEq, Repr

/-- What one `read_message_within` returns. -/
abbrev Reading := Except MiracastError (List Char)

/-- A connection with the number of its last request. -/
abbrev RtspConnection := Dialogue.Party UInt32 (List Char) Reading

abbrev Rtsp := Dialogue.Program UInt32 (List Char) Reading MiracastError

/-- `RTSP_READ_TIMEOUT`. -/
def rtspReadTimeout : Nat := 15000

/-- A sink that says nothing. -/
def silence : Reading := .error (.rtspTimeout rtspReadTimeout)

/-- `RtspConnection::new`. -/
def newConnection (incoming : List Reading) : RtspConnection := ⟨0, incoming, []⟩

/-- `next_cseq`. -/
def nextCseq : Rtsp UInt32 := Dialogue.next (· + 1)

/-- `send`, on a connection that takes every write. -/
def send (msg : List Char) : Rtsp PUnit := Dialogue.say msg

/-- `read_message_within`. -/
def readMessageWithin : Rtsp (List Char) := do
  match ← Dialogue.hear silence with
  | .ok raw => return raw
  | .error e => throw e

/-- `read_response`. -/
def readResponse : Rtsp RtspResponse := return parseResponse (← readMessageWithin)

/-- `read_request`. -/
def readRequest : Rtsp RtspRequest := return parseRequest (← readMessageWithin)

/-! ## The code -/

structure WfdNegotiationResult (Addr : Type) where
  width : UInt32
  height : UInt32
  fps : UInt32
  rtpPort : UInt16
  sinkAddr : Addr

/-- A numbered request of the source, and its response. -/
def ask (request : UInt32 → List Char) (rejected : List Char) : Rtsp RtspResponse := do
  let cseq ← nextCseq
  send (request cseq)
  let resp ← readResponse
  if resp.code = 200 then return resp
  else throw (.rtsp (rejected ++ resp.status))

/-- A request of the sink that must have the given method. -/
def expect (method unexpected : List Char) : Rtsp RtspRequest := do
  let req ← readRequest
  if req.method = method then return req
  else throw (.rtsp (unexpected ++ req.method))

/-- `headers.replace("\r\n", " | ")`. -/
def joinedLines (headers : List Char) : List Char :=
  match headers with
  | '\r' :: '\n' :: rest => ' ' :: '|' :: ' ' :: joinedLines rest
  | c :: rest => c :: joinedLines rest
  | [] => []

/-- The match in `negotiate` from a mode to the bit that is announced. -/
def announcedResolution : Mode → UInt32
  | (1920, 1080, 60) => CeaResolutions.res1920x1080p60
  | (1920, 1080, _) => CeaResolutions.res1920x1080p30
  | (1280, 720, 60) => CeaResolutions.res1280x720p60
  | _ => CeaResolutions.res1280x720p30

/-- The mode chosen with the sink's M3 response. -/
def chosenMode (sourceFormats : WfdVideoFormats) (m3Resp : RtspResponse) : Mode :=
  negotiateResolution sourceFormats
    ((parseSinkVideoFormats m3Resp.body).getD WfdVideoFormats.default)

/-- The formats of M4. -/
def negotiatedFormats (sourceFormats : WfdVideoFormats) (mode : Mode) : WfdVideoFormats :=
  { sourceFormats with ceaResolutions := ⟨announcedResolution mode⟩ }

def m1Rejected : List Char := "M1 OPTIONS rejected: ".toList
def m2Unexpected : List Char := "Expected M2 OPTIONS, got ".toList
def m3Rejected : List Char := "M3 GET_PARAMETER rejected: ".toList
def m4Rejected : List Char := "M4 SET_PARAMETER rejected: ".toList
def m5Rejected : List Char := "M5 trigger rejected: ".toList
def m6Unexpected : List Char := "Expected M6 SETUP, got ".toList
def m6NoPort : List Char :=
  "M6 SETUP carries no usable client_port, nowhere to send RTP: ".toList
def m7Unexpected : List Char := "Expected M7 PLAY, got ".toList

/-- The port of M6: a setup without a usable one is fatal. -/
def usablePort (m6Req : RtspRequest) : Rtsp UInt16 :=
  match parseTransportPort m6Req.headers with
  | some port => return port
  | none => throw (.rtsp (m6NoPort ++ joinedLines m6Req.headers))

/-- `negotiate`. -/
def negotiate {Addr : Type} (sinkAddr : Addr) (sourceFormats : WfdVideoFormats) :
    Rtsp (WfdNegotiationResult Addr) := do
  let _ ← ask sendOptions m1Rejected
  let m2Req ← expect "OPTIONS".toList m2Unexpected
  send (sendOptionsResponse m2Req)
  let m3Resp ← ask sendGetParameter m3Rejected
  let mode := chosenMode sourceFormats m3Resp
  let _ ← ask (fun cseq => sendSetParameter cseq (negotiatedFormats sourceFormats mode))
    m4Rejected
  let _ ← ask sendTriggerSetup m5Rejected
  let m6Req ← expect "SETUP".toList m6Unexpected
  let rtpPort ← usablePort m6Req
  send (sendSetupResponse m6Req rtpPort)
  let m7Req ← expect "PLAY".toList m7Unexpected
  send (sendOk m7Req)
  return ⟨mode.1, mode.2.1, mode.2.2, rtpPort, sinkAddr⟩

/-! ## What is acceptable -/

/-- The text of a reading. -/
def rawOf : Reading → List Char
  | .ok raw => raw
  | .error _ => []

/-- A response with code 200. -/
def isAccepted : Reading → Bool
  | .ok raw => (parseResponse raw).code = 200
  | .error _ => false

/-- A request with the given method. -/
def isRequest (method : List Char) : Reading → Bool
  | .ok raw => (parseRequest raw).method = method
  | .error _ => false

/-- The port that a setup asks for. -/
def setupPort (r : Reading) : Option UInt16 :=
  parseTransportPort (parseRequest (rawOf r)).headers

/-- What the code accepts as its `i`-th reading. -/
def acceptable : Nat → Reading → Bool
  | 0 => isAccepted
  | 1 => isRequest "OPTIONS".toList
  | 2 => isAccepted
  | 3 => isAccepted
  | 4 => isAccepted
  | 5 => fun r => isRequest "SETUP".toList r && (setupPort r).isSome
  | _ => isRequest "PLAY".toList

/-! ## The messages of a negotiation -/

section Messages

variable (source : WfdVideoFormats) (h : Nat → Reading)

/-- M2, M6 and M7 answer the readings 1, 5 and 6. -/
def optionsResponse : List Char := sendOptionsResponse (parseRequest (rawOf (h 1)))

def setParameter : List Char :=
  sendSetParameter 3
    (negotiatedFormats source (chosenMode source (parseResponse (rawOf (h 2)))))

def setupResponse : List Char :=
  sendSetupResponse (parseRequest (rawOf (h 5))) ((setupPort (h 5)).getD 0)

def playResponse : List Char := sendOk (parseRequest (rawOf (h 6)))

/-- M1 to M7. -/
def messages : List (List Char) :=
  [sendOptions 1, optionsResponse h, sendGetParameter 2, setParameter source h,
    sendTriggerSetup 4, setupResponse h, playResponse h]

/-- The requests among them. -/
def requests : List (List Char) :=
  [sendOptions 1, sendGetParameter 2, setParameter source h, sendTriggerSetup 4]

/-- A reading, with its condition. -/
def reading (i : Nat) : Step (List Char) Reading := .hear (h i) (acceptable i (h i))

/-- The negotiation in which everything is acceptable. -/
def course : List (Step (List Char) Reading) :=
  [.say (sendOptions 1), reading h 0, reading h 1,
    .say (optionsResponse h), .say (sendGetParameter 2), reading h 2,
    .say (setParameter source h), reading h 3,
    .say (sendTriggerSetup 4), reading h 4, reading h 5,
    .say (setupResponse h), reading h 6, .say (playResponse h)]

end Messages

/-! ## Following the course -/

section Rules

variable {β : Type} {c : RtspConnection} {r : Reading}
variable {rest : List (Step (List Char) Reading)} {post : β → Prop}

/-- The connection behind a reading. -/
def readOn (r : Reading) (c : RtspConnection) : RtspConnection :=
  ⟨c.own, c.incoming.tail, c.log ++ [.heard r]⟩

/-- The connection behind a message. -/
def sentOn (msg : List Char) (c : RtspConnection) : RtspConnection :=
  ⟨c.own, c.incoming, c.log ++ [.said msg]⟩

/-- The connection behind a request. -/
def askedOn (request : UInt32 → List Char) (c : RtspConnection) : RtspConnection :=
  ⟨c.own + 1, c.incoming, c.log ++ [.said (request (c.own + 1))]⟩

theorem outcome_throw (e : MiracastError) (c : RtspConnection) :
    outcome (throw e : Rtsp β) c = (.error e, c) :=
  rfl

theorem throw_bind (e : MiracastError) {α : Type} (more : α → Rtsp β) :
    (throw e : Rtsp α) >>= more = throw e :=
  rfl

theorem readMessageWithin_bind (more : List Char → Rtsp β) :
    readMessageWithin >>= more =
      Dialogue.hear silence >>= fun r =>
        match r with
        | .ok raw => more raw
        | .error e => throw e := by
  rw [readMessageWithin, bind_assoc]
  refine bind_congr fun r => ?_
  rcases r with e | raw
  · exact throw_bind e more
  · exact pure_bind raw more

/-- A message is read, and the rest follows the rest of the course; or there is none,
or the rest gives up on it. -/
theorem follows_readMessage (hr : heard silence c.incoming 0 = r) {acceptable : Bool}
    {more : List Char → Rtsp β} (hread : acceptable = true → r = .ok (rawOf r))
    (haccept : acceptable = true → Follows (more (rawOf r)) (readOn r c) rest post)
    (hreject : ∀ raw, r = .ok raw → acceptable = false →
      ∃ e, ∀ q, outcome (more raw) q = (.error e, q)) :
    Follows (readMessageWithin >>= more) c (.hear r acceptable :: rest) post := by
  subst hr
  rw [readMessageWithin_bind]
  apply Dialogue.follows_hear
  · intro h
    have hrest := haccept h
    rw [readOn, hread h] at hrest
    rw [hread h]
    exact hrest
  · intro h
    rcases hr : heard silence c.incoming 0 with e | raw
    · exact ⟨e, fun q => outcome_throw e q⟩
    · exact hreject raw hr h

theorem ask_bind (request : UInt32 → List Char) (rejected : List Char)
    (more : RtspResponse → Rtsp β) :
    ask request rejected >>= more =
      nextCseq >>= fun cseq => send (request cseq) >>= fun _ =>
        readMessageWithin >>= fun raw =>
          if (parseResponse raw).code = 200 then more (parseResponse raw)
          else throw (.rtsp (rejected ++ (parseResponse raw).status)) := by
  simp only [ask, readResponse, bind_assoc, pure_bind]
  refine bind_congr fun cseq => bind_congr fun _ => bind_congr fun raw => ?_
  split
  · exact pure_bind _ more
  · exact throw_bind _ more

theorem expect_bind (method unexpected : List Char) (more : RtspRequest → Rtsp β) :
    expect method unexpected >>= more =
      readMessageWithin >>= fun raw =>
        if (parseRequest raw).method = method then more (parseRequest raw)
        else throw (.rtsp (unexpected ++ (parseRequest raw).method)) := by
  simp only [expect, readRequest, bind_assoc, pure_bind]
  refine bind_congr fun raw => ?_
  split
  · exact pure_bind _ more
  · exact throw_bind _ more

theorem isAccepted_iff :
    isAccepted r = true ↔ r = .ok (rawOf r) ∧ (parseResponse (rawOf r)).code = 200 := by
  rcases r with e | raw
  · exact ⟨nofun, fun h => nomatch h.1⟩
  · exact decide_eq_true_iff.trans ⟨fun h => ⟨rfl, h⟩, fun h => h.2⟩

theorem isRequest_iff {method : List Char} :
    isRequest method r = true ↔
      r = .ok (rawOf r) ∧ (parseRequest (rawOf r)).method = method := by
  rcases r with e | raw
  · exact ⟨nofun, fun h => nomatch h.1⟩
  · exact decide_eq_true_iff.trans ⟨fun h => ⟨rfl, h⟩, fun h => h.2⟩

theorem follows_send {msg : List Char} {more : PUnit → Rtsp β}
    (h : Follows (more ⟨⟩) (sentOn msg c) rest post) :
    Follows (send msg >>= more) c (.say msg :: rest) post :=
  Dialogue.follows_say h

theorem follows_ask (hr : heard silence c.incoming 0 = r) {request : UInt32 → List Char}
    {rejected : List Char} {more : RtspResponse → Rtsp β}
    (h : isAccepted r = true →
      Follows (more (parseResponse (rawOf r))) (readOn r (askedOn request c)) rest post) :
    Follows (ask request rejected >>= more) c
      (.say (request (c.own + 1)) :: .hear r (isAccepted r) :: rest) post := by
  rw [ask_bind]
  apply Dialogue.follows_next
  apply Dialogue.follows_say
  refine follows_readMessage (c := askedOn request c) hr
    (fun hok => (isAccepted_iff.mp hok).1) ?_ ?_
  · intro hok
    rw [if_pos (isAccepted_iff.mp hok).2]
    exact h hok
  · rintro raw rfl hno
    rw [if_neg (of_decide_eq_false hno)]
    exact ⟨_, outcome_throw _⟩

/-- A request that the rest may still give up on, as it does on some setups. -/
theorem follows_expect (hr : heard silence c.incoming 0 = r) {acceptable : Bool}
    {method unexpected : List Char} {more : RtspRequest → Rtsp β}
    (hread : acceptable = true → isRequest method r = true)
    (haccept : acceptable = true →
      Follows (more (parseRequest (rawOf r))) (readOn r c) rest post)
    (hreject : isRequest method r = true → acceptable = false →
      ∃ e, ∀ q, outcome (more (parseRequest (rawOf r))) q = (.error e, q)) :
    Follows (expect method unexpected >>= more) c (.hear r acceptable :: rest) post := by
  rw [expect_bind]
  refine follows_readMessage hr (fun hok => (isRequest_iff.mp (hread hok)).1) ?_ ?_
  · intro hok
    rw [if_pos (isRequest_iff.mp (hread hok)).2]
    exact haccept hok
  · rintro raw rfl hno
    by_cases hmethod : (parseRequest raw).method = method
    · rw [if_pos hmethod]
      exact hreject (decide_eq_true hmethod) hno
    · rw [if_neg hmethod]
      exact ⟨_, outcome_throw _⟩

end Rules

/-- What a negotiation returns. -/
structure Negotiated {Addr : Type} (sinkAddr : Addr) (source : WfdVideoFormats)
    (h : Nat → Reading) (result : WfdNegotiationResult Addr) : Prop where
  mode : (result.width, result.height, result.fps) =
    chosenMode source (parseResponse (rawOf (h 2)))
  rtpPort : setupPort (h 5) = some result.rtpPort
  sinkAddr : result.sinkAddr = sinkAddr

theorem usablePort_of_some {req : RtspRequest} {port : UInt16}
    (h : parseTransportPort req.headers = some port) : usablePort req = pure port := by
  rw [usablePort, h]

theorem exists_usablePort_bind {β : Type} {req : RtspRequest}
    (h : parseTransportPort req.headers = none) (more : UInt16 → Rtsp β) :
    ∃ e, ∀ q, outcome (usablePort req >>= more) q = (.error e, q) := by
  rw [usablePort, h]
  exact ⟨_, outcome_throw _⟩

/-- **The code follows the course.** -/
theorem negotiate_follows {Addr : Type} (sinkAddr : Addr) (source : WfdVideoFormats)
    (incoming : List Reading) :
    Follows (negotiate sinkAddr source) (newConnection incoming)
      (course source (heard silence incoming))
      (Negotiated sinkAddr source (heard silence incoming)) := by
  have hleft := Dialogue.heard_iterate_tail silence incoming
  -- M1 and M2
  apply follows_ask (hleft 0)
  intro _
  apply follows_expect (hleft 1) id
  case hreject => exact fun hok hno => absurd (hok.symm.trans hno) nofun
  intro _
  apply follows_send
  -- M3, M4 and M5
  apply follows_ask (hleft 2)
  intro _
  apply follows_ask (hleft 3)
  intro _
  apply follows_ask (hleft 4)
  intro _
  -- M6, which may lack a port
  apply follows_expect (hleft 5)
  case hread => exact fun hok => (Bool.and_eq_true_iff.mp hok).1
  case hreject =>
    intro hsetup hno
    apply exists_usablePort_bind
    refine Option.not_isSome_iff_eq_none.mp fun hsome => ?_
    exact absurd ((Bool.and_eq_true_iff.mpr ⟨hsetup, hsome⟩).symm.trans hno) nofun
  intro hok
  obtain ⟨port, hport⟩ := Option.isSome_iff_exists.mp (Bool.and_eq_true_iff.mp hok).2
  have hresponse : setupResponse (heard silence incoming) =
      sendSetupResponse (parseRequest (rawOf (heard silence incoming 5))) port := by
    rw [setupResponse, hport, Option.getD_some]
  rw [usablePort_of_some hport, pure_bind, hresponse]
  apply follows_send
  -- M7
  apply follows_expect (hleft 6) id
  case hreject => exact fun hok hno => absurd (hok.symm.trans hno) nofun
  intro _
  apply follows_send
  apply Dialogue.follows_pure
  exact ⟨rfl, hport, rfl⟩

/-! ## The order of the messages -/

section Order

variable {Addr : Type} (sinkAddr : Addr) (source : WfdVideoFormats) (incoming : List Reading)

/-- A whole negotiation on a new connection. -/
def negotiation : Except MiracastError (WfdNegotiationResult Addr) × RtspConnection :=
  outcome (negotiate sinkAddr source) (newConnection incoming)

theorem course_numbered (h : Nat → Reading) :
    (course source h).filterMap Step.hearing =
      (List.range 7).map fun i => (h i, acceptable i (h i)) :=
  rfl

theorem sayings_course (h : Nat → Reading) :
    sayings ((course source h).map Step.event) = messages source h :=
  rfl

theorem cseq_requests (h : Nat → Reading) :
    (requests source h).map (fun m => (parseRequest m).cseq) = [1, 2, 3, 4] := by
  show [(parseRequest (sendOptions 1)).cseq, (parseRequest (sendGetParameter 2)).cseq,
    (parseRequest (setParameter source h)).cseq,
    (parseRequest (sendTriggerSetup 4)).cseq] = _
  rw [cseq_sendOptions, cseq_sendGetParameter, setParameter, cseq_sendSetParameter,
    cseq_sendTriggerSetup]

/-- **WFD negotiation follows M1 to M7**, whatever the sink sends and wherever it stops.
What is written and read is the course up to the first reading that is not acceptable,
and the result is a success when there is none. -/
theorem negotiation_follows_m1_to_m7 {Addr : Type} (sinkAddr : Addr)
    (source : WfdVideoFormats) (incoming : List Reading) :
    let h := heard silence incoming
    let out := negotiation sinkAddr source incoming
    (out.2.log = played (course source h) ∧
      out.2.log <+: (course source h).map Step.event ∧
      sayings out.2.log <+: messages source h) ∧
    (∀ before e after, out.2.log = before ++ e :: after →
      ∀ i < (Dialogue.hearings before).length, acceptable i (h i) = true) ∧
    ((∃ result, out.1 = .ok result) ↔ ∀ i < 7, acceptable i (h i) = true) ∧
    (requests source h).map (fun m => (parseRequest m).cseq) = [1, 2, 3, 4] ∧
    (IsResponseTo (parseRequest (rawOf (h 1))) (optionsResponse h) ∧
      IsResponseTo (parseRequest (rawOf (h 5))) (setupResponse h) ∧
      IsResponseTo (parseRequest (rawOf (h 6))) (playResponse h) ∧
      ∀ raw, (headerField "cseq:".toList (splitHeaderBody raw).1).bind
        (parseTrimmed UInt32.size) = none → (parseRequest raw).cseq = 0) ∧
    (∀ port, setupPort (h 5) = some port →
      parseTransportPort (splitHeaderBody (setupResponse h)).1 = some port) ∧
    ∀ result, out.1 = .ok result → setupPort (h 5) = some result.rtpPort := by
  intro h out
  have hfollows := negotiate_follows sinkAddr source incoming
  have hlog : out.2.log = played (course source h) := hfollows.log
  have hnumbered := course_numbered source h
  refine ⟨⟨hlog, ?_, ?_⟩, ?_, ?_, cseq_requests source h, ⟨?_, ?_, ?_, ?_⟩, ?_, ?_⟩
  · rw [hlog]
    exact Dialogue.played_isPrefix _
  · rw [hlog, ← sayings_course]
    exact Dialogue.sayings_played _
  · intro before e after hsplit i hi
    exact Dialogue.acceptable_of_played hnumbered (hlog.symm.trans hsplit) hi
  · exact hfollows.ok.trans (Dialogue.goesOn_iff_acceptable hnumbered)
  · exact isResponseTo_sendOptionsResponse _
  · exact isResponseTo_sendSetupResponse _ _
  · exact isResponseTo_sendOk _
  · intro raw hnone
    simp only [parseRequest, hnone]
    rfl
  · intro port hport
    rw [setupResponse, hport]
    exact parseTransportPort_sendSetupResponse _ port
  · intro result hresult
    exact (hfollows.post result hresult).rtpPort

/-! ## Which response is taken -/

/-- A successful negotiation is the whole course. -/
theorem log_of_ok {result : WfdNegotiationResult Addr}
    (hok : (negotiation sinkAddr source incoming).1 = .ok result) :
    (negotiation sinkAddr source incoming).2.log =
        (course source (heard silence incoming)).map Step.event ∧
      ∀ i < 7, acceptable i (heard silence incoming i) = true := by
  have hfollows := negotiate_follows sinkAddr source incoming
  have hgo := hfollows.ok.mp ⟨result, hok⟩
  refine ⟨?_, (Dialogue.goesOn_iff_acceptable (course_numbered source _)).mp hgo⟩
  rw [← Dialogue.played_eq_map hgo]
  exact hfollows.log

/-- The requests, each with the number of the reading that answers it. -/
def answers (h : Nat → Reading) : List (List Char × Nat) :=
  [(sendOptions 1, 0), (sendGetParameter 2, 2), (setParameter source h, 3),
    (sendTriggerSetup 4, 4)]

/-- **A request is answered by the message that is read next.**  That message is a 200
response, and it answers no other request; its `CSeq` is not looked at. -/
theorem request_answered_by_next_message {result : WfdNegotiationResult Addr}
    (hok : (negotiation sinkAddr source incoming).1 = .ok result) :
    let h := heard silence incoming
    ∀ x ∈ answers source h, isAccepted (h x.2) = true ∧
      ∃ before after,
        (negotiation sinkAddr source incoming).2.log =
            before ++ .said x.1 :: .heard (h x.2) :: after ∧
          (Dialogue.hearings before).length = x.2 := by
  intro h
  obtain ⟨hlog, hacceptable⟩ := log_of_ok sinkAddr source incoming hok
  rw [hlog]
  refine List.forall_mem_cons.mpr ⟨⟨hacceptable 0 (by decide), [], _, rfl, rfl⟩,
    List.forall_mem_cons.mpr ⟨⟨hacceptable 2 (by decide),
      ((course source h).take 4).map Step.event, _, rfl, rfl⟩,
    List.forall_mem_cons.mpr ⟨⟨hacceptable 3 (by decide),
      ((course source h).take 6).map Step.event, _, rfl, rfl⟩,
    List.forall_mem_singleton.mpr ⟨hacceptable 4 (by decide),
      ((course source h).take 8).map Step.event, _, rfl, rfl⟩⟩⟩⟩

end Order

/-! ### A sink that accepts everything -/

def okResponse (cseq : UInt32) (body : List Char) : Reading :=
  .ok (rtspMessage [okLine, cseqLine cseq] body)

def optionsRequest : Reading := .ok "OPTIONS * RTSP/1.0\r\n\r\n".toList

def setupRequest : Reading :=
  .ok "SETUP * RTSP/1.0\r\nTransport: client_port=19000\r\n\r\n".toList

def playRequest : Reading := .ok "PLAY * RTSP/1.0\r\n\r\n".toList

/-- Its four responses bear the numbers `cseq`, and `body` is what it says of its
capabilities. -/
def obligingSink (cseq : Nat → UInt32) (body : List Char) : List Reading :=
  [okResponse (cseq 0) [], optionsRequest, okResponse (cseq 1) body, okResponse (cseq 2) [],
    okResponse (cseq 3) [], setupRequest, playRequest]

theorem isAccepted_okResponse (cseq : UInt32) (body : List Char) :
    isAccepted (okResponse cseq body) = true := by
  rw [okResponse, isAccepted]
  exact decide_eq_true (code_ok (List.forall_mem_singleton.mpr (isLine_cseqLine cseq)) body)

theorem acceptable_obligingSink (cseq : Nat → UInt32) (body : List Char) :
    ∀ i < 7, acceptable i (heard silence (obligingSink cseq body) i) = true := by
  have hoptions : acceptable 1 optionsRequest = true := by decide
  have hsetup : acceptable 5 setupRequest = true := by decide
  have hplay : acceptable 6 playRequest = true := by decide
  intro i hi
  interval_cases i
  · exact isAccepted_okResponse (cseq 0) []
  · exact hoptions
  · exact isAccepted_okResponse (cseq 1) body
  · exact isAccepted_okResponse (cseq 2) []
  · exact isAccepted_okResponse (cseq 3) []
  · exact hsetup
  · exact hplay

theorem obligingSink_ok (source : WfdVideoFormats) (cseq : Nat → UInt32) (body : List Char) :
    ∃ result, (negotiation () source (obligingSink cseq body)).1 = .ok result :=
  (negotiate_follows () source (obligingSink cseq body)).ok.mpr
    ((Dialogue.goesOn_iff_acceptable (course_numbered source _)).mpr
      (acceptable_obligingSink cseq body))

theorem request_answered_by_next_message_of_obliging_sink :
    let h := heard silence (obligingSink (fun _ => 1) [])
    ∀ x ∈ answers WfdVideoFormats.default h, isAccepted (h x.2) = true ∧
      ∃ before after,
        (negotiation () WfdVideoFormats.default (obligingSink (fun _ => 1) [])).2.log =
            before ++ .said x.1 :: .heard (h x.2) :: after ∧
          (Dialogue.hearings before).length = x.2 := by
  obtain ⟨result, hok⟩ := obligingSink_ok WfdVideoFormats.default (fun _ => 1) []
  exact request_answered_by_next_message () _ _ hok

/-- The number that a response bears. -/
theorem cseq_okResponse (cseq : UInt32) (body : List Char) :
    (parseRequest (rawOf (okResponse cseq body))).cseq = cseq :=
  cseq_parseRequest isLine_okLine (fun _ h => absurd h List.not_mem_nil) rfl cseq body

/-- A sink that numbers all its responses alike gets through: no 200 response at all
bears the number of M3. -/
theorem response_of_another_request_taken :
    ¬ ∀ (source : WfdVideoFormats) (incoming : List Reading),
      (∃ result, (negotiation () source incoming).1 = .ok result) →
        ∀ m ∈ requests source (heard silence incoming),
          ∃ r ∈ incoming, isAccepted r = true ∧
            (parseRequest (rawOf r)).cseq = (parseRequest m).cseq := by
  intro hall
  have hm : sendGetParameter 2 ∈
      requests .default (heard silence (obligingSink (fun _ => 1) [])) :=
    List.mem_cons_of_mem _ List.mem_cons_self
  obtain ⟨r, hr, haccepted, hcseq⟩ :=
    hall .default _ (obligingSink_ok .default (fun _ => 1) []) _ hm
  rw [cseq_sendGetParameter] at hcseq
  have hok : r ≠ okResponse 1 [] := by
    rintro rfl
    rw [cseq_okResponse] at hcseq
    exact absurd hcseq (by decide)
  have hoptions : isAccepted optionsRequest = false := by decide
  have hsetup : isAccepted setupRequest = false := by decide
  have hplay : isAccepted playRequest = false := by decide
  simp only [obligingSink, List.mem_cons, List.not_mem_nil, or_false, hok, false_or] at hr
  rcases hr with rfl | rfl | rfl
  · exact absurd (haccepted.symm.trans hoptions) nofun
  · exact absurd (haccepted.symm.trans hsetup) nofun
  · exact absurd (haccepted.symm.trans hplay) nofun

end OpenPlay.Miracast
