import OpenPlay.Airplay.PairingResponse
import OpenPlay.Airplay.PairingRun
import OpenPlay.Airplay.RequestHeaders

/-!
# Pairing over HTTP

The posts of `hap_pairing.rs` as bytes: `send_post` and `recv_response` with an accessory that
reads requests off a connection and writes responses to it.  The connection may break in any
exchange, inside the request or inside the response.

`pairing_over_http` says that nothing of this is seen by the flows, which come to what they
come to when messages are handed over as they are.
-/

namespace OpenPlay.Airplay.HapPairing

open Exchange
open HttpSession (headerFormat lengthLine)
open Tlv8 (Tlv8Item)

/-! ## The code -/

/-- The lines of `send_post`; the value of `X-Apple-HKP` is `HKP_TRANSIENT`. -/
def postLines (path contentType : String) (length : Nat) : List (List Char) :=
  [("POST " ++ path ++ " HTTP/1.1").toList, "X-Apple-HKP: 4".toList,
    ("Content-Type: " ++ contentType).toList, lengthLine length]

/-- What `send_post` writes. -/
def sendPost (path contentType : String) (body : List UInt8) : List UInt8 :=
  headerFormat (postLines path contentType body.length) ++ body

/-- `send_pair_setup` and `send_pair_verify`, which differ in the path. -/
def Post.bytes (p : Post) : List UInt8 := sendPost p.path "application/octet-stream" p.body

/-- `recv_pair_setup` and `recv_pair_verify`, on the bytes that come. -/
def recvPost (cuts : Nat → Nat) (incoming : List UInt8) : Except PairingError (List UInt8) :=
  match receive cuts incoming with
  | .body bytes => .ok bytes
  | .failed e => .error (.text e)
  | .closed e _ => .error (.text e)
  | .outOfRange => .error .panicked

/-- The paths that are posted to. -/
def Post.IsKnown (p : Post) : Prop := p.path = "/pair-setup" ∨ p.path = "/pair-verify"

/-! ## The accessory -/

/-- A request that is whole. -/
def readPost (request : List UInt8) : Option Post := do
  let headerEnd ← findHeaderEnd request
  let header := Utf8.decodeLossy (request.take headerEnd)
  let path ← (Text.lines header).head?.bind fun line => (Text.words isWhitespace line)[1]?
  let length ← parseContentLength header
  let body := request.drop (headerEnd + 4)
  if body.length = length then some ⟨String.ofList path, body⟩ else none

/-- An accessory that puts its answers into responses in some way. -/
def Connection.serve (prims : Primitives) (wrap : List UInt8 → List UInt8) (c : Connection)
    (request : List UInt8) : List UInt8 × Connection :=
  match readPost request with
  | none => ([], c)
  | some p => (wrap (c.answer prims p).1, (c.answer prims p).2)

/-- Where a connection breaks: behind `n` bytes of a message, or of the part of it that `n`
leaves modulo its length. -/
inductive Break
  | none
  | inRequest (n : Nat)
  | inAnswer (n : Nat)
deriving DecidableEq

/-- A part of a message, but not all of it. -/
def partOf (n : Nat) (bytes : List UInt8) : List UInt8 := bytes.take (n % bytes.length)

def Break.request : Break → List UInt8 → List UInt8
  | inRequest n, bytes => partOf n bytes
  | _, bytes => bytes

def Break.answer : Break → List UInt8 → List UInt8
  | inAnswer n, bytes => partOf n bytes
  | _, bytes => bytes

/-- The fault that a break comes to. -/
def Break.fault : Break → Fault
  | none => .none
  | inRequest _ => .requestLost
  | inAnswer _ => .answerLost

/-- A post and its answer, over a connection that may break.  How the response is cut into
reads may depend on the post. -/
def overHttp (prims : Primitives) (wrap : List UInt8 → List UInt8) (cuts : Post → Nat → Nat) :
    Connection × List Break → Post →
      Except PairingError (List UInt8) × (Connection × List Break)
  | (c, breaks), p =>
      let broken := breaks.headD .none
      let served := c.serve prims wrap (broken.request p.bytes)
      (recvPost (cuts p) (broken.answer served.1), (served.2, breaks.tail))

/-! ## Messages -/

section Messages

variable {bytes head body : List UInt8}

/-- A header block, a blank line, and a body of the length that the block declares. -/
structure IsMessage (bytes head body : List UInt8) : Prop where
  parts : bytes = head ++ (headerEndMark ++ body)
  ends : findHeaderEnd bytes = some head.length
  declares : parseContentLength (Utf8.decodeLossy head) = some body.length

namespace IsMessage

theorem drop_eq (h : IsMessage bytes head body) : bytes.drop (head.length + 4) = body := by
  rw [h.parts, ← List.append_assoc]
  exact List.drop_left' (List.length_append ..)

theorem take_eq (h : IsMessage bytes head body) : bytes.take head.length = head := by
  rw [h.parts, List.take_left]

theorem length_eq (h : IsMessage bytes head body) :
    bytes.length = head.length + 4 + body.length := by
  rw [h.parts, List.length_append, List.length_append, Nat.add_assoc]
  rfl

/-- **A part of a message** has no end of a header, or the header and too short a body. -/
theorem of_take (h : IsMessage bytes head body) {n : Nat} (short : n < bytes.length) :
    findHeaderEnd (bytes.take n) = none ∨
      findHeaderEnd (bytes.take n) = some head.length ∧
        (bytes.take n).take head.length = head ∧
        ((bytes.take n).drop (head.length + 4)).length < body.length := by
  cases found : findHeaderEnd (bytes.take n) with
  | none => exact Or.inl rfl
  | some i =>
    have whole : findHeaderEnd (bytes.take n ++ bytes.drop n) = some i :=
      Text.find_append found _
    rw [List.take_append_drop, h.ends] at whole
    cases whole
    have room : head.length + 4 ≤ (bytes.take n).length := Text.length_le_of_find found
    have length := h.length_eq
    rw [List.length_take] at room
    refine Or.inr ⟨rfl, ?_, ?_⟩
    · rw [List.take_take, Nat.min_eq_left (by omega), h.take_eq]
    · rw [List.length_drop, List.length_take]
      omega

/-- The response that a message is. -/
theorem respond_eq (h : IsMessage bytes head body) (accepted : Accepted head) :
    respond bytes = .body body := by
  refine respond_eq_body_iff.mpr ⟨head.length, h.ends, ?_, ?_, ?_⟩
  · rw [h.take_eq]
    exact accepted
  · rw [h.take_eq, h.declares, h.drop_eq, Option.getD_some]
  · rw [h.take_eq, h.declares, h.drop_eq, Option.getD_some, List.take_length]

/-- A part of it is the end of the connection. -/
theorem respond_take (h : IsMessage bytes head body) (accepted : Accepted head) {n : Nat}
    (short : n < bytes.length) :
    respond (bytes.take n) = .closed "Connection closed" [] ∨
      respond (bytes.take n) = .closed "Connection closed mid-body" [] := by
  rcases h.of_take short with none | ⟨found, header, few⟩
  · left
    rw [respond, none]
  · right
    rw [respond, found]
    dsimp only
    rw [header, checkHttpStatus_eq_ok_iff.mpr accepted, h.declares, Option.getD_some]
    exact if_neg (Nat.not_le.mpr few)

end IsMessage

end Messages

/-! ## Requests -/

section Requests

variable {lines : List (List Char)} {front : List (List Char)} {body : List UInt8}

/-- A line that the reader of the length passes over. -/
abbrev DeclaresNone (line : List Char) : Prop :=
  (Text.stripPrefix "Content-Length: ".toList line).or
    (Text.stripPrefix "content-length: ".toList line) = none

/-- The first of some lines that declares a length is the one behind them. -/
theorem parseContentLength_lengthLine {header : List Char} {length : Nat}
    (read : Text.lines header = front ++ [lengthLine length])
    (others : ∀ line ∈ front, DeclaresNone line) (fits : length < UInt64.size) :
    parseContentLength header = some length := by
  have value : Text.stripPrefix "Content-Length: ".toList (lengthLine length) =
      some (Miracast.decimal length) := Text.stripPrefix_append _ _
  have solid : ∀ c ∈ Miracast.decimal length, isWhitespace c = false :=
    Miracast.forall_mem_decimal (p := fun c => isWhitespace c = false) (by decide) length
  have trimmed : Text.trim isWhitespace (Miracast.decimal length) = Miracast.decimal length :=
    Text.trim_eq_self (fun c mem => solid c (List.mem_of_mem_head? mem))
      (fun c mem => solid c (List.mem_of_mem_getLast? mem))
  rw [parseContentLength, read, List.findSome?_append,
    List.findSome?_eq_none_iff.mpr others, Option.none_or, List.findSome?_singleton, value,
    Option.some_or, Option.bind_some, trimmed]
  exact Text.parseUnsigned_digits (by decide) (by decide) fits

/-- The bytes of a message: its lines, a blank line, and the body. -/
theorem headerFormat_append (nonempty : lines ≠ []) (body : List UInt8) :
    headerFormat lines ++ body =
      Utf8.encode (Text.crlf.intercalate lines) ++ (headerEndMark ++ body) := by
  rw [headerFormat_eq nonempty, List.append_assoc]

/-- Lines, with the length behind them, and a body are such a message. -/
theorem isMessage_of_lines (isLine : ∀ line ∈ front, Text.IsLine line)
    (others : ∀ line ∈ front, DeclaresNone line) (fits : body.length < UInt64.size) :
    IsMessage (headerFormat (front ++ [lengthLine body.length]) ++ body)
      (Utf8.encode (Text.crlf.intercalate (front ++ [lengthLine body.length]))) body := by
  have nonempty : front ++ [lengthLine body.length] ≠ [] :=
    List.append_ne_nil_of_right_ne_nil _ (List.cons_ne_nil _ _)
  have all : ∀ line ∈ front ++ [lengthLine body.length], Text.IsLine line := by
    intro line mem
    rcases List.mem_append.mp mem with mem | mem
    · exact isLine line mem
    · rw [List.mem_singleton.mp mem]
      exact isLine_lengthLine _
  refine ⟨headerFormat_append nonempty body, ?_, ?_⟩
  · rw [headerFormat_append nonempty]
    exact find_headerEndMark nonempty all body
  · rw [Utf8.decodeLossy_encode]
    exact parseContentLength_lengthLine (Text.lines_intercalate all) others fits

/-- **A request is read as it was sent**: lines with the length behind them, and a body. -/
theorem readPost_of_lines {first path : List Char}
    (isLine : ∀ line ∈ first :: front, Text.IsLine line)
    (others : ∀ line ∈ first :: front, DeclaresNone line) (fits : body.length < UInt64.size)
    (second : (Text.words isWhitespace first)[1]? = some path) :
    readPost (headerFormat (first :: front ++ [lengthLine body.length]) ++ body) =
      some ⟨String.ofList path, body⟩ := by
  have message := isMessage_of_lines isLine others fits
  have lines : (Text.lines (Text.crlf.intercalate
      (first :: front ++ [lengthLine body.length]))).head? = some first := by
    rw [Text.lines_intercalate]
    · rfl
    · intro line mem
      rcases List.mem_append.mp mem with mem | mem
      · exact isLine line mem
      · rw [List.mem_singleton.mp mem]
        exact isLine_lengthLine _
  have length := message.declares
  rw [Utf8.decodeLossy_encode] at length
  rw [readPost, message.ends]
  simp only [Option.bind_eq_bind, Option.bind_some, message.take_eq, Utf8.decodeLossy_encode,
    lines, second, length, message.drop_eq, if_true]

/-- The lines of a post in front of its length. -/
def leadingLines (path : String) : List (List Char) :=
  [("POST " ++ path ++ " HTTP/1.1").toList, "X-Apple-HKP: 4".toList,
    ("Content-Type: " ++ "application/octet-stream").toList]

/-- The header block of a post. -/
def Post.header (p : Post) : List Char :=
  Text.crlf.intercalate (leadingLines p.path ++ [lengthLine p.body.length])

variable {p : Post}

theorem isLine_leadingLines (known : p.IsKnown) :
    ∀ line ∈ leadingLines p.path, Text.IsLine line := by
  have allLines : (leadingLines p.path).all (fun line =>
      ! line.isEmpty && line.all fun c => c != '\r' && c != '\n') = true := by
    rcases known with same | same <;> rw [same] <;> decide
  exact fun line mem => Text.isLine_of_all (List.all_eq_true.mp allLines line mem)

/-- **The request of a post** is a message. -/
theorem isMessage_bytes (known : p.IsKnown) (fits : p.body.length < UInt64.size) :
    IsMessage p.bytes (Utf8.encode p.header) p.body := by
  have others : ∀ line ∈ leadingLines p.path, DeclaresNone line := by
    rcases known with same | same <;> rw [same] <;> decide
  have message := isMessage_of_lines (isLine_leadingLines known) others fits
  exact message

/-- **A post is read as it was sent.** -/
theorem readPost_bytes (known : p.IsKnown) (fits : p.body.length < UInt64.size) :
    readPost p.bytes = some p := by
  have others : ∀ line ∈ leadingLines p.path, DeclaresNone line := by
    rcases known with same | same <;> rw [same] <;> decide
  have path : (Text.words isWhitespace ("POST " ++ p.path ++ " HTTP/1.1").toList)[1]? =
      some p.path.toList := by
    rcases known with same | same <;> rw [same] <;> decide
  have read := readPost_of_lines (isLine_leadingLines known) others fits path
  rw [String.ofList_toList] at read
  exact read

/-- **A part of a post is none.** -/
theorem readPost_part (known : p.IsKnown) (fits : p.body.length < UInt64.size) (n : Nat) :
    readPost (partOf n p.bytes) = none := by
  have message := isMessage_bytes known fits
  have some : 0 < p.bytes.length := by
    rw [message.length_eq]
    omega
  have length := message.declares
  rw [readPost, partOf]
  rcases message.of_take (Nat.mod_lt n some) with none | ⟨found, header, few⟩
  · rw [none]
    rfl
  · rw [found]
    simp only [Option.bind_eq_bind, Option.bind_some, header, length, few.ne, if_false]
    rcases (Text.lines _).head?.bind _ with _ | path <;> rfl

end Requests

/-! ## Exchanges -/

section Exchanges

variable {prims : Primitives} {wrap : List UInt8 → List UInt8} {body : List UInt8}

/-- Every answer becomes a response that is accepted. -/
def Wraps (wrap : List UInt8 → List UInt8) : Prop :=
  ∀ body, body.length < UInt64.size → ∃ head, Accepted head ∧ IsMessage (wrap body) head body

/-- The error of a connection that breaks inside a body. -/
def closedMidBody : PairingError := .text "Connection closed mid-body"

/-- The same error, or the two of a connection that breaks. -/
def SameLoss (e e' : PairingError) : Prop := e = e' ∨ (e = closed ∧ e' = closedMidBody)

theorem recvPost_wrap (wraps : Wraps wrap) (fits : body.length < UInt64.size)
    (cuts : Nat → Nat) : recvPost cuts (wrap body) = .ok body := by
  obtain ⟨head, accepted, message⟩ := wraps body fits
  rw [recvPost, receive_eq, message.respond_eq accepted]

theorem recvPost_part (wraps : Wraps wrap) (fits : body.length < UInt64.size)
    (cuts : Nat → Nat) (n : Nat) :
    ∃ e, recvPost cuts (partOf n (wrap body)) = .error e ∧ SameLoss closed e := by
  obtain ⟨head, accepted, message⟩ := wraps body fits
  have some : 0 < (wrap body).length := by
    rw [message.length_eq]
    omega
  rw [recvPost, receive_eq, partOf]
  rcases message.respond_take accepted (Nat.mod_lt n some) with lost | lost
  · rw [lost]
    exact ⟨closed, rfl, Or.inl rfl⟩
  · rw [lost]
    exact ⟨closedMidBody, rfl, Or.inr ⟨rfl, rfl⟩⟩

/-- Nothing comes. -/
theorem recvPost_nil (cuts : Nat → Nat) : recvPost cuts [] = .error closed := by
  rw [recvPost, receive_eq]
  rfl

/-- What is posted and answered fits a `Vec`. -/
def PostFits (prims : Primitives) (s : Connection × List Fault) (p : Post) : Prop :=
  p.body.length < UInt64.size ∧ (s.1.answer prims p).1.length < UInt64.size

/-- The same connection, that breaks where messages are lost. -/
def Breaks (s : Connection × List Fault) (s' : Connection × List Break) : Prop :=
  s'.1 = s.1 ∧ s.2 = s'.2.map Break.fault

/-- **An exchange of messages**, over HTTP. -/
theorem alike_overHttp (wraps : Wraps wrap) (cuts : Post → Nat → Nat)
    {s : Connection × List Fault} {s' : Connection × List Break} {p : Post}
    (breaks : Breaks s s') (known : p.IsKnown) (fits : PostFits prims s p) :
    Alike SameLoss (faulty prims s p).1 (overHttp prims wrap cuts s' p).1 ∧
      Breaks (faulty prims s p).2 (overHttp prims wrap cuts s' p).2 := by
  obtain ⟨c, faults⟩ := s
  obtain ⟨c', pending⟩ := s'
  obtain ⟨rfl, rfl⟩ := breaks
  obtain ⟨short, shortAnswer⟩ := fits
  have next : (pending.map Break.fault).headD .none = (pending.headD .none).fault := by
    cases pending <;> rfl
  have rest : (pending.map Break.fault).tail = pending.tail.map Break.fault := by
    cases pending <;> rfl
  have whole : c'.serve prims wrap p.bytes =
      (wrap (c'.answer prims p).1, (c'.answer prims p).2) := by
    rw [Connection.serve, readPost_bytes known short]
  simp only [faulty, overHttp, next, rest]
  cases pending.headD .none with
  | none =>
    simp only [Break.fault, Break.request, whole]
    rw [Break.answer, recvPost_wrap wraps shortAnswer (cuts p)]
    · exact ⟨.ok _, rfl, rfl⟩
    · intro n same
      cases same
  | inRequest n =>
    have unread : c'.serve prims wrap (partOf n p.bytes) = ([], c') := by
      rw [Connection.serve, readPost_part known short]
    simp only [Break.fault, Break.request, Break.answer, unread, recvPost_nil]
    exact ⟨.error (Or.inl rfl), rfl, rfl⟩
  | inAnswer n =>
    obtain ⟨e, failed, loss⟩ := recvPost_part wraps shortAnswer (cuts p) n
    simp only [Break.fault, Break.request, Break.answer, whole, failed]
    exact ⟨.error loss, rfl, rfl⟩

end Exchanges

/-! ## The flows -/

section Flows

variable {prims : Primitives} {wrap : List UInt8 → List UInt8}

theorem isKnown_setup (body : List UInt8) : (⟨"/pair-setup", body⟩ : Post).IsKnown :=
  Or.inl rfl

theorem isKnown_verify (body : List UInt8) : (⟨"/pair-verify", body⟩ : Post).IsKnown :=
  Or.inr rfl

theorem direct_pairSetupSrp {ok : Post → Prop} (setup : ∀ body, ok ⟨"/pair-setup", body⟩)
    (pin : String) (transient : Bool) (a : Nat) :
    Direct ok (pairSetupSrp prims pin transient a) := by
  apply direct_query (setup _)
  intro m2Data
  apply direct_lift
  intro m2
  apply direct_lift
  intro client
  apply direct_query (setup _)
  intro m4Data
  apply direct_lift
  intro _
  exact direct_pure _

theorem direct_pairSetup (pin : String) (a : Nat) (clientLtsk : Key)
    (clientPairingId : List Char) :
    Direct Post.IsKnown (pairSetup prims pin a clientLtsk clientPairingId) := by
  apply direct_bind (direct_pairSetupSrp isKnown_setup pin false a)
  intro sessionKey
  apply direct_query (isKnown_setup _)
  intro m6Data
  apply direct_lift
  intro _
  exact direct_pure _

theorem direct_pairVerify (paired : PairedDevice) (clientSecret : Key) :
    Direct Post.IsKnown (pairVerify prims paired clientSecret) := by
  apply direct_query (isKnown_verify _)
  intro m2Data
  apply direct_lift
  intro _
  apply direct_query (isKnown_verify _)
  intro m4Data
  apply direct_lift
  intro _
  exact direct_pure _

/-- The flow comes to the same over HTTP, with any accessory, wherever the connection breaks
and however the responses are cut into reads. -/
def SameOverHttp {α : Type} (prims : Primitives) (wrap : List UInt8 → List UInt8)
    (flow : Pairing α) : Prop :=
  ∀ (c : Connection) (breaks : List Break) (cuts : Post → Nat → Nat),
    Along (faulty prims) (PostFits prims) flow (c, breaks.map Break.fault) →
      let messages := run (faulty prims) flow (c, breaks.map Break.fault)
      let bytes := run (overHttp prims wrap cuts) flow (c, breaks)
      Alike SameLoss messages.result bytes.result ∧ messages.asked = bytes.asked ∧
        bytes.peer.1 = messages.peer.1

theorem sameOverHttp_of_direct {α : Type} {flow : Pairing α} (wraps : Wraps wrap)
    (direct : Direct Post.IsKnown flow) : SameOverHttp prims wrap flow := by
  intro c breaks cuts fits
  have start : Breaks (c, breaks.map Break.fault) (c, breaks) := ⟨rfl, rfl⟩
  have step : ∀ s s' p, Breaks s s' → p.IsKnown → PostFits prims s p →
      Alike SameLoss (faulty prims s p).1 (overHttp prims wrap cuts s' p).1 ∧
        Breaks (faulty prims s p).2 (overHttp prims wrap cuts s' p).2 :=
    fun _ _ _ => alike_overHttp wraps cuts
  have refl : ∀ e, SameLoss e e := fun _ => Or.inl rfl
  obtain ⟨results, asked, ended⟩ := run_alike refl step direct fits start
  exact ⟨results, asked, ended.1⟩

end Flows

/-! ## Plain responses -/

def okLines : List (List Char) :=
  ["HTTP/1.1 200 OK".toList, "Content-Type: application/octet-stream".toList]

/-- A response with the code 200. -/
def okResponse (body : List UInt8) : List UInt8 :=
  headerFormat (okLines ++ [lengthLine body.length]) ++ body

theorem wraps_okResponse : Wraps okResponse := by
  intro body fits
  have isLine : ∀ line ∈ okLines, Text.IsLine line := by
    have allLines : okLines.all (fun line =>
      ! line.isEmpty && line.all fun c => c != '\r' && c != '\n') = true := by decide
    exact fun line mem => Text.isLine_of_all (List.all_eq_true.mp allLines line mem)
  have others : ∀ line ∈ okLines, DeclaresNone line := by decide
  have first : (Text.lines (Text.crlf.intercalate (okLines ++ [lengthLine body.length]))).head? =
      some "HTTP/1.1 200 OK".toList := by
    rw [Text.lines_intercalate]
    · rfl
    · intro line mem
      rcases List.mem_append.mp mem with mem | mem
      · exact isLine line mem
      · rw [List.mem_singleton.mp mem]
        exact isLine_lengthLine _
  refine ⟨_, ⟨?_, fun code read => ?_⟩, isMessage_of_lines isLine others fits⟩
  · intro empty
    have none : Text.crlf.intercalate (okLines ++ [lengthLine body.length]) = [] := by
      rw [← Utf8.decodeLossy_encode (Text.crlf.intercalate _), empty, Utf8.decodeLossy_nil]
    rw [none] at first
    cases first
  · have code200 : (Text.words isWhitespace "HTTP/1.1 200 OK".toList)[1]?.bind
        (Text.parseUnsigned 10 UInt16.size) = some 200 := by decide
    rw [Utf8.decodeLossy_encode, codeOf, first, Option.bind_some, code200] at read
    cases read
    decide

/-- The records of a value that is cut into pieces. -/
theorem length_records_chunks_le (tag : UInt8) (l : List UInt8) :
    (((Tagged.chunks 255 l).map fun v => (⟨tag, v⟩ : Tlv8Item)).flatMap Tlv8.record).length ≤
      3 * l.length := by
  induction measured : l.length using Nat.strongRecOn generalizing l with
  | ind n ih =>
    subst measured
    by_cases empty : l = []
    · rw [empty, Tagged.chunks_nil]
      exact Nat.zero_le _
    · have some : 0 < l.length := List.length_pos_iff.mpr empty
      have rest := ih (l.drop 255).length (by rw [List.length_drop]; omega) (l.drop 255) rfl
      rw [List.length_drop] at rest
      rw [Tagged.chunks_of_ne_nil (by decide) empty, List.map_cons, List.flatMap_cons,
        List.length_append, Tlv8.length_record, List.length_take]
      omega

/-- What is encoded is at most three times as long, and two bytes for each item. -/
theorem length_encode_le (items : List Tlv8Item) :
    (Tlv8.encode items).length ≤ (items.map fun item => 3 * item.value.length + 2).sum := by
  rw [Tlv8.encode_eq]
  induction items with
  | nil => exact Nat.zero_le _
  | cons item items ih =>
    rw [List.flatMap_cons, List.flatMap_append, List.length_append, List.map_cons, List.sum_cons]
    have one : ((Tagged.fragments 255 item).flatMap Tlv8.record).length ≤
        3 * item.value.length + 2 := by
      rw [Tagged.fragments]
      split_ifs with empty
      · rw [List.flatMap_singleton, Tlv8.length_record]
        omega
      · exact (length_records_chunks_le item.tag item.value).trans (Nat.le_add_right _ _)
    exact Nat.add_le_add one ih

end OpenPlay.Airplay.HapPairing
