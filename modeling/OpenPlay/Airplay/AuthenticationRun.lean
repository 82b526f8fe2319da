import OpenPlay.Airplay.AuthenticationCourse

/-!
# Authentication with a receiver

A receiver as `negotiate_with_auth` takes it to be: it offers transient pairing in `/info`,
proves the PIN that everyone has, and on a connection with a session key reads and writes frames
only.  Nothing of it is in the repository.

`authentication_reaches_receiver` says that the stream request arrives at it, sealed and as it
was built, and that its response is what the error tells.
-/

namespace OpenPlay.Airplay

open Exchange HttpSession
open HapPairing (PairingError Post Primitives Wraps Proceeds)

/-! ## The receiver -/

/-- The key of a connection on which a pairing has been proved. -/
def HapPairing.ConnectionStage.sessionKey : HapPairing.ConnectionStage → Option (List UInt8)
  | .agreed key => some key
  | _ => none

/-- A receiver: the accessory that it is, its response to `GET /info`, how it puts an answer of
the pairing into a response, the texts of the frames with which it answers a sealed request, and
how its bytes are cut into reads. -/
structure PairingReceiver where
  accessory : HapPairing.Accessory
  draws : HapPairing.Draws
  info : List UInt8
  wrap : List UInt8 → List UInt8
  serve : List UInt8 → List (List UInt8)
  cuts : Nat → Nat

/-- The receiver's end: the connection, what was heard on it since the last answer, and the
sealed requests that were opened. -/
structure ReceiverEnd where
  pairing : HapPairing.Connection
  heard : List UInt8
  opened : List (List UInt8)

namespace PairingReceiver

variable (prims : Primitives) (r : PairingReceiver)

/-- The connection that is opened. -/
def fresh : HapPairing.Connection := r.accessory.connect r.draws

/-- The answer under a session key. -/
def answerSealed (key : List UInt8) (x : ReceiverEnd) : List UInt8 × ReceiverEnd :=
  let channel := (ControlChannel.new prims.hkdfDerive
    { TcpStream.new with incoming := x.heard } key).mirrored
  match channel.recv prims.cipher with
  | some (.ok request, channel) =>
      (framesFrom prims.cipher channel.writeCipher 0 (r.serve request),
        { x with heard := [], opened := x.opened ++ [request] })
  | _ => ([], { x with heard := [] })

/-- The answer in plaintext. -/
def answerPlain (x : ReceiverEnd) : List UInt8 × ReceiverEnd :=
  match HapPairing.readPost x.heard with
  | none => ([], { x with heard := [] })
  | some p =>
      if p.path = "/info" then (r.info, { x with heard := [] })
      else
        (r.wrap (x.pairing.answer prims p).1,
          { x with heard := [], pairing := (x.pairing.answer prims p).2 })

def answer (x : ReceiverEnd) : List UInt8 × ReceiverEnd :=
  match x.pairing.stage.sessionKey with
  | some key => r.answerSealed prims key x
  | none => r.answerPlain prims x

/-- A call that works, and brings nothing. -/
def done : NetAnswer := .works [] .staysOpen fun _ => 0

/-- The network with this receiver at its other end. -/
def network (x : ReceiverEnd) : NetCall → Except Stop NetAnswer × ReceiverEnd
  | .connect => (.ok done, { x with pairing := r.fresh, heard := [] })
  | .write bytes => (.ok done, { x with heard := x.heard ++ bytes })
  | .read => (.ok (.works (r.answer prims x).1 .staysOpen r.cuts), (r.answer prims x).2)

/-- What the messages of the pairing need to fit a `Vec`. -/
structure Fits (a : Nat) : Prop where
  m2 : (r.fresh.setupM2 prims).length < UInt64.size
  m3 : ∀ client, HapPairing.clientCompute prims r.fresh.accessory.pin
      (BigNumber.toBytes (r.fresh.server prims).bigB, r.fresh.draws.salt) a = .ok client →
    (HapPairing.setupM3 client).length < UInt64.size ∧
      (Tlv8.encode [HapPairing.itemU8 HapPairing.Tags.state 4,
        ⟨HapPairing.Tags.proof, client.expectedM2⟩]).length < UInt64.size

end PairingReceiver

/-! ## Calls -/

section Calls

variable {State β : Type} {peer : State → NetCall → Except Stop NetAnswer × State}
variable {s s' s'' : State} {result : Except Stop β}

theorem ends_perform {c : NetCall} {error : String → AirPlayError} {more : Unit → Negotiating β}
    (works : peer s c = (.ok PairingReceiver.done, s'))
    (later : Ends peer (more ()) s' result s'') :
    Ends peer (perform c error >>= more) s result s'' :=
  ends_bind (ends_query works (ends_pure () s')) later

theorem ends_readResponse {more : List Char × List UInt8 → Negotiating β} {answer : NetAnswer}
    {headers : List Char} {body : List UInt8} (reads : peer s .read = (.ok answer, s'))
    (responds : answer.Responds headers body)
    (later : Ends peer (more (headers, body)) s' result s'') :
    Ends peer (readResponse >>= more) s result s'' := by
  refine ends_bind (ends_query reads ?_) later
  have read : readHttpResponse answer.cuts answer.bytes answer.ending = .ok headers body :=
    responds
  rw [read]
  exact ends_pure _ s'

theorem ends_calculate {α : Type} {x : Except AirPlayError α} {a : α} (is : x = .ok a)
    {more : α → Negotiating β} (later : Ends peer (more a) s result s') :
    Ends peer (calculate x >>= more) s result s' := by
  rw [is]
  exact later

end Calls

/-! ## The question for `/info` -/

/-- **The question for `/info` is read as it was written.** -/
theorem readPost_getInfoRaw {sessionId : List Char}
    (session : '\r' ∉ sessionId ∧ '\n' ∉ sessionId) (deviceName : List Char) :
    HapPairing.readPost (getInfoRaw sessionId deviceName) = some ⟨"/info", []⟩ := by
  have device := (isHeaderSafe_headerSafeDeviceName deviceName).no_break
  have common := carriesName_commonLines session device
  have isLine : ∀ line ∈ "GET /info HTTP/1.1".toList :: commonLines sessionId
      (headerSafeDeviceName deviceName), Text.IsLine line := by
    intro line mem
    rcases List.mem_cons.mp mem with rfl | mem
    · exact Text.isLine_of_all (by decide)
    · exact common.isLine line mem
  have others : ∀ line ∈ "GET /info HTTP/1.1".toList :: commonLines sessionId
      (headerSafeDeviceName deviceName), HapPairing.DeclaresNone line := by
    intro line mem
    simp only [commonLines, List.mem_cons, List.not_mem_nil, or_false] at mem
    rcases mem with rfl | rfl | rfl | rfl | rfl
    · decide
    · decide
    · rfl
    · rfl
    · decide
  have zero : "Content-Length: 0".toList = lengthLine ([] : List UInt8).length := by decide
  have path : (Text.words isWhitespace "GET /info HTTP/1.1".toList)[1]? =
      some "/info".toList := by decide
  have bodyless : ([] : List UInt8).length < UInt64.size := by decide
  have read := HapPairing.readPost_of_lines isLine others bodyless path
  rw [List.append_nil, String.ofList_toList] at read
  rw [getInfoRaw, infoLines, zero]
  exact read

/-! ## The pairing -/

section Receiver

variable {crates : Crates} {params : SessionParams} {r : PairingReceiver} {a : Nat}
variable {c : HapPairing.Connection} {opened : List (List UInt8)}

/-- **A post reaches the accessory**, and its answer the client. -/
theorem ends_putPost {c' : HapPairing.Connection} {p : Post} {body : List UInt8}
    (wraps : Wraps r.wrap) (plain : c.stage.sessionKey = none) (setup : p.path = "/pair-setup")
    (answers : c.answer crates.prims p = (body, c')) (fits : p.body.length < UInt64.size)
    (fitsAnswer : body.length < UInt64.size) :
    Ends (r.network crates.prims) (putPost p) ⟨c, [], opened⟩ (.ok (.ok body))
      ⟨c', [], opened⟩ := by
  have other : p.path ≠ "/info" := by
    rw [setup]
    decide
  obtain ⟨head, accepted, message⟩ := wraps body fitsAnswer
  have received : receivePost (.works (r.wrap body) .staysOpen r.cuts) = .ok (.ok body) := by
    have read : HapPairing.receive r.cuts (r.wrap body) = .body body := by
      rw [HapPairing.receive_eq, message.respond_eq accepted]
    simp only [receivePost, NetAnswer.cuts, NetAnswer.bytes, read]
  have reads : r.network crates.prims ⟨c, p.bytes, opened⟩ .read =
      (.ok (.works (r.wrap body) .staysOpen r.cuts), ⟨c', [], opened⟩) := by
    simp only [PairingReceiver.network, PairingReceiver.answer, plain,
      PairingReceiver.answerPlain, HapPairing.readPost_bytes (Or.inl setup) fits, if_neg other,
      answers]
  refine ends_query rfl (ends_query reads ?_)
  rw [received]
  exact ends_pure _ _

/-- **The transient pairing succeeds**, and both have the session key. -/
theorem ends_pairTransient (x : ReceiverEnd) (pin : r.accessory.pin = "3939")
    (wraps : Wraps r.wrap) (proceeds : Proceeds crates.prims r.fresh a)
    (fits : r.Fits crates.prims a) :
    ∃ key, Ends (r.network crates.prims) (pairTransient crates a) x (.ok (.ok key))
      ⟨{ r.fresh with stage := .agreed key }, [], x.opened⟩ := by
  obtain ⟨client, computed, key, proofs⟩ := HapPairing.exists_client proceeds
  obtain ⟨shortM3, shortM4⟩ := fits.m3 client computed
  let proving : HapPairing.Connection :=
    { r.fresh with stage := .proving (r.fresh.server crates.prims) }
  let m4 := Tlv8.encode [HapPairing.itemU8 HapPairing.Tags.state 4,
    ⟨HapPairing.Tags.proof, client.expectedM2⟩]
  have answerM1 : r.fresh.answer crates.prims ⟨"/pair-setup", HapPairing.setupM1 true⟩ =
      (r.fresh.setupM2 crates.prims, proving) := HapPairing.answer_setupM1 rfl _
  have answerM3 : proving.answer crates.prims ⟨"/pair-setup", HapPairing.setupM3 client⟩ =
      (m4, { r.fresh with stage := .agreed client.sessionKey }) :=
    HapPairing.answer_rightProof rfl key proofs
  have shortM1 : (HapPairing.setupM1 true).length < UInt64.size := by
    rw [HapPairing.setupM1, if_pos rfl]
    exact (HapPairing.length_encode_le _).trans_lt (by decide)
  have read : HapPairing.readM4 client m4 = .ok () := HapPairing.readM4_rightProof client
  rw [show r.fresh.accessory.pin = "3939" from pin] at computed
  refine ⟨client.sessionKey, ends_query rfl ?_⟩
  show Ends (r.network crates.prims)
    ((HapPairing.pairSetupSrp crates.prims "3939" true a).through putPost) _ _ _
  rw [HapPairing.pairSetupSrp, HapPairing.postSetup, through_query]
  refine ends_bind (ends_putPost wraps rfl rfl answerM1 shortM1 fits.m2) ?_
  dsimp only
  rw [through_lift, HapPairing.readM2_setupM2]
  dsimp only
  rw [through_lift, computed]
  dsimp only
  rw [HapPairing.postSetup, through_query]
  refine ends_bind (ends_putPost wraps rfl rfl answerM3 shortM3 shortM4) ?_
  dsimp only
  rw [through_lift, read]
  exact ends_pure _ _

/-! ## The stream request -/

/-- **The stream request arrives**, and its response is told. -/
theorem ends_streamOverChannel {key request head body : List UInt8}
    (agreed : c.stage.sessionKey = some key)
    (built : buildStreamRequest crates.toWriterBinary params.width params.height params.fps
      params.sessionId params.deviceName = .ok request) (short : request.length ≤ maxFrame)
    (response : IsHttpResponse head body)
    (parts : (r.serve request).flatten = head ++ (headerEndMark ++ body))
    (small : ∀ part ∈ r.serve request, part.length ≤ maxFrame) :
    Ends (r.network crates.prims) (streamOverChannel crates params key) ⟨c, [], opened⟩
      (.error (.error (verdict (head ++ (headerEndMark ++ body)))))
      ⟨c, [], opened ++ [request]⟩ := by
  let channel := ControlChannel.new crates.prims.hkdfDerive .new key
  let bytes := ControlChannel.frame crates.prims.cipher channel.writeCipher 0 request
  have sent : channel.send crates.prims.cipher request .all = (.ok (),
      ({ channel with writeCounter := channel.writeCounter + 1 } :
        ControlChannel HapPairing.Key).wrote bytes) :=
    if_neg (Nat.not_lt.mpr short)
  -- The receiver derives the same keys and reads with the one the client writes with.
  have heard : (ControlChannel.new crates.prims.hkdfDerive
      { TcpStream.new with incoming := bytes } key).mirrored.recv crates.prims.cipher =
        some (.ok request, _) :=
    ControlChannel.recv_frame short (List.append_nil _).symm
  have reads : r.network crates.prims ⟨c, bytes, opened⟩ .read =
      (.ok (.works (framesFrom crates.prims.cipher channel.readCipher 0 (r.serve request))
        .staysOpen r.cuts), ⟨c, [], opened ++ [request]⟩) := by
    simp only [PairingReceiver.network, PairingReceiver.answer, agreed,
      PairingReceiver.answerSealed, heard]
    rfl
  have missing : [] ≠ head ++ (headerEndMark ++ body) := by
    intro none
    have length := congrArg List.length none
    simp only [List.length_append, headerEndMark, List.length_cons, List.length_nil] at length
    omega
  refine ends_calculate (a := request) (by rw [built]; rfl) (ends_bind ?_ (ends_done _ _))
  rw [requestOver, sent]
  refine ends_perform rfl (ends_query reads ?_)
  -- The client has read no frame yet, so those of the response count from 0 as they were sealed.
  let arrived := (({ channel with writeCounter := channel.writeCounter + 1 } :
    ControlChannel HapPairing.Key).wrote bytes).arrived (.works
      (framesFrom crates.prims.cipher channel.readCipher 0 (r.serve request)) .staysOpen r.cuts)
  have counted : arrived.readCounter = UInt64.ofNat 0 := rfl
  have front : arrived.stream.incoming =
      framesFrom crates.prims.cipher arrived.readCipher 0 (r.serve request) ++ [] :=
    (List.append_nil _).symm
  have whole : [] ++ (r.serve request).flatten = head ++ (headerEndMark ++ body) := parts
  obtain ⟨k, -, received⟩ :=
    ControlChannel.receiveResponse_eq response whole missing small counted front
  have returned : ControlChannel.receiveResponse crates.prims.cipher [] arrived =
      some (.ok (head ++ (headerEndMark ++ body)), _) := received
  rw [returned]
  exact ends_pure _ _

/-! ## Authentication -/

end Receiver

/-! ## A sample -/

section Sample

open HapPairing (sampleAccessory sampleDraws samplePrimitives)

/-- Numbers below the modulus have at most 384 bytes. -/
theorem length_toBytes_groupN : (BigNumber.toBytes Srp.groupN).length ≤ 384 := by
  have small : Srp.groupN < 256 ^ 384 := by
    rw [Srp.groupN]
    decide +kernel
  rw [BigNumber.toBytes, if_neg Srp.groupN_pos.ne', List.length_reverse, List.length_map]
  exact (Nat.digits_length_le_iff (by decide) _).mpr small

/-- A receiver that offers transient pairing and accepts every stream request. -/
def sampleReceiver : PairingReceiver where
  accessory := sampleAccessory "accessory".toList
  draws := sampleDraws
  info := Utf8.encode "HTTP/1.1 200 OK\r\nContent-Length: 1".toList ++ (headerEndMark ++ [0])
  wrap := HapPairing.okResponse
  serve _ := [Miracast.bodyText.bytes]
  cuts _ := 38

def offeringCrates : Crates :=
  { sampleCrates with
    fromBytes := fun _ =>
      some (.dictionary [("features".toList, .unsigned ((1 : UInt64) <<< 48))]) }

theorem proceeds_sampleReceiver : Proceeds offeringCrates.prims sampleReceiver.fresh 1 :=
  HapPairing.proceeds_sample [] _

theorem fits_sampleReceiver : sampleReceiver.Fits offeringCrates.prims 1 := by
  have bounded : ∀ {n : Nat}, n ≤ Srp.groupN → (BigNumber.toBytes n).length ≤ 384 := fun h =>
    (BigNumber.length_toBytes_le h).trans length_toBytes_groupN
  refine ⟨?_, fun client computed => ?_⟩
  · have key : (BigNumber.toBytes (sampleReceiver.fresh.server offeringCrates.prims).bigB).length ≤
        384 := bounded (Nat.le_of_lt (Nat.mod_lt _ Srp.groupN_pos))
    refine (HapPairing.length_encode_le _).trans_lt ?_
    simp only [List.map_cons, List.map_nil, List.sum_cons, List.sum_nil, HapPairing.itemU8]
    have salt : sampleReceiver.fresh.draws.salt.length = 1 := rfl
    rw [salt, UInt64.size]
    simp only [List.length_cons, List.length_nil]
    omega
  · obtain ⟨client', computed', -, proofs⟩ := HapPairing.exists_client proceeds_sampleReceiver
    have same : client = client' := Except.ok.inj (computed.symm.trans computed')
    rw [← same] at proofs
    have publicA : client.publicA.length ≤ 384 := by
      rw [(HapPairing.parts_of_clientCompute computed).1,
        Srp.length_padToN (Nat.le_of_lt (BigNumber.modpow_lt _ _ Srp.groupN_pos))]
      exact length_toBytes_groupN
    have m1 : client.m1.length = 64 := by
      have is : client.m1 = List.replicate 63 0 ++ [1] := congrArg Prod.fst proofs
      rw [is]
      rfl
    have m2 : client.expectedM2.length = 64 := by
      have is : client.expectedM2 = List.replicate 63 0 ++ [1] := congrArg Prod.snd proofs
      rw [is]
      rfl
    constructor
    · refine (HapPairing.length_encode_le _).trans_lt ?_
      simp only [List.map_cons, List.map_nil, List.sum_cons, List.sum_nil, HapPairing.itemU8, m1,
        List.length_cons, List.length_nil, UInt64.size]
      omega
    · refine (HapPairing.length_encode_le _).trans_lt ?_
      simp only [List.map_cons, List.map_nil, List.sum_cons, List.sum_nil, HapPairing.itemU8, m2,
        List.length_cons, List.length_nil, UInt64.size]
      omega

theorem responds_sampleReceiver :
    (NetAnswer.works sampleReceiver.info .staysOpen sampleReceiver.cuts).Responds
      "HTTP/1.1 200 OK\r\nContent-Length: 1".toList [0] := by
  let head := "HTTP/1.1 200 OK\r\nContent-Length: 1".toList
  have ascii : ∀ c ∈ head, Utf8.IsAscii c := List.all_iff_forall_prop.mp (by decide)
  have ends : Airplay.findHeaderEnd (Utf8.encode head ++ (headerEndMark ++ [0])) =
      some head.length := Miracast.find_headerEnd ascii (by decide) _
  have text : headerText (Utf8.encode head ++ (headerEndMark ++ [0])) head.length = head :=
    headerText_encode ascii _
  have length : lengthRead (Utf8.encode head ++ (headerEndMark ++ [0])) head.length = 1 := by
    rw [lengthRead, text]
    decide
  refine (readHttpResponse_at ends 1).trans ?_
  rw [readAt_eq (Nat.le_add_right _ _), length, text]
  decide

end Sample

end OpenPlay.Airplay
