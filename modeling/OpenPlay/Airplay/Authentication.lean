import OpenPlay.Airplay.AirPlaySession
import OpenPlay.Airplay.ControlRequest
import OpenPlay.Airplay.Features
import OpenPlay.Airplay.PairingHttp

/-!
# Negotiation and authentication

The second step of `run_session` of `openplay-airplay`'s `session.rs`: `negotiate` of
`http_session.rs`, and `negotiate_with_auth` behind a refusal that asks for it.  They talk to
the network by three calls (`NetCall`), and whoever answers is not part of them.

Authentication returns no stream in any case: what it comes to is the text of an error.
-/

namespace OpenPlay.Airplay

open Exchange HttpSession
open HapPairing (PairingError Post Primitives)

/-! ## The network -/

inductive NetCall
  /-- Opens a connection, in place of the one that there was. -/
  | connect
  | write (bytes : List UInt8)
  /-- Waits for an answer. -/
  | read
deriving DecidableEq

/-- What comes of a call: for a read the bytes that are there until something is written
again, what is behind them, and how they are cut into reads. -/
inductive NetAnswer
  | works (bytes : List UInt8) (ending : Ending) (cuts : Nat → Nat)
  | fails (e : String)

def NetAnswer.bytes : NetAnswer → List UInt8
  | works bytes _ _ => bytes
  | fails _ => []

def NetAnswer.ending : NetAnswer → Ending
  | works _ ending _ => ending
  | fails e => .fails e

def NetAnswer.cuts : NetAnswer → Nat → Nat
  | works _ _ cuts => cuts
  | fails _ => fun _ => 0

/-- A function returns an error, panics, or waits for ever. -/
inductive Stop
  | error (e : AirPlayError)
  | panics
  | waits
deriving DecidableEq

/-- A part of the negotiation. -/
abbrev Negotiating (α : Type) := Program NetCall NetAnswer Stop α

def stop {α : Type} (e : AirPlayError) : Negotiating α := .done (.error (.error e))

/-- A calculation that may fail. -/
def calculate {α : Type} (x : Except AirPlayError α) : Negotiating α :=
  liftM (x.mapError Stop.error)

/-- A call of which only a failure matters. -/
def perform (c : NetCall) (error : String → AirPlayError) : Negotiating Unit := do
  match ← Program.query c with
  | .works _ _ _ => pure ()
  | .fails e => stop (error e)

/-- `read_http_response`. -/
def readResponse : Negotiating (List Char × List UInt8) := do
  let answer ← Program.query .read
  match readHttpResponse answer.cuts answer.bytes answer.ending with
  | .ok headers body => pure (headers, body)
  | .error e => stop (.http e.text.toList)
  | .waiting => .done (.error .waits)
  | .capacityOverflow => .done (.error .panics)

/-! ## `GET /info` -/

structure ServerInfo where
  model : List Char
  deviceName : List Char
  features : AirPlayFeatures
  sourceVersion : List Char
  macAddress : List Char
deriving DecidableEq

/-- `ServerInfo::default`. -/
def ServerInfo.default : ServerInfo := ⟨[], [], .default, [], []⟩

/-- A property list, as far as `as_dictionary` tells. -/
inductive InfoPlist
  | dictionary (entries : List (List Char × InfoValue))
  | other

/-- `get_str`. -/
def getStr (entries : List (List Char × InfoValue)) (key : String) : List Char :=
  match entries.lookup key.toList with
  | some (.string text) => text
  | _ => []

/-- `parse_info_response`, with `plist::from_bytes`. -/
def parseInfoResponse (fromBytes : List UInt8 → Option InfoPlist) (body : List UInt8) :
    Except AirPlayError ServerInfo :=
  if body = [] then .ok .default
  else
    match fromBytes body with
    | none => .ok .default
    | some .other => .error (.plist "Expected dictionary in /info response".toList)
    | some (.dictionary entries) => .ok {
        model := getStr entries "model"
        deviceName := getStr entries "deviceName"
        features := infoFeatures (entries.lookup "features".toList)
        sourceVersion := getStr entries "sourceVersion"
        macAddress := getStr entries "macAddress" }

/-- `supports_transient_pairing`: bit 48. -/
def AirPlayFeatures.supportsTransientPairing (f : AirPlayFeatures) : Bool :=
  f.raw &&& ((1 : UInt64) <<< 48) ≠ 0

/-! ## Negotiation -/

structure SessionParams where
  width : UInt32
  height : UInt32
  fps : UInt32
  sessionId : List Char
  deviceName : List Char

/-- What the negotiation uses of other crates: the reader and the writer of property lists,
and the primitives of the pairing. -/
structure Crates where
  fromBytes : List UInt8 → Option InfoPlist
  toWriterBinary : WriterBinary
  prims : Primitives

section Negotiation

variable (crates : Crates) (params : SessionParams)

/-- The error of a request for `/info`. -/
def infoError (e : String) : AirPlayError := .http s!"Failed to send GET /info: {e}".toList

/-- The pieces of `POST /stream`, one after the other. -/
def writePieces : List (String × List UInt8) → Negotiating Unit
  | [] => pure ()
  | (name, bytes) :: rest => do
      perform (.write bytes) fun e => .http s!"Failed to send POST /stream {name}: {e}".toList
      writePieces rest

/-- `post_stream`. -/
def postStreamOn : Negotiating Unit := do
  let pieces ← calculate ((postStream crates.toWriterBinary params.width params.height params.fps
    params.sessionId params.deviceName).mapError .plist)
  writePieces (["header", "body"].zip pieces)
  let (headers, _) ← readResponse
  match rejection headers with
  | some msg => stop (.negotiation msg)
  | none => pure ()

/-- `negotiate`, with the text of the address. -/
def negotiate (addr : String) : Negotiating ServerInfo := do
  perform .connect fun e => .connection s!"Failed to connect to {addr}: {e}".toList
  perform (.write (getInfo params.sessionId params.deviceName)) infoError
  let (_, body) ← readResponse
  let serverInfo ← calculate (parseInfoResponse crates.fromBytes body)
  postStreamOn crates params
  return serverInfo

/-! ## Authentication -/

/-- `recv_pair_setup` on what comes. -/
def receivePost (answer : NetAnswer) : Except Stop (Except PairingError (List UInt8)) :=
  match HapPairing.receive answer.cuts answer.bytes with
  | .body bytes => .ok (.ok bytes)
  | .failed e => .ok (.error (.text e))
  | .closed e _ =>
      match answer.ending with
      | .closes => .ok (.error (.text e))
      | .fails io => .ok (.error (.text io))
      | .staysOpen => .error .waits
  | .outOfRange => .error .panics

/-- `send_pair_setup` and `recv_pair_setup`. -/
def putPost (p : Post) : Negotiating (Except PairingError (List UInt8)) := do
  match ← Program.query (.write p.bytes) with
  | .fails e => pure (.error (.text e))
  | .works _ _ _ => do
      let answer ← Program.query .read
      liftM (receivePost answer)

/-- `pair_setup_transient`, with the connection that it opens. -/
def pairTransient (a : Nat) : Negotiating (Except PairingError (List UInt8)) := do
  match ← Program.query .connect with
  | .fails e => pure (.error (.text e))
  | .works _ _ _ => (HapPairing.pairSetupTransient crates.prims a).through putPost

/-- `Display` of an error of a pairing. -/
def pairingText : PairingError → String
  | .text e => e
  | .backOff retryAfter => HapPairing.backOffText retryAfter
  | .tlv e => e.text
  | .ed25519 => "signature error"
  | .panicked => ""

def encryptedError (e : String) : AirPlayError :=
  .negotiation s!"Encrypted POST /stream failed: {e}".toList

/-- The end of `negotiate_with_auth`: the error that says what came of the stream request. -/
def verdict (response : List UInt8) : AirPlayError :=
  if encryptedAccepts response then
    .negotiation ("Transient pairing and the encrypted control channel now succeed, but the " ++
      "mirror stream cannot yet send video over an encrypted connection. See the " ++
      "AirPlay status in docs/crypto.md.").toList
  else
    .negotiation ("POST /stream over the encrypted channel returned: ".toList ++
      statusLineOf (Utf8.decodeLossy response))

/-- A channel on which bytes have arrived. -/
def ControlChannel.arrived {Key : Type} (ch : ControlChannel Key) (answer : NetAnswer) :
    ControlChannel Key :=
  { ch with stream := { ch.stream with
      incoming := answer.bytes, ended := answer.ending ≠ .staysOpen } }

/-- `ControlChannel::request`, over the network. -/
def requestOver (channel : ControlChannel HapPairing.Key) (request : List UInt8) :
    Negotiating (List UInt8) :=
  match channel.send crates.prims.cipher request .all with
  | (.error e, _) => stop (encryptedError e.text)
  | (.ok (), channel) => do
      perform (.write channel.stream.written) encryptedError
      let answer ← Program.query .read
      match ControlChannel.receiveResponse crates.prims.cipher [] (channel.arrived answer) with
      | none => .done (.error .waits)
      | some (.error e, _) => stop (encryptedError e.text)
      | some (.ok response, _) => pure response

/-- `negotiate_with_auth` from the session key on. -/
def streamOverChannel (sessionKey : List UInt8) : Negotiating ServerInfo := do
  let channel := ControlChannel.new crates.prims.hkdfDerive .new sessionKey
  let request ← calculate ((buildStreamRequest crates.toWriterBinary params.width params.height
    params.fps params.sessionId params.deviceName).mapError .plist)
  let response ← requestOver crates channel request
  stop (verdict response)

/-- The text for a receiver without transient pairing. -/
def unsupportedText (model : List Char) : List Char :=
  let hint :=
    if "AppleTV3".toList.isPrefixOf model ∨ "AppleTV2".toList.isPrefixOf model then
      " Apple TV 2nd and 3rd generation need FairPlay, which OpenPlay does " ++
      "not implement and will not — see docs/crypto.md. Use a 4th generation " ++
      "or later, or an AirPlay-compatible smart TV."
    else ""
  model ++ (" does not advertise transient pairing support (feature bit 48), " ++
    "so the no-PIN handshake OpenPlay implements cannot authenticate to it." ++ hint).toList

/-- `negotiate_with_auth` behind the check of the features. -/
def pairAndStream (a : Nat) : Negotiating ServerInfo := do
  match ← pairTransient crates a with
  | .error .panicked => .done (.error .panics)
  | .error e => stop (.pairing s!"Transient pairing failed: {pairingText e}".toList)
  | .ok sessionKey => streamOverChannel crates params sessionKey

/-- `negotiate_with_auth`, with the private key of SRP that it draws. -/
def negotiateWithAuth (a : Nat) : Negotiating ServerInfo := do
  perform .connect fun e => .connection s!"Failed to connect: {e}".toList
  perform (.write (getInfoRaw params.sessionId params.deviceName)) infoError
  let (_, body) ← readResponse
  let serverInfo ← calculate (parseInfoResponse crates.fromBytes body)
  if serverInfo.features.supportsTransientPairing then pairAndStream crates params a
  else stop (.pairing (unsupportedText serverInfo.model))

/-- The second step of `run_session`. -/
def negotiateSession (addr : String) (a : Nat) : Negotiating ServerInfo := do
  match ← (negotiate crates params addr).attempt with
  | .ok serverInfo => pure serverInfo
  | .error (.error (.negotiation msg)) =>
      if wantsAuthentication msg then negotiateWithAuth crates params a
      else stop (.negotiation msg)
  | .error e => .done (.error e)

end Negotiation

end OpenPlay.Airplay
