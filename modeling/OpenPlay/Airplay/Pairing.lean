import OpenPlay.Airplay.ControlChannel
import OpenPlay.Airplay.Srp
import OpenPlay.Airplay.Tlv8
import OpenPlay.Foundation.Exchange

/-!
# Pairing

`pair_setup`, `pair_setup_transient` and `pair_verify` of `openplay-airplay`'s
`hap_pairing.rs`, as programs that post a message and wait for the answer
(`Exchange.Program`).  Whoever answers is not part of the program; what it draws from a
random source is an argument.

What a function does between two messages is one calculation: `readM2`, `readM4`,
`readM6` and their like say what is made of an answer, and are all that decides whether
the next message is sent.

The primitives come from other crates.  Of Ed25519 and X25519 they promise that what was
signed verifies and that the two sides of an exchange meet, of the cipher what `Aead` says.
-/

namespace OpenPlay.Airplay.HapPairing

open Tlv8 (Tlv8Item)

/-! ## The primitives -/

/-- `[u8; 32]`. -/
abbrev Key := { bytes : List UInt8 // bytes.length = 32 }

/-- `[u8; 64]`. -/
abbrev Signature := { bytes : List UInt8 // bytes.length = 64 }

/-- `ed25519_dalek`. -/
structure Ed25519 where
  verifyingKey : Key → Key
  sign : Key → List UInt8 → Signature
  /-- `VerifyingKey::from_bytes` accepts the bytes. -/
  isPoint : Key → Bool
  verify : Key → List UInt8 → Signature → Bool
  isPoint_verifyingKey : ∀ ltsk, isPoint (verifyingKey ltsk) = true
  verify_sign : ∀ ltsk msg, verify (verifyingKey ltsk) msg (sign ltsk msg) = true

/-- `x25519_dalek`. -/
structure X25519 where
  publicKey : Key → Key
  diffieHellman : Key → Key → Key
  meets : ∀ a b, diffieHellman a (publicKey b) = diffieHellman b (publicKey a)

structure Primitives where
  sha512 : List UInt8 → List UInt8
  /-- `hkdf_derive` of 32 bytes, the only length asked for, which always succeeds. -/
  hkdfDerive : (salt ikm info : List UInt8) → Key
  cipher : Aead Key
  ed25519 : Ed25519
  x25519 : X25519

/-! ## TLV items -/

namespace Tags

def method : UInt8 := 0x00
def identifier : UInt8 := 0x01
def salt : UInt8 := 0x02
def publicKey : UInt8 := 0x03
def proof : UInt8 := 0x04
def encryptedData : UInt8 := 0x05
def state : UInt8 := 0x06
def error : UInt8 := 0x07
def retryDelay : UInt8 := 0x08
def signature : UInt8 := 0x0A
def flags : UInt8 := 0x13

end Tags

/-- `methods::PAIR_SETUP`. -/
def pairSetupMethod : UInt8 := 0x00

namespace Errors

def none : UInt8 := 0x00
def unknown : UInt8 := 0x01
def authentication : UInt8 := 0x02
def backoff : UInt8 := 0x03
def maxPeers : UInt8 := 0x04
def maxTries : UInt8 := 0x05
def unavailable : UInt8 := 0x06
def busy : UInt8 := 0x07

end Errors

/-- `tlv8::item_u8`. -/
def itemU8 (tag value : UInt8) : Tlv8Item := ⟨tag, [value]⟩

/-- `tlv8::lookup`. -/
def lookup (items : List Tlv8Item) (tag : UInt8) : Option (List UInt8) :=
  (items.find? fun item => item.tag == tag).map Tagged.value

/-! ## Errors -/

/-- The ways to fail.  `panicked` is no error that a function returns. -/
inductive PairingError
  | text (e : String)
  | backOff (retryAfter : Option Nat)
  | tlv (e : Tlv8.DecodeError)
  | ed25519
  | panicked
deriving DecidableEq

/-- `Display` of `HapBackOff`. -/
def backOffText (retryAfter : Option Nat) : String :=
  "HAP back-off (kTLVError_BackOff 0x03): the receiver is rate-limiting pairing attempts" ++
    (match retryAfter with
    | some secs => " and asked to retry after " ++ toString secs ++ " s"
    | none => " and sent no kTLVType_RetryDelay") ++
    ". This is a retry-after, not an authentication failure — the PIN and keys are not " ++
    "implicated"

/-- `ok_or_else`. -/
def okOr {α : Type} (e : String) : Option α → Except PairingError α
  | none => .error (.text e)
  | some a => .ok a

/-- `try_into` an array of `n` bytes. -/
def tryInto (n : Nat) (e : String) (bytes : List UInt8) :
    Except PairingError { bytes : List UInt8 // bytes.length = n } :=
  if h : bytes.length = n then .ok ⟨bytes, h⟩ else .error (.text e)

/-- `tlv8::decode`. -/
def decode (data : List UInt8) : Except PairingError (List Tlv8Item) :=
  match Tlv8.decode data with
  | none => .error .panicked
  | some (.error e) => .error (.tlv e)
  | some (.ok items) => .ok items

/-- `check_state`. -/
def checkState (items : List Tlv8Item) (expected : UInt8) : Except PairingError Unit := do
  let state ← okOr "Missing state TLV" ((lookup items Tags.state).bind List.head?)
  if state ≠ expected then
    throw (.text ("Unexpected state: got " ++ toString state.toNat ++ ", expected " ++
      toString expected.toNat))

/-- `retry_delay_secs`. -/
def retryDelaySecs (items : List Tlv8Item) : Option Nat :=
  (lookup items Tags.retryDelay).bind fun raw =>
    if raw.isEmpty ∨ raw.length > 8 then none else some (FixedWidth.ofLe raw)

/-- What `check_error` calls a code. -/
def errorText (code : UInt8) : String :=
  if code = Errors.unknown then "Unknown error"
  else if code = Errors.authentication then "Authentication failed"
  else if code = Errors.maxPeers then "Maximum peers reached"
  else if code = Errors.maxTries then "Maximum tries reached"
  else if code = Errors.unavailable then "Resource unavailable"
  else if code = Errors.busy then "Device busy"
  else "Unknown HAP error"

/-- `check_error`. -/
def checkError (items : List Tlv8Item) : Except PairingError Unit :=
  match lookup items Tags.error with
  | none => .ok ()
  | some err =>
      match err.head? with
      | none => .ok ()
      | some code =>
          if code = Errors.none then .ok ()
          else if code = Errors.backoff then .error (.backOff (retryDelaySecs items))
          else
            .error (.text ("HAP error " ++ toString code.toNat ++ ": " ++ errorText code))

/-- What is done with every answer: its items, without an error and in the right state. -/
def readItems (expected : UInt8) (data : List UInt8) :
    Except PairingError (List Tlv8Item) := do
  let items ← decode data
  checkError items
  checkState items expected
  return items

/-! ## Posting -/

/-- A request to the accessory. -/
structure Post where
  path : String
  body : List UInt8
deriving DecidableEq

/-- A flow of pairing, on a connection that stands. -/
abbrev Pairing := Exchange.Program Post (List UInt8) PairingError

/-- `send_pair_setup` and `recv_pair_setup`. -/
def postSetup (body : List UInt8) : Pairing (List UInt8) :=
  Exchange.Program.query ⟨"/pair-setup", body⟩

/-- `send_pair_verify` and `recv_pair_verify`. -/
def postVerify (body : List UInt8) : Pairing (List UInt8) :=
  Exchange.Program.query ⟨"/pair-verify", body⟩

/-! ## Results -/

structure PairSetupResult where
  clientLtsk : Key
  clientLtpk : Key
  clientPairingId : List Char
  accessoryLtpk : Key
  accessoryId : List Char
deriving DecidableEq

structure PairedDevice where
  deviceId : List Char
  clientPairingId : List Char
  accessoryLtpk : Key
  clientLtsk : Key
  clientLtpk : Key
deriving DecidableEq

/-- `PairedDevice::from`. -/
def PairedDevice.from (result : PairSetupResult) : PairedDevice where
  deviceId := result.accessoryId
  clientPairingId := result.clientPairingId
  accessoryLtpk := result.accessoryLtpk
  clientLtsk := result.clientLtsk
  clientLtpk := result.clientLtpk

section Flows

variable (prims : Primitives)

/-! ## Pair-setup, M1 to M4 -/

def pairSetupUsername : String := "Pair-Setup"

/-- `FLAG_TRANSIENT`. -/
def flagTransient : UInt8 := 0x10

def setupM1 (transient : Bool) : List UInt8 :=
  if transient then
    Tlv8.encode [itemU8 Tags.state 1, itemU8 Tags.method pairSetupMethod,
      itemU8 Tags.flags flagTransient]
  else
    Tlv8.encode [itemU8 Tags.state 1, itemU8 Tags.method pairSetupMethod]

/-- The public key of the accessory and the salt. -/
def readM2 (data : List UInt8) : Except PairingError (List UInt8 × List UInt8) := do
  let m2 ← readItems 2 data
  let serverPk ← okOr "M2: missing server public key" (lookup m2 Tags.publicKey)
  let salt ← okOr "M2: missing salt" (lookup m2 Tags.salt)
  return (serverPk, salt)

/-- `srp::client_compute`. -/
def clientCompute (pin : String) (m2 : List UInt8 × List UInt8) (a : Nat) :
    Except PairingError Srp.ClientSession :=
  match Srp.clientCompute prims.sha512 pairSetupUsername pin m2.2 m2.1 a with
  | none => .error .panicked
  | some (.error e) => .error (.text e)
  | some (.ok client) => .ok client

def setupM3 (client : Srp.ClientSession) : List UInt8 :=
  Tlv8.encode [itemU8 Tags.state 3, ⟨Tags.publicKey, client.publicA⟩, ⟨Tags.proof, client.m1⟩]

/-- The proof of the accessory is the expected one. -/
def readM4 (client : Srp.ClientSession) (data : List UInt8) : Except PairingError Unit := do
  let m4 ← readItems 4 data
  let serverProof ← okOr "M4: missing server proof" (lookup m4 Tags.proof)
  if serverProof ≠ client.expectedM2 then
    throw (.text "Server proof verification failed")

/-- `pair_setup_srp`: the session key. -/
def pairSetupSrp (pin : String) (transient : Bool) (a : Nat) : Pairing (List UInt8) := do
  let m2Data ← postSetup (setupM1 transient)
  let m2 ← readM2 m2Data
  let client ← clientCompute prims pin m2 a
  let m4Data ← postSetup (setupM3 client)
  readM4 client m4Data
  return client.sessionKey

/-- `pair_setup_transient`: the session key. -/
def pairSetupTransient (a : Nat) : Pairing (List UInt8) :=
  pairSetupSrp prims "3939" true a

/-! ## Pair-setup, M5 and M6 -/

/-- `pairing_nonce`. -/
def pairingNonce (label : String) : List UInt8 := [0, 0, 0, 0] ++ Srp.asBytes label

/-- `iOSDeviceInfo = iOSDeviceX || iOSDevicePairingID || iOSDeviceLTPK`. -/
def deviceInfo (sessionKey clientPairingId clientLtpk : List UInt8) : List UInt8 :=
  (prims.hkdfDerive (Srp.asBytes "Pair-Setup-Controller-Sign-Salt") sessionKey
    (Srp.asBytes "Pair-Setup-Controller-Sign-Info")).1 ++
    clientPairingId ++ clientLtpk

/-- What the accessory signs in M6. -/
def accessoryInfo (sessionKey accessoryId accessoryLtpk : List UInt8) : List UInt8 :=
  (prims.hkdfDerive (Srp.asBytes "Pair-Setup-Accessory-Sign-Salt") sessionKey
    (Srp.asBytes "Pair-Setup-Accessory-Sign-Info")).1 ++
    accessoryId ++ accessoryLtpk

/-- The key of M5 and M6. -/
def setupKey (sessionKey : List UInt8) : Key :=
  prims.hkdfDerive (Srp.asBytes "Pair-Setup-Encrypt-Salt") sessionKey
    (Srp.asBytes "Pair-Setup-Encrypt-Info")

def setupM5SubTlv (sessionKey : List UInt8) (clientLtsk : Key) (clientPairingId : List Char) :
    List UInt8 :=
  let clientLtpk := prims.ed25519.verifyingKey clientLtsk
  Tlv8.encode [⟨Tags.identifier, Utf8.encode clientPairingId⟩, ⟨Tags.publicKey, clientLtpk.1⟩,
    ⟨Tags.signature, (prims.ed25519.sign clientLtsk
      (deviceInfo prims sessionKey (Utf8.encode clientPairingId) clientLtpk.1)).1⟩]

def setupM5 (sessionKey : List UInt8) (clientLtsk : Key) (clientPairingId : List Char) :
    List UInt8 :=
  Tlv8.encode [itemU8 Tags.state 5,
    ⟨Tags.encryptedData, prims.cipher.encrypt (setupKey prims sessionKey)
      (pairingNonce "PS-Msg05") [] (setupM5SubTlv prims sessionKey clientLtsk clientPairingId)⟩]

/-- Opens what came under `ENCRYPTED_DATA`. -/
def openData (key : Key) (label : String) (e : String) (data : List UInt8) :
    Except PairingError (List Tlv8Item) := do
  let plain ← okOr e (prims.cipher.decrypt key (pairingNonce label) [] data)
  decode plain

/-- `VerifyingKey::from_bytes`, `Signature::from_bytes` and `verify`. -/
def verify (ltpk : Key) (info sig : List UInt8) : Except PairingError Unit := do
  if prims.ed25519.isPoint ltpk = false then throw .ed25519
  let sig ← tryInto 64 "Invalid signature length" sig
  if prims.ed25519.verify ltpk info sig = false then throw .ed25519

/-- The identifier and the long-term key of the accessory, signed with the latter. -/
def readM6 (sessionKey data : List UInt8) : Except PairingError (List UInt8 × Key) := do
  let m6 ← readItems 6 data
  let encrypted ← okOr "M6: missing encrypted data" (lookup m6 Tags.encryptedData)
  let m6Sub ← openData prims (setupKey prims sessionKey) "PS-Msg06"
    "M6 decryption failed: aead::Error" encrypted
  let accessoryId ← okOr "M6: missing accessory ID" (lookup m6Sub Tags.identifier)
  let accessoryLtpk ← okOr "M6: missing accessory LTPK" (lookup m6Sub Tags.publicKey)
  let accessorySig ← okOr "M6: missing accessory signature" (lookup m6Sub Tags.signature)
  let accessoryPk ← tryInto 32 "Invalid accessory LTPK length" accessoryLtpk
  verify prims accessoryPk (accessoryInfo prims sessionKey accessoryId accessoryLtpk) accessorySig
  return (accessoryId, accessoryPk)

/-- `pair_setup_identity_exchange`. -/
def pairSetupIdentityExchange (sessionKey : List UInt8) (clientLtsk : Key)
    (clientPairingId : List Char) : Pairing PairSetupResult := do
  let m6Data ← postSetup (setupM5 prims sessionKey clientLtsk clientPairingId)
  let (accessoryId, accessoryPk) ← readM6 prims sessionKey m6Data
  return {
    clientLtsk := clientLtsk
    clientLtpk := prims.ed25519.verifyingKey clientLtsk
    clientPairingId := clientPairingId
    accessoryLtpk := accessoryPk
    accessoryId := Utf8.decodeLossy accessoryId }

/-- `pair_setup`, with the private key of SRP, the long-term key and the identifier that it
draws. -/
def pairSetup (pin : String) (a : Nat) (clientLtsk : Key) (clientPairingId : List Char) :
    Pairing PairSetupResult := do
  let sessionKey ← pairSetupSrp prims pin false a
  pairSetupIdentityExchange prims sessionKey clientLtsk clientPairingId

/-! ## Pair-verify -/

def verifyM1 (clientPublic : Key) : List UInt8 :=
  Tlv8.encode [itemU8 Tags.state 1, ⟨Tags.publicKey, clientPublic.1⟩]

/-- The key of M2 and M3, and of the session. -/
def verifyKey (sharedSecret : Key) : Key :=
  prims.hkdfDerive (Srp.asBytes "Pair-Verify-Encrypt-Salt") sharedSecret.1
    (Srp.asBytes "Pair-Verify-Encrypt-Info")

/-- What the accessory signs in M2. -/
def serverInfo (serverEpk serverId clientPublic : List UInt8) : List UInt8 :=
  serverEpk ++ serverId ++ clientPublic

/-- `iOSDeviceInfo = iOSDeviceEphemeralPK || iOSDevicePairingID || AccessoryEphemeralPK`. -/
def clientInfo (clientEpk clientPairingId accessoryEpk : List UInt8) : List UInt8 :=
  clientEpk ++ clientPairingId ++ accessoryEpk

/-- The ephemeral key of the accessory and the key of the session. -/
def readVerifyM2 (paired : PairedDevice) (clientSecret : Key) (data : List UInt8) :
    Except PairingError (Key × Key) := do
  let m2 ← readItems 2 data
  let serverEpkBytes ← okOr "M2: missing server ephemeral PK" (lookup m2 Tags.publicKey)
  let encrypted ← okOr "M2: missing encrypted data" (lookup m2 Tags.encryptedData)
  let serverEpk ← tryInto 32 "Invalid server EPK length" serverEpkBytes
  let key := verifyKey prims (prims.x25519.diffieHellman clientSecret serverEpk)
  let m2Sub ← openData prims key "PV-Msg02" "M2 decryption failed: aead::Error" encrypted
  let serverId ← okOr "M2 sub-TLV: missing identifier" (lookup m2Sub Tags.identifier)
  let serverSig ← okOr "M2 sub-TLV: missing signature" (lookup m2Sub Tags.signature)
  verify prims paired.accessoryLtpk
    (serverInfo serverEpkBytes serverId (prims.x25519.publicKey clientSecret).1) serverSig
  return (serverEpk, key)

/-- `verify_m3_sub_tlv`. -/
def verifyM3SubTlv (clientLtsk : Key) (clientPairingId : List Char)
    (clientEpk accessoryEpk : List UInt8) : List UInt8 :=
  Tlv8.encode [⟨Tags.identifier, Utf8.encode clientPairingId⟩,
    ⟨Tags.signature, (prims.ed25519.sign clientLtsk
      (clientInfo clientEpk (Utf8.encode clientPairingId) accessoryEpk)).1⟩]

def verifyM3 (paired : PairedDevice) (clientPublic serverEpk key : Key) : List UInt8 :=
  Tlv8.encode [itemU8 Tags.state 3,
    ⟨Tags.encryptedData, prims.cipher.encrypt key (pairingNonce "PV-Msg03") []
      (verifyM3SubTlv prims paired.clientLtsk paired.clientPairingId clientPublic.1
        serverEpk.1)⟩]

/-- `pair_verify`, with the ephemeral secret that it draws: the shared key. -/
def pairVerify (paired : PairedDevice) (clientSecret : Key) : Pairing Key := do
  let clientPublic := prims.x25519.publicKey clientSecret
  let m2Data ← postVerify (verifyM1 clientPublic)
  let (serverEpk, key) ← readVerifyM2 prims paired clientSecret m2Data
  let m4Data ← postVerify (verifyM3 prims paired clientPublic serverEpk key)
  let _ ← readItems 4 m4Data
  return key

end Flows

end OpenPlay.Airplay.HapPairing
