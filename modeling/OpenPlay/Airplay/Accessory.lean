import OpenPlay.Airplay.Pairing

/-!
# An accessory

What the pairing of `hap_pairing.rs` is written against, in the words of its comments: an
accessory that proves the PIN as the reference server of `srp.rs` does, files a pairing under
the identifier that M5 brings, signs what M2 and M6 are checked against, and in M3 of
pair-verify looks up the identifier it is sent.

Nothing of it is in the repository.  It is the peer with which the flows are run: a
connection to it (`Connection`) answers one post after the other, and `faulty` loses what
it likes of them.
-/

namespace OpenPlay.Airplay.HapPairing

open Tlv8 (Tlv8Item)

/-- What an accessory keeps: who it is, its long-term key, its PIN, and the long-term keys of
its controllers by their identifiers, the newest first. -/
structure Accessory where
  id : List Char
  ltsk : Key
  pin : String
  pairings : List (List UInt8 × Key)

/-- The long-term key of a controller. -/
def Accessory.ltpkOf (x : Accessory) (clientId : List UInt8) : Option Key :=
  x.pairings.lookup clientId

def Accessory.file (x : Accessory) (clientId : List UInt8) (ltpk : Key) : Accessory :=
  { x with pairings := (clientId, ltpk) :: x.pairings }

/-- What an accessory draws for a connection. -/
structure Draws where
  salt : List UInt8
  b : Nat
  secret : Key

/-- Where a connection is. -/
inductive ConnectionStage
  | idle
  /-- M2 of pair-setup was sent. -/
  | proving (server : Srp.RefServer)
  /-- M4 of pair-setup was sent. -/
  | agreed (sessionKey : List UInt8)
  /-- M6 of pair-setup was sent. -/
  | paired
  /-- M2 of pair-verify was sent. -/
  | verifying (clientEpk key : Key)
  /-- M4 of pair-verify was sent. -/
  | verified (key : Key)
  | refused

structure Connection where
  accessory : Accessory
  draws : Draws
  stage : ConnectionStage

section Answers

variable (prims : Primitives)

/-! ## Pair-setup -/

/-- The server of the accessory's PIN. -/
def Connection.server (c : Connection) : Srp.RefServer :=
  .new prims.sha512 pairSetupUsername c.accessory.pin c.draws.salt c.draws.b

def Connection.setupM2 (c : Connection) : List UInt8 :=
  Tlv8.encode [itemU8 Tags.state 2,
    ⟨Tags.publicKey, BigNumber.toBytes (c.server prims).bigB⟩, ⟨Tags.salt, c.draws.salt⟩]

/-- The session key and M4, for a proof that is right. -/
def acceptM3 (server : Srp.RefServer) (items : List Tlv8Item) :
    Option (List UInt8 × List UInt8) := do
  let publicA ← lookup items Tags.publicKey
  let proof ← lookup items Tags.proof
  let proofs := server.finish prims.sha512 pairSetupUsername publicA
  if proof = proofs.1 then
    some (server.key prims.sha512 publicA,
      Tlv8.encode [itemU8 Tags.state 4, ⟨Tags.proof, proofs.2⟩])
  else none

/-- The identifier and the long-term key of the controller, for a signature that is right. -/
def acceptM5 (sessionKey : List UInt8) (items : List Tlv8Item) :
    Option (List UInt8 × Key) := do
  let encrypted ← lookup items Tags.encryptedData
  let plain ← prims.cipher.decrypt (setupKey prims sessionKey) (pairingNonce "PS-Msg05") []
    encrypted
  let sub ← (decode plain).toOption
  let clientId ← lookup sub Tags.identifier
  let ltpk ← ((lookup sub Tags.publicKey).bind fun ltpk => (tryInto 32 "" ltpk).toOption)
  let sig ← lookup sub Tags.signature
  (verify prims ltpk (deviceInfo prims sessionKey clientId ltpk.1) sig).toOption
  return (clientId, ltpk)

def Accessory.setupM6 (x : Accessory) (sessionKey : List UInt8) : List UInt8 :=
  let ltpk := prims.ed25519.verifyingKey x.ltsk
  Tlv8.encode [itemU8 Tags.state 6,
    ⟨Tags.encryptedData, prims.cipher.encrypt (setupKey prims sessionKey)
      (pairingNonce "PS-Msg06") []
      (Tlv8.encode [⟨Tags.identifier, Utf8.encode x.id⟩, ⟨Tags.publicKey, ltpk.1⟩,
        ⟨Tags.signature, (prims.ed25519.sign x.ltsk
          (accessoryInfo prims sessionKey (Utf8.encode x.id) ltpk.1)).1⟩])⟩]

/-! ## Pair-verify -/

/-- The key that the accessory shares with whoever has sent `clientEpk`. -/
def Draws.key (d : Draws) (clientEpk : Key) : Key :=
  verifyKey prims (prims.x25519.diffieHellman d.secret clientEpk)

def Connection.verifyM2 (c : Connection) (clientEpk : Key) : List UInt8 :=
  let epk := prims.x25519.publicKey c.draws.secret
  Tlv8.encode [itemU8 Tags.state 2, ⟨Tags.publicKey, epk.1⟩,
    ⟨Tags.encryptedData, prims.cipher.encrypt (c.draws.key prims clientEpk)
      (pairingNonce "PV-Msg02") []
      (Tlv8.encode [⟨Tags.identifier, Utf8.encode c.accessory.id⟩,
        ⟨Tags.signature, (prims.ed25519.sign c.accessory.ltsk
          (serverInfo epk.1 (Utf8.encode c.accessory.id) clientEpk.1)).1⟩])⟩]

/-- The controller is filed under the identifier it sends, and has signed. -/
def Connection.acceptVerifyM3 (c : Connection) (clientEpk key : Key) (items : List Tlv8Item) :
    Option Unit := do
  let encrypted ← lookup items Tags.encryptedData
  let plain ← prims.cipher.decrypt key (pairingNonce "PV-Msg03") [] encrypted
  let sub ← (decode plain).toOption
  let clientId ← lookup sub Tags.identifier
  let ltpk ← c.accessory.ltpkOf clientId
  let sig ← lookup sub Tags.signature
  (verify prims ltpk (clientInfo clientEpk.1 clientId
    (prims.x25519.publicKey c.draws.secret).1) sig).toOption

/-! ## Answers -/

/-- An answer that names an error. -/
def refusal (state : UInt8) : List UInt8 :=
  Tlv8.encode [itemU8 Tags.state state, itemU8 Tags.error Errors.authentication]

def Connection.refuse (c : Connection) (state : UInt8) : List UInt8 × Connection :=
  (refusal state, { c with stage := .refused })

def Connection.answer (c : Connection) (p : Post) : List UInt8 × Connection :=
  let items := (decode p.body).toOption.getD []
  match c.stage with
  | .idle =>
      if p.path = "/pair-setup" then
        (c.setupM2 prims, { c with stage := .proving (c.server prims) })
      else
        match (lookup items Tags.publicKey).bind fun epk => (tryInto 32 "" epk).toOption with
        | none => c.refuse 2
        | some clientEpk =>
            (c.verifyM2 prims clientEpk,
              { c with stage := .verifying clientEpk (c.draws.key prims clientEpk) })
  | .proving server =>
      match acceptM3 prims server items with
      | none => c.refuse 4
      | some (sessionKey, m4) => (m4, { c with stage := .agreed sessionKey })
  | .agreed sessionKey =>
      match acceptM5 prims sessionKey items with
      | none => c.refuse 6
      | some (clientId, ltpk) =>
          (c.accessory.setupM6 prims sessionKey,
            { c with accessory := c.accessory.file clientId ltpk, stage := .paired })
  | .verifying clientEpk key =>
      match c.acceptVerifyM3 prims clientEpk key items with
      | none => c.refuse 4
      | some () =>
          (Tlv8.encode [itemU8 Tags.state 4], { c with stage := .verified key })
  | .paired | .verified _ | .refused => c.refuse 0

/-! ## The network -/

inductive Fault
  | none
  | requestLost
  | answerLost
deriving DecidableEq

/-- A connection of which some exchanges fail.  The first entry is the fault of the next
exchange, and there is none behind the last. -/
def faulty : Connection × List Fault → Post →
    Except PairingError (List UInt8) × (Connection × List Fault)
  | (c, faults), p =>
      match faults.headD .none with
      | .none => (.ok (c.answer prims p).1, ((c.answer prims p).2, faults.tail))
      | .requestLost => (.error (.text "Connection closed"), (c, faults.tail))
      | .answerLost =>
          (.error (.text "Connection closed"), ((c.answer prims p).2, faults.tail))

/-- A fresh connection. -/
def Accessory.connect (x : Accessory) (draws : Draws) : Connection := ⟨x, draws, .idle⟩

end Answers

end OpenPlay.Airplay.HapPairing
