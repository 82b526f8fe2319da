import OpenPlay.Airplay.Accessory

/-!
# Pairing with an accessory

The flows of `hap_pairing.rs`, run with an accessory over a connection that may fail.
-/

namespace OpenPlay.Airplay.HapPairing

open Exchange
open Tlv8 (Tlv8Item)

/-- The error of a connection that fails. -/
def closed : PairingError := .text "Connection closed"

/-! ## Messages -/

section Messages

variable {items : List Tlv8Item}

theorem decode_encode (apart : Tagged.IsApart items) : decode (Tlv8.encode items) = .ok items := by
  rw [decode, Tlv8.decode_encode_eq, Tagged.mergeRuns_eq_self apart]

theorem readItems_encode {expected : UInt8} (apart : Tagged.IsApart items)
    (noError : lookup items Tags.error = none)
    (state : lookup items Tags.state = some [expected]) :
    readItems expected (Tlv8.encode items) = .ok items := by
  have checked : checkError items = .ok () := by
    rw [checkError, noError]
  have stated : checkState items expected = .ok () := by
    rw [checkState, state]
    exact if_neg (not_not.mpr rfl)
  rw [readItems, decode_encode apart]
  show (checkError items >>= fun _ => checkState items expected >>= fun _ => pure items) = _
  rw [checked, stated]
  rfl

/-- Neighbours under different tags. -/
theorem isApart_pair {s t : UInt8} {v w : List UInt8} (first : s ≠ t) :
    Tagged.IsApart [(⟨s, v⟩ : Tlv8Item), ⟨t, w⟩] :=
  List.isChain_pair.mpr first

theorem isApart_triple {s t u : UInt8} {v w x : List UInt8} (first : s ≠ t) (second : t ≠ u) :
    Tagged.IsApart [(⟨s, v⟩ : Tlv8Item), ⟨t, w⟩, ⟨u, x⟩] :=
  List.isChain_cons_cons.mpr ⟨first, isApart_pair second⟩

/-- An answer that names an error is one. -/
theorem readItems_refusal (expected state : UInt8) :
    readItems expected (refusal state) =
      .error (.text "HAP error 2: Authentication failed") := by
  have apart : Tagged.IsApart [itemU8 Tags.state state, itemU8 Tags.error Errors.authentication] :=
    isApart_pair (by decide)
  rw [readItems, refusal, decode_encode apart]
  rfl

end Messages

/-! ## Pair-setup, M1 to M4 -/

section Setup

variable {prims : Primitives} {c : Connection} {pin : String} {a : Nat}

theorem readM2_setupM2 :
    readM2 (c.setupM2 prims) =
      .ok (BigNumber.toBytes (c.server prims).bigB, c.draws.salt) := by
  rw [readM2, Connection.setupM2,
    readItems_encode (isApart_triple (by decide) (by decide)) rfl rfl]
  rfl

theorem items_setupM3 (client : Srp.ClientSession) :
    (decode (setupM3 client)).toOption.getD [] =
      [itemU8 Tags.state 3, ⟨Tags.publicKey, client.publicA⟩, ⟨Tags.proof, client.m1⟩] := by
  rw [setupM3, decode_encode (isApart_triple (by decide) (by decide))]
  rfl

/-- The answer to M1. -/
theorem answer_setupM1 (idle : c.stage = .idle) (body : List UInt8) :
    c.answer prims ⟨"/pair-setup", body⟩ =
      (c.setupM2 prims, { c with stage := .proving (c.server prims) }) := by
  simp only [Connection.answer, idle, if_true]

/-- The answer to M3. -/
theorem answer_setupM3 {server : Srp.RefServer} (stage : c.stage = .proving server)
    (client : Srp.ClientSession) :
    c.answer prims ⟨"/pair-setup", setupM3 client⟩ =
      let proofs := server.finish prims.sha512 pairSetupUsername client.publicA
      if client.m1 = proofs.1 then
        (Tlv8.encode [itemU8 Tags.state 4, ⟨Tags.proof, proofs.2⟩],
          { c with stage := .agreed (server.key prims.sha512 client.publicA) })
      else c.refuse 4 := by
  simp only [Connection.answer, stage, items_setupM3]
  have accept : acceptM3 prims server [itemU8 Tags.state 3, ⟨Tags.publicKey, client.publicA⟩,
      ⟨Tags.proof, client.m1⟩] =
        let proofs := server.finish prims.sha512 pairSetupUsername client.publicA
        if client.m1 = proofs.1 then
          some (server.key prims.sha512 client.publicA,
            Tlv8.encode [itemU8 Tags.state 4, ⟨Tags.proof, proofs.2⟩])
        else none := rfl
  rw [accept]
  dsimp only
  split_ifs <;> rfl

theorem readM4_proof (client : Srp.ClientSession) (proof : List UInt8) :
    readM4 client (Tlv8.encode [itemU8 Tags.state 4, ⟨Tags.proof, proof⟩]) =
      if proof = client.expectedM2 then .ok ()
      else .error (.text "Server proof verification failed") := by
  rw [readM4, readItems_encode (isApart_pair (by decide)) rfl rfl]
  show (if proof ≠ client.expectedM2 then Except.error _ else Except.ok ()) = _
  rw [ite_not]

theorem readM4_refusal (client : Srp.ClientSession) :
    readM4 client (refusal 4) = .error (.text "HAP error 2: Authentication failed") := by
  rw [readM4, readItems_refusal]
  rfl

/-- A post over a connection that may fail. -/
theorem run_post {α : Type} (p : Post) (more : List UInt8 → Pairing α) (c : Connection)
    (faults : List Fault) :
    run (faulty prims) (Program.query p >>= more) (c, faults) =
      match faults.headD .none with
      | .none =>
          (run (faulty prims) (more (c.answer prims p).1) ((c.answer prims p).2,
            faults.tail)).after (p, .ok (c.answer prims p).1)
      | .requestLost => ⟨.error closed, [(p, .error closed)], (c, faults.tail)⟩
      | .answerLost =>
          ⟨.error closed, [(p, .error closed)], ((c.answer prims p).2, faults.tail)⟩ := by
  cases fault : faults.headD .none with
  | none =>
    refine run_query _ ?_
    simp only [faulty, fault, closed]
  | requestLost =>
    refine run_query_error _ ?_
    simp only [faulty, fault, closed]
  | answerLost =>
    refine run_query_error _ ?_
    simp only [faulty, fault, closed]

/-- The proof of the client tells its key: the accessory finds it right only if it has the
same one. -/
def ProofTells (prims : Primitives) (c : Connection) (pin : String) (a : Nat) : Prop :=
  ∀ client, clientCompute prims pin
      (BigNumber.toBytes (c.server prims).bigB, c.draws.salt) a = .ok client →
    client.m1 =
      ((c.server prims).finish prims.sha512 pairSetupUsername client.publicA).1 →
    client.sessionKey = (c.server prims).key prims.sha512 client.publicA

/-- What M1 to M4 come to. -/
inductive Agrees (c : Connection) :
    Outcome Post (List UInt8) PairingError (Connection × List Fault) (List UInt8) → Prop
  | failed {e : PairingError} {log : List (Post × Except PairingError (List UInt8))}
      {stage : ConnectionStage} {faults : List Fault} :
      Agrees c ⟨.error e, log, ({ c with stage := stage }, faults)⟩
  | agreed {log : List (Post × Except PairingError (List UInt8))} {sessionKey : List UInt8}
      {faults : List Fault} :
      Agrees c ⟨.ok sessionKey, log, ({ c with stage := .agreed sessionKey }, faults)⟩

theorem Agrees.after {o : Outcome Post (List UInt8) PairingError (Connection × List Fault)
    (List UInt8)} (h : Agrees c o) (entry : Post × Except PairingError (List UInt8)) :
    Agrees c (o.after entry) := by
  cases h with
  | failed => exact .failed
  | agreed => exact .agreed

/-- **Both have the key, or the flow fails.** -/
theorem agrees_pairSetupSrp (idle : c.stage = .idle) (tells : ProofTells prims c pin a)
    (transient : Bool) (faults : List Fault) :
    Agrees c (run (faulty prims) (pairSetupSrp prims pin transient a) (c, faults)) := by
  have same : ({ c with stage := .idle } : Connection) = c := by
    rw [← idle]
  rw [pairSetupSrp, postSetup, run_post, answer_setupM1 idle]
  cases faults.headD .none with
  | requestLost =>
    rw [← same]
    exact .failed
  | answerLost => exact .failed
  | none =>
    refine Agrees.after ?_ _
    rw [run_lift _ readM2_setupM2]
    cases computed : clientCompute prims pin
      (BigNumber.toBytes (c.server prims).bigB, c.draws.salt) a with
    | error e =>
      rw [run_lift_error _ rfl]
      exact .failed
    | ok client =>
      rw [run_lift _ rfl, postSetup, run_post, answer_setupM3 rfl]
      dsimp only
      by_cases right : client.m1 =
        ((c.server prims).finish prims.sha512 pairSetupUsername client.publicA).1
      · rw [if_pos right, ← tells client computed right]
        cases faults.tail.headD .none with
        | requestLost => exact .failed
        | answerLost => exact .failed
        | none =>
          refine Agrees.after ?_ _
          have read := readM4_proof client
            ((c.server prims).finish prims.sha512 pairSetupUsername client.publicA).2
          split_ifs at read with proven
          · rw [run_lift _ read]
            exact .agreed
          · rw [run_lift_error _ read]
            exact .failed
      · rw [if_neg right, Connection.refuse]
        dsimp only
        cases faults.tail.headD .none with
        | requestLost => exact .failed
        | answerLost => exact .failed
        | none =>
          refine Agrees.after ?_ _
          rw [run_lift_error _ (readM4_refusal client)]
          exact .failed

end Setup

/-! ## Pair-setup, M5 and M6 -/

section Identities

variable {prims : Primitives} {c : Connection} {x : Accessory}
variable {sessionKey : List UInt8} {clientLtsk : Key} {clientPairingId : List Char}

theorem tryInto_val {n : Nat} (e : String) (bytes : { bytes : List UInt8 // bytes.length = n }) :
    tryInto n e bytes.1 = .ok bytes :=
  dif_pos bytes.2

/-- What was signed verifies. -/
theorem verify_sign (ltsk : Key) (info : List UInt8) :
    verify prims (prims.ed25519.verifyingKey ltsk) info (prims.ed25519.sign ltsk info).1 =
      .ok () := by
  rw [verify, prims.ed25519.isPoint_verifyingKey, if_neg (by decide)]
  show (tryInto 64 _ (prims.ed25519.sign ltsk info).1 >>= _) = _
  rw [tryInto_val]
  show (if prims.ed25519.verify _ info (prims.ed25519.sign ltsk info) = false then _ else _) = _
  rw [prims.ed25519.verify_sign]
  exact if_neg (by decide)

/-- The answer to M5. -/
theorem answer_setupM5 (stage : c.stage = .agreed sessionKey) :
    c.answer prims ⟨"/pair-setup", setupM5 prims sessionKey clientLtsk clientPairingId⟩ =
      (c.accessory.setupM6 prims sessionKey,
        { c with
          accessory := c.accessory.file (Utf8.encode clientPairingId)
            (prims.ed25519.verifyingKey clientLtsk)
          stage := .paired }) := by
  have accept : acceptM5 prims sessionKey [itemU8 Tags.state 5,
      ⟨Tags.encryptedData, prims.cipher.encrypt (setupKey prims sessionKey)
        (pairingNonce "PS-Msg05") [] (setupM5SubTlv prims sessionKey clientLtsk
          clientPairingId)⟩] =
      some (Utf8.encode clientPairingId, prims.ed25519.verifyingKey clientLtsk) := by
    show ((prims.cipher.decrypt _ _ _ _).bind _) = _
    rw [prims.cipher.decrypt_encrypt, Option.bind_some, setupM5SubTlv,
      decode_encode (isApart_triple (by decide) (by decide))]
    show ((tryInto 32 "" (prims.ed25519.verifyingKey clientLtsk).1).toOption.bind _) = _
    rw [tryInto_val]
    show ((verify prims (prims.ed25519.verifyingKey clientLtsk) _ _).toOption.bind _) = _
    rw [verify_sign]
    rfl
  have items : (decode (setupM5 prims sessionKey clientLtsk clientPairingId)).toOption.getD [] =
      [itemU8 Tags.state 5,
        ⟨Tags.encryptedData, prims.cipher.encrypt (setupKey prims sessionKey)
          (pairingNonce "PS-Msg05") [] (setupM5SubTlv prims sessionKey clientLtsk
            clientPairingId)⟩] := by
    rw [setupM5, decode_encode (isApart_pair (by decide))]
    rfl
  simp only [Connection.answer, stage, items, accept]

/-- What the client reads in M6. -/
theorem readM6_setupM6 :
    readM6 prims sessionKey (x.setupM6 prims sessionKey) =
      .ok (Utf8.encode x.id, prims.ed25519.verifyingKey x.ltsk) := by
  have opened (sub : List Tlv8Item) (apart : Tagged.IsApart sub) (e : String) :
      openData prims (setupKey prims sessionKey) "PS-Msg06" e
        (prims.cipher.encrypt (setupKey prims sessionKey) (pairingNonce "PS-Msg06") []
          (Tlv8.encode sub)) = .ok sub := by
    rw [openData, prims.cipher.decrypt_encrypt]
    exact decode_encode apart
  rw [readM6, Accessory.setupM6, readItems_encode (isApart_pair (by decide)) rfl rfl]
  show (openData prims _ _ _ _ >>= _) = _
  rw [opened _ (isApart_triple (by decide) (by decide))]
  show (tryInto 32 _ (prims.ed25519.verifyingKey x.ltsk).1 >>= _) = _
  rw [tryInto_val]
  show (verify prims (prims.ed25519.verifyingKey x.ltsk) _ _ >>= _) = _
  rw [verify_sign]
  rfl

/-- What a pair-setup with an accessory returns. -/
def setupResult (prims : Primitives) (x : Accessory) (clientLtsk : Key)
    (clientPairingId : List Char) : PairSetupResult where
  clientLtsk := clientLtsk
  clientLtpk := prims.ed25519.verifyingKey clientLtsk
  clientPairingId := clientPairingId
  accessoryLtpk := prims.ed25519.verifyingKey x.ltsk
  accessoryId := x.id

/-- The accessory with the pairing of this client. -/
def Accessory.filed (x : Accessory) (prims : Primitives) (clientLtsk : Key)
    (clientPairingId : List Char) : Accessory :=
  x.file (Utf8.encode clientPairingId) (prims.ed25519.verifyingKey clientLtsk)

/-- What a pair-setup can leave behind, at the accessory and here. -/
inductive Pairs (prims : Primitives) (x : Accessory) (clientLtsk : Key)
    (clientPairingId : List Char) : Accessory → Except PairingError PairSetupResult → Prop
  | unfiled {e : PairingError} : Pairs prims x clientLtsk clientPairingId x (.error e)
  /-- The answer to M5 is lost. -/
  | lost {e : PairingError} : Pairs prims x clientLtsk clientPairingId
      (x.filed prims clientLtsk clientPairingId) (.error e)
  | paired : Pairs prims x clientLtsk clientPairingId
      (x.filed prims clientLtsk clientPairingId)
      (.ok (setupResult prims x clientLtsk clientPairingId))

/-- M5 and M6. -/
theorem run_identityExchange (stage : c.stage = .agreed sessionKey) (faults : List Fault) :
    run (faulty prims) (pairSetupIdentityExchange prims sessionKey clientLtsk clientPairingId)
        (c, faults) =
      let p : Post := ⟨"/pair-setup", setupM5 prims sessionKey clientLtsk clientPairingId⟩
      let paired : Connection :=
        ⟨c.accessory.filed prims clientLtsk clientPairingId, c.draws, .paired⟩
      match faults.headD .none with
      | .none =>
          ⟨.ok (setupResult prims c.accessory clientLtsk clientPairingId),
            [(p, .ok (c.accessory.setupM6 prims sessionKey))], (paired, faults.tail)⟩
      | .requestLost => ⟨.error closed, [(p, .error closed)], (c, faults.tail)⟩
      | .answerLost => ⟨.error closed, [(p, .error closed)], (paired, faults.tail)⟩ := by
  rw [pairSetupIdentityExchange, postSetup, run_post, answer_setupM5 stage]
  cases faults.headD .none with
  | requestLost => rfl
  | answerLost => rfl
  | none =>
    dsimp only
    rw [run_lift _ readM6_setupM6]
    simp only [Utf8.decodeLossy_encode]
    rfl

/-- **A pair-setup files what it returns.** -/
theorem pairs_pairSetup {pin : String} {a : Nat} (idle : c.stage = .idle)
    (tells : ProofTells prims c pin a) (faults : List Fault) :
    let o := run (faulty prims) (pairSetup prims pin a clientLtsk clientPairingId) (c, faults)
    Pairs prims c.accessory clientLtsk clientPairingId o.peer.1.accessory o.result := by
  intro o
  have parts : o = run (faulty prims)
      (pairSetup prims pin a clientLtsk clientPairingId) (c, faults) := rfl
  rw [pairSetup, run_bind] at parts
  rw [parts]
  have agrees := agrees_pairSetupSrp idle tells false faults
  revert agrees
  generalize run (faulty prims) (pairSetupSrp prims pin false a) (c, faults) = srp
  intro agrees
  cases agrees with
  | failed => exact .unfiled
  | @agreed _ sessionKey faults =>
    dsimp only
    rw [run_identityExchange (c := { c with stage := .agreed sessionKey }) rfl]
    cases faults.headD .none with
    | requestLost => exact .unfiled
    | answerLost => exact .lost
    | none => exact .paired

end Identities

/-! ## Pair-setup with the right PIN -/

section RightPin

variable {prims : Primitives} {c : Connection} {a : Nat}

/-- Neither of the two values occurs at which the client of SRP aborts. -/
structure Proceeds (prims : Primitives) (c : Connection) (a : Nat) : Prop where
  publicKey : (c.server prims).bigB % Srp.groupN ≠ 0
  scrambler : Srp.hashU prims.sha512
    (Srp.padToN (BigNumber.modpow Srp.srpG a Srp.groupN) Srp.groupN)
    (Srp.padToN (c.server prims).bigB Srp.groupN) ≠ 0

/-- Client and accessory compute one key and each other's proofs. -/
theorem exists_client (h : Proceeds prims c a) :
    ∃ client, clientCompute prims c.accessory.pin
        (BigNumber.toBytes (c.server prims).bigB, c.draws.salt) a = .ok client ∧
      client.sessionKey = (c.server prims).key prims.sha512 client.publicA ∧
      (client.m1, client.expectedM2) =
        (c.server prims).finish prims.sha512 pairSetupUsername client.publicA := by
  have value := BigNumber.ofBytes_toBytes (c.server prims).bigB
  have computed := Srp.clientCompute_eq_ok prims.sha512 pairSetupUsername c.accessory.pin
    c.draws.salt (BigNumber.toBytes (c.server prims).bigB) a
    (by rw [value]; exact h.publicKey) (by rw [value]; exact h.scrambler)
  simp only [value] at computed
  refine ⟨_, by rw [clientCompute, computed], ?_⟩
  have key : prims.sha512 (Srp.padToN (BigNumber.modpow (((c.server prims).bigB + Srp.groupN -
        Srp.hashK prims.sha512 Srp.groupN Srp.srpG * BigNumber.modpow Srp.srpG
          (Srp.hashX prims.sha512 pairSetupUsername c.accessory.pin c.draws.salt) Srp.groupN %
        Srp.groupN) % Srp.groupN)
        (a + Srp.hashU prims.sha512
          (Srp.padToN (BigNumber.modpow Srp.srpG a Srp.groupN) Srp.groupN)
          (Srp.padToN (c.server prims).bigB Srp.groupN) *
          Srp.hashX prims.sha512 pairSetupUsername c.accessory.pin c.draws.salt)
        Srp.groupN) Srp.groupN) =
      (c.server prims).key prims.sha512
        (Srp.padToN (BigNumber.modpow Srp.srpG a Srp.groupN) Srp.groupN) := by
    rw [Srp.RefServer.key]
    simp only [Srp.ofBytes_padToN]
    exact congrArg (fun s => prims.sha512 (Srp.padToN s Srp.groupN))
      (Srp.clientSecret_eq_serverSecret Srp.groupN Srp.groupN_pos Srp.srpG
        (Srp.hashK prims.sha512 Srp.groupN Srp.srpG) a c.draws.b _
        (Srp.hashX prims.sha512 pairSetupUsername c.accessory.pin c.draws.salt))
  refine ⟨key, ?_⟩
  rw [Srp.RefServer.finish]
  simp only
  rw [← key]
  rfl

/-- With the right PIN the proof tells the key. -/
theorem proofTells_right_pin : ProofTells prims c c.accessory.pin a := by
  intro client computed right
  have value := BigNumber.ofBytes_toBytes (c.server prims).bigB
  by_cases h : Proceeds prims c a
  · obtain ⟨client', computed', key, -⟩ := exists_client h
    cases computed.symm.trans computed'
    exact key
  · have aborts : (c.server prims).bigB % Srp.groupN = 0 ∨ Srp.hashU prims.sha512
        (Srp.padToN (BigNumber.modpow Srp.srpG a Srp.groupN) Srp.groupN)
        (Srp.padToN (c.server prims).bigB Srp.groupN) = 0 := by
      by_contra neither
      exact h ⟨fun zero => neither (Or.inl zero), fun zero => neither (Or.inr zero)⟩
    obtain ⟨e, failed⟩ := Srp.clientCompute_eq_error prims.sha512 pairSetupUsername
      c.accessory.pin c.draws.salt (BigNumber.toBytes (c.server prims).bigB) a
      (by rw [value]; exact aborts)
    rw [clientCompute, failed] at computed
    cases computed

/-- The answer to M3 with the right proof. -/
theorem answer_rightProof {server : Srp.RefServer} (stage : c.stage = .proving server)
    {client : Srp.ClientSession}
    (key : client.sessionKey = server.key prims.sha512 client.publicA)
    (proofs : (client.m1, client.expectedM2) =
      server.finish prims.sha512 pairSetupUsername client.publicA) :
    c.answer prims ⟨"/pair-setup", setupM3 client⟩ =
      (Tlv8.encode [itemU8 Tags.state 4, ⟨Tags.proof, client.expectedM2⟩],
        { c with stage := .agreed client.sessionKey }) := by
  rw [answer_setupM3 stage, ← proofs, ← key]
  exact if_pos rfl

theorem readM4_rightProof (client : Srp.ClientSession) :
    readM4 client (Tlv8.encode [itemU8 Tags.state 4, ⟨Tags.proof, client.expectedM2⟩]) = .ok () :=
  (readM4_proof client client.expectedM2).trans (if_pos rfl)

/-- **With the right PIN both have one key.** -/
theorem run_pairSetupSrp (idle : c.stage = .idle) (h : Proceeds prims c a) (transient : Bool) :
    ∃ client, (client.m1, client.expectedM2) =
        (c.server prims).finish prims.sha512 pairSetupUsername client.publicA ∧
      run (faulty prims) (pairSetupSrp prims c.accessory.pin transient a) (c, []) =
        ⟨.ok client.sessionKey,
          [(⟨"/pair-setup", setupM1 transient⟩, .ok (c.setupM2 prims)),
            (⟨"/pair-setup", setupM3 client⟩,
              .ok (Tlv8.encode [itemU8 Tags.state 4, ⟨Tags.proof, client.expectedM2⟩]))],
          ({ c with stage := .agreed client.sessionKey }, [])⟩ := by
  obtain ⟨client, computed, key, proofs⟩ := exists_client h
  refine ⟨client, proofs, ?_⟩
  rw [pairSetupSrp, postSetup, run_post, answer_setupM1 idle]
  dsimp only [List.headD]
  rw [run_lift _ readM2_setupM2, run_lift _ computed, postSetup, run_post,
    answer_rightProof rfl key proofs]
  dsimp only [List.headD]
  rw [run_lift _ (readM4_rightProof client)]
  rfl

end RightPin

/-! ## Pair-verify -/

section Verify

variable {prims : Primitives} {c : Connection} {paired : PairedDevice}

/-- The accessory is the one of the record, and has filed the client under its identifier. -/
structure Accessory.Knows (x : Accessory) (prims : Primitives) (paired : PairedDevice) : Prop where
  ltpk : paired.accessoryLtpk = prims.ed25519.verifyingKey x.ltsk
  filed : x.ltpkOf (Utf8.encode paired.clientPairingId) =
    some (prims.ed25519.verifyingKey paired.clientLtsk)

/-- An accessory knows the client of the pair-setup that it has filed. -/
theorem knows_filed (x : Accessory) (clientLtsk : Key) (clientPairingId : List Char) :
    (x.filed prims clientLtsk clientPairingId).Knows prims
      (.from (setupResult prims x clientLtsk clientPairingId)) where
  ltpk := rfl
  filed := List.lookup_cons_self

/-- Both sides of the exchange have the key. -/
theorem key_publicKey (d : Draws) (clientSecret : Key) :
    d.key prims (prims.x25519.publicKey clientSecret) =
      verifyKey prims
        (prims.x25519.diffieHellman clientSecret (prims.x25519.publicKey d.secret)) := by
  rw [Draws.key, prims.x25519.meets]

/-- The answer to M1. -/
theorem answer_verifyM1 (idle : c.stage = .idle) (clientPublic : Key) :
    c.answer prims ⟨"/pair-verify", verifyM1 clientPublic⟩ =
      (c.verifyM2 prims clientPublic,
        { c with stage := .verifying clientPublic (c.draws.key prims clientPublic) }) := by
  have items : (decode (verifyM1 clientPublic)).toOption.getD [] =
      [itemU8 Tags.state 1, ⟨Tags.publicKey, clientPublic.1⟩] := by
    rw [verifyM1, decode_encode (isApart_pair (by decide))]
    rfl
  have found : ((lookup [itemU8 Tags.state 1, ⟨Tags.publicKey, clientPublic.1⟩]
      Tags.publicKey).bind fun epk => (tryInto 32 "" epk).toOption) = some clientPublic := by
    show (tryInto 32 "" clientPublic.1).toOption = _
    rw [tryInto_val]
    rfl
  have path : ("/pair-verify" : String) ≠ "/pair-setup" := by decide
  simp only [Connection.answer, idle, items, found, if_neg path]

/-- What the client reads in M2. -/
theorem readVerifyM2_verifyM2
    (ltpk : paired.accessoryLtpk = prims.ed25519.verifyingKey c.accessory.ltsk)
    (clientSecret : Key) :
    readVerifyM2 prims paired clientSecret
        (c.verifyM2 prims (prims.x25519.publicKey clientSecret)) =
      .ok (prims.x25519.publicKey c.draws.secret,
        c.draws.key prims (prims.x25519.publicKey clientSecret)) := by
  have opened (key : Key) (sub : List Tlv8Item) (apart : Tagged.IsApart sub) (e : String) :
      openData prims key "PV-Msg02" e
        (prims.cipher.encrypt key (pairingNonce "PV-Msg02") [] (Tlv8.encode sub)) = .ok sub := by
    rw [openData, prims.cipher.decrypt_encrypt]
    exact decode_encode apart
  rw [readVerifyM2, Connection.verifyM2,
    readItems_encode (isApart_triple (by decide) (by decide)) rfl rfl]
  show (tryInto 32 _ (prims.x25519.publicKey c.draws.secret).1 >>= _) = _
  rw [tryInto_val, key_publicKey]
  show (openData prims _ _ _ _ >>= _) = _
  rw [opened _ _ (isApart_pair (by decide))]
  show (verify prims paired.accessoryLtpk _ _ >>= _) = _
  rw [ltpk, verify_sign]
  rfl

/-- The answer to M3. -/
theorem answer_verifyM3 {clientPublic key : Key} (stage : c.stage = .verifying clientPublic key)
    (knows : c.accessory.Knows prims paired) :
    c.answer prims ⟨"/pair-verify",
        verifyM3 prims paired clientPublic (prims.x25519.publicKey c.draws.secret) key⟩ =
      (Tlv8.encode [itemU8 Tags.state 4], { c with stage := .verified key }) := by
  have items : (decode (verifyM3 prims paired clientPublic
      (prims.x25519.publicKey c.draws.secret) key)).toOption.getD [] =
      [itemU8 Tags.state 3, ⟨Tags.encryptedData, prims.cipher.encrypt key
        (pairingNonce "PV-Msg03") [] (verifyM3SubTlv prims paired.clientLtsk
          paired.clientPairingId clientPublic.1 (prims.x25519.publicKey c.draws.secret).1)⟩] := by
    rw [verifyM3, decode_encode (isApart_pair (by decide))]
    rfl
  have accept : c.acceptVerifyM3 prims clientPublic key [itemU8 Tags.state 3,
      ⟨Tags.encryptedData, prims.cipher.encrypt key
        (pairingNonce "PV-Msg03") [] (verifyM3SubTlv prims paired.clientLtsk
          paired.clientPairingId clientPublic.1 (prims.x25519.publicKey c.draws.secret).1)⟩] =
      some () := by
    show ((prims.cipher.decrypt _ _ _ _).bind _) = _
    rw [prims.cipher.decrypt_encrypt, Option.bind_some, verifyM3SubTlv,
      decode_encode (isApart_pair (by decide))]
    show ((c.accessory.ltpkOf _).bind _) = _
    rw [knows.filed]
    show (verify prims _ _ _).toOption = _
    rw [verify_sign]
    rfl
  simp only [Connection.answer, stage, items, accept]

/-- **Pair-verify succeeds with an accessory that knows the client**, and both have the
session key. -/
theorem run_pairVerify (idle : c.stage = .idle) (knows : c.accessory.Knows prims paired)
    (clientSecret : Key) :
    let clientPublic := prims.x25519.publicKey clientSecret
    let key := c.draws.key prims clientPublic
    run (faulty prims) (pairVerify prims paired clientSecret) (c, []) =
      ⟨.ok key,
        [(⟨"/pair-verify", verifyM1 clientPublic⟩, .ok (c.verifyM2 prims clientPublic)),
          (⟨"/pair-verify", verifyM3 prims paired clientPublic
            (prims.x25519.publicKey c.draws.secret) key⟩,
            .ok (Tlv8.encode [itemU8 Tags.state 4]))],
        ({ c with stage := .verified key }, [])⟩ := by
  intro clientPublic key
  have answered := answer_verifyM3
    (c := { c with stage := .verifying clientPublic key }) rfl knows
  have read : readItems 4 (Tlv8.encode [itemU8 Tags.state 4]) = .ok [itemU8 Tags.state 4] :=
    readItems_encode (List.isChain_singleton _) rfl rfl
  rw [pairVerify, postVerify, run_post, answer_verifyM1 idle]
  dsimp only [List.headD]
  rw [run_lift _ (readVerifyM2_verifyM2 knows.ltpk clientSecret), postVerify, run_post]
  dsimp only [List.headD]
  rw [answered]
  dsimp only [List.headD]
  rw [run_lift _ read]
  rfl

end Verify

/-! ## A sample -/

section Sample

/-- A key of one byte, repeated. -/
def sampleKey (byte : UInt8) : Key := ⟨List.replicate 32 byte, List.length_replicate⟩

/-- A signature that tells `text` from all other texts. -/
def sampleSign (text msg : List UInt8) : Signature :=
  if msg = text then ⟨List.replicate 64 1, List.length_replicate⟩
  else ⟨List.replicate 64 0, List.length_replicate⟩

/-- Primitives without any secret, for tests. -/
def samplePrimitives (text : List UInt8) : Primitives where
  sha512 _ := List.replicate 63 0 ++ [1]
  hkdfDerive _ _ _ := sampleKey 0
  cipher := {
    encrypt := fun _ _ _ msg => msg ++ List.replicate 16 0
    decrypt := fun _ _ _ msg => some (msg.take (msg.length - 16))
    decrypt_encrypt := fun _ _ _ msg => by simp
    length_encrypt := fun _ _ _ msg => by simp }
  ed25519 := {
    verifyingKey := id
    sign := fun _ msg => sampleSign text msg
    isPoint := fun _ => true
    verify := fun _ msg sig => sig == sampleSign text msg
    isPoint_verifyingKey := fun _ => rfl
    verify_sign := fun _ _ => beq_self_eq_true _ }
  x25519 := {
    publicKey := id
    diffieHellman := fun _ _ => sampleKey 0
    meets := fun _ _ => rfl }

def sampleAccessory (id : List Char) : Accessory := ⟨id, sampleKey 7, "3939", []⟩

def sampleDraws : Draws := ⟨[0x11], 1, sampleKey 5⟩

/-- With exponents of 1 the server's public key is 10, and the scrambler is 1. -/
theorem proceeds_sample (text : List UInt8) (id : List Char) :
    Proceeds (samplePrimitives text) ((sampleAccessory id).connect sampleDraws) 1 := by
  have one : BigNumber.ofBytes (List.replicate 63 0 ++ [1]) = 1 := by
    rw [BigNumber.ofBytes_replicate_append]
    rfl
  have five : BigNumber.modpow Srp.srpG 1 Srp.groupN = 5 := by
    rw [BigNumber.modpow_eq, pow_one]
    exact Nat.mod_eq_of_lt (Nat.lt_trans (by decide) Srp.ten_lt_groupN)
  have ten : (((sampleAccessory id).connect sampleDraws).server
      (samplePrimitives text)).bigB = 10 := by
    show (BigNumber.ofBytes (List.replicate 63 0 ++ [1]) *
        BigNumber.modpow Srp.srpG (BigNumber.ofBytes (List.replicate 63 0 ++ [1])) Srp.groupN +
        BigNumber.modpow Srp.srpG 1 Srp.groupN) % Srp.groupN = 10
    rw [one, five]
    exact Nat.mod_eq_of_lt Srp.ten_lt_groupN
  constructor
  · rw [ten, Nat.mod_eq_of_lt Srp.ten_lt_groupN]
    decide
  · show BigNumber.ofBytes (List.replicate 63 0 ++ [1]) ≠ 0
    rw [one]
    decide

end Sample

/-! ## Pair-setup as a whole -/

section Whole

variable {prims : Primitives} {c : Connection} {a : Nat}

/-- With the right PIN the three posts are made, and what is returned is filed. -/
theorem run_pairSetup (idle : c.stage = .idle) (h : Proceeds prims c a) (clientLtsk : Key)
    (clientPairingId : List Char) :
    ∃ log, log.map (fun entry => entry.1.path) = List.replicate 3 "/pair-setup" ∧
      run (faulty prims) (pairSetup prims c.accessory.pin a clientLtsk clientPairingId) (c, []) =
        ⟨.ok (setupResult prims c.accessory clientLtsk clientPairingId), log,
          (⟨c.accessory.filed prims clientLtsk clientPairingId, c.draws, .paired⟩, [])⟩ := by
  obtain ⟨client, -, srp⟩ := run_pairSetupSrp idle h false
  rw [pairSetup, run_bind, srp]
  dsimp only
  rw [run_identityExchange (c := { c with stage := .agreed client.sessionKey }) rfl]
  exact ⟨_, rfl, rfl⟩

end Whole

end OpenPlay.Airplay.HapPairing
