import OpenPlay.Airplay.PairingRun

/-!
# Pairing, whoever answers

What the flows of `hap_pairing.rs` do with any answers at all, so with those of an accessory
that misbehaves, and of somebody in its place.

* `refused_answer_ends_pairing`: an answer with an error ends a flow with that error
* `identity_needs_proof`: the long-term identity is sent to whoever has proved the PIN, and to
  nobody in a transient pairing
* `verified_accessory_has_key`: pair-verify succeeds only if the accessory of the record has
  answered it, and then both have one key
-/

namespace OpenPlay.Airplay.HapPairing

open Exchange
open Tlv8 (Tlv8Item)

abbrev Log := List (Post × Except PairingError (List UInt8))

variable {prims : Primitives}

/-! ## Readings -/

theorem eq_some_of_okOr {α : Type} {e : String} {x : Option α} {a : α} (ok : okOr e x = .ok a) :
    x = some a := by
  cases x with
  | none => cases ok
  | some b =>
    cases ok
    rfl

theorem eq_of_tryInto {n : Nat} {e : String} {bytes : List UInt8}
    {array : { bytes : List UInt8 // bytes.length = n }} (ok : tryInto n e bytes = .ok array) :
    bytes = array.1 := by
  rw [tryInto] at ok
  split_ifs at ok
  cases ok
  rfl

theorem decode_of_readItems {expected : UInt8} {data : List UInt8} {items : List Tlv8Item}
    (read : readItems expected data = .ok items) :
    decode data = .ok items ∧ (lookup items Tags.state).bind List.head? = some expected := by
  obtain ⟨items', decoded, read⟩ := exists_of_bind_eq_ok read
  obtain ⟨⟨⟩, -, read⟩ := exists_of_bind_eq_ok read
  obtain ⟨⟨⟩, stated, read⟩ := exists_of_bind_eq_ok read
  cases read
  obtain ⟨state, found, stated⟩ := exists_of_bind_eq_ok stated
  refine ⟨decoded, ?_⟩
  rw [eq_some_of_okOr found]
  by_contra differs
  have wrong : state ≠ expected := fun same => differs (congrArg some same)
  rw [if_pos wrong] at stated
  cases stated

/-- The public key of a client is padded, and the proof that it expects is a hash of the session
key. -/
theorem parts_of_clientCompute {pin : String} {m2 : List UInt8 × List UInt8} {a : Nat}
    {client : Srp.ClientSession} (computed : clientCompute prims pin m2 a = .ok client) :
    client.publicA = Srp.padToN (BigNumber.modpow Srp.srpG a Srp.groupN) Srp.groupN ∧
      client.expectedM2 =
        Srp.hashM2 prims.sha512 client.publicA client.m1 client.sessionKey := by
  rw [clientCompute] at computed
  split at computed
  · cases computed
  · cases computed
  · rename_i is
    cases computed
    rw [Srp.clientCompute] at is
    simp only at is
    split_ifs at is
    · cases is
    · cases is
    · split at is
      · cases is
      · cases is
        exact ⟨rfl, rfl⟩

/-! ## Errors -/

/-- What is wrong with an answer in any state: it is no list of items, or names an error. -/
def refuses (data : List UInt8) : Option PairingError :=
  match decode data with
  | .error e => some e
  | .ok items =>
      match checkError items with
      | .error e => some e
      | .ok () => none

theorem readItems_of_refuses {data : List UInt8} {e : PairingError}
    (refused : refuses data = some e) (expected : UInt8) :
    readItems expected data = .error e := by
  rw [refuses] at refused
  rw [readItems]
  split at refused
  · rename_i decoded
    cases refused
    rw [decoded]
    rfl
  · rename_i items decoded
    split at refused
    · rename_i checked
      cases refused
      rw [decoded]
      show (checkError items >>= fun _ => _) = _
      rw [checked]
      rfl
    · cases refused

/-- An answer that is read by `readItems` first. -/
theorem heeds_answer {α β : Type} {p : Post} (expected : UInt8)
    {read : List UInt8 → Except PairingError α} {more : α → Pairing β}
    (reads : ∀ data e, readItems expected data = .error e → read data = .error e)
    (later : ∀ a, Heeds refuses (more a)) :
    Heeds refuses ((Program.query p >>= fun data => liftM (read data) >>= more : Pairing β)) := by
  refine heeds_query (fun data => heeds_lift fun a _ => later a) fun data e refused => ?_
  rw [reads data e (readItems_of_refuses refused expected)]
  rfl

theorem heeds_pairSetupSrp (pin : String) (transient : Bool) (a : Nat) :
    Heeds refuses (pairSetupSrp prims pin transient a) := by
  refine heeds_answer 2 (fun data e failed => ?_) fun m2 =>
    heeds_lift fun client _ => ?_
  · rw [readM2, failed]
    rfl
  · refine heeds_answer 4 (fun data e failed => ?_) fun _ => heeds_pure _
    rw [readM4, failed]
    rfl

theorem heeds_identityExchange (sessionKey : List UInt8) (clientLtsk : Key)
    (clientPairingId : List Char) :
    Heeds refuses (pairSetupIdentityExchange prims sessionKey clientLtsk clientPairingId) := by
  refine heeds_answer 6 (fun data e failed => ?_) fun _ => heeds_pure _
  rw [readM6, failed]
  rfl

theorem heeds_pairVerify (paired : PairedDevice) (clientSecret : Key) :
    Heeds refuses (pairVerify prims paired clientSecret) := by
  refine heeds_answer 2 (fun data e failed => ?_) fun m2 => ?_
  · rw [readVerifyM2, failed]
    rfl
  · exact heeds_answer 4 (fun data e failed => failed) fun _ => heeds_pure _

/-- The first answer with an error is the last, and the flow fails with just that error. -/
def EndsWithError {α : Type} (flow : Pairing α) : Prop :=
  ∀ log result, Trace flow log result → ∀ p data e, (p, .ok data) ∈ log →
    refuses data = some e → result = .error e ∧ log.getLast? = some (p, .ok data)

/-- **An answer with an error ends a flow**, whichever answer it is: pair-setup, the transient
one and pair-verify fail with what the answer names, a back-off with its delay, and post
nothing more. -/
theorem refused_answer_ends_pairing (prims : Primitives) :
    (∀ pin a clientLtsk clientPairingId,
      EndsWithError (pairSetup prims pin a clientLtsk clientPairingId)) ∧
    (∀ a, EndsWithError (pairSetupTransient prims a)) ∧
    (∀ paired clientSecret, EndsWithError (pairVerify prims paired clientSecret)) ∧
    ∀ data items delay, decode data = .ok items →
      ((lookup items Tags.error).bind List.head? = some Errors.backoff ∧
        retryDelaySecs items = delay ↔ refuses data = some (.backOff delay)) := by
  refine ⟨fun pin a clientLtsk clientPairingId log result trace p data e mem refused => ?_,
    fun a log result trace p data e mem refused => ?_,
    fun paired clientSecret log result trace p data e mem refused => ?_,
    fun data items delay decoded => ?_⟩
  · exact (heeds_bind (heeds_pairSetupSrp pin false a) fun sessionKey =>
      heeds_identityExchange sessionKey clientLtsk clientPairingId).last trace mem refused
  · exact (heeds_pairSetupSrp "3939" true a).last trace mem refused
  · exact (heeds_pairVerify paired clientSecret).last trace mem refused
  · simp only [refuses, decoded, checkError]
    cases lookup items Tags.error with
    | none => simp
    | some err =>
      cases err with
      | nil => simp
      | cons code rest =>
        by_cases none : code = Errors.none
        · simp [none, Errors.none, Errors.backoff]
        · by_cases backoff : code = Errors.backoff
          · simp [backoff, Errors.none, Errors.backoff]
          · simp [none, backoff]

/-! ## The identity -/

/-- M1 to M4, answered by anybody: either the flow fails, and has posted M1 or M1 and M3, or
the answer to M3 has proved the PIN. -/
inductive SrpCourse (prims : Primitives) (pin : String) (transient : Bool) (a : Nat) :
    Log → Except PairingError (List UInt8) → Prop
  | failed {log : Log} {e : PairingError}
      (posts : ∀ entry ∈ log, entry.1.body = setupM1 transient ∨
        ∃ client, entry.1.body = setupM3 client) :
      SrpCourse prims pin transient a log (.error e)
  | proven {m2 m4 : List UInt8} {client : Srp.ClientSession}
      {serverPkAndSalt : List UInt8 × List UInt8} (read : readM2 m2 = .ok serverPkAndSalt)
      (computed : clientCompute prims pin serverPkAndSalt a = .ok client)
      (proof : readM4 client m4 = .ok ()) :
      SrpCourse prims pin transient a
        [(⟨"/pair-setup", setupM1 transient⟩, .ok m2), (⟨"/pair-setup", setupM3 client⟩, .ok m4)]
        (.ok client.sessionKey)

theorem srpCourse_of_trace {pin : String} {transient : Bool} {a : Nat} {log : Log}
    {result : Except PairingError (List UInt8)}
    (trace : Trace (pairSetupSrp prims pin transient a) log result) :
    SrpCourse prims pin transient a log result := by
  rw [pairSetupSrp, postSetup, trace_query] at trace
  rcases trace with ⟨e, rfl, rfl⟩ | ⟨m2, log, rfl, trace⟩
  · exact .failed fun entry mem => Or.inl (by rw [List.mem_singleton.mp mem])
  rw [trace_lift] at trace
  rcases trace with ⟨e, -, rfl, rfl⟩ | ⟨serverPkAndSalt, read, trace⟩
  · exact .failed fun entry mem => Or.inl (by rw [List.mem_singleton.mp mem])
  rw [trace_lift] at trace
  rcases trace with ⟨e, -, rfl, rfl⟩ | ⟨client, computed, trace⟩
  · exact .failed fun entry mem => Or.inl (by rw [List.mem_singleton.mp mem])
  have posts (answer : Except PairingError (List UInt8)) :
      ∀ entry ∈ ([(⟨"/pair-setup", setupM1 transient⟩, .ok m2),
        (⟨"/pair-setup", setupM3 client⟩, answer)] : Log),
        entry.1.body = setupM1 transient ∨ ∃ client, entry.1.body = setupM3 client := by
    intro entry mem
    rcases List.mem_pair.mp mem with rfl | rfl
    · exact Or.inl rfl
    · exact Or.inr ⟨client, rfl⟩
  rw [postSetup, trace_query] at trace
  rcases trace with ⟨e, rfl, rfl⟩ | ⟨m4, log, rfl, trace⟩
  · exact .failed (posts _)
  rw [trace_lift] at trace
  rcases trace with ⟨e, -, rfl, rfl⟩ | ⟨⟨⟩, proof, trace⟩
  · exact .failed (posts _)
  obtain ⟨rfl, rfl⟩ := trace_pure.mp trace
  exact .proven read computed proof

/-- The body carries something encrypted: in pairing, that is an identity. -/
def CarriesIdentity (body : List UInt8) : Prop :=
  ∃ items, decode body = .ok items ∧ (lookup items Tags.encryptedData).isSome

theorem not_carriesIdentity_setupM1 (transient : Bool) : ¬ CarriesIdentity (setupM1 transient) := by
  rintro ⟨items, decoded, carries⟩
  cases transient with
  | false =>
    have is : decode (setupM1 false) = _ := decode_encode (isApart_pair (by decide))
    cases decoded.symm.trans is
    cases carries
  | true =>
    have is : decode (setupM1 true) = _ :=
      decode_encode (isApart_triple (by decide) (by decide))
    cases decoded.symm.trans is
    cases carries

theorem not_carriesIdentity_setupM3 (client : Srp.ClientSession) :
    ¬ CarriesIdentity (setupM3 client) := by
  rintro ⟨items, decoded, carries⟩
  rw [setupM3, decode_encode (isApart_triple (by decide) (by decide))] at decoded
  cases decoded
  cases carries

/-- In M1 to M4 no identity is sent. -/
theorem SrpCourse.no_identity {pin : String} {transient : Bool} {a : Nat} {log : Log}
    {result : Except PairingError (List UInt8)}
    (course : SrpCourse prims pin transient a log result) :
    ∀ entry ∈ log, ¬ CarriesIdentity entry.1.body := by
  intro entry mem
  have bare : entry.1.body = setupM1 transient ∨ ∃ client, entry.1.body = setupM3 client := by
    cases course with
    | failed posts => exact posts entry mem
    | @proven _ _ client =>
      rcases List.mem_pair.mp mem with rfl | rfl
      · exact Or.inl rfl
      · exact Or.inr ⟨client, rfl⟩
  rcases bare with is | ⟨client, is⟩
  · rw [is]
    exact not_carriesIdentity_setupM1 transient
  · rw [is]
    exact not_carriesIdentity_setupM3 client

/-- What is read in M4 is the proof that was expected. -/
theorem proof_of_readM4 {client : Srp.ClientSession} {data : List UInt8}
    (read : readM4 client data = .ok ()) :
    ∃ items, decode data = .ok items ∧ (lookup items Tags.state).bind List.head? = some 4 ∧
      lookup items Tags.proof = some client.expectedM2 := by
  obtain ⟨m4, items, read⟩ := exists_of_bind_eq_ok read
  obtain ⟨decoded, state⟩ := decode_of_readItems items
  obtain ⟨proof, found, read⟩ := exists_of_bind_eq_ok read
  refine ⟨m4, decoded, state, ?_⟩
  rw [eq_some_of_okOr found]
  by_contra differs
  have wrong : proof ≠ client.expectedM2 := fun same => differs (congrArg some same)
  rw [if_pos wrong] at read
  cases read

/-- M5, with the key of the session. -/
theorem trace_identityExchange {sessionKey : List UInt8} {clientLtsk : Key}
    {clientPairingId : List Char} {log : Log} {result : Except PairingError PairSetupResult}
    (trace : Trace (pairSetupIdentityExchange prims sessionKey clientLtsk clientPairingId)
      log result) :
    ∃ answer, log =
      [(⟨"/pair-setup", setupM5 prims sessionKey clientLtsk clientPairingId⟩, answer)] := by
  rw [pairSetupIdentityExchange, postSetup, trace_query] at trace
  rcases trace with ⟨e, rfl, rfl⟩ | ⟨m6, log, rfl, trace⟩
  · exact ⟨_, rfl⟩
  rw [trace_lift] at trace
  rcases trace with ⟨e, -, rfl, rfl⟩ | ⟨_, -, trace⟩
  · exact ⟨_, rfl⟩
  obtain ⟨rfl, -⟩ := trace_pure.mp trace
  exact ⟨_, rfl⟩

/-- **The identity is for who has proved the PIN.**  Whoever answers: a post of pair-setup that
carries an identity is M5 under the session key, and the answer before it has proved the PIN
of this very key.  A transient pairing posts none. -/
theorem identity_needs_proof (prims : Primitives) (pin : String) (a : Nat) (clientLtsk : Key)
    (clientPairingId : List Char) :
    (∀ log result, Trace (pairSetup prims pin a clientLtsk clientPairingId) log result →
      ∀ p answer, (p, answer) ∈ log → CarriesIdentity p.body →
        ∃ client m1 m2 m4 items,
          p.body = setupM5 prims client.sessionKey clientLtsk clientPairingId ∧
          log = [(⟨"/pair-setup", m1⟩, .ok m2), (⟨"/pair-setup", setupM3 client⟩, .ok m4),
            (p, answer)] ∧
          decode m4 = .ok items ∧ lookup items Tags.proof = some client.expectedM2 ∧
          client.expectedM2 = Srp.hashM2 prims.sha512 client.publicA client.m1
            client.sessionKey) ∧
    ∀ log result, Trace (pairSetupTransient prims a) log result →
      ∀ entry ∈ log, ¬ CarriesIdentity entry.1.body := by
  constructor
  · intro log result trace p answer mem carries
    rw [pairSetup, trace_bind] at trace
    rcases trace with ⟨e, trace, rfl⟩ | ⟨sessionKey, front, rest, before, rfl, after⟩
    · exact absurd carries ((srpCourse_of_trace trace).no_identity _ mem)
    · have course := srpCourse_of_trace before
      have none := course.no_identity
      obtain ⟨answer', rfl⟩ := trace_identityExchange after
      rcases List.mem_append.mp mem with mem | mem
      · exact absurd carries (none _ mem)
      · cases List.mem_singleton.mp mem
        cases course with
        | @proven m2 m4 client _ read computed proof =>
          obtain ⟨items, decoded, -, found⟩ := proof_of_readM4 proof
          exact ⟨client, setupM1 false, m2, m4, items, rfl, rfl, decoded, found,
            (parts_of_clientCompute computed).2⟩
  · intro log result trace
    exact (srpCourse_of_trace trace).no_identity

/-! ## Pair-verify -/

/-- An exchange that an accessory has taken part in. -/
inductive Signing
  /-- It has answered M1 of pair-verify. -/
  | verify (draws : Draws) (clientEpk : Key)
  /-- It has answered M5 of pair-setup. -/
  | setup (sessionKey : List UInt8)

/-- What an accessory signs in an exchange. -/
def Accessory.signs (x : Accessory) (prims : Primitives) : Signing → List UInt8
  | .verify draws clientEpk =>
      serverInfo (prims.x25519.publicKey draws.secret).1 (Utf8.encode x.id) clientEpk.1
  | .setup sessionKey =>
      accessoryInfo prims sessionKey (Utf8.encode x.id) (prims.ed25519.verifyingKey x.ltsk).1

/-- The signatures that are read in the answers, under a key. -/
def shownSignatures (prims : Primitives) (key : Key) (log : Log) : List (List UInt8) :=
  log.filterMap fun entry => do
    let data ← entry.2.toOption
    let items ← (decode data).toOption
    let encrypted ← lookup items Tags.encryptedData
    let sub ← (openData prims key "PV-Msg02" "" encrypted).toOption
    lookup sub Tags.signature

/-- Nobody has forged a signature: what is shown and verifies under the key of the accessory
was signed by it, in one of its exchanges. -/
def Unforged (prims : Primitives) (x : Accessory) (signings : List Signing) (key : Key)
    (log : Log) : Prop :=
  ∀ sig ∈ shownSignatures prims key log, ∀ info,
    verify prims (prims.ed25519.verifyingKey x.ltsk) info sig = .ok () →
      ∃ signing ∈ signings, x.signs prims signing = info

/-- Two texts with keys of 32 bytes at both ends. -/
theorem ends_eq {front front' middle middle' back back' : List UInt8}
    (front32 : front.length = 32) (front32' : front'.length = 32) (back32 : back.length = 32)
    (back32' : back'.length = 32) (same : front ++ middle ++ back = front' ++ middle' ++ back') :
    front = front' ∧ middle = middle' ∧ back = back' := by
  obtain ⟨head, backs⟩ := List.append_inj' same (back32.trans back32'.symm)
  obtain ⟨fronts, middles⟩ := List.append_inj head (front32.trans front32'.symm)
  exact ⟨fronts, middles, backs⟩

/-- What is checked in M2. -/
structure ChecksM2 (prims : Primitives) (paired : PairedDevice) (clientSecret : Key)
    (data : List UInt8) (serverEpk key : Key) : Prop where
  meets : key = verifyKey prims (prims.x25519.diffieHellman clientSecret serverEpk)
  signed : ∃ items encrypted sub serverId sig, decode data = .ok items ∧
    lookup items Tags.encryptedData = some encrypted ∧
    (openData prims key "PV-Msg02" "" encrypted).toOption = some sub ∧
    lookup sub Tags.signature = some sig ∧
    verify prims paired.accessoryLtpk
      (serverInfo serverEpk.1 serverId (prims.x25519.publicKey clientSecret).1) sig = .ok ()

theorem checksM2_of_readVerifyM2 {paired : PairedDevice} {clientSecret serverEpk key : Key}
    {data : List UInt8} (read : readVerifyM2 prims paired clientSecret data = .ok (serverEpk, key)) :
    ChecksM2 prims paired clientSecret data serverEpk key := by
  obtain ⟨items, itemsOk, read⟩ := exists_of_bind_eq_ok read
  obtain ⟨epkBytes, -, read⟩ := exists_of_bind_eq_ok read
  obtain ⟨encrypted, encryptedOk, read⟩ := exists_of_bind_eq_ok read
  obtain ⟨epk, epkOk, read⟩ := exists_of_bind_eq_ok read
  obtain ⟨sub, subOk, read⟩ := exists_of_bind_eq_ok read
  obtain ⟨serverId, -, read⟩ := exists_of_bind_eq_ok read
  obtain ⟨sig, sigOk, read⟩ := exists_of_bind_eq_ok read
  obtain ⟨⟨⟩, verified, read⟩ := exists_of_bind_eq_ok read
  cases read
  refine ⟨rfl, items, encrypted, sub, serverId, sig, (decode_of_readItems itemsOk).1,
    eq_some_of_okOr encryptedOk, ?_, eq_some_of_okOr sigOk, ?_⟩
  · obtain ⟨plain, plainOk, decoded⟩ := exists_of_bind_eq_ok subOk
    show (openData prims _ "PV-Msg02" "" encrypted).toOption = _
    rw [openData, eq_some_of_okOr plainOk]
    show (decode plain).toOption = _
    rw [decoded]
    rfl
  · rw [← eq_of_tryInto epkOk]
    exact verified

/-- **Who verifies has the key.**  Whoever answers: if pair-verify returns a key, and nobody
has forged a signature of the accessory, then the accessory has answered the M1 of this very
flow, and has the same key.  What it signs in pair-setup cannot stand in for that, as long as
the ephemeral key is not its long-term one. -/
theorem verified_accessory_has_key {paired : PairedDevice} {x : Accessory}
    (ltpk : paired.accessoryLtpk = prims.ed25519.verifyingKey x.ltsk) {signings : List Signing}
    {clientSecret key : Key} {log : Log}
    (trace : Trace (pairVerify prims paired clientSecret) log (.ok key))
    (unforged : Unforged prims x signings key log)
    (ephemeral : prims.x25519.publicKey clientSecret ≠ prims.ed25519.verifyingKey x.ltsk) :
    ∃ draws, Signing.verify draws (prims.x25519.publicKey clientSecret) ∈ signings ∧
      draws.key prims (prims.x25519.publicKey clientSecret) = key := by
  rw [pairVerify, postVerify, trace_query] at trace
  rcases trace with ⟨e, -, failed⟩ | ⟨m2, log, rfl, trace⟩
  · cases failed
  rw [trace_lift] at trace
  rcases trace with ⟨e, -, -, failed⟩ | ⟨⟨serverEpk, key'⟩, read, trace⟩
  · cases failed
  have checks := checksM2_of_readVerifyM2 read
  have same : key' = key := by
    dsimp only at trace
    rw [postVerify, trace_query] at trace
    rcases trace with ⟨e, -, failed⟩ | ⟨m4, rest, rfl, trace⟩
    · cases failed
    rw [trace_lift] at trace
    rcases trace with ⟨e, -, -, failed⟩ | ⟨_, -, trace⟩
    · cases failed
    obtain ⟨-, ok⟩ := trace_pure.mp trace
    cases ok
    rfl
  subst same
  obtain ⟨items, encrypted, sub, serverId, sig, decoded, carries, opened, found, verified⟩ :=
    checks.signed
  have shown : sig ∈ shownSignatures prims key' ((⟨"/pair-verify",
      verifyM1 (prims.x25519.publicKey clientSecret)⟩, .ok m2) :: log) := by
    refine List.mem_filterMap.mpr ⟨_, List.mem_cons_self, ?_⟩
    show (decode m2).toOption.bind _ = _
    rw [decoded]
    show (lookup items Tags.encryptedData).bind _ = _
    rw [carries]
    show (openData prims key' "PV-Msg02" "" encrypted).toOption.bind _ = _
    rw [opened]
    exact found
  rw [ltpk] at verified
  obtain ⟨signing, mem, signed⟩ := unforged sig shown _ verified
  cases signing with
  | setup sessionKey =>
    obtain ⟨-, -, backs⟩ := ends_eq (prims.hkdfDerive _ _ _).2 serverEpk.2
      (prims.ed25519.verifyingKey x.ltsk).2 (prims.x25519.publicKey clientSecret).2 signed
    exact absurd (Subtype.ext backs.symm) ephemeral
  | verify draws clientEpk =>
    obtain ⟨fronts, -, backs⟩ := ends_eq (prims.x25519.publicKey draws.secret).2 serverEpk.2
      clientEpk.2 (prims.x25519.publicKey clientSecret).2 signed
    have epk : prims.x25519.publicKey draws.secret = serverEpk := Subtype.ext fronts
    have client : clientEpk = prims.x25519.publicKey clientSecret := Subtype.ext backs
    subst client
    refine ⟨draws, mem, ?_⟩
    rw [key_publicKey, epk]
    exact checks.meets.symm

/-- What the sample accessory signs for the client with the key of threes. -/
def sampleText : List UInt8 :=
  serverInfo (sampleKey 5).1 (Utf8.encode "accessory".toList) (sampleKey 3).1

/-- The sample accessory, after a pair-setup. -/
def samplePaired : Accessory :=
  (sampleAccessory "accessory".toList).filed (samplePrimitives sampleText) (sampleKey 9)
    "client".toList

/-- The signature in M2. -/
theorem shown_verifyM2 (c : Connection) (clientPublic : Key) {sig : List UInt8}
    (is : (do
      let data ← (Except.ok (c.verifyM2 prims clientPublic) :
        Except PairingError (List UInt8)).toOption
      let items ← (decode data).toOption
      let encrypted ← lookup items Tags.encryptedData
      let sub ← (openData prims (c.draws.key prims clientPublic) "PV-Msg02" "" encrypted).toOption
      lookup sub Tags.signature) = some sig) :
    (prims.ed25519.sign c.accessory.ltsk
      (serverInfo (prims.x25519.publicKey c.draws.secret).1 (Utf8.encode c.accessory.id)
        clientPublic.1)).1 = sig := by
  replace is : (decode (c.verifyM2 prims clientPublic)).toOption.bind _ = some sig := is
  rw [Connection.verifyM2, decode_encode (isApart_triple (by decide) (by decide))] at is
  replace is : (openData prims (c.draws.key prims clientPublic) "PV-Msg02" ""
    (prims.cipher.encrypt (c.draws.key prims clientPublic) (pairingNonce "PV-Msg02") []
      _)).toOption.bind _ = some sig := is
  rw [openData, prims.cipher.decrypt_encrypt] at is
  replace is : (decode (Tlv8.encode [⟨Tags.identifier, Utf8.encode c.accessory.id⟩,
    ⟨Tags.signature, _⟩])).toOption.bind _ = some sig := is
  rw [decode_encode (isApart_pair (by decide))] at is
  cases is
  rfl

/-- Only one text verifies with the sample signature. -/
theorem eq_sampleText {ltpk : Key} {info : List UInt8}
    (verified : verify (samplePrimitives sampleText) ltpk info
      (sampleSign sampleText sampleText).1 = .ok ()) : info = sampleText := by
  replace verified : (tryInto 64 _ (sampleSign sampleText sampleText).1 >>= fun sig =>
    if (sig == sampleSign sampleText info) = false then .error .ed25519 else .ok ()) =
      Except.ok () := verified
  rw [tryInto_val] at verified
  replace verified : (if (sampleSign sampleText sampleText == sampleSign sampleText info) = false
    then Except.error PairingError.ed25519 else .ok ()) = Except.ok () := verified
  by_contra differs
  have other : (sampleSign sampleText sampleText == sampleSign sampleText info) = false := by
    rw [sampleSign, sampleSign, if_pos rfl, if_neg differs]
    decide
  rw [if_pos other] at verified
  cases verified

/-- A flow with the accessory itself, which signs once. -/
theorem verified_accessory_has_key_sample :
    ∃ key log, Trace (pairVerify (samplePrimitives sampleText)
        (.from (setupResult (samplePrimitives sampleText) (sampleAccessory "accessory".toList)
          (sampleKey 9) "client".toList)) (sampleKey 3)) log (.ok key) ∧
      ∃ draws, Signing.verify draws (sampleKey 3) ∈ [Signing.verify sampleDraws (sampleKey 3)] ∧
        draws.key (samplePrimitives sampleText) (sampleKey 3) = key := by
  have whole := run_pairVerify (c := samplePaired.connect sampleDraws) rfl
    (knows_filed (sampleAccessory "accessory".toList)
      (sampleKey 9) "client".toList) (sampleKey 3)
  have trace := trace_run (faulty (samplePrimitives sampleText))
    (pairVerify (samplePrimitives sampleText)
      (.from (setupResult (samplePrimitives sampleText) (sampleAccessory "accessory".toList)
        (sampleKey 9) "client".toList)) (sampleKey 3)) (samplePaired.connect sampleDraws, [])
  rw [whole] at trace
  refine ⟨_, _, trace, verified_accessory_has_key (x := samplePaired) rfl trace ?_ (by decide)⟩
  intro sig shown info verified
  have first : sig = (sampleSign sampleText sampleText).1 := by
    obtain ⟨entry, mem, is⟩ := List.mem_filterMap.mp shown
    rcases List.mem_pair.mp mem with rfl | rfl
    · exact (shown_verifyM2 (samplePaired.connect sampleDraws) (sampleKey 3) is).symm
    · have decoded : decode (Tlv8.encode [itemU8 Tags.state 4]) = .ok [itemU8 Tags.state 4] :=
        decode_encode (List.isChain_singleton _)
      replace is : (decode (Tlv8.encode [itemU8 Tags.state 4])).toOption.bind _ = some sig := is
      rw [decoded] at is
      cases is
  refine ⟨_, List.mem_singleton_self _, ?_⟩
  rw [first] at verified
  exact (eq_sampleText verified).symm

end OpenPlay.Airplay.HapPairing
