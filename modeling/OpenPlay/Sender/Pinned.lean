import OpenPlay.Common.Net
import OpenPlay.Crypto.Fingerprint

/-!
# Finding the pinned receiver

`connect_to_receiver` of `casting.rs`.  A receiver advertises several addresses, some of
which are somebody else's, and they are tried one after the other.  A `Peer` is what is
met at an address, with the times that it takes in milliseconds; rustls asks the pinned
verifier about the certificate and goes on only if it is accepted.

`connects_to_first` says which connection is returned, and which addresses were dialled
for it.
-/

namespace OpenPlay.Sender

open Crypto

structure OpenPlayTarget where
  addrs : List SocketAddr
  fingerprint : List Char
  displayName : String
deriving DecidableEq

/-- What is met at an address. -/
inductive Peer
  /-- It makes no `wss` URL. -/
  | unusable (e : String)
  | refuses (after : Nat) (e : String)
  | silent
  /-- It presents a certificate; `rest` is what comes of the connection from there on,
  and when. -/
  | answers (der : List UInt8) (after : Nat) (rest : Option (Nat × Except String Unit))

/-- A signaling connection, by its far end. -/
structure Connection where
  addr : SocketAddr
  certificate : List UInt8
deriving DecidableEq

/-! ## The code -/

/-- `tokio::time::timeout` of what is ready after some time, or never. -/
def timeout {α : Type} (limit : Nat) : Option (Nat × α) → Nat × Option α
  | none => (limit, none)
  | some (after, a) => if after ≤ limit then (after, some a) else (limit, none)

/-- `HANDSHAKE_TIMEOUT`. -/
def handshakeTimeout : Nat := 10000

/-- `PER_ADDRESS_TIMEOUT`. -/
def perAddressTimeout : Nat := 5000

section Connect

variable (verify : List UInt8 → Except String Unit)

/-- `connect_async_tls_with_config`, as rustls conducts it. -/
def connecting (addr : SocketAddr) : Peer → Option (Nat × Except String Connection)
  | .unusable e => some (0, .error e)
  | .refuses after e => some (after, .error e)
  | .silent => none
  | .answers der after rest =>
      match verify der with
      | .error e => some (after, .error e)
      | .ok () => rest.map fun r => (after + r.1, r.2.map fun _ => ⟨addr, der⟩)

/-- `SignalingClient::connect`. -/
def signalingConnect (addr : SocketAddr) (peer : Peer) : Nat × Except String Connection :=
  match timeout handshakeTimeout (connecting verify addr peer) with
  | (after, some (.ok conn)) => (after, .ok conn)
  | (after, some (.error e)) =>
      (after, .error ("Connection failed: WebSocket connect failed: " ++ e))
  | (after, none) => (after, .error "Timeout")

/-- One turn of the loop: whether the address is dialled, and what comes of it. -/
def attempt (addr : SocketAddr) (peer : Peer) : Bool × Except String Connection :=
  match peer with
  | .unusable e => (false, .error e)
  | _ =>
      match timeout perAddressTimeout (some (signalingConnect verify addr peer)) with
      | (_, some result) => (true, result)
      | (_, none) => (true, .error "timed out")

/-- The loop over the addresses, for a peer at each of them. -/
def tryAddresses :
    (Nat → Peer) → List SocketAddr → Option String →
      List SocketAddr × Except String Connection
  | _, [], lastError =>
      ([], .error ("Could not reach the receiver on any advertised address (" ++
        lastError.getD "no addresses tried" ++ ")"))
  | peers, addr :: rest, _ =>
      let tried := attempt verify addr (peers 0)
      let dialled := if tried.1 then [addr] else []
      match tried.2 with
      | .ok conn => (dialled, .ok conn)
      | .error e =>
          let next := tryAddresses (fun i => peers (i + 1)) rest
            (some (String.ofList addr.toText ++ ": " ++ e))
          (dialled ++ next.1, next.2)

/-- `connect_to_receiver`: the addresses it dials, and what it returns. -/
def connectToReceiver (peers : Nat → Peer) (target : OpenPlayTarget) :
    List SocketAddr × Except String Connection :=
  if target.addrs.isEmpty then ([], .error "Receiver has no reachable address")
  else tryAddresses verify peers target.addrs none

end Connect

/-! ## An attempt -/

/-- A peer that completes a connection in time, with a certificate that `accepts`. -/
def Peer.Completes (accepts : List UInt8 → Prop) (peer : Peer) (der : List UInt8) : Prop :=
  ∃ after more, peer = .answers der after (some (more, .ok ())) ∧
    after + more ≤ perAddressTimeout ∧ accepts der

/-- An address that is dialled. -/
def Peer.isUsable : Peer → Bool
  | unusable _ => false
  | _ => true

section Attempt

variable {verify : List UInt8 → Except String Unit} {addr : SocketAddr} {peer : Peer}

theorem attempt_dials : (attempt verify addr peer).1 = peer.isUsable := by
  cases peer with
  | unusable e => rfl
  | refuses after e =>
      simp only [attempt, Peer.isUsable]
      split <;> rfl
  | silent =>
      simp only [attempt, Peer.isUsable]
      split <;> rfl
  | answers der after rest =>
      simp only [attempt, Peer.isUsable]
      split <;> rfl

theorem timeout_some_iff {α : Type} {limit : Nat} {f : Option (Nat × α)} {a : α} {after : Nat} :
    timeout limit f = (after, some a) ↔ f = some (after, a) ∧ after ≤ limit := by
  cases f with
  | none => simp [timeout]
  | some result =>
      obtain ⟨time, b⟩ := result
      simp only [timeout]
      split_ifs with soon <;> simp
      · rintro rfl rfl
        exact soon
      · rintro rfl -
        omega

/-- rustls conducts a connection to its end if the certificate is accepted. -/
theorem connecting_eq_ok_iff {after : Nat} {conn : Connection} :
    connecting verify addr peer = some (after, .ok conn) ↔
      ∃ first more, peer = .answers conn.certificate first (some (more, .ok ())) ∧
        after = first + more ∧ verify conn.certificate = .ok () ∧ conn.addr = addr := by
  cases peer with
  | unusable e => simp [connecting]
  | refuses first e => simp [connecting]
  | silent => simp [connecting]
  | answers der first rest =>
      cases verified : verify der with
      | error e =>
          simp only [connecting, verified]
          constructor
          · intro h
            cases h
          · rintro ⟨first', more, same, -, accepted, -⟩
            cases same
            rw [verified] at accepted
            cases accepted
      | ok accepted =>
          simp only [connecting, verified]
          constructor
          · intro h
            obtain ⟨⟨more, result⟩, hrest, h⟩ := Option.map_eq_some_iff.mp h
            cases result with
            | error e => cases h
            | ok _ =>
                cases h
                exact ⟨first, more, by rw [hrest], rfl, verified, rfl⟩
          · rintro ⟨first', more, same, rfl, -, rfl⟩
            cases same
            rfl

theorem signalingConnect_eq_ok_iff {after : Nat} {conn : Connection} :
    signalingConnect verify addr peer = (after, .ok conn) ↔
      connecting verify addr peer = some (after, .ok conn) ∧ after ≤ handshakeTimeout := by
  rw [← timeout_some_iff, signalingConnect]
  split <;> simp_all

theorem attempt_of_isUsable (usable : peer.isUsable = true) {conn : Connection} :
    (attempt verify addr peer).2 = .ok conn ↔
      ∃ after ≤ perAddressTimeout, signalingConnect verify addr peer = (after, .ok conn) := by
  have turn : (attempt verify addr peer).2 = .ok conn ↔
      ∃ after, timeout perAddressTimeout (some (signalingConnect verify addr peer)) =
        (after, some (.ok conn)) := by
    cases peer with
    | unusable e => cases usable
    | _ =>
        simp only [attempt]
        split <;> simp_all
  simp only [turn, timeout_some_iff, Option.some.injEq, and_comm]

/-- **An attempt succeeds** with a peer that completes the connection in time. -/
theorem attempt_eq_ok_iff {conn : Connection} :
    (attempt verify addr peer).2 = .ok conn ↔
      peer.Completes (verify · = .ok ()) conn.certificate ∧ conn.addr = addr := by
  cases usable : peer.isUsable with
  | false =>
      cases peer with
      | unusable e => exact iff_of_false nofun fun ⟨⟨_, _, same, _⟩, _⟩ => nomatch same
      | refuses _ _ => cases usable
      | silent => cases usable
      | answers _ _ _ => cases usable
  | true =>
      rw [attempt_of_isUsable usable]
      constructor
      · rintro ⟨after, soon, connected⟩
        obtain ⟨conducted, -⟩ := signalingConnect_eq_ok_iff.mp connected
        obtain ⟨first, more, same, rfl, accepted, here⟩ := connecting_eq_ok_iff.mp conducted
        exact ⟨⟨first, more, same, soon, accepted⟩, here⟩
      · rintro ⟨⟨first, more, same, soon, accepted⟩, here⟩
        -- the time limit of an address is the shorter one
        have inTime : perAddressTimeout ≤ handshakeTimeout := by decide
        exact ⟨first + more, soon, signalingConnect_eq_ok_iff.mpr
          ⟨connecting_eq_ok_iff.mpr ⟨first, more, same, rfl, accepted, here⟩,
            Nat.le_trans soon inTime⟩⟩

end Attempt

/-! ## The search -/

section Search

variable {verify : List UInt8 → Except String Unit} {peers : Nat → Peer}
variable {accepts : List UInt8 → Prop}

/-- The addresses of a list that make a URL. -/
def usable : (Nat → Peer) → List SocketAddr → List SocketAddr
  | _, [] => []
  | peers, addr :: rest =>
      (if (peers 0).isUsable then [addr] else []) ++ usable (fun i => peers (i + 1)) rest

/-- The first peer that completes a connection, with its place and its certificate. -/
def FirstToComplete (accepts : List UInt8 → Prop) (peers : Nat → Peer) (i : Nat)
    (der : List UInt8) : Prop :=
  (peers i).Completes accepts der ∧ ∀ j < i, ∀ der', ¬ (peers j).Completes accepts der'

theorem attempt_fails (addr : SocketAddr) {peer : Peer}
    (h : ∀ der, ¬ peer.Completes (verify · = .ok ()) der) :
    ∃ e, attempt verify addr peer = (peer.isUsable, .error e) := by
  cases result : (attempt verify addr peer).2 with
  | ok conn => exact absurd (attempt_eq_ok_iff.mp result).1 (h conn.certificate)
  | error e => exact ⟨e, Prod.ext attempt_dials result⟩

theorem attempt_succeeds {addr : SocketAddr} {peer : Peer} {der : List UInt8}
    (h : peer.Completes (verify · = .ok ()) der) :
    attempt verify addr peer = (peer.isUsable, .ok ⟨addr, der⟩) :=
  Prod.ext attempt_dials (attempt_eq_ok_iff.mpr ⟨h, rfl⟩)

/-- The search ends with the first address whose peer completes a connection. -/
theorem tryAddresses_of_first {addrs : List SocketAddr} {i : Nat} {addr : SocketAddr}
    {der : List UInt8} (at' : addrs[i]? = some addr)
    (first : FirstToComplete (verify · = .ok ()) peers i der) (lastError : Option String) :
    tryAddresses verify peers addrs lastError =
      (usable peers (addrs.take (i + 1)), .ok ⟨addr, der⟩) := by
  induction addrs generalizing peers i lastError with
  | nil => cases at'
  | cons a addrs ih =>
      cases i with
      | zero =>
          cases at'
          rw [tryAddresses, attempt_succeeds first.1]
          simp [usable]
      | succ i =>
          obtain ⟨e, failed⟩ := attempt_fails a (first.2 0 (Nat.succ_pos i))
          have later : FirstToComplete (verify · = .ok ()) (fun j => peers (j + 1)) i der :=
            ⟨first.1, fun j hj => first.2 (j + 1) (Nat.succ_lt_succ hj)⟩
          rw [tryAddresses, failed]
          simp only [ih at' later]
          rw [List.take_succ_cons, usable]

/-- The search fails if there is no such address. -/
theorem tryAddresses_of_none {addrs : List SocketAddr}
    (none : ∀ i < addrs.length, ∀ der, ¬ (peers i).Completes (verify · = .ok ()) der)
    (lastError : Option String) : ∃ e, tryAddresses verify peers addrs lastError =
      (usable peers addrs, .error e) := by
  induction addrs generalizing peers lastError with
  | nil => exact ⟨_, rfl⟩
  | cons a addrs ih =>
      obtain ⟨e, failed⟩ := attempt_fails a (none 0 (Nat.succ_pos _))
      obtain ⟨e', rest⟩ := ih (fun i hi => none (i + 1) (Nat.succ_lt_succ hi))
        (some (String.ofList a.toText ++ ": " ++ e))
      refine ⟨e', ?_⟩
      rw [tryAddresses, failed]
      simp only [rest]
      rw [usable]

/-- Either some peer is the first to complete a connection, or none does. -/
theorem exists_first_or (accepts : List UInt8 → Prop) (peers : Nat → Peer) (n : Nat) :
    (∃ i < n, ∃ der, FirstToComplete accepts peers i der) ∨
      ∀ i < n, ∀ der, ¬ (peers i).Completes accepts der := by
  induction n with
  | zero => exact Or.inr fun i hi => absurd hi (Nat.not_lt_zero i)
  | succ n ih =>
      rcases ih with ⟨i, hi, first⟩ | none
      · exact Or.inl ⟨i, Nat.lt_succ_of_lt hi, first⟩
      · by_cases last : ∃ der, (peers n).Completes accepts der
        · obtain ⟨der, completes⟩ := last
          exact Or.inl ⟨n, Nat.lt_succ_self n, der, completes, none⟩
        · refine Or.inr fun i hi => ?_
          rcases Nat.lt_succ_iff_lt_or_eq.mp hi with hi | rfl
          · exact none i hi
          · exact not_exists.mp last

end Search

section Connects

variable {verify : List UInt8 → Except String Unit} {peers : Nat → Peer}
variable {target : OpenPlayTarget}

theorem connectToReceiver_of_first {i : Nat} {addr : SocketAddr} {der : List UInt8}
    (at' : target.addrs[i]? = some addr)
    (first : FirstToComplete (verify · = .ok ()) peers i der) :
    connectToReceiver verify peers target =
      (usable peers (target.addrs.take (i + 1)), .ok ⟨addr, der⟩) := by
  have some : ¬ target.addrs.isEmpty = true := by
    intro empty
    rw [List.isEmpty_iff.mp empty] at at'
    cases at'
  rw [connectToReceiver, if_neg some, tryAddresses_of_first at' first]

theorem connectToReceiver_of_none
    (none : ∀ i < target.addrs.length, ∀ der, ¬ (peers i).Completes (verify · = .ok ()) der) :
    ∃ e, (connectToReceiver verify peers target).2 = .error e := by
  rw [connectToReceiver]
  split_ifs
  · exact ⟨_, rfl⟩
  · obtain ⟨e, run⟩ := tryAddresses_of_none none Option.none
    exact ⟨e, congrArg Prod.snd run⟩

/-- The two ends of a search. -/
theorem connectToReceiver_cases (verify : List UInt8 → Except String Unit)
    (peers : Nat → Peer) (target : OpenPlayTarget) :
    (∃ i addr der, target.addrs[i]? = some addr ∧
      FirstToComplete (verify · = .ok ()) peers i der ∧
      (connectToReceiver verify peers target).2 = .ok ⟨addr, der⟩) ∨
    (∀ i < target.addrs.length, ∀ der, ¬ (peers i).Completes (verify · = .ok ()) der) ∧
      ∃ e, (connectToReceiver verify peers target).2 = .error e := by
  rcases exists_first_or (verify · = .ok ()) peers target.addrs.length with
    ⟨i, hi, der, first⟩ | none
  · have at' := List.getElem?_eq_getElem hi
    exact Or.inl ⟨i, _, der, at', first, congrArg Prod.snd (connectToReceiver_of_first at' first)⟩
  · exact Or.inr ⟨none, connectToReceiver_of_none none⟩

end Connects

/-- **Only the pinned receiver is cast to.**  A fingerprint that has not 64 digits makes
no configuration.  With one that has, the connection is to the first address whose peer
completes it in time with a certificate whose hash the digits spell, no later address is
dialled, and there is no connection if there is no such address. -/
theorem connects_to_first (sha256 : Sha256) (target : OpenPlayTarget) (peers : Nat → Peer)
    (hasVersions : Bool) :
    ((hexValues target.fingerprint).length ≠ 64 →
      ∃ e, clientConfigPinned hasVersions target.fingerprint = .error e) ∧
    (∀ config, clientConfigPinned hasVersions target.fingerprint = .ok config →
      let accepts := fun der => nibbles (sha256 der).toList = hexValues target.fingerprint
      let run := connectToReceiver (config.verifyServerCert sha256) peers target
      (∀ i addr der, target.addrs[i]? = some addr → FirstToComplete accepts peers i der →
        run = (usable peers (target.addrs.take (i + 1)), .ok ⟨addr, der⟩)) ∧
      (∀ conn, run.2 = .ok conn →
        ∃ i, target.addrs[i]? = some conn.addr ∧
          FirstToComplete accepts peers i conn.certificate) ∧
      ((∃ e, run.2 = .error e) ↔
        ∀ i < target.addrs.length, ∀ der, ¬ (peers i).Completes accepts der)) ∧
    (∀ der text, hexValues text = hexValues (certificateFingerprint sha256 der) →
      ∃ config, clientConfigPinned true text = .ok config ∧
        config.verifyServerCert sha256 der = .ok ()) := by
  refine ⟨fun short => ?_, fun config made => ?_, fun der text same => ?_⟩
  · cases made : clientConfigPinned hasVersions target.fingerprint with
    | error e => exact ⟨e, rfl⟩
    | ok config => exact absurd (clientConfigPinned_eq_ok_iff.mp made).1 short
  · obtain ⟨-, -, rfl⟩ := clientConfigPinned_eq_ok_iff.mp made
    have pinned : (fun der => nibbles (sha256 der).toList = hexValues target.fingerprint) =
        fun der => (PinnedCertVerifier.mk (normaliseFingerprint target.fingerprint)).verifyServerCert
          sha256 der = .ok () := by
      funext der
      exact propext verifyServerCert_eq_ok_iff.symm
    rw [pinned]
    have ends := connectToReceiver_cases
      ((PinnedCertVerifier.mk (normaliseFingerprint target.fingerprint)).verifyServerCert sha256)
      peers target
    refine ⟨fun i addr der => connectToReceiver_of_first, fun conn returned => ?_, ?_⟩
    · rcases ends with ⟨i, addr, der, at', first, run⟩ | ⟨-, e, run⟩
      · rw [run] at returned
        cases returned
        exact ⟨i, at', first⟩
      · rw [run] at returned
        cases returned
    · refine ⟨fun ⟨e, failed⟩ => ?_, connectToReceiver_of_none⟩
      rcases ends with ⟨i, addr, der, at', first, run⟩ | ⟨none, -⟩
      · rw [run] at failed
        cases failed
      · exact none
  · refine ⟨⟨normaliseFingerprint text⟩, clientConfigPinned_eq_ok_iff.mpr ⟨?_, rfl, rfl⟩,
      verifyServerCert_eq_ok_iff.mpr ?_⟩
    · rw [same, hexValues_certificateFingerprint, length_nibbles, Vector.length_toList]
    · rw [same, hexValues_certificateFingerprint]

end OpenPlay.Sender
