import OpenPlay.Foundation.BigNumber
import OpenPlay.Foundation.Utf8
import Mathlib.Data.ZMod.Basic
import Mathlib.Tactic.Ring

/-!
# SRP-6a

The client half of the pairing handshake (`client_compute`) and the server half
of RFC 5054 (`RefServer`), over an arbitrary hash function in the place of
SHA-512.  A subtraction below zero panics, so the client's answer is `none`
where one would happen.

The two halves compute the shared secret along different ways: the client takes
`k * g^x` off the server's public key and raises what is left to `a + u * x`,
the server raises `A * v^u` to `b`.  That the ways meet is one identity of
commutative rings (`secrets_meet`); the residues modulo `N` inherit it
(`clientSecret_eq_serverSecret`).  Everything else the two hash is the same
bytes, because padding forgets leading zeros (`BigNumber.ofBytes_pad`).
-/

namespace OpenPlay.Srp

open BigNumber (ofBytes toBytes pad checkedSub modpow)

/-! ## The group -/

/-- `SRP_N_HEX`, a word of 256 bits for each of its lines. -/
def srpNHex : List Nat :=
  [0xFFFFFFFFFFFFFFFFC90FDAA22168C234C4C6628B80DC1CD129024E088A67CC74,
   0x020BBEA63B139B22514A08798E3404DDEF9519B3CD3A431B302B0A6DF25F1437,
   0x4FE1356D6D51C245E485B576625E7EC6F44C42E9A637ED6B0BFF5CB6F406B7ED,
   0xEE386BFB5A899FA5AE9F24117C4B1FE649286651ECE45B3DC2007CB8A163BF05,
   0x98DA48361C55D39A69163FA8FD24CF5F83655D23DCA3AD961C62F356208552BB,
   0x9ED529077096966D670C354E4ABC9804F1746C08CA18217C32905E462E36CE3B,
   0xE39E772C180E86039B2783A2EC07A28FB5C55DF06F4C52C9DE2BCBF695581718,
   0x3995497CEA956AE515D2261898FA051015728E5A8AAAC42DAD33170D04507A33,
   0xA85521ABDF1CBA64ECFB850458DBEF0A8AEA71575D060C7DB3970F85A6E1E4C7,
   0xABF5AE8CDB0933D71E8C94E04A25619DCEE3D2261AD2EE6BF12FFA06D98A0864,
   0xD87602733EC86A64521F2B18177B200CBBE117577A615D6C770988C0BAD946E2,
   0x08E24FA074E5AB3143DB5BFCE0FD108E4B82D120A93AD2CAFFFFFFFFFFFFFFFF]

/-- `SRP_G`. -/
def srpG : Nat := 5

/-- `group_n`: the modulus. -/
@[irreducible] def groupN : Nat :=
  srpNHex.foldl (fun n word => n * 2 ^ 256 + word) 0

theorem ten_lt_groupN : 10 < groupN := by
  rw [groupN]
  decide

theorem groupN_pos : 0 < groupN :=
  Nat.lt_trans (by decide) ten_lt_groupN

/-! ## Padding and zero -/

/-- `pad_to_n`. -/
def padToN (value n : Nat) : List UInt8 := pad (toBytes n).length (toBytes value)

/-- `is_zero_value`. -/
def isZeroValue (value : Nat) : Bool := toBytes value == [0]

theorem isZeroValue_iff (value : Nat) : isZeroValue value = true ↔ value = 0 := by
  rw [isZeroValue, beq_iff_eq]
  exact BigNumber.toBytes_eq_zero_iff value

/-! ## Both halves -/

/-- `str::as_bytes`. -/
def asBytes (text : String) : List UInt8 := Utf8.encode text.toList

section Hash

variable (sha512 : List UInt8 → List UInt8)

/-- `x = H(s | H(I | ":" | P))`. -/
def hashX (username password : String) (salt : List UInt8) : Nat :=
  let inner := sha512 (asBytes username ++ asBytes ":" ++ asBytes password)
  ofBytes (sha512 (salt ++ inner))

/-- `u = H(PAD(A) | PAD(B))`. -/
def hashU (aPadded bPadded : List UInt8) : Nat := ofBytes (sha512 (aPadded ++ bPadded))

/-- `k = H(N | PAD(g))`. -/
def hashK (n g : Nat) : Nat := ofBytes (sha512 (toBytes n ++ padToN g n))

/-- `M1 = H(H(N) XOR H(g) | H(I) | s | A | B | K)`. -/
def hashM1 (n g : Nat) (username : String)
    (salt aPadded bPadded sessionKey : List UInt8) : List UInt8 :=
  let hashN := sha512 (toBytes n)
  let hashG := sha512 (toBytes g)
  let hashXor := hashN.zipWith (· ^^^ ·) hashG
  sha512 (hashXor ++ sha512 (asBytes username) ++ salt ++ aPadded ++ bPadded ++ sessionKey)

/-- `M2 = H(A | M1 | K)`. -/
def hashM2 (aPadded m1 sessionKey : List UInt8) : List UInt8 :=
  sha512 (aPadded ++ m1 ++ sessionKey)

/-! ## The client -/

/-- What the client needs for M3 and M4. -/
structure ClientSession where
  publicA : List UInt8
  m1 : List UInt8
  sessionKey : List UInt8
  expectedM2 : List UInt8
deriving DecidableEq

/-- `client_compute`. -/
def clientCompute (username password : String) (salt serverPublic : List UInt8)
    (a : Nat) : Option (Except String ClientSession) :=
  let n := groupN
  let g := srpG
  let bigB := ofBytes serverPublic
  if isZeroValue (bigB % n) then
    some (.error "SRP: server public key B is congruent to 0 mod N; aborting")
  else
    let bigA := modpow g a n
    let aPadded := padToN bigA n
    let bPadded := padToN bigB n
    let u := hashU sha512 aPadded bPadded
    if isZeroValue u then
      some (.error "SRP: u is zero; aborting")
    else
      let x := hashX sha512 username password salt
      let k := hashK sha512 n g
      let gx := modpow g x n
      let kgx := k * gx % n
      match checkedSub (bigB + n) kgx with
      | none => none
      | some difference =>
          let base := difference % n
          let exp := a + u * x
          let bigS := modpow base exp n
          let sessionKey := sha512 (padToN bigS n)
          let m1 := hashM1 sha512 n g username salt aPadded bPadded sessionKey
          let expectedM2 := hashM2 sha512 aPadded m1 sessionKey
          some (.ok ⟨aPadded, m1, sessionKey, expectedM2⟩)

/-! ## The server -/

/-- `RefServer`: the server side of RFC 5054. -/
structure RefServer where
  n : Nat
  g : Nat
  salt : List UInt8
  v : Nat
  b : Nat
  bigB : Nat

/-- `RefServer::new`. -/
def RefServer.new (username password : String) (salt : List UInt8) (b : Nat) :
    RefServer :=
  let n := groupN
  let g := srpG
  let x := hashX sha512 username password salt
  let v := modpow g x n
  let k := hashK sha512 n g
  let bigB := (k * v + modpow g b n) % n
  ⟨n, g, salt, v, b, bigB⟩

/-- The key of `RefServer::finish`. -/
def RefServer.key (server : RefServer) (aPadded : List UInt8) : List UInt8 :=
  let bigA := ofBytes aPadded
  let bPadded := padToN server.bigB server.n
  let u := hashU sha512 aPadded bPadded
  let s := modpow (bigA * modpow server.v u server.n % server.n) server.b server.n
  sha512 (padToN s server.n)

/-- `RefServer::finish`: M1 and M2. -/
def RefServer.finish (server : RefServer) (username : String) (aPadded : List UInt8) :
    List UInt8 × List UInt8 :=
  let bPadded := padToN server.bigB server.n
  let key := server.key sha512 aPadded
  let m1 := hashM1 sha512 server.n server.g username server.salt aPadded bPadded key
  let m2 := hashM2 sha512 aPadded m1 key
  (m1, m2)

end Hash

/-! ## The shared secret -/

/-- **The two ways meet.**  What is left of the server's public key is `g^b`,
and both sides come to `g^(b * (a + u * x))`. -/
theorem secrets_meet {R : Type*} [CommRing R] (g k : R) (a b u x : Nat) :
    (k * g ^ x + g ^ b - k * g ^ x) ^ (a + u * x) = (g ^ a * (g ^ x) ^ u) ^ b := by
  have hleft : k * g ^ x + g ^ b - k * g ^ x = g ^ b := by ring
  have hright : g ^ a * (g ^ x) ^ u = g ^ (a + u * x) := by
    rw [← pow_mul, ← pow_add, Nat.mul_comm x u]
  rw [hleft, hright, ← pow_mul, ← pow_mul, Nat.mul_comm b]

theorem cast_modpow (n base exponent : Nat) :
    ((modpow base exponent n : Nat) : ZMod n) = (base : ZMod n) ^ exponent := by
  rw [BigNumber.modpow_eq, ZMod.natCast_mod, Nat.cast_pow]

/-- The residues inherit it. -/
theorem clientSecret_eq_serverSecret (n : Nat) (hn : 0 < n) (g k a b u x : Nat) :
    let v := modpow g x n
    let bigB := (k * v + modpow g b n) % n
    modpow ((bigB + n - k * modpow g x n % n) % n) (a + u * x) n =
      modpow (modpow g a n * modpow v u n % n) b n := by
  intro v bigB
  have hle : k * modpow g x n % n ≤ bigB + n :=
    Nat.le_trans (Nat.mod_lt _ hn).le (Nat.le_add_left n bigB)
  have hcast := secrets_meet (g : ZMod n) (k : ZMod n) a b u x
  rw [BigNumber.modpow_eq, BigNumber.modpow_eq _ b, ← ZMod.natCast_eq_natCast_iff']
  simp only [bigB, v, Nat.cast_pow, ZMod.natCast_mod, Nat.cast_sub hle, Nat.cast_add,
    Nat.cast_mul, cast_modpow, ZMod.natCast_self, add_zero]
  exact hcast

/-! ## Agreement -/

section Agreement

variable (sha512 : List UInt8 → List UInt8)

theorem ofBytes_padToN (value n : Nat) : ofBytes (padToN value n) = value :=
  BigNumber.ofBytes_pad _ value

theorem length_padToN {value n : Nat} (h : value ≤ n) :
    (padToN value n).length = (toBytes n).length :=
  BigNumber.length_pad h

/-- The client aborts on the two values that RFC 5054 names. -/
theorem clientCompute_eq_error (username password : String)
    (salt serverPublic : List UInt8) (a : Nat)
    (h : ofBytes serverPublic % groupN = 0 ∨
      hashU sha512 (padToN (modpow srpG a groupN) groupN)
        (padToN (ofBytes serverPublic) groupN) = 0) :
    ∃ error, clientCompute sha512 username password salt serverPublic a =
      some (.error error) := by
  by_cases hB : ofBytes serverPublic % groupN = 0
  · exact ⟨_, if_pos ((isZeroValue_iff _).mpr hB)⟩
  · have hu := h.resolve_left hB
    refine ⟨_, (if_neg fun hz => hB ((isZeroValue_iff _).mp hz)).trans
      (if_pos ((isZeroValue_iff _).mpr hu))⟩

/-- On every other public key it answers, with the subtraction above zero. -/
theorem clientCompute_eq_ok (username password : String)
    (salt serverPublic : List UInt8) (a : Nat)
    (hB : ofBytes serverPublic % groupN ≠ 0)
    (hu : hashU sha512 (padToN (modpow srpG a groupN) groupN)
      (padToN (ofBytes serverPublic) groupN) ≠ 0) :
    let bigB := ofBytes serverPublic
    let aPadded := padToN (modpow srpG a groupN) groupN
    let bPadded := padToN bigB groupN
    let x := hashX sha512 username password salt
    let kgx := hashK sha512 groupN srpG * modpow srpG x groupN % groupN
    let secret := modpow ((bigB + groupN - kgx) % groupN)
      (a + hashU sha512 aPadded bPadded * x) groupN
    let key := sha512 (padToN secret groupN)
    let m1 := hashM1 sha512 groupN srpG username salt aPadded bPadded key
    clientCompute sha512 username password salt serverPublic a =
      some (.ok ⟨aPadded, m1, key, hashM2 sha512 aPadded m1 key⟩) := by
  intro bigB aPadded bPadded x kgx secret key m1
  have hle : kgx ≤ bigB + groupN :=
    Nat.le_trans (Nat.mod_lt _ groupN_pos).le (Nat.le_add_left groupN bigB)
  rw [clientCompute]
  simp only
  rw [if_neg fun hz => hB ((isZeroValue_iff _).mp hz),
    if_neg fun hz => hu ((isZeroValue_iff _).mp hz),
    BigNumber.checkedSub_of_le hle]

/-- **Client and server agree.**  For every credential, salt, exponents and
number of leading zeros of the server's public key: unless the key is 0 modulo
`N` or `u` is 0, the client succeeds, sends a public key of the length of `N`
and computes the server's key and proofs.  On any bytes it aborts exactly on
these two values, and no subtraction goes below zero. -/
theorem client_and_server_agree (username password : String) (salt : List UInt8)
    (a b zeros : Nat) :
    (let server := RefServer.new sha512 username password salt b
     let serverPublic := List.replicate zeros 0 ++ toBytes server.bigB
     let u := hashU sha512 (padToN (modpow srpG a groupN) groupN)
      (padToN server.bigB groupN)
     server.bigB % groupN ≠ 0 → u ≠ 0 →
      ∃ session, clientCompute sha512 username password salt serverPublic a =
          some (.ok session) ∧
        session.publicA.length = (toBytes groupN).length ∧
        session.sessionKey = server.key sha512 session.publicA ∧
        (session.m1, session.expectedM2) =
          server.finish sha512 username session.publicA) ∧
    ∀ serverPublic : List UInt8,
      let bigB := ofBytes serverPublic
      let u := hashU sha512 (padToN (modpow srpG a groupN) groupN)
        (padToN bigB groupN)
      clientCompute sha512 username password salt serverPublic a ≠ none ∧
      ((∃ error, clientCompute sha512 username password salt serverPublic a =
        some (.error error)) ↔ bigB % groupN = 0 ∨ u = 0) := by
  constructor
  · intro server serverPublic u hB hu
    have hvalue : ofBytes serverPublic = server.bigB := by
      rw [BigNumber.ofBytes_replicate_append, BigNumber.ofBytes_toBytes]
    have hok := clientCompute_eq_ok sha512 username password salt serverPublic a
      (by rwa [hvalue]) (by rwa [hvalue])
    simp only [hvalue] at hok
    have hlt := BigNumber.modpow_lt srpG a groupN_pos
    have hkey : sha512 (padToN (modpow ((server.bigB + groupN -
          hashK sha512 groupN srpG *
            modpow srpG (hashX sha512 username password salt) groupN % groupN) %
          groupN) (a + u * hashX sha512 username password salt) groupN) groupN) =
        server.key sha512 (padToN (modpow srpG a groupN) groupN) := by
      rw [RefServer.key]
      simp only [ofBytes_padToN]
      have hmeet := clientSecret_eq_serverSecret groupN groupN_pos srpG
        (hashK sha512 groupN srpG) a b u (hashX sha512 username password salt)
      exact congrArg (fun s => sha512 (padToN s groupN)) hmeet
    refine ⟨_, hok, length_padToN hlt.le, hkey, ?_⟩
    rw [RefServer.finish]
    simp only
    rw [← hkey]
    rfl
  · intro serverPublic bigB u
    by_cases h : bigB % groupN = 0 ∨ u = 0
    · obtain ⟨error, herror⟩ :=
        clientCompute_eq_error sha512 username password salt serverPublic a h
      rw [herror]
      exact ⟨Option.some_ne_none _, fun _ => h, fun _ => ⟨error, rfl⟩⟩
    · have hok := clientCompute_eq_ok sha512 username password salt serverPublic a
        (fun hB => h (Or.inl hB)) (fun hu => h (Or.inr hu))
      rw [hok]
      refine ⟨Option.some_ne_none _, fun herror => ?_, fun hbad => absurd hbad h⟩
      obtain ⟨error, herror⟩ := herror
      cases herror

/-- A hash that is always 1, and a public key with two leading zeros. -/
theorem client_and_server_agree_on_unit_hash :
    let sha512 : List UInt8 → List UInt8 := fun _ => List.replicate 63 0 ++ [1]
    let server := RefServer.new sha512 "Pair-Setup" "3939" [0x11] 1
    let serverPublic := List.replicate 2 0 ++ toBytes server.bigB
    ∃ session, clientCompute sha512 "Pair-Setup" "3939" [0x11] serverPublic 1 =
        some (.ok session) ∧
      session.sessionKey = server.key sha512 session.publicA := by
  intro sha512 server serverPublic
  have hone : ofBytes (List.replicate 63 0 ++ [1]) = 1 := by
    rw [BigNumber.ofBytes_replicate_append]
    rfl
  have hfive : modpow srpG 1 groupN = 5 := by
    rw [BigNumber.modpow_eq, pow_one]
    exact Nat.mod_eq_of_lt (Nat.lt_trans (by decide) ten_lt_groupN)
  have hB : server.bigB = 10 := by
    show (ofBytes (List.replicate 63 0 ++ [1]) *
        modpow srpG (ofBytes (List.replicate 63 0 ++ [1])) groupN +
        modpow srpG 1 groupN) % groupN = 10
    rw [hone, hfive]
    exact Nat.mod_eq_of_lt ten_lt_groupN
  obtain ⟨session, hok, -, hkey, -⟩ :=
    (client_and_server_agree sha512 "Pair-Setup" "3939" [0x11] 1 1 2).1
      (by
        show server.bigB % groupN ≠ 0
        rw [hB, Nat.mod_eq_of_lt ten_lt_groupN]
        decide)
      (by
        show ofBytes (List.replicate 63 0 ++ [1]) ≠ 0
        rw [hone]
        decide)
  exact ⟨session, hok, hkey⟩

end Agreement

end OpenPlay.Srp
