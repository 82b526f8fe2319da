import OpenPlay.Foundation.Text

/-!
# Pinning a certificate

`certificate_fingerprint` and the verifier of `openplay-crypto`.  A fingerprint is a
text, advertised in one form and computed in another, and two of them are compared after
`normalise_fingerprint`.  `hexValues` is what such a text says: the values of its
hexadecimal digits.

* `normaliseFingerprint_inj`: texts are the same to the verifier if they say the same
* `hexValues_certificateFingerprint`: a fingerprint says the bytes of the hash
-/

namespace OpenPlay.Crypto

/-! ## The code -/

/-- `Sha256::digest`. -/
abbrev Sha256 := List UInt8 → Vector UInt8 32

/-- `char::is_ascii_hexdigit`. -/
def isAsciiHexdigit (c : Char) : Bool :=
  ('0' ≤ c ∧ c ≤ '9') ∨ ('A' ≤ c ∧ c ≤ 'F') ∨ ('a' ≤ c ∧ c ≤ 'f')

/-- `normalise_fingerprint`. -/
def normaliseFingerprint (s : List Char) : List Char :=
  (s.filter isAsciiHexdigit).map Char.toLower

/-- `certificate_fingerprint`. -/
def certificateFingerprint (sha256 : Sha256) (der : List UInt8) : List Char :=
  [':'].intercalate ((sha256 der).toList.map fun b => Text.paddedDigits 16 2 b.toNat)

/-- `PinnedCertVerifier`, without the algorithms of the crypto provider. -/
structure PinnedCertVerifier where
  expected : List Char
deriving DecidableEq

/-- `client_config_pinned`; the crypto provider has the default protocol versions, or it
has not. -/
def clientConfigPinned (hasVersions : Bool) (expectedFingerprint : List Char) :
    Except String PinnedCertVerifier :=
  let normalised := normaliseFingerprint expectedFingerprint
  if normalised.length ≠ 64 then
    .error s!"Expected a 64-hex-digit SHA-256 fingerprint, got {normalised.length} digits"
  else if hasVersions then .ok ⟨normalised⟩
  else .error "Failed to select TLS protocol versions"

/-- `verify_server_cert`. -/
def PinnedCertVerifier.verifyServerCert (verifier : PinnedCertVerifier) (sha256 : Sha256)
    (endEntity : List UInt8) : Except String Unit :=
  let presented := normaliseFingerprint (certificateFingerprint sha256 endEntity)
  if presented = verifier.expected then .ok ()
  else .error ("certificate fingerprint mismatch: receiver presented " ++
    String.ofList presented ++ ", mDNS advertised " ++ String.ofList verifier.expected)

/-! ## What a fingerprint says -/

/-- The value of a hexadecimal digit. -/
def hexValue (c : Char) : Option Nat := (Text.digitValue c).filter (· < 16)

/-- The values of the hexadecimal digits of a text. -/
def hexValues (s : List Char) : List Nat := s.filterMap hexValue

/-- The two digits of each byte. -/
def nibbles (bytes : List UInt8) : List Nat :=
  bytes.flatMap fun b => [b.toNat / 16, b.toNat % 16]

/-- A character between two others. -/
theorem exists_ofNat_of_le {lo c hi : Char} (h : lo ≤ c) (h' : c ≤ hi) :
    ∃ k ≤ hi.toNat - lo.toNat, c = Char.ofNat (lo.toNat + k) := by
  have hlo : lo.toNat ≤ c.toNat := UInt32.le_iff_toNat_le.mp (Char.le_def.mp h)
  have hhi : c.toNat ≤ hi.toNat := UInt32.le_iff_toNat_le.mp (Char.le_def.mp h')
  refine ⟨c.toNat - lo.toNat, by omega, ?_⟩
  rw [Nat.add_sub_cancel' hlo, Char.ofNat_toNat]

/-- A hexadecimal digit has a value, and in lower case only the value is left of it. -/
theorem hexValue_of_isAsciiHexdigit {c : Char} (h : isAsciiHexdigit c = true) :
    ∃ v < 16, hexValue c = some v ∧ c.toLower = (Text.digitChar v).toLower := by
  have digit : ∀ k : Fin 10, ∃ v < 16, hexValue (Char.ofNat ('0'.toNat + k)) = some v ∧
      (Char.ofNat ('0'.toNat + k)).toLower = (Text.digitChar v).toLower := by decide
  have upper : ∀ k : Fin 6, ∃ v < 16, hexValue (Char.ofNat ('A'.toNat + k)) = some v ∧
      (Char.ofNat ('A'.toNat + k)).toLower = (Text.digitChar v).toLower := by decide
  have lower : ∀ k : Fin 6, ∃ v < 16, hexValue (Char.ofNat ('a'.toNat + k)) = some v ∧
      (Char.ofNat ('a'.toNat + k)).toLower = (Text.digitChar v).toLower := by decide
  rcases of_decide_eq_true h with ⟨lo, hi⟩ | ⟨lo, hi⟩ | ⟨lo, hi⟩
  · obtain ⟨k, hk, rfl⟩ := exists_ofNat_of_le lo hi
    exact digit ⟨k, Nat.lt_succ_of_le hk⟩
  · obtain ⟨k, hk, rfl⟩ := exists_ofNat_of_le lo hi
    exact upper ⟨k, Nat.lt_succ_of_le hk⟩
  · obtain ⟨k, hk, rfl⟩ := exists_ofNat_of_le lo hi
    exact lower ⟨k, Nat.lt_succ_of_le hk⟩

/-- Nothing else has a value. -/
theorem hexValue_eq_none {c : Char} (h : isAsciiHexdigit c = false) : hexValue c = none := by
  have lower : ∀ k : Fin 26, isAsciiHexdigit (Char.ofNat ('a'.toNat + k)) = false →
      hexValue (Char.ofNat ('a'.toNat + k)) = none := by decide
  have upper : ∀ k : Fin 26, isAsciiHexdigit (Char.ofNat ('A'.toNat + k)) = false →
      hexValue (Char.ofNat ('A'.toNat + k)) = none := by decide
  by_cases isLower : 'a' ≤ c ∧ c ≤ 'z'
  · obtain ⟨k, hk, rfl⟩ := exists_ofNat_of_le isLower.1 isLower.2
    exact lower ⟨k, Nat.lt_succ_of_le hk⟩ h
  · by_cases isUpper : 'A' ≤ c ∧ c ≤ 'Z'
    · obtain ⟨k, hk, rfl⟩ := exists_ofNat_of_le isUpper.1 isUpper.2
      exact upper ⟨k, Nat.lt_succ_of_le hk⟩ h
    · have notDigit : ¬ ('0' ≤ c ∧ c ≤ '9') := fun digit =>
        of_decide_eq_false h (Or.inl digit)
      rw [hexValue, Text.digitValue, if_neg notDigit, if_neg isLower, if_neg isUpper]
      rfl

/-- **A normalised text is its values**, spelled in lower case. -/
theorem normaliseFingerprint_eq (s : List Char) :
    normaliseFingerprint s = (hexValues s).map fun v => (Text.digitChar v).toLower := by
  rw [normaliseFingerprint, hexValues]
  induction s with
  | nil => rfl
  | cons c s ih =>
      cases h : isAsciiHexdigit c with
      | false =>
          rw [List.filter_cons_of_neg (by simp [h]), List.filterMap_cons_none (hexValue_eq_none h)]
          exact ih
      | true =>
          obtain ⟨v, -, value, spelled⟩ := hexValue_of_isAsciiHexdigit h
          rw [List.filter_cons_of_pos h, List.filterMap_cons_some value, List.map_cons,
            List.map_cons, ih, spelled]

theorem length_normaliseFingerprint (s : List Char) :
    (normaliseFingerprint s).length = (hexValues s).length := by
  rw [normaliseFingerprint_eq, List.length_map]

/-- **Texts are compared by what they say.** -/
theorem normaliseFingerprint_inj {s t : List Char} :
    normaliseFingerprint s = normaliseFingerprint t ↔ hexValues s = hexValues t := by
  have back : ∀ s : List Char, hexValues (normaliseFingerprint s) = hexValues s := by
    intro s
    have value : ∀ v < 16, hexValue (Text.digitChar v).toLower = some v := by decide
    have small : ∀ v ∈ hexValues s, v < 16 := by
      intro v mem
      obtain ⟨c, -, value⟩ := List.mem_filterMap.mp mem
      exact of_decide_eq_true (Option.filter_eq_some_iff.mp value).2
    rw [normaliseFingerprint_eq]
    generalize hexValues s = vs at small
    induction vs with
    | nil => rfl
    | cons v vs ih =>
        rw [List.map_cons, hexValues, List.filterMap_cons_some (value v (small v List.mem_cons_self))]
        exact congrArg (v :: ·) (ih fun w mem => small w (List.mem_cons_of_mem _ mem))
  constructor
  · intro h
    rw [← back s, h, back t]
  · intro h
    rw [normaliseFingerprint_eq, normaliseFingerprint_eq, h]

theorem hexValues_append (s t : List Char) : hexValues (s ++ t) = hexValues s ++ hexValues t :=
  List.filterMap_append

/-- The two digits of a byte. -/
theorem hexValues_byte (b : UInt8) :
    hexValues (Text.paddedDigits 16 2 b.toNat) = [b.toNat / 16, b.toNat % 16] := by
  have value : ∀ v < 16, hexValue (Text.digitChar v) = some v := by decide
  have hlen := @Text.length_paddedDigits 16 2 _ (by decide) (by decide) b.toNat_lt
  have spelled := @Text.ofDigits_paddedDigits 16 (by decide) (by decide) 2 b.toNat
  have digit : ∀ c ∈ Text.paddedDigits 16 2 b.toNat, ∃ d < 16, c = Text.digitChar d :=
    fun c => Text.exists_digit_of_mem_padded (by decide)
  obtain ⟨c, c', two⟩ := List.length_eq_two.mp hlen
  rw [two] at spelled digit ⊢
  obtain ⟨high, hhigh, rfl⟩ := digit c List.mem_cons_self
  obtain ⟨low, hlow, rfl⟩ := digit c' (List.mem_cons_of_mem _ List.mem_cons_self)
  have valueHigh := value high hhigh
  have valueLow := value low hlow
  rw [hexValue] at valueHigh valueLow
  simp only [Text.ofDigits, List.foldl_cons, List.foldl_nil, Option.bind_some, valueHigh,
    valueLow, Option.map_some, Option.some.injEq] at spelled
  have hhigh' : high = b.toNat / 16 := by omega
  have hlow' : low = b.toNat % 16 := by omega
  rw [hexValues, List.filterMap_cons_some (value high hhigh),
    List.filterMap_cons_some (value low hlow), ← hhigh', ← hlow']
  rfl

theorem hexValues_intercalate (texts : List (List Char)) :
    hexValues ([':'].intercalate texts) = texts.flatMap hexValues := by
  induction texts with
  | nil => rfl
  | cons text texts ih =>
      cases texts with
      | nil => rw [List.intercalate_singleton, List.flatMap_singleton]
      | cons next texts =>
          have colon : hexValues [':'] = [] := by decide
          rw [List.intercalate_cons_cons, hexValues_append, hexValues_append, colon, ih,
            List.append_nil]
          rfl

/-- **A fingerprint says the bytes of the hash.** -/
theorem hexValues_certificateFingerprint (sha256 : Sha256) (der : List UInt8) :
    hexValues (certificateFingerprint sha256 der) = nibbles (sha256 der).toList := by
  rw [certificateFingerprint, hexValues_intercalate, List.flatMap_map, nibbles]
  exact List.flatMap_congr fun b _ => hexValues_byte b

theorem length_nibbles (bytes : List UInt8) : (nibbles bytes).length = 2 * bytes.length := by
  induction bytes with
  | nil => rfl
  | cons b bytes ih =>
      rw [nibbles] at ih
      rw [nibbles, List.flatMap_cons, List.length_append, ih]
      simp only [List.length_cons, List.length_nil]
      omega

/-! ## What the verifier accepts -/

/-- A verifier is made of a text with 64 digits. -/
theorem clientConfigPinned_eq_ok_iff {hasVersions : Bool} {text : List Char}
    {verifier : PinnedCertVerifier} :
    clientConfigPinned hasVersions text = .ok verifier ↔
      (hexValues text).length = 64 ∧ hasVersions = true ∧
        verifier = ⟨normaliseFingerprint text⟩ := by
  rw [clientConfigPinned, length_normaliseFingerprint]
  split_ifs with short versions
  · exact iff_of_false nofun fun h => short h.1
  · exact ⟨fun h => ⟨not_not.mp short, versions, (Except.ok.inj h).symm⟩, fun h => h.2.2 ▸ rfl⟩
  · exact iff_of_false nofun fun h => versions h.2.1

/-- **A certificate is accepted if its hash is what the text says.** -/
theorem verifyServerCert_eq_ok_iff {sha256 : Sha256} {text : List Char} {der : List UInt8} :
    (PinnedCertVerifier.mk (normaliseFingerprint text)).verifyServerCert sha256 der = .ok () ↔
      nibbles (sha256 der).toList = hexValues text := by
  rw [← hexValues_certificateFingerprint, ← normaliseFingerprint_inj,
    PinnedCertVerifier.verifyServerCert]
  split_ifs with same
  · exact iff_of_true rfl same
  · exact iff_of_false nofun same

end OpenPlay.Crypto
