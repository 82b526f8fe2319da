import OpenPlay.Foundation.AssocList
import OpenPlay.Foundation.Text

/-!
# TXT records

What a receiver says of itself over mDNS: nine fields under short keys, the numbers
among them in decimal digits.  `TxtRecord::from_properties` of `record.rs` has a default
for all but two of them, so that a key it did not know would go unnoticed.

`fromProperties_of_perm`: in whatever order the properties arrive and whatever others
stand between them, the record is read back.
-/

namespace OpenPlay

/-- `DEFAULT_PORT` of `openplay-discovery`. -/
def defaultPort : UInt16 := 7290

/-- TXT record fields for mDNS service advertisement. -/
structure TxtRecord where
  version : UInt32
  displayName : List Char
  capabilities : List Char
  videoCodecs : List Char
  audioCodecs : List Char
  resolution : List Char
  maxFps : UInt32
  fingerprint : List Char
  port : UInt16
deriving DecidableEq, Repr

namespace TxtRecord

/-- `to_properties`. -/
def toProperties (r : TxtRecord) : List (List Char × List Char) :=
  [("v".toList, Text.digits 10 r.version.toNat),
    ("dn".toList, r.displayName),
    ("cap".toList, r.capabilities),
    ("vc".toList, r.videoCodecs),
    ("ac".toList, r.audioCodecs),
    ("res".toList, r.resolution),
    ("fps".toList, Text.digits 10 r.maxFps.toNat),
    ("fp".toList, r.fingerprint),
    ("port".toList, Text.digits 10 r.port.toNat)]

/-- `from_properties`: only the version and the display name have no default. -/
def fromProperties (props : List (List Char × List Char)) : Option TxtRecord := do
  let get := fun key : String => Pairs.value key.toList props
  let version ← (← get "v") |> Text.parseU32 10
  let displayName ← get "dn"
  some
    { version := version
      displayName := displayName
      capabilities := (get "cap").getD []
      videoCodecs := (get "vc").getD "h264".toList
      audioCodecs := (get "ac").getD "opus".toList
      resolution := (get "res").getD "1920x1080".toList
      maxFps := ((get "fps").bind (Text.parseU32 10)).getD 30
      fingerprint := (get "fp").getD []
      port := ((get "port").bind (Text.parseU16 10)).getD defaultPort }

/-- The keys of a record. -/
def keys : List (List Char) :=
  ["v", "dn", "cap", "vc", "ac", "res", "fps", "fp", "port"].map String.toList

theorem map_fst_toProperties (r : TxtRecord) : r.toProperties.map Prod.fst = keys := rfl

theorem nodup_keys : keys.Nodup := by decide

/-- **A record is read back**, in any order and among properties under other keys. -/
theorem fromProperties_of_perm (r : TxtRecord) {props foreign : List (List Char × List Char)}
    (perm : props.Perm (r.toProperties ++ foreign)) (others : ∀ p ∈ foreign, p.1 ∉ keys) :
    fromProperties props = some r := by
  rw [← r.map_fst_toProperties] at others
  have nodup : (r.toProperties.map Prod.fst).Nodup := by
    rw [map_fst_toProperties]
    exact nodup_keys
  have get : ∀ p ∈ r.toProperties, Pairs.value p.1 props = some p.2 := fun p mem =>
    Pairs.value_of_perm perm nodup others mem
  simp only [toProperties, List.forall_mem_cons] at get
  obtain ⟨v, dn, cap, vc, ac, res, fps, fp, port, -⟩ := get
  unfold fromProperties
  simp only [v, dn, cap, vc, ac, res, fps, fp, port, Option.bind_eq_bind, Option.bind_some,
    Text.parseU32_digits (by decide : 1 < 10) (by decide : 10 ≤ 36),
    Text.parseU16_digits (by decide : 1 < 10) (by decide : 10 ≤ 36), Option.getD_some]

/-- Every field at an end of its range. -/
def outermost : TxtRecord where
  version := 4294967295
  displayName := "Tom=Jerry, TV".toList
  capabilities := []
  videoCodecs := []
  audioCodecs := []
  resolution := []
  maxFps := 0
  fingerprint := []
  port := 65535

theorem fromProperties_of_reversed :
    fromProperties (outermost.toProperties.reverse ++ [("pk".toList, "v=1".toList)]) =
      some outermost :=
  fromProperties_of_perm outermost ((List.reverse_perm _).append_right _) (by decide)

end TxtRecord

end OpenPlay
