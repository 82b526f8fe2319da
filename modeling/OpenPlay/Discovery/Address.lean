import Mathlib.Data.List.Lex
import Mathlib.Data.List.Sort
import OpenPlay.Miracast.WifiDirect

/-!
# The order of addresses

mDNS hands the addresses of a receiver over in no particular order, and callers connect
to the first one.  `sort_by_connectability` of `address.rs` puts those in front that are
most likely to answer, and among equals the smallest.

* `IpAddr.Routable`: what the ranks tell apart (`IpAddr.routable_of_rank_le`)
* `sortByConnectability_canonical`: the result depends on the addresses only
-/

namespace OpenPlay

/-- `IpAddr::is_loopback`. -/
def IpAddr.isLoopback : IpAddr → Bool
  | .v4 ip => ip.a == 127
  | .v6 ip => ip.segments.toList == [0, 0, 0, 0, 0, 0, 0, 1]

/-- `169.254.0.0/16` and `fe80::/10`. -/
def IpAddr.isLinkLocal : IpAddr → Bool
  | .v4 ip => ip.a == 169 && ip.b == 254
  | .v6 ip => ip.segments[0] &&& 0xffc0 == 0xfe80

/-- `rank`: connectability, lowest first. -/
def IpAddr.rank (ip : IpAddr) : Nat :=
  if Miracast.isUnspecified ip then 4
  else if ip.isLinkLocal then 3
  else if ip.isLoopback then 2
  else
    match ip with
    | .v4 _ => 0
    | .v6 _ => 1

/-- The parts that the derived order of `IpAddr` compares, the most significant first. -/
def IpAddr.parts : IpAddr → List Nat
  | .v4 ip => [0, ip.a.toNat, ip.b.toNat, ip.c.toNat, ip.d.toNat]
  | .v6 ip => 1 :: ip.segments.toList.map UInt16.toNat

/-- The key of `sort_by_connectability`. -/
def IpAddr.connectability (ip : IpAddr) : List Nat := ip.rank :: ip.parts

/-- `sort_by_connectability`. -/
def sortByConnectability (addrs : List IpAddr) : List IpAddr :=
  addrs.insertionSort fun a b => a.connectability ≤ b.connectability

/-! ## What the ranks mean -/

/-- An address that another machine can be reached at: neither unspecified nor loopback
(`127.0.0.0/8` and `::1`) nor link-local (`169.254.0.0/16` and `fe80::/10`). -/
def IpAddr.Routable : IpAddr → Prop
  | .v4 ip => ip ≠ ⟨0, 0, 0, 0⟩ ∧ ip.a ≠ 127 ∧ ¬ (ip.a = 169 ∧ ip.b = 254)
  | .v6 ip => ip.segments ≠ #v[0, 0, 0, 0, 0, 0, 0, 0] ∧ ip.segments ≠ #v[0, 0, 0, 0, 0, 0, 0, 1] ∧
      ¬ ((0xfe80 : UInt16) ≤ ip.segments[0] ∧ ip.segments[0] < 0xfec0)

def IpAddr.isV4 : IpAddr → Bool
  | .v4 _ => true
  | .v6 _ => false

/-- The mask of the upper ten bits takes the remainder by 64 away. -/
theorem toNat_and_mask (segment : UInt16) :
    (segment &&& 0xffc0).toNat = segment.toNat / 64 * 64 := by
  have mask : (0xffc0 : UInt16).toNat = (2 ^ 10 - 1) <<< 6 := rfl
  rw [UInt16.toNat_and, mask, show 64 = 2 ^ 6 from rfl, ← Nat.shiftRight_eq_div_pow,
    ← Nat.shiftLeft_eq]
  apply Nat.eq_of_testBit_eq
  intro i
  rw [Nat.testBit_and, Nat.testBit_shiftLeft, Nat.testBit_shiftLeft, Nat.testBit_shiftRight,
    Nat.testBit_two_pow_sub_one]
  by_cases low : 6 ≤ i
  · rw [Nat.add_sub_cancel' low]
    by_cases high : i < 16
    · simp [low, show i - 6 < 10 by omega]
    · have zero : segment.toNat.testBit i = false :=
        Nat.testBit_lt_two_pow (segment.toNat_lt.trans_le
          (Nat.pow_le_pow_right (by decide) (Nat.not_lt.mp high)))
      rw [zero, Bool.false_and, Bool.and_false]
  · simp [low]

/-- The prefix `fe80::/10`. -/
theorem and_mask_eq_iff (segment : UInt16) :
    segment &&& 0xffc0 = 0xfe80 ↔ 0xfe80 ≤ segment ∧ segment < 0xfec0 := by
  have first : (0xfe80 : UInt16).toNat = 65152 := rfl
  have behind : (0xfec0 : UInt16).toNat = 65216 := rfl
  rw [← UInt16.toNat_inj, toNat_and_mask, UInt16.le_iff_toNat_le, UInt16.lt_iff_toNat_lt,
    first, behind]
  omega

theorem isUnspecified_v6_iff (segments : Vector UInt16 8) :
    Miracast.isUnspecified (.v6 ⟨segments⟩) = true ↔ segments = #v[0, 0, 0, 0, 0, 0, 0, 0] := by
  rw [Miracast.isUnspecified, List.all_eq_true, ← Vector.toList_inj]
  constructor
  · intro zeros
    exact List.eq_replicate_iff.mpr
      ⟨segments.length_toList, fun segment mem => beq_iff_eq.mp (zeros segment mem)⟩
  · intro zeros segment mem
    rw [zeros] at mem
    exact beq_iff_eq.mpr (List.eq_of_mem_replicate (n := 8) mem)

theorem isLoopback_v6_iff (segments : Vector UInt16 8) :
    IpAddr.isLoopback (.v6 ⟨segments⟩) = true ↔ segments = #v[0, 0, 0, 0, 0, 0, 0, 1] := by
  rw [IpAddr.isLoopback, beq_iff_eq, ← Vector.toList_inj]
  rfl

theorem IpAddr.routable_iff (ip : IpAddr) :
    ip.Routable ↔ ¬ Miracast.isUnspecified ip = true ∧ ¬ ip.isLoopback = true ∧
      ¬ ip.isLinkLocal = true := by
  cases ip with
  | v4 ip => simp [Routable, Miracast.isUnspecified, isLinkLocal, isLoopback, Ipv4Addr.unspecified]
  | v6 ip =>
      rw [isUnspecified_v6_iff, isLoopback_v6_iff, isLinkLocal, beq_iff_eq, and_mask_eq_iff]
      rfl

theorem IpAddr.rank_of_routable {ip : IpAddr} (h : ip.Routable) :
    ip.rank = if ip.isV4 then 0 else 1 := by
  obtain ⟨unspecified, loopback, linkLocal⟩ := ip.routable_iff.mp h
  unfold rank
  rw [if_neg unspecified, if_neg linkLocal, if_neg loopback]
  cases ip <;> rfl

theorem IpAddr.one_lt_rank {ip : IpAddr} (h : ¬ ip.Routable) : 1 < ip.rank := by
  rw [routable_iff] at h
  unfold rank
  split_ifs with unspecified linkLocal loopback
  · decide
  · decide
  · decide
  · exact absurd ⟨unspecified, loopback, linkLocal⟩ h

/-- Nothing of a higher rank is routable, or routable over IPv4, where the lower is not. -/
theorem IpAddr.routable_of_rank_le {a b : IpAddr} (le : a.rank ≤ b.rank) (h : b.Routable) :
    a.Routable ∧ (b.isV4 = true → a.isV4 = true) := by
  have rank := rank_of_routable h
  by_cases routable : a.Routable
  · refine ⟨routable, fun v4 => ?_⟩
    rw [rank, rank_of_routable routable, if_pos v4] at le
    by_contra v6
    rw [if_neg v6] at le
    exact absurd le (by decide)
  · have small : b.rank ≤ 1 := by
      rw [rank]
      split <;> decide
    have large := one_lt_rank routable
    omega

/-! ## The order -/

theorem IpAddr.parts_injective : Function.Injective IpAddr.parts := by
  intro a b same
  cases a with
  | v4 a =>
      cases b with
      | v4 b =>
          obtain ⟨a₁, a₂, a₃, a₄⟩ := a
          obtain ⟨b₁, b₂, b₃, b₄⟩ := b
          simpa [parts, UInt8.toNat_inj] using same
      | v6 b => simp [parts] at same
  | v6 a =>
      cases b with
      | v4 b => simp [parts] at same
      | v6 b =>
          obtain ⟨a⟩ := a
          obtain ⟨b⟩ := b
          have segments := List.map_injective_iff.mpr (fun _ _ => UInt16.toNat_inj.mp)
            (List.cons.inj same).2
          simpa [Vector.toList_inj] using segments

theorem IpAddr.connectability_injective : Function.Injective IpAddr.connectability := by
  intro a b same
  exact IpAddr.parts_injective (List.cons.inj same).2

theorem pairwise_sortByConnectability (addrs : List IpAddr) :
    (sortByConnectability addrs).Pairwise fun a b => a.connectability ≤ b.connectability := by
  have total : Std.Total fun a b : IpAddr => a.connectability ≤ b.connectability :=
    ⟨fun a b => le_total a.connectability b.connectability⟩
  have trans : IsTrans IpAddr fun a b => a.connectability ≤ b.connectability :=
    ⟨fun _ _ _ => le_trans⟩
  exact List.pairwise_insertionSort _ addrs

/-- The order in which the addresses were found does not matter. -/
theorem sortByConnectability_eq_of_perm {addrs addrs' : List IpAddr} (h : addrs.Perm addrs') :
    sortByConnectability addrs = sortByConnectability addrs' := by
  have sorted : (sortByConnectability addrs).Perm (sortByConnectability addrs') :=
    (List.perm_insertionSort _ addrs).trans (h.trans (List.perm_insertionSort _ addrs').symm)
  refine sorted.eq_of_pairwise ?_ (pairwise_sortByConnectability addrs)
    (pairwise_sortByConnectability addrs')
  intro a b _ _ le ge
  exact IpAddr.connectability_injective (le_antisymm le ge)

theorem IpAddr.connectability_le_iff (a b : IpAddr) :
    a.connectability ≤ b.connectability ↔
      a.rank < b.rank ∨ a.rank = b.rank ∧ a.parts ≤ b.parts := by
  have less : a.connectability < b.connectability ↔
      a.rank < b.rank ∨ a.rank = b.rank ∧ a.parts < b.parts := List.cons_lt_cons_iff
  have equal : a.connectability = b.connectability ↔ a.rank = b.rank ∧ a.parts = b.parts :=
    List.cons_eq_cons
  rw [le_iff_lt_or_eq, less, equal, or_assoc, ← and_or_left, ← le_iff_lt_or_eq]

/-- **The order is canonical.**  The sorted list holds the same addresses, by rank and then
by value.  It is the same list for two lists of addresses exactly when these are
permutations of each other.  What cannot be routed stands behind what can, and routable IPv6
addresses behind routable IPv4 addresses. -/
theorem sortByConnectability_canonical (addrs : List IpAddr) :
    (sortByConnectability addrs).Perm addrs ∧
      (sortByConnectability addrs).Pairwise (fun a b =>
        a.rank < b.rank ∨ a.rank = b.rank ∧ a.parts ≤ b.parts) ∧
      (∀ addrs', sortByConnectability addrs = sortByConnectability addrs' ↔ addrs.Perm addrs') ∧
      (sortByConnectability addrs).Pairwise (fun a b =>
        ¬ (¬ a.Routable ∧ b.Routable) ∧
          ¬ (a.Routable ∧ a.isV4 = false ∧ b.Routable ∧ b.isV4 = true)) := by
  have perm : ∀ addrs, (sortByConnectability addrs).Perm addrs := List.perm_insertionSort _
  have sorted := pairwise_sortByConnectability addrs
  refine ⟨perm addrs, ?_, fun addrs' => ⟨fun same => ?_, sortByConnectability_eq_of_perm⟩, ?_⟩
  · exact sorted.imp fun {a b} le => (IpAddr.connectability_le_iff a b).mp le
  · exact (perm addrs).symm.trans (same ▸ perm addrs')
  · refine sorted.imp fun {a b} le => ?_
    have ranks : a.rank ≤ b.rank :=
      ((IpAddr.connectability_le_iff a b).mp le).elim Nat.le_of_lt fun h => Nat.le_of_eq h.1
    refine ⟨fun h => h.1 (IpAddr.routable_of_rank_le ranks h.2).1, fun ⟨_, v6, routable, v4⟩ => ?_⟩
    exact absurd ((IpAddr.routable_of_rank_le ranks routable).2 v4) (Bool.eq_false_iff.mp v6)

example : sortByConnectability [.v6 ⟨#v[0xfe80, 0, 0, 0, 0, 0, 0, 1]⟩, .v4 ⟨127, 0, 0, 1⟩,
    .v4 ⟨192, 168, 0, 97⟩] = [.v4 ⟨192, 168, 0, 97⟩, .v4 ⟨127, 0, 0, 1⟩,
    .v6 ⟨#v[0xfe80, 0, 0, 0, 0, 0, 0, 1]⟩] := by decide

end OpenPlay
