import OpenPlay.Airplay.MirrorSession

/-!
# NTP timestamps

`ntp_timestamp_now` of `ntp.rs`: 32 bits of seconds since 1900, and 32 bits for a part of a
second.  The seconds wrap around at the end of an era, of which the second begins in 2036.

* `ntpFrac_toNat`, `toNat_ntpTimestamp`: the two halves
* `ntpTimestamp_lt_iff`: within an era, timestamps are ordered as the clock is
* `timestamps_increase`: so are the packets of a mirror stream
-/

namespace OpenPlay.Airplay

open Transition

/-! ## The code -/

/-- A `Duration`: the nanoseconds are less than a second. -/
structure Duration where
  secs : UInt64
  subsecNanos : UInt32
  subsec : subsecNanos.toNat < 1000000000
deriving DecidableEq, Repr

/-- `Duration::default`. -/
def Duration.zero : Duration := ⟨0, 0, by decide⟩

/-- `NTP_EPOCH_OFFSET`. -/
def ntpEpochOffset : UInt64 := 2208988800

/-- `secs` of `ntp_timestamp_now`. -/
def ntpSecs (sinceEpoch : Duration) : UInt64 := sinceEpoch.secs + ntpEpochOffset

/-- `frac` of `ntp_timestamp_now`. -/
def ntpFrac (sinceEpoch : Duration) : UInt64 :=
  sinceEpoch.subsecNanos.toUInt64 <<< 32 / 1000000000

def ntpTimestamp (sinceEpoch : Duration) : UInt64 :=
  ntpSecs sinceEpoch <<< 32 ||| ntpFrac sinceEpoch

/-- `ntp_timestamp_now`, on what `duration_since(UNIX_EPOCH)` gives: nothing when the clock
stands before 1970. -/
def ntpTimestampNow (durationSinceEpoch : Option Duration) : UInt64 :=
  ntpTimestamp (durationSinceEpoch.getD .zero)

/-! ## The clock -/

/-- Seconds since 1900. -/
def ntpSeconds (t : Duration) : Nat := t.secs.toNat + ntpEpochOffset.toNat

/-- Those that a `u64` has room for. -/
def NtpRange (t : Duration) : Prop := ntpSeconds t < UInt64.size

def ntpEra (t : Duration) : Nat := ntpSeconds t / UInt32.size

/-- An earlier reading of the clock. -/
def Duration.Before (t u : Duration) : Prop :=
  t.secs < u.secs ∨ t.secs = u.secs ∧ t.subsecNanos < u.subsecNanos

/-! ## The halves of a timestamp -/

/-- The nanoseconds have room in front of them. -/
theorem toNat_shifted_nanos (t : Duration) :
    (t.subsecNanos.toUInt64 <<< 32).toNat = t.subsecNanos.toNat * UInt32.size := by
  have nothing : (0 : UInt64).toNat < UInt32.size := by decide
  have shifted := FixedWidth.toNat_shiftLeft_or t.subsecNanos.toUInt64 nothing
  rwa [UInt64.or_zero, UInt32.toNat_toUInt64, Nat.mod_eq_of_lt t.subsecNanos.toNat_lt,
    UInt64.toNat_zero, Nat.add_zero] at shifted

theorem toNat_ntpFrac (t : Duration) :
    (ntpFrac t).toNat = t.subsecNanos.toNat * UInt32.size / 1000000000 := by
  rw [ntpFrac, UInt64.toNat_div, toNat_shifted_nanos]
  rfl

theorem toNat_ntpFrac_lt (t : Duration) : (ntpFrac t).toNat < UInt32.size := by
  rw [toNat_ntpFrac]
  exact FixedWidth.scaled_lt t.subsec (by decide)

theorem toNat_ntpSecs {t : Duration} (h : NtpRange t) : (ntpSecs t).toNat = ntpSeconds t := by
  rw [ntpSecs, UInt64.toNat_add]
  exact Nat.mod_eq_of_lt h

theorem toNat_ntpTimestamp {t : Duration} (h : NtpRange t) :
    (ntpTimestamp t).toNat =
      ntpSeconds t % UInt32.size * UInt32.size + (ntpFrac t).toNat := by
  rw [ntpTimestamp, FixedWidth.toNat_shiftLeft_or _ (toNat_ntpFrac_lt t), toNat_ntpSecs h]

theorem ntpFrac_lt_iff (t u : Duration) :
    (ntpFrac t).toNat < (ntpFrac u).toNat ↔ t.subsecNanos < u.subsecNanos := by
  have finer : 1000000000 ≤ UInt32.size := by decide
  rw [toNat_ntpFrac, toNat_ntpFrac, UInt32.lt_iff_toNat_lt]
  exact (FixedWidth.scaled_strictMono (by decide) finer).lt_iff_lt

/-- **Within an era, timestamps are ordered as the clock is.** -/
theorem ntpTimestamp_lt_iff {t u : Duration} (ht : NtpRange t) (hu : NtpRange u)
    (era : ntpEra t = ntpEra u) : ntpTimestamp t < ntpTimestamp u ↔ t.Before u := by
  have less : ntpSeconds t % UInt32.size < ntpSeconds u % UInt32.size ↔ t.secs < u.secs := by
    have same := era
    rw [UInt64.lt_iff_toNat_lt]
    simp only [ntpEra, ntpSeconds, UInt32.size] at same ⊢
    omega
  have equal : ntpSeconds t % UInt32.size = ntpSeconds u % UInt32.size ↔ t.secs = u.secs := by
    have same := era
    rw [← UInt64.toNat_inj]
    simp only [ntpEra, ntpSeconds, UInt32.size] at same ⊢
    omega
  rw [UInt64.lt_iff_toNat_lt, toNat_ntpTimestamp ht, toNat_ntpTimestamp hu,
    FixedWidth.halves_lt_iff (toNat_ntpFrac_lt t) (toNat_ntpFrac_lt u), less, equal,
    ntpFrac_lt_iff]
  rfl

/-- Different readings are earlier and later. -/
theorem Duration.before_or_before {t u : Duration} (h : t ≠ u) : t.Before u ∨ u.Before t := by
  obtain ⟨secs, nanos, subsec⟩ := t
  obtain ⟨secs', nanos', subsec'⟩ := u
  simp only [ne_eq, Duration.mk.injEq, not_and, ← UInt64.toNat_inj, ← UInt32.toNat_inj] at h
  simp only [Before, UInt64.lt_iff_toNat_lt, UInt32.lt_iff_toNat_lt, ← UInt64.toNat_inj]
  omega

/-- **The arithmetic of a timestamp.**  Nothing is shifted out of the nanoseconds.  The
fraction is rounded down and stays within its 32 bits, the other 32 bits are the seconds
since 1900 in their era, and of two readings of the clock in one era the later one has the
larger timestamp. -/
theorem ntp_timestamp_arithmetic {t : Duration} (h : NtpRange t) :
    (t.subsecNanos.toUInt64 <<< 32).toNat = t.subsecNanos.toNat * UInt32.size ∧
      (ntpFrac t).toNat = t.subsecNanos.toNat * UInt32.size / 1000000000 ∧
      (ntpFrac t).toNat < UInt32.size ∧
      (ntpTimestamp t >>> 32).toNat = (t.secs.toNat + ntpEpochOffset.toNat) % UInt32.size ∧
      (ntpTimestamp t).toNat % UInt32.size = (ntpFrac t).toNat ∧
      ∀ u, NtpRange u → ntpEra t = ntpEra u → t ≠ u →
        t.Before u ∧ ntpTimestamp t < ntpTimestamp u ∨
          u.Before t ∧ ntpTimestamp u < ntpTimestamp t := by
  have frac := toNat_ntpFrac_lt t
  have value := toNat_ntpTimestamp h
  have upper : (ntpTimestamp t >>> 32).toNat = (ntpTimestamp t).toNat / UInt32.size := by
    rw [UInt64.toNat_shiftRight]
    exact Nat.shiftRight_eq_div_pow _ 32
  refine ⟨toNat_shifted_nanos t, toNat_ntpFrac t, frac, ?_, ?_, fun u hu era different => ?_⟩
  · rw [upper, value, Nat.mul_comm, Nat.mul_add_div (by decide), Nat.div_eq_of_lt frac,
      Nat.add_zero]
    rfl
  · rw [value, Nat.mul_add_mod_of_lt frac]
  · exact (Duration.before_or_before different).imp
      (fun before => ⟨before, (ntpTimestamp_lt_iff h hu era).mpr before⟩)
      (fun before => ⟨before, (ntpTimestamp_lt_iff hu h era.symm).mpr before⟩)

/-- A nanosecond later. -/
theorem ntp_timestamp_arithmetic_of_next :
    let t : Duration := ⟨1700000000, 999999998, by decide⟩
    let u : Duration := ⟨1700000000, 999999999, by decide⟩
    (ntpFrac t).toNat < UInt32.size ∧
      (t.Before u ∧ ntpTimestamp t < ntpTimestamp u ∨
        u.Before t ∧ ntpTimestamp u < ntpTimestamp t) := by
  intro t u
  have ht : NtpRange t := show ntpSeconds t < UInt64.size by decide
  have hu : NtpRange u := show ntpSeconds u < UInt64.size by decide
  obtain ⟨-, -, frac, -, -, later⟩ := ntp_timestamp_arithmetic ht
  exact ⟨frac, later u hu (by decide) (by decide)⟩

/-! ## The packets of a stream -/

/-- The time that a step puts into a header: each writer reads the clock when it has the
lock. -/
def MirrorAction.stamps : MirrorAction → List UInt64
  | .lock _ ntpTimestamp => [ntpTimestamp]
  | _ => []

theorem MirrorDoes.stamps_eq {x y : MirrorSession} {action : MirrorAction}
    {output : Option Packet} (does : MirrorDoes x action y output) :
    output.toList.map Packet.ntpTimestamp = action.stamps := by
  cases does with
  | ends asked _ => rcases asked with rfl | rfl <;> rfl
  | _ => rfl

/-- The timestamps on the stream are those that were read. -/
theorem map_ntpTimestamp_lockOrder {past : List MirrorMove} {x : MirrorSession}
    (run : mirrorSession.Run past x) :
    (lockOrder past).map Packet.ntpTimestamp = collect (fun move => move.action.stamps) past := by
  induction run with
  | start _ => rfl
  | @move past move before made ih =>
      have stamped := (does_of_step made).stamps_eq
      rw [lockOrder, collect_cons, List.map_append, stamped, collect_cons]
      exact congrArg (· ++ _) ih

/-- A clock that goes forward within an era. -/
def Forward (t u : Option Duration) : Prop :=
  NtpRange (t.getD .zero) ∧ NtpRange (u.getD .zero) ∧
    ntpEra (t.getD .zero) = ntpEra (u.getD .zero) ∧ (t.getD .zero).Before (u.getD .zero)

/-- **Packets are dated in their order** while the clock goes forward. -/
theorem timestamps_increase {past : List MirrorMove} {x : MirrorSession}
    (run : mirrorSession.Run past x) {readings : List (Option Duration)}
    (read : collect (fun move => move.action.stamps) past = readings.map ntpTimestampNow)
    (forward : readings.Pairwise Forward) :
    (lockOrder past).Pairwise fun p q => p.ntpTimestamp < q.ntpTimestamp := by
  rw [← List.pairwise_map (f := Packet.ntpTimestamp) (R := (· < ·)),
    map_ntpTimestamp_lockOrder run, read, List.pairwise_map]
  exact forward.imp fun ⟨ht, hu, era, before⟩ => (ntpTimestamp_lt_iff ht hu era).mpr before

end OpenPlay.Airplay
