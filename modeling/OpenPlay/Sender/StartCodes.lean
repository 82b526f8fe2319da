import OpenPlay.Foundation.Slices
import OpenPlay.Sender.Nalu

/-!
# Where the start codes are

`find_nalu_starts` and `extract_sps_pps` of `casting.rs` with their indices, each of
which may be out of range, against the start codes that there are in a byte string.

* `scan_eq`: no index is out of range, and the loop ends with the positions of
  `findNaluStarts`
* `findNaluStarts_eq`: these are the start codes, each at its leading zero if it has one
* `flatten_slices`: the slices are what there is from the first position on
-/

namespace OpenPlay.Sender

open Slices (slice)

/-! ## The loops of the source -/

/-- The loop of `find_nalu_starts` from `i` on; none, where an index is out of range. -/
def scan (data : List UInt8) (i : Nat) : Option (List Nat) :=
  if i + 2 < data.length then
    data[i]?.bind fun a => data[i + 1]?.bind fun b => data[i + 2]?.bind fun c =>
      if a = 0 ∧ b = 0 then
        if c = 1 then (scan data (i + 3)).map (i :: ·)
        else if i + 3 < data.length then
          data[i + 3]?.bind fun d =>
            if c = 0 ∧ d = 1 then (scan data (i + 4)).map (i :: ·)
            else scan data (i + 1)
        else scan data (i + 1)
      else scan data (i + 1)
  else some []
termination_by data.length - i

/-- `&data[start..end]` for each position, up to the next one. -/
def cut (data : List UInt8) : List Nat → Option (List (List UInt8))
  | [] => some []
  | start :: rest =>
      (slice data start (rest.headD data.length)).bind fun nalu =>
        (cut data rest).map (nalu :: ·)

/-! ## The start codes -/

/-- A start code stands at a position. -/
def isStartCode (data : List UInt8) (p : Nat) : Bool := [0, 0, 1].isPrefixOf (data.drop p)

/-- The positions of all start codes. -/
def startCodes (data : List UInt8) : List Nat :=
  (List.range data.length).filter (isStartCode data)

/-- Where the unit of a start code begins: at the zero in front of it, if there is one. -/
def unitStart (data : List UInt8) : Nat → Nat
  | 0 => 0
  | p + 1 => if data[p]? = some 0 then p else p + 1

/-! ## What is left of a byte string -/

section Drop

variable {data rest : List UInt8} {i : Nat} {a : UInt8}

theorem drop_succ_of_cons (h : data.drop i = a :: rest) : data.drop (i + 1) = rest := by
  rw [← List.drop_drop, h]
  rfl

theorem getElem?_of_drop_cons (h : data.drop i = a :: rest) : data[i]? = some a := by
  have hhead : (data.drop i)[0]? = some a := by
    rw [h]
    rfl
  simpa using hhead

theorem lt_length_of_cons (h : data.drop i = a :: rest) : i + rest.length + 1 = data.length := by
  have hlen := congrArg List.length h
  rw [List.length_drop, List.length_cons] at hlen
  omega

end Drop

/-! ## No index is out of range -/

/-- One round of the loop, on what is left. -/
theorem scan_of_drop {data rest : List UInt8} {i : Nat} {a b c : UInt8}
    (h : data.drop i = a :: b :: c :: rest) :
    scan data i =
      if a = 0 ∧ b = 0 ∧ c = 1 then (scan data (i + 3)).map (i :: ·)
      else if a = 0 ∧ b = 0 ∧ c = 0 ∧ rest.head? = some 1 then (scan data (i + 4)).map (i :: ·)
      else scan data (i + 1) := by
  have h₁ := drop_succ_of_cons h
  have h₂ := drop_succ_of_cons h₁
  have h₃ := drop_succ_of_cons h₂
  have hlen := lt_length_of_cons h
  simp only [List.length_cons] at hlen
  rw [scan, if_pos (by omega), getElem?_of_drop_cons h, getElem?_of_drop_cons h₁,
    getElem?_of_drop_cons h₂]
  simp only [Option.bind_some]
  cases rest with
  | nil =>
    have hend : ¬ i + 3 < data.length := by
      simp only [List.length_nil] at hlen
      omega
    rw [if_neg hend]
    by_cases hab : a = 0 ∧ b = 0 <;> by_cases hc : c = 1 <;> simp [hab, hc]
  | cons d rest =>
    have hmore : i + 3 < data.length := by
      simp only [List.length_cons] at hlen
      omega
    rw [if_pos hmore, getElem?_of_drop_cons h₃, Option.bind_some]
    by_cases hab : a = 0 ∧ b = 0 <;> by_cases hc : c = 1 <;> simp [hab, hc]
    simp_all

/-- What the loop is left with when it ends. -/
theorem length_le_two {l : List UInt8} (notFour : ∀ a b c d rest, l = a :: b :: c :: d :: rest → False)
    (notThree : ∀ a b c, l = [a, b, c] → False) : l.length ≤ 2 := by
  match l with
  | [] => exact Nat.zero_le 2
  | [_] => exact Nat.le_succ 1
  | [_, _] => exact Nat.le_refl 2
  | [a, b, c] => exact (notThree a b c rfl).elim
  | a :: b :: c :: d :: rest => exact (notFour a b c d rest rfl).elim

/-- Behind the last three bytes the loop ends. -/
theorem scan_of_le {data : List UInt8} {i : Nat} (h : data.length ≤ i + 2) :
    scan data i = some [] := by
  rw [scan, if_neg (Nat.not_lt.mpr h)]

/-- **The loop ends**, within range, with the positions of `findNaluStarts`. -/
theorem scan_eq {data l : List UInt8} {i : Nat} (h : data.drop i = l) :
    scan data i = some (findNaluStarts.from i l) := by
  fun_induction findNaluStarts.from i l with
  | case1 i a b c d rest three ih =>
    rw [scan_of_drop h, if_pos three, ih (drop_succ_of_cons (drop_succ_of_cons (drop_succ_of_cons h)))]
    rfl
  | case2 i a b c d rest three four ih =>
    rw [scan_of_drop h, if_neg three, if_pos ⟨four.1, four.2.1, four.2.2.1, congrArg some four.2.2.2⟩,
      ih (drop_succ_of_cons (drop_succ_of_cons (drop_succ_of_cons (drop_succ_of_cons h))))]
    rfl
  | case3 i a b c d rest three four ih =>
    rw [scan_of_drop h, if_neg three, if_neg fun hd => four
      ⟨hd.1, hd.2.1, hd.2.2.1, Option.some.inj hd.2.2.2⟩, ih (drop_succ_of_cons h)]
  | case4 i a b c three =>
    have hlen := lt_length_of_cons h
    rw [scan_of_drop h, if_pos three, scan_of_le (by simp at hlen; omega)]
    rfl
  | case5 i a b c three =>
    have hlen := lt_length_of_cons h
    rw [scan_of_drop h, if_neg three, if_neg (by simp), scan_of_le (by simp at hlen; omega)]
  | case6 l i notFour notThree =>
    have hlen := congrArg List.length h
    have hshort := length_le_two notFour notThree
    rw [List.length_drop] at hlen
    exact scan_of_le (by omega)

/-! ## They are the start codes -/

theorem isStartCode_eq {data l : List UInt8} {i : Nat} (h : data.drop i = l) :
    isStartCode data i = [0, 0, 1].isPrefixOf l := by
  rw [isStartCode, h]

theorem isStartCode_iff {data rest : List UInt8} {i : Nat} {a b c : UInt8}
    (h : data.drop i = a :: b :: c :: rest) :
    isStartCode data i = true ↔ a = 0 ∧ b = 0 ∧ c = 1 := by
  rw [isStartCode_eq h]
  simp only [List.isPrefixOf, Bool.and_true, Bool.and_eq_true, beq_iff_eq]
  exact ⟨fun ⟨ha, hb, hc⟩ => ⟨ha.symm, hb.symm, hc.symm⟩,
    fun ⟨ha, hb, hc⟩ => ⟨ha.symm, hb.symm, hc.symm⟩⟩

/-- Two bytes are no start code. -/
theorem isStartCode_of_length {data l : List UInt8} {i : Nat} (h : data.drop i = l)
    (hlen : l.length ≤ 2) : isStartCode data i = false := by
  rw [isStartCode_eq h, Bool.eq_false_iff]
  intro hcode
  have hthree := (List.isPrefixOf_iff_prefix.mp hcode).length_le
  exact absurd (hthree.trans hlen) (by decide)

/-- The start codes from a position on, one position at a time. -/
theorem filter_range'_succ (p : Nat → Bool) (i n : Nat) :
    (List.range' i (n + 1)).filter p =
      if p i then i :: (List.range' (i + 1) n).filter p else (List.range' (i + 1) n).filter p := by
  rw [List.range'_succ, List.filter_cons]

/-- The scanner stands at no start code with a zero in front. -/
def Clean (data : List UInt8) (i : Nat) : Prop := isStartCode data i = true → unitStart data i = i

theorem clean_zero (data : List UInt8) : Clean data 0 := fun _ => rfl

/-- Behind another byte than zero it stands at none. -/
theorem clean_succ {data : List UInt8} {i : Nat} {a : UInt8} (h : data[i]? = some a)
    (ha : a = 0 → isStartCode data (i + 1) = false) : Clean data (i + 1) := by
  intro hcode
  refine if_neg fun hzero => ?_
  rw [ha (Option.some.inj (h.symm.trans hzero))] at hcode
  cases hcode

/-- No start code begins in the last two bytes. -/
theorem filter_isStartCode_of_length {data l : List UInt8} {i : Nat} (h : data.drop i = l)
    (hshort : l.length ≤ 2) : (List.range' i l.length).filter (isStartCode data) = [] := by
  rw [List.filter_eq_nil_iff]
  intro p hp
  obtain ⟨hle, -⟩ := List.mem_range'_1.mp hp
  have hp : data.drop p = l.drop (p - i) := by
    rw [← h, List.drop_drop]
    congr 1
    omega
  have hlen : (l.drop (p - i)).length ≤ 2 := by
    rw [List.length_drop]
    omega
  rw [isStartCode_of_length hp hlen]
  exact Bool.false_ne_true

/-- **What the scanner finds from a position on.** -/
theorem from_eq {data l : List UInt8} {i : Nat} (h : data.drop i = l) (clean : Clean data i) :
    findNaluStarts.from i l =
      ((List.range' i l.length).filter (isStartCode data)).map (unitStart data) := by
  fun_induction findNaluStarts.from i l with
  | case1 i a b c d rest three ih =>
    obtain ⟨rfl, rfl, rfl⟩ := three
    have h₁ := drop_succ_of_cons h
    have h₂ := drop_succ_of_cons h₁
    have here : isStartCode data i = true := isStartCode_eq h
    have none₁ : isStartCode data (i + 1) = false := isStartCode_eq h₁
    have none₂ : isStartCode data (i + 2) = false := isStartCode_eq h₂
    rw [ih (drop_succ_of_cons h₂)
      (clean_succ (getElem?_of_drop_cons h₂) fun hone => absurd hone (by decide))]
    simp only [List.length_cons, filter_range'_succ, here, none₁, none₂, if_true,
      Bool.false_eq_true, if_false, List.map_cons, clean here]
  | case2 i a b c d rest three four ih =>
    obtain ⟨rfl, rfl, rfl, rfl⟩ := four
    have h₁ := drop_succ_of_cons h
    have h₂ := drop_succ_of_cons h₁
    have h₃ := drop_succ_of_cons h₂
    have none₀ : isStartCode data i = false := isStartCode_eq h
    have here : isStartCode data (i + 1) = true := isStartCode_eq h₁
    have none₂ : isStartCode data (i + 2) = false := isStartCode_eq h₂
    have none₃ : isStartCode data (i + 3) = false := isStartCode_eq h₃
    -- The unit begins one byte before its start code.
    have start : unitStart data (i + 1) = i := if_pos (getElem?_of_drop_cons h)
    rw [ih (drop_succ_of_cons h₃)
      (clean_succ (getElem?_of_drop_cons h₃) fun hone => absurd hone (by decide))]
    simp only [List.length_cons, filter_range'_succ, none₀, here, none₂, none₃, if_true,
      Bool.false_eq_true, if_false, List.map_cons, start]
  | case3 i a b c d rest three four ih =>
    have h₁ := drop_succ_of_cons h
    have none₀ : isStartCode data i = false :=
      Bool.eq_false_iff.mpr fun hcode => three ((isStartCode_iff h).mp hcode)
    have clean₁ : Clean data (i + 1) := by
      refine clean_succ (getElem?_of_drop_cons h) fun ha => Bool.eq_false_iff.mpr fun hcode => ?_
      obtain ⟨hb, hc, hd⟩ := (isStartCode_iff h₁).mp hcode
      exact four ⟨ha, hb, hc, hd⟩
    rw [ih h₁ clean₁]
    simp only [List.length_cons, filter_range'_succ, none₀, Bool.false_eq_true, if_false]
  | case4 i a b c three =>
    have h₁ := drop_succ_of_cons h
    have here : isStartCode data i = true := (isStartCode_iff h).mpr three
    have none₁ := isStartCode_of_length h₁ (Nat.le_refl 2)
    have none₂ := isStartCode_of_length (drop_succ_of_cons h₁) (Nat.le_succ 1)
    simp only [List.length_cons, List.length_nil, filter_range'_succ, here, none₁, none₂, if_true,
      Bool.false_eq_true, if_false, List.range'_zero, List.filter_nil, List.map_cons,
      List.map_nil, clean here]
  | case5 i a b c three =>
    have h₁ := drop_succ_of_cons h
    have none₀ : isStartCode data i = false :=
      Bool.eq_false_iff.mpr fun hcode => three ((isStartCode_iff h).mp hcode)
    have none₁ := isStartCode_of_length h₁ (Nat.le_refl 2)
    have none₂ := isStartCode_of_length (drop_succ_of_cons h₁) (Nat.le_succ 1)
    simp only [List.length_cons, List.length_nil, filter_range'_succ, none₀, none₁, none₂,
      Bool.false_eq_true, if_false, List.range'_zero, List.filter_nil, List.map_nil]
  | case6 l i notFour notThree =>
    have hnone := filter_isStartCode_of_length h (length_le_two notFour notThree)
    rw [hnone, List.map_nil]

/-- **The positions are the starts of the units**, one for each start code. -/
theorem findNaluStarts_eq (data : List UInt8) :
    findNaluStarts data = (startCodes data).map (unitStart data) := by
  rw [findNaluStarts, from_eq List.drop_zero (clean_zero data), startCodes,
    List.range_eq_range']

theorem unitStart_le (data : List UInt8) (p : Nat) : unitStart data p ≤ p := by
  cases p with
  | zero => exact Nat.le_refl 0
  | succ p =>
    show (if data[p]? = some 0 then p else p + 1) ≤ p + 1
    split_ifs
    · exact Nat.le_succ p
    · exact Nat.le_refl _

theorem le_length_of_mem {data : List UInt8} {p : Nat} (h : p ∈ findNaluStarts data) :
    p ≤ data.length := by
  rw [findNaluStarts_eq, List.mem_map] at h
  obtain ⟨code, hcode, rfl⟩ := h
  have hlt := List.mem_range.mp (List.mem_filter.mp hcode).1
  exact (unitStart_le data code).trans hlt.le

theorem pairwise_from (i : Nat) (l : List UInt8) :
    (findNaluStarts.from i l).Pairwise (· < ·) := by
  fun_induction findNaluStarts.from i l with
  | case1 i a b c d rest three ih =>
    refine List.pairwise_cons.mpr ⟨fun n hn => ?_, ih⟩
    have hle := le_of_mem_from hn
    omega
  | case2 i a b c d rest _ four ih =>
    refine List.pairwise_cons.mpr ⟨fun n hn => ?_, ih⟩
    have hle := le_of_mem_from hn
    omega
  | case3 i a b c d rest _ _ ih => exact ih
  | case4 => exact List.pairwise_singleton _ _
  | case5 => exact List.Pairwise.nil
  | case6 => exact List.Pairwise.nil

/-! ## The slices -/

section Slices

variable {data : List UInt8} {starts : List Nat}

/-- A slice ends where the next one begins, or at the end. -/
theorem le_next {start : Nat} (sorted : (start :: starts).Pairwise (· < ·))
    (bound : ∀ s ∈ start :: starts, s ≤ data.length) :
    start ≤ starts.headD data.length ∧ starts.headD data.length ≤ data.length := by
  cases starts with
  | nil => exact ⟨bound start List.mem_cons_self, Nat.le_refl _⟩
  | cons next starts =>
    exact ⟨((List.pairwise_cons.mp sorted).1 next List.mem_cons_self).le,
      bound next (List.mem_cons_of_mem _ List.mem_cons_self)⟩

/-- **The slices are what there is from the first position on.** -/
theorem flatten_slices (sorted : starts.Pairwise (· < ·)) (bound : ∀ s ∈ starts, s ≤ data.length) :
    (slices data starts).flatten = data.drop (starts.headD data.length) := by
  induction starts with
  | nil => exact (List.drop_length (l := data)).symm
  | cons start starts ih =>
    obtain ⟨hle, -⟩ := le_next sorted bound
    have hrest := ih (List.pairwise_cons.mp sorted).2
      fun s hs => bound s (List.mem_cons_of_mem _ hs)
    have hdrop : data.drop (starts.headD data.length) =
        (data.drop start).drop (starts.headD data.length - start) := by
      rw [List.drop_drop, Nat.add_sub_cancel' hle]
    rw [slices, List.flatten_cons, hrest, hdrop, List.take_append_drop]
    rfl

/-- No slice is out of range. -/
theorem cut_eq (sorted : starts.Pairwise (· < ·)) (bound : ∀ s ∈ starts, s ≤ data.length) :
    cut data starts = some (slices data starts) := by
  induction starts with
  | nil => rfl
  | cons start starts ih =>
    have hrest := ih (List.pairwise_cons.mp sorted).2
      fun s hs => bound s (List.mem_cons_of_mem _ hs)
    rw [cut, slice, if_pos (le_next sorted bound), hrest]
    rfl

end Slices

/-! ## What is extracted -/

/-- The units of a byte string. -/
def units (data : List UInt8) : List (List UInt8) := slices data (findNaluStarts data)

/-- The last unit of a type. -/
def lastUnit (t : UInt8) (data : List UInt8) : Option (List UInt8) :=
  ((units data).filter (nalType · = some t)).getLast?

/-- `extract_sps_pps` with its indices; none, where one is out of range. -/
def extractIndexed (data : List UInt8) : Option (Option (List UInt8)) :=
  (scan data 0).bind fun starts => (cut data starts).map fun nalus =>
    match nalus.foldl remember (none, none) with
    | (some sps, some pps) => some (sps ++ pps)
    | (some sps, none) => some sps
    | _ => none

theorem extractSpsPps_eq (data : List UInt8) :
    extractSpsPps data = (lastUnit 7 data).map fun sps => sps ++ (lastUnit 8 data).getD [] := by
  rw [extractSpsPps, foldl_remember]
  show (match (lastUnit 7 data, lastUnit 8 data) with
    | (some sps, some pps) => some (sps ++ pps)
    | (some sps, none) => some sps
    | _ => none) = _
  cases lastUnit 7 data <;> cases lastUnit 8 data <;> simp

theorem lastUnit_eq_none_iff (t : UInt8) (data : List UInt8) :
    lastUnit t data = none ↔ ∀ nalu ∈ units data, nalType nalu ≠ some t := by
  rw [lastUnit, List.getLast?_eq_none_iff, List.filter_eq_nil_iff]
  exact forall₂_congr fun nalu _ => not_congr decide_eq_true_iff

/-- **The start-code scan**, of any byte string: the loops end within range, the positions
are the starts of the units, one for each start code and in order, the units are what there
is from the first on, and the last two units with parameter sets are extracted. -/
theorem start_code_scan (data : List UInt8) :
    (scan data 0 = some (findNaluStarts data) ∧
      extractIndexed data = some (extractSpsPps data)) ∧
    (findNaluStarts data = (startCodes data).map (unitStart data) ∧
      (findNaluStarts data).Pairwise (· < ·)) ∧
    (units data).flatten = data.drop ((findNaluStarts data).headD data.length) ∧
    (extractSpsPps data = (lastUnit 7 data).map fun sps => sps ++ (lastUnit 8 data).getD []) ∧
    (extractSpsPps data = none ↔ ∀ nalu ∈ units data, nalType nalu ≠ some 7) := by
  have hscan : scan data 0 = some (findNaluStarts data) := scan_eq List.drop_zero
  have hsorted : (findNaluStarts data).Pairwise (· < ·) := pairwise_from 0 data
  have hbound : ∀ s ∈ findNaluStarts data, s ≤ data.length := fun s => le_length_of_mem
  refine ⟨⟨hscan, ?_⟩, ⟨findNaluStarts_eq data, hsorted⟩, flatten_slices hsorted hbound,
    extractSpsPps_eq data, ?_⟩
  · rw [extractIndexed, hscan, Option.bind_some, cut_eq hsorted hbound]
    rfl
  · rw [extractSpsPps_eq, Option.map_eq_none_iff, lastUnit_eq_none_iff]

end OpenPlay.Sender
