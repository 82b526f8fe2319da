import Mathlib.Data.List.Infix

/-!
# Parameter sets in an access unit

`find_nalu_starts` and `extract_sps_pps` of `casting.rs`.  `HasNal` is what they look
for, said without them: a start code and a header byte behind it.

* `exists_nalu_iff`: the scanner finds every NAL unit
* `extractSpsPps_eq_none_iff`, `hasNal_extractSpsPps`: a result holds an SPS, and a PPS
  if there was one
-/

namespace OpenPlay.Sender

/-! ## The scanner -/

/-- The loop of `find_nalu_starts` with `i` at the front of what is left. -/
def findNaluStarts.from (i : Nat) : List UInt8 → List Nat
  | a :: b :: c :: d :: rest =>
      if a = 0 ∧ b = 0 ∧ c = 1 then i :: findNaluStarts.from (i + 3) (d :: rest)
      else if a = 0 ∧ b = 0 ∧ c = 0 ∧ d = 1 then i :: findNaluStarts.from (i + 4) rest
      else findNaluStarts.from (i + 1) (b :: c :: d :: rest)
  | [a, b, c] => if a = 0 ∧ b = 0 ∧ c = 1 then [i] else []
  | _ => []

/-- `find_nalu_starts`. -/
def findNaluStarts (data : List UInt8) : List Nat := findNaluStarts.from 0 data

/-- `&data[start..end]` for each start, with the next one as its end. -/
def slices (data : List UInt8) : List Nat → List (List UInt8)
  | [] => []
  | start :: rest =>
      ((data.drop start).take (rest.headD data.length - start)) :: slices data rest

/-- `header_offset`. -/
def headerOffset (nalu : List UInt8) : Option Nat :=
  if [0, 0, 0, 1].isPrefixOf nalu then some 4
  else if [0, 0, 1].isPrefixOf nalu then some 3
  else none

/-- `nalu[header_offset] & 0x1F`. -/
def nalType (nalu : List UInt8) : Option UInt8 :=
  (headerOffset nalu).bind fun offset => nalu[offset]?.map (· &&& 0x1F)

/-- What the loop over the units of an access unit does with one of them. -/
def remember (found : Option (List UInt8) × Option (List UInt8)) (nalu : List UInt8) :
    Option (List UInt8) × Option (List UInt8) :=
  if nalType nalu = some 7 then (some nalu, found.2)
  else if nalType nalu = some 8 then (found.1, some nalu)
  else found

/-- `extract_sps_pps`. -/
def extractSpsPps (data : List UInt8) : Option (List UInt8) :=
  match (slices data (findNaluStarts data)).foldl remember (none, none) with
  | (some sps, some pps) => some (sps ++ pps)
  | (some sps, none) => some sps
  | _ => none

/-! ## What there is to be found -/

/-- There is a NAL unit of type `t`. -/
def HasNal (t : UInt8) (data : List UInt8) : Prop :=
  ∃ front header rest, data = front ++ 0 :: 0 :: 1 :: header :: rest ∧ header &&& 0x1F = t

theorem HasNal.of_within {t : UInt8} {part data : List UInt8} (h : HasNal t part)
    (within : part <:+: data) : HasNal t data := by
  obtain ⟨front, header, rest, rfl, type⟩ := h
  obtain ⟨before, after, rfl⟩ := within
  exact ⟨before ++ front, header, rest ++ after, by simp, type⟩

theorem HasNal.append_left {t : UInt8} {part : List UInt8} (h : HasNal t part)
    (more : List UInt8) : HasNal t (part ++ more) :=
  h.of_within (List.prefix_append part more).isInfix

theorem HasNal.append_right {t : UInt8} {part : List UInt8} (h : HasNal t part)
    (more : List UInt8) : HasNal t (more ++ part) :=
  h.of_within (List.suffix_append more part).isInfix

theorem nalType_three (header : UInt8) (rest : List UInt8) :
    nalType (0 :: 0 :: 1 :: header :: rest) = some (header &&& 0x1F) := by
  simp [nalType, headerOffset]

theorem nalType_four (header : UInt8) (rest : List UInt8) :
    nalType (0 :: 0 :: 0 :: 1 :: header :: rest) = some (header &&& 0x1F) := by
  simp [nalType, headerOffset]

theorem hasNal_of_nalType {t : UInt8} {nalu : List UInt8} (h : nalType nalu = some t) :
    HasNal t nalu := by
  obtain ⟨offset, hoffset, h⟩ := Option.bind_eq_some_iff.mp h
  obtain ⟨header, hheader, rfl⟩ := Option.map_eq_some_iff.mp h
  rw [headerOffset] at hoffset
  split_ifs at hoffset with four three
  · cases hoffset
    obtain ⟨rest, rfl⟩ := List.isPrefixOf_iff_prefix.mp four
    cases rest with
    | nil => cases hheader
    | cons d rest =>
        cases hheader
        exact ⟨[0], _, rest, rfl, rfl⟩
  · cases hoffset
    obtain ⟨rest, rfl⟩ := List.isPrefixOf_iff_prefix.mp three
    cases rest with
    | nil => cases hheader
    | cons d rest =>
        cases hheader
        exact ⟨[], _, rest, rfl, rfl⟩

/-! ## The scanner finds it -/

theorem infix_of_mem_slices {data nalu : List UInt8} {starts : List Nat}
    (h : nalu ∈ slices data starts) : nalu <:+: data := by
  induction starts with
  | nil => cases h
  | cons start starts ih =>
      rcases List.mem_cons.mp h with rfl | h
      · exact (List.take_prefix _ _).isInfix.trans (List.drop_suffix _ _).isInfix
      · exact ih h

theorem le_of_mem_from {i n : Nat} {l : List UInt8} (h : n ∈ findNaluStarts.from i l) :
    i ≤ n := by
  fun_induction findNaluStarts.from i l with
  | case1 i a b c d rest three ih =>
      rcases List.mem_cons.mp h with rfl | h
      · exact Nat.le_refl _
      · have := ih h
        omega
  | case2 i a b c d rest _ four ih =>
      rcases List.mem_cons.mp h with rfl | h
      · exact Nat.le_refl _
      · have := ih h
        omega
  | case3 i a b c d rest _ _ ih =>
      have := ih h
      omega
  | case4 => exact (List.mem_singleton.mp h).ge
  | case5 => cases h
  | case6 => cases h

/-- A byte that is not 0 starts nothing. -/
theorem from_cons_of_ne {d : UInt8} (h : d ≠ 0) (i : Nat) (rest : List UInt8) :
    ∀ n ∈ findNaluStarts.from i (d :: rest), i + 1 ≤ n := by
  intro n mem
  match rest with
  | [] => cases mem
  | [_] => cases mem
  | [b, c] => simp [findNaluStarts.from, h] at mem
  | b :: c :: e :: rest =>
      rw [findNaluStarts.from, if_neg (fun hd => h hd.1), if_neg (fun hd => h hd.1)] at mem
      exact le_of_mem_from mem

/-- The end of a slice is behind everything that no later start can be in. -/
theorem le_headD {starts : List Nat} {n m : Nat} (h : ∀ s ∈ starts, m ≤ s) (hn : m ≤ n) :
    m ≤ starts.headD n := by
  cases starts with
  | nil => exact hn
  | cons s starts => exact h s List.mem_cons_self

/-- The first slice, with what it begins with. -/
theorem slice_of_from {before l : List UInt8} {starts : List Nat} {k : Nat}
    (enough : ∀ n ∈ starts, before.length + k ≤ n) (hk : k ≤ l.length) :
    ∃ nalu ∈ slices (before ++ l) (before.length :: starts), ∃ more, nalu = l.take k ++ more := by
  refine ⟨_, List.mem_cons_self, (l.drop k).take
    (starts.headD (before ++ l).length - before.length - k), ?_⟩
  have hend : before.length + k ≤ starts.headD (before ++ l).length :=
    le_headD enough (by rw [List.length_append]; omega)
  rw [List.drop_left, ← List.take_add]
  congr 1
  omega

theorem mem_slices_cons {data nalu : List UInt8} {starts : List Nat} {start : Nat}
    (h : nalu ∈ slices data starts) : nalu ∈ slices data (start :: starts) :=
  List.mem_cons_of_mem _ h

/-- **Every NAL unit is found**, wherever the scanner stands before it. -/
theorem exists_slice {header : UInt8} (nonzero : header ≠ 0) {i : Nat} {l : List UInt8}
    (before front rest : List UInt8) (here : before.length = i)
    (split : l = front ++ 0 :: 0 :: 1 :: header :: rest) :
    ∃ nalu ∈ slices (before ++ l) (findNaluStarts.from i l),
      nalType nalu = some (header &&& 0x1F) := by
  fun_induction findNaluStarts.from i l generalizing before front with
  | case1 i a b c d tail three ih =>
      obtain ⟨rfl, rfl, rfl⟩ := three
      subst here
      match front with
      | [] =>
          -- it starts here
          cases split
          obtain ⟨nalu, mem, more, rfl⟩ := slice_of_from (k := 4)
            (l := 0 :: 0 :: 1 :: header :: rest) (from_cons_of_ne nonzero _ rest) (by simp)
          exact ⟨_, mem, nalType_three header more⟩
      | [_] => cases split
      | [_, _] => cases split
      | _ :: _ :: _ :: front =>
          simp only [List.cons_append, List.cons.injEq] at split
          obtain ⟨-, -, -, split⟩ := split
          obtain ⟨nalu, mem, type⟩ := ih (before ++ [0, 0, 1]) front (by simp) split
          rw [List.append_assoc] at mem
          exact ⟨nalu, mem_slices_cons mem, type⟩
  | case2 i a b c d tail _ four ih =>
      obtain ⟨rfl, rfl, rfl, rfl⟩ := four
      subst here
      match front with
      | [] => cases split
      | [_] =>
          -- it starts here, with a zero more
          cases split
          obtain ⟨nalu, mem, more, rfl⟩ := slice_of_from (k := 5)
            (l := 0 :: 0 :: 0 :: 1 :: header :: rest) (from_cons_of_ne nonzero _ rest) (by simp)
          exact ⟨_, mem, nalType_four header more⟩
      | [_, _] => cases split
      | [_, _, _] => cases split
      | _ :: _ :: _ :: _ :: front =>
          simp only [List.cons_append, List.cons.injEq] at split
          obtain ⟨-, -, -, -, split⟩ := split
          obtain ⟨nalu, mem, type⟩ := ih (before ++ [0, 0, 0, 1]) front (by simp) split
          rw [List.append_assoc] at mem
          exact ⟨nalu, mem_slices_cons mem, type⟩
  | case3 i a b c d tail notThree _ ih =>
      match front with
      | [] =>
          cases split
          exact absurd ⟨rfl, rfl, rfl⟩ notThree
      | _ :: front =>
          simp only [List.cons_append, List.cons.injEq] at split
          obtain ⟨-, split⟩ := split
          obtain ⟨nalu, mem, type⟩ := ih (before ++ [a]) front (by simp [here]) split
          rw [List.append_assoc] at mem
          exact ⟨nalu, mem, type⟩
  | case4 i a b c =>
      have short := congrArg List.length split
      simp at short
      omega
  | case5 i a b c =>
      have short := congrArg List.length split
      simp at short
      omega
  | case6 i l notFour notThree =>
      match front with
      | [] => exact absurd split (notFour _ _ _ _ _)
      | [_] => exact absurd split (notFour _ _ _ _ _)
      | [_, _] => exact absurd split (notFour _ _ _ _ _)
      | [_, _, _] => exact absurd split (notFour _ _ _ _ _)
      | _ :: _ :: _ :: _ :: front => exact absurd split (notFour _ _ _ _ _)

/-- **The scanner finds every NAL unit**, and nothing else. -/
theorem exists_nalu_iff {t : UInt8} (ht : t ≠ 0) (data : List UInt8) :
    (∃ nalu ∈ slices data (findNaluStarts data), nalType nalu = some t) ↔ HasNal t data := by
  constructor
  · rintro ⟨nalu, mem, type⟩
    exact (hasNal_of_nalType type).of_within (infix_of_mem_slices mem)
  · rintro ⟨front, header, rest, split, rfl⟩
    have nonzero : header ≠ 0 := by
      rintro rfl
      exact ht rfl
    exact exists_slice nonzero [] front rest rfl split

/-! ## What is extracted -/

/-- What the loop remembers: the last unit of each kind. -/
theorem foldl_remember (nalus : List (List UInt8)) :
    nalus.foldl remember (none, none) =
      ((nalus.filter (nalType · = some 7)).getLast?,
        (nalus.filter (nalType · = some 8)).getLast?) := by
  induction nalus using List.reverseRecOn with
  | nil => rfl
  | append_singleton nalus nalu ih =>
      rw [List.foldl_concat, ih, List.filter_append, List.filter_append, remember]
      split_ifs with seven eight
      · simp [seven]
      · simp [eight]
      · simp [seven, eight]

/-- A unit that is remembered for a kind is one of that kind, and there is none to be
remembered only if the access unit has none. -/
theorem remembered {t : UInt8} (ht : t ≠ 0) (data : List UInt8) :
    let last := ((slices data (findNaluStarts data)).filter (nalType · = some t)).getLast?
    (∀ nalu, last = some nalu → HasNal t nalu ∧ nalu <:+: data) ∧
      (last = none → ¬ HasNal t data) := by
  constructor
  · intro nalu h
    obtain ⟨mem, type⟩ := List.mem_filter.mp (List.mem_of_getLast? h)
    exact ⟨hasNal_of_nalType (of_decide_eq_true type), infix_of_mem_slices mem⟩
  · intro h has
    obtain ⟨nalu, mem, type⟩ := (exists_nalu_iff ht data).mpr has
    have none := List.filter_eq_nil_iff.mp (List.getLast?_eq_none_iff.mp h) nalu mem
    exact none (decide_eq_true type)

theorem extractSpsPps_eq_none_iff (data : List UInt8) :
    extractSpsPps data = none ↔ ¬ HasNal 7 data := by
  obtain ⟨isSps, noSps⟩ := remembered (t := 7) (by decide) data
  rw [extractSpsPps, foldl_remember]
  cases hsps : ((slices data (findNaluStarts data)).filter (nalType · = some 7)).getLast? with
  | none => exact iff_of_true rfl (noSps hsps)
  | some sps =>
      have has : HasNal 7 data := (isSps sps hsps).1.of_within (isSps sps hsps).2
      refine iff_of_false ?_ (not_not_intro has)
      cases ((slices data (findNaluStarts data)).filter (nalType · = some 8)).getLast? <;> nofun

/-- **A result holds an SPS**, and a PPS if the access unit has one. -/
theorem hasNal_extractSpsPps {data result : List UInt8} (h : extractSpsPps data = some result) :
    HasNal 7 result ∧ (HasNal 8 result ↔ HasNal 8 data) := by
  obtain ⟨isSps, -⟩ := remembered (t := 7) (by decide) data
  obtain ⟨isPps, noPps⟩ := remembered (t := 8) (by decide) data
  rw [extractSpsPps, foldl_remember] at h
  cases hsps : ((slices data (findNaluStarts data)).filter (nalType · = some 7)).getLast? with
  | none =>
      rw [hsps] at h
      cases h
  | some sps =>
      obtain ⟨hasSps, within⟩ := isSps sps hsps
      rw [hsps] at h
      cases hpps : ((slices data (findNaluStarts data)).filter (nalType · = some 8)).getLast? with
      | none =>
          rw [hpps] at h
          cases h
          exact ⟨hasSps, iff_of_false (fun has => noPps hpps (has.of_within within)) (noPps hpps)⟩
      | some pps =>
          obtain ⟨hasPps, within'⟩ := isPps pps hpps
          rw [hpps] at h
          cases h
          exact ⟨hasSps.append_left pps,
            iff_of_true (hasPps.append_right sps) (hasPps.of_within within')⟩

end OpenPlay.Sender
