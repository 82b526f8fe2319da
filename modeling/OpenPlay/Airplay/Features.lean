import OpenPlay.Common.Config
import OpenPlay.Foundation.FixedWidth
import OpenPlay.Foundation.Text

/-!
# AirPlay features

The 64 feature bits that a receiver advertises, as one hexadecimal number or as its lower
and upper half with a comma between them.

`FeaturesText` is the grammar of such texts, on top of any notion of a number.  The code
reads numbers with `u64::from_str_radix`, which takes a plus sign in front of the digits
for part of them, so that `AirPlayFeatures::parse` reads a little more than hexadecimal
numbers (`parse_eq_some_iff`).

* `features_grammar_iff`: the texts on which that makes a difference
-/

namespace OpenPlay.Airplay

/-! ## The code -/

structure AirPlayFeatures where
  raw : UInt64
deriving DecidableEq, Repr

/-- `s` without `0x` or `0X` in front. -/
def stripHexPrefix (s : List Char) : List Char :=
  ((Text.stripPrefix "0x".toList s).or (Text.stripPrefix "0X".toList s)).getD s

/-- `parse_hex`. -/
def parseHex (s : List Char) : Option UInt64 := Text.parseU64 16 (stripHexPrefix s)

/-- `u32::try_from`. -/
def u32TryFrom (n : UInt64) : Option UInt32 :=
  if n.toNat < UInt32.size then some n.toUInt32 else none

namespace AirPlayFeatures

/-- `AirPlayFeatures::default`. -/
def default : AirPlayFeatures := ⟨0⟩

/-- `AirPlayFeatures::parse`. -/
def parse (s : List Char) : Option AirPlayFeatures :=
  match Text.splitOnce ',' s with
  | some (loStr, hiStr) => do
      let lo ← (parseHex (Text.trim isWhitespace loStr)).bind u32TryFrom
      let hi ← (parseHex (Text.trim isWhitespace hiStr)).bind u32TryFrom
      some ⟨hi.toUInt64 <<< 32 ||| lo.toUInt64⟩
  | none => (parseHex (Text.trim isWhitespace s)).map AirPlayFeatures.mk

end AirPlayFeatures

/-- `0x{:X}`. -/
def hexForm (n : Nat) : List Char := "0x".toList ++ Text.digits 16 n

/-- The value under a key of `/info`, as far as `as_string` and `as_unsigned_integer` tell
values apart. -/
inductive InfoValue
  | string (text : List Char)
  | unsigned (v : UInt64)
  | other
deriving DecidableEq, Repr

/-- The `features` of `parse_info_response`. -/
def infoFeatures (value : Option InfoValue) : AirPlayFeatures :=
  let featuresStr :=
    match value with
    | some (.string text) => text
    | _ => []
  if featuresStr = [] then
    match value with
    | some (.unsigned v) => (AirPlayFeatures.parse (hexForm v.toNat)).getD .default
    | _ => .default
  else (AirPlayFeatures.parse featuresStr).getD .default

/-! ## The grammar -/

/-- What may stand in front of hexadecimal digits. -/
def hexMarks : List (List Char) := [[], "0x".toList, "0X".toList]

/-- Hexadecimal digits, with or without a prefix in front. -/
def HexNumber (text : List Char) (n : Nat) : Prop :=
  ∃ mark ∈ hexMarks, ∃ digits,
    text = mark ++ digits ∧ Text.Spells 16 digits n

/-- A hexadecimal number with a plus sign between the prefix and the digits. -/
def PlusHexNumber (text : List Char) (n : Nat) : Prop :=
  ∃ mark ∈ hexMarks, ∃ digits,
    text = mark ++ '+' :: digits ∧ Text.Spells 16 digits n

/-- What is taken for a hexadecimal number. -/
def HexNumberOrPlus (text : List Char) (n : Nat) : Prop :=
  HexNumber text n ∨ PlusHexNumber text n

/-- A number with white space around it. -/
def Padded (number : List Char → Nat → Prop) (text : List Char) (n : Nat) : Prop :=
  ∃ lead core trail, (∀ c ∈ lead, isWhitespace c = true) ∧
    (∀ c ∈ trail, isWhitespace c = true) ∧ text = lead ++ (core ++ trail) ∧ number core n

/-- One number of 64 bits, or two of 32 bits with a comma between them, the lower one first. -/
inductive FeaturesText (number : List Char → Nat → Prop) : List Char → Nat → Prop
  | single {text n} (spelled : Padded number text n) (fits : n < UInt64.size) :
      FeaturesText number text n
  | split {lo hi l h} (low : Padded number lo l) (lowFits : l < UInt32.size)
      (high : Padded number hi h) (highFits : h < UInt32.size) :
      FeaturesText number (lo ++ ',' :: hi) (l + UInt32.size * h)

/-! ## Numbers -/

/-- Digits and letters are no white space. -/
theorem isWhitespace_eq_false_of_range {c : Char} (low : 48 ≤ c.toNat) (high : c.toNat ≤ 122) :
    isWhitespace c = false := by
  have value : c.toNat = c.val.toNat := rfl
  rw [value] at low high
  simp only [isWhitespace, Bool.or_eq_false_iff, Bool.and_eq_false_iff, decide_eq_false_iff_not,
    beq_eq_false_iff_ne, ne_eq, ← UInt32.toNat_inj, UInt32.le_iff_toNat_le, UInt32.reduceToNat]
  omega

theorem range_of_digitValue {c : Char} {d : Nat} (h : Text.digitValue c = some d) :
    48 ≤ c.toNat ∧ c.toNat ≤ 122 := by
  unfold Text.digitValue at h
  split_ifs at h with decimal lower upper
  · have first : 48 ≤ c.toNat := decimal.1
    have last : c.toNat ≤ 57 := decimal.2
    omega
  · have first : 97 ≤ c.toNat := lower.1
    have last : c.toNat ≤ 122 := lower.2
    omega
  · have first : 65 ≤ c.toNat := upper.1
    have last : c.toNat ≤ 90 := upper.2
    omega

theorem range_of_mem_mark {mark : List Char} (h : mark ∈ hexMarks) :
    ∀ c ∈ mark, 48 ≤ c.toNat ∧ c.toNat ≤ 122 := by
  simp only [hexMarks, List.mem_cons, List.not_mem_nil, or_false] at h
  rcases h with rfl | rfl | rfl
  · exact List.forall_mem_nil _
  · exact List.all_iff_forall_prop.mp (by decide)
  · exact List.all_iff_forall_prop.mp (by decide)

/-- The characters of a number. -/
theorem HexNumberOrPlus.range {text : List Char} {n : Nat} (h : HexNumberOrPlus text n) :
    ∀ c ∈ text, c = '+' ∨ 48 ≤ c.toNat ∧ c.toNat ≤ 122 := by
  intro c mem
  obtain ⟨mark, known, digits, rfl, spelled⟩ | ⟨mark, known, digits, rfl, spelled⟩ := h
  · rcases List.mem_append.mp mem with front | back
    · exact Or.inr (range_of_mem_mark known c front)
    · obtain ⟨d, -, value⟩ := spelled.exists_digitValue back
      exact Or.inr (range_of_digitValue value)
  · rcases List.mem_append.mp mem with front | back
    · exact Or.inr (range_of_mem_mark known c front)
    · refine (List.mem_cons.mp back).imp_right fun back => ?_
      obtain ⟨d, -, value⟩ := spelled.exists_digitValue back
      exact range_of_digitValue value

theorem HexNumberOrPlus.isWhitespace {text : List Char} {n : Nat} (h : HexNumberOrPlus text n) :
    ∀ c ∈ text, isWhitespace c = false := by
  intro c mem
  rcases h.range c mem with rfl | ⟨low, high⟩
  · rfl
  · exact isWhitespace_eq_false_of_range low high

theorem HexNumberOrPlus.comma_not_mem {text : List Char} {n : Nat} (h : HexNumberOrPlus text n) :
    ',' ∉ text := by
  intro mem
  exact absurd (h.range ',' mem) (by decide)

theorem HexNumberOrPlus.ne_nil {text : List Char} {n : Nat} (h : HexNumberOrPlus text n) :
    text ≠ [] := by
  obtain ⟨mark, -, digits, rfl, spelled⟩ | ⟨mark, -, digits, rfl, spelled⟩ := h
  · exact List.append_ne_nil_of_right_ne_nil _ spelled.ne_nil
  · exact List.append_ne_nil_of_right_ne_nil _ (List.cons_ne_nil _ _)

theorem HexNumber.plus_not_mem {text : List Char} {n : Nat} (h : HexNumber text n) :
    '+' ∉ text := by
  obtain ⟨mark, known, digits, rfl, spelled⟩ := h
  intro mem
  rcases List.mem_append.mp mem with front | back
  · exact absurd (range_of_mem_mark known '+' front) (by decide)
  · exact spelled.plus_not_mem back

/-! ### What is read -/

/-- A prefix is taken off what has no other letter `x` in it. -/
theorem stripHexPrefix_append {mark body : List Char}
    (known : mark ∈ hexMarks) (lower : 'x' ∉ body) (upper : 'X' ∉ body) :
    stripHexPrefix (mark ++ body) = body := by
  have bare {letter : Char} (absent : letter ∉ body) :
      Text.stripPrefix ['0', letter] body = none := by
    rw [Option.eq_none_iff_forall_ne_some]
    intro rest found
    rw [Text.stripPrefix_eq_some_iff.mp found] at absent
    exact absent (by simp)
  have other : Text.stripPrefix "0x".toList ("0X".toList ++ body) = none := rfl
  simp only [hexMarks, List.mem_cons, List.not_mem_nil, or_false] at known
  unfold stripHexPrefix
  rcases known with rfl | rfl | rfl
  · have x : "0x".toList = ['0', 'x'] := rfl
    have X : "0X".toList = ['0', 'X'] := rfl
    rw [List.nil_append, x, X, bare lower, bare upper]
    rfl
  · rw [Text.stripPrefix_append]
    rfl
  · rw [other, Text.stripPrefix_append]
    rfl

theorem exists_stripHexPrefix (s : List Char) :
    ∃ mark ∈ hexMarks, s = mark ++ stripHexPrefix s := by
  unfold stripHexPrefix
  cases lower : Text.stripPrefix "0x".toList s with
  | some rest => exact ⟨"0x".toList, by simp [hexMarks], Text.stripPrefix_eq_some_iff.mp lower⟩
  | none =>
      cases upper : Text.stripPrefix "0X".toList s with
      | some rest => exact ⟨"0X".toList, by simp [hexMarks], Text.stripPrefix_eq_some_iff.mp upper⟩
      | none => exact ⟨[], by simp [hexMarks], rfl⟩

/-- **What is taken for a number.** -/
theorem parseHex_eq_some_iff {s : List Char} {v : UInt64} :
    parseHex s = some v ↔ HexNumberOrPlus s v.toNat := by
  have letters {digits : List Char} {n : Nat} (spelled : Text.Spells 16 digits n) {c : Char}
      (large : ∀ d, Text.digitValue c = some d → 16 ≤ d) : c ∉ digits := by
    intro mem
    obtain ⟨d, small, value⟩ := spelled.exists_digitValue mem
    exact absurd (large d value) (Nat.not_le.mpr small)
  have x : ∀ d, Text.digitValue 'x' = some d → 16 ≤ d := by
    rintro _ ⟨⟩
    decide
  have X : ∀ d, Text.digitValue 'X' = some d → 16 ≤ d := by
    rintro _ ⟨⟩
    decide
  rw [parseHex, Text.parseU64_eq_some_iff]
  constructor
  · obtain ⟨mark, known, split⟩ := exists_stripHexPrefix s
    rintro (spelled | ⟨rest, plus, spelled⟩)
    · exact Or.inl ⟨mark, known, _, split, spelled⟩
    · exact Or.inr ⟨mark, known, rest, plus ▸ split, spelled⟩
  · rintro (⟨mark, known, digits, rfl, spelled⟩ | ⟨mark, known, digits, rfl, spelled⟩)
    · rw [stripHexPrefix_append known (letters spelled x) (letters spelled X)]
      exact Or.inl spelled
    · have bare : ∀ {c}, c ≠ '+' → c ∉ digits → c ∉ '+' :: digits := fun other absent mem =>
        (List.mem_cons.mp mem).elim other absent
      rw [stripHexPrefix_append known (bare (by decide) (letters spelled x))
        (bare (by decide) (letters spelled X))]
      exact Or.inr ⟨digits, rfl, spelled⟩

/-- The white space around a number is what `trim` takes away. -/
theorem padded_iff {text : List Char} {n : Nat} :
    Padded HexNumberOrPlus text n ↔ HexNumberOrPlus (Text.trim isWhitespace text) n := by
  constructor
  · rintro ⟨lead, core, trail, hlead, htrail, rfl, number⟩
    rwa [Text.trim_pad hlead number.ne_nil number.isWhitespace htrail]
  · intro number
    obtain ⟨lead, trail, hlead, htrail, split⟩ := Text.exists_trim isWhitespace text
    exact ⟨lead, _, trail, hlead, htrail, split, number⟩

theorem comma_not_mem_of_padded {text : List Char} {n : Nat}
    (h : Padded HexNumberOrPlus text n) : ',' ∉ text := by
  intro mem
  exact (padded_iff.mp h).comma_not_mem (Text.mem_trim mem rfl)

/-! ## Feature texts -/

theorem u32TryFrom_eq_some_iff {n : UInt64} {m : UInt32} :
    u32TryFrom n = some m ↔ n.toNat = m.toNat := by
  unfold u32TryFrom
  split_ifs with small
  · rw [Option.some.injEq, ← UInt32.toNat_inj, UInt64.toNat_toUInt32, Nat.mod_eq_of_lt small]
  · refine iff_of_false nofun fun same => small ?_
    rw [same]
    exact m.toNat_lt

/-- A half of a split text. -/
theorem parseHex_u32_iff {text : List Char} {m : UInt32} :
    (parseHex (Text.trim isWhitespace text)).bind u32TryFrom = some m ↔
      Padded HexNumberOrPlus text m.toNat := by
  rw [padded_iff, Option.bind_eq_some_iff]
  constructor
  · rintro ⟨v, read, small⟩
    rw [← u32TryFrom_eq_some_iff.mp small]
    exact parseHex_eq_some_iff.mp read
  · intro number
    refine ⟨m.toUInt64, parseHex_eq_some_iff.mpr ?_, u32TryFrom_eq_some_iff.mpr ?_⟩
    · rwa [UInt32.toNat_toUInt64]
    · exact UInt32.toNat_toUInt64 m

theorem toNat_halves (lo hi : UInt32) :
    (hi.toUInt64 <<< 32 ||| lo.toUInt64).toNat = lo.toNat + UInt32.size * hi.toNat := by
  have small : lo.toUInt64.toNat < UInt32.size := by
    rw [UInt32.toNat_toUInt64]
    exact lo.toNat_lt
  rw [FixedWidth.toNat_shiftLeft_or _ small, UInt32.toNat_toUInt64, UInt32.toNat_toUInt64,
    Nat.mod_eq_of_lt hi.toNat_lt, Nat.add_comm, Nat.mul_comm]

theorem FeaturesText.lt {number : List Char → Nat → Prop} {text : List Char} {n : Nat}
    (h : FeaturesText number text n) : n < UInt64.size := by
  cases h with
  | single _ fits => exact fits
  | @split _ _ l h _ lowFits _ highFits =>
      have size : UInt64.size = UInt32.size * UInt32.size := rfl
      calc l + UInt32.size * h < UInt32.size + UInt32.size * h := Nat.add_lt_add_right lowFits _
        _ = UInt32.size * (h + 1) := by rw [Nat.mul_succ, Nat.add_comm]
        _ ≤ UInt64.size := size ▸ Nat.mul_le_mul_left _ highFits

/-- Another notion of number for the characters of a text. -/
theorem FeaturesText.imp {p q : List Char → Nat → Prop} {text : List Char} {n : Nat}
    (h : FeaturesText p text n) (step : ∀ core m, core ⊆ text → p core m → q core m) :
    FeaturesText q text n := by
  have padded {part : List Char} {m : Nat} (sub : part ⊆ text) (h : Padded p part m) :
      Padded q part m := by
    obtain ⟨lead, core, trail, hlead, htrail, rfl, number⟩ := h
    refine ⟨lead, core, trail, hlead, htrail, rfl, step core m (fun c mem => sub ?_) number⟩
    exact List.mem_append_right lead (List.mem_append_left trail mem)
  cases h with
  | single spelled fits => exact .single (padded (fun _ => id) spelled) fits
  | split low lowFits high highFits =>
      exact .split (padded (List.subset_append_left _ _) low) lowFits
        (padded (fun _ mem => List.mem_append_right _ (List.mem_cons_of_mem _ mem)) high) highFits

/-- Without a comma there is one number, and around the first comma there are two. -/
theorem featuresText_of_no_comma {text : List Char} {n : Nat} (bare : ',' ∉ text) :
    FeaturesText HexNumberOrPlus text n ↔ Padded HexNumberOrPlus text n ∧ n < UInt64.size := by
  constructor
  · intro h
    cases h with
    | single spelled fits => exact ⟨spelled, fits⟩
    | split => exact absurd (List.mem_append_right _ List.mem_cons_self) bare
  · exact fun h => .single h.1 h.2

theorem featuresText_of_comma {lo hi : List Char} {n : Nat} (absent : ',' ∉ lo) :
    FeaturesText HexNumberOrPlus (lo ++ ',' :: hi) n ↔
      ∃ l h : UInt32, Padded HexNumberOrPlus lo l.toNat ∧ Padded HexNumberOrPlus hi h.toNat ∧
        n = l.toNat + UInt32.size * h.toNat := by
  constructor
  · intro grammar
    generalize same : lo ++ ',' :: hi = text at grammar
    cases grammar with
    | single spelled fits =>
        exact absurd (same ▸ List.mem_append_right _ List.mem_cons_self)
          (comma_not_mem_of_padded spelled)
    | @split lo' hi' l h low lowFits high highFits =>
        have here := Text.splitOnce_eq_some_iff.mpr ⟨same.symm, absent⟩
        rw [Text.splitOnce_eq_some_iff.mpr ⟨rfl, comma_not_mem_of_padded low⟩] at here
        cases here
        refine ⟨UInt32.ofNat l, UInt32.ofNat h, ?_⟩
        rw [UInt32.toNat_ofNat_of_lt' lowFits, UInt32.toNat_ofNat_of_lt' highFits]
        exact ⟨low, high, rfl⟩
  · rintro ⟨l, h, low, high, rfl⟩
    exact .split low l.toNat_lt high h.toNat_lt

namespace AirPlayFeatures

/-- **What is parsed**: the grammar, on numbers with a plus sign or without. -/
theorem parse_eq_some_iff {text : List Char} {f : AirPlayFeatures} :
    parse text = some f ↔ FeaturesText HexNumberOrPlus text f.raw.toNat := by
  unfold parse
  split
  · rename_i loStr hiStr once
    obtain ⟨rfl, absent⟩ := Text.splitOnce_eq_some_iff.mp once
    rw [featuresText_of_comma absent]
    constructor
    · intro read
      obtain ⟨lo, low, read⟩ := Option.bind_eq_some_iff.mp read
      obtain ⟨hi, high, read⟩ := Option.bind_eq_some_iff.mp read
      cases read
      exact ⟨lo, hi, parseHex_u32_iff.mp low, parseHex_u32_iff.mp high, toNat_halves lo hi⟩
    · rintro ⟨lo, hi, low, high, value⟩
      refine Option.bind_eq_some_iff.mpr ⟨lo, parseHex_u32_iff.mpr low, ?_⟩
      refine Option.bind_eq_some_iff.mpr ⟨hi, parseHex_u32_iff.mpr high, ?_⟩
      rw [← toNat_halves, UInt64.toNat_inj] at value
      rw [← value]
  · rename_i once
    rw [featuresText_of_no_comma (Text.splitOnce_eq_none_iff.mp once), Option.map_eq_some_iff,
      and_iff_left f.raw.toNat_lt, padded_iff]
    constructor
    · rintro ⟨v, read, rfl⟩
      exact parseHex_eq_some_iff.mp read
    · exact fun number => ⟨f.raw, parseHex_eq_some_iff.mpr number, rfl⟩

/-! ### Both forms of a value -/

theorem hexNumber_hexForm (n : Nat) : HexNumber (hexForm n) n :=
  ⟨"0x".toList, by simp [hexMarks], _, rfl, Text.spells_digits (by decide) (by decide) n⟩

theorem padded_hexForm (n : Nat) : Padded HexNumberOrPlus (hexForm n) n :=
  ⟨[], hexForm n, [], nofun, nofun, (List.append_nil _).symm, Or.inl (hexNumber_hexForm n)⟩

/-- The lower and the upper half of a value. -/
def splitForm (v : UInt64) : List Char :=
  hexForm (v.toNat % UInt32.size) ++ ',' :: hexForm (v.toNat / UInt32.size)

theorem parse_hexForm (v : UInt64) : parse (hexForm v.toNat) = some ⟨v⟩ :=
  parse_eq_some_iff.mpr (.single (padded_hexForm _) v.toNat_lt)

theorem parse_splitForm (v : UInt64) : parse (splitForm v) = some ⟨v⟩ := by
  have size : UInt64.size = UInt32.size * UInt32.size := rfl
  have high : v.toNat / UInt32.size < UInt32.size := Nat.div_lt_of_lt_mul (size ▸ v.toNat_lt)
  have low : v.toNat % UInt32.size < UInt32.size := Nat.mod_lt _ (by decide)
  have grammar := FeaturesText.split (padded_hexForm _) low (padded_hexForm _) high
  rw [Nat.mod_add_div] at grammar
  exact parse_eq_some_iff.mpr grammar

end AirPlayFeatures

/-- An integer under the key `features` is taken over. -/
theorem infoFeatures_unsigned (v : UInt64) : infoFeatures (some (.unsigned v)) = ⟨v⟩ := by
  simp only [infoFeatures, if_true, AirPlayFeatures.parse_hexForm, Option.getD_some]

/-! ## Signs -/

namespace FeaturesText

theorem plus_not_mem {text : List Char} {n : Nat} (h : FeaturesText HexNumber text n) :
    '+' ∉ text := by
  have padded {part : List Char} {m : Nat} (h : Padded HexNumber part m) : '+' ∉ part := by
    obtain ⟨lead, core, trail, hlead, htrail, rfl, number⟩ := h
    have visible : isWhitespace '+' = false := rfl
    rw [List.mem_append, List.mem_append]
    rintro (front | inside | back)
    · exact absurd (hlead _ front) (by decide)
    · exact number.plus_not_mem inside
    · exact absurd (htrail _ back) (by decide)
  cases h with
  | single spelled => exact padded spelled
  | split low _ high =>
      intro mem
      rcases List.mem_append.mp mem with front | back
      · exact padded low front
      · exact (List.mem_cons.mp back).elim (by decide) (padded high)

theorem of_plus_not_mem {text : List Char} {n : Nat} (h : FeaturesText HexNumberOrPlus text n)
    (absent : '+' ∉ text) : FeaturesText HexNumber text n := by
  refine h.imp fun core m sub number => number.resolve_right ?_
  rintro ⟨mark, -, digits, rfl, -⟩
  exact absent (sub (List.mem_append_right mark List.mem_cons_self))

end FeaturesText

/-- **Which texts of features are read by the grammar.**  All but those that have a plus sign
and are of the grammar when numbers may have one.  Every value is read back from each of its
forms. -/
theorem features_grammar_iff (text : List Char) (v : UInt64) :
    ((∀ f, AirPlayFeatures.parse text = some f ↔ FeaturesText HexNumber text f.raw.toNat) ↔
        ¬ ('+' ∈ text ∧ ∃ n, FeaturesText HexNumberOrPlus text n)) ∧
      AirPlayFeatures.parse (hexForm v.toNat) = some ⟨v⟩ ∧
      AirPlayFeatures.parse (AirPlayFeatures.splitForm v) = some ⟨v⟩ ∧
      infoFeatures (some (.unsigned v)) = ⟨v⟩ := by
  refine ⟨⟨?_, fun unsigned f => ?_⟩, AirPlayFeatures.parse_hexForm v,
    AirPlayFeatures.parse_splitForm v, infoFeatures_unsigned v⟩
  · rintro agrees ⟨plus, n, signed⟩
    have value : (UInt64.ofNat n).toNat = n := UInt64.toNat_ofNat_of_lt' signed.lt
    have read : AirPlayFeatures.parse text = some ⟨UInt64.ofNat n⟩ :=
      AirPlayFeatures.parse_eq_some_iff.mpr (value.symm ▸ signed)
    exact ((agrees _).mp read).plus_not_mem plus
  · rw [AirPlayFeatures.parse_eq_some_iff]
    constructor
    · exact fun signed => signed.of_plus_not_mem fun plus => unsigned ⟨plus, _, signed⟩
    · exact fun grammar => grammar.imp fun _ _ _ number => Or.inl number

/-- A sign is no hexadecimal digit, and is read. -/
theorem features_with_sign_read :
    ¬ ∀ text f, AirPlayFeatures.parse text = some f ↔
      FeaturesText HexNumber text f.raw.toNat := by
  intro agrees
  have read : AirPlayFeatures.parse "0x+80".toList = some ⟨128⟩ := by decide
  exact ((agrees _ _).mp read).plus_not_mem (by decide)

end OpenPlay.Airplay
