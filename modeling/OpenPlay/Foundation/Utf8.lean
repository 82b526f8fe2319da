import Mathlib.Data.List.Basic
import OpenPlay.Foundation.Text

/-!
# UTF-8

Characters as bytes and back.  `decodeLossy` is the decoder that never fails: a
sequence that is no character becomes one replacement character, and decoding
goes on behind its longest prefix that could still have started one.

* `decodeLossy_encode`: on the bytes of a text the decoder gives the text.
* `encode_ascii`: the bytes of an ASCII text are its characters, one by one.
* `decodeLossy_append_ascii`: whatever the bytes are, decoding is cut at an ASCII byte.
* `find_encode`: an ASCII text is found in the bytes where it is found in the characters.
-/

namespace Utf8

/-- The bytes of a text. -/
def encode (text : List Char) : List UInt8 := text.flatMap String.utf8EncodeChar

/-- `U+FFFD`. -/
def replacement : Char := '\uFFFD'

/-- How many bytes a sequence with this first byte announces; 0 for none. -/
def width (first : UInt8) : Nat :=
  if first < 0x80 then 1
  else if 0xC2 ≤ first ∧ first ≤ 0xDF then 2
  else if 0xE0 ≤ first ∧ first ≤ 0xEF then 3
  else if 0xF0 ≤ first ∧ first ≤ 0xF4 then 4
  else 0

/-- A continuation byte. -/
def isContinuation (b : UInt8) : Bool := b &&& 0xC0 == 0x80

/-- The second bytes that a first byte of three or four allows. -/
def isSecond (first second : UInt8) : Bool :=
  if first = 0xE0 then 0xA0 ≤ second && second ≤ 0xBF
  else if first = 0xED then 0x80 ≤ second && second ≤ 0x9F
  else if first = 0xF0 then 0x90 ≤ second && second ≤ 0xBF
  else if first = 0xF4 then 0x80 ≤ second && second ≤ 0x8F
  else isContinuation second

/-- The bytes behind the first one that still belong to a broken sequence. -/
def brokenTail (first : UInt8) (rest : List UInt8) : Nat :=
  match rest with
  | [] => 0
  | second :: behind =>
      if width first < 3 ∨ isSecond first second = false then
        0
      else
        match behind with
        | [] => 1
        | third :: _ => if width first = 4 ∧ isContinuation third then 2 else 1

/-- The text of some bytes, with a replacement character for every broken
sequence. -/
def decodeLossy (bytes : List UInt8) : List Char :=
  match bytes with
  | [] => []
  | first :: rest =>
      match (first :: rest).toByteArray.utf8DecodeChar? 0 with
      | some c => c :: decodeLossy (rest.drop (c.utf8Size - 1))
      | none => replacement :: decodeLossy (rest.drop (brokenTail first rest))
termination_by bytes.length
decreasing_by
  all_goals
    rw [List.length_drop, List.length_cons]
    omega

@[simp] theorem encode_nil : encode [] = [] :=
  rfl

@[simp] theorem encode_cons (c : Char) (text : List Char) :
    encode (c :: text) = String.utf8EncodeChar c ++ encode text :=
  List.flatMap_cons

@[simp] theorem encode_append (a b : List Char) : encode (a ++ b) = encode a ++ encode b :=
  List.flatMap_append

@[simp] theorem decodeLossy_nil : decodeLossy [] = [] := by
  rw [decodeLossy]

theorem decodeLossy_ne_nil {bytes : List UInt8} (h : bytes ≠ []) : decodeLossy bytes ≠ [] := by
  obtain ⟨first, rest, rfl⟩ := List.exists_cons_of_ne_nil h
  rw [decodeLossy]
  split <;> nofun

theorem decodeLossy_char (c : Char) (bytes : List UInt8) :
    decodeLossy (String.utf8EncodeChar c ++ bytes) = c :: decodeLossy bytes := by
  have hlen := String.length_utf8EncodeChar c
  have hpos := c.utf8Size_pos
  have hread : (String.utf8EncodeChar c ++ bytes).toByteArray.utf8DecodeChar? 0 =
      some c := by
    rw [List.toByteArray_append]
    exact ByteArray.utf8DecodeChar?_utf8EncodeChar_append
  generalize hbytes : String.utf8EncodeChar c = encoded at hlen hread ⊢
  rcases encoded with _ | ⟨first, tail⟩
  · rw [List.length_nil] at hlen
    omega
  · have htail : c.utf8Size - 1 = tail.length := by
      rw [← hlen, List.length_cons, Nat.add_sub_cancel]
    rw [List.cons_append] at hread ⊢
    rw [decodeLossy, hread]
    show c :: decodeLossy ((tail ++ bytes).drop (c.utf8Size - 1)) = _
    rw [htail, List.drop_left]

/-- **Nothing is lost on text.** -/
@[simp] theorem decodeLossy_encode (text : List Char) :
    decodeLossy (encode text) = text := by
  induction text with
  | nil =>
    exact decodeLossy_nil
  | cons c rest ih =>
    rw [encode_cons, decodeLossy_char, ih]

/-! ## ASCII -/

/-- A character of one byte. -/
def IsAscii (c : Char) : Prop := c.val < 128

instance (c : Char) : Decidable (IsAscii c) := inferInstanceAs (Decidable (c.val < 128))

theorem utf8EncodeChar_ascii {c : Char} (h : IsAscii c) :
    String.utf8EncodeChar c = [c.val.toUInt8] := by
  have hle : c.val ≤ 127 := by
    rw [IsAscii, UInt32.lt_iff_toNat_lt] at h
    rw [UInt32.le_iff_toNat_le]
    exact Nat.le_of_lt_succ h
  exact String.utf8EncodeChar_eq_singleton (Char.utf8Size_eq_one_iff.mpr hle)

/-- The bytes of an ASCII text are its characters. -/
theorem encode_ascii {text : List Char} (h : ∀ c ∈ text, IsAscii c) :
    encode text = text.map fun c => c.val.toUInt8 := by
  induction text with
  | nil =>
    rfl
  | cons c rest ih =>
    rw [encode_cons, utf8EncodeChar_ascii (h c List.mem_cons_self),
      ih fun d hd => h d (List.mem_cons_of_mem c hd)]
    rfl

theorem length_encode_ascii {text : List Char} (h : ∀ c ∈ text, IsAscii c) :
    (encode text).length = text.length := by
  rw [encode_ascii h, List.length_map]

theorem toUInt8_inj {c d : Char} (hc : IsAscii c) (hd : IsAscii d)
    (h : c.val.toUInt8 = d.val.toUInt8) : c = d := by
  apply Char.ext
  apply UInt32.toNat_inj.mp
  have hbyte := congrArg UInt8.toNat h
  rw [IsAscii, UInt32.lt_iff_toNat_lt] at hc hd
  rw [UInt32.toNat_toUInt8, UInt32.toNat_toUInt8] at hbyte
  have hc' : c.val.toNat < 128 := hc
  have hd' : d.val.toNat < 128 := hd
  omega

/-! ## Cutting at ASCII bytes -/

/-- A character of several bytes has no ASCII byte. -/
theorem ge_of_mem_utf8EncodeChar {c : Char} {b : UInt8} (h : b ∈ String.utf8EncodeChar c)
    (many : (String.utf8EncodeChar c).length ≠ 1) : 128 ≤ b.toNat := by
  have high : ∀ n k : Nat, 128 ≤ k → n + k < 256 → 128 ≤ (UInt8.ofNat (n + k)).toNat := by
    intro n k hk hsmall
    rw [UInt8.toNat_ofNat', Nat.mod_eq_of_lt hsmall]
    omega
  unfold String.utf8EncodeChar at h many
  dsimp only at h many
  split_ifs at h many
  · exact absurd rfl many
  all_goals
    simp only [List.mem_cons, List.not_mem_nil, or_false] at h
    rcases h with rfl | rfl | rfl | rfl <;> exact high _ _ (by omega) (by omega)

/-- The first character of some bytes, if they begin with one. -/
theorem decodeChar_iff {bytes : List UInt8} {c : Char} :
    bytes.toByteArray.utf8DecodeChar? 0 = some c ↔ String.utf8EncodeChar c <+: bytes := by
  constructor
  · intro h
    obtain ⟨tail, htail⟩ := ByteArray.exists_of_utf8DecodeChar?_eq_some h
    refine ⟨tail.data.toList, ?_⟩
    have hlists := congrArg (fun b : ByteArray => b.data.toList) htail
    simpa using hlists.symm
  · rintro ⟨tail, rfl⟩
    rw [List.toByteArray_append]
    exact ByteArray.utf8DecodeChar?_utf8EncodeChar_append

/-- A byte of one character by itself takes no part in the character in front of it. -/
theorem decodeChar_append {a : List UInt8} (hne : a ≠ []) {b : UInt8} (hb : b.toNat < 128)
    (rest : List UInt8) :
    (a ++ b :: rest).toByteArray.utf8DecodeChar? 0 = a.toByteArray.utf8DecodeChar? 0 := by
  apply Option.ext
  intro c
  rw [decodeChar_iff, decodeChar_iff]
  constructor
  · intro h
    have hfront : a ++ [b] <+: a ++ b :: rest := ⟨rest, by rw [List.append_assoc]; rfl⟩
    by_contra hnot
    have hlong : a.length < (String.utf8EncodeChar c).length := by
      by_contra hshort
      exact hnot (List.prefix_of_prefix_length_le h (List.prefix_append _ _)
        (Nat.not_lt.mp hshort))
    have hin : a ++ [b] <+: String.utf8EncodeChar c :=
      List.prefix_of_prefix_length_le hfront h (by rw [List.length_append]; exact hlong)
    have hmem : b ∈ String.utf8EncodeChar c :=
      hin.subset (List.mem_append_right _ List.mem_cons_self)
    have hpos := List.length_pos_iff.mpr hne
    exact absurd (ge_of_mem_utf8EncodeChar hmem (by omega)) (Nat.not_le.mpr hb)
  · intro h
    exact h.trans (List.prefix_append _ _)

theorem brokenTail_append (first : UInt8) (tail : List UInt8) {b : UInt8} (hb : b.toNat < 128)
    (rest : List UInt8) : brokenTail first (tail ++ b :: rest) = brokenTail first tail := by
  have hno : isContinuation b = false := by
    rw [isContinuation, beq_eq_false_iff_ne, Ne, ← UInt8.toNat_inj, UInt8.toNat_and]
    show ¬ b.toNat &&& 192 = 128
    intro h
    have hbit := congrArg (Nat.testBit · 7) h
    simp only [Nat.testBit_and, Nat.testBit_lt_two_pow (show b.toNat < 2 ^ 7 from hb)] at hbit
    exact absurd hbit (by decide)
  have hsecond : isSecond first b = false := by
    unfold isSecond
    split_ifs
    all_goals simp [hno, UInt8.le_iff_toNat_le]
    all_goals omega
  rcases tail with _ | ⟨second, _ | ⟨third, tail⟩⟩
  · simp [brokenTail, hsecond]
  · simp [brokenTail, hno]
  · simp [brokenTail]

theorem brokenTail_le (first : UInt8) (tail : List UInt8) :
    brokenTail first tail ≤ tail.length := by
  rcases tail with _ | ⟨second, _ | ⟨third, tail⟩⟩
  · exact Nat.le_refl _
  · simp only [brokenTail]
    split_ifs <;> simp
  · simp only [brokenTail]
    split_ifs <;> simp

/-- **Decoding is cut at an ASCII byte**: it takes no part in what stands in front. -/
theorem decodeLossy_append_ascii (a : List UInt8) {b : UInt8} (hb : b.toNat < 128)
    (rest : List UInt8) :
    decodeLossy (a ++ b :: rest) = decodeLossy a ++ decodeLossy (b :: rest) := by
  fun_induction decodeLossy a with
  | case1 => rfl
  | case2 first tail c hc ih =>
    have hlen := (decodeChar_iff.mp hc).length_le
    rw [String.length_utf8EncodeChar, List.length_cons] at hlen
    have hsome := hc
    rw [← decodeChar_append (List.cons_ne_nil _ _) hb rest, List.cons_append] at hsome
    rw [List.cons_append, decodeLossy, hsome]
    dsimp only
    rw [List.drop_append_of_le_length (Nat.sub_le_of_le_add hlen), ih, List.cons_append]
  | case3 first tail hnone ih =>
    have hnone' := hnone
    rw [← decodeChar_append (List.cons_ne_nil _ _) hb rest, List.cons_append] at hnone'
    rw [List.cons_append, decodeLossy, hnone']
    dsimp only
    rw [brokenTail_append first tail hb, List.drop_append_of_le_length (brokenTail_le _ _), ih,
      List.cons_append]

/-- An ASCII byte is decoded by itself. -/
theorem decodeLossy_cons_ascii {c : Char} (h : IsAscii c) (rest : List UInt8) :
    decodeLossy (c.val.toUInt8 :: rest) = c :: decodeLossy rest := by
  have hbytes := utf8EncodeChar_ascii h
  have hchar := decodeLossy_char c rest
  rw [hbytes] at hchar
  exact hchar

/-! ## Finding ASCII in the bytes -/

/-- The bytes of a character that is not ASCII are not ASCII either. -/
theorem ne_of_mem_utf8EncodeChar {c x : Char} (many : ¬ IsAscii c) (ascii : IsAscii x) :
    x.val.toUInt8 ∉ String.utf8EncodeChar c := by
  intro mem
  have length : (String.utf8EncodeChar c).length ≠ 1 := by
    rw [String.length_utf8EncodeChar, Ne, Char.utf8Size_eq_one_iff]
    intro small
    rw [UInt32.le_iff_toNat_le] at small
    rw [IsAscii, UInt32.lt_iff_toNat_lt] at many
    exact many (Nat.lt_succ_of_le small)
  have high := ge_of_mem_utf8EncodeChar mem length
  rw [IsAscii, UInt32.lt_iff_toNat_lt] at ascii
  rw [UInt32.toNat_toUInt8] at high
  have limit : (128 : UInt32).toNat = 128 := rfl
  omega

/-- An ASCII text is a prefix of the bytes exactly where it is one of the characters. -/
theorem encode_prefix_iff {needle hay : List Char} (h : ∀ c ∈ needle, IsAscii c) :
    encode needle <+: encode hay ↔ needle <+: hay := by
  induction needle generalizing hay with
  | nil => simp
  | cons x more ih =>
      have ascii := h x List.mem_cons_self
      have rest := fun hay => @ih hay fun c mem => h c (List.mem_cons_of_mem x mem)
      cases hay with
      | nil => simp [utf8EncodeChar_ascii ascii]
      | cons y hay =>
          rw [encode_cons, encode_cons, utf8EncodeChar_ascii ascii, List.cons_prefix_cons]
          by_cases single : IsAscii y
          · rw [utf8EncodeChar_ascii single]
            show x.val.toUInt8 :: encode more <+: y.val.toUInt8 :: encode hay ↔ _
            rw [List.cons_prefix_cons, rest]
            refine and_congr_left fun _ => ⟨toUInt8_inj ascii single, fun same => by rw [same]⟩
          · have other := ne_of_mem_utf8EncodeChar single ascii
            refine iff_of_false ?_ fun same => single (same.1 ▸ ascii)
            obtain ⟨b, bytes, first⟩ := List.exists_cons_of_ne_nil
              (List.ne_nil_of_length_pos (l := String.utf8EncodeChar y)
                (by rw [String.length_utf8EncodeChar]; exact y.utf8Size_pos))
            rw [first] at other ⊢
            intro starts
            exact other (List.mem_cons.mpr (Or.inl (List.cons_prefix_cons.mp starts).1))

/-- **An ASCII text is found in the bytes where it is found in the characters.** -/
theorem find_encode {needle hay : List Char} {i : Nat} (h : ∀ c ∈ needle, IsAscii c)
    (hne : needle ≠ []) (found : Text.find needle hay = some i) :
    Text.find (encode needle) (encode hay) = some (encode (hay.take i)).length := by
  obtain ⟨x, more, rfl⟩ := List.exists_cons_of_ne_nil hne
  have ascii := h x List.mem_cons_self
  have bytes : encode (x :: more) = x.val.toUInt8 :: encode more := by
    rw [encode_cons, utf8EncodeChar_ascii ascii]
    rfl
  induction hay generalizing i with
  | nil => cases found
  | cons y rest ih =>
      by_cases here : x :: more <+: y :: rest
      · rw [Text.find, if_pos (List.isPrefixOf_iff_prefix.mpr here)] at found
        cases found
        refine Text.find_eq_some_iff.mpr ⟨Nat.zero_le _, ?_, fun j hj => absurd hj (Nat.not_lt_zero j)⟩
        exact (encode_prefix_iff h).mpr here
      · rw [Text.find_cons_later here, Option.map_eq_some_iff] at found
        obtain ⟨j, later, rfl⟩ := found
        have found := ih later
        have none : ¬ encode (x :: more) <+: encode (y :: rest) := fun starts =>
          here ((encode_prefix_iff h).mp starts)
        rw [encode_cons y] at none ⊢
        rw [List.take_succ_cons, encode_cons y, List.length_append, Nat.add_comm]
        by_cases single : IsAscii y
        · rw [utf8EncodeChar_ascii single] at none ⊢
          refine (Text.find_cons_later none).trans ?_
          show (Text.find _ (encode rest)).map _ = _
          rw [found]
          rfl
        · rw [bytes] at found ⊢
          rw [Text.find_skip (ne_of_mem_utf8EncodeChar single ascii), found]
          rfl

/-! ## Sizes -/

theorem length_encode_append (a b : List Char) :
    (encode (a ++ b)).length = (encode a).length + (encode b).length := by
  simp [encode]

theorem length_encode_cons (c : Char) (rest : List Char) :
    (encode (c :: rest)).length = c.utf8Size + (encode rest).length := by
  simp [encode]

theorem length_encode_flatMap (f : Char → List Char) (cs : List Char) :
    (encode (cs.flatMap f)).length =
      (cs.map fun c => (encode (f c)).length).sum := by
  simp [encode, List.length_flatMap, List.flatMap_assoc]

theorem utf8ByteSize_eq (s : String) : s.utf8ByteSize = (s.toList.map Char.utf8Size).sum := by
  rw [← String.size_toByteArray, ← String.utf8Encode_toList]
  simp [List.utf8Encode, List.length_flatMap]

/-- No character has more than four bytes. -/
theorem utf8ByteSize_le (s : String) : s.utf8ByteSize ≤ 4 * s.length := by
  rw [utf8ByteSize_eq, ← String.length_toList]
  induction s.toList with
  | nil => exact Nat.le_refl _
  | cons c cs ih =>
    have hc := c.utf8Size_le_four
    simp only [List.map_cons, List.sum_cons, List.length_cons]
    omega

theorem utf8Size_ascii {c : Char} (h : c.toNat < 0x80) : c.utf8Size = 1 := by
  refine if_pos ?_
  rw [UInt32.le_iff_toNat_le]
  exact Nat.le_of_lt_succ h

end Utf8
