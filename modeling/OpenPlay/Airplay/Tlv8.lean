import OpenPlay.Foundation.Tagged

/-!
# TLV8

The encoding of HomeKit pairing messages: a byte of type, a byte of length and
up to 255 bytes of value.  A longer value travels as several records under one
type, and the decoder joins neighbours of one type.

The decoder walks over the buffer by positions.  Its model keeps the positions
and answers `none` where the code would index out of range, so that the absence
of a panic is a theorem and not a convention.  What a buffer holds behind a
position is one of four things (`exists_head`), and `decodeFrom_outcome` follows
the walk over them.
-/

namespace OpenPlay.Tlv8

open Tagged (push fragments mergeRuns IsApart)

/-- A single TLV8 item. -/
abbrev Tlv8Item := Tagged UInt8 UInt8

/-! ## Encoding -/

/-- `encode_item`, behind what the buffer already holds. -/
def encodeItem (buf : List UInt8) (tag : UInt8) (value : List UInt8) : List UInt8 :=
  if value = [] then
    buf ++ [tag] ++ [0]
  else
    (Tagged.chunks 255 value).foldl
      (fun buf chunk => buf ++ [tag] ++ [UInt8.ofNat chunk.length] ++ chunk) buf

/-- `encode`: all items, one behind the other. -/
def encode (items : List Tlv8Item) : List UInt8 :=
  items.foldl (fun buf item => encodeItem buf item.tag item.value) []

/-! ## Decoding -/

inductive DecodeError where
  | truncatedHeader (offset : Nat)
  | truncatedValue (offset expected available : Nat)
deriving DecidableEq, Repr

/-- The text of an error. -/
def DecodeError.text : DecodeError → String
  | .truncatedHeader offset => s!"Truncated TLV header at offset {offset}"
  | .truncatedValue offset expected available =>
      s!"Truncated TLV value at offset {offset}: expected {expected} bytes, got {available}"

/-- `data[start..stop]`; out of range is `none`. -/
def slice (data : List UInt8) (start stop : Nat) : Option (List UInt8) :=
  if start ≤ stop ∧ stop ≤ data.length then
    some ((data.drop start).take (stop - start))
  else
    none

/-- The loop of `decode` at a position, with the items so far. -/
def decodeFrom (data : List UInt8) (pos : Nat) (items : List Tlv8Item) :
    Option (Except DecodeError (List Tlv8Item)) :=
  if _inside : pos < data.length then
    if data.length ≤ pos + 1 then
      some (.error (.truncatedHeader pos))
    else
      match data[pos]?, data[pos + 1]? with
      | some tag, some length =>
          if data.length < pos + 2 + length.toNat then
            some (.error
              (.truncatedValue (pos + 2) length.toNat (data.length - (pos + 2))))
          else
            match slice data (pos + 2) (pos + 2 + length.toNat) with
            | some value =>
                decodeFrom data (pos + 2 + length.toNat) (push items ⟨tag, value⟩)
            | none => none
      | _, _ => none
  else
    some (.ok items)
termination_by data.length - pos

/-- `decode`: the items of a buffer, or where it breaks off. -/
def decode (data : List UInt8) : Option (Except DecodeError (List Tlv8Item)) :=
  decodeFrom data 0 []

/-! ## Records -/

/-- The bytes of one complete record. -/
def record (item : Tlv8Item) : List UInt8 :=
  item.tag :: UInt8.ofNat item.value.length :: item.value

/-- A concatenation of complete records. -/
def IsRecords (data : List UInt8) : Prop :=
  ∃ records : List Tlv8Item, (∀ r ∈ records, r.value.length ≤ 255) ∧
    data = records.flatMap record

theorem length_record (item : Tlv8Item) :
    (record item).length = item.value.length + 2 :=
  rfl

/-- The length byte is read back as the length it was written from. -/
theorem toNat_length {item : Tlv8Item} (h : item.value.length ≤ 255) :
    (UInt8.ofNat item.value.length).toNat = item.value.length := by
  rw [UInt8.toNat_ofNat']
  omega

/-- Complete records are read off in one way only. -/
theorem record_append_inj {a b : Tlv8Item} {s t : List UInt8}
    (ha : a.value.length ≤ 255) (hb : b.value.length ≤ 255)
    (h : record a ++ s = record b ++ t) : a = b ∧ s = t := by
  obtain ⟨tag, value⟩ := a
  obtain ⟨tag', value'⟩ := b
  simp only [record, List.cons_append, List.cons.injEq] at h
  obtain ⟨htag, hlen, hrest⟩ := h
  have hlength : value.length = value'.length := by
    have hbyte := congrArg UInt8.toNat hlen
    rwa [toNat_length ha, toNat_length hb] at hbyte
  obtain ⟨hvalue, hst⟩ := List.append_inj hrest hlength
  rw [htag, hvalue]
  exact ⟨rfl, hst⟩

theorem isRecords_record_append {item : Tlv8Item} (h : item.value.length ≤ 255)
    (more : List UInt8) : IsRecords (record item ++ more) ↔ IsRecords more := by
  constructor
  · rintro ⟨records, hsmall, heq⟩
    rcases records with _ | ⟨first, rest⟩
    · cases heq
    · rw [List.flatMap_cons] at heq
      have hfirst := hsmall first List.mem_cons_self
      exact ⟨rest, fun r hr => hsmall r (List.mem_cons_of_mem _ hr),
        (record_append_inj h hfirst heq).2⟩
  · rintro ⟨records, hsmall, rfl⟩
    refine ⟨item :: records, ?_, rfl⟩
    intro r hr
    rcases List.mem_cons.mp hr with rfl | hmem
    · exact h
    · exact hsmall r hmem

theorem not_isRecords_header (tag : UInt8) : ¬ IsRecords [tag] := by
  rintro ⟨records, -, heq⟩
  rcases records with _ | ⟨first, rest⟩
  · cases heq
  · have hlen := congrArg List.length heq
    rw [List.flatMap_cons, List.length_append, length_record,
      List.length_singleton] at hlen
    omega

theorem not_isRecords_value {tag length : UInt8} {body : List UInt8}
    (h : body.length < length.toNat) : ¬ IsRecords (tag :: length :: body) := by
  rintro ⟨records, hsmall, heq⟩
  rcases records with _ | ⟨first, rest⟩
  · cases heq
  · rw [List.flatMap_cons, record] at heq
    simp only [List.cons_append, List.cons.injEq] at heq
    obtain ⟨-, hlength, hbody⟩ := heq
    rw [hlength, toNat_length (hsmall first List.mem_cons_self), hbody,
      List.length_append] at h
    omega

/-- What a buffer holds from some position on. -/
theorem exists_head (rest : List UInt8) :
    rest = [] ∨ (∃ tag, rest = [tag]) ∨
      (∃ tag length body, rest = tag :: length :: body ∧ body.length < length.toNat) ∨
      ∃ item more, item.value.length ≤ 255 ∧ rest = record item ++ more := by
  rcases rest with _ | ⟨tag, _ | ⟨length, body⟩⟩
  · exact Or.inl rfl
  · exact Or.inr (Or.inl ⟨tag, rfl⟩)
  · by_cases h : body.length < length.toNat
    · exact Or.inr (Or.inr (Or.inl ⟨tag, length, body, rfl, h⟩))
    · have hbyte : length.toNat < 256 := length.toNat_lt
      have htake : (body.take length.toNat).length = length.toNat := by
        rw [List.length_take]
        omega
      refine Or.inr (Or.inr (Or.inr
        ⟨⟨tag, body.take length.toNat⟩, body.drop length.toNat, ?_, ?_⟩))
      · show (body.take length.toNat).length ≤ 255
        omega
      · simp only [record, htake, List.cons_append, List.take_append_drop,
          UInt8.ofNat_toNat]

/-! ## The walk of the decoder -/

theorem slice_append (front value more : List UInt8) :
    slice (front ++ (value ++ more)) front.length (front.length + value.length) =
      some value := by
  have hbound : front.length + value.length ≤ (front ++ (value ++ more)).length := by
    rw [List.length_append, List.length_append]
    omega
  rw [slice, if_pos ⟨Nat.le_add_right _ _, hbound⟩, List.drop_left,
    Nat.add_sub_cancel_left, List.take_left]

theorem decodeFrom_end (data : List UInt8) (items : List Tlv8Item) :
    decodeFrom data data.length items = some (.ok items) := by
  rw [decodeFrom, dif_neg (Nat.lt_irrefl _)]

theorem decodeFrom_header (front : List UInt8) (tag : UInt8) (items : List Tlv8Item) :
    decodeFrom (front ++ [tag]) front.length items =
      some (.error (.truncatedHeader front.length)) := by
  have hlen : (front ++ [tag]).length = front.length + 1 := List.length_append
  rw [decodeFrom, dif_pos (by omega), if_pos (by omega)]

theorem decodeFrom_value (front : List UInt8) {tag length : UInt8} {body : List UInt8}
    (h : body.length < length.toNat) (items : List Tlv8Item) :
    decodeFrom (front ++ tag :: length :: body) front.length items =
      some (.error
        (.truncatedValue (front.length + 2) length.toNat body.length)) := by
  have hlen : (front ++ tag :: length :: body).length =
      front.length + (body.length + 2) := List.length_append
  have htag : (front ++ tag :: length :: body)[front.length]? = some tag := by
    rw [List.getElem?_append_right (Nat.le_refl _), Nat.sub_self]
    rfl
  have hlength : (front ++ tag :: length :: body)[front.length + 1]? = some length := by
    rw [List.getElem?_append_right (Nat.le_add_right _ _), Nat.add_sub_cancel_left]
    rfl
  have havailable :
      front.length + (body.length + 2) - (front.length + 2) = body.length := by
    omega
  rw [decodeFrom, dif_pos (by omega), if_neg (by omega), htag, hlength, hlen,
    havailable]
  exact if_pos (by omega)

theorem decodeFrom_record (front : List UInt8) {item : Tlv8Item} (more : List UInt8)
    (h : item.value.length ≤ 255) (items : List Tlv8Item) :
    decodeFrom (front ++ (record item ++ more)) front.length items =
      decodeFrom ((front ++ record item) ++ more) (front ++ record item).length
        (push items item) := by
  obtain ⟨tag, value⟩ := item
  replace h : value.length ≤ 255 := h
  have hlen : (front ++ (record ⟨tag, value⟩ ++ more)).length =
      front.length + (value.length + 2 + more.length) := by
    rw [List.length_append, List.length_append, length_record]
  have htag : (front ++ (record ⟨tag, value⟩ ++ more))[front.length]? = some tag := by
    rw [List.getElem?_append_right (Nat.le_refl _), Nat.sub_self]
    rfl
  have hlength : (front ++ (record ⟨tag, value⟩ ++ more))[front.length + 1]? =
      some (UInt8.ofNat value.length) := by
    rw [List.getElem?_append_right (Nat.le_add_right _ _), Nat.add_sub_cancel_left]
    rfl
  have hslice : slice (front ++ (record ⟨tag, value⟩ ++ more)) (front.length + 2)
      (front.length + 2 + value.length) = some value := by
    have hhead := slice_append (front ++ [tag, UInt8.ofNat value.length]) value more
    rw [List.append_assoc, List.length_append] at hhead
    exact hhead
  have hnext : front.length + 2 + value.length =
      (front ++ record ⟨tag, value⟩).length := by
    rw [List.length_append, length_record]
    show front.length + 2 + value.length = front.length + (value.length + 2)
    omega
  rw [decodeFrom, dif_pos (by omega), if_neg (by omega), htag, hlength]
  have hread : (UInt8.ofNat value.length).toNat = value.length :=
    @toNat_length ⟨tag, value⟩ h
  simp only [hread]
  rw [if_neg (by omega), hslice]
  show decodeFrom _ (front.length + 2 + value.length) _ = _
  rw [hnext, List.append_assoc]

/-- **What the walk comes to.**  From any position the decoder either reads
complete records to the end and adds them up, or it fails and what it was to
read is no concatenation of records. -/
theorem decodeFrom_outcome (front rest : List UInt8) (items : List Tlv8Item) :
    (∃ records : List Tlv8Item, (∀ r ∈ records, r.value.length ≤ 255) ∧
      rest = records.flatMap record ∧
      decodeFrom (front ++ rest) front.length items =
        some (.ok (records.foldl push items))) ∨
    (¬ IsRecords rest ∧
      ∃ error, decodeFrom (front ++ rest) front.length items =
        some (.error error)) := by
  -- on the number of bytes behind the position
  induction hn : rest.length using Nat.strongRecOn generalizing front rest items with
  | ind n ih =>
    rcases exists_head rest with rfl | ⟨tag, rfl⟩ | ⟨tag, length, body, rfl, hshort⟩ |
      ⟨item, more, hsmall, rfl⟩
    · left
      refine ⟨[], fun _ h => absurd h List.not_mem_nil, rfl, ?_⟩
      rw [List.append_nil]
      exact decodeFrom_end front items
    · exact Or.inr ⟨not_isRecords_header tag, _, decodeFrom_header front tag items⟩
    · exact Or.inr ⟨not_isRecords_value hshort, _, decodeFrom_value front hshort items⟩
    · have hlen : more.length < n := by
        rw [← hn, List.length_append, length_record]
        omega
      rw [decodeFrom_record front more hsmall]
      rcases ih _ hlen (front ++ record item) more (push items item) rfl with
        ⟨records, hall, rfl, hrun⟩ | ⟨hbad, error, hrun⟩
      · refine Or.inl ⟨item :: records, ?_, rfl, hrun⟩
        intro r hr
        rcases List.mem_cons.mp hr with rfl | hmem
        · exact hsmall
        · exact hall r hmem
      · exact Or.inr ⟨fun h => hbad ((isRecords_record_append hsmall more).mp h),
          error, hrun⟩

theorem decode_outcome (data : List UInt8) :
    (∃ records : List Tlv8Item, (∀ r ∈ records, r.value.length ≤ 255) ∧
      data = records.flatMap record ∧
      decode data = some (.ok (mergeRuns records))) ∨
    (¬ IsRecords data ∧ ∃ error, decode data = some (.error error)) := by
  have h := decodeFrom_outcome [] data []
  simp only [Tagged.foldl_push] at h
  exact h

/-- Complete records decode to their merge. -/
theorem decode_records {records : List Tlv8Item}
    (h : ∀ r ∈ records, r.value.length ≤ 255) :
    decode (records.flatMap record) = some (.ok (mergeRuns records)) := by
  rcases decode_outcome (records.flatMap record) with
    ⟨records', h', heq, hrun⟩ | ⟨hbad, -⟩
  · -- both lists of records spell the same bytes
    have hsame : records = records' := by
      clear hrun
      induction records generalizing records' with
      | nil =>
        rcases records' with _ | ⟨first', rest'⟩
        · rfl
        · cases heq
      | cons first rest ih =>
        rcases records' with _ | ⟨first', rest'⟩
        · cases heq
        · rw [List.flatMap_cons, List.flatMap_cons] at heq
          obtain ⟨hfirst, hrest⟩ := record_append_inj (h first List.mem_cons_self)
            (h' first' List.mem_cons_self) heq
          rw [hfirst, ih (fun r hr => h r (List.mem_cons_of_mem _ hr)) rest'
            (fun r hr => h' r (List.mem_cons_of_mem _ hr)) hrest]
    rw [hrun, hsame]
  · exact absurd ⟨records, h, rfl⟩ hbad

/-! ## What the encoder writes -/

theorem encodeItem_eq (buf : List UInt8) (item : Tlv8Item) :
    encodeItem buf item.tag item.value =
      buf ++ (fragments 255 item).flatMap record := by
  by_cases h : item.value = []
  · rw [encodeItem, if_pos h, fragments, if_pos h, List.flatMap_singleton, record, h,
      List.append_assoc]
    rfl
  · rw [encodeItem, if_neg h, fragments, if_neg h]
    generalize Tagged.chunks 255 item.value = pieces
    induction pieces generalizing buf with
    | nil =>
      exact (List.append_nil buf).symm
    | cons piece rest ih =>
      rw [List.foldl_cons, ih, List.map_cons, List.flatMap_cons, record]
      simp only [List.append_assoc, List.cons_append, List.nil_append]

theorem encode_eq (items : List Tlv8Item) :
    encode items = (items.flatMap (fragments 255)).flatMap record := by
  have hfrom : ∀ buf : List UInt8,
      items.foldl (fun buf item => encodeItem buf item.tag item.value) buf =
        buf ++ (items.flatMap (fragments 255)).flatMap record := by
    induction items with
    | nil =>
      exact fun buf => (List.append_nil buf).symm
    | cons item rest ih =>
      intro buf
      rw [List.foldl_cons, ih, encodeItem_eq, List.flatMap_cons, List.flatMap_append,
        List.append_assoc]
  rw [encode, hfrom, List.nil_append]

/-- **Round trip.**  Decoding what was encoded gives the items with their runs
merged. -/
theorem decode_encode_eq (items : List Tlv8Item) :
    decode (encode items) = some (.ok (mergeRuns items)) := by
  rw [encode_eq, decode_records, ← Tagged.foldl_push,
    Tagged.foldl_push_flatMap_fragments (by decide), Tagged.foldl_push]
  intro r hr
  obtain ⟨item, -, hpiece⟩ := List.mem_flatMap.mp hr
  exact Tagged.length_le_of_mem_fragments hpiece

/-- What the decoder returns has no neighbours under one tag. -/
theorem isApart_of_decode {data : List UInt8} {items : List Tlv8Item}
    (h : decode data = some (.ok items)) : IsApart items := by
  rcases decode_outcome data with ⟨records, -, -, hrun⟩ | ⟨-, error, hrun⟩
  · rw [h] at hrun
    cases hrun
    rw [← Tagged.foldl_push]
    exact Tagged.isApart_foldl_push [] records List.isChain_nil
  · rw [h] at hrun
    cases hrun

/-- **TLV8 is a codec up to merging.**  Encoded items decode to their merge,
which is the items themselves when no neighbours share a tag.  On any bytes the
decoder ends without indexing out of range, fails exactly when they are no
concatenation of complete records, and what it returns survives another round
trip. -/
theorem codec :
    (∀ items : List Tlv8Item, decode (encode items) = some (.ok (mergeRuns items)) ∧
      (IsApart items → decode (encode items) = some (.ok items))) ∧
    ∀ data : List UInt8, decode data ≠ none ∧
      ((∃ error, decode data = some (.error error)) ↔ ¬ IsRecords data) ∧
      ∀ items, decode data = some (.ok items) →
        decode (encode items) = some (.ok items) := by
  refine ⟨fun items => ⟨decode_encode_eq items, fun h => ?_⟩, fun data => ⟨?_, ?_, ?_⟩⟩
  · rw [decode_encode_eq, Tagged.mergeRuns_eq_self h]
  · rcases decode_outcome data with ⟨records, -, -, hrun⟩ | ⟨-, error, hrun⟩ <;>
      · rw [hrun]
        exact Option.some_ne_none _
  · rcases decode_outcome data with ⟨records, hsmall, heq, hrun⟩ | ⟨hbad, error, hrun⟩
    · constructor
      · rintro ⟨error, herror⟩
        rw [hrun] at herror
        cases herror
      · exact fun h => absurd ⟨records, hsmall, heq⟩ h
    · exact ⟨fun _ => hbad, fun _ => ⟨error, hrun⟩⟩
  · intro items h
    rw [decode_encode_eq, Tagged.mergeRuns_eq_self (isApart_of_decode h)]

/-- A state item, then a value in two fragments. -/
theorem codec_fragmented :
    decode (encode [⟨6, [1]⟩, ⟨3, List.replicate 300 0xAB⟩]) =
      some (.ok [⟨6, [1]⟩, ⟨3, List.replicate 300 0xAB⟩]) :=
  (codec.1 _).2 (List.isChain_pair.mpr (by decide))

end OpenPlay.Tlv8
