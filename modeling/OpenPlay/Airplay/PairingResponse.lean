import OpenPlay.Airplay.Response

/-!
# The buffer of a pairing response

`recv_response` of `openplay-airplay`'s `hap_pairing.rs` once more, now with its buffer: the
reads write into what is left of it, it is doubled when it is full, and grows to the end of
the body once that is known.  Lengths are natural numbers here; the sums of 64 bits are those
of `recvResponse`.

Whatever the cut of the stream, the function returns what `respond` reads off the bytes
(`receive_eq`).
-/

namespace OpenPlay.Airplay

namespace HapPairing

/-! ## The code -/

/-- What the function returns; `closed` keeps what had not been read, and `outOfRange` stands
for an index that panics. -/
inductive Received where
  | body (bytes : List UInt8)
  | failed (e : String)
  | closed (e : String) (left : List UInt8)
  | outOfRange
deriving DecidableEq, Repr

/-- The two locals `buf` and `total`, the reads so far, and the bytes that no read has
brought yet. -/
structure RecvState where
  buf : List UInt8
  total : Nat
  reads : Nat
  incoming : List UInt8
deriving DecidableEq, Repr

/-- `&buf[start..stop]`. -/
def slice (buf : List UInt8) (start stop : Nat) : Option (List UInt8) :=
  if start ≤ stop ∧ stop ≤ buf.length then some ((buf.take stop).drop start) else none

/-- `buf.resize(len, 0)` to a larger length. -/
def grow (buf : List UInt8) (len : Nat) : List UInt8 :=
  buf ++ List.replicate (len - buf.length) 0

/-- Room for the whole body. -/
def RecvState.makeRoom (s : RecvState) (len : Nat) : RecvState :=
  if s.buf.length < len then { s with buf := grow s.buf len } else s

/-- The end of a round without the end of the header. -/
def RecvState.doubleWhenFull (s : RecvState) : RecvState :=
  if s.total ≥ s.buf.length then { s with buf := grow s.buf (s.buf.length * 2) } else s

@[simp] theorem RecvState.incoming_doubleWhenFull (s : RecvState) :
    s.doubleWhenFull.incoming = s.incoming := by
  unfold doubleWhenFull
  split_ifs <;> rfl

/-- `stream.read(&mut buf[total..])` with `total += n`.  The `k`-th read finds `cuts k + 1`
bytes, or as many as are left, and takes what there is room for. -/
def read (cuts : Nat → Nat) (s : RecvState) : Option (Nat × RecvState) :=
  (slice s.buf s.total s.buf.length).map fun room =>
    let n := min (cuts s.reads + 1) (min room.length s.incoming.length)
    (n, { buf := s.buf.take s.total ++ s.incoming.take n ++ s.buf.drop (s.total + n),
          total := s.total + n,
          reads := s.reads + 1,
          incoming := s.incoming.drop n })

theorem incoming_of_read {cuts : Nat → Nat} {s s' : RecvState} {n : Nat}
    (h : read cuts s = some (n, s')) : s'.incoming.length = s.incoming.length - n := by
  obtain ⟨room, -, heq⟩ := Option.map_eq_some_iff.mp h
  cases heq
  exact List.length_drop

theorem le_of_read {cuts : Nat → Nat} {s s' : RecvState} {n : Nat}
    (h : read cuts s = some (n, s')) : n ≤ s.incoming.length := by
  obtain ⟨room, -, heq⟩ := Option.map_eq_some_iff.mp h
  cases heq
  exact (Nat.min_le_right _ _).trans (Nat.min_le_right _ _)

/-- `buf[body_start..body_start + content_length].to_vec()`. -/
def bodyOf (buf : List UInt8) (bodyStart contentLength : Nat) : Received :=
  match slice buf bodyStart (bodyStart + contentLength) with
  | none => .outOfRange
  | some bytes => .body bytes

/-- The loop behind the header. -/
def receiveBody (cuts : Nat → Nat) (bodyStart contentLength : Nat) (s : RecvState) : Received :=
  if s.total - bodyStart < contentLength then
    match _ : read cuts s with
    | none => .outOfRange
    | some (n, s') =>
        if n = 0 then .closed "Connection closed mid-body" s.incoming
        else receiveBody cuts bodyStart contentLength s'
  else bodyOf s.buf bodyStart contentLength
termination_by s.incoming.length
decreasing_by
  have := incoming_of_read ‹_›
  have := le_of_read ‹_›
  omega

/-- What follows the header block: the status, the declared length, and the body. -/
def receiveRest (cuts : Nat → Nat) (headerEnd : Nat) (s : RecvState) : Received :=
  match slice s.buf 0 headerEnd with
  | none => .outOfRange
  | some bytes =>
      let header := Utf8.decodeLossy bytes
      match checkHttpStatus header with
      | .error e => .failed e
      | .ok () =>
          let contentLength := (parseContentLength header).getD 0
          let bodyStart := headerEnd + 4
          if s.total < bodyStart then .outOfRange
          else if s.total - bodyStart ≥ contentLength then bodyOf s.buf bodyStart contentLength
          else
            receiveBody cuts bodyStart contentLength (s.makeRoom (bodyStart + contentLength))

/-- The loop up to the end of the header. -/
def receiveHeader (cuts : Nat → Nat) (s : RecvState) : Received :=
  match _ : read cuts s with
  | none => .outOfRange
  | some (n, s') =>
      if n = 0 then .closed "Connection closed" s.incoming
      else
        match slice s'.buf 0 s'.total with
        | none => .outOfRange
        | some bytes =>
            match findHeaderEnd bytes with
            | some headerEnd => receiveRest cuts headerEnd s'
            | none => receiveHeader cuts s'.doubleWhenFull
termination_by s.incoming.length
decreasing_by
  rw [RecvState.incoming_doubleWhenFull]
  have := incoming_of_read ‹_›
  have := le_of_read ‹_›
  omega

/-- `recv_response`, on the bytes that come before the peer closes, cut in some way. -/
def receive (cuts : Nat → Nat) (incoming : List UInt8) : Received :=
  receiveHeader cuts ⟨List.replicate 8192 0, 0, 0, incoming⟩

/-! ## What the bytes say -/

/-- The response to the bytes of a stream, in one piece. -/
def respond (incoming : List UInt8) : Received :=
  match findHeaderEnd incoming with
  | none => .closed "Connection closed" []
  | some headerEnd =>
      let header := Utf8.decodeLossy (incoming.take headerEnd)
      let following := incoming.drop (headerEnd + 4)
      match checkHttpStatus header with
      | .error e => .failed e
      | .ok () =>
          let contentLength := (parseContentLength header).getD 0
          if contentLength ≤ following.length then .body (following.take contentLength)
          else .closed "Connection closed mid-body" []

/-- The front of the buffer and what no read has brought are the stream. -/
structure RecvState.Holds (s : RecvState) (whole : List UInt8) : Prop where
  inRange : s.total ≤ s.buf.length
  bytes : s.buf.take s.total ++ s.incoming = whole

section

variable {cuts : Nat → Nat} {s : RecvState} {whole : List UInt8}

theorem RecvState.Holds.take_eq (h : s.Holds whole) : s.buf.take s.total = whole.take s.total := by
  have hlength : (s.buf.take s.total).length = s.total := List.length_take_of_le h.inRange
  rw [← h.bytes, List.take_left' hlength]

theorem RecvState.Holds.length_eq (h : s.Holds whole) :
    s.total + s.incoming.length = whole.length := by
  rw [← h.bytes, List.length_append, List.length_take_of_le h.inRange]

/-- A part of the buffer in front of `total` is the part of the stream. -/
theorem RecvState.Holds.slice_eq (h : s.Holds whole) {start stop : Nat} (hstart : start ≤ stop)
    (hstop : stop ≤ s.total) :
    slice s.buf start stop = some ((whole.take stop).drop start) := by
  have htake : s.buf.take stop = whole.take stop := by
    have hfront := congrArg (List.take stop) h.take_eq
    rwa [List.take_take, List.take_take, Nat.min_eq_left hstop] at hfront
  rw [slice, if_pos ⟨hstart, hstop.trans h.inRange⟩, htake]

theorem length_grow {buf : List UInt8} {len : Nat} (h : buf.length ≤ len) :
    (grow buf len).length = len := by
  rw [grow, List.length_append, List.length_replicate, Nat.add_sub_cancel' h]

/-- More room changes nothing of what was read. -/
theorem RecvState.Holds.grow (h : s.Holds whole) (len : Nat) :
    RecvState.Holds { s with buf := HapPairing.grow s.buf len } whole where
  inRange := by
    change s.total ≤ (s.buf ++ List.replicate (len - s.buf.length) 0).length
    rw [List.length_append]
    exact h.inRange.trans (Nat.le_add_right _ _)
  bytes := by
    change (s.buf ++ List.replicate (len - s.buf.length) 0).take s.total ++ s.incoming = whole
    rw [List.take_append_of_le_length h.inRange]
    exact h.bytes

theorem RecvState.total_makeRoom (s : RecvState) (len : Nat) :
    (s.makeRoom len).total = s.total := by
  unfold makeRoom
  split_ifs <;> rfl

theorem RecvState.le_length_makeRoom (s : RecvState) {len : Nat} :
    len ≤ (s.makeRoom len).buf.length := by
  unfold makeRoom
  split_ifs with hless
  · exact (length_grow hless.le).ge
  · exact Nat.not_lt.mp hless

theorem RecvState.Holds.makeRoom (h : s.Holds whole) (len : Nat) :
    (s.makeRoom len).Holds whole := by
  unfold RecvState.makeRoom
  split_ifs
  · exact h.grow len
  · exact h

theorem RecvState.total_doubleWhenFull (s : RecvState) :
    s.doubleWhenFull.total = s.total := by
  unfold doubleWhenFull
  split_ifs <;> rfl

/-- Twice a length above 0 is more than what is full. -/
theorem RecvState.Holds.lt_length_doubleWhenFull (h : s.Holds whole) (hpos : 0 < s.buf.length) :
    s.doubleWhenFull.total < s.doubleWhenFull.buf.length := by
  have hrange := h.inRange
  unfold RecvState.doubleWhenFull
  split_ifs with hfull
  · dsimp only
    rw [length_grow (by omega)]
    omega
  · exact Nat.not_le.mp hfull

theorem RecvState.Holds.doubleWhenFull (h : s.Holds whole) : s.doubleWhenFull.Holds whole := by
  unfold RecvState.doubleWhenFull
  split_ifs
  · exact h.grow _
  · exact h

/-- **What a read does**: never out of range, and with room for a byte it brings none only
at the end of the stream. -/
theorem RecvState.Holds.read (h : s.Holds whole) (cuts : Nat → Nat) :
    ∃ n s', HapPairing.read cuts s = some (n, s') ∧ s'.Holds whole ∧ s'.total = s.total + n ∧
      s'.buf.length = s.buf.length ∧
      (n = 0 → s.total < s.buf.length → s.incoming = []) := by
  have hroom : slice s.buf s.total s.buf.length = some (s.buf.drop s.total) := by
    rw [slice, if_pos ⟨h.inRange, Nat.le_refl _⟩, List.take_length]
  have hlength : (s.buf.drop s.total).length = s.buf.length - s.total := List.length_drop
  rw [HapPairing.read, hroom, Option.map_some]
  generalize hn : min (cuts s.reads + 1) (min (s.buf.drop s.total).length s.incoming.length) = n
  have hfront : (s.buf.take s.total ++ s.incoming.take n).length = s.total + n := by
    rw [List.length_append, List.length_take_of_le h.inRange, List.length_take]
    omega
  have hsame : (s.buf.take s.total ++ s.incoming.take n ++ s.buf.drop (s.total + n)).length =
      s.buf.length := by
    rw [List.length_append, hfront, List.length_drop]
    have := h.inRange
    omega
  refine ⟨n, _, rfl, ⟨?_, ?_⟩, rfl, hsame, ?_⟩
  · have := h.inRange
    change s.total + n ≤ _
    rw [hsame]
    omega
  · rw [List.take_left' hfront, List.append_assoc, List.take_append_drop]
    exact h.bytes
  · intro hzero hless
    rw [← List.length_eq_zero_iff]
    omega

/-! ## The loops -/

theorem bodyOf_eq (h : s.Holds whole) {bodyStart contentLength : Nat}
    (hall : bodyStart + contentLength ≤ s.total) :
    bodyOf s.buf bodyStart contentLength =
      .body ((whole.drop bodyStart).take contentLength) := by
  rw [bodyOf, h.slice_eq (Nat.le_add_right _ _) hall, List.drop_take, Nat.add_sub_cancel_left]

/-- What the loop behind the header returns. -/
theorem receiveBody_eq {bodyStart contentLength : Nat} (h : s.Holds whole)
    (hroom : bodyStart + contentLength ≤ s.buf.length) (hstart : bodyStart ≤ s.total) :
    receiveBody cuts bodyStart contentLength s =
      if contentLength ≤ (whole.drop bodyStart).length then
        .body ((whole.drop bodyStart).take contentLength)
      else .closed "Connection closed mid-body" [] := by
  have hfollowing : (whole.drop bodyStart).length = whole.length - bodyStart := List.length_drop
  fun_induction receiveBody cuts bodyStart contentLength s with
  | case1 s hmore hread =>
    obtain ⟨n, next, hsome, -⟩ := h.read cuts
    exact absurd (hread.symm.trans hsome) nofun
  | case2 s hmore next hread =>
    obtain ⟨n, next', hsome, -, -, -, hnone⟩ := h.read cuts
    cases hread.symm.trans hsome
    -- the buffer reaches to the end of the body, so there was room
    have hleft := hnone rfl (by omega)
    have hlength := h.length_eq
    rw [hleft, List.length_nil] at hlength
    rw [hleft, if_neg (by omega)]
  | case3 s hmore n next hread hn ih =>
    obtain ⟨n', next', hsome, hnext, htotal, hbuf, -⟩ := h.read cuts
    cases hread.symm.trans hsome
    exact ih hnext (by omega) (by omega)
  | case4 s hdone =>
    have hlength := h.length_eq
    rw [if_pos (by omega)]
    exact bodyOf_eq h (by omega)

theorem receiveRest_eq {headerEnd : Nat} (h : s.Holds whole)
    (hfind : findHeaderEnd whole = some headerEnd) (hfront : headerEnd + 4 ≤ s.total) :
    receiveRest cuts headerEnd s = respond whole := by
  have hlength := h.length_eq
  have hfollowing : (whole.drop (headerEnd + 4)).length = whole.length - (headerEnd + 4) :=
    List.length_drop
  have htotal := s.total_makeRoom
  rw [receiveRest, respond, hfind, h.slice_eq (Nat.zero_le _) (by omega), List.drop_zero]
  dsimp only
  rcases hstatus : checkHttpStatus (Utf8.decodeLossy (whole.take headerEnd)) with e | ⟨⟩
  · rfl
  · dsimp only
    generalize (parseContentLength (Utf8.decodeLossy (whole.take headerEnd))).getD 0 = length
    rw [if_neg (Nat.not_lt.mpr hfront)]
    split_ifs with henough hle hle
    · exact bodyOf_eq h (by omega)
    · omega
    · rw [receiveBody_eq (h.makeRoom _) s.le_length_makeRoom (hfront.trans_eq (htotal _).symm),
        if_pos hle]
    · rw [receiveBody_eq (h.makeRoom _) s.le_length_makeRoom (hfront.trans_eq (htotal _).symm),
        if_neg hle]

/-- What the loop up to the end of the header returns. -/
theorem receiveHeader_eq (h : s.Holds whole) (hroom : s.total < s.buf.length)
    (hnone : findHeaderEnd (s.buf.take s.total) = none) :
    receiveHeader cuts s = respond whole := by
  fun_induction receiveHeader cuts s with
  | case1 s hread =>
    obtain ⟨n, next, hsome, -⟩ := h.read cuts
    exact absurd (hread.symm.trans hsome) nofun
  | case2 s next hread =>
    obtain ⟨n, next', hsome, -, -, -, hempty⟩ := h.read cuts
    cases hread.symm.trans hsome
    -- there was room for a byte, so it is the end of the stream
    have hleft := hempty rfl hroom
    have hwhole := h.bytes
    rw [hleft, List.append_nil] at hwhole
    rw [respond, ← hwhole, hnone, hleft]
  | case3 s n next hread hn hslice =>
    obtain ⟨n', next', hsome, hnext, -⟩ := h.read cuts
    cases hread.symm.trans hsome
    exact absurd (hslice.symm.trans (hnext.slice_eq (Nat.zero_le _) (Nat.le_refl _))) nofun
  | case4 s n next hread hn bytes hslice headerEnd hfind =>
    obtain ⟨n', next', hsome, hnext, -⟩ := h.read cuts
    cases hread.symm.trans hsome
    cases hslice.symm.trans (hnext.slice_eq (Nat.zero_le _) (Nat.le_refl _))
    rw [List.drop_zero] at hfind
    have hwhole : findHeaderEnd (whole.take next.total ++ whole.drop next.total) =
        some headerEnd := Text.find_append hfind _
    rw [List.take_append_drop] at hwhole
    have hfront : headerEnd + 4 ≤ (whole.take next.total).length := Text.length_le_of_find hfind
    rw [List.length_take] at hfront
    exact receiveRest_eq hnext hwhole (hfront.trans (Nat.min_le_left _ _))
  | case5 s n next hread hn bytes hslice hfind ih =>
    obtain ⟨n', next', hsome, hnext, htotal, hbuf, -⟩ := h.read cuts
    cases hread.symm.trans hsome
    cases hslice.symm.trans (hnext.slice_eq (Nat.zero_le _) (Nat.le_refl _))
    rw [List.drop_zero] at hfind
    -- the next read finds room again
    have hdouble := hnext.doubleWhenFull
    refine ih hdouble (hnext.lt_length_doubleWhenFull (by omega)) ?_
    rw [hdouble.take_eq, next.total_doubleWhenFull]
    exact hfind

/-- **Whatever the cut, the response to the bytes.** -/
theorem receive_eq (cuts : Nat → Nat) (incoming : List UInt8) :
    receive cuts incoming = respond incoming := by
  refine receiveHeader_eq ⟨Nat.zero_le _, rfl⟩ ?_ rfl
  change 0 < (List.replicate 8192 (0 : UInt8)).length
  rw [List.length_replicate]
  decide

end

/-! ## When there is a body -/

/-- A header block that is not empty, with a code from 200 to 299 or none. -/
structure Accepted (header : List UInt8) : Prop where
  nonempty : header ≠ []
  status : ∀ code, codeOf (Utf8.decodeLossy header) = some code → 200 ≤ code ∧ code < 300

theorem checkHttpStatus_eq_ok_iff {header : List UInt8} :
    checkHttpStatus (Utf8.decodeLossy header) = .ok () ↔ Accepted header := by
  have hlines : (Text.lines (Utf8.decodeLossy header)).head? = none ↔ header = [] := by
    rw [List.head?_eq_none_iff]
    refine ⟨fun h => ?_, fun h => by rw [h, Utf8.decodeLossy_nil]; rfl⟩
    by_contra hne
    exact Text.lines_ne_nil (Utf8.decodeLossy_ne_nil hne) h
  have hcode : codeOf (Utf8.decodeLossy header) =
      ((Text.lines (Utf8.decodeLossy header)).head?.bind fun line =>
        (Text.words isWhitespace line)[1]?).bind (Text.parseUnsigned 10 UInt16.size) := rfl
  rw [checkHttpStatus]
  rcases hfirst : (Text.lines (Utf8.decodeLossy header)).head? with _ | line
  · exact iff_of_false nofun fun h => h.nonempty (hlines.mp hfirst)
  · have hne : header ≠ [] := fun h => absurd (hfirst.symm.trans (hlines.mpr h)) nofun
    rw [hfirst, Option.bind_some] at hcode
    dsimp only
    rw [← hcode]
    rcases hsome : codeOf (Utf8.decodeLossy header) with _ | code
    · exact iff_of_true rfl ⟨hne, fun code h => absurd (hsome.symm.trans h) nofun⟩
    · dsimp only
      split_ifs with hrange
      · refine iff_of_true rfl ⟨hne, fun code' h => ?_⟩
        cases hsome.symm.trans h
        exact hrange
      · exact iff_of_false nofun fun h => hrange (h.status code hsome)

end HapPairing

open HapPairing

/-- The body of an accepted response is all there. -/
structure IsResponse (incoming body : List UInt8) (headerEnd : Nat) : Prop where
  ends : findHeaderEnd incoming = some headerEnd
  accepted : Accepted (incoming.take headerEnd)
  whole : (parseContentLength (Utf8.decodeLossy (incoming.take headerEnd))).getD 0 ≤
    (incoming.drop (headerEnd + 4)).length
  exact : body = (incoming.drop (headerEnd + 4)).take
    ((parseContentLength (Utf8.decodeLossy (incoming.take headerEnd))).getD 0)

theorem respond_eq_body_iff {incoming body : List UInt8} :
    respond incoming = .body body ↔ ∃ headerEnd, IsResponse incoming body headerEnd := by
  constructor
  · intro h
    unfold respond at h
    split at h
    · cases h
    · rename_i headerEnd hfind
      dsimp only at h
      split at h
      · cases h
      · rename_i hstatus
        split_ifs at h with hle
        cases h
        exact ⟨headerEnd, hfind, checkHttpStatus_eq_ok_iff.mp hstatus, hle, rfl⟩
  · rintro ⟨headerEnd, hfind, haccepted, hle, rfl⟩
    rw [respond, hfind]
    dsimp only
    rw [checkHttpStatus_eq_ok_iff.mpr haccepted]
    exact if_pos hle

theorem left_eq_nil_of_respond {incoming left : List UInt8} {e : String}
    (h : respond incoming = .closed e left) : left = [] := by
  unfold respond at h
  split at h
  · cases h
    rfl
  · dsimp only at h
    split at h
    · cases h
    · split_ifs at h
      cases h
      rfl

theorem respond_ne_outOfRange (incoming : List UInt8) : respond incoming ≠ .outOfRange := by
  unfold respond
  split
  · nofun
  · dsimp only
    split
    · nofun
    · split_ifs <;> nofun

/-- **A pairing response is read from its bytes.**  The cut of the stream does not matter, a
body is returned where the bytes hold one, and nothing is out of range or taken for the end
of the stream. -/
theorem pairing_response_of_bytes (incoming : List UInt8) :
    (∀ cuts cuts', receive cuts incoming = receive cuts' incoming) ∧
    (∀ cuts body, receive cuts incoming = .body body ↔
      ∃ headerEnd, IsResponse incoming body headerEnd) ∧
    (∀ cuts, receive cuts incoming ≠ .outOfRange) ∧
    ∀ cuts e left, receive cuts incoming = .closed e left → left = [] := by
  refine ⟨fun cuts cuts' => ?_, fun cuts body => ?_, fun cuts => ?_, fun cuts e left h => ?_⟩
  · rw [receive_eq, receive_eq]
  · rw [receive_eq]
    exact respond_eq_body_iff
  · rw [receive_eq]
    exact respond_ne_outOfRange incoming
  · rw [receive_eq] at h
    exact left_eq_nil_of_respond h

/-! ## The sums of 64 bits -/

/-- The outcome without what had not been read. -/
def HapPairing.Received.forget : HapPairing.Received → Option Airplay.Received
  | body bytes => some (.body bytes)
  | failed e => some (.failed e)
  | closed e _ => some (.failed e)
  | outOfRange => none

section

variable {bufLen : Nat} {received incoming : List UInt8} {sizes : List Nat}

/-- A read of at least a byte into room for one. -/
theorem readCount_eq_zero {room size : Nat} (hroom : 0 < room) (hsize : 0 < size)
    (h : readCount room size incoming = 0) : incoming = [] := by
  rw [readCount] at h
  rw [← List.length_eq_zero_iff]
  omega

theorem recvBody_eq {bodyStart contentLength : Nat} (hroom : bodyStart + contentLength ≤ bufLen)
    (hpos : ∀ size ∈ sizes, 0 < size) (hlong : incoming.length < sizes.length)
    (hstart : bodyStart ≤ received.length) :
    some (recvBody bufLen bodyStart contentLength received incoming sizes) =
      (if contentLength ≤ ((received ++ incoming).drop bodyStart).length then
        HapPairing.Received.body (((received ++ incoming).drop bodyStart).take contentLength)
      else .closed "Connection closed mid-body" []).forget := by
  have hfollowing : ((received ++ incoming).drop bodyStart).length =
      received.length + incoming.length - bodyStart := by
    rw [List.length_drop, List.length_append]
  fun_induction recvBody bufLen bodyStart contentLength received incoming sizes with
  | case1 => exact absurd hlong (Nat.not_lt_zero _)
  | case2 received incoming hmore size more n hn =>
    have hleft : incoming = [] := by
      refine readCount_eq_zero ?_ (hpos size List.mem_cons_self) hn
      omega
    subst hleft
    rw [List.length_nil] at hfollowing
    rw [if_neg (by omega)]
    rfl
  | case3 received incoming hmore size more n hn ih =>
    have hle : n ≤ incoming.length := (Nat.min_le_right _ _).trans (Nat.min_le_right _ _)
    have hwhole : received ++ incoming.take n ++ incoming.drop n = received ++ incoming := by
      rw [List.append_assoc, List.take_append_drop]
    rw [hwhole] at ih
    refine ih (fun size h => hpos size (List.mem_cons_of_mem _ h)) ?_ ?_ ?_
    · rw [List.length_drop]
      rw [List.length_cons] at hlong
      omega
    · rw [List.length_append]
      omega
    · rw [hfollowing, List.length_append, List.length_take, List.length_drop]
      omega
  | case4 received incoming sizes hdone =>
    rw [if_pos (by omega), List.drop_append_of_le_length hstart,
      List.take_append_of_le_length (by rw [List.length_drop]; omega)]
    rfl

theorem recvRest_eq {headerEnd : Nat} (hpos : ∀ size ∈ sizes, 0 < size)
    (hlong : incoming.length < sizes.length)
    (hfind : findHeaderEnd (received ++ incoming) = some headerEnd)
    (hfront : headerEnd + 4 ≤ received.length)
    (hfits : ¬ DeclaresTooMuch (received ++ incoming)) :
    some (recvRest bufLen headerEnd received incoming sizes) =
      (respond (received ++ incoming)).forget := by
  have htake : (received ++ incoming).take headerEnd = received.take headerEnd :=
    List.take_append_of_le_length (by omega)
  have hfollowing : ((received ++ incoming).drop (headerEnd + 4)).length =
      received.length + incoming.length - (headerEnd + 4) := by
    rw [List.length_drop, List.length_append]
  rw [recvRest, respond, hfind]
  simp only [htake]
  rcases hstatus : checkHttpStatus (Utf8.decodeLossy (received.take headerEnd)) with e | ⟨⟩
  · rfl
  · have hsum : headerEnd + 4 + (parseContentLength
        (Utf8.decodeLossy (received.take headerEnd))).getD 0 < UInt64.size := by
      by_contra hlarge
      refine hfits ⟨headerEnd, hfind, ?_⟩
      rw [htake]
      exact ⟨hstatus, Nat.not_lt.mp hlarge⟩
    dsimp only
    generalize (parseContentLength (Utf8.decodeLossy (received.take headerEnd))).getD 0 = length at *
    by_cases henough : received.length - (headerEnd + 4) ≥ length
    · rw [if_pos henough, if_pos (by omega), List.drop_append_of_le_length hfront,
        List.take_append_of_le_length (by rw [List.length_drop]; omega)]
      rfl
    · rw [if_neg henough, if_neg (Nat.not_le.mpr hsum)]
      exact recvBody_eq (Nat.le_max_right _ _) hpos hlong hfront

theorem recvHeader_eq (hroom : received.length < bufLen) (hpos : ∀ size ∈ sizes, 0 < size)
    (hlong : incoming.length < sizes.length) (hnone : findHeaderEnd received = none)
    (hfits : ¬ DeclaresTooMuch (received ++ incoming)) :
    some (recvHeader bufLen received incoming sizes) =
      (respond (received ++ incoming)).forget := by
  fun_induction recvHeader bufLen received incoming sizes with
  | case1 => exact absurd hlong (Nat.not_lt_zero _)
  | case2 bufLen received incoming size more n hn =>
    have hleft := readCount_eq_zero (Nat.sub_pos_of_lt hroom) (hpos size List.mem_cons_self) hn
    rw [hleft, List.append_nil, respond, hnone]
    rfl
  | case3 bufLen received incoming size more n hn total headerEnd hfind =>
    have hle : n ≤ incoming.length := (Nat.min_le_right _ _).trans (Nat.min_le_right _ _)
    have hwhole : total ++ incoming.drop n = received ++ incoming := by
      rw [List.append_assoc, List.take_append_drop]
    rw [← hwhole] at hfits ⊢
    refine recvRest_eq (fun size h => hpos size (List.mem_cons_of_mem _ h)) ?_
      (Text.find_append hfind _) (Text.length_le_of_find hfind) hfits
    rw [List.length_cons] at hlong
    rw [List.length_drop]
    omega
  | case4 bufLen received incoming size more n hn total hfind ih =>
    have hle : n ≤ incoming.length := (Nat.min_le_right _ _).trans (Nat.min_le_right _ _)
    have hwhole : total ++ incoming.drop n = received ++ incoming := by
      rw [List.append_assoc, List.take_append_drop]
    have htotal : total.length ≤ bufLen := by
      rw [List.length_append, List.length_take, Nat.min_eq_left hle]
      have hcount : n ≤ bufLen - received.length :=
        (Nat.min_le_right _ _).trans (Nat.min_le_left _ _)
      omega
    rw [hwhole] at ih
    refine ih ?_ (fun size h => hpos size (List.mem_cons_of_mem _ h)) ?_ hfind hfits
    · split_ifs <;> omega
    · rw [List.length_cons] at hlong
      rw [List.length_drop]
      omega

/-- **The response in 64 bits**, where no sum overflows, once the reads have come to the end of
the stream. -/
theorem recvResponse_eq {incoming : List UInt8} {sizes : List Nat}
    (hpos : ∀ size ∈ sizes, 0 < size) (hlong : incoming.length < sizes.length)
    (hfits : ¬ DeclaresTooMuch incoming) :
    some (recvResponse incoming sizes) = (respond incoming).forget :=
  recvHeader_eq (by decide) hpos hlong rfl hfits

end

end OpenPlay.Airplay
