import OpenPlay.Airplay.ControlAgreement
import OpenPlay.Airplay.Response
import OpenPlay.Miracast.Framing

/-!
# Requests on the encrypted channel

`ControlChannel::request` of `openplay-airplay`'s `control_channel.rs`: one frame out, and
frames in until the texts in them make a whole HTTP response.  The test is made anew after
every frame, on all that came.

`request_returns` says that this is the response that was sent, in whatever frames it comes,
and that no frame behind it is read.
-/

namespace OpenPlay.Airplay

open Miracast (Declares IsContentLength headerField parseTrimmed)

variable {Key : Type} {cipher : Aead Key}

/-! ## The code -/

namespace ControlChannel

/-- `find_header_end`: just past the blank line. -/
def findHeaderEnd (buf : List UInt8) : Option Nat :=
  (Text.find headerEndMark buf).map (· + 4)

/-- `content_length`. -/
def contentLength (headers : List UInt8) : Option Nat :=
  (headerField "content-length:".toList (Utf8.decodeLossy headers)).bind
    (parseTrimmed UInt64.size)

theorem length_incoming_of_recv {ch ch' : ControlChannel Key} {plaintext : List UInt8}
    (h : ch.recv cipher = some (.ok plaintext, ch')) :
    ch'.stream.incoming.length < ch.stream.incoming.length := by
  cases recv_cases h with
  | returned length size front opened =>
    rw [front, List.length_append, List.length_append]
    dsimp only
    omega

/-- The loop of `request`, with `none` as long as it waits. -/
def receiveResponse (cipher : Aead Key) (buf : List UInt8) (ch : ControlChannel Key) :
    Option (Except ControlError (List UInt8) × ControlChannel Key) :=
  match _ : ch.recv cipher with
  | none => none
  | some (.error e, ch) => some (.error e, ch)
  | some (.ok plaintext, ch) =>
      let buf := buf ++ plaintext
      match findHeaderEnd buf with
      | none => receiveResponse cipher buf ch
      | some split =>
          let want := (contentLength (buf.take split)).getD 0
          if buf.length - split ≥ want then some (.ok buf, ch)
          else receiveResponse cipher buf ch
termination_by ch.stream.incoming.length
decreasing_by
  all_goals exact length_incoming_of_recv ‹_›

/-- `request`. -/
def request (cipher : Aead Key) (ch : ControlChannel Key) (request : List UInt8)
    (write : SocketWrite) : Option (Except ControlError (List UInt8) × ControlChannel Key) :=
  match ch.send cipher request write with
  | (.error e, ch) => some (.error e, ch)
  | (.ok (), ch) => receiveResponse cipher [] ch

end ControlChannel

/-! ## A response in frames -/

/-- A header block that ends with the first blank line, and a body of the length that it
declares, or an empty one. -/
structure IsHttpResponse (head body : List UInt8) : Prop where
  ends : findHeaderEnd (head ++ (headerEndMark ++ body)) = some head.length
  declares : Declares (Text.lines (Utf8.decodeLossy head)) body.length
  fits : body.length < UInt64.size

/-- The header block and its blank line, decoded. -/
theorem decodeLossy_head (head : List UInt8) :
    Utf8.decodeLossy (head ++ headerEndMark) = Utf8.decodeLossy head ++ Text.blankLine := by
  have hmark : Utf8.decodeLossy headerEndMark = Text.blankLine := by
    have hencode : Utf8.encode Text.blankLine = headerEndMark := by
      rw [Utf8.encode_ascii (List.all_iff_forall_prop.mp (by decide))]
      rfl
    rw [← hencode, Utf8.decodeLossy_encode]
  rw [← hmark]
  exact Utf8.decodeLossy_append_ascii head (by decide) _

/-- Empty lines declare nothing. -/
theorem Declares.append_empty {lines : List (List Char)} {n : Nat} (h : Declares lines n)
    (k : Nat) : Declares (lines ++ List.replicate k []) n := by
  have hempty : ∀ line ∈ List.replicate k ([] : List Char), ¬ IsContentLength line := by
    intro line hline
    rw [List.eq_of_mem_replicate hline]
    rintro ⟨name, value, heq, -⟩
    exact absurd heq.symm (by simp)
  cases h with
  | absent none =>
    refine .absent fun line hline => ?_
    rcases List.mem_append.mp hline with hline | hline
    · exact none line hline
    · exact hempty line hline
  | present others named blank nonempty decimal value =>
    rw [List.append_assoc, List.cons_append]
    refine .present (fun line hline => ?_) named blank nonempty decimal value
    rw [← List.append_assoc] at hline
    rcases List.mem_append.mp hline with hline | hline
    · exact others line hline
    · exact hempty line hline

namespace IsHttpResponse

variable {head body buf : List UInt8}

/-- The length that is read from the header block is that of the body. -/
theorem contentLength_eq (h : IsHttpResponse head body) :
    (ControlChannel.contentLength (head ++ headerEndMark)).getD 0 = body.length := by
  obtain ⟨k, hlines⟩ := Text.lines_append_blankLine (Utf8.decodeLossy head)
  have hdeclares := Declares.append_empty h.declares k
  rw [← hlines, ← decodeLossy_head] at hdeclares
  exact Miracast.contentLength_of_declares hdeclares h.fits

/-- **The test on the beginning of a response** finds the blank line where it is, and the
whole length missing until all is there. -/
theorem complete_iff (h : IsHttpResponse head body)
    (hbegins : buf <+: head ++ (headerEndMark ++ body)) {split : Nat}
    (hsplit : ControlChannel.findHeaderEnd buf = some split) :
    buf.length - split ≥ (ControlChannel.contentLength (buf.take split)).getD 0 ↔
      buf = head ++ (headerEndMark ++ body) := by
  obtain ⟨missing, hmissing⟩ := hbegins
  obtain ⟨i, hfind, rfl⟩ := Option.map_eq_some_iff.mp hsplit
  have hwhole := Text.find_append hfind missing
  rw [hmissing] at hwhole
  cases h.ends.symm.trans hwhole
  have hroom : head.length + 4 ≤ buf.length := Text.length_le_of_find hfind
  have hmark : headerEndMark.length = 4 := rfl
  have hhead : buf.take (head.length + 4) = head ++ headerEndMark := by
    rw [← List.take_append_of_le_length hroom, hmissing, ← List.append_assoc, List.take_left']
    rw [List.length_append, hmark]
  have hlength := congrArg List.length hmissing
  simp only [List.length_append, hmark] at hlength
  rw [hhead, h.contentLength_eq]
  constructor
  · intro hall
    have hnone : missing = [] := List.length_eq_zero_iff.mp (by omega)
    rw [← hmissing, hnone, List.append_nil]
  · rintro rfl
    simp only [List.length_append, hmark]
    omega

end IsHttpResponse

namespace ControlChannel

variable {head body buf rest : List UInt8} {parts : List (List UInt8)}

/-- A channel that has read some more frames of the other end. -/
def readFrames (cipher : Aead Key) (ch : ControlChannel Key) (n : Nat)
    (texts : List (List UInt8)) (rest : List UInt8) : ControlChannel Key :=
  { ch with
    stream := { ch.stream with
      taken := ch.stream.taken ++ framesFrom cipher ch.readCipher n texts
      incoming := rest }
    readCounter := UInt64.ofNat (n + texts.length) }

theorem readFrames_readFrames (cipher : Aead Key) (ch : ControlChannel Key) (n : Nat)
    (texts more : List (List UInt8)) (rest rest' : List UInt8) :
    (ch.readFrames cipher n texts rest).readFrames cipher (n + texts.length) more rest' =
      ch.readFrames cipher n (texts ++ more) rest' := by
  simp only [readFrames, framesFrom_append, List.append_assoc, List.length_append, Nat.add_assoc]

/-- The frame in front is read. -/
theorem recv_front {ch : ControlChannel Key} {n : Nat} {part : List UInt8}
    (small : part.length ≤ maxFrame) (counted : ch.readCounter = UInt64.ofNat n)
    (front : ch.stream.incoming = framesFrom cipher ch.readCipher n (part :: parts) ++ rest) :
    ch.recv cipher = some (.ok part, ch.readFrames cipher n [part]
      (framesFrom cipher ch.readCipher (n + 1) parts ++ rest)) := by
  rw [framesFrom, ← counted, List.append_assoc] at front
  have hnext : ch.readCounter + 1 = UInt64.ofNat (n + 1) := by
    rw [counted, UInt64.ofNat_add]
    rfl
  rw [recv_frame small front, readFrames, framesFrom, framesFrom, List.append_nil,
    List.length_singleton, hnext, counted]

/-- The first `k` parts complete the whole, and no fewer. -/
structure Completes (whole front : List UInt8) (parts : List (List UInt8)) (k : Nat) : Prop where
  within : k ≤ parts.length
  complete : front ++ (parts.take k).flatten = whole
  first : ∀ j < k, front ++ (parts.take j).flatten ≠ whole

/-- One more frame. -/
theorem receiveResponse_of_recv (h : IsHttpResponse head body) {ch ch' : ControlChannel Key}
    {plaintext : List UInt8} (hrecv : ch.recv cipher = some (.ok plaintext, ch'))
    (hbegins : buf ++ plaintext <+: head ++ (headerEndMark ++ body)) :
    receiveResponse cipher buf ch =
      if buf ++ plaintext = head ++ (headerEndMark ++ body) then
        some (.ok (buf ++ plaintext), ch')
      else receiveResponse cipher (buf ++ plaintext) ch' := by
  rw [receiveResponse]
  split
  · rename_i hwaits
    exact absurd (hrecv.symm.trans hwaits) nofun
  · rename_i hfails
    exact absurd (hrecv.symm.trans hfails) nofun
  · rename_i heq
    cases hrecv.symm.trans heq
    dsimp only
    split
    · rename_i hnone
      -- without its blank line the response is not whole
      rw [if_neg]
      intro hall
      have hsome : findHeaderEnd (buf ++ plaintext) = some (head.length + 4) := by
        rw [hall]
        exact congrArg (Option.map (· + 4)) h.ends
      exact absurd (hsome.symm.trans hnone) nofun
    · rename_i split hsplit
      simp only [h.complete_iff hbegins hsplit]

/-- **What the loop returns** of a response of which some has come. -/
theorem receiveResponse_eq (h : IsHttpResponse head body) {ch : ControlChannel Key} {n : Nat}
    (hwhole : buf ++ parts.flatten = head ++ (headerEndMark ++ body))
    (hmissing : buf ≠ head ++ (headerEndMark ++ body))
    (small : ∀ part ∈ parts, part.length ≤ maxFrame)
    (counted : ch.readCounter = UInt64.ofNat n)
    (front : ch.stream.incoming = framesFrom cipher ch.readCipher n parts ++ rest) :
    ∃ k, Completes (head ++ (headerEndMark ++ body)) buf parts k ∧
      receiveResponse cipher buf ch = some (.ok (head ++ (headerEndMark ++ body)),
        ch.readFrames cipher n (parts.take k)
          (framesFrom cipher ch.readCipher (n + k) (parts.drop k) ++ rest)) := by
  -- over the frames that have not been read; what has been read is in `buf`
  induction parts generalizing buf ch n with
  | nil =>
    rw [List.flatten_nil, List.append_nil] at hwhole
    exact absurd hwhole hmissing
  | cons part parts ih =>
    rw [List.flatten_cons, ← List.append_assoc] at hwhole
    have hrecv := recv_front (small part List.mem_cons_self) counted front
    rw [receiveResponse_of_recv h hrecv ⟨parts.flatten, hwhole⟩]
    by_cases hall : buf ++ part = head ++ (headerEndMark ++ body)
    · refine ⟨1, ⟨Nat.succ_le_succ (Nat.zero_le _), ?_, fun j hj => ?_⟩, ?_⟩
      · rw [List.take_succ_cons, List.take_zero, List.flatten_singleton, hall]
      · rw [Nat.lt_one_iff.mp hj, List.take_zero, List.flatten_nil, List.append_nil]
        exact hmissing
      · rw [if_pos hall, hall]
        rfl
    · have small' : ∀ part ∈ parts, part.length ≤ maxFrame := fun part hpart =>
        small part (List.mem_cons_of_mem _ hpart)
      have counted' : (ch.readFrames cipher n [part]
          (framesFrom cipher ch.readCipher (n + 1) parts ++ rest)).readCounter =
            UInt64.ofNat (n + 1) := rfl
      obtain ⟨k, ⟨hle, hcomplete, hfirst⟩, hread⟩ := ih hwhole hall small' counted' rfl
      refine ⟨k + 1, ⟨Nat.succ_le_succ hle, ?_, fun j hj => ?_⟩, ?_⟩
      · rw [List.take_succ_cons, List.flatten_cons, ← List.append_assoc, hcomplete]
      · cases j with
        | zero =>
          rw [List.take_zero, List.flatten_nil, List.append_nil]
          exact hmissing
        | succ j =>
          rw [List.take_succ_cons, List.flatten_cons, ← List.append_assoc]
          exact hfirst j (Nat.lt_of_succ_lt_succ hj)
      · have hnext : n + 1 + k = n + (k + 1) := by omega
        have hchannel := readFrames_readFrames cipher ch n [part] (parts.take k)
          (framesFrom cipher ch.readCipher (n + 1) parts ++ rest)
          (framesFrom cipher ch.readCipher (n + (k + 1)) (parts.drop k) ++ rest)
        rw [List.length_singleton] at hchannel
        rw [if_neg hall, hread, hnext]
        exact congrArg (fun ch' => some (Except.ok (head ++ (headerEndMark ++ body)), ch')) hchannel

/-- **A response to a request.**  In whatever frames it comes, the bytes of the response are
returned; one frame was written, and the frames behind the completing one are not read. -/
theorem request_returns (cipher : Aead Key) (ch : ControlChannel Key) (request : List UInt8)
    (short : request.length ≤ maxFrame) (h : IsHttpResponse head body)
    (hparts : parts.flatten = head ++ (headerEndMark ++ body))
    (small : ∀ part ∈ parts, part.length ≤ maxFrame)
    (front : ch.stream.incoming =
      framesFrom cipher ch.readCipher ch.readCounter.toNat parts ++ rest) :
    ∃ k ch', Completes (head ++ (headerEndMark ++ body)) [] parts k ∧
      ch.request cipher request .all = some (.ok (head ++ (headerEndMark ++ body)), ch') ∧
      ch'.stream.written =
        ch.stream.written ++ frame cipher ch.writeCipher ch.writeCounter request ∧
      ch'.writeCounter = ch.writeCounter + 1 ∧
      ch'.stream.taken = ch.stream.taken ++
        framesFrom cipher ch.readCipher ch.readCounter.toNat (parts.take k) ∧
      ch'.stream.incoming =
        framesFrom cipher ch.readCipher (ch.readCounter.toNat + k) (parts.drop k) ++ rest := by
  have hsent : ch.send cipher request .all = (.ok (),
      ({ ch with writeCounter := ch.writeCounter + 1 } : ControlChannel Key).wrote
        (frame cipher ch.writeCipher ch.writeCounter request)) :=
    if_neg (Nat.not_lt.mpr short)
  have hmissing : [] ≠ head ++ (headerEndMark ++ body) := by
    intro hempty
    have hlength := congrArg List.length hempty
    simp only [List.length_append, headerEndMark, List.length_cons, List.length_nil] at hlength
    omega
  have counted : (({ ch with writeCounter := ch.writeCounter + 1 } : ControlChannel Key).wrote
      (frame cipher ch.writeCipher ch.writeCounter request)).readCounter =
        UInt64.ofNat ch.readCounter.toNat := UInt64.ofNat_toNat.symm
  rw [ControlChannel.request, hsent]
  obtain ⟨k, hcompletes, hread⟩ := receiveResponse_eq h hparts hmissing small counted front
  exact ⟨k, _, hcompletes, hread, rfl, rfl, rfl, rfl⟩

/-- A well-formed text is such a response. -/
theorem isHttpResponse_of_text (m : Miracast.RtspText) :
    IsHttpResponse (Utf8.encode m.head) (Utf8.encode m.body) where
  ends := by
    have hfind := m.find_bytes []
    rw [List.append_nil, m.bytes_eq] at hfind
    rw [Utf8.length_encode_ascii m.ascii]
    exact hfind
  declares := by
    rw [Utf8.decodeLossy_encode]
    exact m.declares
  fits := by
    have hlength := m.length_bytes
    have hsmall : m.bytes.length ≤ 64 * 1024 := m.small
    exact Nat.lt_of_le_of_lt (by omega) (show 64 * 1024 < UInt64.size by decide)

/-- Four frames, one of them empty, cut inside the blank line. -/
theorem request_returns_bodyText :
    let bytes := Miracast.bodyText.bytes
    let parts := [bytes.take 36, [], bytes.drop 36, []]
    let ch : ControlChannel (List UInt8) :=
      ⟨⟨[], framesFrom blankTag readInfo 0 parts ++ [], false, []⟩, writeInfo, readInfo, 0, 0⟩
    ∃ k ch', Completes bytes [] parts k ∧
      ch.request blankTag [71] .all = some (.ok bytes, ch') := by
  intro bytes parts ch
  have hbytes : Miracast.bodyText.bytes = Utf8.encode Miracast.bodyText.head ++
      (headerEndMark ++ Utf8.encode Miracast.bodyText.body) := Miracast.bodyText.bytes_eq
  have hparts : parts.flatten = bytes := by
    simp [parts, bytes]
  have hsmall : bytes.length ≤ maxFrame := by decide
  have small : ∀ part ∈ parts, part.length ≤ maxFrame := by
    intro part hpart
    have hle : part.length ≤ parts.flatten.length := by
      rw [List.length_flatten]
      exact List.le_sum_of_mem (List.mem_map_of_mem hpart)
    exact hle.trans (hparts ▸ hsmall)
  obtain ⟨k, ch', hcompletes, hread, -⟩ := request_returns blankTag ch [71] (by decide)
    (isHttpResponse_of_text Miracast.bodyText) (hparts.trans hbytes) small rfl
  rw [← hbytes] at hcompletes hread
  exact ⟨k, ch', hcompletes, hread⟩

end ControlChannel

end OpenPlay.Airplay
