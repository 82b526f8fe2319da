import Mathlib.Data.List.Nodup
import OpenPlay.Airplay.ControlLink

/-!
# What the ends of a control channel agree on

* `plaintexts_in_order`: no nonce is used twice; what `recv` returns at one end are, in
  order, the first of the texts that `send` has sealed at the other; and where nothing
  fails and the network leaves the bytes alone, `recv` returns all of them
* `completed_frame_is_returned`: a text is returned although its `send` has failed, if
  the network makes up for the bytes that were not written

The second is why the first speaks of the texts that were sealed.  For the last part,
`Aligned` says where the bytes stand: an end has read the frames of what it has
returned, so what is in front of it is the beginning of a frame.
-/

namespace OpenPlay.Airplay

open Transition

variable {Key : Type} {cipher : Aead Key}

/-! ## The bytes of the frames -/

/-- The frames of some texts, the first of them with the number `i`. -/
def framesFrom (cipher : Aead Key) (key : Key) : Nat → List (List UInt8) → List UInt8
  | _, [] => []
  | i, plaintext :: rest =>
      ControlChannel.frame cipher key (UInt64.ofNat i) plaintext ++
        framesFrom cipher key (i + 1) rest

theorem framesFrom_append (key : Key) (i : Nat) (texts more : List (List UInt8)) :
    framesFrom cipher key i (texts ++ more) =
      framesFrom cipher key i texts ++ framesFrom cipher key (i + texts.length) more := by
  induction texts generalizing i with
  | nil => rfl
  | cons t texts ih =>
      rw [List.cons_append, framesFrom, framesFrom, ih, List.append_assoc, List.length_cons,
        Nat.add_right_comm, Nat.add_assoc]

/-- One frame more. -/
theorem framesFrom_concat (key : Key) (texts : List (List UInt8)) (plaintext : List UInt8) :
    framesFrom cipher key 0 (texts ++ [plaintext]) =
      framesFrom cipher key 0 texts ++
        ControlChannel.frame cipher key (UInt64.ofNat texts.length) plaintext := by
  rw [framesFrom_append, framesFrom, framesFrom, List.append_nil, Nat.zero_add]

/-- **A call of `recv` does not fail before a frame.**  It may have to wait for the rest
of it, but what has come is taken for what it is. -/
theorem not_fails_before_frame {ch ch' : ControlChannel Key} {plaintext more : List UInt8}
    {e : ControlError} (small : plaintext.length ≤ maxFrame)
    (front : ch.stream.incoming <+:
      ControlChannel.frame cipher ch.readCipher ch.readCounter plaintext ++ more)
    (whole : ch.stream.ended = true → ch.stream.incoming =
      ControlChannel.frame cipher ch.readCipher ch.readCounter plaintext ++ more) :
    ¬ ControlChannel.Receives cipher ch (.error e) ch' := by
  have hread : FixedWidth.ofLe (FixedWidth.le 2 plaintext.length) = plaintext.length :=
    FixedWidth.ofLe_le (Nat.lt_of_le_of_lt small (by decide))
  intro receives
  cases receives with
  | @refused lenBuf text rest length size hfront closed =>
      obtain ⟨missing, front⟩ := front
      rw [hfront, ControlChannel.frame, List.append_assoc, List.append_assoc,
        List.append_assoc] at front
      obtain ⟨hlen, front⟩ := List.append_inj front
        (length.trans (FixedWidth.length_le 2 plaintext.length).symm)
      have hsize : text.length = (cipher.encrypt ch.readCipher (nonceFor ch.readCounter)
          (FixedWidth.le 2 plaintext.length) plaintext).length := by
        rw [size, hlen, hread, cipher.length_encrypt]
      rw [(List.append_inj front hsize).1, hlen, cipher.decrypt_encrypt] at closed
      cases closed
  | short ended short =>
      have hall := whole ended
      have htake : ch.stream.incoming.take 2 = FixedWidth.le 2 plaintext.length := by
        rw [hall, ControlChannel.frame, List.append_assoc]
        exact List.take_left' (FixedWidth.length_le 2 plaintext.length)
      rw [htake, hread, hall, List.length_append, ControlChannel.length_frame] at short
      omega

/-! ## A run -/

variable {hkdf : List UInt8 → List UInt8 → List UInt8 → Key} {sessionKey : List UInt8}
variable {past : List (ControlMove Key)} {x : ControlLink Key} {move : ControlMove Key}
variable {side : Side}

/-- The keys that a session key is expanded to. -/
def startKey (hkdf : List UInt8 → List UInt8 → List UInt8 → Key) (sessionKey : List UInt8)
    (side : Side) : Key :=
  (ControlLink.start hkdf sessionKey side).writeCipher

theorem startKey_other_ne
    (distinct : hkdf controlSalt sessionKey writeInfo ≠ hkdf controlSalt sessionKey readInfo)
    (side : Side) :
    startKey hkdf sessionKey side.other ≠ startKey hkdf sessionKey side := by
  cases side with
  | sender => exact distinct.symm
  | receiver => exact distinct

theorem length_sealed_le (side : Side) :
    (sealed side past).length ≤ (sealed side (move :: past)).length := by
  rw [sealed, sealed, collect_cons, List.length_append]
  exact Nat.le_add_right _ _

theorem numbered_of_run
    (distinct : hkdf controlSalt sessionKey writeInfo ≠ hkdf controlSalt sessionKey readInfo)
    (run : (controlLink cipher hkdf sessionKey).Run past x) (ideal : Unforged cipher past)
    (few : ∀ side, (sealed side past).length < 2 ^ 64) :
    Numbered (startKey hkdf sessionKey) past x := by
  induction run with
  | start initial =>
      cases initial
      exact Numbered.start
  | move before made ih =>
      have fewer := fun side => Nat.lt_of_le_of_lt (length_sealed_le side) (few side)
      exact (ih ideal.2 fewer).of_makes (startKey_other_ne distinct) made fewer ideal.1

namespace Numbered

variable {key : Side → Key}

theorem nonces_nodup (h : Numbered key past x) (few : (sealed side past).length < 2 ^ 64) :
    ((sealed side past).map Sealing.nonce).Nodup := by
  rw [List.nodup_iff_injective_getElem]
  rintro ⟨i, hi⟩ ⟨j, hj⟩ heq
  rw [List.length_map] at hi hj
  simp only [List.getElem_map] at heq
  rw [(h.seals side i _ (List.getElem?_eq_getElem hi)).nonce,
    (h.seals side j _ (List.getElem?_eq_getElem hj)).nonce] at heq
  have hij := ofNat_injective (Nat.lt_trans hi few) (Nat.lt_trans hj few)
    (nonceFor_injective heq)
  exact Fin.ext hij

theorem key_of_mem (h : Numbered key past x) {s : Sealing Key} (mem : s ∈ sealed side past) :
    s.key = key side := by
  obtain ⟨i, hi⟩ := List.mem_iff_getElem?.mp mem
  exact (h.seals side i s hi).key

/-- What the other end has sealed and this one has not yet returned. -/
theorem outstanding (h : Numbered key past x) (side : Side) :
    ∃ rest, (sealed side.other past).map Sealing.plaintext = Airplay.returned side past ++ rest ∧
      ∀ plaintext ∈ rest, plaintext.length ≤ maxFrame := by
  obtain ⟨rest, hrest⟩ := h.returned side
  refine ⟨rest, hrest.symm, fun plaintext mem => ?_⟩
  have hmem : plaintext ∈ (sealed side.other past).map Sealing.plaintext := by
    rw [← hrest]
    exact List.mem_append_right _ mem
  obtain ⟨s, hs, rfl⟩ := List.mem_map.mp hmem
  obtain ⟨i, hi⟩ := List.mem_iff_getElem?.mp hs
  exact (h.seals side.other i s hi).small

end Numbered

/-! ## Texts and successful sends -/

/-- Where no write fails, the texts that are sealed are those of the successful sends. -/
theorem sends_of_makes (made : (controlLink cipher hkdf sessionKey).Makes move)
    (written : ¬ move.WriteFails side) :
    (move.seals side).map Sealing.plaintext = move.sends side := by
  obtain ⟨x, action, output, x'⟩ := move
  replace made : x.step cipher action = some (x', output) := made
  cases action with
  | recv d => rfl
  | network d incoming ended => rfl
  | send d plaintext write =>
      simp only [ControlLink.step] at made
      cases made
      by_cases long : maxFrame < plaintext.length
      · simp [ControlMove.seals, ControlMove.sends, ControlChannel.send_of_gt long,
          Nat.not_le.mpr long]
      · have small := Nat.not_lt.mp long
        by_cases same : d = side
        · subst same
          cases write with
          | fails e taken => exact absurd ⟨plaintext, e, taken, rfl, small⟩ written
          | all => simp [ControlMove.seals, ControlMove.sends,
              ControlChannel.send_ok_iff.mpr ⟨small, rfl⟩, small]
        · cases hsent : ((x d).send cipher plaintext write).1 <;>
            simp [ControlMove.seals, ControlMove.sends, same]

theorem sent_of_run (run : (controlLink cipher hkdf sessionKey).Run past x)
    (written : ∀ move ∈ past, ¬ move.WriteFails side) :
    (sealed side past).map Sealing.plaintext = sent side past := by
  induction run with
  | start _ => rfl
  | @move past move before made ih =>
      have earlier := ih fun m mem => written m (List.mem_cons_of_mem _ mem)
      have last := sends_of_makes made (written move List.mem_cons_self)
      rw [sealed, sent, collect_cons, collect_cons, List.map_append, last]
      exact congrArg (· ++ ControlMove.sends side move) earlier

/-! ## Bytes left alone -/

/-- `side` has read the frames of what it has returned, and the other end has written
the frames of what it has sealed. -/
structure Aligned (cipher : Aead Key) (key : Side → Key) (side : Side)
    (past : List (ControlMove Key)) (x : ControlLink Key) : Prop where
  wrote : (x side.other).stream.written =
    framesFrom cipher (key side.other) 0 ((sealed side.other past).map Sealing.plaintext)
  took : (x side).stream.taken = framesFrom cipher (key side.other) 0 (returned side past)

namespace Aligned

variable {key : Side → Key}

theorem start : Aligned cipher (startKey hkdf sessionKey) side []
    (ControlLink.start hkdf sessionKey) where
  wrote := by cases side <;> rfl
  took := by cases side <;> rfl

/-- What is in front of `side` is the beginning of the frames that it has not yet
returned. -/
theorem front (h : Aligned cipher key side past x) (unchanged : x.Unchanged side) {rest : List (List UInt8)}
    (outstanding : (sealed side.other past).map Sealing.plaintext = returned side past ++ rest) :
    let frames := framesFrom cipher (key side.other) (returned side past).length rest
    (x side).stream.incoming <+: frames ∧
      ((x side).stream.ended = true → (x side).stream.incoming = frames) ∧
      ((x side).stream.taken ++ (x side).stream.incoming = (x side.other).stream.written →
        (x side).stream.incoming = frames) := by
  have all : (x side.other).stream.written = (x side).stream.taken ++
      framesFrom cipher (key side.other) (returned side past).length rest := by
    rw [h.wrote, outstanding, framesFrom_append, ← h.took, Nat.zero_add]
  obtain ⟨part, whole⟩ := unchanged
  rw [all] at part whole ⊢
  exact ⟨(List.prefix_append_right_inj _).mp part, fun ended => List.append_cancel_left (whole ended),
    List.append_cancel_left⟩

/-- A call of `recv` fails only where there is nothing to be read. -/
theorem nothing_of_fails (h : Aligned cipher key side past x) (hn : Numbered key past x)
    (unchanged : x.Unchanged side) {e : ControlError} {ch : ControlChannel Key}
    (receives : ControlChannel.Receives cipher (x side) (.error e) ch) :
    ch.stream.taken = (x side).stream.taken := by
  obtain ⟨rest, outstanding, small⟩ := hn.outstanding side
  obtain ⟨part, whole, -⟩ := h.front unchanged outstanding
  cases rest with
  | nil =>
      have nothing := List.prefix_nil.mp part
      cases receives with
      | refused length _ hfront _ =>
          rw [nothing] at hfront
          have both := congrArg List.length hfront
          rw [List.length_append, List.length_nil, length] at both
          omega
      | short ended short =>
          dsimp only
          rw [nothing, List.append_nil]
  | cons plaintext rest =>
      rw [framesFrom, ← hn.readCipher side, ← hn.counted side] at part whole
      exact absurd receives
        (not_fails_before_frame (small plaintext List.mem_cons_self) part whole)

/-- **Every move keeps the bytes in step**, where no write of the other end fails. -/
theorem of_makes (h : Aligned cipher key side past move.source)
    (hn : Numbered key past move.source) (distinct : key side.other ≠ key side)
    (made : (controlLink cipher hkdf sessionKey).Makes move)
    (few : (sealed side.other past).length < 2 ^ 64)
    (unforged : move.Unforged cipher (sealed .sender past ++ sealed .receiver past))
    (written : ¬ move.WriteFails side.other) (unchanged : move.source.Unchanged side) :
    Aligned cipher key side (move :: past) move.target where
  wrote := by
    rw [sealed, collect_cons, List.map_append]
    change _ = framesFrom cipher (key side.other) 0
      ((sealed side.other past).map Sealing.plaintext ++ (move.seals side.other).map _)
    cases sees_of_makes made side.other with
    | @sealed plaintext write is small seals _ now =>
        cases write with
        | fails e taken => exact absurd ⟨plaintext, e, taken, is, small⟩ written
        | all =>
            rw [now, seals, List.map_singleton, framesFrom_concat, List.length_map, ← h.wrote,
              ← hn.written, ← hn.writeCipher]
            rfl
    | accepted _ _ seals _ _ _ _ _ now =>
        rw [now, seals, List.map_nil, List.append_nil]
        exact h.wrote
    | failed seals _ receives now =>
        rw [now, seals, List.map_nil, List.append_nil, ← h.wrote]
        cases receives <;> rfl
    | still seals _ now =>
        rw [now, seals, List.map_nil, List.append_nil]
        exact h.wrote
  took := by
    rw [returned, collect_cons]
    change _ = framesFrom cipher (key side.other) 0 (Airplay.returned side past ++ _)
    cases sees_of_makes made side with
    | accepted is output _ returns length size hfront opened now =>
        have hframe := (hn.accepts distinct few unforged is output length size hfront opened).2
        rw [now, returns, framesFrom_concat, ← h.took, ← hn.counted, ← hn.readCipher, ← hframe]
    | sealed _ _ _ returns now =>
        rw [now, returns, List.append_nil]
        exact h.took
    | failed _ returns receives now =>
        rw [now, returns, List.append_nil, h.nothing_of_fails hn unchanged receives]
        exact h.took
    | still _ returns now =>
        rw [now, returns, List.append_nil]
        exact h.took

end Aligned

theorem aligned_of_run
    (distinct : hkdf controlSalt sessionKey writeInfo ≠ hkdf controlSalt sessionKey readInfo)
    (run : (controlLink cipher hkdf sessionKey).Run past x) (ideal : Unforged cipher past)
    (few : ∀ side, (sealed side past).length < 2 ^ 64)
    (written : ∀ move ∈ past, ¬ move.WriteFails side.other)
    (unchanged : ∀ y ∈ System.states past x, y.Unchanged side) :
    Aligned cipher (startKey hkdf sessionKey) side past x := by
  induction run with
  | start initial =>
      cases initial
      exact Aligned.start
  | @move past move before made ih =>
      have fewer := fun side => Nat.lt_of_le_of_lt (length_sealed_le side) (few side)
      have before' := ih ideal.2 fewer (fun m mem => written m (List.mem_cons_of_mem _ mem))
        fun y mem => unchanged y (List.mem_cons_of_mem _ mem)
      exact before'.of_makes (numbered_of_run distinct before ideal.2 fewer)
        (startKey_other_ne distinct side) made (fewer side.other) ideal.1
        (written move List.mem_cons_self)
        (unchanged move.source (List.mem_cons_of_mem _ List.mem_cons_self))

/-- Frames that are there are all returned, by one call each. -/
theorem execute_recv (rest : List (List UInt8)) (small : ∀ plaintext ∈ rest, plaintext.length ≤ maxFrame)
    (past : List (ControlMove Key)) (x : ControlLink Key) (n : Nat)
    (counted : (x side).readCounter = UInt64.ofNat n)
    (front : (x side).stream.incoming = framesFrom cipher (x side).readCipher n rest) :
    ∃ past' x', (controlLink cipher hkdf sessionKey).execute
        (List.replicate rest.length (.recv side)) past x = some (past', x') ∧
      returned side past' = returned side past ++ rest := by
  induction rest generalizing past x n with
  | nil => exact ⟨past, x, rfl, (List.append_nil _).symm⟩
  | cons plaintext rest ih =>
      rw [framesFrom, ← counted] at front
      obtain ⟨ch, hrecv, hcounted, hfront⟩ : ∃ ch, (x side).recv cipher = some (.ok plaintext, ch) ∧
          ch.readCounter = UInt64.ofNat (n + 1) ∧
          ch.stream.incoming = framesFrom cipher ch.readCipher (n + 1) rest :=
        ⟨_, ControlChannel.recv_frame (small plaintext List.mem_cons_self) front,
          by rw [counted, UInt64.ofNat_add]; rfl, rfl⟩
      have hstep : (controlLink cipher hkdf sessionKey).step x (.recv side) =
          some (Function.update x side ch, .received (.ok plaintext)) :=
        congrArg (Option.map _) hrecv
      have hnow : Function.update x side ch side = ch := Function.update_self _ _ _
      obtain ⟨past', x', hexec, hreturned⟩ :=
        ih (fun t mem => small t (List.mem_cons_of_mem _ mem))
          (⟨x, .recv side, .received (.ok plaintext), Function.update x side ch⟩ :: past)
          (Function.update x side ch) (n + 1) (by rw [hnow, hcounted]) (by rw [hnow, hfront])
      refine ⟨past', x', ?_, ?_⟩
      · rw [List.length_cons, List.replicate_succ, System.execute_cons hstep]
        exact hexec
      · rw [hreturned, returned, collect_cons, List.append_assoc]
        simp [ControlMove.returns, returned]

/-! ## The agreement -/

/-- **The encrypted channel.**  An end seals under one key and never with a nonce twice,
a text that is too long changes nothing, and what an end returns are the first of the
texts that the other end has sealed.  If no write of the other end fails these are the
texts of its successful sends, and all of them are returned once they are there. -/
theorem plaintexts_in_order
    (distinct : hkdf controlSalt sessionKey writeInfo ≠ hkdf controlSalt sessionKey readInfo)
    (run : (controlLink cipher hkdf sessionKey).Run past x) (ideal : Unforged cipher past)
    (few : ∀ side, (sealed side past).length < 2 ^ 64) (side : Side) :
    ((∀ s ∈ sealed side past, s.key = startKey hkdf sessionKey side) ∧
      ((sealed side past).map Sealing.nonce).Nodup) ∧
    (∀ move ∈ past, ∀ plaintext write, move.action = .send side plaintext write →
      maxFrame < plaintext.length →
      move.output = .sent (.error (.tooLong plaintext.length)) ∧ move.target = move.source) ∧
    returned side past <+: (sealed side.other past).map Sealing.plaintext ∧
    ((∀ move ∈ past, ¬ ControlMove.WriteFails side.other move) →
      returned side past <+: sent side.other past ∧
      ((∀ y ∈ System.states past x, y.Unchanged side) →
        (x side).stream.taken ++ (x side).stream.incoming = (x side.other).stream.written →
        ∃ past' x', (controlLink cipher hkdf sessionKey).execute
            (List.replicate ((sent side.other past).length - (returned side past).length)
              (.recv side)) past x = some (past', x') ∧
          returned side past' = sent side.other past)) := by
  have numbered := numbered_of_run distinct run ideal few
  refine ⟨⟨fun s => numbered.key_of_mem, numbered.nonces_nodup (few side)⟩, ?_,
    numbered.returned side, fun written => ?_⟩
  · rintro ⟨y, action, output, y'⟩ mem plaintext write rfl long
    have made : y.step cipher (.send side plaintext write) = some (y', output) :=
      (run.of_mem mem).2
    simp only [ControlLink.step, ControlChannel.send_of_gt long, Function.update_eq_self] at made
    cases made
    exact ⟨rfl, rfl⟩
  · have hsent := sent_of_run run written
    obtain ⟨rest, outstanding, small⟩ := numbered.outstanding side
    refine ⟨hsent ▸ numbered.returned side, fun unchanged delivered => ?_⟩
    have aligned := aligned_of_run distinct run ideal few written unchanged
    have hfront := (aligned.front (unchanged x List.mem_cons_self) outstanding).2.2 delivered
    rw [← numbered.readCipher side] at hfront
    rw [← hsent, outstanding, List.length_append, Nat.add_sub_cancel_left]
    exact execute_recv rest small past x _ (numbered.counted side) hfront

/-! ## A write that fails -/

/-- A cipher for the runs below, which nobody should use: its tag is blank. -/
def blankTag : Aead (List UInt8) where
  encrypt _ _ _ msg := msg ++ List.replicate 16 0
  decrypt _ _ _ msg := some (msg.take (msg.length - 16))
  decrypt_encrypt _ _ _ msg := by simp
  length_encrypt _ _ _ msg := by simp

/-- One end says `A`, and the network brings the whole frame to the other. -/
def sayA (write : SocketWrite) : List ControlAction :=
  [.send .sender [65] write, .network .receiver (1 :: 0 :: 65 :: List.replicate 16 0) false,
    .recv .receiver]

abbrev blankLink : System (ControlLink (List UInt8)) ControlAction CallResult :=
  controlLink blankTag (fun _ _ info => info) []

abbrev blankStart : ControlLink (List UInt8) :=
  .start (fun _ _ info => info) []

theorem run_sayA (write : SocketWrite) :
    blankLink.Run (blankLink.history (sayA write) blankStart)
      (blankLink.final (sayA write) blankStart) := by
  refine .of_actions (sayA write) rfl ?_
  cases write <;> rfl

theorem unforged_sayA (write : SocketWrite) :
    Unforged blankTag (blankLink.history (sayA write) blankStart) := by
  cases write with
  | all =>
      refine ⟨?_, nofun, nofun, trivial⟩
      rintro side plaintext is output
      cases is
      exact ⟨_, List.mem_cons_self, rfl, rfl, rfl, rfl⟩
  | fails e taken =>
      refine ⟨?_, nofun, nofun, trivial⟩
      rintro side plaintext is output
      cases is
      exact ⟨_, List.mem_cons_self, rfl, rfl, rfl, rfl⟩

theorem plaintexts_in_order_sayA :
    let past := blankLink.history (sayA .all) blankStart
    returned .receiver past = [[65]] ∧ returned .receiver past <+: sent .sender past := by
  refine ⟨rfl, ((plaintexts_in_order (by decide) (run_sayA .all) (unforged_sayA .all) ?_
    .receiver).2.2.2 ?_).1⟩
  · intro side
    cases side <;> decide
  · rintro move mem ⟨plaintext, e, taken, is, -⟩
    rcases List.mem_cons.mp mem with rfl | mem
    · cases is
    rcases List.mem_cons.mp mem with rfl | mem
    · cases is
    rcases List.mem_cons.mp mem with rfl | mem
    · cases is
    cases mem

/-- **A text is returned although its `send` has failed.**  Eighteen bytes of the frame
were written before the write failed, and the network adds the last one. -/
theorem completed_frame_is_returned :
    ¬ ∀ past x, blankLink.Run past x → Unforged blankTag past →
      (∀ side, (sealed side past).length < 2 ^ 64) →
      ∀ side, returned side past <+: sent side.other past := by
  intro all
  have order := all _ _ (run_sayA (.fails "Broken pipe (os error 32)" 18)) (unforged_sayA _)
    (fun side => by cases side <;> decide) .receiver
  exact absurd (List.prefix_nil.mp order) (List.cons_ne_nil [65] [])

end OpenPlay.Airplay
