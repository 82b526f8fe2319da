import OpenPlay.Airplay.ControlChannel
import OpenPlay.Foundation.System

/-!
# Two ends of a control channel

`controlLink` is a channel with both of its ends and a network between them that may
put any bytes before either.  What an end accepts is decided by the cipher alone, so
the assumption on the cipher is one about the run: every text that a call of `recv`
accepts was sealed before, by somebody, under the same key and number and with the
same length (`Unforged`).

`Numbered` is the invariant: the calls of `send` have sealed one frame for each number
of the counter, and the calls of `recv` at the other end have returned the first of
them.
-/

namespace OpenPlay.Airplay

open Transition

/-- The two ends of a channel. -/
inductive Side
  | sender
  | receiver
deriving DecidableEq, Repr

def Side.other : Side → Side
  | sender => receiver
  | receiver => sender

@[simp] theorem Side.other_other (side : Side) : side.other.other = side := by
  cases side <;> rfl

/-! ## The system -/

abbrev ControlLink (Key : Type) := Side → ControlChannel Key

inductive ControlAction
  | send (side : Side) (plaintext : List UInt8) (write : SocketWrite)
  | recv (side : Side)
  /-- The network decides what `side` will read. -/
  | network (side : Side) (incoming : List UInt8) (ended : Bool)

/-- What a call returns. -/
inductive CallResult
  | sent (result : Except ControlError Unit)
  | received (result : Except ControlError (List UInt8))
  | nothing

section System

variable {Key : Type} (cipher : Aead Key)

def ControlLink.step (x : ControlLink Key) :
    ControlAction → Option (ControlLink Key × CallResult)
  | .send side plaintext write =>
      let next := (x side).send cipher plaintext write
      some (Function.update x side next.2, .sent next.1)
  | .recv side =>
      ((x side).recv cipher).map fun next =>
        (Function.update x side next.2, .received next.1)
  | .network side incoming ended =>
      let ch := x side
      some (Function.update x side
        { ch with stream := { ch.stream with incoming := incoming, ended := ended } }, .nothing)

/-- Both ends after pair-setup, with the keys that a session key is expanded to. -/
def ControlLink.start (hkdf : List UInt8 → List UInt8 → List UInt8 → Key)
    (sessionKey : List UInt8) : ControlLink Key
  | .sender => .new hkdf .new sessionKey
  | .receiver => (ControlChannel.new hkdf .new sessionKey).mirrored

def controlLink (hkdf : List UInt8 → List UInt8 → List UInt8 → Key)
    (sessionKey : List UInt8) : System (ControlLink Key) ControlAction CallResult where
  init x := x = .start hkdf sessionKey
  step := ControlLink.step cipher

end System

abbrev ControlMove (Key : Type) := Move (ControlLink Key) ControlAction CallResult

/-! ## What has been said -/

/-- A call of the cipher. -/
structure Sealing (Key : Type) where
  key : Key
  nonce : List UInt8
  aad : List UInt8
  plaintext : List UInt8

namespace ControlMove

variable {Key : Type} (side : Side) (move : ControlMove Key)

/-- What `send` of `side` seals in this move. -/
def seals : List (Sealing Key) :=
  match move.action with
  | .send d plaintext _ =>
      if d = side ∧ plaintext.length ≤ maxFrame then
        [⟨(move.source side).writeCipher, nonceFor (move.source side).writeCounter,
          FixedWidth.le 2 plaintext.length, plaintext⟩]
      else []
  | _ => []

/-- What a successful `send` of `side` was given in this move. -/
def sends : List (List UInt8) :=
  match move.action, move.output with
  | .send d plaintext _, .sent (.ok ()) => if d = side then [plaintext] else []
  | _, _ => []

/-- What a successful `recv` of `side` returns in this move. -/
def returns : List (List UInt8) :=
  match move.action, move.output with
  | .recv d, .received (.ok plaintext) => if d = side then [plaintext] else []
  | _, _ => []

/-- A write of a frame of `side` fails. -/
def WriteFails : Prop :=
  ∃ plaintext e taken, move.action = .send side plaintext (.fails e taken) ∧
    plaintext.length ≤ maxFrame

/-- The move does not accept a text that nobody has sealed. -/
def Unforged (cipher : Aead Key) (seen : List (Sealing Key)) : Prop :=
  ∀ side plaintext, move.action = .recv side → move.output = .received (.ok plaintext) →
    let ch := move.source side
    let lenBuf := ch.stream.incoming.take 2
    let text := (ch.stream.incoming.drop 2).take (FixedWidth.ofLe lenBuf + 16)
    ∃ s ∈ seen, s.key = ch.readCipher ∧ s.nonce = nonceFor ch.readCounter ∧ s.aad = lenBuf ∧
      cipher.encrypt s.key s.nonce s.aad s.plaintext = text

end ControlMove

section History

variable {Key : Type} (side : Side) (past : List (ControlMove Key))

/-- What `side` has sealed. -/
def sealed : List (Sealing Key) := collect (ControlMove.seals side) past

/-- What was passed to the successful calls of `send` of `side`. -/
def sent : List (List UInt8) := collect (ControlMove.sends side) past

/-- What the successful calls of `recv` of `side` have returned. -/
def returned : List (List UInt8) := collect (ControlMove.returns side) past

end History

/-- **The cipher is ideal**: a text is opened only if it was sealed before, under this
key, with this nonce and these associated data. -/
def Unforged {Key : Type} (cipher : Aead Key) : List (ControlMove Key) → Prop
  | [] => True
  | move :: past =>
      move.Unforged cipher (sealed .sender past ++ sealed .receiver past) ∧ Unforged cipher past

/-- The network has left the bytes for `side` alone: what `side` has read and will read
is the beginning of what the other end has written, and all of it if it ends there. -/
def ControlLink.Unchanged {Key : Type} (side : Side) (x : ControlLink Key) : Prop :=
  let delivered := (x side).stream.taken ++ (x side).stream.incoming
  delivered <+: (x side.other).stream.written ∧
    ((x side).stream.ended = true → delivered = (x side.other).stream.written)

/-! ## What a step is to one end -/

section Sees

variable {Key : Type} {cipher : Aead Key}
variable {hkdf : List UInt8 → List UInt8 → List UInt8 → Key} {sessionKey : List UInt8}
variable {move : ControlMove Key} {side : Side}

/-- What a move is to `side`. -/
inductive Sees (cipher : Aead Key) (side : Side) (move : ControlMove Key) : Prop
  /-- It seals a frame, and its socket takes some of it. -/
  | sealed {plaintext : List UInt8} {write : SocketWrite}
      (is : move.action = .send side plaintext write) (small : plaintext.length ≤ maxFrame)
      (seals : move.seals side =
        [⟨(move.source side).writeCipher, nonceFor (move.source side).writeCounter,
          FixedWidth.le 2 plaintext.length, plaintext⟩])
      (returns : move.returns side = [])
      (now : move.target side =
        ({ move.source side with
          writeCounter := (move.source side).writeCounter + 1 } : ControlChannel Key).wrote
          (ControlChannel.takenOf (ControlChannel.frame cipher (move.source side).writeCipher
            (move.source side).writeCounter plaintext) write))
  /-- It accepts a text. -/
  | accepted {lenBuf text rest plaintext : List UInt8}
      (is : move.action = .recv side) (output : move.output = .received (.ok plaintext))
      (seals : move.seals side = []) (returns : move.returns side = [plaintext])
      (length : lenBuf.length = 2) (size : text.length = FixedWidth.ofLe lenBuf + 16)
      (front : (move.source side).stream.incoming = lenBuf ++ (text ++ rest))
      (opened : cipher.decrypt (move.source side).readCipher
        (nonceFor (move.source side).readCounter) lenBuf text = some plaintext)
      (now : move.target side =
        { move.source side with
          stream := { (move.source side).stream with
            taken := (move.source side).stream.taken ++ (lenBuf ++ text), incoming := rest }
          readCounter := (move.source side).readCounter + 1 })
  /-- A call of `recv` fails. -/
  | failed {e : ControlError} {ch : ControlChannel Key} (seals : move.seals side = [])
      (returns : move.returns side = [])
      (receives : ControlChannel.Receives cipher (move.source side) (.error e) ch)
      (now : move.target side = ch)
  /-- Nothing, or the network decides what it will read. -/
  | still {incoming : List UInt8} {ended : Bool} (seals : move.seals side = [])
      (returns : move.returns side = [])
      (now : move.target side =
        { move.source side with stream := { (move.source side).stream with
            incoming := incoming, ended := ended } })

theorem Sees.of_same (seals : move.seals side = []) (returns : move.returns side = [])
    (now : move.target side = move.source side) : Sees cipher side move :=
  .still seals returns now

theorem sees_of_makes (made : (controlLink cipher hkdf sessionKey).Makes move)
    (side : Side) : Sees cipher side move := by
  obtain ⟨x, action, output, x'⟩ := move
  replace made : x.step cipher action = some (x', output) := made
  cases action with
  | send d plaintext write =>
      by_cases long : maxFrame < plaintext.length
      · simp only [ControlLink.step, ControlChannel.send_of_gt long,
          Function.update_eq_self] at made
        cases made
        exact .of_same (if_neg fun h => Nat.not_le.mpr long h.2) rfl rfl
      · have small := Nat.not_lt.mp long
        simp only [ControlLink.step] at made
        rw [ControlChannel.send_of_le small] at made
        cases made
        by_cases same : d = side
        · subst same
          exact .sealed rfl small (if_pos ⟨rfl, small⟩) rfl (Function.update_self _ _ _)
        · exact .of_same (if_neg fun h => same h.1) rfl (Function.update_of_ne (Ne.symm same) _ _)
  | recv d =>
      obtain ⟨⟨result, ch⟩, hrecv, hpair⟩ := Option.map_eq_some_iff.mp made
      cases hpair
      have receives := ControlChannel.recv_cases hrecv
      by_cases same : d = side
      · subst same
        have now : (Function.update x d ch) d = ch := Function.update_self _ _ _
        cases result with
        | error e => exact .failed rfl rfl receives now
        | ok plaintext =>
            cases receives with
            | returned length size front opened =>
                exact .accepted rfl rfl rfl (if_pos rfl) length size front opened now
      · refine .of_same rfl ?_ (Function.update_of_ne (Ne.symm same) _ _)
        cases result with
        | error e => rfl
        | ok plaintext => exact if_neg same
  | network d incoming ended =>
      cases made
      by_cases same : d = side
      · subst same
        exact .still rfl rfl (Function.update_self _ _ _)
      · exact .of_same rfl rfl (Function.update_of_ne (Ne.symm same) _ _)

end Sees

/-! ## The numbers of a run -/

section Numbers

variable {Key : Type} {cipher : Aead Key} {key : Side → Key}
variable {hkdf : List UInt8 → List UInt8 → List UInt8 → Key} {sessionKey : List UInt8}
variable {past : List (ControlMove Key)} {x : ControlLink Key} {move : ControlMove Key}
variable {side : Side}

/-- The sealing of a frame with its number. -/
structure Sealing.IsNumber (key : Key) (i : Nat) (s : Sealing Key) : Prop where
  key : s.key = key
  nonce : s.nonce = nonceFor (UInt64.ofNat i)
  aad : s.aad = FixedWidth.le 2 s.plaintext.length
  small : s.plaintext.length ≤ maxFrame

/-- Each end has sealed one frame for each number, and has accepted the first of those
that the other end has sealed. -/
structure Numbered (key : Side → Key) (past : List (ControlMove Key)) (x : ControlLink Key) :
    Prop where
  writeCipher : ∀ side, (x side).writeCipher = key side
  readCipher : ∀ side, (x side).readCipher = key side.other
  written : ∀ side, (x side).writeCounter = UInt64.ofNat (sealed side past).length
  counted : ∀ side, (x side).readCounter = UInt64.ofNat (returned side past).length
  seals : ∀ side i (s : Sealing Key), (sealed side past)[i]? = some s → s.IsNumber (key side) i
  returned : ∀ side, returned side past <+: (sealed side.other past).map Sealing.plaintext

theorem ofNat_injective {m n : Nat} (hm : m < 2 ^ 64) (hn : n < 2 ^ 64)
    (h : UInt64.ofNat m = UInt64.ofNat n) : m = n := by
  have hnat := congrArg UInt64.toNat h
  rw [UInt64.toNat_ofNat', UInt64.toNat_ofNat', Nat.mod_eq_of_lt hm, Nat.mod_eq_of_lt hn] at hnat
  exact hnat

/-- A list that is begun can be gone on with. -/
theorem prefix_concat {α : Type} {l whole : List α} {a : α} (h : l <+: whole)
    (next : whole[l.length]? = some a) : l ++ [a] <+: whole := by
  obtain ⟨rest, rfl⟩ := h
  rw [List.getElem?_append_right (Nat.le_refl _), Nat.sub_self] at next
  cases rest with
  | nil => cases next
  | cons b rest =>
      cases next
      exact ⟨rest, List.append_assoc _ _ _⟩

namespace Numbered

theorem start : Numbered (fun side => (ControlLink.start hkdf sessionKey side).writeCipher) []
    (ControlLink.start hkdf sessionKey) where
  writeCipher side := rfl
  readCipher side := by cases side <;> rfl
  written side := by cases side <;> rfl
  counted side := by cases side <;> rfl
  seals side i s h := by cases h
  returned side := List.nil_prefix

/-- **What is accepted is the next text of the other end.**  A text that was sealed
under the right key was sealed by the other end, and its nonce tells its number. -/
theorem accepts (h : Numbered key past move.source) (distinct : key side.other ≠ key side)
    (few : (sealed side.other past).length < 2 ^ 64)
    (unforged : move.Unforged cipher (sealed .sender past ++ sealed .receiver past))
    {lenBuf text rest plaintext : List UInt8} (is : move.action = .recv side)
    (output : move.output = .received (.ok plaintext)) (length : lenBuf.length = 2)
    (size : text.length = FixedWidth.ofLe lenBuf + 16)
    (front : (move.source side).stream.incoming = lenBuf ++ (text ++ rest))
    (opened : cipher.decrypt (move.source side).readCipher
      (nonceFor (move.source side).readCounter) lenBuf text = some plaintext) :
    ((sealed side.other past).map Sealing.plaintext)[(Airplay.returned side past).length]? =
        some plaintext ∧
      lenBuf ++ text = ControlChannel.frame cipher (move.source side).readCipher
        (move.source side).readCounter plaintext := by
  obtain ⟨s, mem, hkey, hnonce, haad, htext⟩ := unforged side plaintext is output
  have hlen : (move.source side).stream.incoming.take 2 = lenBuf := by
    rw [front, ← length, List.take_left]
  have hdrop : (move.source side).stream.incoming.drop 2 = text ++ rest := by
    rw [front, ← length, List.drop_left]
  rw [hlen] at haad htext
  rw [hdrop, ← size, List.take_left] at htext
  -- whose text it is
  have sealer : s ∈ sealed side.other past := by
    have byOne : s ∈ sealed side past ∨ s ∈ sealed side.other past := by
      rcases List.mem_append.mp mem with mem | mem <;> cases side
      · exact Or.inl mem
      · exact Or.inr mem
      · exact Or.inr mem
      · exact Or.inl mem
    refine byOne.resolve_left fun own => distinct ?_
    obtain ⟨i, hi⟩ := List.mem_iff_getElem?.mp own
    rw [← h.readCipher side, ← hkey, (h.seals side i s hi).key]
  -- which number it has
  obtain ⟨i, hi⟩ := List.mem_iff_getElem?.mp sealer
  have hlt : i < (sealed side.other past).length := (List.getElem?_eq_some_iff.mp hi).1
  have hle : (Airplay.returned side past).length ≤ (sealed side.other past).length := by
    have hprefix := (h.returned side).length_le
    rwa [List.length_map] at hprefix
  have hnumber : i = (Airplay.returned side past).length := by
    have hcounter := (h.seals side.other i s hi).nonce
    rw [hnonce, h.counted side] at hcounter
    exact ofNat_injective (Nat.lt_trans hlt few) (Nat.lt_of_le_of_lt hle few)
      (nonceFor_injective hcounter).symm
  -- and what it says
  have hsays : plaintext = s.plaintext := by
    rw [← htext, hkey, hnonce, haad, cipher.decrypt_encrypt] at opened
    exact (Option.some.inj opened).symm
  constructor
  · rw [← hnumber, List.getElem?_map, hi, hsays]
    rfl
  · rw [ControlChannel.frame, ← htext, haad, hkey, hnonce, hsays,
      ← (h.seals side.other i s hi).aad, haad]

/-- The keys of an end are those it began with. -/
theorem ciphers_of_sees (sees : Sees cipher side move) :
    (move.target side).writeCipher = (move.source side).writeCipher ∧
      (move.target side).readCipher = (move.source side).readCipher := by
  cases sees with
  | sealed _ _ _ _ now =>
      rw [now]
      exact ⟨rfl, rfl⟩
  | accepted _ _ _ _ _ _ _ _ now =>
      rw [now]
      exact ⟨rfl, rfl⟩
  | failed _ _ receives now =>
      rw [now]
      cases receives <;> exact ⟨rfl, rfl⟩
  | still _ _ now =>
      rw [now]
      exact ⟨rfl, rfl⟩

/-- A counter is stepped by every frame of its direction. -/
theorem counters_of_sees (sees : Sees cipher side move) :
    (move.target side).writeCounter =
        (move.source side).writeCounter + UInt64.ofNat (move.seals side).length ∧
      (move.target side).readCounter =
        (move.source side).readCounter + UInt64.ofNat (move.returns side).length := by
  cases sees with
  | sealed _ _ seals returns now =>
      rw [now, seals, returns]
      exact ⟨rfl, (UInt64.add_zero _).symm⟩
  | accepted _ _ seals returns _ _ _ _ now =>
      rw [now, seals, returns]
      exact ⟨(UInt64.add_zero _).symm, rfl⟩
  | failed seals returns receives now =>
      rw [now, seals, returns]
      cases receives <;> exact ⟨(UInt64.add_zero _).symm, (UInt64.add_zero _).symm⟩
  | still seals returns now =>
      rw [now, seals, returns]
      exact ⟨(UInt64.add_zero _).symm, (UInt64.add_zero _).symm⟩

/-- What an end seals has the number of its counter. -/
theorem seals_of_sees (sees : Sees cipher side move) {s : Sealing Key}
    (mem : s ∈ move.seals side) :
    move.seals side = [s] ∧ s.key = (move.source side).writeCipher ∧
      s.nonce = nonceFor (move.source side).writeCounter ∧
      s.aad = FixedWidth.le 2 s.plaintext.length ∧ s.plaintext.length ≤ maxFrame := by
  cases sees with
  | sealed _ small seals _ _ =>
      rw [seals, List.mem_singleton] at mem
      subst mem
      exact ⟨seals, rfl, rfl, rfl, small⟩
  | accepted _ _ seals => simp [seals] at mem
  | failed seals => simp [seals] at mem
  | still seals => simp [seals] at mem

/-- **Every move keeps the numbers.** -/
theorem of_makes (h : Numbered key past move.source)
    (distinct : ∀ side : Side, key side.other ≠ key side)
    (made : (controlLink cipher hkdf sessionKey).Makes move)
    (few : ∀ side, (sealed side past).length < 2 ^ 64)
    (unforged : move.Unforged cipher (sealed .sender past ++ sealed .receiver past)) :
    Numbered key (move :: past) move.target where
  writeCipher side := by rw [(ciphers_of_sees (sees_of_makes made side)).1, h.writeCipher]
  readCipher side := by rw [(ciphers_of_sees (sees_of_makes made side)).2, h.readCipher]
  written side := by
    rw [(counters_of_sees (sees_of_makes made side)).1, h.written, sealed, sealed, collect_cons,
      List.length_append, UInt64.ofNat_add]
  counted side := by
    rw [(counters_of_sees (sees_of_makes made side)).2, h.counted, Airplay.returned,
      Airplay.returned, collect_cons, List.length_append, UInt64.ofNat_add]
  seals side i s hi := by
    change (sealed side past ++ move.seals side)[i]? = some s at hi
    by_cases old : i < (sealed side past).length
    · rw [List.getElem?_append_left old] at hi
      exact h.seals side i s hi
    · rw [List.getElem?_append_right (Nat.not_lt.mp old)] at hi
      obtain ⟨one, hkey, hnonce, haad, small⟩ :=
        seals_of_sees (sees_of_makes made side) (List.mem_of_getElem? hi)
      -- there is one new frame at most, so its place is the length of what was sealed
      have last : i - (sealed side past).length < 1 := by
        have hlt := (List.getElem?_eq_some_iff.mp hi).1
        rwa [one] at hlt
      have place : i = (sealed side past).length := by omega
      refine ⟨hkey.trans (h.writeCipher side), ?_, haad, small⟩
      rw [hnonce, h.written side, place]
  returned side := by
    rw [Airplay.returned, sealed, collect_cons, collect_cons, List.map_append]
    refine List.IsPrefix.trans ?_ (List.prefix_append _ _)
    cases sees_of_makes made side with
    | accepted is output _ returns length size front opened _ =>
        rw [returns]
        exact prefix_concat (h.returned side) (h.accepts (distinct side) (few side.other) unforged
          is output length size front opened).1
    | sealed _ _ _ returns _ =>
        rw [returns, List.append_nil]
        exact h.returned side
    | failed _ returns _ _ =>
        rw [returns, List.append_nil]
        exact h.returned side
    | still _ returns _ =>
        rw [returns, List.append_nil]
        exact h.returned side

end Numbered

end Numbers

end OpenPlay.Airplay
