import Mathlib.Logic.Function.Basic
import OpenPlay.Airplay.Mirror
import OpenPlay.Foundation.System
import OpenPlay.Foundation.Turns

/-!
# Two writers of one mirror stream

`run_session` once it has negotiated: the loop that takes commands, and the heartbeat task
beside it.  Both write packets to the same socket, each under the lock of the stream and in
several writes, and the heartbeat task may be aborted in any of them.

`mirror_stream_parses` is what a receiver makes of the socket.
-/

namespace OpenPlay.Airplay

open Transition Turns

/-- The loop over the commands, and the spawned task. -/
inductive Writer
  | main
  | heartbeat
deriving DecidableEq, Repr

/-- Where a writer is: waiting for a command or for the ticker, waiting for the lock, in
`write_packet` with the buffers still to be written, or at its end. -/
inductive Stage
  | idle
  | waiting (packetType : PacketType) (payload : List UInt8)
  | writing (buffers : List (List UInt8))
  | finished
deriving DecidableEq

/-- A session; `sent` are the bytes written since the stream became a mirror stream, and
`broken` says that a write has failed. -/
structure MirrorSession where
  stage : Writer → Stage
  lock : Option Writer
  aborting : Bool
  broken : Bool
  sent : List UInt8

inductive MirrorAction
  | receive (command : SessionCommand)
  | channelCloses
  | tick
  | lock (writer : Writer) (ntpTimestamp : UInt64)
  /-- The socket takes `n` bytes. -/
  | write (writer : Writer) (n : Nat)
  /-- The socket takes `n` bytes and fails. -/
  | writeFails (writer : Writer) (n : Nat)
  | flush (writer : Writer) (succeeds : Bool)
  | abort
deriving DecidableEq

/-- The buffers of `write_packet`: the header, and the payload unless it is empty. -/
def Packet.buffers (p : Packet) : List (List UInt8) :=
  p.header.encode :: if p.payload.isEmpty then [] else [p.payload]

/-- `write_all` goes on with what is left of a buffer. -/
def unwritten (buffer : List UInt8) (buffers : List (List UInt8)) (n : Nat) :
    List (List UInt8) :=
  if n < buffer.length then buffer.drop n :: buffers else buffers

namespace MirrorSession

/-- The stream has just been wrapped, and the heartbeat task spawned. -/
def start : MirrorSession where
  stage := fun _ => .idle
  lock := none
  aborting := false
  broken := false
  sent := []

def goTo (x : MirrorSession) (writer : Writer) (stage : Stage) : MirrorSession :=
  { x with stage := Function.update x.stage writer stage }

/-- The loop ends without an error, and aborts the heartbeat task. -/
def finish (x : MirrorSession) : MirrorSession := { x.goTo .main .finished with aborting := true }

/-- A step, with the packet if it begins to be written. -/
def step (x : MirrorSession) : MirrorAction → Option (MirrorSession × Option Packet)
  | .receive command =>
      match x.stage .main, command with
      | .idle, .sendCodecData data => some (x.goTo .main (.waiting .codecData data), none)
      | .idle, .sendVideoFrame data => some (x.goTo .main (.waiting .video data), none)
      | .idle, .stop => some (x.finish, none)
      | _, _ => none
  | .channelCloses =>
      match x.stage .main with
      | .idle => some (x.finish, none)
      | _ => none
  | .tick =>
      match x.stage .heartbeat with
      | .idle => some (x.goTo .heartbeat (.waiting .heartbeat []), none)
      | _ => none
  | .lock writer ntpTimestamp =>
      match x.stage writer, x.lock with
      | .waiting packetType payload, none =>
          let p : Packet := ⟨packetType, payload, ntpTimestamp⟩
          some ({ x.goTo writer (.writing p.buffers) with lock := some writer }, some p)
      | _, _ => none
  | .write writer n =>
      match x.stage writer with
      | .writing (buffer :: buffers) =>
          if x.broken = false ∧ 0 < n ∧ n ≤ buffer.length then
            some ({ x.goTo writer (.writing (unwritten buffer buffers n)) with
              sent := x.sent ++ buffer.take n }, none)
          else none
      | _ => none
  | .writeFails writer n =>
      match x.stage writer with
      | .writing (buffer :: _) =>
          -- a socket that is broken takes nothing
          if n ≤ buffer.length ∧ (x.broken = true → n = 0) then
            some ({ x.goTo writer .finished with
              lock := none, broken := true, sent := x.sent ++ buffer.take n }, none)
          else none
      | _ => none
  | .flush writer succeeds =>
      match x.stage writer with
      | .writing [] =>
          some ({ x.goTo writer (if succeeds then .idle else .finished) with lock := none }, none)
      | _ => none
  | .abort =>
      if x.aborting = true ∧ x.stage .heartbeat ≠ .finished then
        some ({ x.goTo .heartbeat .finished with
          lock := if x.lock = some .heartbeat then none else x.lock }, none)
      else none

end MirrorSession

def mirrorSession : System MirrorSession MirrorAction (Option Packet) where
  init x := x = .start
  step := MirrorSession.step

abbrev MirrorMove := Move MirrorSession MirrorAction (Option Packet)

/-- The packets, in the order in which the lock was taken for them. -/
def lockOrder (past : List MirrorMove) : List Packet := collect (fun move => move.output.toList) past

/-- How the state and the packets of a session hang together. -/
structure Kept (past : List MirrorMove) (x : MirrorSession) : Prop where
  holds : ∀ writer, (∃ buffers, x.stage writer = .writing buffers) ↔ x.lock = some writer
  ended : x.aborting = true → x.stage .main = .finished
  cut : x.broken = true → IsCut Packet.encode (lockOrder past) x.sent
  locked : x.broken = false → ∀ writer buffers, x.stage writer = .writing buffers →
    IsOpen Packet.encode (lockOrder past) x.sent buffers.flatten
  free : x.broken = false → x.lock = none →
    IsWhole Packet.encode (lockOrder past) x.sent ∨
      (∀ writer, x.stage writer = .finished) ∧ (∃ move ∈ past, move.action = .abort) ∧
        ∃ rest, IsOpen Packet.encode (lockOrder past) x.sent rest

section

variable {past : List MirrorMove} {move : MirrorMove} {x : MirrorSession} {p : Packet}

theorem Packet.flatten_buffers (p : Packet) : p.buffers.flatten = p.encode := by
  cases hp : p.payload with
  | nil => simp [buffers, encode, hp]
  | cons b payload => simp [buffers, encode, hp]

theorem flatten_unwritten (buffer : List UInt8) (buffers : List (List UInt8)) (n : Nat) :
    buffer.take n ++ (unwritten buffer buffers n).flatten = (buffer :: buffers).flatten := by
  rw [unwritten]
  split_ifs with some
  · rw [List.flatten_cons, ← List.append_assoc, List.take_append_drop, List.flatten_cons]
  · rw [List.take_of_length_le (Nat.not_lt.mp some), List.flatten_cons]

/-- The payload of a packet that a command asks for. -/
def SessionCommand.payload : SessionCommand → List UInt8
  | sendCodecData data => data
  | sendVideoFrame data => data
  | stop => []

/-- What a step does. -/
inductive MirrorDoes (x : MirrorSession) :
    MirrorAction → MirrorSession → Option Packet → Prop
  | receives {command packetType} (idle : x.stage .main = .idle) :
      MirrorDoes x (.receive command) (x.goTo .main (.waiting packetType command.payload)) none
  | ticks (idle : x.stage .heartbeat = .idle) :
      MirrorDoes x .tick (x.goTo .heartbeat (.waiting .heartbeat [])) none
  | ends {action} (asked : action = .receive .stop ∨ action = .channelCloses)
      (idle : x.stage .main = .idle) : MirrorDoes x action x.finish none
  | locks {writer ntpTimestamp packetType payload}
      (waits : x.stage writer = .waiting packetType payload) (free : x.lock = none) :
      MirrorDoes x (.lock writer ntpTimestamp)
        { x.goTo writer (.writing (Packet.buffers ⟨packetType, payload, ntpTimestamp⟩)) with
          lock := some writer }
        (some ⟨packetType, payload, ntpTimestamp⟩)
  | writes {writer n buffer buffers} (writing : x.stage writer = .writing (buffer :: buffers))
      (works : x.broken = false) :
      MirrorDoes x (.write writer n)
        { x.goTo writer (.writing (unwritten buffer buffers n)) with
          sent := x.sent ++ buffer.take n } none
  | fails {writer n buffer buffers} (writing : x.stage writer = .writing (buffer :: buffers))
      (dead : x.broken = true → n = 0) :
      MirrorDoes x (.writeFails writer n)
        { x.goTo writer .finished with
          lock := none, broken := true, sent := x.sent ++ buffer.take n } none
  | flushes {writer succeeds} (writing : x.stage writer = .writing []) :
      MirrorDoes x (.flush writer succeeds)
        { x.goTo writer (if succeeds then .idle else .finished) with lock := none } none
  | aborts (aborting : x.aborting = true) (alive : x.stage .heartbeat ≠ .finished) :
      MirrorDoes x .abort
        { x.goTo .heartbeat .finished with
          lock := if x.lock = some .heartbeat then none else x.lock } none

theorem does_of_step {action : MirrorAction} {y : MirrorSession} {output : Option Packet}
    (stepped : x.step action = some (y, output)) : MirrorDoes x action y output := by
  cases action with
  | receive command =>
      cases idle : x.stage .main with
      | idle =>
          simp only [MirrorSession.step, idle] at stepped
          cases command with
          | sendCodecData data =>
              cases stepped
              exact .receives idle
          | sendVideoFrame data =>
              cases stepped
              exact .receives idle
          | stop =>
              cases stepped
              exact .ends (Or.inl rfl) idle
      | _ => simp [MirrorSession.step, idle] at stepped
  | channelCloses =>
      rw [MirrorSession.step] at stepped
      split at stepped
      · cases stepped
        exact .ends (Or.inr rfl) ‹_›
      · cases stepped
  | tick =>
      rw [MirrorSession.step] at stepped
      split at stepped
      · cases stepped
        exact .ticks ‹_›
      · cases stepped
  | lock writer ntpTimestamp =>
      rw [MirrorSession.step] at stepped
      split at stepped
      · rename_i waits free
        cases stepped
        exact .locks waits free
      · cases stepped
  | write writer n =>
      rw [MirrorSession.step] at stepped
      split at stepped
      · rename_i writing
        split_ifs at stepped with ok
        cases stepped
        exact .writes writing ok.1
      · cases stepped
  | writeFails writer n =>
      rw [MirrorSession.step] at stepped
      split at stepped
      · rename_i writing
        split_ifs at stepped with ok
        cases stepped
        exact .fails writing ok.2
      · cases stepped
  | flush writer succeeds =>
      rw [MirrorSession.step] at stepped
      split at stepped
      · rename_i writing
        cases stepped
        exact .flushes writing
      · cases stepped
  | abort =>
      rw [MirrorSession.step] at stepped
      split at stepped
      · rename_i ok
        cases stepped
        exact .aborts ok.1 ok.2
      · cases stepped

theorem lockOrder_of_none (h : move.output = none) :
    lockOrder (move :: past) = lockOrder past := by
  simp [lockOrder, h]

theorem lockOrder_of_some (h : move.output = some p) :
    lockOrder (move :: past) = lockOrder past ++ [p] := by
  simp [lockOrder, h]

namespace MirrorSession

@[simp] theorem goTo_stage_self (x : MirrorSession) (w : Writer) (s : Stage) :
    (x.goTo w s).stage w = s := Function.update_self ..

theorem stage_goTo {x : MirrorSession} {w w' : Writer} {s s' : Stage}
    (h : (x.goTo w s).stage w' = s') : s = s' ∨ x.stage w' = s' := by
  by_cases same : w' = w
  · subst same
    exact Or.inl ((x.goTo_stage_self w' s).symm.trans h)
  · exact Or.inr ((Function.update_of_ne same ..).symm.trans h)

theorem goTo_stage_of_ne {w w' : Writer} (h : w' ≠ w) (x : MirrorSession) (s : Stage) :
    (x.goTo w s).stage w' = x.stage w' := Function.update_of_ne h ..

end MirrorSession

namespace Kept

variable {w : Writer} {s : Stage} {order : List Packet}

theorem not_writing (kept : Kept past x) (calm : ∀ buffers, x.stage w ≠ .writing buffers) :
    x.lock ≠ some w := by
  intro held
  obtain ⟨buffers, writing⟩ := (kept.holds w).mpr held
  exact calm buffers writing

/-- The lock is held by the one that writes, so the others do not. -/
theorem alone (kept : Kept past x) {w' : Writer} {buffers : List (List UInt8)}
    (writing : x.stage w = .writing buffers) (other : w' ≠ w) :
    ∀ buffers', x.stage w' ≠ .writing buffers' := by
  intro buffers' writing'
  have held := (kept.holds w).mp ⟨buffers, writing⟩
  have held' := (kept.holds w').mp ⟨buffers', writing'⟩
  exact other (Option.some.inj (held'.symm.trans held))

theorem ended_goTo (kept : Kept past x) (alive : x.stage w ≠ .finished) (s : Stage)
    (aborting : x.aborting = true) : (x.goTo w s).stage .main = .finished := by
  have ended := kept.ended aborting
  have other : .main ≠ w := by
    rintro rfl
    exact alive ended
  rw [MirrorSession.goTo_stage_of_ne other]
  exact ended

/-- When the lock is given back, nobody writes. -/
theorem released (kept : Kept past x) {buffers : List (List UInt8)}
    (writing : x.stage w = .writing buffers) (quiet : ∀ b, s ≠ .writing b) (w' : Writer)
    (b : List (List UInt8)) : (x.goTo w s).stage w' ≠ .writing b := by
  by_cases same : w' = w
  · subst same
    rw [MirrorSession.goTo_stage_self]
    exact quiet b
  · rw [MirrorSession.goTo_stage_of_ne same]
    exact kept.alone writing same b

/-- A writer that is not writing goes where it does not write either. -/
theorem calm (kept : Kept past x) (idle : x.stage w = .idle) (quiet : ∀ b, s ≠ .writing b)
    (houtput : move.output = none) {aborting : Bool}
    (ended : aborting = true → (x.goTo w s).stage .main = .finished)
    (htarget : move.target = { x.goTo w s with aborting := aborting }) :
    Kept (move :: past) move.target := by
  have order : lockOrder (move :: past) = lockOrder past := lockOrder_of_none houtput
  rw [htarget]
  constructor
  · intro w'
    by_cases same : w' = w
    · subst same
      have unheld : x.lock ≠ some w' := kept.not_writing fun b h => nomatch idle.symm.trans h
      refine iff_of_false ?_ unheld
      rintro ⟨b, writing⟩
      exact quiet b ((x.goTo_stage_self w' s).symm.trans writing)
    · show (∃ b, (x.goTo w s).stage w' = .writing b) ↔ x.lock = some w'
      rw [MirrorSession.goTo_stage_of_ne same]
      exact kept.holds w'
  · exact ended
  · intro broken
    rw [order]
    exact kept.cut broken
  · intro works w' b writing
    rw [order]
    by_cases same : w' = w
    · subst same
      exact absurd ((x.goTo_stage_self w' s).symm.trans writing) (quiet b)
    · exact kept.locked works w' b ((MirrorSession.goTo_stage_of_ne same x s).symm.trans writing)
  · intro works unheld
    rw [order]
    rcases kept.free works unheld with whole | ⟨ended, -⟩
    · exact Or.inl whole
    · exact absurd (idle.symm.trans (ended w)) nofun

theorem locks (kept : Kept past x) {packetType : PacketType} {payload : List UInt8}
    (waits : x.stage w = .waiting packetType payload) (unheld : x.lock = none)
    (houtput : move.output = some p)
    (htarget : move.target = { x.goTo w (.writing p.buffers) with lock := some w }) :
    Kept (move :: past) move.target := by
  have order : lockOrder (move :: past) = lockOrder past ++ [p] := lockOrder_of_some houtput
  have none_writes : ∀ w' b, x.stage w' ≠ .writing b := by
    intro w' b writing
    exact absurd (unheld.symm.trans ((kept.holds w').mp ⟨b, writing⟩)) nofun
  rw [htarget]
  constructor
  · intro w'
    by_cases same : w' = w
    · subst same
      exact iff_of_true ⟨_, x.goTo_stage_self w' _⟩ rfl
    · refine iff_of_false ?_ fun held => same (Option.some.inj held).symm
      rintro ⟨b, writing⟩
      exact none_writes w' b ((MirrorSession.goTo_stage_of_ne same x _).symm.trans writing)
  · exact kept.ended_goTo (fun ended => nomatch waits.symm.trans ended) _
  · intro broken
    rw [order]
    exact (kept.cut broken).take p
  · intro works w' b writing
    rw [order]
    by_cases same : w' = w
    · subst same
      have buffers := (x.goTo_stage_self w' (.writing p.buffers)).symm.trans writing
      cases buffers
      rw [p.flatten_buffers]
      rcases kept.free works unheld with whole | ⟨ended, -⟩
      · exact whole.take p
      · exact absurd (waits.symm.trans (ended w')) nofun
    · exact absurd ((MirrorSession.goTo_stage_of_ne same x _).symm.trans writing)
        (none_writes w' b)
  · intro _ held
    cases held

theorem writes (kept : Kept past x) {buffer : List UInt8} {buffers : List (List UInt8)}
    {n : Nat} (writing : x.stage w = .writing (buffer :: buffers)) (works : x.broken = false)
    (houtput : move.output = none)
    (htarget : move.target = { x.goTo w (.writing (unwritten buffer buffers n)) with
      sent := x.sent ++ buffer.take n }) :
    Kept (move :: past) move.target := by
  have order : lockOrder (move :: past) = lockOrder past := lockOrder_of_none houtput
  have held : x.lock = some w := (kept.holds w).mp ⟨_, writing⟩
  rw [htarget]
  constructor
  · intro w'
    by_cases same : w' = w
    · subst same
      exact iff_of_true ⟨_, x.goTo_stage_self w' _⟩ held
    · show (∃ b, (x.goTo w _).stage w' = .writing b) ↔ x.lock = some w'
      rw [MirrorSession.goTo_stage_of_ne same]
      exact kept.holds w'
  · exact kept.ended_goTo (fun ended => nomatch writing.symm.trans ended) _
  · intro broken
    exact absurd (works.symm.trans broken) nofun
  · intro _ w' b writing'
    rw [order]
    by_cases same : w' = w
    · subst same
      have left := (x.goTo_stage_self w' (.writing (unwritten buffer buffers n))).symm.trans writing'
      cases left
      have before := kept.locked works w' _ writing
      rw [← flatten_unwritten buffer buffers n] at before
      exact before.write
    · exact absurd ((MirrorSession.goTo_stage_of_ne same x _).symm.trans writing')
        (kept.alone writing same b)
  · intro _ unheld
    exact absurd (held.symm.trans unheld) nofun

theorem fails (kept : Kept past x) {buffer : List UInt8} {buffers : List (List UInt8)} {n : Nat}
    (writing : x.stage w = .writing (buffer :: buffers)) (dead : x.broken = true → n = 0)
    (houtput : move.output = none)
    (htarget : move.target = { x.goTo w .finished with
      lock := none, broken := true, sent := x.sent ++ buffer.take n }) :
    Kept (move :: past) move.target := by
  have order : lockOrder (move :: past) = lockOrder past := lockOrder_of_none houtput
  rw [htarget]
  constructor
  · intro w'
    refine iff_of_false ?_ nofun
    rintro ⟨b, writing'⟩
    exact kept.released writing (nofun : ∀ b, Stage.finished ≠ .writing b) w' b writing'
  · exact kept.ended_goTo (fun ended => nomatch writing.symm.trans ended) _
  · intro _
    rw [order]
    cases works : x.broken with
    | false =>
        have before := kept.locked works w _ writing
        rw [← flatten_unwritten buffer buffers n] at before
        exact before.cut
    | true =>
        show IsCut Packet.encode (lockOrder past) (x.sent ++ buffer.take n)
        rw [dead works, List.take_zero, List.append_nil]
        exact kept.cut works
  · exact fun works => nomatch works
  · exact fun works => nomatch works

theorem flushes (kept : Kept past x) (writing : x.stage w = .writing [])
    (quiet : ∀ b, s ≠ .writing b) (houtput : move.output = none)
    (htarget : move.target = { x.goTo w s with lock := none }) :
    Kept (move :: past) move.target := by
  have order : lockOrder (move :: past) = lockOrder past := lockOrder_of_none houtput
  rw [htarget]
  constructor
  · intro w'
    refine iff_of_false ?_ nofun
    rintro ⟨b, writing'⟩
    exact kept.released writing quiet w' b writing'
  · exact kept.ended_goTo (fun ended => nomatch writing.symm.trans ended) _
  · intro broken
    rw [order]
    exact kept.cut broken
  · intro _ w' b writing'
    exact absurd writing' (kept.released writing quiet w' b)
  · intro works _
    rw [order]
    exact Or.inl (kept.locked works w [] writing).finish

/-- The loop has ended, so nobody is left to write when the heartbeat task is gone. -/
theorem aborts (kept : Kept past x) (aborting : x.aborting = true)
    (alive : x.stage .heartbeat ≠ .finished) (haction : move.action = .abort)
    (houtput : move.output = none)
    (htarget : move.target = { x.goTo .heartbeat .finished with
      lock := if x.lock = some .heartbeat then none else x.lock }) :
    Kept (move :: past) move.target := by
  have order : lockOrder (move :: past) = lockOrder past := lockOrder_of_none houtput
  have ended : ∀ w, (x.goTo .heartbeat .finished).stage w = .finished := by
    intro w
    cases w with
    | main => exact kept.ended_goTo alive _ aborting
    | heartbeat => exact x.goTo_stage_self _ _
  have main : x.lock ≠ some .main :=
    kept.not_writing fun b writing => nomatch (kept.ended aborting).symm.trans writing
  have unheld : (if x.lock = some .heartbeat then none else x.lock) = none := by
    cases held : x.lock with
    | none => rfl
    | some w =>
        cases w with
        | main => exact absurd held main
        | heartbeat => rfl
  rw [unheld] at htarget
  rw [htarget]
  constructor
  · intro w
    refine iff_of_false ?_ nofun
    rintro ⟨b, writing⟩
    exact absurd ((ended w).symm.trans writing) nofun
  · exact fun _ => ended .main
  · intro broken
    rw [order]
    exact kept.cut broken
  · intro _ w b writing
    exact absurd ((ended w).symm.trans writing) nofun
  · intro works _
    rw [order]
    by_cases writes : ∃ b, x.stage .heartbeat = .writing b
    · obtain ⟨b, writing⟩ := writes
      exact Or.inr ⟨ended, ⟨move, List.mem_cons_self, haction⟩, _,
        kept.locked works .heartbeat b writing⟩
    · have free : x.lock = none := by
        rw [kept.holds] at writes
        rwa [if_neg writes] at unheld
      rcases kept.free works free with whole | ⟨allOver, -⟩
      · exact Or.inl whole
      · exact absurd (allOver .heartbeat) alive

theorem start : Kept [] .start where
  holds _ := iff_of_false (fun ⟨_, h⟩ => nomatch h) nofun
  ended := nofun
  cut := nofun
  locked _ _ _ h := nomatch h
  free _ _ := Or.inl isWhole_nil

theorem of_makes (kept : Kept past move.source) (made : mirrorSession.Makes move) :
    Kept (move :: past) move.target := by
  obtain ⟨x, action, output, y⟩ := move
  replace kept : Kept past x := kept
  have does : MirrorDoes x action y output := does_of_step made
  cases does with
  | receives idle =>
      refine kept.calm idle ?_ rfl (kept.ended_goTo ?_ _) rfl
      · exact nofun
      · exact fun ended => nomatch idle.symm.trans ended
  | ticks idle =>
      refine kept.calm idle ?_ rfl (kept.ended_goTo ?_ _) rfl
      · exact nofun
      · exact fun ended => nomatch idle.symm.trans ended
  | ends _ idle =>
      refine kept.calm idle ?_ rfl (fun _ => x.goTo_stage_self _ _) rfl
      exact nofun
  | locks waits unheld => exact kept.locks waits unheld rfl rfl
  | writes writing works => exact kept.writes writing works rfl rfl
  | fails writing dead => exact kept.fails writing dead rfl rfl
  | @flushes _ succeeds writing =>
      refine kept.flushes writing ?_ rfl rfl
      cases succeeds <;> exact nofun
  | aborts aborting alive => exact kept.aborts aborting alive rfl rfl rfl

end Kept

theorem kept_of_run (run : mirrorSession.Run past x) : Kept past x := by
  refine run.invariant_past ?_ fun past move _ made kept => kept.of_makes made
  rintro _ rfl
  exact Kept.start

/-! ## Sizes -/

/-- The payload of a command fits the size field of a header. -/
def MirrorAction.Fits : MirrorAction → Prop
  | receive command => command.payload.length < 2 ^ 32
  | _ => True

/-- Payloads that are waiting and payloads that were written fit. -/
structure Fitting (past : List MirrorMove) (x : MirrorSession) : Prop where
  waiting : ∀ w packetType payload, x.stage w = .waiting packetType payload →
    payload.length < 2 ^ 32
  taken : ∀ p ∈ lockOrder past, p.payload.length < 2 ^ 32

theorem Fitting.of_makes (fitting : Fitting past move.source) (made : mirrorSession.Makes move)
    (fits : move.action.Fits) : Fitting (move :: past) move.target := by
  obtain ⟨x, action, output, y⟩ := move
  replace fitting : Fitting past x := fitting
  have does : MirrorDoes x action y output := does_of_step made
  constructor
  · intro w packetType payload waits
    -- a payload that waits has waited before, or comes with the move
    have fresh : ∀ {w' s}, (x.goTo w' s).stage w = .waiting packetType payload →
        (s = .waiting packetType payload → payload.length < 2 ^ 32) →
          payload.length < 2 ^ 32 := by
      intro w' s waits' new
      rcases MirrorSession.stage_goTo waits' with now | before
      · exact new now
      · exact fitting.waiting w packetType payload before
    cases does with
    | receives _ =>
        refine fresh waits ?_
        rintro ⟨⟩
        exact fits
    | ticks _ =>
        refine fresh waits ?_
        rintro ⟨⟩
        decide
    | ends _ _ => exact fresh waits nofun
    | locks _ _ => exact fresh waits nofun
    | writes _ _ => exact fresh waits nofun
    | fails _ _ => exact fresh waits nofun
    | @flushes _ succeeds _ => exact fresh waits fun now => by cases succeeds <;> cases now
    | aborts _ _ => exact fresh waits nofun
  · intro p mem
    cases output with
    | none =>
        rw [lockOrder_of_none rfl] at mem
        exact fitting.taken p mem
    | some q =>
        rw [lockOrder_of_some rfl] at mem
        rcases List.mem_append.mp mem with before | now
        · exact fitting.taken p before
        · rw [List.mem_singleton.mp now]
          cases does with
          | locks waits _ => exact fitting.waiting _ _ _ waits

theorem fitting_of_run (run : mirrorSession.Run past x)
    (fits : ∀ move ∈ past, move.action.Fits) : Fitting past x := by
  have keeps : ∀ past move, mirrorSession.Run past move.source → mirrorSession.Makes move →
      move.action.Fits → Fitting past move.source → Fitting (move :: past) move.target :=
    fun past move _ made fits fitting => fitting.of_makes made fits
  refine run.invariant_past_of_forall ?_ keeps fits
  rintro _ rfl
  exact ⟨nofun, nofun⟩

/-! ## What a receiver reads -/

theorem encode_ne_nil (p : Packet) : p.encode ≠ [] := by
  have length := p.length_encode
  intro nil
  rw [nil, List.length_nil, headerSize] at length
  omega

/-- A stream that splits is read as it was split. -/
theorem parsePackets_of_splits {taken whole missing : List Packet} {sent part : List UInt8}
    (splits : Splits Packet.encode taken sent whole missing part)
    (small : ∀ p ∈ taken, p.payload.length < 2 ^ 32) :
    parsePackets sent = (whole.map fun p => (p.packetType, p.payload), part) := by
  rw [splits.taken] at small
  have left : parsePackets part = ([], part) := by
    rcases splits.proper with ⟨-, rfl⟩ | ⟨p, later, rfl, isPart, proper⟩
    · rw [parsePackets]
      exact dif_pos (by decide)
    · exact parsePackets_incomplete (small p (by simp)) isPart proper
  rw [splits.sent]
  exact parsePackets_flatMap (fun p mem => small p (List.mem_append_left _ mem)) left

/-- Only one packet is not whole, unless a write has failed, and there is a reason. -/
theorem Kept.splits (kept : Kept past x) :
    ∃ whole missing part, Splits Packet.encode (lockOrder past) x.sent whole missing part ∧
      (missing ≠ [] → x.broken = true ∨ (∃ move ∈ past, move.action = .abort) ∨
        ∃ writer buffers, x.stage writer = .writing buffers) ∧
      (1 < missing.length → x.broken = true) := by
  cases works : x.broken with
  | true =>
      obtain ⟨whole, missing, part, splits⟩ := (kept.cut works).splits encode_ne_nil
      exact ⟨whole, missing, part, splits, fun _ => Or.inl rfl, fun _ => rfl⟩
  | false =>
      cases held : x.lock with
      | some writer =>
          obtain ⟨buffers, writing⟩ := (kept.holds writer).mpr held
          obtain ⟨whole, missing, part, splits, one⟩ :=
            (kept.locked works writer buffers writing).splits
          exact ⟨whole, missing, part, splits, fun _ => Or.inr (Or.inr ⟨writer, buffers, writing⟩),
            fun more => absurd more (Nat.not_lt.mpr one)⟩
      | none =>
          rcases kept.free works held with whole | ⟨-, aborted, rest, isOpen⟩
          · exact ⟨_, [], [], whole.splits, fun some => absurd rfl some, nofun⟩
          · obtain ⟨whole, missing, part, splits, one⟩ := isOpen.splits
            exact ⟨whole, missing, part, splits, fun _ => Or.inr (Or.inl aborted),
              fun more => absurd more (Nat.not_lt.mpr one)⟩

/-- **The mirror stream is read as it was written.**  Packets come in the order in which the
lock was taken for them.  Only the one at which a write failed or was aborted, or which is
being written, lacks its tail, and none comes after it unless a write has failed. -/
theorem mirror_stream_parses (run : mirrorSession.Run past x)
    (fits : ∀ move ∈ past, move.action.Fits) :
    ∃ whole missing part, lockOrder past = whole ++ missing ∧
      parsePackets x.sent = (whole.map fun p => (p.packetType, p.payload), part) ∧
      ((missing = [] ∧ part = []) ∨ ∃ p later, missing = p :: later ∧ part <+: p.encode ∧
        part.length < p.encode.length) ∧
      (missing ≠ [] → x.broken = true ∨ (∃ move ∈ past, move.action = .abort) ∨
        ∃ writer buffers, x.stage writer = .writing buffers) ∧
      (1 < missing.length → x.broken = true) := by
  obtain ⟨whole, missing, part, splits, reason, one⟩ := (kept_of_run run).splits
  exact ⟨whole, missing, part, splits.taken,
    parsePackets_of_splits splits (fitting_of_run run fits).taken, splits.proper, reason, one⟩

end

/-! ## A session -/

/-- A heartbeat, then a frame for which the lock is taken while the heartbeat is written. -/
def shortSession : List MirrorAction :=
  [.tick, .receive (.sendVideoFrame [1, 2]), .lock .heartbeat 0, .write .heartbeat 100,
    .write .heartbeat 28, .flush .heartbeat true, .lock .main 1, .write .main 128,
    .writeFails .main 1]

set_option maxRecDepth 2000 in
theorem run_shortSession :
    mirrorSession.Run (mirrorSession.history shortSession .start)
      (mirrorSession.final shortSession .start) :=
  .of_actions _ rfl (by decide)

theorem fits_shortSession : ∀ action ∈ shortSession, action.Fits := by
  simp [shortSession, MirrorAction.Fits, SessionCommand.payload]

theorem mirror_stream_parses_for_short_session :
    let past := mirrorSession.history shortSession .start
    let x := mirrorSession.final shortSession .start
    ∃ whole missing part, lockOrder past = whole ++ missing ∧
      parsePackets x.sent = (whole.map fun p => (p.packetType, p.payload), part) ∧
      ((missing = [] ∧ part = []) ∨ ∃ p later, missing = p :: later ∧ part <+: p.encode ∧
        part.length < p.encode.length) ∧
      (missing ≠ [] → x.broken = true ∨ (∃ move ∈ past, move.action = .abort) ∨
        ∃ writer buffers, x.stage writer = .writing buffers) ∧
      (1 < missing.length → x.broken = true) := by
  refine mirror_stream_parses run_shortSession fun move mem => ?_
  exact fits_shortSession _ (System.action_mem_of_mem_history mem)

end OpenPlay.Airplay
