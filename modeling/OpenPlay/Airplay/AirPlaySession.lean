import OpenPlay.Airplay.MirrorSession
import OpenPlay.Airplay.StatusLine

/-!
# The end of an AirPlay session

The task of `AirPlaySession`: `run_session` of `openplay-airplay`'s `session.rs`, and the
report of its error.  The NTP server is told to stop when it is dropped, the heartbeat task
only at the end of the function, which an error of a command skips.

`session_ends_iff` says which sessions end completely.  The session of `MirrorSession` is the
part of this one between the two events.
-/

namespace OpenPlay.Airplay

open Transition

/-! ## The code -/

inductive AirPlayError
  | connection (e : List Char)
  | http (e : List Char)
  | ntp (e : List Char)
  | mirrorStream (e : List Char)
  | mirroringNotSupported
  | negotiation (msg : List Char)
  | io (e : List Char)
  | plist (e : List Char)
  | fairPlay (e : List Char)
  | pairing (e : List Char)
  | sessionClosed
deriving DecidableEq, Repr

inductive SessionEvent
  | ready
  | ended (e : Option AirPlayError)
deriving DecidableEq, Repr

/-- Where the task is. -/
inductive SessionStage
  | bindingNtp
  | negotiating
  | authenticating
  | sendingReady
  | mirroring
  /-- Behind `heartbeat_handle.abort()`. -/
  | cleaningUp
  /-- Behind `ntp_server.stop()`. -/
  | sendingEnded
  /-- `run_session` has returned an error, and dropped what it had. -/
  | reporting (e : AirPlayError)
  | finished
  | panicked
deriving DecidableEq, Repr

/-- The NTP server: there is none, it runs, or it was told to stop. -/
inductive NtpServer
  | absent
  | running
  | stopped
deriving DecidableEq, Repr

/-- `NtpServer::stop`, also when it is dropped. -/
def NtpServer.stop : NtpServer → NtpServer
  | absent => absent
  | running | stopped => stopped

/-- The task, the heartbeat task with the stream they share, whether a worker is about the
latter, and the events that were sent. -/
structure AirPlaySession where
  stage : SessionStage
  ntp : NtpServer
  mirror : Option MirrorSession
  polling : Bool
  events : List SessionEvent

inductive SessionAction
  | bindNtp (result : Except AirPlayError Unit)
  /-- `http_session::negotiate`; without a result it panics. -/
  | negotiate (result : Option (Except AirPlayError Unit))
  /-- `negotiate_with_auth`, which returns no stream in any case. -/
  | authenticate (result : Option AirPlayError)
  | sendReady
  /-- A step of one of the writers; `e` is the error if it is a write of a command that fails. -/
  | mirror (action : MirrorAction) (e : List Char)
  /-- A worker takes up the heartbeat task, or leaves it. -/
  | poll
  | yield
  | stopNtp
  | sendEnded
  | report

/-- A step of the heartbeat task itself. -/
def MirrorAction.ofHeartbeat : MirrorAction → Bool
  | tick => true
  | lock writer _ | write writer _ | writeFails writer _ | flush writer _ => writer = .heartbeat
  | receive _ | channelCloses | abort => false

namespace AirPlaySession

def start : AirPlaySession where
  stage := .bindingNtp
  ntp := .absent
  mirror := none
  polling := false
  events := []

/-- `run_session` returns an error. -/
def fail (x : AirPlaySession) (e : AirPlayError) : AirPlaySession :=
  { x with stage := .reporting e, ntp := x.ntp.stop }

/-- The task is unwound. -/
def panic (x : AirPlaySession) : AirPlaySession :=
  { x with stage := .panicked, ntp := x.ntp.stop }

def emit (x : AirPlaySession) (event : SessionEvent) : AirPlaySession :=
  { x with events := x.events ++ [event] }

/-- The stream was wrapped, and the heartbeat task spawned. -/
def spawnHeartbeat (x : AirPlaySession) : AirPlaySession :=
  { x with stage := .mirroring, mirror := some .start }

/-- Where the task goes when its loop is over. -/
def afterLoop (x : AirPlaySession) (m : MirrorSession) (e : List Char) : AirPlaySession :=
  if x.stage = .mirroring ∧ m.stage .main = .finished then
    if m.aborting then { x with stage := .cleaningUp } else x.fail (.mirrorStream e)
  else x

/-- What a writer may do: the heartbeat task goes on only on a worker, and is dropped only
when it is on none. -/
def Allowed (x : AirPlaySession) (action : MirrorAction) : Prop :=
  (action.ofHeartbeat = true → x.polling = true) ∧ (action = .abort → x.polling = false)

instance (x : AirPlaySession) (action : MirrorAction) : Decidable (x.Allowed action) :=
  inferInstanceAs (Decidable (_ ∧ _))

/-- A step, with the packet if one begins to be written. -/
def step (x : AirPlaySession) : SessionAction → Option (AirPlaySession × Option Packet)
  | .bindNtp result =>
      if x.stage = .bindingNtp then
        match result with
        | .ok () => some ({ x with stage := .negotiating, ntp := .running }, none)
        | .error e => some (x.fail e, none)
      else none
  | .negotiate result =>
      if x.stage = .negotiating then
        match result with
        | none => some (x.panic, none)
        | some (.ok ()) => some ({ x with stage := .sendingReady }, none)
        | some (.error (.negotiation msg)) =>
            if wantsAuthentication msg then some ({ x with stage := .authenticating }, none)
            else some (x.fail (.negotiation msg), none)
        | some (.error e) => some (x.fail e, none)
      else none
  | .authenticate result =>
      if x.stage = .authenticating then
        match result with
        | none => some (x.panic, none)
        | some e => some (x.fail e, none)
      else none
  | .sendReady =>
      if x.stage = .sendingReady then some ((x.emit .ready).spawnHeartbeat, none) else none
  | .mirror action e =>
      if x.Allowed action then
        x.mirror.bind fun m => (m.step action).map fun (m', packet) =>
          (({ x with mirror := some m' } : AirPlaySession).afterLoop m' e, packet)
      else none
  | .poll =>
      x.mirror.bind fun m =>
        -- what was told to abort is not taken up again
        if x.polling = false ∧ m.aborting = false ∧ m.stage .heartbeat ≠ .finished then
          some ({ x with polling := true }, none)
        else none
  | .yield => if x.polling then some ({ x with polling := false }, none) else none
  | .stopNtp =>
      if x.stage = .cleaningUp then
        some ({ x with stage := .sendingEnded, ntp := x.ntp.stop }, none)
      else none
  | .sendEnded =>
      if x.stage = .sendingEnded then
        some ({ x.emit (.ended none) with stage := .finished }, none)
      else none
  | .report =>
      match x.stage with
      | .reporting e => some ({ x.emit (.ended (some e)) with stage := .finished }, none)
      | _ => none

/-- The heartbeat task, if there is one, was told to abort. -/
def toldToAbort (x : AirPlaySession) : Bool := x.mirror.all MirrorSession.aborting

end AirPlaySession

def airPlaySession : System AirPlaySession SessionAction (Option Packet) where
  init x := x = .start
  step := AirPlaySession.step

abbrev SessionMove := Move AirPlaySession SessionAction (Option Packet)

/-! ## A complete end -/

/-- The events with one `Ended`, which is the last of them. -/
def EndsOnce (events : List SessionEvent) : Prop :=
  ∃ front e, events = front ++ [.ended e] ∧ ∀ event ∈ front, event = .ready

/-- Nothing comes after an `Ended`, and a task that is over has sent one; by then the heartbeat
task and the NTP server have been told to stop. -/
structure EndsCompletely (x : AirPlaySession) : Prop where
  last : ∀ e, .ended e ∈ x.events → EndsOnce x.events
  once : x.stage = .finished ∨ x.stage = .panicked → EndsOnce x.events
  told : ∀ e, .ended e ∈ x.events → x.toldToAbort = true ∧ x.ntp ≠ .running

/-- The heartbeat task begins a packet. -/
def BeginsHeartbeat (move : SessionMove) : Prop :=
  ∃ ntpTimestamp e, move.action = .mirror (.lock .heartbeat ntpTimestamp) e

/-- No packet of the heartbeat task begins after an `Ended`. -/
def NoLateHeartbeat (past : List SessionMove) : Prop :=
  ∀ move ∈ past, (∃ e, .ended e ∈ move.source.events) → ¬ BeginsHeartbeat move

/-- A write of a command fails. -/
def MirrorAction.FailsCommand : MirrorAction → Prop
  | writeFails writer _ => writer = .main
  | flush writer succeeds => writer = .main ∧ succeeds = false
  | _ => False

/-- The task is torn down: a write of a command fails, or the negotiation panics. -/
def Breaks : SessionAction → Prop
  | .mirror action _ => action.FailsCommand
  | .negotiate result => result = none
  | .authenticate result => result = none
  | _ => False

/-- The heartbeat task is told to abort while a worker is about it. -/
def TellsPolled (move : SessionMove) : Prop :=
  move.source.polling = true ∧ move.source.stage = .mirroring ∧ move.target.stage = .cleaningUp

/-! ## One step -/

section

variable {m m' : MirrorSession} {packet : Option Packet}

/-- The loop over the commands ends and the heartbeat task is told to abort; or nobody is told
anything, and the loop is torn down by a write of its own only. -/
theorem loop_of_step {action : MirrorAction} (stepped : m.step action = some (m', packet)) :
    (m'.stage .main = .finished ∧ m'.aborting = true ∧ m.stage .main ≠ .finished ∧
        ¬ action.FailsCommand) ∨
      (m'.aborting = m.aborting ∧
        (m'.stage .main = .finished ↔ m.stage .main = .finished ∨ action.FailsCommand) ∧
        (action.FailsCommand → m.stage .main ≠ .finished)) := by
  have other : Writer.heartbeat ≠ .main := nofun
  have elsewhere : ∀ {y : MirrorSession} {a : MirrorAction}, y.stage .main = m.stage .main →
      ¬ a.FailsCommand →
        (y.stage .main = .finished ↔ m.stage .main = .finished ∨ a.FailsCommand) := by
    intro y a same works
    rw [same, or_iff_left works]
  have goesOn : ∀ {s s'} {a : MirrorAction}, m.stage .main = s → s ≠ .finished →
      s' ≠ .finished → ¬ a.FailsCommand →
        ((m.goTo .main s').stage .main = .finished ↔
          m.stage .main = .finished ∨ a.FailsCommand) := by
    intro s s' a before alive alive' works
    rw [MirrorSession.goTo_stage_self, before, or_iff_left works]
    exact iff_of_false alive' alive
  cases does_of_step stepped with
  | receives idle => exact Or.inr ⟨rfl, goesOn idle nofun nofun id, False.elim⟩
  | ticks _ => exact Or.inr ⟨rfl, elsewhere rfl id, False.elim⟩
  | ends asked idle =>
      refine Or.inl ⟨m.goTo_stage_self .main _, rfl, ?_, ?_⟩
      · exact fun h => nomatch idle.symm.trans h
      · rcases asked with rfl | rfl <;> exact id
  | @locks w _ _ _ waits _ =>
      refine Or.inr ⟨rfl, ?_, False.elim⟩
      cases w with
      | main => exact goesOn waits nofun nofun id
      | heartbeat => exact elsewhere rfl id
  | @writes w _ _ _ writing _ =>
      refine Or.inr ⟨rfl, ?_, False.elim⟩
      cases w with
      | main => exact goesOn writing nofun nofun id
      | heartbeat => exact elsewhere rfl id
  | @fails w _ _ _ writing _ =>
      cases w with
      | main =>
          refine Or.inr ⟨rfl, iff_of_true (m.goTo_stage_self .main _) (Or.inr rfl), ?_⟩
          exact fun _ h => nomatch writing.symm.trans h
      | heartbeat => exact Or.inr ⟨rfl, elsewhere rfl other, fun h => absurd h other⟩
  | @flushes w succeeds writing =>
      cases w with
      | main =>
          refine Or.inr ⟨rfl, ?_, fun _ h => nomatch writing.symm.trans h⟩
          cases succeeds with
          | true => exact goesOn writing nofun nofun fun h => nomatch h.2
          | false => exact iff_of_true (m.goTo_stage_self .main _) (Or.inr ⟨rfl, rfl⟩)
      | heartbeat =>
          exact Or.inr ⟨rfl, elsewhere rfl fun h => other h.1, fun h => absurd h.1 other⟩
  | aborts _ _ => exact Or.inr ⟨rfl, elsewhere rfl id, False.elim⟩

end

/-- Where there is no mirror stream yet. -/
def SessionStage.Early : SessionStage → Prop
  | bindingNtp | negotiating | authenticating | sendingReady => True
  | _ => False

/-- Where the NTP server is gone. -/
def SessionStage.Late : SessionStage → Prop
  | sendingEnded | reporting _ | finished | panicked => True
  | _ => False

/-- What a step does. -/
inductive SessionDoes (x : AirPlaySession) :
    SessionAction → AirPlaySession → Option Packet → Prop
  | advances {action stage ntp} (early : x.stage.Early) (early' : stage.Early)
      (works : ¬ Breaks action) :
      SessionDoes x action { x with stage := stage, ntp := ntp } none
  | fails {action e} (early : x.stage.Early) (works : ¬ Breaks action) :
      SessionDoes x action (x.fail e) none
  | panics {action} (early : x.stage.Early) (breaks : Breaks action) :
      SessionDoes x action x.panic none
  | readies (early : x.stage.Early) : SessionDoes x .sendReady (x.emit .ready).spawnHeartbeat none
  | mirrors {action e m m' packet} (allowed : x.Allowed action) (has : x.mirror = some m)
      (stepped : m.step action = some (m', packet)) :
      SessionDoes x (.mirror action e)
        (({ x with mirror := some m' } : AirPlaySession).afterLoop m' e) packet
  | polls {m} (has : x.mirror = some m) (untold : m.aborting = false) :
      SessionDoes x .poll { x with polling := true } none
  | yields : SessionDoes x .yield { x with polling := false } none
  | stops (stage : x.stage = .cleaningUp) :
      SessionDoes x .stopNtp { x with stage := .sendingEnded, ntp := x.ntp.stop } none
  | ends {action e} (works : ¬ Breaks action)
      (stage : x.stage = .sendingEnded ∨ ∃ e, x.stage = .reporting e) :
      SessionDoes x action { x.emit (.ended e) with stage := .finished } none

theorem mirrors_of_step {x y : AirPlaySession} {action : MirrorAction} {e : List Char}
    {packet : Option Packet} (stepped : x.step (.mirror action e) = some (y, packet)) :
    ∃ m m', x.Allowed action ∧ x.mirror = some m ∧ m.step action = some (m', packet) ∧
      y = ({ x with mirror := some m' } : AirPlaySession).afterLoop m' e := by
  simp only [AirPlaySession.step] at stepped
  split_ifs at stepped with allowed
  obtain ⟨m, has, stepped⟩ := Option.bind_eq_some_iff.mp stepped
  obtain ⟨⟨m', packet⟩, ran, same⟩ := Option.map_eq_some_iff.mp stepped
  cases same
  exact ⟨m, m', allowed, has, ran, rfl⟩

theorem does_of_session_step {x y : AirPlaySession} {action : SessionAction}
    {output : Option Packet} (stepped : x.step action = some (y, output)) :
    SessionDoes x action y output := by
  cases action with
  | bindNtp result =>
      simp only [AirPlaySession.step] at stepped
      split_ifs at stepped with stage
      have early : x.stage.Early := by rw [stage]; trivial
      cases result with
      | ok _ =>
          cases stepped
          exact .advances early trivial id
      | error e =>
          cases stepped
          exact .fails early id
  | negotiate result =>
      simp only [AirPlaySession.step] at stepped
      split_ifs at stepped with stage
      have early : x.stage.Early := by rw [stage]; trivial
      split at stepped
      · cases stepped
        exact .panics early rfl
      · cases stepped
        exact .advances early trivial nofun
      · split_ifs at stepped
        · cases stepped
          exact .advances early trivial nofun
        · cases stepped
          exact .fails early nofun
      · cases stepped
        exact .fails early nofun
  | authenticate result =>
      simp only [AirPlaySession.step] at stepped
      split_ifs at stepped with stage
      have early : x.stage.Early := by rw [stage]; trivial
      cases result with
      | none =>
          cases stepped
          exact .panics early rfl
      | some e =>
          cases stepped
          exact .fails early nofun
  | sendReady =>
      simp only [AirPlaySession.step] at stepped
      split_ifs at stepped with stage
      cases stepped
      exact .readies (by rw [stage]; trivial)
  | mirror action e =>
      obtain ⟨m, m', allowed, has, ran, rfl⟩ := mirrors_of_step stepped
      exact .mirrors allowed has ran
  | poll =>
      simp only [AirPlaySession.step] at stepped
      obtain ⟨m, has, stepped⟩ := Option.bind_eq_some_iff.mp stepped
      split_ifs at stepped with ok
      cases stepped
      exact .polls has ok.2.1
  | yield =>
      simp only [AirPlaySession.step] at stepped
      split_ifs at stepped
      cases stepped
      exact .yields
  | stopNtp =>
      simp only [AirPlaySession.step] at stepped
      split_ifs at stepped with stage
      cases stepped
      exact .stops stage
  | sendEnded =>
      simp only [AirPlaySession.step] at stepped
      split_ifs at stepped with stage
      cases stepped
      exact .ends id (Or.inl stage)
  | report =>
      simp only [AirPlaySession.step] at stepped
      split at stepped
      · rename_i e stage
        cases stepped
        exact .ends id (Or.inr ⟨e, stage⟩)
      · cases stepped

/-! ## Runs -/

/-- The task was torn down. -/
def Broke (past : List SessionMove) : Prop := ∃ move ∈ past, Breaks move.action

/-- It was unwound, or has left its loop and its heartbeat task behind. -/
def IsTornDown (x : AirPlaySession) : Prop :=
  x.stage = .panicked ∨ x.stage ≠ .mirroring ∧ x.toldToAbort = false

/-- What a session keeps. -/
structure SessionKept (past : List SessionMove) (x : AirPlaySession) : Prop where
  early : x.stage.Early → x.mirror = none
  late : x.stage.Late → x.ntp ≠ .running
  mirroring : x.stage = .mirroring →
    ∃ m, x.mirror = some m ∧ m.aborting = false ∧ m.stage .main ≠ .finished
  closed : x.stage ≠ .mirroring → ∀ m, x.mirror = some m → m.stage .main = .finished
  before : x.stage ≠ .finished → ∀ event ∈ x.events, event = .ready
  ended : x.stage = .finished → EndsOnce x.events
  broke : Broke past ↔ IsTornDown x

section

variable {past : List SessionMove} {move : SessionMove} {x : AirPlaySession}

theorem broke_cons : Broke (move :: past) ↔ Breaks move.action ∨ Broke past := by
  simp [Broke]

theorem broke_cons_of_works (works : ¬ Breaks move.action) : Broke (move :: past) ↔ Broke past :=
  broke_cons.trans (or_iff_right works)

theorem stop_ne_running (server : NtpServer) : server.stop ≠ .running := by
  cases server <;> simp [NtpServer.stop]

theorem SessionStage.Early.apart {stage : SessionStage} (early : stage.Early) :
    stage ≠ .mirroring ∧ stage ≠ .finished ∧ stage ≠ .panicked ∧ ¬ stage.Late := by
  cases stage with
  | bindingNtp | negotiating | authenticating | sendingReady => exact ⟨nofun, nofun, nofun, id⟩
  | _ => exact early.elim

theorem toldToAbort_some {m : MirrorSession} (has : x.mirror = some m) :
    x.toldToAbort = m.aborting := by
  rw [AirPlaySession.toldToAbort, has, Option.all_some]

theorem toldToAbort_none (has : x.mirror = none) : x.toldToAbort = true := by
  rw [AirPlaySession.toldToAbort, has, Option.all_none]

/-- While the loop runs, or there is no mirror stream, nothing is left behind. -/
theorem not_isTornDown (alive : x.stage ≠ .panicked)
    (h : x.stage = .mirroring ∨ x.mirror = none) : ¬ IsTornDown x := by
  rintro (panicked | ⟨elsewhere, untold⟩)
  · exact alive panicked
  · rcases h with stage | none
    · exact elsewhere stage
    · exact nomatch (toldToAbort_none none).symm.trans untold

theorem isTornDown_iff (alive : x.stage ≠ .panicked) (elsewhere : x.stage ≠ .mirroring) :
    IsTornDown x ↔ x.toldToAbort = false :=
  (or_iff_right alive).trans (and_iff_right elsewhere)

theorem isTornDown_congr {y : AirPlaySession} (same : x.mirror = y.mirror)
    (h : x.stage ≠ .panicked ∧ x.stage ≠ .mirroring)
    (h' : y.stage ≠ .panicked ∧ y.stage ≠ .mirroring) : IsTornDown x ↔ IsTornDown y := by
  rw [isTornDown_iff h.1 h.2, isTornDown_iff h'.1 h'.2, AirPlaySession.toldToAbort,
    AirPlaySession.toldToAbort, same]

namespace SessionKept

theorem start : SessionKept [] .start where
  early _ := rfl
  late := nofun
  mirroring := nofun
  closed _ _ := nofun
  before _ _ := nofun
  ended := nofun
  broke := iff_of_false (fun ⟨_, h, _⟩ => nomatch h) (not_isTornDown nofun (Or.inr rfl))

/-- As long as there is no mirror stream, nothing was torn down. -/
theorem works (kept : SessionKept past x) (early : x.stage.Early) : ¬ Broke past := by
  rw [kept.broke]
  exact not_isTornDown early.apart.2.2.1 (Or.inr (kept.early early))

/-- A writer makes a step. -/
theorem mirrors (kept : SessionKept past x) {action : MirrorAction} {e : List Char}
    {m m' : MirrorSession} {packet : Option Packet} (has : x.mirror = some m)
    (stepped : m.step action = some (m', packet)) (haction : move.action = .mirror action e) :
    SessionKept (move :: past) (({ x with mirror := some m' } : AirPlaySession).afterLoop m' e) := by
  have breaks : Breaks move.action ↔ action.FailsCommand := by rw [haction]; rfl
  have notEarly : ¬ x.stage.Early := fun early => nomatch has.symm.trans (kept.early early)
  have loop := loop_of_step stepped
  by_cases stage : x.stage = .mirroring
  · obtain ⟨m₀, has₀, untold, lives⟩ := kept.mirroring stage
    cases has.symm.trans has₀
    have alive : x.stage ≠ .panicked := by rw [stage]; exact nofun
    have unbroken : ¬ Broke past := by
      rw [kept.broke]
      exact not_isTornDown alive (Or.inl stage)
    have events := kept.before (by rw [stage]; exact nofun)
    by_cases isOver : m'.stage .main = .finished
    · -- the loop has ended: behind it is the abort, unless a command's write has failed
      cases told : m'.aborting with
      | true =>
          rw [AirPlaySession.afterLoop, if_pos ⟨stage, isOver⟩, if_pos told]
          have works : ¬ action.FailsCommand := by
            rcases loop with ⟨-, -, -, works⟩ | ⟨same, -, -⟩
            · exact works
            · exact nomatch told.symm.trans (same.trans untold)
          refine ⟨False.elim, False.elim, nofun, ?_, fun _ => events, nofun, ?_⟩
          · rintro _ _ ⟨⟩
            exact isOver
          · rw [broke_cons, breaks]
            refine Iff.trans ?_ (isTornDown_iff (by simp) (by simp)).symm
            rw [toldToAbort_some rfl, told]
            exact iff_of_false (not_or.mpr ⟨works, unbroken⟩) nofun
      | false =>
          rw [AirPlaySession.afterLoop, if_pos ⟨stage, isOver⟩, if_neg (by rw [told]; exact nofun)]
          have fails : action.FailsCommand := by
            rcases loop with ⟨-, told', -⟩ | ⟨-, iff, -⟩
            · exact nomatch told.symm.trans told'
            · exact (iff.mp isOver).resolve_left lives
          refine ⟨False.elim, fun _ => stop_ne_running _, nofun, ?_, fun _ => events, nofun, ?_⟩
          · rintro _ _ ⟨⟩
            exact isOver
          · rw [broke_cons, breaks]
            exact iff_of_true (Or.inl fails) (Or.inr ⟨nofun, (toldToAbort_some rfl).trans told⟩)
    · -- the loop goes on
      rw [AirPlaySession.afterLoop, if_neg fun h => isOver h.2]
      obtain ⟨same, works⟩ : m'.aborting = m.aborting ∧ ¬ action.FailsCommand := by
        rcases loop with ⟨isOver', -⟩ | ⟨same, iff, -⟩
        · exact absurd isOver' isOver
        · exact ⟨same, fun fails => isOver (iff.mpr (Or.inr fails))⟩
      refine ⟨fun early => absurd early notEarly, kept.late, fun _ => ⟨m', rfl, ?_, isOver⟩, ?_,
        kept.before, kept.ended, ?_⟩
      · rw [same, untold]
      · exact fun elsewhere => absurd stage elsewhere
      · rw [broke_cons, breaks]
        exact iff_of_false (not_or.mpr ⟨works, unbroken⟩) (not_isTornDown alive (Or.inl stage))
  · -- only the heartbeat task is left
    rw [AirPlaySession.afterLoop, if_neg fun h => stage h.1]
    have isOver := kept.closed stage m has
    obtain ⟨same, isOver', works⟩ :
        m'.aborting = m.aborting ∧ m'.stage .main = .finished ∧ ¬ action.FailsCommand := by
      rcases loop with ⟨-, -, lives, -⟩ | ⟨same, iff, lives⟩
      · exact absurd isOver lives
      · exact ⟨same, iff.mpr (Or.inl isOver), fun fails => lives fails isOver⟩
    refine ⟨fun early => absurd early notEarly, kept.late, fun h => absurd h stage, ?_,
      kept.before, kept.ended, ?_⟩
    · rintro _ _ ⟨⟩
      exact isOver'
    · rw [broke_cons, breaks, or_iff_right works, kept.broke, IsTornDown, IsTornDown,
        toldToAbort_some has, toldToAbort_some rfl, same]

theorem of_makes (kept : SessionKept past move.source) (made : airPlaySession.Makes move) :
    SessionKept (move :: past) move.target := by
  obtain ⟨x, action, output, y⟩ := move
  replace kept : SessionKept past x := kept
  have does : SessionDoes x action y output := does_of_session_step made
  cases does with
  | advances early early' works =>
      obtain ⟨notMirroring, notFinished, alive, notLate⟩ := early'.apart
      have none := kept.early early
      refine ⟨fun _ => none, fun late => absurd late notLate, fun h => absurd h notMirroring, ?_,
        fun _ => kept.before early.apart.2.1, fun h => absurd h notFinished, ?_⟩
      · exact fun _ m has => nomatch none.symm.trans has
      · rw [broke_cons_of_works works]
        exact iff_of_false (kept.works early) (not_isTornDown alive (Or.inr none))
  | fails early works =>
      have none := kept.early early
      refine ⟨False.elim, fun _ => stop_ne_running _, nofun, ?_,
        fun _ => kept.before early.apart.2.1, nofun, ?_⟩
      · exact fun _ m has => nomatch none.symm.trans has
      · rw [broke_cons_of_works works]
        exact iff_of_false (kept.works early) (not_isTornDown nofun (Or.inr none))
  | panics early breaks =>
      have none := kept.early early
      refine ⟨False.elim, fun _ => stop_ne_running _, nofun, ?_,
        fun _ => kept.before early.apart.2.1, nofun, ?_⟩
      · exact fun _ m has => nomatch none.symm.trans has
      · exact iff_of_true (broke_cons.mpr (Or.inl breaks)) (Or.inl rfl)
  | readies early =>
      refine ⟨False.elim, False.elim, fun _ => ⟨.start, rfl, rfl, nofun⟩, fun h => absurd rfl h,
        ?_, nofun, ?_⟩
      · intro _ event mem
        rcases List.mem_append.mp mem with mem | mem
        · exact kept.before early.apart.2.1 event mem
        · exact List.mem_singleton.mp mem
      · rw [broke_cons_of_works id]
        exact iff_of_false (kept.works early) (not_isTornDown nofun (Or.inl rfl))
  | mirrors _ has stepped => exact kept.mirrors has stepped rfl
  | polls has _ =>
      exact ⟨kept.early, kept.late, kept.mirroring, kept.closed, kept.before, kept.ended,
        (broke_cons_of_works id).trans kept.broke⟩
  | yields =>
      exact ⟨kept.early, kept.late, kept.mirroring, kept.closed, kept.before, kept.ended,
        (broke_cons_of_works id).trans kept.broke⟩
  | stops stage =>
      have apart : x.stage ≠ .mirroring ∧ x.stage ≠ .finished ∧ x.stage ≠ .panicked := by
        rw [stage]
        exact ⟨nofun, nofun, nofun⟩
      refine ⟨False.elim, fun _ => stop_ne_running _, nofun, fun _ => kept.closed apart.1,
        fun _ => kept.before apart.2.1, nofun, ?_⟩
      rw [broke_cons_of_works id, kept.broke]
      exact isTornDown_congr rfl ⟨apart.2.2, apart.1⟩ ⟨nofun, nofun⟩
  | ends works stage =>
      obtain ⟨notMirroring, notFinished, alive, late⟩ :
          x.stage ≠ .mirroring ∧ x.stage ≠ .finished ∧ x.stage ≠ .panicked ∧ x.stage.Late := by
        rcases stage with stage | ⟨e, stage⟩
        · rw [stage]
          exact ⟨nofun, nofun, nofun, trivial⟩
        · rw [stage]
          exact ⟨nofun, nofun, nofun, trivial⟩
      refine ⟨False.elim, fun _ => kept.late late, nofun, fun _ => kept.closed notMirroring,
        fun h => absurd rfl h, fun _ => ⟨x.events, _, rfl, kept.before notFinished⟩, ?_⟩
      rw [broke_cons_of_works works, kept.broke]
      exact isTornDown_congr rfl ⟨alive, notMirroring⟩ ⟨nofun, nofun⟩

end SessionKept

theorem sessionKept_of_run (run : airPlaySession.Run past x) : SessionKept past x := by
  refine run.invariant_past ?_ fun past move _ made kept => kept.of_makes made
  rintro _ rfl
  exact SessionKept.start

/-- Once the heartbeat task is told to abort, no worker is about it. -/
def Unpolled (x : AirPlaySession) : Prop :=
  ∀ m, x.mirror = some m → m.aborting = true → x.polling = false

theorem Unpolled.of_makes (unpolled : Unpolled move.source)
    (kept : SessionKept past move.source) (made : airPlaySession.Makes move)
    (clear : ¬ TellsPolled move) : Unpolled move.target := by
  obtain ⟨x, action, output, y⟩ := move
  replace unpolled : Unpolled x := unpolled
  replace kept : SessionKept past x := kept
  have does : SessionDoes x action y output := does_of_session_step made
  cases does with
  | advances early _ _ => exact fun m has => nomatch (kept.early early).symm.trans has
  | fails early _ => exact fun m has => nomatch (kept.early early).symm.trans has
  | panics early _ => exact fun m has => nomatch (kept.early early).symm.trans has
  | readies _ =>
      rintro _ ⟨⟩ told
      cases told
  | @mirrors action e m m' packet _ has stepped =>
      by_cases isOver : x.stage = .mirroring ∧ m'.stage .main = .finished
      · rw [TellsPolled] at clear
        rw [AirPlaySession.afterLoop, if_pos isOver] at clear ⊢
        split_ifs at clear ⊢ with told
        · -- the move that tells it: no worker is about the task
          intro _ _ _
          by_contra polling
          exact clear ⟨Bool.not_eq_false _ ▸ polling, isOver.1, rfl⟩
        · rintro _ ⟨⟩ told'
          exact absurd told' told
      · rw [AirPlaySession.afterLoop, if_neg isOver]
        rintro _ ⟨⟩ told
        rcases loop_of_step stepped with ⟨isOver', -, lives, -⟩ | ⟨same, -⟩
        · have elsewhere : x.stage ≠ .mirroring := fun stage => isOver ⟨stage, isOver'⟩
          exact absurd (kept.closed elsewhere m has) lives
        · exact unpolled m has (same.symm.trans told)
  | polls has untold =>
      intro m' has' told
      cases has.symm.trans has'
      exact nomatch untold.symm.trans told
  | yields => exact fun _ _ _ => rfl
  | stops _ => exact unpolled
  | ends _ _ => exact unpolled

theorem unpolled_of_run (run : airPlaySession.Run past x)
    (clear : ∀ move ∈ past, ¬ TellsPolled move) : Unpolled x := by
  have keeps : ∀ past move, airPlaySession.Run past move.source → airPlaySession.Makes move →
      ¬ TellsPolled move → Unpolled move.source → Unpolled move.target :=
    fun past move before made clear unpolled =>
      unpolled.of_makes (sessionKept_of_run before) made clear
  refine run.invariant_past_of_forall ?_ keeps clear
  rintro _ rfl
  exact fun _ => nofun

/-! ## How a session ends -/

/-- An `Ended` was sent at the end only. -/
theorem SessionKept.finished_of_ended (kept : SessionKept past x) {e : Option AirPlayError}
    (mem : .ended e ∈ x.events) : x.stage = .finished := by
  by_contra stage
  exact nomatch kept.before stage _ mem

theorem endsOnce_mem {events : List SessionEvent} (once : EndsOnce events) :
    ∃ e, .ended e ∈ events := by
  obtain ⟨front, e, rfl, -⟩ := once
  exact ⟨e, List.mem_append_right _ (List.mem_singleton_self _)⟩

theorem SessionKept.endsCompletely (kept : SessionKept past x) (works : ¬ Broke past) :
    EndsCompletely x := by
  rw [kept.broke, IsTornDown, not_or] at works
  constructor
  · exact fun e mem => kept.ended (kept.finished_of_ended mem)
  · rintro (stage | stage)
    · exact kept.ended stage
    · exact absurd stage works.1
  · intro e mem
    have stage := kept.finished_of_ended mem
    have told : x.toldToAbort ≠ false := fun untold =>
      works.2 ⟨by rw [stage]; exact nofun, untold⟩
    exact ⟨Bool.eq_true_of_not_eq_false told, kept.late (by rw [stage]; trivial)⟩

/-- A task that was torn down leaves its heartbeat task behind, or ends without an event. -/
theorem SessionKept.works_of_endsCompletely (kept : SessionKept past x)
    (isOver : x.stage = .finished ∨ x.stage = .panicked) (complete : EndsCompletely x) :
    ¬ Broke past := by
  obtain ⟨e, mem⟩ := endsOnce_mem (complete.once isOver)
  have stage := kept.finished_of_ended mem
  rw [kept.broke, isTornDown_iff (by simp [stage]) (by simp [stage]), (complete.told e mem).1]
  exact nofun

theorem noLateHeartbeat_of_run (run : airPlaySession.Run past x) (works : ¬ Broke past)
    (clear : ∀ move ∈ past, ¬ TellsPolled move) : NoLateHeartbeat past := by
  rintro move mem ⟨e, ended⟩ ⟨ntpTimestamp, e', haction⟩
  obtain ⟨⟨earlier, before, sub⟩, made⟩ := run.of_mem mem
  have complete : EndsCompletely move.source :=
    (sessionKept_of_run before).endsCompletely fun ⟨m, hm, breaks⟩ => works ⟨m, sub m hm, breaks⟩
  have unpolled := unpolled_of_run before fun m hm => clear m (sub m hm)
  have stepped : move.source.step move.action = some (move.target, move.output) := made
  rw [haction] at stepped
  -- a packet begins on a worker only
  obtain ⟨m, -, allowed, has, -⟩ := mirrors_of_step stepped
  have told := (toldToAbort_some has).symm.trans (complete.told e ended).1
  exact nomatch (unpolled m has told).symm.trans (allowed.1 rfl)

/-- **How an AirPlay session ends.**  Unless a write of a command fails or the negotiation
panics, a session has sent one `Ended` when it is over, as its last event, and by then has
told the heartbeat task and the NTP server to stop; so that no heartbeat begins any more, if
no worker was about the task.  Otherwise it does not end so. -/
theorem session_ends_iff (run : airPlaySession.Run past x) :
    (¬ Broke past →
        EndsCompletely x ∧ ((∀ move ∈ past, ¬ TellsPolled move) → NoLateHeartbeat past)) ∧
      (x.stage = .finished ∨ x.stage = .panicked → (EndsCompletely x ↔ ¬ Broke past)) := by
  have kept := sessionKept_of_run run
  constructor
  · exact fun works => ⟨kept.endsCompletely works, noLateHeartbeat_of_run run works⟩
  · intro isOver
    exact ⟨kept.works_of_endsCompletely isOver, kept.endsCompletely⟩

end

/-! ## Two sessions -/

/-- A session that is stopped. -/
def stoppedSession : List SessionAction :=
  [.bindNtp (.ok ()), .negotiate (some (.ok ())), .sendReady, .poll, .mirror .tick [], .yield,
    .mirror (.receive .stop) [], .stopNtp, .sendEnded]

set_option maxRecDepth 2000 in
theorem run_stoppedSession :
    airPlaySession.Run (airPlaySession.history stoppedSession .start)
      (airPlaySession.final stoppedSession .start) :=
  .of_actions _ rfl (by decide)

theorem session_ends_iff_for_stopped_session :
    let past := airPlaySession.history stoppedSession .start
    let x := airPlaySession.final stoppedSession .start
    (¬ Broke past →
        EndsCompletely x ∧ ((∀ move ∈ past, ¬ TellsPolled move) → NoLateHeartbeat past)) ∧
      (x.stage = .finished ∨ x.stage = .panicked → (EndsCompletely x ↔ ¬ Broke past)) :=
  session_ends_iff run_stoppedSession

/-- The receiver resets the connection while a frame is written. -/
def resetSession : List SessionAction :=
  [.bindNtp (.ok ()), .negotiate (some (.ok ())), .sendReady,
    .mirror (.receive (.sendVideoFrame [1])) [], .mirror (.lock .main 0) [],
    .mirror (.writeFails .main 0) "Failed to write header: Broken pipe (os error 32)".toList,
    .report, .poll, .mirror .tick [], .mirror (.lock .heartbeat 0) []]

set_option maxRecDepth 2000 in
/-- A session whose frame cannot be written ends with its heartbeat task at work. -/
theorem session_ends_without_abort :
    ∃ past x, airPlaySession.Run past x ∧ x.stage = .finished ∧ EndsOnce x.events ∧
      x.toldToAbort = false ∧ ¬ EndsCompletely x ∧ ¬ NoLateHeartbeat past := by
  let past := airPlaySession.history resetSession .start
  let x := airPlaySession.final resetSession .start
  have run : airPlaySession.Run past x := .of_actions _ rfl (by decide)
  have untold : x.toldToAbort = false := by decide
  refine ⟨past, x, run, rfl, ⟨[.ready], _, rfl, by simp⟩, untold, ?_, ?_⟩
  · intro complete
    exact nomatch untold.symm.trans (complete.told _ (List.mem_of_getElem? (i := 1) rfl)).1
  · intro quiet
    exact quiet _ List.mem_cons_self ⟨_, List.mem_of_getElem? (i := 1) rfl⟩ ⟨0, [], rfl⟩

end OpenPlay.Airplay
