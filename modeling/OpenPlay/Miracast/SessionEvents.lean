import OpenPlay.Foundation.System
import OpenPlay.Miracast.ControlChannel

/-!
# The events of a Miracast session

The task that `MiracastSession::start` of `openplay-miracast`'s `session.rs` spawns: a select
between `run_session` and the shutdown.  What the sink sends during the negotiation is any
script of readings, and what it sends behind it comes in the actions.

When a branch of the select is over, the future of the other is dropped before the first goes
on.  `run_session` awaits nothing behind its own `Ended`, so the select takes it as over then.

`session_events_in_order` is what the task sends and writes, wherever it is stopped.
-/

namespace OpenPlay.Miracast

open Transition
open Dialogue (Event sayings)

/-! ## The code -/

/-- `KEEPALIVE_INTERVAL`, in milliseconds. -/
def keepaliveInterval : Nat := 30000 / 3

/-- The errors of a session: `Connection`, and those of its control connection. -/
inductive SessionError
  | connection (e : List Char)
  | control (e : MiracastError)
deriving DecidableEq, Repr

inductive SessionEvent (Addr : Type)
  | ready (width height fps : UInt32) (rtpPort : UInt16) (sinkAddr : Addr)
  | ended (e : Option SessionError)

/-- The `Ready` with the values of a negotiation. -/
def WfdNegotiationResult.readyEvent {Addr : Type} (result : WfdNegotiationResult Addr) :
    SessionEvent Addr :=
  .ready result.width result.height result.fps result.rtpPort result.sinkAddr

/-- Where the task is. -/
inductive TaskStage (Addr : Type)
  | connecting
  /-- In `negotiate`, with what is still to be said and heard in it, and what it returns. -/
  | negotiating (todo : List (Event (List Char) Reading))
      (result : Except MiracastError (WfdNegotiationResult Addr))
  | sendingReady (result : WfdNegotiationResult Addr)
  | serving (l : ControlLoop)
  | sendingEnded
  /-- `run_session` has returned an error. -/
  | reporting (e : SessionError)
  /-- The shutdown was taken. -/
  | shuttingDown
  | finished

/-- The task and the session that it belongs to.  `unwritten` is what `write_all` has still to
write, `sent` are the bytes that were written on the connection. -/
structure SessionTask (Addr : Type) where
  stage : TaskStage Addr
  unwritten : List UInt8
  sent : List UInt8
  events : List (SessionEvent Addr)
  /-- The session has not been dropped, -/
  session : Bool
  /-- it has still its `shutdown_tx`, -/
  shutdownTx : Bool
  /-- and it has used it. -/
  shutdown : Bool

inductive TaskAction
  | connect (result : Except (List Char) Unit)
  /-- The next message of the negotiation is taken up, or it returns. -/
  | negotiate
  /-- The socket takes `n` bytes. -/
  | write (n : Nat)
  /-- The socket takes `n` bytes and fails; `e` names the message, and says why. -/
  | writeFails (n : Nat) (e : List Char)
  | sendReady
  | serve (event : ControlEvent)
  | serveReturns
  | sendEnded
  | report
  | takeShutdown
  | reportShutdown
  | stop
  | drop
deriving DecidableEq

/-- `run_session` is one of the futures of the select. -/
def TaskStage.isRunning {Addr : Type} : TaskStage Addr → Bool
  | connecting | negotiating _ _ | sendingReady _ | serving _ | sendingEnded => true
  | reporting _ | shuttingDown | finished => false

namespace SessionTask

variable {Addr : Type}

def start : SessionTask Addr where
  stage := .connecting
  unwritten := []
  sent := []
  events := []
  session := true
  shutdownTx := true
  shutdown := false

/-- Both futures are gone, and the connection with them. -/
def leave (x : SessionTask Addr) (stage : TaskStage Addr) : SessionTask Addr :=
  { x with stage := stage, unwritten := [] }

/-- The negotiation is before the task. -/
def connected (sinkAddr : Addr) (incoming : List Reading) (x : SessionTask Addr) :
    SessionTask Addr :=
  let out := negotiation sinkAddr WfdVideoFormats.default incoming
  { x with stage := .negotiating out.2.log out.1 }

/-- A message is handed to `write_all`. -/
def say (x : SessionTask Addr) (msg : List Char) : SessionTask Addr :=
  { x with unwritten := Utf8.encode msg }

def emit (x : SessionTask Addr) (event : SessionEvent Addr) : SessionTask Addr :=
  { x with events := x.events ++ [event] }

/-- `MiracastSession::stop`. -/
def stop (x : SessionTask Addr) : SessionTask Addr :=
  if x.shutdownTx then { x with shutdownTx := false, shutdown := true } else x

/-- A turn of the loop, with the answer that it writes. -/
def turn (x : SessionTask Addr) (l : ControlLoop) (event : ControlEvent) : SessionTask Addr :=
  let next := l.turn keepaliveInterval event
  { x with stage := .serving next }.say (next.written.drop l.written.length).flatten

/-- A step. -/
def step (sinkAddr : Addr) (incoming : List Reading) (x : SessionTask Addr) :
    TaskAction → Option (SessionTask Addr)
  | .connect result =>
      match x.stage, result with
      | .connecting, .ok () => some (x.connected sinkAddr incoming)
      | .connecting, .error e => some (x.leave (.reporting (.connection e)))
      | _, _ => none
  | .negotiate =>
      match x.stage, x.unwritten with
      | .negotiating (.said msg :: todo) result, [] =>
          some ({ x with stage := .negotiating todo result }.say msg)
      | .negotiating (.heard _ :: todo) result, [] =>
          some { x with stage := .negotiating todo result }
      | .negotiating [] (.ok result), [] => some { x with stage := .sendingReady result }
      | .negotiating [] (.error e), [] => some (x.leave (.reporting (.control e)))
      | _, _ => none
  | .write n =>
      if 0 < n ∧ n ≤ x.unwritten.length then
        some { x with unwritten := x.unwritten.drop n, sent := x.sent ++ x.unwritten.take n }
      else none
  | .writeFails n e =>
      if x.unwritten ≠ [] ∧ n ≤ x.unwritten.length then
        let left := x.leave (.reporting (.control (.rtsp ("Send ".toList ++ e))))
        some { left with sent := x.sent ++ x.unwritten.take n }
      else none
  | .sendReady =>
      match x.stage with
      | .sendingReady result =>
          let out := negotiation sinkAddr WfdVideoFormats.default incoming
          some { x.emit result.readyEvent with stage := .serving (.start out.2.own) }
      | _ => none
  | .serve event =>
      match x.stage, x.unwritten with
      | .serving l, [] => if l.exit.isNone then some (x.turn l event) else none
      | _, _ => none
  | .serveReturns =>
      match x.stage, x.unwritten with
      | .serving l, [] =>
          match l.exit with
          | some (.ok ()) => some { x with stage := .sendingEnded }
          | some (.error e) => some (x.leave (.reporting (.control e)))
          | none => none
      | _, _ => none
  | .sendEnded =>
      match x.stage with
      | .sendingEnded => some ((x.emit (.ended none)).leave .finished)
      | _ => none
  | .report =>
      match x.stage with
      | .reporting e => some ((x.emit (.ended (some e))).leave .finished)
      | _ => none
  | .takeShutdown =>
      if x.shutdown = true ∧ x.stage.isRunning = true then some (x.leave .shuttingDown) else none
  | .reportShutdown =>
      match x.stage with
      | .shuttingDown => some ((x.emit (.ended none)).leave .finished)
      | _ => none
  | .stop => if x.session then some x.stop else none
  | .drop => if x.session then some { x.stop with session := false } else none

end SessionTask

def sessionTask {Addr : Type} (sinkAddr : Addr) (incoming : List Reading) :
    System (SessionTask Addr) TaskAction Unit where
  init x := x = .start
  step x action := (x.step sinkAddr incoming action).map fun y => (y, ())

abbrev TaskMove (Addr : Type) := Move (SessionTask Addr) TaskAction Unit

/-! ## Events in order -/

section

variable {Addr : Type} (sinkAddr : Addr) (incoming : List Reading)

/-- The bytes of what is said in a log. -/
def spoken (log : List (Event (List Char) Reading)) : List UInt8 :=
  (sayings log).flatMap Utf8.encode

/-- The one event is the `Ready` with what a negotiation has returned that was written in
whole. -/
def IsAnnounced (events : List (SessionEvent Addr)) (sent : List UInt8) : Prop :=
  ∃ result, (negotiation sinkAddr WfdVideoFormats.default incoming).1 = .ok result ∧
    events = [result.readyEvent] ∧
    spoken (negotiation sinkAddr WfdVideoFormats.default incoming).2.log <+: sent

def SessionEvent.IsEnded : SessionEvent Addr → Prop
  | ready _ _ _ _ _ => False
  | ended _ => True

/-- At most one `Ready`, then at most one `Ended`, and there is one when the task is over;
behind it nothing is sent or written. -/
structure EventsInOrder (past : List (TaskMove Addr)) (x : SessionTask Addr) : Prop where
  shape : ∃ readies ends, x.events = readies ++ ends ∧
    (readies = [] ∨ IsAnnounced sinkAddr incoming readies x.sent) ∧
    (ends = [] ∨ ∃ e, ends = [.ended e])
  once : x.stage = .finished → ∃ event ∈ x.events, event.IsEnded
  quiet : ∀ move ∈ past, (∃ event ∈ move.source.events, event.IsEnded) →
    move.target.events = move.source.events ∧ move.target.sent = move.source.sent

/-! ## One step -/

variable {sinkAddr incoming} {x y : SessionTask Addr} {action : TaskAction}

/-- What a step does. -/
inductive TaskDoes (sinkAddr : Addr) (incoming : List Reading) (x : SessionTask Addr) :
    SessionTask Addr → Prop
  | connects (stage : x.stage = .connecting) :
      TaskDoes sinkAddr incoming x (x.connected sinkAddr incoming)
  | speaks {msg todo result} (stage : x.stage = .negotiating (.said msg :: todo) result)
      (written : x.unwritten = []) :
      TaskDoes sinkAddr incoming x ({ x with stage := .negotiating todo result }.say msg)
  | hears {r todo result} (stage : x.stage = .negotiating (.heard r :: todo) result)
      (written : x.unwritten = []) :
      TaskDoes sinkAddr incoming x { x with stage := .negotiating todo result }
  | agrees {result} (stage : x.stage = .negotiating [] (.ok result))
      (written : x.unwritten = []) :
      TaskDoes sinkAddr incoming x { x with stage := .sendingReady result }
  | writes {n} (writing : x.unwritten ≠ []) :
      TaskDoes sinkAddr incoming x
        { x with unwritten := x.unwritten.drop n, sent := x.sent ++ x.unwritten.take n }
  | breaks {n e} (writing : x.unwritten ≠ []) :
      TaskDoes sinkAddr incoming x
        { x.leave (.reporting e) with sent := x.sent ++ x.unwritten.take n }
  | readies {result cseq} (stage : x.stage = .sendingReady result) :
      TaskDoes sinkAddr incoming x
        { x.emit result.readyEvent with stage := .serving (.start cseq) }
  | turns {l event} (stage : x.stage = .serving l) :
      TaskDoes sinkAddr incoming x (x.turn l event)
  | returns {l} (stage : x.stage = .serving l) :
      TaskDoes sinkAddr incoming x { x with stage := .sendingEnded }
  | leaves {stage} (running : x.stage.isRunning = true)
      (left : stage = .shuttingDown ∨ ∃ e, stage = .reporting e) :
      TaskDoes sinkAddr incoming x (x.leave stage)
  | ends {e} (stage : x.stage = .sendingEnded ∨ x.stage = .shuttingDown ∨
      ∃ e, x.stage = .reporting e) :
      TaskDoes sinkAddr incoming x ((x.emit (.ended e)).leave .finished)
  | calls {session shutdownTx shutdown} :
      TaskDoes sinkAddr incoming x
        { x with session := session, shutdownTx := shutdownTx, shutdown := shutdown }

theorem does_of_task_step (stepped : x.step sinkAddr incoming action = some y) :
    TaskDoes sinkAddr incoming x y := by
  have stops : ∃ shutdownTx shutdown,
      x.stop = { x with shutdownTx := shutdownTx, shutdown := shutdown } := by
    unfold SessionTask.stop
    split
    · exact ⟨_, _, rfl⟩
    · exact ⟨x.shutdownTx, x.shutdown, rfl⟩
  unfold SessionTask.step at stepped
  split at stepped
  · -- connect
    split at stepped
    · cases stepped
      exact .connects ‹_›
    · cases stepped
      exact .leaves (by simp [*, TaskStage.isRunning]) (Or.inr ⟨_, rfl⟩)
    · cases stepped
  · -- negotiate
    split at stepped
    · cases stepped
      exact .speaks ‹_› ‹_›
    · cases stepped
      exact .hears ‹_› ‹_›
    · cases stepped
      exact .agrees ‹_› ‹_›
    · cases stepped
      exact .leaves (by simp [*, TaskStage.isRunning]) (Or.inr ⟨_, rfl⟩)
    · cases stepped
  · -- write
    split_ifs at stepped with ok
    cases stepped
    refine .writes fun nil => ?_
    rw [nil, List.length_nil] at ok
    omega
  · -- writeFails
    split_ifs at stepped with ok
    cases stepped
    exact .breaks ok.1
  · -- sendReady
    split at stepped
    · cases stepped
      exact .readies ‹_›
    · cases stepped
  · -- serve
    split at stepped
    · split_ifs at stepped
      cases stepped
      exact .turns ‹_›
    · cases stepped
  · -- serveReturns
    split at stepped
    · split at stepped
      · cases stepped
        exact .returns ‹_›
      · cases stepped
        exact .leaves (by simp [*, TaskStage.isRunning]) (Or.inr ⟨_, rfl⟩)
      · cases stepped
    · cases stepped
  · -- sendEnded
    split at stepped
    · cases stepped
      exact .ends (Or.inl ‹_›)
    · cases stepped
  · -- report
    split at stepped
    · cases stepped
      exact .ends (Or.inr (Or.inr ⟨_, ‹_›⟩))
    · cases stepped
  · -- takeShutdown
    split_ifs at stepped with ok
    cases stepped
    exact .leaves ok.2 (Or.inl rfl)
  · -- reportShutdown
    split at stepped
    · cases stepped
      exact .ends (Or.inr (Or.inl ‹_›))
    · cases stepped
  · -- stop
    obtain ⟨shutdownTx, shutdown, stops⟩ := stops
    split_ifs at stepped
    cases stepped
    rw [stops]
    exact .calls
  · -- drop
    obtain ⟨shutdownTx, shutdown, stops⟩ := stops
    split_ifs at stepped
    cases stepped
    rw [stops]
    exact .calls

/-- What a task keeps, stage by stage. -/
def Sound (sinkAddr : Addr) (incoming : List Reading) (x : SessionTask Addr) : Prop :=
  let out := negotiation sinkAddr WfdVideoFormats.default incoming
  match x.stage with
  | .connecting => x.events = [] ∧ x.sent = [] ∧ x.unwritten = []
  | .negotiating todo result =>
      x.events = [] ∧ result = out.1 ∧
        ∃ done, out.2.log = done ++ todo ∧ x.sent ++ x.unwritten = spoken done
  | .sendingReady result =>
      x.events = [] ∧ out.1 = .ok result ∧ x.sent = spoken out.2.log ∧ x.unwritten = []
  | .serving _ | .sendingEnded => IsAnnounced sinkAddr incoming x.events x.sent
  | .reporting _ | .shuttingDown =>
      (x.events = [] ∨ IsAnnounced sinkAddr incoming x.events x.sent) ∧ x.unwritten = []
  | .finished =>
      (∃ before e, x.events = before ++ [.ended e] ∧
        (before = [] ∨ IsAnnounced sinkAddr incoming before x.sent)) ∧ x.unwritten = []

theorem spoken_concat_said (log : List (Event (List Char) Reading)) (msg : List Char) :
    spoken (log ++ [.said msg]) = spoken log ++ Utf8.encode msg := by
  simp [spoken, sayings]

theorem spoken_concat_heard (log : List (Event (List Char) Reading)) (r : Reading) :
    spoken (log ++ [.heard r]) = spoken log := by
  simp [spoken, sayings]

theorem IsAnnounced.append {events : List (SessionEvent Addr)} {sent : List UInt8}
    (announced : IsAnnounced sinkAddr incoming events sent) (more : List UInt8) :
    IsAnnounced sinkAddr incoming events (sent ++ more) := by
  obtain ⟨result, ok, rfl, before⟩ := announced
  exact ⟨result, ok, rfl, before.trans (List.prefix_append sent more)⟩

/-- Behind the `Ready` nothing more is kept. -/
theorem sound_iff_announced (stage : x.stage = .sendingEnded ∨ ∃ l, x.stage = .serving l) :
    Sound sinkAddr incoming x ↔ IsAnnounced sinkAddr incoming x.events x.sent := by
  rcases stage with stage | ⟨l, stage⟩
  · rw [Sound, stage]
  · rw [Sound, stage]

namespace Sound

/-- There is at most a `Ready` as long as the task has not come to its end. -/
theorem announced (sound : Sound sinkAddr incoming x) (running : x.stage ≠ .finished) :
    x.events = [] ∨ IsAnnounced sinkAddr incoming x.events x.sent := by
  cases stage : x.stage with
  | connecting | negotiating | sendingReady =>
      rw [Sound, stage] at sound
      exact Or.inl sound.1
  | serving | sendingEnded =>
      rw [Sound, stage] at sound
      exact Or.inr sound
  | reporting | shuttingDown =>
      rw [Sound, stage] at sound
      exact sound.1
  | finished => exact absurd stage running

/-- Only what is said in the negotiation or on the control channel is written. -/
theorem writing (sound : Sound sinkAddr incoming x) (writing : x.unwritten ≠ []) :
    (∃ todo result, x.stage = .negotiating todo result) ∨
      x.stage = .sendingEnded ∨ ∃ l, x.stage = .serving l := by
  cases stage : x.stage with
  | negotiating todo result => exact Or.inl ⟨todo, result, rfl⟩
  | sendingEnded => exact Or.inr (Or.inl rfl)
  | serving l => exact Or.inr (Or.inr ⟨l, rfl⟩)
  | connecting | sendingReady | reporting | shuttingDown | finished =>
      rw [Sound, stage] at sound
      simp [writing] at sound

theorem of_does (sound : Sound sinkAddr incoming x) (does : TaskDoes sinkAddr incoming x y) :
    Sound sinkAddr incoming y := by
  cases does with
  | connects stage =>
      rw [Sound, stage] at sound
      obtain ⟨none, unsent, written⟩ := sound
      refine ⟨none, rfl, [], rfl, ?_⟩
      show x.sent ++ x.unwritten = []
      rw [unsent, written, List.append_nil]
  | @speaks msg todo result stage written =>
      rw [Sound, stage] at sound
      obtain ⟨none, same, done, log, sent⟩ := sound
      -- the message is on its way
      refine ⟨none, same, done ++ [.said msg], ?_, ?_⟩
      · rw [log, List.append_assoc]
        rfl
      · show x.sent ++ Utf8.encode msg = _
        rw [spoken_concat_said, ← sent, written, List.append_nil]
  | @hears r todo result stage written =>
      rw [Sound, stage] at sound
      obtain ⟨none, same, done, log, sent⟩ := sound
      refine ⟨none, same, done ++ [.heard r], ?_, ?_⟩
      · rw [log, List.append_assoc]
        rfl
      · rw [spoken_concat_heard]
        exact sent
  | @agrees result stage written =>
      rw [Sound, stage] at sound
      obtain ⟨none, same, done, log, sent⟩ := sound
      -- nothing is left of the negotiation, and all of it is written
      rw [written, List.append_nil] at sent
      rw [List.append_nil] at log
      refine ⟨none, same.symm, ?_, written⟩
      rw [log]
      exact sent
  | @writes n writing =>
      rcases sound.writing writing with ⟨todo, result, stage⟩ | stage
      · rw [Sound, stage] at sound
        obtain ⟨none, same, done, log, sent⟩ := sound
        rw [Sound]
        simp only [stage]
        refine ⟨none, same, done, log, ?_⟩
        rw [List.append_assoc, List.take_append_drop]
        exact sent
      · have announced := (sound_iff_announced stage).mp sound
        refine (sound_iff_announced ?_).mpr (announced.append _)
        exact stage
  | @breaks n e writing =>
      -- a part of the message may have been written
      have running : x.stage ≠ .finished := by
        rcases sound.writing writing with ⟨todo, result, stage⟩ | stage | ⟨l, stage⟩
        all_goals rw [stage]; exact nofun
      refine ⟨?_, rfl⟩
      rcases sound.announced running with none | announced
      · exact Or.inl none
      · exact Or.inr (announced.append _)
  | @readies result cseq stage =>
      rw [Sound, stage] at sound
      obtain ⟨none, ok, sent, -⟩ := sound
      refine ⟨result, ok, ?_, ?_⟩
      · show x.events ++ [result.readyEvent] = _
        rw [none, List.nil_append]
      · rw [← sent]
        exact List.prefix_rfl
  | turns stage => exact (sound_iff_announced (Or.inr ⟨_, stage⟩)).mp sound
  | returns stage => exact (sound_iff_announced (Or.inr ⟨_, stage⟩)).mp sound
  | leaves running left =>
      have announced := sound.announced (by rintro stage; rw [stage] at running; cases running)
      rcases left with rfl | ⟨e, rfl⟩
      · exact ⟨announced, rfl⟩
      · exact ⟨announced, rfl⟩
  | @ends e stage =>
      have running : x.stage ≠ .finished := by
        rcases stage with stage | stage | ⟨e, stage⟩
        all_goals rw [stage]; exact nofun
      exact ⟨⟨x.events, e, rfl, sound.announced running⟩, rfl⟩
  | calls => exact sound

end Sound

/-! ## Runs -/

variable {past : List (TaskMove Addr)} {move : TaskMove Addr}

theorem taskDoes_of_makes (made : (sessionTask sinkAddr incoming).Makes move) :
    TaskDoes sinkAddr incoming move.source move.target := by
  obtain ⟨y, stepped, same⟩ := Option.map_eq_some_iff.mp made
  rw [Prod.mk.injEq] at same
  rw [← same.1]
  exact does_of_task_step stepped

theorem sound_of_run (run : (sessionTask sinkAddr incoming).Run past x) :
    Sound sinkAddr incoming x := by
  refine run.invariant ?_ fun move made sound => sound.of_does (taskDoes_of_makes made)
  rintro _ rfl
  exact ⟨rfl, rfl, rfl⟩

/-- An `Ended` is sent at the end only. -/
theorem Sound.finished (sound : Sound sinkAddr incoming x)
    (ended : ∃ event ∈ x.events, event.IsEnded) : x.stage = .finished := by
  by_contra running
  obtain ⟨event, mem, isEnded⟩ := ended
  rcases sound.announced running with none | ⟨result, -, one, -⟩
  · rw [none] at mem
    cases mem
  · rw [one, List.mem_singleton] at mem
    rw [mem] at isEnded
    exact isEnded

/-- A task that is over neither sends nor writes. -/
theorem Sound.stays (sound : Sound sinkAddr incoming x) (isOver : x.stage = .finished)
    (does : TaskDoes sinkAddr incoming x y) : y.events = x.events ∧ y.sent = x.sent := by
  have written : x.unwritten = [] := by
    rw [Sound, isOver] at sound
    exact sound.2
  cases does with
  | connects stage | speaks stage | hears stage | agrees stage | readies stage | turns stage
  | returns stage => exact nomatch isOver.symm.trans stage
  | writes writing | breaks writing => exact absurd written writing
  | leaves running =>
      rw [isOver] at running
      cases running
  | ends stage =>
      rw [isOver] at stage
      simp at stage
  | calls => exact ⟨rfl, rfl⟩

theorem Sound.shape (sound : Sound sinkAddr incoming x) :
    ∃ readies ends, x.events = readies ++ ends ∧
      (readies = [] ∨ IsAnnounced sinkAddr incoming readies x.sent) ∧
      (ends = [] ∨ ∃ e, ends = [.ended e]) := by
  by_cases isOver : x.stage = .finished
  · rw [Sound, isOver] at sound
    obtain ⟨⟨before, e, events, announced⟩, -⟩ := sound
    exact ⟨before, [.ended e], events, announced, Or.inr ⟨e, rfl⟩⟩
  · exact ⟨x.events, [], (List.append_nil _).symm, sound.announced isOver, Or.inl rfl⟩

theorem eventsInOrder_of_run (run : (sessionTask sinkAddr incoming).Run past x) :
    EventsInOrder sinkAddr incoming past x := by
  have sound := sound_of_run run
  refine ⟨sound.shape, fun isOver => ?_, fun move mem ended => ?_⟩
  · rw [Sound, isOver] at sound
    obtain ⟨⟨before, e, events, -⟩, -⟩ := sound
    exact ⟨.ended e, by rw [events]; exact List.mem_append_right _ (List.mem_singleton_self _),
      trivial⟩
  · obtain ⟨⟨earlier, before, -⟩, made⟩ := run.of_mem mem
    have sound := sound_of_run before
    exact sound.stays (sound.finished ended) (taskDoes_of_makes made)

/-- A task that has left its select is over with one step at most. -/
theorem finishes_of_left (run : (sessionTask sinkAddr incoming).Run past x)
    (left : x.stage.isRunning = false) :
    ∃ recent y, (sessionTask sinkAddr incoming).Run (recent ++ past) y ∧
      recent.length ≤ 1 ∧ y.stage = .finished := by
  have reports : ∀ action y, x.step sinkAddr incoming action = some y → y.stage = .finished →
      ∃ recent y, (sessionTask sinkAddr incoming).Run (recent ++ past) y ∧
        recent.length ≤ 1 ∧ y.stage = .finished := by
    intro action y stepped isOver
    have made : (sessionTask sinkAddr incoming).Makes ⟨x, action, (), y⟩ :=
      congrArg (Option.map fun y => (y, ())) stepped
    exact ⟨[⟨x, action, (), y⟩], y, .move run made, le_rfl, isOver⟩
  cases stage : x.stage with
  | connecting | negotiating | sendingReady | serving | sendingEnded =>
      rw [stage] at left
      cases left
  | reporting e => exact reports .report _ (by rw [SessionTask.step, stage]) rfl
  | shuttingDown => exact reports .reportShutdown _ (by rw [SessionTask.step, stage]) rfl
  | finished => exact ⟨[], x, run, Nat.zero_le 1, stage⟩

theorem finishes_of_shutdown (run : (sessionTask sinkAddr incoming).Run past x)
    (told : x.shutdown = true) :
    ∃ recent y, (sessionTask sinkAddr incoming).Run (recent ++ past) y ∧
      recent.length ≤ 2 ∧ y.stage = .finished := by
  cases running : x.stage.isRunning with
  | false =>
      obtain ⟨recent, y, later, short, isOver⟩ := finishes_of_left run running
      exact ⟨recent, y, later, Nat.le_succ_of_le short, isOver⟩
  | true =>
      have stepped : x.step sinkAddr incoming .takeShutdown = some (x.leave .shuttingDown) :=
        if_pos ⟨told, running⟩
      have made : (sessionTask sinkAddr incoming).Makes
          ⟨x, .takeShutdown, (), x.leave .shuttingDown⟩ :=
        congrArg (Option.map fun y => (y, ())) stepped
      obtain ⟨recent, y, later, short, isOver⟩ := finishes_of_left (.move run made) rfl
      refine ⟨recent ++ [⟨x, .takeShutdown, (), x.leave .shuttingDown⟩], y, ?_, ?_, isOver⟩
      · rw [List.append_assoc]
        exact later
      · rw [List.length_append]
        exact Nat.succ_le_succ short

/-- **The events of a Miracast session are in order.**  Wherever the task is stopped and
whatever comes of its connection, it sends at most one `Ready`, with the values of the
negotiation that was written in whole, then exactly one `Ended` when it is over, and behind
it sends and writes nothing.  A task that was told to stop can be over within two steps. -/
theorem session_events_in_order (run : (sessionTask sinkAddr incoming).Run past x) :
    EventsInOrder sinkAddr incoming past x ∧
      (x.shutdown = true → ∃ recent y, (sessionTask sinkAddr incoming).Run (recent ++ past) y ∧
        recent.length ≤ 2 ∧ y.stage = .finished) :=
  ⟨eventsInOrder_of_run run, finishes_of_shutdown run⟩

end

/-! ### A session that is stopped -/

/-- It is stopped twice while it connects, and dropped at its end. -/
def stoppedTask : List TaskAction :=
  [.stop, .stop, .connect (.ok ()), .takeShutdown, .reportShutdown, .drop]

theorem session_events_in_order_for_stopped_task :
    let past := (sessionTask () []).history stoppedTask .start
    let x := (sessionTask () []).final stoppedTask .start
    EventsInOrder () [] past x ∧
      (x.shutdown = true → ∃ recent y, (sessionTask () []).Run (recent ++ past) y ∧
        recent.length ≤ 2 ∧ y.stage = .finished) :=
  session_events_in_order (.of_actions _ rfl (by decide))

end OpenPlay.Miracast
