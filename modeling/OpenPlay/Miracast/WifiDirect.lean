import OpenPlay.Common.Net
import OpenPlay.Foundation.System

/-!
# A Wi-Fi Direct session and its group

`run_wifi_direct_session` of `openplay-miracast`, from await point to await point, with
what wpa_supplicant does meanwhile.  `stop()` drops the session at any of them, and the
group is taken down by `P2PGroupGuard`, which exists from the moment that `GroupFormed`
has been taken off the event channel.

The manager holds a sender of that channel, so the channel is never closed while the
session waits for its events.  A `Disconnect` that is asked for is issued.

* `WifiSession.IsClean`: no group of this session stands when everything is over
* `clean_iff`: when that is so in a whole run
-/

namespace OpenPlay.Miracast

open Transition

/-! ## Events -/

structure P2PGroupInfo where
  interfaceName : String
  peerIp : IpAddr
deriving DecidableEq

inductive WifiDirectEvent
  | peerFound (deviceAddress : List Char)
  | peerLost (deviceAddress : List Char)
  | groupFormed (info : P2PGroupInfo)
  | groupRemoved
  | error (e : String)
deriving DecidableEq

/-- `IpAddr::is_unspecified`. -/
def isUnspecified : IpAddr → Bool
  | .v4 ip => ip == .unspecified
  | .v6 ip => ip.segments.toList.all (· == 0)

/-- `str::eq_ignore_ascii_case`. -/
def eqIgnoreAsciiCase (a b : List Char) : Bool := a.map Char.toLower == b.map Char.toLower

/-! ## The session -/

/-- Where the session waits once there is a guard. -/
inductive Guarded
  | resolving (group : P2PGroupInfo)
  | binding (peerIp : IpAddr)
  | accepting (peerIp : IpAddr)
  | connectingBack (peerIp : IpAddr)
  | negotiating (sink : IpAddr)
  | sendingReady
  | serving
  | sendingEnded
deriving DecidableEq

/-- Where `run_wifi_direct_session` waits.  The flags tell whether the call to
wpa_supplicant has been issued, so that its reply is waited for. -/
inductive Stage
  | starting
  | discovering
  | connecting (issued : Bool)
  | forming
  | disconnecting (e : String) (issued : Bool)
  | guarded (stage : Guarded)
  /-- It has returned, or was dropped (`none`). -/
  | ended (outcome : Option (Except String Unit))

/-- There is a `P2PGroupGuard`. -/
def Stage.hasGuard : Stage → Bool
  | guarded _ => true
  | _ => false

def Stage.isEnded : Stage → Bool
  | ended _ => true
  | _ => false

/-- A group that has formed for the `Connect` of the session: whether a `Disconnect` was
issued since, and whether its removal was reported. -/
structure Group where
  disconnected : Bool
  removed : Bool
deriving DecidableEq

structure WifiSession where
  peerAddress : List Char
  rtspPort : UInt16
  stage : Stage
  /-- The events that the session has not yet received. -/
  queue : List WifiDirectEvent
  /-- `Connect` was issued, and not refused. -/
  connectIssued : Bool
  group : Option Group
  /-- Teardown tasks that have not yet run. -/
  tasks : Nat

/-- What comes of an await of a guarded stage. -/
inductive GuardedResult
  | resolved (result : Except String IpAddr)
  | bound (result : Except String Unit)
  | accepted (result : Except String IpAddr)
  | acceptTimedOut
  | connected (result : Except String Unit)
  | negotiated (result : Except String Unit)
  | sent
  | served (result : Except String Unit)

inductive WifiAction
  /-- `start_for_connect` returns. -/
  | started (result : Except String Unit)
  /-- The session receives an event. -/
  | receive
  /-- Fifteen seconds of discovery are over. -/
  | discoveryOver
  | issueConnect
  | connectFails (e : String)
  | connectReplies
  /-- Sixty seconds of waiting for a group are over. -/
  | formationTimesOut
  | issueDisconnect
  | disconnectReplies
  | guardedGoesOn (result : GuardedResult)
  /-- `stop()`, or the session is dropped. -/
  | stop
  /-- A teardown task runs. -/
  | runTask
  /-- A group forms for the `Connect` of this session. -/
  | form
  /-- wpa_supplicant reports that this group is gone. -/
  | remove
  /-- wpa_supplicant reports anything else. -/
  | report (event : WifiDirectEvent)

namespace Guarded

/-- Steps 5 to 8, once `result` is there: the next await, or the value returned. -/
def next (rtspPort : UInt16) : Guarded → GuardedResult → Option (Guarded ⊕ Except String Unit)
  | resolving _, .resolved (.ok ip) => some (.inl (binding ip))
  | resolving _, .resolved (.error e) =>
      some (.inr (.error ("Failed to resolve peer IP: " ++ e)))
  | binding ip, .bound (.ok ()) => some (.inl (accepting ip))
  | binding _, .bound (.error e) =>
      some (.inr (.error s!"RTSP listen on 0.0.0.0:{rtspPort} failed: {e}"))
  | accepting _, .accepted (.ok ip) => some (.inl (negotiating ip))
  | accepting _, .accepted (.error e) => some (.inr (.error ("Accept failed: " ++ e)))
  | accepting ip, .acceptTimedOut => some (.inl (connectingBack ip))
  | connectingBack ip, .connected (.ok ()) => some (.inl (negotiating ip))
  | connectingBack _, .connected (.error e) =>
      some (.inr (.error ("Both listen and connect failed. Connect error: " ++ e)))
  | negotiating _, .negotiated (.ok ()) => some (.inl sendingReady)
  | negotiating _, .negotiated (.error e) => some (.inr (.error e))
  | sendingReady, .sent => some (.inl serving)
  | serving, .served (.ok ()) => some (.inl sendingEnded)
  | serving, .served (.error e) => some (.inr (.error e))
  | sendingEnded, .sent => some (.inr (.ok ()))
  | _, _ => none

/-- The first await behind the guard. -/
def first (info : P2PGroupInfo) : Guarded :=
  if isUnspecified info.peerIp then resolving info else binding info.peerIp

end Guarded

namespace WifiSession

def start (peerAddress : List Char) (rtspPort : UInt16) : WifiSession :=
  ⟨peerAddress, rtspPort, .starting, [], false, none, 0⟩

/-- The session function is over; a guard that is dropped spawns a teardown task. -/
def finish (x : WifiSession) (outcome : Option (Except String Unit)) : WifiSession :=
  { x with stage := .ended outcome, tasks := x.tasks + x.stage.hasGuard.toNat }

/-- `Disconnect` is issued. -/
def disconnect (x : WifiSession) : WifiSession :=
  { x with group := x.group.map fun g => { g with disconnected := true } }

/-- What an event does to the session that receives it. -/
def receive (x : WifiSession) (event : WifiDirectEvent) : Option WifiSession :=
  match x.stage with
  | .discovering =>
      match event with
      | .peerFound address =>
          if eqIgnoreAsciiCase address x.peerAddress then
            some { x with stage := .connecting false }
          else some x
      | _ => some x
  | .forming =>
      match event with
      | .groupFormed info => some { x with stage := .guarded (.first info) }
      | .error e => some { x with stage := .disconnecting e false }
      | .groupRemoved => some (x.finish (some (.error "P2P group removed before session started")))
      | _ => some x
  | _ => none

/-- What the session does when `action` happens. -/
def next (x : WifiSession) (action : WifiAction) : Option WifiSession :=
  match action with
  | .started result =>
      match x.stage, result with
      | .starting, .ok () => some { x with stage := .discovering }
      | .starting, .error e =>
          some (x.finish (some (.error ("Failed to start P2P manager: " ++ e))))
      | _, _ => none
  | .receive =>
      match x.queue with
      | [] => none
      | event :: rest => ({ x with queue := rest } : WifiSession).receive event
  | .discoveryOver =>
      match x.stage with
      | .discovering => some { x with stage := .connecting false }
      | _ => none
  | .issueConnect =>
      match x.stage with
      | .connecting false => some { x with stage := .connecting true, connectIssued := true }
      | _ => none
  | .connectFails e =>
      match x.stage with
      | .connecting _ =>
          -- a `Connect` that is refused forms no group
          if x.group.isSome then none
          else some (({ x with connectIssued := false } : WifiSession).finish
            (some (.error ("P2P Connect failed: " ++ e))))
      | _ => none
  | .connectReplies =>
      match x.stage with
      | .connecting true => some { x with stage := .forming }
      | _ => none
  | .formationTimesOut =>
      match x.stage with
      | .forming =>
          some (x.finish (some (.error "Timeout (60s) waiting for P2P group formation")))
      | _ => none
  | .issueDisconnect =>
      match x.stage with
      | .disconnecting e false => some { x.disconnect with stage := .disconnecting e true }
      | _ => none
  | .disconnectReplies =>
      match x.stage with
      | .disconnecting e true =>
          some (x.finish (some (.error ("P2P group formation failed: " ++ e))))
      | _ => none
  | .guardedGoesOn result =>
      match x.stage with
      | .guarded stage =>
          (stage.next x.rtspPort result).map fun
            | Sum.inl stage => { x with stage := .guarded stage }
            | Sum.inr outcome => x.finish (some outcome)
      | _ => none
  | .stop => if x.stage.isEnded then none else some (x.finish none)
  | .runTask => if x.tasks = 0 then none else some { x.disconnect with tasks := x.tasks - 1 }
  | .form =>
      if x.connectIssued ∧ x.group = none then some { x with group := some ⟨false, false⟩ }
      else none
  | .remove =>
      x.group.bind fun g =>
        if g.removed then none
        else some { x with
          group := some { g with removed := true }, queue := x.queue ++ [.groupRemoved] }
  | .report event => some { x with queue := x.queue ++ [event] }

def step (x : WifiSession) (action : WifiAction) : Option (WifiSession × Unit) :=
  (x.next action).map fun y => (y, ())

end WifiSession

def wifiSession : System WifiSession WifiAction Unit where
  init x := ∃ peerAddress rtspPort, x = .start peerAddress rtspPort
  step := WifiSession.step

abbrev WifiMove := Move WifiSession WifiAction Unit

/-! ## What a step does -/

namespace WifiSession

variable {x y : WifiSession} {action : WifiAction}

/-- What a step is to the group and its guard. -/
inductive Does (x : WifiSession) (action : WifiAction) (y : WifiSession) : Prop
  /-- The session goes on, or receives nothing more. -/
  | goesOn (not : action ≠ .form) (ended : y.stage.isEnded = x.stage.isEnded)
      (group : y.group = x.group) (tasks : y.tasks = x.tasks)
  | ends {outcome : Option (Except String Unit)} (not : action ≠ .form)
      (running : x.stage.isEnded = false) (stage : y.stage = .ended outcome)
      (group : y.group = x.group) (tasks : y.tasks = x.tasks + x.stage.hasGuard.toNat)
  | disconnects (not : action ≠ .form) (ended : y.stage.isEnded = x.stage.isEnded)
      (group : y.group = x.disconnect.group)
      (tasks : y.tasks = x.tasks ∨ y.tasks + 1 = x.tasks)
  | forms (is : action = .form) (ended : y.stage.isEnded = x.stage.isEnded)
      (before : x.group = none) (group : y.group = some ⟨false, false⟩)
      (tasks : y.tasks = x.tasks)
  | removes {g : Group} (not : action ≠ .form) (ended : y.stage.isEnded = x.stage.isEnded)
      (before : x.group = some g) (group : y.group = some { g with removed := true })
      (tasks : y.tasks = x.tasks)

theorem finish_does {outcome : Option (Except String Unit)} (not : action ≠ .form)
    (running : x.stage.isEnded = false) : Does x action (x.finish outcome) :=
  .ends not running rfl rfl rfl

theorem receive_does {event : WifiDirectEvent} (h : x.receive event = some y) :
    Does x .receive y := by
  unfold receive at h
  split at h
  · rename_i stage
    split at h
    · split_ifs at h
      · cases h
        exact .goesOn nofun (by rw [stage]; rfl) rfl rfl
      · cases h
        exact .goesOn nofun rfl rfl rfl
    · cases h
      exact .goesOn nofun rfl rfl rfl
  · rename_i stage
    split at h
    · cases h
      exact .goesOn nofun (by rw [stage]; rfl) rfl rfl
    · cases h
      exact .goesOn nofun (by rw [stage]; rfl) rfl rfl
    · cases h
      exact finish_does nofun (by rw [stage]; rfl)
    · cases h
      exact .goesOn nofun rfl rfl rfl
  · cases h

theorem next_does (h : x.next action = some y) : Does x action y := by
  cases action with
  | started result =>
      simp only [next] at h
      split at h
      · rename_i stage
        cases h
        exact .goesOn nofun (by rw [stage]; rfl) rfl rfl
      · rename_i stage
        cases h
        exact finish_does nofun (by rw [stage]; rfl)
      · cases h
  | receive =>
      simp only [next] at h
      split at h
      · cases h
      · cases receive_does h with
        | goesOn not ended group tasks => exact .goesOn not ended group tasks
        | ends not running stage group tasks => exact .ends not running stage group tasks
        | disconnects not ended group tasks => exact .disconnects not ended group tasks
        | forms is => cases is
        | removes not ended before group tasks => exact .removes not ended before group tasks
  | discoveryOver =>
      simp only [next] at h
      split at h
      · rename_i stage
        cases h
        exact .goesOn nofun (by rw [stage]; rfl) rfl rfl
      · cases h
  | issueConnect =>
      simp only [next] at h
      split at h
      · rename_i stage
        cases h
        exact .goesOn nofun (by rw [stage]; rfl) rfl rfl
      · cases h
  | connectFails e =>
      simp only [next] at h
      split at h
      · rename_i stage
        split_ifs at h
        cases h
        exact .ends nofun (by rw [stage]; rfl) rfl rfl rfl
      · cases h
  | connectReplies =>
      simp only [next] at h
      split at h
      · rename_i stage
        cases h
        exact .goesOn nofun (by rw [stage]; rfl) rfl rfl
      · cases h
  | formationTimesOut =>
      simp only [next] at h
      split at h
      · rename_i stage
        cases h
        exact finish_does nofun (by rw [stage]; rfl)
      · cases h
  | issueDisconnect =>
      simp only [next] at h
      split at h
      · rename_i stage
        cases h
        exact .disconnects nofun (by rw [stage]; rfl) rfl (Or.inl rfl)
      · cases h
  | disconnectReplies =>
      simp only [next] at h
      split at h
      · rename_i stage
        cases h
        exact finish_does nofun (by rw [stage]; rfl)
      · cases h
  | guardedGoesOn result =>
      simp only [next] at h
      split at h
      · rename_i stage
        obtain ⟨next, -, h⟩ := Option.map_eq_some_iff.mp h
        cases next with
        | inl stage' =>
            cases h
            exact .goesOn nofun (by rw [stage]; rfl) rfl rfl
        | inr outcome =>
            cases h
            exact finish_does nofun (by rw [stage]; rfl)
      · cases h
  | stop =>
      simp only [next] at h
      split_ifs at h with ended
      cases h
      exact finish_does nofun (eq_false_of_ne_true ended)
  | runTask =>
      simp only [next] at h
      split_ifs at h with none
      cases h
      exact .disconnects nofun rfl rfl (Or.inr (Nat.succ_pred none))
  | form =>
      simp only [next] at h
      split_ifs at h with can
      cases h
      exact .forms rfl rfl can.2 rfl rfl
  | remove =>
      obtain ⟨g, before, h⟩ := Option.bind_eq_some_iff.mp h
      split_ifs at h
      cases h
      exact .removes nofun rfl before rfl rfl
  | report event =>
      cases h
      exact .goesOn nofun rfl rfl rfl

/-- The group needs no more care: it was never there, or was disconnected since it
formed, or its removal was reported. -/
def Gone (x : WifiSession) : Prop :=
  ∀ g, x.group = some g → g.disconnected = true ∨ g.removed = true

/-- When the session and its teardown tasks are over, no group of it stands. -/
def IsClean (x : WifiSession) : Prop := x.stage.isEnded = true → x.tasks = 0 → x.Gone

theorem gone_disconnect (x : WifiSession) : x.disconnect.Gone := by
  intro g h
  obtain ⟨g', -, rfl⟩ := Option.map_eq_some_iff.mp h
  exact Or.inl rfl

theorem Gone.of_group_eq (h : x.Gone) (group : y.group = x.group) : y.Gone := by
  intro g hg
  exact h g (group ▸ hg)

end WifiSession

namespace WifiMove

variable (move : WifiMove)

/-- The session ends, and not by way of its guard. -/
def EndsUnguarded : Prop :=
  move.source.stage.isEnded = false ∧ move.source.stage.hasGuard = false ∧
    move.target.stage.isEnded = true

/-- A session that ends without its guard leaves no group behind, and none forms when
everything is over. -/
def TakesCare : Prop :=
  (move.EndsUnguarded → move.source.Gone) ∧
    (move.action = .form → ¬ (move.source.stage.isEnded = true ∧ move.source.tasks = 0))

end WifiMove

/-! ## Runs -/

theorem does_of_makes {move : WifiMove} (made : wifiSession.Makes move) :
    move.source.Does move.action move.target := by
  obtain ⟨y, hnext, hpair⟩ := Option.map_eq_some_iff.mp made
  cases hpair
  exact WifiSession.next_does hnext

/-- A session that has not ended has no teardown task. -/
theorem tasks_of_running {past : List WifiMove} {x : WifiSession}
    (run : wifiSession.Run past x) : x.stage.isEnded = false → x.tasks = 0 := by
  refine run.invariant (I := fun x => x.stage.isEnded = false → x.tasks = 0) ?_ ?_
  · rintro x ⟨peerAddress, rtspPort, rfl⟩ -
    rfl
  · intro move made none running
    cases does_of_makes made with
    | goesOn _ ended _ tasks => rw [tasks, none (ended ▸ running)]
    | ends _ _ stage =>
        rw [stage] at running
        cases running
    | disconnects _ ended _ tasks =>
        have zero := none (ended ▸ running)
        rcases tasks with tasks | tasks <;> omega
    | forms _ ended _ _ tasks => rw [tasks, none (ended ▸ running)]
    | removes _ ended _ _ tasks => rw [tasks, none (ended ▸ running)]

/-- A move that ends a session leaves the group to its guard, if there is one. -/
theorem ends_of_running {move : WifiMove} (made : wifiSession.Makes move)
    (running : move.source.stage.isEnded = false) (ended : move.target.stage.isEnded = true) :
    move.target.group = move.source.group ∧
      move.target.tasks = move.source.tasks + move.source.stage.hasGuard.toNat := by
  have not : ∀ {y : Bool}, y = move.source.stage.isEnded → y = true → False := by
    intro y same isTrue
    exact absurd (isTrue.symm.trans (same.trans running)) nofun
  cases does_of_makes made with
  | goesOn _ ended' _ _ => exact (not ended' ended).elim
  | ends _ _ _ group tasks => exact ⟨group, tasks⟩
  | disconnects _ ended' _ _ => exact (not ended' ended).elim
  | forms _ ended' _ _ _ => exact (not ended' ended).elim
  | removes _ ended' _ _ _ => exact (not ended' ended).elim

theorem isClean_of_takesCare {move : WifiMove} (made : wifiSession.Makes move)
    (care : move.TakesCare) (clean : move.source.IsClean) : move.target.IsClean := by
  obtain ⟨guarded, inTime⟩ := care
  intro ended none
  cases does_of_makes made with
  | goesOn _ ended' group tasks =>
      exact (clean (ended' ▸ ended) (tasks ▸ none)).of_group_eq group
  | ends _ running stage group tasks =>
      -- no task is left only if there was no guard
      have unguarded : move.source.stage.hasGuard = false := by
        cases hguard : move.source.stage.hasGuard with
        | false => rfl
        | true =>
            rw [tasks, hguard] at none
            cases none
      exact (guarded ⟨running, unguarded, ended⟩).of_group_eq group
  | disconnects _ _ group _ => exact move.source.gone_disconnect.of_group_eq group
  | forms is ended' _ _ tasks => exact absurd ⟨ended' ▸ ended, tasks ▸ none⟩ (inTime is)
  | removes _ _ _ group _ =>
      intro g hg
      rw [group] at hg
      cases hg
      exact Or.inr rfl

theorem takesCare_of_isClean {earlier : List WifiMove} {move : WifiMove}
    (before : wifiSession.Run earlier move.source) (made : wifiSession.Makes move)
    (clean : move.target.IsClean) : move.TakesCare := by
  constructor
  · rintro ⟨running, unguarded, ended⟩
    obtain ⟨group, tasks⟩ := ends_of_running made running ended
    have none : move.target.tasks = 0 := by
      rw [tasks, tasks_of_running before running, unguarded]
      rfl
    exact (clean ended none).of_group_eq group.symm
  · rintro is ⟨ended, none⟩
    cases does_of_makes made with
    | forms _ ended' _ group tasks =>
        rcases clean (ended' ▸ ended) (tasks ▸ none) _ group with h | h <;> cases h
    | goesOn not => exact not is
    | ends not => exact not is
    | disconnects not => exact not is
    | removes not => exact not is

/-- **When a cast leaves no group behind.**  All along a run no group stands once the
session and its teardown tasks are over, if and only if the session never ends without
its guard while there is such a group, and none forms after everything is over. -/
theorem clean_iff {past : List WifiMove} {x : WifiSession} (run : wifiSession.Run past x) :
    (∀ y ∈ System.states past x, y.IsClean) ↔
      ∀ move ∈ past, WifiMove.TakesCare move := by
  refine run.forall_states_iff ?_ ?_ ?_
  · rintro x ⟨peerAddress, rtspPort, rfl⟩ ended
    cases ended
  · intro move made _ care clean
    exact isClean_of_takesCare made care clean
  · rintro move made ⟨earlier, before⟩ clean
    exact takesCare_of_isClean before made clean

/-- A cast that is stopped when its group has formed, before and after the session has
noticed it. -/
def stoppedCast (noticed : Bool) : List WifiAction :=
  [.started (.ok ()), .discoveryOver, .issueConnect, .connectReplies, .form,
    .report (.groupFormed ⟨"p2p-wlan0-0", .v4 ⟨192, 168, 49, 1⟩⟩)] ++
    if noticed then [.receive, .stop, .runTask] else [.stop]

theorem run_stoppedCast (noticed : Bool) :
    wifiSession.Run (wifiSession.history (stoppedCast noticed) (.start [] 7236))
      (wifiSession.final (stoppedCast noticed) (.start [] 7236)) := by
  refine .of_actions _ ⟨[], 7236, rfl⟩ ?_
  cases noticed <;> rfl

theorem clean_iff_for_stopped_cast :
    let past := wifiSession.history (stoppedCast true) (.start [] 7236)
    (∀ y ∈ System.states past (wifiSession.final (stoppedCast true) (.start [] 7236)),
      y.IsClean) ↔ ∀ move ∈ past, WifiMove.TakesCare move :=
  clean_iff (run_stoppedCast true)

/-- **A group that is left standing**: stop is pressed before the session has taken
`GroupFormed` off its channel. -/
theorem group_left_standing : ¬ ∀ past x, wifiSession.Run past x → x.IsClean := by
  intro all
  rcases all _ _ (run_stoppedCast false) rfl rfl _ rfl with h | h <;> cases h

end OpenPlay.Miracast
