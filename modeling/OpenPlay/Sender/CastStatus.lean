import OpenPlay.Sender.Scan

/-!
# The status of a cast

The thread of a cast sends a few texts to the user interface, over one channel for all casts.
`poll_status` knows the last of them by a word in it.

* `CastMessage.isTerminal_text`: the texts with such a word are the last ones, whatever stands
  in the error that they show
* `cast_status_protocol`: `is_casting` is cleared by the last text of the cast in progress and
  by no other, and at most one cast is live
-/

namespace OpenPlay.Sender

open Transition

/-! ## The texts of a cast -/

/-- The four functions that a cast runs. -/
inductive CastEntry
  | airPlay
  | miracast
  | miracastP2p
  | openPlay
deriving DecidableEq, Repr

/-- What comes of a pipeline and of the task it runs in. -/
inductive CastResult
  | done
  | failed (e : List Char)
  | cancelled (e : List Char)
  | panicked (e : List Char)
deriving DecidableEq, Repr

inductive CastMessage
  | starting
  | captureFailed (e : List Char)
  | connecting (entry : CastEntry)
  | outcome (entry : CastEntry) (result : CastResult)
deriving DecidableEq, Repr

def CastTarget.entry : CastTarget → CastEntry
  | airPlay _ => .airPlay
  | miracast _ => .miracast
  | miracastP2p _ => .miracastP2p
  | openPlay _ => .openPlay

/-- What is shown while the pipeline runs. -/
def CastEntry.connectingText : CastEntry → List Char
  | airPlay => "Connecting to AirPlay receiver...".toList
  | miracast => "Connecting via Miracast...".toList
  | miracastP2p => "Forming Wi-Fi Direct P2P group...".toList
  | openPlay => "Connecting to OpenPlay receiver...".toList

/-- The last `match` of the four functions.  The Wi-Fi Direct one does not ask whether it was
stopped. -/
def outcomeText : CastEntry → CastResult → List Char
  | _, .done => "Casting ended".toList
  | .miracastP2p, .failed e => "Casting failed: ".toList ++ e
  | .miracastP2p, .cancelled e => "Casting error: ".toList ++ e
  | _, .failed e =>
      if Text.contains "stopped by user".toList e then "Casting stopped".toList
      else "Casting failed: ".toList ++ e
  | _, .cancelled _ => "Casting stopped".toList
  | _, .panicked e => "Casting error: ".toList ++ e

namespace CastMessage

def text : CastMessage → List Char
  | starting => "Starting screen capture...".toList
  | captureFailed e => "Capture failed: ".toList ++ e
  | connecting entry => entry.connectingText
  | outcome entry result => outcomeText entry result

/-- No other text of the cast follows. -/
def isLast : CastMessage → Bool
  | captureFailed _ | outcome _ _ => true
  | starting | connecting _ => false

end CastMessage

/-! ## The threads and the user interface -/

/-- What the thread of a cast does next. -/
inductive CastStage
  | starting
  | capturing
  | connecting
deriving DecidableEq, Repr

/-- What happens to it there. -/
inductive CastEvent
  | begins
  | captureFails (e : List Char)
  | captures
  | ends (result : CastResult)
deriving DecidableEq, Repr

structure CastThread where
  cast : Nat
  entry : CastEntry
  stage : CastStage
deriving DecidableEq, Repr

/-- The text that the thread sends, and where it goes on. -/
def CastThread.next (t : CastThread) : CastEvent → Option (CastMessage × Option CastThread)
  | .begins =>
      if t.stage = .starting then some (.starting, some { t with stage := .capturing }) else none
  | .captureFails e => if t.stage = .capturing then some (.captureFailed e, none) else none
  | .captures =>
      if t.stage = .capturing then
        some (.connecting t.entry, some { t with stage := .connecting })
      else none
  | .ends result => if t.stage = .connecting then some (.outcome t.entry result, none) else none

/-- The casts are numbered.  A text in the channel is kept with the number of its cast, which
`poll_status` does not see. -/
structure CastState where
  isCasting : Bool
  /-- The cast that the handle stops. -/
  stopHandle : Option Nat
  status : List Char
  channel : List (Nat × CastMessage)
  threads : List CastThread
  started : Nat
  /-- The casts whose flag is set. -/
  stopped : List Nat
deriving DecidableEq, Repr

inductive CastAction
  | startCast (receiver : DiscoveredReceiver)
  | stopCast
  | thread (cast : Nat) (event : CastEvent)
  | poll

/-- The capacity of the channel: a thread waits while it is full. -/
def statusCapacity : Nat := 32

namespace CastState

def start : CastState where
  isCasting := false
  stopHandle := none
  status := []
  channel := []
  threads := []
  started := 0
  stopped := []

/-- `fail_cast`. -/
def failCast (x : CastState) (reason : List Char) : CastState :=
  { x with status := reason, isCasting := false, stopHandle := none }

/-- `start_cast`. -/
def startCast (displayName : String) (x : CastState) (receiver : DiscoveredReceiver) : CastState :=
  let cast := x.started
  let x := { x with
    stopHandle := some cast
    isCasting := true
    status := "Starting capture...".toList
    started := cast + 1 }
  match castTarget displayName receiver with
  | .ok target => { x with threads := x.threads ++ [⟨cast, target.entry, .starting⟩] }
  | .error reason => x.failCast reason.toList

/-- `stop_cast`. -/
def stopCast (x : CastState) : CastState :=
  { x with stopped := x.stopped ++ x.stopHandle.toList, status := "Stopping...".toList }

/-- The body of the loop of `poll_status`. -/
def pollStatus (x : CastState) (msg : List Char) : CastState :=
  let x := { x with status := msg }
  if isTerminal msg then { x with isCasting := false, stopHandle := none } else x

/-- The thread of a cast sends its next text. -/
def send (x : CastState) (t : CastThread) (m : CastMessage) (next : Option CastThread) :
    CastState :=
  { x with
    channel := x.channel ++ [(t.cast, m)]
    threads := x.threads.erase t ++ next.toList }

/-- The Start button is there only while nothing is cast, and the Stop button only during a
cast. -/
def step (displayName : String) (x : CastState) : CastAction → Option (CastState × Unit)
  | .startCast receiver => if x.isCasting then none else some (x.startCast displayName receiver, ())
  | .stopCast => if x.isCasting then some (x.stopCast, ()) else none
  | .thread cast event =>
      if x.channel.length < statusCapacity then
        (x.threads.find? (·.cast = cast)).bind fun t =>
          (t.next event).map fun (m, next) => (x.send t m next, ())
      else none
  | .poll =>
      match x.channel with
      | [] => none
      | (_, m) :: rest => some (pollStatus { x with channel := rest } m.text, ())

end CastState

def castStatus (displayName : String) : System CastState CastAction Unit where
  init x := x = .start
  step := CastState.step displayName

abbrev CastMove := Move CastState CastAction Unit

/-! ## The protocol -/

/-- The cast in progress: the one started last, unless its last text has been read. -/
def currentCast (displayName : String) : List CastMove → Option Nat
  | [] => none
  | move :: past =>
      match move.action with
      | .startCast receiver =>
          (castTarget displayName receiver).toOption.map fun _ => move.source.started
      | .poll =>
          match move.source.channel with
          | (cast, m) :: _ =>
              if m.isLast ∧ currentCast displayName past = some cast then none
              else currentCast displayName past
          | [] => currentCast displayName past
      | _ => currentCast displayName past

/-- A cast whose last text has not been read: its thread runs, or the text waits. -/
def CastState.Live (x : CastState) (cast : Nat) : Prop :=
  (∃ t ∈ x.threads, t.cast = cast) ∨ ∃ m, (cast, m) ∈ x.channel ∧ m.isLast = true

/-- The number of texts that are sent before a stage. -/
def CastStage.sent : CastStage → Nat
  | starting => 0
  | capturing => 1
  | connecting => 2

/-- Texts of a cast none of which is the last. -/
def Underway (cast : Nat) (texts : List (Nat × CastMessage)) : Prop :=
  ∀ text ∈ texts, text.1 = cast ∧ text.2.isLast = false

/-- Where the cast in progress stands. -/
inductive CastPhase (x : CastState) : Option Nat → Prop
  | idle (flag : x.isCasting = false) (handle : x.stopHandle = none) (threads : x.threads = [])
      (channel : x.channel = []) : CastPhase x none
  | going (t : CastThread) (flag : x.isCasting = true) (handle : x.stopHandle = some t.cast)
      (threads : x.threads = [t]) (channel : Underway t.cast x.channel)
      (few : x.channel.length ≤ t.stage.sent) : CastPhase x (some t.cast)
  | ending (cast : Nat) (texts : List (Nat × CastMessage)) (m : CastMessage)
      (flag : x.isCasting = true) (handle : x.stopHandle = some cast) (threads : x.threads = [])
      (channel : x.channel = texts ++ [(cast, m)]) (underway : Underway cast texts)
      (last : m.isLast = true) (few : texts.length ≤ 2) : CastPhase x (some cast)

/-! ## The words of the last text -/

theorem isTerminal_iff (msg : List Char) :
    isTerminal msg = true ↔ ∃ word ∈ ["ended", "failed", "stopped", "error"],
      word.toList <:+: msg.map Char.toLower := by
  rw [isTerminal, List.any_eq_true]
  exact exists_congr fun word => and_congr_right fun _ => Text.contains_iff

/-- A word in front of an error is found, whatever the error is. -/
theorem isTerminal_append {front : List Char} (h : isTerminal front = true) (e : List Char) :
    isTerminal (front ++ e) = true := by
  obtain ⟨word, hword, hshown⟩ := (isTerminal_iff front).mp h
  refine (isTerminal_iff _).mpr ⟨word, hword, ?_⟩
  rw [List.map_append]
  exact hshown.trans (List.prefix_append _ _).isInfix

theorem isTerminal_outcomeText (entry : CastEntry) (result : CastResult) :
    isTerminal (outcomeText entry result) = true := by
  have hended : isTerminal "Casting ended".toList = true := by decide
  have hstopped : isTerminal "Casting stopped".toList = true := by decide
  have hfailed : isTerminal "Casting failed: ".toList = true := by decide
  have herror : isTerminal "Casting error: ".toList = true := by decide
  have hasked : ∀ e, isTerminal (if Text.contains "stopped by user".toList e then
      "Casting stopped".toList else "Casting failed: ".toList ++ e) = true := by
    intro e
    split_ifs
    · exact hstopped
    · exact isTerminal_append hfailed e
  cases result with
  | done => cases entry <;> exact hended
  | failed e =>
    cases entry with
    | miracastP2p => exact isTerminal_append hfailed e
    | airPlay | miracast | openPlay => exact hasked e
  | cancelled e =>
    cases entry with
    | miracastP2p => exact isTerminal_append herror e
    | airPlay | miracast | openPlay => exact hstopped
  | panicked e => cases entry <;> exact isTerminal_append herror e

/-- **The last texts are those with such a word.** -/
theorem CastMessage.isTerminal_text (m : CastMessage) : isTerminal m.text = m.isLast := by
  cases m with
  | starting => decide
  | captureFailed e => exact isTerminal_append (by decide) e
  | connecting entry => cases entry <;> decide
  | outcome entry result => exact isTerminal_outcomeText entry result

/-! ## One step -/

section

variable {displayName : String} {past : List CastMove} {x y : CastState} {current : Option Nat}

theorem CastThread.next_cases {t : CastThread} {event : CastEvent} {m : CastMessage}
    {next : Option CastThread} (h : t.next event = some (m, next)) :
    (m.isLast = true ∧ next = none) ∨ (m.isLast = false ∧
      ∃ t', next = some t' ∧ t'.cast = t.cast ∧ t'.stage.sent = t.stage.sent + 1) := by
  cases event with
  | begins | captures =>
    rw [CastThread.next] at h
    split_ifs at h with hstage
    cases h
    exact .inr ⟨rfl, _, rfl, rfl, by rw [hstage]; rfl⟩
  | captureFails _ | ends _ =>
    rw [CastThread.next] at h
    split_ifs at h
    cases h
    exact .inl ⟨rfl, rfl⟩

theorem CastStage.sent_le (stage : CastStage) : stage.sent ≤ 2 := by
  cases stage <;> decide

namespace CastPhase

/-- The phase is in four of the fields. -/
theorem congr (phase : CastPhase x current) (flag : y.isCasting = x.isCasting)
    (handle : y.stopHandle = x.stopHandle) (threads : y.threads = x.threads)
    (channel : y.channel = x.channel) : CastPhase y current := by
  cases phase with
  | idle flag' handle' threads' channel' =>
    exact .idle (flag.trans flag') (handle.trans handle') (threads.trans threads')
      (channel.trans channel')
  | going t flag' handle' threads' channel' few =>
    rw [← channel] at channel' few
    exact .going t (flag.trans flag') (handle.trans handle') (threads.trans threads') channel' few
  | ending cast texts m flag' handle' threads' channel' underway last few =>
    exact .ending cast texts m (flag.trans flag') (handle.trans handle')
      (threads.trans threads') (channel.trans channel') underway last few

theorem isCasting_eq (phase : CastPhase x current) : x.isCasting = current.isSome := by
  cases phase with
  | idle flag => exact flag
  | going t flag => exact flag
  | ending cast texts m flag => exact flag

/-- Nothing is left of the casts before. -/
theorem startCast (phase : CastPhase x current) (idle : x.isCasting = false)
    (receiver : DiscoveredReceiver) :
    CastPhase (x.startCast displayName receiver)
      ((castTarget displayName receiver).toOption.map fun _ => x.started) := by
  cases phase with
  | going t flag => exact absurd (idle.symm.trans flag) nofun
  | ending cast texts m flag => exact absurd (idle.symm.trans flag) nofun
  | idle flag handle threads channel =>
    -- no thread is left, and no text waits that could end the new cast
    rw [CastState.startCast]
    cases castTarget displayName receiver with
    | error reason => exact .idle rfl rfl threads channel
    | ok target =>
      refine .going ⟨x.started, target.entry, .starting⟩ rfl rfl ?_ ?_ ?_
      · dsimp only
        rw [threads, List.nil_append]
      · dsimp only
        rw [channel]
        exact List.forall_mem_nil _
      · dsimp only
        rw [channel]
        exact Nat.le_refl 0

theorem send (phase : CastPhase x current) {t : CastThread} (mem : t ∈ x.threads)
    {event : CastEvent} {m : CastMessage} {next : Option CastThread}
    (hnext : t.next event = some (m, next)) : CastPhase (x.send t m next) current := by
  cases phase with
  | idle flag handle threads channel =>
    rw [threads] at mem
    cases mem
  | ending cast texts m flag handle threads =>
    rw [threads] at mem
    cases mem
  | going t' flag handle threads channel few =>
    -- it is the thread of the cast in progress, there is no other
    rw [threads, List.mem_singleton] at mem
    subst mem
    have herase : x.threads.erase t = [] := by rw [threads, List.erase_cons_head]
    rcases CastThread.next_cases hnext with ⟨hlast, rfl⟩ | ⟨hlast, t', rfl, hcast, hsent⟩
    · refine .ending t.cast x.channel m flag handle ?_ rfl channel hlast
        (few.trans t.stage.sent_le)
      rw [CastState.send, herase]
      rfl
    · rw [← hcast] at channel handle ⊢
      refine .going t' flag handle ?_ ?_ ?_
      · rw [CastState.send, herase]
        rfl
      · rw [CastState.send, ← hcast]
        intro text htext
        rcases List.mem_append.mp htext with htext | htext
        · exact channel text htext
        · rw [List.mem_singleton.mp htext]
          exact ⟨rfl, hlast⟩
      · rw [CastState.send, hsent, List.length_append]
        exact Nat.succ_le_succ few

/-- **What a poll does**: the text is one of the cast in progress, and the last one ends it. -/
theorem pollStatus (phase : CastPhase x current) {cast : Nat} {m : CastMessage}
    {rest : List (Nat × CastMessage)} (front : x.channel = (cast, m) :: rest) :
    current = some cast ∧
      CastPhase (CastState.pollStatus { x with channel := rest } m.text)
        (if m.isLast then none else some cast) := by
  have hpoll : CastState.pollStatus { x with channel := rest } m.text =
      if m.isLast then
        { x with channel := rest, status := m.text, isCasting := false, stopHandle := none }
      else { x with channel := rest, status := m.text } := by
    rw [CastState.pollStatus, m.isTerminal_text]
  rw [hpoll]
  cases phase with
  | idle flag handle threads channel =>
    rw [channel] at front
    cases front
  | going t flag handle threads channel few =>
    rw [front] at channel few
    obtain ⟨hcast, hlast⟩ := channel _ List.mem_cons_self
    dsimp only at hcast hlast
    subst hcast
    rw [hlast, if_neg Bool.false_ne_true, if_neg Bool.false_ne_true]
    refine ⟨rfl, .going t flag handle threads (fun text h => ?_) (Nat.le_of_succ_le few)⟩
    exact channel text (List.mem_cons_of_mem _ h)
  | ending cast' texts m' flag handle threads channel underway last few =>
    rw [channel] at front
    -- the last text is in front, or one of those before it
    rcases texts with _ | ⟨text, texts⟩
    · cases front
      rw [last, if_pos rfl, if_pos rfl]
      exact ⟨rfl, .idle rfl rfl threads rfl⟩
    · cases front
      obtain ⟨hcast, hlast⟩ := underway _ List.mem_cons_self
      dsimp only at hcast hlast
      subst hcast
      rw [hlast, if_neg Bool.false_ne_true, if_neg Bool.false_ne_true]
      refine ⟨rfl, .ending cast texts m' flag handle threads rfl (fun text h => ?_) last
        (Nat.le_of_succ_le few)⟩
      exact underway text (List.mem_cons_of_mem _ h)

/-- The live casts. -/
theorem live_iff (phase : CastPhase x current) (cast : Nat) :
    x.Live cast ↔ current = some cast := by
  unfold CastState.Live
  cases phase with
  | idle flag handle threads channel =>
    rw [threads, channel]
    simp
  | going t flag handle threads channel few =>
    rw [threads, Option.some_inj]
    constructor
    · rintro (⟨t', mem, rfl⟩ | ⟨m, mem, hlast⟩)
      · rw [List.mem_singleton.mp mem]
      · exact absurd (hlast.symm.trans (channel _ mem).2) nofun
    · rintro rfl
      exact .inl ⟨t, List.mem_singleton_self t, rfl⟩
  | ending cast' texts m flag handle threads channel underway last few =>
    rw [threads, channel, Option.some_inj]
    constructor
    · rintro (⟨t, mem, -⟩ | ⟨m', mem, hlast⟩)
      · cases mem
      · rcases List.mem_append.mp mem with mem | mem
        · exact (underway _ mem).1.symm
        · cases List.mem_singleton.mp mem
          rfl
    · rintro rfl
      exact .inr ⟨m, List.mem_append_right _ (List.mem_singleton_self _), last⟩

end CastPhase

/-! ## Every run -/

theorem phase_of_run (run : (castStatus displayName).Run past x) :
    CastPhase x (currentCast displayName past) := by
  induction run with
  | start initial =>
    cases initial
    exact .idle rfl rfl rfl rfl
  | @move past move before made phase =>
    obtain ⟨x, action, output, y⟩ := move
    replace made : x.step displayName action = some (y, output) := made
    cases action with
    | startCast receiver =>
      rw [CastState.step] at made
      split_ifs at made with idle
      cases made
      exact phase.startCast (Bool.eq_false_of_not_eq_true idle) receiver
    | stopCast =>
      rw [CastState.step] at made
      split_ifs at made
      cases made
      exact phase.congr rfl rfl rfl rfl
    | thread cast event =>
      rw [CastState.step] at made
      split_ifs at made
      obtain ⟨t, hfind, made⟩ := Option.bind_eq_some_iff.mp made
      obtain ⟨⟨m, next⟩, hnext, made⟩ := Option.map_eq_some_iff.mp made
      cases made
      exact phase.send (List.mem_of_find?_eq_some hfind) hnext
    | poll =>
      rcases front : x.channel with _ | ⟨⟨cast, m⟩, rest⟩
      · rw [CastState.step, front] at made
        cases made
      · rw [CastState.step, front] at made
        cases made
        obtain ⟨hcurrent, hphase⟩ := phase.pollStatus front
        have hnow : currentCast displayName (⟨x, .poll, (), CastState.pollStatus
            { x with channel := rest } m.text⟩ :: past) =
              if m.isLast then none else some cast := by
          rw [currentCast]
          simp only [front]
          rw [hcurrent]
          simp
        rw [hnow]
        exact hphase

/-- **The status protocol.**  In every state that is reached, something is cast exactly if the
last text of the cast in progress has not been read; reading a text clears `is_casting` exactly
if it is this one, and every text that waits is one of the cast in progress; and the casts that
are live are this one alone. -/
theorem cast_status_protocol (run : (castStatus displayName).Run past x) :
    x.isCasting = (currentCast displayName past).isSome ∧
    (∀ cast m rest y, x.channel = (cast, m) :: rest →
      x.step displayName .poll = some (y, ()) →
        currentCast displayName past = some cast ∧
        (x.isCasting = true ∧ y.isCasting = false ↔ m.isLast = true)) ∧
    (∀ cast, x.Live cast ↔ currentCast displayName past = some cast) ∧
    (x.isCasting = true → ∃ cast, x.Live cast) ∧
    ∀ cast cast', x.Live cast → x.Live cast' → cast = cast' := by
  have phase := phase_of_run run
  refine ⟨phase.isCasting_eq, ?_, phase.live_iff, fun flag => ?_, fun cast cast' live live' => ?_⟩
  · intro cast m rest y front polled
    obtain ⟨hcurrent, hphase⟩ := phase.pollStatus front
    rw [CastState.step, front] at polled
    cases polled
    refine ⟨hcurrent, ?_⟩
    rw [hphase.isCasting_eq, phase.isCasting_eq, hcurrent]
    cases m.isLast <;> simp
  · rw [phase.isCasting_eq, Option.isSome_iff_exists] at flag
    obtain ⟨cast, hcurrent⟩ := flag
    exact ⟨cast, (phase.live_iff cast).mpr hcurrent⟩
  · exact Option.some_inj.mp (((phase.live_iff cast).mp live).symm.trans
      ((phase.live_iff cast').mp live'))

end

/-- A cast that cannot capture the screen, with the Stop button pressed meanwhile. -/
def failedCapture : List CastAction :=
  [.startCast (.airPlay
      { name := "TV._airplay._tcp.local.".toList
        displayName := "TV".toList
        addresses := [.v4 ⟨192, 168, 1, 5⟩]
        port := 7000 }),
    .thread 0 .begins, .stopCast, .thread 0 (.captureFails "no portal".toList), .poll]

theorem cast_status_protocol_for_failed_capture :
    let x := (castStatus "").final failedCapture .start
    x.isCasting = true ∧ ∃ cast, x.Live cast := by
  have run : (castStatus "").Run ((castStatus "").history failedCapture .start)
      ((castStatus "").final failedCapture .start) := .of_actions _ rfl (by decide)
  have casting : ((castStatus "").final failedCapture .start).isCasting = true := by decide
  exact ⟨casting, (cast_status_protocol run).2.2.2.1 casting⟩

end OpenPlay.Sender
