import OpenPlay.Receiver.Exclusive

/-!
# What the window shows

The status cell is the only thing the person in front of the receiver sees, and
no rule of the loop writes it together with the pending map and the active
session in one place.  Three properties say what the cell should mean:

* `KeepsPrompt` — a prompt is never replaced by another sender's prompt;
* `Visible` — a request that makes every other sender busy is on screen;
* `Truthful` — the screen names the running session, and only a running one.

Each of them holds in a run exactly when no step of the run meets one particular
situation, and the three situations are different: a withdrawn request whose
prompt is still up, media news for a session that asked again, a denial of a
session that asked again.  `OnScreen` is the invariant that all three arguments
share.
-/

namespace OpenPlay

open Transition

variable {past : List LoopMove} {s : SessionLoop}

/-! ## The invariant -/

/-- A prompt on screen either names the waiting request, with its name, or it
outlived its request, and then nothing waits and nothing runs. -/
def OnScreen (s : SessionLoop) : Prop :=
  ∀ n c, s.status = .pendingConsent n c →
    (∃ p, s.pending.lookup c = some p ∧ p.displayName = n) ∨
      (s.active = none ∧ ∀ d, d ∉ s.pending)

/-- Between sessions the window shows a page it could have opened on. -/
theorem SessionLoop.idleStatus_ne (s : SessionLoop) {next : Status}
    (busy : ¬ next.AtStartup) : s.idleStatus ≠ next := by
  rintro rfl
  unfold SessionLoop.idleStatus at busy
  cases hreason : s.undiscoverable with
  | none =>
      rw [hreason] at busy
      exact busy trivial
  | some reason =>
      rw [hreason] at busy
      exact busy trivial

/-- A page without a prompt satisfies the invariant. -/
theorem OnScreen.of_no_prompt (h : ∀ n c, s.status ≠ .pendingConsent n c) :
    OnScreen s :=
  fun n c hstatus => absurd hstatus (h n c)

theorem OnScreen.of_idle {s' : SessionLoop} (h : s'.status = s.idleStatus) :
    OnScreen s' := by
  refine .of_no_prompt fun n c => ?_
  rw [h]
  exact s.idleStatus_ne not_false

namespace SessionLoop

variable {s' : SessionLoop} {input : Input} {effects : List Effect}

theorem swept_of_fresh {seen : Liveness} {n : String} {c : ConnectionId}
    (fresh : (s.swept seen).stalePrompt = false)
    (hstatus : s.status = .pendingConsent n c) : c ∈ (s.swept seen).pending := by
  have hstatus' : (s.swept seen).status = .pendingConsent n c := hstatus
  simpa [stalePrompt, hstatus'] using fresh

theorem Reacts.onScreen (rule : Reacts s input s' effects) (hx : Exclusive s)
    (h : OnScreen s) : OnScreen s' := by
  cases rule with
  | ignored => exact h
  | stored => exact h
  | refused => exact h
  | ponged => exact h
  | prompted admitted =>
      intro n c hstatus
      obtain ⟨rfl, rfl⟩ := Status.pendingConsent.inj hstatus
      exact Or.inl ⟨_, AList.lookup_insert _, rfl⟩
  | withdrawn message other =>
      rename_i incoming around reason
      intro n c hstatus
      rcases h n c hstatus with ⟨p, hp, hname⟩ | ⟨hnone, hempty⟩
      · by_cases hc : c = incoming.connection
        · -- The waiting request itself goes, and the invariant switches sides.
          subst hc
          refine Or.inr ⟨?_, ?_⟩
          · cases was : s.active with
            | none => rfl
            | some a =>
                have howner := hx.own_prompt a was _ (AList.mem_of_lookup hp)
                exact absurd howner.symm (other a was)
          · intro d hd
            obtain ⟨hne, hd⟩ := AList.mem_erase.mp hd
            exact hne (hx.one_prompt d hd _ (AList.mem_of_lookup hp))
        · refine Or.inl ⟨p, ?_, hname⟩
          exact (AList.lookup_erase_ne hc).trans hp
      · refine Or.inr ⟨hnone, ?_⟩
        intro d hd
        exact hempty d (AList.mem_erase.mp hd).2
  | endedBySender message was owner => exact .of_idle (s := s) rfl
  | candidate was owner has => exact h
  | offered message was owner none_yet =>
      intro n c hstatus
      rcases h n c hstatus with hp | ⟨hnone, -⟩
      · exact Or.inl hp
      · rw [was] at hnone
        cases hnone
  | offerFailed => exact .of_no_prompt (by simp [afterEnd])
  | denied waiting no => exact .of_idle (s := s) rfl
  | approved waiting yes => exact .of_no_prompt (by simp)
  | forwarded was forwards => exact h
  | connected was => exact .of_no_prompt (by simp)
  | disconnected was => exact .of_idle (s := s) rfl
  | mediaFailed was => exact .of_no_prompt (by simp [afterEnd])
  | lost was dead => exact .of_idle (s := s) rfl
  | cleared alive stale => exact .of_idle (s := s) rfl
  | ticked alive fresh =>
      intro n c hstatus
      obtain ⟨p, hp⟩ := AList.exists_lookup (swept_of_fresh fresh hstatus)
      refine Or.inl ⟨p, hp, ?_⟩
      have hp' := (lookup_of_lookup_swept hp).1
      rcases h n c hstatus with ⟨q, hq, hname⟩ | ⟨-, hempty⟩
      · rw [hp'] at hq
        cases hq
        exact hname
      · exact absurd (AList.mem_of_lookup hp') (hempty c)

end SessionLoop

/-- In every reachable state the prompt is accounted for. -/
theorem onScreen_of_run (run : sessionLoop.Run past s) : OnScreen s := by
  have both : Exclusive s ∧ OnScreen s := by
    refine run.invariant (I := fun s => Exclusive s ∧ OnScreen s) ?_ ?_
    · rintro s ⟨config, status, undiscoverable, startup, rfl⟩
      refine ⟨Exclusive.new config status undiscoverable, .of_no_prompt ?_⟩
      intro n c hstatus
      have hstatus' : status = .pendingConsent n c := hstatus
      rw [hstatus'] at startup
      exact startup
    · intro move made h
      have rule := reacts_of_makes made
      exact ⟨rule.exclusive h.1, rule.onScreen h.1 h.2⟩
  exact both.2

/-! ## The prompt on screen is not swapped -/

/-- The move does not put one sender's prompt in the place of another's. -/
def KeepsPrompt (move : LoopMove) : Prop :=
  ∀ n₁ c₁ n₂ c₂, move.source.status = .pendingConsent n₁ c₁ →
    move.target.status = .pendingConsent n₂ c₂ → c₁ = c₂

/-- If the move is a well-formed request of a sender other than the one on
screen, the request behind the prompt on screen is still waiting: it was not
withdrawn by a `SessionEnd` since the last liveness tick. -/
def MeetsLivePrompt (move : LoopMove) : Prop :=
  ∀ incoming around senderId displayName capabilities n c,
    move.action = .message incoming around →
    incoming.message =
      .sessionRequest senderId displayName protocolVersion capabilities →
    "h264" ∈ capabilities.videoCodecs →
    move.source.status = .pendingConsent n c → c ≠ incoming.connection →
      c ∈ move.source.pending

namespace SessionLoop

variable {s' : SessionLoop} {input : Input} {effects : List Effect}

/-- Only a request puts a prompt on screen. -/
theorem Reacts.prompt_source (rule : Reacts s input s' effects) {n : String}
    {c : ConnectionId} (h : s'.status = .pendingConsent n c) :
    s.status = .pendingConsent n c ∨
      ∃ incoming around capabilities, input = .message incoming around ∧
        incoming.connection = c ∧ s.Admits incoming n capabilities := by
  cases rule with
  | prompted admitted =>
      obtain ⟨rfl, rfl⟩ := Status.pendingConsent.inj h
      exact Or.inr ⟨_, _, _, rfl, rfl, admitted⟩
  | endedBySender => exact absurd h (s.idleStatus_ne not_false)
  | offerFailed => cases h
  | denied => exact absurd h (s.idleStatus_ne not_false)
  | approved => cases h
  | connected => cases h
  | disconnected => exact absurd h (s.idleStatus_ne not_false)
  | mediaFailed => cases h
  | lost => exact absurd h (s.idleStatus_ne not_false)
  | cleared => exact absurd h (s.idleStatus_ne not_false)
  | ignored => exact Or.inl h
  | stored => exact Or.inl h
  | refused => exact Or.inl h
  | ponged => exact Or.inl h
  | withdrawn => exact Or.inl h
  | candidate => exact Or.inl h
  | offered => exact Or.inl h
  | forwarded => exact Or.inl h
  | ticked => exact Or.inl h

end SessionLoop

/-- **When the prompt is safe.**  In a run of the loop no step swaps the prompt
on screen for another sender's, if and only if no well-formed request of another
sender is handled while the prompt on screen has lost its request. -/
theorem prompt_kept_iff_live (run : sessionLoop.Run past s) :
    (∀ move ∈ past, KeepsPrompt move) ↔ ∀ move ∈ past, MeetsLivePrompt move := by
  constructor
  · intro keeps move hmove incoming around senderId displayName capabilities n c
      haction request h264 hstatus hne
    obtain ⟨⟨earlier, before, -⟩, made⟩ := run.of_mem hmove
    have hscreen := onScreen_of_run before
    have hreact := react_of_makes made
    rcases hscreen n c hstatus with ⟨p, hp, -⟩ | ⟨hnone, hempty⟩
    · exact AList.mem_of_lookup hp
    · -- Nothing waits and nothing runs, so the request takes the screen over.
      have admitted : move.source.Admits incoming displayName capabilities := by
        refine ⟨⟨senderId, request⟩, h264, ?_, ?_⟩
        · simp [hnone]
        · simp [AList.first_eq_none.mpr hempty]
      have hprompted := SessionLoop.react_request around admitted
      rw [← haction, hreact] at hprompted
      have hswap := keeps move hmove n c displayName incoming.connection hstatus
        (by rw [hprompted])
      exact absurd hswap hne
  · intro live move hmove n₁ c₁ n₂ c₂ hsource htarget
    obtain ⟨⟨earlier, before, -⟩, made⟩ := run.of_mem hmove
    have hx := exclusive_of_run before
    have rule := reacts_of_makes made
    rcases rule.prompt_source htarget with hsame | ⟨incoming, around, capabilities,
      haction, hconnection, admitted⟩
    · rw [hsource] at hsame
      exact (Status.pendingConsent.inj hsame).2
    · by_contra hne
      subst hconnection
      obtain ⟨senderId, request⟩ := admitted.request
      have hmem := live move hmove incoming around senderId n₂ capabilities n₁ c₁
        haction request admitted.h264 hsource hne
      exact hne (hx.waiting_own admitted c₁ hmem)

/-- The exact condition, for a sender that asks, takes its request back, and is
followed by another one. -/
theorem prompt_kept_iff_live_for_two_senders :
    let start := SessionLoop.startedWith ⟨"Living room", 7000, 8000, 60⟩
    let past := sessionLoop.history
      [.asks ⟨1⟩ "Alice", .ends ⟨1⟩, .asks ⟨2⟩ "Mallory"] start
    (∀ move ∈ past, KeepsPrompt move) ↔ ∀ move ∈ past, MeetsLivePrompt move :=
  prompt_kept_iff_live (System.Run.of_actions _ (sessionLoop_init _) rfl)

/-- A sender that asks and takes its request back leaves its prompt on screen,
where the next request of anybody replaces it. -/
theorem prompt_swapped_after_withdrawal :
    ¬ ∀ past s, sessionLoop.Run past s → ∀ move ∈ past, KeepsPrompt move := by
  intro keeps
  have run := System.Run.of_actions
    [.asks ⟨1⟩ "Alice", .ends ⟨1⟩, .asks ⟨2⟩ "Mallory"]
    (sessionLoop_init ⟨"Living room", 7000, 8000, 60⟩) rfl
  have hswap := keeps _ _ run _ List.mem_cons_self "Alice" ⟨1⟩ "Mallory" ⟨2⟩ rfl rfl
  exact absurd hswap (by decide)

/-! ## A blocking request is visible -/

/-- Every waiting request is on screen, under its own name. -/
def Visible (s : SessionLoop) : Prop :=
  ∀ c p, s.pending.lookup c = some p → s.status = .pendingConsent p.displayName c

/-- While the owner of the active session is waiting for an answer to a new
request, the move brings no news of its media session (it connects, disconnects
or fails), does not fail to set it up, and does not lose the sender between the
two looks of one liveness tick. -/
structure LeavesPromptAlone (move : LoopMove) : Prop where
  webrtc : ∀ a event, move.source.active = some a →
    a.connection ∈ move.source.pending → move.action = .webrtc event →
      event ≠ .connected ∧ event ≠ .disconnected ∧ ∀ reason, event ≠ .failed reason
  offer : ∀ a incoming around sdp, move.source.active = some a →
    a.connection ∈ move.source.pending → move.action = .message incoming around →
    incoming.message = .sdpOffer sdp → a.connection = incoming.connection →
    a.media = none → around.accepts sdp = true
  tick : ∀ a seen, move.source.active = some a →
    a.connection ∈ move.source.pending → move.action = .tick seen →
    seen.atRetain a.connection = true → seen.atActive a.connection = true

namespace SessionLoop

variable {s' : SessionLoop} {input : Input} {effects : List Effect}

/-- With nothing waiting, everything that waits is on screen. -/
theorem visible_of_empty (h : ∀ c, c ∉ s.pending) : Visible s :=
  fun c _ hp => absurd (AList.mem_of_lookup hp) (h c)

/-- While a session is active, a waiting request is its owner's. -/
theorem owner_mem (hx : Exclusive s) {a : Active} (was : s.active = some a)
    {c : ConnectionId} (hc : c ∈ s.pending) : a.connection ∈ s.pending := by
  rwa [← hx.own_prompt a was c hc]

/-- Nothing else waits once the entry of `c` is gone. -/
theorem erase_empty (hx : Exclusive s) {c : ConnectionId} (hc : c ∈ s.pending)
    (d : ConnectionId) : d ∉ s.pending.erase c := by
  intro hd
  obtain ⟨hne, hd⟩ := AList.mem_erase.mp hd
  exact hne (hx.one_prompt d hd c hc)

/-- Every rule keeps the waiting request on screen, except on the three
occasions that `LeavesPromptAlone` excludes. -/
theorem Reacts.visible (rule : Reacts s input s' effects) (hx : Exclusive s)
    (alone : LeavesPromptAlone ⟨s, input, effects, s'⟩) (h : Visible s) :
    Visible s' := by
  cases rule with
  | ignored => exact h
  | stored => exact h
  | refused => exact h
  | ponged => exact h
  | prompted admitted =>
      rename_i incoming around displayName capabilities
      have rule : Reacts s (.message incoming around) _ _ :=
        .prompted admitted
      have hx' := rule.exclusive hx
      intro c p hp
      have hc : c = incoming.connection :=
        hx'.one_prompt c (AList.mem_of_lookup hp) _
          ((AList.mem_insert s.pending).mpr (Or.inl rfl))
      subst hc
      rw [AList.lookup_insert] at hp
      cases hp
      rfl
  | withdrawn message other => exact fun c p hp => h c p (lookup_of_lookup_erase hp)
  | endedBySender message was owner =>
      rename_i incoming around reason a
      refine visible_of_empty ?_
      intro d hd
      obtain ⟨hne, hd⟩ := AList.mem_erase.mp hd
      exact hne ((hx.own_prompt a was d hd).trans owner)
  | candidate was owner has => exact h
  | offered message was owner none_yet => exact h
  | offerFailed message was owner none_yet fails peer =>
      refine visible_of_empty fun c hc => ?_
      have ok := alone.offer _ _ _ _ was (owner_mem hx was hc) rfl message owner none_yet
      rw [fails] at ok
      cases ok
  | denied waiting no => exact visible_of_empty (erase_empty hx (AList.mem_of_lookup waiting))
  | approved waiting yes =>
      exact visible_of_empty (erase_empty hx (AList.mem_of_lookup waiting))
  | forwarded was forwards => exact h
  | connected was =>
      refine visible_of_empty fun c hc => ?_
      exact (alone.webrtc _ _ was (owner_mem hx was hc) rfl).1 rfl
  | disconnected was =>
      refine visible_of_empty fun c hc => ?_
      exact (alone.webrtc _ _ was (owner_mem hx was hc) rfl).2.1 rfl
  | mediaFailed was =>
      refine visible_of_empty fun c hc => ?_
      exact (alone.webrtc _ _ was (owner_mem hx was hc) rfl).2.2 _ rfl
  | lost was dead =>
      rename_i seen a
      refine visible_of_empty fun c hc => ?_
      obtain ⟨p, hp⟩ := AList.exists_lookup hc
      obtain ⟨hp, retained⟩ := lookup_of_lookup_swept hp
      have hc := AList.mem_of_lookup hp
      rw [hx.reply_pending c p hp, hx.own_prompt a was c hc] at retained
      have alive := alone.tick a seen was (owner_mem hx was hc) rfl retained
      rw [hx.reply_active a was, alive] at dead
      cases dead
  | cleared alive stale =>
      rename_i seen
      refine visible_of_empty fun c hc => ?_
      obtain ⟨p, hp⟩ := AList.exists_lookup hc
      have hstatus : (s.swept seen).status = .pendingConsent p.displayName c :=
        h c p (lookup_of_lookup_swept hp).1
      have hc' : c ∈ (s.swept seen).pending := hc
      simp [stalePrompt, hstatus, hc'] at stale
  | ticked alive fresh => exact fun c p hp => h c p (lookup_of_lookup_swept hp).1

end SessionLoop

/-- A move after which nothing runs and no prompt is up hides what still waits. -/
theorem Visible.absurd_of_no_prompt {s' : SessionLoop} {c : ConnectionId}
    (h : Visible s') (hc : c ∈ s'.pending)
    (hstatus : ∀ n d, s'.status ≠ .pendingConsent n d) : False := by
  obtain ⟨p, hp⟩ := AList.exists_lookup hc
  exact hstatus _ _ (h c p hp)

/-- A move that ends with its waiting request on screen has left the prompt
alone. -/
theorem leavesPromptAlone_of_visible {move : LoopMove} (made : sessionLoop.Makes move)
    (hx : Exclusive move.source) (h : Visible move.target) : LeavesPromptAlone move := by
  have hreact := react_of_makes made
  refine ⟨?_, ?_, ?_⟩
  · intro a event was hmem haction
    rw [haction] at hreact
    refine ⟨?_, ?_, ?_⟩
    · rintro rfl
      rw [SessionLoop.react_webrtc_connected was] at hreact
      rw [← hreact] at h
      exact h.absurd_of_no_prompt hmem (by simp)
    · rintro rfl
      rw [SessionLoop.react_webrtc_disconnected was] at hreact
      rw [← hreact] at h
      exact h.absurd_of_no_prompt hmem fun n c => move.source.idleStatus_ne not_false
    · rintro reason rfl
      rw [SessionLoop.react_webrtc_failed was] at hreact
      rw [← hreact] at h
      exact h.absurd_of_no_prompt hmem (by simp [SessionLoop.afterEnd])
  · intro a incoming around sdp was hmem haction message owner none_yet
    by_contra fails
    rw [Bool.not_eq_true] at fails
    obtain ⟨text, hfailed⟩ :=
      SessionLoop.react_offer_failed message was owner none_yet fails
    rw [haction, hfailed] at hreact
    rw [← hreact] at h
    exact h.absurd_of_no_prompt hmem (by simp [SessionLoop.afterEnd])
  · intro a seen was hmem haction retained
    by_contra dead
    rw [Bool.not_eq_true, ← hx.reply_active a was] at dead
    rw [haction, SessionLoop.react_tick_lost was dead] at hreact
    rw [← hreact] at h
    obtain ⟨p, hp⟩ := AList.exists_lookup hmem
    have hkept : (move.source.swept seen).pending.lookup a.connection = some p := by
      refine AList.lookup_retain_eq_some.mpr ⟨hp, ?_⟩
      rw [hx.reply_pending _ p hp]
      exact retained
    exact h.absurd_of_no_prompt (AList.mem_of_lookup hkept)
      fun n c => move.source.idleStatus_ne not_false

/-- **When a blocking request is visible.**  Every state a run passes through
shows its waiting request, if and only if no step of the run disturbs the prompt
of the active sender with news of its old media session. -/
theorem request_visible_iff_undisturbed (run : sessionLoop.Run past s) :
    (∀ x ∈ System.states past s, Visible x) ↔
      ∀ move ∈ past, LeavesPromptAlone move := by
  refine run.forall_states_iff ?_ ?_ ?_
  · rintro s ⟨config, status, undiscoverable, -, rfl⟩
    exact SessionLoop.visible_of_empty fun c => AList.notMem_empty c
  · rintro move made ⟨earlier, before⟩ alone h
    exact (reacts_of_makes made).visible (exclusive_of_run before) alone h
  · rintro move made ⟨earlier, before⟩ h
    exact leavesPromptAlone_of_visible made (exclusive_of_run before) h

/-- The exact condition, for a sender that asks again while it casts. -/
theorem request_visible_iff_undisturbed_on_asking_again :
    let start := SessionLoop.startedWith ⟨"Living room", 7000, 8000, 60⟩
    let inputs : List Input :=
      [.asks ⟨1⟩ "Alice", .allows ⟨1⟩, .asks ⟨1⟩ "Alice", .webrtc .connected]
    let past := sessionLoop.history inputs start
    (∀ x ∈ System.states past (sessionLoop.final inputs start), Visible x) ↔
      ∀ move ∈ past, LeavesPromptAlone move :=
  request_visible_iff_undisturbed (System.Run.of_actions _ (sessionLoop_init _) rfl)

/-- A sender that asks again before its media connects has its prompt replaced
by the picture of its own session, and its request goes on blocking others. -/
theorem request_hidden_by_own_media :
    ¬ ∀ past s, sessionLoop.Run past s → Visible s := by
  intro visible
  have run := System.Run.of_actions
    [.asks ⟨1⟩ "Alice", .allows ⟨1⟩, .asks ⟨1⟩ "Alice", .webrtc .connected]
    (sessionLoop_init ⟨"Living room", 7000, 8000, 60⟩) rfl
  have hstatus := visible _ _ run ⟨1⟩ ⟨⟨⟨1⟩⟩, "Alice", 30⟩ (by decide)
  cases hstatus

/-! ## The screen tells the truth about the running session -/

/-- The screen names the running session, and only a running one. -/
structure Truthful (s : SessionLoop) : Prop where
  /-- A running session is on screen, or its own sender's next request is. -/
  shown : ∀ a, s.active = some a →
    s.status = .negotiating a.displayName ∨ s.status = .streaming a.displayName ∨
      ∃ n, s.status = .pendingConsent n a.connection
  /-- What the screen shows as running is running. -/
  runs : ∀ n, s.status = .negotiating n ∨ s.status = .streaming n →
    ∃ a, s.active = some a ∧ a.displayName = n

/-- The idle page means that no media is being received. -/
theorem Truthful.no_media_of_waiting (h : Truthful s) (idle : s.status = .waiting) :
    s.active = none := by
  cases was : s.active with
  | none => rfl
  | some a =>
      rcases h.shown a was with hshown | hshown | ⟨n, hshown⟩ <;>
        rw [idle] at hshown <;> cases hshown

/-- A connection whose waiting request is denied owns no session afterwards. -/
def DenialEnds (move : LoopMove) : Prop :=
  ∀ decision a, move.action = .decision decision → decision.accept = false →
    decision.connection ∈ move.source.pending → move.target.active = some a →
      a.connection ≠ decision.connection

/-- No session is running when a waiting request is denied. -/
def DeniesNoRunning (move : LoopMove) : Prop :=
  ∀ decision, move.action = .decision decision → decision.accept = false →
    decision.connection ∈ move.source.pending → move.source.active = none

/-- With no session running, a page that names none is truthful. -/
theorem Truthful.of_none (none_runs : s.active = none)
    (quiet : ∀ n, s.status ≠ .negotiating n ∧ s.status ≠ .streaming n) :
    Truthful s where
  shown a ha := by
    rw [none_runs] at ha
    cases ha
  runs n hn := by
    rcases hn with hn | hn
    · exact absurd hn (quiet n).1
    · exact absurd hn (quiet n).2

namespace SessionLoop

variable {s' : SessionLoop} {input : Input} {effects : List Effect}

theorem idleStatus_quiet (s : SessionLoop) (n : String) :
    s.idleStatus ≠ .negotiating n ∧ s.idleStatus ≠ .streaming n :=
  ⟨s.idleStatus_ne not_false, s.idleStatus_ne not_false⟩

/-- While a session runs, the liveness tick finds no stale prompt that it keeps
the session of: prompt and session hang on one reply channel. -/
theorem not_stale_of_active (hx : Exclusive s) (hscreen : OnScreen s)
    {seen : Liveness} {a : Active} (was : s.active = some a)
    (alive : seen.atActive a.reply.id = true) :
    (s.swept seen).stalePrompt = false := by
  by_contra hstale
  rw [Bool.not_eq_false] at hstale
  cases hstatus : s.status with
  | pendingConsent n c =>
      have hstatus' : (s.swept seen).status = .pendingConsent n c := hstatus
      have gone : c ∉ (s.swept seen).pending := by
        simpa [stalePrompt, hstatus'] using hstale
      rcases hscreen n c hstatus with ⟨p, hp, -⟩ | ⟨hnone, -⟩
      · have howner := hx.own_prompt a was c (AList.mem_of_lookup hp)
        have retained : seen.atRetain p.reply.id = true := by
          rw [hx.reply_pending c p hp, howner, ← hx.reply_active a was]
          exact seen.closed_stays_closed _ alive
        have hkept : (s.swept seen).pending.lookup c = some p :=
          AList.lookup_retain_eq_some.mpr ⟨hp, retained⟩
        exact gone (AList.mem_of_lookup hkept)
      · rw [was] at hnone
        cases hnone
  | _ =>
      have hstatus' : (s.swept seen).status = s.status := rfl
      simp [stalePrompt, hstatus', hstatus] at hstale

/-- Every rule keeps the screen truthful, except the denial of a sender whose
session is running. -/
theorem Reacts.truthful (rule : Reacts s input s' effects) (hx : Exclusive s)
    (hscreen : OnScreen s) (idle : DeniesNoRunning ⟨s, input, effects, s'⟩)
    (h : Truthful s) : Truthful s' := by
  cases rule with
  | ignored => exact h
  | stored => exact ⟨h.shown, h.runs⟩
  | refused => exact h
  | ponged => exact h
  | prompted admitted =>
      rename_i incoming around displayName capabilities
      refine ⟨?_, ?_⟩
      · intro a was
        refine Or.inr (Or.inr ⟨displayName, ?_⟩)
        rw [admitted.own a was]
      · intro n hn
        rcases hn with hn | hn <;> cases hn
  | withdrawn message other => exact ⟨h.shown, h.runs⟩
  | endedBySender => exact .of_none rfl s.idleStatus_quiet
  | candidate was owner has => exact h
  | offered message was owner none_yet =>
      refine ⟨?_, ?_⟩
      · intro a ha
        cases ha
        have hshown := h.shown _ was
        exact hshown
      · intro n hn
        obtain ⟨b, hb, hname⟩ := h.runs n hn
        rw [was] at hb
        cases hb
        exact ⟨_, rfl, hname⟩
  | offerFailed => exact .of_none rfl (by simp [afterEnd])
  | denied waiting no =>
      rename_i decision p
      have none_runs := idle decision rfl no (AList.mem_of_lookup waiting)
      exact .of_none none_runs s.idleStatus_quiet
  | approved waiting yes =>
      refine ⟨?_, ?_⟩
      · intro a ha
        cases ha
        exact Or.inl rfl
      · intro n hn
        rcases hn with hn | hn
        · cases hn
          exact ⟨_, rfl, rfl⟩
        · cases hn
  | forwarded was forwards => exact h
  | connected was =>
      refine ⟨?_, ?_⟩
      · intro a ha
        have ha' : s.active = some a := ha
        rw [was] at ha'
        cases ha'
        exact Or.inr (Or.inl rfl)
      · intro n hn
        rcases hn with hn | hn
        · cases hn
        · cases hn
          exact ⟨_, was, rfl⟩
  | disconnected => exact .of_none rfl s.idleStatus_quiet
  | mediaFailed => exact .of_none rfl (by simp [afterEnd])
  | lost was dead => exact .of_none rfl s.idleStatus_quiet
  | cleared alive stale =>
      rename_i seen
      refine .of_none ?_ s.idleStatus_quiet
      cases was : s.active with
      | none => exact was
      | some a =>
          rw [not_stale_of_active hx hscreen was (alive a was)] at stale
          cases stale
  | ticked alive fresh => exact ⟨h.shown, h.runs⟩

end SessionLoop

/-- Before its first event the loop shows a page that names no session. -/
theorem truthful_of_init (initial : sessionLoop.init s) : Truthful s := by
  obtain ⟨config, status, undiscoverable, startup, rfl⟩ := initial
  refine .of_none rfl fun n => ?_
  have hstatus : (SessionLoop.new config status undiscoverable).status = status := rfl
  rw [hstatus]
  constructor <;> rintro rfl <;> exact startup

/-- A move that ends on a truthful screen has denied no running sender. -/
theorem deniesNoRunning_of_truthful {move : LoopMove}
    (made : sessionLoop.Makes move) (h : Truthful move.target) :
    DeniesNoRunning move := by
  intro decision haction no hmem
  obtain ⟨p, waiting⟩ := AList.exists_lookup hmem
  cases was : move.source.active with
  | none => rfl
  | some a =>
      -- The denied request was the owner's, and its session is still there.
      have hreact := react_of_makes made
      rw [haction, SessionLoop.react_deny waiting no] at hreact
      rw [← hreact] at h
      rcases h.shown a was with hshown | hshown | ⟨n, hshown⟩
      · exact absurd hshown (move.source.idleStatus_ne not_false)
      · exact absurd hshown (move.source.idleStatus_ne not_false)
      · exact absurd hshown (move.source.idleStatus_ne not_false)

/-- A denial that found no session leaves none behind. -/
theorem denialEnds_of_deniesNoRunning {move : LoopMove}
    (made : sessionLoop.Makes move) (idle : DeniesNoRunning move) :
    DenialEnds move := by
  intro decision a haction no hmem htarget
  obtain ⟨p, waiting⟩ := AList.exists_lookup hmem
  have hreact := react_of_makes made
  rw [haction, SessionLoop.react_deny waiting no] at hreact
  have hsame : move.target.active = move.source.active := by rw [← hreact]
  rw [hsame, idle decision haction no hmem] at htarget
  cases htarget

/-- **When the screen tells the truth.**  In every state a run passes through the
screen names the running session and only a running one, and a denied sender
owns no session, if and only if no step of the run denies a request while a
session is running. -/
theorem screen_truthful_iff_denies_no_running (run : sessionLoop.Run past s) :
    ((∀ x ∈ System.states past s, Truthful x) ∧ ∀ move ∈ past, DenialEnds move) ↔
      ∀ move ∈ past, DeniesNoRunning move := by
  have hstates : (∀ x ∈ System.states past s, Truthful x) ↔
      ∀ move ∈ past, DeniesNoRunning move := by
    refine run.forall_states_iff (fun s => truthful_of_init) ?_ ?_
    · rintro move made ⟨earlier, before⟩ idle h
      exact (reacts_of_makes made).truthful (exclusive_of_run before)
        (onScreen_of_run before) idle h
    · rintro move made - h
      exact deniesNoRunning_of_truthful made h
  constructor
  · rintro ⟨truthful, -⟩
    exact hstates.mp truthful
  · intro idle
    refine ⟨hstates.mpr idle, ?_⟩
    intro move hmove
    exact denialEnds_of_deniesNoRunning (run.of_mem hmove).2 (idle move hmove)

/-- The exact condition, for a sender that asks again while it casts and is
denied. -/
theorem screen_truthful_iff_denies_no_running_on_asking_again :
    let start := SessionLoop.startedWith ⟨"Living room", 7000, 8000, 60⟩
    let inputs : List Input :=
      [.asks ⟨1⟩ "Alice", .allows ⟨1⟩, .offers ⟨1⟩, .webrtc .connected,
        .asks ⟨1⟩ "Alice", .denies ⟨1⟩]
    let past := sessionLoop.history inputs start
    ((∀ x ∈ System.states past (sessionLoop.final inputs start), Truthful x) ∧
        ∀ move ∈ past, DenialEnds move) ↔
      ∀ move ∈ past, DeniesNoRunning move :=
  screen_truthful_iff_denies_no_running
    (System.Run.of_actions _ (sessionLoop_init _) rfl)

/-- Denying a sender that asks again while it casts shows the idle page over its
running session. -/
theorem idle_page_over_running_session :
    ¬ ∀ past s, sessionLoop.Run past s → Truthful s := by
  intro truthful
  have run := System.Run.of_actions
    [.asks ⟨1⟩ "Alice", .allows ⟨1⟩, .offers ⟨1⟩, .webrtc .connected,
      .asks ⟨1⟩ "Alice", .denies ⟨1⟩]
    (sessionLoop_init ⟨"Living room", 7000, 8000, 60⟩) rfl
  have hactive := (truthful _ _ run).no_media_of_waiting rfl
  cases hactive

end OpenPlay
