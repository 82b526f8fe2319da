import OpenPlay.Receiver.Queues

/-!
# Whose media an event is about

All the peers a receiver ever builds report on one channel, and an event on it
does not say which peer it came from.  The loop applies every event to whatever
session is active when the event is taken off, unlike the messages of senders,
which it matches against the owner of the session.

So a session is isolated from the media of the others exactly as long as no event
that matters is taken off the channel while a session other than the one that
emitted it is active.
-/

namespace OpenPlay

open Transition

variable {past : List ReceiverMove} {r : Receiver}

/-! ## Sessions in the order of their approvals -/

/-- The active session is the newest one, and every peer that can report was
built for a session that had been approved by then. -/
structure Numbered (r : Receiver) : Prop where
  newest : ∀ a, r.loop.active = some a → a.session + 1 = r.loop.activations
  built : ∀ peer ∈ r.peers, peer.session < r.loop.activations
  reported : ∀ report ∈ r.reports, report.peer ∈ r.peers

namespace SessionLoop

variable {s s' : SessionLoop} {input : Input} {effects : List Effect}

theorem endEffects_builtPeer (a : Active) (reason : SessionEndReason)
    (status : Status) : (endEffects a reason status).filterMap Effect.builtPeer = [] := by
  unfold endEffects
  cases a.media <;> rfl

/-- A turn numbers the session it approves, and builds peers only for the session
that was active. -/
theorem Reacts.numbered (rule : Reacts s input s' effects)
    (newest : ∀ a, s.active = some a → a.session + 1 = s.activations) :
    (∀ a, s'.active = some a → a.session + 1 = s'.activations) ∧
      s.activations ≤ s'.activations ∧
      ∀ peer ∈ effects.filterMap Effect.builtPeer, peer.session < s.activations := by
  cases rule with
  | approved waiting yes =>
      refine ⟨?_, Nat.le_succ _, by simp [Effect.builtPeer]⟩
      intro a ha
      cases ha
      rfl
  | offered message was owner none_yet =>
      rename_i incoming around a sdp
      have hbound := newest _ was
      refine ⟨?_, le_rfl, ?_⟩
      · intro b hb
        cases hb
        exact hbound
      · intro peer mem
        obtain rfl : peer = ⟨a.session⟩ := by simpa [Effect.builtPeer] using mem
        show a.session < s.activations
        omega
  | offerFailed message was owner none_yet fails peer =>
      rename_i incoming around a sdp text built
      have hbound := newest _ was
      refine ⟨fun a ha => (by cases ha), le_rfl, ?_⟩
      intro other mem
      rw [List.filterMap_append, endEffects_builtPeer, List.append_nil] at mem
      rcases peer with rfl | rfl
      · cases mem
      · obtain rfl : other = ⟨a.session⟩ := by simpa [Effect.builtPeer] using mem
        show a.session < s.activations
        omega
  | endedBySender =>
      rw [endEffects_builtPeer]
      exact ⟨fun a ha => (by cases ha), le_rfl, by simp⟩
  | disconnected =>
      rw [endEffects_builtPeer]
      exact ⟨fun a ha => (by cases ha), le_rfl, by simp⟩
  | mediaFailed =>
      rw [endEffects_builtPeer]
      exact ⟨fun a ha => (by cases ha), le_rfl, by simp⟩
  | lost =>
      rw [endEffects_builtPeer]
      exact ⟨fun a ha => (by cases ha), le_rfl, by simp⟩
  | _ => exact ⟨newest, le_rfl, by simp [Effect.builtPeer]⟩

end SessionLoop

theorem Numbered.of_makes {move : ReceiverMove} (made : receiver.Makes move)
    (h : Numbered move.source) : Numbered move.target := by
  rcases Receiver.step_cases made with
    ⟨decision, -, -, htarget⟩ | ⟨peer, event, -, known, -, htarget⟩ | ⟨input, hinput, -⟩
  · rw [htarget]
    exact ⟨h.newest, h.built, h.reported⟩
  · rw [htarget]
    refine ⟨h.newest, h.built, ?_⟩
    intro report mem
    rcases List.mem_append.mp mem with mem | mem
    · exact h.reported report mem
    · rw [List.mem_singleton.mp mem]
      exact known
  · obtain ⟨hreact, -, hreports, hpeers⟩ := Receiver.step_of_inputOf_some made hinput
    have rule := move.source.loop.react_reacts input
    rw [hreact] at rule
    obtain ⟨newest, grows, fresh⟩ := rule.numbered h.newest
    refine ⟨newest, ?_, ?_⟩
    · intro peer mem
      rw [hpeers] at mem
      rcases List.mem_append.mp mem with mem | mem
      · exact lt_of_lt_of_le (h.built peer mem) grows
      · exact lt_of_lt_of_le (fresh peer mem) grows
    · intro report mem
      rw [hreports] at mem
      rw [hpeers]
      exact List.mem_append_left _
        (h.reported report (Receiver.mem_reports_of_taking mem))

/-- **An event of another session is late news.**  Whatever is on the channel
while a session is active comes from that session or from an earlier one. -/
theorem former_of_foreign (run : receiver.Run past r) {report : Report} {b : Active}
    (mem : report ∈ r.reports) (was : r.loop.active = some b)
    (foreign : report.peer.session ≠ b.session) : report.peer.session < b.session := by
  have h : Numbered r := by
    refine run.invariant ?_ fun move made => Numbered.of_makes made
    rintro r ⟨⟨config, status, undiscoverable, -, hloop⟩, -, hreports, hpeers⟩
    refine ⟨?_, ?_, ?_⟩
    · rw [hloop]
      intro a ha
      cases ha
    · simp [hpeers]
    · simp [hreports]
  have hbuilt := h.built _ (h.reported report mem)
  have hnewest := h.newest b was
  omega

/-! ## Isolation -/

/-- An event that another session's peer emitted sends nothing to the active
session, leaves the page alone and does not end the session. -/
def Isolated (move : ReceiverMove) : Prop :=
  ∀ report rest b, move.action = .report → move.source.reports = report :: rest →
    move.source.loop.active = some b → report.peer.session ≠ b.session →
    (∀ message, Effect.send b.reply message ∉ move.output) ∧
      move.target.loop.status = move.source.loop.status ∧
      move.target.loop.active = some b

/-- Events that change nothing for the session `b` on the page `status`: a local
offer, which the answering side never makes use of, and the news that media
flows when the page already says so. -/
def WebRtcEvent.Harmless (b : Active) (status : Status) (event : WebRtcEvent) : Prop :=
  (∃ sdp, event = .localDescription .offer sdp) ∨
    (event = .connected ∧ status = .streaming b.displayName)

/-- While a session is active, the event taken off the channel is its own, or a
harmless one. -/
def MeetsOwner (move : ReceiverMove) : Prop :=
  ∀ report rest b, move.action = .report → move.source.reports = report :: rest →
    move.source.loop.active = some b →
    report.peer.session = b.session ∨ report.event.Harmless b move.source.loop.status

/-- A report move handles the event at the head of the channel. -/
theorem react_of_report {move : ReceiverMove} (made : receiver.Makes move)
    {report : Report} {rest : List Report} (haction : move.action = .report)
    (hqueue : move.source.reports = report :: rest) :
    move.source.loop.react (.webrtc report.event) = (move.target.loop, move.output) := by
  have hinput : move.source.inputOf move.action = some (.webrtc report.event) := by
    rw [haction, Receiver.inputOf, hqueue]
    rfl
  exact (Receiver.step_of_inputOf_some made hinput).1

/-- A harmless event is isolated from every session. -/
theorem isolated_of_meetsOwner {move : ReceiverMove} (made : receiver.Makes move)
    (h : MeetsOwner move) : Isolated move := by
  intro report rest b haction hqueue was foreign
  have hreact := react_of_report made haction hqueue
  rcases h report rest b haction hqueue was with own | ⟨sdp, hevent⟩ | ⟨hevent, hstatus⟩
  · exact absurd own foreign
  · rw [hevent, SessionLoop.react_webrtc_offer] at hreact
    obtain ⟨hloop, houtput⟩ := Prod.mk.inj hreact
    rw [← hloop, ← houtput]
    exact ⟨fun message => List.not_mem_nil, rfl, was⟩
  · rw [hevent, SessionLoop.react_webrtc_connected was] at hreact
    obtain ⟨hloop, houtput⟩ := Prod.mk.inj hreact
    rw [← hloop, ← houtput]
    refine ⟨?_, hstatus.symm, was⟩
    intro message mem
    cases List.mem_singleton.mp mem

/-- An event that reaches a session it is isolated from is harmless to it. -/
theorem meetsOwner_of_isolated {move : ReceiverMove} (made : receiver.Makes move)
    (h : Isolated move) : MeetsOwner move := by
  intro report rest b haction hqueue was
  by_cases own : report.peer.session = b.session
  · exact Or.inl own
  obtain ⟨silent, same_page, same_session⟩ := h report rest b haction hqueue was own
  have hreact := react_of_report made haction hqueue
  -- Whatever is forwarded would have been sent to the session.
  have not_forwarded : ∀ message, ¬ SessionLoop.Forwards report.event message := by
    intro message forwards
    rw [SessionLoop.react_webrtc_forwards was forwards] at hreact
    have hmem : Effect.send b.reply message ∈ move.output := by
      rw [← (Prod.mk.inj hreact).2]
      exact List.mem_cons_self
    exact silent message hmem
  have not_ended : ∀ status,
      (move.source.loop.react (.webrtc report.event)).1 ≠
        move.source.loop.afterEnd status := by
    intro status hended
    rw [hreact] at hended
    have hnone : move.target.loop.active = none := by
      have hended' : move.target.loop = _ := hended
      rw [hended']
      rfl
    rw [same_session] at hnone
    cases hnone
  refine Or.inr ?_
  cases hevent : report.event with
  | localDescription kind sdp =>
      cases kind with
      | offer => exact Or.inl ⟨sdp, rfl⟩
      | answer =>
          rw [hevent] at not_forwarded
          exact absurd (.answer sdp) (not_forwarded _)
  | iceCandidate index candidate =>
      rw [hevent] at not_forwarded
      exact absurd (.candidate index candidate) (not_forwarded _)
  | iceGatheringComplete =>
      rw [hevent] at not_forwarded
      exact absurd .complete (not_forwarded _)
  | connected =>
      rw [hevent, SessionLoop.react_webrtc_connected was] at hreact
      refine Or.inr ⟨rfl, ?_⟩
      rw [← same_page, ← (Prod.mk.inj hreact).1]
  | disconnected =>
      rw [hevent, SessionLoop.react_webrtc_disconnected was] at not_ended
      exact absurd rfl (not_ended _)
  | failed reason =>
      rw [hevent, SessionLoop.react_webrtc_failed was] at not_ended
      exact absurd rfl (not_ended _)

/-- **When sessions are isolated.**  In a run of the receiver no media event
touches a session other than the one that emitted it, if and only if every event
that is taken off the channel while a session is active is that session's own or
harmless to it. -/
theorem sessions_isolated_iff_meetsOwner (run : receiver.Run past r) :
    (∀ move ∈ past, Isolated move) ↔ ∀ move ∈ past, MeetsOwner move := by
  constructor
  · intro isolated move mem
    exact meetsOwner_of_isolated (run.of_mem mem).2 (isolated move mem)
  · intro meets move mem
    exact isolated_of_meetsOwner (run.of_mem mem).2 (meets move mem)

/-- Alice casts and goes; Bob is let in; and an event of Alice's media session is
taken off the channel. -/
def newsOfAlice (event : WebRtcEvent) : List ReceiverAction :=
  [.asks ⟨1⟩ "Alice", .allows ⟨1⟩, .answer, .offers ⟨1⟩, .emit ⟨0⟩ event, .ends ⟨1⟩,
    .asks ⟨2⟩ "Bob", .allows ⟨2⟩, .answer, .report]

/-- The exact condition, for a late event of a sender that has gone. -/
theorem sessions_isolated_iff_meetsOwner_for_two_senders :
    let start := Receiver.startedWith ⟨"Living room", 7000, 8000, 60⟩
    let past := receiver.history (newsOfAlice .iceGatheringComplete) start
    (∀ move ∈ past, Isolated move) ↔ ∀ move ∈ past, MeetsOwner move :=
  sessions_isolated_iff_meetsOwner (System.Run.of_actions _ (receiver_init _) rfl)

/-- The end of Alice's media ends the session of Bob. -/
theorem session_ended_by_former_peer :
    ¬ ∀ past r, receiver.Run past r → ∀ move ∈ past, Isolated move := by
  intro isolated
  have run : receiver.Run
      (receiver.history (newsOfAlice .disconnected)
        (.startedWith ⟨"Living room", 7000, 8000, 60⟩))
      (receiver.final (newsOfAlice .disconnected)
        (.startedWith ⟨"Living room", 7000, 8000, 60⟩)) :=
    .of_actions _ (receiver_init _) rfl
  have ended := isolated _ _ run _ List.mem_cons_self ⟨⟨0⟩, .disconnected⟩ []
    ⟨1, ⟨2⟩, ⟨⟨2⟩⟩, "Bob", none⟩ rfl rfl rfl (by decide)
  cases ended.2.2

end OpenPlay
