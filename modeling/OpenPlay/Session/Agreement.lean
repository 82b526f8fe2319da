import OpenPlay.Foundation.Lease
import OpenPlay.Receiver.Senders
import OpenPlay.Session.Network

/-!
# Sender and receiver agree on the running session

A sender is in its session from the moment it reads a `SessionAccept` until it
reads a `SessionEnd`; the receiver has a session from the approval until it takes
the session down.  The screen is a lease, `SessionAccept` its grant and
`SessionEnd` its revocation, and the queue `down` of a connection is the channel
between the two.  `Agreement` is the invariant of leases for one connection, up to
the closing of that connection.

The session loop is the grantor: it accepts only whom it makes the owner, and it
says goodbye to an owner it drops (`grants_of_makes`, `releases_of_makes`).  The
cast is the client (`Link.Moves.agreement`).
-/

namespace OpenPlay

open Transition

/-! ## The receiver as the grantor -/

/-- Only an approval sends a `SessionAccept`. -/
theorem SessionLoop.Sends.accept {s s' : SessionLoop} {input : Input}
    {reply : ConnectionHandle} {message : SignalingMessage}
    (sends : Sends s input s' reply message) (accept : message.isSessionAccept = true) :
    ∃ c p, s.pending.lookup c = some p ∧ reply = p.reply ∧
      s'.active = some (s.sessionOf c p) := by
  cases sends with
  | approved is waiting dest active => exact ⟨_, _, waiting, dest, active⟩
  | forwarded was dest forwards => cases forwards <;> cases accept
  | refused => cases accept
  | ponged => cases accept
  | denied => cases accept
  | ended => cases accept

/-- The loop accepts only whom it makes the owner of the session. -/
theorem grants_of_makes {move : LoopMove} (made : sessionLoop.Makes move)
    (hx : Exclusive move.source) {c : ConnectionId} :
    ∀ m ∈ sentTo c move.output, m.isSessionAccept = true →
      move.target.ownsSession c = true := by
  intro m mem accept
  obtain ⟨reply, hsend, hid⟩ := mem_sentTo.mp mem
  obtain ⟨d, p, hlookup, rfl, hactive⟩ :=
    ((reacts_of_makes made).sends hsend).accept accept
  refine SessionLoop.ownsSession_iff.mpr ⟨_, hactive, ?_⟩
  rw [SessionLoop.sessionOf_connection, ← hid, hx.reply_pending _ p hlookup]

/-- The loop says goodbye to an owner it drops. -/
theorem releases_of_makes {move : LoopMove} (made : sessionLoop.Makes move)
    (hx : Exclusive move.source) {c : ConnectionId}
    (owned : move.source.ownsSession c = true) :
    move.target.ownsSession c = true ∨
      ∃ m ∈ sentTo c move.output, m.isSessionEnd = true := by
  have keeps := keepsOwner_of_makes made hx
  obtain ⟨a, was, rfl⟩ := SessionLoop.ownsSession_iff.mp owned
  cases htarget : move.target.active with
  | some b =>
      refine Or.inl (SessionLoop.ownsSession_iff.mpr ⟨b, htarget, ?_⟩)
      exact (keeps.same_owner a b was htarget).symm
  | none =>
      obtain ⟨⟨reason, hends⟩, -⟩ := keeps.one_end a was htarget
      have mem : Effect.send a.reply (.sessionEnd reason) ∈
          move.output.filter Effect.isSessionEnd := by
        rw [hends]
        exact List.mem_cons_self
      refine Or.inr ⟨.sessionEnd reason, ?_, rfl⟩
      exact mem_sentTo.mpr ⟨a.reply, (List.mem_filter.mp mem).1, hx.reply_active a was⟩

/-! ## The sender as the client -/

/-- The sender has read the acceptance and not yet left its session. -/
def Phase.isEngaged : Phase → Bool
  | .building | .starting | .driving _ => true
  | _ => false

/-- The sender is inside `drive_session`. -/
def Phase.isDriving : Phase → Bool
  | .driving _ => true
  | _ => false

theorem Phase.isEngaged_of_isDriving {phase : Phase} (h : phase.isDriving = true) :
    phase.isEngaged = true := by
  cases phase with
  | driving polled => rfl
  | _ => cases h

/-- A cast enters its session by reading an acceptance, and does not go on when it
reads the end of it. -/
theorem Cast.Goes.engaged {config : CastConfig} {stopFlag writer : Bool}
    {phase phase' : Phase} {input : CastInput} {messages : List SignalingMessage}
    (goes : Goes config stopFlag writer phase input phase' messages)
    (engaged : phase'.isEngaged = true) :
    (∃ m applied, input = .incoming (some m) applied ∧ m.isSessionAccept = true) ∨
      (phase.isEngaged = true ∧
        ∀ m applied, input = .incoming (some m) applied → ¬ m.isSessionEnd = true) := by
  cases goes with
  | accepted => exact Or.inl ⟨_, _, rfl, rfl⟩
  | built => exact Or.inr ⟨rfl, fun m applied h => by cases h⟩
  | started => exact Or.inr ⟨rfl, fun m applied h => by cases h⟩
  | drivePolled => exact Or.inr ⟨rfl, fun m applied h => by cases h⟩
  | drives heard media =>
      refine Or.inr ⟨rfl, ?_⟩
      intro m applied h
      rw [heard m applied h]
      exact Bool.false_ne_true
  | _ => cases engaged

/-- The two ends of a connection agree on the session of `c`, or the connection is
closing. -/
def Agreement (l : Link) (owned : Prop) : Prop :=
  l.closing = true ∨
    Lease.Agrees (fun m : SignalingMessage => m.isSessionAccept = true)
      (fun m => m.isSessionEnd = true) (l.cast.phase.isEngaged = true) owned l.down

theorem SignalingMessage.valid_of_isSessionEnd {m : SignalingMessage}
    (h : m.isSessionEnd = true) : m.valid = true := by
  cases m with
  | sessionEnd reason => rfl
  | _ => cases h

/-- Whatever happens on a connection keeps the agreement. -/
theorem Link.Moves.agreement {now : Nat} {l l' : Link} {action : LinkAction}
    {owned : Prop} (moves : Moves now l action l') (h : Agreement l owned) :
    Agreement l' owned := by
  cases moves with
  | connected offline => exact Or.inr (.idle (by simp [opened, Phase.isEngaged]))
  | stopPressed => exact h
  | went own goes =>
      refine h.imp_right fun agrees => agrees.weaken fun engaged => ?_
      rcases goes.engaged engaged with ⟨m, applied, rfl, -⟩ | ⟨before, -⟩
      · cases own
      · exact before
  | heard queue valid goes =>
      refine h.imp_right fun agrees => ?_
      rw [queue] at agrees
      rename_i message rest messages applied phase'
      by_cases accept : message.isSessionAccept = true
      · exact agrees.grant accept
      · refine agrees.read fun engaged => ?_
        rcases goes.engaged engaged with ⟨m, applied', hinput, haccept⟩ | ⟨before, quiet⟩
        · cases hinput
          exact absurd haccept accept
        · exact ⟨before, quiet message applied rfl⟩
  | heardEnd queue gone goes =>
      refine h.imp_right fun agrees => agrees.weaken fun engaged => ?_
      rcases goes.engaged engaged with ⟨m, applied, hinput, -⟩ | ⟨before, -⟩
      · cases hinput
      · exact before
  | discarded queue invalid =>
      refine h.imp_right fun agrees => ?_
      rw [queue] at agrees
      refine agrees.read fun engaged => ⟨engaged, fun ends => ?_⟩
      rw [SignalingMessage.valid_of_isSessionEnd ends] at invalid
      cases invalid
  | read queue serving => exact h
  | idled serving late => exact Or.inl rfl
  | hungUp serving gone => exact Or.inl rfl
  | broke => exact Or.inl (by simp [closing])
  | readerEnded done => exact h
  | writerEnded done => exact h

/-- Whatever the session loop does keeps the agreement. -/
theorem Agreement.replied {l : Link} {move : LoopMove} {c : ConnectionId}
    (made : sessionLoop.Makes move) (hx : Exclusive move.source)
    (h : Agreement l (move.source.ownsSession c = true)) :
    Agreement (l.replied (sentTo c move.output)) (move.target.ownsSession c = true) := by
  cases closing : l.closing with
  | true => exact Or.inl (by rw [Link.replied_closing, closing])
  | false =>
      rcases h with h | agrees
      · rw [closing] at h
        cases h
      · refine Or.inr ?_
        rw [Link.replied_cast, Link.replied_down l _ closing]
        exact agrees.send (grants_of_makes made hx) (releases_of_makes made hx)

/-! ## The composition -/

variable {past : List NetworkMove} {n : Network}

/-- One step of the network keeps the agreement on every connection. -/
theorem agreement_of_makes {move : NetworkMove} (made : network.Makes move)
    (hx : Exclusive move.source.receiver.loop) (c : ConnectionId)
    (h : Agreement (move.source.link c)
      (move.source.receiver.loop.ownsSession c = true)) :
    Agreement (move.target.link c) (move.target.receiver.loop.ownsSession c = true) := by
  cases Network.step_sees made c with
  | own is moves receiver now =>
      rw [receiver]
      exact moves.agreement h
  | still link loop now =>
      rw [link, loop]
      exact h
  | heard is inbox loopMade link now =>
      rw [link]
      have popped : Agreement (move.source.link c).popped _ := h
      exact popped.replied loopMade hx
  | elsewhere isInput other loopMade link now =>
      rw [link]
      exact h.replied loopMade hx

theorem agreement_of_run (run : network.Run past n) (c : ConnectionId) :
    Agreement (n.link c) (n.receiver.loop.ownsSession c = true) := by
  induction run with
  | start initial =>
      obtain ⟨-, hlink⟩ := initial
      rw [hlink]
      exact Or.inl rfl
  | move before made ih =>
      exact agreement_of_makes made (network_exclusive_of_run before) c ih

/-- The end of the session, or of the connection, is on its way to the sender. -/
def Link.ending (l : Link) : Prop :=
  (∃ reason, SignalingMessage.sessionEnd reason ∈ l.down) ∨ l.closing = true

/-- **Sender and receiver agree on the running session.**  In every reachable
state, a sender that drives its session is the one the receiver shows, or it is
about to be told otherwise; so of two senders that drive their sessions, one is
about to be told. -/
theorem sessions_agree (run : network.Run past n) :
    (∀ c, (n.link c).cast.phase.isDriving = true →
      (∃ a, n.receiver.loop.active = some a ∧ a.connection = c) ∨ (n.link c).ending) ∧
    ∀ c d, c ≠ d → (n.link c).cast.phase.isDriving = true →
      (n.link d).cast.phase.isDriving = true → (n.link c).ending ∨ (n.link d).ending := by
  have one : ∀ c, (n.link c).cast.phase.isDriving = true →
      (∃ a, n.receiver.loop.active = some a ∧ a.connection = c) ∨ (n.link c).ending := by
    intro c driving
    rcases agreement_of_run run c with closing | agrees
    · exact Or.inr (Or.inr closing)
    · rcases agrees.use (Phase.isEngaged_of_isDriving driving) with owned | ⟨m, mem, ends⟩
      · exact Or.inl (SessionLoop.ownsSession_iff.mp owned)
      · cases m with
        | sessionEnd reason => exact Or.inr (Or.inl ⟨reason, mem⟩)
        | _ => cases ends
  refine ⟨one, ?_⟩
  intro c d hne hc hd
  rcases one c hc with ⟨a, ha, rfl⟩ | ending
  · rcases one d hd with ⟨b, hb, rfl⟩ | ending
    · -- One session has one owner.
      rw [ha] at hb
      cases hb
      exact absurd rfl hne
    · exact Or.inr ending
  · exact Or.inl ending

/-- Two senders ask; the first is let in and drives its session. -/
theorem sessions_agree_for_two_senders :
    let actions := NetworkAction.asks ⟨1⟩ ++ NetworkAction.allows ⟨1⟩ ++
      NetworkAction.builds ⟨1⟩ ++ NetworkAction.asks ⟨2⟩
    let n := network.final actions .livingRoom
    (n.link ⟨1⟩).cast.phase.isDriving = true ∧
      (∀ c, (n.link c).cast.phase.isDriving = true →
        (∃ a, n.receiver.loop.active = some a ∧ a.connection = c) ∨ (n.link c).ending) ∧
      ∀ c d, c ≠ d → (n.link c).cast.phase.isDriving = true →
        (n.link d).cast.phase.isDriving = true →
          (n.link c).ending ∨ (n.link d).ending :=
  ⟨rfl, sessions_agree (System.Run.of_actions _ livingRoom_init rfl)⟩

end OpenPlay
