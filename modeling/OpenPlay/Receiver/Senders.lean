import OpenPlay.Receiver.Consent

/-!
# What one sender is to the loop

The rules of the loop, sorted by the sender they concern.  A sender is nothing to
the loop (`Gone`), waits for an answer, or owns the session.  The lemmas say what
moves a sender between the three and which reply goes with it: why a session ends
(`EndsSession`), and on what occasion each kind of reply is sent (`Sends`).
-/

namespace OpenPlay

open Transition

/-- The input is a request of `c`. -/
def Input.IsRequestOf (input : Input) (c : ConnectionId) : Prop :=
  ∃ incoming around, input = .message incoming around ∧ incoming.connection = c ∧
    incoming.message.isSessionRequest = true

namespace SessionLoop

variable {s s' : SessionLoop} {input : Input} {effects : List Effect}
variable {c : ConnectionId}

theorem ownsSession_iff :
    s.ownsSession c = true ↔ ∃ a, s.active = some a ∧ a.connection = c := by
  rw [ownsSession, Option.any_eq_true]
  simp

/-- The loop knows nothing of `c`. -/
def Gone (s : SessionLoop) (c : ConnectionId) : Prop :=
  c ∉ s.pending ∧ s.ownsSession c = false

/-! ## Ends and replies -/

/-- Why the session `a` ends on an input. -/
inductive EndsSession (a : Active) : Input → Prop
  | goodbye {incoming : IncomingMessage} {around : Surroundings}
      (owner : a.connection = incoming.connection)
      (message : incoming.message.isSessionEnd = true) :
      EndsSession a (.message incoming around)
  | offer {incoming : IncomingMessage} {around : Surroundings} {sdp : String}
      (owner : a.connection = incoming.connection)
      (message : incoming.message = .sdpOffer sdp) (none_yet : a.media = none)
      (fails : around.accepts sdp = false) : EndsSession a (.message incoming around)
  | disconnected : EndsSession a (.webrtc .disconnected)
  | failed {reason : String} : EndsSession a (.webrtc (.failed reason))
  | lost {seen : Liveness} (dead : seen.atActive a.reply.id = false) :
      EndsSession a (.tick seen)

/-- The occasions on which the loop sends a message on `reply`. -/
inductive Sends (s : SessionLoop) (input : Input) (s' : SessionLoop)
    (reply : ConnectionHandle) : SignalingMessage → Prop
  | refused {incoming : IncomingMessage} {around : Surroundings}
      {reason : RejectReason} (is : input = .message incoming around)
      (request : incoming.message.isSessionRequest = true) (dest : reply = incoming.reply)
      (same : s' = s) : Sends s input s' reply (.sessionReject reason)
  | ponged {t now : UInt64} : Sends s input s' reply (.pong t now)
  | denied {decision : Decision} {p : Pending} (is : input = .decision decision)
      (waiting : s.pending.lookup decision.connection = some p) (dest : reply = p.reply)
      (pending : s'.pending = s.pending.erase decision.connection)
      (active : s'.active = s.active) : Sends s input s' reply (.sessionReject .denied)
  | approved {decision : Decision} {p : Pending} (is : input = .decision decision)
      (waiting : s.pending.lookup decision.connection = some p) (dest : reply = p.reply)
      (active : s'.active = some (s.sessionOf decision.connection p)) :
      Sends s input s' reply (s.acceptance p)
  | forwarded {a : Active} {event : WebRtcEvent} {message : SignalingMessage}
      (was : s.active = some a) (dest : reply = a.reply)
      (forwards : Forwards event message) : Sends s input s' reply message
  | ended {a : Active} {reason : SessionEndReason} (was : s.active = some a)
      (dest : reply = a.reply) (gone : s'.active = none) (why : EndsSession a input) :
      Sends s input s' reply (.sessionEnd reason)

theorem endEffects_send (a : Active) (reason : SessionEndReason)
    (status : Status) {reply : ConnectionHandle} {message : SignalingMessage}
    (h : Effect.send reply message ∈ endEffects a reason status) :
    reply = a.reply ∧ message = .sessionEnd reason := by
  unfold endEffects at h
  rcases List.mem_append.mp h with h | h
  · obtain ⟨media, -, hmedia⟩ := List.mem_map.mp h
    cases hmedia
  · rcases List.mem_cons.mp h with h | h
    · cases h
      exact ⟨rfl, rfl⟩
    · cases List.mem_singleton.mp h

/-- **Every reply has its occasion.** -/
theorem Reacts.sends (rule : Reacts s input s' effects) {reply : ConnectionHandle}
    {message : SignalingMessage} (mem : Effect.send reply message ∈ effects) :
    Sends s input s' reply message := by
  cases rule with
  | refused request =>
      cases List.mem_singleton.mp mem
      exact .refused rfl request rfl rfl
  | ponged =>
      cases List.mem_singleton.mp mem
      exact .ponged
  | denied waiting no =>
      rcases List.mem_cons.mp mem with h | h
      · cases h
        exact .denied rfl waiting rfl rfl rfl
      · cases List.mem_singleton.mp h
  | approved waiting yes =>
      rcases List.mem_cons.mp mem with h | h
      · cases h
        exact .approved rfl waiting rfl rfl
      · cases List.mem_singleton.mp h
  | forwarded was forwards =>
      cases List.mem_singleton.mp mem
      exact .forwarded was rfl forwards
  | endedBySender ends was owner =>
      obtain ⟨rfl, rfl⟩ := endEffects_send _ _ _ mem
      exact .ended was rfl rfl (.goodbye owner (by rw [ends]; rfl))
  | disconnected was =>
      obtain ⟨rfl, rfl⟩ := endEffects_send _ _ _ mem
      exact .ended was rfl rfl .disconnected
  | mediaFailed was =>
      obtain ⟨rfl, rfl⟩ := endEffects_send _ _ _ mem
      exact .ended was rfl rfl .failed
  | lost was dead =>
      obtain ⟨rfl, rfl⟩ := endEffects_send _ _ _ mem
      exact .ended was rfl rfl (.lost dead)
  | offerFailed offer was owner none_yet fails peer =>
      rcases List.mem_append.mp mem with h | h
      · rcases peer with rfl | rfl
        · cases h
        · cases List.mem_singleton.mp h
      · obtain ⟨rfl, rfl⟩ := endEffects_send _ _ _ h
        exact .ended was rfl rfl (.offer owner offer none_yet fails)
  | prompted => cases List.mem_singleton.mp mem
  | candidate => cases List.mem_singleton.mp mem
  | offered => cases List.mem_singleton.mp mem
  | connected => cases List.mem_singleton.mp mem
  | cleared => cases List.mem_singleton.mp mem
  | ignored => cases mem
  | stored => cases mem
  | withdrawn => cases mem
  | ticked => cases mem

/-- An active session stays with its connection, or has a reason to end. -/
theorem Reacts.owner_kept (rule : Reacts s input s' effects) (hx : Exclusive s)
    {a : Active} (was : s.active = some a) :
    s'.ownsSession a.connection = true ∨ EndsSession a input := by
  have kept : s'.active = s.active → s'.ownsSession a.connection = true := by
    intro same
    exact ownsSession_iff.mpr ⟨a, same.trans was, rfl⟩
  cases rule with
  | approved waiting yes =>
      refine Or.inl (ownsSession_iff.mpr ⟨_, rfl, ?_⟩)
      exact hx.own_prompt a was _ (AList.mem_of_lookup waiting)
  | offered offer was' owner none_yet =>
      rw [was] at was'
      cases was'
      exact Or.inl (ownsSession_iff.mpr ⟨_, rfl, rfl⟩)
  | endedBySender ends was' owner =>
      rw [was] at was'
      cases was'
      exact Or.inr (.goodbye owner (by rw [ends]; rfl))
  | offerFailed offer was' owner none_yet fails peer =>
      rw [was] at was'
      cases was'
      exact Or.inr (.offer owner offer none_yet fails)
  | disconnected => exact Or.inr .disconnected
  | mediaFailed => exact Or.inr .failed
  | lost was' dead =>
      rw [was] at was'
      cases was'
      exact Or.inr (.lost dead)
  | ignored => exact Or.inl (kept rfl)
  | stored => exact Or.inl (kept rfl)
  | refused => exact Or.inl (kept rfl)
  | ponged => exact Or.inl (kept rfl)
  | prompted => exact Or.inl (kept rfl)
  | withdrawn => exact Or.inl (kept rfl)
  | candidate => exact Or.inl (kept rfl)
  | denied => exact Or.inl (kept rfl)
  | forwarded => exact Or.inl (kept rfl)
  | connected => exact Or.inl (kept rfl)
  | cleared => exact Or.inl (kept rfl)
  | ticked => exact Or.inl (kept rfl)

/-! ## Coming and going -/

/-- A connection starts to wait only by its own request. -/
theorem Reacts.mem_pending_source (rule : Reacts s input s' effects)
    (h : c ∈ s'.pending) : c ∈ s.pending ∨ input.IsRequestOf c := by
  obtain ⟨p, hp⟩ := AList.exists_lookup h
  rcases rule.pending_source hp with hold | ⟨incoming, around, displayName, capabilities,
    hmessage, hconnection, admitted, -, -⟩
  · exact Or.inl (AList.mem_of_lookup hold)
  · obtain ⟨senderId, request⟩ := admitted.request
    refine Or.inr ⟨incoming, around, hmessage, hconnection, ?_⟩
    rw [request]
    rfl

/-- Why the loop gives up the request of `c` without an approval. -/
inductive GivesUp (s : SessionLoop) (c : ConnectionId) : Input → List Effect → Prop
  | goodbye {incoming : IncomingMessage} {around : Surroundings} {effects : List Effect}
      (its : incoming.connection = c) (message : incoming.message.isSessionEnd = true) :
      GivesUp s c (.message incoming around) effects
  | denied {decision : Decision} {p : Pending} {effects : List Effect}
      (waiting : s.pending.lookup c = some p)
      (told : Effect.send p.reply (.sessionReject .denied) ∈ effects) :
      GivesUp s c (.decision decision) effects
  | lost {seen : Liveness} {p : Pending} {effects : List Effect}
      (waiting : s.pending.lookup c = some p) (dead : seen.atRetain p.reply.id = false) :
      GivesUp s c (.tick seen) effects

/-- A connection waits until it is approved, or its request is given up. -/
theorem Reacts.pending_kept (rule : Reacts s input s' effects) (hc : c ∈ s.pending) :
    c ∈ s'.pending ∨ s'.ownsSession c = true ∨ GivesUp s c input effects := by
  obtain ⟨p, hp⟩ := AList.exists_lookup hc
  have swept : ∀ seen : Liveness, c ∈ (s.swept seen).pending ∨
      seen.atRetain p.reply.id = false := by
    intro seen
    cases alive : seen.atRetain p.reply.id with
    | false => exact Or.inr rfl
    | true =>
        have hp' : (s.swept seen).pending.lookup c = some p :=
          AList.lookup_retain_eq_some.mpr ⟨hp, alive⟩
        exact Or.inl (AList.mem_of_lookup hp')
  cases rule with
  | @prompted incoming around displayName capabilities admitted =>
      exact Or.inl ((AList.mem_insert _).mpr (Or.inr hc))
  | @withdrawn incoming around reason message other =>
      by_cases its : incoming.connection = c
      · exact Or.inr (Or.inr (.goodbye its (by rw [message]; rfl)))
      · exact Or.inl (AList.mem_erase.mpr ⟨fun h => its h.symm, hc⟩)
  | @endedBySender incoming around reason a message was owner =>
      by_cases its : incoming.connection = c
      · exact Or.inr (Or.inr (.goodbye its (by rw [message]; rfl)))
      · exact Or.inl (AList.mem_erase.mpr ⟨fun h => its h.symm, hc⟩)
  | @denied decision q waiting no =>
      by_cases its : decision.connection = c
      · subst its
        exact Or.inr (Or.inr (.denied waiting List.mem_cons_self))
      · exact Or.inl (AList.mem_erase.mpr ⟨fun h => its h.symm, hc⟩)
  | @approved decision q waiting yes =>
      by_cases its : decision.connection = c
      · exact Or.inr (Or.inl (ownsSession_iff.mpr ⟨_, rfl, its⟩))
      · exact Or.inl (AList.mem_erase.mpr ⟨fun h => its h.symm, hc⟩)
  | @lost seen a was dead =>
      exact (swept seen).imp_right fun dead => Or.inr (.lost hp dead)
  | @cleared seen alive stale =>
      exact (swept seen).imp_right fun dead => Or.inr (.lost hp dead)
  | @ticked seen alive fresh =>
      exact (swept seen).imp_right fun dead => Or.inr (.lost hp dead)
  | _ => exact Or.inl hc

/-- A connection gets the session only by an approval of its waiting request. -/
theorem Reacts.owner_source (rule : Reacts s input s' effects)
    (h : s'.ownsSession c = true) :
    s.ownsSession c = true ∨ (c ∈ s.pending ∧ input = .decision ⟨c, true⟩) := by
  obtain ⟨a, ha, rfl⟩ := ownsSession_iff.mp h
  rcases rule.active_source ha with ⟨b, hb, hconnection, -⟩ | ⟨p, ⟨haction, hlookup⟩, -⟩
  · exact Or.inl (ownsSession_iff.mpr ⟨b, hb, hconnection⟩)
  · exact Or.inr ⟨AList.mem_of_lookup hlookup, haction⟩

/-- A sender the loop has forgotten stays forgotten, unless it asks. -/
theorem Gone.of_reacts (h : Gone s c) (rule : Reacts s input s' effects)
    (silent : ¬ input.IsRequestOf c) : Gone s' c := by
  refine ⟨?_, ?_⟩
  · intro hc
    rcases rule.mem_pending_source hc with hc | hrequest
    · exact h.1 hc
    · exact silent hrequest
  · by_contra owns
    rw [Bool.not_eq_false] at owns
    rcases rule.owner_source owns with owned | ⟨hc, -⟩
    · rw [h.2] at owned
      cases owned
    · exact h.1 hc

/-- The loop forgets a sender that says goodbye. -/
theorem gone_of_goodbye {incoming : IncomingMessage} (around : Surroundings)
    (goodbye : incoming.message.isSessionEnd = true) (s : SessionLoop) :
    Gone (s.react (.message incoming around)).1 incoming.connection := by
  cases hmessage : incoming.message with
  | sessionEnd reason =>
      have hreact : (s.react (.message incoming around)).1 =
          { (if s.ownsSession incoming.connection then s.tearDown else (s, [])).1 with
            pending := ((if s.ownsSession incoming.connection then s.tearDown
              else (s, [])).1).pending.erase incoming.connection } := by
        rw [react, handleMessage, hmessage]
      rw [hreact]
      refine ⟨fun hc => (AList.mem_erase.mp hc).1 rfl, ?_⟩
      cases owns : s.ownsSession incoming.connection with
      | false => exact owns
      | true =>
          obtain ⟨a, was, -⟩ := ownsSession_iff.mp owns
          rw [if_pos rfl, tearDown_eq was]
          rfl
  | _ =>
      rw [hmessage] at goodbye
      cases goodbye

theorem gone_of_goodbye_made {around : Surroundings} {reason : SessionEndReason}
    (made : sessionLoop.Makes
      ⟨s, .message (.from c (.sessionEnd reason)) around, effects, s'⟩) : Gone s' c := by
  have turned : (s.react (.message (.from c (.sessionEnd reason)) around)).1 = s' :=
    react_of_makes made
  rw [← turned]
  exact gone_of_goodbye around rfl s

/-- The loop forgets a sender whose connection a tick finds closed. -/
theorem gone_of_lost {seen : Liveness} (hx : Exclusive s)
    (dead : seen.atRetain c = false) : Gone (s.react (.tick seen)).1 c := by
  have swept_away : c ∉ (s.swept seen).pending := by
    intro hc
    obtain ⟨p, hp⟩ := AList.exists_lookup hc
    obtain ⟨hlookup, retained⟩ := lookup_of_lookup_swept hp
    rw [hx.reply_pending c p hlookup, dead] at retained
    cases retained
  rw [react, dropDeadConnections_eq]
  cases was : s.active with
  | none =>
      have none_runs : (s.swept seen).ownsSession c = false := by
        rw [ownsSession]
        have was' : (s.swept seen).active = none := was
        rw [was']
        rfl
      rw [Option.any_none, if_neg Bool.false_ne_true]
      split
      · exact ⟨swept_away, none_runs⟩
      · exact ⟨swept_away, none_runs⟩
  | some a =>
      have was' : (s.swept seen).active = some a := was
      cases alive : seen.atActive a.reply.id with
      | false =>
          have lost : (!false) = true := rfl
          rw [Option.any_some, alive, if_pos lost, tearDown_eq was']
          exact ⟨swept_away, rfl⟩
      | true =>
          have other : (s.swept seen).ownsSession c = false := by
            by_contra owns
            rw [Bool.not_eq_false] at owns
            obtain ⟨b, hb, rfl⟩ := ownsSession_iff.mp owns
            rw [was'] at hb
            cases hb
            rw [hx.reply_active a was] at alive
            rw [seen.closed_stays_closed _ alive] at dead
            cases dead
          rw [Option.any_some, alive, if_neg (by decide)]
          split
          · exact ⟨swept_away, other⟩
          · exact ⟨swept_away, other⟩

end SessionLoop

end OpenPlay
