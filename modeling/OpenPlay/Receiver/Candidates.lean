import OpenPlay.Receiver.Consent

/-!
# What becomes of a candidate

The loop applies an ICE candidate to the media of the session its sender owns, and
drops it when there is none.  `react_applies` says what every turn applies; nothing
else is applied to any peer.  `Media` only comes with an offer, so the rules about
the active session are refined here by what a turn does to its media
(`Reacts.active_media`).
-/

namespace OpenPlay

/-- A candidate with the media line it belongs to. -/
structure Candidate where
  sdpMlineIndex : UInt32
  candidate : String
deriving DecidableEq, Repr

/-- The candidate that a message brings, with the index the receiver reads. -/
def SignalingMessage.brings : SignalingMessage → Option Candidate
  | .iceCandidate candidate _ sdpMlineIndex => some ⟨sdpMlineIndex.getD 0, candidate⟩
  | _ => none

def SignalingMessage.isOffer : SignalingMessage → Bool
  | .sdpOffer _ => true
  | _ => false

/-- The candidate an effect applies, and the peer. -/
def Effect.applied : Effect → Option (WebRtcPeer × Candidate)
  | .addIceCandidate peer sdpMlineIndex candidate => some (peer, ⟨sdpMlineIndex, candidate⟩)
  | _ => none

/-- The candidate an effect applies to `peer`. -/
def Effect.appliedTo (peer : WebRtcPeer) (effect : Effect) : Option Candidate :=
  effect.applied.bind fun applied => if applied.1 = peer then some applied.2 else none

/-- The candidates a turn applies to `peer`, in order. -/
def appliedTo (peer : WebRtcPeer) (effects : List Effect) : List Candidate :=
  effects.filterMap (Effect.appliedTo peer)

namespace SessionLoop

/-- What a turn applies. -/
def applies (s : SessionLoop) : Input → List (WebRtcPeer × Candidate)
  | .message incoming _ =>
      (incoming.message.brings.bind fun candidate =>
        (s.mediaFor incoming.connection).map fun media => (media.peer, candidate)).toList
  | _ => []

variable {s s' : SessionLoop} {input : Input} {effects : List Effect}

theorem takeActive_applied (s : SessionLoop) (reason : SessionEndReason) :
    (s.takeActive reason).2.filterMap Effect.applied = [] := by
  unfold takeActive
  cases s.active with
  | none => rfl
  | some a =>
      dsimp only
      cases a.media <;> rfl

theorem tearDown_applied (s : SessionLoop) :
    s.tearDown.2.filterMap Effect.applied = [] := by
  show (_ ++ [Effect.setStatus _]).filterMap Effect.applied = []
  rw [List.filterMap_append, takeActive_applied]
  rfl

theorem fail_applied (s : SessionLoop) (reason : String) :
    (s.fail reason).2.filterMap Effect.applied = [] := by
  show (_ ++ [Effect.setStatus _]).filterMap Effect.applied = []
  rw [List.filterMap_append, takeActive_applied]
  rfl

theorem handleSessionRequest_applied (s : SessionLoop) (connection : ConnectionId)
    (reply : ConnectionHandle) (displayName : String) (version : UInt32)
    (capabilities : Capabilities) :
    (s.handleSessionRequest connection reply displayName version
      capabilities).2.filterMap Effect.applied = [] := by
  unfold handleSessionRequest
  split_ifs <;> rfl

theorem handleDecision_applied (s : SessionLoop) (decision : Decision) :
    (s.handleDecision decision).2.filterMap Effect.applied = [] := by
  unfold handleDecision
  cases s.pending.lookup decision.connection with
  | none => rfl
  | some p =>
      dsimp only
      split_ifs <;> rfl

theorem handleOffer_applied (s : SessionLoop) (connection : ConnectionId) (sdp : String)
    (around : Surroundings) :
    (s.handleOffer connection sdp around).2.filterMap Effect.applied = [] := by
  unfold handleOffer
  cases s.active with
  | none => rfl
  | some a =>
      dsimp only
      split_ifs
      · rfl
      · rfl
      · cases around.withFrameHandler with
        | error e => exact fail_applied _ _
        | ok _ =>
            cases around.start with
            | error e => exact fail_applied _ _
            | ok _ =>
                cases around.setRemoteDescription sdp with
                | error e => exact fail_applied _ _
                | ok _ => rfl

theorem handleWebrtcEvent_applied (s : SessionLoop) (event : WebRtcEvent) :
    (s.handleWebrtcEvent event).2.filterMap Effect.applied = [] := by
  unfold handleWebrtcEvent
  cases s.active with
  | none => rfl
  | some a =>
      cases event with
      | localDescription kind sdp => cases kind <;> rfl
      | disconnected => exact tearDown_applied s
      | failed reason => exact fail_applied s reason
      | _ => rfl

theorem dropDeadConnections_applied (s : SessionLoop) (seen : Liveness) :
    (s.dropDeadConnections seen).2.filterMap Effect.applied = [] := by
  unfold dropDeadConnections
  dsimp only
  split_ifs
  · exact tearDown_applied _
  · rfl
  · rfl

/-- **A candidate is applied to the media of its sender's session, and nothing else
is applied.** -/
theorem react_applies (s : SessionLoop) (input : Input) :
    (s.react input).2.filterMap Effect.applied = s.applies input := by
  cases input with
  | message incoming around =>
      unfold react handleMessage applies
      dsimp only
      cases incoming.message with
      | iceCandidate candidate sdpMid sdpMlineIndex =>
          cases s.mediaFor incoming.connection <;> rfl
      | sessionRequest senderId displayName version capabilities =>
          exact handleSessionRequest_applied _ _ _ _ _ _
      | sdpOffer sdp => exact handleOffer_applied _ _ _ _
      | sessionEnd reason =>
          dsimp only
          split
          · exact tearDown_applied s
          · rfl
      | _ => rfl
  | decision decision => exact handleDecision_applied s decision
  | webrtc event => exact handleWebrtcEvent_applied s event
  | tick seen => exact dropDeadConnections_applied s seen
  | frame frame => rfl

/-! ## The media of the active session -/

/-- The media is the one that was built for the session. -/
def OwnMedia (s : SessionLoop) : Prop :=
  ∀ a media, s.active = some a → a.media = some media → media.peer = ⟨a.session⟩

/-- Where an active session and its media come from. -/
inductive Continues (s : SessionLoop) (input : Input) (a : Active) : Prop
  /-- It is the session of before, with the media of before. -/
  | same {b : Active} (was : s.active = some b) (session : a.session = b.session)
      (connection : a.connection = b.connection) (media : a.media = b.media)
  /-- It is the session of before, and its offer has come. -/
  | offered {b : Active} {incoming : IncomingMessage} {around : Surroundings}
      (is : input = .message incoming around) (offer : incoming.message.isOffer = true)
      (was : s.active = some b) (session : a.session = b.session)
      (connection : a.connection = b.connection) (owner : a.connection = incoming.connection)
      (media : a.media = some ⟨⟨a.session⟩⟩)
  /-- It was approved. -/
  | approved (is : input = .decision ⟨a.connection, true⟩)
      (waiting : a.connection ∈ s.pending) (session : a.session = s.activations)
      (media : a.media = none)

theorem Reacts.active_media (rule : Reacts s input s' effects) {a : Active}
    (h : s'.active = some a) : Continues s input a := by
  cases rule with
  | offered message was owner none_yet =>
      cases h
      exact .offered rfl (by rw [message]; rfl) was rfl rfl owner rfl
  | approved waiting yes =>
      cases h
      refine .approved ?_ (AList.mem_of_lookup waiting) rfl rfl
      rw [sessionOf_connection, ← yes]
  | endedBySender => cases h
  | offerFailed => cases h
  | disconnected => cases h
  | mediaFailed => cases h
  | lost => cases h
  | ignored => exact .same h rfl rfl rfl
  | stored => exact .same h rfl rfl rfl
  | refused => exact .same h rfl rfl rfl
  | ponged => exact .same h rfl rfl rfl
  | prompted => exact .same h rfl rfl rfl
  | withdrawn => exact .same h rfl rfl rfl
  | candidate => exact .same h rfl rfl rfl
  | denied => exact .same h rfl rfl rfl
  | forwarded => exact .same h rfl rfl rfl
  | connected => exact .same h rfl rfl rfl
  | cleared => exact .same h rfl rfl rfl
  | ticked => exact .same h rfl rfl rfl

theorem OwnMedia.of_reacts (h : OwnMedia s) (rule : Reacts s input s' effects) :
    OwnMedia s' := by
  intro a media ha hmedia
  cases rule.active_media ha with
  | same was session connection same =>
      rw [session]
      exact h _ media was (same ▸ hmedia)
  | offered is offer was session connection owner built =>
      rw [built] at hmedia
      cases hmedia
      rfl
  | approved is waiting session none_yet =>
      rw [none_yet] at hmedia
      cases hmedia

/-- The offer of an owner leaves no session without media. -/
theorem media_of_offer {incoming : IncomingMessage} {around : Surroundings} {a a' : Active}
    (offer : incoming.message.isOffer = true) (was : s.active = some a)
    (owner : a.connection = incoming.connection)
    (h : (s.react (.message incoming around)).1.active = some a') :
    a'.media.isSome = true := by
  obtain ⟨sdp, message⟩ : ∃ sdp, incoming.message = .sdpOffer sdp := by
    cases hmessage : incoming.message with
    | sdpOffer sdp => exact ⟨sdp, rfl⟩
    | _ =>
        rw [hmessage] at offer
        cases offer
  have hreact : s.react (.message incoming around) =
      s.handleOffer incoming.connection sdp around := by
    rw [react, handleMessage, message]
  rw [hreact] at h
  unfold handleOffer at h
  simp only [was, owner, ne_eq, not_true_eq_false, if_false] at h
  split_ifs at h with built
  · rw [was] at h
    cases h
    exact built
  · have failed : ∀ reason, (s.fail reason).1.active = none := by
      intro reason
      rw [fail_eq was]
      rfl
    cases hbuild : around.withFrameHandler with
    | error e =>
        simp only [hbuild, failed] at h
        cases h
    | ok _ =>
        cases hstart : around.start with
        | error e =>
            simp only [hbuild, hstart, failed] at h
            cases h
        | ok _ =>
            cases hremote : around.setRemoteDescription sdp with
            | error e =>
                simp only [hbuild, hstart, hremote, failed] at h
                cases h
            | ok _ =>
                simp only [hbuild, hstart, hremote] at h
                cases h
                rfl

/-- The media for the owner of the active session is that session's. -/
theorem mediaFor_owner {a : Active} {c : ConnectionId} (was : s.active = some a)
    (owner : a.connection = c) : s.mediaFor c = a.media := by
  unfold mediaFor
  rw [was, Option.bind_some]
  cases a.media with
  | none => rfl
  | some media => exact if_pos owner

/-- Media belongs to the active session and its owner. -/
theorem mediaFor_eq_some {c : ConnectionId} {media : Media}
    (h : s.mediaFor c = some media) :
    ∃ a, s.active = some a ∧ a.connection = c ∧ a.media = some media := by
  unfold mediaFor at h
  obtain ⟨a, was, h⟩ := Option.bind_eq_some_iff.mp h
  obtain ⟨media', has, h⟩ := Option.bind_eq_some_iff.mp h
  split at h
  · rename_i owner
    cases h
    exact ⟨a, was, owner, has⟩
  · cases h

/-! ## What is applied to one peer -/

/-- Only a message of the owner makes the loop apply anything, and only to the peer
of the active session. -/
theorem mem_appliedTo (own : OwnMedia s) {peer : WebRtcPeer} {candidate : Candidate}
    (mem : candidate ∈ appliedTo peer (s.react input).2) :
    ∃ a incoming around, s.active = some a ∧ peer = ⟨a.session⟩ ∧
      input = .message incoming around ∧ incoming.connection = a.connection := by
  obtain ⟨effect, heffect, h⟩ := List.mem_filterMap.mp mem
  obtain ⟨applied, happlied, h⟩ := Option.bind_eq_some_iff.mp h
  have listed : applied ∈ (s.react input).2.filterMap Effect.applied :=
    List.mem_filterMap.mpr ⟨effect, heffect, happlied⟩
  rw [react_applies] at listed
  cases input with
  | message incoming around =>
      rw [applies, Option.mem_toList] at listed
      obtain ⟨candidate', -, listed⟩ := Option.bind_eq_some_iff.mp listed
      obtain ⟨media, hmedia, rfl⟩ := Option.map_eq_some_iff.mp listed
      obtain ⟨a, was, owner, has⟩ := mediaFor_eq_some hmedia
      split at h
      · rename_i same
        refine ⟨a, incoming, around, was, ?_, rfl, owner.symm⟩
        rw [← same]
        exact own a media was has
      · cases h
  | _ => cases listed

/-- What a message of the owner applies to the peer of its session. -/
theorem appliedTo_message (own : OwnMedia s) {a : Active} {incoming : IncomingMessage}
    (around : Surroundings) (was : s.active = some a)
    (owner : a.connection = incoming.connection) :
    appliedTo ⟨a.session⟩ (s.react (.message incoming around)).2 =
      if a.media.isSome then incoming.message.brings.toList else [] := by
  have split_up : appliedTo ⟨a.session⟩ (s.react (.message incoming around)).2 =
      (s.applies (.message incoming around)).filterMap
        fun applied => if applied.1 = ⟨a.session⟩ then some applied.2 else none := by
    rw [← react_applies, List.filterMap_filterMap]
    rfl
  rw [split_up, applies, mediaFor_owner was owner]
  cases hmedia : a.media with
  | none => cases incoming.message.brings <;> rfl
  | some media =>
      have its := own a media was hmedia
      cases incoming.message.brings with
      | none => rfl
      | some candidate => simp [its]

end SessionLoop

end OpenPlay
