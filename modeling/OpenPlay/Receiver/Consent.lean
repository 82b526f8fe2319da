import OpenPlay.Receiver.Exclusive

/-!
# The consent gate

Everything a sender can be given — an acceptance, an answer to its offer, a media
pipeline, its name on the page of a running session — is traced back to one
decision of the user about one request of that sender.

The argument is an invariant of histories, `Consented`: every waiting entry has a
request behind it that no approval has used up, and the active session has an
approval behind it that met such an entry.  Two lemmas say where an entry and
where a session can come from, `pending_source` and `active_source`; a third says
what an effect presupposes.
-/

namespace OpenPlay

open Transition

variable {past : List LoopMove} {s : SessionLoop}

/-! ## Requests and approvals -/

/-- The move handles a request of `c` that gets through the gates, the protocol
version and the codec among them, and leaves it waiting as `p`. -/
def Requested (c : ConnectionId) (p : Pending) (move : LoopMove) : Prop :=
  ∃ incoming around displayName capabilities,
    move.action = .message incoming around ∧ incoming.connection = c ∧
    move.source.Admits incoming displayName capabilities ∧
    p = move.source.entryOf incoming displayName capabilities ∧
    move.target.pending.lookup c = some p

/-- The move handles an approval of `c` while `c` is waiting as `p`. -/
def Approved (c : ConnectionId) (p : Pending) (move : LoopMove) : Prop :=
  move.action = .decision ⟨c, true⟩ ∧ move.source.pending.lookup c = some p

/-- The move activates a session of `c`. -/
def Approves (c : ConnectionId) (move : LoopMove) : Prop :=
  ∃ p, Approved c p move

/-- The user approved a request that `c` made under the name `displayName`: the
approval met the entry of that request, and no approval before it had used the
entry up. -/
def Vetted (c : ConnectionId) (displayName : String) (past : List LoopMove) : Prop :=
  ∃ recent move earlier p, past = recent ++ move :: earlier ∧ Approved c p move ∧
    p.displayName = displayName ∧ Since (Requested c p) (Approves c) earlier

theorem Vetted.later {c : ConnectionId} {displayName : String}
    (h : Vetted c displayName past) (move : LoopMove) :
    Vetted c displayName (move :: past) := by
  obtain ⟨recent, approval, earlier, p, rfl, happroved, hname, hsince⟩ := h
  exact ⟨move :: recent, approval, earlier, p, rfl, happroved, hname, hsince⟩

/-! ## Where entries and sessions come from -/

namespace SessionLoop

variable {s' : SessionLoop} {input : Input} {effects : List Effect}

/-- A waiting entry was waiting before, or the move put it there. -/
theorem Reacts.pending_source (rule : Reacts s input s' effects) {c : ConnectionId}
    {p : Pending} (h : s'.pending.lookup c = some p) :
    s.pending.lookup c = some p ∨ Requested c p ⟨s, input, effects, s'⟩ := by
  cases rule with
  | prompted admitted =>
      rename_i incoming around displayName capabilities
      by_cases hc : c = incoming.connection
      · subst hc
        have hentry := h
        rw [AList.lookup_insert] at hentry
        cases hentry
        exact Or.inr ⟨incoming, around, displayName, capabilities, rfl, rfl, admitted,
          rfl, h⟩
      · rw [AList.lookup_insert_ne hc] at h
        exact Or.inl h
  | withdrawn => exact Or.inl (lookup_of_lookup_erase h)
  | endedBySender => exact Or.inl (lookup_of_lookup_erase h)
  | denied => exact Or.inl (lookup_of_lookup_erase h)
  | approved => exact Or.inl (lookup_of_lookup_erase h)
  | lost => exact Or.inl (lookup_of_lookup_swept h).1
  | cleared => exact Or.inl (lookup_of_lookup_swept h).1
  | ticked => exact Or.inl (lookup_of_lookup_swept h).1
  | ignored => exact Or.inl h
  | stored => exact Or.inl h
  | refused => exact Or.inl h
  | ponged => exact Or.inl h
  | candidate => exact Or.inl h
  | offered => exact Or.inl h
  | offerFailed => exact Or.inl h
  | forwarded => exact Or.inl h
  | connected => exact Or.inl h
  | disconnected => exact Or.inl h
  | mediaFailed => exact Or.inl h

/-- An active session was active before, or the move approved it. -/
theorem Reacts.active_source (rule : Reacts s input s' effects) {a : Active}
    (h : s'.active = some a) :
    (∃ b, s.active = some b ∧ b.connection = a.connection ∧
        b.displayName = a.displayName) ∨
      ∃ p, Approved a.connection p ⟨s, input, effects, s'⟩ ∧
        p.displayName = a.displayName := by
  cases rule with
  | offered message was owner none_yet =>
      cases h
      exact Or.inl ⟨_, was, rfl, rfl⟩
  | approved waiting yes =>
      rename_i decision p
      cases h
      refine Or.inr ⟨p, ⟨?_, waiting⟩, rfl⟩
      rw [sessionOf_connection, ← yes]
  | endedBySender => cases h
  | offerFailed => cases h
  | disconnected => cases h
  | mediaFailed => cases h
  | lost => cases h
  | ignored => exact Or.inl ⟨a, h, rfl, rfl⟩
  | stored => exact Or.inl ⟨a, h, rfl, rfl⟩
  | refused => exact Or.inl ⟨a, h, rfl, rfl⟩
  | ponged => exact Or.inl ⟨a, h, rfl, rfl⟩
  | prompted => exact Or.inl ⟨a, h, rfl, rfl⟩
  | withdrawn => exact Or.inl ⟨a, h, rfl, rfl⟩
  | candidate => exact Or.inl ⟨a, h, rfl, rfl⟩
  | denied => exact Or.inl ⟨a, h, rfl, rfl⟩
  | forwarded => exact Or.inl ⟨a, h, rfl, rfl⟩
  | connected => exact Or.inl ⟨a, h, rfl, rfl⟩
  | cleared => exact Or.inl ⟨a, h, rfl, rfl⟩
  | ticked => exact Or.inl ⟨a, h, rfl, rfl⟩

end SessionLoop

/-- An approval takes the entry it meets out of the map. -/
theorem not_approves_of_lookup {move : LoopMove} (made : sessionLoop.Makes move)
    {c : ConnectionId} {p : Pending} (h : move.target.pending.lookup c = some p) :
    ¬ Approves c move := by
  rintro ⟨q, haction, hlookup⟩
  have hreact := react_of_makes made
  rw [haction, SessionLoop.react_allow hlookup] at hreact
  rw [← hreact] at h
  have hgone : (move.source.pending.erase c).lookup c = some p := h
  rw [AList.lookup_erase] at hgone
  cases hgone

/-! ## The invariant of histories -/

/-- What the history says about the entries that wait and the session that
runs. -/
structure Consented (past : List LoopMove) (s : SessionLoop) : Prop where
  pending : ∀ c p, s.pending.lookup c = some p →
    Since (Requested c p) (Approves c) past
  active : ∀ a, s.active = some a → Vetted a.connection a.displayName past

/-- One move keeps the books. -/
theorem Consented.move {move : LoopMove} (made : sessionLoop.Makes move)
    (h : Consented past move.source) : Consented (move :: past) move.target where
  pending c p hp := by
    rcases (reacts_of_makes made).pending_source hp with hold | hnew
    · exact (h.pending c p hold).later (not_approves_of_lookup made hp)
    · exact .now hnew
  active a ha := by
    rcases (reacts_of_makes made).active_source ha with
      ⟨b, hb, hconnection, hname⟩ | ⟨p, happroved, hname⟩
    · rw [← hconnection, ← hname]
      exact (h.active b hb).later move
    · exact ⟨[], move, past, p, rfl, happroved, hname, h.pending _ p happroved.2⟩

theorem consented_of_run (run : sessionLoop.Run past s) : Consented past s := by
  refine run.invariant_past ?_ fun past move _ made consented => consented.move made
  rintro _ ⟨config, status, undiscoverable, -, rfl⟩
  refine ⟨?_, ?_⟩
  · intro c p hp
    exact absurd (AList.mem_of_lookup hp) (AList.notMem_empty c)
  · intro a ha
    cases ha

/-! ## What an effect presupposes -/

/-- The messages only an approved sender is sent. -/
def SignalingMessage.isMediaSide : SignalingMessage → Bool
  | .sessionAccept _ _ | .sdpAnswer _ | .iceCandidate _ _ _ | .iceComplete => true
  | _ => false

/-- The connection that an effect on the media side is for. -/
def Effect.mediaFor : Effect → Option ConnectionId
  | .send reply message => if message.isMediaSide then some reply.id else none
  | .buildPipeline connection _ => some connection
  | _ => none

/-- The effects that announce the end of a session are not on the media side. -/
theorem SessionLoop.endEffects_mediaFor (a : Active) (reason : SessionEndReason)
    (status : Status) {effect : Effect}
    (h : effect ∈ SessionLoop.endEffects a reason status) : effect.mediaFor = none := by
  unfold SessionLoop.endEffects at h
  rcases List.mem_append.mp h with h | h
  · obtain ⟨media, -, rfl⟩ := List.mem_map.mp h
    rfl
  · rcases List.mem_cons.mp h with rfl | h
    · rfl
    · rw [List.mem_singleton.mp h]
      rfl

theorem SessionLoop.Forwards.isMediaSide {event : WebRtcEvent} {message : SignalingMessage}
    (h : SessionLoop.Forwards event message) : message.isMediaSide = true := by
  cases h <;> rfl

/-- **A media-side effect is for the owner of the session, or is the approval
itself.** -/
theorem SessionLoop.Reacts.media_source {s' : SessionLoop} {input : Input}
    {effects : List Effect} (rule : Reacts s input s' effects) (hx : Exclusive s)
    {effect : Effect} {c : ConnectionId} (mem : effect ∈ effects)
    (hmedia : effect.mediaFor = some c) :
    (∃ a, s.active = some a ∧ a.connection = c) ∨
      ∃ a, s'.active = some a ∧ a.connection = c := by
  cases rule with
  | refused =>
      rw [List.mem_singleton.mp mem] at hmedia
      cases hmedia
  | ponged =>
      rw [List.mem_singleton.mp mem] at hmedia
      cases hmedia
  | prompted =>
      rw [List.mem_singleton.mp mem] at hmedia
      cases hmedia
  | candidate =>
      rw [List.mem_singleton.mp mem] at hmedia
      cases hmedia
  | connected =>
      rw [List.mem_singleton.mp mem] at hmedia
      cases hmedia
  | cleared =>
      rw [List.mem_singleton.mp mem] at hmedia
      cases hmedia
  | denied =>
      rcases List.mem_cons.mp mem with rfl | mem
      · cases hmedia
      · rw [List.mem_singleton.mp mem] at hmedia
        cases hmedia
  | endedBySender =>
      rw [endEffects_mediaFor _ _ _ mem] at hmedia
      cases hmedia
  | disconnected =>
      rw [endEffects_mediaFor _ _ _ mem] at hmedia
      cases hmedia
  | mediaFailed =>
      rw [endEffects_mediaFor _ _ _ mem] at hmedia
      cases hmedia
  | lost =>
      rw [endEffects_mediaFor _ _ _ mem] at hmedia
      cases hmedia
  | offered message was owner none_yet =>
      rw [List.mem_singleton.mp mem] at hmedia
      cases hmedia
      exact Or.inl ⟨_, was, owner⟩
  | offerFailed message was owner none_yet fails peer =>
      rcases List.mem_append.mp mem with mem | mem
      · rcases peer with rfl | rfl
        · cases mem
        · rw [List.mem_singleton.mp mem] at hmedia
          cases hmedia
          exact Or.inl ⟨_, was, owner⟩
      · rw [endEffects_mediaFor _ _ _ mem] at hmedia
        cases hmedia
  | forwarded was forwards =>
      rw [List.mem_singleton.mp mem, Effect.mediaFor, if_pos forwards.isMediaSide]
        at hmedia
      cases hmedia
      exact Or.inl ⟨_, was, (hx.reply_active _ was).symm⟩
  | approved waiting yes =>
      rename_i decision p
      refine Or.inr ⟨_, rfl, ?_⟩
      rcases List.mem_cons.mp mem with rfl | mem
      · have haccept : (s.acceptance p).isMediaSide = true := rfl
        rw [Effect.mediaFor, if_pos haccept] at hmedia
        cases hmedia
        exact (hx.reply_pending _ _ waiting).symm
      · rw [List.mem_singleton.mp mem] at hmedia
        cases hmedia
  | ignored => cases mem
  | stored => cases mem
  | withdrawn => cases mem
  | ticked => cases mem

/-- Ending a session writes the page it is told to. -/
theorem SessionLoop.endEffects_setStatus (a : Active) (reason : SessionEndReason)
    (status : Status) {next : Status}
    (h : Effect.setStatus next ∈ SessionLoop.endEffects a reason status) :
    next = status := by
  unfold SessionLoop.endEffects at h
  rcases List.mem_append.mp h with h | h
  · obtain ⟨media, -, hmedia⟩ := List.mem_map.mp h
    cases hmedia
  · simpa using h

/-- The pages that show no running session. -/
def Status.isQuiet : Status → Bool
  | .negotiating _ | .streaming _ => false
  | _ => true

theorem SessionLoop.idleStatus_isQuiet (s : SessionLoop) : s.idleStatus.isQuiet = true := by
  unfold SessionLoop.idleStatus
  cases s.undiscoverable <;> rfl

/-- A page that is written shows no running session, or the one that runs. -/
theorem SessionLoop.Reacts.status_source {s' : SessionLoop} {input : Input}
    {effects : List Effect} (rule : Reacts s input s' effects) {next : Status}
    (h : Effect.setStatus next ∈ effects) :
    next.isQuiet = true ∨ ∃ a, s'.active = some a ∧
      (next = .negotiating a.displayName ∨ next = .streaming a.displayName) := by
  cases rule with
  | connected was =>
      cases List.mem_singleton.mp h
      exact Or.inr ⟨_, was, Or.inr rfl⟩
  | approved waiting yes =>
      rename_i decision p
      have hnext : next = .negotiating p.displayName := by simpa using h
      exact Or.inr ⟨_, rfl, Or.inl hnext⟩
  | prompted =>
      cases List.mem_singleton.mp h
      exact Or.inl rfl
  | denied =>
      have hnext : next = s.idleStatus := by simpa using h
      exact Or.inl (hnext ▸ s.idleStatus_isQuiet)
  | cleared =>
      cases List.mem_singleton.mp h
      exact Or.inl s.idleStatus_isQuiet
  | endedBySender =>
      rw [endEffects_setStatus _ _ _ h]
      exact Or.inl s.idleStatus_isQuiet
  | disconnected =>
      rw [endEffects_setStatus _ _ _ h]
      exact Or.inl s.idleStatus_isQuiet
  | lost =>
      rw [endEffects_setStatus _ _ _ h]
      exact Or.inl s.idleStatus_isQuiet
  | mediaFailed =>
      rw [endEffects_setStatus _ _ _ h]
      exact Or.inl rfl
  | offerFailed message was owner none_yet fails peer =>
      rcases List.mem_append.mp h with h | h
      · rcases peer with rfl | rfl
        · cases h
        · cases List.mem_singleton.mp h
      · rw [endEffects_setStatus _ _ _ h]
        exact Or.inl rfl
  | refused => cases List.mem_singleton.mp h
  | ponged => cases List.mem_singleton.mp h
  | candidate => cases List.mem_singleton.mp h
  | offered => cases List.mem_singleton.mp h
  | forwarded => cases List.mem_singleton.mp h
  | ignored => cases h
  | stored => cases h
  | withdrawn => cases h
  | ticked => cases h

/-! ## The gate -/

/-- What a move may do, given the moves before it: everything on the media side
goes to a connection whose request the user approved, under the name of that
request. -/
structure Gated (move : LoopMove) (earlier : List LoopMove) : Prop where
  media : ∀ effect ∈ move.output, ∀ c, effect.mediaFor = some c →
    ∃ n, Vetted c n (move :: earlier)
  status : ∀ n, (Effect.setStatus (.negotiating n) ∈ move.output ∨
      Effect.setStatus (.streaming n) ∈ move.output) →
    ∃ a, move.target.active = some a ∧ a.displayName = n ∧
      Vetted a.connection n (move :: earlier)
  /-- An answer that meets no waiting request does nothing at all. -/
  replay : ∀ decision, move.action = .decision decision →
    decision.connection ∉ move.source.pending →
      move.target = move.source ∧ move.output = []

theorem gated_of_run {move : LoopMove} {earlier : List LoopMove}
    (before : sessionLoop.Run earlier move.source) (made : sessionLoop.Makes move) :
    Gated move earlier := by
  have h := consented_of_run before
  have h' := h.move made
  have rule := reacts_of_makes made
  have vetted : ∀ a, move.source.active = some a ∨ move.target.active = some a →
      Vetted a.connection a.displayName (move :: earlier) := by
    rintro a (was | is)
    · exact (h.active a was).later move
    · exact h'.active a is
  refine ⟨?_, ?_, ?_⟩
  · intro effect mem c hmedia
    rcases rule.media_source (exclusive_of_run before) mem hmedia with
      ⟨a, was, rfl⟩ | ⟨a, is, rfl⟩
    · exact ⟨_, vetted a (Or.inl was)⟩
    · exact ⟨_, vetted a (Or.inr is)⟩
  · intro n hwritten
    have running : ∃ a, move.target.active = some a ∧ a.displayName = n := by
      rcases hwritten with hwritten | hwritten
      · rcases rule.status_source hwritten with quiet | ⟨a, is, hname | hname⟩
        · cases quiet
        · exact ⟨a, is, (Status.negotiating.inj hname).symm⟩
        · cases hname
      · rcases rule.status_source hwritten with quiet | ⟨a, is, hname | hname⟩
        · cases quiet
        · cases hname
        · exact ⟨a, is, (Status.streaming.inj hname).symm⟩
    obtain ⟨a, is, rfl⟩ := running
    exact ⟨a, is, rfl, vetted a (Or.inr is)⟩
  · intro decision haction gone
    have stepped := sessionLoop_makes_iff.mp made
    rw [haction, SessionLoop.react_late_answer gone] at stepped
    exact ⟨(congrArg Prod.fst stepped).symm, (congrArg Prod.snd stepped).symm⟩

/-- Two approvals of one connection have a request of it between them. -/
theorem request_between_approvals {recent middle older : List LoopMove}
    {first second : LoopMove} {c : ConnectionId}
    (run : sessionLoop.Run (recent ++ second :: middle ++ first :: older) s)
    (hfirst : Approves c first) (hsecond : Approves c second) :
    ∃ move ∈ middle, ∃ p, Requested c p move := by
  rw [List.append_assoc, List.cons_append] at run
  obtain ⟨before, -⟩ := run.at_position
  obtain ⟨p, -, hlookup⟩ := hsecond
  have hsince := (consented_of_run before).pending c p hlookup
  have not_request : ¬ Requested c p first := by
    rintro ⟨incoming, around, -, -, haction, -⟩
    obtain ⟨q, happroved, -⟩ := hfirst
    rw [haction] at happroved
    cases happroved
  obtain ⟨move, hmove, hrequest⟩ := hsince.between hfirst not_request
  exact ⟨move, hmove, p, hrequest⟩

/-- **The consent gate.**  At every position of every run of the loop, whatever
goes out on the media side was approved by the user for a request of the same
connection; and one approval activates one session: two of them have a new
request between them. -/
theorem consent_gate (run : sessionLoop.Run past s) :
    (∀ recent move earlier, past = recent ++ move :: earlier → Gated move earlier) ∧
      ∀ recent second middle first older c,
        past = recent ++ second :: middle ++ first :: older →
        Approves c first → Approves c second →
          ∃ move ∈ middle, ∃ p, Requested c p move := by
  refine ⟨?_, ?_⟩
  · rintro recent move earlier rfl
    obtain ⟨before, made⟩ := run.at_position
    exact gated_of_run before made
  · rintro recent second middle first older c rfl hfirst hsecond
    exact request_between_approvals run hfirst hsecond

/-- The gate on one cast, from its request to its end. -/
theorem consent_gate_during_a_cast :
    let start := SessionLoop.startedWith ⟨"Living room", 7000, 8000, 60⟩
    let past := sessionLoop.history (Input.cast ⟨1⟩ "Alice") start
    (∀ recent move earlier, past = recent ++ move :: earlier → Gated move earlier) ∧
      ∀ recent second middle first older c,
        past = recent ++ second :: middle ++ first :: older →
        Approves c first → Approves c second →
          ∃ move ∈ middle, ∃ p, Requested c p move :=
  consent_gate (System.Run.of_actions _ (sessionLoop_init _) rfl)

end OpenPlay
