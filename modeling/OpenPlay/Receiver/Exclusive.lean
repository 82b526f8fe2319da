import OpenPlay.Receiver.Rules

/-!
# One screen, one sender

The two exclusivity checks of the loop stand in `handleSessionRequest`, but five
other operations touch the pending map or the active session.  `Exclusive` is
the relation between the two that all of them keep: at most one request is
waiting, and while a session is active only its own connection may be waiting.

Almost every rule only takes things away, which is `Exclusive.shrink`; the two
that add something, a prompt and an approval, are the content of
`Reacts.exclusive`.
-/

namespace OpenPlay

open Transition

/-- The invariant behind `RejectReason::Busy`. -/
structure Exclusive (s : SessionLoop) : Prop where
  /-- At most one request is waiting. -/
  one_prompt : ∀ c ∈ s.pending, ∀ d ∈ s.pending, c = d
  /-- While a session is active, only its owner may be waiting. -/
  own_prompt : ∀ a, s.active = some a → ∀ c ∈ s.pending, c = a.connection
  /-- A pending entry is answered on the connection it is filed under. -/
  reply_pending : ∀ c p, s.pending.lookup c = some p → p.reply.id = c
  /-- The active session is answered on its own connection. -/
  reply_active : ∀ a, s.active = some a → a.reply.id = a.connection

namespace Exclusive

variable {s s' : SessionLoop}

/-- Nothing waits and nothing is active at startup. -/
theorem new (config : AppConfig) (status : Status) (undiscoverable : Option String) :
    Exclusive (SessionLoop.new config status undiscoverable) where
  one_prompt c hc := absurd hc (AList.notMem_empty c)
  own_prompt a ha := by simp [SessionLoop.new] at ha
  reply_pending c p h := by simp [SessionLoop.new] at h
  reply_active a ha := by simp [SessionLoop.new] at ha

/-- Taking entries out of the map, and keeping or dropping the session, keeps
the invariant. -/
theorem shrink (h : Exclusive s)
    (pending : ∀ c p, s'.pending.lookup c = some p → s.pending.lookup c = some p)
    (active : ∀ a, s'.active = some a →
      ∃ b, s.active = some b ∧ b.connection = a.connection ∧ b.reply = a.reply) :
    Exclusive s' := by
  have mem : ∀ c ∈ s'.pending, c ∈ s.pending := by
    intro c hc
    obtain ⟨p, hp⟩ := AList.exists_lookup hc
    exact AList.mem_of_lookup (pending c p hp)
  refine ⟨?_, ?_, ?_, ?_⟩
  · intro c hc d hd
    exact h.one_prompt c (mem c hc) d (mem d hd)
  · intro a ha c hc
    obtain ⟨b, hb, hconnection, -⟩ := active a ha
    rw [← hconnection]
    exact h.own_prompt b hb c (mem c hc)
  · intro c p hp
    exact h.reply_pending c p (pending c p hp)
  · intro a ha
    obtain ⟨b, hb, hconnection, hreply⟩ := active a ha
    rw [← hreply, ← hconnection]
    exact h.reply_active b hb

/-- `shrink` for the states the loop reaches without touching the session. -/
theorem shrink_pending (h : Exclusive s) (same : s'.active = s.active)
    (pending : ∀ c p, s'.pending.lookup c = some p → s.pending.lookup c = some p) :
    Exclusive s' :=
  h.shrink pending fun a ha => ⟨a, same ▸ ha, rfl, rfl⟩

/-- `shrink` for the states the loop reaches by ending the session. -/
theorem shrink_ended (h : Exclusive s) (ended : s'.active = none)
    (pending : ∀ c p, s'.pending.lookup c = some p → s.pending.lookup c = some p) :
    Exclusive s' :=
  h.shrink pending fun a ha => by rw [ended] at ha; cases ha

/-- The gates look at the first waiting key only.  There is no other, so a
request that gets through has nobody else's waiting beside it. -/
theorem waiting_own {incoming : IncomingMessage} {displayName : String}
    {capabilities : Capabilities} (h : Exclusive s)
    (admitted : s.Admits incoming displayName capabilities) :
    ∀ c ∈ s.pending, c = incoming.connection := by
  intro c hc
  cases hfirst : s.pending.first with
  | none => exact absurd hc (AList.first_eq_none.mp hfirst c)
  | some e =>
      have he : e.1 ∈ s.pending := AList.mem_of_lookup (AList.first_lookup hfirst)
      rw [h.one_prompt c hc e.1 he]
      exact admitted.first e hfirst

end Exclusive

theorem lookup_of_lookup_erase {m : AList fun _ : ConnectionId => Pending}
    {c d : ConnectionId} {p : Pending} (h : (m.erase d).lookup c = some p) :
    m.lookup c = some p := by
  by_cases hcd : c = d
  · subst hcd
    rw [AList.lookup_erase] at h
    cases h
  · rwa [AList.lookup_erase_ne hcd] at h

namespace SessionLoop

variable {s s' : SessionLoop} {input : Input} {effects : List Effect}

theorem lookup_of_lookup_swept {seen : Liveness} {c : ConnectionId} {p : Pending}
    (h : (s.swept seen).pending.lookup c = some p) :
    s.pending.lookup c = some p ∧ seen.atRetain p.reply.id = true :=
  AList.lookup_retain_eq_some.mp h

/-- **Every rule keeps the loop exclusive.** -/
theorem Reacts.exclusive (rule : Reacts s input s' effects) (h : Exclusive s) :
    Exclusive s' := by
  cases rule with
  | ignored => exact h
  | stored => exact h.shrink_pending rfl fun _ _ hp => hp
  | refused => exact h
  | ponged => exact h
  | prompted admitted =>
      rename_i incoming around displayName capabilities
      have hkeys : ∀ c ∈ s.pending.insert incoming.connection
          (s.entryOf incoming displayName capabilities), c = incoming.connection := by
        intro c hc
        rcases (AList.mem_insert s.pending).mp hc with rfl | hc
        · rfl
        · exact h.waiting_own admitted c hc
      refine ⟨?_, ?_, ?_, h.reply_active⟩
      · intro c hc d hd
        rw [hkeys c hc, hkeys d hd]
      · intro a ha c hc
        rw [hkeys c hc, admitted.own a ha]
      · intro c p hp
        obtain rfl := hkeys c (AList.mem_of_lookup hp)
        rw [AList.lookup_insert] at hp
        cases hp
        exact incoming.reply_id
  | withdrawn message other =>
      exact h.shrink_pending rfl fun _ _ => lookup_of_lookup_erase
  | endedBySender message was owner =>
      exact h.shrink_ended rfl fun _ _ => lookup_of_lookup_erase
  | candidate was owner has => exact h
  | offered message was owner none_yet =>
      refine h.shrink (fun _ _ hp => hp) ?_
      intro a ha
      cases ha
      exact ⟨_, was, rfl, rfl⟩
  | offerFailed message was owner none_yet fails peer =>
      exact h.shrink_ended rfl fun _ _ hp => hp
  | denied waiting no => exact h.shrink_pending rfl fun _ _ => lookup_of_lookup_erase
  | approved waiting yes =>
      rename_i decision p
      have hmem : decision.connection ∈ s.pending := AList.mem_of_lookup waiting
      -- The approved entry was the only one, so nothing is left waiting.
      have hempty : ∀ c, c ∉ s.pending.erase decision.connection := by
        intro c hc
        obtain ⟨hne, hc⟩ := AList.mem_erase.mp hc
        exact hne (h.one_prompt c hc _ hmem)
      refine ⟨?_, ?_, ?_, ?_⟩
      · intro c hc
        exact absurd hc (hempty c)
      · intro a ha c hc
        exact absurd hc (hempty c)
      · intro c q hq
        exact h.reply_pending c q (lookup_of_lookup_erase hq)
      · intro a ha
        cases ha
        exact h.reply_pending _ p waiting
  | forwarded was forwards => exact h
  | connected was => exact h.shrink_pending rfl fun _ _ hp => hp
  | disconnected was => exact h.shrink_ended rfl fun _ _ hp => hp
  | mediaFailed was => exact h.shrink_ended rfl fun _ _ hp => hp
  | lost was dead =>
      exact h.shrink_ended rfl fun _ _ hp => (lookup_of_lookup_swept hp).1
  | cleared alive stale =>
      exact h.shrink_pending rfl fun _ _ hp => (lookup_of_lookup_swept hp).1
  | ticked alive fresh =>
      exact h.shrink_pending rfl fun _ _ hp => (lookup_of_lookup_swept hp).1

end SessionLoop

/-- Every reachable state of the loop is exclusive. -/
theorem exclusive_of_run {past : List LoopMove} {s : SessionLoop}
    (run : sessionLoop.Run past s) : Exclusive s := by
  refine System.Run.invariant ?_ ?_ run
  · rintro s ⟨config, status, undiscoverable, -, rfl⟩
    exact Exclusive.new config status undiscoverable
  · intro move made h
    exact (reacts_of_makes made).exclusive h

/-! ## Ownership of the active session -/

/-- The effect is a `SessionEnd` put on some reply handle. -/
def Effect.isSessionEnd : Effect → Bool
  | .send _ (.sessionEnd _) => true
  | _ => false

theorem SessionLoop.endEffects_filter_isSessionEnd (a : Active)
    (reason : SessionEndReason) (status : Status) :
    (SessionLoop.endEffects a reason status).filter Effect.isSessionEnd =
      [.send a.reply (.sessionEnd reason)] := by
  unfold SessionLoop.endEffects
  cases a.media <;> rfl

/-- What a turn of the loop may do to the active session. -/
structure KeepsOwner (move : LoopMove) : Prop where
  /-- The session never passes from one connection to another in one step. -/
  same_owner : ∀ a b, move.source.active = some a → move.target.active = some b →
    a.connection = b.connection
  /-- A message of a connection that does not own the session leaves it alone. -/
  foreign_message : ∀ a incoming around, move.source.active = some a →
    move.action = .message incoming around → incoming.connection ≠ a.connection →
      move.target.active = move.source.active
  /-- A session that ends is ended with exactly one `SessionEnd`, to its owner,
  and leaves no picture behind. -/
  one_end : ∀ a, move.source.active = some a → move.target.active = none →
    (∃ reason, move.output.filter Effect.isSessionEnd =
      [.send a.reply (.sessionEnd reason)]) ∧ move.target.frame.frame = none

/-- A turn that leaves the active session as it was keeps its owner. -/
theorem KeepsOwner.of_same {move : LoopMove}
    (same : move.target.active = move.source.active) : KeepsOwner move where
  same_owner a b ha hb := by
    rw [same, ha] at hb
    cases hb
    rfl
  foreign_message _ _ _ _ _ _ := same
  one_end a ha hnone := by
    rw [same, ha] at hnone
    cases hnone

/-- A turn that ends the session with the effects of `tear_down` or `fail`, and
that is not a message of somebody else, keeps its owner. -/
theorem KeepsOwner.of_ended {move : LoopMove} {a : Active}
    {reason : SessionEndReason} {status : Status} (first : List Effect)
    (was : move.source.active = some a) (gone : move.target.active = none)
    (own : ∀ incoming around, move.action = .message incoming around →
      incoming.connection = a.connection)
    (effects : move.output = first ++ SessionLoop.endEffects a reason status)
    (quiet : first.filter Effect.isSessionEnd = [])
    (cleared : move.target.frame.frame = none) : KeepsOwner move where
  same_owner b c _ hc := by
    rw [gone] at hc
    cases hc
  foreign_message b incoming around hb haction hforeign := by
    rw [was] at hb
    cases hb
    exact absurd (own incoming around haction) hforeign
  one_end b hb _ := by
    rw [was] at hb
    cases hb
    refine ⟨⟨reason, ?_⟩, cleared⟩
    rw [effects, List.filter_append, quiet,
      SessionLoop.endEffects_filter_isSessionEnd, List.nil_append]

theorem keepsOwner_of_makes {move : LoopMove} (made : sessionLoop.Makes move)
    (h : Exclusive move.source) : KeepsOwner move := by
  obtain ⟨s, input, effects, s'⟩ := move
  have rule : SessionLoop.Reacts s input s' effects := reacts_of_makes made
  cases rule with
  | ignored => exact .of_same rfl
  | stored => exact .of_same rfl
  | refused => exact .of_same rfl
  | ponged => exact .of_same rfl
  | prompted => exact .of_same rfl
  | withdrawn => exact .of_same rfl
  | endedBySender message was owner =>
      refine .of_ended [] was rfl ?_ rfl rfl rfl
      intro incoming around haction
      cases haction
      exact owner.symm
  | candidate => exact .of_same rfl
  | offered message was owner none_yet =>
      refine ⟨?_, ?_, ?_⟩
      · intro a b ha hb
        dsimp only at ha hb
        rw [was] at ha
        cases ha
        cases hb
        rfl
      · intro a incoming around ha haction hforeign
        dsimp only at ha
        rw [was] at ha
        cases ha
        cases haction
        exact absurd owner.symm hforeign
      · intro a _ hnone
        cases hnone
  | offerFailed message was owner none_yet fails peer =>
      refine .of_ended _ was rfl ?_ rfl ?_ rfl
      · intro incoming around haction
        cases haction
        exact owner.symm
      · rcases peer with rfl | rfl <;> rfl
  | denied => exact .of_same rfl
  | approved waiting yes =>
      rename_i decision p
      refine ⟨?_, ?_, ?_⟩
      · intro a b ha hb
        cases hb
        exact (h.own_prompt a ha _ (AList.mem_of_lookup waiting)).symm
      · intro a incoming around _ haction
        cases haction
      · intro a _ hnone
        cases hnone
  | forwarded => exact .of_same rfl
  | connected => exact .of_same rfl
  | disconnected was =>
      exact .of_ended [] was rfl (by simp) rfl rfl rfl
  | mediaFailed was =>
      exact .of_ended [] was rfl (by simp) rfl rfl rfl
  | lost was dead =>
      exact .of_ended [] was rfl (by simp) rfl rfl rfl
  | cleared => exact .of_same rfl
  | ticked => exact .of_same rfl

/-- **One screen, one sender.**  In every state a run of the loop reaches at most
one request is waiting, and only the owner of the active session may wait beside
it; and every step of the run respects the owner of the active session. -/
theorem screen_has_one_owner {past : List LoopMove} {s : SessionLoop}
    (run : sessionLoop.Run past s) :
    s.pending.entries.length ≤ 1 ∧
      (∀ a, s.active = some a → ∀ c ∈ s.pending, c = a.connection) ∧
      ∀ move ∈ past, KeepsOwner move := by
  have h := exclusive_of_run run
  refine ⟨AList.length_le_one h.one_prompt, h.own_prompt, ?_⟩
  intro move hmove
  obtain ⟨⟨earlier, before, -⟩, made⟩ := run.of_mem hmove
  exact keepsOwner_of_makes made (exclusive_of_run before)

/-- The rule at work on one cast, from its request to its end. -/
theorem screen_has_one_owner_during_a_cast :
    let start := SessionLoop.startedWith ⟨"Living room", 7000, 8000, 60⟩
    let past := sessionLoop.history (Input.cast ⟨1⟩ "Alice") start
    let s := sessionLoop.final (Input.cast ⟨1⟩ "Alice") start
    s.pending.entries.length ≤ 1 ∧
      (∀ a, s.active = some a → ∀ c ∈ s.pending, c = a.connection) ∧
      ∀ move ∈ past, KeepsOwner move :=
  screen_has_one_owner (System.Run.of_actions _ (sessionLoop_init _) rfl)

end OpenPlay
