import OpenPlay.Receiver.Queues

/-!
# What an approval was given for

A button press and its handling are any number of turns apart, and a decision
carries a connection, not a name.  `Answers` says that every approval on its way
was given on a prompt with the name that now waits for it.

A new click starts out that way, because it is made on the prompt on screen and
`OnScreen` ties that prompt to the waiting entry.  The one step that can break it
is a request: the sender whose approval is on its way asks again under another
name.
-/

namespace OpenPlay

open Transition

variable {past : List ReceiverMove} {r : Receiver}

/-- The button was pressed on the prompt of the connection it answers: the window
shows the buttons nowhere else. -/
def FromPrompt (move : ReceiverMove) : Prop :=
  ∀ decision, move.action = .decide decision →
    ∃ n, move.source.loop.status = .pendingConsent n decision.connection

/-- An approval that activates a session was given on the prompt of that
connection and that name. -/
def BindsToName (move : ReceiverMove) : Prop :=
  ∀ click rest p, move.action = .answer → move.source.decisions = click :: rest →
    click.decision.accept = true →
    move.source.loop.pending.lookup click.decision.connection = some p →
    ∃ a, move.target.loop.active = some a ∧ a.connection = click.decision.connection ∧
      click.shown = .pendingConsent a.displayName a.connection

/-- A sender whose approval is on its way does not ask again under a name other
than the one the approval was given on. -/
def KeepsName (move : ReceiverMove) : Prop :=
  ∀ incoming around displayName capabilities,
    move.action = .message incoming around →
    move.source.loop.Admits incoming displayName capabilities →
    ∀ click ∈ move.source.decisions, click.decision = ⟨incoming.connection, true⟩ →
      click.shown = .pendingConsent displayName incoming.connection

/-- Every approval on its way was given for the name that waits for it. -/
def Answers (r : Receiver) : Prop :=
  ∀ click ∈ r.decisions, click.decision.accept = true →
    ∀ p, r.loop.pending.lookup click.decision.connection = some p →
      click.shown = .pendingConsent p.displayName click.decision.connection

/-- A click made on the prompt on screen was given for the waiting name. -/
theorem shown_of_onScreen {s : SessionLoop} (hscreen : OnScreen s) {c : ConnectionId}
    (prompt : ∃ n, s.status = .pendingConsent n c) {p : Pending}
    (hp : s.pending.lookup c = some p) :
    s.status = .pendingConsent p.displayName c := by
  obtain ⟨n, hstatus⟩ := prompt
  rcases hscreen n c hstatus with ⟨q, hq, hname⟩ | ⟨-, hempty⟩
  · rw [hp] at hq
    cases hq
    rw [hstatus, hname]
  · exact absurd (AList.mem_of_lookup hp) (hempty c)

/-- A step that keeps the name keeps every approval on its name. -/
theorem Answers.of_keepsName {move : ReceiverMove} (made : receiver.Makes move)
    (hscreen : OnScreen move.source.loop) (prompt : FromPrompt move)
    (keeps : KeepsName move) (h : Answers move.source) : Answers move.target := by
  intro click mem yes p hp
  cases hinput : move.source.inputOf move.action with
  | none =>
      rw [(Receiver.step_of_inputOf_none made hinput).1] at hp
      rcases Receiver.click_source made mem with mem | ⟨haction, hshown⟩
      · exact h click mem yes p hp
      · rw [hshown]
        exact shown_of_onScreen hscreen (prompt _ haction) hp
  | some input =>
      obtain ⟨hreact, -⟩ := Receiver.step_of_inputOf_some made hinput
      have old : click ∈ move.source.decisions := by
        rcases Receiver.click_source made mem with mem | ⟨haction, -⟩
        · exact mem
        · rw [haction] at hinput
          cases hinput
      have rule := move.source.loop.react_reacts input
      rw [hreact] at rule
      rcases rule.pending_source hp with hold | ⟨incoming, around, displayName,
        capabilities, hmessage, hconnection, admitted, rfl, -⟩
      · exact h click old yes p hold
      · -- The entry is new, and its request met the approval on its way.
        have hmessage' : input = .message incoming around := hmessage
        rw [hmessage'] at hinput
        have hdecision : click.decision = ⟨incoming.connection, true⟩ := by
          rw [hconnection, ← yes]
        have hshown := keeps incoming around displayName capabilities
          (Receiver.action_of_inputOf_message hinput) admitted click old hdecision
        rw [hshown, hconnection]
        rfl

/-- A step that does not keep the name leaves an approval facing another one. -/
theorem keepsName_of_answers {move : ReceiverMove} (made : receiver.Makes move)
    (h : Answers move.target) : KeepsName move := by
  intro incoming around displayName capabilities haction admitted click mem hdecision
  have hinput : move.source.inputOf move.action = some (.message incoming around) := by
    rw [haction]
    rfl
  obtain ⟨hreact, hdecisions, -⟩ := Receiver.step_of_inputOf_some made hinput
  have mem' : click ∈ move.target.decisions := by
    rw [hdecisions, haction]
    exact mem
  have hloop : move.target.loop = (move.source.loop.react (.message incoming around)).1 := by
    rw [hreact]
  have hlookup : move.target.loop.pending.lookup incoming.connection =
      some (move.source.loop.entryOf incoming displayName capabilities) := by
    rw [hloop, SessionLoop.react_request around admitted]
    exact AList.lookup_insert _
  have hconnection : click.decision.connection = incoming.connection := by
    rw [hdecision]
  have hshown := h click mem' (by rw [hdecision]) _ (by rw [hconnection, hlookup])
  rw [hshown, hconnection]
  rfl

/-- **When approvals stay on their names.**  In a run whose buttons are pressed on
the prompt on screen, every approval on its way is for the name that waits for it
in every state, if and only if no step lets the sender of an approval on its way
change its name. -/
theorem answers_iff_keepsName (run : receiver.Run past r)
    (clicks : ∀ move ∈ past, FromPrompt move) :
    (∀ x ∈ System.states past r, Answers x) ↔ ∀ move ∈ past, KeepsName move := by
  refine run.forall_states_iff_of_fair ?_ ?_ ?_ clicks
  · rintro r ⟨-, hdecisions, -, -⟩ click mem
    rw [hdecisions] at mem
    cases mem
  · rintro move made ⟨earlier, before⟩ prompt keeps h
    exact h.of_keepsName made (receiver_invariants_of_run before).2 prompt keeps
  · rintro move made - h
    exact keepsName_of_answers made h

/-- An approval for the waiting name activates that name. -/
theorem bindsToName_of_answers {move : ReceiverMove} (made : receiver.Makes move)
    (h : Answers move.source) : BindsToName move := by
  intro click rest p haction hqueue yes hp
  have hinput : move.source.inputOf move.action = some (.decision click.decision) := by
    rw [haction, Receiver.inputOf, hqueue]
    rfl
  obtain ⟨hreact, -⟩ := Receiver.step_of_inputOf_some made hinput
  have mem : click ∈ move.source.decisions := by
    rw [hqueue]
    exact List.mem_cons_self
  have hdecision : click.decision = ⟨click.decision.connection, true⟩ := by
    rw [← yes]
  have hloop : move.target.loop =
      (move.source.loop.react (.decision ⟨click.decision.connection, true⟩)).1 := by
    rw [← hdecision, hreact]
  refine ⟨move.source.loop.sessionOf click.decision.connection p, ?_, rfl, ?_⟩
  · rw [hloop, SessionLoop.react_allow hp]
  · exact h click mem yes p hp

/-- **Consent binds to the name on screen**, in every run in which no sender
changes its name while an approval for it is on its way. -/
theorem consent_binds_to_name (run : receiver.Run past r)
    (clicks : ∀ move ∈ past, FromPrompt move)
    (keeps : ∀ move ∈ past, KeepsName move) : ∀ move ∈ past, BindsToName move := by
  have answers := (answers_iff_keepsName run clicks).mpr keeps
  intro move mem
  exact bindsToName_of_answers (run.of_mem mem).2
    (answers _ (run.ends_mem_states mem).1)

/-! ## A sender that asks twice -/

/-- The receiver before the requests below. -/
def livingRoom : Receiver := .startedWith ⟨"Living room", 7000, 8000, 60⟩

/-- Alice asks and is allowed; before the answer is handled, the same connection
asks again as `displayName`. -/
def askAgain (displayName : String) : List ReceiverAction :=
  [.asks ⟨1⟩ "Alice", .allows ⟨1⟩, .asks ⟨1⟩ displayName, .answer]

/-- The one button of the scenario is pressed on Alice's prompt. -/
theorem askAgain_fromPrompt (displayName : String) :
    ∀ move ∈ receiver.history (askAgain displayName) livingRoom, FromPrompt move := by
  intro move mem
  rcases List.mem_cons.mp mem with rfl | mem
  · intro decision haction
    cases haction
  rcases List.mem_cons.mp mem with rfl | mem
  · intro decision haction
    cases haction
  rcases List.mem_cons.mp mem with rfl | mem
  · intro decision haction
    cases haction
    exact ⟨"Alice", rfl⟩
  rcases List.mem_cons.mp mem with rfl | mem
  · intro decision haction
    cases haction
  cases mem

/-- A sender that repeats its own request while the approval is on its way is
approved under its name. -/
theorem consent_binds_to_name_on_repeating :
    (receiver.final (askAgain "Alice") livingRoom).loop.status = .negotiating "Alice" ∧
      ∀ move ∈ receiver.history (askAgain "Alice") livingRoom, BindsToName move := by
  refine ⟨rfl, consent_binds_to_name (System.Run.of_actions _ (receiver_init _) rfl)
    (askAgain_fromPrompt "Alice") ?_⟩
  intro move mem
  rcases List.mem_cons.mp mem with rfl | mem
  · intro incoming around displayName capabilities haction
    cases haction
  rcases List.mem_cons.mp mem with rfl | mem
  · intro incoming around displayName capabilities haction admitted click hclick _
    obtain ⟨senderId, request⟩ := admitted.request
    cases haction
    cases request
    cases List.mem_singleton.mp hclick
    rfl
  rcases List.mem_cons.mp mem with rfl | mem
  · intro incoming around displayName capabilities haction
    cases haction
  rcases List.mem_cons.mp mem with rfl | mem
  · intro incoming around displayName capabilities haction admitted click hclick
    cases hclick
  cases mem

/-- A sender that changes its name while the approval is on its way is approved
under a name the user never saw. -/
theorem approval_inherited_by_new_name :
    ¬ ∀ past r, receiver.Run past r → (∀ move ∈ past, FromPrompt move) →
      ∀ move ∈ past, BindsToName move := by
  intro binds
  have run : receiver.Run (receiver.history (askAgain "Mallory") livingRoom)
      (receiver.final (askAgain "Mallory") livingRoom) :=
    .of_actions _ (receiver_init _) rfl
  have bound := binds _ _ run (askAgain_fromPrompt "Mallory") _ List.mem_cons_self
    ⟨⟨⟨1⟩, true⟩, .pendingConsent "Alice" ⟨1⟩⟩ [] ⟨⟨⟨1⟩⟩, "Mallory", 30⟩ rfl rfl rfl
    (by decide)
  obtain ⟨a, hactive, -, hshown⟩ := bound
  cases hactive
  exact absurd hshown (by decide)

end OpenPlay
