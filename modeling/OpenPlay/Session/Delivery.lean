import OpenPlay.Session.Accounts

/-!
# No candidate is lost behind an offer

The accounts of a connection are kept by every move of a run (`books_of_run`).  If
all that a sender passes on is in order, they say that none of its candidates is
lost; and what is out of order is lost as soon as it is delivered.
-/

namespace OpenPlay

open Transition

/-! ## Runs -/

namespace TrickleMove

variable {move : TrickleMove} {c : ConnectionId}

theorem forwards_eq_nil (other : move.action ≠ .take c) : move.forwards c = [] := by
  unfold forwards
  cases haction : move.action with
  | take d =>
      refine if_neg fun h => ?_
      rw [haction, h.1] at other
      exact other rfl
  | _ => rfl

theorem keeps_eq_nil (nothing : move.forwards c = []) : move.keeps c = [] := by
  rw [keeps, nothing, List.filter_nil]

theorem forwards_take {event : WebRtcEvent} (is : move.action = .take c)
    (head : (move.source.peer c).events.head? = some event) :
    move.forwards c =
      if (move.source.network.link c).writer then event.candidate.toList else [] := by
  rw [forwards, is]
  simp only [head, true_and, Option.bind_some]

/-- A move is in order exactly if it keeps what it passes on. -/
theorem keeps_eq_forwards_iff : move.keeps c = move.forwards c ↔ move.InOrder c := by
  rw [keeps, List.filter_eq_self, InOrder]
  simp only [Bool.and_eq_true]

theorem keeps_sublist (c : ConnectionId) (move : TrickleMove) :
    (move.keeps c).Sublist (move.forwards c) := List.filter_sublist

end TrickleMove

/-- What the sender on `c` has passed on in order. -/
def keptInOrder (c : ConnectionId) (past : List TrickleMove) : List Candidate :=
  collect (TrickleMove.keeps c) past

/-- All the books of a run. -/
structure Books (past : List TrickleMove) (x : Trickle) (c : ConnectionId) : Prop where
  issued : Issued (fun k => applied k past) x.network.receiver.loop
  accounts : Accounts (forwarded c past) (keptInOrder c past) (fun k => applied k past)
    (x.peer c) (x.network.link c) x.network.receiver.loop c

namespace Books

variable {past : List TrickleMove} {move : TrickleMove} {c : ConnectionId}

/-- A move in which nothing is passed on or applied. -/
theorem of_silent (h : Books past move.source c) (other : move.action ≠ .take c)
    (silent : move.output = [])
    (loop : move.target.network.receiver.loop = move.source.network.receiver.loop)
    (accounts : ∀ {said kept : List Candidate} {used : Nat → List Candidate},
      Accounts said kept used (move.source.peer c) (move.source.network.link c)
          move.source.network.receiver.loop c →
        Accounts said kept used (move.target.peer c) (move.target.network.link c)
          move.source.network.receiver.loop c) : Books (move :: past) move.target c := by
  have none_applied : (fun k => applied k (move :: past)) = fun k => applied k past := by
    funext k
    show applied k past ++ appliedTo ⟨k⟩ move.output = _
    rw [silent]
    exact List.append_nil _
  have nothing := TrickleMove.forwards_eq_nil other
  refine ⟨?_, ?_⟩
  · rw [none_applied, loop]
    exact h.issued
  · rw [none_applied, loop]
    show Accounts (forwarded c past ++ move.forwards c) (keptInOrder c past ++ move.keeps c)
      _ _ _ _ _
    rw [TrickleMove.keeps_eq_nil nothing, nothing, List.append_nil, List.append_nil]
    exact accounts h.accounts

/-- A move that is a turn of the session loop. -/
theorem of_turn (h : Books past move.source c) (other : move.action ≠ .take c)
    {input : Input} (made : sessionLoop.Makes ⟨move.source.network.receiver.loop, input,
      move.output, move.target.network.receiver.loop⟩)
    (accounts : ∀ {said kept : List Candidate} {used : Nat → List Candidate},
      Issued used move.source.network.receiver.loop →
      Accounts said kept used (move.source.peer c) (move.source.network.link c)
          move.source.network.receiver.loop c →
        Accounts said kept (fun k => used k ++ appliedTo ⟨k⟩ move.output)
          (move.target.peer c) (move.target.network.link c)
          move.target.network.receiver.loop c) : Books (move :: past) move.target c := by
  have nothing := TrickleMove.forwards_eq_nil other
  refine ⟨h.issued.of_makes made, ?_⟩
  show Accounts (forwarded c past ++ move.forwards c) (keptInOrder c past ++ move.keeps c)
    _ _ _ _ _
  rw [TrickleMove.keeps_eq_nil nothing, nothing, List.append_nil, List.append_nil]
  exact accounts h.issued h.accounts

/-- **Every move keeps the books.** -/
theorem of_makes (h : Books past move.source c) (made : trickle.Makes move)
    (hx : Exclusive move.source.network.receiver.loop)
    (orderly : Orderly (move.target.network.link c) move.target.network.receiver.loop c) :
    Books (move :: past) move.target c := by
  cases Trickle.step_sees made c with
  | aside other network received silent =>
      refine h.of_silent other silent (by rw [network]) fun accounts => ?_
      rw [network]
      exact accounts.of_received received
  | takes is head received stepped receiver silent =>
      have none_applied : (fun k => applied k (move :: past)) = fun k => applied k past := by
        funext k
        show applied k past ++ appliedTo ⟨k⟩ move.output = _
        rw [silent]
        exact List.append_nil _
      refine ⟨?_, ?_⟩
      · rw [none_applied, receiver]
        exact h.issued
      · rw [none_applied, receiver]
        exact h.accounts.of_take stepped received (TrickleMove.forwards_take is head)
  | does other stepped plain received =>
      cases Network.step_sees stepped c with
      | own is moves receiver now =>
          rw [is] at stepped plain
          obtain ⟨hlink, -, silent⟩ := Network.link_of_step stepped
          refine h.of_silent other silent (by rw [receiver]) fun accounts => ?_
          refine accounts.of_plain hlink ?_ received
          rintro event rfl
          exact plain event rfl
      | still link loop now silent =>
          refine h.of_silent other silent loop fun accounts => ?_
          rw [link]
          exact accounts.of_received received
      | heard is inbox loopMade link now =>
          rw [link] at orderly
          refine h.of_turn other loopMade fun issued accounts => ?_
          rw [link]
          exact accounts.heard issued hx inbox loopMade orderly received
      | elsewhere isInput noMessage loopMade link now =>
          rw [link] at orderly
          refine h.of_turn other loopMade fun issued accounts => ?_
          rw [link]
          exact accounts.elsewhere issued hx noMessage loopMade orderly received

end Books

theorem books_of_run {past : List TrickleMove} {x : Trickle} (run : trickle.Run past x)
    (c : ConnectionId) : Books past x c := by
  induction run with
  | @start x initial =>
      obtain ⟨⟨⟨⟨config, status, undiscoverable, -, hloop⟩, -⟩, hlink⟩, hpeer⟩ := initial
      have none_active : x.network.receiver.loop.active = none := by rw [hloop]; rfl
      refine ⟨⟨?_, ?_, fun k _ => rfl⟩, ?_, ?_, ?_, ?_⟩
      · intro a media was
        rw [none_active] at was
        cases was
      · intro a was
        rw [none_active] at was
        cases was
      · intro m mem
        rw [hlink] at mem
        cases mem
      · refine Or.inl ⟨?_, rfl, rfl, by rw [hpeer]; rfl⟩
        rw [hlink]
        refine ⟨rfl, ?_, ?_, by rw [hloop]; rfl⟩
        · intro m mem
          cases mem
        · intro m mem
          cases mem
      · intro a was
        rw [none_active] at was
        cases was
      · intro a was
        rw [none_active] at was
        cases was
  | @move past move before made ih =>
      have hx := network_exclusive_of_run (trickleToNetwork.run before)
      have after : trickle.Run (move :: past) move.target := .move before made
      exact ih.of_makes made hx (orderly_of_run (trickleToNetwork.run after) c)

/-! ## Delivery -/

/-- The receiver gets on with what the sender on `c` has said. -/
inductive TrickleAction.Delivers (c : ConnectionId) : TrickleAction → Prop
  | read : Delivers c (.network (.link c .read))
  | handle (around : Surroundings) : Delivers c (.network (.handle c around))

theorem TrickleAction.Delivers.not_take {c : ConnectionId} {action : TrickleAction}
    (delivers : action.Delivers c) : action ≠ .take c := by
  rintro rfl
  cases delivers

namespace Trickle

variable {x : Trickle} {c : ConnectionId}

theorem exists_read {message : SignalingMessage} {rest : List SignalingMessage}
    (queue : (x.network.link c).up = message :: rest)
    (serving : (x.network.link c).serving = true) :
    ∃ x', x.step (.network (.link c .read)) = some (x', []) ∧
      (x'.network.link c).up = rest ∧
      (x'.network.link c).inbox.length ≤ (x.network.link c).inbox.length + 1 ∧
      (x'.network.link c).serving = true := by
  have stepped : ∃ l', (x.network.link c).step x.network.now .read = some l' ∧
      l'.up = rest ∧ l'.inbox.length ≤ (x.network.link c).inbox.length + 1 ∧
      l'.serving = true := by
    unfold Link.step
    simp only [queue, serving, if_true]
    refine ⟨_, rfl, rfl, ?_, rfl⟩
    dsimp only
    split
    · rw [List.length_append]
      exact Nat.le_refl _
    · exact Nat.le_succ _
  obtain ⟨l', hl', up, inbox, serving'⟩ := stepped
  refine ⟨{ x with network :=
    { x.network with link := Function.update x.network.link c l' } }, ?_, ?_⟩
  · simp [step, NetworkAction.takesEvent, Network.step, hl']
  · dsimp only
    rw [Function.update_self]
    exact ⟨up, inbox, serving'⟩

theorem exists_handle {message : SignalingMessage} {rest : List SignalingMessage}
    (queue : (x.network.link c).inbox = message :: rest) (around : Surroundings) :
    ∃ x' effects, x.step (.network (.handle c around)) = some (x', effects) ∧
      (x'.network.link c).up = (x.network.link c).up ∧
      (x'.network.link c).inbox = rest ∧
      (x'.network.link c).serving = (x.network.link c).serving := by
  have enabled : ∃ next, x.network.step (.handle c around) = some next := by
    simp [Network.step, Network.actionOf, queue, Network.receive, Receiver.step,
      Receiver.inputOf]
  obtain ⟨⟨n', effects⟩, stepped⟩ := enabled
  refine ⟨{ x with network := n' }, effects, ?_, ?_⟩
  · simp [step, NetworkAction.takesEvent, stepped]
  · have popped : n'.link c = (x.network.link c).popped.replied (sentTo c effects) := by
      rcases Network.step_cases stepped with ⟨d, linkAction, l', is, -⟩ | ⟨millis, is, -⟩ |
        ⟨receiverAction, -, -, -, hlink⟩
      · cases is
      · cases is
      · rw [hlink c]
        rcases x.network.taking_link (.handle c around) c with ⟨other, -⟩ | ⟨around', -, hl⟩
        · exact absurd rfl (other around)
        · rw [hl]
    show (n'.link c).up = _ ∧ (n'.link c).inbox = _ ∧ (n'.link c).serving = _
    rw [popped, Link.replied_up, Link.replied_inbox, Link.replied_serving]
    exact ⟨rfl, by rw [Link.popped, queue]; rfl, rfl⟩

end Trickle

/-- **A standing connection can deliver what is on it**, and nothing is passed on
meanwhile. -/
theorem exists_delivery {x : Trickle} (past : List TrickleMove) (c : ConnectionId)
    (serving : (x.network.link c).serving = true) :
    ∃ actions past' x', (∀ action ∈ actions, TrickleAction.Delivers c action) ∧
      trickle.execute actions past x = some (past', x') ∧
      (x'.network.link c).candidates = [] ∧ forwarded c past' = forwarded c past := by
  -- Reading moves a message from one queue to the next, handling takes it off.
  generalize size : 2 * (x.network.link c).up.length + (x.network.link c).inbox.length = n
  induction n using Nat.strongRecOn generalizing x past with
  | ind n ih =>
      have goOn : ∀ {action : TrickleAction} {x₁ : Trickle} {effects : List Effect},
          action.Delivers c → x.step action = some (x₁, effects) →
          (x₁.network.link c).serving = true →
          2 * (x₁.network.link c).up.length + (x₁.network.link c).inbox.length < n →
          ∃ actions past' x', (∀ action ∈ actions, TrickleAction.Delivers c action) ∧
            trickle.execute actions past x = some (past', x') ∧
            (x'.network.link c).candidates = [] ∧ forwarded c past' = forwarded c past := by
        intro action x₁ effects delivers stepped serving₁ smaller
        obtain ⟨actions, past', x', all, executed, none_left, same⟩ :=
          ih _ smaller (⟨x, action, effects, x₁⟩ :: past) serving₁ rfl
        refine ⟨action :: actions, past', x', ?_, ?_, none_left, ?_⟩
        · intro action' mem
          rcases List.mem_cons.mp mem with rfl | mem
          · exact delivers
          · exact all action' mem
        · exact (System.execute_cons stepped actions past).trans executed
        · rw [same]
          show forwarded c past ++ TrickleMove.forwards c ⟨x, action, effects, x₁⟩ = _
          rw [TrickleMove.forwards_eq_nil delivers.not_take, List.append_nil]
      cases hup : (x.network.link c).up with
      | cons message rest =>
          obtain ⟨x₁, stepped, up, inbox, serving₁⟩ := Trickle.exists_read hup serving
          refine goOn .read stepped serving₁ ?_
          rw [up]
          rw [hup, List.length_cons] at size
          omega
      | nil =>
          cases hinbox : (x.network.link c).inbox with
          | cons message rest =>
              obtain ⟨x₁, effects, stepped, up, inbox, serving₁⟩ :=
                Trickle.exists_handle hinbox .calm
              refine goOn (.handle .calm) stepped (serving₁.trans serving) ?_
              rw [up, inbox]
              rw [hinbox, List.length_cons] at size
              omega
          | nil =>
              refine ⟨[], past, x, by simp, rfl, ?_, rfl⟩
              rw [Link.candidates, Link.stream, hup, hinbox]
              rfl

/-- **No candidate is lost behind an offer.**  If a sender passes its candidates on
behind an offer, and neither is too long for the receiver, then in every state of
the run its candidates are applied to the peer of its session, or on their way.  And
once they have been delivered, which is always possible on a connection that stands,
all of them have been applied exactly if the sender kept to that order. -/
theorem no_candidate_lost_iff_in_order {past : List TrickleMove} {x : Trickle}
    (run : trickle.Run past x) (c : ConnectionId) :
    ((∀ move ∈ past, move.InOrder c) → NoneLost c past x) ∧
      (∀ a, x.network.receiver.loop.active = some a → a.connection = c →
        (x.network.link c).cut = false → (x.network.link c).candidates = [] →
          (forwarded c past = applied a.session past ↔ ∀ move ∈ past, move.InOrder c)) ∧
      ((x.network.link c).serving = true →
        ∃ actions past' x', (∀ action ∈ actions, TrickleAction.Delivers c action) ∧
          trickle.execute actions past x = some (past', x') ∧
          (x'.network.link c).candidates = [] ∧ forwarded c past' = forwarded c past) := by
  have books := books_of_run run c
  have all : keptInOrder c past = forwarded c past ↔ ∀ move ∈ past, move.InOrder c := by
    refine (collect_eq_iff (TrickleMove.keeps_sublist c) past).trans ?_
    simp only [TrickleMove.keeps_eq_forwards_iff]
  refine ⟨?_, ?_, exists_delivery past c⟩
  · intro inOrder a was owner uncut
    exact (books.accounts.account a was owner uncut).none_lost (all.mpr inOrder)
  · intro a was owner uncut delivered
    have account := books.accounts.account a was owner uncut
    rw [← all, account.kept_of_read delivered]
    exact eq_comm

/-- One candidate, found after the offer has been published. -/
theorem no_candidate_lost_iff_in_order_with_offer_first :
    let past := trickle.history (TrickleAction.offerFirst ⟨1⟩) .livingRoom
    let x := trickle.final (TrickleAction.offerFirst ⟨1⟩) .livingRoom
    x.network.receiver.loop.active.isSome = true ∧ NoneLost ⟨1⟩ past x ∧
      forwarded ⟨1⟩ past = [⟨0, "candidate:1"⟩] ∧ applied 0 past = [⟨0, "candidate:1"⟩] := by
  have run : trickle.Run (trickle.history (TrickleAction.offerFirst ⟨1⟩) .livingRoom) _ :=
    System.Run.of_actions _ trickle_init rfl
  exact ⟨rfl, (no_candidate_lost_iff_in_order run ⟨1⟩).1 (by decide), rfl, rfl⟩

/-- A candidate that is found before the offer is published overtakes it, and the
receiver drops it although the session is active. -/
theorem candidate_lost_before_offer :
    ¬ ∀ past x, trickle.Run past x → ∀ c, NoneLost c past x := by
  intro kept
  have run : trickle.Run (trickle.history (TrickleAction.candidateFirst ⟨1⟩) .livingRoom)
      (trickle.final (TrickleAction.candidateFirst ⟨1⟩) .livingRoom) :=
    System.Run.of_actions _ trickle_init rfl
  have lost := kept _ _ run ⟨1⟩ ⟨0, ⟨1⟩, ⟨⟨1⟩⟩, "Alice", some ⟨⟨0⟩⟩⟩ rfl rfl rfl
  have passed : forwarded ⟨1⟩
      (trickle.history (TrickleAction.candidateFirst ⟨1⟩) .livingRoom) =
        [⟨0, "candidate:1"⟩] := rfl
  rw [passed] at lost
  cases lost

end OpenPlay
