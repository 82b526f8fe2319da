import OpenPlay.Sender.Entry

/-!
# Receivers that differ

Two additions with different dial targets should both be listed.  Keys are made of other
parts of a receiver than its dial target is, and an addition whose key is taken is dropped.
-/

namespace OpenPlay.Sender

open Transition

/-- The additions that were not lost afterwards. -/
def standing : List ListMove → List Addition
  | [] => []
  | move :: past =>
      ((standing past).filter fun a => a.service = none ∨ a.service ≠ move.action.lost) ++
        move.action.addition.toList

/-- The target of an addition. -/
def Addition.target (a : Addition) : DialTarget := a.receiver.dialTarget

/-- A receiver with this target is listed, and a cast to it, once selected, goes there;
without an address it is refused. -/
def CastsTo (x : ReceiverList) (target : DialTarget) : Prop :=
  ∃ k r, x.receivers.lookup k = some r ∧ r.dialTarget = target ∧
    ∀ displayName, ∃ y result, x.select k = some y ∧ y.startCast displayName = some result ∧
      ((∃ cast, result = .ok cast ∧ cast.dialTarget = target) ∨
        target.addr = none ∧ target.wifiDirectAddress = none)

/-- Additions that differ are both listed, and what a user has entered is. -/
structure Distinct (past : List ListMove) (x : ReceiverList) : Prop where
  both : ∀ a ∈ standing past, ∀ b ∈ standing past, a.target ≠ b.target →
    CastsTo x a.target ∧ CastsTo x b.target
  manual : ∀ a ∈ standing past, a.service = none → CastsTo x a.target

/-- Every addition that stands is listed. -/
def AllListed (past : List ListMove) (x : ReceiverList) : Prop :=
  ∀ a ∈ standing past, CastsTo x a.target

/-- What is added finds its key free or its target listed, and a Lost event leaves the
targets of all the others listed. -/
structure KeepsListed (past : List ListMove) (move : ListMove) : Prop where
  added : ∀ a, move.action.addition = some a →
    entry past a.receiver.key = none ∨ ∃ k b, entry past k = some b ∧ b.target = a.target
  lost : ∀ name, move.action.lost = some name →
    ∀ a ∈ standing past, a.service ≠ some name →
      ∃ k b, k ≠ name ∧ entry past k = some b ∧ b.target = a.target

section

variable {past : List ListMove} {move : ListMove} {x : ReceiverList} {a : Addition}

theorem AllListed.distinct (h : AllListed past x) : Distinct past x where
  both a ha b hb _ := ⟨h a ha, h b hb⟩
  manual a ha _ := h a ha

theorem castsTo_iff (run : receiverList.Run past x) (target : DialTarget) :
    CastsTo x target ↔ ∃ k b, entry past k = some b ∧ b.target = target := by
  constructor
  · rintro ⟨k, r, shown, rfl, -⟩
    rw [lookup_eq_entry run] at shown
    obtain ⟨b, found, rfl⟩ := Option.map_eq_some_iff.mp shown
    exact ⟨k, b, found, rfl⟩
  · rintro ⟨k, b, found, rfl⟩
    have shown : x.receivers.lookup k = some b.receiver := by
      rw [lookup_eq_entry run, found]
      rfl
    refine ⟨k, b.receiver, shown, rfl, fun displayName => ?_⟩
    obtain ⟨y, selected, started⟩ := ReceiverList.startCast_select shown displayName
    refine ⟨y, _, selected, started, ?_⟩
    rcases dialTarget_castTarget displayName b.receiver with goes | ⟨-, nowhere⟩
    · exact Or.inl goes
    · exact Or.inr nowhere

theorem mem_standing_of_added (added : move.action.addition = some a)
    (lost : move.action.lost = none) (b : Addition) :
    b ∈ standing (move :: past) ↔ b ∈ standing past ∨ b = a := by
  simp [standing, added, lost, em]

theorem mem_standing_of_lost {name : Key} (added : move.action.addition = none)
    (lost : move.action.lost = some name) (b : Addition) :
    b ∈ standing (move :: past) ↔ b ∈ standing past ∧ b.service ≠ some name := by
  have named : b.service = none ∨ b.service ≠ some name ↔ b.service ≠ some name :=
    or_iff_right_of_imp fun none same => nomatch none.symm.trans same
  simp [standing, added, lost, named]

theorem standing_of_kept (added : move.action.addition = none)
    (lost : move.action.lost = none) : standing (move :: past) = standing past := by
  simp [standing, added, lost, em]

/-- One move, on a list that shows all there is. -/
theorem AllListed.step_iff (run : receiverList.Run past move.source)
    (made : receiverList.Makes move) (h : AllListed past move.source) :
    AllListed (move :: past) move.target ↔ KeepsListed past move := by
  have run' := System.Run.move run made
  simp only [AllListed, castsTo_iff run, castsTo_iff run'] at h ⊢
  cases listDoes_of_makes made with
  | @adds a added lost _ =>
      have entry' := entry_of_added past added lost
      constructor
      · intro h'
        refine ⟨fun b isAdded => ?_, fun name isLost => absurd (lost.symm.trans isLost) nofun⟩
        cases added.symm.trans isAdded
        obtain ⟨k, b, found, same⟩ := h' a ((mem_standing_of_added added lost a).mpr (Or.inr rfl))
        rw [entry'] at found
        cases free : entry past a.receiver.key with
        | none => exact Or.inl rfl
        | some c =>
            refine Or.inr ?_
            rcases Option.or_eq_some_iff.mp found with earlier | ⟨unlisted, now⟩
            · exact ⟨k, b, earlier, same⟩
            · split_ifs at now with key
              rw [← key, free] at unlisted
              cases unlisted
      · intro ok b mem
        rcases (mem_standing_of_added added lost b).mp mem with earlier | rfl
        · obtain ⟨k, c, found, same⟩ := h b earlier
          exact ⟨k, c, by rw [entry', found, Option.some_or], same⟩
        · rcases ok.added b added with free | ⟨k, c, found, same⟩
          · exact ⟨b.receiver.key, b, by rw [entry', free, if_pos rfl, Option.none_or], rfl⟩
          · exact ⟨k, c, by rw [entry', found, Option.some_or], same⟩
  | @removes name added lost _ =>
      have entry' := entry_of_lost past added lost
      constructor
      · intro h'
        refine ⟨fun b isAdded => absurd (added.symm.trans isAdded) nofun, ?_⟩
        intro name' isLost b mem other
        cases lost.symm.trans isLost
        obtain ⟨k, c, found, same⟩ := h' b ((mem_standing_of_lost added lost b).mpr ⟨mem, other⟩)
        rw [entry'] at found
        split_ifs at found with key
        exact ⟨k, c, key, found, same⟩
      · intro ok b mem
        obtain ⟨earlier, other⟩ := (mem_standing_of_lost added lost b).mp mem
        obtain ⟨k, c, key, found, same⟩ := ok.lost name lost b earlier other
        exact ⟨k, c, by rw [entry', if_neg key, found], same⟩
  | keeps added lost _ =>
      have nothing : KeepsListed past move :=
        ⟨fun b isAdded => absurd (added.symm.trans isAdded) nofun,
          fun name isLost => absurd (lost.symm.trans isLost) nofun⟩
      refine iff_of_true ?_ nothing
      simpa only [standing_of_kept added lost, entry_of_kept past added lost] using h

/-- **When receivers that differ are all listed.** -/
theorem distinct_receivers_listed (run : receiverList.Run past x) :
    ((∀ p ∈ System.positions past x, AllListed p.1 p.2) ↔
        ∀ move older, move :: older <:+ past → KeepsListed older move) ∧
      ((∀ move older, move :: older <:+ past → KeepsListed older move) →
        ∀ p ∈ System.positions past x, Distinct p.1 p.2) := by
  have exact : (∀ p ∈ System.positions past x, AllListed p.1 p.2) ↔
      ∀ move older, move :: older <:+ past → KeepsListed older move := by
    apply run.forall_positions_iff
    · intro s _ a mem
      cases mem
    · intro past move before made ok h
      exact (h.step_iff before made).mpr ok
    · intro past move before made h h'
      exact (h.step_iff before made).mp h'
  exact ⟨exact, fun keeps p mem => (exact.mpr keeps p mem).distinct⟩

end

/-! ## Two ports of one address -/

/-- Two entries of the AirPlay dialog, with the port of the second. -/
def enteredTwice (port : String) : List ListAction :=
  [.addAirplay "".toList "192.168.1.5".toList "7000".toList,
    .addAirplay "".toList "192.168.1.5".toList port.toList]

theorem run_enteredTwice (port : String) :
    receiverList.Run (receiverList.history (enteredTwice port) .empty)
      (receiverList.final (enteredTwice port) .empty) :=
  .of_actions _ rfl rfl

theorem distinct_receivers_listed_for_one_port :
    let past := receiverList.history (enteredTwice "7000") .empty
    let x := receiverList.final (enteredTwice "7000") .empty
    ((∀ p ∈ System.positions past x, AllListed p.1 p.2) ↔
        ∀ move older, move :: older <:+ past → KeepsListed older move) ∧
      ((∀ move older, move :: older <:+ past → KeepsListed older move) →
        ∀ p ∈ System.positions past x, Distinct p.1 p.2) :=
  distinct_receivers_listed (run_enteredTwice "7000")

/-- The entry of the dialog for a port. -/
def airplayAt (port : UInt16) : DiscoveredReceiver :=
  .airPlay
    { name := "manual-airplay-192.168.1.5".toList
      displayName := "192.168.1.5".toList
      addresses := [.v4 ⟨192, 168, 1, 5⟩]
      port := port }

theorem manualAirplay_enteredTwice :
    manualAirplay "".toList "192.168.1.5".toList "7000".toList = .ok (airplayAt 7000) ∧
      manualAirplay "".toList "192.168.1.5".toList "7001".toList = .ok (airplayAt 7001) := by
  decide

/-- **An entry that is dropped**: the dialog accepts the second port. -/
theorem second_port_is_dropped : ¬ ∀ past x, receiverList.Run past x → Distinct past x := by
  intro all
  obtain ⟨accepted, accepted'⟩ := manualAirplay_enteredTwice
  obtain ⟨first, second, history, added, added', lost, lost'⟩ :
      ∃ first second : ListMove,
        receiverList.history (enteredTwice "7001") .empty = [second, first] ∧
          first.action.addition = some ⟨none, airplayAt 7000⟩ ∧
          second.action.addition = some ⟨none, airplayAt 7001⟩ ∧
          first.action.lost = none ∧ second.action.lost = none :=
    ⟨_, _, rfl, by rw [ListAction.addition, accepted]; rfl,
      by rw [ListAction.addition, accepted']; rfl, rfl, rfl⟩
  have run := run_enteredTwice "7001"
  rw [history] at run
  have stands : ⟨none, airplayAt 7001⟩ ∈ standing [second, first] :=
    (mem_standing_of_added added' lost' _).mpr (Or.inr rfl)
  obtain ⟨k, b, found, same⟩ := (castsTo_iff run _).mp ((all _ _ run).manual _ stands rfl)
  -- both have the one key, and the first has taken it
  have key : (airplayAt 7001).key = (airplayAt 7000).key := rfl
  rw [entry_of_added [first] added' lost', entry_of_added [] added lost, entry,
    Option.none_or] at found
  dsimp only at found
  rw [key] at found
  split_ifs at found
  · cases found
    exact absurd same (by decide)
  · cases found

end OpenPlay.Sender
