import OpenPlay.Sender.Lost

/-!
# What services say of themselves

A service is resolved again when its address, its port or its certificate changes, and each
time a Found event describes it.  `directory` is the fold of these events; the list is up to
date while it shows just that.  `add_receiver` keeps what is listed, so the list agrees with
the directory only as long as no event says anything new.
-/

namespace OpenPlay.Sender

open Transition

/-- The receiver of the most recent Found event of a service since its last Lost event. -/
def directory : List ListMove → Key → Option DiscoveredReceiver
  | [], _ => none
  | move :: past, name =>
      if move.action.lost = some name then none
      else
        ((move.action.addition.filter fun a => a.service = some name).map
          Addition.receiver).or (directory past name)

/-- What is listed for a service is what it says of itself, and what is dialled and pinned. -/
structure UpToDate (past : List ListMove) (x : ReceiverList) : Prop where
  listed : ∀ name r, directory past name = some r → x.receivers.lookup r.key = some r
  current : ∀ k name r, x.receivers.lookup k = some r → addedBy past k = some name →
    directory past name = some r
  dialled : ∀ name r displayName, directory past name = some r →
    ∃ y, x.select r.key = some y ∧ y.startCast displayName = some (castTarget displayName r)

/-- The move leaves the list up to date: a Found event says nothing new, and a Lost event
takes out what its service has brought, and that alone. -/
structure SaysNothingNew (past : List ListMove) (move : ListMove) : Prop where
  free : ∀ name r, move.action.addition = some ⟨some name, r⟩ →
    ∀ a, entry past r.key = some a → a.receiver = r
  same : ∀ name r, move.action.addition = some ⟨some name, r⟩ →
    ∀ k a, entry past k = some a → a.service = some name → k = r.key
  byName : LosesByName past move
  alone : ∀ name, move.action.lost = some name →
    ∀ other r, other ≠ name → directory past other = some r → r.key ≠ name

section

variable {past : List ListMove} {move : ListMove} {x : ReceiverList} {a : Addition}

theorem directory_of_added (past : List ListMove) (added : move.action.addition = some a)
    (lost : move.action.lost = none) (name : Key) :
    directory (move :: past) name =
      if a.service = some name then some a.receiver else directory past name := by
  by_cases named : a.service = some name <;>
    simp [directory, added, lost, Option.filter, named]

theorem directory_of_lost (past : List ListMove) {lostName : Key} (added : move.action.addition = none)
    (lost : move.action.lost = some lostName) (name : Key) :
    directory (move :: past) name = if name = lostName then none else directory past name := by
  simp [directory, added, lost, eq_comm]

theorem directory_of_kept (past : List ListMove) (added : move.action.addition = none)
    (lost : move.action.lost = none) (name : Key) :
    directory (move :: past) name = directory past name := by
  simp [directory, added, lost]

/-- `UpToDate`, of the events alone. -/
structure Agrees (past : List ListMove) : Prop where
  listed : ∀ name r, directory past name = some r →
    ∃ a, entry past r.key = some a ∧ a.receiver = r
  current : ∀ k a name, entry past k = some a → a.service = some name →
    directory past name = some a.receiver

theorem upToDate_iff (run : receiverList.Run past x) : UpToDate past x ↔ Agrees past := by
  constructor
  · intro h
    constructor
    · intro name r known
      have shown := h.listed name r known
      rw [lookup_eq_entry run] at shown
      exact Option.map_eq_some_iff.mp shown
    · intro k a name standing service
      apply h.current k name a.receiver
      · rw [lookup_eq_entry run, standing]
        rfl
      · rw [addedBy_eq_entry run standing, service]
  · intro h
    have listed : ∀ name r, directory past name = some r →
        x.receivers.lookup r.key = some r := by
      intro name r known
      rw [lookup_eq_entry run]
      exact Option.map_eq_some_iff.mpr (h.listed name r known)
    refine ⟨listed, fun k name r shown origin => ?_, fun name r displayName known =>
      ReceiverList.startCast_select (listed name r known) displayName⟩
    rw [lookup_eq_entry run] at shown
    obtain ⟨a, standing, rfl⟩ := Option.map_eq_some_iff.mp shown
    exact h.current k a name standing ((addedBy_eq_entry run standing).symm.trans origin)

theorem Agrees.adds (h : Agrees past) (added : move.action.addition = some a)
    (lost : move.action.lost = none) :
    Agrees (move :: past) ↔ SaysNothingNew past move := by
  have directory' := directory_of_added past added lost
  have entry' := entry_of_added past added lost
  have later : ∀ k b, entry past k = some b → entry (move :: past) k = some b := by
    intro k b standing
    rw [entry', standing, Option.some_or]
  constructor
  · intro h'
    constructor
    · intro name r isAdded b standing
      cases added.symm.trans isAdded
      obtain ⟨c, standing', rfl⟩ := h'.listed name r (by rw [directory', if_pos rfl])
      rw [later _ _ standing] at standing'
      cases standing'
      rfl
    · intro name r isAdded k b standing service
      cases added.symm.trans isAdded
      have said := h'.current k b name (later k b standing) service
      rw [directory', if_pos rfl] at said
      have same : r = b.receiver := Option.some.inj said
      rw [same, key_of_entry standing]
    · exact fun name isLost => absurd (lost.symm.trans isLost) nofun
    · exact fun name isLost => absurd (lost.symm.trans isLost) nofun
  · intro ok
    constructor
    · intro name r known
      rw [directory'] at known
      split_ifs at known with service
      · cases known
        cases standing : entry past a.receiver.key with
        | none => exact ⟨a, by rw [entry', standing, if_pos rfl, Option.none_or], rfl⟩
        | some b =>
            have isAdded : move.action.addition = some ⟨some name, a.receiver⟩ := by
              rw [added, ← service]
            exact ⟨b, later _ _ standing, ok.free name _ isAdded b standing⟩
      · obtain ⟨b, standing, same⟩ := h.listed name r known
        exact ⟨b, later _ _ standing, same⟩
    · intro k b name standing' service
      rw [directory']
      rw [entry'] at standing'
      rcases Option.or_eq_some_iff.mp standing' with standing | ⟨-, isNew⟩
      · split_ifs with named
        · have isAdded : move.action.addition = some ⟨some name, a.receiver⟩ := by
            rw [added, ← named]
          have key := ok.same name _ isAdded k b standing service
          rw [ok.free name _ isAdded b (key ▸ standing)]
        · exact h.current k b name standing service
      · split_ifs at isNew
        cases isNew
        rw [if_pos service]

theorem Agrees.removes {lostName : Key} (h : Agrees past)
    (added : move.action.addition = none) (lost : move.action.lost = some lostName) :
    Agrees (move :: past) ↔ SaysNothingNew past move := by
  have directory' := directory_of_lost past added lost
  have entry' := entry_of_lost past added lost
  constructor
  · intro h'
    constructor
    · exact fun name r isAdded => absurd (added.symm.trans isAdded) nofun
    · exact fun name r isAdded => absurd (added.symm.trans isAdded) nofun
    · intro name isLost k b standing service
      cases lost.symm.trans isLost
      by_contra other
      have said := h'.current k b lostName (by rw [entry', if_neg other, standing]) service
      rw [directory', if_pos rfl] at said
      cases said
    · intro name isLost other r different known same
      cases lost.symm.trans isLost
      obtain ⟨b, standing, -⟩ :=
        h'.listed other r (by rw [directory', if_neg different, known])
      rw [entry', if_pos same] at standing
      cases standing
  · intro ok
    constructor
    · intro name r known
      rw [directory'] at known
      split_ifs at known with different
      obtain ⟨b, standing, same⟩ := h.listed name r known
      refine ⟨b, ?_, same⟩
      rw [entry', if_neg (ok.alone lostName lost name r different known), standing]
    · intro k b name standing service
      rw [entry'] at standing
      split_ifs at standing with other
      rw [directory', if_neg]
      · exact h.current k b name standing service
      · rintro rfl
        exact other (ok.byName name lost k b standing service)

theorem Agrees.keeps (h : Agrees past) (added : move.action.addition = none)
    (lost : move.action.lost = none) :
    Agrees (move :: past) ↔ SaysNothingNew past move := by
  have nothing : SaysNothingNew past move := by
    constructor
    · exact fun name r isAdded => absurd (added.symm.trans isAdded) nofun
    · exact fun name r isAdded => absurd (added.symm.trans isAdded) nofun
    · exact fun name isLost => absurd (lost.symm.trans isLost) nofun
    · exact fun name isLost => absurd (lost.symm.trans isLost) nofun
  refine iff_of_true ⟨fun name r known => ?_, fun k b name standing service => ?_⟩ nothing
  · rw [directory_of_kept past added lost] at known
    rw [entry_of_kept past added lost]
    exact h.listed name r known
  · rw [entry_of_kept past added lost] at standing
    rw [directory_of_kept past added lost]
    exact h.current k b name standing service

theorem agrees_nil : Agrees [] := ⟨nofun, nofun⟩

/-- One move, on a list that is up to date. -/
theorem UpToDate.step_iff (run : receiverList.Run past move.source)
    (made : receiverList.Makes move) (h : UpToDate past move.source) :
    UpToDate (move :: past) move.target ↔ SaysNothingNew past move := by
  rw [upToDate_iff (System.Run.move run made)]
  have agrees := (upToDate_iff run).mp h
  cases listDoes_of_makes made with
  | adds added lost _ => exact agrees.adds added lost
  | removes added lost _ => exact agrees.removes added lost
  | keeps added lost _ => exact agrees.keeps added lost

/-- **When the list is up to date.** -/
theorem up_to_date_iff (run : receiverList.Run past x) :
    (∀ p ∈ System.positions past x, UpToDate p.1 p.2) ↔
      ∀ move older, move :: older <:+ past → SaysNothingNew older move := by
  apply run.forall_positions_iff
  · intro s initial
    exact (upToDate_iff (.start initial)).mpr agrees_nil
  · intro past move before made ok h
    exact (h.step_iff before made).mpr ok
  · intro past move before made h h'
    exact (h.step_iff before made).mp h'

end

/-! ## A receiver with a new address -/

/-- The receiver of the living room, with the last number of its address. -/
def livingRoomAt (host : UInt8) : ReceiverInfo where
  name := "Living room._openplay._tcp.local.".toList
  displayName := "Living room".toList
  addresses := [.v4 ⟨192, 168, 1, host⟩]
  port := 7250
  fingerprint := List.replicate 64 'A'

/-- It is resolved, and resolved once more at another address. -/
def resolvedTwice (host : UInt8) : List ListAction :=
  [.discovered (.receiverFound (livingRoomAt 5)), .discovered (.receiverFound (livingRoomAt host))]

theorem run_resolvedTwice (host : UInt8) :
    receiverList.Run (receiverList.history (resolvedTwice host) .empty)
      (receiverList.final (resolvedTwice host) .empty) :=
  .of_actions _ rfl rfl

theorem up_to_date_iff_for_same_address :
    (∀ p ∈ System.positions (receiverList.history (resolvedTwice 5) .empty)
        (receiverList.final (resolvedTwice 5) .empty), UpToDate p.1 p.2) ↔
      ∀ move older, move :: older <:+ receiverList.history (resolvedTwice 5) .empty →
        SaysNothingNew older move :=
  up_to_date_iff (run_resolvedTwice 5)

/-- **An update that is lost**: the list keeps the first address. -/
theorem new_address_is_ignored : ¬ ∀ past x, receiverList.Run past x → UpToDate past x := by
  intro all
  have agrees := (upToDate_iff (run_resolvedTwice 6)).mp (all _ _ (run_resolvedTwice 6))
  obtain ⟨a, standing, same⟩ := agrees.listed (livingRoomAt 6).name (.openPlay (livingRoomAt 6)) rfl
  cases standing
  exact absurd same (by decide)

end OpenPlay.Sender
