import OpenPlay.Sender.Entry

/-!
# Lost receivers

A Found event is stored under the key of the receiver that it describes, a Lost event takes
out the key that is the name of the service.  `loses_receivers_iff` says for which events
the two meet, over any run of the list.
-/

namespace OpenPlay.Sender

open Transition

/-- When a service was just lost, nothing that it has brought is listed or selected. -/
def LosesReceivers : List ListMove → ReceiverList → Prop
  | [], _ => True
  | move :: past, x =>
      ∀ name, move.action.lost = some name → ∀ k, addedBy (move :: past) k = some name →
        k ∉ x.receivers ∧ k ∉ x.receiverKeys ∧ x.selectedKey ≠ some k

/-- The service that a move loses stands for no key but the one that is its name. -/
def LosesByName (past : List ListMove) (move : ListMove) : Prop :=
  ∀ name, move.action.lost = some name →
    ∀ k a, entry past k = some a → a.service = some name → k = name

/-! ## Services whose name is the key -/

/-- What the Wi-Fi Direct task makes of `PeerFound`. -/
def peerFound (name deviceAddress : List Char) : DiscoveryEvent :=
  .miracastReceiverFound
    { name := "miracast-p2p-".toList ++ deviceAddress
      displayName := name
      addresses := []
      port := 7236
      deviceInfo := deviceAddress }

/-- What the Wi-Fi Direct task makes of `PeerLost`. -/
def peerLost (deviceAddress : List Char) : DiscoveryEvent :=
  .miracastReceiverLost ("miracast-p2p-".toList ++ deviceAddress)

/-- OpenPlay, AirPlay, and Wi-Fi Direct with a MAC address. -/
inductive HasKeyName : DiscoveryEvent → Prop
  | openPlay (info : ReceiverInfo) : HasKeyName (.receiverFound info)
  | airPlay (info : AirPlayReceiverInfo) : HasKeyName (.airPlayReceiverFound info)
  | peer (name : List Char) {deviceAddress : List Char} (colon : ':' ∈ deviceAddress)
      (length : (Utf8.encode deviceAddress).length = 17) :
      HasKeyName (peerFound name deviceAddress)

theorem HasKeyName.key_eq {event : DiscoveryEvent} (h : HasKeyName event) :
    ∃ r, event.found = some (r.key, r) := by
  cases h with
  | openPlay info => exact ⟨.openPlay info, rfl⟩
  | airPlay info => exact ⟨.airPlay info, rfl⟩
  | @peer name deviceAddress colon length =>
      refine ⟨.miracast ⟨name, .wifiDirect deviceAddress⟩, ?_⟩
      simp [peerFound, DiscoveryEvent.found, DiscoveredReceiver.ofMiracast, colon, length,
        DiscoveredReceiver.key]

/-- A Found event, if the move is one, is of a service whose name is the key. -/
def FindsByName (move : ListMove) : Prop :=
  ∀ event found, move.action = .discovered event → event.found = some found → HasKeyName event

theorem FindsByName.key_eq {move : ListMove} (finds : FindsByName move) {name : Key}
    {r : DiscoveredReceiver} (added : move.action.addition = some ⟨some name, r⟩) :
    r.key = name := by
  cases action : move.action with
  | discovered event =>
      rw [action] at added
      obtain ⟨found, hfound, same⟩ := Option.map_eq_some_iff.mp added
      obtain ⟨r', hfound'⟩ := (finds event found action hfound).key_eq
      rw [hfound] at hfound'
      cases hfound'
      cases same
      rfl
  | addAirplay _ _ _ =>
      rw [action] at added
      obtain ⟨_, _, same⟩ := Option.map_eq_some_iff.mp added
      cases same
  | addMiracast _ _ _ _ =>
      rw [action] at added
      obtain ⟨_, _, same⟩ := Option.map_eq_some_iff.mp added
      cases same
  | select _ =>
      rw [action] at added
      cases added

/-! ## When a loss shows -/

section

variable {past : List ListMove} {move : ListMove} {x : ReceiverList}

/-- One Lost event, after any run. -/
theorem losesReceivers_iff (run : receiverList.Run past move.source)
    (made : receiverList.Makes move) :
    LosesReceivers (move :: past) move.target ↔ LosesByName past move := by
  constructor
  · intro clean name lost k a standing service
    by_contra other
    -- the entry outlives the event
    have added := (listDoes_of_makes made).addition_of_lost lost
    have still : entry (move :: past) k = some a := by
      rw [entry_of_lost past added lost, if_neg other, standing]
    have run' := System.Run.move run made
    have origin := (addedBy_eq_entry run' still).trans service
    exact (clean name lost k origin).1 ((mem_iff_entry run').mpr ⟨a, still⟩)
  · intro byName name lost k origin
    have run' := System.Run.move run made
    have gone : k ∉ move.target.receivers := by
      intro mem
      obtain ⟨a, standing⟩ := (mem_iff_entry run').mp mem
      have service := (addedBy_eq_entry run' standing).symm.trans origin
      have added := (listDoes_of_makes made).addition_of_lost lost
      rw [entry_of_lost past added lost] at standing
      split_ifs at standing with same
      exact same (byName name lost k a standing service)
    exact ⟨gone, fun mem => gone ((move.target.shown k).mp mem),
      fun selected => gone (move.target.selected k selected)⟩

theorem losesByName_of_findsByName (finds : ∀ m ∈ past, FindsByName m) :
    LosesByName past move := by
  intro name _ k a standing service
  obtain ⟨m, mem, added⟩ := added_of_entry standing
  obtain ⟨_, r⟩ := a
  cases service
  rw [← key_of_entry standing]
  exact (finds m mem).key_eq added

/-- **When lost receivers disappear.** -/
theorem loses_receivers_iff (run : receiverList.Run past x) :
    ((∀ p ∈ System.positions past x, LosesReceivers p.1 p.2) ↔
        ∀ move older, move :: older <:+ past → LosesByName older move) ∧
      ((∀ m ∈ past, FindsByName m) →
        ∀ p ∈ System.positions past x, LosesReceivers p.1 p.2) := by
  have exact := run.forall_positions_iff (fun _ _ => trivial)
    (fun _ _ before made byName _ => (losesReceivers_iff before made).mpr byName)
    (fun _ _ before made _ clean => (losesReceivers_iff before made).mp clean)
  refine ⟨exact, fun finds => exact.mpr fun move older suffix => ?_⟩
  apply losesByName_of_findsByName
  intro m mem
  exact finds m (suffix.subset (List.mem_cons_of_mem _ mem))

end

/-! ## A sink that stays -/

/-- A sink on the network, found and lost again. -/
def lostSink : List ListAction :=
  [.discovered (.miracastReceiverFound
      { name := "TV._display._tcp.local.".toList
        displayName := "TV".toList
        addresses := [.v4 ⟨192, 168, 1, 5⟩]
        port := 7236
        deviceInfo := [] }),
    .discovered (.miracastReceiverLost "TV._display._tcp.local.".toList)]

theorem run_lostSink :
    receiverList.Run (receiverList.history lostSink .empty) (receiverList.final lostSink .empty) :=
  .of_actions _ rfl rfl

theorem loses_receivers_iff_for_lost_sink :
    let past := receiverList.history lostSink .empty
    ((∀ p ∈ System.positions past (receiverList.final lostSink .empty), LosesReceivers p.1 p.2) ↔
        ∀ move older, move :: older <:+ past → LosesByName older move) ∧
      ((∀ m ∈ past, FindsByName m) →
        ∀ p ∈ System.positions past (receiverList.final lostSink .empty),
          LosesReceivers p.1 p.2) :=
  loses_receivers_iff run_lostSink

/-- **A lost receiver stays**: a Miracast sink is listed under its address. -/
theorem lost_sink_stays : ¬ ∀ past x, receiverList.Run past x → LosesReceivers past x := by
  intro all
  have run := run_lostSink
  have byName := (losesReceivers_iff run.last.1 run.last.2.1).mp (all _ _ run)
  have same := byName _ rfl ("miracast-".toList ++ IpAddr.toText (.v4 ⟨192, 168, 1, 5⟩)) _ rfl rfl
  exact absurd same nofun

end OpenPlay.Sender
