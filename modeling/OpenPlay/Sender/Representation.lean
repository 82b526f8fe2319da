import OpenPlay.Sender.ReceiverList

/-!
# The fields of the receiver list

`receivers`, `receiver_keys` and `selected_key` of `SenderApp` as three fields that owe each
other nothing, and what `poll_discovery`, the dialogs and the rows do to them.  That they
belong together is `Representation`, an invariant of the runs.  `ReceiverList` carries it,
and its runs are runs of the fields.

* `Representation`: one key a receiver, in the order of their arrival
* `representation`: it holds all along a run
-/

namespace OpenPlay.Sender

open Transition

/-- The three fields of `SenderApp`. -/
structure SenderList where
  receivers : AList fun _ : Key => DiscoveredReceiver
  receiverKeys : List Key
  selectedKey : Option Key

namespace SenderList

/-- The fields in `SenderApp::new`. -/
def new : SenderList := ⟨∅, [], none⟩

/-- `add_receiver`. -/
def addReceiver (x : SenderList) (r : DiscoveredReceiver) : SenderList :=
  let key := r.key
  if key ∉ x.receivers then
    { x with receiverKeys := x.receiverKeys ++ [key], receivers := x.receivers.insert key r }
  else x

/-- `remove_receiver`. -/
def removeReceiver (x : SenderList) (key : Key) : SenderList :=
  if key ∈ x.receivers then
    { receivers := x.receivers.erase key
      receiverKeys := x.receiverKeys.filter (· ≠ key)
      selectedKey := if x.selectedKey = some key then none else x.selectedKey }
  else x

/-- The body of the loop of `poll_discovery`. -/
def pollDiscovery (x : SenderList) : DiscoveryEvent → SenderList
  | .receiverFound info => x.addReceiver (.openPlay info)
  | .receiverLost name => x.removeReceiver name
  | .airPlayReceiverFound info => x.addReceiver (.airPlay info)
  | .airPlayReceiverLost name => x.removeReceiver name
  | .miracastReceiverFound info => x.addReceiver (.ofMiracast info)
  | .miracastReceiverLost name => x.removeReceiver name

/-- The Add button of a dialog, with its complaint. -/
def enter (x : SenderList) : Except String DiscoveredReceiver → SenderList × Option String
  | .ok r => (x.addReceiver r, none)
  | .error e => (x, some e)

/-- The rows on screen: a key that the map does not have is skipped. -/
def rows (x : SenderList) : List Key := x.receiverKeys.filter (· ∈ x.receivers)

def step (x : SenderList) : ListAction → Option (SenderList × Option String)
  | .discovered event => some (x.pollDiscovery event, none)
  | .addAirplay name ip port => some (x.enter (manualAirplay name ip port))
  | .addMiracast name addr port isP2p => some (x.enter (manualMiracast name addr port isP2p))
  | .select key =>
      if key ∈ x.rows then some ({ x with selectedKey := some key }, none) else none

end SenderList

def senderList : System SenderList ListAction (Option String) where
  init x := x = .new
  step := SenderList.step

/-! ## What the fields owe each other -/

/-- The keys are those of the map, once each; every receiver is stored under its key; and
what is selected is listed. -/
structure Representation (x : SenderList) : Prop where
  nodup : x.receiverKeys.Nodup
  keys : ∀ k, k ∈ x.receiverKeys ↔ k ∈ x.receivers
  keyed : ∀ k r, x.receivers.lookup k = some r → r.key = k
  selected : ∀ k, x.selectedKey = some k → k ∈ x.receiverKeys

namespace Representation

variable {x : SenderList}

theorem new : Representation .new where
  nodup := List.nodup_nil
  keys k := iff_of_false List.not_mem_nil (AList.notMem_empty k)
  keyed := nofun
  selected := nofun

theorem addReceiver (h : Representation x) (r : DiscoveredReceiver) :
    Representation (x.addReceiver r) := by
  rw [SenderList.addReceiver]
  split_ifs with listed
  · exact h
  · refine ⟨?_, ?_, ?_, ?_⟩
    · show (x.receiverKeys ++ [r.key]).Nodup
      have unlisted : r.key ∉ x.receiverKeys := fun mem => listed ((h.keys _).mp mem)
      rw [← List.concat_eq_append]
      exact h.nodup.concat unlisted
    · intro k
      show k ∈ x.receiverKeys ++ [r.key] ↔ k ∈ x.receivers.insert r.key r
      rw [List.mem_append, List.mem_singleton, AList.mem_insert, h.keys, or_comm]
    · intro k r' stored
      by_cases same : k = r.key
      · rw [same, AList.lookup_insert] at stored
        rw [same, Option.some.inj stored]
      · rw [AList.lookup_insert_ne same] at stored
        exact h.keyed k r' stored
    · intro k chosen
      exact List.mem_append_left _ (h.selected k chosen)

theorem removeReceiver (h : Representation x) (key : Key) :
    Representation (x.removeReceiver key) := by
  rw [SenderList.removeReceiver]
  by_cases listed : key ∈ x.receivers
  · rw [if_pos listed]
    refine ⟨h.nodup.filter _, ?_, ?_, ?_⟩
    · intro k
      show k ∈ x.receiverKeys.filter (· ≠ key) ↔ k ∈ x.receivers.erase key
      rw [List.mem_filter, AList.mem_erase, h.keys, decide_eq_true_iff, and_comm]
    · intro k r stored
      by_cases same : k = key
      · rw [same, AList.lookup_erase] at stored
        cases stored
      · rw [AList.lookup_erase_ne same] at stored
        exact h.keyed k r stored
    · intro k chosen
      show k ∈ x.receiverKeys.filter (· ≠ key)
      -- what stays selected is not the key that goes
      have stays : x.selectedKey = some k ∧ k ≠ key := by
        by_cases gone : x.selectedKey = some key
        · simp [gone] at chosen
        · simp only [if_neg gone] at chosen
          exact ⟨chosen, fun same => gone (same ▸ chosen)⟩
      exact List.mem_filter.mpr ⟨h.selected k stays.1, decide_eq_true stays.2⟩
  · rw [if_neg listed]
    exact h

theorem pollDiscovery (h : Representation x) (event : DiscoveryEvent) :
    Representation (x.pollDiscovery event) := by
  cases event with
  | receiverFound info => exact h.addReceiver _
  | receiverLost name => exact h.removeReceiver name
  | airPlayReceiverFound info => exact h.addReceiver _
  | airPlayReceiverLost name => exact h.removeReceiver name
  | miracastReceiverFound info => exact h.addReceiver _
  | miracastReceiverLost name => exact h.removeReceiver name

theorem enter (h : Representation x) (entry : Except String DiscoveredReceiver) :
    Representation (x.enter entry).1 := by
  cases entry with
  | ok r => exact h.addReceiver r
  | error e => exact h

/-- A click on a row selects a key that is listed. -/
theorem select (h : Representation x) {key : Key} (row : key ∈ x.rows) :
    Representation { x with selectedKey := some key } := by
  refine ⟨h.nodup, h.keys, h.keyed, ?_⟩
  rintro k ⟨⟩
  exact (List.mem_filter.mp row).1

theorem step (h : Representation x) {action : ListAction} {y : SenderList}
    {output : Option String} (stepped : x.step action = some (y, output)) :
    Representation y := by
  cases action with
  | discovered event =>
      cases stepped
      exact h.pollDiscovery event
  | addAirplay name ip port =>
      have entered := h.enter (manualAirplay name ip port)
      rwa [Option.some.inj stepped] at entered
  | addMiracast name addr port isP2p =>
      have entered := h.enter (manualMiracast name addr port isP2p)
      rwa [Option.some.inj stepped] at entered
  | select key =>
      simp only [SenderList.step] at stepped
      split_ifs at stepped with row
      cases stepped
      exact h.select row

end Representation

abbrev SenderListMove := Move SenderList ListAction (Option String)

/-- **The representation of the list.**  After any events, entries and clicks, in any order,
the keys are those of the map, once each; every receiver is stored under its key; and what
is selected is listed. -/
theorem representation {past : List SenderListMove} {x : SenderList}
    (run : senderList.Run past x) : Representation x := by
  apply run.invariant
  · rintro _ rfl
    exact .new
  · intro move made kept
    exact kept.step made

/-- An entry, a click on its row, and an entry under the same key. -/
theorem representation_of_entries :
    Representation (senderList.final
      [.addAirplay "TV".toList "10.0.0.5".toList "7000".toList,
        .select "manual-airplay-10.0.0.5".toList,
        .addAirplay "TV".toList "10.0.0.5".toList "7100".toList] .new) :=
  representation (System.Run.of_actions _ rfl rfl)

/-! ## The list that carries it -/

namespace ReceiverList

variable {x : ReceiverList}

/-- The fields alone. -/
def fields (x : ReceiverList) : SenderList := ⟨x.receivers, x.receiverKeys, x.selectedKey⟩

theorem fields_add (x : ReceiverList) (r : DiscoveredReceiver) :
    (x.add r).fields = x.fields.addReceiver r := by
  unfold add SenderList.addReceiver fields
  by_cases listed : r.key ∈ x.receivers
  · simp [listed]
  · simp [listed]

theorem fields_remove (x : ReceiverList) (key : Key) :
    (x.remove key).fields = x.fields.removeReceiver key := by
  unfold remove SenderList.removeReceiver fields
  by_cases listed : key ∈ x.receivers
  · simp [listed]
  · simp [listed]

theorem fields_discover (x : ReceiverList) (event : DiscoveryEvent) :
    (x.discover event).fields = x.fields.pollDiscovery event := by
  cases event with
  | receiverFound info => exact x.fields_add _
  | receiverLost name => exact x.fields_remove name
  | airPlayReceiverFound info => exact x.fields_add _
  | airPlayReceiverLost name => exact x.fields_remove name
  | miracastReceiverFound info => exact x.fields_add _
  | miracastReceiverLost name => exact x.fields_remove name

theorem fields_enter (x : ReceiverList) (entry : Except String DiscoveredReceiver) :
    ((x.enter entry).1.fields, (x.enter entry).2) = x.fields.enter entry := by
  cases entry with
  | ok r => exact congrArg (fun y => (y, none)) (x.fields_add r)
  | error e => rfl

/-- There is a row for every key of the map. -/
theorem mem_rows_fields (x : ReceiverList) (key : Key) :
    key ∈ x.fields.rows ↔ key ∈ x.receivers := by
  show key ∈ x.receiverKeys.filter (· ∈ x.receivers) ↔ key ∈ x.receivers
  rw [List.mem_filter, x.shown, decide_eq_true_iff, and_self_iff]

/-- The list and its fields take the same steps. -/
theorem fields_step (x : ReceiverList) (action : ListAction) :
    x.fields.step action = (x.step action).map fun next => (next.1.fields, next.2) := by
  cases action with
  | discovered event =>
      exact congrArg (fun y => some (y, none)) (x.fields_discover event).symm
  | addAirplay name ip port => exact congrArg some (x.fields_enter _).symm
  | addMiracast name addr port isP2p => exact congrArg some (x.fields_enter _).symm
  | select key =>
      simp only [SenderList.step, step, select, mem_rows_fields]
      by_cases listed : key ∈ x.receivers
      · simp [listed, fields]
      · simp [listed]

end ReceiverList

/-- A move of the list, seen on its fields. -/
def ListMove.fields (move : ListMove) : SenderListMove :=
  ⟨move.source.fields, move.action, move.output, move.target.fields⟩

/-- The runs of the list are runs of its fields. -/
def listToFields : Projection receiverList senderList where
  view := ReceiverList.fields
  seen move := some (ListMove.fields move)
  init_view := by
    rintro _ rfl
    rfl
  seen_some := by
    rintro move _ made ⟨⟩
    refine ⟨rfl, rfl, ?_⟩
    show move.source.fields.step move.action = some (move.target.fields, move.output)
    rw [ReceiverList.fields_step, show move.source.step move.action = _ from made]
    rfl
  seen_none := by
    rintro move _ ⟨⟩

/-- The runs of the fields are those of the list. -/
theorem exists_list_run {past : List SenderListMove} {x : SenderList}
    (run : senderList.Run past x) :
    ∃ (listPast : List ListMove) (y : ReceiverList),
      receiverList.Run listPast y ∧ listPast.map ListMove.fields = past ∧ y.fields = x := by
  induction run with
  | start initial =>
      cases initial
      exact ⟨[], .empty, .start rfl, rfl, rfl⟩
  | @move past move before made ih =>
      obtain ⟨listPast, y, listRun, rfl, source⟩ := ih
      obtain ⟨_, action, output, target⟩ := move
      cases source
      have stepped : y.fields.step action = some (target, output) := made
      rw [ReceiverList.fields_step, Option.map_eq_some_iff] at stepped
      obtain ⟨⟨z, output⟩, listStepped, ⟨⟩⟩ := stepped
      exact ⟨⟨y, action, output, z⟩ :: listPast, z, .move listRun listStepped, rfl, rfl⟩

end OpenPlay.Sender
