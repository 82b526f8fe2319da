import OpenPlay.Foundation.AssocList
import OpenPlay.Foundation.System
import OpenPlay.Sender.Discovered

/-!
# The list of receivers

The part of `SenderApp` in `app.rs` that keeps the receivers: what `poll_discovery` does
with an event, the two dialogs, and the selection.  A `ReceiverList` carries what its
three fields owe each other, so that the keys on screen are those of the map.

* `ReceiverList.lookup_add`, `ReceiverList.lookup_remove`: all that happens to the map
* `receiverList`: the list under any order of events and entries
-/

namespace OpenPlay.Sender

open Transition

/-- A key of the map, or the name of a service. -/
abbrev Key := List Char

/-- `receivers`, `receiver_keys` and `selected_key`. -/
structure ReceiverList where
  receivers : AList fun _ : Key => DiscoveredReceiver
  receiverKeys : List Key
  selectedKey : Option Key
  shown : ∀ k, k ∈ receiverKeys ↔ k ∈ receivers
  selected : ∀ k, selectedKey = some k → k ∈ receivers
  keyed : ∀ k r, receivers.lookup k = some r → r.key = k

namespace ReceiverList

/-- Nothing was found yet. -/
def empty : ReceiverList where
  receivers := ∅
  receiverKeys := []
  selectedKey := none
  shown k := iff_of_false List.not_mem_nil (AList.notMem_empty k)
  selected := nofun
  keyed := nofun

/-- `add_receiver`. -/
def add (x : ReceiverList) (r : DiscoveredReceiver) : ReceiverList :=
  if r.key ∈ x.receivers then x
  else
    { receivers := x.receivers.insert r.key r
      receiverKeys := x.receiverKeys ++ [r.key]
      selectedKey := x.selectedKey
      shown := fun k => by
        rw [List.mem_append, List.mem_singleton, AList.mem_insert, x.shown, or_comm]
      selected := fun k h => (AList.mem_insert _).mpr (Or.inr (x.selected k h))
      keyed := fun k r' h => by
        by_cases same : k = r.key
        · rw [same, AList.lookup_insert] at h
          rw [same, Option.some.inj h]
        · rw [AList.lookup_insert_ne same] at h
          exact x.keyed k r' h }

/-- `remove_receiver`. -/
def remove (x : ReceiverList) (key : Key) : ReceiverList :=
  if key ∈ x.receivers then
    { receivers := x.receivers.erase key
      receiverKeys := x.receiverKeys.filter (· ≠ key)
      selectedKey := if x.selectedKey = some key then none else x.selectedKey
      shown := fun k => by
        rw [List.mem_filter, AList.mem_erase, x.shown, decide_eq_true_iff, and_comm]
      selected := fun k h => by
        split_ifs at h with same
        exact AList.mem_erase.mpr ⟨fun other => same (other ▸ h), x.selected k h⟩
      keyed := fun k r h => by
        by_cases same : k = key
        · rw [same, AList.lookup_erase] at h
          cases h
        · rw [AList.lookup_erase_ne same] at h
          exact x.keyed k r h }
  else x

/-- A click on a row, which is there for a key of the map. -/
def select (x : ReceiverList) (key : Key) : Option ReceiverList :=
  if h : key ∈ x.receivers then
    some { x with
      selectedKey := some key
      selected := fun _ same => Option.some.inj same ▸ h }
  else none

/-- The Start button: what becomes of the selected receiver. -/
def startCast (x : ReceiverList) (displayName : String) : Option (Except String CastTarget) :=
  (x.selectedKey.bind x.receivers.lookup).map (castTarget displayName)

section Lookup

variable {x : ReceiverList} {r : DiscoveredReceiver} {k : Key}

theorem lookup_add (x : ReceiverList) (r : DiscoveredReceiver) (k : Key) :
    (x.add r).receivers.lookup k =
      if k = r.key ∧ r.key ∉ x.receivers then some r else x.receivers.lookup k := by
  rw [add]
  by_cases listed : r.key ∈ x.receivers
  · rw [if_pos listed, if_neg fun h => h.2 listed]
  · rw [if_neg listed]
    by_cases same : k = r.key
    · rw [if_pos ⟨same, listed⟩, same]
      exact AList.lookup_insert _
    · rw [if_neg fun h => same h.1]
      exact AList.lookup_insert_ne same

theorem lookup_remove (x : ReceiverList) (key k : Key) :
    (x.remove key).receivers.lookup k = if k = key then none else x.receivers.lookup k := by
  rw [remove]
  by_cases listed : key ∈ x.receivers
  · rw [if_pos listed]
    by_cases same : k = key
    · rw [if_pos same, same]
      exact AList.lookup_erase _ _
    · rw [if_neg same]
      exact AList.lookup_erase_ne same
  · rw [if_neg listed]
    split_ifs with same
    · rw [same]
      exact AList.lookup_eq_none.mpr listed
    · rfl

/-- A receiver that is listed can be selected, and is then the one that is cast to. -/
theorem startCast_select (h : x.receivers.lookup k = some r) (displayName : String) :
    ∃ y, x.select k = some y ∧ y.startCast displayName = some (castTarget displayName r) := by
  refine ⟨_, dif_pos (AList.mem_of_lookup h), ?_⟩
  simp [startCast, h]

end Lookup

end ReceiverList

/-! ## The list as a system -/

inductive ListAction
  | discovered (event : DiscoveryEvent)
  | addAirplay (name ip port : List Char)
  | addMiracast (name addr port : List Char) (isP2p : Bool)
  | select (key : Key)
deriving DecidableEq

/-- The receiver of a Found event. -/
def DiscoveryEvent.found : DiscoveryEvent → Option (Key × DiscoveredReceiver)
  | receiverFound info => some (info.name, .openPlay info)
  | airPlayReceiverFound info => some (info.name, .airPlay info)
  | miracastReceiverFound info => some (info.name, .ofMiracast info)
  | _ => none

/-- The name of a Lost event. -/
def DiscoveryEvent.lost : DiscoveryEvent → Option Key
  | receiverLost name => some name
  | airPlayReceiverLost name => some name
  | miracastReceiverLost name => some name
  | _ => none

namespace ReceiverList

/-- The body of the loop of `poll_discovery`. -/
def discover (x : ReceiverList) : DiscoveryEvent → ReceiverList
  | .receiverFound info => x.add (.openPlay info)
  | .receiverLost name => x.remove name
  | .airPlayReceiverFound info => x.add (.airPlay info)
  | .airPlayReceiverLost name => x.remove name
  | .miracastReceiverFound info => x.add (.ofMiracast info)
  | .miracastReceiverLost name => x.remove name

/-- The Add button of a dialog, with its complaint. -/
def enter (x : ReceiverList) : Except String DiscoveredReceiver → ReceiverList × Option String
  | .ok r => (x.add r, none)
  | .error e => (x, some e)

def step (x : ReceiverList) : ListAction → Option (ReceiverList × Option String)
  | .discovered event => some (x.discover event, none)
  | .addAirplay name ip port => some (x.enter (manualAirplay name ip port))
  | .addMiracast name addr port isP2p => some (x.enter (manualMiracast name addr port isP2p))
  | .select key => (x.select key).map fun y => (y, none)

end ReceiverList

def receiverList : System ReceiverList ListAction (Option String) where
  init x := x = .empty
  step := ReceiverList.step

abbrev ListMove := Move ReceiverList ListAction (Option String)

/-- A call of `add_receiver`: the receiver, and the service if a Found event named one. -/
structure Addition where
  service : Option Key
  receiver : DiscoveredReceiver
deriving DecidableEq

namespace ListAction

/-- What is added: the receiver of a Found event, or of an entry that a dialog accepts. -/
def addition : ListAction → Option Addition
  | discovered event => event.found.map fun found => ⟨some found.1, found.2⟩
  | addAirplay name ip port => (manualAirplay name ip port).toOption.map fun r => ⟨none, r⟩
  | addMiracast name addr port isP2p =>
      (manualMiracast name addr port isP2p).toOption.map fun r => ⟨none, r⟩
  | select _ => none

/-- The service that a Lost event reports. -/
def lost : ListAction → Option Key
  | discovered event => event.lost
  | _ => none

end ListAction

/-- What a move does to the map. -/
inductive ListDoes (move : ListMove) : Prop
  | adds {a : Addition} (added : move.action.addition = some a)
      (lost : move.action.lost = none) (target : move.target = move.source.add a.receiver)
  | removes {name : Key} (added : move.action.addition = none)
      (lost : move.action.lost = some name) (target : move.target = move.source.remove name)
  | keeps (added : move.action.addition = none) (lost : move.action.lost = none)
      (target : move.target.receivers = move.source.receivers)

/-- A Lost event adds nothing. -/
theorem ListDoes.addition_of_lost {move : ListMove} (does : ListDoes move) {name : Key}
    (lost : move.action.lost = some name) : move.action.addition = none := by
  cases does with
  | adds _ lost' _ => exact absurd (lost'.symm.trans lost) nofun
  | removes added _ _ => exact added
  | keeps added _ _ => exact added

/-- A dialog adds the receiver that it accepts, and does nothing but complain otherwise. -/
theorem listDoes_of_enter {x : ReceiverList} {action : ListAction} {output : Option String}
    {y : ReceiverList} {entry : Except String DiscoveredReceiver}
    (stepped : x.step action = some (x.enter entry))
    (added : action.addition = entry.toOption.map fun r => ⟨none, r⟩)
    (lost : action.lost = none) (made : x.step action = some (y, output)) :
    ListDoes ⟨x, action, output, y⟩ := by
  rw [stepped] at made
  cases entry with
  | error e =>
      obtain ⟨rfl, rfl⟩ := Prod.mk.inj (Option.some.inj made)
      exact .keeps added lost rfl
  | ok r =>
      obtain ⟨rfl, rfl⟩ := Prod.mk.inj (Option.some.inj made)
      exact .adds added lost rfl

theorem listDoes_of_makes {move : ListMove} (made : receiverList.Makes move) :
    ListDoes move := by
  obtain ⟨x, action, output, y⟩ := move
  replace made : x.step action = some (y, output) := made
  cases action with
  | discovered event =>
      cases made
      cases event with
      | receiverFound info => exact .adds rfl rfl rfl
      | receiverLost name => exact .removes rfl rfl rfl
      | airPlayReceiverFound info => exact .adds rfl rfl rfl
      | airPlayReceiverLost name => exact .removes rfl rfl rfl
      | miracastReceiverFound info => exact .adds rfl rfl rfl
      | miracastReceiverLost name => exact .removes rfl rfl rfl
  | addAirplay name ip port => exact listDoes_of_enter rfl rfl rfl made
  | addMiracast name addr port isP2p => exact listDoes_of_enter rfl rfl rfl made
  | select key =>
      obtain ⟨y', hselect, hpair⟩ := Option.map_eq_some_iff.mp made
      cases hpair
      rw [ReceiverList.select] at hselect
      split_ifs at hselect
      cases hselect
      exact .keeps rfl rfl rfl

end OpenPlay.Sender
