import OpenPlay.Airplay.PairingRun
import OpenPlay.Foundation.System

/-!
# Paired devices

`store_paired_device` and `load_paired_device` of `hap_pairing.rs`, and what they are for: a
client that pairs with accessories, stores what came of it, and verifies with what it finds
stored.  The database is a table with the identifier of the accessory as its key; what it
makes of a row is SQLite's.

`pairedWorld` runs pair-setups over connections that lose what they like, while other
controllers pair with the same accessories.  Its invariant `Filed` is that every row is
known to the accessory it names.
-/

namespace OpenPlay.Airplay.HapPairing

open Exchange Transition

/-! ## The table -/

/-- A row of `paired_devices`. -/
structure Row where
  deviceId : List Char
  clientPairingId : List Char
  accessoryLtpk : List UInt8
  clientLtsk : List UInt8
  clientLtpk : List UInt8
deriving DecidableEq

def PairedDevice.row (device : PairedDevice) : Row :=
  ⟨device.deviceId, device.clientPairingId, device.accessoryLtpk.1, device.clientLtsk.1,
    device.clientLtpk.1⟩

/-- `store_paired_device`: `INSERT OR REPLACE` under the primary key. -/
def storePairedDevice (db : List Row) (device : PairedDevice) : List Row :=
  db.filter (fun row => row.deviceId != device.deviceId) ++ [device.row]

/-- `load_paired_device`. -/
def loadPairedDevice (db : List Row) (deviceId : List Char) :
    Except PairingError (Option PairedDevice) :=
  match db.find? fun row => row.deviceId == deviceId with
  | none => .ok none
  | some row => do
      let accessoryLtpk ← tryInto 32 "Invalid LTPK" row.accessoryLtpk
      let clientLtsk ← tryInto 32 "Invalid LTSK" row.clientLtsk
      let clientLtpk ← tryInto 32 "Invalid client LTPK" row.clientLtpk
      return some ⟨row.deviceId, row.clientPairingId, accessoryLtpk, clientLtsk, clientLtpk⟩

theorem load_of_find {db : List Row} {deviceId : List Char} {device : PairedDevice}
    (found : (db.find? fun row => row.deviceId == deviceId) = some device.row) :
    loadPairedDevice db deviceId = .ok (some device) := by
  rw [loadPairedDevice, found]
  show (tryInto 32 _ device.accessoryLtpk.1 >>= _) = _
  rw [tryInto_val]
  show (tryInto 32 _ device.clientLtsk.1 >>= _) = _
  rw [tryInto_val]
  show (tryInto 32 _ device.clientLtpk.1 >>= _) = _
  rw [tryInto_val]
  rfl

/-- What was stored is loaded, and nothing else has changed. -/
theorem load_store (db : List Row) (device : PairedDevice) (deviceId : List Char) :
    loadPairedDevice (storePairedDevice db device) deviceId =
      if device.deviceId = deviceId then .ok (some device) else loadPairedDevice db deviceId := by
  have front : ((db.filter fun row => row.deviceId != device.deviceId).find? fun row =>
      row.deviceId == deviceId) =
        if device.deviceId = deviceId then none
        else db.find? fun row => row.deviceId == deviceId := by
    rw [List.find?_filter]
    split_ifs with same
    · rw [List.find?_eq_none]
      intro row _
      simp [same]
    · congr 1
      funext row
      by_cases h : row.deviceId = deviceId
      · simp [h, Ne.symm same]
      · simp [h]
  by_cases same : device.deviceId = deviceId
  · rw [if_pos same] at front ⊢
    apply load_of_find
    rw [storePairedDevice, List.find?_append, front]
    simp [PairedDevice.row, same]
  · rw [if_neg same] at front ⊢
    have last : ([device.row].find? fun row => row.deviceId == deviceId) = none := by
      simp [PairedDevice.row, same]
    rw [loadPairedDevice, storePairedDevice, List.find?_append, front, last, Option.or_none]
    rfl

/-! ## The world -/

/-- The accessories by their identifiers, and the client's database. -/
structure World where
  accessories : List Char → Accessory
  db : List Row

/-- What a client draws for a pair-setup. -/
structure ClientDraws where
  a : Nat
  clientLtsk : Key
  clientPairingId : List Char

inductive WorldAction
  /-- A pair-setup with an accessory, and `store_paired_device` of what it returns. -/
  | pair (id : List Char) (pin : String) (own : ClientDraws) (draws : Draws)
      (faults : List Fault)
  /-- Another controller pairs with an accessory. -/
  | other (id : List Char) (clientId : List UInt8) (ltpk : Key)

section Worlds

variable (prims : Primitives)

/-- The pair-setup of an action. -/
def World.setup (w : World) (id : List Char) (pin : String) (own : ClientDraws) (draws : Draws)
    (faults : List Fault) :
    Outcome Post (List UInt8) PairingError (Connection × List Fault) PairSetupResult :=
  run (faulty prims) (pairSetup prims pin own.a own.clientLtsk own.clientPairingId)
    ((w.accessories id).connect draws, faults)

/-- The pair-verify with what is found under an identifier. -/
def World.verify (w : World) (id : List Char) (paired : PairedDevice) (clientSecret : Key)
    (draws : Draws) :
    Outcome Post (List UInt8) PairingError (Connection × List Fault) Key :=
  run (faulty prims) (pairVerify prims paired clientSecret)
    ((w.accessories id).connect draws, [])

/-- A pair-setup, with what it returns, or nothing that this client sees. -/
def World.step (w : World) :
    WorldAction → Option (World × Option (Except PairingError PairSetupResult))
  | .pair id pin own draws faults =>
      let o := w.setup prims id pin own draws faults
      some ({ accessories := Function.update w.accessories id o.peer.1.accessory
              db := match o.result with
                | .ok result => storePairedDevice w.db (.from result)
                | .error _ => w.db }, some o.result)
  | .other id clientId ltpk =>
      some ({ w with accessories :=
        Function.update w.accessories id ((w.accessories id).file clientId ltpk) }, none)

/-- The world at first: every accessory under its own identifier, with whatever pairings, and
an empty database. -/
def pairedWorld : System World WorldAction (Option (Except PairingError PairSetupResult)) where
  init w := (∀ id, (w.accessories id).id = id) ∧ w.db = []
  step := World.step prims

abbrev WorldMove := Move World WorldAction (Option (Except PairingError PairSetupResult))

/-- The identifier under which a controller is filed is new to the accessory, as a random one
is; and the proof for a wrong PIN tells the key, as a hash without collisions makes it. -/
def WorldMove.Proper (move : WorldMove) : Prop :=
  match move.action with
  | .pair id pin own draws _ =>
      (move.source.accessories id).ltpkOf (Utf8.encode own.clientPairingId) = none ∧
        (pin ≠ (move.source.accessories id).pin →
          ProofTells prims ((move.source.accessories id).connect draws) pin own.a)
  | .other id clientId _ => (move.source.accessories id).ltpkOf clientId = none

/-- What the last successful pair-setup with an accessory has returned. -/
def lastPaired (id : List Char) : List WorldMove → Option PairedDevice
  | [] => none
  | move :: past =>
      match move.output with
      | some (.ok result) =>
          if result.accessoryId = id then some (.from result) else lastPaired id past
      | _ => lastPaired id past

end Worlds

/-! ## What is filed -/

section Filing

variable {prims : Primitives} {x : Accessory} {paired : PairedDevice}

/-- A pairing under another identifier changes nothing. -/
theorem Accessory.Knows.file (knows : x.Knows prims paired) {clientId : List UInt8}
    (fresh : x.ltpkOf clientId = none) (ltpk : Key) : (x.file clientId ltpk).Knows prims paired where
  ltpk := knows.ltpk
  filed := by
    have other : Utf8.encode paired.clientPairingId ≠ clientId := by
      rintro rfl
      cases knows.filed.symm.trans fresh
    rw [← knows.filed]
    simp only [ltpkOf, Accessory.file, List.lookup_cons, beq_eq_false_iff_ne.mpr other,
      Bool.false_eq_true, if_false]

end Filing

/-! ## Runs -/

section Runs

variable {prims : Primitives} {past : List WorldMove} {w : World} {move : WorldMove}

/-- The database holds what the last pair-setups returned, and every accessory knows the
client by it. -/
structure Filed (prims : Primitives) (past : List WorldMove) (w : World) : Prop where
  own : ∀ id, (w.accessories id).id = id
  stored : ∀ id, loadPairedDevice w.db id = .ok (lastPaired id past)
  known : ∀ id paired, lastPaired id past = some paired →
    (w.accessories id).Knows prims paired

/-- An accessory may change as long as it knows whom it knew. -/
theorem Filed.update (filed : Filed prims past w) {id : List Char} {x : Accessory}
    (own : x.id = id)
    (keeps : ∀ paired, (w.accessories id).Knows prims paired → x.Knows prims paired) :
    Filed prims past { w with accessories := Function.update w.accessories id x } where
  own other := by
    show (Function.update w.accessories id x other).id = other
    by_cases same : other = id
    · rw [same, Function.update_self]
      exact own
    · rw [Function.update_of_ne same]
      exact filed.own other
  stored := filed.stored
  known other paired last := by
    have known := filed.known other paired last
    by_cases same : other = id
    · subst same
      show (Function.update w.accessories other x other).Knows prims paired
      rw [Function.update_self]
      exact keeps paired known
    · show (Function.update w.accessories id x other).Knows prims paired
      rw [Function.update_of_ne same]
      exact known

/-- What a pair-setup returns is stored, and is what was paired last. -/
theorem Filed.store (filed : Filed prims past w) {id : List Char} {result : PairSetupResult}
    (own : result.accessoryId = id) (knows : (w.accessories id).Knows prims (.from result))
    (last : ∀ other, lastPaired other (move :: past) =
      if result.accessoryId = other then some (.from result) else lastPaired other past) :
    Filed prims (move :: past) { w with db := storePairedDevice w.db (.from result) } where
  own := filed.own
  stored other := by
    show loadPairedDevice (storePairedDevice w.db (.from result)) other = _
    rw [load_store, last, filed.stored]
    exact (apply_ite Except.ok _ _ _).symm
  known other paired lastOther := by
    rw [last] at lastOther
    split_ifs at lastOther with same
    · cases lastOther
      rw [← own, same] at knows
      exact knows
    · exact filed.known other paired lastOther

theorem Filed.step (filed : Filed prims past move.source)
    (made : (pairedWorld prims).Makes move) (proper : move.Proper prims) :
    Filed prims (move :: past) move.target := by
  obtain ⟨w, action, output, w'⟩ := move
  replace filed : Filed prims past w := filed
  replace made : w.step prims action = some (w', output) := made
  cases action with
  | other id clientId ltpk =>
    cases made
    replace proper : (w.accessories id).ltpkOf clientId = none := proper
    have kept := filed.update (x := (w.accessories id).file clientId ltpk) (filed.own id)
      fun _ knows => knows.file proper ltpk
    exact ⟨kept.own, kept.stored, kept.known⟩
  | pair id pin own draws faults =>
    obtain ⟨fresh, wrong⟩ : (w.accessories id).ltpkOf (Utf8.encode own.clientPairingId) = none ∧
      (pin ≠ (w.accessories id).pin →
        ProofTells prims ((w.accessories id).connect draws) pin own.a) := proper
    have tells : ProofTells prims ((w.accessories id).connect draws) pin own.a := by
      by_cases right : pin = (w.accessories id).pin
      · rw [right]
        exact proofTells_right_pin
      · exact wrong right
    have pairs : Pairs prims (w.accessories id) own.clientLtsk own.clientPairingId
        (w.setup prims id pin own draws faults).peer.1.accessory
        (w.setup prims id pin own draws faults).result :=
      pairs_pairSetup rfl tells faults
    have kept := filed.update
      (x := (w.accessories id).filed prims own.clientLtsk own.clientPairingId) (filed.own id)
      fun _ knows => knows.file fresh _
    simp only [World.step] at made
    cases made
    revert pairs
    generalize w.setup prims id pin own draws faults = o
    obtain ⟨result, log, ⟨⟨x, draws', stage⟩, rest⟩⟩ := o
    intro pairs
    cases pairs with
    | unfiled =>
      have same := filed.update (filed.own id) fun _ knows => knows
      exact ⟨same.own, same.stored, same.known⟩
    | lost => exact ⟨kept.own, kept.stored, kept.known⟩
    | paired =>
      refine kept.store (filed.own id) ?_ fun _ => rfl
      show (Function.update w.accessories id _ id).Knows prims _
      rw [Function.update_self]
      exact knows_filed _ _ _

theorem filed_of_run (run : (pairedWorld prims).Run past w)
    (proper : ∀ move ∈ past, move.Proper prims) : Filed prims past w := by
  refine run.invariant_past_of_forall (fun w first => ?_)
    (fun past move _ made ok filed => filed.step made ok) proper
  obtain ⟨own, empty⟩ := first
  refine ⟨own, fun id => ?_, nofun⟩
  rw [empty]
  rfl

/-- The sample accessories, with one of which the client pairs. -/
def sampleWorld : World := ⟨sampleAccessory, []⟩

def samplePairing : WorldAction :=
  .pair "accessory".toList "3939" ⟨1, sampleKey 9, "client".toList⟩ sampleDraws []

end Runs

end OpenPlay.Airplay.HapPairing
