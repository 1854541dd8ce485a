import ResourcePool.Scenario.Register
import ResourcePool.Scenario.Report

/-!
# Trials of a store

A trial carries out commands on a store alone, without a pool around it. References to slots are
kept under names, and a reference stays good after its slot has been unlinked.
-/

namespace ResourcePool.Scenario

/-- What can be done with a store whose resources are `ω`. -/
inductive StoreCommand (ω : Type) where
  /-- Reserve room for a borrow, and keep the slot under a name. -/
  | reserve (key : Key) (limit : Option Nat) (keep : Option String)
  /-- Look the slot of a key up, and keep it under a name. -/
  | existing (key : Key) (keep : Option String)
  /-- Turn a reservation into a loan. -/
  | commit (slot : String)
  /-- Give a reservation up. -/
  | cancel (slot : String)
  /-- Forget a loan. -/
  | release (slot : String)
  /-- Take the next idle resource. -/
  | take (slot : String)
  /-- Take a resource back from loan. -/
  | checkIn (slot : String) (object : ω)
  /-- Put a fresh resource among the idle ones of a key. -/
  | deposit (key : Key) (object : ω)
  /-- Show the counts of a slot. -/
  | slot (slot : String)
  /-- Compare a slot with the one that stands for a key. -/
  | same (slot : String) (key : Key)
  /-- Unlink the slot of a key if it is vacant. -/
  | prune (key : Key)
  /-- Take all idle resources of a key. -/
  | drain (key : Key)
  /-- Take all idle resources. -/
  | drainAll
  /-- Seal the store. -/
  | sealUp
  /-- Show the counts of a key. -/
  | counts (key : Key)
  /-- A command that is not known. -/
  | unknown

/-- What came of a command to a store. -/
inductive StoreOutcome (ω : Type) where
  /-- There is no slot of the name, or no such command. -/
  | noSlot
  /-- There is nothing to tell. -/
  | nothing
  /-- Yes or no. -/
  | flag (value : Bool)
  /-- Yes or no, if the question makes sense. -/
  | flag? (value : Option Bool)
  /-- The resource that was taken. -/
  | object (object : Option ω)
  /-- What became of a resource that was offered. -/
  | admission (admission : Admission ω)
  /-- The counts of a slot or a key. -/
  | counts (active idle : Nat)
  /-- The resources of a key. -/
  | objects (objects : List ω)
  /-- The resources of all keys, in the order of the keys. -/
  | entries (entries : List (Key × ω))

/-- The state of a store between two commands. -/
structure StoreSnapshot where
  /-- How many resources are on loan. -/
  active : Nat
  /-- How many resources are idle. -/
  idle : Nat
  /-- How many keys have a slot. -/
  keys : Nat
  /-- Whether the store is sealed. -/
  isSealed : Bool
  /-- The keys that have a slot, in order, with the counts of the slot. -/
  perKey : List (Key × Nat × Nat)

/-- A store with the references in use. -/
structure StoreTrial (ω : Type) where
  /-- The store. -/
  store : Store Key ω
  /-- The slots that were kept. -/
  slots : Register SlotId := []

namespace StoreTrial

variable {ω : Type}

/-- A trial of an empty store. -/
def create (selection : Selection) (idleLimit : Option Nat) : StoreTrial ω where
  store := { selection := selection, idleLimit := idleLimit, walk := .linking }

/-- The state of the store. -/
def snapshot (trial : StoreTrial ω) : StoreSnapshot where
  active := trial.store.totalActive
  idle := trial.store.totalIdle
  keys := trial.store.keyCount
  isSealed := trial.store.isSealed
  perKey := countsPerKey trial.store

/-- Keeps a slot under a name, if there are both. -/
def keep (trial : StoreTrial ω) (name : Option String) (slot : Option SlotId) : StoreTrial ω :=
  match name, slot with
  | some name, some slot => { trial with slots := trial.slots.set name slot }
  | _, _ => trial

/-- Goes on with a changed store. -/
def next (trial : StoreTrial ω) (outcome : StoreOutcome ω) (store : Store Key ω) :
    StoreOutcome ω × StoreTrial ω :=
  (outcome, { trial with store := store })

/-- Does something with a slot of a name. -/
def withSlot (trial : StoreTrial ω) (name : String)
    (use : SlotId → StoreOutcome ω × StoreTrial ω) : StoreOutcome ω × StoreTrial ω :=
  match trial.slots.get? name with
  | some id => use id
  | none => (.noSlot, trial)

/-- **Carries out one command.** -/
def step (trial : StoreTrial ω) : StoreCommand ω → StoreOutcome ω × StoreTrial ω
  | .reserve key limit name =>
    let (slot, store) := trial.store.reserve key limit
    (.flag slot.isSome, { trial with store := store }.keep name slot)
  | .existing key name =>
    let slot := trial.store.find? key
    (.flag slot.isSome, trial.keep name slot)
  | .commit name => trial.withSlot name fun id => trial.next .nothing (trial.store.commit id)
  | .cancel name => trial.withSlot name fun id => trial.next .nothing (trial.store.cancel id)
  | .release name => trial.withSlot name fun id => trial.next .nothing (trial.store.release id)
  | .take name => trial.withSlot name fun id =>
    let (object, store) := trial.store.take id
    trial.next (.object object) store
  | .checkIn name object => trial.withSlot name fun id =>
    let (admission, store) := trial.store.checkIn id object
    trial.next (.admission admission) store
  | .deposit key object =>
    let (admission, store) := trial.store.deposit key object
    trial.next (.admission admission) store
  | .slot name => trial.withSlot name fun id =>
    let slot := trial.store.slot id
    (.counts slot.active slot.idle.length, trial)
  | .same name key => trial.withSlot name fun id =>
    (.flag? ((trial.store.find? key).map (· == id)), trial)
  | .prune key =>
    let (pruned, store) := trial.store.prune key
    trial.next (.flag pruned) store
  | .drain key =>
    let (objects, store) := trial.store.drain key
    trial.next (.objects objects) store
  | .drainAll =>
    let (entries, store) := trial.store.drainAll
    trial.next (.entries (Key.sortBy (·.1) entries)) store
  | .sealUp =>
    let (wasOpen, store) := trial.store.sealUp
    trial.next (.flag wasOpen) store
  | .counts key => (.counts (trial.store.numActive key) (trial.store.numIdle key), trial)
  | .unknown => (.noSlot, trial)

/-- Carries out commands, with the state of the store after each of them. -/
def run (trial : StoreTrial ω) : List (StoreCommand ω) → List (StoreOutcome ω × StoreSnapshot)
  | [] => []
  | command :: rest =>
    let (outcome, after) := trial.step command
    (outcome, after.snapshot) :: after.run rest

end StoreTrial

end ResourcePool.Scenario
