import ResourcePool.Store.Slot

/-!
# The store of a pool

A store opens a slot for a key when the key is first used and unlinks it as soon as it is vacant, so
that only keys in use are kept. A slot is known by its number, and its number stays good after it
has been unlinked: an operation that began with a slot goes on with that slot even if another one
stands for the key by then.

* `Store.reserve`, `Store.commit`, `Store.cancel`, `Store.release` — the counts of a slot.
* `Store.take`, `Store.checkIn`, `Store.deposit` — single resources.
* `Store.prune`, `Store.drain`, `Store.drainAll` — unlinking and emptying.
* `Store.sealUp` — closing the store for good.
-/

namespace ResourcePool

/-- The number of a slot. -/
abbrev SlotId := Nat

/-- The order in which a store goes through its keys. It may be any order, and another one whenever
a slot has been opened in the meantime. -/
structure Walk (κ : Type) where
  /-- The links in the order in which they are met, after so many slots have been opened. -/
  order : Nat → List (κ × SlotId) → List (κ × SlotId)
  /-- Every link is met exactly once. -/
  perm : ∀ opened links, (order opened links).Perm links

/-- The keys in the order in which they were linked. -/
def Walk.linking {κ : Type} : Walk κ where
  order _ links := links
  perm _ links := .refl links

/-- The slots of a pool and the keys they stand for. -/
structure Store (κ ω : Type) where
  /-- Which idle resource of a slot is taken. -/
  selection : Selection
  /-- How many idle resources a slot may hold. -/
  idleLimit : Option Nat
  /-- The order in which the keys are emptied when all of them are. -/
  walk : Walk κ
  /-- All slots that were ever opened, by number. -/
  slots : List (Slot ω) := []
  /-- The keys in use, each with the number of its slot. -/
  links : List (κ × SlotId) := []
  /-- Whether the store takes no more resources. -/
  isSealed : Bool := false

/-- Why a resource was not put among the idle ones. -/
inductive Rejection where
  /-- The store is sealed. -/
  | storeSealed
  /-- The slot holds as many idle resources as it may. -/
  | full
  /-- The slot has nothing on loan, so nothing can come back to it. -/
  | unborrowed
  deriving DecidableEq, Repr

/-- What became of a resource that was offered to a slot. -/
inductive Admission (ω : Type) where
  | accepted
  /-- The resource is handed back with the reason. -/
  | rejected (reason : Rejection) (object : ω)
  deriving DecidableEq, Repr

namespace Store

variable {κ ω : Type} [DecidableEq κ]

/-- The slot of a number; a number that was never given out has an empty one. -/
def slot (store : Store κ ω) (id : SlotId) : Slot ω := (store.slots[id]?).getD {}

/-- Changes one slot. -/
def update (store : Store κ ω) (id : SlotId) (change : Slot ω → Slot ω) : Store κ ω :=
  { store with slots := store.slots.modify id change }

/-- The slot that stands for a key at the moment. -/
def find? (store : Store κ ω) (key : κ) : Option SlotId :=
  (store.links.find? fun link => link.1 = key).map (·.2)

/-- The slot for a key, opened if there is none. -/
def openSlot (store : Store κ ω) (key : κ) : SlotId × Store κ ω :=
  match store.find? key with
  | some id => (id, store)
  | none =>
    let id := store.slots.length
    (id, { store with slots := store.slots ++ [{}], links := store.links ++ [(key, id)] })

/-! ## Reservations and loans -/

/-- Whether a slot is at its limit of loans and reservations. -/
def isAtLimit (limit : Option Nat) (slot : Slot ω) : Bool :=
  match limit with
  | some most => most ≤ slot.active + slot.inFlight
  | none => false

/-- One look-up of a reservation: nothing when the slot found is retired and the look-up has to be
repeated, and otherwise the slot reserved, if there was room, with the store afterwards. A slot that
is opened for a refused reservation stays linked. -/
def reservePass (store : Store κ ω) (key : κ) (limit : Option Nat) :
    Option (Option SlotId × Store κ ω) :=
  let (id, opened) := store.openSlot key
  let slot := opened.slot id
  if slot.retired then none
  else if isAtLimit limit slot then some (none, opened)
  else some (some id, opened.update id Slot.reserve)

/-- Reserves room for one borrow of a key, unless the key is at the limit. The slot that stands for
a key is never retired, so one look-up decides. -/
def reserve (store : Store κ ω) (key : κ) (limit : Option Nat) : Option SlotId × Store κ ω :=
  (store.reservePass key limit).getD (none, store)

/-- Turns a reservation into a loan. -/
def commit (store : Store κ ω) (id : SlotId) : Store κ ω := store.update id Slot.commit

/-- Gives a reservation up. -/
def cancel (store : Store κ ω) (id : SlotId) : Store κ ω := store.update id Slot.cancel

/-- Forgets one loan. -/
def release (store : Store κ ω) (id : SlotId) : Store κ ω := store.update id Slot.release

/-! ## Resources in and out -/

/-- Takes the next idle resource of a slot. -/
def take (store : Store κ ω) (id : SlotId) : Option ω × Store κ ω :=
  match (store.slot id).take? store.selection with
  | some (object, rest) => (some object, store.update id fun _ => rest)
  | none => (none, store)

/-- Whether a slot holds as many idle resources as it may. -/
def isFull (store : Store κ ω) (id : SlotId) : Bool :=
  match store.idleLimit with
  | some most => most ≤ (store.slot id).idle.length
  | none => false

/-- Offers a resource to the idle ones of a slot. -/
def offer (store : Store κ ω) (id : SlotId) (object : ω) : Admission ω × Store κ ω :=
  if store.isSealed then (.rejected .storeSealed object, store)
  else if store.isFull id then (.rejected .full object, store)
  else (.accepted, store.update id fun slot => slot.push object)

/-- Takes a resource back from loan. Unless the slot has nothing on loan, the loan is over whether
or not the resource is kept. -/
def checkIn (store : Store κ ω) (id : SlotId) (object : ω) : Admission ω × Store κ ω :=
  if (store.slot id).active = 0 then (.rejected .unborrowed object, store)
  else (store.release id).offer id object

/-- One look-up of an admission: nothing when the slot found is retired and the look-up has to be
repeated. A slot that is opened for a rejected resource stays linked. -/
def depositPass (store : Store κ ω) (key : κ) (object : ω) : Option (Admission ω × Store κ ω) :=
  let (id, opened) := store.openSlot key
  if (opened.slot id).retired then none
  else some (opened.offer id object)

/-- Puts a fresh resource among the idle ones of a key. The slot that stands for a key is never
retired, so one look-up decides. -/
def deposit (store : Store κ ω) (key : κ) (object : ω) : Admission ω × Store κ ω :=
  (store.depositPass key object).getD (.rejected .full object, store)

/-! ## Unlinking and emptying -/

/-- Unlinks the slot of a key if it is vacant, and retires it then. -/
def prune (store : Store κ ω) (key : κ) : Bool × Store κ ω :=
  match store.find? key with
  | none => (false, store)
  | some id =>
    let marked := store.update id Slot.retireIfVacant
    if (store.slot id).retireIfVacant.retired then
      (true, { marked with links := store.links.filter fun link => link.1 ≠ key })
    else (false, marked)

/-- Takes all idle resources out of a slot, the one that came in first at the front. -/
def takeAll (store : Store κ ω) (id : SlotId) : List ω × Store κ ω :=
  ((store.slot id).idle.reverse, store.update id fun slot => { slot with idle := [] })

/-- Takes all idle resources of a key. -/
def drain (store : Store κ ω) (key : κ) : List ω × Store κ ω :=
  match store.find? key with
  | none => ([], store)
  | some id =>
    let (objects, emptied) := store.takeAll id
    (objects, (emptied.prune key).2)

/-- Takes the idle resources of the slots in a list of links, one key after another. -/
def drainLinks (store : Store κ ω) : List (κ × SlotId) → List (κ × ω) × Store κ ω
  | [] => ([], store)
  | (key, id) :: rest =>
    let (objects, emptied) := store.takeAll id
    let (others, final) := (emptied.prune key).2.drainLinks rest
    (objects.map (fun object => (key, object)) ++ others, final)

/-- The links in the order in which the store goes through them. -/
def walked (store : Store κ ω) : List (κ × SlotId) :=
  store.walk.order store.slots.length store.links

/-- Takes all idle resources of all keys, one key after another in the order of the walk. -/
def drainAll (store : Store κ ω) : List (κ × ω) × Store κ ω := store.drainLinks store.walked

/-! ## Sealing -/

/-- Seals the store; tells whether it was still open. -/
def sealUp (store : Store κ ω) : Bool × Store κ ω :=
  (!store.isSealed, { store with isSealed := true })

/-! ## Counts -/

/-- How many resources of a key are on loan. -/
def numActive (store : Store κ ω) (key : κ) : Nat :=
  match store.find? key with
  | some id => (store.slot id).active
  | none => 0

/-- How many resources of a key are idle. -/
def numIdle (store : Store κ ω) (key : κ) : Nat :=
  match store.find? key with
  | some id => (store.slot id).idle.length
  | none => 0

/-- How many resources are on loan under all keys. -/
def totalActive (store : Store κ ω) : Nat :=
  store.links.foldl (fun total link => total + (store.slot link.2).active) 0

/-- How many resources are idle under all keys. -/
def totalIdle (store : Store κ ω) : Nat :=
  store.links.foldl (fun total link => total + (store.slot link.2).idle.length) 0

/-- How many keys are in use. -/
def keyCount (store : Store κ ω) : Nat := store.links.length

end Store

end ResourcePool
