import Mathlib.Algebra.BigOperators.Group.Finset.Basic
import Mathlib.Algebra.Order.Group.Multiset
import Mathlib.Logic.Relation
import Mathlib.Tactic.Abel
import ResourcePool.Proofs.Store.Effects

/-!
# What goes into a store and what comes out

A store by itself, asked for one thing after another. Whoever asks may keep the number of a slot
and use it at any later time, when the slot may long have been unlinked and another one may stand
for the key. Only a reservation has to be handled with care: it is turned into a loan or given up
no more than once.

* `Store.Call`, `Store.Reply`, `Store.perform` — what a store can be asked for, and what it tells.
* `Traffic` — a store with the record of what it was asked for, and `Traffic.Leads` — what more
  calls make of it.
* `Store.Precedes` — a slot that has been unlinked is never linked again.
* `Store.Performs` — what one call does, in terms of the record; `performs` is all twelve calls.
* `Traffic.Fair` — what holds after all calls, by induction on them.
* `neither_lost_nor_duplicated` — what went in is what came out and what is idle, and nothing is
  in a slot that no key leads to.
-/

set_option linter.unusedSectionVars false

namespace ResourcePool

variable {κ ω : Type} [DecidableEq κ]

namespace Store

/-! ## Calls and replies -/

/-- What a store can be asked for. -/
inductive Call (κ ω : Type) where
  /-- Reserve room for a borrow of a key that has a limit. -/
  | reserve (key : κ) (limit : Option Nat)
  /-- Look up the slot of a key. -/
  | existing (key : κ)
  /-- Turn a reservation into a loan. -/
  | commit (id : SlotId)
  /-- Give a reservation up. -/
  | cancel (id : SlotId)
  /-- Forget a loan. -/
  | release (id : SlotId)
  /-- Take a resource back from loan. -/
  | checkIn (id : SlotId) (object : ω)
  /-- Put a fresh resource among the idle ones of a key. -/
  | deposit (key : κ) (object : ω)
  /-- Take the next idle resource. -/
  | take (id : SlotId)
  /-- Unlink the slot of a key if it is vacant. -/
  | prune (key : κ)
  /-- Take all idle resources of a key. -/
  | drain (key : κ)
  /-- Take all idle resources of all keys. -/
  | drainAll
  /-- Take no more resources. -/
  | sealUp

/-- What a store tells. -/
inductive Reply (κ ω : Type) where
  | nothing
  | flag (value : Bool)
  | slot (found : Option SlotId)
  | admission (admission : Admission ω)
  | object (taken : Option ω)
  | objects (taken : List ω)
  | entries (taken : List (κ × ω))

/-- The reply to a call, and the store afterwards. -/
def perform (store : Store κ ω) : Call κ ω → Reply κ ω × Store κ ω
  | .reserve key limit => (.slot (store.reserve key limit).1, (store.reserve key limit).2)
  | .existing key => (.slot (store.find? key), store)
  | .commit id => (.nothing, store.commit id)
  | .cancel id => (.nothing, store.cancel id)
  | .release id => (.nothing, store.release id)
  | .checkIn id object => (.admission (store.checkIn id object).1, (store.checkIn id object).2)
  | .deposit key object => (.admission (store.deposit key object).1, (store.deposit key object).2)
  | .take id => (.object (store.take id).1, (store.take id).2)
  | .prune key => (.flag (store.prune key).1, (store.prune key).2)
  | .drain key => (.objects (store.drain key).1, (store.drain key).2)
  | .drainAll => (.entries store.drainAll.1, store.drainAll.2)
  | .sealUp => (.flag store.sealUp.1, store.sealUp.2)

/-- A call and the reply to it. -/
structure Entry (κ ω : Type) where
  /-- What the store was asked for. -/
  call : Call κ ω
  /-- What the store told. -/
  reply : Reply κ ω

namespace Call

/-- The slot of which a call takes up a reservation. -/
def settles? : Call κ ω → Option SlotId
  | commit id | cancel id => some id
  | _ => none

/-- The key of which a call asks for the slot. -/
def asks? : Call κ ω → Option κ
  | reserve key _ | existing key => some key
  | _ => none

/-- The resource that a call offers. -/
def offers? : Call κ ω → Option ω
  | checkIn _ object | deposit _ object => some object
  | _ => none

/-- How many reservations of a slot a call takes up. -/
def closes (call : Call κ ω) (id : SlotId) : Nat := if call.settles? = some id then 1 else 0

end Call

/-- The resources that come out of a store. -/
def Reply.hands : Reply κ ω → Multiset ω
  | object taken => taken.toList
  | objects taken => taken
  | entries taken => taken.map Prod.snd
  | _ => 0

namespace Entry

/-- The resource that goes into a store. -/
def accepts : Entry κ ω → Multiset ω
  | ⟨call, .admission .accepted⟩ => call.offers?.toList
  | _ => 0

/-- How many reservations of a slot are made. -/
def opens : Entry κ ω → SlotId → Nat
  | ⟨.reserve .., .slot found⟩, id => if found = some id then 1 else 0
  | _, _ => 0

end Entry

/-- The resources that are idle in the slots that are linked. -/
def linkedIdle (store : Store κ ω) : Multiset ω :=
  (store.links.map fun link => ((store.slot link.2).idle : Multiset ω)).sum

end Store

/-! ## A store in use -/

/-- A store with the calls so far, the latest first. -/
structure Traffic (κ ω : Type) where
  /-- The store. -/
  store : Store κ ω
  /-- The calls, and the replies to them. -/
  log : List (Store.Entry κ ω) := []

namespace Traffic

/-- A new store. -/
def create (selection : Selection) (idleLimit : Option Nat) (walk : Walk κ) : Traffic κ ω where
  store := { selection := selection, idleLimit := idleLimit, walk := walk }

/-- The resources that the store has accepted. -/
def accepted (traffic : Traffic κ ω) : Multiset ω := (traffic.log.map Store.Entry.accepts).sum

/-- The resources that have come out of the store. -/
def handedOut (traffic : Traffic κ ω) : Multiset ω :=
  (traffic.log.map fun entry => entry.reply.hands).sum

/-- How many reservations of a slot have been made. -/
def opened (traffic : Traffic κ ω) (id : SlotId) : Nat :=
  (traffic.log.map fun entry => entry.opens id).sum

/-- How many reservations of a slot have been turned into a loan or given up. -/
def closed (traffic : Traffic κ ω) (id : SlotId) : Nat :=
  (traffic.log.map fun entry => entry.call.closes id).sum

/-- The key has been found to have the slot. -/
def Found (traffic : Traffic κ ω) (key : κ) (id : SlotId) : Prop :=
  ∃ entry ∈ traffic.log, entry.call.asks? = some key ∧ entry.reply = .slot (some id)

/-- A reservation is turned into a loan or given up only while it is open. -/
def Permits (traffic : Traffic κ ω) (call : Store.Call κ ω) : Prop :=
  ∀ id ∈ call.settles?, traffic.closed id < traffic.opened id

/-- Whether a call is permitted can be decided. -/
instance (traffic : Traffic κ ω) (call : Store.Call κ ω) : Decidable (traffic.Permits call) :=
  inferInstanceAs (Decidable (∀ id ∈ call.settles?, traffic.closed id < traffic.opened id))

/-- One more call. -/
def perform (traffic : Traffic κ ω) (call : Store.Call κ ω) : Traffic κ ω where
  store := (traffic.store.perform call).2
  log := ⟨call, (traffic.store.perform call).1⟩ :: traffic.log

/-- One more call leads from one to the other. -/
def Steps (traffic next : Traffic κ ω) : Prop :=
  ∃ call, traffic.Permits call ∧ next = traffic.perform call

/-- More calls lead from one to the other. -/
def Leads : Traffic κ ω → Traffic κ ω → Prop := Relation.ReflTransGen Steps

end Traffic

namespace Store

/-! ## Slots that are linked no more -/

/-- Of two stores, the second came out of the first: its links are old ones or lead to new slots. -/
structure Precedes (store next : Store κ ω) : Prop where
  length_le : store.slots.length ≤ next.slots.length
  linked : ∀ link ∈ next.links, link ∈ store.links ∨ store.slots.length ≤ link.2

namespace Precedes

variable {store next last : Store κ ω}

/-- A store comes out of itself. -/
theorem refl (store : Store κ ω) : Precedes store store := ⟨Nat.le_refl _, fun _ => .inl⟩

/-- What comes out of a store that came out of another. -/
theorem trans (first : Precedes store next) (second : Precedes next last) :
    Precedes store last where
  length_le := first.length_le.trans second.length_le
  linked link hlink := by
    rcases second.linked link hlink with hkept | hnew
    · exact first.linked link hkept
    · exact .inr (first.length_le.trans hnew)

/-- A slot that is linked no more stays so. -/
theorem unlinked (precedes : Precedes store next) {id : SlotId} (lt : id < store.slots.length)
    (unlinked : id ∉ store.links.map Prod.snd) : id ∉ next.links.map Prod.snd := by
  intro hmem
  obtain ⟨link, hlink, rfl⟩ := List.mem_map.mp hmem
  rcases precedes.linked link hlink with hold | hnew
  · exact unlinked (List.mem_map.mpr ⟨link, hold, rfl⟩)
  · exact Nat.not_le.mpr lt hnew

end Precedes

section precedes

variable (store : Store κ ω)

/-- Changing a slot links nothing. -/
theorem precedes_update (id : SlotId) (change : Slot ω → Slot ω) :
    Precedes store (store.update id change) :=
  ⟨(length_slots_update store id change).ge, fun _ => .inl⟩

/-- A slot that is opened is a new one. -/
theorem precedes_openSlot (key : κ) : Precedes store (store.openSlot key).2 := by
  unfold openSlot
  split
  · exact .refl store
  · constructor
    · simp
    · intro link hlink
      rcases List.mem_append.mp hlink with hold | hnew
      · exact .inl hold
      · rw [List.mem_singleton.mp hnew]
        exact .inr (Nat.le_refl _)

/-- Pruning only removes links. -/
theorem precedes_prune (key : κ) : Precedes store (store.prune key).2 := by
  unfold prune
  split
  · exact .refl store
  · next id _ =>
    have hmarked := precedes_update store id Slot.retireIfVacant
    simp only
    split
    · exact ⟨hmarked.length_le, fun link hlink => .inl (List.mem_filter.mp hlink).1⟩
    · exact hmarked

/-- A reservation uses a slot that is linked, or a new one. -/
theorem precedes_reserve (key : κ) (limit : Option Nat) :
    Precedes store (store.reserve key limit).2 := by
  have hopen := precedes_openSlot store key
  simp only [reserve, reservePass]
  split
  · exact .refl store
  · split
    · exact hopen
    · exact hopen.trans (precedes_update _ _ _)

/-- Taking a resource out links nothing. -/
theorem precedes_take (id : SlotId) : Precedes store (store.take id).2 := by
  unfold take
  split
  · exact precedes_update _ _ _
  · exact .refl store

/-- Offering a resource to a slot links nothing. -/
theorem precedes_offer (id : SlotId) (object : ω) : Precedes store (store.offer id object).2 := by
  unfold offer
  split
  · exact .refl store
  · split
    · exact .refl store
    · exact precedes_update _ _ _

/-- Neither does checking one in. -/
theorem precedes_checkIn (id : SlotId) (object : ω) :
    Precedes store (store.checkIn id object).2 := by
  unfold checkIn
  split
  · exact .refl store
  · exact (precedes_update _ _ _).trans (precedes_offer _ _ _)

/-- A deposit uses a slot that is linked, or a new one. -/
theorem precedes_deposit (key : κ) (object : ω) : Precedes store (store.deposit key object).2 := by
  simp only [deposit, depositPass]
  split
  · exact .refl store
  · exact (precedes_openSlot store key).trans (precedes_offer _ _ _)

/-- Emptying a key only removes links. -/
theorem precedes_drain (key : κ) : Precedes store (store.drain key).2 := by
  unfold drain
  split
  · exact .refl store
  · exact (precedes_update _ _ _).trans (precedes_prune _ _)

/-- Emptying along any links only removes links. -/
theorem precedes_drainLinks (links : List (κ × SlotId)) :
    Precedes store (store.drainLinks links).2 := by
  induction links generalizing store with
  | nil => exact .refl store
  | cons link rest ih =>
    rw [drainLinks_cons]
    exact ((precedes_update _ _ _).trans (precedes_prune _ _)).trans (ih _)

/-- **A slot that has been unlinked is never linked again**, whatever the call. -/
theorem precedes_perform (call : Call κ ω) : Precedes store (store.perform call).2 := by
  cases call with
  | reserve key limit => exact precedes_reserve store key limit
  | existing key => exact .refl store
  | commit id => exact precedes_update store id _
  | cancel id => exact precedes_update store id _
  | release id => exact precedes_update store id _
  | checkIn id object => exact precedes_checkIn store id object
  | deposit key object => exact precedes_deposit store key object
  | take id => exact precedes_take store id
  | prune key => exact precedes_prune store key
  | drain key => exact precedes_drain store key
  | drainAll => exact precedes_drainLinks store _
  | sealUp => exact ⟨Nat.le_refl _, fun _ => .inl⟩

end precedes

section views

variable {store next : Store κ ω} {view : κ → Slot ω}

/-- Nothing is in a slot that no key leads to. -/
theorem isVacant_of_unlinked (sound : store.Sound) {id : SlotId}
    (unlinked : ∀ key, store.find? key ≠ some id) : (store.slot id).isVacant = true := by
  by_cases hlt : id < store.slots.length
  · apply sound.retired_vacant
    apply sound.unlinked_retired id hlt
    intro hmem
    obtain ⟨link, hlink, rfl⟩ := List.mem_map.mp hmem
    exact unlinked link.1 (sound.find?_of_mem hlink)
  · have hnone : store.slot id = {} := by simp [slot, Nat.not_lt.mp hlt]
    rw [hnone]
    rfl

/-- In a sound store a slot that holds something is linked to a key. -/
theorem linked_of_held (sound : store.Sound) {id : SlotId}
    (held : (store.slot id).isVacant = false) : ∃ key, store.find? key = some id := by
  by_contra hunlinked
  rw [isVacant_of_unlinked sound (not_exists.mp hunlinked)] at held
  cases held

/-! ## Reservations and idle resources -/

/-- An operation that leaves the reservations of every key leaves those of every slot. -/
theorem Becomes.inFlight_eq (sound : store.Sound) (becomes : Becomes store next view)
    (same : ∀ key, (view key).inFlight = (store.live key).inFlight) (id : SlotId) :
    (next.slot id).inFlight = (store.slot id).inFlight := by
  have hempty : ∀ {store : Store κ ω}, store.Sound → (∀ key, store.find? key ≠ some id) →
      (store.slot id).inFlight = 0 := fun sound unlinked =>
    (Slot.isVacant_iff.mp (isVacant_of_unlinked sound unlinked)).2.2
  by_cases hafter : ∃ key, next.find? key = some id
  · obtain ⟨key, hkey⟩ := hafter
    rw [← live_of_find? hkey, becomes.live_eq, same]
    cases hbefore : store.find? key with
    | some other =>
      have hother : other = id := by
        have hkept := becomes.relinks key other hbefore
        simpa [hkey, eq_comm] using hkept
      rw [live_of_find? hbefore, hother]
    | none =>
      -- the slot is a new one of the key, so no key led to it before
      rw [live_of_find?_none hbefore, hempty sound]
      intro place hplace
      have hstands := becomes.stands place id (.inl hplace)
      rcases hstands with hplace' | hretired
      · have heq := becomes.sound.key_eq_of_find? hkey hplace'
        rw [← heq, hbefore] at hplace
        cases hplace
      · rw [becomes.sound.current_of_find? hkey] at hretired
        cases hretired
  · rw [hempty becomes.sound (not_exists.mp hafter)]
    by_cases hbefore : ∃ key, store.find? key = some id
    · obtain ⟨key, hkey⟩ := hbefore
      have hlost := (becomes.relinks key id hkey).resolve_left (not_exists.mp hafter key)
      rw [← live_of_find? hkey, ← same, ← becomes.live_eq, live_of_find?_none hlost]
    · rw [hempty sound (not_exists.mp hbefore)]

/-- What is idle in the linked slots is what is idle under the keys. -/
theorem linkedIdle_eq (sound : store.Sound) {keys : Finset κ} (all : store.keys ⊆ keys) :
    store.linkedIdle = ∑ key ∈ keys, ((store.live key).idle : Multiset ω) :=
  sum_slots sound (fun slot => (slot.idle : Multiset ω)) rfl all

/-- An operation that leaves what is idle under every key leaves what is idle altogether. -/
theorem Becomes.linkedIdle_eq (sound : store.Sound) (becomes : Becomes store next view)
    (same : ∀ key, (view key).idle = (store.live key).idle) :
    next.linkedIdle = store.linkedIdle := by
  have hafter : next.keys ⊆ store.keys ∪ next.keys := Finset.subset_union_right
  have hbefore : store.keys ⊆ store.keys ∪ next.keys := Finset.subset_union_left
  rw [Store.linkedIdle_eq becomes.sound hafter, Store.linkedIdle_eq sound hbefore]
  apply Finset.sum_congr rfl
  intro key _
  rw [becomes.live_eq, same]

/-- An operation on one key makes of what is idle what it makes of what is idle under the key. -/
theorem Becomes.linkedIdle_update (sound : store.Sound) {key : κ} {slot : Slot ω}
    (becomes : Becomes store next (Function.update store.live key slot)) :
    next.linkedIdle + ((store.live key).idle : Multiset ω) =
      store.linkedIdle + (slot.idle : Multiset ω) := by
  have hafter : next.keys ⊆ insert key (store.keys ∪ next.keys) :=
    Finset.subset_union_right.trans (Finset.subset_insert _ _)
  have hbefore : store.keys ⊆ insert key (store.keys ∪ next.keys) :=
    Finset.subset_union_left.trans (Finset.subset_insert _ _)
  have hkey := Finset.mem_insert_self key (store.keys ∪ next.keys)
  have hrest : ∀ other ∈ (insert key (store.keys ∪ next.keys)).erase key,
      ((next.live other).idle : Multiset ω) = (store.live other).idle := by
    intro other hother
    rw [becomes.live_eq, Function.update_of_ne (Finset.ne_of_mem_erase hother)]
  rw [Store.linkedIdle_eq becomes.sound hafter, Store.linkedIdle_eq sound hbefore,
    ← Finset.add_sum_erase _ _ hkey, ← Finset.add_sum_erase _ _ hkey, Finset.sum_congr rfl hrest,
    becomes.live_eq, Function.update_self]
  abel

end views

/-! ## What a call does -/

/-- **What one call does**: no key changes its slot and no unlinked slot comes back, what becomes
idle and what no longer is are told, and so are the reservations that are made and taken up. -/
structure Performs (store : Store κ ω) (entry : Entry κ ω) (next : Store κ ω) : Prop where
  becomes : ∃ view, Becomes store next view
  precedes : Precedes store next
  balance : entry.accepts + store.linkedIdle = entry.reply.hands + next.linkedIdle
  reserved : ∀ id, (store.slot id).inFlight + entry.opens id =
    (next.slot id).inFlight + entry.call.closes id

section calls

variable {store : Store κ ω}

/-- A call that makes no reservation and takes none up. -/
theorem Performs.of_becomes (sound : store.Sound) {next : Store κ ω} {call : Call κ ω}
    {reply : Reply κ ω} (perform : store.perform call = (reply, next)) {view : κ → Slot ω}
    (becomes : Becomes store next view)
    (same : ∀ key, (view key).inFlight = (store.live key).inFlight)
    (balance : Entry.accepts ⟨call, reply⟩ + store.linkedIdle = reply.hands + next.linkedIdle)
    (opens : ∀ id, Entry.opens ⟨call, reply⟩ id = 0) (settles : call.settles? = none) :
    Performs store ⟨call, reply⟩ next where
  becomes := ⟨view, becomes⟩
  precedes := by
    have hprecedes := precedes_perform store call
    rwa [perform] at hprecedes
  balance := balance
  reserved id := by
    have hcloses : call.closes id = 0 := by simp [Call.closes, settles]
    rw [opens, hcloses, becomes.inFlight_eq sound same]

/-- What a change of one slot leaves as it is, it leaves everywhere. -/
theorem measure_update {α : Type} (measure : Slot ω → α) {view : κ → Slot ω} {key : κ}
    {slot : Slot ω} (same : measure slot = measure (view key)) (other : κ) :
    measure (Function.update view key slot other) = measure (view other) := by
  by_cases hother : other = key
  · rw [hother, Function.update_self, same]
  · rw [Function.update_of_ne hother]

/-- A call that changes what one key has, but not its reservations. -/
theorem Performs.of_update (sound : store.Sound) {next : Store κ ω} {call : Call κ ω}
    {reply : Reply κ ω} (perform : store.perform call = (reply, next)) {key : κ} {slot : Slot ω}
    (becomes : Becomes store next (Function.update store.live key slot))
    (same : slot.inFlight = (store.live key).inFlight)
    (balance : Entry.accepts ⟨call, reply⟩ + ((store.live key).idle : Multiset ω) =
      reply.hands + (slot.idle : Multiset ω))
    (opens : ∀ id, Entry.opens ⟨call, reply⟩ id = 0) (settles : call.settles? = none) :
    Performs store ⟨call, reply⟩ next := by
  refine .of_becomes sound perform becomes (measure_update Slot.inFlight same) ?_ opens settles
  have hidle := becomes.linkedIdle_update sound
  apply add_right_cancel (b := ((store.live key).idle : Multiset ω))
  calc Entry.accepts ⟨call, reply⟩ + store.linkedIdle + ((store.live key).idle : Multiset ω)
      = Entry.accepts ⟨call, reply⟩ + ((store.live key).idle : Multiset ω) + store.linkedIdle :=
        add_right_comm _ _ _
    _ = reply.hands + (store.linkedIdle + (slot.idle : Multiset ω)) := by
        rw [balance, add_assoc, add_comm store.linkedIdle]
    _ = reply.hands + next.linkedIdle + ((store.live key).idle : Multiset ω) := by
        rw [← hidle, add_assoc]

/-- A reservation makes nothing idle; it opens one in its slot, or is refused. -/
theorem performs_reserve (sound : store.Sound) (key : κ) (limit : Option Nat) :
    Performs store ⟨.reserve key limit, .slot (store.reserve key limit).1⟩
      (store.reserve key limit).2 := by
  have hopen := becomes_openSlot sound key
  have hsame := hopen.inFlight_eq sound fun _ => rfl
  have hprecedes := precedes_reserve store key limit
  rw [reserve_eq sound] at hprecedes ⊢
  split at hprecedes
  · next hlimit =>
    rw [if_pos hlimit]
    refine ⟨⟨_, hopen⟩, hprecedes, ?_, ?_⟩
    · rw [hopen.linkedIdle_eq sound fun _ => rfl]
      rfl
    · intro id
      rw [hsame]
      rfl
  · next hlimit =>
    rw [if_neg hlimit]
    have hfind : (store.openSlot key).2.find? key = some (store.openSlot key).1 := by
      rw [find?_openSlot, if_pos rfl]
    have hreserve := becomes_update hopen.sound hfind Slot.reserve (hopen.sound.live_current key)
    refine ⟨⟨_, hopen.trans hreserve fun _ h => h⟩, hprecedes, ?_, ?_⟩
    · rw [hreserve.linkedIdle_eq hopen.sound (measure_update Slot.idle rfl),
        hopen.linkedIdle_eq sound fun _ => rfl]
      rfl
    · intro id
      rw [← hsame, slot_update]
      by_cases hid : id = (store.openSlot key).1
      · subst hid
        rw [if_pos ⟨rfl, hopen.sound.lt_of_find? hfind⟩]
        simp [Entry.opens, Call.closes, Call.settles?, Slot.reserve]
      · rw [if_neg fun h => hid h.1]
        simp [Entry.opens, Call.closes, Call.settles?, Ne.symm hid]

/-- The two calls that take up a reservation. -/
theorem performs_settle (sound : store.Sound) {id : SlotId} (isOpen : 0 < (store.slot id).inFlight)
    {call : Call κ ω} (settles : call.settles? = some id) {change : Slot ω → Slot ω}
    (idle : ∀ slot, (change slot).idle = slot.idle)
    (current : ∀ slot, (change slot).retired = slot.retired)
    (inFlight : ∀ slot, (change slot).inFlight = slot.inFlight - 1) :
    Performs store ⟨call, .nothing⟩ (store.update id change) := by
  have hheld : (store.slot id).isVacant = false := by
    rw [Bool.eq_false_iff, ne_eq, Slot.isVacant_iff]
    omega
  obtain ⟨key, hkey⟩ := linked_of_held sound hheld
  have hlt := sound.lt_of_find? hkey
  have hbecomes := becomes_update sound hkey change
    ((current _).trans (sound.live_current key))
  have hidle := hbecomes.linkedIdle_update sound
  rw [idle] at hidle
  refine ⟨⟨_, hbecomes⟩, precedes_update store id change, ?_, ?_⟩
  · rw [add_right_cancel hidle]
    rfl
  · intro other
    have hopens : Entry.opens ⟨call, .nothing⟩ other = 0 := by cases call <;> rfl
    rw [hopens, slot_update, Call.closes, settles]
    by_cases hother : other = id
    · subst hother
      rw [if_pos ⟨rfl, hlt⟩, if_pos rfl, inFlight]
      omega
    · rw [if_neg fun h => hother h.1, if_neg fun h => hother (Option.some.inj h).symm]

/-- Ending a loan moves no resource and touches no reservation. -/
theorem performs_release (sound : store.Sound) (id : SlotId) :
    Performs store ⟨.release id, .nothing⟩ (store.release id) := by
  cases hvacant : (store.slot id).isVacant with
  | true =>
    have hsame : store.release id = store := update_eq_self store (Slot.release_eq_self hvacant)
    have hperform : store.perform (.release id) = (.nothing, store) := by rw [perform, hsame]
    rw [hsame]
    exact .of_becomes sound hperform (.refl sound) (fun _ => rfl) rfl (fun _ => rfl) rfl
  | false =>
    obtain ⟨key, hkey⟩ := linked_of_held sound hvacant
    have hbecomes := becomes_update sound hkey Slot.release (sound.live_current key)
    exact .of_update sound rfl hbecomes rfl rfl (fun _ => rfl) rfl

/-- A resource that is checked in becomes idle, or it comes back. -/
theorem performs_checkIn (sound : store.Sound) (id : SlotId) (object : ω) :
    Performs store ⟨.checkIn id object, .admission (store.checkIn id object).1⟩
      (store.checkIn id object).2 := by
  by_cases hactive : (store.slot id).active = 0
  · have heq : store.checkIn id object = (.rejected .unborrowed object, store) := by
      simp [checkIn, hactive]
    have hperform : store.perform (.checkIn id object) =
        (.admission (.rejected .unborrowed object), store) := by rw [perform, heq]
    rw [heq]
    exact .of_becomes sound hperform (.refl sound) (fun _ => rfl) rfl (fun _ => rfl) rfl
  · have hheld : (store.slot id).isVacant = false := by
      rw [Bool.eq_false_iff, ne_eq, Slot.isVacant_iff]
      omega
    obtain ⟨key, hkey⟩ := linked_of_held sound hheld
    rcases checkIn_cases sound hkey object with ⟨hnone, -⟩ | ⟨-, hback | hkept⟩
    · rw [live_of_find? hkey] at hnone
      exact absurd hnone hactive
    · obtain ⟨reason, next, -, heq, hbecomes⟩ := hback
      rw [heq]
      exact .of_update sound (by rw [perform, heq]) hbecomes rfl rfl (fun _ => rfl) rfl
    · obtain ⟨next, heq, hbecomes⟩ := hkept
      rw [heq]
      exact .of_update sound (by rw [perform, heq]) hbecomes rfl rfl (fun _ => rfl) rfl

/-- A resource that is deposited becomes idle, or it comes back. -/
theorem performs_deposit (sound : store.Sound) (key : κ) (object : ω) :
    Performs store ⟨.deposit key object, .admission (store.deposit key object).1⟩
      (store.deposit key object).2 := by
  rcases deposit_cases sound key object with
    ⟨reason, next, -, heq, hbecomes⟩ | ⟨next, heq, hbecomes⟩
  · rw [heq]
    have hidle := hbecomes.linkedIdle_eq sound fun _ => rfl
    refine .of_becomes sound (by rw [perform, heq]) hbecomes (fun _ => rfl) ?_ (fun _ => rfl) rfl
    rw [hidle]
    rfl
  · rw [heq]
    exact .of_update sound (by rw [perform, heq]) hbecomes rfl rfl (fun _ => rfl) rfl

/-- A resource that is taken was idle. -/
theorem performs_take (sound : store.Sound) (id : SlotId) :
    Performs store ⟨.take id, .object (store.take id).1⟩ (store.take id).2 := by
  have hnothing : store.take id = (none, store) →
      Performs store ⟨.take id, .object (store.take id).1⟩ (store.take id).2 := by
    intro heq
    rw [heq]
    exact .of_becomes sound (by rw [perform, heq]) (.refl sound) (fun _ => rfl) rfl
      (fun _ => rfl) rfl
  cases hvacant : (store.slot id).isVacant with
  | true =>
    obtain ⟨hidle, -⟩ := Slot.isVacant_iff.mp hvacant
    apply hnothing
    cases hselection : store.selection <;> simp [take, Slot.take?, hidle, hselection]
  | false =>
    obtain ⟨key, hkey⟩ := linked_of_held sound hvacant
    rcases take_cases sound hkey with ⟨-, heq⟩ | ⟨object, rest, next, htake, heq, -, hbecomes⟩
    · exact hnothing heq
    · obtain ⟨hperm, hrest⟩ := Slot.take?_eq_some htake
      have hflight : rest.inFlight = (store.live key).inFlight := by rw [hrest]
      rw [heq]
      refine .of_update sound (by rw [perform, heq]) hbecomes hflight ?_ (fun _ => rfl) rfl
      exact (zero_add _).trans (Multiset.coe_eq_coe.mpr hperm)

/-- All that was idle under a key is handed out when the key is emptied. -/
theorem performs_drain (sound : store.Sound) (key : κ) :
    Performs store ⟨.drain key, .objects (store.drain key).1⟩ (store.drain key).2 := by
  refine .of_update sound rfl (becomes_drain sound key) rfl ?_ (fun _ => rfl) rfl
  rw [drain_eq]
  have hall : (((store.live key).idle.reverse : List ω) : Multiset ω) = (store.live key).idle :=
    Multiset.coe_reverse _
  show 0 + ((store.live key).idle : Multiset ω) = ((store.live key).idle.reverse : List ω) + 0
  rw [hall, zero_add, add_zero]

/-- What the slots of some links hold, all together. -/
theorem coe_heldUnder (links : List (κ × SlotId)) :
    (((store.heldUnder links).map Prod.snd : List ω) : Multiset ω) =
      (links.map fun link => ((store.live link.1).idle : Multiset ω)).sum := by
  induction links with
  | nil => rfl
  | cons link rest ih =>
    have hcons : store.heldUnder (link :: rest) =
        ((store.live link.1).idle.reverse.map fun object => (link.1, object)) ++
          store.heldUnder rest := rfl
    rw [hcons, List.map_append, ← Multiset.coe_add, ih, List.map_map, List.map_cons, List.sum_cons]
    congr 1
    exact (congrArg _ (List.map_id _)).trans (Multiset.coe_reverse _)

/-- All that was idle is handed out when all keys are emptied, in whatever order. -/
theorem performs_drainAll (sound : store.Sound) :
    Performs store ⟨.drainAll, .entries store.drainAll.1⟩ store.drainAll.2 := by
  have hbecomes := becomes_drainAll sound
  refine .of_becomes sound rfl hbecomes (fun _ => rfl) ?_ (fun _ => rfl) rfl
  have hempty : store.drainAll.2.linkedIdle = 0 := by
    rw [linkedIdle_eq hbecomes.sound (Finset.Subset.refl _)]
    apply Finset.sum_eq_zero
    intro key _
    rw [hbecomes.live_eq]
    rfl
  have hall : ((store.drainAll.1.map Prod.snd : List ω) : Multiset ω) = store.linkedIdle := by
    have hlive : ∀ link ∈ store.walked, ((store.live link.1).idle : Multiset ω) =
        (store.slot link.2).idle := by
      intro link hlink
      rw [live_of_find? (find?_of_walked sound hlink)]
    rw [drainAll_eq sound, coe_heldUnder, List.map_congr_left hlive]
    exact (store.walked_perm.map _).sum_eq
  show 0 + store.linkedIdle = ((store.drainAll.1.map Prod.snd : List ω) : Multiset ω) + _
  rw [hall, hempty, zero_add, add_zero]

/-- **All twelve calls.** -/
theorem performs (sound : store.Sound) (call : Call κ ω)
    (isOpen : ∀ id, call.settles? = some id → 0 < (store.slot id).inFlight) :
    Performs store ⟨call, (store.perform call).1⟩ (store.perform call).2 := by
  cases call with
  | reserve key limit => exact performs_reserve sound key limit
  | existing key =>
    exact .of_becomes sound rfl (.refl sound) (fun _ => rfl) rfl (fun _ => rfl) rfl
  | commit id =>
    exact performs_settle sound (isOpen id rfl) rfl (fun _ => rfl) (fun _ => rfl) fun _ => rfl
  | cancel id =>
    exact performs_settle sound (isOpen id rfl) rfl (fun _ => rfl) (fun _ => rfl) fun _ => rfl
  | release id => exact performs_release sound id
  | checkIn id object => exact performs_checkIn sound id object
  | deposit key object => exact performs_deposit sound key object
  | take id => exact performs_take sound id
  | prune key =>
    have hbecomes := becomes_prune sound key
    have hidle := hbecomes.linkedIdle_eq sound fun _ => rfl
    refine .of_becomes sound rfl hbecomes (fun _ => rfl) ?_ (fun _ => rfl) rfl
    show 0 + store.linkedIdle = 0 + (store.prune key).2.linkedIdle
    rw [hidle]
  | drain key => exact performs_drain sound key
  | drainAll => exact performs_drainAll sound
  | sealUp =>
    exact .of_becomes sound rfl (becomes_sealUp sound) (fun _ => rfl) rfl (fun _ => rfl) rfl

/-! ## What is handed back and what is looked up -/

/-- What is not accepted comes back as it was. -/
theorem offer_rejected {id : SlotId} {object back : ω} {reason : Rejection}
    (rejected : (store.offer id object).1 = .rejected reason back) : back = object := by
  unfold offer at rejected
  split at rejected
  · exact ((Admission.rejected.inj rejected).2).symm
  · split at rejected
    · exact ((Admission.rejected.inj rejected).2).symm
    · cases rejected

/-- A resource that is not accepted comes back with the reason. -/
theorem perform_rejected {call : Call κ ω} {reason : Rejection} {back : ω}
    (rejected : (store.perform call).1 = .admission (.rejected reason back)) :
    call.offers? = some back := by
  cases call with
  | checkIn id object =>
    have h : (store.checkIn id object).1 = .rejected reason back := Reply.admission.inj rejected
    apply congrArg some
    unfold checkIn at h
    split at h
    · exact (Admission.rejected.inj h).2
    · exact (offer_rejected h).symm
  | deposit key object =>
    have h : (store.deposit key object).1 = .rejected reason back := Reply.admission.inj rejected
    apply congrArg some
    simp only [deposit, depositPass] at h
    split at h
    · exact (Admission.rejected.inj h).2
    · exact (offer_rejected h).symm
  | _ => cases rejected

/-- The slot that a call tells of is the one that stands for the key then. -/
theorem perform_slot (sound : store.Sound) {call : Call κ ω} {key : κ} {id : SlotId}
    (asks : call.asks? = some key) (found : (store.perform call).1 = .slot (some id)) :
    (store.perform call).2.find? key = some id := by
  cases call with
  | reserve place limit =>
    cases asks
    have h : (store.reserve key limit).1 = some id := Reply.slot.inj found
    rcases reserve_cases sound key limit with ⟨-, hnone, -⟩ | ⟨-, other, hsome, hfind, -⟩
    · rw [hnone] at h
      cases h
    · rw [hsome] at h
      rw [← h]
      exact hfind
  | existing place =>
    cases asks
    exact Reply.slot.inj found
  | _ => cases asks

end calls
end Store

/-! ## All calls together -/

namespace Traffic

/-- **What holds after all calls.** -/
structure Fair (traffic : Traffic κ ω) : Prop where
  sound : traffic.store.Sound
  balance : traffic.accepted = traffic.handedOut + traffic.store.linkedIdle
  reserved : ∀ id, traffic.opened id = traffic.closed id + (traffic.store.slot id).inFlight
  handsBack : ∀ entry ∈ traffic.log, ∀ reason object,
    entry.reply = .admission (.rejected reason object) → entry.call.offers? = some object
  stands : ∀ key id, traffic.Found key id → traffic.store.Stands key id

variable {traffic next : Traffic κ ω}

/-- A new store is fair. -/
theorem fair_create (selection : Selection) (idleLimit : Option Nat) (walk : Walk κ) :
    (create selection idleLimit walk : Traffic κ ω).Fair where
  sound := Store.sound_empty selection idleLimit walk
  balance := rfl
  reserved _ := rfl
  handsBack _ h := absurd h List.not_mem_nil
  stands _ _ h := absurd h.choose_spec.1 List.not_mem_nil

/-- A permitted call keeps the store fair. -/
theorem Fair.perform (fair : traffic.Fair) {call : Store.Call κ ω}
    (permits : traffic.Permits call) : (traffic.perform call).Fair := by
  have hisOpen : ∀ id, call.settles? = some id → 0 < (traffic.store.slot id).inFlight := by
    intro id hid
    have hpermitted := permits id hid
    have hreserved := fair.reserved id
    omega
  obtain ⟨⟨view, hbecomes⟩, -, hbalance, hreserved⟩ := Store.performs fair.sound call hisOpen
  refine ⟨hbecomes.sound, ?_, ?_, ?_, ?_⟩
  · have hbefore := fair.balance
    simp only [accepted, handedOut, Traffic.perform, List.map_cons, List.sum_cons] at hbefore ⊢
    rw [hbefore, add_left_comm, hbalance]
    abel
  · intro id
    have hbefore := fair.reserved id
    have hone := hreserved id
    simp only [opened, closed, Traffic.perform, List.map_cons, List.sum_cons] at hbefore hone ⊢
    omega
  · intro entry hentry reason object hreply
    rcases List.mem_cons.mp hentry with rfl | hold
    · exact Store.perform_rejected hreply
    · exact fair.handsBack entry hold reason object hreply
  · rintro key id ⟨entry, hentry, hasks, hreply⟩
    rcases List.mem_cons.mp hentry with rfl | hold
    · exact .inl (Store.perform_slot fair.sound hasks hreply)
    · exact hbecomes.stands key id (fair.stands key id ⟨entry, hold, hasks, hreply⟩)

/-- Any number of them do, by induction on the calls. -/
theorem Fair.leads (fair : traffic.Fair) (leads : traffic.Leads next) : next.Fair := by
  induction leads with
  | refl => exact fair
  | tail _ step ih =>
    obtain ⟨call, hpermits, rfl⟩ := step
    exact ih.perform hpermits

/-- No call links a slot that was unlinked. -/
theorem Leads.precedes (leads : traffic.Leads next) : traffic.store.Precedes next.store := by
  induction leads with
  | refl => exact .refl _
  | tail _ step ih =>
    obtain ⟨call, -, rfl⟩ := step
    exact ih.trans (Store.precedes_perform _ call)

/-- **Nothing is lost, and nothing is there twice.** Whatever a store is asked for, and however
old the slots are that it is asked with: what it has accepted is what has come out of it and what
is idle in the slots that are linked; what it does not accept comes back; a slot that is linked no
more holds nothing and is never linked again; and a slot that holds anything is the one that is
found for its key. The keys may be walked in any order when all of them are emptied. -/
theorem neither_lost_nor_duplicated {selection : Selection} {idleLimit : Option Nat}
    {walk : Walk κ} (leads : (create selection idleLimit walk).Leads traffic) :
    traffic.accepted = traffic.handedOut + traffic.store.linkedIdle ∧
    (∀ entry ∈ traffic.log, ∀ reason object,
      entry.reply = .admission (.rejected reason object) → entry.call.offers? = some object) ∧
    (∀ id < traffic.store.slots.length, id ∉ traffic.store.links.map Prod.snd →
      ∀ later, traffic.Leads later → id ∉ later.store.links.map Prod.snd ∧
        (later.store.slot id).isVacant = true ∧ later.opened id = later.closed id) ∧
    ∀ id, ((traffic.store.slot id).idle ≠ [] ∨ 0 < (traffic.store.slot id).active ∨
        traffic.closed id < traffic.opened id) →
      ∃ key, (key, id) ∈ traffic.store.links ∧
        traffic.store.perform (.existing key) = (.slot (some id), traffic.store) ∧
        ∀ other, traffic.Found other id → other = key := by
  have hfair := (fair_create selection idleLimit walk).leads leads
  refine ⟨hfair.balance, hfair.handsBack, ?_, ?_⟩
  · intro id hlt hunlinked later hlater
    have hafter := hfair.leads hlater
    have hprecedes := hlater.precedes
    have hstill : id ∉ later.store.links.map Prod.snd := by
      intro hmem
      obtain ⟨link, hlink, rfl⟩ := List.mem_map.mp hmem
      rcases hprecedes.linked link hlink with hold | hnew
      · exact hunlinked (List.mem_map.mpr ⟨link, hold, rfl⟩)
      · exact Nat.not_le.mpr hlt hnew
    have hvacant : (later.store.slot id).isVacant = true := by
      apply hafter.sound.retired_vacant
      exact hafter.sound.unlinked_retired id (hlt.trans_le hprecedes.length_le) hstill
    have hreserved := hafter.reserved id
    rw [(Slot.isVacant_iff.mp hvacant).2.2] at hreserved
    exact ⟨hstill, hvacant, hreserved⟩
  · intro id hheld
    have hslot : (traffic.store.slot id).isVacant = false := by
      have hreserved := hfair.reserved id
      rw [Bool.eq_false_iff, ne_eq, Slot.isVacant_iff]
      rintro ⟨hidle, hactive, hflight⟩
      rcases hheld with h | h | h
      · exact h hidle
      · omega
      · omega
    obtain ⟨key, hkey⟩ := Store.linked_of_held hfair.sound hslot
    refine ⟨key, Store.mem_links_of_find? _ hkey, ?_, ?_⟩
    · rw [Store.perform, hkey]
    · intro other hfound
      rcases hfair.stands other id hfound with hother | hretired
      · exact hfair.sound.key_eq_of_find? hother hkey
      · rw [hfair.sound.current_of_find? hkey] at hretired
        cases hretired

/-- All of some calls, if each of them is permitted when it comes. -/
def performAll (traffic : Traffic κ ω) : List (Store.Call κ ω) → Option (Traffic κ ω)
  | [] => some traffic
  | call :: rest =>
    if traffic.Permits call then (traffic.perform call).performAll rest else none

/-- Calls that are permitted one after another lead to what they leave. -/
theorem leads_of_performAll {calls : List (Store.Call κ ω)}
    (all : traffic.performAll calls = some next) : traffic.Leads next := by
  induction calls generalizing traffic with
  | nil =>
    cases all
    exact .refl
  | cons call rest ih =>
    unfold performAll at all
    split at all
    · next hpermits => exact .head ⟨call, hpermits, rfl⟩ (ih all)
    · cases all

/-- A slot is used after it has been unlinked, while another one stands for its key: a resource
that is offered to it comes back, and there is nothing to take out of it. -/
theorem neither_lost_nor_duplicated_stale :
    ∃ traffic : Traffic Nat Char, (create .lifo (some 1) .linking).Leads traffic ∧
      traffic.handedOut = {'a'} ∧ traffic.store.linkedIdle = {'c'} ∧
        traffic.accepted = {'a', 'c'} := by
  let calls : List (Store.Call Nat Char) :=
    [.reserve 7 (some 1), .commit 0, .release 0, .prune 7, .deposit 7 'a', .reserve 7 none,
      .checkIn 0 'b', .take 0, .take 1, .cancel 1, .deposit 7 'c', .deposit 7 'd']
  have hleads : (create .lifo (some 1) .linking : Traffic Nat Char).Leads
      (((create .lifo (some 1) .linking).performAll calls).get (by decide)) :=
    leads_of_performAll (Option.some_get _).symm
  refine ⟨_, hleads, by decide, by decide, ?_⟩
  rw [(neither_lost_nor_duplicated hleads).1]
  decide

end Traffic

end ResourcePool
