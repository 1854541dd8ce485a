import Mathlib.Logic.Function.Basic
import Mathlib.Data.List.Nodup
import ResourcePool.Store.Basic

/-!
# What a store holds for each key

The slots of a store come and go, but for a client there is only what a key has: its idle
resources, its loans and its reservations. `Store.live` is that view, a total function in which a
key without a slot has an empty one.

* `Store.Tidy` — links and slots fit together: a linked slot is in use and an unlinked one is
  retired. `Store.Sound` adds that a retired slot is vacant.
* `Store.Becomes` — what an operation makes of the view, together with what stays of the links.
* Opening a slot and unlinking one change nothing in the view (`becomes_openSlot`,
  `becomes_prune`), and changing the slot of a key changes what that key has (`becomes_update`).
-/

set_option linter.unusedSectionVars false

namespace ResourcePool

variable {κ ω : Type}

/-! ## Slots -/

namespace Slot

/-- A slot is vacant that has nothing idle, nothing on loan and nothing reserved. -/
theorem isVacant_iff {slot : Slot ω} :
    slot.isVacant = true ↔ slot.idle = [] ∧ slot.active = 0 ∧ slot.inFlight = 0 := by
  simp [isVacant, and_assoc]

/-- A slot in use that holds nothing is an empty one. -/
theorem eq_empty {slot : Slot ω} (vacant : slot.isVacant = true) (current : slot.retired = false) :
    slot = {} := by
  obtain ⟨hidle, hactive, hflight⟩ := isVacant_iff.mp vacant
  obtain ⟨idle, active, inFlight, retired⟩ := slot
  simp_all

/-- A slot without its idle resources. -/
def emptied (slot : Slot ω) : Slot ω := { slot with idle := [] }

/-- A vacant slot has no loan to forget. -/
theorem release_eq_self {slot : Slot ω} (vacant : slot.isVacant = true) : slot.release = slot := by
  obtain ⟨-, hactive, -⟩ := isVacant_iff.mp vacant
  unfold release
  rw [hactive, Nat.zero_sub, ← hactive]

/-- Taking from a slot takes one of its idle resources and leaves the others. -/
theorem take?_eq_some {slot rest : Slot ω} {selection : Selection} {object : ω}
    (h : slot.take? selection = some (object, rest)) :
    slot.idle.Perm (object :: rest.idle) ∧ rest = { slot with idle := rest.idle } := by
  cases selection with
  | lifo =>
    obtain ⟨first, hfirst, heq⟩ := Option.map_eq_some_iff.mp h
    cases heq
    obtain ⟨tail, htail⟩ := List.head?_eq_some_iff.mp hfirst
    simp [htail]
  | fifo =>
    obtain ⟨last, hlast, heq⟩ := Option.map_eq_some_iff.mp h
    cases heq
    obtain ⟨init, hinit⟩ := List.getLast?_eq_some_iff.mp hlast
    simp [hinit, List.perm_append_singleton]

/-- Nothing can be taken only where nothing is idle. -/
theorem take?_eq_none {slot : Slot ω} {selection : Selection} (h : slot.take? selection = none) :
    slot.idle = [] := by
  cases selection with
  | lifo => exact List.head?_eq_none_iff.mp (Option.map_eq_none_iff.mp h)
  | fifo => exact List.getLast?_eq_none_iff.mp (Option.map_eq_none_iff.mp h)

end Slot

namespace Store

variable [DecidableEq κ]

/-! ## Links and numbers -/

section lookups

variable (store : Store κ ω)

/-- The slot that is found under a key is linked to it. -/
theorem mem_links_of_find? {key : κ} {id : SlotId} (h : store.find? key = some id) :
    (key, id) ∈ store.links := by
  obtain ⟨link, hlink, rfl⟩ := Option.map_eq_some_iff.mp h
  have hkey : link.1 = key := by simpa using List.find?_some hlink
  rw [← hkey]
  exact List.mem_of_find?_eq_some hlink

/-- No slot is found under a key just if none is linked to it. -/
theorem find?_eq_none_iff {key : κ} :
    store.find? key = none ↔ ∀ link ∈ store.links, link.1 ≠ key := by
  simp [find?]

/-- Changing a slot links and unlinks nothing. -/
@[simp] theorem find?_update (id : SlotId) (change : Slot ω → Slot ω) (key : κ) :
    (store.update id change).find? key = store.find? key := rfl

/-- The links stay as they are when a slot changes. -/
@[simp] theorem links_update (id : SlotId) (change : Slot ω → Slot ω) :
    (store.update id change).links = store.links := rfl

/-- Changing a slot opens none. -/
@[simp] theorem length_slots_update (id : SlotId) (change : Slot ω → Slot ω) :
    (store.update id change).slots.length = store.slots.length := by simp [update]

/-- What the slots hold after one of them has changed, provided that it is open. -/
theorem slot_update (id other : SlotId) (change : Slot ω → Slot ω) :
    (store.update id change).slot other =
      if other = id ∧ id < store.slots.length then change (store.slot id)
      else store.slot other := by
  by_cases hid : other = id
  · subst hid
    by_cases hlt : other < store.slots.length
    · simp [slot, update, hlt]
    · simp [slot, update, hlt]
  · simp [slot, update, hid, List.getElem?_modify_ne _ _ (Ne.symm hid)]

/-- The slot that was changed. -/
theorem slot_update_self {id : SlotId} (lt : id < store.slots.length)
    (change : Slot ω → Slot ω) : (store.update id change).slot id = change (store.slot id) := by
  simp [slot_update, lt]

/-- The other slots are as they were. -/
theorem slot_update_of_ne {id other : SlotId} (ne : other ≠ id) (change : Slot ω → Slot ω) :
    (store.update id change).slot other = store.slot other := by
  simp [slot_update, ne]

/-- A change that leaves the slot as it is leaves the store as it is. -/
theorem update_eq_self {id : SlotId} {change : Slot ω → Slot ω}
    (h : change (store.slot id) = store.slot id) : store.update id change = store := by
  have hslots : store.slots.modify id change = store.slots := by
    refine List.ext_getElem? ?_
    intro other
    rw [List.getElem?_modify]
    by_cases hid : id = other
    · subst hid
      cases hfound : store.slots[id]? with
      | none => simp
      | some found =>
        have : change found = found := by simpa [slot, hfound] using h
        simp [this]
    · simp [hid]
  simp [update, hslots]

end lookups

/-! ## Tidy and sound stores -/

/-- **Links and slots fit together.** Every key has at most one slot and every slot at most one
key; a linked slot is in use, and a slot that is not linked is retired. -/
structure Tidy (store : Store κ ω) : Prop where
  keys_nodup : (store.links.map Prod.fst).Nodup
  ids_nodup : (store.links.map Prod.snd).Nodup
  linked_lt : ∀ link ∈ store.links, link.2 < store.slots.length
  linked_current : ∀ link ∈ store.links, (store.slot link.2).retired = false
  unlinked_retired : ∀ id < store.slots.length, id ∉ store.links.map Prod.snd →
    (store.slot id).retired = true

/-- A tidy store whose retired slots hold nothing. -/
structure Sound (store : Store κ ω) : Prop extends Tidy store where
  retired_vacant : ∀ id, (store.slot id).retired = true → (store.slot id).isVacant = true

/-- A store in which no slot has been opened is sound. -/
theorem sound_empty (selection : Selection) (idleLimit : Option Nat) (walk : Walk κ) :
    Sound ({ selection := selection, idleLimit := idleLimit, walk := walk } : Store κ ω) where
  keys_nodup := List.nodup_nil
  ids_nodup := List.nodup_nil
  linked_lt _ h := absurd h List.not_mem_nil
  linked_current _ h := absurd h List.not_mem_nil
  unlinked_retired _ h := absurd h (Nat.not_lt_zero _)
  retired_vacant _ h := nomatch h

/-- The slot that stands for a key, or an empty one. -/
def live (store : Store κ ω) (key : κ) : Slot ω :=
  match store.find? key with
  | some id => store.slot id
  | none => {}

/-- A slot that an operation began with: it still stands for the key, or it is retired. -/
def Stands (store : Store κ ω) (key : κ) (id : SlotId) : Prop :=
  store.find? key = some id ∨ (store.slot id).retired = true

/-- How many borrows of a key have reserved room. -/
def numInFlight (store : Store κ ω) (key : κ) : Nat := (store.live key).inFlight

section views

variable {store : Store κ ω}

/-- What a key holds is what the slot holds that is found under it. -/
theorem live_of_find? {key : κ} {id : SlotId} (h : store.find? key = some id) :
    store.live key = store.slot id := by simp [live, h]

/-- A key without a slot holds nothing. -/
theorem live_of_find?_none {key : κ} (h : store.find? key = none) : store.live key = {} := by
  simp [live, h]

/-- The number on loan is read off the view. -/
theorem numActive_eq (store : Store κ ω) (key : κ) :
    store.numActive key = (store.live key).active := by
  unfold numActive live
  cases store.find? key <;> rfl

/-- So is the number of idle resources. -/
theorem numIdle_eq (store : Store κ ω) (key : κ) :
    store.numIdle key = (store.live key).idle.length := by
  unfold numIdle live
  cases store.find? key <;> rfl

/-- In a tidy store the slot that is linked to a key is the one that is found under it. -/
theorem Tidy.find?_of_mem (tidy : store.Tidy) {key : κ} {id : SlotId}
    (h : (key, id) ∈ store.links) : store.find? key = some id := by
  cases hfind : store.find? key with
  | none => exact absurd rfl ((find?_eq_none_iff store).mp hfind _ h)
  | some other =>
    have hother := mem_links_of_find? store hfind
    have := List.inj_on_of_nodup_map tidy.keys_nodup h hother rfl
    simpa using (congrArg Prod.snd this).symm

/-- A slot that is found has been opened. -/
theorem Tidy.lt_of_find? (tidy : store.Tidy) {key : κ} {id : SlotId}
    (h : store.find? key = some id) : id < store.slots.length :=
  tidy.linked_lt _ (mem_links_of_find? store h)

/-- A slot that is found is not retired. -/
theorem Tidy.current_of_find? (tidy : store.Tidy) {key : κ} {id : SlotId}
    (h : store.find? key = some id) : (store.slot id).retired = false :=
  tidy.linked_current _ (mem_links_of_find? store h)

/-- No slot is found under two keys. -/
theorem Tidy.key_eq_of_find? (tidy : store.Tidy) {key other : κ} {id : SlotId}
    (h : store.find? key = some id) (ho : store.find? other = some id) : key = other := by
  have hmem := mem_links_of_find? store h
  have hmem' := mem_links_of_find? store ho
  exact congrArg Prod.fst (List.inj_on_of_nodup_map tidy.ids_nodup hmem hmem' rfl)

/-- What stands for a key is never retired. -/
theorem Tidy.live_current (tidy : store.Tidy) (key : κ) : (store.live key).retired = false := by
  cases h : store.find? key with
  | none => rw [live_of_find?_none h]
  | some id => rw [live_of_find? h, tidy.current_of_find? h]

/-- A key that holds anything has a slot, so a link is lost only with everything under it. -/
theorem find?_of_live {key : κ} (h : (store.live key).isVacant = false) :
    ∃ id, store.find? key = some id := by
  cases hfind : store.find? key with
  | none => rw [live_of_find?_none hfind] at h; cases h
  | some id => exact ⟨id, rfl⟩

end views

/-! ## What operations make of the view -/

/-- **What an operation makes of a store**: a sound store with the given view. A link is kept or
lost, but no key changes its slot; and a slot that an operation has begun with stays one that its
key or nobody stands for. -/
structure Becomes (store next : Store κ ω) (view : κ → Slot ω) : Prop where
  sound : next.Sound
  live_eq : ∀ key, next.live key = view key
  relinks : ∀ key id, store.find? key = some id → next.find? key = some id ∨ next.find? key = none
  stands : ∀ key id, store.Stands key id → next.Stands key id

namespace Becomes

variable {store next last : Store κ ω} {view view' : κ → Slot ω}

/-- A sound store becomes what it is. -/
theorem refl (sound : store.Sound) : Becomes store store store.live where
  sound := sound
  live_eq _ := rfl
  relinks _ _ h := .inl h
  stands _ _ h := h

/-- Two operations in a row, the second of which opens no slot. -/
theorem trans (first : Becomes store next view) (second : Becomes next last view')
    (closed : ∀ key, next.find? key = none → last.find? key = none) :
    Becomes store last view' where
  sound := second.sound
  live_eq := second.live_eq
  relinks key id h := by
    rcases first.relinks key id h with hkept | hlost
    · exact second.relinks key id hkept
    · exact .inr (closed key hlost)
  stands key id h := second.stands key id (first.stands key id h)

/-- A key that holds anything afterwards has kept its slot. -/
theorem keeps (h : Becomes store next view) {key : κ} {id : SlotId}
    (hid : store.find? key = some id) (held : (next.live key).isVacant = false) :
    next.find? key = some id := by
  rcases h.relinks key id hid with hkept | hlost
  · exact hkept
  · obtain ⟨other, hother⟩ := find?_of_live held
    rw [hlost] at hother
    cases hother

end Becomes

section effects

variable {store : Store κ ω}

/-- Retirement is not undone, and not brought about, by a change that leaves it alone. -/
theorem retired_update {id : SlotId} {change : Slot ω → Slot ω}
    (same : (change (store.slot id)).retired = (store.slot id).retired) (other : SlotId) :
    ((store.update id change).slot other).retired = (store.slot other).retired := by
  rw [slot_update]
  split
  · next h => rw [h.1, same]
  · rfl

/-- A change that neither retires a slot nor takes it back into use leaves the store tidy. -/
theorem tidy_update (tidy : store.Tidy) {id : SlotId} {change : Slot ω → Slot ω}
    (same : (change (store.slot id)).retired = (store.slot id).retired) :
    (store.update id change).Tidy where
  keys_nodup := tidy.keys_nodup
  ids_nodup := tidy.ids_nodup
  linked_lt link hlink := by
    rw [length_slots_update]
    exact tidy.linked_lt link hlink
  linked_current link hlink := by
    rw [retired_update same]
    exact tidy.linked_current link hlink
  unlinked_retired other hother hunlinked := by
    rw [length_slots_update] at hother
    rw [retired_update same]
    exact tidy.unlinked_retired other hother hunlinked

/-- Changing the slot of a key changes what that key has. -/
theorem becomes_update (sound : store.Sound) {key : κ} {id : SlotId}
    (hid : store.find? key = some id) (change : Slot ω → Slot ω)
    (current : (change (store.live key)).retired = false) :
    Becomes store (store.update id change)
      (Function.update store.live key (change (store.live key))) := by
  have hlt := sound.lt_of_find? hid
  have hsame : (change (store.slot id)).retired = (store.slot id).retired := by
    rw [← live_of_find? hid, current, sound.live_current]
  have hretired := retired_update hsame
  refine ⟨⟨tidy_update sound.toTidy hsame, ?_⟩, ?_, ?_, ?_⟩
  · intro other hother
    rw [hretired] at hother
    have hne : other ≠ id := by
      rintro rfl
      rw [sound.current_of_find? hid] at hother
      cases hother
    rw [slot_update_of_ne _ hne]
    exact sound.retired_vacant other hother
  · intro other
    by_cases hkey : other = key
    · subst hkey
      have hid' : (store.update id change).find? other = some id := hid
      rw [Function.update_self, live_of_find? hid, live_of_find? hid', slot_update_self _ hlt]
    · rw [Function.update_of_ne hkey]
      cases hother : store.find? other with
      | none => rw [live_of_find?_none hother, live_of_find?_none (by rw [find?_update, hother])]
      | some found =>
        have hne : found ≠ id := by
          rintro rfl
          exact hkey (sound.key_eq_of_find? hother hid)
        have hother' : (store.update id change).find? other = some found := hother
        rw [live_of_find? hother, live_of_find? hother', slot_update_of_ne _ hne]
  · exact fun _ _ h => .inl h
  · rintro other found (h | h)
    · exact .inl h
    · exact .inr (by rw [hretired, h])

/-- A slot that is opened is found under its key, and the other keys have the slots that they had.
-/
theorem find?_openSlot (key other : κ) : (store.openSlot key).2.find? other =
    if other = key then some (store.openSlot key).1 else store.find? other := by
  unfold openSlot
  cases hfind : store.find? key with
  | some id =>
    by_cases hkey : other = key
    · simp [hkey, hfind]
    · simp [hkey]
  | none =>
    by_cases hkey : other = key
    · subst hkey
      have hnone : store.links.find? (fun link => link.1 = other) = none :=
        Option.map_eq_none_iff.mp hfind
      simp [find?, List.find?_append, hnone]
    · have hlast : [(key, store.slots.length)].find? (fun link => link.1 = other) = none := by
        simp [Ne.symm hkey]
      simp [find?, List.find?_append, hlast, hkey]

/-- Opening a slot leaves every slot as it reads: one that is not open reads as empty. -/
@[simp] theorem slot_openSlot (key : κ) (id : SlotId) :
    (store.openSlot key).2.slot id = store.slot id := by
  unfold openSlot
  split
  · rfl
  · by_cases hlt : id < store.slots.length
    · simp [slot, List.getElem?_append_left hlt]
    · have hbeyond : store.slots[id]? = none := List.getElem?_eq_none (Nat.not_lt.mp hlt)
      have hnew : ([{}] : List (Slot ω))[id - store.slots.length]?.getD {} = {} := by
        cases id - store.slots.length <;> rfl
      simp [slot, List.getElem?_append_right (Nat.not_lt.mp hlt), hbeyond, hnew]

/-- Opening a slot for a key that has none. -/
theorem tidy_openSlot (tidy : store.Tidy) {key : κ} (unlinked : store.find? key = none) :
    (store.openSlot key).2.Tidy := by
  have hlinks : (store.openSlot key).2.links = store.links ++ [(key, store.slots.length)] := by
    simp [openSlot, unlinked]
  have hlength : (store.openSlot key).2.slots.length = store.slots.length + 1 := by
    simp [openSlot, unlinked]
  have hfresh : store.slots.length ∉ store.links.map Prod.snd := by
    intro h
    obtain ⟨link, hlink, heq⟩ := List.mem_map.mp h
    exact Nat.ne_of_lt (tidy.linked_lt link hlink) heq
  have hunused : key ∉ store.links.map Prod.fst := by
    intro h
    obtain ⟨link, hlink, heq⟩ := List.mem_map.mp h
    exact (find?_eq_none_iff store).mp unlinked link hlink heq
  refine ⟨?_, ?_, ?_, ?_, ?_⟩
  · rw [hlinks, List.map_append]
    exact List.nodup_append_comm.mp (List.nodup_cons.mpr ⟨hunused, tidy.keys_nodup⟩)
  · rw [hlinks, List.map_append]
    exact List.nodup_append_comm.mp (List.nodup_cons.mpr ⟨hfresh, tidy.ids_nodup⟩)
  · intro link hlink
    rw [hlinks, List.mem_append, List.mem_singleton] at hlink
    rw [hlength]
    rcases hlink with hlink | rfl
    · exact Nat.lt_succ_of_lt (tidy.linked_lt link hlink)
    · exact Nat.lt_succ_self _
  · intro link hlink
    rw [hlinks, List.mem_append, List.mem_singleton] at hlink
    rw [slot_openSlot]
    rcases hlink with hlink | rfl
    · exact tidy.linked_current link hlink
    · simp [slot]
  · intro id hid hunlinked
    rw [hlength] at hid
    rw [hlinks, List.map_append, List.mem_append, not_or] at hunlinked
    have hne : id ≠ store.slots.length := by simpa using hunlinked.2
    rw [slot_openSlot]
    exact tidy.unlinked_retired id (Nat.lt_of_le_of_ne (Nat.le_of_lt_succ hid) hne) hunlinked.1

/-- Opening a slot for a key that has none keeps a store sound. -/
theorem sound_openSlot (sound : store.Sound) {key : κ} (unlinked : store.find? key = none) :
    (store.openSlot key).2.Sound where
  toTidy := tidy_openSlot sound.toTidy unlinked
  retired_vacant id hid := by
    rw [slot_openSlot] at hid ⊢
    exact sound.retired_vacant id hid

/-- Opening a slot gives a key nothing. -/
theorem becomes_openSlot (sound : store.Sound) (key : κ) :
    Becomes store (store.openSlot key).2 store.live := by
  cases hfind : store.find? key with
  | some id =>
    have heq : store.openSlot key = (id, store) := by simp [openSlot, hfind]
    rw [heq]
    exact .refl sound
  | none =>
    -- a key that has a slot is another one
    have hkeeps : ∀ other id, store.find? other = some id →
        (store.openSlot key).2.find? other = some id := by
      intro other id h
      rw [find?_openSlot]
      split
      · next hkey =>
        rw [hkey, hfind] at h
        cases h
      · exact h
    refine ⟨sound_openSlot sound hfind, ?_, ?_, ?_⟩
    · intro other
      by_cases hkey : other = key
      · subst hkey
        have hid : (store.openSlot other).1 = store.slots.length := by simp [openSlot, hfind]
        have hnew : store.slot store.slots.length = {} := by simp [slot]
        rw [live_of_find?_none hfind, live_of_find? (by rw [find?_openSlot, if_pos rfl]),
          slot_openSlot, hid, hnew]
      · unfold live
        rw [find?_openSlot, if_neg hkey]
        split <;> simp
    · intro other id h
      exact .inl (hkeeps other id h)
    · rintro other id (h | h)
      · exact .inl (hkeeps other id h)
      · right
        rw [slot_openSlot, h]

/-! ### Unlinking -/

/-- Pruning retires a vacant slot and unlinks it. -/
theorem prune_of_vacant {key : κ} {id : SlotId} (hid : store.find? key = some id)
    (vacant : (store.slot id).isVacant = true) :
    (store.prune key).2 = { store.update id Slot.retireIfVacant with
      links := store.links.filter fun link => link.1 ≠ key } := by
  simp [prune, hid, Slot.retireIfVacant, vacant]

/-- Pruning leaves a slot alone that holds something. -/
theorem prune_of_held {key : κ} {id : SlotId} (hid : store.find? key = some id)
    (current : (store.slot id).retired = false) (held : (store.slot id).isVacant = false) :
    (store.prune key).2 = store := by
  have hsame : (store.slot id).retireIfVacant = store.slot id := by
    unfold Slot.retireIfVacant
    rw [held, Bool.or_false]
  simp [prune, hid, hsame, current, update_eq_self store hsame]

/-- Without the links of a key nothing is found under it, and under the other keys what was found
before. -/
theorem find?_filter_links (key other : κ) :
    ((store.links.filter fun link => link.1 ≠ key).find? fun link => link.1 = other) =
      if other = key then none else store.links.find? fun link => link.1 = other := by
  rw [List.find?_filter]
  split
  · next hkey => simp [hkey]
  · next hkey =>
    refine congrArg (fun p => store.links.find? p) (funext ?_)
    intro link
    by_cases hlink : link.1 = other
    · simp [hlink, hkey]
    · simp [hlink]

/-- Unlinking one key leaves the links of all others, and opens none. -/
theorem find?_prune (sound : store.Sound) (key other : κ) :
    (store.prune key).2.find? other =
      if other = key ∧ (store.live key).isVacant = true then none else store.find? other := by
  cases hid : store.find? key with
  | none =>
    have hsame : (store.prune key).2 = store := by simp [prune, hid]
    rw [hsame]
    split
    · next h => rw [h.1, hid]
    · rfl
  | some id =>
    rw [live_of_find? hid]
    cases hvacant : (store.slot id).isVacant with
    | false =>
      rw [prune_of_held hid (sound.current_of_find? hid) hvacant]
      simp
    | true =>
      rw [prune_of_vacant hid hvacant]
      unfold find?
      rw [find?_filter_links]
      by_cases hkey : other = key
      · simp [hkey]
      · simp [hkey]

/-- The slot that is unlinked is retired. -/
theorem retired_unlink (tidy : store.Tidy) {key : κ} {id : SlotId}
    (hid : store.find? key = some id) (vacant : (store.slot id).isVacant = true) :
    ((store.update id Slot.retireIfVacant).slot id).retired = true := by
  simp [slot_update_self _ (tidy.lt_of_find? hid), Slot.retireIfVacant, vacant]

/-- Unlinking a slot that holds nothing. -/
theorem tidy_unlink (tidy : store.Tidy) {key : κ} {id : SlotId}
    (hid : store.find? key = some id) (vacant : (store.slot id).isVacant = true) :
    Tidy { store.update id Slot.retireIfVacant with
      links := store.links.filter fun link => link.1 ≠ key } := by
  have hsub := List.filter_sublist (l := store.links) (p := fun link => link.1 ≠ key)
  -- the links that are left are those of other slots
  have hleft : ∀ link ∈ store.links.filter (fun link => link.1 ≠ key),
      link ∈ store.links ∧ link.2 ≠ id := by
    intro link hlink
    obtain ⟨hmem, hkey⟩ := List.mem_filter.mp hlink
    refine ⟨hmem, ?_⟩
    intro heq
    have hsame := List.inj_on_of_nodup_map tidy.ids_nodup hmem
      (mem_links_of_find? store hid) heq
    simp [hsame] at hkey
  refine ⟨(hsub.map _).nodup tidy.keys_nodup, (hsub.map _).nodup tidy.ids_nodup, ?_, ?_, ?_⟩
  · intro link hlink
    exact (length_slots_update store id _).symm ▸ tidy.linked_lt link (hleft link hlink).1
  · intro link hlink
    obtain ⟨hmem, hne⟩ := hleft link hlink
    exact (slot_update_of_ne store hne _).symm ▸ tidy.linked_current link hmem
  · intro other hother hunlinked
    by_cases heq : other = id
    · rw [heq]
      exact retired_unlink tidy hid vacant
    · have hbefore : other ∉ store.links.map Prod.snd := by
        intro hlinked
        obtain ⟨link, hmem, rfl⟩ := List.mem_map.mp hlinked
        have hkey : link.1 ≠ key := by
          intro hsame
          have hentry := List.inj_on_of_nodup_map tidy.keys_nodup hmem
            (mem_links_of_find? store hid) hsame
          exact heq (congrArg Prod.snd hentry)
        apply hunlinked
        exact List.mem_map.mpr ⟨link, List.mem_filter.mpr ⟨hmem, decide_eq_true hkey⟩, rfl⟩
      exact (slot_update_of_ne store heq _).symm ▸ tidy.unlinked_retired other
        ((length_slots_update store id _) ▸ hother) hbefore

/-- Unlinking a vacant slot keeps a store sound. -/
theorem sound_unlink (sound : store.Sound) {key : κ} {id : SlotId}
    (hid : store.find? key = some id) (vacant : (store.slot id).isVacant = true) :
    Sound { store.update id Slot.retireIfVacant with
      links := store.links.filter fun link => link.1 ≠ key } := by
  refine ⟨tidy_unlink sound.toTidy hid vacant, ?_⟩
  intro other hother
  by_cases heq : other = id
  · subst heq
    exact (slot_update_self store (sound.lt_of_find? hid) _).symm ▸ vacant
  · refine (slot_update_of_ne store heq _).symm ▸ sound.retired_vacant other ?_
    exact (slot_update_of_ne store heq Slot.retireIfVacant) ▸ hother

/-- Unlinking takes nothing from a key. -/
theorem becomes_prune (sound : store.Sound) (key : κ) :
    Becomes store (store.prune key).2 store.live := by
  cases hid : store.find? key with
  | none =>
    have hsame : (store.prune key).2 = store := by simp [prune, hid]
    rw [hsame]
    exact .refl sound
  | some id =>
    cases hvacant : (store.slot id).isVacant with
    | false =>
      rw [prune_of_held hid (sound.current_of_find? hid) hvacant]
      exact .refl sound
    | true =>
      have hfind := find?_prune sound key
      rw [live_of_find? hid, hvacant] at hfind
      rw [prune_of_vacant hid hvacant] at hfind ⊢
      refine ⟨sound_unlink sound hid hvacant, ?_, ?_, ?_⟩
      · intro other
        by_cases hkey : other = key
        · subst hkey
          rw [live_of_find? hid, Slot.eq_empty hvacant (sound.current_of_find? hid)]
          exact live_of_find?_none (by rw [hfind]; simp)
        · have hother := hfind other
          rw [if_neg fun h => hkey h.1] at hother
          unfold live
          rw [hother]
          cases hfound : store.find? other with
          | none => rfl
          | some found =>
            have hne : found ≠ id := by
              rintro rfl
              exact hkey (sound.key_eq_of_find? hfound hid)
            exact slot_update_of_ne store hne _
      · intro other found hfound
        by_cases hkey : other = key
        · right
          rw [hfind, if_pos ⟨hkey, rfl⟩]
        · left
          rw [hfind, if_neg fun h => hkey h.1, hfound]
      · intro other found hstands
        by_cases heq : found = id
        · right
          rw [heq]
          exact retired_unlink sound.toTidy hid hvacant
        · rcases hstands with h | h
          · left
            rw [hfind, if_neg, h]
            rintro ⟨rfl, -⟩
            rw [hid] at h
            exact heq (Option.some.inj h).symm
          · right
            exact (slot_update_of_ne store heq Slot.retireIfVacant).symm ▸ h

/-- An operation on one key and the unlinking of that key after it. -/
theorem Becomes.prune {next : Store κ ω} {view : κ → Slot ω} (h : Becomes store next view)
    (key : κ) : Becomes store (next.prune key).2 view := by
  have hprune := becomes_prune h.sound key
  rw [funext h.live_eq] at hprune
  apply h.trans hprune
  intro other hother
  rw [find?_prune h.sound, hother, ite_self]

/-- Changing the slot of a key changes nothing for a key whose slot is retired. -/
theorem release_of_stale (sound : store.Sound) {id : SlotId}
    (stale : (store.slot id).retired = true) : store.release id = store :=
  update_eq_self store (Slot.release_eq_self (sound.retired_vacant id stale))

end effects

end Store

end ResourcePool
