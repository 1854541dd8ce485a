import Mathlib.Algebra.BigOperators.Group.Finset.Basic
import ResourcePool.Proofs.Store.Live

/-!
# What the operations of a store do

One lemma for each operation that does more than change a slot, in terms of what the keys have. An
operation that is given a slot is looked at for the slot of a key; with a retired slot it changes
nothing (`release_of_stale`, `checkIn_of_stale`).

* `reserve_cases`, `take_cases`, `checkIn_cases`, `deposit_cases` — what can come of an operation,
  and what it makes of the key.
* `drain_eq`, `filter_drainAll` — what is taken out, in the order in which it came in;
  `becomes_drain`, `becomes_drainAll` — what is left.
* `sum_slots` — a sum over the slots that are linked, as a sum over keys.
-/

set_option linter.unusedSectionVars false

namespace ResourcePool.Store

variable {κ ω : Type} [DecidableEq κ] {store : Store κ ω}

/-! ## Reservations -/

/-- The slot that is found or opened has what the key has. -/
theorem slot_of_openSlot (sound : store.Sound) (key : κ) :
    (store.openSlot key).2.slot (store.openSlot key).1 = store.live key := by
  have hfind : (store.openSlot key).2.find? key = some (store.openSlot key).1 := by
    rw [find?_openSlot, if_pos rfl]
  rw [← (becomes_openSlot sound key).live_eq, live_of_find? hfind]

/-- One look-up decides about a reservation. -/
theorem reserve_eq (sound : store.Sound) (key : κ) (limit : Option Nat) :
    store.reserve key limit =
      if isAtLimit limit (store.live key) = true then (none, (store.openSlot key).2)
      else (some (store.openSlot key).1,
        (store.openSlot key).2.update (store.openSlot key).1 Slot.reserve) := by
  have hslot := slot_of_openSlot sound key
  have hcurrent := sound.live_current key
  cases hlimit : isAtLimit limit (store.live key) <;>
    simp [reserve, reservePass, hslot, hcurrent, hlimit]

/-- A reservation is made exactly if the key is below its limit. -/
theorem reserve_cases (sound : store.Sound) (key : κ) (limit : Option Nat) :
    (isAtLimit limit (store.live key) = true ∧ (store.reserve key limit).1 = none ∧
      Becomes store (store.reserve key limit).2 store.live) ∨
    (isAtLimit limit (store.live key) = false ∧ ∃ id, (store.reserve key limit).1 = some id ∧
      (store.reserve key limit).2.find? key = some id ∧
      Becomes store (store.reserve key limit).2
        (Function.update store.live key (store.live key).reserve)) := by
  have hopen := becomes_openSlot sound key
  have hfind : (store.openSlot key).2.find? key = some (store.openSlot key).1 := by
    rw [find?_openSlot, if_pos rfl]
  rw [reserve_eq sound]
  cases hlimit : isAtLimit limit (store.live key) with
  | true => exact .inl ⟨rfl, rfl, hopen⟩
  | false =>
    refine .inr ⟨rfl, (store.openSlot key).1, rfl, hfind, ?_⟩
    rw [← funext hopen.live_eq]
    exact hopen.trans (becomes_update hopen.sound hfind _ (hopen.sound.live_current key))
      fun _ h => h

/-! ## Resources in and out -/

/-- Taking from the slot of a key takes one of its idle resources, if there are any. -/
theorem take_cases (sound : store.Sound) {key : κ} {id : SlotId}
    (hid : store.find? key = some id) :
    ((store.live key).idle = [] ∧ store.take id = (none, store)) ∨
    (∃ object rest next, (store.live key).take? store.selection = some (object, rest) ∧
      store.take id = (some object, next) ∧ next.find? key = some id ∧
      Becomes store next (Function.update store.live key rest)) := by
  have hslot := live_of_find? hid
  cases htake : (store.live key).take? store.selection with
  | none =>
    refine .inl ⟨Slot.take?_eq_none htake, ?_⟩
    rw [hslot] at htake
    simp [take, htake]
  | some taken =>
    obtain ⟨object, rest⟩ := taken
    have hcurrent : rest.retired = false := by
      rw [(Slot.take?_eq_some htake).2]
      exact sound.live_current key
    have hupdate := becomes_update sound hid (fun _ => rest) hcurrent
    refine .inr ⟨object, rest, store.update id fun _ => rest, rfl, ?_, hid, hupdate⟩
    rw [hslot] at htake
    simp [take, htake]

/-- A resource that is offered to the slot of a key is kept, or it is handed back and the store
stays as it is. -/
theorem offer_cases (sound : store.Sound) {key : κ} {id : SlotId}
    (hid : store.find? key = some id) (object : ω) :
    (∃ reason, reason ≠ .unborrowed ∧ store.offer id object = (.rejected reason object, store)) ∨
    (store.offer id object = (.accepted, store.update id fun slot => slot.push object) ∧
      Becomes store (store.update id fun slot => slot.push object)
        (Function.update store.live key ((store.live key).push object))) := by
  unfold offer
  split
  · exact .inl ⟨_, by simp, rfl⟩
  · split
    · exact .inl ⟨_, by simp, rfl⟩
    · exact .inr ⟨rfl, becomes_update sound hid _ (sound.live_current key)⟩

/-- Unless nothing is on loan under the key, taking a resource back ends a loan, and then the
resource is kept or handed back. -/
theorem checkIn_cases (sound : store.Sound) {key : κ} {id : SlotId}
    (hid : store.find? key = some id) (object : ω) :
    ((store.live key).active = 0 ∧
      store.checkIn id object = (.rejected .unborrowed object, store)) ∨
    (0 < (store.live key).active ∧
      ((∃ reason next, reason ≠ .unborrowed ∧
          store.checkIn id object = (.rejected reason object, next) ∧
          Becomes store next (Function.update store.live key (store.live key).release)) ∨
        ∃ next, store.checkIn id object = (.accepted, next) ∧
          Becomes store next
            (Function.update store.live key ((store.live key).release.push object)))) := by
  unfold checkIn
  rw [← live_of_find? hid]
  split
  · next hactive => exact .inl ⟨hactive, rfl⟩
  · next hactive =>
    have hrelease := becomes_update sound hid Slot.release (sound.live_current key)
    refine .inr ⟨Nat.pos_of_ne_zero hactive, ?_⟩
    have hid' : (store.release id).find? key = some id := hid
    rcases offer_cases hrelease.sound hid' object with ⟨reason, hreason, heq⟩ | ⟨heq, hnext⟩
    · exact .inl ⟨reason, _, hreason, heq, hrelease⟩
    · refine .inr ⟨_, heq, ?_⟩
      rw [funext hrelease.live_eq, Function.update_self, Function.update_idem] at hnext
      exact hrelease.trans hnext fun _ h => h

/-- A slot that is retired has nothing on loan, so that nothing can be checked in there. -/
theorem checkIn_of_stale (sound : store.Sound) {id : SlotId}
    (stale : (store.slot id).retired = true) (object : ω) :
    store.checkIn id object = (.rejected .unborrowed object, store) := by
  obtain ⟨-, hactive, -⟩ := Slot.isVacant_iff.mp (sound.retired_vacant id stale)
  simp [checkIn, hactive]

/-- A fresh resource is kept under its key, or it is handed back and the key has what it had. -/
theorem deposit_cases (sound : store.Sound) (key : κ) (object : ω) :
    (∃ reason next, reason ≠ .unborrowed ∧
      store.deposit key object = (.rejected reason object, next) ∧ Becomes store next store.live) ∨
    (∃ next, store.deposit key object = (.accepted, next) ∧
      Becomes store next (Function.update store.live key ((store.live key).push object))) := by
  have hopen := becomes_openSlot sound key
  have hfind : (store.openSlot key).2.find? key = some (store.openSlot key).1 := by
    rw [find?_openSlot, if_pos rfl]
  have hcurrent := hopen.sound.current_of_find? hfind
  have hdeposit : store.deposit key object =
      (store.openSlot key).2.offer (store.openSlot key).1 object := by
    unfold deposit depositPass
    simp only [hcurrent]
    rfl
  rw [hdeposit]
  rcases offer_cases hopen.sound hfind object with ⟨reason, hreason, heq⟩ | ⟨heq, hnext⟩
  · exact .inl ⟨reason, _, hreason, heq, hopen⟩
  · refine .inr ⟨_, heq, ?_⟩
    rw [funext hopen.live_eq] at hnext
    exact hopen.trans hnext fun _ h => h

/-! ## Emptying -/

/-- What is taken out of a key is what was idle there, what came in first at the front. -/
theorem drain_eq (store : Store κ ω) (key : κ) :
    (store.drain key).1 = (store.live key).idle.reverse := by
  unfold drain live
  cases store.find? key <;> rfl

/-- Emptying a key takes out what is idle there and changes nothing else. -/
theorem becomes_drain (sound : store.Sound) (key : κ) :
    Becomes store (store.drain key).2
      (Function.update store.live key (store.live key).emptied) := by
  cases hid : store.find? key with
  | none =>
    have heq : store.drain key = ([], store) := by simp [drain, hid]
    have hsame : (store.live key).emptied = store.live key := by
      rw [live_of_find?_none hid]
      rfl
    rw [heq, hsame, Function.update_eq_self]
    exact .refl sound
  | some id =>
    have heq : (store.drain key).2 = ((store.update id Slot.emptied).prune key).2 := by
      simp only [drain, hid]
      rfl
    rw [heq]
    exact (becomes_update sound hid Slot.emptied (sound.live_current key)).prune key

/-- What the slots of some links hold, key by key. -/
def heldUnder (store : Store κ ω) (links : List (κ × SlotId)) : List (κ × ω) :=
  links.flatMap fun link => (store.live link.1).idle.reverse.map fun object => (link.1, object)

/-- Of entries that are listed key by key, those of one key are the ones listed under it. -/
theorem filter_tagged {α : Type} (entries : κ → List α) {keys : List κ} (nodup : keys.Nodup)
    (key : κ) :
    (keys.flatMap fun place => (entries place).map fun entry => (place, entry)).filter
        (fun entry => entry.1 = key) =
      if key ∈ keys then (entries key).map fun entry => (key, entry) else [] := by
  induction keys with
  | nil => rfl
  | cons place rest ih =>
    obtain ⟨hnew, hrest⟩ := List.nodup_cons.mp nodup
    rw [List.flatMap_cons, List.filter_append, ih hrest, List.filter_map]
    by_cases hkey : place = key
    · subst hkey
      have hall : (fun entry : κ × α => decide (entry.1 = place)) ∘
          (fun entry => (place, entry)) = fun _ => true := by
        funext entry
        simp
      rw [hall, List.filter_true, if_neg hnew, if_pos List.mem_cons_self, List.append_nil]
    · have hnone : (fun entry : κ × α => decide (entry.1 = key)) ∘
          (fun entry => (place, entry)) = fun _ => false := by
        funext entry
        simp [hkey]
      rw [hnone, List.filter_false, List.map_nil, List.nil_append]
      simp only [List.mem_cons, Ne.symm hkey, false_or]

/-- Of what is taken out along some links, what belongs to a key is what was idle there, if the key
is among them. -/
theorem filter_heldUnder (links : List (κ × SlotId)) (nodup : (links.map Prod.fst).Nodup)
    (key : κ) :
    (store.heldUnder links).filter (fun entry => entry.1 = key) =
      if key ∈ links.map Prod.fst
        then (store.live key).idle.reverse.map fun object => (key, object) else [] := by
  have hheld : store.heldUnder links = (links.map Prod.fst).flatMap fun place =>
      (store.live place).idle.reverse.map fun object => (place, object) := by
    rw [List.flatMap_map]
    rfl
  rw [hheld, filter_tagged (fun place => (store.live place).idle.reverse) nodup]

/-- The first slot is emptied and pruned, and then the others. -/
theorem drainLinks_cons (key : κ) (id : SlotId) (rest : List (κ × SlotId)) :
    store.drainLinks ((key, id) :: rest) =
      (((store.slot id).idle.reverse.map fun object => (key, object)) ++
        (((store.update id Slot.emptied).prune key).2.drainLinks rest).1,
      (((store.update id Slot.emptied).prune key).2.drainLinks rest).2) := rfl

/-- Emptying the slots of some links takes out what they hold and leaves everything else. -/
theorem drainLinks_spec (sound : store.Sound) (links : List (κ × SlotId))
    (nodup : (links.map Prod.fst).Nodup)
    (linked : ∀ link ∈ links, store.find? link.1 = some link.2) :
    (store.drainLinks links).1 = store.heldUnder links ∧
    Becomes store (store.drainLinks links).2 (fun key =>
      if key ∈ links.map Prod.fst then (store.live key).emptied else store.live key) ∧
    ∀ key, store.find? key = none → (store.drainLinks links).2.find? key = none := by
  induction links generalizing store with
  | nil => exact ⟨rfl, by simpa [drainLinks] using Becomes.refl sound, fun _ h => h⟩
  | cons link rest ih =>
    obtain ⟨key, id⟩ := link
    obtain ⟨hnew, hrest⟩ := List.nodup_cons.mp nodup
    have hid : store.find? key = some id := linked _ List.mem_cons_self
    have hne : ∀ link ∈ rest, link.1 ≠ key := fun link hlink heq =>
      hnew (List.mem_map.mpr ⟨link, hlink, heq⟩)
    have htaken := becomes_update sound hid Slot.emptied (sound.live_current key)
    have hfirst := htaken.prune key
    have hfind := find?_prune htaken.sound key
    rw [drainLinks_cons]
    -- from here on, the store whose first slot has been emptied and perhaps unlinked
    generalize ((store.update id Slot.emptied).prune key).2 = first at hfirst hfind ⊢
    have hlive : ∀ other, other ≠ key → first.live other = store.live other := fun other hother =>
      (hfirst.live_eq other).trans (Function.update_of_ne hother _ _)
    have hlinked : ∀ link ∈ rest, first.find? link.1 = some link.2 := by
      intro link hlink
      rw [hfind, if_neg fun h => hne link hlink h.1]
      exact linked link (List.mem_cons_of_mem _ hlink)
    obtain ⟨hobjects, hbecomes, hclosed⟩ := ih hfirst.sound hrest hlinked
    refine ⟨?_, ?_, ?_⟩
    · have hsame : first.heldUnder rest = store.heldUnder rest :=
        List.flatMap_congr fun link hlink => by rw [hlive _ (hne link hlink)]
      rw [hobjects, hsame, ← live_of_find? hid]
      rfl
    · have hview : (fun other => if other ∈ rest.map Prod.fst
            then (first.live other).emptied else first.live other) =
          fun other => if other ∈ ((key, id) :: rest).map Prod.fst
            then (store.live other).emptied else store.live other := by
        funext other
        by_cases hkey : other = key
        · subst hkey
          rw [if_neg hnew, hfirst.live_eq, Function.update_self]
          exact (if_pos List.mem_cons_self).symm
        · simp only [hlive other hkey, List.map_cons, List.mem_cons, hkey, false_or]
      rw [← hview]
      exact hfirst.trans hbecomes hclosed
    · intro other hother
      apply hclosed other
      rw [hfind]
      split
      · rfl
      · exact hother

/-- A key that is not among the links holds nothing. -/
theorem live_of_not_mem_links {key : κ} (h : key ∉ store.links.map Prod.fst) :
    store.live key = {} :=
  live_of_find?_none <| (find?_eq_none_iff store).mpr fun link hlink heq =>
    h (List.mem_map.mpr ⟨link, hlink, heq⟩)

/-! ## Emptying all keys -/

/-- A store goes through all its links, in whatever order. -/
theorem walked_perm (store : Store κ ω) : store.walked.Perm store.links := store.walk.perm _ _

/-- No key is met twice. -/
theorem walked_nodup (sound : store.Sound) : (store.walked.map Prod.fst).Nodup :=
  (store.walked_perm.map Prod.fst).nodup_iff.mpr sound.keys_nodup

/-- Every link that is met belongs to the key that it is met with. -/
theorem find?_of_walked (sound : store.Sound) {link : κ × SlotId} (h : link ∈ store.walked) :
    store.find? link.1 = some link.2 := sound.find?_of_mem (store.walked_perm.mem_iff.mp h)

/-- A key that is not met has nothing. -/
theorem live_of_not_walked {key : κ} (h : key ∉ store.walked.map Prod.fst) :
    store.live key = {} :=
  live_of_not_mem_links fun hlinked => h ((store.walked_perm.map Prod.fst).mem_iff.mpr hlinked)

/-- What is taken out when all keys are emptied, in the order of the walk. -/
theorem drainAll_eq (sound : store.Sound) : store.drainAll.1 = store.heldUnder store.walked :=
  (drainLinks_spec sound store.walked (walked_nodup sound) fun _ => find?_of_walked sound).1

/-- When all keys are emptied, nothing else changes, in whatever order they are met. -/
theorem becomes_drainAll (sound : store.Sound) :
    Becomes store store.drainAll.2 fun key => (store.live key).emptied := by
  obtain ⟨-, hbecomes, -⟩ := drainLinks_spec sound store.walked (walked_nodup sound)
    fun _ => find?_of_walked sound
  have hview : (fun key => if key ∈ store.walked.map Prod.fst
      then (store.live key).emptied else store.live key) =
      fun key => (store.live key).emptied := by
    funext key
    split
    · rfl
    · next h =>
      rw [live_of_not_walked h]
      rfl
  rw [← hview]
  exact hbecomes

/-- Of all that is taken out, what was taken out under one key is what that key had. -/
theorem filter_drainAll (sound : store.Sound) (key : κ) :
    store.drainAll.1.filter (fun entry => entry.1 = key) =
      (store.live key).idle.reverse.map fun object => (key, object) := by
  rw [drainAll_eq sound, filter_heldUnder _ (walked_nodup sound)]
  split
  · rfl
  · next h =>
    rw [live_of_not_walked h]
    rfl

/-! ## Sums over the slots -/

/-- The keys that have a slot. -/
def keys (store : Store κ ω) : Finset κ := (store.links.map Prod.fst).toFinset

/-- A sum over the slots that are linked is the sum over any keys that include those linked. -/
theorem sum_slots {M : Type} [AddCommMonoid M] (sound : store.Sound) (measure : Slot ω → M)
    (vacant : measure {} = 0) {keys : Finset κ} (all : store.keys ⊆ keys) :
    (store.links.map fun link => measure (store.slot link.2)).sum =
      ∑ key ∈ keys, measure (store.live key) := by
  have hlinks : (store.links.map fun link => measure (store.slot link.2)) =
      (store.links.map Prod.fst).map fun key => measure (store.live key) := by
    rw [List.map_map]
    apply List.map_congr_left
    intro link hlink
    rw [Function.comp_apply, live_of_find? (sound.find?_of_mem hlink)]
  rw [hlinks, ← List.sum_toFinset _ sound.keys_nodup]
  apply Finset.sum_subset all
  intro key _ hkey
  have hunlinked : key ∉ store.links.map Prod.fst := fun h => hkey (List.mem_toFinset.mpr h)
  rw [live_of_not_mem_links hunlinked, vacant]

/-! ## Sealing -/

/-- A sealed store has the slots and the links that it had. -/
theorem sound_sealUp (sound : store.Sound) : store.sealUp.2.Sound :=
  ⟨⟨sound.keys_nodup, sound.ids_nodup, sound.linked_lt, sound.linked_current,
    sound.unlinked_retired⟩, sound.retired_vacant⟩

/-- Sealing changes nothing that the keys hold. -/
theorem becomes_sealUp (sound : store.Sound) : Becomes store store.sealUp.2 store.live :=
  ⟨sound_sealUp sound, fun _ => rfl, fun _ _ h => .inl h, fun _ _ h => h⟩

end ResourcePool.Store
