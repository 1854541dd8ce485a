import ResourcePool.Proofs.Store.Upkeep

/-!
# Emptying in any order

All keys are emptied by walking over the links that there were when the walk began, while the links
of keys that have become vacant go away. The walk is the same as emptying the keys one by one, and
emptying one key and emptying another can change places: neither the order of the links nor a key
that comes up twice makes a difference.

* `Store.spend` — what emptying a key makes of its slot and of the links.
* `drain_comm`, `drain_drain` — two keys, and one key twice.
* `Store.drains` — some keys one after another; `drains_perm` is that in any order, and `drains_eq`
  for any list of the keys in use; `live_drains`, `find?_drains` — what is left.
* `live_drains_all`, `linked_drains_all` — what is left when all keys have been emptied.
* `drainLinks_eq_drains` — the walk, and `drainLinks_perm` — the walk in any order.
-/

set_option linter.unusedSectionVars false

namespace ResourcePool

variable {κ ω : Type} [DecidableEq κ]

/-- What emptying makes of a slot: it is retired if nothing else is in it. -/
def Slot.spent (slot : Slot ω) : Slot ω := slot.emptied.retireIfVacant

/-- A slot in which something else is left is emptied and nothing more. -/
theorem Slot.spent_of_held {slot : Slot ω} (held : slot.emptied.isVacant = false) :
    slot.spent = slot.emptied := by
  unfold spent retireIfVacant
  rw [held, Bool.or_false]

namespace Store

/-- A store after the slot of a key has been emptied, and unlinked if nothing else is in it. -/
def spend (store : Store κ ω) (key : κ) (id : SlotId) : Store κ ω :=
  { store.update id Slot.spent with
    links := store.links.filter fun link =>
      !(decide (link.1 = key) && (store.slot id).emptied.isVacant) }

variable {store : Store κ ω} {key other : κ} {id : SlotId}

/-! ## One key and two -/

/-- Emptying a key that has no slot changes nothing. -/
theorem drain_of_unlinked (unlinked : store.find? key = none) : (store.drain key).2 = store := by
  simp [drain, unlinked]

/-- Emptying a key empties its slot and then prunes it. -/
theorem drain_of_linked (hid : store.find? key = some id) :
    (store.drain key).2 = ((store.update id Slot.emptied).prune key).2 := by
  simp only [drain, hid]
  rfl

/-- In a sound store both come at once. -/
theorem drain_eq_spend (sound : store.Sound) (hid : store.find? key = some id) :
    (store.drain key).2 = store.spend key id := by
  have hslot : (store.update id Slot.emptied).slot id = (store.slot id).emptied :=
    slot_update_self store (sound.lt_of_find? hid) _
  have hmarked : (store.update id Slot.emptied).update id Slot.retireIfVacant =
      store.update id Slot.spent := by
    unfold update
    rw [List.modify_modify_eq]
    rfl
  have hretired : (store.slot id).emptied.retireIfVacant.retired =
      (store.slot id).emptied.isVacant := by
    have hcurrent : (store.slot id).emptied.retired = false := sound.current_of_find? hid
    unfold Slot.retireIfVacant
    rw [hcurrent, Bool.false_or]
  have hlinked : (store.update id Slot.emptied).find? key = some id := hid
  rw [drain_of_linked hid]
  unfold prune spend
  rw [hlinked]
  simp only [hslot, hretired, hmarked]
  cases (store.slot id).emptied.isVacant with
  | true => simp
  | false =>
    simp only [Bool.and_false, Bool.not_false, List.filter_true]
    rfl

/-- Emptying a key unlinks it unless something else is under it, and leaves the other links. -/
theorem find?_drain (sound : store.Sound) (key other : κ) :
    (store.drain key).2.find? other =
      if other = key ∧ (store.live key).emptied.isVacant = true then none
      else store.find? other := by
  cases hid : store.find? key with
  | none =>
    rw [drain_of_unlinked hid]
    split
    · next h => rw [h.1, hid]
    · rfl
  | some id =>
    have hempty := becomes_update sound hid Slot.emptied (sound.live_current key)
    rw [drain_of_linked hid, find?_prune hempty.sound, hempty.live_eq, Function.update_self]
    rfl

/-- Emptying one key leaves the other keys their slots. -/
theorem find?_drain_of_ne (sound : store.Sound) (ne : other ≠ key) :
    (store.drain key).2.find? other = store.find? other := by
  rw [find?_drain sound, if_neg fun h => ne h.1]

/-- **Emptying one key and emptying another can change places.** -/
theorem drain_comm (sound : store.Sound) (key other : κ) :
    ((store.drain key).2.drain other).2 = ((store.drain other).2.drain key).2 := by
  by_cases hne : other = key
  · rw [hne]
  have hsound := fun place => (becomes_drain sound place).sound
  have hother := find?_drain_of_ne sound hne
  have hkey := find?_drain_of_ne sound (Ne.symm hne)
  cases hfirst : store.find? key with
  | none =>
    rw [drain_of_unlinked hfirst]
    rw [hfirst] at hkey
    rw [drain_of_unlinked hkey]
  | some first =>
    cases hsecond : store.find? other with
    | none =>
      rw [drain_of_unlinked hsecond]
      rw [hsecond] at hother
      rw [drain_of_unlinked hother]
    | some second =>
      have hslots : first ≠ second := by
        rintro rfl
        exact hne (sound.key_eq_of_find? hsecond hfirst)
      rw [drain_eq_spend (hsound key) (hother.trans hsecond),
        drain_eq_spend (hsound other) (hkey.trans hfirst), drain_eq_spend sound hfirst,
        drain_eq_spend sound hsecond]
      have hleft : (store.spend key first).slot second = store.slot second :=
        slot_update_of_ne store hslots.symm _
      have hright : (store.spend other second).slot first = store.slot first :=
        slot_update_of_ne store hslots _
      have hupdates : (store.slots.modify first Slot.spent).modify second Slot.spent =
          (store.slots.modify second Slot.spent).modify first Slot.spent :=
        List.modify_modify_ne _ _ _ hslots
      unfold spend at hleft hright ⊢
      rw [hleft, hright]
      unfold update
      simp only [hupdates]
      rw [List.filter_comm]

/-- Emptying a key twice is emptying it once. -/
theorem drain_drain (sound : store.Sound) (key : κ) :
    ((store.drain key).2.drain key).2 = (store.drain key).2 := by
  have hbecomes := becomes_drain sound key
  have hfind := find?_drain sound key key
  generalize (store.drain key).2 = next at hbecomes hfind
  cases hid : next.find? key with
  | none => exact drain_of_unlinked hid
  | some id =>
    -- the key has kept its slot, so something else is under it
    have hheld : (store.live key).emptied.isVacant = false := by
      by_contra hvacant
      rw [if_pos ⟨rfl, by simpa using hvacant⟩, hid] at hfind
      cases hfind
    have hslot : next.slot id = (store.live key).emptied := by
      rw [← live_of_find? hid, hbecomes.live_eq, Function.update_self]
    have hspent : (next.slot id).spent = next.slot id := by
      rw [hslot]
      exact Slot.spent_of_held hheld
    rw [drain_eq_spend hbecomes.sound hid]
    unfold spend
    rw [update_eq_self next hspent, hslot]
    have hemptied : (store.live key).emptied.emptied.isVacant = false := hheld
    rw [hemptied]
    simp only [Bool.and_false, Bool.not_false, List.filter_true]

/-! ## Some keys -/

/-- Empties some keys one after another. -/
def drains (store : Store κ ω) (keys : List κ) : Store κ ω :=
  keys.foldl (fun store key => (store.drain key).2) store

/-- Emptying some keys and then others. -/
theorem drains_append (store : Store κ ω) (keys others : List κ) :
    store.drains (keys ++ others) = (store.drains keys).drains others := List.foldl_append

/-- **The order makes no difference**, by induction on the exchanges that lead from one to the
other. -/
theorem drains_perm (sound : store.Sound) {keys others : List κ} (perm : keys.Perm others) :
    store.drains keys = store.drains others := by
  induction perm generalizing store with
  | nil => rfl
  | cons key perm ih => exact ih (becomes_drain sound key).sound
  | swap first second rest =>
    show ((store.drain second).2.drain first).2.drains rest =
      ((store.drain first).2.drain second).2.drains rest
    rw [drain_comm sound]
  | trans first second ih ih' => exact (ih sound).trans (ih' sound)

/-- A key that has been emptied or has no slot need not be emptied any more. -/
theorem drain_drains (sound : store.Sound) {keys : List κ}
    (done : key ∈ keys ∨ store.find? key = none) :
    ((store.drains keys).drain key).2 = store.drains keys := by
  have hlast : ((store.drains keys).drain key).2 = (store.drain key).2.drains keys := by
    have hperm := drains_perm sound (List.perm_append_singleton key keys)
    rw [drains_append] at hperm
    exact hperm
  rcases done with hmem | hunlinked
  · -- the key can be taken to be the first one
    have hfirst := drains_perm sound (List.perm_cons_erase hmem)
    have htwice : (store.drain key).2.drains (key :: keys.erase key) =
        store.drains (key :: keys.erase key) :=
      congrArg (fun next => next.drains (keys.erase key)) (drain_drain sound key)
    rw [hlast, drains_perm (becomes_drain sound key).sound (List.perm_cons_erase hmem), htwice,
      hfirst]
  · rw [hlast, drain_of_unlinked hunlinked]

/-- **Only the keys in use that are emptied make a difference**, and not how often they come up. -/
theorem drains_eq (sound : store.Sound) {keys others : List κ}
    (first : ∀ key ∈ others, key ∈ keys ∨ store.find? key = none)
    (second : ∀ key ∈ keys, key ∈ others ∨ store.find? key = none) :
    store.drains keys = store.drains others := by
  have hdone : ∀ {keys others : List κ}, (∀ key ∈ others, key ∈ keys ∨ store.find? key = none) →
      store.drains (keys ++ others) = store.drains keys := by
    intro keys others done
    induction others generalizing keys with
    | nil => rw [List.append_nil]
    | cons key others ih =>
      have hrest : store.drains (keys ++ others) = store.drains keys :=
        ih fun other hother => done other (List.mem_cons_of_mem _ hother)
      rw [drains_append] at hrest ⊢
      show ((store.drains keys).drain key).2.drains others = store.drains keys
      rw [drain_drains sound (done key List.mem_cons_self), hrest]
  rw [← hdone first, ← hdone second]
  exact drains_perm sound List.perm_append_comm

/-- What the keys have when some of them have been emptied. -/
theorem live_drains (sound : store.Sound) (keys : List κ) (other : κ) :
    (store.drains keys).live other =
      if other ∈ keys then (store.live other).emptied else store.live other := by
  induction keys generalizing store with
  | nil => rfl
  | cons key keys ih =>
    have hbecomes := becomes_drain sound key
    show ((store.drain key).2.drains keys).live other = _
    rw [ih hbecomes.sound, hbecomes.live_eq]
    by_cases hkey : other = key
    · subst hkey
      rw [Function.update_self, if_pos List.mem_cons_self]
      exact ite_self _
    · rw [Function.update_of_ne hkey]
      simp only [List.mem_cons, hkey, false_or]

/-- The slots that the keys have then: a key that has been emptied keeps its slot if something else
is under it. -/
theorem find?_drains (sound : store.Sound) (keys : List κ) (other : κ) :
    (store.drains keys).find? other =
      if other ∈ keys ∧ (store.live other).emptied.isVacant = true then none
      else store.find? other := by
  induction keys generalizing store with
  | nil => simp [drains]
  | cons key keys ih =>
    have hbecomes := becomes_drain sound key
    show ((store.drain key).2.drains keys).find? other = _
    rw [ih hbecomes.sound, hbecomes.live_eq, find?_drain sound]
    by_cases hkey : other = key
    · subst hkey
      rw [Function.update_self]
      have hemptied : (store.live other).emptied.emptied = (store.live other).emptied := rfl
      by_cases hvacant : (store.live other).emptied.isVacant = true <;> simp [hemptied, hvacant]
    · rw [Function.update_of_ne hkey]
      simp only [List.mem_cons, hkey, false_or, false_and, if_false]

/-- Emptying keys one after another keeps a store sound, and no key changes its slot. -/
theorem becomes_drains (sound : store.Sound) (keys : List κ) :
    store.Becomes (store.drains keys) (store.drains keys).live := by
  induction keys generalizing store with
  | nil => exact .refl sound
  | cons key keys ih =>
    have hfirst := becomes_drain sound key
    refine hfirst.trans (ih hfirst.sound) fun other hunlinked => ?_
    show ((store.drain key).2.drains keys).find? other = none
    rw [find?_drains hfirst.sound, hunlinked]
    exact ite_self _

/-- It changes none of the rules of the store. -/
theorem rules_drains (store : Store κ ω) (keys : List κ) :
    (store.drains keys).rules = store.rules := by
  induction keys generalizing store with
  | nil => rfl
  | cons key keys ih => exact (ih _).trans (rules_drain store key)

section all

variable {keys : List κ}

/-- When all keys in use have been emptied, nothing is idle, and the rest is as it was. -/
theorem live_drains_all (sound : store.Sound) (all : ∀ key, store.find? key ≠ none → key ∈ keys)
    (key : κ) : (store.drains keys).live key = (store.live key).emptied := by
  rw [live_drains sound]
  by_cases hkey : key ∈ keys
  · rw [if_pos hkey]
  · have hunlinked : store.find? key = none := by
      by_contra hlinked
      exact hkey (all key hlinked)
    rw [if_neg hkey, live_of_find?_none hunlinked]
    rfl

/-- **The keys that have a slot then** are those that something is on loan of or reserved for. -/
theorem linked_drains_all (sound : store.Sound) (all : ∀ key, store.find? key ≠ none → key ∈ keys)
    (key : κ) : (store.drains keys).find? key ≠ none ↔
      0 < (store.live key).active ∨ 0 < (store.live key).inFlight := by
  have hvacant : (store.live key).emptied.isVacant = true ↔
      (store.live key).active = 0 ∧ (store.live key).inFlight = 0 := by
    rw [Slot.isVacant_iff]
    exact and_iff_right rfl
  rw [find?_drains sound]
  cases hid : store.find? key with
  | none =>
    rw [live_of_find?_none hid]
    simp
  | some id =>
    have hmem : key ∈ keys := all key (by rw [hid]; simp)
    by_cases hheld : (store.live key).emptied.isVacant = true
    · have hnothing := hvacant.mp hheld
      rw [if_pos ⟨hmem, hheld⟩]
      simp [hnothing]
    · have hsomething := mt hvacant.mpr hheld
      rw [if_neg fun h => hheld h.2]
      refine iff_of_true (by simp) ?_
      omega

end all

/-! ## The walk -/

/-- **Walking over links is emptying their keys one by one.** -/
theorem drainLinks_eq_drains (sound : store.Sound) {links : List (κ × SlotId)}
    (nodup : (links.map Prod.fst).Nodup)
    (linked : ∀ link ∈ links, store.find? link.1 = some link.2) :
    (store.drainLinks links).2 = store.drains (links.map Prod.fst) := by
  induction links generalizing store with
  | nil => rfl
  | cons link rest ih =>
    obtain ⟨key, id⟩ := link
    obtain ⟨hnew, hrest⟩ := List.nodup_cons.mp nodup
    rw [drainLinks_cons, ← drain_of_linked (linked (key, id) List.mem_cons_self)]
    apply ih (becomes_drain sound key).sound hrest
    intro link hlink
    have hne : link.1 ≠ key := fun heq => hnew (List.mem_map.mpr ⟨link, hlink, heq⟩)
    rw [find?_drain_of_ne sound hne]
    exact linked link (List.mem_cons_of_mem _ hlink)

/-- **The walk leaves the same store in any order**, and it is the same as emptying any list of keys
one by one in which all keys in use come up. -/
theorem drainLinks_perm (sound : store.Sound) {order : List (κ × SlotId)}
    (perm : order.Perm store.links) {keys : List κ}
    (all : ∀ key, store.find? key ≠ none → key ∈ keys) :
    (store.drainLinks order).2 = store.drains keys := by
  have hnodup : (order.map Prod.fst).Nodup := (perm.map Prod.fst).nodup_iff.mpr sound.keys_nodup
  have hlinked : ∀ link ∈ order, store.find? link.1 = some link.2 := fun link hlink =>
    sound.find?_of_mem (perm.mem_iff.mp hlink)
  rw [drainLinks_eq_drains sound hnodup hlinked]
  apply drains_eq sound
  · intro key _
    by_cases hid : store.find? key = none
    · exact .inr hid
    · obtain ⟨id, hid⟩ := Option.ne_none_iff_exists'.mp hid
      have hlink := perm.mem_iff.mpr (mem_links_of_find? store hid)
      exact .inl (List.mem_map.mpr ⟨(key, id), hlink, rfl⟩)
  · intro key hkey
    obtain ⟨link, hlink, rfl⟩ := List.mem_map.mp hkey
    exact .inl (all link.1 (by rw [hlinked link hlink]; simp))

end Store

end ResourcePool
