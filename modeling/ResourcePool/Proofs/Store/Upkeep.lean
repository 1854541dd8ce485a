import ResourcePool.Proofs.Store.Effects

/-!
# What the operations of a store leave behind

A slot is there for what is under its key, and a sealed store is there to be emptied. This module
follows both through every operation of a store.

* `Store.IsSpare` — a key has a slot, and nothing is in it.
* `Store.Spent` — once the store is sealed, nothing is idle in it.
* `Store.Tended` — what an operation leaves behind: the seal stays, a spent store stays spent, and
  a key is spare only if it was before or if it is among the given ones. Operations can be put in a
  row (`Tended.trans`).
* `tended_of_held`, `tended_of_prune` — the two ways in which an operation on one key keeps order:
  something is under the key after it, or the key is unlinked.
* `tended_reserve`, `tended_deposit` — the two operations that open a slot, and when they leave it
  with nothing in it; all others leave no spare key behind.
-/

set_option linter.unusedSectionVars false

namespace ResourcePool.Store

variable {κ ω : Type} [DecidableEq κ]

/-- A key has a slot with nothing in it. -/
def IsSpare (store : Store κ ω) (key : κ) : Prop :=
  (store.find? key).isSome = true ∧ (store.live key).isVacant = true

/-- Nothing is idle in the store if it is sealed. -/
def Spent (store : Store κ ω) : Prop :=
  store.isSealed = true → ∀ key, (store.live key).idle = []

/-! ## Rules -/

/-- What a store goes by: which idle resource it gives out, how many it keeps, and whether it is
sealed. -/
def rules (store : Store κ ω) : Selection × Option Nat × Bool :=
  (store.selection, store.idleLimit, store.isSealed)

section rules

variable (store : Store κ ω)

/-- Changing a slot changes no rule. -/
@[simp] theorem rules_update (id : SlotId) (change : Slot ω → Slot ω) :
    (store.update id change).rules = store.rules := rfl

/-- Neither does opening one. -/
@[simp] theorem rules_openSlot (key : κ) : (store.openSlot key).2.rules = store.rules := by
  unfold openSlot
  split <;> rfl

/-- Nor does pruning a key. -/
@[simp] theorem rules_prune (key : κ) : (store.prune key).2.rules = store.rules := by
  unfold prune
  split
  · rfl
  · simp only
    split <;> rfl

/-- A reservation changes no rule. -/
@[simp] theorem rules_reserve (key : κ) (limit : Option Nat) :
    (store.reserve key limit).2.rules = store.rules := by
  simp only [reserve, reservePass]
  split
  · rfl
  · split <;> simp

/-- Neither does taking a resource. -/
@[simp] theorem rules_take (id : SlotId) : (store.take id).2.rules = store.rules := by
  unfold take
  split <;> rfl

/-- Nor does offering one to a slot. -/
@[simp] theorem rules_offer (id : SlotId) (object : ω) :
    (store.offer id object).2.rules = store.rules := by
  unfold offer
  split
  · rfl
  · split <;> rfl

/-- Checking a resource in changes no rule. -/
@[simp] theorem rules_checkIn (id : SlotId) (object : ω) :
    (store.checkIn id object).2.rules = store.rules := by
  unfold checkIn
  split
  · rfl
  · simp [release]

/-- Neither does depositing one. -/
@[simp] theorem rules_deposit (key : κ) (object : ω) :
    (store.deposit key object).2.rules = store.rules := by
  simp only [deposit, depositPass]
  split
  · rfl
  · simp

/-- Emptying a key changes no rule. -/
@[simp] theorem rules_drain (key : κ) : (store.drain key).2.rules = store.rules := by
  unfold drain
  split
  · rfl
  · simp [takeAll]

/-- Neither does emptying along any links. -/
@[simp] theorem rules_drainLinks (links : List (κ × SlotId)) :
    (store.drainLinks links).2.rules = store.rules := by
  induction links generalizing store with
  | nil => rfl
  | cons link rest ih =>
    rw [drainLinks_cons, ih]
    simp

/-- Nor does emptying all keys. -/
@[simp] theorem rules_drainAll : store.drainAll.2.rules = store.rules := rules_drainLinks _ _

end rules

/-! ## Upkeep -/

/-- **What an operation leaves behind.** It keeps the limit, breaks no seal and puts nothing idle
into a sealed store; and of the keys that were not spare before, only the given ones are. -/
structure Tended (strays : List κ) (store next : Store κ ω) : Prop where
  idleLimit_eq : next.idleLimit = store.idleLimit
  isSealed : store.isSealed = true → next.isSealed = true
  spent : store.Spent → next.Spent
  spare : ∀ key, next.IsSpare key → store.IsSpare key ∨ key ∈ strays

namespace Tended

variable {store next last : Store κ ω} {strays : List κ}

/-- A store that nothing is done to is tended. -/
theorem refl (strays : List κ) (store : Store κ ω) : Tended strays store store where
  idleLimit_eq := rfl
  isSealed := id
  spent := id
  spare _ h := .inl h

/-- Two operations in a row. -/
theorem trans (first : Tended strays store next) (second : Tended strays next last) :
    Tended strays store last where
  idleLimit_eq := second.idleLimit_eq.trans first.idleLimit_eq
  isSealed h := second.isSealed (first.isSealed h)
  spent h := second.spent (first.spent h)
  spare key h := by
    rcases second.spare key h with hbetween | hstray
    · exact first.spare key hbetween
    · exact .inr hstray

/-- What strands no key strands none but the given ones. -/
theorem of_nil (h : Tended [] store next) : Tended strays store next where
  idleLimit_eq := h.idleLimit_eq
  isSealed := h.isSealed
  spent := h.spent
  spare key hspare := .inl ((h.spare key hspare).resolve_right List.not_mem_nil)

end Tended

section

variable {store next : Store κ ω}

/-- An operation that leaves the rules alone and puts nothing idle into a sealed store. -/
theorem tended_of_rules {strays : List κ} (rules_eq : next.rules = store.rules)
    (idle : store.isSealed = true →
      ∀ key, (store.live key).idle = [] → (next.live key).idle = [])
    (spare : ∀ key, next.IsSpare key → store.IsSpare key ∨ key ∈ strays) :
    Tended strays store next := by
  obtain ⟨-, hlimit, hsealed⟩ : next.selection = store.selection ∧
      next.idleLimit = store.idleLimit ∧ next.isSealed = store.isSealed := by
    simpa [rules] using rules_eq
  refine ⟨hlimit, fun h => hsealed.trans h, ?_, spare⟩
  intro hspent hnext key
  rw [hsealed] at hnext
  exact idle hnext key (hspent hnext key)

/-- What holds a loan, a reservation or an idle resource is not vacant. -/
theorem not_vacant {slot : Slot ω} (h : slot.idle ≠ [] ∨ 0 < slot.active ∨ 0 < slot.inFlight) :
    slot.isVacant = false := by
  apply Bool.eq_false_iff.mpr
  intro hvacant
  obtain ⟨hidle, hactive, hflight⟩ := Slot.isVacant_iff.mp hvacant
  rcases h with h | h | h
  · exact h hidle
  · omega
  · omega

/-- Unlinking leaves the key with no spare slot, and the other keys as they are. -/
theorem isSpare_prune (sound : store.Sound) {key other : κ} (h : (store.prune key).2.IsSpare other) :
    other ≠ key ∧ store.IsSpare other := by
  obtain ⟨hlinked, hvacant⟩ := h
  rw [(becomes_prune sound key).live_eq] at hvacant
  rw [find?_prune sound] at hlinked
  split at hlinked
  · cases hlinked
  · next hkept =>
    refine ⟨?_, hlinked, hvacant⟩
    rintro rfl
    exact hkept ⟨rfl, hvacant⟩

/-- Pruning puts nothing in and strands no key. -/
theorem tended_prune (sound : store.Sound) (key : κ) : Tended [] store (store.prune key).2 := by
  apply tended_of_rules (rules_prune _ _)
  · intro _ other hidle
    rwa [(becomes_prune sound key).live_eq]
  · intro other hspare
    exact .inl (isSpare_prune sound hspare).2

/-! ### Operations on one key -/

section

variable {key : κ} {slot : Slot ω} (rules_eq : next.rules = store.rules)
  (links_eq : ∀ other, other ≠ key → next.find? other = store.find? other)
  (becomes : store.Becomes next (Function.update store.live key slot))
  (idle : store.isSealed = true → (store.live key).idle = [] → slot.idle = [])

include becomes

include links_eq in
/-- An operation on one key makes no other key spare. -/
theorem isSpare_of_ne {other : κ} (ne : other ≠ key) (h : next.IsSpare other) :
    store.IsSpare other := by
  obtain ⟨hlinked, hvacant⟩ := h
  rw [becomes.live_eq, Function.update_of_ne ne] at hvacant
  rw [links_eq other ne] at hlinked
  exact ⟨hlinked, hvacant⟩

include idle in
/-- An operation on one key puts nothing idle under another. -/
theorem idle_of_update (isSealed : store.isSealed = true) (other : κ)
    (h : (store.live other).idle = []) : (next.live other).idle = [] := by
  rw [becomes.live_eq]
  by_cases hkey : other = key
  · subst hkey
    rw [Function.update_self]
    exact idle isSealed h
  · rwa [Function.update_of_ne hkey]

include rules_eq links_eq idle

/-- **An operation on one key, after which something is under it.** -/
theorem tended_of_held (held : slot.isVacant = false) : Tended [] store next := by
  apply tended_of_rules rules_eq (idle_of_update becomes idle)
  intro other hspare
  left
  refine isSpare_of_ne links_eq becomes ?_ hspare
  rintro rfl
  have hvacant := hspare.2
  rw [becomes.live_eq, Function.update_self, held] at hvacant
  cases hvacant

/-- **An operation on one key, which is unlinked after it if nothing is left there.** -/
theorem tended_of_prune : Tended [] store (next.prune key).2 := by
  apply tended_of_rules ((rules_prune _ _).trans rules_eq)
  · intro hsealed other hidle
    rw [(becomes_prune becomes.sound key).live_eq]
    exact idle_of_update becomes idle hsealed other hidle
  · intro other hspare
    obtain ⟨hne, hbefore⟩ := isSpare_prune becomes.sound hspare
    exact .inl (isSpare_of_ne links_eq becomes hne hbefore)

end

/-- A change of a slot after which something is in it. -/
theorem tended_update (sound : store.Sound) {key : κ} {id : SlotId}
    (hid : store.find? key = some id) {change : Slot ω → Slot ω}
    (current : (change (store.live key)).retired = false)
    (idle : (store.live key).idle = [] → (change (store.live key)).idle = [])
    (held : (change (store.live key)).isVacant = false) :
    Tended [] store (store.update id change) :=
  tended_of_held (rules_update _ _ _) (fun _ _ => rfl) (becomes_update sound hid change current)
    (fun _ => idle) held

/-- A change of a slot that is unlinked after it if nothing is left in it. -/
theorem tended_update_prune (sound : store.Sound) {key : κ} {id : SlotId}
    (hid : store.find? key = some id) {change : Slot ω → Slot ω}
    (current : (change (store.live key)).retired = false)
    (idle : (store.live key).idle = [] → (change (store.live key)).idle = []) :
    Tended [] store ((store.update id change).prune key).2 :=
  tended_of_prune (rules_update _ _ _) (fun _ _ => rfl) (becomes_update sound hid change current)
    fun _ => idle

/-- Taking from a key that is reserved leaves it the reservation. -/
theorem tended_take (sound : store.Sound) {key : κ} {id : SlotId}
    (hid : store.find? key = some id) (held : 0 < (store.live key).inFlight) :
    Tended [] store (store.take id).2 := by
  have hrules := rules_take store id
  have hlinks : ∀ other, (store.take id).2.find? other = store.find? other := by
    intro other
    unfold take
    split <;> rfl
  rcases take_cases sound hid with ⟨-, heq⟩ | ⟨object, rest, next, htake, heq, -, hbecomes⟩
  · rw [heq]
    exact .refl _ _
  · obtain ⟨hperm, hrest⟩ := Slot.take?_eq_some htake
    rw [heq] at hrules hlinks ⊢
    apply tended_of_held hrules (fun other _ => hlinks other) hbecomes
    · intro _ hidle
      rw [hidle] at hperm
      cases hperm.nil_eq
    · refine not_vacant (.inr (.inr ?_))
      rw [hrest]
      exact held

/-! ### Operations that open a slot -/

/-- The keys that a reservation leaves spare: under a limit of zero it opens a slot to no end. -/
def straysOfReserve (key : κ) (limit : Option Nat) : List κ := if limit = some 0 then [key] else []

/-- The keys that are left spare when an addition comes to put its resource down: where there is no
room for a single one it opens a slot to no end. -/
def straysOfDeposit (store : Store κ ω) (key : κ) : List κ :=
  if store.isSealed = true ∨ store.idleLimit = some 0 then [key] else []

/-- A slot that was opened and left as it was makes at most its key spare. -/
theorem tended_openSlot (sound : store.Sound) {key : κ} {strays : List κ}
    (vacant : (store.live key).isVacant = true → key ∈ strays) :
    Tended strays store (store.openSlot key).2 := by
  have hbecomes := becomes_openSlot sound key
  apply tended_of_rules (rules_openSlot _ _)
  · intro _ other hidle
    rwa [hbecomes.live_eq]
  · rintro other ⟨hlinked, hvacant⟩
    rw [hbecomes.live_eq] at hvacant
    rw [find?_openSlot] at hlinked
    split at hlinked
    · next hkey =>
      subst hkey
      exact .inr (vacant hvacant)
    · exact .inl ⟨hlinked, hvacant⟩

/-- A refused reservation has opened a slot and done nothing else. -/
theorem reserve_refused (sound : store.Sound) {key : κ} {limit : Option Nat}
    (full : isAtLimit limit (store.live key) = true) :
    store.reserve key limit = (none, (store.openSlot key).2) := by
  have hopen := becomes_openSlot sound key
  have hslot : (store.openSlot key).2.slot (store.openSlot key).1 = store.live key := by
    rw [← hopen.live_eq, live_of_find? (by rw [find?_openSlot, if_pos rfl])]
  simp [reserve, reservePass, hslot, sound.live_current key, full]

/-- A reservation leaves the other keys their slots. -/
theorem find?_reserve_of_ne {key other : κ} (ne : other ≠ key) (limit : Option Nat) :
    (store.reserve key limit).2.find? other = store.find? other := by
  simp only [reserve, reservePass]
  split
  · rfl
  · split <;> simp [find?_openSlot, ne]

/-- A reservation leaves its key spare only under a limit of zero. -/
theorem tended_reserve (sound : store.Sound) (key : κ) (limit : Option Nat) :
    Tended (straysOfReserve key limit) store (store.reserve key limit).2 := by
  rcases reserve_cases sound key limit with ⟨hfull, -, -⟩ | ⟨-, id, -, -, hbecomes⟩
  · rw [reserve_refused sound hfull]
    apply tended_openSlot sound
    intro hvacant
    -- a full key with nothing under it has a limit of zero
    obtain ⟨-, hactive, hflight⟩ := Slot.isVacant_iff.mp hvacant
    cases limit with
    | none => simp [isAtLimit] at hfull
    | some most => simpa [isAtLimit, hactive, hflight, straysOfReserve] using hfull
  · apply Tended.of_nil
    apply tended_of_held (rules_reserve store key limit) _ hbecomes (fun _ h => h)
    · exact not_vacant (.inr (.inr (Nat.succ_pos _)))
    · intro other hne
      exact find?_reserve_of_ne hne limit

/-- What is offered to a slot that may not keep it is handed back. -/
theorem offer_of_full {id : SlotId} (object : ω)
    (h : store.isSealed = true ∨ store.isFull id = true) :
    ∃ reason, store.offer id object = (.rejected reason object, store) := by
  unfold offer
  split
  · exact ⟨_, rfl⟩
  · next hopen =>
    rw [if_pos (h.resolve_left hopen)]
    exact ⟨_, rfl⟩

/-- What is offered to a slot that may keep it is kept. -/
theorem offer_of_room {id : SlotId} (object : ω) (isOpen : store.isSealed = false)
    (room : store.isFull id = false) :
    store.offer id object = (.accepted, store.update id fun slot => slot.push object) := by
  simp [offer, isOpen, room]

/-- Whether a slot is full is seen in the view of its key. -/
theorem isFull_eq {key : κ} {id : SlotId} (hid : store.find? key = some id) :
    store.isFull id = store.idleLimit.any fun most => most ≤ (store.live key).idle.length := by
  unfold isFull
  rw [live_of_find? hid]
  cases store.idleLimit <;> rfl

/-- A deposit opens a slot for its key, unless there is one, and offers the resource to it. -/
theorem deposit_eq (sound : store.Sound) (key : κ) (object : ω) :
    store.deposit key object = (store.openSlot key).2.offer (store.openSlot key).1 object := by
  have hfind : (store.openSlot key).2.find? key = some (store.openSlot key).1 := by
    rw [find?_openSlot, if_pos rfl]
  have hcurrent := (becomes_openSlot sound key).sound.current_of_find? hfind
  unfold deposit depositPass
  simp only [hcurrent]
  rfl

/-- An addition leaves its key spare only where not a single resource may be kept. -/
theorem tended_deposit (sound : store.Sound) (key : κ) (object : ω) :
    Tended (store.straysOfDeposit key) store (store.deposit key object).2 := by
  have hopen := becomes_openSlot sound key
  have hfind : (store.openSlot key).2.find? key = some (store.openSlot key).1 := by
    rw [find?_openSlot, if_pos rfl]
  obtain ⟨-, hlimit, hsealed⟩ : (store.openSlot key).2.selection = store.selection ∧
      (store.openSlot key).2.idleLimit = store.idleLimit ∧
      (store.openSlot key).2.isSealed = store.isSealed := by
    simpa [rules] using rules_openSlot store key
  have hfull := isFull_eq hfind
  rw [hlimit, hopen.live_eq] at hfull
  rw [deposit_eq sound]
  by_cases hroom : store.isSealed = true ∨
      (store.openSlot key).2.isFull (store.openSlot key).1 = true
  · obtain ⟨reason, heq⟩ : ∃ reason, (store.openSlot key).2.offer (store.openSlot key).1 object =
        (.rejected reason object, (store.openSlot key).2) :=
      offer_of_full object (hroom.imp_left hsealed.trans)
    rw [heq]
    apply tended_openSlot sound
    intro hvacant
    -- a full key with nothing idle may keep nothing at all
    have hidle := (Slot.isVacant_iff.mp hvacant).1
    unfold straysOfDeposit
    rw [if_pos]
    · exact List.mem_singleton_self _
    · rcases hroom with hseal | hnone
      · exact .inl hseal
      · right
        rw [hfull, hidle] at hnone
        cases hmost : store.idleLimit with
        | none => simp [hmost] at hnone
        | some most => simpa [hmost] using hnone
  · simp only [not_or, Bool.not_eq_true] at hroom
    rw [offer_of_room object (hsealed.trans hroom.1) hroom.2]
    have hbecomes := becomes_update hopen.sound hfind (fun slot => slot.push object)
      (hopen.sound.live_current key)
    rw [funext hopen.live_eq] at hbecomes
    apply Tended.of_nil
    apply tended_of_held _ _ (hopen.trans hbecomes fun _ h => h)
    · intro hseal
      rw [hroom.1] at hseal
      cases hseal
    · exact not_vacant (.inl (List.cons_ne_nil _ _))
    · simp
    · intro other hne
      rw [find?_update, find?_openSlot, if_neg hne]

/-- What may not be kept is handed back, and the slot that was opened for it stays. -/
theorem deposit_of_strays (sound : store.Sound) {key other : κ}
    (stray : other ∈ store.straysOfDeposit key) (object : ω) :
    other = key ∧
      ∃ reason, store.deposit key object = (.rejected reason object, (store.openSlot key).2) := by
  obtain ⟨hnone, hkey⟩ : (store.isSealed = true ∨ store.idleLimit = some 0) ∧ other = key := by
    simpa [straysOfDeposit] using stray
  refine ⟨hkey, ?_⟩
  have hfind : (store.openSlot key).2.find? key = some (store.openSlot key).1 := by
    rw [find?_openSlot, if_pos rfl]
  obtain ⟨-, hlimit, hsealed⟩ := by simpa [rules] using rules_openSlot store key
  rw [deposit_eq sound]
  apply offer_of_full object
  rcases hnone with hseal | hzero
  · exact .inl (hsealed.trans hseal)
  · right
    rw [isFull_eq hfind, hlimit, hzero]
    simp

/-! ### Resources that come back -/

/-- A resource that comes back ends its loan, unless there was none; after that it is kept, or its
key is unlinked if nothing else is there. -/
theorem tended_checkIn (sound : store.Sound) {key : κ} {id : SlotId}
    (hid : store.find? key = some id) (object : ω) :
    (store.checkIn id object = (.rejected .unborrowed object, store)) ∨
    (∃ next, store.checkIn id object = (.accepted, next) ∧ Tended [] store next) ∨
    ∃ reason next, reason ≠ .unborrowed ∧
      store.checkIn id object = (.rejected reason object, next) ∧
        Tended [] store (next.prune key).2 := by
  have hrules := rules_checkIn store id object
  have hlinks : ∀ other, (store.checkIn id object).2.find? other = store.find? other := by
    intro other
    unfold checkIn offer
    repeat' split
    all_goals rfl
  have hsealed : store.isSealed = true → (store.checkIn id object).1 ≠ .accepted := by
    intro hseal
    have hrelease : (store.release id).isSealed = true := hseal
    unfold checkIn offer
    rw [hrelease]
    split <;> simp
  rcases checkIn_cases sound hid object with
    ⟨-, heq⟩ | ⟨-, ⟨reason, next, hreason, heq, hbecomes⟩ | ⟨next, heq, hbecomes⟩⟩
  · exact .inl heq
  · rw [heq] at hrules hlinks
    exact .inr (.inr ⟨reason, next, hreason, heq,
      tended_of_prune hrules (fun other _ => hlinks other) hbecomes fun _ h => h⟩)
  · rw [heq] at hrules hlinks hsealed
    refine .inr (.inl ⟨next, heq, ?_⟩)
    apply tended_of_held hrules (fun other _ => hlinks other) hbecomes
    · intro hseal
      exact absurd rfl (hsealed hseal)
    · exact not_vacant (.inl (List.cons_ne_nil _ _))

/-! ### Emptying -/

/-- Emptying a key puts nothing in and strands no key. -/
theorem tended_drain (sound : store.Sound) (key : κ) : Tended [] store (store.drain key).2 := by
  cases hid : store.find? key with
  | none =>
    have heq : (store.drain key).2 = store := by simp [drain, hid]
    rw [heq]
    exact .refl _ _
  | some id =>
    have heq : (store.drain key).2 = ((store.update id Slot.emptied).prune key).2 := by
      simp only [drain, hid]
      rfl
    rw [heq]
    exact tended_update_prune sound hid (sound.live_current key) fun _ => rfl

/-- The keys whose slots have been emptied are not spare, and no others are that were not. -/
theorem isSpare_drainLinks (sound : store.Sound) (links : List (κ × SlotId))
    (nodup : (links.map Prod.fst).Nodup)
    (linked : ∀ link ∈ links, store.find? link.1 = some link.2) {key : κ}
    (h : (store.drainLinks links).2.IsSpare key) :
    key ∉ links.map Prod.fst ∧ store.IsSpare key := by
  induction links generalizing store with
  | nil => exact ⟨List.not_mem_nil, h⟩
  | cons link rest ih =>
    obtain ⟨first, id⟩ := link
    obtain ⟨hnew, hrest⟩ := List.nodup_cons.mp nodup
    have hid : store.find? first = some id := linked _ List.mem_cons_self
    have htaken := becomes_update sound hid Slot.emptied (sound.live_current first)
    have hlinked : ∀ link ∈ rest,
        ((store.update id Slot.emptied).prune first).2.find? link.1 = some link.2 := by
      intro link hlink
      rw [find?_prune htaken.sound, if_neg]
      · exact linked link (List.mem_cons_of_mem _ hlink)
      · intro hfirst
        exact hnew (List.mem_map.mpr ⟨link, hlink, hfirst.1⟩)
    rw [drainLinks_cons] at h
    obtain ⟨hnotin, hspare⟩ := ih (htaken.prune first).sound hrest hlinked h
    obtain ⟨hne, hbefore⟩ := isSpare_prune htaken.sound hspare
    have hlinks : ∀ other, other ≠ first →
        (store.update id Slot.emptied).find? other = store.find? other := fun _ _ => rfl
    refine ⟨?_, isSpare_of_ne hlinks htaken hne hbefore⟩
    rw [List.map_cons, List.mem_cons, not_or]
    exact ⟨hne, hnotin⟩

/-- **Emptying the store** leaves nothing idle and no key spare. -/
theorem tended_drainAll (sound : store.Sound) :
    Tended [] store store.drainAll.2 ∧ (∀ key, (store.drainAll.2.live key).idle = []) ∧
      ∀ key, ¬store.drainAll.2.IsSpare key := by
  have hempty : ∀ key, (store.drainAll.2.live key).idle = [] := by
    intro key
    rw [(becomes_drainAll sound).live_eq]
    rfl
  have hnone : ∀ key, ¬store.drainAll.2.IsSpare key := by
    intro key hspare
    obtain ⟨hnotin, hlinked, -⟩ := isSpare_drainLinks sound store.walked (walked_nodup sound)
      (fun _ => find?_of_walked sound) hspare
    obtain ⟨id, hid⟩ := Option.isSome_iff_exists.mp hlinked
    have hmet : (key, id) ∈ store.walked :=
      store.walked_perm.mem_iff.mpr (mem_links_of_find? store hid)
    exact hnotin (List.mem_map_of_mem hmet)
  refine ⟨?_, hempty, hnone⟩
  apply tended_of_rules (rules_drainAll _)
  · intro _ key _
    exact hempty key
  · intro key hspare
    exact absurd hspare (hnone key)

end

end ResourcePool.Store
