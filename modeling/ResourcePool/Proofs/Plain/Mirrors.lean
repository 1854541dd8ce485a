import ResourcePool.Proofs.Plain.Basic
import ResourcePool.Proofs.Pool.Reservations
import ResourcePool.Proofs.Store.Upkeep

/-!
# Stores and plain pools

When a store holds for every key what a plain pool holds, and what each operation of the store makes
of it. A key without a slot and a key with an empty one look the same from here.

* `Store.Mirrors` — the store holds what a plain pool holds, and at most one borrow is in progress.
* `Mirrors.update` — an operation on one key; there is one lemma for each operation that the pool
  uses (`mirrors_reserve`, `mirrors_take`, …).
-/

set_option linter.unusedSectionVars false

namespace ResourcePool

variable {κ ω : Type} [DecidableEq κ]

/-- A slot in use that holds so much, with so many borrows in progress. -/
def Holding.slot (holding : Holding ω) (inFlight : Nat) : Slot ω where
  idle := holding.idle
  active := holding.active
  inFlight := inFlight

namespace Store

/-- **The store holds what a plain pool holds.** Of the borrows only the given one is in
progress. -/
structure Mirrors (config : Config) (own : Option (Checkout κ)) (holdings : κ → Holding ω)
    (isClosed : Bool) (store : Store κ ω) : Prop where
  sound : store.Sound
  rules_eq : store.rules = (config.selection, config.idleLimit, isClosed)
  live_eq : ∀ key, store.live key = (holdings key).slot (reserved key own)
  holds : ∀ checkout, own = some checkout → store.find? checkout.key = some checkout.slot

/-- There is nothing to hold without a borrow in progress. -/
theorem holds_of_none (store : Store κ ω) (checkout : Checkout κ) (none_eq : none = some checkout) :
    store.find? checkout.key = some checkout.slot := by
  cases none_eq

/-- A new store holds nothing. -/
theorem mirrors_empty (config : Config) (walk : Walk κ) :
    Mirrors config none (fun _ => {}) false
      ({ selection := config.selection, idleLimit := config.idleLimit, walk := walk } :
        Store κ ω) where
  sound := sound_empty config.selection config.idleLimit walk
  rules_eq := rfl
  live_eq _ := rfl
  holds := holds_of_none _

section

variable {config : Config} {own own' : Option (Checkout κ)} {holdings : κ → Holding ω}
  {isClosed : Bool} {store next : Store κ ω}

namespace Mirrors

variable (mirrors : Mirrors config own holdings isClosed store)
include mirrors

/-- The store gives idle resources out as the configuration says. -/
theorem selection_eq : store.selection = config.selection := congrArg Prod.fst mirrors.rules_eq

/-- It keeps as many as the configuration says. -/
theorem idleLimit_eq : store.idleLimit = config.idleLimit :=
  congrArg (fun rules => rules.2.1) mirrors.rules_eq

/-- It is sealed if the plain pool is closed. -/
theorem isSealed_eq : store.isSealed = isClosed :=
  congrArg (fun rules => rules.2.2) mirrors.rules_eq

/-- As much is on loan as in the plain pool. -/
theorem numActive_eq (key : κ) : store.numActive key = (holdings key).active := by
  rw [Store.numActive_eq, mirrors.live_eq]
  rfl

/-- As much is idle. -/
theorem numIdle_eq (key : κ) : store.numIdle key = (holdings key).idle.length := by
  rw [Store.numIdle_eq, mirrors.live_eq]
  rfl

/-- An operation that leaves every key what it has. -/
theorem same (becomes : store.Becomes next store.live) (rules_eq : next.rules = store.rules)
    (holds : ∀ checkout, own = some checkout → next.find? checkout.key = some checkout.slot) :
    Mirrors config own holdings isClosed next where
  sound := becomes.sound
  rules_eq := rules_eq.trans mirrors.rules_eq
  live_eq key := (becomes.live_eq key).trans (mirrors.live_eq key)
  holds := holds

/-- **An operation on one key.** The reservations of other keys stay. -/
theorem update {key : κ} {slot : Slot ω} {holding : Holding ω}
    (becomes : store.Becomes next (Function.update store.live key slot))
    (rules_eq : next.rules = store.rules) (slot_eq : slot = holding.slot (reserved key own'))
    (others : ∀ other, other ≠ key → reserved other own' = reserved other own)
    (holds : ∀ checkout, own' = some checkout → next.find? checkout.key = some checkout.slot) :
    Mirrors config own' (Function.update holdings key holding) isClosed next where
  sound := becomes.sound
  rules_eq := rules_eq.trans mirrors.rules_eq
  live_eq other := by
    rw [becomes.live_eq]
    by_cases hkey : other = key
    · subst hkey
      rw [Function.update_self, Function.update_self, slot_eq]
    · rw [Function.update_of_ne hkey, Function.update_of_ne hkey, mirrors.live_eq,
        others other hkey]
  holds := holds

end Mirrors

/-- An operation on one key, with no borrow in progress. -/
theorem Mirrors.update_free {key : κ} {slot : Slot ω} {holding : Holding ω}
    (mirrors : Mirrors config none holdings isClosed store)
    (becomes : store.Becomes next (Function.update store.live key slot))
    (rules_eq : next.rules = store.rules) (slot_eq : slot = holding.slot 0) :
    Mirrors config none (Function.update holdings key holding) isClosed next :=
  mirrors.update becomes rules_eq slot_eq (fun _ _ => rfl) (holds_of_none next)

/-- Writing back what is there changes nothing. -/
theorem Mirrors.of_update {key : κ}
    (mirrors : Mirrors config own (Function.update holdings key (holdings key)) isClosed store) :
    Mirrors config own holdings isClosed store := by
  rwa [Function.update_eq_self] at mirrors

/-! ## Borrows -/

/-- A borrow has reserved nothing under the other keys. -/
theorem reserved_other {key other : κ} {slot : SlotId} (ne : other ≠ key) :
    reserved other (some ⟨key, slot⟩) = 0 := reserved_of_ne (Ne.symm ne)

/-- A reservation is refused exactly if the loans of the key have reached the limit. -/
theorem mirrors_reserve (mirrors : Mirrors config none holdings isClosed store) (key : κ)
    (limit : Option Nat) :
    (PlainPool.isReached limit (holdings key).active = true ∧
      ∃ next, store.reserve key limit = (none, next) ∧
        Mirrors config none holdings isClosed next) ∨
    (PlainPool.isReached limit (holdings key).active = false ∧
      ∃ slot next, store.reserve key limit = (some slot, next) ∧
        Mirrors config (some ⟨key, slot⟩) holdings isClosed next) := by
  have hlimit : isAtLimit limit (store.live key) =
      PlainPool.isReached limit (holdings key).active := by
    rw [mirrors.live_eq]
    cases limit <;> rfl
  have hrules := rules_reserve store key limit
  rcases reserve_cases mirrors.sound key limit with
    ⟨hfull, hnone, hbecomes⟩ | ⟨hroom, slot, hsome, hfind, hbecomes⟩
  · left
    refine ⟨hlimit.symm.trans hfull, (store.reserve key limit).2, Prod.ext hnone rfl, ?_⟩
    exact mirrors.same hbecomes hrules (holds_of_none _)
  · right
    refine ⟨hlimit.symm.trans hroom, slot, (store.reserve key limit).2, Prod.ext hsome rfl, ?_⟩
    apply Mirrors.of_update
    apply mirrors.update hbecomes hrules
    · rw [mirrors.live_eq, reserved_self ⟨key, slot⟩]
      rfl
    · intro other hother
      exact reserved_other hother
    · rintro checkout ⟨⟩
      exact hfind

/-- Candidates are taken in the order of the selection. -/
theorem take?_slot (selection : Selection) (object : ω) (rest : List ω) (active inFlight : Nat) :
    (Holding.slot ⟨selection.arrange (object :: rest), active⟩ inFlight).take? selection =
      some (object, Holding.slot ⟨selection.arrange rest, active⟩ inFlight) := by
  cases selection with
  | lifo => rfl
  | fifo => simp [Selection.arrange, Slot.take?, Holding.slot]

/-- Arranging twice changes nothing. -/
theorem arrange_arrange (selection : Selection) (objects : List ω) :
    selection.arrange (selection.arrange objects) = objects := by
  cases selection with
  | lifo => rfl
  | fifo => exact List.reverse_reverse objects

section borrow

variable {checkout : Checkout κ}
  (mirrors : Mirrors config (some checkout) holdings isClosed store)
include mirrors

/-- A borrow takes the first of its candidates. -/
theorem mirrors_take {object : ω} {rest : List ω}
    (candidates : config.selection.arrange (holdings checkout.key).idle = object :: rest) :
    ∃ next, store.take checkout.slot = (some object, next) ∧
      Mirrors config (some checkout) (Function.update holdings checkout.key
        { holdings checkout.key with idle := config.selection.arrange rest }) isClosed next := by
  have hid := mirrors.holds checkout rfl
  have hidle : (holdings checkout.key).idle = config.selection.arrange (object :: rest) := by
    rw [← candidates, arrange_arrange]
  have hslot : (store.live checkout.key).take? store.selection =
      some (object, Holding.slot ⟨config.selection.arrange rest, (holdings checkout.key).active⟩
        (reserved checkout.key (some checkout))) := by
    rw [mirrors.live_eq, mirrors.selection_eq, ← take?_slot, ← hidle]
  rcases take_cases mirrors.sound hid with
    ⟨hnone, -⟩ | ⟨taken, left, next, htake, heq, hfind, hnext⟩
  · rw [mirrors.live_eq] at hnone
    have hempty : config.selection.arrange (object :: rest) = [] := hidle.symm.trans hnone
    have := congrArg config.selection.arrange hempty
    rw [arrange_arrange] at this
    cases hs : config.selection <;> simp [hs, Selection.arrange] at this
  · rw [hslot] at htake
    cases htake
    refine ⟨next, heq, ?_⟩
    have hrules := rules_take store checkout.slot
    rw [heq] at hrules
    refine mirrors.update hnext hrules rfl (fun _ _ => rfl) ?_
    rintro own ⟨⟩
    exact hfind

/-- Without candidates nothing is taken. -/
theorem take_of_none (candidates : config.selection.arrange (holdings checkout.key).idle = []) :
    store.take checkout.slot = (none, store) := by
  have hidle : (holdings checkout.key).idle = [] := by
    rw [← arrange_arrange config.selection (holdings checkout.key).idle, candidates]
    cases config.selection <;> rfl
  rcases take_cases mirrors.sound (mirrors.holds checkout rfl) with
    ⟨-, heq⟩ | ⟨object, rest, next, htake, -, -, -⟩
  · exact heq
  · have hperm := (Slot.take?_eq_some htake).1
    have hlive : (store.live checkout.key).idle = [] := by
      rw [mirrors.live_eq]
      exact hidle
    rw [hlive] at hperm
    cases hperm.nil_eq

/-- A reservation that is turned into a loan. -/
theorem mirrors_commit :
    Mirrors config none (Function.update holdings checkout.key
      { holdings checkout.key with active := (holdings checkout.key).active + 1 }) isClosed
      (store.commit checkout.slot) := by
  have hbecomes := becomes_update mirrors.sound (mirrors.holds checkout rfl) Slot.commit
    (mirrors.sound.live_current _)
  refine mirrors.update hbecomes (rules_update _ _ _) ?_ ?_ (holds_of_none _)
  · rw [mirrors.live_eq, reserved_self]
    rfl
  · intro other hother
    exact (reserved_of_ne (Ne.symm hother)).symm

/-- A reservation that is given up. -/
theorem mirrors_cancel :
    Mirrors config none holdings isClosed
      ((store.cancel checkout.slot).prune checkout.key).2 := by
  have hbecomes := (becomes_update mirrors.sound (mirrors.holds checkout rfl) Slot.cancel
    (mirrors.sound.live_current _)).prune checkout.key
  apply Mirrors.of_update
  refine mirrors.update hbecomes (rules_prune _ _) ?_ ?_ (holds_of_none _)
  · rw [mirrors.live_eq, reserved_self]
    rfl
  · intro other hother
    exact (reserved_of_ne (Ne.symm hother)).symm

end borrow

/-! ## Returns and additions -/

section

variable (mirrors : Mirrors config none holdings isClosed store)
include mirrors

/-- A loan that is ended. -/
theorem mirrors_release {key : κ} {id : SlotId} (hid : store.find? key = some id) :
    Mirrors config none (Function.update holdings key
      { holdings key with active := (holdings key).active - 1 }) isClosed
      ((store.release id).prune key).2 := by
  have hbecomes := (becomes_update mirrors.sound hid Slot.release
    (mirrors.sound.live_current _)).prune key
  apply mirrors.update_free hbecomes (rules_prune _ _)
  rw [mirrors.live_eq]
  rfl

/-- A slot is full when the plain pool has no room. -/
theorem isFull_of_mirrors {key : κ} {id : SlotId} (hid : store.find? key = some id) :
    store.isFull id = PlainPool.isReached config.idleLimit (holdings key).idle.length := by
  rw [isFull_eq hid, mirrors.idleLimit_eq, mirrors.live_eq]
  rfl

/-- An open store keeps what is offered exactly if there is room. -/
theorem mirrors_offer (isOpen : isClosed = false) {key : κ} {id : SlotId}
    (hid : store.find? key = some id) (object : ω) :
    (PlainPool.isReached config.idleLimit (holdings key).idle.length = true ∧
      store.offer id object = (.rejected .full object, store)) ∨
    (PlainPool.isReached config.idleLimit (holdings key).idle.length = false ∧
      ∃ next, store.offer id object = (.accepted, next) ∧
        Mirrors config none (Function.update holdings key
          { holdings key with idle := object :: (holdings key).idle }) isClosed next) := by
  have hfull := isFull_of_mirrors mirrors hid
  have hopen : store.isSealed = false := mirrors.isSealed_eq.trans isOpen
  rw [← hfull]
  cases hroom : store.isFull id with
  | true => exact .inl ⟨rfl, by simp [offer, hopen, hroom]⟩
  | false =>
    refine .inr ⟨rfl, _, offer_of_room object hopen hroom, ?_⟩
    have hbecomes := becomes_update mirrors.sound hid (fun slot => slot.push object)
      (mirrors.sound.live_current _)
    apply mirrors.update_free hbecomes (rules_update _ _ _)
    rw [mirrors.live_eq]
    rfl

/-- A loan that ends with the resource kept, or handed back for lack of room. -/
theorem mirrors_checkIn (isOpen : isClosed = false) {key : κ} {id : SlotId}
    (hid : store.find? key = some id) (loaned : (holdings key).active ≠ 0) (object : ω) :
    (PlainPool.isReached config.idleLimit (holdings key).idle.length = true ∧
      ∃ next, store.checkIn id object = (.rejected .full object, next) ∧
        Mirrors config none (Function.update holdings key
          { holdings key with active := (holdings key).active - 1 }) isClosed
          (next.prune key).2) ∨
    (PlainPool.isReached config.idleLimit (holdings key).idle.length = false ∧
      ∃ next, store.checkIn id object = (.accepted, next) ∧
        Mirrors config none (Function.update holdings key
          ⟨object :: (holdings key).idle, (holdings key).active - 1⟩) isClosed next) := by
  have hactive : (store.slot id).active ≠ 0 := by
    rw [← live_of_find? hid, mirrors.live_eq]
    exact loaned
  have hcheckIn : store.checkIn id object = (store.release id).offer id object := by
    simp [checkIn, hactive]
  have hrelease : Mirrors config none (Function.update holdings key
      { holdings key with active := (holdings key).active - 1 }) isClosed (store.release id) := by
    have hbecomes := becomes_update mirrors.sound hid Slot.release (mirrors.sound.live_current _)
    apply mirrors.update_free hbecomes (rules_update _ _ _)
    rw [mirrors.live_eq]
    rfl
  have hid' : (store.release id).find? key = some id := hid
  have hoffer := mirrors_offer hrelease isOpen hid' object
  simp only [Function.update_self, Function.update_idem] at hoffer
  rw [hcheckIn]
  rcases hoffer with ⟨hfull, heq⟩ | ⟨hroom, next, heq, hnext⟩
  · exact .inl ⟨hfull, _, heq, mirrors_release mirrors hid⟩
  · exact .inr ⟨hroom, next, heq, hnext⟩

/-- A fresh resource that is kept, or handed back for lack of room. -/
theorem mirrors_deposit (isOpen : isClosed = false) (key : κ) (object : ω) :
    (PlainPool.isReached config.idleLimit (holdings key).idle.length = true ∧
      ∃ next, store.deposit key object = (.rejected .full object, next) ∧
        Mirrors config none holdings isClosed next) ∨
    (PlainPool.isReached config.idleLimit (holdings key).idle.length = false ∧
      ∃ next, store.deposit key object = (.accepted, next) ∧
        Mirrors config none (Function.update holdings key
          { holdings key with idle := object :: (holdings key).idle }) isClosed next) := by
  have hopened : Mirrors config none holdings isClosed (store.openSlot key).2 :=
    mirrors.same (becomes_openSlot mirrors.sound key) (rules_openSlot _ _) (holds_of_none _)
  have hfind : (store.openSlot key).2.find? key = some (store.openSlot key).1 := by
    rw [find?_openSlot, if_pos rfl]
  rw [deposit_eq mirrors.sound]
  rcases mirrors_offer hopened isOpen hfind object with ⟨hfull, heq⟩ | hroom
  · exact .inl ⟨hfull, _, heq, hopened⟩
  · exact .inr hroom

/-! ## Emptying and sealing -/

/-- Emptying a key takes out the same on both sides. -/
theorem mirrors_drain (key : κ) :
    (store.drain key).1 = (holdings key).idle.reverse ∧
      Mirrors config none (Function.update holdings key (holdings key).emptied) isClosed
        (store.drain key).2 := by
  constructor
  · rw [drain_eq, mirrors.live_eq]
    rfl
  · apply mirrors.update_free (becomes_drain mirrors.sound key) (rules_drain _ _)
    rw [mirrors.live_eq]
    rfl

/-- What slots hold is what there is under those of their keys that have anything idle. -/
theorem heldUnder_of_mirrors (links : List (κ × SlotId)) :
    store.heldUnder links = listed holdings
      ((links.map Prod.fst).filter fun key => !(holdings key).idle.isEmpty) := by
  induction links with
  | nil => rfl
  | cons link rest ih =>
    have hidle : (store.live link.1).idle = (holdings link.1).idle := by
      rw [mirrors.live_eq]
      rfl
    have hcons : store.heldUnder (link :: rest) =
        ((store.live link.1).idle.reverse.map fun object => (link.1, object)) ++
          store.heldUnder rest := rfl
    rw [hcons, ih, hidle, List.map_cons, List.filter_cons]
    cases hempty : (holdings link.1).idle.isEmpty with
    | true => simp [List.isEmpty_iff.mp hempty]
    | false => simp [listed]

/-- The keys with idle resources, in the order in which the store empties them. -/
theorem mirrors_drainAll : ∃ order : List κ, order.Nodup ∧
    (∀ key, key ∈ order ↔ (holdings key).idle ≠ []) ∧
    store.drainAll.1 = listed holdings order ∧
    Mirrors config none (fun key => (holdings key).emptied) isClosed store.drainAll.2 := by
  refine ⟨(store.walked.map Prod.fst).filter fun key => !(holdings key).idle.isEmpty, ?_, ?_, ?_,
    ?_⟩
  · exact (walked_nodup mirrors.sound).filter _
  · intro key
    rw [List.mem_filter]
    constructor
    · rintro ⟨-, hheld⟩
      simpa using hheld
    · intro hheld
      refine ⟨?_, by simpa using hheld⟩
      by_contra hunlinked
      have hlive := mirrors.live_eq key
      rw [live_of_not_walked hunlinked] at hlive
      exact hheld (congrArg Slot.idle hlive).symm
  · exact (drainAll_eq mirrors.sound).trans (heldUnder_of_mirrors mirrors store.walked)
  · have hbecomes := becomes_drainAll mirrors.sound
    refine ⟨hbecomes.sound, (rules_drainAll _).trans mirrors.rules_eq, ?_, holds_of_none _⟩
    intro key
    rw [hbecomes.live_eq, mirrors.live_eq]
    rfl

/-- Sealing closes the plain pool. -/
theorem mirrors_sealUp : Mirrors config none holdings true store.sealUp.2 where
  sound := sound_sealUp mirrors.sound
  rules_eq := by
    simp [rules, sealUp, mirrors.selection_eq, mirrors.idleLimit_eq]
  live_eq := mirrors.live_eq
  holds := holds_of_none _

end

end

end Store

end ResourcePool
