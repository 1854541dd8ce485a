import Mathlib.Data.PFun
import ResourcePool.Proofs.Store.Traffic

/-!
# Looking a slot up again

A reservation and a deposit look up the slot of a key and look again if the slot that they found is
retired. Nothing in such a loop counts down: it ends because no key leads to a retired slot. That
holds whatever a store has been asked for before, also when a slot that was unlinked long ago has
been given loans, reservations and resources since, so that it is retired and not vacant.

* `untilDecided` — a loop that may have no end, with the number of its looks; `reserveLoop` and
  `depositLoop` are the two loops of a store.
* `untilDecided_eq` — in any store at all, a loop ends at its first look or never; from it
  `reserveLoop_eq` and `depositLoop_eq`.
* `Store.Steps` — what a store can be asked for, in any order and with any slot; `Tidy.perform` and
  `Tidy.drainLinks` are one step, and `Leads.tidy` and `Leads.precedes` a run of steps.
* `decided_at_first_look` — **every look decides**.
-/

set_option linter.unusedSectionVars false

namespace ResourcePool

/-! ## Loops -/

section loops

variable {σ α : Type}

/-- **Looks until a look decides**, each time at what the look before has left behind. The result
comes with the number of looks, and there is none if the loop has no end. -/
def untilDecided (look : σ → Option α) (leaves : σ → σ) : σ × Nat →. Nat × α :=
  PFun.fix fun found =>
    match look found.1 with
    | some result => .some (.inl (found.2 + 1, result))
    | none => .some (.inr (leaves found.1, found.2 + 1))

variable {look : σ → Option α} {leaves : σ → σ} {state : σ}

/-- A loop ends at a look that decides. -/
theorem untilDecided_of_some {result : α} (decides : look state = some result) (looks : Nat) :
    untilDecided look leaves (state, looks) = .some (looks + 1, result) := by
  apply Part.eq_some_iff.mpr
  apply PFun.fix_stop
  simp [decides]

/-- A look that neither decides nor changes anything is repeated for ever. -/
theorem untilDecided_of_none (undecided : look state = none) (same : leaves state = state)
    (looks : Nat) : untilDecided look leaves (state, looks) = .none := by
  apply Part.eq_none_iff.mpr
  intro result hresult
  -- a result comes from a look at another state, and before that look there is no other
  have hother : (state, looks).1 ≠ state := by
    refine PFun.fixInduction' (C := fun found => found.1 ≠ state) hresult ?_ ?_
    · rintro found hdecides rfl
      simp [undecided] at hdecides
    · rintro found next - hnext ih rfl
      simp only [undecided, Part.mem_some_iff, Sum.inr.injEq] at hnext
      apply ih
      rw [hnext]
      exact same
  exact hother rfl

end loops

variable {κ ω : Type} [DecidableEq κ]

namespace Store

/-- Reserves room for one borrow of a key, looking again while the slot found is retired. -/
def reserveLoop (store : Store κ ω) (key : κ) (limit : Option Nat) :
    Part (Nat × (Option SlotId × Store κ ω)) :=
  untilDecided (fun found => found.reservePass key limit) (fun found => (found.openSlot key).2)
    (store, 0)

/-- Puts a fresh resource among the idle ones of a key, looking again while the slot found is
retired. -/
def depositLoop (store : Store κ ω) (key : κ) (object : ω) :
    Part (Nat × (Admission ω × Store κ ω)) :=
  untilDecided (fun found => found.depositPass key object) (fun found => (found.openSlot key).2)
    (store, 0)

section endings

variable (store : Store κ ω)

/-- What is found in the slot that is looked up is what the key has. -/
theorem slot_opened (key : κ) :
    (store.openSlot key).2.slot (store.openSlot key).1 = store.live key := by
  rw [slot_openSlot]
  cases hfind : store.find? key with
  | some id => simp [openSlot, hfind, live_of_find? hfind]
  | none => simp [openSlot, hfind, live_of_find?_none hfind, slot]

/-- A slot that is found retired has been there before. -/
theorem openSlot_of_retired {key : κ} (retired : (store.live key).retired = true) :
    (store.openSlot key).2 = store := by
  cases hfind : store.find? key with
  | some id => simp [openSlot, hfind]
  | none =>
    rw [live_of_find?_none hfind] at retired
    cases retired

/-- A loop whose looks decide exactly at a slot in use ends at the first look or never: a retired
slot is found again and again, since nobody else is there to unlink it. -/
theorem untilDecided_eq {α : Type} {look : Store κ ω → Option α} {result : α} (key : κ)
    (undecided : (store.live key).retired = true → look store = none)
    (decides : (store.live key).retired = false → look store = some result) :
    untilDecided look (fun found => (found.openSlot key).2) (store, 0) =
      if (store.live key).retired then .none else .some (1, result) := by
  cases hretired : (store.live key).retired with
  | true =>
    rw [if_pos rfl]
    exact untilDecided_of_none (undecided hretired) (store.openSlot_of_retired hretired) 0
  | false =>
    rw [if_neg Bool.false_ne_true]
    exact untilDecided_of_some (decides hretired) 0

/-- **The loop of a reservation ends at the first look or never**, by the slot of the key. -/
theorem reserveLoop_eq (key : κ) (limit : Option Nat) :
    store.reserveLoop key limit =
      if (store.live key).retired then .none else .some (1, store.reserve key limit) := by
  have hslot := store.slot_opened key
  apply untilDecided_eq
  · intro hretired
    simp [reservePass, hslot, hretired]
  · intro hcurrent
    simp only [reserve, reservePass, hslot, hcurrent, Bool.false_eq_true, if_false]
    split <;> rfl

/-- **The loop of a deposit ends at the first look or never**, by the slot of the key. -/
theorem depositLoop_eq (key : κ) (object : ω) :
    store.depositLoop key object =
      if (store.live key).retired then .none else .some (1, store.deposit key object) := by
  have hslot := store.slot_opened key
  apply untilDecided_eq
  · intro hretired
    simp [depositPass, hslot, hretired]
  · intro hcurrent
    simp [deposit, depositPass, hslot, hcurrent]

end endings

/-! ## One step -/

section steps

variable {store : Store κ ω}

/-- Opening a slot for a key without one keeps a store tidy. -/
theorem Tidy.openSlot (tidy : store.Tidy) (key : κ) : (store.openSlot key).2.Tidy := by
  cases hfind : store.find? key with
  | some id =>
    have heq : store.openSlot key = (id, store) := by simp [Store.openSlot, hfind]
    rw [heq]
    exact tidy
  | none => exact tidy_openSlot tidy hfind

/-- Reserving keeps a store tidy, whether or not there is room. -/
theorem Tidy.reserve (tidy : store.Tidy) (key : κ) (limit : Option Nat) :
    (store.reserve key limit).2.Tidy := by
  have hopen := tidy.openSlot key
  simp only [Store.reserve, reservePass]
  split
  · exact tidy
  · split
    · exact hopen
    · exact tidy_update hopen rfl

/-- So does offering a resource to a slot. -/
theorem Tidy.offer (tidy : store.Tidy) (id : SlotId) (object : ω) :
    (store.offer id object).2.Tidy := by
  unfold Store.offer
  split
  · exact tidy
  · split
    · exact tidy
    · exact tidy_update tidy rfl

/-- So does depositing one under a key. -/
theorem Tidy.deposit (tidy : store.Tidy) (key : κ) (object : ω) :
    (store.deposit key object).2.Tidy := by
  simp only [Store.deposit, depositPass]
  split
  · exact tidy
  · exact (tidy.openSlot key).offer _ object

/-- So does checking one in. -/
theorem Tidy.checkIn (tidy : store.Tidy) (id : SlotId) (object : ω) :
    (store.checkIn id object).2.Tidy := by
  unfold Store.checkIn
  split
  · exact tidy
  · exact (tidy_update tidy rfl).offer id object

/-- So does taking one out. -/
theorem Tidy.take (tidy : store.Tidy) (id : SlotId) : (store.take id).2.Tidy := by
  unfold Store.take
  split
  · next object rest htake =>
    obtain ⟨-, hrest⟩ := Slot.take?_eq_some htake
    have hsame : rest.retired = (store.slot id).retired := by rw [hrest]
    exact tidy_update tidy hsame
  · exact tidy

/-- A slot is retired and unlinked in one go, so that a linked one is in use before and after. -/
theorem Tidy.prune (tidy : store.Tidy) (key : κ) : (store.prune key).2.Tidy := by
  cases hid : store.find? key with
  | none =>
    have hsame : (store.prune key).2 = store := by simp [Store.prune, hid]
    rw [hsame]
    exact tidy
  | some id =>
    cases hvacant : (store.slot id).isVacant with
    | true =>
      rw [prune_of_vacant hid hvacant]
      exact tidy_unlink tidy hid hvacant
    | false =>
      rw [prune_of_held hid (tidy.current_of_find? hid) hvacant]
      exact tidy

/-- The keys may be walked in any order, and the slots need not be theirs any more. -/
theorem Tidy.drainLinks (tidy : store.Tidy) (links : List (κ × SlotId)) :
    (store.drainLinks links).2.Tidy := by
  induction links generalizing store with
  | nil => exact tidy
  | cons link rest ih =>
    rw [drainLinks_cons]
    exact ih ((tidy_update tidy rfl).prune link.1)

/-- Emptying a key keeps a store tidy: a slot is unlinked just when it is retired. -/
theorem Tidy.drain (tidy : store.Tidy) (key : κ) : (store.drain key).2.Tidy := by
  unfold Store.drain
  split
  · exact tidy
  · exact (tidy_update tidy rfl).prune key

/-- **Links and slots fit together after every call**, whatever slot it is made with. -/
theorem Tidy.perform (tidy : store.Tidy) (call : Call κ ω) : (store.perform call).2.Tidy := by
  cases call with
  | reserve key limit => exact tidy.reserve key limit
  | existing key => exact tidy
  | commit id => exact tidy_update tidy rfl
  | cancel id => exact tidy_update tidy rfl
  | release id => exact tidy_update tidy rfl
  | checkIn id object => exact tidy.checkIn id object
  | deposit key object => exact tidy.deposit key object
  | take id => exact tidy.take id
  | prune key => exact tidy.prune key
  | drain key => exact tidy.drain key
  | drainAll => exact tidy.drainLinks _
  | sealUp =>
    exact ⟨tidy.keys_nodup, tidy.ids_nodup, tidy.linked_lt, tidy.linked_current,
      tidy.unlinked_retired⟩

end steps

/-! ## All steps together -/

/-- **What can happen to a store**: any call with any key and any slot, and all keys may be emptied
in any order. Nothing is asked of how reservations and loans are taken up. -/
inductive Steps (store : Store κ ω) : Store κ ω → Prop
  | call (call : Call κ ω) : Steps store (store.perform call).2
  | sweep {links : List (κ × SlotId)} (same : links.Perm store.links) :
      Steps store (store.drainLinks links).2

/-- More steps lead from one store to the other. -/
def Leads : Store κ ω → Store κ ω → Prop := Relation.ReflTransGen Steps

variable {store next : Store κ ω}

/-- A tidy store stays tidy, by induction on the steps. -/
theorem Leads.tidy (leads : Leads store next) (tidy : store.Tidy) : next.Tidy := by
  induction leads with
  | refl => exact tidy
  | tail _ step ih =>
    cases step with
    | call call => exact ih.perform call
    | sweep _ => exact ih.drainLinks _

/-- No unlinked slot comes back, by induction on the steps. -/
theorem Leads.precedes (leads : Leads store next) : store.Precedes next := by
  induction leads with
  | refl => exact .refl _
  | tail _ step ih =>
    cases step with
    | call call => exact ih.trans (precedes_perform _ call)
    | sweep _ => exact ih.trans (precedes_drainLinks _ _)

/-- Any calls, one after another, are steps. -/
theorem leads_foldl (store : Store κ ω) (calls : List (Call κ ω)) :
    Leads store (calls.foldl (fun state call => (state.perform call).2) store) := by
  induction calls generalizing store with
  | nil => exact .refl
  | cons call rest ih => exact .head (.call call) (ih _)

/-- **Every look decides.** Whatever a store has been asked for, with whatever slots, and however
reservations and loans have been taken up: every key has at most one slot, and that slot is in use;
a slot that has been opened and is linked no more is retired, and it stays retired and is never
linked again; and so a reservation and a deposit are decided by the first slot that they find. -/
theorem decided_at_first_look {selection : Selection} {idleLimit : Option Nat} {walk : Walk κ}
    (leads : Leads { selection := selection, idleLimit := idleLimit, walk := walk } store) :
    (store.links.map Prod.fst).Nodup ∧
    (∀ link ∈ store.links, link.2 < store.slots.length ∧
      (store.slot link.2).retired = false) ∧
    (∀ id < store.slots.length, id ∉ store.links.map Prod.snd → ∀ later, Leads store later →
      (later.slot id).retired = true ∧ id ∉ later.links.map Prod.snd) ∧
    (∀ key limit, store.reserveLoop key limit = .some (1, store.reserve key limit)) ∧
    ∀ key object, store.depositLoop key object = .some (1, store.deposit key object) := by
  have htidy := leads.tidy (sound_empty selection idleLimit walk).toTidy
  refine ⟨htidy.keys_nodup, ?_, ?_, ?_, ?_⟩
  · intro link hlink
    exact ⟨htidy.linked_lt link hlink, htidy.linked_current link hlink⟩
  · intro id hlt hunlinked later hlater
    have hprecedes := hlater.precedes
    have hstill := hprecedes.unlinked hlt hunlinked
    have hretired := (hlater.tidy htidy).unlinked_retired id (hlt.trans_le hprecedes.length_le)
    exact ⟨hretired hstill, hstill⟩
  · intro key limit
    rw [reserveLoop_eq, htidy.live_current key]
    rfl
  · intro key object
    rw [depositLoop_eq, htidy.live_current key]
    rfl

/-- A slot is unlinked and then given loans that nobody reserved: it is retired, a resource is idle
in it, and it is not the one that the next reservation finds. -/
theorem decided_beside_stale_slot :
    ∃ store : Store Nat Char,
      Leads { selection := .fifo, idleLimit := none, walk := .linking } store ∧
      (store.slot 0).retired = true ∧ (store.slot 0).idle = ['a'] ∧
      ∃ found, store.reserveLoop 7 (some 1) = .some (1, some 1, found) := by
  let calls : List (Call Nat Char) :=
    [.reserve 7 none, .cancel 0, .prune 7, .commit 0, .commit 0, .checkIn 0 'a', .deposit 7 'b',
      .cancel 1]
  let store : Store Nat Char := calls.foldl (fun state call => (state.perform call).2)
    { selection := .fifo, idleLimit := none, walk := .linking }
  have hleads : Leads { selection := .fifo, idleLimit := none, walk := .linking } store :=
    leads_foldl _ calls
  have hdecided := (decided_at_first_look hleads).2.2.2.1 7 (some 1)
  refine ⟨store, hleads, by decide, by decide, (store.reserve 7 (some 1)).2, ?_⟩
  rw [hdecided]
  rfl

end Store

end ResourcePool
