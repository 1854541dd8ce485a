import ResourcePool.Proofs.Pool.Routes
import ResourcePool.Proofs.Pool.Solvency

/-!
# Possession

No turn of an operation makes two resources out of one. What is idle after it, or in the hands of
the operation, was so before, or has come in with the operation or with the answer to its call.
Nothing is asked of the clients for this, nor of the factory. The resources are counted by a
property of theirs, which may be their name.

* `Store.stock` — how many resources with a property are idle.
* `Stage.carried`, `Progress.carried` — what an operation can still lend or keep.
* `Stage.brought`, `Operation.brought` — what it has in hand when it goes on, or when it starts.
* `Pool.possession_start`, `Pool.possession_resume`, `Pool.possession_close` — no turn adds to that.
-/

set_option linter.unusedSectionVars false

namespace ResourcePool

variable {κ ω ε : Type}

/-! ## What operations have in hand -/

/-- What an operation that waits can still lend or keep, or is to lend in the end. -/
def Stage.carried : Stage κ ω ε → List ω
  | activating _ _ object | validating _ _ object | inspecting _ _ object | passivating _ _ object
  | parking _ _ object => [object]
  | stage => (stage.outcome?.bind Result.lent?).toList

/-- What an operation can still lend or keep after a turn, or has lent. -/
def Progress.carried : Progress κ ω ε → List ω
  | waiting stage => stage.carried
  | finished result => result.lent?.toList

/-- What an operation has in hand when its call has been answered. -/
def Stage.brought : Stage κ ω ε → Answer ω ε → List ω
  | creating .., .done object | creating .., .refused object | making .., .done object
  | making .., .refused object | activating .., .done object | activating .., .refused object
  | passivating .., .done object | passivating .., .refused object | parking .., .done object
  | parking .., .refused object => [object]
  | stage, _ => stage.carried

/-- The resource that an operation takes from its client. -/
def Operation.brought : Operation κ ω → List ω
  | giveBack _ object | invalidate _ object => [object]
  | _ => []

/-- The resource that a deed puts among the idle ones. -/
def Deed.entries : Deed κ ω → List (κ × ω)
  | putBack key object | stow key object => [(key, object)]
  | _ => []

/-- The resource that a deed takes out for the operation. -/
def Deed.candidates : Deed κ ω → List ω
  | take _ object => [object]
  | _ => []

/-- What is taken and what stays is what was idle. -/
theorem Selection.countP_others (has : ω → Bool) {selection : Selection} {idle : List ω}
    {object : ω} (h : selection.next? idle = some object) :
    (selection.others idle).countP has + [object].countP has = idle.countP has := by
  cases selection with
  | lifo =>
    obtain ⟨rest, rfl⟩ := List.head?_eq_some_iff.mp h
    rw [Nat.add_comm]
    exact List.countP_append.symm
  | fifo =>
    obtain ⟨init, rfl⟩ := List.getLast?_eq_some_iff.mp h
    rw [List.countP_append]
    simp [others]

variable [DecidableEq κ]

/-! ## Stock -/

namespace Store

/-- How many resources with a property are idle. -/
def stock (store : Store κ ω) (has : ω → Bool) : Nat :=
  store.total (fun holding => holding.idle.countP has) store.keys

variable {store : Store κ ω} (has : ω → Bool)

/-- The stock can be counted over any keys that include those in use. -/
theorem stock_eq (sound : store.Sound) {keys : Finset κ} (all : store.keys ⊆ keys) :
    store.stock has = store.total (fun holding => holding.idle.countP has) keys := by
  let measure : Holding ω → Nat := fun holding => holding.idle.countP has
  have hvacant : measure (Slot.holding {}) = 0 := rfl
  exact (sum_links sound hvacant (Finset.Subset.refl _)).symm.trans (sum_links sound hvacant all)

/-- No key has more than all keys together. -/
theorem countP_le_stock (sound : store.Sound) (key : κ) :
    (store.live key).idle.countP has ≤ store.stock has := by
  rw [stock_eq has sound (Finset.subset_insert key _)]
  exact Finset.single_le_sum (f := fun key => (store.holding key).idle.countP has)
    (fun _ _ => Nat.zero_le _) (Finset.mem_insert_self key _)

/-- There is no stock where nothing is idle. -/
theorem stock_of_emptied (empty : ∀ key, (store.holding key).idle = []) : store.stock has = 0 := by
  unfold stock total
  apply Finset.sum_eq_zero
  intro key _
  show (store.holding key).idle.countP has = 0
  rw [empty key]
  rfl

end Store

namespace Pool

section turns

variable (pool : Pool κ ω ε) (has : ω → Bool)

/-- **What a deed makes of the stock.** -/
theorem Turn.Does.stocked_le {pool : Pool κ ω ε} {hand : Hand κ ω} {turn : Turn κ ω ε}
    {deed : Deed κ ω} (does : Turn.Does pool hand turn deed) (sound : pool.store.Sound)
    (sound' : turn.1.store.Sound) :
    turn.1.store.stock has + deed.candidates.countP has ≤
      pool.store.stock has + (deed.entries.map Prod.snd).countP has := by
  obtain ⟨keys, hbefore, hafter, habout⟩ := exists_keys deed pool.store turn.1.store
  rw [Store.stock_eq has sound hbefore, Store.stock_eq has sound' hafter]
  apply Deed.total_le does.holding_eq ?_ ?_ habout
  · intro key hkey
    have hfits := does.fits
    cases deed with
    | take place object =>
      cases hkey
      exact Nat.le_of_eq (Selection.countP_others has hfits)
    | putBack place object =>
      simp [Deed.change, Deed.entries, Deed.candidates, List.countP_cons]
    | stow place object =>
      simp [Deed.change, Deed.entries, Deed.candidates, List.countP_cons]
    | _ => simp [Deed.change, Deed.entries, Deed.candidates, Holding.emptied]
  · intro hkey
    cases deed <;> simp_all [Deed.key?, Deed.change, Deed.candidates, Holding.emptied]

/-! ## Hands -/

/-- **What an operation has in hand after a turn**: nothing, or what it had in hand when the turn
began, or a candidate of a borrow. -/
def Carries (brought : List ω) (progress : Progress κ ω ε) : Prop :=
  progress.carried = [] ∨ progress.carried = brought ∨
    ∃ checkout origin object, progress = .waiting (.activating checkout origin object)

/-- Looking for a candidate. -/
theorem carries_tryFresh (brought : List ω) (checkout : Checkout κ) (attempt : Nat) :
    Carries brought (pool.tryFresh checkout attempt).2 := by
  unfold tryFresh
  split <;> exact .inl rfl

/-- A borrow goes on with a candidate that it has just taken out, or with nothing. -/
theorem carries_tryIdle (brought : List ω) (checkout : Checkout κ) :
    Carries brought (pool.tryIdle checkout).2 := by
  unfold tryIdle
  split
  · next object store _ => exact .inr (.inr ⟨checkout, .idle, object, rfl⟩)
  · exact pool.carries_tryFresh brought checkout 1

/-- So it does after a candidate has been discarded. -/
theorem carries_tryNext (brought : List ω) (checkout : Checkout κ) (origin : Origin) :
    Carries brought (pool.tryNext checkout origin).2 := by
  cases origin with
  | idle => exact pool.carries_tryIdle brought checkout
  | fresh attempt => exact pool.carries_tryFresh brought checkout (attempt + 1)

/-- So it does when it starts. -/
theorem carries_borrow (brought : List ω) (key : κ) : Carries brought (pool.borrow key).2 := by
  unfold borrow
  split
  · exact .inl rfl
  · split
    · exact .inl rfl
    · next slot store _ => exact carries_tryIdle _ brought ⟨key, slot⟩

/-- A return goes on with the resource that came back, or only to destroy it. -/
theorem carries_giveBack (key : κ) (object : ω) :
    Carries [object] (pool.giveBack key object).2 := by
  unfold giveBack
  split
  · exact .inl rfl
  split
  · exact .inl rfl
  split
  · exact .inl rfl
  split
  · exact .inr (.inl rfl)
  · exact .inr (.inl rfl)

/-- A return that is settled has nothing more in hand. -/
theorem carried_settle (key : κ) (slot : SlotId) (object : ω) :
    (pool.settle key slot object).2.carried = [] := by
  unfold settle
  split <;> rfl

/-- An addition goes on with nothing in hand. -/
theorem carried_addMore (key : κ) (left : Nat) : (pool.addMore key left).2.carried = [] := by
  cases left with
  | zero => rfl
  | succ left =>
    simp only [addMore]
    split <;> rfl

/-- So it does when its resource is kept or given to be destroyed. -/
theorem carried_park (key : κ) (left : Nat) (object : ω) :
    (pool.park key left object).2.carried = [] := by
  unfold park
  split
  · exact carried_addMore _ key left
  · rfl
  · rfl

/-- What is only destroyed cannot be lent any more; the result may lend something else. -/
theorem carried_sweep (objects : List (κ × ω)) (result : Result ω ε) :
    (pool.sweep objects result).2.carried = result.lent?.toList := by
  cases objects <;> rfl

/-- Clearing a key has nothing in hand that could be lent. -/
theorem carried_clearKey (key : κ) : (pool.clearKey key).2.carried = [] := by
  unfold clearKey
  split
  · rfl
  · exact carried_sweep _ _ .done

/-- Clearing all keys has nothing but its result. -/
theorem carried_clear (result : Result ω ε) :
    (pool.clear result).2.carried = result.lent?.toList := by
  unfold clear
  split
  · rfl
  · exact carried_sweep _ _ result

/-- Closing has nothing but its result, either. -/
theorem carried_close (result : Result ω ε) :
    (pool.close result).2.carried = result.lent?.toList := by
  unfold close
  split
  · rfl
  · exact carried_clear _ result

/-- An operation starts with nothing but what its client gave it, or with a candidate. -/
theorem carries_start (operation : Operation κ ω) :
    Carries operation.brought (pool.start operation).2 := by
  cases operation with
  | borrow key => exact pool.carries_borrow [] key
  | giveBack key object => exact pool.carries_giveBack key object
  | invalidate key object => exact .inl rfl
  | prefill key count => exact .inl (pool.carried_addMore key count)
  | clearKey key => exact .inl (pool.carried_clearKey key)
  | clear => exact .inl (pool.carried_clear .done)
  | close => exact .inl (pool.carried_close .done)

/-- After a destroy an operation has nothing but its result, or a candidate. -/
theorem carries_proceed (key : κ) (sequel : Sequel κ ω ε) :
    Carries (sequel.outcome?.bind Result.lent?).toList (pool.proceed key sequel).2 := by
  cases sequel with
  | nextCandidate checkout origin => exact pool.carries_tryNext _ checkout origin
  | unwind checkout reason => exact .inl rfl
  | conclude result => exact .inr (.inl rfl)
  | sweep rest result => exact .inr (.inl (pool.carried_sweep rest result))
  | addMore left => exact .inl (pool.carried_addMore key left)

/-- An operation goes on with nothing but what it has in hand after the answer, or with a candidate.
-/
theorem carries_resume (stage : Stage κ ω ε) (answer : Answer ω ε) :
    Carries (stage.brought answer) (pool.resume stage answer).2 := by
  cases stage with
  | activating checkout origin object =>
    have hgoes : ∀ changed, Carries [changed] (pool.afterActivation checkout origin changed).2 := by
      intro changed
      unfold afterActivation
      split <;> exact .inr (.inl rfl)
    cases answer with
    | done changed => exact hgoes changed
    | refused changed => exact hgoes changed
    | _ => exact .inl rfl
  | validating checkout origin object =>
    cases answer with
    | done _ => exact .inr (.inl rfl)
    | _ => exact .inl rfl
  | passivating key slot object =>
    cases answer with
    | done changed => exact .inl (pool.carried_settle key slot changed)
    | refused changed => exact .inl (pool.carried_settle key slot changed)
    | _ => exact .inl rfl
  | parking key left object =>
    cases answer with
    | done changed => exact .inl (pool.carried_park key left changed)
    | refused changed => exact .inl (pool.carried_park key left changed)
    | _ => exact .inl rfl
  | destroying key object aftermath =>
    cases aftermath with
    | surface => cases answer <;> exact .inl rfl
    | surfaceIfOpen =>
      cases answer with
      | failed error =>
        simp only [resume, afterDestroyFailure]
        split <;> exact .inl rfl
      | _ => exact .inl rfl
    | quietly sequel =>
      cases answer with
      | done _ => exact pool.carries_proceed key sequel
      | refused _ => exact pool.carries_proceed key sequel
      | failed error => exact carries_proceed _ key sequel
      | panicked reason => cases sequel <;> exact .inl rfl
  | _ => cases answer <;> first | exact .inl rfl | exact .inr (.inl rfl)

/-! ## Turns -/

/-- **No turn adds to what there is**: what it keeps it had in hand, and then it has nothing in hand
any more; and a candidate was idle before. -/
theorem Turn.Does.possession_le {pool : Pool κ ω ε} {hand : Hand κ ω} {turn : Turn κ ω ε}
    {deed : Deed κ ω} (does : Turn.Does pool hand turn deed) (sound : pool.store.Sound)
    (sound' : turn.1.store.Sound) {brought : List ω} (carries : Carries brought turn.2)
    (unready : ∀ key object, hand = .unready key object → brought = [object])
    (keeps : ∀ key object, hand = .back key object ∨ hand = .reset key object →
      brought = [object] ∧ turn.2.carried = []) :
    turn.1.store.stock has + turn.2.carried.countP has ≤
      pool.store.stock has + brought.countP has := by
  have hstock := does.stocked_le has sound sound'
  have hhand : turn.2.carried.countP has + (deed.entries.map Prod.snd).countP has ≤
      brought.countP has + deed.candidates.countP has := by
    have hkept : ∀ key object, deed.entries = [(key, object)] →
        brought = [object] ∧ turn.2.carried = [] := by
      intro key object hentries
      have hfits := does.fits
      cases deed with
      | putBack place resource =>
        cases hentries
        exact keeps key object (.inl hfits.2)
      | stow place resource =>
        cases hentries
        exact keeps key object (.inr hfits)
      | _ => cases hentries
    cases hentries : deed.entries with
    | cons entry rest =>
      obtain rfl : rest = [] := by
        cases deed <;> cases hentries <;> rfl
      obtain ⟨rfl, hnone⟩ := hkept entry.1 entry.2 hentries
      rw [hnone]
      exact Nat.le_trans (Nat.le_of_eq (Nat.zero_add _)) (Nat.le_add_right _ _)
    | nil =>
      rw [List.map_nil, List.countP_nil, Nat.add_zero]
      rcases carries with hnone | hsame | ⟨checkout, origin, object, hwaits⟩
      · rw [hnone]
        exact Nat.zero_le _
      · rw [hsame]
        exact Nat.le_add_right _ _
      · have hcases := does.hand_cases
        rw [hwaits] at hcases ⊢
        rcases hcases with hfree | ⟨hhad, -⟩ | ⟨key, resource, htaken, rfl⟩
        · cases hfree
        · rw [unready _ _ hhad.symm]
          exact Nat.le_add_right _ _
        · cases htaken
          exact Nat.le_add_left _ _
  omega

/-- Closing adds nothing to what is idle or to be lent. -/
theorem possession_close (sound : pool.store.Sound) (result : Result ω ε) :
    (pool.close result).1.store.stock has + (pool.close result).2.carried.countP has ≤
      pool.store.stock has + result.lent?.toList.countP has := by
  rw [pool.carried_close]
  cases hclosed : pool.isClosed with
  | true =>
    rw [pool.close_of_closed hclosed]
    exact Nat.le_refl _
  | false =>
    have hdoes := pool.does_close sound .free hclosed result
    rw [Store.stock_of_emptied has fun key => congrArg Holding.idle (hdoes.holding_eq key)]
    exact Nat.add_le_add_right (Nat.zero_le _) _

/-- **An operation starts** with what the client gives to it. -/
theorem possession_start (sound : pool.store.Sound) (operation : Operation κ ω) :
    (pool.start operation).1.store.stock has + (pool.start operation).2.carried.countP has ≤
      pool.store.stock has + operation.brought.countP has := by
  by_cases hclose : operation = .close
  · subst hclose
    exact pool.possession_close has sound .done
  · obtain ⟨deed, hdoes⟩ := pool.does_start sound hclose
    have hsound := (pool.steady_start sound operation).becomes.sound
    exact hdoes.possession_le has sound hsound (pool.carries_start operation) nofun (by simp)

/-- Only a resource whose passivation has been answered can be kept. -/
theorem passivated_of_handAfter {stage : Stage κ ω ε} {answer : Answer ω ε} {key : κ} {object : ω}
    (ready : stage.handAfter answer = .back key object ∨
      stage.handAfter answer = .reset key object) :
    ((∃ slot resource, stage = .passivating key slot resource) ∨
      ∃ left resource, stage = .parking key left resource) ∧
      (answer = .done object ∨ answer = .refused object) := by
  cases stage <;> cases answer <;> simp_all [Stage.handAfter]

/-- **An operation goes on** with what the answer has brought. -/
theorem possession_resume (sound : pool.store.Sound) (stage : Stage κ ω ε)
    (holds : pool.store.Holds stage.checkout?)
    (stands : ∀ key slot, stage.foothold? = some (key, slot) → pool.store.Stands key slot)
    (answer : Answer ω ε) :
    (pool.resume stage answer).1.store.stock has +
        (pool.resume stage answer).2.carried.countP has ≤
      pool.store.stock has + (stage.brought answer).countP has := by
  obtain ⟨deed, hdoes⟩ := pool.does_resume sound stage holds stands answer
  have hsound := (pool.steady_resume sound stage holds stands answer).becomes.sound
  refine hdoes.possession_le has sound hsound (pool.carries_resume stage answer) ?_ ?_
  · intro key object hhand
    cases stage <;> cases answer <;> cases hhand <;> rfl
  · intro key object hhand
    obtain ⟨⟨slot, resource, rfl⟩ | ⟨left, resource, rfl⟩, rfl | rfl⟩ :=
      passivated_of_handAfter hhand
    · exact ⟨rfl, pool.carried_settle key slot object⟩
    · exact ⟨rfl, pool.carried_settle key slot object⟩
    · exact ⟨rfl, pool.carried_park key left object⟩
    · exact ⟨rfl, pool.carried_park key left object⟩

end turns

end Pool

end ResourcePool
