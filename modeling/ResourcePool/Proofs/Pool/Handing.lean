import ResourcePool.Proofs.Pool.Routes
import ResourcePool.Proofs.Pool.Solvency

/-!
# Handing back and closing

What becomes of one resource that is given back or invalidated, from call to call, and what becomes
of all idle ones when a pool closes.

* `Stage.HandsBack` — an operation is about a resource on its way back.
* `Pool.start_handsBack`, `Pool.resume_handsBack` — it goes on to the next call for that resource,
  or it keeps the resource, or it has destroyed it.
* `Pool.Turn.Lasts` — the turns that do not close the pool.
* `Pool.close_swept` — a closing gives everything that is idle to the factory, one after another.
-/

set_option linter.unusedSectionVars false

namespace ResourcePool

variable {κ ω ε : Type}

/-- Whether a note tells that the pool closes. -/
def Note.isClosing : Note κ ε → Bool
  | closing _ => true
  | _ => false

/-! ## Resources on their way back -/

/-- Whether an operation is over when a destroy has been answered. -/
def Aftermath.isFinal : Aftermath κ ω ε → Bool
  | surface | surfaceIfOpen | quietly (.conclude _) => true
  | _ => false

namespace Stage

/-- **An operation is about a resource on its way back**: it validates or passivates it, or it
destroys it and is over then. -/
inductive HandsBack (key : κ) (object : ω) : Stage κ ω ε → Prop where
  | inspecting (slot : SlotId) : HandsBack key object (.inspecting key slot object)
  | passivating (slot : SlotId) : HandsBack key object (.passivating key slot object)
  | destroying {aftermath : Aftermath κ ω ε} (final : aftermath.isFinal = true) :
      HandsBack key object (.destroying key object aftermath)

/-- How many answers an operation that hands a resource back waits for at most. -/
def patience : Stage κ ω ε → Nat
  | inspecting .. => 3
  | passivating .. => 2
  | _ => 1

end Stage

/-- What an answer makes of a resource: it stays as it is, or its passivation has changed it. -/
def Answer.Leaves (answer : Answer ω ε) (request : Request κ ω) (object changed : ω) : Prop :=
  changed = object ∨ request.step = .passivate ∧ request.object? = some object ∧
    (answer = .done changed ∨ answer = .refused changed)

variable [DecidableEq κ]

namespace Pool

section handing

variable (pool : Pool κ ω ε)

/-- An operation that hands a resource back is over when the destroy of it is answered. -/
theorem resume_final (key : κ) (object : ω) {aftermath : Aftermath κ ω ε}
    (final : aftermath.isFinal = true) {answer : Answer ω ε}
    (calm : ∀ reason, answer ≠ .panicked reason) :
    ∃ result, pool.resume (.destroying key object aftermath) answer =
      (pool.hear (.destroying key object aftermath) answer).finish result := by
  cases aftermath with
  | surface =>
    cases answer with
    | panicked reason => exact absurd rfl (calm reason)
    | _ => exact ⟨_, rfl⟩
  | surfaceIfOpen =>
    cases answer with
    | panicked reason => exact absurd rfl (calm reason)
    | failed error =>
      have hcounted : (pool.count .destroyFailures).isClosed = pool.isClosed := rfl
      simp only [resume, afterDestroyFailure, hear, Stage.event?, Stage.remark?, hcounted]
      cases pool.isClosed <;> exact ⟨_, rfl⟩
    | _ => exact ⟨_, rfl⟩
  | quietly sequel =>
    cases sequel with
    | conclude result =>
      cases answer with
      | panicked reason => exact absurd rfl (calm reason)
      | _ => exact ⟨_, rfl⟩
    | _ => cases final

/-- What comes of the first turn, and whether a loan is over by then: it is not before the resource
is destroyed. -/
theorem start_handsBack (sound : pool.store.Sound) {operation : Operation κ ω} {key : κ}
    {object : ω}
    (comes : operation = .giveBack key object ∨ operation = .invalidate key object) :
    ∃ stage deed, (pool.start operation).2 = .waiting stage ∧ stage.HandsBack key object ∧
      Turn.Does pool .free (pool.start operation) deed ∧
      (deed = .nothing ∨ deed = .release key ∧ stage.patience = 1) := by
  have hreject := pool.does_rejectUnborrowed .free key object
  have hloan : ∀ {slot aftermath}, pool.store.find? key = some slot →
      ∃ deed, Turn.Does pool .free
        ((pool.endLoan key slot).destroy key object aftermath) deed ∧
        (deed = .nothing ∨ deed = .release key ∧ 1 = 1) := by
    intro slot aftermath hid
    obtain ⟨deed, hdeed, hdoes⟩ :=
      pool.does_endLoan_destroy sound (.inl hid) .free object aftermath
    exact ⟨deed, hdoes, hdeed.imp_right fun h => ⟨h, rfl⟩⟩
  rcases comes with rfl | rfl
  · show ∃ stage deed, (pool.giveBack key object).2 = _ ∧ _ ∧
      Turn.Does pool .free (pool.giveBack key object) deed ∧ _
    unfold giveBack
    split
    · exact ⟨_, _, rfl, .destroying rfl, hreject, .inl rfl⟩
    · next slot hid =>
      split
      · exact ⟨_, _, rfl, .destroying rfl, hreject, .inl rfl⟩
      split
      · obtain ⟨deed, hdoes, hdeed⟩ := hloan hid
        exact ⟨_, deed, rfl, .destroying rfl, hdoes, hdeed⟩
      split
      · exact ⟨_, _, rfl, .inspecting slot, pool.does_await rfl (.inl rfl), .inl rfl⟩
      · exact ⟨_, _, rfl, .passivating slot, pool.does_await rfl (.inl rfl), .inl rfl⟩
  · show ∃ stage deed, (pool.invalidate key object).2 = _ ∧ _ ∧
      Turn.Does pool .free (pool.invalidate key object) deed ∧ _
    unfold invalidate
    split
    · next slot hid =>
      obtain ⟨deed, hdoes, hdeed⟩ := hloan hid
      exact ⟨_, deed, rfl, .destroying rfl, hdoes, hdeed⟩
    · exact ⟨_, _, rfl, .destroying rfl, pool.does_destroy .free key object _, .inl rfl⟩

/-- **What comes of an answer for a resource on its way back**: the next call is for that resource
again, or it is kept, or it has been destroyed. -/
theorem resume_handsBack (sound : pool.store.Sound) {key : κ} {object : ω} {stage : Stage κ ω ε}
    (handsBack : stage.HandsBack key object)
    (stands : ∀ key slot, stage.foothold? = some (key, slot) → pool.store.Stands key slot)
    {answer : Answer ω ε} (calm : ∀ reason, answer ≠ .panicked reason) :
    (∃ next changed deed, (pool.resume stage answer).2 = .waiting next ∧
      next.HandsBack key changed ∧ answer.Leaves stage.request object changed ∧
      next.patience < stage.patience ∧
      Turn.Does (pool.hear stage answer) (stage.handAfter answer) (pool.resume stage answer) deed ∧
      (deed = .nothing ∨ deed = .release key ∧ next.patience = 1)) ∨
    (∃ changed, (pool.resume stage answer).2 = .finished .done ∧ 1 < stage.patience ∧
      answer.Leaves stage.request object changed ∧
      Turn.Does (pool.hear stage answer) (stage.handAfter answer) (pool.resume stage answer)
        (.putBack key changed)) ∨
    (∃ result, (pool.resume stage answer).2 = .finished result ∧ stage.patience = 1 ∧
      Turn.Does (pool.hear stage answer) (stage.handAfter answer) (pool.resume stage answer)
        .nothing) := by
  -- a resource that does not pass is destroyed, and its loan is over
  have hscrap : ∀ (noted : Pool κ ω ε) {slot}, noted.store = pool.store →
      pool.store.Stands key slot →
      ∃ deed, Turn.Does noted .free (noted.scrap key slot object) deed ∧
        (deed = .nothing ∨ deed = .release key ∧ 1 = 1) := by
    intro noted slot hstore hstands
    obtain ⟨deed, hdeed, hdoes⟩ := noted.does_endLoan_destroy (hstore ▸ sound) (hstore ▸ hstands)
      .free object .surface
    exact ⟨deed, hdoes, hdeed.imp_right fun h => ⟨h, rfl⟩⟩
  cases handsBack with
  | inspecting slot =>
    have hstands := stands key slot rfl
    left
    cases answer with
    | panicked reason => exact absurd rfl (calm reason)
    | done _ =>
      exact ⟨_, object, _, rfl, .passivating slot, .inl rfl, Nat.lt_succ_self 2,
        pool.does_await rfl (.inl rfl), .inl rfl⟩
    | refused _ =>
      obtain ⟨deed, hdoes, hdeed⟩ := hscrap
        ((pool.count .validationFailures).note (.validationRejected key)) rfl hstands
      exact ⟨_, object, deed, rfl, .destroying rfl, .inl rfl, by simp [Stage.patience], hdoes,
        hdeed⟩
    | failed error =>
      obtain ⟨deed, hdoes, hdeed⟩ := hscrap
        ((pool.count .validationFailures).note (.validationFailed key error)) rfl hstands
      exact ⟨_, object, deed, rfl, .destroying rfl, .inl rfl, by simp [Stage.patience], hdoes,
        hdeed⟩
  | passivating slot =>
    have hstands := stands key slot rfl
    have hsettle : ∀ changed,
        (∃ next deed, (pool.settle key slot changed).2 = .waiting next ∧
          next.HandsBack key changed ∧ next.patience < 2 ∧
          Turn.Does pool (.back key changed) (pool.settle key slot changed) deed ∧
          (deed = .nothing ∨ deed = .release key ∧ next.patience = 1)) ∨
        (pool.settle key slot changed).2 = .finished .done ∧
          Turn.Does pool (.back key changed) (pool.settle key slot changed)
            (.putBack key changed) := by
      intro changed
      obtain ⟨deed, hdoes, ⟨rfl, hover⟩ | ⟨hdeed, result, hwaits⟩⟩ :=
        pool.does_settle sound hstands changed
      · exact .inr ⟨hover, hdoes⟩
      · exact .inl ⟨_, deed, hwaits, .destroying rfl, Nat.lt_succ_self 1, hdoes,
          hdeed.imp_right fun h => ⟨h, rfl⟩⟩
    cases answer with
    | panicked reason => exact absurd rfl (calm reason)
    | failed error =>
      obtain ⟨deed, hdoes, hdeed⟩ := hscrap
        ((pool.count .passivationFailures).note (.passivationFailed key error)) rfl hstands
      exact .inl ⟨_, object, deed, rfl, .destroying rfl, .inl rfl, Nat.lt_succ_self 1, hdoes, hdeed⟩
    | done changed =>
      rcases hsettle changed with ⟨next, deed, hwaits, hnext, hlt, hdoes, hdeed⟩ | ⟨hover, hdoes⟩
      · exact .inl ⟨next, changed, deed, hwaits, hnext, .inr ⟨rfl, rfl, .inl rfl⟩, hlt, hdoes,
          hdeed⟩
      · exact .inr (.inl ⟨changed, hover, Nat.lt_succ_self 1, .inr ⟨rfl, rfl, .inl rfl⟩, hdoes⟩)
    | refused changed =>
      rcases hsettle changed with ⟨next, deed, hwaits, hnext, hlt, hdoes, hdeed⟩ | ⟨hover, hdoes⟩
      · exact .inl ⟨next, changed, deed, hwaits, hnext, .inr ⟨rfl, rfl, .inr rfl⟩, hlt, hdoes,
          hdeed⟩
      · exact .inr (.inl ⟨changed, hover, Nat.lt_succ_self 1, .inr ⟨rfl, rfl, .inr rfl⟩, hdoes⟩)
  | destroying final =>
    obtain ⟨result, heq⟩ := pool.resume_final key object final calm
    refine .inr (.inr ⟨result, ?_, rfl, ?_⟩)
    · rw [heq]
      rfl
    · rw [heq]
      exact does_finish _ _ result

end handing

/-! ## Lasting and closing -/

/-- How often a pool has noted that it closes. -/
def closings (pool : Pool κ ω ε) : Nat := pool.notes.countP Note.isClosing

/-- A turn that leaves it at that whether the pool is closed, and notes no closing. -/
structure Turn.Lasts (pool : Pool κ ω ε) (turn : Turn κ ω ε) : Prop where
  isClosed_eq : turn.1.isClosed = pool.isClosed
  closings_eq : turn.1.closings = pool.closings

section lasting

variable {pool : Pool κ ω ε} {hand : Hand κ ω} {turn : Turn κ ω ε} {deed : Deed κ ω}

/-- Notes of a closing are reports, so that no other notes have to be counted. -/
theorem closings_filter (notes : List (Note κ ε)) :
    notes.countP Note.isClosing = (notes.filter Note.isReport).countP Note.isClosing := by
  rw [List.countP_filter]
  apply List.countP_congr
  intro note _
  cases note <;> simp [Note.isClosing, Note.isReport]

/-- A turn that does a deed does not close the pool. -/
theorem Turn.Does.lasts (does : Turn.Does pool hand turn deed) : Turn.Lasts pool turn where
  isClosed_eq := congrArg (fun rules => rules.2.2) does.rules_eq
  closings_eq := by
    unfold closings
    rw [closings_filter, does.reports_eq, ← closings_filter]

/-- Of an answer that is heard no closing is noted. -/
theorem closings_hear (pool : Pool κ ω ε) (stage : Stage κ ω ε) (answer : Answer ω ε) :
    (pool.hear stage answer).closings = pool.closings := by
  have hnone : ∀ note ∈ stage.remark? pool.isClosed answer, note.isClosing = false := by
    intro note hnote
    cases stage with
    | destroying key object aftermath =>
      cases aftermath with
      | surfaceIfOpen =>
        cases hclosed : pool.isClosed <;> rw [hclosed] at hnote <;> cases answer <;>
          first | cases hnote; rfl | cases hnote
      | _ => cases answer <;> first | cases hnote; rfl | cases hnote
    | _ => cases answer <;> first | cases hnote; rfl | cases hnote
  unfold closings hear
  cases hremark : stage.remark? pool.isClosed answer with
  | none => rfl
  | some note => simp [hnone note hremark]

/-- No start of an operation closes the pool but that of a closing. -/
theorem lasts_start (sound : pool.store.Sound) {operation : Operation κ ω}
    (other : operation ≠ .close) : Turn.Lasts pool (pool.start operation) := by
  obtain ⟨deed, hdoes⟩ := pool.does_start sound other
  exact hdoes.lasts

/-- No operation closes the pool when it goes on. -/
theorem lasts_resume (sound : pool.store.Sound) {stage : Stage κ ω ε}
    (holds : pool.store.Holds stage.checkout?)
    (stands : ∀ key slot, stage.foothold? = some (key, slot) → pool.store.Stands key slot)
    (answer : Answer ω ε) : Turn.Lasts pool (pool.resume stage answer) := by
  obtain ⟨deed, hdoes⟩ := pool.does_resume sound stage holds stands answer
  exact ⟨hdoes.lasts.isClosed_eq, hdoes.lasts.closings_eq.trans (pool.closings_hear stage answer)⟩

end lasting

/-- Where a sweep of some resources stands. -/
def swept (entries : List (κ × ω)) (result : Result ω ε) : Progress κ ω ε :=
  match entries with
  | [] => .finished result
  | (key, object) :: rest => .waiting (.destroying key object (.quietly (.sweep rest result)))

section closing

variable {pool : Pool κ ω ε}

/-- A sweep goes on with the next resource, and the pool is left as it is but for notes and
counters. -/
theorem resume_sweep (pool : Pool κ ω ε) (key : κ) (object : ω) (rest : List (κ × ω))
    (result : Result ω ε) {answer : Answer ω ε} (calm : ∀ reason, answer ≠ .panicked reason) :
    (pool.resume (.destroying key object (.quietly (.sweep rest result))) answer).2 =
        swept rest result ∧
      (pool.resume (.destroying key object (.quietly (.sweep rest result))) answer).1.store =
        pool.store := by
  cases answer with
  | panicked reason => exact absurd rfl (calm reason)
  | _ => cases rest <;> exact ⟨rfl, rfl⟩

/-- What is taken out when everything is taken out. -/
theorem listed_drainAll {store : Store κ ω} (sound : store.Sound) (key : κ) :
    listedUnder key store.drainAll.1 = (store.live key).idle.reverse := by
  unfold listedUnder
  rw [Store.filter_drainAll sound, List.map_map]
  exact List.map_id _

/-- As much is taken out of a store as is idle in it. -/
theorem length_drainAll {store : Store κ ω} (sound : store.Sound) :
    store.drainAll.1.length = store.totalIdle := by
  have hlength : ∀ link ∈ store.walked, ((store.live link.1).idle.reverse.map
      fun object => (link.1, object)).length = (store.slot link.2).idle.length := by
    intro link hlink
    rw [List.length_map, List.length_reverse,
      Store.live_of_find? (Store.find?_of_walked sound hlink)]
  rw [Store.drainAll_eq sound, Store.heldUnder, List.length_flatMap, Store.totalIdle,
    Store.foldl_add, Nat.zero_add, List.map_congr_left hlength]
  exact (store.walked_perm.map _).sum_eq

/-- **The closing of an open pool**: it is noted once, nothing is idle after it and no loan is
ended, and everything that was idle goes to the factory, one resource after another. -/
theorem close_swept (sound : pool.store.Sound) (isOpen : pool.isClosed = false)
    (result : Result ω ε) :
    (pool.close result).1.isClosed = true ∧ (pool.close result).1.closings = pool.closings + 1 ∧
    (∀ key, (pool.close result).1.store.holding key = (pool.store.holding key).emptied) ∧
    ∃ entries, (pool.close result).2 = swept entries result ∧
      (∀ key, listedUnder key entries = (pool.store.live key).idle.reverse) ∧
      entries.length = pool.store.totalIdle := by
  have hsealed : pool.shut.store.Sound := Store.sound_sealUp sound
  have hdoes := pool.does_close sound .free isOpen result
  refine ⟨?_, ?_, ?_, pool.shut.store.drainAll.1, ?_, fun key => listed_drainAll hsealed key,
    length_drainAll hsealed⟩
  · exact hdoes.lasts.isClosed_eq
  · rw [hdoes.lasts.closings_eq]
    exact List.countP_cons_of_pos rfl
  · exact hdoes.holding_eq
  · obtain ⟨notes, hsweep⟩ := pool.shut.clear_eq result
    rw [pool.close_of_open isOpen, hsweep]
    cases pool.shut.store.drainAll.1 <;> rfl

end closing

end Pool

end ResourcePool
