import ResourcePool.Proofs.Ends.Basic
import ResourcePool.Proofs.Session.Room

/-!
# Additions one after another

Prefilling a key is adding to it so many times, up to the first addition that fails. What was added
before that stays, and what finds no room is destroyed and counts as added.

* `Replies.setbacks` — how many of some calls failed that an addition cannot do without.
* `Stocks` — the additions, with what was kept of them.
* `Stocks.balance`, `Stocks.made`, `Stocks.length_kept` — how much that is, and `Stocks.stopped_by`,
  `Stocks.done_iff` — how it comes to an end.
* `Store.StockedWith` — what the additions leave.
* `Advances`, `advances_addMore` — one addition; `stocks_addMore` is the loop over them.
* `stocked_until_failure` — prefilling in any state that can be reached.
-/

set_option linter.unusedSectionVars false

namespace ResourcePool

variable {κ ω ε : Type} [DecidableEq κ]

/-! ## Calls that fail -/

/-- How many of some calls failed, the latest first. A destroy that fails does not count. -/
def Replies.setbacks (reply : Replies κ ω ε) : List (Request κ ω) → Nat
  | [] => 0
  | .destroy _ _ :: calls => reply.setbacks calls
  | request :: calls => reply.setbacks calls + if (reply calls request).error?.isSome then 1 else 0

section setbacks

variable {reply : Replies κ ω ε} {calls : List (Request κ ω)} {key : κ} {object ready : ω}

/-- A step that succeeds has no error. -/
theorem Answer.error?_of_success {answer : Answer ω ε} (success : answer.success? = some object) :
    answer.error? = none := by
  cases answer <;> first | rfl | cases success

/-- A create that fails is a setback. -/
theorem Replies.setbacks_create : reply.setbacks (.create key :: calls) = reply.setbacks calls +
    if (reply calls (.create key)).error?.isSome then 1 else 0 := rfl

/-- So is a passivation. -/
theorem Replies.setbacks_passivate : reply.setbacks (.passivate key object :: calls) =
    reply.setbacks calls +
      if (reply calls (.passivate key object)).error?.isSome then 1 else 0 := rfl

/-- A destroy that fails is none. -/
theorem Replies.setbacks_destroy :
    reply.setbacks (.destroy key object :: calls) = reply.setbacks calls := rfl

/-- A create that succeeds is none, either. -/
theorem Replies.setbacks_of_created
    (creates : (reply calls (.create key)).success? = some object) :
    reply.setbacks (.create key :: calls) = reply.setbacks calls := by
  rw [setbacks_create, Answer.error?_of_success creates]
  rfl

/-- Nor is a passivation that succeeds. -/
theorem Replies.setbacks_of_passivated
    (passivates : (reply calls (.passivate key object)).success? = some ready) :
    reply.setbacks (.passivate key object :: calls) = reply.setbacks calls := by
  rw [setbacks_passivate, Answer.error?_of_success passivates]
  rfl

end setbacks

/-! ## Additions -/

/-- What there is under a key after some resources have been put among the idle ones, one after
another. -/
def Holding.stocked (holding : Holding ω) (kept : List ω) : Holding ω :=
  { holding with idle := kept.reverse ++ holding.idle }

/-- What is added comes to what was idle. -/
theorem Holding.length_stocked (holding : Holding ω) (kept : List ω) :
    (holding.stocked kept).idle.length = kept.length + holding.idle.length := by
  simp [stocked]

/-- **What additions to a key leave**: what they kept, on top of the idle resources, and everything
else as it was. -/
structure Store.StockedWith (store : Store κ ω) (key : κ) (kept : List ω) (next : Store κ ω) :
    Prop where
  sound : next.Sound
  rules_eq : next.rules = store.rules
  live_eq : next.live key = { store.live key with
    idle := kept.reverse ++ (store.live key).idle }
  apart : Apart key store next

namespace Store

variable {store next last : Store κ ω} {key : κ} {kept others : List ω}

/-- A store is stocked with nothing. -/
theorem StockedWith.refl (sound : store.Sound) (key : κ) : StockedWith store key [] store :=
  ⟨sound, rfl, rfl, .refl key store⟩

/-- A key is stocked with some resources and then with others. -/
theorem StockedWith.trans (first : StockedWith store key kept next)
    (second : StockedWith next key others last) : StockedWith store key (kept ++ others) last where
  sound := second.sound
  rules_eq := second.rules_eq.trans first.rules_eq
  live_eq := by
    rw [second.live_eq, first.live_eq]
    simp
  apart := first.apart.trans second.apart

/-- What the key then holds. -/
theorem StockedWith.holding_eq (stocked : StockedWith store key kept next) :
    next.holding key = (store.holding key).stocked kept := by
  unfold holding
  rw [stocked.live_eq]
  rfl

/-- What an open store does with a fresh resource. -/
theorem deposit_of_open (sound : store.Sound) (isOpen : store.isSealed = false) (key : κ)
    (object : ω) :
    ∃ next, store.deposit key object =
        (if PlainPool.isReached store.idleLimit (store.live key).idle.length = true
          then .rejected .full object else .accepted, next) ∧
      StockedWith store key
        (if PlainPool.isReached store.idleLimit (store.live key).idle.length = true
          then [] else [object]) next := by
  have hopen := becomes_openSlot sound key
  have hfind : (store.openSlot key).2.find? key = some (store.openSlot key).1 := by
    rw [find?_openSlot, if_pos rfl]
  have hrules := rules_openSlot store key
  have hsealed : (store.openSlot key).2.isSealed = false :=
    (congrArg (fun rules => rules.2.2) hrules).trans isOpen
  have hlimit : (store.openSlot key).2.idleLimit = store.idleLimit :=
    congrArg (fun rules => rules.2.1) hrules
  have hfull := isFull_eq hfind
  rw [hlimit, hopen.live_eq] at hfull
  have hapart := apart_openSlot sound key
  rw [deposit_eq sound]
  cases hroom : PlainPool.isReached store.idleLimit (store.live key).idle.length with
  | true =>
    refine ⟨(store.openSlot key).2, ?_, hopen.sound, hrules, hopen.live_eq key, hapart⟩
    unfold offer
    rw [hsealed, hfull.trans hroom]
    rfl
  | false =>
    have hpush := becomes_update hopen.sound hfind (fun slot => slot.push object)
      (hopen.sound.live_current key)
    refine ⟨_, offer_of_room object hsealed (hfull.trans hroom), hpush.sound, ?_, ?_,
      hapart.trans (hpush.apart fun _ _ => rfl)⟩
    · exact hrules
    · rw [hpush.live_eq, Function.update_self, hopen.live_eq]
      rfl

end Store

namespace Pool

open PlainPool (Adds isReached creations_create creations_passivate creations_destroy
  creations_of_success)

section ways

variable (config : Config) (reply : Replies κ ω ε) (key : κ)

/-- **Resources are added one after another**, up to the first addition that fails. Those that were
kept are given in the order in which they were created. -/
inductive Stocks (isClosed : Bool) : Nat → Holding ω → List (Request κ ω) → Result ω ε → List ω →
    List (Request κ ω) → Prop where
  | done (holding : Holding ω) (calls : List (Request κ ω)) :
      Stocks isClosed 0 holding calls .done [] calls
  | next {left : Nat} {holding : Holding ω} {calls between last : List (Request κ ω)}
      {result : Result ω ε} {new kept : List ω}
      (adds : Adds config reply key isClosed holding calls .done (holding.stocked new) [] between)
      (rest : Stocks isClosed left (holding.stocked new) between result kept last) :
      Stocks isClosed (left + 1) holding calls result (new ++ kept) last
  | stopped {left : Nat} {holding : Holding ω} {calls last : List (Request κ ω)}
      {error : PoolError ε}
      (adds : Adds config reply key isClosed holding calls (.failed error) holding [] last) :
      Stocks isClosed (left + 1) holding calls (.failed error) [] last

end ways

section readings

variable {config : Config} {reply : Replies κ ω ε} {key : κ} {isClosed : Bool}
  {holding after : Holding ω} {calls last : List (Request κ ω)} {result : Result ω ε}
  {kept : List ω} {count : Nat}

/-! ### One addition -/

/-- Without a panic the result stands. -/
theorem orPanic_of_calm (calm : reply.Calm) (request : Request κ ω)
    (result : Result ω ε) : (reply calls request).orPanic result = result := by
  rcases (reply calls request).orPanic_cases result with ⟨heq, -⟩ | ⟨reason, hpanics, -⟩
  · exact heq
  · exact absurd hpanics (calm calls request reason)

/-- How an addition succeeds. -/
theorem succeeded_of_adds
    (adds : Adds config reply key isClosed holding calls .done after [] last) :
    isClosed = false ∧ ∃ object ready,
      (reply calls (.create key)).success? = some object ∧
      (reply (.create key :: calls) (.passivate key object)).success? = some ready ∧
      ((isReached config.idleLimit holding.idle.length = true ∧ after = holding ∧
          last = .destroy key ready :: .passivate key object :: .create key :: calls) ∨
        (isReached config.idleLimit holding.idle.length = false ∧ after = holding.stocked [ready] ∧
          last = .passivate key object :: .create key :: calls)) := by
  generalize hresult : (.done : Result ω ε) = result at adds
  cases adds with
  | crowded isOpen creates passivates full =>
    exact ⟨isOpen, _, _, creates, passivates, .inl ⟨full, rfl, rfl⟩⟩
  | kept isOpen creates passivates room =>
    exact ⟨isOpen, _, _, creates, passivates, .inr ⟨room, rfl, rfl⟩⟩
  | @unready object error isOpen creates fails =>
    rcases Answer.orPanic_cases (reply (.passivate key object :: .create key :: calls)
        (.destroy key object)) (.failed (.factory error) : Result ω ε) with
      ⟨heq, -⟩ | ⟨reason, -, heq⟩ <;>
    · rw [heq] at hresult
      cases hresult
  | _ => cases hresult

/-- An addition that succeeds creates one resource without a setback. -/
theorem made_of_adds (adds : Adds config reply key isClosed holding calls .done after [] last) :
    reply.creations key last = reply.creations key calls + 1 ∧
      reply.setbacks last = reply.setbacks calls := by
  obtain ⟨-, object, ready, hcreates, hpassivates, hends⟩ := succeeded_of_adds adds
  rcases hends with ⟨-, -, rfl⟩ | ⟨-, -, rfl⟩
  · rw [creations_destroy, creations_passivate, creations_of_success hcreates,
      Replies.setbacks_destroy, Replies.setbacks_of_passivated hpassivates,
      Replies.setbacks_of_created hcreates]
    exact ⟨rfl, rfl⟩
  · rw [creations_passivate, creations_of_success hcreates,
      Replies.setbacks_of_passivated hpassivates, Replies.setbacks_of_created hcreates]
    exact ⟨rfl, rfl⟩

/-- An addition that succeeds keeps its resource exactly if there is room. -/
theorem length_of_adds {new : List ω}
    (adds : Adds config reply key isClosed holding calls .done (holding.stocked new) [] last) :
    new.length = if isReached config.idleLimit holding.idle.length = true then 0 else 1 := by
  have hlength : ∀ kept : List ω, holding.stocked new = holding.stocked kept →
      new.length = kept.length := by
    intro kept hsame
    have hidle := congrArg (fun holding => holding.idle.length) hsame
    simp only [Holding.length_stocked] at hidle
    omega
  obtain ⟨-, object, ready, -, -, hends⟩ := succeeded_of_adds adds
  rcases hends with ⟨hfull, hafter, -⟩ | ⟨hroom, hafter, -⟩
  · rw [if_pos hfull]
    exact hlength [] hafter
  · rw [if_neg (by simp [hroom])]
    exact hlength [ready] hafter

/-- How an addition fails. -/
theorem failed_of_adds {error : PoolError ε} {lost : List (κ × ω)}
    (adds : Adds config reply key isClosed holding calls (.failed error) after lost last) :
    (isClosed = true ∧ error = .closed ∧ last = calls) ∨
      ∃ cause, error = .factory cause ∧
        ((reply calls (.create key) = .failed cause ∧ last = .create key :: calls) ∨
          ∃ object, (reply calls (.create key)).success? = some object ∧
            reply (.create key :: calls) (.passivate key object) = .failed cause ∧
            last = .destroy key object :: .passivate key object :: .create key :: calls) := by
  generalize hresult : (.failed error : Result ω ε) = result at adds
  cases adds with
  | shut closed =>
    cases hresult
    exact .inl ⟨closed, rfl, rfl⟩
  | uncreated isOpen fails =>
    cases hresult
    exact .inr ⟨_, rfl, .inl ⟨fails, rfl⟩⟩
  | @unready object cause isOpen creates fails =>
    rcases Answer.orPanic_cases (reply (.passivate key object :: .create key :: calls)
        (.destroy key object)) (.failed (.factory cause) : Result ω ε) with
      ⟨heq, -⟩ | ⟨reason, -, heq⟩
    · rw [heq] at hresult
      cases hresult
      exact .inr ⟨_, rfl, .inr ⟨_, creates, fails, rfl⟩⟩
    · rw [heq] at hresult
      cases hresult
  | @crowded object ready isOpen creates passivates full =>
    rcases Answer.orPanic_cases (reply (.passivate key object :: .create key :: calls)
        (.destroy key ready)) (.done : Result ω ε) with
      ⟨heq, -⟩ | ⟨reason, -, heq⟩ <;>
    · rw [heq] at hresult
      cases hresult
  | _ => cases hresult

/-! ### What the additions come to -/

/-- Additions that are over have succeeded or failed. -/
theorem Stocks.ended
    (stocks : Stocks config reply key isClosed count holding calls result kept last) :
    result = .done ∨ ∃ error, result = .failed error := by
  induction stocks with
  | done => exact .inl rfl
  | next adds rest ih => exact ih
  | stopped adds => exact .inr ⟨_, rfl⟩

/-- **The balance of the additions**: what was created is among the idle resources or has been given
to the factory. -/
theorem Stocks.balance
    (stocks : Stocks config reply key isClosed count holding calls result kept last) :
    reply.creations key last + destroysUnder key calls =
      reply.creations key calls + (kept.length + destroysUnder key last) := by
  have hnothing : (listedUnder key ([] : List (κ × ω))).length = 0 := rfl
  induction stocks with
  | done holding calls => simp
  | @next left holding calls between last result new kept adds rest ih =>
    have hone := adds.balance
    have hactive : (holding.stocked new).active = holding.active := rfl
    rw [hnothing, Holding.length_stocked, hactive] at hone
    rw [List.length_append]
    omega
  | @stopped left holding calls last error adds =>
    have hone := adds.balance
    rw [hnothing] at hone
    rw [List.length_nil]
    omega

/-- Under other keys nothing is created or destroyed. -/
theorem Stocks.elsewhere
    (stocks : Stocks config reply key isClosed count holding calls result kept last) {place : κ}
    (ne : place ≠ key) : reply.creations place last = reply.creations place calls ∧
      destroysUnder place last = destroysUnder place calls := by
  induction stocks with
  | done => exact ⟨rfl, rfl⟩
  | next adds rest ih =>
    obtain ⟨hcreated, hdestroyed, -⟩ := adds.elsewhere ne
    exact ⟨ih.1.trans hcreated, ih.2.trans hdestroyed⟩
  | stopped adds =>
    obtain ⟨hcreated, hdestroyed, -⟩ := adds.elsewhere ne
    exact ⟨hcreated, hdestroyed⟩

/-- **Additions that all succeed** create as many resources as were asked for, and they succeed
without a setback. -/
theorem Stocks.made (stocks : Stocks config reply key isClosed count holding calls result kept last)
    (succeeds : result = .done) : reply.creations key last = reply.creations key calls + count ∧
      reply.setbacks last = reply.setbacks calls ∧ (count = 0 ∨ isClosed = false) := by
  induction stocks with
  | done => exact ⟨rfl, rfl, .inl rfl⟩
  | @next left holding calls between last result new kept adds rest ih =>
    obtain ⟨hmade, hcalm, -⟩ := ih succeeds
    have hone := made_of_adds adds
    have hisOpen := (succeeded_of_adds adds).1
    refine ⟨?_, hcalm.trans hone.2, .inr hisOpen⟩
    rw [hmade, hone.1]
    omega
  | stopped adds => cases succeeds

/-- **How many are kept**, when all additions succeed: all of them, or as many as there was room
for. -/
theorem Stocks.length_kept
    (stocks : Stocks config reply key isClosed count holding calls result kept last)
    (succeeds : result = .done) :
    (config.idleLimit = none → kept.length = count) ∧
      ∀ limit, config.idleLimit = some limit → holding.idle.length ≤ limit →
        holding.idle.length + kept.length = min (holding.idle.length + count) limit := by
  induction stocks with
  | done holding calls =>
    refine ⟨fun _ => rfl, fun limit _ within => ?_⟩
    rw [List.length_nil]
    omega
  | @next left holding calls between last result new kept adds rest ih =>
    obtain ⟨hall, hsome⟩ := ih succeeds
    have hnew := length_of_adds adds
    rw [Holding.length_stocked] at hsome
    rw [List.length_append]
    refine ⟨fun hnone => ?_, fun limit hlimit within => ?_⟩
    · rw [hnone] at hnew
      have hone : new.length = 1 := hnew
      rw [hone, hall hnone]
      omega
    · rw [hlimit] at hnew
      by_cases hfull : limit ≤ holding.idle.length
      · have hzero : new.length = 0 := by simpa [isReached, hfull] using hnew
        have hrest := hsome limit hlimit (by omega)
        omega
      · have hone : new.length = 1 := by simpa [isReached, hfull] using hnew
        have hrest := hsome limit hlimit (by omega)
        omega
  | stopped adds => cases succeeds

/-- **The first failure** ends the additions: the pool is closed, or there is a create or a
passivation that failed, and none before it did. What could not be passivated is destroyed. -/
theorem Stocks.stopped_by
    (stocks : Stocks config reply key isClosed count holding calls result kept last)
    {error : PoolError ε} (fails : result = .failed error) :
    (error = .closed ∧ isClosed = true ∧ last = calls) ∨
      ∃ cause before, error = .factory cause ∧ reply.setbacks before = reply.setbacks calls ∧
        ((reply before (.create key) = .failed cause ∧ last = .create key :: before) ∨
          ∃ object, reply before (.passivate key object) = .failed cause ∧
            last = .destroy key object :: .passivate key object :: before) := by
  induction stocks with
  | done => cases fails
  | @next left holding calls between last result new kept adds rest ih =>
    have hone := made_of_adds adds
    rcases ih fails with ⟨-, hclosed, -⟩ | ⟨cause, before, hcause, hcalm, hends⟩
    · -- a closed pool would not have let the first addition succeed
      rw [(succeeded_of_adds adds).1] at hclosed
      cases hclosed
    · exact .inr ⟨cause, before, hcause, hcalm.trans hone.2, hends⟩
  | @stopped left holding calls last error adds =>
    cases fails
    rcases failed_of_adds adds with ⟨hclosed, herror, hlast⟩ |
      ⟨cause, hcause, ⟨hfails, hlast⟩ | ⟨object, hcreates, hfails, hlast⟩⟩
    · exact .inl ⟨herror, hclosed, hlast⟩
    · exact .inr ⟨cause, calls, hcause, rfl, .inl ⟨hfails, hlast⟩⟩
    · refine .inr ⟨cause, .create key :: calls, hcause, ?_, .inr ⟨object, hfails, hlast⟩⟩
      exact Replies.setbacks_of_created hcreates

/-- **Additions succeed exactly if the pool is open and none of their steps fails** but destroys. -/
theorem Stocks.done_iff
    (stocks : Stocks config reply key isClosed count holding calls result kept last) :
    result = .done ↔
      (count = 0 ∨ isClosed = false) ∧ reply.setbacks last = reply.setbacks calls := by
  constructor
  · intro hdone
    obtain ⟨-, hcalm, hopen⟩ := stocks.made hdone
    exact ⟨hopen, hcalm⟩
  · rintro ⟨hopen, hcalm⟩
    rcases stocks.ended with hdone | ⟨error, hfails⟩
    · exact hdone
    exfalso
    rcases stocks.stopped_by hfails with ⟨-, hclosed, -⟩ | ⟨cause, before, -, hbefore, hends⟩
    · rcases hopen with rfl | hopen
      · cases stocks
        cases hfails
      · rw [hclosed] at hopen
        cases hopen
    · -- the step that failed is a setback
      have hlt : reply.setbacks before < reply.setbacks last := by
        rcases hends with ⟨hfailed, rfl⟩ | ⟨object, hfailed, rfl⟩
        · rw [Replies.setbacks_create, hfailed]
          exact Nat.lt_succ_self _
        · rw [Replies.setbacks_destroy, Replies.setbacks_passivate, hfailed]
          exact Nat.lt_succ_self _
      omega

end readings

/-! ### The loop -/

section loop

variable {config : Config} {reply : Replies κ ω ε} {key : κ}

/-- **What comes of one addition** to a key of the given store: either it succeeds, and those that
are left go on, or it fails and leaves the store as it was. -/
inductive Advances (config : Config) (reply : Replies κ ω ε) (key : κ) (store : Store κ ω)
    (left : Nat) (calls : List (Request κ ω))
    (ends : Result ω ε × Pool κ ω ε × List (Request κ ω)) : Prop where
  | onward {new : List ω} {between : List (Request κ ω)} {next : Pool κ ω ε}
      (adds : Adds config reply key store.isSealed (store.holding key) calls .done
        ((store.holding key).stocked new) [] between)
      (stocked : store.StockedWith key new next.store)
      (goes : ends = complete reply.factory (next.addMore key left) between)
  | stopped {error : PoolError ε} {last : List (Request κ ω)} {next : Pool κ ω ε}
      (adds : Adds config reply key store.isSealed (store.holding key) calls (.failed error)
        (store.holding key) [] last)
      (store_eq : next.store = store) (stops : ends = (.failed error, next, last))

/-- A fresh resource that has been passivated is kept or, for lack of room, destroyed. -/
theorem advances_park (calm : reply.Calm) {pool : Pool κ ω ε} (sound : pool.store.Sound)
    (idleLimit_eq : pool.store.idleLimit = config.idleLimit) (isOpen : pool.store.isSealed = false)
    (left : Nat) {calls : List (Request κ ω)} {object ready : ω}
    (creates : (reply calls (.create key)).success? = some object)
    (passivates : (reply (.create key :: calls) (.passivate key object)).success? = some ready) :
    Advances config reply key pool.store left calls
      (complete reply.factory (pool.park key left ready)
        (.passivate key object :: .create key :: calls)) := by
  obtain ⟨store, hdeposit, hstocked⟩ := Store.deposit_of_open sound isOpen key ready
  rw [idleLimit_eq] at hdeposit hstocked
  cases hroom : isReached config.idleLimit (pool.store.live key).idle.length with
  | true =>
    rw [hroom, if_pos rfl] at hdeposit hstocked
    have hpark : pool.park key left ready =
        ({ pool with store := store }.note (.idleFull key)).destroyQuietly key ready
          (.addMore left) := by
      unfold park
      rw [hdeposit]
    obtain ⟨next, hnoted, hgoes⟩ := complete_survived
      ({ pool with store := store }.note (.idleFull key)) reply
      (.passivate key object :: .create key :: calls) key ready (.addMore left) (calm _ _)
    have hadds : Adds config reply key pool.store.isSealed (pool.store.holding key) calls
        ((reply (.passivate key object :: .create key :: calls) (.destroy key ready)).orPanic .done)
        ((pool.store.holding key).stocked []) []
        (.destroy key ready :: .passivate key object :: .create key :: calls) :=
      .crowded isOpen creates passivates hroom
    rw [orPanic_of_calm calm] at hadds
    have hnext : pool.store.StockedWith key [] next.store := by
      rw [hnoted.store_eq]
      exact hstocked
    rw [hpark, hgoes]
    exact .onward hadds hnext rfl
  | false =>
    rw [hroom, if_neg Bool.false_ne_true] at hdeposit hstocked
    have hpark : pool.park key left ready = { pool with store := store }.addMore key left := by
      unfold park
      rw [hdeposit]
    rw [hpark]
    exact .onward (.kept isOpen creates passivates hroom) hstocked rfl

/-- A fresh resource is passivated. If that fails, it is destroyed, and the error is the result. -/
theorem advances_parking (calm : reply.Calm) (pool : Pool κ ω ε) (sound : pool.store.Sound)
    (idleLimit_eq : pool.store.idleLimit = config.idleLimit) (isOpen : pool.store.isSealed = false)
    (left : Nat) {calls : List (Request κ ω)} {object : ω}
    (creates : (reply calls (.create key)).success? = some object) :
    Advances config reply key pool.store left calls
      (complete reply.factory (pool.await (.parking key left object)) (.create key :: calls)) := by
  rw [complete_call]
  simp only [Stage.request]
  cases hanswer : reply (.create key :: calls) (.passivate key object) with
  | done ready =>
    exact advances_park calm sound idleLimit_eq isOpen left creates (by rw [hanswer]; rfl)
  | refused ready =>
    exact advances_park calm sound idleLimit_eq isOpen left creates (by rw [hanswer]; rfl)
  | failed error =>
    obtain ⟨next, hnoted, hends⟩ := (pool.count .passivationFailures).complete_conclude reply
      (.passivate key object :: .create key :: calls) key object (.failed (.factory error))
    rw [orPanic_of_calm calm] at hends
    have hadds : Adds config reply key pool.store.isSealed (pool.store.holding key) calls
        ((reply (.passivate key object :: .create key :: calls) (.destroy key object)).orPanic
          (.failed (.factory error))) (pool.store.holding key) []
        (.destroy key object :: .passivate key object :: .create key :: calls) :=
      .unready isOpen creates hanswer
    rw [orPanic_of_calm calm] at hadds
    exact .stopped hadds hnoted.store_eq hends
  | panicked reason => exact absurd hanswer (calm _ _ _)

variable (key) in
/-- **One addition**, with so many left to follow. -/
theorem advances_addMore (calm : reply.Calm) {pool : Pool κ ω ε} (sound : pool.store.Sound)
    (idleLimit_eq : pool.store.idleLimit = config.idleLimit) (left : Nat)
    (calls : List (Request κ ω)) :
    Advances config reply key pool.store left calls
      (complete reply.factory (pool.addMore key (left + 1)) calls) := by
  cases hclosed : pool.isClosed with
  | true =>
    have hshut : pool.addMore key (left + 1) = pool.fail .closed := by simp [addMore, hclosed]
    rw [hshut]
    exact .stopped (.shut hclosed) rfl (complete_finish _ _ _ _)
  | false =>
    have hopen : pool.addMore key (left + 1) = pool.await (.making key left) := by
      simp [addMore, hclosed]
    rw [hopen, complete_call]
    simp only [Stage.request]
    cases hanswer : reply calls (.create key) with
    | done object =>
      exact advances_parking calm ((pool.count .created).note (.created key)) sound
        idleLimit_eq hclosed left (by rw [hanswer]; rfl)
    | refused object =>
      exact advances_parking calm ((pool.count .created).note (.created key)) sound
        idleLimit_eq hclosed left (by rw [hanswer]; rfl)
    | failed error =>
      exact .stopped (.uncreated hclosed hanswer) rfl (complete_finish _ _ _ _)
    | panicked reason => exact absurd hanswer (calm _ _ _)

variable (key) in
/-- **The loop of additions**, by induction on how many there are left. -/
theorem stocks_addMore (calm : reply.Calm) {pool : Pool κ ω ε} (sound : pool.store.Sound)
    (idleLimit_eq : pool.store.idleLimit = config.idleLimit) (count : Nat)
    (calls : List (Request κ ω)) :
    ∃ result last calls' kept,
      Stocks config reply key pool.store.isSealed count (pool.store.holding key) calls result kept
        calls' ∧
      pool.store.StockedWith key kept last.store ∧
      complete reply.factory (pool.addMore key count) calls = (result, last, calls') := by
  induction count generalizing pool calls with
  | zero =>
    exact ⟨.done, pool, calls, [], .done _ _, .refl sound key, complete_finish _ _ _ _⟩
  | succ count ih =>
    cases advances_addMore key calm sound idleLimit_eq count calls with
    | @onward new between next adds stocked goes =>
      have hrules := stocked.rules_eq
      have hlimit : next.store.idleLimit = config.idleLimit :=
        (congrArg (fun rules => rules.2.1) hrules).trans idleLimit_eq
      obtain ⟨result, last, calls', kept, hstocks, hstocked, hends⟩ :=
        ih stocked.sound hlimit between
      have hsealed : next.store.isSealed = pool.store.isSealed :=
        congrArg (fun rules => rules.2.2) hrules
      rw [hsealed, stocked.holding_eq] at hstocks
      exact ⟨result, last, calls', new ++ kept, .next adds hstocks, stocked.trans hstocked,
        goes.trans hends⟩
    | @stopped error last next adds store_eq stops =>
      refine ⟨.failed error, next, last, [], .stopped adds, ?_, stops⟩
      rw [store_eq]
      exact .refl sound key

end loop

/-! ## Prefilling -/

section prefilling

variable {config : Config} {session : Session κ ω ε}

/-- **Prefilling adds until an addition fails.** In any state that can be reached, also while other
operations wait, and with any factory that does not panic, it goes as `Stocks` says, and it succeeds
exactly if the pool is open and no create and no passivation fails; otherwise the first failure is
its result. What was kept is idle on top of what was idle before, in the order of creation, and what
was created and not kept has been destroyed; the key has its loans and reservations and other keys
have what they had. If it succeeds, so many resources have been created, and as many are kept as
there is room for. No key has more idle resources than it may. -/
theorem stocked_until_failure (reachable : Session.Reachable config session) (key : κ) (count : Nat)
    (reply : Replies κ ω ε) (calm : reply.Calm) (calls : List (Request κ ω)) :
    ∃ result last calls' kept,
      session.pool.run reply.factory (.prefill key count) calls = (result, last, calls') ∧
      Stocks config reply key session.pool.isClosed count (session.pool.store.holding key) calls
        result kept calls' ∧
      (result = .done ↔ (count = 0 ∨ session.pool.isClosed = false) ∧
        reply.setbacks calls' = reply.setbacks calls) ∧
      (result = .done ∨ ∃ error, result = .failed error ∧
        ((error = .closed ∧ session.pool.isClosed = true ∧ calls' = calls) ∨
          ∃ cause before, error = .factory cause ∧
            reply.setbacks before = reply.setbacks calls ∧
            ((reply before (.create key) = .failed cause ∧ calls' = .create key :: before) ∨
              ∃ object, reply before (.passivate key object) = .failed cause ∧
                calls' = .destroy key object :: .passivate key object :: before))) ∧
      last.store.live key = { session.pool.store.live key with
        idle := kept.reverse ++ (session.pool.store.live key).idle } ∧
      (∀ other, other ≠ key → last.store.live other = session.pool.store.live other ∧
        last.store.find? other = session.pool.store.find? other ∧
        reply.creations other calls' = reply.creations other calls ∧
        destroysUnder other calls' = destroysUnder other calls) ∧
      reply.creations key calls' + destroysUnder key calls =
        reply.creations key calls + (kept.length + destroysUnder key calls') ∧
      (result = .done → reply.creations key calls' = reply.creations key calls + count ∧
        (config.idleLimit = none → last.numIdle key = session.pool.numIdle key + count) ∧
        (∀ limit, config.idleLimit = some limit →
          last.numIdle key = min (session.pool.numIdle key + count) limit) ∧
        destroysUnder key calls' + last.numIdle key =
          destroysUnder key calls + (session.pool.numIdle key + count)) ∧
      ∀ limit, config.idleLimit = some limit → ∀ place, session.pool.numIdle place ≤ limit := by
  have hsound := (Session.reachable_inOrder reachable).orderly.sound
  obtain ⟨result, last, calls', kept, hstocks, hstocked, hruns⟩ := stocks_addMore key calm hsound
    (Session.idleLimit_of_reachable reachable) count calls
  have hwithin : ∀ limit, config.idleLimit = some limit → ∀ place,
      session.pool.numIdle place ≤ limit :=
    fun limit hlimit place => Session.idle_within reachable place hlimit
  have hbefore : (session.pool.store.holding key).idle.length = session.pool.numIdle key :=
    (session.pool.store.numIdle_eq key).symm
  have hidle : last.numIdle key = session.pool.numIdle key + kept.length := by
    have hlast : last.numIdle key = (last.store.live key).idle.length := last.store.numIdle_eq key
    rw [hlast, hstocked.live_eq, ← hbefore, List.length_append, List.length_reverse]
    exact Nat.add_comm _ _
  have hbalance := hstocks.balance
  refine ⟨result, last, calls', kept, hruns, hstocks, hstocks.done_iff, ?_, hstocked.live_eq, ?_,
    hbalance, ?_, hwithin⟩
  · rcases hstocks.ended with hdone | ⟨error, hfails⟩
    · exact .inl hdone
    · exact .inr ⟨error, hfails, hstocks.stopped_by hfails⟩
  · intro other ne
    exact ⟨hstocked.apart.live_eq other ne, hstocked.apart.find?_eq other ne,
      hstocks.elsewhere ne⟩
  · intro hdone
    have hmade := (hstocks.made hdone).1
    obtain ⟨hall, hsome⟩ := hstocks.length_kept hdone
    rw [hbefore] at hsome
    refine ⟨hmade, fun hnone => ?_, fun limit hlimit => ?_, by omega⟩
    · rw [hidle, hall hnone]
    · rw [hidle]
      exact hsome limit hlimit (hwithin limit hlimit key)

/-- A pool that keeps two idle resources of a key at most. -/
def narrow : Config := Config.standard.withMaxIdle 2

/-- The events of a short run: the resource 7 is added, and a borrow under another key waits. -/
def waiting : List (Session.Event Nat Nat String) :=
  [.act (.call (.prefill 0 1)), .answer (.done 7), .answer (.done 7), .act (.call (.borrow 1))]

/-- The replies of a factory that creates 8 and cannot destroy anything. -/
def willing : Replies Nat Nat String := fun _ request =>
  match request with
  | .create _ => .done 8
  | .activate _ object | .validate _ object | .passivate _ object => .done object
  | .destroy .. => .failed "stuck"

/-- Of three more resources there is room for one. -/
theorem stocked_of_waiting : ∃ log session last calls,
    Session.replay narrow waiting = some (log, session) ∧
    session.pool.run willing.factory (.prefill 0 3) [] = (.done, last, calls) ∧
    last.numIdle 0 = 2 ∧ willing.creations 0 calls = 3 ∧ destroysUnder 0 calls = 2 := by
  have hfits : ∀ past ∈ Session.replay narrow waiting, past.2.pool.isClosed = false ∧
      past.2.pool.numIdle 0 = 1 ∧
      (past.2.pool.run willing.factory (.prefill 0 3) []).1 = .done := by
    decide +kernel
  have hplays : (Session.replay narrow waiting).isSome = true := by
    decide +kernel
  obtain ⟨⟨log, session⟩, hpast⟩ := Option.isSome_iff_exists.mp hplays
  obtain ⟨hopen, hidle, hresult⟩ := hfits _ hpast
  have hcalm : willing.Calm := by
    intro calls request reason
    cases request <;> simp [willing]
  obtain ⟨result, last, calls, kept, hruns, -, -, -, -, -, -, hsucceeds, -⟩ :=
    stocked_until_failure (Session.history_of_replay hpast).reachable 0 3 willing hcalm []
  rw [hruns] at hresult
  cases hresult
  obtain ⟨hmade, -, hlimit, hspent⟩ := hsucceeds rfl
  have hlast : last.numIdle 0 = 2 := by
    rw [hlimit 2 rfl, hidle]
    rfl
  have hnone : willing.creations 0 [] = 0 ∧ destroysUnder 0 ([] : List (Request Nat Nat)) = 0 :=
    ⟨rfl, rfl⟩
  rw [hnone.1] at hmade
  rw [hnone.2, hlast, hidle] at hspent
  exact ⟨log, session, last, calls, hpast, hruns, hlast, by omega, by omega⟩

end prefilling

end Pool

end ResourcePool
