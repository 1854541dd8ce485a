import ResourcePool.Proofs.Ends.Basic
import ResourcePool.Proofs.Plain.Lending

/-!
# Borrows that a panic cuts short

Any call of a borrow may panic: a create, the activation or the validation of a candidate, or the
destruction of one that is no good. The borrow then gives back everything but the candidates that it
has tried, and destroys the one that it has in hand.

* `Upsets` — a panic over a candidate, which is destroyed all the same.
* `Stops`, `Breaks` — how a panic ends a borrow among fresh candidates, and how it does at all.
* `Seeking`, `Restored` — what there is under the key while a borrow looks for a candidate, and when
  it has given its reservation up.
* `Tries` — what comes of one candidate; `stops_tryFresh`, `breaks_tryIdle` are the loops over it.
* `unwound_whole` — a borrow from any state that can be reached, with any factory that does not use
  the pool.
-/

set_option linter.unusedSectionVars false

namespace ResourcePool

variable {κ ω ε : Type} [DecidableEq κ]

namespace Pool

open PlainPool (Fails Discards Wastes activations_cons_create creations_create)

/-! ## How a panic ends a borrow -/

section ways

variable (config : Config) (reply : Replies κ ω ε) (key : κ)

/-- **A call about a candidate panics.** The next call destroys what there is of the candidate,
unless the call that panicked was that one. -/
inductive Upsets (calls : List (Request κ ω)) (object : ω) :
    Result ω ε → List (Request κ ω) → Prop where
  | activating {reason : String}
      (panics : reply calls (.activate key object) = .panicked reason) :
      Upsets calls object
        ((reply (.activate key object :: calls) (.destroy key object)).orPanic (.panicked reason))
        (.destroy key object :: .activate key object :: calls)
  | validating {ready : ω} {reason : String} (on : config.testOnBorrow = true)
      (activates : (reply calls (.activate key object)).success? = some ready)
      (panics : reply (.activate key object :: calls) (.validate key ready) = .panicked reason) :
      Upsets calls object
        ((reply (.validate key ready :: .activate key object :: calls)
          (.destroy key ready)).orPanic (.panicked reason))
        (.destroy key ready :: .validate key ready :: .activate key object :: calls)
  /-- The candidate is no good. -/
  | discarding {left : ω} {tested : List (Request κ ω)} {reason : String}
      (fails : Fails config reply key calls object left tested)
      (calm : reply.panics tested = reply.panics calls)
      (panics : reply tested (.destroy key left) = .panicked reason) :
      Upsets calls object (.panicked reason) (.destroy key left :: tested)

/-- **How a panic ends a borrow that has turned to fresh candidates**, with so many attempts left.
No call before has panicked. -/
inductive Stops (attempts : Nat) (calls : List (Request κ ω)) :
    Result ω ε → List (Request κ ω) → Prop where
  | candidate {number : Nat} {wasted last : List (Request κ ω)} {object : ω} {result : Result ω ε}
      (lt : number < attempts) (wastes : Wastes config reply key calls number wasted)
      (calm : reply.panics wasted = reply.panics calls)
      (creates : (reply wasted (.create key)).success? = some object)
      (upsets : Upsets config reply key (.create key :: wasted) object result last) :
      Stops attempts calls result last
  /-- There is no candidate to get rid of. -/
  | creating {number : Nat} {wasted : List (Request κ ω)} {reason : String}
      (lt : number < attempts) (wastes : Wastes config reply key calls number wasted)
      (calm : reply.panics wasted = reply.panics calls)
      (panics : reply wasted (.create key) = .panicked reason) :
      Stops attempts calls (.panicked reason) (.create key :: wasted)

/-- **How a panic ends a borrow**, with given idle candidates. It leaves the candidates that it has
not tried. -/
inductive Breaks (candidates : List ω) (calls : List (Request κ ω)) :
    Result ω ε → List ω → List (Request κ ω) → Prop where
  | idle {tried left : List ω} {object : ω} {discarded last : List (Request κ ω)}
      {result : Result ω ε} (split : candidates = tried ++ object :: left)
      (discards : Discards config reply key calls tried discarded)
      (calm : reply.panics discarded = reply.panics calls)
      (upsets : Upsets config reply key discarded object result last) :
      Breaks candidates calls result left last
  | fresh {discarded last : List (Request κ ω)} {result : Result ω ε}
      (discards : Discards config reply key calls candidates discarded)
      (calm : reply.panics discarded = reply.panics calls)
      (stops : Stops config reply key config.attempts discarded result last) :
      Breaks candidates calls result [] last

end ways

section readings

variable {config : Config} {reply : Replies κ ω ε} {key : κ} {calls last : List (Request κ ω)}
  {object : ω} {result : Result ω ε}

/-! ### A panic is a result -/

/-- A panic is followed by a panic, its own or a later one. -/
theorem panicked_orPanic (answer : Answer ω ε) (reason : String) :
    ∃ last, answer.orPanic (.panicked reason) = (.panicked last : Result ω ε) := by
  rcases answer.orPanic_cases (.panicked reason : Result ω ε) with ⟨heq, -⟩ | ⟨last, -, heq⟩
  · exact ⟨reason, heq⟩
  · exact ⟨last, heq⟩

/-- A panic over a candidate is the result, and there was none before. -/
theorem Upsets.panicked (upsets : Upsets config reply key calls object result last) :
    (∃ reason, result = .panicked reason) ∧ reply.panics calls < reply.panics last := by
  cases upsets with
  | activating panics =>
    refine ⟨panicked_orPanic _ _, Nat.lt_of_lt_of_le ?_ Replies.panics_le⟩
    rw [Replies.panics_of_panicked panics]
    exact Nat.lt_succ_self _
  | validating on activates panics =>
    refine ⟨panicked_orPanic _ _, Nat.lt_of_lt_of_le ?_ Replies.panics_le⟩
    rw [Replies.panics_of_panicked panics]
    exact Nat.lt_succ_of_le Replies.panics_le
  | discarding fails calm panics =>
    refine ⟨⟨_, rfl⟩, ?_⟩
    rw [Replies.panics_of_panicked panics, calm]
    exact Nat.lt_succ_self _

/-- So is one among fresh candidates. -/
theorem Stops.panicked {attempts : Nat}
    (stops : Stops config reply key attempts calls result last) :
    (∃ reason, result = .panicked reason) ∧ reply.panics calls < reply.panics last := by
  cases stops with
  | candidate lt wastes calm creates upsets =>
    obtain ⟨hpanicked, hlt⟩ := upsets.panicked
    refine ⟨hpanicked, ?_⟩
    rw [← calm]
    exact Nat.lt_of_le_of_lt Replies.panics_le hlt
  | creating lt wastes calm panics =>
    refine ⟨⟨_, rfl⟩, ?_⟩
    rw [Replies.panics_of_panicked panics, calm]
    exact Nat.lt_succ_self _

/-- So is one anywhere in a borrow. -/
theorem Breaks.panicked {candidates left : List ω}
    (breaks : Breaks config reply key candidates calls result left last) :
    (∃ reason, result = .panicked reason) ∧ reply.panics calls < reply.panics last := by
  cases breaks with
  | idle split discards calm upsets => exact calm ▸ upsets.panicked
  | fresh discards calm stops => exact calm ▸ stops.panicked

/-! ### Candidates are destroyed -/

/-- Activating destroys nothing. -/
@[simp] theorem destroysUnder_cons_activate (place key : κ) (object : ω)
    (calls : List (Request κ ω)) :
    destroysUnder place (.activate key object :: calls) = destroysUnder place calls := by
  simp [destroysUnder, Request.step]

/-- **Some calls have been made under one key**: so many candidates were tried and as many
destroyed, and so many of them had been created. Under other keys nothing was created and nothing
destroyed. -/
structure Spends (reply : Replies κ ω ε) (key : κ) (calls : List (Request κ ω))
    (created spent : Nat) (last : List (Request κ ω)) : Prop where
  creations_eq : ∀ place, reply.creations place last =
    reply.creations place calls + if place = key then created else 0
  destroys_eq : ∀ place, destroysUnder place last =
    destroysUnder place calls + if place = key then spent else 0
  activations_eq : activations last = activations calls + spent

/-- No calls create and destroy nothing. -/
theorem Spends.refl (calls : List (Request κ ω)) : Spends reply key calls 0 0 calls :=
  ⟨fun _ => by rw [ite_self, Nat.add_zero], fun _ => by rw [ite_self, Nat.add_zero], rfl⟩

/-- Calls that create and destroy so much, one after the other. -/
theorem Spends.trans {between : List (Request κ ω)} {created spent created' spent' : Nat}
    (first : Spends reply key calls created spent between)
    (second : Spends reply key between created' spent' last) :
    Spends reply key calls (created + created') (spent + spent') last where
  creations_eq place := by
    rw [second.creations_eq, first.creations_eq]
    split <;> omega
  destroys_eq place := by
    rw [second.destroys_eq, first.destroys_eq]
    split <;> omega
  activations_eq := by rw [second.activations_eq, first.activations_eq, Nat.add_assoc]

/-- A candidate is activated once and destroyed once, whether or not it is validated in between. -/
theorem spends_of_activate (object left : ω) (calls : List (Request κ ω)) :
    Spends reply key calls 0 1 (.destroy key left :: .activate key object :: calls) where
  creations_eq place := by rw [ite_self]; rfl
  destroys_eq place := by
    simp only [destroysUnder_cons_destroy, destroysUnder_cons_activate, eq_comm]
  activations_eq := by simp [activations, Request.step]

/-- A candidate that was validated in vain is destroyed once. -/
theorem spends_of_validate (object left ready : ω) (calls : List (Request κ ω)) :
    Spends reply key calls 0 1
      (.destroy key left :: .validate key ready :: .activate key object :: calls) where
  creations_eq place := by rw [ite_self]; rfl
  destroys_eq place := by
    simp only [destroysUnder_cons_destroy, destroysUnder_cons_validate, destroysUnder_cons_activate,
      eq_comm]
  activations_eq := by simp [activations, Request.step]

/-- A create that succeeds is one resource more. -/
theorem spends_of_create (creates : (reply calls (.create key)).success? = some object) :
    Spends reply key calls 1 0 (.create key :: calls) where
  creations_eq place := by
    rw [creations_create, creates]
    simp [eq_comm]
  destroys_eq place := by rw [destroysUnder_cons_create, ite_self, Nat.add_zero]
  activations_eq := activations_cons_create calls

/-- One that does not is none. -/
theorem spends_of_uncreated (fails : (reply calls (.create key)).success? = none) :
    Spends reply key calls 0 0 (.create key :: calls) where
  creations_eq place := by
    rw [creations_create, fails]
    simp
  destroys_eq place := by rw [destroysUnder_cons_create, ite_self, Nat.add_zero]
  activations_eq := activations_cons_create calls

/-- A candidate that is no good is destroyed once. -/
theorem spends_of_fails {left : ω} (fails : Fails config reply key calls object left last) :
    Spends reply key calls 0 1 (.destroy key left :: last) := by
  cases fails with
  | inactive fails => exact spends_of_activate object object calls
  | invalid on activates invalid => exact spends_of_validate object left left calls

/-- Every idle candidate that is discarded is destroyed once. -/
theorem spends_of_discards {objects : List ω}
    (discards : Discards config reply key calls objects last) :
    Spends reply key calls 0 objects.length last := by
  induction discards with
  | nil calls => exact .refl calls
  | cons fails rest ih =>
    rw [List.length_cons, Nat.add_comm]
    exact (spends_of_fails fails).trans ih

/-- Every fresh candidate that is wasted is created once and destroyed once. -/
theorem spends_of_wastes {number : Nat} (wastes : Wastes config reply key calls number last) :
    Spends reply key calls number number last := by
  induction wastes with
  | zero calls => exact .refl calls
  | succ creates fails rest ih =>
    have hone := (spends_of_create creates).trans (spends_of_fails fails)
    rw [Nat.add_comm _ 1]
    exact hone.trans ih

/-- The candidate that a panic is about is destroyed once. -/
theorem Upsets.spends (upsets : Upsets config reply key calls object result last) :
    Spends reply key calls 0 1 last := by
  cases upsets with
  | activating panics => exact spends_of_activate object object calls
  | @validating ready reason on activates panics =>
    exact spends_of_validate object ready ready calls
  | discarding fails calm panics => exact spends_of_fails fails

/-- All that was created is destroyed. -/
theorem Stops.spends {attempts : Nat} (stops : Stops config reply key attempts calls result last) :
    ∃ number, Spends reply key calls number number last := by
  cases stops with
  | candidate lt wastes calm creates upsets =>
    have hlast := (spends_of_create creates).trans upsets.spends
    exact ⟨_, (spends_of_wastes wastes).trans hlast⟩
  | @creating number wasted reason lt wastes calm panics =>
    have hnone : Spends reply key wasted 0 0 (.create key :: wasted) :=
      spends_of_uncreated (by rw [panics]; rfl)
    exact ⟨_, (spends_of_wastes wastes).trans hnone⟩

/-- **All candidates are destroyed but those that are left.** -/
theorem Breaks.spends {candidates left : List ω}
    (breaks : Breaks config reply key candidates calls result left last) :
    ∃ created spent, Spends reply key calls created spent last ∧
      spent + left.length = created + candidates.length := by
  cases breaks with
  | idle split discards calm upsets =>
    refine ⟨_, _, (spends_of_discards discards).trans upsets.spends, ?_⟩
    rw [split, List.length_append, List.length_cons]
    omega
  | fresh discards calm stops =>
    obtain ⟨number, hspends⟩ := stops.spends
    refine ⟨_, _, (spends_of_discards discards).trans hspends, ?_⟩
    rw [List.length_nil]
    omega

/-! ### Going on after a candidate -/

/-- A candidate has been destroyed and nothing has panicked. -/
theorem panics_of_discarded {left : ω} (calm : reply.panics last = reply.panics calls)
    (survives : ∀ reason, reply last (.destroy key left) ≠ .panicked reason) :
    reply.panics (.destroy key left :: last) = reply.panics calls := by
  rw [Replies.panics_of_survived survives, calm]

/-- A create that succeeds does not panic. -/
theorem panics_of_created (creates : (reply calls (.create key)).success? = some object) :
    reply.panics (.create key :: calls) = reply.panics calls :=
  Replies.panics_of_survived (Answer.not_panicked_of_success creates)

/-- A fresh candidate that is no good, before the panic. -/
theorem Stops.wasted {attempts : Nat} {tested : List (Request κ ω)} {left : ω}
    (creates : (reply calls (.create key)).success? = some object)
    (fails : Fails config reply key (.create key :: calls) object left tested)
    (calm : reply.panics (.destroy key left :: tested) = reply.panics calls)
    (stops : Stops config reply key attempts (.destroy key left :: tested) result last) :
    Stops config reply key (attempts + 1) calls result last := by
  cases stops with
  | candidate lt wastes calm' creates' upsets =>
    exact .candidate (Nat.succ_lt_succ lt) (.succ creates fails wastes) (calm'.trans calm) creates'
      upsets
  | creating lt wastes calm' panics =>
    exact .creating (Nat.succ_lt_succ lt) (.succ creates fails wastes) (calm'.trans calm) panics

/-- An idle candidate that is no good, before the panic. -/
theorem Breaks.discarded {candidates left : List ω} {tested : List (Request κ ω)} {rest : ω}
    (fails : Fails config reply key calls object rest tested)
    (calm : reply.panics (.destroy key rest :: tested) = reply.panics calls)
    (breaks : Breaks config reply key candidates (.destroy key rest :: tested) result left last) :
    Breaks config reply key (object :: candidates) calls result left last := by
  cases breaks with
  | idle split discards calm' upsets =>
    exact .idle (congrArg (object :: ·) split) (.cons fails discards) (calm'.trans calm) upsets
  | fresh discards calm' stops => exact .fresh (.cons fails discards) (calm'.trans calm) stops

end readings

/-! ## The key of a borrow -/

/-- **A borrow looks for a candidate.** Since it began, with some store, only its key has been
changed, which has the reservation of the borrow and the idle candidates that it has not tried. -/
structure Seeking (config : Config) (base : Store κ ω) (checkout : Checkout κ)
    (candidates : List ω) (pool : Pool κ ω ε) : Prop where
  sound : pool.store.Sound
  config_eq : pool.config = config
  selection_eq : pool.store.selection = config.selection
  linked : pool.store.find? checkout.key = some checkout.slot
  live_eq : pool.store.live checkout.key =
    Holding.slot ⟨config.selection.arrange candidates, (base.live checkout.key).active⟩
      ((base.live checkout.key).inFlight + 1)
  apart : Store.Apart checkout.key base pool.store

/-- **A borrow has given its reservation up.** Its key has what it had before but for the candidates
that were tried. -/
abbrev Restored (config : Config) (base : Store κ ω) (key : κ) (left : List ω)
    (store : Store κ ω) : Prop :=
  base.LeftWith key (Holding.slot ⟨config.selection.arrange left, (base.live key).active⟩
    (base.live key).inFlight) store

section seeking

variable {config : Config} {base : Store κ ω} {checkout : Checkout κ} {candidates : List ω}
  {pool next : Pool κ ω ε}

/-- Counting and noting leaves the candidates alone. -/
theorem Seeking.noted (seeking : Seeking config base checkout candidates pool)
    (noted : OnlyNoted pool next) : Seeking config base checkout candidates next := by
  obtain ⟨hconfig, hstore⟩ := noted
  refine ⟨?_, ?_, ?_, ?_, ?_, ?_⟩
  · exact hstore ▸ seeking.sound
  · rw [hconfig, seeking.config_eq]
  · rw [hstore, seeking.selection_eq]
  · rw [hstore, seeking.linked]
  · rw [hstore, seeking.live_eq]
  · exact hstore ▸ seeking.apart

/-- Giving the reservation up. -/
theorem Seeking.abandon (seeking : Seeking config base checkout candidates pool) :
    Restored config base checkout.key candidates (pool.abandon checkout).store := by
  have hleft := Store.leftWith_update_prune seeking.sound seeking.linked Slot.cancel
    (seeking.sound.live_current _)
  have hslot : (pool.store.live checkout.key).cancel =
      Holding.slot ⟨config.selection.arrange candidates, (base.live checkout.key).active⟩
        (base.live checkout.key).inFlight := by
    rw [seeking.live_eq]
    rfl
  rw [hslot] at hleft
  exact ⟨hleft.live_eq, hleft.unlinked, seeking.apart.trans hleft.apart⟩

/-- Taking the next candidate out. -/
theorem Seeking.take {object : ω} {rest : List ω}
    (seeking : Seeking config base checkout (object :: rest) pool) :
    ∃ store, pool.store.take checkout.slot = (some object, store) ∧
      Seeking config base checkout rest { pool with store := store } := by
  have hslot : (pool.store.live checkout.key).take? pool.store.selection =
      some (object, Holding.slot ⟨config.selection.arrange rest, (base.live checkout.key).active⟩
        ((base.live checkout.key).inFlight + 1)) := by
    rw [seeking.live_eq, seeking.selection_eq]
    exact Store.take?_slot _ _ _ _ _
  rcases Store.take_cases seeking.sound seeking.linked with
    ⟨hnone, -⟩ | ⟨taken, left, store, htake, heq, hfind, hbecomes⟩
  · have hperm := (Slot.take?_eq_some hslot).1
    rw [hnone] at hperm
    cases hperm.nil_eq
  · rw [hslot] at htake
    cases htake
    have hlinks : ∀ other, store.find? other = pool.store.find? other := by
      have hsame : ∀ other, (pool.store.take checkout.slot).2.find? other =
          pool.store.find? other := by
        intro other
        unfold Store.take
        split <;> rfl
      rwa [heq] at hsame
    have hrules := Store.rules_take pool.store checkout.slot
    rw [heq] at hrules
    refine ⟨store, heq, hbecomes.sound, seeking.config_eq, ?_, hfind, ?_, ?_⟩
    · exact (congrArg Prod.fst hrules).trans seeking.selection_eq
    · rw [hbecomes.live_eq, Function.update_self]
    · exact seeking.apart.trans (hbecomes.apart fun other _ => hlinks other)

/-- Without candidates nothing is taken. -/
theorem Seeking.take_nil (seeking : Seeking config base checkout [] pool) :
    pool.store.take checkout.slot = (none, pool.store) := by
  rcases Store.take_cases seeking.sound seeking.linked with
    ⟨-, heq⟩ | ⟨object, rest, store, htake, -, -, -⟩
  · exact heq
  · have hperm := (Slot.take?_eq_some htake).1
    have hidle : (pool.store.live checkout.key).idle = [] := by
      rw [seeking.live_eq, PlainPool.arrange_nil]
      rfl
    rw [hidle] at hperm
    cases hperm.nil_eq

end seeking

/-! ## The loops of a borrow -/

section loops

variable {config : Config} {base : Store κ ω} {reply : Replies κ ω ε} {checkout : Checkout κ}
  {candidates : List ω} {origin : Origin} {object : ω} {calls : List (Request κ ω)}

/-- **What comes of a candidate** of a borrow that is run to its end: it is lent, or it is destroyed
and the borrow goes on, or there is a panic over it. -/
inductive Tries (config : Config) (base : Store κ ω) (reply : Replies κ ω ε)
    (checkout : Checkout κ) (candidates : List ω) (origin : Origin) (object : ω)
    (calls : List (Request κ ω)) : Result ω ε × Pool κ ω ε × List (Request κ ω) → Prop where
  | lent {lent : ω} {pool : Pool κ ω ε} {last : List (Request κ ω)}
      (calm : reply.panics last = reply.panics calls) :
      Tries config base reply checkout candidates origin object calls (.lent lent, pool, last)
  | discarded {left : ω} {tested : List (Request κ ω)} {pool : Pool κ ω ε}
      (fails : Fails config reply checkout.key calls object left tested)
      (calm : reply.panics (.destroy checkout.key left :: tested) = reply.panics calls)
      (seeking : Seeking config base checkout candidates pool) :
      Tries config base reply checkout candidates origin object calls
        (complete reply.factory (pool.tryNext checkout origin)
          (.destroy checkout.key left :: tested))
  | upset {result : Result ω ε} {pool : Pool κ ω ε} {last : List (Request κ ω)}
      (upsets : Upsets config reply checkout.key calls object result last)
      (restored : Restored config base checkout.key candidates pool.store) :
      Tries config base reply checkout candidates origin object calls (result, pool, last)

variable (reply) in
/-- A panic goes on after the candidate has been destroyed. -/
theorem complete_unwind {pool : Pool κ ω ε}
    (seeking : Seeking config base checkout candidates pool) (object : ω) (reason : String)
    (calls : List (Request κ ω)) :
    ∃ last : Pool κ ω ε, Restored config base checkout.key candidates last.store ∧
      complete reply.factory (pool.destroyQuietly checkout.key object (.unwind checkout reason))
        calls = ((reply calls (.destroy checkout.key object)).orPanic (.panicked reason), last,
          .destroy checkout.key object :: calls) := by
  rcases (reply calls (.destroy checkout.key object)).orPanic_cases
    (.panicked reason : Result ω ε) with ⟨hresult, hsurvives⟩ | ⟨second, hpanics, hresult⟩
  · obtain ⟨next, hnoted, heq⟩ := pool.complete_survived reply calls checkout.key object
      (.unwind checkout reason) hsurvives
    refine ⟨next.abandon checkout, (seeking.noted hnoted).abandon, ?_⟩
    rw [heq, hresult]
    exact complete_finish _ _ _ _
  · obtain ⟨next, hnoted, heq⟩ := pool.complete_panicked reply calls checkout.key object
      (.quietly (.unwind checkout reason)) hpanics
    refine ⟨next.abandon checkout, (seeking.noted hnoted).abandon, ?_⟩
    unfold destroyQuietly
    rw [heq, hresult]
    exact complete_finish _ _ _ _

/-- A candidate that is no good is destroyed, and the borrow goes on unless that panics. -/
theorem tries_discard {pool : Pool κ ω ε}
    (seeking : Seeking config base checkout candidates pool) {left : ω}
    {tested : List (Request κ ω)}
    (fails : Fails config reply checkout.key calls object left tested)
    (calm : reply.panics tested = reply.panics calls) :
    Tries config base reply checkout candidates origin object calls
      (complete reply.factory (pool.discard checkout origin left) tested) := by
  obtain ⟨noted, hnoted, hdiscard⟩ : ∃ noted, OnlyNoted pool noted ∧
      pool.discard checkout origin left =
        noted.destroyQuietly checkout.key left (.nextCandidate checkout origin) := by
    cases origin with
    | idle => exact ⟨pool, ⟨rfl, rfl⟩, rfl⟩
    | fresh attempt => exact ⟨pool.note _, ⟨rfl, rfl⟩, rfl⟩
  rw [hdiscard]
  cases hanswer : reply tested (.destroy checkout.key left) with
  | panicked reason =>
    obtain ⟨next, hnext, heq⟩ := noted.complete_panicked reply tested checkout.key left
      (.quietly (.nextCandidate checkout origin)) hanswer
    have hends : complete reply.factory
        (noted.destroyQuietly checkout.key left (.nextCandidate checkout origin)) tested =
        (.panicked reason, next.abandon checkout, .destroy checkout.key left :: tested) :=
      heq.trans (complete_finish _ _ _ _)
    rw [hends]
    exact .upset (.discarding fails calm hanswer) ((seeking.noted hnoted).noted hnext).abandon
  | _ =>
    have hsurvives : ∀ reason, reply tested (.destroy checkout.key left) ≠ .panicked reason := by
      simp [hanswer]
    obtain ⟨next, hnext, heq⟩ := noted.complete_survived reply tested checkout.key left
      (.nextCandidate checkout origin) hsurvives
    rw [heq]
    exact .discarded fails (panics_of_discarded calm hsurvives)
      ((seeking.noted hnoted).noted hnext)

/-- A candidate that has been activated is validated if that is configured. -/
theorem tries_afterActivation {pool : Pool κ ω ε}
    (seeking : Seeking config base checkout candidates pool) {ready : ω}
    (activates : (reply calls (.activate checkout.key object)).success? = some ready) :
    Tries config base reply checkout candidates origin object calls
      (complete reply.factory (pool.afterActivation checkout origin ready)
        (.activate checkout.key object :: calls)) := by
  have hcalm : reply.panics (.activate checkout.key object :: calls) = reply.panics calls :=
    Replies.panics_of_survived (Answer.not_panicked_of_success activates)
  have hlent : ∀ {last : List (Request κ ω)}, reply.panics last = reply.panics calls →
      Tries config base reply checkout candidates origin object calls
        (complete reply.factory (pool.handOut checkout (some ready)) last) := by
    intro last hlast
    unfold handOut
    rw [complete_finish]
    exact .lent hlast
  have hnoted := fun event entry => seeking.noted (onlyNoted_count_note pool event entry)
  unfold afterActivation
  rw [seeking.config_eq]
  cases htest : config.testOnBorrow with
  | false =>
    rw [if_neg Bool.false_ne_true]
    exact hlent hcalm
  | true =>
    rw [if_pos rfl, complete_call]
    have hfails : (∀ same, reply (.activate checkout.key object :: calls)
          (.validate checkout.key ready) ≠ .done same) →
        Fails config reply checkout.key calls object ready
          (.validate checkout.key ready :: .activate checkout.key object :: calls) :=
      fun invalid => .invalid htest activates invalid
    simp only [Stage.request]
    cases hanswer : reply (.activate checkout.key object :: calls)
      (.validate checkout.key ready) with
    | done same =>
      apply hlent
      rw [Replies.panics_of_survived (by simp [hanswer]), hcalm]
    | refused same =>
      refine tries_discard (hnoted _ _) (hfails (by simp [hanswer])) ?_
      rw [Replies.panics_of_survived (by simp [hanswer]), hcalm]
    | failed error =>
      refine tries_discard (hnoted _ _) (hfails (by simp [hanswer])) ?_
      rw [Replies.panics_of_survived (by simp [hanswer]), hcalm]
    | panicked reason =>
      obtain ⟨last, hrestored, heq⟩ := complete_unwind reply seeking ready reason
        (.validate checkout.key ready :: .activate checkout.key object :: calls)
      have hresumed : pool.resume (.validating checkout origin ready) (.panicked reason) =
          pool.destroyQuietly checkout.key ready (.unwind checkout reason) := rfl
      rw [hresumed, heq]
      exact .upset (.validating htest activates hanswer) hrestored

variable (reply origin) in
/-- **Trying a candidate.** -/
theorem tries_activating {pool : Pool κ ω ε}
    (seeking : Seeking config base checkout candidates pool) (object : ω)
    (calls : List (Request κ ω)) :
    Tries config base reply checkout candidates origin object calls
      (complete reply.factory (pool.await (.activating checkout origin object)) calls) := by
  rw [complete_call]
  simp only [Stage.request]
  cases hanswer : reply calls (.activate checkout.key object) with
  | done ready => exact tries_afterActivation seeking (by rw [hanswer]; rfl)
  | refused ready => exact tries_afterActivation seeking (by rw [hanswer]; rfl)
  | failed error =>
    refine tries_discard (seeking.noted (onlyNoted_count_note pool _ _)) (.inactive hanswer) ?_
    exact Replies.panics_of_survived (by simp [hanswer])
  | panicked reason =>
    obtain ⟨last, hrestored, heq⟩ := complete_unwind reply seeking object reason
      (.activate checkout.key object :: calls)
    have hresumed : pool.resume (.activating checkout origin object) (.panicked reason) =
        pool.destroyQuietly checkout.key object (.unwind checkout reason) := rfl
    rw [hresumed, heq]
    exact .upset (.activating hanswer) hrestored

/-- A borrow ends without a panic. -/
def Calm (reply : Replies κ ω ε) (calls : List (Request κ ω))
    (ends : Result ω ε × Pool κ ω ε × List (Request κ ω)) : Prop :=
  reply.panics ends.2.2 = reply.panics calls ∧ ∀ reason, ends.1 ≠ .panicked reason

variable (reply) in
/-- **The loop of fresh candidates**, by induction on the attempts that are left. -/
theorem stops_tryFresh {pool : Pool κ ω ε} (seeking : Seeking config base checkout [] pool)
    (attempts attempt : Nat) (number : attempt + attempts = config.attempts + 1)
    (calls : List (Request κ ω)) :
    ∃ ends, complete reply.factory (pool.tryFresh checkout attempt) calls = ends ∧
      (Calm reply calls ends ∨
        Stops config reply checkout.key attempts calls ends.1 ends.2.2 ∧
          Restored config base checkout.key [] ends.2.1.store) := by
  refine ⟨_, rfl, ?_⟩
  induction attempts generalizing pool attempt calls with
  | zero =>
    have hnone : pool.tryFresh checkout attempt = (pool.abandon checkout).fail .exhausted := by
      unfold tryFresh
      rw [if_neg (by rw [seeking.config_eq]; omega)]
    rw [hnone]
    unfold fail
    rw [complete_finish]
    exact .inl ⟨rfl, by simp⟩
  | succ attempts ih =>
    have hsome : pool.tryFresh checkout attempt = pool.await (.creating checkout attempt) := by
      unfold tryFresh
      rw [if_pos (by rw [seeking.config_eq]; omega)]
    rw [hsome, complete_call]
    simp only [Stage.request]
    have hcreated : ∀ {object : ω}, (reply calls (.create checkout.key)).success? = some object →
        ∀ ends, complete reply.factory
          (((pool.count .created).note (.created checkout.key)).await
            (.activating checkout (.fresh attempt) object)) (.create checkout.key :: calls) =
          ends →
        (Calm reply calls ends ∨
          Stops config reply checkout.key (attempts + 1) calls ends.1 ends.2.2 ∧
            Restored config base checkout.key [] ends.2.1.store) := by
      intro object hcreates ends hends
      have hcalm := panics_of_created hcreates
      have htries := tries_activating reply (.fresh attempt)
        (seeking.noted (onlyNoted_count_note pool .created (.created checkout.key))) object
        (.create checkout.key :: calls)
      rw [hends] at htries
      cases htries with
      | lent calm => exact .inl ⟨calm.trans hcalm, by simp⟩
      | upset upsets restored =>
        exact .inr ⟨.candidate (Nat.succ_pos _) (.zero _) rfl hcreates upsets, restored⟩
      | discarded fails calm seeking =>
        have hcalls := calm.trans hcalm
        rcases ih seeking (attempt + 1) (by omega) _ with ⟨hpanics, hresult⟩ | ⟨hstops, hrestored⟩
        · exact .inl ⟨hpanics.trans hcalls, hresult⟩
        · exact .inr ⟨hstops.wasted hcreates fails hcalls, hrestored⟩
    cases hanswer : reply calls (.create checkout.key) with
    | done object => exact hcreated (by rw [hanswer]; rfl) _ rfl
    | refused object => exact hcreated (by rw [hanswer]; rfl) _ rfl
    | failed error =>
      have hends : complete reply.factory (pool.resume (.creating checkout attempt) (.failed error))
          (.create checkout.key :: calls) =
            (.failed (.factory error), pool.abandon checkout, .create checkout.key :: calls) :=
        complete_finish _ _ _ _
      rw [hends]
      exact .inl ⟨Replies.panics_of_survived (by simp [hanswer]), by simp⟩
    | panicked reason =>
      have hends : complete reply.factory
          (pool.resume (.creating checkout attempt) (.panicked reason))
          (.create checkout.key :: calls) =
            (.panicked reason, pool.abandon checkout, .create checkout.key :: calls) :=
        complete_finish _ _ _ _
      rw [hends]
      exact .inr ⟨.creating (Nat.succ_pos _) (.zero _) rfl hanswer, seeking.abandon⟩

/-- **The loop of idle candidates**, by induction on those that have not been tried. -/
theorem breaks_tryIdle {pool : Pool κ ω ε} (candidates : List ω)
    (seeking : Seeking config base checkout candidates pool) (calls : List (Request κ ω)) :
    ∃ ends, complete reply.factory (pool.tryIdle checkout) calls = ends ∧
      (Calm reply calls ends ∨
        ∃ left, Breaks config reply checkout.key candidates calls ends.1 left ends.2.2 ∧
          Restored config base checkout.key left ends.2.1.store) := by
  refine ⟨_, rfl, ?_⟩
  induction candidates generalizing pool calls with
  | nil =>
    have hnone : pool.tryIdle checkout = pool.tryFresh checkout 1 := by
      unfold tryIdle
      rw [seeking.take_nil]
    obtain ⟨ends, hends, hcalm | ⟨hstops, hrestored⟩⟩ :=
      stops_tryFresh reply seeking config.attempts 1 (Nat.add_comm _ _) calls
    · rw [hnone, hends]
      exact .inl hcalm
    · rw [hnone, hends]
      exact .inr ⟨[], .fresh (.nil _) rfl hstops, hrestored⟩
  | cons object rest ih =>
    obtain ⟨store, htake, htaken⟩ := seeking.take
    have hsome : pool.tryIdle checkout =
        ({ pool with store := store } : Pool κ ω ε).await (.activating checkout .idle object) := by
      unfold tryIdle
      rw [htake]
    have htries := tries_activating reply .idle htaken object calls
    rw [hsome]
    generalize complete reply.factory
      (({ pool with store := store } : Pool κ ω ε).await (.activating checkout .idle object))
      calls = ends at htries
    cases htries with
    | lent calm => exact .inl ⟨calm, by simp⟩
    | upset upsets restored => exact .inr ⟨rest, .idle rfl (.nil _) rfl upsets, restored⟩
    | discarded fails calm seeking =>
      rcases ih seeking _ with ⟨hpanics, hresult⟩ | ⟨left, hbreaks, hrestored⟩
      · exact .inl ⟨hpanics.trans calm, hresult⟩
      · exact .inr ⟨left, hbreaks.discarded fails calm, hrestored⟩

/-- A borrow that is not refused has all idle resources of its key to try. -/
theorem seeking_reserve {pool : Pool κ ω ε} (sound : pool.store.Sound)
    (config_eq : pool.config = config) (selection_eq : pool.store.selection = config.selection)
    {key : κ} {slot : SlotId} {store : Store κ ω}
    (reserves : pool.store.reserve key pool.config.activeLimit = (some slot, store)) :
    Seeking config pool.store ⟨key, slot⟩
      (config.selection.arrange (pool.store.live key).idle) { pool with store := store } := by
  have hrules := Store.rules_reserve pool.store key pool.config.activeLimit
  have hlinks : ∀ other, other ≠ key →
      (pool.store.reserve key pool.config.activeLimit).2.find? other = pool.store.find? other :=
    fun other ne => Store.find?_reserve_of_ne ne pool.config.activeLimit
  rcases Store.reserve_cases sound key pool.config.activeLimit with
    ⟨-, hnone, -⟩ | ⟨-, id, hsome, hlinked, hbecomes⟩
  · rw [reserves] at hnone
    cases hnone
  · rw [reserves] at hrules hlinks hsome hlinked hbecomes
    cases hsome
    refine ⟨hbecomes.sound, config_eq, ?_, hlinked, ?_, hbecomes.apart hlinks⟩
    · exact (congrArg Prod.fst hrules).trans selection_eq
    · rw [hbecomes.live_eq, Function.update_self, Store.arrange_arrange, Store.live_eq_slot sound]
      rfl

variable (reply) in
/-- **A borrow ends without a panic, or as a panic lets it end.** -/
theorem breaks_run {pool : Pool κ ω ε} (sound : pool.store.Sound) (config_eq : pool.config = config)
    (selection_eq : pool.store.selection = config.selection) (key : κ)
    (calls : List (Request κ ω)) :
    ∃ ends, pool.run reply.factory (.borrow key) calls = ends ∧
      (Calm reply calls ends ∨ ∃ left,
        Breaks config reply key (config.selection.arrange (pool.store.live key).idle) calls ends.1
          left ends.2.2 ∧
        Restored config pool.store key left ends.2.1.store) := by
  have hrefused : ∀ (next : Pool κ ω ε) (error : PoolError ε),
      Calm reply calls (complete reply.factory (next.fail error) calls) := by
    intro next error
    unfold fail
    rw [complete_finish]
    exact ⟨rfl, by simp⟩
  show ∃ ends, complete reply.factory (pool.borrow key) calls = ends ∧ _
  unfold borrow
  by_cases hclosed : pool.isClosed = true
  · rw [if_pos hclosed]
    exact ⟨_, rfl, .inl (hrefused _ _)⟩
  · rw [if_neg hclosed]
    cases hpass : pool.store.reserve key pool.config.activeLimit with
    | mk found store =>
      cases found with
      | none => exact ⟨_, rfl, .inl (hrefused _ _)⟩
      | some slot =>
        exact breaks_tryIdle _ (seeking_reserve sound config_eq selection_eq hpass) calls

end loops

/-! ## Borrows -/

section borrows

variable {config : Config} {session : Session κ ω ε}

/-- **A panic in a borrow leaves nothing behind.** In any state that can be reached, also while
other operations wait, a borrow ends in a panic exactly if one of its calls panics. It has then
ended as `Breaks` says: idle candidates and then fresh ones have been tried, each candidate that was
tried has been given to the factory once to be destroyed, also the one that the panic was about, and
the candidates that were left are idle in their order. The key has the loans and the reservations
that it had before, and no slot if nothing is left under it; other keys have what they had. For
every key, what was created less what was destroyed is on loan or idle as before. -/
theorem unwound_whole (reachable : Session.Reachable config session) (key : κ)
    (reply : Replies κ ω ε) (calls : List (Request κ ω)) :
    ∃ result last calls',
      session.pool.run reply.factory (.borrow key) calls = (result, last, calls') ∧
      ((∃ reason, result = .panicked reason) ↔ reply.panics calls < reply.panics calls') ∧
      ((∃ reason, result = .panicked reason) → ∃ left,
        Breaks config reply key (config.selection.arrange (session.pool.store.live key).idle) calls
          result left calls' ∧
        config.selection.arrange (last.store.live key).idle = left ∧
        last.numActive key = session.pool.numActive key ∧
        last.store.numInFlight key = session.pool.store.numInFlight key ∧
        (last.store.find? key = none ↔ (last.store.live key).isVacant = true) ∧
        (∀ other, other ≠ key → last.store.live other = session.pool.store.live other ∧
          last.store.find? other = session.pool.store.find? other) ∧
        destroysUnder key calls' + activations calls =
          destroysUnder key calls + activations calls' ∧
        ∀ place, reply.creations place calls' +
            (session.pool.numActive place + session.pool.numIdle place +
              destroysUnder place calls) =
          reply.creations place calls +
            (last.numActive place + last.numIdle place + destroysUnder place calls')) := by
  have hinOrder := Session.reachable_inOrder reachable
  obtain ⟨⟨result, last, calls'⟩, hruns, hends⟩ := breaks_run reply
    hinOrder.orderly.sound hinOrder.config_eq (Session.selection_of_reachable reachable) key calls
  refine ⟨result, last, calls', hruns, ?_⟩
  rcases hends with ⟨hpanics, hcalm⟩ | ⟨left, hbreaks, hrestored⟩
  · have hnone : ¬∃ reason, result = .panicked reason := fun ⟨reason, h⟩ => hcalm reason h
    exact ⟨⟨fun h => absurd h hnone, fun h => absurd h (by rw [hpanics]; exact Nat.lt_irrefl _)⟩,
      fun h => absurd h hnone⟩
  obtain ⟨hpanicked, hlt⟩ := hbreaks.panicked
  obtain ⟨created, spent, hspends, hspent⟩ := hbreaks.spends
  have hactive : last.numActive key = session.pool.numActive key := by
    unfold Pool.numActive
    rw [Store.numActive_eq, Store.numActive_eq, hrestored.live_eq]
    rfl
  have hidle : last.numIdle key = left.length := by
    unfold Pool.numIdle
    rw [Store.numIdle_eq, hrestored.live_eq]
    exact PlainPool.length_arrange _ _
  have hunlinked := hrestored.unlinked
  rw [← hrestored.live_eq] at hunlinked
  refine ⟨⟨fun _ => hlt, fun _ => hpanicked⟩, fun _ => ⟨left, hbreaks, ?_, hactive, ?_,
    hunlinked, fun other ne => ⟨hrestored.apart.live_eq other ne,
      hrestored.apart.find?_eq other ne⟩, ?_, ?_⟩⟩
  · rw [hrestored.live_eq]
    exact Store.arrange_arrange _ _
  · unfold Store.numInFlight
    rw [hrestored.live_eq]
    rfl
  · rw [hspends.destroys_eq, if_pos rfl, hspends.activations_eq]
    omega
  · intro place
    rw [hspends.creations_eq, hspends.destroys_eq]
    by_cases hplace : place = key
    · subst hplace
      have hbefore : session.pool.numIdle place = (session.pool.store.live place).idle.length :=
        session.pool.store.numIdle_eq place
      rw [PlainPool.length_arrange, ← hbefore] at hspent
      rw [if_pos rfl, if_pos rfl, hactive, hidle]
      omega
    · have hsame := hrestored.apart.live_eq place hplace
      rw [if_neg hplace, if_neg hplace]
      unfold Pool.numActive Pool.numIdle
      rw [Store.numActive_eq, Store.numActive_eq, Store.numIdle_eq, Store.numIdle_eq, hsame]
      omega

/-- The replies of a factory that cannot activate 8 and panics when it is to validate 7. It cannot
destroy anything. -/
def skittish : Replies Nat Nat String := fun _ request =>
  match request with
  | .create _ => .done 9
  | .activate _ object => if object = 8 then .failed "worn" else .done object
  | .validate _ object => if object = 7 then .panicked "boom" else .done object
  | .passivate _ object => .done object
  | .destroy .. => .failed "stuck"

/-- A borrow that tries 8 and then 7 destroys both, and its key has no slot any more. -/
theorem unwound_from_stocked : ∃ log session last calls,
    Session.replay PlainPool.choosy PlainPool.stocked = some (log, session) ∧
    session.pool.run skittish.factory (.borrow 0) [] = (.panicked "boom", last, calls) ∧
    skittish.panics [] < skittish.panics calls ∧
    (∃ left, Breaks PlainPool.choosy skittish 0 [8, 7] [] (.panicked "boom") left calls) ∧
    last.numActive 0 = 0 ∧ destroysUnder 0 calls = activations calls := by
  have hfits : ∀ past ∈ Session.replay PlainPool.choosy PlainPool.stocked,
      past.2.pool.numActive 0 = 0 ∧ (past.2.pool.store.live 0).idle = [8, 7] ∧
      (past.2.pool.run skittish.factory (.borrow 0) []).1 = .panicked "boom" := by
    decide +kernel
  have hplays : (Session.replay PlainPool.choosy PlainPool.stocked).isSome = true := by
    decide +kernel
  obtain ⟨⟨log, session⟩, hpast⟩ := Option.isSome_iff_exists.mp hplays
  obtain ⟨hactive, hidle, hresult⟩ := hfits _ hpast
  obtain ⟨result, last, calls, hruns, hpanics, hleaves⟩ :=
    unwound_whole (Session.history_of_replay hpast).reachable 0 skittish []
  rw [hruns] at hresult
  cases hresult
  obtain ⟨left, hbreaks, -, hloans, -, -, -, hdestroyed, -⟩ := hleaves ⟨_, rfl⟩
  rw [hidle] at hbreaks
  refine ⟨log, session, last, calls, hpast, hruns, hpanics.mp ⟨_, rfl⟩, ⟨left, hbreaks⟩,
    hloans.trans hactive, ?_⟩
  have hnone : destroysUnder 0 ([] : List (Request Nat Nat)) = 0 ∧
      activations ([] : List (Request Nat Nat)) = 0 := ⟨rfl, rfl⟩
  rw [hnone.1, hnone.2] at hdestroyed
  omega

end borrows

end Pool

end ResourcePool
