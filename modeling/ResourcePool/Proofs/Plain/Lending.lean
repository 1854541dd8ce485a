import ResourcePool.Proofs.Plain.Rest
import ResourcePool.Proofs.Session.History

/-!
# Borrowing from beginning to end

Which calls a borrow makes, in which order, and what it leaves, when the pool is open and its key is
below its limit and the factory neither uses the pool nor panics.

* `Passes`, `Fails` — how a candidate is found to be good or no good.
* `Discards`, `Wastes` — idle and fresh candidates that are no good, each destroyed before anything
  else is called.
* `Makes`, `Lends` — how a borrow ends when it turns to fresh candidates, and how it ends at all.
* `lends_in_order` — every borrow ends in one of these ways.
-/

set_option linter.unusedSectionVars false

namespace ResourcePool

variable {κ ω ε : Type} [DecidableEq κ]

/-- How many activations there are among some calls. -/
def activations (calls : List (Request κ ω)) : Nat :=
  calls.countP fun request => request.step = .activate

/-- How many loans a borrow has begun that ends with a result. -/
def Result.loans : Result ω ε → Nat
  | .lent _ => 1
  | _ => 0

namespace PlainPool

/-! ## Candidates -/

section candidates

variable (config : Config) (reply : Replies κ ω ε) (key : κ)

/-- **A candidate is found to be good**: from some calls to later ones, and as the resource that
activating it leaves. -/
inductive Passes (calls : List (Request κ ω)) (object lent : ω) : List (Request κ ω) → Prop where
  | untested (off : config.testOnBorrow = false)
      (activates : (reply calls (.activate key object)).success? = some lent) :
      Passes calls object lent (.activate key object :: calls)
  | tested {same : ω} (on : config.testOnBorrow = true)
      (activates : (reply calls (.activate key object)).success? = some lent)
      (valid : reply (.activate key object :: calls) (.validate key lent) = .done same) :
      Passes calls object lent (.validate key lent :: .activate key object :: calls)

/-- **A candidate is found to be no good.** What is left of it is to be destroyed. -/
inductive Fails (calls : List (Request κ ω)) (object : ω) : ω → List (Request κ ω) → Prop where
  | inactive {error : ε} (fails : reply calls (.activate key object) = .failed error) :
      Fails calls object object (.activate key object :: calls)
  | invalid {left : ω} (on : config.testOnBorrow = true)
      (activates : (reply calls (.activate key object)).success? = some left)
      (invalid : ∀ same, reply (.activate key object :: calls) (.validate key left) ≠ .done same) :
      Fails calls object left (.validate key left :: .activate key object :: calls)

/-- **Idle candidates are discarded one after another**: each is no good, and the next call destroys
it. -/
inductive Discards : List (Request κ ω) → List ω → List (Request κ ω) → Prop where
  | nil (calls : List (Request κ ω)) : Discards calls [] calls
  | cons {calls tested last : List (Request κ ω)} {object left : ω} {objects : List ω}
      (fails : Fails config reply key calls object left tested)
      (rest : Discards (.destroy key left :: tested) objects last) :
      Discards calls (object :: objects) last

/-- **So many fresh candidates are wasted**: each is created, is no good, and the next call destroys
it. -/
inductive Wastes : List (Request κ ω) → Nat → List (Request κ ω) → Prop where
  | zero (calls : List (Request κ ω)) : Wastes calls 0 calls
  | succ {calls tested last : List (Request κ ω)} {object left : ω} {number : Nat}
      (creates : (reply calls (.create key)).success? = some object)
      (fails : Fails config reply key (.create key :: calls) object left tested)
      (rest : Wastes (.destroy key left :: tested) number last) :
      Wastes calls (number + 1) last

/-- **How a borrow ends with so many attempts left to create a candidate.** -/
inductive Makes (attempts : Nat) (calls : List (Request κ ω)) :
    Result ω ε → List (Request κ ω) → Prop where
  /-- A fresh candidate is good, after some that were not. -/
  | lent {number : Nat} {wasted last : List (Request κ ω)} {object lent : ω}
      (lt : number < attempts) (wastes : Wastes config reply key calls number wasted)
      (creates : (reply wasted (.create key)).success? = some object)
      (passes : Passes config reply key (.create key :: wasted) object lent last) :
      Makes attempts calls (.lent lent) last
  /-- No candidate is created, and the error is handed on at once. -/
  | uncreated {number : Nat} {wasted : List (Request κ ω)} {error : ε}
      (lt : number < attempts) (wastes : Wastes config reply key calls number wasted)
      (fails : reply wasted (.create key) = .failed error) :
      Makes attempts calls (.failed (.factory error)) (.create key :: wasted)
  /-- No attempt is left. -/
  | exhausted {last : List (Request κ ω)} (wastes : Wastes config reply key calls attempts last) :
      Makes attempts calls (.failed .exhausted) last

/-- **How a borrow ends**, with given idle candidates. It leaves the candidates that it has not
tried. -/
inductive Lends (candidates : List ω) (calls : List (Request κ ω)) :
    Result ω ε → List ω → List (Request κ ω) → Prop where
  /-- An idle candidate is good, after some that were not. -/
  | reused {tried left : List ω} {object lent : ω} {discarded last : List (Request κ ω)}
      (split : candidates = tried ++ object :: left)
      (discards : Discards config reply key calls tried discarded)
      (passes : Passes config reply key discarded object lent last) :
      Lends candidates calls (.lent lent) left last
  /-- No idle candidate is good, and fresh ones are tried. -/
  | made {discarded last : List (Request κ ω)} {result : Result ω ε}
      (discards : Discards config reply key calls candidates discarded)
      (makes : Makes config reply key config.attempts discarded result last) :
      Lends candidates calls result [] last

/-- **What a borrow leaves**: under its key the candidates that it has not tried, and one loan more
if it has lent a resource; and everything else as it was. -/
structure Leaves (plain next : PlainPool κ ω) (result : Result ω ε) (left : List ω)
    (calls : List (Request κ ω)) : Prop where
  holdings_eq : next.holdings = Function.update plain.holdings key
    ⟨config.selection.arrange left, (plain.holdings key).active + result.loans⟩
  isClosed_eq : next.isClosed = plain.isClosed
  calls_eq : next.calls = calls

end candidates

/-! ## The loops of a borrow -/

section loops

variable {config : Config} {reply : Replies κ ω ε} {key : κ}

/-- A fresh candidate that is no good, before the attempts that are left. -/
theorem Makes.wasted {attempts : Nat} {calls tested last : List (Request κ ω)} {object left : ω}
    {result : Result ω ε} (creates : (reply calls (.create key)).success? = some object)
    (fails : Fails config reply key (.create key :: calls) object left tested)
    (makes : Makes config reply key attempts (.destroy key left :: tested) result last) :
    Makes config reply key (attempts + 1) calls result last := by
  cases makes with
  | lent lt wastes creates' passes =>
    exact .lent (Nat.succ_lt_succ lt) (.succ creates fails wastes) creates' passes
  | uncreated lt wastes fails' =>
    exact .uncreated (Nat.succ_lt_succ lt) (.succ creates fails wastes) fails'
  | exhausted wastes => exact .exhausted (.succ creates fails wastes)

/-- An idle candidate that is no good, before those that are left. -/
theorem Lends.discarded {candidates left : List ω} {calls tested last : List (Request κ ω)}
    {object rest : ω} {result : Result ω ε}
    (fails : Fails config reply key calls object rest tested)
    (lends : Lends config reply key candidates (.destroy key rest :: tested) result left last) :
    Lends config reply key (object :: candidates) calls result left last := by
  cases lends with
  | reused split discards passes =>
    exact .reused (congrArg (object :: ·) split) (.cons fails discards) passes
  | made discards makes => exact .made (.cons fails discards) makes

/-- A borrow that goes on after some calls leaves what it would have left without them. -/
theorem Leaves.after {plain next last : PlainPool κ ω} {result : Result ω ε} {left : List ω}
    {calls calls' : List (Request κ ω)} (called : OnlyCalled plain next calls)
    (leaves : Leaves config key next last result left calls') :
    Leaves config key plain last result left calls' where
  holdings_eq := by rw [leaves.holdings_eq, called.holdings_eq]
  isClosed_eq := leaves.isClosed_eq.trans called.isClosed_eq
  calls_eq := leaves.calls_eq

/-- The same after a candidate has been taken out. -/
theorem Leaves.after_take {plain taken last : PlainPool κ ω} {result : Result ω ε}
    {idle left : List ω} {calls : List (Request κ ω)}
    (takes : taken.holdings = Function.update plain.holdings key
      { plain.holdings key with idle := idle })
    (isClosed_eq : taken.isClosed = plain.isClosed)
    (leaves : Leaves config key taken last result left calls) :
    Leaves config key plain last result left calls where
  holdings_eq := by
    rw [leaves.holdings_eq, takes, Function.update_self, Function.update_idem]
  isClosed_eq := leaves.isClosed_eq.trans isClosed_eq
  calls_eq := leaves.calls_eq

/-- Nothing idle is in order. -/
@[simp] theorem arrange_nil (selection : Selection) : selection.arrange ([] : List ω) = [] := by
  cases selection <;> rfl

/-- The order of the candidates leaves their number. -/
@[simp] theorem length_arrange (selection : Selection) (objects : List ω) :
    (selection.arrange objects).length = objects.length := by
  cases selection with
  | lifo => rfl
  | fifo => exact List.length_reverse

/-- A borrow that lends nothing has nothing left to try, and leaves its key as it found it. -/
theorem leaves_of_unlent {plain next : PlainPool κ ω} {result : Result ω ε}
    {calls : List (Request κ ω)} (called : OnlyCalled plain next calls)
    (bare : (plain.holdings key).idle = []) (unlent : result.loans = 0) :
    Leaves config key plain next result [] calls where
  holdings_eq := by
    have hsame : plain.holdings key = ⟨[], (plain.holdings key).active⟩ := by
      rw [← bare]
    rw [called.holdings_eq, arrange_nil, unlent, Nat.add_zero, ← hsame, Function.update_eq_self]
  isClosed_eq := called.isClosed_eq
  calls_eq := called.calls_eq

end loops

section runs

variable (config : Config) {reply : Replies κ ω ε} (key : κ)

/-- Lending a resource, with given candidates left. -/
theorem lend_leaves (plain : PlainPool κ ω) (object : ω) {left : List ω}
    (holds : (plain.holdings key).idle = config.selection.arrange left) :
    ∃ next, Leaves config key plain next (.lent object : Result ω ε) left plain.calls ∧
      lend key object plain = ((.ok (.lent object), next) :
        Except String (Result ω ε) × PlainPool κ ω) := by
  refine ⟨_, ?_, rfl⟩
  refine ⟨?_, rfl, rfl⟩
  rw [← holds]
  rfl

variable (calm : reply.Calm)
include calm

/-- Preparing a candidate makes the calls that tell whether it is good. -/
theorem prepare_cases (object : ω) (plain : PlainPool κ ω) :
    (∃ lent last next, Passes config reply key plain.calls object lent last ∧
      OnlyCalled plain next last ∧
      prepare config reply key object plain = (.ok (.ok lent), next)) ∨
    (∃ left last next, Fails config reply key plain.calls object left last ∧
      OnlyCalled plain next last ∧
      prepare config reply key object plain = (.ok (.error left), next)) := by
  have hinspected : ∀ {ready : ω},
      (reply plain.calls (.activate key object)).success? = some ready →
      (∃ lent last next, Passes config reply key plain.calls object lent last ∧
        OnlyCalled plain next last ∧ inspect config reply key ready
          { plain with calls := .activate key object :: plain.calls } = (.ok (.ok lent), next)) ∨
      (∃ left last next, Fails config reply key plain.calls object left last ∧
        OnlyCalled plain next last ∧ inspect config reply key ready
          { plain with calls := .activate key object :: plain.calls } = (.ok (.error left), next)) := by
    intro ready hactivates
    unfold inspect
    cases htest : config.testOnBorrow with
    | false =>
      refine .inl ⟨ready, _, _, .untested htest hactivates, ?_, rfl⟩
      exact ⟨rfl, rfl, rfl, rfl⟩
    | true =>
      simp only [if_true]
      rw [consult_bind]
      cases hanswer : reply (.activate key object :: plain.calls) (.validate key ready) with
      | done same =>
        refine .inl ⟨ready, _, _, .tested htest hactivates hanswer, ?_, rfl⟩
        exact ⟨rfl, rfl, rfl, rfl⟩
      | panicked reason => exact absurd hanswer (calm _ _ reason)
      | _ =>
        refine .inr ⟨ready, _, _, .invalid htest hactivates ?_, ?_, rfl⟩
        · simp [hanswer]
        · exact ⟨rfl, rfl, rfl, rfl⟩
  unfold prepare
  rw [consult_bind]
  cases hanswer : reply plain.calls (.activate key object) with
  | done ready => exact hinspected (by rw [hanswer]; rfl)
  | refused ready => exact hinspected (by rw [hanswer]; rfl)
  | panicked reason => exact absurd hanswer (calm _ _ reason)
  | failed error =>
    refine .inr ⟨object, _, _, .inactive hanswer, ?_, rfl⟩
    exact ⟨rfl, rfl, rfl, rfl⟩

/-- A candidate is lent if it is good. Otherwise it is destroyed, and the borrow goes on. -/
theorem lendOr_cases (object : ω) (otherwise : Course κ ω (Result ω ε)) (plain : PlainPool κ ω) :
    (∃ lent last next, Passes config reply key plain.calls object lent last ∧
      OnlyCalled plain next last ∧
      lendOr config reply key object otherwise plain = lend key lent next) ∨
    (∃ left tested next, Fails config reply key plain.calls object left tested ∧
      OnlyCalled plain next (.destroy key left :: tested) ∧
      lendOr config reply key object otherwise plain = otherwise next) := by
  have hprepared : lendOr config reply key object otherwise plain =
      ExceptT.bindCont (decide reply key otherwise) (prepare config reply key object plain).1
        (prepare config reply key object plain).2 := rfl
  rw [hprepared]
  rcases prepare_cases config key calm object plain with
    ⟨lent, last, next, hpasses, hcalled, heq⟩ | ⟨left, tested, next, hfails, hcalled, heq⟩
  · rw [heq]
    exact .inl ⟨lent, last, next, hpasses, hcalled, rfl⟩
  · rw [heq]
    obtain ⟨final, hdestroyed, hrest⟩ :=
      destroy_bind calm key left (fun _ => otherwise) next
    rw [hcalled.calls_eq] at hdestroyed
    exact .inr ⟨left, tested, final, hfails, hcalled.trans hdestroyed, hrest⟩

/-- **The loop of fresh candidates**, by induction on the attempts that are left. -/
theorem tryFresh_makes (attempts : Nat) (plain : PlainPool κ ω)
    (bare : (plain.holdings key).idle = []) :
    ∃ result last next, Makes config reply key attempts plain.calls result last ∧
      Leaves config key plain next result [] last ∧
      tryFresh config reply key attempts plain = (.ok result, next) := by
  induction attempts generalizing plain with
  | zero =>
    exact ⟨_, _, plain, .exhausted (.zero _), leaves_of_unlent (.refl plain) bare rfl, rfl⟩
  | succ attempts ih =>
    have hcreated : ∀ {object : ω} (made : PlainPool κ ω),
        (reply plain.calls (.create key)).success? = some object →
        OnlyCalled plain made (.create key :: plain.calls) →
        ∃ result last next, Makes config reply key (attempts + 1) plain.calls result last ∧
          Leaves config key plain next result [] last ∧
          lendOr config reply key object (tryFresh config reply key attempts) made =
            (.ok result, next) := by
      intro object made hcreates hmade
      have hbare : ∀ {next calls}, OnlyCalled made next calls →
          (next.holdings key).idle = [] := by
        intro next calls hcalled
        rw [hcalled.holdings_eq, hmade.holdings_eq, bare]
      rcases lendOr_cases config key calm object
        (tryFresh config reply key attempts) made with
        ⟨lent, last, next, hpasses, hcalled, heq⟩ | ⟨left, tested, next, hfails, hcalled, heq⟩
      · rw [hmade.calls_eq] at hpasses
        have hempty : (next.holdings key).idle = config.selection.arrange [] := by
          rw [hbare hcalled, arrange_nil]
        obtain ⟨final, hleaves, hlent⟩ := lend_leaves (ε := ε) config key next lent hempty
        rw [hcalled.calls_eq] at hleaves
        exact ⟨.lent lent, last, final, .lent (Nat.succ_pos _) (.zero _) hcreates hpasses,
          (hleaves.after hcalled).after hmade, heq.trans hlent⟩
      · rw [hmade.calls_eq] at hfails
        obtain ⟨result, last, final, hmakes, hleaves, hrest⟩ := ih next (hbare hcalled)
        rw [hcalled.calls_eq] at hmakes
        exact ⟨result, last, final, hmakes.wasted hcreates hfails,
          (hleaves.after hcalled).after hmade, heq.trans hrest⟩
    show ∃ result last next, _ ∧ _ ∧ create reply key _ plain = (.ok result, next)
    unfold create
    rw [ask_bind]
    cases hanswer : reply plain.calls (.create key) with
    | done object => exact hcreated _ (by rw [hanswer]; rfl) ⟨rfl, rfl, rfl, rfl⟩
    | refused object => exact hcreated _ (by rw [hanswer]; rfl) ⟨rfl, rfl, rfl, rfl⟩
    | panicked reason => exact absurd hanswer (calm _ _ reason)
    | failed error =>
      refine ⟨_, _, _, .uncreated (Nat.succ_pos _) (.zero _) hanswer, ?_, rfl⟩
      exact leaves_of_unlent ⟨rfl, rfl, rfl, rfl⟩ bare rfl

/-- **The loop of idle candidates**, by induction on those that have not been tried. -/
theorem tryIdle_lends (candidates : List ω) (plain : PlainPool κ ω)
    (holds : (plain.holdings key).idle = config.selection.arrange candidates) :
    ∃ result left last next, Lends config reply key candidates plain.calls result left last ∧
      Leaves config key plain next result left last ∧
      tryIdle config reply key candidates plain = (.ok result, next) := by
  induction candidates generalizing plain with
  | nil =>
    obtain ⟨result, last, next, hmakes, hleaves, heq⟩ :=
      tryFresh_makes config key calm config.attempts plain
        (by rw [holds, arrange_nil])
    exact ⟨result, [], last, next, .made (.nil _) hmakes, hleaves, heq⟩
  | cons object candidates ih =>
    obtain ⟨taken, htakes, hclosed, hcalls, htaken⟩ : ∃ taken : PlainPool κ ω,
        taken.holdings = Function.update plain.holdings key
          { plain.holdings key with idle := config.selection.arrange candidates } ∧
        taken.isClosed = plain.isClosed ∧ taken.calls = plain.calls ∧
        tryIdle config reply key (object :: candidates) plain =
          lendOr config reply key object (tryIdle config reply key candidates) taken := by
      refine ⟨_, ?_, ?_, ?_, rfl⟩ <;> rfl
    have hheld : ∀ {next calls}, OnlyCalled taken next calls →
        (next.holdings key).idle = config.selection.arrange candidates := by
      intro next calls hcalled
      rw [hcalled.holdings_eq, htakes, Function.update_self]
    rw [htaken, ← hcalls]
    rcases lendOr_cases config key calm object
      (tryIdle config reply key candidates) taken with
      ⟨lent, last, next, hpasses, hcalled, heq⟩ | ⟨left, tested, next, hfails, hcalled, heq⟩
    · obtain ⟨final, hleaves, hlent⟩ := lend_leaves (ε := ε) config key next
        lent (hheld hcalled)
      rw [hcalled.calls_eq] at hleaves
      have hsplit : object :: candidates = [] ++ object :: candidates := rfl
      exact ⟨.lent lent, candidates, last, final, .reused hsplit (.nil _) hpasses,
        (hleaves.after hcalled).after_take htakes hclosed, heq.trans hlent⟩
    · obtain ⟨result, others, last, final, hlends, hleaves, hrest⟩ := ih next (hheld hcalled)
      rw [hcalled.calls_eq] at hlends
      exact ⟨result, others, last, final, hlends.discarded hfails,
        (hleaves.after hcalled).after_take htakes hclosed, heq.trans hrest⟩

end runs

/-! ## How often a borrow activates -/

section activations

variable {config : Config} {reply : Replies κ ω ε} {key : κ} {calls last : List (Request κ ω)}
  {object left : ω}

/-- A candidate that passes has been activated once. -/
theorem Passes.activations_eq (passes : Passes config reply key calls object left last) :
    activations last = activations calls + 1 := by
  cases passes <;> simp [activations, Request.step]

/-- So has one that fails. -/
theorem Fails.activations_eq (fails : Fails config reply key calls object left last) :
    activations last = activations calls + 1 := by
  cases fails <;> simp [activations, Request.step]

/-- A destroy is no activation. -/
@[simp] theorem activations_cons_destroy (calls : List (Request κ ω)) :
    activations (.destroy key object :: calls) = activations calls := by
  simp [activations, Request.step]

/-- Neither is creating a resource. -/
@[simp] theorem activations_cons_create (calls : List (Request κ ω)) :
    activations (.create key :: calls) = activations calls := by
  simp [activations, Request.step]

/-- Every idle candidate that is discarded has been activated once. -/
theorem Discards.activations_eq {objects : List ω}
    (discards : Discards config reply key calls objects last) :
    activations last = activations calls + objects.length := by
  induction discards with
  | nil calls => rfl
  | cons fails rest ih =>
    rw [ih, activations_cons_destroy, fails.activations_eq, List.length_cons]
    omega

/-- So has every fresh one. -/
theorem Wastes.activations_eq {number : Nat} (wastes : Wastes config reply key calls number last) :
    activations last = activations calls + number := by
  induction wastes with
  | zero calls => rfl
  | succ creates fails rest ih =>
    rw [ih, activations_cons_destroy, fails.activations_eq, activations_cons_create]
    omega

/-- No more fresh candidates are activated than may be created. -/
theorem Makes.activations_le {attempts : Nat} {result : Result ω ε}
    (makes : Makes config reply key attempts calls result last) :
    activations last ≤ activations calls + attempts := by
  cases makes with
  | lent lt wastes creates passes =>
    rw [passes.activations_eq, activations_cons_create, wastes.activations_eq]
    omega
  | uncreated lt wastes fails =>
    rw [activations_cons_create, wastes.activations_eq]
    omega
  | exhausted wastes => exact wastes.activations_eq.le

/-- Every candidate is activated once at most. -/
theorem Lends.activations_le {candidates others : List ω} {result : Result ω ε}
    (lends : Lends config reply key candidates calls result others last) :
    activations last ≤ activations calls + candidates.length + config.attempts := by
  cases lends with
  | reused split discards passes =>
    rw [passes.activations_eq, discards.activations_eq, split, List.length_append, List.length_cons]
    omega
  | made discards makes =>
    have hmade := makes.activations_le
    rw [discards.activations_eq] at hmade
    exact hmade

/-- A borrow lends a resource, or it fails and has tried all its candidates. -/
theorem Lends.result_cases {candidates others : List ω} {result : Result ω ε}
    (lends : Lends config reply key candidates calls result others last) :
    (∃ object, result = .lent object) ∨ ((∃ error, result = .failed error) ∧ others = []) := by
  cases lends with
  | reused split discards passes => exact .inl ⟨_, rfl⟩
  | made discards makes =>
    cases makes with
    | lent lt wastes creates passes => exact .inl ⟨_, rfl⟩
    | uncreated lt wastes fails => exact .inr ⟨⟨_, rfl⟩, rfl⟩
    | exhausted wastes => exact .inr ⟨⟨_, rfl⟩, rfl⟩

/-- A borrow is exhausted only after every idle candidate and as many fresh ones as it may create
have been discarded. -/
theorem Lends.wasted_of_exhausted {candidates others : List ω}
    (lends : Lends config reply key candidates calls (.failed .exhausted : Result ω ε) others last) :
    ∃ discarded, Discards config reply key calls candidates discarded ∧
      Wastes config reply key discarded config.attempts last := by
  cases lends with
  | made discards makes =>
    cases makes with
    | exhausted wastes => exact ⟨_, discards, wastes⟩

end activations

/-! ## Borrowing -/

/-- Below its limit a key is not at it. -/
theorem isReached_of_lt {limit : Option Nat} {number : Nat}
    (lt : ∀ most, limit = some most → number < most) : isReached limit number = false := by
  cases limit with
  | none => rfl
  | some most => simpa [isReached] using lt most rfl

/-- In an open pool with room under the key, a borrow comes to its idle candidates. -/
theorem borrow_of_room (config : Config) (reply : Replies κ ω ε) {key : κ} {plain : PlainPool κ ω}
    (isOpen : plain.isClosed = false)
    (room : isReached config.activeLimit (plain.holdings key).active = false) :
    borrow config reply key plain =
      tryIdle config reply key (config.selection.arrange (plain.holdings key).idle) plain := by
  show (if plain.isClosed = true then _ else if isReached config.activeLimit _ = true then _
    else tryIdle config reply key _ : Course κ ω (Result ω ε)) plain = _
  rw [isOpen, room]
  rfl

section lending

variable {config : Config} {session : Session κ ω ε}

/-- **Borrowing from beginning to end.** In an open pool whose key is below its limit a borrow tries
the idle resources in the order of the selection and then fresh ones, and it ends as `Lends` says;
it activates every candidate once at most. It begins one loan if it lends a resource, and none if it
fails, and then nothing is left idle. What it has not tried stays as it was, other keys have what
they had, and nothing stays reserved. It is exhausted only after the last fresh candidate has been
destroyed: a candidate that has passed is lent, so that `Pool.handOut` is never left without one.
The factory may fail at any call; it is only assumed that it does not panic and does not use the
pool. -/
theorem lends_in_order (reachable : Session.Reachable config session)
    (rest : session.running = []) (isOpen : session.pool.isClosed = false) {key : κ}
    (room : ∀ limit, config.activeLimit = some limit → session.pool.numActive key < limit)
    {reply : Replies κ ω ε} (calm : reply.Calm) (calls : List (Request κ ω)) :
    ∃ result left last calls',
      session.pool.run reply.factory (.borrow key) calls = (result, last, calls') ∧
      Lends config reply key (config.selection.arrange (session.pool.store.holding key).idle) calls
        result left calls' ∧
      activations calls' ≤ activations calls + session.pool.numIdle key + config.attempts ∧
      config.selection.arrange (last.store.holding key).idle = left ∧
      (result = .failed .exhausted → ∃ discarded,
        Discards config reply key calls
          (config.selection.arrange (session.pool.store.holding key).idle) discarded ∧
        Wastes config reply key discarded config.attempts calls') ∧
      ((∃ object, result = .lent object ∧
          last.numActive key = session.pool.numActive key + 1) ∨
        (∃ error, result = .failed error ∧
          last.numActive key = session.pool.numActive key ∧ last.numIdle key = 0)) ∧
      (∀ other, other ≠ key → last.store.live other = session.pool.store.live other) ∧
      ∀ other, last.store.numInFlight other = 0 := by
  have hagrees := agrees_of_rest reachable rest calls
  obtain ⟨order, result, next, last, -, hplain, hpool, hafter⟩ := hagrees.run reply (.borrow key)
  have hroom : isReached config.activeLimit (session.pool.store.holding key).active = false :=
    isReached_of_lt fun limit hlimit => by
      rw [← Pool.numActive_eq]
      exact room limit hlimit
  obtain ⟨ending, left, calls', final, hlends, hleaves, hborrows⟩ := tryIdle_lends config key calm
    (config.selection.arrange (session.pool.store.holding key).idle) (session.pool.plain calls)
    (Store.arrange_arrange _ _).symm
  have hruns : outcome (run config reply order (.borrow key)) (session.pool.plain calls) =
      (ending, final) := by
    show (Result.ofExcept (borrow config reply key (session.pool.plain calls)).1,
      (borrow config reply key (session.pool.plain calls)).2) = (ending, final)
    rw [borrow_of_room config reply isOpen hroom]
    exact congrArg (fun ends => (Result.ofExcept ends.1, ends.2)) hborrows
  obtain ⟨rfl, rfl⟩ := Prod.mk.inj (hruns.symm.trans hplain)
  have hholding : last.store.holding key = ⟨config.selection.arrange left,
      session.pool.numActive key + ending.loans⟩ := by
    rw [hafter.holding_eq, hleaves.holdings_eq, Function.update_self, Pool.numActive_eq]
    rfl
  have hactive : last.numActive key = session.pool.numActive key + ending.loans := by
    rw [Pool.numActive_eq, hholding]
  refine ⟨ending, left, last, calls', ?_, hlends, ?_, ?_, ?_, ?_, ?_, hafter.numInFlight_eq⟩
  · rw [← hleaves.calls_eq]
    exact hpool
  · have hactivations := hlends.activations_le
    rw [length_arrange, ← Pool.numIdle_eq] at hactivations
    exact hactivations
  · rw [hholding, Store.arrange_arrange]
  · rintro rfl
    exact hlends.wasted_of_exhausted
  · rcases hlends.result_cases with ⟨object, rfl⟩ | ⟨⟨error, rfl⟩, rfl⟩
    · exact .inl ⟨object, rfl, hactive⟩
    · refine .inr ⟨error, rfl, hactive, ?_⟩
      rw [Pool.numIdle_eq, hholding, arrange_nil]
      rfl
  · intro other hother
    apply hagrees.live_congr hafter
    rw [hleaves.holdings_eq, Function.update_of_ne hother]

/-- A pool with one loan under a key at most, which tests what it lends and creates twice. -/
def choosy : Config := (Config.standard.withTestOnBorrow.withMaxActive 1).withCreateAttempts 2

/-- The events of a short run: the resources 7 and 8 are added. -/
def stocked : List (Session.Event Nat Nat String) :=
  [.act (.call (.prefill 0 2)), .answer (.done 7), .answer (.done 7), .answer (.done 8),
    .answer (.done 8)]

/-- The replies of a factory that can activate everything but 8, finds 7 unusable and cannot destroy
anything. It creates 9. -/
def strict : Replies Nat Nat String := fun _ request =>
  match request with
  | .create _ => .done 9
  | .activate _ object => if object = 8 then .failed "worn" else .done object
  | .validate _ object => if object = 7 then .refused object else .done object
  | .passivate _ object => .done object
  | .destroy .. => .failed "stuck"

/-- A borrow tries 8 and then 7 and then two fresh resources at most. -/
theorem lends_of_stocked : ∃ log session result left last calls,
    Session.replay choosy stocked = some (log, session) ∧
    session.pool.run strict.factory (.borrow 0) [] = (result, last, calls) ∧
    Lends choosy strict 0 [8, 7] [] result left calls ∧ activations calls ≤ 0 + 2 + 2 ∧
    choosy.selection.arrange (last.store.holding 0).idle = left := by
  have hfits : ∀ past ∈ Session.replay choosy stocked, past.2.running.isEmpty = true ∧
      past.2.pool.isClosed = false ∧ past.2.pool.numActive 0 = 0 ∧
      (past.2.pool.store.holding 0).idle = [8, 7] := by
    decide +kernel
  have hplays : (Session.replay choosy stocked).isSome = true := by
    decide +kernel
  obtain ⟨⟨log, session⟩, hpast⟩ := Option.isSome_iff_exists.mp hplays
  obtain ⟨hrest, hopen, hactive, hidle⟩ := hfits _ hpast
  have hroom : ∀ limit, choosy.activeLimit = some limit → session.pool.numActive 0 < limit := by
    rintro limit ⟨⟩
    rw [hactive]
    decide
  have hcalm : strict.Calm := by
    intro calls request reason
    cases request <;> simp only [strict] <;> (try split) <;> simp
  obtain ⟨result, left, last, calls, hruns, hlends, hoften, hleft, -⟩ :=
    lends_in_order (Session.history_of_replay hpast).reachable (List.isEmpty_iff.mp hrest) hopen
      hroom hcalm []
  rw [hidle] at hlends
  rw [Pool.numIdle_eq, hidle] at hoften
  exact ⟨log, session, result, left, last, calls, hpast, hruns, hlends, hoften, hleft⟩

end lending

end PlainPool

end ResourcePool
