import ResourcePool.Proofs.Plain.Rest
import ResourcePool.Proofs.Pool.Handing
import ResourcePool.Proofs.Session.Accounting

/-!
# Returning from beginning to end

What becomes of a resource that comes back, with which result and after which calls, when the
factory neither uses the pool nor panics.

* `Cleared`, `Readies`, `Spoils` — how a resource is found fit to be kept, or not.
* `TakesBack` — the ways in which a return ends, with what it leaves under its key.
* `tended_complete` — a resource on its way back leaves no empty slot behind.
* `EndsLoan` — when a resource is kept, when it is destroyed, what the client hears and whether the
  key keeps a slot.
* `taken_back_once` — every return ends in one of these ways.
-/

set_option linter.unusedSectionVars false

namespace ResourcePool

variable {κ ω ε : Type} [DecidableEq κ]

/-- What is left when a loan ends and nothing is kept. -/
def Holding.released (holding : Holding ω) : Holding ω :=
  { holding with active := holding.active - 1 }

namespace PlainPool

/-! ## How a return ends -/

section returns

variable (config : Config) (reply : Replies κ ω ε) (key : κ)

/-- **Nothing is found against a resource**: it is not validated, or it is found usable. -/
inductive Cleared (calls : List (Request κ ω)) (object : ω) : List (Request κ ω) → Prop where
  | untested (off : config.testOnReturn = false) : Cleared calls object calls
  | tested {same : ω} (on : config.testOnReturn = true)
      (valid : reply calls (.validate key object) = .done same) :
      Cleared calls object (.validate key object :: calls)

/-- **A resource is ready to be kept**: nothing was found against it, and it is as its passivation
has left it. -/
inductive Readies (calls : List (Request κ ω)) (object ready : ω) : List (Request κ ω) → Prop where
  | passivated {cleared : List (Request κ ω)}
      (clears : Cleared config reply key calls object cleared)
      (passivates : (reply cleared (.passivate key object)).success? = some ready) :
      Readies calls object ready (.passivate key object :: cleared)

/-- **A resource cannot be kept**: it is found unusable, or it cannot be passivated. -/
inductive Spoils (calls : List (Request κ ω)) (object : ω) : List (Request κ ω) → Prop where
  | invalid (on : config.testOnReturn = true)
      (invalid : ∀ same, reply calls (.validate key object) ≠ .done same) :
      Spoils calls object (.validate key object :: calls)
  | unready {cleared : List (Request κ ω)} {error : ε}
      (clears : Cleared config reply key calls object cleared)
      (fails : reply cleared (.passivate key object) = .failed error) :
      Spoils calls object (.passivate key object :: cleared)

/-- **How a return ends**, with what was under its key: the result, what is under the key then, how
many resources are counted as returned, and the calls. -/
inductive TakesBack (isClosed : Bool) (holding : Holding ω) (calls : List (Request κ ω))
    (object : ω) : Result ω ε → Holding ω → Nat → List (Request κ ω) → Prop where
  /-- Nothing is on loan. -/
  | unborrowed (unloaned : holding.active = 0) :
      TakesBack isClosed holding calls object (.failed .notBorrowed) holding 0
        (.destroy key object :: calls)
  /-- The pool is closed. -/
  | shut (loaned : holding.active ≠ 0) (closed : isClosed = true) :
      TakesBack isClosed holding calls object .done holding.released 0
        (.destroy key object :: calls)
  /-- The resource cannot be kept, and the client hears of it if it cannot be destroyed either. -/
  | spoiled {spent : List (Request κ ω)} (loaned : holding.active ≠ 0) (isOpen : isClosed = false)
      (spoils : Spoils config reply key calls object spent) :
      TakesBack isClosed holding calls object (surface (reply spent (.destroy key object)).error?)
        holding.released 0 (.destroy key object :: spent)
  /-- The resource could be kept, but there is no room. -/
  | crowded {ready : ω} {spent : List (Request κ ω)} (loaned : holding.active ≠ 0)
      (isOpen : isClosed = false) (readies : Readies config reply key calls object ready spent)
      (full : isReached config.idleLimit holding.idle.length = true) :
      TakesBack isClosed holding calls object .done holding.released 0
        (.destroy key ready :: spent)
  /-- The resource is kept. -/
  | kept {ready : ω} {last : List (Request κ ω)} (loaned : holding.active ≠ 0)
      (isOpen : isClosed = false) (readies : Readies config reply key calls object ready last)
      (room : isReached config.idleLimit holding.idle.length = false) :
      TakesBack isClosed holding calls object .done ⟨ready :: holding.idle, holding.active - 1⟩ 1
        last

/-- A plain pool in which one key has been changed and so many resources have been counted as
returned. -/
structure Settles (plain next : PlainPool κ ω) (holding : Holding ω) (number : Nat)
    (calls : List (Request κ ω)) : Prop where
  holdings_eq : next.holdings = Function.update plain.holdings key holding
  returned_eq : next.tally.returned = plain.tally.returned + number
  calls_eq : next.calls = calls

/-- **A course ends as a return does** that has made the calls since some earlier ones. -/
def Concludes (calls : List (Request κ ω)) (object : ω) (course : Course κ ω (Result ω ε))
    (plain : PlainPool κ ω) : Prop :=
  ∃ result holding number last next,
    TakesBack config reply key plain.isClosed (plain.holdings key) calls object result holding
      number last ∧
    Settles key plain next holding number last ∧ course plain = (.ok result, next)

end returns

/-! ## The courses of a return -/

section courses

variable (config : Config) {reply : Replies κ ω ε} (key : κ)

variable {config key} in
/-- A course that begins with calls. -/
theorem Concludes.after {plain next : PlainPool κ ω} {calls calls' : List (Request κ ω)}
    {object : ω} {course first : Course κ ω (Result ω ε)} (called : OnlyCalled plain next calls')
    (concludes : Concludes config reply key calls object course next)
    (goes : first plain = course next) : Concludes config reply key calls object first plain := by
  obtain ⟨result, holding, number, last, final, htakesBack, hsettles, heq⟩ := concludes
  rw [called.isClosed_eq, called.holdings_eq] at htakesBack
  refine ⟨result, holding, number, last, final, htakesBack, ⟨?_, ?_, ?_⟩, goes.trans heq⟩
  · rw [hsettles.holdings_eq, called.holdings_eq]
  · rw [hsettles.returned_eq, called.returned_eq]
  · exact hsettles.calls_eq

variable (calm : reply.Calm)
include calm

/-- A loan is ended, and the resource is destroyed before the course goes on. -/
theorem endLoan_destroy (object : ω) (rest : Option ε → Course κ ω (Result ω ε))
    (plain : PlainPool κ ω) :
    ∃ next, Settles key plain next (plain.holdings key).released 0
        (.destroy key object :: plain.calls) ∧
      (do endLoan key; rest (← destroy reply key object) : Course κ ω (Result ω ε)) plain =
        rest (reply plain.calls (.destroy key object)).error? next := by
  obtain ⟨next, hcalled, heq⟩ := destroy_bind calm key object rest
    { plain with holdings := Function.update plain.holdings key (plain.holdings key).released }
  exact ⟨next, ⟨hcalled.holdings_eq, hcalled.returned_eq, hcalled.calls_eq⟩, heq⟩

/-- A resource that is ready is kept or, for lack of room, destroyed. -/
theorem concludes_putBack {calls : List (Request κ ω)} {object ready : ω} (plain : PlainPool κ ω)
    (loaned : (plain.holdings key).active ≠ 0) (isOpen : plain.isClosed = false)
    (readies : Readies config reply key calls object ready plain.calls) :
    Concludes config reply key calls object (putBack config reply key ready) plain := by
  have hlooked : putBack config reply key ready plain =
      (if isReached config.idleLimit (plain.holdings key).idle.length = true
        then (do endLoan key; let _ ← destroy reply key ready; return .done :
          Course κ ω (Result ω ε))
        else do
          hold key ⟨ready :: (plain.holdings key).idle, (plain.holdings key).active - 1⟩
          count .returned
          return .done) plain := rfl
  unfold Concludes
  rw [hlooked]
  cases hroom : isReached config.idleLimit (plain.holdings key).idle.length with
  | true =>
    obtain ⟨next, hsettles, heq⟩ := endLoan_destroy key calm ready (fun _ => pure .done) plain
    exact ⟨_, _, _, _, next, .crowded loaned isOpen readies hroom, hsettles, heq⟩
  | false =>
    refine ⟨_, _, _, _, _, .kept loaned isOpen readies hroom, ?_, rfl⟩
    exact ⟨rfl, rfl, rfl⟩

/-- A resource that cannot be kept is destroyed. -/
theorem concludes_scrap {calls : List (Request κ ω)} {object : ω} (plain : PlainPool κ ω)
    (loaned : (plain.holdings key).active ≠ 0) (isOpen : plain.isClosed = false)
    (spoils : Spoils config reply key calls object plain.calls) :
    Concludes config reply key calls object (scrap reply key object) plain := by
  obtain ⟨next, hsettles, heq⟩ :=
    endLoan_destroy key calm object (fun error? => pure (surface error?)) plain
  exact ⟨_, _, _, _, next, .spoiled loaned isOpen spoils, hsettles, heq⟩

/-- A resource with nothing found against it is passivated. -/
theorem concludes_keep {calls : List (Request κ ω)} {object : ω} (plain : PlainPool κ ω)
    (loaned : (plain.holdings key).active ≠ 0) (isOpen : plain.isClosed = false)
    (clears : Cleared config reply key calls object plain.calls) :
    Concludes config reply key calls object (keep config reply key object) plain := by
  have hkept : ∀ {ready : ω}, (reply plain.calls (.passivate key object)).success? = some ready →
      Concludes config reply key calls object (putBack config reply key ready)
        { plain with calls := .passivate key object :: plain.calls } := fun hpassivates =>
    concludes_putBack config key calm _ loaned isOpen (.passivated clears hpassivates)
  have hcalled : OnlyCalled plain
      { plain with calls := .passivate key object :: plain.calls }
      (.passivate key object :: plain.calls) := ⟨rfl, rfl, rfl, rfl⟩
  have hcounted : OnlyCalled plain
      { plain with
        calls := .passivate key object :: plain.calls
        tally := plain.tally.bump .passivationFailures }
      (.passivate key object :: plain.calls) := ⟨rfl, rfl, rfl, rfl⟩
  unfold keep
  cases hanswer : reply plain.calls (.passivate key object) with
  | done ready =>
    refine (hkept (by rw [hanswer]; rfl)).after hcalled ?_
    rw [ask_bind, hanswer]
    rfl
  | refused ready =>
    refine (hkept (by rw [hanswer]; rfl)).after hcalled ?_
    rw [ask_bind, hanswer]
    rfl
  | panicked reason => exact absurd hanswer (calm _ _ reason)
  | failed error =>
    refine .after hcounted (concludes_scrap config key calm _ ?_ ?_ (.unready clears hanswer)) ?_
    · exact loaned
    · exact isOpen
    · rw [ask_bind, hanswer]
      rfl

/-- A resource is validated before it is kept, if that is configured. -/
theorem concludes_keepValid {object : ω} (plain : PlainPool κ ω)
    (on : config.testOnReturn = true) (loaned : (plain.holdings key).active ≠ 0)
    (isOpen : plain.isClosed = false) :
    Concludes config reply key plain.calls object (keepValid config reply key object) plain := by
  have hcalled : OnlyCalled plain
      { plain with calls := .validate key object :: plain.calls }
      (.validate key object :: plain.calls) := ⟨rfl, rfl, rfl, rfl⟩
  have hcounted : OnlyCalled plain
      { plain with
        calls := .validate key object :: plain.calls
        tally := plain.tally.bump .validationFailures }
      (.validate key object :: plain.calls) := ⟨rfl, rfl, rfl, rfl⟩
  have hspoiled : (∀ same, reply plain.calls (.validate key object) ≠ .done same) →
      keepValid config reply key object plain = scrap reply key object
        { plain with
          calls := .validate key object :: plain.calls
          tally := plain.tally.bump .validationFailures } →
      Concludes config reply key plain.calls object (keepValid config reply key object) plain := by
    intro hinvalid hgoes
    refine .after hcounted (concludes_scrap config key calm _ ?_ ?_ (.invalid on hinvalid)) hgoes
    · exact loaned
    · exact isOpen
  unfold keepValid at hspoiled ⊢
  rw [ask_bind] at hspoiled
  cases hanswer : reply plain.calls (.validate key object) with
  | done same =>
    refine .after hcalled (concludes_keep config key calm _ ?_ ?_ (.tested on hanswer)) ?_
    · exact loaned
    · exact isOpen
    · rw [ask_bind, hanswer]
      rfl
  | panicked reason => exact absurd hanswer (calm _ _ reason)
  | refused same => exact hspoiled (by simp [hanswer]) (by rw [hanswer]; rfl)
  | failed error => exact hspoiled (by simp [hanswer]) (by rw [hanswer]; rfl)

/-- **Every return ends in one of the ways that there are.** -/
theorem concludes_giveBack (object : ω) (plain : PlainPool κ ω) :
    Concludes config reply key plain.calls object (giveBack config reply key object) plain := by
  have hlooked : giveBack config reply key object plain =
      (if (plain.holdings key).active = 0
        then (do let _ ← destroy reply key object; return .failed .notBorrowed :
          Course κ ω (Result ω ε))
        else if plain.isClosed = true
          then (do endLoan key; let _ ← destroy reply key object; return .done)
        else if config.testOnReturn = true then keepValid config reply key object
        else keep config reply key object) plain := rfl
  by_cases hunloaned : (plain.holdings key).active = 0
  · rw [if_pos hunloaned] at hlooked
    obtain ⟨next, hcalled, heq⟩ :=
      destroy_bind calm key object
        (fun _ => (pure (.failed .notBorrowed) : Course κ ω (Result ω ε))) plain
    refine ⟨_, _, 0, _, next, .unborrowed hunloaned, ⟨?_, hcalled.returned_eq, hcalled.calls_eq⟩,
      hlooked.trans heq⟩
    rw [hcalled.holdings_eq, Function.update_eq_self]
  rw [if_neg hunloaned] at hlooked
  cases hclosed : plain.isClosed with
  | true =>
    rw [if_pos hclosed] at hlooked
    obtain ⟨next, hsettles, heq⟩ := endLoan_destroy key calm object (fun _ => pure .done) plain
    exact ⟨_, _, _, _, next, .shut hunloaned hclosed, hsettles, hlooked.trans heq⟩
  | false =>
    rw [if_neg (by simp [hclosed])] at hlooked
    cases htest : config.testOnReturn with
    | true =>
      rw [if_pos htest] at hlooked
      exact .after (.refl plain) (concludes_keepValid config key calm plain htest hunloaned hclosed)
        hlooked
    | false =>
      rw [if_neg (by simp [htest])] at hlooked
      exact .after (.refl plain)
        (concludes_keep config key calm plain hunloaned hclosed (.untested htest)) hlooked

end courses

/-! ## When a resource is kept -/

section readings

variable {config : Config} {reply : Replies κ ω ε} {key : κ} {calls last last' : List (Request κ ω)}
  {object ready ready' : ω} {isClosed : Bool} {holding after : Holding ω} {result : Result ω ε}
  {number : Nat}

/-- The calls that clear a resource are given by the replies. -/
theorem Cleared.unique (clears : Cleared config reply key calls object last)
    (others : Cleared config reply key calls object last') : last = last' := by
  cases clears with
  | untested off =>
    cases others with
    | untested _ => rfl
    | tested on _ => simp [off] at on
  | tested on valid =>
    cases others with
    | untested off => simp [off] at on
    | tested _ _ => rfl

/-- What a resource is like when it is ready is given by the replies. -/
theorem Readies.unique (readies : Readies config reply key calls object ready last)
    (others : Readies config reply key calls object ready' last') : ready = ready' := by
  obtain ⟨hclears, hpassivates⟩ := readies
  obtain ⟨hclears', hpassivates'⟩ := others
  rw [← hclears.unique hclears', hpassivates] at hpassivates'
  exact Option.some.inj hpassivates'

/-- A resource that was found unusable has something found against it. -/
theorem not_cleared_of_invalid (on : config.testOnReturn = true)
    (invalid : ∀ same, reply calls (.validate key object) ≠ .done same) :
    ¬Cleared config reply key calls object last := by
  rintro (off | ⟨-, valid⟩)
  · simp [off] at on
  · exact invalid _ valid

/-- A resource that is not fit is found out by the same calls. -/
theorem Spoils.unique (spoils : Spoils config reply key calls object last)
    (others : Spoils config reply key calls object last') : last = last' := by
  cases spoils with
  | invalid on invalid =>
    cases others with
    | invalid _ _ => rfl
    | unready clears _ => exact absurd clears (not_cleared_of_invalid on invalid)
  | unready clears fails =>
    cases others with
    | invalid on invalid => exact absurd clears (not_cleared_of_invalid on invalid)
    | unready clears' _ => rw [clears.unique clears']

/-- A resource that is ready is not found unfit to be kept. -/
theorem Readies.not_spoils (readies : Readies config reply key calls object ready last)
    (spent : List (Request κ ω)) : ¬Spoils config reply key calls object spent := by
  obtain ⟨hclears, hpassivates⟩ := readies
  intro hspoils
  cases hspoils with
  | invalid on invalid => exact not_cleared_of_invalid on invalid hclears
  | unready clears fails =>
    rw [← clears.unique hclears, fails] at hpassivates
    cases hpassivates

/-- Finding out about a resource destroys nothing. -/
theorem Cleared.destroysUnder_eq (clears : Cleared config reply key calls object last) :
    destroysUnder key last = destroysUnder key calls := by
  cases clears with
  | untested off => rfl
  | tested on valid => rw [destroysUnder_cons_validate]

/-- Nothing is destroyed while a resource is made ready. -/
theorem Readies.destroysUnder_eq (readies : Readies config reply key calls object ready last) :
    destroysUnder key last = destroysUnder key calls := by
  obtain ⟨hclears, -⟩ := readies
  rw [destroysUnder_cons_passivate, hclears.destroysUnder_eq]

/-- Nothing is destroyed before a resource has been found unfit. -/
theorem Spoils.destroysUnder_eq (spoils : Spoils config reply key calls object last) :
    destroysUnder key last = destroysUnder key calls := by
  cases spoils with
  | invalid on invalid => rw [destroysUnder_cons_validate]
  | unready clears fails => rw [destroysUnder_cons_passivate, clears.destroysUnder_eq]

section takesBack

variable (takesBack : TakesBack config reply key isClosed holding calls object result after number
  last)
include takesBack

/-- A return is refused just if nothing is on loan. -/
theorem TakesBack.notBorrowed_iff : result = .failed .notBorrowed ↔ holding.active = 0 := by
  cases takesBack with
  | unborrowed unloaned => simp [unloaned]
  | shut loaned closed => simp [loaned]
  | crowded loaned isOpen readies full => simp [loaned]
  | kept loaned isOpen readies room => simp [loaned]
  | @spoiled spent loaned isOpen spoils =>
    cases (reply spent (.destroy key object)).error? <;> simp [loaned, surface]

/-- A return that is refused leaves the key alone, and destroys what came back. -/
theorem TakesBack.of_unloaned (unloaned : holding.active = 0) :
    after = holding ∧ number = 0 ∧ last = .destroy key object :: calls := by
  cases takesBack with
  | unborrowed _ => exact ⟨rfl, rfl, rfl⟩
  | _ => contradiction

variable (loaned : holding.active ≠ 0)
include loaned

/-- A return of a loan ends it. -/
theorem TakesBack.active_eq : after.active + 1 = holding.active := by
  have hpositive := Nat.pos_of_ne_zero loaned
  cases takesBack with
  | unborrowed unloaned => contradiction
  | kept _ _ _ _ => exact Nat.sub_add_cancel hpositive
  | _ => exact Nat.sub_add_cancel hpositive

/-- A resource is kept exactly if the pool is open, the resource is ready and there is room. -/
theorem TakesBack.kept_iff (ready : ω) : after.idle = ready :: holding.idle ↔
    isClosed = false ∧ (∃ spent, Readies config reply key calls object ready spent) ∧
      isReached config.idleLimit holding.idle.length = false := by
  cases takesBack with
  | unborrowed unloaned => contradiction
  | shut _ closed => simp [Holding.released, closed]
  | spoiled _ _ spoils =>
    have hnever : ∀ spent, ¬Readies config reply key calls object ready spent :=
      fun _ readies => readies.not_spoils _ spoils
    simp [Holding.released, hnever]
  | crowded _ _ _ full => simp [Holding.released, full]
  | kept _ isOpen readies room =>
    constructor
    · intro hkept
      obtain ⟨rfl, -⟩ := List.cons.inj hkept
      exact ⟨isOpen, ⟨_, readies⟩, room⟩
    · rintro ⟨-, ⟨spent, hreadies⟩, -⟩
      rw [hreadies.unique readies]

/-- A resource that is kept is counted and not destroyed. -/
theorem TakesBack.of_kept (kept : after.idle = ready :: holding.idle) :
    number = 1 ∧ destroysUnder key last = destroysUnder key calls := by
  cases takesBack with
  | unborrowed unloaned => contradiction
  | kept _ _ readies _ => exact ⟨rfl, readies.destroysUnder_eq⟩
  | _ => simp [Holding.released] at kept

/-- A resource that is not kept is destroyed once. -/
theorem TakesBack.of_unkept (unkept : ∀ ready, after.idle ≠ ready :: holding.idle) :
    after.idle = holding.idle ∧ number = 0 ∧
      destroysUnder key last = destroysUnder key calls + 1 := by
  cases takesBack with
  | unborrowed unloaned => contradiction
  | shut _ _ => exact ⟨rfl, rfl, by rw [destroysUnder_cons_destroy, if_pos rfl]⟩
  | spoiled _ _ spoils =>
    refine ⟨rfl, rfl, ?_⟩
    rw [destroysUnder_cons_destroy, if_pos rfl, spoils.destroysUnder_eq]
  | crowded _ _ readies _ =>
    refine ⟨rfl, rfl, ?_⟩
    rw [destroysUnder_cons_destroy, if_pos rfl, readies.destroysUnder_eq]
  | kept _ _ _ _ => exact absurd rfl (unkept _)

/-- The client hears of a failure exactly if a resource that cannot be kept cannot be destroyed. -/
theorem TakesBack.failed_iff (error : ε) : result = .failed (.factory error) ↔
    isClosed = false ∧ ∃ spent, Spoils config reply key calls object spent ∧
      reply spent (.destroy key object) = .failed error := by
  cases takesBack with
  | unborrowed unloaned => contradiction
  | shut _ closed => simp [closed]
  | @spoiled spent _ isOpen spoils =>
    have hsurface : surface (ω := ω) (reply spent (.destroy key object)).error? =
        .failed (.factory error) ↔ reply spent (.destroy key object) = .failed error := by
      cases reply spent (.destroy key object) <;> simp [surface, Answer.error?]
    rw [hsurface]
    constructor
    · intro hfails
      exact ⟨isOpen, spent, spoils, hfails⟩
    · rintro ⟨-, other, hspoils, hfails⟩
      rwa [spoils.unique hspoils]
  | crowded _ _ readies _ => simp [readies.not_spoils]
  | kept _ _ readies _ => simp [readies.not_spoils]

/-- A return of a loan succeeds, or it fails with an error of the factory. -/
theorem TakesBack.done_of_unfailed (unfailed : ∀ error, result ≠ .failed (.factory error)) :
    result = .done := by
  cases takesBack with
  | unborrowed unloaned => contradiction
  | @spoiled spent _ _ _ =>
    cases hanswer : (reply spent (.destroy key object)).error? with
    | none => rfl
    | some error => exact absurd (by rw [hanswer]; rfl) (unfailed error)
  | _ => rfl

end takesBack

end readings

/-! ## Slots -/

/-- **A resource on its way back leaves no empty slot behind**: a key that has one when the
operation is over had one before. By induction on the calls that are still to be answered. -/
theorem tended_complete {reply : Replies κ ω ε} (calm : reply.Calm) {key : κ}
    {turn : Pool.Turn κ ω ε} (orderly : Pool.Orderly turn.1 turn.2.stages)
    (back : ∀ stage ∈ turn.2.stages, ∃ object, stage.HandsBack key object)
    (calls : List (Request κ ω)) :
    Store.Tended [] turn.1.store (Pool.complete reply.factory turn calls).2.1.store := by
  induction turn, calls using Pool.complete.induct reply.factory with
  | case1 calls pool result =>
    have hfinish := Pool.complete_finish reply.factory pool result calls
    unfold Pool.finish at hfinish
    rw [hfinish]
    exact .refl _ _
  | case2 calls pool stage answer next hanswer ih =>
    have hawait : Pool.complete reply.factory (pool, .waiting stage) calls =
        Pool.complete reply.factory (pool.resume stage (reply calls stage.request))
          (stage.request :: calls) := Pool.complete_await reply.factory pool stage calls
    obtain ⟨rfl, rfl⟩ := Prod.mk.inj hanswer
    rw [hawait]
    have hmem : stage ∈ (Progress.waiting stage).stages := List.mem_singleton_self stage
    obtain ⟨object, hback⟩ := back stage hmem
    have hturn := pool.tended_resume orderly.sound stage (orderly.holds hmem)
      (orderly.stands stage hmem) (reply calls stage.request)
    have hstrays : stage.strays pool (reply calls stage.request) = [] := by
      cases hback <;> rfl
    have hnext : Pool.Orderly (pool.resume stage (reply calls stage.request)).1
        ((pool.resume stage (reply calls stage.request)).2.stages ++ []) :=
      Pool.Orderly.resume orderly _
    rw [List.append_nil] at hnext
    rw [hstrays] at hturn
    refine hturn.trans (ih hnext ?_)
    intro following hfollowing
    rcases pool.resume_handsBack orderly.sound hback (orderly.stands stage hmem)
      (calm calls stage.request) with
      ⟨waits, changed, -, hwaits, hfurther, -⟩ | ⟨-, hover, -⟩ | ⟨result, hover, -⟩
    · rw [hwaits] at hfollowing
      obtain rfl := List.mem_singleton.mp hfollowing
      exact ⟨changed, hfurther⟩
    · rw [hover] at hfollowing
      cases hfollowing
    · rw [hover] at hfollowing
      cases hfollowing

/-! ## Returning -/

section returning

variable (config : Config) (reply : Replies κ ω ε) (key : κ)

/-- **A return ends a loan**, of which it leaves `last` with a result and some calls. -/
structure EndsLoan (pool : Pool κ ω ε) (calls : List (Request κ ω)) (object : ω)
    (result : Result ω ε) (last : Pool κ ω ε) (calls' : List (Request κ ω)) : Prop where
  /-- There is one loan less. -/
  active_eq : last.numActive key + 1 = pool.numActive key
  /-- The resource is kept if the pool is open, the resource is ready to be kept and there is room,
  and only then. -/
  kept_iff : ∀ ready,
    (last.store.holding key).idle = ready :: (pool.store.holding key).idle ↔
      pool.isClosed = false ∧ (∃ spent, Readies config reply key calls object ready spent) ∧
        ∀ limit, config.idleLimit = some limit → pool.numIdle key < limit
  /-- If it is kept, it is counted as returned and nothing is destroyed. -/
  of_kept : ∀ ready, (last.store.holding key).idle = ready :: (pool.store.holding key).idle →
    last.tally.returned = pool.tally.returned + 1 ∧
      destroysUnder key calls' = destroysUnder key calls
  /-- Otherwise the same resources are idle, nothing is counted as returned and one resource is
  destroyed. -/
  of_unkept : (∀ ready,
      (last.store.holding key).idle ≠ ready :: (pool.store.holding key).idle) →
    (last.store.holding key).idle = (pool.store.holding key).idle ∧
      last.tally.returned = pool.tally.returned ∧
        destroysUnder key calls' = destroysUnder key calls + 1
  /-- The client hears of a failure if a resource that cannot be kept cannot be destroyed, and only
  then. -/
  failed_iff : ∀ error, result = .failed (.factory error) ↔
    pool.isClosed = false ∧ ∃ spent, Spoils config reply key calls object spent ∧
      reply spent (.destroy key object) = .failed error
  /-- Otherwise the return succeeds. -/
  done_of_unfailed : (∀ error, result ≠ .failed (.factory error)) → result = .done
  /-- The key loses its slot if nothing is idle and nothing on loan any more, and only then. -/
  unlinked_iff : last.store.find? key = none ↔ last.numIdle key = 0 ∧ last.numActive key = 0

end returning

section returns

variable {config : Config} {session : Session κ ω ε}

/-- Being below a limit, in two ways. -/
theorem isReached_eq_false_iff {limit : Option Nat} {number : Nat} :
    isReached limit number = false ↔ ∀ most, limit = some most → number < most := by
  cases limit <;> simp [isReached]

/-- A return from beginning to end leaves no empty slot behind. -/
theorem tended_giveBack (reachable : Session.Reachable config session)
    (rest : session.running = []) {reply : Replies κ ω ε} (calm : reply.Calm) (key : κ)
    (object : ω) {calls calls' : List (Request κ ω)} {result : Result ω ε} {last : Pool κ ω ε}
    (runs : session.pool.run reply.factory (.giveBack key object) calls = (result, last, calls')) :
    Store.Tended [] session.pool.store last.store := by
  have horderly := orderly_of_rest reachable rest
  have hstarted : Pool.Orderly (session.pool.start (.giveBack key object)).1
      ((session.pool.start (.giveBack key object)).2.stages ++ []) := horderly.start _
  rw [List.append_nil] at hstarted
  have hback : ∀ stage ∈ (session.pool.start (.giveBack key object)).2.stages,
      ∃ back, stage.HandsBack key back := by
    obtain ⟨stage, -, hwaits, hback, -⟩ := session.pool.start_handsBack horderly.sound
      (.inl (rfl : Operation.giveBack key object = _))
    rw [hwaits]
    intro other hother
    obtain rfl := List.mem_singleton.mp hother
    exact ⟨object, hback⟩
  have hfirst := session.pool.tended_start horderly.sound (.giveBack key object)
  have hothers := tended_complete calm hstarted hback calls
  have hlast : Pool.complete reply.factory (session.pool.start (.giveBack key object)) calls =
      (result, last, calls') := runs
  rw [hlast] at hothers
  exact hfirst.trans hothers

/-- A key without a slot has nothing idle and nothing on loan. -/
theorem vacant_of_unlinked {pool : Pool κ ω ε} {key : κ}
    (unlinked : pool.store.find? key = none) : pool.numIdle key = 0 ∧ pool.numActive key = 0 := by
  have hlive := Store.live_of_find?_none unlinked
  unfold Pool.numIdle Pool.numActive
  rw [Store.numIdle_eq, Store.numActive_eq, hlive]
  exact ⟨rfl, rfl⟩

/-- A key that had a loan keeps its slot only if it needs it. -/
theorem unlinked_iff_of_tended {pool last : Pool κ ω ε} {key : κ}
    (tended : Store.Tended [] pool.store last.store) (loaned : pool.numActive key ≠ 0)
    (unreserved : last.store.numInFlight key = 0) :
    last.store.find? key = none ↔ last.numIdle key = 0 ∧ last.numActive key = 0 := by
  refine ⟨vacant_of_unlinked, ?_⟩
  rintro ⟨hidle, hactive⟩
  by_contra hlinked
  unfold Pool.numIdle at hidle
  unfold Pool.numActive at hactive loaned
  rw [Store.numIdle_eq] at hidle
  rw [Store.numActive_eq] at hactive loaned
  have hspare : last.store.IsSpare key :=
    ⟨Option.isSome_iff_ne_none.mpr hlinked, Slot.isVacant_iff.mpr
      ⟨List.eq_nil_of_length_eq_zero hidle, hactive, unreserved⟩⟩
  rcases tended.spare key hspare with ⟨-, hvacant⟩ | hstray
  · exact loaned (Slot.isVacant_iff.mp hvacant).2.1
  · cases hstray

/-- **Returning from beginning to end.** A return is refused exactly if nothing is on loan under its
key, and then it destroys the resource and changes nothing else. Otherwise it ends a loan as
`EndsLoan` says. In every case it ends in one of the ways of `TakesBack`, and other keys have what
they had. The factory may fail at any call; it is only assumed that it does not panic and does not
use the pool. -/
theorem taken_back_once (reachable : Session.Reachable config session)
    (rest : session.running = []) (key : κ) (object : ω) {reply : Replies κ ω ε}
    (calm : reply.Calm) (calls : List (Request κ ω)) :
    ∃ result last calls',
      session.pool.run reply.factory (.giveBack key object) calls = (result, last, calls') ∧
      (result = .failed .notBorrowed ↔ session.pool.numActive key = 0) ∧
      (session.pool.numActive key = 0 → calls' = .destroy key object :: calls ∧
        last.tally.returned = session.pool.tally.returned ∧
        last.store.live key = session.pool.store.live key) ∧
      (session.pool.numActive key ≠ 0 →
        EndsLoan config reply key session.pool calls object result last calls') ∧
      (∃ number, TakesBack config reply key session.pool.isClosed (session.pool.store.holding key)
        calls object result (last.store.holding key) number calls') ∧
      ∀ other, other ≠ key → last.store.live other = session.pool.store.live other := by
  have hagrees := agrees_of_rest reachable rest calls
  obtain ⟨order, result, next, last, -, hplain, hpool, hafter⟩ :=
    hagrees.run reply (.giveBack key object)
  obtain ⟨ending, holding, number, calls', final, htakesBack, hsettles, hgivesBack⟩ :=
    concludes_giveBack config key calm object (session.pool.plain calls)
  have hruns : outcome (run config reply order (.giveBack key object))
      (session.pool.plain calls) = (ending, final) :=
    congrArg (fun ends => (Result.ofExcept ends.1, ends.2)) hgivesBack
  obtain ⟨rfl, rfl⟩ := Prod.mk.inj (hruns.symm.trans hplain)
  have hholding : last.store.holding key = holding := by
    rw [hafter.holding_eq, hsettles.holdings_eq, Function.update_self]
  have hreturned : last.tally.returned = session.pool.tally.returned + number := by
    rw [hafter.tally_eq, hsettles.returned_eq]
    rfl
  rw [hsettles.calls_eq] at hpool
  have htaken : TakesBack config reply key session.pool.isClosed (session.pool.store.holding key)
      calls object ending (last.store.holding key) number calls' := by
    rw [hholding]
    exact htakesBack
  refine ⟨ending, last, calls', hpool, ?_, ?_, ?_, ⟨number, htaken⟩, ?_⟩
  · rw [Pool.numActive_eq]
    exact htaken.notBorrowed_iff
  · intro hunloaned
    rw [Pool.numActive_eq] at hunloaned
    obtain ⟨hsame, rfl, hcalls⟩ := htaken.of_unloaned hunloaned
    refine ⟨hcalls, hreturned, hagrees.live_congr hafter ?_⟩
    rw [← hafter.holding_eq, hsame]
    rfl
  · intro hloaned
    have htended := tended_giveBack reachable rest calm key object hpool
    have hunlinked := unlinked_iff_of_tended htended hloaned (hafter.numInFlight_eq key)
    rw [Pool.numActive_eq] at hloaned
    refine ⟨?_, ?_, ?_, ?_, htaken.failed_iff hloaned, htaken.done_of_unfailed hloaned, hunlinked⟩
    · rw [Pool.numActive_eq, Pool.numActive_eq]
      exact htaken.active_eq hloaned
    · intro ready
      rw [htaken.kept_iff hloaned, isReached_eq_false_iff, ← Pool.numIdle_eq]
    · intro ready hkept
      obtain ⟨rfl, hcalls⟩ := htaken.of_kept hloaned hkept
      exact ⟨hreturned, hcalls⟩
    · intro hunkept
      obtain ⟨hidle, rfl, hcalls⟩ := htaken.of_unkept hloaned hunkept
      exact ⟨hidle, hreturned, hcalls⟩
  · intro other hother
    apply hagrees.live_congr hafter
    rw [hsettles.holdings_eq, Function.update_of_ne hother]

/-- The replies of a factory that finds everything usable, but can passivate and destroy nothing. -/
def stubborn : Replies Nat Nat String := fun calls request =>
  match request with
  | .create _ => .done calls.length
  | .activate _ object | .validate _ object => .done object
  | .passivate .. => .failed "torn"
  | .destroy .. => .failed "stuck"

/-- When 5 comes back after the errands, it is gone: the client hears that it could not be
destroyed, and its key loses its slot. -/
theorem taken_back_after_errands : ∃ log session result last calls,
    Session.replay Session.tested Session.errands = some (log, session) ∧
    session.pool.run stubborn.factory (.giveBack 1 5) [] = (result, last, calls) ∧
    result = .failed (.factory "stuck") ∧ destroysUnder 1 calls = 1 ∧
    last.store.find? 1 = none := by
  have hfits : ∀ past ∈ Session.replay Session.tested Session.errands,
      past.2.running.isEmpty = true ∧ past.2.pool.isClosed = false ∧
        past.2.pool.numActive 1 = 1 ∧ (past.2.pool.store.holding 1).idle = [] := by
    decide +kernel
  have hplays : (Session.replay Session.tested Session.errands).isSome = true := by
    decide +kernel
  obtain ⟨⟨log, session⟩, hpast⟩ := Option.isSome_iff_exists.mp hplays
  obtain ⟨hrest, hopen, hactive, hidle⟩ := hfits _ hpast
  have hcalm : stubborn.Calm := by
    intro calls request reason
    cases request <;> simp [stubborn]
  obtain ⟨result, last, calls, hruns, -, -, hends, -⟩ :=
    taken_back_once (Session.history_of_replay hpast).reachable (List.isEmpty_iff.mp hrest) 1 5
      hcalm []
  have hended := hends (by rw [hactive]; exact Nat.one_ne_zero)
  have hunkept : ∀ ready,
      (last.store.holding 1).idle ≠ ready :: (session.pool.store.holding 1).idle := by
    intro ready hkept
    obtain ⟨-, ⟨spent, ⟨-, hpassivates⟩⟩, -⟩ := (hended.kept_iff ready).mp hkept
    cases hpassivates
  obtain ⟨hsame, -, hdestroys⟩ := hended.of_unkept hunkept
  refine ⟨log, session, result, last, calls, hpast, hruns, ?_, hdestroys, ?_⟩
  · refine (hended.failed_iff "stuck").mpr ⟨hopen, _, .unready (.tested rfl rfl) rfl, rfl⟩
  · refine hended.unlinked_iff.mpr ⟨?_, ?_⟩
    · rw [Pool.numIdle_eq, hsame, hidle]
      rfl
    · exact Nat.succ.inj (hended.active_eq.trans hactive)

end returns

end PlainPool

end ResourcePool
