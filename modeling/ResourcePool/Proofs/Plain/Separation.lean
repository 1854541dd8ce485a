import ResourcePool.Proofs.Plain.Runs
import ResourcePool.Proofs.Plain.Within

/-!
# Keys do not interfere

With a factory that answers the calls under a key by the calls under that key alone, what happens
under one key is the same whatever is done under the others: two runs that differ only in operations
on other keys cannot be told apart under it. The factory may fail and panic.

* `PlainPool.Uncut` — a run in which no panic under another key cuts a clearing or a closing short.
  The panic is the result then, and what was still to be destroyed is lost with it.
* `Beside`, `beside_clear`, `beside_close` — what clearing and closing do under one key is the same
  with and without the resources of other keys when they are not cut short, whatever the order in
  which the keys are emptied; and it is seen under the key when they are.
* `PlainPool.Indistinct` and `keys_apart` — the run with the operations on other keys left out.
* `keys_meet` — a run in which a clearing is cut short.
-/

set_option linter.unusedSectionVars false

namespace ResourcePool

variable {κ ω ε : Type} [DecidableEq κ]

/-- Whether an operation is about a key, among others or alone. -/
def Operation.concerns (key : κ) (operation : Operation κ ω) : Bool :=
  operation.key?.all fun other => other = key

namespace PlainPool

/-! ## Clearing and closing -/

section everything

variable (config : Config) (reply : Replies κ ω ε) {key : κ} {plain other : PlainPool κ ω}
  {order order' : List κ}

/-- If all keys with idle resources are listed, then what is listed under a key is what is idle
there. -/
theorem filter_listed {holdings : κ → Holding ω} (lists : Lists holdings order) (key : κ) :
    (listed holdings order).filter (fun entry => entry.1 = key) =
      (holdings key).idle.reverse.map fun object => (key, object) := by
  obtain ⟨hnodup, hlists⟩ := lists
  unfold listed
  rw [Store.filter_tagged (fun place => (holdings place).idle.reverse) hnodup]
  split
  · rfl
  · next hnotin =>
    have hnone : (holdings key).idle = [] := by
      by_contra hheld
      exact hnotin ((hlists key).mpr hheld)
    rw [hnone]
    rfl

/-- Nothing is idle but under one key. -/
def Alone (key : κ) (plain : PlainPool κ ω) : Prop :=
  ∀ place, place ≠ key → (plain.holdings place).idle = []

/-- What is listed then is all under that key. -/
theorem listed_of_alone (alone : Alone key plain) (lists : Lists plain.holdings order) :
    listed plain.holdings order =
      (plain.holdings key).idle.reverse.map fun object => (key, object) := by
  rw [← filter_listed lists key, List.filter_eq_self.mpr]
  intro entry hentry
  obtain ⟨place, hplace, hobject⟩ := List.mem_flatMap.mp hentry
  obtain ⟨object, -, rfl⟩ := List.mem_map.mp hobject
  by_contra hother
  exact (lists.2 place).mp hplace (alone place (by simpa using hother))

/-- A pool whose idle resources have been taken out. -/
def emptied (plain : PlainPool κ ω) : PlainPool κ ω :=
  { plain with holdings := fun key => (plain.holdings key).emptied }

/-- Pools that are alike are so when what is idle has been taken out. -/
theorem Alike.emptied (alike : Alike key plain other) : Alike key plain.emptied other.emptied :=
  ⟨congrArg Holding.emptied alike.holding_eq, alike.isClosed_eq, alike.calls_eq⟩

/-- Pools that are alike are so when both have been closed. -/
theorem Alike.shut (alike : Alike key plain other) :
    Alike key { plain with isClosed := true } { other with isClosed := true } :=
  ⟨alike.holding_eq, rfl, alike.calls_eq⟩

/-- Resources are destroyed one after another, and that is all there is to do. -/
def disposeAll (objects : List (κ × ω)) : Course κ ω (Result ω ε) := do
  destroyAll reply objects
  return .done

/-- Clearing takes all out that is idle, and then destroys it. -/
theorem outcome_clear (order : List κ) (plain : PlainPool κ ω) :
    outcome (clear reply order) plain =
      outcome (disposeAll reply (listed plain.holdings order)) plain.emptied := rfl

/-- Closing a plain pool, once more or for the first time. -/
theorem outcome_close (order : List κ) (plain : PlainPool κ ω) :
    outcome (close reply order) plain =
      if plain.isClosed then (.done, { plain with isClosed := true })
      else outcome (clear reply order) { plain with isClosed := true } := by
  show outcome (if (!plain.isClosed) = true then clear reply order
    else pure .done : Course κ ω (Result ω ε)) { plain with isClosed := true } = _
  cases plain.isClosed <;> rfl

/-- The first resource is destroyed, and then the others. -/
theorem disposeAll_cons (entry : κ × ω) (rest : List (κ × ω)) :
    disposeAll reply (entry :: rest) =
      destroy reply entry.1 entry.2 >>= fun _ => disposeAll reply rest :=
  bind_assoc _ _ _

/-- When the first resource has been destroyed, it goes on with the others. -/
theorem disposeAll_of_destroyed {entry : κ × ω} {error? : Option ε}
    (ends : (destroy reply entry.1 entry.2 plain).1 = .ok error?) (rest : List (κ × ω)) :
    outcome (disposeAll reply (entry :: rest)) plain =
      outcome (disposeAll reply rest) (destroy reply entry.1 entry.2 plain).2 := by
  unfold outcome
  rw [disposeAll_cons, bind_eq, ends]
  rfl

/-- When destroying the first resource panics, that is the end. -/
theorem disposeAll_of_panicked {entry : κ × ω} {reason : String}
    (ends : (destroy reply entry.1 entry.2 plain).1 = .error reason) (rest : List (κ × ω)) :
    outcome (disposeAll reply (entry :: rest)) plain =
      (.panicked reason, (destroy reply entry.1 entry.2 plain).2) := by
  unfold outcome
  rw [disposeAll_cons, bind_eq, ends]
  rfl

/-- The last call is for a resource of the key to be destroyed. -/
def DestroysLast (key : κ) (calls : List (Request κ ω)) : Prop :=
  ∃ object earlier, calls = .destroy key object :: earlier

/-- What ends in a panic has called last for a resource of the key to be destroyed. -/
def PanicsUnder (key : κ) (ended : Result ω ε × PlainPool κ ω) : Prop :=
  ∀ reason, ended.1 = .panicked reason → DestroysLast key ended.2.calls

/-- **What is done with the resources of all keys, beside what is done with those of one**: it is
the same under the key unless a panic under another key ends it, and then it is seen not to be. -/
structure Beside (key : κ) (whole part : Result ω ε × PlainPool κ ω) : Prop where
  same : PanicsUnder key whole → whole.1 = part.1 ∧ Alike key whole.2 part.2
  seen : whole.1 = part.1 → callsUnder key whole.2.calls = callsUnder key part.2.calls →
    PanicsUnder key whole

/-- Destroying a resource is one call, however it ends. -/
theorem calls_destroy (key : κ) (object : ω) (plain : PlainPool κ ω) :
    (destroy reply key object plain).2.calls = .destroy key object :: plain.calls := by
  obtain ⟨next, hcalled, heq⟩ := destroy_eq reply key object plain
  rw [heq]
  exact hcalled.calls_eq

/-- The calls of the factory stay what they were, and more come. -/
theorem suffix_disposeAll (objects : List (κ × ω)) (plain : PlainPool κ ω) :
    plain.calls <:+ (outcome (disposeAll reply objects) plain).2.calls := by
  induction objects generalizing plain with
  | nil => exact List.suffix_rfl
  | cons entry rest ih =>
    have hfirst : plain.calls <:+ (destroy reply entry.1 entry.2 plain).2.calls := by
      rw [calls_destroy]
      exact List.suffix_cons _ _
    cases hends : (destroy reply entry.1 entry.2 plain).1 with
    | error _ =>
      rw [disposeAll_of_panicked reply hends]
      exact hfirst
    | ok _ =>
      rw [disposeAll_of_destroyed reply hends]
      exact hfirst.trans (ih _)

/-- Resources that are destroyed under a key are seen in the calls under it. -/
theorem callsUnder_disposeAll_lt {entry : κ × ω} (under : entry.1 = key) (rest : List (κ × ω))
    (plain : PlainPool κ ω) :
    (callsUnder key plain.calls).length <
      (callsUnder key (outcome (disposeAll reply (entry :: rest)) plain).2.calls).length := by
  have hrequest : (Request.destroy entry.1 entry.2).key = key := under
  have hfirst : Request.destroy entry.1 entry.2 :: plain.calls <:+
      (outcome (disposeAll reply (entry :: rest)) plain).2.calls := by
    rw [← calls_destroy reply]
    cases hends : (destroy reply entry.1 entry.2 plain).1 with
    | error _ =>
      rw [disposeAll_of_panicked reply hends]
    | ok _ =>
      rw [disposeAll_of_destroyed reply hends]
      exact suffix_disposeAll reply rest _
  have hunder : callsUnder key (Request.destroy entry.1 entry.2 :: plain.calls) <:+
      callsUnder key (outcome (disposeAll reply (entry :: rest)) plain).2.calls :=
    hfirst.filter _
  rw [callsUnder_cons hrequest] at hunder
  exact Nat.lt_of_succ_le hunder.length_le

/-- A panic under another key is seen under the key: without the other resources there is no panic,
or more is destroyed. -/
theorem beside_of_cut {place : κ} (other_key : place ≠ key) (object : ω) (reason : String)
    (alike : Alike key (destroy reply place object plain).2 other) {objects : List (κ × ω)}
    (under : ∀ entry ∈ objects, entry.1 = key) :
    Beside key (.panicked reason, (destroy reply place object plain).2)
      (outcome (disposeAll reply objects) other) where
  same hunder := by
    obtain ⟨last, earlier, hlast⟩ := hunder reason rfl
    cases (calls_destroy reply place object plain).symm.trans hlast
    exact absurd rfl other_key
  seen hresult hcalls := by
    cases objects with
    | nil => cases hresult
    | cons entry rest =>
      have hless := callsUnder_disposeAll_lt reply (under entry List.mem_cons_self) rest other
      rw [← hcalls, ← alike.calls_eq] at hless
      exact absurd hless (lt_irrefl _)

/-- **Destroying resources of all keys**, beside destroying those of one, by induction on the
resources. -/
theorem beside_disposeAll (alike : Alike key plain other) (objects : List (κ × ω)) :
    Beside key (outcome (disposeAll reply.byKey objects) plain)
      (outcome (disposeAll reply.byKey (objects.filter fun entry => entry.1 = key)) other) := by
  induction objects generalizing plain other with
  | nil => exact ⟨fun _ => ⟨rfl, alike⟩, fun _ _ _ hpanicked => nomatch hpanicked⟩
  | cons entry rest ih =>
    have hdestroy := within_destroy reply entry.1 entry.2
    by_cases hentry : entry.1 = key
    · subst hentry
      obtain ⟨hsame, halike⟩ := hdestroy.same plain other alike
      rw [List.filter_cons_of_pos (by simp)]
      cases hends : (destroy reply.byKey entry.1 entry.2 plain).1 with
      | error reason =>
        rw [disposeAll_of_panicked _ hends, disposeAll_of_panicked _ (hsame.symm.trans hends)]
        exact ⟨fun _ => ⟨rfl, halike⟩, fun _ _ _ _ => ⟨_, _, calls_destroy reply.byKey _ _ plain⟩⟩
      | ok _ =>
        rw [disposeAll_of_destroyed _ hends, disposeAll_of_destroyed _ (hsame.symm.trans hends)]
        exact ih halike
    · have halike := (hdestroy.apart key (Ne.symm hentry) plain).symm.trans alike
      rw [List.filter_cons_of_neg (by simpa using hentry)]
      cases hends : (destroy reply.byKey entry.1 entry.2 plain).1 with
      | error reason =>
        -- without the resources of other keys there is no such panic, and it goes on
        rw [disposeAll_of_panicked _ hends]
        exact beside_of_cut _ hentry _ _ halike fun _ hmem =>
          of_decide_eq_true (List.mem_filter.mp hmem).2
      | ok _ =>
        rw [disposeAll_of_destroyed _ hends]
        exact ih halike

section two

variable (alike : Alike key plain other) (alone : Alone key other)
  (lists : Lists plain.holdings order) (lists' : Lists other.holdings order')
include alike alone lists lists'

/-- What is listed under the key in the one pool is all that is listed in the other. -/
theorem filter_listed_of_alike :
    (listed plain.holdings order).filter (fun entry => entry.1 = key) =
      listed other.holdings order' := by
  rw [filter_listed lists, listed_of_alone alone lists', alike.holding_eq]

/-- **Clearing everything** when other keys hold resources, beside clearing when they do not. -/
theorem beside_clear :
    Beside key (outcome (clear reply.byKey order) plain)
      (outcome (clear reply.byKey order') other) := by
  rw [outcome_clear, outcome_clear, ← filter_listed_of_alike alike alone lists lists']
  exact beside_disposeAll reply alike.emptied _

/-- **Closing** when other keys hold resources, beside closing when they do not. -/
theorem beside_close :
    Beside key (outcome (close reply.byKey order) plain)
      (outcome (close reply.byKey order') other) := by
  rw [outcome_close, outcome_close, ← alike.isClosed_eq]
  cases plain.isClosed with
  | true => exact ⟨fun _ => ⟨rfl, alike.shut⟩, fun _ _ _ hpanicked => nomatch hpanicked⟩
  | false => exact beside_clear reply alike.shut alone lists lists'

end two

/-- Clearing makes nothing idle. -/
theorem alone_clear (alone : Alone key plain) (lists : Lists plain.holdings order) :
    Alone key (outcome (clear reply.byKey order) plain).2 := by
  intro place hplace
  have hdisposed : Within key (disposeAll reply.byKey
      ((plain.holdings key).idle.reverse.map fun object => (key, object))) :=
    within_bind (within_destroyAll reply key _) fun _ => within_pure key _
  have hapart := (hdisposed.apart place hplace plain.emptied).holding_eq
  rw [outcome_clear, listed_of_alone alone lists]
  exact congrArg Holding.idle hapart.symm

/-- Neither does closing. -/
theorem alone_close (alone : Alone key plain) (lists : Lists plain.holdings order) :
    Alone key (outcome (close reply.byKey order) plain).2 := by
  rw [outcome_close]
  split
  · exact alone
  · exact alone_clear reply alone lists

/-! ## One operation -/

/-- An operation that concerns a key is about it alone, or it clears or closes. -/
theorem cases_of_concerns {operation : Operation κ ω} (concerns : operation.concerns key = true) :
    operation.key? = some key ∨ operation = .clear ∨ operation = .close := by
  cases operation with
  | clear => exact .inr (.inl rfl)
  | close => exact .inr (.inr rfl)
  | _ => exact .inl (congrArg some (of_decide_eq_true concerns))

/-- An operation on one key does not look at the order. -/
theorem run_order {operation : Operation κ ω} (about : operation.key? = some key)
    (order order' : List κ) :
    run config reply order operation = run config reply order' operation := by
  cases operation with
  | clear => cases about
  | close => cases about
  | _ => rfl

/-- Nothing becomes idle under other keys as long as they are left alone. -/
theorem alone_run (alone : Alone key plain) (lists : Lists plain.holdings order)
    {operation : Operation κ ω} (concerns : operation.concerns key = true) :
    Alone key (outcome (run config reply.byKey order operation) plain).2 := by
  rcases cases_of_concerns concerns with habout | rfl | rfl
  · intro place hplace
    have hapart := (within_run config reply key order habout).apart place hplace plain
    rw [← alone place hplace]
    exact congrArg Holding.idle hapart.holding_eq.symm
  · exact alone_clear reply alone lists
  · exact alone_close reply alone lists

/-- **An operation on all keys** when other keys hold resources, beside the same operation when they
do not. -/
theorem beside_run (alike : Alike key plain other) (alone : Alone key other)
    (lists : Lists plain.holdings order) (lists' : Lists other.holdings order')
    {operation : Operation κ ω} (about : operation.key? = none) :
    Beside key (outcome (run config reply.byKey order operation) plain)
      (outcome (run config reply.byKey order' operation) other) := by
  cases operation with
  | clear => exact beside_clear reply alike alone lists lists'
  | close => exact beside_close reply alike alone lists lists'
  | _ => cases about

/-- **An operation that concerns a key** does the same there on pools that are alike there, unless
it is about all keys and a panic under another one ends it. -/
theorem alike_run (alike : Alike key plain other) (alone : Alone key other)
    (lists : Lists plain.holdings order) (lists' : Lists other.holdings order')
    {operation : Operation κ ω} (concerns : operation.concerns key = true)
    (uncut : operation.key? = none →
      PanicsUnder key (outcome (run config reply.byKey order operation) plain)) :
    (outcome (run config reply.byKey order operation) plain).1 =
        (outcome (run config reply.byKey order' operation) other).1 ∧
      Alike key (outcome (run config reply.byKey order operation) plain).2
        (outcome (run config reply.byKey order' operation) other).2 := by
  rcases cases_of_concerns concerns with habout | rfl | rfl
  · rw [run_order config reply.byKey habout order order']
    obtain ⟨hresult, halike⟩ := (within_run config reply key order' habout).same plain other alike
    exact ⟨congrArg Result.ofExcept hresult, halike⟩
  · exact (beside_clear reply alike alone lists lists').same (uncut rfl)
  · exact (beside_close reply alike alone lists lists').same (uncut rfl)

/-- **An operation on another key** leaves a key as it is. -/
theorem alike_of_other {operation : Operation κ ω} (concerns : operation.concerns key = false)
    (order : List κ) (plain : PlainPool κ ω) :
    Alike key plain (outcome (run config reply.byKey order operation) plain).2 := by
  cases habout : operation.key? with
  | none => simp [Operation.concerns, habout] at concerns
  | some place =>
    have hother : key ≠ place := by
      rintro rfl
      simp [Operation.concerns, habout] at concerns
    exact (within_run config reply place order habout).apart key hother plain

end everything

/-! ## Runs -/

/-- **No clearing and no closing of a run is cut short under another key**: one that ends in a panic
has called last for a resource to be destroyed under the key itself. One that is cut short loses
what was still to be destroyed, under whatever key. -/
def Uncut (key : κ) (operations : List (Operation κ ω)) (sights : List (Sight κ ω ε)) : Prop :=
  ∀ entry ∈ operations.zip sights, entry.1.key? = none → ∀ reason,
    entry.2.result = .panicked reason → DestroysLast key entry.2.calls

section uncut

variable {config : Config} {reply : Replies κ ω ε} {key : κ}
  (spared : ∀ calls place object reason, place ≠ key →
    reply calls (.destroy place object) ≠ .panicked reason)
include spared

/-- Resources are destroyed up to a panic, which is one under the key. -/
theorem panicsUnder_disposeAll (objects : List (κ × ω)) (plain : PlainPool κ ω) :
    PanicsUnder key (outcome (disposeAll reply objects) plain) := by
  induction objects generalizing plain with
  | nil => exact fun _ hpanicked => nomatch hpanicked
  | cons entry rest ih =>
    cases hends : (destroy reply entry.1 entry.2 plain).1 with
    | ok _ =>
      rw [disposeAll_of_destroyed reply hends]
      exact ih _
    | error reason =>
      have hentry : entry.1 = key := by
        by_contra hother
        obtain ⟨next, -, heq⟩ := destroy_eq reply entry.1 entry.2 plain
        rw [heq] at hends
        cases hanswer : reply plain.calls (.destroy entry.1 entry.2) with
        | panicked reason => exact spared _ _ _ reason hother hanswer
        | _ =>
          rw [hanswer] at hends
          cases hends
      rw [disposeAll_of_panicked reply hends]
      exact fun _ _ => ⟨entry.2, plain.calls, hentry ▸ calls_destroy reply _ _ plain⟩

/-- So a clearing ends in a panic under the key, if in any. -/
theorem panicsUnder_clear (order : List κ) (plain : PlainPool κ ω) :
    PanicsUnder key (outcome (clear reply order) plain) :=
  panicsUnder_disposeAll spared _ _

/-- And so does a closing. -/
theorem panicsUnder_close (order : List κ) (plain : PlainPool κ ω) :
    PanicsUnder key (outcome (close reply order) plain) := by
  rw [outcome_close]
  split
  · exact fun _ hpanicked => nomatch hpanicked
  · exact panicsUnder_clear spared order _

/-- A run is uncut if no destroy panics under another key. -/
theorem uncut_of_spared {pool : Pool κ ω ε} {plain : PlainPool κ ω}
    (agrees : Agrees config pool plain) (operations : List (Operation κ ω)) :
    Uncut key operations (Pool.runAll reply operations (pool, plain.calls)).1 := by
  induction operations generalizing pool plain with
  | nil => exact List.forall_mem_nil _
  | cons operation operations ih =>
    obtain ⟨order, result, next, last, -, hplain, hpool, hnext⟩ := agrees.run reply operation
    rw [Pool.runAll_cons hpool]
    refine List.forall_mem_cons.mpr ⟨?_, ih hnext⟩
    obtain ⟨rfl, rfl⟩ := Prod.mk.inj hplain
    intro habout
    cases operation with
    | clear => exact panicsUnder_clear spared order plain
    | close => exact panicsUnder_close spared order plain
    | _ => cases habout

end uncut

/-- The results of those operations of a run that concern a key. -/
def resultsFor (key : κ) (operations : List (Operation κ ω)) (sights : List (Sight κ ω ε)) :
    List (Result ω ε) :=
  ((operations.zip sights).filter fun entry => entry.1.concerns key).map fun entry =>
    entry.2.result

/-- **A run cannot be told from another under a key**: the operations that concern the key have the
results of the other run, the factory has had the same calls under the key, and in the end as much
is on loan and idle there. -/
structure Indistinct (key : κ) (operations : List (Operation κ ω))
    (whole part : List (Sight κ ω ε) × Pool κ ω ε × List (Request κ ω)) : Prop where
  results : resultsFor key operations whole.1 = part.1.map fun sight => sight.result
  calls : callsUnder key whole.2.2 = callsUnder key part.2.2
  active : whole.2.1.numActive key = part.2.1.numActive key
  idle : whole.2.1.numIdle key = part.2.1.numIdle key

section runs

variable {config : Config} {key : κ} {pool pool' : Pool κ ω ε} {plain other : PlainPool κ ω}

/-- Runs in which nothing has been done. -/
theorem indistinct_nil (agrees : Agrees config pool plain) (agrees' : Agrees config pool' other)
    (alike : Alike key plain other) :
    Indistinct key [] ([], pool, plain.calls) ([], pool', other.calls) where
  results := rfl
  calls := alike.calls_eq
  active := by
    show pool.store.numActive key = pool'.store.numActive key
    rw [agrees.mirrors.numActive_eq, agrees'.mirrors.numActive_eq, alike.holding_eq]
  idle := by
    show pool.store.numIdle key = pool'.store.numIdle key
    rw [agrees.mirrors.numIdle_eq, agrees'.mirrors.numIdle_eq, alike.holding_eq]

section first

variable {reply : Replies κ ω ε} {operation : Operation κ ω} {result result' : Result ω ε}
  {last last' : Pool κ ω ε} {calls calls' between between' : List (Request κ ω)}

/-- Runs that begin with an operation that concerns the key. -/
theorem indistinct_cons (runs : pool.run reply.factory operation calls = (result, last, between))
    (runs' : pool'.run reply.factory operation calls' = (result', last', between'))
    (concerns : operation.concerns key = true) (operations : List (Operation κ ω)) :
    Indistinct key (operation :: operations)
        (Pool.runAll reply (operation :: operations) (pool, calls))
        (Pool.runAll reply ((operation :: operations).filter (Operation.concerns key))
          (pool', calls')) ↔
      result = result' ∧ Indistinct key operations (Pool.runAll reply operations (last, between))
        (Pool.runAll reply (operations.filter (Operation.concerns key)) (last', between')) := by
  rw [List.filter_cons_of_pos concerns, Pool.runAll_cons runs, Pool.runAll_cons runs']
  have hresults : ∀ sights, resultsFor key (operation :: operations)
      (last.sight result between :: sights) = result :: resultsFor key operations sights := by
    intro sights
    simp [resultsFor, concerns, Pool.sight]
  constructor
  · rintro ⟨hall, hcalls, hactive, hidle⟩
    obtain ⟨hfirst, hrest⟩ := List.cons.inj ((hresults _).symm.trans hall)
    exact ⟨hfirst, hrest, hcalls, hactive, hidle⟩
  · rintro ⟨rfl, hrest, hcalls, hactive, hidle⟩
    exact ⟨(hresults _).trans (congrArg (result :: ·) hrest), hcalls, hactive, hidle⟩

/-- Runs of which one begins with an operation on another key. -/
theorem indistinct_cons_other
    (runs : pool.run reply.factory operation calls = (result, last, between))
    (concerns : operation.concerns key = false) (operations : List (Operation κ ω))
    (pool' : Pool κ ω ε) (calls' : List (Request κ ω)) :
    Indistinct key (operation :: operations)
        (Pool.runAll reply (operation :: operations) (pool, calls))
        (Pool.runAll reply ((operation :: operations).filter (Operation.concerns key))
          (pool', calls')) ↔
      Indistinct key operations (Pool.runAll reply operations (last, between))
        (Pool.runAll reply (operations.filter (Operation.concerns key)) (pool', calls')) := by
  rw [List.filter_cons_of_neg (by simp [concerns]), Pool.runAll_cons runs]
  have hresults : ∀ sights, resultsFor key (operation :: operations)
      (last.sight result between :: sights) = resultsFor key operations sights := by
    intro sights
    simp [resultsFor, concerns]
  constructor
  · rintro ⟨hall, hcalls, hactive, hidle⟩
    exact ⟨(hresults _).symm.trans hall, hcalls, hactive, hidle⟩
  · rintro ⟨hall, hcalls, hactive, hidle⟩
    exact ⟨(hresults _).trans hall, hcalls, hactive, hidle⟩

end first

/-- **A run and the same run without the operations on other keys**, from pools that are alike, by
induction on the operations: at some point they can be told apart just if a panic under another key
has cut a clearing or a closing short. -/
theorem uncut_iff_of_alike (reply : Replies κ ω ε) (agrees : Agrees config pool plain)
    (agrees' : Agrees config pool' other) (alike : Alike key plain other) (alone : Alone key other)
    (operations : List (Operation κ ω)) :
    Uncut key operations (Pool.runAll reply.byKey operations (pool, plain.calls)).1 ↔
      ∀ number, Indistinct key (operations.take number)
        (Pool.runAll reply.byKey (operations.take number) (pool, plain.calls))
        (Pool.runAll reply.byKey ((operations.take number).filter (Operation.concerns key))
          (pool', other.calls)) := by
  induction operations generalizing pool pool' plain other with
  | nil =>
    refine ⟨fun _ number => ?_, fun _ => List.forall_mem_nil _⟩
    rw [List.take_nil]
    exact indistinct_nil agrees agrees' alike
  | cons operation operations ih =>
    obtain ⟨order, result, next, last, hlists, hplain, hpool, hnext⟩ :=
      agrees.run reply.byKey operation
    have hnil := indistinct_nil agrees agrees' alike
    rw [Pool.runAll_cons hpool]
    cases hconcerns : operation.concerns key with
    | true =>
      obtain ⟨order', result', next', last', hlists', hplain', hpool', hnext'⟩ :=
        agrees'.run reply.byKey operation
      have htail := fun number =>
        indistinct_cons hpool hpool' hconcerns (operations.take number)
      have halone := alone_run config reply alone hlists' hconcerns
      have hrun := alike_run config reply alike alone hlists hlists' hconcerns
      have hbeside := fun habout : operation.key? = none =>
        beside_run config reply alike alone hlists hlists' habout
      rw [hplain, hplain'] at hrun hbeside
      rw [hplain'] at halone
      constructor
      · intro huncut number
        obtain ⟨hfirst, hrest⟩ := List.forall_mem_cons.mp huncut
        obtain ⟨hresult, halike⟩ := hrun hfirst
        cases number with
        | zero => exact hnil
        | succ number =>
          exact (htail number).mpr ⟨hresult, (ih hnext hnext' halike halone).mp hrest number⟩
      · intro hsame
        -- what is seen after one operation tells whether it has been cut short
        obtain ⟨hresult, hone⟩ := (htail 0).mp (hsame 1)
        have hfirst := fun habout => (hbeside habout).seen hresult hone.calls
        refine List.forall_mem_cons.mpr ⟨hfirst, ?_⟩
        exact (ih hnext hnext' (hrun hfirst).2 halone).mpr fun number =>
          ((htail number).mp (hsame (number + 1))).2
    | false =>
      have halike : Alike key plain next := by
        have hother := alike_of_other config reply hconcerns order plain
        rwa [hplain] at hother
      have htail := fun number =>
        indistinct_cons_other hpool hconcerns (operations.take number) pool' other.calls
      have hrest := ih hnext agrees' (halike.symm.trans alike) alone
      constructor
      · intro huncut number
        cases number with
        | zero => exact hnil
        | succ number =>
          exact (htail number).mpr (hrest.mp (List.forall_mem_cons.mp huncut).2 number)
      · intro hsame
        refine List.forall_mem_cons.mpr
          ⟨?_, hrest.mpr fun number => (htail number).mp (hsame (number + 1))⟩
        intro habout
        simp [Operation.concerns, habout] at hconcerns

/-- **Keys do not interfere.** Take any operations, on arbitrarily many keys and on all of them, and
leave out those on keys other than a given one. If the factory answers calls by the calls under
their key, then at no point the runs can be told apart under that key, as long as no panic under
another key has cut a clearing or a closing short; and when one has, they can, as in `keys_meet`.
The factory may fail and panic, and the two pools may go through their keys in any orders. A borrow
into a guard is a borrow here, as `Session.get_run` says. -/
theorem keys_apart (config : Config) (walk walk' : Walk κ) (reply : Replies κ ω ε)
    (operations : List (Operation κ ω)) (key : κ) :
    Uncut key operations (Pool.runNew config walk reply.byKey operations).1 ↔
      ∀ number, Indistinct key (operations.take number)
        (Pool.runNew config walk reply.byKey (operations.take number))
        (Pool.runNew config walk' reply.byKey
          ((operations.take number).filter (Operation.concerns key))) :=
  uncut_iff_of_alike reply (agrees_empty config walk) (agrees_empty config walk') (.refl key {})
    (fun _ _ => rfl) operations

/-- The replies of a factory that has resources for the key 0 only, and cannot get rid of them. -/
def onlyZero : Replies Nat Nat String := fun calls request =>
  match request with
  | .create 0 => .done calls.length
  | .create _ => .panicked "no such key"
  | .destroy 0 _ => .panicked "stuck"
  | .activate _ object | .validate _ object | .passivate _ object
  | .destroy _ object => .done object

/-- Some operations on the keys 0 and 1. -/
def mixed : List (Operation Nat Nat) :=
  [.borrow 0, .prefill 1 2, .prefill 0 1, .giveBack 1 0, .clear, .borrow 1, .giveBack 0 0, .close]

/-- Under the key 0 nothing is seen of the panics under the key 1. -/
theorem keys_apart_mixed :
    Uncut 0 mixed (Pool.runNew Config.standard .linking onlyZero.byKey mixed).1 ∧
      Indistinct 0 mixed (Pool.runNew Config.standard .linking onlyZero.byKey mixed)
        (Pool.runNew Config.standard .linking onlyZero.byKey
          (mixed.filter (Operation.concerns 0))) := by
  have huncut : Uncut 0 mixed (Pool.runNew Config.standard .linking onlyZero.byKey mixed).1 := by
    apply uncut_of_spared ?_ (agrees_empty Config.standard .linking)
    intro calls place object reason hplace
    show onlyZero (callsUnder place calls) (.destroy place object) ≠ .panicked reason
    unfold onlyZero
    simp
  exact ⟨huncut,
    (keys_apart Config.standard .linking .linking onlyZero mixed 0).mp huncut mixed.length⟩

/-- The replies of a factory that cannot get rid of the resources of the key 1. -/
def noOnesGone : Replies Nat Nat String := fun _ request =>
  match request with
  | .create _ => .done 7
  | .destroy 1 _ => .panicked "stuck"
  | .activate _ object | .validate _ object | .passivate _ object
  | .destroy _ object => .done object

/-- A run with that factory in which the key 1 is emptied before the key 0. -/
def crossed (operations : List (Operation Nat Nat)) :
    List (Sight Nat Nat String) × Pool Nat Nat String × List (Request Nat Nat) :=
  Pool.runNew Config.standard .linking noOnesGone.byKey operations

/-- Operations of which the last clears two keys. -/
def crossing : List (Operation Nat Nat) := [.prefill 1 1, .prefill 0 1, .clear]

/-- **A panic under another key is seen.** It is the result of the clearing that it cuts short, and
the idle resource of the key 0 is lost: the pool no longer has it, and nobody has destroyed it.
Without the operation on the key 1 the clearing is done. -/
theorem keys_meet :
    resultsFor 0 crossing (crossed crossing).1 = [.done, .panicked "stuck"] ∧
      callsUnder 0 (crossed crossing).2.2 = [.passivate 0 7, .create 0] ∧
      (crossed crossing).2.1.numIdle 0 = 0 ∧ (crossed crossing).2.1.numActive 0 = 0 ∧
      (crossed (crossing.filter (Operation.concerns 0))).1.map (fun sight => sight.result) =
        [.done, .done] ∧
      callsUnder 0 (crossed (crossing.filter (Operation.concerns 0))).2.2 =
        [.destroy 0 7, .passivate 0 7, .create 0] ∧
      ¬ Indistinct 0 crossing (crossed crossing)
        (crossed (crossing.filter (Operation.concerns 0))) := by
  refine ⟨by decide +kernel, by decide +kernel, by decide +kernel, by decide +kernel,
    by decide +kernel, by decide +kernel, ?_⟩
  intro hsame
  exact absurd hsame.calls (by decide +kernel)

end runs

end PlainPool

end ResourcePool
