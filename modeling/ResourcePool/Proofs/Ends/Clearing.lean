import ResourcePool.Proofs.Ends.Returns
import ResourcePool.Proofs.Ends.Sweeping
import ResourcePool.Proofs.Session.Absence

/-!
# Clearing

Clearing takes everything out of the pool that is idle and destroys it. What is on loan or reserved
stays as it was, so that what was on loan can still come back, and what was destroyed never does.

* `Pool.Bare` — a pool that has lost everything idle and nothing else.
* `Pool.Bare.comeBack` — what is on loan can come back to it.
* `Pool.Bare.gone` — what was idle is handed out to nobody any more.
* `Pool.cleared_in_any_order` — clearing in any state that can be reached, in any order.
-/

set_option linter.unusedSectionVars false

namespace ResourcePool.Pool

open Session (History KeepsNames Single Later Move.enters handedBy)

variable {κ ω ε ι : Type} [DecidableEq κ] [DecidableEq ι] {config : Config}
  {log : List (Session.Move κ ω ε)} {session : Session κ ω ε} {ident : ω → ι}

/-- **A pool that has lost everything idle**, and nothing else, while some operations wait. -/
structure Bare (pool last : Pool κ ω ε) (stages : List (Stage κ ω ε)) : Prop where
  orderly : Orderly last stages
  config_eq : last.config = pool.config
  rules_eq : last.store.rules = pool.store.rules
  live_eq : ∀ key, last.store.live key = (pool.store.live key).emptied
  linked : ∀ key, last.store.find? key ≠ none ↔
    0 < pool.numActive key ∨ 0 < pool.store.numInFlight key

section bare

variable {pool last : Pool κ ω ε} {stages : List (Stage κ ω ε)}

/-- That is how a pool is left when all its keys have been emptied. -/
theorem bare_of_drains (orderly : Orderly pool stages) {keys : List κ}
    (all : ∀ key, pool.store.find? key ≠ none → key ∈ keys)
    (store_eq : last.store = pool.store.drains keys) (config_eq : last.config = pool.config) :
    Bare pool last stages := by
  have hbecomes := Store.becomes_drains orderly.sound keys
  have hlive := Store.live_drains_all orderly.sound all
  have hlinked := Store.linked_drains_all orderly.sound all
  have hrules := Store.rules_drains pool.store keys
  rw [← store_eq] at hbecomes hlive hlinked hrules
  have hsteady : Turn.Steady pool.store pool.config none (last.finish .done) := by
    rw [← config_eq]
    refine (steady_finish last hbecomes.sound .done).after hbecomes (fun key => ?_)
      (fun key limit _ hwithin => ?_) fun _ h => h
    · rw [hlive]
      rfl
    · rw [hlive]
      exact hwithin
  refine ⟨Orderly.turn [] orderly (fun _ => rfl) hsteady, config_eq, hrules, hlive, fun key => ?_⟩
  have hactive : pool.numActive key = (pool.store.live key).active :=
    pool.store.numActive_eq key
  rw [hactive]
  exact hlinked key

variable (bare : Bare pool last stages)
include bare

/-- The loans are in the slots as before. -/
theorem Bare.active_eq (key : κ) : (last.store.live key).active = pool.numActive key := by
  rw [bare.live_eq]
  exact (pool.store.numActive_eq key).symm

/-- As much is on loan as before. -/
theorem Bare.numActive_eq (key : κ) : last.numActive key = pool.numActive key :=
  (last.store.numActive_eq key).trans (bare.active_eq key)

/-- As much is reserved as before. -/
theorem Bare.numInFlight_eq (key : κ) :
    last.store.numInFlight key = pool.store.numInFlight key := by
  unfold Store.numInFlight
  rw [bare.live_eq]
  rfl

/-- The queue of every key is empty. -/
theorem Bare.idle_eq (key : κ) : (last.store.live key).idle = [] := by
  rw [bare.live_eq]
  rfl

/-- Nothing is idle. -/
theorem Bare.numIdle_eq (key : κ) : last.numIdle key = 0 := by
  refine (last.store.numIdle_eq key).trans ?_
  rw [bare.idle_eq]
  rfl

/-- **What is on loan can come back** to a pool that has lost everything idle. -/
theorem Bare.comeBack {reply : Replies κ ω ε} (calm : reply.Calm) (config_eq : pool.config = config)
    (idleLimit_eq : pool.store.idleLimit = config.idleLimit) (returns : List (κ × ω))
    (loaned : ∀ key, (listedUnder key returns).length ≤ pool.numActive key)
    (calls : List (Request κ ω)) :
    ∃ sights final calls',
      runAll reply (returns.map fun entry => .giveBack entry.1 entry.2) (last, calls) =
        (sights, final, calls') ∧
      ComeBack config reply pool.isClosed (fun _ => []) calls returns (sights.map Sight.result)
        (fun key => (final.store.live key).idle) calls' ∧
      ∀ key, final.numActive key + (listedUnder key returns).length = pool.numActive key := by
  have hclosed : last.isClosed = pool.isClosed := congrArg (fun rules => rules.2.2) bare.rules_eq
  have hlimit : last.store.idleLimit = config.idleLimit :=
    (congrArg (fun rules => rules.2.1) bare.rules_eq).trans idleLimit_eq
  obtain ⟨sights, final, calls', hall, hcomeBack, hfinal⟩ :=
    comeBack_runAll calm bare.orderly (bare.config_eq.trans config_eq) hlimit returns
      (fun key => by rw [bare.active_eq]; exact loaned key) calls
  rw [hclosed, funext bare.idle_eq] at hcomeBack
  refine ⟨sights, final, calls', hall, hcomeBack, fun key => ?_⟩
  have hloans := hfinal key
  rw [bare.active_eq, ← final.store.numActive_eq] at hloans
  exact hloans

end bare

/-- **What was idle is gone for good** when a pool has lost everything idle: it is with the pool no
more, and it is handed out to nobody, unless somebody brings in a resource of its name. -/
theorem Bare.gone (history : History config log session) (keeps : KeepsNames ident log)
    (single : Single ident log) {last : Pool κ ω ε} (bare : Bare session.pool last session.stages)
    {key : κ} {object : ω} (idle : object ∈ (session.pool.store.live key).idle)
    {later : List (Session.Move κ ω ε)} {final : Session κ ω ε}
    (leads : Later { session with pool := last } later final) (named : KeepsNames ident later)
    (others : ∀ move ∈ later, ∀ entry ∈ move.enters, ident entry.2 ≠ ident object) :
    final.possession (fun other => ident other = ident object) = 0 ∧
      ∀ move ∈ later, ∀ other ∈ handedBy move.reply, ident other ≠ ident object := by
  have hbefore := Session.reachable_inOrder history.reachable
  have hinOrder : Session.InOrder config { session with pool := last } :=
    ⟨bare.config_eq.trans hbefore.config_eq, bare.orderly, hbefore.admitted⟩
  have hnumbered : Session.Numbered { session with pool := last } :=
    (Session.numbered_of_history history : session.Numbered)
  have habsent : Session.possession (fun other => ident other = ident object)
      { session with pool := last } = 0 := by
    unfold Session.possession
    rw [Store.stock_of_emptied _ bare.idle_eq]
    exact (Nat.zero_add _).trans (Session.inHands_of_idle history keeps single idle)
  have hbrings : ∀ move ∈ later,
      ¬Session.Move.Brings (fun other => ident other = ident object) move := by
    rintro move hmove (⟨entry, hentry, hhas⟩ | ⟨change, hchange, hdiffers⟩)
    · exact others move hmove entry hentry (of_decide_eq_true hhas)
    · have hsame := named move hmove change hchange
      exact hdiffers (by simp only [hsame])
  obtain ⟨hgone, hhanded⟩ :=
    Session.absent_of_later hinOrder hnumbered habsent leads hbrings
  exact ⟨hgone, fun move hmove other hother => of_decide_eq_false (hhanded move hmove other hother)⟩

/-- **Clearing is complete and does not depend on the order of the keys.** In any state that can be
reached, also while other operations wait, and with any factory that does not use the pool, does not
panic and destroys by key and resource alone, the slots are emptied in any order.

Everything idle is destroyed once, under each key in the order in which it came in. The loans and
the reservations stay as they were, nothing is idle, and the keys in use are those with a loan or a
reservation. Clearing the pool in its own order, which is what a client with a handle gets, and
clearing the keys one by one, in any order, leave the same store and the same counters.

What was on loan can come back, one resource after another: each return ends its loan and finds
nothing idle but what came back before, and everything is kept if the pool is open, the factory
finds it fit and there is room. What was destroyed is handed out to nobody any more. -/
theorem cleared_in_any_order (history : History config log session)
    {order : List (κ × SlotId)} (perm : order.Perm session.pool.store.links)
    {reply : Replies κ ω ε} (calm : reply.Calm) {verdict : κ → ω → Answer ω ε}
    (judges : reply.Judges verdict) (calls : List (Request κ ω)) (ident : ω → ι) :
    ∃ drained last,
      complete reply.factory (session.pool.clearBy order .done) calls =
        (.done, last, destroys drained ++ calls) ∧
      (∀ key, listedUnder key drained = (session.pool.store.live key).idle.reverse) ∧
      (∀ key, last.numActive key = session.pool.numActive key ∧
        last.store.numInFlight key = session.pool.store.numInFlight key ∧ last.numIdle key = 0 ∧
        (last.store.find? key ≠ none ↔
          0 < session.pool.numActive key ∨ 0 < session.pool.store.numInFlight key)) ∧
      (∃ same calls',
        session.pool.run reply.factory .clear calls = (.done, same, calls') ∧
        same.store = last.store ∧ same.tally = last.tally ∧
        (session.handles ≠ 0 → ∃ outcome, session.act? (.call .clear) = some outcome ∧
          Session.Answers reply.factory outcome calls
            ({ session with pool := same }, some (.result .done)) calls')) ∧
      (∀ keys : List κ, (∀ key, session.pool.store.find? key ≠ none → key ∈ keys) →
        ∃ sights others same,
          runAll reply (keys.map .clearKey) (session.pool, calls) =
            (sights, same, destroys others ++ calls) ∧
          (∀ sight ∈ sights, sight.result = .done) ∧
          (∀ key, listedUnder key others = listedUnder key drained) ∧
          same.store = last.store ∧ same.tally = last.tally) ∧
      (∀ returns : List (κ × ω),
        (∀ key, (listedUnder key returns).length ≤ session.pool.numActive key) →
        ∃ sights final calls',
          runAll reply (returns.map fun entry => .giveBack entry.1 entry.2)
            (last, destroys drained ++ calls) = (sights, final, calls') ∧
          ComeBack config reply session.pool.isClosed (fun _ => []) (destroys drained ++ calls)
            returns (sights.map Sight.result) (fun key => (final.store.live key).idle) calls' ∧
          (∀ key, final.numActive key + (listedUnder key returns).length =
            session.pool.numActive key) ∧
          ∀ reset, reply.Welcomes config reset → session.pool.isClosed = false →
            (∀ limit, config.idleLimit = some limit → ∀ key,
              (listedUnder key returns).length ≤ limit) →
            (∀ sight ∈ sights, sight.result = .done) ∧ ∀ key,
              (final.store.live key).idle = ((listedUnder key returns).map (reset key)).reverse) ∧
      (KeepsNames ident log → Single ident log → ∀ entry ∈ drained, ∀ later final,
        Later { session with pool := last } later final → KeepsNames ident later →
        (∀ move ∈ later, ∀ other ∈ move.enters, ident other.2 ≠ ident entry.2) →
        final.possession (fun other => ident other = ident entry.2) = 0 ∧
          ∀ move ∈ later, ∀ other ∈ handedBy move.reply, ident other ≠ ident entry.2) := by
  have hinOrder := Session.reachable_inOrder history.reachable
  have hsound := hinOrder.orderly.sound
  have hlinks : ∀ key, session.pool.store.find? key ≠ none →
      key ∈ session.pool.store.links.map Prod.fst := by
    intro key hlinked
    obtain ⟨id, hid⟩ := Option.ne_none_iff_exists'.mp hlinked
    exact List.mem_map.mpr ⟨(key, id), Store.mem_links_of_find? _ hid, rfl⟩
  obtain ⟨drained, last, calls', hends, hsweeps, hlisted, hstore⟩ :=
    sweeps_clearBy calm judges hsound perm .done calls
  have hbare : Bare session.pool last session.stages :=
    bare_of_drains hinOrder.orderly hlinks (hstore _ hlinks) hsweeps.config_eq
  refine ⟨drained, last, ?_, hlisted, ?_, ?_, ?_, ?_, ?_⟩
  · rw [hends, hsweeps.calls_eq]
  · exact fun key => ⟨hbare.numActive_eq key, hbare.numInFlight_eq key, hbare.numIdle_eq key,
      hbare.linked key⟩
  · obtain ⟨others, same, calls'', hsame, hothers, hunder, hnext⟩ :=
      sweeps_clearBy calm judges hsound session.pool.store.walked_perm .done calls
    rw [← clear_eq_clearBy] at hsame
    have hruns : session.pool.run reply.factory .clear calls = (.done, same, calls'') := hsame
    have hequal := fun key => (hunder key).trans (hlisted key).symm
    exact ⟨same, calls'', hruns, (hnext _ hlinks).trans (hstore _ hlinks).symm,
      hothers.tally_congr hsweeps hequal,
      fun handled => Session.call_run reply.factory handled hruns⟩
  · intro keys hkeys
    obtain ⟨sights, others, next, between, hall, hdone, hothers, hunder, hnext⟩ :=
      sweeps_allKeys calm judges hsound hkeys calls
    have hequal := fun key => (hunder key).trans (hlisted key).symm
    rw [hothers.calls_eq] at hall
    exact ⟨sights, others, next, hall, hdone, hequal, hnext.trans (hstore keys hkeys).symm,
      hothers.tally_congr hsweeps hequal⟩
  · intro returns hreturns
    obtain ⟨sights, final, calls', hall, hcomeBack, hloans⟩ := hbare.comeBack calm
      hinOrder.config_eq (Session.idleLimit_of_reachable history.reachable) returns hreturns
      (destroys drained ++ calls)
    refine ⟨sights, final, calls', hall, hcomeBack, hloans, fun reset welcomes isOpen room => ?_⟩
    obtain ⟨hdone, hkept⟩ := hcomeBack.all_kept isOpen welcomes fun limit hlimit key => by
      rw [List.length_nil, Nat.zero_add]
      exact room limit hlimit key
    refine ⟨fun sight hsight => hdone _ (List.mem_map_of_mem hsight), fun key => ?_⟩
    rw [hkept, List.append_nil]
  · intro keeps single entry hentry later final leads named others
    have hmem : entry.2 ∈ listedUnder entry.1 drained := mem_listedUnder.mpr hentry
    rw [hlisted, List.mem_reverse] at hmem
    exact hbare.gone history keeps single hmem leads named others

/-- The events of a short run. The resource 7 is lent, 8 and 9 are added to its key and 5 to another
one, and a borrow of a third key waits. -/
def busy : List (Session.Event Nat Nat String) :=
  [.act (.call (.borrow 0)), .answer (.done 7), .answer (.done 7),
    .act (.call (.prefill 0 2)), .answer (.done 8), .answer (.done 8), .answer (.done 9),
    .answer (.done 9), .act (.call (.prefill 1 1)), .answer (.done 5), .answer (.done 5),
    .act (.call (.borrow 2))]

/-- What comes of a destroy by a factory that cannot destroy 8. -/
def sparingly : Nat → Nat → Answer Nat String := fun _ object =>
  if object = 8 then .failed "stuck" else .done object

/-- The replies of that factory, which finds everything usable. -/
def sparing : Replies Nat Nat String := fun _ request =>
  match request with
  | .create _ => .done 4
  | .activate _ object | .validate _ object | .passivate _ object => .done object
  | .destroy key object => sparingly key object

/-- The keys are cleared in the opposite order, 7 comes back, and 8 is gone. -/
theorem cleared_backwards : ∃ log session drained last sights final calls,
    Session.replay Config.standard busy = some (log, session) ∧
    complete sparing.factory (session.pool.clearBy session.pool.store.links.reverse .done) [] =
      (.done, last, destroys drained ++ []) ∧
    listedUnder 0 drained = [8, 9] ∧ listedUnder 1 drained = [5] ∧ last.numActive 0 = 1 ∧
    last.store.find? 1 = none ∧ last.store.find? 2 ≠ none ∧
    runAll sparing [.giveBack 0 7] (last, destroys drained ++ []) = (sights, final, calls) ∧
    (final.store.live 0).idle = [7] ∧
    ∀ later ending, Later { session with pool := last } later ending → KeepsNames id later →
      (∀ move ∈ later, ∀ other ∈ move.enters, other.2 ≠ 8) →
      ∀ move ∈ later, ∀ other ∈ handedBy move.reply, other ≠ 8 := by
  have hfits : ∀ past ∈ Session.replay Config.standard busy,
      (past.2.pool.store.live 0).idle = [9, 8] ∧ (past.2.pool.store.live 1).idle = [5] ∧
      past.2.pool.numActive 0 = 1 ∧ past.2.pool.numActive 1 = 0 ∧
      past.2.pool.store.numInFlight 1 = 0 ∧ past.2.pool.store.numInFlight 2 = 1 ∧
      past.2.pool.isClosed = false ∧ KeepsNames id past.1 ∧ Single id past.1 := by
    decide +kernel
  have hplays : (Session.replay Config.standard busy).isSome = true := by
    decide +kernel
  obtain ⟨⟨log, session⟩, hpast⟩ := Option.isSome_iff_exists.mp hplays
  obtain ⟨hfirst, hsecond, hlent, hunlent, hunreserved, hreserved, hopen, hkeeps, hsingle⟩ :=
    hfits _ hpast
  have hcalm : sparing.Calm := by
    rintro calls request reason
    cases request with
    | destroy key object =>
      show sparingly key object ≠ .panicked reason
      unfold sparingly
      split <;> simp
    | _ => simp [sparing]
  obtain ⟨drained, last, hends, hlisted, hleft, -, -, hback, hgone⟩ :=
    cleared_in_any_order (Session.history_of_replay hpast)
      (List.reverse_perm session.pool.store.links) hcalm
      (fun _ _ _ => rfl : sparing.Judges sparingly) [] id
  have hwelcomes : sparing.Welcomes Config.standard fun _ object => object :=
    ⟨fun _ _ _ object => ⟨object, rfl⟩, fun _ _ _ => rfl⟩
  have hone : ∀ key, (listedUnder key [(0, 7)]).length = if 0 = key then 1 else 0 := fun key => by
    rw [length_listedUnder_cons]
    exact Nat.zero_add _
  obtain ⟨sights, final, calls, hruns, -, -, hkept⟩ := hback [(0, 7)] fun key => by
    rw [hone]
    split
    · next h => rw [← h, hlent]
    · exact Nat.zero_le _
  obtain ⟨-, hidle⟩ := hkept _ hwelcomes hopen fun limit hlimit => by cases hlimit
  have hunlinked := mt (hleft 1).2.2.2.mp (by rw [hunlent, hunreserved]; simp)
  refine ⟨log, session, drained, last, sights, final, calls, hpast, hends, ?_, ?_,
    (hleft 0).1.trans hlent, not_not.mp hunlinked, (hleft 2).2.2.2.mpr (.inr ?_), hruns, ?_, ?_⟩
  · rw [hlisted, hfirst]
    rfl
  · rw [hlisted, hsecond]
    rfl
  · rw [hreserved]
    exact Nat.one_pos
  · rw [hidle]
    rfl
  · intro later ending leads named others
    have hmem : (0, 8) ∈ drained := by
      rw [← mem_listedUnder, hlisted, hfirst]
      simp
    exact (hgone hkeeps hsingle (0, 8) hmem later ending leads named others).2

end ResourcePool.Pool
