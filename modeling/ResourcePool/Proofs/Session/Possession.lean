import ResourcePool.Proofs.Pool.Possession
import ResourcePool.Proofs.Session.Lifetime
import ResourcePool.Proofs.Session.Runs

/-!
# Who has what

A resource that comes in is with the pool until it is lent to a client itself, and then it is with
the client until it is handed back, under the same key or another. If a resource comes in only while
no other of its name is with the pool, then no resource is there twice: it is not idle twice, nor
both idle and in the hands of an operation, nor idle and with a client.

* `inside`, `held` — what is with the pool and what is with the clients, as a history tells of it.
* `Single` — what is asked of the factory and of the clients.
* `possession` — what is idle, in the hands of operations and in guards.
* `possession_of_step`, `possession_of_history` — it is no more than what is inside.
* `single_of_history`, `not_held_of_possession` — a resource is in one place.
-/

set_option linter.unusedSectionVars false

namespace ResourcePool.Session

variable {κ ω ε ι : Type} [DecidableEq κ]

/-! ## What a history tells -/

/-- The resources that come in with a move: created by the factory, or handed back by a client. -/
def Move.enters (move : Move κ ω ε) : List (κ × ω) := move.creates ++ move.handsBack

section ledgers

variable [DecidableEq ι] (ident : ω → ι)

/-- The names of some resources. -/
def names (entries : List (κ × ω)) : Multiset ι := (entries.map fun entry => ident entry.2 : List ι)

/-- The resources that have come in and have not been lent to a client itself since. -/
def inside : List (Move κ ω ε) → Multiset ι
  | [] => 0
  | move :: log => inside log + names ident move.enters - names ident (move.lends log)

/-- The resources that have been lent to a client itself and have not been handed back since. -/
def held : List (Move κ ω ε) → Multiset ι
  | [] => 0
  | move :: log => held log - names ident move.handsBack + names ident (move.lends log)

/-- **No resource comes in twice.** What the factory creates is not there yet, neither inside nor
with a client, and what a client hands back is not inside: it may be what the client holds, under
any key, or a resource from elsewhere. -/
def Single : List (Move κ ω ε) → Prop
  | [] => True
  | move :: log =>
    (∀ entry ∈ move.creates, ident entry.2 ∉ inside ident log ∧ ident entry.2 ∉ held ident log) ∧
    (∀ entry ∈ move.handsBack, ident entry.2 ∉ inside ident log) ∧ Single log

/-- Whether every resource comes back once at most can be decided. -/
instance : (log : List (Move κ ω ε)) → Decidable (Single ident log)
  | [] => inferInstanceAs (Decidable True)
  | _ :: log =>
    have := instDecidableSingle log
    inferInstanceAs (Decidable (_ ∧ _ ∧ _))

end ledgers

/-! ## Possession -/

variable {config : Config} {log : List (Move κ ω ε)} {session next base : Session κ ω ε}
  {event : Event κ ω ε} {purpose : Purpose κ} {turn : Pool.Turn κ ω ε}
  {reply : Option (Reply ω ε)} (has : ω → Bool)

/-- How many resources with a property are in the hands of operations or in guards. -/
def inHands (session : Session κ ω ε) : Nat :=
  (session.running.flatMap fun activity => activity.stage.carried).countP has +
    (session.guards.map fun entry => entry.2.object).countP has

/-- **How many resources with a property a session has**, idle, in the hands of operations or in
guards. -/
def possession (session : Session κ ω ε) : Nat := session.pool.store.stock has + session.inHands has

/-- The resource that a reply lends to a client itself. -/
def lentBy : Option (Reply ω ε) → List ω
  | some (.result result) => result.lent?.toList
  | _ => []

section steps

/-- An idle resource is there. -/
theorem stock_pos (sound : session.pool.store.Sound) {key : κ} {object : ω}
    (idle : object ∈ (session.pool.store.live key).idle) (fits : has object = true) :
    0 < session.pool.store.stock has :=
  Nat.lt_of_lt_of_le (List.countP_pos_iff.mpr ⟨object, idle, fits⟩)
    (Store.countP_le_stock has sound key)

/-- The resource in the hands of an operation is there. -/
theorem inHands_pos_of_carried {activity : Activity κ ω ε} (mem : activity ∈ session.running)
    {object : ω} (carried : object ∈ activity.stage.carried) (fits : has object = true) :
    0 < session.inHands has := by
  apply Nat.add_pos_left
  exact List.countP_pos_iff.mpr ⟨object, List.mem_flatMap.mpr ⟨activity, mem, carried⟩, fits⟩

/-- The resource of a guard is there. -/
theorem inHands_pos_of_guard? {id : GuardId} {guard : Guard κ ω}
    (there : session.guard? id = some guard) (fits : has guard.object = true) :
    0 < session.inHands has := by
  have hmem := List.mem_of_find?_eq_some (find?_of_guard? there)
  apply Nat.add_pos_right
  exact List.countP_pos_iff.mpr ⟨guard.object, List.mem_map.mpr ⟨(id, guard), hmem, rfl⟩, fits⟩

/-- A guard that is used up has its resource no more. -/
theorem inHands_removeGuard (nodup : (session.guards.map Prod.fst).Nodup) {id : GuardId}
    {guard : Guard κ ω} (there : session.guard? id = some guard) :
    (session.removeGuard id).inHands has + [guard.object].countP has = session.inHands has := by
  have hperm := (guards_perm nodup (find?_of_guard? there)).map fun entry => entry.2.object
  have hcount := hperm.countP_eq has
  rw [List.map_cons, List.countP_cons] at hcount
  have hremoved : (session.removeGuard id).inHands has =
      (session.running.flatMap fun activity => activity.stage.carried).countP has +
        ((session.guards.filter fun entry => entry.1 ≠ id).map
          fun entry => entry.2.object).countP has := rfl
  rw [hremoved, inHands, hcount, List.countP_singleton, Nat.add_assoc]

/-- A guard whose resource changes has it still. -/
theorem inHands_setGuard (nodup : (session.guards.map Prod.fst).Nodup) {id : GuardId}
    {guard : Guard κ ω} (there : session.guard? id = some guard) {object : ω}
    (same : has object = has guard.object) :
    (session.setGuard id object).inHands has = session.inHands has := by
  have hguards : ((session.setGuard id object).guards.map fun entry => has entry.2.object) =
      session.guards.map fun entry => has entry.2.object := by
    apply session.map_setGuard
    intro entry hentry hid
    have hmem := List.mem_of_find?_eq_some (find?_of_guard? there)
    have hguard : entry = (id, guard) := List.inj_on_of_nodup_map nodup hentry hmem hid
    rw [hguard]
    exact same
  have hcount := congrArg (List.countP fun value => value) hguards
  rw [List.countP_map, List.countP_map] at hcount
  unfold inHands
  rw [List.countP_map, List.countP_map]
  exact congrArg (_ + ·) hcount

/-- What an operation has in hand when its call has been answered is what it had before, in another
state perhaps, or it has been created. -/
theorem brought_cases (stage : Stage κ ω ε) (answer : Answer ω ε) :
    stage.brought answer = stage.carried ∨
    (∃ object changed, stage.carried = [object] ∧ stage.brought answer = [changed] ∧
      (object, changed) ∈ stage.request.changes answer) ∨
    ∃ key object, stage.brought answer = [object] ∧ stage.request = .create key ∧
      (answer = .done object ∨ answer = .refused object) := by
  cases stage with
  | creating checkout attempt =>
    cases answer with
    | done object => exact .inr (.inr ⟨checkout.key, object, rfl, rfl, .inl rfl⟩)
    | refused object => exact .inr (.inr ⟨checkout.key, object, rfl, rfl, .inr rfl⟩)
    | _ => exact .inl rfl
  | making key left =>
    cases answer with
    | done object => exact .inr (.inr ⟨key, object, rfl, rfl, .inl rfl⟩)
    | refused object => exact .inr (.inr ⟨key, object, rfl, rfl, .inr rfl⟩)
    | _ => exact .inl rfl
  | activating checkout origin object =>
    cases answer with
    | done changed => exact .inr (.inl ⟨object, changed, rfl, rfl, List.mem_cons_self⟩)
    | refused changed => exact .inr (.inl ⟨object, changed, rfl, rfl, List.mem_cons_self⟩)
    | _ => exact .inl rfl
  | passivating key slot object =>
    cases answer with
    | done changed => exact .inr (.inl ⟨object, changed, rfl, rfl, List.mem_cons_self⟩)
    | refused changed => exact .inr (.inl ⟨object, changed, rfl, rfl, List.mem_cons_self⟩)
    | _ => exact .inl rfl
  | parking key left object =>
    cases answer with
    | done changed => exact .inr (.inl ⟨object, changed, rfl, rfl, List.mem_cons_self⟩)
    | refused changed => exact .inr (.inl ⟨object, changed, rfl, rfl, List.mem_cons_self⟩)
    | _ => exact .inl rfl
  | _ => exact .inl rfl

/-- What an answer brings was in hand before, or has come in with it. -/
theorem countP_brought_le {activity : Activity κ ω ε} {rest : List (Activity κ ω ε)}
    {answer : Answer ω ε} (running_eq : session.running = activity :: rest)
    (same : ∀ change ∈ (Move.mk session (.answer answer) next reply).changes,
      has change.2 = has change.1) :
    (activity.stage.brought answer).countP has ≤ activity.stage.carried.countP has +
      ((Move.mk session (.answer answer) next reply).enters.map Prod.snd).countP has := by
  have hrequest : session.request? = some activity.stage.request := by simp [request?, running_eq]
  have hchanges : (Move.mk session (.answer answer) next reply).changes =
      activity.stage.request.changes answer := by simp [Move.changes, hrequest]
  rw [hchanges] at same
  rcases brought_cases activity.stage answer with
    hsame | ⟨object, changed, hbefore, hafter, hmem⟩ | ⟨key, object, hafter, hcreate, hdone⟩
  · rw [hsame]
    exact Nat.le_add_right _ _
  · have hname : [changed].countP has = [object].countP has := by
      rw [List.countP_singleton, List.countP_singleton, same _ hmem]
    rw [hbefore, hafter, hname]
    exact Nat.le_add_right _ _
  · have hentered : (Move.mk session (.answer answer) next reply).enters = [(key, object)] := by
      have hcall : session.request? = some (.create key) := by rw [hrequest, hcreate]
      rcases hdone with rfl | rfl <;>
        simp [Move.enters, Move.creates, Move.handsBack, Move.answered?, hcall]
    rw [hentered, hafter]
    exact Nat.le_add_left _ _

/-- What an operation takes from a client comes in, or it was in the guard that is used up. -/
theorem countP_brought_le_of_starts (next : Session κ ω ε) (reply : Option (Reply ω ε))
    (nodup : (session.guards.map Prod.fst).Nodup)
    {action : Action κ ω} {operation : Operation κ ω}
    (starts : session.operation? action = some operation) :
    operation.brought.countP has + (session.prepare action).inHands has ≤ session.inHands has +
      ((Move.mk session (.act action) next reply).enters.map Prod.snd).countP has := by
  have hspent : ∀ {id : GuardId} {make : Guard κ ω → Operation κ ω},
      (session.guard? id).map make = some operation →
      (∀ guard, (make guard).brought = [guard.object]) →
      operation.brought.countP has + (session.removeGuard id).inHands has ≤ session.inHands has +
        ((Move.mk session (.act action) next reply).enters.map Prod.snd).countP has := by
    intro id make hmap hmake
    obtain ⟨guard, hguard, rfl⟩ := Option.map_eq_some_iff.mp hmap
    rw [hmake guard, Nat.add_comm, inHands_removeGuard has nodup hguard]
    exact Nat.le_add_right _ _
  cases action with
  | call called =>
    obtain ⟨-, hcalled⟩ := Option.ite_none_left_eq_some.mp starts
    cases hcalled
    show operation.brought.countP has + session.inHands has ≤ session.inHands has +
      ((Action.call operation).handsBack.map Prod.snd).countP has
    cases operation <;> simp [Operation.brought, Action.handsBack, Nat.add_comm]
  | get key =>
    obtain ⟨-, hcalled⟩ := Option.ite_none_left_eq_some.mp starts
    cases hcalled
    exact (Nat.zero_add _).trans_le (Nat.le_add_right _ _)
  | release id => exact hspent starts fun _ => rfl
  | invalidate id => exact hspent starts fun _ => rfl
  | dropGuard id => exact hspent starts fun _ => rfl
  | _ => cases starts

/-- An action without an operation brings nothing in. -/
theorem inHands_prepare_le (nodup : (session.guards.map Prod.fst).Nodup) {action : Action κ ω}
    {outcome : Session κ ω ε × Option (Reply ω ε)} (allowed : session.act? action = some outcome)
    (same : ∀ change ∈ (Move.mk session (.act action) next reply).changes,
      has change.2 = has change.1) :
    (session.prepare action).inHands has ≤ session.inHands has := by
  have hfewer : ∀ id, (session.removeGuard id).inHands has ≤ session.inHands has := by
    intro id
    have hsub : (session.removeGuard id).guards.Sublist session.guards := List.filter_sublist
    exact Nat.add_le_add_left (hsub.map _).countP_le _
  cases action with
  | touch id object =>
    obtain ⟨guard, hguard, -⟩ := Option.map_eq_some_iff.mp allowed
    refine Nat.le_of_eq (inHands_setGuard has nodup hguard ?_)
    apply same (guard.object, object)
    simp [Move.changes, hguard]
  | release id => exact hfewer id
  | invalidate id => exact hfewer id
  | dropGuard id => exact hfewer id
  | _ => exact Nat.le_refl _

/-- **The first half of a step**: what a turn leaves was there or comes in. -/
theorem possession_of_opens (opens : session.Opens event base purpose turn)
    (inOrder : InOrder config session) (nodup : (session.guards.map Prod.fst).Nodup)
    (same : ∀ change ∈ (Move.mk session event next reply).changes, has change.2 = has change.1) :
    turn.1.store.stock has + turn.2.carried.countP has + base.inHands has ≤
      session.possession has +
        ((Move.mk session event next reply).enters.map Prod.snd).countP has := by
  have hordered := inOrder.orderly
  unfold possession
  cases opens with
  | @start action operation starts =>
    have hturn := session.pool.possession_start has hordered.sound operation
    have hbrought := countP_brought_le_of_starts has next reply nodup starts
    omega
  | @aside action other allowed =>
    obtain ⟨outcome, hallowed⟩ := allowed
    have hbase := inHands_prepare_le has nodup hallowed same
    have hturn : (session.pool.finish (.done : Result ω ε)).2.carried = [] := rfl
    have hpool : (session.pool.finish (.done : Result ω ε)).1 = session.pool := rfl
    rw [hturn, hpool, List.countP_nil]
    omega
  | @resume answer activity rest running_eq =>
    have hmem : activity.stage ∈ session.stages := by simp [stages, running_eq]
    have hturn := session.pool.possession_resume has hordered.sound activity.stage
      (hordered.holds hmem) (hordered.stands _ hmem) answer
    have hbrought := countP_brought_le has running_eq same
    have hhands : session.inHands has = activity.stage.carried.countP has +
        ({ session with running := rest } : Session κ ω ε).inHands has := by
      unfold inHands
      rw [running_eq, List.flatMap_cons, List.countP_append, Nat.add_assoc]
    omega

/-- A conclusion lends nothing else. -/
theorem lent?_conclusion (purpose : Purpose κ) (pool : Pool κ ω ε) (result : Result ω ε) :
    (conclusion purpose pool result).2.lent? = result.lent? := by
  rcases conclusion_cases purpose pool result with hsame | ⟨key, error, -, rfl, hnoted⟩
  · rw [hsame]
  · rw [hnoted]
    rfl

/-- **The second half of a step**: what there is after it was left by the turn. -/
theorem possession_of_ends {outcome : Session κ ω ε × Option (Reply ω ε)}
    (ends : base.Ends purpose turn outcome) (sound : turn.1.store.Sound) :
    outcome.1.possession has + (lentBy outcome.2).countP has ≤
      turn.1.store.stock has + turn.2.carried.countP has + base.inHands has := by
  cases ends with
  | @waits pool stage =>
    simp only [possession, inHands, List.flatMap_cons, List.countP_append, lentBy, List.countP_nil,
      Progress.carried]
    omega
  | @guarded pool key object purpose_eq =>
    simp only [possession, addGuard, inHands, List.map_append, List.map_cons, List.map_nil,
      List.countP_append, lentBy, List.countP_nil, Progress.carried, Result.lent?,
      Option.toList_some]
    omega
  | @told pool result referenced =>
    simp only [possession, store_conclusion, inHands, lentBy, lent?_conclusion, Progress.carried]
    omega
  | @closes pool result handles guards running =>
    have hsound : (conclusion purpose pool result).1.store.Sound := by
      rw [store_conclusion]
      exact sound
    have hclose := (conclusion purpose pool result).1.possession_close has hsound
      (conclusion purpose pool result).2
    rw [store_conclusion, lent?_conclusion] at hclose
    generalize (conclusion purpose pool result).1.close (conclusion purpose pool result).2 =
      closed at hclose
    obtain ⟨last, progress⟩ := closed
    cases progress with
    | waiting stage =>
      simp only [Progress.carried, possession, closing, guards, inHands, List.flatMap_cons,
        List.flatMap_nil, List.append_nil, lentBy, List.countP_nil] at hclose ⊢
      omega
    | finished final =>
      simp only [Progress.carried, possession, closing, running, inHands, List.flatMap_nil,
        List.countP_nil, lentBy] at hclose ⊢
      omega

/-- **A step adds nothing to what there is but what comes in**, and what it lends to a client is
there no more. -/
theorem possession_of_step (inOrder : InOrder config session)
    (nodup : (session.guards.map Prod.fst).Nodup)
    (step : session.step? event = some (next, reply))
    (same : ∀ change ∈ (Move.mk session event next reply).changes, has change.2 = has change.1) :
    next.possession has + (lentBy reply).countP has ≤
      session.possession has +
        ((Move.mk session event next reply).enters.map Prod.snd).countP has := by
  obtain ⟨base, purpose, turn, hopens, heq⟩ := opens_of_step? step
  have hends := base.ends_advance purpose turn
  rw [← heq] at hends
  exact (possession_of_ends has hends (hopens.orderly inOrder).sound).trans
    (possession_of_opens has hopens inOrder nodup same)

end steps

/-! ## Histories -/

section histories

variable [DecidableEq ι] {ident : ω → ι}

/-- Guards have numbers of their own. -/
theorem guards_nodup_of_history (history : History config log session) :
    (session.guards.map Prod.fst).Nodup := by
  apply List.nodup_iff_count_le_one.mpr
  intro id
  have hcount := spendings_of_history history id
  unfold guardCount at hcount
  split at hcount <;> omega

/-- How many of some resources have a name. -/
theorem count_names (ident : ω → ι) (entries : List (κ × ω)) (name : ι) :
    (names ident entries).count name =
      (entries.map Prod.snd).countP fun object => ident object = name := by
  unfold names
  rw [Multiset.coe_count, List.count_eq_countP, List.countP_map, List.countP_map]
  rfl

/-- No name stands more often than there are entries. -/
theorem count_names_le (ident : ω → ι) (entries : List (κ × ω)) (name : ι) :
    (names ident entries).count name ≤ entries.length := by
  rw [count_names, ← List.length_map Prod.snd]
  exact List.countP_le_length

/-- What comes in is created or handed back. -/
theorem names_enters (ident : ω → ι) (move : Move κ ω ε) :
    names ident move.enters = names ident move.creates + names ident move.handsBack := by
  unfold names Move.enters
  rw [List.map_append, Multiset.coe_add]

/-- What a move lends to a client is what its reply lends. -/
theorem count_lends_le (ident : ω → ι) (move : Move κ ω ε) (log : List (Move κ ω ε)) (name : ι) :
    (names ident (move.lends log)).count name ≤
      (lentBy move.reply).countP fun object => ident object = name := by
  rw [count_names]
  unfold Move.lends
  cases move.action? log with
  | none => exact Nat.zero_le _
  | some action =>
    rw [Option.toList_some, List.flatMap_singleton]
    unfold Action.lends
    split
    · next heq => rw [heq]; exact Nat.le_refl _
    · exact Nat.zero_le _

/-- What a move lends has been inside or has come in, and what there is afterwards has been too. -/
theorem possession_add_lends_le (past : History config log session)
    (step : session.step? event = some (next, reply))
    (same : ∀ change ∈ (Move.mk session event next reply).changes, ident change.2 = ident change.1)
    {name : ι}
    (known : session.possession (fun object => ident object = name) ≤
      (inside ident log).count name) :
    next.possession (fun object => ident object = name) +
        (names ident ((Move.mk session event next reply).lends log)).count name ≤
      (inside ident log).count name +
        (names ident (Move.mk session event next reply).enters).count name := by
  have hstep := possession_of_step (fun object => ident object = name)
    (reachable_inOrder past.reachable) (guards_nodup_of_history past) step
    fun change hchange => by rw [same change hchange]
  have hlends := count_lends_le ident (Move.mk session event next reply) log name
  rw [count_names ident (Move.enters _)]
  exact (Nat.add_le_add_left hlends _).trans (hstep.trans (Nat.add_le_add_right known _))

/-- **What there is of a name is inside**, in any history in which resources keep their names. -/
theorem possession_of_history (history : History config log session)
    (keeps : KeepsNames ident log) (name : ι) :
    session.possession (fun object => ident object = name) ≤ (inside ident log).count name := by
  induction history with
  | create => exact Nat.le_of_eq (Store.stock_of_emptied _ fun _ => rfl)
  | @step log session next event reply past hstep ih =>
    have hbefore := ih fun move hmove => keeps move (List.mem_cons_of_mem _ hmove)
    rw [inside, Multiset.count_sub, Multiset.count_add]
    exact Nat.le_sub_of_add_le
      (possession_add_lends_le past hstep (keeps _ List.mem_cons_self) hbefore)

/-- One resource comes in at a time. -/
theorem length_enters_le (move : Move κ ω ε) :
    move.creates.length + move.handsBack.length ≤ 1 := by
  obtain ⟨before, event, after, reply⟩ := move
  cases event with
  | act action =>
    show 0 + action.handsBack.length ≤ 1
    rw [Nat.zero_add]
    unfold Action.handsBack
    split
    · exact Nat.le_refl 1
    · exact Nat.le_refl 1
    · exact Nat.zero_le 1
  | answer answer =>
    show (Move.mk before (.answer answer) after reply).creates.length ≤ 1
    unfold Move.creates
    split
    · exact Nat.le_refl 1
    · exact Nat.le_refl 1
    · exact Nat.zero_le 1

/-- **A resource is in one place**: it is inside, or a client holds it, and it is there once. -/
theorem single_of_history (history : History config log session) (keeps : KeepsNames ident log)
    (single : Single ident log) (name : ι) :
    (inside ident log).count name + (held ident log).count name ≤ 1 := by
  induction history with
  | create => exact Nat.zero_le 1
  | @step log session next event reply past hstep ih =>
    obtain ⟨hcreates, hback, hsingle⟩ := single
    have hkeeps : KeepsNames ident log := fun move hmove =>
      keeps move (List.mem_cons_of_mem _ hmove)
    have hbefore := ih hkeeps hsingle
    have hlends := possession_add_lends_le past hstep (keeps _ List.mem_cons_self)
      (possession_of_history past hkeeps name)
    generalize Move.mk session event next reply = move at hcreates hback hlends
    have hnew : 0 < (names ident move.creates).count name →
        (inside ident log).count name = 0 ∧ (held ident log).count name = 0 := by
      intro hpos
      obtain ⟨entry, hentry, rfl⟩ := List.mem_map.mp (Multiset.count_pos.mp hpos)
      obtain ⟨hinside, hheld⟩ := hcreates entry hentry
      exact ⟨Multiset.count_eq_zero.mpr hinside, Multiset.count_eq_zero.mpr hheld⟩
    have hcame : 0 < (names ident move.handsBack).count name →
        (inside ident log).count name = 0 := by
      intro hpos
      obtain ⟨entry, hentry, rfl⟩ := List.mem_map.mp (Multiset.count_pos.mp hpos)
      exact Multiset.count_eq_zero.mpr (hback entry hentry)
    have hone := length_enters_le move
    have hcreated := count_names_le ident move.creates name
    have hreturned := count_names_le ident move.handsBack name
    rw [names_enters, Multiset.count_add] at hlends
    rw [inside, held, names_enters]
    simp only [Multiset.count_sub, Multiset.count_add]
    omega

/-- What is there is with no client. -/
theorem not_held_of_possession (history : History config log session)
    (keeps : KeepsNames ident log) (single : Single ident log) {name : ι}
    (there : 0 < session.possession fun object => ident object = name) :
    name ∉ held ident log := by
  have hinside := possession_of_history history keeps name
  have honce := single_of_history history keeps single name
  apply Multiset.count_eq_zero.mp
  omega

end histories

end ResourcePool.Session
