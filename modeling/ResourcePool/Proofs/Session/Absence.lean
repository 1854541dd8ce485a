import ResourcePool.Proofs.Session.Possession

/-!
# Resources that are not there

What a session does not have, neither idle nor in the hands of an operation nor in a guard, it does
not get by itself. Whatever happens later, with any clients and any factory, also one that panics,
it stays away and is lent to nobody, as long as nobody brings it in.

* `Session.Later` — the moves that lead from a session to a later one.
* `Numbered`, `numbered_of_step` — guards have numbers of their own.
* `handedBy` — the resource that a reply hands out, to a client itself or in a guard.
* `Brings` — a move brings a resource in.
* `inHands_of_idle` — an idle resource is nowhere else.
* `absent_of_later` — what nobody brings in stays away.
-/

set_option linter.unusedSectionVars false

namespace ResourcePool.Session

variable {κ ω ε : Type} [DecidableEq κ]

/-- **The moves that lead from a session to a later one**, the latest first. -/
inductive Later (start : Session κ ω ε) : List (Move κ ω ε) → Session κ ω ε → Prop where
  | now : Later start [] start
  | step {log : List (Move κ ω ε)} {session next : Session κ ω ε} {event : Event κ ω ε}
      {reply : Option (Reply ω ε)} :
      Later start log session → session.step? event = some (next, reply) →
      Later start (⟨session, event, next, reply⟩ :: log) next

/-- Every guard has a number of its own, and the number for the next guard is none of them. -/
def Numbered (session : Session κ ω ε) : Prop :=
  ∀ id, session.guardCount id ≤ if id < session.nextGuard then 1 else 0

/-- The resource that a reply hands out, to a client itself or in a guard. -/
def handedBy : Option (Reply ω ε) → List ω
  | some (.guarded _ object) => [object]
  | reply => lentBy reply

/-- A move that brings in a resource with a property: the factory creates it, a client hands it
back, or another resource is changed into it. -/
def Move.Brings (has : ω → Bool) (move : Move κ ω ε) : Prop :=
  (∃ entry ∈ move.enters, has entry.2 = true) ∨
    ∃ change ∈ move.changes, has change.2 ≠ has change.1

section steps

variable {config : Config} {session next : Session κ ω ε} {event : Event κ ω ε}
  {reply : Option (Reply ω ε)}

/-- No two guards have the same number. -/
theorem Numbered.nodup (numbered : Numbered session) : (session.guards.map Prod.fst).Nodup := by
  apply List.nodup_iff_count_le_one.mpr
  intro id
  have hcount := numbered id
  unfold guardCount at hcount
  split at hcount <;> omega

/-- The guards of a session with a history are numbered, by induction on the moves. -/
theorem numbered_of_history {log : List (Move κ ω ε)} (history : History config log session) :
    Numbered session := by
  intro id
  rw [← spendings_of_history history id]
  exact Nat.le_add_right _ _

/-- A session in order stays so in every move. -/
theorem InOrder.step (inOrder : InOrder config session)
    (step : session.step? event = some (next, reply)) : InOrder config next := by
  cases event with
  | act action => exact inOrder.act (acts_of_act? step)
  | answer answer => exact (inOrder.answer step).1

/-- A step gives the next number to a new guard. -/
theorem numbered_of_step (numbered : Numbered session)
    (step : session.step? event = some (next, reply)) : Numbered next := by
  obtain ⟨base, purpose, turn, hopens, heq⟩ := opens_of_step? step
  have hends := base.ends_advance purpose turn
  rw [← heq] at hends
  have honce : ∀ id, session.guardCount id ≤ 1 := by
    intro id
    have hcount := numbered id
    split at hcount <;> omega
  obtain ⟨hnumber, hcount⟩ := hopens.guardCount_eq honce
  have hbase : ∀ id, base.guardCount id ≤ if id < session.nextGuard then 1 else 0 := fun id =>
    (Nat.le_of_add_right_le (Nat.le_of_eq (hcount id))).trans (numbered id)
  intro id
  rcases guards_of_ends hends with ⟨hguards, hnext⟩ | ⟨key, object, -, hguards, hnext⟩
  · have hsame : next.guardCount id = base.guardCount id :=
      congrArg (fun guards => (guards.map Prod.fst).count id) hguards
    rw [hsame, show next.nextGuard = session.nextGuard from hnext.trans hnumber]
    exact hbase id
  · have hmore : next.guardCount id =
        base.guardCount id + if session.nextGuard = id then 1 else 0 := by
      unfold guardCount
      rw [show next.guards = _ from hguards, List.map_append, List.count_append, hnumber]
      simp [List.count_singleton]
    have hlast : next.nextGuard = session.nextGuard + 1 :=
      hnext.trans (congrArg (· + 1) hnumber)
    have hbefore := hbase id
    rw [hmore, hlast]
    by_cases hnew : session.nextGuard = id
    · rw [← hnew, if_neg (Nat.lt_irrefl _)] at hbefore
      rw [if_pos hnew, if_pos (hnew ▸ Nat.lt_succ_self _), ← hnew]
      omega
    · rw [if_neg hnew, Nat.add_zero]
      refine hbefore.trans ?_
      by_cases hold : id < session.nextGuard
      · rw [if_pos hold, if_pos (Nat.lt_succ_of_lt hold)]
      · rw [if_neg hold]
        exact Nat.zero_le _

/-- What a reply hands out has been lent to a client itself, or it is in a guard. -/
theorem handed_of_ends {base : Session κ ω ε} {purpose : Purpose κ} {turn : Pool.Turn κ ω ε}
    {outcome : Session κ ω ε × Option (Reply ω ε)} (ends : base.Ends purpose turn outcome)
    {object : ω} (handed : object ∈ handedBy outcome.2) :
    object ∈ lentBy outcome.2 ∨ object ∈ outcome.1.guards.map fun entry => entry.2.object := by
  cases ends with
  | waits => exact .inl handed
  | @guarded pool key other purpose_eq =>
    have hsame : object = other := List.mem_singleton.mp handed
    simp [hsame, addGuard]
  | told => exact .inl handed
  | @closes pool result handles guards running =>
    generalize (conclusion purpose pool result).1.close (conclusion purpose pool result).2 = turn
      at handed
    obtain ⟨last, progress⟩ := turn
    cases progress <;> exact .inl handed

end steps

/-- **An idle resource is in nobody's hands**, if no resource has come in twice. -/
theorem inHands_of_idle {ι : Type} [DecidableEq ι] {ident : ω → ι} {config : Config}
    {log : List (Move κ ω ε)} {session : Session κ ω ε} (history : History config log session)
    (keeps : KeepsNames ident log) (single : Single ident log) {key : κ} {object : ω}
    (idle : object ∈ (session.pool.store.live key).idle) :
    session.inHands (fun other => ident other = ident object) = 0 := by
  have hsound := (reachable_inOrder history.reachable).orderly.sound
  have hthere := possession_of_history history keeps (ident object)
  have honce := single_of_history history keeps single (ident object)
  have hidle := stock_pos (fun other => ident other = ident object) hsound idle (decide_eq_true rfl)
  unfold possession at hthere
  omega

/-- **What is not there stays away** until it is brought in, by induction on the moves: a step adds
nothing to what there is but what comes in. -/
theorem absent_of_later {config : Config} {start final : Session κ ω ε} {log : List (Move κ ω ε)}
    {has : ω → Bool} (inOrder : InOrder config start) (numbered : Numbered start)
    (absent : start.possession has = 0) (later : Later start log final)
    (brings : ∀ move ∈ log, ¬move.Brings has) :
    final.possession has = 0 ∧
      ∀ move ∈ log, ∀ object ∈ handedBy move.reply, has object = false := by
  have hall : InOrder config final ∧ Numbered final ∧ final.possession has = 0 ∧
      ∀ move ∈ log, ∀ object ∈ handedBy move.reply, has object = false := by
    induction later with
    | now => exact ⟨inOrder, numbered, absent, fun _ h => nomatch h⟩
    | @step log session next event reply past hstep ih =>
      obtain ⟨hinOrder, hnumbered, habsent, hlent⟩ :=
        ih fun move hmove => brings move (List.mem_cons_of_mem _ hmove)
      have hnone := brings _ List.mem_cons_self
      obtain ⟨henters, hchanges⟩ := not_or.mp hnone
      have hsame : ∀ change ∈ (Move.mk session event next reply).changes,
          has change.2 = has change.1 := fun change hchange =>
        not_not.mp fun h => hchanges ⟨change, hchange, h⟩
      have hcomes : ((Move.mk session event next reply).enters.map Prod.snd).countP has = 0 := by
        apply List.countP_eq_zero.mpr
        intro object hobject hhas
        obtain ⟨entry, hentry, rfl⟩ := List.mem_map.mp hobject
        exact henters ⟨entry, hentry, hhas⟩
      have hle := possession_of_step has hinOrder hnumbered.nodup hstep hsame
      rw [habsent, hcomes] at hle
      refine ⟨hinOrder.step hstep, numbered_of_step hnumbered hstep, by omega, ?_⟩
      intro move hmove
      rcases List.mem_cons.mp hmove with rfl | hbefore
      · have hreply : (lentBy reply).countP has = 0 := by omega
        have hguards : (next.guards.map fun entry => entry.2.object).countP has = 0 := by
          unfold possession inHands at hle
          omega
        obtain ⟨base, purpose, turn, -, heq⟩ := opens_of_step? hstep
        have hends := base.ends_advance purpose turn
        rw [← heq] at hends
        intro object hobject
        rcases handed_of_ends hends hobject with hlends | hguarded
        · simpa using List.countP_eq_zero.mp hreply object hlends
        · simpa using List.countP_eq_zero.mp hguards object hguarded
      · exact hlent move hbefore
  exact hall.2.2

end ResourcePool.Session
