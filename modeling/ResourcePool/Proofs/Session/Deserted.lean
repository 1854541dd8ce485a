import ResourcePool.Proofs.Session.Leaving

/-!
# Deserted pools

A pool that no client closes lives until its last handle or guard has gone, and it takes with it
what is idle then, and nothing that a client holds.

* `held_of_history` — what clients hold is not affected when a handle or a guard goes.
* `Leaving.not_held` — and none of it is destroyed.
* `spends_of_history` — what a move does that uses up a guard.
* `lives_until_deserted` — the life of a pool that no client closes.
-/

set_option linter.unusedSectionVars false

namespace ResourcePool.Session

variable {κ ω ε ι : Type} [DecidableEq κ] {config : Config} {log past later : List (Move κ ω ε)}
  {start : Move κ ω ε} {session : Session κ ω ε}

/-! ## What clients hold -/

/-- An operation that goes on after a step, with no other in progress, has given no reply yet. -/
theorem reply_of_ends {base : Session κ ω ε} {purpose : Purpose κ} {turn : Pool.Turn κ ω ε}
    {outcome : Session κ ω ε × Option (Reply ω ε)} (ends : base.Ends purpose turn outcome)
    (running : base.running = []) (busy : outcome.1.running ≠ []) : outcome.2 = none := by
  cases ends with
  | waits => rfl
  | guarded => exact absurd running busy
  | told => exact absurd running busy
  | @closes pool result =>
    generalize (conclusion purpose pool result).1.close (conclusion purpose pool result).2 =
      closed at busy
    obtain ⟨last, progress⟩ := closed
    cases progress with
    | waiting stage => rfl
    | finished final => exact absurd running busy

/-- By a leaving action a client neither hands back anything that it holds itself nor gets
anything. -/
theorem ledger_of_leaves {action : Action κ ω} (leaves : action.leaves = true)
    (reply : Option (Reply ω ε)) : action.handsBack = [] ∧ action.lends reply = [] := by
  cases action <;> first | exact ⟨rfl, rfl⟩ | cases leaves

/-- A handle or a guard that goes hands nothing back at that moment, so that its clients hold what
they held. -/
theorem held_cons_of_leaves [DecidableEq ι] (ident : ω → ι) {move : Move κ ω ε}
    {log : List (Move κ ω ε)} {action : Action κ ω} (leaves : action.leaves = true)
    (belongs : move.action? log = some action) (back : move.handsBack = []) :
    held ident (move :: log) = held ident log := by
  have hlends : move.lends log = [] := by
    rw [Move.lends, belongs, Option.toList_some, List.flatMap_singleton,
      (ledger_of_leaves leaves move.reply).2]
  rw [held, back, hlends]
  exact (add_zero _).trans (tsub_zero _)

/-- After a move without a reply the action that it belongs to is the innermost one in progress. -/
theorem pending_of_waiting {move : Move κ ω ε} {log : List (Move κ ω ε)} {action : Action κ ω}
    (belongs : move.action? log = some action) (waits : move.reply = none) :
    (pending (move :: log)).head? = some action := by
  obtain ⟨before, event, after, reply⟩ := move
  cases waits
  cases event <;> exact belongs

/-- **What clients hold themselves is not affected** when a handle or a guard goes. -/
theorem held_of_history [DecidableEq ι] (ident : ω → ι)
    (history : History config (later ++ start :: past) session)
    (calm : Calm (later ++ start :: past)) (unclosed : Unclosed (later ++ start :: past))
    {action : Action κ ω} (acts : start.event = .act action) (leaves : action.leaves = true)
    (rest : start.before.running = []) (answers : ∀ move ∈ later, move.event.isAnswer = true) :
    (session.running ≠ [] → (pending (later ++ start :: past)).head? = some action) ∧
      held ident (later ++ start :: past) = held ident past := by
  induction later generalizing session with
  | nil =>
    cases history with
    | @step _ before _ event reply earlier hstep =>
      cases acts
      obtain ⟨base, purpose, turn, hopens, heq⟩ := opens_of_step? hstep
      have hends := base.ends_advance purpose turn
      rw [← heq] at hends
      have hrunning : base.running = [] := by
        cases hopens with
        | start => exact (running_prepare _ _).trans rest
        | aside => exact (running_prepare _ _).trans rest
      exact ⟨fun hbusy => pending_of_waiting rfl (reply_of_ends hends hrunning hbusy),
        held_cons_of_leaves ident leaves rfl (ledger_of_leaves leaves reply).1⟩
  | cons move later ih =>
    rw [List.cons_append] at history
    cases history with
    | @step _ before _ event reply earlier hstep =>
      have hcalm : Calm (later ++ start :: past) := fun move hmove =>
        calm move (List.mem_cons_of_mem _ hmove)
      have hunclosed : Unclosed (later ++ start :: past) := fun move hmove =>
        unclosed move (List.mem_cons_of_mem _ hmove)
      have hanswers := fun move hmove => answers move (List.mem_cons_of_mem _ hmove)
      obtain ⟨hpending, hheld⟩ := ih earlier hcalm hunclosed hanswers
      obtain ⟨hstands, -⟩ := stands_of_history earlier hcalm hunclosed acts leaves rest hanswers
      cases event with
      | act other => cases answers _ List.mem_cons_self
      | answer answer =>
        obtain ⟨activity, others, hrunning, heq⟩ := answer?_cases hstep
        have hends := ends_advance { before with running := others } activity.purpose
          (before.pool.resume activity.stage answer)
        rw [← heq] at hends
        have hnone : others = [] := by
          have hlength := hstands.alone.1
          rw [hrunning, List.length_cons] at hlength
          exact List.length_eq_zero_iff.mp (by omega)
        have hbelongs : (Move.mk before (.answer answer) session reply).action?
            (later ++ start :: past) = some action := hpending (by simp [hrunning])
        refine ⟨fun hbusy => pending_of_waiting hbelongs (reply_of_ends hends hnone hbusy), ?_⟩
        rw [List.cons_append, held_cons_of_leaves ident leaves hbelongs rfl]
        exact hheld

/-- The history before a move. -/
theorem History.earlier (history : History config (later ++ start :: past) session) :
    History config past start.before := by
  induction later generalizing session with
  | nil => cases history with | step earlier _ => exact earlier
  | cons move later ih => cases history with | step earlier _ => exact ih earlier

/-- What is asked of a history is asked of every shorter one. -/
theorem single_of_append [DecidableEq ι] {ident : ω → ι} (single : Single ident (log ++ past)) :
    Single ident past := by
  induction log with
  | nil => exact single
  | cons move log ih => exact ih single.2.2

/-- **Nothing that a client holds itself is destroyed** when a handle or a guard goes: what is
destroyed was idle then, or in the guard. -/
theorem Leaving.not_held [DecidableEq ι] {ident : ω → ι} {moves : List (Move κ ω ε)}
    {kept scrapped underway swept : List (κ × ω)}
    (leaving : Leaving start moves session kept scrapped underway swept)
    (history : History config past start.before) (keeps : KeepsNames ident past)
    (named : KeepsNames ident moves) (single : Single ident past) {entry : κ × ω}
    (destroyed : entry ∈ destructions moves) : ident entry.2 ∉ held ident past := by
  -- a resource that the guard has yielded
  have hyielded : ∀ other ∈ kept ++ scrapped ++ underway, ident other.2 ∉ held ident past := by
    intro other hother
    obtain ⟨source, hsource, hevolves⟩ := exists_of_evolves leaving.yielded hother
    rw [hevolves.name_eq named]
    obtain ⟨id, guard, hguard, rfl⟩ := Move.mem_yields hsource
    apply not_held_of_possession history keeps single
    apply Nat.add_pos_right
    exact inHands_pos_of_guard? _ hguard (decide_eq_true rfl)
  rw [leaving.destroyed] at destroyed
  rcases List.mem_append.mp destroyed with hswept | hscrapped
  · have hlisted : entry.2 ∈ listedUnder entry.1 kept ++ start.before.queue entry.1 :=
      (leaving.swept_from entry.1).subset (mem_listedUnder.mpr hswept)
    rcases List.mem_append.mp hlisted with hkept | hidle
    · have hmem := mem_listedUnder.mp hkept
      exact hyielded entry (by simp [hmem])
    · have hsound := (reachable_inOrder history.reachable).orderly.sound
      apply not_held_of_possession history keeps single
      apply Nat.add_pos_left
      exact stock_pos _ hsound hidle (decide_eq_true rfl)
  · exact hyielded entry (by simp [hscrapped])

/-! ## The life of a pool -/

/-- **A move that uses a guard up** starts the return of its resource, or the invalidation. -/
theorem spends_of_history (history : History config log session) {move : Move κ ω ε}
    (mem : move ∈ log) {id : GuardId} (spends : move.event.spends id = true) :
    ∃ guard operation purpose, move.before.guard? id = some guard ∧
      ((move.event = .act (.release id) ∨ move.event = .act (.dropGuard id)) ∧
          operation = .giveBack guard.key guard.object ∨
        move.event = .act (.invalidate id) ∧ operation = .invalidate guard.key guard.object) ∧
      (move.after, move.reply) =
        (move.before.removeGuard id).advance purpose (move.before.pool.start operation) := by
  obtain ⟨-, hstep⟩ := history.step_of_mem mem
  obtain ⟨before, event, after, reply⟩ := move
  cases event with
  | answer answer => cases spends
  | act action =>
    cases action with
    | release other =>
      obtain rfl : other = id := by simpa [Event.spends] using spends
      obtain ⟨guard, hguard, heq⟩ := Option.map_eq_some_iff.mp hstep
      exact ⟨guard, _, _, hguard, .inl ⟨.inl rfl, rfl⟩, heq.symm⟩
    | dropGuard other =>
      obtain rfl : other = id := by simpa [Event.spends] using spends
      obtain ⟨guard, hguard, heq⟩ := Option.map_eq_some_iff.mp hstep
      exact ⟨guard, _, _, hguard, .inl ⟨.inr rfl, rfl⟩, heq.symm⟩
    | invalidate other =>
      obtain rfl : other = id := by simpa [Event.spends] using spends
      obtain ⟨guard, hguard, heq⟩ := Option.map_eq_some_iff.mp hstep
      exact ⟨guard, _, _, hguard, .inr ⟨rfl, rfl⟩, heq.symm⟩
    | _ => cases spends

/-- When a closed pool that no client has closed has nothing left to do, nothing happens any
more. -/
theorem step?_of_closed (living : Living session) (closed : session.pool.isClosed = true)
    (rest : session.running = []) (event : Event κ ω ε) : session.step? event = none := by
  cases event with
  | act action => exact act?_of_unreferenced (living.handles closed) (living.guards closed) action
  | answer answer =>
    show session.answer? answer = none
    rw [answer?, rest]

/-- **A pool that no client closes lives as long as it has handles or guards.** It is open as long
as there are any; between operations it is closed if there are none; it closes once, and when that
is done nothing happens any more. A guard is there from the reply that brings it to the one move
that uses it up, by a return or by an invalidation of its resource. When a handle or a guard goes
while no operation is in progress, the factory is called a bounded number of times; as long as there
is a handle or a guard left nothing idle is destroyed, and otherwise all that was idle is, with the
resource that the last guard has brought back if it is kept, each resource once. What clients hold
themselves is not affected, and none of it is destroyed. -/
theorem lives_until_deserted [DecidableEq ι] (ident : ω → ι) (history : History config log session)
    (calm : Calm log) (unclosed : Unclosed log) :
    Living session ∧
    (session.pool.isClosed = true → session.running = [] → ∀ event, session.step? event = none) ∧
    (∀ id, session.guardCount id + spendings id log = if id < session.nextGuard then 1 else 0) ∧
    (∀ move ∈ log, ∀ id, move.event.spends id = true →
      ∃ guard operation purpose, move.before.guard? id = some guard ∧
        ((move.event = .act (.release id) ∨ move.event = .act (.dropGuard id)) ∧
            operation = .giveBack guard.key guard.object ∨
          move.event = .act (.invalidate id) ∧ operation = .invalidate guard.key guard.object) ∧
        (move.after, move.reply) =
          (move.before.removeGuard id).advance purpose (move.before.pool.start operation)) ∧
    (∀ later start past action, log = later ++ start :: past → start.event = .act action →
      action.leaves = true → start.before.running = [] →
      (∀ move ∈ later, move.event.isAnswer = true) →
      session.handles = start.after.handles ∧ session.guards = start.after.guards ∧
      (∃ kept scrapped underway swept,
        Leaving start (later ++ [start]) session kept scrapped underway swept) ∧
      held ident log = held ident past ∧
      (KeepsNames ident log → Single ident log →
        ∀ entry ∈ destructions (later ++ [start]), ident entry.2 ∉ held ident log)) := by
  have hliving := living_of_history history unclosed
  refine ⟨hliving, fun closed rest => step?_of_closed hliving closed rest,
    spendings_of_history history, fun move hmove id => spends_of_history history hmove, ?_⟩
  rintro later start past action rfl acts leaves rest answers
  obtain ⟨hstands, hhandles, hguards⟩ :=
    stands_of_history history calm unclosed acts leaves rest answers
  obtain ⟨-, hheld⟩ := held_of_history ident history calm unclosed acts leaves rest answers
  refine ⟨hhandles, hguards, hstands.leaving, hheld, ?_⟩
  intro keeps single entry hentry
  rw [hheld]
  obtain ⟨kept, scrapped, underway, swept, hleaving⟩ := hstands.leaving
  have hsplit : later ++ start :: past = (later ++ [start]) ++ past := by simp
  rw [hsplit] at keeps single
  exact hleaving.not_held history.earlier
    (fun move hmove => keeps move (List.mem_append_right _ hmove))
    (fun move hmove => keeps move (List.mem_append_left _ hmove)) (single_of_append single) hentry

/-- The events of a short run. The resource 7 is lent in a guard, 8 is added, and a client borrows 5
of another key. Then the handle is dropped, and the guard after it: 7 comes back, and the pool
closes, with a failure of the last destroy. -/
def farewell : List (Event Nat Nat String) :=
  [.act (.get 0), .answer (.done 7), .answer (.done 7),
    .act (.call (.prefill 0 1)), .answer (.done 8), .answer (.done 8),
    .act (.call (.borrow 1)), .answer (.done 5), .answer (.done 5), .act .dropHandle,
    .act (.dropGuard 0), .answer (.done 7), .answer (.done 8), .answer (.failed "jammed")]

/-- Both idle resources of the key are destroyed, once, and 5 is not. -/
theorem deserted_after_farewell : ∃ later start past session,
    replay Config.standard farewell = some (later ++ start :: past, session) ∧
    start.event = .act (.dropGuard 0) ∧
    (∃ kept scrapped underway swept,
      Leaving start (later ++ [start]) session kept scrapped underway swept) ∧
    destructions (later ++ [start]) = [(0, 7), (0, 8)] ∧
    session.pool.isClosed = true ∧ session.pool.closings = 1 ∧
    (∀ event, session.step? event = none) ∧ spendings 0 (later ++ start :: past) = 1 ∧
    held id (later ++ start :: past) = {5} ∧ (∀ entry ∈ destructions (later ++ [start]),
      id entry.2 ∉ held id (later ++ start :: past)) := by
  have hfits : ∀ past ∈ replay Config.standard farewell, Calm past.1 ∧ Unclosed past.1 ∧
      KeepsNames id past.1 ∧ Single id past.1 ∧ past.2.running.isEmpty ∧
      past.2.handles = 0 ∧ past.2.guards = [] ∧ past.2.guardCount 0 = 0 ∧ past.2.nextGuard = 1 ∧
      (∀ move ∈ past.1.take 3, move.event.isAnswer = true) ∧
      destructions (past.1.take 4) = [(0, 7), (0, 8)] ∧ held id (past.1.drop 4) = {5} ∧
      ∃ start ∈ past.1[3]?, start.event = .act (.dropGuard 0) ∧ start.before.running.isEmpty := by
    decide +kernel
  have hplays : (replay Config.standard farewell).isSome = true := by
    decide +kernel
  obtain ⟨⟨log, session⟩, hpast⟩ := Option.isSome_iff_exists.mp hplays
  obtain ⟨hcalm, hunclosed, hkeeps, hsingle, hrest, hhandles, hguards, hgone, hnumber,
    hanswers, hdestroyed, hlent, start, hstart, hevent, hbefore⟩ := hfits _ hpast
  obtain ⟨hliving, hover, hguard, -, hleaves⟩ :=
    lives_until_deserted id (history_of_replay hpast) hcalm hunclosed
  have hclosed := hliving.closed (List.isEmpty_iff.mp hrest) hhandles hguards
  have hfound : log[3]? = some start := hstart
  have hsplit : log = log.take 3 ++ start :: log.drop 4 := by
    obtain ⟨hlt, heq⟩ := List.getElem?_eq_some_iff.mp hfound
    rw [← heq, List.cons_getElem_drop_succ, List.take_append_drop]
  have htake : log.take 3 ++ [start] = log.take 4 := by
    rw [show log.take 4 = log.take 3 ++ log[3]?.toList from List.take_add_one, hfound]
    rfl
  obtain ⟨-, -, hleaving, hheld, hsafe⟩ := hleaves (log.take 3) start (log.drop 4) (.dropGuard 0)
    hsplit hevent rfl (List.isEmpty_iff.mp hbefore) hanswers
  have hspent := hguard 0
  rw [hgone, hnumber, Nat.zero_add] at hspent
  have hclosings := hliving.closings_eq
  rw [hclosed] at hclosings
  refine ⟨log.take 3, start, log.drop 4, session, ?_, hevent, hleaving, ?_, hclosed, hclosings,
    hover hclosed (List.isEmpty_iff.mp hrest), ?_, ?_, ?_⟩
  · rw [← hsplit]
    exact hpast
  · rw [htake]
    exact hdestroyed
  · rw [← hsplit]
    exact hspent
  · rw [← hsplit]
    exact hheld.trans hlent
  · rw [← hsplit]
    exact hsafe hkeeps hsingle

end ResourcePool.Session
