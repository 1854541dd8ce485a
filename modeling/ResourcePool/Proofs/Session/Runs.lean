import ResourcePool.Proofs.Session.Bookkeeping

/-!
# The books of a whole run

Along every history the books stay right, as long as no factory step panics, clients hand back only
what they hold, and resources keep their names.

* `Kept` — the books of a history.
* `Kept.act`, `Kept.answer`, `Kept.step` — one more move.
* `history_kept` — a whole run.
-/

set_option linter.unusedSectionVars false

namespace ResourcePool.Session

variable {κ ω ε ι : Type} [DecidableEq κ] [DecidableEq ι]

/-! ## The books of a history -/

/-- **The books of a history are right**, with the operations in progress as they are in the
session. -/
structure Kept (config : Config) (ident : ω → ι) (log : List (Move κ ω ε))
    (session : Session κ ω ε) (frames : List (Frame κ ω ε)) : Prop where
  actions_eq : frames.map Prod.fst = pending log
  scene : Scene config session frames
  custody : Custody config ident (trace ident log) (fun key => loans ident key log)
    (fun key => destroyed ident key log) session.pool (handsOf config frames session.guards)
    (returningOf frames) (outOf config frames session.guards)

/-- A new pool has nothing in its books. -/
theorem kept_create (config : Config) (walk : Walk κ) (ident : ω → ι) :
    Kept config ident [] (create config walk : Session κ ω ε) [] := by
  have hsound : (Pool.empty config walk : Pool κ ω ε).store.Sound :=
    Store.sound_empty config.selection config.idleLimit walk
  have hsheet : sheetOf ident (.empty config walk : Pool κ ω ε) []
      (fun key => loans ident key ([] : List (Move κ ω ε)))
      (fun key => destroyed ident key ([] : List (Move κ ω ε))) = fun _ => 0 := by
    funext key
    rfl
  refine ⟨rfl, ⟨rfl, hsound, ?_, rfl, ?_, ?_, List.nodup_nil, ?_⟩, ?_, ?_, ?_⟩
  · exact List.forall_mem_nil _
  · exact List.forall_mem_nil _
  · exact List.forall_mem_nil _
  · exact List.forall_mem_nil _
  · show Path config [] (sheetOf ident (.empty config walk) [] _ _)
    rw [hsheet]
    exact .nil
  · intro key
    rfl
  · exact List.forall_mem_nil _

section moves

variable {config : Config} {ident : ω → ι} {log : List (Move κ ω ε)} {session : Session κ ω ε}
  {frames : List (Frame κ ω ε)}

/-- An outcome with right books continues the books of a history. -/
theorem Settles.kept {move : Move κ ω ε} {action : Action κ ω} {rest : List (Action κ ω)}
    (settles : Settles config ident (named ident move.opening ++ trace ident log)
      (fun key => loans ident key log - (under key move.handsBack).map ident)
      (fun key => destroyed ident key log) action rest (move.after, move.reply))
    (action_eq : move.action? log = some action)
    (pending_eq : pending (move :: log) =
      match move.reply with | none => action :: rest | some _ => rest) :
    (∃ frames, Kept config ident (move :: log) move.after frames) ∧
      move.reply ≠ some (.result (.failed .notBorrowed)) := by
  obtain ⟨frames, hactions, hscene, hreply, hcustody⟩ := settles
  refine ⟨⟨frames, hactions.trans pending_eq.symm, hscene, ?_⟩, hreply⟩
  have htrace : trace ident (move :: log) =
      named ident (endMarks action (move.after, move.reply)) ++
        (named ident move.opening ++ trace ident log) := by
    show named ident (move.ending log ++ move.opening) ++ trace ident log = _
    have hending : move.ending log = endMarks action (move.after, move.reply) := by
      unfold Move.ending endMarks Move.asked?
      rw [action_eq, Option.toList_some, List.flatMap_singleton]
    rw [hending, named_append ident, List.append_assoc]
  have hloans : (fun key => loans ident key (move :: log)) = fun key =>
      loans ident key log - (under key move.handsBack).map ident +
        (under key (action.lends move.reply)).map ident := by
    funext key
    show _ + (under key (move.lends log)).map ident = _
    unfold Move.lends
    rw [action_eq, Option.toList_some, List.flatMap_singleton]
  have hgone : (fun key => destroyed ident key (move :: log)) = fun key =>
      destroyed ident key log + (under key move.destroys).map ident := by
    funext key
    unfold destroyed
    rw [List.flatMap_cons, under_append, Multiset.map_add, add_comm]
  rw [htrace, hloans, hgone]
  exact hcustody

/-! ## Actions -/

/-- An operation takes a resource back, or it takes none. -/
theorem operation_cases (operation : Operation κ ω) :
    (∃ key object, operation = .giveBack key object ∨ operation = .invalidate key object) ∨
    ((∀ isClosed, operation.marks isClosed = [] ∧ operation.given isClosed = []) ∧
      operation.loan? = none ∧ (Action.call operation).handsBack = []) := by
  cases operation with
  | giveBack key object => exact .inl ⟨key, object, .inl rfl⟩
  | invalidate key object => exact .inl ⟨key, object, .inr rfl⟩
  | _ => exact .inr ⟨fun _ => ⟨rfl, rfl⟩, rfl, rfl⟩

/-- A client hands back nothing. -/
theorem loans_nothing :
    (fun key => loans ident key log - (under key ([] : List (κ × ω))).map ident) =
      fun key => loans ident key log := by
  funext key
  exact tsub_zero _

/-- A client calls an operation, and hands back a resource if the operation takes one. -/
theorem Kept.called (kept : Kept config ident log session frames) (operation : Operation κ ω)
    (held : ∀ entry ∈ (Action.call operation).handsBack, ident entry.2 ∈ loans ident entry.1 log) :
    Custody config ident (named ident (operation.marks session.pool.isClosed) ++ trace ident log)
      (fun key => loans ident key log - (under key (Action.call operation).handsBack).map ident)
      (fun key => destroyed ident key log) session.pool
      (operation.given session.pool.isClosed ++ handsOf config frames session.guards)
      (returningOf frames) (operation.loan?.toList ++ outOf config frames session.guards) := by
  rcases operation_cases operation with ⟨key, object, rfl | rfl⟩ | ⟨htakes, hloan, hback⟩
  · have hloan := held (key, object) List.mem_cons_self
    exact kept.custody.handBack (.inl rfl) hloan session.pool.isClosed
  · have hloan := held (key, object) List.mem_cons_self
    exact kept.custody.handBack (.inr rfl) hloan session.pool.isClosed
  · rw [(htakes _).1, (htakes _).2, hloan, hback, loans_nothing]
    exact kept.custody

/-- A guard and the others. -/
theorem guards_perm {guards : List (GuardId × Guard κ ω)} (nodup : (guards.map Prod.fst).Nodup)
    {id : GuardId} {entry : GuardId × Guard κ ω}
    (h : (guards.find? fun entry => entry.1 = id) = some entry) :
    guards.Perm (entry :: guards.filter fun entry => entry.1 ≠ id) := by
  induction guards with
  | nil => cases h
  | cons first guards ih =>
    obtain ⟨hfirst, hrest⟩ := List.nodup_cons.mp nodup
    by_cases hid : first.1 = id
    · rw [List.find?_cons_of_pos (by simpa using hid)] at h
      cases h
      rw [List.filter_cons_of_neg (by simpa using hid)]
      have hothers : (guards.filter fun entry => entry.1 ≠ id) = guards := by
        refine List.filter_eq_self.mpr fun other hother => decide_eq_true ?_
        intro hsame
        exact hfirst (hid ▸ hsame ▸ List.mem_map_of_mem hother)
      rw [hothers]
    · rw [List.find?_cons_of_neg (by simpa using hid)] at h
      rw [List.filter_cons_of_pos (by simpa using hid)]
      exact ((ih hrest h).cons first).trans (List.Perm.swap entry first _)

/-- The entry of a guard that is there. -/
theorem find?_of_guard? {id : GuardId} {guard : Guard κ ω} (h : session.guard? id = some guard) :
    (session.guards.find? fun entry => entry.1 = id) = some (id, guard) := by
  obtain ⟨entry, hfound, rfl⟩ := Option.map_eq_some_iff.mp h
  have hfits := List.find?_some hfound
  have hid : entry.1 = id := of_decide_eq_true hfits
  rw [hfound, ← hid]

/-- What comes back with an action that uses up a guard. -/
theorem returns_of_spending {id : GuardId} {guard : Guard κ ω} {action : Action κ ω}
    {purpose : Purpose κ} {operation : Operation κ ω} (there : session.guard? id = some guard)
    (spends : spending? guard action = some (id, purpose, operation)) :
    session.returns action = operation.marks session.pool.isClosed ∧ action.handsBack = [] ∧
      (operation = .giveBack guard.key guard.object ∨
        operation = .invalidate guard.key guard.object) := by
  cases action with
  | release id =>
    cases spends
    simp [returns, there, Action.handsBack]
  | invalidate id =>
    cases spends
    simp [returns, there, Action.handsBack]
  | dropGuard id =>
    cases spends
    simp [returns, there, Action.handsBack]
  | _ => cases spends

/-- A guard is used up: its resource comes back. -/
theorem Kept.spent (kept : Kept config ident log session frames) {id : GuardId}
    {guard : Guard κ ω} (there : session.guard? id = some guard) {operation : Operation κ ω}
    (comes : operation = .giveBack guard.key guard.object ∨
      operation = .invalidate guard.key guard.object) :
    Scene config (session.removeGuard id) frames ∧ operation.loan? = some guard.key ∧
    Custody config ident (named ident (operation.marks session.pool.isClosed) ++ trace ident log)
      (fun key => loans ident key log) (fun key => destroyed ident key log) session.pool
      (operation.given session.pool.isClosed ++
        handsOf config frames (session.removeGuard id).guards)
      (returningOf frames)
      (operation.loan?.toList ++ outOf config frames (session.removeGuard id).guards) := by
  have hloan : operation.loan? = some guard.key := by
    rcases comes with rfl | rfl <;> rfl
  have hguards := guards_perm kept.scene.guards_nodup (find?_of_guard? there)
  refine ⟨?_, hloan, ?_⟩
  · have hsub : (session.removeGuard id).guards.Sublist session.guards := List.filter_sublist
    refine ⟨kept.scene.config_eq, kept.scene.sound, kept.scene.notes, kept.scene.running_eq,
      kept.scene.serves, kept.scene.unrefused, ?_, ?_⟩
    · exact kept.scene.guards_nodup.sublist (hsub.map _)
    · intro entry hentry
      exact kept.scene.guards_lt entry (hsub.subset hentry)
  · have hhands : ((guard.key, (guard.object, Phase.lent)) ::
        handsOf config frames (session.removeGuard id).guards).Perm
        (handsOf config frames session.guards) := by
      unfold handsOf
      have hmap := hguards.map fun entry => (entry.2.key, (entry.2.object, Phase.lent))
      exact List.perm_middle.symm.trans (hmap.symm.append_left _)
    have hout : (guard.key :: outOf config frames (session.removeGuard id).guards).Perm
        (outOf config frames session.guards) := by
      unfold outOf
      have hmap := hguards.map fun entry => entry.2.key
      exact List.perm_middle.symm.trans (hmap.symm.append_left _)
    rw [hloan]
    exact (kept.custody.perm hhands hout).comeBack comes session.pool.isClosed

/-- What does not tell the states of a resource from each other is the same for a guard whose
resource changes its state. -/
theorem map_setGuard {α : Type} (session : Session κ ω ε) {id : GuardId} {object : ω}
    (f : GuardId × Guard κ ω → α)
    (same : ∀ entry ∈ session.guards, entry.1 = id →
      f (id, { entry.2 with object := object }) = f entry) :
    (session.setGuard id object).guards.map f = session.guards.map f := by
  unfold setGuard
  rw [List.map_map]
  apply List.map_congr_left
  intro entry hentry
  by_cases hid : entry.1 = id
  · rw [← same entry hentry hid]
    simp [hid]
  · simp [hid]

/-- The resource of a guard changes its state, but not its name. -/
theorem Kept.touched (kept : Kept config ident log session frames) {id : GuardId}
    {guard : Guard κ ω} (there : session.guard? id = some guard) {object : ω}
    (keeps : ident object = ident guard.object) :
    Scene config (session.setGuard id object) frames ∧
    Custody config ident (trace ident log) (fun key => loans ident key log)
      (fun key => destroyed ident key log) session.pool
      (handsOf config frames (session.setGuard id object).guards) (returningOf frames)
      (outOf config frames (session.setGuard id object).guards) := by
  have hsame : ∀ entry ∈ session.guards, entry.1 = id → entry.2 = guard := by
    intro entry hentry hid
    have hmem := List.mem_of_find?_eq_some (find?_of_guard? there)
    exact congrArg Prod.snd
      (List.inj_on_of_nodup_map kept.scene.guards_nodup hentry hmem hid)
  have hids : (session.setGuard id object).guards.map Prod.fst = session.guards.map Prod.fst :=
    session.map_setGuard Prod.fst fun entry _ hid => hid.symm
  have hout : outOf config frames (session.setGuard id object).guards =
      outOf config frames session.guards := by
    have hkeys : (session.setGuard id object).guards.map (fun entry => entry.2.key) =
        session.guards.map fun entry => entry.2.key :=
      session.map_setGuard _ fun _ _ _ => rfl
    unfold outOf
    rw [hkeys]
  have hhands : named ident (handsOf config frames (session.setGuard id object).guards) =
      named ident (handsOf config frames session.guards) := by
    rw [handsOf_guards, handsOf_guards config frames session.guards, named_append ident,
      named_append ident]
    refine congrArg _ ?_
    unfold named
    rw [List.map_map, List.map_map]
    apply session.map_setGuard
    intro entry hentry hid
    simp [hsame entry hentry hid, keeps]
  constructor
  · refine ⟨kept.scene.config_eq, kept.scene.sound, kept.scene.notes, kept.scene.running_eq,
      kept.scene.serves, kept.scene.unrefused, ?_, ?_⟩
    · rw [hids]
      exact kept.scene.guards_nodup
    · intro entry hentry
      have hmem : entry.1 ∈ session.guards.map Prod.fst := hids ▸ List.mem_map_of_mem hentry
      obtain ⟨old, hold, heq⟩ := List.mem_map.mp hmem
      rw [← heq]
      exact kept.scene.guards_lt old hold
  · rw [hout]
    exact kept.custody.renamed hhands

/-- Counting handles is nothing to the scene. -/
theorem Scene.handled (scene : Scene config session frames) (handles : Nat) :
    Scene config { session with handles := handles } frames :=
  ⟨scene.config_eq, scene.sound, scene.notes, scene.running_eq, scene.serves, scene.unrefused,
    scene.guards_nodup, scene.guards_lt⟩

/-- **An action keeps the books**, if it hands back only what the client holds and changes the name
of nothing. -/
theorem Kept.act (kept : Kept config ident log session frames) {action : Action κ ω}
    {outcome : Session κ ω ε × Option (Reply ω ε)} (acts : session.Acts action outcome)
    (held : ∀ entry ∈ action.handsBack, ident entry.2 ∈ loans ident entry.1 log)
    (keeps : ∀ id changed guard, action = .touch id changed → session.guard? id = some guard →
      ident changed = ident guard.object) :
    Settles config ident (named ident (session.returns action) ++ trace ident log)
      (fun key => loans ident key log - (under key action.handsBack).map ident)
      (fun key => destroyed ident key log) action (pending log) outcome := by
  have hscene := kept.scene
  have hdone : ∀ object, (Result.done : Result ω ε).lent? = some object →
      ∃ key, action = .call (.borrow key) := nofun
  cases acts with
  | @call operation handled =>
    have hcustody := kept.called operation held
    refine settles_start hscene kept.actions_eq (fun key hborrow => .inl ⟨?_, rfl⟩)
      (fun key hloan => hcustody.loaned hloan) hcustody
    rw [hborrow]
  | @get key handled =>
    have hcustody := kept.called (.borrow key) held
    refine settles_start hscene kept.actions_eq ?_ nofun hcustody
    rintro other ⟨⟩
    exact .inr ⟨rfl, rfl⟩
  | @spend action id guard purpose operation there spends =>
    obtain ⟨hmarks, hback, hcomes⟩ := returns_of_spending there spends
    obtain ⟨hbase, hloan, hcustody⟩ := kept.spent there hcomes
    rw [hmarks, hback, loans_nothing]
    refine settles_start hbase kept.actions_eq ?_ (fun key h => hcustody.loaned h) hcustody
    rintro key rfl
    cases hloan
  | @touch id object guard there =>
    obtain ⟨hbase, hcustody⟩ := kept.touched there (keeps id object guard rfl there)
    have hback : (Action.touch id object : Action κ ω).handsBack = [] := rfl
    rw [hback, loans_nothing]
    exact settles_reply hbase kept.actions_eq hdone nofun hcustody
  | cloneHandle =>
    have hback : (Action.cloneHandle : Action κ ω).handsBack = [] := rfl
    rw [hback, loans_nothing]
    exact settles_reply (hscene.handled _) kept.actions_eq hdone nofun kept.custody
  | dropHandle =>
    have hback : (Action.dropHandle : Action κ ω).handsBack = [] := rfl
    rw [hback, loans_nothing]
    exact settles_depart (hscene.handled _) kept.actions_eq hdone nofun kept.custody

/-! ## Answers -/

/-- The innermost operation is taken off the others. -/
theorem Scene.pop (scene : Scene config session frames) {activity : Activity κ ω ε}
    {others : List (Activity κ ω ε)} (running_eq : session.running = activity :: others) :
    ∃ action rest, frames = (action, activity) :: rest ∧
      Scene config { session with running := others } rest := by
  have hrunning := scene.running_eq
  rw [running_eq] at hrunning
  obtain ⟨⟨action, top⟩, rest, rfl, rfl, hrest⟩ := List.map_eq_cons_iff.mp hrunning
  refine ⟨action, rest, rfl, scene.config_eq, scene.sound, scene.notes, hrest, ?_, ?_,
    scene.guards_nodup, scene.guards_lt⟩
  · intro frame hframe
    exact scene.serves frame (List.mem_cons_of_mem _ hframe)
  · intro frame hframe
    exact scene.unrefused frame (List.mem_cons_of_mem _ hframe)

/-- **An answer keeps the books**, if it is not a panic and the resource keeps its name. -/
theorem Kept.answer (kept : Kept config ident log session frames) (inOrder : InOrder config session)
    {answer : Answer ω ε} {activity : Activity κ ω ε} {others : List (Activity κ ω ε)}
    (running_eq : session.running = activity :: others)
    (calm : ∀ reason, answer ≠ .panicked reason)
    (keeps : ∀ change ∈ activity.stage.request.changes answer, ident change.2 = ident change.1) :
    ∃ action rest, pending log = action :: rest ∧
      Settles config ident (named ident (activity.stage.report answer) ++ trace ident log)
        (fun key => loans ident key log) (fun key => destroyed ident key log) action rest
        ({ session with running := others }.advance activity.purpose
          (session.pool.resume activity.stage answer)) := by
  obtain ⟨action, rest, rfl, hbase⟩ := kept.scene.pop running_eq
  have hmem : (action, activity) ∈ (action, activity) :: rest := List.mem_cons_self
  have hserves := kept.scene.serves _ hmem
  have hunrefused := kept.scene.unrefused _ hmem
  have hstage : activity.stage ∈ session.stages := by
    unfold stages
    rw [running_eq]
    exact List.mem_cons_self
  have hcustody := kept.custody
  rw [handsOf_cons, outOf_cons] at hcustody
  -- the loan of a return is the operation's own from here on
  have hanswered := (hcustody.answer calm keeps).takeOver
  refine ⟨action, rest.map Prod.fst, kept.actions_eq.symm, ?_⟩
  refine settles_resume hbase rfl hserves (inOrder.orderly.holds hstage) ?_ ?_
    (inOrder.admitted _ hstage) hunrefused calm hanswered
  · intro key slot hfoothold
    constructor
    · apply hcustody.linked (key, slot)
      exact List.mem_append_left _ (Option.mem_toList.mpr hfoothold)
    · apply hanswered.loaned
      rw [hfoothold]
      rfl
  · intro key object phase hsubject
    exact hcustody.occurs hsubject

/-! ## Runs -/

/-- **One more move.** -/
theorem Kept.step (kept : Kept config ident log session frames) (inOrder : InOrder config session)
    {event : Event κ ω ε} {next : Session κ ω ε} {reply : Option (Reply ω ε)}
    (step : session.step? event = some (next, reply)) (calm : event.isPanic = false)
    (held : ∀ entry ∈ (Move.mk session event next reply).handsBack,
      ident entry.2 ∈ loans ident entry.1 log)
    (keeps : ∀ change ∈ (Move.mk session event next reply).changes,
      ident change.2 = ident change.1) :
    (∃ frames, Kept config ident (⟨session, event, next, reply⟩ :: log) next frames) ∧
      reply ≠ some (.result (.failed .notBorrowed)) := by
  cases event with
  | act action =>
    have hsettles := kept.act (acts_of_act? step) held fun id changed guard haction hguard => by
      subst haction
      apply keeps (guard.object, changed)
      simp [Move.changes, hguard]
    apply hsettles.kept rfl
    cases reply <;> rfl
  | answer answer =>
    obtain ⟨activity, others, hrunning, heq⟩ := answer?_cases step
    have hcalm : ∀ reason, answer ≠ .panicked reason := by
      rintro reason rfl
      cases calm
    have hchanges : (Move.mk session (.answer answer) next reply).changes =
        activity.stage.request.changes answer := by
      simp [Move.changes, request?, hrunning]
    rw [hchanges] at keeps
    obtain ⟨action, rest, hpending, hsettles⟩ := kept.answer inOrder hrunning hcalm keeps
    have hopening : (Move.mk session (.answer answer) next reply).opening =
        activity.stage.report answer := by
      simp [Move.opening, hrunning]
    have hback : (Move.mk session (.answer answer) next reply).handsBack = [] := rfl
    have hcontinued : Settles config ident
        (named ident (Move.mk session (.answer answer) next reply).opening ++ trace ident log)
        (fun key => loans ident key log -
          (under key (Move.mk session (.answer answer) next reply).handsBack).map ident)
        (fun key => destroyed ident key log) action rest (next, reply) := by
      rw [hopening, hback, loans_nothing, heq]
      exact hsettles
    refine hcontinued.kept ?_ ?_
    · show (pending log).head? = some action
      rw [hpending]
      rfl
    · cases reply with
      | none => exact hpending
      | some told =>
        show (pending log).tail = rest
        rw [hpending]
        rfl

end moves

section runs

variable {config : Config} {ident : ω → ι} {log : List (Move κ ω ε)} {session : Session κ ω ε}

/-- **The books of a whole run are right**, and no return is refused for want of a loan. -/
theorem history_kept (history : History config log session) (calm : Calm log)
    (linear : Linear ident log) (keeps : KeepsNames ident log) :
    (∃ frames, Kept config ident log session frames) ∧
      ∀ move ∈ log, move.reply ≠ some (.result (.failed .notBorrowed)) := by
  induction history with
  | create walk => exact ⟨⟨[], kept_create config walk ident⟩, List.forall_mem_nil _⟩
  | @step log session next event reply history hstep ih =>
    have hcalm : Calm log := fun move hmove => calm move (List.mem_cons_of_mem _ hmove)
    have hkeeps : KeepsNames ident log := fun move hmove =>
      keeps move (List.mem_cons_of_mem _ hmove)
    obtain ⟨hheld, hlinear⟩ := linear
    obtain ⟨⟨frames, kept⟩, hbefore⟩ := ih hcalm hlinear hkeeps
    obtain ⟨hnext, hreply⟩ := kept.step (reachable_inOrder history.reachable) hstep
      (calm _ List.mem_cons_self) hheld (keeps _ List.mem_cons_self)
    refine ⟨hnext, ?_⟩
    intro move hmove
    rcases List.mem_cons.mp hmove with rfl | hold
    · exact hreply
    · exact hbefore move hold

end runs

end ResourcePool.Session
