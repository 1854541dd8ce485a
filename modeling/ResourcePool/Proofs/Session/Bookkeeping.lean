import ResourcePool.Proofs.Session.Capacity
import ResourcePool.Proofs.Session.Custody

/-!
# Bookkeeping

Every event in a session keeps its books right. The operations in progress are looked at together
with the actions that they belong to, because it is the reply to an action that lends a resource.

* `Frame`, `Serves` — an operation in progress and its action.
* `Scene` — what holds of a session next to its books.
* `Settles` — an outcome with right books.
* `settles_reply`, `settles_guard`, `settles_depart`, `settles_conclude` — the ends of an action.
* `settles_advance` — taking over a turn, to the reply if there is one; `settles_start` and
  `settles_resume` are its two cases.
-/

set_option linter.unusedSectionVars false

namespace ResourcePool.Session

variable {κ ω ε ι : Type} [DecidableEq κ]

/-! ## Operations and their actions -/

/-- An operation in progress, with the action that it belongs to. -/
abbrev Frame (κ ω ε : Type) := Action κ ω × Activity κ ω ε

/-- The resource that is to be lent with the reply to an action. -/
def owed (config : Config) : Action κ ω → Option ω → List (κ × ω × Phase)
  | .call (.borrow key), some object | .get key, some object => [(key, (object, config.ready))]
  | _, _ => []

/-- Nothing is owed before a result is known. -/
theorem owed_none (config : Config) (action : Action κ ω) :
    owed config action (none : Option ω) = [] := by
  unfold owed
  split <;> trivial

/-- An operation fits its action: a borrow was asked for by a client, and so was a resource that is
still to be handed over. -/
structure Serves (action : Action κ ω) (purpose : Purpose κ) (own : Option (Checkout κ))
    (debt : Option ω) : Prop where
  borrows : ∀ checkout, own = some checkout → debt = none ∧
    (action = .call (.borrow checkout.key) ∧ purpose = .plain ∨
      action = .get checkout.key ∧ purpose = .guarding checkout.key)
  owes : ∀ object, debt = some object → purpose = .plain ∧ ∃ key, action = .call (.borrow key)

/-- An operation that serves no borrow. -/
theorem serves_none (action : Action κ ω) (purpose : Purpose κ) :
    Serves action purpose none none :=
  ⟨nofun, nofun⟩

/-- What the operations in progress have in hand, and what is in guards. -/
def handsOf (config : Config) (frames : List (Frame κ ω ε))
    (guards : List (GuardId × Guard κ ω)) : List (κ × ω × Phase) :=
  (frames.flatMap fun frame =>
    frame.2.stage.inHand ++ owed config frame.1 frame.2.stage.lent?) ++
  guards.map fun entry => (entry.2.key, (entry.2.object, .lent))

/-- The keys and slots of the returns in progress. -/
def returningOf (frames : List (Frame κ ω ε)) : List (κ × SlotId) :=
  frames.flatMap fun frame => frame.2.stage.foothold?.toList

/-- The keys of the resources that are still to be handed over or in guards. -/
def outOf (config : Config) (frames : List (Frame κ ω ε))
    (guards : List (GuardId × Guard κ ω)) : List κ :=
  (frames.flatMap fun frame => (owed config frame.1 frame.2.stage.lent?).map Prod.fst) ++
  guards.map fun entry => entry.2.key

/-- What the innermost operation has in hand comes first. -/
theorem handsOf_cons (config : Config) (frame : Frame κ ω ε) (frames : List (Frame κ ω ε))
    (guards : List (GuardId × Guard κ ω)) :
    handsOf config (frame :: frames) guards = frame.2.stage.inHand ++
      (owed config frame.1 frame.2.stage.lent? ++ handsOf config frames guards) := by
  unfold handsOf
  rw [List.flatMap_cons, List.append_assoc, List.append_assoc]

/-- The key of what it is to hand over comes first. -/
theorem outOf_cons (config : Config) (frame : Frame κ ω ε) (frames : List (Frame κ ω ε))
    (guards : List (GuardId × Guard κ ω)) :
    outOf config (frame :: frames) guards =
      (owed config frame.1 frame.2.stage.lent?).map Prod.fst ++ outOf config frames guards := by
  unfold outOf
  rw [List.flatMap_cons, List.append_assoc]

/-- What is in hand and in guards. -/
theorem handsOf_guards (config : Config) (frames : List (Frame κ ω ε))
    (guards : List (GuardId × Guard κ ω)) :
    handsOf config frames guards =
      handsOf config frames [] ++
        guards.map fun entry => (entry.2.key, (entry.2.object, .lent)) := by
  unfold handsOf
  rw [List.map_nil, List.append_nil]

/-- A guard more is a resource more in hand. -/
theorem handsOf_concat (config : Config) (frames : List (Frame κ ω ε))
    (guards : List (GuardId × Guard κ ω)) (id : GuardId) (guard : Guard κ ω) :
    (handsOf config frames (guards ++ [(id, guard)])).Perm
      ((guard.key, (guard.object, .lent)) :: handsOf config frames guards) := by
  unfold handsOf
  rw [List.map_append, ← List.append_assoc]
  exact List.perm_append_singleton _ _

/-- A guard that is added has its resource out under its key. -/
theorem outOf_concat (config : Config) (frames : List (Frame κ ω ε))
    (guards : List (GuardId × Guard κ ω)) (id : GuardId) (guard : Guard κ ω) :
    (outOf config frames (guards ++ [(id, guard)])).Perm
      (guard.key :: outOf config frames guards) := by
  unfold outOf
  rw [List.map_append, ← List.append_assoc]
  exact List.perm_append_singleton _ _

/-- What holds of a session next to its books. -/
structure Scene (config : Config) (session : Session κ ω ε) (frames : List (Frame κ ω ε)) :
    Prop where
  config_eq : session.pool.config = config
  sound : session.pool.store.Sound
  notes : ∀ entry ∈ session.pool.notes, ¬entry.TellsRefusal
  running_eq : frames.map Prod.snd = session.running
  serves : ∀ frame ∈ frames,
    Serves frame.1 frame.2.purpose frame.2.stage.checkout? frame.2.stage.lent?
  unrefused : ∀ frame ∈ frames, frame.2.stage.outcome? ≠ some (.failed .notBorrowed)
  guards_nodup : (session.guards.map Prod.fst).Nodup
  guards_lt : ∀ entry ∈ session.guards, entry.1 < session.nextGuard

/-! ## Ends of an action -/

/-- What a session does with resources on the way to an outcome. -/
def endMarks (action : Action κ ω) (outcome : Session κ ω ε × Option (Reply ω ε)) :
    List (κ × ω × Mark) :=
  (outcome.1.newCall? outcome.2).toList.flatMap Request.marks ++
    (action.handsOut outcome.2).map fun entry => (entry.1, (entry.2, .lent))

/-- **An outcome with right books.** The action is in progress or has its reply; what was lent,
what is to be destroyed and what the trace tells has been added to the books. -/
def Settles (config : Config) (ident : ω → ι) (trace : List (κ × ι × Mark))
    (lent gone : κ → Multiset ι) (action : Action κ ω) (rest : List (Action κ ω))
    (outcome : Session κ ω ε × Option (Reply ω ε)) : Prop :=
  ∃ frames : List (Frame κ ω ε),
    frames.map Prod.fst = (match outcome.2 with | none => action :: rest | some _ => rest) ∧
    Scene config outcome.1 frames ∧
    outcome.2 ≠ some (.result (.failed .notBorrowed)) ∧
    Custody config ident (named ident (endMarks action outcome) ++ trace)
      (fun key => lent key + (under key (action.lends outcome.2)).map ident)
      (fun key => gone key + (under key
        ((outcome.1.newCall? outcome.2).toList.flatMap Request.destroys)).map ident)
      outcome.1.pool (handsOf config frames outcome.1.guards) (returningOf frames)
      (outOf config frames outcome.1.guards)

section ends

variable {config : Config} {ident : ω → ι} {trace : List (κ × ι × Mark)}
  {lent gone : κ → Multiset ι} {session : Session κ ω ε} {frames : List (Frame κ ω ε)}
  {action : Action κ ω} {rest : List (Action κ ω)}

/-- An action that has no reply yet has lent nothing. -/
theorem lends_none (action : Action κ ω) : action.lends (none : Option (Reply ω ε)) = [] := by
  unfold Action.lends
  split <;> trivial

/-- And it has handed nothing out. -/
theorem handsOut_none (action : Action κ ω) :
    action.handsOut (none : Option (Reply ω ε)) = [] := by
  unfold Action.handsOut
  split <;> trivial

/-- The operation waits for the factory, on top of the others. -/
theorem settles_waiting (scene : Scene config session frames)
    (actions_eq : frames.map Prod.fst = rest) {purpose : Purpose κ} {stage : Stage κ ω ε}
    (serves : Serves action purpose stage.checkout? stage.lent?)
    (unrefused : stage.outcome? ≠ some (.failed .notBorrowed)) {own : Option (Checkout κ)}
    {taken : List (κ × ω × Phase)} (takes : (Progress.waiting stage).Takes config own taken)
    (custody : Custody config ident trace lent gone session.pool
      (taken ++ (parked stage.queue ++
        (owed config action stage.lent? ++ handsOf config frames session.guards)))
      (stage.foothold?.toList ++ returningOf frames)
      ((owed config action stage.lent?).map Prod.fst ++ outOf config frames session.guards)) :
    Settles config ident trace lent gone action rest
      ({ session with running := ⟨stage, purpose⟩ :: session.running }, none) := by
  have hcalled := custody.call takes
  refine ⟨(action, ⟨stage, purpose⟩) :: frames, ?_, ?_, nofun, ?_⟩
  · rw [List.map_cons, actions_eq]
  · refine ⟨scene.config_eq, scene.sound, scene.notes, ?_, ?_, ?_, scene.guards_nodup,
      scene.guards_lt⟩
    · rw [List.map_cons, scene.running_eq]
    · intro frame hframe
      rcases List.mem_cons.mp hframe with rfl | hrest
      · exact serves
      · exact scene.serves frame hrest
    · intro frame hframe
      rcases List.mem_cons.mp hframe with rfl | hrest
      · exact unrefused
      · exact scene.unrefused frame hrest
  · set next : Session κ ω ε := { session with running := ⟨stage, purpose⟩ :: session.running }
    have hcall : next.newCall? (none : Option (Reply ω ε)) = some stage.request := rfl
    have hmarks : endMarks action (next, (none : Option (Reply ω ε))) = stage.request.marks := by
      unfold endMarks
      rw [handsOut_none, hcall, Option.toList_some, List.flatMap_singleton, List.map_nil,
        List.append_nil]
    rw [hmarks, hcall, Option.toList_some, List.flatMap_singleton, lends_none, gone_nothing,
      handsOf_cons, outOf_cons]
    exact hcalled

variable (config) in
/-- A result that lends nothing leaves nothing to lend. -/
theorem settled_of_not_lent (action : Action κ ω) {result : Result ω ε}
    (nothing : result.lent? = none) :
    action.lends (some (.result result)) = [] ∧ action.handsOut (some (.result result)) = [] ∧
      owed config action result.lent? = [] := by
  have hne : ∀ object, (some (.result result) : Option (Reply ω ε)) ≠
      some (.result (.lent object)) := by
    intro object h
    injection h with h
    injection h with h
    rw [h] at nothing
    cases nothing
  refine ⟨?_, ?_, ?_⟩
  · unfold Action.lends
    split
    · next h => exact absurd h (hne _)
    · rfl
  · unfold Action.handsOut
    split
    · next h => exact absurd h (hne _)
    · next h => cases h
    · rfl
  · rw [nothing, owed_none]

/-- The client gets the result of its action. -/
theorem settles_reply (scene : Scene config session frames)
    (actions_eq : frames.map Prod.fst = rest) {result : Result ω ε}
    (lends : ∀ object, result.lent? = some object → ∃ key, action = .call (.borrow key))
    (ne : result ≠ .failed .notBorrowed)
    (custody : Custody config ident trace lent gone session.pool
      (owed config action result.lent? ++ handsOf config frames session.guards)
      (returningOf frames)
      ((owed config action result.lent?).map Prod.fst ++ outOf config frames session.guards)) :
    Settles config ident trace lent gone action rest (session, some (.result result)) := by
  refine ⟨frames, actions_eq, scene, ?_, ?_⟩
  · intro h
    injection h with h
    injection h with h
    exact ne h
  · cases hlent : result.lent? with
    | none =>
      obtain ⟨hlends, hout, howed⟩ := settled_of_not_lent config action hlent
      rw [howed] at custody
      have hmarks : endMarks action (session, some (.result result)) = [] := by
        unfold endMarks
        rw [hout]
        rfl
      show Custody config ident _ _
        (fun key => gone key + (under key ([] : List (κ × ω))).map ident) _ _ _ _
      rw [hmarks, hlends, gone_nothing, gone_nothing]
      exact custody
    | some object =>
      obtain ⟨key, rfl⟩ := lends object hlent
      have hresult : result = .lent object := by
        cases result with
        | lent other => cases hlent; rfl
        | _ => cases hlent
      subst hresult
      show Custody config ident _ _
        (fun key => gone key + (under key ([] : List (κ × ω))).map ident) _ _ _ _
      rw [gone_nothing]
      exact custody.lend

/-- The resource of a borrow goes into a new guard. -/
theorem settles_guard (scene : Scene config session frames)
    (actions_eq : frames.map Prod.fst = rest) {key : κ} {object : ω}
    (custody : Custody config ident trace lent gone session.pool
      ((key, (object, config.ready)) :: handsOf config frames session.guards)
      (returningOf frames) (key :: outOf config frames session.guards)) :
    Settles config ident trace lent gone (.get key) rest (session.addGuard key object) := by
  have hmade : config.ready ≠ .unmade := by
    unfold Config.ready
    split <;> simp
  have hlent := custody.mark (Phase.next?_ready config) hmade rfl
  refine ⟨frames, actions_eq, ?_, nofun, ?_⟩
  · refine ⟨scene.config_eq, scene.sound, scene.notes, scene.running_eq, scene.serves,
      scene.unrefused, ?_, ?_⟩
    · show ((session.guards ++ [(session.nextGuard, _)]).map Prod.fst).Nodup
      rw [List.map_append]
      refine List.nodup_append_comm.mp (List.nodup_cons.mpr ⟨?_, scene.guards_nodup⟩)
      intro hmem
      obtain ⟨entry, hentry, heq⟩ := List.mem_map.mp hmem
      exact Nat.ne_of_lt (scene.guards_lt entry hentry) heq
    · intro entry hentry
      rcases List.mem_append.mp hentry with hold | hnew
      · exact Nat.lt_succ_of_lt (scene.guards_lt entry hold)
      · cases List.mem_singleton.mp hnew
        exact Nat.lt_succ_self _
  · show Custody config ident _
      (fun key => lent key + (under key ([] : List (κ × ω))).map ident)
      (fun key => gone key + (under key ([] : List (κ × ω))).map ident) _ _ _ _
    rw [gone_nothing, gone_nothing]
    exact hlent.perm (handsOf_concat config frames session.guards session.nextGuard ⟨key, object⟩)
      (outOf_concat config frames session.guards session.nextGuard ⟨key, object⟩)

/-- A turn of the pool leaves what holds next to the books. -/
theorem Scene.turn (scene : Scene config session frames) {own : Option (Checkout κ)}
    {loan : Option κ} {given : List (κ × ω × Phase)} {debt : Option ω} {turn : Pool.Turn κ ω ε}
    (steady : Pool.Turn.Steady session.pool.store session.pool.config own turn)
    (balanced : Pool.Turn.Balanced session.pool own loan given debt turn) :
    Scene config { session with pool := turn.1 } frames := by
  refine ⟨steady.config_eq.trans scene.config_eq, steady.becomes.sound, ?_,
    scene.running_eq, scene.serves, scene.unrefused, scene.guards_nodup, scene.guards_lt⟩
  intro entry hentry
  rcases balanced.notes entry hentry with hold | hroutine
  · exact scene.notes entry hold
  · exact hroutine

/-- The action ends, and before that the pool closes if nothing keeps it alive. -/
theorem settles_depart (scene : Scene config session frames)
    (actions_eq : frames.map Prod.fst = rest) {result : Result ω ε}
    (lends : ∀ object, result.lent? = some object → ∃ key, action = .call (.borrow key))
    (ne : result ≠ .failed .notBorrowed)
    (custody : Custody config ident trace lent gone session.pool
      (owed config action result.lent? ++ handsOf config frames session.guards)
      (returningOf frames)
      ((owed config action result.lent?).map Prod.fst ++ outOf config frames session.guards)) :
    Settles config ident trace lent gone action rest (session.depart result) := by
  rcases session.depart_cases result with ⟨-, heq⟩ | ⟨-, -, hnone, heq⟩
  · rw [heq]
    exact settles_reply scene actions_eq lends ne custody
  · have hsteady := Pool.steady_close session.pool scene.sound result
    have hbalanced := Pool.balanced_close session.pool scene.sound result ne
    have hcheckout := Pool.checkout?_close session.pool result
    have hscene := scene.turn hsteady hbalanced
    have hbefore : Custody config ident trace lent gone session.pool
        ([] ++ (owed config action result.lent? ++ handsOf config frames session.guards))
        (returningOf frames) ((none : Option κ).toList ++
          ((owed config action result.lent?).map Prod.fst ++ outOf config frames session.guards)) :=
      custody
    obtain ⟨taken, htakes, hcustody⟩ := hbefore.turn scene.config_eq hsteady.becomes hbalanced
    have howes := hbalanced.owes rfl
    have hunrefused := hbalanced.unrefused
    rw [heq]
    generalize session.pool.close result = turn at *
    obtain ⟨pool, progress⟩ := turn
    cases progress with
    | waiting stage =>
      have hlent : stage.lent? = result.lent? := howes
      have hserves : Serves action .plain stage.checkout? stage.lent? := by
        refine ⟨?_, fun object h => ⟨rfl, lends object (hlent ▸ h)⟩⟩
        intro checkout h
        rw [show stage.checkout? = none from hcheckout] at h
        cases h
      rw [← hlent] at hcustody
      have hsettles := settles_waiting hscene actions_eq hserves hunrefused htakes hcustody
      have hsame : session.closing (pool, .waiting stage) =
          ({ session with pool := pool, running := ⟨stage, .plain⟩ :: session.running }, none) := by
        rw [hnone]
        rfl
      rw [hsame]
      exact hsettles
    | finished final =>
      have hlent : final.lent? = result.lent? := howes
      have htaken : taken = [] := by
        cases htakes with
        | lends own_eq => cases own_eq
        | ends _ => rfl
      subst htaken
      rw [← hlent] at hcustody
      have hunder : (Progress.finished final : Progress κ ω ε).lentUnder none = none := by
        cases final <;> rfl
      rw [hunder] at hcustody
      exact settles_reply hscene actions_eq (fun object h => lends object (hlent ▸ h))
        (fun h => hunrefused (congrArg some h)) hcustody

/-- **The operation is over.** Its result goes into a guard, into a note or to the client. -/
theorem settles_conclude (scene : Scene config session frames)
    (actions_eq : frames.map Prod.fst = rest) {purpose : Purpose κ} {result : Result ω ε}
    (delivers : ∀ object, result.lent? = some object → ∃ key,
      action = .call (.borrow key) ∧ purpose = .plain ∨
        action = .get key ∧ purpose = .guarding key)
    (ne : result ≠ .failed .notBorrowed)
    (custody : Custody config ident trace lent gone session.pool
      (owed config action result.lent? ++ handsOf config frames session.guards)
      (returningOf frames)
      ((owed config action result.lent?).map Prod.fst ++ outOf config frames session.guards)) :
    Settles config ident trace lent gone action rest (session.conclude purpose result) := by
  rcases session.conclude_cases purpose result with
    ⟨key, object, rfl, rfl, heq⟩ | ⟨key, error, rfl, rfl, heq⟩ | ⟨hnever, heq⟩
  · obtain ⟨other, ⟨-, hplain⟩ | ⟨rfl, hguarding⟩⟩ := delivers object rfl
    · cases hplain
    · cases hguarding
      rw [heq]
      exact settles_guard scene actions_eq custody
  · rw [heq]
    have hnoted : Scene config
        { session with pool := session.pool.note (.returnFailed key error) } frames := by
      refine ⟨scene.config_eq, scene.sound, ?_, scene.running_eq, scene.serves,
        scene.unrefused, scene.guards_nodup, scene.guards_lt⟩
      intro entry hentry
      rcases List.mem_cons.mp hentry with rfl | hold
      · intro htells
        cases error <;> first | exact ne rfl | exact htells
      · exact scene.notes entry hold
    have hdone : ∀ object, (Result.done : Result ω ε).lent? = some object →
        ∃ key, action = .call (.borrow key) := nofun
    exact settles_depart hnoted actions_eq hdone nofun
      ⟨custody.path, custody.active_eq, custody.linked⟩
  · rw [heq]
    refine settles_depart scene actions_eq ?_ ne custody
    intro object hlent
    obtain ⟨key, ⟨hborrow, -⟩ | ⟨-, hguarding⟩⟩ := delivers object hlent
    · exact ⟨key, hborrow⟩
    · rw [hnever key hguarding] at hlent
      cases hlent

/-- A borrow that waits has no result yet. -/
theorem lent?_of_checkout {stage : Stage κ ω ε} {checkout : Checkout κ}
    (h : stage.checkout? = some checkout) : stage.lent? = none := by
  cases stage with
  | destroying key object aftermath =>
    cases aftermath with
    | quietly sequel => cases sequel <;> first | rfl | cases h
    | _ => cases h
  | _ => rfl

/-- **A turn is taken over.** Whatever the operation had in hand, and whatever it owed, is in the
books again. -/
theorem settles_advance (scene : Scene config session frames)
    (actions_eq : frames.map Prod.fst = rest) {purpose : Purpose κ} {own : Option (Checkout κ)}
    {loan : Option κ} {given : List (κ × ω × Phase)} {debt : Option ω}
    {turn : Pool.Turn κ ω ε} (serves : Serves action purpose own debt)
    (steady : Pool.Turn.Steady session.pool.store session.pool.config own turn)
    (balanced : Pool.Turn.Balanced session.pool own loan given debt turn)
    (goesOn : ∀ stage, turn.2 = .waiting stage →
      stage.lent? = debt ∧ Serves action purpose stage.checkout? stage.lent?)
    (custody : Custody config ident trace lent gone session.pool
      (given ++ (owed config action debt ++ handsOf config frames session.guards))
      (returningOf frames) (loan.toList ++
        ((owed config action debt).map Prod.fst ++ outOf config frames session.guards))) :
    Settles config ident trace lent gone action rest (session.advance purpose turn) := by
  have hscene := scene.turn steady balanced
  obtain ⟨taken, htakes, hcustody⟩ := custody.turn scene.config_eq steady.becomes balanced
  have howes := balanced.owes
  have hunrefused := balanced.unrefused
  obtain ⟨pool, progress⟩ := turn
  cases progress with
  | waiting stage =>
    obtain ⟨hlent, hserves⟩ := goesOn stage rfl
    rw [← hlent] at hcustody
    rw [advance_waiting]
    exact settles_waiting hscene actions_eq hserves hunrefused htakes hcustody
  | finished final =>
    rw [advance_finished]
    have hne : final ≠ .failed .notBorrowed := fun h => hunrefused (congrArg some h)
    cases htakes with
    | @lends checkout object own_eq =>
      -- the borrow has its resource
      subst own_eq
      obtain ⟨rfl, hasked⟩ := serves.borrows checkout rfl
      apply settles_conclude hscene actions_eq (fun _ _ => ⟨checkout.key, hasked⟩) hne
      rcases hasked with ⟨rfl, -⟩ | ⟨rfl, -⟩
      · exact hcustody
      · exact hcustody
    | ends nothing =>
      have hlent : final.lent? = debt := by
        cases own with
        | none => exact howes rfl
        | some checkout =>
          rw [nothing.resolve_left nofun, (serves.borrows checkout rfl).1]
      have hunder : (Progress.finished final : Progress κ ω ε).lentUnder own = none := by
        rcases nothing with rfl | hnothing
        · cases final <;> rfl
        · cases final <;> first | rfl | cases hnothing
      rw [hunder, ← hlent] at hcustody
      rw [← hlent] at serves
      refine settles_conclude hscene actions_eq ?_ hne hcustody
      intro object hobject
      obtain ⟨hplain, key, hasked⟩ := serves.owes object hobject
      exact ⟨key, .inl ⟨hasked, hplain⟩⟩

/-! ## Operations that start and go on -/

/-- **An operation starts**, and a borrow does so for a client that asked for it. -/
theorem settles_start (scene : Scene config session frames)
    (actions_eq : frames.map Prod.fst = rest) {purpose : Purpose κ} {operation : Operation κ ω}
    (asks : ∀ key, operation = .borrow key →
      action = .call (.borrow key) ∧ purpose = .plain ∨
        action = .get key ∧ purpose = .guarding key)
    (loaned : ∀ key, operation.loan? = some key → 0 < (session.pool.store.live key).active)
    (custody : Custody config ident trace lent gone session.pool
      (operation.given session.pool.isClosed ++ handsOf config frames session.guards)
      (returningOf frames) (operation.loan?.toList ++ outOf config frames session.guards)) :
    Settles config ident trace lent gone action rest
      (session.advance purpose (session.pool.start operation)) := by
  have hbalanced := Pool.balanced_start session.pool scene.sound operation loaned
  have hsteady := Pool.steady_start session.pool scene.sound operation
  refine settles_advance scene actions_eq (serves_none action purpose) hsteady hbalanced
    ?_ ?_
  · intro stage hstage
    have hlent : stage.lent? = none := by
      have howes := hbalanced.owes rfl
      rw [hstage] at howes
      exact howes
    rw [hlent]
    refine ⟨rfl, fun checkout hcheckout => ⟨rfl, ?_⟩, nofun⟩
    rcases Pool.start_cases session.pool scene.sound operation with
      ⟨own, hborrow, hcontinues⟩ | ⟨key, next, -, hfail⟩
    · rw [hstage] at hcontinues
      exact asks checkout.key (hborrow checkout (hcontinues.1.symm.trans hcheckout))
    · rw [hfail] at hstage
      cases hstage
  · rw [owed_none]
    exact custody

/-- **An answer lets an operation go on.** -/
theorem settles_resume (scene : Scene config session frames)
    (actions_eq : frames.map Prod.fst = rest) {activity : Activity κ ω ε}
    (serves : Serves action activity.purpose activity.stage.checkout? activity.stage.lent?)
    (holds : session.pool.store.Holds activity.stage.checkout?)
    (loaned : ∀ key slot, activity.stage.foothold? = some (key, slot) →
      session.pool.store.find? key = some slot ∧ 0 < (session.pool.store.live key).active)
    (occurs : ∀ key object phase, activity.stage.subject? = some (key, object, phase) →
      phase.Occurs config)
    (admitted : activity.stage.outcome? ≠ some (.failed .atCapacity))
    (unrefused : activity.stage.outcome? ≠ some (.failed .notBorrowed))
    {answer : Answer ω ε} (calm : ∀ reason, answer ≠ .panicked reason)
    (custody : Custody config ident trace lent gone session.pool
      (activity.stage.answered answer ++
        (owed config action activity.stage.lent? ++ handsOf config frames session.guards))
      (returningOf frames) ((activity.stage.foothold?.map Prod.fst).toList ++
        ((owed config action activity.stage.lent?).map Prod.fst ++
          outOf config frames session.guards))) :
    Settles config ident trace lent gone action rest
      (session.advance activity.purpose (session.pool.resume activity.stage answer)) := by
  have hstands : ∀ key slot, activity.stage.foothold? = some (key, slot) →
      session.pool.store.Stands key slot := fun key slot h => .inl (loaned key slot h).1
  have hsteady := Pool.steady_resume session.pool scene.sound activity.stage holds hstands answer
  have hbalanced := Pool.balanced_resume session.pool scene.sound activity.stage holds loaned
    (scene.config_eq ▸ occurs) unrefused calm
  have hcontinues := Pool.continues_resume session.pool admitted answer
  refine settles_advance scene actions_eq serves hsteady hbalanced ?_ custody
  intro stage hstage
  have howes := hbalanced.owes
  rw [hstage] at hcontinues howes
  have hcheckout : stage.checkout? = activity.stage.checkout? := hcontinues.1
  have hlent : stage.lent? = activity.stage.lent? := by
    cases hown : activity.stage.checkout? with
    | none => exact howes hown
    | some checkout => rw [lent?_of_checkout hown, lent?_of_checkout (hcheckout.trans hown)]
  rw [hlent, hcheckout]
  exact ⟨rfl, serves⟩

end ends

end ResourcePool.Session
