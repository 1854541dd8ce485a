import ResourcePool.Proofs.Session.Possession

/-!
# The order of candidates

The idle resources of a key are kept in the order in which they came in last, through everything
that happens to the key and to others: what comes in goes to the front, and what goes out leaves the
order of the rest alone. So the candidate that a borrow takes is the one that came in last, or the
one that has waited longest.

* `Move.admits`, `admissions` — the resources that came in, as a history tells of them.
* `Move.takes` — the candidate that a borrow takes out.
* `queue_of_step`, `front_of_step` — what a step makes of the idle resources of a key.
* `Ordered`, `history_ordered` — they are in the order of their admissions.
* `taken_in_order` — which candidate is taken.
-/

set_option linter.unusedSectionVars false

namespace ResourcePool

variable {κ ω ε ι : Type}

/-- The call that an operation waits for after a turn. -/
def Progress.request? : Progress κ ω ε → Option (Request κ ω)
  | waiting stage => some stage.request
  | finished _ => none

/-- Whether a resource is taken before another, by when they came in last: the first entry is the
latest. -/
def Selection.Prefers [DecidableEq ι] (selection : Selection)
    (admissions : List ι) (name other : ι) : Prop :=
  match selection with
  | .lifo => admissions.idxOf name < admissions.idxOf other
  | .fifo => admissions.idxOf other < admissions.idxOf name

variable [DecidableEq κ]

/-! ## Queues -/

namespace Pool

section turns

variable {pool : Pool κ ω ε} {hand : Hand κ ω} {turn : Turn κ ω ε} {deed : Deed κ ω}

/-- **A deed leaves the order alone**: what it keeps goes to the front, and what stays is in the
order that it had. -/
theorem Turn.Does.queue_sublist (does : Turn.Does pool hand turn deed) (key : κ) :
    (turn.1.store.live key).idle.Sublist
      (listedUnder key deed.entries ++ (pool.store.live key).idle) := by
  have hholding := congrArg Holding.idle (does.holding_eq key)
  have hidle : (turn.1.store.live key).idle =
      (deed.on pool.store.selection key (pool.store.holding key)).idle := hholding
  rw [hidle]
  by_cases hkey : deed.key? = none ∨ deed.key? = some key
  · rw [Deed.on, if_pos hkey]
    cases deed with
    | take place object => exact pool.store.selection.others_sublist _
    | putBack place object =>
      obtain rfl : place = key := by simpa [Deed.key?] using hkey
      simp [listedUnder, Deed.entries, Deed.change, Store.holding, Slot.holding]
    | stow place object =>
      obtain rfl : place = key := by simpa [Deed.key?] using hkey
      simp [listedUnder, Deed.entries, Deed.change, Store.holding, Slot.holding]
    | emptyKey place => exact List.nil_sublist _
    | emptyAll => exact List.nil_sublist _
    | _ => exact List.Sublist.refl _
  · rw [Deed.on, if_neg hkey]
    exact List.sublist_append_right _ _

/-- A turn that keeps a resource does not lead to a destroy. -/
theorem Turn.Does.destroys_of_keeps (does : Turn.Does pool hand turn deed)
    (keeps : deed.keeps = true) : turn.2.request?.toList.flatMap Request.destroys = [] := by
  have hsettled := does.settled keeps
  cases hprogress : turn.2 with
  | finished result => rfl
  | waiting stage =>
    rw [hprogress] at hsettled
    cases stage <;> first | rfl | cases hsettled

/-- A turn that leads to an activation has taken the candidate out, unless it has just been
created. -/
theorem Turn.Does.next_of_activate (does : Turn.Does pool hand turn deed) {key : κ} {object : ω}
    (asks : turn.2.request? = some (.activate key object))
    (other : hand ≠ .unready key object) :
    pool.store.selection.next? (pool.store.live key).idle = some object := by
  have hhand : turn.2.hand = .unready key object := by
    cases hturn : turn.2 with
    | finished result => rw [hturn] at asks; cases asks
    | waiting stage =>
      rw [hturn] at asks
      cases stage <;> cases asks
      rfl
  have hcases := does.hand_cases
  rw [hhand] at hcases
  rcases hcases with hfree | ⟨hsame, -⟩ | ⟨place, resource, htaken, rfl⟩
  · cases hfree
  · exact absurd hsame.symm other
  · cases htaken
    exact does.fits

end turns

/-- A resource that is ready to be kept is destroyed, or it is at the front then. -/
theorem resume_keeps (pool : Pool κ ω ε) (sound : pool.store.Sound) {stage : Stage κ ω ε}
    (stands : ∀ key slot, stage.foothold? = some (key, slot) → pool.store.Stands key slot)
    {answer : Answer ω ε} {key : κ} {object : ω}
    (ready : stage.handAfter answer = .back key object ∨
      stage.handAfter answer = .reset key object) :
    (pool.resume stage answer).2.request?.toList.flatMap Request.destroys ≠ [] ∨
      ((pool.resume stage answer).1.store.live key).idle.head? = some object := by
  have hback : ∀ slot, pool.store.Stands key slot →
      (pool.settle key slot object).2.request?.toList.flatMap Request.destroys ≠ [] ∨
        ((pool.settle key slot object).1.store.live key).idle.head? = some object := by
    intro slot hstands
    obtain ⟨deed, hdoes, ⟨rfl, -⟩ | ⟨-, result, hwaits⟩⟩ := pool.does_settle sound hstands object
    · right
      have hholding := hdoes.holding_eq key
      rw [Deed.on_self _ rfl] at hholding
      exact congrArg (fun holding => holding.idle.head?) hholding
    · rw [hwaits]
      exact .inl (List.cons_ne_nil _ _)
  have hreset : ∀ left,
      (pool.park key left object).2.request?.toList.flatMap Request.destroys ≠ [] ∨
        ((pool.park key left object).1.store.live key).idle.head? = some object := by
    intro left
    obtain ⟨deed, hdoes, rfl | ⟨sequel, hwaits⟩⟩ := pool.does_park sound key left object
    · right
      have hholding := hdoes.holding_eq key
      rw [Deed.on_self _ rfl] at hholding
      exact congrArg (fun holding => holding.idle.head?) hholding
    · rw [hwaits]
      exact .inl (List.cons_ne_nil _ _)
  obtain ⟨⟨slot, resource, rfl⟩ | ⟨left, resource, rfl⟩, rfl | rfl⟩ := passivated_of_handAfter ready
  · exact hback slot (stands key slot rfl)
  · exact hback slot (stands key slot rfl)
  · exact hreset left
  · exact hreset left

/-- A turn that leaves nothing idle: it asks for no activation, and for no destroy only if nothing
was idle before. -/
structure Turn.Empties (pool : Pool κ ω ε) (turn : Turn κ ω ε) : Prop where
  idle : ∀ key, (turn.1.store.live key).idle = []
  asks : ∀ key object, turn.2.request? ≠ some (.activate key object)
  spares : turn.2.request?.toList.flatMap Request.destroys = [] →
    ∀ key, (pool.store.live key).idle = []

/-- Closing does nothing, or it empties the pool. -/
theorem close_cases (pool : Pool κ ω ε) (sound : pool.store.Sound) (result : Result ω ε) :
    pool.close result = pool.finish result ∨ Turn.Empties pool (pool.close result) := by
  cases hclosed : pool.isClosed with
  | true => exact .inl (pool.close_of_closed hclosed result)
  | false =>
    obtain ⟨-, -, hempty, entries, hswept, hlisted, -⟩ := close_swept sound hclosed result
    refine .inr ⟨fun key => congrArg Holding.idle (hempty key), ?_, ?_⟩
    · rw [hswept]
      cases entries <;> exact fun _ _ => nofun
    · rw [hswept]
      intro hnone key
      cases entries with
      | nil => exact List.reverse_eq_nil_iff.mp (hlisted key).symm
      | cons entry rest => cases hnone

/-- An operation begins by emptying the pool, or with a deed. -/
theorem start_deeds (pool : Pool κ ω ε) (sound : pool.store.Sound) (operation : Operation κ ω) :
    Turn.Empties pool (pool.start operation) ∨
      ∃ deed, Turn.Does pool .free (pool.start operation) deed := by
  by_cases hclose : operation = .close
  · subst hclose
    rcases pool.close_cases sound .done with hsame | hempties
    · refine .inr ⟨.nothing, ?_⟩
      show Turn.Does pool .free (pool.close .done) .nothing
      rw [hsame]
      exact pool.does_finish .free .done
    · exact .inl hempties
  · exact .inr (pool.does_start sound hclose)

end Pool

namespace Session

/-- The idle resources of a key, the one that came in last at the front. -/
def queue (session : Session κ ω ε) (key : κ) : List ω := (session.pool.store.live key).idle

/-! ## What a history tells -/

/-- The resource that a move puts among the idle ones: its passivation has succeeded, and it is not
given to the factory to destroy. -/
def Move.admits (move : Move κ ω ε) : List (κ × ω) :=
  match move.answered?, move.destroys with
  | some (.passivate key _, .done object), []
  | some (.passivate key _, .refused object), [] => [(key, object)]
  | _, _ => []

/-- The candidate that a move takes out of the idle resources: it is to be activated, and it has not
just been created. -/
def Move.takes (move : Move κ ω ε) : List (κ × ω) :=
  match move.asked?, move.creates with
  | some (.activate key object), [] => [(key, object)]
  | _, _ => []

/-- The admissions of a key, by the names of the resources, the latest first. -/
def admissions (ident : ω → ι) (key : κ) (log : List (Move κ ω ε)) : List ι :=
  (listedUnder key (log.flatMap Move.admits)).map ident

/-- What the last move admits comes first. -/
theorem admissions_cons (ident : ω → ι) (key : κ) (move : Move κ ω ε) (log : List (Move κ ω ε)) :
    admissions ident key (move :: log) =
      (listedUnder key move.admits).map ident ++ admissions ident key log := by
  simp [admissions, listedUnder]

/-! ## Steps -/

section steps

variable {config : Config} {session next : Session κ ω ε} {reply : Option (Reply ω ε)}

/-- **The second half of a step** changes no queue, or it leaves all of them empty. -/
theorem queue_of_ends {base : Session κ ω ε} {purpose : Purpose κ} {turn : Pool.Turn κ ω ε}
    {outcome : Session κ ω ε × Option (Reply ω ε)} (ends : base.Ends purpose turn outcome)
    (sound : turn.1.store.Sound) :
    (turn.2.request? = none ∧ (∀ key, outcome.1.queue key = []) ∧
      (∀ key object, outcome.1.newCall? outcome.2 ≠ some (.activate key object)) ∧
      ((outcome.1.newCall? outcome.2).toList.flatMap Request.destroys = [] →
        ∀ key, (turn.1.store.live key).idle = [])) ∨
    ((∀ key, outcome.1.queue key = (turn.1.store.live key).idle) ∧
      outcome.1.newCall? outcome.2 = turn.2.request?) := by
  cases ends with
  | waits => exact .inr ⟨fun _ => rfl, rfl⟩
  | guarded => exact .inr ⟨fun _ => rfl, rfl⟩
  | told referenced =>
    refine .inr ⟨fun key => ?_, rfl⟩
    simp [queue]
  | @closes pool result handles guards running =>
    have hsound : (conclusion purpose pool result).1.store.Sound := by
      rw [store_conclusion]
      exact sound
    rcases (conclusion purpose pool result).1.close_cases hsound
      (conclusion purpose pool result).2 with hsame | ⟨hidle, hasks, hspares⟩
    · rw [hsame]
      refine .inr ⟨fun key => ?_, rfl⟩
      simp [queue, Pool.finish]
    · left
      rw [store_conclusion] at hspares
      generalize (conclusion purpose pool result).1.close (conclusion purpose pool result).2 =
        closing at hidle hasks hspares
      obtain ⟨last, progress⟩ := closing
      cases progress with
      | waiting stage => exact ⟨rfl, hidle, hasks, hspares⟩
      | finished final =>
        exact ⟨rfl, hidle, fun key object => (Option.some_ne_none _).symm, hspares⟩

/-- What an operation has in hand when its call has been answered is what the answer brought. -/
theorem handAfter_cases (stage : Stage κ ω ε) (answer : Answer ω ε) (key : κ) (object : ω) :
    (stage.handAfter answer = .unready key object →
      stage.request = .create key ∧ (answer = .done object ∨ answer = .refused object)) ∧
    (stage.handAfter answer = .back key object ∨ stage.handAfter answer = .reset key object →
      ∃ resource, stage.request = .passivate key resource ∧
        (answer = .done object ∨ answer = .refused object)) := by
  cases stage <;> cases answer <;> simp [Stage.handAfter, Stage.request]

/-- **The first half of a step** empties the pool, or it does a deed with what the answer of the
step has brought. -/
theorem does_of_opens (inOrder : InOrder config session) {event : Event κ ω ε}
    {base : Session κ ω ε} {purpose : Purpose κ} {turn : Pool.Turn κ ω ε}
    (opens : session.Opens event base purpose turn) (next : Session κ ω ε)
    (reply : Option (Reply ω ε)) :
    Pool.Turn.Empties session.pool turn ∨ ∃ pool hand deed, pool.store = session.pool.store ∧
      Pool.Turn.Does pool hand turn deed ∧
      (∀ key object, hand = .unready key object →
        (Move.mk session event next reply).creates = [(key, object)]) ∧
      ∀ key object, hand = .back key object ∨ hand = .reset key object →
        (Move.mk session event next reply).destroys = [] →
          (Move.mk session event next reply).admits = [(key, object)] := by
  have horderly := inOrder.orderly
  cases opens with
  | @start action operation starts =>
    rcases session.pool.start_deeds horderly.sound operation with hempties | ⟨deed, hdoes⟩
    · exact .inl hempties
    · exact .inr ⟨session.pool, .free, deed, rfl, hdoes, nofun, by simp⟩
  | aside other =>
    exact .inr ⟨session.pool, .free, .nothing, rfl, session.pool.does_finish .free .done, nofun,
      by simp⟩
  | @resume answer activity rest running_eq =>
    have hmem : activity.stage ∈ session.stages := by simp [stages, running_eq]
    obtain ⟨deed, hdoes⟩ := session.pool.does_resume horderly.sound activity.stage
      (horderly.holds hmem) (horderly.stands _ hmem) answer
    have hanswered : (Move.mk session (.answer answer) next reply).answered? =
        some (activity.stage.request, answer) := by
      simp [Move.answered?, request?, running_eq]
    refine .inr ⟨_, _, deed, Pool.store_hear _ _ _, hdoes, ?_, ?_⟩
    · intro key object hhand
      obtain ⟨hrequest, rfl | rfl⟩ := (handAfter_cases activity.stage answer key object).1 hhand
      · simp [Move.creates, hanswered, hrequest]
      · simp [Move.creates, hanswered, hrequest]
    · intro key object hhand hkept
      obtain ⟨resource, hrequest, rfl | rfl⟩ :=
        (handAfter_cases activity.stage answer key object).2 hhand
      · simp [Move.admits, hanswered, hrequest, hkept]
      · simp [Move.admits, hanswered, hrequest, hkept]

/-- A resource that a move admits comes from a passivation that has just been answered, and the
factory is not called to destroy anything. -/
theorem Move.mem_admits {move : Move κ ω ε} {key : κ} {object : ω}
    (h : (key, object) ∈ move.admits) :
    ∃ resource answer, move.event = .answer answer ∧
      move.before.request? = some (.passivate key resource) ∧
      (answer = .done object ∨ answer = .refused object) ∧ move.destroys = [] := by
  obtain ⟨before, event, after, reply⟩ := move
  unfold admits answered? at h
  cases event with
  | act action => simp at h
  | answer answer =>
    cases hrequest : before.request? with
    | none => simp [hrequest] at h
    | some request =>
      simp only [hrequest, Option.map_some] at h
      split at h
      · next heq hkept =>
        cases List.mem_singleton.mp h
        cases heq
        exact ⟨_, _, rfl, rfl, .inl rfl, hkept⟩
      · next heq hkept =>
        cases List.mem_singleton.mp h
        cases heq
        exact ⟨_, _, rfl, rfl, .inr rfl, hkept⟩
      · cases h

/-- The first half of a step leaves what is admitted at the front, if it is not destroyed. -/
theorem front_of_opens (inOrder : InOrder config session) {event : Event κ ω ε}
    {base : Session κ ω ε} {purpose : Purpose κ} {turn : Pool.Turn κ ω ε}
    (opens : session.Opens event base purpose turn) {key : κ} {object : ω}
    (admits : (key, object) ∈ (Move.mk session event next reply).admits) :
    turn.2.request?.toList.flatMap Request.destroys ≠ [] ∨
      (turn.1.store.live key).idle.head? = some object := by
  have horderly := inOrder.orderly
  obtain ⟨resource, answer, hevent, hrequest, hanswer, -⟩ := Move.mem_admits admits
  cases opens with
  | start starts => cases hevent
  | aside other => cases hevent
  | @resume answer activity rest running_eq =>
    cases hevent
    have hmem : activity.stage ∈ session.stages := by simp [stages, running_eq]
    have hstage : activity.stage.request = .passivate key resource := by
      simpa [request?, running_eq] using hrequest
    apply session.pool.resume_keeps horderly.sound (horderly.stands _ hmem)
    cases hcase : activity.stage <;> rw [hcase] at hstage <;> cases hstage <;>
      rcases hanswer with rfl | rfl <;> simp [Stage.handAfter]

/-- A candidate that a move takes is asked for, and nothing has been created. -/
theorem Move.mem_takes {move : Move κ ω ε} {key : κ} {object : ω}
    (h : (key, object) ∈ move.takes) :
    move.asked? = some (.activate key object) ∧ move.creates = [] := by
  unfold takes at h
  split at h
  · next place resource hasked hcreates =>
    cases List.mem_singleton.mp h
    exact ⟨hasked, hcreates⟩
  · cases h

/-- **What a step makes of the idle resources of a key.** What comes in goes to the front, the
others stay in their order, and a candidate is the next one of the selection. -/
theorem queue_of_step (inOrder : InOrder config session) {event : Event κ ω ε}
    (h : session.step? event = some (next, reply)) (key : κ) :
    (next.queue key).Sublist
      (listedUnder key (Move.mk session event next reply).admits ++ session.queue key) ∧
    ∀ object, (key, object) ∈ (Move.mk session event next reply).takes →
      session.pool.store.selection.next? (session.queue key) = some object := by
  obtain ⟨base, purpose, turn, hopens, heq⟩ := opens_of_step? h
  have hends := base.ends_advance purpose turn
  rw [← heq] at hends
  have hsound := (hopens.orderly inOrder).sound
  have hasks : ∀ object, (key, object) ∈ (Move.mk session event next reply).takes →
      next.newCall? reply = some (.activate key object) := fun object htakes =>
    (Move.mem_takes htakes).1
  rcases queue_of_ends hends hsound with ⟨-, hempty, hnone, -⟩ | ⟨hqueue, hcall⟩
  · refine ⟨?_, fun object htakes => absurd (hasks object htakes) (hnone key object)⟩
    rw [hempty key]
    exact List.nil_sublist _
  · have hturn : next.queue key = (turn.1.store.live key).idle := hqueue key
    have hrequest : next.newCall? reply = turn.2.request? := hcall
    rcases does_of_opens inOrder hopens next reply with
      hempties | ⟨pool, hand, deed, hstore, hdoes, hcreates, hadmits⟩
    · refine ⟨?_, fun object htakes => ?_⟩
      · rw [hturn, hempties.idle]
        exact List.nil_sublist _
      · exact absurd (hrequest.symm.trans (hasks object htakes)) (hempties.asks key object)
    · have hsame : session.queue key = (pool.store.live key).idle := by rw [hstore]; rfl
      constructor
      · have hentries : (listedUnder key deed.entries).Sublist
            (listedUnder key (Move.mk session event next reply).admits) := by
          have hdestroys : deed.keeps = true →
              (Move.mk session event next reply).destroys = [] := by
            intro hkeeps
            show (next.newCall? reply).toList.flatMap Request.destroys = []
            rw [hrequest]
            exact hdoes.destroys_of_keeps hkeeps
          have hfits := hdoes.fits
          cases deed with
          | putBack place object =>
            rw [hadmits place object (.inl hfits.2) (hdestroys rfl)]
            exact List.Sublist.refl _
          | stow place object =>
            rw [hadmits place object (.inr hfits) (hdestroys rfl)]
            exact List.Sublist.refl _
          | _ => exact List.nil_sublist _
        rw [hturn, hsame]
        exact (hdoes.queue_sublist key).trans (hentries.append_right _)
      · intro object htakes
        rw [hsame, ← hstore]
        apply hdoes.next_of_activate (hrequest.symm.trans (hasks object htakes))
        intro hhand
        have hmade := hcreates key object hhand
        rw [(Move.mem_takes htakes).2] at hmade
        cases hmade

/-- **What a step admits is at the front** of the idle resources of its key. -/
theorem front_of_step (inOrder : InOrder config session) {event : Event κ ω ε}
    (h : session.step? event = some (next, reply)) {key : κ} {object : ω}
    (admits : (key, object) ∈ (Move.mk session event next reply).admits) :
    (next.queue key).head? = some object := by
  obtain ⟨base, purpose, turn, hopens, heq⟩ := opens_of_step? h
  have hends := base.ends_advance purpose turn
  rw [← heq] at hends
  have hkept : (next.newCall? reply).toList.flatMap Request.destroys = [] := by
    obtain ⟨-, -, -, -, -, hnone⟩ := Move.mem_admits admits
    exact hnone
  have hfront := front_of_opens inOrder hopens admits
  rcases queue_of_ends hends (hopens.orderly inOrder).sound with
    ⟨hover, -, -, hspares⟩ | ⟨hqueue, hcall⟩
  · -- the pool could only have closed with nothing idle
    rw [hover, hspares hkept key] at hfront
    rcases hfront with hdestroys | hnone
    · exact absurd rfl hdestroys
    · cases hnone
  · rcases hfront with hdestroys | hhead
    · rw [← show next.newCall? reply = turn.2.request? from hcall] at hdestroys
      exact absurd hkept hdestroys
    · exact (congrArg List.head? (hqueue key)).trans hhead

end steps

/-! ## Histories -/

section histories

variable [DecidableEq ι] {config : Config} {ident : ω → ι} {log : List (Move κ ω ε)}
  {session : Session κ ω ε}

/-- The store of a session gives idle resources out as its configuration says. -/
theorem selection_of_reachable (reachable : Reachable config session) :
    session.pool.store.selection = config.selection := by
  have hrules : ∀ {store next : Store κ ω}, next.rules = store.rules →
      next.selection = store.selection := fun h => congrArg Prod.fst h
  have hclose : ∀ (pool : Pool κ ω ε) (result : Result ω ε), pool.store.Sound →
      (pool.close result).1.store.selection = pool.store.selection := by
    intro pool result hsound
    cases hclosed : pool.isClosed with
    | true => rw [pool.close_of_closed hclosed]; rfl
    | false =>
      show _ = pool.shut.store.selection
      exact hrules (pool.does_close hsound .free hclosed result).rules_eq
  refine holds_of_reachable (fun pool _ => pool.store.selection = config.selection)
    (fun _ => rfl) ?_ ?_ (fun _ _ _ _ h => h) ?_ reachable
  · intro pool stages operation horderly h
    by_cases hop : operation = .close
    · subst hop
      exact (hclose pool .done horderly.sound).trans h
    · obtain ⟨deed, hdoes⟩ := pool.does_start horderly.sound hop
      exact (hrules hdoes.rules_eq).trans h
  · intro pool stage stages answer horderly h
    have hmem : stage ∈ stage :: stages := List.mem_cons_self
    obtain ⟨deed, hdoes⟩ := pool.does_resume horderly.sound stage (horderly.holds hmem)
      (horderly.stands stage hmem) answer
    exact (hrules hdoes.rules_eq).trans h
  · intro pool result horderly h
    exact (hclose pool result horderly.sound).trans h

/-- **What is admitted was not idle before**: it was in the hands of the operation. -/
theorem admitted_not_idle (history : History config log session) {event : Event κ ω ε}
    {next : Session κ ω ε} {reply : Option (Reply ω ε)} (keeps : KeepsNames ident log)
    (single : Single ident log)
    (same : ∀ change ∈ (Move.mk session event next reply).changes, ident change.2 = ident change.1)
    {key : κ} {object : ω} (admitted : (key, object) ∈ (Move.mk session event next reply).admits) :
    ident object ∉ (session.queue key).map ident := by
  intro hidle
  obtain ⟨resource, answer, rfl, hrequest, hanswer, -⟩ := Move.mem_admits admitted
  have hname : ident resource = ident object := by
    apply Eq.symm
    apply same (resource, object)
    rcases hanswer with rfl | rfl <;> simp [Move.changes, hrequest, Request.changes]
  obtain ⟨activity, hhead, hstage⟩ := Option.map_eq_some_iff.mp hrequest
  have hhand : activity.stage.carried = [resource] := by
    cases hcase : activity.stage <;> rw [hcase] at hstage <;> cases hstage <;> rfl
  have hhands : 0 < session.inHands fun other => ident other = ident object := by
    apply inHands_pos_of_carried _ (List.mem_of_head? hhead) _ (decide_eq_true hname)
    rw [hhand]
    exact List.mem_singleton_self resource
  have hstock : 0 < session.pool.store.stock fun other => ident other = ident object := by
    obtain ⟨other, hother, heq⟩ := List.mem_map.mp hidle
    exact stock_pos _ (reachable_inOrder history.reachable).orderly.sound hother
      (decide_eq_true heq)
  -- so it would be there twice
  have htwice := possession_of_history history keeps (ident object)
  have honce := single_of_history history keeps single (ident object)
  unfold possession at htwice
  omega

/-- **The idle resources of a key are in the order of their admissions**, the latest first. -/
structure Ordered (ident : ω → ι) (key : κ) (log : List (Move κ ω ε)) (queue : List ω) :
    Prop where
  known : ∀ object ∈ queue, ident object ∈ admissions ident key log
  ordered : (queue.map ident).Pairwise fun name other =>
    (admissions ident key log).idxOf name < (admissions ident key log).idxOf other

/-- What goes out leaves the order of the rest alone. -/
theorem Ordered.sublist {key : κ} {queue queue' : List ω} (ordered : Ordered ident key log queue)
    (sub : queue'.Sublist queue) : Ordered ident key log queue' :=
  ⟨fun object hobject => ordered.known object (sub.subset hobject),
    ordered.ordered.sublist (sub.map ident)⟩

/-- What comes in goes to the front, if it was not there before: the others come one later in the
list of the admissions. -/
theorem Ordered.push {key : κ} {queue : List ω} {move : Move κ ω ε} {object : ω}
    (ordered : Ordered ident key log queue) (admits : listedUnder key move.admits = [object])
    (new : ident object ∉ queue.map ident) : Ordered ident key (move :: log) (object :: queue) := by
  have hlog : admissions ident key (move :: log) = ident object :: admissions ident key log := by
    rw [admissions_cons, admits]
    rfl
  have hlater : ∀ name ∈ queue.map ident, (ident object :: admissions ident key log).idxOf name =
      (admissions ident key log).idxOf name + 1 := by
    intro name hname
    apply List.idxOf_cons_ne
    rintro rfl
    exact new hname
  refine ⟨?_, ?_⟩
  · rw [hlog]
    intro other hother
    rcases List.mem_cons.mp hother with rfl | hold
    · exact List.mem_cons_self
    · exact List.mem_cons_of_mem _ (ordered.known other hold)
  · rw [hlog, List.map_cons, List.pairwise_cons]
    constructor
    · intro name hname
      rw [List.idxOf_cons_self, hlater name hname]
      exact Nat.succ_pos _
    · refine ordered.ordered.imp_of_mem ?_
      intro name other hname hother hlt
      rw [hlater name hname, hlater other hother]
      exact Nat.succ_lt_succ hlt

/-- One more move keeps the order: it admits at most one resource, which was not idle before. -/
theorem Ordered.step {key : κ} {queue queue' : List ω} {move : Move κ ω ε}
    (ordered : Ordered ident key log queue)
    (sub : queue'.Sublist (listedUnder key move.admits ++ queue))
    (new : ∀ object, (key, object) ∈ move.admits → ident object ∉ queue.map ident) :
    Ordered ident key (move :: log) queue' := by
  have hone : listedUnder key move.admits = [] ∨
      ∃ object, listedUnder key move.admits = [object] := by
    unfold Move.admits
    split
    · next place _ object _ _ => by_cases hkey : place = key <;> simp [listedUnder, hkey]
    · next place _ object _ _ => by_cases hkey : place = key <;> simp [listedUnder, hkey]
    · exact .inl rfl
  rcases hone with hnone | ⟨object, hsome⟩
  · rw [hnone] at sub
    have hlog : admissions ident key (move :: log) = admissions ident key log := by
      rw [admissions_cons, hnone]
      rfl
    have hbefore := ordered.sublist sub
    exact ⟨by rw [hlog]; exact hbefore.known, by rw [hlog]; exact hbefore.ordered⟩
  · rw [hsome] at sub
    have hadmits : (key, object) ∈ move.admits :=
      mem_listedUnder.mp (hsome ▸ List.mem_singleton_self object)
    exact (ordered.push hsome (new object hadmits)).sublist sub

/-- Along every history the queue of a key is in the order of the last admissions, by induction on
the moves. -/
theorem history_ordered (history : History config log session) (keeps : KeepsNames ident log)
    (single : Single ident log) (key : κ) : Ordered ident key log (session.queue key) := by
  induction history with
  | create => exact ⟨List.forall_mem_nil _, List.Pairwise.nil⟩
  | @step log session next event reply past hstep ih =>
    have hkeeps : KeepsNames ident log := fun move hmove =>
      keeps move (List.mem_cons_of_mem _ hmove)
    obtain ⟨-, -, hsingle⟩ := single
    obtain ⟨hsub, -⟩ := queue_of_step (reachable_inOrder past.reachable) hstep key
    apply (ih hkeeps hsingle).step hsub
    intro object hadmits
    exact admitted_not_idle past hkeeps hsingle (keeps _ List.mem_cons_self) hadmits

/-- The next one of a queue is preferred to all others. -/
theorem Ordered.prefers {key : κ} {queue : List ω} (ordered : Ordered ident key log queue)
    {selection : Selection} {object : ω} (next : selection.next? queue = some object) :
    object ∈ queue ∧ ∀ other ∈ queue, ident other ≠ ident object →
      selection.Prefers (admissions ident key log) (ident object) (ident other) := by
  obtain ⟨-, hordered⟩ := ordered
  cases selection with
  | lifo =>
    obtain ⟨rest, rfl⟩ := List.head?_eq_some_iff.mp next
    rw [List.map_cons, List.pairwise_cons] at hordered
    refine ⟨List.mem_cons_self, fun other hother hne => ?_⟩
    rcases List.mem_cons.mp hother with rfl | hrest
    · exact absurd rfl hne
    · exact hordered.1 _ (List.mem_map_of_mem hrest)
  | fifo =>
    obtain ⟨init, rfl⟩ := List.getLast?_eq_some_iff.mp next
    rw [List.map_append, List.pairwise_append] at hordered
    refine ⟨by simp, fun other hother hne => ?_⟩
    rcases List.mem_append.mp hother with hinit | hlast
    · exact hordered.2.2 _ (List.mem_map_of_mem hinit) _ (by simp)
    · exact absurd (congrArg ident (List.mem_singleton.mp hlast)) hne

/-- **Candidates are taken in the order of the selection.** Before a move of any history the idle
resources of a key have been admitted under it and differ in their names; a candidate that the move
takes out is one of them, and of all of them it is the one that was admitted last, or the one whose
last admission is the longest ago. After the move what is idle is in the order that it had, behind
what the move has admitted, which is at the front. -/
theorem taken_in_order {move : Move κ ω ε} (history : History config (move :: log) session)
    (keeps : KeepsNames ident (move :: log)) (single : Single ident (move :: log)) (key : κ) :
    (∀ object ∈ move.before.queue key, ident object ∈ admissions ident key log) ∧
    ((move.before.queue key).map ident).Nodup ∧
    (∀ object, (key, object) ∈ move.takes → object ∈ move.before.queue key ∧
      ∀ other ∈ move.before.queue key, ident other ≠ ident object →
        config.selection.Prefers (admissions ident key log) (ident object) (ident other)) ∧
    (session.queue key).Sublist (listedUnder key move.admits ++ move.before.queue key) ∧
    ∀ object, (key, object) ∈ move.admits → (session.queue key).head? = some object := by
  cases history with
  | @step log before next event reply past hstep =>
    have hkeeps : KeepsNames ident log := fun move hmove =>
      keeps move (List.mem_cons_of_mem _ hmove)
    have hordered := history_ordered past hkeeps single.2.2 key
    obtain ⟨hsub, hnext⟩ := queue_of_step (reachable_inOrder past.reachable) hstep key
    refine ⟨hordered.known, ?_, ?_, hsub,
      fun object => front_of_step (reachable_inOrder past.reachable) hstep⟩
    · exact hordered.ordered.imp fun hlt heq => absurd (heq ▸ hlt) (Nat.lt_irrefl _)
    · intro object htakes
      rw [← selection_of_reachable past.reachable]
      exact hordered.prefers (hnext object htakes)

/-- A pool that lends what has waited longest. -/
def queued : Config := Config.standard.withSelection .fifo

/-- The events of a short run. The resources 7, 8 and 9 are added, 5 of another key and 7 are lent,
and 5 comes back under the key of 7; 8 is destroyed, because it cannot be activated. -/
def rotation : List (Event Nat Nat String) :=
  [.act (.call (.prefill 0 3)), .answer (.done 7), .answer (.done 7), .answer (.done 8),
    .answer (.done 8), .answer (.done 9), .answer (.done 9),
    .act (.call (.borrow 1)), .answer (.done 5), .answer (.done 5),
    .act (.call (.borrow 0)), .answer (.done 7), .act (.call (.giveBack 0 5)), .answer (.done 5),
    .act (.call (.borrow 0)), .answer (.failed "worn"), .answer (.done 8)]

/-- Then 9 is taken, which has waited longer than 5. -/
theorem oldest_taken : ∃ move log session,
    replay queued rotation = some (move :: log, session) ∧ (0, 9) ∈ move.takes ∧
    admissions id 0 log = [5, 9, 8, 7] ∧ 9 ∈ move.before.queue 0 ∧
    Selection.fifo.Prefers (admissions id 0 log) 9 5 := by
  have hfits : ∀ past ∈ replay queued rotation, KeepsNames id past.1 ∧ Single id past.1 ∧
      ∃ move ∈ past.1.head?, (0, 9) ∈ move.takes ∧ 5 ∈ move.before.queue 0 ∧
        admissions id 0 past.1.tail = [5, 9, 8, 7] := by
    decide +kernel
  have hplays : (replay queued rotation).isSome = true := by
    decide +kernel
  obtain ⟨⟨log, session⟩, hpast⟩ := Option.isSome_iff_exists.mp hplays
  obtain ⟨hkeeps, hsingle, move, hhead, htakes, hfive, hlog⟩ := hfits _ hpast
  obtain ⟨rest, rfl⟩ := List.head?_eq_some_iff.mp hhead
  obtain ⟨-, -, htaken, -⟩ := taken_in_order (history_of_replay hpast) hkeeps hsingle 0
  obtain ⟨hidle, hprefers⟩ := htaken 9 htakes
  exact ⟨move, rest, session, hpast, htakes, hlog, hidle, hprefers 5 hfive (by decide)⟩

end histories

end Session

end ResourcePool
