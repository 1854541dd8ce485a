import ResourcePool.Proofs.Pool.Handing
import ResourcePool.Proofs.Session.History
import ResourcePool.Proofs.Session.Turns

/-!
# Handles, guards and the life of a pool

A pool that no client closes lives exactly as long as something keeps it alive, and a guard hands
its resource back exactly once.

* `Unclosed` — no client closes the pool.
* `Living`, `living_of_history` — the pool is open as long as it has handles or guards, and it
  closes once.
* `spendings`, `spendings_of_history` — the moves that use up a guard.
-/

set_option linter.unusedSectionVars false

namespace ResourcePool.Session

variable {κ ω ε : Type} [DecidableEq κ]

/-! ## What histories tell -/

/-- Whether a client closes the pool. -/
def Event.closes : Event κ ω ε → Bool
  | .act (.call .close) => true
  | _ => false

/-- Whether an event uses up a guard. -/
def Event.spends (id : GuardId) : Event κ ω ε → Bool
  | .act (.release other) | .act (.invalidate other) | .act (.dropGuard other) => other = id
  | _ => false

/-- No client closes the pool. -/
def Unclosed (log : List (Move κ ω ε)) : Prop := ∀ move ∈ log, move.event.closes = false

/-- Whether nobody has closed the pool can be decided. -/
instance (log : List (Move κ ω ε)) : Decidable (Unclosed log) :=
  inferInstanceAs (Decidable (∀ move ∈ log, _))

/-- How often a guard has been used up. -/
def spendings (id : GuardId) (log : List (Move κ ω ε)) : Nat :=
  log.countP fun move => move.event.spends id

/-- How many guards of a number there are. -/
def guardCount (session : Session κ ω ε) (id : GuardId) : Nat :=
  (session.guards.map Prod.fst).count id

/-! ## Ends -/

section ends

variable {base : Session κ ω ε} {purpose : Purpose κ} {turn : Pool.Turn κ ω ε}
  {outcome : Session κ ω ε × Option (Reply ω ε)}

/-- Handing a reply over notes no closing. -/
@[simp] theorem closings_conclusion (purpose : Purpose κ) (pool : Pool κ ω ε)
    (result : Result ω ε) : (conclusion purpose pool result).1.closings = pool.closings := by
  unfold conclusion
  split
  · simp [Pool.closings, Pool.note, Note.isClosing]
  · rfl

/-- It does not close the pool. -/
@[simp] theorem isClosed_conclusion (purpose : Purpose κ) (pool : Pool κ ω ε)
    (result : Result ω ε) : (conclusion purpose pool result).1.isClosed = pool.isClosed := by
  simp [Pool.isClosed]

section closing

variable (session : Session κ ω ε) (turn : Pool.Turn κ ω ε)

/-- Closing leaves the handles alone. -/
@[simp] theorem handles_closing : (session.closing turn).1.handles = session.handles := by
  obtain ⟨pool, progress⟩ := turn
  cases progress <;> rfl

/-- It leaves the guards alone. -/
@[simp] theorem guards_closing : (session.closing turn).1.guards = session.guards := by
  obtain ⟨pool, progress⟩ := turn
  cases progress <;> rfl

/-- It opens no guard. -/
@[simp] theorem nextGuard_closing : (session.closing turn).1.nextGuard = session.nextGuard := by
  obtain ⟨pool, progress⟩ := turn
  cases progress <;> rfl

/-- What a closing waits for goes to the client as it is. -/
theorem plain_closing (running : session.running = []) :
    ∀ activity ∈ (session.closing turn).1.running, activity.purpose = .plain := by
  obtain ⟨pool, progress⟩ := turn
  cases progress with
  | waiting stage =>
    intro activity hactivity
    cases List.mem_singleton.mp hactivity
    rfl
  | finished result => simp [closing, running]

end closing

/-- The end of a step leaves the handles as they are. -/
theorem handles_of_ends (ends : base.Ends purpose turn outcome) :
    outcome.1.handles = base.handles := by
  cases ends with
  | closes => simp
  | _ => rfl

/-- The end of a step leaves the guards as they are, or there is a new one. -/
theorem guards_of_ends (ends : base.Ends purpose turn outcome) :
    outcome.1.guards = base.guards ∧ outcome.1.nextGuard = base.nextGuard ∨
    ∃ key object, purpose = .guarding key ∧
      outcome.1.guards = base.guards ++ [(base.nextGuard, ⟨key, object⟩)] ∧
      outcome.1.nextGuard = base.nextGuard + 1 := by
  cases ends with
  | waits => exact .inl ⟨rfl, rfl⟩
  | @guarded pool key object purpose_eq => exact .inr ⟨key, object, purpose_eq, rfl, rfl⟩
  | told referenced => exact .inl ⟨rfl, rfl⟩
  | closes => exact .inl ⟨by simp, by simp⟩

end ends

/-! ## The life of a pool -/

/-- **A pool in use lives**: it is open as long as it has handles or guards, it closes when nothing
keeps it alive, and it closes once. -/
structure Living (session : Session κ ω ε) : Prop where
  closings_eq : session.pool.closings = if session.pool.isClosed then 1 else 0
  handles : session.pool.isClosed = true → session.handles = 0
  guards : session.pool.isClosed = true → session.guards = []
  plain : session.pool.isClosed = true → ∀ activity ∈ session.running, activity.purpose = .plain
  closed : session.running = [] → session.handles = 0 → session.guards = [] →
    session.pool.isClosed = true

section living

variable {config : Config} {session next base : Session κ ω ε} {event : Event κ ω ε}
  {purpose : Purpose κ} {turn : Pool.Turn κ ω ε} {reply : Option (Reply ω ε)}

/-- Without a handle or a guard no client can do anything. -/
theorem act?_of_unreferenced (handles : session.handles = 0) (guards : session.guards = [])
    (action : Action κ ω) : session.act? action = none := by
  cases action <;> simp [act?, handles, guard?, guards]

/-- Only a client can ask for a closing. -/
theorem operation?_close {action : Action κ ω} (starts : session.operation? action = some .close) :
    action = .call .close := by
  cases action <;> simp_all [operation?]

/-- A step that is not the closing by a client begins with a turn that does not close the pool. -/
theorem Opens.lasts (opens : session.Opens event base purpose turn)
    (inOrder : InOrder config session) (unclosed : event.closes = false) :
    Pool.Turn.Lasts session.pool turn := by
  have horderly := inOrder.orderly
  cases opens with
  | @start action operation starts =>
    apply Pool.lasts_start horderly.sound
    rintro rfl
    rw [operation?_close starts] at unclosed
    cases unclosed
  | aside other => exact ⟨rfl, rfl⟩
  | @resume answer activity rest running_eq =>
    have hmem : activity.stage ∈ session.stages := by simp [stages, running_eq]
    exact Pool.lasts_resume horderly.sound (horderly.holds hmem) (horderly.stands _ hmem) answer

/-- While the pool is open, the end of a step leaves it open, or nothing keeps it alive and it
closes once. -/
theorem living_of_ends {outcome : Session κ ω ε × Option (Reply ω ε)}
    (ends : base.Ends purpose turn outcome) (sound : turn.1.store.Sound)
    (isOpen : turn.1.isClosed = false) (closings_eq : turn.1.closings = 0) :
    Living outcome.1 := by
  cases ends with
  | @waits pool stage =>
    have hopen : pool.isClosed = false := isOpen
    exact ⟨by simpa [hopen] using closings_eq, by simp [hopen], by simp [hopen], by simp [hopen],
      by simp⟩
  | @guarded pool key object purpose_eq =>
    have hopen : pool.isClosed = false := isOpen
    exact ⟨by simpa [addGuard, hopen] using closings_eq, by simp [addGuard, hopen],
      by simp [addGuard, hopen], by simp [addGuard, hopen], by simp [addGuard]⟩
  | @told pool result referenced =>
    have hopen : pool.isClosed = false := isOpen
    refine ⟨by simpa [hopen] using closings_eq, by simp [hopen], by simp [hopen], by simp [hopen],
      ?_⟩
    intro hrunning hhandles hguards
    simp [isReferenced] at referenced hrunning hhandles hguards
    simp [hrunning, hhandles, hguards] at referenced
  | @closes pool result handles guards running =>
    have hsound : (conclusion purpose pool result).1.store.Sound := by
      rw [store_conclusion]
      exact sound
    have hopen : (conclusion purpose pool result).1.isClosed = false := by
      rw [isClosed_conclusion]
      exact isOpen
    obtain ⟨hclosed, hclosings, -, -⟩ :=
      Pool.close_swept hsound hopen (conclusion purpose pool result).2
    rw [closings_conclusion, show pool.closings = 0 from closings_eq] at hclosings
    refine ⟨?_, fun _ => ?_, fun _ => ?_, fun _ => plain_closing _ _ running, fun _ _ _ => ?_⟩
    · rw [pool_closing, hclosed, hclosings]
      rfl
    · rw [handles_closing]
      exact handles
    · rw [guards_closing]
      exact guards
    · rw [pool_closing]
      exact hclosed

/-- An answer leaves a closed pool at that. -/
theorem living_of_closed (living : Living session) (closed : session.pool.isClosed = true)
    {activity : Activity κ ω ε} {rest : List (Activity κ ω ε)}
    (running_eq : session.running = activity :: rest)
    {outcome : Session κ ω ε × Option (Reply ω ε)}
    (ends : Ends { session with running := rest } activity.purpose turn outcome)
    (lasts : Pool.Turn.Lasts session.pool turn) : Living outcome.1 := by
  obtain ⟨hisClosed, hcount⟩ := lasts
  rw [closed] at hisClosed
  rw [living.closings_eq, closed] at hcount
  have hplain := living.plain closed
  rw [running_eq] at hplain
  have hpurpose : activity.purpose = .plain := hplain activity List.mem_cons_self
  have hothers : ∀ other ∈ rest, other.purpose = .plain := fun other hother =>
    hplain other (List.mem_cons_of_mem _ hother)
  have hkept : ∀ (pool : Pool κ ω ε) (running : List (Activity κ ω ε)), pool.isClosed = true →
      pool.closings = 1 → (∀ other ∈ running, other.purpose = .plain) →
      Living { session with pool := pool, running := running } := by
    intro pool running hclosed hclosings hrunning
    exact ⟨by simpa [hclosed] using hclosings, fun _ => living.handles closed,
      fun _ => living.guards closed, fun _ => hrunning, fun _ _ _ => hclosed⟩
  rw [hpurpose] at ends
  cases ends with
  | @waits pool stage =>
    refine hkept pool (⟨stage, .plain⟩ :: rest) hisClosed hcount ?_
    intro other hother
    rcases List.mem_cons.mp hother with rfl | hrest
    · rfl
    · exact hothers other hrest
  | guarded purpose_eq => cases purpose_eq
  | @told pool result referenced => exact hkept pool rest hisClosed hcount hothers
  | @closes pool result handles guards running =>
    have hclosed : (conclusion .plain pool result).1.isClosed = true := hisClosed
    rw [Pool.close_of_closed _ hclosed]
    exact hkept pool rest hisClosed hcount hothers

/-- **The life of a pool** in any history in which no client closes it. -/
theorem living_of_history {log : List (Move κ ω ε)} (history : History config log session)
    (unclosed : Unclosed log) : Living session := by
  induction history with
  | create => exact ⟨rfl, nofun, nofun, nofun, fun _ hhandles => nomatch hhandles⟩
  | @step log session next event reply past hstep ih =>
    have hliving := ih fun move hmove => unclosed move (List.mem_cons_of_mem _ hmove)
    have horder := reachable_inOrder past.reachable
    obtain ⟨base, purpose, turn, hopens, heq⟩ := opens_of_step? hstep
    have hends := base.ends_advance purpose turn
    rw [← heq] at hends
    have hlasts := hopens.lasts horder (unclosed _ List.mem_cons_self)
    have hsound := (hopens.orderly horder).sound
    cases hclosed : session.pool.isClosed with
    | true =>
      cases event with
      | act action =>
        have hnone : session.act? action = none :=
          act?_of_unreferenced (hliving.handles hclosed) (hliving.guards hclosed) action
        rw [show session.step? (.act action) = session.act? action from rfl, hnone] at hstep
        cases hstep
      | answer answer =>
        cases hopens with
        | resume running_eq => exact living_of_closed hliving hclosed running_eq hends hlasts
    | false =>
      apply living_of_ends hends hsound (hlasts.isClosed_eq.trans hclosed)
      rw [hlasts.closings_eq, hliving.closings_eq, hclosed]
      rfl

end living

/-! ## The life of a guard -/

section guards

variable {config : Config} {session next base : Session κ ω ε} {event : Event κ ω ε}
  {purpose : Purpose κ} {turn : Pool.Turn κ ω ε}

/-- A guard that is there is counted. -/
theorem guardCount_of_guard? {id : GuardId} {guard : Guard κ ω}
    (h : session.guard? id = some guard) : 0 < session.guardCount id := by
  obtain ⟨entry, hfound, -⟩ := Option.map_eq_some_iff.mp h
  have hfits : entry.1 = id := by simpa using List.find?_some hfound
  exact List.count_pos_iff.mpr (hfits ▸ List.mem_map_of_mem (List.mem_of_find?_eq_some hfound))

/-- The guards that are left when one has been taken away. -/
theorem guardCount_removeGuard (session : Session κ ω ε) (id other : GuardId) :
    (session.removeGuard id).guardCount other =
      if other = id then 0 else session.guardCount other := by
  have hmap : (session.removeGuard id).guards.map Prod.fst =
      (session.guards.map Prod.fst).filter fun place => place ≠ id := by
    rw [List.filter_map]
    rfl
  unfold guardCount
  rw [hmap]
  split
  · next h =>
    apply List.count_eq_zero.mpr
    simp [h]
  · next h => exact List.count_filter (by simpa using h)

/-- Changing what a guard holds leaves the guards as many as they were. -/
@[simp] theorem guardCount_setGuard (session : Session κ ω ε) (id other : GuardId) (object : ω) :
    (session.setGuard id object).guardCount other = session.guardCount other := by
  have hmap : (session.setGuard id object).guards.map Prod.fst = session.guards.map Prod.fst := by
    unfold setGuard
    rw [List.map_map]
    apply List.map_congr_left
    intro entry _
    by_cases hid : entry.1 = id <;> simp [hid]
  unfold guardCount
  rw [hmap]

/-- **A step begins by taking the guard away that it uses up**, and no other. -/
theorem Opens.guardCount_eq (opens : session.Opens event base purpose turn)
    (once : ∀ id, session.guardCount id ≤ 1) :
    base.nextGuard = session.nextGuard ∧ ∀ id,
      base.guardCount id + (if event.spends id then 1 else 0) = session.guardCount id := by
  have hspent : ∀ {id guard}, session.guard? id = some guard → ∀ other,
      (session.removeGuard id).guardCount other + (if (decide (id = other)) = true then 1 else 0) =
        session.guardCount other := by
    intro id guard hthere other
    rw [guardCount_removeGuard]
    by_cases hid : id = other
    · subst hid
      have hpos := guardCount_of_guard? hthere
      have hle := once id
      simp only [if_true, decide_true]
      omega
    · simp [hid, Ne.symm hid]
  have hsame : ∀ (action : Action κ ω),
      (∀ id, Event.spends id (.act action : Event κ ω ε) = false) →
      (session.prepare action).guardCount = session.guardCount →
      ∀ id, (session.prepare action).guardCount id +
        (if Event.spends id (.act action : Event κ ω ε) then 1 else 0) = session.guardCount id := by
    intro action hnever hcount id
    rw [hnever id, hcount]
    rfl
  have hthere : ∀ {id} {make : Guard κ ω → Operation κ ω} {operation},
      (session.guard? id).map make = some operation → ∃ guard, session.guard? id = some guard := by
    intro id make operation h
    obtain ⟨guard, hguard, -⟩ := Option.map_eq_some_iff.mp h
    exact ⟨guard, hguard⟩
  cases opens with
  | @start action operation starts =>
    cases action with
    | release id => obtain ⟨guard, hguard⟩ := hthere starts; exact ⟨rfl, hspent hguard⟩
    | invalidate id => obtain ⟨guard, hguard⟩ := hthere starts; exact ⟨rfl, hspent hguard⟩
    | dropGuard id => obtain ⟨guard, hguard⟩ := hthere starts; exact ⟨rfl, hspent hguard⟩
    | touch id object => cases starts
    | _ => exact ⟨rfl, hsame _ (fun _ => rfl) rfl⟩
  | @aside action other allowed =>
    have hgone : ∀ {id} {make : Guard κ ω → Operation κ ω},
        (session.guard? id).map make = none → session.guard? id = none := fun h =>
      Option.map_eq_none_iff.mp h
    obtain ⟨outcome, hallowed⟩ := allowed
    cases action with
    | release id => simp [act?, hgone other] at hallowed
    | invalidate id => simp [act?, hgone other] at hallowed
    | dropGuard id => simp [act?, hgone other] at hallowed
    | touch id object => exact ⟨rfl, hsame _ (fun _ => rfl) (funext fun _ => by simp [prepare])⟩
    | _ => exact ⟨rfl, hsame _ (fun _ => rfl) rfl⟩
  | resume running_eq => exact ⟨rfl, fun _ => rfl⟩

/-- **Every guard is used up at most once**, and it is there until then. -/
theorem spendings_of_history {log : List (Move κ ω ε)} (history : History config log session) :
    ∀ id, session.guardCount id + spendings id log = if id < session.nextGuard then 1 else 0 := by
  induction history with
  | create => exact fun _ => rfl
  | @step log session next event reply past hstep ih =>
    intro id
    obtain ⟨base, purpose, turn, hopens, heq⟩ := opens_of_step? hstep
    have hends := base.ends_advance purpose turn
    rw [← heq] at hends
    have honce : ∀ other, session.guardCount other ≤ 1 := by
      intro other
      have hother := ih other
      split at hother <;> omega
    obtain ⟨hnumber, hcount⟩ := hopens.guardCount_eq honce
    have hid := ih id
    have hbase := hcount id
    have hspent : spendings id (⟨session, event, next, reply⟩ :: log) =
        spendings id log + if event.spends id then 1 else 0 := by
      unfold spendings
      rw [List.countP_cons]
    rcases guards_of_ends hends with ⟨hguards, hnext⟩ | ⟨key, object, -, hguards, hnext⟩
    · have hsame : next.guardCount id = base.guardCount id := congrArg (fun guards =>
        (guards.map Prod.fst).count id) hguards
      rw [hspent, hsame, show next.nextGuard = session.nextGuard from hnext.trans hnumber, ← hid]
      omega
    · have hmore : next.guardCount id = base.guardCount id +
          if session.nextGuard = id then 1 else 0 := by
        unfold guardCount
        rw [show next.guards = _ from hguards, List.map_append, List.count_append, hnumber]
        simp [List.count_singleton]
      have hlast : next.nextGuard = session.nextGuard + 1 := hnext.trans (congrArg (· + 1) hnumber)
      rw [hspent, hlast]
      rcases Nat.lt_trichotomy id session.nextGuard with hold | hnew | hlater
      · rw [if_neg (Nat.ne_of_gt hold)] at hmore
        rw [if_pos hold] at hid
        rw [if_pos (Nat.lt_succ_of_lt hold)]
        omega
      · rw [if_pos hnew.symm] at hmore
        rw [if_neg (Nat.not_lt_of_le (Nat.le_of_eq hnew.symm))] at hid
        rw [if_pos (Nat.lt_succ_of_le (Nat.le_of_eq hnew))]
        omega
      · rw [if_neg (Nat.ne_of_lt hlater)] at hmore
        rw [if_neg (Nat.not_lt_of_lt hlater)] at hid
        rw [if_neg (Nat.not_lt_of_le hlater)]
        omega

end guards

end ResourcePool.Session
