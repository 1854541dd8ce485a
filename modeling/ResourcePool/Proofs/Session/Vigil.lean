import Mathlib.Data.Set.Functor
import ResourcePool.Proofs.Session.Attempts
import ResourcePool.Scenario.Schedule

/-!
# Waiting borrows

A waiting borrow is looked at again and again, and between two looks the others do what they like.
Its attempts can come to any reply that the factory and the others make possible, so the looks of
`Wait.begin` and `Wait.poll` are taken with a set of outcomes: each is a reply together with a diary
of the attempts made so far.

Of the clock it is assumed that it does not pass the moment at which the borrow asked to be looked
at, as that of a bench does not (`Scenario.Bench.nextMoment?_le`). A look may come earlier, and it
may come when no timer of the round is left to fire; then it changes nothing.

* `Wait.look`, with `look_of_resting`, `mem_look_of_due`, `look_of_spent` — what one look can lead
  to.
* `Wait.Vigil` — a waiting borrow among others, from its start.
* `Wait.Track` — its attempts so far are ten milliseconds apart, and none comes after the deadline.
* `Wait.Awaits`, `Wait.Ending` — how it stands while it waits, and how it ends; `Awaits.look` is the
  step and `Vigil.stands` the run.
* `tries_on_time` — it tries on time, ends with the first attempt that is not refused, and gives up
  only if all of them were.
-/

set_option linter.unusedSectionVars false

namespace ResourcePool

open Session (refusal)

/-! ## Timers -/

namespace Ration

/-- A look at a timer that is due finds it so, and spends one of the ration. -/
theorem look_due {ration : Ration} (left : ration.left ≠ 0) {due now : Nat} (fires : due ≤ now) :
    ration.look due now = (true, { ration with left := ration.left - 1 }) := by
  rw [look, if_neg left, if_pos fires]

/-- A timer that does not fire takes nothing of the ration. -/
theorem look_resting {ration : Ration} {due now : Nat} (resting : now < due ∨ ration.left = 0) :
    (ration.look due now).1 = false ∧ (ration.look due now).2.left = ration.left := by
  unfold look
  split
  · exact ⟨rfl, rfl⟩
  · next hleft =>
    have hlate : ¬ due ≤ now := Nat.not_le.mpr (resting.resolve_right hleft)
    rw [if_neg hlate]
    exact ⟨rfl, rfl⟩

end Ration

namespace Wait

variable {κ ω ε : Type} [DecidableEq κ]

section deadline

variable (wait : Wait) (now : Nat) (before ration : Ration)

/-- A borrow gives up at its deadline if a timer is left to fire, or if it has used the last one
itself. -/
theorem lookAtDeadline_fst :
    (wait.lookAtDeadline now before ration).1 = (wait.standing
      (decide (wait.deadline ≤ now ∧ (before.left ≠ 0 ∨ ration.left ≠ 0))) : Standing ω ε) := by
  unfold lookAtDeadline
  by_cases hleft : ration.left = 0
  · have hnone : (ration.look wait.deadline now).1 = false :=
      (ration.look_resting (.inr hleft)).1
    by_cases hbefore : before.left = 0
    · simp [hleft, hbefore, hnone]
    · simp [hleft, hbefore, Nat.pos_of_ne_zero hbefore]
  · by_cases hdue : wait.deadline ≤ now
    · simp [hleft, hdue, ration.look_due hleft hdue]
    · have hnone := (ration.look_resting (.inl (Nat.not_le.mp hdue))).1
      simp [hleft, hdue, hnone]

/-- After a refusal a borrow gives up if its deadline has come, and otherwise tries again later. -/
theorem afterTry_refusal :
    (wait.afterTry now before ration (refusal : Reply ω ε)).1 =
      ({ wait with nextTry := now + retryInterval } : Wait).standing
        (decide (wait.deadline ≤ now ∧ (before.left ≠ 0 ∨ ration.left ≠ 0))) := by
  have hnext : now < now + retryInterval := Nat.lt_add_of_pos_right (by decide)
  have hkept := (ration.look_resting (.inl hnext)).2
  show (({ wait with nextTry := now + retryInterval } : Wait).lookAtDeadline now before
    (ration.look (now + retryInterval) now).2).1 = _
  rw [lookAtDeadline_fst, hkept]

/-- Any other reply ends the waiting as it is. -/
theorem afterTry_of_ne {reply : Reply ω ε} (unrefused : reply ≠ refusal) :
    wait.afterTry now before ration reply = (.over reply, ration) := by
  unfold afterTry
  split
  · exact absurd rfl unrefused
  · rfl

end deadline

/-! ## Looks -/

/-- An attempt of a waiting borrow. -/
structure Try (κ ω ε : Type) where
  /-- When it was made. -/
  moment : Nat
  /-- The session before. -/
  before : Session κ ω ε
  /-- What the borrow was told. -/
  reply : Reply ω ε
  /-- The session afterwards. -/
  after : Session κ ω ε

/-- A session with the attempts that a waiting borrow has made in it. -/
structure Diary (κ ω ε : Type) where
  /-- The session as it is. -/
  session : Session κ ω ε
  /-- The attempts so far, the latest first. -/
  tries : List (Try κ ω ε) := []

/-- Writes down an attempt. -/
def Diary.record (diary : Diary κ ω ε) (now : Nat) (reply : Reply ω ε) (after : Session κ ω ε) :
    Diary κ ω ε where
  session := after
  tries := ⟨now, diary.session, reply, after⟩ :: diary.tries

/-- Makes an attempt, which can come to any of its replies. -/
def attempt (action : Action κ ω) (now : Nat) : StateT (Diary κ ω ε) SetM (Reply ω ε) :=
  fun diary => {outcome : Reply ω ε × Diary κ ω ε | ∃ after,
    diary.session.Attempts action outcome.1 after ∧
    outcome.2 = diary.record now outcome.1 after}

/-- How a waiting borrow may stand after its first try, and its diary then. -/
def firstLook (wait : Wait) (action : Action κ ω) (now : Nat) (ration : Ration)
    (diary : Diary κ ω ε) : Set (Standing ω ε × Diary κ ω ε) :=
  {outcome | ∃ left, ((outcome.1, left), outcome.2) ∈
    SetM.run ((wait.begin now ration (attempt action now)).run diary)}

/-- **How a waiting borrow may stand after it was looked at**, and its diary then. -/
def look (wait : Wait) (action : Action κ ω) (now : Nat) (ration : Ration)
    (diary : Diary κ ω ε) : Set (Standing ω ε × Diary κ ω ε) :=
  {outcome | ∃ left, ((outcome.1, left), outcome.2) ∈
    SetM.run ((wait.poll now ration (attempt action now)).run diary)}

section outcomes

variable {σ α β : Type} {state : σ}

/-- A look that only answers has one outcome. -/
theorem mem_run_pure {value : α} {outcome : α × σ} :
    outcome ∈ SetM.run ((pure value : StateT σ SetM α).run state) ↔ outcome = (value, state) :=
  Iff.rfl

/-- A program has the outcomes of its rest after any outcome of its first part. -/
theorem mem_run_bind {first : StateT σ SetM α} {rest : α → StateT σ SetM β} {outcome : β × σ} :
    outcome ∈ SetM.run ((first >>= rest).run state) ↔
      ∃ middle ∈ SetM.run (first.run state),
        outcome ∈ SetM.run ((rest middle.1).run middle.2) := by
  show outcome ∈ ⋃ middle ∈ SetM.run (first.run state), SetM.run ((rest middle.1).run middle.2) ↔ _
  simp only [Set.mem_iUnion, exists_prop]

end outcomes

section looks

variable {wait : Wait} {action : Action κ ω} {now : Nat} {ration : Ration}
  {diary after : Diary κ ω ε} {standing : Standing ω ε}

/-- What follows an attempt depends on its reply alone. -/
theorem mem_run_attempt {next : Reply ω ε → Standing ω ε × Ration} :
    (∃ left, ((standing, left), after) ∈
      SetM.run ((attempt action now >>= fun reply => pure (next reply)).run diary)) ↔
    ∃ reply later, diary.session.Attempts action reply later ∧
      after = diary.record now reply later ∧ standing = (next reply).1 := by
  constructor
  · rintro ⟨left, hrun⟩
    obtain ⟨⟨reply, middle⟩, ⟨later, hattempts, hmiddle⟩, hrest⟩ := mem_run_bind.mp hrun
    obtain ⟨hstanding, hafter⟩ := Prod.mk.inj (mem_run_pure.mp hrest)
    exact ⟨reply, later, hattempts, hafter.trans hmiddle, congrArg Prod.fst hstanding⟩
  · rintro ⟨reply, later, hattempts, rfl, rfl⟩
    exact ⟨(next reply).2, mem_run_bind.mpr ⟨(reply, _), ⟨later, hattempts, rfl⟩, rfl⟩⟩

/-- The first look is an attempt, made when the wait begins. -/
theorem mem_firstLook : (standing, after) ∈ wait.firstLook action now ration diary ↔
    ∃ reply later, diary.session.Attempts action reply later ∧
      after = diary.record now reply later ∧
      standing = (wait.afterTry now ration ration reply).1 := mem_run_attempt

/-- **A look at the time of the next try makes it.** -/
theorem mem_look_of_due (left : ration.left ≠ 0) (due : wait.nextTry ≤ now) :
    (standing, after) ∈ wait.look action now ration diary ↔
      ∃ reply later, diary.session.Attempts action reply later ∧
        after = diary.record now reply later ∧
        standing = (wait.afterTry now ration { ration with left := ration.left - 1 } reply).1 := by
  have hpoll : wait.poll now ration (attempt action now : StateT (Diary κ ω ε) SetM _) =
      attempt action now >>= fun reply =>
        pure (wait.afterTry now ration { ration with left := ration.left - 1 } reply) := by
    simp only [poll, ration.look_due left due, if_true]
  unfold look
  rw [hpoll]
  exact mem_run_attempt

/-- Between two tries only the deadline is looked at. -/
theorem look_eq_of_resting (resting : now < wait.nextTry ∨ ration.left = 0) :
    wait.look action now ration diary =
      {(wait.standing (decide (wait.deadline ≤ now ∧ ration.left ≠ 0)), diary)} := by
  obtain ⟨hnone, hkept⟩ := ration.look_resting resting
  have hpoll : wait.poll now ration (attempt action now : StateT (Diary κ ω ε) SetM _) =
      pure (wait.lookAtDeadline now ration (ration.look wait.nextTry now).2) := by
    simp only [poll, hnone, Bool.false_eq_true, if_false]
  have hstanding : (wait.lookAtDeadline now ration (ration.look wait.nextTry now).2).1 =
      (wait.standing (decide (wait.deadline ≤ now ∧ ration.left ≠ 0)) : Standing ω ε) := by
    simp only [lookAtDeadline_fst, hkept, or_self]
  ext ⟨standing, after⟩
  unfold look
  rw [hpoll, ← hstanding]
  constructor
  · rintro ⟨left, hrun⟩
    obtain ⟨hlooked, hafter⟩ := Prod.mk.inj (mem_run_pure.mp hrun)
    have hfirst : standing = _ := congrArg Prod.fst hlooked
    exact Prod.ext hfirst hafter
  · intro h
    obtain ⟨rfl, rfl⟩ := Prod.mk.inj h
    exact ⟨_, mem_run_pure.mpr rfl⟩

/-- **A look changes nothing** if it comes too early, or if no timer is left to fire. -/
theorem look_of_resting (resting : now < wait.wake ∨ ration.left = 0) :
    wait.look action now ration diary = {(.waiting wait, diary)} := by
  have hearly : now < wait.nextTry ∨ ration.left = 0 :=
    resting.imp_left fun h => Nat.lt_of_lt_of_le h (Nat.min_le_left _ _)
  have hover : ¬ (wait.deadline ≤ now ∧ ration.left ≠ 0) := by
    rintro ⟨hdeadline, hleft⟩
    have hbefore : now < wait.deadline :=
      Nat.lt_of_lt_of_le (resting.resolve_right hleft) (Nat.min_le_right _ _)
    exact Nat.not_le.mpr hbefore hdeadline
  rw [look_eq_of_resting hearly, decide_eq_false hover]
  rfl

/-- **A look at the deadline gives up** if there is no try to make at that moment. -/
theorem look_of_spent (left : ration.left ≠ 0) (early : now < wait.nextTry)
    (due : wait.deadline ≤ now) :
    wait.look action now ration diary = {(.over wait.timeout, diary)} := by
  rw [look_eq_of_resting (.inl early), decide_eq_true ⟨due, left⟩]
  rfl

end looks

/-! ## Vigils -/

/-- **A waiting borrow among others**, from its start, at some moment, with its diary: it stands as
its last look has left it. Between two looks anything may happen in the session. The clock does not
pass the moment at which the borrow asked to be looked at. -/
inductive Vigil (config : Config) (action : Action κ ω) (start : Nat) :
    Nat → Diary κ ω ε → Standing ω ε → Prop where
  | begin {session : Session κ ω ε} {ration : Ration} {diary : Diary κ ω ε}
      {standing : Standing ω ε} (reachable : Session.Reachable config session)
      (begins : (standing, diary) ∈
        (Wait.start start session.pool.config.patience).firstLook action start ration ⟨session, []⟩) :
      Vigil config action start start diary standing
  | look {moment now : Nat} {diary after : Diary κ ω ε} {wait : Wait} {session : Session κ ω ε}
      {ration : Ration} {standing : Standing ω ε}
      (past : Vigil config action start moment diary (.waiting wait))
      (leads : diary.session.Leads session) (later : moment ≤ now) (awaited : now ≤ wait.wake)
      (looks : (standing, after) ∈
        wait.look action now ration { diary with session := session }) :
      Vigil config action start now after standing

/-- An attempt that was refused, and did nothing else. -/
def Try.Refused (action : Action κ ω) (made : Try κ ω ε) : Prop :=
  made.reply = refusal ∧ made.before.Refuses action made.after

/-- By how much an attempt has put up the count of refusals. -/
def Try.refusals (made : Try κ ω ε) : Nat :=
  made.after.pool.tally.get .refusals - made.before.pool.tally.get .refusals

/-- An attempt that is refused counts one refusal. -/
theorem Try.Refused.refusals_eq {action : Action κ ω} {made : Try κ ω ε}
    (refused : made.Refused action) : made.refusals = 1 := by
  unfold Try.refusals
  rw [refused.2.tally_eq, Tally.get_bump, if_pos rfl, Nat.add_sub_cancel_left]

/-! ## Tries on time -/

/-- **The attempts of a waiting borrow** that begins at `start` and waits for `millis`: each of them
is one, the first is made at the start, the others follow every ten milliseconds, and none comes
after the deadline. -/
structure Track (config : Config) (action : Action κ ω) (start millis : Nat)
    (diary : Diary κ ω ε) : Prop where
  reachable : Session.Reachable config diary.session
  made : ∀ made ∈ diary.tries, Session.Reachable config made.before ∧
    made.before.Attempts action made.reply made.after
  moments : diary.tries.map Try.moment =
    ((List.range diary.tries.length).map fun i => start + retryInterval * i).reverse
  inTime : retryInterval * diary.tries.length ≤ millis + retryInterval

section track

variable {config : Config} {action : Action κ ω} {start millis : Nat} {diary : Diary κ ω ε}

/-- Before the first attempt there is nothing to keep track of. -/
theorem track_nil {session : Session κ ω ε} (reachable : Session.Reachable config session) :
    Track config action start millis (⟨session, []⟩ : Diary κ ω ε) where
  reachable := reachable
  made _ mem := absurd mem List.not_mem_nil
  moments := rfl
  inTime := Nat.zero_le _

/-- What the others do in the meantime is nothing to the attempts. -/
theorem Track.leads (track : Track config action start millis diary) {session : Session κ ω ε}
    (leads : diary.session.Leads session) :
    Track config action start millis { diary with session := session } :=
  ⟨track.reachable.leads leads, track.made, track.moments, track.inTime⟩

/-- One more attempt, as long as it is in time. -/
theorem Track.record (track : Track config action start millis diary)
    (inTime : retryInterval * diary.tries.length ≤ millis) {reply : Reply ω ε}
    {later : Session κ ω ε} (attempts : diary.session.Attempts action reply later) :
    Track config action start millis
      (diary.record (start + retryInterval * diary.tries.length) reply later) where
  reachable := track.reachable.leads attempts.leads
  made made mem := by
    rcases List.mem_cons.mp mem with rfl | hearlier
    · exact ⟨track.reachable, attempts⟩
    · exact track.made made hearlier
  moments := by
    simp only [Diary.record, List.map_cons, List.length_cons, track.moments, List.range_succ,
      List.map_append, List.map_nil, List.reverse_append, List.reverse_cons, List.reverse_nil,
      List.nil_append, List.singleton_append]
  inTime := by
    simp only [Diary.record, List.length_cons, Nat.mul_succ]
    exact Nat.add_le_add_right inTime _

/-- No attempt comes after the deadline. -/
theorem Track.moment_le (track : Track config action start millis diary) {made : Try κ ω ε}
    (mem : made ∈ diary.tries) : made.moment ≤ start + millis := by
  have hmoment : made.moment ∈
      ((List.range diary.tries.length).map fun i => start + retryInterval * i).reverse :=
    track.moments ▸ List.mem_map_of_mem mem
  obtain ⟨i, hi, heq⟩ := List.mem_map.mp (List.mem_reverse.mp hmoment)
  have hnext : retryInterval * (i + 1) ≤ retryInterval * diary.tries.length :=
    Nat.mul_le_mul_left _ (List.mem_range.mp hi)
  have htime : retryInterval * i + retryInterval ≤ millis + retryInterval :=
    hnext.trans track.inTime
  rw [← heq]
  exact Nat.add_le_add_left (Nat.le_of_add_le_add_right htime) start

end track

/-- **A waiting borrow that goes on waiting** at some moment: all its attempts were refused, and it
asks to be looked at for the next one and for its deadline, neither of which it has missed. -/
structure Awaits (config : Config) (action : Action κ ω) (start millis moment : Nat)
    (tries : List (Try κ ω ε)) (wait : Wait) : Prop where
  begun : tries ≠ []
  awake : moment ≤ wait.wake
  refused : ∀ made ∈ tries, made.Refused action
  patience_eq : wait.patience = config.patience
  deadline_eq : wait.deadline = start + millis
  nextTry_eq : wait.nextTry = start + retryInterval * tries.length

/-- **How a waiting borrow ends**, at some moment. -/
inductive Ending (config : Config) (action : Action κ ω) (start millis moment : Nat) :
    List (Try κ ω ε) → Reply ω ε → Prop where
  /-- With the reply of its last attempt, the only one that was not refused. -/
  | answered {last : Try κ ω ε} {earlier : List (Try κ ω ε)} (moment_eq : last.moment = moment)
      (unrefused : last.reply ≠ refusal) (untimed : last.reply.waited? = none)
      (refused : ∀ made ∈ earlier, made.Refused action) :
      Ending config action start millis moment (last :: earlier) last.reply
  /-- At its deadline, with all attempts that it could make refused. -/
  | timedOut {tries : List (Try κ ω ε)} (moment_eq : moment = start + millis)
      (refused : ∀ made ∈ tries, made.Refused action)
      (length_eq : tries.length = millis / retryInterval + 1)
      (refusals_eq : (tries.map Try.refusals).sum = millis / retryInterval + 1) :
      Ending config action start millis moment tries
        (.result (.failed (.timedOut config.patience)))

/-- How a waiting borrow stands at some moment. -/
def Stands (config : Config) (action : Action κ ω) (start millis moment : Nat)
    (tries : List (Try κ ω ε)) : Standing ω ε → Prop
  | .waiting wait => Awaits config action start millis moment tries wait
  | .over reply => Ending config action start millis moment tries reply

section vigil

variable {config : Config} {action : Action κ ω} {start millis moment : Nat}
  {diary : Diary κ ω ε} {tries : List (Try κ ω ε)} {wait : Wait} {standing : Standing ω ε}

/-- Wherever a waiting borrow stands, it has made an attempt. -/
theorem Stands.begun (stands : Stands config action start millis moment tries standing) :
    tries ≠ [] := by
  cases standing with
  | waiting wait => exact Awaits.begun stands
  | _ =>
    cases stands with
    | answered => exact List.cons_ne_nil _ _
    | timedOut _ _ length_eq =>
      rintro rfl
      cases length_eq

/-- As many refusals have been added as attempts were refused. -/
theorem sum_refusals (refused : ∀ made ∈ tries, made.Refused action) :
    (tries.map Try.refusals).sum = tries.length := by
  induction tries with
  | nil => rfl
  | cons made tries ih =>
    have hrest := ih fun other mem => refused other (List.mem_cons_of_mem _ mem)
    rw [List.map_cons, List.sum_cons, hrest, (refused made List.mem_cons_self).refusals_eq,
      List.length_cons, Nat.add_comm]

/-- A borrow gives up at its deadline when it has made all the attempts that were in time. -/
theorem stands_timeout (refused : ∀ made ∈ tries, made.Refused action)
    (patience_eq : wait.patience = config.patience) (moment_eq : moment = start + millis)
    (length_eq : tries.length = millis / retryInterval + 1) :
    Stands config action start millis moment tries (.over wait.timeout) := by
  show Ending config action start millis moment tries
    (.result (.failed (.timedOut wait.patience)))
  rw [patience_eq]
  exact .timedOut moment_eq refused length_eq ((sum_refusals refused).trans length_eq)

/-- **One more attempt**, made on time after attempts that were refused: the borrow ends with its
reply, or goes on waiting, or has come to its deadline. -/
theorem stands_afterTry (track : Track config action start millis diary)
    (refused : ∀ made ∈ diary.tries, made.Refused action)
    (patience_eq : wait.patience = config.patience) (deadline_eq : wait.deadline = start + millis)
    (inTime : retryInterval * diary.tries.length ≤ millis)
    {key : κ} (asks : action = .call (.borrow key) ∨ action = .get key) {now : Nat}
    (now_eq : now = start + retryInterval * diary.tries.length) {reply : Reply ω ε}
    {later : Session κ ω ε} (attempts : diary.session.Attempts action reply later)
    (before ration : Ration) :
    Stands config action start millis now (diary.record now reply later).tries
      (wait.afterTry now before ration reply).1 := by
  by_cases hreply : reply = refusal
  · subst hreply
    have hrefused : ∀ made ∈ (diary.record now refusal later).tries, made.Refused action := by
      intro made hmem
      rcases List.mem_cons.mp hmem with rfl | hearlier
      · exact ⟨rfl, attempts.refuses track.reachable asks⟩
      · exact refused made hearlier
    rw [afterTry_refusal]
    by_cases hover : wait.deadline ≤ now ∧ (before.left ≠ 0 ∨ ration.left ≠ 0)
    · -- the try was made at the deadline
      have hdeadline : retryInterval * diary.tries.length = millis := by
        have hlast := hover.1
        rw [deadline_eq, now_eq] at hlast
        exact Nat.le_antisymm inTime (Nat.le_of_add_le_add_left hlast)
      have hlength : (diary.record now (refusal : Reply ω ε) later).tries.length =
          millis / retryInterval + 1 := by
        rw [← hdeadline, Nat.mul_div_cancel_left _ (by decide)]
        rfl
      have hmoment : now = start + millis := now_eq.trans (congrArg (start + ·) hdeadline)
      rw [decide_eq_true hover]
      show Stands config action start millis now _
        (.over ({ wait with nextTry := now + retryInterval } : Wait).timeout)
      exact stands_timeout hrefused patience_eq hmoment hlength
    · rw [decide_eq_false hover]
      have hnext : now + retryInterval =
          start + retryInterval * (diary.record now (refusal : Reply ω ε) later).tries.length := by
        rw [now_eq, Nat.add_assoc]
        rfl
      have hawake : now ≤ min (now + retryInterval) wait.deadline := by
        refine le_min (Nat.le_add_right _ _) ?_
        rw [deadline_eq, now_eq]
        exact Nat.add_le_add_left inTime start
      exact ⟨List.cons_ne_nil _ _, hawake, hrefused, patience_eq, deadline_eq, hnext⟩
  · rw [afterTry_of_ne _ _ _ _ hreply]
    have huntimed := attempts.untimed track.reachable
    show Ending config action start millis now (⟨now, diary.session, reply, later⟩ :: diary.tries)
      (⟨now, diary.session, reply, later⟩ : Try κ ω ε).reply
    exact .answered rfl hreply huntimed refused

/-- The borrow asks to be looked at for its next try as long as that is in time. -/
theorem Awaits.moment_of_due (awaits : Awaits config action start millis moment tries wait)
    {now : Nat} (awaited : now ≤ wait.wake) (due : wait.nextTry ≤ now) :
    now = start + retryInterval * tries.length ∧ retryInterval * tries.length ≤ millis := by
  have hmoment : now = start + retryInterval * tries.length :=
    (Nat.le_antisymm (awaited.trans (Nat.min_le_left _ _)) due).trans awaits.nextTry_eq
  have hdeadline := awaited.trans (Nat.min_le_right _ _)
  rw [awaits.deadline_eq, hmoment] at hdeadline
  exact ⟨hmoment, Nat.le_of_add_le_add_left hdeadline⟩

/-- If the next try would come too late, then all that were in time have been made. -/
theorem Awaits.length_of_spent
    (awaits : Awaits config action start millis moment diary.tries wait)
    (track : Track config action start millis diary) (spent : wait.deadline < wait.nextTry) :
    diary.tries.length = millis / retryInterval + 1 := by
  rw [awaits.deadline_eq, awaits.nextTry_eq] at spent
  have hlast := track.inTime
  unfold retryInterval at spent hlast ⊢
  omega

/-- **One more look** at a borrow that waits. -/
theorem Awaits.look (awaits : Awaits config action start millis moment diary.tries wait)
    (track : Track config action start millis diary) {key : κ}
    (asks : action = .call (.borrow key) ∨ action = .get key) {now : Nat}
    (awaited : now ≤ wait.wake) {ration : Ration} {after : Diary κ ω ε}
    (looks : (standing, after) ∈ wait.look action now ration diary) :
    Track config action start millis after ∧
      Stands config action start millis now after.tries standing := by
  by_cases hresting : now < wait.wake ∨ ration.left = 0
  · rw [look_of_resting hresting] at looks
    obtain ⟨rfl, rfl⟩ := Prod.mk.inj looks
    exact ⟨track, { awaits with awake := awaited }⟩
  -- the borrow has asked to be looked at for this moment
  have hleft : ration.left ≠ 0 := fun h => hresting (.inr h)
  have hwake : now = wait.wake :=
    Nat.le_antisymm awaited (Nat.not_lt.mp fun h => hresting (.inl h))
  by_cases hdue : wait.nextTry ≤ now
  · obtain ⟨hmoment, hinTime⟩ := awaits.moment_of_due awaited hdue
    obtain ⟨reply, last, hattempts, rfl, rfl⟩ := (mem_look_of_due hleft hdue).mp looks
    have hstands := stands_afterTry track awaits.refused awaits.patience_eq awaits.deadline_eq
      hinTime asks hmoment hattempts ration { ration with left := ration.left - 1 }
    rw [hmoment] at hstands ⊢
    exact ⟨track.record hinTime hattempts, hstands⟩
  · have hearly := Nat.not_le.mp hdue
    have hdeadline : wait.deadline = now := by
      rcases Nat.le_total wait.nextTry wait.deadline with hle | hle
      · exact absurd (hwake.trans (Nat.min_eq_left hle)).ge hdue
      · exact (hwake.trans (Nat.min_eq_right hle)).symm
    have hlength := awaits.length_of_spent track (hdeadline.trans_lt hearly)
    rw [look_of_spent hleft hearly hdeadline.le] at looks
    obtain ⟨rfl, rfl⟩ := Prod.mk.inj looks
    exact ⟨track, stands_timeout awaits.refused awaits.patience_eq
      (hdeadline.symm.trans awaits.deadline_eq) hlength⟩

/-- The attempts of a waiting borrow are on time, and it stands as they have left it. -/
theorem Vigil.stands (vigil : Vigil config action start moment diary standing)
    (whole : config.patience.ceilMillis = millis) {key : κ}
    (asks : action = .call (.borrow key) ∨ action = .get key) :
    Track config action start millis diary ∧
      Stands config action start millis moment diary.tries standing := by
  induction vigil with
  | @begin session ration diary standing reachable begins =>
    obtain ⟨reply, later, hattempts, rfl, rfl⟩ := mem_firstLook.mp begins
    have hconfig := (Session.reachable_inOrder reachable).config_eq
    have hdeadline : start + session.pool.config.patience.ceilMillis = start + millis := by
      rw [hconfig, whole]
    have htrack : Track config action start millis ⟨session, []⟩ := track_nil reachable
    refine ⟨htrack.record (Nat.zero_le _) hattempts, ?_⟩
    exact stands_afterTry htrack (fun _ mem => absurd mem List.not_mem_nil)
      (congrArg Config.patience hconfig) hdeadline (Nat.zero_le _) asks rfl hattempts ration ration
  | @look moment now diary after wait session ration standing past leads later awaited looks ih =>
    obtain ⟨htrack, hawaits⟩ := ih
    have hnow : Awaits config action start millis moment
        ({ diary with session := session } : Diary κ ω ε).tries wait := hawaits
    exact hnow.look (htrack.leads leads) asks awaited looks

/-! ## The whole of it -/

/-- **What a waiting borrow does**, with its attempts and its standing at some moment. -/
structure Punctual (config : Config) (action : Action κ ω) (start millis moment : Nat)
    (diary : Diary κ ω ε) (standing : Standing ω ε) : Prop where
  /-- It has tried at least once. -/
  begun : diary.tries ≠ []
  /-- Its tries are attempts in the session, as it was at the time. -/
  made : ∀ made ∈ diary.tries, made.before.Attempts action made.reply made.after
  /-- The first was made at its start, and the others every ten milliseconds after that. -/
  moments : diary.tries.map Try.moment =
    ((List.range diary.tries.length).map fun i => start + retryInterval * i).reverse
  /-- None was made after the deadline. -/
  inTime : ∀ made ∈ diary.tries, made.moment ≤ start + millis
  /-- It goes on only as long as its tries are refused. It has to be looked at for the next try or
  at the deadline, whichever comes first, and that moment has not passed. -/
  waits : ∀ wait, standing = .waiting wait →
    (∀ made ∈ diary.tries, made.Refused action) ∧ moment ≤ wait.wake ∧
    wait.wake = min (start + retryInterval * diary.tries.length) (start + millis)
  /-- It ends with the first try that is not refused, or at the deadline. -/
  ends : ∀ reply, standing = .over reply →
    Ending config action start millis moment diary.tries reply
  /-- Whatever the others have done by then, the next try is made if it is in time. -/
  triesAgain : ∀ wait, standing = .waiting wait →
    retryInterval * diary.tries.length ≤ millis → ∀ session ration, ration.left ≠ 0 → ∀ after,
    (∃ next, (next, after) ∈ wait.look action (start + retryInterval * diary.tries.length) ration
      { diary with session := session }) ↔
    ∃ reply later, session.Attempts action reply later ∧
      after = ({ diary with session := session } : Diary κ ω ε).record
        (start + retryInterval * diary.tries.length) reply later
  /-- If the next try would come too late, it gives up at the deadline. -/
  givesUp : ∀ wait, standing = .waiting wait →
    millis < retryInterval * diary.tries.length → ∀ session ration, ration.left ≠ 0 →
    wait.look action (start + millis) ration { diary with session := session } =
      {(.over (.result (.failed (.timedOut config.patience))), { diary with session := session })}

/-- The next look at a borrow that waits. -/
theorem Awaits.triesAgain (awaits : Awaits config action start millis moment diary.tries wait)
    (session : Session κ ω ε) {ration : Ration} (left : ration.left ≠ 0) (after : Diary κ ω ε) :
    (∃ next, (next, after) ∈ wait.look action (start + retryInterval * diary.tries.length) ration
      { diary with session := session }) ↔
    ∃ reply later, session.Attempts action reply later ∧
      after = ({ diary with session := session } : Diary κ ω ε).record
        (start + retryInterval * diary.tries.length) reply later := by
  have hdue := awaits.nextTry_eq.le
  constructor
  · rintro ⟨next, hlook⟩
    obtain ⟨reply, later, hattempts, hafter, -⟩ := (mem_look_of_due left hdue).mp hlook
    exact ⟨reply, later, hattempts, hafter⟩
  · rintro ⟨reply, later, hattempts, hafter⟩
    exact ⟨_, (mem_look_of_due left hdue).mpr ⟨reply, later, hattempts, hafter, rfl⟩⟩

/-- When the deadline comes before the next attempt, the borrow gives up. -/
theorem Awaits.givesUp (awaits : Awaits config action start millis moment tries wait)
    (late : millis < retryInterval * tries.length) {ration : Ration} (left : ration.left ≠ 0)
    (diary : Diary κ ω ε) : wait.look action (start + millis) ration diary =
      {(.over (.result (.failed (.timedOut config.patience))), diary)} := by
  have hearly : start + millis < wait.nextTry := by
    rw [awaits.nextTry_eq]
    exact Nat.add_lt_add_left late start
  rw [look_of_spent left hearly awaits.deadline_eq.le]
  unfold timeout
  rw [awaits.patience_eq]

/-- **A waiting borrow tries on time.** It waits for a whole number of milliseconds, for a resource
of any key, under any configuration and among any clients, with any factory. It tries at its start
and then every ten milliseconds, and ends with the first attempt that is not refused, also at the
very deadline. It times out only when all attempts up to the deadline were refused, and then they
have left nothing behind but their number in the count of refusals. -/
theorem tries_on_time (whole : config.patience.toNanos = millis * 1000000) {key : κ}
    (asks : action = .call (.borrow key) ∨ action = .get key)
    (vigil : Vigil config action start moment diary standing) :
    Punctual config action start millis moment diary standing := by
  have hmillis : config.patience.ceilMillis = millis := by
    unfold Duration.ceilMillis
    omega
  obtain ⟨htrack, hstands⟩ := vigil.stands hmillis asks
  refine ⟨hstands.begun, fun made mem => (htrack.made made mem).2, htrack.moments,
    fun made mem => htrack.moment_le mem, ?_, ?_, ?_, ?_⟩
  · rintro wait rfl
    refine ⟨hstands.refused, hstands.awake, ?_⟩
    unfold wake
    rw [hstands.nextTry_eq, hstands.deadline_eq]
  · rintro reply rfl
    exact hstands
  · rintro wait rfl - session ration hleft after
    exact hstands.triesAgain session hleft after
  · rintro wait rfl hlate session ration hleft
    exact hstands.givesUp hlate hleft _

/-- Without a configured waiting time it is half a minute. -/
example : ({ Config.standard with timeout := none } : Config).patience.toNanos = 30000 * 1000000 := by
  decide

end vigil

/-! ## A short wait -/

section

open Session (Event)

/-- The session after an event, or the session itself if the event cannot happen. -/
def following (session : Session Nat Nat String) (event : Event Nat Nat String) :
    Session Nat Nat String := ((session.step? event).map Prod.fst).getD session

/-- The session that follows an event is the one that it leads to. -/
theorem step?_following {session : Session Nat Nat String} {event : Event Nat Nat String}
    {reply : Option (Reply Nat String)} (h : (session.step? event).map Prod.snd = some reply) :
    session.step? event = some (following session event, reply) := by
  obtain ⟨⟨next, told⟩, hstep, rfl⟩ := Option.map_eq_some_iff.mp h
  simp only [following, hstep, Option.map_some, Option.getD_some]

/-- It can be led to. -/
theorem leads_following (session : Session Nat Nat String) (event : Event Nat Nat String) :
    session.Leads (following session event) := by
  unfold following
  cases hstep : session.step? event with
  | none => exact .refl
  | some outcome => exact .single ⟨event, outcome.2, hstep⟩

/-- And so can the one that follows any events. -/
theorem leads_foldl (events : List (Event Nat Nat String)) (session : Session Nat Nat String) :
    session.Leads (events.foldl following session) := by
  induction events generalizing session with
  | nil => exact .refl
  | cons event events ih => exact (leads_following session event).trans (ih _)

/-- One resource of a key may be out at a time, and a borrow waits for twenty milliseconds. -/
def narrow : Config :=
  (Config.standard.withMaxActive 1).withTimeout ⟨0, 20000000, by decide⟩

/-- What the borrow tries. -/
def trying : Action Nat Nat := .call (.borrow 0)

/-- The resource 7 is on loan, and the borrow has been refused so many times. -/
def refusedTimes : Nat → Session Nat Nat String
  | 0 => [.act (.call (.borrow 0)), .answer (.done 7), .answer (.done 7)].foldl following
      (.create narrow .linking)
  | count + 1 => following (refusedTimes count) (.act trying)

/-- The resource has come back after two refusals. -/
def returned : Session Nat Nat String :=
  [.act (.call (.giveBack 0 7)), .answer (.done 7)].foldl following (refusedTimes 2)

/-- The borrow has been refused at the moment 5, at which it began, and ten milliseconds later. -/
def refusedTwice : List (Try Nat Nat String) :=
  [⟨15, refusedTimes 1, refusal, refusedTimes 2⟩, ⟨5, refusedTimes 0, refusal, refusedTimes 1⟩]

/-- A borrow that is refused twice waits on. -/
theorem vigil_refusedTwice : Vigil narrow trying 5 15 ⟨refusedTimes 2, refusedTwice⟩
    (.waiting ⟨narrow.patience, 25, 25⟩) := by
  have hreachable : Session.Reachable narrow (refusedTimes 0) :=
    (Session.Reachable.create .linking).leads (leads_foldl _ _)
  have hconfig := (Session.reachable_inOrder hreachable).config_eq
  have hfirst : (refusedTimes 0).step? (.act trying) = some (refusedTimes 1, some refusal) :=
    step?_following (by decide +kernel)
  have hsecond : (refusedTimes 1).step? (.act trying) = some (refusedTimes 2, some refusal) :=
    step?_following (by decide +kernel)
  have hbegins : ((.waiting ⟨narrow.patience, 25, 15⟩,
      ⟨refusedTimes 1, [⟨5, refusedTimes 0, refusal, refusedTimes 1⟩]⟩) :
        Standing Nat String × Diary Nat Nat String) ∈
      (Wait.start 5 (refusedTimes 0).pool.config.patience).firstLook trying 5 {}
        ⟨refusedTimes 0, []⟩ := by
    rw [hconfig]
    exact mem_firstLook.mpr ⟨refusal, _, .atOnce hfirst, rfl, rfl⟩
  have hlooks : ((.waiting ⟨narrow.patience, 25, 25⟩, ⟨refusedTimes 2, refusedTwice⟩) :
        Standing Nat String × Diary Nat Nat String) ∈
      (⟨narrow.patience, 25, 15⟩ : Wait).look trying 15 {}
        ⟨refusedTimes 1, [⟨5, refusedTimes 0, refusal, refusedTimes 1⟩]⟩ :=
    (mem_look_of_due (by decide) (by decide)).mpr ⟨refusal, _, .atOnce hsecond, rfl, rfl⟩
  exact (Vigil.begin hreachable hbegins).look .refl (by decide) (by decide) hlooks

/-- The borrow gives up when the third try, at its deadline, is refused. If the resource has come
back by then, that try has it. -/
theorem tries_until_deadline : ∃ vain lucky : Diary Nat Nat String,
    vain.tries.length = 3 ∧ Punctual narrow trying 5 20 25 vain
      (.over (.result (.failed (.timedOut narrow.patience)))) ∧
    lucky.tries.length = 3 ∧ Punctual narrow trying 5 20 25 lucky
      (.over (.result (.lent 7))) := by
  -- the third try is refused
  have hthird : (refusedTimes 2).step? (.act trying) = some (refusedTimes 3, some refusal) :=
    step?_following (by decide +kernel)
  have hvain : ((.over (.result (.failed (.timedOut narrow.patience))),
      ⟨refusedTimes 3, ⟨25, refusedTimes 2, refusal, refusedTimes 3⟩ :: refusedTwice⟩) :
        Standing Nat String × Diary Nat Nat String) ∈
      (⟨narrow.patience, 25, 25⟩ : Wait).look trying 25 {} ⟨refusedTimes 2, refusedTwice⟩ :=
    (mem_look_of_due (by decide) (by decide)).mpr ⟨refusal, _, .atOnce hthird, rfl, rfl⟩
  -- the third try takes the resource that has come back, and activates it
  have hbegins : returned.step? (.act trying) = some (following returned (.act trying), none) :=
    step?_following (by decide +kernel)
  have hends : (following returned (.act trying)).step? (.answer (.done 7)) =
      some (following (following returned (.act trying)) (.answer (.done 7)),
        some (.result (.lent 7))) :=
    step?_following (by decide +kernel)
  have hlent : returned.Attempts trying (.result (.lent 7))
      (following (following returned (.act trying)) (.answer (.done 7))) :=
    .later hbegins .refl hends (by decide +kernel)
  have hlucky : ((.over (.result (.lent 7)),
      ⟨_, ⟨25, returned, .result (.lent 7), _⟩ :: refusedTwice⟩) :
        Standing Nat String × Diary Nat Nat String) ∈
      (⟨narrow.patience, 25, 25⟩ : Wait).look trying 25 {} ⟨returned, refusedTwice⟩ :=
    (mem_look_of_due (by decide) (by decide)).mpr ⟨_, _, hlent, rfl, rfl⟩
  have hreturned : (refusedTimes 2).Leads returned := leads_foldl _ _
  have hlate := vigil_refusedTwice.look .refl (by decide) (by decide) hvain
  have hsoon := vigil_refusedTwice.look hreturned (by decide) (by decide) hlucky
  exact ⟨_, _, rfl, tries_on_time (by decide) (.inl rfl) hlate,
    rfl, tries_on_time (by decide) (.inl rfl) hsoon⟩

end

end Wait

/-! ## The clock -/

/-- The clock of a bench passes no moment at which a task has to be looked at. -/
theorem Scenario.Bench.nextMoment?_le {tasks : List Scenario.Task} {moment : Nat}
    (next : nextMoment? tasks = some moment) {task : Scenario.Task} (mem : task ∈ tasks)
    {pause : Scenario.Pause} (paused : task.pause = some pause) : moment ≤ pause.wake := by
  have hwake : pause.wake ∈ tasks.filterMap fun task => task.pause.map Scenario.Pause.wake :=
    List.mem_filterMap.mpr ⟨task, mem, congrArg (Option.map Scenario.Pause.wake) paused⟩
  exact (List.min?_eq_some_iff.mp next).2 _ hwake

end ResourcePool
