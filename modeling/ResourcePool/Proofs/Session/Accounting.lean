import ResourcePool.Proofs.Session.Runs

/-!
# Accounting and ownership

What the books of a run say about the pool and about its resources. Between operations the counts
of the pool are those of the ledgers, every resource is in one place, and what happened to it is a
life that a resource may lead.

* `accounted_at_rest` — the counts of a pool between operations.
* `owned_once` — a resource is in one place, once.
* `follows_protocol` — what happens to a resource is accepted by the automaton.
-/

set_option linter.unusedSectionVars false

namespace ResourcePool.Session

variable {κ ω ε ι : Type} [DecidableEq κ] [DecidableEq ι]

section

variable {config : Config} {ident : ω → ι} {log : List (Move κ ω ε)} {session : Session κ ω ε}

/-! ## Places -/

/-- The resources of a key in the places where they stay between operations: they are idle, on loan
to a client itself, in a guard, or destroyed. -/
def places (ident : ω → ι) (log : List (Move κ ω ε)) (session : Session κ ω ε) (key : κ) :
    Multiset ι :=
  idle ident key session + loans ident key log + guarded ident key session + destroyed ident key log

/-- The resources in guards, by their names. -/
theorem guarded_eq (ident : ω → ι) (session : Session κ ω ε) (key : κ) :
    (under key (session.guards.map fun entry =>
      (entry.2.key, (entry.2.object, Phase.lent)))).map (fun value => ident value.1) =
      guarded ident key session := by
  have hlisted : (session.guards.map fun entry =>
      (entry.2.key, (entry.2.object, Phase.lent))) =
      (session.guards.map fun entry => (entry.2.key, entry.2.object)).map fun entry =>
        (entry.1, (entry.2, Phase.lent)) := by
    rw [List.map_map]
    rfl
  rw [hlisted, under_map key fun object => (object, Phase.lent), Multiset.map_map]
  rfl

/-- What was created is in the places, and the rest of it in the hands of an operation. -/
theorem Kept.created_eq {frames : List (Frame κ ω ε)} (kept : Kept config ident log session frames)
    (key : κ) : created ident key log = places ident log session key +
      (under key (handsOf config frames [])).map fun value => ident value.1 := by
  have hstock : (session.pool.stock key).map (fun value => ident value.1) =
      idle ident key session := by
    unfold Pool.stock idle
    rw [Multiset.map_map]
    rfl
  rw [← made_trace, kept.custody.path.made_eq]
  unfold sheetOf places
  rw [Multiset.map_add, Multiset.map_add, Multiset.map_map, Multiset.map_map, Multiset.map_map,
    handsOf_guards, under_append, Multiset.map_add, Multiset.map_add]
  have hguarded := guarded_eq ident session key
  simp only [Function.comp_def, Multiset.map_id'] at hstock hguarded ⊢
  rw [hstock, hguarded]
  abel

/-- **Between operations** everything that was created is in its place, and the loans of the store
are those of clients and guards. -/
theorem Kept.at_rest {frames : List (Frame κ ω ε)} (kept : Kept config ident log session frames)
    (rest : session.running = []) (key : κ) :
    created ident key log = places ident log session key ∧
      session.pool.numActive key =
        (loans ident key log).card + (guarded ident key session).card := by
  have hframes : frames = [] := List.map_eq_nil_iff.mp (kept.scene.running_eq.trans rest)
  subst hframes
  constructor
  · rw [kept.created_eq key]
    exact add_zero _
  · have hactive := kept.custody.active_eq key
    have hguards : (outOf config ([] : List (Frame κ ω ε)) session.guards).count key =
        (guarded ident key session).card := by
      unfold guarded
      rw [Multiset.card_map, card_under, List.map_map]
      rfl
    unfold Pool.numActive
    rw [Store.numActive_eq, hactive, hguards]
    show 0 + _ + _ = _
    omega

/-! ## The counts of the pool -/

/-- A client hands back part of what it holds. -/
theorem handsBack_le {move : Move κ ω ε}
    (held : ∀ entry ∈ move.handsBack, ident entry.2 ∈ loans ident entry.1 log) (key : κ) :
    (under key move.handsBack).map ident ≤ loans ident key log := by
  obtain ⟨before, event, after, reply⟩ := move
  cases event with
  | answer answer => exact Multiset.zero_le _
  | act action =>
    cases action with
    | call operation =>
      rcases operation_cases operation with ⟨place, object, rfl | rfl⟩ | ⟨-, -, hback⟩
      · exact under_one_le (fun key => loans ident key log) (held _ List.mem_cons_self) key
      · exact under_one_le (fun key => loans ident key log) (held _ List.mem_cons_self) key
      · have hnone : (Move.mk before (.act (.call operation)) after reply).handsBack = [] := hback
        rw [hnone]
        exact Multiset.zero_le _
    | _ => exact Multiset.zero_le _

/-- Under coarser names a client hands back what it holds all the same. -/
theorem linear_rename {ι' : Type} [DecidableEq ι'] (rename : ι → ι') (linear : Linear ident log) :
    (∀ key, loans (fun object => rename (ident object)) key log =
      (loans ident key log).map rename) ∧
    Linear (fun object => rename (ident object)) log := by
  induction log with
  | nil => exact ⟨fun _ => rfl, trivial⟩
  | cons move log ih =>
    obtain ⟨hheld, hlinear⟩ := linear
    obtain ⟨hloans, hrest⟩ := ih hlinear
    refine ⟨?_, ?_, hrest⟩
    · intro key
      have hback := Multiset.sub_add_cancel (handsBack_le hheld key)
      have hrenamed := congrArg (Multiset.map rename) hback
      rw [Multiset.map_add, Multiset.map_map, ← hloans] at hrenamed
      show _ - _ + _ = Multiset.map rename (_ - _ + _)
      rw [Multiset.map_add, Multiset.map_map, ← hrenamed]
      exact congrArg (· + _) Multiset.add_sub_cancel_right
    · intro entry hentry
      rw [hloans]
      exact Multiset.mem_map_of_mem rename (hheld entry hentry)

/-- **The accounts of a pool.** Between operations the loans that it counts under a key are the
resources that clients hold themselves and those in guards; together with the idle ones they are
those created under the key, less those destroyed under it. No return is ever refused for want of a
loan, neither to a client nor in a note about a guard. -/
theorem accounted_at_rest (history : History config log session) (calm : Calm log)
    (linear : Linear ident log) :
    (session.running = [] → ∀ key,
      session.pool.numActive key = (loans ident key log).card + (guarded ident key session).card ∧
      session.pool.numActive key + session.pool.numIdle key + (destroyed ident key log).card =
        (created ident key log).card) ∧
    (∀ move ∈ log, move.reply ≠ some (.result (.failed .notBorrowed))) ∧
    ∀ entry ∈ session.pool.notes, ¬entry.TellsRefusal := by
  -- the counts are the same when no resource is told from another
  obtain ⟨hloans, hlinear⟩ := linear_rename (fun _ : ι => ()) linear
  obtain ⟨⟨frames, kept⟩, hreplies⟩ := history_kept history calm hlinear fun _ _ _ _ => rfl
  refine ⟨?_, hreplies, kept.scene.notes⟩
  intro rest key
  obtain ⟨hcreated, hactive⟩ := kept.at_rest rest key
  have hcards := congrArg Multiset.card hcreated
  unfold places idle guarded destroyed created at hcards
  rw [hloans] at hcards hactive
  unfold guarded at hactive
  unfold guarded destroyed created Pool.numIdle
  rw [Store.numIdle_eq]
  simp only [Multiset.card_add, Multiset.card_map, Multiset.coe_card] at hcards hactive ⊢
  omega

/-- A pool that tests resources whenever it can. -/
def tested : Config := Config.standard.withTestOnBorrow.withTestOnReturn

/-- The events of a short run. The resource 7 comes back while a borrow waits for 8; it is found
unusable when it is to be lent again, and 9 is lent in a guard instead; then 8 comes back. The
resource 5 of another key is still on loan in the end. -/
def errands : List (Event Nat Nat String) :=
  [.act (.call (.borrow 0)), .answer (.done 7), .answer (.done 7), .answer (.done 7),
    .act (.get 0), .answer (.done 8), .act (.call (.giveBack 0 7)), .answer (.done 7),
    .answer (.done 7), .answer (.done 8), .answer (.done 8),
    .act (.get 0), .answer (.done 7), .answer (.refused 7), .answer (.done 7), .answer (.done 9),
    .answer (.done 9), .answer (.done 9),
    .act (.release 0), .answer (.done 8), .answer (.done 8),
    .act (.call (.borrow 1)), .answer (.done 5), .answer (.done 5), .answer (.done 5)]

/-- The run is what all theorems ask for, and its ledgers are these. -/
theorem replay_errands : ∃ log session, replay tested errands = some (log, session) ∧
    Calm log ∧ Linear id log ∧ KeepsNames id log ∧ FreshNames id log ∧ session.running = [] ∧
    created id 0 log = {7, 8, 9} ∧ idle id 0 session = {8} ∧ loans id 0 log = 0 ∧
    guarded id 0 session = {9} ∧ destroyed id 0 log = {7} := by
  have hfits : ∀ past ∈ replay tested errands, Calm past.1 ∧ Linear id past.1 ∧
      KeepsNames id past.1 ∧ FreshNames id past.1 ∧ past.2.running.isEmpty = true ∧
      created id 0 past.1 = {7, 8, 9} ∧ idle id 0 past.2 = {8} ∧ loans id 0 past.1 = 0 ∧
      guarded id 0 past.2 = {9} ∧ destroyed id 0 past.1 = {7} := by
    decide +kernel
  have hplays : (replay tested errands).isSome = true := by
    decide +kernel
  obtain ⟨past, hpast⟩ := Option.isSome_iff_exists.mp hplays
  obtain ⟨hcalm, hlinear, hkeeps, hfresh, hrest, hledgers⟩ := hfits past hpast
  exact ⟨past.1, past.2, hpast, hcalm, hlinear, hkeeps, hfresh, List.isEmpty_iff.mp hrest,
    hledgers⟩

/-- In the end there is one loan in a guard, and three resources were created for it. -/
theorem accounted_after_errands : ∃ log session, replay tested errands = some (log, session) ∧
    session.pool.numActive 0 = 0 + 1 ∧
    session.pool.numActive 0 + session.pool.numIdle 0 + 1 = 3 ∧
    ∀ move ∈ log, move.reply ≠ some (.result (.failed .notBorrowed)) := by
  obtain ⟨log, session, hreplay, hcalm, hlinear, -, -, hrest, hcreated, -, hloans, hguarded,
    hgone⟩ := replay_errands
  obtain ⟨hcounts, hreplies, -⟩ := accounted_at_rest (history_of_replay hreplay) hcalm hlinear
  obtain ⟨hactive, htotal⟩ := hcounts hrest 0
  rw [hloans, hguarded] at hactive
  rw [hgone, hcreated] at htotal
  exact ⟨log, session, hreplay, hactive, htotal, hreplies⟩

/-! ## Owners -/

/-- **Every resource has one owner.** At any time no resource is in two places or twice in one, and
only what was created is in any. Between operations everything that was ever created is in one place
of its own key, once. -/
theorem owned_once (history : History config log session) (calm : Calm log)
    (linear : Linear ident log) (keeps : KeepsNames ident log) (fresh : FreshNames ident log) :
    (∀ key, (places ident log session key).Nodup ∧
      places ident log session key ≤ created ident key log) ∧
    (∀ key other name, key ≠ other → name ∈ places ident log session key →
      name ∉ places ident log session other) ∧
    (session.running = [] → ∀ key name, name ∈ created ident key log →
      (places ident log session key).count name = 1) := by
  obtain ⟨⟨frames, kept⟩, -⟩ := history_kept history calm linear keeps
  have hdistinct := distinct_trace ident fresh
  have hnodup : ∀ key, (created ident key log).Nodup := fun key =>
    made_trace ident key log ▸ hdistinct.nodup key
  have hle : ∀ key, places ident log session key ≤ created ident key log := by
    intro key
    rw [kept.created_eq key]
    exact Multiset.le_add_right _ _
  refine ⟨fun key => ⟨Multiset.nodup_of_le (hle key) (hnodup key), hle key⟩, ?_, ?_⟩
  · intro key other name ne hmem hother
    have hmade : ∀ {place}, name ∈ places ident log session place →
        name ∈ made place (trace ident log) := fun {place} hplace => by
      rw [made_trace]
      exact Multiset.mem_of_le (hle place) hplace
    exact hdistinct.disjoint ne (hmade hmem) (hmade hother)
  · intro rest key name hcreated
    rw [← (kept.at_rest rest key).1]
    exact Multiset.count_eq_one_of_mem (hnodup key) hcreated

/-- The resource in the guard is nowhere else, and neither is the one that was destroyed. -/
theorem owned_once_after_errands : ∃ log session, replay tested errands = some (log, session) ∧
    (places id log session 0).count 9 = 1 ∧ (places id log session 0).count 7 = 1 ∧
    9 ∉ places id log session 1 := by
  obtain ⟨log, session, hreplay, hcalm, hlinear, hkeeps, hfresh, hrest, hcreated, -⟩ :=
    replay_errands
  obtain ⟨-, helsewhere, honce⟩ :=
    owned_once (history_of_replay hreplay) hcalm hlinear hkeeps hfresh
  have hnine : (places id log session 0).count 9 = 1 := by
    apply honce hrest 0 9
    rw [hcreated]
    decide
  have hseven : (places id log session 0).count 7 = 1 := by
    apply honce hrest 0 7
    rw [hcreated]
    decide
  have hheld : 9 ∈ places id log session 0 := Multiset.one_le_count_iff_mem.mp hnine.ge
  exact ⟨log, session, hreplay, hnine, hseven, helsewhere 0 1 9 (by decide) hheld⟩

/-! ## Lives -/

section listed

variable (ident : ω → ι) (pool : Pool κ ω ε) (hands : List (κ × ω × Phase))
  (lent gone : κ → Multiset ι) {key : κ} {name : ι}

/-- Idle resources are on the sheet as passivated, and so on. -/
theorem mem_sheetOf_idle
    (h : name ∈ ((pool.store.live key).idle : Multiset ω).map ident) :
    (name, .parked) ∈ sheetOf ident pool hands lent gone key := by
  obtain ⟨object, hobject, rfl⟩ := Multiset.mem_map.mp h
  have hstock : (object, Phase.parked) ∈ pool.stock key + under key hands :=
    Multiset.mem_add.mpr (.inl (Multiset.mem_map_of_mem _ hobject))
  refine Multiset.mem_add.mpr (.inl (Multiset.mem_add.mpr (.inl ?_)))
  exact Multiset.mem_map.mpr ⟨_, hstock, rfl⟩

/-- What is on loan stands on the sheet as lent. -/
theorem mem_sheetOf_lent (h : name ∈ lent key) :
    (name, .lent) ∈ sheetOf ident pool hands lent gone key :=
  Multiset.mem_add.mpr (.inl (Multiset.mem_add.mpr (.inr (Multiset.mem_map_of_mem _ h))))

/-- What is gone stands on it as destroyed. -/
theorem mem_sheetOf_gone (h : name ∈ gone key) :
    (name, .destroyed) ∈ sheetOf ident pool hands lent gone key :=
  Multiset.mem_add.mpr (.inr (Multiset.mem_map_of_mem _ h))

end listed

/-- **Every resource leads a life that it may lead.** What happened to it is accepted by the
automaton, in the middle of operations too. While it is idle it has been passivated and nothing has
happened to it since; while a client or a guard holds it, it was lent last; and nothing follows a
destroy. -/
theorem follows_protocol (history : History config log session) (calm : Calm log)
    (linear : Linear ident log) (keeps : KeepsNames ident log) (fresh : FreshNames ident log)
    (key : κ) (name : ι) :
    (∃ phase, Phase.after? config (itinerary key name (trace ident log)) = some phase) ∧
    (name ∈ idle ident key session →
      Phase.after? config (itinerary key name (trace ident log)) = some .parked) ∧
    (name ∈ loans ident key log ∨ name ∈ guarded ident key session →
      Phase.after? config (itinerary key name (trace ident log)) = some .lent) ∧
    (name ∈ destroyed ident key log →
      Phase.after? config (itinerary key name (trace ident log)) = some .destroyed) := by
  obtain ⟨⟨frames, kept⟩, -⟩ := history_kept history calm linear keeps
  have hpath := kept.custody.path
  have hdistinct := distinct_trace ident fresh
  refine ⟨hpath.accepted hdistinct key name, ?_, ?_, ?_⟩
  · intro hidle
    exact hpath.after?_of_mem hdistinct (mem_sheetOf_idle ident session.pool _ _ _ hidle)
  · rintro (hlent | hguarded)
    · exact hpath.after?_of_mem hdistinct (mem_sheetOf_lent ident session.pool _ _ _ hlent)
    · obtain ⟨object, hobject, rfl⟩ := Multiset.mem_map.mp hguarded
      obtain ⟨entry, hentry, heq⟩ := List.mem_map.mp (mem_under.mp hobject)
      cases heq
      refine hpath.after?_of_mem hdistinct (mem_sheetOf ident session.pool _ _ _ ?_)
      rw [handsOf_guards]
      exact List.mem_append_right _ (List.mem_map_of_mem hentry)
  · intro hgone
    exact hpath.after?_of_mem hdistinct (mem_sheetOf_gone ident session.pool _ _ _ hgone)

/-- The resource that was found unusable has been destroyed, the returned one is idle, and the one
in the guard has been lent. -/
theorem protocol_of_errands : ∃ log session, replay tested errands = some (log, session) ∧
    Phase.after? tested (itinerary 0 7 (trace id log)) = some .destroyed ∧
    Phase.after? tested (itinerary 0 8 (trace id log)) = some .parked ∧
    Phase.after? tested (itinerary 0 9 (trace id log)) = some .lent := by
  obtain ⟨log, session, hreplay, hcalm, hlinear, hkeeps, hfresh, -, -, hidle, -, hguarded, hgone⟩ :=
    replay_errands
  have hlives := fun name : Nat =>
    follows_protocol (history_of_replay hreplay) hcalm hlinear hkeeps hfresh 0 name
  refine ⟨log, session, hreplay, (hlives 7).2.2.2 ?_, (hlives 8).2.1 ?_, (hlives 9).2.2.1 (.inr ?_)⟩
  · rw [hgone]
    decide
  · rw [hidle]
    decide
  · rw [hguarded]
    decide

end

end ResourcePool.Session
