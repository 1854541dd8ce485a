import ResourcePool.Proofs.Ends.Interruption

/-!
# Returns one after another

Resources that are on loan come back one after another, also while other operations wait. With a
factory that does not panic every one of these returns ends its loan, and what is kept is put in
front of what is idle under its key. If the factory finds everything fit to be kept and there is
room, then everything is kept.

* `ComeBack` — how some returns end, with what is idle under each key.
* `comesBack_run`, `comeBack_runAll` — the return of a resource that is on loan, and of some of
  them.
* `Replies.Welcomes`, `ComesBack.welcomed`, `ComeBack.all_kept` — when everything is kept.
-/

set_option linter.unusedSectionVars false

namespace ResourcePool

variable {κ ω ε : Type} [DecidableEq κ]

/-- **A factory that finds everything that comes back fit to be kept**, and which resets it. -/
structure Replies.Welcomes (reply : Replies κ ω ε) (config : Config) (reset : κ → ω → ω) :
    Prop where
  validates : config.testOnReturn = true → ∀ calls key object,
    ∃ same, reply calls (.validate key object) = .done same
  passivates : ∀ calls key object,
    (reply calls (.passivate key object)).success? = some (reset key object)

namespace Pool

open PlainPool (isReached)

/-- **Loaned resources come back one after another**, to keys with the given idle resources: the
results, what is idle then, and the calls. -/
inductive ComeBack (config : Config) (reply : Replies κ ω ε) (isClosed : Bool) :
    (κ → List ω) → List (Request κ ω) → List (κ × ω) → List (Result ω ε) → (κ → List ω) →
      List (Request κ ω) → Prop where
  | done (idle : κ → List ω) (calls : List (Request κ ω)) :
      ComeBack config reply isClosed idle calls [] [] idle calls
  | next {key : κ} {object : ω} {returns : List (κ × ω)} {idle after : κ → List ω}
      {result : Result ω ε} {results : List (Result ω ε)} {kept : Option ω}
      {calls between last : List (Request κ ω)}
      (first : ComesBack config reply key isClosed (idle key).length calls object result 1 kept
        between)
      (rest : ComeBack config reply isClosed
        (Function.update idle key (kept.toList ++ idle key)) between returns results after last) :
      ComeBack config reply isClosed idle calls ((key, object) :: returns) (result :: results) after
        last

section returns

variable {config : Config} {reply : Replies κ ω ε}

/-- **A resource that is welcome is kept** by an open pool if there is room. -/
theorem ComesBack.welcomed {key : κ} {isClosed : Bool} {number : Nat}
    {calls last : List (Request κ ω)} {object : ω} {result : Result ω ε} {kept : Option ω}
    (comesBack : ComesBack config reply key isClosed number calls object result 1 kept last)
    (isOpen : isClosed = false) {reset : κ → ω → ω} (welcomes : reply.Welcomes config reset)
    (room : isReached config.idleLimit number = false) :
    result = .done ∧ kept = some (reset key object) := by
  cases comesBack with
  | shut closed =>
    rw [isOpen] at closed
    cases closed
  | spoiled isOpen spoils calm =>
    cases spoils with
    | invalid on invalid =>
      obtain ⟨same, hvalid⟩ := welcomes.validates on calls key object
      exact absurd hvalid (invalid same)
    | @unready cleared error clears fails =>
      have hready := welcomes.passivates cleared key object
      rw [fails] at hready
      cases hready
  | crowded isOpen readies full =>
    rw [room] at full
    cases full
  | kept isOpen readies hroom =>
    obtain ⟨-, hpassivates⟩ := readies
    exact ⟨rfl, hpassivates.symm.trans (welcomes.passivates _ key object)⟩

/-- **Everything is kept** by an open pool whose factory welcomes it, if there is room, by induction
on the returns. -/
theorem ComeBack.all_kept {isClosed : Bool} {idle after : κ → List ω} {returns : List (κ × ω)}
    {results : List (Result ω ε)} {calls last : List (Request κ ω)}
    (comeBack : ComeBack config reply isClosed idle calls returns results after last)
    (isOpen : isClosed = false) {reset : κ → ω → ω} (welcomes : reply.Welcomes config reset)
    (room : ∀ limit, config.idleLimit = some limit → ∀ key,
      (idle key).length + (listedUnder key returns).length ≤ limit) :
    (∀ result ∈ results, result = .done) ∧
      ∀ key, after key = ((listedUnder key returns).map (reset key)).reverse ++ idle key := by
  induction comeBack with
  | done idle calls => exact ⟨fun _ h => absurd h List.not_mem_nil, fun _ => rfl⟩
  | @next key object returns idle after result results kept calls between last first rest ih =>
    have hlisted : ∀ other, (listedUnder other ((key, object) :: returns)).length =
        (listedUnder other returns).length + if key = other then 1 else 0 := fun other =>
      length_listedUnder_cons other key object returns
    have hroom : isReached config.idleLimit (idle key).length = false := by
      cases hlimit : config.idleLimit with
      | none => rfl
      | some limit =>
        have hfits := room limit hlimit key
        rw [hlisted, if_pos rfl] at hfits
        exact decide_eq_false (by omega)
    obtain ⟨rfl, rfl⟩ := first.welcomed isOpen welcomes hroom
    obtain ⟨hdone, hafter⟩ := ih <| by
      intro limit hlimit other
      have hfits := room limit hlimit other
      rw [hlisted] at hfits
      by_cases hkey : key = other
      · subst hkey
        rw [if_pos rfl] at hfits
        rw [Function.update_self]
        simp only [Option.toList_some, List.length_append, List.length_singleton]
        omega
      · rw [if_neg hkey] at hfits
        rwa [Function.update_of_ne (Ne.symm hkey)]
    refine ⟨fun result hresult => ?_, fun other => ?_⟩
    · rcases List.mem_cons.mp hresult with rfl | hlater
      · rfl
      · exact hdone result hlater
    · rw [hafter, listedUnder_cons]
      by_cases hkey : key = other
      · subst hkey
        rw [Function.update_self, if_pos rfl]
        simp
      · rw [Function.update_of_ne (Ne.symm hkey), if_neg hkey]

/-- With a factory that does not panic a return is not cut short. -/
theorem ComesBack.ended_of_calm (calm : reply.Calm) {key : κ} {isClosed : Bool} {number ended : Nat}
    {calls last : List (Request κ ω)} {object : ω} {result : Result ω ε} {kept : Option ω}
    (comesBack : ComesBack config reply key isClosed number calls object result ended kept last) :
    ended = 1 := by
  rcases comesBack.ended_cases with hended | ⟨-, -, reason, -, hinterrupts⟩
  · exact hended
  · cases hinterrupts with
    | validating on panics => exact absurd panics (calm _ _ _)
    | passivating clears panics => exact absurd panics (calm _ _ _)

/-- **A resource that is on loan comes back**, and its loan is over. -/
theorem comesBack_run (calm : reply.Calm) {pool : Pool κ ω ε} {rest : List (Stage κ ω ε)}
    (orderly : Orderly pool rest) (config_eq : pool.config = config)
    (idleLimit_eq : pool.store.idleLimit = config.idleLimit) {key : κ}
    (loaned : (pool.store.live key).active ≠ 0) (object : ω) (calls : List (Request κ ω)) :
    ∃ result kept next between,
      pool.run reply.factory (.giveBack key object) calls = (result, next, between) ∧
      ComesBack config reply key pool.isClosed (pool.store.live key).idle.length calls object result
        1 kept between ∧
      next.store.live = Function.update pool.store.live key (settled pool.store key 1 kept) ∧
      Orderly next rest ∧ next.config = pool.config ∧ next.store.rules = pool.store.rules := by
  have hreturns := returns_run reply orderly.sound config_eq idleLimit_eq key loaned object calls
  have hother : Operation.giveBack key object ≠ .close := by simp
  have hkeeps := orderly.run reply.factory hother calls
  generalize hruns : pool.run reply.factory (.giveBack key object) calls = ends at hreturns hkeeps
  obtain ⟨result, next, between⟩ := ends
  obtain ⟨ended, kept, hcomesBack, hleft⟩ := hreturns
  have hended := hcomesBack.ended_of_calm calm
  subst hended
  exact ⟨result, kept, next, between, rfl, hcomesBack, hleft.live_update, hkeeps⟩

/-- **Resources that are on loan come back one after another**, by induction on the returns. Every
one of the loans is over then. -/
theorem comeBack_runAll (calm : reply.Calm) {pool : Pool κ ω ε} {rest : List (Stage κ ω ε)}
    (orderly : Orderly pool rest) (config_eq : pool.config = config)
    (idleLimit_eq : pool.store.idleLimit = config.idleLimit) (returns : List (κ × ω))
    (loaned : ∀ key, (listedUnder key returns).length ≤ (pool.store.live key).active)
    (calls : List (Request κ ω)) :
    ∃ sights last calls',
      runAll reply (returns.map fun entry => .giveBack entry.1 entry.2) (pool, calls) =
        (sights, last, calls') ∧
      ComeBack config reply pool.isClosed (fun key => (pool.store.live key).idle) calls returns
        (sights.map Sight.result) (fun key => (last.store.live key).idle) calls' ∧
      ∀ key, (last.store.live key).active + (listedUnder key returns).length =
        (pool.store.live key).active := by
  induction returns generalizing pool calls with
  | nil => exact ⟨[], pool, calls, rfl, .done _ _, fun _ => rfl⟩
  | cons entry returns ih =>
    obtain ⟨key, object⟩ := entry
    have hlisted : ∀ other, (listedUnder other ((key, object) :: returns)).length =
        (listedUnder other returns).length + if key = other then 1 else 0 := fun other =>
      length_listedUnder_cons other key object returns
    have hfirst := loaned key
    rw [hlisted, if_pos rfl] at hfirst
    have hpositive : (pool.store.live key).active ≠ 0 := by omega
    obtain ⟨result, kept, next, between, hruns, hcomesBack, hlive, horderly, hconfig, hrules⟩ :=
      comesBack_run calm orderly config_eq idleLimit_eq hpositive object calls
    have hidle : (fun other => (next.store.live other).idle) = Function.update
        (fun other => (pool.store.live other).idle) key
        (kept.toList ++ (pool.store.live key).idle) := by
      rw [hlive]
      exact Function.comp_update Slot.idle _ _ _
    have hactive : ∀ other, (next.store.live other).active + (if key = other then 1 else 0) =
        (pool.store.live other).active := by
      intro other
      rw [hlive]
      by_cases hkey : key = other
      · subst hkey
        rw [Function.update_self, if_pos rfl]
        exact Nat.sub_add_cancel (by omega)
      · rw [Function.update_of_ne (Ne.symm hkey), if_neg hkey, Nat.add_zero]
    have hloaned : ∀ other,
        (listedUnder other returns).length ≤ (next.store.live other).active := by
      intro other
      have hbefore := loaned other
      rw [hlisted, ← hactive] at hbefore
      exact Nat.le_of_add_le_add_right hbefore
    have hlimit : next.store.idleLimit = config.idleLimit :=
      (congrArg (fun rules => rules.2.1) hrules).trans idleLimit_eq
    obtain ⟨sights, last, calls', hrest, hcomeBack, hlast⟩ :=
      ih horderly (hconfig.trans config_eq) hlimit hloaned between
    have hclosed : next.isClosed = pool.isClosed := congrArg (fun rules => rules.2.2) hrules
    rw [hclosed, hidle] at hcomeBack
    refine ⟨next.sight result between :: sights, last, calls', ?_, .next hcomesBack hcomeBack,
      fun other => ?_⟩
    · rw [List.map_cons, runAll_cons hruns, hrest]
    · rw [hlisted, ← hactive, ← hlast other, Nat.add_assoc]

end returns

end Pool

end ResourcePool
