import Mathlib.Algebra.Order.Group.Multiset
import Mathlib.Tactic.Abel
import ResourcePool.Config
import ResourcePool.Factory

/-!
# The life of a resource

What may happen to one resource, from its creation to its end, is said by an automaton:
`Phase.next?` takes a resource from one phase to the next when something happens to it, and there is
no next phase for what must not happen. A sheet lists all resources of all keys with their phases,
and a trace is what happened to all of them, one thing after another.

* `Phase`, `Mark`, `Phase.next?` — the automaton.
* `Path` — a trace that the automaton accepts for every single resource, and the sheet it ends with.
* `Path.made_eq` — the sheet has exactly the resources that were created.
* `Path.accepted`, `Path.after?_of_mem` — if every resource is created once, the automaton accepts
  the itinerary of each one, which leads to the phase that the sheet gives it.
-/

set_option linter.unusedSectionVars false

namespace ResourcePool

/-! ## The automaton -/

/-- Where a resource is in its life. -/
inductive Phase where
  /-- It has not been created. -/
  | unmade
  /-- It has been created, by an addition or by a borrow. -/
  | fresh (adding : Bool)
  /-- It is being activated for a borrow. -/
  | activating
  | activated
  /-- It is being validated for a borrow. -/
  | testing
  | tested
  /-- It is on loan. -/
  | lent
  /-- It was handed back, to a pool that was open or closed. -/
  | returned (wasOpen : Bool)
  /-- It is being validated after it was handed back. -/
  | inspecting
  | inspected
  /-- It is being passivated. -/
  | passivating
  /-- It has been passivated and is fit to be idle. -/
  | parked
  /-- It has failed a step or was invalidated, and can only be destroyed. -/
  | condemned
  /-- It was given to the factory to destroy. -/
  | destroyed
  deriving DecidableEq, Repr

/-- What happens to a resource. How a destroy ends is left out: nothing can follow it. -/
inductive Mark where
  /-- The factory created it, for an addition or for a borrow. -/
  | created (adding : Bool)
  /-- The factory is called for a step with it. -/
  | called (step : Step)
  /-- The step it was called for succeeded. -/
  | succeeded
  /-- It was found unusable. -/
  | rejected
  /-- The step failed. -/
  | failed
  /-- It was lent. -/
  | lent
  /-- Its borrower returned it, to a pool that was open or closed. -/
  | returned (wasOpen : Bool)
  /-- Its borrower had it invalidated. -/
  | invalidated
  deriving DecidableEq, Repr

/-- **The automaton.** A fresh resource is activated or, in an addition, passivated. After its
activation a resource is lent, with a passed validation in between exactly if the pool tests on
borrow. From loan it comes back to an open pool, to be passivated, with a passed validation before
exactly if the pool tests on return; or it comes back to a closed pool or is invalidated, to be
destroyed. A passivated resource is activated again or destroyed. After a failed step and after a
failed validation a resource is destroyed, and nothing follows a destroy. -/
def Phase.next? (config : Config) : Phase → Mark → Option Phase
  | unmade, .created adding => some (fresh adding)
  | fresh false, .called .activate => some activating
  | fresh true, .called .passivate => some passivating
  | activating, .succeeded => some activated
  | activating, .failed => some condemned
  | activated, .called .validate => if config.testOnBorrow then some testing else none
  | activated, .lent => if config.testOnBorrow then none else some lent
  | testing, .succeeded => some tested
  | testing, .rejected | testing, .failed => some condemned
  | tested, .lent => some lent
  | lent, .returned wasOpen => some (returned wasOpen)
  | lent, .invalidated => some condemned
  | returned true, .called .validate => if config.testOnReturn then some inspecting else none
  | returned true, .called .passivate => if config.testOnReturn then none else some passivating
  | returned false, .called .destroy => some destroyed
  | inspecting, .succeeded => some inspected
  | inspecting, .rejected | inspecting, .failed => some condemned
  | inspected, .called .passivate => some passivating
  | passivating, .succeeded => some parked
  | passivating, .failed => some condemned
  | parked, .called .activate => some activating
  | parked, .called .destroy => some destroyed
  | condemned, .called .destroy => some destroyed
  | _, _ => none

/-- The phase in which a resource is lent. -/
def Config.ready (config : Config) : Phase := if config.testOnBorrow then .tested else .activated

namespace Phase

variable {config : Config} {phase next : Phase}

/-- Whether resources can be in a phase at all: without a test there is nothing to be tested by. -/
def Occurs (config : Config) : Phase → Prop
  | testing | tested => config.testOnBorrow = true
  | _ => True

/-- The automaton leads only to phases that can occur. -/
theorem next?_occurs {mark : Mark} (h : phase.next? config mark = some next)
    (occurs : phase.Occurs config) : next.Occurs config := by
  revert h
  fun_cases Phase.next? config phase mark <;> intro h <;> cases h
  all_goals trivial

/-- A resource that is ready for a borrower can be lent, whether or not it was to be tested. -/
theorem next?_ready (config : Config) : config.ready.next? config .lent = some .lent := by
  unfold Config.ready
  cases h : config.testOnBorrow with
  | true => rfl
  | false =>
    show (if config.testOnBorrow then none else some lent) = some lent
    rw [h]
    rfl

/-- A resource is created before anything else happens to it, and only then. -/
theorem next?_created {adding : Bool} (h : phase.next? config (.created adding) = some next) :
    phase = unmade ∧ next = fresh adding := by
  cases phase with
  | unmade => exact ⟨rfl, (Option.some.inj h).symm⟩
  | fresh made => cases made <;> cases h
  | returned wasOpen => cases wasOpen <;> cases h
  | _ => cases h

/-- Nothing happens to a resource before it has been created. -/
theorem next?_unmade {mark : Mark} (h : unmade.next? config mark = some next) :
    ∃ adding, mark = .created adding := by
  cases mark with
  | created adding => exact ⟨adding, rfl⟩
  | _ => cases h

/-- What has been created stays created. -/
theorem next?_ne_unmade {mark : Mark} (h : phase.next? config mark = some next) :
    next ≠ unmade := by
  rintro rfl
  revert h
  fun_cases Phase.next? config phase mark <;> simp [*]

/-- The phase that a resource is in after its itinerary, the latest mark first. There is none if the
automaton does not accept the itinerary. -/
def after? (config : Config) : List Mark → Option Phase
  | [] => some unmade
  | mark :: earlier => (after? config earlier).bind fun phase => phase.next? config mark

end Phase

/-! ## Entries under a key -/

section entries

variable {κ α β : Type} [DecidableEq κ]

/-- What some entries list under a key. -/
def under (key : κ) (entries : List (κ × α)) : Multiset α :=
  ((entries.filter fun entry => entry.1 = key).map fun entry => entry.2 : List α)

/-- No entries list nothing. -/
@[simp] theorem under_nil (key : κ) : under key ([] : List (κ × α)) = 0 := rfl

/-- What some entries and then others list. -/
theorem under_append (key : κ) (entries others : List (κ × α)) :
    under key (entries ++ others) = under key entries + under key others := by
  unfold under
  rw [List.filter_append, List.map_append, Multiset.coe_add]

/-- An entry lists its value under its key. -/
theorem under_self (key : κ) (value : α) : under key [(key, value)] = {value} := by
  unfold under
  rw [List.filter_singleton]
  simp

/-- An entry that is added lists its value. -/
theorem mem_add_under_self (rest : Multiset α) (key : κ) (value : α) :
    value ∈ rest + under key [(key, value)] := by
  rw [under_self]
  exact Multiset.mem_add.mpr (.inr (Multiset.mem_singleton_self _))

/-- An entry lists nothing under another key. -/
theorem under_of_ne {key other : κ} (ne : other ≠ key) (value : α) :
    under key [(other, value)] = 0 := by
  unfold under
  rw [List.filter_singleton]
  simp [ne]

/-- What is listed under a key is what stands in an entry with that key. -/
theorem mem_under {key : κ} {value : α} {entries : List (κ × α)} :
    value ∈ under key entries ↔ (key, value) ∈ entries := by
  unfold under
  rw [Multiset.mem_coe, List.mem_map]
  constructor
  · rintro ⟨entry, hentry, rfl⟩
    obtain ⟨hmem, hkey⟩ := List.mem_filter.mp hentry
    rw [← of_decide_eq_true hkey]
    exact hmem
  · intro hmem
    exact ⟨_, List.mem_filter.mpr ⟨hmem, decide_eq_true rfl⟩, rfl⟩

/-- What the first entry lists, and what the others list. -/
theorem under_cons (key : κ) (entry : κ × α) (entries : List (κ × α)) :
    under key (entry :: entries) = under key [entry] + under key entries :=
  under_append key [entry] entries

/-- Entries of one key are listed under that key. -/
theorem under_tagged (key : κ) (values : List α) :
    under key (values.map fun value => (key, value)) = values := by
  unfold under
  rw [List.filter_map, List.map_map]
  simp [Function.comp_def]

/-- Values tagged with one key are not listed under another. -/
theorem under_tagged_of_ne {key other : κ} (ne : other ≠ key) (values : List α) :
    under other (values.map fun value => (key, value)) = 0 := by
  unfold under
  rw [List.filter_map]
  simp [Function.comp_def, Ne.symm ne]

/-- Renaming what is listed keeps the keys. -/
theorem under_map (key : κ) (rename : α → β) (entries : List (κ × α)) :
    under key (entries.map fun entry => (entry.1, rename entry.2)) =
      (under key entries).map rename := by
  unfold under
  rw [List.filter_map, List.map_map, Multiset.map_coe, List.map_map]
  rfl

/-- The order of the entries makes no difference. -/
theorem under_perm {entries others : List (κ × α)} (perm : entries.Perm others) (key : κ) :
    under key entries = under key others :=
  Multiset.coe_eq_coe.mpr ((perm.filter _).map _)

/-- As many values are listed under a key as entries have it. -/
theorem card_under (key : κ) (entries : List (κ × α)) :
    (under key entries).card = (entries.map Prod.fst).count key := by
  unfold under
  rw [Multiset.coe_card, List.length_map, List.count_eq_countP, List.countP_map,
    List.countP_eq_length_filter]
  rfl

end entries

/-! ## Sheets and traces -/

section paths

variable {κ ι : Type} [DecidableEq κ]

/-- The resources of every key by their names, with their phases. A resource that has not been
created is not listed. -/
abbrev Sheet (κ ι : Type) := κ → Multiset (ι × Phase)

/-- The sheet of one resource in a phase. -/
def Sheet.one (key : κ) (name : ι) : Phase → Sheet κ ι
  | .unmade, _ => 0
  | phase, other => under other [(key, (name, phase))]

/-- A sheet with one resource lists it under its key and nothing elsewhere. -/
theorem Sheet.one_eq {phase : Phase} (ne : phase ≠ .unmade) (key : κ) (name : ι) (other : κ) :
    one key name phase other = under other [(key, (name, phase))] := by
  cases phase with
  | unmade => exact absurd rfl ne
  | _ => rfl

/-- Something happens to one resource of a sheet. -/
def Sheet.Marked (config : Config) (before : Sheet κ ι) (happening : κ × ι × Mark)
    (after : Sheet κ ι) : Prop :=
  ∃ (phase next : Phase) (rest : Sheet κ ι), phase.next? config happening.2.2 = some next ∧
    (∀ key, before key = rest key + one happening.1 happening.2.1 phase key) ∧
    ∀ key, after key = rest key + one happening.1 happening.2.1 next key

/-- **A trace that the automaton accepts**, the latest happening first, from an empty sheet on. -/
inductive Path (config : Config) : List (κ × ι × Mark) → Sheet κ ι → Prop where
  | nil : Path config [] fun _ => 0
  | cons {trace : List (κ × ι × Mark)} {before after : Sheet κ ι} {happening : κ × ι × Mark} :
      Path config trace before → before.Marked config happening after →
      Path config (happening :: trace) after

/-- The resource that a happening creates. -/
def made? (happening : κ × ι × Mark) : Option (κ × ι) :=
  match happening.2.2 with
  | .created _ => some (happening.1, happening.2.1)
  | _ => none

/-- The resources that are created under a key. -/
def made (key : κ) (trace : List (κ × ι × Mark)) : Multiset ι := under key (trace.filterMap made?)

/-- What the last happening created, and what was created before. -/
theorem made_cons (key : κ) (happening : κ × ι × Mark) (trace : List (κ × ι × Mark)) :
    made key (happening :: trace) =
      under key (made? happening).toList + made key trace := by
  unfold made
  cases hmade : made? happening with
  | none => rw [List.filterMap_cons_none hmade, Option.toList_none, under_nil, zero_add]
  | some entry => rw [List.filterMap_cons_some hmade, Option.toList_some, under_cons]

/-- A happening creates a resource, or it takes one from a phase to another. -/
theorem Sheet.Marked.cases {config : Config} {before after : Sheet κ ι} {key : κ} {name : ι}
    {mark : Mark} (h : before.Marked config (key, name, mark) after) :
    (∃ adding, mark = .created adding ∧
      ∀ other, after other = before other + under other [(key, (name, .fresh adding))]) ∨
    (∃ (phase next : Phase) (rest : Sheet κ ι), made? (key, name, mark) = none ∧
      phase.next? config mark = some next ∧
      (∀ other, before other = rest other + under other [(key, (name, phase))]) ∧
      ∀ other, after other = rest other + under other [(key, (name, next))]) := by
  obtain ⟨phase, next, rest, hnext, hbefore, hafter⟩ := h
  have hafter' : ∀ other, after other = rest other + under other [(key, (name, next))] := by
    intro other
    rw [hafter, one_eq (Phase.next?_ne_unmade hnext)]
  by_cases hphase : phase = .unmade
  · subst hphase
    obtain ⟨adding, rfl⟩ := Phase.next?_unmade hnext
    obtain ⟨-, rfl⟩ := Phase.next?_created hnext
    refine .inl ⟨adding, rfl, ?_⟩
    intro other
    rw [hafter', hbefore]
    exact congrArg (· + _) (add_zero _).symm
  · refine .inr ⟨phase, next, rest, ?_, hnext, ?_, hafter'⟩
    · cases mark with
      | created adding => exact absurd (Phase.next?_created hnext).1 hphase
      | _ => rfl
    · intro other
      rw [hbefore, one_eq hphase]

/-- **Nothing is lost and nothing turns up**: the sheet at the end of a path has exactly the
resources that were created. -/
theorem Path.made_eq {config : Config} {trace : List (κ × ι × Mark)} {sheet : Sheet κ ι}
    (path : Path config trace sheet) (key : κ) : made key trace = (sheet key).map Prod.fst := by
  induction path with
  | nil => rfl
  | @cons trace before after happening _ marked ih =>
    obtain ⟨place, name, mark⟩ := happening
    rw [made_cons, ih]
    have hone : ∀ phase, (under key [(place, (name, phase))]).map Prod.fst =
        under key [(place, name)] := fun phase : Phase =>
      (under_map key Prod.fst [(place, (name, phase))]).symm
    rcases marked.cases with ⟨adding, rfl, hafter⟩ | ⟨phase, next, rest, hmade, -, hbefore, hafter⟩
    · rw [hafter, Multiset.map_add, hone, add_comm]
      rfl
    · rw [hafter, hbefore, hmade, Multiset.map_add, Multiset.map_add, hone, hone]
      exact zero_add _

/-- A sheet lists no resource in a phase that does not occur. -/
theorem Path.occurs {config : Config} {trace : List (κ × ι × Mark)} {sheet : Sheet κ ι}
    (path : Path config trace sheet) {key : κ} {name : ι} {phase : Phase}
    (h : (name, phase) ∈ sheet key) : phase.Occurs config := by
  induction path generalizing phase with
  | nil => exact absurd h (Multiset.notMem_zero _)
  | @cons trace before after happening _ marked ih =>
    obtain ⟨place, resource, mark⟩ := happening
    rcases marked.cases with ⟨adding, -, hafter⟩ | ⟨old, next, rest, -, hnext, hbefore, hafter⟩
    · rw [hafter, Multiset.mem_add] at h
      rcases h with h | h
      · exact ih h
      · cases List.mem_singleton.mp (mem_under.mp h)
        trivial
    · rw [hafter, Multiset.mem_add] at h
      rcases h with h | h
      · apply ih
        rw [hbefore, Multiset.mem_add]
        exact .inl h
      · cases List.mem_singleton.mp (mem_under.mp h)
        refine Phase.next?_occurs hnext (ih ?_)
        rw [hbefore]
        exact mem_add_under_self _ _ _

/-! ## Resources that are told apart -/

section distinct

variable [DecidableEq ι]

/-- What happened to one resource, the latest first. -/
def itinerary (key : κ) (name : ι) (trace : List (κ × ι × Mark)) : List Mark :=
  (trace.filter fun happening => happening.1 = key ∧ happening.2.1 = name).map
    fun happening => happening.2.2

/-- What happens to a resource comes to the front of its itinerary. -/
theorem itinerary_self (key : κ) (name : ι) (mark : Mark) (trace : List (κ × ι × Mark)) :
    itinerary key name ((key, name, mark) :: trace) = mark :: itinerary key name trace := by
  simp [itinerary]

/-- What happens to another resource is not on it. -/
theorem itinerary_of_ne {key place : κ} {name other : ι} (ne : ¬(place = key ∧ other = name))
    (mark : Mark) (trace : List (κ × ι × Mark)) :
    itinerary key name ((place, other, mark) :: trace) = itinerary key name trace := by
  simp [itinerary, ne]

/-- No resource is created twice, under one key or under two. -/
def Distinct (trace : List (κ × ι × Mark)) : Prop :=
  ((trace.filterMap made?).map Prod.snd).Nodup

/-- What was distinct in the end was so before. -/
theorem Distinct.rest {happening : κ × ι × Mark} {trace : List (κ × ι × Mark)}
    (distinct : Distinct (happening :: trace)) : Distinct trace :=
  distinct.sublist (((List.sublist_cons_self happening trace).filterMap made?).map Prod.snd)

/-- What is created is new. -/
theorem Distinct.fresh {key : κ} {name : ι} {adding : Bool} {trace : List (κ × ι × Mark)}
    (distinct : Distinct ((key, name, .created adding) :: trace)) (other : κ) :
    name ∉ made other trace := by
  have hnew : name ∉ (trace.filterMap made?).map Prod.snd := (List.nodup_cons.mp distinct).1
  exact fun hmem => hnew (List.mem_map_of_mem (mem_under.mp hmem))

/-- No resource is created twice under one key. -/
theorem Distinct.nodup {trace : List (κ × ι × Mark)} (distinct : Distinct trace) (key : κ) :
    (made key trace).Nodup :=
  distinct.sublist (List.filter_sublist.map Prod.snd)

/-- No resource is created under two keys. -/
theorem Distinct.disjoint {trace : List (κ × ι × Mark)} (distinct : Distinct trace)
    {key other : κ} (ne : key ≠ other) {name : ι} (h : name ∈ made key trace) :
    name ∉ made other trace := fun hother =>
  ne (congrArg Prod.fst
    (List.inj_on_of_nodup_map distinct (mem_under.mp h) (mem_under.mp hother) rfl))

variable {config : Config} {trace : List (κ × ι × Mark)} {sheet : Sheet κ ι}

/-- Two entries of one resource under a key are the same. -/
theorem Path.entry_unique (path : Path config trace sheet) (distinct : Distinct trace) {key : κ}
    {name : ι} {phase other : Phase} (h : (name, phase) ∈ sheet key)
    (hother : (name, other) ∈ sheet key) : phase = other := by
  have hnodup := distinct.nodup key
  rw [path.made_eq] at hnodup
  exact congrArg Prod.snd (Multiset.inj_on_of_nodup_map hnodup _ h _ hother rfl)

/-- What happens to one resource leaves every other one in its phase. -/
theorem Sheet.Marked.other {before after : Sheet κ ι} {place key : κ} {resource name : ι}
    {mark : Mark} (marked : before.Marked config (place, resource, mark) after)
    (ne : ¬(place = key ∧ resource = name)) {phase : Phase} (h : (name, phase) ∈ before key) :
    (name, phase) ∈ after key := by
  rcases marked.cases with ⟨adding, -, hafter⟩ | ⟨old, next, rest, -, -, hbefore, hafter⟩
  · rw [hafter]
    exact Multiset.mem_add.mpr (.inl h)
  · rw [hbefore, Multiset.mem_add] at h
    rw [hafter, Multiset.mem_add]
    refine .inl (h.resolve_right ?_)
    intro hin
    have heq := List.mem_singleton.mp (mem_under.mp hin)
    injection heq with hkey hentry
    injection hentry with hname
    exact ne ⟨hkey.symm, hname.symm⟩

/-- What happens to a resource takes it from one phase to the next. -/
theorem Sheet.Marked.self {before after : Sheet κ ι} {key : κ} {name : ι} {mark : Mark}
    (marked : before.Marked config (key, name, mark) after) :
    (∃ adding, mark = .created adding ∧ (name, .fresh adding) ∈ after key) ∨
    (∃ phase next : Phase, (name, phase) ∈ before key ∧ phase.next? config mark = some next ∧
      (name, next) ∈ after key) := by
  rcases marked.cases with ⟨adding, hmark, hafter⟩ | ⟨phase, next, rest, -, hnext, hbefore, hafter⟩
  · refine .inl ⟨adding, hmark, ?_⟩
    rw [hafter]
    exact mem_add_under_self _ _ _
  · refine .inr ⟨phase, next, ?_, hnext, ?_⟩
    · rw [hbefore]
      exact mem_add_under_self _ _ _
    · rw [hafter]
      exact mem_add_under_self _ _ _

/-- **Every itinerary is accepted**, and it leads to the phase that the sheet gives the resource; a
resource that was never created has an empty itinerary. -/
theorem Path.phase_eq (path : Path config trace sheet) (distinct : Distinct trace) (key : κ)
    (name : ι) :
    (∃ phase, (name, phase) ∈ sheet key ∧
      Phase.after? config (itinerary key name trace) = some phase) ∨
    (name ∉ made key trace ∧ itinerary key name trace = []) := by
  induction path with
  | nil => exact .inr ⟨Multiset.notMem_zero name, rfl⟩
  | @cons trace before after happening path marked ih =>
    obtain ⟨place, resource, mark⟩ := happening
    have hlisted : ∀ phase, (name, phase) ∈ before key → name ∈ made key trace := by
      intro phase hmem
      rw [path.made_eq]
      exact Multiset.mem_map_of_mem Prod.fst hmem
    by_cases hsame : place = key ∧ resource = name
    · -- the resource itself: its itinerary gets longer
      obtain ⟨rfl, rfl⟩ := hsame
      left
      rw [itinerary_self]
      rcases marked.self with ⟨adding, rfl, hafter⟩ | ⟨phase, next, hbefore, hnext, hafter⟩
      · have hnew := distinct.fresh place
        rcases ih distinct.rest with ⟨phase, hmem, -⟩ | ⟨-, hempty⟩
        · exact absurd (hlisted phase hmem) hnew
        · exact ⟨_, hafter, by rw [hempty]; rfl⟩
      · refine ⟨next, hafter, ?_⟩
        rcases ih distinct.rest with ⟨found, hmem, hreached⟩ | ⟨hnone, -⟩
        · rw [path.entry_unique distinct.rest hbefore hmem] at hnext
          show (Phase.after? config _).bind _ = some next
          rw [hreached]
          exact hnext
        · exact absurd (hlisted phase hbefore) hnone
    · -- another resource: nothing is new about this one
      rw [itinerary_of_ne hsame]
      rcases ih distinct.rest with ⟨phase, hmem, hreached⟩ | ⟨hnone, hempty⟩
      · exact .inl ⟨phase, marked.other hsame hmem, hreached⟩
      · refine .inr ⟨?_, hempty⟩
        rw [made_cons, Multiset.mem_add, not_or]
        refine ⟨fun hmem => hsame ?_, hnone⟩
        have hentry := mem_under.mp hmem
        cases mark with
        | created adding =>
          have heq := List.mem_singleton.mp hentry
          injection heq with hkey hname
          exact ⟨hkey.symm, hname.symm⟩
        | _ => cases hentry

/-- Every itinerary is accepted. -/
theorem Path.accepted (path : Path config trace sheet) (distinct : Distinct trace) (key : κ)
    (name : ι) : ∃ phase, Phase.after? config (itinerary key name trace) = some phase := by
  rcases path.phase_eq distinct key name with ⟨phase, -, hreached⟩ | ⟨-, hempty⟩
  · exact ⟨phase, hreached⟩
  · refine ⟨.unmade, ?_⟩
    rw [hempty]
    rfl

/-- The phase of a resource on the sheet is the one that its itinerary leads to. -/
theorem Path.after?_of_mem (path : Path config trace sheet) (distinct : Distinct trace) {key : κ}
    {name : ι} {phase : Phase} (h : (name, phase) ∈ sheet key) :
    Phase.after? config (itinerary key name trace) = some phase := by
  rcases path.phase_eq distinct key name with ⟨found, hlisted, hreached⟩ | ⟨hunmade, -⟩
  · rw [path.entry_unique distinct h hlisted]
    exact hreached
  · rw [path.made_eq] at hunmade
    exact absurd (Multiset.mem_map_of_mem Prod.fst h) hunmade

end distinct

end paths

end ResourcePool
