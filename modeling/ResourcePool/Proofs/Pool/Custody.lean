import ResourcePool.Proofs.Lifecycle
import ResourcePool.Proofs.Pool.Reservations

/-!
# Custody

Every resource that an operation has in hand goes somewhere: among the idle resources, into the next
call of the factory, or out on loan. This module follows the resources and the loans through every
turn of an operation, as long as no factory step panics and a resource comes back only while there
is a loan for it.

* `Stage.subject?`, `Stage.queue`, `Stage.answered` — the resources that a waiting operation has in
  hand, before and after its call is answered, with their phases.
* `Progress.Takes` — what a turn does with the resource that it deals with last.
* `Pool.Turn.Balanced` — nothing is lost and nothing counted twice in a turn. There is one lemma for
  each function of the pool, up to `Pool.balanced_start` and `Pool.balanced_resume`.
-/

set_option linter.unusedSectionVars false

namespace ResourcePool

variable {κ ω ε : Type}

/-! ## What an operation has in hand -/

namespace Stage

/-- The resource that the factory is called for, in the phase that the call puts it into. -/
def subject? : Stage κ ω ε → Option (κ × ω × Phase)
  | activating checkout _ object => some (checkout.key, object, .activating)
  | validating checkout _ object => some (checkout.key, object, .testing)
  | inspecting key _ object => some (key, object, .inspecting)
  | passivating key _ object | parking key _ object => some (key, object, .passivating)
  | destroying key object _ => some (key, object, .destroyed)
  | _ => none

/-- The resources that have been taken out and are still to be destroyed. -/
def queue : Stage κ ω ε → List (κ × ω)
  | destroying _ _ (.quietly (.sweep rest _)) => rest
  | _ => []

/-- The resource that will be lent when the operation is over, if that is already known. -/
def lent? (stage : Stage κ ω ε) : Option ω := stage.outcome?.bind Result.lent?

end Stage

/-- Idle resources that have been taken out, in their phase. -/
def parked (entries : List (κ × ω)) : List (κ × ω × Phase) :=
  entries.map fun entry => (entry.1, (entry.2, .parked))

/-- What an operation has in hand while its call is not answered. A resource that the factory is
called to destroy is gone already. -/
def Stage.inHand : Stage κ ω ε → List (κ × ω × Phase)
  | destroying key object aftermath => parked (destroying key object aftermath).queue
  | stage => stage.subject?.toList

/-- What an operation has in hand after its call was answered, in the phase that the answer puts it
into. -/
def Stage.answered : Stage κ ω ε → Answer ω ε → List (κ × ω × Phase)
  | creating checkout _, .done object | creating checkout _, .refused object =>
    [(checkout.key, (object, .fresh false))]
  | activating checkout _ _, .done object | activating checkout _ _, .refused object =>
    [(checkout.key, (object, .activated))]
  | activating checkout _ object, .failed _ => [(checkout.key, (object, .condemned))]
  | validating checkout _ object, .done _ => [(checkout.key, (object, .tested))]
  | validating checkout _ object, .refused _ | validating checkout _ object, .failed _ =>
    [(checkout.key, (object, .condemned))]
  | inspecting key _ object, .done _ => [(key, (object, .inspected))]
  | inspecting key _ object, .refused _ | inspecting key _ object, .failed _ =>
    [(key, (object, .condemned))]
  | passivating key _ _, .done object | passivating key _ _, .refused object =>
    [(key, (object, .parked))]
  | passivating key _ object, .failed _ => [(key, (object, .condemned))]
  | making key _, .done object | making key _, .refused object => [(key, (object, .fresh true))]
  | parking key _ _, .done object | parking key _ _, .refused object => [(key, (object, .parked))]
  | parking key _ object, .failed _ => [(key, (object, .condemned))]
  | destroying key object aftermath, _ => parked (destroying key object aftermath).queue
  | _, _ => []

namespace Progress

/-- The resources that have been taken out and are still to be destroyed. -/
def queue : Progress κ ω ε → List (κ × ω)
  | waiting stage => stage.queue
  | finished _ => []

/-- The resource that is lent, or will be when the operation is over. -/
def lent? (progress : Progress κ ω ε) : Option ω := progress.outcome?.bind Result.lent?

/-- The key under which a borrow that is over has lent a resource. -/
def lentUnder (own : Option (Checkout κ)) : Progress κ ω ε → Option κ
  | finished (.lent _) => own.map Checkout.key
  | _ => none

/-- **What a turn does with the resource it deals with last**, in the phase before that: the factory
is called for it, or it is lent. -/
inductive Takes (config : Config) (own : Option (Checkout κ)) :
    Progress κ ω ε → List (κ × ω × Phase) → Prop where
  | asks {stage : Stage κ ω ε} {key : κ} {object : ω} {phase next : Phase}
      (subject : stage.subject? = some (key, object, next))
      (called : phase.next? config (.called stage.request.step) = some next) :
      Takes config own (waiting stage) [(key, (object, phase))]
  | makes {stage : Stage κ ω ε} (subject : stage.subject? = none) :
      Takes config own (waiting stage) []
  | lends {checkout : Checkout κ} {object : ω} (own_eq : own = some checkout) :
      Takes config own (finished (.lent object)) [(checkout.key, (object, config.ready))]
  | ends {result : Result ω ε} (nothing : own = none ∨ result.lent? = none) :
      Takes config own (finished result) []

end Progress

/-- The key of the loan that an operation ends. -/
def Operation.loan? : Operation κ ω → Option κ
  | giveBack key _ | invalidate key _ => some key
  | _ => none

/-- The resource that an operation takes from its client, in the phase that it comes in. -/
def Operation.given (isClosed : Bool) : Operation κ ω → List (κ × ω × Phase)
  | giveBack key object => [(key, (object, .returned !isClosed))]
  | invalidate key object => [(key, (object, .condemned))]
  | _ => []

/-- Whether a note tells that a resource was returned with nothing on loan. -/
def Note.TellsRefusal : Note κ ε → Prop
  | returnedUnborrowed _ => True
  | returnFailed _ .notBorrowed => True
  | _ => False

variable [DecidableEq κ]

/-- How many loans of a key an operation answers for. -/
def owing (key : κ) (loan : Option κ) : Nat := if loan = some key then 1 else 0

/-- An operation that answers for no loan owes none. -/
@[simp] theorem owing_none (key : κ) : owing key none = 0 := rfl

/-- A loan is owed under its key. -/
theorem owing_self (key : κ) : owing key (some key) = 1 := if_pos rfl

/-- It is owed under no other key. -/
theorem owing_of_ne {key other : κ} (ne : other ≠ key) : owing other (some key) = 0 := by
  simp [owing, Ne.symm ne]

namespace Pool

/-- The idle resources of a key, in their phase. -/
def stock (pool : Pool κ ω ε) (key : κ) : Multiset (ω × Phase) :=
  ((pool.store.live key).idle : Multiset ω).map fun object => (object, .parked)

/-! ## Balanced turns -/

/-- **What one turn of an operation makes of the loans and the resources.** The operation answered
for the loan of a key `loan` and had `given` in hand when the turn began. The loans of the store are
as many as before, but for those that the operation gives up or makes; and what it had in hand is
idle, still in hand, in the next call or lent. -/
structure Turn.Balanced (pool : Pool κ ω ε) (own : Option (Checkout κ)) (loan : Option κ)
    (given : List (κ × ω × Phase)) (owed : Option ω) (turn : Turn κ ω ε) : Prop where
  loans : ∀ key, (turn.1.store.live key).active + owing key loan =
    (pool.store.live key).active + owing key (turn.2.foothold?.map Prod.fst) +
      owing key (turn.2.lentUnder own)
  linked : ∀ key slot, turn.2.foothold? = some (key, slot) →
    turn.1.store.find? key = some slot
  objects : ∃ taken, turn.2.Takes pool.config own taken ∧
    ∀ key, turn.1.stock key + under key (parked turn.2.queue) + under key taken =
      pool.stock key + under key given
  owes : own = none → turn.2.lent? = owed
  unrefused : turn.2.outcome? ≠ some (.failed .notBorrowed)
  notes : ∀ entry ∈ turn.1.notes, entry ∈ pool.notes ∨ ¬entry.TellsRefusal

section composition

variable {pool : Pool κ ω ε} {own : Option (Checkout κ)} {loan loan' : Option κ}
  {given given' : List (κ × ω × Phase)} {owed : Option ω} {turn : Turn κ ω ε}

/-- Counting an event is nothing to the balance. -/
theorem Turn.Balanced.counted {event : Counter}
    (h : Turn.Balanced (pool.count event) own loan given owed turn) :
    Turn.Balanced pool own loan given owed turn :=
  ⟨h.loans, h.linked, h.objects, h.owes, h.unrefused, h.notes⟩

/-- Making a note is nothing to the balance, unless it tells of a refusal. -/
theorem Turn.Balanced.noted {entry : Note κ ε}
    (h : Turn.Balanced (pool.note entry) own loan given owed turn) (routine : ¬entry.TellsRefusal) :
    Turn.Balanced pool own loan given owed turn := by
  refine ⟨h.loans, h.linked, h.objects, h.owes, h.unrefused, ?_⟩
  intro other hother
  rcases h.notes other hother with hnoted | hroutine
  · rcases List.mem_cons.mp hnoted with rfl | hbefore
    · exact .inr routine
    · exact .inl hbefore
  · exact .inr hroutine

/-- A change of the store before a turn. -/
theorem Turn.Balanced.after {next : Store κ ω}
    (second : Turn.Balanced { pool with store := next } own loan' given' owed turn)
    (loans : ∀ key, (next.live key).active + owing key loan =
      (pool.store.live key).active + owing key loan')
    (objects : ∀ key, ({ pool with store := next } : Pool κ ω ε).stock key + under key given' =
      pool.stock key + under key given) :
    Turn.Balanced pool own loan given owed turn := by
  refine ⟨?_, second.linked, ?_, second.owes, second.unrefused, second.notes⟩
  · intro key
    have hfirst := loans key
    have hsecond : (turn.1.store.live key).active + owing key loan' =
      (next.live key).active + _ + _ := second.loans key
    omega
  · obtain ⟨taken, htakes, hobjects⟩ := second.objects
    refine ⟨taken, htakes, ?_⟩
    intro key
    rw [hobjects, objects]

/-- The case of a change under one key, where the operation trades resources of that key. -/
theorem Turn.Balanced.after_update {next : Store κ ω} {key : κ} {slot : Slot ω}
    (values values' : List (ω × Phase))
    (second : Turn.Balanced { pool with store := next } own loan'
      (values'.map fun value => (key, value)) owed turn)
    (first : pool.store.Becomes next (Function.update pool.store.live key slot))
    (loans : slot.active + owing key loan = (pool.store.live key).active + owing key loan')
    (elsewhere : ∀ other, other ≠ key → owing other loan = owing other loan')
    (objects : (slot.idle : Multiset ω).map (fun object => (object, Phase.parked)) +
      (values' : Multiset (ω × Phase)) = pool.stock key + (values : Multiset (ω × Phase))) :
    Turn.Balanced pool own loan (values.map fun value => (key, value)) owed turn := by
  refine second.after ?_ ?_
  · intro other
    rw [first.live_eq]
    by_cases hkey : other = key
    · rw [hkey, Function.update_self]
      exact loans
    · rw [Function.update_of_ne hkey, elsewhere other hkey]
  · intro other
    unfold stock
    show ((next.live other).idle : Multiset ω).map _ + _ = _
    rw [first.live_eq]
    by_cases hkey : other = key
    · rw [hkey, Function.update_self, under_tagged, under_tagged]
      exact objects
    · rw [Function.update_of_ne hkey, under_tagged_of_ne hkey, under_tagged_of_ne hkey]

end composition

section turns

variable (pool : Pool κ ω ε)

/-- An operation that ends with nothing in hand is balanced. -/
theorem balanced_finish (own : Option (Checkout κ)) (result : Result ω ε)
    (nothing : own = none ∨ result.lent? = none) (ne : result ≠ .failed .notBorrowed) :
    Turn.Balanced pool own none [] result.lent? (pool.finish result) where
  loans key := by
    have hnone : (pool.finish result).2.lentUnder own = none := by
      rcases nothing with rfl | hlent
      · cases result <;> rfl
      · cases result <;> first | rfl | cases hlent
    rw [hnone]
    rfl
  linked _ _ h := by cases h
  objects := by
    refine ⟨[], .ends nothing, ?_⟩
    intro key
    show pool.stock key + 0 + 0 = pool.stock key + 0
    rw [add_zero, add_zero]
  owes _ := rfl
  unrefused h := ne (Option.some.inj h)
  notes _ h := .inl h

/-- An operation that waits has in hand what it asks for and what is to be destroyed after that. -/
theorem balanced_await (own : Option (Checkout κ)) (stage : Stage κ ω ε)
    {taken : List (κ × ω × Phase)} (takes : (Progress.waiting stage).Takes pool.config own taken)
    (linked : ∀ key slot, stage.foothold? = some (key, slot) → pool.store.find? key = some slot)
    (unrefused : stage.outcome? ≠ some (.failed .notBorrowed)) :
    Turn.Balanced pool own (stage.foothold?.map Prod.fst) (taken ++ parked stage.queue) stage.lent?
      (pool.await stage) where
  loans _ := rfl
  linked := linked
  objects := by
    refine ⟨taken, takes, ?_⟩
    intro key
    rw [under_append, add_comm (under key taken), ← add_assoc]
    rfl
  owes _ := rfl
  unrefused := unrefused
  notes _ h := .inl h

/-- A resource is given to the factory to destroy in any phase that allows it. -/
theorem balanced_destroy (own : Option (Checkout κ)) (key : κ) (object : ω)
    (aftermath : Aftermath κ ω ε) (phase : Phase)
    (dies : phase.next? pool.config (.called .destroy) = some .destroyed)
    (unrefused : (Stage.destroying key object aftermath).outcome? ≠
      some (.failed .notBorrowed)) :
    Turn.Balanced pool own none
      ((key, (object, phase)) :: parked (Stage.destroying key object aftermath).queue)
      (Stage.destroying key object aftermath).lent? (pool.destroy key object aftermath) :=
  (balanced_await (pool.count .destroyed) own (.destroying key object aftermath)
    (.asks rfl dies) (fun _ _ h => nomatch h) unrefused).counted

/-! ### Borrowing -/

/-- A borrow that is about to create has nothing in hand. -/
theorem balanced_tryFresh (sound : pool.store.Sound) (own : Option (Checkout κ))
    {checkout : Checkout κ} (hid : pool.store.find? checkout.key = some checkout.slot)
    (attempt : Nat) :
    Turn.Balanced pool own none [] none (pool.tryFresh checkout attempt) := by
  unfold tryFresh
  split
  · exact balanced_await pool own (.creating checkout attempt) (.makes rfl)
      (fun _ _ h => nomatch h) nofun
  · have hfinish := balanced_finish (pool.abandon checkout) own (.failed .exhausted) (.inr rfl)
      (by simp)
    exact hfinish.after_update [] [] (becomes_abandon pool sound hid) rfl (fun _ _ => rfl) rfl

/-- Taking an idle resource leaves the others. -/
theorem stock_take {key : κ} {object : ω} {rest : Slot ω} {selection : Selection}
    (h : (pool.store.live key).take? selection = some (object, rest)) :
    (rest.idle : Multiset ω).map (fun object => (object, Phase.parked)) + {(object, .parked)} =
      pool.stock key := by
  have hperm := Multiset.coe_eq_coe.mpr (Slot.take?_eq_some h).1
  unfold stock
  rw [hperm, ← Multiset.cons_coe, Multiset.map_cons, ← Multiset.singleton_add, add_comm]

/-- A resource that comes in is one more. -/
theorem stock_push (key : κ) (object : ω) :
    (((pool.store.live key).push object).idle : Multiset ω).map
        (fun object => (object, Phase.parked)) =
      pool.stock key + {(object, .parked)} := by
  show Multiset.map _ (↑(object :: (pool.store.live key).idle) : Multiset ω) = _
  rw [← Multiset.cons_coe, Multiset.map_cons, ← Multiset.singleton_add, add_comm]
  rfl

/-- The candidate that a borrow takes out goes into the next call. -/
theorem balanced_tryIdle (sound : pool.store.Sound) (own : Option (Checkout κ))
    {checkout : Checkout κ} (hid : pool.store.find? checkout.key = some checkout.slot) :
    Turn.Balanced pool own none [] none (pool.tryIdle checkout) := by
  unfold tryIdle
  rcases Store.take_cases sound hid with
    ⟨-, htake⟩ | ⟨object, rest, next, htake, heq, -, hbecomes⟩
  · rw [htake]
    exact balanced_tryFresh pool sound own hid 1
  · have hrest := (Slot.take?_eq_some htake).2
    have hcalled : Phase.parked.next? pool.config (.called .activate) = some .activating := rfl
    have hawait := balanced_await { pool with store := next } own
      (.activating checkout .idle object) (.asks rfl hcalled) (fun _ _ h => nomatch h) nofun
    rw [heq]
    refine hawait.after_update [] [(object, .parked)] hbecomes ?_ (fun _ _ => rfl) ?_
    · rw [hrest]
      rfl
    · exact (stock_take pool htake).trans (add_zero _).symm

/-- So does the next candidate, wherever it comes from. -/
theorem balanced_tryNext (sound : pool.store.Sound) (own : Option (Checkout κ))
    {checkout : Checkout κ} (hid : pool.store.find? checkout.key = some checkout.slot)
    (origin : Origin) :
    Turn.Balanced pool own none [] none (pool.tryNext checkout origin) := by
  cases origin with
  | idle => exact balanced_tryIdle pool sound own hid
  | fresh attempt => exact balanced_tryFresh pool sound own hid _

/-- A candidate that failed goes on to be destroyed. -/
theorem balanced_discard (own : Option (Checkout κ)) (checkout : Checkout κ) (origin : Origin)
    (object : ω) :
    Turn.Balanced pool own none [(checkout.key, (object, .condemned))] none
      (pool.discard checkout origin object) := by
  have hdestroy := fun pool' : Pool κ ω ε => balanced_destroy pool' own checkout.key object
    (.quietly (.nextCandidate checkout origin)) .condemned rfl nofun
  cases origin with
  | idle => exact hdestroy pool
  | fresh attempt => exact (hdestroy (pool.note _)).noted id

/-- A candidate that is ready is lent: one loan more, and the resource is out. -/
theorem balanced_handOut (sound : pool.store.Sound) {checkout : Checkout κ}
    (hid : pool.store.find? checkout.key = some checkout.slot) (object : ω) :
    Turn.Balanced pool (some checkout) none [(checkout.key, (object, pool.config.ready))] none
      (pool.handOut checkout (some object)) := by
  have hcommit := Store.becomes_update sound hid Slot.commit (sound.live_current _)
  refine ⟨?_, fun _ _ h => (nomatch h), ?_, nofun, nofun, fun _ h => .inl h⟩
  · intro key
    show ((pool.store.commit checkout.slot).live key).active + 0 =
      (pool.store.live key).active + 0 + owing key (some checkout.key)
    unfold Store.commit
    rw [hcommit.live_eq]
    by_cases hkey : key = checkout.key
    · rw [hkey, Function.update_self, owing_self]
      rfl
    · rw [Function.update_of_ne hkey, owing_of_ne hkey]
  · refine ⟨_, .lends rfl, ?_⟩
    intro key
    have hstock : (pool.handOut checkout (some object)).1.stock key = pool.stock key := by
      unfold stock
      show (((pool.store.update checkout.slot Slot.commit).live key).idle : Multiset ω).map _ = _
      rw [hcommit.live_eq]
      by_cases hkey : key = checkout.key
      · rw [hkey, Function.update_self]
        rfl
      · rw [Function.update_of_ne hkey]
    rw [hstock]
    exact congrArg (· + _) (add_zero _)

/-- An activated candidate is validated or lent. -/
theorem balanced_afterActivation (sound : pool.store.Sound) {checkout : Checkout κ}
    (hid : pool.store.find? checkout.key = some checkout.slot) (origin : Origin) (object : ω) :
    Turn.Balanced pool (some checkout) none [(checkout.key, (object, .activated))] none
      (pool.afterActivation checkout origin object) := by
  unfold afterActivation
  split
  · next htest =>
    have hcalled : Phase.activated.next? pool.config (.called .validate) = some .testing :=
      if_pos htest
    exact balanced_await pool (some checkout) (.validating checkout origin object)
      (.asks rfl hcalled) (fun _ _ h => nomatch h) nofun
  · next htest =>
    have hready : pool.config.ready = .activated := if_neg htest
    rw [← hready]
    exact balanced_handOut pool sound hid object

/-! ### Taking back -/

/-- A turn that ends a loan and destroys its resource. -/
theorem balanced_endLoan_destroy (sound : pool.store.Sound) {key : κ} {slot : SlotId}
    (hid : pool.store.find? key = some slot) (loaned : 0 < (pool.store.live key).active)
    (object : ω) (aftermath : Aftermath κ ω ε)
    (plain : aftermath = .surface ∨ aftermath = .surfaceIfOpen ∨
      aftermath = .quietly (.conclude .done)) (phase : Phase)
    (dies : phase.next? pool.config (.called .destroy) = some .destroyed) :
    Turn.Balanced pool none (some key) [(key, (object, phase))] none
      ((pool.endLoan key slot).destroy key object aftermath) := by
  have hrelease := (Store.becomes_update sound hid Slot.release (sound.live_current _)).prune key
  have hafter : ∀ {turn}, Turn.Balanced (pool.endLoan key slot) none none [(key, (object, phase))]
      none turn → Turn.Balanced pool none (some key) [(key, (object, phase))] none turn := by
    intro turn hturn
    refine hturn.after_update [(object, phase)] [(object, phase)] hrelease ?_ ?_
      rfl
    · rw [owing_self, owing_none, add_zero]
      exact Nat.sub_add_cancel loaned
    · intro other hother
      rw [owing_of_ne hother, owing_none]
  have hdestroy := fun unrefused => balanced_destroy (pool.endLoan key slot) none key object
    aftermath phase dies unrefused
  rcases plain with rfl | rfl | rfl
  · exact hafter (hdestroy nofun)
  · exact hafter (hdestroy nofun)
  · exact hafter (hdestroy (by simp [Stage.outcome?, Sequel.outcome?]))

/-- A loan ends, and the resource goes on to be destroyed. -/
theorem balanced_scrap (sound : pool.store.Sound) {key : κ} {slot : SlotId}
    (hid : pool.store.find? key = some slot) (loaned : 0 < (pool.store.live key).active)
    (object : ω) :
    Turn.Balanced pool none (some key) [(key, (object, .condemned))] none
      (pool.scrap key slot object) :=
  balanced_endLoan_destroy pool sound hid loaned object .surface (.inl rfl) .condemned rfl

/-- A returned resource that is ready to be kept is kept, or it is destroyed. -/
theorem balanced_settle (sound : pool.store.Sound) {key : κ} {slot : SlotId}
    (hid : pool.store.find? key = some slot) (loaned : 0 < (pool.store.live key).active)
    (object : ω) :
    Turn.Balanced pool none (some key) [(key, (object, .parked))] none
      (pool.settle key slot object) := by
  have hloans : (pool.store.live key).release.active + owing key (some key) =
      (pool.store.live key).active + owing key none := by
    rw [owing_self, owing_none, add_zero]
    exact Nat.sub_add_cancel loaned
  have helsewhere : ∀ other, other ≠ key → owing other (some key) = owing other none :=
    fun other hother => by rw [owing_of_ne hother, owing_none]
  unfold settle
  rcases Store.checkIn_cases sound hid object with ⟨hnone, -⟩ | ⟨-, hback | hkept⟩
  · rw [hnone] at loaned
    exact absurd loaned (Nat.lt_irrefl 0)
  · obtain ⟨reason, next, hreason, heq, hbecomes⟩ := hback
    have hdestroy := balanced_destroy { pool with store := (next.prune key).2 } none key object
      (.quietly (.conclude .done)) .parked rfl (by simp [Stage.outcome?, Sequel.outcome?])
    have hturn := hdestroy.after_update [(object, .parked)] [(object, .parked)]
      (hbecomes.prune key) hloans helsewhere rfl
    rw [heq]
    cases reason with
    | unborrowed => exact absurd rfl hreason
    | _ => exact hturn
  · obtain ⟨next, heq, hbecomes⟩ := hkept
    have hfinish := (balanced_finish (({ pool with store := next } : Pool κ ω ε).count .returned)
      none .done (.inl rfl) (by simp)).counted
    rw [heq]
    apply hfinish.after_update [(object, .parked)] [] hbecomes hloans helsewhere
    exact (add_zero _).trans (stock_push pool key object)

/-- The slot of a key that has something on loan. -/
theorem find?_of_loaned {key : κ} (loaned : 0 < (pool.store.live key).active) :
    ∃ slot, pool.store.find? key = some slot := by
  refine Store.find?_of_live (Bool.eq_false_iff.mpr fun hvacant => ?_)
  have hnone := (Slot.isVacant_iff.mp hvacant).2.1
  rw [hnone] at loaned
  exact Nat.lt_irrefl 0 loaned

/-- A resource that comes back goes into the next call. -/
theorem balanced_giveBack (sound : pool.store.Sound) {key : κ}
    (loaned : 0 < (pool.store.live key).active) (object : ω) :
    Turn.Balanced pool none (some key) [(key, (object, .returned !pool.isClosed))] none
      (pool.giveBack key object) := by
  obtain ⟨slot, hid⟩ := find?_of_loaned pool loaned
  have hactive : (pool.store.slot slot).active ≠ 0 := by
    rw [← Store.live_of_find? hid]
    exact Nat.ne_of_gt loaned
  unfold giveBack
  simp only [hid, if_neg hactive]
  cases hclosed : pool.isClosed with
  | true =>
    exact balanced_endLoan_destroy pool sound hid loaned object (.quietly (.conclude .done))
      (.inr (.inr rfl)) (.returned false) rfl
  | false =>
    cases htest : pool.config.testOnReturn with
    | true =>
      have hcalled : (Phase.returned true).next? pool.config (.called .validate) =
          some .inspecting := if_pos htest
      refine balanced_await pool none (.inspecting key slot object) (.asks rfl hcalled) ?_
        (by simp [Stage.outcome?])
      rintro _ _ ⟨⟩
      exact hid
    | false =>
      have hcalled : (Phase.returned true).next? pool.config (.called .passivate) =
          some .passivating := if_neg (by rw [htest]; exact Bool.false_ne_true)
      refine balanced_await pool none (.passivating key slot object) (.asks rfl hcalled) ?_
        (by simp [Stage.outcome?])
      rintro _ _ ⟨⟩
      exact hid

/-- An invalidated resource goes on to be destroyed, and its loan has ended. -/
theorem balanced_invalidate (sound : pool.store.Sound) {key : κ}
    (loaned : 0 < (pool.store.live key).active) (object : ω) :
    Turn.Balanced pool none (some key) [(key, (object, .condemned))] none
      (pool.invalidate key object) := by
  obtain ⟨slot, hid⟩ := find?_of_loaned pool loaned
  unfold invalidate
  simp only [hid]
  exact balanced_endLoan_destroy pool sound hid loaned object .surfaceIfOpen (.inr (.inl rfl))
    .condemned rfl

/-! ### Adding -/

/-- Going on with an addition moves nothing. -/
theorem balanced_addMore (key : κ) (left : Nat) :
    Turn.Balanced pool none none [] none (pool.addMore key left) := by
  cases left with
  | zero => exact balanced_finish pool none .done (.inl rfl) (by simp)
  | succ left =>
    simp only [addMore]
    split
    · exact balanced_finish pool none (.failed .closed) (.inl rfl) (by simp)
    · exact balanced_await pool none (.making key left) (.makes rfl) (by simp [Stage.foothold?])
        (by simp [Stage.outcome?])

/-- A change of the store that the keys do not see. -/
theorem Turn.Balanced.after_same {pool : Pool κ ω ε} {own : Option (Checkout κ)} {loan : Option κ}
    {given : List (κ × ω × Phase)} {owed : Option ω} {turn : Turn κ ω ε} {next : Store κ ω}
    (second : Turn.Balanced { pool with store := next } own loan given owed turn)
    (first : pool.store.Becomes next pool.store.live) :
    Turn.Balanced pool own loan given owed turn := by
  apply second.after (fun key => by rw [first.live_eq])
  intro key
  unfold stock
  show ((next.live key).idle : Multiset ω).map _ + _ = _
  rw [first.live_eq]

/-- A fresh resource becomes idle or goes on to be destroyed. -/
theorem balanced_park (sound : pool.store.Sound) (key : κ) (left : Nat) (object : ω) :
    Turn.Balanced pool none none [(key, (object, .parked))] none (pool.park key left object) := by
  unfold park
  rcases Store.deposit_cases sound key object with hback | hkept
  · obtain ⟨reason, next, -, heq, hbecomes⟩ := hback
    rw [heq]
    cases reason with
    | storeSealed =>
      have hdestroy := balanced_destroy { pool with store := next } none key object
        (.quietly (.conclude (.failed .closed))) .parked rfl
        (by simp [Stage.outcome?, Sequel.outcome?])
      exact hdestroy.after_same hbecomes
    | _ =>
      have hdestroy := balanced_destroy
        (({ pool with store := next } : Pool κ ω ε).note (.idleFull key)) none key object
        (.quietly (.addMore left)) .parked rfl nofun
      exact (hdestroy.noted id).after_same hbecomes
  · obtain ⟨next, heq, hbecomes⟩ := hkept
    rw [heq]
    refine (balanced_addMore { pool with store := next } key left).after_update
      [(object, .parked)] [] hbecomes rfl (fun _ _ => rfl) ?_
    exact (add_zero _).trans (stock_push pool key object)

/-! ### Clearing and closing -/

/-- Of the resources that have been taken out the first goes on to be destroyed, and the others
wait. -/
theorem balanced_sweep (objects : List (κ × ω)) (result : Result ω ε)
    (ne : result ≠ .failed .notBorrowed) :
    Turn.Balanced pool none none (parked objects) result.lent? (pool.sweep objects result) := by
  cases objects with
  | nil => exact balanced_finish pool none result (.inl rfl) ne
  | cons entry rest =>
    exact balanced_destroy pool none entry.1 entry.2 (.quietly (.sweep rest result)) .parked rfl
      fun h => ne (Option.some.inj h)

/-- What is idle under a key is taken out to be destroyed. -/
theorem balanced_clearKey (sound : pool.store.Sound) (key : κ) :
    Turn.Balanced pool none none [] none (pool.clearKey key) := by
  have hbecomes := Store.becomes_drain sound key
  have hsweep := fun pool' : Pool κ ω ε => balanced_sweep pool'
    ((pool.store.drain key).1.map fun object => (key, object)) .done (by simp)
  have hobjects : parked ((pool.store.drain key).1.map fun object => (key, object)) =
      ((pool.store.drain key).1.map fun object => (object, Phase.parked)).map
        fun value => (key, value) := by
    simp [parked, Function.comp_def]
  have hafter : ∀ {turn}, Turn.Balanced { pool with store := (pool.store.drain key).2 } none none
      (parked ((pool.store.drain key).1.map fun object => (key, object))) none turn →
      Turn.Balanced pool none none [] none turn := by
    intro turn hturn
    rw [hobjects] at hturn
    apply hturn.after_update [] _ hbecomes rfl (fun _ _ => rfl)
    rw [Store.drain_eq]
    show 0 + _ = pool.stock key + 0
    rw [zero_add, add_zero]
    unfold stock
    rw [Multiset.map_coe, Multiset.coe_eq_coe]
    exact (List.reverse_perm _).map _
  unfold clearKey
  split
  · next store heq =>
    rw [heq] at hafter
    exact hafter (balanced_finish _ none .done (.inl rfl) (by simp))
  · next objects store _ heq =>
    rw [heq] at hafter hsweep
    exact hafter ((hsweep (({ pool with store := store } : Pool κ ω ε).note _)).noted id)

/-- Of all that is taken out, what is taken out under one key is its stock. -/
theorem under_drainAll (sound : pool.store.Sound) (key : κ) :
    under key (parked pool.store.drainAll.1) = pool.stock key := by
  have hparked : parked pool.store.drainAll.1 =
      pool.store.drainAll.1.map fun entry => (entry.1, (entry.2, Phase.parked)) := rfl
  rw [hparked, under_map key fun object => (object, Phase.parked)]
  unfold under stock
  rw [Store.filter_drainAll sound, List.map_map]
  simp [Function.comp_def]

/-- What is idle under all keys is. -/
theorem balanced_clear (sound : pool.store.Sound) (result : Result ω ε)
    (ne : result ≠ .failed .notBorrowed) :
    Turn.Balanced pool none none [] result.lent? (pool.clear result) := by
  have hbecomes := Store.becomes_drainAll sound
  have hunder := under_drainAll pool sound
  have hsweep := fun pool' : Pool κ ω ε => balanced_sweep pool' pool.store.drainAll.1 result ne
  have hafter : ∀ {turn}, Turn.Balanced { pool with store := pool.store.drainAll.2 } none none
      (parked pool.store.drainAll.1) result.lent? turn →
      Turn.Balanced pool none none [] result.lent? turn := by
    intro turn hturn
    apply hturn.after (fun key => by rw [hbecomes.live_eq]; rfl)
    intro key
    rw [hunder, under_nil, add_zero]
    unfold stock
    show ((pool.store.drainAll.2.live key).idle : Multiset ω).map _ + _ = _
    rw [hbecomes.live_eq]
    exact zero_add _
  unfold clear
  split
  · next store heq =>
    rw [heq] at hafter
    exact hafter (balanced_finish _ none result (.inl rfl) ne)
  · next objects store _ heq =>
    rw [heq] at hafter hsweep
    exact hafter ((hsweep (({ pool with store := store } : Pool κ ω ε).note _)).noted id)

/-- So it is when the pool closes. -/
theorem balanced_close (sound : pool.store.Sound) (result : Result ω ε)
    (ne : result ≠ .failed .notBorrowed) :
    Turn.Balanced pool none none [] result.lent? (pool.close result) := by
  have hsealed := Store.becomes_sealUp sound
  unfold close
  cases hopen : pool.store.isSealed with
  | true =>
    have heq : pool.store.sealUp = (false, { pool.store with isSealed := true }) := by
      simp [Store.sealUp, hopen]
    rw [heq]
    exact balanced_finish pool none result (.inl rfl) ne
  | false =>
    have heq : pool.store.sealUp = (true, pool.store.sealUp.2) := by
      simp [Store.sealUp, hopen]
    rw [heq]
    have hclear := balanced_clear
      (({ pool with store := pool.store.sealUp.2 } : Pool κ ω ε).note
        (.closing pool.store.sealUp.2.totalActive)) hsealed.sound result ne
    exact (hclear.noted id).after_same hsealed

/-! ### Going on -/

/-- After a destroy nothing is in hand but what waits to be destroyed. -/
theorem balanced_proceed (sound : pool.store.Sound) (key : κ) (object : ω) {sequel : Sequel κ ω ε}
    (holds : pool.store.Holds sequel.checkout?)
    (unrefused : sequel.outcome? ≠ some (.failed .notBorrowed)) :
    Turn.Balanced pool sequel.checkout? none
      (parked (Stage.destroying key object (.quietly sequel)).queue)
      (sequel.outcome?.bind Result.lent?) (pool.proceed key sequel) := by
  cases sequel with
  | nextCandidate checkout origin =>
    exact balanced_tryNext pool sound _ (holds checkout rfl).1 origin
  | unwind checkout reason =>
    have hfinish := balanced_finish (pool.abandon checkout) (some checkout) (.panicked reason)
      (.inr rfl) (by simp)
    exact hfinish.after_update [] [] (becomes_abandon pool sound (holds checkout rfl).1) rfl
      (fun _ _ => rfl) rfl
  | conclude result =>
    exact balanced_finish pool none result (.inl rfl) fun h => unrefused (congrArg some h)
  | sweep rest result =>
    exact balanced_sweep pool rest result fun h => unrefused (congrArg some h)
  | addMore left => exact balanced_addMore pool key left

/-- The same when the destroy succeeds. -/
theorem balanced_afterDestroy (sound : pool.store.Sound) (key : κ) (object : ω)
    {aftermath : Aftermath κ ω ε}
    (holds : pool.store.Holds (Stage.destroying key object aftermath).checkout?)
    (unrefused : (Stage.destroying key object aftermath).outcome? ≠ some (.failed .notBorrowed)) :
    Turn.Balanced pool (Stage.destroying key object aftermath).checkout? none
      (parked (Stage.destroying key object aftermath).queue)
      (Stage.destroying key object aftermath).lent? (pool.afterDestroy key aftermath) := by
  cases aftermath with
  | quietly sequel => exact balanced_proceed pool sound key object holds unrefused
  | _ => exact balanced_finish pool none .done (.inl rfl) (by simp)

/-- The same when the destroy fails. -/
theorem balanced_afterDestroyFailure (sound : pool.store.Sound) (key : κ) (object : ω) (error : ε)
    {aftermath : Aftermath κ ω ε}
    (holds : pool.store.Holds (Stage.destroying key object aftermath).checkout?)
    (unrefused : (Stage.destroying key object aftermath).outcome? ≠ some (.failed .notBorrowed)) :
    Turn.Balanced pool (Stage.destroying key object aftermath).checkout? none
      (parked (Stage.destroying key object aftermath).queue)
      (Stage.destroying key object aftermath).lent?
      (pool.afterDestroyFailure key error aftermath) := by
  have hfailed := balanced_finish pool none (.failed (.factory error)) (.inl rfl) (by simp)
  cases aftermath with
  | surface => exact hfailed
  | surfaceIfOpen =>
    simp only [afterDestroyFailure]
    split
    · exact (balanced_finish (pool.note _) none .done (.inl rfl) (by simp)).noted id
    · exact hfailed
  | quietly sequel =>
    exact (balanced_proceed (pool.note _) sound key object holds unrefused).noted id

/-- **Every later turn of an operation is balanced**, if it gets an answer that is not a panic and
if a return in progress still has the slot of its loan. -/
theorem balanced_resume (sound : pool.store.Sound) (stage : Stage κ ω ε)
    (holds : pool.store.Holds stage.checkout?)
    (loaned : ∀ key slot, stage.foothold? = some (key, slot) →
      pool.store.find? key = some slot ∧ 0 < (pool.store.live key).active)
    (occurs : ∀ key object phase, stage.subject? = some (key, object, phase) →
      phase.Occurs pool.config)
    (unrefused : stage.outcome? ≠ some (.failed .notBorrowed))
    {answer : Answer ω ε} (calm : ∀ reason, answer ≠ .panicked reason) :
    Turn.Balanced pool stage.checkout? (stage.foothold?.map Prod.fst) (stage.answered answer)
      stage.lent? (pool.resume stage answer) := by
  cases stage with
  | creating checkout attempt =>
    have hcalled : (Phase.fresh false).next? pool.config (.called .activate) =
        some .activating := rfl
    have hfresh := fun object => ((balanced_await
      ((pool.count .created).note (.created checkout.key)) (some checkout)
      (.activating checkout (.fresh attempt) object) (.asks rfl hcalled) (fun _ _ h => nomatch h)
      nofun).noted id).counted
    cases answer with
    | done object => exact hfresh object
    | refused object => exact hfresh object
    | failed error =>
      have hfinish := balanced_finish (pool.abandon checkout) (some checkout)
        (.failed (.factory error)) (.inr rfl) (by simp)
      exact hfinish.after_update [] [] (becomes_abandon pool sound (holds checkout rfl).1) rfl
        (fun _ _ => rfl) rfl
    | panicked reason => exact absurd rfl (calm reason)
  | activating checkout origin object =>
    have hid := (holds checkout rfl).1
    cases answer with
    | done object => exact balanced_afterActivation pool sound hid origin object
    | refused object => exact balanced_afterActivation pool sound hid origin object
    | failed error =>
      exact ((balanced_discard ((pool.count .activationFailures).note _) (some checkout) checkout
        origin object).noted id).counted
    | panicked reason => exact absurd rfl (calm reason)
  | validating checkout origin object =>
    have hid := (holds checkout rfl).1
    have hdiscard := fun event entry => balanced_discard
      ((pool.count event).note entry) (some checkout) checkout origin object
    cases answer with
    | done _ =>
      have hready : pool.config.ready = .tested := if_pos (occurs _ _ _ rfl)
      have hlent := balanced_handOut pool sound hid object
      rw [hready] at hlent
      exact hlent
    | refused _ => exact ((hdiscard _ (.validationRejected checkout.key)).noted id).counted
    | failed error => exact ((hdiscard _ (.validationFailed checkout.key error)).noted id).counted
    | panicked reason => exact absurd rfl (calm reason)
  | inspecting key slot object =>
    obtain ⟨hid, hloaned⟩ := loaned key slot rfl
    have hscrap := fun event entry => balanced_scrap ((pool.count event).note entry) sound hid
      hloaned object
    cases answer with
    | done _ =>
      have hcalled : Phase.inspected.next? pool.config (.called .passivate) =
          some .passivating := rfl
      refine balanced_await pool none (.passivating key slot object) (.asks rfl hcalled) ?_ nofun
      rintro _ _ ⟨⟩
      exact hid
    | refused _ => exact ((hscrap _ (.validationRejected key)).noted id).counted
    | failed error => exact ((hscrap _ (.validationFailed key error)).noted id).counted
    | panicked reason => exact absurd rfl (calm reason)
  | passivating key slot object =>
    obtain ⟨hid, hloaned⟩ := loaned key slot rfl
    cases answer with
    | done object => exact balanced_settle pool sound hid hloaned object
    | refused object => exact balanced_settle pool sound hid hloaned object
    | failed error =>
      exact ((balanced_scrap ((pool.count .passivationFailures).note (.passivationFailed key error))
        sound hid hloaned object).noted id).counted
    | panicked reason => exact absurd rfl (calm reason)
  | making key left =>
    have hcalled : (Phase.fresh true).next? pool.config (.called .passivate) =
        some .passivating := rfl
    have hfresh := fun object => ((balanced_await ((pool.count .created).note (.created key)) none
      (.parking key left object) (.asks rfl hcalled) (fun _ _ h => nomatch h) nofun).noted
      id).counted
    cases answer with
    | done object => exact hfresh object
    | refused object => exact hfresh object
    | failed error =>
      exact balanced_finish pool none (.failed (.factory error)) (.inl rfl) (by simp)
    | panicked reason => exact absurd rfl (calm reason)
  | parking key left object =>
    cases answer with
    | done object => exact balanced_park pool sound key left object
    | refused object => exact balanced_park pool sound key left object
    | failed error =>
      exact (balanced_destroy (pool.count .passivationFailures) none key object
        (.quietly (.conclude (.failed (.factory error)))) .condemned rfl
        (by simp [Stage.outcome?, Sequel.outcome?])).counted
    | panicked reason => exact absurd rfl (calm reason)
  | destroying key object aftermath =>
    cases answer with
    | done _ => exact balanced_afterDestroy pool sound key object holds unrefused
    | refused _ => exact balanced_afterDestroy pool sound key object holds unrefused
    | failed error =>
      exact (balanced_afterDestroyFailure (pool.count .destroyFailures) sound key object error holds
        unrefused).counted
    | panicked reason => exact absurd rfl (calm reason)

/-! ### Starting -/

/-- A reservation changes neither the loans nor the stock of a key. -/
theorem balanced_borrow (sound : pool.store.Sound) (key : κ) :
    Turn.Balanced pool none none [] none (pool.borrow key) := by
  unfold borrow
  split
  · exact balanced_finish pool none (.failed .closed) (.inl rfl) (by simp)
  · rcases Store.reserve_cases sound key pool.config.activeLimit with
      ⟨-, hnone, hbecomes⟩ | ⟨-, id, hsome, hid, hbecomes⟩
    · generalize pool.store.reserve key pool.config.activeLimit = pass at hnone hbecomes
      obtain ⟨found, next⟩ := pass
      cases hnone
      have hrefused := balanced_finish (({ pool with store := next } : Pool κ ω ε).count .refusals)
        none (.failed .atCapacity) (.inl rfl) (by simp)
      exact hrefused.counted.after_same hbecomes
    · generalize pool.store.reserve key pool.config.activeLimit = pass at hsome hid hbecomes
      obtain ⟨found, next⟩ := pass
      cases hsome
      have hheld : next.find? (Checkout.mk key id).key = some (Checkout.mk key id).slot := hid
      have hturn := balanced_tryIdle { pool with store := next } hbecomes.sound none hheld
      exact hturn.after_update [] [] hbecomes rfl (fun _ _ => rfl) rfl

/-- **The first turn of an operation is balanced**, if a resource that comes back is one of those
on loan under its key. -/
theorem balanced_start (sound : pool.store.Sound) (operation : Operation κ ω)
    (loaned : ∀ key, operation.loan? = some key → 0 < (pool.store.live key).active) :
    Turn.Balanced pool none operation.loan? (operation.given pool.isClosed) none
      (pool.start operation) := by
  cases operation with
  | borrow key => exact balanced_borrow pool sound key
  | giveBack key object => exact balanced_giveBack pool sound (loaned key rfl) object
  | invalidate key object => exact balanced_invalidate pool sound (loaned key rfl) object
  | prefill key count => exact balanced_addMore pool key count
  | clearKey key => exact balanced_clearKey pool sound key
  | clear => exact balanced_clear pool sound .done (by simp)
  | close => exact balanced_close pool sound .done (by simp)

end turns

end Pool

end ResourcePool
