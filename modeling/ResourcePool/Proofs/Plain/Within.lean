import ResourcePool.Proofs.Plain.Basic

/-!
# Courses that keep to one key

If the factory answers the calls under a key by the calls under that key alone, then an operation on
one key is about that key and no other: it sees nothing of the others and leaves them as they are.

* `Replies.byKey` — such a factory.
* `PlainPool.Alike` — two plain pools that are the same as far as one key is concerned.
* `PlainPool.Within` — a course on a plain pool that keeps to one key. There is one lemma for each
  step (`within_ask`, `within_hold`, …) and one for each function of the plain pool, up to
  `within_run`.
-/

set_option linter.unusedSectionVars false

namespace ResourcePool

variable {κ ω ε : Type} [DecidableEq κ]

/-- The calls under a key. -/
def callsUnder (key : κ) (calls : List (Request κ ω)) : List (Request κ ω) :=
  calls.filter fun call => call.key = key

/-- A call under a key is one of the calls under it. -/
theorem callsUnder_cons {key : κ} {request : Request κ ω} (under : request.key = key)
    (calls : List (Request κ ω)) :
    callsUnder key (request :: calls) = request :: callsUnder key calls :=
  List.filter_cons_of_pos (decide_eq_true under)

/-- A factory that answers a call by the calls under its key. -/
def Replies.byKey (reply : Replies κ ω ε) : Replies κ ω ε :=
  fun calls request => reply (callsUnder request.key calls) request

/-- The key that an operation is about; clearing and closing are about all. -/
def Operation.key? : Operation κ ω → Option κ
  | borrow key | giveBack key _ | invalidate key _ | prefill key _ | clearKey key => some key
  | clear | close => none

namespace PlainPool

/-! ## One key -/

/-- Two plain pools that are the same as far as one key is concerned. -/
structure Alike (key : κ) (plain other : PlainPool κ ω) : Prop where
  holding_eq : plain.holdings key = other.holdings key
  isClosed_eq : plain.isClosed = other.isClosed
  calls_eq : callsUnder key plain.calls = callsUnder key other.calls

/-- A pool is like itself. -/
theorem Alike.refl (key : κ) (plain : PlainPool κ ω) : Alike key plain plain := ⟨rfl, rfl, rfl⟩

/-- What is like a pool that is like a third one. -/
theorem Alike.trans {key : κ} {plain other last : PlainPool κ ω} (first : Alike key plain other)
    (second : Alike key other last) : Alike key plain last :=
  ⟨first.holding_eq.trans second.holding_eq, first.isClosed_eq.trans second.isClosed_eq,
    first.calls_eq.trans second.calls_eq⟩

/-- Likeness goes both ways. -/
theorem Alike.symm {key : κ} {plain other : PlainPool κ ω} (alike : Alike key plain other) :
    Alike key other plain :=
  ⟨alike.holding_eq.symm, alike.isClosed_eq.symm, alike.calls_eq.symm⟩

/-- **A course that keeps to one key.** From pools that are alike there it comes to the same result
and to pools that are alike again, and under any other key it changes nothing. -/
structure Within {α : Type} (key : κ) (course : Course κ ω α) : Prop where
  same : ∀ plain other, Alike key plain other →
    (course plain).1 = (course other).1 ∧ Alike key (course plain).2 (course other).2
  apart : ∀ place, place ≠ key → ∀ plain, Alike place plain (course plain).2

section steps

variable {key : κ} {α β : Type}

/-- A course that is over keeps to any key. -/
theorem within_pure (key : κ) (value : α) : Within key (pure value : Course κ ω α) where
  same _ _ alike := ⟨rfl, alike⟩
  apart place _ plain := .refl place plain

/-- So does one that ends in a panic. -/
theorem within_throw (key : κ) (reason : String) :
    Within key (throw reason : Course κ ω α) where
  same _ _ alike := ⟨rfl, alike⟩
  apart place _ plain := .refl place plain

/-- Courses that keep to a key, one after the other. -/
theorem within_bind {course : Course κ ω α} {next : α → Course κ ω β} (first : Within key course)
    (second : ∀ value, Within key (next value)) : Within key (course >>= next) where
  same plain other alike := by
    obtain ⟨hvalue, halike⟩ := first.same plain other alike
    rw [bind_eq, bind_eq, hvalue]
    cases (course other).1 with
    | ok value => exact (second value).same _ _ halike
    | error reason => exact ⟨rfl, halike⟩
  apart place ne plain := by
    have hfirst := first.apart place ne plain
    rw [bind_eq]
    cases (course plain).1 with
    | ok value => exact hfirst.trans ((second value).apart place ne (course plain).2)
    | error reason => exact hfirst

/-- A look at a key depends on that key and on whether the pool is closed, and changes nothing. -/
theorem within_look (key : κ) : Within key (look key : Course κ ω (Holding ω × Bool)) where
  same _ _ alike :=
    ⟨congrArg Except.ok (Prod.ext alike.holding_eq alike.isClosed_eq), alike⟩
  apart place _ plain := .refl place plain

/-- Replacing what a key holds changes that key alone. -/
theorem within_hold (key : κ) (holding : Holding ω) : Within key (hold key holding) where
  same plain other alike := by
    refine ⟨rfl, ?_, alike.isClosed_eq, alike.calls_eq⟩
    show Function.update plain.holdings key holding key =
      Function.update other.holdings key holding key
    rw [Function.update_self, Function.update_self]
  apart place ne plain := by
    refine ⟨?_, rfl, rfl⟩
    show plain.holdings place = Function.update plain.holdings key holding place
    rw [Function.update_of_ne ne]

/-- The counters are not looked at under any key. -/
theorem within_count (key : κ) (event : Counter) :
    Within key (count event : Course κ ω Unit) where
  same _ _ alike := ⟨rfl, alike.holding_eq, alike.isClosed_eq, alike.calls_eq⟩
  apart _ _ _ := ⟨rfl, rfl, rfl⟩

/-- One more call under a key. -/
theorem Alike.called {plain other : PlainPool κ ω} (alike : Alike key plain other)
    (request : Request κ ω) :
    Alike key { plain with calls := request :: plain.calls }
      { other with calls := request :: other.calls } := by
  have hcalls := alike.calls_eq
  unfold callsUnder at hcalls
  refine ⟨alike.holding_eq, alike.isClosed_eq, ?_⟩
  unfold callsUnder
  rw [List.filter_cons, List.filter_cons, hcalls]

/-- A call under another key. -/
theorem alike_called_apart {place : κ} {request : Request κ ω} (other : request.key ≠ place)
    (plain : PlainPool κ ω) :
    Alike place plain { plain with calls := request :: plain.calls } := by
  refine ⟨rfl, rfl, ?_⟩
  unfold callsUnder
  rw [List.filter_cons_of_neg (by simpa using other)]

/-- **A call under a key** is answered by the calls under that key. -/
theorem within_answer (reply : Replies κ ω ε) {request : Request κ ω} (under : request.key = key)
    {course : Course κ ω (Response ω ε)} {handler : String → Course κ ω (Response ω ε)}
    (calls : ∀ plain, course plain =
      answered pure handler (reply.byKey plain.calls request).response
        { plain with calls := request :: plain.calls })
    (panics : ∀ reason, Within key (handler reason)) : Within key course where
  same plain other alike := by
    have hanswer : reply.byKey plain.calls request = reply.byKey other.calls request := by
      unfold Replies.byKey
      rw [under, alike.calls_eq]
    rw [calls, calls, hanswer]
    cases (reply.byKey other.calls request).response with
    | ok response => exact ⟨rfl, alike.called request⟩
    | error reason => exact (panics reason).same _ _ (alike.called request)
  apart place ne plain := by
    have hother : request.key ≠ place := by
      rw [under]
      exact Ne.symm ne
    have hcalled := alike_called_apart hother plain
    rw [calls]
    cases (reply.byKey plain.calls request).response with
    | ok response => exact hcalled
    | error reason => exact hcalled.trans ((panics reason).apart place ne _)

/-- A call under a key keeps to it. -/
theorem within_ask (reply : Replies κ ω ε) {request : Request κ ω} (under : request.key = key) :
    Within key (ask reply.byKey request) := by
  apply within_answer reply under ?_ (within_throw key)
  intro plain
  have hask := ask_bind reply.byKey request pure plain
  rwa [bind_pure] at hask

end steps

/-! ## Operations on a key -/

section operations

variable (config : Config) (reply : Replies κ ω ε) (key : κ)

/-- Destroying a resource keeps to its key. -/
theorem within_destroy (object : ω) : Within key (destroy reply.byKey key object) := by
  apply within_bind (within_count key _)
  intro _
  refine within_bind (within_ask reply rfl) ?_
  intro response
  cases response with
  | failed error => exact within_bind (within_count key _) fun _ => within_pure key _
  | _ => exact within_pure key _

/-- So does destroying the candidate of a borrow that panics. -/
theorem within_unwind {α : Type} (object : ω) (reason : String) :
    Within key (unwind reply.byKey key object reason : Course κ ω α) :=
  within_bind (within_destroy reply key object) fun _ => within_throw key reason

/-- A call about a candidate under its key. -/
theorem within_consult (object : ω) {request : Request κ ω} (under : request.key = key) :
    Within key (consult reply.byKey key object request) := by
  apply within_answer reply under ?_ (within_unwind reply key object)
  intro plain
  have hconsult := consult_bind reply.byKey key object request pure plain
  rwa [bind_pure] at hconsult

/-- A destroy, and then a result that is known before. -/
theorem within_discard (object : ω) (result : Result ω ε) :
    Within key (destroy reply.byKey key object >>= fun _ => pure result) :=
  within_bind (within_destroy reply key object) fun _ => within_pure key _

/-- Destroying resources of one key keeps to it, by induction on the resources. -/
theorem within_destroyAll (objects : List ω) :
    Within key (destroyAll reply.byKey (objects.map fun object => (key, object))) := by
  induction objects with
  | nil => exact within_pure key _
  | cons object rest ih => exact within_bind (within_destroy reply key object) fun _ => ih

/-- Creating keeps to its key, if what follows does. -/
theorem within_create {next : ω → Course κ ω (Result ω ε)}
    (goesOn : ∀ object, Within key (next object)) : Within key (create reply.byKey key next) := by
  refine within_bind (within_ask reply rfl) ?_
  intro response
  cases response with
  | failed error => exact within_pure key _
  | _ => exact within_bind (within_count key _) fun _ => goesOn _

/-! ### Borrowing -/

/-- Validating a candidate keeps to its key. -/
theorem within_inspect (object : ω) : Within key (inspect config reply.byKey key object) := by
  unfold inspect
  split
  · refine within_bind (within_consult reply key object rfl) ?_
    intro response
    cases response with
    | done _ => exact within_pure key _
    | _ => exact within_bind (within_count key _) fun _ => within_pure key _
  · exact within_pure key _

/-- So does activating it. -/
theorem within_prepare (object : ω) : Within key (prepare config reply.byKey key object) := by
  refine within_bind (within_consult reply key object rfl) ?_
  intro response
  cases response with
  | failed error => exact within_bind (within_count key _) fun _ => within_pure key _
  | _ => exact within_inspect config reply key _

/-- Lending begins a loan under its key alone. -/
theorem within_lend (object : ω) : Within key (lend key object : Course κ ω (Result ω ε)) := by
  apply within_bind (within_look key)
  intro _
  apply within_bind (within_hold key _)
  intro _
  exact within_bind (within_count key _) fun _ => within_pure key _

variable {key} in
/-- Trying a candidate keeps to its key, if going on without it does. -/
theorem within_lendOr {otherwise : Course κ ω (Result ω ε)} (others : Within key otherwise)
    (object : ω) : Within key (lendOr config reply.byKey key object otherwise) := by
  apply within_bind (within_prepare config reply key object)
  intro candidate
  cases candidate with
  | ok object => exact within_lend key object
  | error object => exact within_bind (within_destroy reply key object) fun _ => others

/-- The loop of fresh candidates keeps to its key, by induction on the attempts. -/
theorem within_tryFresh (left : Nat) :
    Within key (tryFresh config reply.byKey key left) := by
  induction left with
  | zero => exact within_pure key _
  | succ left ih => exact within_create reply key fun object => within_lendOr config reply ih object

/-- The loop of idle candidates does, by induction on the candidates. -/
theorem within_tryIdle (candidates : List ω) :
    Within key (tryIdle config reply.byKey key candidates) := by
  induction candidates with
  | nil => exact within_tryFresh config reply key _
  | cons object rest ih =>
    apply within_bind (within_look key)
    intro _
    exact within_bind (within_hold key _) fun _ => within_lendOr config reply ih object

/-- A borrow keeps to its key. -/
theorem within_borrow : Within key (borrow config reply.byKey key) := by
  apply within_bind (within_look key)
  rintro ⟨holding, isClosed⟩
  dsimp only
  split
  · exact within_pure key _
  split
  · exact within_bind (within_count key _) fun _ => within_pure key _
  · exact within_tryIdle config reply key _

/-! ### Taking back -/

/-- A loan ends under its key alone. -/
theorem within_endLoan : Within key (endLoan key : Course κ ω Unit) :=
  within_bind (within_look key) fun _ => within_hold key _

/-- Ending a loan with the destruction of the resource keeps to its key. -/
theorem within_scrap (object : ω) : Within key (scrap reply.byKey key object) := by
  apply within_bind (within_endLoan key)
  intro _
  exact within_bind (within_destroy reply key object) fun _ => within_pure key _

/-- So does ending it with the resource among the idle ones. -/
theorem within_putBack (object : ω) : Within key (putBack config reply.byKey key object) := by
  apply within_bind (within_look key)
  rintro ⟨holding, isClosed⟩
  dsimp only
  split
  · exact within_bind (within_endLoan key) fun _ => within_discard reply key object _
  · apply within_bind (within_hold key _)
    intro _
    exact within_bind (within_count key _) fun _ => within_pure key _

/-- So does passivating the resource first. -/
theorem within_keep (object : ω) : Within key (keep config reply.byKey key object) := by
  refine within_bind (within_ask reply rfl) ?_
  intro response
  cases response with
  | failed error =>
    exact within_bind (within_count key _) fun _ => within_scrap reply key object
  | _ => exact within_putBack config reply key _

/-- So does validating it before that. -/
theorem within_keepValid (object : ω) :
    Within key (keepValid config reply.byKey key object) := by
  refine within_bind (within_ask reply rfl) ?_
  intro response
  cases response with
  | done _ => exact within_keep config reply key object
  | _ => exact within_bind (within_count key _) fun _ => within_scrap reply key object

/-- A return keeps to its key. -/
theorem within_giveBack (object : ω) :
    Within key (giveBack config reply.byKey key object) := by
  apply within_bind (within_look key)
  rintro ⟨holding, isClosed⟩
  dsimp only
  split
  · exact within_discard reply key object _
  split
  · exact within_bind (within_endLoan key) fun _ => within_discard reply key object _
  split
  · exact within_keepValid config reply key object
  · exact within_keep config reply key object

/-- An invalidation does. -/
theorem within_invalidate (object : ω) : Within key (invalidate reply.byKey key object) := by
  apply within_bind (within_endLoan key)
  intro _
  apply within_bind (within_destroy reply key object)
  intro error?
  apply within_bind (within_look key)
  rintro ⟨holding, isClosed⟩
  dsimp only
  split <;> exact within_pure key _

/-! ### Adding and clearing -/

/-- Keeping a fresh resource, or destroying it for lack of room, keeps to its key. -/
theorem within_stow (object : ω) : Within key (stow config reply.byKey key object) := by
  apply within_bind (within_look key)
  rintro ⟨holding, isClosed⟩
  dsimp only
  split
  · exact within_bind (within_destroy reply key object) fun _ => within_pure key _
  · exact within_hold key _

variable {key} in
/-- So does passivating it first, if what follows does. -/
theorem within_stowOr {others : Course κ ω (Result ω ε)} (goesOn : Within key others) (object : ω) :
    Within key (stowOr config reply.byKey key object others) := by
  refine within_bind (within_ask reply rfl) ?_
  intro response
  cases response with
  | failed error =>
    exact within_bind (within_count key _) fun _ => within_discard reply key object _
  | _ => exact within_bind (within_stow config reply key _) fun _ => goesOn

/-- An addition keeps to its key, by induction on what is left to be added. -/
theorem within_prefill (left : Nat) : Within key (prefill config reply.byKey key left) := by
  induction left with
  | zero => exact within_pure key _
  | succ left ih =>
    apply within_bind (within_look key)
    rintro ⟨holding, isClosed⟩
    dsimp only
    split
    · exact within_pure key _
    · exact within_create reply key fun object => within_stowOr config reply ih object

/-- Clearing a key keeps to it. -/
theorem within_clearKey : Within key (clearKey reply.byKey key) := by
  apply within_bind (within_look key)
  rintro ⟨holding, isClosed⟩
  apply within_bind (within_hold key _)
  intro _
  exact within_bind (within_destroyAll reply key _) fun _ => within_pure key _

/-- **An operation on a key keeps to that key.** -/
theorem within_run (order : List κ) {operation : Operation κ ω}
    (about : operation.key? = some key) :
    Within key (run config reply.byKey order operation) := by
  cases operation with
  | borrow place => cases about; exact within_borrow config reply key
  | giveBack place object => cases about; exact within_giveBack config reply key object
  | invalidate place object => cases about; exact within_invalidate reply key object
  | prefill place count => cases about; exact within_prefill config reply key count
  | clearKey place => cases about; exact within_clearKey reply key
  | clear => cases about
  | close => cases about

end operations

end PlainPool

end ResourcePool
