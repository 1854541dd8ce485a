import ResourcePool.Proofs.Plain.Basic
import ResourcePool.Proofs.Pool.Upkeep

/-!
# What a turn does

Between two calls of the factory an operation changes what the keys hold at most once: it takes an
idle resource, or ends a loan, or puts one resource among the idle ones, and so on. This module says
once which change each turn makes, with the events that it counts and the notes that it makes, and
everything that is proved about queues, counters and notes is read off from that.

* `Deed` — the changes that there are, and `Deed.on`, what each makes of a key.
* `Hand` — the resource that an operation has in hand, and whether the pool owns it or a client has
  just given it back.
* `Pool.hear` — what is counted and noted when a call is answered, before the operation goes on.
* `Pool.Turn.Does` — what a turn does. There is one lemma for each function of the pool, up to
  `Pool.does_start`, `Pool.does_resume` and `Pool.does_close`.
-/

set_option linter.unusedSectionVars false

namespace ResourcePool

variable {κ ω ε : Type}

/-! ## Holdings -/

/-- What a slot holds, apart from the reservations. -/
def Slot.holding (slot : Slot ω) : Holding ω := ⟨slot.idle, slot.active⟩

/-- The idle resource that is taken next. -/
def Selection.next? : Selection → List ω → Option ω
  | .lifo, idle => idle.head?
  | .fifo, idle => idle.getLast?

/-- The idle resources that stay when the next one is taken. -/
def Selection.others : Selection → List ω → List ω
  | .lifo, idle => idle.tail
  | .fifo, idle => idle.dropLast

/-- What is taken out of a slot is the next idle resource, and the others stay. -/
theorem Slot.take?_holding {slot rest : Slot ω} {selection : Selection} {object : ω}
    (h : slot.take? selection = some (object, rest)) :
    selection.next? slot.idle = some object ∧
      rest.holding = { slot.holding with idle := selection.others slot.idle } := by
  cases selection <;>
    (obtain ⟨found, hfound, heq⟩ := Option.map_eq_some_iff.mp h
     cases heq
     exact ⟨hfound, rfl⟩)

/-- What stays keeps its order. -/
theorem Selection.others_sublist (selection : Selection) (idle : List ω) :
    (selection.others idle).Sublist idle := by
  cases selection with
  | lifo => exact idle.tail_sublist
  | fifo => exact idle.dropLast_sublist

/-- One resource less stays. -/
theorem Selection.length_others {selection : Selection} {idle : List ω} {object : ω}
    (h : selection.next? idle = some object) :
    (selection.others idle).length + 1 = idle.length := by
  have hpos : 0 < idle.length := by
    apply List.length_pos_iff.mpr
    rintro rfl
    cases selection <;> cases h
  cases selection <;> simp only [others, List.length_tail, List.length_dropLast] <;> omega

/-! ## Deeds -/

/-- What an operation does with what the keys hold, from one call to the next. -/
inductive Deed (κ ω : Type) where
  /-- Nothing. -/
  | nothing
  /-- It takes the next idle resource out. -/
  | take (key : κ) (object : ω)
  /-- It begins a loan. -/
  | lend (key : κ)
  /-- It ends a loan, if there is one, and keeps nothing. -/
  | release (key : κ)
  /-- It ends a loan and keeps the resource that came back. -/
  | putBack (key : κ) (object : ω)
  /-- It keeps a resource that was not on loan. -/
  | stow (key : κ) (object : ω)
  /-- It takes out all that is idle under a key. -/
  | emptyKey (key : κ)
  /-- It takes out all that is idle. -/
  | emptyAll

/-- What an operation has in hand. -/
inductive Hand (κ ω : Type) where
  /-- Nothing that it could lend or keep. -/
  | free
  /-- A resource that a borrow has created or taken out and is to activate. -/
  | unready (key : κ) (object : ω)
  /-- A resource that is being prepared further. -/
  | own (key : κ) (object : ω)
  /-- A new resource that is ready to be kept. -/
  | reset (key : κ) (object : ω)
  /-- A resource that a client has given back and that is ready to be kept. -/
  | back (key : κ) (object : ω)

/-- How many resources in a hand are neither idle nor on loan. -/
def Hand.size : Hand κ ω → Nat
  | unready .. | own .. | reset .. => 1
  | free | back .. => 0

/-- In a free hand there is nothing. -/
@[simp] theorem Hand.size_free : (free : Hand κ ω).size = 0 := rfl

namespace Stage

/-- What an operation has in hand while it waits. -/
def hand : Stage κ ω ε → Hand κ ω
  | activating checkout _ object => .unready checkout.key object
  | validating checkout _ object => .own checkout.key object
  | parking key _ object => .own key object
  | _ => .free

/-- What an operation has in hand when its call has been answered. -/
def handAfter : Stage κ ω ε → Answer ω ε → Hand κ ω
  | creating checkout _, .done object | creating checkout _, .refused object =>
    .unready checkout.key object
  | activating checkout _ _, .done object | activating checkout _ _, .refused object
  | validating checkout _ object, .done _ => .own checkout.key object
  | making key _, .done object | making key _, .refused object => .own key object
  | parking key _ _, .done object | parking key _ _, .refused object => .reset key object
  | passivating key _ _, .done object | passivating key _ _, .refused object => .back key object
  | _, _ => .free

/-- The event that the answer to a call is. -/
def event? : Stage κ ω ε → Answer ω ε → Option Counter
  | creating .., .done _ | creating .., .refused _ | making .., .done _ | making .., .refused _ =>
    some .created
  | activating .., .failed _ => some .activationFailures
  | validating .., .refused _ | validating .., .failed _ | inspecting .., .refused _
  | inspecting .., .failed _ => some .validationFailures
  | passivating .., .failed _ | parking .., .failed _ => some .passivationFailures
  | destroying .., .failed _ => some .destroyFailures
  | _, _ => none

/-- The note that is made of the answer to a call. -/
def remark? (isClosed : Bool) : Stage κ ω ε → Answer ω ε → Option (Note κ ε)
  | creating checkout _, .done _ | creating checkout _, .refused _ => some (.created checkout.key)
  | making key _, .done _ | making key _, .refused _ => some (.created key)
  | activating checkout _ _, .failed error => some (.activationFailed checkout.key error)
  | validating checkout _ _, .refused _ => some (.validationRejected checkout.key)
  | validating checkout _ _, .failed error => some (.validationFailed checkout.key error)
  | inspecting key _ _, .refused _ => some (.validationRejected key)
  | inspecting key _ _, .failed error => some (.validationFailed key error)
  | passivating key _ _, .failed error => some (.passivationFailed key error)
  | destroying key _ (.quietly _), .failed error => some (.destroyFailed key error)
  | destroying key _ .surfaceIfOpen, .failed error =>
    if isClosed then some (.destroyFailedClosed key error) else none
  | _, _ => none

end Stage

namespace Progress

/-- What an operation has in hand after a turn. -/
def hand : Progress κ ω ε → Hand κ ω
  | waiting stage => stage.hand
  | finished _ => .free

/-- Whether the operation waits for a destroy. -/
def destroys : Progress κ ω ε → Bool
  | waiting (.destroying ..) => true
  | _ => false

/-- How often a turn that leads here counts an event for that. -/
def tells (progress : Progress κ ω ε) (event : Counter) : Nat :=
  if progress.destroys = true ∧ event = .destroyed then 1 else 0

/-- A turn that leads to a destroy counts that and nothing else. -/
theorem tells_of_ne (progress : Progress κ ω ε) {event : Counter} (ne : event ≠ .destroyed) :
    progress.tells event = 0 := by
  simp [tells, ne]

end Progress

/-- Whether a note reports how a destroy or a return failed, or that the pool closes. -/
def Note.isReport : Note κ ε → Bool
  | destroyFailed .. | destroyFailedClosed .. | returnFailed .. | closing _ => true
  | _ => false

namespace Deed

/-- Whether a deed puts a resource among the idle ones. -/
def keeps : Deed κ ω → Bool
  | putBack .. | stow .. => true
  | _ => false

/-- How often a deed counts an event. -/
def tells (deed : Deed κ ω) (event : Counter) : Nat :=
  match deed, event with
  | lend _, .borrowed => 1
  | putBack .., .returned => 1
  | _, _ => 0

/-- To do nothing is not counted. -/
@[simp] theorem tells_nothing (event : Counter) : (nothing : Deed κ ω).tells event = 0 := rfl

/-- A deed counts loans that begin and resources that are kept, and nothing else. -/
theorem tells_of_ne (deed : Deed κ ω) {event : Counter} (ne : event ≠ .borrowed)
    (ne' : event ≠ .returned) : deed.tells event = 0 := by
  cases deed <;> cases event <;> first | rfl | exact absurd rfl ne | exact absurd rfl ne'

variable [DecidableEq κ]

/-- The key that a deed is about; the others are about no key or about all. -/
def key? : Deed κ ω → Option κ
  | take key _ | lend key | release key | putBack key _ | stow key _ | emptyKey key => some key
  | nothing | emptyAll => none

/-- What a deed makes of what a key holds that it is about. -/
def change (selection : Selection) : Deed κ ω → Holding ω → Holding ω
  | nothing, holding => holding
  | take .., holding => { holding with idle := selection.others holding.idle }
  | lend _, holding => { holding with active := holding.active + 1 }
  | release _, holding => { holding with active := holding.active - 1 }
  | putBack _ object, holding => ⟨object :: holding.idle, holding.active - 1⟩
  | stow _ object, holding => { holding with idle := object :: holding.idle }
  | emptyKey _, holding | emptyAll, holding => holding.emptied

/-- What a deed makes of what a key holds. -/
def on (selection : Selection) (deed : Deed κ ω) (key : κ) (holding : Holding ω) : Holding ω :=
  if deed.key? = none ∨ deed.key? = some key then deed.change selection holding else holding

/-- A deed about one key leaves the others alone. -/
theorem on_of_ne (selection : Selection) {deed : Deed κ ω} {key other : κ} (ne : other ≠ key)
    (about : deed.key? = some key) (holding : Holding ω) :
    deed.on selection other holding = holding := by
  simp [on, about, Ne.symm ne]

/-- A deed changes the key that it is about. -/
theorem on_self (selection : Selection) {deed : Deed κ ω} {key : κ}
    (about : deed.key? = some key) (holding : Holding ω) :
    deed.on selection key holding = deed.change selection holding := by
  simp [on, about]

/-- To do nothing changes no key. -/
theorem on_nothing (selection : Selection) (key : κ) (holding : Holding ω) :
    (nothing : Deed κ ω).on selection key holding = holding := by
  simp [on, key?, change]

/-- What makes a deed possible. -/
def Fits (store : Store κ ω) (hand : Hand κ ω) : Deed κ ω → Prop
  | take key object => store.selection.next? (store.live key).idle = some object
  | lend key => ∃ object, hand = .own key object
  | putBack key object => 0 < (store.live key).active ∧ hand = .back key object
  | stow key object => hand = .reset key object
  | _ => True

end Deed

variable [DecidableEq κ]

/-- What some entries list under a key, in their order. -/
def listedUnder {α : Type} (key : κ) (entries : List (κ × α)) : List α :=
  (entries.filter fun entry => entry.1 = key).map Prod.snd

/-- What is listed under a key stands in an entry with that key. -/
theorem mem_listedUnder {α : Type} {key : κ} {entries : List (κ × α)} {value : α} :
    value ∈ listedUnder key entries ↔ (key, value) ∈ entries := by
  simp [listedUnder]

/-- What the first entry lists comes first. -/
theorem listedUnder_cons {α : Type} (place key : κ) (value : α) (entries : List (κ × α)) :
    listedUnder place ((key, value) :: entries) =
      if key = place then value :: listedUnder place entries else listedUnder place entries := by
  by_cases hkey : key = place <;> simp [listedUnder, hkey]

/-- What some entries list comes before what later ones do. -/
theorem listedUnder_append {α : Type} (key : κ) (entries others : List (κ × α)) :
    listedUnder key (entries ++ others) = listedUnder key entries ++ listedUnder key others := by
  simp [listedUnder]

/-- What a store holds under a key. -/
def Store.holding (store : Store κ ω) (key : κ) : Holding ω := (store.live key).holding

namespace Pool

/-- **What is counted and noted of the answer to a call**, before the operation goes on. -/
def hear (pool : Pool κ ω ε) (stage : Stage κ ω ε) (answer : Answer ω ε) : Pool κ ω ε :=
  { pool with
    tally := (stage.event? answer).elim pool.tally pool.tally.bump
    notes := (stage.remark? pool.isClosed answer).toList ++ pool.notes }

/-- Hearing an answer leaves the store alone. -/
@[simp] theorem store_hear (pool : Pool κ ω ε) (stage : Stage κ ω ε) (answer : Answer ω ε) :
    (pool.hear stage answer).store = pool.store := rfl

/-- The answer to a call is counted once, if it is counted at all. -/
@[simp] theorem get_hear (pool : Pool κ ω ε) (stage : Stage κ ω ε) (answer : Answer ω ε)
    (event : Counter) : (pool.hear stage answer).tally.get event =
      pool.tally.get event + (if stage.event? answer = some event then 1 else 0) := by
  unfold hear
  cases stage.event? answer with
  | none => rfl
  | some heard => simp [eq_comm]

/-! ## Turns and their deeds -/

/-- **What one turn of an operation does.** The operation had `hand` in hand when the turn began,
and what it has in hand afterwards it had then or has taken; a turn that keeps a resource destroys
none. Apart from refusals it counts its deed and the destroy that it waits for, and none of its
notes is a report. -/
structure Turn.Does (pool : Pool κ ω ε) (hand : Hand κ ω) (turn : Turn κ ω ε) (deed : Deed κ ω) :
    Prop where
  rules_eq : turn.1.store.rules = pool.store.rules
  holding_eq : ∀ key, turn.1.store.holding key =
    deed.on pool.store.selection key (pool.store.holding key)
  fits : deed.Fits pool.store hand
  tally_eq : ∀ event, event ≠ .refusals → turn.1.tally.get event =
    pool.tally.get event + deed.tells event + turn.2.tells event
  reports_eq : turn.1.notes.filter Note.isReport = pool.notes.filter Note.isReport
  hand_cases : turn.2.hand = .free ∨ (turn.2.hand = hand ∧ deed = .nothing) ∨
    ∃ key object, turn.2.hand = .unready key object ∧ deed = .take key object
  settled : deed.keeps = true → turn.2.destroys = false

section composition

variable {pool : Pool κ ω ε} {hand hand' : Hand κ ω} {turn : Turn κ ω ε} {deed : Deed κ ω}

namespace Turn.Does

variable (does : Turn.Does pool hand turn deed)
include does

/-- Loans are counted by the deeds that begin them. -/
theorem get_borrowed :
    turn.1.tally.get .borrowed = pool.tally.get .borrowed + deed.tells .borrowed := by
  simp [does.tally_eq, Progress.tells_of_ne]

/-- Returns are counted by the deeds that keep what came back. -/
theorem get_returned :
    turn.1.tally.get .returned = pool.tally.get .returned + deed.tells .returned := by
  simp [does.tally_eq, Progress.tells_of_ne]

/-- Destroys are counted when they are called for. -/
theorem get_destroyed :
    turn.1.tally.get .destroyed = pool.tally.get .destroyed + turn.2.tells .destroyed := by
  simp [does.tally_eq, Deed.tells_of_ne]

/-- Everything else is counted when an answer is heard. -/
theorem get_other {event : Counter} (ne : event ≠ .borrowed ∧ event ≠ .returned ∧
    event ≠ .destroyed ∧ event ≠ .refusals) : turn.1.tally.get event = pool.tally.get event := by
  obtain ⟨hborrowed, hreturned, hdestroyed, hrefusals⟩ := ne
  rw [does.tally_eq event hrefusals, Deed.tells_of_ne _ hborrowed hreturned,
    Progress.tells_of_ne _ hdestroyed]
  rfl

end Turn.Does

/-- A routine note before a turn. -/
theorem Turn.Does.noted {entry : Note κ ε} (h : Turn.Does (pool.note entry) hand turn deed)
    (routine : entry.isReport = false) : Turn.Does pool hand turn deed := by
  refine ⟨h.rules_eq, h.holding_eq, h.fits, h.tally_eq, ?_, h.hand_cases, h.settled⟩
  rw [h.reports_eq]
  exact List.filter_cons_of_neg (by simp [routine])

/-- A change of the store before a turn that comes to nothing for what the keys hold. -/
theorem Turn.Does.after_same {next : Store κ ω}
    (second : Turn.Does { pool with store := next } hand turn deed)
    (rules_eq : next.rules = pool.store.rules)
    (holding_eq : ∀ key, next.holding key = pool.store.holding key) :
    Turn.Does pool hand turn deed := by
  have hselection : next.selection = pool.store.selection := congrArg Prod.fst rules_eq
  have hidle : ∀ key, (next.live key).idle = (pool.store.live key).idle := fun key =>
    congrArg Holding.idle (holding_eq key)
  have hactive : ∀ key, (next.live key).active = (pool.store.live key).active := fun key =>
    congrArg Holding.active (holding_eq key)
  refine ⟨second.rules_eq.trans rules_eq, ?_, ?_, second.tally_eq, second.reports_eq,
    second.hand_cases, second.settled⟩
  · intro key
    rw [← hselection, ← holding_eq]
    exact second.holding_eq key
  · have hfits := second.fits
    cases deed with
    | take key object =>
      show pool.store.selection.next? (pool.store.live key).idle = some object
      rw [← hselection, ← hidle]
      exact hfits
    | putBack key object =>
      show 0 < (pool.store.live key).active ∧ _
      rw [← hactive]
      exact hfits
    | _ => exact hfits

/-- A deed that counts nothing, before a turn that does nothing. -/
theorem Turn.Does.after {next : Store κ ω}
    (second : Turn.Does { pool with store := next } hand' turn .nothing)
    (rules_eq : next.rules = pool.store.rules)
    (holding_eq : ∀ key, next.holding key =
      deed.on pool.store.selection key (pool.store.holding key))
    (fits : deed.Fits pool.store hand) (silent : ∀ event, deed.tells event = 0)
    (hand_cases : turn.2.hand = .free ∨
      ∃ key object, turn.2.hand = .unready key object ∧ deed = .take key object)
    (settled : deed.keeps = true → turn.2.destroys = false) :
    Turn.Does pool hand turn deed where
  rules_eq := second.rules_eq.trans rules_eq
  holding_eq key := (second.holding_eq key).trans (holding_eq key)
  fits := fits
  tally_eq event ne := by
    rw [second.tally_eq event ne, silent event]
    rfl
  reports_eq := second.reports_eq
  hand_cases := hand_cases.imp_right .inr
  settled := settled

/-- A change of the slot of one key does what it does under that key. -/
theorem holding_of_update {store next : Store κ ω} {key : κ} {slot : Slot ω}
    (becomes : store.Becomes next (Function.update store.live key slot)) {deed : Deed κ ω}
    (about : deed.key? = some key)
    (slot_eq : slot.holding = deed.change store.selection (store.live key).holding) (other : κ) :
    next.holding other = deed.on store.selection other (store.holding other) := by
  unfold Store.holding
  rw [becomes.live_eq]
  by_cases hkey : other = key
  · rw [hkey, Function.update_self, slot_eq, Deed.on_self _ about]
  · rw [Function.update_of_ne hkey, Deed.on_of_ne _ hkey about]

/-- A change of a slot that is nothing to what it holds. -/
theorem holding_of_reserved {store next : Store κ ω} {key : κ} {slot : Slot ω}
    (becomes : store.Becomes next (Function.update store.live key slot))
    (same : slot.holding = (store.live key).holding) (other : κ) :
    next.holding other = store.holding other := by
  unfold Store.holding
  rw [becomes.live_eq]
  by_cases hkey : other = key
  · rw [hkey, Function.update_self, same]
  · rw [Function.update_of_ne hkey]

/-- A store that becomes what it shows keeps what the keys hold. -/
theorem holding_of_becomes {store next : Store κ ω} (becomes : store.Becomes next store.live)
    (key : κ) : next.holding key = store.holding key :=
  congrArg Slot.holding (becomes.live_eq key)

end composition

section turns

variable (pool : Pool κ ω ε)

/-- An operation that ends does nothing. -/
theorem does_finish (hand : Hand κ ω) (result : Result ω ε) :
    Turn.Does pool hand (pool.finish result) .nothing :=
  ⟨rfl, fun _ => rfl, trivial, fun _ _ => rfl, rfl, .inl rfl, nofun⟩

/-- A call that is no destroy. -/
theorem does_await {hand : Hand κ ω} {stage : Stage κ ω ε}
    (other : (Progress.waiting stage).destroys = false)
    (held : stage.hand = .free ∨ stage.hand = hand) :
    Turn.Does pool hand (pool.await stage) .nothing where
  rules_eq := rfl
  holding_eq _ := rfl
  fits := trivial
  tally_eq event _ := by simp [await, Progress.tells, other]
  reports_eq := rfl
  hand_cases := held.imp_right fun hsame => .inl ⟨hsame, rfl⟩
  settled := nofun

/-- Giving a resource to be destroyed is no deed. -/
theorem does_destroy (hand : Hand κ ω) (key : κ) (object : ω) (aftermath : Aftermath κ ω ε) :
    Turn.Does pool hand (pool.destroy key object aftermath) .nothing where
  rules_eq := rfl
  holding_eq _ := rfl
  fits := trivial
  tally_eq event _ := by simp [destroy, await, count, Progress.tells, Progress.destroys]
  reports_eq := rfl
  hand_cases := .inl rfl
  settled := nofun

/-! ### Borrowing -/

/-- Neither is giving a reservation up. -/
theorem does_abandon (sound : pool.store.Sound) {checkout : Checkout κ}
    (hid : pool.store.find? checkout.key = some checkout.slot) (hand : Hand κ ω)
    (result : Result ω ε) :
    Turn.Does pool hand ((pool.abandon checkout).finish result) .nothing := by
  apply ((pool.abandon checkout).does_finish hand result).after_same
  · simp [Store.cancel]
  · exact holding_of_reserved (pool.becomes_abandon sound hid) rfl

/-- Nor is turning to a fresh candidate. -/
theorem does_tryFresh (sound : pool.store.Sound) {checkout : Checkout κ}
    (hid : pool.store.find? checkout.key = some checkout.slot) (hand : Hand κ ω) (attempt : Nat) :
    Turn.Does pool hand (pool.tryFresh checkout attempt) .nothing := by
  unfold tryFresh
  split
  · exact pool.does_await rfl (.inl rfl)
  · exact pool.does_abandon sound hid hand _

/-- A borrow takes the next idle resource, if there is one. -/
theorem does_tryIdle (sound : pool.store.Sound) {checkout : Checkout κ}
    (hid : pool.store.find? checkout.key = some checkout.slot) (hand : Hand κ ω) :
    ∃ deed, Turn.Does pool hand (pool.tryIdle checkout) deed := by
  unfold tryIdle
  rcases Store.take_cases sound hid with
    ⟨-, htake⟩ | ⟨object, rest, next, htake, heq, -, hbecomes⟩
  · rw [htake]
    exact ⟨_, pool.does_tryFresh sound hid hand 1⟩
  · obtain ⟨hnext, hrest⟩ := Slot.take?_holding htake
    have hrules := Store.rules_take pool.store checkout.slot
    rw [heq] at hrules ⊢
    have hawait : Turn.Does { pool with store := next } (.unready checkout.key object)
        (({ pool with store := next } : Pool κ ω ε).await (.activating checkout .idle object))
        .nothing := does_await _ rfl (.inr rfl)
    have hholding : ∀ other, next.holding other = (Deed.take checkout.key object).on
        pool.store.selection other (pool.store.holding other) :=
      holding_of_update hbecomes rfl hrest
    exact ⟨_, hawait.after hrules hholding hnext (fun _ => rfl) (.inr ⟨_, _, rfl, rfl⟩) nofun⟩

/-- Looking for the next candidate takes one out at most. -/
theorem does_tryNext (sound : pool.store.Sound) {checkout : Checkout κ}
    (hid : pool.store.find? checkout.key = some checkout.slot) (hand : Hand κ ω)
    (origin : Origin) : ∃ deed, Turn.Does pool hand (pool.tryNext checkout origin) deed := by
  cases origin with
  | idle => exact pool.does_tryIdle sound hid hand
  | fresh attempt => exact ⟨_, pool.does_tryFresh sound hid hand _⟩

/-- Discarding a candidate is no deed, since it has been taken out before. -/
theorem does_discard (hand : Hand κ ω) (checkout : Checkout κ) (origin : Origin) (object : ω) :
    Turn.Does pool hand (pool.discard checkout origin object) .nothing := by
  have hdestroy := fun pool' : Pool κ ω ε => pool'.does_destroy hand checkout.key object
    (.quietly (.nextCandidate checkout origin))
  cases origin with
  | idle => exact hdestroy pool
  | fresh attempt => exact (hdestroy (pool.note _)).noted rfl

/-- A candidate that is ready is lent. -/
theorem does_handOut (sound : pool.store.Sound) {checkout : Checkout κ}
    (hid : pool.store.find? checkout.key = some checkout.slot) (object : ω) :
    Turn.Does pool (.own checkout.key object) (pool.handOut checkout (some object))
      (.lend checkout.key) where
  rules_eq := rfl
  holding_eq other := by
    have hcommit := Store.becomes_update sound hid Slot.commit (sound.live_current _)
    exact holding_of_update hcommit rfl rfl other
  fits := ⟨object, rfl⟩
  tally_eq event _ := by
    cases event <;> rfl
  reports_eq := rfl
  hand_cases := .inl rfl
  settled := nofun

/-- Starting a borrow takes one candidate out at most. -/
theorem does_borrow (sound : pool.store.Sound) (hand : Hand κ ω) (key : κ) :
    ∃ deed, Turn.Does pool hand (pool.borrow key) deed := by
  unfold borrow
  split
  · exact ⟨_, pool.does_finish hand _⟩
  · have hrules := Store.rules_reserve pool.store key pool.config.activeLimit
    rcases Store.reserve_cases sound key pool.config.activeLimit with
      ⟨-, hnone, hbecomes⟩ | ⟨-, id, hsome, hid, hbecomes⟩
    · generalize pool.store.reserve key pool.config.activeLimit = pass at hnone hbecomes hrules
      obtain ⟨found, next⟩ := pass
      cases hnone
      refine ⟨.nothing, hrules, holding_of_becomes hbecomes, trivial, ?_, rfl, .inl rfl, nofun⟩
      intro event ne
      cases event <;> first | rfl | exact absurd rfl ne
    · generalize pool.store.reserve key pool.config.activeLimit = pass at hsome hid hbecomes hrules
      obtain ⟨found, next⟩ := pass
      cases hsome
      have hchecked : next.find? (⟨key, id⟩ : Checkout κ).key = some id := hid
      obtain ⟨deed, hdeed⟩ := does_tryIdle { pool with store := next } hbecomes.sound hchecked hand
      exact ⟨deed, hdeed.after_same hrules (holding_of_reserved hbecomes rfl)⟩

/-! ### Taking back -/

/-- A return with nothing on loan does nothing with the keys. -/
theorem does_rejectUnborrowed (hand : Hand κ ω) (key : κ) (object : ω) :
    Turn.Does pool hand (pool.rejectUnborrowed key object) .nothing :=
  (does_destroy (pool.note (.returnedUnborrowed key)) hand key object
    (.quietly (.conclude (.failed .notBorrowed)))).noted rfl

/-- A turn that ends a loan and destroys its resource. The loan is not there any more if the slot is
not that of the key by now. -/
theorem does_endLoan_destroy (sound : pool.store.Sound) {key : κ} {slot : SlotId}
    (stands : pool.store.Stands key slot) (hand : Hand κ ω) (object : ω)
    (aftermath : Aftermath κ ω ε) :
    ∃ deed, (deed = .nothing ∨ deed = .release key) ∧
      Turn.Does pool hand ((pool.endLoan key slot).destroy key object aftermath) deed := by
  have hdestroy := (pool.endLoan key slot).does_destroy hand key object aftermath
  have hrules : (pool.endLoan key slot).store.rules = pool.store.rules := by
    simp [endLoan, Store.release]
  rcases pool.endLoan_cases sound stands with ⟨-, hbecomes⟩ | ⟨-, hbecomes⟩
  · have hholding : ∀ other, (pool.endLoan key slot).store.holding other =
        (Deed.release key).on pool.store.selection other (pool.store.holding other) :=
      holding_of_update hbecomes rfl rfl
    have hsettled : (Deed.release key : Deed κ ω).keeps = true →
        (((pool.endLoan key slot).destroy key object aftermath).2.destroys) = false :=
      fun hkeeps => absurd hkeeps Bool.false_ne_true
    exact ⟨_, .inr rfl, hdestroy.after hrules hholding trivial (fun _ => rfl) (.inl rfl) hsettled⟩
  · exact ⟨_, .inl rfl, hdestroy.after_same hrules (holding_of_becomes hbecomes)⟩

/-- A return that comes to its end keeps its resource, or the resource is destroyed. -/
theorem does_settle (sound : pool.store.Sound) {key : κ} {slot : SlotId}
    (stands : pool.store.Stands key slot) (object : ω) :
    ∃ deed, Turn.Does pool (.back key object) (pool.settle key slot object) deed ∧
      (deed = .putBack key object ∧ (pool.settle key slot object).2 = .finished .done ∨
        (deed = .nothing ∨ deed = .release key) ∧ ∃ result, (pool.settle key slot object).2 =
          .waiting (.destroying key object (.quietly (.conclude result)))) := by
  have hreject := pool.does_rejectUnborrowed (.back key object) key object
  have hrules := Store.rules_checkIn pool.store slot object
  unfold settle
  rcases stands with hid | hstale
  · rcases Store.checkIn_cases sound hid object with ⟨-, heq⟩ | ⟨hloaned, hback | hkept⟩
    · rw [heq]
      exact ⟨_, hreject, .inr ⟨.inl rfl, _, rfl⟩⟩
    · obtain ⟨reason, next, hreason, heq, hbecomes⟩ := hback
      have hpruned := hbecomes.prune key
      have hdestroy := does_destroy { pool with store := (next.prune key).2 } (.back key object) key
        object (.quietly (.conclude .done))
      rw [heq] at hrules
      have hturn : Turn.Does pool (.back key object)
          (({ pool with store := (next.prune key).2 } : Pool κ ω ε).destroyQuietly key object
            (.conclude .done)) (.release key) := by
        refine hdestroy.after ((Store.rules_prune _ _).trans hrules) ?_ trivial (fun _ => rfl)
          (.inl rfl) nofun
        intro other
        exact holding_of_update hpruned rfl rfl other
      rw [heq]
      cases reason with
      | unborrowed => exact absurd rfl hreason
      | _ => exact ⟨_, hturn, .inr ⟨.inr rfl, _, rfl⟩⟩
    · obtain ⟨next, heq, hbecomes⟩ := hkept
      rw [heq] at hrules ⊢
      refine ⟨.putBack key object,
        ⟨hrules, ?_, ⟨hloaned, rfl⟩, ?_, rfl, .inl rfl, fun _ => rfl⟩, .inl ⟨rfl, rfl⟩⟩
      · intro other
        exact holding_of_update hbecomes rfl rfl other
      · intro event _
        cases event <;> rfl
  · rw [Store.checkIn_of_stale sound hstale]
    exact ⟨_, hreject, .inr ⟨.inl rfl, _, rfl⟩⟩

/-- Starting a return ends the loan at once if the pool is closed, and does nothing otherwise. -/
theorem does_giveBack (sound : pool.store.Sound) (hand : Hand κ ω) (key : κ) (object : ω) :
    ∃ deed, (deed = .nothing ∨ deed = .release key) ∧
      Turn.Does pool hand (pool.giveBack key object) deed := by
  unfold giveBack
  split
  · exact ⟨_, .inl rfl, pool.does_rejectUnborrowed hand key object⟩
  · next slot hid =>
    split
    · exact ⟨_, .inl rfl, pool.does_rejectUnborrowed hand key object⟩
    split
    · exact pool.does_endLoan_destroy sound (.inl hid) hand object (.quietly (.conclude .done))
    split
    · exact ⟨_, .inl rfl, pool.does_await rfl (.inl rfl)⟩
    · exact ⟨_, .inl rfl, pool.does_await rfl (.inl rfl)⟩

/-- Starting an invalidation ends a loan, if there is one. -/
theorem does_invalidate (sound : pool.store.Sound) (hand : Hand κ ω) (key : κ) (object : ω) :
    ∃ deed, (deed = .nothing ∨ deed = .release key) ∧
      Turn.Does pool hand (pool.invalidate key object) deed := by
  unfold invalidate
  split
  · next slot hid => exact pool.does_endLoan_destroy sound (.inl hid) hand object .surfaceIfOpen
  · exact ⟨_, .inl rfl, pool.does_destroy hand key object .surfaceIfOpen⟩

/-! ### Adding -/

/-- Going on with an addition is no deed. -/
theorem does_addMore (hand : Hand κ ω) (key : κ) (left : Nat) :
    Turn.Does pool hand (pool.addMore key left) .nothing := by
  cases left with
  | zero => exact pool.does_finish hand _
  | succ left =>
    simp only [addMore]
    split
    · exact pool.does_finish hand _
    · exact pool.does_await rfl (.inl rfl)

/-- An addition that goes on has nothing in hand and nothing to destroy. -/
theorem addMore_snd (key : κ) (left : Nat) :
    (pool.addMore key left).2.hand = .free ∧ (pool.addMore key left).2.destroys = false := by
  cases left with
  | zero => exact ⟨rfl, rfl⟩
  | succ left =>
    simp only [addMore]
    split <;> exact ⟨rfl, rfl⟩

/-- A fresh resource is stowed, or else it goes on to be destroyed. -/
theorem does_park (sound : pool.store.Sound) (key : κ) (left : Nat) (object : ω) :
    ∃ deed, Turn.Does pool (.reset key object) (pool.park key left object) deed ∧
      (deed = .stow key object ∨ ∃ sequel, (pool.park key left object).2 =
        .waiting (.destroying key object (.quietly sequel))) := by
  have hrules := Store.rules_deposit pool.store key object
  unfold park
  rcases Store.deposit_cases sound key object with hback | hkept
  · obtain ⟨reason, next, -, heq, hbecomes⟩ := hback
    have hdestroy := fun sequel => (does_destroy { pool with store := next } (.reset key object)
      key object (.quietly sequel))
    have hnoted := fun sequel => (does_destroy
      (({ pool with store := next } : Pool κ ω ε).note (.idleFull key)) (.reset key object) key
      object (.quietly sequel)).noted rfl
    rw [heq] at hrules ⊢
    refine ⟨.nothing, ?_⟩
    cases reason with
    | storeSealed =>
      exact ⟨(hdestroy (.conclude (.failed .closed))).after_same hrules
        (holding_of_becomes hbecomes), .inr ⟨_, rfl⟩⟩
    | _ =>
      exact ⟨(hnoted (.addMore left)).after_same hrules (holding_of_becomes hbecomes),
        .inr ⟨_, rfl⟩⟩
  · obtain ⟨next, heq, hbecomes⟩ := hkept
    rw [heq] at hrules ⊢
    have hmore := does_addMore { pool with store := next } (.reset key object) key left
    obtain ⟨hhand, hdestroys⟩ := addMore_snd { pool with store := next } key left
    have hholding : ∀ other, next.holding other = (Deed.stow key object).on
        pool.store.selection other (pool.store.holding other) :=
      holding_of_update hbecomes rfl rfl
    exact ⟨_, hmore.after hrules hholding rfl (fun _ => rfl) (.inl hhand) fun _ => hdestroys,
      .inl rfl⟩

/-! ### Clearing and closing -/

/-- Destroying what has been taken out is no deed. -/
theorem does_sweep (hand : Hand κ ω) (objects : List (κ × ω)) (result : Result ω ε) :
    Turn.Does pool hand (pool.sweep objects result) .nothing := by
  cases objects with
  | nil => exact pool.does_finish hand result
  | cons entry rest => exact pool.does_destroy hand _ _ _

/-- Clearing a key takes out all that is idle there. -/
theorem does_clearKey (sound : pool.store.Sound) (hand : Hand κ ω) (key : κ) :
    Turn.Does pool hand (pool.clearKey key) (.emptyKey key) := by
  have hbecomes := Store.becomes_drain sound key
  have hrules := Store.rules_drain pool.store key
  unfold clearKey
  generalize pool.store.drain key = drained at hbecomes hrules
  obtain ⟨objects, store⟩ := drained
  have hholding : ∀ other, store.holding other =
      (Deed.emptyKey key).on pool.store.selection other (pool.store.holding other) := by
    intro other
    exact holding_of_update hbecomes rfl rfl other
  cases objects with
  | nil =>
    exact (does_finish { pool with store := store } hand .done).after hrules hholding trivial
      (fun _ => rfl) (.inl rfl) nofun
  | cons object rest =>
    exact (does_destroy (({ pool with store := store } : Pool κ ω ε).note _) hand _ _ _).noted rfl
      |>.after hrules hholding trivial (fun _ => rfl) (.inl rfl) nofun

/-- Clearing takes out all that is idle. -/
theorem does_clear (sound : pool.store.Sound) (hand : Hand κ ω) (result : Result ω ε) :
    Turn.Does pool hand (pool.clear result) .emptyAll := by
  have hbecomes := Store.becomes_drainAll sound
  have hrules := Store.rules_drainAll pool.store
  unfold clear
  generalize pool.store.drainAll = drained at hbecomes hrules
  obtain ⟨objects, store⟩ := drained
  have hholding : ∀ other, store.holding other =
      (Deed.emptyAll : Deed κ ω).on pool.store.selection other (pool.store.holding other) :=
    fun other => congrArg Slot.holding (hbecomes.live_eq other)
  cases objects with
  | nil =>
    exact (does_finish { pool with store := store } hand result).after hrules hholding trivial
      (fun _ => rfl) (.inl rfl) nofun
  | cons entry rest =>
    exact (does_destroy (({ pool with store := store } : Pool κ ω ε).note _) hand _ _ _).noted rfl
      |>.after hrules hholding trivial (fun _ => rfl) (.inl rfl) nofun

/-- A pool that has just been sealed, with the note of it. -/
def shut (pool : Pool κ ω ε) : Pool κ ω ε :=
  ({ pool with store := pool.store.sealUp.2 } : Pool κ ω ε).note (.closing pool.store.totalActive)

/-- Closing an open pool seals it and clears it. -/
theorem close_of_open (isOpen : pool.isClosed = false) (result : Result ω ε) :
    pool.close result = pool.shut.clear result := by
  have hsealed : pool.store.isSealed = false := isOpen
  simp only [close, Store.sealUp, hsealed, Bool.not_false]
  rfl

/-- **The closing of a pool** that is open. -/
theorem does_close (sound : pool.store.Sound) (hand : Hand κ ω) (isOpen : pool.isClosed = false)
    (result : Result ω ε) : Turn.Does pool.shut hand (pool.close result) .emptyAll := by
  rw [pool.close_of_open isOpen]
  exact pool.shut.does_clear (Store.sound_sealUp sound) hand result

/-! ### Going on -/

/-- After a destroy a borrow may take the next candidate out. -/
theorem does_proceed (sound : pool.store.Sound) (hand : Hand κ ω) (key : κ)
    {sequel : Sequel κ ω ε} (holds : pool.store.Holds sequel.checkout?) :
    ∃ deed, Turn.Does pool hand (pool.proceed key sequel) deed := by
  cases sequel with
  | nextCandidate checkout origin =>
    exact pool.does_tryNext sound (holds checkout rfl).1 hand origin
  | unwind checkout reason => exact ⟨_, pool.does_abandon sound (holds checkout rfl).1 hand _⟩
  | conclude result => exact ⟨_, pool.does_finish hand result⟩
  | sweep rest result => exact ⟨_, pool.does_sweep hand rest result⟩
  | addMore left => exact ⟨_, pool.does_addMore hand key left⟩

/-- An activated candidate is lent, unless it has to be validated first. -/
theorem does_afterActivation (sound : pool.store.Sound) {checkout : Checkout κ}
    (hid : pool.store.find? checkout.key = some checkout.slot) (origin : Origin) (object : ω) :
    ∃ deed, Turn.Does pool (.own checkout.key object)
      (pool.afterActivation checkout origin object) deed := by
  unfold afterActivation
  split
  · exact ⟨_, pool.does_await rfl (.inr rfl)⟩
  · exact ⟨_, pool.does_handOut sound hid object⟩

/-- The end of a destroy, whatever its answer. -/
theorem does_destroyed (sound : pool.store.Sound) (key : κ) (object : ω)
    {aftermath : Aftermath κ ω ε}
    (holds : pool.store.Holds (Stage.destroying key object aftermath).checkout?)
    (answer : Answer ω ε) :
    ∃ deed, Turn.Does (pool.hear (.destroying key object aftermath) answer) .free
      (pool.resume (.destroying key object aftermath) answer) deed := by
  cases aftermath with
  | surface => cases answer <;> exact ⟨_, does_finish _ .free _⟩
  | surfaceIfOpen =>
    cases answer with
    | failed error =>
      refine ⟨.nothing, ?_⟩
      simp only [resume, afterDestroyFailure, hear, Stage.event?, Stage.remark?]
      cases hclosed : pool.isClosed with
      | true =>
        have hcounted : (pool.count .destroyFailures).isClosed = true := hclosed
        rw [hcounted]
        exact does_finish _ .free _
      | false =>
        have hcounted : (pool.count .destroyFailures).isClosed = false := hclosed
        rw [hcounted]
        exact does_finish _ .free _
    | _ => exact ⟨_, does_finish _ .free _⟩
  | quietly sequel =>
    cases answer with
    | done _ => exact pool.does_proceed sound .free key holds
    | refused _ => exact pool.does_proceed sound .free key holds
    | failed error =>
      exact does_proceed ((pool.count .destroyFailures).note (.destroyFailed key error)) sound .free
        key holds
    | panicked reason =>
      cases sequel with
      | nextCandidate checkout origin =>
        exact ⟨_, pool.does_abandon sound (holds checkout rfl).1 .free _⟩
      | unwind checkout first =>
        exact ⟨_, pool.does_abandon sound (holds checkout rfl).1 .free _⟩
      | _ => exact ⟨_, pool.does_finish .free _⟩

/-- **What the first turn of an operation does**, if it does not close the pool. -/
theorem does_start (sound : pool.store.Sound) {operation : Operation κ ω}
    (other : operation ≠ .close) : ∃ deed, Turn.Does pool .free (pool.start operation) deed := by
  cases operation with
  | borrow key => exact pool.does_borrow sound .free key
  | giveBack key object =>
    obtain ⟨deed, -, hdoes⟩ := pool.does_giveBack sound .free key object
    exact ⟨deed, hdoes⟩
  | invalidate key object =>
    obtain ⟨deed, -, hdoes⟩ := pool.does_invalidate sound .free key object
    exact ⟨deed, hdoes⟩
  | prefill key count => exact ⟨_, pool.does_addMore .free key count⟩
  | clearKey key => exact ⟨_, pool.does_clearKey sound .free key⟩
  | clear => exact ⟨_, pool.does_clear sound .free .done⟩
  | close => exact absurd rfl other

/-- **What every later turn of an operation does**, when the answer has been heard. -/
theorem does_resume (sound : pool.store.Sound) (stage : Stage κ ω ε)
    (holds : pool.store.Holds stage.checkout?)
    (stands : ∀ key slot, stage.foothold? = some (key, slot) → pool.store.Stands key slot)
    (answer : Answer ω ε) :
    ∃ deed, Turn.Does (pool.hear stage answer) (stage.handAfter answer)
      (pool.resume stage answer) deed := by
  cases stage with
  | creating checkout attempt =>
    have hid := (holds checkout rfl).1
    cases answer with
    | failed error => exact ⟨_, pool.does_abandon sound hid .free _⟩
    | panicked reason => exact ⟨_, pool.does_abandon sound hid .free _⟩
    | _ => exact ⟨_, does_await _ rfl (.inr rfl)⟩
  | activating checkout origin object =>
    have hid := (holds checkout rfl).1
    cases answer with
    | failed error => exact ⟨_, does_discard _ .free checkout origin object⟩
    | panicked reason => exact ⟨_, does_destroy _ .free _ _ _⟩
    | _ => exact pool.does_afterActivation sound hid origin _
  | validating checkout origin object =>
    have hid := (holds checkout rfl).1
    cases answer with
    | done _ => exact ⟨_, pool.does_handOut sound hid object⟩
    | panicked reason => exact ⟨_, does_destroy _ .free _ _ _⟩
    | _ => exact ⟨_, does_discard _ .free checkout origin object⟩
  | inspecting key slot object =>
    have hscrap := fun entry => does_endLoan_destroy
      ((pool.count .validationFailures).note entry) sound (stands key slot rfl) .free object
      .surface
    cases answer with
    | done _ => exact ⟨_, does_await _ rfl (.inl rfl)⟩
    | panicked reason => exact ⟨_, does_finish _ .free _⟩
    | refused _ =>
      obtain ⟨deed, -, hdoes⟩ := hscrap (.validationRejected key)
      exact ⟨deed, hdoes⟩
    | failed error =>
      obtain ⟨deed, -, hdoes⟩ := hscrap (.validationFailed key error)
      exact ⟨deed, hdoes⟩
  | passivating key slot object =>
    have hstands := stands key slot rfl
    cases answer with
    | failed error =>
      obtain ⟨deed, -, hdoes⟩ := does_endLoan_destroy
        ((pool.count .passivationFailures).note (.passivationFailed key error)) sound hstands .free
        object .surface
      exact ⟨deed, hdoes⟩
    | panicked reason => exact ⟨_, does_finish _ .free _⟩
    | done object =>
      obtain ⟨deed, hdoes, -⟩ := pool.does_settle sound hstands object
      exact ⟨deed, hdoes⟩
    | refused object =>
      obtain ⟨deed, hdoes, -⟩ := pool.does_settle sound hstands object
      exact ⟨deed, hdoes⟩
  | making key left =>
    cases answer with
    | failed error => exact ⟨_, does_finish _ .free _⟩
    | panicked reason => exact ⟨_, does_finish _ .free _⟩
    | _ => exact ⟨_, does_await _ rfl (.inr rfl)⟩
  | parking key left object =>
    cases answer with
    | done object =>
      obtain ⟨deed, hdoes, -⟩ := pool.does_park sound key left object
      exact ⟨deed, hdoes⟩
    | refused object =>
      obtain ⟨deed, hdoes, -⟩ := pool.does_park sound key left object
      exact ⟨deed, hdoes⟩
    | failed error => exact ⟨_, does_destroy _ .free _ _ _⟩
    | panicked reason => exact ⟨_, does_finish _ .free _⟩
  | destroying key object aftermath => exact pool.does_destroyed sound key object holds answer

end turns

end Pool

end ResourcePool
