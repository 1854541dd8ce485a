import ResourcePool.Proofs.Pool.Custody
import ResourcePool.Proofs.Session.History

/-!
# The books of a session

The books of a session say where every resource is: idle, in the hands of an operation or in a
guard, on loan to a client, or gone. This module keeps them through the single things that happen: a
call is answered, a turn is taken, a call is made, a resource is lent or comes back.

* `sheetOf` — the sheet of the books.
* `Custody` — the books are right: the trace so far leads to that sheet, and the loans of the store
  are those in the books.
* `Custody.turn` — a balanced turn keeps them right; `Custody.answer`, `Custody.call`,
  `Custody.lend`, `Custody.handBack` — so do the other happenings.
-/

set_option linter.unusedSectionVars false

namespace ResourcePool.Session

variable {κ ω ε ι : Type} [DecidableEq κ]

/-- The sheet of the idle resources of a pool, the resources in some hands, those that clients hold
themselves and those that are gone. -/
def sheetOf (ident : ω → ι) (pool : Pool κ ω ε) (hands : List (κ × ω × Phase))
    (lent gone : κ → Multiset ι) : Sheet κ ι := fun key =>
  (pool.stock key + under key hands).map (fun value => (ident value.1, value.2)) +
    (lent key).map (fun name => (name, .lent)) + (gone key).map fun name => (name, .destroyed)

/-- **The books are right.** The trace is accepted and leads to the sheet of the books; every loan
of the store is that of a return in progress, of a resource that is `out`, or of a client; and the
returns in progress have the slots of their keys. -/
structure Custody (config : Config) (ident : ω → ι) (trace : List (κ × ι × Mark))
    (lent gone : κ → Multiset ι) (pool : Pool κ ω ε) (hands : List (κ × ω × Phase))
    (returning : List (κ × SlotId)) (out : List κ) : Prop where
  path : Path config trace (sheetOf ident pool hands lent gone)
  active_eq : ∀ key, (pool.store.live key).active =
    (returning.map Prod.fst).count key + out.count key + (lent key).card
  linked : ∀ entry ∈ returning, pool.store.find? entry.1 = some entry.2

section sheets

variable (ident : ω → ι) (pool : Pool κ ω ε) (hands : List (κ × ω × Phase))
  (lent gone : κ → Multiset ι)

/-- A resource in hand is one entry of the sheet. -/
theorem sheetOf_cons (entry : κ × ω × Phase) (key : κ) :
    sheetOf ident pool (entry :: hands) lent gone key =
      sheetOf ident pool hands lent gone key +
        under key [(entry.1, (ident entry.2.1, entry.2.2))] := by
  have hone : under key [(entry.1, (ident entry.2.1, entry.2.2))] =
      (under key [entry]).map fun value => (ident value.1, value.2) :=
    under_map key (fun value : ω × Phase => (ident value.1, value.2)) [entry]
  unfold sheetOf
  rw [under_cons, hone, Multiset.map_add, Multiset.map_add, Multiset.map_add]
  abel

/-- The sheet lists what is in hand. -/
theorem mem_sheetOf {key : κ} {object : ω} {phase : Phase} (h : (key, (object, phase)) ∈ hands) :
    (ident object, phase) ∈ sheetOf ident pool hands lent gone key := by
  have hunder : (object, phase) ∈ pool.stock key + under key hands :=
    Multiset.mem_add.mpr (.inr (mem_under.mpr h))
  refine Multiset.mem_add.mpr (.inl (Multiset.mem_add.mpr (.inl ?_)))
  exact Multiset.mem_map.mpr ⟨(object, phase), hunder, rfl⟩

/-- A resource that a client holds is one entry of the sheet. -/
theorem sheetOf_lent (entries : List (κ × ω)) (key : κ) :
    sheetOf ident pool hands (fun key => lent key + (under key entries).map ident) gone key =
      sheetOf ident pool
        ((entries.map fun entry => (entry.1, (entry.2, Phase.lent))) ++ hands) lent gone key := by
  have hentries := under_map key (fun object => (object, Phase.lent)) entries
  unfold sheetOf
  rw [under_append, hentries]
  simp only [Multiset.map_add, Multiset.map_map, Function.comp_def]
  abel

/-- So is one that is gone. -/
theorem sheetOf_gone (entries : List (κ × ω)) (key : κ) :
    sheetOf ident pool hands lent (fun key => gone key + (under key entries).map ident) key =
      sheetOf ident pool
        ((entries.map fun entry => (entry.1, (entry.2, Phase.destroyed))) ++ hands)
        lent gone key := by
  have hentries := under_map key (fun object => (object, Phase.destroyed)) entries
  unfold sheetOf
  rw [under_append, hentries]
  simp only [Multiset.map_add, Multiset.map_map, Function.comp_def]
  abel

end sheets

section books

variable {config : Config} {ident : ω → ι} {trace : List (κ × ι × Mark)}
  {lent gone : κ → Multiset ι} {pool : Pool κ ω ε} {hands : List (κ × ω × Phase)}
  {returning : List (κ × SlotId)} {out : List κ}

/-- The same books, written in another way. -/
theorem Custody.regroup (custody : Custody config ident trace lent gone pool hands returning out)
    {lent' gone' : κ → Multiset ι} {hands' : List (κ × ω × Phase)}
    {returning' : List (κ × SlotId)} {out' : List κ}
    (sheet_eq : ∀ key, sheetOf ident pool hands' lent' gone' key =
      sheetOf ident pool hands lent gone key)
    (active_eq : ∀ key,
      (returning'.map Prod.fst).count key + out'.count key + (lent' key).card =
        (returning.map Prod.fst).count key + out.count key + (lent key).card)
    (returning_sub : ∀ entry ∈ returning', entry ∈ returning) :
    Custody config ident trace lent' gone' pool hands' returning' out' where
  path := by
    rw [funext sheet_eq]
    exact custody.path
  active_eq key := by
    rw [active_eq]
    exact custody.active_eq key
  linked entry hentry := custody.linked entry (returning_sub entry hentry)

/-- The order of the hands does not matter. -/
theorem Custody.perm (custody : Custody config ident trace lent gone pool hands returning out)
    {hands' : List (κ × ω × Phase)} {out' : List κ} (hands_perm : hands'.Perm hands)
    (out_perm : out'.Perm out) :
    Custody config ident trace lent gone pool hands' returning out' := by
  refine custody.regroup ?_ ?_ fun _ h => h
  · intro key
    unfold sheetOf
    rw [under_perm hands_perm]
  · intro key
    rw [out_perm.count_eq]

/-- Something happens to a resource in hand; its state may change, its name does not. -/
theorem Custody.mark {key : κ} {object changed : ω} {phase next : Phase} {mark : Mark}
    (custody : Custody config ident trace lent gone pool ((key, (object, phase)) :: hands)
      returning out)
    (happens : phase.next? config mark = some next) (made : phase ≠ .unmade)
    (name_eq : ident changed = ident object) :
    Custody config ident ((key, (ident object, mark)) :: trace) lent gone pool
      ((key, (changed, next)) :: hands) returning out := by
  refine ⟨custody.path.cons ⟨phase, next, sheetOf ident pool hands lent gone, happens,
    ?_, ?_⟩, custody.active_eq, custody.linked⟩
  · intro other
    rw [sheetOf_cons, Sheet.one_eq made]
  · intro other
    rw [sheetOf_cons, Sheet.one_eq (Phase.next?_ne_unmade happens), name_eq]

/-- A resource is created into the hands of an operation. -/
theorem Custody.create
    (custody : Custody config ident trace lent gone pool hands returning out) (key : κ)
    (object : ω) (adding : Bool) :
    Custody config ident ((key, (ident object, .created adding)) :: trace) lent gone pool
      ((key, (object, .fresh adding)) :: hands) returning out := by
  refine ⟨custody.path.cons ⟨.unmade, .fresh adding, sheetOf ident pool hands lent gone, rfl,
    fun other => (add_zero _).symm, ?_⟩, custody.active_eq, custody.linked⟩
  intro other
  exact sheetOf_cons ident pool hands lent gone (key, (object, .fresh adding)) other

/-! ## Turns -/

/-- A loan that somebody answers for counts once under its key. -/
theorem count_toList (loan : Option κ) (key : κ) : loan.toList.count key = owing key loan := by
  cases loan with
  | none => rfl
  | some other =>
    rw [Option.toList_some, List.count_singleton]
    unfold owing
    by_cases hkey : other = key
    · simp [hkey]
    · simp [hkey]

/-- **A balanced turn keeps the books right.** What the operation had in hand is taken for a last
time, waits to be destroyed or is idle; and the returns in progress keep their slots, because their
loans are still counted. -/
theorem Custody.turn {own : Option (Checkout κ)} {loan : Option κ}
    {given : List (κ × ω × Phase)} {owed : Option ω} {turn : Pool.Turn κ ω ε}
    (custody : Custody config ident trace lent gone pool (given ++ hands) returning
      (loan.toList ++ out))
    (config_eq : pool.config = config)
    (becomes : pool.store.Becomes turn.1.store turn.1.store.live)
    (balanced : Pool.Turn.Balanced pool own loan given owed turn) :
    ∃ taken, turn.2.Takes config own taken ∧
      Custody config ident trace lent gone turn.1 (taken ++ (parked turn.2.queue ++ hands))
        (turn.2.foothold?.toList ++ returning) ((turn.2.lentUnder own).toList ++ out) := by
  obtain ⟨taken, htakes, hobjects⟩ := balanced.objects
  rw [config_eq] at htakes
  have hactive : ∀ key, (turn.1.store.live key).active =
      ((turn.2.foothold?.toList ++ returning).map Prod.fst).count key +
        ((turn.2.lentUnder own).toList ++ out).count key + (lent key).card := by
    intro key
    have hbefore := custody.active_eq key
    have hturn := balanced.loans key
    have hfoothold : (turn.2.foothold?.toList.map Prod.fst).count key =
        owing key (turn.2.foothold?.map Prod.fst) := by
      rw [← count_toList, Option.toList_map]
    rw [List.count_append, count_toList] at hbefore
    rw [List.map_append, List.count_append, List.count_append, count_toList, hfoothold]
    omega
  refine ⟨taken, htakes, ?_, hactive, ?_⟩
  · have hsheet : sheetOf ident turn.1 (taken ++ (parked turn.2.queue ++ hands)) lent gone =
        sheetOf ident pool (given ++ hands) lent gone := by
      funext key
      have hheld : turn.1.stock key + under key (taken ++ (parked turn.2.queue ++ hands)) =
          pool.stock key + under key (given ++ hands) := by
        rw [under_append, under_append, under_append]
        calc
          _ = turn.1.stock key + under key (parked turn.2.queue) + under key taken +
              under key hands := by abel
          _ = pool.stock key + under key given + under key hands := by rw [hobjects]
          _ = pool.stock key + (under key given + under key hands) := add_assoc _ _ _
      unfold sheetOf
      rw [hheld]
    rw [hsheet]
    exact custody.path
  · intro entry hentry
    rcases List.mem_append.mp hentry with hnew | hrest
    · have hfoothold := Option.mem_toList.mp hnew
      exact balanced.linked entry.1 entry.2 hfoothold
    · refine becomes.keeps (custody.linked entry hrest) (Bool.eq_false_iff.mpr ?_)
      intro hvacant
      have hnone := (Slot.isVacant_iff.mp hvacant).2.1
      have hcounted : 0 < ((turn.2.foothold?.toList ++ returning).map Prod.fst).count entry.1 :=
        List.count_pos_iff.mpr (List.mem_map_of_mem hentry)
      rw [hactive] at hnone
      omega

/-! ## Calls and answers -/

/-- Books with nothing new in them. -/
theorem gone_nothing (gone : κ → Multiset ι) :
    (fun key => gone key + (under key ([] : List (κ × ω))).map ident) = gone := by
  funext key
  exact add_zero _

/-- A call is to destroy a resource, or its resource stays in hand. -/
theorem call_cases (stage : Stage κ ω ε) :
    (∃ key object aftermath, stage = .destroying key object aftermath) ∨
    (stage.request.destroys = [] ∧ stage.queue = [] ∧ stage.inHand = stage.subject?.toList ∧
      stage.request.marks = stage.subject?.toList.map fun entry =>
        (entry.1, (entry.2.1, .called stage.request.step))) := by
  cases stage with
  | destroying key object aftermath => exact .inl ⟨key, object, aftermath, rfl⟩
  | _ => exact .inr ⟨rfl, rfl, rfl, rfl⟩

/-- The call of an operation keeps the books right: the resource that it is for goes into the phase
of the call, and it is gone if it is to be destroyed. -/
theorem Custody.call {own : Option (Checkout κ)} {stage : Stage κ ω ε}
    {taken : List (κ × ω × Phase)} (takes : (Progress.waiting stage).Takes config own taken)
    (custody : Custody config ident trace lent gone pool
      (taken ++ (parked stage.queue ++ hands)) returning out) :
    Custody config ident (named ident stage.request.marks ++ trace) lent
      (fun key => gone key + (under key stage.request.destroys).map ident) pool
      (stage.inHand ++ hands) returning out := by
  have hmarked : ∀ {key object phase next rest}, stage.subject? = some (key, object, next) →
      phase.next? config (.called stage.request.step) = some next →
      Custody config ident trace lent gone pool ((key, (object, phase)) :: rest) returning out →
      Custody config ident ((key, (ident object, .called stage.request.step)) :: trace) lent gone
        pool ((key, (object, next)) :: rest) returning out := by
    intro key object phase next rest _ hnext hbefore
    refine hbefore.mark hnext ?_ rfl
    intro hunmade
    subst hunmade
    obtain ⟨adding, hmark⟩ := Phase.next?_unmade hnext
    cases hmark
  rcases call_cases stage with ⟨key, object, aftermath, rfl⟩ | ⟨hgone, hqueue, hhand, hmarks⟩
  · cases takes with
    | makes subject => cases subject
    | asks subject called =>
      have hafter := hmarked subject called custody
      cases subject
      exact hafter.regroup (sheetOf_gone ident pool _ lent gone [(key, object)]) (fun _ => rfl)
        fun _ h => h
  · rw [hgone, gone_nothing, hhand, hmarks]
    rw [hqueue] at custody
    cases takes with
    | makes subject =>
      rw [subject]
      exact custody
    | asks subject called =>
      have hafter := hmarked subject called custody
      rw [subject]
      exact hafter

/-- **An answer that is not a panic keeps the books right**, if the resource of the call keeps its
name. -/
theorem Custody.answer {stage : Stage κ ω ε} {answer : Answer ω ε}
    (custody : Custody config ident trace lent gone pool (stage.inHand ++ hands) returning out)
    (calm : ∀ reason, answer ≠ .panicked reason)
    (keeps : ∀ change ∈ stage.request.changes answer, ident change.2 = ident change.1) :
    Custody config ident (named ident (stage.report answer) ++ trace) lent gone pool
      (stage.answered answer ++ hands) returning out := by
  cases stage with
  | creating checkout attempt =>
    cases answer with
    | done object => exact custody.create checkout.key object false
    | refused object => exact custody.create checkout.key object false
    | failed error => exact custody
    | panicked reason => exact absurd rfl (calm reason)
  | making key left =>
    cases answer with
    | done object => exact custody.create key object true
    | refused object => exact custody.create key object true
    | failed error => exact custody
    | panicked reason => exact absurd rfl (calm reason)
  | activating checkout origin object =>
    cases answer with
    | done changed =>
      exact custody.mark rfl (by simp) (keeps (object, changed) List.mem_cons_self)
    | refused changed =>
      exact custody.mark rfl (by simp) (keeps (object, changed) List.mem_cons_self)
    | failed error => exact custody.mark rfl (by simp) rfl
    | panicked reason => exact absurd rfl (calm reason)
  | validating checkout origin object =>
    cases answer with
    | panicked reason => exact absurd rfl (calm reason)
    | _ => exact custody.mark rfl (by simp) rfl
  | inspecting key slot object =>
    cases answer with
    | panicked reason => exact absurd rfl (calm reason)
    | _ => exact custody.mark rfl (by simp) rfl
  | passivating key slot object =>
    cases answer with
    | done changed =>
      exact custody.mark rfl (by simp) (keeps (object, changed) List.mem_cons_self)
    | refused changed =>
      exact custody.mark rfl (by simp) (keeps (object, changed) List.mem_cons_self)
    | failed error => exact custody.mark rfl (by simp) rfl
    | panicked reason => exact absurd rfl (calm reason)
  | parking key left object =>
    cases answer with
    | done changed =>
      exact custody.mark rfl (by simp) (keeps (object, changed) List.mem_cons_self)
    | refused changed =>
      exact custody.mark rfl (by simp) (keeps (object, changed) List.mem_cons_self)
    | failed error => exact custody.mark rfl (by simp) rfl
    | panicked reason => exact absurd rfl (calm reason)
  | destroying key object aftermath =>
    cases answer with
    | panicked reason => exact absurd rfl (calm reason)
    | _ => exact custody

/-! ## Loans -/

/-- A resource that is ready is lent to a client. -/
theorem Custody.lend {key : κ} {object : ω}
    (custody : Custody config ident trace lent gone pool ((key, (object, config.ready)) :: hands)
      returning (key :: out)) :
    Custody config ident ((key, (ident object, .lent)) :: trace)
      (fun other => lent other + (under other [(key, object)]).map ident) gone pool hands returning
      out := by
  have hmade : config.ready ≠ .unmade := by
    unfold Config.ready
    split <;> simp
  have hlent := custody.mark (Phase.next?_ready config) hmade rfl
  refine hlent.regroup (sheetOf_lent ident pool hands lent gone [(key, object)]) ?_
    fun _ h => h
  intro other
  rw [Multiset.card_add, Multiset.card_map, List.count_cons]
  by_cases hkey : key = other
  · rw [hkey, under_self, Multiset.card_singleton, if_pos (beq_self_eq_true other)]
    omega
  · rw [under_of_ne hkey, Multiset.card_zero, if_neg (by simpa using hkey)]
    omega

/-- A resource on loan comes back, to be returned or to be invalidated. -/
theorem Custody.comeBack {operation : Operation κ ω} {key : κ} {object : ω}
    (comes : operation = .giveBack key object ∨ operation = .invalidate key object)
    (custody : Custody config ident trace lent gone pool ((key, (object, .lent)) :: hands)
      returning out) (isClosed : Bool) :
    Custody config ident (named ident (operation.marks isClosed) ++ trace) lent gone pool
      (operation.given isClosed ++ hands) returning out := by
  rcases comes with rfl | rfl
  · exact custody.mark rfl (by simp) rfl
  · exact custody.mark rfl (by simp) rfl

variable (lent) in
/-- What is held under its key is part of what is held under any key. -/
theorem under_one_le {key : κ} {object : ω} (held : ident object ∈ lent key) (other : κ) :
    (under other [(key, object)]).map ident ≤ lent other := by
  by_cases hkey : key = other
  · rw [← hkey, under_self, Multiset.map_singleton]
    exact Multiset.singleton_le.mpr held
  · rw [under_of_ne hkey]
    exact Multiset.zero_le _

/-- A client hands back a resource that it holds. -/
theorem Custody.handBack [DecidableEq ι] {operation : Operation κ ω} {key : κ} {object : ω}
    (comes : operation = .giveBack key object ∨ operation = .invalidate key object)
    (custody : Custody config ident trace lent gone pool hands returning out)
    (held : ident object ∈ lent key) (isClosed : Bool) :
    Custody config ident (named ident (operation.marks isClosed) ++ trace)
      (fun other => lent other - (under other [(key, object)]).map ident) gone pool
      (operation.given isClosed ++ hands) returning (key :: out) := by
  have hsub : ∀ other, lent other - (under other [(key, object)]).map ident +
      (under other [(key, object)]).map ident = lent other := fun other =>
    Multiset.sub_add_cancel (under_one_le lent held other)
  have htaken : Custody config ident trace
      (fun other => lent other - (under other [(key, object)]).map ident) gone pool
      ((key, (object, .lent)) :: hands) returning (key :: out) := by
    refine custody.regroup ?_ ?_ fun _ h => h
    · intro other
      have hsheet := sheetOf_lent ident pool hands
        (fun other => lent other - (under other [(key, object)]).map ident) gone [(key, object)]
        other
      rw [funext hsub] at hsheet
      exact hsheet.symm
    · intro other
      have hcard := congrArg Multiset.card (hsub other)
      rw [Multiset.card_add, Multiset.card_map] at hcard
      rw [List.count_cons]
      by_cases hkey : key = other
      · rw [hkey, under_self, Multiset.card_singleton] at hcard
        rw [hkey, under_self, if_pos (beq_self_eq_true other)]
        omega
      · rw [under_of_ne hkey, Multiset.card_zero] at hcard
        rw [under_of_ne hkey, if_neg (by simpa using hkey)]
        omega
  exact htaken.comeBack comes isClosed

/-! ## Readings -/

/-- The loan that an operation ends is counted in the store. -/
theorem Custody.loaned {loan : Option κ}
    (custody : Custody config ident trace lent gone pool hands returning (loan.toList ++ out))
    {key : κ} (h : loan = some key) : 0 < (pool.store.live key).active := by
  have hcount : 0 < (loan.toList ++ out).count key := by
    rw [h]
    exact List.count_pos_iff.mpr List.mem_cons_self
  rw [custody.active_eq]
  omega

/-- What a call is for is in a phase that occurs. -/
theorem Custody.occurs {stage : Stage κ ω ε}
    (custody : Custody config ident trace lent gone pool (stage.inHand ++ hands) returning out)
    {key : κ} {object : ω} {phase : Phase} (h : stage.subject? = some (key, object, phase)) :
    phase.Occurs config := by
  rcases call_cases stage with ⟨place, resource, aftermath, rfl⟩ | ⟨-, -, hhand, -⟩
  · cases h
    trivial
  · have hinHand : (key, (object, phase)) ∈ stage.inHand := by
      rw [hhand]
      exact Option.mem_toList.mpr h
    exact custody.path.occurs
      (mem_sheetOf ident pool _ lent gone (List.mem_append_left _ hinHand))

/-- The loan of a return in progress is one that its operation ends. -/
theorem Custody.takeOver {foothold : Option (κ × SlotId)}
    (custody : Custody config ident trace lent gone pool hands (foothold.toList ++ returning) out) :
    Custody config ident trace lent gone pool hands returning
      ((foothold.map Prod.fst).toList ++ out) := by
  refine custody.regroup (fun _ => rfl) ?_ ?_
  · intro key
    rw [List.map_append, List.count_append, List.count_append, Option.toList_map]
    omega
  · intro entry hentry
    exact List.mem_append_right _ hentry

/-- Other states of the same resources are the same in the books. -/
theorem Custody.renamed {hands' : List (κ × ω × Phase)}
    (custody : Custody config ident trace lent gone pool hands returning out)
    (named_eq : named ident hands' = named ident hands) :
    Custody config ident trace lent gone pool hands' returning out := by
  refine custody.regroup ?_ (fun _ => rfl) fun _ h => h
  intro key
  have hnamed : ∀ entries : List (κ × ω × Phase), under key (named ident entries) =
      (under key entries).map fun value => (ident value.1, value.2) :=
    under_map key fun value : ω × Phase => (ident value.1, value.2)
  unfold sheetOf
  rw [Multiset.map_add, Multiset.map_add, ← hnamed, ← hnamed, named_eq]

end books

end ResourcePool.Session
