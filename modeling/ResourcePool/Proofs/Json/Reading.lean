import Mathlib.Data.List.Nodup
import Mathlib.Data.List.Perm.Basic
import ResourcePool.Json.Record

/-!
# Two ways of writing a record

A record is read from an object or from an array of its fields. Where the fields can be read in any
order, the two are the same: an object is read as the array of its members in the order of the
fields, whatever the order in which it has them, and with a null for every member that may be left
out and is. Only which of several errors is reported depends on how the record was written, so the
results are compared as options.

* `RecordFormat.Separate` — the fields of a format have nothing to do with each other.
* `RecordFormat.readAll` — what some members make of a draft; `readAll_perm` is that in any order.
* `decode_object` — **an object is read as the array of its members**.
* `decode_encode` — what is written is read as what it was.
-/

namespace ResourcePool

/-- Of entries that differ in what they are looked up by, each one is found. -/
theorem find?_of_distinct {α β : Type} [DecidableEq β] {label : α → β} {entries : List α}
    (distinct : (entries.map label).Nodup) {entry : α} (mem : entry ∈ entries) :
    entries.find? (fun other => label other = label entry) = some entry := by
  cases hfind : entries.find? fun other => label other = label entry with
  | none =>
    have hnone := List.find?_eq_none.mp hfind entry mem
    simp at hnone
  | some other =>
    have hlabel : label other = label entry := by simpa using List.find?_some hfind
    have hother := List.mem_of_find?_eq_some hfind
    rw [List.inj_on_of_nodup_map distinct hother mem hlabel]

/-- A member of an object is found under its name. -/
theorem Json.member?_of_mem {members : List (String × Json)}
    (distinct : (members.map Prod.fst).Nodup) {name : String} {value : Json}
    (mem : (name, value) ∈ members) : (Json.object members).member? name = some value := by
  have hfind := find?_of_distinct distinct mem
  exact congrArg (Option.map Prod.snd) hfind

/-- A member that is found is there. -/
theorem Json.mem_of_member? {members : List (String × Json)} {name : String} {value : Json}
    (h : (Json.object members).member? name = some value) : (name, value) ∈ members := by
  obtain ⟨entry, hentry, rfl⟩ := Option.map_eq_some_iff.mp h
  have hname : entry.1 = name := by simpa using List.find?_some hentry
  rw [← hname]
  exact List.mem_of_find?_eq_some hentry

/-- A result is the given one if it is so as an option. -/
theorem toOption_eq_some {ε α : Type} {result : Except ε α} {value : α}
    (h : result.toOption = some value) : result = .ok value := by
  cases result with
  | error => cases h
  | ok found => exact congrArg Except.ok (Option.some.inj h)

/-- Whether one step after another succeeds, without the errors. -/
theorem toOption_bind {ε α β : Type} (result : Except ε α) (next : α → Except ε β) :
    (result >>= next).toOption = result.toOption.bind fun value => (next value).toOption := by
  cases result <;> rfl

namespace RecordFormat

variable {φ δ α : Type}

/-- **The fields of a format have nothing to do with each other**: their names differ, two of them
can be read in either order, and one that may be left out is left as it is by a null. -/
structure Separate (format : RecordFormat φ δ α) : Prop where
  names : (format.fields.map format.fieldName).Nodup
  comm : ∀ first second, first ≠ second → ∀ one other draft,
    (format.set first one draft >>= format.set second other).toOption =
      (format.set second other draft >>= format.set first one).toOption
  absent : ∀ field, format.isOptional field = true →
    format.set field .null format.blank = .ok format.blank

/-- A format reads its fields in any order if each is read without regard to the draft and then put
into a place of its own. -/
theorem comm_of_place {format : RecordFormat φ δ α} {Value : φ → Type}
    (read : ∀ field, Json → Except DecodeError (Value field))
    (place : ∀ field, Value field → δ → δ)
    (set_eq : ∀ field json draft,
      format.set field json draft = (read field json).map fun value => place field value draft)
    (apart : ∀ first second, first ≠ second → ∀ one other draft,
      place second other (place first one draft) = place first one (place second other draft))
    (first second : φ) (ne : first ≠ second) (one other : Json) (draft : δ) :
    (format.set first one draft >>= format.set second other).toOption =
      (format.set second other draft >>= format.set first one).toOption := by
  rw [toOption_bind, toOption_bind]
  simp only [set_eq]
  cases read first one with
  | error => cases read second other <;> rfl
  | ok value =>
    cases read second other with
    | error => rfl
    | ok value' => exact congrArg some (apart first second ne value value' draft)

variable (format : RecordFormat φ δ α)

/-- What a member makes of a draft. -/
def read (draft : Option δ) (entry : String × Json) : Option δ :=
  draft.bind fun draft => (format.setMember draft entry).toOption

/-- What some members make of a draft, one after another. -/
def readAll (members : List (String × Json)) (draft : Option δ) : Option δ :=
  members.foldl format.read draft

/-- Some members are read and then others. -/
theorem readAll_append (members others : List (String × Json)) (draft : Option δ) :
    format.readAll (members ++ others) draft =
      format.readAll others (format.readAll members draft) :=
  List.foldl_append

/-- After a bad member nothing more is read. -/
theorem readAll_none (members : List (String × Json)) : format.readAll members none = none := by
  induction members with
  | nil => rfl
  | cons entry rest ih => exact ih

/-- Members are read one after another until one of them is bad. -/
theorem toOption_foldlM (members : List (String × Json)) (draft : δ) :
    (members.foldlM format.setMember draft).toOption = format.readAll members (some draft) := by
  induction members generalizing draft with
  | nil => rfl
  | cons entry rest ih =>
    rw [List.foldlM_cons]
    show _ = format.readAll rest (format.setMember draft entry).toOption
    cases format.setMember draft entry with
    | error => exact (format.readAll_none rest).symm
    | ok next => exact ih next

/-- The members with which an array of the fields would be an object. -/
def memberList (value : φ → Json) : List (String × Json) :=
  format.fields.map fun field => (format.fieldName field, value field)

variable {format}

section separate

variable (separate : format.Separate)
include separate

/-- A field is found by its name. -/
theorem field?_fieldName {field : φ} (mem : field ∈ format.fields) :
    format.field? (format.fieldName field) = some field :=
  find?_of_distinct separate.names mem

/-- A member that is named for a field sets the field. -/
theorem read_field {field : φ} (mem : field ∈ format.fields) (json : Json) (draft : δ) :
    format.read (some draft) (format.fieldName field, json) =
      (format.set field json draft).toOption := by
  have hfield := field?_fieldName separate mem
  simp only [read, Option.bind_some, setMember, hfield]

omit separate in
/-- A field that is found has the name that was looked for. -/
theorem of_field? {name : String} {field : φ} (h : format.field? name = some field) :
    format.fieldName field = name ∧ field ∈ format.fields :=
  ⟨by simpa using List.find?_some h, List.mem_of_find?_eq_some h⟩

/-- Members with different names can be read in either order. -/
theorem read_comm {first second : String × Json} (ne : first.1 ≠ second.1) (draft : Option δ) :
    format.read (format.read draft first) second =
      format.read (format.read draft second) first := by
  cases draft with
  | none => rfl
  | some draft =>
    simp only [read, Option.bind_some]
    cases hfirst : format.field? first.1 with
    | none =>
      -- an unknown member is refused or passed over, whatever the draft
      cases hstrict : format.isStrict <;> simp [setMember, hfirst, hstrict, Except.toOption]
    | some field =>
      cases hsecond : format.field? second.1 with
      | none =>
        cases hstrict : format.isStrict <;>
          simp [setMember, hfirst, hsecond, hstrict, Except.toOption]
      | some other =>
        have hne : field ≠ other := by
          rintro rfl
          exact ne ((of_field? hfirst).1.symm.trans (of_field? hsecond).1)
        have hcomm := separate.comm field other hne first.2 second.2 draft
        rw [toOption_bind, toOption_bind] at hcomm
        simpa only [setMember, hfirst, hsecond] using hcomm

/-- **The order makes no difference.** -/
theorem readAll_perm {members others : List (String × Json)}
    (distinct : (members.map Prod.fst).Nodup) (perm : members.Perm others) (draft : Option δ) :
    format.readAll members draft = format.readAll others draft := by
  apply perm.foldl_eq'
  intro first hfirst second hsecond draft
  by_cases hname : first.1 = second.1
  · rw [List.inj_on_of_nodup_map distinct hfirst hsecond hname]
  · exact read_comm separate hname draft

/-! ## Members that make no difference -/

omit separate in
/-- Members that are no fields are passed over. -/
theorem readAll_unknown {members : List (String × Json)} (lenient : format.isStrict = false)
    (unknown : ∀ entry ∈ members, format.field? entry.1 = none) (draft : Option δ) :
    format.readAll members draft = draft := by
  induction members with
  | nil => rfl
  | cons entry rest ih =>
    have hentry := unknown entry List.mem_cons_self
    have hread : format.read draft entry = draft := by
      cases draft with
      | none => rfl
      | some draft => simp [read, setMember, hentry, lenient, Except.toOption]
    show format.readAll rest (format.read draft entry) = draft
    rw [hread]
    exact ih fun other hother => unknown other (List.mem_cons_of_mem _ hother)

/-- Nulls for fields that may be left out leave the draft as it was before any field was read. -/
theorem readAll_absent {fields : List φ} (known : ∀ field ∈ fields, field ∈ format.fields)
    (optional : ∀ field ∈ fields, format.isOptional field = true) :
    format.readAll (fields.map fun field => (format.fieldName field, .null)) (some format.blank) =
      some format.blank := by
  induction fields with
  | nil => rfl
  | cons field rest ih =>
    have hread : format.read (some format.blank) (format.fieldName field, .null) =
        some format.blank := by
      rw [read_field separate (known field List.mem_cons_self),
        separate.absent field (optional field List.mem_cons_self)]
      rfl
    show format.readAll _ (format.read _ _) = _
    rw [hread]
    exact ih (fun other hother => known other (List.mem_cons_of_mem _ hother))
      fun other hother => optional other (List.mem_cons_of_mem _ hother)

/-! ## Objects and arrays -/

/-- Reading an array of the fields is reading the members of the object that it could be. -/
theorem decodeArray_eq (value : φ → Json) :
    format.decodeArray (format.fields.map value) =
      (format.memberList value).foldlM format.setMember format.blank >>= format.finish := by
  have hzip : ∀ fields : List φ, (∀ field ∈ fields, field ∈ format.fields) → ∀ draft,
      (fields.zip (fields.map value)).foldlM
          (fun draft entry => format.set entry.1 entry.2 draft) draft =
        (fields.map fun field => (format.fieldName field, value field)).foldlM
          format.setMember draft := by
    intro fields known
    induction fields with
    | nil => exact fun _ => rfl
    | cons field rest ih =>
      intro draft
      have hfield := field?_fieldName separate (known field List.mem_cons_self)
      have hset : format.setMember draft (format.fieldName field, value field) =
          format.set field (value field) draft := by simp only [setMember, hfield]
      rw [List.map_cons, List.map_cons, List.zip_cons_cons, List.foldlM_cons, List.foldlM_cons,
        hset]
      exact bind_congr (ih fun other hother => known other (List.mem_cons_of_mem _ hother))
  unfold decodeArray
  rw [hzip _ fun _ h => h]
  apply bind_congr
  intro draft
  simp only [List.length_map, Nat.lt_irrefl, if_false]
  exact bind_pure _

/-- An array with a value for each field is read as the members in the order of the fields. -/
theorem toOption_decodeArray (value : φ → Json) :
    (format.decodeArray (format.fields.map value)).toOption =
      (format.readAll (format.memberList value) (some format.blank)).bind fun draft =>
        (format.finish draft).toOption := by
  rw [decodeArray_eq separate, toOption_bind, toOption_foldlM]

/-- An array whose elements are good is refused for what they come to together, if at all. -/
theorem decodeArray_of_readAll {value : φ → Json} {draft : δ}
    (good : format.readAll (format.memberList value) (some format.blank) = some draft) :
    format.decodeArray (format.fields.map value) = format.finish draft := by
  have hfold : (format.memberList value).foldlM format.setMember format.blank = .ok draft := by
    apply toOption_eq_some
    rw [toOption_foldlM, good]
  rw [decodeArray_eq separate, hfold]
  rfl

/-- An object without a name twice and with all that is needed is read member by member. -/
theorem toOption_decodeObject {members : List (String × Json)}
    (distinct : (members.map Prod.fst).Nodup) (complete : format.missing? members = none) :
    (format.decodeObject members).toOption =
      (format.readAll members (some format.blank)).bind fun draft =>
        (format.finish draft).toOption := by
  have hperm : members.Perm (inNameOrder members) := (List.mergeSort_perm _ _).symm
  unfold decodeObject
  rw [toOption_bind, toOption_foldlM, ← readAll_perm separate distinct hperm, complete]

/-- An object whose members are good is refused for what they come to together, if at all. -/
theorem decodeObject_of_readAll {members : List (String × Json)}
    (distinct : (members.map Prod.fst).Nodup) (complete : format.missing? members = none)
    {draft : δ} (good : format.readAll members (some format.blank) = some draft) :
    format.decodeObject members = format.finish draft := by
  have hperm : members.Perm (inNameOrder members) := (List.mergeSort_perm _ _).symm
  have hfold : (inNameOrder members).foldlM format.setMember format.blank = .ok draft := by
    apply toOption_eq_some
    rw [toOption_foldlM, ← readAll_perm separate distinct hperm, good]
  unfold decodeObject
  rw [hfold, complete]
  rfl

/-- What the member of a field is, or a null. -/
def given (format : RecordFormat φ δ α) (members : List (String × Json)) (field : φ) : Json :=
  ((Json.object members).member? (format.fieldName field)).getD .null

section given

variable {members : List (String × Json)}

omit separate in
/-- In an object that is complete, only what may be left out is left out. -/
theorem isOptional_of_absent (complete : format.missing? members = none) {field : φ}
    (mem : field ∈ format.fields)
    (absent : (Json.object members).member? (format.fieldName field) = none) :
    format.isOptional field = true := by
  have hmissing := List.find?_eq_none.mp complete field mem
  have hnone : (members.any fun entry => entry.1 = format.fieldName field) = false := by
    have hfind := Option.map_eq_none_iff.mp absent
    rw [List.any_eq_false]
    exact List.find?_eq_none.mp hfind
  simpa [hnone] using hmissing

/-- The members that are fields are those that are looked up. -/
theorem perm_present (distinct : (members.map Prod.fst).Nodup) :
    ((format.fields.filter fun field =>
        ((Json.object members).member? (format.fieldName field)).isSome).map fun field =>
      (format.fieldName field, format.given members field)).Perm
      (members.filter fun entry => (format.field? entry.1).isSome) := by
  have hnames := (List.filter_sublist (l := format.fields) (p := fun field =>
    ((Json.object members).member? (format.fieldName field)).isSome)).map format.fieldName
  refine (List.perm_ext_iff_of_nodup ?_ ?_).mpr ?_
  · apply List.Nodup.of_map Prod.fst
    rw [List.map_map]
    exact hnames.nodup separate.names
  · exact (List.Nodup.of_map Prod.fst distinct).filter _
  · rintro ⟨name, value⟩
    simp only [List.mem_map, List.mem_filter, Option.isSome_iff_exists]
    constructor
    · rintro ⟨field, ⟨hfield, found, hfound⟩, heq⟩
      cases heq
      rw [given, hfound]
      exact ⟨Json.mem_of_member? hfound, field, field?_fieldName separate hfield⟩
    · rintro ⟨hmem, field, hfield⟩
      obtain ⟨rfl, hknown⟩ := of_field? hfield
      have hfound := Json.member?_of_mem distinct hmem
      refine ⟨field, ⟨hknown, value, hfound⟩, ?_⟩
      rw [given, hfound]
      rfl

/-- Only the members that are fields make a difference. -/
theorem readAll_known (distinct : (members.map Prod.fst).Nodup)
    (known : format.isStrict = true → ∀ entry ∈ members, format.field? entry.1 ≠ none)
    (draft : Option δ) :
    format.readAll (members.filter fun entry => (format.field? entry.1).isSome) draft =
      format.readAll members draft := by
  cases hstrict : format.isStrict with
  | true =>
    have hall : (members.filter fun entry => (format.field? entry.1).isSome) = members :=
      List.filter_eq_self.mpr fun entry hentry =>
        Option.isSome_iff_ne_none.mpr (known hstrict entry hentry)
    rw [hall]
  | false =>
    have hsplit := List.filter_append_perm (fun entry => (format.field? entry.1).isSome) members
    rw [readAll_perm separate distinct hsplit.symm, readAll_append]
    refine (readAll_unknown hstrict ?_ _).symm
    intro entry hentry
    simpa using (List.mem_filter.mp hentry).2

/-- Only the fields that are there make a difference. -/
theorem readAll_present (complete : format.missing? members = none) :
    format.readAll ((format.fields.filter fun field =>
        ((Json.object members).member? (format.fieldName field)).isSome).map fun field =>
      (format.fieldName field, format.given members field)) (some format.blank) =
      format.readAll (format.memberList (format.given members)) (some format.blank) := by
  let isThere : φ → Bool := fun field =>
    ((Json.object members).member? (format.fieldName field)).isSome
  let entryOf : φ → String × Json := fun field =>
    (format.fieldName field, format.given members field)
  have hsplit : (format.memberList (format.given members)).Perm
      ((format.fields.filter fun field => !isThere field).map entryOf ++
        (format.fields.filter isThere).map entryOf) := by
    rw [← List.map_append]
    exact ((List.perm_append_comm.trans (List.filter_append_perm isThere _)).map entryOf).symm
  have hdistinct : ((format.memberList (format.given members)).map Prod.fst).Nodup := by
    rw [memberList, List.map_map]
    exact separate.names
  have hnull : (format.fields.filter fun field => !isThere field).map entryOf =
      (format.fields.filter fun field => !isThere field).map fun field =>
        (format.fieldName field, .null) := by
    apply List.map_congr_left
    intro field hfield
    have habsent : (Json.object members).member? (format.fieldName field) = none := by
      simpa [isThere] using (List.mem_filter.mp hfield).2
    simp only [entryOf, given, habsent, Option.getD_none]
  rw [readAll_perm separate hdistinct hsplit, readAll_append, hnull, readAll_absent separate]
  · exact fun field hfield => (List.mem_filter.mp hfield).1
  · intro field hfield
    obtain ⟨hknown, habsent⟩ := List.mem_filter.mp hfield
    exact isOptional_of_absent complete hknown (by simpa [isThere] using habsent)

end given

/-- **An object is read as the array of its members**, in the order of the fields and with a null
for each that is left out. -/
theorem decode_object {members : List (String × Json)} (distinct : (members.map Prod.fst).Nodup)
    (complete : format.missing? members = none)
    (known : format.isStrict = true → ∀ entry ∈ members, format.field? entry.1 ≠ none) :
    (format.decode (.object members)).toOption =
      (format.decode (.array (format.fields.map (format.given members)))).toOption := by
  show (format.decodeObject members).toOption = (format.decodeArray _).toOption
  have hdistinct := ((List.filter_sublist (l := members)
    (p := fun entry => (format.field? entry.1).isSome)).map Prod.fst).nodup distinct
  rw [toOption_decodeObject separate distinct complete, toOption_decodeArray separate,
    ← readAll_known separate distinct known, ← readAll_present separate complete,
    readAll_perm separate hdistinct (perm_present separate distinct).symm]

omit separate in
/-- An object that has all fields is complete. -/
theorem complete_of_all {members : List (String × Json)} {value : φ → Json}
    (all : ∀ field ∈ format.fields, (format.fieldName field, value field) ∈ members) :
    format.missing? members = none := by
  apply List.find?_eq_none.mpr
  intro field hfield
  have hany : (members.any fun entry => entry.1 = format.fieldName field) = true :=
    List.any_eq_true.mpr ⟨_, all field hfield, by simp⟩
  simp [hany]

/-- An object that has all fields is read as the array of them, whatever else is in it. -/
theorem decode_object_of_all {members : List (String × Json)}
    (distinct : (members.map Prod.fst).Nodup) {value : φ → Json}
    (all : ∀ field ∈ format.fields, (format.fieldName field, value field) ∈ members)
    (known : format.isStrict = true → ∀ entry ∈ members, format.field? entry.1 ≠ none) :
    (format.decode (.object members)).toOption =
      (format.decode (.array (format.fields.map value))).toOption := by
  have hgiven : format.fields.map (format.given members) = format.fields.map value := by
    apply List.map_congr_left
    intro field hfield
    rw [given, Json.member?_of_mem distinct (all field hfield)]
    rfl
  rw [decode_object separate distinct (complete_of_all all) known, hgiven]

/-- Fields that are good are put into the draft one after another. -/
theorem readAll_memberList {value : φ → Json} (put : φ → δ → δ)
    (good : ∀ field draft, format.set field (value field) draft = .ok (put field draft)) :
    format.readAll (format.memberList value) (some format.blank) =
      some (format.fields.foldl (fun draft field => put field draft) format.blank) := by
  have hfields : ∀ fields : List φ, (∀ field ∈ fields, field ∈ format.fields) → ∀ draft,
      format.readAll (fields.map fun field => (format.fieldName field, value field)) (some draft) =
        some (fields.foldl (fun draft field => put field draft) draft) := by
    intro fields known
    induction fields with
    | nil => exact fun _ => rfl
    | cons field rest ih =>
      intro draft
      show format.readAll _ (format.read _ _) = _
      rw [read_field separate (known field List.mem_cons_self), good]
      exact ih (fun other hother => known other (List.mem_cons_of_mem _ hother)) _
  exact hfields format.fields (fun _ h => h) format.blank

/-- **What is written is read as what it was**, if every field is and the fields make up the
value. -/
theorem decode_encode {value : α} (put : φ → δ → δ)
    (good : ∀ field draft, format.set field (format.get field value) draft = .ok (put field draft))
    (whole : format.finish (format.fields.foldl (fun draft field => put field draft) format.blank) =
      .ok value) : format.decode (format.encode value) = .ok value := by
  have hdistinct :
      ((format.memberList fun field => format.get field value).map Prod.fst).Nodup := by
    rw [memberList, List.map_map]
    exact separate.names
  have hall : ∀ field ∈ format.fields, (format.fieldName field, format.get field value) ∈
      format.memberList fun field => format.get field value := fun field hfield =>
    List.mem_map.mpr ⟨field, hfield, rfl⟩
  rw [← whole]
  exact decodeObject_of_readAll separate hdistinct (complete_of_all hall)
    (readAll_memberList separate put good)

end separate

end RecordFormat

end ResourcePool
