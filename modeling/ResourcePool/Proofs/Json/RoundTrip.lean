import Mathlib.Algebra.Order.Ring.Nat
import ResourcePool.Config
import ResourcePool.Metrics.Basic
import ResourcePool.Proofs.Json.Reading

/-!
# Configurations and snapshots come back from JSON

What is written as JSON is read as what it was. The formats of durations, configurations and
snapshots are separate, so what can be read as an object can be read as an array, and neither the
order of the members nor a null where one may be left out makes a difference.

* `decodeWord64_ofNat`, `decodeOption_ofOption`, `Selection.decode_name` — the fields.
* `Duration.separate`, `Config.separate`, `Metrics.separate` — their fields can be read in any
  order.
* `Duration.decode_parts` — a duration is read with its nanoseconds carried over.
* `json_round_trip` — all of it.
-/

namespace ResourcePool

/-! ## Fields -/

namespace Json

/-- A number below the bound is read as itself. -/
theorem decodeBelow_ofNat {n bound : Nat} (lt : n < bound) (expected : Expected) :
    (ofNat n).decodeBelow bound expected = .ok n := by
  simp [ofNat, decodeBelow, lt]

/-- A word is read from its number. -/
theorem decodeWord64_ofNat (expected : Expected) (word : UInt64) :
    (ofNat word.toNat).decodeWord64 expected = .ok word := by
  rw [decodeWord64, decodeBelow_ofNat word.toNat_lt]
  exact congrArg Except.ok UInt64.ofNat_toNat

/-- So is a short word. -/
theorem decodeWord32_ofNat (word : UInt32) : (ofNat word.toNat).decodeWord32 = .ok word := by
  rw [decodeWord32, decodeBelow_ofNat word.toNat_lt]
  exact congrArg Except.ok UInt32.ofNat_toNat

/-- A value that may be absent is read as it was written, unless a null is written for one that is
there. -/
theorem decodeOption_ofOption {α : Type} {encode : α → Json}
    {decode : Json → Except DecodeError α} (faithful : ∀ value, decode (encode value) = .ok value)
    (there : ∀ value, encode value ≠ .null) (value : Option α) :
    (ofOption encode value).decodeOption decode = .ok value := by
  cases value with
  | none => rfl
  | some value =>
    have hmap : (encode value).decodeOption decode = (decode (encode value)).map some := by
      unfold decodeOption
      split
      · next h => exact absurd h (there value)
      · rfl
    exact hmap.trans (by rw [faithful]; rfl)

end Json

/-- A selection is read from its name. -/
theorem Selection.decode_name (selection : Selection) :
    Selection.decode (.string selection.name) = .ok selection := by
  cases selection <;> rfl

/-! ## Durations -/

namespace Duration

/-- What a field holds. -/
def Field.Value : Field → Type
  | .secs => UInt64
  | .nanos => UInt32

/-- Reads a field by itself. -/
def Field.read : ∀ field : Field, Json → Except DecodeError field.Value
  | .secs, json => json.decodeWord64 .word64
  | .nanos, json => json.decodeWord32

/-- Puts a field into a draft. -/
def Field.place : ∀ field : Field, field.Value → UInt64 × UInt32 → UInt64 × UInt32
  | .secs, value, draft => (value, draft.2)
  | .nanos, value, draft => (draft.1, value)

/-- A duration is set by reading a field and putting the value in its place. -/
theorem set_eq (field : Field) (json : Json) (draft : UInt64 × UInt32) :
    format.set field json draft = (field.read json).map fun value => field.place value draft := by
  cases field <;> rfl

/-- Its fields are set in any order. -/
theorem separate : format.Separate where
  names := by decide
  comm := by
    apply RecordFormat.comm_of_place Field.read Field.place set_eq
    intro first second ne one other draft
    cases first <;> cases second <;> first | rfl | exact absurd rfl ne
  absent _ h := nomatch h

/-- A duration as it may be written: an array of seconds and nanoseconds, or an object with the two
in either order. -/
inductive Writes (secs : UInt64) (nanos : UInt32) : Json → Prop where
  | array : Writes secs nanos (.array [.ofNat secs.toNat, .ofNat nanos.toNat])
  | object {members : List (String × Json)} :
    members.Perm [("secs", .ofNat secs.toNat), ("nanos", .ofNat nanos.toNat)] →
      Writes secs nanos (.object members)

/-- Either way of writing comes down to the two numbers. -/
theorem decode_of_writes {secs : UInt64} {nanos : UInt32} {json : Json}
    (writes : Writes secs nanos json) : format.decode json = format.finish (secs, nanos) := by
  let value : Field → Json
    | .secs => .ofNat secs.toNat
    | .nanos => .ofNat nanos.toNat
  let put : Field → UInt64 × UInt32 → UInt64 × UInt32
    | .secs, draft => (secs, draft.2)
    | .nanos, draft => (draft.1, nanos)
  have hgood : format.readAll (format.memberList value) (some format.blank) =
      some (secs, nanos) := by
    refine RecordFormat.readAll_memberList separate put ?_
    intro field draft
    cases field with
    | secs =>
      rw [set_eq, Field.read, Json.decodeWord64_ofNat]
      rfl
    | nanos =>
      rw [set_eq, Field.read, Json.decodeWord32_ofNat]
      rfl
  cases writes with
  | array =>
    show format.decodeArray (format.fields.map value) = _
    rw [RecordFormat.decodeArray_of_readAll separate hgood]
  | @object members perm =>
    have hdistinct := (perm.map Prod.fst).nodup_iff.mpr (by decide : ["secs", "nanos"].Nodup)
    have hall : ∀ field ∈ format.fields, (format.fieldName field, value field) ∈ members := by
      intro field _
      apply perm.mem_iff.mpr
      cases field
      · exact List.mem_cons_self
      · exact List.mem_cons_of_mem _ List.mem_cons_self
    have horder := RecordFormat.readAll_perm separate hdistinct perm (some format.blank)
    exact RecordFormat.decodeObject_of_readAll separate hdistinct
      (RecordFormat.complete_of_all hall) (horder.trans hgood)

/-- **Nanoseconds of a second or more are carried over**, and there is no such duration exactly if
the seconds do not fit into 64 bits then. -/
theorem decode_parts {secs : UInt64} {nanos : UInt32} {json : Json}
    (writes : Writes secs nanos json) :
    (secs.toNat + nanos.toNat / 10 ^ 9 < 2 ^ 64 → ∃ duration, format.decode json = .ok duration ∧
      duration.secs.toNat = secs.toNat + nanos.toNat / 10 ^ 9 ∧
      duration.nanos.toNat = nanos.toNat % 10 ^ 9) ∧
    (2 ^ 64 ≤ secs.toNat + nanos.toNat / 10 ^ 9 →
      format.decode json = .error .durationOverflow) := by
  rw [decode_of_writes writes]
  constructor
  · intro hlt
    have hnanos : nanos.toNat % nanosPerSecond < UInt32.size :=
      Nat.lt_trans (Nat.mod_lt _ (by decide)) (by decide)
    have hparts : ∃ nanos_lt, ofParts? secs.toNat nanos.toNat =
        some ⟨.ofNat (secs.toNat + nanos.toNat / nanosPerSecond),
          .ofNat (nanos.toNat % nanosPerSecond), nanos_lt⟩ := ⟨_, if_pos hlt⟩
    obtain ⟨hbelow, hparts⟩ := hparts
    refine ⟨⟨.ofNat (secs.toNat + nanos.toNat / nanosPerSecond),
      .ofNat (nanos.toNat % nanosPerSecond), hbelow⟩, ?_, UInt64.toNat_ofNat_of_lt' hlt,
        UInt32.toNat_ofNat_of_lt' hnanos⟩
    simp only [format, hparts]
  · intro hle
    have hparts : ofParts? secs.toNat nanos.toNat = none := if_neg (Nat.not_lt.mpr hle)
    simp only [format, hparts]

/-- A duration is read from its own JSON. -/
theorem decode_encode (duration : Duration) :
    format.decode (format.encode duration) = .ok duration := by
  obtain ⟨secs, nanos, hlt⟩ := duration
  have hwrites : Writes secs nanos (format.encode ⟨secs, nanos, hlt⟩) := .object (.refl _)
  have hsecs : secs.toNat < UInt64.size := secs.toNat_lt
  have hparts : ofParts? secs.toNat nanos.toNat = some ⟨secs, nanos, hlt⟩ := by
    simp [ofParts?, Nat.div_eq_of_lt hlt, Nat.mod_eq_of_lt hlt, hsecs]
  rw [decode_of_writes hwrites]
  simp only [format, hparts]

end Duration

namespace Config

/-- What a field holds. -/
def Field.Value : Field → Type
  | .selection => Selection
  | .testOnBorrow | .testOnReturn => Bool
  | .maxActive | .maxIdle => Option UInt64
  | .createAttempts => UInt64
  | .timeout => Option Duration

/-- Reads a field by itself. -/
def Field.read : ∀ field : Field, Json → Except DecodeError field.Value
  | .selection, json => Selection.decode json
  | .testOnBorrow, json | .testOnReturn, json => json.decodeBool
  | .maxActive, json | .maxIdle, json => json.decodeOption (Json.decodeWord64 .size)
  | .createAttempts, json => json.decodeWord64 .size
  | .timeout, json => json.decodeOption Duration.format.decode

/-- Puts a field into a configuration. -/
def Field.place : ∀ field : Field, field.Value → Config → Config
  | .selection, v, config => { config with selection := v }
  | .testOnBorrow, v, config => { config with testOnBorrow := v }
  | .testOnReturn, v, config => { config with testOnReturn := v }
  | .maxActive, v, config => { config with maxActive := v }
  | .maxIdle, v, config => { config with maxIdle := v }
  | .createAttempts, v, config => { config with createAttempts := v }
  | .timeout, v, config => { config with timeout := v }

/-- A configuration is set by reading a field and putting the value in its place. -/
theorem set_eq (field : Field) (json : Json) (draft : Config) :
    format.set field json draft = (field.read json).map fun value => field.place value draft := by
  cases field <;> rfl

/-- Its fields are set in any order. -/
theorem separate : format.Separate where
  names := by decide
  comm := by
    apply RecordFormat.comm_of_place Field.read Field.place set_eq
    intro first second ne one other draft
    cases first <;> cases second <;> first | rfl | exact absurd rfl ne
  absent field h := by cases field <;> first | rfl | cases h

/-- The value of a field. -/
def Field.value (config : Config) : ∀ field : Field, field.Value
  | .selection => config.selection
  | .testOnBorrow => config.testOnBorrow
  | .testOnReturn => config.testOnReturn
  | .maxActive => config.maxActive
  | .maxIdle => config.maxIdle
  | .createAttempts => config.createAttempts
  | .timeout => config.timeout

/-- Every field is read as it is written. -/
theorem Field.read_encode (config : Config) (field : Field) :
    field.read (field.encode config) = .ok (field.value config) := by
  have hcount : ∀ count : Option UInt64,
      (Json.ofOption (fun count => .ofNat count.toNat) count).decodeOption
        (Json.decodeWord64 .size) = .ok count :=
    Json.decodeOption_ofOption (Json.decodeWord64_ofNat .size) fun _ => Json.noConfusion
  cases field with
  | selection => exact Selection.decode_name config.selection
  | testOnBorrow | testOnReturn => rfl
  | maxActive => exact hcount config.maxActive
  | maxIdle => exact hcount config.maxIdle
  | createAttempts => exact Json.decodeWord64_ofNat .size config.createAttempts
  | timeout =>
    exact Json.decodeOption_ofOption Duration.decode_encode (fun _ => Json.noConfusion)
      config.timeout

/-- A configuration is read from its own JSON. -/
theorem decode_encode (config : Config) : format.decode (format.encode config) = .ok config := by
  refine RecordFormat.decode_encode separate (fun field => field.place (field.value config)) ?_ rfl
  intro field draft
  show format.set field (field.encode config) draft = _
  rw [set_eq, Field.read_encode]
  rfl

end Config

namespace Metrics

/-- Two snapshots are the same if they tell the same. -/
theorem ext_get {metrics other : Metrics} (h : ∀ metric, metrics.get metric = other.get metric) :
    metrics = other := by
  obtain ⟨⟩ := metrics
  obtain ⟨⟩ := other
  congr
  · exact h .borrowed
  · exact h .returned
  · exact h .created
  · exact h .destroyed
  · exact h .destroyFailures
  · exact h .activationFailures
  · exact h .validationFailures
  · exact h .passivationFailures
  · exact h .refusals
  · exact h .active
  · exact h .idle
  · exact h .keys

/-- Two numbers of a snapshot are set in any order. -/
theorem set_comm (metrics : Metrics) {first second : Metric} (ne : first ≠ second)
    (one other : UInt64) :
    (metrics.set one first).set other second = (metrics.set other second).set one first := by
  apply ext_get
  intro metric
  rw [get_set, get_set, get_set, get_set]
  by_cases hsecond : metric = second
  · rw [if_pos hsecond, if_neg (hsecond ▸ ne.symm), if_pos hsecond]
  · rw [if_neg hsecond, if_neg hsecond]

/-- A snapshot is set by reading a number and putting it in its place. -/
theorem set_eq (metric : Metric) (json : Json) (draft : Metrics) :
    format.set metric json draft =
      (json.decodeWord64 .size).map fun value => draft.set value metric := rfl

/-- Its numbers are set in any order. -/
theorem separate : format.Separate where
  names := by decide
  comm := RecordFormat.comm_of_place (fun _ json => json.decodeWord64 .size)
    (fun metric value draft => draft.set value metric) set_eq
    fun _ _ ne one other draft => set_comm draft ne one other
  absent _ h := nomatch h

/-- Setting some metrics one after another sets those and no others. -/
theorem get_foldl_set (metrics draft : Metrics) (fields : List Metric) (metric : Metric) :
    (fields.foldl (fun draft field => draft.set (metrics.get field) field) draft).get metric =
      if metric ∈ fields then metrics.get metric else draft.get metric := by
  induction fields generalizing draft with
  | nil => rfl
  | cons field rest ih =>
    rw [List.foldl_cons, ih, get_set]
    by_cases hfield : metric = field
    · simp [hfield]
    · simp [hfield]

/-- A snapshot is read from its own JSON. -/
theorem decode_encode (metrics : Metrics) :
    format.decode (format.encode metrics) = .ok metrics := by
  have hwhole : Metric.all.foldl (fun draft field => draft.set (metrics.get field) field) {} =
      metrics := by
    apply ext_get
    intro metric
    have hall : metric ∈ Metric.all := by cases metric <;> decide
    rw [get_foldl_set, if_pos hall]
  refine RecordFormat.decode_encode separate
    (fun field draft => draft.set (metrics.get field) field) ?_ (congrArg Except.ok hwhole)
  intro field draft
  have hget : format.get field metrics = .ofNat (metrics.get field).toNat := rfl
  rw [hget, set_eq, Json.decodeWord64_ofNat]
  rfl

end Metrics

/-! ## The round trip -/

/-- **Configurations and snapshots come back from JSON.** What is written is read as what it was,
and so is what was read from any other JSON. An object is read as the array of its members in the
order of the fields, with a null for each that is left out; with the same seven members an object
and an array are read as the same configuration, or neither is read. A duration is read with its
nanoseconds carried over, and refused exactly if its seconds do not fit into 64 bits then. -/
theorem json_round_trip :
    (∀ config : Config, Config.format.decode (Config.format.encode config) = .ok config) ∧
    (∀ metrics : Metrics, Metrics.format.decode (Metrics.format.encode metrics) = .ok metrics) ∧
    (∀ json config, Config.format.decode json = .ok config →
      Config.format.decode (Config.format.encode config) = .ok config) ∧
    (∀ members : List (String × Json), (members.map Prod.fst).Nodup →
      (∀ field : Config.Field, field.isOptional = false → ∃ json, (field.name, json) ∈ members) →
      (Config.format.decode (.object members)).toOption =
        (Config.format.decode (.array (Config.Field.all.map fun field =>
          ((Json.object members).member? field.name).getD .null))).toOption) ∧
    (∀ (members : List (String × Json)) (value : Config.Field → Json),
      (members.map Prod.fst).Nodup → (∀ field, (field.name, value field) ∈ members) →
      (Config.format.decode (.object members)).toOption =
        (Config.format.decode (.array (Config.Field.all.map value))).toOption) ∧
    (∀ (secs : UInt64) (nanos : UInt32) (json : Json), Duration.Writes secs nanos json →
      (secs.toNat + nanos.toNat / 10 ^ 9 < 2 ^ 64 →
        ∃ duration, Duration.format.decode json = .ok duration ∧
          duration.secs.toNat = secs.toNat + nanos.toNat / 10 ^ 9 ∧
          duration.nanos.toNat = nanos.toNat % 10 ^ 9) ∧
      (2 ^ 64 ≤ secs.toNat + nanos.toNat / 10 ^ 9 →
        Duration.format.decode json = .error .durationOverflow)) := by
  have hknown : ∀ {members : List (String × Json)}, Config.format.isStrict = true →
      ∀ entry ∈ members, Config.format.field? entry.1 ≠ none := fun h => nomatch h
  refine ⟨Config.decode_encode, Metrics.decode_encode,
    fun _ config _ => Config.decode_encode config, ?_, ?_, fun _ _ _ => Duration.decode_parts⟩
  · intro members distinct required
    refine RecordFormat.decode_object Config.separate distinct ?_ hknown
    apply List.find?_eq_none.mpr
    intro field _
    cases hoptional : field.isOptional with
    | true =>
      have hfield : Config.format.isOptional field = true := hoptional
      simp [hfield]
    | false =>
      obtain ⟨json, hjson⟩ := required field hoptional
      have hany : (members.any fun entry => entry.1 = Config.format.fieldName field) = true :=
        List.any_eq_true.mpr ⟨_, hjson, decide_eq_true rfl⟩
      simp [hany]
  · intro members value distinct all
    exact RecordFormat.decode_object_of_all Config.separate distinct (fun field _ => all field)
      hknown

/-- A configuration as an object out of order, with one member too many and one too few. -/
def shuffled : List (String × Json) :=
  [("operation_timeout", .array [.int 1, .int 4000000000]),
    ("color", .string "red"), ("test_on_return", .bool true),
    ("selection", .object [("Fifo", .null)]), ("create_attempts", .int 2),
    ("test_on_borrow", .bool false), ("max_idle_per_key", .null)]

/-- The same configuration as an array. -/
def inOrder : Config.Field → Json
  | .selection => .object [("Fifo", .null)]
  | .testOnBorrow => .bool false
  | .testOnReturn => .bool true
  | .maxActive | .maxIdle => .null
  | .createAttempts => .int 2
  | .timeout => .array [.int 1, .int 4000000000]

/-- A configuration with its members shuffled, one without a limit, and durations whose nanoseconds
carry over and overflow. -/
theorem json_round_trip_shuffled :
    (Config.format.decode (.object shuffled)).toOption =
      (Config.format.decode (.array (Config.Field.all.map inOrder))).toOption ∧
    (Config.format.decode (.object (("max_active_per_key", .null) :: shuffled))).toOption =
      (Config.format.decode (.array (Config.Field.all.map inOrder))).toOption ∧
    (∃ config, Config.format.decode (.array (Config.Field.all.map inOrder)) = .ok config ∧
      Config.format.decode (Config.format.encode config) = .ok config) ∧
    (∃ duration, Duration.format.decode (.array [.int 1, .int 4000000000]) = .ok duration ∧
      duration.secs.toNat = 5 ∧ duration.nanos.toNat = 0) ∧
    Duration.format.decode (.object
        [("nanos", .int 1000000000), ("secs", .int 18446744073709551615)]) =
      .error .durationOverflow := by
  obtain ⟨-, -, hagain, hobject, hall, hduration⟩ := json_round_trip
  have hmem : ∀ field, field ≠ .maxActive → (field.name, inOrder field) ∈ shuffled := by
    intro field hfield
    cases field <;> first | exact absurd rfl hfield | simp [shuffled, inOrder, Config.Field.name]
  have hdecode : Config.format.decode (.array (Config.Field.all.map inOrder)) = .ok
      { selection := .fifo, testOnBorrow := false, testOnReturn := true, maxActive := none,
        maxIdle := none, createAttempts := 2, timeout := some (.ofSecs 5) } := by decide
  refine ⟨?_, ?_, ?_, ?_, ?_⟩
  · apply hobject shuffled (by decide)
    intro field hfield
    exact ⟨inOrder field, hmem field fun h => by rw [h] at hfield; cases hfield⟩
  · apply hall (("max_active_per_key", .null) :: shuffled) inOrder (by decide)
    intro field
    by_cases hfield : field = .maxActive
    · rw [hfield]
      exact List.mem_cons_self
    · exact List.mem_cons_of_mem _ (hmem field hfield)
  · exact ⟨_, hdecode, hagain _ _ hdecode⟩
  · exact (hduration 1 4000000000 _ .array).1 (by decide)
  · exact (hduration 18446744073709551615 1000000000 _ (.object (.swap _ _ _))).2 (by decide)

end ResourcePool
