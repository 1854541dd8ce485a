import ResourcePool.Duration

/-!
# Configuration of a pool

* `Selection` — which idle resource a borrow takes first.
* `Config` — the limits and tests of a pool, with one setter per field.
* `Config.outline` and `Config.format` — how a configuration is shown and exchanged as JSON.
-/

namespace ResourcePool

/-- Which idle resource of a key a borrow takes. -/
inductive Selection where
  /-- The one that came in last. -/
  | lifo
  /-- The one that came in first. -/
  | fifo
  deriving DecidableEq, Repr

/-- The configuration of a pool, fixed when the pool is opened. -/
structure Config where
  /-- Which idle resource a borrow takes. -/
  selection : Selection
  /-- Whether a resource is validated before it is lent. -/
  testOnBorrow : Bool
  /-- Whether a resource is validated when it comes back. -/
  testOnReturn : Bool
  /-- How many resources of one key may be out at a time. -/
  maxActive : Option UInt64
  /-- How many idle resources of one key are kept. -/
  maxIdle : Option UInt64
  /-- How many fresh resources one borrow may create. -/
  createAttempts : UInt64
  /-- How long a waiting borrow waits. -/
  timeout : Option Duration
  deriving DecidableEq

namespace Config

/-- The default configuration: no limits and no tests, one fresh resource per borrow, and half a
minute of waiting. -/
def standard : Config where
  selection := .lifo
  testOnBorrow := false
  testOnReturn := false
  maxActive := none
  maxIdle := none
  createAttempts := 1
  timeout := some (.ofSecs 30)

/-! ## Setters -/

/-- Chooses the order in which idle resources are lent. -/
def withSelection (config : Config) (selection : Selection) : Config :=
  { config with selection := selection }

/-- Turns on validation before lending. -/
def withTestOnBorrow (config : Config) : Config := { config with testOnBorrow := true }

/-- Turns on validation of returned resources. -/
def withTestOnReturn (config : Config) : Config := { config with testOnReturn := true }

/-- Limits how many resources of one key may be out. -/
def withMaxActive (config : Config) (count : UInt64) : Config :=
  { config with maxActive := some count }

/-- Limits how many idle resources of one key are kept. -/
def withMaxIdle (config : Config) (count : UInt64) : Config :=
  { config with maxIdle := some count }

/-- Sets how many fresh resources one borrow may create, which is at least one. -/
def withCreateAttempts (config : Config) (attempts : UInt64) : Config :=
  { config with createAttempts := max attempts 1 }

/-- Sets how long a waiting borrow waits. -/
def withTimeout (config : Config) (timeout : Duration) : Config :=
  { config with timeout := some timeout }

/-- One use of a setter. -/
inductive Setting where
  | selection (selection : Selection)
  | testOnBorrow
  | testOnReturn
  | maxActive (count : UInt64)
  | maxIdle (count : UInt64)
  | createAttempts (attempts : UInt64)
  | timeout (timeout : Duration)

/-- Applies one setter. -/
def apply (config : Config) : Setting → Config
  | .selection selection => config.withSelection selection
  | .testOnBorrow => config.withTestOnBorrow
  | .testOnReturn => config.withTestOnReturn
  | .maxActive count => config.withMaxActive count
  | .maxIdle count => config.withMaxIdle count
  | .createAttempts attempts => config.withCreateAttempts attempts
  | .timeout timeout => config.withTimeout timeout

/-! ## What the pool reads off -/

/-- How many fresh resources a borrow tries: at least one, whatever was configured. -/
def attempts (config : Config) : Nat := max 1 config.createAttempts.toNat

/-- The limit on resources out under one key. -/
def activeLimit (config : Config) : Option Nat := config.maxActive.map UInt64.toNat

/-- The limit on idle resources of one key. -/
def idleLimit (config : Config) : Option Nat := config.maxIdle.map UInt64.toNat

/-- How long a waiting borrow waits: half a minute unless configured. -/
def patience (config : Config) : Duration := config.timeout.getD (.ofSecs 30)

end Config

/-! ## Fields -/

/-- The name of an order. -/
def Selection.name : Selection → String
  | .lifo => "Lifo"
  | .fifo => "Fifo"

/-- The order of a given name. -/
def Selection.ofName? : String → Option Selection
  | "Lifo" => some .lifo
  | "Fifo" => some .fifo
  | _ => none

/-- Reads an order of the given name. -/
def Selection.decodeName (name : String) : Except DecodeError Selection :=
  match Selection.ofName? name with
  | some selection => .ok selection
  | none => .error (.unknownVariant name ["Lifo", "Fifo"])

/-- Reads an order: its name, or an object whose one member has that name and the value null. -/
def Selection.decode : Json → Except DecodeError Selection
  | .string name => Selection.decodeName name
  | .object [(name, value)] => do
    let selection ← Selection.decodeName name
    if value.isNull then .ok selection else .error (.invalidType value.found .unit)
  | .object _ => .error (.invalidValue .map .singleKeyMap)
  | other => .error (.invalidType other.found .stringOrMap)

namespace Config

/-- The fields of a configuration. -/
inductive Field where
  | selection
  | testOnBorrow
  | testOnReturn
  | maxActive
  | maxIdle
  | createAttempts
  | timeout
  deriving DecidableEq, Repr

namespace Field

/-- The fields in the order in which they are shown and written. -/
def all : List Field :=
  [.selection, .testOnBorrow, .testOnReturn, .maxActive, .maxIdle, .createAttempts, .timeout]

/-- The name of a field outside this library. -/
def name : Field → String
  | .selection => "selection"
  | .testOnBorrow => "test_on_borrow"
  | .testOnReturn => "test_on_return"
  | .maxActive => "max_active_per_key"
  | .maxIdle => "max_idle_per_key"
  | .createAttempts => "create_attempts"
  | .timeout => "operation_timeout"

/-- Whether a field may be left out. -/
def isOptional : Field → Bool
  | .maxActive | .maxIdle | .timeout => true
  | _ => false

/-- How a field of a configuration is shown. -/
def outline (config : Config) : Field → Text.Outline
  | .selection => .word config.selection.name
  | .testOnBorrow => .ofBool config.testOnBorrow
  | .testOnReturn => .ofBool config.testOnReturn
  | .maxActive => .ofOption (fun count => .ofNat count.toNat) config.maxActive
  | .maxIdle => .ofOption (fun count => .ofNat count.toNat) config.maxIdle
  | .createAttempts => .ofNat config.createAttempts.toNat
  | .timeout => .ofOption Duration.outline config.timeout

/-- Reads a field into a configuration. -/
def decode (json : Json) (config : Config) : Field → Except DecodeError Config
  | .selection => (Selection.decode json).map fun v => { config with selection := v }
  | .testOnBorrow => json.decodeBool.map fun v => { config with testOnBorrow := v }
  | .testOnReturn => json.decodeBool.map fun v => { config with testOnReturn := v }
  | .maxActive =>
    (json.decodeOption (Json.decodeWord64 .size)).map fun v => { config with maxActive := v }
  | .maxIdle =>
    (json.decodeOption (Json.decodeWord64 .size)).map fun v => { config with maxIdle := v }
  | .createAttempts => (json.decodeWord64 .size).map fun v => { config with createAttempts := v }
  | .timeout =>
    (json.decodeOption Duration.format.decode).map fun v => { config with timeout := v }

/-- Writes a field of a configuration. -/
def encode (config : Config) : Field → Json
  | .selection => .string config.selection.name
  | .testOnBorrow => .bool config.testOnBorrow
  | .testOnReturn => .bool config.testOnReturn
  | .maxActive => .ofOption (fun count => .ofNat count.toNat) config.maxActive
  | .maxIdle => .ofOption (fun count => .ofNat count.toNat) config.maxIdle
  | .createAttempts => .ofNat config.createAttempts.toNat
  | .timeout => .ofOption Duration.format.encode config.timeout

end Field

/-- The name of the record in diagnostics and refusals. -/
def recordName : String := "KeyedPoolConfiguration"

/-- The outline of a configuration. -/
def outline (config : Config) : Text.Outline :=
  .record recordName (Field.all.map fun field => (field.name, field.outline config))

/-- A configuration as a JSON record. Members it does not know are passed over. -/
def format : RecordFormat Field Config Config where
  name := recordName
  shortArray := .elements recordName 7
  fields := Field.all
  fieldName := Field.name
  isOptional := Field.isOptional
  isStrict := false
  blank := { standard with timeout := none }
  set field json config := field.decode json config
  finish := .ok
  get field config := field.encode config

end Config

end ResourcePool
