import ResourcePool.Decimal.Shortest
import ResourcePool.Metrics.Basic

/-!
# Text exposition of metrics

A snapshot in the text format that monitoring systems scrape: one family of samples per metric, in
the order of the families' names, each with a help line, a type line and one sample that carries the
labels of the pool.

* `Family.all` pairs every metric with its family.
* `Labels.ofPool` is the label set of a pool, and `Labels.block` its text.
* `Metrics.expose` writes a whole snapshot.
-/

namespace ResourcePool

/-! ## Families -/

/-- What the samples of a family measure. -/
inductive FamilyKind where
  /-- A total that only grows. -/
  | counter
  /-- A current value. -/
  | gauge
  deriving DecidableEq, Repr

/-- The name of a kind. -/
def FamilyKind.name : FamilyKind → String
  | .counter => "counter"
  | .gauge => "gauge"

/-- A family of samples. -/
structure Family where
  /-- The name of the family. -/
  name : String
  /-- The help text. -/
  help : String
  /-- What its samples measure. -/
  kind : FamilyKind
  /-- The metric that its sample shows. -/
  metric : Metric
  deriving DecidableEq, Repr

/-- The families of a snapshot, in the order of their names. -/
def Family.all : List Family := [
  ⟨"keyedpool_activation_failures_total", "Activation failures", .counter, .activationFailures⟩,
  ⟨"keyedpool_destroy_failures_total", "Failed destroy calls", .counter, .destroyFailures⟩,
  ⟨"keyedpool_events_max_active_total", "Borrows refused at capacity", .counter, .refusals⟩,
  ⟨"keyedpool_keys", "Keys holding idle or borrowed objects", .gauge, .keys⟩,
  ⟨"keyedpool_objects_active", "Current active objects", .gauge, .active⟩,
  ⟨"keyedpool_objects_borrowed_total", "Objects borrowed", .counter, .borrowed⟩,
  ⟨"keyedpool_objects_created_total", "Objects created", .counter, .created⟩,
  ⟨"keyedpool_objects_destroyed_total", "Objects destroyed", .counter, .destroyed⟩,
  ⟨"keyedpool_objects_idle", "Current idle objects", .gauge, .idle⟩,
  ⟨"keyedpool_objects_returned_total", "Objects returned", .counter, .returned⟩,
  ⟨"keyedpool_passivation_failures_total", "Passivation failures", .counter, .passivationFailures⟩,
  ⟨"keyedpool_validation_failures_total", "Validation failures", .counter, .validationFailures⟩]

/-- The text of a sample. Samples are doubles: a counter is an unsigned word and a gauge a signed
one, and either is rounded to the nearest double. -/
def FamilyKind.sample (value : UInt64) : FamilyKind → String
  | .counter => (Binary64.ofNat value.toNat).positional
  | .gauge => (Binary64.ofInt value.toInt64.toInt).positional

/-! ## Labels -/

/-- A set of labels: names with their values, in the order of the names. -/
abbrev Labels := List (String × String)

namespace Labels

/-- Whether a character may start a label name. -/
def isNameStart (c : Char) : Bool := c.isAlpha || c = '_'

/-- Whether a character may stand in a label name. -/
def isNameChar (c : Char) : Bool := isNameStart c || c.isDigit

/-- Whether a text is a label name: a letter or an underscore, then letters, digits and
underscores, all of them plain ones. -/
def isName (name : String) : Bool :=
  match name.toList with
  | [] => false
  | first :: rest => isNameStart first && rest.all isNameChar

/-- The labels of a pool: its tags, and its name under `pool` unless a tag is called that. -/
def ofPool (pool : String) (tags : List (String × String)) : Labels :=
  let named := if tags.any fun tag => tag.1 = "pool" then tags else ("pool", pool) :: tags
  named.mergeSort fun a b => a.1 ≤ b.1

/-- How one character of a label value is written. -/
def escape (c : Char) : List Char :=
  match c with
  | '\\' => ['\\', '\\']
  | '"' => ['\\', '"']
  | '\n' => ['\\', 'n']
  | c => [c]

/-- One label, its value in double quotes. -/
def pair (label : String × String) : String :=
  label.1 ++ "=\"" ++ String.ofList (label.2.toList.flatMap escape) ++ "\""

/-- The labels between braces. -/
def block (labels : Labels) : String :=
  "\x7b" ++ ",".intercalate (labels.map pair) ++ "\x7d"

end Labels

/-! ## Exposition -/

/-- Why a snapshot cannot be exposed. -/
inductive ExpositionError where
  /-- A tag whose name is no label name. -/
  | badLabelName (name : String)
  deriving DecidableEq, Repr

/-- The wording of a refusal. -/
def ExpositionError.message : ExpositionError → String
  | .badLabelName name => "Error: '" ++ name ++ "' is not a valid label name"

/-- The three lines of one family. -/
def Family.lines (family : Family) (labels : Labels) (metrics : Metrics) : List String :=
  ["# HELP " ++ family.name ++ " " ++ family.help,
    "# TYPE " ++ family.name ++ " " ++ family.kind.name,
    family.name ++ labels.block ++ " " ++ family.kind.sample (metrics.get family.metric)]

/-- **The exposition of a snapshot**, under the name of its pool and with further tags. The name of
a tag has to be a label name. -/
def Metrics.expose (metrics : Metrics) (pool : String) (tags : List (String × String)) :
    Except ExpositionError String :=
  let labels := Labels.ofPool pool tags
  match labels.find? fun label => !Labels.isName label.1 with
  | some label => .error (.badLabelName label.1)
  | none =>
    let lines := Family.all.flatMap fun family => family.lines labels metrics
    .ok (String.join (lines.map fun line => line ++ "\n"))

end ResourcePool
