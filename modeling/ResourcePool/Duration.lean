import ResourcePool.Json.Record
import ResourcePool.Text.Outline

/-!
# Durations

A span of time in whole seconds and nanoseconds, its text in the largest fitting unit, and its JSON
form.
-/

namespace ResourcePool

/-- The number of nanoseconds in a second. -/
def nanosPerSecond : Nat := 1000000000

/-- A span of time of less than `2 ^ 64` seconds, to the nanosecond. -/
structure Duration where
  /-- Whole seconds. -/
  secs : UInt64
  /-- The nanoseconds beyond them. -/
  nanos : UInt32
  /-- The nanoseconds do not make up another second. -/
  nanos_lt : nanos.toNat < nanosPerSecond
  deriving DecidableEq

namespace Duration

/-- A number of whole seconds. -/
def ofSecs (secs : UInt64) : Duration := ⟨secs, 0, by decide⟩

/-- The duration of `secs` seconds and `nanos` nanoseconds. Nanoseconds that make up whole seconds
are carried over; there is no such duration when the seconds then do not fit into 64 bits. -/
def ofParts? (secs nanos : Nat) : Option Duration :=
  let total := secs + nanos / nanosPerSecond
  if total < UInt64.size then
    some {
      secs := UInt64.ofNat total
      nanos := UInt32.ofNat (nanos % nanosPerSecond)
      nanos_lt := by
        have below : nanos % nanosPerSecond < nanosPerSecond := Nat.mod_lt _ (by decide)
        have small : nanos % nanosPerSecond < UInt32.size :=
          Nat.lt_trans below (by decide)
        rw [UInt32.toNat_ofNat_of_lt' small]
        exact below }
  else none

/-- The length in nanoseconds. -/
def toNanos (d : Duration) : Nat := d.secs.toNat * nanosPerSecond + d.nanos.toNat

/-- The length in milliseconds, a started millisecond counting in full. -/
def ceilMillis (d : Duration) : Nat := (d.toNanos + 999999) / 1000000

/-! ## Text -/

/-- Drops the zeros at the end of a list of digits. -/
def trimZeros (digits : List Char) : List Char :=
  (digits.reverse.dropWhile (· = '0')).reverse

/-- A number of units with a fraction of `places` places, less the zeros at its end. -/
def withFraction (whole fraction places : Nat) (unit : String) : String :=
  let digits := (toString fraction).toList
  let padded := List.replicate (places - digits.length) '0' ++ digits
  let shown := trimZeros padded
  toString whole ++ (if shown.isEmpty then "" else "." ++ String.ofList shown) ++ unit

/-- The text of a duration, in the largest unit of which it holds at least one. -/
def text (d : Duration) : String :=
  let nanos := d.nanos.toNat
  if d.secs ≠ 0 then withFraction d.secs.toNat nanos 9 "s"
  else if 1000000 ≤ nanos then withFraction (nanos / 1000000) (nanos % 1000000) 6 "ms"
  else if 1000 ≤ nanos then withFraction (nanos / 1000) (nanos % 1000) 3 "µs"
  else toString nanos ++ "ns"

/-- The outline of a duration is its text. -/
def outline (d : Duration) : Text.Outline := .word d.text

/-! ## JSON -/

/-- The two fields of a duration. -/
inductive Field where
  | secs
  | nanos
  deriving DecidableEq, Repr

/-- A duration as a record of seconds and nanoseconds. Nothing else may stand in the object, and
nanoseconds of a second or more are carried over. -/
def format : RecordFormat Field (UInt64 × UInt32) Duration where
  name := "Duration"
  shortArray := .record "Duration"
  fields := [.secs, .nanos]
  fieldName
    | .secs => "secs"
    | .nanos => "nanos"
  isOptional _ := false
  isStrict := true
  blank := (0, 0)
  set
    | .secs, json, draft => (json.decodeWord64 .word64).map fun secs => (secs, draft.2)
    | .nanos, json, draft => json.decodeWord32.map fun nanos => (draft.1, nanos)
  finish draft :=
    match ofParts? draft.1.toNat draft.2.toNat with
    | some duration => .ok duration
    | none => .error .durationOverflow
  get
    | .secs, duration => .ofNat duration.secs.toNat
    | .nanos, duration => .ofNat duration.nanos.toNat

end Duration

end ResourcePool
