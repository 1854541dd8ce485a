import ResourcePool.Json.Basic

/-!
# Keys of scenarios

A scenario runs a pool under keys of one general kind: whole numbers, texts, and lists of keys. All
of them are distinct, so that `1`, `"1"` and `[1]` are three keys.

* `Key.compare` orders keys for display: numbers, then texts, then lists.
* `Key.debug`, `Key.toJson` and `Key.label` are the three ways in which a key is shown.
-/

namespace ResourcePool.Scenario

/-- A key of a scenario. -/
inductive Key where
  | int (value : Int)
  | text (value : String)
  | list (parts : List Key)
  deriving Inhabited, Repr

namespace Key

/-! ## Equality -/

mutual

/-- Keys are equal or not. -/
def decEq : (a b : Key) → Decidable (a = b)
  | int a, int b => if h : a = b then isTrue (by rw [h]) else isFalse (by simp [h])
  | text a, text b => if h : a = b then isTrue (by rw [h]) else isFalse (by simp [h])
  | list as, list bs =>
    match decEqList as bs with
    | isTrue h => isTrue (by rw [h])
    | isFalse h => isFalse (by simp [h])
  | int _, text _ | int _, list _ | text _, int _ | text _, list _ | list _, int _
  | list _, text _ => isFalse (by simp)

/-- Lists of keys are equal or not. -/
def decEqList : (as bs : List Key) → Decidable (as = bs)
  | [], [] => isTrue rfl
  | [], _ :: _ | _ :: _, [] => isFalse (by simp)
  | a :: as, b :: bs =>
    match decEq a b, decEqList as bs with
    | isTrue h, isTrue h' => isTrue (by rw [h, h'])
    | isFalse h, _ => isFalse (by simp [h])
    | _, isFalse h => isFalse (by simp [h])

end

instance : DecidableEq Key := decEq

/-! ## Order -/

mutual

/-- The order of keys: numbers before texts before lists; numbers by value, texts by their
characters, lists like words in a dictionary. -/
def compare : Key → Key → Ordering
  | int a, int b => Ord.compare a b
  | int _, _ => .lt
  | text _, int _ => .gt
  | text a, text b => Ord.compare a b
  | text _, list _ => .lt
  | list as, list bs => compareList as bs
  | list _, _ => .gt

/-- The dictionary order of lists of keys. -/
def compareList : List Key → List Key → Ordering
  | [], [] => .eq
  | [], _ :: _ => .lt
  | _ :: _, [] => .gt
  | a :: as, b :: bs => (compare a b).then (compareList as bs)

end

/-- Sorts by key; entries under one key keep their order. -/
def sortBy {α : Type} (key : α → Key) (entries : List α) : List α :=
  entries.mergeSort fun a b => (compare (key a) (key b)).isLE

/-! ## Text -/

mutual

/-- A key as diagnostics show it. -/
def debug : Key → String
  | int value => toString value
  | text value => Text.debug value
  | list parts => "[" ++ ", ".intercalate (debugParts parts) ++ "]"

/-- The parts of a list as diagnostics show them. -/
def debugParts : List Key → List String
  | [] => []
  | part :: rest => part.debug :: debugParts rest

end

mutual

/-- A key as a JSON value. -/
def toJson : Key → Json
  | int value => .int value
  | text value => .string value
  | list parts => .array (toJsonParts parts)

/-- The parts of a list as JSON values. -/
def toJsonParts : List Key → List Json
  | [] => []
  | part :: rest => part.toJson :: toJsonParts rest

end

/-- A key inside a name: a text as it is, and any other key as JSON. -/
def label : Key → String
  | text value => value
  | key => key.toJson.render

end Key

end ResourcePool.Scenario
