import BacklinkPublisher.OrderedDicts
import Mathlib.Data.Rat.Defs

set_option autoImplicit false

/-!
# JSON values

Values of JSON as a program holds them, with what else may stand among them, and their objects as
dicts in order of insertion.
-/
namespace BacklinkPublisher.JsonValues
open OrderedDicts

/-- `foreign` is a value that JSON does not have; only its truth value is known. -/
inductive Json where
  | null
  | bool (b : Bool)
  | number (q : ℚ)
  | text (s : String)
  | array (items : List Json)
  | object (fields : List (String × Json))
  | foreign (code : ℕ) (truthy : Bool)

abbrev Fields := List (String × Json)

def Json.truthy : Json → Bool
  | .null => false
  | .bool b => b
  | .number q => decide (q ≠ 0)
  | .text s => decide (s ≠ "")
  | .array items => !items.isEmpty
  | .object fields => !fields.isEmpty
  | .foreign _ truthy => truthy

def Json.asObject : Json → Option Fields
  | .object fields => some fields
  | _ => none

def Json.asArray : Json → Option (List Json)
  | .array items => some items
  | _ => none

/-- The number that arithmetic takes a value for. -/
def Json.asNumber : Json → Option ℚ
  | .number q => some q
  | .bool b => some (if b then 1 else 0)
  | _ => none

/-- `d.get(key)`, `none` where the key is missing. -/
def get (key : String) (fields : Fields) : Option Json :=
  (lookup Prod.fst key fields).map Prod.snd

/-- `d[key] = value`. -/
def setItem (key : String) (value : Json) (fields : Fields) : Fields := put Prod.fst (key, value) fields

/-- `d.update(changes)`. -/
def update (changes fields : Fields) : Fields :=
  changes.foldl (fun fields change => setItem change.1 change.2 fields) fields

/-- `d.get(key, {})`, `none` where it is no dict. -/
def child (key : String) (fields : Fields) : Option Fields :=
  ((get key fields).getD (.object [])).asObject

/-- The dict under `d.setdefault(key, {})`, changed in place. -/
def within (key : String) (change : Fields → Option Fields) (fields : Fields) : Option Fields :=
  ((child key fields).bind change).map fun changed => setItem key (.object changed) fields

end BacklinkPublisher.JsonValues
