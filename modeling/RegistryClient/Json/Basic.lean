import RegistryClient.Decimal.Binary64

/-!
# JSON values

Records, query documents and responses are JSON values.  A number keeps the kind
of its literal: an integer, or a double-precision number.

An object is a list of fields in increasing order of their keys, each key once;
`Fields.insert` keeps it so, and `Json.Ordered` says so of a whole value.  Keys
are compared by code point, which is also their order as UTF-8.
-/

namespace RegistryClient

/-- A JSON number, of the kind its literal has. -/
inductive Number where
  | integer (value : Int)
  | double (value : Decimal.Double)
deriving DecidableEq, Repr

/-- A JSON value. -/
inductive Json where
  | null
  | bool (value : Bool)
  | number (value : Number)
  | string (text : String)
  | array (items : List Json)
  | object (fields : List (String × Json))
deriving BEq, Repr, Inhabited

/-- The fields of an object. -/
abbrev Fields := List (String × Json)

namespace Fields

/-- The value under a key. -/
def get? (key : String) : Fields → Option Json
  | [] => none
  | (name, value) :: rest => if name = key then some value else get? key rest

/-- The fields with a value put under a key, in place of an earlier value there. -/
def insert (key : String) (value : Json) : Fields → Fields
  | [] => [(key, value)]
  | (name, present) :: rest =>
    if key = name then (key, value) :: rest
    else if key < name then (key, value) :: (name, present) :: rest
    else (name, present) :: insert key value rest

/-- The fields without the one under a key. -/
def erase (key : String) (fields : Fields) : Fields :=
  fields.filter fun field => field.1 ≠ key

/-- The fields of the first object, overridden by those of the second. -/
def override (fields overriding : Fields) : Fields :=
  overriding.foldl (fun merged field => merged.insert field.1 field.2) fields

/-- The fields of a list of pairs, a later pair replacing an earlier one. -/
def ofList (pairs : List (String × Json)) : Fields :=
  override [] pairs

end Fields

namespace Json

/-- The value under a key of an object; other values have no fields. -/
def get? (key : String) : Json → Option Json
  | .object fields => Fields.get? key fields
  | _ => none

/-- A value that is neither an array nor an object. -/
def isScalar : Json → Bool
  | .array _ => false
  | .object _ => false
  | _ => true

/-- The object with these fields, in order of their keys. -/
def ofFields (pairs : List (String × Json)) : Json :=
  .object (Fields.ofList pairs)

/-- An integer as a number. -/
def ofNat (value : Nat) : Json :=
  .number (.integer value)

mutual

/-- In every object of the value the keys increase. -/
def Ordered : Json → Prop
  | .array items => OrderedItems items
  | .object fields => (fields.map Prod.fst).Pairwise (· < ·) ∧ OrderedFields fields
  | _ => True

/-- `Ordered` of every item. -/
def OrderedItems : List Json → Prop
  | [] => True
  | item :: rest => Ordered item ∧ OrderedItems rest

/-- `Ordered` of every field's value. -/
def OrderedFields : List (String × Json) → Prop
  | [] => True
  | (_, value) :: rest => Ordered value ∧ OrderedFields rest

end

end Json

end RegistryClient
