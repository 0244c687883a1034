import ExposureBench.Json.Reader

namespace ExposureBench

namespace Json

def toBool? : Json → Option Bool
  | .bool b => some b
  | _ => none

def toString? : Json → Option String
  | .string text => text
  | _ => none

def toInteger? : Json → Option Int
  | .number n => match n.value? with
    | some (.integer i) => some i
    | _ => none
  | _ => none

def toNat? (limit : Nat) (j : Json) : Option Nat := do
  let i ← j.toInteger?
  if 0 ≤ i ∧ i ≤ limit then some i.toNat else none

def toUInt32? (j : Json) : Option Nat := j.toNat? (UInt32.size - 1)

def toUInt64? (j : Json) : Option Nat := j.toNat? (UInt64.size - 1)

def toInt64? (j : Json) : Option Int := do
  let i ← j.toInteger?
  if i ≤ Binary64.maxInt64 then some i else none

def toFloat? : Json → Option Float
  | .number n => n.value?.map fun
    | .integer i => Float.ofInt i
    | .float x => x
  | _ => none

def toList? {α : Type} (item? : Json → Option α) : Json → Option (List α)
  | .array items => items.mapM item?
  | _ => none

def toOption? {α : Type} (inner? : Json → Option α) : Json → Option (Option α)
  | .null => some none
  | j => (inner? j).map some

/-- A name, or an object whose one member has that name and the value `null`. -/
def toEnum? {α : Type} (names : List (String × α)) : Json → Option α
  | .string (some name) => names.lookup name
  | .object [(some name, .null)] => names.lookup name
  | _ => none

abbrev Record := List (String × Json)

/-- All member names must be text; those that no field has are passed over. -/
def members? (fields : List String) (members : List (Text × Json)) : Option Record := do
  let named ← members.mapM fun (name, j) => name.map (·, j)
  let known := named.filter fun (name, _) => fields.contains name
  if (known.map Prod.fst).Nodup then some known else none

def record? (fields : List String) : Json → Option Record
  | .object members => members? fields members
  | .array items => if items.length = fields.length then some (fields.zip items) else none
  | _ => none

/-- A record whose fields have defaults: an array may stop early. -/
def overlay? (fields : List String) : Json → Option Record
  | .object members => members? fields members
  | .array items => if items.length ≤ fields.length then some (fields.zip items) else none
  | _ => none

namespace Record

variable {α : Type}

def field? (r : Record) (name : String) (read? : Json → Option α) : Option α :=
  (r.lookup name).bind read?

def optional? (r : Record) (name : String) (read? : Json → Option α) : Option (Option α) :=
  match r.lookup name with
  | none => some none
  | some j => j.toOption? read?

def fieldD? (r : Record) (name : String) (default : α) (read? : Json → Option α) : Option α :=
  match r.lookup name with
  | none => some default
  | some j => read? j

end Record

end Json

end ExposureBench
