import TunerWire.Json.Double

/-!
# JSON values

The values of a JSON text. A number with a fraction or an exponent is a double, as are infinity
and what is not a number, and any other number is an integer of any size. The members of an object
are kept in their order; where a name occurs twice, the last member of that name counts.
-/

namespace TunerWire

/-- A JSON value. -/
inductive Json where
  /-- The value `null`. -/
  | null
  /-- A truth value. -/
  | bool (value : Bool)
  /-- A number without fraction and exponent. -/
  | int (value : Int)
  /-- A number with a fraction or an exponent, or a word for a double. -/
  | real (value : Double)
  /-- A string. -/
  | string (value : String)
  /-- An array. -/
  | list (items : List Json)
  /-- An object. -/
  | object (members : List (String × Json))

namespace Json

/-- What sort of value a value is. -/
inductive Shape where
  /-- The shape of `null`. -/
  | null
  /-- A truth value. -/
  | bool
  /-- A number without fraction and exponent. -/
  | int
  /-- A double. -/
  | real
  /-- A string. -/
  | string
  /-- An array. -/
  | list
  /-- An object. -/
  | object
  deriving DecidableEq, Repr

/-- The shape of a value. -/
def shape : Json → Shape
  | .null => .null
  | .bool _ => .bool
  | .int _ => .int
  | .real _ => .real
  | .string _ => .string
  | .list _ => .list
  | .object _ => .object

/-- The value of the last member of a name. -/
def lookup (name : String) (members : List (String × Json)) : Option Json :=
  (members.reverse.find? (·.1 = name)).map (·.2)

/-- The value of a member of an object. -/
def get? (v : Json) (name : String) : Option Json :=
  match v with
  | .object members => lookup name members
  | _ => none

/-- Whether a value says nothing: `null`, false, zero, and what is empty. -/
def isVoid : Json → Bool
  | .null => true
  | .bool value => !value
  | .int value => value = 0
  | .real value => value.isZero
  | .string value => value.isEmpty
  | .list items => items.isEmpty
  | .object members => members.isEmpty

end Json

end TunerWire
