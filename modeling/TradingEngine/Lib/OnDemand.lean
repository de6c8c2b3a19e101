import Mathlib.Data.Rat.Defs

/-!
# Documents read on demand

A JSON document as an on-demand parser presents it: a value is looked at when it is asked for, so a
document may have a malformed part that is never noticed. A number is kept as a token. What it is
depends on the getter that reads it: as a signed or unsigned 64-bit integer, or as a floating-point
number, each of which may fail. A floating-point number is the rational number it stands for; the
parser gives no infinities.

A getter returns `none` where the parser reports an error, which includes a field that is not there.
-/

namespace OnDemand

/-- A number, by what the three getters make of it. -/
structure NumberToken where
  int64 : Option ℤ := none
  uint64 : Option ℕ := none
  double : Option ℚ := none
  deriving DecidableEq

inductive Value
  | malformed
  | null
  | boolean (value : Bool)
  | number (token : NumberToken)
  | string (value : String)
  | array (items : List Value)
  | object (fields : List (String × Value))

namespace Value

/-- The field of that name. -/
def findField (value : Value) (key : String) : Option Value :=
  match value with
  | .object fields => fields.lookup key
  | _ => none

def getInt64 : Value → Option ℤ
  | .number token => token.int64
  | _ => none

def getUInt64 : Value → Option ℕ
  | .number token => token.uint64
  | _ => none

def getDouble : Value → Option ℚ
  | .number token => token.double
  | _ => none

def getString : Value → Option String
  | .string value => some value
  | _ => none

def getArray : Value → Option (List Value)
  | .array items => some items
  | _ => none

/-- The value itself, when it is an object. -/
def getObject : Value → Option Value
  | .object fields => some (.object fields)
  | _ => none

end Value

end OnDemand
