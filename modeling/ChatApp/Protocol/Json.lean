/-
  JSON values and the accessors of nlohmann::json that the server reads requests with.
  `value(key, default)` throws when the value is not an object (type_error 306) and when the
  member is there with a type that `get` does not convert (type_error 302).

  An object is the list of its members; no two have the same name, and nothing depends on their
  order. A number with a fraction or an exponent is a double, here the exact
  `mantissa * 2 ^ exponent`. The conversion of a double outside the range of the integer type is
  undefined in C++; here it wraps around like that of an integer.
-/
import Mathlib.Algebra.Group.Int.Defs
import Mathlib.Algebra.Group.Nat.Defs

namespace ChatApp.Protocol

inductive Json
  | null
  | bool (b : Bool)
  /-- number_integer and number_unsigned -/
  | number (n : Int)
  /-- number_float -/
  | float (mantissa exponent : Int)
  | string (s : String)
  | array (xs : List Json)
  | object (members : List (String × Json))

/-- `static_cast<int>` of a wider integer -/
def toInt32 (n : Int) : Int := n.bmod (2 ^ 32)

/-- `static_cast<uint64_t>` -/
def toUInt64 (n : Int) : Nat := (n % 2 ^ 64).toNat

inductive JsonError
  /-- type_error 302, `get` -/
  | typeMismatch
  /-- type_error 306, `value` of something that is not an object -/
  | notAnObject
  deriving DecidableEq, Repr

namespace Json

/-- The integer part of a double. -/
def truncate (mantissa exponent : Int) : Int :=
  if 0 ≤ exponent then mantissa * 2 ^ exponent.toNat else mantissa.tdiv (2 ^ (-exponent).toNat)

/-- `get<T>` for an integer type, before the cast to it. -/
def getNumber : Json → Except JsonError Int
  | number n => .ok n
  | float mantissa exponent => .ok (truncate mantissa exponent)
  | bool b => .ok (if b then 1 else 0)
  | _ => .error .typeMismatch

/-- `get<bool>` -/
def getBool : Json → Except JsonError Bool
  | bool b => .ok b
  | _ => .error .typeMismatch

/-- `get<std::string>` -/
def getString : Json → Except JsonError String
  | string s => .ok s
  | _ => .error .typeMismatch

def isObject : Json → Bool
  | object _ => true
  | _ => false

/-- The member of an object. -/
def find? (key : String) : Json → Option Json
  | object members => members.lookup key
  | _ => none

/-- `contains(key)` -/
def contains (body : Json) (key : String) : Bool := (body.find? key).isSome

/-- `value(key, default)` with the conversion `get` -/
def valueWith {α : Type} (get : Json → Except JsonError α) (body : Json) (key : String)
    (default : α) : Except JsonError α :=
  if body.isObject then
    match body.find? key with
    | some member => get member
    | none => .ok default
  else .error .notAnObject

/-- `value(key, default)` for an `int` -/
def valueInt (body : Json) (key : String) (default : Int) : Except JsonError Int :=
  body.valueWith (fun member => toInt32 <$> member.getNumber) key default

/-- `value(key, 0ULL)` -/
def valueUInt64 (body : Json) (key : String) : Except JsonError Nat :=
  body.valueWith (fun member => toUInt64 <$> member.getNumber) key 0

/-- `uint64_t id = value(key, 0)`: the member is read as an `int`, and then widened -/
def valueId (body : Json) (key : String) : Except JsonError Nat :=
  toUInt64 <$> body.valueInt key 0

/-- `value(key, default)` for a `bool` -/
def valueBool (body : Json) (key : String) (default : Bool) : Except JsonError Bool :=
  body.valueWith getBool key default

/-- `value(key, default)` for a string literal -/
def valueString (body : Json) (key : String) (default : String) : Except JsonError String :=
  body.valueWith getString key default

end Json

end ChatApp.Protocol
