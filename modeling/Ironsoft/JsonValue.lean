import Ironsoft.EkinoxText
import Mathlib.Data.Rat.Defs

/-!
# JSON values

The part of jsoncpp's `Json::Value` that is used: the kinds of a value, the type tests,
the accessors with the exceptions they throw, and member lookup. Integers keep the 64-bit
type the reader gave them. A real is the rational number the double denotes, or `none` if
it is not finite.
-/
namespace Ironsoft.Ekinox

inductive JsonException
  | stackLimit
  | notConvertible
  deriving DecidableEq, Repr

inductive Json
  | null
  | bool (b : Bool)
  | int (n : Int64)
  | uint (n : UInt64)
  | real (v : Option ℚ)
  | str (s : Bytes)
  | arr (items : List Json)
  | obj (members : List (Bytes × Json))

/-- `CharReader::parse`: `none` if it returns false, and it may throw. -/
abbrev JsonParser := Bytes → Except JsonException (Option Json)

namespace Json

def minInt : ℤ := -2147483648
def maxInt : ℤ := 2147483647

def isNull : Json → Bool
  | null => true
  | _ => false

def isBool : Json → Bool
  | bool _ => true
  | _ => false

def isString : Json → Bool
  | str _ => true
  | _ => false

def isObject : Json → Bool
  | obj _ => true
  | _ => false

def isNumeric : Json → Bool
  | int _ | uint _ | real _ => true
  | _ => false

/-- `isInt64()`: an integral number that fits in 64 bits, of whatever kind. -/
def isInt64 : Json → Bool
  | int _ => true
  | uint n => n.toNat < 9223372036854775808
  | real (some q) => q.den = 1 ∧ -9223372036854775808 ≤ q.num ∧ q.num < 9223372036854775808
  | _ => false

def isUInt64 : Json → Bool
  | int n => 0 ≤ n.toInt
  | uint _ => true
  | real (some q) => q.den = 1 ∧ 0 ≤ q.num ∧ q.num < 18446744073709551616
  | _ => false

/-- `isInt()` -/
def isInt : Json → Bool
  | int n => minInt ≤ n.toInt ∧ n.toInt ≤ maxInt
  | uint n => (n.toNat : ℤ) ≤ maxInt
  | real (some q) => q.den = 1 ∧ minInt ≤ q.num ∧ q.num ≤ maxInt
  | _ => false

/-- `asString()` of a string value; only called behind `isString()`. -/
def asString : Json → Bytes
  | str s => s
  | _ => []

/-- `asBool()` of a boolean value; only called behind `isBool()`. -/
def asBool : Json → Bool
  | bool b => b
  | _ => false

def inIntRange (q : ℚ) : Bool := minInt ≤ q ∧ q ≤ maxInt

/-- `asInt()`: throws if the number does not fit in `int`, truncates a real that does. -/
def asInt : Json → Except JsonException ℤ
  | null => .ok 0
  | bool b => .ok (if b then 1 else 0)
  | int n => if (int n).isInt then .ok n.toInt else .error .notConvertible
  | uint n => if (uint n).isInt then .ok n.toNat else .error .notConvertible
  | real (some q) => if inIntRange q then .ok (q.num.tdiv q.den) else .error .notConvertible
  | real none => .error .notConvertible
  | str _ | arr _ | obj _ => .error .notConvertible

/-- `root[key]`: null if there is no such member. -/
def get (root : Json) (key : Bytes) : Json :=
  match root with
  | obj members => (members.lookup key).getD null
  | _ => null

def isMember (root : Json) (key : Bytes) : Bool :=
  match root with
  | obj members => (members.lookup key).isSome
  | _ => false

end Json

end Ironsoft.Ekinox
