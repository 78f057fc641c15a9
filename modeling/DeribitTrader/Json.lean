import Mathlib.Data.Rat.Defs

/-!
# Decoded JSON values, as `nlohmann::json` reads them

The program reads every payload of the exchange with `json::parse` and then through a few
accessors. The spec keeps the codec outside the core, so the methods here take the decoded
value (`Option Json`, `none` when `json::parse` throws) and model the accessors exactly,
including where they throw: a thrown `std::exception` is `.error ()` of `Except Unit`.

* `member j k` is the non-`const` `j[k]`: a member of an object (`null` when absent, the
  member `operator[]` inserts), `null` on `null` (which `operator[]` turns into an object), and
  a throw on any other value.
* `constMember j k` is the `const` `j[k]`: a member of an object, and a throw on any other
  value. A missing key is undefined behaviour in C++ (an assertion, compiled out in a release
  build, then a read past the end of the map); here it throws as well, which is no model of
  that case, so the laws that read through `constMember` are stated for values whose members
  are present (`OrderManager.positionMembersPresent`).
* `getString`, `getNumber` are `get<std::string>()` and `get<double>()`: they throw on any other
  type; a boolean is not a number for `double`.
* `items j` is what a range-`for` over `j` visits: an array's elements, an object's values, no
  element for `null`, and the value itself for a string, number or boolean.

A `number` stands for the `double` that `get<double>()` returns, and it is a rational: the code
only copies numbers and compares them, and a JSON text carries no NaN or infinity. The parser
keeps an integer exact, and `get<double>()` rounds one beyond 2^53 (and a decimal fraction to
the nearest `double`), so a law that copies or compares numbers holds of the `double`s for
numbers a `double` represents exactly, such as the integers up to 2^53 and the prices and sizes
the examples use. An object's members are in key order with distinct keys, as the parser builds
them.
-/

set_option autoImplicit false

namespace DeribitTrader

/-- A decoded JSON value. -/
inductive Json where
  | null
  | bool (b : Bool)
  | number (n : ℚ)
  | string (s : String)
  | array (xs : List Json)
  | object (members : List (String × Json))
  deriving Inhabited

namespace Json

/-- `j.contains(k)`: `false` for anything but an object. -/
def contains : Json → String → Bool
  | object ms, k => (ms.lookup k).isSome
  | _, _ => false

/-- The non-`const` `j[k]`. -/
def member : Json → String → Except Unit Json
  | object ms, k => .ok ((ms.lookup k).getD null)
  | null, _ => .ok null
  | _, _ => .error ()

/-- The `const` `j[k]`; its throw on a missing key stands in for nlohmann's assertion. -/
def constMember : Json → String → Except Unit Json
  | object ms, k =>
    match ms.lookup k with
    | some v => .ok v
    | none => .error ()
  | _, _ => .error ()

/-- `j.get<std::string>()`. -/
def getString : Json → Except Unit String
  | string s => .ok s
  | _ => .error ()

/-- `j.get<double>()`. -/
def getNumber : Json → Except Unit ℚ
  | number n => .ok n
  | _ => .error ()

/-- `j.is_array()`. -/
def isArray : Json → Bool
  | array _ => true
  | _ => false

/-- What a range-`for` over `j` visits. -/
def items : Json → List Json
  | null => []
  | array xs => xs
  | object ms => ms.map (·.2)
  | j => [j]

end Json

@[simp] theorem except_ok_bind {ε α β : Type} (a : α) (f : α → Except ε β) :
    (Except.ok a >>= f) = f a := rfl

@[simp] theorem except_error_bind {ε α β : Type} (e : ε) (f : α → Except ε β) :
    (Except.error e >>= f) = Except.error e := rfl

end DeribitTrader
