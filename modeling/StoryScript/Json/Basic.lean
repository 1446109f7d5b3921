/-!
# JSON values

Integers are kept apart from numbers written with a fraction or an exponent, since
the two are read differently as data; infinities and the undefined number have no value
at all. An object keeps its members in order; of two
members with one name the later one counts.
-/

namespace StoryScript

/-- The number `mantissa * 10 ^ exponent`. -/
structure Decimal where
  mantissa : Int
  exponent : Int
  deriving DecidableEq, Repr

inductive Json where
  | null
  | bool (value : Bool)
  | int (value : Int)
  | decimal (value : Decimal)
  | nonFinite
  | string (value : String)
  | array (items : List Json)
  | object (members : List (String × Json))
  deriving Repr, Inhabited

namespace Json

/-- The value of a member, by name. -/
def member? (members : List (String × Json)) (name : String) : Option Json :=
  members.reverse.lookup name

end Json

end StoryScript
