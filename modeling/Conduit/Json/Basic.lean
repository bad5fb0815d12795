import Conduit.Decimal.Binary64

/-! # JSON values

Free JSON values. Numbers are either integers or floating-point numbers. The
members of an object stand in the order of their names by code point, each name
once; a member added under a name that is there already replaces it.
-/

namespace Conduit

open Decimal (Binary64)

/-- A JSON value. -/
inductive Json where
  | null
  | bool (b : Bool)
  | int (n : Int)
  | float (x : Binary64)
  | string (s : String)
  | array (elements : List Json)
  | object (members : List (String × Json))
  deriving Inhabited

namespace Json

mutual

/-- Whether two values are the same. -/
def same : Json → Json → Bool
  | null, null => true
  | bool a, bool b => a == b
  | int a, int b => a == b
  | float a, float b => a == b
  | string a, string b => a == b
  | array as, array bs => sameElements as bs
  | object as, object bs => sameMembers as bs
  | _, _ => false

/-- Whether two lists of values are the same. -/
def sameElements : List Json → List Json → Bool
  | [], [] => true
  | a :: as, b :: bs => same a b && sameElements as bs
  | _, _ => false

/-- Whether two lists of members are the same. -/
def sameMembers : List (String × Json) → List (String × Json) → Bool
  | [], [] => true
  | (n, a) :: as, (k, b) :: bs => n == k && same a b && sameMembers as bs
  | _, _ => false

end

mutual

theorem same_iff : (a b : Json) → (same a b = true ↔ a = b)
  | .array as, b => by cases b <;> simp [same, sameElements_iff as]
  | .object as, b => by cases b <;> simp [same, sameMembers_iff as]
  | .null, b => by cases b <;> simp [same]
  | .bool _, b => by cases b <;> simp [same]
  | .int _, b => by cases b <;> simp [same]
  | .float _, b => by cases b <;> simp [same]
  | .string _, b => by cases b <;> simp [same]

theorem sameElements_iff : (as bs : List Json) → (sameElements as bs = true ↔ as = bs)
  | [], bs => by cases bs <;> simp [sameElements]
  | a :: as, bs => by cases bs <;> simp [sameElements, same_iff a, sameElements_iff as]

theorem sameMembers_iff :
    (as bs : List (String × Json)) → (sameMembers as bs = true ↔ as = bs)
  | [], bs => by cases bs <;> simp [sameMembers]
  | (n, a) :: as, bs => by
      cases bs <;> simp [sameMembers, same_iff a, sameMembers_iff as, Prod.ext_iff]

end

instance : DecidableEq Json := fun a b => decidable_of_iff _ (same_iff a b)

/-- Puts a member in its place, over an older one of the same name. -/
def insertMember (name : String) (value : Json) : List (String × Json) → List (String × Json)
  | [] => [(name, value)]
  | (other, held) :: rest =>
      if name < other then (name, value) :: (other, held) :: rest
      else if name = other then (name, value) :: rest
      else (other, held) :: insertMember name value rest

/-- The object with these members; the last of several with one name counts. -/
def ofMembers (members : List (String × Json)) : Json :=
  object (members.foldl (fun acc (name, value) => insertMember name value acc) [])

/-- The value of an object's member. -/
def member? (name : String) : Json → Option Json
  | object members => members.lookup name
  | _ => none

/-- The integers that are read as integers: those of sixty-four bits, signed or
unsigned. -/
def isWordSized (n : Int) : Bool := -0x8000000000000000 ≤ n && n < 0x10000000000000000

end Json

end Conduit
