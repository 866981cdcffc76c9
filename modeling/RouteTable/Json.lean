import RouteTable.OrderedMap

/-!
# JSON values

A number is an integer or a double; the two never compare equal.  An object is a list of entries in document order.
`Json.same` compares objects without regard to the order of their keys, `Json.settle` gives every repeated key its
last value at its first position.
-/

namespace RouteTable

inductive Number
  | int (value : Int)
  | float (value : Float)
deriving DecidableEq

namespace Number

def toFloat : Number → Float
  | int n => Float.ofInt n
  | float x => x

def same : Number → Number → Bool
  | int m, int n => m == n
  | float x, float y => x == y
  | _, _ => false

end Number

inductive Json
  | null
  | bool (value : Bool)
  | number (value : Number)
  | string (value : String)
  | array (items : List Json)
  | object (fields : List (String × Json))
deriving Inhabited

namespace Json

def int (n : Int) : Json := number (.int n)

def float (x : Float) : Json := number (.float x)

/-- A missing text is `null`. -/
def ofOptionString : Option String → Json
  | some s => string s
  | none => null

def strings (items : List String) : Json := array (items.map string)

def field? : Json → String → Option Json
  | object fields, key => OrderedMap.get? fields key
  | _, _ => none

def string? : Json → Option String
  | string s => some s
  | _ => none

mutual
/-- Equality up to the order of keys, for a given equality of numbers. -/
def sameBy (eq : Number → Number → Bool) : Json → Json → Bool
  | null, null => true
  | bool a, bool b => a == b
  | number a, number b => eq a b
  | string a, string b => a == b
  | array as, array bs => sameItemsBy eq as bs
  | object as, object bs => as.length == bs.length && sameFieldsBy eq as bs
  | _, _ => false

def sameItemsBy (eq : Number → Number → Bool) : List Json → List Json → Bool
  | [], [] => true
  | a :: as, b :: bs => sameBy eq a b && sameItemsBy eq as bs
  | _, _ => false

def sameFieldsBy (eq : Number → Number → Bool) : List (String × Json) → List (String × Json) → Bool
  | [], _ => true
  | (k, a) :: as, bs => (match OrderedMap.get? bs k with
    | some b => sameBy eq a b
    | none => false) && sameFieldsBy eq as bs
end

def same : Json → Json → Bool := sameBy Number.same

def sameItems : List Json → List Json → Bool := sameItemsBy Number.same

mutual
/-- Gives every repeated key its last value at its first position, at every depth. -/
def settle : Json → Json
  | array items => array (settleItems items)
  | object fields => object (OrderedMap.ofEntries (settleFields fields))
  | v => v

def settleItems : List Json → List Json
  | [] => []
  | v :: vs => settle v :: settleItems vs

def settleFields : List (String × Json) → List (String × Json)
  | [] => []
  | (k, v) :: rest => (k, settle v) :: settleFields rest
end

mutual
/-- Number of values inside a value, itself included. -/
def size : Json → Nat
  | array items => 1 + sizeItems items
  | object fields => 1 + sizeFields fields
  | _ => 1

def sizeItems : List Json → Nat
  | [] => 0
  | v :: vs => size v + sizeItems vs

def sizeFields : List (String × Json) → Nat
  | [] => 0
  | (_, v) :: rest => size v + sizeFields rest
end

end Json

end RouteTable
