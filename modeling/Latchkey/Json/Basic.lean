/-
JSON values. A number is a whole number of at most 64 bits or else a 64-bit float,
kept with its sign so that a negative zero stays one. Objects keep their fields in
the order in which they were written, repeated names included; whoever reads one
decides what a repeated name means.
-/

import Latchkey.Decimal.Binary64

namespace Latchkey.Json

inductive Number where
  | whole (value : Int)
  | float (negative : Bool) (magnitude : Decimal.Binary64)
  deriving DecidableEq, Repr

inductive Value where
  | null
  | bool (value : Bool)
  | number (value : Number)
  | text (value : String)
  | list (items : List Value)
  | object (fields : List (String × Value))

def Number.signed? : Number → Option Int
  | whole value =>
      if -9223372036854775808 ≤ value ∧ value ≤ 9223372036854775807 then some value else none
  | float _ _ => none

/-- The fields of an object by name: sorted, and of a repeated name the last. -/
def canonicalFields {α : Type} (fields : List (String × α)) : List (String × α) :=
  fields.foldl insert []
where
  insert (sorted : List (String × α)) (field : String × α) : List (String × α) :=
    match sorted with
    | [] => [field]
    | head :: tail =>
        if field.1 = head.1 then field :: tail
        else if field.1 < head.1 then field :: head :: tail
        else head :: insert tail field

/-- The last value written under a name. -/
def lookup? {α : Type} (fields : List (String × α)) (name : String) : Option α :=
  (fields.reverse.find? (·.1 == name)).map (·.2)

namespace Value

def text? : Value → Option String
  | .text value => some value
  | _ => none

def bool? : Value → Option Bool
  | .bool value => some value
  | _ => none

def whole? : Value → Option Int
  | .number (.whole value) => some value
  | _ => none

def items : Value → List Value
  | .list items => items
  | _ => []

def fields : Value → List (String × Value)
  | .object fields => fields
  | _ => []

def get? (value : Value) (name : String) : Option Value := lookup? value.fields name

/-- The name that stands for itself, written as a string or as the one field of an object
that holds nothing. -/
def name? : Value → Option String
  | .text name => some name
  | .object [(name, .null)] => some name
  | _ => none

end Value

end Latchkey.Json
