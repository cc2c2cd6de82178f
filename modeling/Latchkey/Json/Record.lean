/-
Reading records: JSON objects of which only the fields with known names matter. A
known field may come once; unknown ones are skipped whatever they hold. A record may
also be written as a list of its fields in their declared order. Fields that are
missing are simply not among those found.
-/

import Latchkey.Json.Reader

namespace Latchkey.Json

abbrev Fields := List (String × Reader Value)

/-- Tells whether well-formed JSON of another shape or malformed text stands where a
text was expected: scalars are read to the end first, lists and objects are not. -/
def refuse {α : Type} (lead : UInt8) (bytes : List UInt8) : Except Fault α :=
  if lead = 0x5B ∨ lead = 0x7B then .error .mismatched
  else
    match readScalar lead bytes with
    | .ok _ => .error .mismatched
    | .error fault => .error fault

def textField : Reader Value := fun bytes =>
  match skipBlanks bytes with
  | [] => .error .malformed
  | lead :: rest =>
      if lead = 0x22 then do
        let (text, rest) ← readStringBody rest
        pure (.text text, rest)
      else refuse lead (lead :: rest)

def optionalField (present : Reader Value) : Reader Value := fun bytes =>
  match skipBlanks bytes with
  | [] => .error .malformed
  | lead :: rest =>
      if lead = 0x6E then do
        let rest ← expectWord nullWord (lead :: rest)
        pure (.null, rest)
      else present (lead :: rest)

/-- The members of an object after its opening brace; `found` holds the fields read so
far, the last one first. -/
def readFields (fields : Fields) (found : List (String × Value)) (first : Bool) :
    (fuel : Nat) → Reader (List (String × Value))
  | 0, _ => .error .malformed
  | fuel + 1, bytes => do
      match ← nextName first bytes with
      | (false, rest) => pure (found.reverse, rest)
      | (true, rest) =>
          let (name, rest) ← readNameText rest
          match fields.lookup name with
          | none =>
              let rest ← skipValue (← readColon rest)
              readFields fields found false fuel rest
          | some reader =>
              if (found.lookup name).isSome then .error .mismatched
              else
                let (value, rest) ← reader (← readColon rest)
                readFields fields ((name, value) :: found) false fuel rest
where
  readNameText : Reader String := readStringBody
  readColon (bytes : List UInt8) : Except Fault (List UInt8) :=
    match skipBlanks bytes with
    | 0x3A :: rest => .ok rest
    | _ => .error .malformed

/-- The items of a list after its opening bracket, one for each field in turn; a list
that ends early leaves the later fields out. -/
def readPositions (first : Bool) : Fields → Reader (List (String × Value))
  | [], bytes =>
      match skipBlanks bytes with
      | 0x5D :: rest => .ok ([], rest)
      | _ => .error .malformed
  | (name, reader) :: fields, bytes =>
      match skipBlanks bytes with
      | 0x5D :: rest => .ok ([], rest)
      | 0x2C :: rest =>
          if first then .error .malformed
          else
            match skipBlanks rest with
            | 0x5D :: _ => .error .malformed
            | rest => do
                let (value, rest) ← reader rest
                let (found, rest) ← readPositions false fields rest
                pure ((name, value) :: found, rest)
      | rest =>
          if first then do
            let (value, rest) ← reader rest
            let (found, rest) ← readPositions false fields rest
            pure ((name, value) :: found, rest)
          else .error .malformed

/-- The fields that are found, by name. A missing field that is required makes the
record mismatched. -/
def readRecord (fields : Fields) (required : List String) : Reader (List (String × Value)) :=
  fun bytes =>
    match skipBlanks bytes with
    | [] => .error .malformed
    | lead :: rest =>
        if lead = 0x7B then do
          let (found, rest) ← readFields fields [] true bytes.length rest
          complete found rest
        else if lead = 0x5B then do
          let (found, rest) ← readPositions true fields rest
          complete found rest
        else refuse lead (lead :: rest)
where
  complete (found : List (String × Value)) (rest : List UInt8) :
      Except Fault (List (String × Value) × List UInt8) :=
    if required.all fun name => (found.lookup name).isSome then .ok (found, rest)
    else .error .mismatched

def textOf? (found : List (String × Value)) (name : String) : Option String :=
  (found.lookup name).bind Value.text?

end Latchkey.Json
