/-
The header of a signed token. Issued tokens name their type and the algorithm. A
header that is read must name that algorithm; its other registered fields need not be
there, but must have the right shape where they are.
-/

import Latchkey.Json.Printer
import Latchkey.Json.Record

namespace Latchkey.Token.Header

open Json (Value Reader)

def algorithm : String := "HS256"

def issued : Value := .object [("typ", .text "JWT"), ("alg", .text algorithm)]

def isNameIn (names : List String) (value : Value) : Bool :=
  (value.name?.map names.contains).getD false

def isText (value : Value) : Bool := value.text?.isSome

def isTextList : Value → Bool
  | .list items => items.all isText
  | _ => false

def keyAlgorithms : List String :=
  ["HS256", "HS384", "HS512", "ES256", "ES384", "RS256", "RS384", "RS512", "PS256", "PS384",
    "PS512", "EdDSA", "RSA1_5", "RSA-OAEP", "RSA-OAEP-256"]

/-- The algorithm of a key. Its name may also be the one field of an object under which an
empty object stands. -/
def isKeyAlgorithm : Value → Bool
  | .object [(name, .object [])] => keyAlgorithms.contains name
  | value => isNameIn keyAlgorithms value

/-- Fields that a description of any key may have, with the shape of each. -/
def keyFields : List (String × (Value → Bool)) :=
  [("use", isText), ("key_ops", isTextList), ("alg", isKeyAlgorithm), ("kid", isText),
    ("x5u", isText), ("x5c", isTextList), ("x5t", isText), ("x5t#S256", isText)]

def isCurve : Value → Bool := isNameIn ["P-256", "P-384", "P-521", "Ed25519"]

/-- What a description of a key of each family must have beside that. -/
def keyFamilies : List (List (String × (Value → Bool))) :=
  [[("kty", isNameIn ["EC"]), ("crv", isCurve), ("x", isText), ("y", isText)],
    [("kty", isNameIn ["RSA"]), ("n", isText), ("e", isText)],
    [("kty", isNameIn ["oct"]), ("k", isText)],
    [("kty", isNameIn ["OKP"]), ("crv", isCurve), ("x", isText)]]

def valuesOf (fields : List (String × Value)) (name : String) : List Value :=
  (fields.filter (·.1 == name)).map (·.2)

/-- Whether a field is missing, null, or there once and of the right shape. -/
def isFineIfPresent (fields : List (String × Value)) (shape : String × (Value → Bool)) : Bool :=
  match valuesOf fields shape.1 with
  | [] | [.null] => true
  | [value] => shape.2 value
  | _ => false

def isFine (fields : List (String × Value)) (shape : String × (Value → Bool)) : Bool :=
  match valuesOf fields shape.1 with
  | [value] => shape.2 value
  | _ => false

def isKey : Value → Bool
  | .object fields =>
      keyFields.all (isFineIfPresent fields)
        && keyFamilies.any fun family => family.all (isFine fields)
  | _ => false

def shapedField (shape : Value → Bool) : Reader Value := fun bytes => do
  let (value, rest) ← Json.readValue (Json.maxDepth - 1) bytes
  if shape value then pure (value, rest) else .error .mismatched

def fields : Json.Fields :=
  let optionalText := Json.optionalField Json.textField
  [("typ", optionalText),
    ("alg", shapedField (isNameIn [algorithm])),
    ("cty", optionalText),
    ("jku", optionalText),
    ("jwk", Json.optionalField (shapedField isKey)),
    ("kid", optionalText),
    ("x5u", optionalText),
    ("x5c", Json.optionalField (shapedField isTextList)),
    ("x5t", optionalText),
    ("x5t#S256", optionalText)]

/-- Whether bytes are a header that names the algorithm. A header written as a list has all
the registered fields. -/
def isAccepted (bytes : List UInt8) : Bool :=
  let required :=
    if (Json.skipBlanks bytes).head? = some 0x5B then fields.map (·.1) else ["alg"]
  (Json.readAll (Json.readRecord fields required) bytes).isOk

end Latchkey.Token.Header
