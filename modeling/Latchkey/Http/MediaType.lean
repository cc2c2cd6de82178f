/-
Media types: a type and a subtype between which a slash stands, then parameters, each
after a semicolon. What follows the last plus sign of a subtype is its suffix. Letters
may have either case.
-/

import Latchkey.Http.Header

namespace Latchkey.Http

structure MediaType where
  main : List Char
  subtype : List Char
  suffix : Option (List Char)
  deriving DecidableEq, Repr

namespace MediaType

def dropQuoted? (isFirst : Bool) : List Char → Option (List Char)
  | [] => none
  | char :: rest =>
      if char = '"' ∧ !isFirst then some (rest.dropWhile (· == ' '))
      else if char.toNat < 0x20 ∨ char.toNat = 0x7F then none
      else dropQuoted? false rest

/-- Drops the value of a parameter and the spaces after it, if it was quoted. -/
def dropValue? (chars : List Char) : Option (List Char) :=
  match chars with
  | '"' :: rest => dropQuoted? true rest
  | _ =>
      let rest := chars.dropWhile isTokenChar
      if rest.length = chars.length ∧ !rest.isEmpty then none else some rest

/-- Whether what follows a semicolon is a list of parameters: a name, an equals sign and a
value each. Spaces may stand before a name, and the last semicolon may have none after it. -/
def areParameters : (fuel : Nat) → List Char → Bool
  | 0, _ => false
  | fuel + 1, chars =>
      match chars.dropWhile (· == ' ') with
      | [] => true
      | chars =>
          match chars.span isTokenChar with
          | (_ :: _, '=' :: value) =>
              match dropValue? value with
              | some [] => true
              | some (';' :: rest) => areParameters fuel rest
              | _ => false
          | _ => false

def cutSuffix (subtype : List Char) : List Char × Option (List Char) :=
  match subtype.reverse.span (· != '+') with
  | (_, []) | (_, [_]) => (subtype, none)
  | (suffix, _ :: before) => (before.reverse, some suffix.reverse)

def parse? (text : List Char) : Option MediaType :=
  let chars := text.map Char.toLower
  match chars.span isTokenChar with
  | (main, '/' :: rest) =>
      let (subtype, rest) := rest.span isTokenChar
      let complete : Bool :=
        match rest with
        | [] => true
        | ';' :: parameters => !subtype.isEmpty && areParameters chars.length parameters
        | _ => false
      if !main.isEmpty ∧ complete then
        let (subtype, suffix) := cutSuffix subtype
        some { main, subtype, suffix }
      else none
  | _ => none

def isJson (type : MediaType) : Bool :=
  type.main == "application".toList
    && (type.subtype == "json".toList || type.suffix == some "json".toList)

end MediaType

end Latchkey.Http
