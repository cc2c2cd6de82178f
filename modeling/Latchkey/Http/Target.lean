/-
What a web request is aimed at: a path and, after a question mark, a query. The target
may be written in full, behind a scheme and an authority, or as an authority alone,
which has no path. What follows a number sign is no part of it.
-/

import Latchkey.Http.Header
import Latchkey.Text.Percent

namespace Latchkey.Http

structure Target where
  path : List UInt8
  query : Option (List UInt8) := none
  deriving DecidableEq, Repr

namespace Target

def byte (char : Char) : UInt8 := UInt8.ofNat char.toNat

/-- The bytes that may stand in a path; a quote, braces and bytes beyond ASCII may, though
they should be escaped. No control character may. -/
def isPathByte (byte : UInt8) : Bool :=
  byte == 0x21 || byte == 0x22 || (0x24 ≤ byte && byte ≤ 0x3B) || byte == 0x3D
    || (0x40 ≤ byte && byte ≤ 0x5F) || (0x61 ≤ byte && byte != 0x7F)

def isQueryByte (byte : UInt8) : Bool :=
  byte == 0x21 || (0x24 ≤ byte && byte ≤ 0x3B) || byte == 0x3D || (0x3F ≤ byte && byte != 0x7F)

def withoutFragment (bytes : List UInt8) : List UInt8 := bytes.takeWhile (· != byte '#')

def ofPath? (bytes : List UInt8) : Option Target :=
  let bytes := withoutFragment bytes
  let (path, rest) := bytes.span (· != byte '?')
  let query := rest.drop 1
  if path.all isPathByte ∧ query.all isQueryByte then
    some { path, query := if rest.isEmpty then none else some query }
  else none

def authorityMarks : List UInt8 := "!$&'()*+,-.:;=@[]_~%".toList.map byte

structure AuthorityScan where
  colons : Nat := 0
  opened : Bool := false
  closed : Bool := false
  percent : Bool := false
  last : Option UInt8 := none

def AuthorityScan.next? (scan : AuthorityScan) (mark : UInt8) : Option AuthorityScan :=
  let scan := { scan with last := some mark }
  if mark = byte ':' then
    if 8 ≤ scan.colons then none else some { scan with colons := scan.colons + 1 }
  else if mark = byte '[' then
    if scan.percent ∨ scan.opened then none else some { scan with opened := true }
  else if mark = byte ']' then
    if !scan.opened ∨ scan.closed then none
    else some { scan with closed := true, colons := 0, percent := false }
  else if mark = byte '@' then some { scan with colons := 0, percent := false }
  else if mark = byte '%' then some { scan with percent := true }
  else if (mark < 0x80 && (Char.ofNat mark.toNat).isAlphanum) || authorityMarks.contains mark then
    some scan
  else none

/-- Whether bytes may be an authority, a port after one colon and brackets around an address
included. -/
def isAuthority (bytes : List UInt8) : Bool :=
  match bytes.foldlM AuthorityScan.next? {} with
  | some scan =>
      scan.opened == scan.closed && scan.colons ≤ 1 && !scan.percent
        && scan.last != some (byte '@')
  | none => false

def schemeMarks : List UInt8 := "+-.~".toList.map byte

def isSchemeByte (mark : UInt8) : Bool :=
  mark < 0x80 && ((Char.ofNat mark.toNat).isAlphanum || schemeMarks.contains mark)

def maxSchemeLength : Nat := 64

/-- What follows a scheme and two slashes, if there is a scheme. A scheme that is too long
spoils the target. -/
def afterScheme? (bytes : List UInt8) : Option (Option (List UInt8)) :=
  let (scheme, rest) := bytes.span isSchemeByte
  if rest.take 3 = [byte ':', byte '/', byte '/'] then
    if scheme.length ≤ maxSchemeLength then some (some (rest.drop 3)) else none
  else some none

/-- Reads a target in full, or an authority alone. -/
def ofFull? (bytes : List UInt8) : Option Target := do
  match ← afterScheme? bytes with
  | none => if isAuthority bytes then some { path := [] } else none
  | some rest =>
      let ends := [byte '/', byte '?', byte '#']
      let (authority, rest) := rest.span fun mark => !ends.contains mark
      if authority.isEmpty ∨ !isAuthority authority then none
      else
        let target ← ofPath? rest
        pure { target with path := if target.path.isEmpty then [byte '/'] else target.path }

def maxLength : Nat := 65534

def parse? (bytes : List UInt8) : Option Target :=
  if maxLength < bytes.length then none
  else
    match bytes with
    | [] => none
    | first :: _ =>
        if first = byte '/' then ofPath? bytes
        else if bytes = [byte '*'] then some { path := bytes }
        else ofFull? bytes

def parameters (target : Target) : List (String × String) :=
  Text.Percent.decodeForm (target.query.getD [])

end Target

end Latchkey.Http
