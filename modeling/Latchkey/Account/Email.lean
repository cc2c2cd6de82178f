/-
Email addresses. An address is kept trimmed and in lower case, and two addresses are
the same when they are so in that form. Lengths are counted in bytes.
-/

import Latchkey.Problem
import Latchkey.Text.Blank
import Latchkey.Text.Lowercase

namespace Latchkey

structure Email where
  text : String
  deriving DecidableEq, Repr

namespace Email

def maxLength : Nat := 254

def maxLocalLength : Nat := 64

def normalize (raw : String) : String := Text.toLowercase (Text.trim raw)

def byteLength (chars : List Char) : Nat := chars.foldr (fun char length => char.utf8Size + length) 0

/-- A label of a domain: ASCII letters, digits and hyphens, no hyphen at either end. -/
def isLabel (chars : List Char) : Bool :=
  !chars.isEmpty && chars.head? != some '-' && chars.getLast? != some '-'
    && chars.all fun char => char.isAlphanum || char == '-'

def isDomain (chars : List Char) : Bool :=
  let labels := chars.splitOn '.'
  2 ≤ labels.length && labels.all isLabel

def isLocalPart (chars : List Char) : Bool :=
  !chars.isEmpty && byteLength chars ≤ maxLocalLength
    && chars.all fun char => !Text.isBlank char && !Text.isControl char

/-- One sign between a local part and a domain. No part of a domain may hold a sign. -/
def isAddress (chars : List Char) : Bool :=
  match chars.span (· != '@') with
  | (_, []) => false
  | (before, _ :: after) => isLocalPart before && isDomain after

def parse (raw : String) : Except Problem Email :=
  let text := normalize raw
  if text.isEmpty then .error { kind := .badRequest, message := "Email is required" }
  else if maxLength < text.utf8ByteSize then
    .error { kind := .badRequest, message := s!"Email must be at most {maxLength} characters" }
  else if isAddress text.toList then .ok ⟨text⟩
  else .error { kind := .badRequest, message := "Email format is invalid" }

end Email

end Latchkey
