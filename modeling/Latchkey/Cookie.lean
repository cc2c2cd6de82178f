/-
Cookies: writing the header that sets or deletes one, and finding one by name in the
headers of a request. A cookie that other sites may send must be secure, whatever the
settings say, for browsers drop it otherwise.
-/

import Latchkey.Http.Header
import Latchkey.Text.Blank
import Latchkey.Text.Lowercase
import Latchkey.Time.Span

namespace Latchkey

open Time (Span)

inductive Cookie.SameSite where
  | strict
  | lax
  | none
  deriving DecidableEq, Repr

namespace Cookie.SameSite

def name : SameSite → String
  | strict => "Strict"
  | lax => "Lax"
  | none => "None"

def ofText? (text : String) : Option SameSite :=
  let word := Text.toAsciiLowercase (Text.trim text)
  if word = "strict" then some strict
  else if word = "lax" then some lax
  else if word = "none" then some SameSite.none
  else Option.none

end Cookie.SameSite

structure Cookie where
  name : String
  secure : Bool := true
  httpOnly : Bool := true
  sameSite : Cookie.SameSite := .lax
  path : String := "/"
  maxAge : Option Span := none
  deriving DecidableEq, Repr

namespace Cookie

def attributes (cookie : Cookie) : String :=
  (if cookie.httpOnly then "; HttpOnly" else "")
    ++ (if cookie.secure ∨ cookie.sameSite = .none then "; Secure" else "")
    ++ "; SameSite=" ++ cookie.sameSite.name ++ "; Path=" ++ cookie.path

def setting (cookie : Cookie) (value : String) : String :=
  cookie.name ++ "=" ++ value ++ cookie.attributes
    ++ (cookie.maxAge.map fun age => s!"; Max-Age={age.wholeSeconds}").getD ""

def deletion (cookie : Cookie) : String :=
  cookie.name ++ "=" ++ cookie.attributes ++ "; Max-Age=0"

def setting? (cookie : Cookie) (value : String) : Option String :=
  if Http.isLegalValue (Text.Utf8.encode (cookie.setting value)) then some (cookie.setting value)
  else Option.none

def deletion? (cookie : Cookie) : Option String :=
  if Http.isLegalValue (Text.Utf8.encode cookie.deletion) then some cookie.deletion
  else Option.none

def valueOf? (name : List Char) (piece : List Char) : Option (List Char) :=
  match (Text.trimChars piece).span (· != '=') with
  | (_, []) => Option.none
  | (key, _ :: value) => if key = name then some value else Option.none

/-- The value of the first cookie with a name, in all the headers that can be read. -/
def find? (headers : Http.Headers) (name : String) : Option String :=
  let pieces := (headers.valuesOf "cookie").filterMap Http.textOfValue?
    |>.flatMap (·.splitOn ';')
  (pieces.findSome? (valueOf? name.toList)).map String.ofList

end Cookie

end Latchkey
