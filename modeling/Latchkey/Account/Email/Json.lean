/-
Emails as JSON. An email is written as the string of its normal form; whatever string is
read for one is normalized and checked like any other spelling.
-/

import Latchkey.Account.Email
import Latchkey.Json.Printer
import Latchkey.Json.Record

namespace Latchkey.Email

def json (email : Email) : Json.Value := .text email.text

def ofJson? (bytes : List UInt8) : Option Email := do
  let value ← (Json.readAll Json.textField bytes).toOption
  (parse (← value.text?)).toOption

end Latchkey.Email
