/-
Registering with a name, an email and a password. Name, email and password are looked at
in this order, and nothing is hashed or stored unless all three will do.
-/

import Latchkey.Service

namespace Latchkey.SignIn

def register (name email password : String) : Procedure Account := do
  let name ← Procedure.ofExcept (DisplayName.parse name)
  let email ← Procedure.ofExcept ((Email.parse email).mapError Failure.ofProblem)
  let password ← Procedure.ofExcept ((Password.choose password).mapError Password.Weakness.failure)
  let passwordHash ← Procedure.hash password
  Procedure.createAccount { name, email, passwordHash }

end Latchkey.SignIn
