/-
Trading a refresh token for a new pair. Nothing is looked up: the token that is traded
in stays good until it expires.
-/

import Latchkey.Service

namespace Latchkey.SignIn

def renew (token : String) : Procedure Token.Pair := do
  match ← Procedure.ask (.readToken .refresh token) .ok with
  | .error _ => throw .refreshTokenRejected
  | .ok identity => Procedure.issuePair identity

end Latchkey.SignIn
