/-
Roles and states of accounts, with the codes under which they are stored and claimed.
-/

namespace Latchkey

inductive Role where
  | user
  | admin
  deriving DecidableEq, Repr

namespace Role

def code : Role → String
  | user => "user"
  | admin => "admin"

def ofCode? (code : String) : Option Role :=
  if code = "user" then some user
  else if code = "admin" then some admin
  else none

theorem ofCode?_code (role : Role) : ofCode? role.code = some role := by
  cases role <;> decide

/-- The role that a token claims; whatever is no known code claims nothing special. -/
def ofClaim (claim : Option String) : Role :=
  (claim.bind ofCode?).getD user

theorem ofClaim_code (role : Role) : ofClaim (some role.code) = role := by
  cases role <;> decide

theorem ofClaim_eq_admin_iff {claim : Option String} :
    ofClaim claim = admin ↔ claim = some "admin" := by
  cases claim with
  | none => simp [ofClaim]
  | some code =>
      simp only [ofClaim, ofCode?, Option.bind_some, Option.some.injEq]
      by_cases isUser : code = "user"
      · subst isUser
        simp
      · by_cases isAdmin : code = "admin" <;> simp [isUser, isAdmin]

theorem eq_iff_admin_iff {left right : Role} : left = right ↔ (left = admin ↔ right = admin) := by
  cases left <;> cases right <;> simp

end Role

/-- An account that is not active may still be locked; a lock that ends makes it active. -/
inductive Status where
  | active
  | inactive
  | locked
  deriving DecidableEq, Repr

namespace Status

def code : Status → String
  | active => "active"
  | inactive => "inactive"
  | locked => "locked"

def ofCode? (code : String) : Option Status :=
  if code = "active" then some active
  else if code = "inactive" then some inactive
  else if code = "locked" then some locked
  else none

theorem ofCode?_code (status : Status) : ofCode? status.code = some status := by
  cases status <;> decide

end Status

end Latchkey
