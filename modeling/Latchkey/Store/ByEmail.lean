/-
Values kept under emails, one under each. Writing under an email replaces what was
there and leaves everything else as it was; taking away what was written where nothing
was before undoes the writing.
-/

import Latchkey.Account.Email

namespace Latchkey.Store

structure ByEmail (α : Type) where
  entries : List (Email × α) := []
  deriving DecidableEq, Repr

namespace ByEmail

variable {α : Type}

def empty : ByEmail α := ⟨[]⟩

def findIn (email : Email) : List (Email × α) → Option α
  | [] => none
  | entry :: entries => if entry.1 = email then some entry.2 else findIn email entries

def find? (shelf : ByEmail α) (email : Email) : Option α := findIn email shelf.entries

def size (shelf : ByEmail α) : Nat := shelf.entries.length

/-- Writes a value in the place of the one under the same email, or else at the end. -/
def putIn (email : Email) (value : α) : List (Email × α) → List (Email × α)
  | [] => [(email, value)]
  | entry :: entries =>
      if entry.1 = email then (email, value) :: entries else entry :: putIn email value entries

def put (shelf : ByEmail α) (email : Email) (value : α) : ByEmail α :=
  ⟨putIn email value shelf.entries⟩

def removeIn (email : Email) : List (Email × α) → List (Email × α)
  | [] => []
  | entry :: entries => if entry.1 = email then entries else entry :: removeIn email entries

def remove (shelf : ByEmail α) (email : Email) : ByEmail α := ⟨removeIn email shelf.entries⟩

theorem findIn_putIn (email other : Email) (value : α) (entries : List (Email × α)) :
    findIn other (putIn email value entries)
      = if other = email then some value else findIn other entries := by
  induction entries with
  | nil => simp [putIn, findIn, eq_comm]
  | cons entry entries ih =>
      by_cases replaced : entry.1 = email
      · subst replaced
        by_cases same : other = entry.1 <;> simp [putIn, findIn, same, eq_comm]
      · by_cases same : entry.1 = other
        · subst same
          simp [putIn, findIn, replaced]
        · simp [putIn, findIn, replaced, same, ih]

@[simp] theorem find?_put (shelf : ByEmail α) (email other : Email) (value : α) :
    (shelf.put email value).find? other
      = if other = email then some value else shelf.find? other :=
  findIn_putIn email other value shelf.entries

theorem removeIn_putIn {email : Email} {entries : List (Email × α)}
    (absent : findIn email entries = none) (value : α) :
    removeIn email (putIn email value entries) = entries := by
  induction entries with
  | nil => simp [putIn, removeIn]
  | cons entry entries ih =>
      by_cases same : entry.1 = email
      · simp [findIn, same] at absent
      · rw [findIn, if_neg same] at absent
        simp [putIn, removeIn, same, ih absent]

theorem remove_put {shelf : ByEmail α} {email : Email} (absent : shelf.find? email = none)
    (value : α) : (shelf.put email value).remove email = shelf :=
  congrArg ByEmail.mk (removeIn_putIn absent value)

end ByEmail

end Latchkey.Store
