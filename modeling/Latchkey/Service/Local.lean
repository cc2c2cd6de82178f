/-
The service in one process: accounts in memory, tokens under one secret, a hasher, a
provider that answers at once, a clock and a supply of random bytes. Each request is
answered as a whole before the next one is looked at.
-/

import Latchkey.Password.Hashing
import Latchkey.Service
import Latchkey.Store.Memory
import Latchkey.Token.Issuer

namespace Latchkey.Service

open Store (Memory)
open Time (Instant)

structure Hasher where
  saltLength : Nat
  hash : Password → List UInt8 → String
  verify : String → Password → Bool

namespace Hasher

def argon2 (pepper : Option (List UInt8)) : Hasher where
  saltLength := Password.saltLength
  hash := fun password salt => password.hash pepper salt
  verify := fun hash password => Password.verify hash password pepper

def plainMark : String := "plain:"

/-- Keeps the password as it is. This is for rehearsals, where a hash has to be readable. -/
def plain : Hasher where
  saltLength := 0
  hash := fun password _ => plainMark ++ password.text
  verify := fun hash password => hash == plainMark ++ password.text

theorem verify_plain_iff (password other : Password) (salt : List UInt8) :
    plain.verify (plain.hash password salt) other = true ↔ password = other := by
  cases password
  cases other
  simp [plain]

end Hasher

structure Local where
  issuer : Token.Issuer
  hasher : Hasher
  exchange : String → Except Failure ProviderUser
  now : Instant
  /-- The random bytes of each draw: the draws are numbered, and have a length. -/
  supply : Nat → Nat → List UInt8
  draws : Nat := 0
  store : Memory := .empty

namespace Local

def draw (count : Nat) : StateM Local (List UInt8) :=
  modifyGet fun service => (service.supply service.draws count, { service with draws := service.draws + 1 })

/-- Applies an operation to the store; one that fails leaves it as it is. -/
def onStore {α : Type} (operation : Memory → Except Failure (α × Memory)) :
    StateM Local (Except Failure α) :=
  modifyGet fun service =>
    match operation service.store with
    | .error failure => (.error failure, service)
    | .ok (value, store) => (.ok value, { service with store })

def sign (request : Signing.Request) : StateM Local (Except Failure String) := do
  let random ← draw Token.Issuer.tokenIdLength
  let service ← get
  return .ok (service.issuer.issue request.kind request.identity service.now.second random)

def createAccount (account : NewAccount) : StateM Local (Except Failure Account) := do
  let id := AccountId.ofRandom (← draw 16)
  let service ← get
  onStore fun store => store.createAccount account id service.now

def answer : (request : Request) → StateM Local (Reply request)
  | .findAccount email => return .ok ((← get).store.findAccount email)
  | .createAccount account => createAccount account
  | .createAccountWith account issue => do
      let id := AccountId.ofRandom (← draw 16)
      let service ← get
      let (reply, store) ← (service.store.createAccountWith account id service.now issue).runIn sign
      modify fun service => { service with store }
      return reply
  | .writeLock account => onStore (·.writeLock account)
  | .findAttempts email => return .ok ((← get).store.findAttempts email)
  | .writeAttempts attempt => onStore (·.writeAttempts attempt)
  | .hash password => do
      let service ← get
      return .ok (service.hasher.hash password (← draw service.hasher.saltLength))
  | .verify hash password => return .ok ((← get).hasher.verify hash password)
  | .sign request => sign request
  | .readToken kind token => do
      let service ← get
      return service.issuer.read kind token service.now.second
  | .exchange code => return (← get).exchange code
  | .random count => draw count
  | .clock => return (← get).now

end Local

end Latchkey.Service
