/-
A service whose collaborators follow a script: each part takes its next cue, which may
tell it to fail, to find nothing, or to let somebody else go first. What is called, and
on which cue, is noted. A part without a cue plays as the service in one process does.
-/

import Latchkey.Service.Local

namespace Latchkey.Service

open Store (Memory)
open Time (Instant)

namespace Rehearsal

inductive Part where
  | findAccount
  | createAccount
  | createAccountWith
  | writeLock
  | findAttempts
  | writeAttempts
  | hash
  | verify
  | signAccess
  | signRefresh
  | exchange
  deriving DecidableEq, Repr

def Part.names : List (String × Part) :=
  [("find_by_email", .findAccount), ("create", .createAccount),
    ("create_with_callback", .createAccountWith), ("update_lockout_state", .writeLock),
    ("find_login_attempt", .findAttempts), ("save_login_attempt", .writeAttempts),
    ("hash", .hash), ("verify", .verify), ("generate_access_token", .signAccess),
    ("generate_refresh_token", .signRefresh), ("exchange", .exchange)]

inductive Cue where
  | play
  | fail
  | findNothing
  | loseRace
  | emailTaken
  /-- Somebody else creates the account or counts a failure first. -/
  | rival
  /-- Somebody else lifts the lock first. -/
  | rivalLift
  deriving DecidableEq, Repr

def Cue.names : List (String × Cue) :=
  [("ok", .play), ("error", .fail), ("none", .findNothing), ("stale", .loseRace),
    ("taken", .emailTaken), ("rival", .rival), ("rival_clear", .rivalLift)]

def nameIn {α : Type} [DecidableEq α] (names : List (String × α)) (value : α) : String :=
  ((names.find? (·.2 = value)).map (·.1)).getD ""

/-- What is noted of a call: the part, and the cue unless the part just played. -/
def note (call : Part × Cue) : String :=
  nameIn Part.names call.1 ++ if call.2 = .play then "" else ":" ++ nameIn Cue.names call.2

/-- The cues of a script, of which unknown ones are played as they are. -/
def cuesOf (names : List String) : List Cue :=
  names.map fun name => (Cue.names.lookup name).getD .play

end Rehearsal

open Rehearsal

structure Rehearsal extends Local where
  policy : LockoutPolicy
  rivalNow : Instant
  script : List (Part × List Cue) := []
  calls : List (Part × Cue) := []
  created : List AccountId := []

namespace Rehearsal

abbrev Play := StateM Rehearsal

/-- Takes the next cue of a part and notes the call. -/
def call (part : Part) : Play Cue :=
  modifyGet fun stage =>
    let cue := ((stage.script.lookup part).getD []).headD .play
    let script := stage.script.map fun entry =>
      (entry.1, if entry.1 = part then entry.2.drop 1 else entry.2)
    (cue, { stage with script, calls := (part, cue) :: stage.calls })

def act {α : Type} (action : StateM Local α) : Play α :=
  modifyGet fun stage =>
    let (value, service) := action.run stage.toLocal
    (value, { stage with toLocal := service })

def storeFailure : Failure := .internal "store down"
def hasherFailure : Failure := .internal "hasher down"
def signingFailure : Failure := .signingFailed "signing key unavailable"

def create (account : NewAccount) : Play (Except Failure Account) := do
  let outcome ← act (Local.createAccount account)
  match outcome with
  | .ok created => modify fun stage => { stage with created := created.id :: stage.created }
  | .error _ => pure ()
  return outcome

def rivalWrite (email : Email) (change : Account → Account) : Play Unit := do
  match (← get).store.findAccount email with
  | none => return ()
  | some stored =>
      let _ ← act (Local.onStore (·.writeLock (change stored)))

/-- Lets somebody else count a failure on the stored record, or on a first one. -/
def rivalAttempt (email : Email) : Play Unit := do
  let stage ← get
  let stored := (stage.store.findAttempts email).getD (.fresh email)
  let _ ← act (Local.onStore (·.writeAttempts (stored.registerFailure stage.policy stage.rivalNow)))

def sign (request : Signing.Request) : Play (Except Failure String) := do
  let part := match request.kind with
    | .access => Part.signAccess
    | .refresh => .signRefresh
  match ← call part with
  | .fail => return .error signingFailure
  | _ => act (Local.sign request)

def createWith {α : Type} (account : NewAccount)
    (issue : Account → Dialogue Signing (Except Failure α)) : Play (Except Failure (Account × α)) := do
  match ← call .createAccountWith with
  | .fail => return .error storeFailure
  | .emailTaken => return .error .emailTaken
  | cue =>
      if cue = .rival then
        let _ ← create account
      let id := AccountId.ofRandom (← act (Local.draw 16))
      let stage ← get
      let (reply, store) ← (stage.store.createAccountWith account id stage.now issue).runIn sign
      modify fun stage => { stage with store }
      if reply.isOk then modify fun stage => { stage with created := id :: stage.created }
      return reply

def answer : (request : Request) → Play (Reply request)
  | .findAccount email => do
      match ← call .findAccount with
      | .fail => return .error storeFailure
      | .findNothing => return .ok none
      | _ => act (Local.answer (.findAccount email))
  | .createAccount account => do
      match ← call .createAccount with
      | .fail => return .error storeFailure
      | cue =>
          if cue = .rival then
            let _ ← create account
          create account
  | .createAccountWith account issue => createWith account issue
  | .writeLock account => do
      let stage ← get
      match ← call .writeLock with
      | .fail => return .error storeFailure
      | .loseRace => return .error .staleWrite
      | cue =>
          if cue = .rival then
            rivalWrite account.email (·.registerFailure stage.policy stage.rivalNow)
          if cue = .rivalLift then rivalWrite account.email (·.liftLock stage.rivalNow)
          act (Local.answer (.writeLock account))
  | .findAttempts email => do
      match ← call .findAttempts with
      | .fail => return .error storeFailure
      | .findNothing => return .ok none
      | _ => act (Local.answer (.findAttempts email))
  | .writeAttempts attempt => do
      match ← call .writeAttempts with
      | .fail => return .error storeFailure
      | .loseRace => return .error .staleWrite
      | cue =>
          if cue = .rival then rivalAttempt attempt.email
          act (Local.answer (.writeAttempts attempt))
  | .hash password => do
      match ← call .hash with
      | .fail => return .error hasherFailure
      | _ => act (Local.answer (.hash password))
  | .verify hash password => do
      match ← call .verify with
      | .fail => return .error hasherFailure
      | _ => act (Local.answer (.verify hash password))
  | .sign request => sign request
  | .exchange code => do
      let _ ← call .exchange
      act (Local.answer (.exchange code))
  | .readToken kind token => act (Local.answer (.readToken kind token))
  | .random count => act (Local.answer (.random count))
  | .clock => act (Local.answer .clock)

end Rehearsal

end Latchkey.Service
