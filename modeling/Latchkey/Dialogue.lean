/-
Programs that talk to somebody else. A dialogue either has its answer or asks one
request and goes on with the reply to it; an interface lists the requests with the
type of the reply to each. A dialogue runs wherever its requests are answered, with
one reply to each request and in the order in which they are asked, and between two
requests it touches nothing that others can see.
-/

namespace Latchkey

structure Interface where
  Request : Type
  Reply : Request → Type

inductive Dialogue (interface : Interface) (α : Type) where
  | done (value : α)
  | ask (request : interface.Request) (next : interface.Reply request → Dialogue interface α)

namespace Dialogue

variable {interface other : Interface} {α β : Type}

def bind (dialogue : Dialogue interface α) (following : α → Dialogue interface β) :
    Dialogue interface β :=
  match dialogue with
  | done value => following value
  | ask request next => ask request fun reply => (next reply).bind following

instance : Monad (Dialogue interface) where
  pure := done
  bind := bind

@[simp] theorem pure_eq (value : α) : (pure value : Dialogue interface α) = done value := rfl

@[simp] theorem done_bind (value : α) (following : α → Dialogue interface β) :
    done value >>= following = following value := rfl

@[simp] theorem ask_bind (request : interface.Request)
    (next : interface.Reply request → Dialogue interface α) (following : α → Dialogue interface β) :
    ask request next >>= following = ask request fun reply => next reply >>= following := rfl

instance : LawfulMonad (Dialogue interface) :=
  LawfulMonad.mk' (Dialogue interface)
    (by
      intro α dialogue
      induction dialogue with
      | done value => rfl
      | ask request next ih => exact congrArg (ask request) (funext ih))
    (by intros; rfl)
    (by
      intro α β γ dialogue first second
      induction dialogue with
      | done value => rfl
      | ask request next ih => exact congrArg (ask request) (funext ih))

def runIn {m : Type → Type} [Monad m]
    (answer : (request : interface.Request) → m (interface.Reply request)) :
    Dialogue interface α → m α
  | done value => pure value
  | ask request next => do
      let reply ← answer request
      runIn answer (next reply)

def relay (request : interface.Request → other.Request)
    (reply : (asked : interface.Request) → other.Reply (request asked) → interface.Reply asked) :
    Dialogue interface α → Dialogue other α
  | done value => done value
  | ask asked next =>
      ask (request asked) fun answer => relay request reply (next (reply asked answer))

end Dialogue

end Latchkey
