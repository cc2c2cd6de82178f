/-
The web interface of the service: registering, signing in, renewing tokens, signing in
through a provider, and asking who one is. Bodies are JSON in both directions, and
failures are answered with problem details.
-/

import Latchkey.Cookie
import Latchkey.Http.MediaType
import Latchkey.Http.Request
import Latchkey.Json.Record
import Latchkey.Settings
import Latchkey.SignIn.Password
import Latchkey.SignIn.Provider
import Latchkey.SignIn.Registration
import Latchkey.SignIn.Renewal

namespace Latchkey.Api

open Http (Body Request Response)
open Json (Value)

structure App where
  settings : Settings
  consentPage : SignIn.ConsentPage

inductive Route where
  | register
  | login
  | refresh
  | providerLogin
  | providerCallback
  | me
  deriving DecidableEq, Repr

namespace Route

def all : List Route := [register, login, refresh, providerLogin, providerCallback, me]

def path : Route → String
  | register => "/register"
  | login => "/login"
  | refresh => "/refresh"
  | providerLogin => "/google/login"
  | providerCallback => "/google/callback"
  | me => "/me"

def ofPath? (path : List UInt8) : Option Route :=
  all.find? fun route => Text.Utf8.encode route.path == path

/-- The methods of a route. Whoever may ask for an answer may also ask for its headers. -/
def methods : Route → List String
  | register | login | refresh => ["POST"]
  | providerLogin | providerCallback | me => ["GET", "HEAD"]

def allowed (route : Route) : String := ",".intercalate route.methods

end Route

/-! ### Reading requests -/

def maxBodyLength : Nat := 2097152

def refusal (status : Nat) (text : String) : Response := .of status (.text text)

def bodyFields (names : List String) (request : Request) :
    Except Response (List (String × Value)) :=
  let type := (request.headerText? "content-type").bind Http.MediaType.parse?
  if !(type.map (·.isJson)).getD false then
    .error (refusal 415 "Expected request with `Content-Type: application/json`")
  else if maxBodyLength < request.body.length then
    .error (refusal 413 "Failed to buffer the request body")
  else
    let fields : Json.Fields := names.map fun name => (name, Json.textField)
    match Json.readAll (Json.readRecord fields names) request.body with
    | .ok found => .ok found
    | .error .malformed => .error (refusal 400 "Failed to parse the request body as JSON")
    | .error .mismatched =>
        .error (refusal 422 "Failed to deserialize the JSON body into the target type")

/-- A parameter of the query; it may not be there twice. -/
def parameter? (parameters : List (String × String)) (name : String) :
    Except Response (Option String) :=
  match parameters.filter (·.1 == name) with
  | [] => .ok none
  | [parameter] => .ok (some parameter.2)
  | _ => .error (refusal 400 "Failed to deserialize query string")

def bearerToken? (request : Request) : Option String := do
  let value ← request.headerText? "authorization"
  match value.span (· != ' ') with
  | (_, []) => none
  | (scheme, _ :: rest) =>
      let token := Text.trimChars rest
      if scheme.map Char.toLower = "bearer".toList ∧ !token.isEmpty then
        some (String.ofList token)
      else none

/-! ### Answers -/

def pairBody (pair : Token.Pair) : Body :=
  .json (.object [("access_token", .text pair.access), ("refresh_token", .text pair.refresh)])

def answer {α : Type} (procedure : Procedure α) (render : α → Response) :
    Dialogue Service Response := do
  match ← procedure.run with
  | .ok value => pure (render value)
  | .error failure => pure failure.response

def withBody {α : Type} (names : List String) (request : Request)
    (procedure : (String → String) → Procedure α) (render : α → Response) :
    Dialogue Service Response :=
  match bodyFields names request with
  | .error response => pure response
  | .ok found => answer (procedure fun name => (Json.textOf? found name).getD "") render

/-! ### Handlers -/

def register (request : Request) : Dialogue Service Response :=
  withBody ["name", "email", "password"] request
    (fun field => SignIn.register (field "name") (field "email") (field "password"))
    fun account => .of 201 (.json (.object [("id", .text account.id.text)]))

def login (app : App) (request : Request) : Dialogue Service Response :=
  withBody ["email", "password"] request
    (fun field => do
      let now ← Procedure.clock
      SignIn.withPassword app.settings.lockoutPolicy (field "email") (field "password") now)
    fun pair => .of 200 (pairBody pair)

def refresh (request : Request) : Dialogue Service Response :=
  withBody ["refresh_token"] request (fun field => SignIn.renew (field "refresh_token"))
    fun pair => .of 200 (pairBody pair)

def stateLength : Nat := 32

def illegalCookie : Failure := .internal "Invalid OAuth state cookie"

def pin (app : App) (state : String) : Except Failure (String × String) := do
  let url ← SignIn.consentUrl app.consentPage state
  match app.settings.stateCookie.setting? state with
  | some cookie => pure (url, cookie)
  | none => throw illegalCookie

def pinned : String × String → Response
  | (url, cookie) =>
      { Response.of 200 (.json (.object [("auth_url", .text url)])) with setCookie := some cookie }

def providerLogin (app : App) : Dialogue Service Response :=
  answer
    (do
      let state ← Procedure.secret stateLength
      Procedure.ofExcept (pin app state))
    pinned

def callbackCode (app : App) (request : Request) (code state : Option String) :
    Except Failure String :=
  match code.filter (!·.isEmpty), state.filter (!·.isEmpty) with
  | none, _ => .error .codeMissing
  | some _, none => .error .stateMissing
  | some code, some state =>
      if Cookie.find? request.headers app.settings.stateCookie.name = some state then .ok code
      else .error .stateMismatch

/-- Trades in a code, and gives the header that unpins the state. -/
def tradeIn (app : App) (code : String) : Procedure (Token.Pair × String) := do
  let pair ← SignIn.withCode app.consentPage code
  match app.settings.stateCookie.deletion? with
  | some cookie => pure (pair, cookie)
  | none => throw illegalCookie

def unpinned : Token.Pair × String → Response
  | (pair, cookie) => { Response.of 200 (pairBody pair) with setCookie := some cookie }

/-- Signs in whoever comes back from the provider with the pinned state, and unpins it. -/
def providerCallback (app : App) (request : Request) : Dialogue Service Response :=
  let parameters := request.target.parameters
  match parameter? parameters "code", parameter? parameters "state" with
  | .error response, _ | _, .error response => pure response
  | .ok code, .ok state =>
      answer
        (do
          let code ← Procedure.ofExcept (callbackCode app request code state)
          tradeIn app code)
        unpinned

def bearer (request : Request) : Procedure Identity :=
  match bearerToken? request with
  | none => throw .accessTokenRejected
  | some token => Procedure.readToken .access token

def identityBody (identity : Identity) : Body :=
  .json (.object [
    ("id", .text identity.id.text),
    ("email", .text identity.email.text),
    ("role", .text identity.role.code)])

/-! ### Routing -/

def methodRefusal (route : Route) : Response :=
  { status := 405, allow := some route.allowed }

/-- The answer to a request for one's own identity. The token is looked at before the
method, and a refusal under another method lists the methods. -/
def me (request : Request) : Dialogue Service Response := do
  let known := Route.me.methods.contains request.method
  let response ← answer (bearer request) fun identity =>
    if known then .of 200 (identityBody identity) else methodRefusal .me
  pure (if known then response else { response with allow := some Route.me.allowed })

def handleRoute (app : App) (request : Request) : Route → Dialogue Service Response
  | .register => register request
  | .login => login app request
  | .refresh => refresh request
  | .providerLogin => providerLogin app
  | .providerCallback => providerCallback app request
  | .me => me request

/-- The answer to a request for headers alone has no body. -/
def shorten (request : Request) (response : Response) : Response :=
  if request.method = "HEAD" then response.withoutBody else response

def handle (app : App) (request : Request) : Dialogue Service Response :=
  match Route.ofPath? request.target.path with
  | none => pure { status := 404 }
  | some route =>
      if route ≠ .me ∧ !route.methods.contains request.method then pure (methodRefusal route)
      else return shorten request (← handleRoute app request route)

end Latchkey.Api
