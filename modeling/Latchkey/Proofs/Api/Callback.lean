/-
The way back from the provider. A code is traded in only for a callback with the state that
the cookie pins, and whatever state is drawn, the browser that was sent away with it and
comes back with its cookie gets through.
-/

import Latchkey.Api
import Latchkey.Proofs.Cookie
import Latchkey.Proofs.Google.ConsentUrl

namespace Latchkey

theorem Problem.le_status_response (problem : Problem) : 400 ≤ problem.response.status := by
  have kinds (kind : Problem.Kind) : 400 ≤ kind.status := by
    cases kind <;> decide
  exact kinds problem.kind

theorem Failure.le_status_response (failure : Failure) : 400 ≤ failure.response.status := by
  cases failure <;> exact Problem.le_status_response _

namespace Api

open Http (Request Response)
open Text (isBlankText)
open Text.Percent (cutAt decodeForm)
open Text.Utf8 (encode)

variable {app : App} {request : Request}

/-- Whether a request is for the answer of a route, and not for its headers alone. -/
def Gets (request : Request) (route : Route) : Prop :=
  request.method = "GET" ∧ request.target.path = encode route.path

theorem ofPath?_path (route : Route) : Route.ofPath? (encode route.path) = some route := by
  cases route <;> decide

theorem handle_of_gets {route : Route} (gets : Gets request route)
    (offers : "GET" ∈ route.methods) :
    handle app request = handleRoute app request route := by
  have offered : (!route.methods.contains request.method) = false := by
    rw [gets.1]
    simpa using offers
  have whole (response : Response) : shorten request response = response := by
    rw [shorten, gets.1]
    rfl
  unfold handle
  rw [gets.2, ofPath?_path]
  simp only [offered, whole, bind_pure, Bool.false_eq_true, and_false, if_false]

/-- What it takes for a code to be traded in: a provider, a code that is not blank, and a
state that the cookie pins. -/
structure MayExchange (app : App) (request : Request) (code : String) : Prop where
  configured : app.consentPage.isSome = true
  given : parameter? request.target.parameters "code" = .ok (some code)
  notBlank : isBlankText code = false
  pinned : ∃ state, state ≠ "" ∧ parameter? request.target.parameters "state" = .ok (some state) ∧
    Cookie.find? request.headers app.settings.stateCookieName = some state

theorem filter_eq_some {text? : Option String} {text : String} :
    text?.filter (!·.isEmpty) = some text ↔ text? = some text ∧ text ≠ "" := by
  rw [Option.filter_eq_some_iff]
  simp

theorem callbackCode_eq_ok {code? state? : Option String} {code : String} :
    callbackCode app request code? state? = .ok code ↔
      (code? = some code ∧ code ≠ "") ∧ ∃ state, (state? = some state ∧ state ≠ "") ∧
        Cookie.find? request.headers app.settings.stateCookieName = some state := by
  unfold callbackCode
  constructor
  · intro checked
    split at checked
    · cases checked
    · cases checked
    · next _code state given pinned =>
        split at checked
        · next found =>
            cases checked
            exact ⟨filter_eq_some.mp given, state, filter_eq_some.mp pinned, found⟩
        · cases checked
  · rintro ⟨given, state, pinned, found⟩
    rw [filter_eq_some.mpr given, filter_eq_some.mpr pinned]
    exact if_pos found

theorem parameter?_eq_error {parameters : List (String × String)} {name : String}
    {response : Response} (failed : parameter? parameters name = .error response) :
    response.status = 400 := by
  unfold parameter? at failed
  split at failed
  · cases failed
  · cases failed
  · cases failed
    rfl

theorem tradeIn_of_code {code : String} (configured : app.consentPage.isSome = true)
    (notBlank : isBlankText code = false) :
    ∃ next, answer (tradeIn app code) unpinned = .ask (.exchange code) next := by
  unfold tradeIn
  rw [SignIn.withCode_of_code configured notBlank]
  exact ⟨_, rfl⟩

theorem tradeIn_refuses {code : String}
    (barred : app.consentPage.isSome = true → isBlankText code = true) :
    ∃ failure : Failure, answer (tradeIn app code) unpinned = .done failure.response := by
  unfold tradeIn
  cases page : app.consentPage with
  | none => exact ⟨.providerMissing, rfl⟩
  | some url =>
      rw [page] at barred
      rw [SignIn.withCode_blank rfl (barred rfl)]
      exact ⟨.codeMissing, rfl⟩

theorem providerCallback_of_parameters {code? state? : Option String}
    (code : parameter? request.target.parameters "code" = .ok code?)
    (state : parameter? request.target.parameters "state" = .ok state?) :
    providerCallback app request =
      match callbackCode app request code? state? with
      | .error failure => .done failure.response
      | .ok code => answer (tradeIn app code) unpinned := by
  unfold providerCallback
  simp only [code, state]
  cases callbackCode app request code? state? <;> rfl

theorem providerCallback_of_mayExchange {code : String} (may : MayExchange app request code) :
    ∃ next, providerCallback app request = .ask (.exchange code) next := by
  obtain ⟨state, nonempty, parameter, found⟩ := may.pinned
  have codeNonempty : code ≠ "" := by
    rintro rfl
    have notBlank := may.notBlank
    revert notBlank
    decide
  have checked : callbackCode app request (some code) (some state) = .ok code :=
    callbackCode_eq_ok.mpr ⟨⟨rfl, codeNonempty⟩, state, ⟨rfl, nonempty⟩, found⟩
  rw [providerCallback_of_parameters may.given parameter, checked]
  exact tradeIn_of_code may.configured may.notBlank

theorem providerCallback_of_not (barred : ∀ code, ¬MayExchange app request code) :
    ∃ response, providerCallback app request = .done response ∧ 400 ≤ response.status := by
  cases codeRead : parameter? request.target.parameters "code" with
  | error response =>
      refine ⟨response, ?_, (parameter?_eq_error codeRead).ge⟩
      unfold providerCallback
      simp only [codeRead]
      rfl
  | ok code? =>
      cases stateRead : parameter? request.target.parameters "state" with
      | error response =>
          refine ⟨response, ?_, (parameter?_eq_error stateRead).ge⟩
          unfold providerCallback
          simp only [codeRead, stateRead]
          rfl
      | ok state? =>
          rw [providerCallback_of_parameters codeRead stateRead]
          cases checked : callbackCode app request code? state? with
          | error failure => exact ⟨_, rfl, failure.le_status_response⟩
          | ok code =>
              obtain ⟨⟨rfl, _nonempty⟩, state, ⟨rfl, stateNonempty⟩, found⟩ :=
                callbackCode_eq_ok.mp checked
              have blank (configured : app.consentPage.isSome = true) : isBlankText code = true := by
                rw [← Bool.not_eq_false]
                intro notBlank
                exact barred code
                  ⟨configured, codeRead, notBlank, state, stateNonempty, stateRead, found⟩
              obtain ⟨failure, refused⟩ := tradeIn_refuses blank
              exact ⟨_, refused, failure.le_status_response⟩

theorem exchange_iff_mayExchange (gets : Gets request .providerCallback) (code : String) :
    (∃ next, handle app request = .ask (.exchange code) next) ↔ MayExchange app request code := by
  rw [handle_of_gets gets (by decide)]
  change (∃ next, providerCallback app request = .ask (.exchange code) next) ↔ _
  constructor
  · rintro ⟨next, asked⟩
    by_cases may : ∃ code, MayExchange app request code
    · obtain ⟨other, may⟩ := may
      obtain ⟨_next, exchanged⟩ := providerCallback_of_mayExchange may
      rw [asked] at exchanged
      cases exchanged
      exact may
    · obtain ⟨_response, refused, _status⟩ :=
        providerCallback_of_not fun code mayCode => may ⟨code, mayCode⟩
      rw [asked] at refused
      cases refused
  · exact providerCallback_of_mayExchange

theorem isValue_state (bytes : List UInt8) : Cookie.IsValue (Base64.encode .urlSafe bytes) := by
  intro char member
  rw [Base64.encode, String.toList_ofList] at member
  have symbol := Base64.isUrlSafe_of_mem_encodeChars member
  refine ⟨Cookie.isVisible_of_isUrlSafe symbol, ?_⟩
  rintro rfl
  revert symbol
  unfold Base64.IsUrlSafe
  decide

theorem isBlankText_state {bytes : List UInt8} (given : bytes ≠ []) :
    isBlankText (Base64.encode .urlSafe bytes) = false := by
  have symbols : (Base64.encode .urlSafe bytes).toList ≠ [] := fun none =>
    Base64.encode_ne_empty given (String.toList_eq_nil_iff.mp none)
  obtain ⟨char, member⟩ := List.exists_mem_of_ne_nil _ symbols
  rw [isBlankText, List.all_eq_false]
  refine ⟨char, member, ?_⟩
  rw [(isValue_state bytes char member).1.not_isBlank]
  exact Bool.false_ne_true

/-- Whether an answer sends somebody to the consent page with a state, and has the browser keep
the state in the cookie. -/
structure Pins (app : App) (url : String → String) (state : String) (response : Response) : Prop
    where
  status : response.status = 200
  body : response.body = .json (.object [("auth_url", .text (url state))])
  cookie : ∃ cookie, response.setCookie = some cookie ∧ Http.isLegalValue (encode cookie) = true ∧
    cookie.toList.takeWhile (· != ';') = (app.settings.stateCookieName ++ "=" ++ state).toList

theorem providerLogin_pins {url : String → String} (configured : app.consentPage = some url)
    (named : Cookie.IsName app.settings.stateCookieName) :
    ∃ next, providerLogin app = .ask (.random stateLength) next ∧
      ∀ bytes, bytes ≠ [] →
        ∃ response, next bytes = .done response ∧
          Pins app url (Base64.encode .urlSafe bytes) response := by
  refine ⟨_, rfl, fun bytes given => ?_⟩
  have valued := isValue_state bytes
  obtain ⟨legal, setting⟩ :=
    @Cookie.setting?_eq_some _ app.settings.stateCookie named valued
      (show Http.IsReadable "/".toList by decide)
  have pinned : pin app (Base64.encode .urlSafe bytes) =
      .ok (url (Base64.encode .urlSafe bytes),
        app.settings.stateCookie.setting (Base64.encode .urlSafe bytes)) := by
    unfold pin SignIn.consentUrl
    simp only [configured, isBlankText_state given, setting]
    rfl
  have secret : Secret.ofBytes bytes = .ok (Base64.encode .urlSafe bytes) :=
    Secret.ofBytes_of_ne_nil given
  change ∃ response, answer (.mk (ExceptT.bindCont (fun state => Procedure.ofExcept (pin app state))
    ((Secret.ofBytes bytes).mapError Secret.Fault.failure))) Api.pinned = .done response ∧ _
  rw [secret]
  change ∃ response, answer (Procedure.ofExcept (pin app _)) Api.pinned = .done response ∧ _
  rw [pinned]
  exact ⟨_, rfl, rfl, rfl, _, rfl, legal, Cookie.takeWhile_setting named valued⟩

/-- A callback with a state that the browser still has in the cookie. -/
structure Returns (app : App) (state : String) (request : Request) where
  gets : Gets request .providerCallback
  stateRead : parameter? request.target.parameters "state" = .ok (some state)
  cookies : Cookie.Sent request.headers app.settings.stateCookieName state

theorem parameter?_consentUrl (credentials : Google.Credentials) (state : String) :
    parameter? (decodeForm (cutAt 0x3F (encode (credentials.consentUrl state))).2) "state" =
      .ok (some state) := by
  rw [Google.Credentials.decodeForm_consentUrl]
  rfl

/-- The code of a callback is traded in if and only if the callback has the state that the
cookie pins; else nothing is asked of anybody, so that nothing is stored or signed. And whatever
state is drawn for a visit, the answer pins it in a legal cookie, the consent page carries it,
and a browser that comes back with both gets through. -/
theorem callback_guarded_by_state (app : App) :
    (∀ request, Gets request .providerCallback →
      (∀ code, (∃ next, handle app request = .ask (.exchange code) next) ↔
          MayExchange app request code) ∧
        ((∀ code, ¬MayExchange app request code) →
          ∃ response, handle app request = .done response ∧ 400 ≤ response.status)) ∧
      ∀ url, app.consentPage = some url → Cookie.IsName app.settings.stateCookieName →
        ∀ request, Gets request .providerLogin →
          ∃ next, handle app request = .ask (.random stateLength) next ∧
            ∀ bytes state, bytes.length = stateLength → state = Base64.encode .urlSafe bytes →
              (∃ response, next bytes = .done response ∧ Pins app url state response) ∧
                (∀ credentials : Google.Credentials,
                  parameter? (decodeForm (cutAt 0x3F (encode (credentials.consentUrl state))).2)
                    "state" = .ok (some state)) ∧
                ∀ callback, Returns app state callback →
                  Cookie.find? callback.headers app.settings.stateCookieName = some state ∧
                    ∀ code, parameter? callback.target.parameters "code" = .ok (some code) →
                      isBlankText code = false →
                      ∃ next, handle app callback = .ask (.exchange code) next := by
  constructor
  · intro request gets
    refine ⟨exchange_iff_mayExchange gets, fun barred => ?_⟩
    rw [handle_of_gets gets (by decide)]
    exact providerCallback_of_not barred
  · intro url configured named request gets
    obtain ⟨next, drawn, pins⟩ := providerLogin_pins configured named
    refine ⟨next, (handle_of_gets gets (by decide)).trans drawn, ?_⟩
    rintro bytes state length rfl
    have given : bytes ≠ [] := List.ne_nil_of_length_pos (length ▸ by decide)
    refine ⟨pins bytes given, fun credentials => parameter?_consentUrl credentials _, ?_⟩
    intro callback returns
    have found := returns.cookies.find?_eq fun sign => (named.2 '=' sign).2.1 rfl
    refine ⟨found, fun code codeRead notBlank => ?_⟩
    exact (exchange_iff_mayExchange returns.gets code).mpr ⟨configured ▸ rfl, codeRead, notBlank, _,
      Base64.encode_ne_empty given, returns.stateRead, found⟩

def client : Google.Credentials where
  clientId := "client"
  clientSecret := "secret"
  redirectUrl := "https://b.org/back"

def portal : App := ⟨{}, some client.consentUrl⟩

def departure : Request := { method := "GET", target := { path := encode "/google/login" } }

def drawn : String := Base64.encode .urlSafe (List.replicate stateLength 0xFF)

def broughtBack : List (String × String) := [("code", "4/0A"), ("state", drawn)]

def homecoming : Request where
  method := "GET"
  target :=
    { path := encode "/google/callback"
      query := some (encode ("&".intercalate (broughtBack.map
        fun field => field.1 ++ "=" ++ Text.Percent.encodeComponent field.2))) }
  headers := [⟨"Cookie", encode ("theme=dark; oauth_state=" ++ drawn)⟩]

theorem parameters_homecoming : homecoming.target.parameters = broughtBack :=
  Text.Percent.decodeForm_query (by decide +kernel)

def returns : Returns portal drawn homecoming where
  gets := ⟨rfl, rfl⟩
  stateRead := by
    rw [parameters_homecoming]
    rfl
  cookies :=
    { texts := ["theme=dark; oauth_state=" ++ drawn]
      before := ["theme=dark".toList]
      piece := (" oauth_state=" ++ drawn).toList
      after := []
      values := by decide +kernel
      readable := by
        rw [List.forall_mem_singleton]
        decide +kernel
      pieces := by decide +kernel
      own := by
        unfold Cookie.IsPiece
        decide +kernel
      first := by
        intro other among value named
        rw [List.mem_singleton] at among
        subst among
        have heads : some 't' = some 'o' := congrArg List.head? named
        revert heads
        decide }

theorem callback_guarded_by_state_homecoming :
    ∃ next, handle portal homecoming = .ask (.exchange "4/0A") next := by
  have named : Cookie.IsName portal.settings.stateCookieName := by decide +kernel
  obtain ⟨_next, _drawn, pinned⟩ :=
    (callback_guarded_by_state portal).2 client.consentUrl rfl named departure ⟨rfl, rfl⟩
  obtain ⟨_pins, _carries, back⟩ := pinned (List.replicate stateLength 0xFF) drawn (by decide) rfl
  obtain ⟨_found, exchanged⟩ := back homecoming returns
  refine exchanged "4/0A" ?_ (by decide)
  rw [parameters_homecoming]
  rfl

end Api

end Latchkey
