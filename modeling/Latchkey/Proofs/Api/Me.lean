/-
Asking who one is. Whoever presents an access token that is accepted is told whom it names, and
everybody else is refused alike. A token is presented in the first authorization value, behind
the name of its scheme; an issued access token gets through however that name and the blanks
around the token are written, and a refresh token never does.
-/

import Latchkey.Proofs.Api.Callback
import Latchkey.Proofs.Token.RoundTrip
import Latchkey.Service.Local

namespace Latchkey

namespace Token.Issuer

variable {issuer : Issuer} {kind : Kind} {identity : Identity} {second : Int} {random : List UInt8}

theorem isVisible_of_mem_sealed {message : List Char}
    (visible : ∀ char ∈ message, Cookie.IsVisible char) :
    ∀ char ∈ issuer.sealed message, Cookie.IsVisible char := by
  intro char member
  rw [sealed, List.mem_append, List.mem_cons] at member
  rcases member with inMessage | rfl | inSignature
  · exact visible char inMessage
  · decide
  · exact Cookie.isVisible_of_isUrlSafe (Base64.isUrlSafe_of_mem_encodeChars inSignature)

theorem isVisible_of_mem_issue :
    ∀ char ∈ (issuer.issue kind identity second random).toList, Cookie.IsVisible char := by
  rw [issue, encode, String.toList_ofList]
  refine isVisible_of_mem_sealed fun char member => ?_
  rw [List.mem_append, List.mem_cons] at member
  rcases member with inHeader | rfl | inClaims
  · exact Cookie.isVisible_of_isUrlSafe (Base64.isUrlSafe_of_mem_encodeChars inHeader)
  · decide
  · exact Cookie.isVisible_of_isUrlSafe (Base64.isUrlSafe_of_mem_encodeChars inClaims)

theorem toList_issue_ne_nil : (issuer.issue kind identity second random).toList ≠ [] := by
  rw [issue, encode, String.toList_ofList, sealed]
  simp

end Token.Issuer

namespace Api

open Http (Header Headers IsReadable Request Response)
open Text (isBlank trimChars)
open Text.Utf8 (encodeChars)
open Token (Issuer)
open Token.Issuer (IsAlive)

variable {request : Request} {headers : Headers} {token : String}

def isAuthorization (header : Header) : Bool :=
  Text.toAsciiLowercase header.name == "authorization"

/-- Whether a text is the name of the scheme, in letters of either case, and after the first
space a token, blanks around it left out. -/
def Bears (text : List Char) (token : String) : Prop :=
  ∃ scheme rest, text = scheme ++ ' ' :: rest ∧ ' ' ∉ scheme ∧
    scheme.map Char.toLower = "bearer".toList ∧ trimChars rest = token.toList ∧ token ≠ ""

/-- Whether the first authorization value can be read and bears a token. -/
def Presents (headers : Headers) (token : String) : Prop :=
  ∃ header text, headers.find? isAuthorization = some header ∧ header.value = encodeChars text ∧
    IsReadable text ∧ Bears text token

theorem headerText?_eq_some {text : List Char} :
    request.headerText? "authorization" = some text ↔
      ∃ header, request.headers.find? isAuthorization = some header ∧
        header.value = encodeChars text ∧ IsReadable text := by
  have first : (request.headers.valuesOf "authorization").head? =
      (request.headers.find? isAuthorization).map (·.value) := by
    rw [Headers.valuesOf, List.head?_map, List.head?_filter]
    rfl
  rw [Request.headerText?, first]
  simp only [Option.bind_eq_some_iff, Option.map_eq_some_iff, Http.textOfValue?_eq_some]
  constructor
  · rintro ⟨bytes, ⟨header, found, rfl⟩, written⟩
    exact ⟨header, found, written⟩
  · rintro ⟨header, found, written⟩
    exact ⟨header.value, ⟨header, found, rfl⟩, written⟩

private theorem bearerToken?_of_text {text : List Char}
    (read : request.headerText? "authorization" = some text) :
    bearerToken? request = some token ↔ Bears text token := by
  unfold bearerToken?
  simp only [read, Option.bind_eq_bind, Option.bind_some]
  constructor
  · intro taken
    split at taken
    · cases taken
    · next scheme mark rest cut =>
        obtain ⟨_sign, absent, rfl⟩ := Text.span_ne_eq_cons cut
        split at taken
        case isFalse => cases taken
        case isTrue checked =>
          cases taken
          refine ⟨scheme, rest, rfl, absent, checked.1, String.toList_ofList.symm, ?_⟩
          simpa using checked.2
  · rintro ⟨scheme, rest, rfl, absent, named, trimmed, nonempty⟩
    have given : (!(trimChars rest).isEmpty) = true := by
      rw [trimmed]
      simpa using nonempty
    rw [Text.span_ne_of_notMem absent]
    change (if _ then _ else _) = _
    rw [if_pos ⟨named, given⟩, trimmed, String.ofList_toList]

theorem bearerToken?_eq_some :
    bearerToken? request = some token ↔ Presents request.headers token := by
  constructor
  · intro taken
    obtain ⟨text, read, _scheme⟩ := Option.bind_eq_some_iff.mp taken
    obtain ⟨header, found, written, readable⟩ := headerText?_eq_some.mp read
    exact ⟨header, text, found, written, readable, (bearerToken?_of_text read).mp taken⟩
  · rintro ⟨header, text, found, written, readable, bears⟩
    have read := headerText?_eq_some.mpr ⟨header, found, written, readable⟩
    exact (bearerToken?_of_text read).mpr bears

/-- Whether the first authorization value is a token behind the name of the scheme, in letters
of either case, and one space or more, with any number of spaces behind it. -/
def Sends (headers : Headers) (token : String) : Prop :=
  ∃ header scheme before after, headers.find? isAuthorization = some header ∧
    scheme.map Char.toLower = "bearer".toList ∧
    header.value = encodeChars (scheme ++ ' ' ::
      (List.replicate before ' ' ++ token.toList ++ List.replicate after ' '))

private theorem char_of_scheme {scheme : List Char} {char : Char}
    (named : scheme.map Char.toLower = "bearer".toList) (member : char ∈ scheme) :
    Cookie.IsVisible char := by
  have lower : char.toLower ∈ "bearer".toList := by
    rw [← named]
    exact List.mem_map_of_mem member
  unfold Char.toLower at lower
  split at lower
  case isTrue upper =>
    have between : 'A' ≤ char ∧ char ≤ 'Z' := upper
    exact Cookie.isVisible_of_between (by decide) between (by decide)
  case isFalse =>
    have visible : "bearer".toList.all (decide <| Cookie.IsVisible ·) = true := by decide
    exact of_decide_eq_true (List.all_eq_true.mp visible char lower)

theorem Sends.presents (sends : Sends headers token)
    (visible : ∀ char ∈ token.toList, Cookie.IsVisible char) (nonempty : token.toList ≠ []) :
    Presents headers token := by
  obtain ⟨header, scheme, before, after, found, named, written⟩ := sends
  have space {count : Nat} {char : Char} (member : char ∈ List.replicate count ' ') : char = ' ' :=
    List.eq_of_mem_replicate member
  have readable : IsReadable (scheme ++ ' ' ::
      (List.replicate before ' ' ++ token.toList ++ List.replicate after ' ')) := by
    intro char member
    simp only [List.mem_append, List.mem_cons] at member
    rcases member with inScheme | rfl | (inBefore | inToken) | inAfter
    · exact (char_of_scheme named inScheme).readable
    · decide
    · rw [space inBefore]
      decide
    · exact (visible char inToken).readable
    · rw [space inAfter]
      decide
  have absent : ' ' ∉ scheme := by
    intro member
    have visible := char_of_scheme named member
    revert visible
    decide
  have blank {count : Nat} : ∀ char ∈ List.replicate count ' ', isBlank char = true := by
    intro char member
    rw [space member]
    decide
  have trimmed := Text.trimChars_padded (@blank before)
    (fun char member => (visible char member).not_isBlank) (@blank after)
  refine ⟨header, _, found, written, readable, scheme, _, rfl, absent, named, trimmed, ?_⟩
  rintro rfl
  exact nonempty rfl

section Answers

variable {State : Type}
  {answers : (request : Service.Request) → StateM State (Service.Reply request)}
  {state : State} {issuer : Issuer} {check : Int}

/-- Whether a service in a state reads tokens as an issuer does at a second. -/
def Checks (answers : (request : Service.Request) → StateM State (Service.Reply request))
    (state : State) (issuer : Issuer) (check : Int) : Prop :=
  ∀ kind token, answers (.readToken kind token) state = (issuer.read kind token check, state)

theorem Checks.runIn {α : Type} (checks : Checks answers state issuer check) (kind : Token.Kind)
    (token : String) (next : Except Failure Identity → Dialogue Service α) :
    (.ask (.readToken kind token) next : Dialogue Service α).runIn answers state =
      (next (issuer.read kind token check)).runIn answers state := by
  change (next (answers (.readToken kind token) state).1).runIn answers
    (answers (.readToken kind token) state).2 = _
  rw [checks]

def Knows (issuer : Issuer) (check : Int) (headers : Headers) (identity : Identity) : Prop :=
  ∃ token, Presents headers token ∧ issuer.read .access token check = .ok identity

theorem knows_of_presents {identity : Identity} (presents : Presents request.headers token) :
    Knows issuer check request.headers identity ↔
      issuer.read .access token check = .ok identity := by
  constructor
  · rintro ⟨other, presented, accepted⟩
    have same := bearerToken?_eq_some.mpr presents
    rw [bearerToken?_eq_some.mpr presented] at same
    cases same
    exact accepted
  · intro accepted
    exact ⟨token, presents, accepted⟩

def welcome (identity : Identity) : Response :=
  .of 200 (.json (.object [
    ("id", .text identity.id.text),
    ("email", .text identity.email.text),
    ("role", .text identity.role.code)]))

def refused : Response := Failure.accessTokenRejected.response

theorem me_of_gets (gets : Gets request .me) :
    me request = answer (bearer request) welcome := by
  have known : Route.me.methods.contains request.method = true := by
    rw [gets.1]
    decide
  unfold me
  simp only [known, if_true, bind_pure]
  rfl

theorem me_unpresented (gets : Gets request .me)
    (none : ∀ token, ¬Presents request.headers token) :
    (me request).runIn answers state = (refused, state) := by
  have absent : bearerToken? request = Option.none := by
    rw [Option.eq_none_iff_forall_ne_some]
    intro token taken
    exact none token (bearerToken?_eq_some.mp taken)
  rw [me_of_gets gets, bearer, absent]
  rfl

theorem me_presented (checks : Checks answers state issuer check) (gets : Gets request .me)
    (presents : Presents request.headers token) :
    (me request).runIn answers state =
      match issuer.read .access token check with
      | .ok identity => (welcome identity, state)
      | .error failure => (failure.response, state) := by
  have asked : me request = .ask (.readToken .access token) fun reply =>
      match reply with
      | .ok identity => .done (welcome identity)
      | .error failure => .done failure.response := by
    rw [me_of_gets gets, bearer, bearerToken?_eq_some.mpr presents]
    change Dialogue.ask _ _ = _
    congr 1
    funext reply
    cases reply <;> rfl
  rw [asked]
  refine (checks.runIn .access token _).trans ?_
  cases issuer.read .access token check <;> rfl

theorem me_known {identity : Identity} (checks : Checks answers state issuer check)
    (gets : Gets request .me) (knows : Knows issuer check request.headers identity) :
    (me request).runIn answers state = (welcome identity, state) := by
  obtain ⟨token, presents, accepted⟩ := knows
  rw [me_presented checks gets presents, accepted]

theorem me_unknown (checks : Checks answers state issuer check) (gets : Gets request .me)
    (unknown : ∀ identity, ¬Knows issuer check request.headers identity) :
    (me request).runIn answers state = (refused, state) := by
  by_cases presented : ∃ token, Presents request.headers token
  · obtain ⟨token, presents⟩ := presented
    have rejected : issuer.read .access token check = .error .accessTokenRejected :=
      Issuer.read_eq_rejection fun identity accepted =>
        unknown identity ⟨token, presents, accepted⟩
    rw [me_presented checks gets presents, rejected]
    rfl
  · exact me_unpresented gets fun token presents => presented ⟨token, presents⟩

/-- Whoever presents an access token that is accepted is told the id, the email and the role of
the identity that it names, and every other request is refused with one and the same answer. An
access token that was issued gets through within its lifetime, however it is sent, and no
refresh token does. -/
theorem me_knows_bearers (app : App) (checks : Checks answers state issuer check)
    (gets : Gets request .me) :
    let answered := (handle app request).runIn answers state
    (answered.1.status = 200 ↔ ∃ identity, Knows issuer check request.headers identity) ∧
      (∀ identity, Knows issuer check request.headers identity →
        answered = (welcome identity, state)) ∧
      ((∀ identity, ¬Knows issuer check request.headers identity) →
        answered = (refused, state) ∧ refused.status = 401) ∧
      ∀ raw identity second random, Email.parse raw = .ok identity.email → 0 ≤ second →
        random.length = Issuer.tokenIdLength →
          (IsAlive (issuer.span .access) second check →
            Sends request.headers (issuer.issue .access identity second random) →
              answered = (welcome identity, state)) ∧
            (0 ≤ (issuer.span .refresh).nanos → second ≤ Issuer.lastSecond →
              Sends request.headers (issuer.issue .refresh identity second random) →
                answered = (refused, state)) := by
  have routed : handle app request = me request := handle_of_gets gets (by decide)
  simp only [routed]
  refine ⟨⟨fun welcomed => ?_, fun known => ?_⟩, fun identity knows => ?_, fun unknown => ?_, ?_⟩
  · by_contra unknown
    rw [me_unknown checks gets fun identity knows => unknown ⟨identity, knows⟩] at welcomed
    have notWelcome : refused.status ≠ 200 := by decide
    exact notWelcome welcomed
  · obtain ⟨identity, knows⟩ := known
    rw [me_known checks gets knows]
    rfl
  · exact me_known checks gets knows
  · exact ⟨me_unknown checks gets unknown, rfl⟩
  · intro raw identity second random parsed begun length
    have drawn : random ≠ [] := List.ne_nil_of_length_pos (length ▸ by decide)
    constructor
    · intro alive sends
      have presents := sends.presents Issuer.isVisible_of_mem_issue Issuer.toList_issue_ne_nil
      exact me_known checks gets ⟨_, presents, Issuer.read_issue_alive parsed begun drawn alive⟩
    · intro lasting fits sends
      have presents := sends.presents Issuer.isVisible_of_mem_issue Issuer.toList_issue_ne_nil
      have different : Token.Kind.access ≠ .refresh := by decide
      refine me_unknown checks gets fun stranger knows => ?_
      have accepted := (knows_of_presents presents).mp knows
      rw [Issuer.read_issue_other lasting begun fits different] at accepted
      cases accepted

end Answers

def inquiry : Request where
  method := "GET"
  target := { path := Text.Utf8.encode "/me" }
  headers :=
    [⟨"Accept", [0xFF]⟩,
      ⟨"AUTHORIZATION", encodeChars ("bEARER".toList ++ ' ' :: (List.replicate 2 ' ' ++
        (Issuer.quotingIssuer.issue .access Issuer.quotedIdentity 1700000000
          (List.replicate 24 0xFB)).toList ++ List.replicate 1 ' '))⟩,
      ⟨"Authorization", []⟩]

theorem me_knows_bearers_inquiry :
    let service : Service.Local :=
      { issuer := Issuer.quotingIssuer
        hasher := .plain
        exchange := fun _code => .error .wrongCredentials
        now := ⟨1700000899, 0, by decide, by decide⟩
        supply := fun _draw _count => [] }
    (handle portal inquiry).runIn Service.Local.answer service =
      (welcome Issuer.quotedIdentity, service) := by
  intro service
  have checks : Checks Service.Local.answer service Issuer.quotingIssuer 1700000899 :=
    fun _kind _token => rfl
  have parsed : Email.parse " Ä\"B@Example.ORG" = .ok Issuer.quotedIdentity.email := by
    decide +kernel
  have sends : Sends inquiry.headers (Issuer.quotingIssuer.issue .access Issuer.quotedIdentity
      1700000000 (List.replicate 24 0xFB)) :=
    ⟨_, "bEARER".toList, 2, 1, rfl, by decide, rfl⟩
  have gets : Gets inquiry .me := ⟨rfl, rfl⟩
  obtain ⟨_status, _known, _unknown, issued⟩ := me_knows_bearers portal checks gets
  have alive : IsAlive (Issuer.quotingIssuer.span .access) 1700000000 1700000899 :=
    ⟨by decide, by decide, by decide⟩
  exact (issued _ _ _ _ parsed (by decide) rfl).1 alive sends

end Api

end Latchkey
