/-
Chains of renewals. Whatever refresh token comes first, and however its claims are spelled,
each call that is made in time succeeds, and every token of every pair names the identity
that the first token named. Time goes on between the requests of a call: the token is read at
one instant, and each token of the new pair is signed at another.
-/

import Mathlib.Data.List.Forall2
import Latchkey.Proofs.Token.RoundTrip
import Latchkey.Service.Local
import Latchkey.SignIn.Renewal

namespace Latchkey.Service

open Time (Instant)

/-- The service in one process with a clock that goes on. Each request is answered at the next
instant, and at the last one when there are no more. -/
structure Ticking where
  service : Local
  clock : List Instant

namespace Ticking

def tick (state : Ticking) : Ticking :=
  match state.clock with
  | [] => state
  | now :: clock => ⟨{ state.service with now }, clock⟩

def answer (request : Request) : StateM Ticking (Reply request) := fun state =>
  let answered := Local.answer request state.tick.service
  (answered.1, ⟨answered.2, state.tick.clock⟩)

theorem runIn_ask {α : Type} {request : Request} {reply : Reply request} {state : Ticking}
    (answered : (answer request state).1 = reply) (next : Reply request → Dialogue Service α) :
    (.ask request next : Dialogue Service α).runIn answer state =
      (next reply).runIn answer (answer request state).2 := by
  subst answered
  rfl

end Ticking

end Latchkey.Service

namespace Latchkey.SignIn

open Service (Ticking)
open Time (Instant)
open Token (Issuer)
open Token.Issuer (IsAlive)

def renewed (token : String) (state : Ticking) : Except Failure Token.Pair × Ticking :=
  (renew token).run.runIn Ticking.answer state

structure Timing where
  readAt : Instant
  accessAt : Instant
  refreshAt : Instant

def Timing.clock (timing : Timing) : List Instant :=
  [timing.readAt, timing.accessAt, timing.refreshAt]

/-- Trades in a token and then the refresh token of each new pair, one call after the other, as
long as that succeeds. -/
def renewals : List Timing → String → Service.Local → List (Except Failure Token.Pair)
  | [], _, _ => []
  | timing :: timings, token, service =>
      let (outcome, after) := renewed token ⟨service, timing.clock⟩
      match outcome with
      | .error failure => [.error failure]
      | .ok pair => .ok pair :: renewals timings pair.refresh after.service

/-- Whether the tokens of a pair name an identity for as long as they last, of which only the
refresh token can be traded in. -/
structure Keeps (issuer : Issuer) (identity : Identity) (timing : Timing) (pair : Token.Pair) :
    Prop where
  access : ∀ check, IsAlive issuer.accessSpan timing.accessAt.second check →
    issuer.read .access pair.access check = .ok identity
  refresh : ∀ check, IsAlive issuer.refreshSpan timing.refreshAt.second check →
    issuer.read .refresh pair.refresh check = .ok identity
  untradeable : ∀ state : Ticking, state.service.issuer = issuer →
    (renewed pair.access state).1 = .error .refreshTokenRejected

variable {token : String} {identity : Identity}

theorem renewed_of_refused {state : Ticking} {failure : Failure}
    (refused : state.tick.service.issuer.read .refresh token state.tick.service.now.second =
      .error failure) : (renewed token state).1 = .error .refreshTokenRejected := by
  have reply : (Ticking.answer (.readToken .refresh token) state).1 = .error failure := refused
  exact congrArg Prod.fst (Ticking.runIn_ask reply _)

def newPair (service : Service.Local) (timing : Timing) (identity : Identity) : Token.Pair where
  access := service.issuer.issue .access identity timing.accessAt.second
    (service.supply service.draws Issuer.tokenIdLength)
  refresh := service.issuer.issue .refresh identity timing.refreshAt.second
    (service.supply (service.draws + 1) Issuer.tokenIdLength)

theorem renewed_of_accepted {service : Service.Local} {timing : Timing}
    (accepted : service.issuer.read .refresh token timing.readAt.second = .ok identity) :
    renewed token ⟨service, timing.clock⟩ =
      (.ok (newPair service timing identity),
        ⟨{ service with now := timing.refreshAt, draws := service.draws + 2 }, []⟩) := by
  have reply : (Ticking.answer (.readToken .refresh token) ⟨service, timing.clock⟩).1 =
      .ok identity := accepted
  exact Ticking.runIn_ask reply _

theorem second_le_lastSecond (instant : Instant) : instant.second ≤ Issuer.lastSecond := by
  have bound := instant.inRange.2
  have latest : Time.latestSecond ≤ Issuer.lastSecond := by decide
  omega

def Supplied (service : Service.Local) : Prop :=
  ∀ number, (service.supply number Issuer.tokenIdLength).length = Issuer.tokenIdLength

theorem Supplied.ne_nil {service : Service.Local} (supplied : Supplied service) (number : Nat) :
    service.supply number Issuer.tokenIdLength ≠ [] := by
  intro none
  have length := supplied number
  rw [none] at length
  cases length

theorem keeps_newPair {service : Service.Local} {timing : Timing} {raw : String}
    (parsed : Email.parse raw = .ok identity.email)
    (lasting : 0 ≤ service.issuer.accessSpan.nanos) (supplied : Supplied service)
    (accessBegun : 0 ≤ timing.accessAt.second) (refreshBegun : 0 ≤ timing.refreshAt.second) :
    Keeps service.issuer identity timing (newPair service timing identity) := by
  refine ⟨fun check alive => ?_, fun check alive => ?_, fun state same => ?_⟩
  · exact @Issuer.read_issue_alive _ .access _ _ _ _ parsed accessBegun (supplied.ne_nil _) _ alive
  · exact @Issuer.read_issue_alive _ .refresh _ _ _ _ parsed refreshBegun (supplied.ne_nil _) _ alive
  · have issuer : state.tick.service.issuer = service.issuer := by
      rw [← same]
      unfold Ticking.tick
      split <;> rfl
    have refused : state.tick.service.issuer.read .refresh (newPair service timing identity).access
        state.tick.service.now.second = .error .refreshTokenRejected := by
      rw [issuer]
      exact @Issuer.read_issue_other _ .access _ _ _ lasting accessBegun
        (second_le_lastSecond timing.accessAt) .refresh (by decide) _
    exact renewed_of_refused refused

theorem exists_parse_of_read {issuer : Issuer} {kind : Token.Kind} {second : Int}
    (read : issuer.read kind token second = .ok identity) :
    ∃ raw, Email.parse raw = .ok identity.email := by
  obtain ⟨_claims, _verified, _admitted, names⟩ := Issuer.read_eq_ok.mp read
  obtain ⟨text, _present, parsed⟩ := names.email
  exact ⟨text, parsed⟩

def serviceAfter (service : Service.Local) (timing : Timing) : Service.Local :=
  { service with now := timing.refreshAt, draws := service.draws + 2 }

theorem exists_renewals_cons {service : Service.Local} {timing : Timing}
    (accepted : service.issuer.read .refresh token timing.readAt.second = .ok identity)
    (lasting : 0 ≤ service.issuer.accessSpan.nanos) (supplied : Supplied service)
    (begun : 0 ≤ timing.accessAt.second ∧ 0 ≤ timing.refreshAt.second) (timings : List Timing) :
    ∃ pair, Keeps service.issuer identity timing pair ∧
      renewals (timing :: timings) token service =
        .ok pair :: renewals timings pair.refresh (serviceAfter service timing) := by
  obtain ⟨raw, parsed⟩ := exists_parse_of_read accepted
  refine ⟨newPair service timing identity,
    keeps_newPair parsed lasting supplied begun.1 begun.2, ?_⟩
  rw [renewals, renewed_of_accepted accepted]
  rfl

/-- Every call of a chain succeeds, if the first token is accepted and each later one is traded
in within its lifetime, and each pair stands for the identity of the first token. -/
theorem renewals_keep_identity {service : Service.Local} {first : Timing} {timings : List Timing}
    (accepted : service.issuer.read .refresh token first.readAt.second = .ok identity)
    (lasting : 0 ≤ service.issuer.accessSpan.nanos) (supplied : Supplied service)
    (begun : ∀ timing ∈ first :: timings,
      0 ≤ timing.accessAt.second ∧ 0 ≤ timing.refreshAt.second)
    (inTime : (first :: timings).IsChain fun earlier later =>
      IsAlive service.issuer.refreshSpan earlier.refreshAt.second later.readAt.second) :
    List.Forall₂ (fun timing outcome => ∃ pair, outcome = .ok pair ∧
        Keeps service.issuer identity timing pair)
      (first :: timings) (renewals (first :: timings) token service) := by
  induction timings generalizing token service first with
  | nil =>
      obtain ⟨pair, keeps, outcomes⟩ :=
        exists_renewals_cons accepted lasting supplied (begun first List.mem_cons_self) []
      rw [outcomes]
      exact .cons ⟨pair, rfl, keeps⟩ .nil
  | cons second timings ih =>
      obtain ⟨pair, keeps, outcomes⟩ := exists_renewals_cons accepted lasting supplied
        (begun first List.mem_cons_self) (second :: timings)
      rw [List.isChain_cons_cons] at inTime
      -- the next call trades in the refresh token of this one
      have reaccepted : (serviceAfter service first).issuer.read .refresh pair.refresh
          second.readAt.second = .ok identity := keeps.refresh _ inTime.1
      have later := ih reaccepted lasting supplied
        (fun timing among => begun timing (List.mem_cons_of_mem _ among)) inTime.2
      rw [outcomes]
      exact .cons ⟨pair, rfl, keeps⟩ later

def patient : Service.Local where
  issuer := ⟨[0x6B, 0x65, 0x79], "gate", "all", .ofSeconds 1, .ofSeconds 10⟩
  hasher := .plain
  exchange := fun _ => .error .wrongCredentials
  now := .epoch
  supply := fun number count => List.replicate count (UInt8.ofNat number)

/-- Claims as no issuer writes them: another spelling of the account, an address that is not
trimmed, a role that nobody knows, and an expiry that is not whole. -/
def respelledClaims : List UInt8 :=
  Text.Utf8.encode ("\x7b\"role\":\"root\",\"email\":\" Ada@B.ORG\",\"user_id\":null,"
    ++ "\"sub\":\"URN:UUID:00000000-0000-0000-0000-0000000000FF\",\"jti\":\"1\","
    ++ "\"type\":\"refresh\",\"exp\":150.5,\"nbf\":0,\"aud\":\"all\",\"iss\":\"gate\"\x7d")

def respelledMessage : List Char :=
  Issuer.segment Token.Header.issued ++ '.' :: Base64.encodeChars .urlSafe respelledClaims

def respelledToken : String := String.ofList (patient.issuer.sealed respelledMessage)

def respelledIdentity : Identity := ⟨⟨0xFF⟩, ⟨"ada@b.org"⟩, .user⟩

theorem read_respelledToken :
    patient.issuer.read .refresh respelledToken 151 = .ok respelledIdentity := by
  have parts : respelledToken.toList.splitOn '.' =
      [Issuer.segment Token.Header.issued, Base64.encodeChars .urlSafe respelledClaims,
        patient.issuer.signature respelledMessage] := by
    rw [respelledToken, String.toList_ofList]
    exact Issuer.splitOn_dot_sealed (Issuer.dot_notMem_encodeChars _)
      (Issuer.dot_notMem_encodeChars _)
  let claims : Token.Claims :=
    ⟨["gate"], ["all"], 0, 151, some "refresh", some "1",
      some "URN:UUID:00000000-0000-0000-0000-0000000000FF", none, some " Ada@B.ORG", some "root"⟩
  have parsed : Token.Claims.parse? respelledClaims = some claims := by decide +kernel
  have verified := Issuer.verified?_eq_some.mpr ⟨_, _, _, _, parts,
    Base64.decodeChars?_encodeChars _ _, Token.Header.isAccepted_issued,
    Base64.decodeChars?_encodeChars _ _, parsed⟩
  have names : claims.Names .refresh respelledIdentity :=
    Issuer.identity?_eq_some.mp (by decide +kernel)
  exact Issuer.read_eq_ok.mpr ⟨claims, verified, by decide, names⟩

/-- Three calls, each of the last two in the last second of the token that it trades in. -/
def lateTimings : List Timing :=
  [⟨⟨151, 0, by decide, by decide⟩, ⟨151, 0, by decide, by decide⟩,
      ⟨152, 0, by decide, by decide⟩⟩,
    ⟨⟨161, 999999999, by decide, by decide⟩, ⟨162, 0, by decide, by decide⟩,
      ⟨160, 0, by decide, by decide⟩⟩,
    ⟨⟨169, 0, by decide, by decide⟩, ⟨169, 0, by decide, by decide⟩,
      ⟨169, 0, by decide, by decide⟩⟩]

theorem renewals_keep_identity_respelled :
    List.Forall₂ (fun timing outcome => ∃ pair, outcome = .ok pair ∧
        Keeps patient.issuer respelledIdentity timing pair)
      lateTimings (renewals lateTimings respelledToken patient) :=
  renewals_keep_identity read_respelledToken (by decide) (fun _number => List.length_replicate)
    (by decide) (.cons_cons ⟨by decide, by decide, by decide⟩
      (.cons_cons ⟨by decide, by decide, by decide⟩ (.singleton _)))

end Latchkey.SignIn
