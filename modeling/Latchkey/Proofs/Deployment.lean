/-
Configurations that are safe. Whatever the environment, a service that starts has a secret, in
production the one that it was given, lifetimes of a second at least, a lockout that locks, and
a database where its store needs one. A blank variable counts as a missing one in every
respect, so that environments that differ in nothing else give the same result; only a secret
that nobody chose is another each time.
-/

import Latchkey.Deployment
import Latchkey.Proofs.Result
import Latchkey.Proofs.Text.Cut
import Latchkey.Proofs.Text.Trim
import Latchkey.Token.Issuer

namespace Latchkey.Deployment

open Result (bind_eq_ok)
open Text (isBlankText)
open Text.Utf8 (encode)
open Time (Span)

variable {environment similar : Environment} {random other : List UInt8} {deployment : Deployment}

/-- Whether a variable has a value that is not blank. -/
def Gives (environment : Environment) (name value : String) : Prop :=
  environment name = some value ∧ isBlankText value = false

theorem value?_eq_some {name value : String} :
    environment.value? name = some value ↔ Gives environment name value := by
  simp [Environment.value?, Gives, Option.filter_eq_some_iff]

theorem ungiven_of_none {name : String} (missing : environment.value? name = none) :
    ∀ value, ¬Gives environment name value := by
  intro value gives
  rw [value?_eq_some.mpr gives] at missing
  cases missing

/-- Whether environments give the same values, blank ones being none. -/
def Agree (environment similar : Environment) : Prop :=
  ∀ name value, Gives environment name value ↔ Gives similar name value

theorem Agree.value? (agree : Agree environment similar) (name : String) :
    environment.value? name = similar.value? name := by
  apply Option.ext
  intro value
  rw [value?_eq_some, value?_eq_some]
  exact agree name value

def second : Span := Span.ofSeconds 1

theorem second_le_ofSeconds {seconds : Nat} (positive : seconds ≠ 0) :
    second.nanos ≤ (Span.ofSeconds seconds).nanos := by
  simp only [second, Span.ofSeconds, Time.nanosPerSecond]
  omega

theorem second_le_of_spanOf {name value : String} {span : Span}
    (read : spanOf name value = .ok span) : second.nanos ≤ span.nanos := by
  unfold spanOf at read
  split at read
  · cases read
  · cases read
  next seconds positive _number =>
    cases read
    exact second_le_ofSeconds positive

theorem second_le_of_spanOr {name : String} {default span : Span}
    (standard : second.nanos ≤ default.nanos)
    (read : spanOr environment name default = .ok span) : second.nanos ≤ span.nanos := by
  unfold spanOr at read
  split at read
  · cases read
    exact standard
  · exact second_le_of_spanOf read

theorem one_le_of_thresholdOr {default threshold : Nat} (standard : 1 ≤ default)
    (read : thresholdOr environment default = .ok threshold) : 1 ≤ threshold := by
  unfold thresholdOr at read
  split at read
  · cases read
    exact standard
  · split at read
    · cases read
    · cases read
    next threshold positive _number =>
      cases read
      exact Nat.one_le_iff_ne_zero.mpr positive

theorem encode_ne_nil {text : String} (given : isBlankText text = false) : encode text ≠ [] := by
  rw [encode]
  cases chars : text.toList with
  | nil =>
      rw [isBlankText, chars] at given
      cases given
  | cons char rest =>
      rw [Text.Utf8.encodeChars_cons]
      exact List.append_ne_nil_of_left_ne_nil String.utf8EncodeChar_ne_nil _

theorem databaseUrlOf_postgres {url : Option String}
    (read : databaseUrlOf environment .postgres = .ok url) :
    ∃ given, url = some given ∧ Gives environment "DATABASE_URL" given := by
  unfold databaseUrlOf at read
  dsimp only at read
  split at read
  case isTrue => cases read
  case isFalse there =>
    cases read
    cases value : environment.value? "DATABASE_URL" with
    | none =>
        rw [value] at there
        exact absurd ⟨rfl, rfl⟩ there
    | some given => exact ⟨given, rfl, value?_eq_some.mp value⟩

theorem secretOf_eq_ok {stage : Stage} {secret : List UInt8}
    (read : secretOf environment stage random = .ok secret) :
    (∃ given, Gives environment "AUTH_JWT_SECRET" given ∧ secret = encode given) ∨
      (∀ given, ¬Gives environment "AUTH_JWT_SECRET" given) ∧ stage = .development ∧
        secret = random := by
  unfold secretOf at read
  split at read
  next given isGiven =>
    cases read
    exact Or.inl ⟨given, value?_eq_some.mp isGiven, rfl⟩
  next missing =>
    cases read
    exact Or.inr ⟨ungiven_of_none missing, rfl, rfl⟩
  next => cases read

def googleNames : List String :=
  ["AUTH_GOOGLE_CLIENT_ID", "AUTH_GOOGLE_CLIENT_SECRET", "AUTH_GOOGLE_REDIRECT_URL"]

/-- Whether credentials are those of an environment. -/
structure AreGiven (environment : Environment) (credentials : Google.Credentials) : Prop where
  clientId : Gives environment "AUTH_GOOGLE_CLIENT_ID" credentials.clientId
  clientSecret : Gives environment "AUTH_GOOGLE_CLIENT_SECRET" credentials.clientSecret
  redirectUrl : Gives environment "AUTH_GOOGLE_REDIRECT_URL" credentials.redirectUrl

private theorem gives_getD {name : String}
    (given : isBlankText ((environment.value? name).getD "") = false) :
    Gives environment name ((environment.value? name).getD "") := by
  cases value : environment.value? name with
  | none =>
      rw [value] at given
      cases given
  | some text => exact value?_eq_some.mp value

theorem areGiven_of_googleOf {credentials : Google.Credentials}
    (made : googleOf environment = some credentials) : AreGiven environment credentials := by
  unfold googleOf at made
  dsimp only at made
  split at made
  case isTrue complete =>
    cases made
    simp only [Google.Credentials.isComplete, List.all_cons, List.all_nil, Bool.and_true,
      Bool.and_eq_true, Bool.not_eq_true'] at complete
    exact ⟨gives_getD complete.1, gives_getD complete.2.1, gives_getD complete.2.2⟩
  case isFalse => cases made

theorem isSome_googleOf :
    (googleOf environment).isSome = true ↔
      ∀ name ∈ googleNames, ∃ value, Gives environment name value := by
  simp only [googleNames, List.forall_mem_cons, List.not_mem_nil, false_implies, implies_true,
    and_true]
  constructor
  · intro made
    obtain ⟨credentials, made⟩ := Option.isSome_iff_exists.mp made
    have areGiven := areGiven_of_googleOf made
    exact ⟨⟨_, areGiven.clientId⟩, ⟨_, areGiven.clientSecret⟩, ⟨_, areGiven.redirectUrl⟩⟩
  · rintro ⟨⟨id, idGiven⟩, ⟨secret, secretGiven⟩, ⟨url, urlGiven⟩⟩
    simp [googleOf, value?_eq_some.mpr idGiven, value?_eq_some.mpr secretGiven,
      value?_eq_some.mpr urlGiven, Google.Credentials.isComplete, idGiven.2, secretGiven.2,
      urlGiven.2]

theorem originsOf_clean {value : Option String} {origin : String}
    (member : origin ∈ originsOf value) :
    origin ≠ "" ∧ Text.trim origin = origin ∧ ',' ∉ origin.toList := by
  unfold originsOf at member
  simp only [List.mem_map, List.mem_filter] at member
  obtain ⟨chars, ⟨⟨piece, isPiece, rfl⟩, nonempty⟩, rfl⟩ := member
  refine ⟨?_, ?_, ?_⟩
  · rintro empty
    rw [← String.toList_eq_nil_iff, String.toList_ofList] at empty
    rw [empty] at nonempty
    cases nonempty
  · rw [Text.trim, String.toList_ofList, Text.trimChars_trimChars]
  · rw [String.toList_ofList]
    exact fun comma => Text.notMem_of_mem_splitOn isPiece (Text.mem_of_mem_trimChars comma)

/-- Whether a configuration is fit to run a service in its environment. -/
structure IsSafe (environment : Environment) (deployment : Deployment) : Prop where
  hasSecret : deployment.settings.tokenSecret ≠ []
  issues : ∃ issuer, Token.Issuer.ofSettings deployment.settings = .ok issuer
  secretGiven : deployment.stage = .production → ∃ secret,
    Gives environment "AUTH_JWT_SECRET" secret ∧ deployment.settings.tokenSecret = encode secret
  cookieSecure : deployment.settings.cookieSecure = true ↔ deployment.stage = .production
  spans : ∀ span ∈ [deployment.settings.accessSpan, deployment.settings.refreshSpan,
    deployment.settings.lockSpan], second.nanos ≤ span.nanos
  threshold : 1 ≤ deployment.settings.threshold
  policy : deployment.settings.lockoutPolicy.threshold = deployment.settings.threshold ∧
    0 < deployment.settings.lockoutPolicy.lockSpan.nanos
  database : deployment.store = .postgres → ∃ url, deployment.databaseUrl = some url ∧
    isBlankText url = false
  google : deployment.google.isSome = true ↔
    ∀ name ∈ googleNames, ∃ value, Gives environment name value
  credentials : ∀ credentials, deployment.google = some credentials →
    AreGiven environment credentials
  origins : ∀ origin ∈ deployment.origins,
    origin ≠ "" ∧ Text.trim origin = origin ∧ ',' ∉ origin.toList

theorem lockoutPolicy_of_positive {settings : Settings} (threshold : 1 ≤ settings.threshold)
    (lockSpan : second.nanos ≤ settings.lockSpan.nanos) :
    settings.lockoutPolicy.threshold = settings.threshold ∧
      0 < settings.lockoutPolicy.lockSpan.nanos := by
  refine ⟨Nat.max_eq_left threshold, ?_⟩
  have positive : 0 < second.nanos := by decide
  change 0 < settings.lockSpan.capped.nanos
  unfold Span.capped
  split
  · decide
  · omega

theorem ofSettings_of_secret {settings : Settings} (given : settings.tokenSecret ≠ []) :
    ∃ issuer, Token.Issuer.ofSettings settings = .ok issuer :=
  ⟨_, if_neg fun empty => given (List.isEmpty_iff.mp empty)⟩

theorem isSafe_of_ofEnvironment (fresh : random.length = Settings.secretLength)
    (started : ofEnvironment environment random = .ok deployment) :
    IsSafe environment deployment := by
  obtain ⟨stage, _stageRead, started⟩ := bind_eq_ok started
  obtain ⟨store, _storeRead, started⟩ := bind_eq_ok started
  obtain ⟨port, _portRead, started⟩ := bind_eq_ok started
  obtain ⟨databaseUrl, databaseUrlRead, started⟩ := bind_eq_ok started
  obtain ⟨tokenSecret, tokenSecretRead, started⟩ := bind_eq_ok started
  obtain ⟨accessSpan, accessSpanRead, started⟩ := bind_eq_ok started
  obtain ⟨refreshSpan, refreshSpanRead, started⟩ := bind_eq_ok started
  obtain ⟨threshold, thresholdRead, started⟩ := bind_eq_ok started
  obtain ⟨lockSpan, lockSpanRead, started⟩ := bind_eq_ok started
  cases started
  have secret := secretOf_eq_ok tokenSecretRead
  have hasSecret : tokenSecret ≠ [] := by
    rcases secret with ⟨given, gives, rfl⟩ | ⟨_ungiven, _development, rfl⟩
    · exact encode_ne_nil gives.2
    · rintro rfl
      cases fresh
  have access := second_le_of_spanOr (by decide) accessSpanRead
  have refresh := second_le_of_spanOr (by decide) refreshSpanRead
  have lock := second_le_of_spanOr (by decide) lockSpanRead
  have positive := one_le_of_thresholdOr (by decide) thresholdRead
  refine {
    hasSecret := hasSecret
    issues := ofSettings_of_secret hasSecret
    secretGiven := ?_
    cookieSecure := beq_iff_eq
    spans := by simp [access, refresh, lock]
    threshold := positive
    policy := lockoutPolicy_of_positive positive lock
    database := ?_
    google := isSome_googleOf
    credentials := fun credentials made => areGiven_of_googleOf made
    origins := fun origin member => originsOf_clean member }
  · rintro rfl
    rcases secret with given | ⟨_ungiven, isDevelopment, _random⟩
    · exact given
    · cases isDevelopment
  · rintro rfl
    obtain ⟨url, rfl, gives⟩ := databaseUrlOf_postgres databaseUrlRead
    exact ⟨url, rfl, gives.2⟩

def withSecret (deployment : Deployment) (secret : List UInt8) : Deployment :=
  { deployment with settings := { deployment.settings with tokenSecret := secret } }

/-- Whether results are the same but for a secret that nobody chose. -/
inductive Alike (environment : Environment) (random other : List UInt8) :
    Except String Deployment → Except String Deployment → Prop where
  | refused (message : String) : Alike environment random other (.error message) (.error message)
  | same (deployment : Deployment) :
      Alike environment random other (.ok deployment) (.ok deployment)
  | apart (deployment : Deployment) (isDevelopment : deployment.stage = .development)
      (ungiven : ∀ secret, ¬Gives environment "AUTH_JWT_SECRET" secret)
      (isRandom : deployment.settings.tokenSecret = random) :
      Alike environment random other (.ok deployment) (.ok (deployment.withSecret other))

namespace Alike

theorem refl (result : Except String Deployment) :
    Alike environment random other result result := by
  cases result with
  | error message => exact Alike.refused message
  | ok deployment => exact Alike.same deployment

theorem bind {α : Type} (start : Except String α) {next nextOther : α → Except String Deployment}
    (later : ∀ value, Alike environment random other (next value) (nextOther value)) :
    Alike environment random other (start >>= next) (start >>= nextOther) := by
  cases start with
  | error message => exact Alike.refused message
  | ok value => exact later value

theorem random_bind {next nextOther : List UInt8 → Except String Deployment}
    (later : Alike environment random other (next random) (nextOther other)) :
    Alike environment random other (.ok random >>= next) (.ok other >>= nextOther) := later

end Alike

theorem ofEnvironment_congr (agree : Agree environment similar) (random : List UInt8) :
    ofEnvironment environment random = ofEnvironment similar random := by
  simp only [ofEnvironment, databaseUrlOf, secretOf, spanOr, thresholdOr, googleOf, agree.value?]

theorem ofEnvironment_alike (environment : Environment) (random other : List UInt8) :
    Alike environment random other (ofEnvironment environment random)
      (ofEnvironment environment other) := by
  unfold ofEnvironment
  refine Alike.bind _ fun stage => Alike.bind _ fun store => Alike.bind _ fun port => ?_
  refine Alike.bind _ fun databaseUrl => ?_
  unfold secretOf
  split
  · exact Alike.refl _
  next missing =>
    refine Alike.random_bind (Alike.bind _ fun accessSpan => Alike.bind _ fun refreshSpan => ?_)
    refine Alike.bind _ fun threshold => Alike.bind _ fun lockSpan => ?_
    exact Alike.apart _ rfl (ungiven_of_none missing) rfl
  · exact Alike.refl _

/-- Every environment that is accepted gives a safe configuration, and blank variables count
as missing ones. -/
theorem ofEnvironment_safe (environment : Environment)
    (fresh : random.length = Settings.secretLength) :
    (∀ deployment, ofEnvironment environment random = .ok deployment →
      IsSafe environment deployment) ∧
    ∀ similar other, Agree environment similar →
      Alike environment random other (ofEnvironment environment random)
        (ofEnvironment similar other) := by
  refine ⟨fun deployment started => isSafe_of_ofEnvironment fresh started, ?_⟩
  intro similar other agree
  rw [← ofEnvironment_congr agree other]
  exact ofEnvironment_alike environment random other

/-- An environment of production with blanks around its values and blank values among them. -/
def spacious : Environment := fun name =>
  [("APP_ENV", " prod "), ("DATABASE_URL", "postgres://localhost/app"),
    ("AUTH_JWT_SECRET", " s3cret "), ("AUTH_TOKEN_TTL", "+60"), ("AUTH_REFRESH_TTL", " "),
    ("AUTH_GOOGLE_CLIENT_ID", ""), ("FRONTEND_ORIGINS", " http://a.test , ,http://b.test")].lookup
      name

def dense : Environment := fun name => spacious.value? name

theorem agree_spacious_dense : Agree spacious dense := by
  intro name value
  rw [← value?_eq_some]
  constructor
  · intro given
    exact ⟨given, (value?_eq_some.mp given).2⟩
  · rintro ⟨given, _solid⟩
    exact given

theorem ofEnvironment_safe_spacious :
    (List.replicate 32 (7 : UInt8)).length = Settings.secretLength ∧
      ∃ deployment, ofEnvironment spacious (List.replicate 32 7) = .ok deployment ∧
        IsSafe spacious deployment ∧ deployment.stage = .production ∧
        deployment.origins = ["http://a.test", "http://b.test"] ∧
        Alike spacious (List.replicate 32 7) (List.replicate 32 8) (.ok deployment)
          (ofEnvironment dense (List.replicate 32 8)) := by
  have fresh : (List.replicate 32 (7 : UInt8)).length = Settings.secretLength := by decide
  obtain ⟨safe, alike⟩ := ofEnvironment_safe spacious fresh
  refine ⟨fresh, _, rfl, safe _ rfl, rfl, ?_, alike dense _ agree_spacious_dense⟩
  decide +kernel

end Latchkey.Deployment
