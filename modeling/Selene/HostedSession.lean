import Selene.JsCoercion
import Selene.OidcAddressScreen

/-!
# Hosted sessions that are over

`authenticate` and `logout` of the hosted sign-in read a session from a store
and validate it again.  The validation refuses every expiry that is not in the
future, and it comes before the test that ends a session that is over: the test
is never met, and a session that is over is answered as a failure of the store.
-/

namespace Selene.Identity

open Js

/-! ## Fields -/

def maxUrlLength : Nat := 2048
def maxConfigStringLength : Nat := 4096
def maxIdentifierLength : Nat := 512
def maxTokenLength : Nat := 16384
def maxSubjectLength : Nat := 512
def maxTokenLifetimeMs : Int := 24 * 60 * 60000
def maxDataProperties : Nat := 64
def maxHostedCallDurationMs : Int := 60000
def maxTimestamp : Int := 8640000000000000

/-- A `HostedIdentityError` with a code. -/
def hosted (code : HostedIdentityErrorCode) (message : String) :
    HostedIdentityError :=
  ⟨some code, js message⟩

/-- `plainRecord`: foreign prototypes and accessors are no plain data. -/
def plainRecord (value : JsValue) (label : String)
    (code : HostedIdentityErrorCode) : Except HostedIdentityError Record :=
  match value with
  | .object entries => do
      check (entries.length ≤ maxDataProperties ∧
          js "length" ∉ Record.keys entries ∧
          js "constructor" ∉ Record.keys entries)
        (hosted code (label ++ " must be a plain data object"))
      pure entries
  | _ => .error (hosted code (label ++ " must be a plain data object"))

/-- `boundedString`, with the code of its failure. -/
def stringField (value : JsValue) (label : String) (min max : Nat)
    (code : HostedIdentityErrorCode) : Except HostedIdentityError JsString :=
  match boundedString value min max with
  | some content => .ok content
  | none => .error (hosted code (label ++ " is invalid"))

/-- A unit of `[A-Za-z0-9_-]`. -/
def isIdentifierUnit (unit : CodeUnit) : Bool :=
  decide ((0x41 ≤ unit.val ∧ unit.val ≤ 0x5A) ∨
    (0x61 ≤ unit.val ∧ unit.val ≤ 0x7A) ∨
    (0x30 ≤ unit.val ∧ unit.val ≤ 0x39) ∨ unit.val = 0x5F ∨ unit.val = 0x2D)

def boundedIdentifier (value : JsValue) (label : String)
    (code : HostedIdentityErrorCode) : Except HostedIdentityError JsString :=
  match value with
  | .string content => do
      check (20 ≤ content.length ∧ content.length ≤ maxIdentifierLength ∧
          content.all isIdentifierUnit = true)
        (hosted code (label ++ " is malformed"))
      pure content
  | _ => .error (hosted code (label ++ " is malformed"))

def boundedToken (value : JsValue) (label : String) :
    Except HostedIdentityError JsString :=
  stringField value label 1 maxTokenLength .invalidCallback

/-- A field that is left out if it is `undefined`. -/
def optionalField {α : Type} (value : JsValue)
    (read : JsValue → Except HostedIdentityError α) :
    Except HostedIdentityError (Option α) :=
  match value with
  | .undefined => .ok none
  | value => some <$> read value

def isUndefined : JsValue → Bool
  | .undefined => true
  | _ => false

/-- The integer of a value that `isFiniteInteger` accepts. -/
def finiteInteger? : JsValue → Option Int
  | .number (.finite value) => if value.den = 1 then some value.num else none
  | .number .negativeZero => some 0
  | _ => none

/-- The integer of a value that `isSafeInteger` accepts. -/
def safeInteger? : JsValue → Option Int
  | .number number => number.safeInteger?
  | _ => none

/-! ## Addresses of the issuer -/

/-- A `URL`, by its getters. -/
structure WebUrl where
  href : JsString
  protocol : JsString
  username : JsString
  password : JsString
  hostname : JsString
  port : JsString
  search : JsString
  hash : JsString
  deriving DecidableEq

/-- `text.lastIndexOf(unit)`. -/
def lastIndexOf (unit : CodeUnit) : JsString → Option Nat
  | [] => none
  | first :: rest =>
      match lastIndexOf unit rest with
      | some index => some (index + 1)
      | none => if first = unit then some 0 else none

/-- The conversions of the language, and the parser of the platform. -/
structure Platform extends Conversions where
  /-- `new URL`; `none` is the `TypeError` it throws. -/
  newUrl : JsString → Option WebUrl

section

variable (platform : Platform)

def parseUrl (value : JsValue) (label : String)
    (code : HostedIdentityErrorCode) : Except HostedIdentityError WebUrl := do
  let content ← stringField value label 1 maxUrlLength code
  match platform.newUrl content with
  | some url => pure url
  | none => .error (hosted code (label ++ " is invalid"))

/-- The configuration of a `HostedOidcBff`, and the last time it has read. -/
structure HostedOidcBff where
  issuer : WebUrl
  allowedIssuerHosts : List JsString
  redirectUri : WebUrl
  lastTime : Int

/-- The host names of `https:` addresses are ASCII. -/
def validateSubjectIssuer (bff : HostedOidcBff) (subjectKey : JsString) :
    Except HostedIdentityError Unit := do
  let separator ← match lastIndexOf 0x7C subjectKey with
    | some (index + 1) => .ok (index + 1)
    | _ => .error (hosted .invalidCallback "OIDC subject key is invalid")
  let issuer ← parseUrl platform (.string (subjectKey.take separator))
    "OIDC subject issuer" .invalidCallback
  check (issuer.protocol = js "https:" ∧ issuer.username = [] ∧
      issuer.password = [] ∧ issuer.search = [] ∧ issuer.hash = [] ∧
      platform.toLowerCase issuer.hostname ∈ bff.allowedIssuerHosts)
    (hosted .invalidCallback "OIDC subject issuer is not allowlisted")
  check (issuer.href = bff.issuer.href)
    (hosted .invalidCallback
      "OIDC subject issuer does not match the configured issuer")

/-! ## Sessions -/

structure OidcClaims where
  sub : JsString
  email : Option JsString
  name : Option JsString
  deriving DecidableEq

structure OidcTokenSet where
  accessToken : Option JsString
  refreshToken : Option JsString
  idToken : Option JsString
  claims : OidcClaims
  subjectKey : JsString
  expiresAt : Int
  deriving DecidableEq

structure HostedBffSession where
  id : JsString
  subject : JsString
  expiresAt : Int
  tokens : OidcTokenSet
  organizationId : Option JsString
  accessVersion : Option Int
  deriving DecidableEq

/-- How the expiries of tokens and of a session are read. -/
abbrev ExpiryRule := JsValue → String → Except HostedIdentityError Int

/-- An expiry in the future, and not too far in it. -/
def validFutureExpiry (now : Int) : ExpiryRule := fun value label =>
  match finiteInteger? value with
  | some expiresAt => do
      check (now < expiresAt ∧ expiresAt - now ≤ maxTokenLifetimeMs)
        (hosted .invalidCallback (label ++ " expiry is invalid"))
      pure expiresAt
  | none => .error (hosted .invalidCallback (label ++ " expiry is invalid"))

/-- An expiry at any time: what a session has to hold, whatever the time is. -/
def anyExpiry : ExpiryRule := fun value label =>
  match finiteInteger? value with
  | some expiresAt => .ok expiresAt
  | none => .error (hosted .invalidCallback (label ++ " expiry is invalid"))

/-- `freezeTokenSet`, by the rule for expiries. -/
def freezeTokenSet (bff : HostedOidcBff) (expiry : ExpiryRule)
    (value : JsValue) : Except HostedIdentityError OidcTokenSet := do
  let tokens ← plainRecord value "OIDC token set" .invalidCallback
  let claims ←
    plainRecord (tokens.get (js "claims")) "OIDC claims" .invalidCallback
  let sub ← stringField (claims.get (js "sub")) "OIDC subject" 1
    maxSubjectLength .invalidCallback
  check ((0x7C : CodeUnit) ∉ sub)
    (hosted .invalidCallback "OIDC subject is invalid")
  let subjectKey ← stringField (tokens.get (js "subjectKey"))
    "OIDC subject key" 3 maxConfigStringLength .invalidCallback
  check ((0x7C :: sub) <:+ subjectKey ∧ (0 : CodeUnit) ∉ subjectKey)
    (hosted .invalidCallback "OIDC subject key is invalid")
  validateSubjectIssuer platform bff subjectKey
  let accessToken ← optionalField (tokens.get (js "accessToken")) fun token =>
    boundedToken token "access token"
  let refreshToken ← optionalField (tokens.get (js "refreshToken")) fun token =>
    boundedToken token "refresh token"
  let idToken ← optionalField (tokens.get (js "idToken")) fun token =>
    boundedToken token "ID token"
  let email ← optionalField (claims.get (js "email")) fun email =>
    stringField email "OIDC email" 1 maxSubjectLength .invalidCallback
  let name ← optionalField (claims.get (js "name")) fun name =>
    stringField name "OIDC name" 1 maxSubjectLength .invalidCallback
  let expiresAt ← expiry (tokens.get (js "expiresAt")) "OIDC token"
  pure ⟨accessToken, refreshToken, idToken, ⟨sub, email, name⟩, subjectKey,
    expiresAt⟩

/-- The version of an access binding. -/
def accessVersionOf (value : JsValue) : Except HostedIdentityError Int :=
  match safeInteger? value with
  | some version => do
      check (1 ≤ version)
        (hosted .invalidSession "OIDC access version is invalid")
      pure version
  | none => .error (hosted .invalidSession "OIDC access version is invalid")

/-- `freezeSession`, by the rule for expiries. -/
def freezeSession (bff : HostedOidcBff) (expiry : ExpiryRule)
    (value : JsValue) : Except HostedIdentityError HostedBffSession := do
  let session ← plainRecord value "OIDC session" .invalidSession
  check (isUndefined (session.get (js "organizationId")) =
      isUndefined (session.get (js "accessVersion")))
    (hosted .invalidSession "OIDC session access binding is incomplete")
  let organizationId ← optionalField (session.get (js "organizationId"))
    fun organizationId =>
      stringField organizationId "OIDC organization ID" 1 maxIdentifierLength
        .invalidSession
  let accessVersion ←
    optionalField (session.get (js "accessVersion")) accessVersionOf
  let tokens ← freezeTokenSet platform bff expiry (session.get (js "tokens"))
  let subject ← stringField (session.get (js "subject"))
    "OIDC session subject" 3 maxConfigStringLength .invalidSession
  check (subject = tokens.subjectKey)
    (hosted .invalidSession "OIDC session subject is invalid")
  let expiresAt ← expiry (session.get (js "expiresAt")) "OIDC session"
  check (expiresAt ≤ tokens.expiresAt)
    (hosted .invalidSession "OIDC session expiry exceeds token expiry")
  let id ← boundedIdentifier (session.get (js "id")) "OIDC session ID"
    .invalidSession
  pure ⟨id, subject, expiresAt, tokens, organizationId, accessVersion⟩

end

/-! ## Calls of the host -/

/-- The context of a call, by its own data properties. -/
structure CallContextValue where
  remainingDurationMs : Option JsValue
  /-- The methods of `cancellation` can be captured. -/
  cancellable : Bool

inductive AdapterCall where
  | readSession (id : JsString)
  | consumeSession (id : JsString)
  | revokeSession (id : JsString)
  | revokeToken (token : JsString) (hint : String)
  | endSession (idToken : Option JsString)
  deriving DecidableEq

/-- What a runtime answers for the end of a session. -/
inductive UrlAnswer where
  | url (url : WebUrl)
  | data (value : JsValue)

/--
What the host answers.  A call of an adapter has no answer if it throws,
rejects, is cancelled or does not settle in time.
-/
structure HostedHost where
  /-- The effects for a context can be captured. -/
  hasEffects : Bool
  /-- The time, when the clock is read; `none` if it throws. -/
  clock : Option JsValue
  readSession : JsString → Option JsValue
  consumeSession : JsString → Option JsValue
  revokeSession : JsString → Option JsValue
  endSession : Option UrlAnswer

/-- The calls that are made, how it ends, and the last time that was read. -/
structure Ended (α : Type) where
  calls : List AdapterCall
  outcome : Except HostedIdentityError α
  lastTime : Int

def captureHostedIdentityCallContext (context : CallContextValue) :
    Except HostedIdentityError Unit :=
  match context.remainingDurationMs.bind safeInteger? with
  | some duration =>
      check (0 ≤ duration ∧ duration ≤ maxHostedCallDurationMs ∧
          context.cancellable = true)
        (hosted .invalidRuntime "OIDC call context is invalid")
  | none => .error (hosted .invalidRuntime "OIDC call context is invalid")

/-- What `authenticate` and `logout` check before they call the store. -/
def captureCall (host : HostedHost) (context : CallContextValue)
    (sessionId : JsValue) : Except HostedIdentityError JsString := do
  captureHostedIdentityCallContext context
  check (host.hasEffects = true)
    (hosted .invalidRuntime "OIDC host effects are invalid")
  boundedIdentifier sessionId "OIDC session ID" .invalidSession

def HostedOidcBff.currentTime (bff : HostedOidcBff) (clock : Option JsValue) :
    Except HostedIdentityError Int :=
  match clock with
  | none => .error (hosted .invalidRuntime "OIDC clock failed")
  | some value =>
      match finiteInteger? value with
      | none => .error (hosted .invalidRuntime "OIDC clock is invalid")
      | some now => do
          check (0 ≤ now ∧ now ≤ maxTimestamp)
            (hosted .invalidRuntime "OIDC clock is invalid")
          check (bff.lastTime ≤ now)
            (hosted .invalidRuntime "OIDC clock moved backwards")
          pure now

def storeResult {α : Type} (operation : String)
    (result : Except HostedIdentityError α) : Except HostedIdentityError α :=
  result.mapError fun _ =>
    hosted .storeFailure ("OIDC store " ++ operation ++ " is invalid")

def runtimeResult {α : Type} (operation : String)
    (result : Except HostedIdentityError α) : Except HostedIdentityError α :=
  result.mapError fun _ =>
    hosted .invalidRuntime ("OIDC runtime " ++ operation ++ " is invalid")

def storeFailed (operation : String) : HostedIdentityError :=
  hosted .storeFailure ("OIDC store " ++ operation ++ " failed")

/-- `storeVoid`, of what the store answers. -/
def storeVoid (operation : String) :
    Option JsValue → Except HostedIdentityError Unit
  | none => .error (storeFailed operation)
  | some .undefined => .ok ()
  | some _ =>
      .error (hosted .storeFailure
        ("OIDC store " ++ operation ++ " result is invalid"))

section

variable (platform : Platform)

/-! ## Authentication -/

def authenticate (bff : HostedOidcBff) (host : HostedHost)
    (context : CallContextValue) (sessionId : JsValue) :
    Ended (Option HostedBffSession) :=
  match captureCall host context sessionId with
  | .error error => ⟨[], .error error, bff.lastTime⟩
  | .ok safeId =>
      match host.readSession safeId with
      | none =>
          ⟨[.readSession safeId], .error (storeFailed "read session"),
            bff.lastTime⟩
      | some session =>
          if session.truthy = false then
            ⟨[.readSession safeId], .ok none, bff.lastTime⟩
          else
            match bff.currentTime host.clock with
            | .error error =>
                ⟨[.readSession safeId], .error error, bff.lastTime⟩
            | .ok now =>
                match storeResult "session"
                    (freezeSession platform bff (validFutureExpiry now)
                      session) with
                | .error error => ⟨[.readSession safeId], .error error, now⟩
                | .ok safeSession =>
                    if safeSession.id ≠ safeId ∨
                        safeSession.expiresAt ≤ now then
                      ⟨[.readSession safeId, .revokeSession safeId],
                        (storeVoid "revoke expired session"
                          (host.revokeSession safeId)).map fun _ => none,
                        now⟩
                    else
                      ⟨[.readSession safeId], .ok (some safeSession), now⟩

/-! ## Logout -/

/-- `copyUrl`, which parses the address again. -/
def copyUrl (url : WebUrl) : Except HostedIdentityError WebUrl :=
  match platform.newUrl url.href with
  | some copy => .ok copy
  | none => .error ⟨none, js "Invalid URL"⟩

def validateProviderRuntimeUrl (answer : UrlAnswer) (label : String)
    (hosts : List JsString) : Except HostedIdentityError WebUrl := do
  let url ← match answer with
    | .url url => copyUrl platform url
    | .data value => parseUrl platform value label .invalidRuntime
  check (url.protocol = js "https:" ∧ url.username = [] ∧ url.password = [] ∧
      url.port = [] ∧ isLocalOrIpHostname platform.toConversions url.hostname = false)
    (hosted .invalidRuntime (label ++ " is invalid"))
  check (platform.toLowerCase url.hostname ∈ hosts)
    (hosted .invalidRuntime (label ++ " is not allowlisted"))
  pure url

/-- The tokens that are revoked, whether or not the runtime does it. -/
def tokenRevocations (tokens : OidcTokenSet) : List AdapterCall :=
  (tokens.refreshToken.toList.map fun token =>
      .revokeToken token "refresh_token") ++
    tokens.accessToken.toList.map fun token => .revokeToken token "access_token"

/-- The address that a sign-out goes on to. -/
def endSessionUrl (bff : HostedOidcBff) :
    Option UrlAnswer → Except HostedIdentityError (Option WebUrl)
  | none =>
      .error (hosted .invalidRuntime "OIDC runtime end session failed")
  | some (.data .undefined) => .ok none
  | some answer => do
      let url ← runtimeResult "end-session result"
        (validateProviderRuntimeUrl platform answer "OIDC end-session URL"
          bff.allowedIssuerHosts)
      let copy ← copyUrl platform url
      pure (some copy)

def logout (bff : HostedOidcBff) (host : HostedHost)
    (context : CallContextValue) (sessionId : JsValue) :
    Ended (Option WebUrl) :=
  match captureCall host context sessionId with
  | .error error => ⟨[], .error error, bff.lastTime⟩
  | .ok safeId =>
      match host.consumeSession safeId with
      | none =>
          ⟨[.consumeSession safeId], .error (storeFailed "consume session"),
            bff.lastTime⟩
      | some session =>
          if session.truthy = false then
            ⟨[.consumeSession safeId], .ok none, bff.lastTime⟩
          else
            match bff.currentTime host.clock with
            | .error error =>
                ⟨[.consumeSession safeId], .error error, bff.lastTime⟩
            | .ok now =>
                match storeResult "logout session"
                    (freezeSession platform bff (validFutureExpiry now)
                      session) with
                | .error error => ⟨[.consumeSession safeId], .error error, now⟩
                | .ok safeSession =>
                    if safeSession.expiresAt ≤ now then
                      ⟨[.consumeSession safeId], .ok none, now⟩
                    else
                      ⟨.consumeSession safeId ::
                          tokenRevocations safeSession.tokens ++
                            [.endSession safeSession.tokens.idToken],
                        endSessionUrl platform bff host.endSession, now⟩

/-! ## Ending cleanly -/

/-- A session that passes every check that does not depend on the time. -/
def IsSession (bff : HostedOidcBff) (value : JsValue)
    (session : HostedBffSession) : Prop :=
  freezeSession platform bff anyExpiry value = .ok session

end

/-- A call of a store that failed, or answered what it may not answer. -/
def HostedHost.Fails (host : HostedHost) : AdapterCall → Prop
  | .readSession id => host.readSession id = none
  | .consumeSession id => host.consumeSession id = none
  | .revokeSession id => host.revokeSession id ≠ some .undefined
  | .revokeToken _ _ => False
  | .endSession _ => False

/-- It ends with `STORE_FAILURE`. -/
def IsStoreFailure {α : Type} (outcome : Except HostedIdentityError α) : Prop :=
  ∃ message, outcome = .error ⟨some .storeFailure, message⟩

/--
A call for a session that is over resolves to `undefined` after it has done
what it has to; a failure of the store is reported only if there was one, or if
the session is none.
-/
structure EndsCleanly {α : Type} (host : HostedHost) (isSession : Prop)
    (required : List AdapterCall) (ended : Ended (Option α)) : Prop where
  resolves : isSession → (∀ call ∈ ended.calls, ¬ host.Fails call) →
    ended.outcome = .ok none ∧ ∀ call ∈ required, call ∈ ended.calls
  fails : IsStoreFailure ended.outcome →
    (∃ call ∈ ended.calls, host.Fails call) ∨ ¬ isSession

section

variable {platform : Platform}

variable {bff : HostedOidcBff} {value : JsValue} {session : HostedBffSession}

theorem expiresAt_of_freezeSession
    {expiry : ExpiryRule}
    (accepted : freezeSession platform bff expiry value = .ok session) :
    ∃ record, plainRecord value "OIDC session" .invalidSession = .ok record ∧
      expiry (record.get (js "expiresAt")) "OIDC session" =
        .ok session.expiresAt := by
  obtain ⟨record, isRecord, accepted⟩ := bind_eq_ok.mp accepted
  obtain ⟨_, accepted⟩ := check_bind_eq_ok.mp accepted
  obtain ⟨organizationId, _, accepted⟩ := bind_eq_ok.mp accepted
  obtain ⟨accessVersion, _, accepted⟩ := bind_eq_ok.mp accepted
  obtain ⟨tokens, _, accepted⟩ := bind_eq_ok.mp accepted
  obtain ⟨subject, _, accepted⟩ := bind_eq_ok.mp accepted
  obtain ⟨_, accepted⟩ := check_bind_eq_ok.mp accepted
  obtain ⟨expiresAt, isExpiry, accepted⟩ := bind_eq_ok.mp accepted
  obtain ⟨_, accepted⟩ := check_bind_eq_ok.mp accepted
  obtain ⟨id, _, accepted⟩ := bind_eq_ok.mp accepted
  cases accepted
  exact ⟨record, isRecord, isExpiry⟩

variable {now : Int}

theorem validFutureExpiry_eq_ok
    {expiresAt : Int}
    {label : String}
    (accepted : validFutureExpiry now value label = .ok expiresAt) :
    finiteInteger? value = some expiresAt ∧ now < expiresAt := by
  unfold validFutureExpiry at accepted
  split at accepted
  · rename_i found isFound
    obtain ⟨future, same⟩ := check_bind_eq_ok.mp accepted
    cases same
    exact ⟨isFound, future.1⟩
  · cases accepted

theorem anyExpiry_eq_ok
    {expiresAt : Int}
    {label : String}
    (accepted : anyExpiry value label = .ok expiresAt) :
    finiteInteger? value = some expiresAt := by
  unfold anyExpiry at accepted
  split at accepted
  · cases accepted
    assumption
  · cases accepted

theorem freezeSession_of_expired
    (isSession : IsSession platform bff value session)
    (expired : session.expiresAt ≤ now) :
    ∃ error, freezeSession platform bff (validFutureExpiry now) value =
      .error error := by
  cases isFrozen :
      freezeSession platform bff (validFutureExpiry now) value with
  | error error => exact ⟨error, rfl⟩
  | ok frozen =>
      obtain ⟨record, isRecord, isExpiry⟩ :=
        expiresAt_of_freezeSession isSession
      obtain ⟨same, isSame, isFuture⟩ := expiresAt_of_freezeSession isFrozen
      rw [isRecord] at isSame
      cases isSame
      obtain ⟨isFuture, future⟩ := validFutureExpiry_eq_ok isFuture
      rw [anyExpiry_eq_ok isExpiry, Option.some.injEq] at isFuture
      omega

theorem truthy_of_isSession
    (isSession : IsSession platform bff value session) :
    value.truthy = true := by
  obtain ⟨record, isRecord, _⟩ := expiresAt_of_freezeSession isSession
  unfold plainRecord at isRecord
  split at isRecord
  · rfl
  · cases isRecord

variable {host : HostedHost}

/-- A session that is over is refused before it is found to be over. -/
theorem authenticate_of_expired
    {context : CallContextValue}
    {sessionId : JsValue}
    {safeId : JsString}
    (captured : captureCall host context sessionId = .ok safeId)
    (returned : host.readSession safeId = some value)
    (isSession : IsSession platform bff value session)
    (isNow : bff.currentTime host.clock = .ok now)
    (expired : session.expiresAt ≤ now) :
    authenticate platform bff host context sessionId =
      ⟨[.readSession safeId],
        .error (hosted .storeFailure "OIDC store session is invalid"), now⟩ := by
  obtain ⟨error, refused⟩ := freezeSession_of_expired isSession expired
  have isValue := truthy_of_isSession isSession
  simp [authenticate, captured, returned, isValue, isNow, refused, storeResult,
    Except.mapError]

theorem logout_of_expired
    {context : CallContextValue}
    {sessionId : JsValue}
    {safeId : JsString}
    (captured : captureCall host context sessionId = .ok safeId)
    (returned : host.consumeSession safeId = some value)
    (isSession : IsSession platform bff value session)
    (isNow : bff.currentTime host.clock = .ok now)
    (expired : session.expiresAt ≤ now) :
    logout platform bff host context sessionId =
      ⟨[.consumeSession safeId],
        .error (hosted .storeFailure "OIDC store logout session is invalid"),
        now⟩ := by
  obtain ⟨error, refused⟩ := freezeSession_of_expired isSession expired
  have isValue := truthy_of_isSession isSession
  simp [logout, captured, returned, isValue, isNow, refused, storeResult,
    Except.mapError]

/-- A failure of the store that no call of it had is not clean. -/
theorem not_endsCleanly
    {α : Type}
    {isSession : Prop}
    {required : List AdapterCall}
    {ended : Ended (Option α)}
    (isIndeed : isSession)
    (answered : ∀ call ∈ ended.calls, ¬ host.Fails call)
    (failed : IsStoreFailure ended.outcome) :
    ¬ EndsCleanly host isSession required ended := by
  intro clean
  rcases clean.fails failed with ⟨call, member, fails⟩ | isNone
  · exact answered call member fails
  · exact isNone isIndeed

/-- Neither call ends cleanly for any session that is over. -/
theorem expired_session_never_endsCleanly
    {bff : HostedOidcBff}
    {host : HostedHost}
    {context : CallContextValue}
    {sessionId value : JsValue}
    {safeId : JsString}
    {session : HostedBffSession}
    {now : Int}
    (captured : captureCall host context sessionId = .ok safeId)
    (isSession : IsSession platform bff value session)
    (isNow : bff.currentTime host.clock = .ok now)
    (expired : session.expiresAt ≤ now) :
    (host.readSession safeId = some value →
      ¬ EndsCleanly host (∃ session, IsSession platform bff value session)
        [.revokeSession safeId]
        (authenticate platform bff host context sessionId)) ∧
    (host.consumeSession safeId = some value →
      ¬ EndsCleanly host (∃ session, IsSession platform bff value session) []
        (logout platform bff host context sessionId)) := by
  constructor
  · intro returned
    rw [authenticate_of_expired captured returned isSession isNow expired]
    refine not_endsCleanly ⟨session, isSession⟩ ?_ ⟨_, rfl⟩
    rw [List.forall_mem_singleton]
    intro (fails : host.readSession safeId = none)
    rw [returned] at fails
    cases fails
  · intro returned
    rw [logout_of_expired captured returned isSession isNow expired]
    refine not_endsCleanly ⟨session, isSession⟩ ?_ ⟨_, rfl⟩
    rw [List.forall_mem_singleton]
    intro (fails : host.consumeSession safeId = none)
    rw [returned] at fails
    cases fails

end

/-! ## A session that ended a millisecond ago -/

/-- The address of the issuer. -/
def sampleIssuer : WebUrl where
  href := js "https://issuer.example/"
  protocol := js "https:"
  username := []
  password := []
  hostname := js "issuer.example"
  port := []
  search := []
  hash := []

/-- The parser, on the address of the issuer. -/
def samplePlatform : Platform where
  toConversions := asciiConversions
  newUrl text :=
    if text = js "https://issuer.example/" then some sampleIssuer else none

def sampleBff : HostedOidcBff where
  issuer := sampleIssuer
  allowedIssuerHosts := [js "issuer.example"]
  redirectUri := sampleIssuer
  lastTime := 0

/-- A session that ends with its tokens. -/
def sampleSession : HostedBffSession where
  id := js "session-0123456789abcdef"
  subject := js "https://issuer.example/|user"
  expiresAt := 1000
  tokens := {
    accessToken := none
    refreshToken := none
    idToken := none
    claims := ⟨js "user", none, none⟩
    subjectKey := js "https://issuer.example/|user"
    expiresAt := 1000 }
  organizationId := none
  accessVersion := none

/-- The session, as a store returns it. -/
def sampleSessionValue : JsValue :=
  .object [
    (js "id", .string sampleSession.id),
    (js "subject", .string sampleSession.subject),
    (js "expiresAt", .number (.ofNat 1000)),
    (js "tokens", .object [
      (js "claims", .object [(js "sub", .string (js "user"))]),
      (js "subjectKey", .string sampleSession.subject),
      (js "expiresAt", .number (.ofNat 1000))])]

/-- A store that returns the session, at a millisecond after its end. -/
def sampleSessionHost : HostedHost where
  hasEffects := true
  clock := some (.number (.ofNat 1001))
  readSession _ := some sampleSessionValue
  consumeSession _ := some sampleSessionValue
  revokeSession _ := some .undefined
  endSession := none

def sampleContext : CallContextValue where
  remainingDurationMs := some (.number (.ofNat 1000))
  cancellable := true

theorem isSession_sampleSession :
    IsSession samplePlatform sampleBff sampleSessionValue sampleSession := by
  unfold IsSession
  decide +kernel

/-- The sample meets what the theorem asks for. -/
theorem expired_sampleSession :
    ¬ EndsCleanly sampleSessionHost
        (∃ session, IsSession samplePlatform sampleBff sampleSessionValue session)
        [.revokeSession sampleSession.id]
        (authenticate samplePlatform sampleBff sampleSessionHost sampleContext
          (.string sampleSession.id)) ∧
      ¬ EndsCleanly sampleSessionHost
        (∃ session, IsSession samplePlatform sampleBff sampleSessionValue session)
        []
        (logout samplePlatform sampleBff sampleSessionHost sampleContext
          (.string sampleSession.id)) := by
  have never := expired_session_never_endsCleanly
    (by decide +kernel :
      captureCall sampleSessionHost sampleContext (.string sampleSession.id) =
        .ok sampleSession.id)
    isSession_sampleSession
    (by decide +kernel :
      sampleBff.currentTime sampleSessionHost.clock = .ok 1001)
    (by decide)
  exact ⟨never.1 rfl, never.2 rfl⟩

/-- A session that ended a millisecond ago is answered as a failing store. -/
theorem authenticate_sampleSession :
    ¬ EndsCleanly sampleSessionHost
      (∃ session, IsSession samplePlatform sampleBff sampleSessionValue session)
      [.revokeSession sampleSession.id]
      (authenticate samplePlatform sampleBff sampleSessionHost sampleContext
        (.string sampleSession.id)) := by
  refine not_endsCleanly ⟨sampleSession, isSession_sampleSession⟩ ?_
    ⟨js "OIDC store session is invalid", by decide +kernel⟩
  have calls : (authenticate samplePlatform sampleBff sampleSessionHost sampleContext
      (.string sampleSession.id)).calls = [.readSession sampleSession.id] := by
    decide +kernel
  rw [calls, List.forall_mem_singleton]
  exact nofun

end Selene.Identity
