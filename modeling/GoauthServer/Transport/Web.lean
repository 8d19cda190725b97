import GoauthServer.Lib.Text
import GoauthServer.Service.Authorization

/-!
# The web flow

`internal/transport/http/web/handler`: the two steps a browser takes through the server, `Login` and
`Callback`. Between them the server keeps nothing. What the second step has to know of the first is in a
cookie, signed with HMAC-SHA256 under the session signing key (`session.go`). There is no time in it.

A handler starts from the parameters of the request, where an absent one is `""`. Logging, metrics and
the attributes of cookies are left out.
-/

namespace GoauthServer

open Interact Base64

/-- `oauthSession`. -/
structure OauthSession where
  state : String
  clientID : String
  provider : String
  redirectURI : String
  scope : Option String
  deriving DecidableEq

/-- What the web handlers are given: the auth service, the configuration of the server, and functions of
other packages. -/
structure WebEnv where
  auth : Env
  scheme : String
  hostName : String
  port : String
  /-- `json.Marshal` and `json.Unmarshal` of a session. -/
  marshalSession : OauthSession → Bytes
  unmarshalSession : Bytes → Option OauthSession
  /-- `oauth2.Config.AuthCodeURL`, of provider, callback URL and state. -/
  authCodeURL : OAuthProviderWithSecret → (callbackURL state : String) → String
  /-- The redirect URI with its query parameter `code` set, if it parses. -/
  redirectWithCode : (redirectURI code : String) → Option String

/-- The signing key of `RegisterRoutes`: empty if the configured one is not hexadecimal. -/
def WebEnv.signingKey (env : WebEnv) : Bytes :=
  (env.auth.lib.hexDecode env.auth.cfg.sessionSigningKey).getD []

/-! ### The session cookie -/

/-- The first part of a cookie, which is signed. -/
def WebEnv.sessionPayload (env : WebEnv) (s : OauthSession) : List Char :=
  encode rawURL (env.marshalSession s)

/-- The signature of a cookie. -/
def WebEnv.sessionTag (env : WebEnv) (b64Payload : List Char) : Bytes :=
  env.auth.lib.hmac .sha256 env.signingKey b64Payload

/-- `encodeSession`. -/
def encodeSession (env : WebEnv) (s : OauthSession) : String :=
  let b64Payload := env.sessionPayload s
  String.ofList (b64Payload ++ '.' :: encode rawURL (env.sessionTag b64Payload))

/-- `decodeSession`. -/
def decodeSession (env : WebEnv) (cookieValue : String) : Except AuthError OauthSession :=
  match Text.splitFirst '.' cookieValue.toList with
  | (_, none) => .error (.text "malformed session cookie")
  | (b64Payload, some b64Sig) =>
    match decode rawURL b64Sig with
    | none => .error (.text "invalid session signature encoding")
    | some gotSig =>
      if env.sessionTag b64Payload ≠ gotSig then
        .error (.text "session cookie signature mismatch")
      else
        match decode rawURL b64Payload with
        | none => .error (.text "invalid session payload encoding")
        | some payload =>
          match env.unmarshalSession payload with
          | none => .error (.text "malformed session payload")
          | some s => .ok s

/-- What `decodeSession` has checked when it accepts. -/
theorem decodeSession_ok {env : WebEnv} {cookie : String} {s : OauthSession}
    (h : decodeSession env cookie = .ok s) :
    ∃ b64Payload b64Sig payload, Text.splitFirst '.' cookie.toList = (b64Payload, some b64Sig) ∧
      decode rawURL b64Sig = some (env.sessionTag b64Payload) ∧
      decode rawURL b64Payload = some payload ∧ env.unmarshalSession payload = some s := by
  unfold decodeSession at h
  split at h
  · cases h
  next b64Payload b64Sig hsplit =>
  split at h
  · cases h
  next gotSig hsig =>
  split at h
  · cases h
  next htag =>
  split at h
  · cases h
  next payload hpayload =>
  split at h
  · cases h
  next s' hs =>
  obtain rfl := Except.ok.inj h
  rw [← not_not.mp htag] at hsig
  exact ⟨b64Payload, b64Sig, payload, hsplit, hsig, hpayload, hs⟩

/-- The parts of a cookie that was encoded. -/
theorem splitFirst_encodeSession (env : WebEnv) (s : OauthSession) :
    Text.splitFirst '.' (encodeSession env s).toList =
      (env.sessionPayload s, some (encode rawURL (env.sessionTag (env.sessionPayload s)))) := by
  unfold encodeSession
  rw [String.toList_ofList]
  exact Text.splitFirst_append (dot_notMem_encode rawURL_lawful _) _

/-! ### Responses -/

/-- The body of a response. -/
inductive WebBody where
  | error (message : String)
  /-- An error that the provider returned, with its description. -/
  | providerError (error description : String)
  /-- A redirection. -/
  | location (url : String)
  deriving DecidableEq

/-- A response: its status and body, and the value of the session cookie if it sets it (`""` clears
it). -/
structure WebReply where
  status : ℕ
  body : WebBody
  setCookie : Option String := none
  deriving DecidableEq

/-- `handleLoginError`. -/
def handleLoginError (e : AuthError) : WebReply :=
  match e.root with
  | .clientNotFound | .clientInactive => ⟨404, .error "client not found or inactive", none⟩
  | .invalidRedirectURI =>
    ⟨400, .error "redirect_uri is not registered for this client", none⟩
  | .providerNotFound => ⟨404, .error "provider not found for this client", none⟩
  | .providerDisabled => ⟨400, .error "provider is disabled", none⟩
  | _ => ⟨500, .error "internal server error", none⟩

/-- `handleCallbackError`. The cookie was cleared before. -/
def handleCallbackError (e : AuthError) : WebReply :=
  match e.root with
  | .clientNotFound | .clientInactive => ⟨401, .error "client not found or inactive", some ""⟩
  | .providerNotFound => ⟨404, .error "provider not found for this client", some ""⟩
  | .providerDisabled => ⟨400, .error "provider is disabled", some ""⟩
  | _ => ⟨500, .error "authentication failed", some ""⟩

/-! ### Handlers -/

/-- `buildCallbackURL`. -/
def WebEnv.buildCallbackURL (env : WebEnv) (clientID : UUID) (providerName : String) : String :=
  let hostPort :=
    if env.port ≠ "" && env.port ≠ "80" && env.port ≠ "443" then env.hostName ++ ":" ++ env.port
    else env.hostName
  env.scheme ++ "://" ++ hostPort ++ "/web/auth/" ++ env.auth.lib.uuidString clientID ++ "/" ++
    providerName ++ "/callback"

/-- The parameters of a login. -/
structure WebLogin where
  clientID : String
  provider : String
  redirectURI : String
  scope : String
  deriving DecidableEq

/-- The session that a login begins. -/
def WebLogin.session (env : WebEnv) (r : WebLogin) (clientID : UUID) (state : String) : OauthSession :=
  { state := state, clientID := env.auth.lib.uuidString clientID, provider := r.provider
    redirectURI := r.redirectURI, scope := strPtr r.scope }

/-- `Login`. -/
def webLogin (env : WebEnv) (r : WebLogin) : Call WebReply :=
  match env.auth.lib.uuidParse r.clientID with
  | none => .ret ⟨400, .error "invalid client_id; must be a UUID", none⟩
  | some clientID =>
    if r.provider = "" then .ret ⟨400, .error "missing provider", none⟩
    else if r.redirectURI = "" then .ret ⟨400, .error "redirect_uri is required", none⟩
    else
      Call.randBytes 32 fun
      | none => .ret ⟨500, .error "internal server error", none⟩
      | some bytes =>
        let state := secureToken bytes
        (initiateAuthorization env.auth env.authCodeURL clientID r.provider
          (env.buildCallbackURL clientID r.provider) r.redirectURI state).bind fun
        | .error e => .ret (handleLoginError e)
        | .ok authURL =>
          .ret ⟨307, .location authURL, some (encodeSession env (r.session env clientID state))⟩

/-- The parameters of a callback. The cookie is what the browser sends under the name
`oauth_session`. -/
structure WebCallback where
  clientID : String
  provider : String
  error : String
  errorDescription : String
  code : String
  state : String
  cookie : Option String
  deriving DecidableEq

/-- The last part of `Callback`, for a session that fits the request. -/
def finishCallback (env : WebEnv) (r : WebCallback) (clientID : UUID) (session : OauthSession) :
    Call WebReply :=
  (handleProviderCallback env.auth clientID r.provider r.code
    (env.buildCallbackURL clientID r.provider) session.redirectURI session.scope).bind fun
  | .error e => .ret (handleCallbackError e)
  | .ok authCode =>
    match env.redirectWithCode session.redirectURI authCode with
    | none => .ret ⟨500, .error "invalid redirect URI", some ""⟩
    | some url => .ret ⟨302, .location url, some ""⟩

/-- `Callback`. -/
def webCallback (env : WebEnv) (r : WebCallback) : Call WebReply :=
  match env.auth.lib.uuidParse r.clientID with
  | none => .ret ⟨400, .error "invalid client_id; must be a UUID", none⟩
  | some clientID =>
    if r.provider = "" then .ret ⟨400, .error "missing provider", none⟩
    else if r.error ≠ "" then .ret ⟨400, .providerError r.error r.errorDescription, none⟩
    else if r.code = "" || r.state = "" then
      .ret ⟨400, .error "missing code or state parameter", none⟩
    else
      match r.cookie with
      | none => .ret ⟨400, .error "missing session cookie; please restart the login flow", none⟩
      | some cookieVal =>
        match decodeSession env cookieVal with
        | .error _ => .ret ⟨400, .error "invalid session; please restart the login flow", none⟩
        | .ok session =>
          if r.state ≠ session.state then
            .ret ⟨400, .error "state mismatch; possible CSRF attack", some ""⟩
          else if session.clientID ≠ env.auth.lib.uuidString clientID ||
              session.provider ≠ r.provider then
            .ret ⟨400, .error "session context mismatch; please restart the login flow", some ""⟩
          else finishCallback env r clientID session

end GoauthServer
