import GoauthServer.Lib.Json
import GoauthServer.Lib.Utf8
import GoauthServer.Transport.Web

/-!
# The round trip of the session cookie

`encodeSession` writes the session as JSON, encodes the bytes without padding, and joins them by a dot to
a signature; `decodeSession` splits at the first dot, checks the signature and reads the JSON. Here the
two JSON functions are those of `encoding/json` on the struct `oauthSession`: four strings, and a pointer
to a string that is left out where it is nil. An empty scope is a pointer to the empty string, and is
written.

`session_round_trip` says that nothing changes on the way, whatever the texts and the key are:
the escapes of JSON are read back, the runes of the bytes are those of the text, and no dot occurs in the
encoded payload, so the first dot is the one that joins.
-/

namespace GoauthServer

open Base64

/-! ### JSON of a session -/

/-- The members of the object, in the order of the struct. -/
def OauthSession.fields (s : OauthSession) : List (List Char × List Char) :=
  [("state".toList, s.state.toList), ("client_id".toList, s.clientID.toList),
    ("provider".toList, s.provider.toList), ("redirect_uri".toList, s.redirectURI.toList)] ++
    s.scope.toList.map fun scope => ("scope".toList, scope.toList)

/-- `json.Marshal` of an `oauthSession`. -/
def marshalOauthSession (s : OauthSession) : Bytes := Utf8.encode (Json.object s.fields)

/-- The zero value of the struct. -/
def OauthSession.zero : OauthSession where
  state := ""
  clientID := ""
  provider := ""
  redirectURI := ""
  scope := none

/-- `foldName` of a key: letters in upper case. Two more runes fold to a letter of ASCII. -/
def foldName (key : List Char) : List Char :=
  key.map fun c =>
    if c = '\u017F' then 'S' else if c = '\u212A' then 'K' else c.toUpper

/-- The value of a member in a field of type `string`: `null` leaves the field as it is, and what is no
string is an error. -/
def stringField (old : String) : Json.Value → Option String
  | .null => some old
  | .string s => some (String.ofList s)
  | .other => none

/-- The value of a member in a field of type `*string`. -/
def pointerField : Json.Value → Option (Option String)
  | .null => some none
  | .string s => some (some (String.ofList s))
  | .other => none

/-- One member of the object. Names are compared up to case, and others are skipped. -/
def OauthSession.assign (s : OauthSession) (m : List Char × Json.Value) : Option OauthSession :=
  let name := foldName m.1
  if name = "STATE".toList then
    (stringField s.state m.2).map fun v => { s with state := v }
  else if name = "CLIENT_ID".toList then
    (stringField s.clientID m.2).map fun v => { s with clientID := v }
  else if name = "PROVIDER".toList then
    (stringField s.provider m.2).map fun v => { s with provider := v }
  else if name = "REDIRECT_URI".toList then
    (stringField s.redirectURI m.2).map fun v => { s with redirectURI := v }
  else if name = "SCOPE".toList then
    (pointerField m.2).map fun v => { s with scope := v }
  else some s

/-- `json.Unmarshal` into a new `oauthSession`. -/
def unmarshalOauthSession (payload : Bytes) : Option OauthSession :=
  match Json.parse (Utf8.runes payload) with
  | some (.object ms) => ms.foldlM OauthSession.assign OauthSession.zero
  | some (.value .null) => some OauthSession.zero
  | _ => none

/-- The members of a session, assigned one after the other, give the session. -/
theorem foldlM_assign_fields (s : OauthSession) :
    (s.fields.map Json.seen).foldlM OauthSession.assign OauthSession.zero = some s := by
  obtain ⟨state, clientID, provider, redirectURI, scope⟩ := s
  -- the scope is a member of its own, or none
  cases scope <;>
    simp [OauthSession.fields, Json.seen, OauthSession.assign, foldName, stringField, pointerField,
      OauthSession.zero]

/-- **The round trip through JSON.** -/
theorem unmarshal_marshal (s : OauthSession) : unmarshalOauthSession (marshalOauthSession s) = some s := by
  unfold unmarshalOauthSession marshalOauthSession
  rw [Utf8.runes_encode, Json.parse_object]
  exact foldlM_assign_fields s

/-! ### The cookie -/

/-- The web handlers with `encoding/json`. -/
def WebEnv.withJSON (env : WebEnv) : WebEnv :=
  { env with marshalSession := marshalOauthSession, unmarshalSession := unmarshalOauthSession }

theorem WebEnv.withJSON_marshalSession (env : WebEnv) :
    env.withJSON.marshalSession = marshalOauthSession := rfl

theorem WebEnv.withJSON_unmarshalSession (env : WebEnv) :
    env.withJSON.unmarshalSession = unmarshalOauthSession := rfl

/-- A cookie that was encoded is decoded if its JSON is. -/
theorem decodeSession_of_unmarshal {env : WebEnv} {s : OauthSession}
    (h : env.unmarshalSession (env.marshalSession s) = some s) :
    decodeSession env (encodeSession env s) = .ok s := by
  have hpayload : decode rawURL (env.sessionPayload s) = some (env.marshalSession s) :=
    decode_encode rawURL_lawful _
  unfold decodeSession
  rw [splitFirst_encodeSession]
  dsimp only
  rw [decode_encode rawURL_lawful]
  dsimp only
  rw [if_neg (not_not.mpr rfl), hpayload]
  dsimp only
  rw [h]

/-- **The round trip of the cookie**, for every session and every server, in particular for every
key. -/
theorem session_round_trip (env : WebEnv) (s : OauthSession) :
    decodeSession env.withJSON (encodeSession env.withJSON s) = .ok s := by
  apply decodeSession_of_unmarshal
  rw [WebEnv.withJSON_marshalSession, WebEnv.withJSON_unmarshalSession]
  exact unmarshal_marshal s

end GoauthServer
