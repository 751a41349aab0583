import QuotaWatch.Credential.Base64
import QuotaWatch.Json.Print
import QuotaWatch.Json.Decode
/-!
**The signed-in identity, from the credential file.**

The file's `tokens.id_token` carries a second segment of base64url JSON claims, decoded and never
verified. The identity is the `email` and `sub` claims and an account id from the first non-empty
of `tokens.account_id`, `account_id` and the `chatgpt_account_id` claim, strings only. Failures
come in order: not an object, no id token, malformed token, no email.
-/

namespace QuotaWatch

/-- Why a credential gives no identity. -/
inductive CredentialError where
  /-- The file is not a JSON object; the reader's complaint when it had one. -/
  | invalidJson (detail : Option String)
  | missingToken
  /-- The token is malformed, with the reason. -/
  | invalidToken (detail : String)
  | missingEmail
  | fileNotFound (path : String)
  deriving Inhabited, DecidableEq

/-- The message of a credential error. -/
def CredentialError.message : CredentialError → String
  | .invalidJson none => "auth file is not a JSON object"
  | .invalidJson (some d) => "auth file is not a JSON object: " ++ d
  | .missingToken => "auth file has no id token"
  | .invalidToken d => "id token is malformed: " ++ d
  | .missingEmail => "id token has no email claim"
  | .fileNotFound p => "auth file not found: " ++ p

namespace Json

mutual

/-- A document as a reader that takes every number as a double sees it: numbers in document
form, objects with the last member of each name; `none` when a number is out of range. -/
def generic? : Json → Option Json
  | .num lit => (litFloat? lit).map ofFloat
  | .arr xs => (genericItems? xs).map .arr
  | .obj fs => (genericFields? fs).map fun gs => (Json.obj gs).sortKeys
  | j => some j

def genericItems? : List Json → Option (List Json)
  | [] => some []
  | x :: rest => do return (← generic? x) :: (← genericItems? rest)

def genericFields? : List (String × Json) → Option (List (String × Json))
  | [] => some []
  | (k, v) :: rest => do return (k, ← generic? v) :: (← genericFields? rest)

end

/-- The string value of a member, when it is a string. -/
def getString? (j : Json) (k : String) : Option String :=
  match j.get? k with
  | some (.str s) => some s
  | _ => none

end Json

/-- The dot-separated segments of a token. -/
def tokenSegments (token : String) : List String := (token.toList.splitOn '.').map String.ofList

/-- The claims of a token: its second segment, padded and decoded, must be a JSON object. -/
def tokenClaims (token : String) : Except CredentialError Json :=
  let parts := tokenSegments token
  match parts with
  | _ :: seg :: _ =>
    match Base64.decode (Base64.padded (Utf8.bytesOf seg)) with
    | .error pos => .error (.invalidToken ("illegal base64 data at input byte " ++ toString pos))
    | .ok payload =>
      match Json.parseBytes payload with
      | .ok (.obj fs) =>
        match (Json.obj fs).generic? with
        | some c => .ok c
        | none => .error (.invalidToken "payload is not a JSON object")
      | _ => .error (.invalidToken "payload is not a JSON object")
  | _ => .error (.invalidToken (toString parts.length ++ " segments"))

/-- The account a credential belongs to. -/
structure Identity where
  email : String
  subject : String := ""
  accountId : String := ""
  deriving Inhabited, DecidableEq

/-- The first non-empty text. -/
def firstNonEmpty (xs : List String) : String := (xs.find? (· ≠ "")).getD ""

/-- The identity of a credential file's content. -/
def Identity.ofBytes (data : List UInt8) : Except CredentialError Identity :=
  match Json.parseBytes data with
  | .error e => .error (.invalidJson (some e.message))
  | .ok .null => .error (.invalidJson none)
  | .ok (.obj _) =>
    let file := (Json.parseBytes data).toOption.getD .null
    match file.get? "tokens" with
    | some (.obj ts) =>
      let tokens := Json.obj ts
      match tokens.getString? "id_token" with
      | none => .error .missingToken
      | some tok =>
        match tokenClaims tok with
        | .error e => .error e
        | .ok claims =>
          let email := (claims.getString? "email").getD ""
          if email = "" then .error .missingEmail
          else
            let nested := match claims.get? "https://api.openai.com/auth" with
              | some n => (n.getString? "chatgpt_account_id").getD ""
              | none => ""
            .ok ⟨email, (claims.getString? "sub").getD "",
              firstNonEmpty [(tokens.getString? "account_id").getD "",
                (file.getString? "account_id").getD "", nested]⟩
    | _ => .error .missingToken
  | .ok j => .error (.invalidJson (some ("json: cannot unmarshal " ++ j.kindName ++
      " into Go value of type map[string]json.RawMessage")))

end QuotaWatch
