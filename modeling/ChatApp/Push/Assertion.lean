/-
  The request with which `FcmManager::get_access_token` asks for an access token. It carries a JSON
  web token: a header and the claims as JSON, and a signature over both, each in base64 for URLs
  and with a dot between them.

  `readAssertion` is what the endpoint does with the request before it checks the signature.
-/
import ChatApp.Lib.Base64Url
import ChatApp.Lib.FormUrl
import ChatApp.Lib.JsonDump
import ChatApp.Lib.Utf8Decode

namespace ChatApp.Push.Fcm

open ChatApp.Lib ChatApp.Lib.JsonText

/-! ## The request -/

/-- `base64_url_encode` -/
def base64UrlEncode (input : List UInt8) : List UInt8 :=
  let result := Base64.encodePadded input
  let result := result.map fun c => if c = 43 then 45 else c
  let result := result.map fun c => if c = 47 then 95 else c
  result.filter (· ≠ Base64.pad)

/-- What is read from the file with the key. -/
structure ServiceAccount where
  clientEmail : String
  privateKey : String
  tokenUri : String

def jwtHeader : Value := .object [
  ("alg".toList, .string "RS256".toList), ("typ".toList, .string "JWT".toList)]

def scope : String := "https://www.googleapis.com/auth/firebase.messaging"

/-- `json` keeps the members in the order of their names. -/
def jwtPayload (a : ServiceAccount) (now : Int) : Value := .object [
  ("aud".toList, .string a.tokenUri.toList), ("exp".toList, .number (now + 3600) 0),
  ("iat".toList, .number now 0), ("iss".toList, .string a.clientEmail.toList),
  ("scope".toList, .string scope.toList)]

/-- `sign_input` -/
def signInput (a : ServiceAccount) (now : Int) : List UInt8 :=
  base64UrlEncode (utf8 (dump jwtHeader)) ++ 46 :: base64UrlEncode (utf8 (dump (jwtPayload a now)))

def jwt (a : ServiceAccount) (now : Int) (signature : List UInt8) : List UInt8 :=
  signInput a now ++ 46 :: base64UrlEncode signature

def grantType : List Char := "urn:ietf:params:oauth:grant-type:jwt-bearer".toList

/-- `post_data` -/
def postData (jwt : List UInt8) : List UInt8 :=
  utf8 ("grant_type=".toList ++ grantType ++ "&assertion=".toList) ++ jwt

/-! ## The endpoint -/

/-- A JSON document in a part of the token -/
def readJson (part : List UInt8) : Option Value :=
  ((Base64.decodeUrl part).bind Utf8.decode).bind parse

/-- A token in its parts, and what the signature has to be of -/
structure Assertion where
  header : Value
  claims : Value
  signed : List UInt8
  signature : List UInt8

def readJwt (token : List UInt8) : Option Assertion :=
  match token.splitOn 46 with
  | [header, claims, signature] => do
    return ⟨← readJson header, ← readJson claims, header ++ 46 :: claims,
      ← Base64.decodeUrl signature⟩
  | _ => none

/-- The assertion of a request for an access token -/
def readAssertion (body : List UInt8) : Option Assertion :=
  match FormUrl.decode body with
  | [(grant, grantValue), (assertion, token)] =>
    if grant = utf8 "grant_type".toList ∧ grantValue = utf8 grantType ∧
        assertion = utf8 "assertion".toList then readJwt token
    else none
  | _ => none

/-! ## Reading the request -/

section
variable {a : ServiceAccount} {now : Int} {input signature : List UInt8}

theorem base64UrlEncode_eq (input : List UInt8) :
    base64UrlEncode input = Base64.encodeUrl input := by
  rw [← Base64.encodePadded_url]
  show (((Base64.encodePadded input).map _).map _).filter _ = _
  rw [List.map_map]
  refine congrArg (List.filter _) (List.map_congr_left fun c _ => ?_)
  show (if (if c = 43 then 45 else c) = 47 then 95 else if c = 43 then 45 else c) =
    Base64.urlSign c
  unfold Base64.urlSign
  by_cases hplus : c = 43
  · rw [if_pos hplus, if_pos hplus]
    rfl
  · rw [if_neg hplus, if_neg hplus]

/-- None of the separators of the token and of the form is a sign of the alphabet. -/
theorem plain_of_urlSafe {c : UInt8} (h : Base64.UrlSafe c) : c ≠ 46 ∧ FormUrl.Plain c := by
  have hne : ∀ d : UInt8, ¬ Base64.UrlSafe d → c ≠ d := fun d hd heq => hd (heq ▸ h)
  exact ⟨hne 46 (by decide), hne 43 (by decide), hne 37 (by decide), hne 38 (by decide),
    hne 61 (by decide)⟩

theorem plain_encode {c : UInt8} (h : c ∈ base64UrlEncode input) : c ≠ 46 ∧ FormUrl.Plain c :=
  plain_of_urlSafe (Base64.urlSafe_encodeUrl input c (base64UrlEncode_eq input ▸ h))

theorem dot_not_mem (input : List UInt8) : 46 ∉ base64UrlEncode input :=
  fun h => (plain_encode h).1 rfl

theorem readJson_encode {v : Value} (h : Integral v) :
    readJson (base64UrlEncode (utf8 (dump v))) = some v := by
  rw [readJson, base64UrlEncode_eq, Base64.decodeUrl_encodeUrl, Option.bind_some,
    Utf8.decode_utf8, Option.bind_some, parse_dump h]

theorem integral_jwtPayload : Integral (jwtPayload a now) :=
  ⟨trivial, rfl, rfl, trivial, trivial, trivial⟩

theorem integral_jwtHeader : Integral jwtHeader := ⟨trivial, trivial, trivial⟩

theorem readJwt_jwt : readJwt (jwt a now signature) =
    some ⟨jwtHeader, jwtPayload a now, signInput a now, signature⟩ := by
  have hparts : (jwt a now signature).splitOn 46 = [base64UrlEncode (utf8 (dump jwtHeader)),
      base64UrlEncode (utf8 (dump (jwtPayload a now))), base64UrlEncode signature] := by
    rw [jwt, signInput, List.append_assoc, List.cons_append,
      List.splitOn_append_cons_self_of_not_mem (dot_not_mem _),
      List.splitOn_append_cons_self_of_not_mem (dot_not_mem _),
      List.splitOn_eq_singleton (dot_not_mem _)]
  rw [readJwt, hparts]
  dsimp only
  rw [readJson_encode integral_jwtHeader, readJson_encode integral_jwtPayload,
    base64UrlEncode_eq signature, Base64.decodeUrl_encodeUrl]
  rfl

theorem plain_texts : (∀ c ∈ utf8 "grant_type".toList, FormUrl.Plain c) ∧
    (∀ c ∈ utf8 grantType, FormUrl.Plain c) ∧ ∀ c ∈ utf8 "assertion".toList, FormUrl.Plain c := by
  decide +kernel

theorem plain_jwt : ∀ c ∈ jwt a now signature, FormUrl.Plain c := by
  have hdot : FormUrl.Plain 46 := by decide
  intro c hc
  rw [jwt, signInput] at hc
  simp only [List.mem_append, List.mem_cons] at hc
  rcases hc with (hc | rfl | hc) | rfl | hc
  · exact (plain_encode hc).2
  · exact hdot
  · exact (plain_encode hc).2
  · exact hdot
  · exact (plain_encode hc).2

theorem decode_postData : FormUrl.decode (postData (jwt a now signature)) =
    [(utf8 "grant_type".toList, utf8 grantType),
      (utf8 "assertion".toList, jwt a now signature)] := by
  have hjoin : postData (jwt a now signature) = FormUrl.join [
      (utf8 "grant_type".toList, utf8 grantType),
      (utf8 "assertion".toList, jwt a now signature)] := by
    have hfront : utf8 ("grant_type=".toList ++ grantType ++ "&assertion=".toList) =
        utf8 "grant_type".toList ++ 61 :: (utf8 grantType ++
          38 :: (utf8 "assertion".toList ++ [61])) := by
      decide
    rw [postData, hfront]
    simp [FormUrl.join, List.intercalate]
  rw [hjoin]
  refine FormUrl.decode_join (List.cons_ne_nil _ _) ?_
  simp only [List.forall_mem_cons]
  obtain ⟨hgrant, htype, hassertion⟩ := plain_texts
  exact ⟨⟨hgrant, htype⟩, ⟨hassertion, plain_jwt⟩, fun _ h => absurd h List.not_mem_nil⟩

/-- The endpoint reads the claims of the account and of the moment, whatever texts they are, and
    the signature over the part of the token that it is checked against. -/
theorem readAssertion_postData : readAssertion (postData (jwt a now signature)) =
    some ⟨jwtHeader, jwtPayload a now, signInput a now, signature⟩ := by
  rw [readAssertion, decode_postData]
  dsimp only
  rw [if_pos ⟨rfl, rfl, rfl⟩, readJwt_jwt]

end

end ChatApp.Push.Fcm
