import Mathlib.Data.List.TakeWhile
import ReviewQuery.Client.Transport
import ReviewQuery.Proofs.Text.Base64
import ReviewQuery.Proofs.Text.Span

/-!
# The header gives the credential back

A server takes the token of a header out of Base64, reads the octets as UTF-8 and splits the text at
its first colon.  The text is the user name and the password with a colon between them, so what the
server finds is the credential exactly if no colon stands in the user name.  Two credentials share a
header exactly if the colon does not tell them apart.
-/

namespace ReviewQuery

namespace Credential

/-! ## The text of a credential -/

/-- The user name and the password with a colon between them. -/
def pair (credential : Credential) : String :=
  credential.username ++ ":" ++ credential.password

/-- The user name in front of the first colon and the password behind it. -/
def ofPair? (pair : List Char) : Option Credential :=
  match pair.dropWhile (· ≠ ':') with
  | [] => none
  | _ :: password => some ⟨String.ofList (pair.takeWhile (· ≠ ':')), String.ofList password⟩

/-- A user name that is read holds no colon. -/
theorem colon_not_mem_of_ofPair?
    {text : List Char}
    {credential : Credential}
    (read : ofPair? text = some credential) :
    ':' ∉ credential.username.toList := by
  unfold ofPair? at read
  split at read
  · cases read
  · cases read
    intro member
    rw [String.toList_ofList] at member
    simpa using List.mem_takeWhile_imp member

/-- The credential is read back unless the first colon belongs to the user name. -/
theorem ofPair?_pair_iff (credential : Credential) :
    ofPair? credential.pair.toList = some credential ↔ ':' ∉ credential.username.toList := by
  constructor
  · exact colon_not_mem_of_ofPair?
  · intro noColon
    have split :
        credential.pair.toList =
          credential.username.toList ++ ':' :: credential.password.toList := by
      simp [pair]
    simp only [ofPair?, split, Text.dropWhile_ne_append_cons noColon,
      Text.takeWhile_ne_append_cons noColon, String.ofList_toList]

/-! ## The header -/

theorem authorization_inj {left right : Credential} :
    left.authorization = right.authorization ↔ left.pair = right.pair := by
  constructor
  · intro same
    have token := String.ofList_inj.mp (String.append_right_inj _ |>.mp same)
    exact String.toList_inj.mp (Text.Utf8.encode_injective (Text.Base64.encode_injective token))
  · intro same
    rw [authorization, authorization]
    exact congrArg (fun pair => "Basic " ++ String.ofList (Text.Base64.encode pair))
      (congrArg Text.Utf8.ofString same)

/-- Without a colon in their user names different credentials have different headers. -/
theorem authorization_inj_of_no_colon
    {left right : Credential}
    (leftPlain : ':' ∉ left.username.toList)
    (rightPlain : ':' ∉ right.username.toList) :
    left.authorization = right.authorization ↔ left = right := by
  rw [authorization_inj]
  constructor
  · intro same
    have read := (ofPair?_pair_iff left).mpr leftPlain
    rw [same, (ofPair?_pair_iff right).mpr rightPlain] at read
    exact (Option.some.inj read).symm
  · rintro rfl
    rfl

/-- Every request carries the header of its credential. -/
theorem authorization_of_mem_sent
    {octets : Http.Octets}
    {address : String}
    {credential : Credential}
    {request : WireRequest}
    (sent : request ∈ (Transport.wire octets address credential).sent) :
    request.authorization = credential.authorization := by
  rw [List.mem_singleton.mp sent]

end Credential

/-! ## What a server learns -/

/--
The header of a credential is a token in Base64, and decoding the token gives the octets of the user
name, a colon and the password.  So credentials share a header exactly if these texts are the same.
Splitting the text at its first colon gives back the credential exactly if the user name holds no
colon, and such credentials share no header.
-/
theorem authorization_decodes (credential : Credential) :
    ∃ token : List Char,
      credential.authorization = "Basic " ++ String.ofList token ∧
      Text.Base64.IsFilled token ∧
      Text.Base64.decode token =
        some (Text.Utf8.ofString (credential.username ++ ":" ++ credential.password)) ∧
      (((Text.Base64.decode token).bind Text.Utf8.decode).bind Credential.ofPair? =
          some credential ↔
        ':' ∉ credential.username.toList) ∧
      (∀ other : Credential,
        other.authorization = credential.authorization ↔
          other.username ++ ":" ++ other.password =
            credential.username ++ ":" ++ credential.password) ∧
      (∀ other : Credential,
        ':' ∉ other.username.toList → ':' ∉ credential.username.toList →
          (other.authorization = credential.authorization ↔ other = credential)) ∧
      ∀ (octets : Http.Octets) (address : String),
        ∀ request ∈ (Transport.wire octets address credential).sent,
          request.authorization = credential.authorization := by
  have decoded := Text.Base64.decode_encode (Text.Utf8.ofString credential.pair)
  refine ⟨Text.Base64.encode (Text.Utf8.ofString credential.pair), rfl,
    Text.Base64.isFilled_encode _, decoded, ?_, ?_, ?_, ?_⟩
  · rw [decoded, Option.bind_some, Text.Utf8.ofString, Text.Utf8.decode_encode, Option.bind_some]
    exact Credential.ofPair?_pair_iff credential
  · intro other
    exact Credential.authorization_inj
  · intro other otherPlain plain
    exact Credential.authorization_inj_of_no_colon otherPlain plain
  · intro octets address request sent
    exact Credential.authorization_of_mem_sent sent

/-- A colon in a user name makes two credentials share a header; an empty user name is kept apart
from every other. -/
theorem authorization_decodes_of_colons :
    (⟨"a:b", "c"⟩ : Credential).authorization = (⟨"a", "b:c"⟩ : Credential).authorization ∧
      ((⟨"", "é\r\n:"⟩ : Credential).authorization = (⟨"é", ":"⟩ : Credential).authorization ↔
        (⟨"", "é\r\n:"⟩ : Credential) = ⟨"é", ":"⟩) := by
  rcases authorization_decodes ⟨"a", "b:c"⟩ with ⟨_, _, _, _, _, shared, _⟩
  rcases authorization_decodes ⟨"é", ":"⟩ with ⟨_, _, _, _, _, _, apart, _⟩
  exact ⟨(shared ⟨"a:b", "c"⟩).mpr (by decide), apart ⟨"", "é\r\n:"⟩ (by decide) (by decide)⟩

end ReviewQuery
