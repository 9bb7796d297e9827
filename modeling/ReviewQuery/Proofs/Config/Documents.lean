import ReviewQuery.Config.Document
import ReviewQuery.Proofs.Json.RecordSlots

/-!
# The documents of a configuration

A configuration is read from exactly those documents that have its settings.  An object has them if
each setting comes once, the proxy perhaps not at all, in any order and among any other members.  An
array has them if it lists the three, where a proxy that is null stands for none.  A credential
comes in the same two forms, so that there are four ways to write the same settings.
-/

namespace ReviewQuery

open Json (Document Reader Record Slot)

namespace Json.Document

/-! ## Settings of a document -/

/-- The documents of a credential: an object in which the user name and the password come once, or
an array of the two. -/
inductive IsCredential : Document → Credential → Prop where
  | object
      {members : List (String × Document)}
      {username password : String}
      (oneUsername : valuesOf "username" members = [.string username])
      (onePassword : valuesOf "password" members = [.string password]) :
      IsCredential (.object members) ⟨username, password⟩
  | array (username password : String) :
      IsCredential (.array [.string username, .string password]) ⟨username, password⟩

/-- The documents of a proxy, of which a null stands for none. -/
inductive IsProxy : Document → Option String → Prop where
  | null : IsProxy .null none
  | string (proxy : String) : IsProxy (.string proxy) (some proxy)

/-- The documents that may stand for the proxy in an object: at most one. -/
inductive AreProxy : List Document → Option String → Prop where
  | absent : AreProxy [] none
  | once
      {document : Document}
      {proxy : Option String}
      (isProxy : document.IsProxy proxy) :
      AreProxy [document] proxy

/-- The documents with the settings of a configuration. -/
inductive HasSettings : Document → String → Option String → Credential → Prop where
  | object
      {members : List (String × Document)}
      {baseUrl : String}
      {proxy : Option String}
      {document : Document}
      {credential : Credential}
      (oneBaseUrl : valuesOf "base_url" members = [.string baseUrl])
      (proxies : AreProxy (valuesOf "proxy" members) proxy)
      (oneCredential : valuesOf "credential" members = [document])
      (isCredential : document.IsCredential credential) :
      HasSettings (.object members) baseUrl proxy credential
  | array
      (baseUrl : String)
      {first second : Document}
      {proxy : Option String}
      {credential : Credential}
      (isProxy : first.IsProxy proxy)
      (isCredential : second.IsCredential credential) :
      HasSettings (.array [.string baseUrl, first, second]) baseUrl proxy credential

theorem string?_eq_some_iff {document : Document} {text : String} :
    document.string? = some text ↔ document = .string text := by
  cases document <;> simp [string?]

theorem optionalString?_eq_some_iff {document : Document} {proxy : Option String} :
    document.optionalString? = some proxy ↔ document.IsProxy proxy := by
  constructor
  · intro meant
    cases document with
    | null =>
        cases meant
        exact .null
    | string text =>
        cases meant
        exact .string text
    | bool value => cases meant
    | number text => cases meant
    | array items => cases meant
    | object members => cases meant
  · intro isProxy
    cases isProxy <;> rfl

end Json.Document

open Json.Document

/-! ## Credentials -/

namespace Credential

/-- The user name of a credential. -/
def usernameSlot : Slot Draft :=
  .ofText "username" Draft.username (fun draft username => { draft with username := some username })
    fun _ _ => rfl

/-- The password of a credential. -/
def passwordSlot : Slot Draft :=
  .ofText "password" Draft.password (fun draft password => { draft with password := some password })
    fun _ _ => rfl

theorem hasSlots : record.HasSlots [usernameSlot, passwordSlot] where
  members_eq := rfl
  apart := by
    rw [List.pairwise_pair]
    exact ⟨by decide, fun _ _ => rfl, fun _ _ => rfl⟩
  ext := by
    rintro ⟨username, password⟩ ⟨username', password'⟩ same
    rw [List.forall_mem_cons, List.forall_mem_singleton] at same
    rw [Draft.mk.injEq]
    exact same

/-- Each of the two strings of a credential is filled from the members with its name. -/
theorem addMembers?_eq_some_iff
    {draft result : Draft}
    {members : List (String × Document)} :
    record.addMembers? draft members = some result ↔
      Fills Document.string? draft.username (valuesOf "username" members) result.username ∧
        Fills Document.string? draft.password (valuesOf "password" members) result.password := by
  rw [hasSlots.addMembers?_eq_some_iff, List.forall_mem_cons, List.forall_mem_singleton]
  exact Iff.rfl

/-- The items of an array are the two strings of a credential in their order. -/
theorem addItems?_eq_some_iff {items : List Document} {username password : String} :
    Record.addItems? record.members record.blank items = some ⟨some username, some password⟩ ↔
      items = [.string username, .string password] := by
  rw [hasSlots.members_eq, Slot.addItems?_eq_some_iff]
  constructor
  · intro lists
    cases lists with
    | left isOptional _ => cases isOptional
    | item isUsername others =>
        cases others with
        | left isOptional _ => cases isOptional
        | item isPassword others =>
            rcases others with ⟨same⟩
            cases same
            rw [string?_eq_some_iff.mp isUsername, string?_eq_some_iff.mp isPassword]
  · rintro rfl
    have isUsername : usernameSlot.meaning (.string username) = some username := rfl
    have isPassword : passwordSlot.meaning (.string password) = some password := rfl
    exact .item isUsername (.item isPassword (.done rfl))

theorem build_eq_ok_iff {draft : Draft} {username password : String} :
    (record.build draft).toOption = some ⟨username, password⟩ ↔
      draft = ⟨some username, some password⟩ := by
  rcases draft with ⟨_ | _, _ | _⟩ <;> simp [record, Except.toOption]

/-- A credential is taken from its documents and from no others. -/
theorem ofDocument?_eq_some_iff {document : Document} {credential : Credential} :
    record.ofDocument? document = some credential ↔ document.IsCredential credential := by
  rcases credential with ⟨username, password⟩
  have drafted :
      record.ofDocument? document = some ⟨username, password⟩ ↔
        record.draft? document = some ⟨some username, some password⟩ := by
    rw [Record.ofDocument?, Option.bind_eq_some_iff]
    simp only [build_eq_ok_iff, exists_eq_right]
  rw [drafted]
  cases document with
  | array items =>
      rw [Record.draft?, addItems?_eq_some_iff]
      constructor
      · rintro rfl
        exact .array username password
      · rintro ⟨⟩
        rfl
  | object members =>
      rw [Record.draft?, addMembers?_eq_some_iff]
      show Fills _ none _ (some username) ∧ Fills _ none _ (some password) ↔ _
      rw [fills_none_some_iff, fills_none_some_iff]
      simp only [string?_eq_some_iff, exists_eq_right]
      constructor
      · rintro ⟨oneUsername, onePassword⟩
        exact .object oneUsername onePassword
      · rintro (⟨oneUsername, onePassword⟩ | _)
        exact ⟨oneUsername, onePassword⟩
  | null => exact iff_of_false (by rintro ⟨⟩) (by rintro ⟨⟩)
  | bool value => exact iff_of_false (by rintro ⟨⟩) (by rintro ⟨⟩)
  | number text => exact iff_of_false (by rintro ⟨⟩) (by rintro ⟨⟩)
  | string text => exact iff_of_false (by rintro ⟨⟩) (by rintro ⟨⟩)

/-- A credential is read from its documents. -/
theorem reads_reader : record.reader.Reads record.ofDocument? :=
  Record.reads_reader hasSlots.isLocal_of_mem_members

end Credential

/-! ## Configurations -/

namespace Config

/-- The base URL of a configuration. -/
def baseUrlSlot : Slot Draft :=
  .ofText "base_url" Draft.baseUrl (fun draft baseUrl => { draft with baseUrl := some baseUrl })
    fun _ _ => rfl

/-- The proxy of a configuration. -/
def proxySlot : Slot Draft where
  name := "proxy"
  isOptional := true
  reader := Reader.optionalText
  meaning := Document.optionalString?
  get? := Draft.proxy
  set := fun draft proxy => { draft with proxy := some proxy }
  reads := Reader.reads_optionalText
  get?_set := fun _ _ => rfl

/-- The credential of a configuration. -/
def credentialSlot : Slot Draft where
  name := "credential"
  isOptional := false
  reader := Credential.record.reader
  meaning := Credential.record.ofDocument?
  get? := Draft.credential
  set := fun draft credential => { draft with credential := some credential }
  reads := Credential.reads_reader
  get?_set := fun _ _ => rfl

theorem hasSlots : record.HasSlots [baseUrlSlot, proxySlot, credentialSlot] where
  members_eq := rfl
  apart := by
    rw [List.pairwise_cons, List.pairwise_pair, List.forall_mem_cons, List.forall_mem_singleton]
    refine ⟨⟨?_, ?_⟩, ?_⟩
    · exact ⟨by decide, fun _ _ => rfl, fun _ _ => rfl⟩
    · exact ⟨by decide, fun _ _ => rfl, fun _ _ => rfl⟩
    · exact ⟨by decide, fun _ _ => rfl, fun _ _ => rfl⟩
  ext := by
    rintro ⟨baseUrl, proxy, credential⟩ ⟨baseUrl', proxy', credential'⟩ same
    rw [List.forall_mem_cons, List.forall_mem_cons, List.forall_mem_singleton] at same
    rw [Draft.mk.injEq]
    exact same

/-- Each of the three settings is filled from the members with its name. -/
theorem addMembers?_eq_some_iff
    {draft result : Draft}
    {members : List (String × Document)} :
    record.addMembers? draft members = some result ↔
      Fills Document.string? draft.baseUrl (valuesOf "base_url" members) result.baseUrl ∧
        Fills Document.optionalString? draft.proxy (valuesOf "proxy" members) result.proxy ∧
          Fills Credential.record.ofDocument? draft.credential (valuesOf "credential" members)
            result.credential := by
  rw [hasSlots.addMembers?_eq_some_iff, List.forall_mem_cons, List.forall_mem_cons,
    List.forall_mem_singleton]
  exact Iff.rfl

/-- The items of an array are the three settings in their order. -/
theorem addItems?_eq_some_iff {items : List Document} {result : Draft} :
    Record.addItems? record.members record.blank items = some result ↔
      ∃ baseUrl proxy credential first second,
        items = [.string baseUrl, first, second] ∧
          first.IsProxy proxy ∧ second.IsCredential credential ∧
            result = ⟨some baseUrl, some proxy, some credential⟩ := by
  rw [hasSlots.members_eq, Slot.addItems?_eq_some_iff]
  constructor
  · intro lists
    cases lists with
    | left isOptional _ => cases isOptional
    | item isBaseUrl others =>
        cases others with
        | left _ others =>
            rcases others with _ | _ | ⟨isOptional, _⟩
            cases isOptional
        | item isProxy others =>
            cases others with
            | left isOptional _ => cases isOptional
            | item isCredential others =>
                rcases others with ⟨same⟩
                rw [string?_eq_some_iff.mp isBaseUrl]
                exact ⟨_, _, _, _, _, rfl, optionalString?_eq_some_iff.mp isProxy,
                  Credential.ofDocument?_eq_some_iff.mp isCredential, same.symm⟩
  · rintro ⟨baseUrl, proxy, credential, first, second, rfl, isProxy, isCredential, rfl⟩
    have isBaseUrl : baseUrlSlot.meaning (.string baseUrl) = some baseUrl := rfl
    exact .item isBaseUrl (.item (optionalString?_eq_some_iff.mpr isProxy)
      (.item (Credential.ofDocument?_eq_some_iff.mpr isCredential) (.done rfl)))

theorem build_eq_ok_iff {draft : Draft} {config : Config} :
    (record.build draft).toOption = some config ↔
      draft.baseUrl = some config.baseUrl ∧ draft.proxy.getD none = config.proxy ∧
        draft.credential = some config.credential := by
  rcases draft with ⟨_ | _, _, _ | _⟩ <;> rcases config with ⟨_, _, _⟩ <;>
    simp [record, Except.toOption]

/-- The proxy of an object that may have none. -/
theorem fills_proxy_iff {documents : List Document} {proxy : Option String} :
    (∃ filled, Fills Document.optionalString? none documents filled ∧ filled.getD none = proxy) ↔
      AreProxy documents proxy := by
  constructor
  · rintro ⟨filled, fills, rfl⟩
    cases fills with
    | keep => exact .absent
    | put means => exact .once (optionalString?_eq_some_iff.mp means)
  · intro proxies
    cases proxies with
    | absent => exact ⟨none, .keep none, rfl⟩
    | once isProxy =>
        exact ⟨some proxy, .put (optionalString?_eq_some_iff.mpr isProxy), rfl⟩

/-- A configuration is taken from the documents with its settings and from no others. -/
theorem ofDocument?_eq_some_iff {document : Document} {config : Config} :
    record.ofDocument? document = some config ↔
      document.HasSettings config.baseUrl config.proxy config.credential := by
  rw [Record.ofDocument?, Option.bind_eq_some_iff]
  simp only [build_eq_ok_iff]
  cases document with
  | array items =>
      simp only [Record.draft?, addItems?_eq_some_iff]
      constructor
      · rintro ⟨_, ⟨baseUrl, proxy, credential, first, second, rfl, isProxy, isCredential, rfl⟩,
          sameBaseUrl, sameProxy, sameCredential⟩
        cases sameBaseUrl
        cases sameProxy
        cases sameCredential
        exact .array _ isProxy isCredential
      · intro settings
        rcases config with ⟨baseUrl, proxy, credential⟩
        cases settings with
        | array _ isProxy isCredential =>
            exact ⟨_, ⟨baseUrl, proxy, credential, _, _, rfl, isProxy, isCredential, rfl⟩, rfl, rfl,
              rfl⟩
  | object members =>
      simp only [Record.draft?, addMembers?_eq_some_iff]
      constructor
      · rintro ⟨⟨_, filled, _⟩, ⟨baseUrl, proxy, credential⟩, rfl, sameProxy, rfl⟩
        rcases fills_none_some_iff.mp baseUrl with ⟨_, oneBaseUrl, isBaseUrl⟩
        rcases fills_none_some_iff.mp credential with ⟨_, oneCredential, isCredential⟩
        cases string?_eq_some_iff.mp isBaseUrl
        exact .object oneBaseUrl (fills_proxy_iff.mp ⟨filled, proxy, sameProxy⟩) oneCredential
          (Credential.ofDocument?_eq_some_iff.mp isCredential)
      · intro settings
        rcases config with ⟨baseUrl, proxy, credential⟩
        cases settings with
        | object oneBaseUrl proxies oneCredential isCredential =>
            rcases fills_proxy_iff.mpr proxies with ⟨filled, fills, sameProxy⟩
            refine ⟨⟨some baseUrl, filled, some credential⟩, ⟨?_, fills, ?_⟩, rfl, sameProxy, rfl⟩
            · exact fills_none_some_iff.mpr ⟨_, oneBaseUrl, rfl⟩
            · exact fills_none_some_iff.mpr
                ⟨_, oneCredential, Credential.ofDocument?_eq_some_iff.mpr isCredential⟩
  | null => exact iff_of_false (by rintro ⟨_, ⟨⟩, _⟩) (by rintro ⟨⟩)
  | bool value => exact iff_of_false (by rintro ⟨_, ⟨⟩, _⟩) (by rintro ⟨⟩)
  | number text => exact iff_of_false (by rintro ⟨_, ⟨⟩, _⟩) (by rintro ⟨⟩)
  | string text => exact iff_of_false (by rintro ⟨_, ⟨⟩, _⟩) (by rintro ⟨⟩)

/-- A configuration is decoded from the texts of the documents with its settings. -/
theorem decode_text_eq_ok_iff {document : Document} {config : Config} :
    decode document.text = .ok config ↔
      document.HasSettings config.baseUrl config.proxy config.credential := by
  rw [← ofDocument?_eq_some_iff, decode,
    ← Record.toOption_decode_text hasSlots.isLocal_of_mem_members]
  constructor
  · intro decoded
    rw [decoded]
    rfl
  · exact eq_ok_of_toOption

/-- The configuration that is made of the settings by hand. -/
def ofSettings (baseUrl : String) (proxy : Option String) (credential : Credential) : Config :=
  match proxy with
  | none => new baseUrl credential
  | some proxy => (new baseUrl credential).withProxy proxy

/--
A text of a document is decoded if and only if the document has the settings of a configuration,
and then to the configuration of these settings, which is the one made of them by hand.  Documents
with the same settings give equal configurations, whatever their forms are.
-/
theorem decode_document (document : Document) :
    (∀ config, decode document.text = .ok config ↔
        document.HasSettings config.baseUrl config.proxy config.credential) ∧
      ∀ baseUrl proxy credential, document.HasSettings baseUrl proxy credential →
        decode document.text = .ok (ofSettings baseUrl proxy credential) ∧
          ∀ other : Document, other.HasSettings baseUrl proxy credential →
            decode other.text = decode document.text := by
  refine ⟨fun config => decode_text_eq_ok_iff, ?_⟩
  have decoded
      {document : Document}
      {baseUrl : String}
      {proxy : Option String}
      {credential : Credential}
      (settings : document.HasSettings baseUrl proxy credential) :
      decode document.text = .ok (ofSettings baseUrl proxy credential) := by
    apply decode_text_eq_ok_iff.mpr
    cases proxy <;> exact settings
  intro baseUrl proxy credential settings
  exact ⟨decoded settings, fun other same => (decoded same).trans (decoded settings).symm⟩

/-- The same settings in mixed forms, and an object with two proxies. -/
theorem decode_document_of_mixed_forms :
    let large : Json.NumberText :=
      { isNegative := true
        whole := ['9']
        fraction := none
        exponent := some { letter := 'E', sign := ['+'], digits := ['9', '9', '9'] } }
    let mixed : Document :=
      .object
        [("base", .array [.object [("a", .number large), ("a", .bool false)]]),
          ("credential", .array [.string "u", .string "p"]),
          ("proxy", .null),
          ("base_url", .string "http://h")]
    let listed : Document :=
      .array
        [.string "http://h", .null,
          .object [("password", .string "p"), ("", .array []), ("username", .string "u")]]
    let twice : Document :=
      .object
        [("base_url", .string "http://h"), ("proxy", .null), ("proxy", .null),
          ("credential", .array [.string "u", .string "p"])]
    mixed.HasSettings "http://h" none ⟨"u", "p"⟩ ∧
      decode mixed.text = .ok (new "http://h" ⟨"u", "p"⟩) ∧
        decode listed.text = decode mixed.text ∧
          ∀ config, decode twice.text ≠ .ok config := by
  intro large mixed listed twice
  have settings : mixed.HasSettings "http://h" none ⟨"u", "p"⟩ :=
    .object rfl (.once .null) rfl (.array "u" "p")
  have sameSettings : listed.HasSettings "http://h" none ⟨"u", "p"⟩ :=
    .array "http://h" .null (.object rfl rfl)
  rcases (decode_document mixed).2 "http://h" none ⟨"u", "p"⟩ settings with ⟨decoded, same⟩
  refine ⟨settings, decoded, same listed sameSettings, ?_⟩
  intro config decodedTwice
  have settingsTwice := ((decode_document twice).1 config).mp decodedTwice
  simp only [twice] at settingsTwice
  cases settingsTwice with
  | object oneBaseUrl proxies oneCredential isCredential => cases proxies

end Config

end ReviewQuery
