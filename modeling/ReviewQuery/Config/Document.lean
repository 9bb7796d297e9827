import ReviewQuery.Config.Basic
import ReviewQuery.Json.Record

/-!
# Configurations from JSON documents

A credential is a record of two strings, and a configuration is a record of a string, a string or
null, and a credential.  Only the proxy may be missing.
-/

namespace ReviewQuery

open Json (Member Reader Record)

/-! ## Credentials -/

/-- A credential whose members are read one after another. -/
structure Credential.Draft where
  username : Option String
  password : Option String

/-- The shape of a credential. -/
def Credential.record : Record Credential.Draft Credential where
  title := "struct Credential"
  members :=
    [.of "username" false Reader.text Draft.username fun draft username =>
        { draft with username := some username },
      .of "password" false Reader.text Draft.password fun draft password =>
        { draft with password := some password }]
  blank := ⟨none, none⟩
  build := fun draft =>
    match draft.username, draft.password with
    | some username, some password => .ok ⟨username, password⟩
    | none, _ => .error "username"
    | _, none => .error "password"

/-- The credential that a text stands for. -/
def Credential.decode (text : String) : Except Json.DecodeError Credential :=
  Credential.record.decode text

/-! ## Configurations -/

/-- A configuration whose members are read one after another.  A proxy that has been read may be
null. -/
structure Config.Draft where
  baseUrl : Option String
  proxy : Option (Option String)
  credential : Option Credential

/-- The shape of a configuration. -/
def Config.record : Record Config.Draft Config where
  title := "struct ClientConfig"
  members :=
    [.of "base_url" false Reader.text Draft.baseUrl fun draft baseUrl =>
        { draft with baseUrl := some baseUrl },
      .of "proxy" true Reader.optionalText Draft.proxy fun draft proxy =>
        { draft with proxy := some proxy },
      .of "credential" false Credential.record.reader Draft.credential fun draft credential =>
        { draft with credential := some credential }]
  blank := ⟨none, none, none⟩
  build := fun draft =>
    match draft.baseUrl, draft.credential with
    | some baseUrl, some credential => .ok ⟨baseUrl, draft.proxy.getD none, credential⟩
    | none, _ => .error "base_url"
    | _, none => .error "credential"

/-- The configuration that a text stands for. -/
def Config.decode (text : String) : Except Json.DecodeError Config :=
  Config.record.decode text

end ReviewQuery
