import ReviewQuery.Text.Outline
import ReviewQuery.Text.Quoted

/-!
# Configurations

A configuration holds the base URL of a review server, perhaps the address of a proxy, and the
credential for the server.  When a credential is shown for diagnosis, its password is not.
-/

namespace ReviewQuery

/-- A user name and a password. -/
structure Credential where
  username : String
  password : String
  deriving DecidableEq, Hashable, Repr

namespace Credential

/-- What is shown in place of a password. -/
def mask : String := "<redacted>"

/-- The credential as it is shown for diagnosis. -/
def outline (credential : Credential) : Text.Outline :=
  .record "Credential"
    [("username", .leaf (Text.Quoted.render credential.username)),
      ("password", .leaf (Text.Quoted.render mask))]

end Credential

/-- The settings of a client. -/
structure Config where
  baseUrl : String
  proxy : Option String
  credential : Credential
  deriving DecidableEq, Hashable, Repr

namespace Config

/-- A configuration without a proxy. -/
def new (baseUrl : String) (credential : Credential) : Config :=
  ⟨baseUrl, none, credential⟩

/-- The configuration with a proxy.  The proxy tells configurations apart but changes no
request. -/
def withProxy (config : Config) (proxy : String) : Config :=
  { config with proxy := some proxy }

/-- The configuration as it is shown for diagnosis. -/
def outline (config : Config) : Text.Outline :=
  .record "ClientConfig"
    [("base_url", .leaf (Text.Quoted.render config.baseUrl)),
      ("proxy", .ofOption (fun proxy => .leaf (Text.Quoted.render proxy)) config.proxy),
      ("credential", config.credential.outline)]

end Config

end ReviewQuery
