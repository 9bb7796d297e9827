import ReviewQuery.Config.Basic
import ReviewQuery.Error
import ReviewQuery.Query.Options
import ReviewQuery.Url.Parse

/-!
# Clients

A client is made from a configuration whose base URL is an absolute URL.  It keeps the base URL
without one slash at its end, because the path of the endpoint starts with a slash.
-/

namespace ReviewQuery

/-- A client of a review server. -/
structure Client where
  config : Config
  base : String
  deriving Repr

namespace Client

/-- A text without one slash at its end. -/
def dropSlash (text : String) : String :=
  let chars := text.toList
  if chars.getLast? = some '/' then String.ofList chars.dropLast else text

/-- The client for a configuration. -/
def new (config : Config) : Except Error Client :=
  match Url.parse config.baseUrl.toList with
  | .ok _ => .ok ⟨config, dropSlash config.baseUrl⟩
  | .error reason => .error (.badUrl reason)

/-- The address that a query is sent to. -/
def address (client : Client) (query : String) (options : Query.Options) : String :=
  Query.address client.base query options

/-- Clients are equal if their configurations are. -/
instance : BEq Client where
  beq left right := left.config == right.config

/-- The hash of a client is that of its configuration, so equal clients have equal hashes. -/
instance : Hashable Client where
  hash client := hash client.config

/-- The client as it is shown for diagnosis, with its transport. -/
def outline (transport : Text.Outline) (client : Client) : Text.Outline :=
  .record "QueryClient"
    [("http_client", transport),
      ("config", client.config.outline),
      ("base_url", .leaf (Text.Quoted.render client.base))]

end Client

end ReviewQuery
