import ReviewQuery.Client.Basic
import ReviewQuery.Result

/-!
# Accepted configurations

A configuration makes a client exactly when its base URL is an absolute URL.  The client is known
from the configuration: its base is the base URL without one slash at the end.
-/

namespace ReviewQuery.Client

/-- A configuration is accepted for its base URL alone. -/
theorem new_eq_ok_iff {config : Config} {client : Client} :
    new config = .ok client ↔
      (∃ url, Url.parse config.baseUrl.toList = .ok url) ∧
        client = ⟨config, dropSlash config.baseUrl⟩ := by
  rw [new]
  constructor
  · intro made
    split at made
    · rename_i url parsed
      cases made
      exact ⟨⟨url, parsed⟩, rfl⟩
    · cases made
  · rintro ⟨⟨url, parsed⟩, rfl⟩
    rw [parsed]

theorem new_eq_ok
    {config : Config}
    {base : String}
    (parsed : (Url.parse config.baseUrl.toList).isOk = true)
    (dropped : dropSlash config.baseUrl = base) :
    new config = .ok ⟨config, base⟩ :=
  new_eq_ok_iff.mpr ⟨exists_ok_of_isOk parsed, dropped ▸ rfl⟩

/-! ## One slash at the end -/

theorem dropSlash_of_ne {text : String} (noSlash : text.toList.getLast? ≠ some '/') :
    dropSlash text = text :=
  if_neg noSlash

theorem dropSlash_append_slash (text : String) : dropSlash (text ++ "/") = text := by
  have chars : (text ++ "/").toList = text.toList ++ ['/'] := String.toList_append
  rw [dropSlash, chars, if_pos List.getLast?_concat, List.dropLast_concat, String.ofList_toList]

theorem toList_dropSlash_append {text : String} (slash : text.toList.getLast? = some '/') :
    (dropSlash text).toList ++ ['/'] = text.toList := by
  rcases List.getLast?_eq_some_iff.mp slash with ⟨front, chars⟩
  rw [dropSlash, chars, if_pos List.getLast?_concat, List.dropLast_concat, String.toList_ofList]

/-! ## Two accepted clients -/

/-- A client for a server of the web. -/
def webClient : Client :=
  ⟨.new "http://h" ⟨"u", "p"⟩, "http://h"⟩

theorem webClient_accepted : new webClient.config = .ok webClient :=
  new_eq_ok (by decide +kernel) (by decide)

/-- A client for the same server, whose base URL is written with a slash at its end. -/
def slashClient : Client :=
  ⟨.new "http://h/" ⟨"u", "p"⟩, "http://h"⟩

theorem slashClient_accepted : new slashClient.config = .ok slashClient :=
  new_eq_ok (by decide +kernel) (by decide)

end ReviewQuery.Client
