import ReviewQuery.Proofs.Client.Basic
import ReviewQuery.Proofs.Text.Outline
import ReviewQuery.Proofs.Text.Quoted

/-!
# A configuration is known by its text

The text that shows a configuration, on one line or with one part to a line, tells everything about
it but the password.  Where a quoted field ends is seen from the text itself, so the content of one
field can never pass for another field.  A client is shown with its configuration and its base,
which comes from the configuration, so its text tells just as much.
-/

namespace ReviewQuery

open Text

namespace Config

/-- Whether two configurations differ in nothing but the password. -/
def EqualButPassword (left right : Config) : Prop :=
  left.baseUrl = right.baseUrl ∧
    left.proxy = right.proxy ∧
    left.credential.username = right.credential.username

/-! ## Configurations in front of a text -/

section Layout

variable
  {left right : Config}
  {rest rest' : List Char}

/-- A proxy as it is shown for diagnosis. -/
def proxyOutline : Option String → Outline :=
  .ofOption fun proxy => .leaf (Quoted.render proxy)

theorem isPrefixFree_compact_proxy :
    IsPrefixFree fun proxy => (proxyOutline proxy).compact.toList := by
  apply Outline.isPrefixFree_compact_ofOption
  simpa only [Outline.compact] using Quoted.isPrefixFree_render

theorem isPrefixFree_spread_proxy (level : Nat) :
    IsPrefixFree fun proxy => ((proxyOutline proxy).spread level).toList := by
  apply Outline.isPrefixFree_spread_ofOption
  simpa only [Outline.spread] using Quoted.isPrefixFree_render

theorem outline_eq (config : Config) :
    config.outline =
      .record "ClientConfig"
        [("base_url", .leaf (Quoted.render config.baseUrl)),
          ("proxy", proxyOutline config.proxy),
          ("credential",
            .record "Credential"
              [("username", .leaf (Quoted.render config.credential.username)),
                ("password", .leaf (Quoted.render Credential.mask))])] :=
  rfl

/-- On one line the text tells the configuration but for its password, whatever follows. -/
theorem compact_outline_append_inj :
    left.outline.compact.toList ++ rest = right.outline.compact.toList ++ rest' ↔
      left.EqualButPassword right ∧ rest = rest' := by
  simp only [outline_eq, Outline.compact, Outline.compactFields, String.toList_append,
    List.append_assoc, List.append_cancel_left_eq, Quoted.isPrefixFree_render.append_inj,
    isPrefixFree_compact_proxy.append_inj, EqualButPassword, and_assoc, true_and]

/-- So it does with one part to a line. -/
theorem spread_outline_append_inj (level : Nat) :
    (left.outline.spread level).toList ++ rest = (right.outline.spread level).toList ++ rest' ↔
      left.EqualButPassword right ∧ rest = rest' := by
  simp only [outline_eq, Outline.spread, Outline.spreadFields, String.toList_append,
    List.append_assoc, List.append_cancel_left_eq, Quoted.isPrefixFree_render.append_inj,
    (isPrefixFree_spread_proxy _).append_inj, EqualButPassword, and_assoc, true_and]

end Layout

/-- However its fields are filled, the outline of a configuration breaks no line. -/
theorem breaksNoLine_outline (config : Config) : config.outline.BreaksNoLine := by
  have quoted (text : String) : (Outline.leaf (Quoted.render text)).BreaksNoLine :=
    .leaf (Quoted.newline_not_mem_render text)
  have proxy : (proxyOutline config.proxy).BreaksNoLine := by
    cases config.proxy with
    | none => exact .leaf (by decide)
    | some proxy => exact .tuple (by decide) (by simpa using quoted proxy)
  have credential :
      (Outline.record "Credential"
        [("username", .leaf (Quoted.render config.credential.username)),
          ("password", .leaf (Quoted.render Credential.mask))]).BreaksNoLine :=
    .record (by decide) (by simp) (by simp [quoted])
  rw [outline_eq]
  exact .record (by decide) (by simp) (by simp [quoted, proxy, credential])

end Config

/-! ## The texts of a configuration and of its client -/

/-- The text of a client tells as much as that of its configuration. -/
theorem Client.compact_outline_inj
    {left right : Config}
    {leftClient rightClient : Client}
    (leftMade : Client.new left = .ok leftClient)
    (rightMade : Client.new right = .ok rightClient)
    (transport : Outline) :
    (leftClient.outline transport).compact = (rightClient.outline transport).compact ↔
      left.EqualButPassword right := by
  rcases Client.new_eq_ok_iff.mp leftMade with ⟨_, rfl⟩
  rcases Client.new_eq_ok_iff.mp rightMade with ⟨_, rfl⟩
  rw [← String.toList_inj]
  simp only [Client.outline, Outline.compact, Outline.compactFields, String.toList_append,
    List.append_assoc, List.append_cancel_left_eq, Config.compact_outline_append_inj,
    Quoted.isPrefixFree_render.append_inj, and_true]
  constructor
  · rintro ⟨same, _⟩
    exact same
  · intro same
    exact ⟨same, congrArg Client.dropSlash same.1⟩

/--
The text of a configuration on one line, the one with a part to a line, and the text of a client
over some transport are each the same for two configurations exactly if these differ in nothing but
the password.  The text with a part to a line is what comes of indenting every part as a whole.
-/
theorem Config.texts_identify (left right : Config) :
    (left.outline.compact = right.outline.compact ↔
      left.baseUrl = right.baseUrl ∧ left.proxy = right.proxy ∧
        left.credential.username = right.credential.username) ∧
    (left.outline.spread 0 = right.outline.spread 0 ↔
      left.baseUrl = right.baseUrl ∧ left.proxy = right.proxy ∧
        left.credential.username = right.credential.username) ∧
    (left.outline.spread 0).toList = left.outline.nested ∧
    ∀ leftClient rightClient : Client,
      Client.new left = .ok leftClient → Client.new right = .ok rightClient →
        ∀ transport : Outline,
          ((leftClient.outline transport).compact = (rightClient.outline transport).compact ↔
            left.baseUrl = right.baseUrl ∧ left.proxy = right.proxy ∧
              left.credential.username = right.credential.username) := by
  refine ⟨?_, ?_, left.breaksNoLine_outline.nested_eq.symm, ?_⟩
  · rw [← String.toList_inj, ← List.append_left_inj [], Config.compact_outline_append_inj]
    exact and_iff_left rfl
  · rw [← String.toList_inj, ← List.append_left_inj [], Config.spread_outline_append_inj]
    exact and_iff_left rfl
  · intro leftClient rightClient leftMade rightMade transport
    exact Client.compact_outline_inj leftMade rightMade transport

/-- A user name that imitates the text of another field and of the mask. -/
theorem Config.texts_identify_of_imitation :
    let plain : Config := ⟨"http://h/", some "None", ⟨"u", "p"⟩⟩
    let imitation : Config := ⟨"http://h/", none, ⟨"u\", password: \"<redacted>", "q"⟩⟩
    plain.outline.compact ≠ imitation.outline.compact ∧
      plain.outline.spread 0 ≠ imitation.outline.spread 0 ∧
      ((⟨plain, "http://h"⟩ : Client).outline (.leaf "T")).compact ≠
        ((⟨imitation, "http://h"⟩ : Client).outline (.leaf "T")).compact := by
  intro plain imitation
  have differ :
      ¬ (plain.baseUrl = imitation.baseUrl ∧ plain.proxy = imitation.proxy ∧
        plain.credential.username = imitation.credential.username) := by
    decide
  have accepted : (Url.parse "http://h/".toList).isOk = true := by decide +kernel
  rcases Config.texts_identify plain imitation with ⟨compact, spread, _, clients⟩
  refine ⟨mt compact.mp differ, mt spread.mp differ, mt (clients _ _ ?_ ?_ (.leaf "T")).mp differ⟩
  · exact Client.new_eq_ok accepted (by decide)
  · exact Client.new_eq_ok accepted (by decide)

end ReviewQuery
