import ReviewQuery.Proofs.Client.Delivery
import ReviewQuery.Proofs.Json.DecodedValue

/-!
# The texts of an answer are a normal form

The texts that a call gives hold no controls, so that they fit on one line as an array.  Sent again
behind the guarding first line they are the payload, and unless there is a double among the decoded
numbers the same changes are decoded and the same texts are given.  It does not matter how the
original body spelled its strings, repeated its names or placed its blanks.
-/

namespace ReviewQuery

/-- The array of items with these texts. -/
def arrayText (texts : List String) : String :=
  "[" ++ ",".intercalate texts ++ "]"

/-- The guarding first line and the array of items with these texts. -/
def guardedBody (texts : List String) : String :=
  ")]\x7d'\n" ++ arrayText texts

/-! ## The array on its line -/

theorem toList_arrayText (changes : List Json.Value) :
    (arrayText (changes.map Json.Value.text)).toList = (Json.Value.array changes).render := by
  have texts : String.toList ∘ Json.Value.text = Json.Value.render := by
    funext change
    exact String.toList_ofList
  rw [arrayText, String.toList_append, String.toList_append, String.toList_intercalate,
    List.map_map, texts, Json.Value.render, Json.Value.renderItems_eq_intercalate]
  rfl

/-- The array is the payload, whatever its numbers are. -/
theorem payload?_guardedBody (changes : List Json.Value) :
    Query.payload? (guardedBody (changes.map Json.Value.text)) =
      some (arrayText (changes.map Json.Value.text)) := by
  have guardLine : ∀ c ∈ [')', ']', '\x7d', '\''], Query.isLineEnd c = false :=
    List.all_iff_forall_prop.mp (by decide)
  have nonempty : (Json.Value.array changes).render ≠ [] := List.cons_ne_nil _ _
  have oneLine : ∀ c ∈ (Json.Value.array changes).render, Query.isLineEnd c = false :=
    fun c member => Delivery.isLineEnd_of_isGraphic (Json.Value.isGraphic_of_mem_render member)
  have noTail : ∀ c ∈ ([] : List Char).head?, Query.isLineEnd c = true := by
    rintro c ⟨⟩
  have second := Query.payloadLine?_append guardLine .lineFeed nonempty oneLine noTail
  rw [List.append_nil, ← toList_arrayText] at second
  rw [Query.payload?, guardedBody, String.toList_append]
  exact (congrArg (Option.map String.ofList) second).trans (congrArg some String.ofList_toList)

/-- Changes without doubles are decoded again from their texts. -/
theorem readChanges_guardedBody
    {changes : List Json.Value}
    (fits : ∀ change ∈ changes, change.FitsAt 1)
    (whole : ∀ change ∈ changes, change.IsWhole) :
    readChanges (guardedBody (changes.map Json.Value.text)) = .ok changes := by
  have blank : ∀ c ∈ ([] : List Char), Json.isBlank c = true := List.forall_mem_nil _
  have plain : ∀ change ∈ changes, change.IsPlain :=
    fun change member => (fits change member).1.isPlain (whole change member)
  have shallow : ∀ change ∈ changes, change.depth < Json.nestingLimit := by
    intro change member
    have bound := (fits change member).2
    omega
  have read := Json.readItems_render blank blank plain shallow
  rw [List.nil_append, List.append_nil, ← toList_arrayText] at read
  rw [readChanges_of_payload (payload?_guardedBody changes), Json.decodeItems, read]
  rfl

/-- The changes of a body fit inside the array around them. -/
theorem fitsAt_of_readChanges
    {body : String}
    {changes : List Json.Value}
    (read : readChanges body = .ok changes) :
    ∀ change ∈ changes, change.FitsAt 1 := by
  cases found : Query.payload? body with
  | none =>
      rw [readChanges_of_missing found] at read
      cases read
  | some payload =>
      rw [readChanges_of_payload found] at read
      exact Json.fitsAt_of_decodeItems (mapError_eq_ok_iff.mp read)

/-! ## Texts that are read again -/

/-- Texts are given of the changes that the body holds. -/
theorem exists_changes_of_texts
    {σ : Type}
    {client : Client}
    {transport : Transport σ}
    {query : String}
    {options : Query.Options}
    {statusLine body : String}
    (replied :
      (transport (client.address query options) client.config.credential).reply =
        .ok ⟨200, statusLine, body⟩)
    {texts : List String}
    (answered :
      (client.call transport (.queryAsTexts options) query).result = .ok (.texts texts)) :
    ∃ changes, readChanges body = .ok changes ∧ texts = changes.map Json.Value.text := by
  rw [Client.result_call_of_accepted (.queryAsTexts options) replied] at answered
  rcases bind_eq_ok_iff.mp answered with ⟨changes, read, given⟩
  rw [Call.answer_of_texts rfl] at given
  cases given
  exact ⟨changes, read, rfl⟩

/--
The texts that a call gives hold no control, and as an array behind the guarding first line they are
the payload.  If every decoded number is an integer, a body of that line and that array has the same
changes, and the call gives the same texts again.
-/
theorem texts_normal_form
    {σ : Type}
    (client : Client)
    (transport : Transport σ)
    (query : String)
    (options : Query.Options)
    (statusLine body : String)
    (replied :
      (transport (client.address query options) client.config.credential).reply =
        .ok ⟨200, statusLine, body⟩)
    (texts : List String)
    (answered :
      (client.call transport (.queryAsTexts options) query).result = .ok (.texts texts)) :
    (∀ text ∈ texts, ∀ c ∈ text.toList, 0x20 ≤ c.toNat) ∧
      Query.payload? (guardedBody texts) = some (arrayText texts) ∧
      ∀ changes, readChanges body = .ok changes → (∀ change ∈ changes, change.IsWhole) →
        readChanges (guardedBody texts) = .ok changes ∧
          ∀ {τ : Type} (again : Transport τ) (newLine : String),
            (again (client.address query options) client.config.credential).reply =
              .ok ⟨200, newLine, guardedBody texts⟩ →
            (client.call again (.queryAsTexts options) query).result = .ok (.texts texts) := by
  obtain ⟨changes, read, rfl⟩ := exists_changes_of_texts replied answered
  refine ⟨?_, payload?_guardedBody changes, ?_⟩
  · intro text member c inside
    rcases List.mem_map.mp member with ⟨change, _, rfl⟩
    rw [Json.Value.text, String.toList_ofList] at inside
    exact of_decide_eq_true (Json.Value.isGraphic_of_mem_render inside)
  · intro others readOthers whole
    cases Except.ok.inj (read.symm.trans readOthers)
    have same := readChanges_guardedBody (fitsAt_of_readChanges read) whole
    refine ⟨same, ?_⟩
    intro τ again newLine repliedAgain
    rw [Client.result_call_of_accepted (.queryAsTexts options) repliedAgain, same]
    exact Call.answer_of_texts rfl changes

/-- A name that is spelled in two ways; its last value is spelled by a pair of surrogates. -/
theorem readChanges_repeated_name :
    readChanges ")]\x7d'\r\n [\x7b\"a\":1,\"\\u0061\":\"\\ud83d\\ude00\"\x7d]\n" =
      .ok [.object [("a", .string "😀")]] := by
  with_unfolding_all rfl

/-- The texts of a body with a repeated name are given again. -/
theorem texts_normal_form_of_repeated_name :
    let result (body : String) : Except Error Answer :=
      (Client.slashClient.call (.bringing body) (.queryAsTexts .standard) "x").result
    let body := ")]\x7d'\r\n [\x7b\"a\":1,\"\\u0061\":\"\\ud83d\\ude00\"\x7d]\n"
    let texts := ["\x7b\"a\":\"😀\"\x7d"]
    result body = .ok (.texts texts) ∧ result (guardedBody texts) = .ok (.texts texts) := by
  intro result body texts
  have given : result body = .ok (.texts texts) := by
    have accepted : result body = (readChanges body).bind (Call.queryAsTexts .standard).answer :=
      Client.result_call_of_accepted (.queryAsTexts .standard) rfl
    rw [accepted, readChanges_repeated_name]
    exact Call.answer_of_texts rfl _
  have whole : ∀ change ∈ [Json.Value.object [("a", .string "😀")]], change.IsWhole := by
    intro change member
    cases List.mem_singleton.mp member
    refine .object ?_
    intro part among
    cases List.mem_singleton.mp among
    exact .string "😀"
  have normal :=
    texts_normal_form Client.slashClient (.bringing body) "x" .standard "HTTP/1.1 200 OK" body rfl
      texts given
  have again := (normal.2.2 _ readChanges_repeated_name whole).2 (.bringing (guardedBody texts))
  exact ⟨given, again "HTTP/1.1 200 OK" rfl⟩

end ReviewQuery
