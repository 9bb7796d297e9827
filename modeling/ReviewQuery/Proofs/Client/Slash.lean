import Mathlib.Data.List.Basic
import ReviewQuery.Proofs.Client.Basic
import ReviewQuery.Proofs.Query.Address

/-!
# Where a slash is doubled

The path of the endpoint starts with a slash, so a client drops the one at the end of its base URL.
It drops a single one.  An address holds the endpoint behind a doubled slash exactly when the base
URL ends with two slashes, or when it holds such an endpoint already.  A query never brings one,
because neither slashes nor question marks stand in a form.
-/

namespace ReviewQuery

/-! ## Patterns in a text of two parts -/

namespace Text

section Infix

variable
  {α : Type}
  {left right front rest : List α}
  {c : α}

/-- A pattern whose end is missing in the second part of a text stands in the first. -/
theorem infix_append_iff_of_last (absent : c ∉ rest) :
    left ++ [c] <:+: front ++ rest ↔ left ++ [c] <:+: front := by
  constructor
  · rw [List.infix_append_iff]
    rintro (inFront | inRest | ⟨first, second, whole, suffix, early⟩)
    · exact inFront
    · exact absurd (inRest.subset (List.mem_append_right left List.mem_cons_self)) absent
    · rcases List.eq_nil_or_concat second with rfl | ⟨second, last, rfl⟩
      · rw [whole, List.append_nil]
        exact suffix.isInfix
      · rw [List.concat_eq_append, ← List.append_assoc] at whole
        rcases (List.append_inj' whole rfl).2 with ⟨⟩
        exact absurd (early.subset (by simp)) absent
  · intro inFront
    exact inFront.trans (List.prefix_append front rest).isInfix

/-- A pattern with one separator, in a text behind whose separator there is no other one: it stands
in front of that separator, or its own separator is that one. -/
theorem infix_append_cons_iff
    (leftInside : c ∉ left)
    (rightInside : c ∉ right)
    (absent : c ∉ rest) :
    left ++ c :: right <:+: front ++ c :: rest ↔
      left ++ c :: right <:+: front ∨ (left <:+ front ∧ right <+: rest) := by
  constructor
  · rw [List.infix_append_iff, List.infix_cons_iff]
    rintro (inFront | (early | inRest) | ⟨first, second, whole, suffix, begins⟩)
    · exact Or.inl inFront
    · cases left with
      | nil => exact Or.inr ⟨List.nil_suffix, (List.cons_prefix_cons.mp early).2⟩
      | cons d left =>
          rcases (List.cons_prefix_cons.mp early).1 with rfl
          exact absurd List.mem_cons_self leftInside
    · exact absurd (inRest.subset (List.mem_append_right left List.mem_cons_self)) absent
    · rcases List.prefix_cons_iff.mp begins with rfl | ⟨behind, rfl, early⟩
      · rw [whole, List.append_nil]
        exact Or.inl suffix.isInfix
      · rcases (List.append_cons_inj_of_notMem leftInside rightInside).mp whole with ⟨rfl, -, rfl⟩
        exact Or.inr ⟨suffix, early⟩
  · rintro (inFront | ⟨⟨before, rfl⟩, ⟨after, rfl⟩⟩)
    · exact inFront.trans (List.prefix_append front _).isInfix
    · exact ⟨before, after, by simp⟩

end Infix

end Text

/-! ## The endpoint behind a doubled slash -/

namespace Query

/-- The endpoint behind a doubled slash, up to the query. -/
def doubled : String := "//a/changes/?q="

theorem toList_doubled : doubled.toList = "//a/changes/".toList ++ '?' :: "q=".toList := by
  decide

theorem toList_doubled_eq_append : doubled.toList = "//a/changes/?q".toList ++ ['='] := by
  decide

theorem toList_address_eq (base query : String) (options : Options) :
    (address base query options).toList =
      (base.toList ++ "/a/changes/".toList) ++
        '?' :: Url.FormEncoding.write (fields query options) := by
  have lead : "/a/changes/?".toList = "/a/changes/".toList ++ ['?'] := by decide
  simp only [address_eq, String.toList_append, String.toList_ofList, lead, List.append_assoc,
    List.singleton_append]

/-- The form behind the question mark of an address has no other one. -/
theorem question_not_mem_write (query : String) (options : Options) :
    '?' ∉ Url.FormEncoding.write (fields query options) := by
  have foreign : Url.FormEncoding.isFormChar '?' = false := by decide
  intro member
  have allowed := Url.FormEncoding.isFormChar_of_mem_write member
  rw [foreign] at allowed
  cases allowed

/-- An address doubles the slash if its base does, or ends with one. -/
theorem doubled_infix_address_iff (base query : String) (options : Options) :
    doubled.toList <:+: (address base query options).toList ↔
      ['/'] <:+ base.toList ∨ doubled.toList <:+: base.toList := by
  have single : "//a/changes/".toList = ['/'] ++ "/a/changes/".toList := by decide
  have inBase :
      doubled.toList <:+: base.toList ++ "/a/changes/".toList ↔
        doubled.toList <:+: base.toList := by
    rw [toList_doubled_eq_append]
    exact Text.infix_append_iff_of_last (by decide)
  have joined :
      "//a/changes/".toList <:+ base.toList ++ "/a/changes/".toList ↔ ['/'] <:+ base.toList := by
    rw [single]
    exact List.suffix_append_self_iff
  have early : "q=".toList <+: Url.FormEncoding.write (fields query options) := by
    rw [write_fields]
    exact List.prefix_append _ _
  rw [toList_address_eq, toList_doubled,
    Text.infix_append_cons_iff (by decide) (by decide) (question_not_mem_write query options),
    ← toList_doubled, inBase, joined, and_iff_left early, or_comm]

end Query

/-! ## The base of a client -/

namespace Client

/-- A slash is left at the end of a base URL that had two of them. -/
theorem slash_suffix_dropSlash_iff (text : String) :
    ['/'] <:+ (dropSlash text).toList ↔ "//".toList <:+ text.toList := by
  have two : "//".toList = ['/'] ++ ['/'] := by decide
  by_cases slash : text.toList.getLast? = some '/'
  · rw [← toList_dropSlash_append slash, two]
    exact List.suffix_append_self_iff.symm
  · have none : ¬ ['/'] <:+ text.toList := by
      rintro ⟨front, chars⟩
      exact slash (List.getLast?_eq_some_iff.mpr ⟨front, chars.symm⟩)
    rw [dropSlash_of_ne slash, two]
    constructor
    · intro one
      exact absurd one none
    · intro both
      exact absurd ((List.suffix_append _ _).trans both) none

/-- The slash that is dropped belongs to no endpoint. -/
theorem doubled_infix_dropSlash_iff (text : String) :
    Query.doubled.toList <:+: (dropSlash text).toList ↔
      Query.doubled.toList <:+: text.toList := by
  by_cases slash : text.toList.getLast? = some '/'
  · rw [← toList_dropSlash_append slash, Query.toList_doubled_eq_append]
    exact (Text.infix_append_iff_of_last (by decide)).symm
  · rw [dropSlash_of_ne slash]

/--
For an accepted configuration, the address of every query holds the endpoint behind a doubled slash
exactly when the base URL ends with two slashes or holds such an endpoint itself, and the client
keeps a slash at the end of its base exactly in the first of these cases.
-/
theorem slash_doubled_iff
    {config : Config}
    {client : Client}
    (made : new config = .ok client) :
    (∀ (query : String) (options : Query.Options),
        "//a/changes/?q=".toList <:+: (client.address query options).toList ↔
          "//".toList <:+ config.baseUrl.toList ∨
            "//a/changes/?q=".toList <:+: config.baseUrl.toList) ∧
      (client.base.toList.getLast? = some '/' ↔ "//".toList <:+ config.baseUrl.toList) := by
  rcases (new_eq_ok_iff.mp made).2 with rfl
  have ends := slash_suffix_dropSlash_iff config.baseUrl
  constructor
  · intro query options
    show Query.doubled.toList <:+: (Query.address (dropSlash config.baseUrl) query options).toList ↔
      "//".toList <:+ config.baseUrl.toList ∨ Query.doubled.toList <:+: config.baseUrl.toList
    rw [Query.doubled_infix_address_iff, ends, doubled_infix_dropSlash_iff]
  · rw [← ends, List.getLast?_eq_some_iff]
    exact exists_congr fun front => eq_comm

/-- One slash at the end of a base URL is not doubled. -/
theorem slash_not_doubled_of_one :
    new slashClient.config = .ok slashClient ∧
      slashClient.base.toList.getLast? ≠ some '/' ∧
      ∀ (query : String) (options : Query.Options),
        ¬ "//a/changes/?q=".toList <:+: (slashClient.address query options).toList := by
  rcases slash_doubled_iff slashClient_accepted with ⟨addresses, base⟩
  have noTwo : ¬ "//".toList <:+ slashClient.config.baseUrl.toList := by decide
  have noEndpoint : ¬ "//a/changes/?q=".toList <:+: slashClient.config.baseUrl.toList := by
    intro endpoint
    have question := endpoint.subset (show '?' ∈ "//a/changes/?q=".toList by decide)
    exact absurd question (by decide)
  refine ⟨slashClient_accepted, fun kept => noTwo (base.mp kept), ?_⟩
  intro query options doubled
  rcases (addresses query options).mp doubled with two | endpoint
  · exact noTwo two
  · exact noEndpoint endpoint

/-- A client for a server whose base URL is written with two slashes at its end. -/
def slashesClient : Client :=
  ⟨.new "http://h//" ⟨"u", "p"⟩, "http://h/"⟩

/-- Of two slashes at the end of a base URL one is kept, and doubles that of the endpoint. -/
theorem slash_doubled_of_two :
    new slashesClient.config = .ok slashesClient ∧
      slashesClient.base.toList.getLast? = some '/' ∧
      slashesClient.address "x" .bare = "http://h//a/changes/?q=x" ∧
      "//a/changes/?q=".toList <:+: (slashesClient.address "x" .bare).toList := by
  have address : slashesClient.address "x" .bare = "http://h//a/changes/?q=x" := by
    decide +kernel
  refine ⟨new_eq_ok (by decide +kernel) (by decide), by decide, address, ?_⟩
  rw [address]
  exact ⟨"http://h".toList, ['x'], by decide⟩

end Client

end ReviewQuery
