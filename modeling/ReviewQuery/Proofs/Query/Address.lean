import ReviewQuery.Proofs.Url.FormDecoding
import ReviewQuery.Query.Options

/-!
# The address tells the query

Behind the base URL and the endpoint an address is a written form: the query as the field `q` and
every option that is sent as a field `o`.  Reading the form gives back the query and the options, so
no query can pass for another one or for an option.
-/

namespace ReviewQuery.Query

open Url

/-- The fields of a request. -/
def fields (query : String) (options : Options) : List (String × String) :=
  ("q", query) :: options.sent.map fun option => ("o", option.name)

/-! ## Options in a form -/

theorem encode_name (option : ListOption) :
    FormEncoding.encode option.name = option.name.toList := by
  cases option <;> decide

theorem name_injective {left right : ListOption} (same : left.name = right.name) :
    left = right := by
  revert same
  cases left <;> cases right <;> decide

theorem fields_injective
    {query query' : String}
    {options options' : Options}
    (same : fields query options = fields query' options') :
    query = query' ∧ options.sent = options'.sent := by
  rcases List.cons.inj same with ⟨first, others⟩
  refine ⟨(Prod.mk.inj first).2, ?_⟩
  refine (List.map_inj_right ?_).mp others
  intro left right samePair
  exact name_injective (Prod.mk.inj samePair).2

/-! ## The form in an address -/

theorem writeField_option (option : ListOption) :
    '&' :: FormEncoding.writeField ("o", option.name) = "&o=".toList ++ option.name.toList := by
  have name : FormEncoding.encode "o" = ['o'] := by decide
  have lead : "&o=".toList = ['&', 'o', '='] := by decide
  rw [FormEncoding.writeField, encode_name, name, lead]
  rfl

theorem write_fields (query : String) (options : Options) :
    FormEncoding.write (fields query options) =
      "q=".toList ++ (FormEncoding.encode query ++
        options.sent.flatMap fun option => "&o=".toList ++ option.name.toList) := by
  have name : FormEncoding.encode "q" = ['q'] := by decide
  have lead : "q=".toList = ['q', '='] := by decide
  rw [fields, FormEncoding.write_cons, List.flatMap_map, FormEncoding.writeField, name, lead]
  simp only [writeField_option, List.cons_append, List.nil_append]

/-- Behind the endpoint an address is a written form. -/
theorem address_eq (base query : String) (options : Options) :
    address base query options =
      base ++ "/a/changes/?" ++ String.ofList (FormEncoding.write (fields query options)) := by
  have lead : endpoint.toList ++ "?q=".toList = "/a/changes/?".toList ++ "q=".toList := by decide
  rw [← String.toList_inj]
  simp only [address, write_fields, String.toList_append, String.toList_ofList, List.append_assoc]
  rw [← List.append_assoc endpoint.toList, lead, List.append_assoc]

/-- The same query to two base URLs has the same address only if they are the same. -/
theorem address_left_inj {base base' : String} (query : String) (options : Options) :
    address base query options = address base' query options ↔ base = base' := by
  rw [address_eq, address_eq, String.append_assoc, String.append_assoc, String.append_left_inj]

/--
Behind the base URL and the endpoint an address holds only characters of a form, and reading the
form gives back the query and the options that are sent.  So two requests to one base URL have the
same address exactly when they ask for the same.
-/
theorem address_decodes (base query : String) (options : Options) :
    ∃ form : List Char,
      address base query options = base ++ "/a/changes/?" ++ String.ofList form ∧
      (∀ c ∈ form, FormEncoding.isFormChar c = true) ∧
      FormEncoding.readFields? form =
        some (("q", query) :: options.sent.map fun option => ("o", option.name)) ∧
      ∀ (query' : String) (options' : Options),
        address base query' options' = address base query options ↔
          query' = query ∧ options'.sent = options.sent := by
  have readBack (query : String) (options : Options) :
      FormEncoding.readFields? (FormEncoding.write (fields query options)) =
        some (fields query options) :=
    FormEncoding.readFields?_write (List.cons_ne_nil _ _)
  refine ⟨FormEncoding.write (fields query options), address_eq base query options, ?_,
    readBack query options, ?_⟩
  · intro c member
    exact FormEncoding.isFormChar_of_mem_write member
  · intro query' options'
    constructor
    · intro same
      rw [address_eq, address_eq, String.append_right_inj, String.ofList_inj] at same
      have read := readBack query' options'
      rw [same, readBack] at read
      exact fields_injective (Option.some.inj read).symm
    · rintro ⟨rfl, sent⟩
      rw [address_eq, address_eq, fields, fields, sent]

end ReviewQuery.Query
