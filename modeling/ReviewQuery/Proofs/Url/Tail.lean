import Mathlib.Data.Bool.AllAny
import Mathlib.Data.List.TakeWhile
import ReviewQuery.Proofs.Url.FormDecoding
import ReviewQuery.Proofs.Url.Path

/-!
# Queries and fragments

A query starts at the first question mark of a text and a fragment at the first number sign.  So
they are the same whatever text without these two signs is read in front of them, and a form that
follows such a text is the query as it stands.
-/

namespace ReviewQuery.Url

/-- Whether neither a query nor a fragment starts in a text. -/
def HasNoTail (text : List Char) : Prop :=
  ∀ c ∈ text, c ≠ '?' ∧ c ≠ '#'

instance (text : List Char) : Decidable (HasNoTail text) :=
  List.decidableBAll _ text

section Tail

variable {front rest : List Char}

theorem hasNoTail_iff : HasNoTail front ↔ '?' ∉ front ∧ '#' ∉ front := by
  constructor
  · intro plain
    constructor
    · intro mark
      exact (plain '?' mark).1 rfl
    · intro sign
      exact (plain '#' sign).2 rfl
  · rintro ⟨noMark, noSign⟩ c member
    constructor
    · rintro rfl
      exact noMark member
    · rintro rfl
      exact noSign member

theorem HasNoTail.append (plain : HasNoTail front) (restPlain : HasNoTail rest) :
    HasNoTail (front ++ rest) := by
  intro c member
  rcases List.mem_append.mp member with first | second
  · exact plain c first
  · exact restPlain c second

theorem HasNoTail.of_subset (plain : HasNoTail rest) (within : front ⊆ rest) : HasNoTail front := by
  intro c member
  exact plain c (within member)

/-- A text in front of a query belongs to the path. -/
theorem splitTail_append (plain : HasNoTail front) (rest : List Char) :
    splitTail (front ++ rest) = (front ++ (splitTail rest).1, (splitTail rest).2) := by
  have noSign : ∀ c ∈ front, decide (c ≠ '#') = true := by
    intro c member
    exact decide_eq_true (plain c member).2
  have noMark : ∀ c ∈ front, decide (c ≠ '?') = true := by
    intro c member
    exact decide_eq_true (plain c member).1
  simp only [splitTail, List.takeWhile_append_of_pos noSign, List.dropWhile_append_of_pos noSign,
    List.takeWhile_append_of_pos noMark, List.dropWhile_append_of_pos noMark]

theorem splitTail_of_hasNoTail (plain : HasNoTail front) :
    splitTail front = (front, none, none) := by
  have whole := splitTail_append plain []
  rw [List.append_nil] at whole
  rw [whole, splitTail]
  simp

/-- A query without a number sign goes to the end. -/
theorem splitTail_query {query : List Char} (noSign : '#' ∉ query) :
    splitTail ('?' :: query) = ([], some query, none) := by
  have plain : ∀ c ∈ '?' :: query, decide (c ≠ '#') = true := by
    intro c member
    rw [decide_eq_true_eq]
    rintro rfl
    rcases List.mem_cons.mp member with mark | inside
    · cases mark
    · exact noSign inside
  have whole : ('?' :: query).takeWhile (fun c => decide (c ≠ '#')) = '?' :: query :=
    List.takeWhile_eq_self_iff.mpr plain
  have nothing : ('?' :: query).dropWhile (fun c => decide (c ≠ '#')) = [] :=
    List.dropWhile_eq_nil_iff.mpr plain
  simp only [splitTail, whole, nothing]
  rfl

/-- A number sign starts a fragment. -/
theorem fragment_of_mem {text : List Char} (sign : '#' ∈ text) : (splitTail text).2.2 ≠ none := by
  rcases List.eq_append_cons_of_mem sign with ⟨front, fragment, rfl, noSign⟩
  have plain : ∀ c ∈ front, decide (c ≠ '#') = true := by
    intro c member
    rw [decide_eq_true_eq]
    rintro rfl
    exact noSign member
  simp only [splitTail, List.dropWhile_append_of_pos plain]
  rw [List.dropWhile_cons_of_neg (by simp)]
  rintro ⟨⟩

/-! ## Forms -/

theorem toNat_lt_of_isFormChar {c : Char} (inForm : FormEncoding.isFormChar c = true) :
    c.toNat < 128 := by
  have signs : ∀ d ∈ "*-._+%".toList, d.toNat < 128 := List.all_iff_forall_prop.mp (by decide)
  rw [FormEncoding.isFormChar, FormEncoding.isEncoded, Bool.or_eq_true, Bool.or_eq_true,
    Bool.or_eq_true, decide_eq_true_eq, decide_eq_true_eq, List.contains_iff_mem] at inForm
  rcases inForm with ((letter | sign) | rfl) | rfl
  · exact Text.Utf8.toNat_lt_of_isAlphanum letter
  · exact signs c sign
  · decide
  · decide

theorem encodeChar_of_isFormChar {c : Char} (inForm : FormEncoding.isFormChar c = true) :
    PercentEncoding.encodeChar PercentEncoding.inQuery c = [c] ∧
      PercentEncoding.encodeChar PercentEncoding.inSpecialQuery c = [c] := by
  have all : ∀ code < 128, FormEncoding.isFormChar (Char.ofNat code) = true →
      PercentEncoding.encodeChar PercentEncoding.inQuery (Char.ofNat code) = [Char.ofNat code] ∧
        PercentEncoding.encodeChar PercentEncoding.inSpecialQuery (Char.ofNat code) =
          [Char.ofNat code] := by
    decide +kernel
  have known := all c.toNat (toNat_lt_of_isFormChar inForm)
  rw [Char.ofNat_toNat] at known
  exact known inForm

/-- A form stands in a query as it is written. -/
theorem encodeQuery_form
    {form : List Char}
    (inForm : ∀ c ∈ form, FormEncoding.isFormChar c = true)
    (kind : SchemeKind) :
    encodeQuery kind form = form := by
  apply PercentEncoding.encode_of_kept
  intro c member
  have known := encodeChar_of_isFormChar (inForm c member)
  split
  · exact known.2
  · exact known.1

end Tail

end ReviewQuery.Url
