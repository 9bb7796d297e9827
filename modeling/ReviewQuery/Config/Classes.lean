import ReviewQuery.Client.Basic

/-!
# Classes of equal values

Values in a list fall into classes of equal ones.  A class is named by the place of its first
member.  A hash is of use only if it is the same for all members of a class, which is so for
credentials, for configurations, and for clients, whose equality is that of their configurations.
-/

namespace ReviewQuery

/-! ## Classes of a list -/

section Classes

variable {α : Type} [BEq α]

/-- For each value of a list the place of the first value equal to it. -/
def classes (values : List α) : List Nat :=
  values.map fun value => values.findIdx (· == value)

/-- The number of classes of a list. -/
def classCount (values : List α) : Nat :=
  (classes values).eraseDups.length

/-- Whether equal values of a list have equal hashes. -/
def hashesAgree [Hashable α] (values : List α) : Bool :=
  values.all fun left => values.all fun right => left != right || hash left == hash right

/-- Where the hash respects equality, no list shows otherwise. -/
theorem hashesAgree_eq_true [Hashable α] [LawfulHashable α] (values : List α) :
    hashesAgree values = true := by
  rw [hashesAgree, List.all_eq_true]
  intro left _
  rw [List.all_eq_true]
  intro right _
  rw [Bool.or_eq_true, beq_iff_eq]
  cases equal : left == right with
  | true => exact Or.inr (hash_eq equal)
  | false => exact Or.inl (congrArg not equal)

end Classes

/-! ## Equal clients -/

namespace Client

theorem beq_iff_config_eq {left right : Client} :
    (left == right) = true ↔ left.config = right.config := by
  show (left.config == right.config) = true ↔ left.config = right.config
  exact beq_iff_eq

/-- Equal clients have equal hashes. -/
theorem hash_eq_of_beq {left right : Client} (equal : (left == right) = true) :
    hash left = hash right := by
  show hash left.config = hash right.config
  rw [beq_iff_config_eq.mp equal]

instance : LawfulHashable Client where
  hash_eq _ _ := hash_eq_of_beq

end Client

end ReviewQuery
