import Mathlib.Data.List.Pairwise
import ReviewQuery.Proofs.Json.RecordText

/-!
# The members of a record

What an object puts into a draft is told member by member: each slot of the record is filled from
the members with its name, of which there may be one at most, and no slot notices the others.  So a
record is read from an object exactly if all of its slots are filled, whatever the order of the
members is and whatever stands among them.
-/

namespace ReviewQuery.Json

namespace Document

/-! ## Values of a name -/

/-- The values of the members with a name, in their order. -/
def valuesOf (name : String) (members : List (String × Document)) : List Document :=
  (members.filter fun member => member.1 = name).map Prod.snd

theorem valuesOf_cons_self
    (name : String)
    (document : Document)
    (members : List (String × Document)) :
    valuesOf name ((name, document) :: members) = document :: valuesOf name members := by
  simp [valuesOf]

theorem valuesOf_cons_of_ne
    {name other : String}
    (differs : other ≠ name)
    (document : Document)
    (members : List (String × Document)) :
    valuesOf name ((other, document) :: members) = valuesOf name members := by
  simp [valuesOf, differs]

/-! ## One member of a draft -/

/-- How documents that are put into one member of a draft one after another change it: none of them
leaves it as it is, one may be put where nothing is, and there is no room for a second one. -/
inductive Fills
    {α : Type}
    (meaning : Document → Option α) : Option α → List Document → Option α → Prop where
  | keep (old : Option α) : Fills meaning old [] old
  | put
      {document : Document}
      {value : α}
      (means : meaning document = some value) :
      Fills meaning none [document] (some value)

section Fills

variable
  {α : Type}
  {meaning : Document → Option α}

theorem fills_nil_iff {old new : Option α} : Fills meaning old [] new ↔ old = new := by
  constructor
  · intro fills
    cases fills with
    | keep => rfl
  · rintro rfl
    exact .keep old

theorem fills_cons_iff
    {old new : Option α}
    {document : Document}
    {documents : List Document} :
    Fills meaning old (document :: documents) new ↔
      old = none ∧ ∃ value, meaning document = some value ∧
        Fills meaning (some value) documents new := by
  constructor
  · intro fills
    cases fills with
    | put means => exact ⟨rfl, _, means, .keep _⟩
  · rintro ⟨rfl, value, means, fills⟩
    cases fills with
    | keep => exact .put means

theorem fills_none_some_iff {documents : List Document} {value : α} :
    Fills meaning none documents (some value) ↔
      ∃ document, documents = [document] ∧ meaning document = some value := by
  constructor
  · intro fills
    cases fills with
    | put means => exact ⟨_, rfl, means⟩
  · rintro ⟨document, rfl, means⟩
    exact .put means

end Fills

end Document

open Document

namespace Record

/-! ## One more member -/

section Members

variable
  {α δ ρ : Type}
  {record : Record δ ρ}
  {draft result : δ}
  {members : List (String × Document)}

/-- A value is put into a draft if there is none yet and the document means one; the members behind
it go into the draft with the value. -/
theorem addMembers?_cons_of_found
    {reader : Reader α}
    {meaning : Document → Option α}
    (reads : reader.Reads meaning)
    {name : String}
    {isOptional : Bool}
    {get? : δ → Option α}
    {set : δ → α → δ}
    (found : record.members.find? (·.name = name) = some (.of name isOptional reader get? set))
    (document : Document) :
    record.addMembers? draft ((name, document) :: members) = some result ↔
      get? draft = none ∧ ∃ value, meaning document = some value ∧
        record.addMembers? (set draft value) members = some result := by
  rw [addMembers?, Option.bind_eq_some_iff, addMember?, found]
  dsimp only
  rw [Member.put?_of reads]
  show (∃ next, (if (get? draft).isSome then _ else _) = _ ∧ _) ↔ _
  cases held : get? draft with
  | some value => simp
  | none => simp [Option.map_eq_some_iff]

/-- A member that nobody asks for does not matter. -/
theorem addMembers?_cons_of_unknown
    {name : String}
    (unknown : record.members.find? (·.name = name) = none)
    (document : Document) :
    record.addMembers? draft ((name, document) :: members) = record.addMembers? draft members := by
  rw [addMembers?, addMember?, unknown]
  rfl

end Members

end Record

/-! ## All members of a draft -/

/-- A member of a record whose value is read by a reader, with what documents mean to it. -/
structure Slot (δ : Type) where
  {α : Type}
  name : String
  isOptional : Bool
  reader : Reader α
  meaning : Document → Option α
  get? : δ → Option α
  set : δ → α → δ
  reads : reader.Reads meaning
  get?_set : ∀ draft value, get? (set draft value) = some value

namespace Slot

variable {δ : Type}

/-- The slot of a string, which may not be missing. -/
def ofText
    (name : String)
    (get? : δ → Option String)
    (set : δ → String → δ)
    (get?_set : ∀ draft text, get? (set draft text) = some text) : Slot δ where
  name := name
  isOptional := false
  reader := Reader.text
  meaning := Document.string?
  get? := get?
  set := set
  reads := Reader.reads_text
  get?_set := get?_set

/-- The member of a slot. -/
def member (slot : Slot δ) : Member δ :=
  .of slot.name slot.isOptional slot.reader slot.get? slot.set

/-- Whether a slot is filled from the members with its name. -/
def FilledFrom
    (slot : Slot δ)
    (draft : δ)
    (members : List (String × Document))
    (result : δ) : Prop :=
  Fills slot.meaning (slot.get? draft) (valuesOf slot.name members) (slot.get? result)

/-- Two slots with different names, neither of which notices that the other is set. -/
structure Apart (left right : Slot δ) : Prop where
  name_ne : left.name ≠ right.name
  get?_set_left : ∀ draft value, right.get? (left.set draft value) = right.get? draft
  get?_set_right : ∀ draft value, left.get? (right.set draft value) = left.get? draft

instance : Std.Symm (@Apart δ) where
  symm _ _ apart := ⟨apart.name_ne.symm, apart.get?_set_right, apart.get?_set_left⟩

section Filled

variable
  {slot other : Slot δ}
  {draft result : δ}
  {name : String}
  {document : Document}
  {members : List (String × Document)}

theorem filledFrom_nil_iff :
    slot.FilledFrom draft [] result ↔ slot.get? draft = slot.get? result :=
  fills_nil_iff

theorem filledFrom_cons_of_ne (differs : name ≠ slot.name) :
    slot.FilledFrom draft ((name, document) :: members) result ↔
      slot.FilledFrom draft members result := by
  rw [FilledFrom, FilledFrom, valuesOf_cons_of_ne differs]

/-- A slot takes the first value of its name, if it is empty, and goes on with this value. -/
theorem filledFrom_cons_self_iff :
    slot.FilledFrom draft ((slot.name, document) :: members) result ↔
      slot.get? draft = none ∧ ∃ value, slot.meaning document = some value ∧
        slot.FilledFrom (slot.set draft value) members result := by
  simp only [FilledFrom, valuesOf_cons_self, fills_cons_iff, slot.get?_set]

/-- A slot does not notice that another one takes a value. -/
theorem Apart.filledFrom_set_iff (apart : slot.Apart other) (value : slot.α) :
    other.FilledFrom (slot.set draft value) members result ↔
      other.FilledFrom draft ((slot.name, document) :: members) result := by
  rw [filledFrom_cons_of_ne apart.name_ne, FilledFrom, apart.get?_set_left, FilledFrom]

end Filled

end Slot

/-! ## Items of an array -/

/-- How the items of an array make a draft of another: each goes into the slot whose turn it is, and
only slots that are optional may be left when the items end. -/
inductive Slot.Lists {δ : Type} : List (Slot δ) → δ → List Document → δ → Prop where
  | done
      {draft result : δ}
      (same : draft = result) :
      Lists [] draft [] result
  | item
      {slot : Slot δ}
      {slots : List (Slot δ)}
      {draft result : δ}
      {document : Document}
      {items : List Document}
      {value : slot.α}
      (means : slot.meaning document = some value)
      (others : Lists slots (slot.set draft value) items result) :
      Lists (slot :: slots) draft (document :: items) result
  | left
      {slot : Slot δ}
      {slots : List (Slot δ)}
      {draft result : δ}
      (isOptional : slot.isOptional = true)
      (others : Lists slots draft [] result) :
      Lists (slot :: slots) draft [] result

/-- The items of an array are put into the slots in their order. -/
theorem Slot.addItems?_eq_some_iff
    {δ : Type}
    {slots : List (Slot δ)}
    {draft result : δ}
    {items : List Document} :
    Record.addItems? (slots.map Slot.member) draft items = some result ↔
      Slot.Lists slots draft items result := by
  induction slots generalizing draft items with
  | nil =>
      cases items with
      | nil =>
          rw [List.map_nil, Record.addItems?, Option.some.injEq]
          constructor
          · exact .done
          · rintro ⟨same⟩
            exact same
      | cons document items => exact iff_of_false (by rintro ⟨⟩) (by rintro ⟨⟩)
  | cons slot slots ih =>
      cases items with
      | nil =>
          rw [List.map_cons, Record.addItems?]
          show (if slot.isOptional then _ else none) = _ ↔ _
          cases optional : slot.isOptional with
          | false =>
              refine iff_of_false (by rintro ⟨⟩) ?_
              rintro (_ | _ | ⟨isOptional, _⟩)
              rw [optional] at isOptional
              cases isOptional
          | true =>
              rw [if_pos rfl, ih]
              constructor
              · exact .left optional
              · rintro (_ | _ | ⟨_, others⟩)
                exact others
      | cons document items =>
          rw [List.map_cons, Record.addItems?, Slot.member, Member.put?_of slot.reads,
            Option.bind_eq_some_iff]
          simp only [Option.map_eq_some_iff, ih]
          constructor
          · rintro ⟨_, ⟨value, means, rfl⟩, others⟩
            exact .item means others
          · rintro (_ | ⟨means, others⟩ | _)
            exact ⟨_, ⟨_, means, rfl⟩, others⟩

/-! ## Records of slots -/

/-- A record whose members are slots that are apart; a draft is known from what its slots hold. -/
structure Record.HasSlots
    {δ ρ : Type}
    (record : Record δ ρ)
    (slots : List (Slot δ)) : Prop where
  members_eq : record.members = slots.map Slot.member
  apart : slots.Pairwise Slot.Apart
  ext : ∀ draft result, (∀ slot ∈ slots, slot.get? draft = slot.get? result) → draft = result

namespace Record.HasSlots

variable
  {δ ρ : Type}
  {record : Record δ ρ}
  {slots : List (Slot δ)}
  (has : record.HasSlots slots)

include has

/-- What is read for a member does not depend on what follows. -/
theorem isLocal_of_mem_members : ∀ member ∈ record.members, member.IsLocal := by
  intro member among
  rw [has.members_eq] at among
  rcases List.mem_map.mp among with ⟨slot, _, rfl⟩
  exact Member.isLocal_of slot.reads _ _ _ _

theorem find?_members (name : String) :
    record.members.find? (·.name = name) = (slots.find? (·.name = name)).map Slot.member := by
  rw [has.members_eq, List.find?_map]
  rfl

theorem eq_or_apart
    {slot other : Slot δ}
    (among : slot ∈ slots)
    (otherAmong : other ∈ slots) :
    other = slot ∨ slot.Apart other := by
  by_cases same : other = slot
  · exact Or.inl same
  · exact Or.inr (has.apart.forall among otherAmong (Ne.symm same))

/-- A member with the name of a slot goes into this slot. -/
theorem forall_filledFrom_cons_iff
    {slot : Slot δ}
    (among : slot ∈ slots)
    {draft result : δ}
    {document : Document}
    {members : List (String × Document)} :
    (∀ other ∈ slots, other.FilledFrom draft ((slot.name, document) :: members) result) ↔
      slot.get? draft = none ∧ ∃ value, slot.meaning document = some value ∧
        ∀ other ∈ slots, other.FilledFrom (slot.set draft value) members result := by
  constructor
  · intro filled
    obtain ⟨empty, value, means, own⟩ := Slot.filledFrom_cons_self_iff.mp (filled slot among)
    refine ⟨empty, value, means, ?_⟩
    intro other otherAmong
    rcases has.eq_or_apart among otherAmong with rfl | apart
    · exact own
    · exact (apart.filledFrom_set_iff value).mpr (filled other otherAmong)
  · rintro ⟨empty, value, means, filled⟩ other otherAmong
    rcases has.eq_or_apart among otherAmong with rfl | apart
    · exact Slot.filledFrom_cons_self_iff.mpr ⟨empty, value, means, filled other otherAmong⟩
    · exact (apart.filledFrom_set_iff value).mp (filled other otherAmong)

/-- The members of an object make a draft of another exactly if they fill every slot. -/
theorem addMembers?_eq_some_iff
    {draft result : δ}
    {members : List (String × Document)} :
    record.addMembers? draft members = some result ↔
      ∀ slot ∈ slots, slot.FilledFrom draft members result := by
  induction members generalizing draft with
  | nil =>
      simp only [addMembers?, Slot.filledFrom_nil_iff, Option.some.injEq]
      constructor
      · rintro rfl slot _
        rfl
      · exact has.ext draft result
  | cons first others ih =>
      rcases first with ⟨name, document⟩
      have member := has.find?_members name
      cases found : slots.find? (·.name = name) with
      | none =>
          rw [found] at member
          rw [addMembers?_cons_of_unknown member, ih]
          refine forall₂_congr ?_
          intro slot among
          have differs : name ≠ slot.name := by
            have unlike := List.find?_eq_none.mp found slot among
            simpa [eq_comm] using unlike
          exact (Slot.filledFrom_cons_of_ne differs).symm
      | some slot =>
          have named : slot.name = name := by simpa using List.find?_some found
          have among : slot ∈ slots := List.mem_of_find?_eq_some found
          rw [found] at member
          subst named
          rw [addMembers?_cons_of_found slot.reads member, has.forall_filledFrom_cons_iff among]
          simp only [ih]

end Record.HasSlots

end ReviewQuery.Json
