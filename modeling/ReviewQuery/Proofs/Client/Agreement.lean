import ReviewQuery.Proofs.Client.Basic
import ReviewQuery.Proofs.Client.Call

/-!
# Objects and texts agree

The same answer can be taken as objects and as texts.  A body that cannot be read fails both calls
with one error, whatever its first changes are.  Otherwise the texts are always given, and the
objects are given exactly if every change is one; they have these texts.  If some change is no
object, the first such change is named.
-/

namespace ReviewQuery

/-- Whether a value is an object. -/
def Json.Value.isObject : Value → Bool
  | .object _ => true
  | _ => false

theorem Json.Value.isObject_iff {value : Value} :
    value.isObject = true ↔ ∃ members, value = .object members := by
  constructor
  · intro isObject
    cases value with
    | object members => exact ⟨members, rfl⟩
    | null | bool | number | string | array => cases isObject
  · rintro ⟨members, rfl⟩
    rfl

/-- The first change that is no object stands at an index. -/
def IsFirstStray (changes : List Json.Value) (index : Nat) : Prop :=
  (∃ change, changes[index]? = some change ∧ change.isObject = false) ∧
    ∀ earlier < index, ∀ change, changes[earlier]? = some change → change.isObject = true

/-! ## Changes as objects -/

theorem isObject_of_mem_map_object
    {records : List Json.Members}
    {change : Json.Value}
    (member : change ∈ records.map Json.Value.object) :
    change.isObject = true := by
  rcases List.mem_map.mp member with ⟨members, _, rfl⟩
  rfl

theorem isFirstStray_append
    (records : List Json.Members)
    {change : Json.Value}
    (stray : ∀ members, change ≠ .object members)
    (rest : List Json.Value) :
    IsFirstStray (records.map Json.Value.object ++ change :: rest) records.length := by
  have length : (records.map Json.Value.object).length = records.length := List.length_map _
  constructor
  · refine ⟨change, ?_, ?_⟩
    · rw [List.getElem?_append_right (Nat.le_of_eq length), length, Nat.sub_self,
        List.getElem?_cons_zero]
    · rw [← Bool.not_eq_true, Json.Value.isObject_iff]
      rintro ⟨members, same⟩
      exact stray members same
  · intro earlier before other found
    rw [List.getElem?_append_left (by omega)] at found
    exact isObject_of_mem_map_object (List.mem_of_getElem? found)

theorem IsFirstStray.exists_stray
    {changes : List Json.Value}
    {index : Nat}
    (first : IsFirstStray changes index) :
    ¬ ∀ change ∈ changes, change.isObject = true := by
  intro all
  rcases first.1 with ⟨change, found, stray⟩
  rw [all change (List.mem_of_getElem? found)] at stray
  cases stray

/-- Objects are given if every change is one; else the first that is none is named. -/
theorem answer_queryAsObjects_cases (options : Query.Options) (changes : List Json.Value) :
    (∃ records, changes = records.map Json.Value.object ∧
        (Call.queryAsObjects options).answer changes = .ok (.objects records)) ∨
      ∃ index, IsFirstStray changes index ∧
        (Call.queryAsObjects options).answer changes = .error (.notAnObject index) := by
  rcases objects_or_stray changes with ⟨records, rfl⟩ | ⟨records, change, rest, rfl, stray⟩
  · exact Or.inl ⟨records, rfl, Call.answer_of_records rfl records⟩
  · exact Or.inr ⟨records.length, isFirstStray_append records stray rest,
      Call.answer_of_stray rfl records stray rest⟩

theorem answer_queryAsObjects_isOk_iff (options : Query.Options) (changes : List Json.Value) :
    (∃ answer, (Call.queryAsObjects options).answer changes = .ok answer) ↔
      ∀ change ∈ changes, change.isObject = true := by
  rcases answer_queryAsObjects_cases options changes with
    ⟨records, rfl, given⟩ | ⟨index, first, failed⟩
  · exact ⟨fun _ _ member => isObject_of_mem_map_object member, fun _ => ⟨_, given⟩⟩
  · constructor
    · rintro ⟨answer, given⟩
      rw [failed] at given
      cases given
    · intro all
      exact absurd all first.exists_stray

/-- What is given as objects are the changes themselves, with the texts of the changes. -/
theorem eq_of_answer_queryAsObjects
    {options : Query.Options}
    {changes : List Json.Value}
    {answer : Answer}
    (given : (Call.queryAsObjects options).answer changes = .ok answer) :
    ∃ records, answer = .objects records ∧ changes = records.map Json.Value.object ∧
      answer.toTexts = changes.map Json.Value.text := by
  rcases answer_queryAsObjects_cases options changes with
    ⟨records, rfl, same⟩ | ⟨index, first, failed⟩
  · rw [given] at same
    cases same
    refine ⟨records, rfl, rfl, ?_⟩
    rw [List.map_map]
    rfl
  · rw [failed] at given
    cases given

theorem isFirstStray_of_answer_queryAsObjects
    {options : Query.Options}
    {changes : List Json.Value}
    {e : Error}
    (failed : (Call.queryAsObjects options).answer changes = .error e) :
    ∃ index, IsFirstStray changes index ∧ e = .notAnObject index := by
  rcases answer_queryAsObjects_cases options changes with
    ⟨records, rfl, given⟩ | ⟨index, first, same⟩
  · rw [failed] at given
    cases given
  · rw [failed] at same
    exact ⟨index, first, Except.error.inj same⟩

/-! ## Both calls -/

/--
Both calls fail with the error of a body that cannot be read.  If the body holds changes, their
texts are given in order.  Objects are given exactly if every change is one, and they are the
changes, with the texts of the other call; the only other error is that of the first change that is
no object.
-/
theorem calls_agree
    {σ : Type}
    (client : Client)
    (transport : Transport σ)
    (query : String)
    (options : Query.Options)
    (statusLine body : String)
    (replied :
      (transport (client.address query options) client.config.credential).reply =
        .ok ⟨200, statusLine, body⟩) :
    let objects := (client.call transport (.queryAsObjects options) query).result
    let texts := (client.call transport (.queryAsTexts options) query).result
    (∀ e, readChanges body = .error e → objects = .error e ∧ texts = .error e) ∧
      ∀ changes, readChanges body = .ok changes →
        texts = .ok (.texts (changes.map Json.Value.text)) ∧
          ((∃ answer, objects = .ok answer) ↔ ∀ change ∈ changes, change.isObject = true) ∧
          (∀ answer, objects = .ok answer →
            ∃ records, answer = .objects records ∧ changes = records.map Json.Value.object ∧
              answer.toTexts = changes.map Json.Value.text) ∧
          ∀ e, objects = .error e →
            ∃ index, IsFirstStray changes index ∧ e = .notAnObject index := by
  intro objects texts
  have objectsOf : objects = (readChanges body).bind (Call.queryAsObjects options).answer :=
    Client.result_call_of_accepted (.queryAsObjects options) replied
  have textsOf : texts = (readChanges body).bind (Call.queryAsTexts options).answer :=
    Client.result_call_of_accepted (.queryAsTexts options) replied
  constructor
  · intro e unread
    rw [objectsOf, textsOf, unread]
    exact ⟨rfl, rfl⟩
  · intro changes read
    rw [objectsOf, textsOf, read]
    refine ⟨Call.answer_of_texts rfl changes, ?_, ?_, ?_⟩
    · exact answer_queryAsObjects_isOk_iff options changes
    · intro answer given
      exact eq_of_answer_queryAsObjects given
    · intro e failed
      exact isFirstStray_of_answer_queryAsObjects failed

/-- An object with two members alone, the same object in front of changes that are none, and a
change that is none in front of a fault. -/
theorem calls_agree_on_stray_changes :
    let result (body : String) (call : Call) : Except Error Answer :=
      (Client.slashClient.call (.bringing body) call "x").result
    let members : Json.Members := [("b", .number (.integer 1)), ("a", .array [.null, .string ""])]
    let whole := ")]\x7d'\n[\x7b\"b\":1,\"a\":[null,\"\"]\x7d]"
    let stray := ")]\x7d'\n[\x7b\"b\":1,\"a\":[null,\"\"]\x7d,42,7]"
    let broken := ")]\x7d'\n[7,[1"
    result whole (.queryAsObjects .standard) = .ok (.objects [members]) ∧
      (result stray (.queryAsTexts .standard) =
          .ok (.texts ["\x7b\"b\":1,\"a\":[null,\"\"]\x7d", "42", "7"]) ∧
        ∃ index,
          IsFirstStray [.object members, .number (.integer 42), .number (.integer 7)] index ∧
            result stray (.queryAsObjects .standard) = .error (.notAnObject index)) ∧
      ∃ fault,
        result broken (.queryAsObjects .standard) = .error (.badPayload fault) ∧
          result broken (.queryAsTexts .standard) = .error (.badPayload fault) := by
  intro result members whole stray broken
  have agree (body : String) :=
    calls_agree Client.slashClient (.bringing body) "x" .standard "HTTP/1.1 200 OK" body rfl
  have readWhole : readChanges whole = .ok [.object members] := by
    dsimp only [whole, members]
    with_unfolding_all rfl
  have readStray :
      readChanges stray = .ok [.object members, .number (.integer 42), .number (.integer 7)] := by
    dsimp only [stray, members]
    with_unfolding_all rfl
  have readBroken : readChanges broken = .error (.badPayload ⟨.unfinishedArray, ⟨1, 5⟩⟩) := by
    dsimp only [broken]
    with_unfolding_all rfl
  obtain ⟨-, accepted, taken, -⟩ := (agree whole).2 _ readWhole
  obtain ⟨texts, refused, -, failed⟩ := (agree stray).2 _ readStray
  refine ⟨?_, ⟨texts, ?_⟩, _, (agree broken).1 _ readBroken⟩
  · have all : ∀ change ∈ [Json.Value.object members], change.isObject = true := by
      intro change member
      rw [List.mem_singleton.mp member]
      rfl
    rcases accepted.mpr all with ⟨answer, given⟩
    rcases taken answer given with ⟨records, rfl, same, _⟩
    rcases List.map_eq_singleton_iff.mp same.symm with ⟨record, rfl, object⟩
    cases object
    exact given
  · cases given : result stray (.queryAsObjects .standard) with
    | ok answer =>
        have all := refused.mp ⟨answer, given⟩
        cases all (.number (.integer 42)) (by simp)
    | error e =>
        rcases failed e given with ⟨index, first, rfl⟩
        exact ⟨index, first, rfl⟩

end ReviewQuery
