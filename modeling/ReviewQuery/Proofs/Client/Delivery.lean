import Mathlib.Data.Bool.AllAny
import ReviewQuery.Proofs.Client.Basic
import ReviewQuery.Proofs.Client.Call
import ReviewQuery.Proofs.Json.ValueText
import ReviewQuery.Proofs.Query.Payload

/-!
# Nothing is lost between a server and the answer

A `Delivery` is what a server sends for some values: a guarding first line, a line break, the
compact text of the values as one array with blanks around it, and a tail of further lines.  The
client gives back exactly these values, as objects and as texts, unless one of them nests so deep
that the array around it goes beyond the limit; then the payload is refused.
-/

namespace ReviewQuery

/-- What a server sends for some values. -/
structure Delivery where
  guardLine : List Char
  lineBreak : Query.LineBreak
  before : List Char
  values : List Json.Value
  after : List Char
  tail : List Char
  guardLine_oneLine : ∀ c ∈ guardLine, c ≠ '\r' ∧ c ≠ '\n'
  before_blank : ∀ c ∈ before, c = ' ' ∨ c = '\t'
  values_plain : ∀ value ∈ values, value.IsPlain
  after_blank : ∀ c ∈ after, c = ' ' ∨ c = '\t'
  tail_newLine : ∀ c ∈ tail.head?, c = '\r' ∨ c = '\n'

namespace Delivery

/-- The array of the values, compact and with the blanks around it. -/
def line (delivery : Delivery) : List Char :=
  delivery.before ++
    ('[' :: [','].intercalate (delivery.values.map Json.Value.render) ++ [']']) ++
    delivery.after

/-- The body of the response. -/
def body (delivery : Delivery) : String :=
  String.ofList
    (delivery.guardLine ++ (delivery.lineBreak.chars ++ (delivery.line ++ delivery.tail)))

variable (delivery : Delivery)

/-! ## The line with the array -/

theorem line_eq :
    delivery.line =
      delivery.before ++ (Json.Value.array delivery.values).render ++ delivery.after := by
  rw [line, Json.Value.render, Json.Value.renderItems_eq_intercalate]

theorem isLineEnd_of_isGraphic {c : Char} (graphic : Json.isGraphic c = true) :
    Query.isLineEnd c = false := by
  rw [← Bool.not_eq_true]
  intro lineEnd
  simp only [Query.isLineEnd, Bool.or_eq_true, decide_eq_true_eq] at lineEnd
  rcases lineEnd with rfl | rfl <;> cases graphic

/-- However many strings it holds, the array stays on one line. -/
theorem line_oneLine : ∀ c ∈ delivery.line, Query.isLineEnd c = false := by
  have blank {c : Char} (space : c = ' ' ∨ c = '\t') : Query.isLineEnd c = false := by
    rcases space with rfl | rfl <;> rfl
  intro c member
  rw [line_eq, List.mem_append, List.mem_append] at member
  rcases member with (before | inside) | after
  · exact blank (delivery.before_blank c before)
  · exact isLineEnd_of_isGraphic (Json.Value.isGraphic_of_mem_render inside)
  · exact blank (delivery.after_blank c after)

/-- The payload of the body is the line with the array. -/
theorem payload?_body :
    Query.payload? delivery.body = some (String.ofList delivery.line) := by
  have nonempty : delivery.line ≠ [] := by
    simp [line]
  have oneLine : ∀ c ∈ delivery.guardLine, Query.isLineEnd c = false := by
    intro c member
    simp [Query.isLineEnd, delivery.guardLine_oneLine c member]
  have newLine : ∀ c ∈ delivery.tail.head?, Query.isLineEnd c = true := by
    intro c member
    rcases delivery.tail_newLine c member with rfl | rfl <;> rfl
  exact Query.payload?_append oneLine delivery.lineBreak nonempty delivery.line_oneLine newLine

/-! ## The values in the array -/

theorem isBlank_of_space {c : Char} (space : c = ' ' ∨ c = '\t') : Json.isBlank c = true := by
  rcases space with rfl | rfl <;> rfl

/-- Values within the limit are decoded as they are. -/
theorem readChanges_body
    (shallow : ∀ value ∈ delivery.values, value.depth ≤ 126) :
    readChanges delivery.body = .ok delivery.values := by
  have read :=
    Json.readItems_render
      (fun c member => isBlank_of_space (delivery.before_blank c member))
      (fun c member => isBlank_of_space (delivery.after_blank c member))
      delivery.values_plain
      (fun value member => Nat.lt_succ_of_le (shallow value member))
  rw [readChanges, payload?_body]
  simp only [Json.decodeItems, String.toList_ofList, line_eq, read, Except.mapError]

/-- A value beyond the limit makes the payload a fault. -/
theorem readChanges_body_tooDeep
    (deep : ∃ value ∈ delivery.values, 127 ≤ value.depth) :
    ∃ position, readChanges delivery.body = .error (.badPayload ⟨.tooDeep, position⟩) := by
  obtain ⟨remaining, refused⟩ :=
    Json.readItems_render_tooDeep
      (fun c member => isBlank_of_space (delivery.before_blank c member))
      (fun c member => isBlank_of_space (delivery.after_blank c member))
      delivery.values_plain deep
  rw [readChanges, payload?_body]
  simp only [Json.decodeItems, String.toList_ofList, line_eq, refused, Except.mapError]
  exact ⟨_, rfl⟩

/-! ## Deliveries of any depth -/

/-- A record of two members inside as many others as `levels` asks for, with a line feed in its
innermost string. -/
def nested : Nat → Json.Value
  | 0 => .string "\n"
  | levels + 1 => .object [("b", nested levels), ("a", .null)]

theorem depth_nested (levels : Nat) : (nested levels).depth = levels := by
  induction levels with
  | zero => rfl
  | succ levels ih =>
      simp only [nested, Json.Value.depth, Json.Value.depthOfMembers, ih]
      omega

theorem isPlain_nested (levels : Nat) : (nested levels).IsPlain := by
  induction levels with
  | zero => exact .string _
  | succ levels ih =>
      refine .object (by simp) ?_
      intro member among
      rcases List.mem_cons.mp among with rfl | last
      · exact ih
      · cases List.mem_singleton.mp last
        exact .null

theorem depth_le_of_mem_map_nested
    {levels : List Nat}
    {bound : Nat}
    (shallow : ∀ level ∈ levels, level ≤ bound) :
    ∀ value ∈ levels.map nested, value.depth ≤ bound := by
  intro value member
  rcases List.mem_map.mp member with ⟨level, among, rfl⟩
  rw [depth_nested]
  exact shallow level among

/-- The delivery of nested records behind a carriage return, one for each number of levels. -/
def ofNested (levels : List Nat) : Delivery where
  guardLine := [')', ']']
  lineBreak := .carriageReturn
  before := [' ', '\t']
  values := levels.map nested
  after := []
  tail := ['\n', 'x']
  guardLine_oneLine := List.all_iff_forall_prop.mp (by decide)
  before_blank := List.all_iff_forall_prop.mp (by decide)
  values_plain := by
    intro value member
    rcases List.mem_map.mp member with ⟨level, _, rfl⟩
    exact isPlain_nested level
  after_blank := List.forall_mem_nil _
  tail_newLine := by
    rintro c ⟨⟩
    exact Or.inr rfl

end Delivery

/-! ## The answers -/

/--
With status 200 the answer of a client is what the server sent.  Values that nest at most 126
arrays and objects come back in order, as the very texts that the server wrote for them and, if all
of them are objects, as objects with their members in order.  A value that nests one more makes both
calls fail.
-/
theorem call_result_of_delivery
    {σ : Type}
    (client : Client)
    (transport : Transport σ)
    (query : String)
    (options : Query.Options)
    (delivery : Delivery)
    (statusLine : String)
    (replied :
      (transport (client.address query options) client.config.credential).reply =
        .ok ⟨200, statusLine, delivery.body⟩) :
    ((∀ value ∈ delivery.values, value.depth ≤ 126) →
      (client.call transport (.queryAsTexts options) query).result =
          .ok (.texts (delivery.values.map fun value => String.ofList value.render)) ∧
        ∀ records : List Json.Members,
          delivery.values = records.map Json.Value.object →
            (client.call transport (.queryAsObjects options) query).result =
              .ok (.objects records)) ∧
    ((∃ value ∈ delivery.values, 127 ≤ value.depth) →
      ∃ fault,
        (client.call transport (.queryAsTexts options) query).result =
            .error (.badPayload fault) ∧
          (client.call transport (.queryAsObjects options) query).result =
            .error (.badPayload fault)) := by
  have texts := Client.result_call_of_accepted (.queryAsTexts options) replied
  have objects := Client.result_call_of_accepted (.queryAsObjects options) replied
  constructor
  · intro shallow
    rw [delivery.readChanges_body shallow] at texts objects
    refine ⟨texts.trans (Call.answer_of_texts rfl _), ?_⟩
    intro records same
    rw [same] at objects
    exact objects.trans (Call.answer_of_records rfl records)
  · intro deep
    rcases delivery.readChanges_body_tooDeep deep with ⟨position, refused⟩
    rw [refused] at texts objects
    exact ⟨⟨.tooDeep, position⟩, texts, objects⟩

/-- Two records as texts, and records on both sides of the limit. -/
theorem call_result_of_nested_delivery :
    let result (levels : List Nat) (call : Call) : Except Error Answer :=
      (Client.slashClient.call (.bringing (Delivery.ofNested levels).body) call "x").result
    result [1, 2] (.queryAsTexts .standard) =
        .ok (.texts
          ["\x7b\"b\":\"\\n\",\"a\":null\x7d",
            "\x7b\"b\":\x7b\"b\":\"\\n\",\"a\":null\x7d,\"a\":null\x7d"]) ∧
      result [2, 126] (.queryAsObjects .standard) =
        .ok (.objects
          [[("b", .object [("b", .string "\n"), ("a", .null)]), ("a", .null)],
            [("b", Delivery.nested 125), ("a", .null)]]) ∧
      ∃ fault, result [1, 127] (.queryAsTexts .standard) = .error (.badPayload fault) := by
  intro result
  have answers (levels : List Nat) :=
    call_result_of_delivery Client.slashClient (.bringing (Delivery.ofNested levels).body) "x"
      .standard (Delivery.ofNested levels) "HTTP/1.1 200 OK" rfl
  have deep : ∃ value ∈ (Delivery.ofNested [1, 127]).values, 127 ≤ value.depth :=
    ⟨Delivery.nested 127, List.mem_cons_of_mem _ (List.mem_singleton_self _),
      Nat.le_of_eq (Delivery.depth_nested 127).symm⟩
  refine ⟨?_, ?_, ?_⟩
  · exact ((answers [1, 2]).1 (Delivery.depth_le_of_mem_map_nested (by decide))).1
  · exact ((answers [2, 126]).1 (Delivery.depth_le_of_mem_map_nested (by decide))).2 _ rfl
  · obtain ⟨fault, texts, _⟩ := (answers [1, 127]).2 deep
    exact ⟨fault, texts⟩

end ReviewQuery
