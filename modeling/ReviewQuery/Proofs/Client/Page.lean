import ReviewQuery.Proofs.Client.Classification
import ReviewQuery.Proofs.Http.Layout

/-!
# A page arrives whole

A server may tell the length of a page, send it in chunks, or end it with the connection.  The reply
does not show which of these it did: it holds the status, the status line and the body of the page,
also when a chunk ends within a character, and whether the status is one of success or of failure.
-/

namespace ReviewQuery

/-- A page that a server sends, with other fields in front of the one that tells its layout and
behind it.  Its body has fewer octets than a machine word can count, as any text in memory has. -/
structure Page where
  status : Nat
  reason : List Char
  before : List Http.Field
  after : List Http.Field
  body : String
  status_answers : (200 ≤ status ∧ status ≤ 299) ∨ (400 ≤ status ∧ status ≤ 599)
  status_filled : status ≠ 204
  reason_plain : Http.IsReason reason
  fields_neutral : ∀ field ∈ before ++ after, field.IsNeutral
  fields_few : before.length + after.length < Http.fieldLimit
  body_fits : (Text.Utf8.ofString body).length < Http.lengthBound

namespace Page

variable (page : Page)

/-- The layouts of the body of a page. -/
abbrev Layout : Type :=
  Http.Layout (Text.Utf8.ofString page.body)

variable (layout : page.Layout)

/-- The fields of a page in some layout. -/
def fields : List Http.Field :=
  page.before ++ (layout.fields ++ page.after)

/-- A page as it is sent in some layout. -/
def write : Http.Octets :=
  Http.writeHead page.status page.reason (page.fields layout) ++ layout.write

/-- The response that a page makes. -/
def response : Http.Response where
  status := page.status
  statusLine := "HTTP/1.1 " ++ toString page.status ++ " " ++ String.ofList page.reason
  body := page.body

/-! ## The head of a page -/

theorem isPlain_of_mem_fields : ∀ field ∈ page.fields layout, field.IsPlain := by
  intro field member
  rw [fields, List.mem_append, List.mem_append] at member
  rcases member with early | own | late
  · exact (page.fields_neutral field (List.mem_append_left page.after early)).toIsPlain
  · exact layout.isPlain_of_mem_fields page.body_fits field own
  · exact (page.fields_neutral field (List.mem_append_right page.before late)).toIsPlain

/-- A layout takes one field at most. -/
theorem length_fields_le : (page.fields layout).length ≤ Http.fieldLimit := by
  have own : layout.fields.length ≤ 1 := by
    cases layout with
    | length => exact Nat.le_refl 1
    | chunks list joined => exact Nat.le_refl 1
    | untilEnd => exact Nat.zero_le 1
  have others := page.fields_few
  rw [fields, List.length_append, List.length_append]
  omega

theorem read_write :
    Http.Head.read (page.write layout) =
      .ok (⟨⟨Http.protocol, page.status, page.reason⟩, page.fields layout⟩, layout.write) := by
  have answers := page.status_answers
  exact Http.Head.read_writeHead (by omega) (by omega) page.reason_plain
    (page.isPlain_of_mem_fields layout) (page.length_fields_le layout) layout.write

theorem render_statusLine :
    Http.StatusLine.render ⟨Http.protocol, page.status, page.reason⟩ =
      page.response.statusLine := by
  have version : "HTTP/1.1 ".toList = Http.protocol ++ [' '] := by decide
  apply String.toList_injective
  show _ = ("HTTP/1.1 " ++ toString page.status ++ " " ++ String.ofList page.reason).toList
  simp [Http.StatusLine.render, version]

/-! ## The response -/

/-- Only the status of a page tells whether its request succeeds. -/
theorem ofOctets_write :
    Http.Completion.ofOctets (page.write layout) =
      if page.status ≤ 299 then
        .success
          ⟨⟨⟨Http.protocol, page.status, page.reason⟩, page.fields layout⟩, layout.write⟩
      else
        .failure page.status
          ⟨⟨⟨Http.protocol, page.status, page.reason⟩, page.fields layout⟩, layout.write⟩ := by
  rw [Http.Completion.ofOctets, page.read_write layout]
  rcases page.status_answers with ⟨_, succeeds⟩ | ⟨fails, _⟩
  · rw [if_pos succeeds]
    exact if_neg (by show ¬ 400 ≤ page.status; omega)
  · rw [if_neg (by omega)]
    exact if_pos fails

/-- A page makes its response in every layout, whether its status is one of success or not. -/
theorem reply_ofOctets_write :
    (Http.Completion.ofOctets (page.write layout)).reply = .ok page.response := by
  have answers := page.status_answers
  have framed :
      Http.Head.framing ⟨⟨Http.protocol, page.status, page.reason⟩, page.fields layout⟩ =
        layout.framing :=
    layout.framing_eq rfl ⟨page.status_filled, by show page.status ≠ 304; omega⟩ rfl
      page.fields_neutral page.body_fits
  have bodyRead := layout.read_write
  rw [← framed] at bodyRead
  have response := Http.Arrival.toResponse_of_text bodyRead rfl
  rw [render_statusLine, String.ofList_toList] at response
  rw [page.ofOctets_write layout]
  split
  · exact response
  · exact response

end Page

/--
A page arrives whole through the transport of the web, at any address and under any credential.  The
response does not depend on the layout.
-/
theorem reply_of_page
    (page : Page)
    (layout : page.Layout)
    (address : String)
    (credential : Credential) :
    (Transport.wire (page.write layout) address credential).reply =
      .ok {
        status := page.status
        statusLine := "HTTP/1.1 " ++ toString page.status ++ " " ++ String.ofList page.reason
        body := page.body } :=
  page.reply_ofOctets_write layout

/-! ## A page of one letter, cut in two -/

/-- A missing page whose body is one letter of two octets. -/
def accentPage : Page where
  status := 404
  reason := "Not Found".toList
  before := [.ofText "Content-Type" "text/plain".toList]
  after := []
  body := "é"
  status_answers := by decide
  status_filled := by decide
  reason_plain := ⟨by decide, by decide, by decide, by decide⟩
  fields_neutral := by
    intro field member
    rcases List.mem_singleton.mp member with rfl
    exact ⟨Http.Field.isPlain_ofText (by decide) (by decide) (by decide), by decide, by decide⟩
  fields_few := by decide
  body_fits := by decide

/-- A chunk for each of the two octets; the second size has a zero in front. -/
def accentLayout : accentPage.Layout :=
  .chunks
    [⟨[0xC3], 0, ['1'], by decide, by decide, by decide +kernel⟩,
      ⟨[0xA9], 1, ['0', '1'], by decide, by decide, by decide +kernel⟩]
    (by decide)

/-- The letter arrives whole, also when each chunk ends within it. -/
theorem reply_of_accentPage :
    accentPage.write accentLayout =
        Text.Utf8.ofString "HTTP/1.1 404 Not Found\r\nContent-Type: text/plain\r\n" ++
          Text.Utf8.ofString "Transfer-Encoding: chunked\r\n\r\n1\r\n" ++ [0xC3] ++
          Text.Utf8.ofString "\r\n01\r\n" ++ [0xA9] ++ Text.Utf8.ofString "\r\n0\r\n\r\n" ∧
      (Transport.wire (accentPage.write accentLayout) "http://h/" ⟨"u", "p"⟩).reply =
        .ok ⟨404, "HTTP/1.1 404 Not Found", "é"⟩ ∧
      (Transport.wire (accentPage.write .length) "http://h/" ⟨"u", "p"⟩).reply =
        .ok ⟨404, "HTTP/1.1 404 Not Found", "é"⟩ ∧
      (Transport.wire (accentPage.write .untilEnd) "http://h/" ⟨"u", "p"⟩).reply =
        .ok ⟨404, "HTTP/1.1 404 Not Found", "é"⟩ := by
  have arrived (layout : accentPage.Layout) :=
    reply_of_page accentPage layout "http://h/" ⟨"u", "p"⟩
  exact ⟨by decide +kernel, arrived accentLayout, arrived .length, arrived .untilEnd⟩

end ReviewQuery
