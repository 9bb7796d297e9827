import ReviewQuery.Proofs.Url.Authority

/-!
# The server that an authority names

A server is what is read from an authority as a whole.  It stays the same whatever follows the
authority.  Blanks at the end of the authority leave it the same only if a port stands in front of
them that has ended already.
-/

namespace ReviewQuery.Url

/-! ## Ports -/

theorem endsBefore_iff {special : Bool} {text : List Char} :
    EndsBefore special text ↔
      (text.head?.map fun c => !endsAuthority special c).getD false = false := by
  cases text with
  | nil =>
      constructor
      · intro _
        rfl
      · intro _
        exact endsBefore_nil
  | cons c rest => simp [EndsBefore]

theorem EndsBefore.of_special {special : Bool} {tail : List Char} (ends : EndsBefore special tail) :
    EndsBefore true tail := by
  intro c first
  have ender := ends c first
  cases special with
  | true => exact ender
  | false =>
      unfold endsAuthority at ender ⊢
      rw [Bool.false_and, Bool.or_false] at ender
      rw [ender]
      rfl

/-- The port that some digits stand for. -/
def portFor (scheme digits : List Char) : Except Error (Option Nat) :=
  let port := digits.foldl (fun total c => total * 10 + (c.toNat - 48)) 0
  if 65535 < port then .error .invalidPort
  else if digits.isEmpty || defaultPort? scheme = some port then .ok none
  else .ok (some port)

section Port

variable
  {scheme text behind tail : List Char}

theorem readPort_of_ends (ends : EndsBefore true (text.dropWhile Char.isDigit)) :
    readPort scheme (':' :: text) =
      (portFor scheme (text.takeWhile Char.isDigit)).map fun port =>
        (port, text.dropWhile Char.isDigit) := by
  simp only [readPort, portFor, endsBefore_iff.mp ends, Bool.false_eq_true, if_false]
  split_ifs <;> rfl

theorem readPort_of_not_ends (goesOn : ¬ EndsBefore true (text.dropWhile Char.isDigit)) :
    readPort scheme (':' :: text) = .error .invalidPort := by
  rw [endsBefore_iff, Bool.not_eq_false] at goesOn
  simp only [readPort, goesOn]
  split_ifs <;> rfl

theorem not_isDigit_of_endsAuthority {c : Char} (ender : endsAuthority true c = true) :
    c.isDigit = false := by
  simp only [endsAuthority, Bool.or_eq_true, decide_eq_true_eq, Bool.true_and] at ender
  rcases ender with ((rfl | rfl) | rfl) | rfl <;> rfl

theorem dropWhile_isDigit_append
    (stops : text.dropWhile Char.isDigit = [] → ∀ c ∈ behind.head?, c.isDigit = false) :
    (text ++ behind).takeWhile Char.isDigit = text.takeWhile Char.isDigit ∧
      (text ++ behind).dropWhile Char.isDigit = text.dropWhile Char.isDigit ++ behind := by
  have whole : text ++ behind =
      text.takeWhile Char.isDigit ++ (text.dropWhile Char.isDigit ++ behind) := by
    rw [← List.append_assoc, List.takeWhile_append_dropWhile]
  have digits : ∀ c ∈ text.takeWhile Char.isDigit, c.isDigit = true := by
    intro c member
    exact List.mem_takeWhile_imp member
  have stop : ∀ c ∈ (text.dropWhile Char.isDigit ++ behind).head?, c.isDigit = false := by
    intro c first
    cases rest : text.dropWhile Char.isDigit with
    | nil =>
        rw [rest] at first
        exact stops rest c first
    | cons d more =>
        apply Text.stops_dropWhile text c
        rw [rest] at first ⊢
        exact first
  rw [whole]
  exact ⟨Text.takeWhile_append_of_stops digits stop, Text.dropWhile_append_of_stops digits stop⟩

/-- What follows a port does not matter to it, if the port has ended in front of it or there. -/
theorem readPort_append
    (ends : text.dropWhile Char.isDigit = [] → EndsBefore true behind) :
    readPort scheme (':' :: (text ++ behind)) =
      (readPort scheme (':' :: text)).map fun port => (port.1, port.2 ++ behind) := by
  have stops : text.dropWhile Char.isDigit = [] → ∀ c ∈ behind.head?, c.isDigit = false := by
    intro empty c first
    exact not_isDigit_of_endsAuthority (ends empty c first)
  rcases dropWhile_isDigit_append stops with ⟨digits, rest⟩
  have same :
      EndsBefore true ((text ++ behind).dropWhile Char.isDigit) ↔
        EndsBefore true (text.dropWhile Char.isDigit) := by
    rw [rest]
    cases ended : text.dropWhile Char.isDigit with
    | nil =>
        constructor
        · intro _
          exact endsBefore_nil
        · intro _
          exact ends ended
    | cons c more => exact Iff.rfl
  by_cases closed : EndsBefore true (text.dropWhile Char.isDigit)
  · rw [readPort_of_ends closed, readPort_of_ends (same.mpr closed), digits, rest]
    cases portFor scheme (text.takeWhile Char.isDigit) <;> rfl
  · have open_ : ¬ EndsBefore true ((text ++ behind).dropWhile Char.isDigit) := by
      intro whole
      exact closed (same.mp whole)
    rw [readPort_of_not_ends closed, readPort_of_not_ends open_]
    rfl

/-- A port does not end in front of a blank. -/
theorem readPort_append_blank
    {c : Char}
    (outer : isOuter c = true)
    (unended : text.dropWhile Char.isDigit = []) :
    readPort scheme (':' :: (text ++ c :: behind)) = .error .invalidPort := by
  have stops : text.dropWhile Char.isDigit = [] →
      ∀ d ∈ (c :: behind).head?, d.isDigit = false := by
    intro _ d first
    cases first
    exact not_isDigit_of_isOuter outer
  apply readPort_of_not_ends
  rw [(dropWhile_isDigit_append stops).2, unended]
  intro ends
  have ender := ends c rfl
  rw [not_endsAuthority_of_isOuter outer true] at ender
  cases ender

end Port

/-! ## Servers -/

/-- What an authority says. -/
structure Server where
  username : List Char
  password : List Char
  host : Option Host
  port : Option Nat

/-- The server of an authority, unless it is a user at no host. -/
def serverOf
    (info : UserInfo)
    (host : Option Host)
    (port : Option Nat × List Char) : Except Error (Server × List Char) :=
  if host.isNone && !(info.username.isEmpty && info.password.isEmpty) then .error .emptyHost
  else .ok (⟨info.username, info.password, host, port.1⟩, port.2)

/-- The server at the start of a text and the rest. -/
def readServer
    (kind : SchemeKind)
    (scheme text : List Char) : Except Error (Server × List Char) :=
  (readUserInfo kind.isSpecial text).bind fun info =>
    (readHost kind info.rest).bind fun host =>
      (readPort scheme host.2).bind (serverOf info host.1)

/-- The URL below a server. -/
def Server.url (server : Server) (kind : SchemeKind) (scheme rest : List Char) : Url :=
  { scheme := scheme
    username := server.username
    password := server.password
    host := server.host
    port := server.port
    path := .segments (readPath kind (splitTail rest).1)
    query := (splitTail rest).2.1.map (encodeQuery kind)
    fragment := (splitTail rest).2.2.map encodeFragment
    hasAuthority := true }

theorem readWithAuthority_eq (kind : SchemeKind) (scheme text : List Char) :
    readWithAuthority kind scheme text =
      (readServer kind scheme text).map fun read => read.1.url kind scheme read.2 := by
  rw [readWithAuthority, readServer]
  cases readUserInfo kind.isSpecial text with
  | error e => rfl
  | ok info =>
      show (readHost kind info.rest >>= _) = ((readHost kind info.rest).bind _).map _
      cases readHost kind info.rest with
      | error e => rfl
      | ok host =>
          show (readPort scheme host.2 >>= _) = ((readPort scheme host.2).bind _).map _
          cases readPort scheme host.2 with
          | error e => rfl
          | ok port =>
              show (if _ then _ else _) = (serverOf info host.1 port).map _
              rw [serverOf]
              split <;> rfl

/-! ## What follows an authority -/

section Tail

variable
  {kind : SchemeKind}
  {scheme inside tail : List Char}

theorem rest_of_readSpannedHost
    {shown behind rest : List Char}
    {host : Option Host}
    (read : readSpannedHost kind shown behind = .ok (host, rest)) :
    rest = behind := by
  unfold readSpannedHost at read
  split at read
  · split at read
    · cases read
    · cases read
      rfl
  · rcases map_eq_ok_iff.mp read with ⟨_, _, same⟩
    cases same
    rfl

/-- What follows a host is nothing or a port. -/
theorem rest_of_readHost
    {text rest : List Char}
    {host : Option Host}
    (stays : StaysInside kind.isSpecial text)
    (read : readHost kind text = .ok (host, rest)) :
    rest = [] ∨ ∃ port, rest = ':' :: port := by
  cases spanned : spanHost kind.isSpecial false text with
  | mk shown behind =>
      rw [readHost_of_span spanned] at read
      rw [rest_of_readSpannedHost read]
      exact (spanHost_parts spanned).2.2 stays

theorem readPort_append_tail
    {text : List Char}
    (form : text = [] ∨ ∃ port, text = ':' :: port)
    (ends : EndsBefore kind.isSpecial tail) :
    readPort scheme (text ++ tail) =
      (readPort scheme text).map fun port => (port.1, port.2 ++ tail) := by
  rcases form with rfl | ⟨port, rfl⟩
  · have noColon := head?_ne_colon ends
    rw [List.nil_append, readPort, readPort]
    · rfl
    · intro digits colon
      cases colon
    · intro digits colon
      rw [colon] at noColon
      exact noColon rfl
  · exact readPort_append fun _ => ends.of_special

theorem serverOf_append
    (info : UserInfo)
    (host : Option Host)
    (port : Option Nat × List Char)
    (behind : List Char) :
    serverOf { info with rest := info.rest ++ behind } host (port.1, port.2 ++ behind) =
      (serverOf info host port).map fun read => (read.1, read.2 ++ behind) := by
  unfold serverOf
  split <;> rfl

/-- What follows an authority does not matter to the server. -/
theorem readServer_append_tail
    (stays : StaysInside kind.isSpecial inside)
    (ends : EndsBefore kind.isSpecial tail)
    (notBare : inside = ['@'] → tail = []) :
    readServer kind scheme (inside ++ tail) =
      (readServer kind scheme inside).map fun read => (read.1, read.2 ++ tail) := by
  have noTrail : StaysInside kind.isSpecial [] := by
    intro c member
    cases member
  have userInfo :=
    readUserInfo_append stays noTrail List.not_mem_nil ends (by rwa [List.append_nil])
  rw [List.nil_append] at userInfo
  rw [readServer, readServer, userInfo]
  cases info : readUserInfo kind.isSpecial inside with
  | error e => rfl
  | ok found =>
      have hostStays : StaysInside kind.isSpecial found.rest := by
        rw [rest_of_readUserInfo stays info]
        exact stays.hostText
      show (readHost kind (found.rest ++ tail)).bind _ = ((readHost kind found.rest).bind _).map _
      rw [readHost_append_tail ends]
      cases host : readHost kind found.rest with
      | error e => rfl
      | ok named =>
          have form := rest_of_readHost hostStays host
          show (readPort scheme (named.2 ++ tail)).bind _ =
            ((readPort scheme named.2).bind _).map _
          rw [readPort_append_tail form ends]
          cases readPort scheme named.2 with
          | error e => rfl
          | ok port => exact serverOf_append found named.1 port tail

end Tail

/-! ## Blanks at the end of an authority -/

section Blanks

variable
  {kind : SchemeKind}
  {scheme inside trail rest : List Char}
  {server : Server}

/-- What was read of a server, step by step. -/
theorem readServer_eq_ok_iff {text : List Char} :
    readServer kind scheme text = .ok (server, rest) ↔
      ∃ info host port,
        readUserInfo kind.isSpecial text = .ok info ∧
        readHost kind info.rest = .ok host ∧
        readPort scheme host.2 = .ok port ∧
        serverOf info host.1 port = .ok (server, rest) := by
  simp only [readServer, bind_eq_ok_iff]
  constructor
  · rintro ⟨info, infoRead, host, hostRead, port, portRead, assembled⟩
    exact ⟨info, host, port, infoRead, hostRead, portRead, assembled⟩
  · rintro ⟨info, host, port, infoRead, hostRead, portRead, assembled⟩
    exact ⟨info, infoRead, host, hostRead, port, portRead, assembled⟩

theorem serverOf_eq_ok
    {info : UserInfo}
    {host : Option Host}
    {port : Option Nat × List Char}
    (assembled : serverOf info host port = .ok (server, rest)) :
    server.host = host ∧ server.port = port.1 ∧ rest = port.2 := by
  unfold serverOf at assembled
  split at assembled
  · cases assembled
  · cases assembled
    exact ⟨rfl, rfl, rfl⟩

theorem staysInside_of_outer (outer : ∀ c ∈ trail, isOuter c = true) (special : Bool) :
    StaysInside special trail := by
  intro c member
  exact not_endsAuthority_of_isOuter (outer c member) special

theorem spanHost_of_outer
    (outer : ∀ c ∈ trail, isOuter c = true)
    (special inBrackets : Bool) :
    spanHost special inBrackets trail = (trail, []) := by
  induction trail generalizing inBrackets with
  | nil => rfl
  | cons c trail ih =>
      have blank := outer c List.mem_cons_self
      have notColon : c ≠ ':' := ne_of_isOuter blank rfl
      have others : ∀ d ∈ trail, isOuter d = true := by
        intro d member
        exact outer d (List.mem_cons_of_mem c member)
      rw [spanHost, if_neg, ih others]
      simp [notColon, not_endsAuthority_of_isOuter blank special]

theorem readFor_append_ne
    {shown : List Char}
    {host : Host}
    (outer : ∀ c ∈ trail, isOuter c = true)
    (nonempty : trail ≠ [])
    (read : Host.readFor kind shown = .ok host) :
    Host.readFor kind (shown ++ trail) ≠ .ok host := by
  unfold Host.readFor at read ⊢
  split
  · intro same
    have refused : ∃ e, Host.readSpecial (shown ++ trail) = .error e :=
      Host.readSpecial_append outer nonempty
    rcases refused with ⟨e, refused⟩
    rw [refused] at same
    cases same
  · rename_i plain
    rw [if_neg plain] at read
    exact Host.readPlain_append_ne outer nonempty read

theorem readUserInfo_append_blanks
    {info : UserInfo}
    (outer : ∀ c ∈ trail, isOuter c = true)
    (stays : StaysInside kind.isSpecial inside)
    (read : readUserInfo kind.isSpecial inside = .ok info) :
    readUserInfo kind.isSpecial (inside ++ trail) =
      .ok { info with rest := info.rest ++ trail } := by
  have noMark : '@' ∉ trail := by
    intro member
    cases outer '@' member
  have whole :=
    readUserInfo_append stays (staysInside_of_outer outer kind.isSpecial) noMark endsBefore_nil
      (fun _ => rfl)
  rw [List.append_nil, read] at whole
  exact whole

theorem readHost_append_blanks
    {text port : List Char}
    {host : Option Host}
    (outer : ∀ c ∈ trail, isOuter c = true)
    (read : readHost kind text = .ok (host, ':' :: port)) :
    readHost kind (text ++ trail) = .ok (host, ':' :: (port ++ trail)) := by
  cases spanned : spanHost kind.isSpecial false text with
  | mk shown behind =>
      rw [readHost_of_span spanned] at read
      cases rest_of_readSpannedHost read
      have whole := spanHost_append (spanHost_of_outer outer kind.isSpecial) false text
      rw [spanned] at whole
      rw [readHost_of_span whole, readSpannedHost_append kind (by simp), read]
      rfl

theorem host_ne_of_readHost_append_blanks
    {text rest : List Char}
    {host host' : Option Host}
    (outer : ∀ c ∈ trail, isOuter c = true)
    (nonempty : trail ≠ [])
    (read : readHost kind text = .ok (host, []))
    (reread : readHost kind (text ++ trail) = .ok (host', rest)) :
    host' ≠ host := by
  cases spanned : spanHost kind.isSpecial false text with
  | mk shown behind =>
      rw [readHost_of_span spanned] at read
      cases rest_of_readSpannedHost read
      have whole := spanHost_append (spanHost_of_outer outer kind.isSpecial) false text
      simp only [spanned] at whole
      have some : shown ++ trail ≠ [] := List.append_ne_nil_of_right_ne_nil shown nonempty
      rw [readHost_of_span whole, readSpannedHost, if_neg some] at reread
      rcases map_eq_ok_iff.mp reread with ⟨longer, longerRead, same⟩
      cases same
      rintro rfl
      unfold readSpannedHost at read
      split at read
      · split at read <;> cases read
      · rcases map_eq_ok_iff.mp read with ⟨shorter, shorterRead, same⟩
        cases same
        exact readFor_append_ne outer nonempty shorterRead longerRead

theorem rest_of_readPort
    {digits : List Char}
    {port : Option Nat × List Char}
    (read : readPort scheme (':' :: digits) = .ok port) :
    EndsBefore true (digits.dropWhile Char.isDigit) ∧ port.2 = digits.dropWhile Char.isDigit := by
  by_cases ends : EndsBefore true (digits.dropWhile Char.isDigit)
  · refine ⟨ends, ?_⟩
    rw [readPort_of_ends ends] at read
    rcases map_eq_ok_iff.mp read with ⟨_, _, same⟩
    cases same
    rfl
  · rw [readPort_of_not_ends ends] at read
    cases read

/-- Behind a port that has ended, blanks do not matter to the server. -/
theorem readServer_append_blanks
    (outer : ∀ c ∈ trail, isOuter c = true)
    (stays : StaysInside kind.isSpecial inside)
    (read : readServer kind scheme inside = .ok (server, rest))
    (ended : rest ≠ []) :
    readServer kind scheme (inside ++ trail) = .ok (server, rest ++ trail) := by
  rcases readServer_eq_ok_iff.mp read with
    ⟨info, ⟨host, behind⟩, port, infoRead, hostRead, portRead, made⟩
  have hostStays : StaysInside kind.isSpecial info.rest := by
    rw [rest_of_readUserInfo stays infoRead]
    exact stays.hostText
  have restPort := (serverOf_eq_ok made).2.2
  rcases rest_of_readHost hostStays hostRead with rfl | ⟨digits, rfl⟩
  · cases portRead
    exact absurd restPort ended
  · have unended : digits.dropWhile Char.isDigit ≠ [] := by
      rw [← (rest_of_readPort portRead).2, ← restPort]
      exact ended
    have portReread : readPort scheme (':' :: (digits ++ trail)) = _ :=
      readPort_append fun empty => absurd empty unended
    rw [portRead] at portReread
    rw [readServer_eq_ok_iff]
    refine ⟨_, _, _, readUserInfo_append_blanks outer stays infoRead,
      readHost_append_blanks outer hostRead, portReread, ?_⟩
    rw [serverOf_append, made]
    rfl

/-- Everywhere else they make it a different one, if any. -/
theorem host_ne_of_readServer_append_blanks
    {server' : Server}
    {rest' : List Char}
    (outer : ∀ c ∈ trail, isOuter c = true)
    (nonempty : trail ≠ [])
    (stays : StaysInside kind.isSpecial inside)
    (read : readServer kind scheme inside = .ok (server, []))
    (reread : readServer kind scheme (inside ++ trail) = .ok (server', rest')) :
    server'.host ≠ server.host := by
  rcases readServer_eq_ok_iff.mp read with
    ⟨info, ⟨host, behind⟩, port, infoRead, hostRead, portRead, made⟩
  rcases readServer_eq_ok_iff.mp reread with
    ⟨info', ⟨host', behind'⟩, port', infoReread, hostReread, portReread, remade⟩
  rw [readUserInfo_append_blanks outer stays infoRead] at infoReread
  cases infoReread
  have hostStays : StaysInside kind.isSpecial info.rest := by
    rw [rest_of_readUserInfo stays infoRead]
    exact stays.hostText
  rw [(serverOf_eq_ok made).1, (serverOf_eq_ok remade).1]
  rcases rest_of_readHost hostStays hostRead with rfl | ⟨digits, rfl⟩
  · exact host_ne_of_readHost_append_blanks outer nonempty hostRead hostReread
  · exfalso
    have unended : digits.dropWhile Char.isDigit = [] := by
      rw [← (rest_of_readPort portRead).2, ← (serverOf_eq_ok made).2.2]
    rw [readHost_append_blanks outer hostRead] at hostReread
    cases hostReread
    cases trail with
    | nil => exact nonempty rfl
    | cons c trail =>
        have blank := outer c List.mem_cons_self
        rw [readPort_append_blank blank unended] at portReread
        cases portReread

end Blanks

end ReviewQuery.Url
