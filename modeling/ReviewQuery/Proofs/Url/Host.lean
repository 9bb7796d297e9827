import ReviewQuery.Proofs.Text.Utf8
import ReviewQuery.Proofs.Url.Cleaning
import ReviewQuery.Url.Host

/-!
# Hosts with blanks behind them

No host survives a blank at its end.  Below a special scheme the text is no host any more, because
the blank comes through every decoding and no domain name holds one.  Below another scheme it is
either refused or makes the host a different one.
-/

namespace ReviewQuery.Url

/-! ## Blanks among escapes -/

namespace PercentEncoding

theorem not_isOuter_of_value?
    {c : Char}
    {value : Nat}
    (digit : Text.Hexadecimal.value? c = some value) :
    isOuter c = false := by
  rw [← Bool.not_eq_true]
  intro outer
  have all : ∀ code < 33, Text.Hexadecimal.value? (Char.ofNat code) = none := by decide
  have none := of_isOuter (p := fun c => Text.Hexadecimal.value? c = none) all outer
  rw [digit] at none
  cases none

/-- A blank is not hidden by an escape. -/
theorem mem_decode_of_isOuter
    {text : List Char}
    {c : Char}
    (outer : isOuter c = true)
    (member : c ∈ text) :
    UInt8.ofNat c.toNat ∈ decode text := by
  fun_induction decode text with
  | case1 high low rest _ _ isLow isHigh ih =>
      have behind : c ∈ rest := by
        have notPercent : c ≠ '%' := ne_of_isOuter outer rfl
        have notHigh := ne_of_isOuter outer (not_isOuter_of_value? isHigh)
        have notLow := ne_of_isOuter outer (not_isOuter_of_value? isLow)
        simpa only [List.mem_cons, notPercent, notHigh, notLow, false_or] using member
      exact List.mem_cons_of_mem _ (ih behind)
  | case2 high low rest _ ih =>
      have behind : c ∈ high :: low :: rest := by
        rcases List.mem_cons.mp member with percent | behind
        · exact absurd percent (ne_of_isOuter outer rfl)
        · exact behind
      exact List.mem_cons_of_mem _ (ih behind)
  | case3 d rest _ ih =>
      apply List.mem_append.mpr
      rcases List.mem_cons.mp member with rfl | behind
      · have ascii : c.toNat < 0x80 :=
          Nat.lt_of_le_of_lt (of_decide_eq_true outer) (by decide)
        left
        rw [Text.Utf8.encodeChar_one ascii]
        exact List.mem_singleton_self _
      · right
        exact ih behind
  | case4 => cases member

theorem encode_ne_nil {isEncoded : Char → Bool} {text : List Char} (nonempty : text ≠ []) :
    encode isEncoded text ≠ [] := by
  cases text with
  | nil => exact absurd rfl nonempty
  | cons c rest =>
      intro empty
      have first : encodeChar isEncoded c = [] := (List.append_eq_nil_iff.mp empty).1
      unfold encodeChar at first
      split at first
      · rcases List.exists_mem_of_ne_nil _ (Text.Utf8.encodeChar_ne_nil c) with ⟨octet, member⟩
        cases List.flatMap_eq_nil_iff.mp first octet member
      · cases first

end PercentEncoding

/-! ## Domain names and other hosts -/

/-- No domain name holds a blank. -/
theorem Domain.toAscii?_of_isOuter
    {name : List Char}
    {c : Char}
    (member : c ∈ name)
    (outer : isOuter c = true) :
    toAscii? name = none := by
  have blank : name.any isBlank = true := List.any_eq_true.mpr ⟨c, member, outer⟩
  rw [toAscii?, blank]
  rfl

namespace Host

section Blanks

variable
  {text trail : List Char}
  (outer : ∀ c ∈ trail, isOuter c = true)
  (nonempty : trail ≠ [])

include outer nonempty

theorem readBracketed_append :
    ∃ e, readBracketed (text ++ trail) = .error e := by
  refine ⟨.invalidIpv6, ?_⟩
  rw [readBracketed, if_neg]
  intro bracket
  rw [List.getLast?_append_of_ne_nil text nonempty] at bracket
  cases outer ']' (List.mem_of_getLast? bracket)

/-- Below a special scheme a text with blanks at its end is no host. -/
theorem readSpecial_append :
    ∃ e, readSpecial (text ++ trail) = .error e := by
  rw [readSpecial]
  by_cases bracket : (text ++ trail).head? = some '['
  · rw [if_pos bracket]
    exact readBracketed_append outer nonempty
  · refine ⟨.invalidDomain, ?_⟩
    rw [if_neg bracket]
    have refused :
        (Text.Utf8.decode (PercentEncoding.decode (text ++ trail))).bind Domain.toAscii? =
          none := by
      rw [Option.bind_eq_none_iff]
      intro name decoded
      rcases List.exists_mem_of_ne_nil trail nonempty with ⟨c, member⟩
      have blank := outer c member
      have small : c.toNat < 33 := Nat.lt_succ_of_le (of_decide_eq_true blank)
      have octet := PercentEncoding.mem_decode_of_isOuter blank (List.mem_append_right text member)
      have size := Text.Utf8.toNat_ofNat (show c.toNat < 256 by omega)
      rw [Text.Utf8.decode_eq_some_iff.mp decoded] at octet
      rcases Text.Utf8.exists_mem_of_mem_encode octet (by omega) with ⟨d, inName, same⟩
      apply Domain.toAscii?_of_isOuter inName
      apply decide_eq_true
      omega
    rw [refused]

/-- Below another scheme blanks at the end of a host make it a different host, if any. -/
theorem readPlain_append_ne {host : Host} (read : readPlain text = .ok host) :
    readPlain (text ++ trail) ≠ .ok host := by
  intro same
  rw [readPlain] at read same
  by_cases bracket : (text ++ trail).head? = some '['
  · rw [if_pos bracket] at same
    rcases readBracketed_append outer nonempty with ⟨e, refused⟩
    rw [refused] at same
    cases same
  · rw [if_neg bracket] at same
    have noBracket : text.head? ≠ some '[' := by
      intro first
      apply bracket
      rw [List.head?_append, first, Option.some_or]
    rw [if_neg noBracket] at read
    split at same
    · cases same
    split at read
    · cases read
    have texts := Host.name.inj ((Except.ok.inj same).trans (Except.ok.inj read).symm)
    rw [PercentEncoding.encode, List.flatMap_append] at texts
    exact PercentEncoding.encode_ne_nil nonempty (List.append_right_eq_self.mp texts)

end Blanks

end Host

end ReviewQuery.Url
