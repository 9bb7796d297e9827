/-!
# Results that may be errors

What is computed in steps succeeds exactly if every step does.  The lemmas take a result apart into
what its steps gave.
-/

namespace ReviewQuery

section Result

variable
  {ε α β : Type}
  {result : Except ε α}

/-- A step that follows succeeds with what the first step gave. -/
theorem bind_eq_ok_iff {next : α → Except ε β} {value : β} :
    result.bind next = .ok value ↔ ∃ found, result = .ok found ∧ next found = .ok value := by
  constructor
  · intro done
    cases result with
    | error e => cases done
    | ok found => exact ⟨found, rfl, done⟩
  · rintro ⟨found, rfl, done⟩
    exact done

theorem map_eq_ok_iff {f : α → β} {value : β} :
    result.map f = .ok value ↔ ∃ found, result = .ok found ∧ f found = value := by
  constructor
  · intro done
    cases result with
    | error e => cases done
    | ok found => exact ⟨found, rfl, Except.ok.inj done⟩
  · rintro ⟨found, rfl, rfl⟩
    rfl

/-- Errors that are told in other words stay errors. -/
theorem mapError_eq_ok_iff {δ : Type} {f : ε → δ} {value : α} :
    result.mapError f = .ok value ↔ result = .ok value := by
  constructor
  · intro done
    cases result with
    | error e => cases done
    | ok found => exact congrArg Except.ok (Except.ok.inj done)
  · rintro rfl
    rfl

theorem mapError_eq_error_iff {δ : Type} {f : ε → δ} {e : δ} :
    result.mapError f = .error e ↔ ∃ cause, result = .error cause ∧ f cause = e := by
  constructor
  · intro failed
    cases result with
    | error cause => exact ⟨cause, rfl, Except.error.inj failed⟩
    | ok value => cases failed
  · rintro ⟨cause, rfl, rfl⟩
    rfl

theorem eq_ok_of_toOption {value : α} (known : result.toOption = some value) :
    result = .ok value := by
  cases result with
  | error e => cases known
  | ok other => exact congrArg Except.ok (Option.some.inj known)

theorem exists_error_of_toOption (failed : result.toOption = none) : ∃ e, result = .error e := by
  cases result with
  | error e => exact ⟨e, rfl⟩
  | ok value => cases failed

theorem toOption_map (f : α → β) : (result.map f).toOption = result.toOption.map f := by
  cases result <;> rfl

theorem toOption_bind (next : α → Except ε β) :
    (result.bind next).toOption = result.toOption.bind fun value => (next value).toOption := by
  cases result <;> rfl

theorem exists_ok_of_isOk (isOk : result.isOk = true) : ∃ value, result = .ok value := by
  cases result with
  | error e => cases isOk
  | ok value => exact ⟨value, rfl⟩

end Result

end ReviewQuery
