import TargetConfig.Failure

/-! # Results and events of attempts

The result of an attempt follows from the results of its parts; the events on the way do not matter
for it. Its events are those of its parts up to the first failure.
-/

namespace TargetConfig.Attempt

variable {α β : Type}

@[simp] theorem mapError_ok {ε δ : Type} (f : ε → δ) (a : α) :
    (Except.ok a : Except ε α).mapError f = .ok a := rfl

@[simp] theorem mapError_error {ε δ : Type} (f : ε → δ) (error : ε) :
    (Except.error error : Except ε α).mapError f = .error (f error) := rfl

@[simp] theorem result_pure (a : α) : (pure a : Attempt α).result = .ok a := rfl

@[simp] theorem result_ok (a : α) : (Attempt.ok a).result = .ok a := rfl

@[simp] theorem result_ofExcept (result : Except Failure α) : (ofExcept result).result = result :=
  rfl

@[simp] theorem result_ofLogged (logged : Logged α) : (ofLogged logged).result = .ok logged.value :=
  rfl

@[simp] theorem result_ofTarget (result : Except ConfigError α) :
    (ofTarget result).result = result.mapError .target := rfl

theorem ok_bind (a : α) (second : α → Attempt β) : Attempt.ok a >>= second = second a := rfl

theorem result_bind (first : Attempt α) (second : α → Attempt β) :
    (first >>= second).result = first.result.bind fun a => (second a).result := by
  change (andThen first second).result = _
  unfold andThen
  cases first.result <;> rfl

theorem bind_eq_ok_iff {ε : Type} {first : Except ε α} {second : α → Except ε β} {b : β} :
    first.bind second = .ok b ↔ ∃ a, first = .ok a ∧ second a = .ok b := by
  cases first with
  | ok a => simp [Except.bind]
  | error error => simp [Except.bind]

theorem bind_eq_error_iff {ε : Type} {first : Except ε α} {second : α → Except ε β} {error : ε} :
    first.bind second = .error error ↔
      first = .error error ∨ ∃ a, first = .ok a ∧ second a = .error error := by
  cases first with
  | ok a => simp [Except.bind]
  | error other => simp [Except.bind]

/-- A sequence succeeds when both of its parts do. -/
theorem result_bind_eq_ok_iff {first : Attempt α} {second : α → Attempt β} {b : β} :
    (first >>= second).result = .ok b ↔
      ∃ a, first.result = .ok a ∧ (second a).result = .ok b := by
  rw [result_bind, bind_eq_ok_iff]

/-- A sequence fails with the first failure of its parts. -/
theorem result_bind_eq_error_iff {first : Attempt α} {second : α → Attempt β} {failure : Failure} :
    (first >>= second).result = .error failure ↔
      first.result = .error failure ∨
        ∃ a, first.result = .ok a ∧ (second a).result = .error failure := by
  rw [result_bind, bind_eq_error_iff]

/-! ## Events -/

theorem bind_of_ok {first : Attempt α} {a : α} (hfirst : first.result = .ok a)
    (second : α → Attempt β) :
    first >>= second = ⟨(second a).result, first.events ++ (second a).events⟩ := by
  change andThen first second = _
  rw [andThen, hfirst]

theorem bind_of_error {first : Attempt α} {failure : Failure}
    (hfirst : first.result = .error failure) (second : α → Attempt β) :
    first >>= second = ⟨.error failure, first.events⟩ := by
  change andThen first second = _
  rw [andThen, hfirst]

/-- What logs nothing itself adds nothing to the log. -/
theorem events_bind_of_silent (first : Attempt α) {second : α → Attempt β}
    (hsecond : ∀ a, (second a).events = []) : (first >>= second).events = first.events := by
  cases hfirst : first.result with
  | ok a => rw [bind_of_ok hfirst, hsecond, List.append_nil]
  | error failure => rw [bind_of_error hfirst]

end TargetConfig.Attempt
