/-! Runs of actions that change a state and can fail. What was changed stays so when a later part
fails. -/
namespace RegexHost

variable {ε σ α β : Type}

theorem run_bind (x : ExceptT ε (StateM σ) α) (f : α → ExceptT ε (StateM σ) β) (s : σ) :
    (x >>= f).run.run s =
      match x.run.run s with
      | (.ok a, s') => (f a).run.run s'
      | (.error e, s') => (.error e, s') := by
  rw [ExceptT.run_bind, StateT.run_bind]
  rcases x.run.run s with ⟨_ | a, s'⟩ <;> rfl

theorem run_get (s : σ) : (get : ExceptT ε (StateM σ) σ).run.run s = (.ok s, s) :=
  rfl

theorem run_set (s s' : σ) : (set s' : ExceptT ε (StateM σ) Unit).run.run s = (.ok (), s') :=
  rfl

end RegexHost
