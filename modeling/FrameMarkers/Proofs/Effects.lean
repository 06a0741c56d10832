namespace FrameMarkers

variable {ε σ α β : Type}

theorem run_pure (a : α) (state : σ) :
    (pure a : ExceptT ε (StateM σ) α).run state = (.ok a, state) :=
  rfl

theorem run_bind (x : ExceptT ε (StateM σ) α) (f : α → ExceptT ε (StateM σ) β) (state : σ) :
    (x >>= f).run state =
      match x.run state with
      | (.ok a, state) => (f a).run state
      | (.error error, state) => (.error error, state) := by
  change (ExceptT.bindCont f (x.run state).1).run (x.run state).2 = _
  rcases x.run state with ⟨_ | _, _⟩ <;> rfl

theorem run_map (f : α → β) (x : ExceptT ε (StateM σ) α) (state : σ) :
    (f <$> x).run state = ((x.run state).1.map f, (x.run state).2) := by
  rw [map_eq_pure_bind, run_bind]
  rcases x.run state with ⟨_ | _, _⟩ <;> rfl

theorem run_of_map_error {f : α → β} {x : ExceptT ε (StateM σ) α} {state : σ} {error : ε}
    (h : ((f <$> x).run state).1 = .error error) :
    x.run state = (.error error, ((f <$> x).run state).2) := by
  rw [run_map] at h ⊢
  generalize x.run state = outcome at h ⊢
  rcases outcome with ⟨_ | _, _⟩ <;> cases h
  rfl

theorem run_ofExcept (result : Except ε α) (state : σ) :
    (MonadExcept.ofExcept result : ExceptT ε (StateM σ) α).run state = (result, state) := by
  cases result <;> rfl

theorem stateRun_bind (x : StateM σ α) (f : α → StateM σ β) (state : σ) :
    (x >>= f).run state = (f (x.run state).1).run (x.run state).2 :=
  rfl

theorem run_lift (x : StateM σ α) (state : σ) :
    (liftM x : ExceptT ε (StateM σ) α).run state = (.ok (x.run state).1, (x.run state).2) :=
  rfl

theorem run_get (state : σ) : (get : ExceptT ε (StateM σ) σ).run state = (.ok state, state) :=
  rfl

theorem run_set (later state : σ) :
    (set later : ExceptT ε (StateM σ) PUnit).run state = (.ok ⟨⟩, later) :=
  rfl

theorem run_modify (f : σ → σ) (state : σ) :
    (modify f : ExceptT ε (StateM σ) PUnit).run state = (.ok ⟨⟩, f state) :=
  rfl

theorem run_modifyGet (f : σ → α × σ) (state : σ) :
    (modifyGet f : ExceptT ε (StateM σ) α).run state = (.ok (f state).1, (f state).2) :=
  rfl

theorem run_bind_ok_iff {x : ExceptT ε (StateM σ) α} {f : α → ExceptT ε (StateM σ) β}
    {state after : σ} {b : β} :
    (x >>= f).run state = (.ok b, after) ↔
      ∃ a next, x.run state = (.ok a, next) ∧ (f a).run next = (.ok b, after) := by
  rw [run_bind]
  rcases x.run state with ⟨error | a, next⟩
  · constructor
    · intro h
      cases h
    · rintro ⟨_, _, h, -⟩
      cases h
  · constructor
    · exact fun h => ⟨a, next, rfl, h⟩
    · rintro ⟨_, _, he, h⟩
      cases he
      exact h

-- A sequence fails in its first part, or in the second after the first.
theorem run_bind_error_iff {x : ExceptT ε (StateM σ) α} {f : α → ExceptT ε (StateM σ) β}
    {state : σ} {error : ε} :
    ((x >>= f).run state).1 = .error error ↔ (x.run state).1 = .error error ∨
      ∃ a next, x.run state = (.ok a, next) ∧ ((f a).run next).1 = .error error := by
  rw [run_bind]
  rcases x.run state with ⟨error' | a, next⟩
  · simp only [Except.error.injEq, iff_self_or]
    rintro ⟨_, _, he, -⟩
    cases he
  · simp only [reduceCtorEq, false_or]
    refine ⟨fun h => ⟨a, next, rfl, h⟩, ?_⟩
    rintro ⟨_, _, he, h⟩
    cases he
    exact h

theorem exists_ok {outcome : Except ε α × σ} (h : outcome.1.isOk = true) :
    ∃ a, outcome = (.ok a, outcome.2) := by
  rcases outcome with ⟨error | a, state⟩
  · cases h
  · exact ⟨a, rfl⟩

end FrameMarkers
