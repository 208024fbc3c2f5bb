import QuadPort.Link

/-!
# Running a conversation

A conversation is opened at a session and comes to a result and a next session. The
equations below say so for each way of building one, so that later proofs never look
inside the monads.
-/

namespace QuadPort.Conversation

variable {σ ε ε' α β : Type}

def play (action : StateM (Session σ) α) (session : Session σ) : α × Session σ :=
  action.run session

def enact (conversation : ExceptT ε (StateM (Session σ)) α) (session : Session σ) :
    Except ε α × Session σ :=
  play conversation.run session

/-! ## Actions -/

@[simp] theorem play_pure (value : α) (session : Session σ) :
    play (pure value) session = (value, session) := rfl

@[simp] theorem play_bind (action : StateM (Session σ) α)
    (next : α → StateM (Session σ) β) (session : Session σ) :
    play (action >>= next) session =
      play (next (play action session).1) (play action session).2 := rfl

@[simp] theorem play_get (session : Session σ) : play get session = (session, session) := rfl

theorem play_run (conversation : ExceptT ε (StateM (Session σ)) α) (session : Session σ) :
    play conversation.run session = enact conversation session := rfl

/-! ## Conversations -/

@[simp] theorem enact_pure (value : α) (session : Session σ) :
    enact (pure value : ExceptT ε (StateM (Session σ)) α) session = (.ok value, session) := rfl

@[simp] theorem enact_throw (error : ε) (session : Session σ) :
    enact (throw error : ExceptT ε (StateM (Session σ)) α) session =
      (.error error, session) := rfl

@[simp] theorem enact_bind (conversation : ExceptT ε (StateM (Session σ)) α)
    (next : α → ExceptT ε (StateM (Session σ)) β) (session : Session σ) :
    enact (conversation >>= next) session =
      match enact conversation session with
      | (.ok value, after) => enact (next value) after
      | (.error error, after) => (.error error, after) := by
  simp only [enact, play, ExceptT.run_bind, StateT.run_bind]
  rcases StateT.run conversation.run session with ⟨_ | _, _⟩ <;> rfl

theorem enact_forM_cons {ι : Type} (step : ι → ExceptT ε (StateM (Session σ)) PUnit) (item : ι)
    (items : List ι) (session : Session σ) :
    enact ((item :: items).forM step) session =
      match enact (step item) session with
      | (.ok _, after) => enact (items.forM step) after
      | (.error error, after) => (.error error, after) := by
  change enact (step item >>= fun _ ↦ items.forM step) session = _
  rw [enact_bind]
  rcases enact (step item) session with ⟨_ | _, _⟩ <;> rfl

/-- Steps in a row that fail do so in one of them, after those in front of it succeeded. -/
theorem exists_of_enact_forM_error {ι : Type} {step : ι → ExceptT ε (StateM (Session σ)) PUnit}
    {items : List ι} {error : ε} {session after : Session σ}
    (h : enact (items.forM step) session = (.error error, after)) :
    ∃ front item back between, items = front ++ item :: back ∧
      enact (front.forM step) session = (.ok ⟨⟩, between) ∧
        enact (step item) between = (.error error, after) := by
  induction items generalizing session with
  | nil => cases h
  | cons first items ih =>
    rw [enact_forM_cons] at h
    cases hfirst : enact (step first) session with
    | mk result middle =>
      rw [hfirst] at h
      cases result with
      | error => exact ⟨[], first, items, session, rfl, rfl, hfirst.trans h⟩
      | ok =>
        obtain ⟨front, item, back, between, rfl, hfront, hitem⟩ := ih h
        refine ⟨first :: front, item, back, between, rfl, ?_, hitem⟩
        rw [enact_forM_cons, hfirst]
        exact hfront

@[simp] theorem enact_tryCatch (conversation : ExceptT ε (StateM (Session σ)) α)
    (handler : ε → ExceptT ε (StateM (Session σ)) α) (session : Session σ) :
    enact (tryCatch conversation handler) session =
      match enact conversation session with
      | (.ok value, after) => (.ok value, after)
      | (.error error, after) => enact (handler error) after := by
  have hopen : enact (tryCatch conversation handler) session =
      play (match (enact conversation session).1 with
        | .ok value => pure (.ok value)
        | .error error => (handler error).run) (enact conversation session).2 := rfl
  rw [hopen]
  rcases enact conversation session with ⟨_ | _, _⟩ <;> rfl

@[simp] theorem enact_adapt (function : ε → ε')
    (conversation : ExceptT ε (StateM (Session σ)) α) (session : Session σ) :
    enact (conversation.adapt function) session =
      ((enact conversation session).1.mapError function, (enact conversation session).2) := rfl

@[simp] theorem enact_lift (action : StateM (Session σ) α) (session : Session σ) :
    enact (liftM action : ExceptT ε (StateM (Session σ)) α) session =
      (.ok (play action session).1, (play action session).2) := rfl

@[simp] theorem enact_get (session : Session σ) :
    enact (get : ExceptT ε (StateM (Session σ)) (Session σ)) session =
      (.ok session, session) := rfl

@[simp] theorem enact_set (next session : Session σ) :
    enact (set next : ExceptT ε (StateM (Session σ)) PUnit) session = (.ok ⟨⟩, next) := rfl

@[simp] theorem enact_modify (function : Session σ → Session σ) (session : Session σ) :
    enact (modify function : ExceptT ε (StateM (Session σ)) PUnit) session =
      (.ok ⟨⟩, function session) := rfl

@[simp] theorem enact_relay (action : StateM (Session σ) (Except Fault Unit))
    (session : Session σ) :
    enact (relay action) session =
      ((play action session).1.mapError .transport, (play action session).2) := by
  unfold relay
  rw [enact_bind, enact_lift]
  rcases (play action session).1 with _ | _ <;> rfl

@[simp] theorem mapError_ok (function : ε → ε') (value : α) :
    (Except.ok value : Except ε α).mapError function = .ok value := rfl

theorem eq_ok_of_mapError {function : ε → ε'} {result : Except ε α} {value : α}
    (h : .ok value = result.mapError function) : result = .ok value := by
  cases result with
  | ok => cases h; rfl
  | error => cases h

theorem eq_error_of_mapError {function : ε → ε'} {result : Except ε α} {error : ε'}
    (h : .error error = result.mapError function) :
    ∃ cause, result = .error cause ∧ error = function cause := by
  cases result with
  | ok => cases h
  | error cause =>
    cases h
    exact ⟨cause, rfl, rfl⟩

@[simp] theorem exact_ok (value : α) :
    (exact (.ok value) : Conversation σ α) = pure value := rfl

end QuadPort.Conversation
