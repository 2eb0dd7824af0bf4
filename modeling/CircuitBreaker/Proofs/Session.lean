import CircuitBreaker.Session

namespace CircuitBreaker

namespace Session

variable {ε α : Type}

theorem lookup_cons {K V : Type} [BEq K] [LawfulBEq K] [DecidableEq K] (call : K × V) (calls : List (K × V))
    (other : K) : (call :: calls).lookup other = if other = call.1 then some call.2 else calls.lookup other := by
  by_cases h : other = call.1
  · rw [if_pos h, h]
    exact List.lookup_cons_self
  · rw [if_neg h, List.lookup_cons, beq_eq_false_iff_ne.mpr h]

theorem lookup_hold (id : Int) (phase : Phase) (calls : List (Int × Phase)) (other : Int) :
    (hold id phase calls).lookup other = if other = id then some phase else calls.lookup other := by
  induction calls with
  | nil => rw [hold, lookup_cons]
  | cons call calls ih =>
    unfold hold
    by_cases hlt : id < call.1
    · rw [if_pos hlt, lookup_cons]
    rw [if_neg hlt]
    by_cases heq : id = call.1
    · rw [if_pos heq, lookup_cons, lookup_cons, ← heq]
      by_cases h : other = id <;> simp [h]
    · rw [if_neg heq, lookup_cons, lookup_cons, ih]
      by_cases h : other = id
      · simp [h, heq]
      · simp [h]

theorem lookup_forget (s : Session ε) (id other : Int) :
    (s.forget id).calls.lookup other = if other = id then none else s.calls.lookup other := by
  unfold forget
  generalize s.calls = calls
  induction calls with
  | nil => simp
  | cons call calls ih =>
    by_cases hid : call.1 = id
    · rw [List.filter_cons_of_neg (by simp [hid]), ih, lookup_cons, hid]
      by_cases h : other = id <;> simp [h]
    · rw [List.filter_cons_of_pos (by simp [hid]), lookup_cons, lookup_cons, ih]
      by_cases h : other = id
      · simp [h, Ne.symm hid]
      · simp [h]

theorem exists_free_number (s : Session ε) : ∃ id, s.calls.lookup id = none := by
  obtain ⟨bound, hbound⟩ : ∃ bound, ∀ call ∈ s.calls, call.1 < bound := by
    generalize s.calls = calls
    induction calls with
    | nil => exact ⟨0, by simp⟩
    | cons call calls ih =>
      obtain ⟨bound, hbound⟩ := ih
      refine ⟨max bound (call.1 + 1), fun other hother => ?_⟩
      rcases List.mem_cons.mp hother with rfl | hother
      · omega
      · have := hbound other hother
        omega
  refine ⟨bound, List.lookup_eq_none_iff.mpr fun call hcall => ?_⟩
  have := hbound call hcall
  simp
  omega

variable {s : Session ε} {id : Int} {permit : Permit}

theorem invoke_refused (ha : s.acquire.1 = none) (delivery : Delivery α) (operation : List (Step ε α))
    (result : Completion ε α) :
    s.step (.invoke delivery operation result) = (.settled .rejected false [], s.acquire.2) := by
  have hacquire : s.acquire = (none, s.acquire.2) := by rw [← ha]
  rw [step, hacquire]

theorem invoke_admitted (ha : s.acquire.1 = some permit) (delivery : Delivery α) (operation : List (Step ε α))
    (result : Completion ε α) :
    s.step (.invoke delivery operation result) =
      (.settled (((s.acquire.2.run operation).2.settle permit result).1.map delivery.value) true
        (s.acquire.2.run operation).1, ((s.acquire.2.run operation).2.settle permit result).2) := by
  have hacquire : s.acquire = (some permit, s.acquire.2) := by rw [← ha]
  rw [step, hacquire]

theorem poll_refused (ha : s.acquire.1 = none) (hid : s.calls.lookup id = some .fresh)
    (result : Option (Completion ε α)) :
    s.poll id result = (.settled .rejected false [], s.acquire.2.forget id) := by
  have hacquire : s.acquire = (none, s.acquire.2) := by rw [← ha]
  unfold poll
  rw [hid]
  dsimp only
  rw [hacquire]

theorem poll_admitted (ha : s.acquire.1 = some permit) (hid : s.calls.lookup id = some .fresh)
    (result : Option (Completion ε α)) : s.poll id result = s.acquire.2.progress id permit result := by
  have hacquire : s.acquire = (some permit, s.acquire.2) := by rw [← ha]
  unfold poll
  rw [hid]
  dsimp only
  rw [hacquire]

theorem finish_running (hid : s.calls.lookup id = some (.running permit)) (result : Completion ε α) :
    s.poll id (some result) =
      (.settled ((s.settle permit result).1.map some) true [], (s.settle permit result).2.forget id) := by
  unfold poll
  rw [hid]
  rfl

theorem start_eq_poll (hfree : s.calls.lookup id = none) : (s.start id : Answer ε α × Session ε) =
    ({ s with calls := hold id .fresh s.calls } : Session ε).poll id none := by
  unfold start create
  rw [hfree]

theorem start_refused (hfree : s.calls.lookup id = none) (ha : s.acquire.1 = none) :
    ∃ calls, (s.start id : Answer ε α × Session ε) = (.settled .rejected false [], { s.acquire.2 with calls }) ∧
      ∀ other, calls.lookup other = s.calls.lookup other := by
  let fresh : Session ε := { s with calls := hold id .fresh s.calls }
  have hfresh : fresh.calls.lookup id = some .fresh := by rw [lookup_hold, if_pos rfl]
  refine ⟨(fresh.forget id).calls, ?_, fun other => ?_⟩
  · rw [start_eq_poll hfree]
    exact poll_refused (s := fresh) ha hfresh none
  · rw [lookup_forget, lookup_hold]
    by_cases ho : other = id
    · rw [if_pos ho, ho, hfree]
    · rw [if_neg ho, if_neg ho]

theorem start_admitted (hfree : s.calls.lookup id = none) (ha : s.acquire.1 = some permit) :
    ∃ calls, (s.start id : Answer ε α × Session ε) = (.pending, { s.acquire.2 with calls }) ∧
      ∀ other, calls.lookup other = if other = id then some (.running permit) else s.calls.lookup other := by
  let fresh : Session ε := { s with calls := hold id .fresh s.calls }
  have hfresh : fresh.calls.lookup id = some .fresh := by rw [lookup_hold, if_pos rfl]
  refine ⟨hold id (.running permit) fresh.calls, ?_, fun other => ?_⟩
  · rw [start_eq_poll hfree]
    exact poll_admitted (s := fresh) ha hfresh none
  · rw [lookup_hold, lookup_hold]
    by_cases ho : other = id <;> simp [ho]

end Session

end CircuitBreaker
