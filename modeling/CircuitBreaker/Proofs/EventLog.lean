import CircuitBreaker.Proofs.Opening

namespace CircuitBreaker

structure View where
  state : State := .closed
  probeInFlight : Bool := false
  hardTripped : Bool := false
  openCount : UInt64 := 0
deriving DecidableEq

namespace View

def after (v : View) : Event → View
  | .opening _ count => { v with state := .opened, probeInFlight := false, openCount := count }
  | .hardTripped _ count =>
    { state := .opened, probeInFlight := false, hardTripped := true, openCount := count }
  | .halfOpening _ => { v with state := .halfOpen }
  | .probeAdmitted _ => { v with probeInFlight := true }
  | .probeReleased _ => { v with probeInFlight := false }
  | .closing .. => { v with state := .closed, probeInFlight := false }
  | .reset _ => { v with state := .closed, hardTripped := false, probeInFlight := false }
  | .rejected .. | .rejectedHard _ | .abandoned .. | .passedThrough _ | .ignored | .loading _
  | .simulatedFailure _ => v

def Admits (v : View) : Event → Prop
  | .opening _ count | .hardTripped _ count => count = v.openCount + 1
  | .halfOpening _ => v.state = .opened ∧ v.hardTripped = false
  | .probeAdmitted _ => v.state = .halfOpen ∧ v.probeInFlight = false
  | .probeReleased _ => v.probeInFlight = true
  | .closing _ was => v.state = was ∧ was ≠ .closed
  | .rejected _ state => v.state = state
  | .rejectedHard _ => v.hardTripped = true
  | .reset _ | .abandoned .. | .passedThrough _ | .ignored | .loading _ | .simulatedFailure _ => True

def replay (log : List Event) : View := log.foldl after {}

theorem replay_concat (log : List Event) (e : Event) : replay (log ++ [e]) = (replay log).after e :=
  List.foldl_concat ..

def Truthful (log : List Event) : Prop := ∀ earlier e, earlier ++ [e] <+: log → (replay earlier).Admits e

theorem truthful_concat {log : List Event} {e : Event} (h : Truthful log) (he : (replay log).Admits e) :
    Truthful (log ++ [e]) := by
  intro earlier e' hpre
  rcases List.prefix_concat_iff.mp hpre with heq | hpre
  · obtain ⟨rfl, hlast⟩ := List.append_inj' heq rfl
    rw [List.singleton_inj.mp hlast]
    exact he
  · exact h earlier e' hpre

theorem after_remark (v : View) {e : Event} (he : e.remark = true) : v.after e = v ∧ v.Admits e := by
  cases e with
  | abandoned | passedThrough | ignored => exact ⟨rfl, trivial⟩
  | _ => cases he

end View

namespace Circuit

def view (c : Circuit) : View :=
  { state := c.state, probeInFlight := c.probeInFlight, hardTripped := c.hardTripped, openCount := c.openCount }

structure Told (c : Circuit) : Prop where
  view : View.replay c.log = c.view
  truthful : View.Truthful c.log

variable {ε α : Type} {c d : Circuit}

theorem Told.announce (h : c.Told) {e : Event} (hj : d.journal = e :: c.journal) (he : c.view.Admits e)
    (hv : d.view = c.view.after e) : d.Told := by
  have hlog : d.log = c.log ++ [e] := by rw [log, hj, List.reverse_cons, log]
  constructor
  · rw [hlog, View.replay_concat, h.view, hv]
  · rw [hlog]
    exact View.truthful_concat h.truthful (by rw [h.view]; exact he)

theorem Told.silent (h : c.Told) (hj : d.journal = c.journal) (hv : d.view = c.view) : d.Told := by
  have hlog : d.log = c.log := by rw [log, hj, log]
  exact ⟨by rw [hlog, h.view, hv], by rw [hlog]; exact h.truthful⟩

theorem Told.remark (h : c.Told) {e : Event} (he : e.remark = true) : (c.emit e).Told :=
  h.announce rfl (c.view.after_remark he).2 (c.view.after_remark he).1.symm

theorem Told.remarks (h : c.Told) {remarks : List Event} (hr : ∀ e ∈ remarks, e.remark = true) :
    (remarks.foldl emit c).Told := by
  induction remarks generalizing c with
  | nil => exact h
  | cons e es ih =>
    rw [List.forall_mem_cons] at hr
    exact ih (h.remark hr.1) hr.2

theorem replay_remarks (c : Circuit) {remarks : List Event} (hr : ∀ e ∈ remarks, e.remark = true) :
    View.replay (remarks.foldl emit c).log = View.replay c.log := by
  induction remarks generalizing c with
  | nil => rfl
  | cons e es ih =>
    rw [List.forall_mem_cons] at hr
    have hlog : (c.emit e).log = c.log ++ [e] := List.reverse_cons ..
    rw [List.foldl_cons, ih (c.emit e) hr.2, hlog, View.replay_concat, (View.after_remark _ hr.1).1]

theorem Told.ripen (h : c.Told) (hh : c.hardTripped = false) (now : Instant) : (c.ripen now).Told := by
  unfold Circuit.ripen
  split
  · rename_i hripe
    exact h.announce rfl ⟨hripe.1, hh⟩ rfl
  · exact h

theorem Told.admitProbe (h : c.Told) : c.admitProbe.2.Told := by
  unfold Circuit.admitProbe
  split
  · rename_i hfree
    have hp : c.probeInFlight = false := by simpa using hfree.2
    exact h.announce rfl ⟨hfree.1, hp⟩ rfl
  · exact h.announce rfl rfl rfl

theorem Told.admission (h : c.Told) (now : Instant) : (c.admission now).2.Told := by
  unfold Circuit.admission
  split
  · rename_i hh
    exact h.announce rfl hh rfl
  · rename_i hh
    split
    · exact h
    · exact (h.ripen (by simpa using hh) now).admitProbe

theorem Told.succeed (h : c.Told) (hg : c.Grounded) (hl : c.hardTripped = true → c.Locked) : c.succeed.Told := by
  -- Here the mark is taken back without a word, so it must not stand.
  unfold Circuit.succeed
  dsimp only
  split
  · rename_i hkept
    have hp : c.probeInFlight = false := by
      rcases hkept with hh | hs
      · exact (hl hh).probeInFlight
      · exact hg.closed hs
    exact h.silent rfl (by simp [Circuit.view, hp])
  · rename_i hclosing
    rw [not_or] at hclosing
    exact h.announce rfl ⟨rfl, hclosing.2⟩ rfl

theorem Told.opening (h : c.Told) (hard : Bool) {now : Clock} (hd : now.dated = true ∨ c.state = .opened) :
    (c.opening hard now).Told := by
  -- An opening that is not completed says nothing, so the circuit must be open already.
  cases hdate : now.dated with
  | true =>
    rw [c.opening_completed hard hdate]
    cases hard with
    | true | false => exact h.announce rfl rfl rfl
  | false =>
    have hs : c.state = .opened := hd.resolve_left (by simp [hdate])
    rw [c.opening_of_fault hard hdate]
    exact h.silent rfl (by simp [Circuit.view, Circuit.startCooldown, hs])

theorem Told.releaseProbe (h : c.Told) : c.releaseProbe.Told := by
  unfold Circuit.releaseProbe
  split
  · rename_i hp
    exact h.announce rfl hp rfl
  · exact h

theorem Told.conclude (h : c.Told) (hg : c.Grounded) (hl : c.hardTripped = true → c.Locked) (now : Clock)
    (permit : Permit) {a : Assessment ε α} (ho : a.opens = false) : (c.conclude now permit a).Told := by
  cases a with
  | success v => exact h.succeed hg hl
  | tripping | crash => cases ho
  | nonTripping error =>
    change (if permit.probe then c.releaseProbe else c).Told
    split
    · exact h.releaseProbe
    · exact h

end Circuit

namespace Traffic

variable {ε α : Type} {t : Traffic ε} {m : Move ε α}

def Unannounced (t : Traffic ε) (m : Move ε α) : Prop :=
  t.Opens m ∧ t.clock.dated = false ∧ t.circuit.state ≠ .opened

theorem dated_or_opened (h : ¬ t.Unannounced m) (hm : t.Opens m) :
    t.clock.dated = true ∨ t.circuit.state = .opened := by
  by_contra hnot
  rw [not_or] at hnot
  exact h ⟨hm, by simpa using hnot.1, hnot.2⟩

theorem enter_circuit (t : Traffic ε) : t.enter.circuit = (t.circuit.admission t.clock.mono).2 := by
  unfold enter
  rw [t.breaker.acquire_eq]
  cases (t.breaker.circuit.admission t.clock.mono).1 <;> rfl

theorem told_opened (h : t.circuit.Told) (ht : t.Tidy) (hopen : t.Opens m) (hm : ¬ t.Unannounced m) :
    (t.move m).circuit.Told := by
  obtain ⟨hard, remarks, hremarks, hc, -⟩ := opened_eq ht hopen
  have ha : (remarks.foldl Circuit.emit t.circuit).Alike t.circuit := Circuit.alike_emitAll _ _
  rw [hc]
  exact (h.remarks hremarks).opening hard ((dated_or_opened hm hopen).imp_right ha.state.trans)

theorem told_settle (h : t.circuit.Told) (hs : t.Sound) (hg : t.circuit.Grounded) (id : Nat)
    (result : Completion ε α) (hquiet : ¬ t.Opens (.settle id result)) : (t.settle id result).circuit.Told := by
  cases hf : t.ending id result with
  | none =>
    unfold settle
    rw [hf]
    exact h
  | some call =>
    obtain ⟨haborts, hfind⟩ := ending_eq_some_iff.mp hf
    obtain ⟨hc, rfl⟩ := find_eq hfind
    obtain ⟨remarks, hremarks, hb⟩ := t.breaker.settle_remarked t.clock call.permit result
    have ha : (remarks.foldl Circuit.emit t.circuit).Alike t.circuit := Circuit.alike_emitAll _ _
    have ho : (t.breaker.assess t.clock.mono result).1.opens = false := by
      by_contra ho
      exact hquiet (opens_settle hc (by simpa using ho) haborts)
    rw [settle_eq hf]
    change ((t.breaker.settle t.clock call.permit result).2.circuit).Told
    rw [hb]
    refine (h.remarks hremarks).conclude (ha.grounded hg) (fun hh => ?_) t.clock call.permit ho
    exact ha.locked (hs.locked (ha.hardTripped.symm.trans hh))

theorem told_quiet (h : t.circuit.Told) (hs : t.Sound) (hg : t.circuit.Grounded) (hquiet : ¬ t.Opens m) :
    (t.move m).circuit.Told := by
  cases m with
  | enter =>
    rw [move, enter_circuit]
    exact h.admission t.clock.mono
  | settle id result => exact told_settle h hs hg id result hquiet
  | abandon id =>
    rw [move, abandon_quiet hquiet]
    exact h
  | trip => exact absurd (.inl rfl) hquiet
  | hardTrip => exact absurd (.inr (.inl rfl)) hquiet
  | reset => exact h.announce rfl trivial rfl
  | setTimeout timeout => exact h.silent rfl rfl
  | install | shift => exact h

theorem told_move (h : t.circuit.Told) (ht : t.Tidy) (hs : t.Sound) (hg : t.circuit.Grounded)
    (hm : ¬ t.Unannounced m) : (t.move m).circuit.Told := by
  by_cases hopen : t.Opens m
  · exact told_opened h ht hopen hm
  · exact told_quiet h hs hg hopen

theorem undated_replay (ht : t.Tidy) (hm : t.Opens m) (hd : t.clock.dated = false) :
    View.replay (t.move m).circuit.log = View.replay t.circuit.log := by
  obtain ⟨hard, remarks, hremarks, hc, -⟩ := opened_eq ht hm
  rw [hc, Circuit.opening_of_fault _ hard hd]
  exact t.circuit.replay_remarks hremarks

theorem not_told_of_unannounced (ht : t.Tidy) (h : t.circuit.Told) (hm : t.Unannounced m) :
    ¬ (t.move m).circuit.Told := by
  obtain ⟨hopen, hd, hs⟩ := hm
  intro hafter
  have hview : (t.move m).circuit.view = t.circuit.view := by
    rw [← hafter.view, undated_replay ht hopen hd, h.view]
  have hstate : (t.move m).circuit.state = .opened := (opened_undated ht hopen hd).state
  exact hs ((congrArg View.state hview).symm.trans hstate)

theorem log_tells_iff (s : Setup ε) (ms : List (Move ε α)) :
    (∀ p, p <+: ms → ((start s).run p).circuit.Told) ↔
      ∀ p m, p ++ [m] <+: ms → ¬ ((start s).run p).Unannounced m := by
  constructor
  · intro h p m hp hm
    apply not_told_of_unannounced (run_tidy s p) (h p ((List.prefix_append p [m]).trans hp)) hm
    rw [← run_concat]
    exact h (p ++ [m]) hp
  · intro h p hp
    have hstart : (start s).circuit.Told := by
      refine ⟨rfl, fun earlier e hpre => ?_⟩
      simp [start, circuit, Circuit.ofTimeout, Circuit.log] at hpre
    exact run_induction (P := fun t => t.circuit.Told) hstart
      (fun q m hq ht => told_move ht (run_tidy s q) (run_sound s q) (run_grounded s q) (h q m hq)) p hp

theorem silent_opening :
    let t := (start plain).run [.shift 0 (-1), (.trip : Move Unit Unit)]
    ¬ t.circuit.Told ∧ t.circuit.state = .opened ∧ t.circuit.log = [] := by
  refine ⟨fun h => ?_, by decide, by decide⟩
  exact absurd h.view (by decide)

end Traffic

end CircuitBreaker
