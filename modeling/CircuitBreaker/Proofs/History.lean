import Mathlib.Data.List.Infix
import CircuitBreaker.Simulation.Basic

namespace CircuitBreaker

/-- Something in the history is so, and what came later is so. -/
def Since {A : Type} (p : A → Prop) (q : List A → Prop) (history : List A) : Prop :=
  ∃ a later, a :: later <:+ history ∧ p a ∧ q later

section Since

variable {A : Type} {p : A → Prop} {q : List A → Prop} {history : List A} {a : A}

theorem since_concat :
    Since p q (history ++ [a]) ↔ p a ∧ q [] ∨ Since p (fun later => q (later ++ [a])) history := by
  constructor
  · rintro ⟨b, later, hsuffix, hp, hq⟩
    rcases List.suffix_concat_iff.mp hsuffix with hnil | ⟨earlier, heq, hearlier⟩
    · cases hnil
    · cases earlier with
      | nil =>
        obtain ⟨rfl, rfl⟩ := List.cons_eq_cons.mp heq
        exact .inl ⟨hp, hq⟩
      | cons c earlier =>
        obtain ⟨rfl, rfl⟩ := List.cons_eq_cons.mp heq
        exact .inr ⟨b, earlier, hearlier, hp, hq⟩
  · rintro (⟨hp, hq⟩ | ⟨b, later, hsuffix, hp, hq⟩)
    · exact ⟨a, [], List.suffix_append history [a], hp, hq⟩
    · exact ⟨b, later ++ [a], List.suffix_concat_iff.mpr (.inr ⟨b :: later, rfl, hsuffix⟩), hp, hq⟩

theorem since_and {x : Prop} : Since p (fun later => q later ∧ x) history ↔ Since p q history ∧ x := by
  constructor
  · rintro ⟨a, later, hsuffix, hp, hq, hx⟩
    exact ⟨⟨a, later, hsuffix, hp, hq⟩, hx⟩
  · rintro ⟨⟨a, later, hsuffix, hp, hq⟩, hx⟩
    exact ⟨a, later, hsuffix, hp, hq, hx⟩

theorem since_congr {q' : List A → Prop} (h : ∀ later, q later ↔ q' later) :
    Since p q history ↔ Since p q' history := by
  rw [show q = q' from funext fun later => propext (h later)]

end Since

namespace Action

def answer : Action → Option CallResult
  | succeed => some .ok
  | fail | invalidRequest => some .failed
  | wait | trip | hardTrip | reset => none

structure Results (action : Action) (refused : Prop) (result : Option CallResult) : Prop where
  rejected : result = some .rejected ↔ action.answer ≠ none ∧ refused
  answered : result = some .rejected ∨ result = action.answer

theorem Results.silent {action : Action} {refused : Prop} (ha : action.answer = none) :
    action.Results refused none := ⟨by simp [ha], .inr ha.symm⟩

theorem Results.unique {action : Action} {refused : Prop} {result result' : Option CallResult}
    (hr : action.Results refused result) (hr' : action.Results refused result') : result = result' := by
  rcases hr.answered with heq | heq
  · exact heq.trans (hr'.rejected.mpr (hr.rejected.mp heq)).symm
  · rcases hr'.answered with heq' | heq'
    · exact (hr.rejected.mpr (hr'.rejected.mp heq')).trans heq'.symm
    · exact heq.trans heq'.symm

end Action

structure Turn where
  action : Action
  result : Option CallResult
deriving DecidableEq

namespace Turn

def opens (r : Turn) : Bool :=
  r.action = .trip || r.action = .hardTrip || (r.action = .fail && r.result = some .failed)

def closes (r : Turn) : Bool := r.action = .reset || (r.action = .succeed && r.result = some .ok)

def passes (r : Turn) : Bool := r.action = .invalidRequest && r.result = some .failed

end Turn

abbrev History := List Turn

namespace History

variable {h : History} {r : Turn} {interval : Duration} {time : Nat}

def waits (h : History) : Nat := h.countP (·.action = .wait)

def openings (h : History) : Nat := h.countP (·.opens)

def Locked (h : History) : Prop := Since (·.action = .hardTrip) (fun later => ∀ r ∈ later, r.action ≠ .reset) h

def Tripped (h : History) : Prop := Since (·.opens = true) (fun later => ∀ r ∈ later, r.closes = false) h

def TrippedWithin (interval : Duration) (time : Nat) (h : History) : Prop :=
  Since (·.opens = true) (fun later => (∀ r ∈ later, r.closes = false) ∧ waits later * interval.nanos < time) h

def Passed (h : History) : Prop :=
  Since (·.passes = true) (fun later => ∀ r ∈ later, r.opens = false ∧ r.closes = false) h

def OpenedAt (interval : Duration) (now time : Int) (h : History) : Prop :=
  Since (·.opens = true) (fun later => (∀ r ∈ later, r.opens = false) ∧ time + waits later * interval.nanos = now) h

theorem waits_concat : waits (h ++ [r]) = waits h + if r.action = .wait then 1 else 0 := by
  simp [waits, List.countP_append, List.countP_singleton]

theorem openings_concat : openings (h ++ [r]) = openings h + if r.opens then 1 else 0 := by
  simp [openings, List.countP_append, List.countP_singleton]

theorem forall_mem_concat {A : Type} {p : A → Prop} {later : List A} {a : A} :
    (∀ x ∈ later ++ [a], p x) ↔ (∀ x ∈ later, p x) ∧ p a := by
  rw [List.forall_mem_append, List.forall_mem_singleton]

theorem locked_concat : Locked (h ++ [r]) ↔ r.action = .hardTrip ∨ Locked h ∧ r.action ≠ .reset := by
  unfold Locked
  rw [since_concat, since_congr fun _ => forall_mem_concat, since_and]
  simp

theorem tripped_concat : Tripped (h ++ [r]) ↔ r.opens = true ∨ Tripped h ∧ r.closes = false := by
  unfold Tripped
  rw [since_concat, since_congr fun _ => forall_mem_concat, since_and]
  simp

theorem passed_concat :
    Passed (h ++ [r]) ↔ r.passes = true ∨ Passed h ∧ r.opens = false ∧ r.closes = false := by
  unfold Passed
  rw [since_concat, since_congr fun _ => forall_mem_concat, since_and]
  simp

theorem trippedWithin_concat : TrippedWithin interval time (h ++ [r]) ↔
    r.opens = true ∧ 0 < time ∨
      TrippedWithin interval (time - if r.action = .wait then interval.nanos else 0) h ∧ r.closes = false := by
  have hlater (later : History) :
      ((∀ x ∈ later ++ [r], x.closes = false) ∧ waits (later ++ [r]) * interval.nanos < time) ↔
        ((∀ x ∈ later, x.closes = false) ∧
          waits later * interval.nanos < time - if r.action = .wait then interval.nanos else 0) ∧
            r.closes = false := by
    have hwaits : waits (later ++ [r]) * interval.nanos < time ↔
        waits later * interval.nanos < time - if r.action = .wait then interval.nanos else 0 := by
      rw [waits_concat, Nat.add_mul]
      split <;> omega
    rw [forall_mem_concat, hwaits, and_right_comm]
  unfold TrippedWithin
  rw [since_concat, since_congr hlater, since_and]
  simp [waits]

theorem openedAt_concat {now at' : Int} : OpenedAt interval now at' (h ++ [r]) ↔
    r.opens = true ∧ at' = now ∨
      OpenedAt interval (now - if r.action = .wait then (interval.nanos : Int) else 0) at' h ∧ r.opens = false := by
  have hlater (later : History) :
      ((∀ x ∈ later ++ [r], x.opens = false) ∧ at' + waits (later ++ [r]) * interval.nanos = now) ↔
        ((∀ x ∈ later, x.opens = false) ∧
          at' + waits later * interval.nanos = now - if r.action = .wait then (interval.nanos : Int) else 0) ∧
            r.opens = false := by
    have hwaits : at' + waits (later ++ [r]) * interval.nanos = now ↔
        at' + waits later * interval.nanos = now - if r.action = .wait then (interval.nanos : Int) else 0 := by
      rw [waits_concat, Int.natCast_add, Int.add_mul]
      split <;> omega
    rw [forall_mem_concat, hwaits, and_right_comm]
  unfold OpenedAt
  rw [since_concat, since_congr hlater, since_and]
  simp [waits]

/-- The breaker shows what these actions make of it, with the clocks at `start` before the first. -/
structure Shows (settings : Settings) (start : Clock) (interval : Duration) (h : History) (stats : Stats) :
    Prop where
  name : stats.name = settings.name
  timeout : stats.timeout = settings.resetTimeout.millis
  openCount : stats.openCount = .ofNat h.openings
  hardTripped : stats.hardTripped = true ↔ h.Locked
  probeInFlight : stats.probeInFlight = false
  closed : stats.state = .closed ↔ ¬ h.Tripped
  halfOpen : stats.state = .halfOpen ↔ h.Tripped ∧ h.Passed
  healthy : stats.health = .healthy ↔ ¬ h.Tripped
  unavailable : stats.health = .unavailable ↔
    h.Locked ∨ h.TrippedWithin interval (settings.resetTimeout.millis.toNat * 1000000)
  lastFailureTime : ∀ time, stats.lastFailureTime = some time ↔
    h.OpenedAt interval (start.wall.nanos + h.waits * interval.nanos) time.nanos

theorem Shows.unique {settings : Settings} {start : Clock} {stats stats' : Stats}
    (hs : h.Shows settings start interval stats) (hs' : h.Shows settings start interval stats') : stats = stats' := by
  have hstate : stats.state = stats'.state := by
    have hclosed := hs.closed.trans hs'.closed.symm
    have hhalf := hs.halfOpen.trans hs'.halfOpen.symm
    cases hx : stats.state <;> cases hy : stats'.state <;> simp [hx, hy] at hclosed hhalf ⊢
  have hhealth : stats.health = stats'.health := by
    have hhealthy := hs.healthy.trans hs'.healthy.symm
    have hunavailable := hs.unavailable.trans hs'.unavailable.symm
    cases hx : stats.health <;> cases hy : stats'.health <;> simp [hx, hy] at hhealthy hunavailable ⊢
  have htime : stats.lastFailureTime = stats'.lastFailureTime :=
    Option.ext fun time => (hs.lastFailureTime time).trans (hs'.lastFailureTime time).symm
  have hhard : stats.hardTripped = stats'.hardTripped :=
    Bool.eq_iff_iff.mpr (hs.hardTripped.trans hs'.hardTripped.symm)
  have hname := hs.name.trans hs'.name.symm
  have htimeout := hs.timeout.trans hs'.timeout.symm
  have hcount := hs.openCount.trans hs'.openCount.symm
  have hmark := hs.probeInFlight.trans hs'.probeInFlight.symm
  cases stats
  cases stats'
  simp_all only

end History

namespace StepReport

def turn (r : StepReport) : Turn := ⟨r.action, r.result⟩

structure Follows (settings : Settings) (start : Clock) (interval : Duration) (earlier : History)
    (r : StepReport) : Prop where
  result : r.action.Results
    (earlier.Locked ∨ earlier.TrippedWithin interval (settings.resetTimeout.millis.toNat * 1000000)) r.result
  stats : (earlier ++ [r.turn]).Shows settings start interval r.stats

theorem Follows.unique {settings : Settings} {start : Clock} {interval : Duration} {earlier : History}
    {r r' : StepReport} (hr : r.Follows settings start interval earlier)
    (hr' : r'.Follows settings start interval earlier) (hstep : r.step = r'.step) (haction : r.action = r'.action) :
    r = r' := by
  obtain ⟨step, action, result, stats⟩ := r
  obtain ⟨step', action', result', stats'⟩ := r'
  obtain rfl : step = step' := hstep
  obtain rfl : action = action' := haction
  obtain rfl : result = result' := hr.result.unique hr'.result
  obtain rfl : stats = stats' := hr.stats.unique hr'.stats
  rfl

end StepReport

namespace History

variable {settings : Settings} {start : Clock} {interval : Duration} {h : History} {number : Nat}

structure Accounts (settings : Settings) (start : Clock) (interval : Duration) (number : Nat) (h : History)
    (script : Script) (reports : List StepReport) : Prop where
  steps : reports.map (·.step) = List.range' number script.length
  actions : reports.map (·.action) = script
  follows : ∀ earlier r later, reports = earlier ++ r :: later →
    r.Follows settings start interval (h ++ earlier.map (·.turn))

theorem accounts_nil : h.Accounts settings start interval number [] [] where
  steps := rfl
  actions := rfl
  follows earlier r later heq := by
    cases List.append_eq_nil_iff.mp heq.symm |>.2

theorem accounts_cons {action : Action} {script : Script} {r : StepReport} {reports : List StepReport} :
    h.Accounts settings start interval number (action :: script) (r :: reports) ↔
      r.step = number ∧ r.action = action ∧ r.Follows settings start interval h ∧
        (h ++ [r.turn]).Accounts settings start interval (number + 1) script reports := by
  constructor
  · intro ha
    have hsteps := List.cons_eq_cons.mp ha.steps
    have hactions := List.cons_eq_cons.mp ha.actions
    refine ⟨hsteps.1, hactions.1, by simpa using ha.follows [] r reports rfl, hsteps.2, hactions.2, ?_⟩
    rintro earlier r' later rfl
    simpa using ha.follows (r :: earlier) r' later rfl
  · rintro ⟨hstep, haction, hfollows, ha⟩
    refine ⟨?_, ?_, ?_⟩
    · exact List.cons_eq_cons.mpr ⟨hstep, ha.steps⟩
    · exact List.cons_eq_cons.mpr ⟨haction, ha.actions⟩
    · rintro (_ | ⟨first, earlier⟩) r' later heq
      · obtain ⟨rfl, -⟩ := List.cons_eq_cons.mp heq
        simpa using hfollows
      · obtain ⟨rfl, rfl⟩ := List.cons_eq_cons.mp heq
        simpa using ha.follows earlier r' later rfl

theorem Accounts.unique {script : Script} {reports reports' : List StepReport}
    (ha : h.Accounts settings start interval number script reports)
    (ha' : h.Accounts settings start interval number script reports') : reports = reports' := by
  induction script generalizing h number reports reports' with
  | nil => rw [List.map_eq_nil_iff.mp ha.actions, List.map_eq_nil_iff.mp ha'.actions]
  | cons action script ih =>
    obtain ⟨r, reports, rfl, -, -⟩ := List.map_eq_cons_iff.mp ha.actions
    obtain ⟨r', reports', rfl, -, -⟩ := List.map_eq_cons_iff.mp ha'.actions
    obtain ⟨hstep, haction, hfollows, ha⟩ := accounts_cons.mp ha
    obtain ⟨hstep', haction', hfollows', ha'⟩ := accounts_cons.mp ha'
    have hr : r = r' := hfollows.unique hfollows' (hstep.trans hstep'.symm) (haction.trans haction'.symm)
    subst hr
    rw [ih ha ha']

end History

end CircuitBreaker
