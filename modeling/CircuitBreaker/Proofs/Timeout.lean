import CircuitBreaker.Proofs.Health
import CircuitBreaker.Proofs.RoundTrip
import Mathlib.Algebra.Group.Nat.Defs
import Mathlib.Order.Monotone.Defs

namespace CircuitBreaker

namespace Duration

def timeoutMillis (d : Duration) : Nat := min (d.nanos / 1000000) (2 ^ 64 - 1)

theorem millis_eq (d : Duration) : d.millis.toNat = d.timeoutMillis := d.toNat_millis

theorem ofMillis_nanos (n : Nat) : (ofMillis n).nanos / 1000000 = n := Nat.mul_div_cancel n (by decide)

theorem timeoutMillis_ofMillis (d : Duration) : (ofMillis d.timeoutMillis).timeoutMillis = d.timeoutMillis := by
  rw [timeoutMillis, ofMillis_nanos]
  exact Nat.min_eq_left (Nat.min_le_right _ _)

theorem timeoutMillis_ofSeconds (seconds nanos : Nat) :
    (ofSeconds seconds nanos).timeoutMillis = min (seconds * 1000 + nanos / 1000000) (2 ^ 64 - 1) := by
  have hfloor : (seconds * 1000000000 + nanos) / 1000000 = seconds * 1000 + nanos / 1000000 := by omega
  rw [timeoutMillis, ofSeconds, hfloor]

theorem timeoutMillis_mono : Monotone fun nanos => (Duration.mk nanos).timeoutMillis := by
  intro nanos nanos' h
  have hdiv : nanos / 1000000 ≤ nanos' / 1000000 := Nat.div_le_div_right h
  simp only [timeoutMillis]
  omega

end Duration

namespace Circuit

variable {c : Circuit} {now failed : Instant} {ms : Nat}

structure Leaves (c : Circuit) (now : Instant) (cooled : Prop) : Prop where
  halfOpen : (c.admission now).2.state = .halfOpen ↔ cooled
  probe : (c.admission now).1 = .probe ↔ c.probeInFlight = false ∧ cooled
  degraded : c.health now = .degraded ↔ cooled

theorem leaves_cooled (hs : c.state = .opened) (hh : c.hardTripped = false) :
    c.Leaves now (c.cooled now = true) := by
  rcases c.admission_cases now with ⟨hw, j, ha⟩ | ⟨-, hclosed, -⟩ | ⟨-, hr, hp, j, ha⟩ | ⟨-, hr, hp, j, ha⟩
  · have hcool : c.cooled now = false := by
      rcases hw with hhard | ⟨-, hcool⟩
      · cases hh.symm.trans hhard
      · exact hcool
    have hhealth := health_of_waiting hs (.inr hcool)
    constructor <;> simp [ha, hs, hcool, hhealth]
  · cases hs.symm.trans hclosed
  all_goals
    have hcool : c.cooled now = true := by
      rcases hr with hhalf | ⟨-, hcool⟩
      · cases hs.symm.trans hhalf
      · exact hcool
    have hhealth := health_of_ripe hh hr
    constructor <;> simp [ha, hp, hcool, hhealth]

theorem cooled_iff (hf : c.lastFailure = some failed) :
    c.cooled now = true ↔ c.timeout.toNat * 1000000 ≤ (now.nanos - failed.nanos).toNat := by
  unfold cooled
  rw [hf]
  exact decide_eq_true_iff

structure Keeps (c : Circuit) (ms : Nat) : Prop where
  stored : c.timeout.toNat = ms
  read : c.resetTimeout = .ofMillis ms
  restored : c.setTimeout c.resetTimeout = c
  shown : ∀ now, (c.stats now).timeout.toNat = ms
  written : ∀ now, ("reset_timeout_ms", .number ms) ∈ (c.stats now).record
  cooldown : c.state = .opened → c.hardTripped = false → ∃ failed, c.lastFailure = some failed ∧
    ∀ now, c.Leaves now (ms * 1000000 ≤ (now.nanos - failed.nanos).toNat)

theorem Grounded.keeps (h : c.Grounded) : c.Keeps c.timeout.toNat where
  stored := rfl
  read := rfl
  restored := by rw [setTimeout, c.millis_resetTimeout]
  shown _ := congrArg UInt64.toNat c.millis_resetTimeout
  written now := by
    have hshown : (c.stats now).timeout = c.timeout := c.millis_resetTimeout
    simp [Stats.record, hshown]
  cooldown hs hh := by
    obtain ⟨failed, hf⟩ := Option.ne_none_iff_exists'.mp (h.tripped (by simp [hs]))
    refine ⟨failed, hf, fun now => ?_⟩
    rw [← cooled_iff hf]
    exact leaves_cooled hs hh

end Circuit

def Move.timeout? {ε α : Type} : Move ε α → Option Duration
  | .setTimeout timeout => some timeout
  | .enter | .settle .. | .abandon _ | .trip | .hardTrip | .reset | .install _ | .shift .. => none

namespace Traffic

variable {ε α : Type} {t : Traffic ε} {m : Move ε α}

def latestTimeout (first : Duration) (ms : List (Move ε α)) : Duration :=
  ms.foldl (fun timeout m => m.timeout?.getD timeout) first

theorem timeout_untouched (hm : m.timeout? = none) : (t.move m).circuit.timeout = t.circuit.timeout := by
  have he := t.move_effect m
  generalize t.move m = u at he
  cases he with
  | idle b _ _ hb | hold b _ _ _ hb | probe b _ _ _ hb | reset b hb | passing b _ _ hb => exact hb.timeout
  | pass => rfl
  | retime => cases hm
  | opening b _ _ _ hb => exact hb.timeout.trans (Circuit.trip_timeout _ _)
  | latch b hb => exact hb.timeout.trans (Circuit.hardTrip_timeout _ _)
  | success b _ _ _ hb => exact hb.timeout.trans (Circuit.succeed_timeout _)

theorem move_timeout {d : Duration} (h : t.circuit.timeout = d.millis) (m : Move ε α) :
    (t.move m).circuit.timeout = (m.timeout?.getD d).millis := by
  cases hm : m.timeout? with
  | none => exact (timeout_untouched hm).trans h
  | some timeout =>
    cases m with
    | setTimeout timeout' =>
      cases hm
      rfl
    | _ => cases hm

theorem run_timeout (s : Setup ε) (ms : List (Move ε α)) :
    ((start s).run ms).circuit.timeout = (latestTimeout s.timeout ms).millis := by
  induction ms using List.reverseRecOn with
  | nil => rfl
  | append_singleton ms m ih =>
    rw [run_concat, move_timeout ih m]
    unfold latestTimeout
    rw [List.foldl_append]
    rfl

theorem run_keeps (s : Setup ε) (ms : List (Move ε α)) :
    ((start s).run ms).circuit.Keeps (latestTimeout s.timeout ms).timeoutMillis := by
  have hkeeps := (run_grounded s ms).keeps
  rwa [run_timeout, Duration.millis_eq] at hkeeps

theorem timeout_everywhere :
    (∀ (s : Setup ε) (ms : List (Move ε α)),
      ((start s).run ms).circuit.Keeps (latestTimeout s.timeout ms).timeoutMillis) ∧
    (∀ s : Settings, s.circuit.Keeps s.resetTimeout.timeoutMillis ∧
      s.record = [("name", .text s.name), ("reset_timeout_ms", .number s.resetTimeout.timeoutMillis)] ∧
      ∀ text ∈ [s.record.compact, s.record.pretty], Settings.ofDocument text =
        if Settings.isBlank s.name then .error (.configuration "breaker name cannot be empty")
        else .ok ⟨s.name, .ofMillis s.resetTimeout.timeoutMillis⟩) ∧
    (∀ seconds nanos, (Duration.ofSeconds seconds nanos).timeoutMillis =
      min (seconds * 1000 + nanos / 1000000) (2 ^ 64 - 1)) ∧
    (∀ d : Duration, (Duration.ofMillis d.timeoutMillis).timeoutMillis = d.timeoutMillis) ∧
    Monotone fun nanos => (Duration.mk nanos).timeoutMillis := by
  refine ⟨run_keeps, fun s => ⟨?_, ?_, fun text htext => Settings.ofDocument_text htext⟩,
    Duration.timeoutMillis_ofSeconds, Duration.timeoutMillis_ofMillis, Duration.timeoutMillis_mono⟩
  · exact run_keeps (ε := Unit) (α := Unit) ⟨s.name, s.resetTimeout, [], none, ⟨⟨0⟩, ⟨0⟩⟩⟩ []
  · rw [Settings.record, Duration.millis_eq]

example : (Duration.ofSeconds (2 ^ 64 - 1) 999999999).timeoutMillis = 2 ^ 64 - 1 ∧
    (Duration.ofSeconds 0 1999999).timeoutMillis = 1 := by decide

end Traffic

end CircuitBreaker
