import CircuitBreaker.Proofs.Record
import CircuitBreaker.Proofs.Simulation

namespace CircuitBreaker

namespace Breaker.Simulated

variable {b : Breaker SimulatedError}

theorem acquire (h : b.Simulated) (now : Instant) : (b.acquire now).2.Simulated := by
  rw [acquire_eq]
  exact ⟨h.classifiers, h.installed⟩

theorem settle (h : b.Simulated) (now : Clock) (permit : Permit) (result : Completion SimulatedError Unit) :
    (b.settle now permit result).2.Simulated := by
  have hassess : (b.assess now.mono result).2.classifiers = b.classifiers := by
    cases result with
    | value | crash => rfl
    | failure e => rw [h.assess]
  exact ⟨(b.settle_classifiers now permit result).trans (hassess.trans h.classifiers),
    (b.settle_installed now permit result).trans h.installed⟩

end Breaker.Simulated

namespace Simulation

variable {s : Simulation} {interval : Duration} {action : Action} {script : Script} {reports : List StepReport}

theorem simulated_ofSettings (settings : Settings) (clock : Clock) :
    (ofSettings settings clock).breaker.Simulated := ⟨rfl, rfl⟩

theorem note_simulated {outcome : Outcome SimulatedError Unit} (h : s.breaker.Simulated) :
    (s.note outcome).breaker.Simulated := by
  cases outcome <;> exact ⟨h.classifiers, h.installed⟩

theorem call_simulated (h : s.breaker.Simulated) (result : Completion SimulatedError Unit) :
    (s.call result).2.breaker.Simulated := by
  have hacquire := h.acquire s.clock.mono
  unfold call
  generalize s.breaker.acquire s.clock.mono = acquired at hacquire
  match acquired with
  | (none, b) => exact hacquire
  | (some permit, b) => exact note_simulated (hacquire.settle s.clock permit result)

theorem act_simulated (h : s.breaker.Simulated) (action : Action) : (s.act interval action).2.breaker.Simulated := by
  cases action with
  | succeed => exact call_simulated h (.value ())
  | fail => exact call_simulated h (.failure .outage)
  | invalidRequest => exact call_simulated h (.failure .invalidRequest)
  | wait | trip | hardTrip | reset => exact ⟨h.classifiers, h.installed⟩

def Opens (s : Simulation) (action : Action) : Prop :=
  action = .trip ∨ action = .hardTrip ∨ action = .fail ∧ (s.breaker.acquire s.clock.mono).1 ≠ none

def after (interval : Duration) (s : Simulation) (script : Script) : Simulation :=
  script.foldl (fun s action => (s.act interval action).2) s

def OpensAtDates (interval : Duration) (s : Simulation) (script : Script) : Prop :=
  ∀ earlier action, earlier ++ [action] <+: script →
    (s.after interval earlier).Opens action → (s.after interval earlier).clock.dated = true

theorem opensAtDates_cons : s.OpensAtDates interval (action :: script) ↔
    (s.Opens action → s.clock.dated = true) ∧ (s.act interval action).2.OpensAtDates interval script := by
  constructor
  · intro h
    refine ⟨h [] action (by simp), fun earlier action' hprefix => ?_⟩
    exact h (action :: earlier) action' (List.cons_prefix_cons.mpr ⟨rfl, hprefix⟩)
  · rintro ⟨hfirst, hrest⟩ earlier action' hprefix
    cases earlier with
    | nil =>
      obtain ⟨rfl, -⟩ := List.cons_prefix_cons.mp hprefix
      exact hfirst
    | cons first earlier =>
      obtain ⟨rfl, hlater⟩ := List.cons_prefix_cons.mp hprefix
      exact hrest earlier action' hlater

theorem exists_map_eq_ok_iff {α β : Type} {x : Except String α} {f : α → β} :
    (∃ b, x.map f = .ok b) ↔ ∃ a, x = .ok a := by
  cases x <;> simp [Except.map]

theorem call_ok_iff (result : Completion SimulatedError Unit) {a : Assessment SimulatedError Unit}
    (hassess : ((s.breaker.acquire s.clock.mono).2.assess s.clock.mono result).1 = a) :
    (∃ answer, (s.call result).1 = .ok answer) ↔
      ((s.breaker.acquire s.clock.mono).1 ≠ none → ∃ answer, callResult (a.outcome s.clock) = .ok answer) := by
  unfold call
  generalize s.breaker.acquire s.clock.mono = acquired at hassess
  match acquired with
  | (none, b) => simp
  | (some permit, b) =>
    have houtcome : (b.settle s.clock permit result).1 = a.outcome s.clock := by
      rw [b.settle_outcome, hassess]
    simp [houtcome]

theorem opening_ok_iff : (∃ result, s.opening = .ok result) ↔ s.clock.dated = true := by
  rw [s.clock.dated_iff]
  unfold opening
  cases s.clock.wall.fault? <;> simp

theorem outage_ok_iff (now : Clock) :
    (∃ answer, callResult (Assessment.outcome now (.tripping .outage)) = .ok answer) ↔ now.dated = true := by
  rw [now.dated_iff]
  simp only [Assessment.outcome, Outcome.afterOpening]
  cases now.wall.fault? <;> simp [callResult]

theorem act_ok_iff (h : s.breaker.Simulated) (action : Action) :
    (∃ result, (s.act interval action).1 = .ok result) ↔ (s.Opens action → s.clock.dated = true) := by
  cases action with
  | succeed =>
    have hserved : ((s.breaker.acquire s.clock.mono).2.assess s.clock.mono (.value ())).1 = .success () := rfl
    refine exists_map_eq_ok_iff.trans ((call_ok_iff _ hserved).trans ?_)
    simp [Opens, Assessment.outcome, callResult]
  | fail =>
    have hblamed : ((s.breaker.acquire s.clock.mono).2.assess s.clock.mono (.failure .outage)).1 =
        (.tripping .outage : Assessment SimulatedError Unit) := by
      rw [(h.acquire s.clock.mono).assess]
      rfl
    refine exists_map_eq_ok_iff.trans ((call_ok_iff _ hblamed).trans ?_)
    rw [outage_ok_iff]
    simp [Opens]
  | invalidRequest =>
    have hspared : ((s.breaker.acquire s.clock.mono).2.assess s.clock.mono (.failure .invalidRequest)).1 =
        (.nonTripping .invalidRequest : Assessment SimulatedError Unit) := by
      rw [(h.acquire s.clock.mono).assess]
      rfl
    refine exists_map_eq_ok_iff.trans ((call_ok_iff _ hspared).trans ?_)
    simp [Opens, Assessment.outcome, callResult]
  | wait | reset => simp [act, Opens]
  | trip | hardTrip => simp [act, Opens, opening_ok_iff]

theorem runFrom_ok_iff (h : s.breaker.Simulated) (number : Nat) (script : Script) :
    (∃ reports, (s.runFrom interval number script).1 = .ok reports) ↔ s.OpensAtDates interval script := by
  -- By induction on the script, the simulation it starts from and the number of its first report being any.
  induction script generalizing s number with
  | nil => simp [runFrom, OpensAtDates]
  | cons action script ih =>
    have hfirst : (∃ result, (s.act interval action).1 = .ok result) ↔ _ := act_ok_iff h action
    rw [opensAtDates_cons, ← hfirst, ← ih (act_simulated h action) (number + 1)]
    rw [runFrom, step]
    generalize s.act interval action = acted
    obtain ⟨result, s'⟩ := acted
    cases result with
    | error text => simp [Except.map]
    | ok result =>
      simp only [Except.ok.injEq, exists_eq', true_and]
      exact exists_map_eq_ok_iff

theorem runFrom_reports {number : Nat} (h : (s.runFrom interval number script).1 = .ok reports) :
    reports.map (·.step) = List.range' number script.length ∧ reports.map (·.action) = script := by
  induction script generalizing s number reports with
  | nil =>
    cases h
    exact ⟨rfl, rfl⟩
  | cons action script ih =>
    unfold runFrom step at h
    generalize s.act interval action = acted at h
    obtain ⟨result, s'⟩ := acted
    cases result with
    | error text => cases h
    | ok result =>
      cases hrest : (s'.runFrom interval (number + 1) script).1 with
      | error text => simp [Except.map, hrest] at h
      | ok later =>
        simp only [Except.map, hrest, Except.ok.injEq] at h
        subst h
        obtain ⟨hsteps, hactions⟩ := ih hrest
        exact ⟨congrArg (number :: ·) hsteps, congrArg (action :: ·) hactions⟩

end Simulation

/-! What a line tells. -/

theorem Action.tag_injective : Function.Injective Action.tag := by
  intro a a' h
  cases a <;> cases a' <;> first | rfl | simp [Action.tag] at h

theorem CallResult.tag_injective : Function.Injective CallResult.tag := by
  intro a a' h
  cases a <;> cases a' <;> first | rfl | simp [CallResult.tag] at h

theorem State.tag_injective : Function.Injective State.tag := by
  intro a a' h
  cases a <;> cases a' <;> first | rfl | simp [State.tag] at h

theorem Health.tag_injective : Function.Injective Health.tag := by
  intro a a' h
  cases a <;> cases a' <;> first | rfl | simp [Health.tag] at h

theorem Json.Scalar.ofOption_injective : Function.Injective Json.Scalar.ofOption := by
  intro a a' h
  cases a <;> cases a' <;> simp_all [Json.Scalar.ofOption]

/-- Equal, but that of the last failures only the texts of their times are. -/
structure Stats.Agrees (s s' : Stats) : Prop where
  name : s.name = s'.name
  state : s.state = s'.state
  health : s.health = s'.health
  openCount : s.openCount = s'.openCount
  timeout : s.timeout = s'.timeout
  hardTripped : s.hardTripped = s'.hardTripped
  probeInFlight : s.probeInFlight = s'.probeInFlight
  failed : s.lastFailureTime.isSome = s'.lastFailureTime.isSome
  time : s.lastFailureTime.map Timestamp.text = s'.lastFailureTime.map Timestamp.text

theorem Stats.record_eq_iff {s s' : Stats} : s.record = s'.record ↔ s.Agrees s' := by
  constructor
  · intro h
    simp only [record, List.cons.injEq, Prod.mk.injEq, Json.Scalar.text.injEq, Json.Scalar.number.injEq,
      Json.Scalar.flag.injEq, true_and, and_true] at h
    obtain ⟨hname, hstate, hhealth, hcount, htime, htimeout, hhard, hprobe⟩ := h
    have htexts := Json.Scalar.ofOption_injective htime
    have hpresent := congrArg Option.isSome htexts
    simp only [Option.isSome_map] at hpresent
    exact ⟨hname, State.tag_injective hstate, Health.tag_injective hhealth, UInt64.toNat.inj hcount,
      UInt64.toNat.inj htimeout, hhard, hprobe, hpresent, htexts⟩
  · intro h
    rw [record, record, h.name, h.state, h.health, h.openCount, h.time, h.timeout, h.hardTripped, h.probeInFlight]

theorem StepReport.record_eq_iff {r r' : StepReport} : r.record = r'.record ↔
    r.step = r'.step ∧ r.action = r'.action ∧ r.result = r'.result ∧ r.stats.Agrees r'.stats := by
  have hresult (a a' : Option CallResult) : a.map CallResult.tag = a'.map CallResult.tag ↔ a = a' :=
    (Option.map_injective CallResult.tag_injective).eq_iff
  simp only [record, List.cons_append, List.nil_append, List.cons.injEq, Prod.mk.injEq, Json.Scalar.number.injEq,
    Json.Scalar.text.injEq, true_and, Action.tag_injective.eq_iff, Json.Scalar.ofOption_injective.eq_iff, hresult,
    Stats.record_eq_iff]

structure Transcribes (outcome : Except String (List StepReport)) (script : Script) (lines : List String) : Prop where
  count : lines.length = script.length
  clean : ∀ line ∈ lines, Json.Clean line.toList
  reports : ∃ reports, outcome = .ok reports ∧ lines = reports.map (·.record.compact) ∧
    reports.map (·.step) = List.range' 1 script.length ∧ reports.map (·.action) = script

namespace Program

variable {files : Settings.Reader} {env : Environment} {clock : Clock} {r : Request} {d : Drill}

theorem drill_json {s : Settings} {options : SimulationOptions} (h : drill s options = .ok d) :
    d.json = options.json := by
  rw [drill] at h
  cases hscript : Script.parse options.script with
  | error e => simp [hscript, Except.map] at h
  | ok script =>
    rw [hscript] at h
    cases h
    rfl

theorem execute_ending {job : Job} (h : plan files env r = .ok job) :
    (execute files env clock r).ending = (perform clock job).ending := by
  rw [execute, h]

theorem perform_printed_iff (hj : d.json = true) {lines : List String} :
    (perform clock (.simulate d)).ending = .printed lines ↔
      ∃ reports, ((Simulation.ofSettings d.settings clock).run d.interval d.script).1 = .ok reports ∧
        lines = reports.map (·.record.compact) := by
  rw [perform]
  generalize (Simulation.ofSettings d.settings clock).run d.interval d.script = outcome
  obtain ⟨result, last⟩ := outcome
  cases result with
  | error text => simp [endingOf]
  | ok reports => simp [endingOf, reportLines, hj, eq_comm]

theorem plan_json {options : SimulationOptions} (hr : r.command = .simulate options)
    (h : plan files env r = .ok (.simulate d)) : d.json = options.json := by
  obtain ⟨s, -, hjob⟩ := bind_eq_ok_iff.mp h
  rw [hr, job] at hjob
  cases hdrill : drill s options with
  | error e => simp [hdrill, Except.map] at hjob
  | ok d' =>
    rw [hdrill] at hjob
    cases hjob
    exact drill_json hdrill

theorem plan_not_blank (h : plan files env r = .ok (.simulate d)) : Settings.isBlank d.settings.name = false := by
  obtain ⟨s, hload, hsettings⟩ := Settings.settings_of_plan h
  have hname : d.settings.name = s.name := by
    rw [show d.settings = _ from hsettings]
    cases r.flag <;> rfl
  rw [hname]
  exact (Settings.loaded_of_load hload).sound.1

theorem plan_named (files : Settings.Reader) {name : String} {options : SimulationOptions} {script : Script}
    (h : Settings.isBlank name = false) (hs : Script.parse options.script = .ok script) :
    ∃ d, plan files [(Settings.nameVariable, name.toUTF8)] ⟨none, 0, .simulate options⟩ = .ok (.simulate d) ∧
      d.settings.name = name ∧ d.script = script := by
  have hname : Environment.text [(Settings.nameVariable, name.toUTF8)] Settings.nameVariable = some name := by
    simp [Environment.text, fromUTF8?_eq_some_iff]
  have htimeout : Environment.text [(Settings.nameVariable, name.toUTF8)] Settings.timeoutVariable = none := by
    simp [Environment.text, List.lookup_cons, Settings.nameVariable, Settings.timeoutVariable]
  have hload : Settings.load files [(Settings.nameVariable, name.toUTF8)] none = .ok ⟨name, .ofMillis 15000⟩ := by
    rw [Settings.load, Settings.overlay_of_given _ (.absent (Environment.gives_iff.mpr htimeout)), hname]
    exact Settings.validate_of_not_blank h
  have hplan : plan files [(Settings.nameVariable, name.toUTF8)] ⟨none, 0, .simulate options⟩ =
      (drill ⟨name, .ofMillis 15000⟩ options).map .simulate := by
    rw [plan, hload]
    rfl
  rw [hplan, drill, hs]
  refine ⟨_, rfl, ?_, rfl⟩
  cases options.resetTimeout <;> rfl

theorem transcribes (hj : d.json = true) {lines : List String}
    (h : (perform clock (.simulate d)).ending = .printed lines) :
    Transcribes ((Simulation.ofSettings d.settings clock).run d.interval d.script).1 d.script lines := by
  obtain ⟨reports, hrun, rfl⟩ := (perform_printed_iff hj).mp h
  obtain ⟨hsteps, hactions⟩ := Simulation.runFrom_reports hrun
  refine ⟨?_, ?_, reports, hrun, rfl, hsteps, hactions⟩
  · rw [← hactions, List.length_map, List.length_map]
  · intro line hline
    obtain ⟨report, -, rfl⟩ := List.mem_map.mp hline
    exact Json.Record.clean_compact _

theorem exists_printed_iff (hj : d.json = true) :
    (∃ lines, (perform clock (.simulate d)).ending = .printed lines) ↔
      (Simulation.ofSettings d.settings clock).OpensAtDates d.interval d.script := by
  rw [← Simulation.runFrom_ok_iff (Simulation.simulated_ofSettings d.settings clock) 1]
  constructor
  · rintro ⟨lines, hlines⟩
    obtain ⟨reports, hrun, -⟩ := (perform_printed_iff hj).mp hlines
    exact ⟨reports, hrun⟩
  · rintro ⟨reports, hrun⟩
    exact ⟨_, (perform_printed_iff hj).mpr ⟨reports, hrun, rfl⟩⟩

theorem lines_lossless :
    (∀ files env clock (r : Request) options d, r.command = .simulate options → options.json = true →
      plan files env r = .ok (.simulate d) →
        ((∃ lines, (execute files env clock r).ending = .printed lines) ↔
          (Simulation.ofSettings d.settings clock).OpensAtDates d.interval d.script) ∧
        ∀ lines, (execute files env clock r).ending = .printed lines →
          Transcribes ((Simulation.ofSettings d.settings clock).run d.interval d.script).1 d.script lines) ∧
    (∀ name options script, Script.parse options.script = .ok script →
      ((∃ files env r d, r.command = .simulate options ∧ plan files env r = .ok (.simulate d) ∧
        d.settings.name = name ∧ d.script = script) ↔ Settings.isBlank name = false)) ∧
    (∀ r r' : StepReport, r.record.compact = r'.record.compact ↔
      r.step = r'.step ∧ r.action = r'.action ∧ r.result = r'.result ∧ r.stats.Agrees r'.stats) ∧
    ∀ s s' : Stats, Json.Clean s.record.compact.toList ∧ (s.record.compact = s'.record.compact ↔ s.Agrees s') := by
  refine ⟨?_, ?_, ?_, ?_⟩
  · intro files env clock r options d hr hj hplan
    have hdrill : d.json = true := (plan_json hr hplan).trans hj
    rw [execute_ending hplan]
    exact ⟨exists_printed_iff hdrill, fun lines hlines => transcribes hdrill hlines⟩
  · intro name options script hs
    constructor
    · rintro ⟨files, env, r, d, -, hplan, rfl, -⟩
      exact plan_not_blank hplan
    · intro h
      obtain ⟨d, hplan, hname, hscript⟩ := plan_named (fun _ => .error "") h hs
      exact ⟨_, _, ⟨none, 0, .simulate options⟩, d, rfl, hplan, hname, hscript⟩
  · intro r r'
    rw [Json.Record.compact_injective.eq_iff, StepReport.record_eq_iff]
  · intro s s'
    refine ⟨Json.Record.clean_compact _, ?_⟩
    rw [Json.Record.compact_injective.eq_iff, Stats.record_eq_iff]

theorem lines_lossless_imitation :
    let forged := "a\",\"state\":\"open"
    let env : Environment := [(Settings.nameVariable, (forged ++ "\n").toUTF8)]
    let options : SimulationOptions := ⟨"fi", none, 100, true⟩
    let r : Request := ⟨none, 0, .simulate options⟩
    let d : Drill := ⟨⟨forged ++ "\n", .ofMillis 15000⟩, [.fail, .invalidRequest], .ofMillis 100, true⟩
    let clock : Clock := ⟨⟨0⟩, ⟨0⟩⟩
    (plan (fun _ => .error "") env r = .ok (.simulate d) ∧
      ∃ lines, (execute (fun _ => .error "") env clock r).ending = .printed lines ∧
        Transcribes ((Simulation.ofSettings d.settings clock).run d.interval d.script).1 d.script lines) ∧
    (Script.parse options.script = .ok d.script ∧ Settings.isBlank forged = false ∧
      ∃ files env r d, r.command = .simulate options ∧ plan files env r = .ok (.simulate d) ∧
        d.settings.name = forged ∧ d.script = [.fail, .invalidRequest]) ∧
    ∀ s : Stats, { s with name := forged }.record.compact ≠ { s with name := "a" }.record.compact := by
  intro forged env options r d clock
  obtain ⟨hlines, hnames, -, hstats⟩ := lines_lossless
  have hscript : Script.parse options.script = .ok d.script := by decide +kernel
  have hblank : Settings.isBlank forged = false := by decide +kernel
  have hload : Settings.load (fun _ => .error "") env r.settingsFile = .ok d.settings := by decide +kernel
  have hplan : plan (fun _ => .error "") env r = .ok (.simulate d) := by
    rw [plan, hload]
    change job d.settings (.simulate options) = _
    rw [job, drill, hscript]
    rfl
  have hdates : (Simulation.ofSettings d.settings clock).OpensAtDates d.interval d.script := by
    rw [Simulation.opensAtDates_cons, Simulation.opensAtDates_cons]
    refine ⟨fun _ => by decide, fun _ => by decide, ?_⟩
    simp [Simulation.OpensAtDates]
  obtain ⟨hprinted, htranscribed⟩ := hlines _ env clock r options d rfl rfl hplan
  obtain ⟨lines, hending⟩ := hprinted.mpr hdates
  refine ⟨⟨hplan, lines, hending, htranscribed lines hending⟩, ⟨hscript, hblank, ?_⟩, ?_⟩
  · exact (hnames forged options _ hscript).mpr hblank
  · intro s h
    have hname : forged = "a" := ((hstats _ _).2.mp h).name
    revert hname
    decide

theorem unprinted_simulations :
    let files : Settings.Reader := fun _ => .error ""
    let clock : Clock := ⟨⟨0⟩, ⟨1704067200 * 1000000000⟩⟩
    let blank := process files [(Settings.nameVariable, " ".toUTF8)] clock ["simulate", "s", "--json"]
    let late := process files [] clock ["simulate", "wt", "--json", "--step-ms", "9000000000000000"]
    (Script.parse "s" = .ok [.succeed] ∧ blank.status = 1 ∧ blank.output = []) ∧
    (Script.parse "wt" = .ok [.wait, .trip] ∧ late.status = crashStatus ∧ late.output = []) := by
  decide +kernel

end Program

end CircuitBreaker
