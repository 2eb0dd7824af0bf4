import CircuitBreaker.Program
import CircuitBreaker.Proofs.Document
import CircuitBreaker.Proofs.WholeNumber

namespace CircuitBreaker

theorem fromUTF8?_eq_some_iff {bytes : ByteArray} {text : String} :
    String.fromUTF8? bytes = some text ↔ bytes = text.toUTF8 := by
  rw [String.fromUTF8?, Option.dite_none_right_eq_some]
  constructor
  · rintro ⟨h, htext⟩
    rw [← Option.some.inj htext]
    rfl
  · rintro rfl
    exact ⟨text.isValidUTF8, rfl⟩

theorem bind_eq_ok_iff {α β : Type} {x : Except Error α} {f : α → Except Error β} {b : β} :
    x.bind f = .ok b ↔ ∃ a, x = .ok a ∧ f a = .ok b := by
  cases x <;> simp [Except.bind]

inductive Environment.Gives (env : Environment) (name : String) : Option String → Prop
  | text {t : String} (h : env.lookup name = some t.toUTF8) : Gives env name (some t)
  | nothing (h : ∀ t : String, env.lookup name ≠ some t.toUTF8) : Gives env name none

theorem Environment.gives_iff {env : Environment} {name : String} {t : Option String} :
    env.Gives name t ↔ env.text name = t := by
  have htext (t : String) : env.text name = some t ↔ env.lookup name = some t.toUTF8 := by
    simp only [Environment.text, Option.bind_eq_some_iff, fromUTF8?_eq_some_iff, exists_eq_right]
  constructor
  · intro h
    cases h with
    | text h => exact (htext _).mpr h
    | nothing h => exact Option.eq_none_iff_forall_ne_some.mpr fun t ht => h t ((htext t).mp ht)
  · rintro rfl
    cases ht : env.text name with
    | some t => exact .text ((htext t).mp ht)
    | none =>
      apply Environment.Gives.nothing
      intro t h
      cases ht.symm.trans ((htext t).mpr h)

/-- Two errors that differ at most in what they say about a document. -/
inductive Error.Alike : Error → Error → Prop
  | refl (e : Error) : Alike e e
  | json {message source message' source' : String} : Alike (.json message source) (.json message' source')

namespace Settings

open Json

inductive FileGives (files : Reader) : Option String → Given → Prop
  | absent : FileGives files none {}
  | present {path text : String} {g : Given} (hread : files path = .ok text.toUTF8) (hg : g.Describes text.toList) :
      FileGives files (some path) g

inductive TimeoutGiven (env : Environment) : Option Nat → Prop
  | absent (h : env.Gives "FUSEBOX_RESET_TIMEOUT_MS" none) : TimeoutGiven env none
  | present {raw : String} {n : Nat} (hraw : env.Gives "FUSEBOX_RESET_TIMEOUT_MS" (some raw))
      (hn : MillisForm raw.toList n) : TimeoutGiven env (some n)

inductive Layered (files : Reader) (env : Environment) (path : Option String) (flag : Option Nat) : Settings → Prop
  | laid {g : Given} {name : Option String} {ms : Option Nat} {s : Settings} (hg : FileGives files path g)
      (hfile : Named (g.name.getD "default")) (hv : TimeoutGiven env ms) (hn : env.Gives "FUSEBOX_BREAKER_NAME" name)
      (hname : s.name = (name.or g.name).getD "default")
      (htimeout : s.resetTimeout.nanos = ((flag.or ms).or g.timeout).getD 15000 * 1000000)
      (hnamed : Named s.name) : Layered files env path flag s

inductive FirstFault (files : Reader) (env : Environment) : Option String → Error → Prop
  | unreadable {path source : String} (h : files path = .error source) :
      FirstFault files env (some path) (.fileSystem path "read" source)
  | notText {path : String} {bytes : ByteArray} (hread : files path = .ok bytes)
      (h : ¬ ∃ text : String, bytes = text.toUTF8) :
      FirstFault files env (some path) (.fileSystem path "read" "stream did not contain valid UTF-8")
  | malformed {path text fault : String} (hread : files path = .ok text.toUTF8)
      (h : ¬ ∃ g : Given, g.Describes text.toList) :
      FirstFault files env (some path) (.json ("invalid breaker configuration: " ++ fault) fault)
  | blankInFile {path : Option String} {g : Given} (hg : FileGives files path g)
      (h : ¬ Named (g.name.getD "default")) :
      FirstFault files env path (.configuration "breaker name cannot be empty")
  | badTimeout {path : Option String} {g : Given} {raw : String} (hg : FileGives files path g)
      (hfile : Named (g.name.getD "default")) (hraw : env.Gives "FUSEBOX_RESET_TIMEOUT_MS" (some raw))
      (h : ¬ ∃ n, MillisForm raw.toList n) : FirstFault files env path
        (.environment "FUSEBOX_RESET_TIMEOUT_MS" ("expected a whole number of milliseconds, got '" ++ raw ++ "'"))
  | blankName {path : Option String} {g : Given} {name : Option String} {ms : Option Nat} (hg : FileGives files path g)
      (hfile : Named (g.name.getD "default")) (hv : TimeoutGiven env ms) (hn : env.Gives "FUSEBOX_BREAKER_NAME" name)
      (h : ¬ Named ((name.or g.name).getD "default")) :
      FirstFault files env path (.configuration "breaker name cannot be empty")

variable {files : Reader} {env : Environment} {path : Option String} {g : Given} {ms flag : Option Nat}

theorem readText_of_text {path text : String} (h : files path = .ok text.toUTF8) : readText files path = .ok text := by
  simp only [readText, h, fromUTF8?_eq_some_iff.mpr rfl]

theorem overlayName_eq (s : Settings) (name : Option String) :
    s.overlayName name = ⟨name.getD s.name, s.resetTimeout⟩ := by
  cases name <;> rfl

theorem overlayTimeout_of_given (s : Settings) (hv : TimeoutGiven env ms) :
    s.overlayTimeout (env.text timeoutVariable) = .ok ⟨s.name, (ms.map Duration.ofMillis).getD s.resetTimeout⟩ := by
  cases hv with
  | absent h =>
    rw [timeoutVariable, Environment.gives_iff.mp h]
    rfl
  | present hraw hn =>
    rw [timeoutVariable, Environment.gives_iff.mp hraw, overlayTimeout, Text.wholeNumber?_trim_eq_some_iff.mpr hn]
    rfl

theorem overlayTimeout_of_bad (s : Settings) {raw : String} (h : ¬ ∃ n, MillisForm raw.toList n) :
    s.overlayTimeout (some raw) = .error (timeoutError raw) := by
  rw [overlayTimeout]
  cases hread : Text.wholeNumber? (Text.trim raw.toList) with
  | none => rfl
  | some n => exact absurd ⟨n, Text.wholeNumber?_trim_eq_some_iff.mp hread⟩ h

theorem load_of_fileGives (hg : FileGives files path g) : load files env path =
    if isBlank (g.name.getD "default") then .error (.configuration "breaker name cannot be empty")
    else g.settings.overlay env := by
  cases hg with
  | absent => rfl
  | @present path text _ hread hg =>
    rw [load, ofFile, readText_of_text hread, Except.bind, ofDocument_of_describes hg, validate, settings_eq]
    split <;> rfl

theorem load_of_named (hg : FileGives files path g) (hfile : Named (g.name.getD "default")) :
    load files env path = g.settings.overlay env := by
  rw [load_of_fileGives hg, isBlank_eq_false_iff.mpr hfile, if_neg Bool.false_ne_true]

theorem overlay_of_given (s : Settings) (hv : TimeoutGiven env ms) : s.overlay env =
    validate ⟨(env.text nameVariable).getD s.name, (ms.map Duration.ofMillis).getD s.resetTimeout⟩ := by
  rw [overlay, overlayName_eq, overlayTimeout_of_given _ hv]
  rfl

theorem overlay_of_bad (s : Settings) {raw : String} (hraw : env.text timeoutVariable = some raw)
    (h : ¬ ∃ n, MillisForm raw.toList n) : s.overlay env = .error (timeoutError raw) := by
  rw [overlay, hraw, overlayTimeout_of_bad _ h]
  rfl

theorem overlay_settings {name : Option String} (g : Given) (hv : TimeoutGiven env ms)
    (hn : env.Gives "FUSEBOX_BREAKER_NAME" name) : g.settings.overlay env =
      validate ⟨(name.or g.name).getD "default", .ofMillis ((ms.or g.timeout).getD 15000)⟩ := by
  rw [overlay_of_given _ hv, nameVariable, Environment.gives_iff.mp hn, settings_eq]
  cases ms <;> simp

theorem eq_ofMillis {d : Duration} {n : Nat} (h : d.nanos = n * 1000000) : d = .ofMillis n := by
  rw [Duration.ofMillis, ← h]

theorem load_of_layered {s : Settings} (h : Layered files env path none s) : load files env path = .ok s := by
  obtain @⟨g, name, ms, _, hg, hfile, hv, hn, hname, htimeout, hnamed⟩ := h
  rw [Option.none_or] at htimeout
  rw [load_of_named hg hfile, overlay_settings g hv hn, ← hname, ← eq_ofMillis htimeout]
  exact validate_of_not_blank (isBlank_eq_false_iff.mpr hnamed)

theorem FirstFault.load {e : Error} (h : FirstFault files env path e) :
    ∃ e', load files env path = .error e' ∧ FirstFault files env path e' ∧ e'.Alike e := by
  cases h with
  | unreadable hread => exact ⟨_, by simp [Settings.load, ofFile, readText, hread, Except.bind], .unreadable hread, .refl _⟩
  | @notText path bytes hread htext =>
    have hbytes : String.fromUTF8? bytes = none := by
      rw [Option.eq_none_iff_forall_ne_some]
      intro text h
      exact htext ⟨text, fromUTF8?_eq_some_iff.mp h⟩
    exact ⟨_, by simp [Settings.load, ofFile, readText, hread, hbytes, Except.bind], .notText hread htext, .refl _⟩
  | malformed hread hg =>
    obtain ⟨fault, hjson⟩ := ofDocument_of_not_describes hg
    refine ⟨_, ?_, @FirstFault.malformed _ _ _ _ fault hread hg, .json⟩
    simp [Settings.load, ofFile, readText_of_text hread, hjson, Except.bind]
  | blankInFile hg hfile =>
    exact ⟨_, by rw [load_of_fileGives hg, if_pos (isBlank_iff.mpr hfile)], .blankInFile hg hfile, .refl _⟩
  | badTimeout hg hfile hraw hn =>
    refine ⟨_, ?_, .badTimeout hg hfile hraw hn, .refl _⟩
    rw [load_of_named hg hfile, overlay_of_bad _ (Environment.gives_iff.mp hraw) hn]
    rfl
  | blankName hg hfile hv hn hnamed =>
    refine ⟨_, ?_, .blankName hg hfile hv hn hnamed, .refl _⟩
    rw [load_of_named hg hfile, overlay_settings _ hv hn, validate_of_blank (isBlank_iff.mpr hnamed)]

theorem fileGives_or_fault (files : Reader) (env : Environment) (path : Option String) :
    (∃ g, FileGives files path g) ∨ ∃ e, FirstFault files env path e := by
  cases path with
  | none => exact .inl ⟨{}, .absent⟩
  | some path =>
    cases hread : files path with
    | error source => exact .inr ⟨_, .unreadable hread⟩
    | ok bytes =>
      by_cases htext : ∃ text : String, bytes = text.toUTF8
      · obtain ⟨text, rfl⟩ := htext
        by_cases hg : ∃ g : Given, g.Describes text.toList
        · obtain ⟨g, hg⟩ := hg
          exact .inl ⟨g, .present hread hg⟩
        · exact .inr ⟨_, @FirstFault.malformed _ _ _ _ "" hread hg⟩
      · exact .inr ⟨_, .notText hread htext⟩

theorem timeoutGiven_or_bad (env : Environment) : (∃ ms, TimeoutGiven env ms) ∨
    ∃ raw, env.Gives "FUSEBOX_RESET_TIMEOUT_MS" (some raw) ∧ ¬ ∃ n, MillisForm raw.toList n := by
  cases hraw : env.text "FUSEBOX_RESET_TIMEOUT_MS" with
  | none => exact .inl ⟨none, .absent (Environment.gives_iff.mpr hraw)⟩
  | some raw =>
    by_cases hn : ∃ n, MillisForm raw.toList n
    · obtain ⟨n, hn⟩ := hn
      exact .inl ⟨some n, .present (Environment.gives_iff.mpr hraw) hn⟩
    · exact .inr ⟨raw, Environment.gives_iff.mpr hraw, hn⟩

theorem layered_or_fault (files : Reader) (env : Environment) (path : Option String) :
    (∃ s, Layered files env path none s) ∨ ∃ e, FirstFault files env path e := by
  obtain ⟨g, hg⟩ | hfault := fileGives_or_fault files env path
  · by_cases hfile : Named (g.name.getD "default")
    · obtain ⟨ms, hv⟩ | ⟨raw, hraw, hbad⟩ := timeoutGiven_or_bad env
      · have hn : env.Gives "FUSEBOX_BREAKER_NAME" _ := Environment.gives_iff.mpr rfl
        by_cases hname : Named (((env.text "FUSEBOX_BREAKER_NAME").or g.name).getD "default")
        · exact .inl ⟨⟨_, ⟨_⟩⟩, .laid hg hfile hv hn rfl rfl hname⟩
        · exact .inr ⟨_, .blankName hg hfile hv hn hname⟩
      · exact .inr ⟨_, .badTimeout hg hfile hraw hbad⟩
    · exact .inr ⟨_, .blankInFile hg hfile⟩
  · exact .inr hfault

theorem load_eq_ok_iff {s : Settings} : load files env path = .ok s ↔ Layered files env path none s := by
  constructor
  · intro h
    -- There is an outcome of one kind or the other, and each is what loading gives.
    obtain ⟨s', hs'⟩ | ⟨e, he⟩ := layered_or_fault files env path
    · obtain rfl : s' = s := Except.ok.inj ((load_of_layered hs').symm.trans h)
      exact hs'
    · obtain ⟨e', he', -⟩ := he.load
      cases h.symm.trans he'
  · exact load_of_layered

theorem firstFault_of_load {e : Error} (h : load files env path = .error e) : FirstFault files env path e := by
  obtain ⟨s, hs⟩ | ⟨e', he'⟩ := layered_or_fault files env path
  · cases h.symm.trans (load_of_layered hs)
  · obtain ⟨e'', hload, hfault, -⟩ := he'.load
    obtain rfl : e'' = e := Except.error.inj (hload.symm.trans h)
    exact hfault

theorem layered_flag {s : Settings} :
    Layered files env path flag s ↔ ∃ s', Layered files env path none s' ∧ Program.overrideTimeout s' flag = s := by
  constructor
  · rintro @⟨g, name, ms, _, hg, hfile, hv, hn, hname, htimeout, hnamed⟩
    refine ⟨⟨s.name, .ofMillis ((ms.or g.timeout).getD 15000)⟩, .laid hg hfile hv hn hname rfl hnamed, ?_⟩
    have htimeout' := eq_ofMillis htimeout
    cases s
    cases flag <;> simp_all [Program.overrideTimeout, withResetTimeout]
  · rintro ⟨s, ⟨hg, hfile, hv, hn, hname, htimeout, hnamed⟩, rfl⟩
    cases flag with
    | none => exact .laid hg hfile hv hn hname htimeout hnamed
    | some ms => exact .laid hg hfile hv hn hname rfl hnamed

end Settings

def Request.flag (r : Request) : Option Nat :=
  match r.command with
  | .simulate options => options.resetTimeout
  | .showSettings => none

def Job.settings : Job → Settings
  | .simulate d => d.settings
  | .printSettings s => s

namespace Settings

variable {files : Reader} {env : Environment} {path : Option String} {s s' : Settings} {e : Error} {r : Request}

theorem plan_of_load_error (h : load files env r.settingsFile = .error e) : Program.plan files env r = .error e := by
  rw [Program.plan, h]
  rfl

theorem settings_of_job {job : Job} (h : Program.job s r.command = .ok job) :
    job.settings = Program.overrideTimeout s r.flag := by
  rw [Request.flag]
  cases hr : r.command with
  | simulate options =>
    rw [hr, Program.job, Program.drill] at h
    cases hscript : Script.parse options.script with
    | error e => simp [hscript, Except.map] at h
    | ok script =>
      rw [hscript] at h
      cases h
      rfl
  | showSettings =>
    rw [hr] at h
    cases h
    rfl

theorem settings_of_plan {job : Job} (h : Program.plan files env r = .ok job) :
    ∃ s, load files env r.settingsFile = .ok s ∧ job.settings = Program.overrideTimeout s r.flag := by
  obtain ⟨s, hload, hjob⟩ := bind_eq_ok_iff.mp h
  exact ⟨s, hload, settings_of_job hjob⟩

inductive Loaded : Settings → Prop
  | document {source : String} {s : Settings} (h : ofDocument source = .ok s) : Loaded s
  | file {files : Reader} {path : String} {s : Settings} (h : ofFile files path = .ok s) : Loaded s
  | environment {env : Environment} {s : Settings} (h : overlay {} env = .ok s) : Loaded s
  | overlaid {env : Environment} {s s' : Settings} (hs : Loaded s) (h : s.overlay env = .ok s') : Loaded s'

theorem loaded_of_load (h : load files env path = .ok s) : Loaded s := by
  cases path with
  | none => exact .environment h
  | some path =>
    obtain ⟨s', hfile, hoverlay⟩ := bind_eq_ok_iff.mp h
    exact .overlaid (.file hfile) hoverlay

theorem ofDocument_of_ofFile {path : String} (h : ofFile files path = .ok s) : ∃ source, ofDocument source = .ok s := by
  obtain ⟨text, -, htext⟩ := bind_eq_ok_iff.mp h
  exact ⟨text, htext⟩

def Sound (s : Settings) : Prop := isBlank s.name = false ∧ ∃ n < UInt64.size, s.resetTimeout = .ofMillis n

theorem sound_of_document {source : String} (h : ofDocument source = .ok s) : s.Sound := by
  obtain ⟨g, hg, hblank, rfl⟩ := ofDocument_eq_ok_iff.mp h
  refine ⟨hblank, _, ?_, rfl⟩
  cases hn : g.timeout with
  | none => decide
  | some n => exact hg.timeout_lt hn

theorem overlay_eq_ok (h : s.overlay env = .ok s') : isBlank s'.name = false ∧
    ∃ ms, TimeoutGiven env ms ∧ s'.resetTimeout = (ms.map Duration.ofMillis).getD s.resetTimeout := by
  obtain ⟨ms, hv⟩ | ⟨raw, hraw, hbad⟩ := timeoutGiven_or_bad env
  · rw [overlay_of_given s hv, validate_eq_ok_iff] at h
    obtain ⟨hblank, rfl⟩ := h
    exact ⟨hblank, ms, hv, rfl⟩
  · rw [overlay_of_bad s (Environment.gives_iff.mp hraw) hbad] at h
    cases h

theorem sound_of_overlay (hs : ∃ n < UInt64.size, s.resetTimeout = .ofMillis n) (h : s.overlay env = .ok s') :
    s'.Sound := by
  obtain ⟨hblank, ms, hv, htimeout⟩ := overlay_eq_ok h
  refine ⟨hblank, ?_⟩
  rw [htimeout]
  cases hv with
  | absent => exact hs
  | present _ hn => exact ⟨_, hn.lt, rfl⟩

theorem Loaded.sound (h : Loaded s) : s.Sound := by
  induction h with
  | document h => exact sound_of_document h
  | file h =>
    obtain ⟨source, hsource⟩ := ofDocument_of_ofFile h
    exact sound_of_document hsource
  | environment h => exact sound_of_overlay ⟨15000, by decide, rfl⟩ h
  | overlaid _ h ih => exact sound_of_overlay ih.2 h

theorem layered_settings (files : Reader) (env : Environment) (r : Request) :
    (∀ s, (load files env r.settingsFile).map (Program.overrideTimeout · r.flag) = .ok s ↔
      Layered files env r.settingsFile r.flag s) ∧
    (∀ e, (load files env r.settingsFile).map (Program.overrideTimeout · r.flag) = .error e →
      FirstFault files env r.settingsFile e) ∧
    (∀ job, Program.plan files env r = .ok job → Layered files env r.settingsFile r.flag job.settings) ∧
    (∀ e, FirstFault files env r.settingsFile e → ∃ e', e'.Alike e ∧ Program.plan files env r = .error e' ∧
      (load files env r.settingsFile).map (Program.overrideTimeout · r.flag) = .error e') ∧
    (∀ s s' : Settings, s.overlay env = .ok s' → Named s'.name) ∧
    ∀ s, Loaded s → Named s.name ∧ ∃ ms < 2 ^ 64, s.resetTimeout.nanos = ms * 1000000 := by
  refine ⟨?_, ?_, ?_, ?_, fun _ _ h => isBlank_eq_false_iff.mp (overlay_eq_ok h).1, ?_⟩
  · intro s
    rw [layered_flag]
    simp only [← load_eq_ok_iff]
    cases load files env r.settingsFile <;> simp [Except.map]
  · intro e h
    apply firstFault_of_load
    cases hload : load files env r.settingsFile <;> simp_all [Except.map]
  · intro job h
    obtain ⟨s, hs, hjob⟩ := settings_of_plan h
    exact layered_flag.mpr ⟨s, load_eq_ok_iff.mp hs, hjob.symm⟩
  · intro e h
    obtain ⟨e', hload, -, halike⟩ := h.load
    exact ⟨e', halike, plan_of_load_error hload, by rw [hload]; rfl⟩
  · intro s h
    obtain ⟨hblank, ms, hms, htimeout⟩ := h.sound
    exact ⟨isBlank_eq_false_iff.mp hblank, ms, hms, congrArg Duration.nanos htimeout⟩

theorem layered_settings_search :
    let files : Reader := fun path => if path = "blank.json" then .ok "[\" \"]".toUTF8 else .ok "[\"db\", 20]".toUTF8
    let env : Environment :=
      [("FUSEBOX_BREAKER_NAME", "search".toUTF8), ("FUSEBOX_RESET_TIMEOUT_MS", " +0500\n".toUTF8)]
    let drill : Request := ⟨some "breaker.json", 0, .simulate ⟨"sf", some 70, 100, false⟩⟩
    let print : Request := ⟨some "blank.json", 0, .showSettings⟩
    let s : Settings := ⟨"search", .ofMillis 500⟩
    (∃ job, Program.plan files env drill = .ok job ∧ job.settings = ⟨"search", .ofMillis 70⟩ ∧
      Layered files env drill.settingsFile drill.flag job.settings) ∧
    (FirstFault files env print.settingsFile (.configuration "breaker name cannot be empty") ∧
      Program.plan files env print = .error (.configuration "breaker name cannot be empty")) ∧
    (overlay {} env = .ok s ∧ Named s.name) ∧
    Loaded s ∧ ∃ ms < 2 ^ 64, s.resetTimeout.nanos = ms * 1000000 := by
  intro files env drill print s
  have hscript : Script.parse "sf" = .ok [.succeed, .fail] := by decide +kernel
  have hload : load files env drill.settingsFile = .ok s := by decide +kernel
  have hplan : Program.plan files env drill =
      .ok (.simulate ⟨⟨"search", .ofMillis 70⟩, [.succeed, .fail], .ofMillis 100, false⟩) := by
    rw [Program.plan, hload, Except.bind, Program.job, Program.drill, hscript]
    rfl
  have hblank : load files env print.settingsFile = .error (.configuration "breaker name cannot be empty") := by
    decide +kernel
  have hoverlay : overlay {} env = .ok s := by decide +kernel
  have hfault := (layered_settings files env print).2.1 _ (by rw [hblank]; rfl)
  obtain ⟨e, halike, hprint, -⟩ := (layered_settings files env print).2.2.2.1 _ hfault
  cases halike
  refine ⟨⟨_, hplan, rfl, (layered_settings files env drill).2.2.1 _ hplan⟩, ⟨hfault, hprint⟩,
    ⟨hoverlay, (layered_settings files env print).2.2.2.2.1 _ _ hoverlay⟩, .environment hoverlay, ?_⟩
  exact ((layered_settings files env print).2.2.2.2.2 s (.environment hoverlay)).2

end Settings

end CircuitBreaker
