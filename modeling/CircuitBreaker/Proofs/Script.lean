import CircuitBreaker.Proofs.Layers
import CircuitBreaker.Script

namespace CircuitBreaker

namespace Action

def letters : List Char := ['s', 'f', 'i', 'w', 't', 'h', 'r']

theorem ofLetter?_eq_some_iff {c : Char} {a : Action} : ofLetter? c = some a ↔ a.letter = c := by
  constructor
  · intro h
    unfold ofLetter? at h
    split at h <;> cases h <;> rfl
  · rintro rfl
    cases a <;> rfl

theorem exists_letter_iff {c : Char} : (∃ a : Action, a.letter = c) ↔ c ∈ letters := by
  constructor
  · rintro ⟨a, rfl⟩
    cases a <;> decide
  · intro h
    simp only [letters, List.mem_cons, List.not_mem_nil, or_false] at h
    rcases h with rfl | rfl | rfl | rfl | rfl | rfl | rfl
    exacts [⟨succeed, rfl⟩, ⟨fail, rfl⟩, ⟨invalidRequest, rfl⟩, ⟨wait, rfl⟩, ⟨trip, rfl⟩, ⟨hardTrip, rfl⟩, ⟨reset, rfl⟩]

end Action

namespace Script

open CircuitBreaker.Action

def Readable (c : Char) : Prop := c = ',' ∨ Text.isBlank c = true ∨ c ∈ letters

theorem isSeparator_iff {c : Char} : isSeparator c = true ↔ c = ',' ∨ Text.isBlank c = true := by
  simp [isSeparator]

theorem isSeparator_letter (a : Action) : isSeparator a.letter = false := by
  cases a <;> decide

theorem not_letter_of_isSeparator {c : Char} (h : isSeparator c = true) : c ∉ letters := by
  rw [← exists_letter_iff]
  rintro ⟨a, rfl⟩
  rw [isSeparator_letter] at h
  cases h

theorem filter_separators {text : List Char} (h : ∀ c ∈ text, isSeparator c = true) :
    text.filter (· ∈ letters) = [] := by
  rw [List.filter_eq_nil_iff]
  intro c hc
  simpa using not_letter_of_isSeparator (h c hc)

theorem readable_iff {c : Char} : Readable c ↔ isSeparator c = true ∨ ∃ a : Action, a.letter = c := by
  rw [Readable, exists_letter_iff, isSeparator_iff, or_assoc]

theorem actions_separator {c : Char} (h : isSeparator c = true) (cs : List Char) : actions (c :: cs) = actions cs :=
  if_pos h

theorem actions_letter (a : Action) (cs : List Char) :
    actions (a.letter :: cs) = (actions cs).map (a :: ·) := by
  rw [actions, isSeparator_letter, if_neg Bool.false_ne_true, ofLetter?_eq_some_iff.mpr rfl]

theorem actions_unreadable {c : Char} (h : ¬ Readable c) (cs : List Char) :
    actions (c :: cs) = .error (unknownAction c) := by
  rw [readable_iff, not_or] at h
  have hnone : ofLetter? c = none := by
    rw [Option.eq_none_iff_forall_ne_some]
    intro a ha
    exact h.2 ⟨a, ofLetter?_eq_some_iff.mp ha⟩
  rw [actions, if_neg h.1, hnone]

theorem exists_actions {cs : List Char} (h : ∀ c ∈ cs, Readable c) :
    ∃ script, actions cs = .ok script ∧ script.map letter = cs.filter (· ∈ letters) := by
  induction cs with
  | nil => exact ⟨[], rfl, rfl⟩
  | cons c cs ih =>
    obtain ⟨hc, hcs⟩ := List.forall_mem_cons.mp h
    obtain ⟨script, hscript, hletters⟩ := ih hcs
    rcases readable_iff.mp hc with hsep | ⟨a, rfl⟩
    · refine ⟨script, (actions_separator hsep cs).trans hscript, ?_⟩
      rw [List.filter_cons_of_neg (by simpa using not_letter_of_isSeparator hsep), hletters]
    · have hmem : a.letter ∈ letters := exists_letter_iff.mp ⟨a, rfl⟩
      refine ⟨a :: script, by rw [actions_letter, hscript]; rfl, ?_⟩
      rw [List.filter_cons_of_pos (by simpa using hmem), List.map_cons, hletters]

theorem actions_offence {before : List Char} (hbefore : ∀ c ∈ before, Readable c) {c : Char} (hc : ¬ Readable c)
    (after : List Char) : actions (before ++ c :: after) = .error (unknownAction c) := by
  induction before with
  | nil => exact actions_unreadable hc after
  | cons b before ih =>
    obtain ⟨hb, hrest⟩ := List.forall_mem_cons.mp hbefore
    rcases readable_iff.mp hb with hsep | ⟨a, rfl⟩
    · rw [List.cons_append, actions_separator hsep, ih hrest]
    · rw [List.cons_append, actions_letter, ih hrest]
      rfl

theorem readable_or_offence (cs : List Char) : (∀ c ∈ cs, Readable c) ∨
    ∃ before c after, cs = before ++ c :: after ∧ (∀ b ∈ before, Readable b) ∧ ¬ Readable c := by
  induction cs with
  | nil => exact .inl (by simp)
  | cons c cs ih =>
    by_cases hc : Readable c
    · rcases ih with hcs | ⟨before, d, after, rfl, hbefore, hd⟩
      · exact .inl (List.forall_mem_cons.mpr ⟨hc, hcs⟩)
      · exact .inr ⟨c :: before, d, after, rfl, List.forall_mem_cons.mpr ⟨hc, hbefore⟩, hd⟩
    · exact .inr ⟨[], c, cs, rfl, by simp, hc⟩

structure Spells (text : List Char) (script : Script) : Prop where
  readable : ∀ c ∈ text, Readable c
  nonempty : script ≠ []
  letters : script.map letter = text.filter (· ∈ letters)

inductive Offence : List Char → Error → Prop
  | unknown {before after : List Char} {c : Char} (hbefore : ∀ b ∈ before, Readable b) (hc : ¬ Readable c) :
      Offence (before ++ c :: after) (.configuration
        ("unknown script step '" ++ String.singleton c ++ "' (expected one of s f i w t h r)"))
  | empty {text : List Char} (h : ∀ c ∈ text, c = ',' ∨ Text.isBlank c = true) :
      Offence text (.configuration "simulation script is empty")

theorem letter_injective : Function.Injective letter := by
  intro a b h
  exact Option.some.inj ((ofLetter?_eq_some_iff.mpr h).symm.trans (ofLetter?_eq_some_iff.mpr rfl))

theorem parse_of_actions {text : String} {script : Script} (h : actions text.toList = .ok script)
    (hscript : script ≠ []) : parse text = .ok script := by
  rw [parse, h]
  cases script with
  | nil => exact absurd rfl hscript
  | cons a script => rfl

theorem parse_of_spells {text : String} {script : Script} (h : Spells text.toList script) :
    parse text = .ok script := by
  obtain ⟨read, hread, hletters⟩ := exists_actions h.readable
  obtain rfl : script = read := letter_injective.list_map (h.letters.trans hletters.symm)
  exact parse_of_actions hread h.nonempty

theorem parse_of_offence {text : String} {e : Error} (h : Offence text.toList e) : parse text = .error e := by
  generalize htext : text.toList = cs at h
  cases h with
  | unknown hbefore hc =>
    rw [parse, htext, actions_offence hbefore hc]
    rfl
  | empty h =>
    have hsep : ∀ c ∈ cs, isSeparator c = true := fun c hc => isSeparator_iff.mpr (h c hc)
    obtain ⟨script, hscript, hletters⟩ := exists_actions fun c hc => readable_iff.mpr (.inl (hsep c hc))
    rw [filter_separators hsep, List.map_eq_nil_iff] at hletters
    rw [parse, htext, hscript, hletters]
    rfl

theorem spells_or_offence (text : List Char) : (∃ script, Spells text script) ∨ ∃ e, Offence text e := by
  rcases readable_or_offence text with h | ⟨before, c, after, rfl, hbefore, hc⟩
  · obtain ⟨script, -, hletters⟩ := exists_actions h
    by_cases hscript : script = []
    · rw [hscript, List.map_nil, eq_comm, List.filter_eq_nil_iff] at hletters
      refine .inr ⟨_, .empty fun c hc => ?_⟩
      exact (or_assoc.mpr (h c hc)).resolve_right (by simpa using hletters c hc)
    · exact .inl ⟨script, h, hscript, hletters⟩
  · exact .inr ⟨_, .unknown hbefore hc⟩

theorem parse_eq_ok_iff {text : String} {script : Script} : parse text = .ok script ↔ Spells text.toList script := by
  constructor
  · intro h
    -- Every text is a script or offends, and each decides what is read.
    obtain ⟨script', hscript⟩ | ⟨e, he⟩ := spells_or_offence text.toList
    · obtain rfl : script' = script := Except.ok.inj ((parse_of_spells hscript).symm.trans h)
      exact hscript
    · cases h.symm.trans (parse_of_offence he)
  · exact parse_of_spells

theorem parse_eq_error_iff {text : String} {e : Error} : parse text = .error e ↔ Offence text.toList e := by
  constructor
  · intro h
    obtain ⟨script, hscript⟩ | ⟨e', he⟩ := spells_or_offence text.toList
    · cases h.symm.trans (parse_of_spells hscript)
    · obtain rfl : e' = e := Except.error.inj ((parse_of_offence he).symm.trans h)
      exact he
  · exact parse_of_offence

theorem exists_spells_iff {text : List Char} :
    (∃ script, Spells text script) ↔ (∀ c ∈ text, Readable c) ∧ ∃ c ∈ text, c ∈ letters := by
  constructor
  · rintro ⟨script, h, hscript, hletters⟩
    refine ⟨h, ?_⟩
    obtain ⟨a, rest, rfl⟩ := List.exists_cons_of_ne_nil hscript
    have hmem : a.letter ∈ text.filter (· ∈ letters) := by simp [← hletters]
    exact ⟨a.letter, by simpa using List.mem_filter.mp hmem⟩
  · rintro ⟨h, c, hc, hletter⟩
    obtain ⟨script, -, hletters⟩ := exists_actions h
    refine ⟨script, h, ?_, hletters⟩
    rintro rfl
    rw [List.map_nil, eq_comm, List.filter_eq_nil_iff] at hletters
    exact hletters c hc (by simpa using hletter)

theorem Spells.append {left right : List Char} {script script' : Script} (h : Spells left script)
    (h' : Spells right script') : Spells (left ++ right) (script ++ script') where
  readable := List.forall_mem_append.mpr ⟨h.readable, h'.readable⟩
  nonempty := List.append_ne_nil_of_left_ne_nil h.nonempty script'
  letters := by rw [List.map_append, List.filter_append, h.letters, h'.letters]

def spread (gap : List Char) (steps : List (Action × List Char)) : List Char :=
  gap ++ steps.flatMap fun step => step.1.letter :: step.2

theorem filter_spread {gap : List Char} {steps : List (Action × List Char)} (hgap : ∀ c ∈ gap, isSeparator c = true)
    (hgaps : ∀ step ∈ steps, ∀ c ∈ step.2, isSeparator c = true) :
    (spread gap steps).filter (· ∈ letters) = (steps.map Prod.fst).map letter := by
  rw [spread, List.filter_append, filter_separators hgap, List.nil_append]
  induction steps with
  | nil => rfl
  | cons step steps ih =>
    obtain ⟨hstep, hsteps⟩ := List.forall_mem_cons.mp hgaps
    have hmem : step.1.letter ∈ letters := exists_letter_iff.mp ⟨step.1, rfl⟩
    rw [List.flatMap_cons, List.filter_append, List.filter_cons_of_pos (by simpa using hmem), filter_separators hstep,
      ih hsteps]
    rfl

theorem spells_spread {gap : List Char} {steps : List (Action × List Char)} (hgap : ∀ c ∈ gap, isSeparator c = true)
    (hgaps : ∀ step ∈ steps, ∀ c ∈ step.2, isSeparator c = true) (hsteps : steps ≠ []) :
    Spells (spread gap steps) (steps.map Prod.fst) where
  readable := by
    intro c hc
    rw [readable_iff]
    rcases List.mem_append.mp hc with hc | hc
    · exact .inl (hgap c hc)
    · obtain ⟨step, hstep, hc⟩ := List.mem_flatMap.mp hc
      rcases List.mem_cons.mp hc with rfl | hc
      · exact .inr ⟨step.1, rfl⟩
      · exact .inl (hgaps step hstep c hc)
  nonempty := by simpa using hsteps
  letters := (filter_spread hgap hgaps).symm

theorem execute_of_parse_error {files : Settings.Reader} {env : Environment} {clock : Clock} {r : Request}
    {options : SimulationOptions} {e : Error} (hr : r.command = .simulate options)
    (h : parse options.script = .error e) :
    ∃ e', Program.execute files env clock r = ⟨.failed e', Program.loadingEvents r.settingsFile⟩ ∧
      ∀ s, Settings.load files env r.settingsFile = .ok s → e' = e := by
  unfold Program.execute
  cases hload : Settings.load files env r.settingsFile with
  | error fault => exact ⟨fault, by rw [Settings.plan_of_load_error hload], fun s hs => nomatch hs⟩
  | ok s =>
    have hplan : Program.plan files env r = .error e := by
      rw [Program.plan, hload, hr]
      change Program.job s (.simulate options) = .error e
      rw [Program.job, Program.drill, h]
      rfl
    exact ⟨e, by rw [hplan], fun _ _ => rfl⟩

theorem script_grammar :
    (∀ text, (∃ script, parse text = .ok script) ↔
      (∀ c ∈ text.toList, c = ',' ∨ Text.isBlank c = true ∨ c ∈ letters) ∧ ∃ c ∈ text.toList, c ∈ letters) ∧
    (∀ text script, parse text = .ok script ↔ Spells text.toList script) ∧
    (∀ gap (steps : List (Action × List Char)), steps ≠ [] → (∀ c ∈ gap, c = ',' ∨ Text.isBlank c = true) →
      (∀ step ∈ steps, ∀ c ∈ step.2, c = ',' ∨ Text.isBlank c = true) →
        parse (String.ofList (spread gap steps)) = .ok (steps.map Prod.fst)) ∧
    (∀ left right script script', parse left = .ok script → parse right = .ok script' →
      parse (left ++ right) = .ok (script ++ script')) ∧
    (∀ text e, parse text = .error e ↔ Offence text.toList e) ∧
    ∀ files env clock (r : Request) options e, r.command = .simulate options → parse options.script = .error e →
      ∃ e', Program.execute files env clock r = ⟨.failed e', Program.loadingEvents r.settingsFile⟩ ∧
        ∀ s, Settings.load files env r.settingsFile = .ok s → e' = e := by
  simp only [← isSeparator_iff]
  refine ⟨fun text => ?_, fun _ _ => parse_eq_ok_iff, fun gap steps hsteps hgap hgaps => ?_,
    fun left right script script' h h' => ?_, fun _ _ => parse_eq_error_iff, fun _ _ _ _ _ _ hr h => ?_⟩
  · simp only [parse_eq_ok_iff]
    exact exists_spells_iff
  · rw [parse_eq_ok_iff, String.toList_ofList]
    exact spells_spread hgap hgaps hsteps
  · rw [parse_eq_ok_iff] at h h' ⊢
    rw [String.toList_append]
    exact h.append h'
  · exact execute_of_parse_error hr h

theorem script_grammar_separated :
    let steps : List (Action × List Char) := [(.succeed, [',', '\u3000']), (.hardTrip, []), (.reset, ['\n'])]
    let r : Request := ⟨none, 0, .simulate ⟨"s xf?", none, 100, false⟩⟩
    (steps ≠ [] ∧ parse (String.ofList (spread [' '] steps)) = .ok [.succeed, .hardTrip, .reset]) ∧
    (parse "w,f" = .ok [.wait, .fail] ∧ parse " i" = .ok [.invalidRequest] ∧
      parse ("w,f" ++ " i") = .ok [.wait, .fail, .invalidRequest]) ∧
    Program.execute (fun _ => .error "") [] ⟨⟨0⟩, ⟨0⟩⟩ r = ⟨.failed (.configuration
      "unknown script step 'x' (expected one of s f i w t h r)"), []⟩ := by
  intro steps r
  obtain ⟨-, -, hspread, happend, -, hexecute⟩ := script_grammar
  have hsteps : steps ≠ [] := by simp [steps]
  have hgap : ∀ c ∈ [' '], c = ',' ∨ Text.isBlank c = true := by
    rw [List.forall_mem_singleton]
    decide
  have hgaps : ∀ step ∈ steps, ∀ c ∈ step.2, c = ',' ∨ Text.isBlank c = true := by
    have hwide : Text.isBlank '\u3000' = true := by decide
    have hline : Text.isBlank '\n' = true := by decide
    simp [steps, hwide, hline]
  have hleft : parse "w,f" = .ok [.wait, .fail] := by decide +kernel
  have hright : parse " i" = .ok [.invalidRequest] := by decide +kernel
  have hwrong : parse "s xf?" =
      .error (.configuration "unknown script step 'x' (expected one of s f i w t h r)") := by
    decide +kernel
  have hload : Settings.load (fun _ => .error "") [] r.settingsFile = .ok {} := by decide +kernel
  obtain ⟨e, he, hload'⟩ := hexecute (fun _ => .error "") [] ⟨⟨0⟩, ⟨0⟩⟩ r _ _ rfl hwrong
  rw [hload' {} hload] at he
  exact ⟨⟨hsteps, hspread [' '] steps hsteps hgap hgaps⟩, ⟨hleft, hright, happend _ _ _ _ hleft hright⟩, he⟩

end Script

end CircuitBreaker
