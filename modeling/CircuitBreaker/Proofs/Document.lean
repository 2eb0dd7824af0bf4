import CircuitBreaker.Proofs.Lexing
import CircuitBreaker.Settings.Document
import Mathlib.Data.List.Nodup

namespace CircuitBreaker.Settings

open Json

namespace Given

inductive Member
  | name (s : String)
  | timeout (n : Nat)

namespace Member

def field : Member → Field
  | name _ => .name
  | timeout _ => .timeout

def key : Member → String
  | name _ => "name"
  | timeout _ => "reset_timeout_ms"

def value : Member → Token
  | name s => .text s
  | timeout n => .number (.natural n)

def tokens (m : Member) : List Token := [.text m.key, .colon, m.value]

theorem key_field (m : Member) : m.field.key = m.key := by
  cases m <;> rfl

theorem nodup_keys {ms : List Member} : (ms.map key).Nodup ↔ (ms.map field).Nodup := by
  have hmap : ms.map key = (ms.map field).map Field.key := by simp [key_field]
  have hinj : Function.Injective Field.key := by
    intro a b h
    cases a <;> cases b <;> first | rfl | exact absurd h (by decide)
  rw [hmap, List.nodup_map_iff hinj]

end Member

def put (g : Given) : Member → Given
  | .name s => { g with name := some s }
  | .timeout n => { g with timeout := some n }

def entries (ms : List Member) : List Token := [.comma].intercalate (ms.map Member.tokens)

inductive Document : Given → List Token → Prop
  | object (ms : List Member) (h : (ms.map Member.key).Nodup) :
      Document (ms.foldl put {}) (.openBrace :: (entries ms ++ [.closeBrace]))
  | emptyList : Document {} [.openBracket, .closeBracket]
  | nameList (s : String) : Document { name := some s } [.openBracket, .text s, .closeBracket]
  | fullList (s : String) (n : Nat) : Document { name := some s, timeout := some n }
      [.openBracket, .text s, .comma, .number (.natural n), .closeBracket]

def Describes (g : Given) (text : List Char) : Prop := ∃ ts, Document g ts ∧ Spaced ts text

section Entries

variable {m m' : Member} {ms : List Member}

theorem entries_singleton : entries [m] = m.tokens := List.intercalate_singleton

theorem entries_cons_cons : entries (m :: m' :: ms) = m.tokens ++ .comma :: entries (m' :: ms) := by
  rw [entries, List.map_cons, List.map_cons, List.intercalate_cons_cons, List.append_assoc]
  rfl

theorem plain_tokens : ∀ t ∈ m.tokens, t.Plain := by
  cases m <;> simp [Member.tokens, Member.value, Token.Plain]

theorem plain_entries : ∀ t ∈ entries ms, t.Plain := by
  induction ms with
  | nil => simp [entries]
  | cons m ms ih =>
    cases ms with
    | nil =>
      rw [entries_singleton]
      exact plain_tokens
    | cons m' ms =>
      rw [entries_cons_cons, List.forall_mem_append, List.forall_mem_cons]
      exact ⟨plain_tokens, trivial, ih⟩

theorem value_mem_entries (h : m ∈ ms) : m.value ∈ entries ms := by
  induction ms with
  | nil => cases h
  | cons m' ms ih =>
    cases ms with
    | nil =>
      rw [entries_singleton, ← List.mem_singleton.mp h]
      simp [Member.tokens]
    | cons m'' ms =>
      rw [entries_cons_cons, List.mem_append, List.mem_cons]
      rcases List.mem_cons.mp h with rfl | h
      · exact .inl (by simp [Member.tokens])
      · exact .inr (.inr (ih h))

theorem parted_tokens {t : Token} {ts : List Token} (ht : t.isNumber = false) (hts : (t :: ts).IsChain Token.Parted) :
    (m.tokens ++ t :: ts).IsChain Token.Parted := by
  have hvalue : (m.value :: t :: ts).IsChain Token.Parted := hts.cons_cons fun _ => ht
  exact (hvalue.cons_cons (Token.parted_of_not_number rfl)).cons_cons (Token.parted_of_not_number rfl)

theorem parted_entries : (entries ms ++ [Token.closeBrace]).IsChain Token.Parted := by
  induction ms with
  | nil => exact .singleton _
  | cons m ms ih =>
    cases ms with
    | nil =>
      rw [entries_singleton]
      exact parted_tokens rfl (.singleton _)
    | cons m' ms =>
      rw [entries_cons_cons, List.append_assoc]
      exact parted_tokens rfl (ih.cons fun _ _ => Token.parted_of_not_number rfl)

end Entries

theorem Document.plain {g : Given} {ts : List Token} (h : Document g ts) : ∀ t ∈ ts, t.Plain := by
  cases h with
  | object ms =>
    rw [List.forall_mem_cons, List.forall_mem_append]
    exact ⟨trivial, plain_entries, by simp [Token.Plain]⟩
  | _ => simp [Token.Plain]

theorem Document.parted {g : Given} {ts : List Token} (h : Document g ts) : ts.IsChain Token.Parted := by
  cases h with
  | object ms => exact parted_entries.cons fun _ _ => Token.parted_of_not_number rfl
  | _ => simp [List.isChain_cons, Token.Parted, Token.isNumber]

theorem timeout_foldl {ms : List Member} {g : Given} {n : Nat} (h : (ms.foldl put g).timeout = some n) :
    g.timeout = some n ∨ .timeout n ∈ ms := by
  induction ms generalizing g with
  | nil => exact .inl h
  | cons m ms ih =>
    rcases ih h with hm | hms
    · cases m with
      | name => exact .inl hm
      | timeout k =>
        obtain rfl : k = n := Option.some.inj hm
        exact .inr List.mem_cons_self
    · exact .inr (List.mem_cons_of_mem _ hms)

theorem Document.timeout_mem {g : Given} {ts : List Token} {n : Nat} (h : Document g ts) (hn : g.timeout = some n) :
    .number (.natural n) ∈ ts := by
  cases h with
  | object ms =>
    obtain hm | hms := timeout_foldl hn
    · cases hm
    · exact List.mem_cons_of_mem _ (List.mem_append_left _ (value_mem_entries hms))
  | fullList s k =>
    obtain rfl : k = n := Option.some.inj hn
    simp
  | _ => cases hn

theorem Describes.timeout_lt {g : Given} {text : List Char} {n : Nat} (h : g.Describes text)
    (hn : g.timeout = some n) : n < UInt64.size := by
  obtain ⟨ts, hdocument, hspaced⟩ := h
  obtain ⟨form, hform⟩ := hspaced.exists_form (hdocument.timeout_mem hn)
  cases hform with
  | natural _ hsize => exact hsize

theorem fill_eq_ok_iff {g g' : Given} {field : Field} {t : Lexeme} :
    g.fill field t = .ok g' ↔ ∃ m : Member, m.field = field ∧ t.token = m.value ∧ g' = g.put m := by
  constructor
  · intro h
    unfold fill Lexeme.found at h
    split at h
    · cases h
    · next found hfound =>
      split at h
      · next s =>
        cases h
        refine ⟨.name s, rfl, ?_, rfl⟩
        split at hfound <;> simp_all [Member.value]
      · next n =>
        cases h
        refine ⟨.timeout n, rfl, ?_, rfl⟩
        split at hfound <;> simp_all [Member.value]
      · cases h
      · cases h
      · cases h
  · rintro ⟨m, rfl, ht, rfl⟩
    cases m <;> simp [fill, Lexeme.found, ht, Member.value, Member.field, put]

theorem key_eq_ok_iff {t : Lexeme} {k : String} : t.key = .ok k ↔ t.token = .text k := by
  unfold Lexeme.key
  split <;> simp_all

theorem ofKey_eq_some_iff {k : String} {field : Field} : Field.ofKey k = some field ↔ k = field.key := by
  unfold Field.ofKey
  cases field <;> grind [Field.key]

theorem slot_eq_ok_iff {g : Given} {k : String} {after : List Lexeme} {field : Field} :
    g.slot k after = .ok field ↔ k = field.key ∧ g.has field = false := by
  rw [← ofKey_eq_some_iff, slot]
  cases Field.ofKey k with
  | none => simp
  | some found =>
    by_cases h : g.has found = true <;> grind

variable {g g' : Given} {ts rest : List Lexeme}

structure Entry (g : Given) (m : Member) (k c v next : Lexeme) (ts : List Lexeme) (result : Given × List Lexeme) :
    Prop where
  key : k.token = .text m.field.key
  colon : c.token = .colon
  value : v.token = m.value
  free : g.has m.field = false
  goesOn : next.token = .closeBrace ∧ (g.put m, ts) = result ∨ next.token = .comma ∧ members (g.put m) ts = .ok result

theorem Entry.tokens {m : Member} {key colon value next : Lexeme} {result : Given × List Lexeme}
    (h : Entry g m key colon value next ts result) : [key, colon, value].map Lexeme.token = m.tokens := by
  simp [h.key, h.colon, h.value, Member.tokens, Member.key_field]

theorem members_cases {result : Given × List Lexeme} (h : members g ts = .ok result) :
    ∃ m key colon value next ts', ts = key :: colon :: value :: next :: ts' ∧
      Entry g m key colon value next ts' result := by
  unfold members at h
  split at h
  · cases h
  · split at h
    · cases h
    · next hkey =>
      split at h
      · cases h
      · next hslot =>
        split at h
        · cases h
        · split at h
          · cases h
          · next hcolon =>
            split at h
            · cases h
            · split at h
              · cases h
              · next hfill =>
                obtain ⟨m, rfl, hvalue, rfl⟩ := fill_eq_ok_iff.mp hfill
                obtain ⟨rfl, hfree⟩ := slot_eq_ok_iff.mp hslot
                have hentry (next : Lexeme) (ts : List Lexeme) : _ → Entry g m _ _ _ next ts result :=
                  .mk (key_eq_ok_iff.mp hkey) (not_not.mp hcolon) hvalue hfree
                split at h
                · cases h
                · split at h
                  · next hbrace => exact ⟨m, _, _, _, _, _, rfl, hentry _ _ (.inl ⟨hbrace, Except.ok.inj h⟩)⟩
                  · split at h
                    · cases h
                    · next hcomma =>
                      split at h
                      · cases h
                      · split at h
                        · cases h
                        · exact ⟨m, _, _, _, _, _, rfl, hentry _ _ (.inr ⟨not_not.mp hcomma, h⟩)⟩

theorem Entry.members {m : Member} {key colon value next : Lexeme} {result : Given × List Lexeme}
    (h : Entry g m key colon value next ts result) : members g (key :: colon :: value :: next :: ts) = .ok result := by
  rw [Given.members, key_eq_ok_iff.mpr h.key]
  simp only [slot_eq_ok_iff.mpr ⟨rfl, h.free⟩, h.colon, ne_eq, not_true_eq_false, ↓reduceIte,
    fill_eq_ok_iff.mpr ⟨m, rfl, h.value, rfl⟩]
  rcases h.goesOn with ⟨hbrace, hresult⟩ | ⟨hcomma, hmembers⟩
  · rw [if_pos hbrace, hresult]
  · obtain ⟨m', key', _, _, _, _, rfl, hentry⟩ := members_cases hmembers
    rw [if_neg (by simp [hcomma]), if_neg (by simp [hcomma])]
    simpa [hentry.key] using hmembers

theorem has_put {m : Member} {field : Field} :
    (g.put m).has field = false ↔ m.field ≠ field ∧ g.has field = false := by
  cases m <;> cases field <;> simp [put, has, Member.field]

theorem free_put {m : Member} {ms : List Member} :
    (∀ m' ∈ m :: ms, g.has m'.field = false) ∧ ((m :: ms).map Member.field).Nodup ↔
      g.has m.field = false ∧ (∀ m' ∈ ms, (g.put m).has m'.field = false) ∧ (ms.map Member.field).Nodup := by
  simp only [List.forall_mem_cons, List.map_cons, List.nodup_cons, List.mem_map, not_exists, not_and, has_put]
  grind

theorem members_spec (h : members g ts = .ok (g', rest)) :
    ∃ ms : List Member, ts.map Lexeme.token = entries ms ++ .closeBrace :: rest.map Lexeme.token ∧
      g' = ms.foldl put g ∧ (∀ m ∈ ms, g.has m.field = false) ∧ (ms.map Member.field).Nodup := by
  -- The entries after a comma are fewer.
  induction hn : ts.length using Nat.strongRecOn generalizing g ts with
  | ind n ih =>
    obtain ⟨m, key, colon, value, next, ts', rfl, hentry⟩ := members_cases h
    rcases hentry.goesOn with ⟨hbrace, hresult⟩ | ⟨hcomma, hmembers⟩
    · cases hresult
      refine ⟨[m], ?_, rfl, by simpa using hentry.free, by simp⟩
      rw [entries_singleton, ← hentry.tokens]
      simp [hbrace]
    · have hlength : ts'.length < n := by
        rw [← hn]
        simp only [List.length_cons]
        omega
      obtain ⟨ms, hms, rfl, hrest⟩ := ih _ hlength hmembers rfl
      obtain ⟨hfree, hnodup⟩ := free_put.mpr ⟨hentry.free, hrest⟩
      refine ⟨m :: ms, ?_, rfl, hfree, hnodup⟩
      cases ms with
      | nil =>
        -- A brace after the comma would be no key.
        obtain ⟨m', key', _, _, _, _, rfl, hentry'⟩ := members_cases hmembers
        cases hentry'.key.symm.trans (List.cons.inj hms).1
      | cons m' ms =>
        rw [entries_cons_cons, ← hentry.tokens]
        simp [hms, hcomma]

theorem exists_entry {m : Member} {t : Token} {left : List Token}
    (h : ts.map Lexeme.token = m.tokens ++ t :: left) :
    ∃ key colon value next ts', ts = key :: colon :: value :: next :: ts' ∧ key.token = .text m.field.key ∧
      colon.token = .colon ∧ value.token = m.value ∧ next.token = t ∧ ts'.map Lexeme.token = left := by
  obtain ⟨key, ts, rfl, hkey, h⟩ := List.map_eq_cons_iff.mp h
  obtain ⟨colon, ts, rfl, hcolon, h⟩ := List.map_eq_cons_iff.mp h
  obtain ⟨value, ts, rfl, hvalue, h⟩ := List.map_eq_cons_iff.mp h
  obtain ⟨next, ts, rfl, hnext, h⟩ := List.map_eq_cons_iff.mp h
  exact ⟨key, colon, value, next, ts, rfl, by rw [m.key_field, hkey], hcolon, hvalue, hnext, h⟩

theorem members_of_entries {m : Member} {ms : List Member} {left : List Token}
    (hts : ts.map Lexeme.token = entries (m :: ms) ++ .closeBrace :: left)
    (hfree : (∀ m' ∈ m :: ms, g.has m'.field = false) ∧ ((m :: ms).map Member.field).Nodup) :
    ∃ rest, members g ts = .ok ((m :: ms).foldl put g, rest) ∧ rest.map Lexeme.token = left := by
  obtain ⟨hm, hrest⟩ := free_put.mp hfree
  induction ms generalizing g m ts with
  | nil =>
    rw [entries_singleton] at hts
    obtain ⟨key, colon, value, next, ts, rfl, hkey, hcolon, hvalue, hnext, hts⟩ := exists_entry hts
    exact ⟨ts, Entry.members ⟨hkey, hcolon, hvalue, hm, .inl ⟨hnext, rfl⟩⟩, hts⟩
  | cons m' ms ih =>
    rw [entries_cons_cons, List.append_assoc, List.cons_append] at hts
    obtain ⟨key, colon, value, next, ts, rfl, hkey, hcolon, hvalue, hnext, hts⟩ := exists_entry hts
    obtain ⟨rest, hmembers, hleft⟩ := ih hts hrest (free_put.mp hrest).1 (free_put.mp hrest).2
    exact ⟨rest, Entry.members ⟨hkey, hcolon, hvalue, hm, .inr ⟨hnext, hmembers⟩⟩, hleft⟩

theorem object_spec (h : object ts = .ok (g, rest)) : ∃ ms : List Member,
    ts.map Lexeme.token = entries ms ++ .closeBrace :: rest.map Lexeme.token ∧ g = ms.foldl put {} ∧
      (ms.map Member.field).Nodup := by
  cases ts with
  | nil => cases h
  | cons t ts =>
    rw [object] at h
    split at h
    · next ht =>
      cases h
      exact ⟨[], by rw [List.map_cons, ht]; rfl, rfl, .nil⟩
    · obtain ⟨ms, hts, hg, -, hnodup⟩ := members_spec h
      exact ⟨ms, hts, hg, hnodup⟩

theorem object_of_entries {ms : List Member} {left : List Token}
    (hts : ts.map Lexeme.token = entries ms ++ .closeBrace :: left) (hnodup : (ms.map Member.field).Nodup) :
    ∃ rest, object ts = .ok (ms.foldl put {}, rest) ∧ rest.map Lexeme.token = left := by
  cases ms with
  | nil =>
    obtain ⟨t, ts, rfl, ht, hts⟩ := List.map_eq_cons_iff.mp hts
    exact ⟨ts, if_pos ht, hts⟩
  | cons m ms =>
    have hfree : ∀ m' ∈ m :: ms, has {} m'.field = false := by
      intro m' _
      cases m' <;> rfl
    obtain ⟨rest, hmembers, hleft⟩ := members_of_entries hts ⟨hfree, hnodup⟩
    obtain ⟨m', key, _, _, _, _, rfl, hentry⟩ := members_cases hmembers
    refine ⟨rest, ?_, hleft⟩
    rw [object, if_neg (by simp [hentry.key]), hmembers]

theorem listEnd_eq_ok_iff :
    listEnd g ts = .ok (g', rest) ↔ ∃ t, ts = t :: rest ∧ t.token = .closeBracket ∧ g' = g := by
  constructor
  · intro h
    unfold listEnd at h
    split at h
    · cases h
    · next t ts =>
      split at h
      · next ht =>
        cases h
        exact ⟨t, rfl, ht, rfl⟩
      · split at h
        · cases h
        · split at h <;> cases h
  · rintro ⟨t, rfl, ht, rfl⟩
    unfold listEnd
    simp only [ht, ↓reduceIte]

theorem secondItem_eq_ok_iff : secondItem g ts = .ok (g', rest) ↔
    (∃ close, ts = close :: rest ∧ close.token = .closeBracket ∧ g' = g) ∨
      ∃ comma value close n, ts = comma :: value :: close :: rest ∧ comma.token = .comma ∧
        value.token = .number (.natural n) ∧ close.token = .closeBracket ∧ g' = g.put (.timeout n) := by
  constructor
  · intro h
    unfold secondItem at h
    split at h
    · cases h
    · next t ts =>
      split at h
      · next ht =>
        cases h
        exact .inl ⟨t, rfl, ht, rfl⟩
      · split at h
        · cases h
        · next hcomma =>
          split at h
          · cases h
          · split at h
            · cases h
            · split at h
              · cases h
              · next hfill =>
                obtain ⟨m, hm, hvalue, rfl⟩ := fill_eq_ok_iff.mp hfill
                obtain ⟨close, rfl, hclose, rfl⟩ := listEnd_eq_ok_iff.mp h
                cases m with
                | name => cases hm
                | timeout n => exact .inr ⟨t, _, close, n, rfl, not_not.mp hcomma, hvalue, hclose, rfl⟩
  · rintro (⟨close, rfl, hclose, rfl⟩ | ⟨comma, value, close, n, rfl, hcomma, hvalue, hclose, rfl⟩)
    · unfold secondItem
      simp only [hclose, ↓reduceIte]
    · have hfill : g.fill .timeout value = .ok (g.put (.timeout n)) := fill_eq_ok_iff.mpr ⟨.timeout n, rfl, hvalue, rfl⟩
      simp [secondItem, hcomma, hvalue, hfill, listEnd, hclose]

theorem list_eq_ok_iff : list ts = .ok (g, rest) ↔
    (∃ close, ts = close :: rest ∧ close.token = .closeBracket ∧ g = {}) ∨
      ∃ name s after, ts = name :: after ∧ name.token = .text s ∧
        secondItem { name := some s } after = .ok (g, rest) := by
  constructor
  · intro h
    unfold list at h
    split at h
    · cases h
    · next t ts =>
      split at h
      · next ht =>
        cases h
        exact .inl ⟨t, rfl, ht, rfl⟩
      · split at h
        · cases h
        · next hfill =>
          obtain ⟨m, hm, hvalue, rfl⟩ := fill_eq_ok_iff.mp hfill
          cases m with
          | name s => exact .inr ⟨t, s, ts, rfl, hvalue, h⟩
          | timeout => cases hm
  · rintro (⟨close, rfl, hclose, rfl⟩ | ⟨name, s, after, rfl, hname, h⟩)
    · simp [list, hclose]
    · have hfill : fill {} .name name = .ok { name := some s } := fill_eq_ok_iff.mpr ⟨.name s, rfl, hname, rfl⟩
      simp [list, hname, hfill, h]

theorem found_eq_object_iff {t : Lexeme} : t.found = .ok .object ↔ t.token = .openBrace := by
  unfold Lexeme.found
  split <;> simp_all

theorem found_eq_list_iff {t : Lexeme} : t.found = .ok .list ↔ t.token = .openBracket := by
  unfold Lexeme.found
  split <;> simp_all

theorem value_spec (h : value ts = .ok (g, rest)) :
    ∃ read, ts.map Lexeme.token = read ++ rest.map Lexeme.token ∧ Document g read := by
  unfold value at h
  split at h
  · cases h
  · next t ts =>
    split at h
    · cases h
    · next hfound =>
      obtain ⟨ms, hts, rfl, hnodup⟩ := object_spec h
      exact ⟨_, by simp [hts, found_eq_object_iff.mp hfound], .object ms (Member.nodup_keys.mpr hnodup)⟩
    · next hfound =>
      have ht := found_eq_list_iff.mp hfound
      obtain ⟨close, rfl, hclose, rfl⟩ | ⟨name, s, after, rfl, hname, hsecond⟩ := list_eq_ok_iff.mp h
      · exact ⟨_, by simp [ht, hclose], .emptyList⟩
      · obtain ⟨close, rfl, hclose, rfl⟩ | ⟨comma, timeout, close, n, rfl, hcomma, htimeout, hclose, rfl⟩ :=
          secondItem_eq_ok_iff.mp hsecond
        · exact ⟨_, by simp [ht, hname, hclose], .nameList s⟩
        · exact ⟨_, by simp [ht, hname, hcomma, htimeout, hclose], .fullList s n⟩
    · cases h

theorem value_openBrace {t : Lexeme} (ht : t.token = .openBrace) : value (t :: ts) = object ts := by
  rw [value, found_eq_object_iff.mpr ht]

theorem value_openBracket {t : Lexeme} (ht : t.token = .openBracket) : value (t :: ts) = list ts := by
  rw [value, found_eq_list_iff.mpr ht]

theorem Document.value {read : List Token} (h : Document g read) (hts : ts.map Lexeme.token = read) :
    value ts = .ok (g, []) := by
  cases h with
  | object ms hnodup =>
    obtain ⟨t, ts, rfl, ht, hts⟩ := List.map_eq_cons_iff.mp hts
    obtain ⟨rest, hobject, hrest⟩ := object_of_entries hts (Member.nodup_keys.mp hnodup)
    rw [value_openBrace ht, hobject, List.map_eq_nil_iff.mp hrest]
  | emptyList =>
    simp only [List.map_eq_cons_iff, List.map_eq_nil_iff] at hts
    obtain ⟨t, _, rfl, ht, close, _, rfl, hclose, rfl⟩ := hts
    rw [value_openBracket ht]
    exact list_eq_ok_iff.mpr (.inl ⟨close, rfl, hclose, rfl⟩)
  | nameList s =>
    simp only [List.map_eq_cons_iff, List.map_eq_nil_iff] at hts
    obtain ⟨t, _, rfl, ht, name, _, rfl, hname, close, _, rfl, hclose, rfl⟩ := hts
    rw [value_openBracket ht]
    exact list_eq_ok_iff.mpr (.inr ⟨name, s, _, rfl, hname, secondItem_eq_ok_iff.mpr (.inl ⟨close, rfl, hclose, rfl⟩)⟩)
  | fullList s n =>
    simp only [List.map_eq_cons_iff, List.map_eq_nil_iff] at hts
    obtain ⟨t, _, rfl, ht, name, _, rfl, hname, comma, _, rfl, hcomma, timeout, _, rfl, htimeout, close, _, rfl,
      hclose, rfl⟩ := hts
    rw [value_openBracket ht]
    refine list_eq_ok_iff.mpr (.inr ⟨name, s, _, rfl, hname, secondItem_eq_ok_iff.mpr (.inr ?_)⟩)
    exact ⟨comma, timeout, close, n, rfl, hcomma, htimeout, hclose, rfl⟩

theorem ofText_eq_ok_iff_value {text : List Char} : ofText text = .ok g ↔ value (lex text) = .ok (g, []) := by
  unfold ofText
  split <;> simp_all

theorem ofText_eq_ok_iff {text : List Char} : ofText text = .ok g ↔ g.Describes text := by
  rw [ofText_eq_ok_iff_value]
  constructor
  · intro h
    obtain ⟨read, hread, hdocument⟩ := value_spec h
    rw [List.map_nil, List.append_nil] at hread
    have hplain : ∀ t ∈ lex text, t.token.Plain := by
      intro t ht
      apply hdocument.plain
      rw [← hread]
      exact List.mem_map_of_mem ht
    exact ⟨read, hdocument, hread ▸ spaced_of_plain (Nat.le_refl _) hplain⟩
  · rintro ⟨ts, hdocument, hspaced⟩
    exact hdocument.value (hspaced.tokens hdocument.parted (Nat.le_refl _))

end Given

variable {source : String} {g : Given}

def Named (name : String) : Prop := ∃ c ∈ name.toList, c ∉ Text.whiteSpace

theorem isBlank_iff {name : String} : isBlank name = true ↔ ¬ Named name := by
  simp only [isBlank, List.all_eq_true, Text.isBlank_iff, Named, not_exists, not_and, not_not]

theorem isBlank_eq_false_iff {name : String} : isBlank name = false ↔ Named name := by
  rw [← Bool.not_eq_true, isBlank_iff, not_not]

theorem settings_eq : g.settings = ⟨g.name.getD "default", .ofMillis (g.timeout.getD 15000)⟩ := by
  cases hg : g.timeout <;> simp [Given.settings, hg]

theorem validate_eq_ok_iff {s s' : Settings} : s.validate = .ok s' ↔ isBlank s.name = false ∧ s = s' := by
  rw [validate]
  cases isBlank s.name <;> simp

theorem validate_of_blank {s : Settings} (h : isBlank s.name = true) :
    s.validate = .error (.configuration "breaker name cannot be empty") := if_pos h

theorem validate_of_not_blank {s : Settings} (h : isBlank s.name = false) : s.validate = .ok s :=
  validate_eq_ok_iff.mpr ⟨h, rfl⟩

theorem ofDocument_of_describes (h : g.Describes source.toList) : ofDocument source = g.settings.validate := by
  rw [ofDocument, Given.ofText_eq_ok_iff.mpr h]

theorem ofDocument_of_not_describes (h : ¬ ∃ g : Given, g.Describes source.toList) :
    ∃ fault, ofDocument source = .error (.json ("invalid breaker configuration: " ++ fault) fault) := by
  rw [ofDocument]
  cases hread : Given.ofText source.toList with
  | error f => exact ⟨_, rfl⟩
  | ok g => exact absurd ⟨g, Given.ofText_eq_ok_iff.mp hread⟩ h

theorem ofDocument_eq_ok_iff {s : Settings} : ofDocument source = .ok s ↔ ∃ g : Given,
    g.Describes source.toList ∧ isBlank (g.name.getD "default") = false ∧
      s = ⟨g.name.getD "default", .ofMillis (g.timeout.getD 15000)⟩ := by
  constructor
  · intro h
    by_cases hsource : ∃ g : Given, g.Describes source.toList
    · obtain ⟨g, hg⟩ := hsource
      rw [ofDocument_of_describes hg, settings_eq, validate_eq_ok_iff] at h
      exact ⟨g, hg, h.1, h.2.symm⟩
    · obtain ⟨fault, hjson⟩ := ofDocument_of_not_describes hsource
      cases h.symm.trans hjson
  · rintro ⟨g, hg, hblank, rfl⟩
    rw [ofDocument_of_describes hg, settings_eq, validate_of_not_blank hblank]

theorem ofDocument_eq_configuration_iff : (∃ message, ofDocument source = .error (.configuration message)) ↔
    ∃ g : Given, g.Describes source.toList ∧ isBlank (g.name.getD "default") = true := by
  constructor
  · rintro ⟨message, h⟩
    by_cases hsource : ∃ g : Given, g.Describes source.toList
    · obtain ⟨g, hg⟩ := hsource
      refine ⟨g, hg, ?_⟩
      by_contra hblank
      have hok := ofDocument_eq_ok_iff.mpr ⟨g, hg, Bool.not_eq_true _ ▸ hblank, rfl⟩
      cases h.symm.trans hok
    · obtain ⟨fault, hjson⟩ := ofDocument_of_not_describes hsource
      cases h.symm.trans hjson
  · rintro ⟨g, hg, hblank⟩
    exact ⟨_, by rw [ofDocument_of_describes hg, settings_eq, validate_of_blank hblank]⟩

theorem ofDocument_eq_json_iff : (∃ message cause, ofDocument source = .error (.json message cause)) ↔
    ¬ ∃ g : Given, g.Describes source.toList := by
  constructor
  · rintro ⟨message, cause, h⟩ ⟨g, hg⟩
    rw [ofDocument_of_describes hg, validate] at h
    split at h <;> cases h
  · intro h
    obtain ⟨fault, hjson⟩ := ofDocument_of_not_describes h
    exact ⟨_, fault, hjson⟩

theorem accepted_documents (source : String) :
    (∀ s : Settings, ofDocument source = .ok s ↔ ∃ g : Given, g.Describes source.toList ∧
      Named s.name ∧ s.name = g.name.getD "default" ∧
      s.resetTimeout.nanos = g.timeout.getD 15000 * 1000000) ∧
    ((∃ message, ofDocument source = .error (.configuration message)) ↔
      ∃ g : Given, g.Describes source.toList ∧ ¬ Named (g.name.getD "default")) ∧
    ((∃ message cause, ofDocument source = .error (.json message cause)) ↔
      ¬ ∃ g : Given, g.Describes source.toList) := by
  refine ⟨?_, ?_, ofDocument_eq_json_iff⟩
  · intro s
    rw [ofDocument_eq_ok_iff]
    apply exists_congr
    intro g
    apply and_congr_right
    intro _
    rw [isBlank_eq_false_iff]
    constructor
    · rintro ⟨hname, rfl⟩
      exact ⟨hname, rfl, rfl⟩
    · rintro ⟨hname, hs, htimeout⟩
      obtain ⟨name, ⟨nanos⟩⟩ := s
      obtain rfl : name = _ := hs
      obtain rfl : nanos = _ := htimeout
      exact ⟨hname, rfl⟩
  · simp only [ofDocument_eq_configuration_iff, isBlank_iff]

example : ofDocument "\x7b \"reset_timeout_ms\": 20, \"n\\u0061me\": \"db\" \x7d" = .ok ⟨"db", .ofMillis 20⟩ := by
  decide +kernel

end CircuitBreaker.Settings
