import Romanization.Proofs.Service

namespace Romanization

def Text.Vernacular (text : Text) : Prop := ∃ c ∈ text, ∃ s : Script, s ≠ .latin ∧ s.contains c

theorem Text.all_scripts_latin_eq_false_iff {text : Text} :
    text.scripts.all (· == .latin) = false ↔ text.Vernacular := by
  rw [List.all_eq_false]
  constructor
  · rintro ⟨s, hs, hne⟩
    obtain ⟨c, hc, hsc⟩ := mem_scripts_iff.1 hs
    exact ⟨c, hc, s, by simpa using hne, hsc⟩
  · rintro ⟨c, hc, s, hne, hsc⟩
    exact ⟨s, mem_scripts hc hsc, by simpa using hne⟩

namespace Catalog

variable {c : Catalog} {name : Option Text} {t : RuleTable}

/-- What a name stands for. One name is kept for the combined table: a table listed under it is never
meant. -/
inductive Names (c : Catalog) (name : Option Text) : RuleTable → Prop
  | combined {t : RuleTable} : key name = combinedName → c.combined = some t → Names c name t
  | listed {listing : Listing} : key name ≠ combinedName →
      c.listings.find? (key name) = some listing → Names c name listing.table

theorem combinedTable_eq_ok_iff : c.combinedTable = .ok t ↔ c.combined = some t := by
  unfold combinedTable
  cases c.combined <;> simp

theorem combinedTable_eq_error_iff {e : Error} :
    c.combinedTable = .error e ↔ c.combined = none ∧ e = .unknownName (some combinedName) := by
  unfold combinedTable
  cases c.combined <;> simp [eq_comm]

theorem names_of_reserved (reserved : key name = combinedName) :
    c.Names name t ↔ c.combined = some t := by
  constructor
  · intro h
    cases h with
    | combined _ present => exact present
    | listed free _ => exact absurd reserved free
  · exact .combined reserved

theorem names_of_free (free : key name ≠ combinedName) :
    c.Names name t ↔ ∃ listing, c.listings.find? (key name) = some listing ∧ listing.table = t := by
  constructor
  · intro h
    cases h with
    | combined reserved _ => exact absurd reserved free
    | listed _ found => exact ⟨_, found, rfl⟩
  · rintro ⟨listing, found, rfl⟩
    exact .listed free found

theorem table_eq_ok_iff : c.table name = .ok t ↔ c.Names name t := by
  unfold table
  split
  · next reserved => rw [names_of_reserved reserved, combinedTable_eq_ok_iff]
  · next free =>
    rw [names_of_free free]
    cases c.listings.find? (key name) <;> simp

theorem table_eq_error (h : ∀ t, ¬ c.Names name t) :
    ∃ asked, c.table name = .error (.unknownName asked) := by
  cases ht : c.table name with
  | ok t => exact absurd (table_eq_ok_iff.1 ht) (h t)
  | error e =>
    unfold table at ht
    split at ht
    · exact ⟨_, congrArg Except.error (combinedTable_eq_error_iff.1 ht).2⟩
    · split at ht <;> cases ht
      exact ⟨_, rfl⟩

theorem scriptOfLanguage_eq_ok {script : Text} (h : c.languages.find? (key name) = some script) :
    c.scriptOfLanguage name = .ok script := by
  rw [scriptOfLanguage, h]

theorem scriptOfLanguage_eq_error (h : c.languages.find? (key name) = none) :
    c.scriptOfLanguage name = .error (.unknownName name) := by
  rw [scriptOfLanguage, h]

end Catalog

namespace Service

open Catalog (key)

/-- The table that a request calls for: by its script, else by its language, else by the letters of its
prepared text. -/
inductive Selects (c : Catalog) (request : Request) (text : Text) : RuleTable → Prop
  | script {t : RuleTable} : named request.script → c.Names request.script t → Selects c request text t
  | language {t : RuleTable} {script : Text} : ¬ named request.script → named request.language →
      c.languages.find? (key request.language) = some script → c.Names (some script) t →
      Selects c request text t
  | letters {t : RuleTable} : ¬ named request.script → ¬ named request.language → text.Vernacular →
      c.combined = some t → Selects c request text t

inductive Strays (c : Catalog) (request : Request) (text : Text) : Prop
  | script : named request.script → (∀ t, ¬ c.Names request.script t) → Strays c request text
  | language : ¬ named request.script → named request.language →
      (∀ script, c.languages.find? (key request.language) = some script →
        ∀ t, ¬ c.Names (some script) t) → Strays c request text
  | letters : ¬ named request.script → ¬ named request.language → text.Vernacular →
      c.combined = none → Strays c request text

structure Plain (request : Request) (text : Text) : Prop where
  script : ¬ named request.script
  language : ¬ named request.language
  letters : ¬ text.Vernacular

variable {c : Catalog} {request : Request} {text : Text}

theorem Selects.tableFor_eq {t : RuleTable} (h : Selects c request text t) :
    tableFor c text.scripts request.script request.language = .ok (some t) := by
  cases h with
  | script given names =>
    rw [tableFor_of_script given, Catalog.table_eq_ok_iff.2 names]
    rfl
  | language unnamed given found names =>
    rw [tableFor_of_language unnamed given, Catalog.scriptOfLanguage_eq_ok found]
    exact congrArg (Except.map some) (Catalog.table_eq_ok_iff.2 names)
  | letters unnamed unspoken found present =>
    rw [tableFor_of_letters unnamed unspoken (Text.all_scripts_latin_eq_false_iff.2 found),
      Catalog.combinedTable_eq_ok_iff.2 present]
    rfl

theorem Plain.tableFor_eq (h : Plain request text) :
    tableFor c text.scripts request.script request.language = .ok none := by
  have hall : text.scripts.all (· == .latin) := by
    rw [← Bool.not_eq_false, Text.all_scripts_latin_eq_false_iff]
    exact h.letters
  exact tableFor_of_latin h.script h.language hall

theorem Strays.tableFor_eq (h : Strays c request text) :
    ∃ asked, tableFor c text.scripts request.script request.language = .error (.unknownName asked) := by
  cases h with
  | script given missing =>
    obtain ⟨asked, ht⟩ := Catalog.table_eq_error missing
    exact ⟨asked, by rw [tableFor_of_script given, ht]; rfl⟩
  | language unnamed given missing =>
    rw [tableFor_of_language unnamed given]
    cases hf : c.languages.find? (key request.language) with
    | none => exact ⟨_, by rw [Catalog.scriptOfLanguage_eq_error hf]; rfl⟩
    | some script =>
      obtain ⟨asked, ht⟩ := Catalog.table_eq_error (missing script hf)
      rw [Catalog.scriptOfLanguage_eq_ok hf]
      exact ⟨asked, congrArg (Except.map some) ht⟩
  | letters unnamed unspoken found missing =>
    rw [tableFor_of_letters unnamed unspoken (Text.all_scripts_latin_eq_false_iff.2 found)]
    exact ⟨_, congrArg (Except.map some) (Catalog.combinedTable_eq_error_iff.2 ⟨missing, rfl⟩)⟩

theorem selects_or_plain_or_strays (c : Catalog) (request : Request) (text : Text) :
    (∃ t, Selects c request text t) ∨ Plain request text ∨ Strays c request text := by
  by_cases hs : named request.script
  · by_cases names : ∃ t, c.Names request.script t
    · obtain ⟨t, names⟩ := names
      exact .inl ⟨t, .script hs names⟩
    · exact .inr (.inr (.script hs (not_exists.1 names)))
  by_cases hl : named request.language
  · by_cases names : ∃ script, c.languages.find? (key request.language) = some script ∧
        ∃ t, c.Names (some script) t
    · obtain ⟨script, found, t, names⟩ := names
      exact .inl ⟨t, .language hs hl found names⟩
    · exact .inr (.inr (.language hs hl fun script found t ht => names ⟨script, found, t, ht⟩))
  by_cases hv : text.Vernacular
  · cases hc : c.combined with
    | some t => exact .inl ⟨t, .letters hs hl hv hc⟩
    | none => exact .inr (.inr (.letters hs hl hv hc))
  · exact .inr (.inl ⟨hs, hl, hv⟩)

theorem answer_of_plain {service : Service}
    (hp : Text.tidy (request.text.getD []) service.composes = text) (h : Plain request text) :
    service.answer c request = .ok ⟨request.text, text, text.scripts, false, none, []⟩ := by
  unfold answer
  simp only [hp, h.tableFor_eq]
  rfl

theorem answer_of_strays {service : Service}
    (hp : Text.tidy (request.text.getD []) service.composes = text) (h : Strays c request text) :
    ∃ asked, service.answer c request = .error (.unknownName asked) := by
  obtain ⟨asked, ht⟩ := h.tableFor_eq
  unfold answer
  simp only [hp, ht]
  exact ⟨asked, rfl⟩

theorem plain_or_romanized {service : Service} {answer : Answer}
    (hp : Text.tidy (request.text.getD []) service.composes = text)
    (h : service.answer c request = .ok answer) :
    answer = ⟨request.text, text, text.scripts, false, none, []⟩ ∨
      ∃ t mode, Selects c request text t ∧
        CaseMode.ofJson (if request.case.isVoid then service.case else request.case) = .ok mode ∧
        answer = romanized request text ⟨t, mode⟩ := by
  rcases selects_or_plain_or_strays c request text with ⟨t, ht⟩ | plain | strays
  · cases hm : CaseMode.ofJson (if request.case.isVoid then service.case else request.case) with
    | ok mode =>
      cases h.symm.trans (answer_of_table hp ht.tableFor_eq hm)
      exact .inr ⟨t, mode, ht, rfl, rfl⟩
    | error e =>
      unfold Service.answer at h
      simp only [hp, ht.tableFor_eq, hm] at h
      cases h
  · cases h.symm.trans (answer_of_plain hp plain)
    exact .inl rfl
  · obtain ⟨asked, he⟩ := answer_of_strays hp strays
    cases h.symm.trans he

/-- A request fails only for want of the table that it calls for. A request without names whose text has no
letter but Latin ones gets the prepared text as it is, and every other one what the romanizer of its table
makes of it. -/
theorem answer_routed {service : Service} {mode : CaseMode}
    (hm : CaseMode.ofJson (if request.case.isVoid then service.case else request.case) = .ok mode) :
    let text := Text.tidy (request.text.getD []) service.composes
    ((∃ e, service.answer c request = .error e) ↔ Strays c request text) ∧
      (∀ e, service.answer c request = .error e → ∃ asked, e = .unknownName asked) ∧
      (∀ a, service.answer c request = .ok a → (a.vernacular = false ↔ Plain request text)) ∧
      (Plain request text →
        service.answer c request = .ok ⟨request.text, text, text.scripts, false, none, []⟩) ∧
      (¬ Strays c request text → ¬ Plain request text → ∃ t, Selects c request text t) ∧
      ∀ t, Selects c request text t →
        service.answer c request = .ok
          { input := request.text
            output := Romanizer.transliterate ⟨t, mode⟩ (some text) .usual
            scripts := text.scripts
            vernacular := true
            table := some t.name
            clusters := if request.clusters then Romanizer.clusters ⟨t, mode⟩ (some text) else [] } := by
  intro text
  have of_selects : ∀ t, Selects c request text t →
      service.answer c request = .ok (romanized request text ⟨t, mode⟩) :=
    fun t ht => answer_of_table rfl ht.tableFor_eq hm
  refine ⟨⟨?_, ?_⟩, ?_, ?_, answer_of_plain rfl, ?_, ?_⟩
  · rintro ⟨e, he⟩
    rcases selects_or_plain_or_strays c request text with ⟨t, ht⟩ | hp | hs
    · cases he.symm.trans (of_selects t ht)
    · cases he.symm.trans (answer_of_plain rfl hp)
    · exact hs
  · intro hs
    obtain ⟨asked, h⟩ := answer_of_strays rfl hs
    exact ⟨_, h⟩
  · intro e he
    rcases selects_or_plain_or_strays c request text with ⟨t, ht⟩ | hp | hs
    · cases he.symm.trans (of_selects t ht)
    · cases he.symm.trans (answer_of_plain rfl hp)
    · obtain ⟨asked, h⟩ := answer_of_strays rfl hs
      cases he.symm.trans h
      exact ⟨asked, rfl⟩
  · intro a ha
    rcases selects_or_plain_or_strays c request text with ⟨t, ht⟩ | hp | hs
    · cases ha.symm.trans (of_selects t ht)
      -- no request goes two ways, as one table is chosen for it at most
      refine ⟨nofun, fun hp => ?_⟩
      cases ht.tableFor_eq.symm.trans hp.tableFor_eq
    · cases ha.symm.trans (answer_of_plain rfl hp)
      exact ⟨fun _ => hp, fun _ => rfl⟩
    · obtain ⟨asked, h⟩ := answer_of_strays rfl hs
      cases ha.symm.trans h
  · intro hs hp
    rcases selects_or_plain_or_strays c request text with ht | h | h
    · exact ht
    · exact absurd h hp
    · exact absurd h hs
  · intro t ht
    rw [of_selects t ht, Romanizer.transliterate_eq_outcome]
    rfl

theorem answer_routed_reserved :
    ∃ (t : RuleTable) (c : Catalog), t.rules = [("a".codePoints, "b".codePoints)] ∧
      c.listings.keys = [Catalog.combinedName, "x".codePoints] ∧ c.combined = none ∧
      (∃ e, answer ⟨true, .string CaseMode.upper.name⟩ c
        ⟨some "a".codePoints, some " AUTO".codePoints, none, .null, true⟩ = .error e) ∧
      ∃ a, answer ⟨true, .string CaseMode.upper.name⟩ c
          ⟨some " a д".codePoints, some [], some "Y ".codePoints, .null, false⟩ = .ok a ∧
        a.output = "B Д".codePoints ∧ a.vernacular = true := by
  let t : RuleTable := ⟨[], [("a".codePoints, "b".codePoints)], by decide⟩
  let c : Catalog := ⟨[(Catalog.combinedName, ⟨t, .builtIn⟩), ("x".codePoints, ⟨t, .builtIn⟩)],
    [("y".codePoints, "x".codePoints)], none⟩
  have routed := fun request : Request =>
    @answer_routed c request ⟨true, .string CaseMode.upper.name⟩ .upper
  refine ⟨t, c, rfl, rfl, rfl, ?_, ?_⟩
  · have reserved : key (some " AUTO".codePoints) = Catalog.combinedName := by decide
    refine (routed _ rfl).1.2 (.script rfl fun _ names => ?_)
    cases (Catalog.names_of_reserved reserved).1 names
  · have names := @Catalog.Names.listed c (some "x".codePoints) ⟨t, .builtIn⟩ (by decide) rfl
    obtain ⟨-, -, -, -, -, selected⟩ :=
      routed ⟨some " a д".codePoints, some [], some "Y ".codePoints, .null, false⟩ rfl
    exact ⟨_, selected t (.language (by decide) rfl rfl names), by decide, rfl⟩

end Service

end Romanization
