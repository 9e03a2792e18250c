import Romanization.Proofs.Catalog.Origins
import Romanization.Proofs.RuleTable.Merge

namespace Romanization

open Catalog (Addition)

namespace Json

theorem mapM_string?_eq_some_iff {items : List Json} {ts : List Text} :
    items.mapM string? = some ts ↔ items = ts.map .string := by
  induction items generalizing ts with
  | nil => cases ts <;> simp
  | cons v items ih =>
    cases v with
    | string t =>
      simp only [List.mapM_cons, string?, Option.pure_def, Option.bind_eq_bind, Option.bind_some,
        Option.bind_eq_some_iff, ih, Option.some.injEq]
      constructor
      · rintro ⟨ts, rfl, rfl⟩
        rfl
      · intro h
        cases ts with
        | nil => cases h
        | cons u ts =>
          obtain ⟨ht, rfl⟩ := List.cons.inj h
          exact ⟨ts, rfl, by rw [Json.string.inj ht]⟩
    | _ => cases ts <;> simp [string?]

theorem strings?_eq_some_iff {v : Json} {ts : List Text} :
    v.strings? = some ts ↔ v = .array (ts.map .string) := by
  cases v with
  | array items => rw [strings?, mapM_string?_eq_some_iff, Json.array.injEq]
  | _ => simp [strings?]

end Json

namespace RuleFile

variable {path name : Text} {members : List (Text × Json)}

def ownName (name : Text) : Text := stem ((steps name).getLast?.getD [])

/-- The members of an object that is a rule file, and the scheme that it gives. Where the script or the
languages are void they count as left out. -/
structure Describes (name : Text) (members : List (Text × Json)) (s : Scheme) : Prop where
  script : (given? members "script" = none ∧ s.script = (ownName name).lower) ∨
    ∃ t, given? members "script" = some (.string t) ∧ s.script = t.lower
  languages : (given? members "languages" = none ∧ s.languages = []) ∨
    ∃ ts : List Text, given? members "languages" = some (.array (ts.map .string)) ∧
      s.languages = ts.map Text.lower
  rules : Json.member? members "rules".codePoints =
    some (.array (s.rules.map fun r => .array [.string r.1, .string r.2]))
  nonempty : [] ∉ Dictionary.keys s.rules
  distinct : (Dictionary.keys s.rules).Nodup

theorem givenScript_eq_ok_iff {script : Text} :
    givenScript path name members = .ok script ↔
      (given? members "script" = none ∧ script = ownName name) ∨
        given? members "script" = some (.string script) := by
  unfold givenScript
  cases given? members "script" with
  | none => simp [ownName, eq_comm]
  | some v => cases v <;> simp

theorem givenLanguages_eq_ok_iff {ts : List Text} :
    givenLanguages path members = .ok ts ↔
      (given? members "languages" = none ∧ ts = []) ∨
        given? members "languages" = some (.array (ts.map .string)) := by
  unfold givenLanguages
  cases given? members "languages" with
  | none => simp [eq_comm]
  | some v =>
    simp only [reduceCtorEq, false_and, false_or, Option.some.injEq, ← Json.strings?_eq_some_iff]
    cases v.strings? <;> simp

theorem pairs_eq_ok_iff {items : List Json} {rules : List (Json × Json)} :
    pairs path items = .ok rules ↔ items = rules.map fun r => .array [r.1, r.2] := by
  fun_induction pairs path items generalizing rules with
  | case1 => cases rules <;> simp
  | case2 a b items ih =>
    rw [bind_eq_ok_iff]
    constructor
    · rintro ⟨more, hm, hr⟩
      cases hr
      rw [List.map_cons, ← ih.1 hm]
    · intro h
      cases rules with
      | nil => cases h
      | cons r more =>
        obtain ⟨hr, hm⟩ := List.cons.inj h
        cases hr
        exact ⟨more, ih.2 hm, rfl⟩
  | case3 item items hne =>
    simp only [reduceCtorEq, false_iff]
    intro h
    cases rules with
    | nil => cases h
    | cons r more => exact hne _ _ (List.cons.inj h).1

theorem givenRules_eq_ok_iff {rules : List (Json × Json)} :
    givenRules path members = .ok rules ↔
      Json.member? members "rules".codePoints = some (.array (rules.map fun r => .array [r.1, r.2])) := by
  unfold givenRules
  split
  · next items h => rw [h, pairs_eq_ok_iff, Option.some.injEq, Json.array.injEq]
  · next h =>
    simp only [reduceCtorEq, false_iff]
    exact h _

theorem ofJson_eq_ok_iff {v : Json} {file : RuleFile} :
    ofJson path name v = .ok file ↔ ∃ members script languages rules, v = .object members ∧
      givenScript path name members = .ok script ∧ givenLanguages path members = .ok languages ∧
      givenRules path members = .ok rules ∧ file = ⟨script.lower, languages.map Text.lower, rules⟩ := by
  cases v with
  | object members =>
    simp only [ofJson, bind_eq_ok_iff, Json.object.injEq]
    constructor
    · rintro ⟨script, hs, languages, hl, rules, hr, hf⟩
      exact ⟨members, script, languages, rules, rfl, hs, hl, hr, (Except.ok.inj hf).symm⟩
    · rintro ⟨_, script, languages, rules, rfl, hs, hl, hr, rfl⟩
      exact ⟨script, hs, languages, hl, rules, hr, rfl⟩
  | _ => simp [ofJson]

theorem decode_eq_ok_iff {entry : Entry} {v : Json} :
    decode path (some entry) = .ok v ↔ ∃ bytes t, entry = .file bytes ∧ Utf8.decode? bytes = some t ∧
      Json.read maxDepth t = .ok v := by
  cases entry with
  | folder => simp [decode]
  | file bytes =>
    simp only [decode, Entry.file.injEq]
    cases hd : Utf8.decode? bytes with
    | none => simp [hd]
    | some t =>
      simp only
      cases hr : Json.read maxDepth t with
      | ok w => simp [hd, hr]
      | error e => cases e <;> simp [hd, hr]

end RuleFile

inductive Entry.Gives (name : Text) : Entry → Scheme → Prop
  | file {bytes t members s} : Utf8.decode? bytes = some t →
      Json.read RuleFile.maxDepth t = .ok (.object members) → RuleFile.Describes name members s →
      Gives name (.file bytes) s

def RulesFolder.addition (folder : RulesFolder) (e : Text × Entry) : Except Error Addition :=
  folder.fileAt e.1 (some e.2) >>= FileRead.addition

namespace RulesFolder

variable {folder : RulesFolder} {e : Text × Entry} {a : Addition}

theorem addition_eq_ok_iff_load :
    folder.addition e = .ok a ↔ ∃ file, RuleFile.load (folder.pathOf e.1) e.1 (some e.2) = .ok file ∧
      RuleTable.ofParts file.script file.rules = .ok a.table ∧ a.source = .file (folder.pathOf e.1) ∧
      a.languages = file.languages := by
  simp only [addition, bind_eq_ok_iff, fileAt, map_eq_ok_iff, FileRead.addition]
  constructor
  · rintro ⟨_, ⟨file, hf, rfl⟩, t, ht, rfl⟩
    exact ⟨file, hf, ht, rfl, rfl⟩
  · rintro ⟨file, hf, ht, hs, hl⟩
    refine ⟨_, ⟨file, hf, rfl⟩, a.table, ht, ?_⟩
    obtain ⟨table, source, languages⟩ := a
    simp only at hs hl
    rw [hs, hl]

theorem gives_of_addition (h : folder.addition e = .ok a) : e.2.Gives e.1 a.scheme := by
  obtain ⟨name, entry⟩ := e
  obtain ⟨file, hload, htable, -, hlanguages⟩ := addition_eq_ok_iff_load.1 h
  obtain ⟨v, hd, hv⟩ := bind_eq_ok_iff.1 hload
  obtain ⟨bytes, t, rfl, ht, hr⟩ := RuleFile.decode_eq_ok_iff.1 hd
  obtain ⟨members, script, languages, rules, rfl, hs, hl, hrules, rfl⟩ := RuleFile.ofJson_eq_ok_iff.1 hv
  obtain ⟨hname, hparts, hproper⟩ := RuleTable.ofParts_eq_ok_iff.1 htable
  refine .file ht hr ⟨?_, ?_, ?_, hproper, a.table.distinct⟩
  · refine (RuleFile.givenScript_eq_ok_iff.1 hs).imp ?_ ?_
    · rintro ⟨hg, rfl⟩
      exact ⟨hg, hname⟩
    · exact fun hg => ⟨script, hg, hname⟩
  · refine (RuleFile.givenLanguages_eq_ok_iff.1 hl).imp ?_ ?_
    · rintro ⟨hg, rfl⟩
      exact ⟨hg, hlanguages⟩
    · exact fun hg => ⟨languages, hg, hlanguages⟩
  · have := RuleFile.givenRules_eq_ok_iff.1 hrules
    rwa [show rules = _ from hparts, List.map_map] at this

theorem addition_of_gives (folder : RulesFolder) {s : Scheme} (h : e.2.Gives e.1 s) :
    ∃ a, folder.addition e = .ok a ∧ a.scheme = s := by
  obtain ⟨name, entry⟩ := e
  cases h with
  | @file bytes t members s ht hr h =>
    have hscript : ∃ script, RuleFile.givenScript (folder.pathOf name) name members = .ok script ∧
        s.script = script.lower := by
      simp only [RuleFile.givenScript_eq_ok_iff]
      rcases h.script with ⟨hg, hs⟩ | ⟨t, hg, hs⟩
      · exact ⟨_, .inl ⟨hg, rfl⟩, hs⟩
      · exact ⟨t, .inr hg, hs⟩
    have hlanguages : ∃ languages, RuleFile.givenLanguages (folder.pathOf name) members = .ok languages ∧
        s.languages = languages.map Text.lower := by
      simp only [RuleFile.givenLanguages_eq_ok_iff]
      rcases h.languages with ⟨hg, hs⟩ | ⟨ts, hg, hs⟩
      · exact ⟨[], .inl ⟨hg, rfl⟩, hs⟩
      · exact ⟨ts, .inr hg, hs⟩
    obtain ⟨script, hs, hscript⟩ := hscript
    obtain ⟨languages, hl, hlanguages⟩ := hlanguages
    have hrules : RuleFile.givenRules (folder.pathOf name) members =
        .ok (s.rules.map fun r => (.string r.1, .string r.2)) := by
      rw [RuleFile.givenRules_eq_ok_iff, h.rules, List.map_map]
      rfl
    have hload : RuleFile.load (folder.pathOf name) name (some (.file bytes)) =
        .ok ⟨script.lower, languages.map Text.lower, s.rules.map fun r => (.string r.1, .string r.2)⟩ :=
      bind_eq_ok_iff.2 ⟨_, RuleFile.decode_eq_ok_iff.2 ⟨bytes, t, rfl, ht, hr⟩,
        RuleFile.ofJson_eq_ok_iff.2 ⟨members, script, languages, _, rfl, hs, hl, hrules, rfl⟩⟩
    refine ⟨⟨⟨s.script, s.rules, h.distinct⟩, .file (folder.pathOf name), s.languages⟩, ?_, rfl⟩
    exact addition_eq_ok_iff_load.2 ⟨_, hload, RuleTable.ofParts_eq_ok_iff.2 ⟨hscript, rfl, h.nonempty⟩,
      rfl, hlanguages⟩

end RulesFolder

/-! Errors that have a code. Numbers too long and values nested too deep are told without one. -/

/-- Whatever file is no JSON value is malformed, and not too big to be read. -/
def Entry.FailsPlainly (entry : Entry) : Prop :=
  ∀ bytes t o, entry = .file bytes → Utf8.decode? bytes = some t →
    Json.read RuleFile.maxDepth t = .error o → o = .malformed

def RulesFolder.FailsPlainly (folder : RulesFolder) : Prop :=
  ∀ name entry, folder.HasFile name entry → entry.FailsPlainly

theorem Entry.failsPlainly_of_decode (path : Text) {entry : Entry}
    (h : (RuleFile.decode path (some entry)).toBool) : entry.FailsPlainly := by
  obtain ⟨v, hv⟩ := exists_eq_ok h
  obtain ⟨bytes, t, rfl, ht, hr⟩ := RuleFile.decode_eq_ok_iff.1 hv
  intro _ _ o he ht' ho
  cases he
  cases ht.symm.trans ht'
  cases hr.symm.trans ho

theorem RulesFolder.failsPlainly_of_decode {folder : RulesFolder} {entries : Dictionary Entry}
    (hp : folder.place = .folder entries)
    (h : (ruleEntries entries).all fun e => (RuleFile.decode [] (some e.2)).toBool) :
    folder.FailsPlainly := by
  rintro name entry ⟨_, hp', hfile⟩
  cases hp.symm.trans hp'
  have he : (name, entry) ∈ ruleEntries entries := mem_ruleEntries.2 hfile
  exact Entry.failsPlainly_of_decode [] (List.all_eq_true.1 h _ he)

inductive RuleTable.Bad (name : Text) : Error → Prop
  | malformed (item : Json) : Bad name (.malformedRule item)
  | pattern (v : Json) : Bad name (.badPattern v)
  | fragment (p : Text) (v : Json) : Bad name (.badFragment p v)
  | duplicate (p : Text) : Bad name (.duplicatePattern p name)

inductive RuleFile.Bad (path : Text) : Error → Prop
  | unreadable (fault : ReadFault) : Bad path (.unreadable path fault)
  | not_an_object : Bad path (.notAnObject path)
  | script_not_text : Bad path (.scriptNotText path)
  | languages_not_texts : Bad path (.languagesNotTexts path)
  | rules_not_list : Bad path (.rulesNotList path)
  | bad_rule (item : Json) : Bad path (.badFileRule path item)

inductive RuleFile.TooBig : Error → Prop
  | integer (digits : Nat) : TooBig (.longInteger digits)
  | nesting : TooBig .deepNesting

theorem RuleTable.Bad.code? {name : Text} {e : Error} (h : Bad name e) : e.code?.isSome := by
  cases h <;> rfl

theorem RuleFile.Bad.code?_eq {path : Text} {e : Error} (h : Bad path e) :
    e.code? = some "rule_source".codePoints := by
  cases h <;> rfl

theorem RuleFile.Bad.code? {path : Text} {e : Error} (h : Bad path e) : e.code?.isSome := by
  rw [h.code?_eq]
  rfl

theorem RuleTable.bad_of_ofParts_eq_error {name : Text} {parts : List (Json × Json)} {e : Error}
    (h : ofParts name parts = .error e) : Bad name e := by
  obtain ⟨before, item, after, rules, -, -, hitem | ⟨r, -, -, rfl⟩⟩ :=
    exists_of_gather_eq_error (build_eq_error_iff.1 h)
  · unfold Rule.ofParts at hitem
    split at hitem <;> cases hitem <;> constructor
  · exact .duplicate r.1

namespace RuleFile

variable {path name : Text} {e : Error}

theorem bad_of_decode_eq_error {entry : Entry} (h : decode path (some entry) = .error e) :
    Bad path e ∨ TooBig e ∧ ¬ entry.FailsPlainly := by
  cases entry with
  | folder =>
    cases h
    exact .inl (.unreadable .folder)
  | file bytes =>
    unfold decode at h
    cases ht : Utf8.decode? bytes with
    | none =>
      simp only [ht] at h
      cases h
      exact .inl (.unreadable .notUtf8)
    | some t =>
      simp only [ht] at h
      cases hr : Json.read maxDepth t with
      | ok v => simp [hr] at h
      | error o =>
        have hplain : o ≠ .malformed → ¬ Entry.FailsPlainly (.file bytes) :=
          fun hne hf => hne (hf bytes t o rfl ht hr)
        simp only [hr] at h
        cases o with
        | malformed =>
          cases h
          exact .inl (.unreadable .notJson)
        | longInteger digits =>
          cases h
          exact .inr ⟨.integer digits, hplain nofun⟩
        | deepNesting =>
          cases h
          exact .inr ⟨.nesting, hplain nofun⟩

theorem bad_of_pairs_eq_error {items : List Json} (h : pairs path items = .error e) : Bad path e := by
  fun_induction pairs path items with
  | case1 => cases h
  | case2 a b items ih =>
    rcases bind_eq_error_iff.1 h with h | ⟨_, -, h⟩
    · exact ih h
    · cases h
  | case3 item items hne =>
    cases h
    exact .bad_rule item

theorem bad_of_ofJson_eq_error {v : Json} (h : ofJson path name v = .error e) : Bad path e := by
  cases v with
  | object members =>
    simp only [ofJson, bind_eq_error_iff] at h
    rcases h with h | ⟨script, -, h | ⟨languages, -, h | ⟨rules, -, h⟩⟩⟩
    · unfold givenScript at h
      split at h <;> cases h
      exact .script_not_text
    · unfold givenLanguages at h
      split at h
      · cases h
      · split at h <;> cases h
        exact .languages_not_texts
    · unfold givenRules at h
      split at h
      · exact bad_of_pairs_eq_error h
      · cases h
        exact .rules_not_list
    · cases h
  | _ =>
    cases h
    exact .not_an_object

end RuleFile

theorem RulesFolder.bad_of_addition_eq_error {folder : RulesFolder} {e : Text × Entry} {error : Error}
    (h : folder.addition e = .error error) :
    RuleFile.Bad (folder.pathOf e.1) error ∨ RuleFile.TooBig error ∧ ¬ e.2.FailsPlainly ∨
      ∃ file, RuleFile.load (folder.pathOf e.1) e.1 (some e.2) = .ok file ∧
        RuleTable.Bad file.script error := by
  rcases bind_eq_error_iff.1 h with h | ⟨_, hf, h⟩
  · rcases bind_eq_error_iff.1 (map_eq_error_iff.1 h) with h | ⟨v, -, h⟩
    · exact (RuleFile.bad_of_decode_eq_error h).imp_right .inl
    · exact .inl (RuleFile.bad_of_ofJson_eq_error h)
  · obtain ⟨file, hload, rfl⟩ := map_eq_ok_iff.1 hf
    exact .inr (.inr ⟨file, hload, RuleTable.bad_of_ofParts_eq_error (map_eq_error_iff.1 h)⟩)

theorem RulesFolder.code?_of_addition_eq_error {folder : RulesFolder} {e : Text × Entry} {error : Error}
    (hf : e.2.FailsPlainly) (h : folder.addition e = .error error) : error.code?.isSome := by
  rcases bad_of_addition_eq_error h with h | ⟨-, hn⟩ | ⟨file, -, h⟩
  · exact h.code?
  · exact absurd hf hn
  · exact h.code?

end Romanization
