import Mathlib.Data.List.TakeWhile
import Mathlib.Data.Set.List
import Romanization.Proofs.Catalog.RuleFile
import Romanization.Proofs.RuleTable.Offence

namespace Romanization

namespace Json

def field (v : Json) (key : String) : Json :=
  match v with
  | object members => (member? members key.codePoints).getD null
  | _ => null

theorem field_object (members : List (Text × Json)) (key : String) :
    (object members).field key = (member? members key.codePoints).getD null := rfl

theorem exists_array_iff {α : Type} (f : α → Json) {v : Json} :
    (∃ items, v = .array items ∧ ∀ item ∈ items, ∃ a, item = f a) ↔
      ∃ as : List α, v = .array (as.map f) := by
  have range (items : List Json) : (∃ as : List α, as.map f = items) ↔ ∀ item ∈ items, ∃ a, f a = item :=
    Set.ext_iff.1 (Set.range_list_map f) items
  constructor
  · rintro ⟨items, rfl, h⟩
    obtain ⟨as, rfl⟩ := (range items).2 fun item hi => (h item hi).imp fun _ => Eq.symm
    exact ⟨as, rfl⟩
  · rintro ⟨as, rfl⟩
    exact ⟨_, rfl, List.forall_mem_map.2 fun a _ => ⟨a, rfl⟩⟩

end Json

namespace RuleFile

variable {path name : Text} {members : List (Text × Json)} {v : Json} {file : RuleFile}

/-- A file name without its extension. A point with nothing before it, or nothing after it, starts none. -/
inductive IsStem : Text → Text → Prop
  | cut {start ending : Text} : start ≠ [] → ending ≠ [] → 0x2E ∉ ending →
      IsStem (start ++ 0x2E :: ending) start
  | whole {name : Text} : (∀ start ending, 0x2E ∉ ending → name = start ++ 0x2E :: ending →
      start = [] ∨ ending = []) → IsStem name name

theorem takeWhile_ne_point {s : Text} (h : 0x2E ∉ s) : s.takeWhile (· != 0x2E) = s :=
  List.takeWhile_eq_self_iff.2 fun _ hc => bne_iff_ne.2 fun he => h (he ▸ hc)

theorem stem_of_notMem (h : 0x2E ∉ name) : stem name = name := by
  simp [stem, takeWhile_ne_point fun hm => h (List.mem_reverse.1 hm)]

theorem stem_point (start : Text) {ending : Text} (h : 0x2E ∉ ending) :
    stem (start ++ 0x2E :: ending) =
      if start = [] ∨ ending = [] then start ++ 0x2E :: ending else start := by
  have hend : (start ++ 0x2E :: ending).reverse.takeWhile (· != 0x2E) = ending.reverse := by
    have hr : 0x2E ∉ ending.reverse := fun hm => h (List.mem_reverse.1 hm)
    rw [List.reverse_append, List.reverse_cons, List.append_assoc, List.takeWhile_append_of_pos]
    · simp
    · exact List.takeWhile_eq_self_iff.1 (takeWhile_ne_point hr)
  have hstart : (start ++ 0x2E :: ending).length - ending.reverse.length - 1 = start.length := by
    simp only [List.length_append, List.length_cons, List.length_reverse]
    omega
  simp only [stem, hend, hstart, List.take_left, Bool.or_eq_true, List.isEmpty_iff, List.reverse_eq_nil_iff]

theorem exists_last_point (h : 0x2E ∈ name) :
    ∃ start ending, name = start ++ 0x2E :: ending ∧ 0x2E ∉ ending := by
  obtain ⟨ending, start, hn, he⟩ := List.eq_append_cons_of_mem (List.mem_reverse.2 h)
  refine ⟨start.reverse, ending.reverse, ?_, by simpa using he⟩
  rw [← List.reverse_reverse name, hn]
  simp

theorem isStem_stem (name : Text) : IsStem name (stem name) := by
  by_cases hm : 0x2E ∈ name
  · obtain ⟨start, ending, rfl, he⟩ := exists_last_point hm
    rw [stem_point start he]
    split
    · next h =>
      refine .whole fun start' ending' he' heq => by_contra fun hne => ?_
      have hs := stem_point start he
      rw [if_pos h, heq, stem_point start' he', if_neg hne] at hs
      simp at hs
    · next h => exact .cut (fun hs => h (.inl hs)) (fun hn => h (.inr hn)) he
  · rw [stem_of_notMem hm]
    exact .whole fun start ending _ h => absurd (h ▸ by simp) hm

theorem IsStem.eq_stem {s : Text} (h : IsStem name s) : s = stem name := by
  cases h with
  | cut hs hn he => rw [stem_point s he, if_neg (not_or.2 ⟨hs, hn⟩)]
  | whole h =>
    by_cases hm : 0x2E ∈ name
    · obtain ⟨start, ending, rfl, he⟩ := exists_last_point hm
      rw [stem_point start he, if_pos (h start ending he rfl)]
    · exact (stem_of_notMem hm).symm

theorem isStem_iff {s : Text} : IsStem name s ↔ s = stem name :=
  ⟨IsStem.eq_stem, fun h => h ▸ isStem_stem name⟩

theorem given?_eq (members : List (Text × Json)) (key : String) :
    given? members key = if ((Json.object members).field key).isVoid then none
      else some ((Json.object members).field key) := by
  rw [given?, Json.field_object]
  cases Json.member? members key.codePoints with
  | none => rfl
  | some v => cases hv : v.isVoid <;> simp [hv]

/-- The values that are rule files. What the items of a rule are does not matter. -/
structure Shaped (v : Json) : Prop where
  object : ∃ members, v = .object members
  script : (v.field "script").isVoid ∨ ∃ t, v.field "script" = .string t
  languages : (v.field "languages").isVoid ∨
    ∃ items, v.field "languages" = .array items ∧ ∀ item ∈ items, ∃ t, item = .string t
  rules : ∃ items, v.field "rules" = .array items ∧ ∀ item ∈ items, ∃ a b, item = .array [a, b]

/-- What is kept of a value that is the rule file of that name. -/
structure Records (name : Text) (v : Json) (file : RuleFile) : Prop where
  object : ∃ members, v = .object members
  script : ∃ s, file.script = s.lower ∧
    if (v.field "script").isVoid then IsStem ((steps name).getLast?.getD []) s
    else v.field "script" = .string s
  languages : ∃ ts : List Text, file.languages = ts.map Text.lower ∧
    if (v.field "languages").isVoid then ts = [] else v.field "languages" = .array (ts.map .string)
  rules : v.field "rules" = .array (file.rules.map fun r => .array [r.1, r.2])

theorem givenScript_object {s : Text} :
    givenScript path name members = .ok s ↔
      if ((Json.object members).field "script").isVoid then IsStem ((steps name).getLast?.getD []) s
      else (Json.object members).field "script" = .string s := by
  rw [givenScript_eq_ok_iff, given?_eq]
  split <;> simp [isStem_iff, ownName]

theorem givenLanguages_object {ts : List Text} :
    givenLanguages path members = .ok ts ↔
      if ((Json.object members).field "languages").isVoid then ts = []
      else (Json.object members).field "languages" = .array (ts.map .string) := by
  rw [givenLanguages_eq_ok_iff, given?_eq]
  split <;> simp

theorem givenRules_object {rules : List (Json × Json)} :
    givenRules path members = .ok rules ↔
      (Json.object members).field "rules" = .array (rules.map fun r => .array [r.1, r.2]) := by
  rw [givenRules_eq_ok_iff, Json.field_object]
  cases Json.member? members "rules".codePoints <;> simp

theorem ofJson_eq_ok_iff_records : ofJson path name v = .ok file ↔ Records name v file := by
  rw [ofJson_eq_ok_iff]
  constructor
  · rintro ⟨members, script, languages, rules, rfl, hs, hl, hr, rfl⟩
    exact ⟨⟨members, rfl⟩, ⟨script, rfl, givenScript_object.1 hs⟩,
      ⟨languages, rfl, givenLanguages_object.1 hl⟩, givenRules_object.1 hr⟩
  · rintro ⟨⟨members, rfl⟩, ⟨script, hscript, hs⟩, ⟨languages, hlanguages, hl⟩, hr⟩
    refine ⟨members, script, languages, file.rules, rfl, givenScript_object.2 hs,
      givenLanguages_object.2 hl, givenRules_object.2 hr, ?_⟩
    rw [← hscript, ← hlanguages]

theorem exists_given_iff {α : Type} {void : Prop} [Decidable void] {p q : α → Prop} (h : ∃ a, p a) :
    (∃ a, if void then p a else q a) ↔ void ∨ ∃ a, q a := by
  by_cases hv : void <;> simp [hv, h]

theorem shaped_iff : Shaped v ↔ ∃ file, Records name v file := by
  constructor
  · rintro ⟨hobject, hscript, hlanguages, hrules⟩
    rw [Json.exists_array_iff] at hlanguages
    obtain ⟨script, hs⟩ := (exists_given_iff ⟨_, isStem_stem ((steps name).getLast?.getD [])⟩).2 hscript
    obtain ⟨languages, hl⟩ := (exists_given_iff exists_eq).2 hlanguages
    obtain ⟨rules, hr⟩ := (Json.exists_array_iff fun r : Json × Json => .array [r.1, r.2]).1
      (by simpa only [Prod.exists] using hrules)
    exact ⟨⟨script.lower, languages.map Text.lower, rules⟩, hobject, ⟨script, rfl, hs⟩,
      ⟨languages, rfl, hl⟩, hr⟩
  · rintro ⟨file, hobject, ⟨script, -, hs⟩, ⟨languages, -, hl⟩, hr⟩
    refine ⟨hobject, (exists_given_iff ⟨_, isStem_stem _⟩).1 ⟨script, hs⟩, ?_, _, hr,
      List.forall_mem_map.2 fun r _ => ⟨r.1, r.2, rfl⟩⟩
    rw [Json.exists_array_iff]
    exact (exists_given_iff exists_eq).1 ⟨languages, hl⟩

end RuleFile

inductive RuleTable.Objection (rules : List (Json × Json)) (name : Text) : Error → Prop
  | pattern {a b : Json} : (a, b) ∈ rules → (∀ p, a = .string p → p = []) →
      Objection rules name (.badPattern a)
  | fragment {p : Text} {b : Json} : (.string p, b) ∈ rules → (∀ f, b ≠ .string f) →
      Objection rules name (.badFragment p b)
  | repeated {p : Text} {b c : Json} : [(.string p, b), (.string p, c)].Sublist rules →
      Objection rules name (.duplicatePattern p name)

namespace RuleTable

variable {name : Text} {rules : List (Json × Json)} {e : Error}

theorem objection_of_ofParts_eq_error (h : ofParts name rules = .error e) : Objection rules name e := by
  obtain ⟨before, ⟨a, b⟩, after, earlier, rfl, hb, hitem | ⟨r, hr, hm, rfl⟩⟩ :=
    exists_of_gather_eq_error (build_eq_error_iff.1 h)
  · obtain ⟨ha, rfl⟩ | ⟨p, rfl, -, hb, rfl⟩ := Rule.ofParts_eq_error_iff.1 hitem
    · exact .pattern (b := b) (by simp) ha
    · exact .fragment (by simp) hb
  · obtain ⟨f, hf⟩ := Dictionary.mem_keys.1 (List.mem_reverse.1 (by simpa using hm))
    obtain ⟨first, hfirst, hread⟩ := exists_of_map_eq_ok (gather_eq_ok_iff.1 hb).1 hf
    rw [(Rule.ofParts_eq_ok_iff.1 hread).2] at hfirst
    rw [(Rule.ofParts_eq_ok_iff.1 hr).2]
    exact .repeated (c := .string r.2)
      ((List.singleton_sublist.2 hfirst).append (List.singleton_sublist.2 List.mem_cons_self))

theorem Objection.not_ofParts_eq_ok (h : Objection rules name e) (t : RuleTable) :
    ofParts name rules ≠ .ok t := by
  intro ht
  obtain ⟨-, rfl, hp⟩ := ofParts_eq_ok_iff.1 ht
  cases h with
  | pattern hm ha =>
    obtain ⟨r, hr, he⟩ := List.mem_map.1 hm
    cases he
    exact hp (Dictionary.mem_keys.2 ⟨r.2, ha _ rfl ▸ hr⟩)
  | fragment hm hf =>
    obtain ⟨r, -, he⟩ := List.mem_map.1 hm
    cases he
    exact hf _ rfl
  | repeated hs =>
    have hn : ((t.rules.keys).map Json.string).Nodup := t.distinct.map fun _ _ => Json.string.inj
    have hs := hs.map Prod.fst
    rw [List.map_map, show Prod.fst ∘ _ = Json.string ∘ Prod.fst from rfl, ← List.map_map] at hs
    simpa using hs.nodup hn

theorem ofParts_succeeds_iff : (∃ t, ofParts name rules = .ok t) ↔ ∀ e, ¬ Objection rules name e := by
  constructor
  · rintro ⟨t, ht⟩ e he
    exact he.not_ofParts_eq_ok t ht
  · intro h
    cases ht : ofParts name rules with
    | ok t => exact ⟨t, rfl⟩
    | error e => exact absurd (objection_of_ofParts_eq_error ht) (h e)

theorem ofJson_pairs : ofJson name (.array (rules.map fun r => .array [r.1, r.2])) = ofParts name rules := by
  rw [ofJson_of_items rfl, build_map]
  rfl

end RuleTable

namespace RuleFile

variable {path name : Text} {entry : Option Entry} {v : Json}

theorem load_of_decode (h : decode path entry = .ok v) : load path name entry = ofJson path name v := by
  rw [load, h]
  rfl

/-- A value is read as a rule file exactly if it has the shape of one, and then all of it is kept. Otherwise
it is an error of rule files. Building a table of what was read fails for patterns and fragments alone, also
where the items of the list are handed to the builder as they stand. -/
theorem loads_iff_shaped (h : decode path entry = .ok v) :
    ((∃ file, load path name entry = .ok file) ↔ Shaped v) ∧
      (¬ Shaped v → ∃ e, load path name entry = .error e ∧ Bad path e ∧
        e.code? = some "rule_source".codePoints) ∧
      ∀ file, load path name entry = .ok file → Records name v file ∧
        ∀ table, RuleTable.ofJson table (v.field "rules") = RuleTable.ofParts table file.rules ∧
          ((∃ t, RuleTable.ofParts table file.rules = .ok t) ↔
            ∀ e, ¬ RuleTable.Objection file.rules table e) ∧
          ∀ e, RuleTable.ofParts table file.rules = .error e → RuleTable.Objection file.rules table e := by
  rw [load_of_decode h]
  have shaped : (∃ file, ofJson path name v = .ok file) ↔ Shaped v := by
    simp only [ofJson_eq_ok_iff_records, @shaped_iff name]
  refine ⟨shaped, fun hn => ?_, fun file hfile => ?_⟩
  · cases hv : ofJson path name v with
    | ok file => exact absurd (shaped.1 ⟨file, hv⟩) hn
    | error e =>
      have hbad := bad_of_ofJson_eq_error hv
      exact ⟨e, rfl, hbad, hbad.code?_eq⟩
  · have hr := ofJson_eq_ok_iff_records.1 hfile
    refine ⟨hr, fun table => ⟨?_, RuleTable.ofParts_succeeds_iff, fun e =>
      RuleTable.objection_of_ofParts_eq_error⟩⟩
    rw [hr.rules, RuleTable.ofJson_pairs]

def sparse : Entry :=
  .file "\x7b\"script\": 0, \"languages\": [], \"rules\": [[\"a\", \"b\"], [\"c\", 1]]\x7d".codePoints

theorem loads_iff_shaped_sparse :
    ∃ v file, decode [] (some sparse) = .ok v ∧ Shaped v ∧ Records "Ab.C.json".codePoints v file ∧
      file.script = "ab.c".codePoints ∧ ∃ e, RuleTable.ofParts file.script file.rules = .error e ∧
        RuleTable.Objection file.rules file.script e := by
  obtain ⟨v, hv⟩ := exists_eq_ok (x := decode [] (some sparse)) (by decide +kernel)
  obtain ⟨file, hf, hs⟩ := exists_of_toOption_map_eq (x := load [] "Ab.C.json".codePoints (some sparse))
    (f := RuleFile.script) (b := "ab.c".codePoints) (by decide +kernel)
  obtain ⟨shaped, -, kept⟩ := @loads_iff_shaped [] "Ab.C.json".codePoints _ v hv
  obtain ⟨hr, tables⟩ := kept file hf
  obtain ⟨e, he⟩ := exists_eq_error (x := load [] "Ab.C.json".codePoints (some sparse) >>= fun file =>
    RuleTable.ofParts file.script file.rules) (by decide +kernel)
  rw [hf] at he
  obtain ⟨-, -, objects⟩ := tables file.script
  exact ⟨v, file, hv, shaped.1 ⟨file, hf⟩, hr, hs, e, he, objects e he⟩

end RuleFile

end Romanization
