import Romanization.Proofs.Outcome
import Romanization.Proofs.RuleTable.Segmentation
import Romanization.RuleTable.Key
import Romanization.RuleTable.Unchecked

namespace Romanization

theorem Rule.ofParts_eq_ok {parts : Json × Json} {r : Rule}
    (h : Rule.ofParts parts = .ok r) : r.1 ≠ [] ∧ parts = (.string r.1, .string r.2) := by
  unfold Rule.ofParts at h
  split at h <;> cases h
  next hne => exact ⟨fun hp => hne (by simpa using hp), rfl⟩

namespace RuleTable

variable {α : Type} {read : α → Except Error Rule} {name : Text}

theorem gather_cons_eq_ok_iff {item : α} {items : List α} {taken : List Text}
    {rules : Dictionary Text} :
    gather read name taken (item :: items) = .ok rules ↔
      ∃ r more, rules = r :: more ∧ read item = .ok r ∧ r.1 ∉ taken ∧
        gather read name (r.1 :: taken) items = .ok more := by
  rw [gather]
  cases read item with
  | error e => simp
  | ok r =>
    by_cases hr : r.1 ∈ taken
    · simp only [List.contains_iff_mem, hr, if_true, Except.ok.injEq, reduceCtorEq, false_iff]
      rintro ⟨_, _, _, rfl, ht, _⟩
      exact ht hr
    · simp only [List.contains_iff_mem, hr, if_false, Except.ok.injEq]
      cases h : gather read name (r.1 :: taken) items with
      | error e =>
        simp only [Except.map, reduceCtorEq, false_iff]
        rintro ⟨_, _, _, rfl, _, hm⟩
        rw [h] at hm
        cases hm
      | ok more =>
        simp only [Except.map, Except.ok.injEq]
        constructor
        · rintro rfl
          exact ⟨r, more, rfl, rfl, hr, h⟩
        · rintro ⟨_, _, rfl, rfl, _, hm⟩
          rw [h] at hm
          cases hm
          rfl

theorem gather_eq_ok_iff {items : List α} {taken : List Text} {rules : Dictionary Text} :
    gather read name taken items = .ok rules ↔
      items.map read = rules.map .ok ∧ rules.keys.Nodup ∧ ∀ p ∈ rules.keys, p ∉ taken := by
  induction items generalizing taken rules with
  | nil => cases rules <;> simp [gather]
  | cons item items ih =>
    simp only [gather_cons_eq_ok_iff, ih, List.mem_cons, not_or]
    constructor
    · rintro ⟨r, more, rfl, hr, ht, hm, hn, hd⟩
      refine ⟨by simp [hr, hm], List.nodup_cons.2 ⟨fun h => (hd _ h).1 rfl, hn⟩, ?_⟩
      exact List.forall_mem_cons.2 ⟨ht, fun p h => (hd p h).2⟩
    · rintro ⟨hm, hn, hd⟩
      cases rules with
      | nil => cases hm
      | cons r more =>
        obtain ⟨hr, hm⟩ := List.cons.inj hm
        obtain ⟨hne, hn⟩ := List.nodup_cons.1 hn
        obtain ⟨ht, hd⟩ := List.forall_mem_cons.1 hd
        exact ⟨r, more, rfl, hr, ht, hm, hn, fun p h => ⟨fun he => hne (he ▸ h), hd p h⟩⟩

theorem build_eq_ok_iff {items : List α} {t : RuleTable} :
    build read name items = .ok t ↔ t.name = name ∧ gather read name [] items = .ok t.rules := by
  obtain ⟨n, rules, distinct⟩ := t
  unfold build
  split
  · next h => simp [h]
  · next h => simp [h, eq_comm]

theorem exists_of_mem_build {items : List α} {t : RuleTable} (h : build read name items = .ok t)
    {r : Rule} (hr : r ∈ t.rules) : ∃ item ∈ items, read item = .ok r := by
  obtain ⟨-, hg⟩ := build_eq_ok_iff.1 h
  exact exists_of_map_eq_ok (gather_eq_ok_iff.1 hg).1 hr

theorem proper_of_build {items : List α}
    (hread : ∀ item r, read item = .ok r → r.1 ≠ []) {t : RuleTable}
    (h : build read name items = .ok t) : t.Proper := by
  intro hm
  obtain ⟨f, hf⟩ := Dictionary.mem_keys.1 hm
  obtain ⟨item, -, hi⟩ := exists_of_mem_build h hf
  exact hread item _ hi rfl

theorem ofRules_eq_ok {rules : Dictionary Text} (hd : rules.keys.Nodup) (he : [] ∉ rules.keys) :
    ofRules name rules = .ok ⟨name, rules, hd⟩ := by
  refine build_eq_ok_iff.2 ⟨rfl, gather_eq_ok_iff.2 ⟨?_, hd, by simp⟩⟩
  refine List.map_congr_left fun r hr => ?_
  obtain ⟨pattern, fragment⟩ := r
  cases pattern with
  | nil => exact absurd (Dictionary.mem_keys.2 ⟨fragment, hr⟩) he
  | cons c pattern => rfl

theorem parts_of_ofParts {parts : List (Json × Json)} {t : RuleTable} (h : ofParts name parts = .ok t) :
    t.name = name ∧ parts = t.rules.map fun r => (.string r.1, .string r.2) := by
  obtain ⟨hn, hg⟩ := build_eq_ok_iff.1 h
  exact ⟨hn, eq_map_of_map_eq_ok (fun _ _ hr => (Rule.ofParts_eq_ok hr).2) (gather_eq_ok_iff.1 hg).1⟩

theorem rules_of_ofRules {rules : Dictionary Text} {t : RuleTable} (h : ofRules name rules = .ok t) :
    t.name = name ∧ t.rules = rules := by
  obtain ⟨hn, hg⟩ := build_eq_ok_iff.1 h
  have hr : rules = t.rules.map id := by
    refine eq_map_of_map_eq_ok (fun r s hr => ?_) (gather_eq_ok_iff.1 hg).1
    obtain ⟨hp, hf⟩ := Prod.mk.inj (Rule.ofParts_eq_ok hr).2
    exact Prod.ext (Json.string.inj hp) (Json.string.inj hf)
  exact ⟨hn, by rw [hr, List.map_id]⟩

theorem ofRules_succeeds_iff {rules : Dictionary Text} :
    (∃ t, ofRules name rules = .ok t) ↔ rules.keys.Nodup ∧ [] ∉ rules.keys := by
  constructor
  · rintro ⟨t, ht⟩
    have hp : t.Proper := proper_of_build (fun _ _ hr => (Rule.ofParts_eq_ok hr).1) ht
    rw [← (rules_of_ofRules ht).2]
    exact ⟨t.distinct, hp⟩
  · rintro ⟨hd, he⟩
    exact ⟨_, ofRules_eq_ok hd he⟩

inductive Built : RuleTable → Prop
  | ofJson {name rules t} : RuleTable.ofJson name rules = .ok t → Built t
  | ofMapping {name entries t} : RuleTable.ofMapping name entries = .ok t → Built t
  | ofParts {name rules t} : RuleTable.ofParts name rules = .ok t → Built t
  | ofRules {name rules t} : RuleTable.ofRules name rules = .ok t → Built t
  | merge {name tables t} : Handed.merge name tables = .ok t → Built t

theorem proper_of_ofParts {rules : List (Json × Json)} {t : RuleTable}
    (h : ofParts name rules = .ok t) : t.Proper :=
  proper_of_build (fun _ _ hr => (Rule.ofParts_eq_ok hr).1) h

theorem Built.proper {t : RuleTable} (h : t.Built) : t.Proper := by
  cases h with
  | @ofJson name rules t h =>
    unfold RuleTable.ofJson at h
    cases hi : items rules with
    | error e => simp [hi, bind, Except.bind] at h
    | ok list =>
      simp only [hi, bind, Except.bind] at h
      refine proper_of_build (fun item r hr => ?_) h
      unfold Rule.ofJson at hr
      split at hr
      · cases hr
      · exact (Rule.ofParts_eq_ok hr).1
  | ofMapping h =>
    unfold RuleTable.ofMapping at h
    split at h
    · cases h
    · exact proper_of_ofParts h
  | ofParts h => exact proper_of_ofParts h
  | ofRules h => exact proper_of_build (fun _ _ hr => (Rule.ofParts_eq_ok hr).1) h
  | @merge name tables t h =>
    unfold Handed.merge at h
    cases hp : tables.mapM Handed.parts with
    | error e => simp [hp, bind, Except.bind] at h
    | ok parts =>
      simp only [hp, bind, Except.bind] at h
      exact proper_of_ofParts h

end Romanization.RuleTable
