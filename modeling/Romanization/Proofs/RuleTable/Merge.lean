import Mathlib.Data.List.Nodup
import Romanization.Proofs.RuleTable.Built

namespace Romanization

theorem exists_pair_of_count_flatMap {α β : Type} [BEq β] [LawfulBEq β] {f : α → List β} {b : β}
    {xs : List α} (hf : ∀ x ∈ xs, (f x).Nodup) (h : 2 ≤ (xs.flatMap f).count b) :
    ∃ x y, [x, y].Sublist xs ∧ b ∈ f x ∧ b ∈ f y := by
  induction xs with
  | nil => simp at h
  | cons a xs ih =>
    obtain ⟨ha, hxs⟩ := List.forall_mem_cons.1 hf
    have hone : (f a).count b ≤ 1 := List.nodup_iff_count_le_one.1 ha b
    rw [List.flatMap_cons, List.count_append] at h
    by_cases hmore : 2 ≤ (xs.flatMap f).count b
    · obtain ⟨x, y, hs, hx, hy⟩ := ih hxs hmore
      exact ⟨x, y, hs.cons a, hx, hy⟩
    · -- then it stands once in the first list and once after it
      have hfirst : b ∈ f a := List.count_pos_iff.1 (by omega)
      have hrest : b ∈ xs.flatMap f := List.count_pos_iff.1 (by omega)
      obtain ⟨y, hm, hy⟩ := List.mem_flatMap.1 hrest
      exact ⟨a, y, (List.singleton_sublist.2 hm).cons_cons a, hfirst, hy⟩

theorem Rule.eq_of_ofParts {r s : Rule} (h : ofParts (.string r.1, .string r.2) = .ok s) : r = s := by
  obtain ⟨hp, hf⟩ := Prod.mk.inj (ofParts_eq_ok h).2
  exact Prod.ext (Json.string.inj hp) (Json.string.inj hf)

theorem Rule.ofParts_eq_ok_iff {parts : Json × Json} {r : Rule} :
    ofParts parts = .ok r ↔ r.1 ≠ [] ∧ parts = (.string r.1, .string r.2) := by
  constructor
  · exact ofParts_eq_ok
  · rintro ⟨hne, rfl⟩
    obtain ⟨pattern, fragment⟩ := r
    cases pattern with
    | nil => exact absurd rfl hne
    | cons c pattern => rfl

namespace RuleTable

variable {α : Type} {read : α → Except Error Rule} {name : Text}

def Stops (read : α → Except Error Rule) (name : Text) (taken : List Text) (item : α) (e : Error) : Prop :=
  read item = .error e ∨ ∃ r, read item = .ok r ∧ r.1 ∈ taken ∧ e = .duplicatePattern r.1 name

theorem exists_of_gather_eq_error {items : List α} {taken : List Text} {e : Error}
    (h : gather read name taken items = .error e) :
    ∃ (before : List α) (item : α) (after : List α) (rules : Dictionary Text),
      items = before ++ item :: after ∧ gather read name taken before = .ok rules ∧
        Stops read name (rules.keys.reverse ++ taken) item e := by
  induction items generalizing taken with
  | nil => cases h
  | cons item items ih =>
    rw [gather] at h
    cases hr : read item with
    | error d =>
      rw [hr] at h
      cases h
      exact ⟨[], item, items, [], rfl, rfl, .inl hr⟩
    | ok r =>
      simp only [hr, List.contains_iff_mem] at h
      by_cases ht : r.1 ∈ taken
      · rw [if_pos ht] at h
        cases h
        exact ⟨[], item, items, [], rfl, rfl, .inr ⟨r, hr, ht, rfl⟩⟩
      · rw [if_neg ht] at h
        obtain ⟨before, item', after, rules, rfl, hb, hstop⟩ := ih (map_eq_error_iff.1 h)
        have hg : gather read name taken (item :: before) = .ok (r :: rules) :=
          gather_cons_eq_ok_iff.2 ⟨r, rules, rfl, hr, ht, hb⟩
        refine ⟨item :: before, item', after, r :: rules, rfl, hg, ?_⟩
        rwa [Dictionary.keys_cons, List.reverse_cons, List.append_assoc]

theorem build_eq_error_iff {items : List α} {e : Error} :
    build read name items = .error e ↔ gather read name [] items = .error e := by
  unfold build
  split
  · next h => simp [h]
  · next h => simp [h]

theorem ofParts_eq_ok_iff {parts : List (Json × Json)} {t : RuleTable} :
    ofParts name parts = .ok t ↔
      t.name = name ∧ parts = t.rules.map (fun r => (.string r.1, .string r.2)) ∧ t.Proper := by
  constructor
  · intro h
    obtain ⟨hn, hp⟩ := parts_of_ofParts h
    exact ⟨hn, hp, proper_of_ofParts h⟩
  · rintro ⟨hn, rfl, hp⟩
    refine build_eq_ok_iff.2 ⟨hn, gather_eq_ok_iff.2 ⟨?_, t.distinct, by simp⟩⟩
    rw [List.map_map]
    refine List.map_congr_left fun r hr => ?_
    refine Rule.ofParts_eq_ok_iff.2 ⟨?_, rfl⟩
    rintro he
    exact hp (Dictionary.mem_keys.2 ⟨r.2, he ▸ hr⟩)

section Merge

variable {tables : List RuleTable}

theorem keys_flatMap_rules (tables : List RuleTable) :
    Dictionary.keys (tables.flatMap rules) = tables.flatMap patterns := by
  rw [Dictionary.keys, List.map_flatMap]
  rfl

theorem merge_eq_error (h : ∀ t ∈ tables, t.Proper) {e : Error} (he : merge name tables = .error e) :
    ∃ p t u, [t, u].Sublist tables ∧ p ∈ t.patterns ∧ p ∈ u.patterns ∧ e = .duplicatePattern p name := by
  obtain ⟨before, item, after, rules, hi, hb, hstop⟩ :=
    exists_of_gather_eq_error (build_eq_error_iff.1 he)
  -- the rules come of tables, so each of them can be read
  have hread : ∀ r ∈ tables.flatMap RuleTable.rules,
      Rule.ofParts (.string r.1, .string r.2) = .ok r := by
    intro r hr
    obtain ⟨t, ht, hrt⟩ := List.mem_flatMap.1 hr
    refine Rule.ofParts_eq_ok_iff.2 ⟨?_, rfl⟩
    intro hp
    exact h t ht (Dictionary.mem_keys.2 ⟨r.2, hp ▸ hrt⟩)
  have hitem := hread item (by simp [hi])
  rcases hstop with hstop | ⟨r, hr, htaken, rfl⟩
  · cases hitem.symm.trans hstop
  · obtain rfl : item = r := Rule.eq_of_ofParts hr
    have hrules : before = rules.map id :=
      eq_map_of_map_eq_ok (fun _ _ => Rule.eq_of_ofParts) (gather_eq_ok_iff.1 hb).1
    obtain rfl : before = rules := by rw [hrules, List.map_id]
    have hp : item.1 ∈ Dictionary.keys before := by simpa using htaken
    have hcount : 2 ≤ (tables.flatMap patterns).count item.1 := by
      rw [← keys_flatMap_rules, hi, Dictionary.keys_append, Dictionary.keys_cons, List.count_append,
        List.count_cons_self]
      have := List.count_pos_iff.2 hp
      omega
    obtain ⟨t, u, hs, ht, hu⟩ := exists_pair_of_count_flatMap (fun t _ => t.distinct) hcount
    exact ⟨item.1, t, u, hs, ht, hu, rfl⟩

theorem merge_succeeds_iff (h : ∀ t ∈ tables, t.Proper) :
    (∃ t, merge name tables = .ok t) ↔ tables.Pairwise fun t u => t.patterns.Disjoint u.patterns := by
  constructor
  · rintro ⟨t, ht⟩
    have hn : (tables.flatMap patterns).Nodup := by
      rw [← keys_flatMap_rules, ← (rules_of_ofRules ht).2]
      exact t.distinct
    exact (List.nodup_flatMap.1 hn).2
  · intro hd
    cases hm : merge name tables with
    | ok t => exact ⟨t, rfl⟩
    | error e =>
      obtain ⟨p, t, u, hs, ht, hu, -⟩ := merge_eq_error h hm
      have hpair := hd.sublist hs
      exact absurd hu (List.pairwise_pair.1 hpair ht)

end Merge

end RuleTable

end Romanization
