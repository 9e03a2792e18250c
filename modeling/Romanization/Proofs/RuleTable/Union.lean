import Romanization.Proofs.RuleTable.Lookup
import Romanization.Proofs.RuleTable.Merge

namespace Romanization.RuleTable

/-- The longest of several results of look-up, no two of which are equally long. -/
structure IsLongestOf (results : List (Option Hit)) (result : Option Hit) : Prop where
  none_iff : result = none ↔ ∀ r ∈ results, r = none
  some_iff : ∀ hit, result = some hit ↔
    some hit ∈ results ∧ ∀ other, some other ∈ results → other.length ≤ hit.length
  untied : results.Pairwise fun r s => ∀ a b, r = some a → s = some b → a.length ≠ b.length

section Union

variable {t u : RuleTable} {tables : List RuleTable} {text : Text} {offset : Nat} {limit : Option Int}
  {hit other : Hit}

theorem IsLongest.of_subset {permitted : Nat → Prop} {p : Text} (h : t.IsLongest permitted text p)
    (hp : p ∈ u.patterns) (hu : u.patterns ⊆ t.patterns) : u.IsLongest permitted text p :=
  ⟨hp, h.start, h.fits, fun q hq => h.longest q (hu hq)⟩

theorem length_ne_of_disjoint (ho : offset ≤ text.length) (hd : t.patterns.Disjoint u.patterns)
    (ht : t.lookup text offset limit = some hit) (hu : u.lookup text offset limit = some other) :
    hit.length ≠ other.length := by
  obtain ⟨p, hp, -, hpl⟩ := (lookup_eq_some_iff ho).1 ht
  obtain ⟨q, hq, -, hql⟩ := (lookup_eq_some_iff ho).1 hu
  intro hl
  have hlen : p.length = q.length := by rw [hpl, hql, hl]
  have heq : p = q :=
    (List.prefix_of_prefix_length_le hp.start hq.start (Nat.le_of_eq hlen)).eq_of_length hlen
  exact hd hp.mem (heq ▸ hq.mem)

theorem length_le_of_subset (ho : offset ≤ text.length) (hs : u.patterns ⊆ t.patterns)
    (ht : t.lookup text offset limit = some hit) (hu : u.lookup text offset limit = some other) :
    other.length ≤ hit.length := by
  obtain ⟨p, hp, -, hpl⟩ := (lookup_eq_some_iff ho).1 ht
  obtain ⟨q, hq, -, hql⟩ := (lookup_eq_some_iff ho).1 hu
  rw [← hpl, ← hql]
  exact hp.longest q (hs hq.mem) hq.start hq.fits

variable (hr : t.rules = tables.flatMap rules)
include hr

theorem patterns_union : t.patterns = tables.flatMap patterns := by
  rw [patterns, hr, keys_flatMap_rules]

theorem patterns_subset_union (hu : u ∈ tables) : u.patterns ⊆ t.patterns := by
  intro p hp
  rw [patterns_union hr]
  exact List.mem_flatMap.2 ⟨u, hu, hp⟩

theorem maxPatternLength_union :
    t.maxPatternLength = greatest (tables.map maxPatternLength) := by
  rw [maxPatternLength_eq, patterns_union hr, List.map_flatMap, greatest_flatMap]
  exact congrArg greatest (List.map_congr_left fun u _ => (maxPatternLength_eq u).symm)

theorem maxFragmentLength_union :
    t.maxFragmentLength = greatest (tables.map maxFragmentLength) := by
  rw [maxFragmentLength_eq, hr, List.map_flatMap, greatest_flatMap]
  exact congrArg greatest (List.map_congr_left fun u _ => (maxFragmentLength_eq u).symm)

theorem lookup_union_eq_none_iff (ho : offset ≤ text.length) :
    t.lookup text offset limit = none ↔ ∀ u ∈ tables, u.lookup text offset limit = none := by
  simp only [lookup_eq_none_iff ho, patterns_union hr, List.mem_flatMap]
  constructor
  · exact fun h u hu p hp => h p ⟨u, hu, hp⟩
  · rintro h p ⟨u, hu, hp⟩
    exact h u hu p hp

/-- What the union finds is found by the table that the pattern is from. -/
theorem exists_of_lookup_union (ho : offset ≤ text.length) (h : t.lookup text offset limit = some hit) :
    ∃ u ∈ tables, u.lookup text offset limit = some hit := by
  obtain ⟨p, hp, hf, hl⟩ := (lookup_eq_some_iff ho).1 h
  rw [fragment?_eq_some_iff, hr] at hf
  obtain ⟨u, hu, hfu⟩ := List.mem_flatMap.1 hf
  have hpu : p ∈ u.patterns := Dictionary.mem_keys.2 ⟨_, hfu⟩
  refine ⟨u, hu, (lookup_eq_some_iff ho).2 ⟨p, ?_, fragment?_eq_some_iff.2 hfu, hl⟩⟩
  exact hp.of_subset hpu (patterns_subset_union hr hu)

theorem lookup_union_eq_some_iff (ho : offset ≤ text.length) :
    t.lookup text offset limit = some hit ↔
      (∃ u ∈ tables, u.lookup text offset limit = some hit) ∧
        ∀ other, (∃ u ∈ tables, u.lookup text offset limit = some other) → other.length ≤ hit.length := by
  constructor
  · intro h
    refine ⟨exists_of_lookup_union hr ho h, ?_⟩
    rintro other ⟨u, hu, hother⟩
    exact length_le_of_subset ho (patterns_subset_union hr hu) h hother
  · rintro ⟨⟨u, hu, hhit⟩, hle⟩
    obtain ⟨p, hp, hf, hl⟩ := (lookup_eq_some_iff ho).1 hhit
    rw [fragment?_eq_some_iff] at hf
    refine (lookup_eq_some_iff ho).2 ⟨p, ⟨patterns_subset_union hr hu hp.mem, hp.start, hp.fits, ?_⟩, ?_, hl⟩
    · intro q hq hs ha
      rw [patterns_union hr, List.mem_flatMap] at hq
      obtain ⟨v, hv, hqv⟩ := hq
      cases hother : v.lookup text offset limit with
      | none => exact absurd ha ((lookup_eq_none_iff ho).1 hother q hqv hs)
      | some other =>
        obtain ⟨p', hp', -, hl'⟩ := (lookup_eq_some_iff ho).1 hother
        calc q.length ≤ p'.length := hp'.longest q hqv hs ha
          _ = other.length := hl'
          _ ≤ hit.length := hle other ⟨v, hv, hother⟩
          _ = p.length := hl.symm
    · rw [fragment?_eq_some_iff, hr]
      exact List.mem_flatMap.2 ⟨u, hu, hf⟩

theorem isLongestOf_union (ho : offset ≤ text.length)
    (hd : tables.Pairwise fun t u => t.patterns.Disjoint u.patterns) :
    IsLongestOf (tables.map fun u => u.lookup text offset limit) (t.lookup text offset limit) where
  none_iff := by
    rw [lookup_union_eq_none_iff hr ho, List.forall_mem_map]
  some_iff hit := by
    simp only [lookup_union_eq_some_iff hr ho, List.mem_map]
  untied := by
    rw [List.pairwise_map]
    exact hd.imp fun hd a b => length_ne_of_disjoint ho hd

end Union

/-- Merging is the disjoint union: it succeeds exactly on disjoint tables, keeps their rules in order, and
finds the longest of what each of the tables finds. -/
theorem merge_disjoint_union (name : Text) {tables : List RuleTable} (built : ∀ t ∈ tables, t.Built) :
    ((∃ t, merge name tables = .ok t) ↔ tables.Pairwise fun t u => t.patterns.Disjoint u.patterns) ∧
      (∀ e, merge name tables = .error e →
        ∃ p t u, [t, u].Sublist tables ∧ p ∈ t.patterns ∧ p ∈ u.patterns ∧ e = .duplicatePattern p name) ∧
      ∀ t, merge name tables = .ok t →
        t.name = name ∧ t.rules = tables.flatMap rules ∧
          t.maxPatternLength = greatest (tables.map maxPatternLength) ∧
          t.maxFragmentLength = greatest (tables.map maxFragmentLength) ∧
          ∀ (text : Text) (offset : Nat) (limit : Option Int), offset ≤ text.length →
            IsLongestOf (tables.map fun u => u.lookup text offset limit) (t.lookup text offset limit) := by
  have hp : ∀ t ∈ tables, t.Proper := fun t ht => (built t ht).proper
  refine ⟨merge_succeeds_iff hp, fun e => merge_eq_error hp, fun t ht => ?_⟩
  obtain ⟨hn, hr⟩ := rules_of_ofRules ht
  refine ⟨hn, hr, maxPatternLength_union hr, maxFragmentLength_union hr, fun text offset limit ho => ?_⟩
  exact isLongestOf_union hr ho ((merge_succeeds_iff hp).1 ⟨t, ht⟩)

theorem merge_disjoint_union_silent :
    ∃ left right t, ofRules [] [("a".codePoints, "1".codePoints), ("abc".codePoints, "3".codePoints)] = .ok left ∧
      ofRules [] [("ab".codePoints, [])] = .ok right ∧ merge [] [left, right] = .ok t ∧
      t.maxPatternLength = 3 ∧ t.lookup "xabd".codePoints 1 none = some ⟨2, []⟩ ∧
      IsLongestOf [some ⟨1, "1".codePoints⟩, some ⟨2, []⟩] (t.lookup "xabd".codePoints 1 none) ∧
      IsLongestOf [some ⟨1, "1".codePoints⟩, none] (t.lookup "xabd".codePoints 1 (some 1)) ∧
      ¬ ∃ twice, merge [] [left, left] = .ok twice := by
  let left : RuleTable := ⟨[], [("a".codePoints, "1".codePoints), ("abc".codePoints, "3".codePoints)], by decide⟩
  let right : RuleTable := ⟨[], [("ab".codePoints, [])], by decide⟩
  let t : RuleTable := ⟨[], left.rules ++ right.rules, by decide⟩
  have hleft : ofRules [] left.rules = .ok left := ofRules_eq_ok left.distinct (by decide)
  have hright : ofRules [] right.rules = .ok right := ofRules_eq_ok right.distinct (by decide)
  have hmerge : merge [] [left, right] = .ok t := ofRules_eq_ok t.distinct (by decide)
  have built : ∀ u ∈ [left, right], u.Built := by
    rintro u (_ | ⟨_, _ | ⟨_, _ | _⟩⟩)
    · exact .ofRules hleft
    · exact .ofRules hright
  have first : ∀ u ∈ [left, left], u ∈ [left, right] := by simp
  obtain ⟨-, -, merged⟩ := merge_disjoint_union [] built
  obtain ⟨succeeds, -, -⟩ := merge_disjoint_union [] fun u hu => built u (first u hu)
  obtain ⟨-, -, longest, -, found⟩ := merged t hmerge
  refine ⟨left, right, t, hleft, hright, hmerge, longest, by decide, ?_, ?_, ?_⟩
  · exact found "xabd".codePoints 1 none (by decide)
  · exact found "xabd".codePoints 1 (some 1) (by decide)
  · rw [succeeds, List.pairwise_pair]
    exact fun disjoint => disjoint (a := "a".codePoints) (by decide) (by decide)

end Romanization.RuleTable
