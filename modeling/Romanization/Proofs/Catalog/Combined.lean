import Romanization.Catalog.Basic
import Romanization.Proofs.Dictionary
import Romanization.Proofs.RuleTable.Built
import Romanization.Proofs.RuleTable.Longest
import Romanization.Proofs.Script.Tokens
import Romanization.Proofs.Text.Sort

namespace Romanization.Catalog

variable {c d : Catalog} {script : Text}

theorem mem_scripts : script ∈ c.scripts ↔ script ∈ c.listings.keys := Text.mem_sort

theorem nodup_scripts (hl : c.listings.keys.Nodup) : c.scripts.Nodup :=
  (Text.sort_perm _).nodup_iff.2 hl

theorem any_name_iff {name : Text} :
    Script.all.any (·.name == name) = true ↔ ∃ s : Script, s.name = name := by
  simp [Script.mem_all]

theorem mem_detectable (hl : c.listings.keys.Nodup) {t : RuleTable} :
    t ∈ c.detectable ↔ ∃ (s : Script) (listing : Listing),
      c.listings.find? s.name = some listing ∧ listing.table = t := by
  unfold detectable
  rw [List.mem_filterMap]
  constructor
  · rintro ⟨⟨script, listing⟩, hm, ht⟩
    simp only [any_name_iff, Option.ite_none_right_eq_some, Option.some.injEq] at ht
    obtain ⟨⟨s, rfl⟩, rfl⟩ := ht
    exact ⟨s, listing, (Dictionary.find?_eq_some_iff hl).2 hm, rfl⟩
  · rintro ⟨s, listing, hf, rfl⟩
    exact ⟨(s.name, listing), (Dictionary.find?_eq_some_iff hl).1 hf, if_pos (any_name_iff.2 ⟨s, rfl⟩)⟩

theorem detectable_eq_nil_iff (hl : c.listings.keys.Nodup) :
    c.detectable = [] ↔ ∀ s : Script, s.name ∉ c.scripts := by
  simp only [mem_scripts, Dictionary.mem_keys_iff_exists, List.eq_nil_iff_forall_not_mem,
    mem_detectable hl]
  constructor
  · rintro h s ⟨listing, hf⟩
    exact h _ ⟨s, listing, hf, rfl⟩
  · rintro h t ⟨s, listing, hf, -⟩
    exact h s ⟨listing, hf⟩

theorem combine_eq_ok_iff :
    c.combine = .ok d ↔ d.listings = c.listings ∧ d.languages = c.languages ∧
      ((c.detectable = [] ∧ d.combined = none) ∨
        (c.detectable ≠ [] ∧ ∃ t, RuleTable.merge combinedName c.detectable = .ok t ∧
          d.combined = some t)) := by
  obtain ⟨listings, languages, combined⟩ := d
  unfold combine
  cases hd : c.detectable with
  | nil => simp [eq_comm]
  | cons t tables =>
    cases hm : RuleTable.merge combinedName (t :: tables) <;>
      simp [hm, bind, Except.bind, pure, Except.pure, eq_comm]

theorem table_combinedName_eq (c : Catalog) : c.table (some combinedName) = c.combinedTable := by
  have hk : key (some combinedName) = combinedName := by decide
  rw [table, if_pos hk]

variable (hc : c.combine = .ok d) (hl : c.listings.keys.Nodup)
include hc hl

theorem isSome_combined : d.combined.isSome ↔ ∃ s : Script, s.name ∈ c.scripts := by
  obtain ⟨-, -, ⟨hd, hn⟩ | ⟨hd, t, -, ht⟩⟩ := combine_eq_ok_iff.1 hc
  · have := (detectable_eq_nil_iff hl).1 hd
    simpa [hn] using this
  · rw [Ne, detectable_eq_nil_iff hl] at hd
    simpa [ht] using hd

theorem fragment?_combined {t : RuleTable} (ht : d.combined = some t) {p f : Text} :
    t.fragment? p = some f ↔ ∃ (s : Script) (listing : Listing),
      c.listings.find? s.name = some listing ∧ listing.table.fragment? p = some f := by
  obtain ⟨-, -, ⟨-, hn⟩ | ⟨-, u, hm, hu⟩⟩ := combine_eq_ok_iff.1 hc
  · rw [hn] at ht
    cases ht
  · obtain rfl : u = t := Option.some.inj (hu.symm.trans ht)
    rw [RuleTable.fragment?_eq_some_iff, (RuleTable.rules_of_ofRules hm).2, List.mem_flatMap]
    constructor
    · rintro ⟨_, hmem, hr⟩
      obtain ⟨s, listing, hf, rfl⟩ := (mem_detectable hl).1 hmem
      exact ⟨s, listing, hf, RuleTable.fragment?_eq_some_iff.2 hr⟩
    · rintro ⟨s, listing, hf, hr⟩
      exact ⟨listing.table, (mem_detectable hl).2 ⟨s, listing, hf, rfl⟩,
        RuleTable.fragment?_eq_some_iff.1 hr⟩

end Romanization.Catalog
