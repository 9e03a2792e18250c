import Romanization.Proofs.Catalog.Combined
import Romanization.Proofs.Scheme.BuiltIn

namespace Romanization.Catalog

open Scheme (covered tableFor)

def builtInListings (tables : List RuleTable) : Dictionary Listing :=
  tables.map fun t => (t.name, ⟨t, .builtIn⟩)

theorem foldlM_addScheme {schemes : List Scheme} {tables : List RuleTable}
    (h : schemes.map Scheme.table = tables.map .ok) (c : Catalog) :
    ∃ d, schemes.foldlM addScheme c = .ok d ∧
      d.listings = (builtInListings tables).foldl (fun d e => d.put e.1 e.2) c.listings := by
  induction schemes generalizing tables c with
  | nil =>
    cases tables with
    | nil => exact ⟨c, rfl, rfl⟩
    | cons t tables => cases h
  | cons s schemes ih =>
    cases tables with
    | nil => cases h
    | cons t tables =>
      obtain ⟨hs, ht⟩ := List.cons.inj h
      have step : addScheme c s = .ok (c.add t .builtIn s.languages) := by
        simp [addScheme, hs, bind, Except.bind, pure, Except.pure]
      obtain ⟨d, hd, hl⟩ := ih ht (c.add t .builtIn s.languages)
      refine ⟨d, ?_, hl⟩
      rw [List.foldlM_cons, step]
      exact hd

theorem nodup_names : (builtInListings (covered.map tableFor)).keys.Nodup := by
  have hk : (builtInListings (covered.map tableFor)).keys = covered.map Script.name := by
    simp only [builtInListings, Dictionary.keys, List.map_map]
    rfl
  rw [hk]
  decide

theorem ofSchemes_eq_ok :
    ∃ c, ofSchemes = .ok c ∧ c.listings = builtInListings (covered.map tableFor) := by
  have ht : Scheme.builtIn.map Scheme.table = (covered.map tableFor).map .ok := by
    rw [Scheme.tables_builtIn, List.map_map]
    rfl
  obtain ⟨c, hc, hl⟩ := foldlM_addScheme ht empty
  refine ⟨c, hc, ?_⟩
  rw [hl]
  exact Dictionary.foldl_put_eq_append _ [] nodup_names

theorem detectable_of_listings {c : Catalog}
    (h : c.listings = builtInListings (covered.map tableFor)) :
    c.detectable = covered.map tableFor := by
  rw [detectable, h, builtInListings, List.map_map, List.filterMap_map, ← List.filterMap_eq_map]
  apply List.filterMap_congr
  intro s _
  exact if_pos (any_name_iff.2 ⟨s, rfl⟩)

theorem combine_of_detectable {c : Catalog} (h : c.detectable = covered.map tableFor) :
    c.combine = .ok { c with combined := some (Scheme.allTable combinedName) } := by
  have hm : RuleTable.merge combinedName c.detectable = .ok (Scheme.allTable combinedName) := by
    rw [h, Scheme.merge_tables]
  have hne : c.detectable ≠ [] := by
    intro hn
    rw [hn] at h
    cases h
  exact combine_eq_ok_iff.2 ⟨rfl, rfl, .inr ⟨hne, _, hm, rfl⟩⟩

theorem standard_of_ofSchemes {c : Catalog} (h : ofSchemes = .ok c) : standard = c.combine := by
  unfold standard build
  rw [if_pos rfl, h]
  rfl

theorem standard_eq_ok :
    ∃ c, standard = .ok c ∧ c.listings = builtInListings (covered.map tableFor) ∧
      c.combined = some (Scheme.allTable combinedName) := by
  obtain ⟨c, hc, hl⟩ := ofSchemes_eq_ok
  have hs := standard_of_ofSchemes hc
  rw [combine_of_detectable (detectable_of_listings hl)] at hs
  exact ⟨_, hs, hl, rfl⟩

theorem key_name (s : Script) : key (some s.name) = s.name := by
  cases s <;> decide

theorem name_ne_combinedName (s : Script) : s.name ≠ combinedName := by
  cases s <;> decide

theorem table_name {c : Catalog} (h : c.listings = builtInListings (covered.map tableFor))
    {s : Script} (hs : s ≠ .latin) : c.table (some s.name) = .ok (tableFor s) := by
  have hf : c.listings.find? s.name = some ⟨tableFor s, .builtIn⟩ := by
    rw [h, Dictionary.find?_eq_some_iff nodup_names]
    exact List.mem_map.2 ⟨tableFor s, List.mem_map_of_mem (Scheme.mem_covered.2 hs), rfl⟩
  rw [table, key_name, if_neg (name_ne_combinedName s), hf]

theorem table_combinedName {c : Catalog} {t : RuleTable} (h : c.combined = some t) :
    c.table (some combinedName) = .ok t := by
  rw [table_combinedName_eq, combinedTable, h]

end Romanization.Catalog
