import Romanization.Proofs.Catalog.Build

namespace Romanization.Catalog

def Addition.scheme (a : Addition) : Scheme := ⟨a.table.name, a.languages, a.table.rules⟩

def Addition.file (a : Addition) : FileRead :=
  ⟨a.source.text, ⟨a.table.name, a.languages, a.table.rules.map fun r => (.string r.1, .string r.2)⟩⟩

theorem eq_scheme_of_addition {s : Scheme} {a : Addition} (h : s.addition = .ok a) :
    s = a.scheme ∧ a.source = .builtIn := by
  obtain ⟨t, ht, rfl⟩ := map_eq_ok_iff.1 h
  obtain ⟨hn, hr⟩ := RuleTable.rules_of_ofRules ht
  simp [Addition.scheme, hn, hr]

theorem eq_file_of_addition {f : FileRead} {a : Addition} (h : f.addition = .ok a) :
    f = a.file ∧ a.source = .file f.path := by
  obtain ⟨t, ht, rfl⟩ := map_eq_ok_iff.1 h
  obtain ⟨hn, hr⟩ := RuleTable.parts_of_ofParts ht
  obtain ⟨path, script, languages, rules⟩ := f
  simp only at hn hr
  simp [Addition.file, Source.text, hn, hr]

structure Added (schemes : List Scheme) (files : List FileRead) (first more : List Addition) : Prop where
  of_schemes : schemes.map Scheme.addition = first.map .ok
  of_files : files.map FileRead.addition = more.map .ok
  scripts_once : (schemes.map Scheme.script).Nodup
  languages_once : ∀ s ∈ schemes, ∀ u ∈ schemes, ∀ language ∈ s.languages, language ∈ u.languages →
    u.script = s.script

variable {schemes : List Scheme} {files : List FileRead} {first more : List Addition}
  (h : Added schemes files first more)

namespace Added

include h

theorem schemes_eq : schemes = first.map Addition.scheme :=
  eq_map_of_map_eq_ok (fun _ _ hs => (eq_scheme_of_addition hs).1) h.of_schemes

theorem files_eq : files = more.map Addition.file :=
  eq_map_of_map_eq_ok (fun _ _ hf => (eq_file_of_addition hf).1) h.of_files

theorem source_of_mem_first {a : Addition} (ha : a ∈ first) : a.source = .builtIn := by
  obtain ⟨s, -, hs⟩ := exists_of_map_eq_ok h.of_schemes ha
  exact (eq_scheme_of_addition hs).2

theorem source_of_mem_more {a : Addition} (ha : a ∈ more) : a.source = .file a.file.path := by
  obtain ⟨f, -, hf⟩ := exists_of_map_eq_ok h.of_files ha
  obtain ⟨rfl, hs⟩ := eq_file_of_addition hf
  exact hs

theorem exists_iff (p : Text → List Text → Prop) :
    (∃ a ∈ first ++ more, p a.table.name a.languages) ↔
      (∃ s ∈ schemes, p s.script s.languages) ∨ ∃ f ∈ files, p f.file.script f.file.languages := by
  rw [h.schemes_eq, h.files_eq]
  simp only [List.mem_append, or_and_right, exists_or, List.mem_map, exists_exists_and_eq_and]
  rfl

/-- The last file for which something holds gave the last addition for which it holds. -/
theorem find?_of_files {p : Text → List Text → Bool} {f : FileRead}
    (hf : files.reverse.find? (fun f => p f.file.script f.file.languages) = some f) :
    ∃ a ∈ more, a.file = f ∧ (first ++ more).reverse.find? (fun a => p a.table.name a.languages) = some a := by
  rw [h.files_eq, ← List.map_reverse, List.find?_map, Option.map_eq_some_iff] at hf
  obtain ⟨a, ha, rfl⟩ := hf
  refine ⟨a, List.mem_reverse.1 (List.mem_of_find?_eq_some ha), rfl, ?_⟩
  -- the files were added last, so from the end they come first
  have hm : more.reverse.find? (fun a => p a.table.name a.languages) = some a := ha
  rw [List.reverse_append, List.find?_append, hm, Option.some_or]

theorem find?_of_scheme {p : Text → List Text → Bool} {s : Scheme} (hs : s ∈ schemes)
    (hp : p s.script s.languages) (hu : ∀ u ∈ schemes, p u.script u.languages → u = s)
    (hn : ∀ f ∈ files, ¬ p f.file.script f.file.languages) :
    ∃ a ∈ first, a.scheme = s ∧
      (first ++ more).reverse.find? (fun a => p a.table.name a.languages) = some a := by
  rw [h.files_eq, List.forall_mem_map] at hn
  rw [h.schemes_eq, List.forall_mem_map] at hu
  rw [h.schemes_eq] at hs
  obtain ⟨b, hb, rfl⟩ := List.mem_map.1 hs
  have hm : more.reverse.find? (fun a => p a.table.name a.languages) = none := by
    rw [List.find?_eq_none]
    exact fun a ha => hn a (List.mem_reverse.1 ha)
  have hf : (first.reverse.find? fun a => p a.table.name a.languages).isSome := by
    rw [List.find?_isSome]
    exact ⟨b, List.mem_reverse.2 hb, hp⟩
  obtain ⟨a, ha⟩ := Option.isSome_iff_exists.1 hf
  have hmem : a ∈ first := List.mem_reverse.1 (List.mem_of_find?_eq_some ha)
  have hpa : p a.table.name a.languages := by simpa using List.find?_some ha
  refine ⟨a, hmem, hu a hmem hpa, ?_⟩
  rw [List.reverse_append, List.find?_append, hm, Option.none_or, ha]

theorem eq_of_script {s u : Scheme} (hs : s ∈ schemes) (hu : u ∈ schemes) (he : u.script = s.script) :
    u = s :=
  List.inj_on_of_nodup_map h.scripts_once hu hs he

theorem eq_of_language {s u : Scheme} (hs : s ∈ schemes) (hu : u ∈ schemes) {language : Text}
    (hls : language ∈ s.languages) (hlu : language ∈ u.languages) : u = s :=
  h.eq_of_script hs hu (h.languages_once s hs u hu language hls hlu)

end Added

end Romanization.Catalog
