import Romanization.Proofs.Catalog.Combined
import Romanization.Proofs.Catalog.Origins

/-! What is in a catalog: for each script the rules of the last file for it, else of the scheme for it; for
each language the script of the last file that lists it, else of the scheme that does; and in the combined
table the rules of the scripts that texts can be told by. -/

namespace Romanization.Catalog

def Lists (c : Catalog) (script : Text) (rules : List (Json × Json)) (source : Source) : Prop :=
  ∃ listing, c.listings.find? script = some listing ∧ listing.table.name = script ∧
    listing.table.rules.map (fun r => (.string r.1, .string r.2)) = rules ∧ listing.source = source

/-- What a catalog holds of some schemes and of the rule files that were read after them. The last file is
the first one from the end. -/
structure Holds (c : Catalog) (schemes : List Scheme) (files : List FileRead) : Prop where
  mem_scripts : ∀ script, script ∈ c.scripts ↔
    (∃ s ∈ schemes, s.script = script) ∨ ∃ f ∈ files, f.file.script = script
  lists_file : ∀ script f, files.reverse.find? (·.file.script == script) = some f →
    c.Lists script f.file.rules (.file f.path)
  lists_scheme : ∀ s ∈ schemes, (∀ f ∈ files, f.file.script ≠ s.script) →
    c.Lists s.script (s.rules.map fun r => (.string r.1, .string r.2)) .builtIn
  mem_languages : ∀ language, language ∈ c.languages.keys ↔
    (∃ s ∈ schemes, language ∈ s.languages) ∨ ∃ f ∈ files, language ∈ f.file.languages
  language_file : ∀ language f, files.reverse.find? (·.file.languages.contains language) = some f →
    c.languages.find? language = some f.file.script
  language_scheme : ∀ s ∈ schemes, ∀ language ∈ s.languages, (∀ f ∈ files, language ∉ f.file.languages) →
    c.languages.find? language = some s.script
  script_of_language : ∀ language script, c.languages.find? language = some script → script ∈ c.scripts
  languagesOf_sorted : ∀ script, (c.languagesOf script).Pairwise (·.before ·)
  languagesOf_disjoint : ∀ script other, script ≠ other →
    (c.languagesOf script).Disjoint (c.languagesOf other)
  languagesOf_all : (c.scripts.flatMap c.languagesOf).Perm c.languages.keys
  languages_once : c.languages.keys.Nodup
  combined_isSome : c.combined.isSome ↔ ∃ s : Script, s.name ∈ c.scripts
  combined_rules : ∀ t, c.combined = some t → ∀ p f, t.fragment? p = some f ↔
    ∃ (s : Script) (listing : Listing), c.listings.find? s.name = some listing ∧
      listing.table.fragment? p = some f

variable {c d : Catalog} {script language : Text}

section Languages

variable (hd : c.languages.keys.Nodup)
include hd

theorem mem_languagesOf :
    language ∈ c.languagesOf script ↔ c.languages.find? language = some script := by
  rw [languagesOf, Text.mem_sort, Dictionary.find?_eq_some_iff hd]
  simp

theorem nodup_languagesOf_unsorted :
    ((c.languages.filter (·.2 == script)).map Prod.fst).Nodup :=
  hd.sublist (List.filter_sublist.map Prod.fst)

theorem languagesOf_pairwise : (c.languagesOf script).Pairwise (·.before ·) :=
  Text.pairwise_sort (nodup_languagesOf_unsorted hd)

theorem disjoint_languagesOf {other : Text} (h : script ≠ other) :
    (c.languagesOf script).Disjoint (c.languagesOf other) := by
  intro language hs ho
  rw [mem_languagesOf hd] at hs ho
  exact h (Option.some.inj (hs.symm.trans ho))

theorem flatMap_languagesOf_perm (hl : c.listings.keys.Nodup)
    (h : ∀ language script, c.languages.find? language = some script → script ∈ c.scripts) :
    (c.scripts.flatMap c.languagesOf).Perm c.languages.keys := by
  have hn : (c.scripts.flatMap c.languagesOf).Nodup := by
    rw [List.nodup_flatMap]
    constructor
    · exact fun _ _ => (Text.sort_perm _).nodup_iff.2 (nodup_languagesOf_unsorted hd)
    · exact (nodup_scripts hl).imp fun hne => disjoint_languagesOf hd hne
  -- neither side repeats a language, so it is enough that they have the same ones
  rw [List.perm_ext_iff_of_nodup hn hd]
  intro language
  rw [List.mem_flatMap, Dictionary.mem_keys_iff_exists]
  constructor
  · rintro ⟨script, -, hm⟩
    exact ⟨script, (mem_languagesOf hd).1 hm⟩
  · rintro ⟨script, hf⟩
    exact ⟨script, h language script hf, (mem_languagesOf hd).2 hf⟩

end Languages

section Additions

variable {additions : List Addition} (hl : c.listings = (empty.addAll additions).listings)
  (hg : c.languages = (empty.addAll additions).languages)

include hl in
theorem find?_listings :
    c.listings.find? script =
      (additions.reverse.find? (·.table.name == script)).map Addition.listing := by
  rw [hl, find?_listings_addAll]
  exact Option.or_none

include hl in
theorem exists_of_find?_listings {listing : Listing} (h : c.listings.find? script = some listing) :
    ∃ a ∈ additions, a.table.name = script ∧ a.listing = listing := by
  rw [find?_listings hl, Option.map_eq_some_iff] at h
  obtain ⟨a, ha, hlisting⟩ := h
  exact ⟨a, List.mem_reverse.1 (List.mem_of_find?_eq_some ha), by simpa using List.find?_some ha, hlisting⟩

include hg in
theorem find?_languages :
    c.languages.find? language =
      (additions.reverse.find? (·.languages.contains language)).map (·.table.name) := by
  rw [hg, find?_languages_addAll]
  exact Option.or_none

include hl in
theorem mem_scripts_iff : script ∈ c.scripts ↔ ∃ a ∈ additions, a.table.name = script := by
  rw [mem_scripts, Dictionary.mem_keys_iff_isSome, find?_listings hl, Option.isSome_map,
    List.find?_isSome]
  simp

include hg in
theorem mem_languages_iff : language ∈ c.languages.keys ↔ ∃ a ∈ additions, language ∈ a.languages := by
  rw [Dictionary.mem_keys_iff_isSome, find?_languages hg, Option.isSome_map, List.find?_isSome]
  simp

include hl hg in
theorem mem_scripts_of_language (h : c.languages.find? language = some script) : script ∈ c.scripts := by
  rw [find?_languages hg, Option.map_eq_some_iff] at h
  obtain ⟨a, ha, rfl⟩ := h
  exact (mem_scripts_iff hl).2 ⟨a, List.mem_reverse.1 (List.mem_of_find?_eq_some ha), rfl⟩

end Additions

variable {schemes : List Scheme} {files : List FileRead} {first more : List Addition}

namespace Added

variable (h : Added schemes files first more)
  (hl : c.listings = (empty.addAll (first ++ more)).listings)
  (hg : c.languages = (empty.addAll (first ++ more)).languages)
include h

include hl in
theorem lists_file {f : FileRead} (hf : files.reverse.find? (·.file.script == script) = some f) :
    c.Lists script f.file.rules (.file f.path) := by
  obtain ⟨a, ha, rfl, hfind⟩ := h.find?_of_files (p := fun s _ => s == script) hf
  have hn : a.table.name = script := by simpa using List.find?_some hfind
  refine ⟨a.listing, ?_, hn, rfl, h.source_of_mem_more ha⟩
  rw [find?_listings hl, hfind, Option.map_some]

include hl in
theorem lists_scheme {s : Scheme} (hs : s ∈ schemes) (hn : ∀ f ∈ files, f.file.script ≠ s.script) :
    c.Lists s.script (s.rules.map fun r => (.string r.1, .string r.2)) .builtIn := by
  have hu : ∀ u ∈ schemes, (u.script == s.script) = true → u = s :=
    fun u hu he => h.eq_of_script hs hu (beq_iff_eq.1 he)
  obtain ⟨a, ha, rfl, hfind⟩ := h.find?_of_scheme (p := fun t _ => t == s.script) hs
    (beq_self_eq_true s.script) hu fun f hf => by simpa using hn f hf
  refine ⟨a.listing, ?_, rfl, rfl, h.source_of_mem_first ha⟩
  rw [find?_listings hl, hfind, Option.map_some]

include hg in
theorem language_file {f : FileRead}
    (hf : files.reverse.find? (·.file.languages.contains language) = some f) :
    c.languages.find? language = some f.file.script := by
  obtain ⟨a, -, rfl, hfind⟩ := h.find?_of_files (p := fun _ ls => ls.contains language) hf
  rw [find?_languages hg, hfind]
  rfl

include hg in
theorem language_scheme {s : Scheme} (hs : s ∈ schemes) (hls : language ∈ s.languages)
    (hn : ∀ f ∈ files, language ∉ f.file.languages) : c.languages.find? language = some s.script := by
  have hu : ∀ u ∈ schemes, u.languages.contains language = true → u = s :=
    fun u hu he => h.eq_of_language hs hu hls (List.contains_iff_mem.1 he)
  obtain ⟨a, -, rfl, hfind⟩ := h.find?_of_scheme (p := fun _ ls => ls.contains language) hs
    (List.contains_iff_mem.2 hls) hu fun f hf => by simpa using hn f hf
  rw [find?_languages hg, hfind]
  rfl

theorem holds (hc : (empty.addAll (first ++ more)).combine = .ok c) : c.Holds schemes files := by
  obtain ⟨hl, hg, -⟩ := combine_eq_ok_iff.1 hc
  have hk : (empty.addAll (first ++ more)).listings.keys.Nodup := nodup_listings_addAll List.nodup_nil
  have hd : c.languages.keys.Nodup := by
    rw [hg]
    exact nodup_languages_addAll List.nodup_nil
  have hscript : ∀ language script, c.languages.find? language = some script → script ∈ c.scripts :=
    fun _ _ => mem_scripts_of_language hl hg
  exact {
    mem_scripts := fun script => by
      rw [mem_scripts_iff hl, h.exists_iff fun s _ => s = script]
    lists_file := fun _ _ => h.lists_file hl
    lists_scheme := fun _ => h.lists_scheme hl
    mem_languages := fun language => by
      rw [mem_languages_iff hg, h.exists_iff fun _ ls => language ∈ ls]
    language_file := fun _ _ => h.language_file hg
    language_scheme := fun _ hs _ => h.language_scheme hg hs
    script_of_language := hscript
    languagesOf_sorted := fun _ => languagesOf_pairwise hd
    languagesOf_disjoint := fun _ _ => disjoint_languagesOf hd
    languagesOf_all := flatMap_languagesOf_perm hd (hl ▸ hk) hscript
    languages_once := hd
    combined_isSome := by
      have := isSome_combined hc hk
      simpa only [Catalog.mem_scripts, hl] using this
    combined_rules := fun t ht p f => by
      rw [fragment?_combined hc hk ht, hl] }

end Added

theorem scripts_once_schemes (builtIn : Bool) : ((Catalog.schemes builtIn).map Scheme.script).Nodup := by
  cases builtIn <;> decide

theorem languages_once_schemes (builtIn : Bool) :
    ∀ s ∈ Catalog.schemes builtIn, ∀ u ∈ Catalog.schemes builtIn, ∀ language ∈ s.languages,
      language ∈ u.languages → u.script = s.script := by
  cases builtIn <;> decide

theorem exists_added {builtIn : Bool} {folder : Option RulesFolder} (h : build builtIn folder = .ok c) :
    ∃ files first more, RulesFolder.ReadsAll folder files ∧
      Added (Catalog.schemes builtIn) files first more ∧
      (empty.addAll (first ++ more)).combine = .ok c := by
  obtain ⟨files, first, more, hr, hs, hf, hc⟩ := build_eq_ok_iff.1 h
  exact ⟨files, first, more, hr,
    ⟨hs, hf, scripts_once_schemes builtIn, languages_once_schemes builtIn⟩, hc⟩

def twoFiles : RulesFolder := ⟨"d".codePoints, .folder [
  ("b.json".codePoints, .file
    "\x7b\"script\": \"Latin\", \"rules\": [[\"w\", \"v\"]]\x7d".codePoints),
  ("a.json".codePoints, .file
    "\x7b\"script\": \"latin\", \"languages\": [\"en\"], \"rules\": [[\"q\", \"k\"]]\x7d".codePoints)]⟩

end Romanization.Catalog
