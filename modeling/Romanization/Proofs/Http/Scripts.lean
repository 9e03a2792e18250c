import Romanization.Proofs.Catalog.Reachable
import Romanization.Proofs.Http.Reload

namespace Romanization

def Catalog.Writable (c : Catalog) : Prop :=
  ∀ script ∈ c.scripts, script.Whole ∧ (∀ language ∈ c.languagesOf script, language.Whole) ∧
    ∀ listing, c.listings.find? script = some listing → listing.source.text.Whole

theorem Catalog.writable_of_build {c : Catalog} {builtIn : Bool} {folder : Option RulesFolder}
    (hfolder : ∀ f, folder = some f → f.Legible) (h : build builtIn folder = .ok c) : c.Writable := by
  intro script hs
  refine ⟨whole_of_mem_scripts hfolder h hs, fun language hl => ?_, fun listing => whole_source hfolder h⟩
  obtain ⟨e, he, rfl⟩ := List.mem_map.1 (Text.mem_sort.1 hl)
  exact whole_of_mem_languages hfolder h (List.mem_map_of_mem (List.mem_filter.1 he).1)

namespace Http

namespace Response

def scriptOf? : Json → Option Text
  | .object members => (Json.member? members "script".codePoints).bind Json.string?
  | _ => none

def Lists (response : Response) (c : Catalog) : Prop :=
  response.status = 200 ∧ ∃ items, response.body = .array items ∧ items.map scriptOf? = c.scripts.map some

variable {c : Catalog}

theorem lists_scripts (c : Catalog) : Lists ⟨200, .scripts c⟩ c := by
  refine ⟨rfl, _, rfl, ?_⟩
  rw [List.map_filterMap, ← List.filterMap_eq_map]
  refine List.filterMap_congr fun script hs => ?_
  obtain ⟨l, hf⟩ := Dictionary.mem_keys_iff_exists.1 (Catalog.mem_scripts.1 hs)
  rw [listing, hf]
  rfl

theorem isWritable_scripts : (body ⟨200, .scripts c⟩).isWritable ↔ c.Writable := by
  rw [body, Json.isWritable_array]
  constructor
  · intro h script hs
    obtain ⟨l, hf⟩ := Dictionary.mem_keys_iff_exists.1 (Catalog.mem_scripts.1 hs)
    have hitem := h _ (List.mem_filterMap.2 ⟨script, hs, by rw [listing, hf]; rfl⟩)
    simpa [hf] using hitem
  · intro h v hv
    obtain ⟨script, hs, hl⟩ := List.mem_filterMap.1 hv
    obtain ⟨l, hf, rfl⟩ := Option.map_eq_some_iff.1 hl
    obtain ⟨hscript, hlanguages, hsource⟩ := h script hs
    simpa [hscript, hsource l hf] using hlanguages

end Response

theorem App.handle_scripts {a : App} {r : Request} (h : r.To .scripts) (hr : ¬ a.Locked r) :
    (a.handle r).1 = Response.sent ⟨200, .scripts a.registry.catalog⟩ := by
  rw [handle_of_to h]
  simp [serve, refusal?_of_not_locked hr]

theorem App.lists_or_fails {a : App} {r : Request} (h : r.To .scripts) (hr : ¬ a.Locked r) :
    ((a.handle r).1.Lists a.registry.catalog ∧ a.registry.catalog.Writable) ∨
      ((a.handle r).1 = .failure ∧ ¬ a.registry.catalog.Writable) := by
  rw [handle_scripts h hr, ← Response.isWritable_scripts]
  by_cases hw : (Response.body ⟨200, .scripts a.registry.catalog⟩).isWritable
  · rw [Response.sent_eq_self hw]
    exact .inl ⟨Response.lists_scripts _, hw⟩
  · exact .inr ⟨if_neg hw, hw⟩

end Http

namespace Service

open Catalog (combinedName)

variable {c : Catalog}

/-- How the names that a catalog registers are listed and looked up. A name with blanks around it is left out,
and the name of the combined table is not looked up among the scripts. -/
structure Resolves (folder : Option RulesFolder) (c : Catalog) : Prop where
  listed : ∀ (a : Http.App) (r : Http.Request), a.registry.catalog = c → r.To .scripts → ¬ a.Locked r →
    ((a.handle r).1.Lists c ∧ c.Writable) ∨ ((a.handle r).1 = .failure ∧ ¬ c.Writable)
  writable : (∀ f, folder = some f → f.Legible) → c.Writable
  script : ∀ script ∈ c.scripts, script.trim = script → script ≠ combinedName →
    ∃ listing, c.listings.find? script = some listing ∧ c.table (some script) = .ok listing.table
  combined : c.table (some combinedName) = c.combinedTable
  language : ∀ language ∈ c.languages.keys, language.trim = language →
    ∃ script, c.languages.find? language = some script ∧ c.scriptOfLanguage (some language) = .ok script
  request : ∀ language script, c.languages.find? language = some script →
    language.trim = language → language ≠ [] → script.trim = script → script ≠ combinedName →
    ∃ listing, c.listings.find? script = some listing ∧ ∀ scripts name, named name = false →
      tableFor c scripts name (some language) = .ok (some listing.table)
  request_combined : ∀ language, c.languages.find? language = some combinedName →
    language.trim = language → language ≠ [] → ∀ scripts name, named name = false →
      tableFor c scripts name (some language) = c.combinedTable.map some
  request_void : ∀ scripts name, tableFor c scripts name (some []) = tableFor c scripts name none

theorem resolves_of_build {builtIn : Bool} {folder : Option RulesFolder}
    (h : Catalog.build builtIn folder = .ok c) : Resolves folder c where
  listed a r ha hto hr := ha ▸ Http.App.lists_or_fails hto hr
  writable hfolder := Catalog.writable_of_build hfolder h
  script _ := Catalog.table_of_script h
  combined := Catalog.table_combinedName_eq c
  language language hm ht := by
    obtain ⟨script, hf⟩ := Dictionary.mem_keys_iff_exists.1 hm
    exact ⟨script, hf, Catalog.scriptOfLanguage_eq h hf ht⟩
  request language script hf ht hne hts hc := by
    have hl := Catalog.scriptOfLanguage_eq h hf ht
    obtain ⟨listing, hlisting, htable⟩ :=
      Catalog.table_of_script h (Catalog.script_of_language h hf) hts hc
    refine ⟨listing, hlisting, fun scripts name hn => ?_⟩
    rw [tableFor_language scripts hn hne hl, htable]
    rfl
  request_combined language hf ht hne scripts name hn := by
    rw [tableFor_language scripts hn hne (Catalog.scriptOfLanguage_eq h hf ht),
      Catalog.table_combinedName_eq]
  request_void _ _ := rfl

theorem resolves_of_build_twoFiles :
    ∃ a, Http.App.start (Http.App.guarded "k".codePoints (some "d".codePoints) 4096)
        Catalog.twoFiles.place = .ok a ∧
      Resolves (some Catalog.twoFiles) a.registry.catalog ∧
      (a.handle (Http.App.withKey .scripts)).1.Lists a.registry.catalog := by
  have status : (Http.App.start (Http.App.guarded "k".codePoints (some "d".codePoints) 4096)
      Catalog.twoFiles.place).toOption.map (fun a => (a.handle (Http.App.withKey .scripts)).1.status) =
        some 200 := by decide +kernel
  obtain ⟨a, ha, hstatus⟩ := exists_of_toOption_map_eq status
  obtain ⟨-, hfolder, hbuild⟩ := Http.App.registry_of_start ha
  have hsettings := Http.App.settings_of_start ha
  have resolves : Resolves (some Catalog.twoFiles) a.registry.catalog := by
    rw [hfolder] at hbuild
    exact resolves_of_build hbuild
  have keyed : (Http.App.withKey .scripts).Carries "k".codePoints := by decide +kernel
  refine ⟨a, ha, resolves, ?_⟩
  rcases resolves.listed a (Http.App.withKey .scripts) rfl (by decide +kernel)
    (fun h => h.keyless (hsettings ▸ keyed)) with ⟨lists, -⟩ | ⟨fails, -⟩
  · exact lists
  · rw [fails] at hstatus
    cases hstatus

def oddNames : RulesFolder := ⟨"d".codePoints, .folder [
  ("a.json".codePoints, .file
    "\x7b\"script\": \"auto\", \"languages\": [\"\", \" x \"], \"rules\": [[\"q\", \"k\"]]\x7d".codePoints),
  ("b.json".codePoints, .file "\x7b\"script\": \" b \", \"rules\": []\x7d".codePoints)]⟩

theorem build_oddNames : ∃ c, Catalog.build false (some oddNames) = .ok c ∧
    c.listings.keys = [combinedName, " b ".codePoints] ∧
    c.languages = [([], combinedName), (" x ".codePoints, combinedName)] ∧ c.combined = none := by
  have h : ((Catalog.build false (some oddNames)).toOption.map fun c =>
      (c.listings.keys, c.languages, c.combined.isNone)) =
      some ([combinedName, " b ".codePoints],
        [([], combinedName), (" x ".codePoints, combinedName)], true) := by
    decide +kernel
  cases hc : Catalog.build false (some oddNames) with
  | error e =>
    rw [hc] at h
    cases h
  | ok c =>
    rw [hc] at h
    simp only [Except.toOption, Option.map_some, Option.some.injEq, Prod.mk.injEq,
      Option.isNone_iff_eq_none] at h
    exact ⟨c, rfl, h⟩

def loneName : Place := .folder
  [("a.json".codePoints, .file "\x7b\"script\": \"\\ud800\", \"rules\": []\x7d".codePoints)]

theorem unreachable_oddNames : (∃ c, Catalog.build false (some oddNames) = .ok c ∧
      (combinedName ∈ c.scripts ∧ ∀ t, c.table (some combinedName) ≠ .ok t) ∧
      (" b ".codePoints ∈ c.scripts ∧ ∀ t, c.table (some " b ".codePoints) ≠ .ok t) ∧
      (" x ".codePoints ∈ c.languages.keys ∧
        ∀ script, c.scriptOfLanguage (some " x ".codePoints) ≠ .ok script) ∧
      ([] ∈ c.languages.keys ∧ ∀ t, tableFor c [] none (some []) ≠ .ok (some t))) ∧
    ∃ a, Http.App.start (Http.App.guarded "k".codePoints (some "d".codePoints) 4096) loneName = .ok a ∧
      a.registry.catalog.scripts = [[0xD800]] ∧
      (a.handle (Http.App.withKey .scripts)).1.status = 500 := by
  obtain ⟨c, hc, hk, hl, hn⟩ := build_oddNames
  have hb : c.listings.find? "b".codePoints = none := by
    rw [Dictionary.find?_eq_none_iff, hk]
    decide
  have hkey : Catalog.key (some " b ".codePoints) = "b".codePoints := by decide +kernel
  have hlone : (Http.App.start (Http.App.guarded "k".codePoints (some "d".codePoints) 4096)
      loneName).toOption.map (fun a =>
        (a.registry.catalog.scripts, (a.handle (Http.App.withKey .scripts)).1.status)) =
        some ([[0xD800]], 500) := by decide +kernel
  obtain ⟨a, ha, hlisted⟩ := exists_of_toOption_map_eq hlone
  refine ⟨⟨c, hc, ⟨?_, ?_⟩, ⟨?_, ?_⟩, ⟨?_, ?_⟩, ⟨?_, ?_⟩⟩, a, ha, Prod.mk.inj hlisted⟩
  · rw [Catalog.mem_scripts, hk]
    decide
  · rw [Catalog.table_combinedName_eq, Catalog.combinedTable, hn]
    intro _ ht
    cases ht
  · rw [Catalog.mem_scripts, hk]
    decide
  · rw [Catalog.table, hkey, if_neg (by decide), hb]
    intro _ ht
    cases ht
  · rw [hl]
    decide
  · have hx : c.languages.find? (Catalog.key (some " x ".codePoints)) = none := by
      rw [hl]
      decide +kernel
    rw [Catalog.scriptOfLanguage, hx]
    intro _ ht
    cases ht
  · rw [hl]
    decide
  · intro _ ht
    cases ht

end Service

end Romanization
