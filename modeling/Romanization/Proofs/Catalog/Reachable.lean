import Romanization.Proofs.Catalog.Contents
import Romanization.Proofs.Service
import Romanization.Proofs.Text.Case

namespace Romanization

def LowNames (script : Text) (languages : List Text) : Prop :=
  script.lower = script ∧ ∀ language ∈ languages, Text.lower language = language

theorem RuleFile.lowNames_of_load {path name : Text} {entry : Option Entry} {f : RuleFile}
    (h : load path name entry = .ok f) : LowNames f.script f.languages := by
  obtain ⟨v, -, hv⟩ := bind_eq_ok_iff.1 h
  cases v with
  | object members =>
    simp only [ofJson, bind_eq_ok_iff] at hv
    obtain ⟨script, -, languages, -, rules, -, hf⟩ := hv
    cases hf
    exact ⟨script.lower_lower, by simp⟩
  | _ => cases hv

theorem RulesFolder.lowNames_of_readsAll {folder : Option RulesFolder} {files : List FileRead}
    (h : ReadsAll folder files) {f : FileRead} (hf : f ∈ files) :
    LowNames f.file.script f.file.languages := by
  cases folder with
  | none =>
    obtain rfl : files = [] := h
    cases hf
  | some folder =>
    obtain ⟨entries, -, hr⟩ := h
    obtain ⟨name, -, hn⟩ := exists_of_map_eq_ok hr hf
    obtain ⟨file, hfile, rfl⟩ := map_eq_ok_iff.1 hn
    exact RuleFile.lowNames_of_load hfile

theorem Catalog.lowNames_schemes (builtIn : Bool) :
    ∀ s ∈ schemes builtIn, LowNames s.script s.languages := by
  unfold LowNames
  cases builtIn <;> decide +kernel

namespace Catalog

variable {c : Catalog} {builtIn : Bool} {folder : Option RulesFolder} {script language : Text}

theorem lower_script (h : build builtIn folder = .ok c) (hs : script ∈ c.scripts) :
    script.lower = script := by
  obtain ⟨files, first, more, hr, ha, hc⟩ := exists_added h
  rcases ((ha.holds hc).mem_scripts script).1 hs with ⟨s, hm, rfl⟩ | ⟨f, hm, rfl⟩
  · exact (lowNames_schemes builtIn s hm).1
  · exact (RulesFolder.lowNames_of_readsAll hr hm).1

theorem lower_language (h : build builtIn folder = .ok c) (hl : language ∈ c.languages.keys) :
    language.lower = language := by
  obtain ⟨files, first, more, hr, ha, hc⟩ := exists_added h
  rcases ((ha.holds hc).mem_languages language).1 hl with ⟨s, hs, hm⟩ | ⟨f, hf, hm⟩
  · exact (lowNames_schemes builtIn s hs).2 language hm
  · exact (RulesFolder.lowNames_of_readsAll hr hf).2 language hm

theorem key_eq {name : Text} (ht : name.trim = name) (hl : name.lower = name) : key (some name) = name := by
  rw [key, Option.getD_some, ht, hl]

theorem table_of_script (h : build builtIn folder = .ok c) (hs : script ∈ c.scripts)
    (ht : script.trim = script) (hne : script ≠ combinedName) :
    ∃ listing, c.listings.find? script = some listing ∧ c.table (some script) = .ok listing.table := by
  obtain ⟨listing, hf⟩ := Dictionary.mem_keys_iff_exists.1 (mem_scripts.1 hs)
  refine ⟨listing, hf, ?_⟩
  rw [table, key_eq ht (lower_script h hs), if_neg hne, hf]

theorem script_of_language (h : build builtIn folder = .ok c)
    (hf : c.languages.find? language = some script) : script ∈ c.scripts := by
  obtain ⟨files, first, more, hr, ha, hc⟩ := exists_added h
  exact (ha.holds hc).script_of_language language script hf

theorem scriptOfLanguage_eq (h : build builtIn folder = .ok c)
    (hf : c.languages.find? language = some script) (ht : language.trim = language) :
    c.scriptOfLanguage (some language) = .ok script := by
  have hm : language ∈ c.languages.keys := Dictionary.mem_keys_iff_exists.2 ⟨script, hf⟩
  rw [scriptOfLanguage, key_eq ht (lower_language h hm), hf]

end Catalog

namespace Service

variable {c : Catalog} {name : Option Text} {language script : Text}

theorem tableFor_language (scripts : List Script) (hn : named name = false) (hl : language ≠ [])
    (hs : c.scriptOfLanguage (some language) = .ok script) :
    tableFor c scripts name (some language) = (c.table (some script)).map some := by
  rw [tableFor_of_language (Bool.eq_false_iff.1 hn) (named_some_iff.2 hl), hs]
  rfl

end Service

end Romanization
