import Romanization.Proofs.Catalog.Failure
import Romanization.Proofs.Catalog.Thorough
import Romanization.Proofs.Error
import Romanization.Proofs.Unicode.Whole

namespace Romanization

structure RuleTable.Legible (t : RuleTable) : Prop where
  name : t.name.Whole
  fragments : ∀ r ∈ t.rules, r.2.Whole

def Entry.Legible (entry : Entry) : Prop :=
  ∀ bytes t v, entry = .file bytes → Utf8.decode? bytes = some t →
    Json.read RuleFile.maxDepth t = .ok v → v.Legible

structure RulesFolder.Legible (folder : RulesFolder) : Prop where
  path : folder.path.Whole
  files : ∀ name entry, folder.HasFile name entry → name.Whole ∧ entry.Legible

structure RuleFile.Legible (file : RuleFile) : Prop where
  script : file.script.Whole
  languages : ∀ language ∈ file.languages, language.Whole
  rules : ∀ r ∈ file.rules, r.2.Legible

namespace RuleFile

variable {path name : Text}

theorem whole_steps (h : name.Whole) : ∀ step ∈ steps name, step.Whole := by
  intro step hs c hc
  have hm := (List.mem_filter.1 hs).1
  rw [Text.split_eq_splitOnP] at hm
  exact h c (Text.mem_of_mem_splitOnP hm hc)

theorem whole_ownName (h : name.Whole) : (ownName name).Whole := by
  have hlast : Text.Whole ((steps name).getLast?.getD []) := by
    cases hl : (steps name).getLast? with
    | none => exact Text.whole_nil
    | some step => exact whole_steps h step (List.mem_of_getLast? hl)
  unfold ownName stem
  dsimp only
  split
  · exact hlast
  · exact hlast.subset (List.take_subset _ _)

theorem member?_of_given? {members : List (Text × Json)} {key : String} {v : Json}
    (h : given? members key = some v) : Json.member? members key.codePoints = some v :=
  (Option.filter_eq_some_iff.1 h).1

theorem legible_of_load {entry : Entry} {file : RuleFile} (h : load path name (some entry) = .ok file)
    (hn : name.Whole) (he : entry.Legible) : file.Legible := by
  obtain ⟨v, hd, hv⟩ := bind_eq_ok_iff.1 h
  obtain ⟨bytes, t, rfl, ht, hr⟩ := decode_eq_ok_iff.1 hd
  obtain ⟨members, script, languages, rules, rfl, hs, hl, hrules, rfl⟩ := ofJson_eq_ok_iff.1 hv
  have hlegible := he bytes t _ rfl ht hr
  refine ⟨?_, List.forall_mem_map.2 fun language hm => Text.Whole.lower ?_, fun r hr => ?_⟩
  · refine Text.Whole.lower ?_
    rcases givenScript_eq_ok_iff.1 hs with ⟨-, rfl⟩ | hg
    · exact whole_ownName hn
    · exact Json.legible_string.1 (hlegible.member (member?_of_given? hg))
  · rcases givenLanguages_eq_ok_iff.1 hl with ⟨-, rfl⟩ | hg
    · cases hm
    · exact Json.legible_string.1 ((hlegible.member (member?_of_given? hg)).item (List.mem_map_of_mem hm))
  · have hitem := (hlegible.member (givenRules_eq_ok_iff.1 hrules)).item (List.mem_map_of_mem hr)
    exact hitem.item (by simp)

end RuleFile

theorem RuleFile.Bad.plainTexts_eq {path : Text} {e : Error} (h : Bad path e) : e.plainTexts = [path] := by
  cases h <;> rfl

theorem RuleFile.TooBig.plainTexts_eq {e : Error} (h : TooBig e) : e.plainTexts = [] := by
  cases h <;> rfl

theorem RuleTable.Bad.plainTexts_subset {name : Text} {e : Error} (h : Bad name e) :
    e.plainTexts ⊆ [name] := by
  cases h <;> simp [Error.plainTexts]

namespace RulesFolder

variable {folder : RulesFolder} {e : Text × Entry}

theorem whole_pathOf {name : Text} (hp : folder.path.Whole) (hn : name.Whole) :
    (folder.pathOf name).Whole :=
  Text.whole_intercalate (by decide) (List.forall_mem_cons.2 ⟨hp, RuleFile.whole_steps hn⟩)

theorem whole_of_addition_eq_error {error : Error} (hp : folder.path.Whole) (hn : e.1.Whole)
    (he : e.2.Legible) (h : folder.addition e = .error error) : ∀ t ∈ error.plainTexts, t.Whole := by
  intro t ht
  rcases bad_of_addition_eq_error h with h | ⟨h, -⟩ | ⟨file, hload, h⟩
  · rw [h.plainTexts_eq] at ht
    exact List.mem_singleton.1 ht ▸ whole_pathOf hp hn
  · rw [h.plainTexts_eq] at ht
    cases ht
  · obtain rfl := List.mem_singleton.1 (h.plainTexts_subset ht)
    exact (RuleFile.legible_of_load hload hn he).script

theorem Legible.of_readsAll {folder : Option RulesFolder} {files : List FileRead} {f : FileRead}
    (h : ∀ d, folder = some d → d.Legible) (hr : ReadsAll folder files) (hf : f ∈ files) :
    f.path.Whole ∧ f.file.Legible := by
  cases folder with
  | none =>
    obtain rfl : files = [] := hr
    cases hf
  | some folder =>
    obtain ⟨entries, hplace, hr⟩ := hr
    obtain ⟨name, hn, hfile⟩ := exists_of_map_eq_ok hr hf
    obtain ⟨file, hload, rfl⟩ := map_eq_ok_iff.1 hfile
    cases he : entries.find? name with
    | none =>
      rw [he] at hload
      cases hload
    | some entry =>
      obtain ⟨hpath, hfiles⟩ := h folder rfl
      obtain ⟨hname, hentry⟩ := hfiles name entry ⟨entries, hplace, (mem_ruleNames.1 hn).2, he⟩
      rw [he] at hload
      exact ⟨whole_pathOf hpath hname, RuleFile.legible_of_load hload hname hentry⟩

end RulesFolder

theorem Scheme.legible_table {s : Scheme} {t : RuleTable} (hs : s ∈ builtIn) (ht : s.table = .ok t) :
    t.Legible := by
  obtain ⟨u, hu⟩ := exists_table_eq hs
  cases hu.symm.trans ht
  refine ⟨?_, fun r hr c hc => ?_⟩
  · cases u <;> exact Text.whole_codePoints _
  · have := plainFragments_rulesFor u r hr c hc
    exact CodePoint.isSurrogate_eq_false_iff.2 (.inl (Nat.lt_trans this (by decide)))

namespace Catalog

variable {c : Catalog} {builtIn : Bool} {folder : Option RulesFolder} {t : RuleTable} {script : Text}

def Has (c : Catalog) (t : RuleTable) : Prop :=
  (∃ script listing, c.listings.find? script = some listing ∧ listing.table = t) ∨ c.combined = some t

/-- What holds of the tables of all schemes and files, and of tables that such ones are merged to, holds of
every table in a catalog. -/
theorem forall_tables_of_build {P : RuleTable → Prop} (h : build builtIn folder = .ok c)
    (hschemes : ∀ s ∈ Scheme.builtIn, ∀ t, s.table = .ok t → P t)
    (hfiles : ∀ files, RulesFolder.ReadsAll folder files → ∀ f ∈ files,
      ∀ t, RuleTable.ofParts f.file.script f.file.rules = .ok t → P t)
    (hmerge : ∀ tables t, (∀ u ∈ tables, P u) → RuleTable.merge combinedName tables = .ok t → P t) :
    ∀ t, c.Has t → P t := by
  obtain ⟨files, first, more, hr, ha, hc⟩ := exists_added h
  obtain ⟨hl, -, hcombined⟩ := combine_eq_ok_iff.1 hc
  have hadded : ∀ a ∈ first ++ more, P a.table := by
    intro a hm
    rcases List.mem_append.1 hm with hm | hm
    · obtain ⟨s, hs, hadd⟩ := exists_of_map_eq_ok ha.of_schemes hm
      obtain ⟨t, ht, rfl⟩ := map_eq_ok_iff.1 hadd
      refine hschemes s ?_ t ht
      cases builtIn
      · cases hs
      · exact hs
    · obtain ⟨f, hf, hadd⟩ := exists_of_map_eq_ok ha.of_files hm
      obtain ⟨t, ht, rfl⟩ := map_eq_ok_iff.1 hadd
      exact hfiles files hr f hf t ht
  rintro t (⟨script, listing, hf, rfl⟩ | ht)
  · obtain ⟨a, hm, -, rfl⟩ := exists_of_find?_listings hl hf
    exact hadded a hm
  · rcases hcombined with ⟨-, hnone⟩ | ⟨-, u, hu, hsome⟩
    · cases hnone.symm.trans ht
    · cases hsome.symm.trans ht
      refine hmerge _ _ (fun v hv => ?_) hu
      obtain ⟨s, a, hfind, rfl⟩ := mem_detectable_addAll.1 hv
      exact hadded a (List.mem_reverse.1 (List.mem_of_find?_eq_some hfind))

theorem built_of_build (h : build builtIn folder = .ok c) : ∀ t, c.Has t → t.Built :=
  forall_tables_of_build h (fun _ _ _ ht => .ofRules ht) (fun _ _ _ _ _ ht => .ofParts ht)
    fun _ _ _ ht => .ofRules ht

variable (hfolder : ∀ f, folder = some f → f.Legible)
include hfolder

theorem legible_of_build (h : build builtIn folder = .ok c) : ∀ t, c.Has t → t.Legible := by
  refine forall_tables_of_build h (fun s hs t => Scheme.legible_table hs) (fun files hr f hf t ht => ?_)
    fun tables t htables ht => ?_
  · obtain ⟨-, hfile⟩ := RulesFolder.Legible.of_readsAll hfolder hr hf
    obtain ⟨hname, hparts⟩ := RuleTable.parts_of_ofParts ht
    refine ⟨hname ▸ hfile.script, fun r hm =>
      Json.legible_string.1 (hfile.rules (.string r.1, .string r.2) ?_)⟩
    rw [hparts]
    exact List.mem_map_of_mem hm
  · obtain ⟨hname, hrules⟩ := RuleTable.rules_of_ofRules ht
    refine ⟨hname ▸ Text.whole_codePoints _, fun r hm => ?_⟩
    rw [hrules] at hm
    obtain ⟨u, hu, hr⟩ := List.mem_flatMap.1 hm
    exact (htables u hu).fragments r hr

theorem whole_of_mem_scripts (h : build builtIn folder = .ok c) (hs : script ∈ c.scripts) :
    script.Whole := by
  obtain ⟨listing, hf⟩ := Dictionary.mem_keys_iff_exists.1 (mem_scripts.1 hs)
  have hlegible := legible_of_build hfolder h _ (.inl ⟨script, listing, hf, rfl⟩)
  obtain ⟨files, first, more, -, -, hc⟩ := exists_added h
  obtain ⟨a, -, rfl, rfl⟩ := exists_of_find?_listings (combine_eq_ok_iff.1 hc).1 hf
  exact hlegible.name

theorem whole_of_mem_languages (h : build builtIn folder = .ok c) {language : Text}
    (hl : language ∈ c.languages.keys) : language.Whole := by
  obtain ⟨files, first, more, hr, ha, hc⟩ := exists_added h
  rcases ((ha.holds hc).mem_languages language).1 hl with ⟨s, hs, hm⟩ | ⟨f, hf, hm⟩
  · have hschemes : ∀ s ∈ schemes builtIn, ∀ language ∈ s.languages, Text.Whole language := by
      cases builtIn <;> decide +kernel
    exact hschemes s hs language hm
  · exact (RulesFolder.Legible.of_readsAll hfolder hr hf).2.languages language hm

theorem whole_source (h : build builtIn folder = .ok c) {listing : Listing}
    (hl : c.listings.find? script = some listing) : listing.source.text.Whole := by
  obtain ⟨files, first, more, hr, ha, hc⟩ := exists_added h
  obtain ⟨a, ham, -, rfl⟩ := exists_of_find?_listings (combine_eq_ok_iff.1 hc).1 hl
  change a.source.text.Whole
  rcases List.mem_append.1 ham with hm | hm
  · rw [ha.source_of_mem_first hm]
    exact Text.whole_codePoints _
  · have hfile : a.file ∈ files := ha.files_eq ▸ List.mem_map_of_mem hm
    rw [ha.source_of_mem_more hm]
    exact (RulesFolder.Legible.of_readsAll hfolder hr hfile).1

theorem whole_text_of_build_eq_error {e : Error} (h : build builtIn folder = .error e) : e.text.Whole := by
  refine Error.whole_text ?_
  cases fails_of_build_eq_error h with
  | no_folder hf => simpa [Error.plainTexts] using (hfolder _ hf).path
  | @bad_file f entries before bad after e hf hplace hes _ _ he =>
    have hlegible := hfolder f hf
    obtain ⟨hname, hentry⟩ := hlegible.files bad.1 bad.2
      (hes.hasFile hplace (List.mem_append_right _ List.mem_cons_self))
    exact RulesFolder.whole_of_addition_eq_error hlegible.path hname hentry he
  | clash => simp [Error.plainTexts, combinedName]

end Catalog

end Romanization
