import Romanization.Proofs.Catalog.Failure
import Romanization.Proofs.Catalog.Reachable
import Romanization.Proofs.Service.Routing
import Romanization.Proofs.Text.Blank

/-! One more rule file, for a script that no text is told by. Its table and its languages stand beside the
others: whether a catalog is built does not depend on it, and only who asks for it by a name gets it. -/

namespace Romanization

namespace Text

theorem exists_insertSorted_eq (t : Text) (us : List Text) :
    ∃ before after, us = before ++ after ∧ insertSorted t us = before ++ t :: after := by
  induction us with
  | nil => exact ⟨[], [], rfl, rfl⟩
  | cons u us ih =>
    unfold insertSorted
    split
    · obtain ⟨before, after, rfl, h⟩ := ih
      exact ⟨u :: before, after, rfl, congrArg (u :: ·) h⟩
    · exact ⟨[], u :: us, rfl, rfl⟩

theorem lower_trim {t : Text} (h : t.lower = t) : t.trim.lower = t.trim := by
  refine lowerAfter_of_isLow (fun c hc => ?_) []
  have hm : c ∈ t.lower := h.symm ▸ trim_subset t hc
  exact isLow_of_mem_lowerAfter hm

end Text

namespace Dictionary

variable {α : Type} (p : Text → Bool)

theorem filter_put (d : Dictionary α) (key : Text) (a : α) :
    (d.put key a).filter (fun e => p e.1) =
      if p key then put (d.filter fun e => p e.1) key a else d.filter fun e => p e.1 := by
  induction d with
  | nil => cases hk : p key <;> simp [put, hk]
  | cons e d ih =>
    by_cases he : e.1 = key
    · subst he
      cases hk : p e.1 <;> simp [put, hk]
    · cases hk : p key <;> cases hp : p e.1 <;> simp_all [put]

theorem filter_foldl_put (entries d : Dictionary α) :
    (entries.foldl (fun d e => d.put e.1 e.2) d).filter (fun e => p e.1) =
      (entries.filter fun e => p e.1).foldl (fun d e => put d e.1 e.2) (d.filter fun e => p e.1) := by
  induction entries generalizing d with
  | nil => rfl
  | cons e entries ih =>
    rw [List.foldl_cons, ih, filter_put]
    cases he : p e.1 <;> simp [he]

end Dictionary

open Catalog (Addition)

namespace RulesFolder

variable {entries : Dictionary Entry} {name : Text} {entry : Entry}

theorem exists_ruleEntries_put (new : name ∉ entries.keys) (ending : name.endsWith ".json".codePoints) :
    ∃ before after, ruleEntries entries = before ++ after ∧
      ruleEntries (entries.put name entry) = before ++ (name, entry) :: after := by
  have hnames : ruleNames (entries.put name entry) = Text.insertSorted name (ruleNames entries) := by
    unfold ruleNames
    rw [Dictionary.put_of_notMem new, Dictionary.keys_append, List.filter_append]
    refine (Text.sort_eq_of_perm List.perm_append_comm).trans ?_
    have hone : [name].filter (·.endsWith ".json".codePoints) = [name] := List.filter_cons_of_pos ending
    rw [Dictionary.keys_cons, Dictionary.keys_nil, hone]
    rfl
  obtain ⟨before, after, hsplit, hinsert⟩ := Text.exists_insertSorted_eq name (ruleNames entries)
  have hold : ∀ other ∈ ruleNames entries,
      ((entries.put name entry).find? other).map (other, ·) = (entries.find? other).map (other, ·) := by
    intro other ho
    have hk := (mem_ruleNames.1 ho).1
    rw [Dictionary.find?_put, if_neg fun he : name = other => new (he ▸ hk)]
  refine ⟨before.filterMap fun n => (entries.find? n).map (n, ·),
    after.filterMap fun n => (entries.find? n).map (n, ·), ?_, ?_⟩
  · change (ruleNames entries).filterMap _ = _
    rw [hsplit, List.filterMap_append]
  · change (ruleNames (entries.put name entry)).filterMap _ = _
    rw [hsplit, List.forall_mem_append] at hold
    rw [hnames, hinsert, List.filterMap_append, List.filterMap_cons, Dictionary.find?_put, if_pos rfl,
      List.filterMap_congr hold.1, List.filterMap_congr hold.2]
    rfl

/-- What the new file adds comes in between what the others add, or it is not reached. -/
theorem additions_put (path : Text) (new : name ∉ entries.keys)
    (ending : name.endsWith ".json".codePoints) {a : Addition}
    (ha : addition ⟨path, .folder entries⟩ (name, entry) = .ok a) :
    (∃ first last, additions (some ⟨path, .folder entries⟩) = .ok (first ++ last) ∧
      additions (some ⟨path, .folder (entries.put name entry)⟩) = .ok (first ++ a :: last)) ∨
    ∃ e, additions (some ⟨path, .folder entries⟩) = .error e ∧
      additions (some ⟨path, .folder (entries.put name entry)⟩) = .error e := by
  obtain ⟨before, after, hold, hnew⟩ := @exists_ruleEntries_put entries name entry new ending
  -- a file is read by the path of its folder, whatever else is in it
  let read : Text × Entry → Except Error Addition := addition ⟨path, .nothing⟩
  have hread : ∀ es, additions (some ⟨path, .folder es⟩) = (ruleEntries es).mapM read := fun _ => rfl
  rw [hread, hread, hold, hnew, List.mapM_append, List.mapM_append, List.mapM_cons,
    show read (name, entry) = .ok a from ha]
  cases before.mapM read with
  | error e => exact .inr ⟨e, rfl, rfl⟩
  | ok first =>
    cases after.mapM read with
    | error e => exact .inr ⟨e, rfl, rfl⟩
    | ok last => exact .inl ⟨first, last, rfl, rfl⟩

end RulesFolder

namespace Catalog

variable {c d : Catalog} {a : Addition} {first last : List Addition}

theorem find?_reverse_insert {α : Type} (p : α → Bool) {x : α} (h : p x = false) (first last : List α) :
    (first ++ x :: last).reverse.find? p = (first ++ last).reverse.find? p := by
  simp [List.find?_append, h]

theorem detectable_eq (c : Catalog) :
    c.detectable = (c.listings.filter fun e => Script.all.any (·.name == e.1)).map (·.2.table) := by
  rw [detectable, ← List.filterMap_eq_map, List.filterMap_filter]
  rfl

theorem detectable_insert (unknown : ∀ script : Script, script.name ≠ a.table.name) :
    (empty.addAll (first ++ a :: last)).detectable = (empty.addAll (first ++ last)).detectable := by
  have hn : Script.all.any (·.name == a.table.name) = false := by
    rw [← Bool.not_eq_true, any_name_iff]
    exact fun ⟨script, h⟩ => unknown script h
  simp only [detectable_eq, listings_addAll, List.map_append, List.map_cons,
    Dictionary.filter_foldl_put fun key => Script.all.any (·.name == key), List.filter_append,
    List.filter_cons, hn, Bool.false_eq_true, if_false]

theorem exists_combine_of_detectable {b : Catalog} (h : b.detectable = c.detectable)
    (hd : c.combine = .ok d) : ∃ e, b.combine = .ok e ∧ e.combined = d.combined := by
  obtain ⟨-, -, hcombined⟩ := combine_eq_ok_iff.1 hd
  exact ⟨{ b with combined := d.combined }, combine_eq_ok_iff.2 ⟨rfl, rfl, h ▸ hcombined⟩, rfl⟩

/-- A catalog as another one, but for what a script and some languages stand for. -/
structure Beside (script : Text) (languages : List Text) (c d : Catalog) : Prop where
  combined : d.combined = c.combined
  listings : ∀ other, other ≠ script → d.listings.find? other = c.listings.find? other
  languages : ∀ language, language ∉ languages → d.languages.find? language = c.languages.find? language

theorem beside_of_combine (unknown : ∀ script : Script, script.name ≠ a.table.name)
    (hc : (empty.addAll (first ++ last)).combine = .ok c)
    (hd : (empty.addAll (first ++ a :: last)).combine = .ok d) :
    Beside a.table.name a.languages c d := by
  obtain ⟨hcl, hcg, -⟩ := combine_eq_ok_iff.1 hc
  obtain ⟨hdl, hdg, -⟩ := combine_eq_ok_iff.1 hd
  obtain ⟨e, he, hcombined⟩ := exists_combine_of_detectable (detectable_insert unknown) hc
  cases he.symm.trans hd
  refine ⟨hcombined, fun other hne => ?_, fun language hl => ?_⟩
  · have hp : (a.table.name == other) = false := beq_eq_false_iff_ne.2 (Ne.symm hne)
    rw [find?_listings hdl, find?_listings hcl,
      find?_reverse_insert (fun b : Addition => b.table.name == other) hp]
  · have hp : a.languages.contains language = false := by simpa using hl
    rw [find?_languages hdg, find?_languages hcg,
      find?_reverse_insert (fun b : Addition => b.languages.contains language) hp]

structure Custom (name : Text) (entry : Entry) (s : Scheme) : Prop where
  ending : name.endsWith ".json".codePoints
  gives : entry.Gives name s
  unknown : ∀ script : Script, script.name ≠ s.script

section Custom

variable {entries : Dictionary Entry} {name : Text} {entry : Entry} {s : Scheme}

theorem Custom.build (h : Custom name entry s) (new : name ∉ entries.keys) (builtIn : Bool) (path : Text) :
    ((∃ d, Catalog.build builtIn (some ⟨path, .folder (entries.put name entry)⟩) = .ok d) ↔
      ∃ c, Catalog.build builtIn (some ⟨path, .folder entries⟩) = .ok c) ∧
    ∀ c d, Catalog.build builtIn (some ⟨path, .folder entries⟩) = .ok c →
      Catalog.build builtIn (some ⟨path, .folder (entries.put name entry)⟩) = .ok d →
      Beside s.script s.languages c d := by
  obtain ⟨a, ha, rfl⟩ := RulesFolder.addition_of_gives (e := (name, entry)) ⟨path, .folder entries⟩ h.gives
  obtain ⟨schemes, hschemes, -, -⟩ := exists_additions_schemes builtIn
  rcases RulesFolder.additions_put path new h.ending ha with ⟨first, last, hold, hnew⟩ | ⟨e, hold, hnew⟩
  · have hbuild : ∀ {folder more}, RulesFolder.additions folder = .ok more →
        Catalog.build builtIn folder = (empty.addAll (schemes ++ more)).combine := by
      intro folder more hm
      rw [build_eq_of_schemes hschemes, hm]
      rfl
    have hdetectable := @detectable_insert a (schemes ++ first) last h.unknown
    rw [hbuild hold, hbuild hnew, ← List.append_assoc, ← List.append_assoc]
    refine ⟨⟨fun ⟨d, hd⟩ => ?_, fun ⟨c, hc⟩ => ?_⟩, fun c d hc hd => beside_of_combine h.unknown hc hd⟩
    · exact (exists_combine_of_detectable hdetectable.symm hd).imp fun _ he => he.1
    · exact (exists_combine_of_detectable hdetectable hc).imp fun _ he => he.1
  · rw [build_eq_of_schemes hschemes, build_eq_of_schemes hschemes, hold, hnew]
    exact ⟨Iff.rfl, nofun⟩

end Custom

theorem key_of_mem_scripts {builtIn : Bool} {folder : Option RulesFolder} {script : Text}
    (h : build builtIn folder = .ok c) (hm : script ∈ c.scripts) : key (some script) = script.trim :=
  Text.lower_trim (lower_script h hm)

namespace Beside

variable {script : Text} {languages : List Text} (h : Beside script languages c d)
include h

theorem combinedTable_eq : d.combinedTable = c.combinedTable := by
  unfold combinedTable
  rw [h.combined]

theorem table_eq {name : Option Text} (hne : key name ≠ script) : d.table name = c.table name := by
  unfold table
  rw [h.combinedTable_eq, h.listings _ hne]

theorem scriptOfLanguage_eq {language : Option Text} (hn : key language ∉ languages) :
    d.scriptOfLanguage language = c.scriptOfLanguage language := by
  unfold scriptOfLanguage
  rw [h.languages _ hn]

end Beside

end Catalog

namespace Service

open Catalog (Beside Custom key)

variable {c d : Catalog} {request : Request}

theorem answer_congr {service : Service}
    (h : ∀ scripts, tableFor d scripts request.script request.language =
      tableFor c scripts request.script request.language) :
    service.answer d request = service.answer c request := by
  unfold answer
  simp only [h]

theorem tableFor_beside {script : Text} {languages : List Text} (h : Beside script languages c d)
    (hn : ∀ language u, c.scriptOfLanguage language = .ok u → key (some u) ≠ script)
    (hscript : named request.script → key request.script ≠ script)
    (hlanguage : named request.language → key request.language ∉ languages) (scripts : List Script) :
    tableFor d scripts request.script request.language =
      tableFor c scripts request.script request.language := by
  by_cases hs : named request.script
  · rw [tableFor_of_script hs, tableFor_of_script hs, h.table_eq (hscript hs)]
  by_cases hl : named request.language
  · rw [tableFor_of_language hs hl, tableFor_of_language hs hl, h.scriptOfLanguage_eq (hlanguage hl)]
    cases hu : c.scriptOfLanguage request.language with
    | error e => rfl
    | ok u => exact congrArg (Except.map some) (h.table_eq (hn _ u hu))
  · unfold tableFor
    rw [if_neg hs, if_neg hl, if_neg hs, if_neg hl, h.combinedTable_eq]

/-- One more rule file, for a script that no text is told by, does not decide whether a catalog is built, and
changes no answer but to those who name its script or one of its languages. The names of the other scripts
must not come to its own when they are trimmed, as they are where a language leads to them. -/
theorem answer_beside_custom (builtIn : Bool) (path : Text) {entries : Dictionary Entry} {name : Text}
    {entry : Entry} {s : Scheme} (new : name ∉ entries.keys) (custom : Custom name entry s) :
    let folder : RulesFolder := ⟨path, .folder entries⟩
    let more : RulesFolder := ⟨path, .folder (entries.put name entry)⟩
    ((∃ d, Catalog.build builtIn (some more) = .ok d) ↔
      ∃ c, Catalog.build builtIn (some folder) = .ok c) ∧
    ∀ c d, Catalog.build builtIn (some folder) = .ok c → Catalog.build builtIn (some more) = .ok d →
      (∀ script ∈ c.scripts, script.trim ≠ s.script) →
      ∀ (service : Service) (request : Request),
        (named request.script → key request.script ≠ s.script) →
        (named request.language → key request.language ∉ s.languages) →
        service.answer d request = service.answer c request := by
  obtain ⟨succeeds, beside⟩ := custom.build new builtIn path
  refine ⟨succeeds, fun c d hc hd free service request hscript hlanguage => ?_⟩
  refine answer_congr (tableFor_beside (beside c d hc hd) (fun language u hu => ?_) hscript hlanguage)
  -- a language leads to a script of the catalog only
  have hm : u ∈ c.scripts := by
    cases hf : c.languages.find? (key language) with
    | none => cases (Catalog.scriptOfLanguage_eq_error hf).symm.trans hu
    | some v =>
      cases (Catalog.scriptOfLanguage_eq_ok hf).symm.trans hu
      exact Catalog.script_of_language hc hf
  rw [Catalog.key_of_mem_scripts hc hm]
  exact free u hm

def cyrillicEntries : Dictionary Entry := [("b.json".codePoints, .file (Utf8.encode
  "\x7b\"script\": \"Cyrillic\", \"languages\": [\"ru\"], \"rules\": [[\"д\", \"d\"]]\x7d".codePoints))]

def moldovan : Entry := .file (Utf8.encode
  "\x7b\"script\": \"Moldovan\", \"languages\": [\"mo\"], \"rules\": [[\"д\", \"dz\"]]\x7d".codePoints)

theorem custom_moldovan : ∃ s, Custom "a.json".codePoints moldovan s ∧ s.script = "moldovan".codePoints := by
  have h : (RulesFolder.addition ⟨[], .nothing⟩ ("a.json".codePoints, moldovan)).toOption.map
      (·.table.name) = some "moldovan".codePoints := by
    decide +kernel
  obtain ⟨a, ha, hname⟩ := exists_of_toOption_map_eq h
  refine ⟨a.scheme, ⟨by decide, RulesFolder.gives_of_addition ha, fun script => ?_⟩, hname⟩
  change script.name ≠ a.table.name
  rw [hname]
  cases script <;> decide

theorem answer_beside_custom_moldovan :
    ∃ c d s, Catalog.build false (some ⟨"d".codePoints, .folder cyrillicEntries⟩) = .ok c ∧
      Catalog.build false
        (some ⟨"d".codePoints, .folder (cyrillicEntries.put "a.json".codePoints moldovan)⟩) = .ok d ∧
      Custom "a.json".codePoints moldovan s ∧
      ∀ service : Service, service.answer d ⟨some "да".codePoints, none, none, .null, true⟩ =
        service.answer c ⟨some "да".codePoints, none, none, .null, true⟩ := by
  have h : (Catalog.build false (some ⟨"d".codePoints, .folder cyrillicEntries⟩)).toOption.map
      Catalog.scripts = some ["cyrillic".codePoints] := by
    decide +kernel
  obtain ⟨c, hc, hscripts⟩ := exists_of_toOption_map_eq h
  obtain ⟨s, hs, hname⟩ := custom_moldovan
  have new : "a.json".codePoints ∉ cyrillicEntries.keys := by decide
  obtain ⟨succeeds, same⟩ := answer_beside_custom false "d".codePoints new hs
  obtain ⟨d, hd⟩ := succeeds.2 ⟨c, hc⟩
  have free : ∀ script ∈ c.scripts, script.trim ≠ s.script := by
    rw [hscripts, hname]
    decide
  exact ⟨c, d, s, hc, hd, hs, fun service => same c d hc hd free service _ nofun nofun⟩

end Service

end Romanization
