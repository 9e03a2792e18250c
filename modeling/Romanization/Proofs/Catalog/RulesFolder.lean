import Romanization.Catalog.RulesFolder
import Romanization.Proofs.Dictionary
import Romanization.Proofs.Text.Sort

namespace Romanization

namespace RulesFolder

variable {folder : RulesFolder} {entries : Dictionary Entry} {es : List (Text × Entry)} {e : Text × Entry}

def ruleNames (entries : Dictionary Entry) : List Text :=
  Text.sort (entries.keys.filter (·.endsWith ".json".codePoints))

theorem mem_ruleNames {name : Text} :
    name ∈ ruleNames entries ↔ name ∈ entries.keys ∧ ".json".codePoints <:+ name := by
  rw [ruleNames, Text.mem_sort, List.mem_filter, Text.endsWith, List.isSuffixOf_iff_suffix]

theorem ruleNames_eq_iff {names : List Text} :
    ruleNames entries = names ↔
      names.Perm (entries.keys.filter fun name => ".json".codePoints <:+ name) ∧
        names.Pairwise (· ≤ ·) := by
  have hfilter : entries.keys.filter (·.endsWith ".json".codePoints) =
      entries.keys.filter fun name => ".json".codePoints <:+ name :=
    List.filter_congr fun name _ => by
      rw [Bool.eq_iff_iff, Text.endsWith, List.isSuffixOf_iff_suffix, decide_eq_true_eq]
  rw [ruleNames, hfilter, Text.sort_eq_iff]

theorem ruleEntries_map {β : Type} (entries : Dictionary Entry) (g : Text → Option Entry → β) :
    (ruleEntries entries).map (fun e => g e.1 (some e.2)) =
      (ruleNames entries).map fun name => g name (entries.find? name) := by
  change ((ruleNames entries).filterMap fun name => (entries.find? name).map (name, ·)).map _ = _
  rw [List.map_filterMap, ← List.filterMap_eq_map]
  refine List.filterMap_congr fun name hn => ?_
  obtain ⟨entry, he⟩ := Dictionary.mem_keys_iff_exists.1 (mem_ruleNames.1 hn).1
  simp [he]

theorem map_fst_ruleEntries (entries : Dictionary Entry) :
    (ruleEntries entries).map Prod.fst = ruleNames entries := by
  simpa using ruleEntries_map entries fun name _ => name

theorem mem_ruleEntries :
    e ∈ ruleEntries entries ↔ ".json".codePoints <:+ e.1 ∧ entries.find? e.1 = some e.2 := by
  obtain ⟨name, entry⟩ := e
  change (name, entry) ∈ (ruleNames entries).filterMap _ ↔ _
  simp only [List.mem_filterMap, Option.map_eq_some_iff, Prod.mk.injEq, mem_ruleNames]
  constructor
  · rintro ⟨_, ⟨-, hn⟩, _, hf, rfl, rfl⟩
    exact ⟨hn, hf⟩
  · rintro ⟨hn, hf⟩
    exact ⟨name, ⟨Dictionary.mem_keys_iff_exists.2 ⟨entry, hf⟩, hn⟩, entry, hf, rfl, rfl⟩

theorem ruleFiles_eq_ok_iff :
    folder.ruleFiles = .ok es ↔ ∃ entries, folder.place = .folder entries ∧ ruleEntries entries = es := by
  unfold ruleFiles
  cases folder.place <;> simp

/-- The entries named `*.json`, each with what stands under its name, in ascending order of their names. -/
structure InOrder (entries : Dictionary Entry) (es : List (Text × Entry)) : Prop where
  names : (es.map Prod.fst).Perm (entries.keys.filter fun name => ".json".codePoints <:+ name)
  found : ∀ e ∈ es, entries.find? e.1 = some e.2
  sorted : es.Pairwise fun e e' => e.1 ≤ e'.1

theorem inOrder_iff : InOrder entries es ↔ ruleEntries entries = es := by
  constructor
  · rintro ⟨names, found, sorted⟩
    have hnames := ruleNames_eq_iff.2 ⟨names, List.pairwise_map.2 sorted⟩
    change (ruleNames entries).filterMap _ = es
    rw [hnames, List.filterMap_map, List.filterMap_congr (g := some), List.filterMap_some]
    intro e he
    simp [found e he]
  · rintro rfl
    obtain ⟨names, sorted⟩ := ruleNames_eq_iff.1 (map_fst_ruleEntries entries).symm
    exact ⟨names, fun e he => (mem_ruleEntries.1 he).2, List.pairwise_map.1 sorted⟩

def HasFile (folder : RulesFolder) (name : Text) (entry : Entry) : Prop :=
  ∃ entries, folder.place = .folder entries ∧ ".json".codePoints <:+ name ∧
    entries.find? name = some entry

theorem InOrder.mem_iff (h : InOrder entries es) :
    e ∈ es ↔ ".json".codePoints <:+ e.1 ∧ entries.find? e.1 = some e.2 := by
  rw [← inOrder_iff.1 h, mem_ruleEntries]

theorem InOrder.hasFile (h : InOrder entries es) (hp : folder.place = .folder entries) (he : e ∈ es) :
    folder.HasFile e.1 e.2 :=
  ⟨entries, hp, h.mem_iff.1 he⟩

inductive Change
  | write (name : Text) (entry : Entry)
  | remove (name : Text)

def Change.apply (folder : Option RulesFolder) : Change → Option RulesFolder
  | .write name entry => folder.map (·.write name entry)
  | .remove name => folder.map (·.remove name)

end RulesFolder

variable {Event : Type} {change? : Event → Option RulesFolder.Change} {folder : Option RulesFolder}

def folderAfter (change? : Event → Option RulesFolder.Change) (folder : Option RulesFolder)
    (events : List Event) : Option RulesFolder :=
  (events.filterMap change?).foldl RulesFolder.Change.apply folder

theorem folderAfter_append {first second : List Event} :
    folderAfter change? folder (first ++ second) =
      folderAfter change? (folderAfter change? folder first) second := by
  rw [folderAfter, List.filterMap_append, List.foldl_append]
  rfl

end Romanization
