import Romanization.Proofs.Catalog.Additions
import Romanization.Proofs.Catalog.RulesFolder
import Romanization.Proofs.RuleTable.Built

namespace Romanization

structure FileRead where
  path : Text
  file : RuleFile

namespace Catalog

def schemes (builtIn : Bool) : List Scheme := if builtIn then Scheme.builtIn else []

end Catalog

open Catalog (Addition)

def Scheme.addition (s : Scheme) : Except Error Addition :=
  s.table.map fun t => ⟨t, .builtIn, s.languages⟩

def FileRead.addition (f : FileRead) : Except Error Addition :=
  (RuleTable.ofParts f.file.script f.file.rules).map fun t => ⟨t, .file f.path, f.file.languages⟩

namespace RulesFolder

def fileAt (folder : RulesFolder) (name : Text) (entry : Option Entry) : Except Error FileRead :=
  (RuleFile.load (folder.pathOf name) name entry).map fun file => ⟨folder.pathOf name, file⟩

def Reads (folder : RulesFolder) (files : List FileRead) : Prop :=
  ∃ entries, folder.place = .folder entries ∧
    (ruleNames entries).map (fun name => folder.fileAt name (entries.find? name)) = files.map .ok

def ReadsAll : Option RulesFolder → List FileRead → Prop
  | none, files => files = []
  | some folder, files => folder.Reads files

end RulesFolder

namespace Catalog

variable {c d : Catalog} {folder : RulesFolder}

theorem addScheme_eq (c : Catalog) (s : Scheme) : c.addScheme s = s.addition.map c.addOne := by
  unfold addScheme Scheme.addition
  cases s.table <;> rfl

theorem addFile_eq (folder : RulesFolder) (c : Catalog) (e : Text × Entry) :
    addFile folder c e = (folder.fileAt e.1 (some e.2) >>= FileRead.addition).map c.addOne := by
  unfold addFile RulesFolder.fileAt
  dsimp only
  cases RuleFile.load (folder.pathOf e.1) e.1 (some e.2) with
  | error e => rfl
  | ok file =>
    change _ = ((RuleTable.ofParts file.script file.rules).map _).map c.addOne
    dsimp only [bind, Except.bind]
    cases RuleTable.ofParts file.script file.rules <;> rfl

theorem start_eq_ok_iff {builtIn : Bool} :
    (if builtIn then ofSchemes else .ok empty) = .ok d ↔
      ∃ additions : List Addition, (schemes builtIn).map Scheme.addition = additions.map .ok ∧
        empty.addAll additions = d := by
  have h : (schemes builtIn).foldlM addScheme empty = .ok d ↔ _ := foldlM_eq_ok_iff addScheme_eq
  cases builtIn <;> exact h

theorem addFolder_eq_ok_iff :
    c.addFolder folder = .ok d ↔
      ∃ (files : List FileRead) (additions : List Addition), folder.Reads files ∧
        files.map FileRead.addition = additions.map .ok ∧ c.addAll additions = d := by
  unfold addFolder
  simp only [bind_eq_ok_iff, RulesFolder.ruleFiles_eq_ok_iff,
    foldlM_eq_ok_iff (addFile_eq folder), map_bind_eq_ok_iff]
  constructor
  · rintro ⟨_, ⟨entries, hp, rfl⟩, additions, ⟨files, hr, ha⟩, rfl⟩
    rw [RulesFolder.ruleEntries_map entries folder.fileAt] at hr
    exact ⟨files, additions, ⟨entries, hp, hr⟩, ha, rfl⟩
  · rintro ⟨files, additions, ⟨entries, hp, hr⟩, ha, rfl⟩
    rw [← RulesFolder.ruleEntries_map entries folder.fileAt] at hr
    exact ⟨_, ⟨entries, hp, rfl⟩, additions, ⟨files, hr, ha⟩, rfl⟩

theorem build_eq (builtIn : Bool) (folder : Option RulesFolder) :
    build builtIn folder =
      ((if builtIn then ofSchemes else .ok empty) >>= fun start =>
        (match folder with
          | none => .ok start
          | some folder => start.addFolder folder) >>= combine) := by
  cases builtIn <;> cases folder <;> rfl

theorem build_eq_ok_iff {builtIn : Bool} {folder : Option RulesFolder} :
    build builtIn folder = .ok c ↔
      ∃ (files : List FileRead) (ofSchemes ofFiles : List Addition),
        RulesFolder.ReadsAll folder files ∧
        (schemes builtIn).map Scheme.addition = ofSchemes.map .ok ∧
        files.map FileRead.addition = ofFiles.map .ok ∧
        (empty.addAll (ofSchemes ++ ofFiles)).combine = .ok c := by
  rw [build_eq, bind_eq_ok_iff]
  simp only [start_eq_ok_iff, addAll_append]
  cases folder with
  | none =>
    constructor
    · rintro ⟨_, ⟨first, hs, rfl⟩, hc⟩
      exact ⟨[], first, [], rfl, hs, rfl, hc⟩
    · rintro ⟨_, first, more, rfl, hs, hm, hc⟩
      cases more with
      | nil => exact ⟨_, ⟨first, hs, rfl⟩, hc⟩
      | cons a more => cases hm
  | some folder =>
    simp only [bind_eq_ok_iff, addFolder_eq_ok_iff]
    constructor
    · rintro ⟨_, ⟨first, hs, rfl⟩, _, ⟨files, more, hr, hm, rfl⟩, hc⟩
      exact ⟨files, first, more, hr, hs, hm, hc⟩
    · rintro ⟨files, first, more, hr, hs, hm, hc⟩
      exact ⟨_, ⟨first, hs, rfl⟩, _, ⟨files, more, hr, hm, rfl⟩, hc⟩

end Catalog

end Romanization
