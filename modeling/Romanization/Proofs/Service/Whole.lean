import Romanization.Proofs.Catalog.Legible
import Romanization.Proofs.Http.Response
import Romanization.Proofs.Service.Routing

namespace Romanization

namespace RuleTable

variable {t : RuleTable} {text : Text}

theorem Proper.whole_output (ht : t.Proper) (hl : t.Legible) (hw : text.Whole) {k : Cluster}
    (hk : k ∈ t.clusters text) : k.output.Whole := by
  intro c hc
  rcases ht.of_mem_outputs (List.mem_flatMap.2 ⟨k, hk, hc⟩) with ⟨r, hr, hm⟩ | ⟨hm, -⟩
  · exact hl.fragments r hr c hm
  · exact hw c hm

end RuleTable

theorem Catalog.Names.has {c : Catalog} {name : Option Text} {t : RuleTable} (h : c.Names name t) :
    c.Has t := by
  cases h with
  | combined _ present => exact .inr present
  | listed _ found => exact .inl ⟨_, _, found, rfl⟩

namespace Service

open Catalog (combinedName key)

variable {service : Service} {c : Catalog} {request : Request} {answer : Answer} {text : Text}
  {mode : CaseMode}

theorem Selects.has {t : RuleTable} (h : Selects c request text t) : c.Has t := by
  cases h with
  | script _ names => exact names.has
  | language _ _ _ names => exact names.has
  | letters _ _ _ present => exact .inr present

theorem answer_eq_ok
    (hm : CaseMode.ofJson (if request.case.isVoid then service.case else request.case) = .ok mode)
    (h : service.answer c request = .ok answer) :
    let text := Text.tidy (request.text.getD []) service.composes
    answer = ⟨request.text, text, text.scripts, false, none, []⟩ ∨
      ∃ t, c.Has t ∧ answer = romanized request text ⟨t, mode⟩ := by
  refine (plain_or_romanized rfl h).imp_right ?_
  rintro ⟨t, other, ht, ho, rfl⟩
  cases hm.symm.trans ho
  exact ⟨t, ht.has, rfl⟩

theorem whole_answer
    (hm : CaseMode.ofJson (if request.case.isVoid then service.case else request.case) = .ok mode)
    (htables : ∀ t, c.Has t → t.Proper ∧ t.Legible) (hw : (request.text.getD []).Whole)
    (h : service.answer c request = .ok answer) : Http.Response.WholeAnswer answer := by
  have htext := hw.tidy service.composes
  rcases answer_eq_ok hm h with rfl | ⟨t, ht, rfl⟩
  · exact ⟨hw, htext, nofun, nofun⟩
  · obtain ⟨hproper, hlegible⟩ := htables t ht
    have houtputs : ∀ k ∈ t.clusters (Text.tidy (request.text.getD []) service.composes), k.output.Whole :=
      fun k => hproper.whole_output hlegible htext
    refine ⟨hw, ?_, fun name hname => ?_, fun k hk => ?_⟩
    · exact Text.Whole.cased (Text.Whole.trim (Text.whole_flatMap.2 houtputs)) mode
    · cases hname
      exact hlegible.name
    · unfold romanized at hk
      dsimp only at hk
      split at hk
      · exact houtputs k hk
      · cases hk

inductive Asks (c : Catalog) (request : Request) : Option Text → Prop
  | script : Asks c request request.script
  | language : Asks c request request.language
  | script_of_language {language script : Text} : c.languages.find? language = some script →
      Asks c request (some script)
  | combined : Asks c request (some combinedName)

theorem table_eq_error_asked {name : Option Text} {e : Error} (h : c.table name = .error e) :
    e = .unknownName name ∨ e = .unknownName (some combinedName) := by
  unfold Catalog.table at h
  split at h
  · exact .inr (Catalog.combinedTable_eq_error_iff.1 h).2
  · split at h <;> cases h
    exact .inl rfl

theorem asks_of_tableFor_eq_error {scripts : List Script} {e : Error}
    (h : tableFor c scripts request.script request.language = .error e) :
    ∃ name, e = .unknownName name ∧ Asks c request name := by
  by_cases hs : named request.script
  · rw [tableFor_of_script hs, map_eq_error_iff] at h
    rcases table_eq_error_asked h with rfl | rfl
    · exact ⟨_, rfl, .script⟩
    · exact ⟨_, rfl, .combined⟩
  by_cases hl : named request.language
  · rw [tableFor_of_language hs hl, map_eq_error_iff, bind_eq_error_iff] at h
    cases hf : c.languages.find? (key request.language) with
    | none =>
      rw [Catalog.scriptOfLanguage_eq_error hf] at h
      rcases h with h | ⟨_, h, -⟩ <;> cases h
      exact ⟨_, rfl, .language⟩
    | some script =>
      rw [Catalog.scriptOfLanguage_eq_ok hf] at h
      rcases h with h | ⟨_, hscript, h⟩
      · cases h
      · cases hscript
        rcases table_eq_error_asked h with rfl | rfl
        · exact ⟨_, rfl, .script_of_language hf⟩
        · exact ⟨_, rfl, .combined⟩
  cases hall : scripts.all (· == .latin) with
  | true =>
    rw [tableFor_of_latin hs hl hall] at h
    cases h
  | false =>
    rw [tableFor_of_letters hs hl hall, map_eq_error_iff] at h
    exact ⟨_, (Catalog.combinedTable_eq_error_iff.1 h).2, .combined⟩

theorem asks_of_answer_eq_error {e : Error}
    (hm : CaseMode.ofJson (if request.case.isVoid then service.case else request.case) = .ok mode)
    (h : service.answer c request = .error e) : ∃ name, e = .unknownName name ∧ Asks c request name := by
  rcases ht : tableFor c (Text.tidy (request.text.getD []) service.composes).scripts request.script
      request.language with error | t
  · have he : service.answer c request = .error error := by
      unfold answer
      simp only [ht]
      rfl
    cases he.symm.trans h
    exact asks_of_tableFor_eq_error ht
  · exfalso
    cases t with
    | none =>
      unfold answer at h
      simp only [ht] at h
      cases h
    | some t => cases (answer_of_table rfl ht hm).symm.trans h

end Service

end Romanization
