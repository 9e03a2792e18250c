import Romanization.Proofs.Catalog.Standard
import Romanization.Proofs.Romanizer
import Romanization.Proofs.Script.Runs
import Romanization.Service

namespace Romanization.Service

open Catalog (combinedName)

def romanized (request : Request) (text : Text) (r : Romanizer) : Answer where
  input := request.text
  output := r.outcome .usual (r.table.clusters text)
  scripts := text.scripts
  vernacular := true
  table := some r.table.name
  clusters := if request.clusters then r.table.clusters text else []

variable {service : Service} {c : Catalog} {request : Request} {t : RuleTable} {mode : CaseMode}

theorem answer_of_table {text : Text} (hp : Text.tidy (request.text.getD []) service.composes = text)
    (ht : tableFor c text.scripts request.script request.language = .ok (some t))
    (hm : CaseMode.ofJson (if request.case.isVoid then service.case else request.case) = .ok mode) :
    service.answer c request = .ok (romanized request text ⟨t, mode⟩) := by
  unfold answer
  simp only [hp, ht, hm, bind, Except.bind, pure, Except.pure,
    Romanizer.transliterateWithClusters_eq, Romanizer.transliterate_eq_outcome]
  unfold romanized
  cases request.clusters <;> rfl

section

variable {scripts : List Script} {script language : Option Text}

theorem tableFor_of_script (hs : named script) :
    tableFor c scripts script language = (c.table script).map some := by
  rw [tableFor, if_pos hs]
  cases c.table script <;> rfl

theorem tableFor_of_language (hs : ¬ named script) (hl : named language) :
    tableFor c scripts script language =
      (c.scriptOfLanguage language >>= fun script => c.table (some script)).map some := by
  rw [tableFor, if_neg hs, if_pos hl]
  cases c.scriptOfLanguage language with
  | error e => rfl
  | ok script => cases h : c.table (some script) <;> simp [bind, Except.bind, Except.map, pure, Except.pure, h]

theorem tableFor_of_letters (hs : ¬ named script) (hl : ¬ named language)
    (hall : scripts.all (· == .latin) = false) :
    tableFor c scripts script language = c.combinedTable.map some := by
  rw [tableFor, if_neg hs, if_neg hl, if_neg (Bool.eq_false_iff.1 hall)]
  cases c.combinedTable <;> rfl

theorem tableFor_of_latin (hs : ¬ named script) (hl : ¬ named language)
    (hall : scripts.all (· == .latin)) : tableFor c scripts script language = .ok none := by
  rw [tableFor, if_neg hs, if_neg hl, if_pos hall]
  rfl

end

theorem named_some_iff {name : Text} : named (some name) ↔ name ≠ [] := by
  cases name <;> simp [named]

theorem tableFor_named {name : Text} (hn : name ≠ []) (ht : c.table (some name) = .ok t)
    (scripts : List Script) (language : Option Text) :
    tableFor c scripts (some name) language = .ok (some t) := by
  rw [tableFor_of_script (named_some_iff.2 hn), ht]
  rfl

theorem tableFor_unnamed {scripts : List Script} {script language : Option Text}
    (hs : named script = false) (hl : named language = false) {s : Script} (hm : s ∈ scripts)
    (hne : s ≠ .latin) (ht : c.combined = some t) :
    tableFor c scripts script language = .ok (some t) := by
  have hall : scripts.all (· == .latin) = false := by
    rw [List.all_eq_false]
    exact ⟨s, hm, by simpa using hne⟩
  rw [tableFor_of_letters (Bool.eq_false_iff.1 hs) (Bool.eq_false_iff.1 hl) hall, Catalog.combinedTable, ht]
  rfl

theorem mem_of_one_script {s : Script} {scripts : List Script}
    (h : scripts ∈ [[s], [s, .latin], [.latin, s]]) :
    s ∈ scripts ∧ ∀ u ∈ scripts, u = s ∨ u = .latin := by
  simp only [List.mem_cons, List.not_mem_nil, or_false] at h
  rcases h with rfl | rfl | rfl
  · simp
  · simp
  · simp [or_comm]

theorem combined_agrees_with_scripts :
    ∃ (c : Catalog) (combined : RuleTable) (tables : Script → RuleTable),
      Catalog.standard = .ok c ∧ c.table (some combinedName) = .ok combined ∧
      (∀ s, s ≠ .latin → c.table (some s.name) = .ok (tables s)) ∧
      (∀ text, combined.clusters text =
        Cluster.concat (RuleTable.readToken tables) 0 text.tokens) ∧
      ∀ (service : Service) (request : Request) (mode : CaseMode) (s : Script), s ≠ .latin →
        named request.script = false → named request.language = false →
        CaseMode.ofJson (if request.case.isVoid then service.case else request.case) = .ok mode →
        (Text.tidy (request.text.getD []) service.composes).scripts ∈
          [[s], [s, .latin], [.latin, s]] →
        ∃ a b, service.answer c request = .ok a ∧
          service.answer c { request with script := some s.name } = .ok b ∧
          a.output = b.output ∧ a.clusters = b.clusters := by
  obtain ⟨c, hc, hl, hu⟩ := Catalog.standard_eq_ok
  have hj := Scheme.joins_allTable combinedName
  refine ⟨c, Scheme.allTable combinedName, Scheme.tableFor, hc, Catalog.table_combinedName hu, ?_⟩
  refine ⟨fun s hs => Catalog.table_name hl hs, hj.clusters_eq_concat, ?_⟩
  intro service request mode s hs hscript hlanguage hm hscripts
  generalize hp : Text.tidy (request.text.getD []) service.composes = text at hscripts
  obtain ⟨hin, hmem⟩ := mem_of_one_script hscripts
  have heq : (Scheme.allTable combinedName).clusters text = (Scheme.tableFor s).clusters text :=
    hj.clusters_eq fun d hd u hu => hmem u (Text.mem_scripts hd hu)
  have hname : s.name ≠ [] := by
    cases s <;> decide
  refine ⟨_, _, answer_of_table hp (tableFor_unnamed hscript hlanguage hin hs hu) hm,
    answer_of_table hp (tableFor_named hname (Catalog.table_name hl hs) _ _) hm, ?_, ?_⟩
  · simp only [romanized, heq]
    rfl
  · simp only [romanized, heq]

theorem combined_agrees_with_scripts_cyrillic :
    ∃ c a b, Catalog.standard = .ok c ∧
      answer ⟨true, .string CaseMode.upper.name⟩ c
        ⟨some "Привет, hello".codePoints, none, none, .null, true⟩ = .ok a ∧
      answer ⟨true, .string CaseMode.upper.name⟩ c
        ⟨some "Привет, hello".codePoints, some Script.cyrillic.name, none, .null, true⟩ = .ok b ∧
      a.output = b.output ∧ a.clusters = b.clusters := by
  obtain ⟨c, combined, tables, hc, -, -, -, h⟩ := combined_agrees_with_scripts
  obtain ⟨a, b, hab⟩ := h ⟨true, .string CaseMode.upper.name⟩
    ⟨some "Привет, hello".codePoints, none, none, .null, true⟩ .upper .cyrillic (by decide) rfl rfl
    rfl (by decide)
  exact ⟨c, a, b, hc, hab⟩

end Romanization.Service
