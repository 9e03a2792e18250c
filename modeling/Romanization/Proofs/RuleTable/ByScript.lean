import Romanization.Proofs.RuleTable.Cut
import Romanization.Proofs.Script.Tokens

namespace Romanization

def Cluster.concat (read : Text → List Cluster) : (offset : Nat) → List Text → List Cluster
  | _, [] => []
  | offset, piece :: pieces =>
    (read piece).map (Cluster.shift offset) ++ concat read (offset + piece.length) pieces

namespace RuleTable

def readToken (tables : Script → RuleTable) (token : Text) : List Cluster :=
  match Script.ofText? token with
  | none | some .latin => Cluster.passing 0 token
  | some s => (tables s).clusters token

structure Joins (t : RuleTable) (tables : Script → RuleTable) : Prop where
  mem_rules : ∀ p f, (p, f) ∈ t.rules ↔ ∃ s, (p, f) ∈ (tables s).rules
  proper : ∀ s, (tables s).Proper
  within : ∀ s, ∀ p ∈ (tables s).patterns, ∀ c ∈ p, s.contains c
  latin : (tables .latin).rules = []

namespace Joins

variable {t : RuleTable} {tables : Script → RuleTable} {text : Text}

theorem mem_patterns (h : t.Joins tables) {p : Text} :
    p ∈ t.patterns ↔ ∃ s, p ∈ (tables s).patterns := by
  simp only [patterns, Dictionary.mem_keys, h.mem_rules]
  exact exists_comm

theorem isProper (h : t.Joins tables) : t.Proper := by
  intro hm
  obtain ⟨s, hs⟩ := h.mem_patterns.1 hm
  exact h.proper s hs

theorem exists_unit (h : t.Joins tables) {s : Script} {p : Text} (hp : p ∈ (tables s).patterns)
    (hs : p ⊆ text) : ∃ c ∈ text, s.contains c := by
  cases p with
  | nil => exact absurd hp (h.proper s)
  | cons c p =>
    exact ⟨c, hs List.mem_cons_self, h.within s _ hp c List.mem_cons_self⟩

theorem clusters_eq (h : t.Joins tables) {s : Script}
    (hc : ∀ c ∈ text, ∀ u : Script, u.contains c → u = s ∨ u = .latin) :
    t.clusters text = (tables s).clusters text := by
  apply h.isProper.clusters_congr (h.proper s)
  intro p f hp
  rw [h.mem_rules]
  constructor
  · rintro ⟨u, hu⟩
    obtain ⟨c, hm, hu'⟩ := h.exists_unit (Dictionary.mem_keys.2 ⟨f, hu⟩) hp
    cases hc c hm u hu' with
    | inl he => exact he ▸ hu
    | inr he =>
      rw [he, h.latin] at hu
      cases hu
  · intro hs
    exact ⟨s, hs⟩

theorem clusters_eq_passing (h : t.Joins tables)
    (hc : ∀ c ∈ text, ∀ u : Script, u.contains c → u = .latin) :
    t.clusters text = Cluster.passing 0 text := by
  apply h.isProper.clustersFrom_eq_passing
  intro p hm hp
  obtain ⟨u, hu⟩ := h.mem_patterns.1 hm
  obtain ⟨c, hm, hu'⟩ := h.exists_unit hu hp.subset
  rw [hc c hm u hu', patterns, h.latin] at hu
  cases hu

theorem clusters_token (h : t.Joins tables) (c : CodePoint) (rest : Text) :
    t.clusters (c :: rest.takeWhile (Script.joins c)) =
      readToken tables (c :: rest.takeWhile (Script.joins c)) := by
  have class_eq : ∀ d ∈ c :: rest.takeWhile (Script.joins c), ∀ u : Script, u.contains d →
      Script.ofCodePoint? c = some u := by
    intro d hd u hu
    rw [← Text.ofCodePoint?_of_mem_token hd, Script.ofCodePoint?_eq_some_iff.2 hu]
  have of_some : ∀ s, Script.ofCodePoint? c = some s →
      ∀ d ∈ c :: rest.takeWhile (Script.joins c), ∀ u : Script, u.contains d → u = s := by
    intro s hs d hd u hu
    exact Option.some.inj ((class_eq d hd u hu).symm.trans hs)
  rw [readToken, Text.ofText?_token]
  cases hs : Script.ofCodePoint? c with
  | none =>
    apply h.clusters_eq_passing
    intro d hd u hu
    cases hs.symm.trans (class_eq d hd u hu)
  | some s =>
    have hc := of_some s hs
    cases s with
    | latin => exact h.clusters_eq_passing hc
    | _ => exact h.clusters_eq fun d hd u hu => .inl (hc d hd u hu)

theorem parts_token (h : t.Joins tables) (c : CodePoint) (rest : Text) :
    t.Parts (c :: rest.takeWhile (Script.joins c)) (rest.dropWhile (Script.joins c)) := by
  intro s hs hne p hp hstart
  cases hrest : rest.dropWhile (Script.joins c) with
  | nil => rwa [hrest, List.append_nil] at hstart
  | cons e more =>
    rw [hrest] at hstart
    cases prefix_append_cons hstart with
    | inl hp => exact hp
    | inr hp' =>
      obtain ⟨more, rfl⟩ := hp'
      obtain ⟨u, hu⟩ := h.mem_patterns.1 hp
      obtain ⟨d, s, rfl⟩ := List.exists_cons_of_ne_nil hne
      have hd := Script.ofCodePoint?_eq_some_iff.2 (h.within u _ hu d (by simp))
      have he := Script.ofCodePoint?_eq_some_iff.2 (h.within u _ hu e (by simp))
      apply absurd _ (Text.ofCodePoint?_after_token hrest)
      rw [he, ← hd, Text.ofCodePoint?_of_mem_token (hs.subset List.mem_cons_self)]

theorem clustersFrom_eq_concat (h : t.Joins tables) (offset : Nat) (text : Text) :
    t.clustersFrom offset text = Cluster.concat (readToken tables) offset text.tokens := by
  fun_induction Text.tokens text generalizing offset with
  | case1 => rfl
  | case2 c rest ih =>
    have hs : c :: rest =
        (c :: rest.takeWhile (Script.joins c)) ++ rest.dropWhile (Script.joins c) := by
      rw [List.cons_append, List.takeWhile_append_dropWhile]
    rw [hs, h.isProper.clustersFrom_append (h.parts_token c rest), ih,
      h.isProper.clustersFrom_eq_map_shift offset, h.clusters_token]
    rfl

theorem clusters_eq_concat (h : t.Joins tables) (text : Text) :
    t.clusters text = Cluster.concat (readToken tables) 0 text.tokens :=
  h.clustersFrom_eq_concat 0 text

end Romanization.RuleTable.Joins
