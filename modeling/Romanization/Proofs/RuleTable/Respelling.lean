import Romanization.Proofs.RuleTable.Segmentation
import Romanization.Unicode.NormalForm

/-! Texts that differ only in how their letters are spelled, composed or taken apart. A table with the
same patterns for both spellings of a letter puts out the same for both texts. -/

namespace Romanization

/-- Some of the letters of a text in their canonical decompositions, and all else as it was. -/
inductive Text.Respelled (letter : CodePoint → Prop) : Text → Text → Prop
  | nil : Respelled letter [] []
  | keep {t u : Text} (c : CodePoint) : Respelled letter t u → Respelled letter (c :: t) (c :: u)
  | takeApart {t u : Text} {c : CodePoint} : letter c → Respelled letter t u →
      Respelled letter (c :: t) (Unicode.decomposed [c] ++ u)

namespace RuleTable

structure SameReading (t : RuleTable) (c base mark : CodePoint) : Prop where
  spelled : Unicode.decomposed [c] = [base, mark]
  rules : ∀ e f, (c :: e, f) ∈ t.rules ↔ (base :: mark :: e, f) ∈ t.rules

/-- Letters stand at the start of patterns only, and each is one, however it is spelled. -/
structure Respells (t : RuleTable) (letter : CodePoint → Prop) : Prop where
  proper : t.Proper
  tail : ∀ p ∈ t.patterns, ∀ c ∈ p.tail, ¬ letter c
  single : ∀ c, letter c → [c] ∈ t.patterns
  parts : ∀ c, letter c → Unicode.decomposed [c] = [c] ∨
    ∃ base mark, letter base ∧ t.SameReading c base mark

namespace Respells

open Text (Respelled)

variable {t : RuleTable} {letter : CodePoint → Prop} {a b q : Text} {c : CodePoint}

theorem cases_cons (h : t.Respells letter) (hr : Respelled letter (c :: a) b) :
    (∃ b', b = c :: b' ∧ Respelled letter a b') ∨
      ∃ base mark b', b = base :: mark :: b' ∧ letter c ∧ letter base ∧ t.SameReading c base mark ∧
        Respelled letter a b' := by
  cases hr with
  | keep _ hr => exact .inl ⟨_, rfl, hr⟩
  | takeApart hc hr =>
    rcases h.parts c hc with hd | ⟨base, mark, hbase, hs⟩
    · rw [hd]
      exact .inl ⟨_, rfl, hr⟩
    · rw [hs.spelled]
      exact .inr ⟨base, mark, _, rfl, hc, hbase, hs, hr⟩

theorem split_of_prefix (h : t.Respells letter) (hq : ∀ c ∈ q, ¬ letter c)
    (hr : Respelled letter a b) (hp : q <+: a) :
    q <+: b ∧ Respelled letter (a.drop q.length) (b.drop q.length) := by
  induction q generalizing a b with
  | nil => exact ⟨List.nil_prefix, hr⟩
  | cons d q ih =>
    obtain ⟨hd, hq⟩ := List.forall_mem_cons.1 hq
    obtain ⟨a, rfl, hqa⟩ := List.cons_prefix_iff.1 hp
    rcases h.cases_cons hr with ⟨b, rfl, hab⟩ | ⟨_, _, _, _, hc, _⟩
    · obtain ⟨hb, hdrop⟩ := ih hq hab hqa
      exact ⟨List.cons_prefix_cons.2 ⟨rfl, hb⟩, hdrop⟩
    · exact absurd hc hd

theorem prefix_of_respelled (h : t.Respells letter) (hq : ∀ c ∈ q, ¬ letter c)
    (hr : Respelled letter a b) (hp : q <+: b) : q <+: a := by
  induction q generalizing a b with
  | nil => exact List.nil_prefix
  | cons d q ih =>
    obtain ⟨hd, hq⟩ := List.forall_mem_cons.1 hq
    cases a with
    | nil =>
      cases hr
      exact hp
    | cons c a =>
      rcases h.cases_cons hr with ⟨b, rfl, hab⟩ | ⟨base, mark, b, rfl, -, hbase, -⟩
      · obtain ⟨rfl, hqb⟩ := List.cons_prefix_cons.1 hp
        exact List.cons_prefix_cons.2 ⟨rfl, ih hq hab hqb⟩
      · obtain ⟨rfl, -⟩ := List.cons_prefix_cons.1 hp
        exact absurd hbase hd

theorem tail_prefix_iff (h : t.Respells letter) (hr : Respelled letter a b) {e : Text}
    (hp : c :: e ∈ t.patterns) : e <+: a ↔ e <+: b :=
  ⟨fun hs => (h.split_of_prefix (h.tail _ hp) hr hs).1, h.prefix_of_respelled (h.tail _ hp) hr⟩

theorem hit?_keep (h : t.Respells letter) (hr : Respelled letter a b) :
    t.hit? (c :: b) = t.hit? (c :: a) := by
  refine hit?_congr fun p f => and_congr_left fun hf => ?_
  have hp : p ∈ t.patterns := Dictionary.mem_keys.2 ⟨f, hf⟩
  cases p with
  | nil => exact absurd hp h.proper
  | cons d e => rw [List.cons_prefix_cons, List.cons_prefix_cons, h.tail_prefix_iff hr hp]

theorem hit?_takeApart (h : t.Respells letter) {base mark : CodePoint}
    (hs : t.SameReading c base mark) (hr : Respelled letter a b) {hit : Hit}
    (hh : t.hit? (c :: a) = some hit) :
    t.hit? (base :: mark :: b) = some ⟨hit.length + 1, hit.fragment⟩ := by
  obtain ⟨p, hp, hf, hl⟩ := hit?_eq_some_iff.1 hh
  obtain ⟨e, rfl, he⟩ : ∃ e, p = c :: e ∧ e <+: a := by
    refine (List.prefix_cons_iff.1 hp.start).resolve_left ?_
    rintro rfl
    exact h.proper hp.mem
  have hrule := (hs.rules e _).1 (fragment?_eq_some_iff.1 hf)
  refine hit?_eq_some_iff.2 ⟨base :: mark :: e, ⟨?_, ?_, ?_⟩, fragment?_eq_some_iff.2 hrule, ?_⟩
  · exact Dictionary.mem_keys.2 ⟨_, hrule⟩
  · have heb := (h.tail_prefix_iff hr hp.mem).1 he
    exact List.cons_prefix_cons.2 ⟨rfl, List.cons_prefix_cons.2 ⟨rfl, heb⟩⟩
  · intro q hq hstart
    -- a pattern at the two parts is the base alone, or goes on after both as one at the letter does
    rcases List.prefix_cons_iff.1 hstart with rfl | ⟨r, rfl, hmark⟩
    · exact Nat.zero_le _
    rcases List.prefix_cons_iff.1 hmark with rfl | ⟨q, rfl, hqb⟩
    · simp
    obtain ⟨g, hg⟩ := Dictionary.mem_keys.1 hq
    have hcq : c :: q ∈ t.patterns := Dictionary.mem_keys.2 ⟨g, (hs.rules q g).2 hg⟩
    have hqa := (h.tail_prefix_iff hr hcq).2 hqb
    have hle := hp.longest _ hcq (List.cons_prefix_cons.2 ⟨rfl, hqa⟩)
    exact Nat.succ_le_succ hle
  · rw [← hl]
    rfl

theorem hit_respelled (h : t.Respells letter) (hr : Respelled letter a b) {hit : Hit}
    (hh : t.hit? a = some hit) :
    ∃ other, t.hit? b = some other ∧ other.fragment = hit.fragment ∧
      Respelled letter (a.drop hit.length) (b.drop other.length) := by
  obtain ⟨p, hp, -, hl⟩ := hit?_eq_some_iff.1 hh
  obtain ⟨c, e, rfl⟩ := List.exists_cons_of_ne_nil fun hn : p = [] => h.proper (hn ▸ hp.mem)
  obtain ⟨a, rfl, he⟩ := List.cons_prefix_iff.1 hp.start
  rw [← hl]
  have drop : ∀ {b'}, Respelled letter a b' → Respelled letter (a.drop e.length) (b'.drop e.length) :=
    fun hab => (h.split_of_prefix (h.tail _ hp.mem) hab he).2
  rcases h.cases_cons hr with ⟨b, rfl, hab⟩ | ⟨base, mark, b, rfl, -, -, hs, hab⟩
  · refine ⟨hit, (h.hit?_keep hab).trans hh, rfl, ?_⟩
    rw [← hl]
    exact drop hab
  · refine ⟨_, h.hit?_takeApart hs hab hh, rfl, ?_⟩
    rw [← hl]
    exact drop hab

theorem pass_respelled (h : t.Respells letter) (hr : Respelled letter (c :: a) b)
    (hh : t.hit? (c :: a) = none) :
    ∃ b', b = c :: b' ∧ t.hit? (c :: b') = none ∧ Respelled letter a b' := by
  rcases h.cases_cons hr with ⟨b, rfl, hab⟩ | ⟨_, _, _, -, hc, -⟩
  · exact ⟨b, rfl, (h.hit?_keep hab).trans hh, hab⟩
  · exact absurd ⟨a, rfl⟩ (hit?_eq_none_iff.1 hh [c] (h.single c hc))

/-- Both walks take their clusters in step, though at other offsets. -/
theorem outputs_eq (h : t.Respells letter) (hr : Respelled letter a b) (i j : Nat) :
    (t.clustersFrom i a).flatMap Cluster.output = (t.clustersFrom j b).flatMap Cluster.output := by
  induction a using h.proper.induction generalizing b i j with
  | nil =>
    cases hr
    simp
  | hit a hit hh ih =>
    obtain ⟨other, hb, hf, hdrop⟩ := h.hit_respelled hr hh
    rw [h.proper.clustersFrom_of_hit hh, h.proper.clustersFrom_of_hit hb, List.flatMap_cons,
      List.flatMap_cons, ih hdrop _ (j + other.length), hf]
  | pass c a hh ih =>
    obtain ⟨b, rfl, hb, hab⟩ := h.pass_respelled hr hh
    rw [h.proper.clustersFrom_of_no_hit hh, h.proper.clustersFrom_of_no_hit hb, List.flatMap_cons,
      List.flatMap_cons, ih hab _ (j + 1)]

end Romanization.RuleTable.Respells
