import Romanization.Proofs.Dictionary
import Romanization.RuleTable.Lookup

namespace Romanization.RuleTable

structure IsLongestStart (t : RuleTable) (text pattern : Text) : Prop where
  mem : pattern ∈ t.patterns
  start : pattern <+: text
  longest : ∀ q ∈ t.patterns, q <+: text → q.length ≤ pattern.length

theorem IsLongestStart.unique {t : RuleTable} {text p q : Text} (hp : t.IsLongestStart text p)
    (hq : t.IsLongestStart text q) : p = q := by
  have hl : p.length = q.length :=
    Nat.le_antisymm (hq.longest p hp.mem hp.start) (hp.longest q hq.mem hq.start)
  exact (List.prefix_of_prefix_length_le hp.start hq.start (Nat.le_of_eq hl)).eq_of_length hl

theorem fragment?_eq_some_iff {t : RuleTable} {p f : Text} :
    t.fragment? p = some f ↔ (p, f) ∈ t.rules :=
  Dictionary.find?_eq_some_iff t.distinct

theorem fragment?_eq_none_iff {t : RuleTable} {p : Text} : t.fragment? p = none ↔ p ∉ t.patterns :=
  Dictionary.find?_eq_none_iff

theorem mem_patterns {t : RuleTable} {p : Text} : p ∈ t.patterns ↔ ∃ f, t.fragment? p = some f := by
  simp [fragment?_eq_some_iff, patterns, Dictionary.mem_keys]

theorem mem_enterLength {m n : Nat} {ns : List Nat} : m ∈ enterLength n ns ↔ m = n ∨ m ∈ ns := by
  induction ns with
  | nil => simp [enterLength]
  | cons k ns ih =>
    unfold enterLength
    split
    · simp
    · split
      · next h => simp [h]
      · simp [ih, or_left_comm]

theorem pairwise_enterLength {ns : List Nat} (h : ns.Pairwise (· > ·)) (n : Nat) :
    (enterLength n ns).Pairwise (· > ·) := by
  induction ns with
  | nil => simp [enterLength]
  | cons k ns ih =>
    obtain ⟨hk, hns⟩ := List.pairwise_cons.1 h
    unfold enterLength
    split
    · next hkn =>
      refine List.pairwise_cons.2 ⟨fun m hm => ?_, h⟩
      rcases List.mem_cons.1 hm with rfl | hm
      · exact hkn
      · exact Nat.lt_trans (hk m hm) hkn
    · split
      · exact h
      · refine List.pairwise_cons.2 ⟨fun m hm => ?_, ih hns⟩
        rcases mem_enterLength.1 hm with rfl | hm
        · omega
        · exact hk m hm

theorem lengths_foldl (rules : Dictionary Text) (ns : List Nat) (h : ns.Pairwise (· > ·)) :
    let all := rules.foldl (fun ns (r : Rule) => enterLength r.1.length ns) ns
    all.Pairwise (· > ·) ∧ ∀ n, n ∈ all ↔ n ∈ ns ∨ ∃ p ∈ rules.keys, p.length = n := by
  induction rules generalizing ns with
  | nil => simp [h]
  | cons r rules ih =>
    obtain ⟨hp, hm⟩ := ih _ (pairwise_enterLength h r.1.length)
    refine ⟨hp, fun n => ?_⟩
    simp only [List.foldl_cons, hm, mem_enterLength, Dictionary.keys_cons, List.exists_mem_cons_iff]
    rw [or_comm (a := n = _), or_assoc, eq_comm]

theorem pairwise_lengths (t : RuleTable) : t.lengths.Pairwise (· > ·) :=
  (lengths_foldl t.rules [] List.Pairwise.nil).1

theorem mem_lengths {t : RuleTable} {n : Nat} : n ∈ t.lengths ↔ ∃ p ∈ t.patterns, p.length = n := by
  simpa [lengths, patterns] using (lengths_foldl t.rules [] List.Pairwise.nil).2 n

theorem probe_eq_none_iff {t : RuleTable} {window : Nat → Text} {ns : List Nat} :
    t.probe window ns = none ↔ ∀ n ∈ ns, window n ∉ t.patterns := by
  induction ns with
  | nil => simp [probe]
  | cons n ns ih =>
    cases h : t.fragment? (window n) with
    | none => simp [probe, h, ih, fragment?_eq_none_iff.1 h]
    | some f => simp [probe, h, mem_patterns]

theorem probe_eq_some {t : RuleTable} {window : Nat → Text} {ns : List Nat}
    (hns : ns.Pairwise (· > ·)) {hit : Hit} (h : t.probe window ns = some hit) :
    hit.length ∈ ns ∧ t.fragment? (window hit.length) = some hit.fragment ∧
      ∀ m ∈ ns, window m ∈ t.patterns → m ≤ hit.length := by
  induction ns with
  | nil => simp [probe] at h
  | cons n ns ih =>
    obtain ⟨hn, hns⟩ := List.pairwise_cons.1 hns
    cases hf : t.fragment? (window n) with
    | none =>
      simp only [probe, hf] at h
      obtain ⟨hl, hh, hm⟩ := ih hns h
      refine ⟨List.mem_cons_of_mem _ hl, hh, fun m hmn hw => ?_⟩
      rcases List.mem_cons.1 hmn with rfl | hmn
      · exact absurd hw (fragment?_eq_none_iff.1 hf)
      · exact hm m hmn hw
    | some f =>
      simp only [probe, hf, Option.some.injEq] at h
      subst h
      refine ⟨List.mem_cons_self, hf, fun m hm _ => ?_⟩
      rcases List.mem_cons.1 hm with rfl | hm
      · exact Nat.le_refl _
      · exact Nat.le_of_lt (hn m hm)

theorem take_length_of_start {text p : Text} (h : p <+: text) :
    text.take p.length = p ∧ p.length ≤ text.length :=
  ⟨(List.prefix_iff_eq_take.1 h).symm, h.length_le⟩

structure IsLongest (t : RuleTable) (permitted : Nat → Prop) (text pattern : Text) : Prop where
  mem : pattern ∈ t.patterns
  start : pattern <+: text
  fits : permitted pattern.length
  longest : ∀ q ∈ t.patterns, q <+: text → permitted q.length → q.length ≤ pattern.length

section Probing

variable {t : RuleTable} {permitted : Nat → Prop} {text : Text} {hit : Hit}

theorem IsLongest.unique {p q : Text} (hp : t.IsLongest permitted text p)
    (hq : t.IsLongest permitted text q) : p = q := by
  have hl : p.length = q.length :=
    Nat.le_antisymm (hq.longest p hp.mem hp.start hp.fits) (hp.longest q hq.mem hq.start hq.fits)
  exact (List.prefix_of_prefix_length_le hp.start hq.start (Nat.le_of_eq hl)).eq_of_length hl

theorem IsLongest.of_starts {admitted : Nat → Prop} {other p : Text} (hp : t.IsLongest permitted text p)
    (h : ∀ q ∈ t.patterns, q <+: text ∧ permitted q.length ↔ q <+: other ∧ admitted q.length) :
    t.IsLongest admitted other p := by
  obtain ⟨hs, hf⟩ := (h p hp.mem).1 ⟨hp.start, hp.fits⟩
  refine ⟨hp.mem, hs, hf, fun q hq hqs hqf => ?_⟩
  obtain ⟨hqs, hqf⟩ := (h q hq).2 ⟨hqs, hqf⟩
  exact hp.longest q hq hqs hqf

variable [DecidablePred permitted]

theorem mem_probed {n : Nat} :
    n ∈ t.lengths.filter permitted ↔ (∃ p ∈ t.patterns, p.length = n) ∧ permitted n := by
  rw [List.mem_filter, mem_lengths, decide_eq_true_iff]

variable (within : ∀ n, permitted n → n ≤ text.length)
include within

theorem probe_take_eq_none_iff :
    t.probe text.take (t.lengths.filter permitted) = none ↔
      ∀ p ∈ t.patterns, p <+: text → ¬ permitted p.length := by
  rw [probe_eq_none_iff]
  constructor
  · intro h p hp hs hpermitted
    refine h p.length (mem_probed.2 ⟨⟨p, hp, rfl⟩, hpermitted⟩) ?_
    rwa [(take_length_of_start hs).1]
  · intro h n hn hp
    obtain ⟨-, hn⟩ := mem_probed.1 hn
    refine h _ hp (List.take_prefix n text) ?_
    rwa [List.length_take_of_le (within n hn)]

theorem exists_isLongest_of_probe (h : t.probe text.take (t.lengths.filter permitted) = some hit) :
    ∃ p, t.IsLongest permitted text p ∧ t.fragment? p = some hit.fragment ∧ p.length = hit.length := by
  obtain ⟨hl, hf, hm⟩ := probe_eq_some ((pairwise_lengths t).filter _) h
  obtain ⟨-, hpermitted⟩ := mem_probed.1 hl
  have hlength : (text.take hit.length).length = hit.length :=
    List.length_take_of_le (within _ hpermitted)
  refine ⟨text.take hit.length, ⟨mem_patterns.2 ⟨_, hf⟩, List.take_prefix _ _, ?_, ?_⟩, hf, hlength⟩
  · rwa [hlength]
  · intro q hq hs hqp
    rw [hlength]
    refine hm q.length (mem_probed.2 ⟨⟨q, hq, rfl⟩, hqp⟩) ?_
    rwa [(take_length_of_start hs).1]

theorem probe_take_eq_some_iff :
    t.probe text.take (t.lengths.filter permitted) = some hit ↔
      ∃ p, t.IsLongest permitted text p ∧ t.fragment? p = some hit.fragment ∧ p.length = hit.length := by
  refine ⟨exists_isLongest_of_probe within, ?_⟩
  rintro ⟨p, hp, hf, hl⟩
  cases h : t.probe text.take (t.lengths.filter permitted) with
  | none => exact absurd hp.fits ((probe_take_eq_none_iff within).1 h p hp.mem hp.start)
  | some other =>
    obtain ⟨q, hq, hg, hm⟩ := exists_isLongest_of_probe within h
    obtain rfl := hp.unique hq
    obtain ⟨n, f⟩ := other
    obtain ⟨m, g⟩ := hit
    simp_all

end Probing

def hit? (t : RuleTable) (text : Text) : Option Hit := t.longestStart t.lengths text

theorem length_take_eq_iff {text : Text} {n : Nat} : (text.take n).length = n ↔ n ≤ text.length := by
  rw [List.length_take]
  omega

theorem hit?_eq_none_iff {t : RuleTable} {text : Text} :
    t.hit? text = none ↔ ∀ p ∈ t.patterns, ¬ p <+: text := by
  unfold hit? longestStart
  rw [probe_take_eq_none_iff fun n => length_take_eq_iff.1]
  refine forall₂_congr fun p _ => ⟨fun h hs => h hs ?_, fun h hs => absurd hs h⟩
  exact length_take_eq_iff.2 hs.length_le

theorem hit?_eq_some_iff {t : RuleTable} {text : Text} {hit : Hit} :
    t.hit? text = some hit ↔
      ∃ p, t.IsLongestStart text p ∧ t.fragment? p = some hit.fragment ∧ p.length = hit.length := by
  unfold hit? longestStart
  rw [probe_take_eq_some_iff fun n => length_take_eq_iff.1]
  refine exists_congr fun p => and_congr_left fun _ => ⟨fun h => ⟨h.mem, h.start, ?_⟩, fun h => ?_⟩
  · exact fun q hq hs => h.longest q hq hs (length_take_eq_iff.2 hs.length_le)
  · exact ⟨h.mem, h.start, length_take_eq_iff.2 h.start.length_le, fun q hq hs _ => h.longest q hq hs⟩

/-- What is found depends only on the rules whose patterns stand at the start. -/
theorem hit?_congr {t u : RuleTable} {text other : Text}
    (h : ∀ p f, (p <+: text ∧ (p, f) ∈ t.rules) ↔ (p <+: other ∧ (p, f) ∈ u.rules)) :
    t.hit? text = u.hit? other := by
  have starts : ∀ p, (p <+: text ∧ p ∈ t.patterns) ↔ (p <+: other ∧ p ∈ u.patterns) := by
    intro p
    simp only [patterns, Dictionary.mem_keys, ← exists_and_left, h]
  have longest : ∀ p, t.IsLongestStart text p ↔ u.IsLongestStart other p := by
    intro p
    constructor
    · intro hp
      obtain ⟨hs, hm⟩ := (starts p).1 ⟨hp.start, hp.mem⟩
      exact ⟨hm, hs, fun q hq hqs =>
        have ⟨hqs, hq⟩ := (starts q).2 ⟨hqs, hq⟩
        hp.longest q hq hqs⟩
    · intro hp
      obtain ⟨hs, hm⟩ := (starts p).2 ⟨hp.start, hp.mem⟩
      exact ⟨hm, hs, fun q hq hqs =>
        have ⟨hqs, hq⟩ := (starts q).1 ⟨hqs, hq⟩
        hp.longest q hq hqs⟩
  ext hit
  simp only [hit?_eq_some_iff, fragment?_eq_some_iff]
  constructor
  · rintro ⟨p, hp, hf, hl⟩
    exact ⟨p, (longest p).1 hp, ((h p _).1 ⟨hp.start, hf⟩).2, hl⟩
  · rintro ⟨p, hp, hf, hl⟩
    exact ⟨p, (longest p).2 hp, ((h p _).2 ⟨hp.start, hf⟩).2, hl⟩

end Romanization.RuleTable
