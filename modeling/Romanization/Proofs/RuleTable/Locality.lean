import Romanization.Proofs.Romanizer
import Romanization.Proofs.RuleTable.Tiling

/-! How far what stands in one place of a text counts in another. A unit that no pattern has parts a text in
two that are read apart, and what follows a text counts only where a pattern may reach over its end. -/

namespace Romanization.RuleTable

open Romanizer (untrimmed)

variable {t : RuleTable}

section Unmapped

def Unmapped (t : RuleTable) (c : CodePoint) : Prop := ∀ p ∈ t.patterns, c ∉ p

variable {c : CodePoint}

theorem hit?_of_unmapped (ht : t.Proper) (hc : t.Unmapped c) (rest : Text) : t.hit? (c :: rest) = none := by
  refine hit?_eq_none_iff.2 fun p hp hs => ?_
  cases p with
  | nil => exact ht hp
  | cons d p =>
    obtain ⟨rfl, -⟩ := List.cons_prefix_cons.1 hs
    exact hc _ hp List.mem_cons_self

theorem clusters_at_unmapped (ht : t.Proper) (hc : t.Unmapped c) (a b : Text) :
    t.clusters (a ++ c :: b) =
      t.clusters a ++ ⟨a.length, 1, [c], false⟩ :: (t.clusters b).map (Cluster.shift (a.length + 1)) := by
  have hparts : t.Parts a (c :: b) :=
    .of_notMem_tail (fun p hp hm => hc p hp (List.mem_of_mem_tail hm)) a b
  have hbarrier : t.clusters (c :: b) = ⟨0, 1, [c], false⟩ :: (t.clusters b).map (Cluster.shift 1) := by
    rw [clusters_eq_clustersFrom, ht.clustersFrom_of_no_hit (hit?_of_unmapped ht hc b),
      ht.clustersFrom_eq_map_shift]
  rw [ht.clusters_append hparts, hbarrier, List.map_cons, List.map_map]
  congr 2
  exact List.map_congr_left fun k _ => Cluster.shift_shift _ _ k

theorem count_passed (ht : t.Proper) (hc : t.Unmapped c) (text : Text) (i : Nat) :
    (t.clusters text).count ⟨i, 1, [c], false⟩ = if text[i]? = some c then 1 else 0 := by
  split
  · next h =>
    obtain ⟨hi, rfl⟩ := List.getElem?_eq_some_iff.1 h
    have hsplit : text = text.take i ++ text[i] :: text.drop (i + 1) := by simp
    have hlength : (text.take i).length = i := List.length_take_of_le (Nat.le_of_lt hi)
    have hbefore : ⟨i, 1, [text[i]], false⟩ ∉ t.clusters (text.take i) := fun hm => by
      have hlt := (ht.reads_of_mem hm).start_lt
      rw [hlength] at hlt
      exact Nat.lt_irrefl i hlt
    have hafter : ⟨i, 1, [text[i]], false⟩ ∉
        (t.clusters (text.drop (i + 1))).map (Cluster.shift (i + 1)) := fun hm => by
      obtain ⟨k, -, hk⟩ := List.mem_map.1 hm
      have hstart : i + 1 + k.start = i := congrArg Cluster.start hk
      omega
    have hclusters := clusters_at_unmapped ht hc (text.take i) (text.drop (i + 1))
    rw [← hsplit, hlength] at hclusters
    rw [hclusters, List.count_append, List.count_cons_self, List.count_eq_zero_of_not_mem hbefore,
      List.count_eq_zero_of_not_mem hafter]
  · next h =>
    refine List.count_eq_zero_of_not_mem fun hm => h ?_
    obtain ⟨-, unit, hu, ho⟩ := (ht.reads_of_mem hm).passed rfl
    obtain rfl := List.singleton_inj.1 ho
    exact hu

theorem untrimmed_at_unmapped (ht : t.Proper) (hc : t.Unmapped c) (a b : Text) :
    untrimmed t (a ++ c :: b) = untrimmed t a ++ c :: untrimmed t b := by
  have hshift : ∀ n, ((t.clusters b).map (Cluster.shift n)).flatMap Cluster.output =
      (t.clusters b).flatMap Cluster.output := fun n => List.flatMap_map ..
  simp only [Romanizer.untrimmed_eq, clusters_at_unmapped ht hc, List.flatMap_append, List.flatMap_cons,
    hshift, List.singleton_append]

theorem untrimmed_intercalate (ht : t.Proper) (hc : t.Unmapped c) (words : List Text) :
    untrimmed t ([c].intercalate words) = [c].intercalate (words.map (untrimmed t)) := by
  induction words with
  | nil => rfl
  | cons w words ih =>
    cases words with
    | nil => simp [List.intercalate_singleton]
    | cons v words =>
      rw [List.map_cons, List.map_cons] at *
      rw [List.intercalate_cons_cons, List.intercalate_cons_cons, ← ih, List.append_assoc,
        List.append_assoc]
      exact untrimmed_at_unmapped ht hc w _

/-- A unit that no pattern has is passed on where it stands, and what is before it and what is after it are
read as if each stood alone: words that it parts are read word by word. -/
theorem apart_of_unmapped (built : t.Built) (hc : t.Unmapped c) :
    (∀ a b, t.clusters (a ++ c :: b) =
        t.clusters a ++ ⟨a.length, 1, [c], false⟩ :: (t.clusters b).map (Cluster.shift (a.length + 1))) ∧
      (∀ text i, (t.clusters text).count ⟨i, 1, [c], false⟩ = if text[i]? = some c then 1 else 0) ∧
      (∀ a b, untrimmed t (a ++ c :: b) = untrimmed t a ++ c :: untrimmed t b) ∧
      ∀ (mode : CaseMode) (choice : CaseChoice) (words : List Text),
        Romanizer.transliterate ⟨t, mode⟩ (some ([c].intercalate words)) choice =
          choice.apply mode (Text.trim ([c].intercalate (words.map (untrimmed t)))) := by
  have ht := built.proper
  refine ⟨clusters_at_unmapped ht hc, count_passed ht hc, untrimmed_at_unmapped ht hc, ?_⟩
  intro mode choice words
  rw [Romanizer.transliterate_eq_untrimmed, Option.getD_some, untrimmed_intercalate ht hc]

theorem apart_of_unmapped_hyphen :
    ∃ t, ofRules [] [("a".codePoints, "-".codePoints), ("abc".codePoints, "3".codePoints),
        ("b".codePoints, [])] = .ok t ∧
      t.Unmapped 0x2D ∧
      t.clusters "ab-c".codePoints = [⟨0, 1, "-".codePoints, true⟩, ⟨1, 1, [], true⟩,
        ⟨2, 1, "-".codePoints, false⟩, ⟨3, 1, "c".codePoints, false⟩] ∧
      (t.clusters "ab-c".codePoints).count ⟨2, 1, "-".codePoints, false⟩ = 1 ∧
      Romanizer.transliterate ⟨t, .upper⟩ (some "ab-c-abc".codePoints) .usual = "--C-3".codePoints := by
  let t : RuleTable := ⟨[], [("a".codePoints, "-".codePoints), ("abc".codePoints, "3".codePoints),
    ("b".codePoints, [])], by decide⟩
  have built : ofRules [] t.rules = .ok t := ofRules_eq_ok t.distinct (by decide)
  have hyphen : t.Unmapped 0x2D := by
    unfold Unmapped
    decide
  obtain ⟨parted, passed, -, words⟩ := apart_of_unmapped (.ofRules built) hyphen
  refine ⟨t, built, hyphen, ?_, ?_, ?_⟩
  · exact (parted "ab".codePoints "c".codePoints).trans (by decide)
  · exact passed "ab-c".codePoints 2
  · exact (words .upper .usual ["ab".codePoints, "c".codePoints, "abc".codePoints]).trans (by decide)

end Unmapped

section Appended

theorem hit?_append_of_le {rest : Text} (h : t.maxPatternLength ≤ rest.length) (more : Text) :
    t.hit? (rest ++ more) = t.hit? rest := by
  refine hit?_congr fun p f => and_congr_left fun hr => ⟨fun hs => ?_, fun hs => ?_⟩
  · have hp : p.length ≤ rest.length :=
      Nat.le_trans (length_le_maxPatternLength (Dictionary.mem_keys.2 ⟨f, hr⟩)) h
    exact List.prefix_of_prefix_length_le hs (List.prefix_append rest more) hp
  · exact hs.trans (List.prefix_append rest more)

/-- Clusters that are the same, in the same order, as far as they start `reach` before `stop`, and that all
start later from there on. -/
def Agree (reach stop : Nat) (cs ds : List Cluster) : Prop :=
  ∃ common late later, cs = common ++ late ∧ ds = common ++ later ∧
    (∀ c ∈ common, c.start + reach ≤ stop) ∧ ∀ c ∈ late ++ later, stop < c.start + reach

theorem Agree.cons {reach stop : Nat} {cs ds : List Cluster} (h : Agree reach stop cs ds) {c : Cluster}
    (hc : c.start + reach ≤ stop) : Agree reach stop (c :: cs) (c :: ds) := by
  obtain ⟨common, late, later, rfl, rfl, hcommon, hlate⟩ := h
  exact ⟨c :: common, late, later, rfl, rfl, List.forall_mem_cons.2 ⟨hc, hcommon⟩, hlate⟩

theorem Agree.filter_eq {reach stop : Nat} {cs ds : List Cluster} (h : Agree reach stop cs ds) :
    ds.filter (fun c => c.start + reach ≤ stop) = cs.filter fun c => c.start + reach ≤ stop := by
  obtain ⟨common, late, later, rfl, rfl, -, hlate⟩ := h
  have none_of : ∀ es ⊆ late ++ later, es.filter (fun c => c.start + reach ≤ stop) = [] := fun es hes =>
    List.filter_eq_nil_iff.2 fun c hc => by simpa using hlate c (hes hc)
  rw [List.filter_append, List.filter_append, none_of late (List.subset_append_left _ _),
    none_of later (List.subset_append_right _ _)]

theorem Proper.agree_of_lt (ht : t.Proper) (rest more : Text) (h : rest.length < t.maxPatternLength)
    (offset : Nat) :
    Agree t.maxPatternLength (offset + rest.length) (t.clustersFrom offset rest)
      (t.clustersFrom offset (rest ++ more)) := by
  refine ⟨[], _, _, rfl, rfl, nofun, fun c hc => ?_⟩
  have hstart : offset ≤ c.start := (List.mem_append.1 hc).elim ht.le_start ht.le_start
  omega

theorem Proper.agree_clustersFrom (ht : t.Proper) (hpos : 0 < t.maxPatternLength) (rest more : Text)
    (offset : Nat) :
    Agree t.maxPatternLength (offset + rest.length) (t.clustersFrom offset rest)
      (t.clustersFrom offset (rest ++ more)) := by
  -- once fewer units are left than the longest pattern has, the two need not agree any more
  induction rest using ht.induction generalizing offset with
  | nil => exact ht.agree_of_lt [] more hpos offset
  | hit rest hit h ih =>
    rcases Nat.lt_or_ge rest.length t.maxPatternLength with hlt | hle
    · exact ht.agree_of_lt _ more hlt offset
    have hl := (ht.hit_length h).2
    have happ := (hit?_append_of_le hle more).trans h
    have hrest := ih (offset + hit.length)
    have hstop : offset + hit.length + (rest.drop hit.length).length = offset + rest.length := by
      rw [List.length_drop]
      omega
    rw [hstop] at hrest
    rw [ht.clustersFrom_of_hit h, ht.clustersFrom_of_hit happ, List.drop_append_of_le_length hl]
    exact hrest.cons (by simp only; omega)
  | pass c rest h ih =>
    rcases Nat.lt_or_ge (c :: rest).length t.maxPatternLength with hlt | hle
    · exact ht.agree_of_lt _ more hlt offset
    have happ := (hit?_append_of_le hle more).trans h
    have hrest := ih (offset + 1)
    have hstop : offset + 1 + rest.length = offset + (c :: rest).length := by
      rw [List.length_cons]
      omega
    rw [hstop] at hrest
    rw [List.cons_append] at happ ⊢
    rw [ht.clustersFrom_of_no_hit h, ht.clustersFrom_of_no_hit happ]
    exact hrest.cons (by simp only; omega)

theorem Proper.maxPatternLength_pos (ht : t.Proper) (hne : t.rules ≠ []) : 0 < t.maxPatternLength := by
  obtain ⟨r, more, hr⟩ := List.exists_cons_of_ne_nil hne
  have hp : r.1 ∈ t.patterns := List.mem_map_of_mem (hr ▸ List.mem_cons_self)
  have hpos : 0 < r.1.length := List.length_pos_iff.2 fun h => ht (h ▸ hp)
  exact Nat.lt_of_lt_of_le hpos (length_le_maxPatternLength hp)

/-- Whatever is appended to a text, its clusters stay as long as the longest pattern would fit after their
start. Only those that start in its last units, one less than that pattern has, may change. -/
theorem clusters_append_early (built : t.Built) (hne : t.rules ≠ []) (text more : Text) :
    let early (c : Cluster) : Bool := c.start + t.maxPatternLength ≤ text.length
    (t.clusters (text ++ more)).filter early = (t.clusters text).filter early ∧
      ∃ common late later, t.clusters text = common ++ late ∧ t.clusters (text ++ more) = common ++ later ∧
        (∀ c ∈ common, early c) ∧
        (∀ c ∈ late, text.length < c.start + t.maxPatternLength ∧ c.start < text.length) ∧
        ∀ c ∈ later, text.length < c.start + t.maxPatternLength := by
  intro early
  have ht := built.proper
  have h := ht.agree_clustersFrom (ht.maxPatternLength_pos hne) text more 0
  rw [Nat.zero_add, ← clusters_eq_clustersFrom, ← clusters_eq_clustersFrom] at h
  refine ⟨h.filter_eq, ?_⟩
  obtain ⟨common, late, later, hs, hl, hcommon, hlate⟩ := h
  obtain ⟨hlate, hlater⟩ := List.forall_mem_append.1 hlate
  refine ⟨common, late, later, hs, hl, fun c hc => decide_eq_true (hcommon c hc), fun c hc => ?_, hlater⟩
  have hm : c ∈ t.clusters text := hs ▸ List.mem_append_right common hc
  exact ⟨hlate c hc, (ht.reads_of_mem hm).start_lt⟩

/-- The pattern of three units fits after the first unit of three, whose cluster stays. It does not fit after
the second, whose cluster changes. -/
theorem clusters_append_early_last :
    ∃ t, ofRules [] [("a".codePoints, "1".codePoints), ("abc".codePoints, "3".codePoints)] = .ok t ∧
      t.rules ≠ [] ∧ t.maxPatternLength = 3 ∧
      t.clusters "aab".codePoints = [⟨0, 1, "1".codePoints, true⟩, ⟨1, 1, "1".codePoints, true⟩,
        ⟨2, 1, "b".codePoints, false⟩] ∧
      t.clusters ("aab".codePoints ++ "c".codePoints) =
        [⟨0, 1, "1".codePoints, true⟩, ⟨1, 3, "3".codePoints, true⟩] ∧
      (t.clusters ("aab".codePoints ++ "c".codePoints)).filter (fun c => c.start + 3 ≤ 3) =
        [⟨0, 1, "1".codePoints, true⟩] := by
  let t : RuleTable := ⟨[], [("a".codePoints, "1".codePoints), ("abc".codePoints, "3".codePoints)], by decide⟩
  have built : ofRules [] t.rules = .ok t := ofRules_eq_ok t.distinct (by decide)
  have hne : t.rules ≠ [] := List.cons_ne_nil _ _
  obtain ⟨same, -⟩ := clusters_append_early (.ofRules built) hne "aab".codePoints "c".codePoints
  exact ⟨t, built, hne, by decide, by decide, by decide, same.trans (by decide)⟩

end Appended

end Romanization.RuleTable
