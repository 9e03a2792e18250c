import Romanization.Proofs.RuleTable.Tiling

/-! Whether a walk comes to an end. An empty pattern keeps it where it is, but it is taken only where no longer
one stands. So a walk ends exactly if it never comes to such a place. -/

namespace Romanization.RuleTable

variable {t : RuleTable} {text : Text} {start stop offset : Nat} {f : Text} {c : Cluster}
  {cs done : List Cluster}

def Ends (t : RuleTable) (text : Text) : Prop := ∃ n, ∀ steps, (t.firstClusters steps text).length ≤ n

def Advances (t : RuleTable) (text : Text) (offset : Nat) : Prop :=
  ∃ p ∈ t.patterns, p ≠ [] ∧ p <+: text.drop offset

instance (t : RuleTable) (text : Text) (offset : Nat) : Decidable (t.Advances text offset) :=
  inferInstanceAs (Decidable (∃ p ∈ t.patterns, _))

/-- The offsets that a walk comes to if it leaves the empty pattern out: it takes the longest of the others, or
passes a unit on where none of them stands. -/
inductive Visits (t : RuleTable) (text : Text) : Nat → Prop
  | start : Visits t text 0
  | take {offset : Nat} {p : Text} : Visits t text offset → t.IsLongest (0 < ·) (text.drop offset) p →
      Visits t text (offset + p.length)
  | pass {offset : Nat} : Visits t text offset → offset < text.length → ¬ t.Advances text offset →
      Visits t text (offset + 1)

/-- The walk takes the longest patterns as long as there are any but the empty one, and then, before the end of
the text, comes to an offset where only that one stands. -/
structure Stalls (t : RuleTable) (text : Text) (done : List Cluster) (stop : Nat) (f : Text) : Prop where
  contiguous : Contiguous 0 stop done
  reads : ∀ c ∈ done, t.Reads text c
  matched : ∀ c ∈ done, c.matched = true
  visited : t.Visits text stop
  inside : stop < text.length
  stuck : ¬ t.Advances text stop
  first : ∀ offset < stop, t.Visits text offset → t.Advances text offset
  silent : t.fragment? [] = some f

theorem length_le_of_reads (hc : Contiguous start stop cs) (hr : ∀ c ∈ cs, t.Reads text c) :
    start + cs.length ≤ stop := by
  induction cs generalizing start with
  | nil => exact Nat.le_of_eq hc
  | cons c cs ih =>
    obtain ⟨rfl, hc⟩ := hc
    obtain ⟨hcr, hr⟩ := List.forall_mem_cons.1 hr
    have hpos := hcr.pos
    have hrest := ih hc hr
    rw [Cluster.stop] at hrest
    rw [List.length_cons]
    omega

theorem IsTiling.firstClusters_eq_take (h : t.IsTiling text cs) (steps : Nat) :
    t.firstClusters steps text = cs.take steps := by
  have hall := walk_of_reads h.contiguous h.reads steps
  rw [List.drop_zero, List.drop_length, walk_nil, List.append_nil] at hall
  rw [firstClusters, ← walk_take _ steps cs.length, Nat.add_comm, hall]

theorem IsTiling.eq_clusters (h : t.IsTiling text cs) : cs = t.clusters text := by
  have hle := length_le_of_reads h.contiguous h.reads
  rw [Nat.zero_add] at hle
  rw [clusters, h.firstClusters_eq_take, List.take_of_length_le hle]

theorem IsTiling.ends (h : t.IsTiling text cs) : t.Ends text := by
  refine ⟨cs.length, fun steps => ?_⟩
  rw [h.firstClusters_eq_take]
  exact List.length_take_le' steps cs

theorem Reads.advances (h : t.Reads text c) (hm : c.matched = true) : t.Advances text c.start := by
  obtain ⟨hlongest, hlength, -⟩ := h.longest hm
  refine ⟨_, hlongest.mem, fun hnil => ?_, hlongest.start⟩
  have hpos := h.pos
  rw [← hlength, hnil] at hpos
  exact Nat.not_lt_zero 0 hpos

theorem exists_hit_of_advances (h : t.Advances text offset) :
    ∃ hit, t.hit? (text.drop offset) = some hit ∧ 0 < hit.length := by
  obtain ⟨p, hp, hne, hs⟩ := h
  cases hh : t.hit? (text.drop offset) with
  | none => exact absurd hs (hit?_eq_none_iff.1 hh p hp)
  | some hit =>
    obtain ⟨q, hq, -, hl⟩ := hit?_eq_some_iff.1 hh
    refine ⟨hit, rfl, ?_⟩
    calc
      0 < p.length := List.length_pos_iff.2 hne
      _ ≤ q.length := hq.longest p hp hs
      _ = hit.length := hl

theorem hit?_of_not_advances (hf : t.fragment? [] = some f) (h : ¬ t.Advances text offset) :
    t.hit? (text.drop offset) = some ⟨0, f⟩ := by
  refine hit?_eq_some_iff.2 ⟨[], ⟨mem_patterns.2 ⟨f, hf⟩, List.nil_prefix, fun q hq hs => ?_⟩, hf, rfl⟩
  have hq : q = [] := Classical.byContradiction fun hne => h ⟨q, hq, hne, hs⟩
  exact Nat.le_of_eq (congrArg List.length hq)

theorem walk_of_not_advances (hf : t.fragment? [] = some f) (ho : offset < text.length)
    (h : ¬ t.Advances text offset) (steps : Nat) :
    t.walk t.lengths steps ⟨offset, text.drop offset⟩ = List.replicate steps ⟨offset, 0, f, true⟩ := by
  have hne : text.drop offset ≠ [] := List.drop_eq_nil_iff.not.2 (Nat.not_le.2 ho)
  induction steps with
  | zero => rfl
  | succ steps ih =>
    rw [walk_of_hit hne (hit?_of_not_advances hf h), List.replicate_succ]
    exact congrArg _ ih

theorem exists_reads (t : RuleTable) (ho : offset ≤ text.length) :
    ∃ cs stop, Contiguous offset stop cs ∧ (∀ c ∈ cs, t.Reads text c ∧ c.matched = true) ∧
      stop ≤ text.length ∧ ¬ t.Advances text stop := by
  -- every pattern that is taken has a unit, so that less of the text is left after it
  induction h : text.length - offset using Nat.strongRecOn generalizing offset with
  | ind n ih =>
    subst h
    by_cases ha : t.Advances text offset
    · obtain ⟨hit, hh, hpos⟩ := exists_hit_of_advances ha
      have hreads := reads_of_hit hpos hh
      have hroom : hit.length ≤ text.length - offset := by
        obtain ⟨p, hp, -, hl⟩ := hit?_eq_some_iff.1 hh
        rw [← hl, ← List.length_drop]
        exact hp.start.length_le
      have hnext : offset + hit.length ≤ text.length := by omega
      obtain ⟨cs, stop, hc, hr, hstop⟩ := ih _ (by omega) hnext rfl
      exact ⟨⟨offset, hit.length, hit.fragment, true⟩ :: cs, stop, ⟨rfl, hc⟩,
        List.forall_mem_cons.2 ⟨⟨hreads, rfl⟩, hr⟩, hstop⟩
    · exact ⟨[], offset, rfl, nofun, ho, ha⟩

theorem Reads.isLongest (h : t.Reads text c) (hm : c.matched = true) :
    t.IsLongest (0 < ·) (text.drop c.start) (text.slice c.start c.stop) := by
  obtain ⟨hlongest, hlength, -⟩ := h.longest hm
  exact ⟨hlongest.mem, hlongest.start, hlength ▸ h.pos, fun q hq hs _ => hlongest.longest q hq hs⟩

theorem Visits.of_reads (h : t.Visits text start) (hc : Contiguous start stop cs)
    (hr : ∀ c ∈ cs, t.Reads text c ∧ c.matched = true) : t.Visits text stop := by
  induction cs generalizing start with
  | nil =>
    obtain rfl := hc
    exact h
  | cons c cs ih =>
    obtain ⟨rfl, hc⟩ := hc
    obtain ⟨⟨hcr, hm⟩, hr⟩ := List.forall_mem_cons.1 hr
    obtain ⟨-, hlength, -⟩ := hcr.longest hm
    refine ih ?_ hc hr
    rw [Cluster.stop, ← hlength]
    exact h.take (hcr.isLongest hm)

/-- Before the clusters stop, the only offsets that a walk comes to are those where they start. -/
theorem Visits.start_or_le (h : t.Visits text offset) (hc : Contiguous 0 stop cs)
    (hr : ∀ c ∈ cs, t.Reads text c ∧ c.matched = true) : (∃ c ∈ cs, c.start = offset) ∨ stop ≤ offset := by
  induction h with
  | start => exact hc.start_eq_or.imp_right fun h => Nat.le_of_eq h.symm
  | @take offset p _ hp ih =>
    rcases ih with ⟨c, hcs, rfl⟩ | hle
    · obtain ⟨hcr, hm⟩ := hr c hcs
      obtain ⟨-, hlength, -⟩ := hcr.longest hm
      rw [hp.unique (hcr.isLongest hm), hlength]
      exact (hc.stop_eq_or hcs).imp_right fun h => Nat.le_of_eq h.symm
    · exact .inr (Nat.le_add_right_of_le hle)
  | @pass offset _ _ hna ih =>
    rcases ih with ⟨c, hcs, rfl⟩ | hle
    · obtain ⟨hcr, hm⟩ := hr c hcs
      exact absurd (hcr.advances hm) hna
    · exact .inr (Nat.le_add_right_of_le hle)

theorem advances_of_reads (hc : Contiguous 0 stop cs) (hr : ∀ c ∈ cs, t.Reads text c ∧ c.matched = true) :
    ∀ offset < stop, t.Visits text offset → t.Advances text offset := by
  intro offset hlt hv
  rcases hv.start_or_le hc hr with ⟨c, hcs, rfl⟩ | hle
  · exact (hr c hcs).1.advances (hr c hcs).2
  · exact absurd hlt (Nat.not_lt.2 hle)

theorem isTiling_or_stalls (t : RuleTable) (text : Text) :
    (∃ cs, t.IsTiling text cs) ∨ ∃ done stop f, t.Stalls text done stop f := by
  cases hf : t.fragment? [] with
  | none =>
    have ht : t.Proper := fragment?_eq_none_iff.1 hf
    exact .inl ⟨_, ht.isTiling text⟩
  | some f =>
    obtain ⟨cs, stop, hc, hr, hle, hstuck⟩ := t.exists_reads (Nat.zero_le text.length)
    have hreads : ∀ c ∈ cs, t.Reads text c := fun c hcs => (hr c hcs).1
    rcases Nat.eq_or_lt_of_le hle with rfl | hlt
    · exact .inl ⟨cs, hc, hreads⟩
    · exact .inr ⟨cs, stop, f, hc, hreads, fun c hcs => (hr c hcs).2, Visits.start.of_reads hc hr, hlt, hstuck,
        advances_of_reads hc hr, hf⟩

namespace Stalls

variable (h : t.Stalls text done stop f)
include h

theorem firstClusters_eq (steps : Nat) : t.firstClusters (done.length + steps) text =
    done ++ List.replicate steps ⟨stop, 0, f, true⟩ := by
  rw [← walk_of_not_advances h.silent h.inside h.stuck]
  exact walk_of_reads h.contiguous h.reads steps

theorem not_ends : ¬ t.Ends text := by
  rintro ⟨n, hn⟩
  have hlong := hn (done.length + (n + 1))
  rw [h.firstClusters_eq, List.length_append, List.length_replicate] at hlong
  omega

end Stalls

theorem Ends.exists_isTiling (h : t.Ends text) : ∃ cs, t.IsTiling text cs := by
  rcases t.isTiling_or_stalls text with tiled | ⟨done, stop, f, stalls⟩
  · exact tiled
  · exact absurd h stalls.not_ends

/-- A walk ends exactly if no pattern is empty or others stand at all offsets that it comes to without that one.
If it ends, its clusters are a tiling of the text. If not, it takes the longest patterns up to the first offset
where only the empty one stands, and puts that out there for ever. -/
theorem ends_iff_advances (t : RuleTable) (text : Text) :
    (t.Ends text ↔
        [] ∉ t.patterns ∨ ∀ offset < text.length, t.Visits text offset → t.Advances text offset) ∧
      (t.Ends text → t.IsTiling text (t.clusters text) ∧
        ∀ steps, t.firstClusters steps text = (t.clusters text).take steps) ∧
      (¬ t.Ends text → ∃ done stop f, t.Stalls text done stop f ∧
        ∀ steps, t.firstClusters steps text =
          (done ++ List.replicate steps (Cluster.mk stop 0 f true)).take steps) := by
  refine ⟨⟨fun h => ?_, fun h => ?_⟩, fun h => ?_, fun h => ?_⟩
  · obtain ⟨cs, tiling⟩ := h.exists_isTiling
    -- an empty pattern stands everywhere, and so every cluster of the tiling is matched
    refine Classical.or_iff_not_imp_left.2 fun hempty => ?_
    have hnil : [] ∈ t.patterns := Classical.not_not.1 hempty
    have hreads : ∀ c ∈ cs, t.Reads text c ∧ c.matched = true := fun c hc =>
      ⟨tiling.reads c hc, (tiling.reads c hc).matched_iff.2 ⟨[], hnil, List.nil_prefix⟩⟩
    exact advances_of_reads tiling.contiguous hreads
  · rcases t.isTiling_or_stalls text with ⟨cs, tiling⟩ | ⟨done, stop, f, stalls⟩
    · exact tiling.ends
    · rcases h with hempty | hall
      · exact absurd (mem_patterns.2 ⟨f, stalls.silent⟩) hempty
      · exact absurd (hall stop stalls.inside stalls.visited) stalls.stuck
  · obtain ⟨cs, tiling⟩ := h.exists_isTiling
    rw [← tiling.eq_clusters]
    exact ⟨tiling, tiling.firstClusters_eq_take⟩
  · rcases t.isTiling_or_stalls text with ⟨cs, tiling⟩ | ⟨done, stop, f, stalls⟩
    · exact absurd tiling.ends h
    · refine ⟨done, stop, f, stalls, fun steps => ?_⟩
      rw [← stalls.firstClusters_eq, Nat.add_comm]
      exact (walk_take _ _ _ _).symm

theorem ends_iff_advances_silent :
    let t := ofEntries [] [([], "-".codePoints), ("ab".codePoints, "1".codePoints),
      ("abc".codePoints, "3".codePoints)]
    t.Visits "ababcx".codePoints 5 ∧ ¬ t.Advances "ababcx".codePoints 5 ∧ ¬ t.Ends "ababcx".codePoints ∧
      (∃ done stop f, t.Stalls "ababcx".codePoints done stop f) ∧
      t.firstClusters 4 "ababcx".codePoints =
        [⟨0, 2, "1".codePoints, true⟩, ⟨2, 3, "3".codePoints, true⟩, ⟨5, 0, "-".codePoints, true⟩,
          ⟨5, 0, "-".codePoints, true⟩] := by
  intro t
  have first : t.IsLongest (0 < ·) ("ababcx".codePoints.drop 0) "ab".codePoints :=
    ⟨by decide, by decide, by decide, by decide⟩
  have second : t.IsLongest (0 < ·) ("ababcx".codePoints.drop 2) "abc".codePoints :=
    ⟨by decide, by decide, by decide, by decide⟩
  have visited : t.Visits "ababcx".codePoints 5 := (Visits.start.take first).take second
  have stuck : ¬ t.Advances "ababcx".codePoints 5 := by decide
  obtain ⟨ends_iff, -, stalls⟩ := ends_iff_advances t "ababcx".codePoints
  have endless : ¬ t.Ends "ababcx".codePoints := by
    rw [ends_iff]
    rintro (nonempty | advances)
    · exact nonempty (by decide)
    · exact stuck (advances 5 (by decide) visited)
  obtain ⟨done, stop, f, stalls, -⟩ := stalls endless
  exact ⟨visited, stuck, endless, ⟨done, stop, f, stalls⟩, by decide⟩

end Romanization.RuleTable
