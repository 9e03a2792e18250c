import Romanization.Proofs.RuleTable.Built
import Romanization.Proofs.RuleTable.Lookup

namespace Romanization

def Contiguous : (start stop : Nat) → List Cluster → Prop
  | start, stop, [] => start = stop
  | start, stop, c :: cs => c.start = start ∧ Contiguous c.stop stop cs

theorem Contiguous.start_le_stop {start stop : Nat} {cs : List Cluster} (h : Contiguous start stop cs) :
    start ≤ stop := by
  induction cs generalizing start with
  | nil => exact Nat.le_of_eq h
  | cons c cs ih =>
    obtain ⟨rfl, h⟩ := h
    exact Nat.le_trans (Nat.le_add_right _ _) (ih h)

def Cluster.taken : List Cluster → Nat
  | [] => 0
  | c :: cs => c.length + taken cs

theorem Contiguous.stop_eq {start stop : Nat} {cs : List Cluster} (h : Contiguous start stop cs) :
    stop = start + Cluster.taken cs := by
  induction cs generalizing start with
  | nil => exact h.symm
  | cons c cs ih =>
    obtain ⟨rfl, h⟩ := h
    rw [ih h, Cluster.stop, Cluster.taken, Nat.add_assoc]

theorem Contiguous.start_eq_or {start stop : Nat} {cs : List Cluster} (h : Contiguous start stop cs) :
    (∃ c ∈ cs, c.start = start) ∨ start = stop := by
  cases cs with
  | nil => exact .inr h
  | cons c cs => exact .inl ⟨c, List.mem_cons_self, h.1⟩

theorem Contiguous.stop_eq_or {start stop : Nat} {cs : List Cluster} {c : Cluster}
    (h : Contiguous start stop cs) (hc : c ∈ cs) : (∃ d ∈ cs, d.start = c.stop) ∨ c.stop = stop := by
  induction cs generalizing start with
  | nil => cases hc
  | cons d cs ih =>
    obtain ⟨-, h⟩ := h
    rcases List.mem_cons.1 hc with rfl | hc
    · exact h.start_eq_or.imp_left fun ⟨e, he, hs⟩ => ⟨e, List.mem_cons_of_mem _ he, hs⟩
    · exact (ih h hc).imp_left fun ⟨e, he, hs⟩ => ⟨e, List.mem_cons_of_mem _ he, hs⟩

theorem Contiguous.exists_of_append {start stop : Nat} {cs ds : List Cluster}
    (h : Contiguous start stop (cs ++ ds)) :
    ∃ between, Contiguous start between cs ∧ Contiguous between stop ds := by
  induction cs generalizing start with
  | nil => exact ⟨start, rfl, h⟩
  | cons c cs ih =>
    obtain ⟨between, hcs, hds⟩ := ih h.2
    exact ⟨between, ⟨h.1, hcs⟩, hds⟩

namespace RuleTable

structure Reads (t : RuleTable) (text : Text) (c : Cluster) : Prop where
  pos : 1 ≤ c.length
  matched_iff : c.matched = true ↔ ∃ p ∈ t.patterns, p <+: text.drop c.start
  longest : c.matched = true →
    t.IsLongestStart (text.drop c.start) (text.slice c.start c.stop) ∧
      (text.slice c.start c.stop).length = c.length ∧
      t.fragment? (text.slice c.start c.stop) = some c.output
  passed : c.matched = false → c.length = 1 ∧ ∃ unit, text[c.start]? = some unit ∧ c.output = [unit]

structure IsTiling (t : RuleTable) (text : Text) (cs : List Cluster) : Prop where
  contiguous : Contiguous 0 text.length cs
  reads : ∀ c ∈ cs, t.Reads text c

variable {t : RuleTable}

theorem reads_of_hit {text : Text} {offset : Nat} {hit : Hit} (hpos : 0 < hit.length)
    (h : t.hit? (text.drop offset) = some hit) : t.Reads text ⟨offset, hit.length, hit.fragment, true⟩ := by
  obtain ⟨p, hp, hf, hl⟩ := hit?_eq_some_iff.1 h
  have hs : text.slice offset (offset + hit.length : Nat) = p := by
    rw [Text.slice_eq_take, ← hl]
    exact (take_length_of_start hp.start).1
  refine ⟨hpos, iff_of_true rfl ⟨p, hp.mem, hp.start⟩, fun _ => ?_, nofun⟩
  simp only [Cluster.stop, hs]
  exact ⟨hp, hl, hf⟩

theorem reads_of_no_hit {text rest : Text} {offset : Nat} {c : CodePoint}
    (hr : text.drop offset = c :: rest) (h : t.hit? (c :: rest) = none) :
    t.Reads text ⟨offset, 1, [c], false⟩ := by
  refine ⟨Nat.le_refl _, ?_, nofun, fun _ => ⟨rfl, c, ?_, rfl⟩⟩
  · simpa [hr] using hit?_eq_none_iff.1 h
  · have := congrArg List.head? hr
    simpa using this

theorem Reads.eq_of_hit {text : Text} {c : Cluster} {hit : Hit} (hc : t.Reads text c)
    (h : t.hit? (text.drop c.start) = some hit) : c = ⟨c.start, hit.length, hit.fragment, true⟩ := by
  obtain ⟨p, hp, hf, hl⟩ := hit?_eq_some_iff.1 h
  have hm : c.matched = true := hc.matched_iff.2 ⟨p, hp.mem, hp.start⟩
  obtain ⟨hlongest, hlength, hfragment⟩ := hc.longest hm
  rw [hlongest.unique hp] at hlength hfragment
  obtain ⟨start, length, output, matched⟩ := c
  simp_all

theorem Reads.eq_of_no_hit {text rest : Text} {c : Cluster} {u : CodePoint} (hc : t.Reads text c)
    (hr : text.drop c.start = u :: rest) (h : t.hit? (u :: rest) = none) :
    c = ⟨c.start, 1, [u], false⟩ := by
  have hm : c.matched = false := by
    rw [Bool.eq_false_iff, Ne, hc.matched_iff, hr]
    rintro ⟨p, hp, hs⟩
    exact hit?_eq_none_iff.1 h p hp hs
  obtain ⟨hl, unit, hu, ho⟩ := hc.passed hm
  have : unit = u := by
    have := congrArg List.head? hr
    simpa [hu] using this
  obtain ⟨start, length, output, matched⟩ := c
  simp_all

theorem Reads.start_lt {text : Text} {c : Cluster} (hc : t.Reads text c) : c.start < text.length := by
  cases hm : c.matched with
  | true =>
    obtain ⟨hlongest, hlength, -⟩ := hc.longest hm
    have hle := hlongest.start.length_le
    have hpos := hc.pos
    rw [List.length_drop] at hle
    omega
  | false =>
    obtain ⟨-, unit, hu, -⟩ := hc.passed hm
    exact (List.getElem?_eq_some_iff.1 hu).1

theorem Proper.tiles_from (ht : t.Proper) {text rest : Text} {offset : Nat}
    (hr : text.drop offset = rest) (ho : offset ≤ text.length) :
    Contiguous offset text.length (t.clustersFrom offset rest) ∧
      ∀ c ∈ t.clustersFrom offset rest, t.Reads text c := by
  induction rest using ht.induction generalizing offset with
  | nil =>
    have := List.drop_eq_nil_iff.1 hr
    simpa [Contiguous] using Nat.le_antisymm ho this
  | hit rest hit h ih =>
    have hl := (ht.hit_length h).2
    have hrest : text.length - offset = rest.length := by rw [← List.length_drop, hr]
    rw [ht.clustersFrom_of_hit h]
    obtain ⟨hc, hreads⟩ := @ih (offset + hit.length) (by rw [← List.drop_drop, hr]) (by omega)
    subst hr
    exact ⟨⟨rfl, hc⟩, List.forall_mem_cons.2 ⟨reads_of_hit (ht.hit_length h).1 h, hreads⟩⟩
  | pass c rest h ih =>
    have hrest : text.length - offset = rest.length + 1 := by rw [← List.length_drop, hr, List.length_cons]
    rw [ht.clustersFrom_of_no_hit h]
    obtain ⟨hc, hreads⟩ := @ih (offset + 1) (by rw [← List.drop_drop, hr]; rfl) (by omega)
    exact ⟨⟨rfl, hc⟩, List.forall_mem_cons.2 ⟨reads_of_no_hit hr h, hreads⟩⟩

theorem Proper.isTiling (ht : t.Proper) (text : Text) : t.IsTiling text (t.clusters text) := by
  obtain ⟨hc, hr⟩ := ht.tiles_from (List.drop_zero (l := text)) (Nat.zero_le _)
  exact ⟨hc, hr⟩

theorem Proper.reads_of_mem (ht : t.Proper) {text : Text} {c : Cluster} (hc : c ∈ t.clusters text) :
    t.Reads text c :=
  (ht.isTiling text).reads c hc

theorem Reads.walk_eq {text : Text} {c : Cluster} (hc : t.Reads text c) (steps : Nat) :
    t.walk t.lengths (steps + 1) ⟨c.start, text.drop c.start⟩ =
      c :: t.walk t.lengths steps ⟨c.stop, text.drop c.stop⟩ := by
  have hne : text.drop c.start ≠ [] := List.drop_eq_nil_iff.not.2 (Nat.not_le.2 hc.start_lt)
  cases h : t.hit? (text.drop c.start) with
  | none =>
    obtain ⟨u, rest, hr⟩ := List.exists_cons_of_ne_nil hne
    rw [hr] at h
    have he := hc.eq_of_no_hit hr h
    have hlen : c.length = 1 := congrArg Cluster.length he
    have hrest : text.drop c.stop = rest := by
      rw [Cluster.stop, hlen, ← List.drop_drop, hr]
      rfl
    rw [hrest, hr, walk_of_no_hit h, ← he, Cluster.stop, hlen]
  | some hit =>
    have he := hc.eq_of_hit h
    have hlen : c.length = hit.length := congrArg Cluster.length he
    rw [walk_of_hit hne h, ← he, List.drop_drop, Cluster.stop, hlen]

theorem walk_of_reads {text : Text} {start stop : Nat} {cs : List Cluster} (hc : Contiguous start stop cs)
    (hr : ∀ c ∈ cs, t.Reads text c) (steps : Nat) :
    t.walk t.lengths (cs.length + steps) ⟨start, text.drop start⟩ =
      cs ++ t.walk t.lengths steps ⟨stop, text.drop stop⟩ := by
  induction cs generalizing start with
  | nil =>
    obtain rfl := hc
    rw [List.length_nil, Nat.zero_add, List.nil_append]
  | cons c cs ih =>
    obtain ⟨rfl, hc⟩ := hc
    obtain ⟨hcr, hr⟩ := List.forall_mem_cons.1 hr
    rw [List.length_cons, Nat.add_right_comm, hcr.walk_eq, ih hc hr, List.cons_append]

theorem Proper.eq_clustersFrom (ht : t.Proper) {text rest : Text} {offset : Nat} {cs : List Cluster}
    (hr : text.drop offset = rest) (hc : Contiguous offset text.length cs)
    (hreads : ∀ c ∈ cs, t.Reads text c) : cs = t.clustersFrom offset rest := by
  have hsteps : rest.length ≤ cs.length + rest.length := Nat.le_add_left _ _
  rw [← ht.walk_eq hsteps, ← hr, walk_of_reads hc hreads, List.drop_length, walk_nil, List.append_nil]

/-- The walk ends however many clusters are asked for, and what it puts out is the one tiling. -/
theorem clusters_unique_tiling (ht : t.Built) (text : Text) :
    (∀ steps, t.firstClusters steps text = (t.clusters text).take steps) ∧
      t.IsTiling text (t.clusters text) ∧
      ∀ cs, t.IsTiling text cs → cs = t.clusters text := by
  have hp := ht.proper
  obtain ⟨hc, hr⟩ := hp.tiles_from (List.drop_zero (l := text)) (Nat.zero_le _)
  exact ⟨fun steps => hp.firstClusters_eq_take steps text, ⟨hc, hr⟩,
    fun cs h => hp.eq_clustersFrom List.drop_zero h.contiguous h.reads⟩

theorem clusters_unique_tiling_nested :
    ∃ t, ofRules [] [("abcd".codePoints, "L".codePoints), ("a".codePoints, []),
        ("bc".codePoints, "2".codePoints)] = .ok t ∧
      t.clusters "abcxabcdab".codePoints =
        [⟨0, 1, [], true⟩, ⟨1, 2, "2".codePoints, true⟩, ⟨3, 1, "x".codePoints, false⟩,
          ⟨4, 4, "L".codePoints, true⟩, ⟨8, 1, [], true⟩, ⟨9, 1, "b".codePoints, false⟩] ∧
      t.IsTiling "abcxabcdab".codePoints (t.clusters "abcxabcdab".codePoints) ∧
      ∀ cs, t.IsTiling "abcxabcdab".codePoints cs → cs = t.clusters "abcxabcdab".codePoints :=
  have built := @ofRules_eq_ok [] [("abcd".codePoints, "L".codePoints), ("a".codePoints, []),
    ("bc".codePoints, "2".codePoints)] (by decide) (by decide)
  ⟨_, built, by decide, (clusters_unique_tiling (.ofRules built) _).2⟩

end Romanization.RuleTable
