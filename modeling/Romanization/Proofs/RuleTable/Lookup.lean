import Romanization.Proofs.RuleTable.Longest

namespace Romanization

def greatest (ns : List Nat) : Nat := ns.max?.getD 0

theorem foldl_max_eq_greatest {α : Type} (f : α → Nat) (xs : List α) :
    xs.foldl (fun n a => max n (f a)) 0 = greatest (xs.map f) := by
  rw [← List.foldl_map (g := max), List.foldl_max, Nat.zero_max]
  rfl

@[simp] theorem greatest_cons (n : Nat) (ns : List Nat) : greatest (n :: ns) = max n (greatest ns) := by
  rw [greatest, greatest, List.max?_cons]
  cases ns.max? <;> simp

theorem greatest_append (ms ns : List Nat) : greatest (ms ++ ns) = max (greatest ms) (greatest ns) := by
  induction ms with
  | nil => exact (Nat.zero_max _).symm
  | cons m ms ih => rw [List.cons_append, greatest_cons, greatest_cons, ih, Nat.max_assoc]

theorem greatest_flatMap {α : Type} (f : α → List Nat) (xs : List α) :
    greatest (xs.flatMap f) = greatest (xs.map fun a => greatest (f a)) := by
  induction xs with
  | nil => rfl
  | cons a xs ih => rw [List.flatMap_cons, greatest_append, ih, List.map_cons, greatest_cons]

theorem greatest_perm {ms ns : List Nat} (h : ms.Perm ns) : greatest ms = greatest ns := by
  induction h with
  | nil => rfl
  | cons n _ ih => rw [greatest_cons, greatest_cons, ih]
  | swap m n ns => rw [greatest_cons, greatest_cons, greatest_cons, greatest_cons, Nat.max_left_comm]
  | trans _ _ ih₁ ih₂ => exact ih₁.trans ih₂

@[simp] theorem Text.position_natCast (text : Text) (i : Nat) : text.position i = i := by
  simp [Text.position, Int.not_lt.2 (Int.natCast_nonneg i)]

theorem Text.slice_eq_take (text : Text) (start length : Nat) :
    text.slice start (start + length : Nat) = (text.drop start).take length := by
  rw [Text.slice, position_natCast, position_natCast, List.drop_take, Nat.add_sub_cancel_left]

namespace RuleTable

variable {t : RuleTable}

theorem maxPatternLength_eq (t : RuleTable) :
    t.maxPatternLength = greatest (t.patterns.map List.length) := by
  rw [patterns, Dictionary.keys, List.map_map]
  exact foldl_max_eq_greatest _ _

theorem maxFragmentLength_eq (t : RuleTable) :
    t.maxFragmentLength = greatest (t.rules.map fun r => r.2.length) :=
  foldl_max_eq_greatest _ _

theorem length_le_maxPatternLength {p : Text} (hp : p ∈ t.patterns) :
    p.length ≤ t.maxPatternLength := by
  rw [maxPatternLength_eq]
  exact List.le_max?_getD_of_mem (List.mem_map_of_mem hp)

theorem length_le_maxFragmentLength {p f : Text} (h : (p, f) ∈ t.rules) :
    f.length ≤ t.maxFragmentLength := by
  rw [maxFragmentLength_eq]
  exact List.le_max?_getD_of_mem (List.mem_map.2 ⟨(p, f), h, rfl⟩)

theorem probe_congr {window other : Nat → Text} {ns : List Nat} (h : ∀ n ∈ ns, window n = other n) :
    t.probe window ns = t.probe other ns := by
  induction ns with
  | nil => rfl
  | cons n ns ih =>
    obtain ⟨hn, hns⟩ := List.forall_mem_cons.1 h
    rw [probe, probe, hn, ih hns]

def Allows (limit : Option Int) (length : Nat) : Prop := ∀ n ∈ limit, (length : Int) ≤ n

instance (limit : Option Int) : DecidablePred (Allows limit) :=
  fun _ => inferInstanceAs (Decidable (∀ n ∈ limit, _))

section Bounded

variable {text : Text} {offset : Nat} {limit : Option Int} {hit : Hit}

theorem lookup_eq_probe (t : RuleTable) (limit : Option Int) (ho : offset ≤ text.length) :
    t.lookup text offset limit = t.probe (text.drop offset).take
      (t.lengths.filter fun n => Allows limit n ∧ n ≤ (text.drop offset).length) := by
  have hwindow : ∀ n : Nat, text.slice offset (offset + n) = (text.drop offset).take n := fun n => by
    rw [← Text.slice_eq_take, Int.natCast_add]
  have hbound : ∀ bound : Int,
      (∀ n : Nat, (n : Int) ≤ bound ↔ Allows limit n ∧ n ≤ (text.drop offset).length) →
      t.probe (fun n => text.slice offset (offset + n)) (t.lengths.filter fun n => (n : Int) ≤ bound) =
        t.probe (text.drop offset).take
          (t.lengths.filter fun n => Allows limit n ∧ n ≤ (text.drop offset).length) := by
    intro bound h
    rw [List.filter_congr fun n _ => decide_eq_decide.2 (h n)]
    exact probe_congr fun n _ => hwindow n
  refine hbound _ fun n => ?_
  rw [List.length_drop]
  cases limit with
  | none =>
    simp only [Allows, Option.not_mem_none, false_implies, implies_true, true_and]
    omega
  | some b =>
    simp only [Allows, Option.mem_some_iff, forall_eq']
    omega

/-- Look-up as the walk uses it: bounded by the longest pattern, it finds what the rest of the text
begins with. -/
theorem lookup_maxPatternLength (ho : offset ≤ text.length) :
    t.lookup text offset (some t.maxPatternLength) = t.hit? (text.drop offset) := by
  rw [lookup_eq_probe t _ ho, hit?, longestStart]
  congr 1
  refine List.filter_congr fun n hn => decide_eq_decide.2 ?_
  obtain ⟨p, hp, rfl⟩ := mem_lengths.1 hn
  have hle : Allows (some (t.maxPatternLength : Int)) p.length :=
    fun _ h => Option.mem_some_iff.1 h ▸ Int.ofNat_le.2 (length_le_maxPatternLength hp)
  rw [and_iff_right hle, List.length_take]
  omega

theorem lookup_eq_none_iff (ho : offset ≤ text.length) :
    t.lookup text offset limit = none ↔
      ∀ p ∈ t.patterns, p <+: text.drop offset → ¬ Allows limit p.length := by
  rw [lookup_eq_probe t limit ho, probe_take_eq_none_iff fun n => And.right]
  refine forall₂_congr fun p _ => forall_congr' fun hs => ?_
  rw [and_iff_left hs.length_le]

theorem lookup_eq_some_iff (ho : offset ≤ text.length) :
    t.lookup text offset limit = some hit ↔
      ∃ p, t.IsLongest (Allows limit) (text.drop offset) p ∧ t.fragment? p = some hit.fragment ∧
        p.length = hit.length := by
  rw [lookup_eq_probe t limit ho, probe_take_eq_some_iff fun n => And.right]
  refine exists_congr fun p => and_congr_left fun _ => ⟨fun h => ?_, fun h => ?_⟩
  · exact ⟨h.mem, h.start, h.fits.1, fun q hq hs ha => h.longest q hq hs ⟨ha, hs.length_le⟩⟩
  · exact ⟨h.mem, h.start, ⟨h.fits, h.start.length_le⟩, fun q hq hs ha => h.longest q hq hs ha.1⟩

section Window

variable {other : Text} {place : Nat} {bound : Option Int}

theorem lookup_congr (ho : offset ≤ text.length) (hp : place ≤ other.length)
    (h : ∀ q ∈ t.patterns, q <+: text.drop offset ∧ Allows limit q.length ↔
      q <+: other.drop place ∧ Allows bound q.length) :
    t.lookup text offset limit = t.lookup other place bound := by
  ext hit
  rw [lookup_eq_some_iff ho, lookup_eq_some_iff hp]
  refine exists_congr fun q => and_congr_left fun _ => ⟨fun hq => ?_, fun hq => ?_⟩
  · exact hq.of_starts h
  · exact hq.of_starts fun q hq => (h q hq).symm

/-- How many units look-up can see: as many as the longest pattern has, or fewer by the limit. -/
def reach (t : RuleTable) : Option Int → Nat
  | none => t.maxPatternLength
  | some n => min t.maxPatternLength n.toNat

theorem Allows.le_reach {p : Text} (h : Allows limit p.length) (hp : p ∈ t.patterns) :
    p.length ≤ t.reach limit := by
  have hle := length_le_maxPatternLength hp
  cases limit with
  | none => exact hle
  | some n =>
    have hn : (p.length : Int) ≤ n := h n rfl
    exact Nat.le_min.2 ⟨hle, by omega⟩

theorem lookup_eq_of_take_eq (ho : offset ≤ text.length) (hp : place ≤ other.length)
    (h : (text.drop offset).take (t.reach limit) = (other.drop place).take (t.reach limit)) :
    t.lookup text offset limit = t.lookup other place limit := by
  refine lookup_congr ho hp fun q hq => and_congr_left fun ha => ?_
  have seen : ∀ rest : Text, q <+: rest ↔ q <+: rest.take (t.reach limit) := fun rest => by
    rw [List.prefix_take_iff, and_iff_left (ha.le_reach hq)]
  rw [seen, h, ← seen]

theorem lookup_of_maxPatternLength_le (ho : offset ≤ text.length) {n : Int}
    (hn : t.maxPatternLength ≤ n) : t.lookup text offset (some n) = t.lookup text offset none := by
  refine lookup_congr ho ho fun q hq => and_congr_right fun _ => ?_
  have hle := length_le_maxPatternLength hq
  have hsome : Allows (some n) q.length := fun m hm => by
    cases hm
    omega
  exact iff_of_true hsome nofun

end Window

/-- Of the patterns that the limit allows, look-up finds the longest that stands at the offset, if one does. It
sees no more of the text than the longest pattern or the limit has room for. -/
theorem lookup_longest_within (t : RuleTable) (limit : Option Int) (ho : offset ≤ text.length) :
    (∀ hit, t.lookup text offset limit = some hit ↔
        ∃ p, t.IsLongest (Allows limit) (text.drop offset) p ∧ t.fragment? p = some hit.fragment ∧
          p.length = hit.length) ∧
      (t.lookup text offset limit = none ↔
        ∀ p ∈ t.patterns, p <+: text.drop offset → ¬ Allows limit p.length) ∧
      (∀ hit, t.lookup text offset limit = some hit → hit.length ≤ text.length - offset) ∧
      (∀ (other : Text) (place : Nat), place ≤ other.length →
        (text.drop offset).take (t.reach limit) = (other.drop place).take (t.reach limit) →
        t.lookup text offset limit = t.lookup other place limit) ∧
      ∀ n : Int, t.maxPatternLength ≤ n → t.lookup text offset (some n) = t.lookup text offset none := by
  refine ⟨fun hit => lookup_eq_some_iff ho, lookup_eq_none_iff ho, fun hit h => ?_,
    fun other place hp h => lookup_eq_of_take_eq ho hp h, fun n hn => lookup_of_maxPatternLength_le ho hn⟩
  obtain ⟨p, hp, -, hl⟩ := (lookup_eq_some_iff ho).1 h
  rw [← hl, ← List.length_drop]
  exact hp.start.length_le

theorem lookup_longest_within_gap :
    let t : RuleTable := ⟨[], [("a".codePoints, "1".codePoints), ("abc".codePoints, [])], by decide⟩
    1 ≤ "xabc".codePoints.length ∧
      (∃ p, t.IsLongest (Allows (some 2)) "abc".codePoints p ∧ t.fragment? p = some "1".codePoints ∧
        p.length = 1) ∧
      t.lookup "xabc".codePoints 1 (some 2) = t.lookup "ab".codePoints 0 (some 2) ∧
      (∀ p ∈ t.patterns, p <+: "abc".codePoints → ¬ Allows (some (-1)) p.length) ∧
      t.lookup "xabc".codePoints 1 (some 3) = some ⟨3, []⟩ ∧
      t.lookup "xabc".codePoints 1 (some 3) = t.lookup "xabc".codePoints 1 none := by
  intro t
  have ho : 1 ≤ "xabc".codePoints.length := by decide
  obtain ⟨found, -, -, sees, wide⟩ := lookup_longest_within t (some 2) ho
  obtain ⟨-, missing, -⟩ := lookup_longest_within t (some (-1)) ho
  refine ⟨ho, (found ⟨1, "1".codePoints⟩).1 (by decide), ?_, missing.1 (by decide), by decide, ?_⟩
  · exact sees "ab".codePoints 0 (by decide) (by decide)
  · exact wide 3 (by decide)

end Bounded

end Romanization.RuleTable
