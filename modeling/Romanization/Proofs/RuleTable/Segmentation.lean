import Romanization.Cluster
import Romanization.Proofs.RuleTable.Longest

namespace Romanization

def Cluster.shift (n : Nat) (c : Cluster) : Cluster := { c with start := n + c.start }

@[simp] theorem Cluster.start_shift (n : Nat) (c : Cluster) : (c.shift n).start = n + c.start := rfl

@[simp] theorem Cluster.shift_shift (m n : Nat) (c : Cluster) :
    (c.shift n).shift m = c.shift (m + n) := by
  simp [shift, Nat.add_assoc]

namespace RuleTable

def Proper (t : RuleTable) : Prop := [] ∉ t.patterns

def clustersFrom (t : RuleTable) (offset : Nat) (text : Text) : List Cluster :=
  t.walk t.lengths text.length ⟨offset, text⟩

theorem clusters_eq_clustersFrom (t : RuleTable) (text : Text) :
    t.clusters text = t.clustersFrom 0 text := rfl

variable {t : RuleTable}

theorem Proper.hit_length (ht : t.Proper) {text : Text} {hit : Hit} (h : t.hit? text = some hit) :
    0 < hit.length ∧ hit.length ≤ text.length := by
  obtain ⟨p, hp, -, hl⟩ := hit?_eq_some_iff.1 h
  rw [← hl]
  refine ⟨List.length_pos_iff.2 ?_, hp.start.length_le⟩
  rintro rfl
  exact ht hp.mem

@[simp] theorem walk_nil (lengths : List Nat) (steps offset : Nat) :
    t.walk lengths steps ⟨offset, []⟩ = [] := by
  cases steps <;> rfl

theorem walk_of_hit {text : Text} {hit : Hit} (hne : text ≠ []) (h : t.hit? text = some hit)
    (steps offset : Nat) :
    t.walk t.lengths (steps + 1) ⟨offset, text⟩ =
      ⟨offset, hit.length, hit.fragment, true⟩ ::
        t.walk t.lengths steps ⟨offset + hit.length, text.drop hit.length⟩ := by
  cases text with
  | nil => exact absurd rfl hne
  | cons c text =>
    unfold hit? at h
    simp [walk, next?, h]

theorem walk_of_no_hit {c : CodePoint} {text : Text} (h : t.hit? (c :: text) = none)
    (steps offset : Nat) :
    t.walk t.lengths (steps + 1) ⟨offset, c :: text⟩ =
      ⟨offset, 1, [c], false⟩ :: t.walk t.lengths steps ⟨offset + 1, text⟩ := by
  unfold hit? at h
  simp [walk, next?, h]

theorem Proper.hit_ne_nil (ht : t.Proper) {text : Text} {hit : Hit} (h : t.hit? text = some hit) :
    text ≠ [] := by
  rintro rfl
  have := ht.hit_length h
  simp at this
  omega

theorem Proper.induction (ht : t.Proper) {motive : Text → Prop} (nil : motive [])
    (hit : ∀ text hit, t.hit? text = some hit → motive (text.drop hit.length) → motive text)
    (pass : ∀ c text, t.hit? (c :: text) = none → motive text → motive (c :: text))
    (text : Text) : motive text := by
  induction h : text.length using Nat.strongRecOn generalizing text with
  | ind n ih =>
    cases text with
    | nil => exact nil
    | cons c text =>
      subst h
      cases hh : t.hit? (c :: text) with
      | none => exact pass c text hh (ih text.length (by simp) text rfl)
      | some found =>
        have := ht.hit_length hh
        exact hit _ found hh (ih _ (by simp at this ⊢; omega) _ rfl)

theorem Proper.walk_eq (ht : t.Proper) {steps : Nat} {text : Text} (hs : text.length ≤ steps)
    (offset : Nat) : t.walk t.lengths steps ⟨offset, text⟩ = t.clustersFrom offset text := by
  suffices ∀ n m, text.length ≤ n → text.length ≤ m →
      t.walk t.lengths n ⟨offset, text⟩ = t.walk t.lengths m ⟨offset, text⟩ from
    this _ _ hs (Nat.le_refl _)
  clear hs
  induction text using ht.induction generalizing offset with
  | nil => simp
  | hit text hit h ih =>
    intro n m hn hm
    obtain ⟨hp, hl⟩ := ht.hit_length h
    obtain ⟨n, rfl⟩ := Nat.exists_eq_succ_of_ne_zero (n := n) (by omega)
    obtain ⟨m, rfl⟩ := Nat.exists_eq_succ_of_ne_zero (n := m) (by omega)
    rw [Nat.succ_eq_add_one, walk_of_hit (ht.hit_ne_nil h) h, walk_of_hit (ht.hit_ne_nil h) h]
    rw [ih _ n m (by simp; omega) (by simp; omega)]
  | pass c text h ih =>
    intro n m hn hm
    simp only [List.length_cons] at hn hm
    obtain ⟨n, rfl⟩ := Nat.exists_eq_succ_of_ne_zero (n := n) (by omega)
    obtain ⟨m, rfl⟩ := Nat.exists_eq_succ_of_ne_zero (n := m) (by omega)
    rw [Nat.succ_eq_add_one, walk_of_no_hit h, walk_of_no_hit h, ih _ n m (by omega) (by omega)]

@[simp] theorem clustersFrom_nil (offset : Nat) : t.clustersFrom offset [] = [] := rfl

theorem Proper.clustersFrom_of_hit (ht : t.Proper) {text : Text} {hit : Hit}
    (h : t.hit? text = some hit) (offset : Nat) :
    t.clustersFrom offset text =
      ⟨offset, hit.length, hit.fragment, true⟩ ::
        t.clustersFrom (offset + hit.length) (text.drop hit.length) := by
  have hl := ht.hit_length h
  rw [← ht.walk_eq (Nat.le_succ text.length), walk_of_hit (ht.hit_ne_nil h) h,
    ht.walk_eq (by simp)]

theorem Proper.clustersFrom_of_no_hit (ht : t.Proper) {c : CodePoint} {text : Text}
    (h : t.hit? (c :: text) = none) (offset : Nat) :
    t.clustersFrom offset (c :: text) = ⟨offset, 1, [c], false⟩ :: t.clustersFrom (offset + 1) text := by
  rw [← ht.walk_eq (Nat.le_refl _), List.length_cons, walk_of_no_hit h, ht.walk_eq (Nat.le_refl _)]

theorem Proper.clustersFrom_add (ht : t.Proper) (n offset : Nat) (text : Text) :
    t.clustersFrom (n + offset) text = (t.clustersFrom offset text).map (Cluster.shift n) := by
  induction text using ht.induction generalizing offset with
  | nil => simp
  | hit text hit h ih =>
    rw [ht.clustersFrom_of_hit h, ht.clustersFrom_of_hit h, Nat.add_assoc, ih]
    rfl
  | pass c text h ih =>
    rw [ht.clustersFrom_of_no_hit h, ht.clustersFrom_of_no_hit h, Nat.add_assoc, ih]
    rfl

theorem Proper.clustersFrom_eq_map_shift (ht : t.Proper) (offset : Nat) (text : Text) :
    t.clustersFrom offset text = (t.clusters text).map (Cluster.shift offset) :=
  ht.clustersFrom_add offset 0 text

theorem Proper.le_start (ht : t.Proper) {offset : Nat} {text : Text} {c : Cluster}
    (hc : c ∈ t.clustersFrom offset text) : offset ≤ c.start := by
  rw [ht.clustersFrom_eq_map_shift] at hc
  obtain ⟨k, -, rfl⟩ := List.mem_map.1 hc
  rw [Cluster.start_shift]
  exact Nat.le_add_right offset k.start

theorem walk_take (lengths : List Nat) (steps more : Nat) (cursor : Cursor) :
    (t.walk lengths (steps + more) cursor).take steps = t.walk lengths steps cursor := by
  induction steps generalizing cursor with
  | zero => simp [walk]
  | succ steps ih =>
    rw [Nat.succ_add]
    cases h : t.next? lengths cursor with
    | none => simp [walk, h]
    | some found => simp [walk, h, ih]

theorem length_walk_le (lengths : List Nat) (steps : Nat) (cursor : Cursor) :
    (t.walk lengths steps cursor).length ≤ steps := by
  induction steps generalizing cursor with
  | zero => simp [walk]
  | succ steps ih =>
    cases h : t.next? lengths cursor with
    | none => simp [walk, h]
    | some found => simpa [walk, h] using ih found.2

theorem Proper.firstClusters_eq_take (ht : t.Proper) (steps : Nat) (text : Text) :
    t.firstClusters steps text = (t.clusters text).take steps := by
  rcases Nat.le_total steps text.length with h | h
  · obtain ⟨more, hm⟩ := Nat.exists_eq_add_of_le h
    rw [clusters, firstClusters, firstClusters, hm, walk_take]
  · rw [firstClusters, ht.walk_eq h, ← clusters_eq_clustersFrom, List.take_of_length_le]
    exact Nat.le_trans (length_walk_le _ _ _) h

end Romanization.RuleTable
