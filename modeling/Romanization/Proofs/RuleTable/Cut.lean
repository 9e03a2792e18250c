import Romanization.Proofs.RuleTable.Segmentation

namespace Romanization

def Cluster.passing (offset : Nat) (text : Text) : List Cluster :=
  text.mapIdx fun i c => ⟨offset + i, 1, [c], false⟩

@[simp] theorem Cluster.passing_nil (offset : Nat) : Cluster.passing offset [] = [] := rfl

@[simp] theorem Cluster.passing_cons (offset : Nat) (c : CodePoint) (text : Text) :
    Cluster.passing offset (c :: text) =
      ⟨offset, 1, [c], false⟩ :: Cluster.passing (offset + 1) text := by
  simp [passing, List.mapIdx_cons, Nat.add_assoc, Nat.add_comm 1]

@[simp] theorem Cluster.flatMap_output_passing (offset : Nat) (text : Text) :
    (Cluster.passing offset text).flatMap Cluster.output = text := by
  induction text generalizing offset with
  | nil => rfl
  | cons c text ih => rw [passing_cons, List.flatMap_cons, ih, List.singleton_append]

namespace RuleTable

variable {t u : RuleTable}

def Parts (t : RuleTable) (a b : Text) : Prop :=
  ∀ s, s <:+ a → s ≠ [] → ∀ p ∈ t.patterns, p <+: s ++ b → p <+: s

theorem Parts.of_suffix {a b s : Text} (h : t.Parts a b) (hs : s <:+ a) : t.Parts s b :=
  fun r hr => h r (hr.trans hs)

theorem prefix_append_cons {p s rest : Text} {c : CodePoint} (h : p <+: s ++ c :: rest) :
    p <+: s ∨ ∃ more, p = s ++ c :: more := by
  rcases List.prefix_or_prefix_of_prefix h (List.prefix_append s (c :: rest)) with hs | ⟨more, rfl⟩
  · exact .inl hs
  · cases more with
    | nil => exact .inl (by simp)
    | cons d more =>
      obtain ⟨rfl, -⟩ := List.cons_prefix_cons.1 ((List.prefix_append_right_inj s).1 h)
      exact .inr ⟨more, rfl⟩

theorem Parts.of_notMem_tail {c : CodePoint} (h : ∀ p ∈ t.patterns, c ∉ p.tail) (a rest : Text) :
    t.Parts a (c :: rest) := by
  intro s _ hne p hp hs
  rcases prefix_append_cons hs with hs | ⟨more, rfl⟩
  · exact hs
  · cases s with
    | nil => exact absurd rfl hne
    | cons d s => exact absurd (by simp) (h _ hp)

theorem Parts.hit?_append {a b : Text} (h : t.Parts a b) (ha : a ≠ []) :
    t.hit? (a ++ b) = t.hit? a := by
  refine hit?_congr fun p f => ?_
  constructor
  · rintro ⟨hs, hr⟩
    exact ⟨h a (List.suffix_refl a) ha p (Dictionary.mem_keys.2 ⟨f, hr⟩) hs, hr⟩
  · rintro ⟨hs, hr⟩
    exact ⟨hs.trans (List.prefix_append a b), hr⟩

theorem Proper.clustersFrom_append (ht : t.Proper) {a b : Text} (h : t.Parts a b) (offset : Nat) :
    t.clustersFrom offset (a ++ b) =
      t.clustersFrom offset a ++ t.clustersFrom (offset + a.length) b := by
  induction a using ht.induction generalizing offset with
  | nil => simp
  | hit a hit hh ih =>
    have hl := (ht.hit_length hh).2
    have hne := ht.hit_ne_nil hh
    have happ := h.hit?_append hne
    rw [hh] at happ
    rw [ht.clustersFrom_of_hit happ, ht.clustersFrom_of_hit hh, List.drop_append_of_le_length hl,
      ih (h.of_suffix (List.drop_suffix _ _)), List.length_drop, List.cons_append]
    congr 3
    omega
  | pass c a hh ih =>
    have happ := h.hit?_append (List.cons_ne_nil c a)
    rw [hh, List.cons_append] at happ
    rw [List.cons_append, ht.clustersFrom_of_no_hit happ, ht.clustersFrom_of_no_hit hh,
      ih (h.of_suffix (List.suffix_cons c a)), List.length_cons, List.cons_append]
    congr 3
    omega

theorem Proper.clusters_append (ht : t.Proper) {a b : Text} (h : t.Parts a b) :
    t.clusters (a ++ b) = t.clusters a ++ (t.clusters b).map (Cluster.shift a.length) := by
  rw [clusters_eq_clustersFrom, ht.clustersFrom_append h, ht.clustersFrom_eq_map_shift (0 + a.length),
    Nat.zero_add]
  rfl

theorem Proper.clusters_append_hit (ht : t.Proper) {a b : Text} (h : t.Parts a b) {hit : Hit}
    (hh : t.hit? b = some hit) :
    t.clusters (a ++ b) = t.clusters a ++ ⟨a.length, hit.length, hit.fragment, true⟩ ::
      t.clustersFrom (a.length + hit.length) (b.drop hit.length) := by
  rw [clusters_eq_clustersFrom, ht.clustersFrom_append h, Nat.zero_add, ht.clustersFrom_of_hit hh]
  rfl

theorem Proper.clustersFrom_congr (ht : t.Proper) (hu : u.Proper) {text : Text}
    (h : ∀ p f, p ⊆ text → ((p, f) ∈ t.rules ↔ (p, f) ∈ u.rules)) (offset : Nat) :
    t.clustersFrom offset text = u.clustersFrom offset text := by
  have hit_eq : ∀ s, s <:+ text → t.hit? s = u.hit? s := by
    intro s hs
    refine hit?_congr fun p f => and_congr_right fun hp => h p f ?_
    exact List.Subset.trans hp.subset hs.subset
  clear h
  induction text using ht.induction generalizing offset with
  | nil => simp
  | hit text hit hh ih =>
    have hh' := hit_eq text (List.suffix_refl text)
    rw [hh] at hh'
    rw [ht.clustersFrom_of_hit hh, hu.clustersFrom_of_hit hh'.symm]
    rw [ih _ fun s hs => hit_eq s (hs.trans (List.drop_suffix _ _))]
  | pass c text hh ih =>
    have hh' := hit_eq (c :: text) (List.suffix_refl _)
    rw [hh] at hh'
    rw [ht.clustersFrom_of_no_hit hh, hu.clustersFrom_of_no_hit hh'.symm]
    rw [ih _ fun s hs => hit_eq s (hs.trans (List.suffix_cons c text))]

theorem Proper.clusters_congr (ht : t.Proper) (hu : u.Proper) {text : Text}
    (h : ∀ p f, p ⊆ text → ((p, f) ∈ t.rules ↔ (p, f) ∈ u.rules)) :
    t.clusters text = u.clusters text :=
  ht.clustersFrom_congr hu h 0

theorem Proper.clustersFrom_eq_passing (ht : t.Proper) {text : Text}
    (h : ∀ p ∈ t.patterns, ¬ p <:+: text) (offset : Nat) :
    t.clustersFrom offset text = Cluster.passing offset text := by
  induction text generalizing offset with
  | nil => rfl
  | cons c text ih =>
    have hh : t.hit? (c :: text) = none :=
      hit?_eq_none_iff.2 fun p hp hs => h p hp hs.isInfix
    rw [ht.clustersFrom_of_no_hit hh, Cluster.passing_cons]
    rw [ih fun p hp hs => h p hp (hs.trans (List.suffix_cons c text).isInfix)]

theorem flatMap_output_clusters_of_no_pattern {text : Text} (h : ∀ p ∈ t.patterns, ¬ p <:+: text) :
    (t.clusters text).flatMap Cluster.output = text := by
  have ht : t.Proper := fun hp => h [] hp (List.nil_infix)
  rw [clusters_eq_clustersFrom, ht.clustersFrom_eq_passing h, Cluster.flatMap_output_passing]

end Romanization.RuleTable
