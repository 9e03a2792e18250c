import Romanization.Proofs.Romanizer
import Romanization.Proofs.RuleTable.Tiling
import Romanization.Proofs.Text.Growth

/-! The room that a buffer starts with is enough. A cluster takes a unit at least, and puts out a fragment or
the one unit that it takes, so that what is put out never gets ahead of what was reckoned for the units taken. -/

namespace Romanization

open Buffer (Holds)

theorem Buffer.holds_forInput (inputLength most : Nat) :
    Holds (max 1 (inputLength * max 1 most)) [] (forInput inputLength most) := by
  have hmost : max 1 (most : Int) = (max 1 most : Nat) := by omega
  rw [forInput, hmost, ← Int.natCast_mul]
  exact holds_ofCapacity (inputLength * max 1 most : Nat)

theorem length_outputs_le {cs : List Cluster} {most : Nat} (h : ∀ c ∈ cs, c.output.length ≤ c.length * most) :
    (cs.flatMap Cluster.output).length ≤ Cluster.taken cs * most := by
  induction cs with
  | nil => simp
  | cons c cs ih =>
    obtain ⟨hc, hcs⟩ := List.forall_mem_cons.1 h
    rw [List.flatMap_cons, List.length_append, Cluster.taken, Nat.add_mul]
    exact Nat.add_le_add hc (ih hcs)

theorem RuleTable.Reads.length_output_le {t : RuleTable} {text : Text} {c : Cluster} (h : t.Reads text c) :
    c.output.length ≤ c.length * max 1 t.maxFragmentLength := by
  cases hm : c.matched with
  | true =>
    obtain ⟨-, -, hf⟩ := h.longest hm
    calc
      c.output.length ≤ t.maxFragmentLength :=
        RuleTable.length_le_maxFragmentLength (RuleTable.fragment?_eq_some_iff.1 hf)
      _ ≤ max 1 t.maxFragmentLength := Nat.le_max_right _ _
      _ ≤ c.length * max 1 t.maxFragmentLength := Nat.le_mul_of_pos_left _ h.pos
  | false =>
    obtain ⟨hl, unit, -, ho⟩ := h.passed hm
    rw [hl, ho, Nat.one_mul]
    exact Nat.le_max_left _ _

namespace Romanizer

variable {t : RuleTable} {text : Text} {done rest : List Cluster}

theorem holds_joined (t : RuleTable) (inputLength : Nat) (cs : List Cluster) :
    Holds (max 1 (inputLength * max 1 t.maxFragmentLength)) (cs.flatMap Cluster.output)
      (joined t inputLength cs) := by
  have holds := (Buffer.holds_forInput inputLength t.maxFragmentLength).foldl_append (cs.map Cluster.output)
  rwa [List.nil_append, List.foldl_map] at holds

theorem bounded_of_clusters (ht : t.Proper) (h : t.clusters text = done ++ rest) :
    Contiguous 0 (Cluster.taken done) done ∧ Cluster.taken done ≤ text.length ∧
      (joined t text.length done).length ≤ Cluster.taken done * max 1 t.maxFragmentLength := by
  obtain ⟨hc, hreads⟩ := ht.isTiling text
  rw [h] at hc hreads
  obtain ⟨between, hdone, hrest⟩ := hc.exists_of_append
  have htaken : between = Cluster.taken done := by rw [hdone.stop_eq, Nat.zero_add]
  rw [← htaken]
  refine ⟨hdone, hrest.start_le_stop, ?_⟩
  rw [(holds_joined t text.length done).length, htaken]
  exact length_outputs_le fun c hc => (hreads c (List.mem_append_left rest hc)).length_output_le

theorem length_joined_le (ht : t.Proper) (h : t.clusters text = done ++ rest) :
    (joined t text.length done).length ≤ text.length * max 1 t.maxFragmentLength := by
  obtain ⟨-, hle, hlength⟩ := bounded_of_clusters ht h
  exact Nat.le_trans hlength (Nat.mul_le_mul_right _ hle)

theorem capacity_joined (ht : t.Proper) (h : t.clusters text = done ++ rest) :
    (joined t text.length done).capacity = max 1 (text.length * max 1 t.maxFragmentLength) := by
  have holds := holds_joined t text.length done
  refine holds.capacity_eq (Nat.le_trans ?_ (Nat.le_max_right _ _))
  rw [← holds.length]
  exact length_joined_le ht h

/-- The buffer that is made for a text never grows. However many of the clusters are done, it holds at most as
much as is reckoned for the units they take, has the slots that it started with, and has room for the next. -/
theorem joined_in_first_room (built : t.Built) (text : Text) :
    let most := max 1 t.maxFragmentLength
    (∀ done rest, t.clusters text = done ++ rest →
        let taken := Cluster.taken done
        let b := joined t text.length done
        Contiguous 0 taken done ∧ taken ≤ text.length ∧ b.length ≤ taken * most ∧
          b.capacity = (Buffer.forInput text.length t.maxFragmentLength).capacity ∧
          ∀ c ∈ rest.head?, b.length + c.output.length ≤ b.capacity) ∧
      (untrimmed t text).length ≤ text.length * most := by
  intro most
  have ht := built.proper
  constructor
  · intro done rest h taken b
    obtain ⟨hcontiguous, htaken, hlength⟩ := bounded_of_clusters ht h
    have hroom : b.capacity = max 1 (text.length * most) := capacity_joined ht h
    refine ⟨hcontiguous, htaken, hlength, ?_, fun c hc => ?_⟩
    · have hfirst : t.clusters text = [] ++ t.clusters text := rfl
      exact hroom.trans (capacity_joined ht hfirst).symm
    · obtain ⟨later, rfl⟩ := List.head?_eq_some_iff.1 hc
      have hnext : t.clusters text = (done ++ [c]) ++ later := by rw [h, List.append_assoc]; rfl
      calc
        b.length + c.output.length = (joined t text.length (done ++ [c])).length := by
          rw [joined, List.foldl_append]
          rfl
        _ ≤ text.length * most := length_joined_le ht hnext
        _ ≤ b.capacity := hroom ▸ Nat.le_max_right _ _
  · have h : t.clusters text = t.clusters text ++ [] := (List.append_nil _).symm
    have hall := length_joined_le ht h
    rw [(holds_joined t text.length _).length] at hall
    rwa [untrimmed_eq]

theorem joined_in_first_room_filled :
    ∃ t u, RuleTable.ofRules [] [("a".codePoints, "xyz".codePoints), ("bc".codePoints, [])] = .ok t ∧
      RuleTable.ofRules [] [("a".codePoints, [])] = .ok u ∧
      (untrimmed t "aa".codePoints).length = 6 ∧ 6 ≤ "aa".codePoints.length * max 1 t.maxFragmentLength ∧
      (∀ done rest, t.clusters "aa".codePoints = done ++ rest →
        (joined t 2 done).capacity = (Buffer.forInput 2 t.maxFragmentLength).capacity) ∧
      u.maxFragmentLength = 0 ∧
      (∀ done rest, u.clusters "bab".codePoints = done ++ rest →
        (joined u 3 done).length ≤ Cluster.taken done * 1) := by
  let t : RuleTable := ⟨[], [("a".codePoints, "xyz".codePoints), ("bc".codePoints, [])], by decide⟩
  let u : RuleTable := ⟨[], [("a".codePoints, [])], by decide⟩
  have ht : RuleTable.ofRules [] t.rules = .ok t := RuleTable.ofRules_eq_ok t.distinct (by decide)
  have hu : RuleTable.ofRules [] u.rules = .ok u := RuleTable.ofRules_eq_ok u.distinct (by decide)
  obtain ⟨states, -⟩ := joined_in_first_room (.ofRules ht) "aa".codePoints
  obtain ⟨silent, -⟩ := joined_in_first_room (.ofRules hu) "bab".codePoints
  refine ⟨t, u, ht, hu, by decide, by decide, fun done rest h => ?_, by decide, fun done rest h => ?_⟩
  · obtain ⟨-, -, -, room, -⟩ := states done rest h
    exact room
  · obtain ⟨-, -, bounded, -⟩ := silent done rest h
    exact bounded

end Romanizer

end Romanization
