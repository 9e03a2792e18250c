import Romanization.Http.Response
import Romanization.Proofs.Text.Whole

namespace Romanization

namespace Json

theorem areWritable_iff {items : List Json} : areWritable items ↔ ∀ v ∈ items, v.isWritable := by
  induction items with
  | nil => simp [areWritable]
  | cons v items ih => simp [areWritable, ih]

theorem haveWritable_iff {members : List (Text × Json)} :
    haveWritable members ↔ ∀ m ∈ members, m.1.Whole ∧ m.2.isWritable := by
  induction members with
  | nil => simp [haveWritable]
  | cons m members ih => simp [haveWritable, ih, Text.isWhole_iff]

@[simp] theorem isWritable_bool (b : Bool) : isWritable (.bool b) := rfl

@[simp] theorem isWritable_int (n : Int) : isWritable (.int n) := rfl

@[simp] theorem isWritable_string {t : Text} : isWritable (.string t) ↔ t.Whole := by
  rw [isWritable, Text.isWhole_iff]

@[simp] theorem isWritable_array {items : List Json} :
    isWritable (.array items) ↔ ∀ v ∈ items, v.isWritable := by
  rw [isWritable, areWritable_iff]

end Json

namespace Http.Response

variable {status : Nat} {t : Text} {c : Catalog} {answer : Service.Answer} {r : Response}

@[simp] theorem isWritable_object {members : List (String × Json)} :
    (object members).isWritable ↔ ∀ m ∈ members, m.2.isWritable := by
  rw [object, Json.isWritable, Json.haveWritable_iff, List.forall_mem_map]
  simp

theorem sent_eq_self (h : r.body.isWritable) : r.sent = r := if_pos h

theorem sent_fail (h : t.Whole) : (fail status t).sent = fail status t :=
  sent_eq_self (by simpa [body, fail] using h)

theorem sent_reloaded (h : ∀ script ∈ c.scripts, script.Whole) :
    sent ⟨status, .reloaded c⟩ = ⟨status, .reloaded c⟩ :=
  sent_eq_self (by simpa [body] using h)

theorem isWritable_cluster {k : Cluster} (h : k.output.Whole) : (cluster k).isWritable := by
  simpa [cluster] using h

structure WholeAnswer (answer : Service.Answer) : Prop where
  input : (answer.input.getD []).Whole
  output : answer.output.Whole
  table : ∀ name, answer.table = some name → name.Whole
  clusters : ∀ k ∈ answer.clusters, k.output.Whole

theorem isWritable_transliteration (h : WholeAnswer answer) (clusters : Bool) :
    (body ⟨status, .transliteration answer clusters⟩).isWritable := by
  have hscripts : ∀ s : Script, s.name.Whole := fun s => by cases s <;> exact Text.whole_codePoints _
  have htable : ((answer.table.map Json.string).getD .null).isWritable := by
    cases ht : answer.table with
    | none => rfl
    | some name => exact Json.isWritable_string.2 (h.table name ht)
  have hclusters : Json.isWritable (if clusters then .array (answer.clusters.map cluster) else .null) := by
    cases clusters with
    | false => rfl
    | true =>
      exact Json.isWritable_array.2 (List.forall_mem_map.2 fun k hk => isWritable_cluster (h.clusters k hk))
  simp [body, h.input, h.output, htable, hclusters, hscripts]

end Http.Response

end Romanization
