import Mathlib.Data.List.Forall2
import Romanization.Proofs.RuleTable.Lookup
import Romanization.Proofs.RuleTable.Merge

namespace Romanization

namespace Rule

inductive Unpacks : Json → Json → Json → Prop
  | list (a b : Json) : Unpacks (.array [a, b]) a b
  | text (a b : CodePoint) : Unpacks (.string [a, b]) (.string [a]) (.string [b])
  | keys (a b : Text) (v w : Json) : Unpacks (.object [(a, v), (b, w)]) (.string a) (.string b)

structure Reads (item : Json) (r : Rule) : Prop where
  unpacks : Unpacks item (.string r.1) (.string r.2)
  nonempty : r.1 ≠ []

/-- What makes an item no rule, each fault behind those that are looked for before it. -/
inductive Invalid (item : Json) : Error → Prop
  | malformed (h : ∀ a b, ¬ Unpacks item a b) : Invalid item (.malformedRule item)
  | pattern {a b : Json} (h : Unpacks item a b) (ha : ∀ p, a = .string p → p = []) :
      Invalid item (.badPattern a)
  | fragment {p : Text} {b : Json} (h : Unpacks item (.string p) b) (hp : p ≠ [])
      (hb : ∀ f, b ≠ .string f) : Invalid item (.badFragment p b)

variable {item : Json} {r : Rule} {e : Error}

theorem parts?_eq_some_iff {a b : Json} : parts? item = some (a, b) ↔ Unpacks item a b := by
  constructor
  · intro h
    unfold parts? at h
    split at h <;> cases h
    · exact .list a b
    · exact .text _ _
    · exact .keys _ _ _ _
  · rintro (_ | _ | _) <;> rfl

theorem ofJson_of_unpacks {a b : Json} (h : Unpacks item a b) : ofJson item = ofParts (a, b) := by
  rw [ofJson, parts?_eq_some_iff.2 h]

theorem ofJson_eq_ok_iff : ofJson item = .ok r ↔ Reads item r := by
  constructor
  · intro h
    unfold ofJson at h
    split at h
    · cases h
    · next parts hp =>
      obtain ⟨hne, rfl⟩ := ofParts_eq_ok_iff.1 h
      exact ⟨parts?_eq_some_iff.1 hp, hne⟩
  · intro h
    rw [ofJson_of_unpacks h.unpacks]
    exact ofParts_eq_ok_iff.2 ⟨h.nonempty, rfl⟩

theorem Reads.unique {s : Rule} (hr : Reads item r) (hs : Reads item s) : r = s :=
  Except.ok.inj ((ofJson_eq_ok_iff.2 hr).symm.trans (ofJson_eq_ok_iff.2 hs))

theorem ofParts_eq_error_iff {a b : Json} :
    ofParts (a, b) = .error e ↔ (∀ p, a = .string p → p = []) ∧ e = .badPattern a ∨
      ∃ p, a = .string p ∧ p ≠ [] ∧ (∀ f, b ≠ .string f) ∧ e = .badFragment p b := by
  cases a with
  | string p =>
    cases p with
    | nil => simp [ofParts, eq_comm]
    | cons c p => cases b <;> simp [ofParts, eq_comm]
  | _ => simp [ofParts, eq_comm]

theorem Invalid.code? (h : Invalid item e) : e.code? = some "invalid_table".codePoints := by
  cases h <;> rfl

end Rule

namespace RuleTable

/-- What an item offends against, after those before it: it is no rule, or one of them has its pattern. -/
inductive Offends (name : Text) (before : List Json) (item : Json) : Error → Prop
  | invalid {e : Error} : Rule.Invalid item e → Offends name before item e
  | duplicate {r s : Rule} {earlier : Json} : Rule.Reads item r → earlier ∈ before →
      Rule.Reads earlier s → s.1 = r.1 → Offends name before item (.duplicatePattern r.1 name)

variable {name : Text} {items before : List Json} {item : Json} {rules : Dictionary Text} {e : Error}

theorem Offends.code? (h : Offends name before item e) :
    e.code? = some "invalid_table".codePoints ∨
      ∃ p, e = .duplicatePattern p name ∧ e.code? = some "duplicate_key".codePoints := by
  cases h with
  | invalid h => exact .inl h.code?
  | duplicate => exact .inr ⟨_, rfl, rfl⟩

theorem ofJson_of_items {source : Json} (h : RuleTable.items source = .ok items) :
    ofJson name source = build Rule.ofJson name items := by
  rw [ofJson, h]
  rfl

end RuleTable

end Romanization
