import Romanization.Proofs.Text.Whole

namespace Romanization

namespace Binary64

open Text (whole_append whole_cons whole_nil)

theorem whole_signed {negative : Bool} {t : Text} (h : t.Whole) : (signed negative t).Whole := by
  cases negative
  · exact h
  · exact whole_cons.2 ⟨rfl, h⟩

theorem whole_zeros (n : Nat) : (zeros n).Whole := Text.whole_replicate rfl

theorem whole_exponentText (l : Layout) (e : Int) : (exponentText l e).Whole := by
  have hsign : CodePoint.isSurrogate (if e < 0 then 0x2D else 0x2B) = false := by split <;> rfl
  exact whole_append.2
    ⟨whole_cons.2 ⟨rfl, whole_cons.2 ⟨hsign, whole_zeros _⟩⟩, Text.whole_ofNat _⟩

theorem whole_decimalText (l : Layout) (n : Nat) (k : Int) : (decimalText l n k).Whole := by
  have digits := Text.whole_ofNat n
  have front : ∀ i, Text.Whole ((Text.ofNat n).take i) := fun i => digits.subset (List.take_subset i _)
  have back : ∀ i, Text.Whole ((Text.ofNat n).drop i) := fun i => digits.subset (List.drop_subset i _)
  unfold decimalText
  dsimp only
  split
  · refine whole_append.2 ⟨whole_append.2 ⟨front _, ?_⟩, whole_exponentText l _⟩
    split
    · exact whole_nil
    · exact whole_cons.2 ⟨rfl, back _⟩
  · split
    · exact whole_append.2 ⟨whole_append.2 ⟨digits, whole_zeros _⟩, Text.whole_codePoints _⟩
    · split
      · exact whole_append.2 ⟨whole_append.2 ⟨Text.whole_codePoints _, whole_zeros _⟩, digits⟩
      · exact whole_append.2 ⟨front _, whole_cons.2 ⟨rfl, back _⟩⟩

theorem whole_text (x : Binary64) : x.text.Whole := by
  cases x with
  | nan => exact Text.whole_codePoints _
  | infinite negative => exact whole_signed (Text.whole_codePoints _)
  | finite negative m e =>
    refine whole_signed ?_
    split
    · exact Text.whole_codePoints _
    · exact whole_decimalText _ _ _

end Binary64

namespace Json

open Text (whole_append whole_cons whole_nil)

mutual

theorem whole_quoted : ∀ v : Json, v.quoted.Whole
  | null | bool true | bool false => Text.whole_codePoints _
  | int n => Text.whole_ofInt n
  | float x => x.whole_text
  | string t => t.whole_quoted
  | array items => by
    rw [quoted]
    exact whole_append.2 ⟨whole_cons.2 ⟨rfl, whole_quotedItems items⟩, by decide⟩
  | object members => by
    rw [quoted]
    exact whole_append.2 ⟨whole_cons.2 ⟨rfl, whole_quotedMembers members⟩, by decide⟩

theorem whole_quotedItems : ∀ vs : List Json, (quotedItems vs).Whole
  | [] => whole_nil
  | [v] => whole_quoted v
  | v :: w :: vs => by
    rw [quotedItems]
    · exact whole_append.2
        ⟨whole_append.2 ⟨whole_quoted v, Text.whole_codePoints _⟩, whole_quotedItems (w :: vs)⟩
    · nofun

theorem whole_quotedMembers : ∀ ms : List (Text × Json), (quotedMembers ms).Whole
  | [] => whole_nil
  | [(k, v)] => by
    rw [quotedMembers]
    exact whole_append.2 ⟨whole_append.2 ⟨k.whole_quoted, Text.whole_codePoints _⟩, whole_quoted v⟩
  | (k, v) :: m :: ms => by
    rw [quotedMembers]
    · exact whole_append.2 ⟨whole_append.2 ⟨whole_append.2 ⟨whole_append.2
        ⟨k.whole_quoted, Text.whole_codePoints _⟩, whole_quoted v⟩, Text.whole_codePoints _⟩,
        whole_quotedMembers (m :: ms)⟩
    · nofun

end

theorem whole_kind (v : Json) : v.kind.Whole := by
  cases v <;> exact Text.whole_codePoints _

theorem whole_shown {v : Json} (h : ∀ t, v = .string t → t.Whole) : v.shown.Whole := by
  cases v with
  | string t => exact h t rfl
  | _ => exact whole_quoted _

mutual

def texts : Json → List Text
  | string t => [t]
  | array items => textsOfItems items
  | object members => textsOfMembers members
  | _ => []

def textsOfItems : List Json → List Text
  | [] => []
  | v :: vs => texts v ++ textsOfItems vs

def textsOfMembers : List (Text × Json) → List Text
  | [] => []
  | (key, v) :: ms => key :: texts v ++ textsOfMembers ms

end

def Legible (v : Json) : Prop := ∀ t ∈ v.texts, t.Whole

variable {v : Json} {items : List Json} {members : List (Text × Json)}

theorem texts_subset_of_mem (h : v ∈ items) : v.texts ⊆ textsOfItems items := by
  induction items with
  | nil => cases h
  | cons w items ih =>
    rw [textsOfItems]
    rcases List.mem_cons.1 h with rfl | h
    · exact List.subset_append_left _ _
    · exact List.subset_append_of_subset_right _ (ih h)

theorem texts_subset_of_member? {key : Text} (h : member? members key = some v) :
    v.texts ⊆ textsOfMembers members := by
  induction members with
  | nil => cases h
  | cons m members ih =>
    obtain ⟨k, w⟩ := m
    rw [textsOfMembers]
    unfold member? Dictionary.find? at h
    split at h
    · cases h
      exact List.subset_cons_of_subset _ (List.subset_append_left _ _)
    · exact List.subset_cons_of_subset _ (List.subset_append_of_subset_right _ (ih h))

theorem legible_string {t : Text} : Legible (.string t) ↔ t.Whole := by
  simp [Legible, texts]

theorem Legible.item (h : Legible (.array items)) (hv : v ∈ items) : v.Legible :=
  fun t ht => h t (by rw [texts]; exact texts_subset_of_mem hv ht)

theorem Legible.member {key : Text} (h : Legible (.object members)) (hv : member? members key = some v) :
    v.Legible :=
  fun t ht => h t (by rw [texts]; exact texts_subset_of_member? hv ht)

end Json

end Romanization
