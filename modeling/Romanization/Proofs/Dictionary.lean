import Mathlib.Data.List.Nodup
import Romanization.Dictionary

namespace Romanization.Dictionary

variable {α : Type}

@[simp] theorem keys_nil : keys ([] : Dictionary α) = [] := rfl

@[simp] theorem keys_cons (e : Text × α) (d : Dictionary α) : keys (e :: d) = e.1 :: keys d := rfl

@[simp] theorem keys_append (d e : Dictionary α) : keys (d ++ e) = keys d ++ keys e :=
  List.map_append

theorem mem_keys {d : Dictionary α} {key : Text} : key ∈ d.keys ↔ ∃ a, (key, a) ∈ d := by
  simp [keys]

theorem find?_eq_none_iff {d : Dictionary α} {key : Text} : d.find? key = none ↔ key ∉ d.keys := by
  induction d with
  | nil => simp [find?]
  | cons e d ih =>
    obtain ⟨k, a⟩ := e
    by_cases h : k = key
    · simp [find?, h]
    · simp [find?, h, ih, Ne.symm h]

theorem find?_eq_some_iff {d : Dictionary α} (hd : d.keys.Nodup) {key : Text} {a : α} :
    d.find? key = some a ↔ (key, a) ∈ d := by
  induction d with
  | nil => simp [find?]
  | cons e d ih =>
    obtain ⟨k, b⟩ := e
    obtain ⟨hk, hd⟩ := List.nodup_cons.1 hd
    by_cases h : k = key
    · subst h
      have : (k, a) ∉ d := fun hm => hk (mem_keys.2 ⟨a, hm⟩)
      simp [find?, this, eq_comm]
    · simp [find?, h, ih hd, Ne.symm h]

theorem find?_perm {d e : Dictionary α} (hd : d.keys.Nodup) (h : d.Perm e) (key : Text) :
    d.find? key = e.find? key := by
  have he : e.keys.Nodup := (h.map Prod.fst).nodup_iff.1 hd
  ext a
  rw [find?_eq_some_iff hd, find?_eq_some_iff he, h.mem_iff]

theorem put_of_notMem {d : Dictionary α} {key : Text} (h : key ∉ d.keys) (a : α) :
    d.put key a = d ++ [(key, a)] := by
  induction d with
  | nil => rfl
  | cons e d ih =>
    rw [keys_cons, List.mem_cons, not_or] at h
    simp [put, Ne.symm h.1, ih h.2]

theorem foldl_put_eq_append (entries d : Dictionary α) (h : (d ++ entries).keys.Nodup) :
    entries.foldl (fun d e => d.put e.1 e.2) d = d ++ entries := by
  induction entries generalizing d with
  | nil => simp
  | cons e entries ih =>
    have hk : e.1 ∉ d.keys := by
      intro hm
      rw [keys_append, keys_cons] at h
      exact List.disjoint_of_nodup_append h hm List.mem_cons_self
    have hs : (d ++ [e]) ++ entries = d ++ e :: entries := by simp
    rw [List.foldl_cons, put_of_notMem hk, ih (d ++ [e]) (hs ▸ h), hs]

theorem find?_append (d e : Dictionary α) (key : Text) :
    (d ++ e).find? key = (d.find? key).or (e.find? key) := by
  induction d with
  | nil => rfl
  | cons f d ih =>
    by_cases h : f.1 = key
    · simp [find?, h]
    · simp [find?, h, ih]

theorem find?_map_append (d : Dictionary α) (key more : Text) :
    find? (d.map fun (k, a) => (k ++ more, a)) (key ++ more) = d.find? key := by
  induction d with
  | nil => rfl
  | cons e d ih =>
    by_cases h : e.1 = key
    · simp [find?, h]
    · simpa [find?, h] using ih

theorem find?_putNew (d : Dictionary α) (key other : Text) (a : α) :
    (d.putNew key a).find? other = (d.find? other).or (if key = other then some a else none) := by
  unfold putNew
  split
  · next h =>
    by_cases ho : key = other
    · subst ho
      obtain ⟨b, hb⟩ := Option.isSome_iff_exists.1 h
      simp [hb]
    · simp [ho]
  · simp [find?_append, find?]

theorem nodup_putNew {d : Dictionary α} (h : d.keys.Nodup) (key : Text) (a : α) :
    (d.putNew key a).keys.Nodup := by
  unfold putNew
  split
  · exact h
  · next hn =>
    have hk : key ∉ d.keys := find?_eq_none_iff.1 (Option.not_isSome_iff_eq_none.1 hn)
    rw [keys_append]
    exact List.nodup_append'.2 ⟨h, by simp, by simpa using hk⟩

theorem mem_keys_putNew {d : Dictionary α} {key other : Text} {a : α} :
    other ∈ (d.putNew key a).keys ↔ other ∈ d.keys ∨ other = key := by
  unfold putNew
  split
  · next h =>
    refine ⟨Or.inl, ?_⟩
    rintro (h | rfl)
    · exact h
    · by_contra hn
      simp [find?_eq_none_iff.2 hn] at h
  · simp

theorem find?_foldl_put (entries d : Dictionary α) (key : Text) :
    (entries.foldl (fun d e => d.put e.1 e.2) d).find? key =
      ((entries.reverse.find? (·.1 == key)).map Prod.snd).or (d.find? key) := by
  induction entries generalizing d with
  | nil => rfl
  | cons e entries ih =>
    rw [List.foldl_cons, ih, find?_put, List.reverse_cons, List.find?_append]
    cases List.find? (·.1 == key) entries.reverse with
    | some found => rfl
    | none => by_cases h : e.1 = key <;> simp [h]

theorem find?_foldl_put_same (keys : List Text) (a : α) (d : Dictionary α) (key : Text) :
    (keys.foldl (fun d k => d.put k a) d).find? key = if key ∈ keys then some a else d.find? key := by
  induction keys generalizing d with
  | nil => simp
  | cons k keys ih =>
    rw [List.foldl_cons, ih, find?_put]
    by_cases hk : key ∈ keys
    · simp [hk]
    · simp [hk, eq_comm]

theorem mem_keys_iff_isSome {d : Dictionary α} {key : Text} : key ∈ d.keys ↔ (d.find? key).isSome := by
  rw [Option.isSome_iff_ne_none, Ne, find?_eq_none_iff, not_not]

theorem mem_keys_iff_exists {d : Dictionary α} {key : Text} :
    key ∈ d.keys ↔ ∃ a, d.find? key = some a := by
  rw [mem_keys_iff_isSome, Option.isSome_iff_exists]

variable (f : Text → Text)

theorem find?_foldl_putNew (entries d : Dictionary α) (key : Text) :
    (entries.foldl (fun d e => d.putNew (f e.1) e.2) d).find? key =
      (d.find? key).or ((List.find? (fun e => f e.1 == key) entries).map Prod.snd) := by
  induction entries generalizing d with
  | nil => simp
  | cons e entries ih =>
    rw [List.foldl_cons, ih, find?_putNew, Option.or_assoc]
    by_cases h : f e.1 = key <;> simp [h]

theorem nodup_foldl_putNew (entries : Dictionary α) {d : Dictionary α} (h : d.keys.Nodup) :
    (entries.foldl (fun d e => d.putNew (f e.1) e.2) d).keys.Nodup := by
  induction entries generalizing d with
  | nil => exact h
  | cons e entries ih => exact ih (nodup_putNew h _ _)

theorem mem_keys_foldl_putNew {entries d : Dictionary α} {key : Text} :
    key ∈ (entries.foldl (fun d e => d.putNew (f e.1) e.2) d).keys ↔
      key ∈ d.keys ∨ ∃ k ∈ entries.keys, f k = key := by
  induction entries generalizing d with
  | nil => simp
  | cons e entries ih =>
    simp only [List.foldl_cons, ih, mem_keys_putNew, keys_cons, List.exists_mem_cons_iff, or_assoc]
    rw [eq_comm (a := key)]

end Romanization.Dictionary
