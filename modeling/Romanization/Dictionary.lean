import Romanization.CodePoint

namespace Romanization

abbrev Dictionary (α : Type) := List (Text × α)

namespace Dictionary

variable {α : Type}

def keys (d : Dictionary α) : List Text := d.map Prod.fst

def find? : Dictionary α → Text → Option α
  | [], _ => none
  | (k, a) :: d, key => if k == key then some a else find? d key

def put : Dictionary α → Text → α → Dictionary α
  | [], key, a => [(key, a)]
  | (k, b) :: d, key, a => if k == key then (k, a) :: d else (k, b) :: put d key a

def putNew (d : Dictionary α) (key : Text) (a : α) : Dictionary α :=
  if (d.find? key).isSome then d else d ++ [(key, a)]

def ofList (entries : List (Text × α)) : Dictionary α :=
  entries.foldl (fun d (key, a) => d.put key a) []

theorem find?_put (d : Dictionary α) (key other : Text) (a : α) :
    (d.put key a).find? other = if key = other then some a else d.find? other := by
  induction d with
  | nil => simp [put, find?]
  | cons e d ih => grind [put, find?]

theorem mem_keys_put (d : Dictionary α) (key other : Text) (a : α) :
    other ∈ (d.put key a).keys ↔ other = key ∨ other ∈ d.keys := by
  induction d with
  | nil => simp [put, keys]
  | cons e d ih => grind [put, keys]

theorem nodup_put {d : Dictionary α} (h : d.keys.Nodup) (key : Text) (a : α) :
    (d.put key a).keys.Nodup := by
  induction d with
  | nil => simp [put, keys]
  | cons e d ih =>
    have := mem_keys_put d key e.1 a
    grind [put, keys]

theorem nodup_foldl_put (entries : List (Text × α)) {d : Dictionary α} (h : d.keys.Nodup) :
    (entries.foldl (fun d e => d.put e.1 e.2) d).keys.Nodup := by
  induction entries generalizing d with
  | nil => exact h
  | cons e entries ih => exact ih (nodup_put h e.1 e.2)

theorem nodup_ofList (entries : List (Text × α)) : (ofList entries).keys.Nodup :=
  nodup_foldl_put entries List.nodup_nil

end Romanization.Dictionary
