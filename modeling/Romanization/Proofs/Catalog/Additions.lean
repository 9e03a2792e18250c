import Romanization.Catalog.Basic
import Romanization.Proofs.Dictionary
import Romanization.Proofs.Outcome
import Romanization.Proofs.Text.Sort

namespace Romanization.Catalog

structure Addition where
  table : RuleTable
  source : Source
  languages : List Text

def Addition.listing (a : Addition) : Listing := ⟨a.table, a.source⟩

def addOne (c : Catalog) (a : Addition) : Catalog := c.add a.table a.source a.languages

def addAll (c : Catalog) (additions : List Addition) : Catalog := additions.foldl addOne c

variable {c : Catalog} {a : Addition} {additions : List Addition} {script language : Text}

@[simp] theorem addAll_nil (c : Catalog) : c.addAll [] = c := rfl

@[simp] theorem addAll_cons (c : Catalog) (a : Addition) (additions : List Addition) :
    c.addAll (a :: additions) = (c.addOne a).addAll additions := rfl

theorem addAll_append (c : Catalog) (first second : List Addition) :
    c.addAll (first ++ second) = (c.addAll first).addAll second := List.foldl_append

theorem listings_addAll (c : Catalog) (additions : List Addition) :
    (c.addAll additions).listings =
      (additions.map fun a => (a.table.name, a.listing)).foldl (fun d e => d.put e.1 e.2) c.listings := by
  induction additions generalizing c with
  | nil => rfl
  | cons a additions ih => exact ih (c.addOne a)

theorem languages_addAll (c : Catalog) (additions : List Addition) :
    (c.addAll additions).languages =
      (additions.flatMap fun a => a.languages.map (·, a.table.name)).foldl
        (fun d e => d.put e.1 e.2) c.languages := by
  induction additions generalizing c with
  | nil => rfl
  | cons a additions ih =>
    rw [addAll_cons, ih, List.flatMap_cons, List.foldl_append, List.foldl_map]
    rfl

theorem find?_listings_addAll :
    (c.addAll additions).listings.find? script =
      ((additions.reverse.find? (·.table.name == script)).map Addition.listing).or
        (c.listings.find? script) := by
  rw [listings_addAll, Dictionary.find?_foldl_put, ← List.map_reverse, List.find?_map, Option.map_map]
  rfl

theorem find?_languages_addAll :
    (c.addAll additions).languages.find? language =
      ((additions.reverse.find? (·.languages.contains language)).map (·.table.name)).or
        (c.languages.find? language) := by
  induction additions generalizing c with
  | nil => rfl
  | cons a additions ih =>
    have hone : (c.addOne a).languages.find? language =
        if language ∈ a.languages then some a.table.name else c.languages.find? language :=
      Dictionary.find?_foldl_put_same a.languages a.table.name c.languages language
    rw [addAll_cons, ih, hone, List.reverse_cons, List.find?_append]
    cases additions.reverse.find? (·.languages.contains language) with
    | some found => rfl
    | none => by_cases hl : language ∈ a.languages <;> simp [hl]

theorem nodup_listings_addAll (h : c.listings.keys.Nodup) :
    (c.addAll additions).listings.keys.Nodup := by
  rw [listings_addAll]
  exact Dictionary.nodup_foldl_put _ h

theorem nodup_languages_addAll (h : c.languages.keys.Nodup) :
    (c.addAll additions).languages.keys.Nodup := by
  rw [languages_addAll]
  exact Dictionary.nodup_foldl_put _ h

end Romanization.Catalog
