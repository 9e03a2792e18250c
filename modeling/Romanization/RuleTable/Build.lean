import Romanization.Error
import Romanization.RuleTable.Basic

namespace Romanization

namespace Rule

def ofParts : Json × Json → Except Error Rule
  | (.string [], _) => .error (.badPattern (.string []))
  | (.string pattern, .string fragment) => .ok (pattern, fragment)
  | (.string pattern, fragment) => .error (.badFragment pattern fragment)
  | (pattern, _) => .error (.badPattern pattern)

/-- What comes apart into exactly two: a list, a text or the keys of an object. -/
def parts? : Json → Option (Json × Json)
  | .array [a, b] => some (a, b)
  | .string [a, b] => some (.string [a], .string [b])
  | .object [(a, _), (b, _)] => some (.string a, .string b)
  | _ => none

def ofJson (item : Json) : Except Error Rule :=
  match parts? item with
  | none => .error (.malformedRule item)
  | some parts => ofParts parts

end Rule

namespace RuleTable

variable {α β : Type}

def gather (read : α → Except Error Rule) (name : Text) :
    (taken : List Text) → List α → Except Error (List Rule)
  | _, [] => .ok []
  | taken, item :: items =>
    match read item with
    | .error e => .error e
    | .ok (pattern, fragment) =>
      if taken.contains pattern then .error (.duplicatePattern pattern name)
      else (gather read name (pattern :: taken) items).map ((pattern, fragment) :: ·)

theorem nodup_of_gather {read : α → Except Error Rule} {name : Text} {items : List α}
    {taken : List Text} {rules : Dictionary Text} (h : gather read name taken items = .ok rules) :
    rules.keys.Nodup ∧ ∀ p ∈ rules.keys, p ∉ taken := by
  induction items generalizing taken rules with
  | nil =>
    cases h
    simp [Dictionary.keys]
  | cons item items ih =>
    unfold gather at h
    split at h
    · cases h
    · split at h
      · cases h
      · next pattern fragment _ hp =>
        cases hg : gather read name (pattern :: taken) items with
        | error e =>
          rw [hg] at h
          cases h
        | ok more =>
          obtain ⟨hn, hd⟩ := ih hg
          rw [hg] at h
          cases h
          refine ⟨List.nodup_cons.2 ⟨fun hm => hd _ hm List.mem_cons_self, hn⟩, fun p hm => ?_⟩
          rcases List.mem_cons.1 hm with rfl | hm
          · exact fun ht => hp (List.contains_iff_mem.2 ht)
          · exact fun ht => hd p hm (List.mem_cons_of_mem _ ht)

def build (read : α → Except Error Rule) (name : Text) (items : List α) : Except Error RuleTable :=
  match h : gather read name [] items with
  | .error e => .error e
  | .ok rules => .ok ⟨name, rules, (nodup_of_gather h).1⟩

theorem gather_map (read : β → Except Error Rule) (f : α → β) (name : Text) (taken : List Text)
    (items : List α) :
    gather read name taken (items.map f) = gather (fun a => read (f a)) name taken items := by
  induction items generalizing taken with
  | nil => rfl
  | cons item items ih => simp only [List.map_cons, gather, ih]

theorem build_map (read : β → Except Error Rule) (f : α → β) (name : Text) (items : List α) :
    build read name (items.map f) = build (fun a => read (f a)) name items := by
  have := gather_map read f name [] items
  unfold build
  split <;> split <;> simp_all

def ofParts (name : Text) (rules : List (Json × Json)) : Except Error RuleTable :=
  build Rule.ofParts name rules

def ofRules (name : Text) (rules : List Rule) : Except Error RuleTable :=
  build (fun (pattern, fragment) => Rule.ofParts (.string pattern, .string fragment)) name rules

def items : Json → Except Error (List Json)
  | .null => .error .rulesMissing
  | .array items => .ok items
  | .string t => .ok (t.map fun c => .string [c])
  | .object members => .ok (members.map fun (key, value) => .array [.string key, value])
  | _ => .error .rulesNotIterable

def ofJson (name : Text) (rules : Json) : Except Error RuleTable := do
  build Rule.ofJson name (← items rules)

def merge (name : Text) (tables : List RuleTable) : Except Error RuleTable :=
  ofRules name (tables.flatMap RuleTable.rules)

end Romanization.RuleTable
