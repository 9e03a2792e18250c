import Romanization.Dictionary
import Romanization.Text.Quoted

namespace Romanization

abbrev Rule := Text × Text

structure RuleTable where
  name : Text
  rules : Dictionary Text
  distinct : rules.keys.Nodup

namespace RuleTable

/-- Takes entries as they are: the last one for a pattern counts, and a pattern may be empty. -/
def ofEntries (name : Text) (entries : List Rule) : RuleTable :=
  ⟨name, Dictionary.ofList entries, Dictionary.nodup_ofList entries⟩

def patterns (t : RuleTable) : List Text := t.rules.keys

def size (t : RuleTable) : Nat := t.rules.length

def fragment? (t : RuleTable) (pattern : Text) : Option Text := t.rules.find? pattern

def maxPatternLength (t : RuleTable) : Nat :=
  t.rules.foldl (fun n (pattern, _) => max n pattern.length) 0

def maxFragmentLength (t : RuleTable) : Nat :=
  t.rules.foldl (fun n (_, fragment) => max n fragment.length) 0

def describe (t : RuleTable) : Text :=
  "RuleTable(name=".codePoints ++ t.name.quoted ++ ", rules=".codePoints ++ Text.ofNat t.size ++
    ", K=".codePoints ++ Text.ofNat t.maxPatternLength ++ ")".codePoints

end Romanization.RuleTable
