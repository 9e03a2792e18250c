import Romanization.RuleTable.Lookup

namespace Romanization

structure Cluster where
  start : Nat
  length : Nat
  output : Text
  matched : Bool
  deriving DecidableEq, Repr

def Cluster.stop (c : Cluster) : Nat := c.start + c.length

structure Cursor where
  offset : Nat
  rest : Text

namespace RuleTable

/-- The next cluster and the cursor after it. An empty pattern leaves the cursor where it is. -/
def next? (t : RuleTable) (lengths : List Nat) : Cursor → Option (Cluster × Cursor)
  | ⟨_, []⟩ => none
  | ⟨offset, c :: rest⟩ =>
    match t.longestStart lengths (c :: rest) with
    | some hit =>
      some (⟨offset, hit.length, hit.fragment, true⟩,
        ⟨offset + hit.length, (c :: rest).drop hit.length⟩)
    | none => some (⟨offset, 1, [c], false⟩, ⟨offset + 1, rest⟩)

def walk (t : RuleTable) (lengths : List Nat) : (steps : Nat) → Cursor → List Cluster
  | 0, _ => []
  | steps + 1, cursor =>
    match t.next? lengths cursor with
    | none => []
    | some (cluster, cursor) => cluster :: walk t lengths steps cursor

def firstClusters (t : RuleTable) (steps : Nat) (text : Text) : List Cluster :=
  t.walk t.lengths steps ⟨0, text⟩

/-- The clusters of a text. Each takes at least one unit unless its pattern is empty, so that no more
steps than units are needed where the walk comes to an end at all. -/
def clusters (t : RuleTable) (text : Text) : List Cluster := t.firstClusters text.length text

end Romanization.RuleTable
