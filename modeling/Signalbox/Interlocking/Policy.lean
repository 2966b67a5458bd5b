/-! The two ways to judge a conflict, and the names of the algorithms that follow them. -/
namespace Signalbox

/-- How a held conflicting route bears on a new grant. -/
inductive ConflictPolicy where
  /-- it is admissible when it passes the sectional check -/
  | sectional
  /-- it always blocks -/
  | blocking
deriving DecidableEq, Repr

namespace ConflictPolicy

/-- The name under which an algorithm with this policy is selected and reported. -/
def algorithmName : ConflictPolicy → String
  | .sectional => "default"
  | .blocking => "blocking"

def ofName? (name : String) : Option ConflictPolicy :=
  if name = "default" ∨ name = "sectional" then some .sectional
  else if name = "blocking" then some .blocking
  else none

def names : List String := ["default", "blocking"]

def label : ConflictPolicy → String
  | .sectional => "sectional"
  | .blocking => "blocking"

end ConflictPolicy

end Signalbox
