/-!
Cancellation that reaches downwards. A token carries its own flag, which it shares with its
clones, and the flags of the tokens it descends from. It is cancelled when one of them is set.
-/
namespace Signalbox

/-- Tokens in the order of their making, each as the numbers of its flags, its own first. -/
structure CancelTokens where
  flagCount : Nat
  tokens : List (List Nat)
  /-- the flags that have been set -/
  set : List Nat
deriving DecidableEq, Repr

namespace CancelTokens

def initial : CancelTokens := ⟨1, [[0]], []⟩

def flags (c : CancelTokens) (token : Nat) : List Nat := c.tokens[token]?.getD []

def addBelow (c : CancelTokens) (above : List Nat) : CancelTokens :=
  { c with flagCount := c.flagCount + 1, tokens := c.tokens ++ [c.flagCount :: above] }

def new (c : CancelTokens) : CancelTokens := c.addBelow []

def child (c : CancelTokens) (token : Nat) : CancelTokens := c.addBelow (c.flags token)

def clone (c : CancelTokens) (token : Nat) : CancelTokens :=
  { c with tokens := c.tokens ++ [c.flags token] }

def cancel (c : CancelTokens) (token : Nat) : CancelTokens :=
  { c with set := (c.flags token).head?.toList ++ c.set }

def isCancelled (c : CancelTokens) (token : Nat) : Bool :=
  (c.flags token).any c.set.contains

/-! ### Waits -/

def ownSet (c : CancelTokens) (token : Nat) : Bool :=
  (c.flags token).head?.any c.set.contains

def aboveSet (c : CancelTokens) (token : Nat) : Bool :=
  (c.flags token).tail.any c.set.contains

/-- How the tokens are found when a wait begins or is woken, and how long it has lasted. -/
structure Look where
  elapsed : Nat
  tokens : CancelTokens
deriving DecidableEq, Repr

/-- Waits for the own flag of a token to be set. At the end, when the time is over or there is
nothing more to wake it, the flags above are looked at too. -/
def wait (token length : Nat) (now : Look) : List Look → Bool
  | [] => now.tokens.ownSet token || now.tokens.aboveSet token
  | next :: later =>
    if now.tokens.ownSet token then true
    else if length ≤ now.elapsed then now.tokens.aboveSet token
    else wait token length next later

theorem isCancelled_eq (c : CancelTokens) (token : Nat) :
    c.isCancelled token = (c.ownSet token || c.aboveSet token) := by
  unfold isCancelled ownSet aboveSet
  cases c.flags token <;> rfl

end CancelTokens

end Signalbox
