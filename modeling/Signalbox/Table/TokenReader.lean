import Signalbox.Route
import Signalbox.Table.Token

/-!
Reading values off a list of tokens. A reader starts at a cursor and leaves a cursor behind,
also when it fails, so that the place of a failure is known.
-/
namespace Signalbox.Table

/-- A place in a list of tokens: its index and the tokens from there on. -/
structure Cursor where
  position : Nat
  rest : List Token
deriving DecidableEq

def Cursor.start (tokens : List Token) : Cursor := ⟨0, tokens⟩

inductive ParseError where
  /-- another token stands where one was wanted -/
  | unexpectedToken (position : Nat) (found : Token)
  /-- a fixed word of the format is missing -/
  | missingWord (position : Nat) (word : String)
  /-- a route refers to a name that is not declared -/
  | unknownName (name : String) (route : RouteId)
  /-- none of several forms fits; each with its own reason -/
  | noAlternative (reasons : List ParseError)
  /-- the tokens ended without an end-of-text token -/
  | outOfTokens

namespace ParseError

mutual

def describe : ParseError → String
  | .unexpectedToken p t =>
    "UnexpectedToken(" ++ toString p ++ ", " ++ Text.quoted t.describe ++ ")"
  | .missingWord p w =>
    "UnexpectedToken(" ++ toString p ++ ", " ++ Text.quoted (Text.quoted w) ++ ")"
  | .unknownName n r =>
    "UnknownName(" ++ Text.quoted n ++ ", " ++ Text.quoted ("route " ++ r) ++ ")"
  | .noAlternative rs => "Many(" ++ Text.bracketed (describeAll rs) ++ ")"
  | .outOfTokens => "OutOfTokens"

def describeAll : List ParseError → List String
  | [] => []
  | e :: es => describe e :: describeAll es

end

def message : ParseError → String
  | .unexpectedToken p t => "unexpected token at " ++ toString p ++ ": " ++ t.describe
  | .missingWord p w => "unexpected token at " ++ toString p ++ ": " ++ Text.quoted w
  | .unknownName n r => "unknown name \"" ++ n ++ "\" in route " ++ r
  | .noAlternative rs => "no alternative matched: " ++ Text.bracketed (describeAll rs)
  | .outOfTokens => "out of tokens"

end ParseError

def TokenReader (α : Type) := Cursor → Except ParseError α × Cursor

namespace TokenReader

variable {α β : Type}

protected def pure (a : α) : TokenReader α := fun c => (.ok a, c)

protected def bind (r : TokenReader α) (f : α → TokenReader β) : TokenReader β := fun c =>
  match r c with
  | (.ok a, c') => f a c'
  | (.error e, c') => (.error e, c')

instance : Monad TokenReader where
  pure := TokenReader.pure
  bind := TokenReader.bind

theorem pure_apply (a : α) (c : Cursor) : (pure a : TokenReader α) c = (.ok a, c) := rfl

theorem bind_of_ok {r : TokenReader α} {f : α → TokenReader β} {c c' : Cursor} {a : α}
    (h : r c = (.ok a, c')) : (r >>= f) c = f a c' := by
  change TokenReader.bind r f c = f a c'
  simp [TokenReader.bind, h]

theorem bind_of_error {r : TokenReader α} {f : α → TokenReader β} {c c' : Cursor}
    {e : ParseError} (h : r c = (.error e, c')) : (r >>= f) c = (.error e, c') := by
  change TokenReader.bind r f c = (.error e, c')
  simp [TokenReader.bind, h]

def take (accept : Token → Option α) : TokenReader α := fun c =>
  match c.rest with
  | [] => (.error .outOfTokens, c)
  | t :: rest =>
    match accept t with
    | some a => (.ok a, ⟨c.position + 1, rest⟩)
    | none => (.error (.unexpectedToken c.position t), c)

def word : TokenReader String := take fun
  | .word s => some s
  | _ => none

def number : TokenReader Binary64 := take fun
  | .number x => some x
  | _ => none

/-- The name that a number stands for as a route id: its digits when it is whole, and the
greatest 64-bit number beyond that range. -/
def numberedRoute? (x : Binary64) : Option RouteId :=
  x.toNat?.map fun n => toString (min n (Nat.pow 2 64 - 1))

/-- A word, or a whole number as in `route 12`. -/
def routeId : TokenReader RouteId := take fun
  | .word s => some s
  | .number x => numberedRoute? x
  | _ => none

def tryToken (t : Token) : TokenReader Bool := fun c =>
  match c.rest with
  | [] => (.error .outOfTokens, c)
  | u :: rest => if u = t then (.ok true, ⟨c.position + 1, rest⟩) else (.ok false, c)

def token (t : Token) : TokenReader Unit := take fun u => if u = t then some () else none

/-- A fixed word of the format. A different word is put back. -/
def keyword (w : String) : TokenReader Unit := fun c =>
  match word c with
  | (.ok s, c') => if s = w then (.ok (), c') else (.error (.missingWord c.position w), c)
  | (.error e, c') => (.error e, c')

/-- The elements of a list after its opening bracket, at most as many as the first argument
says. Every element is followed by a separator or by the closing bracket. -/
def elements (r : TokenReader α) : Nat → TokenReader (List α)
  | 0 => fun c => (.error .outOfTokens, c)
  | n + 1 => do
    let a ← r
    if ← tryToken .separator then
      return a :: (← elements r n)
    else
      token .listClose
      return [a]

/-- A list between brackets. As each element takes a token for its separator, the tokens left
bound the number of elements. -/
def listOf (r : TokenReader α) : TokenReader (List α) := do
  token .listOpen
  if ← tryToken .listClose then
    return []
  else
    fun c => elements r c.rest.length c

/-- The first of the readers that succeeds from the starting place. If none does, all reasons
are reported, and the place is that of the last failure. -/
def firstOf (readers : List (TokenReader α)) : TokenReader α := fun start =>
  go start readers [] start
where
  go (start : Cursor) : List (TokenReader α) → List ParseError → TokenReader α
    | [], reasons => fun c => (.error (.noAlternative reasons.reverse), c)
    | r :: rs, reasons => fun _ =>
      match r start with
      | (.ok a, c) => (.ok a, c)
      | (.error .outOfTokens, c) => (.error .outOfTokens, c)
      | (.error e, c) => go start rs (e :: reasons) c

end TokenReader

end Signalbox.Table
