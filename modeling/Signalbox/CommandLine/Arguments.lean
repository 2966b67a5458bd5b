/-!
The arguments of the command: two files, `-v` any number of times, and four options that take
a value and may be given once. A value follows its option as the next argument, after an equals
sign, or, for a short option, at once. What follows a bare `--` is never an option.
-/
namespace Signalbox.CommandLine

inductive ValueOption where
  | algorithm
  | pollMs
  | maxTrains
  | json
deriving DecidableEq, Repr

def ValueOption.ofShort? : Char → Option ValueOption
  | 'a' => some .algorithm
  | 'p' => some .pollMs
  | 'm' => some .maxTrains
  | 'j' => some .json
  | _ => none

def ValueOption.ofLong? (name : String) : Option ValueOption :=
  if name = "algorithm" then some .algorithm
  else if name = "poll-ms" then some .pollMs
  else if name = "max-trains" then some .maxTrains
  else if name = "json" then some .json
  else none

/-- The value of an option that is not given, or is given without one. -/
def ValueOption.standard? : ValueOption → Option String
  | .algorithm => some "default"
  | .pollMs => some "10"
  | .maxTrains => some "32"
  | .json => none

inductive Item where
  | verbose
  | option (o : ValueOption) (value : Option String)
  | file (path : String)
deriving DecidableEq, Repr

def attachedValue (cs : List Char) : String := String.ofList (cs.dropWhile (· = '='))

/-- The items of a cluster of short options. One that takes a value ends the cluster, the
rest of which is its value. Without a rest the value is still to come. -/
def shortItems : List Char → Option (List Item)
  | [] => some []
  | c :: cs =>
    match ValueOption.ofShort? c with
    | some o => some [.option o (if cs.isEmpty then none else some (attachedValue cs))]
    | none => if c = 'v' then (shortItems cs).map (.verbose :: ·) else none

def longItem (cs : List Char) : Option Item :=
  let name := String.ofList (cs.takeWhile (· ≠ '='))
  let rest := cs.dropWhile (· ≠ '=')
  match ValueOption.ofLong? name with
  | some o => some (.option o (if rest.isEmpty then none else some (attachedValue rest)))
  | none => if name = "verbose" then some .verbose else none

/-- Whether an argument starts something new, so that it cannot be the value of an option. A
single dash is a value. -/
def startsOption (argument : String) : Bool :=
  argument.toList.head? = some '-' && argument ≠ "-"

def argumentItems (argument : String) : Option (List Item) :=
  match argument.toList with
  | '-' :: '-' :: cs => (longItem (cs.dropWhile (· = '-'))).map ([·])
  | ['-'] => some [.file argument]
  | '-' :: cs => shortItems cs
  | _ => some [.file argument]

/-- The items of all arguments. An option whose value is still to come takes the next argument,
unless that one starts something new. -/
def items (pending : Option ValueOption) : List String → Option (List Item)
  | [] => some (pending.toList.map fun o => .option o none)
  | argument :: rest =>
    match pending, startsOption argument with
    | some o, false => (items none rest).map (.option o (some argument) :: ·)
    | _, _ =>
      let without : List Item := pending.toList.map fun o => .option o none
      if argument = "--" then some (without ++ rest.map .file)
      else do
        let found ← argumentItems argument
        match found.getLast? with
        | some (.option o none) => return without ++ found.dropLast ++ (← items (some o) rest)
        | _ => return without ++ found ++ (← items none rest)

/-- A whole number below `2 ^ 64`, with or without a plus sign. -/
def readWhole (s : String) : Option Nat :=
  let digits := match s.toList with
    | '+' :: rest => rest
    | cs => cs
  let n := digits.foldl (fun n c => 10 * n + (c.toNat - '0'.toNat)) 0
  if !digits.isEmpty && digits.all Char.isDigit && n < Nat.pow 2 64 then some n else none

structure Arguments where
  verbosity : Nat
  table : String
  scenario : String
  algorithm : String
  maxTrains : Nat
  json : Option String
deriving DecidableEq, Repr

/-- The value of an option: the one given, or else the standard one. It is wrong to give an
option twice, or to leave out a value that has no standard. -/
def valueOf (items : List Item) (o : ValueOption) : Option (Option String) :=
  let given := items.filterMap fun
    | .option o' value => if o' = o then some value else none
    | _ => none
  match given with
  | [] => some o.standard?
  | [some value] => some (some value)
  | [none] => o.standard?.map some
  | _ => none

/-- Nothing when the arguments are not understood. -/
def Arguments.read (arguments : List String) : Option Arguments := do
  let items ← items none arguments
  let files := items.filterMap fun
    | .file path => some path
    | _ => none
  let algorithm ← valueOf items .algorithm
  let pollMs ← valueOf items .pollMs
  let maxTrains ← valueOf items .maxTrains
  let json ← valueOf items .json
  let _ ← readWhole (← pollMs)
  match files with
  | [table, scenario] =>
    return {
      verbosity := items.count .verbose % 256
      table
      scenario
      algorithm := ← algorithm
      maxTrains := ← readWhole (← maxTrains)
      json }
  | _ => none

end Signalbox.CommandLine
