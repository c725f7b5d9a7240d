import Findings.Expression.Fault
import Findings.Expression.Node
import Findings.Expression.Rule
import Std.Data.HashMap

/-!
Contract: readers of tokens that a grammar is made of.

Owns: the place in the tokens, looking at them, ordered choice, repetition, looking ahead, and the
memory of outcomes.  A reader matches, or refuses, or stops the whole reading.

A reader that refuses leaves its place open; whoever goes on without it goes back first.
-/

set_option autoImplicit false

namespace Findings.Expression

/-- What is read: tokens, and whether they stand in a field of a formatted string. -/
structure Source where
  tokens : Array Placed
  inField : Bool

/-- Where the reading stands. -/
structure Progress where
  /-- The number of the next token. -/
  place : Nat := 0
  /-- How many tokens have been looked at. -/
  seen : Nat := 0
  /-- Whether the rules for mistakes count. -/
  strict : Bool := false
  /-- The outcomes that are kept, each with the place behind it. -/
  memory : Std.HashMap (Rule × Nat) (Option Node × Nat) := {}

/-- A reader of tokens. -/
abbrev TokenReader := ReaderT Source (OptionT (ExceptT Stop (StateM Progress)))

namespace TokenReader

variable {α β : Type}

/-! ## Places -/

/-- The number of the next token. -/
def here : TokenReader Nat := return (← get).place

/-- Go to a place. -/
def goTo (place : Nat) : TokenReader Unit := modify fun progress => { progress with place := place }

/-- Stop with a fault. -/
def raise (fault : SyntaxFault) : TokenReader α := do
  throwThe Stop (.fault (if (← read).inField then .formatted fault else fault))

/-- Look at the next token. -/
def look : TokenReader Placed := do
  let place ← here
  match (← read).tokens[place]? with
  | some placed =>
      modify fun progress => { progress with seen := max progress.seen (place + 1) }
      return placed
  | none => throwThe Stop .noToken

/-- Read a token of a class. -/
def accept (inClass : Token → Bool) : TokenReader Token := do
  let placed ← look
  if inClass placed.token then
    modify fun progress => { progress with place := progress.place + 1 }
    return placed.token
  else failure

/-- Read a sign. -/
def sign (text : String) : TokenReader Unit := do
  let _ ← accept (· = .sign (Text.ofString text))

/-- Read a reserved word. -/
def word (text : String) : TokenReader Unit := do
  let _ ← accept (· = .word (Text.ofString text))

/-- Read a name. -/
def name : TokenReader Node := do
  match ← accept fun
    | .name _ => true
    | _ => false with
  | .name text => return .name text
  | _ => failure

/-- Read a token of a string. -/
def string : TokenReader Text := do
  match ← accept fun
    | .string _ => true
    | _ => false with
  | .string text => return text
  | _ => failure

/-- Read a number. -/
def number : TokenReader Text := do
  match ← accept fun
    | .number _ => true
    | _ => false with
  | .number text => return text
  | _ => failure

/-! ## Choice and repetition -/

/-- What a reader matches, or nothing where it refuses. -/
def outcome (reader : TokenReader α) : TokenReader (Option α) := (some <$> reader) <|> pure none

/-- What a reader matches, or nothing and no token read. -/
def optionally (reader : TokenReader α) : TokenReader (Option α) := do
  let place ← here
  match ← outcome reader with
  | some value => return some value
  | none =>
      goTo place
      return none

/-- The first of some readers that matches. -/
def firstOf : List (TokenReader α) → TokenReader α
  | [] => failure
  | reader :: readers => do
      match ← optionally reader with
      | some value => return value
      | none => firstOf readers

/-- As many matches as there are, up to a bound. -/
def manyUpTo (reader : TokenReader α) : (bound : Nat) → TokenReader (List α)
  | 0 => return []
  | bound + 1 => do
      match ← optionally reader with
      | none => return []
      | some value => return value :: (← manyUpTo reader bound)

/-- As many matches as there are. -/
def many (reader : TokenReader α) : TokenReader (List α) := do
  manyUpTo reader (← read).tokens.size

/-- As many matches as there are, and at least one. -/
def many1 (reader : TokenReader α) : TokenReader (List α) := do
  match ← many reader with
  | [] => failure
  | values => return values

/-- Matches with commas between. -/
def commaSeparated (reader : TokenReader α) : TokenReader (List α) := do
  let first ← reader
  return first :: (← many (do sign ","; reader))

/-- Look ahead at a match. -/
def ahead (reader : TokenReader α) : TokenReader Unit := do
  let place ← here
  match ← outcome reader with
  | some _ => goTo place
  | none => failure

/-- Look ahead that there is no match. -/
def notAhead (reader : TokenReader α) : TokenReader Unit := do
  match ← optionally (ahead reader) with
  | some _ => failure
  | none => return ()

/-! ## Mistakes -/

/-- A reader that counts only where the rules for mistakes do. -/
def whenStrict (reader : TokenReader α) : TokenReader α := do
  if (← get).strict then reader else failure

/-- A reader under which the rules for mistakes do not count. -/
def leniently (reader : TokenReader α) : TokenReader α := do
  let strict := (← get).strict
  modify fun progress => { progress with strict := false }
  let result ← outcome reader
  modify fun progress => { progress with strict := strict }
  match result with
  | some value => return value
  | none => failure

/-- Stop at a mistake: the first reader that matches tells it, or that there is none. -/
def mistake : List (TokenReader (Option Misuse)) → TokenReader Node
  | [] => failure
  | reader :: readers => do
      match ← optionally reader with
      | some (some fault) => raise (.misuse fault)
      | some none => failure
      | none => mistake readers

/-! ## Memory -/

/-- Keep an outcome of a rule at a place. -/
def keep (rule : Rule) (place : Nat) (result : Option Node) (behind : Nat) : TokenReader Unit :=
  modify fun progress =>
    { progress with memory := progress.memory.insert (rule, place) (result, behind) }

/-- A reader whose outcome is read from memory where it is known. -/
def recalled (rule : Rule) (reader : TokenReader Node) : TokenReader Node := do
  let place ← here
  match (← get).memory[(rule, place)]? with
  | some (some node, behind) =>
      goTo behind
      return node
  | some (none, _) => failure
  | none => reader

/-- A reader whose outcome is kept. -/
def kept (rule : Rule) (reader : TokenReader Node) : TokenReader Node := recalled rule do
  let place ← here
  let result ← outcome reader
  keep rule place result (← here)
  match result with
  | some node => return node
  | none => failure

/-- Match a reader that begins with itself again and again, as long as it gets further. -/
def grow (rule : Rule) (place : Nat) (reader : TokenReader Node) :
    (bound : Nat) → (best : Option Node) → (reached : Nat) → TokenReader Node
  | 0, _, _ => failure
  | bound + 1, best, reached => do
      keep rule place best reached
      goTo place
      let result ← outcome reader
      let behind ← here
      match result with
      | some node =>
          if reached < behind then grow rule place reader bound (some node) behind
          else finish best reached
      | none => finish best reached
where
  /-- End with the longest match. -/
  finish (best : Option Node) (reached : Nat) : TokenReader Node := do
    goTo reached
    match best with
    | some node => return node
    | none => failure

/-- A reader of a rule that begins with itself. -/
def growing (rule : Rule) (reader : TokenReader Node) : TokenReader Node := recalled rule do
  let place ← here
  grow rule place reader ((← read).tokens.size + 1) none place

/-- A reader of a rule as the rule is kept. -/
def underMemory (rule : Rule) (reader : TokenReader Node) : TokenReader Node :=
  match rule.memory with
  | .fresh => reader
  | .kept => kept rule reader
  | .growing => growing rule reader

end TokenReader

end Findings.Expression
