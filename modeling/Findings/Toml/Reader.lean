import Findings.Toml.Key
import Findings.Toml.Scalars
import Findings.Toml.Table

/-!
Contract: reading one value of TOML text.

Owns: a machine that keeps the open arrays and inline tables on a stack.  Each of its steps reads
one scalar, or the punctuation around the items of a container.
-/

set_option autoImplicit false

namespace Findings.Toml

/-- An inline table that is still open. -/
structure OpenTable where
  members : Table
  /-- The keys whose values are complete containers, which no later key may enter. -/
  sealed : List Key

/-- A container that is still open: the items of an array in reverse, or an inline table with the
key whose value is being read. -/
inductive Frame where
  | array (before : List Value)
  | inlineTable (opened : OpenTable) (key : Key)

/-- What the text so far calls for. -/
inductive State where
  | value (stack : List Frame)
  /-- A value is complete; the innermost open container goes on or closes. -/
  | complete (value : Value) (stack : List Frame)

/-! ## Steps -/

/-- Go on in an array where an item can stand or the array can close. -/
def nextItem (before : List Value) (stack : List Frame) (text : Text) : Read State :=
  match skipFiller text with
  | .error stop => .error stop
  | .ok [] => .ok (.value (.array before :: stack), [])
  | .ok (c :: rest) =>
      if c = ']' then .ok (.complete (.array before.reverse) stack, rest)
      else .ok (.value (.array before :: stack), c :: rest)

/-- Go on in an inline table where a member has to stand. -/
def nextMember (opened : OpenTable) (stack : List Frame) (text : Text) : Read State :=
  (readKeyEquals text).map fun read => (.value (.inlineTable opened read.1 :: stack), read.2)

/-- Begin an inline table behind its brace. -/
def beginInlineTable (stack : List Frame) (text : Text) : Read State :=
  match text.dropWhile isBlank with
  | [] => nextMember ⟨[], []⟩ stack []
  | c :: rest =>
      if c = '\x7d' then .ok (.complete (.table []) stack, rest)
      else nextMember ⟨[], []⟩ stack (c :: rest)

/-- Read the beginning of a value. -/
def beginValue (stack : List Frame) : (text : Text) → Read State
  | [] => .error (.fault .invalidValue [])
  | c :: rest =>
      if c = '[' then nextItem [] stack rest
      else if c = '\x7b' then beginInlineTable stack rest
      else if c = quoteMark ∨ c = apostrophe then
        (readString c rest).map fun read => (.complete (.text read.1) stack, read.2)
      else (readPlainScalar (c :: rest)).map fun read => (.complete read.1 stack, read.2)

/-- Go on in an array behind an item. -/
def afterItem (item : Value) (before : List Value) (stack : List Frame) (text : Text) :
    Read State :=
  match skipFiller text with
  | .error stop => .error stop
  | .ok [] => .error (.fault .unclosedArray [])
  | .ok (c :: rest) =>
      if c = ']' then .ok (.complete (.array (item :: before).reverse) stack, rest)
      else if c = ',' then nextItem (item :: before) stack rest
      else .error (.fault .unclosedArray (c :: rest))

/-- Put a member into an inline table. -/
def OpenTable.add (opened : OpenTable) (key : Key) (value : Value) : Except Fault OpenTable :=
  if reaches opened.sealed key then .error (.immutableNamespace key)
  else
    match Table.changeBehind .refused some key.dropLast opened.members with
    | none => .error .overwrittenValue
    | some _ =>
        match Table.changeParent .refused (fun name => Table.addMember name value) key
          opened.members with
        | none => .error (.duplicateInlineKey (key.getLast?.getD []))
        | some members =>
            .ok ⟨members, if value.isContainer then key :: opened.sealed else opened.sealed⟩

/-- Go on in an inline table behind a member. -/
def afterMember (opened : OpenTable) (stack : List Frame) (text : Text) : Read State :=
  match text.dropWhile isBlank with
  | [] => .error (.fault .unclosedInlineTable [])
  | c :: rest =>
      if c = '\x7d' then .ok (.complete (.table opened.members) stack, rest)
      else if c = ',' then nextMember opened stack (rest.dropWhile isBlank)
      else .error (.fault .unclosedInlineTable (c :: rest))

/-- Go on in the innermost open container behind a value. -/
def afterValue (value : Value) (frame : Frame) (stack : List Frame) (text : Text) : Read State :=
  match frame with
  | .array before => afterItem value before stack text
  | .inlineTable opened key =>
      match opened.add key value with
      | .error fault => .error (.fault fault text)
      | .ok opened => afterMember opened stack text

/-! ## Progress -/

/-- A value still has to be read. -/
def State.pending : State → Nat
  | .value _ => 1
  | .complete .. => 0

/-- What remains to be done. -/
def remaining (state : State) (text : Text) : Nat := 2 * text.length + state.pending

theorem State.pending_le (state : State) : state.pending ≤ 1 := by
  cases state <;> simp [State.pending]

theorem remaining_lt {state : State} {rest text : Text} (shorter : rest.length < text.length) :
    remaining state rest < 2 * text.length := by
  have := state.pending_le
  unfold remaining
  omega

theorem nextItem_remaining_le {before : List Value} {stack : List Frame} {text rest : Text}
    {state : State} (read : nextItem before stack text = .ok (state, rest)) :
    remaining state rest ≤ 2 * text.length + 1 := by
  unfold nextItem at read
  split at read
  · cases read
  · cases read
    simp [remaining, State.pending]
  · rename_i filler
    have shorter := skipFiller_length_le filler
    simp only [List.length_cons] at shorter
    split at read
    · cases read
      simp only [remaining, State.pending]
      omega
    · cases read
      simp only [remaining, State.pending, List.length_cons]
      omega

theorem nextMember_remaining_lt {opened : OpenTable} {stack : List Frame} {text rest : Text}
    {state : State} (read : nextMember opened stack text = .ok (state, rest)) :
    remaining state rest < 2 * text.length := by
  unfold nextMember at read
  cases keyRead : readKeyEquals text with
  | error stop => rw [keyRead] at read; cases read
  | ok pair =>
      rw [keyRead] at read
      cases read
      exact remaining_lt (readKeyEquals_length keyRead)

theorem beginInlineTable_remaining_lt {stack : List Frame} {text rest : Text} {state : State}
    (read : beginInlineTable stack text = .ok (state, rest)) :
    remaining state rest < 2 * text.length := by
  unfold beginInlineTable at read
  have blanks := Text.length_dropWhile_le isBlank text
  split at read
  · have := nextMember_remaining_lt read
    simp only [List.length_nil] at this
    omega
  · rename_i dropped
    rw [dropped] at blanks
    simp only [List.length_cons] at blanks
    split at read
    · cases read
      exact remaining_lt (by omega)
    · have := nextMember_remaining_lt read
      simp only [List.length_cons] at this
      omega

theorem beginValue_remaining_lt {stack : List Frame} {text rest : Text} {state : State}
    (read : beginValue stack text = .ok (state, rest)) :
    remaining state rest < 2 * text.length + 1 := by
  unfold beginValue at read
  split at read
  · cases read
  · rename_i c after
    simp only [List.length_cons]
    split at read
    · have := nextItem_remaining_le read
      omega
    · split at read
      · have := beginInlineTable_remaining_lt read
        omega
      · split at read
        · cases stringRead : readString c after with
          | error stop => rw [stringRead] at read; cases read
          | ok pair =>
              rw [stringRead] at read
              cases read
              have := readString_length_le stringRead
              simp only [remaining, State.pending]
              omega
        · cases scalarRead : readPlainScalar (c :: after) with
          | error stop => rw [scalarRead] at read; cases read
          | ok pair =>
              rw [scalarRead] at read
              cases read
              have := readPlainScalar_length_le scalarRead
              simp only [List.length_cons] at this
              simp only [remaining, State.pending]
              omega

theorem afterItem_remaining_lt {item : Value} {before : List Value} {stack : List Frame}
    {text rest : Text} {state : State}
    (read : afterItem item before stack text = .ok (state, rest)) :
    remaining state rest < 2 * text.length := by
  unfold afterItem at read
  split at read
  · cases read
  · cases read
  · rename_i filler
    have shorter := skipFiller_length_le filler
    simp only [List.length_cons] at shorter
    split at read
    · cases read
      exact remaining_lt (by omega)
    · split at read
      · have := nextItem_remaining_le read
        omega
      · cases read

theorem afterMember_remaining_lt {opened : OpenTable} {stack : List Frame} {text rest : Text}
    {state : State} (read : afterMember opened stack text = .ok (state, rest)) :
    remaining state rest < 2 * text.length := by
  unfold afterMember at read
  have blanks := Text.length_dropWhile_le isBlank text
  split at read
  · cases read
  · rename_i dropped
    rw [dropped] at blanks
    simp only [List.length_cons] at blanks
    split at read
    · cases read
      exact remaining_lt (by omega)
    · split at read
      · have := nextMember_remaining_lt read
        have := Text.length_dropWhile_le isBlank ‹Text›
        omega
      · cases read

theorem afterValue_remaining_lt {value : Value} {frame : Frame} {stack : List Frame}
    {text rest : Text} {state : State}
    (read : afterValue value frame stack text = .ok (state, rest)) :
    remaining state rest < 2 * text.length := by
  unfold afterValue at read
  split at read
  · exact afterItem_remaining_lt read
  · split at read
    · cases read
    · exact afterMember_remaining_lt read

/-! ## Reading -/

/-- Run the machine until a value is complete and no container is open. -/
def run (state : State) (text : Text) : Read Value :=
  match state with
  | .value stack =>
      match _begin : beginValue stack text with
      | .error stop => .error stop
      | .ok (next, rest) => run next rest
  | .complete value [] => .ok (value, text)
  | .complete value (frame :: stack) =>
      match _after : afterValue value frame stack text with
      | .error stop => .error stop
      | .ok (next, rest) => run next rest
termination_by remaining state text
decreasing_by
  · exact beginValue_remaining_lt _begin
  · exact afterValue_remaining_lt _after

/-- Read a value at the front of a text. -/
def readValue (text : Text) : Read Value := run (.value []) text

theorem run_length_le {state : State} {text rest : Text} {value : Value}
    (read : run state text = .ok (value, rest)) : 2 * rest.length ≤ remaining state text := by
  fun_induction run state text with
  | case1 => cases read
  | case2 =>
      rename_i begun inductionHypothesis
      have := beginValue_remaining_lt begun
      have := inductionHypothesis read
      simp only [remaining, State.pending] at *
      omega
  | case3 => cases read; simp [remaining]
  | case4 => cases read
  | case5 =>
      rename_i next inductionHypothesis
      have := afterValue_remaining_lt next
      have := inductionHypothesis read
      simp only [remaining, State.pending] at *
      omega

theorem readValue_length_le {text rest : Text} {value : Value}
    (read : readValue text = .ok (value, rest)) : rest.length ≤ text.length := by
  have := run_length_le read
  simp only [remaining, State.pending] at this
  omega

end Findings.Toml
