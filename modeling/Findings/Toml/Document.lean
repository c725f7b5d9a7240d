import Findings.Toml.Reader

/-!
Contract: reading a TOML document.

Owns: the statements of a document, and the rules on which tables a statement may still enter.

A statement that is well formed but breaks one of these rules is faulty at the text behind it, or
behind the key of a heading.
-/

set_option autoImplicit false

namespace Findings.Toml

/-- A document that is read up to some statement. -/
structure Document where
  table : Table := []
  /-- The key of the last heading. -/
  heading : Key := []
  /-- The keys of arrays and inline tables, which no later key may enter. -/
  sealed : List Key := []
  /-- The keys that no heading may name again. -/
  declared : List Key := []
  /-- The keys that count as declared from the next heading on. -/
  dotted : List Key := []

namespace Document

/-! ## Assignments -/

/-- The proper beginnings of a key, the shortest first. -/
def properBeginnings (key : Key) : List Key := (List.range key.length).tail.map key.take

/-- Put a value under a key of the last heading's table. -/
def assign (document : Document) (key : Key) (value : Value) : Except Fault Document :=
  let whole := document.heading ++ key
  let opened := (properBeginnings key).map fun beginning => document.heading ++ beginning
  match opened.find? fun known => document.declared.contains known with
  | some known => .error (.redefinedNamespace known)
  | none =>
      if reaches document.sealed whole.dropLast then
        .error (.immutableNamespace whole.dropLast)
      else
        match Table.changeParent .lastItem (fun name => Table.addMember name value) whole
          document.table with
        | none => .error .overwrittenValue
        | some table =>
            .ok { document with
              table := table
              sealed := if value.isContainer then whole :: document.sealed else document.sealed
              dotted := opened ++ document.dotted }

/-! ## Headings -/

/-- A heading ends the table before it. -/
def endTable (document : Document) : Document :=
  { document with declared := document.dotted ++ document.declared, dotted := [] }

/-- Open a table, which must not have been declared. -/
def openTable (document : Document) (key : Key) : Except Fault Document :=
  if document.declared.contains key || reaches document.sealed key then
    .error (.declaredTwice key)
  else
    match Table.changeBehind .lastItem some key document.table with
    | none => .error .overwrittenValue
    | some table =>
        .ok { document with
          table := table
          heading := key
          declared := key :: document.declared }

/-- Open one more table of an array of tables.  What was declared in the table before it may be
declared again. -/
def openArrayItem (document : Document) (key : Key) : Except Fault Document :=
  if reaches document.sealed key then .error (.immutableNamespace key)
  else
    match Table.changeParent .lastItem Table.addToArray key document.table with
    | none => .error .overwrittenValue
    | some table =>
        .ok { document with
          table := table
          heading := key
          sealed := document.sealed.filter fun known => !key.isPrefixOf known
          declared := key :: document.declared.filter fun known => !key.isPrefixOf known }

end Document

/-! ## Statements -/

/-- Read an assignment. -/
def readAssignment (document : Document) (text : Text) : Read Document :=
  match readKeyEquals text with
  | .error stop => .error stop
  | .ok (key, afterKey) =>
      match readValue afterKey with
      | .error stop => .error stop
      | .ok (value, rest) =>
          match document.assign key value with
          | .error fault => .error (.fault fault rest)
          | .ok document => .ok (document, rest)

/-- Read a heading behind its opening brackets, up to and with the closing ones. -/
def readHeading (opening : Key → Except Fault Document) (closing : Text) (unclosed : Fault)
    (text : Text) : Read Document :=
  match readKey (text.dropWhile isBlank) with
  | .error stop => .error stop
  | .ok (key, rest) =>
      match opening key with
      | .error fault => .error (.fault fault rest)
      | .ok document =>
          match Text.after? closing rest with
          | none => .error (.fault unclosed rest)
          | some after => .ok (document, after)

/-- Read the heading of a table behind its bracket, or that of an item of an array. -/
def readAnyHeading (document : Document) : (text : Text) → Read Document
  | [] => readHeading document.openTable "]" .expectedTableEnd []
  | c :: rest =>
      if c = '[' then readHeading document.openArrayItem "]]" .expectedTableArrayEnd rest
      else readHeading document.openTable "]" .expectedTableEnd (c :: rest)

/-- Read the statement that begins with `c`. -/
def readStatement (document : Document) (c : CodePoint) (rest : Text) : Read Document :=
  if isKeyStart c then readAssignment document (c :: rest)
  else if c = '[' then readAnyHeading document.endTable rest
  else if c = '#' then .ok (document, c :: rest)
  else .error (.fault .invalidStatement (c :: rest))

/-- Read the end of a line.  There is no text behind the end of the document. -/
def readLineEnd (text : Text) : Except Stop (Option Text) :=
  match skipComment (text.dropWhile isBlank) with
  | .error stop => .error stop
  | .ok [] => .ok none
  | .ok (c :: rest) =>
      if c = Text.lineFeed then .ok (some rest)
      else .error (.fault .expectedLineEnd (c :: rest))

/-! ## Progress -/

theorem readAssignment_length_le {document next : Document} {text rest : Text}
    (read : readAssignment document text = .ok (next, rest)) : rest.length ≤ text.length := by
  unfold readAssignment at read
  split at read
  · cases read
  · rename_i keyRead
    have := readKeyEquals_length keyRead
    split at read
    · cases read
    · rename_i valueRead
      have := readValue_length_le valueRead
      split at read
      · cases read
      · cases read
        omega

theorem readHeading_length_le {opening : Key → Except Fault Document} {closing text rest : Text}
    {unclosed : Fault} {next : Document}
    (read : readHeading opening closing unclosed text = .ok (next, rest)) :
    rest.length ≤ text.length := by
  unfold readHeading at read
  have := Text.length_dropWhile_le isBlank text
  split at read
  · cases read
  · rename_i keyRead
    have := readNames_length keyRead
    split at read
    · cases read
    · split at read
      · cases read
      · rename_i closed
        have := Text.after?_length closed
        cases read
        omega

theorem readStatement_length_le {document next : Document} {c : CodePoint} {text rest : Text}
    (read : readStatement document c text = .ok (next, rest)) : rest.length ≤ text.length + 1 := by
  unfold readStatement at read
  split at read
  · exact readAssignment_length_le read
  · split at read
    · unfold readAnyHeading at read
      split at read
      · have := readHeading_length_le read
        omega
      · split at read
        · have := readHeading_length_le read
          simp only [List.length_cons]
          omega
        · have := readHeading_length_le read
          omega
    · split at read
      · cases read
        simp
      · cases read

theorem readLineEnd_length {text rest : Text} (read : readLineEnd text = .ok (some rest)) :
    rest.length < text.length := by
  unfold readLineEnd at read
  have blanks := Text.length_dropWhile_le isBlank text
  split at read
  · cases read
  · cases read
  · rename_i comment
    have shorter := skipComment_length_le comment
    simp only [List.length_cons] at shorter
    split at read
    · cases read
      omega
    · cases read

/-! ## Reading -/

/-- Read the statements of a document from the beginning of a line on. -/
def readStatements (document : Document) (text : Text) : Except Stop Document :=
  match _blanks : text.dropWhile isBlank with
  | [] => .ok document
  | c :: rest =>
      if c = Text.lineFeed then readStatements document rest
      else
        match _statement : readStatement document c rest with
        | .error stop => .error stop
        | .ok (document, after) =>
            match _lineEnd : readLineEnd after with
            | .error stop => .error stop
            | .ok none => .ok document
            | .ok (some next) => readStatements document next
termination_by text.length
decreasing_by
  all_goals
    have blanks := Text.length_dropWhile_le isBlank text
    rw [_blanks] at blanks
    simp only [List.length_cons] at blanks
  · omega
  · have := readStatement_length_le _statement
    have := readLineEnd_length _lineEnd
    omega

/-- The table that a text denotes.  Line ends are line feeds. -/
def read (text : Text) : Except ReadError Table :=
  match readStatements {} text with
  | .error stop => .error (stop.toError text)
  | .ok document => .ok document.table

end Findings.Toml
