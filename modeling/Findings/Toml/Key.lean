import Findings.Toml.Strings

/-!
Contract: reading the keys of TOML text.

Owns: single names, dotted keys, and the equals sign between a key and its value.
-/

set_option autoImplicit false

namespace Findings.Toml

/-- Read one name of a key: a run of letters, digits, hyphens and underscores, or a string on one
line. -/
def readName : (text : Text) → Read Text
  | [] => .error (.fault .invalidKeyStart [])
  | c :: rest =>
      if isBareKeyCharacter c then
        .ok (c :: rest.takeWhile isBareKeyCharacter, rest.dropWhile isBareKeyCharacter)
      else if c = quoteMark ∨ c = apostrophe then readOneLine c rest
      else .error (.fault .invalidKeyStart (c :: rest))

theorem readName_length {text name rest : Text} (read : readName text = .ok (name, rest)) :
    rest.length < text.length := by
  unfold readName at read
  split at read
  · cases read
  · rename_i c after
    split at read
    · cases read
      have := Text.length_dropWhile_le isBareKeyCharacter after
      simp only [List.length_cons]
      omega
    · split at read
      · have := readOneLine_length_le read
        simp only [List.length_cons]
        omega
      · cases read

/-- Read the names of a dotted key behind those of `before`, which is kept in reverse.  Blanks may
surround the dots. -/
def readNames (before : Key) (text : Text) : Read Key :=
  match _name : readName text with
  | .error stop => .error stop
  | .ok (name, rest) =>
      match _blanks : rest.dropWhile isBlank with
      | [] => .ok ((name :: before).reverse, [])
      | c :: after =>
          if c = '.' then readNames (name :: before) (after.dropWhile isBlank)
          else .ok ((name :: before).reverse, c :: after)
termination_by text.length
decreasing_by
  have nameShorter := readName_length _name
  have firstBlanks := Text.length_dropWhile_le isBlank rest
  have secondBlanks := Text.length_dropWhile_le isBlank after
  rw [_blanks] at firstBlanks
  simp only [List.length_cons] at firstBlanks
  omega

theorem readNames_length {before key : Key} {text rest : Text}
    (read : readNames before text = .ok (key, rest)) : rest.length < text.length := by
  fun_induction readNames before text with
  | case1 => cases read
  | case2 =>
      have := readName_length ‹_›
      cases read
      simp only [List.length_nil]
      omega
  | case3 =>
      rename_i text name rest nameRead after blanks inductionHypothesis
      have nameShorter := readName_length nameRead
      have firstBlanks := Text.length_dropWhile_le isBlank rest
      have secondBlanks := Text.length_dropWhile_le isBlank after
      have := inductionHypothesis read
      rw [blanks] at firstBlanks
      simp only [List.length_cons] at firstBlanks
      omega
  | case4 =>
      rename_i text name rest nameRead c after blanks different
      have nameShorter := readName_length nameRead
      have firstBlanks := Text.length_dropWhile_le isBlank rest
      rw [blanks] at firstBlanks
      cases read
      omega

/-- Read a key, and the blanks behind it. -/
def readKey (text : Text) : Read Key := readNames [] text

/-- Read a key up to the beginning of its value. -/
def readKeyEquals (text : Text) : Read Key :=
  match readKey text with
  | .error stop => .error stop
  | .ok (_, []) => .error (.fault .expectedEquals [])
  | .ok (key, c :: rest) =>
      if c = '=' then .ok (key, rest.dropWhile isBlank)
      else .error (.fault .expectedEquals (c :: rest))

theorem readKeyEquals_length {key : Key} {text rest : Text}
    (read : readKeyEquals text = .ok (key, rest)) : rest.length < text.length := by
  unfold readKeyEquals at read
  split at read
  · cases read
  · cases read
  · rename_i c after keyRead
    have keyShorter := readNames_length keyRead
    split at read
    · cases read
      have := Text.length_dropWhile_le isBlank after
      simp only [List.length_cons] at keyShorter
      omega
    · cases read

end Findings.Toml
