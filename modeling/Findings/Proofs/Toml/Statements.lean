import Findings.Proofs.Text.Lines
import Findings.Proofs.Toml.BasicStrings
import Findings.Toml.Document

/-!
Contract: documents of headings and assignments, one statement to a line.

Owns:
- keys of bare names (`readKey_of_bare`);
- the ways to spell texts and truth values (`SpellsValue`, `readValue_of_spellsValue`);
- `IsStatement`, what a line makes of a document, for headings of tables and for assignments to a bare
  name, and `Leads`, what several lines make of it;
- a text of such lines is read so (`readStatements_of_leads`).

Does not own: quoted names, values of other kinds, comments and headings of arrays.
-/

set_option autoImplicit false

namespace Findings.Toml

/-! ## Bare keys -/

/-- A name of a key that needs no quotes. -/
def IsBare (name : Text) : Prop := name ≠ [] ∧ ∀ c ∈ name, isBareKeyCharacter c = true

instance (name : Text) : Decidable (IsBare name) := inferInstanceAs (Decidable (_ ∧ _))

theorem ne_of_isBareKeyCharacter {c other : CodePoint} (bare : isBareKeyCharacter c = true)
    (notBare : isBareKeyCharacter other = false) : c ≠ other := by
  rintro rfl
  rw [bare] at notBare
  cases notBare

theorem within_of_isBareKeyCharacter {c : CodePoint} (bare : isBareKeyCharacter c = true) :
    c.within 0x21 0x7E = true := by
  rw [CodePoint.within_eq_true_iff]
  unfold isBareKeyCharacter CodePoint.isAlphanumeric at bare
  simp only [Bool.or_eq_true, decide_eq_true_eq] at bare
  rcases bare with ((((isDigit | isUpper) | isLower) | rfl) | rfl)
  · have range := CodePoint.within_eq_true_iff.1 isDigit
    omega
  · have range := CodePoint.within_eq_true_iff.1 isUpper
    omega
  · have range := CodePoint.within_eq_true_iff.1 isLower
    omega
  · decide
  · decide

theorem isBlank_of_within {c : CodePoint} (visible : c.within 0x21 0x7E = true) :
    isBlank c = false := by
  have range := CodePoint.within_eq_true_iff.1 visible
  have noSpace : c.val ≠ 0x20 := by omega
  have noTab : c.val ≠ 0x09 := by omega
  simp [isBlank, noSpace, noTab]

theorem IsBare.exists_eq_cons {name : Text} (bare : IsBare name) :
    ∃ c more, name = c :: more ∧ isBareKeyCharacter c = true := by
  obtain ⟨visible, allBare⟩ := bare
  cases name with
  | nil => exact absurd rfl visible
  | cons c more => exact ⟨c, more, rfl, allBare c List.mem_cons_self⟩

theorem readName_of_bare {name rest : Text} (bare : IsBare name)
    (ends : ∀ c ∈ rest.head?, isBareKeyCharacter c = false) :
    readName (name ++ rest) = .ok (name, rest) := by
  obtain ⟨c, more, rfl, isBare⟩ := bare.exists_eq_cons
  obtain ⟨taken, dropped⟩ := Text.takeWhile_dropWhile_append
    (fun other member => bare.2 other (.tail c member)) ends
  rw [List.cons_append, readName, if_pos isBare, taken, dropped]

/-- What is read of a dotted key behind one of its names. -/
theorem readNames_of_readName {text name rest : Text} {c : CodePoint} {more : Text}
    (isName : readName text = .ok (name, rest)) (isNext : rest.dropWhile isBlank = c :: more)
    (before : Key) :
    readNames before text =
      if c = CodePoint.ofChar '.' then readNames (name :: before) (more.dropWhile isBlank)
      else .ok ((name :: before).reverse, c :: more) := by
  rw [readNames]
  split
  case h_1 isError =>
    rw [isName] at isError
    cases isError
  case h_2 isOk =>
    rw [isName] at isOk
    cases isOk
    split
    case h_1 isEnd =>
      rw [isNext] at isEnd
      cases isEnd
    case h_2 isFound =>
      rw [isNext] at isFound
      cases isFound
      rfl

/-- A key of bare names with a dot between neighbours. -/
def dotted (key : Key) : Text := Text.join "." key

theorem dotted_singleton (name : Text) : dotted [name] = name := by
  unfold dotted Text.join
  exact List.intercalate_singleton

theorem dotted_cons_cons (name next : Text) (key : Key) :
    dotted (name :: next :: key) = name ++ CodePoint.ofChar '.' :: dotted (next :: key) := by
  unfold dotted Text.join
  rw [List.intercalate_cons_cons, List.append_assoc]
  rfl

theorem exists_dotted_eq_cons {name : Text} (bare : IsBare name) (key : Key) :
    ∃ c more, dotted (name :: key) = c :: more ∧ isBareKeyCharacter c = true := by
  obtain ⟨c, more, rfl, isBare⟩ := bare.exists_eq_cons
  cases key with
  | nil => exact ⟨c, more, dotted_singleton _, isBare⟩
  | cons next key => exact ⟨c, _, dotted_cons_cons _ next key, isBare⟩

/-- No dotted key begins with a blank. -/
theorem dropWhile_isBlank_dotted {name : Text} (bare : IsBare name) (key : Key) (rest : Text) :
    (dotted (name :: key) ++ rest).dropWhile isBlank = dotted (name :: key) ++ rest := by
  obtain ⟨c, more, isDotted, isBare⟩ := exists_dotted_eq_cons bare key
  have noBlank : ¬ isBlank c = true := by
    simp [isBlank_of_within (within_of_isBareKeyCharacter isBare)]
  rw [isDotted]
  exact List.dropWhile_cons_of_neg noBlank

/-- A dotted key ends where neither a dot nor more of its last name follows. -/
theorem readKey_of_bare {key : Key} (named : key ≠ []) (bare : ∀ name ∈ key, IsBare name)
    {rest more : Text} {c : CodePoint} (ends : ∀ c ∈ rest.head?, isBareKeyCharacter c = false)
    (isNext : rest.dropWhile isBlank = c :: more) (noDot : c ≠ CodePoint.ofChar '.') :
    readKey (dotted key ++ rest) = .ok (key, c :: more) := by
  -- The names that are read so far are kept, so the induction is over any names before the key.
  have readsBehind : ∀ before : Key,
      readNames before (dotted key ++ rest) = .ok (before.reverse ++ key, c :: more) := by
    induction key with
    | nil => exact absurd rfl named
    | cons name key inductionHypothesis =>
        intro before
        have isBare := bare name List.mem_cons_self
        cases key with
        | nil =>
            rw [dotted_singleton, readNames_of_readName (readName_of_bare isBare ends) isNext,
              if_neg noDot, List.reverse_cons]
        | cons next key =>
            have othersBare : ∀ other ∈ next :: key, IsBare other :=
              fun other member => bare other (.tail name member)
            let behind := CodePoint.ofChar '.' :: (dotted (next :: key) ++ rest)
            have isName : readName (name ++ behind) = .ok (name, behind) := by
              refine readName_of_bare isBare fun dot isDot => ?_
              cases isDot
              decide
            have isBehind : behind.dropWhile isBlank = behind :=
              List.dropWhile_cons_of_neg (by decide)
            rw [dotted_cons_cons, List.append_assoc, List.cons_append,
              readNames_of_readName isName isBehind, if_pos rfl,
              dropWhile_isBlank_dotted (othersBare next List.mem_cons_self) key rest,
              inductionHypothesis (List.cons_ne_nil _ _) othersBare, List.reverse_cons,
              List.append_assoc, List.singleton_append]
  exact readsBehind []

/-! ## Values -/

/-- The ways to spell a text or a truth value. -/
inductive SpellsValue : Value → Text → Prop where
  | text {content spelling : Text} (free : content.IsSurrogateFree)
      (spells : SpellsBasic content spelling) :
      SpellsValue (.text content) (quoteMark :: (spelling ++ [quoteMark]))
  | yes : SpellsValue (.bool true) "true"
  | no : SpellsValue (.bool false) "false"

theorem readValue_of_begin {text rest : Text} {value : Value}
    (begins : beginValue [] text = .ok (.complete value [], rest)) :
    readValue text = .ok (value, rest) := by
  rw [readValue, run]
  split
  case h_1 isError =>
    rw [begins] at isError
    cases isError
  case h_2 isOk =>
    rw [begins] at isOk
    cases isOk
    rw [run]

theorem readValue_of_spellsValue {value : Value} {spelling : Text}
    (spells : SpellsValue value spelling) {rest : Text} (ends : ∀ c ∈ rest.head?, c ≠ quoteMark) :
    readValue (spelling ++ rest) = .ok (value, rest) := by
  apply readValue_of_begin
  cases spells with
  | text free spells =>
      have isText := readString_of_spellsBasic free spells ends
      rw [List.cons_append, List.append_assoc, List.singleton_append, beginValue,
        if_neg (by decide), if_neg (by decide), if_pos (.inl rfl), isText]
      rfl
  | yes => rfl
  | no => rfl

theorem SpellsValue.isPlain {value : Value} {spelling : Text} (spells : SpellsValue value spelling) :
    ∀ c ∈ spelling, IsPlain c := by
  cases spells with
  | text free spells =>
      intro c member
      rcases List.mem_cons.1 member with rfl | member
      · decide
      rcases List.mem_append.1 member with inSpelling | isLast
      · exact spells.isPlain free c inSpelling
      · rw [List.mem_singleton.1 isLast]
        decide
  | yes => decide
  | no => decide

theorem SpellsValue.isContainer {value : Value} {spelling : Text}
    (spells : SpellsValue value spelling) : value.isContainer = false := by
  cases spells <;> rfl

/-- No value begins with a blank. -/
theorem SpellsValue.dropWhile_isBlank {value : Value} {spelling : Text}
    (spells : SpellsValue value spelling) (rest : Text) :
    (spelling ++ rest).dropWhile isBlank = spelling ++ rest := by
  cases spells with
  | text => exact List.dropWhile_cons_of_neg (by decide)
  | yes => exact List.dropWhile_cons_of_neg (by decide)
  | no => exact List.dropWhile_cons_of_neg (by decide)

/-! ## Statements -/

/-- A line makes a document into the next one, whatever lines follow. -/
def IsStatement (document : Document) (line : Text) (next : Document) : Prop :=
  ∃ c more, line = c :: more ∧ isBlank c = false ∧ c ≠ Text.lineFeed ∧
    ∀ rest, (∀ d ∈ rest.head?, d = Text.lineFeed) →
      readStatement document c (more ++ rest) = .ok (next, rest)

/-- Lines that make a document into a last one, one after the other. -/
inductive Leads : Document → List Text → Document → Prop where
  | nil (document : Document) : Leads document [] document
  | cons {document next last : Document} {line : Text} {lines : List Text}
      (first : IsStatement document line next) (others : Leads next lines last) :
      Leads document (line :: lines) last

/-- The heading of a table with a bare key. -/
def heading (key : Key) : Text := CodePoint.ofChar '[' :: (dotted key ++ [CodePoint.ofChar ']'])

theorem isStatement_heading {document opened : Document} {name : Text} {key : Key}
    (bare : ∀ other ∈ name :: key, IsBare other)
    (opens : document.endTable.openTable (name :: key) = .ok opened) :
    IsStatement document (heading (name :: key)) opened := by
  refine ⟨_, _, rfl, by decide, by decide, fun rest _ => ?_⟩
  have isBare := bare name List.mem_cons_self
  have isKey : readKey (dotted (name :: key) ++ CodePoint.ofChar ']' :: rest) =
      .ok (name :: key, CodePoint.ofChar ']' :: rest) := by
    refine readKey_of_bare (List.cons_ne_nil _ _) bare (fun bracket isBracket => ?_)
      (List.dropWhile_cons_of_neg (by decide)) (by decide)
    cases isBracket
    decide
  obtain ⟨c, more, isDotted, isBareKey⟩ := exists_dotted_eq_cons isBare key
  have oneBracket : c ≠ CodePoint.ofChar '[' := ne_of_isBareKeyCharacter isBareKey (by decide)
  rw [readStatement, if_neg (by decide), if_pos rfl, List.append_assoc, List.singleton_append,
    isDotted, List.cons_append, readAnyHeading, if_neg oneBracket, ← List.cons_append, ← isDotted,
    readHeading, dropWhile_isBlank_dotted isBare, isKey]
  dsimp only
  rw [opens]
  rfl

/-- An assignment to a bare name. -/
def assignment (name spelling : Text) : Text := name ++ (Text.ofString " = " ++ spelling)

theorem isStatement_assignment {document assigned : Document} {name : Text} (bare : IsBare name)
    {value : Value} {spelling : Text} (spells : SpellsValue value spelling)
    (assigns : document.assign [name] value = .ok assigned) :
    IsStatement document (assignment name spelling) assigned := by
  obtain ⟨c, more, rfl, isBare⟩ := bare.exists_eq_cons
  have visible := within_of_isBareKeyCharacter isBare
  refine ⟨c, more ++ (Text.ofString " = " ++ spelling), rfl, isBlank_of_within visible, ?_,
    fun rest ends => ?_⟩
  · exact ne_of_isBareKeyCharacter isBare (by decide)
  have isKey : readKeyEquals ((c :: more) ++ (Text.ofString " = " ++ (spelling ++ rest))) =
      .ok ([c :: more], spelling ++ rest) := by
    have isRead : readKey (dotted [c :: more] ++ (Text.ofString " = " ++ (spelling ++ rest))) =
        .ok ([c :: more], CodePoint.ofChar '=' :: CodePoint.ofChar ' ' :: (spelling ++ rest)) := by
      refine readKey_of_bare (List.cons_ne_nil _ _) (fun name member => ?_) (fun blank isBlank => ?_)
        rfl (by decide)
      · rwa [List.mem_singleton.1 member]
      · cases isBlank
        decide
    rw [dotted_singleton] at isRead
    rw [readKeyEquals, isRead]
    dsimp only
    rw [if_pos rfl, List.dropWhile_cons_of_pos (by decide), spells.dropWhile_isBlank]
  have isValue : readValue (spelling ++ rest) = .ok (value, rest) := by
    refine readValue_of_spellsValue spells fun d isHead => ?_
    rw [ends d isHead]
    decide
  have isKeyStart : isKeyStart c = true := by
    unfold isKeyStart
    rw [isBare]
    rfl
  rw [readStatement, if_pos isKeyStart, List.append_assoc, List.append_assoc, ← List.cons_append,
    readAssignment, isKey]
  dsimp only
  rw [isValue]
  dsimp only
  rw [assigns]

/-- A line of an assignment holds no line end, and can be encoded. -/
theorem isPlain_assignment {name : Text} (bare : IsBare name) {value : Value} {spelling : Text}
    (spells : SpellsValue value spelling) : ∀ c ∈ assignment name spelling, IsPlain c := by
  have sign : ∀ c ∈ Text.ofString " = ", IsPlain c := by decide
  intro c member
  rcases List.mem_append.1 member with inName | member
  · exact isPlain_of_within (within_of_isBareKeyCharacter (bare.2 c inName))
  rcases List.mem_append.1 member with inSign | inSpelling
  · exact sign c inSign
  · exact spells.isPlain c inSpelling

/-! ## Documents -/

/-- Behind a statement its line has to end. -/
theorem readStatements_of_readStatement {document next : Document} {c : CodePoint}
    {rest after : Text} (noBlank : isBlank c = false) (noFeed : c ≠ Text.lineFeed)
    (isRead : readStatement document c rest = .ok (next, after)) :
    readStatements document (c :: rest) =
      match readLineEnd after with
      | .error stop => .error stop
      | .ok none => .ok next
      | .ok (some more) => readStatements next more := by
  have starts : (c :: rest).dropWhile isBlank = c :: rest :=
    List.dropWhile_cons_of_neg (by simp [noBlank])
  rw [readStatements]
  split
  case h_1 isEnd =>
    rw [starts] at isEnd
    cases isEnd
  case h_2 isStart =>
    rw [starts] at isStart
    cases isStart
    rw [if_neg noFeed]
    split
    case h_1 isError =>
      rw [isRead] at isError
      cases isError
    case h_2 isOk =>
      rw [isRead] at isOk
      cases isOk
      split <;> simp_all

/-- A statement at the end of a document, and one that other lines follow. -/
theorem IsStatement.readStatements {document next : Document} {line : Text}
    (isStatement : IsStatement document line next) :
    readStatements document line = .ok next ∧
      ∀ more, Toml.readStatements document (line ++ Text.lineFeed :: more) =
        Toml.readStatements next more := by
  obtain ⟨c, tail, rfl, noBlank, noFeed, isRead⟩ := isStatement
  have isLast := isRead [] fun d isHead => by cases isHead
  rw [List.append_nil] at isLast
  refine ⟨readStatements_of_readStatement noBlank noFeed isLast, fun more => ?_⟩
  have isFollowed := isRead (Text.lineFeed :: more) fun d isHead => by cases isHead; rfl
  exact readStatements_of_readStatement noBlank noFeed isFollowed

/-- **Statements.**  The lines of a text are read one after the other. -/
theorem readStatements_of_leads {document last : Document} {lines : List Text} {text : Text}
    (leads : Leads document lines last) (hasLines : Text.HasLines (· = .feed) lines text) :
    readStatements document text = .ok last := by
  induction hasLines generalizing document with
  | nil =>
      cases leads
      rw [readStatements.eq_def]
      rfl
  | unended line =>
      cases leads with
      | cons first others =>
          cases others
          exact first.readStatements.1
  | cons line isFeed _ inductionHypothesis =>
      cases leads with
      | cons first others =>
          cases isFeed
          exact (first.readStatements.2 _).trans (inductionHypothesis others)

end Findings.Toml
