import Findings.Proofs.Except
import Findings.Proofs.Json.Lexemes
import Findings.Proofs.Json.RoundTrip

/-!
Contract: exactly the texts of the grammar are read, each as the value that it denotes.

Owns:
- `State.Follows`, what the text up to a place is when the machine is in a state there; every token
  keeps it, so that a whole run ends behind a value;
- `Phrase.IsRead`, what the machine does with a phrase; it holds of every phrase that the grammar
  derives;
- `read_eq_ok_iff` and `hasLongInteger_of_read`: a text without integers that are too long is read
  if and only if the grammar derives it.
-/

set_option autoImplicit false

namespace Findings.Json

/-! ## What is read is in the grammar -/

section Soundness

variable {whole : Text}

/-- The text up to a place takes the machine to a state. -/
inductive State.Follows (whole : Text) : State → Text → Prop where
  | value {stack : List Frame} {place : Text} (opens : Opens whole stack place) :
      Follows whole (.value stack) place
  | arrayStart {stack : List Frame} {place rest : Text} (outer : Opens whole stack place)
      (begins : Blanks place (CodePoint.ofChar '[' :: rest)) :
      Follows whole (.arrayStart stack) rest
  | objectStart {stack : List Frame} {place rest : Text} (outer : Opens whole stack place)
      (begins : Blanks place (CodePoint.ofChar '\x7b' :: rest)) :
      Follows whole (.objectStart stack) rest
  | name {stack : List Frame} {place text rest : Text} {pairs : List (Text × Json)}
      (outer : Opens whole stack place) (begins : Blanks place (CodePoint.ofChar '\x7b' :: text))
      (front : Spells (.members pairs) text (CodePoint.ofChar ',' :: rest)) :
      Follows whole (.name (Entries.ofPairs pairs) stack) rest
  | nameSeparator {stack : List Frame} {place text middle inside rest name : Text}
      {pairs : List (Text × Json)} (outer : Opens whole stack place)
      (begins : Blanks place (CodePoint.ofChar '\x7b' :: text))
      (front : MembersInFront pairs text middle)
      (quote : Blanks middle (CodePoint.ofChar '"' :: inside))
      (isInside : Inside name inside rest) :
      Follows whole (.nameSeparator (Entries.ofPairs pairs) name stack) rest
  | complete {stack : List Frame} {place start rest : Text} {value : Json}
      (outer : Opens whole stack place) (begins : Blanks place start)
      (isValue : Spells (.value value) start rest) : Follows whole (.complete value stack) rest

theorem follows_of_beginValue {stack : List Frame} {place start rest at_ : Text} {token : Token}
    {next : State} (opens : Opens whole stack place) (blanks : Blanks place start)
    (lexeme : Lexeme token start rest) (begun : beginValue stack token at_ = .ok next) :
    next.Follows whole rest := by
  cases lexeme with
  | text isInside =>
      cases begun
      exact .complete opens blanks (.text isInside)
  | literal spells =>
      cases begun
      exact .complete opens blanks spells
  | beginArray =>
      cases begun
      exact .arrayStart opens blanks
  | beginObject =>
      cases begun
      exact .objectStart opens blanks
  | _ => cases begun

theorem follows_of_beginMember {stack : List Frame} {place text middle start rest at_ : Text}
    {pairs : List (Text × Json)} {token : Token} {next : State} (outer : Opens whole stack place)
    (begins : Blanks place (CodePoint.ofChar '\x7b' :: text))
    (front : MembersInFront pairs text middle) (blanks : Blanks middle start)
    (lexeme : Lexeme token start rest)
    (begun : beginMember (Entries.ofPairs pairs) stack token at_ = .ok next) :
    next.Follows whole rest := by
  cases lexeme with
  | text isInside =>
      cases begun
      exact .nameSeparator outer begins front blanks isInside
  | _ => cases begun

/-- An item that is complete goes behind those in front of it. -/
theorem ItemsInFront.snoc {items : List Json} {item : Json} {text place rest : Text}
    (front : ItemsInFront items text place) (element : Spells (.element item) place rest) :
    Spells (.elements (items ++ [item])) text rest := by
  rcases front with ⟨rfl, rfl⟩ | front
  · exact .firstElement element
  · exact .nextElement front element

theorem MembersInFront.snoc {pairs : List (Text × Json)} {name : Text} {value : Json}
    {text middle place rest : Text} (front : MembersInFront pairs text middle)
    (label : Label name middle place) (element : Spells (.element value) place rest) :
    Spells (.members (pairs ++ [(name, value)])) text rest := by
  rcases front with ⟨rfl, rfl⟩ | front
  · exact .firstMember label element
  · exact .nextMember front label element

/-- **One token.**  Behind a token the text is what the next state asks for. -/
theorem State.Follows.step {state next : State} {token : Token} {place start rest at_ : Text}
    (follows : state.Follows whole place) (blanks : Blanks place start)
    (lexeme : Lexeme token start rest) (stepped : state.step token at_ = .ok next) :
    next.Follows whole rest := by
  unfold State.step at stepped
  split at stepped
  · cases follows with
    | value opens => exact follows_of_beginValue opens blanks lexeme stepped
  · cases stepped
    cases lexeme
    cases follows with
    | arrayStart outer begins => exact .complete outer begins (.emptyArray blanks)
  · cases follows with
    | arrayStart outer begins =>
        have opens := Opens.item outer begins (.inl ⟨rfl, rfl⟩)
        exact follows_of_beginValue opens blanks lexeme stepped
  · cases stepped
    cases lexeme
    cases follows with
    | objectStart outer begins => exact .complete outer begins (.emptyObject blanks)
  · cases follows with
    | objectStart outer begins =>
        have nothingInFront : MembersInFront [] place place := .inl ⟨rfl, rfl⟩
        exact follows_of_beginMember outer begins nothingInFront blanks lexeme stepped
  · cases follows with
    | name outer begins front =>
        exact follows_of_beginMember outer begins (.inr front) blanks lexeme stepped
  · cases stepped
    cases lexeme
    cases follows with
    | nameSeparator outer begins front quote isInside =>
        exact .value (.member outer begins front ⟨_, _, quote, isInside, blanks⟩)
  · cases stepped
    cases lexeme
    cases follows with
    | complete outer valueBegins isValue =>
        cases outer with
        | item outer begins front =>
            have elements := front.snoc (.element valueBegins isValue blanks)
            have opens := Opens.item outer begins (.inr elements)
            rw [List.reverse_append] at opens
            exact .value opens
  · cases stepped
    cases lexeme
    cases follows with
    | complete outer valueBegins isValue =>
        cases outer with
        | item outer begins front =>
            have elements := front.snoc (.element valueBegins isValue blanks)
            rw [List.reverse_cons, List.reverse_reverse]
            exact .complete outer begins (.array elements)
  · cases stepped
    cases lexeme
    cases follows with
    | complete outer valueBegins isValue =>
        cases outer with
        | member outer begins front label =>
            have members := front.snoc label (.element valueBegins isValue blanks)
            rw [← Entries.ofPairs_concat]
            exact .name outer begins members
  · cases stepped
    cases lexeme
    cases follows with
    | complete outer valueBegins isValue =>
        cases outer with
        | member outer begins front label =>
            have members := front.snoc label (.element valueBegins isValue blanks)
            rw [← Entries.ofPairs_concat]
            exact .complete outer begins (.object members)
  · cases stepped

/-- The end of the text stands behind a whole value. -/
theorem State.Follows.finish {state : State} {place : Text} {value : Json}
    (follows : state.Follows whole place) (blanks : Blanks place [])
    (finished : state.finish = .ok value) : Denotes whole value := by
  unfold State.finish at finished
  split at finished
  · cases finished
    cases follows with
    | complete outer begins isValue =>
        cases outer with
        | nothing => exact .element begins isValue blanks
  · cases finished

/-- What is dropped in front of a token are blanks. -/
theorem blanks_of_dropWhile {text start : Text} (dropped : text.dropWhile isBlank = start) :
    Blanks text start := dropped ▸ blanks_dropWhile text

/-- **A whole run.**  A run that completes has behind it a text that denotes the value. -/
theorem denotes_of_run {state : State} {text : Text} {value : Json}
    (follows : state.Follows whole text) (completed : run state text = .ok value) :
    Denotes whole value := by
  fun_induction run state text with
  | case1 state text nothing => exact follows.finish (blanks_of_dropWhile nothing) completed
  | case2 => cases completed
  | case3 state text c rest isStart next stepped inductionHypothesis =>
      rcases lexeme_readToken c rest with faulty | lexeme
      · exact absurd stepped (State.step_of_isFaulty faulty)
      · exact inductionHypothesis (follows.step (blanks_of_dropWhile isStart) lexeme stepped)
          completed

theorem beginValue_eq_excessiveInteger {stack : List Frame} {token : Token} {place : Text}
    {digits : Nat} (stopped : beginValue stack token place = .error (.excessiveInteger digits)) :
    token = .excessiveInteger digits := by
  cases token <;> cases stopped
  rfl

theorem beginMember_ne_excessiveInteger {before : Entries Json} {stack : List Frame}
    {token : Token} {place : Text} {digits : Nat} :
    beginMember before stack token place ≠ .error (.excessiveInteger digits) := by
  intro stopped
  cases token <;> cases stopped

/-- Only where a value is called for does a token that is too long stop the machine as such. -/
theorem State.Follows.opens_of_excessiveInteger {state : State} {token : Token} {place at_ : Text}
    {digits : Nat} (follows : state.Follows whole place)
    (stopped : state.step token at_ = .error (.excessiveInteger digits)) :
    token = .excessiveInteger digits ∧ ∃ stack, Opens whole stack place := by
  unfold State.step at stopped
  split at stopped
  · cases follows with
    | value opens => exact ⟨beginValue_eq_excessiveInteger stopped, _, opens⟩
  · cases stopped
  · cases follows with
    | arrayStart outer begins =>
        exact ⟨beginValue_eq_excessiveInteger stopped, _, .item outer begins (.inl ⟨rfl, rfl⟩)⟩
  · cases stopped
  · exact absurd stopped beginMember_ne_excessiveInteger
  · exact absurd stopped beginMember_ne_excessiveInteger
  all_goals cases stopped

theorem hasLongInteger_of_run {state : State} {text : Text} {digits : Nat}
    (follows : state.Follows whole text)
    (stopped : run state text = .error (.excessiveInteger digits)) : HasLongInteger whole := by
  fun_induction run state text with
  | case1 state text nothing =>
      unfold State.finish at stopped
      split at stopped <;> cases stopped
  | case2 state text c rest isStart stop stepped =>
      cases stopped
      obtain ⟨isExcessive, stack, opens⟩ := follows.opens_of_excessiveInteger stepped
      have blanks := blanks_of_dropWhile isStart
      rcases lexeme_readToken c rest with faulty | lexeme
      · rw [isExcessive] at faulty
        exact absurd faulty id
      · rw [isExcessive] at lexeme
        generalize c :: rest = start at blanks lexeme
        cases lexeme with
        | excessiveInteger isWhole long ends =>
            exact ⟨stack, text, _, _, _, opens, blanks, isWhole, long, ends⟩
  | case3 state text c rest isStart next stepped inductionHypothesis =>
      rcases lexeme_readToken c rest with faulty | lexeme
      · exact absurd stepped (State.step_of_isFaulty faulty)
      · have followsNext := follows.step (blanks_of_dropWhile isStart) lexeme stepped
        exact inductionHypothesis followsNext stopped

end Soundness

/-! ## What is in the grammar is read -/

section Completeness

/-- A run comes to another one, unless it stops at an integer that is too long. -/
def ComesTo (result other : Except Stop Json) : Prop :=
  result = other ∨ ∃ digits, result = .error (.excessiveInteger digits)

theorem ComesTo.of_eq {result other : Except Stop Json} (same : result = other) :
    ComesTo result other := .inl same

theorem ComesTo.trans {first second third : Except Stop Json} (toSecond : ComesTo first second)
    (toThird : ComesTo second third) : ComesTo first third := by
  rcases toSecond with rfl | stops
  · exact toThird
  · exact .inr stops

/-- What the machine does with a phrase behind which nothing continues a number. -/
def Phrase.IsRead (phrase : Phrase) (text rest : Text) : Prop :=
  match phrase with
  | .value denoted | .element denoted =>
      ∀ {state : State} {stack : List Frame}, state.Awaits stack → EndsNumber rest →
        ComesTo (run state text) (run (.complete denoted stack) rest)
  | .elements items =>
      EndsNumber rest → ∃ before item, items = before ++ [item] ∧ ∀ stack : List Frame,
        ComesTo (run (.arrayStart stack) text)
          (run (.complete item (.array before.reverse :: stack)) rest)
  | .members pairs =>
      EndsNumber rest → ∃ before name denoted, pairs = before ++ [(name, denoted)] ∧
        ∀ stack : List Frame, ComesTo (run (.objectStart stack) text)
          (run (.complete denoted (.object (Entries.ofPairs before) name :: stack)) rest)

theorem Blanks.run {text rest : Text} (blanks : Blanks text rest) (state : State) :
    Json.run state text = Json.run state rest := by
  obtain ⟨front, areBlank, rfl⟩ := blanks
  exact run_blanks state (Blanks.areBlank areBlank) rest

theorem Blanks.endsNumber {text rest : Text} (blanks : Blanks text rest) (ends : EndsNumber rest) :
    EndsNumber text := by
  obtain ⟨front, areBlank, rfl⟩ := blanks
  cases front with
  | nil => exact ends
  | cons c front =>
      exact endsNumber_of_isBlank (Blanks.areBlank areBlank _ (List.mem_cons_self ..)) _

/-- The machine reads the name of a member and then waits for its value. -/
theorem Label.run {name text rest : Text} (label : Label name text rest) {state : State}
    {before : Entries Json} {stack : List Frame}
    (steps : ∀ place, state.step (.text name) place = .ok (.nameSeparator before name stack)) :
    Json.run state text = Json.run (.value (.object before name :: stack)) rest := by
  obtain ⟨inside, stop, quote, isInside, colon⟩ := label
  calc
    Json.run state text = Json.run state (CodePoint.ofChar '"' :: inside) := quote.run state
    _ = Json.run (.nameSeparator before name stack) stop := run_step isInside.beginsWith steps
    _ = Json.run (.nameSeparator before name stack) (CodePoint.ofChar ':' :: rest) := colon.run _
    _ = _ := run_punctuation .nameSeparator rfl (by decide) (fun _ => rfl) rest

/-- An array begins wherever a value is awaited. -/
theorem run_beginArray {state : State} {stack : List Frame} (awaits : state.Awaits stack)
    (text : Text) : run state (CodePoint.ofChar '[' :: text) = run (.arrayStart stack) text :=
  run_punctuation .beginArray rfl (by decide) (fun place => awaits _ place (by simp)) text

theorem run_beginObject {state : State} {stack : List Frame} (awaits : state.Awaits stack)
    (text : Text) : run state (CodePoint.ofChar '\x7b' :: text) = run (.objectStart stack) text :=
  run_punctuation .beginObject rfl (by decide) (fun place => awaits _ place (by simp)) text

/-- **Phrases.**  The machine reads every phrase of the grammar. -/
theorem Spells.isRead {phrase : Phrase} {text rest : Text} (spells : Spells phrase text rest) :
    phrase.IsRead text rest := by
  induction spells with
  | word isWord =>
      intro state stack awaits _
      exact .of_eq (run_literal awaits (isWord.beginsWith _))
  | number isNumber =>
      intro state stack awaits ends
      obtain ⟨token, begins, rfl | ⟨digits, rfl⟩⟩ := isNumber.beginsWith ends
      · exact .of_eq (run_literal awaits begins)
      · obtain ⟨c, more, isText, visible, isRead⟩ := begins
        have noBlank : ¬ isBlank c = true := by
          rw [visible]
          exact Bool.false_ne_true
        refine .inr ⟨digits, ?_⟩
        rw [isText, run_eq, List.dropWhile_cons_of_neg noBlank]
        simp only [isRead, awaits _ _ (by simp : Token.excessiveInteger digits ≠ .endArray)]
        rfl
  | text isInside =>
      intro state stack awaits _
      exact .of_eq (run_step isInside.beginsWith fun place => awaits _ place (by simp))
  | emptyArray blanks =>
      intro state stack awaits _
      refine .of_eq ?_
      rw [run_beginArray awaits, blanks.run]
      exact run_punctuation .endArray rfl (by decide) (fun _ => rfl) _
  | array _ inductionHypothesis =>
      intro state stack awaits _
      obtain ⟨before, item, rfl, comes⟩ := inductionHypothesis (endsNumber_closing (.inl rfl) _)
      rw [run_beginArray awaits]
      refine (comes stack).trans (.of_eq ?_)
      have closed : before ++ [item] = (item :: before.reverse).reverse := by simp
      rw [closed]
      exact run_punctuation .endArray rfl (by decide) (fun _ => rfl) _
  | emptyObject blanks =>
      intro state stack awaits _
      refine .of_eq ?_
      rw [run_beginObject awaits, blanks.run]
      exact run_punctuation .endObject rfl (by decide) (fun _ => rfl) _
  | object _ inductionHypothesis =>
      intro state stack awaits _
      obtain ⟨before, name, value, rfl, comes⟩ :=
        inductionHypothesis (endsNumber_closing (.inr rfl) _)
      rw [run_beginObject awaits]
      refine (comes stack).trans (.of_eq ?_)
      rw [Entries.ofPairs_concat]
      exact run_punctuation .endObject rfl (by decide) (fun _ => rfl) _
  | element before _ behind inductionHypothesis =>
      intro state stack awaits ends
      rw [before.run]
      exact (inductionHypothesis awaits (behind.endsNumber ends)).trans (.of_eq (behind.run _))
  | @firstElement item text rest _ inductionHypothesis =>
      intro ends
      exact ⟨[], item, rfl, fun stack => inductionHypothesis (awaits_arrayStart stack) ends⟩
  | @nextElement items item text start rest _ _ frontHypothesis elementHypothesis =>
      intro ends
      obtain ⟨before, previous, rfl, comes⟩ := frontHypothesis (endsNumber_comma start)
      refine ⟨before ++ [previous], item, rfl, fun stack => (comes stack).trans ?_⟩
      rw [List.reverse_concat, run_punctuation .valueSeparator rfl (by decide) (fun _ => rfl)]
      exact elementHypothesis (awaits_value _) ends
  | @firstMember name value text start rest label _ inductionHypothesis =>
      intro ends
      refine ⟨[], name, value, rfl, fun stack => ?_⟩
      rw [label.run fun _ => rfl]
      exact inductionHypothesis (awaits_value _) ends
  | @nextMember pairs name value text middle start rest _ label _ frontHypothesis
      elementHypothesis =>
      intro ends
      obtain ⟨before, previousName, previous, rfl, comes⟩ :=
        frontHypothesis (endsNumber_comma middle)
      refine ⟨before ++ [(previousName, previous)], name, value, rfl, fun stack =>
        (comes stack).trans ?_⟩
      rw [Entries.ofPairs_concat, run_punctuation .valueSeparator rfl (by decide) (fun _ => rfl),
        label.run fun _ => rfl]
      exact elementHypothesis (awaits_value _) ends

end Completeness

/-! ## Whole texts -/

section Documents

variable {text : Text} {value : Json}

/-- Nothing that the grammar derives begins with a byte order mark. -/
theorem run_byteOrderMark (rest : Text) : ∃ fault place,
    run (.value []) (CodePoint.byteOrderMark :: rest) = .error (.fault fault place) := by
  have noWord : readWord? (CodePoint.byteOrderMark :: rest) = none := by
    have heads : ∀ word ∈ words,
        word.1.head?.map (fun c => decide (c = CodePoint.byteOrderMark)) = some false := by decide
    unfold readWord?
    rw [List.findSome?_eq_none_iff]
    intro word member
    obtain ⟨first, isFirst, isOther⟩ := Option.map_eq_some_iff.1 (heads word member)
    rw [after?_eq_none_of_head isFirst (of_decide_eq_false isOther), Option.map_none]
  have noNumber : readNumber? (CodePoint.byteOrderMark :: rest) = none := by
    have noWhole : wholePart? (CodePoint.byteOrderMark :: rest) = none := by
      rw [wholePart?, if_neg (by decide), if_neg (by decide)]
    unfold readNumber?
    rw [splitSign_of_ne (by decide)]
    simp only [noWhole]
  have noPunctuation : punctuation? CodePoint.byteOrderMark = none := by decide
  have isUnknown : readToken CodePoint.byteOrderMark rest = (.unknown, rest) := by
    rw [readToken, noPunctuation]
    simp only
    rw [if_neg (by decide), noWord, noNumber]
    rfl
  rw [run_eq, List.dropWhile_cons_of_neg (by decide)]
  simp only [isUnknown]
  exact ⟨_, _, rfl⟩

/-- What is read is denoted. -/
theorem denotes_of_read (isRead : Json.read text = .ok value) : Denotes text value := by
  unfold Json.read at isRead
  split at isRead
  · cases isRead
  · exact denotes_of_run (.value .nothing) (mapError_eq_ok_iff.1 isRead)

theorem hasLongInteger_of_read {digits : Nat}
    (stopped : Json.read text = .error (.excessiveInteger digits)) : HasLongInteger text := by
  unfold Json.read at stopped
  split at stopped
  · cases stopped
  · obtain ⟨stop, isStop, isError⟩ := mapError_eq_error_iff.1 stopped
    cases stop with
    | fault cause rest => cases isError
    | excessiveInteger digits => exact hasLongInteger_of_run (.value .nothing) isStop

theorem read_of_denotes (short : ¬ HasLongInteger text) (denotes : Denotes text value) :
    Json.read text = .ok value := by
  have atEnd : EndsNumber [] := fun next isNext => by cases isNext
  have completed : run (.value []) text = .ok value := by
    rcases denotes.isRead (awaits_value []) atEnd with comes | ⟨digits, stopped⟩
    · rw [comes, run_eq]
      rfl
    · exact absurd (hasLongInteger_of_run (.value .nothing) stopped) short
  have unmarked : text.head? ≠ some CodePoint.byteOrderMark := by
    intro isMarked
    obtain ⟨rest, rfl⟩ := List.head?_eq_some_iff.1 isMarked
    obtain ⟨fault, place, fails⟩ := run_byteOrderMark rest
    rw [fails] at completed
    cases completed
  rw [Json.read, if_neg unmarked, completed]
  rfl

/-- **The language.**  A text without integers that are too long is read exactly as the value that
it denotes, if it denotes one. -/
theorem read_eq_ok_iff (short : ¬ HasLongInteger text) :
    Json.read text = .ok value ↔ Denotes text value :=
  ⟨denotes_of_read, read_of_denotes short⟩

end Documents

end Findings.Json
