import Mathlib.Data.List.Chain
import Mathlib.Data.List.Induction
import Mathlib.Data.List.TakeWhile
import Findings.Proofs.Text.Blank
import Findings.Proofs.Text.Printable
import Findings.Terminal.Wrap

/-!
Contract: what a terminal shows of a text.

Owns:
- the words of a line make up the line (`wordsOf_cases`), and the lines of a paragraph make up its
  words (`flatten_lines_addWord`);
- no line is wider than the terminal, but for the blanks at its end (`Breaking.Fits`);
- a text is shown as a whole, but for blanks (`visible_print`); if it is not firm, it can lose
  columnless code points as well (`broad_print`).

Does not own: markup.

A text is taken to be printable, so it has neither line ends nor tabs.  Where a line is cut within
the blanks at its end, columnless code points in front of them can be cut as well.  What is shown is
therefore read through a class of code points that leaves out the blanks, and these in case of need.
-/

set_option autoImplicit false

namespace Findings.Terminal

/-! ## Columns -/

@[simp] theorem columns_nil : Text.columns [] = 0 := rfl

theorem columns_cons (c : CodePoint) (text : Text) :
    Text.columns (c :: text) = c.columns + Text.columns text := by
  have shifts : ∀ (text : Text) (start : Nat),
      text.foldl (fun total c => total + c.columns) start =
        start + text.foldl (fun total c => total + c.columns) 0 := by
    intro text
    induction text with
    | nil => exact fun start => rfl
    | cons c text inductionHypothesis =>
        intro start
        rw [List.foldl_cons, List.foldl_cons, inductionHypothesis, inductionHypothesis (0 + _)]
        omega
  unfold Text.columns
  rw [List.foldl_cons, shifts, Nat.zero_add]

@[simp] theorem columns_append (left right : Text) :
    Text.columns (left ++ right) = Text.columns left + Text.columns right := by
  induction left with
  | nil => simp
  | cons c left inductionHypothesis =>
      rw [List.cons_append, columns_cons, columns_cons, inductionHypothesis, Nat.add_assoc]

theorem columns_le_two (c : CodePoint) : c.columns ≤ 2 := by
  unfold CodePoint.columns
  repeat' split
  all_goals omega

theorem columns_le_of_prefix {part text : Text} (isPart : part <+: text) :
    Text.columns part ≤ Text.columns text := by
  obtain ⟨rest, rfl⟩ := isPart
  rw [columns_append]
  omega

/-! ## Words -/

theorem flatten_wordStep (c : CodePoint) (words : List Text) :
    (wordStep c words).flatten = c :: words.flatten := by
  unfold wordStep
  split
  · rfl
  · rfl
  · split <;> rfl

theorem flatten_foldr_wordStep (line : Text) : (line.foldr wordStep []).flatten = line := by
  induction line with
  | nil => rfl
  | cons c line inductionHypothesis =>
      rw [List.foldr_cons, flatten_wordStep, inductionHypothesis]

/-- The words of a line make up the line, unless there are none because it is blank. -/
theorem wordsOf_cases (line : Text) :
    (wordsOf line).flatten = line ∨ (wordsOf line = [] ∧ ∀ c ∈ line, c.isBlank = true) := by
  have whole := flatten_foldr_wordStep line
  unfold wordsOf attachLeadingBlanks
  split
  case h_1 none =>
    rw [none] at whole
    exact .inl whole
  case h_2 first one =>
    rw [one] at whole
    split
    case isTrue blank =>
      refine .inr ⟨rfl, ?_⟩
      rw [← whole]
      simpa using blank
    case isFalse => exact .inl whole
  case h_3 first second words several =>
    rw [several] at whole
    split
    · rw [← whole]
      simp
    · exact .inl whole

/-! ## Folding -/

/-- The pieces of a word so far: they make up what is read of it, and each fits. -/
structure Folds (width : Nat) (state : List Text × Text × Nat) (read : Text) : Prop where
  whole : state.1.reverse.flatten ++ state.2.1.reverse = read
  columns : Text.columns state.2.1.reverse = state.2.2
  fits : state.2.2 ≤ width
  piecesFit : ∀ piece ∈ state.1, Text.columns piece ≤ width

theorem Folds.step {width : Nat} (wide : 2 ≤ width) {state : List Text × Text × Nat} {read : Text}
    (folds : Folds width state read) (c : CodePoint) :
    Folds width (foldStep width state c) (read ++ [c]) := by
  obtain ⟨pieces, piece, columns⟩ := state
  obtain ⟨whole, isColumns, fits, piecesFit⟩ := folds
  have narrow := columns_le_two c
  dsimp only at whole isColumns fits piecesFit
  unfold foldStep
  dsimp only
  split
  case isTrue tooWide =>
    refine ⟨?_, ?_, by dsimp only; omega, ?_⟩
    · simp [← whole]
    · simp [columns_cons]
    · intro other member
      rcases List.mem_cons.1 member with rfl | member
      · omega
      · exact piecesFit other member
  case isFalse room =>
    refine ⟨?_, ?_, by dsimp only; omega, piecesFit⟩
    · simp [← whole]
    · simp [columns_cons, isColumns]

theorem folds_foldl {width : Nat} (wide : 2 ≤ width) (word : Text) {state : List Text × Text × Nat}
    {read : Text} (folds : Folds width state read) :
    Folds width (word.foldl (foldStep width) state) (read ++ word) := by
  induction word generalizing state read with
  | nil => rwa [List.foldl_nil, List.append_nil]
  | cons c word inductionHypothesis =>
      have further := inductionHypothesis (folds.step wide c)
      rwa [List.append_assoc, List.singleton_append] at further

theorem foldWord_spec {width : Nat} (wide : 2 ≤ width) (word : Text) :
    (foldWord width word).flatten = word ∧
      ∀ piece ∈ foldWord width word, Text.columns piece ≤ width := by
  have start : Folds width ([], [], 0) [] :=
    ⟨rfl, rfl, Nat.zero_le _, fun piece member => absurd member List.not_mem_nil⟩
  obtain ⟨whole, columns, fits, piecesFit⟩ := folds_foldl wide word start
  unfold foldWord
  dsimp only
  constructor
  · simpa using whole
  · intro piece member
    rw [List.mem_reverse, List.mem_cons] at member
    rcases member with rfl | member
    · exact columns.trans_le fits
    · exact piecesFit piece member

/-! ## Lines -/

theorem columns_trimEnd_le (text : Text) :
    Text.columns (Text.trimEnd CodePoint.isBlank text) ≤ Text.columns text := by
  obtain ⟨dropped, isWhole, _⟩ := Text.exists_append_trimEnd CodePoint.isBlank text
  exact columns_le_of_prefix ⟨dropped, isWhole.symm⟩

/-- Behind a text, blanks at the end count as little as elsewhere. -/
theorem columns_trimEnd_append_le (left right : Text) :
    Text.columns (Text.trimEnd CodePoint.isBlank (left ++ right)) ≤
      Text.columns left + Text.columns (Text.trimEnd CodePoint.isBlank right) := by
  have leftNarrower := columns_trimEnd_le left
  unfold Text.trimEnd at leftNarrower ⊢
  rw [List.reverse_append, List.dropWhile_append]
  split
  · omega
  · rw [List.reverse_append, List.reverse_reverse, columns_append]

namespace Breaking

variable {width : Nat} {state : Breaking}

/-- The columns are known, and every line fits, but for the blanks at its end. -/
structure Fits (width : Nat) (state : Breaking) : Prop where
  columns : state.columns = Text.columns state.current
  lines : ∀ line ∈ state.current :: state.complete,
    Text.columns (Text.trimEnd CodePoint.isBlank line) ≤ width

theorem flatten_lines (state : Breaking) :
    state.lines.flatten = state.complete.reverse.flatten ++ state.current := by
  simp [lines]

theorem flatten_lines_startLine (state : Breaking) (text : Text) :
    (state.startLine text).lines.flatten = state.lines.flatten ++ text := by
  rw [flatten_lines, flatten_lines]
  unfold startLine
  dsimp only
  split
  case isTrue empty =>
    simp only [isEmpty, Bool.and_eq_true, List.isEmpty_iff] at empty
    rw [empty.1, empty.2]
    rfl
  case isFalse => simp

theorem flatten_lines_foldl_startLine (state : Breaking) (pieces : List Text) :
    (pieces.foldl startLine state).lines.flatten = state.lines.flatten ++ pieces.flatten := by
  induction pieces generalizing state with
  | nil => simp
  | cons piece pieces inductionHypothesis =>
      rw [List.foldl_cons, inductionHypothesis, flatten_lines_startLine, List.flatten_cons,
        List.append_assoc]

/-- A word is placed as a whole, on one line or on several. -/
theorem flatten_lines_addWord (wide : 2 ≤ width) (state : Breaking) (word : Text) :
    (state.addWord width word).lines.flatten = state.lines.flatten ++ word := by
  unfold addWord
  dsimp only
  split
  · rw [flatten_lines, flatten_lines]
    simp [place]
  split
  · rw [flatten_lines_foldl_startLine, (foldWord_spec wide word).1]
  · exact flatten_lines_startLine state word

theorem Fits.startLine (fits : Fits width state) {text : Text}
    (narrow : Text.columns (Text.trimEnd CodePoint.isBlank text) ≤ width) :
    Fits width (state.startLine text) := by
  refine ⟨rfl, fun line member => ?_⟩
  unfold Breaking.startLine at member
  dsimp only at member
  rcases List.mem_cons.1 member with rfl | member
  · exact narrow
  · split at member
    · cases member
    · exact fits.lines line member

theorem Fits.foldl_startLine (fits : Fits width state) {pieces : List Text}
    (narrow : ∀ piece ∈ pieces, Text.columns piece ≤ width) :
    Fits width (pieces.foldl Breaking.startLine state) := by
  induction pieces generalizing state with
  | nil => exact fits
  | cons piece pieces inductionHypothesis =>
      have isNarrow := narrow piece List.mem_cons_self
      exact inductionHypothesis (fits.startLine ((columns_trimEnd_le piece).trans isNarrow))
        fun other member => narrow other (.tail piece member)

theorem Fits.addWord (wide : 2 ≤ width) (fits : Fits width state) (word : Text) :
    Fits width (state.addWord width word) := by
  unfold Breaking.addWord
  dsimp only
  split
  case isTrue room =>
    refine ⟨?_, fun line member => ?_⟩
    · simp [place, fits.columns]
    · rcases List.mem_cons.1 member with rfl | member
      · have joined := columns_trimEnd_append_le state.current word
        rw [fits.columns] at room
        exact joined.trans room
      · exact fits.lines line (.tail _ member)
  split
  case isTrue => exact fits.foldl_startLine (foldWord_spec wide word).2
  case isFalse narrow => exact fits.startLine (by omega)

/-- The lines of some words make up the words, and fit. -/
theorem addWords_spec (wide : 2 ≤ width) (words : List Text) (fits : Fits width state) :
    (words.foldl (Breaking.addWord width) state).lines.flatten =
        state.lines.flatten ++ words.flatten ∧
      Fits width (words.foldl (Breaking.addWord width) state) := by
  induction words generalizing state with
  | nil => exact ⟨by simp, fits⟩
  | cons word words inductionHypothesis =>
      obtain ⟨whole, fitsAfter⟩ := inductionHypothesis (fits.addWord wide word)
      rw [flatten_lines_addWord wide, List.append_assoc] at whole
      exact ⟨whole, fitsAfter⟩

end Breaking

theorem trimEnd_of_isBlank {text : Text} (blank : ∀ c ∈ text, c.isBlank = true) :
    Text.trimEnd CodePoint.isBlank text = [] := by
  unfold Text.trimEnd
  rw [List.reverse_eq_nil_iff, List.dropWhile_eq_nil_iff]
  exact fun c member => blank c (List.mem_reverse.1 member)

/-- **Breaking.**  The lines make up the text, and each fits but for the blanks at its end. -/
theorem breakLine_spec {width : Nat} (wide : 2 ≤ width) (text : Text) :
    (breakLine width text).flatten = text ∧
      ∀ line ∈ breakLine width text, Text.columns (Text.trimEnd CodePoint.isBlank line) ≤ width := by
  have cases := wordsOf_cases text
  unfold breakLine
  split
  case h_1 noWords =>
    refine ⟨by simp, fun line member => ?_⟩
    have blank : ∀ c ∈ text, c.isBlank = true := by
      rcases cases with whole | ⟨_, blank⟩
      · rw [noWords] at whole
        rw [← whole]
        exact fun c member => absurd member List.not_mem_nil
      · exact blank
    rw [List.mem_singleton.1 member, trimEnd_of_isBlank blank]
    exact Nat.zero_le _
  case h_2 hasWords =>
    have start : Breaking.Fits width {} := by
      refine ⟨rfl, fun line member => ?_⟩
      rw [List.mem_singleton.1 member]
      exact Nat.zero_le _
    obtain ⟨whole, fits⟩ := Breaking.addWords_spec wide (wordsOf text) start
    have isText : (wordsOf text).flatten = text :=
      cases.resolve_right fun blank => hasWords blank.1
    refine ⟨?_, fun line member => fits.lines line (List.mem_reverse.1 member)⟩
    rw [whole, isText]
    rfl

/-! ## Cutting -/

section Cutting

variable {width : Nat} {front blanks part : Text} {shows : CodePoint → Bool}

theorem columns_of_mem {text : Text} {c : CodePoint} (member : c ∈ text)
    (columnless : Text.columns text = 0) : c.columns = 0 := by
  obtain ⟨before, behind, rfl⟩ := List.append_of_mem member
  rw [columns_append, columns_cons] at columnless
  omega

/-- A beginning that fills the width shows all that is in front of the blanks. -/
theorem filter_of_width_le (fits : Text.columns front ≤ width)
    (steady : (∀ c ∈ front.getLast?, c.columns ≠ 0) ∨
      ∀ c : CodePoint, c.columns = 0 → shows c = false)
    (hidden : ∀ c ∈ blanks, shows c = false) (isPart : part <+: front ++ blanks)
    (full : width ≤ Text.columns part) : part.filter shows = front.filter shows := by
  rcases Nat.le_total front.length part.length with longer | shorter
  · exact Text.filter_of_prefix hidden isPart longer
  · obtain ⟨rest, isFront⟩ : part <+: front :=
      List.prefix_of_prefix_length_le isPart (List.prefix_append front blanks) shorter
    have columnless : ∀ c ∈ rest, c.columns = 0 := by
      intro c member
      rw [← isFront, columns_append] at fits
      exact columns_of_mem member (by omega)
    have restHidden : ∀ c ∈ rest, shows c = false := by
      rcases steady with counts | hides
      · cases rest using List.reverseRecOn with
        | nil => exact fun c member => absurd member List.not_mem_nil
        | append_singleton rest last =>
            have isLast : last ∈ front.getLast? := by
              rw [← isFront, ← List.append_assoc, List.getLast?_concat]
              rfl
            exact absurd (columnless last (by simp)) (counts last isLast)
      · exact fun c member => hides c (columnless c member)
    rw [← isFront, List.filter_append, Text.filter_eq_nil_of_hidden restHidden, List.append_nil]

/-- A beginning that is too wide ends with a blank. -/
theorem getLast?_of_width_lt (fits : Text.columns front ≤ width)
    (spaces : ∀ c ∈ blanks, c = CodePoint.ofChar ' ') (isPart : part <+: front ++ blanks)
    (tooWide : width < Text.columns part) : part.getLast? = some (CodePoint.ofChar ' ') := by
  have longer : front.length ≤ part.length := by
    by_contra shorter
    have isPrefix : part <+: front :=
      List.prefix_of_prefix_length_le isPart (List.prefix_append front blanks) (by omega)
    have := columns_le_of_prefix isPrefix
    omega
  obtain ⟨between, rfl⟩ : front <+: part :=
    List.prefix_of_prefix_length_le (List.prefix_append front blanks) isPart longer
  cases between using List.reverseRecOn with
  | nil =>
      rw [List.append_nil] at tooWide
      omega
  | append_singleton between last =>
      obtain ⟨rest, isWhole⟩ := isPart
      rw [List.append_assoc, List.append_cancel_left_eq] at isWhole
      have isBlank : last ∈ blanks := by
        rw [← isWhole]
        simp
      rw [← List.append_assoc, List.getLast?_concat, spaces last isBlank]

/-- One blank more does not pass over the width. -/
theorem columns_take_succ_le {whole : Text} {count : Nat}
    (endsBlank : width < Text.columns (whole.take (count + 1)) →
      (whole.take (count + 1)).getLast? = some (CodePoint.ofChar ' '))
    (fewer : Text.columns (whole.take count) < width) :
    Text.columns (whole.take (count + 1)) ≤ width := by
  by_contra tooWide
  have isLast := endsBlank (by omega)
  rcases Nat.lt_or_ge count whole.length with inside | outside
  · rw [List.take_succ_eq_append_getElem inside] at isLast tooWide
    rw [List.getLast?_concat, Option.some.injEq] at isLast
    have single : (CodePoint.ofChar ' ').columns = 1 := by decide
    rw [isLast, columns_append, columns_cons, columns_nil, single] at tooWide
    omega
  · rw [List.take_of_length_le (by omega)] at tooWide fewer
    omega

/-- The search for a beginning that fills the width ends with one that shows all that is in front of
the blanks.  The beginning up to the upper end of the span is always too wide. -/
theorem filter_bisectCut (fits : Text.columns front ≤ width)
    (steady : (∀ c ∈ front.getLast?, c.columns ≠ 0) ∨
      ∀ c : CodePoint, c.columns = 0 → shows c = false)
    (spaces : ∀ c ∈ blanks, c = CodePoint.ofChar ' ') (hidden : ∀ c ∈ blanks, shows c = false)
    {start stop : Nat} (ordered : start ≤ stop)
    (tooWide : width < Text.columns ((front ++ blanks).take (stop + 1))) :
    (bisectCut width (front ++ blanks) start stop).filter shows = front.filter shows := by
  have isFull : ∀ count, width ≤ Text.columns ((front ++ blanks).take count) →
      ((front ++ blanks).take count).filter shows = front.filter shows := fun count full =>
    filter_of_width_le fits steady hidden (List.take_prefix count _) full
  have endsBlank : ∀ count, width < Text.columns ((front ++ blanks).take count) →
      ((front ++ blanks).take count).getLast? = some (CodePoint.ofChar ' ') := fun count wider =>
    getLast?_of_width_lt fits spaces (List.take_prefix count _) wider
  generalize front ++ blanks = whole at tooWide isFull endsBlank ⊢
  fun_induction bisectCut width whole start stop with
  | case1 start stop middle beginning columns full =>
      exact isFull (middle + 1) (Nat.le_of_eq full.symm)
  | case2 start stop middle beginning columns _ cutsWide =>
      have isBlank := endsBlank (middle + 1) (Nat.le_of_eq cutsWide.1.symm)
      have isDouble := cutsWide.2
      unfold beginning at isDouble
      rw [isBlank] at isDouble
      exact absurd isDouble (by decide)
  | case3 start stop middle beginning columns _ _ wider _ inductionHypothesis =>
      exact inductionHypothesis (by omega) wider
  | case4 start stop middle beginning columns _ _ wider _ =>
      exact isFull (middle + 1) (Nat.le_of_lt wider)
  | case5 start stop middle beginning columns _ _ _ _ inductionHypothesis =>
      exact inductionHypothesis (by omega) tooWide
  | case6 start stop middle beginning columns noFill _ noWider noRoom =>
      -- The span is one long at most, and the step over it would be one blank that passes the width.
      have fewer : Text.columns (whole.take (middle + 1)) < width :=
        Nat.lt_of_le_of_ne (Nat.le_of_not_lt noWider) noFill
      have step := columns_take_succ_le (endsBlank (middle + 1 + 1)) fewer
      obtain isStop | isStop : stop = middle ∨ stop = middle + 1 := by omega
      · rw [isStop] at tooWide
        omega
      · rw [isStop] at tooWide
        omega

end Cutting

/-! ## What is shown -/

/-- No columnless code point stands directly in front of a blank. -/
def IsFirm (text : Text) : Prop :=
  List.IsChain (fun left right => right.isBlank = true → left.columns ≠ 0) text

instance (text : Text) : Decidable (IsFirm text) := by
  unfold IsFirm
  infer_instance

/-- What is to be seen of a text and takes a column. -/
def broad (text : Text) : Text := text.filter fun c => !c.isBlank && decide (c.columns ≠ 0)

/-- A line loses nothing but blanks at its end. -/
theorem exists_cropBlanks_eq (width : Nat) (line : Text) :
    ∃ kept rest : Text, cropBlanks width line = Text.trimEnd CodePoint.isBlank line ++ kept ∧
      line = Text.trimEnd CodePoint.isBlank line ++ (kept ++ rest) ∧
      ∀ c ∈ kept ++ rest, c.isBlank = true := by
  obtain ⟨dropped, isWhole, blank, _⟩ := Text.exists_append_trimEnd CodePoint.isBlank line
  have lengths : (line.reverse.takeWhile CodePoint.isBlank).length +
      (Text.trimEnd CodePoint.isBlank line).length = line.length := by
    unfold Text.trimEnd
    rw [List.length_reverse, ← List.length_append, List.takeWhile_append_dropWhile,
      List.length_reverse]
  have isFront : Text.trimEnd CodePoint.isBlank line <+: line := ⟨dropped, isWhole.symm⟩
  obtain ⟨rest, isLine⟩ : cropBlanks width line <+: line := List.take_prefix _ _
  obtain ⟨kept, isKept⟩ : Text.trimEnd CodePoint.isBlank line <+: cropBlanks width line := by
    refine List.prefix_of_prefix_length_le isFront (List.take_prefix _ _) ?_
    unfold cropBlanks
    rw [List.length_take]
    omega
  have isDropped : kept ++ rest = dropped := by
    rw [← isKept, List.append_assoc] at isLine
    exact List.append_cancel_left (isLine.trans isWhole)
  exact ⟨kept, rest, isKept.symm, by rw [isDropped, ← isWhole], isDropped ▸ blank⟩

theorem filter_cutToWidth {width : Nat} (wide : 2 ≤ width) {line : Text}
    {shows : CodePoint → Bool} (printable : line.IsPrintable)
    (hidesBlanks : ∀ c : CodePoint, c.isBlank = true → shows c = false)
    (steady : IsFirm line ∨ ∀ c : CodePoint, c.columns = 0 → shows c = false)
    (fits : Text.columns (Text.trimEnd CodePoint.isBlank line) ≤ width) :
    (cutToWidth width (cropBlanks width line)).filter shows = line.filter shows := by
  obtain ⟨kept, rest, isCropped, isLine, blank⟩ := exists_cropBlanks_eq width line
  generalize Text.trimEnd CodePoint.isBlank line = front at fits isCropped isLine
  subst isLine
  have hidden : ∀ c ∈ kept ++ rest, shows c = false := fun c member =>
    hidesBlanks c (blank c member)
  have keptHidden : ∀ c ∈ kept, shows c = false := fun c member =>
    hidden c (List.mem_append_left rest member)
  rw [isCropped, List.filter_append front, Text.filter_eq_nil_of_hidden hidden, List.append_nil]
  unfold cutToWidth
  split
  case isTrue =>
    rw [List.filter_append, Text.filter_eq_nil_of_hidden keptHidden, List.append_nil]
  case isFalse wider =>
    rw [if_neg (by omega)]
    have keptBlank : ∀ c ∈ kept, c.isBlank = true := fun c member =>
      blank c (List.mem_append_left rest member)
    have spaces : ∀ c ∈ kept, c = CodePoint.ofChar ' ' := fun c member =>
      CodePoint.eq_space_of_isBlank
        (printable c (List.mem_append_right front (List.mem_append_left rest member)))
        (keptBlank c member)
    have frontSteady : (∀ c ∈ front.getLast?, c.columns ≠ 0) ∨
        ∀ c : CodePoint, c.columns = 0 → shows c = false := by
      refine steady.imp_left fun firm => ?_
      cases kept with
      | nil =>
          rw [List.append_nil] at wider
          exact absurd fits wider
      | cons next kept =>
          intro c isLast
          exact (List.isChain_append.1 firm).2.2 c isLast next rfl (keptBlank next (.head _))
    refine filter_bisectCut fits frontSteady spaces keptHidden (Nat.zero_le _) ?_
    rw [List.take_of_length_le (Nat.le_succ _)]
    omega

theorem dropControls_of_isPrintable {text : Text} (printable : text.IsPrintable) :
    dropControls text = text := by
  have listed : (0x0, 0x1F) ∈ unprintableRanges := by decide
  refine List.filter_eq_self.2 fun c member => ?_
  rw [Bool.not_eq_true', ← Bool.not_eq_true]
  intro moves
  simp only [movesCursor, Bool.or_eq_true, decide_eq_true_eq] at moves
  have unprintable := CodePoint.isPrintable_eq_false (c := c) listed (by omega) (by omega)
  rw [printable c member] at unprintable
  cases unprintable

theorem filter_unlines {shows : CodePoint → Bool} (feedHidden : shows Text.lineFeed = false)
    (lines : List Text) : (unlines lines).filter shows = (lines.map (·.filter shows)).flatten := by
  induction lines with
  | nil => rfl
  | cons line lines inductionHypothesis =>
      have isUnlines : unlines (line :: lines) = line ++ [Text.lineFeed] ++ unlines lines := rfl
      have noFeed : ([Text.lineFeed] : Text).filter shows = [] :=
        Text.filter_eq_nil_of_hidden fun c isFeed => List.mem_singleton.1 isFeed ▸ feedHidden
      rw [isUnlines, List.filter_append, List.filter_append, noFeed, List.append_nil,
        inductionHypothesis]
      rfl

/-- **What is shown.**  A terminal shows all of a printable text that is of a class without blanks,
and without columnless code points if the text is not firm. -/
theorem filter_print {width : Nat} (wide : 2 ≤ width) {text : Text} {shows : CodePoint → Bool}
    (printable : text.IsPrintable)
    (hidesBlanks : ∀ c : CodePoint, c.isBlank = true → shows c = false)
    (steady : IsFirm text ∨ ∀ c : CodePoint, c.columns = 0 → shows c = false) :
    (print width text).filter shows = text.filter shows := by
  have absent : ∀ c : CodePoint, c.isPrintable = false → c ∉ text := by
    intro c unprintable member
    rw [printable c member] at unprintable
    cases unprintable
  have isLine : Text.splitOn Text.lineFeed text = [text] :=
    Text.splitOn_of_not_mem (absent _ (by decide))
  have noTabs : text.contains (CodePoint.ofChar '\t') = false := by
    simpa using absent (CodePoint.ofChar '\t') (by decide)
  obtain ⟨whole, fits⟩ := breakLine_spec wide text
  have linesShown : ∀ line ∈ breakLine width text,
      (cutToWidth width (cropBlanks width line)).filter shows = line.filter shows := by
    intro line member
    have inText : line <:+: text := whole ▸ List.infix_of_mem_flatten member
    exact filter_cutToWidth wide (fun c inLine => printable c (inText.subset inLine)) hidesBlanks
      (steady.imp_left fun firm => List.IsChain.infix firm inText) (fits line member)
  calc (print width text).filter shows
      = ((breakLine width text).map fun line =>
          (cutToWidth width (cropBlanks width line)).filter shows).flatten := by
        unfold print wrap
        rw [if_neg (by omega), dropControls_of_isPrintable printable, isLine,
          List.flatMap_singleton, wrapLine, noTabs, filter_unlines (hidesBlanks _ rfl),
          List.map_map]
        rfl
    _ = ((breakLine width text).map (·.filter shows)).flatten := by
        rw [List.map_congr_left linesShown]
    _ = text.filter shows := by
        rw [← List.filter_flatten, whole]

/-- A firm text is shown as a whole, but for blanks. -/
theorem visible_print {width : Nat} (wide : 2 ≤ width) {text : Text} (printable : text.IsPrintable)
    (firm : IsFirm text) : Text.visible (print width text) = Text.visible text :=
  filter_print wide printable (fun c blank => by rw [blank]; rfl) (.inl firm)

/-- No surrogate is printed of a printable text.  Surrogates are among what is shown: each would take
a column. -/
theorem isSurrogateFree_print {width : Nat} (wide : 2 ≤ width) {text : Text}
    (printable : text.IsPrintable) : (print width text).IsSurrogateFree := by
  have outside : ∀ range ∈ blankRanges ++ columnlessRanges,
      range.2 < 0xD800 ∨ 0xDFFF < range.1 := by decide +kernel
  have noSurrogate : ∀ {ranges : List (Nat × Nat)}, ranges ⊆ blankRanges ++ columnlessRanges →
      ∀ c : CodePoint, inRanges ranges c.val = true → c.isSurrogate = false := by
    intro ranges listed c inside
    obtain ⟨range, member, bounds⟩ := List.any_eq_true.1 inside
    have := outside range (listed member)
    simp only [Bool.and_eq_true, decide_eq_true_eq] at bounds
    exact CodePoint.within_eq_false_iff.2 (by omega)
  have noneColumnless : ∀ c : CodePoint, c.columns = 0 → c.isSurrogate = false := by
    intro c columnless
    unfold CodePoint.columns at columnless
    split at columnless
    case isTrue => cases columnless
    split at columnless
    case isTrue inside => exact noSurrogate (List.subset_append_right _ _) c inside
    split at columnless <;> cases columnless
  have surrogates : (print width text).filter CodePoint.isSurrogate =
      text.filter CodePoint.isSurrogate :=
    filter_print wide printable (noSurrogate (List.subset_append_left _ _)) (.inr noneColumnless)
  rw [Text.filter_eq_nil_of_hidden printable.isSurrogateFree, List.filter_eq_nil_iff] at surrogates
  exact fun c member => Bool.eq_false_iff.2 (surrogates c member)

/-- Nothing that takes a column is lost of any text, but for blanks. -/
theorem broad_print {width : Nat} (wide : 2 ≤ width) {text : Text} (printable : text.IsPrintable) :
    broad (print width text) = broad text := by
  refine filter_print wide printable (fun c blank => ?_) (.inr fun c columnless => ?_)
  · simp [blank]
  · simp [columnless]

end Findings.Terminal
