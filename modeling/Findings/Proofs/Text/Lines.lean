import Findings.Proofs.Text.Joined
import Findings.Text.Lines

/-!
Contract: the ways to end a line.

Owns:
- a text whose lines all end in one of the three ways is read with line feeds
  (`universalNewlines_withEnds`);
- a text of lines that end in different ways keeps its lines (`HasLines.universalNewlines`).
-/

set_option autoImplicit false

namespace Findings.Text

/-- How the lines of a text end. -/
inductive LineEnd where
  | feed
  | returnAndFeed
  | carriageReturn
deriving DecidableEq

def LineEnd.text : LineEnd → Text
  | .feed => [lineFeed]
  | .returnAndFeed => [Text.carriageReturn, lineFeed]
  | .carriageReturn => [Text.carriageReturn]

/-- A text with its line feeds written as ends of some kind. -/
def withEnds (lineEnd : LineEnd) (text : Text) : Text :=
  text.flatMap fun c => if c = lineFeed then lineEnd.text else [c]

theorem LineEnd.isSurrogateFree_text (lineEnd : LineEnd) : lineEnd.text.IsSurrogateFree := by
  unfold IsSurrogateFree
  cases lineEnd <;> decide

theorem IsSurrogateFree.withEnds {text : Text} (free : text.IsSurrogateFree) (lineEnd : LineEnd) :
    (text.withEnds lineEnd).IsSurrogateFree := by
  intro c member
  obtain ⟨source, isSource, isWritten⟩ := List.mem_flatMap.1 member
  split at isWritten
  · exact lineEnd.isSurrogateFree_text c isWritten
  · rw [List.mem_singleton.1 isWritten]
    exact free source isSource

/-! ## Reading -/

/-- What is known of the reader in front of a line that ends in some way: it is behind a carriage
return only if no line feed can follow. -/
def LineEnd.Allows (lineEnd : LineEnd) (behindReturn : Bool) : Prop :=
  behindReturn = true → lineEnd = .carriageReturn

/-- An end of a line is read as one line feed. -/
theorem exists_foldl_lineEnd {lineEnd : LineEnd} {behindReturn : Bool} (before : Text)
    (allowed : lineEnd.Allows behindReturn) :
    ∃ behind, lineEnd.text.foldl newlineStep (before, behindReturn) = (lineFeed :: before, behind) ∧
      lineEnd.Allows behind := by
  cases lineEnd with
  | feed =>
      cases behindReturn with
      | true => cases allowed rfl
      | false => exact ⟨false, rfl, fun behind => by cases behind⟩
  | returnAndFeed => exact ⟨false, rfl, fun behind => by cases behind⟩
  | carriageReturn => exact ⟨true, rfl, fun _ => rfl⟩

theorem newlineStep_of_ne {c : CodePoint} (state : Text × Bool) (noReturn : c ≠ carriageReturn)
    (noFeed : c ≠ lineFeed) : newlineStep state c = (c :: state.1, false) := by
  unfold newlineStep
  rw [if_neg noReturn, if_neg fun feed => noFeed feed.1]

/-- Reading goes on line by line from a state that allows it. -/
theorem foldl_newlineStep_withEnds {lineEnd : LineEnd} {text : Text}
    (noReturn : carriageReturn ∉ text) (before : Text) {behindReturn : Bool}
    (allowed : lineEnd.Allows behindReturn) :
    ((text.withEnds lineEnd).foldl newlineStep (before, behindReturn)).1 =
      text.reverse ++ before := by
  induction text generalizing before behindReturn with
  | nil => rfl
  | cons c text inductionHypothesis =>
      have noOther : carriageReturn ∉ text := fun member => noReturn (List.mem_cons_of_mem c member)
      have isNoReturn : c ≠ carriageReturn := fun isReturn => noReturn (isReturn ▸ List.mem_cons_self)
      rw [List.reverse_cons, List.append_assoc, List.singleton_append]
      unfold withEnds
      rw [List.flatMap_cons, List.foldl_append]
      split
      case isTrue isFeed =>
        obtain ⟨behind, isRead, allowedBehind⟩ := exists_foldl_lineEnd before allowed
        rw [isRead, isFeed]
        exact inductionHypothesis noOther (lineFeed :: before) allowedBehind
      case isFalse noFeed =>
        rw [List.foldl_cons, List.foldl_nil, newlineStep_of_ne _ isNoReturn noFeed]
        exact inductionHypothesis noOther (c :: before) fun behind => by cases behind

/-- **Line ends.**  Of a text without carriage returns, however its lines are made to end, the text is
read. -/
theorem universalNewlines_withEnds (lineEnd : LineEnd) {text : Text}
    (noReturn : carriageReturn ∉ text) : universalNewlines (text.withEnds lineEnd) = text := by
  unfold universalNewlines
  have allowed : lineEnd.Allows false := fun behind => by cases behind
  rw [foldl_newlineStep_withEnds noReturn [] allowed, List.append_nil, List.reverse_reverse]

/-! ## Lines that end in different ways -/

/-- A text of lines, each of which ends in an allowed way; the last line need not end. -/
inductive HasLines (allowed : LineEnd → Prop) : List Text → Text → Prop where
  | nil : HasLines allowed [] []
  | unended (line : Text) : HasLines allowed [line] line
  | cons {lineEnd : LineEnd} {lines : List Text} {text : Text} (line : Text)
      (isAllowed : allowed lineEnd) (others : HasLines allowed lines text) :
      HasLines allowed (line :: lines) (line ++ (lineEnd.text ++ text))

/-- A text that is one line, and not an empty one. -/
def IsLine (line : Text) : Prop := line ≠ [] ∧ ∀ c ∈ line, c ≠ carriageReturn ∧ c ≠ lineFeed

theorem HasLines.isSurrogateFree {allowed : LineEnd → Prop} {lines : List Text} {text : Text}
    (hasLines : HasLines allowed lines text) (free : ∀ line ∈ lines, line.IsSurrogateFree) :
    text.IsSurrogateFree := by
  induction hasLines with
  | nil => exact fun c member => absurd member List.not_mem_nil
  | unended line => exact free line List.mem_cons_self
  | @cons lineEnd _ _ line _ _ inductionHypothesis =>
      have othersFree := inductionHypothesis fun other member => free other (.tail line member)
      exact (free line List.mem_cons_self).append (lineEnd.isSurrogateFree_text.append othersFree)

theorem foldl_newlineStep_of_within {within : Text}
    (noEnd : ∀ c ∈ within, c ≠ carriageReturn ∧ c ≠ lineFeed) (before : Text) :
    within.foldl newlineStep (before, false) = (within.reverse ++ before, false) := by
  induction within generalizing before with
  | nil => rfl
  | cons c within inductionHypothesis =>
      obtain ⟨isNoReturn, isNoFeed⟩ := noEnd c List.mem_cons_self
      rw [List.foldl_cons, newlineStep_of_ne _ isNoReturn isNoFeed,
        inductionHypothesis fun other member => noEnd other (.tail c member), List.reverse_cons,
        List.append_assoc, List.singleton_append]

/-- A line is read as it is, also behind a carriage return. -/
theorem foldl_newlineStep_of_isLine {line : Text} (isLine : line.IsLine) (state : Text × Bool) :
    line.foldl newlineStep state = (line.reverse ++ state.1, false) := by
  obtain ⟨visible, noEnd⟩ := isLine
  cases line with
  | nil => exact absurd rfl visible
  | cons c line =>
      obtain ⟨isNoReturn, isNoFeed⟩ := noEnd c List.mem_cons_self
      rw [List.foldl_cons, newlineStep_of_ne _ isNoReturn isNoFeed,
        foldl_newlineStep_of_within fun other member => noEnd other (.tail c member),
        List.reverse_cons, List.append_assoc, List.singleton_append]

theorem HasLines.exists_foldl_newlineStep {allowed : LineEnd → Prop} {lines : List Text}
    {text : Text} (hasLines : HasLines allowed lines text) (areLines : ∀ line ∈ lines, line.IsLine)
    (state : Text × Bool) :
    ∃ read, HasLines (· = .feed) lines read ∧
      (text.foldl newlineStep state).1 = read.reverse ++ state.1 := by
  induction hasLines generalizing state with
  | nil => exact ⟨[], .nil, rfl⟩
  | unended line =>
      have isLine := areLines line List.mem_cons_self
      exact ⟨line, .unended line, by rw [foldl_newlineStep_of_isLine isLine]⟩
  | @cons lineEnd lines text line _ _ inductionHypothesis =>
      have isLine := areLines line List.mem_cons_self
      have notBehind : lineEnd.Allows false := fun behind => by cases behind
      obtain ⟨behind, isEnd, _⟩ := exists_foldl_lineEnd (line.reverse ++ state.1) notBehind
      obtain ⟨read, hasFeeds, isRead⟩ := inductionHypothesis
        (fun other member => areLines other (.tail line member))
        (lineFeed :: (line.reverse ++ state.1), behind)
      refine ⟨line ++ (LineEnd.feed.text ++ read), .cons line rfl hasFeeds, ?_⟩
      rw [List.foldl_append, foldl_newlineStep_of_isLine isLine, List.foldl_append, isEnd, isRead]
      simp [LineEnd.text]

/-- **Line ends of several kinds.**  A text keeps its lines, which are read with line feeds. -/
theorem HasLines.universalNewlines {allowed : LineEnd → Prop} {lines : List Text} {text : Text}
    (hasLines : HasLines allowed lines text) (areLines : ∀ line ∈ lines, line.IsLine) :
    HasLines (· = .feed) lines text.universalNewlines := by
  obtain ⟨read, hasFeeds, isRead⟩ := hasLines.exists_foldl_newlineStep areLines ([], false)
  unfold Text.universalNewlines
  rwa [isRead, List.append_nil, List.reverse_reverse]

end Findings.Text
