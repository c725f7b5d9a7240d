import Findings.Json.Reader
import Findings.Proofs.Json.Joined

/-!
Contract: reading makes no unjoined surrogate pairs.

Owns:
- `SpellsJoined`, that no surrogate pair is spelled in a source text but by two escapes in a row,
  which stand for the joined code point;
- `read_isJoined`: what is read from such a text holds no unjoined surrogate pair.

A high surrogate that stands in the text as it is, in front of the escape of a low one, is not
joined; nor is the escape of a high surrogate in front of a low one that stands as it is.
-/

set_option autoImplicit false

namespace Findings.Json

/-! ## Source texts -/

/-- A low surrogate stands at the front of a text as it is. -/
def BeginsLow (text : Text) : Prop := ∃ next ∈ text.head?, next.isLowSurrogate = true

/-- No surrogate pair is spelled in a text but by two escapes in a row. -/
inductive SpellsJoined : Text → Prop where
  | nil : SpellsJoined []
  | itself {c : CodePoint} {rest : Text} (noEscape : c ≠ CodePoint.ofChar '\\')
      (apart : c.isHighSurrogate = true →
        ¬ BeginsLow rest ∧ lowSurrogateEscape? rest = none)
      (behind : SpellsJoined rest) : SpellsJoined (c :: rest)
  | backslash : SpellsJoined [CodePoint.ofChar '\\']
  | letter {letter : CodePoint} {rest : Text}
      (simple : letter = CodePoint.ofChar 'u' → fourHexDigits? rest = none)
      (behind : SpellsJoined rest) : SpellsJoined (CodePoint.ofChar '\\' :: letter :: rest)
  | unicode {c : CodePoint} {after rest : Text} (digits : fourHexDigits? after = some (c, rest))
      (apart : c.isHighSurrogate = true → ¬ BeginsLow rest) (behind : SpellsJoined rest) :
      SpellsJoined (CodePoint.ofChar '\\' :: CodePoint.ofChar 'u' :: after)

/-! ## Escapes -/

theorem fourHexDigits?_suffix {text rest : Text} {c : CodePoint}
    (digits : fourHexDigits? text = some (c, rest)) :
    rest <:+ text := by
  unfold fourHexDigits? at digits
  split at digits
  · rename_i first second third fourth next more
    simp only [Option.pure_def, Option.bind_eq_bind, Option.bind_eq_some_iff, Option.some.injEq,
      Prod.mk.injEq] at digits
    obtain ⟨_, _, _, _, _, _, _, _, _, isRest⟩ := digits
    rw [← isRest]
    exact List.suffix_append [first, second, third, fourth] (next :: more)
  · cases digits

theorem lowSurrogateEscape?_eq_some {text rest : Text} {low : CodePoint}
    (escape : lowSurrogateEscape? text = some (low, rest)) :
    ∃ after, text = CodePoint.ofChar '\\' :: CodePoint.ofChar 'u' :: after ∧
      fourHexDigits? after = some (low, rest) := by
  unfold lowSurrogateEscape? at escape
  split at escape
  · rename_i backslash u after
    split at escape
    · rename_i isEscape
      cases digits : fourHexDigits? after with
      | none =>
          rw [digits] at escape
          cases escape
      | some read =>
          simp only [digits] at escape
          split at escape
          · cases escape
            exact ⟨after, by rw [isEscape.1, isEscape.2], digits⟩
          · cases escape
    · cases escape
  · cases escape

/-- What an escape of one letter denotes is no surrogate. -/
theorem isSurrogate_of_simpleEscape? {letter c : CodePoint}
    (escape : simpleEscape? letter = some c) : c.isSurrogate = false := by
  unfold simpleEscape? at escape
  grind [CodePoint.isSurrogate_ofChar]

theorem isSurrogate_joinSurrogates (high low : CodePoint) :
    (CodePoint.joinSurrogates high low).isSurrogate = false := by
  refine CodePoint.within_eq_false_iff.2 (.inr ?_)
  simp only [CodePoint.joinSurrogates]
  omega

/-! ## Taking spelled pairs apart -/

namespace SpellsJoined

variable {text rest : Text}

theorem of_itself {c : CodePoint} (spelled : SpellsJoined (c :: rest))
    (noEscape : c ≠ CodePoint.ofChar '\\') :
    (c.isHighSurrogate = true → ¬ BeginsLow rest ∧ lowSurrogateEscape? rest = none) ∧
      SpellsJoined rest := by
  cases spelled with
  | itself _ apart behind => exact ⟨apart, behind⟩
  | backslash => exact absurd rfl noEscape
  | letter => exact absurd rfl noEscape
  | unicode => exact absurd rfl noEscape

theorem of_letter {letter : CodePoint}
    (spelled : SpellsJoined (CodePoint.ofChar '\\' :: letter :: rest))
    (simple : letter ≠ CodePoint.ofChar 'u') : SpellsJoined rest := by
  cases spelled with
  | itself noEscape => exact absurd rfl noEscape
  | letter _ behind => exact behind
  | unicode => exact absurd rfl simple

theorem of_unicode {c : CodePoint} {after : Text}
    (spelled : SpellsJoined (CodePoint.ofChar '\\' :: CodePoint.ofChar 'u' :: after))
    (digits : fourHexDigits? after = some (c, rest)) :
    (c.isHighSurrogate = true → ¬ BeginsLow rest) ∧ SpellsJoined rest := by
  cases spelled with
  | itself noEscape => exact absurd rfl noEscape
  | letter simple =>
      rw [simple rfl] at digits
      cases digits
  | unicode other apart behind =>
      rw [other] at digits
      cases digits
      exact ⟨apart, behind⟩

/-- An escape spells no surrogate that stands in the text as it is. -/
theorem of_escape {letter : CodePoint} (free : rest.IsSurrogateFree)
    (behind : ∀ part, part <:+ rest → SpellsJoined part) :
    SpellsJoined (CodePoint.ofChar '\\' :: letter :: rest) := by
  by_cases isUnicode : letter = CodePoint.ofChar 'u'
  · cases digits : fourHexDigits? rest with
    | none => exact .letter (fun _ => digits) (behind rest List.suffix_rfl)
    | some read =>
        obtain ⟨point, after⟩ := read
        have inside := fourHexDigits?_suffix digits
        rw [isUnicode]
        refine .unicode digits ?_ (behind after inside)
        rintro _ ⟨next, isNext, low⟩
        have isFree := free next (inside.subset (List.mem_of_mem_head? isNext))
        exact CodePoint.not_isLowSurrogate isFree low
  · exact .letter (fun same => absurd same isUnicode) (behind rest List.suffix_rfl)

/-- The induction is on the text for all its ends at once: what an escape leaves is not the tail of
the text, but an end of it. -/
theorem of_suffix (free : text.IsSurrogateFree) : ∀ part, part <:+ text → SpellsJoined part := by
  induction text with
  | nil =>
      intro part inside
      rw [List.suffix_nil.1 inside]
      exact .nil
  | cons c rest inductionHypothesis =>
      obtain ⟨firstFree, othersFree⟩ := List.forall_mem_cons.1 free
      have behind := inductionHypothesis othersFree
      intro part inside
      rcases List.suffix_cons_iff.1 inside with isWhole | isBehind
      · rw [isWhole]
        by_cases isEscape : c = CodePoint.ofChar '\\'
        · rw [isEscape]
          cases rest with
          | nil => exact .backslash
          | cons letter rest =>
              exact of_escape (List.forall_mem_cons.1 othersFree).2 fun part inRest =>
                behind part (inRest.trans (List.suffix_cons letter rest))
        · exact .itself isEscape
            (fun high => absurd high (CodePoint.not_isHighSurrogate firstFree))
            (behind rest List.suffix_rfl)
      · exact behind part isBehind

/-- A text without surrogates, such as every text that comes from bytes, spells no pair but by
escapes. -/
theorem of_isSurrogateFree (free : text.IsSurrogateFree) : SpellsJoined text :=
  of_suffix free text List.suffix_rfl

end SpellsJoined

/-! ## Strings -/

/-- Behind an escape the text still spells no pair, and the escape is half of none. -/
theorem unicodeEscape?_joined {after rest : Text} {c : CodePoint}
    (spelled : SpellsJoined (CodePoint.ofChar '\\' :: CodePoint.ofChar 'u' :: after))
    (escape : unicodeEscape? after = some (c, rest)) :
    SpellsJoined rest ∧
      (c.isHighSurrogate = true → ¬ BeginsLow rest ∧ lowSurrogateEscape? rest = none) ∧
      (c.isLowSurrogate = true →
        lowSurrogateEscape? (CodePoint.ofChar '\\' :: CodePoint.ofChar 'u' :: after) ≠ none) := by
  unfold unicodeEscape? at escape
  cases digits : fourHexDigits? after with
  | none =>
      rw [digits] at escape
      cases escape
  | some read =>
      obtain ⟨first, middle⟩ := read
      obtain ⟨apart, behind⟩ := spelled.of_unicode digits
      simp only [digits] at escape
      split at escape
      · rename_i high
        cases second : lowSurrogateEscape? middle with
        | none =>
            simp only [second] at escape
            cases escape
            refine ⟨behind, fun _ => ⟨apart high, second⟩, fun low => ?_⟩
            have range := CodePoint.within_eq_true_iff.1 high
            have other := CodePoint.within_eq_true_iff.1 low
            omega
        | some read =>
            obtain ⟨low, afterLow⟩ := read
            simp only [second] at escape
            cases escape
            have free := isSurrogate_joinSurrogates first low
            refine ⟨?_, fun half => ?_, fun half => ?_⟩
            · obtain ⟨afterEscape, isEscape, lowDigits⟩ := lowSurrogateEscape?_eq_some second
              rw [isEscape] at behind
              exact (behind.of_unicode lowDigits).2
            · exact absurd half (CodePoint.not_isHighSurrogate free)
            · exact absurd half (CodePoint.not_isLowSurrogate free)
      · rename_i notHigh
        cases escape
        refine ⟨behind, fun high => absurd high notHigh, fun low => ?_⟩
        rw [lowSurrogateEscape?, if_pos ⟨rfl, rfl⟩, digits]
        simp [low]

/-- One more code point keeps a text joined if it is no second half of what stands before. -/
theorem isJoined_reverse_cons {before : Text} {c : CodePoint}
    (joined : Text.IsJoined before.reverse)
    (apart : ∀ last ∈ before.head?, last.isHighSurrogate = true → c.isLowSurrogate ≠ true) :
    Text.IsJoined (c :: before).reverse := by
  rw [List.reverse_cons]
  refine Text.isJoined_append_iff.2 ⟨joined, .singleton c, ?_⟩
  intro last isLast next isNext pair
  cases isNext
  rw [List.getLast?_reverse] at isLast
  exact apart last isLast pair.1 pair.2

/-- What is read of a string is joined, as long as the text behind it does not begin with the other
half of its end. -/
theorem readString_isJoined {opening before text : Text} (spelled : SpellsJoined text)
    (joined : Text.IsJoined before.reverse)
    (apart : ∀ last ∈ before.head?, last.isHighSurrogate = true →
      ¬ BeginsLow text ∧ lowSurrogateEscape? text = none)
    {value rest : Text} (read : readString opening before text = (.text value, rest)) :
    value.IsJoined ∧ SpellsJoined rest := by
  fun_induction readString opening before text with
  | case1 => cases read
  | case2 before rest =>
      cases read
      exact ⟨joined, (spelled.of_itself (by decide)).2⟩
  | case3 => cases read
  | case4 before after point behind escape _ inductionHypothesis =>
      obtain ⟨behindSpelled, behindApart, isHalf⟩ := unicodeEscape?_joined spelled escape
      refine inductionHypothesis behindSpelled (isJoined_reverse_cons joined ?_) ?_ read
      · intro last isLast high low
        exact isHalf low (apart last isLast high).2
      · intro last isLast high
        cases isLast
        exact behindApart high
  | case5 => cases read
  | case6 before letter after noUnicode point escape _ inductionHypothesis =>
      have free := isSurrogate_of_simpleEscape? escape
      refine inductionHypothesis (spelled.of_letter noUnicode) (isJoined_reverse_cons joined ?_) ?_
        read
      · intro last isLast high low
        exact CodePoint.not_isLowSurrogate free low
      · intro last isLast high
        cases isLast
        exact absurd high (CodePoint.not_isHighSurrogate free)
  | case7 => cases read
  | case8 => cases read
  | case9 before c rest _ noEscape _ inductionHypothesis =>
      obtain ⟨behindApart, behindSpelled⟩ := spelled.of_itself noEscape
      refine inductionHypothesis behindSpelled (isJoined_reverse_cons joined ?_) ?_ read
      · intro last isLast high low
        exact (apart last isLast high).1 ⟨c, rfl, low⟩
      · intro last isLast high
        cases isLast
        exact behindApart high

/-! ## Text without escapes -/

/-- One text is the end of another, and no backslash stands in front of it. -/
def Skips (text rest : Text) : Prop :=
  ∃ skipped, text = skipped ++ rest ∧ ∀ c ∈ skipped, c ≠ CodePoint.ofChar '\\'

theorem Skips.refl (text : Text) : Skips text text := ⟨[], rfl, fun c member => by cases member⟩

theorem Skips.cons {text rest : Text} (skips : Skips text rest) {c : CodePoint}
    (noEscape : c ≠ CodePoint.ofChar '\\') : Skips (c :: text) rest := by
  obtain ⟨skipped, isText, noEscapes⟩ := skips
  exact ⟨c :: skipped, by rw [isText]; rfl, List.forall_mem_cons.2 ⟨noEscape, noEscapes⟩⟩

theorem Skips.trans {text middle rest : Text} (first : Skips text middle)
    (second : Skips middle rest) : Skips text rest := by
  obtain ⟨front, isText, noEscapes⟩ := first
  obtain ⟨skipped, isMiddle, noMore⟩ := second
  refine ⟨front ++ skipped, ?_, List.forall_mem_append.2 ⟨noEscapes, noMore⟩⟩
  rw [isText, isMiddle, List.append_assoc]

theorem skips_dropWhile {inClass : CodePoint → Bool}
    (noEscape : inClass (CodePoint.ofChar '\\') = false) (text : Text) :
    Skips text (text.dropWhile inClass) := by
  refine ⟨text.takeWhile inClass, List.takeWhile_append_dropWhile.symm, ?_⟩
  intro c member same
  have inside := List.all_eq_true.1 List.all_takeWhile c member
  rw [same, noEscape] at inside
  cases inside

theorem SpellsJoined.of_skips {text rest : Text} (spelled : SpellsJoined text)
    (skips : Skips text rest) : SpellsJoined rest := by
  obtain ⟨skipped, isText, noEscapes⟩ := skips
  rw [isText] at spelled
  clear isText
  induction skipped with
  | nil => exact spelled
  | cons c skipped inductionHypothesis =>
      obtain ⟨noEscape, noMore⟩ := List.forall_mem_cons.1 noEscapes
      exact inductionHypothesis (spelled.of_itself noEscape).2 noMore

section Numbers

variable {text rest : Text}

theorem splitSign_skips (text : Text) : Skips text (splitSign text).2 := by
  unfold splitSign
  split
  · exact Skips.refl []
  · split
    · rename_i isSign
      exact (Skips.refl _).cons (by rw [isSign]; decide)
    · exact Skips.refl _

theorem wholePart?_skips {whole : Text} (read : wholePart? text = some (whole, rest)) :
    Skips text rest := by
  unfold wholePart? at read
  split at read
  · cases read
  · split at read
    · rename_i isZero
      cases read
      exact (Skips.refl rest).cons (by rw [isZero]; decide)
    · split at read
      · rename_i digit
        cases read
        exact (skips_dropWhile (by decide) _).cons (CodePoint.ne_of_isDigit digit (by decide))
      · cases read

theorem fractionPart?_skips {fraction : Text} (read : fractionPart? text = some (fraction, rest)) :
    Skips text rest := by
  unfold fractionPart? at read
  split at read
  · split at read
    · rename_i isFraction
      cases read
      exact ((skips_dropWhile (by decide) _).cons
        (CodePoint.ne_of_isDigit isFraction.2 (by decide))).cons
        (by rw [isFraction.1]; decide)
    · cases read
  · cases read

theorem exponentDigits?_skips {negative : Bool} {exponent : Int}
    (read : exponentDigits? negative text = some (exponent, rest)) : Skips text rest := by
  unfold exponentDigits? at read
  split at read
  · cases read
  · split at read
    · rename_i digit
      cases read
      exact (skips_dropWhile (by decide) _).cons (CodePoint.ne_of_isDigit digit (by decide))
    · cases read

theorem exponentPart?_skips {exponent : Int} (read : exponentPart? text = some (exponent, rest)) :
    Skips text rest := by
  unfold exponentPart? at read
  split at read
  · cases read
  · split at read
    · rename_i isLetter
      have noEscape : ∀ letter : CodePoint, letter = CodePoint.ofChar 'e' ∨
          letter = CodePoint.ofChar 'E' → letter ≠ CodePoint.ofChar '\\' := by
        rintro letter (isSmall | isLarge)
        · rw [isSmall]
          decide
        · rw [isLarge]
          decide
      split at read
      · cases read
      · split at read
        · rename_i isMinus
          exact ((exponentDigits?_skips read).cons (by rw [isMinus]; decide)).cons
            (noEscape _ isLetter)
        · split at read
          · rename_i isPlus
            exact ((exponentDigits?_skips read).cons (by rw [isPlus]; decide)).cons
              (noEscape _ isLetter)
          · exact (exponentDigits?_skips read).cons (noEscape _ isLetter)
    · cases read

theorem readNumber?_skips {token : Token} (read : readNumber? text = some (token, rest)) :
    Skips text rest := by
  unfold readNumber? at read
  have unsigned := splitSign_skips text
  simp only at read
  split at read
  · cases read
  · rename_i whole after wholeRead
    have behindWhole := unsigned.trans (wholePart?_skips wholeRead)
    split at read
    · rename_i fraction afterFraction fractionRead
      have behindFraction := behindWhole.trans (fractionPart?_skips fractionRead)
      cases exponentRead : exponentPart? afterFraction with
      | none =>
          rw [exponentRead] at read
          cases read
          exact behindFraction
      | some pair =>
          rw [exponentRead] at read
          cases read
          exact behindFraction.trans (exponentPart?_skips exponentRead)
    · split at read
      · rename_i exponentRead
        cases read
        exact behindWhole.trans (exponentPart?_skips exponentRead)
      · cases read
        exact behindWhole

theorem after?_eq_append {beginning : Text} (found : Text.after? beginning text = some rest) :
    text = beginning ++ rest := by
  fun_induction Text.after? beginning text with
  | case1 text =>
      cases found
      rfl
  | case2 => cases found
  | case3 =>
      rename_i inductionHypothesis
      rw [inductionHypothesis found]
      rfl
  | case4 => cases found

theorem readWord?_skips {token : Token} (read : readWord? text = some (token, rest)) :
    Skips text rest := by
  obtain ⟨word, member, found⟩ := List.exists_of_findSome?_eq_some read
  obtain ⟨after, matched, equal⟩ := Option.map_eq_some_iff.1 found
  cases equal
  have noEscapes : ∀ word ∈ words, ∀ c ∈ word.1, c ≠ CodePoint.ofChar '\\' := by decide
  exact ⟨word.1, after?_eq_append matched, noEscapes word member⟩

end Numbers

/-! ## Tokens -/

/-- The texts in a token hold no unjoined surrogate pair. -/
def Token.IsJoined : Token → Prop
  | .text value => value.IsJoined
  | .literal value => value.IsJoined
  | _ => True

/-- A token that no state accepts. -/
def Token.IsFaulty : Token → Prop
  | .faultyString .. => True
  | .unknown => True
  | _ => False

theorem isJoined_integerToken (negative : Bool) (whole : Text) :
    (integerToken negative whole).IsJoined := by
  unfold integerToken
  split
  · trivial
  · exact isJoined_of_atom rfl rfl rfl

theorem readNumber?_isJoined {text rest : Text} {token : Token}
    (read : readNumber? text = some (token, rest)) : token.IsJoined := by
  unfold readNumber? at read
  simp only at read
  split at read
  · cases read
  · split at read
    · cases read
      exact isJoined_of_atom rfl rfl rfl
    · split at read
      · cases read
        exact isJoined_of_atom rfl rfl rfl
      · cases read
        exact isJoined_integerToken _ _

theorem readWord?_isJoined {text rest : Text} {token : Token}
    (read : readWord? text = some (token, rest)) : token.IsJoined := by
  obtain ⟨word, member, found⟩ := List.exists_of_findSome?_eq_some read
  obtain ⟨after, matched, equal⟩ := Option.map_eq_some_iff.1 found
  cases equal
  have atoms : ∀ word ∈ words,
      word.2.text? = none ∧ word.2.array?.isNone ∧ word.2.object?.isNone := by decide
  obtain ⟨noText, noArray, noObject⟩ := atoms word member
  exact isJoined_of_atom noText (Option.isNone_iff_eq_none.1 noArray)
    (Option.isNone_iff_eq_none.1 noObject)

theorem punctuation?_isJoined {c : CodePoint} {token : Token}
    (isToken : punctuation? c = some token) :
    token.IsJoined ∧ c ≠ CodePoint.ofChar '\\' := by
  have noEscape : c ≠ CodePoint.ofChar '\\' := by
    intro same
    have none : punctuation? (CodePoint.ofChar '\\') = none := by decide
    rw [same, none] at isToken
    cases isToken
  refine ⟨?_, noEscape⟩
  unfold punctuation? at isToken
  grind [Token.IsJoined]

/-- A string token is a text or faulty. -/
theorem readString_cases (opening before text : Text) :
    (∃ value, (readString opening before text).1 = .text value) ∨
      (readString opening before text).1.IsFaulty := by
  fun_induction readString opening before text with
  | case1 => exact .inr trivial
  | case2 before rest => exact .inl ⟨before.reverse, rfl⟩
  | case3 => exact .inr trivial
  | case4 => assumption
  | case5 => exact .inr trivial
  | case6 => assumption
  | case7 => exact .inr trivial
  | case8 => exact .inr trivial
  | case9 => assumption

/-- A token that is read is joined, and the text behind it still spells no pair, unless no state
accepts it. -/
theorem readToken_isJoined {c : CodePoint} {text rest : Text} {token : Token}
    (spelled : SpellsJoined (c :: text)) (read : readToken c text = (token, rest)) :
    token.IsFaulty ∨ (token.IsJoined ∧ SpellsJoined rest) := by
  unfold readToken at read
  split at read
  · rename_i isPunctuation
    cases read
    obtain ⟨joined, noEscape⟩ := punctuation?_isJoined isPunctuation
    exact .inr ⟨joined, (spelled.of_itself noEscape).2⟩
  · split at read
    · rename_i isQuote
      have behindQuote := (spelled.of_itself (by rw [isQuote]; decide)).2
      rcases readString_cases (c :: text) [] text with ⟨value, isText⟩ | faulty
      · rw [read] at isText
        cases isText
        have nothing : Text.IsJoined (List.reverse []) := Text.isJoined_nil
        exact .inr (readString_isJoined behindQuote nothing (fun last isLast => by cases isLast)
          read)
      · rw [read] at faulty
        exact .inl faulty
    · split at read
      · rename_i isWord
        cases read
        exact .inr ⟨readWord?_isJoined isWord, spelled.of_skips (readWord?_skips isWord)⟩
      · cases number : readNumber? (c :: text) with
        | none =>
            rw [number] at read
            cases read
            exact .inl trivial
        | some result =>
            obtain ⟨numberToken, behind⟩ := result
            rw [number] at read
            cases read
            exact .inr ⟨readNumber?_isJoined number, spelled.of_skips (readNumber?_skips number)⟩

/-! ## The machine -/

/-- The texts in an open container hold no unjoined surrogate pair. -/
def Frame.IsJoined : Frame → Prop
  | .array before => Json.IsJoined (.array before)
  | .object before name => Json.IsJoined (.object before) ∧ name.IsJoined

/-- The texts that a state remembers hold no unjoined surrogate pair. -/
def State.IsJoined : State → Prop
  | .value stack | .arrayStart stack | .objectStart stack => ∀ frame ∈ stack, frame.IsJoined
  | .name before stack => Json.IsJoined (.object before) ∧ ∀ frame ∈ stack, frame.IsJoined
  | .nameSeparator before label stack =>
      Json.IsJoined (.object before) ∧ label.IsJoined ∧ ∀ frame ∈ stack, frame.IsJoined
  | .complete whole stack => whole.IsJoined ∧ ∀ frame ∈ stack, frame.IsJoined

theorem beginValue_isJoined {stack : List Frame} {token : Token} {place : Text} {next : State}
    (joined : ∀ frame ∈ stack, frame.IsJoined) (tokenJoined : token.IsJoined)
    (begun : beginValue stack token place = .ok next) : next.IsJoined := by
  cases token with
  | text value =>
      cases begun
      exact ⟨isJoined_text_iff.2 tokenJoined, joined⟩
  | literal value =>
      cases begun
      exact ⟨tokenJoined, joined⟩
  | beginArray =>
      cases begun
      exact joined
  | beginObject =>
      cases begun
      exact joined
  | _ => cases begun

theorem beginMember_isJoined {before : Entries Json} {stack : List Frame} {token : Token}
    {place : Text} {next : State} (beforeJoined : Json.IsJoined (.object before))
    (joined : ∀ frame ∈ stack, frame.IsJoined) (tokenJoined : token.IsJoined)
    (begun : beginMember before stack token place = .ok next) : next.IsJoined := by
  cases token with
  | text name =>
      cases begun
      exact ⟨beforeJoined, tokenJoined, joined⟩
  | _ => cases begun

theorem isJoined_emptyArray : Json.IsJoined (.array []) :=
  isJoined_array_iff.2 fun item member => by cases member

theorem isJoined_emptyObject : Json.IsJoined (.object []) :=
  isJoined_object_iff.2 fun entry member => by cases member

/-- One token keeps a state joined. -/
theorem State.step_isJoined {state next : State} {token : Token} {place : Text}
    (joined : state.IsJoined) (tokenJoined : token.IsJoined)
    (stepped : state.step token place = .ok next) : next.IsJoined := by
  unfold State.step at stepped
  split at stepped
  · exact beginValue_isJoined joined tokenJoined stepped
  · cases stepped
    exact ⟨isJoined_emptyArray, joined⟩
  · have opened : Frame.IsJoined (.array []) := isJoined_emptyArray
    exact beginValue_isJoined (List.forall_mem_cons.2 ⟨opened, joined⟩) tokenJoined stepped
  · cases stepped
    exact ⟨isJoined_emptyObject, joined⟩
  · exact beginMember_isJoined isJoined_emptyObject joined tokenJoined stepped
  · exact beginMember_isJoined joined.1 joined.2 tokenJoined stepped
  · cases stepped
    exact List.forall_mem_cons.2 ⟨⟨joined.1, joined.2.1⟩, joined.2.2⟩
  · cases stepped
    obtain ⟨itemJoined, framesJoined⟩ := joined
    obtain ⟨arrayJoined, outerJoined⟩ := List.forall_mem_cons.1 framesJoined
    exact List.forall_mem_cons.2 ⟨isJoined_array_iff.2 (List.forall_mem_cons.2
      ⟨itemJoined, isJoined_array_iff.1 arrayJoined⟩), outerJoined⟩
  · cases stepped
    obtain ⟨itemJoined, framesJoined⟩ := joined
    obtain ⟨arrayJoined, outerJoined⟩ := List.forall_mem_cons.1 framesJoined
    refine ⟨isJoined_array_iff.2 fun item member => ?_, outerJoined⟩
    exact List.forall_mem_cons.2 ⟨itemJoined, isJoined_array_iff.1 arrayJoined⟩ item
      (List.mem_reverse.1 member)
  · cases stepped
    obtain ⟨itemJoined, framesJoined⟩ := joined
    obtain ⟨⟨beforeJoined, labelJoined⟩, outerJoined⟩ := List.forall_mem_cons.1 framesJoined
    exact ⟨beforeJoined.insert labelJoined itemJoined, outerJoined⟩
  · cases stepped
    obtain ⟨itemJoined, framesJoined⟩ := joined
    obtain ⟨⟨beforeJoined, labelJoined⟩, outerJoined⟩ := List.forall_mem_cons.1 framesJoined
    exact ⟨beforeJoined.insert labelJoined itemJoined, outerJoined⟩
  · cases stepped

/-- No state accepts a faulty token. -/
theorem State.step_of_isFaulty {state next : State} {token : Token} {place : Text}
    (faulty : token.IsFaulty) : state.step token place ≠ .ok next := by
  intro stepped
  have noValue : ∀ stack, beginValue stack token place ≠ .ok next := by
    intro stack begun
    cases token with
    | faultyString => cases begun
    | unknown => cases begun
    | _ => exact faulty
  have noMember : ∀ before stack, beginMember before stack token place ≠ .ok next := by
    intro before stack begun
    cases token with
    | faultyString => cases begun
    | unknown => cases begun
    | _ => exact faulty
  unfold State.step at stepped
  split at stepped
  · exact noValue _ stepped
  · exact faulty
  · exact noValue _ stepped
  · exact faulty
  · exact noMember _ _ stepped
  · exact noMember _ _ stepped
  · exact faulty
  · exact faulty
  · exact faulty
  · exact faulty
  · exact faulty
  · cases stepped

theorem State.finish_isJoined {state : State} {value : Json} (joined : state.IsJoined)
    (finished : state.finish = .ok value) : value.IsJoined := by
  unfold State.finish at finished
  split at finished
  · cases finished
    exact joined.1
  · cases finished

/-- A run over a text that spells no pair, from a joined state, ends in a joined value. -/
theorem run_isJoined {state : State} {text : Text} {value : Json} (joined : state.IsJoined)
    (spelled : SpellsJoined text) (completed : run state text = .ok value) : value.IsJoined := by
  have behindBlanks := spelled.of_skips (skips_dropWhile (by decide : isBlank _ = false) text)
  fun_induction run state text with
  | case1 => exact State.finish_isJoined joined completed
  | case2 => cases completed
  | case3 state text c rest blanks next stepped inductionHypothesis =>
      rw [blanks] at behindBlanks
      rcases readToken_isJoined behindBlanks rfl with faulty | ⟨tokenJoined, restSpelled⟩
      · exact absurd stepped (State.step_of_isFaulty faulty)
      · exact inductionHypothesis (State.step_isJoined joined tokenJoined stepped) restSpelled
          completed (restSpelled.of_skips (skips_dropWhile (by decide) _))

/-- **Reading makes no unjoined surrogate pairs.** -/
theorem read_isJoined {text : Text} {value : Json} (spelled : SpellsJoined text)
    (read : Json.read text = .ok value) : value.IsJoined := by
  unfold Json.read at read
  split at read
  · cases read
  · cases completed : run (.value []) text with
    | error stop =>
        rw [completed] at read
        cases read
    | ok whole =>
        rw [completed] at read
        cases read
        have nothing : State.IsJoined (.value []) := fun frame member => by cases member
        exact run_isJoined nothing spelled completed

/-- A surrogate that stands as it is in front of an escape is not joined with it. -/
example : Json.read (Text.ofString "\"" ++ ⟨0xD83D, by decide⟩ :: Text.ofString "\\ude00\"") =
    .ok (.text [⟨0xD83D, by decide⟩, ⟨0xDE00, by decide⟩]) := by with_unfolding_all rfl

end Findings.Json
