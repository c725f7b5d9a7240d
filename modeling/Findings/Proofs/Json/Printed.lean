import Findings.Proofs.Json.Strings
import Findings.Proofs.Text.Numerals

/-!
Contract: the characters of written text.

Owns: `isPrinted_render`, that written text consists of line feeds and the printable characters of
ASCII, whatever the value; and the same of the parts of written text.
-/

set_option autoImplicit false

namespace Findings

namespace Text

/-- Nothing but line feeds and the printable characters of ASCII. -/
def IsPrinted (text : Text) : Prop :=
  ∀ c ∈ text, c = CodePoint.ofChar '\n' ∨ c.within 0x20 0x7E = true

instance (text : Text) : Decidable text.IsPrinted := by
  unfold IsPrinted
  infer_instance

theorem isPrinted_append_iff {left right : Text} :
    IsPrinted (left ++ right) ↔ left.IsPrinted ∧ right.IsPrinted :=
  List.forall_mem_append

theorem IsPrinted.append {left right : Text} (leftPrinted : left.IsPrinted)
    (rightPrinted : right.IsPrinted) : IsPrinted (left ++ right) :=
  isPrinted_append_iff.2 ⟨leftPrinted, rightPrinted⟩

theorem IsPrinted.cons {c : CodePoint} (range : c.within 0x20 0x7E = true) {text : Text}
    (printed : text.IsPrinted) : IsPrinted (c :: text) :=
  List.forall_mem_cons.2 ⟨.inr range, printed⟩

theorem IsPrinted.of_subset {text part : Text} (printed : text.IsPrinted) (inside : part ⊆ text) :
    part.IsPrinted := fun c member => printed c (inside member)

theorem IsPrinted.isSurrogateFree {text : Text} (printed : text.IsPrinted) :
    text.IsSurrogateFree := by
  intro c member
  rcases printed c member with isLineFeed | range
  · rw [isLineFeed]
    exact CodePoint.isSurrogate_ofChar _
  · have bounds := CodePoint.within_eq_true_iff.1 range
    exact CodePoint.within_eq_false_iff.2 (by omega)

theorem isPrinted_replicate {c : CodePoint} (range : c.within 0x20 0x7E = true) (count : Nat) :
    IsPrinted (replicate count c) := by
  intro other member
  rw [List.eq_of_mem_replicate member]
  exact .inr range

/-! ## Numerals -/

theorem isPrinted_ofNat (n : Nat) : IsPrinted (ofNat n) := by
  intro c member
  have bounds := CodePoint.within_eq_true_iff.1 (isDigit_of_mem_ofNat member)
  exact .inr (CodePoint.within_eq_true_iff.2 (by omega))

theorem isPrinted_ofInt (n : Int) : IsPrinted (ofInt n) := by
  cases n with
  | ofNat n => exact isPrinted_ofNat n
  | negSucc n =>
      exact (isPrinted_ofNat (n + 1)).cons (by decide)

theorem isPrinted_hexadecimal (width n : Nat) : IsPrinted (hexadecimal width n) := by
  induction width generalizing n with
  | zero => exact fun c member => by cases member
  | succ width inductionHypothesis =>
      refine (inductionHypothesis (n / 16)).append fun c member => ?_
      have value := CodePoint.hexDigit_val n
      rw [List.mem_singleton.1 member]
      refine .inr (CodePoint.within_eq_true_iff.2 ?_)
      split at value <;> omega

end Text

open Text

namespace Binary64

theorem isPrinted_layout (number : Decimal) : (layout number).IsPrinted := by
  have digits := isPrinted_ofNat number.digits
  have taken : ∀ count, IsPrinted (List.take count (Text.ofNat number.digits)) := fun count =>
    digits.of_subset (List.take_subset _ _)
  have dropped : ∀ count, IsPrinted (List.drop count (Text.ofNat number.digits)) := fun count =>
    digits.of_subset (List.drop_subset _ _)
  have zeros : ∀ count, IsPrinted (Text.replicate count '0') := fun count =>
    isPrinted_replicate (by decide) count
  unfold layout
  simp only
  split
  · split
    · exact (IsPrinted.append (by decide) (zeros _)).append digits
    · split
      · exact (digits.append (zeros _)).append (by decide)
      · exact ((taken _).append (by decide)).append (dropped _)
  · have fraction : IsPrinted (if (Text.ofNat number.digits).length = 1 then []
        else CodePoint.ofChar '.' :: List.drop 1 (Text.ofNat number.digits)) := by
      split
      · decide
      · exact (dropped 1).cons (by decide)
    have sign : ∀ negative : Prop, [Decidable negative] →
        IsPrinted (Text.ofString (if negative then "e-" else "e+")) := by
      intro negative _
      split <;> decide
    have power : ∀ n, IsPrinted (if (Text.ofNat n).length < 2 then
        CodePoint.ofChar '0' :: Text.ofNat n else Text.ofNat n) := by
      intro n
      split
      · exact (isPrinted_ofNat n).cons (by decide)
      · exact isPrinted_ofNat n
    exact (((taken 1).append fraction).append (sign _)).append (power _)

theorem isPrinted_finiteText (negative : Bool) (mantissa : Nat) (exponent : Int) :
    (finiteText negative mantissa exponent).IsPrinted := by
  unfold finiteText
  refine IsPrinted.append ?_ ?_
  · split <;> decide
  · split
    · decide
    · exact isPrinted_layout _

end Binary64

namespace Json

/-! ## Values -/

theorem isPrinted_unitEscape (unit : Nat) : (unitEscape unit).IsPrinted :=
  IsPrinted.append (by decide) (isPrinted_hexadecimal 4 unit)

theorem isPrinted_spelled {c : CodePoint} {spelling : Text} (spelled : Spelled c spelling) :
    spelling.IsPrinted := by
  cases spelled with
  | itself range _ _ => exact IsPrinted.cons range (by decide)
  | letter _ _ range => exact IsPrinted.cons (by decide) (IsPrinted.cons range (by decide))
  | unit _ => exact isPrinted_unitEscape _
  | pair _ => exact (isPrinted_unitEscape _).append (isPrinted_unitEscape _)

theorem isPrinted_renderText (text : Text) : (renderText text).IsPrinted := by
  unfold renderText
  refine IsPrinted.append (IsPrinted.cons (by decide) ?_) (by decide)
  intro c member
  obtain ⟨point, _, inPoint⟩ := List.mem_flatMap.1 member
  exact isPrinted_spelled (spelled_escapedPoint point) c inPoint

theorem isPrinted_newline (level : Nat) : (newline level).IsPrinted :=
  List.forall_mem_cons.2 ⟨.inl rfl, isPrinted_replicate (by decide) _⟩

theorem isPrinted_renderReal (value : Binary64) : (renderReal value).IsPrinted := by
  unfold renderReal
  split
  · decide
  · decide
  · decide
  · exact Binary64.isPrinted_finiteText _ _ _

mutual

/-- The written form of a value is printed at every level of indentation. -/
theorem isPrinted_renderAt (level : Nat) : ∀ value : Json, (renderAt level value).IsPrinted
  | .null => by
      rw [renderAt]
      decide
  | .bool true => by
      rw [renderAt]
      decide
  | .bool false => by
      rw [renderAt]
      decide
  | .int value => by
      rw [renderAt]
      exact isPrinted_ofInt value
  | .real value => by
      rw [renderAt]
      exact isPrinted_renderReal value
  | .text value => by
      rw [renderAt]
      exact isPrinted_renderText value
  | .array [] => by
      rw [renderAt]
      decide
  | .array (first :: items) => by
      have firstPrinted := isPrinted_renderAt (level + 1) first
      have itemsPrinted := isPrinted_renderItems (level + 1) items
      have closing : Text.IsPrinted (newline level ++ Text.ofString "]") :=
        (isPrinted_newline level).append (by decide)
      rw [renderAt]
      exact IsPrinted.append (by decide) ((isPrinted_newline _).append
        (firstPrinted.append (itemsPrinted.append closing)))
  | .object [] => by
      rw [renderAt]
      decide
  | .object ((name, first) :: members) => by
      have firstPrinted := isPrinted_renderAt (level + 1) first
      have membersPrinted := isPrinted_renderMembers (level + 1) members
      have closing : Text.IsPrinted (newline level ++ Text.ofString "\x7d") :=
        (isPrinted_newline level).append (by decide)
      rw [renderAt]
      exact IsPrinted.append (by decide) ((isPrinted_newline _).append
        ((isPrinted_renderText name).append (IsPrinted.append (by decide)
          (firstPrinted.append (membersPrinted.append closing)))))

theorem isPrinted_renderItems (level : Nat) :
    ∀ items : List Json, (renderItems level items).IsPrinted
  | [] => by
      rw [renderItems]
      decide
  | item :: items => by
      have itemPrinted := isPrinted_renderAt level item
      have itemsPrinted := isPrinted_renderItems level items
      rw [renderItems]
      exact IsPrinted.append (by decide) ((isPrinted_newline level).append
        (itemPrinted.append itemsPrinted))

theorem isPrinted_renderMembers (level : Nat) :
    ∀ members : List (Text × Json), (renderMembers level members).IsPrinted
  | [] => by
      rw [renderMembers]
      decide
  | (name, value) :: members => by
      have valuePrinted := isPrinted_renderAt level value
      have membersPrinted := isPrinted_renderMembers level members
      rw [renderMembers]
      exact IsPrinted.append (by decide) ((isPrinted_newline level).append
        ((isPrinted_renderText name).append (IsPrinted.append (by decide)
          (valuePrinted.append membersPrinted))))

end

/-- **Written text consists of line feeds and the printable characters of ASCII.** -/
theorem isPrinted_render (value : Json) : value.render.IsPrinted := isPrinted_renderAt 0 value

end Json

end Findings
