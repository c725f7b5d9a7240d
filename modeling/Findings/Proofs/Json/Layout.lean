import Findings.Json.Reader
import Findings.Json.Writer

/-!
Contract: the layouts in which JSON text can be written.

Owns:
- `Layout`, the blanks that stand around the items and members of containers;
- `renderWith` and `writeWith`, the written form of a value in a layout;
- the layout on one line, and the indented one, in which the program writes.

Blanks mean nothing to a reader, so what is proved of reading back is proved of all layouts.
-/

set_option autoImplicit false

namespace Findings.Json

/-- The blanks in written containers. -/
structure Layout where
  /-- In front of every item, every member and every closing bracket, by the level of it. -/
  newline : Nat → Text
  afterComma : Text
  afterColon : Text
  newline_isBlank : ∀ level, ∀ c ∈ newline level, isBlank c = true
  afterComma_isBlank : ∀ c ∈ afterComma, isBlank c = true
  afterColon_isBlank : ∀ c ∈ afterColon, isBlank c = true

section Writing

variable (layout : Layout)

mutual

/-- The written form of a value whose first line stands at a level of indentation. -/
def renderWith (level : Nat) : Json → Text
  | .null => "null"
  | .bool true => "true"
  | .bool false => "false"
  | .int value => Text.ofInt value
  | .real value => renderReal value
  | .text value => renderText value
  | .array [] => "[]"
  | .array (first :: items) =>
      Text.ofString "[" ++ (layout.newline (level + 1) ++ (renderWith (level + 1) first
        ++ (renderItemsWith (level + 1) items ++ (layout.newline level ++ Text.ofString "]"))))
  | .object [] => "\x7b\x7d"
  | .object ((name, first) :: members) =>
      Text.ofString "\x7b" ++ (layout.newline (level + 1) ++ (renderText name
        ++ (Text.ofString ":" ++ (layout.afterColon ++ (renderWith (level + 1) first
          ++ (renderMembersWith (level + 1) members
            ++ (layout.newline level ++ Text.ofString "\x7d")))))))

/-- The written form of the items after the first one. -/
def renderItemsWith (level : Nat) : List Json → Text
  | [] => []
  | item :: items =>
      Text.ofString "," ++ (layout.afterComma ++ (layout.newline level
        ++ (renderWith level item ++ renderItemsWith level items)))

/-- The written form of the members after the first one. -/
def renderMembersWith (level : Nat) : List (Text × Json) → Text
  | [] => []
  | (name, value) :: members =>
      Text.ofString "," ++ (layout.afterComma ++ (layout.newline level ++ (renderText name
        ++ (Text.ofString ":" ++ (layout.afterColon
          ++ (renderWith level value ++ renderMembersWith level members))))))

end

end Writing

/-- Write a value in a layout, unless it holds an integer of too many digits. -/
def writeWith (layout : Layout) (value : Json) : Except WriteError Text :=
  if value.isWritable then .ok (renderWith layout 0 value) else .error .excessiveInteger

namespace Layout

/-- Everything on one line, with a blank behind every comma and colon. -/
def line : Layout where
  newline _ := []
  afterComma := " "
  afterColon := " "
  newline_isBlank := by simp
  afterComma_isBlank := by decide
  afterColon_isBlank := by decide

/-- Items and members on lines of their own. -/
def indented : Layout where
  newline := Json.newline
  afterComma := []
  afterColon := " "
  newline_isBlank := by
    intro level c member
    rcases List.mem_cons.1 member with isLineFeed | isSpace
    · rw [isLineFeed]
      decide
    · rw [List.eq_of_mem_replicate isSpace]
      decide
  afterComma_isBlank := by simp
  afterColon_isBlank := by decide

end Layout

/-! ## The indented layout -/

mutual

theorem renderWith_indented : ∀ (value : Json) (level : Nat),
    renderWith .indented level value = renderAt level value
  | .null, _ => rfl
  | .bool true, _ => rfl
  | .bool false, _ => rfl
  | .int _, _ => rfl
  | .real _, _ => rfl
  | .text _, _ => rfl
  | .array [], _ => rfl
  | .array (first :: items), level => by
      rw [renderWith, renderAt, renderWith_indented first, renderItemsWith_indented items]
      rfl
  | .object [], _ => rfl
  | .object ((name, first) :: members), level => by
      rw [renderWith, renderAt, renderWith_indented first, renderMembersWith_indented members]
      rfl

theorem renderItemsWith_indented : ∀ (items : List Json) (level : Nat),
    renderItemsWith .indented level items = renderItems level items
  | [], _ => rfl
  | item :: items, level => by
      rw [renderItemsWith, renderItems, renderWith_indented item, renderItemsWith_indented items]
      rfl

theorem renderMembersWith_indented : ∀ (members : List (Text × Json)) (level : Nat),
    renderMembersWith .indented level members = renderMembers level members
  | [], _ => rfl
  | (name, value) :: members, level => by
      rw [renderMembersWith, renderMembers, renderWith_indented value,
        renderMembersWith_indented members]
      rfl

end

/-- The program writes in the indented layout. -/
theorem writeWith_indented (value : Json) : value.writeWith .indented = value.write := by
  unfold writeWith write render
  rw [renderWith_indented]

end Findings.Json
