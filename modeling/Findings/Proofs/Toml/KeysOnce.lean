import Findings.Proofs.Entries
import Findings.Proofs.Except
import Findings.Toml.Document

/-!
Contract: documents whose tables hold every key once.

Owns:
- `Value.HasKeysOnce`, a value of which no table holds a key twice, at any depth;
- every change of a table keeps to this, and so does every step of the two readers, of values and of
  statements: what is read has every key once (`hasKeysOnce_read`).
-/

set_option autoImplicit false

namespace Findings

namespace Entries

universe u

variable {α : Type u} {key : Text} {value : α} {entries : Entries α}

/-- An insertion keeps every key once. -/
theorem nodup_keys_insert (once : entries.keys.Nodup) : (insert key value entries).keys.Nodup := by
  induction entries with
  | nil => exact List.nodup_cons.2 ⟨List.not_mem_nil, List.nodup_nil⟩
  | cons entry entries inductionHypothesis =>
      obtain ⟨name, old⟩ := entry
      obtain ⟨fresh, onceBehind⟩ := List.nodup_cons.1 once
      rw [insert]
      split
      case isTrue => exact once
      case isFalse different =>
        refine List.nodup_cons.2 ⟨fun again => ?_, inductionHypothesis onceBehind⟩
        obtain ⟨⟨_, other⟩, member, rfl⟩ := List.mem_map.1 again
        rcases mem_insert member with isNew | isOld
        · cases isNew
          exact different rfl
        · exact fresh (mem_keys isOld)

end Entries

namespace Toml

/-- No table of a value holds a key twice. -/
inductive Value.HasKeysOnce : Value → Prop where
  | scalar {value : Value} (plain : value.isContainer = false) : HasKeysOnce value
  | array {items : List Value} (inside : ∀ item ∈ items, HasKeysOnce item) :
      HasKeysOnce (.array items)
  | table {members : Table} (once : members.keys.Nodup)
      (inside : ∀ entry ∈ members, HasKeysOnce entry.2) : HasKeysOnce (.table members)

/-! ## Tables -/

section Tables

variable {table : Table} {name : Text} {value : Value}

theorem hasKeysOnce_empty : (Value.table []).HasKeysOnce :=
  .table List.nodup_nil (List.forall_mem_nil _)

theorem Value.HasKeysOnce.nodup_keys (has : (Value.table table).HasKeysOnce) :
    table.keys.Nodup := by
  cases has with
  | scalar plain => cases plain
  | table once inside => exact once

theorem Value.HasKeysOnce.of_find? (has : (Value.table table).HasKeysOnce)
    (found : Entries.find? name table = some value) : value.HasKeysOnce := by
  cases has with
  | scalar plain => cases plain
  | table once inside => exact inside _ (Entries.mem_of_find? found)

theorem Value.HasKeysOnce.of_mem {items : List Value} (has : (Value.array items).HasKeysOnce)
    (member : value ∈ items) : value.HasKeysOnce := by
  cases has with
  | scalar plain => cases plain
  | array inside => exact inside _ member

theorem Value.HasKeysOnce.insert (has : (Value.table table).HasKeysOnce)
    (added : value.HasKeysOnce) : (Value.table (Entries.insert name value table)).HasKeysOnce := by
  cases has with
  | scalar plain => cases plain
  | table once inside =>
      refine .table (Entries.nodup_keys_insert once) fun entry member => ?_
      rcases Entries.mem_insert member with rfl | isOld
      · exact added
      · exact inside entry isOld

/-- A change of tables keeps every key once. -/
def KeepsKeysOnce (change : Table → Option Table) : Prop :=
  ∀ table next, (Value.table table).HasKeysOnce → change table = some next →
    (Value.table next).HasKeysOnce

theorem keepsKeysOnce_some : KeepsKeysOnce some := by
  rintro table _ has ⟨⟩
  exact has

/-- A change behind a key keeps to it if the change does. -/
theorem KeepsKeysOnce.changeBehind {change : Table → Option Table} (keeps : KeepsKeysOnce change)
    (arrays : Table.ArrayAccess) (key : Key) :
    KeepsKeysOnce (Table.changeBehind arrays change key) := by
  induction key with
  | nil => exact keeps
  | cons name key inductionHypothesis =>
      intro table next has changed
      rw [Table.changeBehind] at changed
      split at changed
      case h_1 =>
        obtain ⟨inner, isInner, rfl⟩ := Option.map_eq_some_iff.1 changed
        exact has.insert (inductionHypothesis _ _ hasKeysOnce_empty isInner)
      case h_2 members found =>
        obtain ⟨inner, isInner, rfl⟩ := Option.map_eq_some_iff.1 changed
        exact has.insert (inductionHypothesis _ _ (has.of_find? found) isInner)
      case h_3 items found =>
        split at changed
        case h_1 members isLast =>
          obtain ⟨inner, isInner, rfl⟩ := Option.map_eq_some_iff.1 changed
          have hasItems := has.of_find? found
          have hasLast := hasItems.of_mem (List.mem_of_getLast? isLast)
          refine has.insert (.array fun item member => ?_)
          rcases List.mem_append.1 member with inFront | isNew
          · exact hasItems.of_mem (List.dropLast_subset items inFront)
          · rw [List.mem_singleton.1 isNew]
            exact inductionHypothesis _ _ hasLast isInner
        case h_2 => cases changed
      case h_4 => cases changed

theorem keepsKeysOnce_addMember (added : value.HasKeysOnce) (name : Text) :
    KeepsKeysOnce (Table.addMember name value) := by
  intro table next has changed
  unfold Table.addMember at changed
  split at changed
  · cases changed
    exact has.insert added
  · cases changed

theorem keepsKeysOnce_addToArray (name : Text) : KeepsKeysOnce (Table.addToArray name) := by
  intro table next has changed
  unfold Table.addToArray at changed
  split at changed
  case h_1 =>
    cases changed
    exact has.insert (.array (List.forall_mem_singleton.2 hasKeysOnce_empty))
  case h_2 items found =>
    cases changed
    refine has.insert (.array fun item member => ?_)
    rcases List.mem_append.1 member with isOld | isNew
    · exact (has.of_find? found).of_mem isOld
    · rw [List.mem_singleton.1 isNew]
      exact hasKeysOnce_empty
  case h_3 => cases changed

end Tables

/-! ## Values -/

section Values

variable {text rest : Text} {value : Value}

theorem isContainer_word? {words : List (Text × Value)}
    (plain : ∀ word ∈ words, word.2.isContainer = false)
    (read : word? words text = some (value, rest)) : value.isContainer = false := by
  obtain ⟨word, listed, found⟩ := List.exists_of_findSome?_eq_some read
  obtain ⟨_, _, isRead⟩ := Option.map_eq_some_iff.1 found
  cases isRead
  exact plain word listed

theorem isContainer_moment? {result : Except Stop Value}
    (read : moment? text = some (result, rest)) (isValue : result = .ok value) :
    value.isContainer = false := by
  subst isValue
  unfold moment? at read
  split at read
  · split at read
    · cases read
      rfl
    · cases read
  · obtain ⟨_, _, isRead⟩ := Option.map_eq_some_iff.1 read
    cases isRead
    rfl

theorem isContainer_basedInteger? (read : basedInteger? text = some (value, rest)) :
    value.isContainer = false := by
  unfold basedInteger? at read
  split at read
  · split at read
    · obtain ⟨_, _, isRead⟩ := Option.map_eq_some_iff.1 read
      cases isRead
      rfl
    · cases read
  · cases read

theorem isContainer_decimalNumber? {result : Except Stop Value}
    (read : decimalNumber? text = some (result, rest)) (isValue : result = .ok value) :
    value.isContainer = false := by
  subst isValue
  unfold decimalNumber? at read
  dsimp only at read
  split at read
  · cases read
  · split at read
    · have isInteger := (Prod.mk.inj (Option.some.inj read)).1
      unfold decimalInteger at isInteger
      split at isInteger
      · cases isInteger
      · cases isInteger
        rfl
    · cases (Prod.mk.inj (Option.some.inj read)).1
      rfl

theorem withRest_eq_ok {result : Except Stop Value × Text}
    (read : withRest result = .ok (value, rest)) : result = (.ok value, rest) := by
  obtain ⟨_ | _, _⟩ := result
  · cases read
  · cases read
    rfl

theorem isContainer_readPlainScalar (read : readPlainScalar text = .ok (value, rest)) :
    value.isContainer = false := by
  unfold readPlainScalar at read
  split at read
  case h_1 isWord =>
    cases read
    exact isContainer_word? (by simp [Value.isContainer]) isWord
  case h_2 =>
    split at read
    case h_1 isMoment =>
      rw [withRest_eq_ok read] at isMoment
      exact isContainer_moment? isMoment rfl
    case h_2 =>
      split at read
      case h_1 isInteger =>
        cases read
        exact isContainer_basedInteger? isInteger
      case h_2 =>
        split at read
        case h_1 isNumber =>
          rw [withRest_eq_ok read] at isNumber
          exact isContainer_decimalNumber? isNumber rfl
        case h_2 =>
          split at read
          case h_1 isWord =>
            cases read
            exact isContainer_word? (by simp [numberWords, Value.isContainer]) isWord
          case h_2 => cases read

end Values

/-! ## The machine -/

/-- The values that an open container holds so far have every key once. -/
def Frame.HasKeysOnce : Frame → Prop
  | .array before => ∀ item ∈ before, item.HasKeysOnce
  | .inlineTable opened _ => (Value.table opened.members).HasKeysOnce

/-- All that is read so far has every key once. -/
def State.HasKeysOnce : State → Prop
  | .value stack => ∀ frame ∈ stack, frame.HasKeysOnce
  | .complete result stack => result.HasKeysOnce ∧ ∀ frame ∈ stack, frame.HasKeysOnce

section Machine

variable {stack : List Frame} {text rest : Text} {state : State}

theorem nextItem_hasKeysOnce {before : List Value} (has : ∀ item ∈ before, item.HasKeysOnce)
    (onStack : ∀ frame ∈ stack, frame.HasKeysOnce)
    (read : nextItem before stack text = .ok (state, rest)) : state.HasKeysOnce := by
  have goesOn : ∀ frame ∈ Frame.array before :: stack, frame.HasKeysOnce :=
    List.forall_mem_cons.2 ⟨has, onStack⟩
  unfold nextItem at read
  split at read
  · cases read
  · cases read
    exact goesOn
  · split at read
    · cases read
      exact ⟨.array fun item member => has item (List.mem_reverse.1 member), onStack⟩
    · cases read
      exact goesOn

theorem nextMember_hasKeysOnce {opened : OpenTable}
    (has : (Value.table opened.members).HasKeysOnce)
    (onStack : ∀ frame ∈ stack, frame.HasKeysOnce)
    (read : nextMember opened stack text = .ok (state, rest)) : state.HasKeysOnce := by
  obtain ⟨_, _, isRead⟩ := map_eq_ok_iff.1 read
  cases isRead
  exact List.forall_mem_cons.2 ⟨has, onStack⟩

theorem beginValue_hasKeysOnce (onStack : ∀ frame ∈ stack, frame.HasKeysOnce)
    (read : beginValue stack text = .ok (state, rest)) : state.HasKeysOnce := by
  unfold beginValue at read
  split at read
  · cases read
  split at read
  · exact nextItem_hasKeysOnce (List.forall_mem_nil _) onStack read
  split at read
  · unfold beginInlineTable at read
    split at read
    · exact nextMember_hasKeysOnce hasKeysOnce_empty onStack read
    · split at read
      · cases read
        exact ⟨hasKeysOnce_empty, onStack⟩
      · exact nextMember_hasKeysOnce hasKeysOnce_empty onStack read
  split at read
  · obtain ⟨_, _, isRead⟩ := map_eq_ok_iff.1 read
    cases isRead
    exact ⟨.scalar rfl, onStack⟩
  · obtain ⟨_, isScalar, isRead⟩ := map_eq_ok_iff.1 read
    cases isRead
    exact ⟨.scalar (isContainer_readPlainScalar isScalar), onStack⟩

theorem OpenTable.add_hasKeysOnce {opened next : OpenTable} {key : Key} {value : Value}
    (has : (Value.table opened.members).HasKeysOnce) (added : value.HasKeysOnce)
    (isAdded : opened.add key value = .ok next) : (Value.table next.members).HasKeysOnce := by
  unfold OpenTable.add at isAdded
  split at isAdded
  · cases isAdded
  split at isAdded
  · cases isAdded
  split at isAdded
  · cases isAdded
  · rename_i members changed
    cases isAdded
    exact (keepsKeysOnce_addMember added _).changeBehind _ _ _ _ has changed

theorem afterValue_hasKeysOnce {value : Value} {frame : Frame} (has : value.HasKeysOnce)
    (inFrame : frame.HasKeysOnce) (onStack : ∀ frame ∈ stack, frame.HasKeysOnce)
    (read : afterValue value frame stack text = .ok (state, rest)) : state.HasKeysOnce := by
  cases frame with
  | array before =>
      have items : ∀ item ∈ value :: before, item.HasKeysOnce :=
        List.forall_mem_cons.2 ⟨has, inFrame⟩
      unfold afterValue afterItem at read
      dsimp only at read
      split at read
      · cases read
      · cases read
      · split at read
        · cases read
          exact ⟨.array fun item member => items item (List.mem_reverse.1 member), onStack⟩
        · split at read
          · exact nextItem_hasKeysOnce items onStack read
          · cases read
  | inlineTable opened key =>
      unfold afterValue at read
      dsimp only at read
      split at read
      · cases read
      · rename_i next isAdded
        have hasNext := OpenTable.add_hasKeysOnce inFrame has isAdded
        unfold afterMember at read
        split at read
        · cases read
        · split at read
          · cases read
            exact ⟨hasNext, onStack⟩
          · split at read
            · exact nextMember_hasKeysOnce hasNext onStack read
            · cases read

/-- The steps of the machine keep every key once, and so does a whole run. -/
theorem run_hasKeysOnce {value : Value} (has : state.HasKeysOnce)
    (read : run state text = .ok (value, rest)) : value.HasKeysOnce := by
  fun_induction run state text with
  | case1 => cases read
  | case2 text stack next after begun inductionHypothesis =>
      exact inductionHypothesis (beginValue_hasKeysOnce has begun) read
  | case3 =>
      cases read
      exact has.1
  | case4 => cases read
  | case5 text value frame stack next after goesOn inductionHypothesis =>
      obtain ⟨hasValue, onStack⟩ := has
      obtain ⟨inFrame, behind⟩ := List.forall_mem_cons.1 onStack
      exact inductionHypothesis (afterValue_hasKeysOnce hasValue inFrame behind goesOn) read

theorem readValue_hasKeysOnce {value : Value} (read : readValue text = .ok (value, rest)) :
    value.HasKeysOnce := by
  have start : (State.value []).HasKeysOnce := List.forall_mem_nil _
  exact run_hasKeysOnce start read

end Machine

/-! ## Documents -/

/-- The table of a document has every key once. -/
def Document.HasKeysOnce (document : Document) : Prop := (Value.table document.table).HasKeysOnce

section Documents

variable {document next : Document} {text rest : Text} {key : Key}

theorem Document.assign_hasKeysOnce {value : Value} (has : document.HasKeysOnce)
    (added : value.HasKeysOnce) (assigned : document.assign key value = .ok next) :
    next.HasKeysOnce := by
  unfold Document.assign at assigned
  dsimp only at assigned
  split at assigned
  · cases assigned
  split at assigned
  · cases assigned
  split at assigned
  · cases assigned
  · rename_i table changed
    cases assigned
    exact (keepsKeysOnce_addMember added _).changeBehind _ _ _ _ has changed

theorem Document.openTable_hasKeysOnce (has : document.HasKeysOnce)
    (opened : document.openTable key = .ok next) : next.HasKeysOnce := by
  unfold Document.openTable at opened
  split at opened
  · cases opened
  split at opened
  · cases opened
  · rename_i table changed
    cases opened
    exact keepsKeysOnce_some.changeBehind _ _ _ _ has changed

theorem Document.openArrayItem_hasKeysOnce (has : document.HasKeysOnce)
    (opened : document.openArrayItem key = .ok next) : next.HasKeysOnce := by
  unfold Document.openArrayItem at opened
  split at opened
  · cases opened
  split at opened
  · cases opened
  · rename_i table changed
    cases opened
    exact (keepsKeysOnce_addToArray _).changeBehind _ _ _ _ has changed

theorem readAssignment_hasKeysOnce (has : document.HasKeysOnce)
    (read : readAssignment document text = .ok (next, rest)) : next.HasKeysOnce := by
  unfold readAssignment at read
  split at read
  · cases read
  split at read
  · cases read
  · rename_i isValue
    split at read
    · cases read
    · rename_i assigned
      cases read
      exact document.assign_hasKeysOnce has (readValue_hasKeysOnce isValue) assigned

theorem readHeading_hasKeysOnce {opening : Key → Except Fault Document} {closing : Text}
    {unclosed : Fault}
    (keeps : ∀ key document, opening key = .ok document → document.HasKeysOnce)
    (read : readHeading opening closing unclosed text = .ok (next, rest)) : next.HasKeysOnce := by
  unfold readHeading at read
  split at read
  · cases read
  split at read
  · cases read
  · rename_i opened
    split at read
    · cases read
    · cases read
      exact keeps _ _ opened

theorem readStatement_hasKeysOnce {c : CodePoint} (has : document.HasKeysOnce)
    (read : readStatement document c text = .ok (next, rest)) : next.HasKeysOnce := by
  have opensTable : ∀ key next, document.endTable.openTable key = .ok next → next.HasKeysOnce :=
    fun key next opened => document.endTable.openTable_hasKeysOnce has opened
  have opensItem : ∀ key next, document.endTable.openArrayItem key = .ok next →
      next.HasKeysOnce :=
    fun key next opened => document.endTable.openArrayItem_hasKeysOnce has opened
  unfold readStatement at read
  split at read
  · exact readAssignment_hasKeysOnce has read
  split at read
  · unfold readAnyHeading at read
    split at read
    · exact readHeading_hasKeysOnce opensTable read
    · split at read
      · exact readHeading_hasKeysOnce opensItem read
      · exact readHeading_hasKeysOnce opensTable read
  split at read
  · cases read
    exact has
  · cases read

/-- Every statement keeps every key once, and so do all together. -/
theorem readStatements_hasKeysOnce (has : document.HasKeysOnce)
    (read : readStatements document text = .ok next) : next.HasKeysOnce := by
  fun_induction readStatements document text with
  | case1 =>
      cases read
      exact has
  | case2 document text rest blanks inductionHypothesis => exact inductionHypothesis has read
  | case3 => cases read
  | case4 => cases read
  | case5 =>
      cases read
      exact readStatement_hasKeysOnce has ‹_›
  | case6 =>
      rename_i inductionHypothesis
      exact inductionHypothesis (readStatement_hasKeysOnce has ‹_›) read

end Documents

/-- **Keys.**  A document that is read has every key once, and so has every table in it. -/
theorem hasKeysOnce_read {text : Text} {table : Table} (isRead : read text = .ok table) :
    (Value.table table).HasKeysOnce := by
  unfold read at isRead
  split at isRead
  · cases isRead
  · rename_i document statements
    cases isRead
    have start : Document.HasKeysOnce {} := hasKeysOnce_empty
    exact readStatements_hasKeysOnce start statements

end Toml

end Findings
