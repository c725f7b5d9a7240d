import Findings.Json.Reader
import Findings.Proofs.Entries
import Findings.Proofs.Json.Joined
import Findings.Proofs.Json.Layout
import Findings.Proofs.Json.Printed
import Findings.Proofs.Json.Tokens

/-!
Contract: written values are read back.

Owns:
- `Json.IsPlain`, the values that text can tell apart: no floating point numbers, no unjoined
  surrogate pairs, no name twice in an object;
- `read_of_writeWith`: a plain value whose integers are short enough is read back from its written
  form, in whatever layout.

The machine is followed through a written value from a state that waits for it to the state in
which it is complete, whatever containers are open around it.
-/

set_option autoImplicit false

namespace Findings.Json

/-- Values without floating point numbers and unjoined surrogate pairs, and with each name once in
an object. -/
inductive IsPlain : Json → Prop where
  | null : IsPlain .null
  | bool (value : Bool) : IsPlain (.bool value)
  | int (value : Int) : IsPlain (.int value)
  | text {value : Text} (joined : value.IsJoined) : IsPlain (.text value)
  | array {items : List Json} (arePlain : ∀ item ∈ items, IsPlain item) : IsPlain (.array items)
  | object {members : List (Text × Json)} (nodup : (Entries.keys members).Nodup)
      (names : ∀ member ∈ members, member.1.IsJoined)
      (arePlain : ∀ member ∈ members, IsPlain member.2) : IsPlain (.object members)

theorem areWritable_iff (items : List Json) :
    areWritable items = true ↔ ∀ item ∈ items, item.isWritable = true := by
  induction items with
  | nil => simp [areWritable]
  | cons item items inductionHypothesis => simp [areWritable, inductionHypothesis]

theorem membersAreWritable_iff (members : List (Text × Json)) :
    membersAreWritable members = true ↔ ∀ member ∈ members, member.2.isWritable = true := by
  induction members with
  | nil => simp [membersAreWritable]
  | cons entry members inductionHypothesis =>
      obtain ⟨name, value⟩ := entry
      simp [membersAreWritable, inductionHypothesis]

/-! ## The machine token by token -/

theorem run_eq (state : State) (text : Text) :
    run state text =
      match text.dropWhile isBlank with
      | [] => state.finish
      | c :: rest =>
          (state.step (readToken c rest).1 (c :: rest)).bind fun next =>
            run next (readToken c rest).2 := by
  rw [run]
  split
  · rename_i blanks
    rw [blanks]
  · rename_i c rest blanks
    rw [blanks]
    simp only
    cases state.step (readToken c rest).1 (c :: rest) with
    | error stop => rfl
    | ok next => rfl

theorem run_blank (state : State) {c : CodePoint} (blank : isBlank c = true) (text : Text) :
    run state (c :: text) = run state text := by
  rw [run_eq, run_eq state text, List.dropWhile_cons_of_pos blank]

theorem run_blanks (state : State) {blanks : Text} (areBlank : ∀ c ∈ blanks, isBlank c = true)
    (text : Text) : run state (blanks ++ text) = run state text := by
  induction blanks with
  | nil => rfl
  | cons c blanks inductionHypothesis =>
      rw [List.cons_append, run_blank state (areBlank c (List.mem_cons_self ..))]
      exact inductionHypothesis fun other member => areBlank other (List.mem_cons_of_mem _ member)

/-- A token that a state accepts takes the machine to the next state. -/
theorem run_step {state next : State} {token : Token} {text rest : Text}
    (begins : BeginsWith text token rest) (steps : ∀ place, state.step token place = .ok next) :
    run state text = run next rest := by
  obtain ⟨c, more, isText, visible, isRead⟩ := begins
  have noBlank : ¬ isBlank c = true := by
    rw [visible]
    exact Bool.false_ne_true
  rw [isText, run_eq, List.dropWhile_cons_of_neg noBlank]
  simp only [isRead, steps]
  rfl

/-- A state waits for a value that is to be put on a stack of open containers. -/
def State.Awaits (state : State) (stack : List Frame) : Prop :=
  ∀ token place, token ≠ .endArray → state.step token place = beginValue stack token place

theorem awaits_value (stack : List Frame) : (State.value stack).Awaits stack := by
  intro token place _
  rfl

theorem awaits_arrayStart (stack : List Frame) :
    (State.arrayStart stack).Awaits (.array [] :: stack) := by
  intro token place open_
  cases token with
  | endArray => exact absurd rfl open_
  | _ => rfl

/-- From a state that waits for it, the machine completes a value by reading its written form. -/
def IsReadBack (value : Json) : Prop :=
  ∀ (layout : Layout) (level : Nat) {state : State} {stack : List Frame} {rest : Text},
    state.Awaits stack → EndsNumber rest →
      run state (renderWith layout level value ++ rest) = run (.complete value stack) rest

/-! ## Values of one token -/

section Tokens

variable {state : State} {stack : List Frame} {text rest : Text}

theorem run_literal {value : Json} (awaits : state.Awaits stack)
    (begins : BeginsWith text (.literal value) rest) :
    run state text = run (.complete value stack) rest :=
  run_step begins fun place => awaits _ place (by simp)

theorem run_punctuation (token : Token) {next : State} {c : CodePoint}
    (isToken : punctuation? c = some token) (visible : isBlank c = false)
    (steps : ∀ place, state.step token place = .ok next) (rest : Text) :
    run state (c :: rest) = run next rest :=
  run_step (beginsWith_punctuation isToken visible rest) steps

end Tokens

theorem isReadBack_null : IsReadBack .null := by
  intro layout level state stack rest awaits _
  exact run_literal awaits (beginsWith_word (by decide) (by decide) (by decide) rfl)

theorem isReadBack_bool (value : Bool) : IsReadBack (.bool value) := by
  intro layout level state stack rest awaits _
  cases value with
  | true => exact run_literal awaits (beginsWith_word (by decide) (by decide) (by decide) rfl)
  | false => exact run_literal awaits (beginsWith_word (by decide) (by decide) (by decide) rfl)

theorem isReadBack_int {value : Int} (writable : (Json.int value).isWritable = true) :
    IsReadBack (.int value) := by
  intro layout level state stack rest awaits ends
  have short : (Text.ofNat value.natAbs).length ≤ Numeral.maxDigits := of_decide_eq_true writable
  exact run_literal awaits (beginsWith_ofInt short ends)

theorem isReadBack_text {value : Text} (joined : value.IsJoined) : IsReadBack (.text value) := by
  intro layout level state stack rest awaits _
  exact run_step (beginsWith_renderText joined rest) fun place => awaits _ place (by simp)

/-! ## Containers -/

section Containers

variable (layout : Layout)

theorem endsNumber_comma (rest : Text) : EndsNumber (CodePoint.ofChar ',' :: rest) :=
  endsNumber_cons (by decide) (by decide) (by decide) (by decide) _

/-- No number goes on behind blanks, and neither where there are none and it ends anyway. -/
theorem endsNumber_newline (level : Nat) {rest : Text} (ends : EndsNumber rest) :
    EndsNumber (layout.newline level ++ rest) := by
  cases isBlanks : layout.newline level with
  | nil => exact ends
  | cons c blanks =>
      apply endsNumber_of_isBlank
      apply layout.newline_isBlank level
      rw [isBlanks]
      exact List.mem_cons_self ..

/-- Behind an item stands a comma, or the bracket that closes the array. -/
theorem endsNumber_renderItems (level outer : Nat) (items : List Json) {rest : Text}
    (ends : EndsNumber rest) :
    EndsNumber (renderItemsWith layout level items ++ (layout.newline outer ++ rest)) := by
  cases items with
  | nil => exact endsNumber_newline layout outer ends
  | cons item items => exact endsNumber_comma _

theorem endsNumber_renderMembers (level outer : Nat) (members : List (Text × Json)) {rest : Text}
    (ends : EndsNumber rest) :
    EndsNumber (renderMembersWith layout level members ++ (layout.newline outer ++ rest)) := by
  cases members with
  | nil => exact endsNumber_newline layout outer ends
  | cons entry members => exact endsNumber_comma _

/-- The machine reads the name of a member and then waits for its value. -/
theorem run_label {state : State} {before : Entries Json} {name : Text} {stack : List Frame}
    (joined : name.IsJoined)
    (steps : ∀ place, state.step (.text name) place = .ok (.nameSeparator before name stack))
    (rest : Text) :
    run state (renderText name ++ (Text.ofString ":" ++ (layout.afterColon ++ rest))) =
      run (.value (.object before name :: stack)) rest := by
  have colon : ∀ tail : Text,
      Text.ofString ":" ++ tail = CodePoint.ofChar ':' :: tail := fun _ => rfl
  rw [run_step (beginsWith_renderText joined _) steps, colon,
    run_punctuation .nameSeparator rfl (by decide) (fun _ => rfl)]
  exact run_blanks _ layout.afterColon_isBlank rest

theorem fresh_of_nodup {before more : Entries Json} {name : Text} {value : Json}
    (nodup : (Entries.keys (before ++ (name, value) :: more)).Nodup) :
    name ∉ Entries.keys before := by
  unfold Entries.keys at nodup ⊢
  rw [List.map_append, List.map_cons] at nodup
  intro member
  exact (List.nodup_append.1 nodup).2.2 name member name (List.mem_cons_self ..) rfl

theorem endsNumber_closing {closing : CodePoint} (isClosing : closing = ']' ∨ closing = '\x7d')
    (rest : Text) : EndsNumber (closing :: rest) := by
  rcases isClosing with isBracket | isBrace
  · rw [isBracket]
    exact endsNumber_cons (by decide) (by decide) (by decide) (by decide) _
  · rw [isBrace]
    exact endsNumber_cons (by decide) (by decide) (by decide) (by decide) _

/-- Behind one item of an array, the machine reads the others and closes the array. -/
theorem run_renderItems {items : List Json} (areRead : ∀ item ∈ items, item.IsReadBack)
    (level outer : Nat) (before : List Json) (item : Json) (stack : List Frame) (rest : Text) :
    run (.complete item (.array before :: stack))
        (renderItemsWith layout level items
          ++ (layout.newline outer ++ CodePoint.ofChar ']' :: rest)) =
      run (.complete (.array (before.reverse ++ item :: items)) stack) rest := by
  induction items generalizing before item with
  | nil =>
      rw [renderItemsWith, List.nil_append, run_blanks _ (layout.newline_isBlank outer)]
      have closed : before.reverse ++ [item] = (item :: before).reverse := by
        rw [List.reverse_cons]
      rw [closed]
      exact run_punctuation .endArray rfl (by decide) (fun _ => rfl) rest
  | cons next items inductionHypothesis =>
      have nextRead := areRead next (List.mem_cons_self ..)
      have othersRead : ∀ other ∈ items, other.IsReadBack := fun other member =>
        areRead other (List.mem_cons_of_mem _ member)
      have comma : ∀ tail : Text,
          Text.ofString "," ++ tail = CodePoint.ofChar ',' :: tail := fun _ => rfl
      rw [renderItemsWith, comma, List.cons_append]
      calc
        _ = run (.value (.array (item :: before) :: stack)) _ :=
            run_punctuation .valueSeparator rfl (by decide) (fun _ => rfl) _
        _ = run (.complete next (.array (item :: before) :: stack))
              (renderItemsWith layout level items
                ++ (layout.newline outer ++ CodePoint.ofChar ']' :: rest)) := by
            rw [List.append_assoc, run_blanks _ layout.afterComma_isBlank, List.append_assoc,
              run_blanks _ (layout.newline_isBlank level), List.append_assoc]
            exact nextRead layout level (awaits_value _)
              (endsNumber_renderItems layout _ _ _ (endsNumber_closing (.inl rfl) rest))
        _ = _ := by
            rw [inductionHypothesis othersRead, List.reverse_cons, List.append_assoc]
            rfl

/-- Behind one member of an object, the machine reads the others and closes the object. -/
theorem run_renderMembers {members : List (Text × Json)}
    (joined : ∀ member ∈ members, member.1.IsJoined)
    (areRead : ∀ member ∈ members, member.2.IsReadBack) (level outer : Nat) {before : Entries Json}
    {name : Text} {value : Json} (nodup : (Entries.keys (before ++ (name, value) :: members)).Nodup)
    (stack : List Frame) (rest : Text) :
    run (.complete value (.object before name :: stack))
        (renderMembersWith layout level members
          ++ (layout.newline outer ++ CodePoint.ofChar '\x7d' :: rest)) =
      run (.complete (.object (before ++ (name, value) :: members)) stack) rest := by
  induction members generalizing before name value with
  | nil =>
      have inserted := Entries.insert_of_not_mem (fresh_of_nodup nodup) value
      rw [renderMembersWith, List.nil_append, run_blanks _ (layout.newline_isBlank outer),
        ← inserted]
      exact run_punctuation .endObject rfl (by decide) (fun _ => rfl) rest
  | cons entry members inductionHypothesis =>
      obtain ⟨label, next⟩ := entry
      have nextRead := areRead _ (List.mem_cons_self ..)
      have inserted := Entries.insert_of_not_mem (fresh_of_nodup nodup) value
      have comma : ∀ tail : Text,
          Text.ofString "," ++ tail = CodePoint.ofChar ',' :: tail := fun _ => rfl
      have regrouped : before ++ (name, value) :: (label, next) :: members =
          (before ++ [(name, value)]) ++ (label, next) :: members := by
        rw [List.append_assoc]
        rfl
      rw [regrouped] at nodup ⊢
      rw [renderMembersWith, comma, List.cons_append]
      calc
        _ = run (.name (before ++ [(name, value)]) stack) _ := by
            rw [← inserted]
            exact run_punctuation .valueSeparator rfl (by decide) (fun _ => rfl) _
        _ = run (.value (.object (before ++ [(name, value)]) label :: stack)) _ := by
            rw [List.append_assoc, run_blanks _ layout.afterComma_isBlank, List.append_assoc,
              run_blanks _ (layout.newline_isBlank level), List.append_assoc, List.append_assoc,
              List.append_assoc]
            exact run_label layout (joined _ (List.mem_cons_self ..)) (fun _ => rfl) _
        _ = run (.complete next (.object (before ++ [(name, value)]) label :: stack))
              (renderMembersWith layout level members
                ++ (layout.newline outer ++ CodePoint.ofChar '\x7d' :: rest)) := by
            rw [List.append_assoc]
            exact nextRead layout level (awaits_value _)
              (endsNumber_renderMembers layout _ _ _ (endsNumber_closing (.inr rfl) rest))
        _ = _ := inductionHypothesis
            (fun other member => joined other (List.mem_cons_of_mem _ member))
            (fun other member => areRead other (List.mem_cons_of_mem _ member)) nodup

end Containers

/-! ## All values -/

theorem isReadBack_array {items : List Json} (areRead : ∀ item ∈ items, item.IsReadBack) :
    IsReadBack (.array items) := by
  intro layout level state stack rest awaits ends
  have bracket : ∀ tail : Text,
      Text.ofString "[" ++ tail = CodePoint.ofChar '[' :: tail := fun _ => rfl
  have opened : ∀ tail, run state (CodePoint.ofChar '[' :: tail) =
      run (.arrayStart stack) tail :=
    run_punctuation .beginArray rfl (by decide) fun place => awaits _ place (by simp)
  cases items with
  | nil =>
      have empty : renderWith layout level (.array []) ++ rest =
          CodePoint.ofChar '[' :: CodePoint.ofChar ']' :: rest := rfl
      rw [empty, opened]
      exact run_punctuation .endArray rfl (by decide) (fun _ => rfl) rest
  | cons first items =>
      have closing : Text.ofString "]" ++ rest = CodePoint.ofChar ']' :: rest := rfl
      have firstRead := areRead first (List.mem_cons_self ..)
      have othersRead : ∀ other ∈ items, other.IsReadBack := fun other member =>
        areRead other (List.mem_cons_of_mem _ member)
      rw [renderWith, bracket, List.cons_append, opened, List.append_assoc,
        run_blanks _ (layout.newline_isBlank _), List.append_assoc, List.append_assoc,
        List.append_assoc, closing,
        firstRead layout (level + 1) (awaits_arrayStart stack)
          (endsNumber_renderItems layout _ _ _ (endsNumber_closing (.inl rfl) rest)),
        run_renderItems layout othersRead]
      rfl

theorem isReadBack_object {members : List (Text × Json)} (nodup : (Entries.keys members).Nodup)
    (joined : ∀ member ∈ members, member.1.IsJoined)
    (areRead : ∀ member ∈ members, member.2.IsReadBack) : IsReadBack (.object members) := by
  intro layout level state stack rest awaits ends
  have brace : ∀ tail : Text,
      Text.ofString "\x7b" ++ tail = CodePoint.ofChar '\x7b' :: tail := fun _ => rfl
  have opened : ∀ tail, run state (CodePoint.ofChar '\x7b' :: tail) =
      run (.objectStart stack) tail :=
    run_punctuation .beginObject rfl (by decide) fun place => awaits _ place (by simp)
  cases members with
  | nil =>
      have empty : renderWith layout level (.object []) ++ rest =
          CodePoint.ofChar '\x7b' :: CodePoint.ofChar '\x7d' :: rest := rfl
      rw [empty, opened]
      exact run_punctuation .endObject rfl (by decide) (fun _ => rfl) rest
  | cons entry members =>
      obtain ⟨name, value⟩ := entry
      have closing : Text.ofString "\x7d" ++ rest = CodePoint.ofChar '\x7d' :: rest := rfl
      have valueRead := areRead _ (List.mem_cons_self ..)
      rw [renderWith, brace, List.cons_append, opened, List.append_assoc,
        run_blanks _ (layout.newline_isBlank _), List.append_assoc, List.append_assoc,
        List.append_assoc, run_label layout (joined _ (List.mem_cons_self ..)) (fun _ => rfl),
        List.append_assoc, List.append_assoc, List.append_assoc, closing,
        valueRead layout (level + 1) (awaits_value _)
          (endsNumber_renderMembers layout _ _ _ (endsNumber_closing (.inr rfl) rest))]
      exact run_renderMembers layout
        (fun other member => joined other (List.mem_cons_of_mem _ member))
        (fun other member => areRead other (List.mem_cons_of_mem _ member)) (level + 1) level nodup
        stack rest

/-- **Plain values are read back**, wherever a value is awaited. -/
theorem IsPlain.isReadBack {value : Json} (plain : value.IsPlain)
    (writable : value.isWritable = true) : value.IsReadBack := by
  induction plain with
  | null => exact isReadBack_null
  | bool value => exact isReadBack_bool value
  | int value => exact isReadBack_int writable
  | text joined => exact isReadBack_text joined
  | @array items _ inductionHypothesis =>
      have itemsWritable := (areWritable_iff items).1 writable
      exact isReadBack_array fun item member =>
        inductionHypothesis item member (itemsWritable item member)
  | @object members nodup names _ inductionHypothesis =>
      have valuesWritable := (membersAreWritable_iff members).1 writable
      exact isReadBack_object nodup names fun entry member =>
        inductionHypothesis entry member (valuesWritable entry member)

/-- What is written begins with no byte order mark. -/
theorem head?_render_ne (value : Json) : value.render.head? ≠ some CodePoint.byteOrderMark := by
  intro isMark
  rcases isPrinted_render value _ (List.mem_of_mem_head? isMark) with isLineFeed | range
  · exact absurd isLineFeed (by decide)
  · exact absurd range (by decide)

theorem write_eq_ok_iff {value : Json} {text : Text} :
    value.write = .ok text ↔ value.isWritable = true ∧ value.render = text := by
  unfold write
  split
  · rename_i writable
    simp [writable]
  · rename_i unwritable
    simp [unwritable]

theorem IsPlain.isJoined {value : Json} (plain : value.IsPlain) : value.IsJoined := by
  induction plain with
  | null => exact isJoined_of_atom rfl rfl rfl
  | bool value => exact isJoined_of_atom rfl rfl rfl
  | int value => exact isJoined_of_atom rfl rfl rfl
  | text joined => exact isJoined_text_iff.2 joined
  | array _ inductionHypothesis => exact isJoined_array_iff.2 inductionHypothesis
  | object _ names _ inductionHypothesis =>
      exact isJoined_object_iff.2 fun entry member =>
        ⟨names entry member, inductionHypothesis entry member⟩

/-- Whatever the layout, a value begins in the same way. -/
theorem head?_renderWith (layout : Layout) (level : Nat) (value : Json) :
    (renderWith layout level value).head? = (renderAt level value).head? := by
  cases value with
  | bool value => cases value <;> rfl
  | array items => cases items <;> rfl
  | object members => cases members <;> rfl
  | _ => rfl

theorem writeWith_eq_ok_iff {layout : Layout} {value : Json} {text : Text} :
    value.writeWith layout = .ok text ↔
      value.isWritable = true ∧ renderWith layout 0 value = text := by
  unfold writeWith
  split
  · rename_i writable
    simp [writable]
  · rename_i unwritable
    simp [unwritable]

/-- **A plain value that is written is read back**, in whatever layout. -/
theorem read_of_writeWith {value : Json} (plain : value.IsPlain) {layout : Layout} {text : Text}
    (written : value.writeWith layout = .ok text) : Json.read text = .ok value := by
  obtain ⟨writable, isText⟩ := writeWith_eq_ok_iff.1 written
  have noMore : EndsNumber [] := fun next isNext => by cases isNext
  have completed : run (.value []) (renderWith layout 0 value) = .ok value := by
    have ran := plain.isReadBack writable layout 0 (awaits_value []) noMore
    rw [List.append_nil] at ran
    exact ran.trans (run_eq _ _)
  have unmarked : (renderWith layout 0 value).head? ≠ some CodePoint.byteOrderMark := by
    rw [head?_renderWith]
    exact head?_render_ne value
  rw [← isText, Json.read, if_neg unmarked, completed]
  rfl

theorem read_of_write {value : Json} (plain : value.IsPlain) {text : Text}
    (written : value.write = .ok text) : Json.read text = .ok value := by
  rw [← writeWith_indented] at written
  exact read_of_writeWith plain written

end Findings.Json
