import DeployCheck.Proofs.Json.Fields
namespace DeployCheck.Json

open Text Utf8

variable {α β : Type} {source rest value : Source} {a : α} {b : β} {field : Field α}
  {shape : Source → α → Prop} {wanted : α → Prop} {seen after : Option α}
  {members : List (String × Source)} {name title : String}

/-! ## Records of one field -/

def RecordShape (field : Field α) (shape : Source → α → Prop) (value : Source) (a : α) : Prop :=
  (∃ members, IsObject members value ∧ field.Given shape (named field.name members) a) ∨
    ∃ items, IsArray items value ∧ field.Given shape items a

def readField (field : Field α) (seen : Option α) (key : String) (source : Source) :
    Reading (Option α) :=
  if key = field.name then field.readMember seen source else skipMember seen source

theorem Exact.takes_readField (exact : Exact field.read shape wanted) (shaped : Value value)
    (step : FieldStep field shape seen (name, value) after) :
    Takes (readField field) seen (name, value) after := by
  intro gap pad rest blanks blanksPad ends
  rw [FieldStep] at step
  rw [readField]
  split at step
  · rename_i same
    obtain ⟨rfl, a, shaped, rfl⟩ := step
    rw [if_pos same]
    exact exact.readMember_append shaped blanks blanksPad ends
  · rename_i differs
    subst step
    rw [if_neg differs]
    exact takes_skipMember shaped blanks blanksPad ends

theorem Exact.follows_readField (exact : Exact field.read shape wanted) :
    Follows (readField field) (FieldStep field shape) fun seen => ∀ a ∈ seen, wanted a := by
  intro seen name source after rest read fine
  rw [readField] at read
  split at read
  · rename_i same
    obtain ⟨rfl, gap, pad, value, a, blanks, blanksPad, shaped, rfl, rfl⟩ :=
      exact.readMember_eq_ok read fine
    exact ⟨by simp, gap, pad, value, blanks, blanksPad, exact.value shaped,
      (if_pos same).mpr ⟨rfl, a, shaped, rfl⟩, rfl⟩
  · rename_i differs
    obtain ⟨rfl, gap, pad, value, blanks, blanksPad, shaped, rfl⟩ := skipMember_eq_ok read
    exact ⟨fine, gap, pad, value, blanks, blanksPad, shaped, (if_neg differs).mpr rfl, rfl⟩

theorem readRecord_brace (brace : skipBlanks source = some '\x7b' :: rest) :
    readRecord title field source =
      match readMembers (readField field) (rest.length + 1) true none rest with
      | .error fault => .error fault
      | .ok (seen, rest) => (field.settle seen).map (·, rest) := by
  rw [readRecord, brace]
  rfl

theorem readRecord_eq_ok_iff : readRecord title field source = .ok (a, rest) ↔
    (∃ more later, skipBlanks source = some '[' :: more ∧
      field.readItem title 0 1 more = .ok (a, later) ∧ closeArray later = .ok rest) ∨
    ∃ more seen, skipBlanks source = some '\x7b' :: more ∧
      readMembers (readField field) (more.length + 1) true none more = .ok (seen, rest) ∧
      field.settle seen = .ok a := by
  constructor
  · intro read
    have whole := read
    unfold readRecord at whole
    split at whole
    · cases whole
    · rename_i more bracket
      split at whole
      · cases whole
      · rename_i b later item
        obtain ⟨behind, closed, same⟩ := map_eq_ok.mp whole
        obtain ⟨rfl, rfl⟩ := Prod.mk.inj same
        exact .inl ⟨more, later, bracket, item, closed⟩
    · rename_i more brace
      rw [readRecord_brace brace] at read
      split at read
      · cases read
      · rename_i seen behind taken
        obtain ⟨b, settled, same⟩ := map_eq_ok.mp read
        obtain ⟨rfl, rfl⟩ := Prod.mk.inj same
        exact .inr ⟨more, seen, brace, taken, settled⟩
    · cases whole
  · rintro (⟨more, later, bracket, item, closed⟩ | ⟨more, seen, brace, taken, settled⟩)
    · simp only [readRecord, bracket, item, closed]
      rfl
    · simp only [readRecord_brace brace, taken, settled]
      rfl

theorem wanted_of_settle (settled : field.settle seen = .ok a) (fine : wanted a) :
    ∀ b ∈ seen, wanted b := by
  rintro b rfl
  obtain rfl := Except.ok.inj settled
  exact fine

theorem RecordShape.given (shaped : RecordShape field shape value a)
    (object : IsObject members value) : field.Given shape (named field.name members) a := by
  rcases shaped with ⟨others, same, given⟩ | ⟨items, array, -⟩
  · rwa [object.unique same]
  · exact (object.not_isArray array).elim

theorem Exact.record (exact : Exact field.read shape wanted) :
    Exact (readRecord title field) (RecordShape field shape) wanted where
  value := by
    rintro value a (⟨members, object, -⟩ | ⟨items, array, -⟩)
    · exact object.value
    · exact array.value
  complete := by
    rintro value a front rest (⟨members, ⟨inner, listed, values, rfl⟩, given⟩ |
      ⟨items, ⟨inner, listed, values, rfl⟩, given⟩) blanks ends <;>
      rw [List.cons_append, List.append_assoc, List.singleton_append] <;>
      refine readRecord_eq_ok_iff.mpr ?_
    · obtain ⟨seen, run, settled⟩ := settle_iff.mpr given
      have taken : Run (Takes (readField field)) none members seen :=
        run.imp fun _ _ member inside => exact.takes_readField (values member inside)
      exact .inr ⟨_, seen, skipBlanks_append_cons blanks (by decide),
        readMembers_append listed taken (Nat.lt_succ_self _), settled⟩
    · have few : items.take 1 = items ∧ items.drop 1 = [] := by cases given <;> simp
      obtain ⟨tail, closing, read⟩ :=
        exact.readItem_append title 0 1 rest listed (few.1.symm ▸ given)
      rw [few.2] at closing
      cases closing with
      | close blanksTail =>
          exact .inl ⟨_, _, skipBlanks_append_cons blanks (by decide), read,
            closeArray_append blanksTail⟩
  sound := by
    intro source a rest read fine
    rcases readRecord_eq_ok_iff.mp read with
      ⟨more, later, bracket, item, closed⟩ | ⟨more, seen, brace, taken, settled⟩
    · obtain ⟨front, blanks, rfl⟩ := exists_blanks_of_skipBlanks bracket
      obtain ⟨gap, blanksGap, rfl⟩ := closeArray_eq_ok closed
      obtain ⟨items, inner, listed, values, few, given, rfl⟩ :=
        exact.readItem_eq_ok item fine (.close blanksGap) (by simp)
      have all : items.take 1 = items := by simpa [few] using List.take_append_drop 1 items
      exact ⟨front, _, blanks, .inr ⟨items, ⟨inner, listed, values, rfl⟩, all ▸ given⟩, by simp⟩
    · obtain ⟨front, blanks, rfl⟩ := exists_blanks_of_skipBlanks brace
      obtain ⟨-, members, inner, listed, values, run, rfl⟩ :=
        readMembers_eq_ok exact.follows_readField taken (wanted_of_settle settled fine)
      exact ⟨front, _, blanks, .inl ⟨members, ⟨inner, listed, values, rfl⟩,
        settle_iff.mp ⟨seen, run, settled⟩⟩, by simp⟩

/-! ## Records of two fields -/

section

variable {left : Field α} {right : Field β} {shapeRight : Source → β → Prop}
  {wantedRight : β → Prop} {seen after : Option α × Option β}

def PairShape (left : Field α) (right : Field β) (shape : Source → α → Prop)
    (shapeRight : Source → β → Prop) (value : Source) (pair : α × β) : Prop :=
  (∃ members, IsObject members value ∧ left.Given shape (named left.name members) pair.1 ∧
    right.Given shapeRight (named right.name members) pair.2) ∨
  ∃ items, IsArray items value ∧ left.Given shape (items.take 1) pair.1 ∧
    right.Given shapeRight (items.drop 1) pair.2

def readFields (left : Field α) (right : Field β) (seen : Option α × Option β) (key : String)
    (source : Source) : Reading (Option α × Option β) :=
  if key = left.name then
    (left.readMember seen.1 source).map fun (a, rest) => ((a, seen.2), rest)
  else if key = right.name then
    (right.readMember seen.2 source).map fun (b, rest) => ((seen.1, b), rest)
  else skipMember seen source

def FieldsStep (left : Field α) (right : Field β) (shape : Source → α → Prop)
    (shapeRight : Source → β → Prop) (seen : Option α × Option β) (member : String × Source)
    (after : Option α × Option β) : Prop :=
  FieldStep left shape seen.1 member after.1 ∧ FieldStep right shapeRight seen.2 member after.2

theorem run_fieldsStep_iff : Run (FieldsStep left right shape shapeRight) seen members after ↔
    Run (FieldStep left shape) seen.1 members after.1 ∧
      Run (FieldStep right shapeRight) seen.2 members after.2 := by
  constructor
  · intro run
    induction run with
    | nil => exact ⟨.nil, .nil⟩
    | cons step _ ih => exact ⟨.cons step.1 ih.1, .cons step.2 ih.2⟩
  · intro ⟨runLeft, runRight⟩
    induction members generalizing seen with
    | nil =>
        obtain ⟨a, b⟩ := seen
        obtain ⟨a', b'⟩ := after
        cases runLeft
        cases runRight
        exact .nil
    | cons member others ih =>
        cases runLeft with
        | @cons _ a _ _ _ stepLeft runLeft =>
            cases runRight with
            | @cons _ b _ _ _ stepRight runRight =>
                have step : FieldsStep left right shape shapeRight seen member (a, b) :=
                  ⟨stepLeft, stepRight⟩
                exact .cons step (ih runLeft runRight)

theorem Exact.takes_readFields (exact : Exact left.read shape wanted)
    (exactRight : Exact right.read shapeRight wantedRight) (apart : left.name ≠ right.name)
    (shaped : Value value)
    (step : FieldsStep left right shape shapeRight seen (name, value) after) :
    Takes (readFields left right) seen (name, value) after := by
  intro gap pad rest blanks blanksPad ends
  obtain ⟨a, b⟩ := seen
  obtain ⟨a', b'⟩ := after
  obtain ⟨stepLeft, stepRight⟩ := step
  simp only [FieldStep] at stepLeft stepRight
  rw [readFields]
  split_ifs at stepLeft stepRight with same other other
  · exact absurd (same.symm.trans other) apart
  · obtain ⟨rfl, a, shaped, rfl⟩ := stepLeft
    subst stepRight
    simp only [if_pos same, exact.readMember_append shaped blanks blanksPad ends]
    rfl
  · obtain ⟨rfl, b, shaped, rfl⟩ := stepRight
    subst stepLeft
    simp only [if_neg same, if_pos other,
      exactRight.readMember_append shaped blanks blanksPad ends]
    rfl
  · subst stepLeft stepRight
    rw [if_neg same, if_neg other]
    exact takes_skipMember shaped blanks blanksPad ends

theorem Exact.follows_readFields (exact : Exact left.read shape wanted)
    (exactRight : Exact right.read shapeRight wantedRight) (apart : left.name ≠ right.name) :
    Follows (readFields left right) (FieldsStep left right shape shapeRight)
      fun seen => (∀ a ∈ seen.1, wanted a) ∧ ∀ b ∈ seen.2, wantedRight b := by
  intro seen name source after rest read fine
  rw [readFields] at read
  split_ifs at read with same other
  · obtain ⟨⟨a', later⟩, given, whole⟩ := map_eq_ok.mp read
    obtain ⟨rfl, rfl⟩ := Prod.mk.inj whole
    obtain ⟨empty, gap, pad, value, a, blanks, blanksPad, shaped, filled, rfl⟩ :=
      exact.readMember_eq_ok given fine.1
    have step : FieldStep right shapeRight seen.2 (name, value) seen.2 :=
      (if_neg fun other => apart (same.symm.trans other)).mpr rfl
    exact ⟨⟨by simp [empty], fine.2⟩, gap, pad, value, blanks, blanksPad, exact.value shaped,
      ⟨(if_pos same).mpr ⟨empty, a, shaped, filled⟩, step⟩, rfl⟩
  · obtain ⟨⟨b', later⟩, given, whole⟩ := map_eq_ok.mp read
    obtain ⟨rfl, rfl⟩ := Prod.mk.inj whole
    obtain ⟨empty, gap, pad, value, b, blanks, blanksPad, shaped, filled, rfl⟩ :=
      exactRight.readMember_eq_ok given fine.2
    have step : FieldStep left shape seen.1 (name, value) seen.1 := (if_neg same).mpr rfl
    exact ⟨⟨fine.1, by simp [empty]⟩, gap, pad, value, blanks, blanksPad,
      exactRight.value shaped, ⟨step, (if_pos other).mpr ⟨empty, b, shaped, filled⟩⟩, rfl⟩
  · obtain ⟨rfl, gap, pad, value, blanks, blanksPad, shaped, rfl⟩ := skipMember_eq_ok read
    exact ⟨fine, gap, pad, value, blanks, blanksPad, shaped,
      ⟨(if_neg same).mpr rfl, (if_neg other).mpr rfl⟩, rfl⟩

theorem readRecordOfTwo_brace (brace : skipBlanks source = some '\x7b' :: rest) :
    readRecordOfTwo title left right source =
      match readMembers (readFields left right) (rest.length + 1) true (none, none) rest with
      | .error fault => .error fault
      | .ok (seen, rest) =>
        match left.settle seen.1, right.settle seen.2 with
        | .ok a, .ok b => .ok ((a, b), rest)
        | .error fault, _ => .error fault
        | _, .error fault => .error fault := by
  rw [readRecordOfTwo, brace]
  rfl

theorem readRecordOfTwo_eq_ok_iff : readRecordOfTwo title left right source = .ok ((a, b), rest) ↔
    (∃ more between later, skipBlanks source = some '[' :: more ∧
      left.readItem title 0 2 more = .ok (a, between) ∧
      right.readItem title 1 2 between = .ok (b, later) ∧ closeArray later = .ok rest) ∨
    ∃ more seen, skipBlanks source = some '\x7b' :: more ∧
      readMembers (readFields left right) (more.length + 1) true (none, none) more =
        .ok (seen, rest) ∧
      left.settle seen.1 = .ok a ∧ right.settle seen.2 = .ok b := by
  constructor
  · intro read
    have whole := read
    unfold readRecordOfTwo at whole
    split at whole
    · cases whole
    · rename_i more bracket
      split at whole
      · cases whole
      · rename_i a' between item
        split at whole
        · cases whole
        · rename_i b' later other
          obtain ⟨behind, closed, same⟩ := map_eq_ok.mp whole
          obtain ⟨⟨rfl, rfl⟩, rfl⟩ := same
          exact .inl ⟨more, between, later, bracket, item, other, closed⟩
    · rename_i more brace
      rw [readRecordOfTwo_brace brace] at read
      cases taken : readMembers (readFields left right) (more.length + 1) true (none, none)
        more with
      | error fault => simp [taken] at read
      | ok pair =>
          cases settled : left.settle pair.1.1 with
          | error fault => simp [taken, settled] at read
          | ok a' =>
              cases settledRight : right.settle pair.1.2 with
              | error fault => simp [taken, settled, settledRight] at read
              | ok b' =>
                  simp only [taken, settled, settledRight, Except.ok.injEq, Prod.mk.injEq] at read
                  obtain ⟨⟨rfl, rfl⟩, rfl⟩ := read
                  exact .inr ⟨more, pair.1, brace, taken, settled, settledRight⟩
    · cases whole
  · rintro (⟨more, between, later, bracket, item, other, closed⟩ |
      ⟨more, seen, brace, taken, settled, settledRight⟩)
    · simp only [readRecordOfTwo, bracket, item, other, closed]
      rfl
    · simp only [readRecordOfTwo_brace brace, taken, settled, settledRight]

theorem Exact.pair (exact : Exact left.read shape wanted)
    (exactRight : Exact right.read shapeRight wantedRight) (apart : left.name ≠ right.name) :
    Exact (readRecordOfTwo title left right) (PairShape left right shape shapeRight)
      fun pair => wanted pair.1 ∧ wantedRight pair.2 where
  value := by
    rintro value pair (⟨members, object, -⟩ | ⟨items, array, -⟩)
    · exact object.value
    · exact array.value
  complete := by
    rintro value ⟨a, b⟩ front rest (⟨members, ⟨inner, listed, values, rfl⟩, given, givenRight⟩ |
      ⟨items, ⟨inner, listed, values, rfl⟩, given, givenRight⟩) blanks ends <;>
      rw [List.cons_append, List.append_assoc, List.singleton_append] <;>
      refine readRecordOfTwo_eq_ok_iff.mpr ?_
    · obtain ⟨seen, run, settled⟩ := settle_iff.mpr given
      obtain ⟨seenRight, runRight, settledRight⟩ := settle_iff.mpr givenRight
      have both : Run (FieldsStep left right shape shapeRight) (none, none) members
          (seen, seenRight) := run_fieldsStep_iff.mpr ⟨run, runRight⟩
      have taken : Run (Takes (readFields left right)) (none, none) members (seen, seenRight) :=
        both.imp fun _ _ member inside =>
          exact.takes_readFields exactRight apart (values member inside)
      exact .inr ⟨_, (seen, seenRight), skipBlanks_append_cons blanks (by decide),
        readMembers_append listed taken (Nat.lt_succ_self _), settled, settledRight⟩
    · have last : (items.drop 1).take 1 = items.drop 1 ∧ (items.drop 1).drop 1 = [] := by
        generalize items.drop 1 = others at givenRight
        cases givenRight <;> simp
      obtain ⟨between, later, read⟩ := exact.readItem_append title 0 2 rest listed given
      obtain ⟨tail, closing, readRight⟩ :=
        exactRight.readItem_append title 1 2 rest later (last.1.symm ▸ givenRight)
      rw [last.2] at closing
      cases closing with
      | close blanksTail =>
          exact .inl ⟨_, _, _, skipBlanks_append_cons blanks (by decide), read, readRight,
            closeArray_append blanksTail⟩
  sound := by
    rintro source ⟨a, b⟩ rest read ⟨fine, fineRight⟩
    rcases readRecordOfTwo_eq_ok_iff.mp read with
      ⟨more, between, later, bracket, item, other, closed⟩ |
      ⟨more, seen, brace, taken, settled, settledRight⟩
    · obtain ⟨front, blanks, rfl⟩ := exists_blanks_of_skipBlanks bracket
      obtain ⟨gap, blanksGap, rfl⟩ := closeArray_eq_ok closed
      obtain ⟨items, tail, listed, values, none, givenRight, rfl⟩ :=
        exactRight.readItem_eq_ok other fineRight (.close blanksGap) (by simp)
      have one : items.take 1 = items := by simpa [none] using List.take_append_drop 1 items
      obtain ⟨all, inner, listedAll, values, dropped, given, rfl⟩ :=
        exact.readItem_eq_ok item fine listed values
      refine ⟨front, _, blanks, .inr ⟨all, ⟨inner, listedAll, values, rfl⟩, given, ?_⟩, by simp⟩
      rw [dropped, ← one]
      exact givenRight
    · obtain ⟨front, blanks, rfl⟩ := exists_blanks_of_skipBlanks brace
      obtain ⟨-, members, inner, listed, values, run, rfl⟩ :=
        readMembers_eq_ok (exact.follows_readFields exactRight apart) taken
          ⟨wanted_of_settle settled fine, wanted_of_settle settledRight fineRight⟩
      obtain ⟨runLeft, runRight⟩ := run_fieldsStep_iff.mp run
      exact ⟨front, _, blanks, .inl ⟨members, ⟨inner, listed, values, rfl⟩,
        settle_iff.mp ⟨_, runLeft, settled⟩, settle_iff.mp ⟨_, runRight, settledRight⟩⟩, by simp⟩

end

end DeployCheck.Json
