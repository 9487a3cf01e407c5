import DeployCheck.Json.Reader
import DeployCheck.Proofs.Json.Number
namespace DeployCheck.Json

open Text Utf8

variable {source rest front gap value key : Source} {c : Char} {fuel : Nat} {items : List Source}

/-! ## How values start -/

theorem isDigit_apart (digit : c.isDigit = true) :
    isJsonBlank c = false ∧ c ∉ ['n', 't', 'f', '-', ']', '\x7d'] := by
  constructor
  · by_contra blank
    simp only [isJsonBlank, Bool.not_eq_false, Bool.or_eq_true, beq_iff_eq] at blank
    rcases blank with ((rfl | rfl) | rfl) | rfl <;> exact absurd digit (by decide)
  · simp only [List.mem_cons, List.not_mem_nil, or_false]
    rintro (rfl | rfl | rfl | rfl | rfl | rfl) <;> exact absurd digit (by decide)

theorem Value.start (shaped : Value value) : ∃ c more, value = some c :: more ∧
    isJsonBlank c = false ∧ c ∉ [']', '\x7d'] := by
  cases shaped with
  | word listed =>
      simp only [List.mem_cons, List.not_mem_nil, or_false] at listed
      rcases listed with rfl | rfl | rfl <;> exact ⟨_, _, rfl, by decide, by decide⟩
  | number signed unsigned =>
      simp only [List.mem_cons, List.not_mem_nil, or_false] at signed
      rcases signed with rfl | rfl
      · obtain ⟨whole, -, -⟩ := unsigned
        cases whole with
        | zero => exact ⟨_, _, rfl, by decide, by decide⟩
        | digits _ digits =>
            obtain ⟨solid, apart⟩ := isDigit_apart (digits.2 _ List.mem_cons_self)
            exact ⟨_, _, rfl, solid, fun closes => apart (by simp_all)⟩
      · exact ⟨_, _, rfl, by decide, by decide⟩
  | string _ => exact ⟨_, _, rfl, by decide, by decide⟩
  | array _ _ => exact ⟨_, _, rfl, by decide, by decide⟩
  | object _ _ => exact ⟨_, _, rfl, by decide, by decide⟩

theorem Value.skipBlanks_append (shaped : Value value) (blanks : Blanks front) :
    skipBlanks (front ++ (value ++ rest)) = value ++ rest := by
  obtain ⟨c, more, rfl, solid, -⟩ := shaped.start
  exact skipBlanks_append_cons blanks solid

/-! ## One step of passing over a value -/

theorem skipValue_word {letter : Char} {word : List Char}
    (listed : (letter, word) ∈ [('n', "ull".toList), ('t', "rue".toList), ('f', "alse".toList)])
    (blanks : Blanks front) :
    skipValue (fuel + 1) (front ++ some letter :: rest) = readWord word rest := by
  simp only [List.mem_cons, List.not_mem_nil, or_false, Prod.mk.injEq] at listed
  rcases listed with ⟨rfl, rfl⟩ | ⟨rfl, rfl⟩ | ⟨rfl, rfl⟩ <;>
    (rw [skipValue, skipBlanks_append_cons blanks (by decide)]; rfl)

theorem skipValue_minus (blanks : Blanks front) :
    skipValue (fuel + 1) (front ++ some '-' :: rest) = skipNumber rest := by
  rw [skipValue, skipBlanks_append_cons blanks (by decide)]
  rfl

theorem skipValue_digit (blanks : Blanks front) (digit : c.isDigit = true) :
    skipValue (fuel + 1) (front ++ some c :: rest) = skipNumber (some c :: rest) := by
  obtain ⟨solid, apart⟩ := isDigit_apart digit
  simp only [List.mem_cons, List.not_mem_nil, or_false, not_or] at apart
  rw [skipValue, skipBlanks_append_cons blanks solid]
  simp [apart, digit]

theorem skipValue_quote (blanks : Blanks front) :
    skipValue (fuel + 1) (front ++ some '"' :: rest) = skipString rest := by
  rw [skipValue, skipBlanks_append_cons blanks (by decide)]
  rfl

theorem skipValue_bracket (blanks : Blanks front) :
    skipValue (fuel + 1) (front ++ some '[' :: rest) =
      match skipBlanks rest with
      | [] => .error .endOfList
      | some ']' :: rest => .ok rest
      | rest => skipItems fuel rest := by
  rw [skipValue, skipBlanks_append_cons blanks (by decide)]
  rfl

theorem skipValue_brace (blanks : Blanks front) :
    skipValue (fuel + 1) (front ++ some '\x7b' :: rest) =
      match skipBlanks rest with
      | [] => .error .endOfObject
      | some '\x7d' :: rest => .ok rest
      | rest => skipMembers fuel rest := by
  rw [skipValue, skipBlanks_append_cons blanks (by decide)]
  rfl

theorem skipValue_items (blanks : Blanks front) (started : skipBlanks source = some c :: rest)
    (open_ : c ≠ ']') :
    skipValue (fuel + 1) (front ++ some '[' :: source) = skipItems fuel (some c :: rest) := by
  rw [skipValue_bracket blanks, started]
  split
  · contradiction
  · rename_i same
    exact absurd (Option.some.inj (List.cons.inj same).1) open_
  · rfl

theorem skipValue_members (blanks : Blanks front)
    (started : skipBlanks source = some c :: rest) (open_ : c ≠ '\x7d') :
    skipValue (fuel + 1) (front ++ some '\x7b' :: source) = skipMembers fuel (some c :: rest) := by
  rw [skipValue_brace blanks, started]
  split
  · contradiction
  · rename_i same
    exact absurd (Option.some.inj (List.cons.inj same).1) open_
  · rfl

/-! ## Every value is passed over -/

def Skipped (value : Source) : Prop :=
  ∀ ⦃fuel : Nat⦄ ⦃front rest : Source⦄, Blanks front → Ends rest → 2 * value.length ≤ fuel →
    skipValue fuel (front ++ (value ++ rest)) = .ok rest

theorem Tail.ends {α : Type} {entry : α → Source → Prop} {entries : List α}
    (tail : Tail entry entries source) (ends : Ends rest) : Ends (source ++ rest) := by
  cases tail with
  | close blanks => exact ends.append blanks
  | next blanks _ _ =>
      rw [List.append_assoc]
      exact Ends.append (ends_cons (.inr (by simp))) blanks

theorem skipItems_append {first : Source} {others : List Source} {head tail : Source}
    (item : Item first head) (listed : Tail Item others tail)
    (skipped : ∀ item ∈ first :: others, Skipped item)
    (enough : 2 * (head ++ tail).length + 1 ≤ fuel) :
    skipItems fuel (head ++ (tail ++ some ']' :: rest)) = .ok rest := by
  induction listed generalizing first head fuel with
  | @close gap blanks =>
      obtain ⟨front, blanksFront, rfl⟩ := item
      obtain ⟨fuel, rfl⟩ := Nat.exists_eq_add_one.mpr (show 0 < fuel by omega)
      have ends : Ends (gap ++ some ']' :: rest) := (Tail.close blanks : Tail Item [] gap).ends
        (ends_cons (.inr (by simp)))
      simp only [List.length_append] at enough
      have passed := skipped first List.mem_cons_self blanksFront ends
        (show 2 * first.length ≤ fuel by omega)
      rw [List.append_assoc, skipItems, passed]
      simp only [skipBlanks_append_cons blanks (show isJsonBlank ']' = false by decide)]
  | @next second others gap head' rest' blanks item' listed ih =>
      obtain ⟨front, blanksFront, rfl⟩ := item
      obtain ⟨fuel, rfl⟩ := Nat.exists_eq_add_one.mpr (show 0 < fuel by omega)
      have ends : Ends (gap ++ some ',' :: (head' ++ (rest' ++ some ']' :: rest))) :=
        (ends_cons (.inr (by simp))).append blanks
      simp only [List.length_append, List.length_cons] at enough
      have passed := skipped first List.mem_cons_self blanksFront ends
        (show 2 * first.length ≤ fuel by omega)
      have further := ih item' (fun item member => skipped item (List.mem_cons_of_mem _ member))
        (show 2 * (head' ++ rest').length + 1 ≤ fuel by rw [List.length_append]; omega)
      simp only [List.append_assoc, List.cons_append]
      rw [skipItems, passed]
      simp only [skipBlanks_append_cons blanks (show isJsonBlank ',' = false by decide)]
      exact further

theorem passColon_append (blanks : Blanks gap) :
    passColon (gap ++ some ':' :: rest) = .ok rest := by
  rw [passColon, skipBlanks_append_cons blanks (by decide)]
  rfl

def PassedMember (value source : Source) : Prop :=
  ∃ key, Passable key ∧ Keyed key value source

theorem PassedMember.length_lt {head : Source} (member : PassedMember value head) :
    value.length < head.length := by
  obtain ⟨key, -, front, gap, pad, -, -, -, rfl⟩ := member
  simp only [quotes, List.length_append, List.length_cons]
  omega

theorem PassedMember.strip {head : Source} (member : PassedMember value head) :
    ∃ front more, Blanks front ∧ head = front ++ some '"' :: more ∧
      PassedMember value (some '"' :: more) := by
  obtain ⟨key, passable, front, gap, pad, blanks, blanksGap, blanksPad, rfl⟩ := member
  exact ⟨front, _, blanks, rfl, key, passable, [], gap, pad, blanks_nil, blanksGap, blanksPad, rfl⟩

def skipFurther (fuel : Nat) (source : Source) : Except Fault Source :=
  match skipBlanks source with
  | [] => .error .endOfObject
  | some ',' :: rest => skipMembers fuel rest
  | some '\x7d' :: rest => .ok rest
  | _ => .error .expectedCommaOrBrace

theorem skipMembers_value {head : Source} (member : PassedMember value head)
    (skipped : Skipped value) (ends : Ends rest) (enough : 2 * value.length ≤ fuel) :
    skipMembers (fuel + 1) (head ++ rest) = skipFurther fuel rest := by
  obtain ⟨key, passable, front, gap, pad, blanksFront, blanksGap, blanksPad, rfl⟩ := member
  have read : skipString (key ++ some '"' :: (gap ++ some ':' :: (pad ++ (value ++ rest)))) =
      .ok (gap ++ some ':' :: (pad ++ (value ++ rest))) := skipString_iff.mpr ⟨key, passable, rfl⟩
  simp only [quotes, List.append_assoc, List.cons_append, List.nil_append]
  rw [skipMembers, skipBlanks_append_cons blanksFront (by decide)]
  simp only [read, passColon_append blanksGap, skipped blanksPad ends enough]
  rfl

theorem skipMembers_append {first : Source} {others : List Source} {head tail : Source}
    (member : PassedMember first head) (listed : Tail PassedMember others tail)
    (skipped : ∀ value ∈ first :: others, Skipped value)
    (enough : 2 * (head ++ tail).length + 1 ≤ fuel) :
    skipMembers fuel (head ++ (tail ++ some '\x7d' :: rest)) = .ok rest := by
  induction listed generalizing first head fuel with
  | @close gap blanks =>
      obtain ⟨fuel, rfl⟩ := Nat.exists_eq_add_one.mpr (show 0 < fuel by omega)
      have ends : Ends (gap ++ some '\x7d' :: rest) :=
        (ends_cons (.inr (by simp))).append blanks
      have shorter := member.length_lt
      rw [skipMembers_value member (skipped first List.mem_cons_self) ends
          (by rw [List.length_append] at enough; omega),
        skipFurther, skipBlanks_append_cons blanks (by decide)]
      rfl
  | @next second others gap head' rest' blanks member' listed ih =>
      obtain ⟨fuel, rfl⟩ := Nat.exists_eq_add_one.mpr (show 0 < fuel by omega)
      have ends : Ends (gap ++ some ',' :: (head' ++ (rest' ++ some '\x7d' :: rest))) :=
        (ends_cons (.inr (by simp))).append blanks
      have shorter := member.length_lt
      have further := ih member' (fun value inside => skipped value (List.mem_cons_of_mem _ inside))
        (show 2 * (head' ++ rest').length + 1 ≤ fuel by
          simp only [List.length_append, List.length_cons] at enough ⊢
          omega)
      simp only [List.append_assoc, List.cons_append]
      rw [skipMembers_value member (skipped first List.mem_cons_self) ends
          (by rw [List.length_append] at enough; omega),
        skipFurther, skipBlanks_append_cons blanks (by decide)]
      exact further

theorem Unsigned.start {text : List Char} (unsigned : Unsigned text) :
    ∃ c more, text = c :: more ∧ c.isDigit = true := by
  obtain ⟨whole, -, -⟩ := unsigned
  cases whole with
  | zero => exact ⟨_, _, rfl, by decide⟩
  | digits _ digits => exact ⟨_, _, rfl, digits.2 _ List.mem_cons_self⟩

theorem Skipped.of_succ (positive : value ≠ [])
    (steps : ∀ ⦃fuel : Nat⦄ ⦃front rest : Source⦄, Blanks front → Ends rest →
      2 * value.length ≤ fuel + 1 → skipValue (fuel + 1) (front ++ (value ++ rest)) = .ok rest) :
    Skipped value := by
  intro fuel front rest blanks ends enough
  have longer := List.length_pos_iff.mpr positive
  obtain ⟨fuel, rfl⟩ := Nat.exists_eq_add_one.mpr (show 0 < fuel by omega)
  exact steps blanks ends enough

theorem skipped_array {inner : Source} (listed : Listed Item items inner)
    (shaped : ∀ item ∈ items, Value item) (skipped : ∀ item ∈ items, Skipped item) :
    Skipped (some '[' :: (inner ++ [some ']'])) := by
  refine .of_succ (List.cons_ne_nil _ _) fun fuel front rest blanks ends enough => ?_
  rw [List.cons_append, List.append_assoc, List.singleton_append]
  cases listed with
  | empty gap =>
      rw [skipValue_bracket blanks, skipBlanks_append_cons gap (by decide)]
      rfl
  | @full first others head tail item listed =>
      obtain ⟨gap, blanksGap, rfl⟩ := item
      obtain ⟨c, more, rfl, solid, apart⟩ := (shaped first List.mem_cons_self).start
      have started : skipBlanks (gap ++ some c :: more ++ tail ++ some ']' :: rest) =
          some c :: (more ++ (tail ++ some ']' :: rest)) := by
        simp only [List.append_assoc, List.cons_append, skipBlanks_append_cons blanksGap solid]
      rw [skipValue_items blanks started fun closes => apart (closes ▸ List.mem_cons_self)]
      refine skipItems_append ⟨[], blanks_nil, rfl⟩ listed skipped ?_
      simp only [List.length_append, List.length_cons] at enough ⊢
      omega

theorem skipped_object {values : List Source} {inner : Source}
    (listed : Listed PassedMember values inner) (skipped : ∀ value ∈ values, Skipped value) :
    Skipped (some '\x7b' :: (inner ++ [some '\x7d'])) := by
  refine .of_succ (List.cons_ne_nil _ _) fun fuel front rest blanks ends enough => ?_
  rw [List.cons_append, List.append_assoc, List.singleton_append]
  cases listed with
  | empty gap =>
      rw [skipValue_brace blanks, skipBlanks_append_cons gap (by decide)]
      rfl
  | @full first others head tail member listed =>
      obtain ⟨gap, more, blanksGap, rfl, stripped⟩ := member.strip
      have started : skipBlanks (gap ++ some '"' :: more ++ tail ++ some '\x7d' :: rest) =
          some '"' :: (more ++ (tail ++ some '\x7d' :: rest)) := by
        simp only [List.append_assoc, List.cons_append]
        exact skipBlanks_append_cons blanksGap (by decide)
      rw [skipValue_members blanks started (by decide)]
      refine skipMembers_append stripped listed skipped ?_
      simp only [List.length_append, List.length_cons] at enough ⊢
      omega

theorem skipped_word {text : String} (listed : text ∈ ["null", "true", "false"]) :
    Skipped (Utf8.ofText text.toList) := by
  simp only [List.mem_cons, List.not_mem_nil, or_false] at listed
  rcases listed with rfl | rfl | rfl <;>
    refine .of_succ (by simp) fun fuel front rest blanks ends enough => ?_
  · exact (skipValue_word List.mem_cons_self blanks).trans (readWord_append _ rest)
  · exact (skipValue_word (.tail _ List.mem_cons_self) blanks).trans (readWord_append _ rest)
  · exact (skipValue_word (.tail _ (.tail _ List.mem_cons_self)) blanks).trans
      (readWord_append _ rest)

theorem skipped_number {sign text : List Char} (signed : sign ∈ [[], ['-']])
    (unsigned : Unsigned text) : Skipped (Utf8.ofText (sign ++ text)) := by
  obtain ⟨c, more, rfl, digit⟩ := unsigned.start
  simp only [List.mem_cons, List.not_mem_nil, or_false] at signed
  rcases signed with rfl | rfl <;>
    refine .of_succ (by simp) fun fuel front rest blanks ends enough => ?_
  · exact (skipValue_digit blanks digit).trans (skipNumber_append unsigned ends)
  · exact (skipValue_minus blanks).trans (skipNumber_append unsigned ends)

theorem skipped_string {inner : Source} (passable : Passable inner) : Skipped (quotes inner) := by
  refine .of_succ (List.cons_ne_nil _ _) fun fuel front rest blanks ends enough => ?_
  rw [quotes, List.cons_append, List.append_assoc, List.singleton_append, skipValue_quote blanks]
  exact skipString_iff.mpr ⟨inner, passable, rfl⟩

theorem Value.skipped (shaped : Value value) : Skipped value := by
  induction shaped with
  | word listed => exact skipped_word listed
  | number signed unsigned => exact skipped_number signed unsigned
  | string passable => exact skipped_string passable
  | array listed shaped ih => exact skipped_array listed shaped ih
  | object listed _ ih => exact skipped_object listed ih

/-! ## Nothing else is passed over -/

theorem passColon_eq_ok (passed : passColon source = .ok rest) :
    ∃ gap, Blanks gap ∧ source = gap ++ some ':' :: rest := by
  unfold passColon at passed
  split at passed
  · cases passed
  · rename_i skipped
    obtain rfl := Except.ok.inj passed
    exact exists_blanks_of_skipBlanks skipped
  · cases passed

structure PassesValues (fuel : Nat) : Prop where
  value : ∀ ⦃source rest⦄, skipValue fuel source = .ok rest →
    ∃ front value, Blanks front ∧ Value value ∧ source = front ++ (value ++ rest)
  items : ∀ ⦃source rest⦄, skipItems fuel source = .ok rest →
    ∃ first others head tail, Item first head ∧ Tail Item others tail ∧
      (∀ item ∈ first :: others, Value item) ∧ source = head ++ (tail ++ some ']' :: rest)
  members : ∀ ⦃source rest⦄, skipMembers fuel source = .ok rest →
    ∃ first others head tail, PassedMember first head ∧ Tail PassedMember others tail ∧
      (∀ value ∈ first :: others, Value value) ∧
      source = head ++ (tail ++ some '\x7d' :: rest)

theorem PassesValues.items_succ (passes : PassesValues fuel)
    (skipped : skipItems (fuel + 1) source = .ok rest) :
    ∃ first others head tail, Item first head ∧ Tail Item others tail ∧
      (∀ item ∈ first :: others, Value item) ∧ source = head ++ (tail ++ some ']' :: rest) := by
  rw [skipItems] at skipped
  split at skipped
  · cases skipped
  · rename_i between passed
    obtain ⟨front, value, blanks, shaped, rfl⟩ := passes.value passed
    split at skipped
    · cases skipped
    · rename_i more comma
      obtain ⟨gap, blanksGap, rfl⟩ := exists_blanks_of_skipBlanks comma
      obtain ⟨first, others, head, tail, item, listed, shapes, rfl⟩ := passes.items skipped
      refine ⟨value, first :: others, _, _, ⟨front, blanks, rfl⟩, .next blanksGap item listed,
        List.forall_mem_cons.mpr ⟨shaped, shapes⟩, by simp⟩
    · rename_i more closing
      obtain ⟨gap, blanksGap, rfl⟩ := exists_blanks_of_skipBlanks closing
      obtain rfl := Except.ok.inj skipped
      exact ⟨value, [], _, _, ⟨front, blanks, rfl⟩, .close blanksGap,
        List.forall_mem_singleton.mpr shaped, by simp⟩
    · cases skipped

theorem PassesValues.members_succ (passes : PassesValues fuel)
    (skipped : skipMembers (fuel + 1) source = .ok rest) :
    ∃ first others head tail, PassedMember first head ∧ Tail PassedMember others tail ∧
      (∀ value ∈ first :: others, Value value) ∧
      source = head ++ (tail ++ some '\x7d' :: rest) := by
  rw [skipMembers] at skipped
  split at skipped
  · cases skipped
  · rename_i start quote
    obtain ⟨front, blanks, rfl⟩ := exists_blanks_of_skipBlanks quote
    split at skipped
    · cases skipped
    · rename_i afterKey key
      obtain ⟨word, passable, rfl⟩ := skipString_iff.mp key
      split at skipped
      · cases skipped
      · rename_i afterColon colon
        obtain ⟨gap, blanksGap, rfl⟩ := passColon_eq_ok colon
        split at skipped
        · cases skipped
        · rename_i between passed
          obtain ⟨pad, value, blanksPad, shaped, rfl⟩ := passes.value passed
          have member : PassedMember value _ :=
            ⟨word, passable, front, gap, pad, blanks, blanksGap, blanksPad, rfl⟩
          split at skipped
          · cases skipped
          · rename_i more comma
            obtain ⟨gapComma, blanksComma, rfl⟩ := exists_blanks_of_skipBlanks comma
            obtain ⟨first, others, head, tail, item, listed, shapes, rfl⟩ := passes.members skipped
            exact ⟨value, first :: others, _, _, member, .next blanksComma item listed,
              List.forall_mem_cons.mpr ⟨shaped, shapes⟩, by simp [quotes]⟩
          · rename_i more closing
            obtain ⟨gapClosing, blanksClosing, rfl⟩ := exists_blanks_of_skipBlanks closing
            obtain rfl := Except.ok.inj skipped
            exact ⟨value, [], _, _, member, .close blanksClosing,
              List.forall_mem_singleton.mpr shaped, by simp [quotes]⟩
          · cases skipped
  · cases skipped

theorem skipValue_skipBlanks (fuel : Nat) (source : Source) :
    skipValue fuel (skipBlanks source) = skipValue fuel source := by
  cases fuel with
  | zero => rfl
  | succ fuel => rw [skipValue, skipValue, skipBlanks_skipBlanks]

theorem PassesValues.array (passes : PassesValues fuel)
    (skipped : skipValue (fuel + 1) ([] ++ some '[' :: source) = .ok rest) :
    ∃ value, Value value ∧ some '[' :: source = value ++ rest := by
  rw [skipValue_bracket blanks_nil] at skipped
  split at skipped
  · cases skipped
  · rename_i more closing
    obtain ⟨gap, blanksGap, rfl⟩ := exists_blanks_of_skipBlanks closing
    obtain rfl := Except.ok.inj skipped
    exact ⟨_, .array (.empty blanksGap) (by simp), by simp⟩
  · obtain ⟨gap, blanksGap, split⟩ := exists_blanks source
    obtain ⟨first, others, head, tail, ⟨pad, blanksPad, rfl⟩, listed, shapes, same⟩ :=
      passes.items skipped
    have item : Item first (gap ++ (pad ++ first)) :=
      ⟨gap ++ pad, blanksGap.append blanksPad, (List.append_assoc _ _ _).symm⟩
    refine ⟨_, .array (.full item listed) shapes, ?_⟩
    rw [split, same]
    simp

theorem PassesValues.object (passes : PassesValues fuel)
    (skipped : skipValue (fuel + 1) ([] ++ some '\x7b' :: source) = .ok rest) :
    ∃ value, Value value ∧ some '\x7b' :: source = value ++ rest := by
  rw [skipValue_brace blanks_nil] at skipped
  split at skipped
  · cases skipped
  · rename_i more closing
    obtain ⟨gap, blanksGap, rfl⟩ := exists_blanks_of_skipBlanks closing
    obtain rfl := Except.ok.inj skipped
    exact ⟨_, .object (.empty blanksGap) (by simp), by simp⟩
  · obtain ⟨gap, blanksGap, split⟩ := exists_blanks source
    obtain ⟨first, others, head, tail,
      ⟨key, passable, front, colon, pad, blanksFront, blanksColon, blanksPad, rfl⟩, listed,
      shapes, same⟩ := passes.members skipped
    have member : PassedMember first _ := ⟨key, passable, gap ++ front, colon, pad,
      blanksGap.append blanksFront, blanksColon, blanksPad, rfl⟩
    refine ⟨_, .object (.full member listed) shapes, ?_⟩
    rw [split, same]
    simp

theorem PassesValues.value_succ (passes : PassesValues fuel)
    (skipped : skipValue (fuel + 1) source = .ok rest) :
    ∃ front value, Blanks front ∧ Value value ∧ source = front ++ (value ++ rest) := by
  have whole := skipped
  rw [skipValue] at skipped
  split at skipped
  · cases skipped
  · cases skipped
  · rename_i c after start
    rw [← skipValue_skipBlanks, start] at whole
    obtain ⟨front, blanks, rfl⟩ := exists_blanks_of_skipBlanks start
    suffices found : ∃ value, Value value ∧ some c :: after = value ++ rest by
      obtain ⟨value, shaped, same⟩ := found
      exact ⟨front, value, blanks, shaped, by rw [same]⟩
    -- One letter after the other is asked for.
    rcases ite_eq_iff.mp skipped with ⟨null, skipped⟩ | ⟨-, skipped⟩
    · rw [null, readWord_eq_ok skipped]
      exact ⟨_, .word List.mem_cons_self, rfl⟩
    rcases ite_eq_iff.mp skipped with ⟨true, skipped⟩ | ⟨-, skipped⟩
    · rw [true, readWord_eq_ok skipped]
      exact ⟨_, .word (List.mem_cons_of_mem "null" List.mem_cons_self), rfl⟩
    rcases ite_eq_iff.mp skipped with ⟨false, skipped⟩ | ⟨-, skipped⟩
    · rw [false, readWord_eq_ok skipped]
      exact ⟨_, .word (List.mem_cons_of_mem "null" (List.mem_cons_of_mem "true"
        List.mem_cons_self)), rfl⟩
    rcases ite_eq_iff.mp skipped with ⟨minus, skipped⟩ | ⟨-, skipped⟩
    · obtain ⟨text, unsigned, rfl⟩ := skipNumber_eq_ok skipped
      exact ⟨_, .number (List.mem_cons_of_mem [] List.mem_cons_self) unsigned, by rw [minus]; rfl⟩
    rcases ite_eq_iff.mp skipped with ⟨digit, skipped⟩ | ⟨-, skipped⟩
    · obtain ⟨text, unsigned, same⟩ := skipNumber_eq_ok skipped
      exact ⟨_, .number List.mem_cons_self unsigned, same⟩
    rcases ite_eq_iff.mp skipped with ⟨quote, skipped⟩ | ⟨-, skipped⟩
    · obtain ⟨inner, passable, rfl⟩ := skipString_iff.mp skipped
      exact ⟨_, .string passable, by simp [quotes, quote]⟩
    rcases ite_eq_iff.mp skipped with ⟨rfl, -⟩ | ⟨-, skipped⟩
    · exact passes.array whole
    rcases ite_eq_iff.mp skipped with ⟨rfl, -⟩ | ⟨-, skipped⟩
    · exact passes.object whole
    cases skipped

theorem passesValues (fuel : Nat) : PassesValues fuel := by
  induction fuel with
  | zero =>
      refine ⟨fun source rest skipped => ?_, fun source rest skipped => ?_,
        fun source rest skipped => ?_⟩
      · cases skipped
      · cases skipped
      · cases skipped
  | succ fuel ih =>
      exact ⟨fun _ _ => ih.value_succ, fun _ _ => ih.items_succ, fun _ _ => ih.members_succ⟩

end DeployCheck.Json
