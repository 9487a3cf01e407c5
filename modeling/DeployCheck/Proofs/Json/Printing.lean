import DeployCheck.Json.Printer
import DeployCheck.Proofs.Json.Numerals
import DeployCheck.Proofs.Json.Scalar
namespace DeployCheck.Json

open Text Utf8

variable {source : Source} {text pad back : List Char} {level : Nat}

inductive Printed (value : Json) : Source → Prop
  | compact : Printed value (Utf8.ofText (compactText value))
  | pretty (level : Nat) : Printed value (Utf8.ofText (prettyText level value))

/-! ## Scalars -/

theorem hexValue?_hexDigit {n : Nat} (small : n < 16) : hexValue? (hexDigit n) = some n := by
  have all : ∀ n < 16, hexValue? (hexDigit n) = some n := by decide
  exact all n small

theorem quad_hexDigit {n : Nat} (small : n < 0x20) :
    Quad (Utf8.ofText ['0', '0', hexDigit (n / 16), hexDigit (n % 16)]) n := by
  have zero : hexValue? '0' = some 0 := rfl
  have upper := hexValue?_hexDigit (show n / 16 < 16 by omega)
  have lower := hexValue?_hexDigit (show n % 16 < 16 by omega)
  have value : ((0 * 16 + 0) * 16 + n / 16) * 16 + n % 16 = n := by omega
  have digits := Quad.digits zero zero upper lower
  rwa [value] at digits

theorem escape_cases (c : Char) :
    (∃ code, escape c = '\\' :: code ∧ Escape (Utf8.ofText code) c) ∨
      escape c = [c] ∧ Plain (some c) := by
  by_cases special : c ∈ ['"', '\\', '\x08', '\x0c', '\n', '\r', '\t']
  · simp only [List.mem_cons, List.not_mem_nil, or_false] at special
    rcases special with rfl | rfl | rfl | rfl | rfl | rfl | rfl <;>
      exact .inl ⟨_, rfl, .short rfl⟩
  · simp only [List.mem_cons, List.not_mem_nil, or_false, not_or] at special
    obtain ⟨quote, backslash, backspace, feed, line, carriage, tab⟩ := special
    rw [escape, if_neg quote, if_neg backslash, if_neg backspace, if_neg feed, if_neg line,
      if_neg carriage, if_neg tab]
    by_cases control : c.toNat < 0x20
    · have unit := Escape.unit (quad_hexDigit control) (.inl (by omega))
      rw [Char.ofNat_toNat] at unit
      exact .inl ⟨_, if_pos control, unit⟩
    · refine .inr ⟨if_neg control, fun _ same => ?_⟩
      obtain rfl := Option.some.inj same
      exact ⟨quote, backslash, Nat.not_lt.mp control⟩

theorem spells_escape (text : List Char) :
    Spells (Utf8.ofText (text.flatMap escape)) (Utf8.ofText text) := by
  induction text with
  | nil => exact .nil
  | cons c text ih =>
      rw [List.flatMap_cons, ofText_append, ofText_cons]
      rcases escape_cases c with ⟨code, split, spelled⟩ | ⟨split, plain⟩
      · rw [split, ofText_cons, List.cons_append]
        exact .escape spelled ih
      · rw [split]
        exact .plain plain ih

theorem ofText_quote (text : List Char) :
    Utf8.ofText (quote text) = quotes (Utf8.ofText (text.flatMap escape)) := by
  simp [quote, quotes]

theorem Printed.literal {text : String} (printed : Printed (.string text) source) :
    Literal text source := by
  refine ⟨_, spells_escape text.toList, ?_⟩
  rw [← ofText_quote]
  cases printed <;> rfl

theorem Printed.eq_null (printed : Printed .null source) :
    source = Utf8.ofText "null".toList := by
  cases printed <;> rfl

theorem Printed.eq_render {n : Number} (printed : Printed (.number n) source) :
    source = Utf8.ofText n.render := by
  cases printed <;> rfl

/-! ## Lists -/

section

variable {α β : Type} {entry : α → Source → Prop} {name : β → α} {write : β → List Char}
  {entries : List β}

theorem joinWith_cons (separator first : List Char) (others : List (List Char)) :
    joinWith separator (first :: others) = first ++ others.flatMap (separator ++ ·) := by
  induction others generalizing first with
  | nil => simp [joinWith]
  | cons second others ih => rw [joinWith, ih] <;> simp

theorem tail_flatMap (written : ∀ b ∈ entries, entry (name b) (Utf8.ofText (pad ++ write b)))
    (blanks : Blanks (Utf8.ofText back)) : Tail entry (entries.map name)
      (Utf8.ofText ((entries.map write).flatMap (',' :: pad ++ ·) ++ back)) := by
  induction entries with
  | nil => exact .close blanks
  | cons b entries ih =>
      obtain ⟨first, others⟩ := List.forall_mem_cons.mp written
      have tail := Tail.next blanks_nil first (ih others)
      simpa using tail

theorem listed_joinWith (written : ∀ b ∈ entries, entry (name b) (Utf8.ofText (pad ++ write b)))
    (filled : entries ≠ []) (blanks : Blanks (Utf8.ofText back)) :
    Listed entry (entries.map name)
      (Utf8.ofText (pad ++ joinWith (',' :: pad) (entries.map write) ++ back)) := by
  cases entries with
  | nil => contradiction
  | cons b entries =>
      obtain ⟨first, others⟩ := List.forall_mem_cons.mp written
      have listed := Listed.full first (tail_flatMap others blanks)
      rw [List.map_cons, List.map_cons, joinWith_cons]
      simpa using listed

theorem blanks_newLine (level : Nat) : Blanks (Utf8.ofText (newLine level)) := by
  intro symbol member
  obtain ⟨c, inside, rfl⟩ := List.mem_map.mp member
  refine ⟨c, rfl, ?_⟩
  rcases List.mem_cons.mp inside with rfl | later
  · decide
  · rw [List.eq_of_mem_replicate later]
    decide

theorem listed_compact (written : ∀ b ∈ entries, entry (name b) (Utf8.ofText (write b))) :
    Listed entry (entries.map name) (Utf8.ofText (joinWith [','] (entries.map write))) := by
  cases entries with
  | nil => exact .empty blanks_nil
  | cons b entries =>
      have listed : Listed entry _ (Utf8.ofText ([] ++ joinWith [','] _ ++ [])) :=
        listed_joinWith written (List.cons_ne_nil b entries) blanks_nil
      simpa using listed

theorem listed_bracket (opening closing : Char)
    (written : ∀ b ∈ entries, entry (name b) (Utf8.ofText (newLine (level + 1) ++ write b))) :
    ∃ inner, Listed entry (entries.map name) inner ∧
      Utf8.ofText (bracket level opening closing (entries.map write)) =
        some opening :: (inner ++ [some closing]) := by
  cases entries with
  | nil => exact ⟨[], .empty blanks_nil, rfl⟩
  | cons b entries =>
      refine ⟨_, listed_joinWith written (List.cons_ne_nil b entries) (blanks_newLine level), ?_⟩
      simp [bracket]

end

/-! ## Arrays and objects -/

-- The equations hold by definition; asking for those of the printers themselves is slow.

theorem compactItems_eq (items : List Json) : compactItems items = items.map compactText := by
  induction items with
  | nil => rfl
  | cons item items ih => exact congrArg (compactText item :: ·) ih

theorem prettyItems_eq (items : List Json) :
    prettyItems level items = items.map (prettyText level) := by
  induction items with
  | nil => rfl
  | cons item items ih => exact congrArg (prettyText level item :: ·) ih

theorem compactMembers_eq (members : List (String × Json)) : compactMembers members =
    members.map fun member => quote member.1.toList ++ ':' :: compactText member.2 := by
  induction members with
  | nil => rfl
  | cons member members ih =>
      exact congrArg ((quote member.1.toList ++ ':' :: compactText member.2) :: ·) ih

theorem prettyMembers_eq (members : List (String × Json)) : prettyMembers level members =
    members.map fun member => quote member.1.toList ++ ':' :: ' ' :: prettyText level member.2 := by
  induction members with
  | nil => rfl
  | cons member members ih =>
      exact congrArg ((quote member.1.toList ++ ':' :: ' ' :: prettyText level member.2) :: ·) ih

theorem compactText_array (items : List Json) : compactText (.array items) =
    '[' :: joinWith [','] (items.map compactText) ++ [']'] := by
  rw [← compactItems_eq]
  rfl

theorem prettyText_array (items : List Json) : prettyText level (.array items) =
    bracket level '[' ']' (items.map (prettyText (level + 1))) := by
  rw [← prettyItems_eq]
  rfl

theorem compactText_object (members : List (String × Json)) : compactText (.object members) =
    '\x7b' :: joinWith [','] (members.map fun member =>
      quote member.1.toList ++ ':' :: compactText member.2) ++ ['\x7d'] := by
  rw [← compactMembers_eq]
  rfl

theorem prettyText_object (members : List (String × Json)) : prettyText level (.object members) =
    bracket level '\x7b' '\x7d' (members.map fun member =>
      quote member.1.toList ++ ':' :: ' ' :: prettyText (level + 1) member.2) := by
  rw [← prettyMembers_eq]
  rfl

theorem Printed.items {items : List Json} (printed : Printed (.array items) source) :
    ∃ write : Json → Source, (∀ value, Printed value (write value)) ∧ ∃ inner,
      Listed Item (items.map write) inner ∧ source = some '[' :: (inner ++ [some ']']) := by
  cases printed with
  | compact =>
      refine ⟨fun value => Utf8.ofText (compactText value), fun _ => .compact, _,
        listed_compact fun item _ => ⟨[], blanks_nil, rfl⟩, ?_⟩
      simp [compactText_array]
  | pretty level =>
      have written : ∀ item ∈ items, Item (Utf8.ofText (prettyText (level + 1) item))
          (Utf8.ofText (newLine (level + 1) ++ prettyText (level + 1) item)) :=
        fun item _ => ⟨_, blanks_newLine (level + 1), ofText_append _ _⟩
      obtain ⟨inner, listed, brackets⟩ := listed_bracket '[' ']' written
      refine ⟨fun value => Utf8.ofText (prettyText (level + 1) value), fun _ => .pretty _, inner,
        listed, ?_⟩
      rw [prettyText_array]
      exact brackets

theorem Printed.members {members : List (String × Json)}
    (printed : Printed (.object members) source) :
    ∃ write : Json → Source, (∀ value, Printed value (write value)) ∧ ∃ inner,
      Listed Member (members.map fun member => (member.1, write member.2)) inner ∧
      source = some '\x7b' :: (inner ++ [some '\x7d']) := by
  have keyed (front pad : List Char) (blanks : Blanks (Utf8.ofText front))
      (blanksPad : Blanks (Utf8.ofText pad)) (name : String) (text : List Char) :
      Member (name, Utf8.ofText text)
        (Utf8.ofText (front ++ (quote name.toList ++ ':' :: (pad ++ text)))) := by
    refine ⟨_, spells_escape name.toList, _, [], _, blanks, blanks_nil, blanksPad, ?_⟩
    rw [ofText_append, ofText_append, ofText_quote, ofText_cons, ofText_append]
    rfl
  cases printed with
  | compact =>
      refine ⟨fun value => Utf8.ofText (compactText value), fun _ => .compact, _,
        listed_compact fun member _ =>
          keyed [] [] blanks_nil blanks_nil member.1 (compactText member.2), ?_⟩
      simp [compactText_object]
  | pretty level =>
      have space : Blanks (Utf8.ofText [' ']) := by simp [Blanks, isJsonBlank]
      have written : ∀ member ∈ members,
          Member (member.1, Utf8.ofText (prettyText (level + 1) member.2))
            (Utf8.ofText (newLine (level + 1) ++
              (quote member.1.toList ++ ':' :: ' ' :: prettyText (level + 1) member.2))) :=
        fun member _ => keyed _ [' '] (blanks_newLine (level + 1)) space member.1 _
      obtain ⟨inner, listed, brackets⟩ := listed_bracket '\x7b' '\x7d' written
      refine ⟨fun value => Utf8.ofText (prettyText (level + 1) value), fun _ => .pretty _, inner,
        listed, ?_⟩
      rw [prettyText_object]
      exact brackets

theorem Printed.value {value : Json} (printed : Printed value source) : Value source := by
  revert source
  refine compactText.induct (fun value => ∀ {source}, Printed value source → Value source)
    (fun members => ∀ member ∈ members, ∀ {source}, Printed member.2 source → Value source)
    (fun items => ∀ item ∈ items, ∀ {source}, Printed item source → Value source)
    ?null ?true ?false ?number ?string ?array ?object ?noItems ?item ?noMembers ?member value
  case null => exact fun printed => printed.eq_null ▸ .word List.mem_cons_self
  case true =>
    intro source printed
    cases printed <;> exact .word (by simp)
  case false =>
    intro source printed
    cases printed <;> exact .word (by simp)
  case number =>
    intro n source printed
    exact printed.eq_render ▸ value_render n
  case string => exact fun text _ printed => printed.literal.value
  case array =>
    intro items values source printed
    obtain ⟨write, written, inner, listed, rfl⟩ := printed.items
    refine .array listed fun item member => ?_
    obtain ⟨value, inside, rfl⟩ := List.mem_map.mp member
    exact values value inside (written value)
  case object =>
    intro members values source printed
    obtain ⟨write, written, inner, listed, rfl⟩ := printed.members
    refine IsObject.value ⟨inner, listed, fun member mapped => ?_, rfl⟩
    obtain ⟨pair, inside, rfl⟩ := List.mem_map.mp mapped
    exact values pair inside (written pair.2)
  case noItems => simp
  case item => exact fun item items first others => List.forall_mem_cons.mpr ⟨first, others⟩
  case noMembers => simp
  case member => exact fun _ _ _ first others => List.forall_mem_cons.mpr ⟨first, others⟩

theorem Printed.isObject {members : List (String × Json)}
    (printed : Printed (.object members) source) :
    ∃ write : Json → Source, (∀ value, Printed value (write value)) ∧
      IsObject (members.map fun member => (member.1, write member.2)) source := by
  obtain ⟨write, written, inner, listed, rfl⟩ := printed.members
  refine ⟨write, written, inner, listed, fun member mapped => ?_, rfl⟩
  obtain ⟨pair, -, rfl⟩ := List.mem_map.mp mapped
  exact (written pair.2).value

end DeployCheck.Json
