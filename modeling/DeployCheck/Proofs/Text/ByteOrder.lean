import DeployCheck.Proofs.Text.Utf8
import DeployCheck.Proofs.TextMap
import Mathlib.Data.List.Lex
namespace DeployCheck.Text.Utf8

variable {c d : Char} {one other : String} {chars others : List Char} {rest more : Bytes}
  {m n owed lead first : Nat}

theorem cons_lt_cons (most : m < 256) (bound : n < 256) :
    UInt8.ofNat m :: rest < UInt8.ofNat n :: more ↔ m < n ∨ (m = n ∧ rest < more) := by
  rw [List.cons_lt_cons_iff, UInt8.lt_iff_toNat_lt, ← UInt8.toNat_inj,
    UInt8.toNat_ofNat_of_lt' most, UInt8.toNat_ofNat_of_lt' bound]

def continuation (n : Nat) : Nat → Bytes
  | 0 => []
  | owed + 1 => UInt8.ofNat (0x80 + n / 64 ^ owed % 64) :: continuation n owed

theorem digit_cases (less : m % 64 ^ (owed + 1) < n % 64 ^ (owed + 1)) :
    m / 64 ^ owed % 64 < n / 64 ^ owed % 64 ∨
      (m / 64 ^ owed % 64 = n / 64 ^ owed % 64 ∧ m % 64 ^ owed < n % 64 ^ owed) := by
  rw [Nat.pow_succ, Nat.mod_mul, Nat.mod_mul] at less
  have small := Nat.mod_lt n (Nat.pow_pos (n := owed) (by decide : 0 < 64))
  rcases Nat.lt_trichotomy (m / 64 ^ owed % 64) (n / 64 ^ owed % 64) with lower | same | higher
  · exact .inl lower
  · rw [same] at less
    exact .inr ⟨same, by omega⟩
  · have step := Nat.mul_le_mul_left (64 ^ owed) (Nat.succ_le_of_lt higher)
    rw [Nat.mul_succ] at step
    omega

theorem continuation_lt (less : m % 64 ^ owed < n % 64 ^ owed) (rest more : Bytes) :
    continuation m owed ++ rest < continuation n owed ++ more := by
  induction owed with
  | zero => simp [Nat.mod_one] at less
  | succ owed ih =>
      refine (cons_lt_cons (by omega) (by omega)).mpr ?_
      rcases digit_cases less with lower | ⟨same, lower⟩
      · exact .inl (by omega)
      · exact .inr ⟨by omega, ih lower⟩

def Begins (n lead owed : Nat) : Prop :=
  (owed = 0 ∧ lead = n ∧ n < 0x80) ∨
    (owed = 1 ∧ lead = 0xC0 + n / 64 ∧ 0x80 ≤ n ∧ n < 0x800) ∨
    (owed = 2 ∧ lead = 0xE0 + n / 4096 ∧ 0x800 ≤ n ∧ n < 0x10000) ∨
    (owed = 3 ∧ lead = 0xF0 + n / 262144 ∧ 0x10000 ≤ n ∧ n < 0x110000)

theorem Begins.lead_lt (begins : Begins n lead owed) : lead < 256 := by
  unfold Begins at begins
  omega

theorem encodeChar_eq (c : Char) : ∃ lead owed, Begins c.val.toNat lead owed ∧
    String.utf8EncodeChar c = UInt8.ofNat lead :: continuation c.val.toNat owed := by
  have number := valid c
  have sizes : c.val.toNat < 0x80 ∨ (0x80 ≤ c.val.toNat ∧ c.val.toNat < 0x800) ∨
      (0x800 ≤ c.val.toNat ∧ c.val.toNat < 0x10000) ∨
      (0x10000 ≤ c.val.toNat ∧ c.val.toNat < 0x110000) := by
    omega
  rcases sizes with most | ⟨least, most⟩ | ⟨least, most⟩ | ⟨least, most⟩
  · exact ⟨_, 0, .inl ⟨rfl, rfl, most⟩, encodeChar_one rfl most⟩
  · refine ⟨_, 1, .inr (.inl ⟨rfl, rfl, least, most⟩), ?_⟩
    rw [encodeChar_two rfl least most]
    simp [continuation]
  · refine ⟨_, 2, .inr (.inr (.inl ⟨rfl, rfl, least, most⟩)), ?_⟩
    rw [encodeChar_three rfl least most]
    simp [continuation]
  · refine ⟨_, 3, .inr (.inr (.inr ⟨rfl, rfl, least, most⟩)), ?_⟩
    rw [encodeChar_four rfl least most]
    simp [continuation]

theorem Begins.lt_or {owes : Nat} (begins : Begins m lead owed) (starts : Begins n first owes)
    (less : m < n) :
    lead < first ∨ (lead = first ∧ owed = owes ∧ m % 64 ^ owed < n % 64 ^ owed) := by
  rcases begins with ⟨rfl, rfl, _⟩ | ⟨rfl, rfl, _⟩ | ⟨rfl, rfl, _⟩ | ⟨rfl, rfl, _⟩ <;>
  rcases starts with ⟨rfl, rfl, _⟩ | ⟨rfl, rfl, _⟩ | ⟨rfl, rfl, _⟩ | ⟨rfl, rfl, _⟩ <;>
  omega

theorem encodeChar_lt (earlier : c < d) (rest more : Bytes) :
    String.utf8EncodeChar c ++ rest < String.utf8EncodeChar d ++ more := by
  obtain ⟨lead, owed, begins, written⟩ := encodeChar_eq c
  obtain ⟨first, owes, starts, spelled⟩ := encodeChar_eq d
  rw [written, spelled]
  refine (cons_lt_cons begins.lead_lt starts.lead_lt).mpr ?_
  have less : c.val.toNat < d.val.toNat := earlier
  rcases begins.lt_or starts less with lower | ⟨same, rfl, lower⟩
  · exact .inl lower
  · exact .inr ⟨same, continuation_lt lower rest more⟩

theorem encode_lt (earlier : one < other) : encode one < encode other := by
  rw [String.lt_iff_toList_lt] at earlier
  unfold encode
  generalize one.toList = chars at earlier
  generalize other.toList = others at earlier
  induction chars generalizing others with
  | nil =>
      cases others with
      | nil => exact absurd earlier (lt_irrefl _)
      | cons d others =>
          obtain ⟨lead, owed, -, written⟩ := encodeChar_eq d
          rw [List.flatMap_cons, written]
          exact List.nil_lt_cons _ _
  | cons c chars ih =>
      cases others with
      | nil => exact absurd earlier (List.not_lt_nil _)
      | cons d others =>
          rw [List.flatMap_cons, List.flatMap_cons]
          rcases List.cons_lt_cons_iff.mp earlier with less | ⟨rfl, later⟩
          · exact encodeChar_lt less _ _
          · exact List.append_left_lt (ih others later)

end DeployCheck.Text.Utf8

namespace DeployCheck.TextMap

open Text

theorem Ascending.bytes {α : Type} {map : TextMap α} (ascending : Ascending map) :
    map.keys.Pairwise fun one other => Utf8.encode one < Utf8.encode other :=
  ascending.imp fun earlier => Utf8.encode_lt (before_iff.mp earlier)

end DeployCheck.TextMap
