import Mathlib.Tactic.Ring
import Mathlib.Data.Nat.Bitwise
import Mathlib.Data.List.Basic

/-!
# Regrouping bits

CashAddr stores its payload as 5-bit symbols and its content as bytes. Both directions are one
operation, `convertBits`, which reads a sequence of `frombits`-bit values as one bit string,
most significant bit first, and cuts it into `tobits`-bit values.

## Main definitions

* `fromGroups`, `toGroups` — the number a group sequence spells, and the group sequence of a
  number.
* `convertBits` — the regrouping, with or without zero padding of the last group.

## Main results

* `convertBits_unpad_pad` — regrouping bytes into padded 5-bit values and back is the identity.
* `convertBits_pad_unpad` — a 5-bit sequence whose padding is short and zero is the padded
  regrouping of the bytes it decodes to.
-/

namespace DeVault.CashAddr

/-! ## Groups of bits -/

/-- The number spelled by a sequence of `w`-bit groups, most significant group first. -/
def fromGroups (w : Nat) (xs : List Nat) : Nat :=
  xs.foldl (fun acc x => acc * 2 ^ w + x) 0

/-- The lowest `k` groups of `w` bits of `n`, most significant group first. -/
def toGroups (w : Nat) : Nat → Nat → List Nat
  | 0, _ => []
  | k + 1, n => toGroups w k (n / 2 ^ w) ++ [n % 2 ^ w]

/-- Every value of `xs` fits in `w` bits. -/
def Fits (w : Nat) (xs : List Nat) : Prop := ∀ x ∈ xs, x < 2 ^ w

theorem mul_two_pow_add_div {a x w : Nat} (hx : x < 2 ^ w) : (a * 2 ^ w + x) / 2 ^ w = a := by
  rw [Nat.add_comm, Nat.add_mul_div_right _ _ (Nat.two_pow_pos w), Nat.div_eq_of_lt hx,
    Nat.zero_add]

theorem mul_two_pow_add_mod {a x w : Nat} (hx : x < 2 ^ w) : (a * 2 ^ w + x) % 2 ^ w = x := by
  rw [Nat.add_comm, Nat.add_mul_mod_self_right, Nat.mod_eq_of_lt hx]

instance (w : Nat) (xs : List Nat) : Decidable (Fits w xs) :=
  inferInstanceAs (Decidable (∀ x ∈ xs, x < 2 ^ w))

@[simp] theorem fromGroups_nil (w : Nat) : fromGroups w [] = 0 := rfl

@[simp] theorem fromGroups_append_singleton (w : Nat) (xs : List Nat) (x : Nat) :
    fromGroups w (xs ++ [x]) = fromGroups w xs * 2 ^ w + x := by
  simp [fromGroups]

theorem fromGroups_append (w : Nat) (xs ys : List Nat) :
    fromGroups w (xs ++ ys) = fromGroups w xs * 2 ^ (w * ys.length) + fromGroups w ys := by
  induction ys using List.reverseRecOn with
  | nil => simp
  | append_singleton ys y ih =>
    rw [← List.append_assoc, fromGroups_append_singleton, ih, fromGroups_append_singleton,
      List.length_append, List.length_singleton, Nat.mul_add, Nat.pow_add]
    ring

theorem fits_append {w : Nat} {xs ys : List Nat} : Fits w (xs ++ ys) ↔ Fits w xs ∧ Fits w ys := by
  simp only [Fits, List.mem_append]
  exact ⟨fun h => ⟨fun x hx => h x (.inl hx), fun x hx => h x (.inr hx)⟩,
    fun h x hx => hx.elim (h.1 x) (h.2 x)⟩

theorem fromGroups_lt {w : Nat} {xs : List Nat} (h : Fits w xs) :
    fromGroups w xs < 2 ^ (w * xs.length) := by
  induction xs using List.reverseRecOn with
  | nil => simp
  | append_singleton xs x ih =>
    obtain ⟨hxs, hx⟩ := fits_append.1 h
    have hx : x < 2 ^ w := hx x (List.mem_singleton_self x)
    have hlt := ih hxs
    rw [fromGroups_append_singleton, List.length_append, List.length_singleton, Nat.mul_add,
      Nat.mul_one, Nat.pow_add]
    calc fromGroups w xs * 2 ^ w + x < (fromGroups w xs + 1) * 2 ^ w := by rw [Nat.add_mul]; omega
      _ ≤ 2 ^ (w * xs.length) * 2 ^ w := Nat.mul_le_mul_right _ hlt

@[simp] theorem toGroups_length (w k n : Nat) : (toGroups w k n).length = k := by
  induction k generalizing n with
  | zero => rfl
  | succ k ih => simp [toGroups, ih]

theorem toGroups_fits (w k n : Nat) : Fits w (toGroups w k n) := by
  induction k generalizing n with
  | zero => intro x hx; simp [toGroups] at hx
  | succ k ih =>
    rw [toGroups, Fits, List.forall_mem_append]
    exact ⟨ih _, by simpa using Nat.mod_lt n (Nat.two_pow_pos w)⟩

theorem fromGroups_toGroups (w k n : Nat) : fromGroups w (toGroups w k n) = n % 2 ^ (w * k) := by
  induction k generalizing n with
  | zero => simp [toGroups, Nat.mod_one]
  | succ k ih =>
    rw [toGroups, fromGroups_append_singleton, ih, Nat.mul_succ, Nat.pow_add, Nat.mul_comm (2 ^ _),
      Nat.mod_mul, Nat.add_comm, Nat.mul_comm]

theorem toGroups_fromGroups {w : Nat} {xs : List Nat} (h : Fits w xs) :
    toGroups w xs.length (fromGroups w xs) = xs := by
  induction xs using List.reverseRecOn with
  | nil => rfl
  | append_singleton xs x ih =>
    obtain ⟨hxs, hx⟩ := fits_append.1 h
    have hx : x < 2 ^ w := hx x (List.mem_singleton_self x)
    rw [List.length_append, List.length_singleton, toGroups, fromGroups_append_singleton,
      mul_two_pow_add_div hx, mul_two_pow_add_mod hx, ih hxs]

/-- The low `e ≤ w` bits of the number a group sequence spells are those of its last group. -/
theorem getLastD_and_mask {w e : Nat} {xs : List Nat} (hne : xs ≠ []) (he : e ≤ w) :
    xs.getLastD 0 &&& ((1 <<< e) - 1) = fromGroups w xs % 2 ^ e := by
  rw [← List.dropLast_append_getLast hne, List.getLastD_concat, fromGroups_append_singleton,
    Nat.one_shiftLeft, Nat.and_pow_two_sub_one_eq_mod,
    show w = (w - e) + e by omega, Nat.pow_add, ← Nat.mul_assoc, Nat.add_comm,
    Nat.add_mul_mod_self_right]

/-! ## Regrouping -/

/-- Modelled from the spec (§4.1): `ConvertBits` (`utilstrencodings.h`) is not in the source tree.
The values of `xs` are read as one bit string, most significant bit first, and cut into
`tobits`-bit values. With `pad` a last partial group is filled with zero bits; without it the
leftover bits are dropped. -/
def convertBits (frombits tobits : Nat) (pad : Bool) (xs : List Nat) : List Nat :=
  let bits := frombits * xs.length
  if pad && bits % tobits != 0 then
    toGroups tobits (bits / tobits + 1) (fromGroups frombits xs * 2 ^ (tobits - bits % tobits))
  else toGroups tobits (bits / tobits) (fromGroups frombits xs / 2 ^ (bits % tobits))

theorem convertBits_fits (f t : Nat) (pad : Bool) (xs : List Nat) :
    Fits t (convertBits f t pad xs) := by
  simp only [convertBits]; split <;> exact toGroups_fits _ _ _

/-- The padded regrouping of bytes into 5-bit values. -/
theorem convertBits_pad_eq {bs : List Nat} :
    convertBits 8 5 true bs =
      if 8 * bs.length % 5 = 0 then toGroups 5 (8 * bs.length / 5) (fromGroups 8 bs)
      else toGroups 5 (8 * bs.length / 5 + 1)
        (fromGroups 8 bs * 2 ^ (5 - 8 * bs.length % 5)) := by
  unfold convertBits
  by_cases hr : 8 * bs.length % 5 = 0 <;> simp [hr]

/-- The unpadded regrouping of 5-bit values into bytes. -/
theorem convertBits_unpad_eq {xs : List Nat} :
    convertBits 5 8 false xs =
      toGroups 8 (5 * xs.length / 8) (fromGroups 5 xs / 2 ^ (5 * xs.length % 8)) := by
  simp [convertBits]

/-- The padded 5-bit form of `bs` has fewer than five padding bits, all of them zero. -/
theorem convertBits_pad_padding (bs : List Nat) :
    5 * (convertBits 8 5 true bs).length % 8 < 5 ∧
      fromGroups 5 (convertBits 8 5 true bs) % 2 ^ (5 * (convertBits 8 5 true bs).length % 8)
        = 0 := by
  rw [convertBits_pad_eq]
  split
  · refine ⟨by simp; omega, ?_⟩
    rw [toGroups_length, show 5 * (8 * bs.length / 5) % 8 = 0 by omega]
    exact Nat.mod_one _
  · rename_i hr
    have he : 5 * (8 * bs.length / 5 + 1) % 8 = 5 - 8 * bs.length % 5 := by omega
    refine ⟨by simp; omega, ?_⟩
    rw [toGroups_length, fromGroups_toGroups, he, Nat.mod_mod_of_dvd, Nat.mul_mod_left]
    exact Nat.pow_dvd_pow 2 (by omega)

/-- Regrouping bytes into padded 5-bit values and back gives the bytes. -/
theorem convertBits_unpad_pad {bs : List Nat} (h : Fits 8 bs) :
    convertBits 5 8 false (convertBits 8 5 true bs) = bs := by
  have hlt := fromGroups_lt h
  rw [convertBits_unpad_eq, convertBits_pad_eq]
  split
  · rename_i hr
    have hn : 5 * (8 * bs.length / 5) = 8 * bs.length := by omega
    rw [toGroups_length, fromGroups_toGroups, hn, Nat.mod_eq_of_lt hlt, Nat.mul_mod_right,
      Nat.pow_zero, Nat.div_one, Nat.mul_div_cancel_left _ (by norm_num)]
    exact toGroups_fromGroups h
  · rename_i hr
    have hn : 5 * (8 * bs.length / 5 + 1) = 8 * bs.length + (5 - 8 * bs.length % 5) := by omega
    have hv :
        fromGroups 8 bs * 2 ^ (5 - 8 * bs.length % 5) < 2 ^ (5 * (8 * bs.length / 5 + 1)) := by
      rw [hn, Nat.pow_add]
      exact Nat.mul_lt_mul_of_pos_right hlt (Nat.two_pow_pos _)
    rw [toGroups_length, fromGroups_toGroups, Nat.mod_eq_of_lt hv, hn,
      show (8 * bs.length + (5 - 8 * bs.length % 5)) % 8 = 5 - 8 * bs.length % 5 by omega,
      Nat.mul_div_cancel _ (Nat.two_pow_pos _),
      show (8 * bs.length + (5 - 8 * bs.length % 5)) / 8 = bs.length by omega]
    exact toGroups_fromGroups h

/-- A 5-bit sequence with fewer than five padding bits, all zero, is the padded regrouping of
the bytes it decodes to. -/
theorem convertBits_pad_unpad {xs : List Nat} (h : Fits 5 xs) (he : 5 * xs.length % 8 < 5)
    (hz : fromGroups 5 xs % 2 ^ (5 * xs.length % 8) = 0) :
    convertBits 8 5 true (convertBits 5 8 false xs) = xs := by
  have hlt := fromGroups_lt h
  have hm : 8 * (5 * xs.length / 8) + 5 * xs.length % 8 = 5 * xs.length := Nat.div_add_mod _ _
  have hb : fromGroups 5 xs / 2 ^ (5 * xs.length % 8) < 2 ^ (8 * (5 * xs.length / 8)) := by
    rw [Nat.div_lt_iff_lt_mul (Nat.two_pow_pos _), ← Nat.pow_add, hm]
    exact hlt
  have hk : fromGroups 5 xs / 2 ^ (5 * xs.length % 8) * 2 ^ (5 * xs.length % 8) = fromGroups 5 xs :=
    Nat.div_mul_cancel (Nat.dvd_of_mod_eq_zero hz)
  rw [convertBits_unpad_eq, convertBits_pad_eq, toGroups_length, fromGroups_toGroups,
    Nat.mod_eq_of_lt hb]
  split
  · rename_i hr
    have he0 : 5 * xs.length % 8 = 0 := by omega
    rw [show 8 * (5 * xs.length / 8) / 5 = xs.length by omega, he0, Nat.pow_zero, Nat.div_one]
    exact toGroups_fromGroups h
  · rename_i hr
    rw [show 8 * (5 * xs.length / 8) / 5 + 1 = xs.length by omega,
      show 5 - 8 * (5 * xs.length / 8) % 5 = 5 * xs.length % 8 by omega, hk]
    exact toGroups_fromGroups h

end DeVault.CashAddr
