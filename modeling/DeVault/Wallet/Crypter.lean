import Mathlib.Logic.Function.Iterate
import Mathlib.Data.List.Basic
import Mathlib.Tactic.Ring

/-!
# Key derivation from a passphrase

`CCrypter::SetKeyFromPassphrase` (crypter.cpp) passes its `unsigned int nRounds` to
`BytesToKeySHA512AES` as the `int count` of a loop `for (int i = 0; i != count - 1; i++)` of
SHA-512 re-hashes. The `int` arithmetic is modelled with its overflows: a signed overflow is
undefined behaviour, reported as an error, and the conversion of an `unsigned int` to `int` keeps
the bits (two's complement), as the compilers the node is built with do.

## Main results

* `rehashLoop_eq` — from a non-negative bound the loop re-hashes exactly that many times.
* `rehashLoop_neg` — from a negative bound the counter overflows past `INT_MAX`.
* `setKeyFromPassphrase_ok` — every round count from 1 to `INT_MAX` derives its key with
  `nRounds - 1` re-hashes; `setKeyFromPassphrase_overflow` — every larger one overflows.
-/

namespace DeVault.Wallet

/-- `INT_MAX`. -/
def intMax : Int := 2 ^ 31 - 1

/-- `INT_MIN`. -/
def intMin : Int := -2 ^ 31

/-- `(int)n` for an `unsigned int`: the same 32 bits read in two's complement. -/
def toInt (n : UInt32) : Int := if n.toNat < 2 ^ 31 then n.toNat else n.toNat - 2 ^ 32

/-- `a - b` in `int`: the difference, or undefined behaviour when it leaves the range of `int`. -/
def intSub (a b : Int) : Except String Int :=
  if intMin ≤ a - b ∧ a - b ≤ intMax then .ok (a - b) else .error "signed overflow"

/-- The re-hash loop `for (int i = 0; i != bound; i++)`, at `i = INT_MAX - fuel`: it stops when
`i` reaches `bound`, and `i++` at `INT_MAX` overflows. Returns the buffer. -/
def rehashLoop (sha512 : List UInt8 → List UInt8) (bound : Int) :
    Nat → List UInt8 → Except String (List UInt8)
  | 0, buf => if intMax = bound then .ok buf else .error "signed overflow"
  | fuel + 1, buf =>
    if intMax - (fuel + 1 : Nat) = bound then .ok buf else rehashLoop sha512 bound fuel (sha512 buf)

/-- The sizes crypter.h fixes: `WALLET_CRYPTO_KEY_SIZE`, `WALLET_CRYPTO_SALT_SIZE` and
`WALLET_CRYPTO_IV_SIZE`. -/
structure CryptoSizes where
  keySize : Nat
  saltSize : Nat
  ivSize : Nat

/-- `CCrypter::BytesToKeySHA512AES`: what it returns, and the key and IV it writes (the ones passed
in when it returns 0). -/
def bytesToKeySHA512AES (sizes : CryptoSizes) (sha512 : List UInt8 → List UInt8)
    (chSalt strKeyData : List UInt8) (count : Int) (key iv : List UInt8) :
    Except String (Int × List UInt8 × List UInt8) :=
  if count = 0 then .ok (0, key, iv)
  else do
    let bound ← intSub count 1
    let buf ← rehashLoop sha512 bound intMax.toNat (sha512 (strKeyData ++ chSalt))
    .ok (sizes.keySize, buf.take sizes.keySize, (buf.drop sizes.keySize).take sizes.ivSize)

/-- The key material of a `CCrypter`. -/
structure CCrypter where
  vchKey : List UInt8
  vchIV : List UInt8
  fKeySet : Bool
  deriving DecidableEq

/-- `CCrypter::SetKeyFromPassphrase`: what it returns and the crypter it leaves; a failed
derivation cleanses the key and the IV. -/
def setKeyFromPassphrase (sizes : CryptoSizes) (sha512 : List UInt8 → List UInt8)
    (c : CCrypter) (strKeyData chSalt : List UInt8) (nRounds nDerivationMethod : UInt32) :
    Except String (Bool × CCrypter) :=
  if nRounds.toNat < 1 ∨ chSalt.length ≠ sizes.saltSize then .ok (false, c)
  else do
    let r ← if nDerivationMethod = 0 then
        bytesToKeySHA512AES sizes sha512 chSalt strKeyData (toInt nRounds) c.vchKey c.vchIV
      else .ok (0, c.vchKey, c.vchIV)
    if r.1 ≠ sizes.keySize then
      .ok (false, { c with vchKey := c.vchKey.map (fun _ => 0), vchIV := c.vchIV.map (fun _ => 0) })
    else .ok (true, { vchKey := r.2.1, vchIV := r.2.2, fKeySet := true })

/-! ## The loop -/

section Loop

variable (sha512 : List UInt8 → List UInt8)

/-- At `i = INT_MAX - fuel`, the loop stops at once when `i` is the bound. -/
theorem rehashLoop_stop {bound : Int} {fuel : Nat} (buf : List UInt8) (h : intMax - fuel = bound) :
    rehashLoop sha512 bound fuel buf = .ok buf := by
  cases fuel with
  | zero => rw [rehashLoop, if_pos (by simpa using h)]
  | succ f => rw [rehashLoop, if_pos h]

/-- Otherwise it re-hashes and goes on, unless `i` is `INT_MAX`. -/
theorem rehashLoop_succ {bound : Int} {fuel : Nat} (buf : List UInt8)
    (h : intMax - (fuel + 1 : Nat) ≠ bound) :
    rehashLoop sha512 bound (fuel + 1) buf = rehashLoop sha512 bound fuel (sha512 buf) := by
  rw [rehashLoop, if_neg h]

/-- From `i = INT_MAX - fuel` below a bound `k` steps away, the loop re-hashes `k` times. -/
theorem rehashLoop_of_le (k : Nat) : ∀ (fuel : Nat) (buf : List UInt8), k ≤ fuel →
    rehashLoop sha512 (intMax - fuel + k) fuel buf = .ok (sha512^[k] buf) := by
  induction k with
  | zero => intro fuel buf _; exact rehashLoop_stop sha512 buf (by simp)
  | succ k ih =>
    intro fuel buf hk
    obtain ⟨f, rfl⟩ : ∃ f, fuel = f + 1 := ⟨fuel - 1, by omega⟩
    rw [rehashLoop_succ sha512 buf (by push_cast; omega)]
    have h := ih f (sha512 buf) (by omega)
    rw [show intMax - ((f + 1 : Nat) : Int) + ((k + 1 : Nat) : Int) = intMax - f + k by
      push_cast; ring, h, Function.iterate_succ_apply]

/-- From `i = 0`, a bound `n` with `0 ≤ n` is reached after exactly `n` re-hashes. -/
theorem rehashLoop_eq (n : Nat) (hn : (n : Int) ≤ intMax) (buf : List UInt8) :
    rehashLoop sha512 n intMax.toNat buf = .ok (sha512^[n] buf) := by
  have h := rehashLoop_of_le sha512 n intMax.toNat buf (by unfold intMax at hn ⊢; omega)
  rwa [show intMax - (intMax.toNat : Int) + n = n by unfold intMax; omega] at h

/-- A negative bound is never reached: the counter overflows at `INT_MAX`. -/
theorem rehashLoop_neg {bound : Int} (hb : bound < 0) : ∀ (fuel : Nat) (buf : List UInt8),
    fuel ≤ intMax.toNat → rehashLoop sha512 bound fuel buf = .error "signed overflow" := by
  intro fuel
  induction fuel with
  | zero => intro buf _; rw [rehashLoop, if_neg (by unfold intMax; omega)]
  | succ f ih =>
    intro buf hf
    rw [rehashLoop_succ sha512 buf (by unfold intMax at hf ⊢; omega)]
    exact ih _ (by omega)

end Loop

/-! ## Deriving a key -/

theorem toInt_of_lt {n : UInt32} (h : n.toNat < 2 ^ 31) : toInt n = n.toNat := by
  rw [toInt, if_pos h]

theorem toInt_of_ge {n : UInt32} (h : 2 ^ 31 ≤ n.toNat) : toInt n = n.toNat - 2 ^ 32 := by
  rw [toInt, if_neg (Nat.not_lt.2 h)]

variable (sizes : CryptoSizes) (sha512 : List UInt8 → List UInt8)

/-- Every round count from 1 to `INT_MAX`, with a salt of the right size, derives the key and IV
from the passphrase hashed with the salt and then re-hashed `nRounds - 1` times. -/
theorem setKeyFromPassphrase_ok (c : CCrypter) (strKeyData chSalt : List UInt8) {nRounds : UInt32}
    (h1 : 1 ≤ nRounds.toNat) (h2 : nRounds.toNat < 2 ^ 31) (hs : chSalt.length = sizes.saltSize) :
    setKeyFromPassphrase sizes sha512 c strKeyData chSalt nRounds 0 =
      .ok (true,
        { vchKey := (sha512^[nRounds.toNat - 1] (sha512 (strKeyData ++ chSalt))).take sizes.keySize
          vchIV := ((sha512^[nRounds.toNat - 1] (sha512 (strKeyData ++ chSalt))).drop
            sizes.keySize).take sizes.ivSize
          fKeySet := true }) := by
  have hsub : intSub (toInt nRounds) 1 = .ok ((nRounds.toNat - 1 : Nat) : Int) := by
    rw [toInt_of_lt h2, intSub, if_pos (by unfold intMin intMax; omega)]
    congr 1; omega
  have hloop := rehashLoop_eq sha512 (nRounds.toNat - 1) (by unfold intMax; omega)
    (sha512 (strKeyData ++ chSalt))
  have hne : toInt nRounds ≠ 0 := by rw [toInt_of_lt h2]; omega
  simp only [setKeyFromPassphrase, if_neg (show ¬(nRounds.toNat < 1 ∨ chSalt.length ≠ sizes.saltSize)
    by omega), bytesToKeySHA512AES, if_neg hne, hsub, hloop, if_true, bind, Except.bind, ne_eq,
    not_true_eq_false, if_false]

/-- crypter.h's sizes: a 32-byte key, an 8-byte salt and a 16-byte IV. -/
def walletCryptoSizes : CryptoSizes := ⟨32, 8, 16⟩

/-- A stand-in for SHA-512 with its 64-byte output. -/
def standInSha512 (b : List UInt8) : List UInt8 := (b.map (· + 1) ++ List.replicate 64 0).take 64

/-- Three rounds: the passphrase and salt hashed, then re-hashed twice. -/
theorem setKeyFromPassphrase_ok_three_rounds :
    setKeyFromPassphrase walletCryptoSizes standInSha512 ⟨[], [], false⟩ [7] (List.replicate 8 0)
        3 0 =
      .ok (true,
        { vchKey := (standInSha512^[2] (standInSha512 ([7] ++ List.replicate 8 0))).take 32
          vchIV := ((standInSha512^[2] (standInSha512 ([7] ++ List.replicate 8 0))).drop 32).take 16
          fKeySet := true }) :=
  setKeyFromPassphrase_ok walletCryptoSizes standInSha512 _ _ _ (by decide) (by decide) rfl

/-- Every round count of `2 ^ 31` or more reaches a signed overflow: at `count - 1` for
`2 ^ 31`, at the loop counter's `i++` past `INT_MAX` above it. -/
theorem setKeyFromPassphrase_overflow (c : CCrypter) (strKeyData chSalt : List UInt8)
    {nRounds : UInt32} (h : 2 ^ 31 ≤ nRounds.toNat) (hs : chSalt.length = sizes.saltSize) :
    setKeyFromPassphrase sizes sha512 c strKeyData chSalt nRounds 0 = .error "signed overflow" := by
  have hlt : nRounds.toNat < 2 ^ 32 := nRounds.toNat_lt_size
  have hne : toInt nRounds ≠ 0 := by rw [toInt_of_ge h]; omega
  simp only [setKeyFromPassphrase, if_neg (show ¬(nRounds.toNat < 1 ∨ chSalt.length ≠ sizes.saltSize)
    by omega), bytesToKeySHA512AES, if_neg hne, if_true]
  by_cases hmin : nRounds.toNat = 2 ^ 31
  · -- `count` is `INT_MIN`: `count - 1` overflows
    rw [intSub, if_neg (by rw [toInt_of_ge h]; unfold intMin; omega)]
    rfl
  · -- the bound is negative: the counter overflows
    rw [intSub, if_pos (by rw [toInt_of_ge h]; unfold intMin intMax; omega)]
    simp only [bind, Except.bind]
    rw [rehashLoop_neg sha512 (by rw [toInt_of_ge h]; omega) _ _ (le_refl _)]

/-- The round counts `2 ^ 31` and `2 ^ 32 - 1`, both accepted by the guard `nRounds < 1`, reach a
signed overflow instead of `nRounds - 1` re-hashes. -/
theorem setKeyFromPassphrase_large_rounds (c : CCrypter) (strKeyData : List UInt8) :
    setKeyFromPassphrase sizes sha512 c strKeyData (List.replicate sizes.saltSize 0) 0x80000000 0 =
        .error "signed overflow" ∧
      setKeyFromPassphrase sizes sha512 c strKeyData (List.replicate sizes.saltSize 0) 0xFFFFFFFF 0 =
        .error "signed overflow" :=
  ⟨setKeyFromPassphrase_overflow sizes sha512 c strKeyData _ (by decide)
      (List.length_replicate _ _),
    setKeyFromPassphrase_overflow sizes sha512 c strKeyData _ (by decide)
      (List.length_replicate _ _)⟩

end DeVault.Wallet
