import DeVault.Wallet.Serialize

/-!
# Order positions in `mapValue`

A wallet transaction and an accounting entry keep their position in the ordered transaction list
as `nOrderPos`, an `int64_t`, and store it in their `mapValue` as the decimal text of key `"n"`
(`WriteOrderPos`, with `i64tostr`), read back with `std::atoll` (`ReadOrderPos`); `-1` stands for
no position and is stored as no key. `nTimeSmart` is stored the same way under `"timesmart"`, as
`"%u"` text.

## Main definitions

* `decimal` — the decimal digits of a natural number, as `"%u"` prints them.
* `i64tostr`, `atoll` — the text of an `int64_t`, and `std::atoll` on a string's `c_str()`.
* `readOrderPos`, `writeOrderPos` — `ReadOrderPos` and `WriteOrderPos`.

## Main results

* `atoll_i64tostr` — `atoll` reads back every `int64_t`, `INT64_MIN` included.
* `atoll_decimal_setWidth` — `(unsigned int)atoll` reads back every `"%u"` text of a 32-bit value.
* `readOrderPos_writeOrderPos` — over a map without `"n"`, `ReadOrderPos` reads back what
  `WriteOrderPos` stored, `-1` included.
-/

namespace DeVault.Wallet

/-! ## Decimal text -/

/-- `isdigit`. -/
def isDigit (c : UInt8) : Bool := 48 ≤ c.toNat && c.toNat ≤ 57

/-- `isspace` in the C locale: space, `\t`, `\n`, `\v`, `\f`, `\r`. -/
def isSpace (c : UInt8) : Bool := c.toNat = 32 || (9 ≤ c.toNat && c.toNat ≤ 13)

/-- The decimal digits of `n`, most significant first, with at most `fuel` digits. -/
def decimalDigits : Nat → Nat → Bytes
  | 0, _ => []
  | fuel + 1, n =>
    (if n / 10 = 0 then [] else decimalDigits fuel (n / 10)) ++ [(48 + n % 10).toUInt8]

/-- `strprintf("%u", n)`: the decimal text of `n`. -/
def decimal (n : Nat) : Bytes := decimalDigits (n + 1) n

/-- `i64tostr`, `strprintf("%d", n)`: the decimal text of an `int64_t`, with `'-'` if negative. -/
def i64tostr (n : BitVec 64) : Bytes :=
  if n.toInt < 0 then ascii "-" ++ decimal n.toInt.natAbs else decimal n.toInt.toNat

/-- The digits `strtoll` reads at the head of `s`, accumulated onto `acc`. -/
def digitsValue : Nat → Bytes → Nat
  | acc, [] => acc
  | acc, c :: s => if isDigit c then digitsValue (acc * 10 + (c.toNat - 48)) s else acc

/-- `std::atoll(s.c_str())`: the bytes before the first NUL, white space skipped, an optional sign
and the leading digits. Out of range the result is undefined in C; glibc's `strtoll`, which its
`atoll` calls, clamps to `long long`, and so does this model. -/
def atoll (s : Bytes) : BitVec 64 :=
  let v : Int := match (s.takeWhile (· ≠ 0)).dropWhile isSpace with
    | 45 :: r => -(digitsValue 0 r : Int)
    | 43 :: r => digitsValue 0 r
    | r => digitsValue 0 r
  BitVec.ofInt 64 (max (-2 ^ 63) (min v (2 ^ 63 - 1)))

theorem toNat_digit {k : Nat} (hk : k < 10) : ((48 + k).toUInt8).toNat = 48 + k :=
  UInt8.toNat_ofNat_of_lt (show 48 + k < 256 by omega)

theorem digitsValue_append {acc : Nat} {l : Bytes} (hl : ∀ c ∈ l, isDigit c) (r : Bytes) :
    digitsValue acc (l ++ r) = digitsValue (digitsValue acc l) r := by
  induction l generalizing acc with
  | nil => rfl
  | cons c l ih =>
    simp only [List.cons_append, digitsValue, hl c (List.mem_cons_self c l), if_true]
    exact ih fun c hc => hl c (List.mem_cons_of_mem _ hc)

/-- With enough digits of room, `decimalDigits` writes only digits, and reading them gives `n`. -/
theorem decimalDigits_spec : ∀ (fuel n : Nat), n < 10 ^ fuel →
    (∀ c ∈ decimalDigits fuel n, isDigit c) ∧ digitsValue 0 (decimalDigits fuel n) = n
  | 0, n, h => by
    rw [Nat.pow_zero] at h
    refine ⟨fun c hc => ?_, ?_⟩
    · cases hc
    · simp [decimalDigits, digitsValue]
      omega
  | fuel + 1, n, h => by
    have hd : ((48 + n % 10).toUInt8).toNat = 48 + n % 10 := toNat_digit (Nat.mod_lt _ (by decide))
    have hdig : isDigit (48 + n % 10).toUInt8 := by simp [isDigit, hd]; omega
    by_cases hq : n / 10 = 0
    · simp only [decimalDigits, hq, if_true, List.nil_append, List.mem_singleton]
      refine ⟨fun c hc => hc ▸ hdig, ?_⟩
      simp [digitsValue, hdig, hd]
      omega
    · have ih := decimalDigits_spec fuel (n / 10) (by rw [Nat.pow_succ] at h; omega)
      simp only [decimalDigits, hq, if_false]
      refine ⟨fun c hc => ?_, ?_⟩
      · rcases List.mem_append.1 hc with hc | hc
        exacts [ih.1 c hc, List.mem_singleton.1 hc ▸ hdig]
      · rw [digitsValue_append ih.1, ih.2]
        simp [digitsValue, hdig, hd]
        omega

theorem decimal_spec (n : Nat) :
    (∀ c ∈ decimal n, isDigit c) ∧ digitsValue 0 (decimal n) = n :=
  decimalDigits_spec (n + 1) n (Nat.lt_pow_self (by decide) _ |>.trans
    (Nat.pow_lt_pow_right (by decide) (Nat.lt_succ_self n)))

theorem decimal_ne_nil (n : Nat) : decimal n ≠ [] := by
  simp [decimal, decimalDigits]

/-- `atoll` on a digit string reads its value, clamped to `long long`. -/
theorem atoll_of_digits {l : Bytes} (hl : ∀ c ∈ l, isDigit c) (hne : l ≠ []) :
    atoll l = BitVec.ofInt 64 (max (-2 ^ 63) (min (digitsValue 0 l : Int) (2 ^ 63 - 1))) := by
  have hnz : ∀ c ∈ l, c ≠ 0 := fun c hc h0 => by simpa [h0, isDigit] using hl c hc
  obtain ⟨c, l', rfl⟩ := List.exists_cons_of_ne_nil hne
  have hc := hl c (List.mem_cons_self c l')
  have hsp : isSpace c = false := by
    simp only [isDigit, Bool.and_eq_true, decide_eq_true_eq] at hc
    simp [isSpace]
    omega
  have hsign : c ≠ 45 ∧ c ≠ 43 := by
    constructor <;> rintro rfl <;> exact absurd hc (by decide)
  rw [atoll, List.takeWhile_eq_self_iff.2 fun x hx => decide_eq_true (hnz x hx),
    List.dropWhile_cons_of_neg (by simp [hsp])]
  split
  · rename_i r h; exact absurd (List.cons.inj h).1 hsign.1
  · rename_i r h; exact absurd (List.cons.inj h).1 hsign.2
  · rfl

/-- `atoll` on a minus sign and a digit string reads the negated value, clamped. -/
theorem atoll_minus_digits {l : Bytes} (hl : ∀ c ∈ l, isDigit c) :
    atoll (ascii "-" ++ l) =
      BitVec.ofInt 64 (max (-2 ^ 63) (min (-(digitsValue 0 l : Int)) (2 ^ 63 - 1))) := by
  have hnz : ∀ c ∈ ascii "-" ++ l, c ≠ 0 := by
    intro c hc h0
    rcases List.mem_append.1 hc with hc | hc
    · simp only [ascii, h0] at hc
      exact absurd hc (by decide)
    · simpa [h0, isDigit] using hl c hc
  rw [atoll, List.takeWhile_eq_self_iff.2 fun x hx => decide_eq_true (hnz x hx)]
  rfl

theorem ofInt_toInt (x : BitVec 64) : BitVec.ofInt 64 x.toInt = x :=
  BitVec.eq_of_toInt_eq (by rw [BitVec.toInt_ofInt, BitVec.toInt_eq_toNat_bmod, Int.bmod_bmod])

theorem toInt_mem (x : BitVec 64) : -2 ^ 63 ≤ x.toInt ∧ x.toInt ≤ 2 ^ 63 - 1 := by
  rw [BitVec.toInt_eq_toNat_bmod]
  have h1 := Int.le_bmod (x := (x.toNat : Int)) (m := 2 ^ 64) (by decide)
  have h2 := Int.bmod_lt (x := (x.toNat : Int)) (m := 2 ^ 64) (by decide)
  constructor <;> omega

/-- `atoll` reads back the text `i64tostr` writes, for every `int64_t`. -/
theorem atoll_i64tostr (x : BitVec 64) : atoll (i64tostr x) = x := by
  obtain ⟨hlo, hhi⟩ := toInt_mem x
  unfold i64tostr
  split
  · rename_i hneg
    rw [atoll_minus_digits (decimal_spec _).1, (decimal_spec _).2,
      show -((x.toInt.natAbs : Nat) : Int) = x.toInt by omega,
      min_eq_left hhi, max_eq_right hlo, ofInt_toInt]
  · rename_i hpos
    rw [atoll_of_digits (decimal_spec _).1 (decimal_ne_nil _), (decimal_spec _).2,
      show ((x.toInt.toNat : Nat) : Int) = x.toInt by omega,
      min_eq_left hhi, max_eq_right hlo, ofInt_toInt]

/-- `(unsigned int)std::atoll` reads back the `"%u"` text of every 32-bit value. -/
theorem atoll_decimal_setWidth (x : BitVec 32) : (atoll (decimal x.toNat)).setWidth 32 = x := by
  have hx := x.isLt
  rw [atoll_of_digits (decimal_spec _).1 (decimal_ne_nil _), (decimal_spec _).2,
    min_eq_left (by omega), max_eq_right (by omega)]
  apply BitVec.eq_of_toNat_eq
  rw [BitVec.toNat_setWidth, BitVec.toNat_ofInt]
  omega

/-! ## ReadOrderPos and WriteOrderPos -/

/-- `ReadOrderPos`: `-1` without key `"n"`, else `atoll` of its value. -/
def readOrderPos (mapValue : MapValue) : BitVec 64 :=
  match mapValue.find? (ascii "n") with
  | none => -1
  | some v => atoll v

/-- `WriteOrderPos`: nothing for `-1`, else `mapValue["n"] = i64tostr(nOrderPos)`. -/
def writeOrderPos (nOrderPos : BitVec 64) (mapValue : MapValue) : MapValue :=
  if nOrderPos = -1 then mapValue else mapValue.insert (ascii "n") (i64tostr nOrderPos)

theorem readOrderPos_writeOrderPos {mapValue : MapValue} (h : mapValue.find? (ascii "n") = none)
    (nOrderPos : BitVec 64) : readOrderPos (writeOrderPos nOrderPos mapValue) = nOrderPos := by
  unfold writeOrderPos
  split
  · rename_i hm; simp [readOrderPos, h, hm]
  · simp [readOrderPos, atoll_i64tostr]

end DeVault.Wallet
