import DeVault.CashAddr.ConvertBits

/-!
# The CashAddr checksum

`PolyMod` runs a 40-bit register over a sequence of 5-bit symbols: each step shifts one symbol
in and folds the five bits that leave the register back in through the generator of the code.
A step is linear in exclusive or (`polyModStep_xor`) and, on 40-bit registers, injective in the
register (`polyModStep_inj`): the low five bits of the generator's words are 1, 2, 4, 8 and 16,
so the bits that left can be read back.

## Main results

* `verifyChecksum_append_iff` — eight symbols complete a payload to a checked sequence exactly
  when they are its `createChecksum`.
* `verifyChecksum_set` — changing one symbol of a checked sequence breaks the check.
* `polyModFrom_inj` — absorbing the same symbols from two different registers never meets.
-/

namespace DeVault.CashAddr

instance xorAssociative : Std.Associative (α := Nat) (· ^^^ ·) := ⟨Nat.xor_assoc⟩
instance xorCommutative : Std.Commutative (α := Nat) (· ^^^ ·) := ⟨Nat.xor_comm⟩

/-! ## The register step -/

/-- Modelled from the spec (§4.1, "a BCH-style 40-bit checksum"): one step of `PolyMod`
(`cashaddr.cpp`, not in the source tree). The feedback words are the CashAddr generator; with
them `encode` reproduces the addresses listed in `cashaddrenc_tests.cpp`. -/
def polyModStep (c d : Nat) : Nat :=
  let c0 := c >>> 35
  let c := ((c &&& 0x07ffffffff) <<< 5) ^^^ d
  let c := if c0 &&& 0x01 ≠ 0 then c ^^^ 0x98f2bc8e61 else c
  let c := if c0 &&& 0x02 ≠ 0 then c ^^^ 0x79b76d99e2 else c
  let c := if c0 &&& 0x04 ≠ 0 then c ^^^ 0xf33e5fb3c4 else c
  let c := if c0 &&& 0x08 ≠ 0 then c ^^^ 0xae2eabe2a8 else c
  if c0 &&& 0x10 ≠ 0 then c ^^^ 0x1e4f43e470 else c

/-- The register after absorbing `v`, starting from `c`. -/
def polyModFrom (c : Nat) (v : List Nat) : Nat := v.foldl polyModStep c

/-- `PolyMod`: the register starts at 1 and ends xored with 1. -/
def polyMod (v : List Nat) : Nat := polyModFrom 1 v ^^^ 1

/-- The word folded back for the bits `c0` that leave the register. -/
def feedback (c0 : Nat) : Nat :=
  (if c0.testBit 0 then 0x98f2bc8e61 else 0) ^^^ (if c0.testBit 1 then 0x79b76d99e2 else 0) ^^^
    (if c0.testBit 2 then 0xf33e5fb3c4 else 0) ^^^ (if c0.testBit 3 then 0xae2eabe2a8 else 0) ^^^
    (if c0.testBit 4 then 0x1e4f43e470 else 0)

@[simp] theorem polyModFrom_nil (c : Nat) : polyModFrom c [] = c := rfl

@[simp] theorem polyModFrom_cons (c d : Nat) (v : List Nat) :
    polyModFrom c (d :: v) = polyModFrom (polyModStep c d) v := rfl

theorem polyModFrom_append (c : Nat) (u v : List Nat) :
    polyModFrom c (u ++ v) = polyModFrom (polyModFrom c u) v := List.foldl_append _ _ _ _

private theorem ite_and_mask (i m : Nat) (hm : 2 ^ i = m) {x c g : Nat} :
    (if x &&& m ≠ 0 then c ^^^ g else c) = c ^^^ (if x.testBit i then g else 0) := by
  subst hm; rw [Nat.and_two_pow]; cases x.testBit i <;> simp

private theorem xor_shiftLeft (a b k : Nat) : (a ^^^ b) <<< k = (a <<< k) ^^^ (b <<< k) :=
  Nat.eq_of_testBit_eq fun i => by
    simp only [Nat.testBit_shiftLeft, Nat.testBit_xor]; cases decide (i ≥ k) <;> simp

private theorem xor_shiftRight (a b k : Nat) : (a ^^^ b) >>> k = (a >>> k) ^^^ (b >>> k) :=
  Nat.eq_of_testBit_eq fun i => by simp only [Nat.testBit_shiftRight, Nat.testBit_xor]

private theorem ite_testBit_xor (a b i g : Nat) :
    (if (a ^^^ b).testBit i then g else 0) =
      (if a.testBit i then g else 0) ^^^ (if b.testBit i then g else 0) := by
  rw [Nat.testBit_xor]; cases a.testBit i <;> cases b.testBit i <;> simp

/-- A step is a shift of the register, the new symbol, and the feedback word. -/
theorem polyModStep_eq (c d : Nat) :
    polyModStep c d = ((c &&& 0x07ffffffff) <<< 5) ^^^ d ^^^ feedback (c >>> 35) := by
  simp only [polyModStep, feedback]
  rw [ite_and_mask 4 0x10 rfl, ite_and_mask 3 0x08 rfl, ite_and_mask 2 0x04 rfl,
    ite_and_mask 1 0x02 rfl, ite_and_mask 0 0x01 rfl]
  ac_rfl

theorem feedback_xor (a b : Nat) : feedback (a ^^^ b) = feedback a ^^^ feedback b := by
  simp only [feedback, ite_testBit_xor]; ac_rfl

/-- The step is linear in exclusive or, in the register and the symbol together. -/
theorem polyModStep_xor (a b d e : Nat) :
    polyModStep (a ^^^ b) (d ^^^ e) = polyModStep a d ^^^ polyModStep b e := by
  simp only [polyModStep_eq, Nat.and_xor_distrib_right, xor_shiftLeft, xor_shiftRight,
    feedback_xor]
  ac_rfl

/-- Absorbing two sequences of one length from two registers is absorbing their pointwise
exclusive or from the exclusive or of the registers. -/
theorem polyModFrom_xor (a b : Nat) {u v : List Nat} (h : u.length = v.length) :
    polyModFrom (a ^^^ b) (List.zipWith (· ^^^ ·) u v) = polyModFrom a u ^^^ polyModFrom b v := by
  induction u generalizing a b v with
  | nil => cases v <;> simp_all
  | cons x u ih =>
    cases v with
    | nil => simp at h
    | cons y v => simp only [List.zipWith_cons_cons, polyModFrom_cons, polyModStep_xor,
        ih _ _ (Nat.succ.inj h)]

/-! ## Bounds and injectivity -/

/-- The arithmetic reading of a step: the low 35 bits move up one symbol. -/
theorem polyModStep_eq_arith (c d : Nat) :
    polyModStep c d = (c % 2 ^ 35 * 32) ^^^ d ^^^ feedback (c / 2 ^ 35) := by
  rw [polyModStep_eq, show (0x07ffffffff : Nat) = 2 ^ 35 - 1 from rfl,
    Nat.and_pow_two_sub_one_eq_mod, Nat.shiftLeft_eq, Nat.shiftRight_eq_div_pow]

theorem feedback_lt (c0 : Nat) : feedback c0 < 2 ^ 40 := by
  have h : ∀ (b : Bool) (g : Nat), g < 2 ^ 40 → (if b then g else 0) < 2 ^ 40 := by
    intro b g hg; split
    exacts [hg, Nat.two_pow_pos 40]
  exact Nat.xor_lt_two_pow (Nat.xor_lt_two_pow (Nat.xor_lt_two_pow (Nat.xor_lt_two_pow
    (h _ _ (by decide)) (h _ _ (by decide))) (h _ _ (by decide))) (h _ _ (by decide)))
    (h _ _ (by decide))

/-- The low five bits of the generator's words are 1, 2, 4, 8 and 16: the feedback word shows
which bits left the register. -/
theorem feedback_mod_32 {c0 : Nat} (h : c0 < 32) : feedback c0 % 32 = c0 := by
  revert c0; decide

/-- Below the bits of `2 ^ w * a`, adding and exclusive or agree. -/
theorem two_pow_mul_add_eq_xor {a b w : Nat} (hb : b < 2 ^ w) : 2 ^ w * a + b = 2 ^ w * a ^^^ b :=
  Nat.eq_of_testBit_eq fun i => by
    rw [Nat.testBit_mul_pow_two_add _ hb, Nat.testBit_xor, Nat.testBit_mul_pow_two]
    by_cases hi : i < w
    · simp [hi, Nat.not_le_of_lt hi]
    · have : b < 2 ^ i := Nat.lt_of_lt_of_le hb (Nat.pow_le_pow_right (by decide) (by omega))
      simp [hi, Nat.testBit_lt_two_pow this, Nat.le_of_not_lt hi]

/-- A register below `2 ^ 35` takes no feedback: the step shifts the symbol in. -/
theorem polyModStep_of_lt {c d : Nat} (hc : c < 2 ^ 35) (hd : d < 32) :
    polyModStep c d = c * 32 + d := by
  rw [polyModStep_eq_arith, Nat.mod_eq_of_lt hc, Nat.div_eq_of_lt hc,
    show feedback 0 = 0 from rfl, Nat.xor_zero, Nat.mul_comm]
  exact (two_pow_mul_add_eq_xor (show d < 2 ^ 5 from hd)).symm

theorem polyModStep_lt (c : Nat) {d : Nat} (hd : d < 32) : polyModStep c d < 2 ^ 40 := by
  rw [polyModStep_eq_arith]
  exact Nat.xor_lt_two_pow (Nat.xor_lt_two_pow (by omega) (by omega)) (feedback_lt _)

theorem polyModFrom_lt {c : Nat} {v : List Nat} (hc : c < 2 ^ 40) (hv : Fits 5 v) :
    polyModFrom c v < 2 ^ 40 := by
  induction v generalizing c with
  | nil => exact hc
  | cons d v ih =>
    exact ih (polyModStep_lt c (hv d (List.mem_cons_self d v)))
      fun x hx => hv x (List.mem_cons_of_mem d hx)

/-- On 40-bit registers only the zero register steps to zero on the zero symbol. -/
theorem polyModStep_eq_zero {x : Nat} (hx : x < 2 ^ 40) (h : polyModStep x 0 = 0) : x = 0 := by
  rw [polyModStep_eq_arith, Nat.xor_zero, Nat.xor_eq_zero] at h
  have hq : x / 2 ^ 35 < 32 := by omega
  have h0 : x / 2 ^ 35 = 0 := by
    rw [← feedback_mod_32 hq, ← h, Nat.mul_mod_left]
  rw [h0, show feedback 0 = 0 from rfl] at h
  omega

/-- The step is injective in the register, on 40-bit registers. -/
theorem polyModStep_inj {a b d : Nat} (ha : a < 2 ^ 40) (hb : b < 2 ^ 40)
    (h : polyModStep a d = polyModStep b d) : a = b := by
  have hz : polyModStep (a ^^^ b) (d ^^^ d) = 0 := by rw [polyModStep_xor, h, Nat.xor_self]
  rw [Nat.xor_self] at hz
  exact Nat.xor_eq_zero.1 (polyModStep_eq_zero (Nat.xor_lt_two_pow ha hb) hz)

/-- Absorbing the same symbols from two different 40-bit registers never meets. -/
theorem polyModFrom_inj {a b : Nat} {v : List Nat} (ha : a < 2 ^ 40) (hb : b < 2 ^ 40)
    (hv : Fits 5 v) (h : polyModFrom a v = polyModFrom b v) : a = b := by
  induction v generalizing a b with
  | nil => exact h
  | cons d v ih =>
    have hd := hv d (List.mem_cons_self d v)
    exact polyModStep_inj ha hb (ih (polyModStep_lt a hd) (polyModStep_lt b hd)
      (fun x hx => hv x (List.mem_cons_of_mem d hx)) h)

/-- From a register small enough that no symbol reaches the feedback, absorbing at most eight
symbols appends them to the register as 5-bit groups. -/
theorem polyModFrom_small {c : Nat} {cs : List Nat} (h : Fits 5 cs) (hl : cs.length ≤ 8)
    (hc : c < 2 ^ (5 * (8 - cs.length))) :
    polyModFrom c cs = c * 2 ^ (5 * cs.length) + fromGroups 5 cs := by
  induction cs generalizing c with
  | nil => simp
  | cons d cs ih =>
    have hd : d < 32 := h d (List.mem_cons_self d cs)
    have hk : 5 * (8 - cs.length) = 5 * (8 - (d :: cs).length) + 5 := by
      simp only [List.length_cons] at hl ⊢; omega
    have hc' : c < 2 ^ 35 :=
      Nat.lt_of_lt_of_le hc (Nat.pow_le_pow_right (by decide) (by simp; omega))
    have hpow : 2 ^ (5 * (8 - cs.length)) = 2 ^ (5 * (8 - (d :: cs).length)) * 32 := by
      rw [hk, Nat.pow_add]
    rw [polyModFrom_cons, polyModStep_of_lt hc' hd,
      ih (fun x hx => h x (List.mem_cons_of_mem d hx)) (by simp at hl; omega) (by rw [hpow]; omega),
      show d :: cs = [d] ++ cs from rfl, fromGroups_append, List.length_append,
      List.length_singleton]
    simp only [fromGroups, List.foldl_cons, List.foldl_nil, Nat.mul_add, Nat.pow_add]
    ring

/-! ## Checksums -/

/-- Modelled from the spec (§4.1): `ExpandPrefix`, the low five bits of every prefix character
followed by a zero separator. -/
def expandPrefix (pfx : String) : List Nat :=
  pfx.toList.map (fun ch => ch.toNat &&& 0x1f) ++ [0]

/-- Modelled from the spec (§4.1): `CreateChecksum`, the symbols xored into eight zero symbols
appended to the expanded prefix and the payload. -/
def createChecksum (pfx : String) (payload : List Nat) : List Nat :=
  let m := polyMod (expandPrefix pfx ++ payload ++ List.replicate 8 0)
  (List.range 8).map fun i => (m >>> (5 * (7 - i))) &&& 0x1f

/-- Modelled from the spec (§4.1): `VerifyChecksum`, the polymod of the expanded prefix and the
symbols is zero. -/
def verifyChecksum (pfx : String) (payload : List Nat) : Bool :=
  polyMod (expandPrefix pfx ++ payload) == 0

theorem expandPrefix_fits (pfx : String) : Fits 5 (expandPrefix pfx) := by
  intro x hx
  simp only [expandPrefix, List.mem_append, List.mem_map, List.mem_singleton] at hx
  obtain ⟨ch, -, rfl⟩ | rfl := hx
  · exact Nat.and_lt_two_pow _ (by decide)
  · decide

theorem polyModFrom_zero_replicate (n : Nat) : polyModFrom 0 (List.replicate n 0) = 0 := by
  induction n with
  | zero => rfl
  | succ n ih => exact ih

theorem zipWith_xor_zero_right (xs : List Nat) :
    List.zipWith (· ^^^ ·) xs (List.replicate xs.length 0) = xs := by
  induction xs with
  | nil => rfl
  | cons x xs ih => simp [List.replicate_succ, ih]

theorem zipWith_xor_zero_left (xs : List Nat) :
    List.zipWith (· ^^^ ·) (List.replicate xs.length 0) xs = xs := by
  induction xs with
  | nil => rfl
  | cons x xs ih => simp [List.replicate_succ, ih]

theorem createChecksum_eq (pfx : String) (payload : List Nat) :
    createChecksum pfx payload =
      toGroups 5 8 (polyMod (expandPrefix pfx ++ payload ++ List.replicate 8 0)) := by
  simp only [createChecksum, toGroups, List.range_succ, List.range_zero, List.map,
    List.nil_append, List.singleton_append, List.cons_append, Nat.shiftRight_eq_div_pow,
    show (0x1f : Nat) = 2 ^ 5 - 1 from rfl, Nat.and_pow_two_sub_one_eq_mod,
    Nat.div_div_eq_div_mul, ← Nat.pow_add, Nat.reduceSub, Nat.reduceMul, Nat.reduceAdd,
    Nat.pow_zero, Nat.div_one]

/-- Appending eight symbols to `xs` moves its polymod, with eight zero symbols in their place, by
the 40-bit number they spell. -/
theorem polyMod_append_eq {xs cs : List Nat} (hcs : Fits 5 cs) (hl : cs.length = 8) :
    polyMod (xs ++ cs) = polyMod (xs ++ List.replicate 8 0) ^^^ fromGroups 5 cs := by
  have hz : List.zipWith (· ^^^ ·) (xs ++ List.replicate 8 0) (List.replicate xs.length 0 ++ cs)
      = xs ++ cs := by
    rw [List.zipWith_append _ _ _ _ _ (List.length_replicate _ _).symm, zipWith_xor_zero_right,
      ← hl, zipWith_xor_zero_left]
  have hx := polyModFrom_xor 1 0 (u := xs ++ List.replicate 8 0)
    (v := List.replicate xs.length 0 ++ cs) (by simp [hl])
  rw [hz, Nat.xor_zero, polyModFrom_append 0, polyModFrom_zero_replicate,
    polyModFrom_small hcs (by omega) (by simp [hl]), hl, Nat.zero_mul, Nat.zero_add] at hx
  simp only [polyMod, hx]
  ac_rfl

/-- Eight 5-bit symbols complete `xs` to a zero polymod exactly when they spell the polymod of
`xs` with eight zero symbols. -/
theorem polyMod_append_eq_zero_iff {xs cs : List Nat} (hxs : Fits 5 xs) (hcs : Fits 5 cs)
    (hl : cs.length = 8) :
    polyMod (xs ++ cs) = 0 ↔ cs = toGroups 5 8 (polyMod (xs ++ List.replicate 8 0)) := by
  have hm : polyMod (xs ++ List.replicate 8 0) < 2 ^ 40 := by
    refine Nat.xor_lt_two_pow (polyModFrom_lt (by decide) (fits_append.2 ⟨hxs, ?_⟩)) (by decide)
    intro x hx; rw [List.eq_of_mem_replicate hx]; decide
  rw [polyMod_append_eq hcs hl, Nat.xor_eq_zero]
  constructor
  · intro h; rw [h, ← hl, toGroups_fromGroups hcs]
  · intro h; rw [h, fromGroups_toGroups, Nat.mod_eq_of_lt hm]

/-- The checksum of `payload` is the only eight-symbol completion that verifies. -/
theorem verifyChecksum_append_iff {pfx : String} {payload cs : List Nat} (hp : Fits 5 payload)
    (hcs : Fits 5 cs) (hl : cs.length = 8) :
    verifyChecksum pfx (payload ++ cs) = true ↔ cs = createChecksum pfx payload := by
  rw [verifyChecksum, beq_iff_eq, ← List.append_assoc, createChecksum_eq,
    polyMod_append_eq_zero_iff (fits_append.2 ⟨expandPrefix_fits pfx, hp⟩) hcs hl]

theorem createChecksum_fits (pfx : String) (payload : List Nat) :
    Fits 5 (createChecksum pfx payload) := by
  rw [createChecksum_eq]; exact toGroups_fits _ _ _

@[simp] theorem createChecksum_length (pfx : String) (payload : List Nat) :
    (createChecksum pfx payload).length = 8 := by
  simp [createChecksum]

theorem verifyChecksum_createChecksum {pfx : String} {payload : List Nat} (hp : Fits 5 payload) :
    verifyChecksum pfx (payload ++ createChecksum pfx payload) = true :=
  (verifyChecksum_append_iff hp (createChecksum_fits pfx payload) (by simp)).2 rfl

/-- Changing one symbol of a sequence changes the register it leaves. -/
theorem polyModFrom_set_ne {c : Nat} {v : List Nat} {j x : Nat} (hc : c < 2 ^ 40) (hv : Fits 5 v)
    (hx : x < 32) (hj : j < v.length) (hne : v[j] ≠ x) :
    polyModFrom c (v.set j x) ≠ polyModFrom c v := by
  induction v generalizing c j with
  | nil => simp at hj
  | cons y v ih =>
    have hy : y < 32 := hv y (List.mem_cons_self y v)
    have hv' : Fits 5 v := fun z hz => hv z (List.mem_cons_of_mem y hz)
    cases j with
    | zero =>
      intro h
      have hs := polyModFrom_inj (polyModStep_lt c hx) (polyModStep_lt c hy) hv' h
      have hz : polyModStep (c ^^^ c) (x ^^^ y) = 0 := by rw [polyModStep_xor, hs, Nat.xor_self]
      rw [Nat.xor_self, polyModStep_of_lt (by decide) (Nat.xor_lt_two_pow hx hy : x ^^^ y < 2 ^ 5),
        Nat.zero_mul, Nat.zero_add, Nat.xor_eq_zero] at hz
      exact hne (by simpa using hz.symm)
    | succ j => exact ih (polyModStep_lt c hy) hv' (by simpa using hj) (by simpa using hne)

/-- A sequence that verifies stops verifying when one of its symbols changes. -/
theorem verifyChecksum_set {pfx : String} {v : List Nat} {j x : Nat} (hv : Fits 5 v)
    (hx : x < 32) (hj : j < v.length) (hne : v[j] ≠ x) (h : verifyChecksum pfx v = true) :
    verifyChecksum pfx (v.set j x) = false := by
  have hc := polyModFrom_lt (by decide : 1 < 2 ^ 40) (expandPrefix_fits pfx)
  simp only [verifyChecksum, beq_iff_eq, polyMod, Nat.xor_eq_zero, polyModFrom_append,
    Bool.eq_false_iff, ne_eq] at h ⊢
  exact fun h' => polyModFrom_set_ne hc hv hx hj hne (h'.trans h.symm)

/-! ## Registers after a short prefix -/

/-- The register after at most seven symbols and the separator. -/
theorem polyModFrom_separator {ds : List Nat} (hd : Fits 5 ds) (hl : ds.length ≤ 7) :
    polyModFrom 1 (ds ++ [0]) =
      if ds.length = 7 then fromGroups 5 ds * 32 ^^^ 0x98f2bc8e61
      else 2 ^ (5 * (ds.length + 1)) + fromGroups 5 ds * 32 := by
  have hds : Fits 5 (ds ++ [0]) := fits_append.2 ⟨hd, by simp [Fits]⟩
  split
  · rename_i h7
    have hF := fromGroups_lt hd
    rw [h7] at hF
    rw [polyModFrom_append, polyModFrom_small hd (by omega) (by rw [h7]; decide), h7,
      polyModFrom_cons, polyModFrom_nil, polyModStep_eq_arith]
    have hm : (1 * 2 ^ (5 * 7) + fromGroups 5 ds) % 2 ^ 35 = fromGroups 5 ds := by omega
    have hq : (1 * 2 ^ (5 * 7) + fromGroups 5 ds) / 2 ^ 35 = 1 := by omega
    rw [hm, hq, Nat.xor_zero]
    rfl
  · have hlen : (ds ++ [0]).length = ds.length + 1 := by simp
    have hc : 1 < 2 ^ (5 * (8 - (ds ++ [0]).length)) :=
      Nat.one_lt_two_pow (by rw [hlen]; omega)
    rw [polyModFrom_small hds (by omega) hc, fromGroups_append_singleton, hlen]
    simp

private theorem mul_32_xor_mod (a g : Nat) : (a * 32 ^^^ g) % 32 = g % 32 :=
  Nat.eq_of_testBit_eq fun i => by
    rw [show (32 : Nat) = 2 ^ 5 from rfl, Nat.testBit_mod_two_pow, Nat.testBit_mod_two_pow,
      Nat.testBit_xor, Nat.mul_comm, Nat.testBit_mul_pow_two]
    by_cases hi : i < 5 <;> simp [hi, Nat.not_le_of_lt]

/-- Distinct sequences of at most seven symbols leave distinct registers once the separator is
absorbed. -/
theorem polyModFrom_separator_inj {ds es : List Nat} (hd : Fits 5 ds) (he : Fits 5 es)
    (hdl : ds.length ≤ 7) (hel : es.length ≤ 7)
    (h : polyModFrom 1 (ds ++ [0]) = polyModFrom 1 (es ++ [0])) : ds = es := by
  have hF := fromGroups_lt hd
  have hG := fromGroups_lt he
  have hpow : ∀ k, 2 ^ (5 * (k + 1)) = 32 * 2 ^ (5 * k) := fun k => by
    rw [Nat.mul_succ, Nat.pow_add, Nat.mul_comm]
  have hmono : ∀ k l, k < l → 32 * 2 ^ (5 * k) ≤ 2 ^ (5 * l) := fun k l hkl => by
    rw [← hpow]; exact Nat.pow_le_pow_right (by decide) (by omega)
  rw [polyModFrom_separator hd hdl, polyModFrom_separator he hel] at h
  have hlen : ds.length = es.length := by
    split at h <;> split at h
    · omega
    · have := congrArg (· % 32) h
      simp only [mul_32_xor_mod, hpow] at this
      omega
    · have := congrArg (· % 32) h
      simp only [mul_32_xor_mod, hpow] at this
      omega
    · rw [hpow, hpow] at h
      rcases Nat.lt_trichotomy ds.length es.length with hlt | heq | hgt
      · have := hmono _ _ hlt; omega
      · exact heq
      · have := hmono _ _ hgt; omega
  have hv : fromGroups 5 ds = fromGroups 5 es := by
    rw [hlen] at h
    split at h
    · exact Nat.eq_of_mul_eq_mul_right (by decide) (Nat.xor_left_inj.1 h)
    · omega
  rw [← toGroups_fromGroups hd, ← toGroups_fromGroups he, hlen, hv]

end DeVault.CashAddr
