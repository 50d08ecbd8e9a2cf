import DeVault.Wallet.OrdMap

/-!
# The stream format of the wallet database

The wallet's `Serialize` and `Unserialize` methods write through the stream operators of
serialize.h, which is not under src/. This module models the encodings those methods use as that
header defines them: little-endian fixed-width integers (`ser_writedata*`), `WriteCompactSize` and
`ReadCompactSize` with its canonical-form and `MAX_SIZE` checks, strings, `LIMITED_STRING`,
vectors, pairs and `std::map`. A reader returns the value and the rest of the stream, or `none`
where the C++ throws `std::ios_base::failure`.

## Main definitions

* `writeCompactSize`, `readCompactSize` — the size prefix of strings, vectors and maps.
* `writeString`, `readString`, `readLimitedString` — `std::string` and `LIMITED_STRING`.
* `writeVector`, `readVector`, `writeMap`, `readMap` — `std::vector` and `std::map`.
* `writeBits`, `readBits` — `int`, `unsigned int`, `int64_t`, `uint64_t` and `uint256`.

## Main results

* `readCompactSize_writeCompactSize` — sizes up to `MAX_SIZE` read back; larger ones throw
  (`readCompactSize_writeCompactSize_of_gt`).
* `readString_writeString`, `readVector_writeVector`, `readMap_writeMap`, `readBits_writeBits` —
  each reader reads back what its writer wrote, followed by any rest of the stream.
-/

namespace DeVault.Wallet

/-- Bytes compare as unsigned numbers, as `char_traits<char>::lt` and `memcmp` compare them. -/
instance byteLinearOrder : LinearOrder UInt8 :=
  LinearOrder.lift' (fun a : UInt8 => a.val) (fun _ _ h => UInt8.eq_of_val_eq h)

/-- The bytes of a stream, and of a `std::string`. -/
abbrev Bytes := List UInt8

/-- The bytes of an ASCII string literal of the source. -/
def ascii (s : String) : Bytes := s.data.map fun c => c.toNat.toUInt8

/-- `MAX_SIZE`, the largest size `ReadCompactSize` accepts. -/
def maxSize : Nat := 0x02000000

/-! ## Fixed-width integers -/

/-- `ser_writedata*`: the low `w` bytes of `n`, least significant first. -/
def writeLE : Nat → Nat → Bytes
  | 0, _ => []
  | w + 1, n => (n % 256).toUInt8 :: writeLE w (n / 256)

/-- The number a little-endian byte string stands for. -/
def fromLE : Bytes → Nat
  | [] => 0
  | b :: bs => b.toNat + 256 * fromLE bs

/-- `ser_readdata*`: `w` bytes read little-endian, or `none` at the end of the data. -/
def readLE (w : Nat) (s : Bytes) : Option (Nat × Bytes) :=
  if w ≤ s.length then some (fromLE (s.take w), s.drop w) else none

@[simp] theorem length_writeLE (w n : Nat) : (writeLE w n).length = w := by
  induction w generalizing n with
  | zero => rfl
  | succ w ih => simp [writeLE, ih]

theorem fromLE_writeLE (w n : Nat) : fromLE (writeLE w n) = n % 256 ^ w := by
  induction w generalizing n with
  | zero => simp [writeLE, fromLE, Nat.mod_one]
  | succ w ih =>
    have h : ((n % 256).toUInt8).toNat = n % 256 :=
      UInt8.toNat_ofNat_of_lt (Nat.mod_lt _ (by decide))
    rw [writeLE, fromLE, h, ih, Nat.pow_succ', Nat.mod_mul]

theorem readLE_writeLE (w n : Nat) (rest : Bytes) :
    readLE w (writeLE w n ++ rest) = some (n % 256 ^ w, rest) := by
  simp [readLE, List.take_left', List.drop_left', fromLE_writeLE]

/-- A fixed-width integer of the source (`int`, `unsigned int`, `int64_t`, `uint64_t`, `uint256`)
as its bits: written in `w / 8` little-endian bytes. -/
def writeBits {w : Nat} (x : BitVec w) : Bytes := writeLE (w / 8) x.toNat

/-- Reads a `w`-bit integer. -/
def readBits (w : Nat) (s : Bytes) : Option (BitVec w × Bytes) :=
  (readLE (w / 8) s).map fun r => (BitVec.ofNat w r.1, r.2)

theorem readBits_writeBits {w : Nat} (hw : w % 8 = 0) (x : BitVec w) (rest : Bytes) :
    readBits w (writeBits x ++ rest) = some (x, rest) := by
  have hpow : (256 : Nat) ^ (w / 8) = 2 ^ w := by
    rw [show (256 : Nat) = 2 ^ 8 by rfl, ← Nat.pow_mul,
      Nat.mul_div_cancel' (Nat.dvd_of_mod_eq_zero hw)]
  simp only [readBits, writeBits, readLE_writeLE, Option.map_some', hpow,
    Nat.mod_eq_of_lt x.isLt, BitVec.ofNat_toNat, BitVec.setWidth_eq]

@[simp] theorem length_writeBits {w : Nat} (x : BitVec w) : (writeBits x).length = w / 8 :=
  length_writeLE _ _

/-! ## Sizes -/

/-- `WriteCompactSize`: one byte below 253, else a marker and 2, 4 or 8 bytes. -/
def writeCompactSize (n : Nat) : Bytes :=
  if n < 253 then [n.toUInt8]
  else if n ≤ 0xffff then 253 :: writeLE 2 n
  else if n ≤ 0xffffffff then 254 :: writeLE 4 n
  else 255 :: writeLE 8 n

/-- `ReadCompactSize`: the size, or `none` where it throws: at the end of the data, on a
non-canonical form, or on a size above `MAX_SIZE`. -/
def readCompactSize : Bytes → Option (Nat × Bytes)
  | [] => none
  | chSize :: s =>
    let r : Option (Nat × Bytes) :=
      if chSize < 253 then some (chSize.toNat, s)
      else if chSize = 253 then (readLE 2 s).filter fun r => 253 ≤ r.1
      else if chSize = 254 then (readLE 4 s).filter fun r => 0x10000 ≤ r.1
      else (readLE 8 s).filter fun r => 0x100000000 ≤ r.1
    r.filter fun r => r.1 ≤ maxSize

theorem readCompactSize_writeCompactSize {n : Nat} (h : n ≤ maxSize) (rest : Bytes) :
    readCompactSize (writeCompactSize n ++ rest) = some (n, rest) := by
  unfold writeCompactSize
  split_ifs with h1 h2 h3
  · have hb : (n.toUInt8).toNat = n := UInt8.toNat_ofNat_of_lt (by show n < 256; omega)
    have hlt : n.toUInt8 < 253 := by
      show (n.toUInt8).toNat < 253
      omega
    simp [readCompactSize, hlt, hb, h]
  · simp [readCompactSize, readLE_writeLE, Nat.mod_eq_of_lt (show n < 256 ^ 2 by omega),
      Nat.mod_eq_of_lt (show n < 65536 by omega), Option.filter, h, Nat.le_of_not_lt h1]
  · simp [readCompactSize, readLE_writeLE, Nat.mod_eq_of_lt (show n < 256 ^ 4 by omega),
      Nat.mod_eq_of_lt (show n < 4294967296 by omega), Option.filter, h,
      show 0x10000 ≤ n by omega]
  · exact absurd h (by unfold maxSize; omega)

theorem readCompactSize_writeCompactSize_of_gt {n : Nat} (h : maxSize < n) (h64 : n < 2 ^ 64)
    (rest : Bytes) : readCompactSize (writeCompactSize n ++ rest) = none := by
  have hm : maxSize = 0x02000000 := rfl
  unfold writeCompactSize
  split_ifs with h1 h2 h3
  · omega
  · omega
  · simp [readCompactSize, readLE_writeLE, Nat.mod_eq_of_lt (show n < 256 ^ 4 by omega),
      Nat.mod_eq_of_lt (show n < 4294967296 by omega), Option.filter,
      show 0x10000 ≤ n by omega, show ¬n ≤ maxSize by omega]
  · simp [readCompactSize, readLE_writeLE, Nat.mod_eq_of_lt (show n < 256 ^ 8 by omega),
      Nat.mod_eq_of_lt (show n < 18446744073709551616 by omega), Option.filter,
      show 0x100000000 ≤ n by omega, show ¬n ≤ maxSize by omega]

theorem fromLE_lt (l : Bytes) : fromLE l < 256 ^ l.length := by
  induction l with
  | nil => simp [fromLE]
  | cons b l ih =>
    have hb : b.toNat < 256 := b.toNat_lt
    rw [fromLE, List.length_cons, Nat.pow_succ]
    omega

theorem writeLE_fromLE (l : Bytes) : writeLE l.length (fromLE l) = l := by
  induction l with
  | nil => rfl
  | cons b l ih =>
    have hb : b.toNat < 256 := b.toNat_lt
    rw [List.length_cons, writeLE, fromLE, show (b.toNat + 256 * fromLE l) % 256 = b.toNat by omega,
      show (b.toNat + 256 * fromLE l) / 256 = fromLE l by omega, ih]
    exact congrArg (· :: l) (UInt8.toNat.inj (UInt8.toNat_ofNat_of_lt hb))

/-- A size read from `w` bytes re-encodes to them. -/
theorem writeLE_readLE {w n : Nat} {s rest : Bytes} (h : readLE w s = some (n, rest)) :
    n < 256 ^ w ∧ writeLE w n ++ rest = s := by
  simp only [readLE] at h
  split_ifs at h with hw
  obtain ⟨rfl, rfl⟩ := Prod.mk.inj (Option.some.inj h)
  have hl : (s.take w).length = w := List.length_take_of_le hw
  have hlt := fromLE_lt (s.take w)
  have hw := writeLE_fromLE (s.take w)
  rw [hl] at hlt hw
  exact ⟨hlt, by rw [hw, List.take_append_drop]⟩

/-- `ReadCompactSize` accepts only the canonical form: what it reads is the encoding of the size
it returns. -/
theorem eq_writeCompactSize_of_readCompactSize {s rest : Bytes} {n : Nat}
    (h : readCompactSize s = some (n, rest)) : s = writeCompactSize n ++ rest := by
  have hm : maxSize = 0x02000000 := rfl
  match s, h with
  | [], h => simp [readCompactSize] at h
  | chSize :: s, h =>
    simp only [readCompactSize, Option.filter_eq_some, Option.mem_def] at h
    obtain ⟨hr, hmax⟩ := h
    have hmax : n ≤ 0x02000000 := hm ▸ of_decide_eq_true hmax
    split_ifs at hr with h1 h2 h3
    · -- a single byte
      obtain ⟨rfl, rfl⟩ := Prod.mk.inj (Option.some.inj hr)
      have h1 : chSize.toNat < 253 := h1
      have hb : chSize.toNat.toUInt8 = chSize :=
        UInt8.toNat.inj (UInt8.toNat_ofNat_of_lt chSize.toNat_lt)
      simp [writeCompactSize, h1, hb]
    · -- 253 and two bytes
      obtain ⟨hr, hlo⟩ := Option.filter_eq_some.1 hr
      obtain ⟨hlt, hs⟩ := writeLE_readLE hr
      have hlo : 253 ≤ n := of_decide_eq_true hlo
      simp [writeCompactSize, h2, hs, show ¬n < 253 by omega, show n ≤ 0xffff by omega]
    · -- 254 and four bytes
      obtain ⟨hr, hlo⟩ := Option.filter_eq_some.1 hr
      obtain ⟨hlt, hs⟩ := writeLE_readLE hr
      have hlo : 0x10000 ≤ n := of_decide_eq_true hlo
      simp [writeCompactSize, h3, hs, show ¬n < 253 by omega, show ¬n ≤ 0xffff by omega,
        show n ≤ 0xffffffff by omega]
    · -- 255 and eight bytes: above MAX_SIZE
      have hlo : 0x100000000 ≤ n := of_decide_eq_true (Option.filter_eq_some.1 hr).2
      omega

/-! ## Strings -/

/-- `operator<<` on a `std::string`: its size, then its bytes. -/
def writeString (str : Bytes) : Bytes := writeCompactSize str.length ++ str

/-- `operator>>` on a `std::string`. -/
def readString (s : Bytes) : Option (Bytes × Bytes) :=
  (readCompactSize s).bind fun r => if r.1 ≤ r.2.length then some (r.2.take r.1, r.2.drop r.1)
    else none

/-- `LIMITED_STRING(str, limit)` read: a size above `limit` throws before any byte is read. -/
def readLimitedString (limit : Nat) (s : Bytes) : Option (Bytes × Bytes) :=
  (readCompactSize s).bind fun r => if limit < r.1 then none
    else if r.1 ≤ r.2.length then some (r.2.take r.1, r.2.drop r.1) else none

theorem readString_writeString {str : Bytes} (h : str.length ≤ maxSize) (rest : Bytes) :
    readString (writeString str ++ rest) = some (str, rest) := by
  simp [readString, writeString, readCompactSize_writeCompactSize h]

theorem readLimitedString_writeString {limit : Nat} {str : Bytes} (hl : str.length ≤ limit)
    (h : str.length ≤ maxSize) (rest : Bytes) :
    readLimitedString limit (writeString str ++ rest) = some (str, rest) := by
  simp [readLimitedString, writeString, readCompactSize_writeCompactSize h, Nat.not_lt.2 hl]

theorem readLimitedString_writeString_of_lt {limit : Nat} {str : Bytes} (hl : limit < str.length)
    (h : str.length ≤ maxSize) (rest : Bytes) :
    readLimitedString limit (writeString str ++ rest) = none := by
  simp [readLimitedString, writeString, readCompactSize_writeCompactSize h, hl]

theorem readString_writeString_of_gt {str : Bytes} (h : maxSize < str.length)
    (h64 : str.length < 2 ^ 64) (rest : Bytes) : readString (writeString str ++ rest) = none := by
  simp [readString, writeString, readCompactSize_writeCompactSize_of_gt h h64]

/-- Two strings of at most `MAX_SIZE` bytes whose writes start two equal streams are equal, and
so are the streams after them. -/
theorem writeString_append_inj {a b x y : Bytes} (ha : a.length ≤ maxSize)
    (hb : b.length ≤ maxSize) (h : writeString a ++ x = writeString b ++ y) : a = b ∧ x = y := by
  have := (readString_writeString ha x).symm.trans (h ▸ readString_writeString hb y)
  simpa using this

/-- `operator>>` on a `char`. -/
def readChar : Bytes → Option (UInt8 × Bytes)
  | [] => none
  | c :: s => some (c, s)

/-! ## Vectors and maps -/

/-- `n` values read one after another. -/
def readMany {α : Type} (read : Bytes → Option (α × Bytes)) : Nat → Bytes → Option (List α × Bytes)
  | 0, s => some ([], s)
  | n + 1, s => (read s).bind fun r => (readMany read n r.2).map fun rs => (r.1 :: rs.1, rs.2)

/-- `operator<<` on a `std::vector`: its size, then its elements. -/
def writeVector {α : Type} (write : α → Bytes) (v : List α) : Bytes :=
  writeCompactSize v.length ++ v.flatMap write

/-- `operator>>` on a `std::vector`. -/
def readVector {α : Type} (read : Bytes → Option (α × Bytes)) (s : Bytes) :
    Option (List α × Bytes) :=
  (readCompactSize s).bind fun r => readMany read r.1 r.2

theorem readMany_flatMap {α : Type} {read : Bytes → Option (α × Bytes)} {write : α → Bytes}
    (v : List α) (hv : ∀ a ∈ v, ∀ rest, read (write a ++ rest) = some (a, rest)) (rest : Bytes) :
    readMany read v.length (v.flatMap write ++ rest) = some (v, rest) := by
  induction v with
  | nil => rfl
  | cons a v ih =>
    simp only [List.length_cons, readMany, List.flatMap_cons, List.append_assoc]
    rw [hv a (List.mem_cons_self a v), Option.some_bind,
      ih fun b hb => hv b (List.mem_cons_of_mem a hb)]
    rfl

theorem readVector_writeVector {α : Type} {read : Bytes → Option (α × Bytes)}
    {write : α → Bytes} (v : List α) (hv : ∀ a ∈ v, ∀ rest, read (write a ++ rest) = some (a, rest))
    (hlen : v.length ≤ maxSize) (rest : Bytes) :
    readVector read (writeVector write v ++ rest) = some (v, rest) := by
  rw [readVector, writeVector, List.append_assoc, readCompactSize_writeCompactSize hlen,
    Option.some_bind, readMany_flatMap v hv]

/-- A `std::pair` of strings, as `vOrderForm` holds them. -/
def writeStringPair (p : Bytes × Bytes) : Bytes := writeString p.1 ++ writeString p.2

/-- Reads a pair of strings. -/
def readStringPair (s : Bytes) : Option ((Bytes × Bytes) × Bytes) :=
  (readString s).bind fun a => (readString a.2).map fun b => ((a.1, b.1), b.2)

theorem readStringPair_writeStringPair {p : Bytes × Bytes} (h1 : p.1.length ≤ maxSize)
    (h2 : p.2.length ≤ maxSize) (rest : Bytes) :
    readStringPair (writeStringPair p ++ rest) = some (p, rest) := by
  simp [readStringPair, writeStringPair, readString_writeString h1, readString_writeString h2]

/-- `mapValue_t`, a `std::map<std::string, std::string>`. -/
abbrev MapValue := OrdMap Bytes Bytes

/-- `operator<<` on a `std::map`: its size, then its entries in key order. -/
def writeMap (m : MapValue) : Bytes := writeVector writeStringPair m.entries

/-- The entries of a map read one after another; `m.insert(mi, item)` keeps the value of a key
already present. -/
def readMapEntries : Nat → MapValue → Bytes → Option (MapValue × Bytes)
  | 0, m, s => some (m, s)
  | n + 1, m, s => (readStringPair s).bind fun r =>
    readMapEntries n (if (m.find? r.1.1).isSome then m else m.insert r.1.1 r.1.2) r.2

/-- `operator>>` on a `std::map`: cleared, then its entries. -/
def readMap (s : Bytes) : Option (MapValue × Bytes) :=
  (readCompactSize s).bind fun r => readMapEntries r.1 OrdMap.empty r.2

/-- Every string of the map has at most `MAX_SIZE` bytes, and so has its size. -/
def MapValue.Fits (m : MapValue) : Prop :=
  m.entries.length ≤ maxSize ∧ ∀ e ∈ m.entries, e.1.length ≤ maxSize ∧ e.2.length ≤ maxSize

instance (m : MapValue) : Decidable m.Fits := by unfold MapValue.Fits; infer_instance

/-- Reading entries in increasing key order after the entries of `m` appends them to `m`. -/
theorem readMapEntries_flatMap (m : MapValue) (es : List (Bytes × Bytes))
    (hs : (m.entries ++ es).Pairwise (fun a b => a.1 < b.1))
    (hfit : ∀ e ∈ es, e.1.length ≤ maxSize ∧ e.2.length ≤ maxSize) (rest : Bytes) :
    readMapEntries es.length m (es.flatMap writeStringPair ++ rest) =
      some (⟨m.entries ++ es, hs⟩, rest) := by
  induction es generalizing m with
  | nil => simp [readMapEntries]
  | cons e es ih =>
    have hlt : ∀ e' ∈ m.entries, e'.1 < e.1 := fun e' he' =>
      (List.pairwise_append.1 hs).2.2 e' he' e (List.mem_cons_self e es)
    have hfe := hfit e (List.mem_cons_self e es)
    have hs' : ((m.insert e.1 e.2).entries ++ es).Pairwise (fun a b => a.1 < b.1) := by
      simpa [OrdMap.insert, OrdMap.insertEntry_of_lt hlt] using hs
    rw [List.length_cons, List.flatMap_cons, List.append_assoc, readMapEntries,
      readStringPair_writeStringPair hfe.1 hfe.2, Option.some_bind]
    simp only [OrdMap.find?, OrdMap.lookup_eq_none_of_ne fun e he => ne_of_lt (hlt e he),
      Option.isSome_none,
      Bool.false_eq_true, if_false]
    rw [ih _ hs' fun e' he' => hfit e' (List.mem_cons_of_mem e he')]
    simp [OrdMap.insert, OrdMap.insertEntry_of_lt hlt]

theorem length_pos_writeString (str : Bytes) : 0 < (writeString str).length := by
  unfold writeString writeCompactSize
  split_ifs <;> simp

theorem length_le_length_flatMap {α β : Type} (f : α → List β) {l : List α} {a : α} (h : a ∈ l) :
    (f a).length ≤ (l.flatMap f).length :=
  (List.sublist_flatten_of_mem (List.mem_map_of_mem f h)).length_le

/-- A map whose written form has at most `MAX_SIZE` bytes fits `ReadCompactSize`. -/
theorem MapValue.fits_of_length_writeMap {m : MapValue} (h : (writeMap m).length ≤ maxSize) :
    m.Fits := by
  have hcount : ∀ es : List (Bytes × Bytes), es.length ≤ (es.flatMap writeStringPair).length := by
    intro es
    induction es with
    | nil => simp
    | cons e es ih =>
      have := length_pos_writeString e.1
      simp only [List.flatMap_cons, List.length_append, List.length_cons, writeStringPair] at ih ⊢
      omega
  have hwrite : (m.entries.flatMap writeStringPair).length ≤ maxSize := by
    simp only [writeMap, writeVector, List.length_append] at h
    omega
  refine ⟨(hcount _).trans hwrite, fun e he => ?_⟩
  have hp := (length_le_length_flatMap writeStringPair he).trans hwrite
  simp only [writeStringPair, writeString, List.length_append] at hp
  constructor <;> omega

theorem readMap_writeMap {m : MapValue} (h : m.Fits) (rest : Bytes) :
    readMap (writeMap m ++ rest) = some (m, rest) := by
  rw [readMap, writeMap, writeVector, List.append_assoc, readCompactSize_writeCompactSize h.1,
    Option.some_bind]
  exact (readMapEntries_flatMap OrdMap.empty m.entries (by simpa using m.sorted) h.2 rest).trans
    (by simp)

end DeVault.Wallet
