import DeVault.CashAddr.Codec
import Mathlib.Tactic.IntervalCases

/-!
# CashAddr content and destinations

A CashAddr payload carries a version byte and a hash. The version byte holds the type in bits 3
to 6, a reserved bit 7 and the size class in bits 0 to 2; the size class names one of eight hash
lengths. `packCashAddrContent` builds the payload and `unpackCashAddrContent` reads it back,
checking the padding, the reserved bit and the length.

## Main definitions

* `CashAddrContent`, `CTxDestination`, `CChainParams`.
* `encodeCashAddrContent`, `decodeCashAddrContent`, `encodeCashAddr`, `decodeCashAddr`.

## Main results

* `unpack_packCashAddrContent`, `packCashAddrContent_unpack` — the payload checks accept exactly
  the packed contents of types below 16.
-/

namespace DeVault.CashAddr

/-! ## Content -/

/-- `CashAddrContent`: a type, an 8-bit enumeration, and a hash. -/
structure CashAddrContent where
  type : UInt8
  hash : List UInt8
  deriving DecidableEq, Repr

/-- The content every failed decoding returns: type 0 and no hash. -/
def CashAddrContent.empty : CashAddrContent := ⟨0, []⟩

/-- `PUBKEY_TYPE`. -/
def pubkeyType : UInt8 := 0

/-- `SCRIPT_TYPE`. -/
def scriptType : UInt8 := 1

/-- The hash length, in bytes, of each size class (§3). -/
def hashSizes : List Nat := [20, 24, 28, 32, 40, 48, 56, 64]

/-- Modelled from the spec (§4.2): `PackCashAddrContent` (`cashaddrenc.cpp`, not in the source
tree). The size class is the position of the hash length in the table, and the source throws
(here `none`) when there is none. The version byte `type << 3 | size class`, truncated to a byte,
and the hash are regrouped into 5-bit values, as `encode_decode_all_sizes` reads them. -/
def packCashAddrContent (content : CashAddrContent) : Option (List Nat) :=
  match hashSizes.indexOf? content.hash.length with
  | none => none
  | some encodedSize =>
    let versionByte := (content.type.toNat <<< 3) % 256 ||| encodedSize
    some (convertBits 8 5 true (versionByte :: content.hash.map UInt8.toNat))

/-- Modelled from the spec (§4.2 and its edge-case table) and `cashaddrenc_tests.cpp`: the checks
`DecodeCashAddrContent` makes on a payload. It must be nonempty; its padding must be shorter than
a symbol (`check_size`) and zero (`check_padding`); the reserved bit, bit 4 of the first symbol
(`check_type`) and so bit 7 of the version byte, must be clear; and the hash length must be the
one the size class names. -/
def unpackCashAddrContent (payload : List Nat) : Option CashAddrContent :=
  if payload = [] then none
  else
    let extrabits := payload.length * 5 % 8
    if extrabits ≥ 5 then none
    else if payload.getLastD 0 &&& ((1 <<< extrabits) - 1) ≠ 0 then none
    else
      let data := convertBits 5 8 false payload
      let version := data.headD 0
      if version &&& 0x80 ≠ 0 then none
      else if data.length ≠ hashSizes.getD (version &&& 0x07) 0 + 1 then none
      else some ⟨UInt8.ofNat ((version >>> 3) &&& 0x1f), data.tail.map UInt8.ofNat⟩

/-- `EncodeCashAddr(prefix, content)`: fails where `packCashAddrContent` throws. -/
def encodeCashAddrContent (pfx : String) (content : CashAddrContent) : Option String :=
  (packCashAddrContent content).map (encode pfx)

/-- Modelled from the spec (§4.2): `DecodeCashAddrContent`. A failed `decode`, a prefix other than
the expected one, or a payload that fails the checks gives the empty content. -/
def decodeCashAddrContent (addr expectedPrefix : String) : CashAddrContent :=
  match decode addr expectedPrefix with
  | none => .empty
  | some (pfx, payload) =>
    if pfx = expectedPrefix then (unpackCashAddrContent payload).getD .empty else .empty

/-! ## Packing and unpacking -/

theorem uint8_toNat_ofNat (n : Nat) : (UInt8.ofNat n).toNat = n % 256 := rfl

theorem uint8_toNat_lt (x : UInt8) : x.toNat < 256 := x.toNat_lt_size

theorem uint8_ofNat_toNat (x : UInt8) : UInt8.ofNat x.toNat = x :=
  UInt8.toNat.inj (by rw [uint8_toNat_ofNat]; exact Nat.mod_eq_of_lt (uint8_toNat_lt x))

theorem map_toNat_map_ofNat {l : List Nat} (h : ∀ x ∈ l, x < 256) :
    (l.map UInt8.ofNat).map UInt8.toNat = l := by
  rw [List.map_map]
  exact (List.map_congr_left fun x hx => Nat.mod_eq_of_lt (h x hx)).trans (List.map_id _)

theorem hashSizes_indexOf? {i : Nat} (hi : i < 8) :
    hashSizes.indexOf? (hashSizes.getD i 0) = some i := by
  revert i; decide

theorem hashSizes_indexOf?_eq_some {n i : Nat} (h : hashSizes.indexOf? n = some i) :
    i < 8 ∧ hashSizes.getD i 0 = n := by
  obtain ⟨hi, hn, -⟩ := List.findIdx?_eq_some_iff_getElem.1 h
  exact ⟨hi, by rw [List.getD_eq_getElem _ _ hi]; simpa using hn⟩

theorem mem_hashSizes {n : Nat} : n ∈ hashSizes ↔ ∃ i < 8, hashSizes.getD i 0 = n := by
  constructor
  · intro h
    obtain ⟨i, hi⟩ := Option.isSome_iff_exists.1
      (by unfold List.indexOf?; rw [List.findIdx?_isSome]
          exact List.any_eq_true.2 ⟨n, h, beq_self_eq_true n⟩ : (hashSizes.indexOf? n).isSome)
    exact ⟨i, hashSizes_indexOf?_eq_some hi⟩
  · rintro ⟨i, hi, rfl⟩
    interval_cases i <;> decide

/-- The version byte of a type below 16 and a size class: the type above the size class. -/
theorem versionByte_eq {t s : Nat} (ht : t < 16) (hs : s < 8) :
    (t <<< 3) % 256 ||| s = t * 8 + s := by
  rw [Nat.shiftLeft_eq, Nat.mod_eq_of_lt (by omega), Nat.mul_comm,
    ← Nat.mul_add_lt_is_or (show s < 2 ^ 3 by omega)]

theorem and_0x80_eq_zero {v : Nat} (hv : v < 256) : v &&& 0x80 = 0 ↔ v < 128 := by
  rw [show (0x80 : Nat) = 2 ^ 7 from rfl, Nat.and_two_pow, Nat.testBit_to_div_mod]
  by_cases h : v / 2 ^ 7 % 2 = 1 <;> simp [h] <;> omega

theorem versionByte_type (v : Nat) : (v >>> 3) &&& 0x1f = v / 8 % 32 := by
  rw [Nat.shiftRight_eq_div_pow, show (0x1f : Nat) = 2 ^ 5 - 1 from rfl,
    Nat.and_pow_two_sub_one_eq_mod]

theorem versionByte_size (v : Nat) : v &&& 0x07 = v % 8 := by
  rw [show (0x07 : Nat) = 2 ^ 3 - 1 from rfl, Nat.and_pow_two_sub_one_eq_mod]

theorem packCashAddrContent_eq_some {c : CashAddrContent} {payload : List Nat} :
    packCashAddrContent c = some payload ↔ ∃ s, hashSizes.indexOf? c.hash.length = some s ∧
      payload = convertBits 8 5 true (((c.type.toNat <<< 3) % 256 ||| s) ::
        c.hash.map UInt8.toNat) := by
  unfold packCashAddrContent
  split <;> simp_all [eq_comm]

/-- What `unpackCashAddrContent` checks when it succeeds. -/
theorem unpackCashAddrContent_eq_some {payload : List Nat} {c : CashAddrContent} :
    unpackCashAddrContent payload = some c ↔ payload ≠ [] ∧ payload.length * 5 % 8 < 5 ∧
      payload.getLastD 0 &&& ((1 <<< (payload.length * 5 % 8)) - 1) = 0 ∧
      (convertBits 5 8 false payload).headD 0 &&& 0x80 = 0 ∧
      (convertBits 5 8 false payload).length =
        hashSizes.getD ((convertBits 5 8 false payload).headD 0 &&& 0x07) 0 + 1 ∧
      c = ⟨UInt8.ofNat (((convertBits 5 8 false payload).headD 0 >>> 3) &&& 0x1f),
        (convertBits 5 8 false payload).tail.map UInt8.ofNat⟩ := by
  simp only [unpackCashAddrContent, ne_eq, ge_iff_le, Option.ite_none_left_eq_some,
    Option.some.injEq, not_le, not_not, @eq_comm _ c]

/-- Unpacking a packed content of a type below 16 gives it back. -/
theorem unpack_packCashAddrContent {c : CashAddrContent} {payload : List Nat}
    (h : packCashAddrContent c = some payload) (ht : c.type.toNat < 16) :
    unpackCashAddrContent payload = some c := by
  obtain ⟨s, hs, rfl⟩ := packCashAddrContent_eq_some.1 h
  obtain ⟨hs8, hsize⟩ := hashSizes_indexOf?_eq_some hs
  rw [versionByte_eq ht hs8]
  set bytes := (c.type.toNat * 8 + s) :: c.hash.map UInt8.toNat with hbytes
  have hfits : Fits 8 bytes := by
    intro x hx
    rcases List.mem_cons.1 hx with rfl | hx
    · show _ < 256; omega
    · obtain ⟨b, -, rfl⟩ := List.mem_map.1 hx; exact uint8_toNat_lt b
  have hdata := convertBits_unpad_pad hfits
  obtain ⟨he, hz⟩ := convertBits_pad_padding bytes
  have hne : convertBits 8 5 true bytes ≠ [] := fun h0 => by
    rw [h0] at hdata; simp [convertBits, toGroups, hbytes] at hdata
  rw [Nat.mul_comm] at he hz
  refine unpackCashAddrContent_eq_some.2 ⟨hne, he, ?_, ?_, ?_, ?_⟩
  · rw [getLastD_and_mask hne (Nat.le_of_lt he)]; exact hz
  · rw [hdata, hbytes, List.headD_cons, and_0x80_eq_zero (by omega)]; omega
  · rw [hdata, hbytes, List.headD_cons, versionByte_size,
      show (c.type.toNat * 8 + s) % 8 = s by omega, hsize]
    simp
  · rw [hdata, hbytes, List.headD_cons, versionByte_type, List.tail_cons, List.map_map,
      show (c.type.toNat * 8 + s) / 8 % 32 = c.type.toNat by omega, uint8_ofNat_toNat,
      show (UInt8.ofNat ∘ UInt8.toNat) = id from funext uint8_ofNat_toNat, List.map_id]

/-- A payload that passes the checks is the packing of the content it stands for, which has a
type below 16 and a hash of one of the eight lengths. -/
theorem packCashAddrContent_unpack {payload : List Nat} {c : CashAddrContent}
    (hp : Fits 5 payload) (h : unpackCashAddrContent payload = some c) :
    packCashAddrContent c = some payload ∧ c.type.toNat < 16 ∧ c.hash.length ∈ hashSizes := by
  obtain ⟨h1, h2, h3, h4, h5, rfl⟩ := unpackCashAddrContent_eq_some.1 h
  have hfits : Fits 8 (convertBits 5 8 false payload) := convertBits_fits 5 8 false payload
  have hpad : convertBits 8 5 true (convertBits 5 8 false payload) = payload :=
    convertBits_pad_unpad hp (by rw [Nat.mul_comm]; exact h2)
      (by rw [Nat.mul_comm, ← getLastD_and_mask h1 (by omega)]; exact h3)
  generalize convertBits 5 8 false payload = data at hfits hpad h4 h5
  obtain ⟨v, rest, rfl⟩ : ∃ v rest, data = v :: rest := by
    cases data with
    | nil => simp at h5
    | cons v rest => exact ⟨v, rest, rfl⟩
  simp only [List.headD_cons, List.length_cons, Nat.add_right_cancel_iff, List.tail_cons,
    versionByte_size, versionByte_type] at h4 h5 ⊢
  have hv : v < 256 := hfits v (List.mem_cons_self v rest)
  have h128 : v < 128 := (and_0x80_eq_zero hv).1 h4
  have hrest := map_toNat_map_ofNat fun x hx => hfits x (List.mem_cons_of_mem v hx)
  have htype : (UInt8.ofNat (v / 8 % 32)).toNat = v / 8 := by
    rw [uint8_toNat_ofNat]; omega
  have hlen : (rest.map UInt8.ofNat).length = hashSizes.getD (v % 8) 0 := by simpa using h5
  refine ⟨?_, by rw [htype]; omega, mem_hashSizes.2 ⟨v % 8, by omega, hlen.symm⟩⟩
  rw [packCashAddrContent_eq_some]
  refine ⟨v % 8, by rw [hlen]; exact hashSizes_indexOf? (by omega), ?_⟩
  rw [htype, hrest, versionByte_eq (by omega) (by omega), show v / 8 * 8 + v % 8 = v by omega,
    hpad]

/-! ## Destinations -/

/-- `uint160`: twenty bytes. -/
structure UInt160 where
  bytes : List UInt8
  length_eq : bytes.length = 20
  deriving DecidableEq

/-- `CTxDestination`: no destination, a key hash or a script hash. -/
inductive CTxDestination
  | noDestination
  | keyID (id : UInt160)
  | scriptID (id : UInt160)
  deriving DecidableEq

/-- The part of `CChainParams` CashAddr reads: the network's prefix. -/
structure CChainParams where
  cashAddrPrefix : String

/-- Modelled from the spec (§4.2): `DecodeCashAddrDestination`. Only 20-byte hashes of type 0 or
1 name a destination. -/
def decodeCashAddrDestination (content : CashAddrContent) : CTxDestination :=
  if h : content.hash.length = 20 then
    if content.type = pubkeyType then .keyID ⟨content.hash, h⟩
    else if content.type = scriptType then .scriptID ⟨content.hash, h⟩
    else .noDestination
  else .noDestination

/-- Modelled from the spec (§4.2): `EncodeCashAddr(destination, params)`. A key hash is packed
with type 0, a script hash with type 1; no destination encodes as the empty string, which
`encode_decode` decodes back to no destination. -/
def encodeCashAddr (dst : CTxDestination) (params : CChainParams) : String :=
  match dst with
  | .noDestination => ""
  | .keyID id => (encodeCashAddrContent params.cashAddrPrefix ⟨pubkeyType, id.bytes⟩).getD ""
  | .scriptID id => (encodeCashAddrContent params.cashAddrPrefix ⟨scriptType, id.bytes⟩).getD ""

/-- `DecodeCashAddr`. -/
def decodeCashAddr (addr : String) (params : CChainParams) : CTxDestination :=
  decodeCashAddrDestination (decodeCashAddrContent addr params.cashAddrPrefix)

/-- A nonempty decoded content comes from a successful `decode` under the expected prefix and a
payload that passes the checks. -/
theorem decodeCashAddrContent_ne_empty {addr pfx : String}
    (h : decodeCashAddrContent addr pfx ≠ .empty) : ∃ payload,
      decode addr pfx = some (pfx, payload) ∧
      unpackCashAddrContent payload = some (decodeCashAddrContent addr pfx) := by
  unfold decodeCashAddrContent at h ⊢
  cases hd : decode addr pfx with
  | none => simp [hd] at h
  | some r =>
    obtain ⟨q, payload⟩ := r
    simp only [hd] at h ⊢
    split_ifs at h ⊢ with hq
    · subst hq
      cases hu : unpackCashAddrContent payload with
      | none => simp [hu] at h
      | some c => exact ⟨payload, rfl, by simp [hu]⟩
    · exact absurd rfl h

end DeVault.CashAddr
