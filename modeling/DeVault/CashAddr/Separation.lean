import DeVault.CashAddr.Canonical

/-!
# Network separation and typo detection

The prefix of a network takes part in the checksum, so a string accepted under one chain prefix is
rejected under every other, whether or not it names its prefix: the register left by a prefix of
at most seven letters and the separator determines the prefix (`polyModFrom_separator_inj`), and
the rest of the polymod is injective in that register (`polyModFrom_inj`).

A single substituted character is caught in the symbol part, since changing one symbol changes
the register (`verifyChecksum_set`). In the prefix part it is not: the checksum reads only the low
five bits of each prefix character, and `decode` returns the prefix it finds, which the caller
then compares with the one it expects.

## Main results

- `network_separation`: no string decodes to a content under two chain prefixes.
- `decode_set_encode`, `decodeCashAddrContent_set_encode`: after one substitution, decoding fails,
  finds another prefix, or gives back the original payload through a change of case.
- `decode_strips_checksum`: under `devault` or `dvtest`, an accepted payload is the symbol part
  without its eight checksum symbols.
-/

namespace DeVault.CashAddr

/-! ## Chain prefixes -/

/-- The form of the chain prefixes (`devault`, `dvtest`, `dvreg`): one to seven lower-case
letters. -/
def IsChainPrefix (pfx : String) : Prop :=
  1 ≤ pfx.length ∧ pfx.length ≤ 7 ∧ ∀ c ∈ pfx.data, c.isLower = true

instance (pfx : String) : Decidable (IsChainPrefix pfx) :=
  inferInstanceAs (Decidable (_ ∧ _ ∧ _))

/-- The checksum reads a prefix letter through its low five bits, which tell lower-case letters
apart. -/
theorem lowerBits_inj {a b : Char} (ha : a.isLower = true) (hb : b.isLower = true)
    (h : a.toNat &&& 0x1f = b.toNat &&& 0x1f) : a = b := by
  rw [Char.isLower_iff] at ha hb
  rw [show (0x1f : Nat) = 2 ^ 5 - 1 from rfl, Nat.and_pow_two_sub_one_eq_mod,
    Nat.and_pow_two_sub_one_eq_mod] at h
  exact Char.eq_of_toNat_eq (by omega)

theorem map_lowerBits_inj {as bs : List Char} (ha : ∀ c ∈ as, c.isLower = true)
    (hb : ∀ c ∈ bs, c.isLower = true)
    (h : as.map (fun ch => ch.toNat &&& 0x1f) = bs.map (fun ch => ch.toNat &&& 0x1f)) :
    as = bs :=
  eq_of_map_eq_of_injOn (fun a ha' b hb' => lowerBits_inj (ha a ha') (hb b hb')) h

/-- Two chain prefixes under which one symbol sequence verifies are equal. -/
theorem verifyChecksum_prefix_inj {a b : String} {values : List Nat} (ha : IsChainPrefix a)
    (hb : IsChainPrefix b) (hv : Fits 5 values) (hva : verifyChecksum a values = true)
    (hvb : verifyChecksum b values = true) : a = b := by
  have hreg : ∀ pfx, verifyChecksum pfx values = true →
      polyModFrom (polyModFrom 1 (expandPrefix pfx)) values = 1 := fun pfx h => by
    simpa [verifyChecksum, polyMod, polyModFrom_append, Nat.xor_eq_zero] using h
  have hlt : ∀ pfx, polyModFrom 1 (expandPrefix pfx) < 2 ^ 40 := fun pfx =>
    polyModFrom_lt (by decide) (expandPrefix_fits pfx)
  have hE := polyModFrom_inj (hlt a) (hlt b) hv ((hreg a hva).trans (hreg b hvb).symm)
  have hbits : ∀ pfx : String, Fits 5 (pfx.data.map fun ch => ch.toNat &&& 0x1f) :=
      fun pfx x hx => by
    obtain ⟨ch, -, rfl⟩ := List.mem_map.1 hx
    exact Nat.and_lt_two_pow _ (by decide)
  have hlen : ∀ pfx, IsChainPrefix pfx → (pfx.data.map fun ch => ch.toNat &&& 0x1f).length ≤ 7 :=
    fun pfx h => by rw [List.length_map]; exact h.2.1
  exact String.ext (map_lowerBits_inj ha.2.2 hb.2.2
    (polyModFrom_separator_inj (hbits a) (hbits b) (hlen a ha) (hlen b hb) hE))

/-- A string `decode` accepts under two chain prefixes as default, returning each time the
default, names no prefix of its own, and then the two defaults are equal. -/
theorem decode_prefix_inj {s a b : String} {pa pb : List Nat} (ha : IsChainPrefix a)
    (hb : IsChainPrefix b) (hda : decode s a = some (a, pa)) (hdb : decode s b = some (b, pb)) :
    a = b := by
  obtain ⟨-, va, hba, hva, hra⟩ := decode_eq_some.1 hda
  obtain ⟨-, vb, hbb, hvb, hrb⟩ := decode_eq_some.1 hdb
  cases hs : splitAtLast ':' s.data with
  | some r =>
    simp only [splitPrefix, hs, Prod.mk.injEq] at hra hrb
    exact hra.1.trans hrb.1.symm
  | none =>
    simp only [splitPrefix, hs] at hba hbb hva hvb
    obtain rfl : va = vb := Option.some.inj (hba.symm.trans hbb)
    exact verifyChecksum_prefix_inj ha hb (mapM_charsetRev_eq_some hba).1 hva hvb

/-! ## Network separation -/

/-- No string decodes to a content under two distinct chain prefixes, and so to a destination
under two chains' parameters. -/
theorem network_separation {a b : String} (ha : IsChainPrefix a) (hb : IsChainPrefix b)
    (hab : a ≠ b) (s : String) :
    (decodeCashAddrContent s a = .empty ∨ decodeCashAddrContent s b = .empty) ∧
    (decodeCashAddr s ⟨a⟩ = .noDestination ∨ decodeCashAddr s ⟨b⟩ = .noDestination) := by
  have hc : decodeCashAddrContent s a = .empty ∨ decodeCashAddrContent s b = .empty := by
    by_contra h
    obtain ⟨h1, h2⟩ := not_or.1 h
    obtain ⟨pa, hda, -⟩ := decodeCashAddrContent_ne_empty h1
    obtain ⟨pb, hdb, -⟩ := decodeCashAddrContent_ne_empty h2
    exact hab (decode_prefix_inj ha hb hda hdb)
  refine ⟨hc, ?_⟩
  rcases hc with h | h
  · left; simp [decodeCashAddr, h, decodeCashAddrDestination, CashAddrContent.empty]
  · right; simp [decodeCashAddr, h, decodeCashAddrDestination, CashAddrContent.empty]

theorem network_separation_devault_dvtest :
    decodeCashAddrContent "qr6m7j9njldwwzlg9v7v53unlr4jkmx6eyecek538n" "devault" = .empty ∨
      decodeCashAddrContent "qr6m7j9njldwwzlg9v7v53unlr4jkmx6eyecek538n" "dvtest" = .empty :=
  (network_separation (by decide) (by decide) (by decide) _).1

/-! ## One substituted character -/

theorem set_getElem_self_eq {α : Type} (l : List α) (k : Nat) (hk : k < l.length) :
    l.set k l[k] = l :=
  List.ext_getElem (by simp) fun n _ _ => by rw [List.getElem_set]; split <;> simp_all

/-- A substitution anywhere but at the separator leaves a separator to split at. -/
theorem splitAtLast_set_encode {q : String} {i : Nat} (v : List Nat) (c' : Char)
    (hsep : i ≠ q.data.length) : ∃ r, splitAtLast ':' ((encode q v).data.set i c') = some r := by
  refine Option.ne_none_iff_exists'.1 fun hn => splitAtLast_eq_none.1 hn ?_
  refine List.mem_iff_getElem?.2 ⟨q.data.length, ?_⟩
  rw [List.getElem?_set_ne hsep, encode_data, List.getElem?_append_right (Nat.le_refl _),
    Nat.sub_self]
  simp

/-- After one substitution anywhere but at the separator, `decode` under the original prefix
fails, finds another prefix, or returns the original payload, the new character then being the
old one in another case. -/
theorem decode_set_encode {p : String} {v : List Nat} {i : Nat} {c' : Char} {q : String}
    {w : List Nat} (hv : Fits 5 v) (hi : i < (encode p v).length) (hsep : i ≠ p.length)
    (h : decode (String.mk ((encode p v).data.set i c')) p = some (q, w)) :
    q ≠ p ∨ (w = v ∧ (encode p v).data[i]? = some c'.toLower) := by
  rcases eq_or_ne q p with rfl | hq
  swap; · exact .inl hq
  right
  have hu : Fits 5 (v ++ createChecksum q v) := fits_append.2 ⟨hv, createChecksum_fits q v⟩
  have hsep' : i ≠ q.data.length := hsep
  obtain ⟨-, values, hb, hvf, hr⟩ := decode_eq_some.1 h
  obtain ⟨⟨pre, body⟩, hs⟩ := splitAtLast_set_encode v c' hsep'
  obtain ⟨ht, -⟩ := splitAtLast_eq_some hs
  simp only [splitPrefix, hs, Prod.mk.injEq] at hb hvf hr
  rw [← hr.1] at hvf
  have hpre : q.data = pre.map Char.toLower := congrArg String.data hr.1
  have hlen : pre.length = q.data.length := by rw [hpre, List.length_map]
  rw [encode_data] at ht ⊢
  rcases Nat.lt_or_gt_of_ne hsep' with hlt | hgt
  · -- a prefix character: the symbols are untouched, and the prefix read must be the old one
    rw [List.set_append_left _ _ hlt] at ht
    obtain ⟨rfl, hbody⟩ := List.append_inj ht (by rw [List.length_set, hlen])
    obtain rfl : body = (v ++ createChecksum q v).map charsetChar := (List.cons.inj hbody).2.symm
    obtain rfl : values = v ++ createChecksum q v :=
      Option.some.inj (hb.symm.trans (mapM_charsetRev_map hu))
    refine ⟨by simp [hr.2], ?_⟩
    rw [List.getElem?_append_left hlt, hpre, List.getElem?_map, List.getElem?_set_self hlt,
      Option.map_some']
  · -- a symbol: a different value would break the checksum
    obtain ⟨k, hk⟩ : ∃ k, i - q.data.length = k + 1 := ⟨i - q.data.length - 1, by omega⟩
    rw [List.set_append_right _ _ (Nat.le_of_lt hgt), hk, List.set_cons_succ] at ht
    obtain ⟨rfl, hbody⟩ := List.append_inj ht hlen.symm
    obtain rfl : body = ((v ++ createChecksum q v).map charsetChar).set k c' :=
      (List.cons.inj hbody).2.symm
    have hk' : k < (v ++ createChecksum q v).length := by
      have hi' : i < (encode q v).data.length := hi
      simp only [encode_data, List.length_append, List.length_cons, List.length_map] at hi' ⊢
      omega
    obtain ⟨x, hx, hxc, rfl⟩ := mapM_charsetRev_set hu hk' hb
    obtain rfl : (v ++ createChecksum q v)[k] = x := by
      by_contra hne
      rw [verifyChecksum_set hu hx hk' hne (verifyChecksum_createChecksum hv)] at hvf
      exact Bool.false_ne_true hvf
    rw [set_getElem_self_eq] at hr
    refine ⟨by simp [hr.2], ?_⟩
    rw [List.getElem?_append_right (Nat.le_of_lt hgt), hk, List.getElem?_cons_succ,
      List.getElem?_map, List.getElem?_eq_getElem hk', Option.map_some', hxc]

/-- One substituted character never makes an encoded content of a type below 16 decode to another
content. -/
theorem decodeCashAddrContent_set_encode {p addr : String} {c : CashAddrContent} {i : Nat}
    {c' : Char} (ht : c.type.toNat < 16) (he : encodeCashAddrContent p c = some addr)
    (hi : i < addr.length) (hsep : i ≠ p.length) :
    decodeCashAddrContent (String.mk (addr.data.set i c')) p = .empty ∨
      decodeCashAddrContent (String.mk (addr.data.set i c')) p = c := by
  obtain ⟨payload, hpack, rfl⟩ := Option.map_eq_some'.1 he
  have hfits : Fits 5 payload := by
    obtain ⟨s, -, rfl⟩ := packCashAddrContent_eq_some.1 hpack
    exact convertBits_fits _ _ _ _
  refine or_iff_not_imp_left.2 fun hne => ?_
  obtain ⟨w, hd, hu⟩ := decodeCashAddrContent_ne_empty hne
  rcases decode_set_encode hfits hi hsep hd with hq | ⟨rfl, -⟩
  · exact absurd rfl hq
  · rw [unpack_packCashAddrContent hpack ht] at hu
    exact (Option.some.inj hu).symm

/-- A single substitution at a position other than the separator is caught, or read as the
original: `decode` fails, returns another prefix, or returns the original payload through a change
of case; and content decoding gives the empty content or the original one. -/
theorem decode_single_substitution {p : String} (i : Nat) (c' : Char) (hsep : i ≠ p.length) :
    (∀ (v : List Nat) (q : String) (w : List Nat), Fits 5 v → i < (encode p v).length →
      decode (String.mk ((encode p v).data.set i c')) p = some (q, w) →
        q ≠ p ∨ (w = v ∧ (encode p v).data[i]? = some c'.toLower)) ∧
    (∀ (c : CashAddrContent) (addr : String), c.type.toNat < 16 →
      encodeCashAddrContent p c = some addr → i < addr.length →
        decodeCashAddrContent (String.mk (addr.data.set i c')) p = .empty ∨
          decodeCashAddrContent (String.mk (addr.data.set i c')) p = c) :=
  ⟨fun _ _ _ hv hi h => decode_set_encode hv hi hsep h,
    fun _ _ ht he hi => decodeCashAddrContent_set_encode ht he hi hsep⟩

/-- Three substitutions under `devault`: the digit `6` for the prefix letter `v`, which decodes
under another prefix; the first symbol of a payload by itself, which decodes to the payload; and
`x` for a symbol of a 20-byte address, which the content decoding refuses. -/
theorem decode_single_substitution_devault :
    ("de6ault" ≠ "devault" ∨
      ([] = ([] : List Nat) ∧ (encode "devault" []).data[2]? = some (Char.toLower '6'))) ∧
    ("devault" ≠ "devault" ∨
      ([0, 31] = [0, 31] ∧ (encode "devault" [0, 31]).data[8]? = some (Char.toLower 'q'))) ∧
    (decodeCashAddrContent (String.mk (((encodeCashAddrContent "devault"
        ⟨0, List.replicate 20 7⟩).getD "").data.set 10 'x')) "devault" = .empty ∨
      decodeCashAddrContent (String.mk (((encodeCashAddrContent "devault"
        ⟨0, List.replicate 20 7⟩).getD "").data.set 10 'x')) "devault" =
        ⟨0, List.replicate 20 7⟩) :=
  ⟨(decode_single_substitution 2 '6' (by decide)).1 [] "de6ault" [] (by decide) (by decide)
      (by decide),
    (decode_single_substitution 8 'q' (by decide)).1 [0, 31] "devault" [0, 31] (by decide)
      (by decide) (by decide),
    (decode_single_substitution 10 'x' (by decide)).2 ⟨0, List.replicate 20 7⟩ _ (by decide) rfl
      (by decide)⟩

/-- The digit `6` has the low five bits of `v`: put in place of the `v` of `devault`, the checksum
still verifies, and `decode` returns the prefix `de6ault` with the original payload. -/
theorem decode_digit_for_prefix_letter :
    decode (String.mk ((encode "devault" []).data.set 2 '6')) "devault" = some ("de6ault", []) := by
  decide

/-! ## Short symbol parts -/

/-- A symbol part of at most eight symbols verifies exactly when it spells out, as a number, the
register the prefix leaves after as many zero symbols: no feedback reaches such symbols. -/
theorem verifyChecksum_short_iff {pfx : String} {values : List Nat} (hv : Fits 5 values)
    (hl : values.length ≤ 8) :
    verifyChecksum pfx values = true ↔ fromGroups 5 values =
      polyModFrom (polyModFrom 1 (expandPrefix pfx)) (List.replicate values.length 0) ^^^ 1 := by
  have hsplit := polyModFrom_xor (polyModFrom 1 (expandPrefix pfx)) 0
    (List.length_replicate values.length 0)
  rw [zipWith_xor_zero_left, Nat.xor_zero, polyModFrom_small hv hl (Nat.two_pow_pos _),
    Nat.zero_mul, Nat.zero_add] at hsplit
  rw [verifyChecksum, beq_iff_eq, polyMod, polyModFrom_append, hsplit, Nat.xor_eq_zero]
  generalize polyModFrom (polyModFrom 1 (expandPrefix pfx)) (List.replicate values.length 0) = r
  constructor
  · intro h; rw [← h, Nat.xor_cancel_left]
  · intro h; rw [h, Nat.xor_cancel_left]

/-- Under the prefixes of the test vectors, no symbol part shorter than a checksum verifies. -/
theorem verifyChecksum_short_eq_false {pfx : String} (hpfx : pfx ∈ ["devault", "dvtest"])
    {values : List Nat} (hv : Fits 5 values) (hl : values.length < 8) :
    verifyChecksum pfx values = false := by
  have hreg : ∀ pfx ∈ ["devault", "dvtest"], ∀ k < 8,
      2 ^ (5 * k) ≤ polyModFrom (polyModFrom 1 (expandPrefix pfx)) (List.replicate k 0) ^^^ 1 := by
    decide
  rw [Bool.eq_false_iff, ne_eq, verifyChecksum_short_iff hv (by omega)]
  have := hreg pfx hpfx _ hl
  have := fromGroups_lt hv
  omega

/-- Under the prefixes of the test vectors, `Decode` never strips more symbols than it has: what it
returns is the symbol part less its eight checksum symbols. -/
theorem decode_strips_checksum {str dflt pfx : String} {payload : List Nat}
    (hpfx : pfx ∈ ["devault", "dvtest"]) (h : decode str dflt = some (pfx, payload)) :
    payload.length + 8 = (splitPrefix str.data dflt).2.length := by
  obtain ⟨-, values, hb, hv, hr⟩ := decode_eq_some.1 h
  obtain ⟨hfits, hmap⟩ := mapM_charsetRev_eq_some hb
  have hlen : values.length = (splitPrefix str.data dflt).2.length := by
    simpa using congrArg List.length hmap
  obtain ⟨rfl, rfl⟩ := Prod.mk.inj hr
  have h8 : 8 ≤ values.length := by
    by_contra hlt
    rw [verifyChecksum_short_eq_false hpfx hfits (by omega)] at hv
    cases hv
  rw [List.length_take, ← hlen]
  omega

theorem decode_strips_checksum_devault :
    [0, 31].length + 8 = (splitPrefix (encode "devault" [0, 31]).data "devault").2.length :=
  decode_strips_checksum (by decide)
    (by decide : decode (encode "devault" [0, 31]) "devault" = some ("devault", [0, 31]))

end DeVault.CashAddr
