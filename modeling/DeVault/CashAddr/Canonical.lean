import DeVault.CashAddr.Content

/-!
# Round trip and canonicity of CashAddr

Encoding then decoding is the identity on payloads, on contents of types below 16 with a hash of
one of the eight lengths, and on destinations. Conversely, decoding accepts nothing but the
encodings themselves: a string that decodes to a nonempty content is that content's encoding,
in lower or upper case, with or without its prefix. Both rest on the checksum being the only
eight-symbol completion that verifies (`verifyChecksum_append_iff`) and on the padded 5-bit
regrouping being undone exactly (`convertBits_unpad_pad`, `convertBits_pad_unpad`).
-/

namespace DeVault.CashAddr

/-- The empty string decodes to the empty content. -/
theorem decodeCashAddrContent_nil (pfx : String) : decodeCashAddrContent "" pfx = .empty := by
  by_contra h
  obtain ⟨payload, hd, hu⟩ := decodeCashAddrContent_ne_empty h
  obtain ⟨-, values, hb, -, hr⟩ := decode_eq_some.1 hd
  obtain rfl : values = [] := (Option.some.inj (hb : some [] = some values)).symm
  simp only [List.take_nil, Prod.mk.injEq] at hr
  rw [hr.2] at hu
  simp [unpackCashAddrContent] at hu

/-- A content of a type below 16 with a hash of one of the eight lengths encodes, and decodes
back to itself under the prefix it was encoded with. -/
theorem decodeCashAddrContent_encodeCashAddrContent {pfx : String} {c : CashAddrContent}
    (hp : ∀ ch ∈ pfx.data, ch.isUpper = false) (ht : c.type.toNat < 16)
    (hh : c.hash.length ∈ hashSizes) :
    ∃ addr, encodeCashAddrContent pfx c = some addr ∧ decodeCashAddrContent addr pfx = c := by
  obtain ⟨i, hi, hget⟩ := mem_hashSizes.1 hh
  obtain ⟨payload, hpack⟩ : ∃ payload, packCashAddrContent c = some payload :=
    ⟨_, packCashAddrContent_eq_some.2 ⟨i, hget ▸ hashSizes_indexOf? hi, rfl⟩⟩
  refine ⟨encode pfx payload, by simp [encodeCashAddrContent, hpack], ?_⟩
  have hfits : Fits 5 payload := by
    obtain ⟨s, -, rfl⟩ := packCashAddrContent_eq_some.1 hpack
    exact convertBits_fits _ _ _ _
  simp [decodeCashAddrContent, decode_encode hp hfits, unpack_packCashAddrContent hpack ht]

/-- Every destination survives encoding and decoding under a chain's parameters. -/
theorem decodeCashAddr_encodeCashAddr (d : CTxDestination) {params : CChainParams}
    (hp : ∀ ch ∈ params.cashAddrPrefix.data, ch.isUpper = false) :
    decodeCashAddr (encodeCashAddr d params) params = d := by
  cases d with
  | noDestination =>
    simp [encodeCashAddr, decodeCashAddr, decodeCashAddrContent_nil, decodeCashAddrDestination,
      CashAddrContent.empty]
  | keyID id =>
    obtain ⟨addr, he, hd⟩ := @decodeCashAddrContent_encodeCashAddrContent _
      ⟨pubkeyType, id.bytes⟩ hp (by decide : pubkeyType.toNat < 16) (by rw [id.length_eq]; decide)
    simp [encodeCashAddr, decodeCashAddr, he, hd, decodeCashAddrDestination, id.length_eq]
  | scriptID id =>
    obtain ⟨addr, he, hd⟩ := @decodeCashAddrContent_encodeCashAddrContent _
      ⟨scriptType, id.bytes⟩ hp (by decide : scriptType.toNat < 16) (by rw [id.length_eq]; decide)
    simp [encodeCashAddr, decodeCashAddr, he, hd, decodeCashAddrDestination, id.length_eq,
      (by decide : scriptType ≠ pubkeyType)]

/-- The CashAddr round trip, at the three levels the wallet uses: symbols, contents and
destinations. -/
theorem cashAddr_round_trip (pfx : String) (hp : ∀ ch ∈ pfx.data, ch.isUpper = false) :
    (∀ (v : List Nat) (dflt : String), Fits 5 v → decode (encode pfx v) dflt = some (pfx, v)) ∧
    (∀ c : CashAddrContent, c.type.toNat < 16 → c.hash.length ∈ hashSizes →
      ∃ addr, encodeCashAddrContent pfx c = some addr ∧ decodeCashAddrContent addr pfx = c) ∧
    (∀ (params : CChainParams) (d : CTxDestination), params.cashAddrPrefix = pfx →
      decodeCashAddr (encodeCashAddr d params) params = d) :=
  ⟨fun _ _ hv => decode_encode hp hv,
    fun _ ht hh => decodeCashAddrContent_encodeCashAddrContent hp ht hh,
    fun _ d hparams => decodeCashAddr_encodeCashAddr d (hparams ▸ hp)⟩

theorem cashAddr_round_trip_devault :
    decode (encode "devault" [0, 31]) "dvtest" = some ("devault", [0, 31]) :=
  (cashAddr_round_trip "devault" (by decide)).1 [0, 31] "dvtest" (by decide)

/-- Decoding is canonical: a string that decodes to a content with a nonempty hash is one of the
four renderings of that content's encoding, and the content has a type below 16 and a hash of
one of the eight lengths. -/
theorem decodeCashAddrContent_canonical {s pfx : String} {c : CashAddrContent}
    (h : decodeCashAddrContent s pfx = c) (hc : c.hash ≠ []) :
    c.type.toNat < 16 ∧ c.hash.length ∈ hashSizes ∧
      ∃ addr, encodeCashAddrContent pfx c = some addr ∧ s ∈ renderings pfx addr := by
  subst h
  obtain ⟨payload, hd, hu⟩ := decodeCashAddrContent_ne_empty fun h0 => hc (by rw [h0]; rfl)
  obtain ⟨values, hfits, hv, hpay, hmem⟩ := decode_mem_renderings hd
  simp only at hv hpay hmem
  have hpfits : Fits 5 payload := fun x hx => hfits x (List.mem_of_mem_take (hpay ▸ hx))
  obtain ⟨hpack, ht, hh⟩ := packCashAddrContent_unpack hpfits hu
  refine ⟨ht, hh, encode pfx payload, by simp [encodeCashAddrContent, hpack], ?_⟩
  have hP : payload ≠ [] := (unpackCashAddrContent_eq_some.1 hu).1
  have hlen : 8 < values.length := by
    by_contra hl
    exact hP (by rw [hpay, Nat.sub_eq_zero_of_le (by omega), List.take_zero])
  have hsplit : payload ++ values.drop (values.length - 8) = values := by
    rw [hpay]; exact List.take_append_drop _ _
  have hcs : values.drop (values.length - 8) = createChecksum pfx payload := by
    refine (verifyChecksum_append_iff hpfits (fun x hx => hfits x (List.mem_of_mem_drop hx))
      (by simp; omega)).1 ?_
    rw [hsplit]; exact hv
  rw [encode, ← hcs, hsplit]
  exact hmem

set_option maxRecDepth 4000 in
theorem decodeCashAddrContent_canonical_vector :
    (decodeCashAddrContent "DEVAULT:QR6M7J9NJLDWWZLG9V7V53UNLR4JKMX6EYECEK538N" "devault").type.toNat
        < 16 ∧
      (decodeCashAddrContent "DEVAULT:QR6M7J9NJLDWWZLG9V7V53UNLR4JKMX6EYECEK538N" "devault").hash.length
        ∈ hashSizes ∧
      ∃ addr, encodeCashAddrContent "devault"
          (decodeCashAddrContent "DEVAULT:QR6M7J9NJLDWWZLG9V7V53UNLR4JKMX6EYECEK538N" "devault") =
            some addr ∧
        "DEVAULT:QR6M7J9NJLDWWZLG9V7V53UNLR4JKMX6EYECEK538N" ∈ renderings "devault" addr :=
  decodeCashAddrContent_canonical rfl (by decide)

end DeVault.CashAddr
