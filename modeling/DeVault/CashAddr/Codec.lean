import DeVault.CashAddr.PolyMod

/-!
# The CashAddr base-32 codec

`encode` writes a prefix, a colon and the payload followed by its checksum, one alphabet
character per 5-bit symbol. `decode` undoes it: it refuses mixed case, takes the prefix before
the last colon (or the caller's default prefix), maps the characters back through the alphabet,
checks the checksum and strips it.

## Main results

* `decode_encode` — decoding an encoding returns its prefix and payload.
* `decode_mem_renderings` — every accepted string is a lower- or upper-case rendering of the
  encoding of what it decodes to, with or without its prefix.
-/

namespace DeVault.CashAddr

/-! ## Characters -/

theorem Char.isUpper_iff (c : Char) : c.isUpper = true ↔ 65 ≤ c.toNat ∧ c.toNat ≤ 90 := by
  simp [Char.isUpper, UInt32.le_def, BitVec.le_def, Char.toNat, UInt32.toNat]

theorem Char.isLower_iff (c : Char) : c.isLower = true ↔ 97 ≤ c.toNat ∧ c.toNat ≤ 122 := by
  simp [Char.isLower, UInt32.le_def, BitVec.le_def, Char.toNat, UInt32.toNat]

theorem Char.toNat_ofNat_of_lt {n : Nat} (h : n < 0xd800) : (Char.ofNat n).toNat = n := by
  rw [Char.ofNat, dif_pos (Or.inl h)]
  rfl

theorem Char.toNat_toLower (c : Char) :
    c.toLower.toNat = if 65 ≤ c.toNat ∧ c.toNat ≤ 90 then c.toNat + 32 else c.toNat := by
  simp only [Char.toLower]
  split
  · rw [Char.toNat_ofNat_of_lt (by omega)]
  · rfl

theorem Char.toNat_toUpper (c : Char) :
    c.toUpper.toNat = if 97 ≤ c.toNat ∧ c.toNat ≤ 122 then c.toNat - 32 else c.toNat := by
  simp only [Char.toUpper]
  split
  · rw [Char.toNat_ofNat_of_lt (by omega)]
  · rfl

theorem Char.eq_of_toNat_eq {a b : Char} (h : a.toNat = b.toNat) : a = b := by
  rw [← Char.ofNat_toNat a, h, Char.ofNat_toNat]

theorem Char.toLower_of_isUpper_eq_false {c : Char} (h : c.isUpper = false) : c.toLower = c := by
  refine Char.eq_of_toNat_eq ?_
  rw [Char.toNat_toLower, if_neg]
  rw [← Char.isUpper_iff, h]; decide

/-- A character that is not lower case is the upper case of its lower case. -/
theorem Char.toUpper_toLower {c : Char} (h : c.isLower = false) : c.toLower.toUpper = c := by
  have hl : ¬(97 ≤ c.toNat ∧ c.toNat ≤ 122) := by rw [← Char.isLower_iff, h]; decide
  refine Char.eq_of_toNat_eq ?_
  rw [Char.toNat_toUpper, Char.toNat_toLower]
  split_ifs <;> omega

/-! ## The alphabet -/

/-- The 32-character alphabet of CashAddr; a symbol's value is its position. -/
def charset : List Char := "qpzry9x8gf2tvdw0s3jn54khce6mua7l".data

/-- `CHARSET[x]`, the character of the symbol `x`. -/
def charsetChar (x : Nat) : Char := charset.getD x 'q'

/-- The value of a character, read in either case: its position in the alphabet. -/
def charsetRev (c : Char) : Option Nat := (List.range 32).find? fun x => charsetChar x == c.toLower

theorem charsetRev_charsetChar {x : Nat} (hx : x < 32) : charsetRev (charsetChar x) = some x := by
  revert x; decide

theorem charsetChar_isUpper {x : Nat} (hx : x < 32) : (charsetChar x).isUpper = false := by
  revert x; decide

theorem charsetChar_ne_colon {x : Nat} (hx : x < 32) : charsetChar x ≠ ':' := by
  revert x; decide

theorem charsetRev_eq_some {c : Char} {x : Nat} (h : charsetRev c = some x) :
    x < 32 ∧ charsetChar x = c.toLower := by
  refine ⟨List.mem_range.1 (List.mem_of_find?_eq_some h), ?_⟩
  simpa using List.find?_some h

theorem mapM_charsetRev_map {v : List Nat} (hv : Fits 5 v) :
    (v.map charsetChar).mapM charsetRev = some v := by
  induction v with
  | nil => rfl
  | cons x v ih =>
    rw [List.map_cons, List.mapM_cons, charsetRev_charsetChar (hv x (List.mem_cons_self x v)),
      ih fun y hy => hv y (List.mem_cons_of_mem x hy)]
    rfl

/-- The symbols read from a text are 5-bit values whose characters are the text in lower case. -/
theorem mapM_charsetRev_eq_some {body : List Char} {values : List Nat}
    (h : body.mapM charsetRev = some values) :
    Fits 5 values ∧ values.map charsetChar = body.map Char.toLower := by
  induction body generalizing values with
  | nil => cases h; exact ⟨fun _ h => absurd h (List.not_mem_nil _), rfl⟩
  | cons c body ih =>
    simp only [List.mapM_cons, Option.bind_eq_bind, Option.bind_eq_some, Option.pure_def,
      Option.some.injEq] at h
    obtain ⟨x, hx, vs, hvs, rfl⟩ := h
    obtain ⟨hx32, hxc⟩ := charsetRev_eq_some hx
    obtain ⟨hfits, hmap⟩ := ih hvs
    refine ⟨fun y hy => ?_, by simp [hxc, hmap]⟩
    rcases List.mem_cons.1 hy with rfl | hy
    exacts [hx32, hfits y hy]

theorem charsetChar_inj {x y : Nat} (hx : x < 32) (hy : y < 32)
    (h : charsetChar x = charsetChar y) : x = y := by
  have hxy := charsetRev_charsetChar hx
  rw [h, charsetRev_charsetChar hy] at hxy
  exact (Option.some.inj hxy).symm

theorem map_charsetChar_toLower {u : List Nat} (hu : Fits 5 u) :
    (u.map charsetChar).map Char.toLower = u.map charsetChar := by
  rw [List.map_map]
  exact List.map_congr_left fun x hx =>
    Char.toLower_of_isUpper_eq_false (charsetChar_isUpper (hu x hx))

theorem colon_not_mem_map_charsetChar {u : List Nat} (hu : Fits 5 u) :
    ':' ∉ u.map charsetChar := by
  simp only [List.mem_map, not_exists, not_and]
  exact fun x hx => charsetChar_ne_colon (hu x hx)

/-- Two lists with the same image under a map injective on their elements are equal. -/
theorem eq_of_map_eq_of_injOn {α β : Type} {f : α → β} {as bs : List α}
    (hf : ∀ a ∈ as, ∀ b ∈ bs, f a = f b → a = b) (h : as.map f = bs.map f) : as = bs := by
  induction as generalizing bs with
  | nil => exact (List.map_eq_nil_iff.1 h.symm).symm
  | cons a as ih =>
    cases bs with
    | nil => simp at h
    | cons b bs =>
      simp only [List.map_cons, List.cons.injEq] at h
      rw [hf a (List.mem_cons_self a as) b (List.mem_cons_self b bs) h.1,
        ih (fun a' ha' b' hb' => hf a' (List.mem_cons_of_mem a ha') b' (List.mem_cons_of_mem b hb'))
          h.2]

/-- The symbols read back from a symbol part with one substituted character: the original
symbols with the one at the substituted place replaced by the value of the new character. -/
theorem mapM_charsetRev_set {u values : List Nat} {j : Nat} {c' : Char} (hu : Fits 5 u)
    (hj : j < u.length) (h : ((u.map charsetChar).set j c').mapM charsetRev = some values) :
    ∃ x < 32, charsetChar x = c'.toLower ∧ values = u.set j x := by
  obtain ⟨hfits, hmap⟩ := mapM_charsetRev_eq_some h
  rw [List.map_set, map_charsetChar_toLower hu] at hmap
  have hlen : values.length = u.length := by simpa using congrArg List.length hmap
  have hj' : j < values.length := hlen ▸ hj
  have hx : values[j] < 32 := hfits _ (List.getElem_mem _)
  have hcj : charsetChar values[j] = c'.toLower := by
    have := congrArg (·[j]?) hmap
    simpa [List.getElem?_set, hj, List.getElem?_eq_getElem hj'] using this
  generalize values[j] = x at hx hcj
  have hm : values.map charsetChar = (u.set j x).map charsetChar := by
    rw [hmap, List.map_set, hcj]
  refine ⟨x, hx, hcj, eq_of_map_eq_of_injOn (fun a ha b hb => charsetChar_inj (hfits a ha) ?_) hm⟩
  rcases List.mem_or_eq_of_mem_set hb with hb | rfl
  exacts [hu b hb, hx]

/-! ## Splitting at the last colon -/

/-- The text before and after the last `sep` of `s`, if `s` has one. -/
def splitAtLast (sep : Char) : List Char → Option (List Char × List Char)
  | [] => none
  | c :: s =>
    match splitAtLast sep s with
    | some (pre, post) => some (c :: pre, post)
    | none => if c = sep then some ([], s) else none

theorem splitAtLast_eq_none {sep : Char} {s : List Char} : splitAtLast sep s = none ↔ sep ∉ s := by
  induction s with
  | nil => simp [splitAtLast]
  | cons c s ih =>
    rw [splitAtLast, List.mem_cons, not_or]
    cases h : splitAtLast sep s with
    | some r =>
      have : sep ∈ s := by_contra fun hn => by rw [ih.2 hn] at h; cases h
      simp [this]
    | none =>
      by_cases hc : c = sep
      · subst hc; simp
      · simp [hc, Ne.symm hc, ih.1 h]

theorem splitAtLast_append {sep : Char} {pre post : List Char} (h : sep ∉ post) :
    splitAtLast sep (pre ++ sep :: post) = some (pre, post) := by
  induction pre with
  | nil => simp [splitAtLast, splitAtLast_eq_none.2 h]
  | cons c pre ih => simp [splitAtLast, ih]

theorem splitAtLast_eq_some {sep : Char} {s pre post : List Char}
    (h : splitAtLast sep s = some (pre, post)) : s = pre ++ sep :: post ∧ sep ∉ post := by
  induction s generalizing pre with
  | nil => simp [splitAtLast] at h
  | cons c s ih =>
    simp only [splitAtLast] at h
    cases hs : splitAtLast sep s with
    | some r =>
      obtain ⟨pre', post'⟩ := r
      rw [hs] at h
      cases h
      obtain ⟨rfl, hn⟩ := ih hs
      exact ⟨rfl, hn⟩
    | none =>
      rw [hs] at h
      by_cases hc : c = sep
      · subst hc
        simp only [if_true, Option.some.injEq, Prod.mk.injEq] at h
        obtain ⟨rfl, rfl⟩ := h
        exact ⟨rfl, splitAtLast_eq_none.1 hs⟩
      · simp [hc] at h

/-! ## Encoding and decoding -/

/-- Modelled from the spec (§4.1): `cashaddr::Encode` (`cashaddr.cpp`, not in the source tree)
writes the prefix, a colon, and the payload followed by its checksum through the alphabet. As in
`cashaddrenc_tests.cpp`, the payload is a sequence of 5-bit values. -/
def encode (pfx : String) (payload : List Nat) : String :=
  let combined := payload ++ createChecksum pfx payload
  pfx ++ ":" ++ String.mk (combined.map charsetChar)

/-- A text with both a lower-case and an upper-case letter. -/
def mixedCase (s : List Char) : Bool := s.any Char.isLower && s.any Char.isUpper

/-- The prefix and the symbol part of an address: the text before the last colon, in lower case,
and the text after it; without a colon, the default prefix and the whole text. -/
def splitPrefix (s : List Char) (dflt : String) : String × List Char :=
  match splitAtLast ':' s with
  | some (pre, body) => (String.mk (pre.map Char.toLower), body)
  | none => (dflt, s)

/-- Modelled from the spec (§4.1): `cashaddr::Decode` (`cashaddr.cpp`, not in the source tree).
Mixed case fails; the prefix is the lower-cased text before the last colon, or `dflt`; each
symbol is read through the alphabet; the checksum must verify and its eight symbols are
stripped. -/
def decode (str : String) (dflt : String) : Option (String × List Nat) :=
  if mixedCase str.data then none
  else
    let (pfx, body) := splitPrefix str.data dflt
    match body.mapM charsetRev with
    | none => none
    | some values =>
      if verifyChecksum pfx values then some (pfx, values.take (values.length - 8)) else none

/-- A symbol part of seven symbols passes the checksum under the prefix `c`, and `decode` then
strips eight symbols from seven: `cashaddr::Decode` builds `data(values.begin(), values.end() - 8)`
with no length check before it. -/
theorem decode_short_symbol_part :
    "qvdy2z3".data.mapM charsetRev = some [0, 12, 13, 4, 10, 2, 17] ∧
      verifyChecksum "c" [0, 12, 13, 4, 10, 2, 17] = true ∧
      decode "c:qvdy2z3" "devault" = some ("c", []) := by
  decide

theorem encode_data (pfx : String) (payload : List Nat) :
    (encode pfx payload).data =
      pfx.data ++ ':' :: (payload ++ createChecksum pfx payload).map charsetChar := by
  simp [encode, String.data_append]

/-- What `decode` checks when it succeeds. -/
theorem decode_eq_some {str dflt : String} {r : String × List Nat} :
    decode str dflt = some r ↔ mixedCase str.data = false ∧
      ∃ values, (splitPrefix str.data dflt).2.mapM charsetRev = some values ∧
        verifyChecksum (splitPrefix str.data dflt).1 values = true ∧
        r = ((splitPrefix str.data dflt).1, values.take (values.length - 8)) := by
  unfold decode
  cases hm : mixedCase str.data
  · simp only [if_false, Bool.false_eq_true, true_and]
    cases hb : (splitPrefix str.data dflt).2.mapM charsetRev with
    | none => simp
    | some values =>
      simp only [Option.some.injEq, exists_eq_left']
      split
      · rename_i hv; simp only [Option.some.injEq, hv, true_and]; exact eq_comm
      · rename_i hv
        simp only [reduceCtorEq, false_iff, not_and]
        exact fun h => absurd h hv
  · simp

/-- Decoding an encoding returns its prefix and payload, whatever the default prefix. -/
theorem decode_encode {pfx dflt : String} {v : List Nat}
    (hp : ∀ c ∈ pfx.data, c.isUpper = false) (hv : Fits 5 v) :
    decode (encode pfx v) dflt = some (pfx, v) := by
  have hc : Fits 5 (v ++ createChecksum pfx v) := fits_append.2 ⟨hv, createChecksum_fits pfx v⟩
  have hupper : (encode pfx v).data.any Char.isUpper = false := by
    rw [encode_data, List.any_eq_false]
    simp only [List.mem_append, List.mem_cons, List.mem_map]
    rintro c (hcp | rfl | ⟨x, hx, rfl⟩)
    · simp [hp c hcp]
    · decide
    · simp [charsetChar_isUpper (hc x (List.mem_append.2 hx))]
  have hsplit : splitPrefix (encode pfx v).data dflt =
      (pfx, (v ++ createChecksum pfx v).map charsetChar) := by
    rw [splitPrefix, encode_data, splitAtLast_append (colon_not_mem_map_charsetChar hc)]
    simp only [Prod.mk.injEq, and_true]
    exact String.ext (by
      simpa using List.map_congr_left fun c hc => Char.toLower_of_isUpper_eq_false (hp c hc))
  rw [decode_eq_some, hsplit]
  refine ⟨by rw [mixedCase, hupper, Bool.and_false], _, mapM_charsetRev_map hc,
    verifyChecksum_createChecksum hv, ?_⟩
  simp

/-! ## Renderings -/

/-- The text in upper case. -/
def upperCase (s : String) : String := String.mk (s.data.map Char.toUpper)

/-- The four ways an address can be written: in lower or upper case, with or without its
`prefix:` part. -/
def renderings (pfx addr : String) : List String :=
  let short := String.mk (addr.data.drop (pfx.length + 1))
  [addr, upperCase addr, short, upperCase short]

/-- A text without mixed case is its lower-case form, or the upper case of it. -/
theorem eq_or_eq_of_mixedCase_eq_false {t : List Char} (h : mixedCase t = false) :
    t = t.map Char.toLower ∨ t = (t.map Char.toLower).map Char.toUpper := by
  rcases Bool.and_eq_false_iff.1 h with hl | hu
  · right
    rw [List.map_map]
    refine (List.map_congr_left fun c hc => ?_).trans (List.map_id _) |>.symm
    exact Char.toUpper_toLower (by simpa using List.any_eq_false.1 hl c hc)
  · left
    refine (List.map_congr_left fun c hc => ?_).trans (List.map_id _) |>.symm
    exact Char.toLower_of_isUpper_eq_false (by simpa using List.any_eq_false.1 hu c hc)

/-- A text without mixed case whose lower-case form is `x` is `x` or the upper case of `x`. -/
theorem eq_or_eq_upperCase {str x : String} (hm : mixedCase str.data = false)
    (hlow : x.data = str.data.map Char.toLower) : str = x ∨ str = upperCase x := by
  rcases eq_or_eq_of_mixedCase_eq_false hm with hc | hc
  · exact .inl (String.ext (hc.trans hlow.symm))
  · exact .inr (String.ext (hc.trans (congrArg (List.map Char.toUpper) hlow.symm)))

/-- Every string `decode` accepts is a rendering of the encoding of the prefix and the symbols
it read. -/
theorem decode_mem_renderings {str dflt : String} {r : String × List Nat}
    (h : decode str dflt = some r) :
    ∃ values, Fits 5 values ∧ verifyChecksum r.1 values = true ∧
      r.2 = values.take (values.length - 8) ∧
      str ∈ renderings r.1 (r.1 ++ ":" ++ String.mk (values.map charsetChar)) := by
  obtain ⟨hm, values, hb, hv, rfl⟩ := decode_eq_some.1 h
  obtain ⟨hfits, hmap⟩ := mapM_charsetRev_eq_some hb
  refine ⟨values, hfits, hv, rfl, ?_⟩
  simp only [renderings, upperCase, List.mem_cons, List.mem_singleton, List.not_mem_nil, or_false]
  cases hs : splitAtLast ':' str.data with
  | some r =>
    obtain ⟨pre, body⟩ := r
    obtain ⟨hstr, -⟩ := splitAtLast_eq_some hs
    have hq : splitPrefix str.data dflt = (String.mk (pre.map Char.toLower), body) := by
      rw [splitPrefix, hs]
    rw [hq] at hmap ⊢
    have hlow : (String.mk (pre.map Char.toLower) ++ ":" ++ String.mk (values.map charsetChar)).data
        = str.data.map Char.toLower := by
      rw [hstr]; simp [String.data_append, hmap]
    exact (eq_or_eq_upperCase hm hlow).imp_right .inl
  | none =>
    have hq : splitPrefix str.data dflt = (dflt, str.data) := by rw [splitPrefix, hs]
    rw [hq] at hmap ⊢
    have hlow : (dflt ++ ":" ++ String.mk (values.map charsetChar)).data.drop (dflt.length + 1)
        = str.data.map Char.toLower := by
      rw [← hmap, String.data_append, String.data_append]
      exact List.drop_left' (by rw [List.length_append]; rfl)
    exact .inr (.inr (eq_or_eq_upperCase hm hlow))

end DeVault.CashAddr
