import DeVault.Wallet.OrderPos

/-!
# Serialization of accounting entries

`CAccountingEntry::Serialize` (wallet.h) writes the stream version, `nCreditDebit`, `nTime`,
`strOtherAccount` and a comment. When the entry's `mapValue` (with `nOrderPos` put in as `"n"`)
or its extra bytes `_ssExtra` are nonempty, the comment written is `strComment`, a NUL byte, the
serialized map and the extra bytes. `Unserialize` reads both strings with a limit of 65536 bytes,
splits the comment at its first NUL, reads the map from what follows and keeps the rest as
`_ssExtra`. The entry's account and number are not in the value: they are the database key's.

## Main definitions

* `CAccountingEntry` — the fields.
* `CAccountingEntry.commentCopy` — the `strCommentCopy` that `Serialize` writes.
* `CAccountingEntry.serialize`, `CAccountingEntry.unserialize` — `Serialize` and `Unserialize`.

## Main results

* `CAccountingEntry.unserialize_serialize_of_no_nul` — for a comment without NUL, a map without
  `"n"` and strings within the read limit, `Unserialize` restores every serialized field.
* `CAccountingEntry.unserialize_serialize_of_long_other` — an other account beyond the read limit
  is written but throws when read.
* `CAccountingEntry.unserialize_serialize_nul_comment_long_other` — a comment made of a NUL byte
  is not read back either: no map follows it.
-/

namespace DeVault.Wallet

/-- `CAccountingEntry`. `nCreditDebit` is an `Amount`, written as its 64-bit count; `ssExtra` is
the private `_ssExtra`. -/
structure CAccountingEntry where
  strAccount : Bytes
  nCreditDebit : BitVec 64
  nTime : BitVec 64
  strOtherAccount : Bytes
  strComment : Bytes
  mapValue : MapValue
  nOrderPos : BitVec 64
  nEntryNo : BitVec 64
  ssExtra : Bytes

namespace CAccountingEntry

/-- The limit of both `LIMITED_STRING` reads. -/
def stringLimit : Nat := 65536

/-- `mapValueCopy`: the map with `nOrderPos` put in. -/
def mapValueCopy (e : CAccountingEntry) : MapValue := writeOrderPos e.nOrderPos e.mapValue

/-- `!mapValueCopy.empty() || !_ssExtra.empty()`: whether the map goes into the comment. -/
def appendsMap (e : CAccountingEntry) : Bool := !e.mapValueCopy.isEmpty || !e.ssExtra.isEmpty

/-- `strCommentCopy`: the comment, followed, when `appendsMap`, by a NUL byte, the map and the
extra bytes. -/
def commentCopy (e : CAccountingEntry) : Bytes :=
  if e.appendsMap then e.strComment ++ [0] ++ writeMap e.mapValueCopy ++ e.ssExtra
  else e.strComment

/-- `CAccountingEntry::Serialize` on a stream of version `nVersion`; a hashing stream
(`SER_GETHASH`) does not write the version. -/
def serialize (fGetHash : Bool) (nVersion : BitVec 32) (e : CAccountingEntry) : Bytes :=
  (if fGetHash then [] else writeBits nVersion) ++ writeBits e.nCreditDebit ++ writeBits e.nTime ++
    writeString e.strOtherAccount ++ writeString e.commentCopy

/-- The map and extra bytes after the first NUL of a comment read: none without NUL, and a throw
when the bytes after it do not start with a map. -/
def readCommentMap (strComment : Bytes) : Option (Option (MapValue × Bytes)) :=
  match strComment.findIdx? (· == 0) with
  | none => some none
  | some nSepPos => (readMap (strComment.drop (nSepPos + 1))).map some

/-- The version `Unserialize` reads and drops, unless the stream is a hashing one. -/
def skipVersion (fGetHash : Bool) (s : Bytes) : Option Bytes :=
  if fGetHash then some s else (readBits 32 s).map (·.2)

/-- `strComment.erase(nSepPos)`: the comment read, cut at its first NUL. -/
def cutComment (strComment : Bytes) : Bytes :=
  match strComment.findIdx? (· == 0) with
  | some nSepPos => strComment.take nSepPos
  | none => strComment

/-- `CAccountingEntry::Unserialize` into the entry `e`: its account and number stay, and without
NUL in the comment so does its `_ssExtra`. -/
def unserialize (fGetHash : Bool) (e : CAccountingEntry) (s : Bytes) :
    Option (CAccountingEntry × Bytes) := do
  let s ← skipVersion fGetHash s
  let (nCreditDebit, s) ← readBits 64 s
  let (nTime, s) ← readBits 64 s
  let (strOtherAccount, s) ← readLimitedString stringLimit s
  let (strComment, s) ← readLimitedString stringLimit s
  let tail ← readCommentMap strComment
  let mapValue := (tail.map (·.1)).getD OrdMap.empty
  pure ({ e with
    nCreditDebit := nCreditDebit
    nTime := nTime
    strOtherAccount := strOtherAccount
    strComment := cutComment strComment
    mapValue := mapValue.erase (ascii "n")
    nOrderPos := readOrderPos mapValue
    ssExtra := (tail.map (·.2)).getD e.ssExtra }, s)

/-! ## Round trip -/

/-- The entry's strings are within what `Unserialize` accepts, and its comment holds no NUL. -/
def Fits (e : CAccountingEntry) : Prop :=
  0 ∉ e.strComment ∧ e.strOtherAccount.length ≤ stringLimit ∧ e.commentCopy.length ≤ stringLimit

instance (e : CAccountingEntry) : Decidable e.Fits := by unfold Fits; infer_instance

theorem stringLimit_le_maxSize : stringLimit ≤ maxSize := by decide

theorem findIdx?_eq_none_of_not_mem {l : Bytes} (h : (0 : UInt8) ∉ l) :
    l.findIdx? (· == 0) = none :=
  List.findIdx?_eq_none_iff.2 fun x hx => by
    rw [beq_eq_false_iff_ne]
    rintro rfl
    exact h hx

theorem findIdx?_commentCopy {e : CAccountingEntry} (h : (0 : UInt8) ∉ e.strComment) :
    e.commentCopy.findIdx? (· == 0) = if e.appendsMap then some e.strComment.length else none := by
  by_cases happ : e.appendsMap
  · simp [commentCopy, happ, findIdx?_eq_none_of_not_mem h, Option.or]
  · rw [commentCopy, if_neg happ, if_neg happ, findIdx?_eq_none_of_not_mem h]

/-- What `Unserialize` finds after the NUL it splits the written comment at. -/
theorem readCommentMap_commentCopy {e : CAccountingEntry} (hfit : e.Fits) :
    readCommentMap e.commentCopy =
      some (if e.appendsMap then some (e.mapValueCopy, e.ssExtra) else none) := by
  unfold readCommentMap
  rw [findIdx?_commentCopy hfit.1]
  by_cases happ : e.appendsMap
  · have hcopy :
        e.commentCopy = (e.strComment ++ [0]) ++ (writeMap e.mapValueCopy ++ e.ssExtra) := by
      simp [commentCopy, happ]
    have hlen : (writeMap e.mapValueCopy).length ≤ maxSize := by
      have h := hfit.2.2
      simp only [hcopy, List.length_append] at h
      exact le_trans (by omega) stringLimit_le_maxSize
    simp only [if_pos happ]
    rw [hcopy, List.drop_left' (by simp), readMap_writeMap (MapValue.fits_of_length_writeMap hlen)]
    rfl
  · simp only [if_neg happ]

theorem cutComment_commentCopy {e : CAccountingEntry} (h : (0 : UInt8) ∉ e.strComment) :
    cutComment e.commentCopy = e.strComment := by
  unfold cutComment
  rw [findIdx?_commentCopy h]
  by_cases happ : e.appendsMap
  · simp [happ, commentCopy]
  · simp [happ, commentCopy]

/-- Without map and extra bytes to write, the entry has an empty map and no order position. -/
theorem mapValue_of_not_appendsMap {e : CAccountingEntry} (happ : e.appendsMap = false) :
    e.mapValue = OrdMap.empty ∧ e.nOrderPos = -1 := by
  have hempty : e.mapValueCopy.entries = [] := by
    simpa [appendsMap, OrdMap.isEmpty_iff] using (Bool.or_eq_false_iff.1 happ).1
  have hnone : ∀ k, e.mapValueCopy.find? k = none := fun k => by simp [OrdMap.find?, hempty]
  have hpos : e.nOrderPos = -1 := by
    by_contra hne
    have := hnone (ascii "n")
    rw [mapValueCopy, writeOrderPos, if_neg hne, OrdMap.find?_insert, if_pos rfl] at this
    cases this
  refine ⟨OrdMap.ext_find? fun k => ?_, hpos⟩
  have := hnone k
  rwa [mapValueCopy, writeOrderPos, if_pos hpos] at this

/-- Over a map without `"n"`, erasing `"n"` from the written map gives the entry's map back. -/
theorem erase_mapValueCopy {e : CAccountingEntry} (hn : e.mapValue.find? (ascii "n") = none) :
    e.mapValueCopy.erase (ascii "n") = e.mapValue :=
  OrdMap.ext_find? fun k => by
    by_cases hk : k = ascii "n"
    · simp [hk, hn]
    · rw [OrdMap.find?_erase, if_neg hk, mapValueCopy, writeOrderPos]
      split_ifs <;> simp [hk]

theorem readOrderPos_mapValueCopy {e : CAccountingEntry}
    (hn : e.mapValue.find? (ascii "n") = none) :
    readOrderPos e.mapValueCopy = e.nOrderPos :=
  readOrderPos_writeOrderPos hn _

/-- `Unserialize` drops the version `Serialize` wrote, unless the stream is a hashing one. -/
theorem skipVersion_append (fGetHash : Bool) (nVersion : BitVec 32) (s : Bytes) :
    skipVersion fGetHash ((if fGetHash then [] else writeBits nVersion) ++ s) = some s := by
  cases fGetHash <;> simp [skipVersion, readBits_writeBits (show 32 % 8 = 0 from rfl)]

/-- For a comment without NUL, a map without `"n"` and strings within the read limit,
`Unserialize` into any entry `e₀` restores every field `Serialize` wrote; the account and number
stay `e₀`'s, and so do the extra bytes when none were written. -/
theorem unserialize_serialize_of_no_nul (fGetHash : Bool) (nVersion : BitVec 32)
    (e₀ e : CAccountingEntry) (hn : e.mapValue.find? (ascii "n") = none) (hfit : e.Fits)
    (rest : Bytes) :
    unserialize fGetHash e₀ (serialize fGetHash nVersion e ++ rest) =
      some ({ e with
        strAccount := e₀.strAccount
        nEntryNo := e₀.nEntryNo
        ssExtra := if e.appendsMap then e.ssExtra else e₀.ssExtra }, rest) := by
  have hlim := stringLimit_le_maxSize
  have hc := readLimitedString_writeString hfit.2.2 (hfit.2.2.trans hlim) rest
  have ho := readLimitedString_writeString hfit.2.1 (hfit.2.1.trans hlim)
    (writeString e.commentCopy ++ rest)
  have h64 := readBits_writeBits (show 64 % 8 = 0 from rfl)
  simp only [unserialize, serialize, List.append_assoc, skipVersion_append, h64, ho, hc,
    readCommentMap_commentCopy hfit, cutComment_commentCopy hfit.1, Option.bind_eq_bind,
    Option.some_bind]
  by_cases happ : e.appendsMap
  · simp [happ, readOrderPos_mapValueCopy hn, erase_mapValueCopy hn]
  · obtain ⟨hm, hp⟩ := mapValue_of_not_appendsMap (Bool.eq_false_iff.2 happ)
    simp [happ, hm, hp, readOrderPos]

/-- An entry with a comment, a map and an order position. -/
def exampleEntry : CAccountingEntry where
  strAccount := ascii "savings"
  nCreditDebit := 5000
  nTime := 1600000000
  strOtherAccount := ascii "checking"
  strComment := ascii "rent"
  mapValue := OrdMap.empty.insert (ascii "memo") (ascii "june")
  nOrderPos := 12
  nEntryNo := 3
  ssExtra := []

theorem unserialize_serialize_of_no_nul_exampleEntry :
    exampleEntry.mapValue.find? (ascii "n") = none ∧ exampleEntry.Fits ∧
      unserialize false exampleEntry (serialize false 0 exampleEntry ++ []) =
        some ({ exampleEntry with
          strAccount := exampleEntry.strAccount
          nEntryNo := exampleEntry.nEntryNo
          ssExtra := if exampleEntry.appendsMap then exampleEntry.ssExtra
            else exampleEntry.ssExtra }, []) :=
  ⟨by decide, by decide,
    unserialize_serialize_of_no_nul false 0 exampleEntry exampleEntry (by decide) (by decide) []⟩

/-- An other account longer than the read limit is written but throws when read. -/
theorem unserialize_serialize_of_long_other (fGetHash : Bool) (nVersion : BitVec 32)
    (e₀ e : CAccountingEntry) (hlong : stringLimit < e.strOtherAccount.length)
    (hmax : e.strOtherAccount.length ≤ maxSize) (rest : Bytes) :
    unserialize fGetHash e₀ (serialize fGetHash nVersion e ++ rest) = none := by
  simp only [unserialize, serialize, List.append_assoc, skipVersion_append,
    readBits_writeBits (show 64 % 8 = 0 from rfl), readLimitedString_writeString_of_lt hlong hmax,
    Option.bind_eq_bind, Option.some_bind, Option.none_bind]

/-- An entry whose comment is one NUL byte. -/
def nulCommentEntry : CAccountingEntry :=
  { exampleEntry with strComment := [0], mapValue := OrdMap.empty, nOrderPos := -1 }

/-- An entry whose other account has `65536 + 1` bytes. -/
def longOtherEntry : CAccountingEntry :=
  { exampleEntry with strOtherAccount := List.replicate (stringLimit + 1) 0 }

/-- Two entries whose map lacks `"n"` and which do not make the round trip: a comment made of a
NUL byte, after which `Unserialize` finds no map, and an other account beyond the read limit. -/
theorem unserialize_serialize_nul_comment_long_other :
    nulCommentEntry.mapValue.find? (ascii "n") = none ∧
      unserialize false exampleEntry (serialize false 0 nulCommentEntry) = none ∧
    longOtherEntry.mapValue.find? (ascii "n") = none ∧
      unserialize false exampleEntry (serialize false 0 longOtherEntry) = none := by
  have hlen : longOtherEntry.strOtherAccount.length = stringLimit + 1 := List.length_replicate _ _
  refine ⟨rfl, rfl, by decide, ?_⟩
  have h := unserialize_serialize_of_long_other false 0 exampleEntry longOtherEntry
    (by rw [hlen]; exact Nat.lt_succ_self _) (by rw [hlen]; decide) []
  rwa [List.append_nil] at h

end CAccountingEntry

end DeVault.Wallet
