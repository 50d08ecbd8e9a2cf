import DeVault.Wallet.OrderPos

/-!
# Serialization of wallet transactions

`CWalletTx::Serialize` (wallet.h) writes the `CMerkleTx` part, an empty vector where `vtxPrev`
used to be, a copy of `mapValue` into which it has put `strFromAccount` (`"fromaccount"`),
`nOrderPos` (`"n"`) and a nonzero `nTimeSmart` (`"timesmart"`), then `vOrderForm`,
`fTimeReceivedIsTxTime`, `nTimeReceived`, `fFromMe` and a false `fSpent`. `Unserialize` reads
them back, takes the three fields out of the map and erases the reserved keys, `"spent"` too.

The stream format of the transaction itself (primitives/transaction.h, not under src/) is a
parameter, `TxCodec`, assumed to read back what it writes.

## Main definitions

* `CMerkleTx`, `CWalletTx` — the serialized fields.
* `CWalletTx.serialize`, `CWalletTx.unserialize` — `Serialize` and `Unserialize`.

## Main results

* `CWalletTx.unserialize_serialize_of_fits` — a transaction whose map holds no reserved key, and
  whose strings and sizes are at most `MAX_SIZE`, is read back whole, `nOrderPos` and
  `nTimeSmart` included.
* `CWalletTx.unserialize_serialize_of_long_account` — a `strFromAccount` longer than `MAX_SIZE`
  is written but throws when read.
-/

namespace DeVault.Wallet

/-- The stream format of a `CTransactionRef`: what `operator<<` writes and `operator>>` reads. -/
structure TxCodec (Tx : Type) where
  write : Tx → Bytes
  read : Bytes → Option (Tx × Bytes)

/-- A transaction format reads back what it writes, followed by any rest of the stream. -/
def TxCodec.RoundTrips {Tx : Type} (c : TxCodec Tx) : Prop :=
  ∀ tx rest, c.read (c.write tx ++ rest) = some (tx, rest)

/-- A small transaction format: a transaction as a 32-bit number, written little-endian. -/
def bitsTxCodec : TxCodec (BitVec 32) := ⟨writeBits, readBits 32⟩

theorem bitsTxCodec_roundTrips : bitsTxCodec.RoundTrips := fun tx rest =>
  readBits_writeBits rfl tx rest

/-- `CMerkleTx`: the transaction, the hash of the block holding it and its index there. -/
structure CMerkleTx (Tx : Type) where
  tx : Tx
  hashBlock : BitVec 256
  nIndex : BitVec 32

/-- A `CWalletTx`, with the fields its serialization reads and writes. -/
structure CWalletTx (Tx : Type) extends CMerkleTx Tx where
  mapValue : MapValue
  vOrderForm : List (Bytes × Bytes)
  fTimeReceivedIsTxTime : BitVec 32
  nTimeReceived : BitVec 32
  nTimeSmart : BitVec 32
  fFromMe : UInt8
  strFromAccount : Bytes
  nOrderPos : BitVec 64

variable {Tx : Type} (c : TxCodec Tx)

/-- `CMerkleTx::SerializationOp` writing: `tx`, `hashBlock`, the unused `vMerkleBranch` (empty),
`nIndex`. -/
def CMerkleTx.serialize (m : CMerkleTx Tx) : Bytes :=
  c.write m.tx ++ writeBits m.hashBlock ++ writeVector writeBits ([] : List (BitVec 256)) ++
    writeBits m.nIndex

/-- `CMerkleTx::SerializationOp` reading. -/
def CMerkleTx.unserialize (s : Bytes) : Option (CMerkleTx Tx × Bytes) := do
  let (tx, s) ← c.read s
  let (hashBlock, s) ← readBits 256 s
  let (_vMerkleBranch, s) ← readVector (readBits 256) s
  let (nIndex, s) ← readBits 32 s
  pure (⟨tx, hashBlock, nIndex⟩, s)

/-- The copy of `mapValue` that `CWalletTx::Serialize` writes. -/
def CWalletTx.mapValueCopy (w : CWalletTx Tx) : MapValue :=
  let m := writeOrderPos w.nOrderPos (w.mapValue.insert (ascii "fromaccount") w.strFromAccount)
  if w.nTimeSmart ≠ 0 then m.insert (ascii "timesmart") (decimal w.nTimeSmart.toNat) else m

/-- `CWalletTx::Serialize`. -/
def CWalletTx.serialize (w : CWalletTx Tx) : Bytes :=
  w.toCMerkleTx.serialize c ++ writeVector (CMerkleTx.serialize c) [] ++ writeMap w.mapValueCopy ++
    writeVector writeStringPair w.vOrderForm ++ writeBits w.fTimeReceivedIsTxTime ++
    writeBits w.nTimeReceived ++ [w.fFromMe] ++ [0]

/-- `mapValue.count("timesmart") ? (unsigned int)std::atoll(mapValue["timesmart"].c_str()) : 0`. -/
def readTimeSmart (mapValue : MapValue) : BitVec 32 :=
  match mapValue.find? (ascii "timesmart") with
  | some v => (atoll v).setWidth 32
  | none => 0

/-- What `CWalletTx::Unserialize` makes of the fields it read: `strFromAccount`, `nOrderPos` and
`nTimeSmart` come out of `mapValue`, and the reserved keys are erased. (`mapValue["fromaccount"]`
would first insert the key if absent; it is erased all the same.) -/
def CWalletTx.ofFields (m : CMerkleTx Tx) (mapValue : MapValue) (vOrderForm : List (Bytes × Bytes))
    (fTimeReceivedIsTxTime nTimeReceived : BitVec 32) (fFromMe : UInt8) : CWalletTx Tx where
  toCMerkleTx := m
  strFromAccount := (mapValue.find? (ascii "fromaccount")).getD []
  nOrderPos := readOrderPos mapValue
  nTimeSmart := readTimeSmart mapValue
  mapValue := (((mapValue.erase (ascii "fromaccount")).erase (ascii "spent")).erase
    (ascii "n")).erase (ascii "timesmart")
  vOrderForm := vOrderForm
  fTimeReceivedIsTxTime := fTimeReceivedIsTxTime
  nTimeReceived := nTimeReceived
  fFromMe := fFromMe

/-- `CWalletTx::Unserialize`. -/
def CWalletTx.unserialize (s : Bytes) : Option (CWalletTx Tx × Bytes) := do
  let (m, s) ← CMerkleTx.unserialize c s
  let (_vUnused, s) ← readVector (CMerkleTx.unserialize c) s
  let (mapValue, s) ← readMap s
  let (vOrderForm, s) ← readVector readStringPair s
  let (fTimeReceivedIsTxTime, s) ← readBits 32 s
  let (nTimeReceived, s) ← readBits 32 s
  let (fFromMe, s) ← readChar s
  let (_fSpent, s) ← readChar s
  pure (CWalletTx.ofFields m mapValue vOrderForm fTimeReceivedIsTxTime nTimeReceived fFromMe, s)

/-! ## Round trip -/

/-- The keys wallet.h reserves for serialization. -/
def reservedKeys : List Bytes := [ascii "fromaccount", ascii "n", ascii "timesmart", ascii "spent"]

/-- The map of `w` holds no reserved key. -/
def CWalletTx.NoReservedKeys (w : CWalletTx Tx) : Prop :=
  ∀ k ∈ reservedKeys, w.mapValue.find? k = none

/-- The strings and sizes `w` writes are at most `MAX_SIZE`. -/
def CWalletTx.Fits (w : CWalletTx Tx) : Prop :=
  w.mapValueCopy.Fits ∧ w.vOrderForm.length ≤ maxSize ∧
    ∀ p ∈ w.vOrderForm, p.1.length ≤ maxSize ∧ p.2.length ≤ maxSize

theorem reservedKeys_ne :
    ascii "n" ≠ ascii "fromaccount" ∧ ascii "timesmart" ≠ ascii "fromaccount" ∧
    ascii "timesmart" ≠ ascii "n" ∧ ascii "spent" ≠ ascii "fromaccount" ∧
    ascii "spent" ≠ ascii "n" ∧ ascii "spent" ≠ ascii "timesmart" := by decide

instance (w : CWalletTx Tx) : Decidable w.NoReservedKeys := by
  unfold CWalletTx.NoReservedKeys; infer_instance

instance (w : CWalletTx Tx) : Decidable w.Fits := by unfold CWalletTx.Fits; infer_instance

theorem CMerkleTx.unserialize_serialize (hc : c.RoundTrips) (m : CMerkleTx Tx) (rest : Bytes) :
    CMerkleTx.unserialize c (m.serialize c ++ rest) = some (m, rest) := by
  simp [CMerkleTx.serialize, CMerkleTx.unserialize, hc m.tx,
    readBits_writeBits (show 256 % 8 = 0 from rfl), readBits_writeBits (show 32 % 8 = 0 from rfl),
    readVector_writeVector [] (fun _ h => absurd h (List.not_mem_nil _)) (Nat.zero_le _)]

/-- The copy's value at a key outside the reserved ones is the map's. -/
theorem CWalletTx.find?_mapValueCopy (w : CWalletTx Tx) (k : Bytes) :
    w.mapValueCopy.find? k =
      if k = ascii "timesmart" ∧ w.nTimeSmart ≠ 0 then some (decimal w.nTimeSmart.toNat)
      else if k = ascii "n" ∧ w.nOrderPos ≠ -1 then some (i64tostr w.nOrderPos)
      else if k = ascii "fromaccount" then some w.strFromAccount
      else w.mapValue.find? k := by
  unfold CWalletTx.mapValueCopy writeOrderPos
  obtain ⟨d1, d2, d3, -⟩ := reservedKeys_ne
  by_cases ht : w.nTimeSmart = 0 <;> by_cases hn : w.nOrderPos = -1 <;>
    simp only [ht, hn, ne_eq, not_true_eq_false, not_false_eq_true, if_true, if_false,
      OrdMap.find?_insert, and_true, and_false] <;>
    split_ifs <;> simp_all

/-- Over a map without reserved keys, `Unserialize` takes out of the written copy of the map
exactly the fields `Serialize` put in it, and the map itself. -/
theorem CWalletTx.ofFields_mapValueCopy {w : CWalletTx Tx} (hres : w.NoReservedKeys) :
    CWalletTx.ofFields w.toCMerkleTx w.mapValueCopy w.vOrderForm w.fTimeReceivedIsTxTime
      w.nTimeReceived w.fFromMe = w := by
  have hfa := hres _ (by decide : ascii "fromaccount" ∈ reservedKeys)
  have hn := hres _ (by decide : ascii "n" ∈ reservedKeys)
  have hts := hres _ (by decide : ascii "timesmart" ∈ reservedKeys)
  have hsp := hres _ (by decide : ascii "spent" ∈ reservedKeys)
  obtain ⟨d1, d2, d3, d4, d5, d6⟩ := reservedKeys_ne
  have hmap : ((((w.mapValueCopy.erase (ascii "fromaccount")).erase (ascii "spent")).erase
      (ascii "n")).erase (ascii "timesmart")) = w.mapValue := by
    refine OrdMap.ext_find? fun k => ?_
    simp only [OrdMap.find?_erase, find?_mapValueCopy]
    by_cases k1 : k = ascii "timesmart"; · simp [k1, hts]
    by_cases k2 : k = ascii "n"; · simp [k2, hn]
    by_cases k3 : k = ascii "spent"; · simp [k3, hsp]
    by_cases k4 : k = ascii "fromaccount"; · simp [k4, hfa]
    simp [k1, k2, k3, k4]
  have hstr : (w.mapValueCopy.find? (ascii "fromaccount")).getD [] = w.strFromAccount := by
    rw [find?_mapValueCopy, if_neg fun h => d2 h.1.symm, if_neg fun h => d1 h.1.symm, if_pos rfl]
    rfl
  have hpos : readOrderPos w.mapValueCopy = w.nOrderPos := by
    unfold readOrderPos
    rw [find?_mapValueCopy, if_neg fun h => d3 h.1.symm]
    by_cases h : w.nOrderPos = -1
    · rw [if_neg fun h' => h'.2 h, if_neg d1, hn, h]
    · rw [if_pos ⟨rfl, h⟩]
      exact atoll_i64tostr _
  have hsmart : readTimeSmart w.mapValueCopy = w.nTimeSmart := by
    unfold readTimeSmart
    rw [find?_mapValueCopy]
    by_cases h : w.nTimeSmart = 0
    · rw [if_neg fun h' => h'.2 h, if_neg fun h' => d3 h'.1, if_neg d2, hts, h]
    · rw [if_pos ⟨rfl, h⟩]
      exact atoll_decimal_setWidth _
  unfold CWalletTx.ofFields
  rw [hstr, hpos, hsmart, hmap]

/-- A wallet transaction whose map holds none of the reserved keys, and whose strings and sizes
are at most `MAX_SIZE`, is read back whole by `Unserialize`, followed by any rest of the stream. -/
theorem CWalletTx.unserialize_serialize_of_fits (hc : c.RoundTrips) (w : CWalletTx Tx)
    (hres : w.NoReservedKeys) (hfit : w.Fits) (rest : Bytes) :
    CWalletTx.unserialize c (w.serialize c ++ rest) = some (w, rest) := by
  simp only [serialize, List.append_assoc, List.cons_append, List.nil_append]
  unfold unserialize
  rw [CMerkleTx.unserialize_serialize c hc]
  dsimp only [Option.bind_eq_bind, Option.some_bind]
  rw [readVector_writeVector [] (fun _ h => absurd h (List.not_mem_nil _)) (Nat.zero_le _)]
  dsimp only [Option.some_bind]
  rw [readMap_writeMap hfit.1]
  dsimp only [Option.some_bind]
  rw [readVector_writeVector w.vOrderForm (fun p hp rest =>
    readStringPair_writeStringPair (hfit.2.2 p hp).1 (hfit.2.2 p hp).2 rest) hfit.2.1]
  simp only [Option.some_bind, readBits_writeBits (show 32 % 8 = 0 from rfl), readChar,
    ofFields_mapValueCopy hres, Option.pure_def]

/-- A wallet transaction with a comment, an order position and a smart time. -/
def exampleTx : CWalletTx (BitVec 32) where
  tx := 7
  hashBlock := 0
  nIndex := 1
  mapValue := OrdMap.empty.insert (ascii "comment") (ascii "rent")
  vOrderForm := [(ascii "Message", ascii "paid")]
  fTimeReceivedIsTxTime := 0
  nTimeReceived := 1600000000
  nTimeSmart := 1600000001
  fFromMe := 1
  strFromAccount := ascii "savings"
  nOrderPos := 42

theorem CWalletTx.unserialize_serialize_of_fits_exampleTx :
    bitsTxCodec.RoundTrips ∧ exampleTx.NoReservedKeys ∧ exampleTx.Fits ∧
      CWalletTx.unserialize bitsTxCodec (exampleTx.serialize bitsTxCodec ++ []) =
        some (exampleTx, []) :=
  ⟨bitsTxCodec_roundTrips, by decide, by decide,
    CWalletTx.unserialize_serialize_of_fits bitsTxCodec bitsTxCodec_roundTrips exampleTx
      (by decide) (by decide) []⟩

/-- A transaction with an empty map, no order position and no smart time, whose `strFromAccount`
is longer than `MAX_SIZE`, is written but not read back: `ReadCompactSize` throws on the size of
the `"fromaccount"` value. -/
theorem CWalletTx.unserialize_serialize_of_long_account (hc : c.RoundTrips) {w : CWalletTx Tx}
    (hmap : w.mapValue = OrdMap.empty) (hpos : w.nOrderPos = -1) (hsmart : w.nTimeSmart = 0)
    (hlong : maxSize < w.strFromAccount.length) (h64 : w.strFromAccount.length < 2 ^ 64) :
    CWalletTx.unserialize c (w.serialize c) = none := by
  have hcopy : w.mapValueCopy = OrdMap.empty.insert (ascii "fromaccount") w.strFromAccount := by
    simp [mapValueCopy, writeOrderPos, hmap, hpos, hsmart]
  simp only [CWalletTx.serialize, hcopy, List.append_assoc]
  unfold CWalletTx.unserialize
  rw [CMerkleTx.unserialize_serialize c hc]
  dsimp only [Option.bind_eq_bind, Option.some_bind]
  rw [readVector_writeVector [] (fun _ h => absurd h (List.not_mem_nil _)) (Nat.zero_le _)]
  dsimp only [Option.some_bind]
  simp only [readMap, writeMap, writeVector, OrdMap.insert, OrdMap.insertEntry, OrdMap.empty,
    List.length_singleton, List.append_assoc]
  rw [readCompactSize_writeCompactSize (by decide)]
  simp only [Option.some_bind, readMapEntries,
    List.flatMap_cons, List.flatMap_nil, List.append_nil, List.append_assoc, readStringPair,
    writeStringPair, readString_writeString (show (ascii "fromaccount").length ≤ maxSize by decide),
    readString_writeString_of_gt hlong h64, Option.map_none', Option.none_bind]

/-- A wallet transaction whose `strFromAccount` has `MAX_SIZE + 1` bytes. -/
def longAccountTx : CWalletTx (BitVec 32) where
  tx := 7
  hashBlock := 0
  nIndex := 1
  mapValue := OrdMap.empty
  vOrderForm := []
  fTimeReceivedIsTxTime := 0
  nTimeReceived := 0
  nTimeSmart := 0
  fFromMe := 0
  strFromAccount := List.replicate (maxSize + 1) 0
  nOrderPos := -1

/-- A transaction whose map holds no reserved key but which does not make the round trip. -/
theorem CWalletTx.unserialize_serialize_long_account :
    longAccountTx.NoReservedKeys ∧
      CWalletTx.unserialize bitsTxCodec (longAccountTx.serialize bitsTxCodec) = none := by
  have hlen : longAccountTx.strFromAccount.length = maxSize + 1 := List.length_replicate _ _
  refine ⟨fun _ _ => rfl, CWalletTx.unserialize_serialize_of_long_account bitsTxCodec
    bitsTxCodec_roundTrips rfl rfl rfl (by omega) ?_⟩
  rw [hlen]
  decide

end DeVault.Wallet
