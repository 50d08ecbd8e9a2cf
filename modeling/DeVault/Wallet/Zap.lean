import DeVault.Wallet.WalletDB
import DeVault.Wallet.WalletTx

/-!
# Zapping the wallet's transactions from the database file

`CWalletDB::ZapWalletTx` and `CWalletDB::ZapSelectTx` (walletdb.cpp) list the wallet's
transactions with `FindWalletTx`, which walks the database cursor, and erase them with `EraseTx`.
The module on `ZapSelectTx` models the cursor as a list of reads; here the cursor reads the records
of a `WalletFile` in key order, and the erasures change the file. Whether an `EraseTx` succeeds
does not depend on the file (`DBCall.run`), so the file after a loop of erasures is the file with
the successful ones made in turn, and `zapSelectTxFile` makes the calls of `zapSelectTx` after it.

## Main definitions

* `cursorRead` — what `FindWalletTx` reads at a record: its type, and for a transaction its
  32-byte id and whether its value deserializes.
* `findWalletTxFile`, `zapWalletTx`, `zapSelectTxFile` — the functions on a file.
* `txKeyId` — the id of a key that is the type `"tx"` followed by 32 bytes, as `WriteTx` writes.

## Main results

* `zapWalletTx_loadOk` — after `ZapWalletTx` returns `LOAD_OK`, no transaction record is left
  and every other record is as it was.
* `zapWalletTx_of_found` — `ZapWalletTx` erases the transactions in key order up to the first
  `EraseTx` that fails, and then returns `CORRUPT`.
* `zapSelectTx_file` — `ZapSelectTx` erases the records of exactly the requested wallet
  transactions whose `EraseTx` succeeds, and leaves every other record.
-/

namespace DeVault.Wallet

/-! ## Reading the cursor -/

/-- `ssKey >> txid`: the 32 bytes of a `uint256`, or `none` where the read throws. -/
def readTxId (s : Bytes) : Option Bytes := if 32 ≤ s.length then some (s.take 32) else none

/-- The bytes of a `std::string` as text, one character per byte. -/
def latin1 (b : Bytes) : String := ⟨b.map fun x => Char.ofNat x.toNat⟩

variable {Tx : Type} (c : TxCodec Tx)

/-- The read of `FindWalletTx`'s loop at the record `e`: a throw out of `ssKey >> strType`,
`ssKey >> txid` or `ssValue >> wtx` is caught as `CORRUPT`, as a read error is. -/
def cursorRead (e : Bytes × Bytes) : CursorRead Bytes :=
  match readStrType e.1 with
  | .error _ => .error
  | .ok (strType, rest) =>
    if strType = ascii "tx" then
      match readTxId rest with
      | none => .error
      | some txid => .record (latin1 strType) txid (CWalletTx.unserialize c e.2).isSome
    else .record (latin1 strType) [] true

/-- `batch.Read("minversion", nMinVersion)`: the `int` stored under the key, if it reads. -/
def readMinVersion (db : WalletFile) : Option Int :=
  (db.find? (typeKey "minversion")).bind fun v => (readBits 32 v).map fun r => r.1.toInt

/-- `CWalletDB::FindWalletTx` on the file, `clientVersion` being `CLIENT_VERSION`: the cursor
reads the records in key order. -/
def findWalletTxFile (clientVersion : Int) (db : WalletFile) : Except DBErrors (List Bytes) :=
  findWalletTx (readMinVersion db) clientVersion (some (db.entries.map (cursorRead c)))

/-- The `EraseTx` calls on the ids `txIds`, in order. -/
def eraseTxCalls (eraseOk : Bytes → Bool) (txIds : List Bytes) : List (Bool × DBCall) :=
  txIds.map fun txid => (eraseOk txid, .erase (recordKey "tx" txid))

/-- `CWalletDB::ZapWalletTx` on the file, `eraseOk` whether each `EraseTx` succeeds on its own
account: it returns at the first `EraseTx` that fails. -/
def zapWalletTx (clientVersion : Int) (eraseOk : Bytes → Bool) (db : WalletFile) :
    DBErrors × WalletFile :=
  match findWalletTxFile c clientVersion db with
  | .error err => (err, db)
  | .ok txIds =>
    let r := runUntilFailure (eraseTxCalls eraseOk txIds) db
    (if r.1 then .loadOk else .corrupt, r.2)

/-- `CWalletDB::ZapSelectTx` on the file: `zapSelectTx` over the file's cursor, with its
`EraseTx` calls, made whether or not the ones before succeed. -/
def zapSelectTxFile (clientVersion : Int) (eraseOk : Bytes → Bool) (txIdsIn txIdsOut : List Bytes)
    (db : WalletFile) : ZapResult Bytes × WalletFile :=
  let r := zapSelectTx (readMinVersion db) clientVersion (some (db.entries.map (cursorRead c)))
    eraseOk txIdsIn txIdsOut
  (r, (runAll (eraseTxCalls eraseOk r.erased) db).2)

/-! ## Keys of transactions -/

/-- The id `FindWalletTx` reads from a transaction record's key: the 32 bytes after the type. -/
def cursorTxId (key : Bytes) : Option Bytes :=
  match readStrType key with
  | .ok (strType, rest) => if strType = ascii "tx" then readTxId rest else none
  | .error _ => none

/-- The id of a key that is the type `"tx"` followed by exactly 32 bytes. -/
def txKeyId (key : Bytes) : Option Bytes :=
  match readStrType key with
  | .ok (strType, rest) => if strType = ascii "tx" ∧ rest.length = 32 then some rest else none
  | .error _ => none

theorem latin1_byte (x : UInt8) : (Char.ofNat x.toNat).toNat.toUInt8 = x := by
  have hx : x.toNat < 256 := x.toNat_lt
  have : (Char.ofNat x.toNat).toNat = x.toNat := by
    simp [Char.ofNat, Char.ofNatAux, Nat.isValidChar, show x.toNat < 55296 by omega, Char.toNat]
    rfl
  rw [this]
  exact UInt8.toNat.inj (UInt8.toNat_ofNat_of_lt x.toNat_lt)

theorem eq_of_latin1_eq_tx {b : Bytes} (h : latin1 b = "tx") : b = ascii "tx" := by
  have : ascii (latin1 b) = b := by simp [ascii, latin1, Function.comp_def, latin1_byte]
  rw [← this, h]

/-- `ssKey >> strType` reads the canonical encoding of what it returns. -/
theorem eq_writeString_of_readStrType {s t rest : Bytes} (h : readStrType s = .ok (t, rest)) :
    s = writeString t ++ rest := by
  simp only [readStrType] at h
  split at h
  · cases h
  · rename_i n s' hn
    split_ifs at h with hlen
    cases h
    rw [writeString, List.length_take_of_le hlen, List.append_assoc, List.take_append_drop]
    exact eq_writeCompactSize_of_readCompactSize hn

theorem txKeyId_eq_some {k h : Bytes} :
    txKeyId k = some h ↔ h.length = 32 ∧ k = recordKey "tx" h := by
  constructor
  · intro hk
    simp only [txKeyId] at hk
    split at hk
    · rename_i t rest hr
      split_ifs at hk with ht
      cases hk
      exact ⟨ht.2, by rw [eq_writeString_of_readStrType hr, ht.1]; rfl⟩
    · cases hk
  · rintro ⟨hl, rfl⟩
    simp [txKeyId, readStrType_recordKey (show "tx".length ≤ maxSize by decide), hl]

theorem cursorTxId_of_txKeyId {k h : Bytes} (hk : txKeyId k = some h) : cursorTxId k = some h := by
  obtain ⟨hl, rfl⟩ := txKeyId_eq_some.1 hk
  simp [cursorTxId, readStrType_recordKey (show "tx".length ≤ maxSize by decide), readTxId, hl,
    List.take_of_length_le]

theorem length_of_cursorTxId {k h : Bytes} (hk : cursorTxId k = some h) : h.length = 32 := by
  simp only [cursorTxId] at hk
  split at hk
  · split_ifs at hk
    simp only [readTxId] at hk
    split_ifs at hk with hl
    cases hk
    exact List.length_take_of_le hl
  · cases hk

/-- The cursor loop of `FindWalletTx` over the file's records gives the ids of the transaction
records, in key order. -/
theorem scanTxRecords_cursorRead : ∀ {es : List (Bytes × Bytes)} {txIds : List Bytes},
    scanTxRecords (es.map (cursorRead c)) = .ok txIds →
      txIds = es.filterMap fun e => cursorTxId e.1
  | [], _, h => by simpa [scanTxRecords] using h.symm
  | e :: es, txIds, h => by
    simp only [List.map_cons, cursorRead] at h
    split at h
    · simp [scanTxRecords] at h
    · rename_i strType rest hr
      split_ifs at h with ht
      · subst ht
        cases hid : readTxId rest with
        | none => simp [hid, scanTxRecords] at h
        | some txid =>
          have hc : cursorTxId e.1 = some txid := by simp [cursorTxId, hr, hid]
          simp only [hid, scanTxRecords, show latin1 (ascii "tx") = "tx" from rfl, if_true] at h
          split_ifs at h
          cases hs : scanTxRecords (es.map (cursorRead c)) with
          | error err => simp [hs, Functor.map, Except.map] at h
          | ok ids =>
            simp only [hs, Functor.map, Except.map, Except.ok.injEq] at h
            rw [← h, List.filterMap_cons, hc, scanTxRecords_cursorRead hs]
      · have hc : cursorTxId e.1 = none := by simp [cursorTxId, hr, ht]
        rw [scanTxRecords, if_neg (fun h' => ht (eq_of_latin1_eq_tx h'))] at h
        rw [List.filterMap_cons, hc]
        exact scanTxRecords_cursorRead h

theorem scanTxRecords_error {reads : List (CursorRead Bytes)} {err : DBErrors}
    (h : scanTxRecords reads = .error err) : err = .corrupt := by
  induction reads with
  | nil => cases h
  | cons r reads ih =>
    match r with
    | .error => simpa [scanTxRecords] using h.symm
    | .record strType txid valueOk =>
      simp only [scanTxRecords] at h
      split_ifs at h
      · cases hs : scanTxRecords reads <;> simp_all [Functor.map, Except.map]
      · exact (Except.error.inj h).symm
      · exact ih h

/-- What `FindWalletTx` returns on the file: the ids of its transaction records. -/
theorem findWalletTxFile_ok {clientVersion : Int} {db : WalletFile} {txIds : List Bytes}
    (h : findWalletTxFile c clientVersion db = .ok txIds) :
    txIds = db.entries.filterMap fun e => cursorTxId e.1 := by
  simp only [findWalletTxFile, findWalletTx] at h
  split_ifs at h
  exact scanTxRecords_cursorRead c h

theorem findWalletTxFile_error {clientVersion : Int} {db : WalletFile} {err : DBErrors}
    (h : findWalletTxFile c clientVersion db = .error err) : err ≠ .loadOk := by
  simp only [findWalletTxFile, findWalletTx] at h
  split_ifs at h
  · cases h; decide
  · rw [scanTxRecords_error h]; decide

/-- A record of the file whose key is a transaction's is among the ids `FindWalletTx` returns. -/
theorem mem_of_txKeyId {clientVersion : Int} {db : WalletFile} {txIds : List Bytes}
    (h : findWalletTxFile c clientVersion db = .ok txIds) {k id v : Bytes}
    (hk : txKeyId k = some id) (hv : db.find? k = some v) : id ∈ txIds := by
  rw [findWalletTxFile_ok c h, List.mem_filterMap]
  exact ⟨(k, v), OrdMap.mem_entries_iff.2 hv, cursorTxId_of_txKeyId hk⟩

theorem length_of_mem {clientVersion : Int} {db : WalletFile} {txIds : List Bytes}
    (h : findWalletTxFile c clientVersion db = .ok txIds) {id : Bytes} (hid : id ∈ txIds) :
    id.length = 32 := by
  rw [findWalletTxFile_ok c h, List.mem_filterMap] at hid
  obtain ⟨_, -, he⟩ := hid
  exact length_of_cursorTxId he

/-! ## Erasing -/

@[simp] theorem eraseTxCalls_nil (eraseOk : Bytes → Bool) : eraseTxCalls eraseOk [] = [] := rfl

@[simp] theorem eraseTxCalls_cons (eraseOk : Bytes → Bool) (txid : Bytes) (txIds : List Bytes) :
    eraseTxCalls eraseOk (txid :: txIds) =
      (eraseOk txid, .erase (recordKey "tx" txid)) :: eraseTxCalls eraseOk txIds := rfl

/-- Erase calls all made in turn: a key loses its record exactly when a call that succeeds erases
it. -/
theorem find?_runAll_eraseTxCalls (eraseOk : Bytes → Bool) (k : Bytes) :
    ∀ (txIds : List Bytes) (db : WalletFile),
      (runAll (eraseTxCalls eraseOk txIds) db).2.find? k =
        if ∃ txid ∈ txIds, eraseOk txid = true ∧ recordKey "tx" txid = k then none
        else db.find? k
  | [], db => by
    simp only [eraseTxCalls_nil, runAll, List.not_mem_nil, false_and, exists_false, if_false]
  | txid :: txIds, db => by
    rw [eraseTxCalls_cons, runAll]
    dsimp only
    rw [find?_runAll_eraseTxCalls eraseOk k txIds]
    by_cases hrest : ∃ x ∈ txIds, eraseOk x = true ∧ recordKey "tx" x = k
    · obtain ⟨x, hx, hxk⟩ := hrest
      rw [if_pos ⟨x, hx, hxk⟩, if_pos ⟨x, List.mem_cons_of_mem _ hx, hxk⟩]
    rw [if_neg hrest]
    by_cases hhead : eraseOk txid = true ∧ recordKey "tx" txid = k
    · -- the head call erases `k`
      obtain ⟨hok, rfl⟩ := hhead
      rw [if_pos ⟨txid, List.mem_cons_self _ _, hok, rfl⟩]
      simp only [DBCall.run, hok, if_true, OrdMap.find?_erase]
    · rw [if_neg fun ⟨x, hx, hxk⟩ => (List.mem_cons.1 hx).elim (fun h => hhead (h ▸ hxk))
        fun h => hrest ⟨x, h, hxk⟩]
      cases hok : eraseOk txid
      · simp only [DBCall.run, Bool.false_eq_true, if_false]
      · have hk : k ≠ recordKey "tx" txid := fun h => hhead ⟨hok, h.symm⟩
        simp only [DBCall.run, if_true, OrdMap.find?_erase, if_neg hk]

/-- Erase calls made until one fails: the file is the one the calls before the first failure
give, and the loop succeeds when no call fails. -/
theorem runUntilFailure_eraseTxCalls (eraseOk : Bytes → Bool) :
    ∀ (txIds : List Bytes) (db : WalletFile),
      runUntilFailure (eraseTxCalls eraseOk txIds) db =
        (txIds.all eraseOk, (runAll (eraseTxCalls eraseOk (txIds.takeWhile eraseOk)) db).2)
  | [], db => rfl
  | txid :: txIds, db => by
    rw [eraseTxCalls_cons, runUntilFailure]
    cases h : eraseOk txid
    · simp [DBCall.run, h, runAll]
    · simp [DBCall.run, h, runUntilFailure_eraseTxCalls eraseOk txIds, runAll]

/-- Erase calls on transaction ids: a key loses its record exactly when it is the key of an id
whose call succeeds. -/
theorem find?_runAll_eraseTxCalls_eq (eraseOk : Bytes → Bool) {txIds : List Bytes}
    (hlen : ∀ id ∈ txIds, id.length = 32) (db : WalletFile) (k : Bytes) :
    (runAll (eraseTxCalls eraseOk txIds) db).2.find? k =
      if (txKeyId k).any (fun id => decide (id ∈ txIds) && eraseOk id) then none
      else db.find? k := by
  rw [find?_runAll_eraseTxCalls]
  cases hk : txKeyId k with
  | none =>
    -- `k` is the key of no transaction id
    refine if_neg fun ⟨id, hid, _, hidk⟩ => ?_
    rw [← hidk, txKeyId_eq_some.2 ⟨hlen id hid, rfl⟩] at hk
    cases hk
  | some id =>
    obtain ⟨-, rfl⟩ := txKeyId_eq_some.1 hk
    by_cases hid : id ∈ txIds ∧ eraseOk id = true
    · rw [if_pos ⟨id, hid.1, hid.2, rfl⟩]
      simp [hid.1, hid.2]
    · have hnone :
          ¬∃ x ∈ txIds, eraseOk x = true ∧ recordKey "tx" x = recordKey "tx" id := by
        rintro ⟨id', hid', hok, h⟩
        have := txKeyId_eq_some.2 ⟨hlen id' hid', h.symm⟩
        rw [hk, Option.some.injEq] at this
        exact hid (this ▸ ⟨hid', hok⟩)
      rw [if_neg hnone, Option.any_some, if_neg (by simpa using hid)]

section Loop

variable {TxId : Type} [LinearOrder TxId]

/-- The loop of `ZapSelectTx` over sorted wallet ids that may repeat (two malformed keys can
carry one id): each occurrence of a requested id is erased. -/
theorem zapSelectLoop_eq_of_le (eraseTx : TxId → Bool) :
    ∀ {ws it : List TxId}, ws.Pairwise (· ≤ ·) → it.Pairwise (· ≤ ·) →
      zapSelectLoop eraseTx ws it =
        (ws.filter (fun w => decide (w ∈ it)),
          (ws.filter (fun w => decide (w ∈ it))).any (fun w => !eraseTx w))
  | [], _, _, _ => rfl
  | t :: rest, it, hw, hit => by
    rw [List.pairwise_cons] at hw
    have hge : ∀ w ∈ t :: rest, t ≤ w := fun w hw' =>
      (List.mem_cons.1 hw').elim (fun h => h ▸ le_refl t) (hw.1 w)
    have hsorted : (it.dropWhile (fun x => decide (x < t))).Pairwise (· ≤ ·) :=
      hit.sublist (List.dropWhile_sublist _)
    rw [← filter_mem_dropWhile_lt hge, zapSelectLoop]
    split
    · -- no requested id is left
      rename_i hd
      simp [hd]
    · rename_i x xs hd
      have hx := le_of_dropWhile_lt_eq_cons hd
      rw [hd] at hsorted ⊢
      rw [zapSelectLoop_eq_of_le eraseTx hw.2 hsorted]
      split_ifs with hxt
      · -- the pointer is at `t`: it is erased, and the pointer stays
        subst hxt
        rw [List.filter_cons_of_pos (by simp), List.any_cons]
      · -- the pointer is past `t`: it was not requested
        have ht : t ∉ x :: xs := fun ht => (List.mem_cons.1 ht).elim (fun h => hxt h.symm)
          fun h => not_le.2 (lt_of_le_of_ne hx (Ne.symm hxt)) ((List.pairwise_cons.1 hsorted).1 t h)
        rw [List.filter_cons_of_neg (by rwa [decide_eq_true_iff])]

end Loop

/-! ## The three functions on the file -/

section Zap

variable {clientVersion : Int} {eraseOk : Bytes → Bool} {db : WalletFile}

/-- The status `ZapWalletTx` returns once `FindWalletTx` has read the file: whether every
`EraseTx` succeeded. -/
theorem zapWalletTx_status {txIds : List Bytes}
    (hfind : findWalletTxFile c clientVersion db = .ok txIds) :
    (zapWalletTx c clientVersion eraseOk db).1 =
      if txIds.all eraseOk then .loadOk else .corrupt := by
  simp only [zapWalletTx, hfind, runUntilFailure_eraseTxCalls]

/-- The file `ZapWalletTx` leaves once `FindWalletTx` has read it: the records of the ids before
the first failing `EraseTx` are gone. -/
theorem find?_zapWalletTx {txIds : List Bytes}
    (hfind : findWalletTxFile c clientVersion db = .ok txIds) (k : Bytes) :
    (zapWalletTx c clientVersion eraseOk db).2.find? k =
      if (txKeyId k).any (fun id => decide (id ∈ txIds.takeWhile eraseOk)) then none
      else db.find? k := by
  simp only [zapWalletTx, hfind, runUntilFailure_eraseTxCalls]
  rw [find?_runAll_eraseTxCalls_eq eraseOk (fun id hid =>
    length_of_mem c hfind ((List.takeWhile_sublist _).subset hid))]
  congr 2
  cases txKeyId k with
  | none => rfl
  | some id =>
    simp only [Option.any_some, Bool.and_iff_left_iff_imp, decide_eq_true_eq]
    exact fun h => List.mem_takeWhile_imp h

/-- A file with a name record and two transactions, whose values read as `CWalletTx`s. -/
def twoTxFile : WalletFile :=
  ((OrdMap.empty.insert (recordKey "name" [1]) (ascii "alice")).insert
    (recordKey "tx" (List.replicate 32 7)) (List.replicate 54 0)).insert
    (recordKey "tx" (List.replicate 32 9)) (List.replicate 54 0)

/-- `ZapWalletTx` erases the transactions `FindWalletTx` lists, in key order, up to the first
`EraseTx` that fails: the file then lacks exactly the records of the ids before that one, every
other record as it was, and the status is `LOAD_OK` when no `EraseTx` fails and `CORRUPT`
otherwise. -/
theorem zapWalletTx_of_found {txIds : List Bytes}
    (hfind : findWalletTxFile c clientVersion db = .ok txIds) :
    (zapWalletTx c clientVersion eraseOk db).1 =
        (if txIds.all eraseOk then .loadOk else .corrupt) ∧
      ∀ k, (zapWalletTx c clientVersion eraseOk db).2.find? k =
        if (txKeyId k).any (fun id => decide (id ∈ txIds.takeWhile eraseOk)) then none
        else db.find? k :=
  ⟨zapWalletTx_status c hfind, find?_zapWalletTx c hfind⟩

/-- The second `EraseTx` fails: the first transaction is erased, and the status is `CORRUPT`. -/
theorem zapWalletTx_of_found_second_fails :
    findWalletTxFile bitsTxCodec 0 twoTxFile = .ok [List.replicate 32 7, List.replicate 32 9] ∧
      ((zapWalletTx bitsTxCodec 0 (fun id => id != List.replicate 32 9) twoTxFile).1 =
          (if [List.replicate 32 7, List.replicate 32 9].all (fun id => id != List.replicate 32 9)
            then .loadOk else .corrupt) ∧
        ∀ k, (zapWalletTx bitsTxCodec 0 (fun id => id != List.replicate 32 9)
            twoTxFile).2.find? k =
          if (txKeyId k).any (fun id => decide (id ∈
            [List.replicate 32 7, List.replicate 32 9].takeWhile
              (fun id => id != List.replicate 32 9))) then none
          else twoTxFile.find? k) :=
  ⟨rfl, @zapWalletTx_of_found _ bitsTxCodec 0 (fun id => id != List.replicate 32 9) twoTxFile
    [List.replicate 32 7, List.replicate 32 9] rfl⟩

/-- After `ZapWalletTx` returns `LOAD_OK`, the file has no transaction record left, and every
other record is as it was. -/
theorem zapWalletTx_loadOk (h : (zapWalletTx c clientVersion eraseOk db).1 = .loadOk) (k : Bytes) :
    (zapWalletTx c clientVersion eraseOk db).2.find? k =
      if (txKeyId k).isSome then none else db.find? k := by
  cases hfind : findWalletTxFile c clientVersion db with
  | error err =>
    simp only [zapWalletTx, hfind] at h
    exact absurd h (findWalletTxFile_error c hfind)
  | ok txIds =>
    have hall : txIds.all eraseOk = true := by
      rw [zapWalletTx_status c hfind] at h
      split_ifs at h with ha
      exact ha
    rw [find?_zapWalletTx c hfind, List.takeWhile_eq_self_iff.2 (List.all_eq_true.1 hall)]
    cases hk : txKeyId k with
    | none => rfl
    | some id =>
      cases hv : db.find? k with
      | none => simp
      | some v => simp [mem_of_txKeyId c hfind hk hv]

theorem zapWalletTx_loadOk_twoTxFile :
    (zapWalletTx bitsTxCodec 0 (fun _ => true) twoTxFile).1 = .loadOk ∧
      ∀ k, (zapWalletTx bitsTxCodec 0 (fun _ => true) twoTxFile).2.find? k =
        if (txKeyId k).isSome then none else twoTxFile.find? k :=
  ⟨by decide, zapWalletTx_loadOk bitsTxCodec (by decide)⟩

/-- `ZapSelectTx`, once `FindWalletTx` has read the file, erases the records of exactly the
requested wallet transactions whose `EraseTx` succeeds, and leaves every other record as it was. -/
theorem zapSelectTx_file {txIdsIn txIdsOut : List Bytes}
    (hfind : (findWalletTxFile c clientVersion db).isOk = true) (k : Bytes) :
    (zapSelectTxFile c clientVersion eraseOk txIdsIn txIdsOut db).2.find? k =
      if (txKeyId k).any (fun id => decide (id ∈ txIdsIn) && eraseOk id) then none
      else db.find? k := by
  cases hf : findWalletTxFile c clientVersion db with
  | error err => simp [hf, Except.isOk, Except.toBool] at hfind
  | ok txIds =>
    obtain ⟨hsorted, hperm⟩ := sort_ids txIds
    obtain ⟨hsortedIn, hpermIn⟩ := sort_ids txIdsIn
    have hf' := hf
    simp only [findWalletTxFile] at hf'
    simp only [zapSelectTxFile, zapSelectTx, hf', zapSelectLoop_eq_of_le eraseOk hsorted hsortedIn]
    rw [find?_runAll_eraseTxCalls_eq eraseOk fun id hid =>
      length_of_mem c hf (hperm.mem_iff.1 (List.mem_filter.1 hid).1)]
    cases hk : txKeyId k with
    | none => rfl
    | some id =>
      cases hv : db.find? k with
      | none => simp
      | some v => simp [hperm.mem_iff, hpermIn.mem_iff, mem_of_txKeyId c hf hk hv]

/-- One requested id is a wallet transaction, the other is not. -/
theorem zapSelectTx_file_twoTxFile :
    (findWalletTxFile bitsTxCodec 0 twoTxFile).isOk = true ∧
      ∀ k, (zapSelectTxFile bitsTxCodec 0 (fun _ => true)
          [List.replicate 32 9, List.replicate 32 3] [] twoTxFile).2.find? k =
        if (txKeyId k).any (fun id =>
          decide (id ∈ [List.replicate 32 9, List.replicate 32 3]) && true) then none
        else twoTxFile.find? k :=
  ⟨by decide, zapSelectTx_file bitsTxCodec (by decide)⟩

end Zap

end DeVault.Wallet
