import DeVault.Wallet.LoadWallet
import DeVault.CashAddr.Canonical

/-!
# The records the wallet database writers make

Each writer of `CWalletDB` (walletdb.cpp) serializes a key, made of a record type string and the
record's own key, and a value, and hands them to `batch.Write` or `batch.Erase`, most of them
through `WriteIC` and `EraseIC` (walletdb.h). Berkeley DB's `put` and `del` (db.h, not in src/)
act on the file as on a map from serialized keys to serialized values: a write without
`fOverwrite` fails on a key that is there (`DB_NOOVERWRITE`), an erase of a missing key succeeds
(`DB_NOTFOUND`), and each call may fail for reasons of its own (`ok`). `IncrementUpdateCounter`
is modelled in `Flush`. Values whose serialization src/ does not define (`CMasterKey`,
`CKeyMetadata`, `CHDPubKey`, `CHDChain`, `CBlockLocator`, a transaction) are the bytes the caller
hands in, and so are the hashes that name a record (`wtx.GetId()`, a script's `uint160`).

## Main definitions

* `DBCall` — one `batch.Write` or `batch.Erase`; `runUntilFailure` and `runAll` — the two ways a
  writer makes several.
* `WalletDBOp`, `WalletDBOp.step`, `runWalletDB` — every writer of `CWalletDB`, and runs of them.

## Main results

* `readStrType_recordKey` — the loader reads back each key's record type.
* `WalletDBOp.step_preserves` — a writer changes the file only through its own calls.
* `run_keeps_protected` — no run of writers replaces or erases a crypted key, a script or an HD
  public key once it is in the file.
-/

namespace DeVault.Wallet

open DeVault.CashAddr

/-- The records of a wallet database file, by serialized key. -/
abbrev WalletFile := OrdMap Bytes Bytes

/-- One call of `batch.Write(key, value, fOverwrite)` or `batch.Erase(key)`. -/
inductive DBCall
  | write (key value : Bytes) (fOverwrite : Bool)
  | erase (key : Bytes)

/-- A call on the file, `ok` whether Berkeley DB's `put` or `del` succeeds on its own account. -/
def DBCall.run (ok : Bool) : DBCall → WalletFile → Bool × WalletFile
  | .write key value fOverwrite, db =>
    if ok && (fOverwrite || (db.find? key).isNone) then (true, db.insert key value) else (false, db)
  | .erase key, db => if ok then (true, db.erase key) else (false, db)

/-- Calls made in turn while they succeed: `if (!WriteIC(...)) return false;`. -/
def runUntilFailure : List (Bool × DBCall) → WalletFile → Bool × WalletFile
  | [], db => (true, db)
  | (ok, c) :: cs, db =>
    let r := c.run ok db
    if r.1 then runUntilFailure cs r.2 else (false, r.2)

/-- Calls all made, and whether each succeeded: `if (!batch.Write(...)) ok = false;`. -/
def runAll : List (Bool × DBCall) → WalletFile → Bool × WalletFile
  | [], db => (true, db)
  | (ok, c) :: cs, db =>
    let r := c.run ok db
    let rs := runAll cs r.2
    (r.1 && rs.1, rs.2)

/-! ## Keys -/

/-- The key `std::string(strType)`. -/
def typeKey (strType : String) : Bytes := writeString (ascii strType)

/-- The key `std::make_pair(std::string(strType), k)`, with `k` serialized. -/
def recordKey (strType : String) (k : Bytes) : Bytes := typeKey strType ++ k

/-- The record type the loader reads from a key (`ssKey >> strType`), if it reads. -/
def recordType (key : Bytes) : Option Bytes :=
  match readStrType key with
  | .ok r => some r.1
  | .error _ => none

theorem length_ascii (s : String) : (ascii s).length = s.length := by
  simp only [ascii, List.length_map, String.length]

theorem readStrType_recordKey {strType : String} (h : strType.length ≤ maxSize) (k : Bytes) :
    readStrType (recordKey strType k) = .ok (ascii strType, k) := by
  rw [readStrType, recordKey, typeKey, writeString, List.append_assoc,
    readCompactSize_writeCompactSize ((length_ascii strType).trans_le h)]
  simp

theorem recordType_recordKey {strType : String} (h : strType.length ≤ maxSize) (k : Bytes) :
    recordType (recordKey strType k) = some (ascii strType) := by
  simp [recordType, readStrType_recordKey h]

theorem recordType_typeKey {strType : String} (h : strType.length ≤ maxSize) :
    recordType (typeKey strType) = some (ascii strType) := by
  simpa [recordKey] using recordType_recordKey h []

/-! ## The writers -/

/-- `IsValidDestination` (script/standard.cpp): anything but `CNoDestination`. -/
def isValidDestination : CTxDestination → Bool
  | .noDestination => false
  | _ => true

section Writers

variable (params : CChainParams)

/-- The key `(strType, EncodeCashAddr(address, Params()))` of an address-book record. -/
def addressKey (strType : String) (address : CTxDestination) : Bytes :=
  recordKey strType (writeString (ascii (encodeCashAddr address params)))

/-- `WriteName` and `WritePurpose`: nothing for an invalid destination, else `WriteIC`. -/
def writeAddressRecord (strType : String) (ok : Bool) (address : CTxDestination) (value : Bytes)
    (db : WalletFile) : Bool × WalletFile :=
  if !isValidDestination address then (false, db)
  else (DBCall.write (addressKey params strType address) (writeString value) true).run ok db

/-- `EraseName` and `ErasePurpose`: nothing for an invalid destination, else `EraseIC`. -/
def eraseAddressRecord (strType : String) (ok : Bool) (address : CTxDestination)
    (db : WalletFile) : Bool × WalletFile :=
  if !isValidDestination address then (false, db)
  else (DBCall.erase (addressKey params strType address)).run ok db

/-- `CWalletDB::WriteName`. -/
def writeName (ok : Bool) (address : CTxDestination) (strName : Bytes) :
    WalletFile → Bool × WalletFile :=
  writeAddressRecord params "name" ok address strName

/-- `CWalletDB::EraseName`. -/
def eraseName (ok : Bool) (address : CTxDestination) : WalletFile → Bool × WalletFile :=
  eraseAddressRecord params "name" ok address

/-- `CWalletDB::WritePurpose`. -/
def writePurpose (ok : Bool) (address : CTxDestination) (strPurpose : Bytes) :
    WalletFile → Bool × WalletFile :=
  writeAddressRecord params "purpose" ok address strPurpose

/-- `CWalletDB::ErasePurpose`. -/
def erasePurpose (ok : Bool) (address : CTxDestination) : WalletFile → Bool × WalletFile :=
  eraseAddressRecord params "purpose" ok address

/-- `CWalletDB::WriteDestData`: the key `("destdata", (address, key))`. -/
def writeDestData (ok : Bool) (address : CTxDestination) (key value : Bytes) (db : WalletFile) :
    Bool × WalletFile :=
  if !isValidDestination address then (false, db)
  else (DBCall.write (recordKey "destdata"
    (writeString (ascii (encodeCashAddr address params)) ++ writeString key))
    (writeString value) true).run ok db

/-- `CWalletDB::EraseDestData`. -/
def eraseDestData (ok : Bool) (address : CTxDestination) (key : Bytes) (db : WalletFile) :
    Bool × WalletFile :=
  if !isValidDestination address then (false, db)
  else (DBCall.erase (recordKey "destdata"
    (writeString (ascii (encodeCashAddr address params)) ++ writeString key))).run ok db

end Writers

/-- `CWalletDB::WriteTx`, with `txid` the bytes of `wtx.GetId()` and `wtx` the transaction as
serialized. -/
def writeTx (ok : Bool) (txid wtx : Bytes) : WalletFile → Bool × WalletFile :=
  (DBCall.write (recordKey "tx" txid) wtx true).run ok

/-- `CWalletDB::EraseTx`. -/
def eraseTx (ok : Bool) (hash : Bytes) : WalletFile → Bool × WalletFile :=
  (DBCall.erase (recordKey "tx" hash)).run ok

/-- `CWalletDB::WriteCryptedKey`: the metadata, overwriting, then the crypted secret, never
overwriting; it returns at the first failure, the metadata already written. -/
def writeCryptedKey (ok₁ ok₂ : Bool) (vchPubKey vchCryptedSecret keyMeta : Bytes) :
    WalletFile → Bool × WalletFile :=
  runUntilFailure [(ok₁, .write (recordKey "keymeta" (writeString vchPubKey)) keyMeta true),
    (ok₂, .write (recordKey "ckey" (writeString vchPubKey)) (writeString vchCryptedSecret) false)]

/-- `CWalletDB::WriteMasterKey`, overwriting. -/
def writeMasterKey (ok : Bool) (nID : BitVec 32) (kMasterKey : Bytes) :
    WalletFile → Bool × WalletFile :=
  (DBCall.write (recordKey "mkey" (writeBits nID)) kMasterKey true).run ok

/-- `CWalletDB::WriteCScript`, never overwriting; `hash` is the script's `uint160`. -/
def writeCScript (ok : Bool) (hash redeemScript : Bytes) : WalletFile → Bool × WalletFile :=
  (DBCall.write (recordKey "cscript" hash) (writeString redeemScript) false).run ok

/-- `CWalletDB::WriteWatchOnly`: the metadata, then the char `'1'`. -/
def writeWatchOnly (ok₁ ok₂ : Bool) (dest keyMeta : Bytes) : WalletFile → Bool × WalletFile :=
  runUntilFailure [(ok₁, .write (recordKey "watchmeta" (writeString dest)) keyMeta true),
    (ok₂, .write (recordKey "watchs" (writeString dest)) [49] true)]

/-- `CWalletDB::EraseWatchOnly`. -/
def eraseWatchOnly (ok₁ ok₂ : Bool) (dest : Bytes) : WalletFile → Bool × WalletFile :=
  runUntilFailure [(ok₁, .erase (recordKey "watchmeta" (writeString dest))),
    (ok₂, .erase (recordKey "watchs" (writeString dest)))]

/-- `CWalletDB::WriteBestBlock`: an empty locator under `"bestblock"`, its result dropped, then
the locator under `"bestblock_nomerkle"`. -/
def writeBestBlock (ok₁ ok₂ : Bool) (emptyLocator locator : Bytes) (db : WalletFile) :
    Bool × WalletFile :=
  let db := ((DBCall.write (typeKey "bestblock") emptyLocator true).run ok₁ db).2
  (DBCall.write (typeKey "bestblock_nomerkle") locator true).run ok₂ db

/-- `CWalletDB::WriteOrderPosNext`. -/
def writeOrderPosNext (ok : Bool) (nOrderPosNext : BitVec 64) : WalletFile → Bool × WalletFile :=
  (DBCall.write (typeKey "orderposnext") (writeBits nOrderPosNext) true).run ok

/-- The fields of `CKeyPool` (wallet.h). -/
structure CKeyPool where
  nTime : BitVec 64
  vchPubKey : Bytes
  fInternal : Bool

/-- `CKeyPool::SerializationOp` on a disk stream of version `nVersion`. -/
def CKeyPool.serialize (nVersion : BitVec 32) (k : CKeyPool) : Bytes :=
  writeBits nVersion ++ writeBits k.nTime ++ writeString k.vchPubKey ++
    [if k.fInternal then 1 else 0]

/-- `CWalletDB::WritePool`. -/
def writePool (ok : Bool) (nVersion : BitVec 32) (nPool : BitVec 64) (keypool : CKeyPool) :
    WalletFile → Bool × WalletFile :=
  (DBCall.write (recordKey "pool" (writeBits nPool)) (keypool.serialize nVersion) true).run ok

/-- `CWalletDB::ErasePool`. -/
def erasePool (ok : Bool) (nPool : BitVec 64) : WalletFile → Bool × WalletFile :=
  (DBCall.erase (recordKey "pool" (writeBits nPool))).run ok

/-- `CWalletDB::WritePool(keys, index)`: `batch.Write` at `++index` for each key, every one made. -/
def writePoolVector (nVersion : BitVec 32) (keys : List (Bool × CKeyPool)) (index : BitVec 64) :
    WalletFile → Bool × WalletFile :=
  runAll (keys.enum.map fun k =>
    (k.2.1, .write (recordKey "pool" (writeBits (index + BitVec.ofNat 64 (k.1 + 1))))
      (k.2.2.serialize nVersion) true))

/-- `CWalletDB::WriteMinVersion`. -/
def writeMinVersion (ok : Bool) (nVersion : BitVec 32) : WalletFile → Bool × WalletFile :=
  (DBCall.write (typeKey "minversion") (writeBits nVersion) true).run ok

/-- The field of `CAccount` (wallet.h). -/
structure CAccount where
  vchPubKey : Bytes

/-- `CAccount::SerializationOp` on a disk stream of version `nVersion`. -/
def CAccount.serialize (nVersion : BitVec 32) (a : CAccount) : Bytes :=
  writeBits nVersion ++ writeString a.vchPubKey

/-- `CWalletDB::WriteAccount`. -/
def writeAccount (ok : Bool) (nVersion : BitVec 32) (strAccount : Bytes) (account : CAccount) :
    WalletFile → Bool × WalletFile :=
  (DBCall.write (recordKey "acc" (writeString strAccount)) (account.serialize nVersion) true).run ok

/-- `CWalletDB::WriteHDPubKey`: the metadata, then the key, neither overwriting. -/
def writeHDPubKey (ok₁ ok₂ : Bool) (pubkey hdPubKey keyMeta : Bytes) :
    WalletFile → Bool × WalletFile :=
  runUntilFailure [(ok₁, .write (recordKey "keymeta" (writeString pubkey)) keyMeta false),
    (ok₂, .write (recordKey "hdpubkey" (writeString pubkey)) hdPubKey false)]

/-- `CWalletDB::WriteCryptedHDChain`. -/
def writeCryptedHDChain (ok : Bool) (chain : Bytes) : WalletFile → Bool × WalletFile :=
  (DBCall.write (typeKey "chdchain") chain true).run ok

/-- `CWalletDB::WriteHDPubKeys`: for each key, with `keyMetaOf` the metadata `mapKeyMeta[id]`
gives its public key, the metadata and the key through `batch.Write`, neither overwriting, every
one made. -/
def writeHDPubKeys (keyMetaOf : Bytes → Bytes) (keys : List (Bool × Bool × Bytes × Bytes)) :
    WalletFile → Bool × WalletFile :=
  runAll (keys.flatMap fun k =>
    [(k.1, .write (recordKey "keymeta" (writeString k.2.2.1)) (keyMetaOf k.2.2.1) false),
      (k.2.1, .write (recordKey "hdpubkey" (writeString k.2.2.1)) k.2.2.2 false)])

/-! ## Runs of writers -/

/-- A call of a `CWalletDB` writer, with whether each of its Berkeley DB calls succeeds. -/
inductive WalletDBOp
  | writeName (ok : Bool) (address : CTxDestination) (strName : Bytes)
  | eraseName (ok : Bool) (address : CTxDestination)
  | writePurpose (ok : Bool) (address : CTxDestination) (strPurpose : Bytes)
  | erasePurpose (ok : Bool) (address : CTxDestination)
  | writeDestData (ok : Bool) (address : CTxDestination) (key value : Bytes)
  | eraseDestData (ok : Bool) (address : CTxDestination) (key : Bytes)
  | writeTx (ok : Bool) (txid wtx : Bytes)
  | eraseTx (ok : Bool) (hash : Bytes)
  | writeCryptedKey (ok₁ ok₂ : Bool) (vchPubKey vchCryptedSecret keyMeta : Bytes)
  | writeMasterKey (ok : Bool) (nID : BitVec 32) (kMasterKey : Bytes)
  | writeCScript (ok : Bool) (hash redeemScript : Bytes)
  | writeWatchOnly (ok₁ ok₂ : Bool) (dest keyMeta : Bytes)
  | eraseWatchOnly (ok₁ ok₂ : Bool) (dest : Bytes)
  | writeBestBlock (ok₁ ok₂ : Bool) (locator : Bytes)
  | writeOrderPosNext (ok : Bool) (nOrderPosNext : BitVec 64)
  | writePool (ok : Bool) (nPool : BitVec 64) (keypool : CKeyPool)
  | erasePool (ok : Bool) (nPool : BitVec 64)
  | writePoolVector (keys : List (Bool × CKeyPool)) (index : BitVec 64)
  | writeMinVersion (ok : Bool) (nVersion : BitVec 32)
  | writeAccount (ok : Bool) (strAccount : Bytes) (account : CAccount)
  | writeAccountingEntry (ok : Bool) (nAccEntryNum : BitVec 64) (acentry : CAccountingEntry)
  | writeHDPubKey (ok₁ ok₂ : Bool) (pubkey hdPubKey keyMeta : Bytes)
  | writeCryptedHDChain (ok : Bool) (chain : Bytes)
  | writeHDPubKeys (keys : List (Bool × Bool × Bytes × Bytes))

section Run

variable (params : CChainParams) (nVersion : BitVec 32) (emptyLocator : Bytes)
  (keyMetaOf : Bytes → Bytes)

/-- A writer's call on the file, with `params` the chain's `Params()`, `nVersion` the disk stream
version, `emptyLocator` a `CBlockLocator()` as serialized, and `keyMetaOf` what
`WriteHDPubKeys`'s metadata map gives. -/
def WalletDBOp.step : WalletDBOp → WalletFile → Bool × WalletFile
  | .writeName ok address strName => Wallet.writeName params ok address strName
  | .eraseName ok address => Wallet.eraseName params ok address
  | .writePurpose ok address strPurpose => Wallet.writePurpose params ok address strPurpose
  | .erasePurpose ok address => Wallet.erasePurpose params ok address
  | .writeDestData ok address key value => Wallet.writeDestData params ok address key value
  | .eraseDestData ok address key => Wallet.eraseDestData params ok address key
  | .writeTx ok txid wtx => Wallet.writeTx ok txid wtx
  | .eraseTx ok hash => Wallet.eraseTx ok hash
  | .writeCryptedKey ok₁ ok₂ vchPubKey vchCryptedSecret keyMeta =>
    Wallet.writeCryptedKey ok₁ ok₂ vchPubKey vchCryptedSecret keyMeta
  | .writeMasterKey ok nID kMasterKey => Wallet.writeMasterKey ok nID kMasterKey
  | .writeCScript ok hash redeemScript => Wallet.writeCScript ok hash redeemScript
  | .writeWatchOnly ok₁ ok₂ dest keyMeta => Wallet.writeWatchOnly ok₁ ok₂ dest keyMeta
  | .eraseWatchOnly ok₁ ok₂ dest => Wallet.eraseWatchOnly ok₁ ok₂ dest
  | .writeBestBlock ok₁ ok₂ locator => Wallet.writeBestBlock ok₁ ok₂ emptyLocator locator
  | .writeOrderPosNext ok nOrderPosNext => Wallet.writeOrderPosNext ok nOrderPosNext
  | .writePool ok nPool keypool => Wallet.writePool ok nVersion nPool keypool
  | .erasePool ok nPool => Wallet.erasePool ok nPool
  | .writePoolVector keys index => Wallet.writePoolVector nVersion keys index
  | .writeMinVersion ok v => Wallet.writeMinVersion ok v
  | .writeAccount ok strAccount account => Wallet.writeAccount ok nVersion strAccount account
  | .writeAccountingEntry ok nAccEntryNum acentry =>
    let r := Wallet.writeAccountingEntry nVersion nAccEntryNum acentry
    (DBCall.write r.1 r.2 true).run ok
  | .writeHDPubKey ok₁ ok₂ pubkey hdPubKey keyMeta => Wallet.writeHDPubKey ok₁ ok₂ pubkey hdPubKey keyMeta
  | .writeCryptedHDChain ok chain => Wallet.writeCryptedHDChain ok chain
  | .writeHDPubKeys keys => Wallet.writeHDPubKeys keyMetaOf keys

/-- The file after a run of writers. -/
def runWalletDB : List WalletDBOp → WalletFile → WalletFile
  | [], db => db
  | op :: ops, db => runWalletDB ops (op.step params nVersion emptyLocator keyMetaOf db).2

/-- Every Berkeley DB call a writer can make, with its success flag. -/
def WalletDBOp.calls : WalletDBOp → List (Bool × DBCall)
  | .writeName ok address strName =>
    [(ok, .write (addressKey params "name" address) (writeString strName) true)]
  | .eraseName ok address => [(ok, .erase (addressKey params "name" address))]
  | .writePurpose ok address strPurpose =>
    [(ok, .write (addressKey params "purpose" address) (writeString strPurpose) true)]
  | .erasePurpose ok address => [(ok, .erase (addressKey params "purpose" address))]
  | .writeDestData ok address key value =>
    [(ok, .write (recordKey "destdata"
      (writeString (ascii (encodeCashAddr address params)) ++ writeString key))
      (writeString value) true)]
  | .eraseDestData ok address key =>
    [(ok, .erase (recordKey "destdata"
      (writeString (ascii (encodeCashAddr address params)) ++ writeString key)))]
  | .writeTx ok txid wtx => [(ok, .write (recordKey "tx" txid) wtx true)]
  | .eraseTx ok hash => [(ok, .erase (recordKey "tx" hash))]
  | .writeCryptedKey ok₁ ok₂ vchPubKey vchCryptedSecret keyMeta =>
    [(ok₁, .write (recordKey "keymeta" (writeString vchPubKey)) keyMeta true),
      (ok₂, .write (recordKey "ckey" (writeString vchPubKey)) (writeString vchCryptedSecret) false)]
  | .writeMasterKey ok nID kMasterKey => [(ok, .write (recordKey "mkey" (writeBits nID)) kMasterKey true)]
  | .writeCScript ok hash redeemScript =>
    [(ok, .write (recordKey "cscript" hash) (writeString redeemScript) false)]
  | .writeWatchOnly ok₁ ok₂ dest keyMeta =>
    [(ok₁, .write (recordKey "watchmeta" (writeString dest)) keyMeta true),
      (ok₂, .write (recordKey "watchs" (writeString dest)) [49] true)]
  | .eraseWatchOnly ok₁ ok₂ dest =>
    [(ok₁, .erase (recordKey "watchmeta" (writeString dest))),
      (ok₂, .erase (recordKey "watchs" (writeString dest)))]
  | .writeBestBlock ok₁ ok₂ locator =>
    [(ok₁, .write (typeKey "bestblock") emptyLocator true),
      (ok₂, .write (typeKey "bestblock_nomerkle") locator true)]
  | .writeOrderPosNext ok nOrderPosNext =>
    [(ok, .write (typeKey "orderposnext") (writeBits nOrderPosNext) true)]
  | .writePool ok nPool keypool =>
    [(ok, .write (recordKey "pool" (writeBits nPool)) (keypool.serialize nVersion) true)]
  | .erasePool ok nPool => [(ok, .erase (recordKey "pool" (writeBits nPool)))]
  | .writePoolVector keys index =>
    keys.enum.map fun k =>
      (k.2.1, .write (recordKey "pool" (writeBits (index + BitVec.ofNat 64 (k.1 + 1))))
        (k.2.2.serialize nVersion) true)
  | .writeMinVersion ok v => [(ok, .write (typeKey "minversion") (writeBits v) true)]
  | .writeAccount ok strAccount account =>
    [(ok, .write (recordKey "acc" (writeString strAccount)) (account.serialize nVersion) true)]
  | .writeAccountingEntry ok nAccEntryNum acentry =>
    [(ok, .write (Wallet.writeAccountingEntry nVersion nAccEntryNum acentry).1
      (Wallet.writeAccountingEntry nVersion nAccEntryNum acentry).2 true)]
  | .writeHDPubKey ok₁ ok₂ pubkey hdPubKey keyMeta =>
    [(ok₁, .write (recordKey "keymeta" (writeString pubkey)) keyMeta false),
      (ok₂, .write (recordKey "hdpubkey" (writeString pubkey)) hdPubKey false)]
  | .writeCryptedHDChain ok chain => [(ok, .write (typeKey "chdchain") chain true)]
  | .writeHDPubKeys keys =>
    keys.flatMap fun k =>
      [(k.1, .write (recordKey "keymeta" (writeString k.2.2.1)) (keyMetaOf k.2.2.1) false),
        (k.2.1, .write (recordKey "hdpubkey" (writeString k.2.2.1)) k.2.2.2 false)]

end Run

/-! ## What a writer can change -/

section Preserves

variable {P : WalletFile → Prop}

theorem runUntilFailure_preserves {cs : List (Bool × DBCall)}
    (hc : ∀ c ∈ cs, ∀ db, P db → P (c.2.run c.1 db).2) {db : WalletFile} (h : P db) :
    P (runUntilFailure cs db).2 := by
  induction cs generalizing db with
  | nil => exact h
  | cons c cs ih =>
    have h₁ := hc c (List.mem_cons_self _ _) db h
    simp only [runUntilFailure]
    split
    · exact ih (fun c' hc' => hc c' (List.mem_cons_of_mem _ hc')) h₁
    · exact h₁

theorem runAll_preserves {cs : List (Bool × DBCall)}
    (hc : ∀ c ∈ cs, ∀ db, P db → P (c.2.run c.1 db).2) {db : WalletFile} (h : P db) :
    P (runAll cs db).2 := by
  induction cs generalizing db with
  | nil => exact h
  | cons c cs ih =>
    exact ih (fun c' hc' => hc c' (List.mem_cons_of_mem _ hc'))
      (hc c (List.mem_cons_self _ _) db h)

variable (params : CChainParams) (nVersion : BitVec 32) (emptyLocator : Bytes)
  (keyMetaOf : Bytes → Bytes)

/-- A writer changes the file only through the calls `calls` lists: whatever every one of them
keeps, the writer keeps. -/
theorem WalletDBOp.step_preserves (op : WalletDBOp)
    (hc : ∀ c ∈ op.calls params nVersion emptyLocator keyMetaOf, ∀ db, P db → P (c.2.run c.1 db).2)
    {db : WalletFile} (h : P db) : P (op.step params nVersion emptyLocator keyMetaOf db).2 := by
  have one : ∀ {ok c}, (ok, c) ∈ op.calls params nVersion emptyLocator keyMetaOf →
      P (c.run ok db).2 := fun hm => hc _ hm db h
  cases op with
  | writeBestBlock ok₁ ok₂ locator =>
    exact hc _ (List.mem_cons_of_mem _ (List.mem_singleton_self _)) _
      (hc _ (List.mem_cons_self _ _) db h)
  | writeCryptedKey | writeWatchOnly | eraseWatchOnly | writeHDPubKey =>
    exact runUntilFailure_preserves hc h
  | writePoolVector | writeHDPubKeys => exact runAll_preserves hc h
  | writeName | eraseName | writePurpose | erasePurpose | writeDestData | eraseDestData =>
    simp only [WalletDBOp.step, Wallet.writeName, Wallet.eraseName, Wallet.writePurpose,
      Wallet.erasePurpose, writeAddressRecord, eraseAddressRecord, Wallet.writeDestData,
      Wallet.eraseDestData]
    split
    · exact h
    · exact one (List.mem_singleton_self _)
  | _ => exact one (List.mem_singleton_self _)

/-- A run changes the file only through its writers' calls. -/
theorem runWalletDB_preserves {ops : List WalletDBOp}
    (hc : ∀ op ∈ ops, ∀ c ∈ op.calls params nVersion emptyLocator keyMetaOf, ∀ db, P db →
      P (c.2.run c.1 db).2) {db : WalletFile} (h : P db) :
    P (runWalletDB params nVersion emptyLocator keyMetaOf ops db) := by
  induction ops generalizing db with
  | nil => exact h
  | cons op ops ih =>
    exact ih (fun op' hop => hc op' (List.mem_cons_of_mem _ hop))
      (op.step_preserves params nVersion emptyLocator keyMetaOf
        (hc op (List.mem_cons_self _ _)) h)

end Preserves

/-! ## Records no writer replaces -/

/-- The record types that no writer overwrites and none erases: crypted keys, scripts and HD
public keys. -/
def protectedTypes : List Bytes := [ascii "ckey", ascii "cscript", ascii "hdpubkey"]

/-- A call that writes without overwriting, or whose key is of another type. -/
def DBCall.SparesProtected : DBCall → Prop
  | .write key _ fOverwrite => fOverwrite = false ∨ ∀ t ∈ protectedTypes, recordType key ≠ some t
  | .erase key => ∀ t ∈ protectedTypes, recordType key ≠ some t

theorem DBCall.run_keeps {c : DBCall} (hc : c.SparesProtected) {k : Bytes}
    (hk : ∃ t ∈ protectedTypes, recordType k = some t) (ok : Bool) {db : WalletFile} {v : Bytes}
    (h : db.find? k = some v) : (c.run ok db).2.find? k = some v := by
  obtain ⟨t, ht, hkt⟩ := hk
  have hne : ∀ key, (∀ t ∈ protectedTypes, recordType key ≠ some t) → k ≠ key :=
    fun key hkey hk => hkey t ht (hk ▸ hkt)
  cases c with
  | write key value fOverwrite =>
    simp only [DBCall.run]
    split_ifs with hw
    · rw [OrdMap.find?_insert, if_neg]
      · exact h
      rintro rfl
      rcases hc with rfl | hc
      · simp [h] at hw
      · exact hne k hc rfl
    · exact h
  | erase key =>
    simp only [DBCall.run]
    split_ifs
    · rw [OrdMap.find?_erase, if_neg (hne key hc), h]
    · exact h

theorem acentryKey_eq (strAccount : Bytes) (nAccEntryNum : BitVec 64) :
    acentryKey strAccount nAccEntryNum =
      recordKey "acentry" (writeString strAccount ++ writeBits nAccEntryNum) := by
  simp [acentryKey, recordKey, typeKey]

/-- A record type differs from every protected type exactly when it is not one of them. -/
theorem forall_protectedTypes_ne (s : Bytes) :
    (∀ t ∈ protectedTypes, some s ≠ some t) ↔ s ∉ protectedTypes := by
  simp only [ne_eq, Option.some.injEq]
  exact ⟨fun h hs => h s hs rfl, fun h t ht hst => h (hst ▸ ht)⟩

theorem WalletDBOp.calls_spareProtected (params : CChainParams) (nVersion : BitVec 32)
    (emptyLocator : Bytes) (keyMetaOf : Bytes → Bytes) (op : WalletDBOp) :
    ∀ c ∈ op.calls params nVersion emptyLocator keyMetaOf, c.2.SparesProtected := by
  cases op with
  | writePoolVector keys index =>
    simp only [WalletDBOp.calls, List.mem_map]
    rintro _ ⟨_, _, rfl⟩
    refine .inr ?_
    simp (disch := decide) only [recordType_recordKey, forall_protectedTypes_ne]
    decide
  | writeHDPubKeys keys =>
    simp only [WalletDBOp.calls, List.mem_flatMap, List.mem_cons, List.mem_singleton,
      List.not_mem_nil, or_false]
    rintro _ ⟨_, _, rfl | rfl⟩ <;> exact .inl rfl
  | _ =>
    simp (disch := decide) only [WalletDBOp.calls, Wallet.writeAccountingEntry, acentryKey_eq,
      addressKey, List.mem_cons, List.mem_singleton, List.not_mem_nil, or_false,
      forall_eq_or_imp, forall_eq, DBCall.SparesProtected, recordType_recordKey,
      recordType_typeKey, forall_protectedTypes_ne]
    decide

/-- No run of writers replaces or erases a crypted key, a script or an HD public key: each is
written without `fOverwrite`, and no writer erases a record of these types. -/
theorem run_keeps_protected (params : CChainParams) (nVersion : BitVec 32) (emptyLocator : Bytes)
    (keyMetaOf : Bytes → Bytes) (ops : List WalletDBOp) {db : WalletFile} {k v : Bytes}
    (hk : ∃ t ∈ protectedTypes, recordType k = some t) (h : db.find? k = some v) :
    (runWalletDB params nVersion emptyLocator keyMetaOf ops db).find? k = some v :=
  runWalletDB_preserves (P := fun db => db.find? k = some v) params nVersion emptyLocator keyMetaOf
    (fun op _ c hc _ h' => DBCall.run_keeps (op.calls_spareProtected params nVersion emptyLocator
      keyMetaOf c hc) hk c.1 h') h

/-- A crypted key stays as it was through a second `WriteCryptedKey` and a `WriteHDPubKeys` on the
same public key. -/
theorem run_keeps_protected_rewrite :
    (∃ t ∈ protectedTypes, recordType (recordKey "ckey" (writeString [2])) = some t) ∧
      (⟨[(recordKey "ckey" (writeString [2]), [7])], List.pairwise_singleton _ _⟩ :
        WalletFile).find? (recordKey "ckey" (writeString [2])) = some [7] ∧
      (runWalletDB ⟨"devault"⟩ 0 [] (fun _ => [])
        [.writeCryptedKey true true [2] [9] [], .writeHDPubKeys [(true, true, [2], [])]]
        ⟨[(recordKey "ckey" (writeString [2]), [7])], List.pairwise_singleton _ _⟩).find?
          (recordKey "ckey" (writeString [2])) = some [7] :=
  ⟨by decide, by decide, run_keeps_protected _ _ _ _ _ (by decide) (by decide)⟩

end DeVault.Wallet
