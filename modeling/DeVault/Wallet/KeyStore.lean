import DeVault.Wallet.OrdMap
import Mathlib.Data.Finset.Basic

/-!
# The key store

`CBasicKeyStore` (keystore.cpp) and `CCryptoKeyStore` (crypter.cpp) as one state record, with a
function for each operation that returns what the source returns and the store it leaves. What
the source calls but does not define (the public-key and key classes, the script reader, the AES
cipher behind `CCrypter`, the HD chain of hdchain.h) is a field of `Primitives`, so every result
holds whatever those compute.

## Main definitions

* `KeyStore` — the fields of `CCryptoKeyStore`, those of `CBasicKeyStore` included.
* `setCrypted`, `lock`, `unlock`, `addKeyPubKey`, `addCryptedKey`, `encryptHDChain`,
  `setCryptedHDChain`, `addCScript`, `addWatchOnly`, `removeWatchOnly` — the operations.
* `KeyStoreOp`, `step`, `run` — runs of operations; `unlock` alone can abort, on its
  `assert(false)`.
-/

namespace DeVault.Wallet

/-- The primitives the key store calls: `Id` is `uint160` (`CKeyID`, `CScriptID`), `H` is
`uint256`, `Chain` is `CHDChain`. -/
structure Primitives (Id PubKey Key H Chain : Type) where
  /-- `CPubKey::GetID`. -/
  getID : PubKey → Id
  /-- `CPubKey::GetHash`. -/
  getHash : PubKey → H
  /-- `CKey::GetPubKey`. -/
  getPubKey : Key → PubKey
  /-- The secret of a key, `CKeyingMaterial(key.begin(), key.end())`. -/
  keyData : Key → List UInt8
  /-- `CKey::Set`. -/
  keySet : List UInt8 → Key
  /-- `CKey::VerifyPubKey`. -/
  verifyPubKey : Key → PubKey → Bool
  /-- `WALLET_CRYPTO_KEY_SIZE`. -/
  cryptoKeySize : Nat
  /-- `AES256CBCEncrypt` under a key and an IV; `none` when the output is short. -/
  aesEncrypt : List UInt8 → H → List UInt8 → Option (List UInt8)
  /-- `AES256CBCDecrypt`; `none` when nothing comes out. -/
  aesDecrypt : List UInt8 → H → List UInt8 → Option (List UInt8)
  /-- `CScript::GetOp` from a position: the next position, the opcode and the pushed bytes. -/
  getOp : List UInt8 → Nat → Option (Nat × UInt8 × List UInt8)
  /-- `OP_CHECKSIG`. -/
  opChecksig : UInt8
  /-- `CPubKey(vch)`. -/
  pubKeyOf : List UInt8 → PubKey
  /-- `CPubKey::IsFullyValid`. -/
  isFullyValid : PubKey → Bool
  /-- `CScriptID(script)`. -/
  scriptID : List UInt8 → Id
  /-- `MAX_SCRIPT_ELEMENT_SIZE`. -/
  maxScriptElementSize : Nat
  /-- `CHDChain()`. -/
  chainNull : Chain
  chainIsNull : Chain → Bool
  chainIsCrypted : Chain → Bool
  chainSetCrypted : Chain → Bool → Chain
  chainID : Chain → H
  chainSeed : Chain → List UInt8
  /-- `SetSeed(seed, false)`; `none` when it fails. -/
  chainSetSeed : Chain → List UInt8 → Option Chain
  chainSeedHash : Chain → H
  /-- `GetMnemonic`; `none` when it fails. -/
  chainMnemonic : Chain → Option (List UInt8)
  chainSetMnemonic : Chain → List UInt8 → Chain
  chainSetupCrypted : Chain → List UInt8 → List UInt8 → Chain

/-- The fields of `CCryptoKeyStore`, with those of `CBasicKeyStore`. Scripts are their bytes. -/
structure KeyStore (Id PubKey Key Chain : Type) [LinearOrder Id] where
  mapKeys : OrdMap Id Key
  mapWatchKeys : OrdMap Id PubKey
  mapScripts : OrdMap Id (List UInt8)
  setWatchOnly : Finset (List UInt8)
  fUseCrypto : Bool
  fDecryptionThoroughlyChecked : Bool
  vMasterKey : List UInt8
  mapCryptedKeys : OrdMap Id (PubKey × List UInt8)
  cryptedHDChain : Chain

variable {Id PubKey Key H Chain : Type} [LinearOrder Id] [DecidableEq H]
variable (P : Primitives Id PubKey Key H Chain)

/-- A new store: no keys, not crypted, and a null HD chain. -/
def KeyStore.empty : KeyStore Id PubKey Key Chain :=
  ⟨.empty, .empty, .empty, ∅, false, false, [], .empty, P.chainNull⟩

/-! ## Secrets -/

/-- `EncryptSecret`: `CCrypter::SetKey` refuses a master key of the wrong size. -/
def encryptSecret (masterKey plaintext : List UInt8) (iv : H) : Option (List UInt8) :=
  if masterKey.length ≠ P.cryptoKeySize then none else P.aesEncrypt masterKey iv plaintext

/-- `DecryptSecret`. -/
def decryptSecret (masterKey ciphertext : List UInt8) (iv : H) : Option (List UInt8) :=
  if masterKey.length ≠ P.cryptoKeySize then none else P.aesDecrypt masterKey iv ciphertext

/-- `DecryptKey`: the secret must have 32 bytes and give a key of the stored public key. -/
def decryptKey (masterKey cryptedSecret : List UInt8) (pubKey : PubKey) : Option Key :=
  match decryptSecret P masterKey cryptedSecret (P.getHash pubKey) with
  | none => none
  | some secret =>
    if secret.length ≠ 32 then none
    else if P.verifyPubKey (P.keySet secret) pubKey then some (P.keySet secret) else none

/-- `ExtractPubKey`: a push of 33 to 65 bytes holding a valid public key, then `OP_CHECKSIG`,
then nothing. -/
def extractPubKey (dest : List UInt8) : Option PubKey :=
  match P.getOp dest 0 with
  | none => none
  | some (pc, _, vch) =>
    if vch.length < 33 ∨ vch.length > 65 then none
    else if !P.isFullyValid (P.pubKeyOf vch) then none
    else match P.getOp dest pc with
      | none => none
      | some (pc', opcode, _) =>
        if opcode ≠ P.opChecksig then none
        else if (P.getOp dest pc').isSome then none else some (P.pubKeyOf vch)

/-! ## Operations -/

variable (s : KeyStore Id PubKey Key Chain)

/-- `CCryptoKeyStore::SetCrypted`: a store with plaintext keys cannot become crypted. -/
def setCrypted : Bool × KeyStore Id PubKey Key Chain :=
  if s.fUseCrypto then (true, s)
  else if !s.mapKeys.isEmpty then (false, s)
  else (true, { s with fUseCrypto := true })

/-- `CCryptoKeyStore::IsLocked`. -/
def isLocked : Bool := s.fUseCrypto && s.vMasterKey.isEmpty

/-- `CCryptoKeyStore::Lock`. -/
def lock : Bool × KeyStore Id PubKey Key Chain :=
  match setCrypted s with
  | (false, s₁) => (false, s₁)
  | (true, s₁) => (true, { s₁ with vMasterKey := [] })

/-- The key loop of `Unlock` over the crypted keys in map order, from its accumulated `keyPass`:
it stops at the first key that fails to decrypt, and after the first key that decrypts once
decryption has been thoroughly checked. Returns `(keyPass, keyFail)`. -/
def unlockLoop (masterKey : List UInt8) (thorough keyPass : Bool) :
    List (Id × (PubKey × List UInt8)) → Bool × Bool
  | [] => (keyPass, false)
  | (_, (pubKey, cryptedSecret)) :: rest =>
    if (decryptKey P masterKey cryptedSecret pubKey).isNone then (keyPass, true)
    else if thorough then (true, false)
    else unlockLoop masterKey thorough true rest

/-- `CCryptoKeyStore::DecryptHDChain` into `ret`: the chain must be crypted, its seed must decrypt
under the master key to a seed whose hash is the chain's ID, and a crypted mnemonic must decrypt
too. Returns what the source returns and `hdChainRet`. -/
def decryptHDChain (ret : Chain) : Bool × Chain :=
  if !s.fUseCrypto then (true, ret)
  else if P.chainIsNull s.cryptedHDChain then (false, ret)
  else if !P.chainIsCrypted s.cryptedHDChain then (false, ret)
  else match decryptSecret P s.vMasterKey (P.chainSeed s.cryptedHDChain)
      (P.chainID s.cryptedHDChain) with
    | none => (false, ret)
    | some seed =>
      match P.chainSetSeed s.cryptedHDChain seed with
      | none => (false, s.cryptedHDChain)
      | some chain =>
        if P.chainSeedHash chain ≠ P.chainID s.cryptedHDChain then (false, chain)
        else match P.chainMnemonic s.cryptedHDChain with
          | none => (true, P.chainSetCrypted chain false)
          | some cryptedMnemonic =>
            if cryptedMnemonic = [] then
              (true, P.chainSetCrypted (P.chainSetMnemonic chain []) false)
            else match decryptSecret P s.vMasterKey cryptedMnemonic (P.chainID s.cryptedHDChain) with
              | none => (false, chain)
              | some mnemonic => (true, P.chainSetCrypted (P.chainSetMnemonic chain mnemonic) false)

/-- The HD chain check of `Unlock`, run once the master key is in place. -/
def chainPass : Bool :=
  match decryptHDChain P s P.chainNull with
  | (true, chain) => P.chainID s.cryptedHDChain = P.chainSeedHash chain
  | (false, _) => false

/-- `CCryptoKeyStore::Unlock`; `none` where the source reaches `assert(false)`, some keys
decrypting and a later one not. -/
def unlock (masterKey : List UInt8) : Option (Bool × KeyStore Id PubKey Key Chain) :=
  match setCrypted s with
  | (false, s₁) => some (false, s₁)
  | (true, s₁) =>
    let r := unlockLoop P masterKey s₁.fDecryptionThoroughlyChecked false s₁.mapCryptedKeys.entries
    if r.1 && r.2 then none
    else if r.2 || (!r.1 && P.chainIsNull s₁.cryptedHDChain) then some (false, s₁)
    else
      let s₂ := { s₁ with vMasterKey := masterKey }
      if !P.chainIsNull s₂.cryptedHDChain && !chainPass P s₂ then
        some (false, { s₂ with vMasterKey := [] })
      else some (true, { s₂ with fDecryptionThoroughlyChecked := true })

/-- `CCryptoKeyStore::AddCryptedKey`. -/
def addCryptedKey (pubKey : PubKey) (cryptedSecret : List UInt8) :
    Bool × KeyStore Id PubKey Key Chain :=
  match setCrypted s with
  | (false, s₁) => (false, s₁)
  | (true, s₁) =>
    (true, { s₁ with
      mapCryptedKeys := s₁.mapCryptedKeys.insert (P.getID pubKey) (pubKey, cryptedSecret) })

/-- `CCryptoKeyStore::AddKeyPubKey`: a plaintext key while the store is not crypted
(`CBasicKeyStore::AddKeyPubKey`), otherwise the key encrypted under the master key. -/
def addKeyPubKey (key : Key) (pubKey : PubKey) : Bool × KeyStore Id PubKey Key Chain :=
  if !s.fUseCrypto then (true, { s with mapKeys := s.mapKeys.insert (P.getID pubKey) key })
  else if isLocked s then (false, s)
  else match encryptSecret P s.vMasterKey (P.keyData key) (P.getHash pubKey) with
    | none => (false, s)
    | some cryptedSecret => addCryptedKey P s pubKey cryptedSecret

/-- `CCryptoKeyStore::EncryptHDChain`; the result of its `SetCrypted` is ignored. -/
def encryptHDChain (masterKey : List UInt8) (hdc : Chain) : Bool × KeyStore Id PubKey Key Chain :=
  let s₁ := (setCrypted s).2
  match encryptSecret P masterKey (P.chainSeed hdc) (P.chainID hdc) with
  | none => (false, s₁)
  | some cryptedSeed =>
    let chain := P.chainSetCrypted hdc true
    let mnemonic := (P.chainMnemonic hdc).getD []
    if mnemonic = [] then
      (true, { s₁ with cryptedHDChain := P.chainSetupCrypted chain [] cryptedSeed })
    else match encryptSecret P masterKey mnemonic (P.chainID hdc) with
      | none => (false, { s₁ with cryptedHDChain := chain })
      | some cryptedMnemonic =>
        (true, { s₁ with cryptedHDChain := P.chainSetupCrypted chain cryptedMnemonic cryptedSeed })

/-- `CCryptoKeyStore::SetCryptedHDChain`. -/
def setCryptedHDChain (chain : Chain) : Bool × KeyStore Id PubKey Key Chain :=
  match setCrypted s with
  | (false, s₁) => (false, s₁)
  | (true, s₁) =>
    if !P.chainIsCrypted chain then (false, s₁) else (true, { s₁ with cryptedHDChain := chain })

/-- `CBasicKeyStore::AddCScript`. -/
def addCScript (redeemScript : List UInt8) : Bool × KeyStore Id PubKey Key Chain :=
  if redeemScript.length > P.maxScriptElementSize then (false, s)
  else (true, { s with mapScripts := s.mapScripts.insert (P.scriptID redeemScript) redeemScript })

/-- `CBasicKeyStore::AddWatchOnly`. -/
def addWatchOnly (dest : List UInt8) : Bool × KeyStore Id PubKey Key Chain :=
  let s₁ := { s with setWatchOnly := insert dest s.setWatchOnly }
  match extractPubKey P dest with
  | none => (true, s₁)
  | some pubKey => (true, { s₁ with mapWatchKeys := s₁.mapWatchKeys.insert (P.getID pubKey) pubKey })

/-- `CBasicKeyStore::RemoveWatchOnly`. -/
def removeWatchOnly (dest : List UInt8) : Bool × KeyStore Id PubKey Key Chain :=
  let s₁ := { s with setWatchOnly := s.setWatchOnly.erase dest }
  match extractPubKey P dest with
  | none => (true, s₁)
  | some pubKey => (true, { s₁ with mapWatchKeys := s₁.mapWatchKeys.erase (P.getID pubKey) })

/-! ## Queries -/

/-- `CCryptoKeyStore::HaveKey`. -/
def haveKey (address : Id) : Bool :=
  if !s.fUseCrypto then (s.mapKeys.find? address).isSome
  else (s.mapCryptedKeys.find? address).isSome

/-- `CCryptoKeyStore::GetKey`. -/
def getKey (address : Id) : Option Key :=
  if !s.fUseCrypto then s.mapKeys.find? address
  else match s.mapCryptedKeys.find? address with
    | none => none
    | some (pubKey, cryptedSecret) => decryptKey P s.vMasterKey cryptedSecret pubKey

/-- `CCryptoKeyStore::GetPubKey`: the key's own public key, or a watched one. -/
def getPubKey (address : Id) : Option PubKey :=
  if !s.fUseCrypto then
    match s.mapKeys.find? address with
    | some key => some (P.getPubKey key)
    | none => s.mapWatchKeys.find? address
  else match s.mapCryptedKeys.find? address with
    | some (pubKey, _) => some pubKey
    | none => s.mapWatchKeys.find? address

/-! ## Runs -/

/-- The operations of the key store, with their arguments. -/
inductive KeyStoreOp (PubKey Key Chain : Type)
  | addKeyPubKey (key : Key) (pubKey : PubKey)
  | addCryptedKey (pubKey : PubKey) (cryptedSecret : List UInt8)
  | setCrypted
  | lock
  | unlock (masterKey : List UInt8)
  | encryptHDChain (masterKey : List UInt8) (chain : Chain)
  | setCryptedHDChain (chain : Chain)
  | addCScript (redeemScript : List UInt8)
  | addWatchOnly (dest : List UInt8)
  | removeWatchOnly (dest : List UInt8)

/-- One operation: what it returns and the store it leaves, or `none` if it aborts. -/
def step : KeyStoreOp PubKey Key Chain → Option (Bool × KeyStore Id PubKey Key Chain)
  | .addKeyPubKey key pubKey => some (addKeyPubKey P s key pubKey)
  | .addCryptedKey pubKey cryptedSecret => some (addCryptedKey P s pubKey cryptedSecret)
  | .setCrypted => some (setCrypted s)
  | .lock => some (lock s)
  | .unlock masterKey => unlock P s masterKey
  | .encryptHDChain masterKey chain => some (encryptHDChain P s masterKey chain)
  | .setCryptedHDChain chain => some (setCryptedHDChain P s chain)
  | .addCScript redeemScript => some (addCScript P s redeemScript)
  | .addWatchOnly dest => some (addWatchOnly P s dest)
  | .removeWatchOnly dest => some (removeWatchOnly P s dest)

/-- A sequence of operations, whatever each returns; `none` if one aborts. -/
def run : KeyStore Id PubKey Key Chain → List (KeyStoreOp PubKey Key Chain) →
    Option (KeyStore Id PubKey Key Chain)
  | s, [] => some s
  | s, op :: ops =>
    match step P s op with
    | none => none
    | some (_, s') => run s' ops

/-- A property every step of an allowed operation preserves holds after every run of allowed
operations. -/
theorem run_invariant_on {I : KeyStore Id PubKey Key Chain → Prop}
    {A : KeyStoreOp PubKey Key Chain → Prop}
    (hstep : ∀ s op r s', A op → I s → step P s op = some (r, s') → I s') :
    ∀ {s s' : KeyStore Id PubKey Key Chain} {ops : List (KeyStoreOp PubKey Key Chain)},
      (∀ op ∈ ops, A op) → I s → run P s ops = some s' → I s'
  | s, s', [], _, hs, h => by cases h; exact hs
  | s, s', op :: ops, hA, hs, h => by
    simp only [run] at h
    split at h
    · cases h
    · exact run_invariant_on hstep (fun o ho => hA o (List.mem_cons_of_mem op ho))
        (hstep _ _ _ _ (hA op (List.mem_cons_self op ops)) hs ‹_›) h

/-- A property every step preserves holds after every run. -/
theorem run_invariant {I : KeyStore Id PubKey Key Chain → Prop}
    (hstep : ∀ s op r s', I s → step P s op = some (r, s') → I s') :
    ∀ {s s' : KeyStore Id PubKey Key Chain} {ops : List (KeyStoreOp PubKey Key Chain)},
      I s → run P s ops = some s' → I s' :=
  run_invariant_on P (A := fun _ => True) (fun s op r s' _ => hstep s op r s') fun _ _ => trivial

/-! ## A small instance -/

/-- Byte-sized primitives for evaluating the operations on concrete stores: keys are their own
public keys and IDs, the cipher XORs with the first byte of a one-byte master key, scripts are
read as pushes, `OP_PUSHDATA1` pushes and plain opcodes, and an HD chain is a number whose seed
is stored XORed with 1. -/
def toyPrimitives : Primitives Nat Nat Nat Nat Nat where
  getID p := p
  getHash p := p
  getPubKey k := k
  keyData k := List.replicate 32 k.toUInt8
  keySet bs := (bs.headD 0).toNat
  verifyPubKey k p := k == p
  cryptoKeySize := 1
  aesEncrypt key _ pt := some (pt.map (· ^^^ key.headD 0))
  aesDecrypt key _ ct := if ct = [] then none else some (ct.map (· ^^^ key.headD 0))
  getOp script pc :=
    match script.drop pc with
    | [] => none
    | b :: rest =>
      if b = 0x4c then
        match rest with
        | [] => none
        | n :: data =>
          if data.length < n.toNat then none else some (pc + 2 + n.toNat, b, data.take n.toNat)
      else if b.toNat ≤ 75 then
        if rest.length < b.toNat then none else some (pc + 1 + b.toNat, b, rest.take b.toNat)
      else some (pc + 1, b, [])
  opChecksig := 0xac
  pubKeyOf bs := bs.foldl (fun a b => a * 256 + b.toNat) 0
  isFullyValid _ := true
  scriptID bs := bs.length
  maxScriptElementSize := 520
  chainNull := 0
  chainIsNull c := c == 0
  chainIsCrypted _ := true
  chainSetCrypted c _ := c
  chainID c := c
  chainSeed c := [(c ^^^ 1).toUInt8]
  chainSetSeed _ seed := some (seed.headD 0).toNat
  chainSeedHash c := c
  chainMnemonic _ := none
  chainSetMnemonic c _ := c
  chainSetupCrypted c _ _ := c

/-- The small instance with crypter.h's master key size, `WALLET_CRYPTO_KEY_SIZE = 32`. -/
def toyPrimitives32 : Primitives Nat Nat Nat Nat Nat := { toyPrimitives with cryptoKeySize := 32 }

end DeVault.Wallet
