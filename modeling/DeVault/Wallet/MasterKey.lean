import DeVault.Wallet.Encryption

/-!
# The master key along runs

`Unlock` keeps a master key only after something has decrypted under it, a crypted key or the
seed of the HD chain, and `DecryptSecret` refuses a key of the wrong size; every other operation
keeps the master key or clears it. So along every run the master key is empty or of the size
`WALLET_CRYPTO_KEY_SIZE`, and, with a cipher that decrypts what it encrypts, a key added to an
unlocked store is read back. A locked store stays locked until an `Unlock`: it gives out no key
and takes none.

## Main results

* `run_masterKeySized` — the size of the master key, along every run from the empty store.
* `addKeyPubKey_getKey` — on every reachable store that is not locked, `GetKey` returns the key
  `AddKeyPubKey` has just added, and every other key as before.
* `run_locked` — from a locked store, along every run without `Unlock`.
-/

namespace DeVault.Wallet

variable {Id PubKey Key H Chain : Type} [LinearOrder Id]
variable (P : Primitives Id PubKey Key H Chain)

/-! ## Operations that leave the master key -/

@[simp] theorem setCrypted_vMasterKey (s : KeyStore Id PubKey Key Chain) :
    (setCrypted s).2.vMasterKey = s.vMasterKey := by
  unfold setCrypted; split_ifs <;> rfl

@[simp] theorem setCrypted_mapCryptedKeys (s : KeyStore Id PubKey Key Chain) :
    (setCrypted s).2.mapCryptedKeys = s.mapCryptedKeys := by
  unfold setCrypted; split_ifs <;> rfl

theorem addCryptedKey_vMasterKey (s : KeyStore Id PubKey Key Chain) (pubKey : PubKey)
    (c : List UInt8) : (addCryptedKey P s pubKey c).2.vMasterKey = s.vMasterKey := by
  rcases hs : setCrypted s with ⟨_ | _, s₁⟩ <;> simp only [addCryptedKey, hs] <;>
    rw [← setCrypted_vMasterKey s, hs]

/-- `Unlock` and `Lock` are the operations that set or clear the master key. -/
def KeyStoreOp.keepsMasterKey : KeyStoreOp PubKey Key Chain → Bool
  | .unlock _ => false
  | .lock => false
  | _ => true

variable [DecidableEq H]

/-- Every operation but `Unlock` and `Lock` leaves the master key. -/
theorem step_vMasterKey {s s' : KeyStore Id PubKey Key Chain}
    {op : KeyStoreOp PubKey Key Chain} {r : Bool} (h : step P s op = some (r, s'))
    (hop : op.keepsMasterKey = true) : s'.vMasterKey = s.vMasterKey := by
  have hs : ∀ {x : Bool × KeyStore Id PubKey Key Chain}, some x = some (r, s') → s' = x.2 :=
    fun h => (congrArg Prod.snd (Option.some.inj h)).symm
  cases op with
  | unlock k => cases hop
  | lock => cases hop
  | addKeyPubKey key pubKey =>
    rw [hs h]; simp only [addKeyPubKey]
    split_ifs
    · rfl
    · rfl
    · split
      exacts [rfl, addCryptedKey_vMasterKey P s _ _]
  | addCryptedKey pubKey c => rw [hs h]; exact addCryptedKey_vMasterKey P s _ _
  | setCrypted => rw [hs h]; exact setCrypted_vMasterKey s
  | encryptHDChain k chain =>
    rw [hs h]; simp only [encryptHDChain]
    split
    · exact setCrypted_vMasterKey s
    · split_ifs
      · exact setCrypted_vMasterKey s
      · split <;> exact setCrypted_vMasterKey s
  | setCryptedHDChain chain =>
    rw [hs h]
    rcases hc : setCrypted s with ⟨_ | _, s₁⟩ <;> simp only [setCryptedHDChain, hc]
    · rw [← setCrypted_vMasterKey s, hc]
    · split_ifs <;> rw [← setCrypted_vMasterKey s, hc]
  | addCScript script => rw [hs h]; simp only [addCScript]; split_ifs <;> rfl
  | addWatchOnly dest => rw [hs h]; simp only [addWatchOnly]; split <;> rfl
  | removeWatchOnly dest => rw [hs h]; simp only [removeWatchOnly]; split <;> rfl

/-! ## The size of the master key -/

/-- The master key is empty or of the size `CCrypter::SetKey` accepts. -/
def MasterKeySized (s : KeyStore Id PubKey Key Chain) : Prop :=
  s.vMasterKey = [] ∨ s.vMasterKey.length = P.cryptoKeySize

omit [LinearOrder Id] [DecidableEq H] in
theorem length_of_decryptSecret {k c : List UInt8} {iv : H} {x : List UInt8}
    (h : decryptSecret P k c iv = some x) : k.length = P.cryptoKeySize := by
  unfold decryptSecret at h
  split_ifs at h with hk
  exact not_not.1 hk

omit [LinearOrder Id] [DecidableEq H] in
theorem length_of_decryptKey {k c : List UInt8} {pubKey : PubKey} {key : Key}
    (h : decryptKey P k c pubKey = some key) : k.length = P.cryptoKeySize := by
  unfold decryptKey at h
  split at h
  · cases h
  · exact length_of_decryptSecret P ‹_›

omit [LinearOrder Id] [DecidableEq H] in
/-- The key loop of `Unlock` passes a key only after one has decrypted under the master key. -/
theorem length_of_unlockLoop {k : List UInt8} {t kp : Bool} :
    ∀ {es : List (Id × (PubKey × List UInt8))},
      (unlockLoop P k t kp es).1 = true → kp = true ∨ k.length = P.cryptoKeySize
  | [], h => .inl h
  | (_, (pubKey, c)) :: rest, h => by
    simp only [unlockLoop] at h
    cases hd : decryptKey P k c pubKey with
    | none => exact .inl (by simpa [hd] using h)
    | some key => exact .inr (length_of_decryptKey P hd)

/-- On a crypted store, `DecryptHDChain` returns true only after the seed has decrypted under the
master key. -/
theorem length_of_decryptHDChain {s : KeyStore Id PubKey Key Chain} {ret : Chain}
    (hc : s.fUseCrypto = true) (h : (decryptHDChain P s ret).1 = true) :
    s.vMasterKey.length = P.cryptoKeySize := by
  simp only [decryptHDChain, hc, Bool.not_true, Bool.false_eq_true, if_false] at h
  split_ifs at h
  split at h
  · cases h
  · exact length_of_decryptSecret P ‹_›

theorem length_of_chainPass {s : KeyStore Id PubKey Key Chain}
    (hc : s.fUseCrypto = true) (h : chainPass P s = true) :
    s.vMasterKey.length = P.cryptoKeySize := by
  unfold chainPass at h
  split at h
  · next chain hd => exact length_of_decryptHDChain P hc (by rw [hd])
  · cases h

/-- `Unlock` keeps the master key's size. -/
theorem unlock_masterKeySized {s s' : KeyStore Id PubKey Key Chain}
    {k : List UInt8} {r : Bool} (h : unlock P s k = some (r, s')) (hs : MasterKeySized P s) :
    MasterKeySized P s' := by
  rcases unlock_cases P h with ⟨-, -, rfl⟩ | ⟨-, ⟨-, -, rfl⟩ | ⟨-, -, -, -, -, rfl⟩ |
    ⟨-, hkp, hchain, -, rfl⟩⟩
  · exact hs
  · exact hs
  · exact .inl rfl
  · refine .inr ?_
    rcases hkp with hkp | hn
    · exact (length_of_unlockLoop P hkp).resolve_left Bool.false_ne_true
    · exact length_of_chainPass P rfl (hchain hn)

theorem step_masterKeySized {s s' : KeyStore Id PubKey Key Chain}
    {op : KeyStoreOp PubKey Key Chain} {r : Bool} (h : step P s op = some (r, s'))
    (hs : MasterKeySized P s) : MasterKeySized P s' := by
  cases op with
  | unlock k => exact unlock_masterKeySized P h hs
  | lock =>
    have : s' = (lock s).2 := (congrArg Prod.snd (Option.some.inj h)).symm
    subst this
    rcases hl : setCrypted s with ⟨_ | _, s₁⟩ <;> simp only [lock, hl]
    · rw [setCrypted_eq_false hl]; exact hs
    · exact .inl rfl
  | _ => unfold MasterKeySized; rw [step_vMasterKey P h rfl]; exact hs

/-- Along every run from the empty store, the master key is empty or of the size `SetKey`
accepts. -/
theorem run_masterKeySized {ops : List (KeyStoreOp PubKey Key Chain)}
    {s : KeyStore Id PubKey Key Chain} (h : run P (KeyStore.empty P) ops = some s) :
    MasterKeySized P s :=
  run_invariant P (fun _ _ _ _ hi hs => step_masterKeySized P hs hi) (.inl rfl) h

/-! ## Adding a key and reading it back -/

omit [DecidableEq H] in
theorem setCrypted_of_crypted {s : KeyStore Id PubKey Key Chain} (hc : s.fUseCrypto = true) :
    setCrypted s = (true, s) := by
  simp [setCrypted, hc]

/-- A cipher that gives back a 32-byte secret it has encrypted under a key of the right size. -/
def SecretRoundTrips : Prop :=
  ∀ (k : List UInt8) (iv : H) (pt : List UInt8), k.length = P.cryptoKeySize → pt.length = 32 →
    ∃ ct, P.aesEncrypt k iv pt = some ct ∧ P.aesDecrypt k iv ct = some pt

omit [DecidableEq H] in
/-- `AddKeyPubKey` on a store that is not locked, whose master key has the right size: it
succeeds, and `GetKey` then returns the key under the ID of its public key and every other key as
before. On a crypted store the key comes back through the cipher, so it must be a 32-byte secret
that verifies against the public key; a plaintext store checks nothing. -/
theorem getKey_addKeyPubKey (hcipher : SecretRoundTrips P) {s : KeyStore Id PubKey Key Chain}
    (hl : isLocked s = false) (hsz : MasterKeySized P s) {key : Key} {pubKey : PubKey}
    (hlen : (P.keyData key).length = 32) (hset : P.keySet (P.keyData key) = key)
    (hv : P.verifyPubKey key pubKey = true) :
    (addKeyPubKey P s key pubKey).1 = true ∧ ∀ a,
      getKey P (addKeyPubKey P s key pubKey).2 a =
        if a = P.getID pubKey then some key else getKey P s a := by
  cases hc : s.fUseCrypto
  · simp [addKeyPubKey, getKey, hc]
  · have hk : s.vMasterKey.length = P.cryptoKeySize :=
      hsz.resolve_left fun h => by simp [isLocked, hc, h] at hl
    obtain ⟨ct, he, hd⟩ := hcipher s.vMasterKey (P.getHash pubKey) (P.keyData key) hk hlen
    have hadd : addKeyPubKey P s key pubKey =
        (true, { s with mapCryptedKeys := s.mapCryptedKeys.insert (P.getID pubKey) (pubKey, ct) }) := by
      simp [addKeyPubKey, hc, hl, encryptSecret, hk, he, addCryptedKey, setCrypted_of_crypted hc]
    refine ⟨by rw [hadd], fun a => ?_⟩
    rw [hadd]
    by_cases ha : a = P.getID pubKey
    · simp [getKey, hc, ha, decryptKey, decryptSecret, hk, hd, hlen, hset, hv]
    · simp [getKey, hc, ha]

/-- On every store reachable from the empty one that is not locked, `GetKey` returns the key that
`AddKeyPubKey` has just added, through the cipher on a crypted store, and every other key as
before. -/
theorem addKeyPubKey_getKey (hcipher : SecretRoundTrips P) {ops : List (KeyStoreOp PubKey Key Chain)}
    {s : KeyStore Id PubKey Key Chain} (h : run P (KeyStore.empty P) ops = some s)
    (hl : isLocked s = false) {key : Key} {pubKey : PubKey}
    (hlen : (P.keyData key).length = 32) (hset : P.keySet (P.keyData key) = key)
    (hv : P.verifyPubKey key pubKey = true) :
    (addKeyPubKey P s key pubKey).1 = true ∧ ∀ a,
      getKey P (addKeyPubKey P s key pubKey).2 a =
        if a = P.getID pubKey then some key else getKey P s a :=
  getKey_addKeyPubKey P hcipher hl (run_masterKeySized P h) hlen hset hv

theorem uint8_xor_xor_cancel (x a : UInt8) : x ^^^ a ^^^ a = x := by
  rcases x with ⟨x⟩; rcases a with ⟨a⟩
  exact congrArg UInt8.mk
    (show x ^^^ a ^^^ a = x by rw [BitVec.xor_assoc, BitVec.xor_self, BitVec.xor_zero])

/-- The XOR cipher of `toyPrimitives` gives back what it encrypts, when that is not empty. -/
theorem toyPrimitives_secretRoundTrips : SecretRoundTrips toyPrimitives := by
  intro k _ pt _ hpt
  refine ⟨pt.map (· ^^^ k.headD 0), rfl, ?_⟩
  have hne : pt.map (· ^^^ k.headD 0) ≠ [] := by
    rw [Ne, List.map_eq_nil_iff, ← List.length_eq_zero, hpt]; decide
  simp only [toyPrimitives, hne, if_false, List.map_map, Option.some.injEq]
  exact List.map_id'' (fun x => uint8_xor_xor_cancel x _) pt

/-- The store crypted with the crypted key `5` under the master key `[7]`, then unlocked with
it. -/
def unlockedToyStore : KeyStore Nat Nat Nat Nat :=
  { KeyStore.empty toyPrimitives with
    fUseCrypto := true, vMasterKey := [7], fDecryptionThoroughlyChecked := true,
    mapCryptedKeys := ⟨[(5, (5, List.replicate 32 2))], List.pairwise_singleton _ _⟩ }

theorem addKeyPubKey_getKey_unlocked :
    SecretRoundTrips toyPrimitives ∧
    run toyPrimitives (KeyStore.empty toyPrimitives)
        [.setCrypted, .addCryptedKey 5 (List.replicate 32 2), .unlock [7]] = some unlockedToyStore ∧
    isLocked unlockedToyStore = false ∧
    (toyPrimitives.keyData 9).length = 32 ∧ toyPrimitives.keySet (toyPrimitives.keyData 9) = 9 ∧
    toyPrimitives.verifyPubKey 9 9 = true ∧
    ((addKeyPubKey toyPrimitives unlockedToyStore 9 9).1 = true ∧ ∀ a,
      getKey toyPrimitives (addKeyPubKey toyPrimitives unlockedToyStore 9 9).2 a =
        if a = toyPrimitives.getID 9 then some 9 else getKey toyPrimitives unlockedToyStore a) := by
  have h : run toyPrimitives (KeyStore.empty toyPrimitives)
      [.setCrypted, .addCryptedKey 5 (List.replicate 32 2), .unlock [7]] = some unlockedToyStore :=
    rfl
  exact ⟨toyPrimitives_secretRoundTrips, h, rfl, rfl, rfl, rfl,
    addKeyPubKey_getKey toyPrimitives toyPrimitives_secretRoundTrips h rfl rfl rfl rfl⟩

/-! ## A locked store -/

/-- `Unlock`. -/
def KeyStoreOp.isUnlock : KeyStoreOp PubKey Key Chain → Bool
  | .unlock _ => true
  | _ => false

omit [DecidableEq H] in
/-- A locked store gives out no key, when the key size is not zero. -/
theorem getKey_of_isLocked {s : KeyStore Id PubKey Key Chain} (hsz : P.cryptoKeySize ≠ 0)
    (hl : isLocked s = true) (a : Id) : getKey P s a = none := by
  simp only [isLocked, Bool.and_eq_true, List.isEmpty_iff] at hl
  simp only [getKey, hl.1, Bool.not_true, Bool.false_eq_true, if_false]
  split
  · rfl
  · simp [decryptKey, decryptSecret, hl.2, Ne.symm hsz]

omit [DecidableEq H] in
/-- A locked store takes no key. -/
theorem addKeyPubKey_of_isLocked {s : KeyStore Id PubKey Key Chain} (hl : isLocked s = true)
    (key : Key) (pubKey : PubKey) : addKeyPubKey P s key pubKey = (false, s) := by
  have hc : s.fUseCrypto = true := by simp_all [isLocked]
  simp [addKeyPubKey, hc, hl]

theorem step_isLocked {s s' : KeyStore Id PubKey Key Chain} {op : KeyStoreOp PubKey Key Chain}
    {r : Bool} (h : step P s op = some (r, s')) (hop : op.isUnlock = false)
    (hl : isLocked s = true) : isLocked s' = true := by
  simp only [isLocked, Bool.and_eq_true, List.isEmpty_iff] at hl ⊢
  refine ⟨(step_mono P h).crypted hl.1, ?_⟩
  cases op with
  | unlock k => cases hop
  | lock =>
    have : s' = (lock s).2 := (congrArg Prod.snd (Option.some.inj h)).symm
    subst this
    rcases hs : setCrypted s with ⟨_ | _, s₁⟩ <;> simp only [lock, hs]
    rw [setCrypted_eq_false hs]
    exact hl.2
  | _ => rw [step_vMasterKey P h rfl]; exact hl.2

/-- From a locked store, along every run without `Unlock`, the store stays locked: `GetKey` gives
out no key and `AddKeyPubKey` takes none. -/
theorem run_locked {ops : List (KeyStoreOp PubKey Key Chain)} {s s' : KeyStore Id PubKey Key Chain}
    (h : run P s ops = some s') (hl : isLocked s = true) (hops : ∀ op ∈ ops, op.isUnlock = false) :
    isLocked s' = true ∧ (P.cryptoKeySize ≠ 0 → ∀ a, getKey P s' a = none) ∧
      ∀ key pubKey, addKeyPubKey P s' key pubKey = (false, s') := by
  have hl' : isLocked s' = true := run_invariant_on P (A := fun op => op.isUnlock = false)
    (fun _ _ _ _ hop hi hs => step_isLocked P hs hop hi) hops hl h
  exact ⟨hl', fun hsz => getKey_of_isLocked P hsz hl', addKeyPubKey_of_isLocked P hl'⟩

theorem run_locked_crypted :
    run toyPrimitives { KeyStore.empty toyPrimitives with fUseCrypto := true }
        [.addKeyPubKey 3 3, .lock, .setCrypted] =
      some { KeyStore.empty toyPrimitives with fUseCrypto := true } ∧
    isLocked ({ KeyStore.empty toyPrimitives with fUseCrypto := true } :
      KeyStore Nat Nat Nat Nat) = true ∧
    (∀ op ∈ ([.addKeyPubKey 3 3, .lock, .setCrypted] : List (KeyStoreOp Nat Nat Nat)),
      op.isUnlock = false) ∧
    (isLocked ({ KeyStore.empty toyPrimitives with fUseCrypto := true } :
        KeyStore Nat Nat Nat Nat) = true ∧
      (toyPrimitives.cryptoKeySize ≠ 0 → ∀ a,
        getKey toyPrimitives { KeyStore.empty toyPrimitives with fUseCrypto := true } a = none) ∧
      ∀ key pubKey, addKeyPubKey toyPrimitives { KeyStore.empty toyPrimitives with fUseCrypto := true }
        key pubKey = (false, { KeyStore.empty toyPrimitives with fUseCrypto := true })) :=
  by
    have h : run toyPrimitives { KeyStore.empty toyPrimitives with fUseCrypto := true }
        [.addKeyPubKey 3 3, .lock, .setCrypted] =
        some { KeyStore.empty toyPrimitives with fUseCrypto := true } := rfl
    have hops : ∀ op ∈ ([.addKeyPubKey 3 3, .lock, .setCrypted] : List (KeyStoreOp Nat Nat Nat)),
        op.isUnlock = false := by decide
    exact ⟨h, rfl, hops, run_locked toyPrimitives h rfl hops⟩

end DeVault.Wallet
