import DeVault.Wallet.KeyStore

/-!
# Encryption of the key store

Once a store is crypted it stays crypted, and a crypted store holds no plaintext key:
`SetCrypted` refuses a store with plaintext keys, and `AddKeyPubKey` stores a plaintext key only
while the store is not crypted. `Unlock` keeps a master key only after checking it against the
first crypted key or, without crypted keys, against the HD chain. A failed `Unlock` changes no
field but the two it may change by design: `SetCrypted` may set the crypto flag, and a failed HD
chain check clears the master key, whatever it was before.

## Main results

* `crypted_store_holds_no_plaintext_key` — along every run from the empty store.
* `unlock_spec` — what `Unlock` has checked when it succeeds, and what it leaves when it fails.
* `encryptHDChain_fUseCrypto` — `EncryptHDChain` leaves the crypto flag as its ignored
  `SetCrypted` does, so on a store holding plaintext keys it can succeed without crypting it.
-/

namespace DeVault.Wallet

variable {Id PubKey Key H Chain : Type} [LinearOrder Id]
variable (P : Primitives Id PubKey Key H Chain)

/-! ## The crypto flag and the plaintext keys -/

/-- How one operation may move the crypto flag and the plaintext keys: the flag is set only on a
store without plaintext keys, and the plaintext keys change only while the flag stays clear. -/
def CryptoMono (s s' : KeyStore Id PubKey Key Chain) : Prop :=
  (s'.fUseCrypto = s.fUseCrypto ∨ s.mapKeys.isEmpty = true ∧ s'.fUseCrypto = true) ∧
    (s'.mapKeys = s.mapKeys ∨ s'.fUseCrypto = false)

theorem CryptoMono.refl (s : KeyStore Id PubKey Key Chain) : CryptoMono s s :=
  ⟨.inl rfl, .inl rfl⟩

theorem CryptoMono.of_same {s s₁ s₂ : KeyStore Id PubKey Key Chain} (h : CryptoMono s s₁)
    (hc : s₂.fUseCrypto = s₁.fUseCrypto) (hk : s₂.mapKeys = s₁.mapKeys) : CryptoMono s s₂ := by
  unfold CryptoMono at *; rw [hc, hk]; exact h

theorem setCrypted_mono (s : KeyStore Id PubKey Key Chain) : CryptoMono s (setCrypted s).2 := by
  unfold setCrypted
  split_ifs with h₁ h₂
  · exact .refl s
  · exact .refl s
  · exact ⟨.inr ⟨by simpa using h₂, rfl⟩, .inl rfl⟩

/-- An operation that runs `SetCrypted` and then touches neither field. -/
theorem setCrypted_then {s s₁ s₂ : KeyStore Id PubKey Key Chain} {b : Bool}
    (hs : setCrypted s = (b, s₁)) (hc : s₂.fUseCrypto = s₁.fUseCrypto)
    (hk : s₂.mapKeys = s₁.mapKeys) : CryptoMono s s₂ :=
  (hs ▸ setCrypted_mono s).of_same hc hk

theorem lock_mono (s : KeyStore Id PubKey Key Chain) : CryptoMono s (lock s).2 := by
  rcases hs : setCrypted s with ⟨_ | _, s₁⟩ <;> simp only [lock, hs]
  exacts [setCrypted_then hs rfl rfl, setCrypted_then hs rfl rfl]

theorem addCryptedKey_mono (s : KeyStore Id PubKey Key Chain) (pubKey : PubKey)
    (c : List UInt8) : CryptoMono s (addCryptedKey P s pubKey c).2 := by
  rcases hs : setCrypted s with ⟨_ | _, s₁⟩ <;> simp only [addCryptedKey, hs]
  exacts [setCrypted_then hs rfl rfl, setCrypted_then hs rfl rfl]

theorem setCryptedHDChain_mono (s : KeyStore Id PubKey Key Chain) (chain : Chain) :
    CryptoMono s (setCryptedHDChain P s chain).2 := by
  rcases hs : setCrypted s with ⟨_ | _, s₁⟩ <;> simp only [setCryptedHDChain, hs]
  · exact setCrypted_then hs rfl rfl
  · split_ifs
    exacts [setCrypted_then hs rfl rfl, setCrypted_then hs rfl rfl]

theorem encryptHDChain_mono (s : KeyStore Id PubKey Key Chain) (k : List UInt8) (chain : Chain) :
    CryptoMono s (encryptHDChain P s k chain).2 := by
  have hs : setCrypted s = ((setCrypted s).1, (setCrypted s).2) := rfl
  simp only [encryptHDChain]
  split
  · exact setCrypted_then hs rfl rfl
  · split_ifs
    · exact setCrypted_then hs rfl rfl
    · split
      exacts [setCrypted_then hs rfl rfl, setCrypted_then hs rfl rfl]

/-- `EncryptHDChain` ignores what its `SetCrypted` returns: the crypto flag ends as `SetCrypted`
leaves it, so a store holding plaintext keys stays uncrypted whatever `EncryptHDChain` returns. -/
theorem encryptHDChain_fUseCrypto (s : KeyStore Id PubKey Key Chain) (k : List UInt8)
    (hdc : Chain) : (encryptHDChain P s k hdc).2.fUseCrypto = (setCrypted s).2.fUseCrypto := by
  simp only [encryptHDChain]
  split
  · rfl
  · split_ifs
    · rfl
    · split <;> rfl

theorem addKeyPubKey_mono (s : KeyStore Id PubKey Key Chain) (key : Key) (pubKey : PubKey) :
    CryptoMono s (addKeyPubKey P s key pubKey).2 := by
  simp only [addKeyPubKey]
  split_ifs with hc hl
  · exact ⟨.inl rfl, .inr (by simpa using hc)⟩
  · exact .refl s
  · split
    exacts [.refl s, addCryptedKey_mono P s _ _]

theorem addCScript_mono (s : KeyStore Id PubKey Key Chain) (script : List UInt8) :
    CryptoMono s (addCScript P s script).2 := by
  simp only [addCScript]
  split_ifs
  exacts [.refl s, .refl s]

theorem addWatchOnly_mono (s : KeyStore Id PubKey Key Chain) (dest : List UInt8) :
    CryptoMono s (addWatchOnly P s dest).2 := by
  simp only [addWatchOnly]
  split
  exacts [.refl s, .refl s]

theorem removeWatchOnly_mono (s : KeyStore Id PubKey Key Chain) (dest : List UInt8) :
    CryptoMono s (removeWatchOnly P s dest).2 := by
  simp only [removeWatchOnly]
  split
  exacts [.refl s, .refl s]

theorem CryptoMono.no_plaintext {s s' : KeyStore Id PubKey Key Chain} (h : CryptoMono s s')
    (hs : s.fUseCrypto = true → s.mapKeys.entries = []) :
    s'.fUseCrypto = true → s'.mapKeys.entries = [] := by
  intro hc
  obtain ⟨h₁ | ⟨he, -⟩, h₂ | h₂⟩ := h
  · rw [h₂]; exact hs (h₁ ▸ hc)
  · rw [hc] at h₂; contradiction
  · rw [h₂]; exact OrdMap.isEmpty_iff.1 he
  · rw [hc] at h₂; contradiction

theorem CryptoMono.crypted {s s' : KeyStore Id PubKey Key Chain} (h : CryptoMono s s')
    (hc : s.fUseCrypto = true) : s'.fUseCrypto = true := by
  obtain ⟨h₁ | ⟨-, h₁⟩, -⟩ := h
  exacts [h₁.trans hc, h₁]

/-! ## Unlock -/

theorem setCrypted_eq_false {s s₁ : KeyStore Id PubKey Key Chain}
    (h : setCrypted s = (false, s₁)) : s₁ = s := by
  unfold setCrypted at h
  split_ifs at h <;> cases h; rfl

theorem setCrypted_eq_true {s s₁ : KeyStore Id PubKey Key Chain}
    (h : setCrypted s = (true, s₁)) :
    s₁ = { s with fUseCrypto := true } ∧ (s.fUseCrypto = true ∨ s.mapKeys.entries = []) := by
  unfold setCrypted at h
  by_cases h₁ : s.fUseCrypto = true
  · rw [if_pos h₁] at h
    obtain rfl := (Prod.mk.inj h).2
    refine ⟨?_, .inl h₁⟩
    cases s; simp only at h₁; subst h₁; rfl
  · rw [if_neg h₁] at h
    split_ifs at h with h₂
    · cases h
    · obtain rfl := (Prod.mk.inj h).2
      exact ⟨rfl, .inr (OrdMap.isEmpty_iff.1 (by simpa using h₂))⟩

omit [LinearOrder Id] in
theorem unlockLoop_cons_none {k : List UInt8} {t kp : Bool} {i : Id} {pubKey : PubKey}
    {c : List UInt8} {rest : List (Id × (PubKey × List UInt8))}
    (h : decryptKey P k c pubKey = none) :
    unlockLoop P k t kp ((i, (pubKey, c)) :: rest) = (kp, true) := by
  simp [unlockLoop, h]

variable [DecidableEq H]

/-- `Unlock` changes the store `SetCrypted` leaves in its master key and its checked flag only. -/
theorem unlock_frame {s s' : KeyStore Id PubKey Key Chain} {k : List UInt8} {r : Bool}
    (h : unlock P s k = some (r, s')) :
    s' = { (setCrypted s).2 with
      vMasterKey := s'.vMasterKey,
      fDecryptionThoroughlyChecked := s'.fDecryptionThoroughlyChecked } := by
  unfold unlock at h
  rcases hs : setCrypted s with ⟨_ | _, s₁⟩ <;> simp only [hs] at h ⊢
  · cases h; rfl
  · split_ifs at h <;> cases h <;> rfl

/-- The outcomes of `Unlock`: `SetCrypted` refuses; the key check fails; the HD chain check fails
and the master key is cleared; or the master key is kept. -/
theorem unlock_cases {s s' : KeyStore Id PubKey Key Chain} {k : List UInt8} {r : Bool}
    (h : unlock P s k = some (r, s')) :
    (setCrypted s).1 = false ∧ r = false ∧ s' = s ∨
    (s.fUseCrypto = true ∨ s.mapKeys.entries = []) ∧
      let lp := unlockLoop P k s.fDecryptionThoroughlyChecked false s.mapCryptedKeys.entries
      ((lp.2 = true ∨ lp.1 = false ∧ P.chainIsNull s.cryptedHDChain = true) ∧ r = false ∧
          s' = { s with fUseCrypto := true } ∨
        lp.2 = false ∧ (lp.1 = true ∨ P.chainIsNull s.cryptedHDChain = false) ∧
          P.chainIsNull s.cryptedHDChain = false ∧
          chainPass P { s with fUseCrypto := true, vMasterKey := k } = false ∧ r = false ∧
          s' = { s with fUseCrypto := true, vMasterKey := [] } ∨
        lp.2 = false ∧ (lp.1 = true ∨ P.chainIsNull s.cryptedHDChain = false) ∧
          (P.chainIsNull s.cryptedHDChain = false →
            chainPass P { s with fUseCrypto := true, vMasterKey := k } = true) ∧ r = true ∧
          s' = { s with
            fUseCrypto := true, vMasterKey := k, fDecryptionThoroughlyChecked := true }) := by
  unfold unlock at h
  rcases hs : setCrypted s with ⟨_ | _, s₁⟩ <;> simp only [hs] at h
  · cases h
    exact .inl ⟨rfl, rfl, setCrypted_eq_false hs⟩
  obtain ⟨rfl, hc⟩ := setCrypted_eq_true hs
  refine .inr ⟨hc, ?_⟩
  dsimp only at h ⊢
  generalize unlockLoop P k s.fDecryptionThoroughlyChecked false s.mapCryptedKeys.entries = lp
    at h ⊢
  obtain ⟨keyPass, keyFail⟩ := lp
  split_ifs at h with hboth hfail hchain <;> cases h
  · -- the key check failed
    exact .inl ⟨by simpa using hfail, rfl, rfl⟩
  all_goals simp only [Bool.or_eq_true, Bool.and_eq_true, Bool.not_eq_true', not_or, not_and_or,
    Bool.not_eq_true, Bool.not_eq_false] at hfail hchain
  · -- the HD chain check failed
    exact .inr (.inl ⟨hfail.1, hfail.2, hchain.1, hchain.2, rfl, rfl⟩)
  · -- the master key is kept
    exact .inr (.inr ⟨hfail.1, hfail.2, fun hn => hchain.resolve_left (by rw [hn]; decide),
      rfl, rfl⟩)

/-- What `Unlock` has checked when it succeeds, and what it leaves when it fails. -/
theorem unlock_spec {s s' : KeyStore Id PubKey Key Chain} {k : List UInt8} {r : Bool}
    (h : unlock P s k = some (r, s')) :
    (r = true → s'.vMasterKey = k ∧
      (match s.mapCryptedKeys.entries with
        | [] => P.chainIsNull s.cryptedHDChain = false
        | (_, (pubKey, cryptedSecret)) :: _ => (decryptKey P k cryptedSecret pubKey).isSome = true) ∧
      (P.chainIsNull s.cryptedHDChain = false → ∃ chain,
        decryptHDChain P s' P.chainNull = (true, chain) ∧
          P.chainID s.cryptedHDChain = P.chainSeedHash chain)) ∧
    (r = false → s' = { s with fUseCrypto := s'.fUseCrypto, vMasterKey := s'.vMasterKey } ∧
      (s'.fUseCrypto = s.fUseCrypto ∨ s.mapKeys.entries = [] ∧ s'.fUseCrypto = true) ∧
      (s'.vMasterKey = s.vMasterKey ∨ s'.vMasterKey = [] ∧ P.chainIsNull s.cryptedHDChain = false ∧
        chainPass P { s with fUseCrypto := true, vMasterKey := k } = false)) := by
  rcases unlock_cases P h with ⟨-, rfl, rfl⟩ | ⟨hc, ⟨-, rfl, rfl⟩ | ⟨-, -, hn, hp, rfl, rfl⟩ |
    ⟨hkf, hkp, hchain, rfl, rfl⟩⟩
  · -- `SetCrypted` refused
    exact ⟨nofun, fun _ => ⟨rfl, .inl rfl, .inl rfl⟩⟩
  · -- the key check failed
    exact ⟨nofun, fun _ => ⟨rfl, hc.imp Eq.symm (⟨·, rfl⟩), .inl rfl⟩⟩
  · -- the HD chain check failed
    exact ⟨nofun, fun _ => ⟨rfl, hc.imp Eq.symm (⟨·, rfl⟩), .inr ⟨rfl, hn, hp⟩⟩⟩
  · -- the master key is kept
    refine ⟨fun _ => ⟨rfl, ?_, fun hn => ?_⟩, nofun⟩
    · cases he : s.mapCryptedKeys.entries with
      | nil => simpa [he, unlockLoop] using hkp
      | cons e rest =>
        obtain ⟨i, pubKey, c⟩ := e
        cases hd : decryptKey P k c pubKey with
        | none => simp [he, unlockLoop_cons_none P hd] at hkf
        | some key => simp [hd]
    · have hp := hchain hn
      unfold chainPass at hp
      split at hp
      · exact ⟨_, ‹_›, by simpa using hp⟩
      · cases hp

/-- A locked store with no crypted key and the HD chain `3`, whose seed decrypts under the
master key `[1]`. -/
def chainStore : KeyStore Nat Nat Nat Nat :=
  { KeyStore.empty toyPrimitives with fUseCrypto := true, cryptedHDChain := 3 }

/-- A locked store holding one crypted key, `5`, encrypted under the master key `[7]`. -/
def cryptedKeyStore : KeyStore Nat Nat Nat Nat :=
  { KeyStore.empty toyPrimitives with
    fUseCrypto := true, mapCryptedKeys := OrdMap.empty.insert 5 (5, List.replicate 32 2) }

/-- Both checks and both outcomes: under `[1]` the HD chain `3` passes its check; under `[7]` the
first crypted key decrypts to a key of its public key; under the wrong key `[2]`, a store
unlocked under `[1]` fails the chain check and loses its master key. -/
theorem unlock_spec_pass_and_fail :
    (∃ s', unlock toyPrimitives chainStore [1] = some (true, s') ∧ s'.vMasterKey = [1] ∧
      toyPrimitives.chainIsNull 3 = false ∧ ∃ chain,
        decryptHDChain toyPrimitives s' toyPrimitives.chainNull = (true, chain) ∧
          toyPrimitives.chainID 3 = toyPrimitives.chainSeedHash chain) ∧
    (∃ s', unlock toyPrimitives cryptedKeyStore [7] = some (true, s') ∧ s'.vMasterKey = [7] ∧
      (decryptKey toyPrimitives [7] (List.replicate 32 2) 5).isSome = true) ∧
    (∃ s', unlock toyPrimitives { chainStore with vMasterKey := [1] } [2] = some (false, s') ∧
      s' = { chainStore with vMasterKey := s'.vMasterKey } ∧ s'.vMasterKey = [] ∧
      toyPrimitives.chainIsNull 3 = false ∧
      chainPass toyPrimitives { chainStore with vMasterKey := [2] } = false) := by
  have hchain : unlock toyPrimitives chainStore [1] =
      some (true, { chainStore with vMasterKey := [1], fDecryptionThoroughlyChecked := true }) :=
    rfl
  have hkey : unlock toyPrimitives cryptedKeyStore [7] =
      some (true, { cryptedKeyStore with vMasterKey := [7], fDecryptionThoroughlyChecked := true }) :=
    rfl
  have hwrong : unlock toyPrimitives { chainStore with vMasterKey := [1] } [2] =
      some (false, { chainStore with vMasterKey := [] }) := rfl
  obtain ⟨hk₁, hn₁, hc₁⟩ := (unlock_spec toyPrimitives hchain).1 rfl
  obtain ⟨hk₂, hd₂, -⟩ := (unlock_spec toyPrimitives hkey).1 rfl
  obtain ⟨hs₃, -, hm₃⟩ := (unlock_spec toyPrimitives hwrong).2 rfl
  exact ⟨⟨_, hchain, hk₁, hn₁, hc₁ hn₁⟩, ⟨_, hkey, hk₂, hd₂⟩,
    ⟨_, hwrong, hs₃, (hm₃.resolve_left (by decide)).1, (hm₃.resolve_left (by decide)).2⟩⟩

/-- A store unlocked under the master key `[1]` of its HD chain `3`, given the wrong key `[2]`:
`Unlock` fails and leaves the store locked, its previous master key cleared. -/
theorem unlock_wrong_key_clears_master_key :
    (unlock toyPrimitives { KeyStore.empty toyPrimitives with
        fUseCrypto := true, vMasterKey := [1], cryptedHDChain := 3 } [2]).map
      (fun r => (r.1, r.2.vMasterKey)) = some (false, []) := by
  decide

/-! ## Encrypting the HD chain -/

/-- On a store that is not crypted, `DecryptHDChain` returns true and writes nothing. -/
theorem decryptHDChain_of_not_crypted {s : KeyStore Id PubKey Key Chain}
    (h : s.fUseCrypto = false) (ret : Chain) : decryptHDChain P s ret = (true, ret) := by
  simp [decryptHDChain, h]

/-- A store holding the plaintext key 3, an HD chain `7` whose ID is the hash of its seed, and a
32-byte master key: `EncryptHDChain` returns true, yet the store stays uncrypted, so
`DecryptHDChain` under the master key returns true without writing its output, whose seed is not
the chain's. -/
theorem encryptHDChain_plaintext_store :
    toyPrimitives32.chainSeedHash 7 = toyPrimitives32.chainID 7 ∧
      (encryptHDChain toyPrimitives32 (addKeyPubKey toyPrimitives32
        (KeyStore.empty toyPrimitives32) 3 3).2 (List.replicate 32 5) 7).1 = true ∧
      (encryptHDChain toyPrimitives32 (addKeyPubKey toyPrimitives32
        (KeyStore.empty toyPrimitives32) 3 3).2 (List.replicate 32 5) 7).2.fUseCrypto = false ∧
      decryptHDChain toyPrimitives32 { (encryptHDChain toyPrimitives32 (addKeyPubKey toyPrimitives32
        (KeyStore.empty toyPrimitives32) 3 3).2 (List.replicate 32 5) 7).2 with
          vMasterKey := List.replicate 32 5 } 0 = (true, 0) ∧
      toyPrimitives32.chainSeed 0 ≠ toyPrimitives32.chainSeed 7 := by
  have hflag : (encryptHDChain toyPrimitives32 (addKeyPubKey toyPrimitives32
      (KeyStore.empty toyPrimitives32) 3 3).2 (List.replicate 32 5) 7).2.fUseCrypto = false := by
    rw [encryptHDChain_fUseCrypto]; decide
  exact ⟨rfl, by decide, hflag, decryptHDChain_of_not_crypted toyPrimitives32 hflag 0, by decide⟩

/-! ## Runs -/

theorem step_mono {s s' : KeyStore Id PubKey Key Chain} {op : KeyStoreOp PubKey Key Chain}
    {r : Bool} (h : step P s op = some (r, s')) : CryptoMono s s' := by
  have hs : ∀ {x : Bool × KeyStore Id PubKey Key Chain}, some x = some (r, s') → s' = x.2 :=
    fun h => (congrArg Prod.snd (Option.some.inj h)).symm
  cases op with
  | unlock k =>
    rw [unlock_frame P h]
    exact (setCrypted_mono s).of_same rfl rfl
  | addKeyPubKey key pubKey => exact hs h ▸ addKeyPubKey_mono P s key pubKey
  | addCryptedKey pubKey secret => exact hs h ▸ addCryptedKey_mono P s pubKey secret
  | setCrypted => exact hs h ▸ setCrypted_mono s
  | lock => exact hs h ▸ lock_mono s
  | encryptHDChain k chain => exact hs h ▸ encryptHDChain_mono P s k chain
  | setCryptedHDChain chain => exact hs h ▸ setCryptedHDChain_mono P s chain
  | addCScript script => exact hs h ▸ addCScript_mono P s script
  | addWatchOnly dest => exact hs h ▸ addWatchOnly_mono P s dest
  | removeWatchOnly dest => exact hs h ▸ removeWatchOnly_mono P s dest

/-- Along every run from the empty store, a crypted store holds no plaintext key, and a store
stays crypted once it is. -/
theorem crypted_store_holds_no_plaintext_key {ops : List (KeyStoreOp PubKey Key Chain)}
    {s : KeyStore Id PubKey Key Chain} (h : run P (KeyStore.empty P) ops = some s) :
    (s.fUseCrypto = true → s.mapKeys.entries = []) ∧
      ∀ (ops' : List (KeyStoreOp PubKey Key Chain)) (s' : KeyStore Id PubKey Key Chain),
        run P s ops' = some s' → s.fUseCrypto = true → s'.fUseCrypto = true :=
  ⟨run_invariant P (fun _ _ _ _ hi hs => (step_mono P hs).no_plaintext hi)
      (fun h₀ => absurd h₀ (by simp [KeyStore.empty])) h,
    fun _ _ h' hc => run_invariant P (I := fun s => s.fUseCrypto = true)
      (fun _ _ _ _ hi hs => (step_mono P hs).crypted hi) hc h'⟩

theorem crypted_store_holds_no_plaintext_key_toy :
    (({ KeyStore.empty toyPrimitives with fUseCrypto := true } : KeyStore Nat Nat Nat Nat).fUseCrypto
        = true →
      ({ KeyStore.empty toyPrimitives with fUseCrypto := true } : KeyStore Nat Nat Nat Nat).mapKeys.entries
        = []) ∧
      ∀ (ops' : List (KeyStoreOp Nat Nat Nat)) (s' : KeyStore Nat Nat Nat Nat),
        run toyPrimitives { KeyStore.empty toyPrimitives with fUseCrypto := true } ops' = some s' →
          ({ KeyStore.empty toyPrimitives with fUseCrypto := true } : KeyStore Nat Nat Nat Nat).fUseCrypto
            = true → s'.fUseCrypto = true :=
  crypted_store_holds_no_plaintext_key toyPrimitives
    (show run toyPrimitives (KeyStore.empty toyPrimitives) [.setCrypted, .addKeyPubKey 3 3] =
      some { KeyStore.empty toyPrimitives with fUseCrypto := true } from rfl)

end DeVault.Wallet
