import DeVault.Wallet.Encryption

/-!
# Watch-only scripts and their keys

`AddWatchOnly` records the public key a watched pay-to-pubkey script carries in `mapWatchKeys`, and
`RemoveWatchOnly` erases the key of the script it unwatches. The map then holds exactly the keys
of the watched scripts as long as no two watched scripts carry the same key. When two do (the same
key pushed by two push opcodes), unwatching one erases the key the other still calls for.

## Main results

* `addWatchOnly_consistent`, `removeWatchOnly_consistent` — the map stays the one the watched
  scripts call for, the second when no other watched script carries the removed key.
* `removeWatchOnly_drops_shared_key` — otherwise the key of a still watched script is lost.
* `run_watchKeysConsistent` — every other operation leaves the watched scripts and their keys
  alone, so along every run that unwatches no script sharing its key with another script the
  store watches or the run names, the map stays consistent.
-/

namespace DeVault.Wallet

variable {Id PubKey Key H Chain : Type} [LinearOrder Id]
variable (P : Primitives Id PubKey Key H Chain)

/-- `mapWatchKeys` maps `id` to `pub` exactly when a watched script carries `pub`, of ID `id`. -/
def WatchKeysConsistent (s : KeyStore Id PubKey Key Chain) : Prop :=
  ∀ id pub, s.mapWatchKeys.find? id = some pub ↔
    ∃ dest ∈ s.setWatchOnly, extractPubKey P dest = some pub ∧ P.getID pub = id

omit [LinearOrder Id] in
/-- A watched script that carries no key changes nothing the map calls for. -/
theorem exists_watched_insert_of_none {set : Finset (List UInt8)} {d : List UInt8}
    (hd : extractPubKey P d = none) (id : Id) (pub : PubKey) :
    (∃ dest ∈ insert d set, extractPubKey P dest = some pub ∧ P.getID pub = id) ↔
      ∃ dest ∈ set, extractPubKey P dest = some pub ∧ P.getID pub = id := by
  simp only [Finset.mem_insert, exists_eq_or_imp, hd, reduceCtorEq, false_and, false_or]

theorem addWatchOnly_consistent (hinj : Function.Injective P.getID)
    {s : KeyStore Id PubKey Key Chain} (h : WatchKeysConsistent P s) (d : List UInt8) :
    WatchKeysConsistent P (addWatchOnly P s d).2 := by
  intro id pub
  simp only [addWatchOnly]
  cases hd : extractPubKey P d with
  | none => simpa only [exists_watched_insert_of_none P hd] using h id pub
  | some p =>
    simp only [OrdMap.find?_insert, Finset.mem_insert, exists_eq_or_imp, hd, Option.some.injEq]
    by_cases hid : id = P.getID p
    · subst hid
      simp only [if_true]
      constructor
      · intro hp
        obtain rfl := Option.some.inj hp
        exact .inl ⟨rfl, rfl⟩
      · rintro (⟨rfl, -⟩ | ⟨dest, -, -, hpub⟩)
        · rfl
        · exact congrArg some (hinj hpub).symm
    · rw [if_neg hid, h id pub]
      constructor
      · exact .inr
      · rintro (⟨rfl, rfl⟩ | h')
        · exact absurd rfl hid
        · exact h'

omit [LinearOrder Id] in
/-- Unwatching a script whose key, if any, is not of ID `id` changes nothing the map calls for at
`id`. -/
theorem exists_watched_erase {set : Finset (List UInt8)} {d : List UInt8} {id : Id}
    (hd : ∀ p, extractPubKey P d = some p → P.getID p ≠ id) (pub : PubKey) :
    (∃ dest ∈ set.erase d, extractPubKey P dest = some pub ∧ P.getID pub = id) ↔
      ∃ dest ∈ set, extractPubKey P dest = some pub ∧ P.getID pub = id := by
  refine ⟨fun ⟨dest, hdest, hx⟩ => ⟨dest, (Finset.mem_erase.1 hdest).2, hx⟩,
    fun ⟨dest, hdest, hx, hid⟩ => ⟨dest, Finset.mem_erase.2 ⟨?_, hdest⟩, hx, hid⟩⟩
  rintro rfl
  exact hd pub hx hid

theorem removeWatchOnly_consistent (hinj : Function.Injective P.getID)
    {s : KeyStore Id PubKey Key Chain} (h : WatchKeysConsistent P s) {d : List UInt8}
    (hshared : ∀ pub, extractPubKey P d = some pub →
      ∀ dest ∈ s.setWatchOnly, extractPubKey P dest = some pub → dest = d) :
    WatchKeysConsistent P (removeWatchOnly P s d).2 := by
  intro id pub
  simp only [removeWatchOnly]
  cases hd : extractPubKey P d with
  | none =>
    rw [h id pub, exists_watched_erase P fun _ hp => ?_]
    cases hd ▸ hp
  | some p =>
    simp only [OrdMap.find?_erase]
    by_cases hid : id = P.getID p
    · -- the removed key: no other watched script carries it
      subst hid
      simp only [if_true, reduceCtorEq, false_iff, not_exists, not_and]
      intro dest hdest hx hpub
      obtain rfl := hinj hpub
      obtain ⟨hne, hdest⟩ := Finset.mem_erase.1 hdest
      exact hne (hshared _ hd dest hdest hx)
    · -- another key: the removed script did not call for it
      rw [if_neg hid, h id pub, exists_watched_erase P fun p' hp' => ?_]
      obtain rfl := Option.some.inj (hd ▸ hp')
      exact Ne.symm hid

theorem empty_watchKeysConsistent : WatchKeysConsistent P (KeyStore.empty P) := by
  intro id pub
  simp [KeyStore.empty]

/-! ## The other operations -/

/-- The store `s'` watches the scripts of `s`, with the same keys. -/
def WatchFrame (s s' : KeyStore Id PubKey Key Chain) : Prop :=
  s'.setWatchOnly = s.setWatchOnly ∧ s'.mapWatchKeys = s.mapWatchKeys

theorem WatchFrame.consistent {s s' : KeyStore Id PubKey Key Chain} (hf : WatchFrame s s')
    (h : WatchKeysConsistent P s) : WatchKeysConsistent P s' := by
  intro id pub
  rw [hf.1, hf.2]
  exact h id pub

theorem setCrypted_watchFrame (s : KeyStore Id PubKey Key Chain) :
    WatchFrame s (setCrypted s).2 := by
  unfold setCrypted
  split_ifs <;> exact ⟨rfl, rfl⟩

/-- An operation that runs `SetCrypted` and then touches neither watch-only field. -/
theorem watchFrame_of_setCrypted {s s₁ s₂ : KeyStore Id PubKey Key Chain} {b : Bool}
    (hs : setCrypted s = (b, s₁)) (h₁ : s₂.setWatchOnly = s₁.setWatchOnly)
    (h₂ : s₂.mapWatchKeys = s₁.mapWatchKeys) : WatchFrame s s₂ := by
  have hf := setCrypted_watchFrame s
  rw [hs] at hf
  exact ⟨h₁.trans hf.1, h₂.trans hf.2⟩

section Runs

variable [DecidableEq H]

/-- Every operation but `AddWatchOnly` and `RemoveWatchOnly` leaves the watched scripts and their
keys alone. -/
theorem step_watchFrame {s s' : KeyStore Id PubKey Key Chain} {op : KeyStoreOp PubKey Key Chain}
    {r : Bool} (h : step P s op = some (r, s')) (hadd : ∀ d, op ≠ .addWatchOnly d)
    (hrem : ∀ d, op ≠ .removeWatchOnly d) : WatchFrame s s' := by
  cases op with
  | unlock k => rw [unlock_frame P h]; exact setCrypted_watchFrame s
  | addWatchOnly d => exact absurd rfl (hadd d)
  | removeWatchOnly d => exact absurd rfl (hrem d)
  | _ =>
    simp only [step, Option.some.injEq] at h
    obtain rfl : s' = _ := (congrArg Prod.snd h).symm
    rcases hs : setCrypted s with ⟨_ | _, s₁⟩ <;>
      simp only [addKeyPubKey, addCryptedKey, lock, encryptHDChain, setCryptedHDChain, addCScript,
        hs] <;>
      repeat' split
    all_goals first | exact ⟨rfl, rfl⟩ | exact watchFrame_of_setCrypted hs rfl rfl

theorem step_watchKeysConsistent (hinj : Function.Injective P.getID)
    {s s' : KeyStore Id PubKey Key Chain} {op : KeyStoreOp PubKey Key Chain} {r : Bool}
    (hop : ∀ d, op ≠ .removeWatchOnly d) (h : WatchKeysConsistent P s)
    (hs : step P s op = some (r, s')) : WatchKeysConsistent P s' := by
  by_cases hadd : ∃ d, op = .addWatchOnly d
  · obtain ⟨d, rfl⟩ := hadd
    simp only [step, Option.some.injEq] at hs
    obtain rfl : s' = _ := (congrArg Prod.snd hs).symm
    exact addWatchOnly_consistent P hinj h d
  · exact (step_watchFrame P hs (fun d he => hadd ⟨d, he⟩) hop).consistent P h

/-- The script `AddWatchOnly` or `RemoveWatchOnly` names. -/
def KeyStoreOp.watchScript : KeyStoreOp PubKey Key Chain → Option (List UInt8)
  | .addWatchOnly dest => some dest
  | .removeWatchOnly dest => some dest
  | _ => none

/-- A step watches only what was watched and the script it names. -/
theorem step_setWatchOnly {s s' : KeyStore Id PubKey Key Chain} {op : KeyStoreOp PubKey Key Chain}
    {r : Bool} (h : step P s op = some (r, s')) :
    ∀ d ∈ s'.setWatchOnly, d ∈ s.setWatchOnly ∨ op.watchScript = some d := by
  intro d hd
  cases op with
  | addWatchOnly dest =>
    obtain rfl : s' = _ := (congrArg Prod.snd (Option.some.inj h)).symm
    unfold addWatchOnly at hd
    split at hd <;> exact (Finset.mem_insert.1 hd).symm.imp_right fun h => by rw [h]; rfl
  | removeWatchOnly dest =>
    obtain rfl : s' = _ := (congrArg Prod.snd (Option.some.inj h)).symm
    unfold removeWatchOnly at hd
    split at hd <;> exact .inl (Finset.mem_of_mem_erase hd)
  | _ => exact .inl ((step_watchFrame P h (fun _ => nofun) fun _ => nofun).1 ▸ hd)

/-- One step keeps the map consistent unless it unwatches a script whose key another watched
script carries. -/
theorem step_watchKeysConsistent_of_unshared (hinj : Function.Injective P.getID)
    {s s' : KeyStore Id PubKey Key Chain} {op : KeyStoreOp PubKey Key Chain} {r : Bool}
    (hshared : ∀ d, op = .removeWatchOnly d → ∀ pub, extractPubKey P d = some pub →
      ∀ dest ∈ s.setWatchOnly, extractPubKey P dest = some pub → dest = d)
    (h : WatchKeysConsistent P s) (hs : step P s op = some (r, s')) : WatchKeysConsistent P s' := by
  cases op with
  | removeWatchOnly d =>
    obtain rfl : s' = _ := (congrArg Prod.snd (Option.some.inj hs)).symm
    exact removeWatchOnly_consistent P hinj h (hshared d rfl)
  | _ => exact step_watchKeysConsistent P hinj (fun _ => by nofun) h hs

/-- Along every run from a store whose map matches its watched scripts, the map keeps matching
them, as long as no script the run unwatches shares its key with another script that the store
watches or the run names: only such an unwatching loses a key. -/
theorem run_watchKeysConsistent (hinj : Function.Injective P.getID)
    {ops : List (KeyStoreOp PubKey Key Chain)} :
    ∀ {s s' : KeyStore Id PubKey Key Chain},
      (∀ d pub, .removeWatchOnly d ∈ ops → extractPubKey P d = some pub →
        ∀ d', (d' ∈ s.setWatchOnly ∨ ∃ op ∈ ops, op.watchScript = some d') →
          extractPubKey P d' = some pub → d' = d) →
      WatchKeysConsistent P s → run P s ops = some s' → WatchKeysConsistent P s' := by
  induction ops with
  | nil => intro s s' _ h hrun; cases hrun; exact h
  | cons op ops ih =>
    intro s s' hunshared h hrun
    simp only [run] at hrun
    split at hrun
    · cases hrun
    · rename_i r s₁ h₁
      have hstep := step_watchKeysConsistent_of_unshared P hinj (fun d hd pub hp dest hdest hx =>
        hunshared d pub (hd ▸ List.mem_cons_self _ _) hp dest (.inl hdest) hx) h h₁
      refine ih (fun d pub hd hp d' hd' hx => hunshared d pub (List.mem_cons_of_mem _ hd) hp d'
        ?_ hx) hstep hrun
      rcases hd' with hd' | ⟨o, ho, hw⟩
      · exact (step_setWatchOnly P h₁ d' hd').imp_right fun hw => ⟨op, List.mem_cons_self _ _, hw⟩
      · exact .inr ⟨o, List.mem_cons_of_mem _ ho, hw⟩

end Runs

/-- Two scripts of two keys watched, then the first unwatched: the map still matches. -/
theorem run_watchKeysConsistent_two_keys :
    ∃ s', run toyPrimitives (KeyStore.empty toyPrimitives)
        [.addWatchOnly (33 :: (List.replicate 33 2 ++ [0xac])),
          .addWatchOnly (33 :: (List.replicate 33 3 ++ [0xac])),
          .removeWatchOnly (33 :: (List.replicate 33 2 ++ [0xac]))] = some s' ∧
      WatchKeysConsistent toyPrimitives s' := by
  have h₂ : extractPubKey toyPrimitives (33 :: (List.replicate 33 2 ++ [0xac])) =
      some (toyPrimitives.pubKeyOf (List.replicate 33 2)) := by decide
  have h₃ : extractPubKey toyPrimitives (33 :: (List.replicate 33 3 ++ [0xac])) ≠
      some (toyPrimitives.pubKeyOf (List.replicate 33 2)) := by decide
  obtain ⟨s', hrun⟩ : ∃ s', run toyPrimitives (KeyStore.empty toyPrimitives)
      [.addWatchOnly (33 :: (List.replicate 33 2 ++ [0xac])),
        .addWatchOnly (33 :: (List.replicate 33 3 ++ [0xac])),
        .removeWatchOnly (33 :: (List.replicate 33 2 ++ [0xac]))] = some s' :=
    Option.isSome_iff_exists.1 rfl
  refine ⟨s', hrun, run_watchKeysConsistent toyPrimitives (fun _ _ h => h) ?_
    (empty_watchKeysConsistent toyPrimitives) hrun⟩
  intro d pub hd hp d' hd' hx
  simp only [List.mem_cons, List.mem_singleton, List.not_mem_nil, or_false, reduceCtorEq,
    KeyStoreOp.removeWatchOnly.injEq, false_or] at hd
  subst hd
  obtain rfl := Option.some.inj (h₂.symm.trans hp)
  simp only [KeyStore.empty, Finset.not_mem_empty, List.mem_cons, List.mem_singleton,
    List.not_mem_nil, or_false, exists_eq_or_imp, exists_eq_left, KeyStoreOp.watchScript,
    Option.some.injEq, false_or] at hd'
  rcases hd' with rfl | rfl | rfl
  · rfl
  · exact absurd hx h₃
  · rfl

/-! ## A key shared by two scripts -/

/-- Two watched scripts carrying one key: unwatching the first erases the key of the second, which
stays watched, so the map no longer matches the watched scripts and, without a private key,
`GetPubKey` fails for it. -/
theorem removeWatchOnly_drops_shared_key {s : KeyStore Id PubKey Key Chain} {d₁ d₂ : List UInt8}
    {pub : PubKey} (hne : d₁ ≠ d₂) (h₁ : extractPubKey P d₁ = some pub)
    (h₂ : extractPubKey P d₂ = some pub) (hkey : s.mapKeys.find? (P.getID pub) = none)
    (hcrypted : s.mapCryptedKeys.find? (P.getID pub) = none) :
    let s' := (removeWatchOnly P (addWatchOnly P (addWatchOnly P s d₁).2 d₂).2 d₁).2
    d₂ ∈ s'.setWatchOnly ∧ s'.mapWatchKeys.find? (P.getID pub) = none ∧
      getPubKey P s' (P.getID pub) = none ∧ ¬WatchKeysConsistent P s' := by
  intro s'
  have hmem : d₂ ∈ s'.setWatchOnly := by
    simp [s', removeWatchOnly, addWatchOnly, h₁, h₂, Ne.symm hne]
  have hfind : s'.mapWatchKeys.find? (P.getID pub) = none := by
    simp [s', removeWatchOnly, addWatchOnly, h₁, h₂]
  refine ⟨hmem, hfind, ?_, fun hc => ?_⟩
  · have hk : s'.mapKeys = s.mapKeys ∧ s'.mapCryptedKeys = s.mapCryptedKeys ∧
        s'.fUseCrypto = s.fUseCrypto := by
      simp [s', removeWatchOnly, addWatchOnly, h₁, h₂]
    unfold getPubKey
    rw [hk.1, hk.2.1, hk.2.2, hkey, hcrypted, hfind]
    split_ifs <;> rfl
  · have := (hc (P.getID pub) pub).2 ⟨d₂, hmem, h₂, rfl⟩
    rw [hfind] at this
    cases this

/-- The key `02…02` pushed directly and through `OP_PUSHDATA1`: two pay-to-pubkey scripts of one
key. -/
theorem removeWatchOnly_drops_shared_key_toy :
    ¬WatchKeysConsistent toyPrimitives (removeWatchOnly toyPrimitives
        (addWatchOnly toyPrimitives (addWatchOnly toyPrimitives (KeyStore.empty toyPrimitives)
          (33 :: (List.replicate 33 2 ++ [0xac]))).2 (0x4c :: 33 :: (List.replicate 33 2 ++ [0xac]))).2
        (33 :: (List.replicate 33 2 ++ [0xac]))).2 ∧
      getPubKey toyPrimitives (removeWatchOnly toyPrimitives
        (addWatchOnly toyPrimitives (addWatchOnly toyPrimitives (KeyStore.empty toyPrimitives)
          (33 :: (List.replicate 33 2 ++ [0xac]))).2 (0x4c :: 33 :: (List.replicate 33 2 ++ [0xac]))).2
        (33 :: (List.replicate 33 2 ++ [0xac]))).2
        (toyPrimitives.getID (toyPrimitives.pubKeyOf (List.replicate 33 2))) = none := by
  obtain ⟨-, -, hget, hbad⟩ := removeWatchOnly_drops_shared_key toyPrimitives (by decide)
    (show extractPubKey toyPrimitives (33 :: (List.replicate 33 2 ++ [0xac])) =
      some (toyPrimitives.pubKeyOf (List.replicate 33 2)) by decide)
    (show extractPubKey toyPrimitives (0x4c :: 33 :: (List.replicate 33 2 ++ [0xac])) =
      some (toyPrimitives.pubKeyOf (List.replicate 33 2)) by decide)
    (show (KeyStore.empty toyPrimitives).mapKeys.find? _ = none from rfl)
    (show (KeyStore.empty toyPrimitives).mapCryptedKeys.find? _ = none from rfl)
  exact ⟨hbad, hget⟩

end DeVault.Wallet
