import DeVault.Wallet.ZapSelectTx
import DeVault.Wallet.CreditDebit

/-!
# Loading a wallet

`CWalletDB::LoadWallet` (walletdb.cpp) reads every record of the wallet database through a cursor
and hands each to `ReadKeyValue`, which reads the record's type string from the key and loads the
record by its type. It tolerates single corrupt records: a failure on a record whose type is a key
type (`IsKeyType`: `"mkey"`, `"chdchain"`, `"ckey"`) or `"defaultkey"` makes the result
`CORRUPT`, a failure on a record of another type sets `fNoncriticalErrors`, a cursor error
returns `CORRUPT` at once, and a throw out of the loop sets `CORRUPT`. After the loop, a
non-critical error turns `LOAD_OK` into `NONCRITICAL_ERROR`, and any result but `LOAD_OK` is
returned before the wallet is rewritten or reordered.

The branches of `ReadKeyValue` for each type, and the wallet they load into, are an input
(`handle`), so the results hold for every behaviour of them. So are the result of
`ReorderTransactions` and the outcome of the final `ListAccountCreditDebit("*")`, whose throw
leaves `LoadWallet`.

## Main definitions

* `readKeyValue` — `ReadKeyValue`, with the type string it leaves when the key does not read.
* `loadWallet` — `CWalletDB::LoadWallet`.
* `ReadOutcome`, `loadWalletTrace` — what happened at each read `LoadWallet` made.

## Main results

* `loadLoop_eq_none_iff`, `loadLoop_accumulators` — the loop's status and error flag are what the
  outcomes of its reads make of them.
* `loadWallet_status` — a lost key or a cursor error gives `CORRUPT`, failures of other records
  alone give `NONCRITICAL_ERROR`, and every other status comes from a run where every read
  succeeded.
-/

namespace DeVault.Wallet

/-! ## ReadKeyValue -/

/-- The fields of `CWalletScanState` that `LoadWallet` reads after the loop. -/
structure CWalletScanState where
  fIsEncrypted : Bool := false
  fAnyUnordered : Bool := false
  nFileVersion : Int := 0

/-- `ssKey >> strType`: the string and the rest of the key, or the string it leaves when it
throws: empty if the size does not read, else the size in NUL bytes (`resize` before `read`). -/
def readStrType (s : Bytes) : Except Bytes (Bytes × Bytes) :=
  match readCompactSize s with
  | none => .error []
  | some (nSize, s) =>
    if nSize ≤ s.length then .ok (s.take nSize, s.drop nSize) else .error (List.replicate nSize 0)

/-- The branches of `ReadKeyValue` by type: from the type, the rest of the key, the value and the
wallet and scan state, whether the branch succeeds and the wallet and scan state after. -/
abbrev KeyValueHandler (W : Type) :=
  Bytes → Bytes → Bytes → W × CWalletScanState → Bool × W × CWalletScanState

variable {W : Type} (handle : KeyValueHandler W)

/-- `ReadKeyValue` on a record: whether it succeeds, the type string it leaves, and the wallet
and scan state after. A throw out of `ssKey >> strType` is a failure that changes neither. -/
def readKeyValue (key value : Bytes) (st : W × CWalletScanState) :
    Bool × Bytes × W × CWalletScanState :=
  match readStrType key with
  | .error strType => (false, strType, st)
  | .ok (strType, keyRest) =>
    let r := handle strType keyRest value st
    (r.1, strType, r.2)

/-- `CWalletDB::IsKeyType`. -/
def isKeyType (strType : Bytes) : Bool :=
  strType = ascii "mkey" || strType = ascii "chdchain" || strType = ascii "ckey"

/-! ## LoadWallet -/

/-- A read at the cursor: a record, a read error (`ret != 0`), or a throw out of the read. The
end of the list is `DB_NOTFOUND`. -/
inductive CursorItem
  | record (key value : Bytes)
  | error
  | thrown

/-- The variables of `LoadWallet` that its loop changes. -/
structure LoadState (W : Type) where
  wallet : W
  wss : CWalletScanState
  fNoncriticalErrors : Bool
  result : DBErrors

/-- One pass of the loop on a record. -/
def loadRecord (s : LoadState W) (key value : Bytes) : LoadState W :=
  let r := readKeyValue handle key value (s.wallet, s.wss)
  let s := { s with wallet := r.2.2.1, wss := r.2.2.2 }
  if r.1 then s
  else if isKeyType r.2.1 || r.2.1 = ascii "defaultkey" then { s with result := .corrupt }
  else { s with fNoncriticalErrors := true }

theorem loadRecord_wallet (s : LoadState W) (key value : Bytes) :
    (loadRecord handle s key value).wallet =
      (readKeyValue handle key value (s.wallet, s.wss)).2.2.1 := by
  simp only [loadRecord]; split_ifs <;> rfl

/-- The loop: `none` where it returns `CORRUPT` at a read error, else the state it leaves; a throw
leaves it through `catch (...)` with `result = CORRUPT`. -/
def loadLoop : LoadState W → List CursorItem → Option (LoadState W)
  | s, [] => some s
  | _, .error :: _ => none
  | s, .thrown :: _ => some { s with result := .corrupt }
  | s, .record key value :: rest => loadLoop (loadRecord handle s key value) rest

/-- What `LoadWallet` does after the loop, with `reorder` what `ReorderTransactions` returns on
the loaded wallet and `listAll` the outcome of `ListAccountCreditDebit("*")`. -/
def loadWalletTail (reorder : W → DBErrors) (listAll : Except ListError (List CAccountingEntry))
    (s : LoadState W) : Except ListError DBErrors :=
  let result := if s.fNoncriticalErrors ∧ s.result = .loadOk then .nonCriticalError else s.result
  if result ≠ .loadOk then .ok result
  else if s.wss.fIsEncrypted ∧ (s.wss.nFileVersion = 40000 ∨ s.wss.nFileVersion = 50000) then
    .ok .needRewrite
  else
    let result := if s.wss.fAnyUnordered then reorder s.wallet else .loadOk
    listAll.map fun _ => result

/-- `CWalletDB::LoadWallet`, with `minVersion` the `"minversion"` record if it reads and `cursor`
the reads at the cursor if `GetCursor` succeeds. -/
def loadWallet (reorder : W → DBErrors) (listAll : Except ListError (List CAccountingEntry))
    (minVersion : Option Int) (clientVersion : Int) (wallet : W)
    (cursor : Option (List CursorItem)) : Except ListError DBErrors :=
  if minVersion.any (· > clientVersion) then .ok .tooNew
  else match cursor with
    | none => .ok .corrupt
    | some items =>
      match loadLoop handle ⟨wallet, {}, false, .loadOk⟩ items with
      | none => .ok .corrupt
      | some s => loadWalletTail reorder listAll s

/-! ## What the loop met -/

/-- The record types that hold keys or the default key. -/
def keyRecordTypes : List Bytes :=
  [ascii "mkey", ascii "ckey", ascii "chdchain", ascii "defaultkey"]

/-- What happened at one read of the loop: `ReadKeyValue` on a record, with the type string it
left and whether it succeeded, a cursor error, or a throw. -/
inductive ReadOutcome
  | read (strType : Bytes) (ok : Bool)
  | cursorError
  | thrown

/-- The outcome loses keys or the database: a failed read of a key record, a cursor error, or a
throw. -/
def ReadOutcome.corrupting : ReadOutcome → Bool
  | .read strType ok => !ok && decide (strType ∈ keyRecordTypes)
  | .cursorError | .thrown => true

/-- The outcome is a failed read of a record of another type. -/
def ReadOutcome.noncritical : ReadOutcome → Bool
  | .read strType ok => !ok && decide (strType ∉ keyRecordTypes)
  | .cursorError | .thrown => false

/-- The outcomes of the loop's reads, from the wallet and scan state `st`. -/
def loadTrace : W × CWalletScanState → List CursorItem → List ReadOutcome
  | _, [] => []
  | _, .error :: _ => [.cursorError]
  | _, .thrown :: _ => [.thrown]
  | st, .record key value :: rest =>
    let r := readKeyValue handle key value st
    .read r.2.1 r.1 :: loadTrace r.2.2 rest

/-- The outcomes of the reads `LoadWallet` makes: none for a database of a newer client, and a
cursor error where `GetCursor` fails. -/
def loadWalletTrace (minVersion : Option Int) (clientVersion : Int) (wallet : W)
    (cursor : Option (List CursorItem)) : List ReadOutcome :=
  if minVersion.any (· > clientVersion) then []
  else match cursor with
    | none => [.cursorError]
    | some items => loadTrace handle (wallet, {}) items

/-- The types `LoadWallet` treats as key records, `IsKeyType(strType) || strType == "defaultkey"`,
are those of `keyRecordTypes`. -/
theorem isKeyType_or_defaultkey_iff (strType : Bytes) :
    (isKeyType strType || decide (strType = ascii "defaultkey")) =
      decide (strType ∈ keyRecordTypes) := by
  simp only [isKeyType, keyRecordTypes, List.mem_cons, List.mem_singleton, List.not_mem_nil,
    or_false, Bool.decide_or, Bool.or_assoc]
  cases decide (strType = ascii "ckey") <;> cases decide (strType = ascii "chdchain") <;> rfl

/-- A type string that does not read is never a key record's: a record whose type is unreadable
counts as a non-critical failure. -/
theorem readStrType_error_not_mem {key strType : Bytes} (h : readStrType key = .error strType) :
    strType ∉ keyRecordTypes := by
  have hz : ∀ t ∈ keyRecordTypes, ∃ c ∈ t, c ≠ 0 := by decide
  unfold readStrType at h
  split at h
  · cases h
    decide
  · split at h
    · cases h
    · cases h
      intro hm
      obtain ⟨c, hc, hne⟩ := hz _ hm
      exact hne (List.eq_of_mem_replicate hc)

/-- A record whose type string does not read changes neither the wallet nor the status: it only
sets `fNoncriticalErrors`. -/
theorem loadRecord_of_readStrType_error {s : LoadState W} {key value strType : Bytes}
    (h : readStrType key = .error strType) :
    loadRecord handle s key value = { s with fNoncriticalErrors := true } := by
  have hm : decide (strType ∈ keyRecordTypes) = false :=
    decide_eq_false (readStrType_error_not_mem h)
  simp only [loadRecord, readKeyValue, h, isKeyType_or_defaultkey_iff, hm, Bool.false_eq_true,
    if_false]

theorem readStrType_eq_ok_iff {s : Bytes} {r : Bytes × Bytes} :
    readStrType s = .ok r ↔ readString s = some r := by
  unfold readStrType readString
  split <;> rename_i h <;> simp only [h, Option.none_bind, Option.some_bind]
  · simp
  · split <;> simp [eq_comm]

/-! ## The loop -/

/-- One pass sets `CORRUPT` on a corrupting outcome and `fNoncriticalErrors` on a non-critical
one. -/
theorem loadRecord_accumulators {s : LoadState W} {key value : Bytes} {ok : Bool}
    {strType : Bytes} {st : W × CWalletScanState}
    (hr : readKeyValue handle key value (s.wallet, s.wss) = (ok, strType, st)) :
    ((loadRecord handle s key value).wallet, (loadRecord handle s key value).wss) = st ∧
      (loadRecord handle s key value).result =
        (if (ReadOutcome.read strType ok).corrupting then .corrupt else s.result) ∧
      (loadRecord handle s key value).fNoncriticalErrors =
        (s.fNoncriticalErrors || (ReadOutcome.read strType ok).noncritical) := by
  have hk := isKeyType_or_defaultkey_iff strType
  cases ok <;> simp only [loadRecord, hr, hk, ReadOutcome.corrupting, ReadOutcome.noncritical]
  · by_cases hm : strType ∈ keyRecordTypes <;> simp [hm]
  · simp

theorem loadLoop_eq_none_iff (s : LoadState W) (items : List CursorItem) :
    loadLoop handle s items = none ↔
      ReadOutcome.cursorError ∈ loadTrace handle (s.wallet, s.wss) items := by
  induction items generalizing s with
  | nil => simp [loadLoop, loadTrace]
  | cons item items ih =>
    cases item with
    | record key value =>
      rcases hr : readKeyValue handle key value (s.wallet, s.wss) with ⟨ok, strType, st⟩
      obtain ⟨hst, -, -⟩ := loadRecord_accumulators handle hr
      rw [loadLoop, ih, hst]
      simp [loadTrace, hr]
    | error => simp [loadLoop, loadTrace]
    | thrown => simp [loadLoop, loadTrace]

/-- The loop's status is `CORRUPT` once an outcome corrupts, and its error flag is set once a
record of another type fails. -/
theorem loadLoop_accumulators {s s' : LoadState W} {items : List CursorItem}
    (h : loadLoop handle s items = some s') :
    s'.result = (if (loadTrace handle (s.wallet, s.wss) items).any ReadOutcome.corrupting then
      .corrupt else s.result) ∧
    s'.fNoncriticalErrors = (s.fNoncriticalErrors ||
      (loadTrace handle (s.wallet, s.wss) items).any ReadOutcome.noncritical) := by
  induction items generalizing s with
  | nil =>
    cases h
    simp [loadTrace]
  | cons item items ih =>
    cases item with
    | record key value =>
      rcases hr : readKeyValue handle key value (s.wallet, s.wss) with ⟨ok, strType, st⟩
      obtain ⟨hst, hres, hnc⟩ := loadRecord_accumulators handle hr
      obtain ⟨ih1, ih2⟩ := ih h
      rw [hst, hres, hnc] at *
      simp only [loadTrace, hr, List.any_cons]
      refine ⟨?_, by rw [ih2, Bool.or_assoc]⟩
      rw [ih1]
      cases ReadOutcome.corrupting _ <;> simp
    | error => cases h
    | thrown =>
      cases h
      simp [loadTrace, ReadOutcome.corrupting, ReadOutcome.noncritical]

/-! ## LoadWallet's status -/

/-- After the loop, a `CORRUPT` status is returned as it is, and a non-critical error on a clean
status is returned as `NONCRITICAL_ERROR`. -/
theorem loadWalletTail_of_flags (reorder : W → DBErrors)
    (listAll : Except ListError (List CAccountingEntry)) {s : LoadState W} {c n : Bool}
    (hres : s.result = if c then .corrupt else .loadOk) (hnc : s.fNoncriticalErrors = n) :
    (c = true → loadWalletTail reorder listAll s = .ok .corrupt) ∧
    (c = false → n = true → loadWalletTail reorder listAll s = .ok .nonCriticalError) := by
  constructor
  · rintro rfl
    simp [loadWalletTail, hres]
  · rintro rfl rfl
    simp [loadWalletTail, hres, hnc]

/-- `LoadWallet` returns `CORRUPT` once an outcome of its reads corrupts, and `NONCRITICAL_ERROR`
once a record of another type fails and none corrupts. -/
theorem loadWallet_of_any (reorder : W → DBErrors)
    (listAll : Except ListError (List CAccountingEntry)) (minVersion : Option Int)
    (clientVersion : Int) (wallet : W) (cursor : Option (List CursorItem)) :
    let trace := loadWalletTrace handle minVersion clientVersion wallet cursor
    let status := loadWallet handle reorder listAll minVersion clientVersion wallet cursor
    (trace.any ReadOutcome.corrupting = true → status = .ok .corrupt) ∧
    (trace.any ReadOutcome.corrupting = false → trace.any ReadOutcome.noncritical = true →
      status = .ok .nonCriticalError) := by
  intro trace status
  simp only [trace, status, loadWalletTrace, loadWallet]
  split
  · simp
  · split
    · simp [ReadOutcome.corrupting]
    · rename_i items
      split
      · rename_i hl
        have hc := (loadLoop_eq_none_iff handle _ items).1 hl
        exact ⟨fun _ => rfl, fun h => (List.any_eq_false.1 h _ hc rfl).elim⟩
      · rename_i s hl
        obtain ⟨hres, hnc⟩ := loadLoop_accumulators handle hl
        exact loadWalletTail_of_flags reorder listAll hres (by simpa using hnc)

/-- An outcome that neither corrupts nor is a non-critical failure is a read that succeeded. -/
theorem ReadOutcome.eq_read_true {o : ReadOutcome} (hc : o.corrupting = false)
    (hn : o.noncritical = false) : ∃ strType, o = .read strType true := by
  cases o with
  | read strType ok =>
    cases ok
    · by_cases hm : strType ∈ keyRecordTypes <;>
        simp [ReadOutcome.corrupting, ReadOutcome.noncritical, hm] at hc hn
    · exact ⟨strType, rfl⟩
  | cursorError => cases hc
  | thrown => cases hc

theorem loadWallet_status (reorder : W → DBErrors)
    (listAll : Except ListError (List CAccountingEntry)) (minVersion : Option Int)
    (clientVersion : Int) (wallet : W) (cursor : Option (List CursorItem)) :
    let trace := loadWalletTrace handle minVersion clientVersion wallet cursor
    let status := loadWallet handle reorder listAll minVersion clientVersion wallet cursor
    ((∃ o ∈ trace, o.corrupting) → status = .ok .corrupt) ∧
    ((∃ o ∈ trace, o.noncritical) → (∀ o ∈ trace, o.corrupting = false) →
      status = .ok .nonCriticalError) ∧
    (∀ r, status = .ok r → r ≠ .corrupt → r ≠ .nonCriticalError →
      ∀ o ∈ trace, ∃ strType, o = .read strType true) := by
  intro trace status
  obtain ⟨hcor, hnon⟩ := loadWallet_of_any handle reorder listAll minVersion clientVersion wallet
    cursor
  refine ⟨fun h => hcor (List.any_eq_true.2 h), fun h hc => hnon ?_ (List.any_eq_true.2 h), ?_⟩
  · exact List.any_eq_false.2 fun o ho => by simp [hc o ho]
  intro r hr hc hn o ho
  have hcf : trace.any ReadOutcome.corrupting = false := by
    by_contra h
    exact hc (Except.ok.inj (hr.symm.trans (hcor (by simpa using h))))
  have hnf : trace.any ReadOutcome.noncritical = false := by
    by_contra h
    exact hn (Except.ok.inj (hr.symm.trans (hnon hcf (by simpa using h))))
  exact ReadOutcome.eq_read_true (by simpa using List.any_eq_false.1 hcf o ho)
    (by simpa using List.any_eq_false.1 hnf o ho)

/-- A failed `"name"` record and then a failed `"ckey"` record: the lost key wins. -/
example : loadWallet (fun _ _ _ st => (false, st)) (fun _ => .loadOk) (.ok []) none 0 ()
    (some [.record (writeString (ascii "name")) [], .record (writeString (ascii "ckey")) []]) =
      .ok .corrupt := by rfl

end DeVault.Wallet
