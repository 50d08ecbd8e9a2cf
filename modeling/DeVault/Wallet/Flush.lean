import Mathlib.Data.List.Basic
import Mathlib.Order.Basic

/-!
# Periodic flushing of the wallet databases

`MaybeCompactWalletDB` (walletdb.cpp) runs on the scheduler thread every half second. For each
wallet it notes when the database's update counter last changed, and it flushes the database
once the counter has stood still for two seconds and differs from the value last flushed. Each
successful `WriteIC` or `EraseIC` (walletdb.h) moves the counter. The `static std::atomic<bool>
fOneThread` keeps two calls from overlapping; the early return for `-flushwallet` off leaves it
set.

What the source calls but does not define is an input: `IncrementUpdateCounter` (`increment`),
`GetTime()` (the time of each call, read once per call), `PeriodicFlush` (`flushOk`: whether it
succeeds for each wallet), and `-flushwallet`. A write happens between two calls.

## Main results

* `compactOne_flushes_iff` — a wallet is flushed exactly when its counter is the one the call
  before saw, has not been flushed, and was first seen two seconds ago or more.
* `flush_after_writes_stop` — once the writes to a wallet stop, the first call two seconds after
  the one that sees its last counter has it flushed, if `PeriodicFlush` succeeds then.
* `flush_at_most_once` — a flushed wallet is not flushed again before its next write.
* `no_flush_after_flushwallet_off` — after a call that finds `-flushwallet` off, no call flushes
  anything.
-/

namespace DeVault.Wallet

/-- The fields of `CWalletDBWrapper` (db.h) that `MaybeCompactWalletDB` reads and writes:
`unsigned int` counters and the `int64_t` time of the last change seen. -/
structure CWalletDBWrapper where
  nUpdateCounter : UInt32
  nLastSeen : UInt32
  nLastFlushed : UInt32
  nLastWalletUpdate : Int

/-- One wallet of the loop of `MaybeCompactWalletDB` at time `nTime`, `PeriodicFlush` returning
`flushOk`: the handle after it, and whether `PeriodicFlush` was called. -/
def compactOne (nTime : Int) (flushOk : Bool) (dbh : CWalletDBWrapper) :
    CWalletDBWrapper × Bool :=
  let nUpdateCounter := dbh.nUpdateCounter
  let dbh := if dbh.nLastSeen ≠ nUpdateCounter then
      { dbh with nLastSeen := nUpdateCounter, nLastWalletUpdate := nTime }
    else dbh
  if dbh.nLastFlushed ≠ nUpdateCounter ∧ nTime - dbh.nLastWalletUpdate ≥ 2 then
    (if flushOk then { dbh with nLastFlushed := nUpdateCounter } else dbh, true)
  else (dbh, false)

/-- `fOneThread` and the handles of `vpwallets`. -/
structure CompactState where
  fOneThread : Bool
  wallets : List CWalletDBWrapper

/-- `MaybeCompactWalletDB`: the state after it, and which wallets it called `PeriodicFlush` on.
`fOneThread.exchange(true)` returns the old value; the return for `-flushwallet` off leaves the
flag set. -/
def maybeCompactWalletDB (flushwallet : Bool) (nTime : Int) (flushOk : Nat → Bool)
    (st : CompactState) : CompactState × List Bool :=
  if st.fOneThread then (st, st.wallets.map fun _ => false)
  else if !flushwallet then ({ st with fOneThread := true }, st.wallets.map fun _ => false)
  else
    (⟨false, st.wallets.mapIdx fun i dbh => (compactOne nTime (flushOk i) dbh).1⟩,
      st.wallets.mapIdx fun i dbh => (compactOne nTime (flushOk i) dbh).2)

/-- `CWalletDB::WriteIC` and `CWalletDB::EraseIC` on wallet `i`: when `batch.Write` or
`batch.Erase` succeeds (`ok`), `IncrementUpdateCounter`. -/
def writeIC (increment : UInt32 → UInt32) (ok : Bool) (i : Nat) (st : CompactState) :
    Bool × CompactState :=
  if ok then
    (true, { st with
      wallets := st.wallets.modify
        (fun dbh => { dbh with nUpdateCounter := increment dbh.nUpdateCounter }) i })
  else (false, st)

/-- The events of a run: a write to a wallet, and a call of `MaybeCompactWalletDB`. -/
inductive FlushOp
  | write (ok : Bool) (i : Nat)
  | compact (flushwallet : Bool) (nTime : Int) (flushOk : Nat → Bool)

variable (increment : UInt32 → UInt32)

/-- One event: the state after it, and the wallets it flushed. -/
def FlushOp.step (st : CompactState) : FlushOp → CompactState × List Bool
  | .write ok i => ((writeIC increment ok i st).2, [])
  | .compact flushwallet nTime flushOk => maybeCompactWalletDB flushwallet nTime flushOk st

/-- The state after a run. -/
def runFlush : CompactState → List FlushOp → CompactState
  | st, [] => st
  | st, op :: ops => runFlush (op.step increment st).1 ops

/-- How many times a run called `PeriodicFlush` on wallet `i`. -/
def flushCount (i : Nat) : CompactState → List FlushOp → Nat
  | _, [] => 0
  | st, op :: ops =>
    (if (op.step increment st).2[i]? = some true then 1 else 0) +
      flushCount i (op.step increment st).1 ops

/-- Whether an event is a successful write to wallet `i`. -/
def FlushOp.writesTo (i : Nat) : FlushOp → Bool
  | .write ok j => ok && j == i
  | .compact .. => false

/-- Whether an event is a call that finds `-flushwallet` off. -/
def FlushOp.turnsOff : FlushOp → Bool
  | .write .. => false
  | .compact flushwallet .. => !flushwallet

/-- Whether `PeriodicFlush` would succeed on wallet `i` at an event; a write calls none. -/
def FlushOp.flushSucceeds (i : Nat) : FlushOp → Bool
  | .write .. => true
  | .compact _ _ flushOk => flushOk i

/-! ## One wallet at one call -/

/-- `PeriodicFlush` is called exactly when the counter is the one the call before saw, has not
been flushed, and was first seen two seconds ago or more: a counter seen for the first time is
never flushed at once. -/
theorem compactOne_flushes_iff (nTime : Int) (flushOk : Bool) (dbh : CWalletDBWrapper) :
    (compactOne nTime flushOk dbh).2 = true ↔
      dbh.nLastSeen = dbh.nUpdateCounter ∧ dbh.nLastFlushed ≠ dbh.nUpdateCounter ∧
        nTime - dbh.nLastWalletUpdate ≥ 2 := by
  simp only [compactOne]
  by_cases hs : dbh.nLastSeen = dbh.nUpdateCounter
  · rw [if_neg (not_not.2 hs)]
    by_cases hc : dbh.nLastFlushed ≠ dbh.nUpdateCounter ∧ nTime - dbh.nLastWalletUpdate ≥ 2
    · rw [if_pos hc]; exact iff_of_true rfl ⟨hs, hc⟩
    · rw [if_neg hc]; exact iff_of_false Bool.false_ne_true fun h => hc h.2
  · -- a counter seen for the first time is stamped with the call's own time
    have hc : ¬(nTime - nTime ≥ 2) := by omega
    rw [if_pos hs]
    simp only [hc, and_false, if_false]
    exact iff_of_false Bool.false_ne_true fun h => hs h.1

@[simp]
theorem compactOne_counter (nTime : Int) (flushOk : Bool) (dbh : CWalletDBWrapper) :
    (compactOne nTime flushOk dbh).1.nUpdateCounter = dbh.nUpdateCounter := by
  simp only [compactOne]; split_ifs <;> rfl

/-- After a call the counter is the one seen, first seen at the call unless it was seen before. -/
theorem compactOne_seen (nTime : Int) (flushOk : Bool) (dbh : CWalletDBWrapper) :
    (compactOne nTime flushOk dbh).1.nLastSeen = dbh.nUpdateCounter ∧
      (compactOne nTime flushOk dbh).1.nLastWalletUpdate =
        if dbh.nLastSeen = dbh.nUpdateCounter then dbh.nLastWalletUpdate else nTime := by
  simp only [compactOne]
  by_cases hs : dbh.nLastSeen = dbh.nUpdateCounter
  · rw [if_neg (not_not.2 hs), if_pos hs]
    split_ifs <;> exact ⟨hs, rfl⟩
  · rw [if_pos hs, if_neg hs]
    split_ifs <;> exact ⟨rfl, rfl⟩

/-- A call records the counter as flushed exactly when it calls `PeriodicFlush` and that
succeeds. -/
theorem compactOne_nLastFlushed (nTime : Int) (flushOk : Bool) (dbh : CWalletDBWrapper) :
    (compactOne nTime flushOk dbh).1.nLastFlushed =
      if (compactOne nTime flushOk dbh).2 ∧ flushOk then dbh.nUpdateCounter
      else dbh.nLastFlushed := by
  simp only [compactOne]
  by_cases hs : dbh.nLastSeen = dbh.nUpdateCounter
  · simp only [if_neg (not_not.2 hs)]
    by_cases hc : dbh.nLastFlushed ≠ dbh.nUpdateCounter ∧ nTime - dbh.nLastWalletUpdate ≥ 2
    · simp only [if_pos hc]; cases flushOk <;> rfl
    · simp only [if_neg hc]; rfl
  · have hc : ¬(nTime - nTime ≥ 2) := by omega
    simp only [if_pos hs, hc, and_false, if_false, Bool.false_eq_true, false_and]

/-- A flushed counter is not flushed again. -/
theorem compactOne_of_flushed (nTime : Int) (flushOk : Bool) {dbh : CWalletDBWrapper}
    (h : dbh.nLastFlushed = dbh.nUpdateCounter) :
    (compactOne nTime flushOk dbh).2 = false ∧
      (compactOne nTime flushOk dbh).1.nLastFlushed = dbh.nUpdateCounter := by
  have hn : (compactOne nTime flushOk dbh).2 = false :=
    Bool.eq_false_iff.2 fun h2 => ((compactOne_flushes_iff nTime flushOk dbh).1 h2).2.1 h
  rw [compactOne_nLastFlushed, hn]
  exact ⟨rfl, by simp [h]⟩

/-! ## One event -/

theorem step_fOneThread (st : CompactState) (op : FlushOp) :
    (op.step increment st).1.fOneThread = (st.fOneThread || op.turnsOff) := by
  obtain ⟨g, ws⟩ := st
  cases op with
  | write ok j => cases ok <;> simp [FlushOp.step, writeIC, FlushOp.turnsOff]
  | compact fw t f => cases g <;> cases fw <;> rfl

theorem write_wallet (st : CompactState) (ok : Bool) (j i : Nat) :
    ((FlushOp.write ok j).step increment st).1.wallets[i]? =
      if (FlushOp.write ok j).writesTo i then
        st.wallets[i]?.map fun dbh => { dbh with nUpdateCounter := increment dbh.nUpdateCounter }
      else st.wallets[i]? := by
  unfold FlushOp.step writeIC FlushOp.writesTo
  by_cases hj : j = i <;> cases ok <;> simp [hj, List.getElem?_modify]

theorem compact_wallet (st : CompactState) (fw : Bool) (t : Int) (f : Nat → Bool) (i : Nat) :
    ((FlushOp.compact fw t f).step increment st).1.wallets[i]? =
      if (st.fOneThread || !fw) = true then st.wallets[i]?
      else st.wallets[i]?.map fun dbh => (compactOne t (f i) dbh).1 := by
  obtain ⟨g, ws⟩ := st
  cases g <;> cases fw <;> simp [FlushOp.step, maybeCompactWalletDB]

theorem compact_flushed (st : CompactState) (fw : Bool) (t : Int) (f : Nat → Bool) (i : Nat) :
    ((FlushOp.compact fw t f).step increment st).2[i]? = some true ↔
      (st.fOneThread || !fw) = false ∧
        ∃ dbh, st.wallets[i]? = some dbh ∧ (compactOne t (f i) dbh).2 = true := by
  obtain ⟨g, ws⟩ := st
  cases g <;> cases fw <;> simp [FlushOp.step, maybeCompactWalletDB, List.getElem?_replicate]

theorem write_not_flushed (st : CompactState) (ok : Bool) (j i : Nat) :
    ((FlushOp.write ok j).step increment st).2[i]? = none := rfl

/-! ## Runs -/

theorem runFlush_append (st : CompactState) (ops ops' : List FlushOp) :
    runFlush increment st (ops ++ ops') = runFlush increment (runFlush increment st ops) ops' := by
  induction ops generalizing st with
  | nil => rfl
  | cons op ops ih => exact ih _

/-- Wallet `i` holds counter `c` and has it flushed. -/
def Flushed (i : Nat) (c : UInt32) (st : CompactState) : Prop :=
  ∃ dbh, st.wallets[i]? = some dbh ∧ dbh.nUpdateCounter = c ∧ dbh.nLastFlushed = c

theorem step_flushed {st : CompactState} {i : Nat} {c : UInt32} (hf : Flushed i c st)
    {op : FlushOp} (hw : op.writesTo i = false) :
    (op.step increment st).2[i]? ≠ some true ∧ Flushed i c (op.step increment st).1 := by
  obtain ⟨dbh, hi, hc, hl⟩ := hf
  cases op with
  | write ok j =>
    refine ⟨by simp [write_not_flushed], dbh, ?_, hc, hl⟩
    rw [write_wallet, hw, hi]; rfl
  | compact fw t f =>
    have h := compactOne_of_flushed t (f i) (hl.trans hc.symm)
    refine ⟨fun h' => ?_, ?_⟩
    · obtain ⟨_, dbh', hi', h2⟩ := (compact_flushed increment st fw t f i).1 h'
      rw [hi] at hi'; cases hi'; simp [h.1] at h2
    · rw [Flushed, compact_wallet, hi]
      split_ifs
      · exact ⟨dbh, rfl, hc, hl⟩
      · exact ⟨_, rfl, by rw [compactOne_counter, hc], h.2.trans hc⟩

theorem flushCount_of_flushed {st : CompactState} {i : Nat} {c : UInt32} {ops : List FlushOp}
    (hf : Flushed i c st) (hops : ∀ op ∈ ops, op.writesTo i = false) :
    flushCount increment i st ops = 0 := by
  induction ops generalizing st with
  | nil => rfl
  | cons op ops ih =>
    obtain ⟨hn, hf'⟩ := step_flushed increment hf (hops op (List.mem_cons_self _ _))
    simp only [flushCount, hn, if_false, ih hf' fun op h => hops op (List.mem_cons_of_mem _ h)]

/-- A call that flushes wallet `i` with `PeriodicFlush` succeeding leaves it flushed. -/
theorem flushed_of_flush {st : CompactState} {i : Nat} {op : FlushOp}
    (h : (op.step increment st).2[i]? = some true) (hs : op.flushSucceeds i = true) :
    ∃ c, Flushed i c (op.step increment st).1 := by
  cases op with
  | write ok j => simp [write_not_flushed] at h
  | compact fw t f =>
    obtain ⟨hg, dbh, hi, h2⟩ := (compact_flushed increment st fw t f i).1 h
    refine ⟨dbh.nUpdateCounter, _, by rw [compact_wallet, hg, hi]; rfl,
      compactOne_counter .., ?_⟩
    rw [compactOne_nLastFlushed, h2]
    simp only [FlushOp.flushSucceeds] at hs
    simp [hs]

/-- Between two writes to a wallet, and with `PeriodicFlush` succeeding, the wallet is flushed at
most once: the flush records the counter in `nLastFlushed`, and the loop skips a wallet whose
counter is recorded. -/
theorem flush_at_most_once (st : CompactState) (i : Nat) {ops : List FlushOp}
    (hops : ∀ op ∈ ops, op.writesTo i = false ∧ op.flushSucceeds i = true) :
    flushCount increment i st ops ≤ 1 := by
  induction ops generalizing st with
  | nil => exact Nat.zero_le _
  | cons op ops ih =>
    have hrest : ∀ op ∈ ops, op.writesTo i = false ∧ op.flushSucceeds i = true :=
      fun op h => hops op (List.mem_cons_of_mem _ h)
    simp only [flushCount]
    split_ifs with h
    · obtain ⟨c, hf⟩ := flushed_of_flush increment h (hops op (List.mem_cons_self _ _)).2
      rw [flushCount_of_flushed increment hf fun op h => (hrest op h).1]
    · simpa using ih _ hrest

theorem flush_at_most_once_idle :
    (∀ op ∈ [FlushOp.compact true 0 fun _ => true, .write true 1, .compact true 2 fun _ => true,
        .compact true 4 fun _ => true], op.writesTo 0 = false ∧ op.flushSucceeds 0 = true) ∧
      flushCount id 0 ⟨false, [⟨3, 2, 1, 0⟩, ⟨0, 0, 0, 0⟩]⟩
        [.compact true 0 fun _ => true, .write true 1, .compact true 2 fun _ => true,
          .compact true 4 fun _ => true] ≤ 1 :=
  ⟨by decide, flush_at_most_once id _ 0 (by decide)⟩

/-- A failing `PeriodicFlush` is retried at every call. -/
example : flushCount id 0 ⟨false, [⟨3, 3, 1, 0⟩]⟩
    [.compact true 5 fun _ => false, .compact true 6 fun _ => false] = 2 := by decide

theorem flushCount_of_fOneThread {st : CompactState} (h : st.fOneThread = true) (i : Nat)
    (ops : List FlushOp) : flushCount increment i st ops = 0 := by
  induction ops generalizing st with
  | nil => rfl
  | cons op ops ih =>
    have hn : (op.step increment st).2[i]? ≠ some true := by
      cases op with
      | write ok j => simp [write_not_flushed]
      | compact fw t f => simp [compact_flushed, h]
    have h' : (op.step increment st).1.fOneThread = true := by rw [step_fOneThread, h, Bool.true_or]
    simp only [flushCount, hn, if_false, ih h', Nat.zero_add]

/-- The return for `-flushwallet` off comes after `fOneThread` is set and does not clear it: once
a call finds the option off, no later call flushes any wallet, whatever the option says then. -/
theorem no_flush_after_flushwallet_off (st : CompactState) (nTime : Int) (flushOk : Nat → Bool)
    (i : Nat) (ops : List FlushOp) :
    flushCount increment i st (.compact false nTime flushOk :: ops) = 0 := by
  have hn : ((FlushOp.compact false nTime flushOk).step increment st).2[i]? ≠ some true := by
    simp [compact_flushed]
  have h' : ((FlushOp.compact false nTime flushOk).step increment st).1.fOneThread = true := by
    rw [step_fOneThread]; exact Bool.or_true _
  simp only [flushCount, hn, if_false, flushCount_of_fOneThread increment h', Nat.zero_add]

/-- The guard is free, wallet `i` holds counter `c`, and the calls have seen `c` since time `τ`
or earlier. -/
def Settled (i : Nat) (c : UInt32) (τ : Int) (st : CompactState) : Prop :=
  st.fOneThread = false ∧ ∃ dbh, st.wallets[i]? = some dbh ∧ dbh.nUpdateCounter = c ∧
    dbh.nLastSeen = c ∧ dbh.nLastWalletUpdate ≤ τ

theorem step_settled {st : CompactState} {i : Nat} {c : UInt32} {τ : Int}
    (hs : Settled i c τ st) {op : FlushOp} (hw : op.writesTo i = false)
    (ho : op.turnsOff = false) : Settled i c τ (op.step increment st).1 := by
  obtain ⟨hg, dbh, hi, hc, hl, hτ⟩ := hs
  refine ⟨by rw [step_fOneThread, hg, ho]; rfl, ?_⟩
  cases op with
  | write ok j => exact ⟨dbh, by rw [write_wallet, hw, hi]; rfl, hc, hl, hτ⟩
  | compact fw t f =>
    simp only [FlushOp.turnsOff, Bool.not_eq_false'] at ho
    obtain ⟨hseen, hlwu⟩ := compactOne_seen t (f i) dbh
    refine ⟨_, by rw [compact_wallet, hg, ho, hi]; rfl, by rw [compactOne_counter, hc],
      hseen.trans hc, ?_⟩
    rw [hlwu, if_pos (hl.trans hc.symm)]
    exact hτ

theorem run_settled {st : CompactState} {i : Nat} {c : UInt32} {τ : Int}
    (hs : Settled i c τ st) {ops : List FlushOp}
    (hops : ∀ op ∈ ops, op.writesTo i = false ∧ op.turnsOff = false) :
    Settled i c τ (runFlush increment st ops) := by
  induction ops generalizing st with
  | nil => exact hs
  | cons op ops ih =>
    have h := hops op (List.mem_cons_self _ _)
    exact ih (step_settled increment hs h.1 h.2) fun op h => hops op (List.mem_cons_of_mem _ h)

/-- The first call sees the wallet's counter, at its own time unless it was seen before. -/
theorem settled_of_compact {st : CompactState} (hg : st.fOneThread = false) {i : Nat}
    {dbh : CWalletDBWrapper} (hi : st.wallets[i]? = some dbh) {nTime : Int}
    (hclock : dbh.nLastSeen = dbh.nUpdateCounter → dbh.nLastWalletUpdate ≤ nTime)
    (flushOk : Nat → Bool) :
    Settled i dbh.nUpdateCounter nTime
      ((FlushOp.compact true nTime flushOk).step increment st).1 := by
  refine ⟨by rw [step_fOneThread, hg]; rfl, (compactOne nTime (flushOk i) dbh).1,
    by rw [compact_wallet, hg, hi]; rfl, compactOne_counter ..,
    (compactOne_seen nTime (flushOk i) dbh).1, ?_⟩
  rw [(compactOne_seen nTime (flushOk i) dbh).2]
  split_ifs with h
  · exact hclock h
  · exact Int.le_refl _

/-- A settled wallet is flushed by a call two seconds on at which `PeriodicFlush` succeeds. -/
theorem flushed_of_settled {st : CompactState} {i : Nat} {c : UInt32} {τ : Int}
    (hs : Settled i c τ st) {nTime : Int} (hlate : τ + 2 ≤ nTime) {flushOk : Nat → Bool}
    (hok : flushOk i = true) :
    Flushed i c ((FlushOp.compact true nTime flushOk).step increment st).1 := by
  obtain ⟨hg, dbh, hi, hc, hl, hτ⟩ := hs
  refine ⟨_, by rw [compact_wallet, hg, hi]; rfl, by rw [compactOne_counter, hc], ?_⟩
  rw [compactOne_nLastFlushed, hok]
  by_cases hf : dbh.nLastFlushed = dbh.nUpdateCounter
  · split_ifs <;> simp only [hc, hf]
  · have h2 : (compactOne nTime true dbh).2 = true :=
      (compactOne_flushes_iff nTime true dbh).2 ⟨hl.trans hc.symm, hf, by omega⟩
    simp [h2, hc]

/-- Once the writes to wallet `i` stop, a call that sees its last counter and a call two seconds
later, with `-flushwallet` on throughout and `PeriodicFlush` succeeding at the second, leave the
wallet flushed at that counter, whatever happens to the other wallets in between. -/
theorem flush_after_writes_stop {st : CompactState} (hg : st.fOneThread = false) {i : Nat}
    {dbh : CWalletDBWrapper} (hi : st.wallets[i]? = some dbh) {t₁ t₂ : Int}
    (hclock : dbh.nLastSeen = dbh.nUpdateCounter → dbh.nLastWalletUpdate ≤ t₁)
    (hlate : t₁ + 2 ≤ t₂) (f₁ : Nat → Bool) {f₂ : Nat → Bool} (hok : f₂ i = true)
    {mids : List FlushOp} (hmids : ∀ op ∈ mids, op.writesTo i = false ∧ op.turnsOff = false) :
    ∃ dbh', (runFlush increment st
        (.compact true t₁ f₁ :: mids ++ [.compact true t₂ f₂])).wallets[i]? = some dbh' ∧
      dbh'.nUpdateCounter = dbh.nUpdateCounter ∧ dbh'.nLastFlushed = dbh.nUpdateCounter := by
  rw [List.cons_append, runFlush, runFlush_append]
  exact flushed_of_settled increment
    (run_settled increment (settled_of_compact increment hg hi hclock f₁) hmids) hlate hok

theorem flush_after_writes_stop_quiet :
    ((2 : UInt32) = 3 → (0 : Int) ≤ 10) ∧ (10 : Int) + 2 ≤ 12 ∧
      (∀ op ∈ [FlushOp.write true 1, .compact true 11 fun _ => false],
        op.writesTo 0 = false ∧ op.turnsOff = false) ∧
      ∃ dbh', (runFlush id ⟨false, [⟨3, 2, 1, 0⟩, ⟨0, 0, 0, 0⟩]⟩
          (.compact true 10 (fun _ => false) :: [.write true 1, .compact true 11 fun _ => false] ++
            [.compact true 12 fun _ => true])).wallets[0]? = some dbh' ∧
        dbh'.nUpdateCounter = 3 ∧ dbh'.nLastFlushed = 3 := by
  refine ⟨by decide, by decide, by decide, ?_⟩
  exact @flush_after_writes_stop id ⟨false, [⟨3, 2, 1, 0⟩, ⟨0, 0, 0, 0⟩]⟩ rfl 0 _ rfl 10 12
    (by decide) (by decide) _ _ rfl
    [.write true 1, .compact true 11 fun _ => false] (by decide)

end DeVault.Wallet
