import Mathlib

/-!
# Erasing selected wallet transactions

`CWalletDB::ZapSelectTx` (walletdb.cpp) reads the ids of the wallet's transactions with
`FindWalletTx`, sorts them and the requested ids, and walks both with a two-pointer loop, erasing
each wallet transaction whose id it meets in the requested list and appending that id to
`txIdsOut`. The loop's invariant: every requested id before the pointer is smaller than the
current wallet id, so a requested id the pointer skips is in no later place of the wallet list.

## Main results

* `zapSelectLoop_eq` — the loop erases exactly the wallet ids that are requested, in order.
* `zapSelectTx_erases_requested` — `ZapSelectTx` erases each requested wallet transaction once,
  in increasing order, and nothing else.
-/

namespace DeVault.Wallet

/-- `DBErrors`. -/
inductive DBErrors
  | loadOk | corrupt | nonCriticalError | tooNew | loadFail | needRewrite
  deriving DecidableEq, Repr

/-- A read at the wallet database cursor: a record with its type string, the id its key carries
after the type, and whether its value deserializes; or a read error. -/
inductive CursorRead (TxId : Type)
  | record (strType : String) (txid : TxId) (valueOk : Bool)
  | error

variable {TxId : Type} [LinearOrder TxId]

/-- The cursor loop of `FindWalletTx`: the ids of the `"tx"` records, in cursor order. -/
def scanTxRecords : List (CursorRead TxId) → Except DBErrors (List TxId)
  | [] => .ok []
  | .error :: _ => .error .corrupt
  | .record strType txid valueOk :: rest =>
    if strType = "tx" then
      if valueOk then (txid :: ·) <$> scanTxRecords rest else .error .corrupt
    else scanTxRecords rest

/-- `CWalletDB::FindWalletTx`: a database written by a newer client, a missing cursor, a failed
read or an unreadable transaction fail; otherwise the ids of the wallet's transactions. -/
def findWalletTx (minVersion : Option Int) (clientVersion : Int)
    (cursor : Option (List (CursorRead TxId))) : Except DBErrors (List TxId) :=
  if minVersion.any (· > clientVersion) then .error .tooNew
  else match cursor with
    | none => .error .corrupt
    | some reads => scanTxRecords reads

/-- The two-pointer loop of `ZapSelectTx` over the sorted wallet ids, with `it` the requested ids
from the pointer on: the ids it erases, in order, and whether an `EraseTx` failed. -/
def zapSelectLoop (eraseTx : TxId → Bool) : List TxId → List TxId → List TxId × Bool
  | [], _ => ([], false)
  | txid :: rest, it =>
    match it.dropWhile (fun x => decide (x < txid)) with
    | [] => ([], false)
    | x :: xs =>
      if x = txid then
        let r := zapSelectLoop eraseTx rest (x :: xs)
        (txid :: r.1, !eraseTx txid || r.2)
      else zapSelectLoop eraseTx rest (x :: xs)

/-- What `ZapSelectTx` returns, the `EraseTx` calls it makes, and its two vectors after the call:
`txIdsIn` is sorted in place. -/
structure ZapResult (TxId : Type) where
  status : DBErrors
  erased : List TxId
  txIdsIn : List TxId
  txIdsOut : List TxId

/-- `CWalletDB::ZapSelectTx`, with the database read by `findWalletTx` and `eraseTx` the outcome of
each `EraseTx`. -/
def zapSelectTx (minVersion : Option Int) (clientVersion : Int)
    (cursor : Option (List (CursorRead TxId))) (eraseTx : TxId → Bool)
    (txIdsIn txIdsOut : List TxId) : ZapResult TxId :=
  match findWalletTx minVersion clientVersion cursor with
  | .error err => ⟨err, [], txIdsIn, txIdsOut⟩
  | .ok txIds =>
    let sortedIds := txIds.mergeSort (fun a b => decide (a ≤ b))
    let sortedIn := txIdsIn.mergeSort (fun a b => decide (a ≤ b))
    let r := zapSelectLoop eraseTx sortedIds sortedIn
    ⟨if r.2 then .corrupt else .loadOk, r.1, sortedIn, txIdsOut ++ r.1⟩

/-! ## The loop -/

/-- Skipping the requested ids below `t` loses none of those at least `t`. -/
theorem mem_dropWhile_lt {l : List TxId} {t w : TxId} (hw : t ≤ w) :
    w ∈ l.dropWhile (fun x => decide (x < t)) ↔ w ∈ l := by
  refine ⟨fun h => (List.dropWhile_suffix _).subset h, fun h => ?_⟩
  rw [← List.takeWhile_append_dropWhile (fun x => decide (x < t)) l, List.mem_append] at h
  refine h.resolve_left fun h' => not_lt.2 hw ?_
  exact of_decide_eq_true (List.mem_takeWhile_imp (p := fun x => decide (x < t)) h')

/-- Over wallet ids at least `t`, being requested from the pointer on is being requested. -/
theorem filter_mem_dropWhile_lt {ws it : List TxId} {t : TxId} (h : ∀ w ∈ ws, t ≤ w) :
    ws.filter (fun w => decide (w ∈ it.dropWhile (fun x => decide (x < t)))) =
      ws.filter (fun w => decide (w ∈ it)) :=
  List.filter_congr fun w hw => decide_eq_decide.2 (mem_dropWhile_lt (h w hw))

/-- The requested id the pointer stops at is at least `t`. -/
theorem le_of_dropWhile_lt_eq_cons {it xs : List TxId} {t x : TxId}
    (hd : it.dropWhile (fun y => decide (y < t)) = x :: xs) : t ≤ x := by
  have := List.head_dropWhile_not (fun y => decide (y < t)) it (by simp [hd])
  simpa [hd] using this

theorem zapSelectLoop_eq (eraseTx : TxId → Bool) :
    ∀ {ws it : List TxId}, ws.Pairwise (· < ·) → it.Pairwise (· ≤ ·) →
      zapSelectLoop eraseTx ws it =
        (ws.filter (fun w => decide (w ∈ it)),
          (ws.filter (fun w => decide (w ∈ it))).any (fun w => !eraseTx w))
  | [], _, _, _ => rfl
  | t :: rest, it, hw, hit => by
    rw [List.pairwise_cons] at hw
    have hge : ∀ w ∈ t :: rest, t ≤ w := fun w hw' =>
      (List.mem_cons.1 hw').elim (fun h => h ▸ le_refl t) fun h => le_of_lt (hw.1 w h)
    have hsorted : (it.dropWhile (fun x => decide (x < t))).Pairwise (· ≤ ·) :=
      hit.sublist (List.dropWhile_sublist _)
    rw [← filter_mem_dropWhile_lt hge, zapSelectLoop]
    split
    · -- no requested id is left
      rename_i hd
      simp [hd]
    · rename_i x xs hd
      have hx := le_of_dropWhile_lt_eq_cons hd
      rw [hd] at hsorted ⊢
      rw [zapSelectLoop_eq eraseTx hw.2 hsorted]
      split_ifs with hxt
      · -- the pointer is at `t`: it is erased
        subst hxt
        rw [List.filter_cons_of_pos (by simp), List.any_cons]
      · -- the pointer is past `t`: it was not requested
        have ht : t ∉ x :: xs := fun ht => (List.mem_cons.1 ht).elim (fun h => hxt h.symm)
          fun h => not_le.2 (lt_of_le_of_ne hx (Ne.symm hxt)) ((List.pairwise_cons.1 hsorted).1 t h)
        rw [List.filter_cons_of_neg (by rwa [decide_eq_true_iff])]

/-! ## ZapSelectTx -/

/-- `std::sort` of a list of ids: a permutation of it, in non-decreasing order. -/
theorem sort_ids (l : List TxId) :
    (l.mergeSort (fun a b => decide (a ≤ b))).Pairwise (· ≤ ·) ∧
      List.Perm (l.mergeSort (fun a b => decide (a ≤ b))) l := by
  refine ⟨?_, List.mergeSort_perm _ _⟩
  have h : (l.mergeSort (fun a b => decide (a ≤ b))).Pairwise (fun a b => decide (a ≤ b) = true) :=
    @List.sorted_mergeSort TxId (fun a b => decide (a ≤ b))
      (fun a b c hab hbc => decide_eq_true (le_trans (of_decide_eq_true hab) (of_decide_eq_true hbc)))
      (fun a b => by simp [le_total a b]) l
  exact h.imp (of_decide_eq_true ·)

/-- For any wallet ids `FindWalletTx` returns (distinct, being database keys) and any requested
ids, `ZapSelectTx` calls `EraseTx` exactly on the wallet ids that are requested, each once and in
increasing order, and appends exactly those to `txIdsOut`. -/
theorem zapSelectTx_erases_requested {minVersion : Option Int} {clientVersion : Int}
    {cursor : Option (List (CursorRead TxId))} {txIds : List TxId}
    (hfound : findWalletTx minVersion clientVersion cursor = .ok txIds) (hdistinct : txIds.Nodup)
    (eraseTx : TxId → Bool) (txIdsIn txIdsOut : List TxId) :
    (zapSelectTx minVersion clientVersion cursor eraseTx txIdsIn txIdsOut).erased =
        (txIds.mergeSort (fun a b => decide (a ≤ b))).filter (fun w => decide (w ∈ txIdsIn)) ∧
      (zapSelectTx minVersion clientVersion cursor eraseTx txIdsIn txIdsOut).erased.Pairwise (· < ·) ∧
      (∀ t, t ∈ (zapSelectTx minVersion clientVersion cursor eraseTx txIdsIn txIdsOut).erased ↔
        t ∈ txIds ∧ t ∈ txIdsIn) ∧
      (zapSelectTx minVersion clientVersion cursor eraseTx txIdsIn txIdsOut).txIdsOut =
        txIdsOut ++ (zapSelectTx minVersion clientVersion cursor eraseTx txIdsIn txIdsOut).erased := by
  obtain ⟨hsorted, hperm⟩ := sort_ids txIds
  obtain ⟨hsortedIn, hpermIn⟩ := sort_ids txIdsIn
  have hstrict : (txIds.mergeSort (fun a b => decide (a ≤ b))).Pairwise (· < ·) :=
    (hsorted.and (hperm.nodup_iff.2 hdistinct)).imp fun h => lt_of_le_of_ne h.1 h.2
  have herased : (zapSelectTx minVersion clientVersion cursor eraseTx txIdsIn txIdsOut).erased =
      (txIds.mergeSort (fun a b => decide (a ≤ b))).filter (fun w => decide (w ∈ txIdsIn)) := by
    simp only [zapSelectTx, hfound, zapSelectLoop_eq eraseTx hstrict hsortedIn]
    exact List.filter_congr fun w _ => decide_eq_decide.2 hpermIn.mem_iff
  refine ⟨herased, ?_, fun t => ?_, ?_⟩
  · rw [herased]; exact hstrict.filter _
  · rw [herased, List.mem_filter, hperm.mem_iff, decide_eq_true_iff]
  · simp only [zapSelectTx, hfound]

theorem zapSelectTx_erases_requested_example :
    (zapSelectTx none 0 (some [.record "tx" 3 true, .record "name" 0 true, .record "tx" 1 true])
        (fun _ => true) [3, 2, 3] []).erased =
        (([3, 1] : List Nat).mergeSort (fun a b => decide (a ≤ b))).filter
          (fun w => decide (w ∈ [3, 2, 3])) ∧
      (zapSelectTx none 0 (some [.record "tx" 3 true, .record "name" 0 true, .record "tx" 1 true])
        (fun _ => true) [3, 2, 3] []).erased.Pairwise (· < ·) ∧
      (∀ t, t ∈ (zapSelectTx none 0
          (some [.record "tx" 3 true, .record "name" 0 true, .record "tx" 1 true])
          (fun _ => true) [3, 2, 3] []).erased ↔ t ∈ [3, 1] ∧ t ∈ [3, 2, 3]) ∧
      (zapSelectTx none 0 (some [.record "tx" 3 true, .record "name" 0 true, .record "tx" 1 true])
        (fun _ => true) [3, 2, 3] []).txIdsOut =
        [] ++ (zapSelectTx none 0
          (some [.record "tx" 3 true, .record "name" 0 true, .record "tx" 1 true])
          (fun _ => true) [3, 2, 3] []).erased :=
  zapSelectTx_erases_requested (show findWalletTx none 0
    (some [.record "tx" 3 true, .record "name" 0 true, .record "tx" 1 true]) = .ok [3, 1] from rfl)
    (by decide) _ _ _

end DeVault.Wallet
