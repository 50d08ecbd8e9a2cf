import Mathlib.Data.List.Basic

/-!
# Rescan reservations

`WalletRescanReserver` (wallet.h) is an RAII object: `reserve()` takes the wallet's
`fScanningWallet` flag if it is clear and records that in `m_could_reserve`, and the destructor
clears the flag when `m_could_reserve` is set. Each step runs under `mutexScanning`, so a run is a
sequence of steps on the wallet's flag and the reservers alive on it.

## Main results

* `rescan_mutual_exclusion` — along every run, at most one live reserver holds the reservation,
  the flag is set exactly when one does, no other reserver can then reserve, and destroying a
  reserver that holds nothing leaves the flag alone.
-/

namespace DeVault.Wallet

/-- The wallet's `fScanningWallet` and its reservers by creation order: `some b` for a live one
with `m_could_reserve = b`, `none` for a destroyed one. -/
structure RescanState where
  fScanningWallet : Bool
  reservers : List (Option Bool)

/-- A new wallet: not scanning, no reservers. -/
def RescanState.init : RescanState := ⟨false, []⟩

/-- The steps of a run: constructing a reserver, `reserve()` and the destructor of reserver `i`. -/
inductive RescanOp
  | construct
  | reserve (i : Nat)
  | destroy (i : Nat)

/-- `WalletRescanReserver::reserve`; `none` on its `assert(!m_could_reserve)` or for a reserver
that is not alive. -/
def reserve (st : RescanState) (i : Nat) : Option (Bool × RescanState) :=
  match st.reservers[i]? with
  | some (some couldReserve) =>
    if couldReserve then none
    else if st.fScanningWallet then some (false, st)
    else some (true, ⟨true, st.reservers.set i (some true)⟩)
  | _ => none

/-- `~WalletRescanReserver`; `none` for a reserver that is not alive. -/
def destroy (st : RescanState) (i : Nat) : Option RescanState :=
  match st.reservers[i]? with
  | some (some couldReserve) =>
    some ⟨if couldReserve then false else st.fScanningWallet, st.reservers.set i none⟩
  | _ => none

/-- `WalletRescanReserver::isReserved`. -/
def isReserved (st : RescanState) (i : Nat) : Bool :=
  match st.reservers[i]? with
  | some (some couldReserve) => couldReserve && st.fScanningWallet
  | _ => false

/-- One step; `none` where the source would abort or use a dead object. -/
def RescanState.step (st : RescanState) : RescanOp → Option RescanState
  | .construct => some ⟨st.fScanningWallet, st.reservers ++ [some false]⟩
  | .reserve i => (reserve st i).map Prod.snd
  | .destroy i => destroy st i

/-- A run of steps. -/
def RescanState.run : RescanState → List RescanOp → Option RescanState
  | st, [] => some st
  | st, op :: ops =>
    match st.step op with
    | none => none
    | some st' => RescanState.run st' ops

/-- Reserver `i` is alive and holds the reservation. -/
def Holds (st : RescanState) (i : Nat) : Prop := st.reservers[i]? = some (some true)

/-- At most one live reserver holds the reservation, and the wallet is scanning exactly when one
does. -/
def MutualExclusion (st : RescanState) : Prop :=
  (∀ i j, Holds st i → Holds st j → i = j) ∧ (st.fScanningWallet = true ↔ ∃ i, Holds st i)

/-! ## One step -/

theorem holds_set {l : List (Option Bool)} {i j : Nat} {a : Option Bool} (hi : i < l.length) :
    (l.set i a)[j]? = some (some true) ↔
      (i = j ∧ a = some true) ∨ (i ≠ j ∧ l[j]? = some (some true)) := by
  rw [List.getElem?_set]
  by_cases hij : i = j
  · subst hij; simp [hi]
  · simp [hij]

theorem construct_mutualExclusion {st : RescanState} (h : MutualExclusion st) :
    MutualExclusion ⟨st.fScanningWallet, st.reservers ++ [some false]⟩ := by
  have hh : ∀ j, Holds ⟨st.fScanningWallet, st.reservers ++ [some false]⟩ j ↔ Holds st j := by
    intro j
    simp only [Holds, List.getElem?_append]
    split
    · rfl
    · rename_i hj
      rw [List.getElem?_eq_none (Nat.le_of_not_lt hj)]
      generalize j - st.reservers.length = k
      cases k <;> simp
  exact ⟨fun i j hi hj => h.1 i j ((hh i).1 hi) ((hh j).1 hj),
    h.2.trans (exists_congr fun j => (hh j).symm)⟩

theorem reserve_mutualExclusion {st st' : RescanState} {i : Nat} {r : Bool}
    (h : MutualExclusion st) (hr : reserve st i = some (r, st')) : MutualExclusion st' := by
  unfold reserve at hr
  split at hr
  · rename_i couldReserve hi
    have hlen : i < st.reservers.length := (List.getElem?_eq_some_iff.1 hi).1
    split_ifs at hr with hc hs
    · cases hr; exact h
    · cases hr
      have hnone : ∀ j, ¬Holds st j := fun j hj => hs (h.2.2 ⟨j, hj⟩)
      have hh : ∀ j, Holds ⟨true, st.reservers.set i (some true)⟩ j ↔ j = i := by
        intro j
        simp only [Holds, holds_set hlen]
        constructor
        · rintro (⟨rfl, -⟩ | ⟨-, hj⟩)
          · rfl
          · exact absurd hj (hnone j)
        · rintro rfl; simp
      exact ⟨fun a b ha hb => ((hh a).1 ha).trans ((hh b).1 hb).symm,
        ⟨fun _ => ⟨i, (hh i).2 rfl⟩, fun _ => rfl⟩⟩
  · cases hr

theorem destroy_mutualExclusion {st st' : RescanState} {i : Nat} (h : MutualExclusion st)
    (hd : destroy st i = some st') : MutualExclusion st' := by
  unfold destroy at hd
  split at hd
  · rename_i couldReserve hi
    have hlen : i < st.reservers.length := (List.getElem?_eq_some_iff.1 hi).1
    cases hd
    have hh : ∀ j, Holds ⟨if couldReserve then false else st.fScanningWallet,
        st.reservers.set i none⟩ j ↔ i ≠ j ∧ Holds st j := by
      intro j
      simp only [Holds, holds_set hlen, reduceCtorEq, and_false, false_or]
    refine ⟨fun a b ha hb => h.1 a b ((hh a).1 ha).2 ((hh b).1 hb).2, ?_⟩
    cases couldReserve
    · -- the reserver held nothing: the flag and the holders stay
      rw [if_neg Bool.false_ne_true, h.2]
      refine exists_congr fun j =>
        ⟨fun hj => (hh j).2 ⟨fun hij => ?_, hj⟩, fun hj => ((hh j).1 hj).2⟩
      subst hij
      rw [Holds, hi] at hj
      cases hj
    · -- the holder goes, and with it the only reservation
      simp only [if_true, Bool.false_eq_true, false_iff, not_exists]
      intro j hj
      obtain ⟨hij, hj⟩ := (hh j).1 hj
      exact hij (h.1 i j hi hj)
  · cases hd

theorem step_mutualExclusion {st st' : RescanState} {op : RescanOp} (h : MutualExclusion st)
    (hs : st.step op = some st') : MutualExclusion st' := by
  cases op with
  | construct => cases hs; exact construct_mutualExclusion h
  | reserve i =>
    obtain ⟨⟨r, st''⟩, hr, rfl⟩ := Option.map_eq_some'.1 hs
    exact reserve_mutualExclusion h hr
  | destroy i => exact destroy_mutualExclusion h hs

theorem run_mutualExclusion :
    ∀ {st st' : RescanState} {ops : List RescanOp}, MutualExclusion st →
      st.run ops = some st' → MutualExclusion st'
  | st, st', [], h, hr => by cases hr; exact h
  | st, st', op :: ops, h, hr => by
    simp only [RescanState.run] at hr
    split at hr
    · cases hr
    · exact run_mutualExclusion (step_mutualExclusion h ‹_›) hr

/-! ## Runs -/

theorem init_mutualExclusion : MutualExclusion RescanState.init :=
  ⟨fun i _ hi => by simp [Holds, RescanState.init] at hi,
    ⟨nofun, fun ⟨i, hi⟩ => by simp [Holds, RescanState.init] at hi⟩⟩

/-- Along every run of constructions, reservations and destructions on one wallet: at most one
live reserver holds the reservation and the wallet is scanning exactly when one does; while one
holds it, `reserve()` of any other reserver fails; and destroying a reserver that holds nothing
leaves the wallet's flag as it was. -/
theorem rescan_mutual_exclusion {ops : List RescanOp} {st : RescanState}
    (h : RescanState.init.run ops = some st) :
    (∀ i j, Holds st i → Holds st j → i = j) ∧
    (st.fScanningWallet = true ↔ ∃ i, Holds st i) ∧
    (∀ i j, Holds st i → i ≠ j → ∀ r st', reserve st j = some (r, st') → r = false) ∧
    (∀ i st', st.reservers[i]? = some (some false) → destroy st i = some st' →
      st'.fScanningWallet = st.fScanningWallet) := by
  have hme := run_mutualExclusion init_mutualExclusion h
  refine ⟨hme.1, hme.2, fun i j hi _ r st' hr => ?_, fun i st' hi hd => ?_⟩
  · have hscan := hme.2.2 ⟨i, hi⟩
    unfold reserve at hr
    split at hr
    · split_ifs at hr
      cases hr; rfl
    · cases hr
  · simp only [destroy, hi, Option.some.injEq] at hd
    rw [← hd]
    rfl

theorem rescan_mutual_exclusion_two_reservers :
    (∀ i j, Holds ⟨true, [some true, some false]⟩ i → Holds ⟨true, [some true, some false]⟩ j →
      i = j) ∧
    ((true = true) ↔ ∃ i, Holds ⟨true, [some true, some false]⟩ i) ∧
    (∀ i j, Holds ⟨true, [some true, some false]⟩ i → i ≠ j → ∀ r st',
      reserve ⟨true, [some true, some false]⟩ j = some (r, st') → r = false) ∧
    (∀ i st', ([some true, some false] : List (Option Bool))[i]? = some (some false) →
      destroy ⟨true, [some true, some false]⟩ i = some st' → st'.fScanningWallet = true) :=
  rescan_mutual_exclusion (show RescanState.init.run [.construct, .construct, .reserve 0] =
    some ⟨true, [some true, some false]⟩ from rfl)

end DeVault.Wallet
