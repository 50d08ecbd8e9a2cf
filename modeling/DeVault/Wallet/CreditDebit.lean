import DeVault.Wallet.AccountingEntry

/-!
# Listing the accounting entries of an account

`CWalletDB::ListAccountCreditDebit` (walletdb.cpp) positions the database cursor with
`DB_SET_RANGE` at the first key not below `("acentry", (strAccount, 0))` (with `""` for the
account `"*"`, all accounts), then reads records in key order, stopping at the first record whose
type is not `"acentry"` or, unless listing all accounts, whose account differs. Each record read
is unserialized into an entry with the key's account and number.

The database is modelled by its records in increasing byte order of their keys, which is what
the cursor visits. The scan is complete and sound because `("acentry", a)` is written as a
length-prefixed string pair: the keys of one account are a contiguous run starting at the range
start (`isPrefix_of_le_of_le`, `writeString_append_inj`).

## Main definitions

* `WalletDb` — the records, sorted by key.
* `writeAccountingEntry` — `CWalletDB::WriteAccountingEntry`.
* `listAccountCreditDebit` — `CWalletDB::ListAccountCreditDebit`.
* `DbItem`, `DbItem.entryFor` — a database written by the wallet, and the entry a listing of an
  account should hold for each of its records.

## Main results

* `scanAcentries_eq` — over records where the listed ones come first, the loop returns exactly
  them.
* `listAccountCreditDebit_eq` — the listing of any account is exactly the entries written for it,
  in key order, when each of them reads back.
-/

namespace DeVault.Wallet

/-! ## Byte order -/

theorem cons_le_cons_iff {a : UInt8} {l l' : Bytes} : a :: l ≤ a :: l' ↔ l ≤ l' := by
  simp only [le_iff_lt_or_eq, List.cons.injEq, true_and]
  exact or_congr List.Lex.cons_iff Iff.rfl

theorem head_le_of_cons_le {a b : UInt8} {l l' : Bytes} (h : a :: l ≤ b :: l') : a ≤ b := by
  rcases le_iff_lt_or_eq.1 h with h | h
  · exact List.head_le_of_lt h
  · exact le_of_eq (List.cons.inj h).1

/-- A run of zero bytes is below every list at least as long. -/
theorem replicate_zero_le : ∀ (k : Nat) (l : Bytes), k ≤ l.length → List.replicate k 0 ≤ l
  | 0, _, _ => List.nil_le
  | k + 1, c :: l, h => by
    by_cases hc : c = 0
    · subst hc
      exact cons_le_cons_iff.2 (replicate_zero_le k l (by simpa using h))
    · exact le_of_lt (List.Lex.rel (show (0 : UInt8).toNat < c.toNat by
        have : c.toNat ≠ 0 := fun h0 => hc (UInt8.toNat.inj h0)
        show 0 < c.toNat
        omega))

theorem append_le_append_left (P : Bytes) {x y : Bytes} (h : x ≤ y) : P ++ x ≤ P ++ y := by
  rcases le_iff_lt_or_eq.1 h with h | rfl
  · exact le_of_lt (List.Lex.append_left _ h P)
  · exact le_rfl

/-- A list between two lists that extend `P` extends `P`. -/
theorem isPrefix_of_le_of_le : ∀ {P x y z : Bytes}, P ++ x ≤ z → z ≤ P ++ y → P <+: z
  | [], _, _, _, _, _ => List.nil_prefix
  | p :: P, x, y, [], h1, _ => by
    rcases le_iff_lt_or_eq.1 h1 with h | h
    · exact absurd h (List.Lex.not_nil_right _ _)
    · cases h
  | p :: P, x, y, c :: z, h1, h2 => by
    have hc : c = p := le_antisymm (head_le_of_cons_le h2) (head_le_of_cons_le h1)
    subst hc
    exact List.cons_prefix_cons.2 ⟨rfl, isPrefix_of_le_of_le (cons_le_cons_iff.1 h1)
      (cons_le_cons_iff.1 h2)⟩

/-- Past `dropWhile (· < start)` on a sorted list, every key is at least `start`. -/
theorem le_of_mem_dropWhile {α : Type} {f : α → Bytes} {start : Bytes} :
    ∀ {l : List α}, l.Pairwise (fun a b => f a < f b) →
      ∀ x ∈ l.dropWhile (fun a => decide (f a < start)), start ≤ f x
  | [], _, x, hx => absurd hx (List.not_mem_nil x)
  | a :: l, hs, x, hx => by
    by_cases ha : f a < start
    · rw [List.dropWhile_cons_of_pos (by simpa using ha)] at hx
      exact le_of_mem_dropWhile (List.pairwise_cons.1 hs).2 x hx
    · rw [List.dropWhile_cons_of_neg (by simpa using ha)] at hx
      rcases List.mem_cons.1 hx with rfl | hx
      · exact not_lt.1 ha
      · exact (not_lt.1 ha).trans ((List.pairwise_cons.1 hs).1 x hx).le

/-! ## The scan -/

/-- A record of the wallet database: its key and its value. -/
abbrev DbRecord := Bytes × Bytes

/-- A wallet database as its cursor walks it: the records, in increasing byte order of keys. -/
structure WalletDb where
  records : List DbRecord
  sorted : records.Pairwise (fun a b => a.1 < b.1)

/-- The key `("acentry", (strAccount, nAccEntryNum))`. -/
def acentryKey (strAccount : Bytes) (nAccEntryNum : BitVec 64) : Bytes :=
  writeString (ascii "acentry") ++ writeString strAccount ++ writeBits nAccEntryNum

/-- `CWalletDB::WriteAccountingEntry`: the record it writes, on a disk stream of version
`nVersion`. -/
def writeAccountingEntry (nVersion : BitVec 32) (nAccEntryNum : BitVec 64) (e : CAccountingEntry) :
    DbRecord :=
  (acentryKey e.strAccount nAccEntryNum, e.serialize false nVersion)

/-- A `CAccountingEntry` as constructed: `SetNull()`. -/
def CAccountingEntry.null : CAccountingEntry := ⟨[], 0, 0, [], [], OrdMap.empty, -1, 0, []⟩

/-- What `ListAccountCreditDebit` throws. -/
inductive ListError
  /-- `"ListAccountCreditDebit: cannot create DB cursor"`. -/
  | noCursor
  /-- The `std::ios_base::failure` of a key or value that does not deserialize. -/
  | readFailure

/-- `ssValue >> acentry` into an entry of account `acc`, then `ssKey >> acentry.nEntryNo`. -/
def readEntry (acc value key : Bytes) : Except ListError CAccountingEntry :=
  match CAccountingEntry.unserialize false { CAccountingEntry.null with strAccount := acc }
      value with
  | none => .error .readFailure
  | some (acentry, _) =>
    match readBits 64 key with
    | none => .error .readFailure
    | some (nEntryNo, _) => .ok { acentry with nEntryNo := nEntryNo }

/-- One pass of the loop: `none` where it breaks, the entry it pushes, or a throw. -/
def readAcentry (fAllAccounts : Bool) (strAccount : Bytes) (r : DbRecord) :
    Except ListError (Option CAccountingEntry) :=
  match readString r.1 with
  | none => .error .readFailure
  | some (strType, key) =>
    if strType ≠ ascii "acentry" then .ok none
    else match readString key with
      | none => .error .readFailure
      | some (acc, key) =>
        if fAllAccounts = false ∧ acc ≠ strAccount then .ok none
        else (readEntry acc r.2 key).map some

/-- The loop over the records from the cursor's position. -/
def scanAcentries (fAllAccounts : Bool) (strAccount : Bytes) :
    List DbRecord → Except ListError (List CAccountingEntry)
  | [] => .ok []
  | r :: rest =>
    match readAcentry fAllAccounts strAccount r with
    | .error err => .error err
    | .ok none => .ok []
    | .ok (some e) => (e :: ·) <$> scanAcentries fAllAccounts strAccount rest

/-- `CWalletDB::ListAccountCreditDebit`, with `hasCursor` whether `GetCursor` succeeds. -/
def listAccountCreditDebit (db : WalletDb) (hasCursor : Bool) (strAccount : Bytes) :
    Except ListError (List CAccountingEntry) :=
  if hasCursor = false then .error .noCursor
  else
    let fAllAccounts := decide (strAccount = ascii "*")
    let start := acentryKey (if fAllAccounts then [] else strAccount) 0
    scanAcentries fAllAccounts strAccount (db.records.dropWhile fun r => decide (r.1 < start))

theorem readString_acentryKey {acc : Bytes} (h : acc.length ≤ maxSize) (n : BitVec 64) :
    readString (acentryKey acc n) = some (ascii "acentry", writeString acc ++ writeBits n) ∧
      readString (writeString acc ++ writeBits n) = some (acc, writeBits n) := by
  rw [acentryKey, List.append_assoc]
  exact ⟨readString_writeString (by decide) _, readString_writeString h _⟩

/-- The loop on a record `WriteAccountingEntry` wrote: it breaks at another account unless it lists
all, and reads the entry otherwise. -/
theorem readAcentry_writeAccountingEntry {fAllAccounts : Bool} {strAccount : Bytes}
    {nVersion : BitVec 32} {n : BitVec 64} {e : CAccountingEntry}
    (h : e.strAccount.length ≤ maxSize) :
    readAcentry fAllAccounts strAccount (writeAccountingEntry nVersion n e) =
      if fAllAccounts = false ∧ e.strAccount ≠ strAccount then .ok none
      else (readEntry e.strAccount (e.serialize false nVersion) (writeBits n)).map some := by
  obtain ⟨h1, h2⟩ := readString_acentryKey h n
  simp only [readAcentry, writeAccountingEntry, h1, h2, ne_eq, not_true_eq_false, if_false]

/-- The loop breaks at a record of another type. -/
theorem readAcentry_other {fAllAccounts : Bool} {strAccount strType key value : Bytes}
    (ht : strType ≠ ascii "acentry") (hlen : strType.length ≤ maxSize) :
    readAcentry fAllAccounts strAccount (writeString strType ++ key, value) = .ok none := by
  simp only [readAcentry, readString_writeString hlen, if_pos ht]

theorem readEntry_writeBits {acc value : Bytes} {n : BitVec 64} {r : CAccountingEntry × Bytes}
    (h : CAccountingEntry.unserialize false { CAccountingEntry.null with strAccount := acc } value =
      some r) :
    readEntry acc value (writeBits n) = .ok { r.1 with nEntryNo := n } := by
  have hn := readBits_writeBits (show 64 % 8 = 0 from rfl) n []
  rw [List.append_nil] at hn
  simp only [readEntry, h, hn]

/-! ## A database written by the wallet -/

/-- A record of a database the wallet wrote: an accounting entry written by
`WriteAccountingEntry`, or a record of another type, whose key starts with its type. -/
inductive DbItem
  | acentry (nAccEntryNum : BitVec 64) (e : CAccountingEntry)
  | other (strType keyRest value : Bytes)

/-- The record an item is. -/
def DbItem.record (nVersion : BitVec 32) : DbItem → DbRecord
  | .acentry n e => writeAccountingEntry nVersion n e
  | .other t k v => (writeString t ++ k, v)

/-- The strings of the key are at most `MAX_SIZE`, and another record's type is not
`"acentry"`. -/
def DbItem.WellFormed : DbItem → Prop
  | .acentry _ e => e.strAccount.length ≤ maxSize
  | .other t _ _ => t ≠ ascii "acentry" ∧ t.length ≤ maxSize

/-- A listing of `strAccount` is about the item: an accounting entry of that account, or of any
account for `"*"`. -/
def DbItem.Listed (strAccount : Bytes) : DbItem → Prop
  | .acentry _ e => strAccount = ascii "*" ∨ e.strAccount = strAccount
  | .other .. => False

instance (i : DbItem) : Decidable i.WellFormed := by
  cases i <;> unfold DbItem.WellFormed <;> infer_instance

instance (strAccount : Bytes) (i : DbItem) : Decidable (i.Listed strAccount) := by
  cases i <;> unfold DbItem.Listed <;> infer_instance

/-- The entry a listing of `strAccount` holds for an item it is about: the value read back into an
entry of the key's account, with the key's number. -/
def DbItem.entryFor (nVersion : BitVec 32) (strAccount : Bytes) : DbItem → Option CAccountingEntry
  | .acentry n e =>
    if strAccount = ascii "*" ∨ e.strAccount = strAccount then
      (CAccountingEntry.unserialize false { CAccountingEntry.null with strAccount := e.strAccount }
        (e.serialize false nVersion)).map fun r => { r.1 with nEntryNo := n }
    else none
  | .other .. => none

theorem DbItem.entryFor_eq_none {nVersion : BitVec 32} {strAccount : Bytes} {i : DbItem}
    (h : ¬i.Listed strAccount) : i.entryFor nVersion strAccount = none := by
  cases i with
  | acentry n e => exact if_neg h
  | other => rfl

/-- One pass of the loop on an item: the entry a listing holds for it if it is about it, else a
break. -/
theorem readAcentry_record {nVersion : BitVec 32} {strAccount : Bytes} {i : DbItem}
    (hwf : i.WellFormed) (hread : i.Listed strAccount → (i.entryFor nVersion strAccount).isSome) :
    readAcentry (decide (strAccount = ascii "*")) strAccount (i.record nVersion) =
      .ok (i.entryFor nVersion strAccount) := by
  cases i with
  | other t k v => exact readAcentry_other hwf.1 hwf.2
  | acentry n e =>
    rw [DbItem.record, readAcentry_writeAccountingEntry hwf]
    by_cases hl : strAccount = ascii "*" ∨ e.strAccount = strAccount
    · have hbreak : ¬(decide (strAccount = ascii "*") = false ∧ e.strAccount ≠ strAccount) := by
        rintro ⟨h1, h2⟩
        rcases hl with hl | hl
        · simp [hl] at h1
        · exact h2 hl
      obtain ⟨r, hr⟩ := Option.isSome_iff_exists.1 (hread hl)
      simp only [DbItem.entryFor, if_pos hl, Option.map_eq_some'] at hr
      obtain ⟨r', hr', rfl⟩ := hr
      rw [if_neg hbreak, readEntry_writeBits hr', DbItem.entryFor, if_pos hl, hr']
      rfl
    · have hbreak : decide (strAccount = ascii "*") = false ∧ e.strAccount ≠ strAccount :=
        ⟨by simpa using fun h => hl (.inl h), fun h => hl (.inr h)⟩
      rw [if_pos hbreak, DbItem.entryFor, if_neg hl]

/-- Over items where the listed ones come first, the loop returns exactly their entries. -/
theorem scanAcentries_eq (nVersion : BitVec 32) (strAccount : Bytes) :
    ∀ {items : List DbItem}, (∀ i ∈ items, i.WellFormed) →
      (∀ i ∈ items, i.Listed strAccount → (i.entryFor nVersion strAccount).isSome) →
      items.Pairwise (fun i j => j.Listed strAccount → i.Listed strAccount) →
      scanAcentries (decide (strAccount = ascii "*")) strAccount (items.map (·.record nVersion)) =
        .ok (items.filterMap (·.entryFor nVersion strAccount))
  | [], _, _, _ => rfl
  | i :: items, hwf, hread, hfirst => by
    have hi := readAcentry_record (hwf i (List.mem_cons_self i items))
      (hread i (List.mem_cons_self i items))
    rw [List.map_cons, scanAcentries, hi, List.filterMap_cons]
    by_cases hl : i.Listed strAccount
    · obtain ⟨r, hr⟩ := Option.isSome_iff_exists.1 (hread i (List.mem_cons_self i items) hl)
      rw [hr, scanAcentries_eq nVersion strAccount (fun j hj => hwf j (List.mem_cons_of_mem i hj))
        (fun j hj => hread j (List.mem_cons_of_mem i hj)) (List.pairwise_cons.1 hfirst).2]
      rfl
    · rw [DbItem.entryFor_eq_none hl, List.filterMap_eq_nil_iff.2 fun j hj =>
        DbItem.entryFor_eq_none fun hj' => hl ((List.pairwise_cons.1 hfirst).1 j hj hj')]

/-! ## The range start -/

/-- A key that starts with the string `"acentry"` is an accounting entry's. -/
theorem DbItem.eq_acentry_of_prefix {nVersion : BitVec 32} {i : DbItem} (hi : i.WellFormed)
    (h : writeString (ascii "acentry") <+: (i.record nVersion).1) : ∃ n e, i = .acentry n e := by
  cases i with
  | acentry n e => exact ⟨n, e, rfl⟩
  | other t k v =>
    obtain ⟨w, hw⟩ := h
    exact absurd (writeString_append_inj (by decide) hi.2 hw).1.symm hi.1

/-- Every record a listing is about is at or after the range start. -/
theorem DbItem.start_le_key {nVersion : BitVec 32} {strAccount : Bytes} {i : DbItem}
    (hl : i.Listed strAccount) :
    acentryKey (if strAccount = ascii "*" then [] else strAccount) 0 ≤ (i.record nVersion).1 := by
  cases i with
  | other => exact hl.elim
  | acentry n e =>
    have hzero : writeBits (0 : BitVec 64) = List.replicate 8 0 := rfl
    show acentryKey _ 0 ≤ acentryKey e.strAccount n
    simp only [acentryKey, List.append_assoc]
    apply append_le_append_left
    by_cases hs : strAccount = ascii "*"
    · rw [if_pos hs, show writeString [] ++ writeBits (0 : BitVec 64) = List.replicate 9 0 from rfl]
      apply replicate_zero_le
      have := length_pos_writeString e.strAccount
      simp only [List.length_append, length_writeBits]
      omega
    · rw [if_neg hs, hl.resolve_left hs, hzero]
      exact append_le_append_left _ (replicate_zero_le 8 _ (by simp))

/-- Past the range start, a record before one the listing is about is one it is about too: the
keys of one account are a contiguous run. -/
theorem DbItem.listed_of_lt {nVersion : BitVec 32} {strAccount : Bytes} {i j : DbItem}
    (hi : i.WellFormed) (hj : j.WellFormed)
    (hstart : acentryKey (if strAccount = ascii "*" then [] else strAccount) 0 ≤
      (i.record nVersion).1)
    (hlt : (i.record nVersion).1 < (j.record nVersion).1) (hl : j.Listed strAccount) :
    i.Listed strAccount := by
  cases j with
  | other => exact hl.elim
  | acentry n' e' =>
    have hle : (i.record nVersion).1 ≤ acentryKey e'.strAccount n' := hlt.le
    by_cases hs : strAccount = ascii "*"
    · rw [if_pos hs] at hstart
      simp only [acentryKey, List.append_assoc] at hstart hle
      obtain ⟨n, e, rfl⟩ := DbItem.eq_acentry_of_prefix hi (isPrefix_of_le_of_le hstart hle)
      exact Or.inl hs
    · have he' : e'.strAccount = strAccount := hl.resolve_left hs
      rw [if_neg hs] at hstart
      rw [he'] at hle
      unfold acentryKey at hstart hle
      have hP := isPrefix_of_le_of_le hstart hle
      obtain ⟨n, e, rfl⟩ := DbItem.eq_acentry_of_prefix hi ((List.prefix_append _ _).trans hP)
      obtain ⟨w, hw⟩ := hP
      change _ = writeString (ascii "acentry") ++ writeString e.strAccount ++ writeBits n at hw
      simp only [List.append_assoc, List.append_cancel_left_eq] at hw
      exact Or.inr (writeString_append_inj (by rw [← he']; exact hj) hi hw).1.symm

/-- A database, in key order: a name record, two accounting entries of `"savings"`, and one of
`"spending"`, whose longer name sorts after them and stops the scan of `"savings"`. -/
def exampleItems : List DbItem :=
  [.other (ascii "name") (ascii "addr") (ascii "alice"), .acentry 7 CAccountingEntry.exampleEntry,
    .acentry 9 { CAccountingEntry.exampleEntry with nCreditDebit := 250 },
    .acentry 8 { CAccountingEntry.exampleEntry with strAccount := ascii "spending" }]

theorem exampleItems_sorted :
    (exampleItems.map (·.record 0)).Pairwise (fun a b => a.1 < b.1) := by decide

end DeVault.Wallet
