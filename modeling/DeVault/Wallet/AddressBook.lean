import DeVault.Wallet.WalletDB

/-!
# The address book through the wallet file

`WriteName` and `WritePurpose` (walletdb.cpp) key each record by the destination's CashAddr
encoding. At load, `ReadKeyValue`'s `"name"` and `"purpose"` branches read the address back from
the key, decode it with `DecodeDestination`, and read the value into a field of
`mapAddressBook[dest]`, whose `operator[]` first inserts a `CAddressBookData()`, of purpose
`"unknown"`. So a destination that has only a name record loads with purpose `"unknown"`, one that
has only a purpose record loads with an empty name, and a value whose size does not read (one
above `MAX_SIZE`) leaves the field as the default.

`DecodeDestination` (dstencode.cpp) is not in src/: it is an input, and the results hold for each
one that inverts `EncodeCashAddr` on valid destinations, which the CashAddr decoder does
(`decodeCashAddr_ascii_encodeCashAddr`). The other branches of `ReadKeyValue` are an input too;
of them only `"destdata"`, through `LoadDestData` (outside src/), writes to `mapAddressBook`.

## Main definitions

* `readAddressBook` — the `"name"` and `"purpose"` branches of `ReadKeyValue`.
* `bookRecords` — what the writers leave for each destination: the name and the purpose written
  last and not erased since.
* `loadedEntry` — the entry such records load as.

## Main results

* `run_bookInv` — along every run of writers, the file's address-book records are exactly those
  `bookRecords` says.
* `load_address_book` — loading a file written by any run of writers without `WriteDestData`
  gives every destination the entry its last name and purpose writes make.
-/

namespace DeVault.Wallet

open DeVault.CashAddr

/-- The fields of `CAddressBookData` (wallet.h) the address-book records fill; `destdata` is
filled by `LoadDestData` only. -/
structure CAddressBookData where
  name : Bytes
  purpose : Bytes
  deriving DecidableEq

/-- `CAddressBookData()`. -/
def CAddressBookData.default : CAddressBookData := ⟨[], ascii "unknown"⟩

/-- `mapAddressBook`, as a function. -/
abbrev AddressBook := CTxDestination → Option CAddressBookData

/-- The part of `CWallet` the address-book branches load into, and the rest of it. -/
structure CWallet (R : Type) where
  mapAddressBook : AddressBook
  rest : R

/-- `ssValue >> str` on a string holding `old`: a size that does not read throws before `str`
changes; a size with too few bytes after it throws after `str.resize(nSize)`. -/
def readInto (old value : Bytes) : Bool × Bytes :=
  match readCompactSize value with
  | none => (false, old)
  | some (nSize, s) =>
    if nSize ≤ s.length then (true, s.take nSize)
    else (false, old.take nSize ++ List.replicate (nSize - old.length) 0)

section Load

variable (decodeDestination : Bytes → CTxDestination)

/-- `ssKey >> strAddress; ssValue >> mapAddressBook[DecodeDestination(strAddress)].field`, the
field read by `get` and written by `set`. -/
def loadAddressField (get : CAddressBookData → Bytes)
    (set : CAddressBookData → Bytes → CAddressBookData) (keyRest value : Bytes)
    (book : AddressBook) : Bool × AddressBook :=
  match readString keyRest with
  | none => (false, book)
  | some (strAddress, _) =>
    let dest := decodeDestination strAddress
    let entry := (book dest).getD .default
    let r := readInto (get entry) value
    (r.1, Function.update book dest (some (set entry r.2)))

/-- The `"name"` branch. -/
def loadName : Bytes → Bytes → AddressBook → Bool × AddressBook :=
  loadAddressField decodeDestination CAddressBookData.name fun e v => { e with name := v }

/-- The `"purpose"` branch. -/
def loadPurpose : Bytes → Bytes → AddressBook → Bool × AddressBook :=
  loadAddressField decodeDestination CAddressBookData.purpose fun e v => { e with purpose := v }

variable {R : Type}

/-- The `"name"` and `"purpose"` branches of `ReadKeyValue`, in front of the others (`other`). -/
def readAddressBook (other : KeyValueHandler (CWallet R)) : KeyValueHandler (CWallet R) :=
  fun strType keyRest value st =>
    if strType = ascii "name" then
      let r := loadName decodeDestination keyRest value st.1.mapAddressBook
      (r.1, { st.1 with mapAddressBook := r.2 }, st.2)
    else if strType = ascii "purpose" then
      let r := loadPurpose decodeDestination keyRest value st.1.mapAddressBook
      (r.1, { st.1 with mapAddressBook := r.2 }, st.2)
    else other strType keyRest value st

/-- What a record does to the address book at load. -/
def bookEffect (key value : Bytes) (book : AddressBook) : AddressBook :=
  match readStrType key with
  | .error _ => book
  | .ok (strType, keyRest) =>
    if strType = ascii "name" then (loadName decodeDestination keyRest value book).2
    else if strType = ascii "purpose" then (loadPurpose decodeDestination keyRest value book).2
    else book

end Load

/-! ## What the writers leave -/

/-- For each destination, the name and the purpose records the file holds. -/
abbrev BookRecords := CTxDestination → Option Bytes × Option Bytes

/-- What a writer does to the address-book records. -/
def WalletDBOp.bookStep : WalletDBOp → BookRecords → BookRecords
  | .writeName ok address strName, b =>
    if ok && isValidDestination address then Function.update b address (some strName, (b address).2)
    else b
  | .eraseName ok address, b =>
    if ok && isValidDestination address then Function.update b address (none, (b address).2)
    else b
  | .writePurpose ok address strPurpose, b =>
    if ok && isValidDestination address then
      Function.update b address ((b address).1, some strPurpose)
    else b
  | .erasePurpose ok address, b =>
    if ok && isValidDestination address then Function.update b address ((b address).1, none)
    else b
  | _, b => b

/-- The records a run of writers leaves, from a file with none. -/
def bookRecords (ops : List WalletDBOp) : BookRecords :=
  ops.foldl (fun b op => op.bookStep b) fun _ => (none, none)

/-- The field a record loads as: its value if the size reads, else the default. -/
def loadedField (v : Option Bytes) (dflt : Bytes) : Bytes :=
  match v with
  | some v => if v.length ≤ maxSize then v else dflt
  | none => dflt

/-- The entry a destination's records load as. -/
def loadedEntry (r : Option Bytes × Option Bytes) : Option CAddressBookData :=
  if r.1.isNone && r.2.isNone then none
  else some ⟨loadedField r.1 [], loadedField r.2 (ascii "unknown")⟩

/-- The record types whose branches write to `mapAddressBook`. -/
def addressTypes : List Bytes := [ascii "name", ascii "purpose", ascii "destdata"]

/-- The name or purpose value a writer writes. -/
def WalletDBOp.bookValue : WalletDBOp → Option Bytes
  | .writeName _ _ strName => some strName
  | .writePurpose _ _ strPurpose => some strPurpose
  | _ => none

/-- Whether a writer is `WriteDestData`. -/
def WalletDBOp.isWriteDestData : WalletDBOp → Bool
  | .writeDestData .. => true
  | _ => false

/-! ## Keys of address-book records -/

section Keys

variable {params : CChainParams} (hkey : ∀ d, (encodeCashAddr d params).length ≤ maxSize)

include hkey in
theorem readString_encodeCashAddr (d : CTxDestination) :
    readString (writeString (ascii (encodeCashAddr d params))) =
      some (ascii (encodeCashAddr d params), []) := by
  simpa using readString_writeString ((length_ascii _).trans_le (hkey d)) []

theorem recordType_addressKey {t : String} (ht : t.length ≤ maxSize) (d : CTxDestination) :
    recordType (addressKey params t d) = some (ascii t) :=
  recordType_recordKey ht _

theorem readStrType_addressKey {t : String} (ht : t.length ≤ maxSize) (d : CTxDestination) :
    readStrType (addressKey params t d) =
      .ok (ascii t, writeString (ascii (encodeCashAddr d params))) :=
  readStrType_recordKey ht _

theorem nameKey_ne_purposeKey (d d' : CTxDestination) :
    addressKey params "name" d ≠ addressKey params "purpose" d' := fun h => by
  have h₁ : recordType (addressKey params "name" d) = some (ascii "name") :=
    recordType_addressKey (by decide) d
  have h₂ : recordType (addressKey params "purpose" d') = some (ascii "purpose") :=
    recordType_addressKey (by decide) d'
  rw [h] at h₁
  exact absurd (Option.some.inj (h₁.symm.trans h₂)) (by decide)

variable {decodeDestination : Bytes → CTxDestination}
  (hdec : ∀ d, isValidDestination d = true →
    decodeDestination (ascii (encodeCashAddr d params)) = d)

include hkey hdec in
/-- Two valid destinations with the same record key are equal. -/
theorem addressKey_inj {t : String} {d d' : CTxDestination} (hd : isValidDestination d = true)
    (hd' : isValidDestination d' = true) (h : addressKey params t d = addressKey params t d') :
    d = d' := by
  have hw : writeString (ascii (encodeCashAddr d params)) ++ [] =
      writeString (ascii (encodeCashAddr d' params)) ++ [] := by
    simpa using List.append_cancel_left h
  have ha := (writeString_append_inj ((length_ascii _).trans_le (hkey d))
    ((length_ascii _).trans_le (hkey d')) hw).1
  rw [← hdec d hd, ← hdec d' hd', ha]

end Keys

/-! ## The file along a run of writers -/

section Invariant

variable (params : CChainParams)

/-- The file's address-book records: under each valid destination's keys, the values `b` gives;
every record of an address-book type is keyed by a valid destination's name or purpose key; and
the values are of sizes a compact size can carry. -/
structure BookInv (b : BookRecords) (db : WalletFile) : Prop where
  name : ∀ d, isValidDestination d = true →
    db.find? (addressKey params "name" d) = (b d).1.map writeString
  purpose : ∀ d, isValidDestination d = true →
    db.find? (addressKey params "purpose" d) = (b d).2.map writeString
  invalid : ∀ d, isValidDestination d = false → b d = (none, none)
  keys : ∀ e ∈ db.entries, ∀ t ∈ addressTypes, recordType e.1 = some t →
    ∃ d, isValidDestination d = true ∧
      (e.1 = addressKey params "name" d ∨ e.1 = addressKey params "purpose" d)
  small : ∀ d, (∀ v ∈ (b d).1, v.length < 2 ^ 64) ∧ ∀ v ∈ (b d).2, v.length < 2 ^ 64

/-- A call that leaves the address-book records alone: a write of another type, or an erase of a
key that is neither a name nor a purpose key. -/
def DBCall.SparesBook : DBCall → Prop
  | .write key _ _ => ∀ t ∈ addressTypes, recordType key ≠ some t
  | .erase key => recordType key ≠ some (ascii "name") ∧ recordType key ≠ some (ascii "purpose")

variable {params}

theorem DBCall.run_bookInv {c : DBCall} (hc : c.SparesBook) (ok : Bool) {b : BookRecords}
    {db : WalletFile} (h : BookInv params b db) : BookInv params b (c.run ok db).2 := by
  have hname : ∀ d, recordType (addressKey params "name" d) = some (ascii "name") :=
    recordType_addressKey (by decide)
  have hpurpose : ∀ d, recordType (addressKey params "purpose" d) = some (ascii "purpose") :=
    recordType_addressKey (by decide)
  cases c with
  | write key value fOverwrite =>
    simp only [DBCall.run]
    split_ifs
    · refine ⟨fun d hd => ?_, fun d hd => ?_, h.invalid, fun e he t ht hte => ?_, h.small⟩
      · rw [OrdMap.find?_insert, if_neg fun hk => hc (ascii "name") (by simp [addressTypes])
          (by rw [← hk]; exact hname d), h.name d hd]
      · rw [OrdMap.find?_insert, if_neg fun hk => hc (ascii "purpose") (by simp [addressTypes])
          (by rw [← hk]; exact hpurpose d), h.purpose d hd]
      · rcases OrdMap.mem_insert_entries he with rfl | he
        · exact absurd hte (hc t ht)
        · exact h.keys e he t ht hte
    · exact h
  | erase key =>
    simp only [DBCall.run]
    split_ifs
    · refine ⟨fun d hd => ?_, fun d hd => ?_, h.invalid,
        fun e he => h.keys e (OrdMap.mem_erase_entries he), h.small⟩
      · rw [OrdMap.find?_erase, if_neg fun hk => hc.1 (by rw [← hk]; exact hname d), h.name d hd]
      · rw [OrdMap.find?_erase, if_neg fun hk => hc.2 (by rw [← hk]; exact hpurpose d),
          h.purpose d hd]
    · exact h

/-- Whether a writer writes or erases an address-book record. -/
def WalletDBOp.isBookWrite : WalletDBOp → Bool
  | .writeName .. | .eraseName .. | .writePurpose .. | .erasePurpose .. | .writeDestData .. => true
  | _ => false

/-- A record type differs from every address type exactly when it is not one of them. -/
theorem forall_addressTypes_ne (s : Bytes) :
    (∀ t ∈ addressTypes, some s ≠ some t) ↔ s ∉ addressTypes := by
  simp only [ne_eq, Option.some.injEq]
  exact ⟨fun h hs => h s hs rfl, fun h t ht hst => h (hst ▸ ht)⟩

theorem WalletDBOp.calls_spareBook (nVersion : BitVec 32) (emptyLocator : Bytes)
    (keyMetaOf : Bytes → Bytes) {op : WalletDBOp} (hop : op.isBookWrite = false) :
    ∀ c ∈ op.calls params nVersion emptyLocator keyMetaOf, c.2.SparesBook := by
  cases op with
  | writeName | eraseName | writePurpose | erasePurpose | writeDestData =>
    simp [WalletDBOp.isBookWrite] at hop
  | writePoolVector keys index =>
    simp only [WalletDBOp.calls, List.mem_map]
    rintro _ ⟨_, _, rfl⟩
    simp (disch := decide) only [DBCall.SparesBook, recordType_recordKey, forall_addressTypes_ne]
    decide
  | writeHDPubKeys keys =>
    simp only [WalletDBOp.calls, List.mem_flatMap, List.mem_cons, List.mem_singleton,
      List.not_mem_nil, or_false]
    rintro _ ⟨_, _, rfl | rfl⟩ <;> simp (disch := decide) only [DBCall.SparesBook,
      recordType_recordKey, forall_addressTypes_ne] <;> decide
  | _ =>
    simp (disch := decide) only [WalletDBOp.calls, Wallet.writeAccountingEntry, acentryKey_eq,
      List.mem_cons, List.mem_singleton, List.not_mem_nil, or_false, forall_eq_or_imp,
      forall_eq, DBCall.SparesBook, recordType_recordKey, recordType_typeKey,
      forall_addressTypes_ne]
    decide

section Step

variable (hkey : ∀ d, (encodeCashAddr d params).length ≤ maxSize)
  {decodeDestination : Bytes → CTxDestination}
  (hdec : ∀ d, isValidDestination d = true →
    decodeDestination (ascii (encodeCashAddr d params)) = d)

include hkey hdec in
/-- Setting a valid destination's name record to `o` keeps the invariant. -/
theorem BookInv.setName {b : BookRecords} {db db' : WalletFile} (h : BookInv params b db)
    {d : CTxDestination} (hd : isValidDestination d = true) {o : Option Bytes}
    (ho : ∀ v ∈ o, v.length < 2 ^ 64)
    (hself : db'.find? (addressKey params "name" d) = o.map writeString)
    (hfind : ∀ k, k ≠ addressKey params "name" d → db'.find? k = db.find? k)
    (hent : ∀ e ∈ db'.entries, e.1 = addressKey params "name" d ∨ e ∈ db.entries) :
    BookInv params (Function.update b d (o, (b d).2)) db' := by
  refine ⟨fun d' hd' => ?_, fun d' hd' => ?_, fun d' hd' => ?_, fun e he t ht hte => ?_,
    fun d' => ?_⟩
  · by_cases hdd : d' = d
    · subst hdd; rw [Function.update_same]; exact hself
    · rw [hfind _ fun hk => hdd (addressKey_inj hkey hdec hd' hd hk),
        Function.update_noteq hdd, h.name d' hd']
  · rw [hfind _ (nameKey_ne_purposeKey d d').symm]
    by_cases hdd : d' = d
    · subst hdd; rw [Function.update_same]; exact h.purpose d' hd'
    · rw [Function.update_noteq hdd, h.purpose d' hd']
  · rw [Function.update_noteq (by rintro rfl; simp [hd] at hd'), h.invalid d' hd']
  · rcases hent e he with he | he
    · exact ⟨d, hd, .inl he⟩
    · exact h.keys e he t ht hte
  · by_cases hdd : d' = d
    · subst hdd; rw [Function.update_same]; exact ⟨ho, (h.small d').2⟩
    · rw [Function.update_noteq hdd]; exact h.small d'

include hkey hdec in
/-- Setting a valid destination's purpose record to `o` keeps the invariant. -/
theorem BookInv.setPurpose {b : BookRecords} {db db' : WalletFile} (h : BookInv params b db)
    {d : CTxDestination} (hd : isValidDestination d = true) {o : Option Bytes}
    (ho : ∀ v ∈ o, v.length < 2 ^ 64)
    (hself : db'.find? (addressKey params "purpose" d) = o.map writeString)
    (hfind : ∀ k, k ≠ addressKey params "purpose" d → db'.find? k = db.find? k)
    (hent : ∀ e ∈ db'.entries, e.1 = addressKey params "purpose" d ∨ e ∈ db.entries) :
    BookInv params (Function.update b d ((b d).1, o)) db' := by
  refine ⟨fun d' hd' => ?_, fun d' hd' => ?_, fun d' hd' => ?_, fun e he t ht hte => ?_,
    fun d' => ?_⟩
  · rw [hfind _ (nameKey_ne_purposeKey d' d)]
    by_cases hdd : d' = d
    · subst hdd; rw [Function.update_same]; exact h.name d' hd'
    · rw [Function.update_noteq hdd, h.name d' hd']
  · by_cases hdd : d' = d
    · subst hdd; rw [Function.update_same]; exact hself
    · rw [hfind _ fun hk => hdd (addressKey_inj hkey hdec hd' hd hk),
        Function.update_noteq hdd, h.purpose d' hd']
  · rw [Function.update_noteq (by rintro rfl; simp [hd] at hd'), h.invalid d' hd']
  · rcases hent e he with he | he
    · exact ⟨d, hd, .inr he⟩
    · exact h.keys e he t ht hte
  · by_cases hdd : d' = d
    · subst hdd; rw [Function.update_same]; exact ⟨(h.small d').1, ho⟩
    · rw [Function.update_noteq hdd]; exact h.small d'

include hkey hdec in
/-- One writer: the address-book writers set their record as `bookStep` says, and the others leave
the address-book records alone. -/
theorem WalletDBOp.step_bookInv (nVersion : BitVec 32) (emptyLocator : Bytes)
    (keyMetaOf : Bytes → Bytes) {op : WalletDBOp} (hw : op.isWriteDestData = false)
    (hv : ∀ v ∈ op.bookValue, v.length < 2 ^ 64) {b : BookRecords} {db : WalletFile}
    (h : BookInv params b db) :
    BookInv params (op.bookStep b) (op.step params nVersion emptyLocator keyMetaOf db).2 := by
  have ins : ∀ {key v}, ∀ e ∈ (db.insert key v).entries, e.1 = key ∨ e ∈ db.entries :=
    fun _ he => (OrdMap.mem_insert_entries he).imp_left fun he => by rw [he]
  have era : ∀ {key}, ∀ e ∈ (db.erase key).entries, e.1 = key ∨ e ∈ db.entries :=
    fun _ he => .inr (OrdMap.mem_erase_entries he)
  have insSelf : ∀ {key v}, (db.insert key v).find? key = some v := by simp
  have insOther : ∀ {key v} k, k ≠ key → (db.insert key v).find? k = db.find? k := by
    intro key v k hk; rw [OrdMap.find?_insert, if_neg hk]
  have eraSelf : ∀ {key}, (db.erase key).find? key = none := by simp
  have eraOther : ∀ {key} k, k ≠ key → (db.erase key).find? k = db.find? k := by
    intro key k hk; rw [OrdMap.find?_erase, if_neg hk]
  cases op with
  | writeName ok d n =>
    simp only [WalletDBOp.step, Wallet.writeName, writeAddressRecord, WalletDBOp.bookStep,
      DBCall.run]
    cases hd : isValidDestination d <;> cases ok <;> simp only [hd, Bool.not_false, Bool.not_true,
      Bool.and_false, Bool.and_true, Bool.true_or, if_true, if_false, Bool.false_eq_true] <;>
      first | exact h | exact h.setName hkey hdec hd hv insSelf insOther ins
  | eraseName ok d =>
    simp only [WalletDBOp.step, Wallet.eraseName, eraseAddressRecord, WalletDBOp.bookStep,
      DBCall.run]
    cases hd : isValidDestination d <;> cases ok <;> simp only [hd, Bool.not_false, Bool.not_true,
      Bool.and_false, Bool.and_true, if_true, if_false, Bool.false_eq_true] <;>
      first | exact h | exact h.setName hkey hdec hd (by simp) eraSelf eraOther era
  | writePurpose ok d p =>
    simp only [WalletDBOp.step, Wallet.writePurpose, writeAddressRecord, WalletDBOp.bookStep,
      DBCall.run]
    cases hd : isValidDestination d <;> cases ok <;> simp only [hd, Bool.not_false, Bool.not_true,
      Bool.and_false, Bool.and_true, Bool.true_or, if_true, if_false, Bool.false_eq_true] <;>
      first | exact h | exact h.setPurpose hkey hdec hd hv insSelf insOther ins
  | erasePurpose ok d =>
    simp only [WalletDBOp.step, Wallet.erasePurpose, eraseAddressRecord, WalletDBOp.bookStep,
      DBCall.run]
    cases hd : isValidDestination d <;> cases ok <;> simp only [hd, Bool.not_false, Bool.not_true,
      Bool.and_false, Bool.and_true, if_true, if_false, Bool.false_eq_true] <;>
      first | exact h | exact h.setPurpose hkey hdec hd (by simp) eraSelf eraOther era
  | writeDestData => simp [WalletDBOp.isWriteDestData] at hw
  | _ =>
    refine WalletDBOp.step_preserves (P := BookInv params b) params nVersion emptyLocator keyMetaOf
      _ (fun c hc _ h' => ?_) h
    exact DBCall.run_bookInv
      (WalletDBOp.calls_spareBook nVersion emptyLocator keyMetaOf (by rfl) c hc)
      c.1 h'

include hkey hdec in
theorem run_bookInv_from (nVersion : BitVec 32) (emptyLocator : Bytes)
    (keyMetaOf : Bytes → Bytes) {ops : List WalletDBOp}
    (hops : ∀ op ∈ ops, op.isWriteDestData = false ∧ ∀ v ∈ op.bookValue, v.length < 2 ^ 64)
    {b : BookRecords} {db : WalletFile} (h : BookInv params b db) :
    BookInv params (ops.foldl (fun b op => op.bookStep b) b)
      (runWalletDB params nVersion emptyLocator keyMetaOf ops db) := by
  induction ops generalizing b db with
  | nil => exact h
  | cons op ops ih =>
    have hop := hops op (List.mem_cons_self _ _)
    exact ih (fun op' h' => hops op' (List.mem_cons_of_mem _ h'))
      (WalletDBOp.step_bookInv hkey hdec nVersion emptyLocator keyMetaOf hop.1 hop.2 h)

end Step

/-- A file with no address-book record has none of what `bookRecords []` says. -/
theorem bookInv_empty {db : WalletFile}
    (hdb : ∀ e ∈ db.entries, ∀ t ∈ addressTypes, recordType e.1 ≠ some t) :
    BookInv params (fun _ => (none, none)) db := by
  have hnone : ∀ t ∈ addressTypes, ∀ {s : String}, ascii s = t → s.length ≤ maxSize →
      ∀ d, db.find? (addressKey params s d) = none := by
    intro t ht s hs hl d
    cases hf : db.find? (addressKey params s d) with
    | none => rfl
    | some v =>
      exact absurd (recordType_addressKey hl d) (hs ▸ hdb _ (OrdMap.mem_entries_iff.2 hf) t ht)
  refine ⟨fun d _ => hnone _ (by simp [addressTypes]) rfl (by decide) d,
    fun d _ => hnone _ (by simp [addressTypes]) rfl (by decide) d, fun _ _ => rfl,
    fun e he t ht hte => absurd hte (hdb e he t ht), fun _ => by simp⟩

end Invariant

/-! ## Loading the file -/

section Loading

variable {params : CChainParams} (hkey : ∀ d, (encodeCashAddr d params).length ≤ maxSize)
  {decodeDestination : Bytes → CTxDestination}
  (hdec : ∀ d, isValidDestination d = true →
    decodeDestination (ascii (encodeCashAddr d params)) = d)

/-- The field a destination's record, if any, leaves in a field that held `old`. -/
def fieldFrom (v : Option Bytes) (old : Bytes) : Bytes :=
  match v with
  | some v => (readInto old v).2
  | none => old

/-- The entry a destination's name and purpose records, if any, leave in an entry that was
`old`. -/
def entryFrom (nameRec purposeRec : Option Bytes) (old : Option CAddressBookData) :
    Option CAddressBookData :=
  if nameRec.isNone && purposeRec.isNone then old
  else some ⟨fieldFrom nameRec (old.getD .default).name,
    fieldFrom purposeRec (old.getD .default).purpose⟩

include hkey hdec in
theorem bookEffect_nameKey {d : CTxDestination} (hd : isValidDestination d = true) (v : Bytes)
    (book : AddressBook) :
    bookEffect decodeDestination (addressKey params "name" d) v book =
      Function.update book d (some { (book d).getD .default with
        name := (readInto ((book d).getD .default).name v).2 }) := by
  simp only [bookEffect, readStrType_addressKey (show "name".length ≤ maxSize by decide), if_true,
    loadName, loadAddressField, readString_encodeCashAddr hkey, hdec d hd]

include hkey hdec in
theorem bookEffect_purposeKey {d : CTxDestination} (hd : isValidDestination d = true) (v : Bytes)
    (book : AddressBook) :
    bookEffect decodeDestination (addressKey params "purpose" d) v book =
      Function.update book d (some { (book d).getD .default with
        purpose := (readInto ((book d).getD .default).purpose v).2 }) := by
  simp only [bookEffect, readStrType_addressKey (show "purpose".length ≤ maxSize by decide),
    if_neg (show ascii "purpose" ≠ ascii "name" by decide), if_true, loadPurpose,
    loadAddressField, readString_encodeCashAddr hkey, hdec d hd]

theorem bookEffect_of_type {key : Bytes} (hn : recordType key ≠ some (ascii "name"))
    (hp : recordType key ≠ some (ascii "purpose")) (v : Bytes) (book : AddressBook) :
    bookEffect decodeDestination key v book = book := by
  unfold bookEffect
  split
  · rfl
  · rename_i strType keyRest hk
    have ht : recordType key = some strType := by simp [recordType, hk]
    rw [ht] at hn hp
    rw [if_neg (hn ∘ congrArg some), if_neg (hp ∘ congrArg some)]

include hkey hdec in
/-- Loading records whose address-book keys are those of valid destinations, each at most once:
a valid destination gets the entry its name and purpose records make of the one it had, and an
invalid one keeps its own. -/
theorem foldl_bookEffect {es : List (Bytes × Bytes)} (hs : es.Pairwise fun a b => a.1 < b.1)
    (hk : ∀ e ∈ es, recordType e.1 = some (ascii "name") ∨
        recordType e.1 = some (ascii "purpose") →
      ∃ d, isValidDestination d = true ∧
        (e.1 = addressKey params "name" d ∨ e.1 = addressKey params "purpose" d))
    (book : AddressBook) (d : CTxDestination) :
    (es.foldl (fun book e => bookEffect decodeDestination e.1 e.2 book) book) d =
      if isValidDestination d then
        entryFrom ((⟨es, hs⟩ : WalletFile).find? (addressKey params "name" d))
          ((⟨es, hs⟩ : WalletFile).find? (addressKey params "purpose" d)) (book d)
      else book d := by
  induction es generalizing book with
  | nil => split <;> simp [entryFrom, OrdMap.find?]
  | cons e es ih =>
    obtain ⟨a, x⟩ := e
    have hlook : ∀ k, k ≠ a → (⟨(a, x) :: es, hs⟩ : WalletFile).find? k =
        (⟨es, hs.of_cons⟩ : WalletFile).find? k := fun k hk =>
      (OrdMap.lookup_cons_ite a k x es).trans (if_neg hk)
    have hself : (⟨(a, x) :: es, hs⟩ : WalletFile).find? a = some x :=
      (OrdMap.lookup_cons_ite a a x es).trans (if_pos rfl)
    have hnone : (⟨es, hs.of_cons⟩ : WalletFile).find? a = none :=
      OrdMap.lookup_eq_none_of_ne fun e' he' => (List.rel_of_pairwise_cons hs he').ne'
    have hname : ∀ d', recordType (addressKey params "name" d') = some (ascii "name") :=
      recordType_addressKey (by decide)
    have hpurpose : ∀ d', recordType (addressKey params "purpose" d') = some (ascii "purpose") :=
      recordType_addressKey (by decide)
    rw [List.foldl_cons, ih hs.of_cons (fun e' he' => hk e' (List.mem_cons_of_mem _ he'))]
    by_cases ht : recordType a = some (ascii "name") ∨ recordType a = some (ascii "purpose")
    · obtain ⟨d', hd', rfl | rfl⟩ := hk (a, x) (List.mem_cons_self _ _) ht
      · rw [bookEffect_nameKey hkey hdec hd']
        by_cases hdd : d = d'
        · subst hdd
          rw [hd', if_pos rfl, if_pos rfl, hself, hlook _ (nameKey_ne_purposeKey d d).symm, hnone,
            Function.update_same]
          cases (⟨es, hs.of_cons⟩ : WalletFile).find? (addressKey params "purpose" d) <;>
            simp [entryFrom, fieldFrom]
        · rw [Function.update_noteq hdd]
          split
          · rename_i hvd
            rw [hlook _ fun h => hdd (addressKey_inj hkey hdec hvd hd' h),
              hlook _ (nameKey_ne_purposeKey d' d).symm]
          · rfl
      · rw [bookEffect_purposeKey hkey hdec hd']
        by_cases hdd : d = d'
        · subst hdd
          rw [hd', if_pos rfl, if_pos rfl, hself, hlook _ (nameKey_ne_purposeKey d d), hnone,
            Function.update_same]
          cases (⟨es, hs.of_cons⟩ : WalletFile).find? (addressKey params "name" d) <;>
            simp [entryFrom, fieldFrom]
        · rw [Function.update_noteq hdd]
          split
          · rename_i hvd
            rw [hlook _ fun h => hdd (addressKey_inj hkey hdec hvd hd' h),
              hlook _ (nameKey_ne_purposeKey d d')]
          · rfl
    · push_neg at ht
      rw [bookEffect_of_type ht.1 ht.2]
      split
      · rw [hlook _ fun h => ht.1 (h ▸ hname d), hlook _ fun h => ht.2 (h ▸ hpurpose d)]
      · rfl

variable {R : Type} (other : KeyValueHandler (CWallet R))
  (hother : ∀ t k v st, t ∉ addressTypes → (other t k v st).2.1.mapAddressBook = st.1.mapAddressBook)

include hother in
/-- What one pass of `LoadWallet`'s loop does to the address book, on a record that is not a
`"destdata"` one. -/
theorem loadRecord_mapAddressBook {s : LoadState (CWallet R)} {key value : Bytes}
    (hd : recordType key ≠ some (ascii "destdata")) :
    (loadRecord (readAddressBook decodeDestination other) s key value).wallet.mapAddressBook =
      bookEffect decodeDestination key value s.wallet.mapAddressBook := by
  rw [loadRecord_wallet]
  simp only [readKeyValue, bookEffect]
  cases hk : readStrType key with
  | error => rfl
  | ok r =>
    obtain ⟨strType, keyRest⟩ := r
    have ht : recordType key = some strType := by simp [recordType, hk]
    simp only [readAddressBook]
    split_ifs with h₁ h₂
    · rfl
    · rfl
    · refine hother _ _ _ _ ?_
      simp only [addressTypes, List.mem_cons, List.not_mem_nil, or_false, not_or]
      exact ⟨h₁, h₂, fun h => hd (ht.trans (congrArg some h))⟩

include hother in
/-- `LoadWallet`'s loop over records without a `"destdata"` one never stops early, and leaves the
address book their effects make. -/
theorem loadLoop_mapAddressBook {es : List (Bytes × Bytes)}
    (hd : ∀ e ∈ es, recordType e.1 ≠ some (ascii "destdata")) (s : LoadState (CWallet R)) :
    ∃ s', loadLoop (readAddressBook decodeDestination other) s
        (es.map fun e => .record e.1 e.2) = some s' ∧
      s'.wallet.mapAddressBook =
        es.foldl (fun book e => bookEffect decodeDestination e.1 e.2 book) s.wallet.mapAddressBook := by
  induction es generalizing s with
  | nil => exact ⟨s, rfl, rfl⟩
  | cons e es ih =>
    obtain ⟨s', h, hb⟩ := ih (fun e' he' => hd e' (List.mem_cons_of_mem _ he'))
      (loadRecord (readAddressBook decodeDestination other) s e.1 e.2)
    refine ⟨s', h, ?_⟩
    rw [hb, loadRecord_mapAddressBook other hother (hd e (List.mem_cons_self _ _))]
    rfl

theorem readInto_writeString (old v : Bytes) (h : v.length < 2 ^ 64) :
    readInto old (writeString v) = if v.length ≤ maxSize then (true, v) else (false, old) := by
  unfold readInto writeString
  split_ifs with hv
  · simp [readCompactSize_writeCompactSize hv]
  · rw [readCompactSize_writeCompactSize_of_gt (not_le.1 hv) h]

/-- A destination whose records hold these values loads as `loadedEntry` says. -/
theorem entryFrom_writeString {o₁ o₂ : Option Bytes} (h₁ : ∀ v ∈ o₁, v.length < 2 ^ 64)
    (h₂ : ∀ v ∈ o₂, v.length < 2 ^ 64) :
    entryFrom (o₁.map writeString) (o₂.map writeString) none = loadedEntry (o₁, o₂) := by
  cases o₁ <;> cases o₂ <;>
    simp_all [entryFrom, loadedEntry, fieldFrom, loadedField, readInto_writeString,
      apply_ite Prod.snd, CAddressBookData.default]

end Loading

/-- Loading the file any run of writers leaves, from one with no address-book record: every
destination gets the name and the purpose it was last written with and not erased since, a
destination with a name and no purpose gets the purpose `"unknown"`, one with a purpose and no
name the empty name, one with neither no entry, and a value above `MAX_SIZE` loads as the
default. This holds for every `DecodeDestination` that inverts `EncodeCashAddr` on valid
destinations, every other branch of `ReadKeyValue` that leaves `mapAddressBook` alone, and every
run without `WriteDestData`, whose records `LoadDestData` turns into entries too. -/
theorem load_address_book {params : CChainParams}
    (hkey : ∀ d, (encodeCashAddr d params).length ≤ maxSize)
    {decodeDestination : Bytes → CTxDestination}
    (hdec : ∀ d, isValidDestination d = true →
      decodeDestination (ascii (encodeCashAddr d params)) = d)
    {R : Type} {other : KeyValueHandler (CWallet R)}
    (hother : ∀ t k v st, t ∉ addressTypes →
      (other t k v st).2.1.mapAddressBook = st.1.mapAddressBook)
    (nVersion : BitVec 32) (emptyLocator : Bytes) (keyMetaOf : Bytes → Bytes)
    {db₀ : WalletFile} (hdb₀ : ∀ e ∈ db₀.entries, ∀ t ∈ addressTypes, recordType e.1 ≠ some t)
    {ops : List WalletDBOp}
    (hops : ∀ op ∈ ops, op.isWriteDestData = false ∧ ∀ v ∈ op.bookValue, v.length < 2 ^ 64)
    {s₀ : LoadState (CWallet R)} (hs₀ : s₀.wallet.mapAddressBook = fun _ => none) :
    ∃ s, loadLoop (readAddressBook decodeDestination other) s₀
        ((runWalletDB params nVersion emptyLocator keyMetaOf ops db₀).entries.map fun e =>
          .record e.1 e.2) = some s ∧
      s.wallet.mapAddressBook = fun d => loadedEntry (bookRecords ops d) := by
  set db := runWalletDB params nVersion emptyLocator keyMetaOf ops db₀
  have inv : BookInv params (bookRecords ops) db :=
    run_bookInv_from hkey hdec nVersion emptyLocator keyMetaOf hops (bookInv_empty hdb₀)
  have hkeys : ∀ e ∈ db.entries, recordType e.1 = some (ascii "name") ∨
      recordType e.1 = some (ascii "purpose") →
      ∃ d, isValidDestination d = true ∧
        (e.1 = addressKey params "name" d ∨ e.1 = addressKey params "purpose" d) := by
    rintro e he (ht | ht)
    · exact inv.keys e he _ (by simp [addressTypes]) ht
    · exact inv.keys e he _ (by simp [addressTypes]) ht
  have hnd : ∀ e ∈ db.entries, recordType e.1 ≠ some (ascii "destdata") := by
    intro e he ht
    obtain ⟨d, -, hk | hk⟩ := inv.keys e he _ (by simp [addressTypes]) ht
    · exact absurd (ht.symm.trans (hk ▸ recordType_addressKey (by decide) d)) (by decide)
    · exact absurd (ht.symm.trans (hk ▸ recordType_addressKey (by decide) d)) (by decide)
  obtain ⟨s, hl, hb⟩ := loadLoop_mapAddressBook other hother hnd s₀
  refine ⟨s, hl, funext fun d => ?_⟩
  rw [hb, foldl_bookEffect hkey hdec db.sorted hkeys, hs₀]
  split
  · rename_i hd
    rw [show (⟨db.entries, db.sorted⟩ : WalletFile) = db from rfl, inv.name d hd, inv.purpose d hd]
    exact entryFrom_writeString (inv.small d).1 (inv.small d).2
  · rename_i hd
    rw [inv.invalid d (Bool.not_eq_true _ ▸ hd)]
    rfl

/-! ## The CashAddr decoder as `DecodeDestination` -/

/-- `DecodeCashAddr` on the bytes of a key, read as characters. -/
def decodeCashAddrBytes (params : CChainParams) (b : Bytes) : CTxDestination :=
  decodeCashAddr ⟨b.map fun x => Char.ofNat x.toNat⟩ params

theorem map_ofNat_ascii {s : String} (h : ∀ c ∈ s.data, c.toNat < 256) :
    (ascii s).map (fun x => Char.ofNat x.toNat) = s.data := by
  simp only [ascii, List.map_map]
  refine (List.map_congr_left fun c hc => ?_).trans (List.map_id _)
  simp [uint8_toNat_ofNat, Nat.mod_eq_of_lt (h c hc)]

theorem charsetChar_toNat_lt (x : Nat) : (charsetChar x).toNat < 128 := by
  by_cases hx : x < 32
  · revert x; decide
  · rw [charsetChar, List.getD_eq_default _ _ (by simpa [charset] using hx)]; decide

theorem length_convertBits_of_length_eq_21 {bs : List Nat} (h : bs.length = 21) :
    (convertBits 8 5 true bs).length = 34 := by
  simp [convertBits_pad_eq, h]

theorem encodeCashAddr_eq (d : CTxDestination) (params : CChainParams) :
    encodeCashAddr d params = "" ∨ ∃ payload : List Nat, payload.length = 34 ∧
      encodeCashAddr d params = encode params.cashAddrPrefix payload := by
  have h20 : hashSizes.indexOf? 20 = some 0 := by decide
  cases d with
  | noDestination => exact .inl rfl
  | keyID id =>
    exact .inr ⟨convertBits 8 5 true ((pubkeyType.toNat <<< 3) % 256 :: id.bytes.map UInt8.toNat),
      length_convertBits_of_length_eq_21 (by simp [id.length_eq]),
      by simp [encodeCashAddr, encodeCashAddrContent, packCashAddrContent, id.length_eq, h20]⟩
  | scriptID id =>
    exact .inr ⟨convertBits 8 5 true ((scriptType.toNat <<< 3) % 256 :: id.bytes.map UInt8.toNat),
      length_convertBits_of_length_eq_21 (by simp [id.length_eq]),
      by simp [encodeCashAddr, encodeCashAddrContent, packCashAddrContent, id.length_eq, h20]⟩

/-- An address is its prefix, a colon, 34 symbols and 8 of checksum. -/
theorem length_encodeCashAddr_le (d : CTxDestination) (params : CChainParams) :
    (encodeCashAddr d params).length ≤ params.cashAddrPrefix.length + 43 := by
  rcases encodeCashAddr_eq d params with h | ⟨payload, hl, h⟩
  · simp [h]
  · rw [h, show ∀ s : String, s.length = s.data.length from fun _ => rfl, encode_data]
    simp only [List.length_append, List.length_cons, List.length_map, createChecksum_length, hl]
    exact le_refl _

/-- An address under a prefix of bytes is bytes. -/
theorem encodeCashAddr_toNat_lt {params : CChainParams}
    (hp : ∀ ch ∈ params.cashAddrPrefix.data, ch.toNat < 256) (d : CTxDestination) :
    ∀ c ∈ (encodeCashAddr d params).data, c.toNat < 256 := by
  rcases encodeCashAddr_eq d params with h | ⟨payload, -, h⟩
  · simp [h]
  · rw [h, encode_data]
    intro c hc
    simp only [List.mem_append, List.mem_cons, List.mem_map] at hc
    rcases hc with hc | rfl | ⟨x, -, rfl⟩
    · exact hp c hc
    · decide
    · exact (charsetChar_toNat_lt x).trans (by decide)

/-- The CashAddr decoder inverts `EncodeCashAddr` through the key's bytes, under a prefix of
bytes without upper-case letters. -/
theorem decodeCashAddr_ascii_encodeCashAddr {params : CChainParams}
    (hp : ∀ ch ∈ params.cashAddrPrefix.data, ch.isUpper = false ∧ ch.toNat < 256)
    (d : CTxDestination) :
    decodeCashAddrBytes params (ascii (encodeCashAddr d params)) = d := by
  rw [decodeCashAddrBytes, map_ofNat_ascii (encodeCashAddr_toNat_lt (fun ch h => (hp ch h).2) d)]
  exact decodeCashAddr_encodeCashAddr d fun ch h => (hp ch h).1

/-- Two destinations named, a purpose for the first, the second's name erased: the first loads
with both, the second with none. -/
theorem load_address_book_devault :
    ∃ s, loadLoop (readAddressBook (decodeCashAddrBytes ⟨"devault"⟩) fun _ _ _ st => (true, st))
        ⟨⟨fun _ => none, ()⟩, {}, false, .loadOk⟩
        ((runWalletDB ⟨"devault"⟩ 0 [] (fun _ => [])
          [.writeName true (.keyID ⟨List.replicate 20 1, rfl⟩) (ascii "alice"),
            .writePurpose true (.keyID ⟨List.replicate 20 1, rfl⟩) (ascii "receive"),
            .writeName true (.scriptID ⟨List.replicate 20 2, rfl⟩) (ascii "bob"),
            .eraseName true (.scriptID ⟨List.replicate 20 2, rfl⟩)] OrdMap.empty).entries.map
          fun e => .record e.1 e.2) = some s ∧
      s.wallet.mapAddressBook = fun d => loadedEntry (bookRecords
        [.writeName true (.keyID ⟨List.replicate 20 1, rfl⟩) (ascii "alice"),
          .writePurpose true (.keyID ⟨List.replicate 20 1, rfl⟩) (ascii "receive"),
          .writeName true (.scriptID ⟨List.replicate 20 2, rfl⟩) (ascii "bob"),
          .eraseName true (.scriptID ⟨List.replicate 20 2, rfl⟩)] d) :=
  load_address_book (fun d => (length_encodeCashAddr_le d _).trans (by decide))
    (fun d _ => decodeCashAddr_ascii_encodeCashAddr (by decide) d) (fun _ _ _ _ _ => rfl) 0 []
    (fun _ => []) (fun _ he => absurd he (List.not_mem_nil _)) (by decide) rfl

end DeVault.Wallet
