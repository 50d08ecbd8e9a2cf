import Mathlib

/-!
# Ordered maps

The wallet keeps its keys, scripts and watched keys in `std::map`s. A map is modelled by its
entries in increasing key order, the order in which the source's loops visit them; the ordering is
a field, so every map built here is one a `std::map` could hold.

## Main definitions

* `OrdMap` — entries with strictly increasing keys.
* `OrdMap.insert` — `m[k] = v`; `OrdMap.erase` — `m.erase(k)`; `OrdMap.find?` — `m.find(k)`.
-/

namespace DeVault.Wallet

/-- A `std::map`: its entries, in strictly increasing key order. -/
structure OrdMap (K V : Type) [LinearOrder K] where
  entries : List (K × V)
  sorted : entries.Pairwise (fun a b => a.1 < b.1)

namespace OrdMap

variable {K V : Type} [LinearOrder K]

/-- The empty map. -/
def empty : OrdMap K V := ⟨[], List.Pairwise.nil⟩

/-- `m.find(k)`: the value stored under `k`. -/
def find? (m : OrdMap K V) (k : K) : Option V := m.entries.lookup k

/-- `m.empty()`. -/
def isEmpty (m : OrdMap K V) : Bool := m.entries.isEmpty

/-- Insertion of `(k, v)` into a sorted list of entries, replacing the entry of `k`. -/
def insertEntry (k : K) (v : V) : List (K × V) → List (K × V)
  | [] => [(k, v)]
  | e :: es => if k < e.1 then (k, v) :: e :: es else if k = e.1 then (k, v) :: es
    else e :: insertEntry k v es

theorem mem_insertEntry {k : K} {v : V} {x : K × V} {es : List (K × V)}
    (h : x ∈ insertEntry k v es) : x = (k, v) ∨ x ∈ es := by
  induction es with
  | nil => simpa [insertEntry] using h
  | cons e es ih =>
    simp only [insertEntry] at h
    split_ifs at h
    · exact List.mem_cons.1 h
    · exact (List.mem_cons.1 h).imp_right (List.mem_cons_of_mem e)
    · rcases List.mem_cons.1 h with rfl | h
      · exact .inr (List.mem_cons_self _ _)
      · exact (ih h).imp_right (List.mem_cons_of_mem _)

theorem insertEntry_sorted {k : K} {v : V} {es : List (K × V)}
    (h : es.Pairwise (fun a b => a.1 < b.1)) :
    (insertEntry k v es).Pairwise (fun a b => a.1 < b.1) := by
  induction es with
  | nil => simp [insertEntry]
  | cons e es ih =>
    rw [List.pairwise_cons] at h
    simp only [insertEntry]
    split_ifs with hlt heq
    · exact List.Pairwise.cons (fun x hx => by
        rcases List.mem_cons.1 hx with rfl | hx
        exacts [hlt, lt_trans hlt (h.1 x hx)]) (List.Pairwise.cons h.1 h.2)
    · exact List.Pairwise.cons (fun x hx => heq ▸ h.1 x hx) h.2
    · refine List.Pairwise.cons (fun x hx => ?_) (ih h.2)
      rcases mem_insertEntry hx with rfl | hx
      exacts [lt_of_le_of_ne (not_lt.1 hlt) (Ne.symm heq), h.1 x hx]

/-- `m[k] = v`. -/
def insert (m : OrdMap K V) (k : K) (v : V) : OrdMap K V :=
  ⟨insertEntry k v m.entries, insertEntry_sorted m.sorted⟩

/-- `m.erase(k)`. -/
def erase (m : OrdMap K V) (k : K) : OrdMap K V :=
  ⟨m.entries.filter (fun e => e.1 ≠ k), m.sorted.filter _⟩

theorem lookup_cons_ite (a k' : K) (b : V) (es : List (K × V)) :
    ((a, b) :: es).lookup k' = if k' = a then some b else es.lookup k' := by
  by_cases h : k' = a
  · subst h; simp
  · rw [List.lookup_cons, if_neg h, beq_false_of_ne h]

theorem lookup_insertEntry (k k' : K) (v : V) (es : List (K × V)) :
    (insertEntry k v es).lookup k' = if k' = k then some v else es.lookup k' := by
  induction es with
  | nil => exact lookup_cons_ite k k' v []
  | cons e es ih =>
    obtain ⟨a, b⟩ := e
    rw [insertEntry]
    by_cases hlt : k < a
    · rw [if_pos hlt]; exact lookup_cons_ite k k' v _
    by_cases heq : k = a
    · subst heq
      rw [if_neg hlt, if_pos rfl, lookup_cons_ite, lookup_cons_ite]
      split_ifs <;> rfl
    · rw [if_neg hlt, if_neg heq, lookup_cons_ite, lookup_cons_ite, ih]
      by_cases hka : k' = a
      · simp [hka, Ne.symm heq]
      · simp [hka]

@[simp] theorem find?_insert (m : OrdMap K V) (k k' : K) (v : V) :
    (m.insert k v).find? k' = if k' = k then some v else m.find? k' :=
  lookup_insertEntry k k' v m.entries

theorem lookup_filter_ne (k k' : K) (es : List (K × V)) :
    (es.filter (fun e => e.1 ≠ k)).lookup k' = if k' = k then none else es.lookup k' := by
  induction es with
  | nil => simp
  | cons e es ih =>
    obtain ⟨a, b⟩ := e
    by_cases hak : a = k
    · subst hak
      rw [List.filter_cons_of_neg (by simp), ih, lookup_cons_ite]
      split_ifs <;> rfl
    · rw [List.filter_cons_of_pos (by simpa using hak), lookup_cons_ite, ih, lookup_cons_ite]
      by_cases hka : k' = a
      · simp [hka, hak]
      · simp [hka]

@[simp] theorem find?_erase (m : OrdMap K V) (k k' : K) :
    (m.erase k).find? k' = if k' = k then none else m.find? k' :=
  lookup_filter_ne k k' m.entries

@[simp] theorem erase_empty (k : K) : (empty : OrdMap K V).erase k = empty := rfl

@[simp] theorem find?_empty (k : K) : (empty : OrdMap K V).find? k = none := rfl

/-- Inserting a key above every key of the entries appends it. -/
theorem insertEntry_of_lt {k : K} {v : V} :
    ∀ {es : List (K × V)}, (∀ e ∈ es, e.1 < k) → insertEntry k v es = es ++ [(k, v)]
  | [], _ => rfl
  | e :: es, h => by
    have he := h e (List.mem_cons_self e es)
    rw [insertEntry, if_neg (not_lt.2 he.le), if_neg (ne_of_gt he),
      insertEntry_of_lt fun e' he' => h e' (List.mem_cons_of_mem e he')]
    rfl

theorem lookup_eq_none_of_ne {k : K} :
    ∀ {es : List (K × V)}, (∀ e ∈ es, e.1 ≠ k) → es.lookup k = none
  | [], _ => rfl
  | (a, b) :: es, h => by
    rw [lookup_cons_ite, if_neg (h _ (List.mem_cons_self _ _)).symm,
      lookup_eq_none_of_ne fun e he => h e (List.mem_cons_of_mem _ he)]

theorem lookup_tail_of_sorted {a : K} {x : V} {es : List (K × V)}
    (h : ((a, x) :: es).Pairwise (fun a b => a.1 < b.1)) (k : K) :
    es.lookup k = if k = a then none else ((a, x) :: es).lookup k := by
  rw [lookup_cons_ite]
  split_ifs with hk
  · exact lookup_eq_none_of_ne fun e he => hk ▸ ne_of_gt (List.rel_of_pairwise_cons h he)
  · rfl

/-- Two sorted entry lists with the same lookups are equal. -/
theorem eq_of_lookup_eq : ∀ {es es' : List (K × V)}, es.Pairwise (fun a b => a.1 < b.1) →
    es'.Pairwise (fun a b => a.1 < b.1) → (∀ k, es.lookup k = es'.lookup k) → es = es'
  | [], [], _, _, _ => rfl
  | [], (b, y) :: _, _, _, h => by simpa [lookup_cons_ite] using h b
  | (a, x) :: _, [], _, _, h => by simpa [lookup_cons_ite] using h a
  | (a, x) :: es, (b, y) :: es', hs, hs', h => by
    have hab : a = b := by
      by_contra hne
      rcases lt_or_gt_of_ne hne with hlt | hlt
      · have := h a
        rw [lookup_cons_ite, if_pos rfl, lookup_cons_ite, if_neg hne,
          lookup_eq_none_of_ne fun e he => ne_of_gt (hlt.trans (List.rel_of_pairwise_cons hs' he))]
          at this
        cases this
      · have := h b
        rw [lookup_cons_ite, if_neg (Ne.symm hne), lookup_cons_ite, if_pos rfl,
          lookup_eq_none_of_ne fun e he => ne_of_gt (hlt.trans (List.rel_of_pairwise_cons hs he))]
          at this
        cases this
    subst hab
    have hxy : x = y := by simpa [lookup_cons_ite] using h a
    subst hxy
    rw [eq_of_lookup_eq hs.of_cons hs'.of_cons fun k => by
      rw [lookup_tail_of_sorted hs, lookup_tail_of_sorted hs', h]]

/-- Maps with the same values at every key are equal. -/
theorem ext_find? {m m' : OrdMap K V} (h : ∀ k, m.find? k = m'.find? k) : m = m' := by
  obtain ⟨es, hs⟩ := m
  obtain ⟨es', hs'⟩ := m'
  simp only [mk.injEq]
  exact eq_of_lookup_eq hs hs' h

/-- An entry is in the map exactly when `find?` returns its value. -/
theorem mem_entries_iff {m : OrdMap K V} {k : K} {v : V} :
    (k, v) ∈ m.entries ↔ m.find? k = some v := by
  obtain ⟨es, hs⟩ := m
  simp only [find?]
  induction es with
  | nil => simp
  | cons e es ih =>
    obtain ⟨a, b⟩ := e
    rw [lookup_cons_ite, List.mem_cons]
    split_ifs with hk
    · subst hk
      have : (k, v) ∉ es := fun h => lt_irrefl k (List.rel_of_pairwise_cons hs h)
      simp [this, eq_comm]
    · simp [hk, ih hs.of_cons]

theorem mem_insert_entries {m : OrdMap K V} {k : K} {v : V} {e : K × V}
    (h : e ∈ (m.insert k v).entries) : e = (k, v) ∨ e ∈ m.entries := by
  rw [← Prod.mk.eta (p := e), mem_entries_iff, find?_insert] at h
  split_ifs at h with hk
  · exact .inl (Prod.ext hk (Option.some.inj h).symm)
  · exact .inr (mem_entries_iff.2 h)

theorem mem_erase_entries {m : OrdMap K V} {k : K} {e : K × V} (h : e ∈ (m.erase k).entries) :
    e ∈ m.entries :=
  (List.mem_filter.1 h).1

theorem isEmpty_iff {m : OrdMap K V} : m.isEmpty = true ↔ m.entries = [] :=
  List.isEmpty_iff

@[simp] theorem empty_entries : (empty : OrdMap K V).entries = [] := rfl

end OrdMap

end DeVault.Wallet
