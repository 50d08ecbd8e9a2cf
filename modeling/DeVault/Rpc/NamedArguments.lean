import Mathlib.Data.List.AList
import Mathlib.Data.Finset.Basic

/-!
# Named RPC arguments

`transformNamedArguments` (rpc/server.cpp) turns the named parameters of a JSON-RPC call into the
positional ones the command expects. Each entry of the command's `argNames` is a pattern of
`'|'`-separated aliases; the first alias still present among the named parameters is consumed and
placed at the pattern's position, unmatched positions before a match are filled with JSON `null`,
and a parameter that no pattern consumes is an error.

The parameters are the object's raw member list, in which a name may repeat; `argsIn` keeps the
last member of each name, and `paramValue` says so.

## Main definitions

* `transformNamedArguments` — the source's loop, over an `AList` standing for the
  `unordered_map` `argsIn`.
* `consumedBy` — which parameter each pattern consumes, over the set of names alone.
* `positional` — the positional list those choices give: `null` for an unmatched pattern,
  trailing unmatched patterns dropped.

## Main results

* `placeArgs_eq` — the loop, from any `hole` and `out`, appends `positional` of the consumed
  parameters' values and leaves exactly the parameters no pattern consumed.
* `transformNamedArguments_cases` — the function is `positional` of `consumedBy`, or the error
  naming a parameter that no pattern consumes.
* `transformNamedArguments_spec` — the positions, the nulls, the length of the result, and when
  the call is refused.
-/

namespace DeVault.Rpc

variable {V : Type}

/-- Modelled from the spec: `Split(tokens, str, "|")` (not under src/) on characters, the pieces
between the `'|'`s, empty ones kept. -/
def splitChars : List Char → List (List Char)
  | [] => [[]]
  | c :: cs =>
    if c = '|' then [] :: splitChars cs
    else match splitChars cs with
      | [] => [[c]]
      | w :: ws => (c :: w) :: ws

/-- The aliases of an argument name pattern, `Split(vargNames, argNamePattern, "|")`. -/
def aliases (pattern : String) : List String := (splitChars pattern.data).map String.mk

example : aliases "a|b|" = ["a", "b", ""] := by decide

/-- The `unordered_map` `argsIn` from parameter names to values. -/
abbrev ArgsIn (V : Type) := AList (fun _ : String => V)

/-- `argsIn[keys[i]] = &values[i]` for each member in order: a repeated name keeps its last
value. -/
def argsMap (params : List (String × V)) : ArgsIn V :=
  params.foldl (fun m kv => m.insert kv.1 kv.2) ∅

/-- The alias loop of one pattern: the first alias still in `argsIn`, with its value. -/
def findAlias (argsIn : ArgsIn V) : List String → Option (String × V)
  | [] => none
  | a :: as =>
    match argsIn.lookup a with
    | some v => some (a, v)
    | none => findAlias argsIn as

/-- The loop over the expected parameters, with `hole` unmatched patterns since the last match:
what it leaves in `argsIn`, and `out.params`. -/
def placeArgs (null : V) : ArgsIn V → Nat → List V → List String → ArgsIn V × List V
  | argsIn, _, out, [] => (argsIn, out)
  | argsIn, hole, out, pattern :: patterns =>
    match findAlias argsIn (aliases pattern) with
    | some (k, v) =>
      placeArgs null (argsIn.erase k) 0 (out ++ List.replicate hole null ++ [v]) patterns
    | none => placeArgs null argsIn (hole + 1) out patterns

/-- The error codes of `JSONRPCError` that `CRPCTable::execute` throws before its command runs. -/
inductive RPCErrorCode
  | inWarmup
  | methodNotFound
  | invalidParameter
  deriving DecidableEq, Repr

/-- A thrown `JSONRPCError(code, message)`. -/
structure JSONRPCError where
  code : RPCErrorCode
  message : String
  deriving DecidableEq

/-- `transformNamedArguments`: the positional parameters, or the error for a parameter left in
`argsIn`; `argsIn.begin()` of the `unordered_map` is some remaining name, here the first of the
list. -/
def transformNamedArguments (null : V) (params : List (String × V)) (argNames : List String) :
    Except JSONRPCError (List V) :=
  match (placeArgs null (argsMap params) 0 [] argNames).1.keys with
  | [] => .ok (placeArgs null (argsMap params) 0 [] argNames).2
  | k :: _ => .error ⟨.invalidParameter, "Unknown named parameter " ++ k⟩

/-- The `params` of a request: an array, or an object of named parameters. -/
inductive RequestParams (V : Type)
  | array (values : List V)
  | object (members : List (String × V))

/-- The part of `CRPCTable::execute` before the command runs: refused in warmup, refused for an
unknown method (`argNames = none`), and named parameters made positional. A `JSONRPCError` is no
`std::exception`, so the `catch` around the call lets it through as it is. -/
def executeParams (null : V) (fRPCInWarmup : Bool) (rpcWarmupStatus : String)
    (argNames : Option (List String)) (params : RequestParams V) : Except JSONRPCError (List V) :=
  if fRPCInWarmup then .error ⟨.inWarmup, rpcWarmupStatus⟩
  else match argNames with
    | none => .error ⟨.methodNotFound, "Method not found"⟩
    | some names =>
      match params with
      | .object members => transformNamedArguments null members names
      | .array values => .ok values

/-! ## What the loop computes -/

/-- The names of the object's members. -/
def paramNames (params : List (String × V)) : Finset String := (params.map Prod.fst).toFinset

/-- The value of the object's last member named `k`. -/
def paramValue (params : List (String × V)) (k : String) : Option V :=
  params.foldl (fun acc kv => if kv.1 = k then some kv.2 else acc) none

/-- The parameter each pattern consumes: the first of its aliases among the names that no earlier
pattern consumed, if any. -/
def consumedBy : Finset String → List String → List (Option String)
  | _, [] => []
  | names, pattern :: patterns =>
    match (aliases pattern).find? (· ∈ names) with
    | some k => some k :: consumedBy (names.erase k) patterns
    | none => none :: consumedBy names patterns

/-- The positional list of per-pattern values: `null` where a pattern matched nothing, and no
entry after the last match. -/
def positional (null : V) : List (Option V) → List V
  | [] => []
  | some v :: vs => v :: positional null vs
  | none :: vs => if (positional null vs).isEmpty then [] else null :: positional null vs

/-! ## The positional list -/

section Positional

variable (null : V)

@[simp] theorem positional_replicate_none (h : Nat) :
    positional null (List.replicate h (none : Option V)) = [] := by
  induction h with
  | zero => rfl
  | succ h ih => simp [List.replicate_succ, positional, ih]

theorem positional_replicate_append (h : Nat) (vs : List (Option V)) :
    positional null (List.replicate h none ++ vs) =
      if (positional null vs).isEmpty then [] else List.replicate h null ++ positional null vs := by
  induction h with
  | zero =>
    simp only [List.replicate_zero, List.nil_append]
    cases positional null vs <;> rfl
  | succ h ih =>
    rw [List.replicate_succ, List.cons_append, positional, ih]
    cases positional null vs <;> simp [List.replicate_succ]

/-- A position is in the list exactly when some pattern at or after it matched. -/
theorem lt_length_positional_iff (vs : List (Option V)) (i : Nat) :
    i < (positional null vs).length ↔ ∃ x ∈ vs.drop i, x.isSome := by
  induction vs generalizing i with
  | nil => simp [positional]
  | cons m vs ih =>
    cases m with
    | some v => cases i <;> simp [positional, ih]
    | none =>
      rw [positional]
      split
      · rename_i h0
        have hnone : ∀ x ∈ vs, x.isSome = false := by
          simpa [List.length_eq_zero.2 (List.isEmpty_iff.1 h0)] using ih 0
        simp only [List.length_nil, Nat.not_lt_zero, false_iff, not_exists, not_and]
        intro x hx
        rcases List.mem_cons.1 (List.mem_of_mem_drop hx) with rfl | hx
        · simp
        · simp [hnone x hx]
      · rename_i h0
        cases i with
        | zero =>
          obtain ⟨x, hx, hs⟩ := (ih 0).1 (List.length_pos.2 fun h => h0 (List.isEmpty_iff.2 h))
          simp only [List.drop_zero, List.length_cons, Nat.zero_lt_succ, true_iff]
          exact ⟨x, List.mem_cons_of_mem _ (List.mem_of_mem_drop hx), hs⟩
        | succ i => simpa using ih i

/-- Below its length, the list holds each pattern's value, or `null`. -/
theorem getElem?_positional (vs : List (Option V)) {i : Nat}
    (hi : i < (positional null vs).length) :
    (positional null vs)[i]? = vs[i]?.map (·.getD null) := by
  induction vs generalizing i with
  | nil => simp [positional] at hi
  | cons m vs ih =>
    cases m with
    | some v => cases i <;> simp_all [positional]
    | none =>
      rw [positional] at hi ⊢
      by_cases h0 : (positional null vs).isEmpty
      · simp [h0] at hi
      · rw [if_neg h0] at hi ⊢
        cases i with
        | zero => simp
        | succ i => simpa using ih (by simpa using hi)

end Positional


/-! ## The loop against the names -/

section Loop

variable (params : List (String × V))

theorem paramValue_foldl (ps : List (String × V)) (k : String) (acc : Option V) (m : ArgsIn V)
    (h : m.lookup k = acc) :
    (ps.foldl (fun m kv => m.insert kv.1 kv.2) m).lookup k =
      ps.foldl (fun acc kv => if kv.1 = k then some kv.2 else acc) acc := by
  induction ps generalizing m acc with
  | nil => exact h
  | cons kv ps ih =>
    apply ih
    dsimp only
    by_cases hk : kv.1 = k
    · rw [if_pos hk, ← hk, AList.lookup_insert]
    · rw [if_neg hk, AList.lookup_insert_ne (Ne.symm hk), h]

theorem lookup_argsMap (k : String) : (argsMap params).lookup k = paramValue params k :=
  paramValue_foldl _ k none ∅ (AList.lookup_empty k)

theorem paramValue_isSome_iff (k : String) :
    (paramValue params k).isSome ↔ k ∈ paramNames params := by
  have key : ∀ (ps : List (String × V)) (acc : Option V),
      (ps.foldl (fun acc kv => if kv.1 = k then some kv.2 else acc) acc).isSome ↔
        acc.isSome ∨ k ∈ ps.map Prod.fst := by
    intro ps
    induction ps with
    | nil => simp
    | cons kv ps ih =>
      intro acc
      rw [List.foldl_cons, ih]
      by_cases hk : kv.1 = k
      · simp [hk]
      · simp [hk, Ne.symm hk]
  simpa [paramNames] using key params none

/-- `argsIn` stands for the names `names` of the object, each with its value. -/
def Agrees (names : Finset String) (argsIn : ArgsIn V) : Prop :=
  names ⊆ paramNames params ∧ ∀ k, argsIn.lookup k = if k ∈ names then paramValue params k else none

theorem agrees_argsMap : Agrees params (paramNames params) (argsMap params) :=
  ⟨subset_rfl, fun k => by
    rw [lookup_argsMap]
    split
    · rfl
    · rename_i hk
      exact Option.not_isSome_iff_eq_none.1 fun h => hk ((paramValue_isSome_iff params k).1 h)⟩

theorem Agrees.mem_iff {names : Finset String} {argsIn : ArgsIn V} (h : Agrees params names argsIn)
    (k : String) : k ∈ argsIn ↔ k ∈ names := by
  rw [← AList.lookup_isSome, h.2 k]
  split
  · rename_i hk; simpa [hk] using (paramValue_isSome_iff params k).2 (h.1 hk)
  · rename_i hk; simp [hk]

theorem Agrees.erase {names : Finset String} {argsIn : ArgsIn V} (h : Agrees params names argsIn)
    (k : String) : Agrees params (names.erase k) (argsIn.erase k) := by
  refine ⟨(Finset.erase_subset k names).trans h.1, fun k' => ?_⟩
  by_cases hk : k' = k
  · subst hk; simp [AList.lookup_erase]
  · rw [AList.lookup_erase_ne hk, h.2 k']
    simp [Finset.mem_erase, hk]

/-- The alias loop finds the first alias among the names, with its value. -/
theorem findAlias_eq {names : Finset String} {argsIn : ArgsIn V} (h : Agrees params names argsIn)
    (as : List String) :
    findAlias argsIn as =
      (as.find? (· ∈ names)).bind fun k => (paramValue params k).map (k, ·) := by
  induction as with
  | nil => rfl
  | cons a as ih =>
    rw [findAlias, h.2 a, List.find?_cons]
    by_cases ha : a ∈ names
    · have hv := (paramValue_isSome_iff params a).2 (h.1 ha)
      obtain ⟨v, hv⟩ := Option.isSome_iff_exists.1 hv
      simp [ha, hv]
    · simp [ha, ih]

/-- One pass of the loop from `hole` pending unmatched patterns: it appends the positional list of
the consumed names' values and leaves the names no pattern consumed. -/
theorem placeArgs_eq (null : V) (patterns : List String) : ∀ (names : Finset String)
    (argsIn : ArgsIn V) (hole : Nat) (out : List V), Agrees params names argsIn →
    (placeArgs null argsIn hole out patterns).2 = out ++ positional null
        (List.replicate hole none ++ (consumedBy names patterns).map (·.bind (paramValue params))) ∧
      ∀ k, k ∈ (placeArgs null argsIn hole out patterns).1 ↔
        k ∈ names ∧ some k ∉ consumedBy names patterns := by
  induction patterns with
  | nil =>
    intro names argsIn hole out h
    refine ⟨?_, fun k => by simp [placeArgs, consumedBy, h.mem_iff params k]⟩
    simp [placeArgs, consumedBy, positional_replicate_append, positional]
  | cons pattern patterns ih =>
    intro names argsIn hole out h
    rw [placeArgs, findAlias_eq params h, consumedBy]
    cases hf : (aliases pattern).find? (· ∈ names) with
    | none =>
      obtain ⟨h1, h2⟩ := ih names argsIn (hole + 1) out h
      simp only [Option.none_bind]
      refine ⟨?_, fun k => by simp [h2 k]⟩
      rw [h1, List.map_cons, Option.none_bind, List.replicate_succ', List.append_assoc]
      rfl
    | some k =>
      have hk : k ∈ names := by simpa using List.find?_some hf
      obtain ⟨v, hv⟩ := Option.isSome_iff_exists.1 ((paramValue_isSome_iff params k).2 (h.1 hk))
      obtain ⟨h1, h2⟩ := ih (names.erase k) (argsIn.erase k) 0 _ (h.erase params k)
      simp only [Option.some_bind, hv, Option.map_some']
      refine ⟨?_, fun k' => ?_⟩
      · rw [h1, List.replicate_zero, List.nil_append, List.map_cons, Option.some_bind, hv,
          positional_replicate_append]
        simp [positional]
      · rw [h2 k', Finset.mem_erase, List.mem_cons]
        by_cases hk' : k' = k <;> simp [hk']

/-- Either every parameter is consumed and the values are placed by `positional`, or the call is
refused, naming a parameter that no pattern consumes. -/
theorem transformNamedArguments_cases (null : V) (argNames : List String) :
    ((∀ k ∈ paramNames params, some k ∈ consumedBy (paramNames params) argNames) ∧
        transformNamedArguments null params argNames =
          .ok (positional null ((consumedBy (paramNames params) argNames).map
            (·.bind (paramValue params))))) ∨
      ∃ k ∈ paramNames params, some k ∉ consumedBy (paramNames params) argNames ∧
        transformNamedArguments null params argNames =
          .error ⟨.invalidParameter, "Unknown named parameter " ++ k⟩ := by
  obtain ⟨h1, h2⟩ := placeArgs_eq params null argNames _ _ 0 [] (agrees_argsMap params)
  unfold transformNamedArguments
  cases hkeys : (placeArgs null (argsMap params) 0 [] argNames).1.keys with
  | nil =>
    refine Or.inl ⟨fun k hk => by_contra fun hc => ?_, by simp [h1]⟩
    have := (h2 k).2 ⟨hk, hc⟩
    rw [AList.mem_keys, hkeys] at this
    cases this
  | cons k ks =>
    have hk := (h2 k).1 (by rw [AList.mem_keys, hkeys]; exact List.mem_cons_self k ks)
    exact Or.inr ⟨k, hk.1, hk.2, rfl⟩

/-- The call is refused with `RPC_INVALID_PARAMETER` exactly when some parameter is consumed by
no pattern. -/
theorem transformNamedArguments_error_iff (null : V) (argNames : List String) :
    (∃ e, transformNamedArguments null params argNames = .error e ∧
        e.code = .invalidParameter) ↔
      ∃ k ∈ paramNames params, some k ∉ consumedBy (paramNames params) argNames := by
  rcases transformNamedArguments_cases params null argNames with ⟨hall, hok⟩ | ⟨k, hk, hnc, herr⟩
  · rw [hok]
    exact iff_of_false (by simp) fun ⟨k, hk, hnc⟩ => hnc (hall k hk)
  · rw [herr]
    exact iff_of_true ⟨_, rfl, rfl⟩ ⟨k, hk, hnc⟩

/-- Every name a pattern consumes is one of the names it was given. -/
theorem mem_of_some_mem_consumedBy {names : Finset String} {patterns : List String} {k : String}
    (h : some k ∈ consumedBy names patterns) : k ∈ names := by
  induction patterns generalizing names with
  | nil => cases h
  | cons pattern patterns ih =>
    rw [consumedBy] at h
    split at h
    · rename_i k' hf
      rcases List.mem_cons.1 h with h | h
      · cases h
        simpa using List.find?_some hf
      · exact Finset.mem_of_mem_erase (ih h)
    · exact ih ((List.mem_cons.1 h).resolve_left (by simp))

theorem isSome_bind_paramValue {patterns : List String} {c : Option String}
    (hc : c ∈ consumedBy (paramNames params) patterns) :
    (c.bind (paramValue params)).isSome = c.isSome := by
  cases c with
  | none => rfl
  | some k => simpa using (paramValue_isSome_iff params k).2 (mem_of_some_mem_consumedBy hc)

/-- What a returned `out.params` holds: position `i` is in it exactly when a pattern at or after
`i` consumed a parameter; a consumed parameter's value stands at its pattern's position; an
unmatched pattern before the last match holds `null`; and every parameter was consumed. The call
is refused with `RPC_INVALID_PARAMETER` exactly when some parameter is consumed by no pattern. -/
theorem transformNamedArguments_spec (null : V) (argNames : List String) :
    (∀ out, transformNamedArguments null params argNames = .ok out →
      (∀ i : Nat, i < out.length ↔ ∃ k, some k ∈ (consumedBy (paramNames params) argNames).drop i) ∧
      (∀ (i : Nat) k, (consumedBy (paramNames params) argNames)[i]? = some (some k) →
        out[i]? = paramValue params k) ∧
      (∀ i : Nat, i < out.length → (consumedBy (paramNames params) argNames)[i]? = some none →
        out[i]? = some null) ∧
      ∀ k ∈ paramNames params, some k ∈ consumedBy (paramNames params) argNames) ∧
    ((∃ e, transformNamedArguments null params argNames = .error e ∧
        e.code = .invalidParameter) ↔
      ∃ k ∈ paramNames params, some k ∉ consumedBy (paramNames params) argNames) := by
  set cs := consumedBy (paramNames params) argNames
  have hlen : ∀ i, i < (positional null (cs.map (·.bind (paramValue params)))).length ↔
      ∃ k, some k ∈ cs.drop i := by
    intro i
    rw [lt_length_positional_iff, ← List.map_drop]
    simp only [List.mem_map, exists_exists_and_eq_and]
    constructor
    · rintro ⟨c, hc, hs⟩
      rw [isSome_bind_paramValue params (List.mem_of_mem_drop hc), Option.isSome_iff_exists] at hs
      obtain ⟨k, rfl⟩ := hs
      exact ⟨k, hc⟩
    · rintro ⟨k, hk⟩
      exact ⟨some k, hk, by rw [isSome_bind_paramValue params (List.mem_of_mem_drop hk)]; rfl⟩
  rcases transformNamedArguments_cases params null argNames with ⟨hall, hok⟩ | ⟨k, hk, hnc, herr⟩
  · refine ⟨fun out h => ?_, transformNamedArguments_error_iff params null argNames⟩
    rw [hok, Except.ok.injEq] at h
    subst h
    refine ⟨hlen, fun i k hi => ?_, fun i hi hn => ?_, hall⟩
    · have hlt := (hlen i).2
        ⟨k, List.getElem?_mem (by rw [List.getElem?_drop, Nat.add_zero]; exact hi)⟩
      rw [getElem?_positional null _ hlt, List.getElem?_map, hi]
      obtain ⟨v, hv⟩ := Option.isSome_iff_exists.1
        ((paramValue_isSome_iff params k).2 (mem_of_some_mem_consumedBy (List.getElem?_mem hi)))
      simp [hv]
    · rw [getElem?_positional null _ hi, List.getElem?_map, hn]
      rfl
  · exact ⟨fun out h => by simp [herr] at h, transformNamedArguments_error_iff params null argNames⟩

example : transformNamedArguments 0 [("b", 2), ("a", 1), ("a", 3)] ["a|x", "y", "b", "z"] =
    .ok [3, 0, 2] := by rfl

end Loop

end DeVault.Rpc
