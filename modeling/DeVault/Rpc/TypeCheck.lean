import DeVault.Wallet.OrdMap

/-!
# Type checks of RPC parameters

`RPCTypeCheck`, `RPCTypeCheckArgument` and `RPCTypeCheckObj` (rpc/server.cpp) check the JSON types
of a call's parameters before a command reads them, and throw
`JSONRPCError(RPC_TYPE_ERROR, message)` with a message that names what failed. `RPCTypeCheck`
checks the positional parameters against a list of expected types and stops at the shorter of the
two; `RPCTypeCheckObj` checks the members of an object against a `std::map` from key to expected
type, visited in key order, and, when strict, then refuses the first key the map does not name.

`UniValue`, `find_value`, `getKeys` and `uvTypeName` come from the univalue library, which is not
under src/; they are modelled as that library defines them. `getKeys` throws
`std::runtime_error` on a value that is not an object, and `RPCTypeCheckObj` lets that exception
through when the check is strict.

## Main definitions

* `UniValue`, `findValue`, `uvTypeName`, `UniValueType`.
* `rpcTypeCheckArgument`, `rpcTypeCheck`, `rpcTypeCheckObj` — the three checks. `RPCTypeCheck`
  throws only `RPC_TYPE_ERROR`, which is `.error message`; what `RPCTypeCheckObj` throws is a
  `TypeCheckError`, which also says when it is the `std::runtime_error` of `getKeys`.
* `argPasses`, `memberPasses` — when a parameter and an object member pass.

## Main results

* `rpcTypeCheck_eq_error_iff` — `RPCTypeCheck` throws exactly when a position below both lengths
  fails, and its message names the expected and the actual type at the first such position.
* `rpcTypeCheckObj_eq_error_iff` — `RPCTypeCheckObj` blames the least expected key that fails,
  as missing when its value is null and by both types otherwise; when every expected key passes
  and the check is strict, the first key of the object the map does not name, or `getKeys`'s
  exception when the value is not an object.
-/

namespace DeVault.Rpc

open DeVault.Wallet

/-! ## JSON values -/

/-- `UniValue::VType`. -/
inductive VType
  | VNULL | VOBJ | VARR | VSTR | VNUM | VBOOL
  deriving DecidableEq, Repr

/-- `uvTypeName`. -/
def uvTypeName : VType → String
  | .VNULL => "null"
  | .VBOOL => "bool"
  | .VOBJ => "object"
  | .VARR => "array"
  | .VSTR => "string"
  | .VNUM => "number"

/-- A `UniValue`: an object keeps its members in order, a key possibly repeated. -/
inductive UniValue
  | null
  | obj (members : List (String × UniValue))
  | arr (values : List UniValue)
  | str (val : String)
  | num (val : String)
  | bool (val : Bool)

namespace UniValue

/-- `UniValue::type()`. -/
def type : UniValue → VType
  | null => .VNULL
  | obj _ => .VOBJ
  | arr _ => .VARR
  | str _ => .VSTR
  | num _ => .VNUM
  | bool _ => .VBOOL

/-- `UniValue::isNull()`. -/
def isNull (v : UniValue) : Bool := v.type == .VNULL

/-- `UniValue::size()`: the number of `values`, which only objects and arrays have. -/
def size : UniValue → Nat
  | obj members => members.length
  | arr values => values.length
  | _ => 0

/-- `UniValue::operator[](size_t)`: the value at `index` of an object or array, else
`NullUniValue`. -/
def get : UniValue → Nat → UniValue
  | obj members, index => ((members.map Prod.snd)[index]?).getD null
  | arr values, index => values[index]?.getD null
  | _, _ => null

/-- `UniValue::getKeys()`: the keys of an object; on any other value it throws
`std::runtime_error` with this message. -/
def getKeys : UniValue → Except String (List String)
  | obj members => .ok (members.map Prod.fst)
  | _ => .error "JSON value is not an object as expected"

end UniValue

/-- `find_value`: the value of the first member named `name`, or `NullUniValue`. -/
def findValue : UniValue → String → UniValue
  | .obj members, name => (members.lookup name).getD .null
  | _, _ => .null

/-- `UniValueType` (rpc/server.h): any type, or the one named. -/
structure UniValueType where
  typeAny : Bool
  type : VType

/-! ## The checks -/

/-- `RPCTypeCheckArgument`. -/
def rpcTypeCheckArgument (value : UniValue) (typeExpected : UniValueType) : Except String Unit :=
  if !typeExpected.typeAny && value.type != typeExpected.type then
    .error ("Expected type " ++ uvTypeName typeExpected.type ++ ", got " ++
      uvTypeName value.type)
  else .ok ()

/-- The body of the loop of `RPCTypeCheck` on the value `v` and the expected type `t`: a null
value is skipped when nulls are allowed. -/
def checkParam (fAllowNull : Bool) (v : UniValue) (t : UniValueType) : Except String Unit :=
  if !(fAllowNull && v.isNull) then rpcTypeCheckArgument v t else .ok ()

/-- The loop of `RPCTypeCheck` from position `i` on: it stops once `params` has no value at
`i`. -/
def rpcTypeCheckFrom (params : UniValue) (fAllowNull : Bool) :
    Nat → List UniValueType → Except String Unit
  | _, [] => .ok ()
  | i, t :: typesExpected =>
    if params.size ≤ i then .ok ()
    else do
      checkParam fAllowNull (params.get i) t
      rpcTypeCheckFrom params fAllowNull (i + 1) typesExpected

/-- `RPCTypeCheck`. -/
def rpcTypeCheck (params : UniValue) (typesExpected : List UniValueType) (fAllowNull : Bool) :
    Except String Unit :=
  rpcTypeCheckFrom params fAllowNull 0 typesExpected

/-- What `RPCTypeCheckObj` throws: `JSONRPCError(RPC_TYPE_ERROR, message)`, or a
`std::runtime_error` with its `what()`. -/
inductive TypeCheckError
  | rpcTypeError (message : String)
  | runtimeError (what : String)

/-- One pass of the first loop of `RPCTypeCheckObj`, on the expected key `k` of type `t`. -/
def checkMember (o : UniValue) (fAllowNull : Bool) (k : String) (t : UniValueType) :
    Except TypeCheckError Unit :=
  let v := findValue o k
  if !fAllowNull && v.isNull then .error (.rpcTypeError ("Missing " ++ k))
  else if !(t.typeAny || v.type == t.type || fAllowNull && v.isNull) then
    .error (.rpcTypeError ("Expected type " ++ uvTypeName t.type ++ " for " ++ k ++ ", got " ++
      uvTypeName v.type))
  else .ok ()

/-- One pass of the strict loop of `RPCTypeCheckObj`, on a key `k` of the object. -/
def checkKey (typesExpected : OrdMap String UniValueType) (k : String) :
    Except TypeCheckError Unit :=
  if (typesExpected.find? k).isNone then .error (.rpcTypeError ("Unexpected key " ++ k))
  else .ok ()

/-- `RPCTypeCheckObj`: the expected keys in key order, then, if `fStrict`, the object's keys,
where `getKeys` throws on a value that is not an object. -/
def rpcTypeCheckObj (o : UniValue) (typesExpected : OrdMap String UniValueType)
    (fAllowNull fStrict : Bool) : Except TypeCheckError Unit := do
  typesExpected.entries.forM fun e => checkMember o fAllowNull e.1 e.2
  if fStrict then
    let keys ← o.getKeys.mapError .runtimeError
    keys.forM (checkKey typesExpected)

/-! ## Loops that throw at the first failure -/

section ForM

variable {α ε : Type} {f : α → Except ε Unit}

@[simp] theorem ite_ok_eq_ok {b : Bool} {m : ε} :
    (if b then .ok () else .error m : Except ε Unit) = .ok () ↔ b = true := by
  cases b <;> simp

@[simp] theorem ite_ok_eq_error {b : Bool} {m e : ε} :
    (if b then .ok () else .error m : Except ε Unit) = .error e ↔ b = false ∧ m = e := by
  cases b <;> simp

theorem forM_eq_ok_iff {l : List α} : l.forM f = .ok () ↔ ∀ a ∈ l, f a = .ok () := by
  induction l with
  | nil => exact ⟨fun _ _ h => (nomatch h), fun _ => rfl⟩
  | cons a l ih =>
    simp only [List.forM, List.forall_mem_cons, ← ih]
    cases f a <;> simp [bind, Except.bind]

/-- A `for` loop whose body may throw throws the first error of its body. -/
theorem forM_eq_error_iff {e : ε} {l : List α} : l.forM f = .error e ↔
    ∃ pre a post, l = pre ++ a :: post ∧ (∀ b ∈ pre, f b = .ok ()) ∧ f a = .error e := by
  induction l with
  | nil => exact ⟨fun h => (nomatch h), fun ⟨pre, _, _, h, _⟩ => by simp at h⟩
  | cons a l ih =>
    simp only [List.forM]
    constructor
    · intro h
      cases ha : f a with
      | error e' =>
        simp only [ha, bind, Except.bind, Except.error.injEq] at h
        exact ⟨[], a, l, rfl, by simp, h ▸ ha⟩
      | ok u =>
        simp only [ha, bind, Except.bind] at h
        obtain ⟨pre, b, post, rfl, hpre, hb⟩ := ih.1 h
        exact ⟨a :: pre, b, post, rfl, List.forall_mem_cons.2 ⟨ha, hpre⟩, hb⟩
    · rintro ⟨pre, b, post, hl, hpre, hb⟩
      rcases List.cons_eq_append_iff.1 hl with ⟨rfl, hl⟩ | ⟨pre', rfl, rfl⟩
      · cases hl
        simp [hb, bind, Except.bind]
      · rw [hpre a (List.mem_cons_self _ _)]
        exact ih.2 ⟨pre', b, post, rfl, fun c hc => hpre c (.tail _ hc), hb⟩

end ForM

/-! ## RPCTypeCheck -/

/-- Whether `RPCTypeCheck` lets the value `v` pass for the type `t`. -/
def argPasses (fAllowNull : Bool) (v : UniValue) (t : UniValueType) : Bool :=
  fAllowNull && v.isNull || t.typeAny || v.type == t.type

theorem checkParam_eq (fAllowNull : Bool) (v : UniValue) (t : UniValueType) :
    checkParam fAllowNull v t =
      if argPasses fAllowNull v t then .ok ()
      else .error ("Expected type " ++ uvTypeName t.type ++ ", got " ++ uvTypeName v.type) := by
  unfold checkParam argPasses rpcTypeCheckArgument
  cases fAllowNull && v.isNull <;> cases t.typeAny <;> by_cases hv : v.type = t.type <;>
    simp [hv]

theorem rpcTypeCheckFrom_eq_error_iff (params : UniValue) (fAllowNull : Bool) {e : String} :
    ∀ (i : Nat) (typesExpected : List UniValueType),
      rpcTypeCheckFrom params fAllowNull i typesExpected = .error e ↔
        ∃ j t, typesExpected[j]? = some t ∧ i + j < params.size ∧
          argPasses fAllowNull (params.get (i + j)) t = false ∧
          (∀ j' u, typesExpected[j']? = some u → j' < j →
            argPasses fAllowNull (params.get (i + j')) u = true) ∧
          e = "Expected type " ++ uvTypeName t.type ++ ", got " ++
            uvTypeName (params.get (i + j)).type
  | _, [] => ⟨fun h => (nomatch h), fun ⟨_, _, h, _⟩ => by simp at h⟩
  | i, t :: typesExpected => by
    rw [rpcTypeCheckFrom]
    split_ifs with hsize
    · -- past the last parameter
      simp only [reduceCtorEq, false_iff, not_exists, not_and]
      omega
    rw [checkParam_eq]
    cases hi : argPasses fAllowNull (params.get i) t
    · -- the parameter at `i` fails
      simp only [bind, Except.bind, Except.error.injEq, Bool.false_eq_true, if_false]
      refine ⟨fun h => ⟨0, t, List.getElem?_cons_zero, by omega, hi,
        fun _ _ _ h => absurd h (Nat.not_lt_zero _), h ▸ rfl⟩, ?_⟩
      rintro ⟨_ | j, u, hu, -, -, hpass, rfl⟩
      · rw [List.getElem?_cons_zero, Option.some.injEq] at hu
        subst hu; rfl
      · exact absurd (hpass 0 t List.getElem?_cons_zero j.succ_pos) (by simpa using hi)
    · -- it passes: the loop goes on at `i + 1`
      have hij : ∀ j, i + 1 + j = i + (j + 1) := fun j => by omega
      simp only [bind, Except.bind, if_true, hij,
        rpcTypeCheckFrom_eq_error_iff params fAllowNull (i + 1)]
      constructor
      · rintro ⟨j, u, hu, hlt, hfail, hpass, rfl⟩
        refine ⟨j + 1, u, by rwa [List.getElem?_cons_succ], hlt, hfail, ?_, rfl⟩
        rintro (_ | j') u' hu' hj'
        · rw [List.getElem?_cons_zero, Option.some.injEq] at hu'
          subst hu'; exact hi
        · rw [List.getElem?_cons_succ] at hu'
          exact hpass j' u' hu' (by omega)
      · rintro ⟨_ | j, u, hu, hlt, hfail, hpass, rfl⟩
        · rw [List.getElem?_cons_zero, Option.some.injEq] at hu
          subst hu; simp [hi] at hfail
        · rw [List.getElem?_cons_succ] at hu
          exact ⟨j, u, hu, hlt, hfail, fun j' u' hu' hj' =>
            hpass (j' + 1) u' (by rwa [List.getElem?_cons_succ]) (by omega), rfl⟩

/-- `RPCTypeCheck` throws exactly when some position below both the number of parameters and
the number of expected types holds a value that fails its type, and then it names the expected
and the actual type at the first such position. -/
theorem rpcTypeCheck_eq_error_iff (params : UniValue) (typesExpected : List UniValueType)
    (fAllowNull : Bool) (e : String) :
    rpcTypeCheck params typesExpected fAllowNull = .error e ↔
      ∃ i t, typesExpected[i]? = some t ∧ i < params.size ∧
        argPasses fAllowNull (params.get i) t = false ∧
        (∀ j u, typesExpected[j]? = some u → j < i →
          argPasses fAllowNull (params.get j) u = true) ∧
        e = "Expected type " ++ uvTypeName t.type ++ ", got " ++
          uvTypeName (params.get i).type := by
  simpa only [Nat.zero_add] using rpcTypeCheckFrom_eq_error_iff params fAllowNull 0 typesExpected

example : rpcTypeCheck (.arr [.num "1", .str "x"])
    [⟨false, .VNUM⟩, ⟨false, .VNUM⟩, ⟨false, .VBOOL⟩] false =
      .error "Expected type number, got string" := rfl

/-! ## RPCTypeCheckObj -/

/-- Whether the first loop of `RPCTypeCheckObj` lets the expected key `k` of type `t` pass:
present and not null unless nulls are allowed, and null or of the type. -/
def memberPasses (o : UniValue) (fAllowNull : Bool) (k : String) (t : UniValueType) : Bool :=
  (fAllowNull || !(findValue o k).isNull) &&
    ((findValue o k).isNull || t.typeAny || (findValue o k).type == t.type)

theorem checkMember_eq (o : UniValue) (fAllowNull : Bool) (k : String) (t : UniValueType) :
    checkMember o fAllowNull k t =
      if memberPasses o fAllowNull k t then .ok ()
      else .error (.rpcTypeError (if (findValue o k).isNull then "Missing " ++ k
        else "Expected type " ++ uvTypeName t.type ++ " for " ++ k ++ ", got " ++
          uvTypeName (findValue o k).type)) := by
  unfold checkMember memberPasses
  cases hn : (findValue o k).isNull <;> cases fAllowNull <;> cases t.typeAny <;>
    simp [hn]

/-- In a map, the entries before the one of `k` are those of the smaller keys. -/
theorem mem_pre_of_find?_of_lt {V : Type} {m : OrdMap String V} {pre post : List (String × V)}
    {k k' : String} {v v' : V} (hm : m.entries = pre ++ (k, v) :: post)
    (h' : m.find? k' = some v') (hk : k' < k) : (k', v') ∈ pre := by
  have hmem := OrdMap.mem_entries_iff.2 h'
  have hs := m.sorted
  rw [hm] at hmem hs
  rcases List.mem_append.1 hmem with h | h
  · exact h
  rcases List.mem_cons.1 h with h | h
  · cases h; exact absurd hk (lt_irrefl _)
  · exact absurd hk
      (not_lt.2 (le_of_lt ((List.pairwise_cons.1 (List.pairwise_append.1 hs).2.1).1 _ h)))

theorem checkKey_eq (typesExpected : OrdMap String UniValueType) (k : String) :
    checkKey typesExpected k =
      if (typesExpected.find? k).isSome then .ok ()
      else .error (.rpcTypeError ("Unexpected key " ++ k)) := by
  unfold checkKey; cases typesExpected.find? k <;> rfl

/-- The first loop of `RPCTypeCheckObj` passes when every expected key does. -/
theorem checkMembers_eq_ok_iff (o : UniValue) (typesExpected : OrdMap String UniValueType)
    (fAllowNull : Bool) :
    typesExpected.entries.forM (fun e => checkMember o fAllowNull e.1 e.2) = .ok () ↔
      ∀ k t, typesExpected.find? k = some t → memberPasses o fAllowNull k t = true := by
  simp only [forM_eq_ok_iff, checkMember_eq, ite_ok_eq_ok, Prod.forall, OrdMap.mem_entries_iff]

/-- The first loop of `RPCTypeCheckObj` throws for the least expected key that fails. -/
theorem checkMembers_eq_error_iff (o : UniValue) (typesExpected : OrdMap String UniValueType)
    (fAllowNull : Bool) (e : TypeCheckError) :
    typesExpected.entries.forM (fun e => checkMember o fAllowNull e.1 e.2) = .error e ↔
      ∃ k t, typesExpected.find? k = some t ∧ memberPasses o fAllowNull k t = false ∧
        (∀ k' t', typesExpected.find? k' = some t' → k' < k →
          memberPasses o fAllowNull k' t' = true) ∧
        e = .rpcTypeError (if (findValue o k).isNull then "Missing " ++ k
          else "Expected type " ++ uvTypeName t.type ++ " for " ++ k ++ ", got " ++
            uvTypeName (findValue o k).type) := by
  simp only [forM_eq_error_iff, checkMember_eq, ite_ok_eq_ok, ite_ok_eq_error]
  constructor
  · rintro ⟨pre, ⟨k, t⟩, post, hm, hpre, hfail, rfl⟩
    exact ⟨k, t, OrdMap.mem_entries_iff.1 (by simp [hm]), hfail,
      fun k' t' h' hlt => hpre (k', t') (mem_pre_of_find?_of_lt hm h' hlt), rfl⟩
  · rintro ⟨k, t, hkt, hfail, hless, rfl⟩
    obtain ⟨pre, post, hm⟩ := List.append_of_mem (OrdMap.mem_entries_iff.2 hkt)
    refine ⟨pre, (k, t), post, hm, fun b hb => ?_, hfail, rfl⟩
    have hs := typesExpected.sorted
    rw [hm] at hs
    exact hless _ _ (OrdMap.mem_entries_iff.1 (hm ▸ List.mem_append_left _ hb))
      ((List.pairwise_append.1 hs).2.2 b hb _ (.head _))

/-- `getKeys` throws exactly on a value that is not an object. -/
theorem UniValue.getKeys_eq_error_iff {o : UniValue} {what : String} :
    o.getKeys = .error what ↔
      o.type ≠ .VOBJ ∧ what = "JSON value is not an object as expected" := by
  cases o <;> simp [UniValue.getKeys, UniValue.type, eq_comm]

/-- What `RPCTypeCheckObj` throws: for the least expected key, in key order, that fails, the
missing key when its value is null and both types otherwise; or, when every expected key passes
and the check is strict, `getKeys`'s `std::runtime_error` when the value is not an object, and
else the first key of the object, in the object's order, that the map does not name. -/
theorem rpcTypeCheckObj_eq_error_iff (o : UniValue) (typesExpected : OrdMap String UniValueType)
    (fAllowNull fStrict : Bool) (e : TypeCheckError) :
    rpcTypeCheckObj o typesExpected fAllowNull fStrict = .error e ↔
      (∃ k t, typesExpected.find? k = some t ∧ memberPasses o fAllowNull k t = false ∧
        (∀ k' t', typesExpected.find? k' = some t' → k' < k →
          memberPasses o fAllowNull k' t' = true) ∧
        e = .rpcTypeError (if (findValue o k).isNull then "Missing " ++ k
          else "Expected type " ++ uvTypeName t.type ++ " for " ++ k ++ ", got " ++
            uvTypeName (findValue o k).type)) ∨
      ((∀ k t, typesExpected.find? k = some t → memberPasses o fAllowNull k t = true) ∧
        fStrict = true ∧
        ((o.type ≠ .VOBJ ∧ e = .runtimeError "JSON value is not an object as expected") ∨
          ∃ pre k post, o.getKeys = .ok (pre ++ k :: post) ∧
            (∀ k' ∈ pre, (typesExpected.find? k').isSome) ∧ typesExpected.find? k = none ∧
            e = .rpcTypeError ("Unexpected key " ++ k))) := by
  rw [← checkMembers_eq_error_iff, ← checkMembers_eq_ok_iff, rpcTypeCheckObj]
  cases typesExpected.entries.forM (fun e => checkMember o fAllowNull e.1 e.2) with
  | error e' => simp only [bind, Except.bind, reduceCtorEq, false_and, or_false]
  | ok u =>
    cases fStrict
    · simp only [bind, Except.bind, Bool.false_eq_true, if_false, pure, Except.pure, reduceCtorEq,
        false_and, and_false, or_false]
    · cases hk : o.getKeys with
      | error what =>
        -- not an object: the exception of getKeys
        obtain ⟨hty, rfl⟩ := UniValue.getKeys_eq_error_iff.1 hk
        simp only [bind, Except.bind, if_true, Except.mapError, reduceCtorEq, false_or, true_and,
          hty, ne_eq, not_false_eq_true, false_and, exists_false, or_false,
          Except.error.injEq, @eq_comm TypeCheckError e]
      | ok keys =>
        have hty : o.type = .VOBJ := by cases o <;> simp_all [UniValue.getKeys, UniValue.type]
        simp only [bind, Except.bind, if_true, Except.mapError, reduceCtorEq, false_or, true_and,
          hty, ne_eq, not_true_eq_false, false_and, Except.ok.injEq, forM_eq_error_iff,
          checkKey_eq, ite_ok_eq_ok, ite_ok_eq_error, Bool.eq_false_iff,
          Option.not_isSome_iff_eq_none, @eq_comm TypeCheckError e]

/-- Without nulls allowed, the least expected key is blamed, here as missing. -/
example : rpcTypeCheckObj (.obj [("amount", .str "1")])
    ⟨[("address", ⟨false, .VSTR⟩), ("amount", ⟨false, .VNUM⟩)],
      List.pairwise_pair.2 (String.lt_iff_toList_lt.2 (by decide))⟩ false true =
      .error (.rpcTypeError "Missing address") := rfl

/-- A strict check of a number against no expected key throws the exception of `getKeys`. -/
example : rpcTypeCheckObj (.num "7") OrdMap.empty false true =
    .error (.runtimeError "JSON value is not an object as expected") := rfl

end DeVault.Rpc
