import DeVault.Wallet.OrdMap

/-!
# The RPC command table and its help text

`CRPCTable` (rpc/server.cpp) maps command names to `const ContextFreeRPCCommand *`; a command can
sit under several names, and `help` visits each pointer once. `CRPCTable::help` sorts the table
by `category + name`, calls each selected command with `fHelp` set, and collects the help text
its actor throws: whole for `help <command>`, first lines under category headers for `help`.

What the source calls but does not define is an input: the command at each address (`heap`),
what its actor does when asked for help (`HelpOutcome`), and the effect of `ToUpper` on the
first letter of a category (`toUpper`).

## Main definitions

* `CRPCTable.help` — the source's loop over the sorted `vCommands`.
* `helpSelected`, `collectHelp`, `renderHelp` — which commands are asked, what they throw, and
  the text the loop builds from that.
* `overviewText` — the overview as it is meant to read: each category once, under its header.

## Main results

* `helpLoop_eq` — the loop is `renderHelp` of `collectHelp` of `helpSelected`.
* `help_named` — `help c` is the whole help of the distinct commands named `c`.
* `help_overview` — when no listed category is a prefix of another, `help` is `overviewText`;
  otherwise a category's header can be printed twice (the example after it).
-/

namespace DeVault.Rpc

open DeVault.Wallet

/-! ## Generic facts -/

/-- The elements of a list in order, each at its first occurrence and only if not in `done`: what
the loop lets through when it records the elements it has seen in a `std::set`. -/
def firstOccurrences {α : Type} [DecidableEq α] (done : List α) : List α → List α
  | [] => []
  | a :: as => if a ∈ done then firstOccurrences done as else a :: firstOccurrences (a :: done) as

section FirstOccurrences

variable {α : Type} [DecidableEq α]

theorem mem_firstOccurrences {done as : List α} {a : α} :
    a ∈ firstOccurrences done as ↔ a ∈ as ∧ a ∉ done := by
  induction as generalizing done with
  | nil => simp [firstOccurrences]
  | cons b as ih =>
    by_cases hb : b ∈ done
    · simp only [firstOccurrences, hb, if_true, ih, List.mem_cons]
      constructor
      · exact fun h => ⟨.inr h.1, h.2⟩
      · rintro ⟨rfl | h, hn⟩
        · exact absurd hb hn
        · exact ⟨h, hn⟩
    · simp only [firstOccurrences, hb, if_false, List.mem_cons, ih, not_or]
      by_cases hab : a = b <;> simp [hab, hb]

theorem firstOccurrences_sublist (done as : List α) : List.Sublist (firstOccurrences done as) as := by
  induction as generalizing done with
  | nil => exact .slnil
  | cons b as ih =>
    unfold firstOccurrences
    split
    · exact (ih done).cons b
    · exact (ih (b :: done)).cons₂ b

theorem nodup_firstOccurrences (done as : List α) : (firstOccurrences done as).Nodup := by
  induction as generalizing done with
  | nil => exact .nil
  | cons b as ih =>
    unfold firstOccurrences
    split
    · exact ih done
    · exact .cons (fun h => (mem_firstOccurrences.1 h).2 (List.mem_cons_self _ _)) (ih _)

theorem firstOccurrences_append_singleton (done as : List α) (a : α) :
    firstOccurrences done (as ++ [a]) =
      firstOccurrences done as ++ (if a ∈ as ∨ a ∈ done then [] else [a]) := by
  induction as generalizing done with
  | nil => simp only [firstOccurrences, List.nil_append, List.not_mem_nil, false_or]
  | cons b as ih =>
    rw [List.cons_append]
    by_cases hb : b ∈ done
    · have hab : (a = b ∨ a ∈ as) ∨ a ∈ done ↔ a ∈ as ∨ a ∈ done := by
        rw [or_assoc]; exact or_iff_right_of_imp fun h => .inr (h ▸ hb)
      simp only [firstOccurrences, hb, if_true, ih, List.mem_cons, hab]
    · have hab : (a = b ∨ a ∈ as) ∨ a ∈ done ↔ a ∈ as ∨ a = b ∨ a ∈ done := by
        rw [or_assoc, or_left_comm]
      simp only [firstOccurrences, hb, if_false, ih, List.mem_cons, hab, List.cons_append]

end FirstOccurrences

/-- `String.intercalate` on a list that ends in `b`. -/
theorem intercalate_append_singleton (s : String) (l : List String) (b : String) (hl : l ≠ []) :
    String.intercalate s (l ++ [b]) = String.intercalate s l ++ s ++ b := by
  obtain ⟨a, as, rfl⟩ := List.exists_cons_of_ne_nil hl
  clear hl
  simp only [List.cons_append, String.intercalate]
  suffices ∀ acc, String.intercalate.go acc s (as ++ [b]) = String.intercalate.go acc s as ++ s ++ b
    from this a
  induction as with
  | nil => intro acc; rfl
  | cons c cs ih => intro acc; exact ih (acc ++ s ++ c)

/-- `s.substr(0, s.size() - 1)` of a string that ends in a newline. -/
theorem dropLast_newline (s : String) : (⟨(s ++ "\n").data.dropLast⟩ : String) = s := by simp

theorem append_newline_ne_empty (s : String) : s ++ "\n" ≠ "" := by simp [String.ext_iff]

/-- Two strings whose first differing characters order them keep that order whatever follows. -/
theorem append_lt_append_of_lt {c d : List Char} (h : c < d) (hp : ¬ c <+: d) (x y : List Char) :
    c ++ x < d ++ y := by
  induction h with
  | nil => exact absurd List.nil_prefix hp
  | cons _ ih => exact .cons (ih fun h => hp ((List.prefix_cons_inj _).2 h))
  | rel hab => exact .rel hab

/-! ## The table -/

/-- What a command's actor does when `help` calls it with `fHelp` set: return, throw a
`std::exception` whose `what()` is its help text, or throw something else (a `JSONRPCError` is a
`UniValue`), which `help` does not catch. -/
inductive HelpOutcome (E : Type)
  | returns
  | throwsText (what : String)
  | throwsOther (e : E)

/-- A `ContextFreeRPCCommand`: its category, name and argument names, and its actor as `help`
sees it. -/
structure ContextFreeRPCCommand (E : Type) where
  category : String
  name : String
  argNames : List String
  helpOutcome : HelpOutcome E

/-- A `const ContextFreeRPCCommand *`: an address, and what lives there is `heap`. -/
abbrev Ptr := Nat

/-- `CRPCTable`: its `mapCommands`. -/
structure CRPCTable where
  mapCommands : OrdMap String Ptr

/-- `CRPCTable::operator[]`: the command under a name, `nullptr` as `none`. -/
def CRPCTable.get (t : CRPCTable) (name : String) : Option Ptr := t.mapCommands.find? name

/-- `CRPCTable::listCommands`: the names, in map order. -/
def CRPCTable.listCommands (t : CRPCTable) : List String := t.mapCommands.entries.map Prod.fst

/-- `CRPCTable::CRPCTable`: `mapCommands[pcmd->name] = pcmd` for each command of a static
array laid out from address `base`. -/
def CRPCTable.init {E : Type} (cmds : List (ContextFreeRPCCommand E)) (base : Ptr) : CRPCTable :=
  ⟨cmds.enum.foldl (fun m c => m.insert c.2.name (base + c.1)) OrdMap.empty⟩

/-- `HelpExampleCli`. -/
def helpExampleCli (methodname args : String) : String :=
  "> devault-cli " ++ methodname ++ " " ++ args ++ "\n"

/-- `HelpExampleRpc`. -/
def helpExampleRpc (methodname args : String) : String :=
  "> curl --user myusername --data-binary \x27\x7b\"jsonrpc\": \"1.0\", \"id\":\"curltest\", " ++
    "\"method\": \"" ++ methodname ++ "\", \"params\": [" ++ args ++
    "] \x7d\x27 -H \x27content-type: text/plain;\x27 http://127.0.0.1:8332/\n"

/-- `vRPCCommands`: `help`, `stop` and `uptime`, each of whose actors throws its help text when
`fHelp` is set. -/
def vRPCCommands {E : Type} : List (ContextFreeRPCCommand E) :=
  [⟨"control", "help", ["command"], .throwsText ("help ( \"command\" )\n" ++
      "\nList all commands, or get help for a specified command.\n" ++
      "\nArguments:\n" ++
      "1. \"command\"     (string, optional) The command to get help on\n" ++
      "\nResult:\n" ++
      "\"text\"     (string) The help text\n")⟩,
    ⟨"control", "stop", [], .throwsText ("stop\n" ++ "\nStop DeVault server.")⟩,
    ⟨"control", "uptime", [], .throwsText ("uptime\n" ++
      "\nReturns the total uptime of the server.\n" ++
      "\nResult:\n" ++
      "ttt        (numeric) The number of seconds that the server has been running\n" ++
      "\nExamples:\n" ++ helpExampleCli "uptime" "" ++ helpExampleRpc "uptime" "")⟩]

/-- Memory holding `vRPCCommands` from address `0`, and no command elsewhere. None of their actors
throws anything but a `std::exception`. -/
def builtinHeap (p : Ptr) : ContextFreeRPCCommand Empty :=
  (vRPCCommands.get? p).getD ⟨"", "", [], .returns⟩

/-- `tableRPC`: the table `CRPCTable()` builds, with `vRPCCommands` from address `0`. The
table holds names and addresses only, so which exceptions the actors throw does not matter. -/
def tableRPC : CRPCTable := CRPCTable.init (vRPCCommands (E := Empty)) 0

/-- `tableRPC` holds `help`, `stop` and `uptime` at addresses `0`, `1`, `2`. -/
theorem tableRPC_entries :
    tableRPC.mapCommands.entries = [("help", 0), ("stop", 1), ("uptime", 2)] := by
  simp [tableRPC, CRPCTable.init, vRPCCommands, OrdMap.insert, OrdMap.insertEntry, List.enum,
    List.enumFrom]
  decide

/-! ## `CRPCTable::help` -/

/-- `strHelp.substr(0, strHelp.find('\n'))`: the text up to its first newline. -/
def firstLine (s : String) : String := ⟨s.data.takeWhile (· ≠ '\n')⟩

/-- `"== " + firstLetter + category.substr(1) + " =="`, the first letter passed through
`ToUpper`; an empty category has no first letter. -/
def categoryHeader (toUpper : Char → Char) (category : String) : String :=
  "== " ++ ⟨(category.data.take 1).map toUpper ++ category.data.drop 1⟩ ++ " =="

/-- `strMethod.find("label") != std::string::npos`. -/
def hasLabel (strMethod : String) : Bool := decide ("label".data <:+: strMethod.data)

/-- The loop's state: `strRet`, `category` and `setDone`. -/
structure HelpState where
  strRet : String
  category : String
  setDone : List Ptr

variable {E : Type} (heap : Ptr → ContextFreeRPCCommand E) (toUpper : Char → Char)

/-- `vCommands`: each entry of `mapCommands` as `(category + name, pcmd)`, in the order of
`std::sort` on pairs: strings character by character, then addresses. The pairs are distinct (so
are the names), so every sort gives this list. -/
def vCommands (t : CRPCTable) : List (String × Ptr) :=
  (t.mapCommands.entries.map fun m => ((heap m.2).category ++ m.1, m.2)).insertionSort
    (fun a b => toLex (a.1.data, a.2) ≤ toLex (b.1.data, b.2))

/-- One pass of the loop of `CRPCTable::help`. -/
def helpStep (strCommand : String) (st : HelpState) (p : Ptr) : Except E HelpState :=
  let pcmd := heap p
  if hasLabel pcmd.name then .ok st
  else if (strCommand ≠ "" ∨ pcmd.category = "hidden") ∧ pcmd.name ≠ strCommand then .ok st
  else if p ∈ st.setDone then .ok st
  else
    let st := { st with setDone := p :: st.setDone }
    match pcmd.helpOutcome with
    | .returns => .ok st
    | .throwsOther e => .error e
    | .throwsText what =>
      if strCommand = "" then
        let st := if st.category ≠ pcmd.category then
            { st with
              strRet := st.strRet ++ (if st.category = "" then "" else "\n") ++
                categoryHeader toUpper pcmd.category ++ "\n"
              category := pcmd.category }
          else st
        .ok { st with strRet := st.strRet ++ firstLine what ++ "\n" }
      else .ok { st with strRet := st.strRet ++ what ++ "\n" }

/-- The loop of `CRPCTable::help` over `vCommands`. -/
def helpLoop (strCommand : String) : List (String × Ptr) → HelpState → Except E HelpState
  | [], st => .ok st
  | command :: rest, st =>
    match helpStep heap toUpper strCommand st command.2 with
    | .error e => .error e
    | .ok st => helpLoop strCommand rest st

/-- `CRPCTable::help`. `strRet` ends in a newline when it is not empty, so
`strRet.substr(0, strRet.size() - 1)` drops that newline. -/
def CRPCTable.help (t : CRPCTable) (strCommand : String) : Except E String :=
  match helpLoop heap toUpper strCommand (vCommands heap t) ⟨"", "", []⟩ with
  | .error e => .error e
  | .ok st =>
    let strRet := if st.strRet = "" then "help: unknown command: " ++ strCommand ++ "\n"
      else st.strRet
    .ok ⟨strRet.data.dropLast⟩

/-! ## What the loop computes -/

/-- The commands the loop asks for help: those past both `continue`s. -/
def selects (strCommand : String) (pcmd : ContextFreeRPCCommand E) : Bool :=
  !hasLabel pcmd.name && (pcmd.name == strCommand || (strCommand == "" && pcmd.category != "hidden"))

/-- The commands asked, each once, in `vCommands` order. -/
def helpSelected (t : CRPCTable) (strCommand : String) : List Ptr :=
  firstOccurrences [] (((vCommands heap t).map Prod.snd).filter fun p => selects strCommand (heap p))

/-- What the asked commands throw: `(category, text)` for each help text, in order, or the first
exception that is no `std::exception`. -/
def collectHelp : List Ptr → Except E (List (String × String))
  | [] => .ok []
  | p :: ps =>
    match (heap p).helpOutcome with
    | .returns => collectHelp ps
    | .throwsText what =>
      match collectHelp ps with
      | .error e => .error e
      | .ok texts => .ok (((heap p).category, what) :: texts)
    | .throwsOther e => .error e

/-- The text the loop appends for one help text, from `(strRet, category)`. -/
def renderStep (strCommand : String) (acc : String × String) (text : String × String) :
    String × String :=
  if strCommand = "" then
    let acc := if acc.2 ≠ text.1 then
      (acc.1 ++ (if acc.2 = "" then "" else "\n") ++ categoryHeader toUpper text.1 ++ "\n", text.1)
      else acc
    (acc.1 ++ firstLine text.2 ++ "\n", acc.2)
  else (acc.1 ++ text.2 ++ "\n", acc.2)

/-- `(strRet, category)` after the loop has appended the given help texts. -/
def renderHelp (strCommand : String) (acc : String × String) (texts : List (String × String)) :
    String × String :=
  texts.foldl (renderStep toUpper strCommand) acc

theorem selects_iff (strCommand : String) (pcmd : ContextFreeRPCCommand E) :
    selects strCommand pcmd = true ↔
      hasLabel pcmd.name = false ∧
        ¬((strCommand ≠ "" ∨ pcmd.category = "hidden") ∧ pcmd.name ≠ strCommand) := by
  by_cases h1 : strCommand = "" <;> by_cases h2 : pcmd.category = "hidden" <;>
    by_cases h3 : pcmd.name = strCommand <;> simp [selects, h1, h2, h3]

/-- One pass: a command not selected or already done is skipped; otherwise it is marked done and
its outcome rendered. -/
theorem helpStep_eq (strCommand : String) (st : HelpState) (p : Ptr) :
    helpStep heap toUpper strCommand st p =
      if selects strCommand (heap p) = false ∨ p ∈ st.setDone then .ok st
      else match (heap p).helpOutcome with
        | .returns => .ok { st with setDone := p :: st.setDone }
        | .throwsOther e => .error e
        | .throwsText what =>
          let acc := renderStep toUpper strCommand (st.strRet, st.category) ((heap p).category, what)
          .ok ⟨acc.1, acc.2, p :: st.setDone⟩ := by
  by_cases hsel : selects strCommand (heap p) = true
  · obtain ⟨hl, hs⟩ := (selects_iff strCommand (heap p)).1 hsel
    simp only [helpStep, hl, hs, hsel, Bool.true_eq_false, Bool.false_eq_true, if_false, false_or]
    by_cases hd : p ∈ st.setDone
    · simp only [hd, if_true]
    · simp only [hd, if_false]
      cases (heap p).helpOutcome with
      | returns => rfl
      | throwsOther e => rfl
      | throwsText what =>
        by_cases hc : strCommand = "" <;> by_cases hcat : st.category = (heap p).category <;>
          simp [renderStep, hc, hcat]
  · have hn := mt (selects_iff strCommand (heap p)).2 hsel
    simp only [Bool.not_eq_true] at hsel
    simp only [helpStep, hsel, true_or, if_true]
    by_cases hl : hasLabel (heap p).name
    · rw [if_pos hl]
    · rw [if_neg hl, if_pos (not_not.1 fun hc => hn ⟨Bool.eq_false_iff.2 hl, hc⟩)]

/-- The loop, from any state, renders what the commands it has not yet asked throw. -/
theorem helpLoop_eq (strCommand : String) (commands : List (String × Ptr)) (st : HelpState) :
    (helpLoop heap toUpper strCommand commands st).map (fun st => (st.strRet, st.category)) =
      (collectHelp heap (firstOccurrences st.setDone
        ((commands.map Prod.snd).filter fun p => selects strCommand (heap p)))).map
        (renderHelp toUpper strCommand (st.strRet, st.category)) := by
  induction commands generalizing st with
  | nil => rfl
  | cons command rest ih =>
    simp only [helpLoop, helpStep_eq, List.map_cons, List.filter_cons]
    by_cases hsel : selects strCommand (heap command.2) = true
    · by_cases hd : command.2 ∈ st.setDone
      · simp only [hsel, hd, or_true, if_true, firstOccurrences]
        exact ih st
      · simp only [hsel, hd, Bool.true_eq_false, or_self, if_false, if_true, firstOccurrences]
        cases ho : (heap command.2).helpOutcome with
        | returns => simp only [collectHelp, ho]; exact ih _
        | throwsOther e => simp [collectHelp, ho, Except.map]
        | throwsText what =>
          simp only [collectHelp, ho, ih]
          cases collectHelp heap _ <;> rfl
    · simp only [Bool.not_eq_true] at hsel
      simp only [hsel, true_or, if_true, Bool.false_eq_true, if_false]
      exact ih st

/-- `help` is `renderHelp` of what the selected commands throw. -/
theorem help_eq (t : CRPCTable) (strCommand : String) :
    t.help heap toUpper strCommand =
      (collectHelp heap (helpSelected heap t strCommand)).map fun texts =>
        let strRet := (renderHelp toUpper strCommand ("", "") texts).1
        ⟨(if strRet = "" then "help: unknown command: " ++ strCommand ++ "\n"
          else strRet).data.dropLast⟩ := by
  have h := helpLoop_eq heap toUpper strCommand (vCommands heap t) ⟨"", "", []⟩
  unfold CRPCTable.help helpSelected
  revert h
  cases helpLoop heap toUpper strCommand (vCommands heap t) ⟨"", "", []⟩ <;>
    cases collectHelp heap (firstOccurrences []
      (((vCommands heap t).map Prod.snd).filter fun p => selects strCommand (heap p))) <;>
    simp only [Except.map, Except.ok.injEq, Except.error.injEq, reduceCtorEq, imp_self,
      IsEmpty.forall_iff, Prod.mk.injEq]
  intro h; rw [← h]

theorem mem_vCommands {t : CRPCTable} {a : String × Ptr} :
    a ∈ vCommands heap t ↔ ∃ k, t.get k = some a.2 ∧ a.1 = (heap a.2).category ++ k := by
  simp only [vCommands, List.mem_insertionSort, List.mem_map, CRPCTable.get,
    ← OrdMap.mem_entries_iff]
  constructor
  · rintro ⟨⟨k, p⟩, hm, rfl⟩
    exact ⟨k, hm, rfl⟩
  · rintro ⟨k, hm, he⟩
    exact ⟨(k, a.2), hm, Prod.ext he.symm rfl⟩

theorem mem_helpSelected {t : CRPCTable} {strCommand : String} {p : Ptr} :
    p ∈ helpSelected heap t strCommand ↔
      (∃ k, t.get k = some p) ∧ selects strCommand (heap p) = true := by
  simp only [helpSelected, mem_firstOccurrences, List.mem_filter, List.mem_map, mem_vCommands,
    List.not_mem_nil, not_false_eq_true, and_true]
  constructor
  · rintro ⟨⟨a, ⟨k, hk, -⟩, rfl⟩, hs⟩
    exact ⟨⟨k, hk⟩, hs⟩
  · rintro ⟨⟨k, hk⟩, hs⟩
    exact ⟨⟨((heap p).category ++ k, p), ⟨k, hk, rfl⟩, rfl⟩, hs⟩

/-! ## `help <command>` -/

theorem renderHelp_append_singleton (strCommand : String) (acc : String × String)
    (texts : List (String × String)) (x : String × String) :
    renderHelp toUpper strCommand acc (texts ++ [x]) =
      renderStep toUpper strCommand (renderHelp toUpper strCommand acc texts) x :=
  List.foldl_append _ _ _ _

/-- For a named command the loop appends each help text whole, then a newline. -/
theorem renderHelp_named {strCommand : String} (hc : strCommand ≠ "")
    {texts : List (String × String)} (h : texts ≠ []) :
    (renderHelp toUpper strCommand ("", "") texts).1 =
      String.intercalate "\n" (texts.map Prod.snd) ++ "\n" := by
  induction texts using List.reverseRecOn with
  | nil => exact absurd rfl h
  | append_singleton ts x ih =>
    rw [renderHelp_append_singleton]
    by_cases hts : ts = []
    · subst hts
      simp [renderHelp, renderStep, hc, String.intercalate, String.intercalate.go]
    · rw [List.map_append, List.map_singleton,
        intercalate_append_singleton _ _ _ (by simpa using hts)]
      simp only [renderStep, hc, if_false, ih hts, String.append_assoc]

/-- `help c`, for a name `c`, is the whole help text of each distinct command named `c`, one after
the other on their own lines, in the order of the sorted table; a name containing `label` is
never found. An exception other than a `std::exception` from an actor passes through. -/
theorem help_named (t : CRPCTable) {strCommand : String} (hc : strCommand ≠ "") :
    t.help heap toUpper strCommand =
      (collectHelp heap (helpSelected heap t strCommand)).map (fun texts =>
        if texts = [] then "help: unknown command: " ++ strCommand
        else String.intercalate "\n" (texts.map Prod.snd)) ∧
    (helpSelected heap t strCommand).Nodup ∧
    ∀ p, p ∈ helpSelected heap t strCommand ↔
      (∃ k, t.get k = some p) ∧ (heap p).name = strCommand ∧ hasLabel strCommand = false := by
  refine ⟨?_, nodup_firstOccurrences _ _, fun p => ?_⟩
  · rw [help_eq]
    congr 1
    funext texts
    by_cases h : texts = []
    · subst h
      simp only [renderHelp, List.foldl_nil, if_true, dropLast_newline]
    · simp only [renderHelp_named toUpper hc h, h, if_false, append_newline_ne_empty,
        dropLast_newline]
  · rw [mem_helpSelected, selects_iff]
    by_cases hn : (heap p).name = strCommand
    · simp [hn, hc]
    · simp [hn, hc]

theorem help_named_uptime :
    "uptime" ≠ "" ∧
      (tableRPC.help builtinHeap Char.toUpper "uptime" =
          (collectHelp builtinHeap (helpSelected builtinHeap tableRPC "uptime")).map (fun texts =>
            if texts = [] then "help: unknown command: " ++ "uptime"
            else String.intercalate "\n" (texts.map Prod.snd)) ∧
        (helpSelected builtinHeap tableRPC "uptime").Nodup ∧
        ∀ p, p ∈ helpSelected builtinHeap tableRPC "uptime" ↔
          (∃ k, tableRPC.get k = some p) ∧ (builtinHeap p).name = "uptime" ∧
            hasLabel "uptime" = false) :=
  ⟨by decide, help_named builtinHeap Char.toUpper tableRPC (by decide)⟩

example : tableRPC.help builtinHeap Char.toUpper "stop" = .ok "stop\n\nStop DeVault server." := by
  simp only [CRPCTable.help, vCommands, tableRPC_entries]; rfl

example : tableRPC.help builtinHeap Char.toUpper "getlabel" =
    .ok "help: unknown command: getlabel" := by
  simp only [CRPCTable.help, vCommands, tableRPC_entries]; rfl

/-! ## The overview -/

/-- A category's block in the overview: its header, then the first line of the help of each of
its commands, in listing order. -/
def categoryBlock (texts : List (String × String)) (c : String) : String :=
  (texts.filter (·.1 = c)).foldl (fun b t => b ++ "\n" ++ firstLine t.2) (categoryHeader toUpper c)

/-- The overview as it is meant to read: each category once, in the order the listing first
reaches it, each block apart from the next by an empty line. -/
def overviewText (texts : List (String × String)) : String :=
  String.intercalate "\n\n"
    ((firstOccurrences [] (texts.map Prod.fst)).map (categoryBlock toUpper texts))

theorem categoryBlock_append_singleton (texts : List (String × String)) (x : String × String)
    (c : String) :
    categoryBlock toUpper (texts ++ [x]) c =
      if x.1 = c then categoryBlock toUpper texts c ++ "\n" ++ firstLine x.2
      else categoryBlock toUpper texts c := by
  by_cases h : x.1 = c <;> simp [categoryBlock, List.filter_append, h]

theorem categoryBlock_of_not_mem {texts : List (String × String)} {c : String}
    (h : c ∉ texts.map Prod.fst) : categoryBlock toUpper texts c = categoryHeader toUpper c := by
  rw [categoryBlock,
    List.filter_eq_nil_iff.2 fun a ha hc => h (List.mem_map.2 ⟨a, ha, by simpa using hc⟩)]
  rfl

theorem le_getLast_of_pairwise {l : List (String × String)} (hs : l.Pairwise fun a b => a.1 ≤ b.1)
    (h : l ≠ []) {a : String × String} (ha : a ∈ l) : a.1 ≤ (l.getLast h).1 := by
  rw [← List.dropLast_append_getLast h, List.mem_append, List.mem_singleton] at ha
  rcases ha with ha | rfl
  · rw [← List.dropLast_append_getLast h] at hs
    exact hs.rel_of_mem_append ha (List.mem_singleton_self _)
  · exact le_rfl

/-- A help text of the last category lengthens the last block. -/
theorem blocks_append_same {ts : List (String × String)} {x : String × String}
    {cs : List String} (hx : x.1 ∉ cs) :
    String.intercalate "\n\n" ((cs ++ [x.1]).map (categoryBlock toUpper (ts ++ [x]))) =
      String.intercalate "\n\n" ((cs ++ [x.1]).map (categoryBlock toUpper ts)) ++ "\n" ++
        firstLine x.2 := by
  have hcs : cs.map (categoryBlock toUpper (ts ++ [x])) = cs.map (categoryBlock toUpper ts) :=
    List.map_congr_left fun c hc => by
      rw [categoryBlock_append_singleton, if_neg fun h => hx (by rwa [h])]
  simp only [List.map_append, List.map_singleton, hcs, categoryBlock_append_singleton, if_true]
  by_cases h : cs = []
  · simp [h, String.intercalate, String.intercalate.go]
  · rw [intercalate_append_singleton _ _ _ (by simpa using h),
      intercalate_append_singleton _ _ _ (by simpa using h)]
    simp only [String.append_assoc]

/-- A help text of a new category adds a block. -/
theorem blocks_append_new {ts : List (String × String)} {x : String × String}
    {cs : List String} (hcs : cs ≠ []) (hx : x.1 ∉ ts.map Prod.fst) (hsub : ∀ c ∈ cs, c ≠ x.1) :
    String.intercalate "\n\n" ((cs ++ [x.1]).map (categoryBlock toUpper (ts ++ [x]))) =
      String.intercalate "\n\n" (cs.map (categoryBlock toUpper ts)) ++ "\n\n" ++
        categoryHeader toUpper x.1 ++ "\n" ++ firstLine x.2 := by
  have hcs' : cs.map (categoryBlock toUpper (ts ++ [x])) = cs.map (categoryBlock toUpper ts) :=
    List.map_congr_left fun c hc => by
      rw [categoryBlock_append_singleton, if_neg fun h => hsub c hc h.symm]
  rw [List.map_append, List.map_singleton, hcs',
    intercalate_append_singleton _ _ _ (by simpa using hcs), categoryBlock_append_singleton,
    if_pos rfl, categoryBlock_of_not_mem toUpper hx]
  simp only [String.append_assoc]

/-- When the listing is sorted by category and no category is empty, the loop writes the overview
and ends in the last listed category, which is the last of the categories. -/
theorem renderHelp_overview {texts : List (String × String)}
    (hs : texts.Pairwise fun a b => a.1 ≤ b.1) (hne : ∀ t ∈ texts, t.1 ≠ "") (h : texts ≠ []) :
    renderHelp toUpper "" ("", "") texts =
        (overviewText toUpper texts ++ "\n", (texts.getLast h).1) ∧
      (firstOccurrences [] (texts.map Prod.fst)).getLast? = some (texts.getLast h).1 := by
  induction texts using List.reverseRecOn with
  | nil => exact absurd rfl h
  | append_singleton ts x ih =>
    obtain ⟨hts, -, hx⟩ := List.pairwise_append.1 hs
    have hx : ∀ a ∈ ts, a.1 ≤ x.1 := fun a ha => hx a ha x (List.mem_singleton_self x)
    have hxne : x.1 ≠ "" := hne x (List.mem_append_right _ (List.mem_singleton_self x))
    rw [List.getLast_append_singleton, overviewText, renderHelp_append_singleton, List.map_append,
      List.map_singleton, firstOccurrences_append_singleton]
    by_cases h0 : ts = []
    · subst h0
      simp [renderHelp, renderStep, hxne.symm, firstOccurrences, categoryBlock,
        String.intercalate, String.intercalate.go]
    obtain ⟨hr, hlast⟩ := ih hts (fun t ht => hne t (List.mem_append_left _ ht)) h0
    have hmx : (ts.getLast h0).1 ≤ x.1 := hx _ (List.getLast_mem h0)
    have hmne : (ts.getLast h0).1 ≠ "" := hne _ (List.mem_append_left _ (List.getLast_mem h0))
    obtain ⟨cs, hcs⟩ : ∃ cs, firstOccurrences [] (ts.map Prod.fst) = cs ++ [(ts.getLast h0).1] :=
      ⟨_, (List.dropLast_append_getLast? _ hlast).symm⟩
    have hm : (ts.getLast h0).1 ∉ cs := fun hm =>
      (List.nodup_append.1 (hcs ▸ nodup_firstOccurrences [] (ts.map Prod.fst))).2.2 hm
        (List.mem_singleton_self _)
    rw [hr, overviewText, hcs]
    by_cases hxm : x.1 = (ts.getLast h0).1
    · have hmem : x.1 ∈ ts.map Prod.fst := hxm ▸ List.mem_map_of_mem _ (List.getLast_mem h0)
      rw [if_pos (Or.inl hmem), List.append_nil, ← hxm,
        blocks_append_same toUpper (by rwa [hxm])]
      simp [renderStep, String.append_assoc]
    · have hnm : x.1 ∉ ts.map Prod.fst := fun hmem => by
        obtain ⟨a, ha, hax⟩ := List.mem_map.1 hmem
        exact hxm (le_antisymm (hax ▸ le_getLast_of_pairwise hts h0 ha) hmx)
      have hsub : ∀ c ∈ cs ++ [(ts.getLast h0).1], c ≠ x.1 := fun c hc hcx => by
        rw [← hcs, mem_firstOccurrences, hcx] at hc
        exact hnm hc.1
      rw [if_neg (not_or.2 ⟨hnm, List.not_mem_nil _⟩), blocks_append_new toUpper (by simp) hnm hsub]
      simp [renderStep, Ne.symm hxm, hmne, String.append_assoc]

/-- A command's category is no greater than that of a command after it in `vCommands`, unless the
later one's category is a proper prefix of the earlier one's: the sort compares
`category + name`. -/
theorem category_le_of_key_le {c d k l : String} (h : c ++ k ≤ d ++ l)
    (hpf : d.data <+: c.data → d = c) : c ≤ d := by
  by_contra hlt
  rw [not_le] at hlt
  have hp : ¬ d.data <+: c.data := fun hp => lt_irrefl c (hpf hp ▸ hlt)
  exact not_le.2 (String.lt_iff_toList_lt.2
    (append_lt_append_of_lt (String.lt_iff_toList_lt.1 hlt) hp l.data k.data)) h

theorem vCommands_sorted (t : CRPCTable) :
    (vCommands heap t).Pairwise fun a b => toLex (a.1.data, a.2) ≤ toLex (b.1.data, b.2) := by
  haveI : IsTotal (String × Ptr) fun a b => toLex (a.1.data, a.2) ≤ toLex (b.1.data, b.2) :=
    ⟨fun a b => le_total _ _⟩
  haveI : IsTrans (String × Ptr) fun a b => toLex (a.1.data, a.2) ≤ toLex (b.1.data, b.2) :=
    ⟨fun _ _ _ => le_trans⟩
  exact List.sorted_insertionSort _ _

/-- When no category of a command the overview asks is a proper prefix of another, it asks them
in category order. -/
theorem helpSelected_sorted (t : CRPCTable)
    (hpf : ∀ p ∈ helpSelected heap t "", ∀ q ∈ helpSelected heap t "",
      (heap p).category.data <+: (heap q).category.data → (heap p).category = (heap q).category) :
    (helpSelected heap t "").Pairwise fun p q => (heap p).category ≤ (heap q).category := by
  have hall : ((vCommands heap t).map Prod.snd).Pairwise fun p q => selects "" (heap p) = true →
      selects "" (heap q) = true → (heap p).category ≤ (heap q).category := by
    rw [List.pairwise_map]
    refine (vCommands_sorted heap t).imp_of_mem fun {a b} ha hb hab hsa hsb => ?_
    obtain ⟨k, hk, hka⟩ := (mem_vCommands heap).1 ha
    obtain ⟨l, hl, hlb⟩ := (mem_vCommands heap).1 hb
    have hkey : a.1 ≤ b.1 := String.le_iff_toList_le.2
      (((Prod.Lex.le_iff _ _).1 hab).elim le_of_lt fun h => h.1.le)
    rw [hka, hlb] at hkey
    exact category_le_of_key_le hkey
      (hpf _ (mem_helpSelected heap |>.2 ⟨⟨l, hl⟩, hsb⟩) _
        (mem_helpSelected heap |>.2 ⟨⟨k, hk⟩, hsa⟩))
  exact ((hall.filter _).imp_of_mem fun ha hb h =>
    h (List.mem_filter.1 ha).2 (List.mem_filter.1 hb).2).sublist (firstOccurrences_sublist _ _)

/-- The help texts come in the order of the commands asked. -/
theorem collectHelp_sublist {ps : List Ptr} {texts : List (String × String)}
    (h : collectHelp heap ps = .ok texts) :
    List.Sublist (texts.map Prod.fst) (ps.map fun p => (heap p).category) := by
  induction ps generalizing texts with
  | nil => cases h; exact .slnil
  | cons p ps ih =>
    simp only [collectHelp] at h
    split at h
    · exact (ih h).cons _
    · split at h
      · cases h
      · cases h
        exact (ih ‹_›).cons₂ _
    · cases h

/-- `help` with no command: when no category of a listed command is empty or a proper prefix of
another, each category appears once, under its header, with the first line of the help of each
of its commands; with no help text at all it is the unknown-command line. -/
theorem help_overview (t : CRPCTable)
    (hne : ∀ p ∈ helpSelected heap t "", (heap p).category ≠ "")
    (hpf : ∀ p ∈ helpSelected heap t "", ∀ q ∈ helpSelected heap t "",
      (heap p).category.data <+: (heap q).category.data → (heap p).category = (heap q).category) :
    t.help heap toUpper "" =
      (collectHelp heap (helpSelected heap t "")).map fun texts =>
        if texts = [] then "help: unknown command: " else overviewText toUpper texts := by
  rw [help_eq]
  cases hc : collectHelp heap (helpSelected heap t "") with
  | error e => rfl
  | ok texts =>
    have hsub := collectHelp_sublist heap hc
    by_cases h : texts = []
    · subst h
      simp only [Except.map, renderHelp, List.foldl_nil, if_true, dropLast_newline,
        String.append_empty]
    · have hs : texts.Pairwise fun a b => a.1 ≤ b.1 :=
        List.pairwise_map.1 ((List.pairwise_map.2 (helpSelected_sorted heap t hpf)).sublist hsub)
      have hne' : ∀ x ∈ texts, x.1 ≠ "" := fun x hx => by
        obtain ⟨p, hp, hpx⟩ := List.mem_map.1 (hsub.subset (List.mem_map_of_mem _ hx))
        exact hpx ▸ hne p hp
      simp only [Except.map, (renderHelp_overview toUpper hs hne' h).1, h, if_false,
        append_newline_ne_empty, dropLast_newline]

/-- Commands of two categories, neither a prefix of the other: `help` and `stop` under
`control`, `validateaddress` under `util`. -/
def twoCategoryHeap (p : Ptr) : ContextFreeRPCCommand String :=
  ([⟨"control", "help", [], .throwsText "help ( \"command\" )\n\nList all commands."⟩,
    ⟨"control", "stop", [], .throwsText "stop\n\nStop the server."⟩,
    ⟨"util", "validateaddress", [], .throwsText "validateaddress \"address\"\n\nCheck it."⟩] :
      List (ContextFreeRPCCommand String)).getD p ⟨"", "", [], .returns⟩

/-- The table of `twoCategoryHeap`, keyed by name. -/
def twoCategoryTable : CRPCTable :=
  ⟨⟨[("help", 0), ("stop", 1), ("validateaddress", 2)], by simp; decide⟩⟩

theorem help_overview_two_categories :
    (∀ p ∈ helpSelected twoCategoryHeap twoCategoryTable "",
      (twoCategoryHeap p).category ≠ "") ∧
      (∀ p ∈ helpSelected twoCategoryHeap twoCategoryTable "",
        ∀ q ∈ helpSelected twoCategoryHeap twoCategoryTable "",
          (twoCategoryHeap p).category.data <+: (twoCategoryHeap q).category.data →
            (twoCategoryHeap p).category = (twoCategoryHeap q).category) ∧
      twoCategoryTable.help twoCategoryHeap Char.toUpper "" =
        (collectHelp twoCategoryHeap (helpSelected twoCategoryHeap twoCategoryTable "")).map
          fun texts => if texts = [] then "help: unknown command: "
            else overviewText Char.toUpper texts := by
  have hne : ∀ p ∈ helpSelected twoCategoryHeap twoCategoryTable "",
      (twoCategoryHeap p).category ≠ "" := by
    decide
  have hpf : ∀ p ∈ helpSelected twoCategoryHeap twoCategoryTable "",
      ∀ q ∈ helpSelected twoCategoryHeap twoCategoryTable "",
        (twoCategoryHeap p).category.data <+: (twoCategoryHeap q).category.data →
          (twoCategoryHeap p).category = (twoCategoryHeap q).category := by
    decide
  exact ⟨hne, hpf, help_overview _ _ _ hne hpf⟩

/-- Each category once, in order, under its header. -/
example : twoCategoryTable.help twoCategoryHeap Char.toUpper "" =
    .ok ("== Control ==\nhelp ( \"command\" )\nstop\n\n" ++
      "== Util ==\nvalidateaddress \"address\"") :=
  rfl

example : tableRPC.help builtinHeap Char.toUpper "" =
    .ok "== Control ==\nhelp ( \"command\" )\nstop\nuptime" := by
  simp only [CRPCTable.help, vCommands, tableRPC_entries]; rfl

/-- Categories `a` and `ab`: `a` + `b` < `ab` + `c` < `a` + `zz`, so the overview prints the
header of `a` twice. -/
example :
    CRPCTable.help (fun p => ([⟨"a", "b", [], .throwsText "b"⟩, ⟨"ab", "c", [], .throwsText "c"⟩,
        ⟨"a", "zz", [], .throwsText "zz"⟩] : List (ContextFreeRPCCommand String)).getD p
          ⟨"", "", [], .returns⟩) Char.toUpper
      ⟨⟨[("b", 0), ("c", 1), ("zz", 2)], by simp; decide⟩⟩ "" =
      .ok "== A ==\nb\n\n== Ab ==\nc\n\n== A ==\nzz" := rfl

end DeVault.Rpc
