import AgentServe.Accounting.SnapshotText

/-!
# Budgets that survive restarts

A gateway saves the windows of its accountant to a file every now and then, and when it
stops. It may also just die, between two saves or in the middle of one. The process that
is started next reads what is in the file by then, and goes on.

What the agents are told meanwhile needs no windows, file or text to be said. There are
the calls that count, and the calls that were saved. A call is answered from the ledger of
the calls that count. Saving keeps them, a restart goes back to those that were kept, and
after a death in the middle of a save nothing counts any more. Under one clock, a gateway
with its file gives exactly these answers (`restarts_keep_saved_calls`).
-/

set_option autoImplicit false

namespace AgentServe

open Lib JsonText

/-! ## The process and its file -/

/-- A gateway process and the file it saves to, if there is one. -/
structure Host where
  accountant : RawAccountant
  file : Option (List Char)

inductive HostEvent where
  /-- A call on the accountant. -/
  | call (c : AccountantCall)
  /-- The loop that saves comes round. -/
  | save
  /-- The process ends, and another one starts. -/
  | restart
  /-- The process dies before the last character of a save is written, and another one starts. -/
  | die (written : ℕ)

inductive HostAnswer where
  | answered (answer : Except PyError RawAnswer)
  | done

namespace Host

/-- A process that starts with a file. -/
def start (codec : JsonCodec) (config : AdmissionConfig) (file : Option (List Char))
    (now : Time) : Host where
  accountant := ((TokenAccountant.new config).raw.restore (snapshotFile codec file) now).1
  file := file

/-- The file of a process that dies while it saves. -/
def torn (codec : JsonCodec) (h : Host) (written : ℕ) : Option (List Char) :=
  ((h.accountant.saveText codec).map fun text => text.dropLast.take written).or h.file

def step (codec : JsonCodec) (config : AdmissionConfig) (h : Host) (e : Time × HostEvent) :
    Host × HostAnswer :=
  match e.2 with
  | .call c =>
    let (next, answer) := h.accountant.call (e.1, c)
    ({ h with accountant := next }, .answered answer)
  | .save => ({ h with file := h.accountant.save codec h.file }, .done)
  | .restart => (start codec config h.file e.1, .done)
  | .die written => (start codec config (h.torn codec written) e.1, .done)

end Host

/-! ## The calls that count -/

/-- The calls that count, and the calls that were saved. -/
structure Books where
  counted : List (Time × AccountantCall) := []
  saved : List (Time × AccountantCall) := []

/-- The answer to a call, from the calls that count. -/
def ledgerAnswer (config : AdmissionConfig) (counted : List (Time × AccountantCall))
    (e : Time × AccountantCall) : AccountantAnswer :=
  let used := fun agentId => debitedBetween (e.1 - config.budgetWindowSeconds) e.1 agentId counted
  match e.2 with
  | .debit _ _ _ => .debited
  | .checkBudget agentId estimated =>
    .checked (used agentId + estimated ≤ config.defaultTokenBudget)
  | .getUsage agentId =>
    .usage ⟨agentId, used agentId, config.defaultTokenBudget, config.budgetWindowSeconds⟩

def Books.step (config : AdmissionConfig) (b : Books) (e : Time × HostEvent) :
    Books × HostAnswer :=
  match e.2 with
  | .call c =>
    ({ b with counted := b.counted ++ [(e.1, c)] },
      .answered (.ok (ledgerAnswer config b.counted (e.1, c)).raw))
  | .save => ({ b with saved := b.counted }, .done)
  | .restart => ({ b with counted := b.saved }, .done)
  | .die _ => ({}, .done)

/-! ## Unchecked windows of a checked accountant -/

theorem raw_add (w : WindowState) (tokens : ℤ) (now : Time) :
    (w.add tokens now).raw = w.raw.add tokens now := by
  have kept := rawFrom_rawEntries w.entries (now - w.windowSeconds)
  simp only [WindowState.raw, WindowState.add, WindowState.evictExpired, RawWindow.add,
    RawWindow.evictExpired, rawEntries, List.map_append] at kept ⊢
  rw [← rawFrom, kept]
  rfl

theorem raw_evictExpired (w : WindowState) (now : Time) :
    (w.evictExpired now).raw = w.raw.evictExpired now := by
  have kept := rawFrom_rawEntries w.entries (now - w.windowSeconds)
  simp only [WindowState.raw, WindowState.evictExpired, RawWindow.evictExpired]
  rw [← rawFrom, kept]

/-- A call on unchecked windows is the call on the checked ones. -/
theorem call_raw (a : TokenAccountant) (e : Time × AccountantCall) :
    a.raw.call e = ((a.call e).1.raw, .ok (a.call e).2.raw) := by
  have answer := (TokenAccountant.rawAlike_call (a.rawAlike_raw e.1) e le_rfl).1
  refine Prod.ext ?_ answer
  obtain ⟨now, operation⟩ := e
  cases operation with
  | debit agentId input output =>
      simp only [RawAccountant.call, TokenAccountant.call, TokenAccountant.debit, raw_setState,
        raw_add, TokenAccountant.stateOf_raw]
  | checkBudget agentId estimated =>
      simp only [RawAccountant.call, TokenAccountant.call, TokenAccountant.checkBudget,
        raw_setState, TokenAccountant.stateOf_raw]
      exact congrArg _ (raw_evictExpired _ now).symm
  | getUsage agentId =>
      simp only [RawAccountant.call, TokenAccountant.call, TokenAccountant.getUsage,
        raw_setState, TokenAccountant.stateOf_raw]
      exact congrArg _ (raw_evictExpired _ now).symm

/-! ## Accountants that know the calls that count -/

/-- An integer whose digits are written. -/
def Short (n : ℤ) : Prop := Floats.digitCount n.natAbs ≤ Number.maxStrDigits

/-- The settings can be written and read back. -/
structure Keepable (config : AdmissionConfig) : Prop where
  budget : Short config.defaultTokenBudget
  window : Short config.budgetWindowSeconds
  length : config.budgetWindowSeconds.natAbs < PyData.floatLimit

/-- An accountant reads from its windows what the calls that count have debited, as far back as it
ever looks from now on, and its entries can be written and read back. -/
structure Reflects (codec : JsonCodec) (config : AdmissionConfig)
    (counted : List (Time × AccountantCall)) (now : Time) (a : TokenAccountant) : Prop where
  configured : a.Configured
  settings : a.config = config
  past : ∀ e ∈ counted, e.1 ≤ now
  reads : ∀ agentId oldest, now - config.budgetWindowSeconds ≤ oldest →
    since (a.stateOf agentId).entries oldest = since (ledger agentId counted) oldest
  storable : ∀ agentId, ∀ entry ∈ (a.stateOf agentId).entries,
    codec.floats.ReadsBack entry.1 ∧ Short entry.2

/-- A call whose time and tokens can be written and read back. -/
def Storable (codec : JsonCodec) (e : Time × AccountantCall) : Prop :=
  codec.floats.ReadsBack e.1 ∧ ∀ agentId, ∀ entry ∈ ledger agentId [e], Short entry.2

theorem storable_debit {codec : JsonCodec} {now : Time} (reads : codec.floats.ReadsBack now)
    (agentId : String) {input output : ℤ} (short : Short (input + output)) :
    Storable codec (now, .debit agentId input output) := by
  refine ⟨reads, fun other entry member => ?_⟩
  simp only [ledger, List.filterMap_cons, AccountantCall.entry?] at member
  by_cases own : agentId = other
  · simp only [own, if_true, List.filterMap_nil, List.mem_singleton] at member
    rw [member]
    exact short
  · simp [own] at member

theorem storable_of_no_debit {codec : JsonCodec} {e : Time × AccountantCall}
    (reads : codec.floats.ReadsBack e.1) (quiet : e.2.isDebit = false) : Storable codec e := by
  refine ⟨reads, fun agentId entry member => ?_⟩
  rw [ledger_eq_nil_of_no_debit (List.forall_mem_singleton.mpr quiet)] at member
  cases member

/-- A window has no other entries after a call than before, but for what the call enters. -/
theorem mem_entries_call {a : TokenAccountant} {e : Time × AccountantCall} {agentId : String}
    {entry : Time × ℤ} (member : entry ∈ ((a.call e).1.stateOf agentId).entries) :
    entry ∈ (a.stateOf agentId).entries ∨ entry ∈ ledger agentId [e] := by
  obtain ⟨now, operation⟩ := e
  cases operation with
  | debit other input output =>
      simp only [TokenAccountant.call, TokenAccountant.debit, TokenAccountant.stateOf_setState]
        at member
      split at member
      · rename_i own
        subst own
        rcases List.mem_append.mp member with old | new
        · exact .inl (List.mem_of_mem_filter old)
        · refine .inr ?_
          rw [ledger, List.filterMap_cons, AccountantCall.entry?, if_pos rfl]
          exact new
      · exact .inl member
  | checkBudget other estimated =>
      simp only [TokenAccountant.call, TokenAccountant.checkBudget,
        TokenAccountant.stateOf_setState] at member
      split at member
      · rename_i own
        subst own
        exact .inl (List.mem_of_mem_filter member)
      · exact .inl member
  | getUsage other =>
      simp only [TokenAccountant.call, TokenAccountant.getUsage,
        TokenAccountant.stateOf_setState] at member
      split at member
      · rename_i own
        subst own
        exact .inl (List.mem_of_mem_filter member)
      · exact .inl member

/-- What a call enters has the time of the call. -/
theorem time_of_mem_ledger {agentId : String} {e : Time × AccountantCall} {entry : Time × ℤ}
    (member : entry ∈ ledger agentId [e]) : entry.1 = e.1 := by
  obtain ⟨now, operation⟩ := e
  cases operation with
  | debit other input output =>
      simp only [ledger, List.filterMap_cons, AccountantCall.entry?] at member
      split at member
      · cases member
      · rename_i entered
        split at entered
        · cases entered
          rw [List.mem_singleton.mp member]
        · cases entered
  | checkBudget => cases member
  | getUsage => cases member

namespace Reflects

variable {codec : JsonCodec} {config : AdmissionConfig} {now later : Time}
  {counted : List (Time × AccountantCall)} {a : TokenAccountant}

theorem new (codec : JsonCodec) (config : AdmissionConfig) (now : Time) :
    Reflects codec config [] now (.new config) where
  configured := TokenAccountant.configured_new config
  settings := rfl
  past := nofun
  reads := fun _ _ _ => rfl
  storable := fun _ _ member => absurd member List.not_mem_nil

theorem mono (reflects : Reflects codec config counted now a) (order : now ≤ later) :
    Reflects codec config counted later a where
  configured := reflects.configured
  settings := reflects.settings
  past := fun e member => (reflects.past e member).trans order
  reads := fun agentId oldest recent =>
    reflects.reads agentId oldest ((sub_le_sub_right order _).trans recent)
  storable := reflects.storable

theorem length (reflects : Reflects codec config counted now a) (agentId : String) :
    (a.stateOf agentId).windowSeconds = config.budgetWindowSeconds := by
  rw [(reflects.configured agentId).2, reflects.settings]

/-- What an agent has used now. -/
theorem used (reflects : Reflects codec config counted now a) (agentId : String) :
    ((a.stateOf agentId).currentUsage now).2 =
      debitedBetween (now - config.budgetWindowSeconds) now agentId counted := by
  have read := reflects.reads agentId (now - config.budgetWindowSeconds) le_rfl
  rw [TokenAccountant.since_ledger reflects.past] at read
  rw [← read, ← reflects.length agentId]
  rfl

/-- A call is answered from the calls that count. -/
theorem answer (reflects : Reflects codec config counted now a) (c : AccountantCall) :
    (a.call (now, c)).2 = ledgerAnswer config counted (now, c) := by
  have budget : ∀ agentId, (a.stateOf agentId).budget = config.defaultTokenBudget := by
    intro agentId
    rw [(reflects.configured agentId).1, reflects.settings]
  cases c with
  | debit agentId input output => rfl
  | checkBudget agentId estimated =>
      have kept : ((a.stateOf agentId).currentUsage now).1.budget = config.defaultTokenBudget :=
        budget agentId
      simp only [TokenAccountant.call, TokenAccountant.checkBudget, WindowState.hasBudget,
        ledgerAnswer, reflects.used, kept]
  | getUsage agentId =>
      simp only [TokenAccountant.call, TokenAccountant.getUsage, ledgerAnswer, reflects.used,
        budget, reflects.length]

/-- Step lemma: after a call, that call counts as well. -/
theorem call (reflects : Reflects codec config counted now a) {c : AccountantCall}
    (storable : Storable codec (now, c)) :
    Reflects codec config (counted ++ [(now, c)]) now (a.call (now, c)).1 where
  configured := TokenAccountant.configured_call reflects.configured _
  settings := (TokenAccountant.config_call a _).trans reflects.settings
  past := by
    intro e member
    rcases List.mem_append.mp member with old | new
    · exact reflects.past e old
    · rw [List.mem_singleton.mp new]
  reads := by
    intro agentId oldest recent
    have entered := TokenAccountant.since_call a (now, c) agentId
      (show now - (a.stateOf agentId).windowSeconds ≤ oldest by
        rw [reflects.length]
        exact recent)
    have both : ledger agentId (counted ++ [(now, c)]) =
        ledger agentId counted ++ ledger agentId [(now, c)] := List.filterMap_append
    rw [entered, both, since_append, reflects.reads agentId oldest recent]
  storable := by
    intro agentId entry member
    rcases mem_entries_call member with old | new
    · exact reflects.storable agentId entry old
    · refine ⟨?_, storable.2 agentId entry new⟩
      rw [time_of_mem_ledger new]
      exact storable.1

/-- Windows from which only what is too old was dropped read the same. -/
theorem evicted (reflects : Reflects codec config counted now a) {b : TokenAccountant}
    (settings : b.config = a.config)
    (windows : ∀ agentId, b.stateOf agentId = (a.stateOf agentId).evictExpired now) :
    Reflects codec config counted now b where
  configured := by
    intro agentId
    rw [windows, settings]
    exact reflects.configured agentId
  settings := settings.trans reflects.settings
  past := reflects.past
  reads := by
    intro agentId oldest recent
    rw [← reflects.reads agentId oldest recent, windows, WindowState.evictExpired,
      reflects.length]
    exact since_filter _ recent
  storable := by
    intro agentId entry member
    rw [windows] at member
    exact reflects.storable agentId entry (List.mem_of_mem_filter member)

/-! ## Saving and starting again -/

/-- A window with few digits can be written. -/
theorem written_encode (floats : FloatText) {w : RawWindow} (budget : Short w.budget)
    (window : Short w.windowSeconds)
    (tokens : ∀ entry ∈ w.entries, ∃ n, entry.2 = .int n ∧ Short n) :
    ∃ text, dumps floats w.encode = some text := by
  have numbers : ∀ {n : ℤ}, Short n → ∃ text, dumps floats (.int n) = some text := by
    intro n short
    exact ⟨intText n, by rw [dumps]; exact if_pos short⟩
  have entries : ∃ text, dumps floats
      (.list (w.entries.map fun e => .list [.float e.1, e.2])) = some text := by
    apply dumps_list
    intro v member
    obtain ⟨entry, inside, rfl⟩ := List.mem_map.mp member
    obtain ⟨n, same, short⟩ := tokens entry inside
    apply dumps_list
    rw [same]
    exact List.forall_mem_cons.mpr
      ⟨⟨_, rfl⟩, List.forall_mem_cons.mpr ⟨numbers short, fun _ none => absurd none (by simp)⟩⟩
  apply dumps_dict
  simp only [List.forall_mem_cons]
  exact ⟨entries, numbers budget, numbers window, fun _ none => absurd none (by simp)⟩

/-- What reflects calls that can be written can be saved. -/
theorem saves (reflects : Reflects codec config counted now a) (keepable : Keepable config) :
    ∃ text, a.raw.saveText codec = some text := by
  apply dumps_dict
  intro e member
  have found := Dict.mem_items_iff.mp member
  rw [Dict.get?_map, TokenAccountant.raw, Dict.get?_map, Option.map_map] at found
  obtain ⟨w, at_agent, encoded⟩ := Option.map_eq_some_iff.mp found
  have state : a.stateOf e.1 = w := by
    rw [TokenAccountant.stateOf, at_agent, Option.getD_some]
  have settings := reflects.configured e.1
  have storable := reflects.storable e.1
  rw [state, reflects.settings] at settings
  rw [state] at storable
  rw [← encoded]
  apply written_encode
  · show Short w.budget
    rw [settings.1]
    exact keepable.budget
  · show Short w.windowSeconds
    rw [settings.2]
    exact keepable.window
  · intro entry inside
    obtain ⟨original, kept, rfl⟩ := List.mem_map.mp inside
    exact ⟨original.2, rfl, (storable original kept).2⟩

theorem writable (reflects : Reflects codec config counted now a) (keepable : Keepable config) :
    Writable codec.floats a where
  times := by
    intro agentId w at_agent e member
    have state : a.stateOf agentId = w := by
      rw [TokenAccountant.stateOf, at_agent, Option.getD_some]
    exact (reflects.storable agentId e (by rw [state]; exact member)).1
  lengths := by
    intro agentId w at_agent
    have state : a.stateOf agentId = w := by
      rw [TokenAccountant.stateOf, at_agent, Option.getD_some]
    rw [← state, reflects.length]
    exact keepable.length

end Reflects

/-- A file that is not restored. -/
def Ignored (codec : JsonCodec) (file : Option (List Char)) : Prop :=
  ∀ (a : RawAccountant) now, a.restore (snapshotFile codec file) now = (a, .ok ())

theorem ignored_none (codec : JsonCodec) : Ignored codec none := fun _ _ => rfl

/-- A process and its file are as the calls that count and the calls that were saved say. -/
structure Represents (codec : JsonCodec) (config : AdmissionConfig) (now : Time) (h : Host)
    (b : Books) : Prop where
  accountant : ∃ a : TokenAccountant, h.accountant = a.raw ∧
    Reflects codec config b.counted now a
  file : (∃ a : TokenAccountant, h.file = a.raw.saveText codec ∧
      Reflects codec config b.saved now a) ∨
    b.saved = [] ∧ Ignored codec h.file

namespace Represents

variable {codec : JsonCodec} {config : AdmissionConfig} {now later : Time} {h : Host} {b : Books}

theorem mono (represents : Represents codec config now h b) (order : now ≤ later) :
    Represents codec config later h b where
  accountant := represents.accountant.imp fun _ both => ⟨both.1, both.2.mono order⟩
  file := represents.file.imp_left (Exists.imp fun _ both => ⟨both.1, both.2.mono order⟩)

theorem ignored (codec : JsonCodec) (config : AdmissionConfig) (now : Time)
    {file : Option (List Char)} (ignored : Ignored codec file) :
    Represents codec config now (Host.start codec config file now) {} where
  accountant := by
    refine ⟨.new config, ?_, .new codec config now⟩
    rw [Host.start, ignored]
  file := .inr ⟨rfl, ignored⟩

/-- A process that starts again goes back to what was saved. -/
theorem restart (represents : Represents codec config now h b) (deep : 5 ≤ codec.depth)
    (keepable : Keepable config) :
    Represents codec config now (Host.start codec config h.file now)
      { b with counted := b.saved } where
  accountant := by
    rcases represents.file with ⟨a, file, reflects⟩ | ⟨nothing, ignored⟩
    · obtain ⟨text, saved⟩ := reflects.saves keepable
      obtain ⟨c, restored, settings, windows⟩ := restore_saveText deep reflects.configured
        (reflects.writable keepable) saved now
      rw [reflects.settings, ← saved, ← file] at restored
      refine ⟨c, ?_, reflects.evicted settings windows⟩
      rw [Host.start, restored]
    · rw [nothing]
      exact (Represents.ignored codec config now ignored).accountant
  file := represents.file

/-- A process whose save was torn starts with nothing. -/
theorem die (represents : Represents codec config now h b) (deep : 5 ≤ codec.depth)
    (keepable : Keepable config) (written : ℕ) :
    Represents codec config now (Host.start codec config (h.torn codec written) now) {} := by
  obtain ⟨a, accountant, reflects⟩ := represents.accountant
  obtain ⟨text, saved⟩ := reflects.saves keepable
  have short : min written (text.length - 1) < text.length := by
    obtain ⟨rest, rfl⟩ := saveText_begins saved
    exact lt_of_le_of_lt (min_le_right _ _) (by simp)
  have cut : text.drop (min written (text.length - 1)) ≠ [] := by
    rwa [Ne, List.drop_eq_nil_iff, not_le]
  have left : h.torn codec written = some (text.take (min written (text.length - 1))) := by
    rw [Host.torn, accountant, saved, Option.map_some, List.dropLast_eq_take, List.take_take]
    rfl
  rw [← List.take_append_drop (min written (text.length - 1)) text] at saved
  apply Represents.ignored
  rw [left]
  exact restore_torn deep (reflects.writable keepable) saved cut

/-- Step lemma: the process answers as its books do, and goes on as they do. -/
theorem step (represents : Represents codec config now h b) (deep : 5 ≤ codec.depth)
    (keepable : Keepable config) {e : Time × HostEvent} (order : now ≤ e.1)
    (storable : ∀ c, e.2 = .call c → Storable codec (e.1, c)) :
    (h.step codec config e).2 = (b.step config e).2 ∧
      Represents codec config e.1 (h.step codec config e).1 (b.step config e).1 := by
  have still := represents.mono order
  obtain ⟨a, accountant, reflects⟩ := still.accountant
  obtain ⟨time, event⟩ := e
  cases event with
  | call c =>
      have answer :
          (h.step codec config (time, .call c)).2 = (b.step config (time, .call c)).2 := by
        simp only [Host.step, Books.step, accountant, call_raw, reflects.answer]
      refine ⟨answer, ⟨_, ?_, reflects.call (storable c rfl)⟩, still.file⟩
      simp only [Host.step, accountant, call_raw]
  | save =>
      obtain ⟨text, saved⟩ := reflects.saves keepable
      have file : h.accountant.save codec h.file = a.raw.saveText codec := by
        rw [accountant, RawAccountant.save, saved]
        rfl
      exact ⟨rfl, still.accountant, .inl ⟨a, file, reflects⟩⟩
  | restart => exact ⟨rfl, still.restart deep keepable⟩
  | die written => exact ⟨rfl, still.die deep keepable written⟩

end Represents

/-- **Budgets survive restarts.** Whatever calls, saves, restarts and deaths there are, at times of
one clock, a gateway that first starts without a snapshot answers every call from the ledger of the
calls that count: all of them up to the last one, but for those that were made after the last save
before a restart, and for all that were made before a save that was torn. -/
theorem restarts_keep_saved_calls (codec : JsonCodec) (deep : 5 ≤ codec.depth)
    (config : AdmissionConfig) (keepable : Keepable config) (now : Time)
    (events : List (Time × HostEvent)) (ordered : (now :: events.map Prod.fst).IsChain (· ≤ ·))
    (storable : ∀ e ∈ events, ∀ c, e.2 = .call c → Storable codec (e.1, c)) :
    history (Host.step codec config) (Host.start codec config none now) events =
      history (Books.step config) {} events := by
  have keeps : ∀ (k : Time) (h : Host) (b : Books) (e : Time × HostEvent),
      (∀ c, e.2 = .call c → Storable codec (e.1, c)) → k ≤ e.1 →
      Represents codec config k h b →
      (h.step codec config e).2 = (b.step config e).2 ∧
        Represents codec config e.1 (h.step codec config e).1 (b.step config e).1 :=
    fun k h b e possible order represents => represents.step deep keepable order possible
  exact history_eq_of_simulation keeps storable ordered
    (Represents.ignored codec config now (ignored_none codec))

/-- A gateway that is debited, saves, is debited again, is started again, and dies while it
saves. -/
def debitedTwice : List (Time × HostEvent) := [
  ((5 : ℕ), .call (.debit "agent" 300 200)), ((10 : ℕ), .save),
  ((15 : ℕ), .call (.debit "agent" 30 20)), ((20 : ℕ), .restart),
  ((25 : ℕ), .call (.getUsage "agent")), ((30 : ℕ), .die 40),
  ((35 : ℕ), .call (.checkBudget "agent" 100))]

/-- Only the first debit counts after the restart, and none after the death. -/
theorem restarts_keep_saved_calls_debitedTwice :
    history (Host.step ⟨wholeFloats, 100⟩ {}) (Host.start ⟨wholeFloats, 100⟩ {} none (0 : ℕ))
        debitedTwice =
      history (Books.step {}) {} debitedTwice := by
  have keepable : Keepable {} :=
    ⟨by unfold Short; decide +kernel, by unfold Short; decide +kernel, by decide +kernel⟩
  refine restarts_keep_saved_calls ⟨wholeFloats, 100⟩ (by decide) {} keepable (0 : ℕ) debitedTwice
    (by decide +kernel) ?_
  intro e member c same
  simp only [debitedTwice, List.mem_cons, List.not_mem_nil, or_false] at member
  have first : Short (300 + 200) := by
    unfold Short
    decide +kernel
  have second : Short (30 + 20) := by
    unfold Short
    decide +kernel
  rcases member with rfl | rfl | rfl | rfl | rfl | rfl | rfl <;> cases same
  · exact storable_debit (readsBack_whole 5) "agent" first
  · exact storable_debit (readsBack_whole 15) "agent" second
  · exact storable_of_no_debit (readsBack_whole 25) rfl
  · exact storable_of_no_debit (readsBack_whole 35) rfl

end AgentServe
