import AgentServe.Accounting.RawWindow
import AgentServe.Accounting.Snapshot

/-!
# Restoring from any file

The file that the accountant is restored from may hold anything. What is raised while it
is read is caught and logged, and the accountant is meant to start as if there had been
no file. But the windows are replaced one by one while the file is read, so what was read
before an exception stays. And the tokens of an entry are not looked at, so what is read
may raise later.

A file is restored as it should be exactly if one of two things holds
(`restore_all_or_nothing_iff`). It is well formed, and no window that was not reached,
because the length of one does not fit in a float, would have changed. Or it is not, and
what was kept of the windows that were read tells no later call anything.

On the files that the accountant writes, restoring is the restoring of snapshots
(`restore_written`).
-/

set_option autoImplicit false

namespace AgentServe

open Lib

/-- The snapshot file: there is none, it cannot be read or decoded, or it holds a value. Whether
there is one is asked before the guarded part of the program. That this question itself raises is
outside the model. -/
inductive SnapshotFile where
  | absent
  | unreadable (e : PyError) (exception : e ≠ .cancelled)
  | decoded (data : PyValue)

/-! ## Reading one window -/

/-- `now - window`, for the length of a saved window. -/
def cutoffOf (now : Time) (window : PyValue) : Except PyError PyFloat := do
  let seconds ← window.toFloat
  return (PyFloat.finite now).add seconds.neg

/-- An entry is kept if it is not older than the cutoff. Its tokens are taken as they are. -/
def readEntry (cutoff : PyFloat) (entry : PyValue) : Except PyError (List (PyFloat × PyValue)) := do
  let (ts, tokens) ← entry.unpack
  let time ← ts.number
  return if cutoff.le time then [(time, tokens)] else []

def readEntries (cutoff : PyFloat) : List PyValue → Except PyError (List (PyFloat × PyValue))
  | [] => .ok []
  | entry :: rest => do
    let kept ← readEntry cutoff entry
    let more ← readEntries cutoff rest
    return kept ++ more

/-- The entries that are kept of a saved window. -/
def readSaved (now : Time) (saved : PyValue) : Except PyError (List (PyFloat × PyValue)) := do
  let window ← saved.item "window_seconds"
  let cutoff ← cutoffOf now window
  let entries ← saved.item "entries"
  let items ← entries.iterate
  readEntries cutoff items

theorem readSaved_ne_cancelled (now : Time) (saved : PyValue) :
    readSaved now saved ≠ .error .cancelled := by
  have entry : ∀ cutoff v, readEntry cutoff v ≠ .error .cancelled := by
    intro cutoff v cancelled
    rcases bind_eq_error_iff.mp cancelled with here | ⟨pair, _, here⟩
    · exact PyData.unpack_ne_cancelled v here
    · rcases bind_eq_error_iff.mp here with here | ⟨time, _, here⟩
      · exact PyData.number_ne_cancelled _ here
      · cases here
  have entries : ∀ cutoff items, readEntries cutoff items ≠ .error .cancelled := by
    intro cutoff items
    induction items with
    | nil => exact nofun
    | cons v rest ih =>
        intro cancelled
        rcases bind_eq_error_iff.mp cancelled with here | ⟨kept, _, here⟩
        · exact entry cutoff v here
        · rcases bind_eq_error_iff.mp here with here | ⟨more, _, here⟩
          · exact ih here
          · cases here
  intro cancelled
  simp only [readSaved, cutoffOf, bind_eq_error_iff] at cancelled
  rcases cancelled with here | ⟨window, _, (here | ⟨seconds, _, here⟩) | ⟨cutoff, _, here |
    ⟨saved, _, here | ⟨items, _, here⟩⟩⟩⟩
  · exact PyData.item_ne_cancelled _ _ here
  · exact PyData.toFloat_ne_cancelled _ here
  · cases here
  · exact PyData.item_ne_cancelled _ _ here
  · exact PyData.iterate_ne_cancelled _ here
  · exact entries cutoff items here

/-! ## Reading the file -/

namespace RawAccountant

/-- Read the windows one by one, up to the first that raises. The window of an agent is made before
its saved one is looked at. -/
def restoreWindows (now : Time) :
    RawAccountant → List (String × PyValue) → RawAccountant × Except PyError Unit
  | a, [] => (a, .ok ())
  | a, (agentId, saved) :: rest =>
    let state := a.stateOf agentId
    let a := a.setState agentId state
    match readSaved now saved with
    | .error e => (a, .error e)
    | .ok kept => restoreWindows now (a.setState agentId { state with entries := kept }) rest

def restoreFile (a : RawAccountant) (file : SnapshotFile) (now : Time) :
    RawAccountant × Except PyError Unit :=
  match file with
  | .absent => (a, .ok ())
  | .unreadable e _ => (a, .error e)
  | .decoded data =>
    match data.items with
    | .error e => (a, .error e)
    | .ok members => restoreWindows now a members.items

/-- Restore from a file. Exceptions are logged. -/
def restore (a : RawAccountant) (file : SnapshotFile) (now : Time) :
    RawAccountant × Except PyError Unit :=
  let (b, outcome) := a.restoreFile file now
  (b, guarded () outcome)

theorem restoreWindows_ne_cancelled (now : Time) (a : RawAccountant)
    (members : List (String × PyValue)) :
    (restoreWindows now a members).2 ≠ .error .cancelled := by
  induction members generalizing a with
  | nil => exact nofun
  | cons e rest ih =>
      simp only [restoreWindows]
      cases read : readSaved now e.2 with
      | error raised =>
          intro cancelled
          cases cancelled
          exact readSaved_ne_cancelled now e.2 read
      | ok kept => exact ih _

/-- Restoring never raises. -/
theorem restore_returns (a : RawAccountant) (file : SnapshotFile) (now : Time) :
    (a.restore file now).2 = .ok () := by
  have alive : (a.restoreFile file now).2 ≠ .error .cancelled := by
    cases file with
    | absent => exact nofun
    | unreadable e exception =>
        intro cancelled
        cases cancelled
        exact exception rfl
    | decoded data =>
        simp only [restoreFile]
        cases given : data.items with
        | error e =>
            intro cancelled
            cases cancelled
            exact PyData.items_ne_cancelled data given
        | ok members => exact restoreWindows_ne_cancelled now a members.items
  exact guarded_eq_ok alive

/-- The windows that are read before the first one that raises, with what is kept of them. -/
def loaded (now : Time) : List (String × PyValue) → List (String × List (PyFloat × PyValue))
  | [] => []
  | (agentId, saved) :: rest =>
    match readSaved now saved with
    | .error _ => []
    | .ok kept => (agentId, kept) :: loaded now rest

/-- A window after another one's entries were kept for it. -/
def replaced (w : RawWindow) (kept : Option (List (PyFloat × PyValue))) : RawWindow :=
  match kept with
  | some entries => { w with entries }
  | none => w

/-- Only members are read. -/
theorem mem_keys_of_mem_loaded {now : Time} {members : List (String × PyValue)}
    {e : String × List (PyFloat × PyValue)} (member : e ∈ loaded now members) :
    e.1 ∈ members.map Prod.fst := by
  induction members with
  | nil => cases member
  | cons m rest ih =>
      simp only [loaded] at member
      cases read : readSaved now m.2 with
      | error raised =>
          rw [read] at member
          cases member
      | ok kept =>
          rw [read] at member
          rcases List.mem_cons.mp member with rfl | later
          · exact List.mem_cons_self
          · exact List.mem_cons_of_mem _ (ih later)

/-- A window is read exactly if it can be, and all windows before it can be. -/
theorem lookup_loaded_iff {now : Time} {members : List (String × PyValue)}
    (distinct : (members.map Prod.fst).Nodup) {agentId : String}
    {kept : List (PyFloat × PyValue)} :
    (loaded now members).lookup agentId = some kept ↔
      ∃ before saved after, members = before ++ (agentId, saved) :: after ∧
        (∀ m ∈ before, ∃ earlier, readSaved now m.2 = .ok earlier) ∧
        readSaved now saved = .ok kept := by
  induction members with
  | nil => simp [loaded]
  | cons m rest ih =>
      obtain ⟨fresh, others⟩ := List.nodup_cons.mp distinct
      simp only [loaded]
      cases read : readSaved now m.2 with
      | error raised =>
          refine iff_of_false nofun ?_
          rintro ⟨_ | ⟨head, before⟩, saved, after, split, earlier, found⟩
          · cases split
            cases read.symm.trans found
          · obtain ⟨rfl, _⟩ := List.cons_eq_cons.mp split
            obtain ⟨_, found⟩ := earlier m List.mem_cons_self
            cases read.symm.trans found
      | ok first =>
          simp only [List.lookup_cons]
          by_cases own : agentId = m.1
          · subst own
            rw [beq_self_eq_true]
            constructor
            · intro same
              cases same
              exact ⟨[], m.2, rest, rfl, nofun, read⟩
            · rintro ⟨_ | ⟨head, before⟩, saved, after, split, earlier, found⟩
              · have window : m.2 = saved := congrArg Prod.snd (List.cons_eq_cons.mp split).1
                rw [window] at read
                exact congrArg some (Except.ok.inj (read.symm.trans found))
              · obtain ⟨rfl, tail⟩ := List.cons_eq_cons.mp split
                exact absurd (by simp [tail]) fresh
          · rw [beq_false_of_ne own, ih others]
            constructor
            · rintro ⟨before, saved, after, rfl, earlier, found⟩
              exact ⟨m :: before, saved, after, rfl,
                List.forall_mem_cons.mpr ⟨⟨first, read⟩, earlier⟩, found⟩
            · rintro ⟨_ | ⟨head, before⟩, saved, after, split, earlier, found⟩
              · cases split
                exact absurd rfl own
              · obtain ⟨rfl, tail⟩ := List.cons_eq_cons.mp split
                exact ⟨before, saved, after, tail, (List.forall_mem_cons.mp earlier).2, found⟩

/-- **What a file leaves behind.** The windows that were read are replaced, whether the reading
went on to the end or not. -/
theorem stateOf_restoreWindows (now : Time) {members : List (String × PyValue)}
    (distinct : (members.map Prod.fst).Nodup) (a : RawAccountant) (agentId : String) :
    (restoreWindows now a members).1.stateOf agentId =
      replaced (a.stateOf agentId) ((loaded now members).lookup agentId) := by
  induction members generalizing a with
  | nil => rfl
  | cons m rest ih =>
      obtain ⟨fresh, others⟩ := List.nodup_cons.mp distinct
      have touched : ∀ j, (a.setState m.1 (a.stateOf m.1)).stateOf j = a.stateOf j := by
        intro j
        rw [stateOf_setState]
        split
        · rename_i own
          rw [own]
        · rfl
      simp only [restoreWindows, loaded]
      cases read : readSaved now m.2 with
      | error raised => exact touched agentId
      | ok kept =>
          simp only [ih others, stateOf_setState, List.lookup_cons]
          by_cases own : agentId = m.1
          · subst own
            have missing : (loaded now rest).lookup m.1 = none := by
              rw [List.lookup_eq_none_iff]
              intro e member
              have differ : m.1 ≠ e.1 := fun same => fresh (same ▸ mem_keys_of_mem_loaded member)
              simpa using differ
            simp [missing, replaced]
          · have differ : (agentId == m.1) = false := by simpa using own
            simp [own, differ]

end RawAccountant

/-! ## Well-formed files -/

/-- The number that is meant by a value, if it is one and finite. Booleans are not meant. -/
def finiteNumber? : PyValue → Option ℚ
  | .int n => some n
  | .float (.finite q) => some q
  | _ => none

/-- What a saved window means. -/
structure SavedEntries where
  windowSeconds : ℚ
  entries : List (Time × ℤ)

/-- The entries that are not older than the saved window. -/
def SavedEntries.kept (s : SavedEntries) (now : Time) : List (Time × ℤ) :=
  s.entries.filter fun e => e.1 ≥ now - s.windowSeconds

def parseEntry : PyValue → Option (Time × ℤ)
  | .list [ts, .int tokens] => (finiteNumber? ts).map fun time => (time, tokens)
  | _ => none

def parseEntries : PyValue → Option (List (Time × ℤ))
  | .list items => items.mapM parseEntry
  | _ => none

/-- An object with a finite length and a list of pairs of a finite number and an integer. -/
def parseWindow : PyValue → Option SavedEntries
  | .dict fields => do
    let windowSeconds ← (fields.lookup "window_seconds").bind finiteNumber?
    let entries ← (fields.lookup "entries").bind parseEntries
    return { windowSeconds, entries }
  | _ => none

/-- The members of a file that holds an object. -/
def SnapshotFile.members? : SnapshotFile → Option (Dict String PyValue)
  | .decoded data => data.items.toOption
  | _ => none

/-- All members are saved windows. -/
def WellSaved (members : Dict String PyValue) : Prop :=
  ∀ agentId saved, members.get? agentId = some saved → (parseWindow saved).isSome = true

theorem number_of_finiteNumber {v : PyValue} {q : ℚ} (meant : finiteNumber? v = some q) :
    v.number = .ok (.finite q) := by
  cases v with
  | int n =>
      cases meant
      rfl
  | float x =>
      cases x with
      | finite r =>
          cases meant
          rfl
      | _ => cases meant
  | _ => cases meant

/-- A length that is meant is a float, unless it is an integer that is too large. -/
theorem toFloat_of_finiteNumber {v : PyValue} {q : ℚ} (meant : finiteNumber? v = some q) :
    v.toFloat = .ok (.finite q) ∨
      v.toFloat = .error .overflowError ∧ ∃ n, v = .int n ∧ PyData.floatLimit ≤ n.natAbs := by
  cases v with
  | int n =>
      cases meant
      simp only [PyData.toFloat, PyData.asInt?]
      split
      · exact .inl rfl
      · rename_i large
        exact .inr ⟨rfl, n, rfl, not_lt.mp large⟩
  | float x =>
      cases x with
      | finite r =>
          cases meant
          exact .inl rfl
      | _ => cases meant
  | _ => cases meant

/-- An entry is kept as it is meant. -/
theorem readEntry_of_parse {cutoff : Time} {v : PyValue} {e : Time × ℤ}
    (parsed : parseEntry v = some e) :
    readEntry (.finite cutoff) v = .ok (rawEntries ([e].filter fun e => e.1 ≥ cutoff)) := by
  unfold parseEntry at parsed
  split at parsed
  · rename_i ts tokens
    obtain ⟨time, meant, rfl⟩ := Option.map_eq_some_iff.mp parsed
    refine bind_eq_ok_iff.mpr ⟨(ts, .int tokens), rfl, ?_⟩
    refine bind_eq_ok_iff.mpr ⟨.finite time, number_of_finiteNumber meant, ?_⟩
    by_cases recent : cutoff ≤ time
    · simp [PyFloat.le, recent, rawEntries, pure, Except.pure]
    · simp [PyFloat.le, recent, rawEntries, pure, Except.pure]
  · cases parsed

theorem readEntries_of_parse {cutoff : Time} {items : List PyValue} {entries : List (Time × ℤ)}
    (parsed : items.mapM parseEntry = some entries) :
    readEntries (.finite cutoff) items =
      .ok (rawEntries (entries.filter fun e => e.1 ≥ cutoff)) := by
  induction items generalizing entries with
  | nil =>
      cases parsed
      rfl
  | cons v rest ih =>
      rw [List.mapM_cons] at parsed
      obtain ⟨e, first, parsed⟩ := Option.bind_eq_some_iff.mp parsed
      obtain ⟨later, others, parsed⟩ := Option.bind_eq_some_iff.mp parsed
      cases parsed
      refine bind_eq_ok_iff.mpr ⟨_, readEntry_of_parse first, ?_⟩
      refine bind_eq_ok_iff.mpr ⟨_, ih others, ?_⟩
      have whole : (e :: later).filter (fun e => e.1 ≥ cutoff) =
          [e].filter (fun e => e.1 ≥ cutoff) ++ later.filter fun e => e.1 ≥ cutoff :=
        List.filter_append [e] later
      rw [whole, rawEntries, rawEntries, rawEntries, List.map_append]
      rfl

/-- **A well-formed window** is read as it is meant, unless its length does not fit in a float. -/
theorem readSaved_of_parse (now : Time) {saved : PyValue} {s : SavedEntries}
    (parsed : parseWindow saved = some s) :
    readSaved now saved = .ok (rawEntries (s.kept now)) ∨
      readSaved now saved = .error .overflowError ∧
        ∃ n, saved.item "window_seconds" = .ok (.int n) ∧ PyData.floatLimit ≤ n.natAbs := by
  cases saved with
  | dict fields =>
      obtain ⟨length, meant, parsed⟩ := Option.bind_eq_some_iff.mp parsed
      obtain ⟨window, at_length, finite⟩ := Option.bind_eq_some_iff.mp meant
      obtain ⟨entries, meant, parsed⟩ := Option.bind_eq_some_iff.mp parsed
      obtain ⟨list, at_entries, listed⟩ := Option.bind_eq_some_iff.mp meant
      cases parsed
      cases list with
      | list items =>
          have own : (PyData.dict fields).item "window_seconds" = .ok window :=
            PyData.item_eq_ok_iff.mpr ⟨fields, rfl, at_length⟩
          have other : (PyData.dict fields).item "entries" = .ok (.list items) :=
            PyData.item_eq_ok_iff.mpr ⟨fields, rfl, at_entries⟩
          rcases toFloat_of_finiteNumber finite with fits | ⟨raised, n, rfl, large⟩
          · refine .inl (bind_eq_ok_iff.mpr ⟨window, own, ?_⟩)
            refine bind_eq_ok_iff.mpr ⟨.finite (now - length), ?_, ?_⟩
            · refine bind_eq_ok_iff.mpr ⟨.finite length, fits, ?_⟩
              rw [sub_eq_add_neg]
              rfl
            · refine bind_eq_ok_iff.mpr ⟨.list items, other, ?_⟩
              exact bind_eq_ok_iff.mpr ⟨items, rfl, readEntries_of_parse listed⟩
          · refine .inr ⟨bind_eq_error_iff.mpr (.inr ⟨.int n, own, ?_⟩), n, own, large⟩
            exact bind_eq_error_iff.mpr (.inl (bind_eq_error_iff.mpr (.inl raised)))
      | _ => cases listed
  | _ => cases parsed

/-! ## All or nothing -/

/-- Restoring does not raise. The windows of a well-formed file are restored as they are meant, and
no others change. Any other file cannot be noticed afterwards. -/
structure AllOrNothing (a : TokenAccountant) (file : SnapshotFile) (now : Time) : Prop where
  returns : (a.raw.restore file now).2 = .ok ()
  listed : ∀ members, file.members? = some members → WellSaved members →
    ∀ agentId saved s, members.get? agentId = some saved → parseWindow saved = some s →
      (a.raw.restore file now).1.stateOf agentId =
        { (a.stateOf agentId).raw with entries := rawEntries (s.kept now) }
  unlisted : ∀ members, file.members? = some members → WellSaved members →
    ∀ agentId, members.get? agentId = none →
      (a.raw.restore file now).1.stateOf agentId = (a.stateOf agentId).raw
  otherwise : (∀ members, file.members? = some members → ¬ WellSaved members) →
    a.Unnoticed now (a.raw.restore file now).1

/-- The saved window of an agent can be read, and so can all windows before it. -/
def ReadFirst (now : Time) (members : Dict String PyValue) (agentId : String)
    (kept : List (PyFloat × PyValue)) : Prop :=
  ∃ before saved after, members.items = before ++ (agentId, saved) :: after ∧
    (∀ m ∈ before, ∃ earlier, readSaved now m.2 = .ok earlier) ∧ readSaved now saved = .ok kept

/-- When a file is restored as it should be: nothing is missing of a well-formed one, and nothing is
noticed of another one. -/
structure Restorable (a : TokenAccountant) (file : SnapshotFile) (now : Time) : Prop where
  complete : ∀ members, file.members? = some members → WellSaved members →
    ∀ agentId saved s, members.get? agentId = some saved → parseWindow saved = some s →
      (∀ kept, ¬ ReadFirst now members agentId kept) → (a.stateOf agentId).entries = s.kept now
  harmless : ∀ members, file.members? = some members → ¬ WellSaved members →
    ∀ agentId kept, ReadFirst now members agentId kept →
      ReadsAs (now - (a.stateOf agentId).windowSeconds) (a.stateOf agentId).entries kept

section Restoring

variable {a : TokenAccountant} {file : SnapshotFile} {now : Time} {members : Dict String PyValue}

/-- A file without an object leaves everything as it is. -/
theorem restore_of_no_members (none_given : file.members? = none) :
    (a.raw.restore file now).1 = a.raw := by
  cases file with
  | absent => rfl
  | unreadable e exception => rfl
  | decoded data =>
      cases given : data.items with
      | error e => simp [RawAccountant.restore, RawAccountant.restoreFile, given]
      | ok members => simp [SnapshotFile.members?, given, Except.toOption] at none_given

/-- The windows after restoring from an object. -/
theorem stateOf_restore_members (given : file.members? = some members) (agentId : String) :
    (a.raw.restore file now).1.stateOf agentId =
      RawAccountant.replaced (a.stateOf agentId).raw
        ((RawAccountant.loaded now members.items).lookup agentId) := by
  cases file with
  | decoded data =>
      cases items : data.items with
      | error e => simp [SnapshotFile.members?, items, Except.toOption] at given
      | ok found =>
          simp only [SnapshotFile.members?, items, Except.toOption, Option.some.injEq] at given
          subst given
          simp only [RawAccountant.restore, RawAccountant.restoreFile, items]
          rw [RawAccountant.stateOf_restoreWindows now found.nodup, TokenAccountant.stateOf_raw]
  | _ => cases given

/-- A window that is read is replaced. -/
theorem stateOf_restore_of_readFirst (given : file.members? = some members) {agentId : String}
    {kept : List (PyFloat × PyValue)} (first : ReadFirst now members agentId kept) :
    (a.raw.restore file now).1.stateOf agentId =
      { (a.stateOf agentId).raw with entries := kept } := by
  rw [stateOf_restore_members given, (RawAccountant.lookup_loaded_iff members.nodup).mpr first]
  rfl

/-- All other windows are as they were. -/
theorem stateOf_restore_of_unread (given : file.members? = some members) {agentId : String}
    (unread : ∀ kept, ¬ ReadFirst now members agentId kept) :
    (a.raw.restore file now).1.stateOf agentId = (a.stateOf agentId).raw := by
  rw [stateOf_restore_members given]
  cases first : (RawAccountant.loaded now members.items).lookup agentId with
  | some kept =>
      have read := (RawAccountant.lookup_loaded_iff members.nodup).mp first
      exact absurd read (unread kept)
  | none => rfl

theorem saved_of_readFirst {agentId : String} {kept : List (PyFloat × PyValue)}
    (first : ReadFirst now members agentId kept) :
    ∃ saved, members.get? agentId = some saved ∧ readSaved now saved = .ok kept := by
  obtain ⟨before, saved, after, split, _, read⟩ := first
  have member : (agentId, saved) ∈ members.items := by
    rw [split]
    simp
  exact ⟨saved, Dict.mem_items_iff.mp member, read⟩

/-- A window of a well-formed file that is read is kept as it is meant. -/
theorem kept_of_readFirst {agentId : String} {kept : List (PyFloat × PyValue)} {saved : PyValue}
    {s : SavedEntries} (first : ReadFirst now members agentId kept)
    (at_agent : members.get? agentId = some saved) (parsed : parseWindow saved = some s) :
    kept = rawEntries (s.kept now) := by
  obtain ⟨saved', found, read⟩ := saved_of_readFirst first
  obtain rfl := Option.some.inj (at_agent.symm.trans found)
  rcases readSaved_of_parse now parsed with meant | ⟨raised, _⟩
  · exact Except.ok.inj (read.symm.trans meant)
  · cases read.symm.trans raised

theorem rawEntries_injective : Function.Injective rawEntries := by
  apply List.map_injective_iff.mpr
  rintro ⟨time, tokens⟩ ⟨time', tokens'⟩ same
  cases same
  rfl

/-- Restoring changes entries only. -/
theorem settings_restore (a : TokenAccountant) (file : SnapshotFile) (now : Time)
    (agentId : String) :
    ((a.raw.restore file now).1.stateOf agentId).budget = (a.stateOf agentId).budget ∧
      ((a.raw.restore file now).1.stateOf agentId).windowSeconds =
        (a.stateOf agentId).windowSeconds := by
  cases given : file.members? with
  | none =>
      rw [restore_of_no_members given, TokenAccountant.stateOf_raw]
      exact ⟨rfl, rfl⟩
  | some members =>
      rw [stateOf_restore_members given]
      cases (RawAccountant.loaded now members.items).lookup agentId <;> exact ⟨rfl, rfl⟩

/-- What restoring as it should be says of the file. -/
theorem AllOrNothing.restorable (should : AllOrNothing a file now) : Restorable a file now where
  complete := by
    intro members given saved_well agentId saved s at_agent parsed unread
    have meant := should.listed members given saved_well agentId saved s at_agent parsed
    rw [stateOf_restore_of_unread given unread] at meant
    exact rawEntries_injective (congrArg RawWindow.entries meant)
  harmless := by
    intro members given broken agentId kept first
    have unnoticed := should.otherwise fun others given' => by
      cases given.symm.trans given'
      exact broken
    have reads := (TokenAccountant.unnoticed_iff (settings_restore a file now)).mp unnoticed
      agentId
    rwa [stateOf_restore_of_readFirst given first] at reads

/-- A listed window of a well-formed file is restored as it is meant. -/
theorem Restorable.listed (restorable : Restorable a file now)
    (given : file.members? = some members) (saved_well : WellSaved members) {agentId : String}
    {saved : PyValue} {s : SavedEntries} (at_agent : members.get? agentId = some saved)
    (parsed : parseWindow saved = some s) :
    (a.raw.restore file now).1.stateOf agentId =
      { (a.stateOf agentId).raw with entries := rawEntries (s.kept now) } := by
  by_cases read : ∃ kept, ReadFirst now members agentId kept
  · obtain ⟨kept, first⟩ := read
    rw [stateOf_restore_of_readFirst given first, kept_of_readFirst first at_agent parsed]
  · have unread := not_exists.mp read
    rw [stateOf_restore_of_unread given unread,
      ← restorable.complete members given saved_well agentId saved s at_agent parsed unread]
    rfl

/-- Agents that are not listed are left alone. -/
theorem stateOf_restore_of_unlisted (given : file.members? = some members) {agentId : String}
    (missing : members.get? agentId = none) :
    (a.raw.restore file now).1.stateOf agentId = (a.stateOf agentId).raw := by
  apply stateOf_restore_of_unread given
  intro kept first
  obtain ⟨saved, found, _⟩ := saved_of_readFirst first
  cases missing.symm.trans found

/-- What was read of a file that is not well formed is not noticed. -/
theorem Restorable.otherwise (restorable : Restorable a file now)
    (broken : ∀ members, file.members? = some members → ¬ WellSaved members) :
    a.Unnoticed now (a.raw.restore file now).1 := by
  apply (TokenAccountant.unnoticed_iff (settings_restore a file now)).mpr
  intro agentId
  cases given : file.members? with
  | none =>
      rw [restore_of_no_members given, TokenAccountant.stateOf_raw]
      exact readsAs_rawEntries _ _
  | some members =>
      by_cases read : ∃ kept, ReadFirst now members agentId kept
      · obtain ⟨kept, first⟩ := read
        rw [stateOf_restore_of_readFirst given first]
        exact restorable.harmless members given (broken members given) agentId kept first
      · rw [stateOf_restore_of_unread given (not_exists.mp read)]
        exact readsAs_rawEntries _ _

/-- **All or nothing.** Restoring is all or nothing exactly if, of a well-formed file, the windows
that are not reached would not have changed and, of any other file, what was kept of the windows
that were read before the exception reads as what was there before. -/
theorem restore_all_or_nothing_iff (a : TokenAccountant) (file : SnapshotFile) (now : Time) :
    AllOrNothing a file now ↔ Restorable a file now := by
  constructor
  · exact AllOrNothing.restorable
  · intro restorable
    refine ⟨RawAccountant.restore_returns a.raw file now, ?_, ?_, restorable.otherwise⟩
    · intro members given saved_well agentId saved s at_agent parsed
      exact restorable.listed given saved_well at_agent parsed
    · intro members given _ agentId missing
      exact stateOf_restore_of_unlisted given missing

end Restoring

/-- A file whose first member is a saved window, and whose second one is not. -/
def halfBroken : SnapshotFile :=
  .decoded (.dict [
    ("a", .dict [("window_seconds", .int 3600),
      ("entries", .list [.list [.float (.finite 100), .int 500]])]),
    ("b", .int 5)])

/-- The tokens of the first window count, although the file is not restored. -/
theorem half_broken_file_counts : ¬ AllOrNothing (TokenAccountant.new {}) halfBroken 100 := by
  intro should
  have broken : ∀ members, halfBroken.members? = some members → ¬ WellSaved members := by
    intro members given saved_well
    cases given
    exact absurd (saved_well "b" (.int 5) rfl) (by decide +kernel)
  have reads := TokenAccountant.readsAs_of_answers (should.otherwise broken) "a"
    (by decide +kernel)
  have same := reads.same 100 (by decide +kernel)
  revert same
  decide +kernel

/-! ## The files that are written -/

/-- A saved window as it is written. -/
def SavedWindow.encode (w : SavedWindow) : PyValue :=
  .dict [
    ("entries", .list (w.entries.map fun e => .list [.float (.finite e.1), .int e.2])),
    ("budget", .int w.budget), ("window_seconds", .int w.windowSeconds)]

/-- A snapshot as it is written. -/
def Snapshot.written (data : Snapshot) : SnapshotFile :=
  .decoded (.dict (data.map fun _ w => w.encode).items)

theorem parseWindow_encode (w : SavedWindow) :
    parseWindow w.encode = some ⟨w.windowSeconds, w.entries⟩ := by
  have entries : (w.entries.map fun e => PyData.list [.float (.finite e.1), .int e.2]).mapM
      parseEntry = some w.entries := by
    induction w.entries with
    | nil => rfl
    | cons e rest ih =>
        rw [List.map_cons, List.mapM_cons, ih]
        rfl
  have listed : parseEntries (.list (w.entries.map fun e =>
      .list [.float (.finite e.1), .int e.2])) = some w.entries := entries
  simp [parseWindow, SavedWindow.encode, List.lookup_cons, finiteNumber?, listed]

theorem members_written (data : Snapshot) :
    data.written.members? = some (data.map fun _ w => w.encode) :=
  congrArg some (Dict.ofItems_items _)

/-- A written window is read, if its length fits in a float. -/
theorem readSaved_encode (now : Time) {w : SavedWindow}
    (fits : w.windowSeconds.natAbs < PyData.floatLimit) :
    ∃ kept, readSaved now w.encode = .ok kept := by
  rcases readSaved_of_parse now (parseWindow_encode w) with meant | ⟨_, n, length, large⟩
  · exact ⟨_, meant⟩
  · cases length
    exact absurd fits (not_lt.mpr large)

/-- If every window can be read, all of them are. -/
theorem readFirst_of_reads {now : Time} {members : Dict String PyValue}
    (reads : ∀ m ∈ members.items, ∃ kept, readSaved now m.2 = .ok kept) {agentId : String}
    {saved : PyValue} (found : members.get? agentId = some saved) :
    ∃ kept, ReadFirst now members agentId kept := by
  obtain ⟨before, after, split⟩ := List.append_of_mem (Dict.mem_items_iff.mpr found)
  rw [split] at reads
  obtain ⟨kept, read⟩ := reads (agentId, saved) (by simp)
  refine ⟨kept, before, saved, after, split, ?_, read⟩
  exact fun m member => reads m (List.mem_append_left _ member)

/-- **The files that are written.** Restoring from a snapshot as it was written is restoring the
snapshot. -/
theorem restore_written (a : TokenAccountant) {data : Snapshot} (now : Time)
    (fit : ∀ agentId w, data.get? agentId = some w →
      w.windowSeconds.natAbs < PyData.floatLimit) (agentId : String) :
    (a.raw.restore data.written now).1.stateOf agentId =
      ((a.restore (some data) now).stateOf agentId).raw := by
  have reads : ∀ m ∈ (data.map fun _ w => w.encode).items,
      ∃ kept, readSaved now m.2 = .ok kept := by
    intro m member
    have found : (data.map fun _ w => w.encode).get? m.1 = some m.2 := Dict.mem_items_iff.mp member
    rw [Dict.get?_map] at found
    obtain ⟨w, at_agent, encoded⟩ := Option.map_eq_some_iff.mp found
    rw [← encoded]
    exact readSaved_encode now (fit m.1 w at_agent)
  rw [TokenAccountant.stateOf_restore]
  cases at_agent : data.get? agentId with
  | none =>
      have missing : (data.map fun _ w => w.encode).get? agentId = none := by
        rw [Dict.get?_map, at_agent]
        rfl
      exact stateOf_restore_of_unlisted (members_written data) missing
  | some w =>
      have saved : (data.map fun _ w => w.encode).get? agentId = some w.encode := by
        rw [Dict.get?_map, at_agent]
        rfl
      obtain ⟨kept, first⟩ := readFirst_of_reads reads saved
      have meant := kept_of_readFirst first saved (parseWindow_encode w)
      rw [stateOf_restore_of_readFirst (members_written data) first, meant]
      rfl

end AgentServe
