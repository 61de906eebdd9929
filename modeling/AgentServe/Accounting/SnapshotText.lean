import AgentServe.Accounting.Reconfigured
import AgentServe.Accounting.Restore
import AgentServe.Core.JsonRoundTrip

/-!
# The text of a snapshot

The snapshot manager writes the windows as one JSON document. The file is opened, which
empties it, and then written from the start on, so a process that dies meanwhile leaves
the beginning of the document behind.

What was written as a whole is restored as it was, without the entries that are too old
by now (`restore_saveText`). What was torn is refused, and the accountant starts as if
there had been no file (`restore_torn`).
-/

set_option autoImplicit false

namespace AgentServe

open Lib JsonText

/-! ## Saving -/

/-- A window as it is written. -/
def RawWindow.encode (w : RawWindow) : PyValue :=
  .dict [
    ("entries", .list (w.entries.map fun e => .list [.float e.1, e.2])),
    ("budget", .int w.budget), ("window_seconds", .int w.windowSeconds)]

namespace RawAccountant

/-- The document that is written. -/
def snapshot (a : RawAccountant) : PyValue := .dict (a.states.map fun _ w => w.encode).items

/-- The text that is written. A number with too many digits raises before the file is opened. -/
def saveText (codec : JsonCodec) (a : RawAccountant) : Option (List Char) :=
  dumps codec.floats a.snapshot

/-- Save to a file. Exceptions are logged. -/
def save (codec : JsonCodec) (a : RawAccountant) (file : Option (List Char)) :
    Option (List Char) :=
  (a.saveText codec).or file

end RawAccountant

/-- A snapshot file with a text. -/
def snapshotFile (codec : JsonCodec) : Option (List Char) → SnapshotFile
  | none => .absent
  | some text =>
    match loads codec.floats codec.depth text with
    | some data => .decoded data
    | none => .unreadable .valueError (by decide)

theorem encode_raw (w : WindowState) :
    w.raw.encode = (⟨w.entries, w.budget, w.windowSeconds⟩ : SavedWindow).encode := by
  simp [RawWindow.encode, SavedWindow.encode, WindowState.raw, rawEntries]

theorem snapshot_raw (a : TokenAccountant) :
    SnapshotFile.decoded a.raw.snapshot = a.save.written := by
  have same : (a.raw.states.map fun _ w => w.encode) = a.save.map fun _ w => w.encode := by
    apply Dict.ext_items
    simp [TokenAccountant.raw, TokenAccountant.save, Dict.map, encode_raw]
  rw [RawAccountant.snapshot, same]
  rfl

/-! ## Restoring -/

theorem raw_setState (a : TokenAccountant) (agentId : String) (w : WindowState) :
    (a.setState agentId w).raw = a.raw.setState agentId w.raw := by
  simp only [TokenAccountant.raw, TokenAccountant.setState, RawAccountant.setState, Dict.map_set]

/-- A window that is read takes the place of the one that was made for it. -/
theorem setState_setState (a : RawAccountant) (agentId : String) (first second : RawWindow) :
    (a.setState agentId first).setState agentId second = a.setState agentId second := by
  simp only [RawAccountant.setState, Dict.set_set]

theorem readSaved_written (now : Time) {w : SavedWindow}
    (fits : w.windowSeconds.natAbs < PyData.floatLimit) :
    readSaved now w.encode =
      .ok (rawEntries (w.entries.filter fun e => e.1 ≥ now - w.windowSeconds)) := by
  rcases readSaved_of_parse now (parseWindow_encode w) with meant | ⟨_, n, length, large⟩
  · exact meant
  · cases length
    exact absurd fits (not_lt.mpr large)

/-- Reading written windows into unchecked ones is reading them into checked ones. -/
theorem restoreWindows_written (now : Time) {l : List (String × SavedWindow)}
    (fit : ∀ e ∈ l, e.2.windowSeconds.natAbs < PyData.floatLimit) (a : TokenAccountant) :
    a.raw.restoreWindows now (l.map fun e => (e.1, e.2.encode)) =
      ((l.foldl (TokenAccountant.restoreOne now) a).raw, .ok ()) := by
  induction l generalizing a with
  | nil => rfl
  | cons e rest ih =>
      have read := readSaved_written now (fit e List.mem_cons_self)
      have one : (a.raw.setState e.1 (a.raw.stateOf e.1)).setState e.1
          { a.raw.stateOf e.1 with
            entries := rawEntries (e.2.entries.filter fun entry =>
              entry.1 ≥ now - e.2.windowSeconds) } =
          (TokenAccountant.restoreOne now a e).raw := by
        rw [setState_setState, TokenAccountant.stateOf_raw, TokenAccountant.restoreOne,
          raw_setState]
        rfl
      rw [List.map_cons, List.foldl_cons, RawAccountant.restoreWindows]
      simp only [read, one]
      exact ih (fun e' member => fit e' (List.mem_cons_of_mem _ member)) _

/-- A snapshot that was written is restored into unchecked windows as into checked ones. -/
theorem restore_written_raw (a : TokenAccountant) {data : Snapshot} (now : Time)
    (fit : ∀ e ∈ data.items, e.2.windowSeconds.natAbs < PyData.floatLimit) :
    a.raw.restore data.written now = ((a.restore (some data) now).raw, .ok ()) := by
  have items : (PyData.dict (data.map fun _ w => w.encode).items).items =
      .ok (data.map fun _ w => w.encode) := congrArg Except.ok (Dict.ofItems_items _)
  have windows := restoreWindows_written now fit a
  rw [RawAccountant.restore, Snapshot.written]
  simp only [RawAccountant.restoreFile, items]
  rw [Dict.map, windows]
  rfl

/-- The numbers of an accountant can be written and read back. -/
structure Writable (floats : FloatText) (a : TokenAccountant) : Prop where
  times : ∀ agentId w, a.states.get? agentId = some w → ∀ e ∈ w.entries, floats.ReadsBack e.1
  lengths : ∀ agentId w, a.states.get? agentId = some w →
    w.windowSeconds.natAbs < PyData.floatLimit

theorem fits_snapshot {floats : FloatText} {a : TokenAccountant} (writable : Writable floats a)
    (depth : ℕ) : Fits floats (depth + 5) a.raw.snapshot := by
  refine ⟨(a.raw.states.map fun _ w => w.encode).nodup, ?_⟩
  intro e member
  have found := Dict.mem_items_iff.mp member
  rw [Dict.get?_map, TokenAccountant.raw, Dict.get?_map, Option.map_map] at found
  obtain ⟨w, at_agent, encoded⟩ := Option.map_eq_some_iff.mp found
  rw [← encoded]
  have names : ["entries", "budget", "window_seconds"].Nodup := by decide
  refine ⟨names, ?_⟩
  intro field inside
  simp only [List.mem_cons, List.not_mem_nil, or_false] at inside
  rcases inside with rfl | rfl | rfl
  · intro pair entered
    obtain ⟨entry, kept, rfl⟩ := List.mem_map.mp entered
    obtain ⟨saved, original, rfl⟩ := List.mem_map.mp kept
    intro part first
    simp only [List.mem_cons, List.not_mem_nil, or_false] at first
    rcases first with rfl | rfl
    · exact writable.times e.1 w at_agent saved original
    · exact trivial
  · exact trivial
  · exact trivial

/-- **Lossless snapshots.** A snapshot that was written as a whole is restored into a fresh
accountant as the windows that were saved, without the entries that are too old by now. -/
theorem restore_saveText {codec : JsonCodec} (deep : 5 ≤ codec.depth) {a : TokenAccountant}
    (configured : a.Configured) (writable : Writable codec.floats a) {text : List Char}
    (saved : a.raw.saveText codec = some text) (now : Time) :
    ∃ b : TokenAccountant, (TokenAccountant.new a.config).raw.restore
        (snapshotFile codec (some text)) now = (b.raw, .ok ()) ∧
      b.config = a.config ∧
      ∀ agentId, b.stateOf agentId = (a.stateOf agentId).evictExpired now := by
  obtain ⟨depth, deeper⟩ : ∃ depth, codec.depth = depth + 5 := ⟨codec.depth - 5, by omega⟩
  have read : loads codec.floats codec.depth text = some a.raw.snapshot := by
    rw [deeper]
    exact loads_dumps (fits_snapshot writable depth) saved
  have fit : ∀ e ∈ a.save.items, e.2.windowSeconds.natAbs < PyData.floatLimit := by
    intro e member
    have found := Dict.mem_items_iff.mp member
    rw [TokenAccountant.save, Dict.get?_map] at found
    obtain ⟨w, at_agent, same⟩ := Option.map_eq_some_iff.mp found
    rw [← same]
    exact writable.lengths e.1 w at_agent
  refine ⟨(TokenAccountant.new a.config).restore (some a.save) now, ?_, ?_, ?_⟩
  · have file : snapshotFile codec (some text) = a.save.written := by
      rw [← snapshot_raw, snapshotFile, read]
    rw [file]
    exact restore_written_raw _ now fit
  · exact TokenAccountant.config_restore _ _ now
  · exact TokenAccountant.stateOf_restore_save configured now

/-- A text that is written begins with the bracket that its end closes. -/
theorem saveText_begins {codec : JsonCodec} {a : RawAccountant} {text : List Char}
    (saved : a.saveText codec = some text) : ∃ rest, text = '\x7b' :: rest := by
  obtain ⟨parts, _, rfl⟩ := Option.map_eq_some_iff.mp saved
  exact ⟨_, rfl⟩

/-- **Torn snapshots.** If only a beginning of a snapshot was written, possibly nothing at all, it
is not restored, and the accountant is as it was. -/
theorem restore_torn {codec : JsonCodec} (deep : 5 ≤ codec.depth) {a : TokenAccountant}
    (writable : Writable codec.floats a) {first rest : List Char}
    (saved : a.raw.saveText codec = some (first ++ rest)) (cut : rest ≠ [])
    (b : RawAccountant) (now : Time) :
    b.restore (snapshotFile codec (some first)) now = (b, .ok ()) := by
  obtain ⟨depth, deeper⟩ : ∃ depth, codec.depth = depth + 5 := ⟨codec.depth - 5, by omega⟩
  have refused : loads codec.floats codec.depth first = none := by
    rw [deeper]
    exact loads_torn (fits_snapshot writable depth) saved cut
  have unread : ∃ e exception, snapshotFile codec (some first) = .unreadable e exception := by
    rw [snapshotFile, refused]
    exact ⟨_, _, rfl⟩
  obtain ⟨e, exception, file⟩ := unread
  have alive : (Except.error e : Except PyError Unit) ≠ .error .cancelled := by
    intro same
    exact exception (Except.error.inj same)
  rw [file, RawAccountant.restore]
  simp only [RawAccountant.restoreFile, guarded_eq_ok alive]

end AgentServe
