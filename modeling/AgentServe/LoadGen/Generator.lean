import AgentServe.Lib.Lists
import AgentServe.Lib.Run
import AgentServe.Lib.Semaphore
import AgentServe.LoadGen.Runner
import Mathlib.Algebra.Order.BigOperators.Group.Finset

/-!
# The closed loop of the load generator

One task runs every session, and a semaphore lets a number of them run at a time. A
session draws how many turns it has, and takes them one after the other: a turn is sent
and answered, and the session rests, before the next one is sent. The rows of a session
are handed over when it returns. A session that raises hands over none, and the loop goes
on without it.

The loop keeps its pool full: as many sessions run as may, or else nobody waits
(`pool_is_full`). It ends after a bounded number of events, whatever the turns come to,
with every session over, unless no session may run (`loop_ends`). What it hands over are
the rows of the sessions that returned, all the turns of a session together and in order
(`rows_of_loop`).
-/

set_option autoImplicit false

namespace AgentServe

open Lib SessionRunner

/-! ## Sessions -/

/-- A task that runs a session: it waits for its slot; it waits for a turn to be answered, or rests
after one, with the rows so far and the turns that are left; it returned its rows; it raised. -/
inductive SessionStage where
  | waiting
  | requesting (rows : List ResultRow) (left : ℕ)
  | resting (rows : List ResultRow) (left : ℕ)
  | returned (rows : List ResultRow)
  | raised

namespace SessionStage

/-- The session holds a slot. -/
def isRunning : SessionStage → Bool
  | .requesting _ _ | .resting _ _ => true
  | _ => false

def isWaiting : SessionStage → Bool
  | .waiting => true
  | _ => false

def isOver : SessionStage → Bool
  | .returned _ | .raised => true
  | _ => false

end SessionStage

/-- The closed loop: its semaphore, the tasks that were started, and the rows that were handed
over. The lock around the rows is never held across an await, so nobody waits for it. -/
structure LoadGenerator where
  profile : ProfileConfig
  semaphore : Semaphore ℕ
  tasks : Dict ℕ SessionStage
  allRows : List ResultRow

/-- What can happen next: a task runs for the first time, or with its slot, and the number of turns
that it would draw; a turn comes to something; a rest ends. -/
inductive LoopEvent where
  | enter (k : ℕ) (drawn : ℤ)
  | resume (k : ℕ) (drawn : ℤ)
  | answered (k : ℕ) (outcome : TurnOutcome)
  | rested (k : ℕ)

namespace LoadGenerator

/-- The loop with all of its tasks created. -/
def new (profile : ProfileConfig) : LoadGenerator := ⟨profile, .new profile.concurrency, .empty, []⟩

/-- A session is over, and gives its slot back. -/
def close (g : LoadGenerator) (k : ℕ) : Option (List ResultRow) → LoadGenerator
  | some rows => { g with
      semaphore := g.semaphore.release, tasks := g.tasks.set k (.returned rows),
      allRows := g.allRows ++ rows }
  | none => { g with semaphore := g.semaphore.release, tasks := g.tasks.set k .raised }

/-- A session goes on to its next turn, or returns after the last one. -/
def turn (g : LoadGenerator) (k : ℕ) (rows : List ResultRow) : ℕ → LoadGenerator
  | 0 => g.close k (some rows)
  | left + 1 => { g with tasks := g.tasks.set k (.requesting rows left) }

/-- A session draws its number of turns, and raises if there is none to draw. -/
def begin (g : LoadGenerator) (k : ℕ) (drawn : ℤ) : Option LoadGenerator :=
  if g.profile.turnSpec.maxTurns < g.profile.turnSpec.minTurns then some (g.close k none)
  else if g.profile.turnSpec.minTurns ≤ drawn ∧ drawn ≤ g.profile.turnSpec.maxTurns then
    some (g.turn k [] drawn.toNat)
  else none

/-- A session rests after a turn, if it has to. -/
def rest (g : LoadGenerator) (k : ℕ) (rows : List ResultRow) (left : ℕ) : LoadGenerator :=
  if 0 < g.profile.thinkTimeSeconds then { g with tasks := g.tasks.set k (.resting rows left) }
  else g.turn k rows left

variable (lib : SchemaLibrary)

/-- One step. -/
def step (g : LoadGenerator) : LoopEvent → Option LoadGenerator
  | .enter k drawn =>
    if k < g.profile.totalSessions ∧ g.tasks.get? k = none then
      match g.semaphore.tryAcquire with
      | some semaphore => { g with semaphore }.begin k drawn
      | none =>
        some { g with semaphore := g.semaphore.enqueue k, tasks := g.tasks.set k .waiting }
    else none
  | .resume k drawn =>
    match g.semaphore.resume k false with
    | some (semaphore, true) => { g with semaphore }.begin k drawn
    | _ => none
  | .answered k outcome =>
    match g.tasks.get? k with
    | some (.requesting rows left) =>
      match singleTurn lib g.profile (g.profile.sessionId k) outcome with
      | some row => some (g.rest k (rows ++ [row]) left)
      | none => some (g.close k none)
    | _ => none
  | .rested k =>
    match g.tasks.get? k with
    | some (.resting rows left) => some (g.turn k rows left)
    | _ => none

def runningIn (tasks : Dict ℕ SessionStage) : ℕ := tasks.count fun _ stage => stage.isRunning

/-- The sessions that hold a slot. -/
def running (g : LoadGenerator) : ℕ := runningIn g.tasks

/-- The sessions that wait for a slot. -/
def waiting (g : LoadGenerator) : ℕ := g.tasks.count fun _ stage => stage.isWaiting

/-! ## What a step does -/

/-- A session that holds a slot goes on, with its rows so far and a number of turns that are
left. -/
inductive Goes (g : LoadGenerator) (k : ℕ) (rows : List ResultRow) : ℕ → LoadGenerator → Prop where
  | requests {left : ℕ} :
      Goes g k rows (left + 1) { g with tasks := g.tasks.set k (.requesting rows left) }
  | rests {left : ℕ} : Goes g k rows left { g with tasks := g.tasks.set k (.resting rows left) }
  | returns : Goes g k rows 0 (g.close k (some rows))
  | raises {left : ℕ} : Goes g k rows left (g.close k none)

variable {lib} {g h : LoadGenerator} {k : ℕ}

theorem turn_goes (g : LoadGenerator) (k : ℕ) (rows : List ResultRow) (left : ℕ) :
    Goes g k rows left (g.turn k rows left) := by
  cases left with
  | zero => exact .returns
  | succ left => exact .requests

theorem rest_goes (g : LoadGenerator) (k : ℕ) (rows : List ResultRow) (left : ℕ) :
    Goes g k rows left (g.rest k rows left) := by
  unfold rest
  split
  · exact .rests
  · exact turn_goes g k rows left

/-- The turns of a session are as many as its profile allows. -/
def Allowed (profile : ProfileConfig) (turns : ℕ) : Prop :=
  profile.turnSpec.minTurns.toNat ≤ turns ∧ turns ≤ profile.turnSpec.maxTurns.toNat

/-- A session that begins goes on with the turns that it drew, or raises. -/
theorem begin_cases {drawn : ℤ} (begins : g.begin k drawn = some h) :
    h = g.close k none ∨ ∃ left, h = g.turn k [] left ∧ Allowed g.profile left := by
  unfold begin at begins
  split at begins
  · cases begins
    exact .inl rfl
  · split at begins
    · rename_i between
      cases begins
      exact .inr ⟨_, rfl, Int.toNat_le_toNat between.1, Int.toNat_le_toNat between.2⟩
    · cases begins

theorem begin_goes {drawn : ℤ} (begins : g.begin k drawn = some h) :
    ∃ left, Goes g k [] left h := by
  rcases begin_cases begins with rfl | ⟨left, rfl, _⟩
  · exact ⟨0, .raises⟩
  · exact ⟨left, turn_goes g k [] left⟩

/-- What a step does: a session takes a slot at once and begins, or waits; a session that waited
begins; a session that runs has a row more, or raises; a session goes on after a rest. -/
inductive Does (lib : SchemaLibrary) (g : LoadGenerator) : LoopEvent → LoadGenerator → Prop where
  | enters {k : ℕ} {drawn : ℤ} {semaphore : Semaphore ℕ} {h : LoadGenerator}
      (known : k < g.profile.totalSessions) (absent : g.tasks.get? k = none)
      (taken : g.semaphore.tryAcquire = some semaphore)
      (begins : { g with semaphore }.begin k drawn = some h) : Does lib g (.enter k drawn) h
  | queues {k : ℕ} {drawn : ℤ} (known : k < g.profile.totalSessions)
      (absent : g.tasks.get? k = none) (full : g.semaphore.tryAcquire = none) :
      Does lib g (.enter k drawn)
        { g with semaphore := g.semaphore.enqueue k, tasks := g.tasks.set k .waiting }
  | resumes {k : ℕ} {drawn : ℤ} {semaphore : Semaphore ℕ} {h : LoadGenerator}
      (woken : g.semaphore.resume k false = some (semaphore, true))
      (begins : { g with semaphore }.begin k drawn = some h) : Does lib g (.resume k drawn) h
  | rows {k : ℕ} {outcome : TurnOutcome} {rows : List ResultRow} {left : ℕ} {row : ResultRow}
      (requests : g.tasks.get? k = some (.requesting rows left))
      (made : singleTurn lib g.profile (g.profile.sessionId k) outcome = some row) :
      Does lib g (.answered k outcome) (g.rest k (rows ++ [row]) left)
  | raises {k : ℕ} {outcome : TurnOutcome} {rows : List ResultRow} {left : ℕ}
      (requests : g.tasks.get? k = some (.requesting rows left))
      (refused : singleTurn lib g.profile (g.profile.sessionId k) outcome = none) :
      Does lib g (.answered k outcome) (g.close k none)
  | rested {k : ℕ} {rows : List ResultRow} {left : ℕ}
      (rests : g.tasks.get? k = some (.resting rows left)) :
      Does lib g (.rested k) (g.turn k rows left)

theorem does_of_step {e : LoopEvent} (stepped : g.step lib e = some h) : Does lib g e h := by
  cases e with
  | enter k drawn =>
      simp only [step] at stepped
      split at stepped
      · rename_i fresh
        split at stepped
        · rename_i taken
          exact .enters fresh.1 fresh.2 taken stepped
        · rename_i full
          cases stepped
          exact .queues fresh.1 fresh.2 full
      · cases stepped
  | resume k drawn =>
      simp only [step] at stepped
      split at stepped
      · rename_i woken
        exact .resumes woken stepped
      · cases stepped
  | answered k outcome =>
      simp only [step] at stepped
      split at stepped
      · rename_i requests
        split at stepped
        · rename_i made
          cases stepped
          exact .rows requests made
        · rename_i refused
          cases stepped
          exact .raises requests refused
      · cases stepped
  | rested k =>
      simp only [step] at stepped
      split at stepped
      · rename_i rests
        cases stepped
        exact .rested rests
      · cases stepped

/-! ## Slots -/

/-- The waiters of the semaphore are the sessions that wait. None of them is cancelled. -/
def Linked (g : LoadGenerator) : Prop :=
  ∀ k, (g.semaphore.waiters.get? k = none ↔ g.tasks.get? k ≠ some .waiting) ∧
    g.semaphore.waiters.get? k ≠ some .cancelled

/-- The slots are those that no running session holds. -/
structure Admitted (profile : ProfileConfig) (g : LoadGenerator) : Prop where
  settings : g.profile = profile
  known : ∀ k stage, g.tasks.get? k = some stage → k < profile.totalSessions
  linked : g.Linked
  slots : g.semaphore.slots + g.running = profile.concurrency
  prompt : g.semaphore.Prompt

theorem running_set (tasks : Dict ℕ SessionStage) (k : ℕ) (stage : SessionStage) :
    runningIn (tasks.set k stage) + ((tasks.get? k).any SessionStage.isRunning).toNat =
      runningIn tasks + stage.isRunning.toNat :=
  Dict.count_set (fun _ stage => SessionStage.isRunning stage) tasks k stage

/-- A session that goes on holds its slot, or gives it back. -/
theorem slots_of_goes {rows : List ResultRow} {left : ℕ} (goes : Goes g k rows left h) :
    h.semaphore.slots + h.running + ((g.tasks.get? k).any SessionStage.isRunning).toNat =
      g.semaphore.slots + g.running + 1 := by
  have holds : ∀ stage : SessionStage, stage.isRunning = true →
      runningIn (g.tasks.set k stage) + ((g.tasks.get? k).any SessionStage.isRunning).toNat =
        runningIn g.tasks + 1 := by
    intro stage runs
    rw [running_set, runs, Bool.toNat_true]
  have gives : ∀ stage : SessionStage, stage.isRunning = false →
      runningIn (g.tasks.set k stage) + ((g.tasks.get? k).any SessionStage.isRunning).toNat =
        runningIn g.tasks := by
    intro stage ends
    rw [running_set, ends, Bool.toNat_false, Nat.add_zero]
  cases goes with
  | @requests left =>
      have counted := holds (.requesting rows left) rfl
      simp only [running]
      omega
  | rests =>
      have counted := holds (.resting rows left) rfl
      simp only [running]
      omega
  | returns =>
      have counted := gives (.returned rows) rfl
      simp only [running, close, Semaphore.slots_release]
      omega
  | raises =>
      have counted := gives .raised rfl
      simp only [running, close, Semaphore.slots_release]
      omega

/-- Waking a waiter leaves the waiters who they were. -/
theorem linked_of_woken {s t : Semaphore ℕ} (woken : Semaphore.Woken s t) {idle : ℕ → Prop}
    (linked : ∀ k, (s.waiters.get? k = none ↔ idle k) ∧ s.waiters.get? k ≠ some .cancelled)
    (k : ℕ) : (t.waiters.get? k = none ↔ idle k) ∧ t.waiters.get? k ≠ some .cancelled := by
  refine ⟨woken.get?_eq_none.trans (linked k).1, ?_⟩
  rcases woken.future k with same | ⟨_, granted⟩
  · rw [same]
    exact (linked k).2
  · rw [granted]
    simp

/-- What a session that goes on leaves to the other sessions. -/
theorem linked_of_goes {rows : List ResultRow} {left : ℕ} (goes : Goes g k rows left h)
    (linked : ∀ j, (g.semaphore.waiters.get? j = none ↔ j = k ∨ g.tasks.get? j ≠ some .waiting) ∧
      g.semaphore.waiters.get? j ≠ some .cancelled) (prompt : g.semaphore.Prompt) :
    h.Linked ∧ h.semaphore.Prompt ∧ h.profile = g.profile := by
  have after : ∀ stage : SessionStage, stage ≠ .waiting → ∀ j,
      (g.semaphore.waiters.get? j = none ↔ (g.tasks.set k stage).get? j ≠ some .waiting) ∧
        g.semaphore.waiters.get? j ≠ some .cancelled := by
    intro stage other j
    refine ⟨(linked j).1.trans ?_, (linked j).2⟩
    rw [Dict.get?_set]
    split
    · rename_i same
      simp [same, other]
    · rename_i differ
      simp [differ]
  cases goes with
  | requests => exact ⟨after _ (by simp), prompt, rfl⟩
  | rests => exact ⟨after _ (by simp), prompt, rfl⟩
  | returns =>
      exact ⟨linked_of_woken g.semaphore.release_woken (after _ (by simp)),
        g.semaphore.release_prompt, rfl⟩
  | raises =>
      exact ⟨linked_of_woken g.semaphore.release_woken (after _ (by simp)),
        g.semaphore.release_prompt, rfl⟩

/-- A session that does not wait is no waiter. -/
theorem Linked.others (linked : g.Linked) (idle : g.tasks.get? k ≠ some .waiting) (j : ℕ) :
    (g.semaphore.waiters.get? j = none ↔ j = k ∨ g.tasks.get? j ≠ some .waiting) ∧
      g.semaphore.waiters.get? j ≠ some .cancelled := by
  refine ⟨(linked j).1.trans ⟨.inr, ?_⟩, (linked j).2⟩
  rintro (rfl | other)
  · exact idle
  · exact other

/-- A session that was started stays known. -/
theorem known_of_goes {rows : List ResultRow} {left : ℕ} (goes : Goes g k rows left h) {n : ℕ}
    (known : ∀ j stage, g.tasks.get? j = some stage → j < n) (own : k < n) :
    ∀ j stage, h.tasks.get? j = some stage → j < n := by
  have after : ∀ (stage : SessionStage) j other,
      (g.tasks.set k stage).get? j = some other → j < n := by
    intro stage j other found
    rw [Dict.get?_set] at found
    split at found
    · rename_i same
      exact same ▸ own
    · exact known j other found
  cases goes <;> exact after _

theorem admitted_new (profile : ProfileConfig) : Admitted profile (.new profile) where
  settings := rfl
  known := nofun
  linked := fun _ => ⟨by simp [new, Semaphore.new], nofun⟩
  slots := rfl
  prompt := Semaphore.prompt_new _

/-- Step lemma: slots are accounted for, and wake-ups are prompt. -/
theorem admitted_step {profile : ProfileConfig} {e : LoopEvent} (admitted : Admitted profile g)
    (stepped : g.step lib e = some h) : Admitted profile h := by
  obtain ⟨settings, known, linked, slots, prompt⟩ := admitted
  -- A session that runs goes on.
  have continues : ∀ {k rows left h} {stage : SessionStage}, g.tasks.get? k = some stage →
      stage.isRunning = true → Goes g k rows left h → Admitted profile h := by
    intro k rows left h stage found runs goes
    have idle : g.tasks.get? k ≠ some .waiting := by
      rw [found]
      rintro ⟨⟩
      cases runs
    obtain ⟨after, still, same⟩ := linked_of_goes goes (linked.others idle) prompt
    have counted := slots_of_goes goes
    rw [found, Option.any_some, runs, Bool.toNat_true] at counted
    exact ⟨same.trans settings, known_of_goes goes known (known k stage found), after, by omega,
      still⟩
  cases does_of_step stepped with
  | @enters k drawn semaphore h fresh absent taken begins =>
      obtain ⟨left, goes⟩ := begin_goes begins
      have waiters : semaphore.waiters = g.semaphore.waiters := by
        rw [(Semaphore.tryAcquire_eq_some taken).2]
      have one := Semaphore.slots_tryAcquire taken
      have idle : g.tasks.get? k ≠ some .waiting := by
        rw [absent]
        exact nofun
      have others := linked.others idle
      rw [← waiters] at others
      obtain ⟨after, still, same⟩ := linked_of_goes goes others (Semaphore.tryAcquire_prompt taken)
      have counted := slots_of_goes goes
      simp only [absent, Option.any_none, Bool.toNat_false] at counted
      refine ⟨same.trans settings, known_of_goes goes known (settings ▸ fresh), after, ?_, still⟩
      have before : g.running = runningIn g.tasks := rfl
      simp only [running] at counted ⊢
      omega
  | @queues k drawn fresh absent full =>
      have idle : g.semaphore.waiters.get? k = none := (linked k).1.mpr (by simp [absent])
      refine ⟨settings, ?_, ?_, ?_, prompt.enqueue idle full⟩
      · intro j stage found
        rw [Dict.get?_set] at found
        split at found
        · rename_i own
          exact own ▸ settings ▸ fresh
        · exact known j stage found
      · intro j
        rw [Semaphore.get?_enqueue, Dict.get?_set]
        split
        · simp
        · exact linked j
      · have counted := running_set g.tasks k .waiting
        simp only [absent, Option.any_none, Bool.toNat_false, Nat.add_zero] at counted
        rw [Semaphore.slots_enqueue idle]
        exact (congrArg _ counted).trans slots
  | @resumes k drawn semaphore h woken begins =>
      obtain ⟨left, goes⟩ := begin_goes begins
      obtain ⟨f, grant, _, _, slot, m, erased, wakes⟩ := Semaphore.resume_spec woken
      have waits : g.tasks.get? k = some .waiting := by
        by_contra idle
        rw [(linked k).1.mpr idle] at grant
        cases grant
      have others : ∀ j, (m.waiters.get? j = none ↔ j = k ∨ g.tasks.get? j ≠ some .waiting) ∧
          m.waiters.get? j ≠ some .cancelled := by
        intro j
        rw [erased, Dict.get?_erase]
        split
        · rename_i own
          simp [own]
        · rename_i differ
          simpa [differ] using linked j
      obtain ⟨after, still, same⟩ := linked_of_goes goes (linked_of_woken wakes others)
        (Semaphore.resume_prompt woken)
      have counted := slots_of_goes goes
      simp only [waits, Option.any_some, SessionStage.isRunning, Bool.toNat_false] at counted
      refine ⟨same.trans settings, known_of_goes goes known (known k _ waits), after, ?_, still⟩
      have before : g.running = runningIn g.tasks := rfl
      simp only [running, Bool.toNat_true] at counted slot ⊢
      omega
  | rows requests made => exact continues requests rfl (rest_goes g _ _ _)
  | @raises k outcome rows left requests refused =>
      have ends : Goes g k rows left (g.close k none) := .raises
      exact continues requests rfl ends
  | rested rests => exact continues rests rfl (turn_goes g _ _ _)

theorem admitted_run {profile : ProfileConfig} {events : List LoopEvent}
    (ran : run (step lib) (.new profile) events = some g) : Admitted profile g :=
  invariant_of_step (fun _ _ _ admitted stepped => admitted_step admitted stepped)
    (admitted_new profile) ran

/-! ## The pool -/

/-- No session has been granted a slot that it has not taken. -/
def Settled (g : LoadGenerator) : Prop := ∀ k, g.semaphore.waiters.get? k ≠ some .granted

/-- As soon as every session that was granted a slot has taken it, as many run as may, unless nobody
waits. -/
theorem running_of_settled {profile : ProfileConfig} (admitted : Admitted profile g)
    (settled : g.Settled) : g.running = min profile.concurrency (g.running + g.waiting) := by
  have slots := admitted.slots
  have ungranted : g.semaphore.granted = 0 := by
    apply Dict.count_eq_zero
    intro k f found
    cases f with
    | granted => exact absurd found (settled k)
    | _ => rfl
  rcases admitted.prompt with full | nobody | ⟨k, grant⟩
  · rw [Semaphore.slots, full, ungranted] at slots
    omega
  · have idle : g.waiting = 0 := by
      apply Dict.count_eq_zero
      intro k stage found
      have linked := admitted.linked k
      cases stage with
      | waiting =>
          cases state : g.semaphore.waiters.get? k with
          | none => exact absurd found (linked.1.mp state)
          | some f =>
              cases f with
              | pending => exact absurd state (nobody k)
              | granted => exact absurd state (settled k)
              | cancelled => exact absurd state linked.2
      | _ => rfl
    omega
  · exact absurd grant (settled k)

/-- Two sessions of one turn, one after the other. -/
def onePair : ProfileConfig where
  name := "pair"
  concurrency := 1
  totalSessions := 2
  thinkTimeSeconds := 0
  turnSpec := { minTurns := 1, maxTurns := 1 }

/-- A reply whose tier is a number. -/
def numberedTier : Json := .obj [("x_agent_serve", .obj [("tier", .number 1)])]

/-- The second session waits for the first one. Its reply is refused, and it raises. -/
def pairRun : List LoopEvent := [
  .enter 0 1, .enter 1 1, .answered 0 (answeredWith sevenTokens), .resume 1 1,
  .answered 1 (answeredWith numberedTier)]

theorem pairRun_fires : (run (step plainLibrary) (new onePair) pairRun).isSome = true := by
  decide +kernel

/-- **The pool.** In every state of every run no more sessions run than may. As soon as every
session that was granted a slot has taken it, as many run as may, unless nobody waits. Sessions that
run have different names. -/
theorem pool_is_full (profile : ProfileConfig) (events : List LoopEvent) (g : LoadGenerator)
    (ran : run (step lib) (.new profile) events = some g) :
    g.running ≤ profile.concurrency ∧
      (g.Settled → g.running = min profile.concurrency (g.running + g.waiting)) ∧
      ((g.tasks.filter fun _ stage => stage.isRunning).keys.map profile.sessionId).Nodup := by
  have admitted := admitted_run ran
  have slots := admitted.slots
  exact ⟨by omega, running_of_settled admitted,
    (Dict.nodup_keys _).map (sessionId_injective profile)⟩

/-- The pool of one session is full, and empty after the run. -/
theorem pool_is_full_pairRun :
    ∃ g, run (step plainLibrary) (new onePair) pairRun = some g ∧
      g.running ≤ onePair.concurrency ∧
        (g.Settled → g.running = min onePair.concurrency (g.running + g.waiting)) ∧
        ((g.tasks.filter fun _ stage => stage.isRunning).keys.map onePair.sessionId).Nodup := by
  obtain ⟨g, ran⟩ := Option.isSome_iff_exists.mp pairRun_fires
  exact ⟨g, ran, pool_is_full onePair pairRun g ran⟩

/-! ## The end of the loop -/

/-- How many events a session of at most a number of turns can still have. -/
def eventsLeft (maxTurns : ℕ) : Option SessionStage → ℕ
  | none => 2 * maxTurns + 2
  | some .waiting => 2 * maxTurns + 1
  | some (.requesting _ left) => 2 * left + 2
  | some (.resting _ left) => 2 * left + 1
  | some (.returned _) | some .raised => 0

/-- How many events the loop can still have. -/
def totalLeft (g : LoadGenerator) : ℕ :=
  ∑ k ∈ Finset.range g.profile.totalSessions,
    eventsLeft g.profile.turnSpec.maxTurns.toNat (g.tasks.get? k)

/-- A session that moves on has fewer events left. -/
theorem totalLeft_lt {profile : ProfileConfig} (before : g.profile = profile)
    (after : h.profile = profile) (stage : SessionStage) (moved : h.tasks = g.tasks.set k stage)
    (known : k < profile.totalSessions)
    (less : eventsLeft profile.turnSpec.maxTurns.toNat (some stage) <
      eventsLeft profile.turnSpec.maxTurns.toNat (g.tasks.get? k)) :
    h.totalLeft < g.totalLeft := by
  rw [totalLeft, totalLeft, before, after, moved]
  apply Finset.sum_lt_sum
  · intro j _
    rw [Dict.get?_set]
    split
    · rename_i own
      exact own ▸ less.le
    · exact Nat.le_refl _
  · exact ⟨k, Finset.mem_range.mpr known, by rwa [Dict.get?_set_self]⟩

theorem totalLeft_close {profile : ProfileConfig} (settings : g.profile = profile)
    (known : k < profile.totalSessions) (rows : Option (List ResultRow))
    (room : 0 < eventsLeft profile.turnSpec.maxTurns.toNat (g.tasks.get? k)) :
    (g.close k rows).totalLeft < g.totalLeft := by
  cases rows with
  | none => exact totalLeft_lt settings settings .raised rfl known room
  | some rows => exact totalLeft_lt settings settings (.returned rows) rfl known room

theorem totalLeft_turn {profile : ProfileConfig} (settings : g.profile = profile)
    (known : k < profile.totalSessions) (rows : List ResultRow) {left : ℕ}
    (room : 2 * left < eventsLeft profile.turnSpec.maxTurns.toNat (g.tasks.get? k)) :
    (g.turn k rows left).totalLeft < g.totalLeft := by
  cases left with
  | zero => exact totalLeft_close settings known (some rows) room
  | succ left => exact totalLeft_lt settings settings (.requesting rows left) rfl known room

theorem totalLeft_begin {profile : ProfileConfig} (settings : g.profile = profile)
    (known : k < profile.totalSessions) {drawn : ℤ} (begins : g.begin k drawn = some h)
    (room : 2 * profile.turnSpec.maxTurns.toNat <
      eventsLeft profile.turnSpec.maxTurns.toNat (g.tasks.get? k)) :
    h.totalLeft < g.totalLeft := by
  rcases begin_cases begins with rfl | ⟨left, rfl, allowed⟩
  · exact totalLeft_close settings known none (Nat.zero_lt_of_lt room)
  · have most : left ≤ profile.turnSpec.maxTurns.toNat := settings ▸ allowed.2
    exact totalLeft_turn settings known [] (by omega)

/-- Step lemma: every event is one less to come. -/
theorem totalLeft_step {profile : ProfileConfig} {e : LoopEvent} (admitted : Admitted profile g)
    (stepped : g.step lib e = some h) : h.totalLeft < g.totalLeft := by
  obtain ⟨settings, known, linked, _, _⟩ := admitted
  cases does_of_step stepped with
  | @enters k drawn semaphore h fresh absent taken begins =>
      refine totalLeft_begin (g := { g with semaphore }) settings (settings ▸ fresh) begins ?_
      rw [absent]
      exact Nat.lt_add_of_pos_right (by decide)
  | queues fresh absent full =>
      refine totalLeft_lt settings settings .waiting rfl (settings ▸ fresh) ?_
      rw [absent]
      exact Nat.lt_succ_self _
  | @resumes k drawn semaphore h woken begins =>
      obtain ⟨f, grant, _⟩ := Semaphore.resume_spec woken
      have waits : g.tasks.get? k = some .waiting := by
        by_contra idle
        rw [(linked k).1.mpr idle] at grant
        cases grant
      refine totalLeft_begin (g := { g with semaphore }) settings (known k _ waits) begins ?_
      rw [waits]
      exact Nat.lt_succ_self _
  | @rows k outcome rows left row requests made =>
      have here := known k _ requests
      unfold rest
      split
      · refine totalLeft_lt settings settings (.resting _ left) rfl here ?_
        rw [requests]
        exact Nat.lt_succ_self _
      · refine totalLeft_turn settings here _ ?_
        rw [requests]
        exact Nat.lt_add_of_pos_right (by decide)
  | raises requests refused =>
      refine totalLeft_close settings (known _ _ requests) none ?_
      rw [requests]
      exact Nat.succ_pos _
  | rested rests =>
      refine totalLeft_turn settings (known _ _ rests) _ ?_
      rw [rests]
      exact Nat.lt_succ_self _

/-- Where no session may run, every session that was started waits. -/
theorem waiting_step {profile : ProfileConfig} (nobody : profile.concurrency = 0) {e : LoopEvent}
    (admitted : Admitted profile g)
    (idle : ∀ k stage, g.tasks.get? k = some stage → stage = .waiting)
    (stepped : g.step lib e = some h) :
    ∀ k stage, h.tasks.get? k = some stage → stage = .waiting := by
  have slots := admitted.slots
  cases does_of_step stepped with
  | enters _ _ taken _ =>
      have one := Semaphore.slots_tryAcquire taken
      omega
  | queues =>
      intro j stage found
      rw [Dict.get?_set] at found
      split at found
      · exact (Option.some.inj found).symm
      · exact idle j stage found
  | resumes woken _ =>
      obtain ⟨_, _, _, _, one, _⟩ := Semaphore.resume_spec woken
      rw [Bool.toNat_true] at one
      omega
  | rows requests => cases idle _ _ requests
  | raises requests => cases idle _ _ requests
  | rested rests => cases idle _ _ rests

/-- A session can always draw the least number of turns. -/
theorem begin_least (g : LoadGenerator) (k : ℕ) :
    g.begin k g.profile.turnSpec.minTurns ≠ none := by
  unfold begin
  split
  · simp
  · rename_i some_turns
    rw [if_pos ⟨Int.le_refl _, Int.not_lt.mp some_turns⟩]
    simp

/-- Where the loop cannot go on, every session was started, and no session runs. -/
theorem started_of_stuck {profile : ProfileConfig} (admitted : Admitted profile g)
    (stuck : ∀ e, g.step lib e = none) {k : ℕ} (known : k < profile.totalSessions) :
    ∃ stage, g.tasks.get? k = some stage ∧ stage.isRunning = false := by
  cases found : g.tasks.get? k with
  | none =>
      exfalso
      have never := stuck (.enter k g.profile.turnSpec.minTurns)
      have fresh : k < g.profile.totalSessions := admitted.settings ▸ known
      rw [step, if_pos ⟨fresh, found⟩] at never
      split at never
      · rename_i semaphore _
        exact begin_least { g with semaphore } k never
      · cases never
  | some stage =>
      cases stage with
      | requesting rows left =>
          have never := stuck (.answered k ⟨"", none, 0, 0, ""⟩)
          simp only [step, found] at never
          split at never <;> cases never
      | resting rows left =>
          have never := stuck (.rested k)
          simp only [step, found] at never
          cases never
      | _ => exact ⟨_, rfl, rfl⟩

/-- A granted session can take its slot. -/
theorem settled_of_stuck (stuck : ∀ e, g.step lib e = none) : g.Settled := by
  intro k grant
  have never := stuck (.resume k g.profile.turnSpec.minTurns)
  simp only [step, Semaphore.resume, grant, Bool.false_eq_true, if_false] at never
  exact begin_least { g with semaphore := _ } k never

/-- Where the loop cannot go on and some session may run, every session is over. -/
theorem over_of_stuck {profile : ProfileConfig} (admitted : Admitted profile g)
    (stuck : ∀ e, g.step lib e = none) (some_run : 0 < profile.concurrency) {k : ℕ}
    (known : k < profile.totalSessions) :
    (g.tasks.get? k).any SessionStage.isOver = true := by
  have nobody : runningIn g.tasks = 0 := by
    apply Dict.count_eq_zero
    intro j stage found
    obtain ⟨stage', same, still⟩ := started_of_stuck admitted stuck (admitted.known j stage found)
    rw [found] at same
    cases same
    exact still
  obtain ⟨stage, found, still⟩ := started_of_stuck admitted stuck known
  rw [found]
  cases stage with
  | waiting =>
      have full := running_of_settled admitted (settled_of_stuck stuck)
      have waits : 0 < g.waiting := Dict.count_pos found rfl
      rw [running, nobody] at full
      omega
  | requesting rows left => cases still
  | resting rows left => cases still
  | _ => rfl

/-- **The end of the loop.** No run has more events than the turns account for. Where the loop
cannot go on, every session is over, exactly if some session may run or there is none. -/
theorem loop_ends (profile : ProfileConfig) (events : List LoopEvent) (g : LoadGenerator)
    (ran : run (step lib) (.new profile) events = some g) :
    events.length ≤ profile.totalSessions * (2 * profile.turnSpec.maxTurns.toNat + 2) ∧
      ((∀ e, g.step lib e = none) →
        ((∀ k < profile.totalSessions, (g.tasks.get? k).any SessionStage.isOver = true) ↔
          0 < profile.concurrency ∨ profile.totalSessions = 0)) := by
  have admitted := admitted_run ran
  constructor
  · have short := length_add_le_of_decreasing totalLeft
      (fun _ _ _ admitted stepped => admitted_step admitted stepped)
      (fun _ _ _ admitted stepped => totalLeft_step admitted stepped) (admitted_new profile) ran
    have start : (new profile).totalLeft =
        profile.totalSessions * (2 * profile.turnSpec.maxTurns.toNat + 2) := by
      simp [totalLeft, eventsLeft, new]
    omega
  · intro stuck
    constructor
    · intro all
      by_contra neither
      obtain ⟨nobody, some_session⟩ := not_or.mp neither
      have idle : Admitted profile g ∧ ∀ k stage, g.tasks.get? k = some stage → stage = .waiting :=
        invariant_of_step (P := fun g => Admitted profile g ∧
            ∀ k stage, g.tasks.get? k = some stage → stage = .waiting)
          (fun _ _ _ holds stepped => ⟨admitted_step holds.1 stepped,
            waiting_step (by omega) holds.1 holds.2 stepped⟩)
          ⟨admitted_new profile, nofun⟩ ran
      obtain ⟨stage, found, _⟩ := started_of_stuck admitted stuck (Nat.pos_of_ne_zero some_session)
      have first := all 0 (Nat.pos_of_ne_zero some_session)
      rw [found, idle.2 0 stage found] at first
      cases first
    · rintro (some_run | nothing) k known
      · exact over_of_stuck admitted stuck some_run known
      · omega

/-- Five events are fewer than eight. -/
theorem loop_ends_pairRun :
    ∃ g, run (step plainLibrary) (new onePair) pairRun = some g ∧
      pairRun.length ≤ onePair.totalSessions * (2 * onePair.turnSpec.maxTurns.toNat + 2) ∧
        ((∀ e, g.step plainLibrary e = none) →
          ((∀ k < onePair.totalSessions, (g.tasks.get? k).any SessionStage.isOver = true) ↔
            0 < onePair.concurrency ∨ onePair.totalSessions = 0)) := by
  obtain ⟨g, ran⟩ := Option.isSome_iff_exists.mp pairRun_fires
  exact ⟨g, ran, loop_ends onePair pairRun g ran⟩

/-! ## The rows of the loop -/

/-- The row that an event makes for a session. -/
def rowOf (lib : SchemaLibrary) (profile : ProfileConfig) (k : ℕ) : LoopEvent → Option ResultRow
  | .answered j outcome =>
    if j = k then singleTurn lib profile (profile.sessionId k) outcome else none
  | _ => none

/-- The rows that events make for a session, in order. -/
def rowsOf (lib : SchemaLibrary) (profile : ProfileConfig) (events : List LoopEvent) (k : ℕ) :
    List ResultRow :=
  events.filterMap (rowOf lib profile k)

/-- A session returned, with its rows. -/
def Returned (g : LoadGenerator) (k : ℕ) : Prop := ∃ rows, g.tasks.get? k = some (.returned rows)

/-- A session has kept its rows so far, and its turns are as many as its profile allows. -/
def Kept (profile : ProfileConfig) (made : List ResultRow) : Option SessionStage → Prop
  | none | some .waiting => made = []
  | some (.requesting rows left) => rows = made ∧ Allowed profile (rows.length + left + 1)
  | some (.resting rows left) => rows = made ∧ Allowed profile (rows.length + left)
  | some (.returned rows) => rows = made ∧ Allowed profile rows.length
  | some .raised => True

/-- What a stage hands over. -/
def handedOver : SessionStage → List ResultRow
  | .returned rows => rows
  | _ => []

/-- A step moves one session to a stage, and hands over its rows if it returns. -/
structure Moved (profile : ProfileConfig) (k : ℕ) (made : List ResultRow) (stage : SessionStage)
    (g h : LoadGenerator) : Prop where
  tasks : h.tasks = g.tasks.set k stage
  allRows : h.allRows = g.allRows ++ handedOver stage
  kept : Kept profile made (some stage)

theorem moved_close (profile : ProfileConfig) (made : List ResultRow) (g : LoadGenerator) (k : ℕ) :
    Moved profile k made .raised g (g.close k none) :=
  ⟨rfl, (List.append_nil _).symm, trivial⟩

theorem moved_turn {profile : ProfileConfig} (g : LoadGenerator) (k : ℕ) {rows : List ResultRow}
    {left : ℕ} (allowed : Allowed profile (rows.length + left)) :
    ∃ stage, Moved profile k rows stage g (g.turn k rows left) := by
  cases left with
  | zero => exact ⟨.returned rows, rfl, rfl, rfl, allowed⟩
  | succ left => exact ⟨.requesting rows left, rfl, (List.append_nil _).symm, rfl, allowed⟩

theorem moved_begin {g : LoadGenerator} {drawn : ℤ} (begins : g.begin k drawn = some h) :
    ∃ stage, Moved g.profile k [] stage g h := by
  rcases begin_cases begins with rfl | ⟨left, rfl, allowed⟩
  · exact ⟨.raised, moved_close _ _ g k⟩
  · exact moved_turn g k (by simpa using allowed)

theorem rowsOf_concat (profile : ProfileConfig) (past : List LoopEvent) (e : LoopEvent) (k : ℕ) :
    rowsOf lib profile (past ++ [e]) k =
      rowsOf lib profile past k ++ (rowOf lib profile k e).toList := by
  cases made : rowOf lib profile k e <;> simp [rowsOf, made]

/-- Step lemma: a session that has not returned keeps its rows, and one that returns hands them
over. -/
theorem moved_step {profile : ProfileConfig} {past : List LoopEvent} {e : LoopEvent}
    (admitted : Admitted profile g)
    (kept : ∀ k, Kept profile (rowsOf lib profile past k) (g.tasks.get? k))
    (stepped : g.step lib e = some h) :
    ∃ k stage, Moved profile k (rowsOf lib profile (past ++ [e]) k) stage g h ∧ ¬ g.Returned k ∧
      ∀ j, j ≠ k → rowOf lib profile j e = none := by
  obtain ⟨rfl, known, linked, _, _⟩ := admitted
  have same : ∀ {k}, rowOf lib g.profile k e = none →
      rowsOf lib g.profile (past ++ [e]) k = rowsOf lib g.profile past k := by
    intro k none_made
    rw [rowsOf_concat, none_made, Option.toList_none, List.append_nil]
  have running : ∀ {k stage}, g.tasks.get? k = some stage → stage.isRunning = true →
      ¬ g.Returned k := by
    rintro k stage found runs ⟨rows, returned⟩
    cases found.symm.trans returned
    cases runs
  cases does_of_step stepped with
  | @enters k drawn semaphore h fresh absent taken begins =>
      obtain ⟨stage, tasks, allRows, keeps⟩ := moved_begin begins
      have nothing : rowsOf lib g.profile past k = [] := by
        have before := kept k
        rwa [absent] at before
      refine ⟨k, stage, ⟨tasks, allRows, ?_⟩, ?_, fun _ _ => rfl⟩
      · rw [same rfl, nothing]
        exact keeps
      · rintro ⟨rows, returned⟩
        cases absent.symm.trans returned
  | @queues k drawn fresh absent full =>
      refine ⟨k, .waiting, ⟨rfl, (List.append_nil _).symm, ?_⟩, ?_, fun _ _ => rfl⟩
      · have before := kept k
        rw [absent] at before
        rw [same rfl]
        exact before
      · rintro ⟨rows, returned⟩
        cases absent.symm.trans returned
  | @resumes k drawn semaphore h woken begins =>
      obtain ⟨f, grant, _⟩ := Semaphore.resume_spec woken
      have waits : g.tasks.get? k = some .waiting := by
        by_contra idle
        rw [(linked k).1.mpr idle] at grant
        cases grant
      obtain ⟨stage, tasks, allRows, keeps⟩ := moved_begin begins
      have nothing : rowsOf lib g.profile past k = [] := by
        have before := kept k
        rwa [waits] at before
      refine ⟨k, stage, ⟨tasks, allRows, ?_⟩, ?_, fun _ _ => rfl⟩
      · rw [same rfl, nothing]
        exact keeps
      · rintro ⟨rows, returned⟩
        cases waits.symm.trans returned
  | @rows k outcome rows left row requests made =>
      have before := kept k
      rw [requests] at before
      obtain ⟨own, allowed⟩ := before
      have next : rowsOf lib g.profile (past ++ [.answered k outcome]) k = rows ++ [row] := by
        rw [rowsOf_concat, ← own, rowOf, if_pos rfl, made]
        rfl
      have more : Allowed g.profile ((rows ++ [row]).length + left) := by
        rw [List.length_append, List.length_singleton, Nat.add_right_comm]
        exact allowed
      have others : ∀ j, j ≠ k → rowOf lib g.profile j (.answered k outcome) = none :=
        fun j differ => if_neg fun equal => differ equal.symm
      rw [rest]
      split
      · refine ⟨k, .resting (rows ++ [row]) left, ⟨rfl, (List.append_nil _).symm, ?_⟩,
          running requests rfl, others⟩
        rw [next]
        exact ⟨rfl, more⟩
      · obtain ⟨stage, moved⟩ := moved_turn g k more
        exact ⟨k, stage, next ▸ moved, running requests rfl, others⟩
  | @raises k outcome rows left requests refused =>
      exact ⟨k, .raised, moved_close _ _ g k, running requests rfl,
        fun j differ => if_neg fun equal => differ equal.symm⟩
  | @rested k rows left rests =>
      have before := kept k
      rw [rests] at before
      obtain ⟨own, allowed⟩ := before
      obtain ⟨stage, moved⟩ := moved_turn g k allowed
      refine ⟨k, stage, ?_, running rests rfl, fun _ _ => rfl⟩
      rw [same rfl, ← own]
      exact moved

/-- What holds of every reachable state: the sessions that are not over have their rows, and those
that returned have handed them over, one after the other. -/
structure Collected (lib : SchemaLibrary) (profile : ProfileConfig) (past : List LoopEvent)
    (g : LoadGenerator) : Prop where
  admitted : Admitted profile g
  kept : ∀ k, Kept profile (rowsOf lib profile past k) (g.tasks.get? k)
  handed : ∃ order : List ℕ, order.Nodup ∧ (∀ k, k ∈ order ↔ g.Returned k) ∧
    g.allRows = order.flatMap (rowsOf lib profile past)

theorem collected_step {profile : ProfileConfig} {past : List LoopEvent} {e : LoopEvent}
    (collected : Collected lib profile past g) (stepped : g.step lib e = some h) :
    Collected lib profile (past ++ [e]) h := by
  obtain ⟨admitted, kept, order, distinct, members, rows⟩ := collected
  obtain ⟨k, stage, ⟨tasks, allRows, keeps⟩, running, others⟩ := moved_step admitted kept stepped
  have same : ∀ j, j ≠ k → rowsOf lib profile (past ++ [e]) j = rowsOf lib profile past j := by
    intro j differ
    rw [rowsOf_concat, others j differ, Option.toList_none, List.append_nil]
  have fresh : k ∉ order := fun member => running ((members k).mp member)
  have earlier : order.flatMap (rowsOf lib profile (past ++ [e])) =
      order.flatMap (rowsOf lib profile past) :=
    List.flatMap_congr fun j member => same j fun equal => fresh (equal ▸ member)
  refine ⟨admitted_step admitted stepped, ?_, ?_⟩
  · intro j
    rw [tasks, Dict.get?_set]
    split
    · rename_i own
      exact own ▸ keeps
    · rename_i differ
      rw [same j differ]
      exact kept j
  · have returned : ∀ j, h.Returned j ↔
        if j = k then ∃ rows, stage = .returned rows else g.Returned j := by
      intro j
      rw [Returned, tasks, Dict.get?_set]
      split <;> simp [Returned]
    by_cases ends : ∃ rows, stage = .returned rows
    · obtain ⟨own, rfl⟩ := ends
      refine ⟨order ++ [k], ?_, ?_, ?_⟩
      · rw [← List.concat_eq_append]
        exact distinct.concat fresh
      · intro j
        rw [returned, List.mem_append, List.mem_singleton, members]
        by_cases equal : j = k
        · simp [equal]
        · simp [equal]
      · rw [allRows, rows, List.flatMap_append, earlier, List.flatMap_singleton, ← keeps.1]
        rfl
    · refine ⟨order, distinct, ?_, ?_⟩
      · intro j
        rw [returned, members]
        split
        · rename_i equal
          exact ⟨fun before => absurd (equal ▸ before) running, fun after => absurd after ends⟩
        · exact Iff.rfl
      · have nothing : handedOver stage = [] := by
          cases stage with
          | returned rows => exact absurd ⟨rows, rfl⟩ ends
          | _ => rfl
        rw [allRows, rows, earlier, nothing, List.append_nil]

theorem collected_run {profile : ProfileConfig} {events : List LoopEvent}
    (ran : run (step lib) (.new profile) events = some g) : Collected lib profile events g :=
  past_invariant (fun _ _ _ _ collected stepped => collected_step collected stepped)
    ⟨admitted_new profile, fun _ => rfl, [], List.nodup_nil, by simp [Returned, new],
      rfl⟩ ran

/-- **The rows of the loop.** What a run hands over are the rows of the sessions that returned, one
session after the other. The rows with the name of such a session are all the rows of its turns in
order, as many as its profile allows, and no row has the name of another session. -/
theorem rows_of_loop (profile : ProfileConfig) (events : List LoopEvent) (g : LoadGenerator)
    (ran : run (step lib) (.new profile) events = some g) :
    ∃ order : List ℕ, order.Nodup ∧ (∀ k, k ∈ order ↔ g.Returned k) ∧
      g.allRows = order.flatMap (rowsOf lib profile events) ∧
      (∀ k ∈ order, Allowed profile (rowsOf lib profile events k).length) ∧
      ∀ k, g.allRows.filter (fun row => row.sessionId = profile.sessionId k) =
        if k ∈ order then rowsOf lib profile events k else [] := by
  obtain ⟨_, kept, order, distinct, members, rows⟩ := collected_run ran
  have named : ∀ k, ∀ row ∈ rowsOf lib profile events k, row.sessionId = profile.sessionId k := by
    intro k row member
    obtain ⟨e, _, made⟩ := List.mem_filterMap.mp member
    cases e with
    | answered j outcome =>
        rw [rowOf] at made
        split at made
        · exact (names_of_singleTurn made).1
        · cases made
    | _ => cases made
  refine ⟨order, distinct, members, rows, ?_, ?_⟩
  · intro k member
    obtain ⟨own, returned⟩ := (members k).mp member
    have complete := kept k
    rw [returned] at complete
    exact complete.1 ▸ complete.2
  · intro k
    rw [rows]
    apply filter_flatMap_of_nodup distinct
    · intro row member
      exact decide_eq_true (named k row member)
    · intro j _ differ row member
      apply decide_eq_false
      intro same
      exact differ (sessionId_injective profile ((named j row member).symm.trans same))

/-- One session of the pair returns. -/
theorem rows_of_loop_pairRun :
    ∃ g, run (step plainLibrary) (new onePair) pairRun = some g ∧
      ∃ order : List ℕ, order.Nodup ∧ (∀ k, k ∈ order ↔ g.Returned k) ∧
        g.allRows = order.flatMap (rowsOf plainLibrary onePair pairRun) ∧
        (∀ k ∈ order, Allowed onePair (rowsOf plainLibrary onePair pairRun k).length) ∧
        ∀ k, g.allRows.filter (fun row => row.sessionId = onePair.sessionId k) =
          if k ∈ order then rowsOf plainLibrary onePair pairRun k else [] := by
  obtain ⟨g, ran⟩ := Option.isSome_iff_exists.mp pairRun_fires
  exact ⟨g, ran, rows_of_loop onePair pairRun g ran⟩

end LoadGenerator

end AgentServe
