import Caura.Settings.Merge
import Caura.Transition.Threads

/-!
# The settings cache of a process

A process keeps the settings of a tenant in a cache.  A call that misses reads them from
storage, swaps provider keys that are stored in plaintext, and fills the cache when the answer
has arrived.  An update drops the entry of the process once it has committed.

A load that read the settings before an update and fills the cache after the invalidation
brings the old settings back, and every later call answers with them.  Without such loads a
call that starts after the invalidation answers with settings that have the update.
-/

namespace Caura.Settings

open Caura.Value Caura.Transition Option

namespace Cache

/-! ## Storage and cache -/

/-- `_CachedSettings`, with the number of updates that were committed when they were read. -/
structure CachedSettings where
  overrides : Dict Json
  version : Option String
  asOf : Nat

/-- The row of the tenant, and the number of updates that have been committed. -/
structure Storage where
  overrides : Dict Json
  version : String
  updates : Nat

/-- What the calls of a process share. -/
structure Shared where
  storage : Storage
  cache : Option CachedSettings

/-- `organization_settings_read`. -/
def Storage.read (storage : Storage) : CachedSettings where
  overrides := storage.overrides
  version := some storage.version
  asOf := storage.updates

/-- `organization_settings_update`, if it changes the row. -/
def Storage.update (lower : String → String) (newSettings : Dict Json) (version : String)
    (storage : Storage) : Option Storage :=
  if (diffSettings lower storage.overrides newSettings).isEmpty then
    none
  else
    some
      { overrides := mergeEntries storage.overrides newSettings
        version := version
        updates := storage.updates + 1 }

/-- `organization_settings_encrypt_api_keys`, with the names that it swaps. -/
def Storage.encryptApiKeys (expected encrypted : Dict String) (version : String)
    (storage : Storage) : Storage × List String :=
  let swap := swapOf storage.overrides expected encrypted
  if swap.isEmpty then
    (storage, [])
  else
    ({ storage with
        overrides := mergeEntries storage.overrides [("api_keys", .obj swap)]
        version := version },
      (sortKeys swap).map Prod.fst)

/-! ## Provider keys in plaintext -/

/-- The cipher of the process: what its texts start with, and its encryption, which raises on
a text of another key. -/
structure Cipher where
  start : String
  encrypt : String → Option String

/-- `needs_encryption`. -/
def Cipher.needsEncryption (cipher : Cipher) : Json → Option String
  | .str text =>
    if text = "" ∨ cipher.start.toList.isPrefixOf text.toList then none else some text
  | _ => none

/-- The plaintext keys of a row. -/
def Cipher.plaintext (cipher : Cipher) (stored : Dict Json) : Dict String :=
  match stored.get "api_keys" with
  | some (.obj keys) =>
    keys.filterMap fun entry =>
      (cipher.needsEncryption entry.2).map fun text => (entry.1, text)
  | _ => []

/-- `encrypt_api_keys`. -/
def Cipher.encryptApiKeys (cipher : Cipher) (keys : Dict String) : Option (Dict String) :=
  keys.mapM fun entry => (cipher.encrypt entry.2).map fun text => (entry.1, text)

/-- The keys that `_encrypt_legacy_api_keys` asks storage to swap. -/
def legacyKeys (cipher : Option Cipher) (stored : Dict Json) : Option (Dict String × Dict String) :=
  cipher.bind fun cipher =>
    if (cipher.plaintext stored).isEmpty then
      none
    else
      (cipher.encryptApiKeys (cipher.plaintext stored)).map fun encrypted =>
        (cipher.plaintext stored, encrypted)

/-- The settings with the keys that were swapped. -/
def CachedSettings.swapped (loaded : CachedSettings) (encrypted : Dict String)
    (names : List String) : CachedSettings :=
  match loaded.overrides.get "api_keys" with
  | some (.obj keys) =>
    let changes := names.filterMap fun name =>
      (encrypted.get name).map fun text => (name, Json.str text)
    { loaded with overrides := loaded.overrides.set "api_keys" (.obj (Dict.update keys changes)) }
  | _ => loaded

/-! ## Calls -/

/-- A call of `resolve_config` or `reload_config`, or an update of the settings, by this process
or by another whose broadcast reaches this one. -/
inductive Request
  | resolveConfig
  | reloadConfig
  | updateSettings (newSettings : Dict Json)

/-- What a call waits for. -/
inductive Phase
  | beginning (reload : Bool)
  | reading
  | arriving (loaded : CachedSettings)
  | swapping (loaded : CachedSettings) (expected encrypted : Dict String)
  | swapArriving (loaded : CachedSettings) (encrypted : Dict String) (names : List String)
  | returned (settings : CachedSettings)
  | updating (newSettings : Dict Json)
  | invalidating (update : Nat)
  | finished

/-- Where it starts. -/
def Request.phase : Request → Phase
  | .resolveConfig => .beginning false
  | .reloadConfig => .beginning true
  | .updateSettings newSettings => .updating newSettings

/-- Whether the request to storage fails, and the time that a write gives the row. -/
structure Answer where
  fails : Bool := false
  version : String := ""

/-- A load that has its settings fills the cache. -/
def Shared.fill (shared : Shared) (settings : CachedSettings) : Shared × Phase :=
  ({ shared with cache := some settings }, .returned settings)

section Steps

variable (lower : String → String) (cipher : Option Cipher)

/-- One step of a call.  An update may invalidate the cache again, when its own broadcast comes
back or is delivered twice. -/
def Phase.act (shared : Shared) (answer : Answer) : Phase → Option (Shared × Phase)
  | .beginning reload =>
    match if reload then none else shared.cache with
    | some settings => some (shared, .returned settings)
    | none => some ({ shared with cache := none }, .reading)
  | .reading =>
    if answer.fails then some (shared, .finished)
    else some (shared, .arriving shared.storage.read)
  | .arriving loaded =>
    if answer.fails then some (shared, .finished)
    else
      match legacyKeys cipher loaded.overrides with
      | none => some (shared.fill loaded)
      | some (expected, encrypted) => some (shared, .swapping loaded expected encrypted)
  | .swapping loaded expected encrypted =>
    if answer.fails then some (shared.fill loaded)
    else
      let swapped := shared.storage.encryptApiKeys expected encrypted answer.version
      some ({ shared with storage := swapped.1 }, .swapArriving loaded encrypted swapped.2)
  | .swapArriving loaded encrypted names =>
    if answer.fails then some (shared.fill loaded)
    else some (shared.fill (loaded.swapped encrypted names))
  | .updating newSettings =>
    if answer.fails then some (shared, .finished)
    else
      match shared.storage.update lower newSettings answer.version with
      | none => some (shared, .finished)
      | some storage => some ({ shared with storage := storage }, .invalidating storage.updates)
  | .invalidating update => some ({ shared with cache := none }, .invalidating update)
  | .returned _ | .finished => none

/-- The calls of a process for one tenant. -/
def cacheSystem : ThreadSystem Shared Phase Request Answer where
  init := Request.phase
  act shared phase answer := phase.act lower cipher shared answer

end Steps

/-! ## Settings that have an update -/

/-- The settings that a load has read and not yet filled the cache with. -/
def Phase.inFlight : Phase → Option CachedSettings
  | .arriving loaded | .swapping loaded _ _ | .swapArriving loaded _ _ => some loaded
  | _ => none

/-- Every call that starts after the invalidation for an update, and returns, has the update. -/
def AnswersRecent (lower : String → String) (cipher : Option Cipher) (shared : Shared)
    (events : List (ThreadEvent Request Answer)) : Prop :=
  ∀ before middle after invalidator pid answer request update settings world target,
    events = before ++ .advance invalidator answer :: (middle ++ .start pid request :: after) →
      run (cacheSystem lower cipher).step ⟨shared, fun _ => none⟩ before = some world →
        world.threads invalidator = some (.invalidating update) →
          run (cacheSystem lower cipher).step ⟨shared, fun _ => none⟩ events = some target →
            target.threads pid = some (.returned settings) → update ≤ settings.asOf

/-- When the cache is invalidated for an update, no load under way has read the settings before
it. -/
def NoStaleLoad (world : Pool Shared Phase) (event : ThreadEvent Request Answer) : Prop :=
  ∀ pid answer update, event = .advance pid answer →
    world.threads pid = some (.invalidating update) →
      ∀ other phase loaded, world.threads other = some phase → phase.inFlight = some loaded →
        update ≤ loaded.asOf

/-! ## Steps -/

/-- Settings that a call has at hand: those of the cache, or as recent as its own load. -/
def Available (shared : Shared) (phase : Phase) (settings : CachedSettings) : Prop :=
  shared.cache = some settings ∨
    ∃ loaded, phase.inFlight = some loaded ∧ settings.asOf = loaded.asOf

/-- What a step does to the recency of what is stored, cached, loaded and returned. -/
structure Moved (shared : Shared) (phase : Phase) (after : Shared) (next : Phase) : Prop where
  storage : shared.storage.updates ≤ after.storage.updates
  cache : ∀ settings, after.cache = some settings → Available shared phase settings
  loads : ∀ loaded, next.inFlight = some loaded →
    phase.inFlight = some loaded ∨ loaded.asOf = shared.storage.updates
  returns : ∀ settings, next = .returned settings → Available shared phase settings
  invalidates : ∀ update, next = .invalidating update →
    phase = .invalidating update ∨ update = after.storage.updates

variable {lower : String → String} {cipher : Option Cipher} {shared after : Shared}
  {phase next : Phase}

section Steps

variable {answer : Answer}

theorem updates_encryptApiKeys (storage : Storage) (expected encrypted : Dict String)
    (version : String) :
    (storage.encryptApiKeys expected encrypted version).1.updates = storage.updates := by
  unfold Storage.encryptApiKeys
  dsimp only
  split <;> rfl

theorem updates_update {newSettings : Dict Json} {version : String} {storage changed : Storage}
    (updates : storage.update lower newSettings version = some changed) :
    changed.updates = storage.updates + 1 := by
  unfold Storage.update at updates
  split at updates <;> cases updates
  · rfl

theorem asOf_swapped (loaded : CachedSettings) (encrypted : Dict String) (names : List String) :
    (loaded.swapped encrypted names).asOf = loaded.asOf := by
  unfold CachedSettings.swapped
  split <;> rfl

/-- A step that leaves storage and cache alone and neither returns nor invalidates. -/
theorem Moved.quiet (loads : ∀ loaded, next.inFlight = some loaded →
      phase.inFlight = some loaded ∨ loaded.asOf = shared.storage.updates)
    (notReturned : ∀ settings, next ≠ .returned settings)
    (notInvalidating : ∀ update, next ≠ .invalidating update) : Moved shared phase shared next where
  storage := Nat.le_refl _
  cache _ isCached := .inl isCached
  loads := loads
  returns settings isReturned := absurd isReturned (notReturned settings)
  invalidates update isInvalidating := absurd isInvalidating (notInvalidating update)

theorem Moved.finish : Moved shared phase shared .finished :=
  .quiet nofun (fun _ => Phase.noConfusion) fun _ => Phase.noConfusion

theorem Moved.fill {loaded settings : CachedSettings} (isLoaded : phase.inFlight = some loaded)
    (asRecent : settings.asOf = loaded.asOf) :
    Moved shared phase (shared.fill settings).1 (shared.fill settings).2 where
  storage := Nat.le_refl _
  cache found isCached := by
    cases isCached
    exact .inr ⟨loaded, isLoaded, asRecent⟩
  loads found isFound := nomatch isFound
  returns found isReturned := by
    cases isReturned
    exact .inr ⟨loaded, isLoaded, asRecent⟩
  invalidates update isInvalidating := nomatch isInvalidating

theorem moved_of_act (acted : phase.act lower cipher shared answer = some (after, next)) :
    Moved shared phase after next := by
  revert acted
  -- One case for each line of the function, in its order.
  fun_cases Phase.act lower cipher shared answer phase <;> intro acted <;> cases acted
  next reload settings isCached =>
    refine ⟨Nat.le_refl _, fun _ isFound => .inl isFound, nofun,
      fun found isReturned => .inl ?_, nofun⟩
    cases isReturned
    cases reload with
    | true => cases isCached
    | false => exact isCached
  · exact ⟨Nat.le_refl _, nofun, nofun,
      nofun, nofun⟩
  · exact .finish
  · refine .quiet (fun loaded isLoaded => ?_) (fun _ => Phase.noConfusion)
      fun _ => Phase.noConfusion
    cases isLoaded
    exact .inr rfl
  · exact .finish
  · exact .fill rfl rfl
  · exact .quiet (fun _ isFound => .inl isFound) (fun _ => Phase.noConfusion)
      fun _ => Phase.noConfusion
  · exact .fill rfl rfl
  · exact ⟨(updates_encryptApiKeys ..).ge, fun _ isFound => .inl isFound,
      fun _ isFound => .inl isFound, nofun,
      nofun⟩
  · exact .fill rfl rfl
  · exact .fill rfl (asOf_swapped ..)
  · exact .finish
  · exact .finish
  next storage isChanged =>
    refine ⟨?_, fun _ isFound => .inl isFound, nofun,
      nofun, fun update isUpdate => .inr ?_⟩
    · rw [updates_update isChanged]
      exact Nat.le_succ _
    · cases isUpdate
      rfl
  · refine ⟨Nat.le_refl _, nofun, nofun,
      nofun, fun found isFound => .inl ?_⟩
    cases isFound
    rfl

end Steps

/-! ## Runs -/

/-- An update is committed before the cache is invalidated for it. -/
def Phase.Committed (phase : Phase) (shared : Shared) : Prop :=
  ∀ update, phase = .invalidating update → update ≤ shared.storage.updates

/-- Storage and the cache have an update. -/
structure Shared.Has (update : Nat) (shared : Shared) : Prop where
  storage : update ≤ shared.storage.updates
  cache : ∀ settings, shared.cache = some settings → update ≤ settings.asOf

/-- A load under way has an update. -/
def Phase.LoadHas (update : Nat) (phase : Phase) : Prop :=
  ∀ loaded, phase.inFlight = some loaded → update ≤ loaded.asOf

section Runs

variable {update : Nat} {world target : Pool Shared Phase}

theorem committedFree (lower : String → String) (cipher : Option Cipher) :
    (cacheSystem lower cipher).InterferenceFree (fun _ _ => True) (fun _ => True)
      Phase.Committed where
  start request _ _ update isInvalidating := by
    cases request <;> cases isInvalidating
  own world pid answer phase after next sound _ isThread acted := by
    have moved := moved_of_act acted
    refine ⟨trivial, fun update isInvalidating => ?_⟩
    rcases moved.invalidates update isInvalidating with isOld | isNew
    · exact (sound.threads pid phase isThread update isOld).trans moved.storage
    · exact isNew.le
  others world pid answer phase after next sound _ isThread acted other bystander _ isBystander
      update isInvalidating :=
    (sound.threads other bystander isBystander update isInvalidating).trans
      (moved_of_act acted).storage

theorem Shared.Has.available {settings : CachedSettings} (has : shared.Has update)
    (loadHas : phase.LoadHas update) (available : Available shared phase settings) :
    update ≤ settings.asOf := by
  rcases available with isCached | ⟨loaded, isLoaded, asRecent⟩
  · exact has.cache settings isCached
  · exact (loadHas loaded isLoaded).trans asRecent.ge

/-- Once storage, the cache and the loads under way have an update, they keep it. -/
theorem recentFree :
    (cacheSystem lower cipher).InterferenceFree (fun _ _ => True) (Shared.Has update)
      (fun phase _ => phase.LoadHas update) where
  start request _ _ loaded isLoaded := by
    cases request <;> cases isLoaded
  own world pid answer phase after next sound _ isThread acted := by
    have moved := moved_of_act acted
    have loadHas := sound.threads pid phase isThread
    refine ⟨⟨sound.store.storage.trans moved.storage, fun settings isCached => ?_⟩,
      fun loaded isLoaded => ?_⟩
    · exact sound.store.available loadHas (moved.cache settings isCached)
    · rcases moved.loads loaded isLoaded with isOld | isRead
      · exact loadHas loaded isOld
      · exact sound.store.storage.trans isRead.ge
  others world pid answer phase after next sound _ _ _ other bystander _ isBystander :=
    sound.threads other bystander isBystander

/-- The same with a call, which then returns settings that have the update. -/
structure Recent (update pid : Nat) (world : Pool Shared Phase) : Prop where
  sound : world.Sound (Shared.Has update) fun phase _ => phase.LoadHas update
  returned : ∀ settings, world.threads pid = some (.returned settings) → update ≤ settings.asOf

theorem Recent.step {pid : Nat} (recent : Recent update pid world)
    {event : ThreadEvent Request Answer}
    (stepEq : (cacheSystem lower cipher).step world event = some target) :
    Recent update pid target := by
  refine ⟨recentFree.preserved world event target recent.sound trivial
    stepEq, fun settings isReturned => ?_⟩
  cases event with
  | start other request =>
    obtain ⟨_, rfl⟩ := ThreadSystem.step_start_eq_some_iff.mp stepEq
    by_cases isNew : pid = other
    · subst isNew
      rw [Pool.put_threads_self] at isReturned
      cases request <;> cases isReturned
    · rw [Pool.put_threads_of_ne isNew] at isReturned
      exact recent.returned settings isReturned
  | advance other answer =>
    obtain ⟨phase, after, next, isThread, acted, rfl⟩ :=
      ThreadSystem.step_advance_eq_some_iff.mp stepEq
    rcases Pool.put_threads_eq_some.mp isReturned with ⟨rfl, rfl⟩ | ⟨isOwn, isReturned⟩
    · exact recent.sound.store.available (recent.sound.threads pid phase isThread)
        ((moved_of_act acted).returns settings rfl)
    · exact recent.returned settings isReturned

/-- The invalidation for an update, if no load under way has read older settings. -/
theorem sound_of_invalidation {invalidator : Nat} {answer : Answer}
    (committed : world.Sound (fun _ => True) Phase.Committed)
    (noStaleLoad : NoStaleLoad world (.advance invalidator answer))
    (isInvalidating : world.threads invalidator = some (.invalidating update))
    (stepEq : (cacheSystem lower cipher).step world (.advance invalidator answer) = some target) :
    target.Sound (Shared.Has update) fun phase _ => phase.LoadHas update := by
  obtain ⟨phase, after, next, isThread, acted, rfl⟩ :=
    ThreadSystem.step_advance_eq_some_iff.mp stepEq
  cases isThread.symm.trans isInvalidating
  cases acted
  refine ⟨⟨?_, nofun⟩, fun other bystander isBystander => ?_⟩
  · exact committed.threads invalidator _ isInvalidating update rfl
  · rcases Pool.put_threads_eq_some.mp isBystander with ⟨rfl, rfl⟩ | ⟨isOwn, isBystander⟩
    · exact nofun
    · exact fun loaded isLoaded => noStaleLoad invalidator answer update rfl isInvalidating other
        bystander loaded isBystander isLoaded

/-- In every run in which no load under way is older than the update that the cache is
invalidated for, the calls that start later have the update. -/
theorem settings_recent_after_invalidation (lower : String → String) (cipher : Option Cipher)
    (shared : Shared) (events : List (ThreadEvent Request Answer))
    (noStaleLoad : GuardedRun (cacheSystem lower cipher).step NoStaleLoad
      ⟨shared, fun _ => none⟩ events) :
    AnswersRecent lower cipher shared events := by
  rintro before middle after invalidator pid answer request update settings world target rfl ran
    isInvalidating ranAll isReturned
  have committed := invariant_of_run (fun source event target sound stepEq =>
    (committedFree lower cipher).preserved source event target sound trivial stepEq)
    (.idle trivial) ran
  obtain ⟨found, ranFound, rest⟩ := run_append_eq_some_iff.mp ranAll
  cases ran.symm.trans ranFound
  obtain ⟨dropped, stepEq, rest⟩ := run_cons_eq_some_iff.mp rest
  have sound := sound_of_invalidation committed (guardedRun_of_append noStaleLoad ran).1
    isInvalidating stepEq
  obtain ⟨later, ranMiddle, rest⟩ := run_append_eq_some_iff.mp rest
  have soundLater := invariant_of_run (fun source event target sound stepEq =>
    recentFree.preserved source event target sound trivial stepEq) sound
    ranMiddle
  obtain ⟨started, startEq, rest⟩ := run_cons_eq_some_iff.mp rest
  -- The call is new, so it has not returned before.
  have isFree := (ThreadSystem.step_start_eq_some_iff.mp startEq).1
  have recent : Recent update pid later :=
    ⟨soundLater, fun settings isThread => nomatch isFree.symm.trans isThread⟩
  have recentLast := invariant_of_run (fun _ _ _ recent stepEq => Recent.step recent stepEq)
    (recent.step startEq) rest
  exact recentLast.returned settings isReturned

end Runs

/-! ## A load that comes late -/

/-- A tenant without settings, and a process that has not read them. -/
def noSettings : Shared where
  storage := ⟨[], "", 0⟩
  cache := none

/-- An update of one default of the searches. -/
def raiseTopK : Request :=
  .updateSettings [("search", .obj [("default_profile", .obj [("top_k", .int 7)])])]

/-- An update of the process alone, and a call after it. -/
def updateThenCall : List (ThreadEvent Request Answer) :=
  [.start 0 raiseTopK, .advance 0 {}, .advance 0 {},
    .start 1 .resolveConfig, .advance 1 {}, .advance 1 {}, .advance 1 {}]

/-- A load reads the settings, an update commits and drops the cache, and then the load fills
it; the next call hits. -/
def lateLoad : List (ThreadEvent Request Answer) :=
  [.start 0 .resolveConfig, .advance 0 {}, .advance 0 {},
    .start 1 raiseTopK, .advance 1 {}, .advance 1 {},
    .advance 0 {}, .start 2 .resolveConfig, .advance 2 {}]

/-- The update that is being invalidated. -/
def Phase.invalidated : Phase → Option Nat
  | .invalidating update => some update
  | _ => none

/-- The last update of what was returned. -/
def Phase.returnedAsOf : Phase → Option Nat
  | .returned settings => some settings.asOf
  | _ => none

/-- The loads among the first threads have the update that is invalidated. -/
def loadsChecked (bound : Nat) (world : Pool Shared Phase) (event : ThreadEvent Request Answer) :
    Bool :=
  ((world.threads event.pid).bind Phase.invalidated).all fun update =>
    (List.range bound).all fun other =>
      ((world.threads other).bind Phase.inFlight).all fun loaded => update ≤ loaded.asOf

theorem noStaleLoad_of_loadsChecked {bound : Nat} (world : Pool Shared Phase)
    (event : ThreadEvent Request Answer) (below : world.Below bound)
    (checked : loadsChecked bound world event = true) : NoStaleLoad world event := by
  rintro pid answer update rfl isInvalidating other phase loaded isPhase isLoaded
  rw [loadsChecked, ThreadEvent.pid, isInvalidating] at checked
  have isChecked := List.all_eq_true.mp checked other (List.mem_range.mpr (below.lt isPhase))
  rw [isPhase, bind_some, isLoaded] at isChecked
  exact of_decide_eq_true isChecked

/-- A call after an update that nothing overlaps has the update. -/
theorem settings_recent_after_invalidation_alone : AnswersRecent id none noSettings updateThenCall ∧
    ((run (cacheSystem id none).step ⟨noSettings, fun _ => none⟩ updateThenCall).any fun world =>
      (world.threads 1).any fun phase => phase.returnedAsOf == some 1) = true := by
  refine ⟨settings_recent_after_invalidation id none noSettings updateThenCall ?_,
    by decide +kernel⟩
  have checked : GuardedRun (cacheSystem id none).step
      (fun world event => loadsChecked 2 world event = true) ⟨noSettings, fun _ => none⟩
      updateThenCall := by
    decide +kernel
  exact ThreadSystem.guardedRun_of_few 2 noStaleLoad_of_loadsChecked (by decide) (fun _ _ => rfl)
    checked

/-- The late load brings the settings before the update back. -/
theorem late_load_returns_old : ¬ AnswersRecent id none noSettings lateLoad := by
  intro recent
  have hasUpdate := recent (lateLoad.take 5) [.advance 0 {}] [.advance 2 {}] 1 2 {} .resolveConfig 1
    _ _ _ rfl rfl rfl rfl rfl
  cases hasUpdate

end Cache

end Caura.Settings
