import TextToSql.Schema.Catalog

namespace TextToSql.Schema

open Library Domain

variable (py : Python)

def Signal.isDrift : Signal → Bool
  | .schemaDriftDetected _ _ | .schemaDriftTotal => true
  | .schemaCacheTotal _ => false

def lastServed (past : Past) : Option DatabaseSchema := (past.filterMap (served py)).getLast?

variable (past : Past) (world : World) (call : Call)

/-- The call introspects and obtains another version than the one served last. -/
def Drifted (previous obtained : DatabaseSchema) : Prop :=
  lastServed py past = some previous ∧ (world.reply py call).introspected = true ∧
    (world.reply py call).answer = .ok obtained ∧ previous.version ≠ obtained.version

/-- A drift is recorded by one warning and one increment, and nothing else is. -/
structure Recorded : Prop where
  drift : ∀ previous obtained, Drifted py past world call previous obtained →
    (world.reply py call).signals.filter Signal.isDrift =
      [.schemaDriftDetected previous.version obtained.version, .schemaDriftTotal]
  noDrift : (¬∃ previous obtained, Drifted py past world call previous obtained) →
    (world.reply py call).signals.filter Signal.isDrift = []

def AllRecorded (start : World) (events : List Event) : Prop :=
  ∀ past world call rest,
    Runs.history (World.step py) start events = past ++ (world, .call call) :: rest →
      Recorded py past world call

def Unchanged : Prop :=
  ∀ previous raw, lastServed py past = some previous → world.database = .ok raw →
    previous.version = raw.version

def keepsSlot : Call → Bool
  | .getSchema true => world.slot.isSome
  | .getSchema false => world.usable
  | .refresh => false

/-- Every call that empties the slot, or finds it empty, finds the version served last. -/
def Compared (start : World) (events : List Event) : Prop :=
  ∀ past world call rest,
    Runs.history (World.step py) start events = past ++ (world, .call call) :: rest →
      Unchanged py past world ∨ keepsSlot world call = true

variable {py past world call}

theorem lastServed_append (x : World × Event) :
    lastServed py (past ++ [x]) = (served py x).or (lastServed py past) := by
  rw [lastServed, List.filterMap_append, List.getLast?_append, lastServed]
  cases h : served py x <;> simp [h]

def Latest (py : Python) (past : Past) (world : World) : Prop :=
  ∀ entry, world.slot = some entry → lastServed py past = some entry.schema

theorem latest_start (ttl : ℚ) (semantic : SemanticLayer) (now : ℚ)
    (database : Except String DatabaseSchema) :
    Latest py [] (World.start ttl semantic now database) := fun _ h ↦ nomatch h

theorem latest_step (event : Event) (h : Latest py past world) :
    Latest py (past ++ [(world, event)]) (world.step py event) := by
  intro entry hentry
  rw [lastServed_append]
  cases @moves_step py world event with
  | kept hslot _ answer =>
    have hheld : world.slot = some entry := hslot.symm.trans hentry
    cases hs : served py (world, event) with
    | none => exact h entry hheld
    | some schema =>
      obtain ⟨entry', hentry', -, rfl⟩ := answer schema hs
      obtain rfl := Option.some.inj (hentry'.symm.trans hheld)
      rfl
  | expired _ hslot => exact absurd (hslot.symm.trans hentry) (by simp)
  | emptied hslot => exact absurd (hslot.symm.trans hentry) (by simp)
  | stored schema hslot _ _ answer =>
    obtain rfl := Option.some.inj (hslot.symm.trans hentry)
    rw [answer]
    rfl

theorem filter_driftSignals (previous : Option String) (version : String) :
    (SchemaCatalog.driftSignals previous version).filter Signal.isDrift =
      SchemaCatalog.driftSignals previous version := by
  unfold SchemaCatalog.driftSignals
  split
  · rfl
  · split <;> rfl

theorem signals_load {catalog : SchemaCatalog}
    (hr : world.reply py call = catalog.load py world.now world.database) :
    (world.reply py call).signals.filter Signal.isDrift =
      match world.database with
      | .error _ => []
      | .ok raw => SchemaCatalog.driftSignals catalog.cache.currentVersion raw.version := by
  rw [hr]
  cases world.database with
  | error exc => rfl
  | ok raw => exact filter_driftSignals _ _

theorem drifted_load {catalog : SchemaCatalog}
    (hr : world.reply py call = catalog.load py world.now world.database)
    {previous obtained : DatabaseSchema} :
    Drifted py past world call previous obtained ↔
      lastServed py past = some previous ∧ previous.version ≠ obtained.version ∧
        ∃ raw, world.database = .ok raw ∧ enrich py catalog.semantic raw = obtained := by
  rw [Drifted, hr]
  cases world.database with
  | error exc => simp [SchemaCatalog.load]
  | ok raw =>
    simp only [SchemaCatalog.load, Except.ok.injEq, true_and, exists_eq_left']
    tauto

/-- A call that introspects with an empty slot records nothing. -/
theorem recorded_empty (catalog : SchemaCatalog)
    (hr : world.reply py call = catalog.load py world.now world.database)
    (hc : catalog.cache.entry = none) :
    Recorded py past world call ↔ Unchanged py past world := by
  have hsignals : (world.reply py call).signals.filter Signal.isDrift = [] := by
    rw [signals_load hr, SchemaCache.currentVersion, hc]
    cases world.database <;> rfl
  constructor
  · intro h previous raw hp hd
    by_contra hne
    have hdrift : Drifted py past world call previous (enrich py catalog.semantic raw) :=
      (drifted_load hr).mpr ⟨hp, hne, raw, hd, rfl⟩
    have hrec := h.drift _ _ hdrift
    rw [hsignals] at hrec
    cases hrec
  · intro h
    refine ⟨fun previous obtained hdrift ↦ ?_, fun _ ↦ hsignals⟩
    obtain ⟨hp, hne, raw, hd, rfl⟩ := (drifted_load hr).mp hdrift
    exact absurd (h previous raw hp hd) hne

/-- A forced call on a filled slot records exactly the drift. -/
theorem recorded_filled {entry : Entry} (hl : Latest py past world)
    (he : world.slot = some entry) : Recorded py past world (.getSchema true) := by
  have hr : world.reply py (.getSchema true) =
      world.catalog.load py world.now world.database := getSchema_forced
  have hlast := hl entry he
  have hversion : world.catalog.cache.currentVersion = some entry.schema.version := by
    rw [SchemaCache.currentVersion, show world.catalog.cache.entry = some entry from he]
    rfl
  refine ⟨fun previous obtained hdrift ↦ ?_, fun hno ↦ ?_⟩
  · obtain ⟨hp, hne, raw, hd, rfl⟩ := (drifted_load hr).mp hdrift
    obtain rfl := Option.some.inj (hp.symm.trans hlast)
    rw [signals_load hr, hd, hversion]
    exact if_neg hne
  · rw [signals_load hr, hversion]
    cases hd : world.database with
    | error exc => rfl
    | ok raw =>
      apply if_pos
      by_contra hne
      exact hno ⟨_, enrich py world.catalog.semantic raw,
        (drifted_load hr).mpr ⟨hlast, hne, raw, hd, rfl⟩⟩

theorem recorded_hit (hu : world.usable = true) :
    Recorded py past world (.getSchema false) := by
  obtain ⟨entry, -, hr⟩ := @getSchema_usable py world hu
  refine ⟨fun previous obtained hdrift ↦ ?_, fun _ ↦ by rw [hr]; rfl⟩
  have hi := hdrift.2.1
  rw [hr] at hi
  cases hi

/-- A call records what it has to, unless it obtains another version with an emptied slot. -/
theorem recorded_iff (hl : Latest py past world) :
    Recorded py past world call ↔ Unchanged py past world ∨ keepsSlot world call = true := by
  cases call with
  | refresh =>
    rw [recorded_empty { world.catalog with cache := world.catalog.cache.invalidate } rfl rfl,
      keepsSlot]
    simp
  | getSchema forceRefresh =>
    cases forceRefresh with
    | true =>
      rw [keepsSlot]
      cases he : world.slot with
      | none =>
        rw [recorded_empty _ getSchema_forced he]
        simp
      | some entry => simp [recorded_filled hl he]
    | false =>
      rw [keepsSlot]
      cases hu : world.usable with
      | true => simp [recorded_hit hu]
      | false =>
        rw [recorded_empty { world.catalog with cache := world.catalog.cache.invalidate }
          (getSchema_unusable hu) rfl]
        simp

/-- A run records its drift exactly when no call on an emptied slot meets another version. -/
theorem allRecorded_iff (py : Python) (ttl : ℚ) (semantic : SemanticLayer) (now : ℚ)
    (database : Except String DatabaseSchema) (events : List Event) :
    AllRecorded py (World.start ttl semantic now database) events ↔
      Compared py (World.start ttl semantic now database) events := by
  have hl {past rest : Past} {world : World} {event : Event}
      (h : Runs.history (World.step py) (World.start ttl semantic now database) events =
        past ++ (world, event) :: rest) : Latest py past world :=
    Runs.invariant_history (fun _ _ event hi ↦ latest_step event hi)
      (latest_start ttl semantic now database) h
  constructor
  · intro h past world call rest hrun
    exact (recorded_iff (hl hrun)).mp (h past world call rest hrun)
  · intro h past world call rest hrun
    exact (recorded_iff (hl hrun)).mpr (h past world call rest hrun)

theorem refresh_unrecorded :
    ¬AllRecorded .ascii (World.start 300 {} 0 (.ok { dialect := .postgres, version := "1" }))
      [.call (.getSchema false), .change (.ok { dialect := .postgres, version := "2" }),
        .call .refresh] := by
  intro h
  have hrec := h [_, _] _ .refresh [] rfl
  have hdrift := hrec.drift { dialect := .postgres, version := "1" }
    { dialect := .postgres, version := "2" } ⟨rfl, rfl, rfl, by decide⟩
  cases hdrift

end TextToSql.Schema
