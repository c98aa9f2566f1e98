import TextToSql.Library.Runs
import TextToSql.Schema.SemanticLayer

namespace TextToSql.Schema

open Library Domain

structure Entry where
  schema : DatabaseSchema
  storedMonotonic : ℚ

/-- A slot for one schema; the clock is an argument of its operations. -/
structure SchemaCache where
  ttl : ℚ
  entry : Option Entry := none

namespace SchemaCache

variable (cache : SchemaCache) (now : ℚ)

def isExpired (entry : Entry) : Bool := 0 < cache.ttl ∧ cache.ttl < now - entry.storedMonotonic

def get : Option DatabaseSchema × SchemaCache :=
  match cache.entry with
  | none => (none, cache)
  | some entry =>
    if cache.isExpired now entry then (none, { cache with entry := none })
    else (some entry.schema, cache)

def set (schema : DatabaseSchema) : SchemaCache := { cache with entry := some ⟨schema, now⟩ }

def invalidate : SchemaCache := { cache with entry := none }

def currentVersion : Option String := cache.entry.map fun entry ↦ entry.schema.version

end SchemaCache

/-- What a call logs and counts. -/
inductive Signal where
  | schemaCacheTotal (result : String)
  | schemaDriftDetected (previousVersion newVersion : String)
  | schemaDriftTotal
  deriving DecidableEq

structure SchemaCatalog where
  semantic : SemanticLayer
  cache : SchemaCache

/-- The outcome of a call: what it returns or raises, whether it asked the introspector, what it
signalled, and the catalog after it. -/
structure Reply where
  answer : Except String DatabaseSchema
  introspected : Bool
  signals : List Signal
  catalog : SchemaCatalog

namespace SchemaCatalog

variable (py : Python) (catalog : SchemaCatalog) (now : ℚ)
  (introspection : Except String DatabaseSchema)

def driftSignals (previousVersion : Option String) (version : String) : List Signal :=
  match previousVersion with
  | none => []
  | some previous =>
    if previous = version then [] else [.schemaDriftDetected previous version, .schemaDriftTotal]

/-- `get_schema` after a miss. -/
def load : Reply :=
  match introspection with
  | .error exc =>
    { answer := .error exc
      introspected := true
      signals := [.schemaCacheTotal "miss"]
      catalog }
  | .ok raw =>
    let enriched := enrich py catalog.semantic raw
    { answer := .ok enriched
      introspected := true
      signals :=
        .schemaCacheTotal "miss" :: driftSignals catalog.cache.currentVersion enriched.version
      catalog := { catalog with cache := catalog.cache.set now enriched } }

def getSchema (forceRefresh : Bool) : Reply :=
  if forceRefresh then catalog.load py now introspection
  else
    match catalog.cache.get now with
    | (some cached, cache) =>
      { answer := .ok cached
        introspected := false
        signals := [.schemaCacheTotal "hit"]
        catalog := { catalog with cache } }
    | (none, cache) => { catalog with cache }.load py now introspection

def refresh : Reply :=
  { catalog with cache := catalog.cache.invalidate }.getSchema py now introspection true

end SchemaCatalog

inductive Call where
  | getSchema (forceRefresh : Bool)
  | refresh
  deriving DecidableEq

/-- The calls of a client, the passage of time, and changes of what an introspection gives. -/
inductive Event where
  | call (call : Call)
  | advance (seconds : ℚ) (nonneg : 0 ≤ seconds)
  | change (database : Except String DatabaseSchema)

structure World where
  catalog : SchemaCatalog
  now : ℚ
  database : Except String DatabaseSchema

namespace World

variable (py : Python) (world : World)

def start (ttl : ℚ) (semantic : SemanticLayer) (now : ℚ)
    (database : Except String DatabaseSchema) : World where
  catalog := { semantic, cache := { ttl } }
  now
  database

def reply : Call → Reply
  | .getSchema forceRefresh =>
    world.catalog.getSchema py world.now world.database forceRefresh
  | .refresh => world.catalog.refresh py world.now world.database

def step : Event → World
  | .call call => { world with catalog := (world.reply py call).catalog }
  | .advance seconds _ => { world with now := world.now + seconds }
  | .change database => { world with database }

def slot : Option Entry := world.catalog.cache.entry

def usable : Bool := world.slot.any fun entry ↦ !world.catalog.cache.isExpired world.now entry

end World

abbrev Past := List (World × Event)

def Introspected (py : Python) (world : World) (event : Event) (schema : DatabaseSchema) : Prop :=
  ∃ call raw, event = .call call ∧ (world.reply py call).introspected = true ∧
    world.database = .ok raw ∧ schema = enrich py world.catalog.semantic raw

def served (py : Python) : World × Event → Option DatabaseSchema
  | (world, .call call) => (world.reply py call).answer.toOption
  | _ => none

/-- The four things that an event can do to the slot. -/
inductive Moves (py : Python) (world : World) (event : Event) (next : World) : Prop where
  /-- nothing; an answer comes from the slot -/
  | kept (slot : next.slot = world.slot) (event_ne : event ≠ .call .refresh)
      (answer : ∀ schema, served py (world, event) = some schema →
        ∃ entry, world.slot = some entry ∧ world.usable = true ∧ schema = entry.schema)
  /-- an expired entry is dropped and the introspection raises -/
  | expired (entry : Entry) (slot : next.slot = none) (held : world.slot = some entry)
      (dead : world.catalog.cache.isExpired world.now entry = true) (time : next.now = world.now)
      (answer : served py (world, event) = none)
  /-- the slot is emptied and the introspection raises -/
  | emptied (slot : next.slot = none) (event_eq : event = .call .refresh)
      (answer : served py (world, event) = none)
  /-- a new schema is stored and served -/
  | stored (schema : DatabaseSchema) (slot : next.slot = some ⟨schema, world.now⟩)
      (time : next.now = world.now) (introspected : Introspected py world event schema)
      (answer : served py (world, event) = some schema)

section Moves

variable {py : Python} {world : World}

theorem getSchema_forced : world.reply py (.getSchema true) =
    world.catalog.load py world.now world.database := rfl

theorem getSchema_usable (h : world.usable = true) :
    ∃ entry, world.slot = some entry ∧ world.reply py (.getSchema false) =
      { answer := .ok entry.schema
        introspected := false
        signals := [.schemaCacheTotal "hit"]
        catalog := world.catalog } := by
  rw [World.usable, Option.any_eq_true] at h
  obtain ⟨entry, he, h⟩ := h
  rw [Bool.not_eq_true'] at h
  refine ⟨entry, he, ?_⟩
  have hget : world.catalog.cache.get world.now = (some entry.schema, world.catalog.cache) := by
    rw [SchemaCache.get, show world.catalog.cache.entry = some entry from he]
    simp [h]
  rw [World.reply, SchemaCatalog.getSchema, hget]
  rfl

theorem getSchema_unusable (h : world.usable = false) :
    world.reply py (.getSchema false) = world.reply py .refresh := by
  have hget : world.catalog.cache.get world.now = (none, world.catalog.cache.invalidate) := by
    rw [World.usable, World.slot] at h
    rw [SchemaCache.get, SchemaCache.invalidate]
    cases he : world.catalog.cache.entry with
    | none => exact congrArg (Prod.mk none) (by rw [← he])
    | some entry =>
      rw [he, Option.any_some, Bool.not_eq_false'] at h
      simp [h]
  rw [World.reply, SchemaCatalog.getSchema, hget]
  rfl

theorem moves_load {catalog : SchemaCatalog} {call : Call}
    (hr : world.reply py call = catalog.load py world.now world.database)
    (hs : catalog.semantic = world.catalog.semantic) :
    ((∃ exc, world.database = .error exc) ∧ (world.step py (.call call)).catalog = catalog ∧
        served py (world, .call call) = none) ∨
      ∃ schema, (world.step py (.call call)).slot = some ⟨schema, world.now⟩ ∧
        Introspected py world (.call call) schema ∧
        served py (world, .call call) = some schema := by
  cases hd : world.database with
  | error exc =>
    refine .inl ⟨⟨exc, rfl⟩, ?_, ?_⟩
    · rw [World.step, hr, hd]
      rfl
    · rw [served, hr, hd]
      rfl
  | ok raw =>
    refine .inr ⟨enrich py world.catalog.semantic raw, ?_, ⟨call, raw, rfl, ?_, hd, rfl⟩, ?_⟩
    · rw [World.slot, World.step, hr, hd, ← hs]
      rfl
    · rw [hr, hd]
      rfl
    · rw [served, hr, hd, ← hs]
      rfl

theorem moves_step (event : Event) : Moves py world event (world.step py event) := by
  cases event with
  | advance seconds nonneg => exact .kept rfl (fun h ↦ nomatch h) fun _ h ↦ nomatch h
  | change database => exact .kept rfl (fun h ↦ nomatch h) fun _ h ↦ nomatch h
  | call call =>
    cases call with
    | refresh =>
      rcases @moves_load py world _ .refresh rfl rfl with
        ⟨-, hc, ha⟩ | ⟨schema, hs, hi, ha⟩
      · refine .emptied ?_ rfl ha
        rw [World.slot, hc]
        rfl
      · exact .stored schema hs rfl hi ha
    | getSchema forceRefresh =>
      cases forceRefresh with
      | true =>
        rcases @moves_load py world _ _ getSchema_forced rfl with
          ⟨-, hc, ha⟩ | ⟨schema, hs, hi, ha⟩
        · refine .kept ?_ (fun h ↦ nomatch h) fun schema h ↦ ?_
          · rw [World.slot, hc]
            rfl
          · rw [ha] at h
            cases h
        · exact .stored schema hs rfl hi ha
      | false =>
        cases hu : world.usable with
        | true =>
          obtain ⟨entry, he, hr⟩ := @getSchema_usable py world hu
          refine .kept ?_ (fun h ↦ nomatch h) fun schema h ↦ ⟨entry, he, hu, ?_⟩
          · rw [World.slot, World.step, hr]
            rfl
          · rw [served, hr] at h
            exact (Option.some.inj h).symm
        | false =>
          rcases @moves_load py world _ (.getSchema false)
            (getSchema_unusable hu) rfl with ⟨-, hc, ha⟩ | ⟨schema, hs, hi, ha⟩
          · have hslot : (world.step py (.call (.getSchema false))).slot = none := by
              rw [World.slot, hc]
              rfl
            cases he : world.slot with
            | none =>
              refine .kept (hslot.trans he.symm) (fun h ↦ nomatch h) fun schema h ↦ ?_
              rw [ha] at h
              cases h
            | some entry =>
              refine .expired entry hslot he ?_ rfl ha
              rw [World.usable, he] at hu
              simpa using hu
          · exact .stored schema hs rfl hi ha

end Moves

section Frame

variable {py : Python} {world : World} (event : Event)

theorem load_frame (catalog : SchemaCatalog) (now : ℚ)
    (introspection : Except String DatabaseSchema) :
    (catalog.load py now introspection).catalog.semantic = catalog.semantic ∧
      (catalog.load py now introspection).catalog.cache.ttl = catalog.cache.ttl := by
  cases introspection <;> exact ⟨rfl, rfl⟩

theorem reply_frame (call : Call) :
    (world.reply py call).catalog.semantic = world.catalog.semantic ∧
      (world.reply py call).catalog.cache.ttl = world.catalog.cache.ttl := by
  cases call with
  | refresh => exact load_frame _ _ _
  | getSchema forceRefresh =>
    cases forceRefresh with
    | true => exact load_frame _ _ _
    | false =>
      cases hu : world.usable with
      | true =>
        obtain ⟨_, _, hr⟩ := @getSchema_usable py world hu
        rw [hr]
        exact ⟨rfl, rfl⟩
      | false =>
        rw [getSchema_unusable hu]
        exact load_frame _ _ _

@[simp] theorem step_ttl : (world.step py event).catalog.cache.ttl = world.catalog.cache.ttl := by
  cases event with
  | call call => exact (reply_frame call).2
  | advance => rfl
  | change => rfl

theorem now_le_step : world.now ≤ (world.step py event).now := by
  cases event with
  | call call => exact le_rfl
  | advance seconds nonneg => exact le_add_of_nonneg_right nonneg
  | change => exact le_rfl

theorem Introspected.stored {schema : DatabaseSchema} (h : Introspected py world event schema) :
    (world.step py event).slot = some ⟨schema, world.now⟩ := by
  obtain ⟨call, raw, rfl, hi, hd, rfl⟩ := h
  cases call with
  | refresh =>
    rw [World.slot, World.step, World.reply, hd]
    rfl
  | getSchema forceRefresh =>
    cases forceRefresh with
    | true =>
      rw [World.slot, World.step, World.reply, hd]
      rfl
    | false =>
      cases hu : world.usable with
      | true =>
        obtain ⟨_, _, hr⟩ := @getSchema_usable py world hu
        rw [hr] at hi
        cases hi
      | false =>
        rw [World.slot, World.step, getSchema_unusable hu, World.reply, hd]
        rfl

end Frame

end TextToSql.Schema
