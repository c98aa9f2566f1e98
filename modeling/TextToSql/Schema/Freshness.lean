import TextToSql.Schema.Catalog

namespace TextToSql.Schema

open Library Domain

variable {py : Python}

def RefreshIn (after : Past) : Prop := ∃ x ∈ after, x.2 = .call .refresh

def Elapsed (ttl earlier later : ℚ) : Prop := 0 < ttl ∧ ttl < later - earlier

/-- What holds of one call, given what happened before it. -/
structure Fresh (py : Python) (past : Past) (world : World) (call : Call) : Prop where
  /-- a returned schema comes from an introspection that is young enough and not followed by a
  refresh -/
  origin : ∀ schema, (world.reply py call).answer = .ok schema →
    ∃ before w event after, past ++ [(world, .call call)] = before ++ (w, event) :: after ∧
      Introspected py w event schema ∧ w.now ≤ world.now ∧
      (0 < world.catalog.cache.ttl → world.now - w.now ≤ world.catalog.cache.ttl) ∧
      ¬RefreshIn after
  /-- a plain call introspects only if every earlier schema has expired or was refreshed away -/
  reuse : call = .getSchema false → (world.reply py call).introspected = true →
    ∀ before w event after schema, past = before ++ (w, event) :: after →
      Introspected py w event schema →
      RefreshIn after ∨ Elapsed world.catalog.cache.ttl w.now world.now

/-- What the slot says about the past, and the past about the slot. -/
structure Tracked (py : Python) (past : Past) (world : World) : Prop where
  clock : ∀ x ∈ past, x.1.now ≤ world.now
  filled : ∀ entry, world.slot = some entry →
    ∃ before w event after, past = before ++ (w, event) :: after ∧
      Introspected py w event entry.schema ∧ w.now = entry.storedMonotonic ∧ ¬RefreshIn after
  kept : ∀ before w event after schema, past = before ++ (w, event) :: after →
    Introspected py w event schema →
    RefreshIn after ∨ Elapsed world.catalog.cache.ttl w.now world.now ∨
      ∃ entry, world.slot = some entry ∧ w.now ≤ entry.storedMonotonic

theorem RefreshIn.append {after : Past} (h : RefreshIn after) (x : World × Event) :
    RefreshIn (after ++ [x]) := by
  obtain ⟨y, hy, h⟩ := h
  exact ⟨y, List.mem_append_left _ hy, h⟩

theorem not_refreshIn_append {after : Past} (h : ¬RefreshIn after) {x : World × Event}
    (hx : x.2 ≠ .call .refresh) : ¬RefreshIn (after ++ [x]) := by
  rintro ⟨y, hy, hr⟩
  rcases List.mem_append.mp hy with hy | hy
  · exact h ⟨y, hy, hr⟩
  · obtain rfl := List.mem_singleton.mp hy
    exact hx hr

theorem Elapsed.mono {ttl a b b' : ℚ} (h : Elapsed ttl a b) (hb : b ≤ b') : Elapsed ttl a b' :=
  ⟨h.1, by linarith [h.2]⟩

theorem elapsed_of_isExpired {cache : SchemaCache} {now : ℚ} {entry : Entry}
    (h : cache.isExpired now entry = true) : Elapsed cache.ttl entry.storedMonotonic now := by
  simpa [SchemaCache.isExpired, Elapsed] using h

theorem tracked_start (ttl : ℚ) (semantic : SemanticLayer) (now : ℚ)
    (database : Except String DatabaseSchema) :
    Tracked py [] (World.start ttl semantic now database) where
  clock := by simp
  filled := fun entry h ↦ by cases h
  kept := fun before w event after schema h ↦ by simp at h

theorem tracked_step {past : Past} {world : World} (event : Event)
    (h : Tracked py past world) : Tracked py (past ++ [(world, event)]) (world.step py event) := by
  have hnow := @now_le_step py world event
  refine ⟨?_, ?_, ?_⟩
  · intro x hx
    rcases List.mem_append.mp hx with hx | hx
    · exact (h.clock x hx).trans hnow
    · obtain rfl := List.mem_singleton.mp hx
      exact hnow
  · intro entry hentry
    cases @moves_step py world event with
    | kept hslot hne _ =>
      obtain ⟨before, w, d, after, rfl, hi, ht, hr⟩ := h.filled entry (hslot ▸ hentry)
      exact ⟨before, w, d, after ++ [(world, event)], by simp, hi, ht,
        not_refreshIn_append hr hne⟩
    | expired _ hslot => exact absurd (hslot.symm.trans hentry) (by simp)
    | emptied hslot => exact absurd (hslot.symm.trans hentry) (by simp)
    | stored schema hslot _ hi _ =>
      obtain rfl := Option.some.inj (hslot.symm.trans hentry)
      exact ⟨past, world, event, [], rfl, hi, rfl, fun ⟨_, hx, _⟩ ↦ by cases hx⟩
  · intro before w d after schema hpast hi
    rw [step_ttl]
    rcases Runs.append_singleton_eq_split hpast with ⟨rfl, hx, rfl⟩ | ⟨rest, rfl, rfl⟩
    · cases hx
      exact .inr (.inr ⟨_, hi.stored, le_rfl⟩)
    rcases h.kept before w d rest schema rfl hi with hr | he | ⟨entry, hentry, hle⟩
    · exact .inl (hr.append _)
    · exact .inr (.inl (he.mono hnow))
    cases @moves_step py world event with
    | kept hslot _ _ => exact .inr (.inr ⟨entry, hslot.trans hentry, hle⟩)
    | expired held _ hheld hdead _ _ =>
      obtain rfl := Option.some.inj (hheld.symm.trans hentry)
      have he := elapsed_of_isExpired hdead
      refine .inr (.inl ⟨he.1, ?_⟩)
      linarith [he.2]
    | emptied _ hevent _ =>
      exact .inl ⟨(world, event), List.mem_append_right _ (List.mem_singleton_self _), hevent⟩
    | stored schema' hslot _ _ _ =>
      exact .inr (.inr ⟨_, hslot, h.clock (w, d) (by simp)⟩)

theorem fresh_of_tracked {past : Past} {world : World} (h : Tracked py past world)
    (call : Call) : Fresh py past world call where
  origin := by
    intro schema hanswer
    have hserved : served py (world, .call call) = some schema := by
      rw [served, hanswer]
      rfl
    cases @moves_step py world (.call call) with
    | kept hslot hne answer =>
      obtain ⟨entry, hentry, husable, rfl⟩ := answer schema hserved
      obtain ⟨before, w, d, after, rfl, hi, ht, hr⟩ := h.filled entry hentry
      refine ⟨before, w, d, after ++ [(world, .call call)], by simp, hi,
        h.clock (w, d) (by simp), fun hpos ↦ ?_, not_refreshIn_append hr hne⟩
      rw [ht]
      rw [World.usable, hentry, Option.any_some] at husable
      simpa [SchemaCache.isExpired, hpos] using husable
    | expired _ _ _ _ _ answer => exact absurd (answer.symm.trans hserved) (by simp)
    | emptied _ _ answer => exact absurd (answer.symm.trans hserved) (by simp)
    | stored schema' _ _ hi answer =>
      obtain rfl := Option.some.inj (answer.symm.trans hserved)
      refine ⟨past, world, .call call, [], rfl, hi, le_rfl, fun hpos ↦ ?_, ?_⟩
      · rw [sub_self]
        exact hpos.le
      · rintro ⟨_, hx, _⟩
        cases hx
  reuse := by
    rintro rfl hintro before w d after schema hpast hi
    rcases h.kept before w d after schema hpast hi with hr | he | ⟨entry, hentry, hle⟩
    · exact .inl hr
    · exact .inr he
    · right
      cases hu : world.usable with
      | true =>
        obtain ⟨_, _, hr⟩ := @getSchema_usable py world hu
        rw [hr] at hintro
        cases hintro
      | false =>
        rw [World.usable, hentry, Option.any_some, Bool.not_eq_false'] at hu
        have he := elapsed_of_isExpired hu
        exact ⟨he.1, by linarith [he.2]⟩

/-- Every call of every run is fresh. -/
theorem schemaCache_fresh (py : Python) (ttl : ℚ) (semantic : SemanticLayer) (now : ℚ)
    (database : Except String DatabaseSchema) (events : List Event) (past rest : Past)
    (world : World) (call : Call)
    (h : Runs.history (World.step py) (World.start ttl semantic now database) events =
      past ++ (world, .call call) :: rest) : Fresh py past world call :=
  fresh_of_tracked (Runs.invariant_history (fun _ _ event hi ↦ tracked_step event hi)
    (tracked_start ttl semantic now database) h) call

theorem schemaCache_fresh_refresh :
    let first := World.start 300 {} 0 (.ok { dialect := .postgres, version := "1" })
    let second := first.step .ascii (.call (.getSchema false))
    Fresh .ascii [(first, .call (.getSchema false))] second .refresh :=
  schemaCache_fresh .ascii 300 {} 0 (.ok { dialect := .postgres, version := "1" })
    [.call (.getSchema false), .call .refresh] _ [] _ .refresh rfl

end TextToSql.Schema
