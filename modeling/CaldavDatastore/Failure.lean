import CaldavDatastore.IndexSpec

namespace CaldavDatastore

def OnlyLogged (w w' : World) : Prop :=
  w'.db = w.db ∧ w'.resourceID = w.resourceID ∧ w'.objectText = w.objectText ∧
    ∃ ms : List String, w'.events = w.events ++ ms.map .logError

theorem OnlyLogged.refl (w : World) : OnlyLogged w w := ⟨rfl, rfl, rfl, [], by simp⟩

theorem onlyLogged_expansionLog (w : World) (o : CalendarObject) (c : Component) (e : Horizon)
    (reCreate : Bool) :
    OnlyLogged w { w with events := w.events ++ expansionLog o c e reCreate } := by
  refine ⟨rfl, rfl, rfl, ?_⟩
  unfold expansionLog
  split
  · exact ⟨[], rfl⟩
  · exact ⟨[_], rfl⟩

def RaisesSql {α : Type} (x : EStateM UpdateError World α) : Prop :=
  ∀ w err w', x w = .error err w' → ∃ e, err = .sql e

section RaisesSql

variable {α β : Type}

theorem RaisesSql.bind {x : EStateM UpdateError World α} {f : α → EStateM UpdateError World β}
    (hx : RaisesSql x) (hf : ∀ a, RaisesSql (f a)) : RaisesSql (x >>= f) := by
  intro w err w' h
  cases hr : x w with
  | ok a s => rw [bind_of_ok hr] at h; exact hf a _ _ _ h
  | error e s => rw [bind_of_error hr] at h; cases h; exact hx _ _ _ hr

theorem RaisesSql.pure (a : α) : RaisesSql (pure a : EStateM UpdateError World α) :=
  fun _ _ _ h => nomatch h

theorem RaisesSql.get : RaisesSql (get : EStateM UpdateError World World) :=
  fun _ _ _ h => nomatch h

theorem execSQL_raisesSql (s : Statement) : RaisesSql (execSQL s) := by
  intro w err w' h
  simp only [execSQL] at h
  split at h
  · cases h
  · cases h; exact ⟨_, rfl⟩

theorem insertPerUserTransparency_raisesSql (iid : Nat) (pu : List (String × Bool)) :
    RaisesSql (insertPerUserTransparency iid pu) := by
  induction pu with
  | nil => exact .pure _
  | cons p pu ih => exact (execSQL_raisesSql _).bind fun _ => ih

theorem indexInstances_raisesSql (o : CalendarObject) (c : Component) (is : List Instance) :
    RaisesSql (indexInstances o c is) := by
  induction is with
  | nil => exact .pure _
  | cons i is ih =>
    exact RaisesSql.get.bind fun _ => (execSQL_raisesSql _).bind fun _ =>
      (insertPerUserTransparency_raisesSql _ _).bind fun _ => ih

theorem indexUnbounded_raisesSql (o : CalendarObject) (c : Component) :
    RaisesSql (indexUnbounded o c) := by
  unfold indexUnbounded
  split
  · exact RaisesSql.get.bind fun _ => (execSQL_raisesSql _).bind fun _ =>
      insertPerUserTransparency_raisesSql _ _
  · exact .pure _

end RaisesSql

theorem recordAndIndex_raisesSql {ctx : Context} {o : CalendarObject} {c : Component}
    {l : InstanceList} {inserting : Bool} {w w' : World} {err : UpdateError}
    (h : recordAndIndex ctx o c l inserting w = .error err w') : ∃ e, err = .sql e := by
  unfold recordAndIndex at h
  split at h
  · cases h; exact ⟨_, rfl⟩
  · exact (indexInstances_raisesSql o c _).bind (fun _ => indexUnbounded_raisesSql o c) _ _ _ h

theorem expansionHorizon_guard {m r u : Bool} :
    (!m || (!r && !u)) = true ↔ ¬(m = true ∧ (r = true ∨ u = true)) := by
  cases m <;> cases r <;> cases u <;> decide

theorem expansionHorizon_eq_error {ctx : Context} {c : Component} {expandUntil : Option Date}
    {err : UpdateError} :
    expansionHorizon ctx c expandUntil = .error err ↔
      err = .indexedSearch ∧ c.hasMasterComponent = true ∧
        (c.isRecurring = true ∨ c.isRecurringUnbounded = true) ∧
        (ctx.today.addDays 1825).days < (expandUntil.getD (ctx.today.addDays 365)).days := by
  unfold expansionHorizon defaultFutureExpansionDuration maximumFutureExpansionDuration
  split
  · exact ⟨nofun, fun ⟨_, hm, hr, _⟩ => (expansionHorizon_guard.mp ‹_› ⟨hm, hr⟩).elim⟩
  · have hmr := Decidable.of_not_not (mt expansionHorizon_guard.mpr ‹_›)
    dsimp only
    split
    · exact ⟨fun h => ⟨(Except.error.inj h).symm, hmr.1, hmr.2, ‹_›⟩, fun ⟨he, _⟩ => he ▸ rfl⟩
    · exact ⟨nofun, fun ⟨_, _, _, hd⟩ => absurd hd ‹_›⟩

theorem expansionResult_eq_error {ctx : Context} {c : Component} {e : Horizon} {reCreate : Bool}
    {err : InvalidOverriddenInstanceError} :
    expansionResult ctx c e reCreate = .error err ↔
      c.expandTimeRanges e false = .error err ∧ reCreate = false ∧ ctx.migrating = false := by
  unfold expansionResult
  cases reCreate <;> cases ctx.migrating <;> split <;>
    simp_all [c.expandTimeRanges_ignoreInvalid]

theorem updateDatabase_error_cases {ctx : Context} {o : CalendarObject} {c : Component}
    {expandUntil : Option Date} {reCreate inserting : Bool} {w w' : World} {err : UpdateError}
    (h : updateDatabase ctx o c expandUntil reCreate inserting w = .error err w') :
    (expansionHorizon ctx c expandUntil = .error err ∧ w' = w) ∨
      (∃ e ierr, expansionHorizon ctx c expandUntil = .ok e ∧
        expansionResult ctx c e reCreate = .error ierr ∧ err = .invalidOverriddenInstance ierr ∧
        w' = { w with events := w.events ++ expansionLog o c e reCreate }) ∨
      ∃ e, err = .sql e := by
  rw [updateDatabase_eq, updateResult] at h
  split at h
  · cases h; exact .inl ⟨‹_›, rfl⟩
  · rename_i e he
    split at h
    · cases h; exact .inr (.inl ⟨e, _, he, ‹_›, rfl, rfl⟩)
    · exact .inr (.inr (recordAndIndex_raisesSql h))

theorem setComponent_eq_error {ctx : Context} {o : CalendarObject} {validation : Option String}
    {c : Component} {inserting : Bool} {w w' : World} {err : UpdateError}
    (h : setComponent ctx o validation c inserting w = .error err w') :
    (∃ reason, validation = some reason ∧ err = .invalidComponent reason ∧ w' = w) ∨
      updateDatabase ctx o c none false inserting w = .error err w' := by
  cases validation with
  | some reason => cases h; exact .inl ⟨reason, rfl, rfl, rfl⟩
  | none =>
    refine .inr ?_
    simp only [setComponent] at h
    rw [bind_of_ok (pure_run ())] at h
    cases hu : updateDatabase ctx o c none false inserting w with
    | ok u s =>
      rw [bind_of_ok hu] at h
      cases inserting <;> cases h
    | error e s => rw [bind_of_error hu] at h; exact h ▸ rfl

theorem updateDatabase_error_onlyLogged {ctx : Context} {o : CalendarObject} {c : Component}
    {expandUntil : Option Date} {reCreate inserting : Bool} {w w' : World} {err : UpdateError}
    (h : updateDatabase ctx o c expandUntil reCreate inserting w = .error err w')
    (herr : err = .indexedSearch ∨ ∃ e, err = .invalidOverriddenInstance e) : OnlyLogged w w' := by
  rcases updateDatabase_error_cases h with ⟨-, rfl⟩ | ⟨e, -, -, -, -, rfl⟩ | ⟨e, rfl⟩
  · exact .refl _
  · exact onlyLogged_expansionLog w o c e reCreate
  · rcases herr with h | ⟨_, h⟩ <;> cases h

theorem updateDatabase_raises_before_writing (ctx : Context) (o : CalendarObject) (c : Component)
    (expandUntil : Option Date) (reCreate inserting : Bool) (w : World) :
    ((∃ w', updateDatabase ctx o c expandUntil reCreate inserting w = .error .indexedSearch w') ↔
      c.hasMasterComponent = true ∧ (c.isRecurring = true ∨ c.isRecurringUnbounded = true) ∧
        (ctx.today.addDays 1825).days < (expandUntil.getD (ctx.today.addDays 365)).days) ∧
    ((∃ err w', updateDatabase ctx o c expandUntil reCreate inserting w =
        .error (.invalidOverriddenInstance err) w') ↔
      ∃ e err, expansionHorizon ctx c expandUntil = .ok e ∧
        c.expandTimeRanges e false = .error err ∧ reCreate = false ∧ ctx.migrating = false) ∧
    (∀ err w', updateDatabase ctx o c expandUntil reCreate inserting w = .error err w' →
      (err = .indexedSearch ∨ ∃ e, err = .invalidOverriddenInstance e) → OnlyLogged w w') ∧
    ∀ validation err w', setComponent ctx o validation c inserting w = .error err w' →
      (err = .indexedSearch ∨ ∃ e, err = .invalidOverriddenInstance e) → OnlyLogged w w' := by
  refine ⟨⟨fun ⟨w', h⟩ => ?_, fun hc => ?_⟩, ⟨fun ⟨err, w', h⟩ => ?_, fun ⟨e, err, he, hs⟩ => ?_⟩,
    fun _ _ h herr => updateDatabase_error_onlyLogged h herr, fun _ _ _ h herr => ?_⟩
  · rcases updateDatabase_error_cases h with ⟨he, -⟩ | ⟨_, _, -, -, h, -⟩ | ⟨_, h⟩
    · exact (expansionHorizon_eq_error.mp he).2
    all_goals cases h
  · have he := expansionHorizon_eq_error.mpr ⟨rfl, hc⟩
    exact ⟨w, by rw [updateDatabase_eq, updateResult, he]⟩
  · rcases updateDatabase_error_cases h with ⟨he, -⟩ | ⟨e, ierr, he, hl, h, -⟩ | ⟨_, h⟩
    · cases (expansionHorizon_eq_error.mp he).1
    · cases h; exact ⟨e, _, he, expansionResult_eq_error.mp hl⟩
    · cases h
  · have hl := expansionResult_eq_error.mpr hs
    exact ⟨err, _, by rw [updateDatabase_eq, updateResult, he]; simp only [hl]; rfl⟩
  · rcases setComponent_eq_error h with ⟨_, -, rfl, -⟩ | h
    · rcases herr with h | ⟨_, h⟩ <;> cases h
    · exact updateDatabase_error_onlyLogged h herr

def Event.OfUpdate : Event → Bool
  | .execSQL _ | .logError _ => true
  | _ => false

def Records (w w' : World) : Prop :=
  ∃ evs : List Event, w'.events = w.events ++ evs ∧ ∀ ev ∈ evs, ev.OfUpdate = true

theorem Records.refl (w : World) : Records w w := ⟨[], by simp, by simp⟩

theorem Records.trans {w₁ w₂ w₃ : World} (h₁ : Records w₁ w₂) (h₂ : Records w₂ w₃) :
    Records w₁ w₃ := by
  obtain ⟨a, ha, ha'⟩ := h₁
  obtain ⟨b, hb, hb'⟩ := h₂
  exact ⟨a ++ b, by rw [hb, ha, List.append_assoc],
    fun ev hev => (List.mem_append.mp hev).elim (ha' ev) (hb' ev)⟩

theorem Records.append {w : World} {evs : List Event} (h : ∀ ev ∈ evs, ev.OfUpdate = true) :
    Records w { w with events := w.events ++ evs } := ⟨evs, rfl, h⟩

def ResultRecords {α : Type} (w : World) : EStateM.Result UpdateError World α → Prop
  | .ok _ w' => Records w w'
  | .error _ w' => Records w w'

theorem ResultRecords.of_records {α : Type} {w w₁ : World} (h : Records w w₁)
    {r : EStateM.Result UpdateError World α} (hr : ResultRecords w₁ r) : ResultRecords w r := by
  cases r <;> exact h.trans hr

def RecordsUpdate {α : Type} (x : EStateM UpdateError World α) : Prop :=
  ∀ w, ResultRecords w (x w)

section RecordsUpdate

variable {α β : Type}

theorem RecordsUpdate.bind {x : EStateM UpdateError World α} {f : α → EStateM UpdateError World β}
    (hx : RecordsUpdate x) (hf : ∀ a, RecordsUpdate (f a)) : RecordsUpdate (x >>= f) := by
  intro w
  have h := hx w
  cases hr : x w with
  | ok a s => rw [bind_of_ok hr]; rw [hr] at h; exact .of_records h (hf a s)
  | error e s => rw [bind_of_error hr]; rw [hr] at h; exact h

theorem RecordsUpdate.pure (a : α) : RecordsUpdate (pure a : EStateM UpdateError World α) :=
  fun w => Records.refl w

theorem RecordsUpdate.get : RecordsUpdate (get : EStateM UpdateError World World) :=
  fun w => Records.refl w

theorem execSQL_recordsUpdate (s : Statement) : RecordsUpdate (execSQL s) := by
  intro w
  have h : Records w { w with events := w.events ++ [.execSQL s] } :=
    .append (by simp [Event.OfUpdate])
  simp only [execSQL]
  split <;> exact h

theorem insertPerUserTransparency_recordsUpdate (iid : Nat) (pu : List (String × Bool)) :
    RecordsUpdate (insertPerUserTransparency iid pu) := by
  induction pu with
  | nil => exact .pure _
  | cons p pu ih => exact (execSQL_recordsUpdate _).bind fun _ => ih

theorem indexInstances_recordsUpdate (o : CalendarObject) (c : Component) (is : List Instance) :
    RecordsUpdate (indexInstances o c is) := by
  induction is with
  | nil => exact .pure _
  | cons i is ih =>
    exact RecordsUpdate.get.bind fun _ => (execSQL_recordsUpdate _).bind fun _ =>
      (insertPerUserTransparency_recordsUpdate _ _).bind fun _ => ih

theorem indexUnbounded_recordsUpdate (o : CalendarObject) (c : Component) :
    RecordsUpdate (indexUnbounded o c) := by
  unfold indexUnbounded
  split
  · exact RecordsUpdate.get.bind fun _ => (execSQL_recordsUpdate _).bind fun _ =>
      insertPerUserTransparency_recordsUpdate _ _
  · exact .pure _

end RecordsUpdate

theorem recorded_records (ctx : Context) (o : CalendarObject) (c : Component) (l : InstanceList)
    (inserting : Bool) (w : World) : Records w (recorded ctx o c l inserting w) :=
  ⟨_, World.execAll_events _ _, by simp [Event.OfUpdate]⟩

theorem recordAndIndex_records (ctx : Context) (o : CalendarObject) (c : Component)
    (l : InstanceList) (inserting : Bool) (w : World) :
    ResultRecords w (recordAndIndex ctx o c l inserting w) := by
  unfold recordAndIndex
  split
  · exact ⟨_, rfl, by simp [Event.OfUpdate]⟩
  · exact .of_records (recorded_records ..)
      (((indexInstances_recordsUpdate o c _).bind fun _ => indexUnbounded_recordsUpdate o c) _)

theorem updateDatabase_recordsUpdate (ctx : Context) (o : CalendarObject) (c : Component)
    (expandUntil : Option Date) (reCreate inserting : Bool) :
    RecordsUpdate (updateDatabase ctx o c expandUntil reCreate inserting) := by
  intro w
  rw [updateDatabase_eq, updateResult]
  split
  · exact Records.refl w
  · rename_i e _
    have hlog : Records w { w with events := w.events ++ expansionLog o c e reCreate } :=
      .append (by unfold expansionLog; split <;> simp [Event.OfUpdate])
    split
    · exact hlog
    · exact .of_records hlog (recordAndIndex_records ..)

theorem setComponent_records_revision_last (ctx : Context) (o : CalendarObject)
    (validation : Option String) (c : Component) (inserting : Bool) (w : World) :
    (∀ w', setComponent ctx o validation c inserting w = .ok () w' →
      ∃ evs, w'.events = w.events ++ evs ++
          [if inserting then .insertRevision o.name else .updateRevision o.name, .notifyChanged] ∧
        ∀ ev ∈ evs, ev.OfUpdate = true) ∧
    ∀ err w', setComponent ctx o validation c inserting w = .error err w' →
      ∃ evs, w'.events = w.events ++ evs ∧ ∀ ev ∈ evs, ev.OfUpdate = true := by
  refine ⟨fun w' h => ?_, fun err w' h => ?_⟩
  · cases validation with
    | some reason => cases h
    | none =>
      simp only [setComponent] at h
      rw [bind_of_ok (pure_run ())] at h
      have hu := updateDatabase_recordsUpdate ctx o c none false inserting w
      cases hr : updateDatabase ctx o c none false inserting w with
      | error e s => rw [bind_of_error hr] at h; cases h
      | ok u s =>
        rw [bind_of_ok hr] at h
        obtain ⟨evs, hevs, hof⟩ := (hr ▸ hu : ResultRecords w (.ok u s))
        exact ⟨evs, by cases inserting <;> cases h <;> simp [hevs], hof⟩
  · rcases setComponent_eq_error h with ⟨_, -, -, rfl⟩ | hu
    · exact Records.refl _
    · exact (hu ▸ updateDatabase_recordsUpdate ctx o c none false inserting w :
        ResultRecords w (.error err w'))

end CaldavDatastore
