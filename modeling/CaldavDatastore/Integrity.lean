import Mathlib.Data.List.Nodup
import CaldavDatastore.IndexSpec

namespace CaldavDatastore

/-- `o`, with resource id `rid`, was read from the store under its name in its calendar. -/
def Loaded (db : Database) (o : CalendarObject) (rid : Nat) : Prop :=
  ∃ r ∈ db.calendarObject,
    r.resourceId = rid ∧ r.calendarResourceId = o.calendarResourceId ∧ r.resourceName = o.name

inductive Reachable : Database → Prop
  | empty (calendar : List Nat) (resourceIdSeq instanceIdSeq : Nat) (now : Timestamp) :
      Reachable ⟨calendar, [], [], [], [], resourceIdSeq, instanceIdSeq, now⟩
  | insert {db : Database} {w' : World} (ctx : Context) (o : CalendarObject) (c : Component)
      (expandUntil : Option Date) (reCreate : Bool) (events : List Event) (rid : Nat)
      (text : Option String) :
      Reachable db → updateDatabase ctx o c expandUntil reCreate true ⟨db, events, rid, text⟩ =
        .ok () w' → Reachable w'.db
  | update {db : Database} {w' : World} (ctx : Context) (o : CalendarObject) (c : Component)
      (expandUntil : Option Date) (reCreate : Bool) (events : List Event) (rid : Nat)
      (text : Option String) :
      Reachable db → Loaded db o rid →
      updateDatabase ctx o c expandUntil reCreate false ⟨db, events, rid, text⟩ = .ok () w' →
      Reachable w'.db
  | tick {db : Database} (now : Timestamp) : Reachable db → Reachable { db with now := now }

theorem Loaded.hasObject {db : Database} {o : CalendarObject} {rid : Nat} (h : Loaded db o rid) :
    db.hasObject rid = true :=
  let ⟨r, hr, h₁, _⟩ := h
  (Database.hasObject_iff _ _).mpr ⟨r, hr, h₁⟩

structure Inv (db : Database) : Prop where
  resourceId_lt : ∀ r ∈ db.calendarObject, r.resourceId < db.resourceIdSeq
  resourceId_nodup : (db.calendarObject.map (·.resourceId)).Nodup
  instanceId_lt : ∀ r ∈ db.timeRange, r.instanceId < db.instanceIdSeq
  instanceId_nodup : (db.timeRange.map (·.instanceId)).Nodup
  timeRange_object : ∀ r ∈ db.timeRange, ∃ o ∈ db.calendarObject,
    o.resourceId = r.calendarObjectResourceId ∧ o.calendarResourceId = r.calendarResourceId
  transparency_timeRange : ∀ t ∈ db.transparency, ∃ r ∈ db.timeRange,
    r.instanceId = t.timeRangeInstanceId

theorem mem_entryRows {cal rid n : Nat} {es : List IndexEntry} {r : TimeRangeRow}
    (h : r ∈ entryRows cal rid n es) :
    r.calendarObjectResourceId = rid ∧ r.calendarResourceId = cal ∧ n ≤ r.instanceId ∧
      r.instanceId < n + es.length := by
  induction es generalizing n with
  | nil => simp [entryRows] at h
  | cons e es ih =>
    rcases List.mem_cons.mp h with rfl | h
    · simp
    · have := ih h
      simp only [List.length_cons]
      omega

theorem entryRows_instanceIds (cal rid n : Nat) (es : List IndexEntry) :
    (entryRows cal rid n es).map (·.instanceId) = List.range' n es.length := by
  induction es generalizing n with
  | nil => rfl
  | cons e es ih => simp [entryRows, ih, List.range'_succ]

theorem mem_entryTransparency {n : Nat} {es : List IndexEntry} {t : TransparencyRow}
    (h : t ∈ entryTransparency n es) (cal rid : Nat) :
    ∃ r ∈ entryRows cal rid n es, r.instanceId = t.timeRangeInstanceId := by
  induction es generalizing n with
  | nil => simp [entryTransparency] at h
  | cons e es ih =>
    rcases List.mem_append.mp h with h | h
    · obtain ⟨p, -, rfl⟩ := List.mem_map.mp h
      exact ⟨_, List.mem_cons_self _ _, rfl⟩
    · obtain ⟨r, hr, he⟩ := ih h
      exact ⟨r, List.mem_cons_of_mem _ hr, he⟩

def CalendarObjectRow.key (r : CalendarObjectRow) : Nat × Nat × String :=
  (r.resourceId, r.calendarResourceId, r.resourceName)

theorem keys_updateCalendarObject (db : Database) (text uid type : String) (mode : Nat)
    (organizer : String) (rmax : Option DateTime) (rid : Nat) :
    (db.apply (.updateCalendarObject text uid type mode organizer rmax rid)).calendarObject.map
      CalendarObjectRow.key = db.calendarObject.map CalendarObjectRow.key := by
  simp only [Database.apply, List.map_map]
  congr 1
  funext r
  simp only [Function.comp]
  split <;> rfl

theorem exists_of_keys {l l' : List CalendarObjectRow}
    (hk : l'.map CalendarObjectRow.key = l.map CalendarObjectRow.key) {r : CalendarObjectRow}
    (hr : r ∈ l) : ∃ r' ∈ l', r'.key = r.key := by
  have : r.key ∈ l'.map CalendarObjectRow.key := hk ▸ List.mem_map_of_mem _ hr
  simpa using this

namespace Inv

variable {db : Database}

theorem of_keys {db' : Database} (h : Inv db)
    (hk : db'.calendarObject.map CalendarObjectRow.key = db.calendarObject.map CalendarObjectRow.key)
    (hs : db'.resourceIdSeq = db.resourceIdSeq) (ht : db'.timeRange = db.timeRange)
    (htr : db'.transparency = db.transparency) (hi : db'.instanceIdSeq = db.instanceIdSeq) :
    Inv db' where
  resourceId_lt r hr := by
    obtain ⟨r₀, h₀, hk₀⟩ := exists_of_keys hk.symm hr
    have := h.resourceId_lt r₀ h₀
    simp only [CalendarObjectRow.key, Prod.mk.injEq] at hk₀
    omega
  resourceId_nodup := by
    have : db'.calendarObject.map (·.resourceId) = db.calendarObject.map (·.resourceId) := by
      simpa [List.map_map, CalendarObjectRow.key] using congrArg (List.map Prod.fst) hk
    exact this ▸ h.resourceId_nodup
  instanceId_lt := ht ▸ hi ▸ h.instanceId_lt
  instanceId_nodup := ht ▸ h.instanceId_nodup
  timeRange_object r hr := by
    obtain ⟨o, ho, h₁, h₂⟩ := h.timeRange_object r (ht ▸ hr)
    obtain ⟨o', ho', hk'⟩ := exists_of_keys hk ho
    simp only [CalendarObjectRow.key, Prod.mk.injEq] at hk'
    exact ⟨o', ho', hk'.1 ▸ h₁, hk'.2.1 ▸ h₂⟩
  transparency_timeRange := ht ▸ htr ▸ h.transparency_timeRange

theorem insertCalendarObject (h : Inv db) (cal : Nat) (name text uid type : String) (mode : Nat)
    (organizer : String) (rmax : Option DateTime) :
    Inv (db.apply (.insertCalendarObject cal name text uid type mode organizer rmax)) where
  resourceId_lt r hr := by
    simp only [Database.apply, List.mem_append, List.mem_singleton] at hr ⊢
    rcases hr with hr | rfl
    · exact Nat.lt_succ_of_lt (h.resourceId_lt r hr)
    · exact Nat.lt_succ_self _
  resourceId_nodup := by
    simp only [Database.apply, List.map_append, List.map_singleton]
    refine h.resourceId_nodup.append (List.nodup_singleton _) ?_
    simp only [List.disjoint_singleton, List.mem_map, not_exists, not_and]
    intro r hr he
    exact absurd (he ▸ h.resourceId_lt r hr) (Nat.lt_irrefl _)
  instanceId_lt := h.instanceId_lt
  instanceId_nodup := h.instanceId_nodup
  timeRange_object r hr := by
    obtain ⟨o, ho, he⟩ := h.timeRange_object r hr
    exact ⟨o, List.mem_append_left _ ho, he⟩
  transparency_timeRange := h.transparency_timeRange

theorem deleteTimeRange (h : Inv db) (rid : Nat) : Inv (db.apply (.deleteTimeRange rid)) where
  resourceId_lt := h.resourceId_lt
  resourceId_nodup := h.resourceId_nodup
  instanceId_lt r hr := h.instanceId_lt r (List.mem_filter.mp hr).1
  instanceId_nodup := h.instanceId_nodup.sublist ((List.filter_sublist _).map _)
  timeRange_object r hr := h.timeRange_object r (List.mem_filter.mp hr).1
  transparency_timeRange t ht := by
    simp only [Database.apply, List.mem_filter, Bool.not_eq_true', List.any_eq_false,
      Bool.and_eq_true, beq_iff_eq, not_and] at ht ⊢
    obtain ⟨r, hr, he⟩ := h.transparency_timeRange t ht.1
    exact ⟨r, ⟨hr, by simpa using fun hrid => ht.2 r hr hrid he⟩, he⟩

theorem entries (h : Inv db) {cal rid : Nat}
    (ho : ∃ o ∈ db.calendarObject, o.resourceId = rid ∧ o.calendarResourceId = cal)
    (es : List IndexEntry) :
    Inv { db with timeRange := db.timeRange ++ entryRows cal rid db.instanceIdSeq es
                  transparency := db.transparency ++ entryTransparency db.instanceIdSeq es
                  instanceIdSeq := db.instanceIdSeq + es.length } where
  resourceId_lt := h.resourceId_lt
  resourceId_nodup := h.resourceId_nodup
  instanceId_lt r hr := by
    rcases List.mem_append.mp hr with hr | hr
    · exact Nat.lt_add_right _ (h.instanceId_lt r hr)
    · exact (mem_entryRows hr).2.2.2
  instanceId_nodup := by
    rw [List.map_append, entryRows_instanceIds]
    refine h.instanceId_nodup.append (List.nodup_range' _ _) fun k hk hk' => ?_
    obtain ⟨r, hr, rfl⟩ := List.mem_map.mp hk
    have := h.instanceId_lt r hr
    have := (List.mem_range'_1.mp hk').1
    omega
  timeRange_object r hr := by
    rcases List.mem_append.mp hr with hr | hr
    · exact h.timeRange_object r hr
    · obtain ⟨h₁, h₂, -⟩ := mem_entryRows hr
      obtain ⟨o, ho, ho₁, ho₂⟩ := ho
      exact ⟨o, ho, ho₁.trans h₁.symm, ho₂.trans h₂.symm⟩
  transparency_timeRange t ht := by
    rcases List.mem_append.mp ht with ht | ht
    · obtain ⟨r, hr, he⟩ := h.transparency_timeRange t ht
      exact ⟨r, List.mem_append_left _ hr, he⟩
    · obtain ⟨r, hr, he⟩ := mem_entryTransparency ht cal rid
      exact ⟨r, List.mem_append_right _ hr, he⟩

theorem recordStatements {ctx : Context} {o : CalendarObject} {c : Component}
    {l : InstanceList} {inserting : Bool} (h : Inv db) (rid : Nat) :
    Inv ((CaldavDatastore.recordStatements ctx o c l inserting rid).foldl Database.apply db) := by
  cases inserting with
  | true => exact h.insertCalendarObject ..
  | false => exact (h.of_keys (keys_updateCalendarObject ..) rfl rfl rfl rfl).deleteTimeRange _

theorem rebuild {ctx : Context} {o : CalendarObject} {c : Component} {l : InstanceList}
    {inserting : Bool} {w : World} (h : Inv w.db)
    (hpre : inserting = false → Loaded w.db o w.resourceID) :
    Inv (CaldavDatastore.rebuild ctx o c l inserting w).db := by
  rw [rebuild_db]
  refine (h.recordStatements _).entries ?_ _
  cases inserting with
  | true => exact ⟨_, List.mem_append_right _ (List.mem_singleton_self _), rfl, rfl⟩
  | false =>
    obtain ⟨r, hr, h₁, h₂, -⟩ := hpre rfl
    obtain ⟨r', hr', hk⟩ := exists_of_keys (keys_updateCalendarObject ..) hr
    simp only [CalendarObjectRow.key, Prod.mk.injEq] at hk
    exact ⟨r', hr', hk.1.trans h₁, hk.2.1.trans h₂⟩

theorem transparency_lt (h : Inv db) : ∀ t ∈ db.transparency, t.timeRangeInstanceId < db.instanceIdSeq := by
  intro t ht
  obtain ⟨r, hr, he⟩ := h.transparency_timeRange t ht
  exact he ▸ h.instanceId_lt r hr

theorem updateDatabase {ctx : Context} {o : CalendarObject} {c : Component}
    {expandUntil : Option Date} {reCreate inserting : Bool} {w w' : World} (h : Inv w.db)
    (hpre : inserting = false → Loaded w.db o w.resourceID)
    (hok : CaldavDatastore.updateDatabase ctx o c expandUntil reCreate inserting w = .ok () w') :
    Inv w'.db := by
  have hobj := fun hi => (hpre hi).hasObject
  obtain ⟨e, l, -, -, rfl⟩ := updateDatabase_ok hobj hok
  exact Inv.rebuild h hpre

end Inv

theorem Reachable.inv {db : Database} (h : Reachable db) : Inv db := by
  induction h with
  | empty => exact ⟨by simp, List.nodup_nil, by simp, List.nodup_nil, by simp, by simp⟩
  | insert ctx o c expandUntil reCreate events rid text _ hok ih =>
    exact ih.updateDatabase (w := ⟨_, events, rid, text⟩) (by simp) hok
  | update ctx o c expandUntil reCreate events rid text _ hl hok ih =>
    exact ih.updateDatabase (w := ⟨_, events, rid, text⟩) (fun _ => hl) hok
  | tick now _ ih => exact ⟨ih.1, ih.2, ih.3, ih.4, ih.5, ih.6⟩

theorem expansionHorizon_not_sql {ctx : Context} {c : Component} {expandUntil : Option Date}
    {err : UpdateError} (h : expansionHorizon ctx c expandUntil = .error err) (e : SqlError) :
    err ≠ .sql e := by
  unfold expansionHorizon at h
  split at h
  · cases h
  · dsimp only at h
    split at h
    · cases h; nofun
    · cases h

theorem updateDatabase_not_sql {ctx : Context} {o : CalendarObject} {c : Component}
    {expandUntil : Option Date} {reCreate inserting : Bool} {w w' : World} {err : UpdateError}
    (hins : inserting = true → ∀ l, w.db.violation (insertStatement ctx o c l) = none)
    (hobj : inserting = false → w.db.hasObject w.resourceID = true)
    (h : updateDatabase ctx o c expandUntil reCreate inserting w = .error err w') (e : SqlError) :
    err ≠ .sql e := by
  rintro rfl
  rw [updateDatabase_eq, updateResult] at h
  split at h
  · rename_i he
    cases h
    exact expansionHorizon_not_sql he e rfl
  · split at h
    · cases h
    · dsimp only at h
      rw [recordAndIndex_eq (by exact hobj)] at h
      split at h
      · simp_all
      · cases h

theorem reachable_referential_integrity {db : Database} (h : Reachable db) :
    (∀ r ∈ db.timeRange, ∃ o ∈ db.calendarObject,
      o.resourceId = r.calendarObjectResourceId ∧ o.calendarResourceId = r.calendarResourceId) ∧
    (∀ t ∈ db.transparency, ∃ r ∈ db.timeRange, r.instanceId = t.timeRangeInstanceId) ∧
    ∀ (ctx : Context) (o : CalendarObject) (c : Component) (expandUntil : Option Date)
      (reCreate inserting : Bool) (w w' : World) (err : UpdateError), w.db = db →
      (inserting = true → o.calendarResourceId ∈ db.calendar ∧
        ∀ r ∈ db.calendarObject, r.calendarResourceId = o.calendarResourceId → r.resourceName ≠ o.name) →
      (inserting = false → Loaded db o w.resourceID) →
      updateDatabase ctx o c expandUntil reCreate inserting w = .error err w' →
      ∀ e, err ≠ .sql e :=
  ⟨h.inv.timeRange_object, h.inv.transparency_timeRange,
    fun _ _ _ _ _ _ _ _ _ hw hins hpre hfail => updateDatabase_not_sql
      (fun hi _ => hw ▸ Database.violation_insertCalendarObject_eq_none (hins hi).1 (hins hi).2 ..)
      (fun hi => hw ▸ (hpre hi).hasObject) hfail⟩

theorem reachable_referential_integrity_one_event :
    let i : Instance := ⟨DateTime.utc 2024 1 1 10 0 0, DateTime.utc 2024 1 1 10 0 0,
      DateTime.utc 2024 1 1 11 0 0, ⟨none, "BUSY"⟩⟩
    let w : World := ⟨⟨[1], [], [], [], [], 0, 0, ⟨2024, 1, 1, 0, 0, 0, 0⟩⟩, [], 0, none⟩
    let db := (rebuild ⟨⟨19723⟩, false, 1⟩ ⟨"event.ics", 1, "calendar"⟩
      (Component.ofInstances false false [i] (by decide)) ⟨[i], none⟩ true w).db
    (∀ r ∈ db.timeRange, ∃ o ∈ db.calendarObject,
      o.resourceId = r.calendarObjectResourceId ∧ o.calendarResourceId = r.calendarResourceId) ∧
    (∀ t ∈ db.transparency, ∃ r ∈ db.timeRange, r.instanceId = t.timeRangeInstanceId) ∧
    ∀ (ctx : Context) (o : CalendarObject) (c : Component) (expandUntil : Option Date)
      (reCreate inserting : Bool) (w w' : World) (err : UpdateError), w.db = db →
      (inserting = true → o.calendarResourceId ∈ db.calendar ∧
        ∀ r ∈ db.calendarObject, r.calendarResourceId = o.calendarResourceId → r.resourceName ≠ o.name) →
      (inserting = false → Loaded db o w.resourceID) →
      updateDatabase ctx o c expandUntil reCreate inserting w = .error err w' →
      ∀ e, err ≠ .sql e := by
  intro i w db
  exact reachable_referential_integrity (.insert ⟨⟨19723⟩, false, 1⟩ ⟨"event.ics", 1, "calendar"⟩
    (Component.ofInstances false false [i] (by decide)) none false [] 0 none
    (.empty [1] 0 0 ⟨2024, 1, 1, 0, 0, 0, 0⟩) rfl)

end CaldavDatastore
