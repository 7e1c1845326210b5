import CaldavDatastore.Failure
import CaldavDatastore.Rebuild

namespace CaldavDatastore

theorem expansionResult_eq_ok {ctx : Context} {c : Component} {e : Horizon} {reCreate : Bool}
    {l : InstanceList} (h : expansionResult ctx c e reCreate = .ok l) :
    ∃ b, c.expandTimeRanges e b = .ok l := by
  unfold expansionResult at h
  split at h
  · cases h; exact ⟨reCreate, ‹_›⟩
  · split at h
    · exact ⟨true, h⟩
    · cases h

theorem expansionHorizon_recurring {ctx : Context} {c : Component} {expandUntil : Option Date}
    {e : Horizon} (hm : c.hasMasterComponent = true) (hr : c.isRecurring = true)
    (he : expansionHorizon ctx c expandUntil = .ok e) :
    e = .date (expandUntil.getD (ctx.today.addDays 365)) := by
  unfold expansionHorizon at he
  rw [if_neg (by simp [hm, hr])] at he
  dsimp only at he
  split at he <;> cases he
  rfl

theorem utcWall_replaceTzinfoUtc {t : DateTime} (h : t.tzinfo = none ∨ t.tzinfo = some 0) :
    t.replaceTzinfoUtc.utcWall = t.utcWall := by
  rcases h with h | h <;> simp [DateTime.utcWall, DateTime.replaceTzinfoUtc, h]

@[simp] theorem instanceEntry_startDate (c : Component) (i : Instance) :
    (instanceEntry c i).startDate = i.start.replaceTzinfoUtc := rfl

@[simp] theorem instanceEntry_endDate (c : Component) (i : Instance) :
    (instanceEntry c i).endDate = i.«end».replaceTzinfoUtc := rfl

@[simp] theorem instanceEntry_floating (c : Component) (i : Instance) :
    (instanceEntry c i).floating = i.start.tzinfo.isNone := rfl

theorem filter_indexEntries (c : Component) (l : InstanceList) (cal : Nat)
    (p : Nat × IndexEntry → Bool) :
    ((indexEntries c l).map ((cal, ·))).filter p =
      (l.instances.filter fun i => p (cal, instanceEntry c i)).map (fun i => (cal, instanceEntry c i)) ++
        ((if c.isRecurringUnbounded then [sentinelEntry c] else []).map ((cal, ·))).filter p := by
  rw [indexEntries, List.map_append, List.filter_append, List.map_map, List.filter_map]
  rfl

section Rows

variable {db : Database} {ctx : Context} {o : CalendarObject} {c : Component}
  {expandUntil : Option Date} {reCreate inserting : Bool} {w w' : World}

theorem updateDatabase_index (hdb : Reachable db) (hw : w.db = db)
    (hpre : inserting = false → Loaded db o w.resourceID)
    (hok : updateDatabase ctx o c expandUntil reCreate inserting w = .ok () w') {e : Horizon}
    {l : InstanceList} (he : expansionHorizon ctx c expandUntil = .ok e)
    (hl : expansionResult ctx c e reCreate = .ok l) :
    w'.db.index w'.resourceID = (indexEntries c l).map ((o.calendarResourceId, ·)) := by
  subst hw
  obtain ⟨e', l', he', hl', rfl⟩ := updateDatabase_ok (fun hi => (hpre hi).hasObject) hok
  cases he.symm.trans he'
  cases hl.symm.trans hl'
  have h : Inv (World.db { w with events := w.events ++ expansionLog o c e reCreate }) := hdb.inv
  exact rebuild_index h

theorem updateDatabase_rows_from_2100 (hdb : Reachable db) (hw : w.db = db)
    (hpre : inserting = false → Loaded db o w.resourceID)
    (hok : updateDatabase ctx o c expandUntil reCreate inserting w = .ok () w') :
    let late := fun r : Nat × IndexEntry =>
      decide ((DateTime.utc 2100 1 1 0 0 0).utcWall ≤ r.2.startDate.utcWall)
    ∀ e l, expansionHorizon ctx c expandUntil = .ok e → expansionResult ctx c e reCreate = .ok l →
      (c.hasMasterComponent = true → c.isRecurring = true →
        e = .date (expandUntil.getD (ctx.today.addDays 365))) ∧
      (w'.db.index w'.resourceID).filter late =
        (l.instances.filter fun i =>
            decide ((DateTime.utc 2100 1 1 0 0 0).utcWall ≤ i.start.utcWall)).map
          (fun i => (o.calendarResourceId, instanceEntry c i)) ++
          (if c.isRecurringUnbounded then
            [(o.calendarResourceId, ⟨false, DateTime.utc 2100 1 1 0 0 0,
              DateTime.utc 2100 1 1 1 0 0, 0, true, c.perUserTransparency none⟩)] else []) ∧
      (w'.db.index w'.resourceID).filter (fun r => !late r) =
        (l.instances.filter fun i =>
            decide (i.start.utcWall < (DateTime.utc 2100 1 1 0 0 0).utcWall)).map
          (fun i => (o.calendarResourceId, instanceEntry c i)) ∧
      (c.ExpandsBefore → e.instant ≤ (DateTime.utc 2100 1 1 0 0 0).utcWall →
        (w'.db.index w'.resourceID).filter late =
          if c.isRecurringUnbounded then
            [(o.calendarResourceId, ⟨false, DateTime.utc 2100 1 1 0 0 0,
              DateTime.utc 2100 1 1 1 0 0, 0, true, c.perUserTransparency none⟩)] else []) := by
  intro late e l he hl
  obtain ⟨b, hb⟩ := expansionResult_eq_ok hl
  have hlate : ∀ i ∈ l.instances, late (o.calendarResourceId, instanceEntry c i) =
      decide ((DateTime.utc 2100 1 1 0 0 0).utcWall ≤ i.start.utcWall) := fun i hi => by
    show decide (_ ≤ i.start.replaceTzinfoUtc.utcWall) = _
    rw [utcWall_replaceTzinfoUtc (c.expandTimeRanges_normalized e b l hb i hi).1]
  have hsentinel : late (o.calendarResourceId, sentinelEntry c) = true := by
    simp [late, sentinelEntry]
  rw [updateDatabase_index hdb hw hpre hok he hl]
  have hsplit : ((indexEntries c l).map ((o.calendarResourceId, ·))).filter late =
      (l.instances.filter fun i =>
          decide ((DateTime.utc 2100 1 1 0 0 0).utcWall ≤ i.start.utcWall)).map
        (fun i => (o.calendarResourceId, instanceEntry c i)) ++
        (if c.isRecurringUnbounded then
          [(o.calendarResourceId, ⟨false, DateTime.utc 2100 1 1 0 0 0,
            DateTime.utc 2100 1 1 1 0 0, 0, true, c.perUserTransparency none⟩)] else []) := by
    rw [filter_indexEntries, List.filter_congr hlate]
    split
    · simp only [List.map_cons, List.map_nil, List.filter_cons, hsentinel]; rfl
    · rfl
  refine ⟨fun hm hr => expansionHorizon_recurring hm hr he, hsplit, ?_, fun hexp hh => ?_⟩
  · rw [filter_indexEntries, List.filter_congr fun i hi => show
      (!late (o.calendarResourceId, instanceEntry c i)) =
        decide (i.start.utcWall < (DateTime.utc 2100 1 1 0 0 0).utcWall) by
      simp only [hlate i hi, ← Int.not_le, decide_not]]
    split <;> simp [hsentinel]
  · have hnone : l.instances.filter (fun i =>
        decide ((DateTime.utc 2100 1 1 0 0 0).utcWall ≤ i.start.utcWall)) = [] :=
      List.filter_eq_nil_iff.mpr fun i hi => by
        have := hexp e b l hb i hi
        simp only [decide_eq_true_eq, not_le]
        omega
    rw [hsplit, hnone, List.map_nil, List.nil_append]

theorem updateDatabase_keeps_instance_instants (hdb : Reachable db) (hw : w.db = db)
    (hpre : inserting = false → Loaded db o w.resourceID)
    (hok : updateDatabase ctx o c expandUntil reCreate inserting w = .ok () w') :
    ∀ e l, expansionHorizon ctx c expandUntil = .ok e → expansionResult ctx c e reCreate = .ok l →
      ∀ i ∈ l.instances, ∃ r ∈ w'.db.index w'.resourceID,
        r.2.floating = i.start.tzinfo.isNone ∧
        (r.2.floating = false →
          r.2.startDate.instant = i.start.instant ∧ r.2.endDate.instant = i.«end».instant) := by
  intro e l he hl i hi
  obtain ⟨b, hb⟩ := expansionResult_eq_ok hl
  obtain ⟨hs, hend⟩ := c.expandTimeRanges_normalized e b l hb i hi
  rw [updateDatabase_index hdb hw hpre hok he hl]
  refine ⟨_, List.mem_map_of_mem _ (List.mem_append_left _ (List.mem_map_of_mem _ hi)), rfl,
    fun hf => ?_⟩
  have h0 : i.start.tzinfo = some 0 := hs.resolve_left fun h => by simp [h] at hf
  simp [DateTime.instant, DateTime.replaceTzinfoUtc, h0, hend]

end Rows

theorem updateDatabase_rows_from_2100_late_today :
    let i : Instance := ⟨DateTime.utc 2100 1 5 10 0 0, DateTime.utc 2100 1 5 10 0 0,
      DateTime.utc 2100 1 5 11 0 0, ⟨none, "BUSY"⟩⟩
    let c := Component.ofInstances true false [i] (by decide)
    let ctx : Context := ⟨Date.ofCivil 2099 6 1, false, 1⟩
    let o : CalendarObject := ⟨"event.ics", 1, "calendar"⟩
    let w : World := ⟨⟨[1], [], [], [], [], 0, 0, ⟨2099, 6, 1, 0, 0, 0, 0⟩⟩, [], 0, none⟩
    let w' := rebuild ctx o c ⟨[i], none⟩ true w
    c.isRecurringUnbounded = false ∧ updateDatabase ctx o c none false true w = .ok () w' ∧
      (w'.db.index w'.resourceID).filter
          (fun r => decide ((DateTime.utc 2100 1 1 0 0 0).utcWall ≤ r.2.startDate.utcWall)) =
        [(1, instanceEntry c i)] := by
  intro i c ctx o w w'
  exact ⟨rfl, rfl, (updateDatabase_rows_from_2100 (.empty [1] 0 0 _) rfl
    (fun h => absurd h (by decide)) (rfl : updateDatabase ctx o c none false true w = .ok () w')
    _ _ rfl rfl).2.1.trans rfl⟩

theorem updateDatabase_keeps_instance_instants_one_event :
    let i : Instance := ⟨DateTime.utc 2024 1 1 10 0 0, DateTime.utc 2024 1 1 10 0 0,
      DateTime.utc 2024 1 1 11 0 0, ⟨none, "BUSY"⟩⟩
    let c := Component.ofInstances false false [i] (by decide)
    let ctx : Context := ⟨Date.ofCivil 2024 1 1, false, 1⟩
    let o : CalendarObject := ⟨"event.ics", 1, "calendar"⟩
    let w : World := ⟨⟨[1], [], [], [], [], 0, 0, ⟨2024, 1, 1, 0, 0, 0, 0⟩⟩, [], 0, none⟩
    let w' := rebuild ctx o c ⟨[i], none⟩ true w
    ∃ r ∈ w'.db.index w'.resourceID, r.2.floating = false ∧
      r.2.startDate.instant = i.start.instant ∧ r.2.endDate.instant = i.«end».instant := by
  intro i c ctx o w w'
  obtain ⟨r, hr, hf, hinst⟩ := updateDatabase_keeps_instance_instants (.empty [1] 0 0 _) rfl
    (fun h => absurd h (by decide)) (rfl : updateDatabase ctx o c none false true w = .ok () w')
    _ _ rfl rfl i (.head _)
  exact ⟨r, hr, hf, hinst hf⟩

theorem indexFBType_lt (fbtype : String) : indexFBType fbtype < 5 := by
  unfold indexFBType icalfbtypeToIndexfbtype
  split <;> decide

theorem indexfbtypeToIcalfbtype_isSome : ∀ {n : Nat}, n < 5 → (indexfbtypeToIcalfbtype n).isSome
  | 0, _ | 1, _ | 2, _ | 3, _ | 4, _ => rfl
  | _ + 5, h => absurd h (by omega)

theorem fbtype_of_mem_entryRows {cal rid n : Nat} {es : List IndexEntry} {r : TimeRangeRow}
    (h : r ∈ entryRows cal rid n es) : ∃ e ∈ es, r.fbtype = e.fbtype := by
  induction es generalizing n with
  | nil => cases h
  | cons e es ih =>
    rcases List.mem_cons.mp h with rfl | h
    · exact ⟨e, List.mem_cons_self _ _, rfl⟩
    · obtain ⟨e', he', hfb⟩ := ih h
      exact ⟨e', List.mem_cons_of_mem _ he', hfb⟩

theorem indexEntries_fbtype_lt {c : Component} {l : InstanceList} :
    ∀ e ∈ indexEntries c l, e.fbtype < 5 := by
  intro e he
  rcases List.mem_append.mp he with he | he
  · obtain ⟨i, -, rfl⟩ := List.mem_map.mp he
    exact indexFBType_lt _
  · split at he
    · rw [List.mem_singleton.mp he]
      exact indexFBType_lt "UNKNOWN"
    · cases he

theorem mem_recordStatements_timeRange {ctx : Context} {o : CalendarObject} {c : Component}
    {l : InstanceList} {inserting : Bool} {rid : Nat} {db : Database} {r : TimeRangeRow}
    (h : r ∈ ((recordStatements ctx o c l inserting rid).foldl Database.apply db).timeRange) :
    r ∈ db.timeRange := by
  cases inserting with
  | true => exact h
  | false => exact (List.mem_filter.mp h).1

theorem rebuild_fbtype_lt {ctx : Context} {o : CalendarObject} {c : Component} {l : InstanceList}
    {inserting : Bool} {w : World} (h : ∀ r ∈ w.db.timeRange, r.fbtype < 5) :
    ∀ r ∈ (rebuild ctx o c l inserting w).db.timeRange, r.fbtype < 5 := by
  rw [rebuild_db]
  intro r hr
  rcases List.mem_append.mp hr with hr | hr
  · exact h r (mem_recordStatements_timeRange hr)
  · obtain ⟨e, he, hfb⟩ := fbtype_of_mem_entryRows hr
    exact hfb ▸ indexEntries_fbtype_lt e he

theorem Reachable.fbtype_lt {db : Database} (h : Reachable db) : ∀ r ∈ db.timeRange, r.fbtype < 5 := by
  induction h with
  | empty => simp
  | insert ctx o c expandUntil reCreate events rid text _ hok ih =>
    obtain ⟨e, l, -, -, rfl⟩ := updateDatabase_ok (by exact nofun) hok
    exact rebuild_fbtype_lt ih
  | update ctx o c expandUntil reCreate events rid text _ hl hok ih =>
    obtain ⟨e, l, -, -, rfl⟩ := updateDatabase_ok (fun _ => hl.hasObject) hok
    exact rebuild_fbtype_lt ih
  | tick now _ ih => exact ih

theorem reachable_fbtype_decodes {db : Database} (h : Reachable db) :
    ∀ r ∈ db.timeRange, (indexfbtypeToIcalfbtype r.fbtype).isSome :=
  fun r hr => indexfbtypeToIcalfbtype_isSome (h.fbtype_lt r hr)

theorem reachable_fbtype_decodes_unlisted :
    let i : Instance := ⟨DateTime.utc 2024 1 1 10 0 0, DateTime.utc 2024 1 1 10 0 0,
      DateTime.utc 2024 1 1 11 0 0, ⟨none, "X-OUT-OF-OFFICE"⟩⟩
    let w : World := ⟨⟨[1], [], [], [], [], 0, 0, ⟨2024, 1, 1, 0, 0, 0, 0⟩⟩, [], 0, none⟩
    let db := (rebuild ⟨⟨19723⟩, false, 1⟩ ⟨"event.ics", 1, "calendar"⟩
      (Component.ofInstances false false [i] (by decide)) ⟨[i], none⟩ true w).db
    ∀ r ∈ db.timeRange, (indexfbtypeToIcalfbtype r.fbtype).isSome := by
  intro i w db
  exact reachable_fbtype_decodes (.insert ⟨⟨19723⟩, false, 1⟩ ⟨"event.ics", 1, "calendar"⟩
    (Component.ofInstances false false [i] (by decide)) none false [] 0 none
    (.empty [1] 0 0 ⟨2024, 1, 1, 0, 0, 0, 0⟩) rfl)

end CaldavDatastore
