import CaldavDatastore.Integrity

namespace CaldavDatastore

structure ObjectValues where
  resourceName : String
  icalendarText : String
  icalendarUid : String
  icalendarType : String
  attachmentsMode : Nat
  organizer : String
  recurranceMax : Option DateTime
  deriving DecidableEq, Repr

def CalendarObjectRow.values (r : CalendarObjectRow) : ObjectValues :=
  ⟨r.resourceName, r.icalendarText, r.icalendarUid, r.icalendarType, r.attachmentsMode,
    r.organizer, r.recurranceMax⟩

def Database.objectValues (db : Database) (rid : Nat) : Option ObjectValues :=
  (db.calendarObject.find? (·.resourceId == rid)).map CalendarObjectRow.values

def TimeRangeRow.entry (r : TimeRangeRow) (ts : List TransparencyRow) : IndexEntry :=
  ⟨r.floating, r.startDate, r.endDate, r.fbtype, r.transparent,
    (ts.filter (·.timeRangeInstanceId == r.instanceId)).map fun t => (t.userId, t.transparent)⟩

def Database.index (db : Database) (rid : Nat) : List (Nat × IndexEntry) :=
  (db.timeRange.filter (·.calendarObjectResourceId == rid)).map fun r =>
    (r.calendarResourceId, r.entry db.transparency)

def recordValues (ctx : Context) (o : CalendarObject) (c : Component) (l : InstanceList) :
    ObjectValues :=
  ⟨o.name, c.text, c.resourceUID, c.resourceType, ctx.attachmentsModeWrite,
    c.getOrganizer.getD "", l.limit.map normalizeForIndex⟩

theorem le_of_mem_entryTransparency {n : Nat} {es : List IndexEntry} {t : TransparencyRow}
    (h : t ∈ entryTransparency n es) : n ≤ t.timeRangeInstanceId := by
  obtain ⟨r, hr, he⟩ := mem_entryTransparency h 0 0
  exact he ▸ (mem_entryRows hr).2.2.1

theorem entryRows_entry (cal rid : Nat) {n : Nat} (ts : List TransparencyRow)
    (hts : ∀ t ∈ ts, t.timeRangeInstanceId < n) (es : List IndexEntry) :
    (entryRows cal rid n es).map (fun r => (r.calendarResourceId, r.entry (ts ++ entryTransparency n es))) =
      es.map ((cal, ·)) := by
  induction es generalizing n ts with
  | nil => rfl
  | cons e es ih =>
    have hts' : ∀ t ∈ ts ++ e.perUser.map (fun p => ⟨n, p.1, p.2⟩), t.timeRangeInstanceId < n + 1 := by
      intro t ht
      rcases List.mem_append.mp ht with ht | ht
      · exact Nat.lt_succ_of_lt (hts t ht)
      · obtain ⟨p, -, rfl⟩ := List.mem_map.mp ht
        exact Nat.lt_succ_self n
    have h₁ : ts.filter (·.timeRangeInstanceId == n) = [] :=
      List.filter_eq_nil_iff.mpr fun t ht => by simpa using Nat.ne_of_lt (hts t ht)
    have h₂ : (e.perUser.map fun p => (⟨n, p.1, p.2⟩ : TransparencyRow)).filter
        (·.timeRangeInstanceId == n) = e.perUser.map fun p => ⟨n, p.1, p.2⟩ :=
      List.filter_eq_self.mpr fun t ht => by obtain ⟨p, -, rfl⟩ := List.mem_map.mp ht; simp
    have h₃ : (entryTransparency (n + 1) es).filter (·.timeRangeInstanceId == n) = [] :=
      List.filter_eq_nil_iff.mpr fun t ht => by
        simpa using Nat.ne_of_gt (le_of_mem_entryTransparency ht)
    simp only [entryRows, entryTransparency, List.map_cons]
    rw [← List.append_assoc, ih _ hts']
    simp only [TimeRangeRow.entry, List.filter_append, h₁, h₂, h₃, List.nil_append,
      List.append_nil, List.map_map]
    simp [Function.comp_def]

theorem Inv.find?_resourceId {db : Database} (h : Inv db) {r : CalendarObjectRow}
    (hr : r ∈ db.calendarObject) :
    db.calendarObject.find? (·.resourceId == r.resourceId) = some r := by
  cases hf : db.calendarObject.find? (·.resourceId == r.resourceId) with
  | none => exact absurd hr (by simpa using List.find?_eq_none.mp hf r)
  | some r₁ =>
    have h₁ := List.find?_some hf
    simp only [beq_iff_eq] at h₁
    rw [List.inj_on_of_nodup_map h.resourceId_nodup (List.mem_of_find?_eq_some hf) hr h₁]

section Rebuild

variable {ctx : Context} {o : CalendarObject} {c : Component} {l : InstanceList}
  {inserting : Bool} {w : World}

theorem rebuild_resourceID :
    (rebuild ctx o c l inserting w).resourceID =
      if inserting then w.db.resourceIdSeq else w.resourceID := by
  simp [rebuild, recorded]

theorem recordStatements_timeRange (h : Inv w.db) :
    ∀ r ∈ ((recordStatements ctx o c l inserting w.resourceID).foldl Database.apply w.db).timeRange,
      r.calendarObjectResourceId ≠ if inserting then w.db.resourceIdSeq else w.resourceID := by
  intro r hr
  cases inserting with
  | true =>
    obtain ⟨o', ho', h₁, -⟩ := h.timeRange_object r hr
    have := h.resourceId_lt o' ho'
    simp only [if_true]
    omega
  | false =>
    simpa [recordStatements, Database.apply] using (List.mem_filter.mp hr).2

theorem rebuild_index (h : Inv w.db) :
    (rebuild ctx o c l inserting w).db.index (rebuild ctx o c l inserting w).resourceID =
      (indexEntries c l).map ((o.calendarResourceId, ·)) := by
  rw [rebuild_db, rebuild_resourceID]
  simp only [Database.index, List.filter_append]
  rw [List.filter_eq_nil_iff.mpr fun r hr => by simpa using recordStatements_timeRange h r hr,
    List.filter_eq_self.mpr fun r hr => by simpa using (mem_entryRows hr).1, List.nil_append]
  exact entryRows_entry _ _ _ ((h.recordStatements _).transparency_lt) _

theorem rebuild_objectValues (h : Inv w.db)
    (hpre : inserting = false → Loaded w.db o w.resourceID) :
    (rebuild ctx o c l inserting w).db.objectValues (rebuild ctx o c l inserting w).resourceID =
      some (recordValues ctx o c l) := by
  rw [rebuild_db, rebuild_resourceID]
  cases inserting with
  | true =>
    have hnone : w.db.calendarObject.find? (·.resourceId == w.db.resourceIdSeq) = none :=
      List.find?_eq_none.mpr fun r hr => by simpa using Nat.ne_of_lt (h.resourceId_lt r hr)
    simp [Database.objectValues, recordStatements, insertStatement, Database.apply, hnone,
      CalendarObjectRow.values, recordValues]
  | false =>
    obtain ⟨r, hr, h₁, -, h₃⟩ := hpre rfl
    have hp : ((·.resourceId == w.resourceID) ∘ fun r : CalendarObjectRow =>
        if r.resourceId = w.resourceID then
          { r with icalendarText := c.text, icalendarUid := c.resourceUID,
                   icalendarType := c.resourceType, attachmentsMode := ctx.attachmentsModeWrite,
                   organizer := c.getOrganizer.getD "",
                   recurranceMax := l.limit.map normalizeForIndex, modified := w.db.now }
        else r) = (·.resourceId == w.resourceID) := by
      funext x
      simp only [Function.comp]
      split <;> rfl
    simp only [Database.objectValues, recordStatements, Bool.false_eq_true, if_false,
      List.foldl_cons, List.foldl_nil, Database.apply, List.find?_map, hp]
    rw [← h₁, h.find?_resourceId hr]
    simp [CalendarObjectRow.values, recordValues, h₃]

theorem recordStatements_instanceIdSeq (rid : Nat) :
    ((recordStatements ctx o c l inserting rid).foldl Database.apply w.db).instanceIdSeq =
      w.db.instanceIdSeq := by
  cases inserting <;> rfl

theorem rebuild_drops_instances (h : Inv w.db) {r : TimeRangeRow} (hr : r ∈ w.db.timeRange)
    (ho : r.calendarObjectResourceId = (rebuild ctx o c l inserting w).resourceID) :
    (rebuild ctx o c l inserting w).db.hasInstance r.instanceId = false ∧
      ∀ t ∈ (rebuild ctx o c l inserting w).db.transparency,
        t.timeRangeInstanceId ≠ r.instanceId := by
  rw [rebuild_resourceID] at ho
  have hlt := h.instanceId_lt r hr
  have hnew : ∀ k, k ∈ (entryRows o.calendarResourceId (if inserting then w.db.resourceIdSeq
      else w.resourceID) w.db.instanceIdSeq (indexEntries c l)).map (·.instanceId) →
        k ≠ r.instanceId := by
    intro k hk
    rw [entryRows_instanceIds] at hk
    have := (List.mem_range'_1.mp hk).1
    omega
  cases inserting with
  | true =>
    obtain ⟨o', ho', h₁, -⟩ := h.timeRange_object r hr
    have := h.resourceId_lt o' ho'
    simp only [if_true] at ho
    omega
  | false =>
    simp only [Bool.false_eq_true, if_false] at ho
    rw [rebuild_db]
    simp only [recordStatements, Bool.false_eq_true, if_false, List.foldl_cons, List.foldl_nil,
      Database.apply] at hnew ⊢
    constructor
    · rw [Bool.eq_false_iff]
      intro hi
      obtain ⟨r', hr', he⟩ := (Database.hasInstance_iff _ _).mp hi
      rcases List.mem_append.mp hr' with hr' | hr'
      · obtain ⟨hr', hne⟩ := List.mem_filter.mp hr'
        have := List.inj_on_of_nodup_map h.instanceId_nodup hr' hr he
        subst this
        simp [ho] at hne
      · exact hnew _ (List.mem_map_of_mem _ hr') he
    · intro t ht
      rcases List.mem_append.mp ht with ht | ht
      · intro he
        have := (List.mem_filter.mp ht).2
        simp only [Bool.not_eq_true', List.any_eq_false, Bool.and_eq_true, beq_iff_eq,
          not_and] at this
        exact this r hr ho he.symm
      · intro he
        obtain ⟨r', hr', he'⟩ := mem_entryTransparency ht o.calendarResourceId w.resourceID
        exact hnew _ (List.mem_map_of_mem _ hr') (he'.trans he)

theorem filter_map_of_fixed {α : Type} {f : α → α} {p : α → Bool} (hp : ∀ x, p (f x) = p x)
    (hf : ∀ x, p x = true → f x = x) (xs : List α) : (xs.map f).filter p = xs.filter p := by
  induction xs with
  | nil => rfl
  | cons x xs ih =>
    cases h : p x
    · simp [List.filter_cons, hp, h, ih]
    · simp [List.filter_cons, hp, h, ih, hf x h]

theorem recordStatements_others (h : Inv w.db) :
    let rid := if inserting then w.db.resourceIdSeq else w.resourceID
    let db := (recordStatements ctx o c l inserting w.resourceID).foldl Database.apply w.db
    let others := w.db.timeRange.filter (·.calendarObjectResourceId != rid)
    db.calendarObject.filter (·.resourceId != rid) =
        w.db.calendarObject.filter (·.resourceId != rid) ∧
      db.timeRange.filter (·.calendarObjectResourceId != rid) = others ∧
      db.transparency.filter (fun t => others.any (·.instanceId == t.timeRangeInstanceId)) =
        w.db.transparency.filter (fun t => others.any (·.instanceId == t.timeRangeInstanceId)) ∧
      db.attachment = w.db.attachment := by
  intro rid db others
  cases inserting with
  | true => exact ⟨by simp [db, rid, recordStatements, insertStatement, Database.apply], rfl, rfl, rfl⟩
  | false =>
    simp only [db, rid, others, recordStatements, Bool.false_eq_true, if_false, List.foldl_cons,
      List.foldl_nil, Database.apply, List.filter_filter, Bool.and_self]
    refine ⟨filter_map_of_fixed (fun x => by split <;> rfl)
      (fun x hx => if_neg (by simpa using hx)) _, trivial, List.filter_congr fun t _ => ?_, trivial⟩
    cases hp : (w.db.timeRange.filter (·.calendarObjectResourceId != w.resourceID)).any
      (·.instanceId == t.timeRangeInstanceId)
    · simp
    · obtain ⟨r', hr', he'⟩ := List.any_eq_true.mp hp
      obtain ⟨hr', hne⟩ := List.mem_filter.mp hr'
      simp only [Bool.true_and, Bool.not_eq_true', List.any_eq_false, Bool.and_eq_true,
        beq_iff_eq, not_and]
      intro r hr hrid he
      have := List.inj_on_of_nodup_map h.instanceId_nodup hr hr'
        (he.trans (by simpa using he' : r'.instanceId = t.timeRangeInstanceId).symm)
      subst this
      simp [hrid] at hne

theorem rebuild_others (h : Inv w.db) :
    let rid := (rebuild ctx o c l inserting w).resourceID
    let db' := (rebuild ctx o c l inserting w).db
    let others := w.db.timeRange.filter (·.calendarObjectResourceId != rid)
    db'.calendarObject.filter (·.resourceId != rid) =
        w.db.calendarObject.filter (·.resourceId != rid) ∧
      db'.timeRange.filter (·.calendarObjectResourceId != rid) = others ∧
      db'.transparency.filter (fun t => others.any (·.instanceId == t.timeRangeInstanceId)) =
        w.db.transparency.filter (fun t => others.any (·.instanceId == t.timeRangeInstanceId)) ∧
      db'.attachment = w.db.attachment := by
  intro rid db' others
  obtain ⟨h₁, h₂, h₃, h₄⟩ := @recordStatements_others ctx o c l inserting w h
  have hrid : rid = if inserting then w.db.resourceIdSeq else w.resourceID := rebuild_resourceID
  let db₁ := (recordStatements ctx o c l inserting w.resourceID).foldl Database.apply w.db
  let es := indexEntries c l
  have hR : (entryRows o.calendarResourceId rid db₁.instanceIdSeq es).filter
      (·.calendarObjectResourceId != rid) = [] :=
    List.filter_eq_nil_iff.mpr fun r hr => by simpa using (mem_entryRows hr).1
  have hT : (entryTransparency db₁.instanceIdSeq es).filter
      (fun t => others.any (·.instanceId == t.timeRangeInstanceId)) = [] := by
    refine List.filter_eq_nil_iff.mpr fun t ht => ?_
    have hle := le_of_mem_entryTransparency ht
    rw [recordStatements_instanceIdSeq] at hle
    simp only [others, List.any_eq_true, beq_iff_eq, not_exists, not_and, Bool.not_eq_true]
    intro r hr he
    have := h.instanceId_lt r (List.mem_filter.mp hr).1
    omega
  simp only [db', rebuild_db, ← hrid] at h₁ h₂ h₃ h₄ ⊢
  exact ⟨h₁, by rw [List.filter_append, h₂, hR, List.append_nil],
    by rw [List.filter_append, h₃, hT, List.append_nil], h₄⟩

end Rebuild

theorem updateDatabase_agrees_with_insert {db db₀ : Database} (hdb : Reachable db)
    (hdb₀ : Reachable db₀) (ctx : Context) (o : CalendarObject) (c : Component)
    (expandUntil : Option Date) (reCreate inserting : Bool) {w w' w₀ w₀' : World}
    (hw : w.db = db) (hw₀ : w₀.db = db₀) (hpre : inserting = false → Loaded db o w.resourceID)
    (hok : updateDatabase ctx o c expandUntil reCreate inserting w = .ok () w')
    (hok₀ : updateDatabase ctx o c expandUntil reCreate true w₀ = .ok () w₀') :
    let rid := w'.resourceID
    let others := db.timeRange.filter (·.calendarObjectResourceId != rid)
    w'.db.objectValues rid = w₀'.db.objectValues w₀'.resourceID ∧
      w'.db.index rid = w₀'.db.index w₀'.resourceID ∧
      (∀ r ∈ db.timeRange, r.calendarObjectResourceId = rid →
        w'.db.hasInstance r.instanceId = false ∧
          ∀ t ∈ w'.db.transparency, t.timeRangeInstanceId ≠ r.instanceId) ∧
      w'.db.calendarObject.filter (·.resourceId != rid) =
        db.calendarObject.filter (·.resourceId != rid) ∧
      w'.db.timeRange.filter (·.calendarObjectResourceId != rid) = others ∧
      w'.db.transparency.filter (fun t => others.any (·.instanceId == t.timeRangeInstanceId)) =
        db.transparency.filter (fun t => others.any (·.instanceId == t.timeRangeInstanceId)) ∧
      w'.db.attachment = db.attachment := by
  subst hw hw₀
  obtain ⟨e, l, he, hl, rfl⟩ := updateDatabase_ok (fun hi => (hpre hi).hasObject) hok
  obtain ⟨e₀, l₀, he₀, hl₀, rfl⟩ := updateDatabase_ok (fun hi => absurd hi (by decide)) hok₀
  cases he.symm.trans he₀
  cases hl.symm.trans hl₀
  have h : Inv (World.db { w with events := w.events ++ expansionLog o c e reCreate }) := hdb.inv
  have h₀ : Inv (World.db { w₀ with events := w₀.events ++ expansionLog o c e reCreate }) :=
    hdb₀.inv
  exact ⟨(rebuild_objectValues h hpre).trans (rebuild_objectValues h₀ (nofun : true = false → _)).symm,
    (rebuild_index h).trans (rebuild_index h₀).symm, fun _ hr ho => rebuild_drops_instances h hr ho,
    rebuild_others h⟩

theorem updateDatabase_agrees_with_insert_one_event :
    let ctx : Context := ⟨⟨19723⟩, false, 1⟩
    let o : CalendarObject := ⟨"event.ics", 1, "calendar"⟩
    let i : Instance := ⟨DateTime.utc 2024 1 1 10 0 0, DateTime.utc 2024 1 1 10 0 0,
      DateTime.utc 2024 1 1 11 0 0, ⟨none, "BUSY"⟩⟩
    let c := Component.ofInstances false false [i] (by decide)
    let w₀ : World := ⟨⟨[1], [], [], [], [], 0, 0, ⟨2024, 1, 1, 0, 0, 0, 0⟩⟩, [], 0, none⟩
    let w₁ := rebuild ctx o c ⟨[i], none⟩ true w₀
    let w₂ := rebuild ctx o c ⟨[i], none⟩ false ⟨w₁.db, [], 0, none⟩
    w₂.db.objectValues w₂.resourceID = w₁.db.objectValues w₁.resourceID ∧
      w₂.db.index w₂.resourceID = w₁.db.index w₁.resourceID := by
  intro ctx o i c w₀ w₁ w₂
  have h := updateDatabase_agrees_with_insert (.insert ctx o c none false [] 0 none (.empty [1] 0 0 _) rfl)
    (.empty [1] 0 0 _) ctx o c none false false (rfl : World.db ⟨w₁.db, [], 0, none⟩ = w₁.db)
    (rfl : World.db w₀ = _) (fun _ => ⟨_, .head _, rfl, rfl, rfl⟩)
    (rfl : updateDatabase ctx o c none false false ⟨w₁.db, [], 0, none⟩ = .ok () w₂)
    (rfl : updateDatabase ctx o c none false true w₀ = .ok () w₁)
  exact ⟨h.1, h.2.1⟩

end CaldavDatastore
