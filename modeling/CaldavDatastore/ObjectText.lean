import CaldavDatastore.Failure
import CaldavDatastore.Rebuild

namespace CaldavDatastore

theorem Database.apply_updateCalendarObject_of_not_hasObject {db : Database} {rid : Nat}
    (h : db.hasObject rid = false) (text uid type : String) (mode : Nat) (organizer : String)
    (rmax : Option DateTime) :
    db.apply (.updateCalendarObject text uid type mode organizer rmax rid) = db := by
  have hkeep : ∀ r ∈ db.calendarObject, r.resourceId ≠ rid := fun r hr he =>
    absurd ((Database.hasObject_iff _ _).mpr ⟨r, hr, he⟩) (by simp [h])
  simp only [Database.apply]
  rw [List.map_congr_left fun r hr => if_neg (hkeep r hr), List.map_id']

theorem Inv.apply_deleteTimeRange_of_not_hasObject {db : Database} (h : Inv db) {rid : Nat}
    (ho : db.hasObject rid = false) : db.apply (.deleteTimeRange rid) = db := by
  have hnone : ∀ r ∈ db.timeRange, r.calendarObjectResourceId ≠ rid := fun r hr he => by
    obtain ⟨o, ho', h₁, -⟩ := h.timeRange_object r hr
    exact absurd ((Database.hasObject_iff _ _).mpr ⟨o, ho', h₁.trans he⟩) (by simp [ho])
  have hT : db.timeRange.filter (·.calendarObjectResourceId != rid) = db.timeRange :=
    List.filter_eq_self.mpr fun r hr => by simpa using hnone r hr
  have hP : db.transparency.filter (fun t => !db.timeRange.any fun r =>
      r.calendarObjectResourceId == rid && r.instanceId == t.timeRangeInstanceId) =
        db.transparency :=
    List.filter_eq_self.mpr fun t _ => by simpa using fun r hr he => absurd he (hnone r hr)
  simp only [Database.apply, hT, hP]

theorem Database.violation_insertTimeRange_of_not_hasObject {db : Database} {rid : Nat}
    (h : db.hasObject rid = false) (cal : Nat) (fl : Bool) (start stop : DateTime)
    (fbtype : Nat) (tr : Bool) :
    db.violation (.insertTimeRange cal rid fl start stop fbtype tr) =
      some (.foreignKeyViolation "TIME_RANGE.CALENDAR_OBJECT_RESOURCE_ID") := by
  simp [Database.violation, h]

theorem indexAll_of_not_hasObject (o : CalendarObject) (c : Component) (l : InstanceList)
    {w : World} (h : w.db.hasObject w.resourceID = false) :
    (indexEntries c l = [] ∧
        (indexInstances o c l.instances >>= fun _ => indexUnbounded o c) w = .ok () w) ∨
      ∃ s, indexEntries c l ≠ [] ∧
        (indexInstances o c l.instances >>= fun _ => indexUnbounded o c) w =
          .error (.sql (.foreignKeyViolation "TIME_RANGE.CALENDAR_OBJECT_RESOURCE_ID"))
            { w with events := w.events ++ [.execSQL s] } := by
  have hfk := Database.violation_insertTimeRange_of_not_hasObject h
  cases hl : l.instances with
  | cons i is =>
    exact .inr ⟨_, by simp [indexEntries, hl], bind_of_error (by
      simp only [indexInstances]
      rw [bind_of_ok get_run, bind_of_error (execSQL_error (hfk ..) rfl)])⟩
  | nil =>
    rw [bind_of_ok (rfl : indexInstances o c [] w = .ok () w)]
    unfold indexUnbounded
    split
    · exact .inr ⟨_, by simp [indexEntries, hl, *], by
        rw [bind_of_ok get_run, bind_of_error (execSQL_error (hfk ..) rfl)]⟩
    · exact .inl ⟨by simp [indexEntries, hl, *], rfl⟩

theorem recordAndIndex_eq_error {ctx : Context} {o : CalendarObject} {c : Component}
    {l : InstanceList} {inserting : Bool} {w w' : World} {err : UpdateError}
    (h : recordAndIndex ctx o c l inserting w = .error err w') :
    w'.objectText = some c.text ∧ w'.resourceID = w.resourceID ∧
      ((inserting = true ∧ ∃ e, w.db.violation (insertStatement ctx o c l) = some e ∧
          err = .sql e ∧ w'.db = w.db) ∨
        (inserting = false ∧ w.db.hasObject w.resourceID = false ∧ indexEntries c l ≠ [] ∧
          err = .sql (.foreignKeyViolation "TIME_RANGE.CALENDAR_OBJECT_RESOURCE_ID") ∧
          w'.db = (recordStatements ctx o c l false w.resourceID).foldl Database.apply w.db)) := by
  cases inserting with
  | true =>
    unfold recordAndIndex at h
    cases hv : w.db.violation (insertStatement ctx o c l) with
    | some e => rw [hv] at h; cases h; exact ⟨rfl, rfl, .inl ⟨rfl, e, rfl, rfl, rfl⟩⟩
    | none =>
      rw [hv] at h
      rw [indexAll_ok o c l (by simpa [recorded, recordStatements, World.exec] using
        Database.hasObject_insertCalendarObject ..)] at h
      cases h
  | false =>
    unfold recordAndIndex at h
    have hrec : (recorded ctx o c l false w).db.hasObject (recorded ctx o c l false w).resourceID =
        w.db.hasObject w.resourceID := by
      simp [recorded, recordStatements, World.exec, Database.hasObject_deleteTimeRange,
        Database.hasObject_updateCalendarObject]
    cases ho : w.db.hasObject w.resourceID with
    | true => rw [indexAll_ok o c l (hrec.trans ho)] at h; cases h
    | false =>
      rcases indexAll_of_not_hasObject o c l (hrec.trans ho) with ⟨-, h'⟩ | ⟨s, hne, h'⟩ <;>
        rw [h'] at h <;> cases h
      exact ⟨rfl, rfl, .inr ⟨rfl, rfl, hne, rfl, by simp [recorded, World.execAll_db]⟩⟩

theorem recorded_false_hasObject (ctx : Context) (o : CalendarObject) (c : Component)
    (l : InstanceList) (w : World) :
    (recorded ctx o c l false w).db.hasObject (recorded ctx o c l false w).resourceID =
      w.db.hasObject w.resourceID := by
  simp [recorded, recordStatements, World.exec, Database.hasObject_deleteTimeRange,
    Database.hasObject_updateCalendarObject]

theorem Database.violation_insertCalendarObject_eq_some {db : Database} {cal : Nat}
    {name text uid type : String} {mode : Nat} {organizer : String} {rmax : Option DateTime}
    {e : SqlError} :
    db.violation (.insertCalendarObject cal name text uid type mode organizer rmax) = some e ↔
      ((∃ r ∈ db.calendarObject, r.calendarResourceId = cal ∧ r.resourceName = name) ∧
          e = .uniqueViolation "CALENDAR_OBJECT(CALENDAR_RESOURCE_ID, RESOURCE_NAME)") ∨
        ((∀ r ∈ db.calendarObject, r.calendarResourceId = cal → r.resourceName ≠ name) ∧
          cal ∉ db.calendar ∧ e = .foreignKeyViolation "CALENDAR_OBJECT.CALENDAR_RESOURCE_ID") := by
  simp only [Database.violation, List.any_eq_true, Bool.and_eq_true, beq_iff_eq]
  split
  · simp_all [eq_comm]
  · split <;> simp_all [eq_comm]

theorem updateDatabase_error_of_inv {ctx : Context} {o : CalendarObject} {c : Component}
    {expandUntil : Option Date} {reCreate inserting : Bool} {w w' : World} {err : UpdateError}
    (h : updateDatabase ctx o c expandUntil reCreate inserting w = .error err w')
    (hinv : Inv w.db) :
    w'.db = w.db ∧ w'.resourceID = w.resourceID ∧
      ∀ e, err = .sql e → w'.objectText = some c.text := by
  rw [updateDatabase_eq, updateResult] at h
  split at h
  · rename_i herr
    cases h
    refine ⟨rfl, rfl, fun e he => ?_⟩
    cases (expansionHorizon_eq_error.mp (he ▸ herr)).1
  · split at h
    · cases h
      exact ⟨rfl, rfl, fun e he => by cases he⟩
    · obtain ⟨htext, hrid, hcases⟩ := recordAndIndex_eq_error h
      refine ⟨?_, hrid, fun _ _ => htext⟩
      rcases hcases with ⟨-, e, -, -, hdb'⟩ | ⟨-, ho, -, -, hdb'⟩
      · exact hdb'
      · rw [hdb']
        simp only [recordStatements, Bool.false_eq_true, if_false, List.foldl_cons, List.foldl_nil]
        rw [Database.apply_updateCalendarObject_of_not_hasObject ho,
          hinv.apply_deleteTimeRange_of_not_hasObject ho]

theorem updateDatabase_error_keeps_tables {ctx : Context} {o : CalendarObject} {c : Component}
    {expandUntil : Option Date} {reCreate inserting : Bool} {w w' : World} {err : UpdateError}
    (hdb : Reachable w.db)
    (h : updateDatabase ctx o c expandUntil reCreate inserting w = .error err w') :
    w'.db = w.db ∧ w'.resourceID = w.resourceID ∧
      ∀ e, err = .sql e → w'.objectText = some c.text :=
  updateDatabase_error_of_inv h hdb.inv

theorem updateDatabase_error_keeps_tables_taken_name :
    let ctx : Context := ⟨⟨19723⟩, false, 1⟩
    let o : CalendarObject := ⟨"event.ics", 1, "calendar"⟩
    let c := Component.ofInstances false false [] nofun
    ∃ w w' : World, Reachable w.db ∧
      updateDatabase ctx o c none false true w = .error
        (.sql (.uniqueViolation "CALENDAR_OBJECT(CALENDAR_RESOURCE_ID, RESOURCE_NAME)")) w' ∧
      (w'.db = w.db ∧ w'.resourceID = w.resourceID ∧
        ∀ e, UpdateError.sql (.uniqueViolation "CALENDAR_OBJECT(CALENDAR_RESOURCE_ID, RESOURCE_NAME)") =
          .sql e → w'.objectText = some c.text) := by
  intro ctx o c
  have hR := Reachable.insert ctx o c none false [] 0 none (.empty [1] 0 0 ⟨2024, 1, 1, 0, 0, 0, 0⟩) rfl
  exact ⟨_, _, hR, rfl, @updateDatabase_error_keeps_tables ctx o c none false true _ _ _ hR rfl⟩

theorem updateDatabase_sql_error_iff (ctx : Context) (o : CalendarObject) (c : Component)
    (expandUntil : Option Date) (reCreate inserting : Bool) (w : World) (e : SqlError) :
    (∃ w', updateDatabase ctx o c expandUntil reCreate inserting w = .error (.sql e) w') ↔
      ∃ h l, expansionHorizon ctx c expandUntil = .ok h ∧ expansionResult ctx c h reCreate = .ok l ∧
        ((inserting = true ∧
            (∃ r ∈ w.db.calendarObject,
              r.calendarResourceId = o.calendarResourceId ∧ r.resourceName = o.name) ∧
            e = .uniqueViolation "CALENDAR_OBJECT(CALENDAR_RESOURCE_ID, RESOURCE_NAME)") ∨
          (inserting = true ∧
            (∀ r ∈ w.db.calendarObject,
              r.calendarResourceId = o.calendarResourceId → r.resourceName ≠ o.name) ∧
            o.calendarResourceId ∉ w.db.calendar ∧
            e = .foreignKeyViolation "CALENDAR_OBJECT.CALENDAR_RESOURCE_ID") ∨
          (inserting = false ∧ w.db.hasObject w.resourceID = false ∧ indexEntries c l ≠ [] ∧
            e = .foreignKeyViolation "TIME_RANGE.CALENDAR_OBJECT_RESOURCE_ID")) := by
  constructor
  · rintro ⟨w', h⟩
    rw [updateDatabase_eq, updateResult] at h
    split at h
    · rename_i herr
      cases h
      cases (expansionHorizon_eq_error.mp herr).1
    · rename_i hh hhor
      split at h
      · cases h
      · rename_i l hl
        obtain ⟨-, -, hcases⟩ := recordAndIndex_eq_error h
        refine ⟨hh, l, hhor, hl, ?_⟩
        rcases hcases with ⟨hi, e', hv, he, -⟩ | ⟨hi, ho, hne, he, -⟩
        · cases he
          rcases Database.violation_insertCalendarObject_eq_some.mp hv with hdup | hfk
          · exact .inl ⟨hi, hdup⟩
          · exact .inr (.inl ⟨hi, hfk⟩)
        · cases he
          exact .inr (.inr ⟨hi, ho, hne, rfl⟩)
  · rintro ⟨hh, l, hhor, hl, hcase⟩
    rw [updateDatabase_eq, updateResult, hhor]
    simp only [hl]
    unfold recordAndIndex
    have hv := @Database.violation_insertCalendarObject_eq_some w.db o.calendarResourceId o.name
      c.text c.resourceUID c.resourceType ctx.attachmentsModeWrite (c.getOrganizer.getD "")
      (l.limit.map normalizeForIndex) e
    rcases hcase with ⟨rfl, hdup⟩ | ⟨rfl, hfk⟩ | ⟨rfl, ho, hne, rfl⟩
    · exact ⟨_, by dsimp only [insertStatement]; rw [hv.mpr (.inl hdup)]⟩
    · exact ⟨_, by dsimp only [insertStatement]; rw [hv.mpr (.inr hfk)]⟩
    · rcases indexAll_of_not_hasObject o c l ((recorded_false_hasObject ctx o c l
        { w with events := w.events ++ expansionLog o c hh reCreate }).trans ho) with
        ⟨hnil, -⟩ | ⟨s, -, h'⟩
      · exact absurd hnil hne
      · exact ⟨_, h'⟩

inductive TextError
  | indexError
  deriving DecidableEq, Repr

def Database.selectText (db : Database) (rid : Nat) : List String :=
  (db.calendarObject.filter (·.resourceId == rid)).map (·.icalendarText)

def text : EStateM TextError World String := fun w =>
  match w.objectText with
  | some t => .ok t w
  | none =>
    match w.db.selectText w.resourceID with
    | t :: _ => .ok t { w with objectText := some t }
    | [] => .error .indexError w

theorem Database.head?_selectText (db : Database) (rid : Nat) :
    (db.selectText rid).head? = (db.objectValues rid).map (·.icalendarText) := by
  simp [Database.selectText, Database.objectValues]
  rfl

def TextCoherent (w : World) : Prop :=
  ∀ t, w.objectText = some t → (w.db.objectValues w.resourceID).map (·.icalendarText) = some t

theorem text_of_coherent {w : World} (h : TextCoherent w) :
    text w = match w.db.objectValues w.resourceID with
      | some v => .ok v.icalendarText { w with objectText := some v.icalendarText }
      | none => .error .indexError w := by
  have hsel := Database.head?_selectText w.db w.resourceID
  cases ho : w.objectText with
  | some t =>
    obtain ⟨v, hv, rfl⟩ := Option.map_eq_some'.mp (h t ho)
    have hw : w = { w with objectText := some v.icalendarText } := by cases w; cases ho; rfl
    simp only [text, ho, hv]
    exact congrArg _ hw
  | none =>
    have hw : w = { w with objectText := none } := by cases w; cases ho; rfl
    simp only [text, ho]
    cases hs : w.db.selectText w.resourceID with
    | nil =>
      rw [hs, List.head?_nil, eq_comm, Option.map_eq_none'] at hsel
      rw [hsel]
    | cons t rest =>
      rw [hs, List.head?_cons, eq_comm] at hsel
      obtain ⟨v, hv, rfl⟩ := Option.map_eq_some'.mp hsel
      rw [hv]

theorem text_eq_uncached {w : World} (h : TextCoherent w) :
    text w = text { w with objectText := none } := by
  rw [text_of_coherent h, text_of_coherent fun _ h => Option.noConfusion h]
  cases hv : w.db.objectValues w.resourceID with
  | some v => rfl
  | none =>
    have ho : w.objectText = none := by
      cases ho : w.objectText with
      | none => rfl
      | some t => simpa [hv] using h t ho
    cases w
    cases ho
    rfl

theorem text_coherent {w w' : World} {t : String} (h : TextCoherent w)
    (hr : text w = .ok t w') : TextCoherent w' := by
  unfold text at hr
  cases ho : w.objectText with
  | some t₀ => rw [ho] at hr; cases hr; exact h
  | none =>
    rw [ho] at hr
    cases hsel : w.db.selectText w.resourceID with
    | nil => rw [hsel] at hr; cases hr
    | cons t₁ rest =>
      rw [hsel] at hr
      cases hr
      rintro _ ⟨⟩
      rw [← Database.head?_selectText, hsel]
      rfl

theorem updateDatabase_coherent {ctx : Context} {o : CalendarObject} {c : Component}
    {expandUntil : Option Date} {reCreate inserting : Bool} {w w' : World}
    (hdb : Reachable w.db) (hpre : inserting = false → Loaded w.db o w.resourceID)
    (hok : updateDatabase ctx o c expandUntil reCreate inserting w = .ok () w') :
    TextCoherent w' := by
  obtain ⟨e, l, -, -, rfl⟩ := updateDatabase_ok (fun hi => (hpre hi).hasObject) hok
  intro t ht
  rw [@rebuild_objectValues ctx o c l inserting
    { w with events := w.events ++ expansionLog o c e reCreate } hdb.inv hpre]
  simpa [rebuild, recorded] using ht

theorem Database.objectValues_of_filter {db db' : Database} {rid rid' : Nat} (hne : rid ≠ rid')
    (h : db'.calendarObject.filter (·.resourceId != rid') =
      db.calendarObject.filter (·.resourceId != rid')) :
    db'.objectValues rid = db.objectValues rid := by
  have key : ∀ l : List CalendarObjectRow, l.find? (·.resourceId == rid) =
      (l.filter (·.resourceId != rid')).find? (·.resourceId == rid) := by
    intro l
    rw [List.find?_filter]
    congr 1
    funext a
    by_cases ha : a.resourceId = rid <;> simp [ha, hne]
  simp only [Database.objectValues, key db'.calendarObject, key db.calendarObject, h]

theorem TextCoherent.of_other {w w' : World} (h : TextCoherent w) (hdb : Reachable w.db)
    {ctx : Context} {o : CalendarObject} {c : Component} {expandUntil : Option Date}
    {reCreate inserting : Bool} {events : List Event} {rid : Nat} {objectText : Option String}
    (hpre : inserting = false → Loaded w.db o rid ∧ rid ≠ w.resourceID)
    (hok : updateDatabase ctx o c expandUntil reCreate inserting
      ⟨w.db, events, rid, objectText⟩ = .ok () w') :
    TextCoherent { w with db := w'.db } := by
  intro t ht
  have hrow := h t ht
  obtain ⟨e, l, -, -, rfl⟩ := updateDatabase_ok (fun hi => (hpre hi).1.hasObject) hok
  let w₀ : World := ⟨w.db, events ++ expansionLog o c e reCreate, rid, objectText⟩
  have hne : w.resourceID ≠ (rebuild ctx o c l inserting w₀).resourceID := by
    rw [rebuild_resourceID]
    cases inserting with
    | true =>
      obtain ⟨v, hv, -⟩ := Option.map_eq_some'.mp hrow
      obtain ⟨r, hr, -⟩ := Option.map_eq_some'.mp hv
      have hid : r.resourceId = w.resourceID := by simpa using List.find?_some hr
      have := hdb.inv.resourceId_lt r (List.mem_of_find?_eq_some hr)
      simp only [if_true]
      omega
    | false => exact ((hpre rfl).2).symm
  rw [← hrow]
  exact congrArg _
    (Database.objectValues_of_filter hne (@rebuild_others ctx o c l inserting w₀ hdb.inv).1)

/-- Runs of one `CalendarObject` handle, from a reachable store with `_objectText` unset: its
own successful calls, its reads of the text, other handles' successful calls on other
objects, and the clock moving between transactions. -/
inductive TextRun : World → Prop
  | load {db : Database} (events : List Event) (rid : Nat) (h : Reachable db) :
      TextRun ⟨db, events, rid, none⟩
  | update {w w' : World} (ctx : Context) (o : CalendarObject) (c : Component)
      (expandUntil : Option Date) (reCreate inserting : Bool) (h : TextRun w)
      (hpre : inserting = false → Loaded w.db o w.resourceID)
      (hok : updateDatabase ctx o c expandUntil reCreate inserting w = .ok () w') : TextRun w'
  | read {w w' : World} {t : String} (h : TextRun w) (hr : text w = .ok t w') : TextRun w'
  | other {w w' : World} (ctx : Context) (o : CalendarObject) (c : Component)
      (expandUntil : Option Date) (reCreate inserting : Bool) (events : List Event) (rid : Nat)
      (objectText : Option String) (h : TextRun w)
      (hpre : inserting = false → Loaded w.db o rid ∧ rid ≠ w.resourceID)
      (hok : updateDatabase ctx o c expandUntil reCreate inserting
        ⟨w.db, events, rid, objectText⟩ = .ok () w') :
      TextRun { w with db := w'.db }
  | tick {w : World} (now : Timestamp) (h : TextRun w) :
      TextRun { w with db := { w.db with now := now } }

theorem text_db {w w' : World} {t : String} (h : text w = .ok t w') : w'.db = w.db := by
  unfold text at h
  split at h
  · cases h; rfl
  · split at h
    · cases h; rfl
    · cases h

theorem updateDatabase_reachable {ctx : Context} {o : CalendarObject} {c : Component}
    {expandUntil : Option Date} {reCreate inserting : Bool} {w w' : World}
    (hdb : Reachable w.db) (hpre : inserting = false → Loaded w.db o w.resourceID)
    (hok : updateDatabase ctx o c expandUntil reCreate inserting w = .ok () w') :
    Reachable w'.db := by
  cases inserting with
  | true => exact .insert ctx o c expandUntil reCreate w.events w.resourceID w.objectText hdb hok
  | false =>
    exact .update ctx o c expandUntil reCreate w.events w.resourceID w.objectText hdb (hpre rfl) hok

theorem TextRun.inv {w : World} (h : TextRun w) : Reachable w.db ∧ TextCoherent w := by
  induction h with
  | load _ _ h => exact ⟨h, fun _ h => Option.noConfusion h⟩
  | update _ _ _ _ _ _ _ hpre hok ih =>
    exact ⟨updateDatabase_reachable ih.1 hpre hok, updateDatabase_coherent ih.1 hpre hok⟩
  | read _ hr ih => exact ⟨text_db hr ▸ ih.1, text_coherent ih.2 hr⟩
  | @other w w' _ _ _ _ _ _ events rid objectText _ hpre hok ih =>
    exact ⟨@updateDatabase_reachable _ _ _ _ _ _ ⟨w.db, events, rid, objectText⟩ w' ih.1
      (fun hi => (hpre hi).1) hok,
      ih.2.of_other ih.1 hpre hok⟩
  | tick now _ ih => exact ⟨.tick now ih.1, ih.2⟩

theorem text_agrees_with_select {w : World} (h : TextRun w) :
    text w = text { w with objectText := none } ∧
      text w = match w.db.objectValues w.resourceID with
        | some v => .ok v.icalendarText { w with objectText := some v.icalendarText }
        | none => .error .indexError w :=
  ⟨text_eq_uncached h.inv.2, text_of_coherent h.inv.2⟩

theorem text_agrees_with_select_after_insert :
    ∃ w : World, TextRun w ∧ w.objectText = some "BEGIN:VCALENDAR" ∧
      (text w = text { w with objectText := none } ∧
        text w = match w.db.objectValues w.resourceID with
          | some v => .ok v.icalendarText { w with objectText := some v.icalendarText }
          | none => .error .indexError w) := by
  have hrun := TextRun.update ⟨⟨19723⟩, false, 1⟩ ⟨"event.ics", 1, "calendar"⟩
    (Component.ofInstances false false [] nofun) none false true
    (.load [] 0 (.empty [1] 0 0 ⟨2024, 1, 1, 0, 0, 0, 0⟩)) nofun rfl
  exact ⟨_, hrun, rfl, text_agrees_with_select hrun⟩

end CaldavDatastore
