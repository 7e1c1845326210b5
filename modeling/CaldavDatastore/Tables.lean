import CaldavDatastore.Time

namespace CaldavDatastore

structure CalendarObjectRow where
  resourceId : Nat
  calendarResourceId : Nat
  resourceName : String
  icalendarText : String
  icalendarUid : String
  icalendarType : String
  attachmentsMode : Nat
  organizer : String
  recurranceMax : Option DateTime
  created : Timestamp
  modified : Timestamp
  deriving DecidableEq, Repr

structure TimeRangeRow where
  instanceId : Nat
  calendarResourceId : Nat
  calendarObjectResourceId : Nat
  floating : Bool
  startDate : DateTime
  endDate : DateTime
  fbtype : Nat
  transparent : Bool
  deriving DecidableEq, Repr

structure TransparencyRow where
  timeRangeInstanceId : Nat
  userId : String
  transparent : Bool
  deriving DecidableEq, Repr

structure AttachmentRow where
  calendarObjectResourceId : Nat
  contentType : String
  size : Nat
  md5 : String
  path : String
  created : Timestamp
  modified : Timestamp
  deriving DecidableEq, Repr

-- `calendar` holds the `RESOURCE_ID`s of the `CALENDAR` table, which the code never writes.
structure Database where
  calendar : List Nat
  calendarObject : List CalendarObjectRow
  timeRange : List TimeRangeRow
  transparency : List TransparencyRow
  attachment : List AttachmentRow
  resourceIdSeq : Nat
  instanceIdSeq : Nat
  now : Timestamp
  deriving DecidableEq, Repr

inductive Statement
  | insertCalendarObject (calendarResourceId : Nat)
      (resourceName icalendarText icalendarUid icalendarType : String) (attachmentsMode : Nat)
      (organizer : String) (recurranceMax : Option DateTime)
  | updateCalendarObject (icalendarText icalendarUid icalendarType : String)
      (attachmentsMode : Nat) (organizer : String) (recurranceMax : Option DateTime)
      (resourceId : Nat)
  | deleteTimeRange (calendarObjectResourceId : Nat)
  | insertTimeRange (calendarResourceId calendarObjectResourceId : Nat) (floating : Bool)
      (startDate endDate : DateTime) (fbtype : Nat) (transparent : Bool)
  | insertTransparency (timeRangeInstanceId : Nat) (userId : String) (transparent : Bool)
  | insertAttachment (calendarObjectResourceId : Nat) (contentType : String) (size : Nat)
      (md5 path : String)
  | deleteAttachment (calendarObjectResourceId : Nat) (path : String)
  | updateAttachment (contentType : String) (size : Nat) (md5 path : String)
  deriving DecidableEq, Repr

inductive SqlError
  | uniqueViolation (constraint : String)
  | foreignKeyViolation (constraint : String)
  deriving DecidableEq, Repr

namespace Database

def hasObject (db : Database) (rid : Nat) : Bool :=
  db.calendarObject.any (·.resourceId == rid)

def hasInstance (db : Database) (iid : Nat) : Bool :=
  db.timeRange.any (·.instanceId == iid)

def violation (db : Database) : Statement → Option SqlError
  | .insertCalendarObject cal name .. =>
    if db.calendarObject.any (fun r => r.calendarResourceId == cal && r.resourceName == name) then
      some (.uniqueViolation "CALENDAR_OBJECT(CALENDAR_RESOURCE_ID, RESOURCE_NAME)")
    else if cal ∈ db.calendar then none
    else some (.foreignKeyViolation "CALENDAR_OBJECT.CALENDAR_RESOURCE_ID")
  | .insertTimeRange _ rid .. =>
    if db.hasObject rid then none
    else some (.foreignKeyViolation "TIME_RANGE.CALENDAR_OBJECT_RESOURCE_ID")
  | .insertTransparency iid .. =>
    if db.hasInstance iid then none
    else some (.foreignKeyViolation "TRANSPARENCY.TIME_RANGE_INSTANCE_ID")
  | .insertAttachment rid _ _ _ path =>
    if !db.hasObject rid then some (.foreignKeyViolation "ATTACHMENT.CALENDAR_OBJECT_RESOURCE_ID")
    else if db.attachment.any (·.path == path) then some (.uniqueViolation "ATTACHMENT.PATH")
    else none
  | _ => none

def apply (db : Database) : Statement → Database
  | .insertCalendarObject cal name text uid type mode organizer rmax =>
    { db with
      calendarObject := db.calendarObject ++
        [⟨db.resourceIdSeq, cal, name, text, uid, type, mode, organizer, rmax, db.now, db.now⟩]
      resourceIdSeq := db.resourceIdSeq + 1 }
  | .updateCalendarObject text uid type mode organizer rmax rid =>
    { db with
      calendarObject := db.calendarObject.map fun r =>
        if r.resourceId = rid then
          { r with icalendarText := text, icalendarUid := uid, icalendarType := type,
                   attachmentsMode := mode, organizer := organizer, recurranceMax := rmax,
                   modified := db.now }
        else r }
  | .deleteTimeRange rid =>
    { db with
      timeRange := db.timeRange.filter (·.calendarObjectResourceId != rid)
      transparency := db.transparency.filter fun t =>
        !db.timeRange.any fun r =>
          r.calendarObjectResourceId == rid && r.instanceId == t.timeRangeInstanceId }
  | .insertTimeRange cal rid floating start stop fbtype transparent =>
    { db with
      timeRange := db.timeRange ++
        [⟨db.instanceIdSeq, cal, rid, floating, start, stop, fbtype, transparent⟩]
      instanceIdSeq := db.instanceIdSeq + 1 }
  | .insertTransparency iid user transparent =>
    { db with transparency := db.transparency ++ [⟨iid, user, transparent⟩] }
  | .insertAttachment rid contentType size md5 path =>
    { db with attachment := db.attachment ++ [⟨rid, contentType, size, md5, path, db.now, db.now⟩] }
  | .deleteAttachment rid path =>
    { db with attachment := db.attachment.filter fun a =>
        !(a.calendarObjectResourceId == rid && a.path == path) }
  | .updateAttachment contentType size md5 path =>
    { db with attachment := db.attachment.map fun a =>
        if a.path = path then
          { a with contentType := contentType, size := size, md5 := md5, modified := db.now }
        else a }

def returning (db : Database) : Statement → Nat
  | .insertCalendarObject .. => db.resourceIdSeq
  | .insertTimeRange .. => db.instanceIdSeq
  | _ => 0

def exec (db : Database) (s : Statement) : Except SqlError (Nat × Database) :=
  match db.violation s with
  | some e => .error e
  | none => .ok (db.returning s, db.apply s)

theorem exec_ok {db : Database} {s : Statement} (h : db.violation s = none) :
    db.exec s = .ok (db.returning s, db.apply s) := by
  simp [exec, h]

theorem exec_eq_ok {db db' : Database} {st : Statement} {r : Nat}
    (h : db.exec st = .ok (r, db')) : db.violation st = none ∧ db' = db.apply st := by
  unfold exec at h
  split at h
  · cases h
  · cases h
    exact ⟨‹_›, rfl⟩

@[simp] theorem hasObject_iff (db : Database) (rid : Nat) :
    db.hasObject rid = true ↔ ∃ r ∈ db.calendarObject, r.resourceId = rid := by
  simp [hasObject]

@[simp] theorem hasInstance_iff (db : Database) (iid : Nat) :
    db.hasInstance iid = true ↔ ∃ r ∈ db.timeRange, r.instanceId = iid := by
  simp [hasInstance]

theorem violation_insertCalendarObject_eq_none {db : Database} {cal : Nat} {name : String}
    (hcal : cal ∈ db.calendar)
    (hfree : ∀ r ∈ db.calendarObject, r.calendarResourceId = cal → r.resourceName ≠ name)
    (text uid type : String) (mode : Nat) (organizer : String) (rmax : Option DateTime) :
    db.violation (.insertCalendarObject cal name text uid type mode organizer rmax) = none := by
  have hany : db.calendarObject.any
      (fun r => r.calendarResourceId == cal && r.resourceName == name) = false := by
    simpa using hfree
  simp [violation, hany, hcal]

theorem violation_insertTimeRange {db : Database} {rid : Nat} (h : db.hasObject rid = true)
    (cal : Nat) (fl : Bool) (start stop : DateTime) (fbtype : Nat) (tr : Bool) :
    db.violation (.insertTimeRange cal rid fl start stop fbtype tr) = none := by
  simp [violation, h]

theorem hasInstance_insertTimeRange (db : Database) (cal rid : Nat) (fl : Bool)
    (start stop : DateTime) (fbtype : Nat) (tr : Bool) :
    (db.apply (.insertTimeRange cal rid fl start stop fbtype tr)).hasInstance db.instanceIdSeq := by
  simp only [apply, hasInstance_iff, List.mem_append, List.mem_singleton]
  exact ⟨_, .inr rfl, rfl⟩

theorem hasObject_updateCalendarObject (db : Database) (text uid type : String) (mode : Nat)
    (organizer : String) (rmax : Option DateTime) (rid : Nat) :
    (db.apply (.updateCalendarObject text uid type mode organizer rmax rid)).hasObject =
      db.hasObject := by
  funext r
  simp only [apply, hasObject, List.any_map]
  congr 1
  funext x
  simp only [Function.comp]
  split <;> rfl

theorem hasObject_insertCalendarObject (db : Database) (cal : Nat) (name text uid type : String)
    (mode : Nat) (organizer : String) (rmax : Option DateTime) :
    (db.apply (.insertCalendarObject cal name text uid type mode organizer rmax)).hasObject
      db.resourceIdSeq := by
  simp only [apply, hasObject_iff, List.mem_append, List.mem_singleton]
  exact ⟨_, .inr rfl, rfl⟩

theorem hasObject_deleteTimeRange (db : Database) (rid : Nat) :
    (db.apply (.deleteTimeRange rid)).hasObject = db.hasObject := rfl

theorem apply_deleteAttachment_absent {db : Database} {rid : Nat} {path : String}
    (h : ∀ a ∈ db.attachment, a.calendarObjectResourceId = rid → a.path ≠ path) :
    db.apply (.deleteAttachment rid path) = db := by
  have hkeep : db.attachment.filter
      (fun a => !(a.calendarObjectResourceId == rid && a.path == path)) = db.attachment :=
    List.filter_eq_self.2 fun a ha => by simpa [imp_iff_not_or] using h a ha
  simp only [apply, hkeep]

end Database

end CaldavDatastore
