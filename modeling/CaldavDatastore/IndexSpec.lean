import CaldavDatastore.UpdateDatabase

namespace CaldavDatastore

section Monad

variable {ε σ α β : Type} {x : EStateM ε σ α} {f : α → EStateM ε σ β} {s s' : σ}

theorem bind_of_ok {a : α} (h : x s = .ok a s') : (x >>= f) s = f a s' := by
  show EStateM.bind x f s = _
  simp [EStateM.bind, h]

theorem bind_of_error {e : ε} (h : x s = .error e s') : (x >>= f) s = .error e s' := by
  show EStateM.bind x f s = _
  simp [EStateM.bind, h]

theorem pure_run (a : α) : (pure a : EStateM ε σ α) s = .ok a s := rfl

theorem get_run : (get : EStateM ε σ σ) s = .ok s s := rfl

theorem modify_run (g : σ → σ) : (modify g : EStateM ε σ PUnit) s = .ok ⟨⟩ (g s) := rfl

end Monad

def World.exec (w : World) (s : Statement) : World :=
  { w with db := w.db.apply s, events := w.events ++ [.execSQL s] }

def World.execAll (w : World) (ss : List Statement) : World := ss.foldl World.exec w

theorem execSQL_ok {db : Database} {s : Statement} (h : db.violation s = none) {w : World}
    (hw : w.db = db) : execSQL s w = .ok (db.returning s) (w.exec s) := by
  subst hw
  simp [execSQL, Database.exec, h, World.exec]

theorem execSQL_error {db : Database} {s : Statement} {err : SqlError}
    (h : db.violation s = some err) {w : World} (hw : w.db = db) :
    execSQL s w = .error (.sql err) { w with events := w.events ++ [.execSQL s] } := by
  subst hw
  simp [execSQL, Database.exec, h]

@[simp] theorem World.execAll_nil (w : World) : w.execAll [] = w := rfl

@[simp] theorem World.execAll_cons (w : World) (s : Statement) (ss : List Statement) :
    w.execAll (s :: ss) = (w.exec s).execAll ss := rfl

theorem World.execAll_append (w : World) (ss ts : List Statement) :
    w.execAll (ss ++ ts) = (w.execAll ss).execAll ts := List.foldl_append _ _ _ _

@[simp] theorem World.execAll_resourceID (w : World) (ss : List Statement) :
    (w.execAll ss).resourceID = w.resourceID := by
  induction ss generalizing w <;> simp_all [World.exec]

@[simp] theorem World.execAll_objectText (w : World) (ss : List Statement) :
    (w.execAll ss).objectText = w.objectText := by
  induction ss generalizing w <;> simp_all [World.exec]

@[simp] theorem World.execAll_events (w : World) (ss : List Statement) :
    (w.execAll ss).events = w.events ++ ss.map .execSQL := by
  induction ss generalizing w <;> simp_all [World.exec]

theorem World.execAll_db (w : World) (ss : List Statement) :
    (w.execAll ss).db = ss.foldl Database.apply w.db := by
  induction ss generalizing w <;> simp_all [World.exec]

structure IndexEntry where
  floating : Bool
  startDate : DateTime
  endDate : DateTime
  fbtype : Nat
  transparent : Bool
  perUser : List (String × Bool)
  deriving DecidableEq, Repr

def instanceEntry (c : Component) (i : Instance) : IndexEntry :=
  ⟨i.start.tzinfo.isNone, i.start.replaceTzinfoUtc, i.«end».replaceTzinfoUtc,
    indexFBType i.component.fbType, i.component.transp == some "TRANSPARENT",
    c.perUserTransparency (some i.rid)⟩

def sentinelEntry (c : Component) : IndexEntry :=
  ⟨false, DateTime.utc 2100 1 1 0 0 0, DateTime.utc 2100 1 1 1 0 0, indexFBType "UNKNOWN", true,
    c.perUserTransparency none⟩

def indexEntries (c : Component) (l : InstanceList) : List IndexEntry :=
  l.instances.map (instanceEntry c) ++ if c.isRecurringUnbounded then [sentinelEntry c] else []

def transparencyStatements (iid : Nat) (pu : List (String × Bool)) : List Statement :=
  pu.map fun p => .insertTransparency iid p.1 p.2

def entryStatements (cal rid : Nat) : Nat → List IndexEntry → List Statement
  | _, [] => []
  | n, e :: es =>
    .insertTimeRange cal rid e.floating e.startDate e.endDate e.fbtype e.transparent ::
      transparencyStatements n e.perUser ++ entryStatements cal rid (n + 1) es

theorem entryStatements_append (cal rid n : Nat) (es fs : List IndexEntry) :
    entryStatements cal rid n (es ++ fs) =
      entryStatements cal rid n es ++ entryStatements cal rid (n + es.length) fs := by
  induction es generalizing n with
  | nil => rfl
  | cons e es ih => simp [entryStatements, ih, Nat.add_assoc, Nat.add_comm 1]

theorem transparencyStatements_db (db : Database) (iid : Nat) (pu : List (String × Bool)) :
    (transparencyStatements iid pu).foldl Database.apply db =
      { db with transparency := db.transparency ++ pu.map fun p => ⟨iid, p.1, p.2⟩ } := by
  induction pu generalizing db with
  | nil => simp [transparencyStatements]
  | cons p pu ih => simp_all [transparencyStatements, Database.apply]

theorem insertPerUserTransparency_ok {w : World} {iid : Nat} (h : w.db.hasInstance iid = true)
    (pu : List (String × Bool)) :
    insertPerUserTransparency iid pu w = .ok () (w.execAll (transparencyStatements iid pu)) := by
  induction pu generalizing w with
  | nil => rfl
  | cons p pu ih =>
    have hv : w.db.violation (.insertTransparency iid p.1 p.2) = none := by
      simp [Database.violation, h]
    simp only [insertPerUserTransparency]
    rw [bind_of_ok (execSQL_ok hv rfl)]
    exact ih h

theorem indexInstances_ok (o : CalendarObject) (c : Component) {w : World}
    (h : w.db.hasObject w.resourceID = true) (is : List Instance) :
    indexInstances o c is w =
      .ok () (w.execAll (entryStatements o.calendarResourceId w.resourceID w.db.instanceIdSeq
        (is.map (instanceEntry c)))) := by
  induction is generalizing w with
  | nil => rfl
  | cons i is ih =>
    simp only [indexInstances]
    rw [bind_of_ok get_run,
      bind_of_ok (execSQL_ok (Database.violation_insertTimeRange h ..) rfl), Database.returning,
      bind_of_ok (insertPerUserTransparency_ok (Database.hasInstance_insertTimeRange ..) _)]
    rw [ih (by simpa [World.execAll_db, transparencyStatements_db, World.exec, Database.apply] using h)]
    simp [entryStatements, World.execAll_append, World.execAll_db, transparencyStatements_db,
      World.exec, Database.apply, instanceEntry]

theorem indexUnbounded_ok (o : CalendarObject) (c : Component) {w : World}
    (h : w.db.hasObject w.resourceID = true) :
    indexUnbounded o c w =
      .ok () (w.execAll (entryStatements o.calendarResourceId w.resourceID w.db.instanceIdSeq
        (if c.isRecurringUnbounded then [sentinelEntry c] else []))) := by
  unfold indexUnbounded
  split
  · rw [bind_of_ok get_run,
      bind_of_ok (execSQL_ok (Database.violation_insertTimeRange h ..) rfl), Database.returning,
      insertPerUserTransparency_ok (Database.hasInstance_insertTimeRange ..)]
    simp [entryStatements, World.execAll_append, sentinelEntry]
  · rfl

def expansionResult (ctx : Context) (c : Component) (e : Horizon) (reCreate : Bool) :
    Except InvalidOverriddenInstanceError InstanceList :=
  match c.expandTimeRanges e reCreate with
  | .ok l => .ok l
  | .error err => if ctx.migrating then c.expandTimeRanges e true else .error err

def expansionLog (o : CalendarObject) (c : Component) (e : Horizon) (reCreate : Bool) :
    List Event :=
  match c.expandTimeRanges e reCreate with
  | .ok _ => []
  | .error err => [.logError (invalidInstanceMessage err.rid o.name o.calendar)]

theorem expandInstances_eq (ctx : Context) (o : CalendarObject) (c : Component) (e : Horizon)
    (reCreate : Bool) (w : World) :
    expandInstances ctx o c e reCreate w =
      match expansionResult ctx c e reCreate with
      | .ok l => .ok l { w with events := w.events ++ expansionLog o c e reCreate }
      | .error err => .error (.invalidOverriddenInstance err)
          { w with events := w.events ++ expansionLog o c e reCreate } := by
  unfold expandInstances expansionResult expansionLog
  cases c.expandTimeRanges e reCreate with
  | ok l => simp only [List.append_nil]; rfl
  | error err =>
    cases ctx.migrating <;> cases c.expandTimeRanges e true <;> rfl

def entryRows (cal rid : Nat) : Nat → List IndexEntry → List TimeRangeRow
  | _, [] => []
  | n, e :: es =>
    ⟨n, cal, rid, e.floating, e.startDate, e.endDate, e.fbtype, e.transparent⟩ ::
      entryRows cal rid (n + 1) es

def entryTransparency : Nat → List IndexEntry → List TransparencyRow
  | _, [] => []
  | n, e :: es => e.perUser.map (fun p => ⟨n, p.1, p.2⟩) ++ entryTransparency (n + 1) es

theorem entryStatements_db (db : Database) (cal rid : Nat) (es : List IndexEntry) :
    (entryStatements cal rid db.instanceIdSeq es).foldl Database.apply db =
      { db with timeRange := db.timeRange ++ entryRows cal rid db.instanceIdSeq es
                transparency := db.transparency ++ entryTransparency db.instanceIdSeq es
                instanceIdSeq := db.instanceIdSeq + es.length } := by
  induction es generalizing db with
  | nil => simp [entryStatements, entryRows, entryTransparency]
  | cons e es ih =>
    simp only [entryStatements, List.foldl_cons, List.foldl_append]
    rw [transparencyStatements_db]
    simp only [Database.apply] at ih ⊢
    rw [ih]
    simp [entryRows, entryTransparency, Nat.add_assoc, Nat.add_comm 1]

def insertStatement (ctx : Context) (o : CalendarObject) (c : Component) (l : InstanceList) :
    Statement :=
  .insertCalendarObject o.calendarResourceId o.name c.text c.resourceUID c.resourceType
    ctx.attachmentsModeWrite (c.getOrganizer.getD "") (l.limit.map normalizeForIndex)

def recordStatements (ctx : Context) (o : CalendarObject) (c : Component) (l : InstanceList)
    (inserting : Bool) (rid : Nat) : List Statement :=
  if inserting then [insertStatement ctx o c l]
  else
    [.updateCalendarObject c.text c.resourceUID c.resourceType ctx.attachmentsModeWrite
      (c.getOrganizer.getD "") (l.limit.map normalizeForIndex) rid, .deleteTimeRange rid]

def recorded (ctx : Context) (o : CalendarObject) (c : Component) (l : InstanceList)
    (inserting : Bool) (w : World) : World :=
  { w with objectText := some c.text,
           resourceID := if inserting then w.db.resourceIdSeq else w.resourceID }.execAll
    (recordStatements ctx o c l inserting w.resourceID)

/-- What a successful `updateDatabase` leaves, from the world `w` its expansion left. -/
def rebuild (ctx : Context) (o : CalendarObject) (c : Component) (l : InstanceList)
    (inserting : Bool) (w : World) : World :=
  let rid := if inserting then w.db.resourceIdSeq else w.resourceID
  let w := recorded ctx o c l inserting w
  w.execAll (entryStatements o.calendarResourceId rid w.db.instanceIdSeq (indexEntries c l))

def recordAndIndex (ctx : Context) (o : CalendarObject) (c : Component) (l : InstanceList)
    (inserting : Bool) (w : World) : EStateM.Result UpdateError World Unit :=
  match inserting, w.db.violation (insertStatement ctx o c l) with
  | true, some err =>
    .error (.sql err) { w with objectText := some c.text,
                               events := w.events ++ [.execSQL (insertStatement ctx o c l)] }
  | _, _ =>
    (indexInstances o c l.instances >>= fun _ => indexUnbounded o c)
      (recorded ctx o c l inserting w)

def updateResult (ctx : Context) (o : CalendarObject) (c : Component) (expandUntil : Option Date)
    (reCreate inserting : Bool) (w : World) : EStateM.Result UpdateError World Unit :=
  match expansionHorizon ctx c expandUntil with
  | .error err => .error err w
  | .ok e =>
    let w := { w with events := w.events ++ expansionLog o c e reCreate }
    match expansionResult ctx c e reCreate with
    | .error err => .error (.invalidOverriddenInstance err) w
    | .ok l => recordAndIndex ctx o c l inserting w

theorem indexAll_ok (o : CalendarObject) (c : Component) (l : InstanceList) {w : World}
    (h : w.db.hasObject w.resourceID = true) :
    (indexInstances o c l.instances >>= fun _ => indexUnbounded o c) w =
      .ok () (w.execAll (entryStatements o.calendarResourceId w.resourceID w.db.instanceIdSeq
        (indexEntries c l))) := by
  rw [bind_of_ok (indexInstances_ok o c h _), indexUnbounded_ok o c]
  · rw [indexEntries, entryStatements_append, World.execAll_append]
    simp [World.execAll_db, entryStatements_db]
  · simpa [World.execAll_db, entryStatements_db] using h

theorem updateDatabase_eq (ctx : Context) (o : CalendarObject) (c : Component)
    (expandUntil : Option Date) (reCreate inserting : Bool) (w : World) :
    updateDatabase ctx o c expandUntil reCreate inserting w =
      updateResult ctx o c expandUntil reCreate inserting w := by
  unfold updateResult
  cases he : expansionHorizon ctx c expandUntil with
  | error err => simp only [updateDatabase, he]; rfl
  | ok e =>
    simp only [updateDatabase, he]
    rw [bind_of_ok (pure_run e)]
    cases hl : expansionResult ctx c e reCreate with
    | error err => rw [bind_of_error (by rw [expandInstances_eq, hl])]
    | ok l =>
      rw [bind_of_ok (by rw [expandInstances_eq, hl]), bind_of_ok (modify_run _)]
      unfold recordAndIndex
      cases inserting with
      | true =>
        simp only [if_true, show Statement.insertCalendarObject o.calendarResourceId o.name c.text
          c.resourceUID c.resourceType ctx.attachmentsModeWrite (c.getOrganizer.getD "")
          (Option.map normalizeForIndex l.limit) = insertStatement ctx o c l from rfl]
        cases hv : w.db.violation (insertStatement ctx o c l) with
        | some err => rw [bind_of_error (execSQL_error hv ?_)]; rfl
        | none => rw [bind_of_ok (execSQL_ok hv ?_), bind_of_ok (modify_run _)]; rfl; rfl
      | false =>
        simp only [Bool.false_eq_true, if_false]
        rw [bind_of_ok get_run, bind_of_ok (execSQL_ok ?_ rfl), bind_of_ok (execSQL_ok ?_ rfl),
          bind_of_ok (pure_run _)]
        all_goals rfl

theorem recordAndIndex_eq {ctx : Context} {o : CalendarObject} {c : Component} {l : InstanceList}
    {inserting : Bool} {w : World} (h : inserting = false → w.db.hasObject w.resourceID = true) :
    recordAndIndex ctx o c l inserting w =
      match inserting, w.db.violation (insertStatement ctx o c l) with
      | true, some err =>
        .error (.sql err) { w with objectText := some c.text,
                                   events := w.events ++ [.execSQL (insertStatement ctx o c l)] }
      | _, _ => .ok () (rebuild ctx o c l inserting w) := by
  unfold recordAndIndex
  cases inserting with
  | true =>
    cases hv : w.db.violation (insertStatement ctx o c l) with
    | some err => rfl
    | none =>
      rw [indexAll_ok]
      · simp [rebuild, recorded, recordStatements, World.exec, insertStatement, Database.returning]
      · simpa [recorded, recordStatements, World.exec] using
          Database.hasObject_insertCalendarObject ..
  | false =>
    rw [indexAll_ok]
    · simp [rebuild, recorded]
    · simpa [recorded, recordStatements, World.exec, Database.hasObject_deleteTimeRange,
        Database.hasObject_updateCalendarObject] using h rfl

theorem updateDatabase_ok {ctx : Context} {o : CalendarObject} {c : Component}
    {expandUntil : Option Date} {reCreate inserting : Bool} {w w' : World}
    (h : inserting = false → w.db.hasObject w.resourceID = true)
    (hok : updateDatabase ctx o c expandUntil reCreate inserting w = .ok () w') :
    ∃ e l, expansionHorizon ctx c expandUntil = .ok e ∧ expansionResult ctx c e reCreate = .ok l ∧
      w' = rebuild ctx o c l inserting { w with events := w.events ++ expansionLog o c e reCreate } := by
  rw [updateDatabase_eq, updateResult] at hok
  split at hok
  · cases hok
  · rename_i e he
    split at hok
    · cases hok
    · rename_i l hl
      dsimp only at hok
      rw [recordAndIndex_eq (by exact h)] at hok
      split at hok
      · cases hok
      · cases hok
        exact ⟨e, l, he, hl, rfl⟩

theorem rebuild_db (ctx : Context) (o : CalendarObject) (c : Component) (l : InstanceList)
    (inserting : Bool) (w : World) :
    (rebuild ctx o c l inserting w).db =
      let rid := if inserting then w.db.resourceIdSeq else w.resourceID
      let db := (recordStatements ctx o c l inserting w.resourceID).foldl Database.apply w.db
      { db with timeRange := db.timeRange ++
                  entryRows o.calendarResourceId rid db.instanceIdSeq (indexEntries c l)
                transparency := db.transparency ++
                  entryTransparency db.instanceIdSeq (indexEntries c l)
                instanceIdSeq := db.instanceIdSeq + (indexEntries c l).length } := by
  simp only [rebuild, recorded, World.execAll_db]
  exact entryStatements_db _ _ _ _

end CaldavDatastore
