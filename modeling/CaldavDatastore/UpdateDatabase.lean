import CaldavDatastore.Component
import CaldavDatastore.Tables

/-!
`CalendarObject.setComponent` and `CalendarObject.updateDatabase`. A Python exception leaves
every assignment and every statement executed before it in place, so the code runs in
`EStateM`, whose errors carry the state they were raised in.
-/
namespace CaldavDatastore

inductive Event
  | execSQL (s : Statement)
  | logError (message : String)
  | insertRevision (name : String)
  | updateRevision (name : String)
  | notifyChanged
  deriving DecidableEq, Repr

structure CalendarObject where
  name : String
  calendarResourceId : Nat
  calendar : String
  deriving DecidableEq, Repr

/-- What `updateDatabase` reads besides its arguments: `datetime.date.today()`, the
transaction's `_migrating` flag and the schema's `_ATTACHMENTS_MODE_WRITE`. -/
structure Context where
  today : Date
  migrating : Bool
  attachmentsModeWrite : Nat
  deriving DecidableEq, Repr

structure World where
  db : Database
  events : List Event
  resourceID : Nat
  objectText : Option String
  deriving DecidableEq, Repr

inductive UpdateError
  | indexedSearch
  | invalidOverriddenInstance (e : InvalidOverriddenInstanceError)
  | sql (e : SqlError)
  | invalidComponent (reason : String)
  deriving DecidableEq, Repr

def defaultFutureExpansionDuration : Int := 365 * 1

def maximumFutureExpansionDuration : Int := 365 * 5

def icalfbtypeToIndexfbtype : String → Option Nat
  | "UNKNOWN" => some 0
  | "FREE" => some 1
  | "BUSY" => some 2
  | "BUSY-UNAVAILABLE" => some 3
  | "BUSY-TENTATIVE" => some 4
  | _ => none

def indexFBType (fbtype : String) : Nat := (icalfbtypeToIndexfbtype fbtype).getD 1

def indexfbtypeToIcalfbtype : Nat → Option String
  | 0 => some "?"
  | 1 => some "F"
  | 2 => some "B"
  | 3 => some "U"
  | 4 => some "T"
  | _ => none

/-- Modelled from the spec: `twistedcaldav.dateops.normalizeForIndex`, not in the
repository, normalizes a time to UTC; a floating time is kept as it is. -/
def normalizeForIndex (t : DateTime) : DateTime :=
  match t.tzinfo with
  | some offset => ⟨t.wall - offset, some 0⟩
  | none => t

def invalidInstanceMessage (rid name calendar : String) : String :=
  "Invalid instance " ++ rid ++ " when indexing " ++ name ++ " in " ++ calendar

def expansionHorizon (ctx : Context) (c : Component) (expandUntil : Option Date) :
    Except UpdateError Horizon :=
  if !c.hasMasterComponent || (!c.isRecurring && !c.isRecurringUnbounded) then
    .ok (.dateTime (DateTime.utc 2100 1 1 0 0 0))
  else
    let expand := expandUntil.getD (ctx.today.addDays defaultFutureExpansionDuration)
    if expand.days > (ctx.today.addDays maximumFutureExpansionDuration).days then
      .error .indexedSearch
    else .ok (.date expand)

def execSQL (s : Statement) : EStateM UpdateError World Nat := fun w =>
  let w := { w with events := w.events ++ [Event.execSQL s] }
  match w.db.exec s with
  | .ok (r, db) => .ok r { w with db := db }
  | .error e => .error (.sql e) w

def record (e : Event) : EStateM UpdateError World Unit :=
  modify fun w => { w with events := w.events ++ [e] }

def expandInstances (ctx : Context) (o : CalendarObject) (c : Component) (expand : Horizon)
    (reCreate : Bool) : EStateM UpdateError World InstanceList :=
  match c.expandTimeRanges expand reCreate with
  | .ok instances => pure instances
  | .error e => do
    record (.logError (invalidInstanceMessage e.rid o.name o.calendar))
    if ctx.migrating then
      match c.expandTimeRanges expand true with
      | .ok instances => pure instances
      | .error e => throw (.invalidOverriddenInstance e)
    else throw (.invalidOverriddenInstance e)

def insertPerUserTransparency (instanceid : Nat) :
    List (String × Bool) → EStateM UpdateError World Unit
  | [] => pure ()
  | (useruid, transp) :: peruserdata => do
    let _ ← execSQL (.insertTransparency instanceid useruid transp)
    insertPerUserTransparency instanceid peruserdata

def indexInstances (o : CalendarObject) (c : Component) :
    List Instance → EStateM UpdateError World Unit
  | [] => pure ()
  | i :: instances => do
    let start := i.start.replaceTzinfoUtc
    let stop := i.«end».replaceTzinfoUtc
    let float := i.start.tzinfo.isNone
    let transp := i.component.transp == some "TRANSPARENT"
    let instanceid ← execSQL (.insertTimeRange o.calendarResourceId (← get).resourceID float
      start stop (indexFBType i.component.fbType) transp)
    insertPerUserTransparency instanceid (c.perUserTransparency (some i.rid))
    indexInstances o c instances

def indexUnbounded (o : CalendarObject) (c : Component) : EStateM UpdateError World Unit :=
  if c.isRecurringUnbounded then do
    let instanceid ← execSQL (.insertTimeRange o.calendarResourceId (← get).resourceID false
      (DateTime.utc 2100 1 1 0 0 0) (DateTime.utc 2100 1 1 1 0 0) (indexFBType "UNKNOWN") true)
    insertPerUserTransparency instanceid (c.perUserTransparency none)
  else pure ()

def updateDatabase (ctx : Context) (o : CalendarObject) (c : Component)
    (expandUntil : Option Date) (reCreate inserting : Bool) : EStateM UpdateError World Unit := do
  let expand ← match expansionHorizon ctx c expandUntil with
    | .ok e => pure e
    | .error err => throw err
  let instances ← expandInstances ctx o c expand reCreate
  modify fun w => { w with objectText := some c.text }
  let organizer := c.getOrganizer.getD ""
  let recurranceMax := instances.limit.map normalizeForIndex
  if inserting then
    let rid ← execSQL (.insertCalendarObject o.calendarResourceId o.name c.text c.resourceUID
      c.resourceType ctx.attachmentsModeWrite organizer recurranceMax)
    modify fun w => { w with resourceID := rid }
  else
    let rid := (← get).resourceID
    let _ ← execSQL (.updateCalendarObject c.text c.resourceUID c.resourceType
      ctx.attachmentsModeWrite organizer recurranceMax rid)
    let _ ← execSQL (.deleteTimeRange rid)
  indexInstances o c instances.instances
  indexUnbounded o c

/-- `setComponent`; `validation` is what `validateCalendarComponent` raises, if anything. -/
def setComponent (ctx : Context) (o : CalendarObject) (validation : Option String)
    (c : Component) (inserting : Bool) : EStateM UpdateError World Unit := do
  if let some reason := validation then throw (.invalidComponent reason)
  updateDatabase ctx o c none false inserting
  if inserting then record (.insertRevision o.name) else record (.updateRevision o.name)
  record .notifyChanged

end CaldavDatastore
