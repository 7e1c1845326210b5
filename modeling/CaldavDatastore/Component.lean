import CaldavDatastore.Time

namespace CaldavDatastore

inductive Horizon
  | date (d : Date)
  | dateTime (t : DateTime)
  deriving DecidableEq, Repr

def Horizon.instant : Horizon → Int
  | .date d => d.midnight
  | .dateTime t => t.utcWall

structure InvalidOverriddenInstanceError where
  rid : String
  deriving DecidableEq, Repr

structure InstanceComponent where
  transp : Option String
  fbType : String
  deriving DecidableEq, Repr

structure Instance where
  rid : DateTime
  start : DateTime
  «end» : DateTime
  component : InstanceComponent
  deriving DecidableEq, Repr

def Instance.Normalized (i : Instance) : Prop :=
  (i.start.tzinfo = none ∨ i.start.tzinfo = some 0) ∧ i.«end».tzinfo = i.start.tzinfo

instance : DecidablePred Instance.Normalized := fun _ =>
  inferInstanceAs (Decidable ((_ ∨ _) ∧ _))

structure InstanceList where
  instances : List Instance
  limit : Option DateTime
  deriving DecidableEq, Repr

structure Component where
  hasMasterComponent : Bool
  isRecurring : Bool
  isRecurringUnbounded : Bool
  expandTimeRanges : Horizon → Bool → Except InvalidOverriddenInstanceError InstanceList
  text : String
  getOrganizer : Option String
  resourceUID : String
  resourceType : String
  perUserTransparency : Option DateTime → List (String × Bool)
  expandTimeRanges_ignoreInvalid : ∀ e err, expandTimeRanges e true ≠ .error err
  expandTimeRanges_normalized : ∀ e b l, expandTimeRanges e b = .ok l →
    ∀ i ∈ l.instances, i.Normalized

def InstanceList.Before (l : InstanceList) (e : Horizon) : Prop :=
  ∀ i ∈ l.instances, i.start.utcWall < e.instant

def Component.ExpandsBefore (c : Component) : Prop :=
  ∀ e b l, c.expandTimeRanges e b = .ok l → l.Before e

/-- A component given by the instances of its recurrence set: expanding it keeps those that
start before the horizon, in order. -/
def Component.ofInstances (isRecurring isRecurringUnbounded : Bool) (instances : List Instance)
    (h : ∀ i ∈ instances, i.Normalized) : Component where
  hasMasterComponent := true
  isRecurring := isRecurring
  isRecurringUnbounded := isRecurringUnbounded
  expandTimeRanges e _ := .ok ⟨instances.filter (·.start.utcWall < e.instant), none⟩
  text := "BEGIN:VCALENDAR"
  getOrganizer := none
  resourceUID := "uid"
  resourceType := "VEVENT"
  perUserTransparency _ := []
  expandTimeRanges_ignoreInvalid _ _ := nofun
  expandTimeRanges_normalized := by
    rintro e b l ⟨⟩ i hi
    exact h i (List.mem_filter.mp hi).1

theorem Component.ofInstances_expandsBefore (r u : Bool) (instances : List Instance)
    (h : ∀ i ∈ instances, i.Normalized) : (Component.ofInstances r u instances h).ExpandsBefore := by
  rintro e b l ⟨⟩ i hi
  simpa using (List.mem_filter.mp hi).2

end CaldavDatastore
