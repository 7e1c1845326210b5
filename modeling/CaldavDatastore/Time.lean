import Mathlib.Order.Basic

namespace CaldavDatastore

structure DateTime where
  wall : Int
  tzinfo : Option Int
  deriving DecidableEq, Repr

structure Date where
  days : Int
  deriving DecidableEq, Repr

structure Timestamp where
  year : Nat
  month : Nat
  day : Nat
  hour : Nat
  minute : Nat
  second : Nat
  microsecond : Nat
  deriving DecidableEq, Repr

def daysFromCivil (y m d : Int) : Int :=
  let y := if m ≤ 2 then y - 1 else y
  let era := y / 400
  let yoe := y - era * 400
  let doy := (153 * (if m > 2 then m - 3 else m + 9) + 2) / 5 + d - 1
  let doe := yoe * 365 + yoe / 4 - yoe / 100 + doy
  era * 146097 + doe - 719468

def Date.ofCivil (y m d : Int) : Date := ⟨daysFromCivil y m d⟩

/-- `calendar.timegm` of a `timestamp` read as UTC: seconds from 1970-01-01 00:00. -/
def Timestamp.timegm (t : Timestamp) : Int :=
  daysFromCivil t.year t.month t.day * 86400 + t.hour * 3600 + t.minute * 60 + t.second

def Date.addDays (d : Date) (n : Int) : Date := ⟨d.days + n⟩

def Date.midnight (d : Date) : Int := d.days * 86400 * 1000000

def DateTime.utc (y m d h mi s : Int) : DateTime :=
  ⟨(daysFromCivil y m d * 86400 + h * 3600 + mi * 60 + s) * 1000000, some 0⟩

/-- `t.replace(tzinfo=utc)`: the same wall-clock reading, labelled UTC. -/
def DateTime.replaceTzinfoUtc (t : DateTime) : DateTime := ⟨t.wall, some 0⟩

def DateTime.instant (t : DateTime) : Option Int := t.tzinfo.map (t.wall - ·)

/-- The instant of an aware `datetime`, and the wall-clock reading of a floating one read
as UTC: what the index compares. -/
def DateTime.utcWall (t : DateTime) : Int := t.wall - t.tzinfo.getD 0

@[simp] theorem DateTime.replaceTzinfoUtc_wall (t : DateTime) : t.replaceTzinfoUtc.wall = t.wall := rfl

@[simp] theorem DateTime.replaceTzinfoUtc_tzinfo (t : DateTime) :
    t.replaceTzinfoUtc.tzinfo = some 0 := rfl

@[simp] theorem DateTime.utc_tzinfo (y m d h mi s : Int) : (DateTime.utc y m d h mi s).tzinfo = some 0 := rfl

theorem DateTime.utcWall_of_utc {t : DateTime} (h : t.tzinfo = some 0) : t.utcWall = t.wall := by
  simp [DateTime.utcWall, h]

theorem DateTime.instant_replaceTzinfoUtc (t : DateTime) : t.replaceTzinfoUtc.instant = some t.wall := by
  simp [DateTime.instant, DateTime.replaceTzinfoUtc]

end CaldavDatastore
