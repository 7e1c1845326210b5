import CaldavDatastore.Time
import Mathlib.Data.List.Infix
import Mathlib.Tactic.IntervalCases

namespace CaldavDatastore

def padDigits : Nat → Nat → List Char
  | 0, _ => []
  | w + 1, n => padDigits w (n / 10) ++ [Nat.digitChar (n % 10)]

def fractionDigits (us : Nat) : List Char := ((padDigits 6 us).reverse.dropWhile (· = '0')).reverse

def renderTimestamp (t : Timestamp) : String :=
  ⟨padDigits 4 t.year ++ '-' :: padDigits 2 t.month ++ '-' :: padDigits 2 t.day ++
    ' ' :: padDigits 2 t.hour ++ ':' :: padDigits 2 t.minute ++ ':' :: padDigits 2 t.second ++
    if t.microsecond = 0 then []
    else '.' :: fractionDigits t.microsecond⟩

/-- The matches of a piece of a regular expression at the start of a text, with the text
left after each, in the order a backtracking matcher tries them. -/
def Parser (α : Type) := List Char → List (α × List Char)

namespace Parser

def charIn (p : Char → Bool) : Parser Char
  | c :: r => if p c then [(c, r)] else []
  | [] => []

def classes : List (Char → Bool) → Parser (List Char)
  | [] => fun s => [([], s)]
  | p :: ps => fun s =>
    (charIn p s).flatMap fun (c, r) => (classes ps r).map fun (cs, r') => (c :: cs, r')

def alts {α : Type} (ps : List (Parser α)) : Parser α := fun s => ps.flatMap (· s)

def seq {α β : Type} (p : Parser α) (f : α → Parser β) : Parser β := fun s =>
  (p s).flatMap fun (a, r) => f a r

def spaces : Parser Unit := fun s =>
  ((List.range (s.takeWhile Char.isWhitespace).length).reverse.map fun k => ((), s.drop (k + 1)))

end Parser

open Parser

def isDigitIn (lo hi : Char) (c : Char) : Bool := lo ≤ c && c ≤ hi

def digit : Char → Bool := isDigitIn '0' '9'

structure StrptimeGroups where
  year : List Char
  month : List Char
  day : List Char
  hour : List Char
  minute : List Char
  second : List Char
  fraction : List Char

def yearP : Parser (List Char) := classes [digit, digit, digit, digit]

def monthP : Parser (List Char) :=
  alts [classes [(· = '1'), isDigitIn '0' '2'], classes [(· = '0'), isDigitIn '1' '9'],
    classes [isDigitIn '1' '9']]

def dayP : Parser (List Char) :=
  alts [classes [(· = '3'), isDigitIn '0' '1'], classes [isDigitIn '1' '2', digit],
    classes [(· = '0'), isDigitIn '1' '9'], classes [isDigitIn '1' '9'],
    classes [(· = ' '), isDigitIn '1' '9']]

def hourP : Parser (List Char) :=
  alts [classes [(· = '2'), isDigitIn '0' '3'], classes [isDigitIn '0' '1', digit], classes [digit]]

def minuteP : Parser (List Char) := alts [classes [isDigitIn '0' '5', digit], classes [digit]]

def secondP : Parser (List Char) :=
  alts [classes [(· = '6'), isDigitIn '0' '1'], classes [isDigitIn '0' '5', digit], classes [digit]]

def fractionP : Parser (List Char) :=
  alts ((List.range 6).reverse.map fun k => classes (List.replicate (k + 1) digit))

def sepP (c : Char) : Parser (List Char) := classes [(· = c)]

def dateTimeGroups : Parser (List (List Char)) :=
  seq yearP fun y => seq (sepP '-') fun _ => seq monthP fun mo => seq (sepP '-') fun _ =>
  seq dayP fun d => seq spaces fun _ => seq hourP fun h => seq (sepP ':') fun _ =>
  seq minuteP fun mi => seq (sepP ':') fun _ => seq secondP fun se =>
  fun r => [([y, mo, d, h, mi, se], r)]

def strptimeMatches : Parser StrptimeGroups :=
  seq dateTimeGroups fun g => seq (sepP '.') fun _ => seq fractionP fun f =>
  fun r => [(⟨g.getD 0 [], g.getD 1 [], g.getD 2 [], g.getD 3 [], g.getD 4 [], g.getD 5 [], f⟩, r)]

def digitsValue (ds : List Char) : Nat := ds.foldl (fun n c => 10 * n + (c.toNat - '0'.toNat)) 0

def isLeapYear (y : Nat) : Bool := y % 4 = 0 && (y % 100 ≠ 0 || y % 400 = 0)

def daysInMonth (y m : Nat) : Nat :=
  match m with
  | 2 => if isLeapYear y then 29 else 28
  | 4 | 6 | 9 | 11 => 30
  | _ => 31

def mkDatetime (y mo d h mi s us : Nat) : Except String Timestamp :=
  if y < 1 ∨ 9999 < y then .error "year is out of range"
  else if mo < 1 ∨ 12 < mo then .error "month must be in 1..12"
  else if d < 1 ∨ daysInMonth y mo < d then .error "day is out of range for month"
  else if 23 < h then .error "hour must be in 0..23"
  else if 59 < mi then .error "minute must be in 0..59"
  else if 59 < s then .error "second must be in 0..59"
  else .ok ⟨y, mo, d, h, mi, s, us⟩

/-- `datetime.datetime.strptime(text, "%Y-%m-%d %H:%M:%S.%f")`; an error is the message of
the `ValueError` it raises. -/
def strptime (text : String) : Except String Timestamp :=
  match strptimeMatches text.data with
  | [] => .error ("time data '" ++ text ++ "' does not match format '%Y-%m-%d %H:%M:%S.%f'")
  | (g, rest) :: _ =>
    if rest ≠ [] then .error ("unconverted data remains: " ++ String.mk rest)
    else
      mkDatetime (digitsValue g.year) (digitsValue g.month) (digitsValue g.day)
        (digitsValue g.hour) (digitsValue g.minute) (digitsValue g.second)
        (digitsValue (g.fraction ++ List.replicate (6 - g.fraction.length) '0'))

namespace Parser

def Consumes {α : Type} (p : Parser α) : Prop := ∀ s, ∀ x ∈ p s, x.2 <:+ s

theorem charIn_consumes (p : Char → Bool) : (charIn p).Consumes := by
  rintro (_ | ⟨c, r⟩) x hx
  · cases hx
  · simp only [charIn] at hx
    split at hx
    · rw [List.mem_singleton.mp hx]; exact List.suffix_cons c r
    · cases hx

theorem classes_consumes (ps : List (Char → Bool)) : (classes ps).Consumes := by
  induction ps with
  | nil => intro s x hx; rw [List.mem_singleton.mp hx]
  | cons p ps ih =>
    intro s x hx
    obtain ⟨⟨c, r⟩, hcr, hx⟩ := List.mem_flatMap.mp hx
    obtain ⟨⟨cs, r'⟩, hr', rfl⟩ := List.mem_map.mp hx
    exact (ih r _ hr').trans (charIn_consumes p s _ hcr)

theorem alts_consumes {α : Type} {ps : List (Parser α)} (h : ∀ p ∈ ps, p.Consumes) :
    (alts ps).Consumes := by
  intro s x hx
  obtain ⟨p, hp, hx⟩ := List.mem_flatMap.mp hx
  exact h p hp s x hx

theorem seq_consumes {α β : Type} {p : Parser α} {f : α → Parser β} (hp : p.Consumes)
    (hf : ∀ a, (f a).Consumes) : (seq p f).Consumes := by
  intro s x hx
  obtain ⟨⟨a, r⟩, har, hx⟩ := List.mem_flatMap.mp hx
  exact (hf a r x hx).trans (hp s _ har)

theorem spaces_consumes : spaces.Consumes := by
  intro s x hx
  obtain ⟨k, -, rfl⟩ := List.mem_map.mp hx
  exact List.drop_suffix _ _

theorem pure_consumes {α : Type} (a : α) : Consumes fun r => [(a, r)] := by
  intro s x hx
  rw [List.mem_singleton.mp hx]

theorem alts_classes_consumes (pss : List (List (Char → Bool))) :
    (alts (pss.map classes)).Consumes :=
  alts_consumes fun p hp => by
    obtain ⟨ps, -, rfl⟩ := List.mem_map.mp hp
    exact classes_consumes ps

end Parser

theorem dateTimeGroups_consumes : dateTimeGroups.Consumes :=
  seq_consumes (classes_consumes _) fun _ => seq_consumes (classes_consumes _) fun _ =>
  seq_consumes (alts_classes_consumes [[_, _], [_, _], [_]]) fun _ =>
  seq_consumes (classes_consumes _) fun _ =>
  seq_consumes (alts_classes_consumes [[_, _], [_, _], [_, _], [_], [_, _]]) fun _ =>
  seq_consumes spaces_consumes fun _ =>
  seq_consumes (alts_classes_consumes [[_, _], [_, _], [_]]) fun _ =>
  seq_consumes (classes_consumes _) fun _ =>
  seq_consumes (alts_classes_consumes [[_, _], [_]]) fun _ =>
  seq_consumes (classes_consumes _) fun _ =>
  seq_consumes (alts_classes_consumes [[_, _], [_, _], [_]]) fun _ => pure_consumes _

theorem sepP_eq_nil {c : Char} {r : List Char} (h : c ∉ r) : sepP c r = [] := by
  cases r with
  | nil => rfl
  | cons d r =>
    have hd : d ≠ c := fun he => h (he ▸ List.mem_cons_self d r)
    simp [sepP, classes, charIn, hd]

theorem strptimeMatches_eq_nil {s : List Char} (h : '.' ∉ s) : strptimeMatches s = [] := by
  refine List.flatMap_eq_nil_iff.mpr fun ⟨g, r⟩ hx => ?_
  have hr : '.' ∉ r := fun hm => h ((dateTimeGroups_consumes s _ hx).subset hm)
  show (seq (sepP '.') _ r) = []
  simp [seq, sepP_eq_nil hr]

theorem mem_padDigits {w n : Nat} {c : Char} (h : c ∈ padDigits w n) :
    ∃ k < 10, c = Nat.digitChar k := by
  induction w generalizing n with
  | zero => cases h
  | succ w ih =>
    rcases List.mem_append.mp h with h | h
    · exact ih h
    · exact ⟨n % 10, Nat.mod_lt _ (by decide), List.mem_singleton.mp h⟩

theorem digitChar_ne_dot {k : Nat} (hk : k < 10) : Nat.digitChar k ≠ '.' := by
  interval_cases k <;> decide

theorem dot_not_mem_renderTimestamp {t : Timestamp} (h : t.microsecond = 0) :
    '.' ∉ (renderTimestamp t).data := by
  have hpad : ∀ w n, '.' ∉ padDigits w n := fun w n hm => by
    obtain ⟨k, hk, he⟩ := mem_padDigits hm
    exact digitChar_ne_dot hk he.symm
  simp only [renderTimestamp, h, if_true, List.append_nil, List.mem_append, List.mem_cons]
  simp [hpad]

theorem strptime_renderTimestamp_whole_second {t : Timestamp} (h : t.microsecond = 0) :
    strptime (renderTimestamp t) =
      .error ("time data '" ++ renderTimestamp t ++
        "' does not match format '%Y-%m-%d %H:%M:%S.%f'") := by
  simp [strptime, strptimeMatches_eq_nil (dot_not_mem_renderTimestamp h)]

def Timestamp.Valid (t : Timestamp) : Prop :=
  1 ≤ t.year ∧ t.year ≤ 9999 ∧ 1 ≤ t.month ∧ t.month ≤ 12 ∧ 1 ≤ t.day ∧
    t.day ≤ daysInMonth t.year t.month ∧ t.hour < 24 ∧ t.minute < 60 ∧ t.second < 60 ∧
    t.microsecond < 1000000

instance (t : Timestamp) : Decidable t.Valid := inferInstanceAs (Decidable (_ ∧ _))

namespace Parser

theorem seq_head? {α β : Type} {p : Parser α} {f : α → Parser β} {s : List Char} {a : α}
    {r : List Char} {y : β × List Char} (hp : (p s).head? = some (a, r))
    (hf : (f a r).head? = some y) : (seq p f s).head? = some y := by
  obtain ⟨xs, hxs⟩ : ∃ xs, p s = (a, r) :: xs := by
    cases h : p s with
    | nil => rw [h] at hp; cases hp
    | cons x xs => rw [h] at hp; cases hp; exact ⟨xs, rfl⟩
  obtain ⟨ys, hys⟩ : ∃ ys, f a r = y :: ys := by
    cases h : f a r with
    | nil => rw [h] at hf; cases hf
    | cons x ys => rw [h] at hf; cases hf; exact ⟨ys, rfl⟩
  simp [seq, hxs, hys]

end Parser

theorem digitChar_digit {k : Nat} (hk : k < 10) :
    digit (Nat.digitChar k) = true ∧ (Nat.digitChar k).toNat - '0'.toNat = k ∧
      (Nat.digitChar k).isWhitespace = false := by
  interval_cases k <;> decide

theorem padDigits_two (n : Nat) :
    padDigits 2 n = [Nat.digitChar (n / 10 % 10), Nat.digitChar (n % 10)] := by
  simp [padDigits]

theorem digitsValue_append (ds : List Char) (c : Char) :
    digitsValue (ds ++ [c]) = 10 * digitsValue ds + (c.toNat - '0'.toNat) := by
  simp [digitsValue, List.foldl_append]

theorem digitsValue_padDigits (w n : Nat) : digitsValue (padDigits w n) = n % 10 ^ w := by
  induction w generalizing n with
  | zero => simp [padDigits, digitsValue, Nat.mod_one]
  | succ w ih =>
    rw [padDigits, digitsValue_append, ih, (digitChar_digit (Nat.mod_lt n (by decide))).2.1,
      Nat.pow_succ', Nat.mod_mul]
    omega

theorem classes_replicate_digit {ds : List Char} (hds : ∀ c ∈ ds, digit c = true) (n : Nat) :
    classes (List.replicate n digit) ds =
      if n ≤ ds.length then [(ds.take n, ds.drop n)] else [] := by
  induction n generalizing ds with
  | zero => simp [classes]
  | succ n ih =>
    cases ds with
    | nil => simp [classes, charIn]
    | cons c ds =>
      have hc := hds c (List.mem_cons_self c ds)
      simp only [List.replicate_succ, classes, charIn, hc, if_true, List.flatMap_cons,
        List.flatMap_nil, List.append_nil, ih fun d hd => hds d (List.mem_cons_of_mem c hd)]
      by_cases hn : n ≤ ds.length <;> simp [hn]

theorem fractionP_head? {ds : List Char} (hds : ∀ c ∈ ds, digit c = true) (h₁ : 1 ≤ ds.length)
    (h₆ : ds.length ≤ 6) : (fractionP ds).head? = some (ds, []) := by
  simp only [fractionP, alts, List.range, List.range.loop, List.reverse_cons, List.reverse_nil,
    List.nil_append, List.cons_append, List.singleton_append, List.map_cons, List.map_nil,
    List.flatMap_cons, List.flatMap_nil, classes_replicate_digit hds]
  obtain ⟨L, hL⟩ : ∃ L, ds.length = L := ⟨_, rfl⟩
  rw [hL] at h₁ h₆ ⊢
  interval_cases L <;> simp [List.take_of_length_le, List.drop_eq_nil_of_le, hL]

@[simp] theorem digit_digitChar_mod (n : Nat) : digit (Nat.digitChar (n % 10)) = true :=
  (digitChar_digit (Nat.mod_lt n (by decide))).1

theorem yearP_head? (y : Nat) (r : List Char) :
    (yearP (padDigits 4 y ++ r)).head? = some (padDigits 4 y, r) := by
  simp [yearP, classes, charIn, padDigits]

theorem monthP_head? {n : Nat} (h₁ : 1 ≤ n) (h₂ : n ≤ 12) (r : List Char) :
    (monthP (padDigits 2 n ++ r)).head? = some (padDigits 2 n, r) := by
  interval_cases n <;> rfl

theorem dayP_head? {n : Nat} (h₁ : 1 ≤ n) (h₂ : n ≤ 31) (r : List Char) :
    (dayP (padDigits 2 n ++ r)).head? = some (padDigits 2 n, r) := by
  interval_cases n <;> rfl

theorem hourP_head? {n : Nat} (h : n < 24) (r : List Char) :
    (hourP (padDigits 2 n ++ r)).head? = some (padDigits 2 n, r) := by
  interval_cases n <;> rfl

theorem head?_padDigits_two_of_tens {P : Parser (List Char)} {k n : Nat} (hn : n / 10 % 10 < k)
    (hP : ∀ t < k, ∀ u r, digit u = true →
      (P (Nat.digitChar t :: u :: r)).head? = some ([Nat.digitChar t, u], r)) (r : List Char) :
    (P (padDigits 2 n ++ r)).head? = some (padDigits 2 n, r) := by
  rw [padDigits_two]
  exact hP _ hn _ r (digit_digitChar_mod n)

theorem minuteP_head? {n : Nat} (h : n < 60) (r : List Char) :
    (minuteP (padDigits 2 n ++ r)).head? = some (padDigits 2 n, r) :=
  @head?_padDigits_two_of_tens _ 6 n (by omega) (fun t _ u r hu => by
    interval_cases t <;> simp [minuteP, alts, classes, charIn, hu, isDigitIn, Nat.digitChar]) r

theorem secondP_head? {n : Nat} (h : n < 60) (r : List Char) :
    (secondP (padDigits 2 n ++ r)).head? = some (padDigits 2 n, r) :=
  @head?_padDigits_two_of_tens _ 6 n (by omega) (fun t _ u r hu => by
    interval_cases t <;> simp [secondP, alts, classes, charIn, hu, isDigitIn, Nat.digitChar]) r

theorem sepP_head? (c : Char) (r : List Char) : (sepP c (c :: r)).head? = some ([c], r) := by
  simp [sepP, classes, charIn]

theorem spaces_head? (n : Nat) (r : List Char) :
    (spaces (' ' :: (padDigits 2 n ++ r))).head? = some ((), padDigits 2 n ++ r) := by
  have hw := (digitChar_digit (Nat.mod_lt (n / 10) (by decide))).2.2
  simp [spaces, padDigits_two, List.takeWhile, hw, List.range_succ]

theorem daysInMonth_le (y m : Nat) : daysInMonth y m ≤ 31 := by
  unfold daysInMonth; split <;> (try split) <;> omega

theorem dateTimeGroups_head? {t : Timestamp} (hv : t.Valid) (r : List Char) :
    (dateTimeGroups (padDigits 4 t.year ++ '-' :: padDigits 2 t.month ++ '-' ::
      padDigits 2 t.day ++ ' ' :: padDigits 2 t.hour ++ ':' :: padDigits 2 t.minute ++ ':' ::
      padDigits 2 t.second ++ r)).head? =
      some ([padDigits 4 t.year, padDigits 2 t.month, padDigits 2 t.day, padDigits 2 t.hour,
        padDigits 2 t.minute, padDigits 2 t.second], r) := by
  obtain ⟨-, -, hm₁, hm₂, hd₁, hd₂, hh, hmi, hs, -⟩ := hv
  unfold dateTimeGroups
  refine seq_head? (yearP_head? t.year _) ?_
  refine seq_head? (sepP_head? '-' _) ?_
  refine seq_head? (monthP_head? hm₁ hm₂ _) ?_
  refine seq_head? (sepP_head? '-' _) ?_
  refine seq_head? (dayP_head? hd₁ (hd₂.trans (daysInMonth_le _ _)) _) ?_
  refine seq_head? (spaces_head? t.hour _) ?_
  refine seq_head? (hourP_head? hh _) ?_
  refine seq_head? (sepP_head? ':' _) ?_
  refine seq_head? (minuteP_head? hmi _) ?_
  refine seq_head? (sepP_head? ':' _) ?_
  exact seq_head? (secondP_head? hs r) rfl

theorem fractionDigits_pad (us : Nat) :
    fractionDigits us ++ List.replicate (6 - (fractionDigits us).length) '0' = padDigits 6 us := by
  have hsplit := List.takeWhile_append_dropWhile (· = '0') (padDigits 6 us).reverse
  have hzeros : ((padDigits 6 us).reverse.takeWhile (· = '0')) =
      List.replicate ((padDigits 6 us).reverse.takeWhile (· = '0')).length '0' :=
    List.eq_replicate_iff.mpr ⟨rfl, fun c hc => by simpa using List.mem_takeWhile_imp hc⟩
  have hlen := congrArg List.length hsplit
  have h6 : (padDigits 6 us).length = 6 := by simp [padDigits]
  simp only [List.length_append, List.length_reverse, h6] at hlen
  have hk : 6 - (fractionDigits us).length =
      ((padDigits 6 us).reverse.takeWhile (· = '0')).length := by
    rw [fractionDigits, List.length_reverse]
    omega
  calc fractionDigits us ++ List.replicate (6 - (fractionDigits us).length) '0'
      = (((padDigits 6 us).reverse.takeWhile (· = '0')) ++
          (padDigits 6 us).reverse.dropWhile (· = '0')).reverse := by
        rw [List.reverse_append, hk, fractionDigits, hzeros, List.reverse_replicate,
          List.length_replicate]
    _ = padDigits 6 us := by rw [hsplit, List.reverse_reverse]

theorem digits_fractionDigits (us : Nat) : ∀ c ∈ fractionDigits us, digit c = true := by
  intro c hc
  obtain ⟨k, hk, rfl⟩ := mem_padDigits (List.mem_reverse.mp
    ((List.dropWhile_sublist _).subset (List.mem_reverse.mp hc)))
  exact (digitChar_digit hk).1

theorem length_fractionDigits {us : Nat} (h₀ : us ≠ 0) (h : us < 1000000) :
    1 ≤ (fractionDigits us).length ∧ (fractionDigits us).length ≤ 6 := by
  have hpad := fractionDigits_pad us
  constructor
  · refine Nat.one_le_iff_ne_zero.mpr fun hz => h₀ ?_
    simp only [List.length_eq_zero.mp hz, List.length_nil, List.nil_append, Nat.sub_zero] at hpad
    have hv := congrArg digitsValue hpad
    rw [digitsValue_padDigits, Nat.mod_eq_of_lt (show us < 10 ^ 6 from h)] at hv
    exact hv.symm
  · have := congrArg List.length hpad
    simp only [List.length_append, List.length_replicate] at this
    have h6 : (padDigits 6 us).length = 6 := by simp [padDigits]
    omega

theorem renderTimestamp_of_ne_zero {t : Timestamp} (h : t.microsecond ≠ 0) :
    (renderTimestamp t).data = padDigits 4 t.year ++ '-' :: padDigits 2 t.month ++ '-' ::
      padDigits 2 t.day ++ ' ' :: padDigits 2 t.hour ++ ':' :: padDigits 2 t.minute ++ ':' ::
      padDigits 2 t.second ++ '.' :: fractionDigits t.microsecond := by
  simp [renderTimestamp, h, fractionDigits]

theorem strptime_renderTimestamp {t : Timestamp} (hv : t.Valid) (h : t.microsecond ≠ 0) :
    strptime (renderTimestamp t) = .ok t := by
  obtain ⟨hl₁, hl₂⟩ := length_fractionDigits h hv.2.2.2.2.2.2.2.2.2
  have hmatch : (strptimeMatches (renderTimestamp t).data).head? =
      some (⟨padDigits 4 t.year, padDigits 2 t.month, padDigits 2 t.day, padDigits 2 t.hour,
        padDigits 2 t.minute, padDigits 2 t.second, fractionDigits t.microsecond⟩, []) := by
    rw [renderTimestamp_of_ne_zero h]
    exact seq_head? (dateTimeGroups_head? hv _) <| seq_head? (sepP_head? _ _) <|
      seq_head? (fractionP_head? (digits_fractionDigits _) hl₁ hl₂) rfl
  obtain ⟨hy₁, hy₂, hm₁, hm₂, hd₁, hd₂, hh, hmi, hs, hus⟩ := hv
  obtain ⟨xs, hxs⟩ : ∃ xs, strptimeMatches (renderTimestamp t).data =
      (⟨padDigits 4 t.year, padDigits 2 t.month, padDigits 2 t.day, padDigits 2 t.hour,
        padDigits 2 t.minute, padDigits 2 t.second, fractionDigits t.microsecond⟩, []) :: xs := by
    revert hmatch
    cases strptimeMatches (renderTimestamp t).data with
    | nil => nofun
    | cons x xs => intro hx; cases hx; exact ⟨xs, rfl⟩
  have hlt : ∀ {n w : Nat}, n < 10 ^ w → digitsValue (padDigits w n) = n := fun hn => by
    rw [digitsValue_padDigits, Nat.mod_eq_of_lt hn]
  simp only [strptime, hxs, ne_eq, not_true_eq_false, if_false, fractionDigits_pad,
    hlt (show t.year < 10 ^ 4 by omega), hlt (show t.month < 10 ^ 2 by omega),
    hlt (show t.day < 10 ^ 2 by have := daysInMonth_le t.year t.month; omega),
    hlt (show t.hour < 10 ^ 2 by omega), hlt (show t.minute < 10 ^ 2 by omega),
    hlt (show t.second < 10 ^ 2 by omega), hlt (show t.microsecond < 10 ^ 6 by omega)]
  simp [mkDatetime, show ¬ t.year < 1 by omega, show ¬ 9999 < t.year by omega,
    show ¬ t.month < 1 by omega, show ¬ 12 < t.month by omega, show ¬ t.day < 1 by omega,
    show ¬ daysInMonth t.year t.month < t.day by omega, show ¬ 23 < t.hour by omega,
    show ¬ 59 < t.minute by omega, show ¬ 59 < t.second by omega]

theorem strptime_renderTimestamp_eq_ok_iff {t : Timestamp} (hv : t.Valid) :
    strptime (renderTimestamp t) = .ok t ↔ t.microsecond ≠ 0 := by
  refine ⟨fun h h₀ => ?_, strptime_renderTimestamp hv⟩
  rw [strptime_renderTimestamp_whole_second h₀] at h
  cases h

theorem strptime_renderTimestamp_eq_ok_iff_noon :
    strptime (renderTimestamp ⟨2024, 1, 1, 12, 0, 0, 250⟩) = .ok ⟨2024, 1, 1, 12, 0, 0, 250⟩ ↔
      (250 : Nat) ≠ 0 :=
  strptime_renderTimestamp_eq_ok_iff (by decide)

end CaldavDatastore
