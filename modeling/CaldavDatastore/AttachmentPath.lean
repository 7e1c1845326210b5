import Mathlib.Data.List.Basic
import Mathlib.Data.List.Infix

namespace CaldavDatastore

structure InsecurePath where
  segment : String
  deriving DecidableEq, Repr

/-- Python's `s[i:j]` on a string. -/
def pySlice (s : String) (i j : Nat) : String := ⟨(s.data.drop i).take (j - i)⟩

def normpathPush (st : List String) (comp : String) : List String :=
  if comp = "" ∨ comp = "." then st
  else if comp = ".." then
    match st with
    | [] => [".."]
    | top :: rest => if top = ".." then ".." :: top :: rest else rest
  else comp :: st

def normpathComponents (path : String) : List String :=
  (((path.data.splitOn '/').map String.mk).foldl normpathPush []).reverse

def FilePath.child (p : List String) (segment : String) : Except InsecurePath (List String) :=
  if segment.data.head? = some '/' then .error ⟨segment⟩
  else
    match normpathComponents segment with
    | [] => .ok p
    | [comp] => if comp = ".." then .error ⟨segment⟩ else .ok (p ++ [comp])
    | _ => .error ⟨segment⟩

def attachmentPathRoot (homeName uid : String) : Except InsecurePath (List String) := do
  let p ← FilePath.child [] (pySlice homeName 0 2)
  let p ← FilePath.child p (pySlice homeName 2 4)
  let p ← FilePath.child p homeName
  FilePath.child p uid

def attachmentPath (homeName uid name : String) : Except InsecurePath (List String) := do
  FilePath.child (← attachmentPathRoot homeName uid) name

def Segment (s : String) : Prop := s ≠ "" ∧ '/' ∉ s.data ∧ s ≠ "." ∧ s ≠ ".."

instance (s : String) : Decidable (Segment s) := inferInstanceAs (Decidable (_ ∧ _))

theorem normpathComponents_of_no_slash {s : String} (hs : '/' ∉ s.data) :
    normpathComponents s = (normpathPush [] s).reverse := by
  have hsplit : s.data.splitOn '/' = [s.data] :=
    List.splitOnP_eq_single _ _ fun c hc h => hs (beq_iff_eq.mp h ▸ hc)
  simp only [normpathComponents, hsplit, List.map_cons, List.map_nil, List.foldl_cons,
    List.foldl_nil]

theorem child_of_no_slash (p : List String) {s : String} (hs : '/' ∉ s.data) :
    FilePath.child p s =
      if s = "" ∨ s = "." then .ok p else if s = ".." then .error ⟨s⟩ else .ok (p ++ [s]) := by
  have hhead : s.data.head? ≠ some '/' := fun h => hs (List.mem_of_mem_head? h)
  unfold FilePath.child
  rw [if_neg hhead, normpathComponents_of_no_slash hs]
  by_cases he : s = "" ∨ s = "."
  · simp [normpathPush, he]
  · by_cases hd : s = ".."
    · simp [normpathPush, hd]
    · simp [normpathPush, he, hd]

theorem child_segment (p : List String) {s : String} (hs : Segment s) :
    FilePath.child p s = .ok (p ++ [s]) := by
  rw [child_of_no_slash p hs.2.1, if_neg (by simp [hs.1, hs.2.2.1]), if_neg hs.2.2.2]

theorem no_slash_pySlice {s : String} (hs : '/' ∉ s.data) (i j : Nat) :
    '/' ∉ (pySlice s i j).data :=
  fun h => hs (List.mem_of_mem_drop (List.mem_of_mem_take h))

theorem pySlice_first_shard {g : String} (hg : Segment g) :
    pySlice g 0 2 ≠ "" ∧ pySlice g 0 2 ≠ "." := by
  obtain ⟨_ | ⟨c, _ | ⟨d, ds⟩⟩⟩ := g
  · exact absurd rfl hg.1
  · exact ⟨hg.1, hg.2.2.1⟩
  · exact ⟨fun h => (nomatch congrArg String.data h), fun h => (nomatch congrArg String.data h)⟩

def shardSegments (homeName : String) : List String :=
  pySlice homeName 0 2 ::
    if pySlice homeName 2 4 = "" ∨ pySlice homeName 2 4 = "." then [] else [pySlice homeName 2 4]

theorem attachmentPath_segments {g u m : String} (hg : Segment g) (hu : Segment u)
    (hm : Segment m) :
    attachmentPath g u m =
      if pySlice g 0 2 = ".." ∨ pySlice g 2 4 = ".." then
        .error ⟨if pySlice g 0 2 = ".." then pySlice g 0 2 else pySlice g 2 4⟩
      else .ok (shardSegments g ++ [g, u, m]) := by
  have h₀ := pySlice_first_shard hg
  simp only [attachmentPath, attachmentPathRoot, child_of_no_slash _ (no_slash_pySlice hg.2.1 _ _),
    if_neg (not_or.mpr h₀)]
  by_cases hs₀ : pySlice g 0 2 = ".."
  · simp [hs₀]; rfl
  · by_cases hs₂ : pySlice g 2 4 = ".."
    · simp [hs₀, hs₂]; rfl
    · simp only [hs₀, hs₂, if_false, or_self]
      by_cases he : pySlice g 2 4 = "" ∨ pySlice g 2 4 = "."
      · simp [he, shardSegments, child_segment _ hg, child_segment _ hu, child_segment _ hm]; rfl
      · simp [he, shardSegments, child_segment _ hg, child_segment _ hu, child_segment _ hm]; rfl

theorem attachmentPath_ok {g u m : String} (hg : Segment g) (hu : Segment u) (hm : Segment m)
    {P : List String} (h : attachmentPath g u m = .ok P) : P = shardSegments g ++ [g, u, m] := by
  rw [attachmentPath_segments hg hu hm] at h
  split at h
  · cases h
  · exact (Except.ok.inj h).symm

theorem shards_of_length_le_two {g : String} (hg : g.length ≤ 2) :
    pySlice g 0 2 = g ∧ pySlice g 2 4 = "" := by
  refine ⟨String.ext (List.take_of_length_le hg), String.ext ?_⟩
  simp [pySlice, List.drop_eq_nil_of_le hg]

theorem nested_home {g h : String} (hg : Segment g) (h₀ : pySlice g 0 2 = pySlice h 0 2)
    (h₁ : g = pySlice h 2 4) : g.length = 2 ∧ h.data.take 4 = g.data ++ g.data := by
  have hlen : g.length ≤ 2 := by
    rw [h₁]; exact (List.length_take_le _ _).trans (by simp)
  obtain ⟨hfirst, -⟩ := shards_of_length_le_two hlen
  have htake₂ : h.data.take 2 = g.data := congrArg String.data (h₀.symm.trans hfirst)
  have htake₄ : h.data.take 4 = g.data ++ g.data := by
    rw [show 4 = 2 + 2 from rfl, List.take_add, htake₂, congrArg String.data h₁]; rfl
  refine ⟨?_, htake₄⟩
  have hne : g.data ≠ [] := fun he => hg.1 (String.ext he)
  have hpos : 0 < g.data.length := List.length_pos.mpr hne
  have hfour := congrArg List.length htake₄
  simp only [List.length_take, List.length_append] at hfour
  have : g.data.length = 2 := by
    have h₂ := congrArg List.length htake₂
    simp only [List.length_take] at h₂
    omega
  exact this

theorem attachmentPath_prefix_iff {g u m h v n : String} (hg : Segment g) (hu : Segment u)
    (hm : Segment m) (hh : Segment h) (hv : Segment v) (hn : Segment n) {P Q : List String}
    (hP : attachmentPath g u m = .ok P) (hQ : attachmentPath h v n = .ok Q) :
    P <+: Q ↔ (g = h ∧ u = v ∧ m = n) ∨
      (g.length = 2 ∧ h.data.take 4 = g.data ++ g.data ∧ u = h ∧ m = v) := by
  obtain rfl := attachmentPath_ok hg hu hm hP
  obtain rfl := attachmentPath_ok hh hv hn hQ
  constructor
  · intro hpre
    by_cases hs : pySlice g 2 4 = "" ∨ pySlice g 2 4 = "." <;>
      by_cases ht : pySlice h 2 4 = "" ∨ pySlice h 2 4 = "." <;>
      simp only [shardSegments, hs, ht, if_true, if_false, List.cons_append, List.nil_append,
        List.singleton_append, List.cons_prefix_cons, List.prefix_nil, and_true] at hpre
    · exact .inl ⟨hpre.2.1, hpre.2.2.1, hpre.2.2.2⟩
    · obtain ⟨h₀, h₁, rfl, rfl, -⟩ := hpre
      exact .inr ⟨(nested_home hg h₀ h₁).1, (nested_home hg h₀ h₁).2, rfl, rfl⟩
    · simp at hpre
    · exact .inl ⟨hpre.2.2.1, hpre.2.2.2.1, hpre.2.2.2.2⟩
  · rintro (⟨rfl, rfl, rfl⟩ | ⟨hlen, htake, hu', hm'⟩)
    · exact List.prefix_refl _
    · subst u m
      obtain ⟨hfirst, hsecond⟩ := shards_of_length_le_two hlen.le
      have hh₀ : pySlice h 0 2 = g := String.ext <| by
        have htwo : h.data.take 2 = (h.data.take 4).take 2 := by rw [List.take_take]; rfl
        rw [pySlice, Nat.sub_zero, List.drop_zero, htwo, htake, List.take_left' hlen]
      have hh₂ : pySlice h 2 4 = g := String.ext <| by
        rw [pySlice, ← List.drop_take, htake, List.drop_left' hlen]
      refine ⟨[n], ?_⟩
      simp [shardSegments, hfirst, hsecond, hh₀, hh₂, hg.1, hg.2.2.1]

theorem attachmentPath_prefix_iff_nested :
    ("ab" = "ababx" ∧ "ababx" = "y" ∧ "y" = "z") ∨
      ("ab".length = 2 ∧ "ababx".data.take 4 = "ab".data ++ "ab".data ∧ "ababx" = "ababx" ∧
        "y" = "y") :=
  (@attachmentPath_prefix_iff "ab" "ababx" "y" "ababx" "y" "z" (by decide) (by decide)
    (by decide) (by decide) (by decide) (by decide) _ _ rfl rfl).mp ⟨["z"], rfl⟩

theorem attachmentPath_two_character_home :
    attachmentPath "ab" "ababx" "y" = .ok ["ab", "ab", "ababx", "y"] ∧
      attachmentPath "ababx" "y" "z" = .ok ["ab", "ab", "ababx", "y", "z"] :=
  ⟨rfl, rfl⟩

end CaldavDatastore
