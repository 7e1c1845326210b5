import Mathlib.Data.String.Basic
import CaldavDatastore.AttachmentPath

/-!
The files below the store's `attachmentsPath`, as Twisted's `FilePath` reaches them. A node is
kept by its path of segments below `attachmentsPath`, which is the node at `[]`. A system call
resolves the directories above its path from the top and refuses a name of more than
`NAME_MAX` bytes; Python refuses a path with a NUL byte before making the call.
-/
namespace CaldavDatastore

inductive Node
  | dir
  | file (content : List UInt8)
  deriving DecidableEq, Repr

-- `nullByte` is the `TypeError` Python raises for a path with a NUL byte in it.
inductive OSError
  | enoent
  | enotdir
  | eisdir
  | eexist
  | enametoolong
  | nullByte
  deriving DecidableEq, Repr

structure FileSystem where
  node : List String → Option Node

namespace FileSystem

def set (fs : FileSystem) (p : List String) (n : Option Node) : FileSystem :=
  ⟨fun q => if q = p then n else fs.node q⟩

@[simp] theorem node_set (fs : FileSystem) (p q : List String) (n : Option Node) :
    (fs.set p n).node q = if q = p then n else fs.node q := rfl

def nameMax : Nat := 255

def tooLong (s : String) : Bool := nameMax < s.utf8ByteSize

def nameError (s : String) : Option OSError :=
  if Char.ofNat 0 ∈ s.data then some .nullByte
  else if tooLong s then some .enametoolong else none

def Fits (p : List String) : Prop := ∀ s ∈ p, nameError s = none

instance : DecidablePred Fits := fun p => inferInstanceAs (Decidable (∀ s ∈ p, _))

def dirError (fs : FileSystem) (q : List String) : Option OSError :=
  if tooLong (q.getLastD "") then some .enametoolong
  else
    match fs.node q with
    | some .dir => none
    | some (.file _) => some .enotdir
    | none => some .enoent

/-- Why a call refuses `p` before it reaches the node: a NUL byte anywhere, then the
directories above `p` from the top, then the length of its own name. -/
def lookupError (fs : FileSystem) (p : List String) : Option OSError :=
  if ∃ s ∈ p, Char.ofNat 0 ∈ s.data then some .nullByte
  else p.dropLast.inits.findSome? fs.dirError <|>
    if tooLong (p.getLastD "") then some .enametoolong else none

def mkdirs (fs : FileSystem) : List (List String) → EStateM.Result OSError FileSystem Unit
  | [] => .ok () fs
  | q :: qs =>
    match nameError (q.getLastD "") with
    | some e => .error e fs
    | none => mkdirs (fs.set q (some .dir)) qs

/-- `os.makedirs` on the paths from `attachmentsPath` down to the target, read top down: a
name `os.path.exists` cannot look up counts as missing. -/
def makedirsWalk (fs : FileSystem) : List (List String) → EStateM.Result OSError FileSystem Unit
  | [] => .error .eexist fs
  | q :: qs =>
    match nameError (q.getLastD ""), fs.node q with
    | none, some .dir => makedirsWalk fs qs
    | none, some (.file _) => .error (if qs = [] then .eexist else .enotdir) fs
    | _, _ => mkdirs fs (q :: qs)

def makedirs (fs : FileSystem) (p : List String) : EStateM.Result OSError FileSystem Unit :=
  if ∃ s ∈ p.dropLast, Char.ofNat 0 ∈ s.data then .error .nullByte fs
  else makedirsWalk fs p.inits

def newSibling (p : List String) : Option (List String) :=
  match p.reverse with
  | [] => none
  | s :: r => some (r.reverse ++ [s ++ ".new"])

def writeFile (fs : FileSystem) (p : List String) (content : List UInt8) :
    Except OSError FileSystem :=
  match fs.lookupError p with
  | some e => .error e
  | none => if fs.node p = some .dir then .error .eisdir else .ok (fs.set p (some (.file content)))

def rename (fs : FileSystem) (src dst : List String) : Except OSError FileSystem :=
  match fs.lookupError src <|> fs.lookupError dst with
  | some e => .error e
  | none =>
    if fs.node src = none then .error .enoent
    else if fs.node dst = some .dir then .error .eisdir
    else .ok ((fs.set dst (fs.node src)).set src none)

def setContent (p : List String) (content : List UInt8) : EStateM OSError FileSystem Unit :=
  fun fs =>
    match newSibling p with
    | none =>
      if fs.node [] = some .dir then .error .eisdir fs
      else .ok () (fs.set [] (some (.file content)))
    | some sib =>
      match writeFile fs sib content with
      | .error e => .error e fs
      | .ok fs₁ =>
        match rename fs₁ sib p with
        | .error e => .error e fs₁
        | .ok fs₂ => .ok () fs₂

def getContent (fs : FileSystem) (p : List String) : Except OSError (List UInt8) :=
  match fs.lookupError p with
  | some e => .error e
  | none =>
    match fs.node p with
    | some (.file content) => .ok content
    | some .dir => .error .eisdir
    | none => .error .enoent

def remove (fs : FileSystem) (p : List String) : Except OSError FileSystem :=
  match fs.lookupError p with
  | some e => .error e
  | none =>
    match fs.node p with
    | none => .error .enoent
    | some _ => .ok ⟨fun q => if p <+: q then none else fs.node q⟩

theorem utf8ByteSize_append (s t : String) :
    (s ++ t).utf8ByteSize = s.utf8ByteSize + t.utf8ByteSize := by
  cases s; cases t
  exact String.utf8Len_append _ _

theorem nameError_eq_none {s : String} :
    nameError s = none ↔ Char.ofNat 0 ∉ s.data ∧ tooLong s = false := by
  unfold nameError
  split_ifs <;> simp_all

theorem Fits.getLastD {p q : List String} (h : Fits p) (hq : q <+: p) :
    nameError (q.getLastD "") = none := by
  rcases List.eq_nil_or_concat q with rfl | ⟨L, b, rfl⟩
  · rfl
  · rw [List.concat_eq_append, List.getLastD_concat]
    exact h b (hq.subset (by simp))

theorem Fits.no_nul {p : List String} (h : Fits p) : ¬∃ s ∈ p, Char.ofNat 0 ∈ s.data :=
  fun ⟨s, hs, h0⟩ => (nameError_eq_none.mp (h s hs)).1 h0

theorem Fits.of_new {r : List String} {s : String} (h : Fits (r ++ [s ++ ".new"])) :
    Fits (r ++ [s]) := by
  intro x hx
  rcases List.mem_append.mp hx with hx | hx
  · exact h x (List.mem_append_left _ hx)
  · obtain ⟨hnul, hlong⟩ := nameError_eq_none.mp (h _ (List.mem_append_right _ (.head _)))
    rw [List.mem_singleton.mp hx]
    refine nameError_eq_none.mpr ⟨fun h0 => hnul (by simp [h0]), ?_⟩
    simp only [tooLong, decide_eq_false_iff_not, not_lt, utf8ByteSize_append] at hlong ⊢
    omega

theorem lookupError_eq_none {fs : FileSystem} {p : List String} (hfits : Fits p)
    (hdirs : ∀ q ∈ p.dropLast.inits, fs.node q = some .dir) : fs.lookupError p = none := by
  have hwalk : p.dropLast.inits.findSome? fs.dirError = none :=
    List.findSome?_eq_none_iff.mpr fun q hq => by
      have hq' := ((List.mem_inits _ _).mp hq).trans (List.dropLast_prefix p)
      simp only [dirError, (nameError_eq_none.mp (hfits.getLastD hq')).2, hdirs q hq,
        Bool.false_eq_true, if_false]
  rw [lookupError, if_neg hfits.no_nul, hwalk,
    (nameError_eq_none.mp (hfits.getLastD (List.prefix_refl p))).2]
  rfl

theorem lookupError_append {fs : FileSystem} {r : List String} {x : String}
    (hfits : Fits (r ++ [x])) (hr : ∀ q ∈ r.inits, fs.node q = some .dir) :
    fs.lookupError (r ++ [x]) = none :=
  lookupError_eq_none hfits (by rwa [List.dropLast_concat])

theorem Fits.of_append {p q : List String} (h : Fits (p ++ q)) : Fits p :=
  fun s hs => h s (List.mem_append_left _ hs)

theorem not_prefix_of_mem_inits {q r : List String} (hq : q ∈ r.inits) (x : String) :
    ¬r ++ [x] <+: q := fun h => by
  have := (h.trans ((List.mem_inits _ _).mp hq)).length_le
  simp at this

theorem ne_of_mem_inits {q r : List String} (hq : q ∈ r.inits) (x : String) : q ≠ r ++ [x] :=
  fun h => not_prefix_of_mem_inits hq x (h ▸ List.prefix_refl _)

theorem newSibling_append (r : List String) (s : String) :
    newSibling (r ++ [s]) = some (r ++ [s ++ ".new"]) := by
  simp [newSibling]

theorem foldl_set_dir_node (fs : FileSystem) (qs : List (List String)) (q : List String) :
    (qs.foldl (fun fs q => fs.set q (some .dir)) fs).node q =
      if q ∈ qs then some .dir else fs.node q := by
  induction qs generalizing fs with
  | nil => simp
  | cons q' qs ih =>
    rw [List.foldl_cons, ih]
    by_cases h : q ∈ qs <;> by_cases h' : q = q' <;> simp [h, h']

theorem mkdirs_eq (fs : FileSystem) {qs : List (List String)}
    (h : ∀ q ∈ qs, nameError (q.getLastD "") = none) :
    mkdirs fs qs = .ok () (qs.foldl (fun fs q => fs.set q (some .dir)) fs) := by
  induction qs generalizing fs with
  | nil => rfl
  | cons q qs ih =>
    simp only [mkdirs, h q (.head _), List.foldl_cons]
    exact ih _ fun q' hq' => h q' (.tail _ hq')

theorem makedirsWalk_node {fs : FileSystem} {qs : List (List String)}
    (hname : ∀ q ∈ qs, nameError (q.getLastD "") = none)
    (hf : ∀ q ∈ qs, ∀ c, fs.node q ≠ some (.file c)) :
    ∃ fs', (makedirsWalk fs qs = .ok () fs' ∨ makedirsWalk fs qs = .error .eexist fs') ∧
      ∀ q, fs'.node q = if q ∈ qs then some .dir else fs.node q := by
  induction qs with
  | nil => exact ⟨fs, .inr rfl, fun q => by simp⟩
  | cons q' qs ih =>
    have hq' := hname q' (.head _)
    cases hn : fs.node q' with
    | none =>
      refine ⟨_, .inl ?_, foldl_set_dir_node fs _⟩
      simp only [makedirsWalk, hq', hn]
      exact mkdirs_eq fs hname
    | some n =>
      cases n with
      | file c => exact absurd hn (hf q' (.head _) c)
      | dir =>
        obtain ⟨fs', hwalk, hnode⟩ :=
          ih (fun q hq => hname q (.tail _ hq)) (fun q hq => hf q (.tail _ hq))
        refine ⟨fs', by simpa only [makedirsWalk, hq', hn] using hwalk, fun q => ?_⟩
        rw [hnode q]
        by_cases h : q = q' <;> simp [h, hn]

theorem makedirs_node {fs : FileSystem} {p : List String} (hfits : Fits p)
    (hf : ∀ q ∈ p.inits, ∀ c, fs.node q ≠ some (.file c)) :
    ∃ fs', (makedirs fs p = .ok () fs' ∨ makedirs fs p = .error .eexist fs') ∧
      ∀ q, fs'.node q = if q ∈ p.inits then some .dir else fs.node q := by
  have hnul : ¬∃ s ∈ p.dropLast, Char.ofNat 0 ∈ s.data :=
    fun ⟨s, hs, h0⟩ => hfits.no_nul ⟨s, List.dropLast_subset _ hs, h0⟩
  simp only [makedirs, if_neg hnul]
  exact makedirsWalk_node (fun q hq => hfits.getLastD ((List.mem_inits _ _).mp hq)) hf

theorem append_new_ne (s : String) : s ++ ".new" ≠ s := fun h => by
  have := congrArg String.length h
  simp only [String.length_append, Nat.add_right_eq_self] at this
  exact absurd this (by decide)

theorem setContent_ok {fs : FileSystem} {r : List String} {s : String} (content : List UInt8)
    (hr : ∀ q ∈ r.inits, fs.node q = some .dir) (hfits : Fits (r ++ [s ++ ".new"]))
    (hsib : fs.node (r ++ [s ++ ".new"]) ≠ some .dir) (hp : fs.node (r ++ [s]) ≠ some .dir) :
    ∃ fs', setContent (r ++ [s]) content fs = .ok () fs' ∧
      fs'.node (r ++ [s]) = some (.file content) ∧ fs'.node (r ++ [s ++ ".new"]) = none ∧
      ∀ q, q ≠ r ++ [s] → q ≠ r ++ [s ++ ".new"] → fs'.node q = fs.node q := by
  have hne : r ++ [s] ≠ r ++ [s ++ ".new"] := fun h => append_new_ne s (by simpa using h.symm)
  let fs₁ := fs.set (r ++ [s ++ ".new"]) (some (.file content))
  have hr₁ : ∀ q ∈ r.inits, fs₁.node q = some .dir := fun q hq => by
    rw [node_set, if_neg (ne_of_mem_inits hq _), hr q hq]
  have hw : writeFile fs (r ++ [s ++ ".new"]) content = .ok fs₁ := by
    simp [writeFile, lookupError_append hfits hr, hsib, fs₁]
  have hrn : rename fs₁ (r ++ [s ++ ".new"]) (r ++ [s]) =
      .ok ((fs₁.set (r ++ [s]) (some (.file content))).set (r ++ [s ++ ".new"]) none) := by
    simp [rename, lookupError_append hfits hr₁, lookupError_append hfits.of_new hr₁, hne, hp, fs₁]
  refine ⟨(fs₁.set (r ++ [s]) (some (.file content))).set (r ++ [s ++ ".new"]) none,
    by simp only [setContent, newSibling_append, hw, hrn], ?_, ?_, fun q h₁ h₂ => ?_⟩
  · simp [hne]
  · simp
  · simp [h₁, h₂, fs₁]

theorem getContent_file {fs : FileSystem} {r : List String} {x : String} {content : List UInt8}
    (hfits : Fits (r ++ [x])) (hr : ∀ q ∈ r.inits, fs.node q = some .dir)
    (h : fs.node (r ++ [x]) = some (.file content)) : fs.getContent (r ++ [x]) = .ok content := by
  simp [getContent, lookupError_append hfits hr, h]

theorem getContent_missing {fs : FileSystem} {r : List String} {x : String}
    (hfits : Fits (r ++ [x])) (hr : ∀ q ∈ r.inits, fs.node q = some .dir)
    (h : fs.node (r ++ [x]) = none) : fs.getContent (r ++ [x]) = .error .enoent := by
  simp [getContent, lookupError_append hfits hr, h]

theorem remove_file {fs : FileSystem} {r : List String} {x : String} {content : List UInt8}
    (hfits : Fits (r ++ [x])) (hr : ∀ q ∈ r.inits, fs.node q = some .dir)
    (h : fs.node (r ++ [x]) = some (.file content)) :
    ∃ fs', fs.remove (r ++ [x]) = .ok fs' ∧ (∀ q ∈ r.inits, fs'.node q = some .dir) ∧
      fs'.node (r ++ [x]) = none := by
  refine ⟨⟨fun q => if r ++ [x] <+: q then none else fs.node q⟩,
    by simp only [remove, lookupError_append hfits hr, h], fun q hq => ?_, if_pos (List.prefix_refl _)⟩
  exact (if_neg (not_prefix_of_mem_inits hq x)).trans (hr q hq)

end FileSystem

end CaldavDatastore
