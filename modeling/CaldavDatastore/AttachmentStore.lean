import CaldavDatastore.Tables
import CaldavDatastore.FileSystem
import CaldavDatastore.Md5
import CaldavDatastore.TimestampText

/-!
The attachment code of a calendar object. Statements run in the open transaction, whose tables
are `db`; `committed` holds what the last commit made durable. Files are written at once and a
rollback does not undo them. A content type is kept as the text `generateContentType` renders.
-/
namespace CaldavDatastore

structure AttachmentObject where
  resourceID : Nat
  homeName : String
  uid : String
  deriving DecidableEq, Repr

structure Attachment where
  calendarObject : AttachmentObject
  name : String
  deriving DecidableEq, Repr

def Attachment.path (a : Attachment) : Except InsecurePath (List String) :=
  attachmentPath a.calendarObject.homeName a.calendarObject.uid a.name

-- `hash` is the bytes `self.hash` was updated with, and `txn` the transaction of `_txn`.
structure AttachmentStorageTransport where
  attachment : Attachment
  contentType : String
  buf : List UInt8
  hash : List UInt8
  txn : Nat
  deriving DecidableEq, Repr

inductive AttachmentError
  | sql (e : SqlError)
  | insecurePath (e : InsecurePath)
  | os (e : OSError)
  | alreadyFinished
  | value (message : String)
  deriving DecidableEq, Repr

structure Store where
  db : Database
  committed : Database
  fs : FileSystem
  postCommit : List (List String)
  txn : Nat

namespace Store

def execSQL (st : Statement) : EStateM AttachmentError Store Unit := fun s =>
  match s.db.exec st with
  | .ok (_, db) => .ok () { s with db := db }
  | .error e => .error (.sql e) s

def execSQLIn (txn : Nat) (st : Statement) : EStateM AttachmentError Store Unit := fun s =>
  if txn = s.txn then execSQL st s else .error .alreadyFinished s

def setContent (p : List String) (content : List UInt8) : EStateM AttachmentError Store Unit :=
  fun s =>
    match FileSystem.setContent p content s.fs with
    | .ok () fs => .ok () { s with fs := fs }
    | .error e fs => .error (.os e) { s with fs := fs }

end Store

def raisePath {α : Type} : Except InsecurePath α → EStateM AttachmentError Store α
  | .ok a => pure a
  | .error e => throw (.insecurePath e)

/-- `try: self._attachmentPathRoot().makedirs() except: pass`. -/
def makedirsQuietly (o : AttachmentObject) (fs : FileSystem) : FileSystem :=
  match attachmentPathRoot o.homeName o.uid with
  | .error _ => fs
  | .ok root =>
    match fs.makedirs root with
    | .ok () fs' => fs'
    | .error _ fs' => fs'

def createAttachmentWithName (o : AttachmentObject) (name contentType : String) :
    EStateM AttachmentError Store AttachmentStorageTransport := do
  modify fun s => { s with fs := makedirsQuietly o s.fs }
  Store.execSQL (.insertAttachment o.resourceID contentType 0 "" name)
  return ⟨⟨o, name⟩, contentType, [], [], (← get).txn⟩

namespace AttachmentStorageTransport

def write (sk : AttachmentStorageTransport) (data : List UInt8) : AttachmentStorageTransport :=
  { sk with buf := sk.buf ++ data, hash := sk.hash ++ data }

def loseConnection (sk : AttachmentStorageTransport) : EStateM AttachmentError Store Unit := do
  Store.setContent (← raisePath sk.attachment.path) sk.buf
  Store.execSQLIn sk.txn
    (.updateAttachment sk.contentType sk.buf.length (md5 sk.hash) sk.attachment.name)

end AttachmentStorageTransport

def removeAttachmentWithName (o : AttachmentObject) (name : String) :
    EStateM AttachmentError Store Unit := do
  let p ← raisePath (Attachment.mk o name).path
  modify fun s => { s with postCommit := s.postCommit ++ [p] }
  Store.execSQL (.deleteAttachment o.resourceID name)

structure AttachmentRecord where
  contentType : String
  size : Nat
  md5 : String
  created : Int
  modified : Int
  deriving DecidableEq, Repr

def parseColumn (t : Timestamp) : Except AttachmentError Timestamp :=
  (strptime (renderTimestamp t)).mapError .value

section Populate

-- `twistedcaldav.dateops.datetimeMktime`, which is not in the repository.
variable (datetimeMktime : Timestamp → Int)

def AttachmentRecord.ofRow (row : AttachmentRow) : Except AttachmentError AttachmentRecord := do
  let created ← parseColumn row.created
  let modified ← parseColumn row.modified
  pure ⟨row.contentType, row.size, row.md5, datetimeMktime created, datetimeMktime modified⟩

def Attachment.populate (a : Attachment) (db : Database) :
    Except AttachmentError (Option AttachmentRecord) :=
  match db.attachment.filter (·.path = a.name) with
  | [] => pure none
  | row :: _ => some <$> AttachmentRecord.ofRow datetimeMktime row

def attachmentWithName (o : AttachmentObject) (name : String) (s : Store) :
    Except AttachmentError (Option AttachmentRecord) :=
  (Attachment.mk o name).populate datetimeMktime s.db

def attachments (o : AttachmentObject) (s : Store) :
    Except AttachmentError (List (Option AttachmentRecord)) :=
  ((s.db.attachment.filter (·.calendarObjectResourceId = o.resourceID)).map (·.path)).mapM
    fun name => attachmentWithName datetimeMktime o name s

end Populate

def Attachment.retrieve (a : Attachment) (s : Store) : Except AttachmentError (List UInt8) :=
  match a.path with
  | .error e => .error (.insecurePath e)
  | .ok p => (s.fs.getContent p).mapError .os

def Store.empty (db : Database) : Store :=
  ⟨db, db, ⟨fun p => if p = [] then some .dir else none⟩, [], 0⟩

def runPostCommit : List (List String) → EStateM OSError FileSystem Unit
  | [] => pure ()
  | p :: ps => fun fs =>
    match fs.remove p with
    | .ok fs' => runPostCommit ps fs'
    | .error e => .error e fs

def commit (now : Timestamp) : EStateM AttachmentError Store Unit := fun s =>
  let s' := { s with committed := s.db, db := { s.db with now := now }, postCommit := [],
                     txn := s.txn + 1 }
  match runPostCommit s.postCommit s.fs with
  | .ok () fs => .ok () { s' with fs := fs }
  | .error e fs => .error (.os e) { s' with fs := fs }

def rollback (now : Timestamp) (s : Store) : Store :=
  { s with db := { s.committed with now := now }, postCommit := [], txn := s.txn + 1 }

/-- A client's round with a new sink: `createAttachmentWithName`, one `write` per chunk, and
`loseConnection`. -/
def storeAttachment (o : AttachmentObject) (name contentType : String)
    (chunks : List (List UInt8)) : EStateM AttachmentError Store Unit := do
  let sk ← createAttachmentWithName o name contentType
  (chunks.foldl AttachmentStorageTransport.write sk).loseConnection

theorem Database.violation_insertAttachment {db : Database} {rid : Nat} {path : String}
    (ho : db.hasObject rid = true) (hfree : ∀ a ∈ db.attachment, a.path ≠ path)
    (contentType : String) (size : Nat) (md5 : String) :
    db.violation (.insertAttachment rid contentType size md5 path) = none := by
  simp only [Database.violation, ho, Bool.not_true, Bool.false_eq_true, if_false, ite_eq_right_iff,
    List.any_eq_true, beq_iff_eq]
  rintro ⟨a, ha, he⟩
  exact absurd he (hfree a ha)

theorem AttachmentStorageTransport.foldl_write (sk : AttachmentStorageTransport)
    (chunks : List (List UInt8)) :
    chunks.foldl write sk =
      { sk with buf := sk.buf ++ chunks.flatten, hash := sk.hash ++ chunks.flatten } := by
  induction chunks generalizing sk with
  | nil => simp
  | cons d ds ih => simp [ih, write]

theorem Store.execSQL_eq_ok {st : Statement} {s s' : Store} (h : Store.execSQL st s = .ok () s') :
    s' = { s with db := s.db.apply st } ∧ s.db.violation st = none := by
  unfold Store.execSQL at h
  split at h
  · rename_i hx
    cases h
    exact ⟨by rw [(Database.exec_eq_ok hx).2], (Database.exec_eq_ok hx).1⟩
  · cases h

theorem createAttachmentWithName_eq (o : AttachmentObject) (name contentType : String)
    (s : Store) :
    createAttachmentWithName o name contentType s =
      match s.db.exec (.insertAttachment o.resourceID contentType 0 "" name) with
      | .ok (_, db) =>
        .ok ⟨⟨o, name⟩, contentType, [], [], s.txn⟩
          { s with fs := makedirsQuietly o s.fs, db := db }
      | .error e => .error (.sql e) { s with fs := makedirsQuietly o s.fs } := by
  cases h : s.db.exec (.insertAttachment o.resourceID contentType 0 "" name) <;>
    simp [createAttachmentWithName, Store.execSQL, h, bind, EStateM.bind, modify, modifyGet,
      EStateM.modifyGet, get, EStateM.get, pure, EStateM.pure, getThe, MonadStateOf.get,
      MonadStateOf.modifyGet]

theorem createAttachmentWithName_eq_ok {o : AttachmentObject} {name contentType : String}
    {s s' : Store} {sk : AttachmentStorageTransport}
    (h : createAttachmentWithName o name contentType s = .ok sk s') :
    sk = ⟨⟨o, name⟩, contentType, [], [], s.txn⟩ ∧
      s.db.violation (.insertAttachment o.resourceID contentType 0 "" name) = none ∧
      s' = { s with fs := makedirsQuietly o s.fs,
                    db := s.db.apply (.insertAttachment o.resourceID contentType 0 "" name) } := by
  rw [createAttachmentWithName_eq] at h
  cases hv : s.db.violation (.insertAttachment o.resourceID contentType 0 "" name) with
  | some e => simp [Database.exec, hv] at h
  | none =>
    simp only [Database.exec, hv] at h
    cases h
    exact ⟨rfl, rfl, rfl⟩

theorem loseConnection_eq {sk : AttachmentStorageTransport} {p : List String}
    (hp : sk.attachment.path = .ok p) (s : Store) :
    sk.loseConnection s =
      match FileSystem.setContent p sk.buf s.fs with
      | .ok () fs => Store.execSQLIn sk.txn
          (.updateAttachment sk.contentType sk.buf.length (md5 sk.hash) sk.attachment.name)
          { s with fs := fs }
      | .error e fs => .error (.os e) { s with fs := fs } := by
  cases h : FileSystem.setContent p sk.buf s.fs <;>
    simp [AttachmentStorageTransport.loseConnection, Store.setContent, hp, h, raisePath, bind,
      EStateM.bind, pure, EStateM.pure]

theorem loseConnection_eq_ok {sk : AttachmentStorageTransport} {s s' : Store}
    (h : sk.loseConnection s = .ok () s') :
    s'.db = s.db.apply
      (.updateAttachment sk.contentType sk.buf.length (md5 sk.hash) sk.attachment.name) ∧
      s'.committed = s.committed := by
  cases hp : sk.attachment.path with
  | error e =>
    simp [AttachmentStorageTransport.loseConnection, hp, raisePath, bind, EStateM.bind, throw,
      throwThe, MonadExceptOf.throw, EStateM.throw] at h
  | ok p =>
    rw [loseConnection_eq hp] at h
    split at h
    · unfold Store.execSQLIn at h
      split at h
      · obtain ⟨rfl, -⟩ := Store.execSQL_eq_ok h
        exact ⟨rfl, rfl⟩
      · cases h
    · cases h

theorem Store.execSQL_deleteAttachment_absent {s : Store} {rid : Nat} {path : String}
    (h : ∀ a ∈ s.db.attachment, a.calendarObjectResourceId = rid → a.path ≠ path) :
    Store.execSQL (.deleteAttachment rid path) s = .ok () s := by
  simp only [Store.execSQL,
    Database.exec_ok (rfl : s.db.violation (.deleteAttachment rid path) = none),
    Database.apply_deleteAttachment_absent h]

theorem removeAttachmentWithName_eq (o : AttachmentObject) (name : String) (s : Store) :
    removeAttachmentWithName o name s =
      match (Attachment.mk o name).path with
      | .error e => .error (.insecurePath e) s
      | .ok p => Store.execSQL (.deleteAttachment o.resourceID name)
          { s with postCommit := s.postCommit ++ [p] } := by
  cases hp : (Attachment.mk o name).path <;>
    simp only [removeAttachmentWithName, hp, raisePath, bind, EStateM.bind, throw, throwThe,
      MonadExceptOf.throw, EStateM.throw, pure, EStateM.pure, modify, modifyGet,
      MonadStateOf.modifyGet, EStateM.modifyGet]

theorem runPostCommit_append (ps qs : List (List String)) (fs : FileSystem) :
    runPostCommit (ps ++ qs) fs =
      match runPostCommit ps fs with
      | .ok () fs' => runPostCommit qs fs'
      | .error e fs' => .error e fs' := by
  induction ps generalizing fs with
  | nil => rfl
  | cons p ps ih =>
    simp only [List.cons_append, runPostCommit]
    cases fs.remove p
    · rfl
    · exact ih _

theorem commit_postCommit_append (now : Timestamp) (s : Store) (p : List String) :
    commit now { s with postCommit := s.postCommit ++ [p] } =
      match commit now s with
      | .ok () s' =>
        match s'.fs.lookupError p with
        | some e => .error (.os e) s'
        | none =>
          if s'.fs.node p = none then .error (.os .enoent) s'
          else .ok () { s' with fs := ⟨fun q => if p <+: q then none else s'.fs.node q⟩ }
      | .error e s' => .error e s' := by
  unfold commit
  rw [runPostCommit_append]
  rcases runPostCommit s.postCommit s.fs with ⟨⟨⟩, fs⟩ | ⟨e, fs⟩
  · simp only [runPostCommit, FileSystem.remove]
    cases fs.lookupError p with
    | some e => rfl
    | none => cases fs.node p <;> rfl
  · rfl

theorem Attachment.retrieve_file {a : Attachment} {s : Store} {r : List String} {x : String}
    {content : List UInt8} (hp : a.path = .ok (r ++ [x])) (hfits : FileSystem.Fits (r ++ [x]))
    (hr : ∀ q ∈ r.inits, s.fs.node q = some .dir)
    (hf : s.fs.node (r ++ [x]) = some (.file content)) : a.retrieve s = .ok content := by
  simp [Attachment.retrieve, hp, FileSystem.getContent_file hfits hr hf, Except.mapError]

theorem makedirsQuietly_node {o : AttachmentObject} {root : List String} {fs : FileSystem}
    (hroot : attachmentPathRoot o.homeName o.uid = .ok root) (hfits : FileSystem.Fits root)
    (hway : ∀ q ∈ root.inits, ∀ c, fs.node q ≠ some (.file c)) (q : List String) :
    (makedirsQuietly o fs).node q = if q ∈ root.inits then some .dir else fs.node q := by
  obtain ⟨fs', hmk | hmk, hnode⟩ := FileSystem.makedirs_node hfits hway <;>
    simp only [makedirsQuietly, hroot, hmk, hnode]

theorem attachmentPath_of_root {g u name : String} {root : List String}
    (hroot : attachmentPathRoot g u = .ok root) (hn : Segment name) :
    attachmentPath g u name = .ok (root ++ [name]) := by
  simp [attachmentPath, hroot, child_segment _ hn, bind, Except.bind]

theorem storeAttachment_eq_ok {s : Store} {o : AttachmentObject} {name : String}
    {root : List String} (contentType : String) (chunks : List (List UInt8))
    (ho : s.db.hasObject o.resourceID = true) (hfree : ∀ a ∈ s.db.attachment, a.path ≠ name)
    (hn : Segment name) (hroot : attachmentPathRoot o.homeName o.uid = .ok root)
    (hfits : FileSystem.Fits (root ++ [name ++ ".new"]))
    (hway : ∀ q ∈ root.inits, ∀ c, s.fs.node q ≠ some (.file c))
    (hpath : s.fs.node (root ++ [name]) ≠ some .dir)
    (hsib : s.fs.node (root ++ [name ++ ".new"]) ≠ some .dir) :
    ∃ fs', (∀ q ∈ root.inits, fs'.node q = some .dir) ∧
      fs'.node (root ++ [name]) = some (.file chunks.flatten) ∧
      storeAttachment o name contentType chunks s = .ok () { s with
        fs := fs'
        db := (s.db.apply (.insertAttachment o.resourceID contentType 0 "" name)).apply
          (.updateAttachment contentType chunks.flatten.length (md5 chunks.flatten) name) } := by
  have hnode := makedirsQuietly_node hroot hfits.of_append hway
  have hr : ∀ q ∈ root.inits, (makedirsQuietly o s.fs).node q = some .dir := fun q hq => by
    rw [hnode, if_pos hq]
  have hout : ∀ x, (makedirsQuietly o s.fs).node (root ++ [x]) = s.fs.node (root ++ [x]) :=
    fun x => by rw [hnode, if_neg fun h => FileSystem.ne_of_mem_inits h x rfl]
  obtain ⟨fs', hset, hfile, -, hframe⟩ := FileSystem.setContent_ok chunks.flatten hr hfits
    ((hout _).trans_ne hsib) ((hout _).trans_ne hpath)
  refine ⟨fs', fun q hq => (hframe q (FileSystem.ne_of_mem_inits hq _)
    (FileSystem.ne_of_mem_inits hq _)).trans (hr q hq), hfile, ?_⟩
  simp only [storeAttachment, bind, EStateM.bind, createAttachmentWithName_eq,
    Database.exec_ok (Database.violation_insertAttachment ho hfree contentType 0 "")]
  rw [AttachmentStorageTransport.foldl_write, @loseConnection_eq
    ⟨⟨o, name⟩, contentType, [] ++ chunks.flatten, [] ++ chunks.flatten, s.txn⟩ _
    (attachmentPath_of_root hroot hn)]
  simp only [List.nil_append, hset, Store.execSQLIn, if_true, Store.execSQL]
  rfl

theorem storeAttachment_round_trip {s : Store} {o : AttachmentObject} {name : String}
    {root : List String} (contentType : String) (chunks : List (List UInt8))
    (ho : s.db.hasObject o.resourceID = true) (hfree : ∀ a ∈ s.db.attachment, a.path ≠ name)
    (hn : Segment name) (hroot : attachmentPathRoot o.homeName o.uid = .ok root)
    (hfits : FileSystem.Fits (root ++ [name ++ ".new"]))
    (hway : ∀ q ∈ root.inits, ∀ c, s.fs.node q ≠ some (.file c))
    (hpath : s.fs.node (root ++ [name]) ≠ some .dir)
    (hsib : s.fs.node (root ++ [name ++ ".new"]) ≠ some .dir) :
    ∃ s', storeAttachment o name contentType chunks s = .ok () s' ∧
      s'.db.attachment = s.db.attachment ++
        [⟨o.resourceID, contentType, chunks.flatten.length, md5 chunks.flatten, name, s.db.now,
          s.db.now⟩] ∧
      (Attachment.mk o name).retrieve s' = .ok chunks.flatten := by
  obtain ⟨fs', hdirs, hfile, hst⟩ :=
    storeAttachment_eq_ok contentType chunks ho hfree hn hroot hfits hway hpath hsib
  refine ⟨_, hst, ?_,
    Attachment.retrieve_file (attachmentPath_of_root hroot hn) hfits.of_new hdirs hfile⟩
  simp only [Database.apply, List.map_append, List.map_cons, List.map_nil, if_true]
  congr 1
  exact (List.map_congr_left fun a ha => if_neg (hfree a ha)).trans (List.map_id' _)

theorem storeAttachment_round_trip_two_chunks :
    let db : Database := (Database.mk [7] [] [] [] [] 1 0 ⟨2024, 1, 1, 12, 0, 0, 250⟩).apply
      (.insertCalendarObject 7 "event.ics" "BEGIN:VCALENDAR" "uid1" "VEVENT" 0 "" none)
    let o : AttachmentObject := ⟨1, "home01", "uid1"⟩
    ∃ s', storeAttachment o "a.txt" "text/plain" [[104], [105]] (Store.empty db) = .ok () s' ∧
      s'.db.attachment = (Store.empty db).db.attachment ++
        [⟨1, "text/plain", [[104], [105]].flatten.length, md5 [[104], [105]].flatten, "a.txt",
          ⟨2024, 1, 1, 12, 0, 0, 250⟩, ⟨2024, 1, 1, 12, 0, 0, 250⟩⟩] ∧
      (Attachment.mk o "a.txt").retrieve s' = .ok [[104], [105]].flatten := by
  intro db o
  exact @storeAttachment_round_trip (Store.empty db) o "a.txt" ["ho", "me", "home01", "uid1"]
    "text/plain" [[104], [105]] (by decide) (by decide) (by decide) rfl (by decide)
    (fun q _ c => by show (if q = [] then some Node.dir else none) ≠ _; split <;> simp)
    (by decide) (by decide)

theorem storeAttachment_dot_name :
    let db : Database := (Database.mk [7] [] [] [] [] 1 0 ⟨2024, 1, 1, 12, 0, 0, 250⟩).apply
      (.insertCalendarObject 7 "event.ics" "BEGIN:VCALENDAR" "uid1" "VEVENT" 0 "" none)
    let o : AttachmentObject := ⟨1, "home01", "uid1"⟩
    ∃ s', storeAttachment o "." "text/plain" [[104, 105]] (Store.empty db) =
        .error (.os .eisdir) s' ∧
      s'.db.attachment = [⟨1, "text/plain", 0, "", ".", ⟨2024, 1, 1, 12, 0, 0, 250⟩,
        ⟨2024, 1, 1, 12, 0, 0, 250⟩⟩] ∧
      (Attachment.mk o ".").retrieve s' = .error (.os .eisdir) :=
  ⟨_, rfl, rfl, rfl⟩

end CaldavDatastore
