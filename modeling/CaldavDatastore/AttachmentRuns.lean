import CaldavDatastore.AttachmentStore

namespace CaldavDatastore

def resultState {ε σ α : Type} : EStateM.Result ε σ α → σ
  | .ok _ s => s
  | .error _ s => s

structure System where
  store : Store
  sinks : List AttachmentStorageTransport

inductive Step : System → System → Prop
  | create (sys : System) (o : AttachmentObject) (name contentType : String)
      {sk : AttachmentStorageTransport} {s : Store}
      (h : createAttachmentWithName o name contentType sys.store = .ok sk s) :
      Step sys ⟨s, sys.sinks ++ [sk]⟩
  | createRaises (sys : System) (o : AttachmentObject) (name contentType : String)
      {e : AttachmentError} {s : Store}
      (h : createAttachmentWithName o name contentType sys.store = .error e s) :
      Step sys ⟨s, sys.sinks⟩
  | write (sys : System) (i : Nat) (hi : i < sys.sinks.length) (data : List UInt8) :
      Step sys ⟨sys.store, sys.sinks.set i (sys.sinks[i].write data)⟩
  | loseConnection (sys : System) {sk : AttachmentStorageTransport} (hsk : sk ∈ sys.sinks) :
      Step sys ⟨resultState (sk.loseConnection sys.store), sys.sinks⟩
  | remove (sys : System) (o : AttachmentObject) (name : String) :
      Step sys ⟨resultState (removeAttachmentWithName o name sys.store), sys.sinks⟩
  | commit (sys : System) (now : Timestamp) :
      Step sys ⟨resultState (commit now sys.store), sys.sinks⟩
  | rollback (sys : System) (now : Timestamp) :
      Step sys ⟨rollback now sys.store, sys.sinks⟩

inductive System.Reachable : System → Prop
  | init (db : Database) (h : db.attachment = []) : Reachable ⟨Store.empty db, []⟩
  | step {sys sys' : System} : Reachable sys → Step sys sys' → Reachable sys'

def Database.PathsUnique (db : Database) : Prop := (db.attachment.map (·.path)).Nodup

structure System.Inv (sys : System) : Prop where
  paths : sys.store.db.PathsUnique
  committedPaths : sys.store.committed.PathsUnique
  hashBuf : ∀ sk ∈ sys.sinks, sk.hash = sk.buf

theorem Database.PathsUnique.apply {db : Database} (h : db.PathsUnique) {st : Statement}
    (hv : db.violation st = none) : (db.apply st).PathsUnique := by
  cases st with
  | insertAttachment rid contentType size md5 path =>
    have hpath : path ∉ db.attachment.map (·.path) := fun hm => by
      obtain ⟨a, ha, he⟩ := List.mem_map.mp hm
      simp only [Database.violation, List.any_eq_true, beq_iff_eq] at hv
      split at hv
      · cases hv
      · exact absurd hv (by rw [if_pos ⟨a, ha, he⟩]; simp)
    simpa [Database.PathsUnique, Database.apply, List.nodup_append, hpath] using h
  | deleteAttachment rid path => exact ((List.filter_sublist _).map _).nodup h
  | updateAttachment contentType size md5 path =>
    unfold Database.PathsUnique at h ⊢
    simp only [Database.apply, List.map_map]
    convert h using 2
    funext a
    simp only [Function.comp]
    split <;> rfl
  | _ => exact h

def Store.Executes (s s' : Store) : Prop :=
  s'.committed = s.committed ∧
    (s'.db = s.db ∨ ∃ st, s.db.violation st = none ∧ s'.db = s.db.apply st)

theorem Store.Executes.paths {s s' : Store} (h : s.Executes s') (hp : s.db.PathsUnique) :
    s'.db.PathsUnique := by
  rcases h.2 with he | ⟨st, hv, he⟩ <;> rw [he]
  · exact hp
  · exact hp.apply hv

theorem Store.Executes.of_db {s s' : Store} (h : s'.committed = s.committed)
    (hdb : s'.db = s.db) : s.Executes s' := ⟨h, .inl hdb⟩

theorem Store.Executes.of_exec {s s' : Store} {st : Statement} {r : Nat} {db : Database}
    (h : s.db.exec st = .ok (r, db)) (hc : s'.committed = s.committed) (hdb : s'.db = db) :
    s.Executes s' :=
  ⟨hc, .inr ⟨st, (Database.exec_eq_ok h).1, hdb.trans (Database.exec_eq_ok h).2⟩⟩

theorem execSQL_executes (st : Statement) (s : Store) :
    s.Executes (resultState (Store.execSQL st s)) := by
  unfold Store.execSQL
  split
  · exact .of_exec ‹_› rfl rfl
  · exact .of_db rfl rfl

theorem createAttachmentWithName_executes (o : AttachmentObject) (name contentType : String)
    (s : Store) : s.Executes (resultState (createAttachmentWithName o name contentType s)) := by
  rw [createAttachmentWithName_eq]
  split
  · exact .of_exec ‹_› rfl rfl
  · exact .of_db rfl rfl

theorem loseConnection_executes (sk : AttachmentStorageTransport) (s : Store) :
    s.Executes (resultState (sk.loseConnection s)) := by
  cases hp : sk.attachment.path with
  | error e =>
    simp only [AttachmentStorageTransport.loseConnection, hp, raisePath, bind, EStateM.bind,
      throw, throwThe, MonadExceptOf.throw, EStateM.throw, resultState]
    exact .of_db rfl rfl
  | ok p =>
    rw [loseConnection_eq hp]
    split
    · rename_i fs _
      unfold Store.execSQLIn
      split
      · exact execSQL_executes _ { s with fs := fs }
      · exact .of_db rfl rfl
    · exact .of_db rfl rfl

theorem removeAttachmentWithName_executes (o : AttachmentObject) (name : String) (s : Store) :
    s.Executes (resultState (removeAttachmentWithName o name s)) := by
  rw [removeAttachmentWithName_eq]
  split
  · exact .of_db rfl rfl
  · exact execSQL_executes _ _

theorem commit_tables (now : Timestamp) (s : Store) :
    (resultState (commit now s)).committed = s.db ∧
      (resultState (commit now s)).db = { s.db with now := now } := by
  unfold commit
  split <;> exact ⟨rfl, rfl⟩

theorem System.Inv.executes {sys : System} (h : sys.Inv) {s : Store}
    (hx : sys.store.Executes s) : System.Inv ⟨s, sys.sinks⟩ :=
  ⟨hx.paths h.paths, hx.1 ▸ h.committedPaths, h.hashBuf⟩

theorem Step.inv {sys sys' : System} (hs : Step sys sys') (h : sys.Inv) : sys'.Inv := by
  cases hs with
  | create o name contentType hc =>
    have hx := createAttachmentWithName_executes o name contentType sys.store
    rw [hc] at hx
    refine ⟨(h.executes hx).paths, (h.executes hx).committedPaths, fun sk hsk => ?_⟩
    rcases List.mem_append.mp hsk with hsk | hsk
    · exact h.hashBuf sk hsk
    · rw [List.mem_singleton.mp hsk, (createAttachmentWithName_eq_ok hc).1]
  | createRaises o name contentType hc =>
    have hx := createAttachmentWithName_executes o name contentType sys.store
    rw [hc] at hx
    exact h.executes hx
  | write i hi data =>
    refine ⟨h.paths, h.committedPaths, fun sk hsk => ?_⟩
    rcases List.mem_or_eq_of_mem_set hsk with hsk | rfl
    · exact h.hashBuf sk hsk
    · simp [AttachmentStorageTransport.write, h.hashBuf _ (List.getElem_mem hi)]
  | @loseConnection sk hsk => exact h.executes (loseConnection_executes sk sys.store)
  | remove o name => exact h.executes (removeAttachmentWithName_executes o name sys.store)
  | commit now =>
    obtain ⟨hc, hd⟩ := commit_tables now sys.store
    exact ⟨hd ▸ h.paths, hc ▸ h.paths, h.hashBuf⟩
  | rollback now => exact ⟨h.committedPaths, h.committedPaths, h.hashBuf⟩

theorem System.Reachable.inv {sys : System} (h : sys.Reachable) : sys.Inv := by
  induction h with
  | init db h =>
    have hp : db.PathsUnique := by simp [Database.PathsUnique, h]
    exact ⟨hp, hp, nofun⟩
  | step _ hs ih => exact hs.inv ih

theorem loseConnection_records_buffer {sys : System} (hsys : sys.Reachable)
    {sk : AttachmentStorageTransport} (hsk : sk ∈ sys.sinks) {s' : Store}
    (h : sk.loseConnection sys.store = .ok () s') :
    ∀ a ∈ s'.db.attachment, a.path = sk.attachment.name →
      a.size = sk.buf.length ∧ a.md5 = md5 sk.buf := by
  intro a ha hpath
  rw [(loseConnection_eq_ok h).1, hsys.inv.hashBuf sk hsk] at ha
  obtain ⟨b, -, rfl⟩ := List.mem_map.mp ha
  by_cases hb : b.path = sk.attachment.name
  · simp [hb]
  · simp [hb] at hpath

theorem loseConnection_records_buffer_first :
    let db : Database := (Database.mk [7] [] [] [] [] 1 0 ⟨2024, 1, 1, 12, 0, 0, 250⟩).apply
      (.insertCalendarObject 7 "event.ics" "BEGIN:VCALENDAR" "uid1" "VEVENT" 0 "" none)
    let o : AttachmentObject := ⟨1, "home01", "uid1"⟩
    let s := resultState (createAttachmentWithName o "a.txt" "text/plain" (Store.empty db))
    let sk : AttachmentStorageTransport := ⟨⟨o, "a.txt"⟩, "text/plain", [104, 105], [104, 105], 0⟩
    ∀ a ∈ (resultState (sk.loseConnection s)).db.attachment, a.path = "a.txt" →
      a.size = 2 ∧ a.md5 = md5 [104, 105] := by
  intro db o s sk
  exact @loseConnection_records_buffer _
    (.step (.step (.init db rfl) (.create _ o "a.txt" "text/plain" rfl))
      (.write _ 0 (by decide) [104, 105]))
    sk (by decide) _ rfl

theorem filter_path_eq_singleton {l : List AttachmentRow} (h : (l.map (·.path)).Nodup)
    {row : AttachmentRow} (hrow : row ∈ l) : l.filter (·.path = row.path) = [row] := by
  induction l with
  | nil => cases hrow
  | cons a l ih =>
    obtain ⟨ha, hl⟩ := List.nodup_cons.mp h
    rcases List.mem_cons.mp hrow with rfl | hrow
    · have hnone : l.filter (·.path = row.path) = [] :=
        List.filter_eq_nil_iff.mpr fun b hb he =>
          ha (List.mem_map.mpr ⟨b, hb, of_decide_eq_true he⟩)
      simp [hnone]
    · have hne : a.path ≠ row.path := fun he => ha (List.mem_map.mpr ⟨row, hrow, he.symm⟩)
      simp [hne, ih hl hrow]

section Populate

variable (datetimeMktime : Timestamp → Int)

theorem populate_of_mem {db : Database} (h : db.PathsUnique) {row : AttachmentRow}
    (hrow : row ∈ db.attachment) (o : AttachmentObject) :
    (Attachment.mk o row.path).populate datetimeMktime db =
      some <$> AttachmentRecord.ofRow datetimeMktime row := by
  simp only [Attachment.populate, filter_path_eq_singleton h hrow]

theorem parseColumn_eq {t : Timestamp} (ht : t.Valid) :
    parseColumn t =
      if t.microsecond = 0 then
        .error (.value ("time data '" ++ renderTimestamp t ++
          "' does not match format '%Y-%m-%d %H:%M:%S.%f'"))
      else .ok t := by
  split
  · simp [parseColumn, strptime_renderTimestamp_whole_second ‹_›, Except.mapError]
  · simp [parseColumn, strptime_renderTimestamp ht ‹_›, Except.mapError]

theorem attachmentWithName_any_object {sys : System} (hsys : sys.Reachable)
    {row : AttachmentRow} (hrow : row ∈ sys.store.db.attachment) (o : AttachmentObject) :
    attachmentWithName datetimeMktime o row.path sys.store =
      some <$> AttachmentRecord.ofRow datetimeMktime row :=
  populate_of_mem datetimeMktime hsys.inv.paths hrow o

theorem attachmentWithName_any_object_other_owner :
    let db : Database := (Database.mk [7] [] [] [] [] 1 0 ⟨2024, 1, 1, 12, 0, 0, 250⟩).apply
      (.insertCalendarObject 7 "event.ics" "BEGIN:VCALENDAR" "uid1" "VEVENT" 0 "" none)
    let s := resultState (createAttachmentWithName ⟨1, "home01", "uid1"⟩ "a.txt" "text/plain"
      (Store.empty db))
    attachmentWithName Timestamp.timegm ⟨2, "home02", "uid2"⟩ "a.txt" s =
      some <$> AttachmentRecord.ofRow Timestamp.timegm ⟨1, "text/plain", 0, "", "a.txt",
        ⟨2024, 1, 1, 12, 0, 0, 250⟩, ⟨2024, 1, 1, 12, 0, 0, 250⟩⟩ := by
  intro db _
  exact @attachmentWithName_any_object Timestamp.timegm _
    (.step (.init db rfl) (.create _ ⟨1, "home01", "uid1"⟩ "a.txt" "text/plain" rfl))
    ⟨1, "text/plain", 0, "", "a.txt", ⟨2024, 1, 1, 12, 0, 0, 250⟩, ⟨2024, 1, 1, 12, 0, 0, 250⟩⟩
    (by decide) _

theorem mapM_attachmentWithName {s : Store} (h : s.db.PathsUnique) (o : AttachmentObject) :
    ∀ rows : List AttachmentRow, (∀ row ∈ rows, row ∈ s.db.attachment) →
      (rows.map (·.path)).mapM (fun name => attachmentWithName datetimeMktime o name s) =
        rows.mapM fun row => some <$> AttachmentRecord.ofRow datetimeMktime row
  | [], _ => rfl
  | row :: rows, hrows => by
    simp only [List.map_cons, List.mapM_cons,
      mapM_attachmentWithName h o rows fun r hr => hrows r (List.mem_cons_of_mem _ hr)]
    rw [attachmentWithName, populate_of_mem datetimeMktime h (hrows row (List.mem_cons_self _ _))]

theorem attachments_own_rows {sys : System} (hsys : sys.Reachable) (o : AttachmentObject) :
    attachments datetimeMktime o sys.store =
      (sys.store.db.attachment.filter (·.calendarObjectResourceId = o.resourceID)).mapM
        fun row => some <$> AttachmentRecord.ofRow datetimeMktime row :=
  mapM_attachmentWithName datetimeMktime hsys.inv.paths o _ fun _ hr => List.mem_of_mem_filter hr

theorem attachments_own_rows_first :
    let db : Database := (Database.mk [7] [] [] [] [] 1 0 ⟨2024, 1, 1, 12, 0, 0, 250⟩).apply
      (.insertCalendarObject 7 "event.ics" "BEGIN:VCALENDAR" "uid1" "VEVENT" 0 "" none)
    let s := resultState (createAttachmentWithName ⟨1, "home01", "uid1"⟩ "a.txt" "text/plain"
      (Store.empty db))
    attachments Timestamp.timegm ⟨1, "home01", "uid1"⟩ s =
      [(⟨1, "text/plain", 0, "", "a.txt", ⟨2024, 1, 1, 12, 0, 0, 250⟩,
        ⟨2024, 1, 1, 12, 0, 0, 250⟩⟩ : AttachmentRow)].mapM
        fun row => some <$> AttachmentRecord.ofRow Timestamp.timegm row := by
  intro db _
  exact attachments_own_rows Timestamp.timegm
    (.step (.init db rfl) (.create _ ⟨1, "home01", "uid1"⟩ "a.txt" "text/plain" rfl)) _

theorem attachmentWithName_times {sys : System} (hsys : sys.Reachable) {row : AttachmentRow}
    (hrow : row ∈ sys.store.db.attachment) (hc : row.created.Valid) (hm : row.modified.Valid)
    (o : AttachmentObject) :
    attachmentWithName datetimeMktime o row.path sys.store =
      if row.created.microsecond = 0 then
        .error (.value ("time data '" ++ renderTimestamp row.created ++
          "' does not match format '%Y-%m-%d %H:%M:%S.%f'"))
      else if row.modified.microsecond = 0 then
        .error (.value ("time data '" ++ renderTimestamp row.modified ++
          "' does not match format '%Y-%m-%d %H:%M:%S.%f'"))
      else .ok (some ⟨row.contentType, row.size, row.md5, datetimeMktime row.created,
        datetimeMktime row.modified⟩) := by
  rw [attachmentWithName, populate_of_mem datetimeMktime hsys.inv.paths hrow,
    AttachmentRecord.ofRow, parseColumn_eq hc, parseColumn_eq hm]
  split <;> (try split) <;> rfl

theorem attachmentWithName_times_whole_second :
    let db : Database := (Database.mk [7] [] [] [] [] 1 0 ⟨2024, 1, 1, 12, 0, 0, 0⟩).apply
      (.insertCalendarObject 7 "event.ics" "BEGIN:VCALENDAR" "uid1" "VEVENT" 0 "" none)
    let s := resultState (createAttachmentWithName ⟨1, "home01", "uid1"⟩ "a.txt" "text/plain"
      (Store.empty db))
    attachmentWithName Timestamp.timegm ⟨1, "home01", "uid1"⟩ "a.txt" s =
      .error (.value
        "time data '2024-01-01 12:00:00' does not match format '%Y-%m-%d %H:%M:%S.%f'") := by
  intro db _
  exact (@attachmentWithName_times Timestamp.timegm _
    (.step (.init db rfl) (.create _ ⟨1, "home01", "uid1"⟩ "a.txt" "text/plain" rfl))
    ⟨1, "text/plain", 0, "", "a.txt", ⟨2024, 1, 1, 12, 0, 0, 0⟩, ⟨2024, 1, 1, 12, 0, 0, 0⟩⟩
    (by decide) (by decide) (by decide) _).trans rfl

theorem Database.PathsUnique.apply_deleteAttachment {db : Database} (h : db.PathsUnique)
    {rid : Nat} {name : String}
    (hrow : ∃ a ∈ db.attachment, a.calendarObjectResourceId = rid ∧ a.path = name) :
    (db.apply (.deleteAttachment rid name)).attachment = db.attachment.filter (·.path ≠ name) := by
  obtain ⟨a, ha, hrid, rfl⟩ := hrow
  refine List.filter_congr fun b hb => ?_
  by_cases hbp : b.path = a.path
  · have hba : b = a := List.inj_on_of_nodup_map h hb ha hbp
    simp [hba, hrid]
  · simp [hbp]

theorem removeAttachmentWithName_of_row {s : Store} (hs : s.db.PathsUnique)
    {o : AttachmentObject} {name : String} {p : List String}
    (hp : (Attachment.mk o name).path = .ok p)
    (hrow : ∃ a ∈ s.db.attachment, a.calendarObjectResourceId = o.resourceID ∧ a.path = name) :
    removeAttachmentWithName o name s =
      .ok () { s with postCommit := s.postCommit ++ [p],
                      db := { s.db with attachment := s.db.attachment.filter (·.path ≠ name) } } := by
  rw [removeAttachmentWithName_eq, hp]
  simp only [Store.execSQL,
    Database.exec_ok (rfl : s.db.violation (.deleteAttachment o.resourceID name) = none)]
  rw [← hs.apply_deleteAttachment hrow]
  rfl

theorem remove_then_store_row_and_file_disagree {sys : System} (hsys : sys.Reachable)
    (hpc : sys.store.postCommit = []) {o : AttachmentObject} {name : String}
    {root : List String} (contentType : String) (chunks : List (List UInt8))
    (ho : sys.store.db.hasObject o.resourceID = true)
    (hrow : ∃ a ∈ sys.store.db.attachment, a.calendarObjectResourceId = o.resourceID ∧ a.path = name)
    (hn : Segment name) (hroot : attachmentPathRoot o.homeName o.uid = .ok root)
    (hfits : FileSystem.Fits (root ++ [name ++ ".new"]))
    (hway : ∀ q ∈ root.inits, ∀ c, sys.store.fs.node q ≠ some (.file c))
    (hpath : sys.store.fs.node (root ++ [name]) ≠ some .dir)
    (hsib : sys.store.fs.node (root ++ [name ++ ".new"]) ≠ some .dir) (now : Timestamp) :
    ∃ s₁ s₂, removeAttachmentWithName o name sys.store = .ok () s₁ ∧
      storeAttachment o name contentType chunks s₁ = .ok () s₂ ∧
      (∃ s₃, commit now s₂ = .ok () s₃ ∧
        ⟨o.resourceID, contentType, chunks.flatten.length, md5 chunks.flatten, name,
          sys.store.db.now, sys.store.db.now⟩ ∈ s₃.committed.attachment ∧
        (Attachment.mk o name).retrieve s₃ = .error (.os .enoent)) ∧
      ∀ a ∈ sys.store.committed.attachment, a.path = name →
        attachmentWithName datetimeMktime o name (rollback now s₂) =
          some <$> AttachmentRecord.ofRow datetimeMktime a ∧
        (Attachment.mk o name).retrieve (rollback now s₂) = .ok chunks.flatten := by
  have hP : (Attachment.mk o name).path = .ok (root ++ [name]) := attachmentPath_of_root hroot hn
  obtain ⟨fs', hdirs, hfile, hst⟩ := @storeAttachment_eq_ok { sys.store with
      postCommit := sys.store.postCommit ++ [root ++ [name]],
      db := { sys.store.db with attachment := sys.store.db.attachment.filter (·.path ≠ name) } }
    o name root contentType chunks ho (fun b hb => of_decide_eq_true (List.mem_filter.mp hb).2)
    hn hroot hfits hway hpath hsib
  obtain ⟨fs'', hrm, hdirs', hgone⟩ := FileSystem.remove_file hfits.of_new hdirs hfile
  refine ⟨_, _, removeAttachmentWithName_of_row hsys.inv.paths hP hrow, hst,
    ⟨_, by simp only [commit, hpc, List.nil_append, runPostCommit, hrm]; rfl, ?_, ?_⟩,
    fun a ha hname => ⟨hname ▸ populate_of_mem datetimeMktime hsys.inv.committedPaths ha o,
      Attachment.retrieve_file hP hfits.of_new hdirs hfile⟩⟩
  · simp [Database.apply]
  · simp [Attachment.retrieve, hP, FileSystem.getContent_missing hfits.of_new hdirs' hgone,
      Except.mapError]

end Populate

theorem remove_then_store_row_and_file_disagree_rewrite :
    let db : Database := (Database.mk [7] [] [] [] [] 1 0 ⟨2024, 1, 1, 12, 0, 0, 250⟩).apply
      (.insertCalendarObject 7 "event.ics" "BEGIN:VCALENDAR" "uid1" "VEVENT" 0 "" none)
    let o : AttachmentObject := ⟨1, "home01", "uid1"⟩
    let sk : AttachmentStorageTransport := ⟨⟨o, "a.txt"⟩, "text/plain", [104], [104], 0⟩
    let sys : System := ⟨resultState (commit ⟨2024, 1, 1, 12, 0, 1, 0⟩ (resultState
      (sk.loseConnection (resultState (createAttachmentWithName o "a.txt" "text/plain"
        (Store.empty db)))))), [sk]⟩
    sys.Reachable ∧ sys.store.committed.attachment = [⟨1, "text/plain", 1, md5 [104], "a.txt",
      ⟨2024, 1, 1, 12, 0, 0, 250⟩, ⟨2024, 1, 1, 12, 0, 0, 250⟩⟩] ∧
    ∃ s₁ s₂, removeAttachmentWithName o "a.txt" sys.store = .ok () s₁ ∧
      storeAttachment o "a.txt" "text/plain" [[105, 106]] s₁ = .ok () s₂ ∧
      (∃ s₃, commit ⟨2024, 1, 1, 12, 0, 2, 0⟩ s₂ = .ok () s₃ ∧
        ⟨1, "text/plain", [[105, 106]].flatten.length, md5 [[105, 106]].flatten, "a.txt",
          sys.store.db.now, sys.store.db.now⟩ ∈ s₃.committed.attachment ∧
        (Attachment.mk o "a.txt").retrieve s₃ = .error (.os .enoent)) ∧
      ∀ a ∈ sys.store.committed.attachment, a.path = "a.txt" →
        attachmentWithName Timestamp.timegm o "a.txt" (rollback ⟨2024, 1, 1, 12, 0, 2, 0⟩ s₂) =
          some <$> AttachmentRecord.ofRow Timestamp.timegm a ∧
        (Attachment.mk o "a.txt").retrieve (rollback ⟨2024, 1, 1, 12, 0, 2, 0⟩ s₂) =
          .ok [[105, 106]].flatten := by
  intro db o sk sys
  have h₁ := System.Reachable.step (.init db rfl) (.create _ o "a.txt" "text/plain" rfl)
  have h₂ := h₁.step (.write _ 0 (by decide) [104])
  have h₃ := h₂.step (@Step.loseConnection _ sk (by decide))
  have h₄ : sys.Reachable := h₃.step (.commit _ ⟨2024, 1, 1, 12, 0, 1, 0⟩)
  have hdirs : ∀ q ∈ ["ho", "me", "home01", "uid1"].inits, sys.store.fs.node q = some .dir := by
    decide
  exact ⟨h₄, rfl, @remove_then_store_row_and_file_disagree Timestamp.timegm sys h₄ (by decide) o
    "a.txt" ["ho", "me", "home01", "uid1"] "text/plain" [[105, 106]] (by decide) (by decide)
    (by decide) rfl (by decide)
    (fun q hq c he => by rw [hdirs q hq] at he; cases he) (by decide) (by decide)
    ⟨2024, 1, 1, 12, 0, 2, 0⟩⟩

theorem removeAttachmentWithName_absent (s : Store) (o : AttachmentObject) (name : String)
    (habsent : ∀ a ∈ s.db.attachment, a.calendarObjectResourceId = o.resourceID → a.path ≠ name)
    (now : Timestamp) :
    (∀ e, (Attachment.mk o name).path = .error e →
      removeAttachmentWithName o name s = .error (.insecurePath e) s) ∧
    ∀ p, (Attachment.mk o name).path = .ok p →
      removeAttachmentWithName o name s = .ok () { s with postCommit := s.postCommit ++ [p] } ∧
      rollback now { s with postCommit := s.postCommit ++ [p] } = rollback now s ∧
      (∀ e s', commit now s = .error e s' →
        commit now { s with postCommit := s.postCommit ++ [p] } = .error e s') ∧
      ∀ s', commit now s = .ok () s' →
        commit now { s with postCommit := s.postCommit ++ [p] } =
          match s'.fs.lookupError p with
          | some e => .error (.os e) s'
          | none =>
            if s'.fs.node p = none then .error (.os .enoent) s'
            else .ok () { s' with fs := ⟨fun q => if p <+: q then none else s'.fs.node q⟩ } := by
  refine ⟨fun e he => ?_, fun p hp => ⟨?_, rfl, fun e s' h => ?_, fun s' h => ?_⟩⟩
  · rw [removeAttachmentWithName_eq, he]
  · rw [removeAttachmentWithName_eq, hp]
    exact Store.execSQL_deleteAttachment_absent habsent
  · simp only [commit_postCommit_append, h]
  · exact (commit_postCommit_append now s p).trans (h ▸ rfl)

theorem removeAttachmentWithName_absent_first :
    let db : Database := (Database.mk [7] [] [] [] [] 1 0 ⟨2024, 1, 1, 12, 0, 0, 250⟩).apply
      (.insertCalendarObject 7 "event.ics" "BEGIN:VCALENDAR" "uid1" "VEVENT" 0 "" none)
    System.Reachable ⟨Store.empty db, []⟩ ∧
      ∃ s₁ s', removeAttachmentWithName ⟨1, "home01", "uid1"⟩ "a.txt" (Store.empty db) =
          .ok () s₁ ∧
        commit ⟨2024, 1, 1, 12, 0, 1, 0⟩ s₁ = .error (.os .enoent) s' := by
  intro db
  obtain ⟨-, h⟩ := removeAttachmentWithName_absent (Store.empty db) ⟨1, "home01", "uid1"⟩ "a.txt"
    (by decide) ⟨2024, 1, 1, 12, 0, 1, 0⟩
  obtain ⟨hr, -, -, hc⟩ := h _ rfl
  exact ⟨.init db rfl, _, _, hr, (hc _ rfl).trans rfl⟩

end CaldavDatastore
