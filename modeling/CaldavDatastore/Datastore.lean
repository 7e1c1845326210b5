import CaldavDatastore.AttachmentRuns
import CaldavDatastore.ObjectText

/-!
The whole store: the index code's `updateDatabase` and the attachment code run on the same
open tables, with commits and rollbacks between them, in any interleaving.
-/
namespace CaldavDatastore

def Statement.OnAttachment : Statement → Prop
  | .insertAttachment .. | .deleteAttachment .. | .updateAttachment .. => True
  | _ => False

structure Database.Sound (db : Database) : Prop where
  index : Inv db
  paths : db.PathsUnique
  attachmentObject : ∀ a ∈ db.attachment, db.hasObject a.calendarObjectResourceId = true

namespace Database.Sound

variable {db : Database}

theorem now (h : db.Sound) (t : Timestamp) : ({ db with now := t } : Database).Sound :=
  ⟨h.index.of_keys rfl rfl rfl rfl rfl, h.paths, h.attachmentObject⟩

theorem apply (h : db.Sound) {st : Statement} (hst : st.OnAttachment)
    (hv : db.violation st = none) : (db.apply st).Sound := by
  refine ⟨?_, h.paths.apply hv, ?_⟩
  · cases st <;> first | exact h.index.of_keys rfl rfl rfl rfl rfl | exact hst.elim
  · cases st with
    | insertAttachment rid contentType size md5 path =>
      have ho : db.hasObject rid = true := by
        by_contra hn
        simp [Database.violation, hn] at hv
      intro a ha
      rcases List.mem_append.mp ha with ha | ha
      · exact h.attachmentObject a ha
      · rw [List.mem_singleton.mp ha]
        exact ho
    | deleteAttachment rid path => exact fun a ha => h.attachmentObject a (List.mem_filter.mp ha).1
    | updateAttachment contentType size md5 path =>
      intro a ha
      obtain ⟨b, hb, rfl⟩ := List.mem_map.mp ha
      have := h.attachmentObject b hb
      split <;> exact this
    | _ => exact hst.elim

end Database.Sound

def Store.ExecutesOnAttachment (s s' : Store) : Prop :=
  s'.committed = s.committed ∧
    (s'.db = s.db ∨ ∃ st, st.OnAttachment ∧ s.db.violation st = none ∧ s'.db = s.db.apply st)

theorem Store.ExecutesOnAttachment.sound {s s' : Store} (h : s.ExecutesOnAttachment s')
    (hs : s.db.Sound) : s'.db.Sound := by
  rcases h.2 with he | ⟨st, hst, hv, he⟩ <;> rw [he]
  · exact hs
  · exact hs.apply hst hv

theorem execSQL_onAttachment {st : Statement} (hst : st.OnAttachment) (s : Store) :
    s.ExecutesOnAttachment (resultState (Store.execSQL st s)) := by
  unfold Store.execSQL
  split
  · rename_i hx
    exact ⟨rfl, .inr ⟨st, hst, (Database.exec_eq_ok hx).1, (Database.exec_eq_ok hx).2⟩⟩
  · exact ⟨rfl, .inl rfl⟩

theorem createAttachmentWithName_onAttachment (o : AttachmentObject) (name contentType : String)
    (s : Store) :
    s.ExecutesOnAttachment (resultState (createAttachmentWithName o name contentType s)) := by
  rw [createAttachmentWithName_eq]
  split
  · rename_i hx
    exact ⟨rfl, .inr ⟨.insertAttachment o.resourceID contentType 0 "" name, trivial,
      (Database.exec_eq_ok hx).1, (Database.exec_eq_ok hx).2⟩⟩
  · exact ⟨rfl, .inl rfl⟩

theorem loseConnection_onAttachment (sk : AttachmentStorageTransport) (s : Store) :
    s.ExecutesOnAttachment (resultState (sk.loseConnection s)) := by
  cases hp : sk.attachment.path with
  | error e =>
    simp only [AttachmentStorageTransport.loseConnection, hp, raisePath, bind, EStateM.bind,
      throw, throwThe, MonadExceptOf.throw, EStateM.throw, resultState]
    exact ⟨rfl, .inl rfl⟩
  | ok p =>
    rw [loseConnection_eq hp]
    split
    · rename_i fs _
      unfold Store.execSQLIn
      split
      · exact @execSQL_onAttachment
          (.updateAttachment sk.contentType sk.buf.length (md5 sk.hash) sk.attachment.name)
          trivial { s with fs := fs }
      · exact ⟨rfl, .inl rfl⟩
    · exact ⟨rfl, .inl rfl⟩

theorem removeAttachmentWithName_onAttachment (o : AttachmentObject) (name : String) (s : Store) :
    s.ExecutesOnAttachment (resultState (removeAttachmentWithName o name s)) := by
  rw [removeAttachmentWithName_eq]
  split
  · exact ⟨rfl, .inl rfl⟩
  · exact @execSQL_onAttachment (.deleteAttachment o.resourceID name) trivial _

theorem Step.tables {sys sys' : System} (hs : Step sys sys') :
    sys.store.ExecutesOnAttachment sys'.store ∨
      (sys'.store.committed = sys.store.db ∧ ∃ t, sys'.store.db = { sys.store.db with now := t }) ∨
      (sys'.store.committed = sys.store.committed ∧
        ∃ t, sys'.store.db = { sys.store.committed with now := t }) := by
  cases hs with
  | create o name contentType hc =>
    have hx := createAttachmentWithName_onAttachment o name contentType sys.store
    rw [hc] at hx
    exact .inl hx
  | createRaises o name contentType hc =>
    have hx := createAttachmentWithName_onAttachment o name contentType sys.store
    rw [hc] at hx
    exact .inl hx
  | write => exact .inl ⟨rfl, .inl rfl⟩
  | @loseConnection sk _ => exact .inl (loseConnection_onAttachment sk sys.store)
  | remove o name => exact .inl (removeAttachmentWithName_onAttachment o name sys.store)
  | commit now =>
    obtain ⟨hc, hd⟩ := commit_tables now sys.store
    exact .inr (.inl ⟨hc, now, hd⟩)
  | rollback now => exact .inr (.inr ⟨rfl, now, rfl⟩)

theorem rebuild_attachment (ctx : Context) (o : CalendarObject) (c : Component)
    (l : InstanceList) (inserting : Bool) (w : World) :
    (rebuild ctx o c l inserting w).db.attachment = w.db.attachment ∧
      ∀ rid, w.db.hasObject rid = true → (rebuild ctx o c l inserting w).db.hasObject rid = true := by
  rw [rebuild_db]
  refine ⟨by cases inserting <;> rfl, fun rid h => ?_⟩
  cases inserting with
  | true =>
    simp only [Database.hasObject, recordStatements, if_true, List.foldl_cons, List.foldl_nil,
      insertStatement, Database.apply, List.any_append] at h ⊢
    rw [h, Bool.true_or]
  | false =>
    exact (congrFun (Database.hasObject_deleteTimeRange _ w.resourceID) rid).trans
      ((congrFun (Database.hasObject_updateCalendarObject ..) rid).trans h)

theorem Database.Sound.updateDatabase {ctx : Context} {o : CalendarObject} {c : Component}
    {expandUntil : Option Date} {reCreate inserting : Bool} {w w' : World}
    (hok : updateDatabase ctx o c expandUntil reCreate inserting w = .ok () w') (h : w.db.Sound)
    (hpre : inserting = false → Loaded w.db o w.resourceID) : w'.db.Sound := by
  have hinv := h.index.updateDatabase hpre hok
  obtain ⟨e, l, -, -, rfl⟩ := updateDatabase_ok (fun hi => (hpre hi).hasObject) hok
  obtain ⟨ha, ho⟩ := rebuild_attachment ctx o c l inserting
    { w with events := w.events ++ expansionLog o c e reCreate }
  refine ⟨hinv, ?_, fun a hmem => ho _ (h.attachmentObject a (ha ▸ hmem))⟩
  unfold Database.PathsUnique
  rw [ha]
  exact h.paths

inductive StoreStep : System → System → Prop
  | attachment {sys sys' : System} (h : Step sys sys') : StoreStep sys sys'
  | update (sys : System) {w' : World} (ctx : Context) (o : CalendarObject) (c : Component)
      (expandUntil : Option Date) (reCreate inserting : Bool) (events : List Event) (rid : Nat)
      (objectText : Option String) (hpre : inserting = false → Loaded sys.store.db o rid)
      (hok : updateDatabase ctx o c expandUntil reCreate inserting
        ⟨sys.store.db, events, rid, objectText⟩ = .ok () w') :
      StoreStep sys ⟨{ sys.store with db := w'.db }, sys.sinks⟩
  | updateRaises (sys : System) {w' : World} {err : UpdateError} (ctx : Context)
      (o : CalendarObject) (c : Component) (expandUntil : Option Date) (reCreate inserting : Bool)
      (events : List Event) (rid : Nat) (objectText : Option String)
      (h : updateDatabase ctx o c expandUntil reCreate inserting
        ⟨sys.store.db, events, rid, objectText⟩ = .error err w') :
      StoreStep sys ⟨{ sys.store with db := w'.db }, sys.sinks⟩

inductive System.StoreReachable : System → Prop
  | init (calendar : List Nat) (resourceIdSeq instanceIdSeq : Nat) (now : Timestamp) :
      StoreReachable
        ⟨Store.empty ⟨calendar, [], [], [], [], resourceIdSeq, instanceIdSeq, now⟩, []⟩
  | step {sys sys' : System} : StoreReachable sys → StoreStep sys sys' → StoreReachable sys'

theorem StoreStep.sound {sys sys' : System} (hs : StoreStep sys sys')
    (h : sys.store.db.Sound ∧ sys.store.committed.Sound) :
    sys'.store.db.Sound ∧ sys'.store.committed.Sound := by
  cases hs with
  | attachment hs =>
    rcases hs.tables with hx | ⟨hc, t, hd⟩ | ⟨hc, t, hd⟩
    · exact ⟨hx.sound h.1, hx.1 ▸ h.2⟩
    · exact ⟨hd ▸ h.1.now t, hc ▸ h.1⟩
    · exact ⟨hd ▸ h.2.now t, hc ▸ h.2⟩
  | update _ _ _ _ _ _ _ _ _ hpre hok => exact ⟨Database.Sound.updateDatabase hok h.1 hpre, h.2⟩
  | updateRaises _ _ _ _ _ _ _ _ _ hfail =>
    exact ⟨(updateDatabase_error_of_inv hfail h.1.index).1 ▸ h.1, h.2⟩

theorem System.StoreReachable.sound {sys : System} (h : sys.StoreReachable) :
    sys.store.db.Sound ∧ sys.store.committed.Sound := by
  induction h with
  | init cal r i now =>
    have hs : Database.Sound ⟨cal, [], [], [], [], r, i, now⟩ :=
      ⟨(Reachable.empty cal r i now).inv, List.nodup_nil, nofun⟩
    exact ⟨hs, hs⟩
  | step _ hs ih => exact hs.sound ih

theorem storeReachable_first_attachment :
    ∃ sys : System, sys.StoreReachable ∧ sys.store.postCommit = [] ∧
      sys.store.db.attachment =
        [⟨1, "text/plain", 0, "", "a.txt", ⟨2024, 1, 1, 12, 0, 0, 250⟩, ⟨2024, 1, 1, 12, 0, 0, 250⟩⟩] ∧
      (∀ q ∈ ["ho", "me", "home01", "uid1"].inits, sys.store.fs.node q = some .dir) ∧
      sys.store.fs.node ["ho", "me", "home01", "uid1", "a.txt"] = none ∧
      sys.store.fs.node ["ho", "me", "home01", "uid1", "a.txt.new"] = none := by
  have h₁ := System.StoreReachable.step (.init [7] 1 0 ⟨2024, 1, 1, 12, 0, 0, 250⟩)
    (.update _ ⟨⟨19723⟩, false, 1⟩ ⟨"event.ics", 7, "calendar"⟩
      (Component.ofInstances false false [] nofun) none false true [] 0 none nofun rfl)
  have h₂ := h₁.step (.attachment (.create _ ⟨1, "home01", "uid1"⟩ "a.txt" "text/plain" rfl))
  exact ⟨_, h₂, rfl, rfl, by decide, rfl, rfl⟩

theorem store_tables_sound {sys : System} (h : sys.StoreReachable) :
    ∀ db ∈ [sys.store.db, sys.store.committed],
      (∀ r ∈ db.timeRange, ∃ o ∈ db.calendarObject,
        o.resourceId = r.calendarObjectResourceId ∧ o.calendarResourceId = r.calendarResourceId) ∧
      (∀ t ∈ db.transparency, ∃ r ∈ db.timeRange, r.instanceId = t.timeRangeInstanceId) ∧
      (∀ a ∈ db.attachment, ∃ o ∈ db.calendarObject, o.resourceId = a.calendarObjectResourceId) ∧
      (db.attachment.map (·.path)).Nodup ∧ (db.calendarObject.map (·.resourceId)).Nodup := by
  have hsound : ∀ db ∈ [sys.store.db, sys.store.committed], db.Sound := by
    simpa using h.sound
  intro db hdb
  have hs := hsound db hdb
  exact ⟨hs.index.timeRange_object, hs.index.transparency_timeRange,
    fun a ha => (Database.hasObject_iff _ _).mp (hs.attachmentObject a ha), hs.paths,
    hs.index.resourceId_nodup⟩

theorem store_tables_sound_first_attachment :
    ∃ sys : System, sys.StoreReachable ∧ sys.store.db.attachment ≠ [] ∧
      ∀ db ∈ [sys.store.db, sys.store.committed],
        (∀ r ∈ db.timeRange, ∃ o ∈ db.calendarObject,
          o.resourceId = r.calendarObjectResourceId ∧ o.calendarResourceId = r.calendarResourceId) ∧
        (∀ t ∈ db.transparency, ∃ r ∈ db.timeRange, r.instanceId = t.timeRangeInstanceId) ∧
        (∀ a ∈ db.attachment, ∃ o ∈ db.calendarObject, o.resourceId = a.calendarObjectResourceId) ∧
        (db.attachment.map (·.path)).Nodup ∧ (db.calendarObject.map (·.resourceId)).Nodup := by
  obtain ⟨sys, h, -, ha, -⟩ := storeReachable_first_attachment
  exact ⟨sys, h, by simp [ha], store_tables_sound h⟩

theorem removeAttachmentWithName_drops_row (datetimeMktime : Timestamp → Int) {sys : System}
    (h : sys.StoreReachable) {o : AttachmentObject} {name : String} {p : List String}
    (hp : (Attachment.mk o name).path = .ok p)
    (hrow : ∃ a ∈ sys.store.db.attachment, a.calendarObjectResourceId = o.resourceID ∧ a.path = name) :
    ∃ s', removeAttachmentWithName o name sys.store = .ok () s' ∧
      s'.db.attachment = sys.store.db.attachment.filter (·.path ≠ name) ∧
      s'.postCommit = sys.store.postCommit ++ [p] ∧ s'.fs = sys.store.fs ∧
      ∀ o', attachmentWithName datetimeMktime o' name s' = .ok none := by
  refine ⟨_, removeAttachmentWithName_of_row h.sound.1.paths hp hrow, rfl, rfl, rfl, fun o' => ?_⟩
  have hnone : (sys.store.db.attachment.filter (·.path ≠ name)).filter (·.path = name) = [] :=
    List.filter_eq_nil_iff.mpr fun a ha => by simpa using (List.mem_filter.mp ha).2
  simp only [attachmentWithName, Attachment.populate, hnone]
  rfl

theorem removeAttachmentWithName_drops_row_first :
    ∃ sys : System, sys.StoreReachable ∧
      ∃ s', removeAttachmentWithName ⟨1, "home01", "uid1"⟩ "a.txt" sys.store = .ok () s' ∧
        s'.db.attachment = sys.store.db.attachment.filter (·.path ≠ "a.txt") ∧
        s'.postCommit = sys.store.postCommit ++ [["ho", "me", "home01", "uid1", "a.txt"]] ∧
        s'.fs = sys.store.fs ∧
        ∀ o', attachmentWithName Timestamp.timegm o' "a.txt" s' = .ok none := by
  obtain ⟨sys, h, -, ha, -⟩ := storeReachable_first_attachment
  exact ⟨sys, h, removeAttachmentWithName_drops_row Timestamp.timegm h rfl
    ⟨_, ha ▸ List.mem_singleton_self _, rfl, rfl⟩⟩

end CaldavDatastore
