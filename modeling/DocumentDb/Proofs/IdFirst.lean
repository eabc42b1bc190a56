import DocumentDb.Proofs.Memory.History
import DocumentDb.Proofs.Remote.Requests
import DocumentDb.Proofs.Value.Keyed
import DocumentDb.Records.Person
import DocumentDb.Typed.Collection

/-!
# Documents that begin with their identifier

A document is put under its identifier before it is stored or sent. The identifier then stands in
front (`Document.IdFirst`), with one exception: a document that carries it already, but behind other
entries (`Document.IdBehind`), is left as it is.

**Writes** (`Write.Buries`). So it depends on the write alone whether its document is stored with
the identifier in front (`Write.idFirst_of_stored?`).

**Stores and servers.** What a store in memory holds was left by the last effective writes
(`Memory.lastTo`), and what is sent to a server by the first of some writes (`Remote.SendsFirst`).

**Theorem (`ids_first_iff`).** All documents that a store holds or a server is sent begin with their
identifiers exactly if none of these writes gives it further back. For a record this depends on its
converter.
-/

namespace DocumentDb

namespace Document

/-- The first entry of a document is its identifier. -/
def IdFirst (d : Document) : Prop :=
  d.keys.head? = some idKey

/-- A document carries an identifier behind other entries. -/
def IdBehind (d : Document) (id : String) : Prop :=
  d.id? = some id ∧ ¬ d.IdFirst

instance : DecidablePred IdFirst :=
  fun d => inferInstanceAs (Decidable (d.keys.head? = some idKey))

instance (d : Document) (id : String) : Decidable (d.IdBehind id) :=
  inferInstanceAs (Decidable (_ ∧ _))

variable {d : Document} {id : String}

theorem withId_of_idBehind (h : d.IdBehind id) : d.withId id = d :=
  if_pos h.1

theorem idFirst_withId (d : Document) (id : String) : (d.withId id).IdFirst ↔ ¬ d.IdBehind id := by
  by_cases h : d.id? = some id
  · rw [withId, if_pos h, IdBehind, not_and, not_not]
    exact ⟨fun hd _ => hd, fun hd => hd h⟩
  · rw [withId, if_neg h]
    exact iff_of_true rfl fun hd => h hd.1

theorem withId_withId (d : Document) (id : String) : (d.withId id).withId id = d.withId id := by
  rw [withId, if_pos (d.id?_withId id)]

end Document

namespace Dictionary

variable {d : Dictionary} {id : String}

/-- A document that begins with its identifier has its other entries behind it. -/
theorem eq_cons_of_idFirst (h : d.document.IdFirst) (hid : d.document.id? = some id) :
    d.document = (idKey, .string id) :: d.document.erase idKey := by
  obtain ⟨es, hk⟩ := d
  cases es with
  | nil => cases h
  | cons e es =>
    obtain ⟨key, v⟩ := e
    obtain rfl : key = idKey := Option.some.inj h
    have hv : v = .string id := by
      rw [Document.id?_eq_some_iff, Assoc.get?, if_pos rfl] at hid
      exact Option.some.inj hid
    have hrest : Assoc.get? es idKey = none := Assoc.get?_eq_none_iff.2 (List.nodup_cons.1 hk).1
    rw [Assoc.erase, if_pos rfl, Assoc.erase_eq_self hrest, hv]

/-- The identifier is put in front of the other entries exactly if it is not behind them already. -/
theorem withId_eq_cons_iff (d : Dictionary) (id : String) :
    d.document.withId id = (idKey, .string id) :: d.document.erase idKey ↔
      ¬ d.document.IdBehind id := by
  rw [← Document.idFirst_withId]
  constructor
  · intro h
    rw [h]
    rfl
  · intro h
    rw [Document.withId] at h ⊢
    split at h
    · next hid =>
      rw [if_pos hid]
      exact eq_cons_of_idFirst h hid
    · next hid => rw [if_neg hid]

end Dictionary

/-! ## Writes -/

namespace Write

/-- The document that a write stores. -/
def stored? : Write → Option Document
  | insert id d | replace id d _ => some (d.withId id)
  | delete _ => none

/-- A write gives a document with its identifier behind other entries. -/
def Buries : Write → Prop
  | insert id d | replace id d _ => d.IdBehind id
  | delete _ => False

instance : DecidablePred Buries
  | insert id d | replace id d _ => inferInstanceAs (Decidable (d.IdBehind id))
  | delete _ => inferInstanceAs (Decidable False)

theorem idFirst_of_stored? {w : Write} {d : Document} (h : w.stored? = some d) :
    d.IdFirst ↔ ¬ w.Buries := by
  cases w with
  | insert id e | replace id e upsert =>
    cases h
    exact e.idFirst_withId id
  | delete id => cases h

theorem exists_stored?_of_buries {w : Write} (h : w.Buries) : ∃ d, w.stored? = some d := by
  cases w with
  | insert id d | replace id d upsert => exact ⟨_, rfl⟩
  | delete id => cases h

theorem forall_idFirst_iff {ws : List Write} :
    (∀ d ∈ ws.filterMap stored?, d.IdFirst) ↔ ∀ w ∈ ws, ¬ w.Buries := by
  constructor
  · intro h w hw hb
    obtain ⟨d, hd⟩ := exists_stored?_of_buries hb
    exact (idFirst_of_stored? hd).1 (h d (List.mem_filterMap.2 ⟨w, hw, hd⟩)) hb
  · intro h d hd
    obtain ⟨w, hw, hwd⟩ := List.mem_filterMap.1 hd
    exact (idFirst_of_stored? hwd).2 (h w hw)

end Write

/-! ## Stores in memory -/

namespace Memory

/-- The last effective write to an identifier. -/
def lastTo (h : List Made) (id : String) : Option Made :=
  h.reverse.find? fun m => m.effective && m.id == id

theorem content_eq (h : List Made) (id : String) :
    content h id = (lastTo h id).bind fun m => m.write.stored? :=
  rfl

/-- The documents of a collection begin with their identifiers exactly if none of the last effective
writes gives it further back. -/
theorem Collection.Follows.forall_idFirst_iff {c : Collection} {h : List Made} (hc : c.Follows h) :
    (∀ d ∈ c.documents, d.IdFirst) ↔ ∀ id m, lastTo h id = some m → ¬ m.write.Buries := by
  constructor
  · intro hd id m hm hb
    obtain ⟨d, hstored⟩ := Write.exists_stored?_of_buries hb
    have hcontent : content h id = some d := by
      rw [content_eq, hm, Option.bind_some, hstored]
    have hmem : d ∈ c.documents := by
      rw [hc.documents]
      exact List.mem_filterMap.2 ⟨id, hc.arrived id d hcontent, hcontent⟩
    exact (Write.idFirst_of_stored? hstored).1 (hd d hmem) hb
  · intro hm d hd
    rw [hc.documents] at hd
    obtain ⟨id, -, hcontent⟩ := List.mem_filterMap.1 hd
    rw [content_eq] at hcontent
    obtain ⟨m, hlast, hstored⟩ := Option.bind_eq_some_iff.1 hcontent
    exact (Write.idFirst_of_stored? hstored).2 (hm id m hlast)

end Memory

/-! ## Servers -/

namespace Remote

/-- The documents that a command stores. -/
def Command.documents : Command → List Document
  | insert _ docs => docs
  | update _ _ replacement _ => [replacement]
  | _ => []

/-- The documents that a server was sent to store. -/
def Session.documents (s : Session) : List Document :=
  s.sent.flatMap fun q => q.command.documents

theorem Session.documents_append (replies : List Reply) (sent asked : List Request) :
    Session.documents ⟨replies, sent ++ asked⟩ =
      Session.documents ⟨replies, sent⟩ ++ asked.flatMap fun q => q.command.documents :=
  List.flatMap_append

/-- A call sends the documents of the first of some writes. They begin with their identifiers
exactly if none of these writes gives it further back. -/
def SendsFirst {α : Type} (x : Action Session α) (ws : List Write) : Prop :=
  ∀ s, ∃ made, made <+: ws ∧
    (stateAfter x s).documents = s.documents ++ made.filterMap Write.stored? ∧
    ((∀ d ∈ made.filterMap Write.stored?, d.IdFirst) ↔ ∀ w ∈ made, ¬ w.Buries)

section Sends

variable (db : Database) (name : String)

theorem documents_requestFor (w : Write) :
    (db.requestFor name w).command.documents = w.stored?.toList := by
  cases w <;> rfl

theorem flatMap_documents_requestFor (ws : List Write) :
    (ws.map (db.requestFor name)).flatMap (fun q => q.command.documents) =
      ws.filterMap Write.stored? := by
  rw [List.flatMap_map, List.filterMap_eq_flatMap_toList]
  exact congrArg (List.flatMap · ws) (funext (documents_requestFor db name))

theorem sendsFirst_bulkWrite (ws : List Write) : SendsFirst (db.bulkWrite name ws) ws := by
  intro s
  obtain ⟨asked, hfront, hstate, -⟩ :=
    keepsCodes_native (Database.asks_writeAll db name ws) s
  obtain ⟨made, hmade, rfl⟩ := List.prefix_map_iff.1 hfront
  refine ⟨made, hmade, ?_, Write.forall_idFirst_iff⟩
  have hafter : stateAfter (db.bulkWrite name ws) s = _ := hstate
  rw [hafter, Session.documents_append, flatMap_documents_requestFor]
  rfl

theorem sendsFirst_insertDocuments (docs : List (String × Document)) :
    SendsFirst (db.insertDocuments name docs) (docs.map fun p => .insert p.1 p.2) := by
  intro s
  refine ⟨_, List.prefix_rfl, ?_, Write.forall_idFirst_iff⟩
  have hstored : (docs.map fun p => Write.insert p.1 p.2).filterMap Write.stored? =
      docs.map fun p => p.2.withId p.1 := by
    rw [List.filterMap_map, ← List.filterMap_eq_map]
    rfl
  rw [hstored]
  by_cases h : docs = []
  · subst h
    exact (List.append_nil _).symm
  · rw [stateAfter, Database.run_insertDocuments db name s h, Session.documents_append]
    exact congrArg (s.documents ++ ·) (List.append_nil _)

end Sends

end Remote

/-! ## Records -/

/-- A record is encoded with its identifier behind other entries exactly if its converter puts it
there. -/
theorem TypedCollection.exists_encode_idBehind_iff {σ α : Type} [Record α]
    (c : TypedCollection σ α) {a : α} {d : Document} (h : c.converter.toDocument a = .ok d) :
    ∃ d', c.encode a = .ok ((Record.id a).value, d') ∧
      (d'.IdBehind (Record.id a).value ↔ d.IdBehind (Record.id a).value) := by
  refine ⟨_, by rw [encode, h]; rfl, ?_⟩
  split
  · exact Iff.rfl
  · next hcontains =>
    have hnone : d.get? idKey = none := by simpa [Assoc.contains] using hcontains
    refine iff_of_false (fun hb => hb.2 rfl) fun hb => ?_
    have hid := Document.id?_eq_some_iff.1 hb.1
    rw [hnone] at hid
    cases hid

/-! ## Main result -/

/-- **Documents begin with their identifier.** Putting a document under its identifier puts that in
front of the other entries, which stay in their order, exactly if it is not behind them already;
doing so again changes nothing. After any run from a store without collections, all documents of a
collection begin with their identifiers exactly if none of the last effective writes gives it
further back. The documents that a server is sent begin with theirs exactly if none of the writes
that are sent gives it further back, and a record is written so only if its converter puts it
there. -/
theorem ids_first_iff {σ α : Type} [Record α] (c : TypedCollection σ α) (db : Remote.Database)
    (shuffle : Shuffle) (steps : List Memory.Step) (name : String) :
    let s := ({ shuffle := shuffle } : Memory.Store).after steps
    let h := ({ shuffle := shuffle } : Memory.Store).history name [] steps
    (∀ (d : Document) id,
      ((d.withId id).IdFirst ↔ ¬ d.IdBehind id) ∧ d.Carries id (d.withId id) ∧
      (d.withId id).withId id = d.withId id) ∧
    (∀ (d : Dictionary) id,
      d.document.withId id = (idKey, .string id) :: d.document.erase idKey ↔
        ¬ d.document.IdBehind id) ∧
    ((∀ d ∈ s.documents name, d.IdFirst) ↔
      ∀ id m, Memory.lastTo h id = some m → ¬ m.write.Buries) ∧
    (∀ docs, Remote.SendsFirst (db.insertDocuments name docs)
      (docs.map fun p => .insert p.1 p.2)) ∧
    (∀ docs upsert, Remote.SendsFirst (db.replaceDocuments name docs upsert)
      (docs.map fun p => .replace p.1 p.2 upsert)) ∧
    (∀ ws, Remote.SendsFirst (db.bulkWrite name ws) ws) ∧
    ∀ a d, c.converter.toDocument a = .ok d → ∃ d',
      c.encode a = .ok ((Record.id a).value, d') ∧
      (d'.IdBehind (Record.id a).value ↔ d.IdBehind (Record.id a).value) := by
  intro s h
  have hfollows : (s.collection name).Follows h :=
    Memory.Collection.Follows.empty.steps (s := { shuffle := shuffle }) steps
  refine ⟨fun d id => ⟨d.idFirst_withId id, d.carries_withId id, d.withId_withId id⟩,
    Dictionary.withId_eq_cons_iff, hfollows.forall_idFirst_iff,
    Remote.sendsFirst_insertDocuments db name, fun docs upsert => ?_,
    Remote.sendsFirst_bulkWrite db name, fun a d => c.exists_encode_idBehind_iff⟩
  exact Remote.sendsFirst_bulkWrite db name _

/-- Documents without an identifier, with their own in front, and with another one behind. Put under
their identifiers they begin with them, in a store as in the request for them. -/
theorem ids_first_iff_of_others :
    let docs : List (String × Document) :=
      [("a", [("x", .int32 1)]), ("b", [(idKey, .string "b"), ("x", .int32 2)]),
        ("c", [("x", .int32 3), (idKey, .string "a"), ("y", .int32 4)])]
    let s := ({} : Memory.Store).after [.call (.insert "people" docs)]
    s.documents "people" = docs.map (fun p => p.2.withId p.1) ∧
      (∀ d ∈ s.documents "people", d.IdFirst) ∧
      docs[2].2.withId "c" = [(idKey, .string "c"), ("x", .int32 3), ("y", .int32 4)] := by
  intro docs s
  let people : TypedCollection Memory.Store Records.Person :=
    ⟨"people", Memory.backend, Records.Person.pickyConverter, 3⟩
  obtain ⟨-, hcons, hstored, -⟩ :=
    ids_first_iff people ⟨"db"⟩ .still [.call (.insert "people" docs)] "people"
  refine ⟨rfl, hstored.2 fun id m hm => ?_, (hcons { document := docs[2].2 } "c").2 ?_⟩
  · have hmem := List.mem_reverse.1 (List.mem_of_find?_eq_some hm)
    have hnone : ∀ m ∈ ({} : Memory.Store).history "people" [] [.call (.insert "people" docs)],
        ¬ m.write.Buries := by decide
    exact hnone m hmem
  · decide

/-- A document carries its identifier in the last place. It is stored and sent as it is, while one
with another identifier there is not. -/
theorem id_left_behind :
    let d : Document := [("x", .int32 1), (idKey, .string "a")]
    d.withId "a" = d ∧ ¬ d.IdFirst ∧
      (({} : Memory.Store).after [.call (.insert "people" [("a", d)])]).documents "people" = [d] ∧
      (stateAfter ((Remote.Database.mk "db").insertDocuments "people" [("a", d)]) {}).sent =
        [⟨"db", .insert "people" [d]⟩] ∧
      d.withId "b" = [(idKey, .string "b"), ("x", .int32 1)] := by
  intro d
  have hbehind : d.IdBehind "a" := by decide
  exact ⟨Document.withId_of_idBehind hbehind, hbehind.2, rfl, rfl, rfl⟩

end DocumentDb
