import DocumentDb.Write

/-!
# Documents that are maps

A document is a list of entries, and a value holds documents in turn, so nothing in their shape
keeps a key from standing twice. The operations on documents never put one twice. Laws that need
this are about the types of this module, which carry it.

**One document** (`Dictionary`). No key is there twice.

**All depths** (`KeyedValue`, `KeyedDocument`). The same holds of the documents in a value or in a
document. Putting a document under an identifier keeps it (`KeyedDocument.withId`), since this drops
an entry at most and puts a text in front.
-/

namespace DocumentDb

/-- A document that has no key twice. -/
structure Dictionary where
  document : Document
  nodup_keys : document.keys.Nodup := by decide

mutual

/-- Whether the documents in a value have no key twice, at any depth. -/
def Value.keyed : Value → Bool
  | .array items => itemsKeyed items
  | .document entries | .codeWithScope _ entries =>
    decide (Assoc.keys entries).Nodup && entriesKeyed entries
  | _ => true

/-- Whether the documents in some items have no key twice. -/
def itemsKeyed : List Value → Bool
  | [] => true
  | v :: vs => v.keyed && itemsKeyed vs

/-- Whether the documents in the values of some entries have no key twice. -/
def entriesKeyed : List (String × Value) → Bool
  | [] => true
  | (_, v) :: es => v.keyed && entriesKeyed es

end

/-- A value whose documents have no key twice, at any depth. -/
structure KeyedValue where
  value : Value
  keyed : value.keyed = true := by decide

/-- A document that has no key twice, and neither have the documents in it. -/
structure KeyedDocument extends Dictionary where
  entries_keyed : entriesKeyed document = true := by decide

theorem entriesKeyed_eq_all (es : List (String × Value)) :
    entriesKeyed es = es.all (·.2.keyed) := by
  induction es with
  | nil => rfl
  | cons e es ih => rw [entriesKeyed, ih, List.all_cons]

theorem keyed_of_get? {es : Document} {k : String} {v : Value} (hes : entriesKeyed es = true)
    (h : es.get? k = some v) : v.keyed = true := by
  rw [entriesKeyed_eq_all, List.all_eq_true] at hes
  exact hes _ (Assoc.mem_of_get? h)

namespace Document

variable {d : Document}

/-- An entry of a document under an identifier is the identifier or was there before. -/
theorem mem_of_mem_withId {id : String} {e : String × Value} (h : e ∈ d.withId id) :
    e = (idKey, .string id) ∨ e ∈ d := by
  rw [withId] at h
  split at h
  · exact .inr h
  · exact (List.mem_cons.1 h).imp_right fun h => (Assoc.erase_sublist d idKey).subset h

theorem nodup_keys_withId (h : d.keys.Nodup) (id : String) : (d.withId id).keys.Nodup := by
  rw [withId]
  split
  · exact h
  · exact List.nodup_cons.2 ⟨Assoc.not_mem_keys_erase d idKey,
      h.sublist ((Assoc.erase_sublist d idKey).map _)⟩

theorem entriesKeyed_withId (h : entriesKeyed d = true) (id : String) :
    entriesKeyed (d.withId id) = true := by
  rw [entriesKeyed_eq_all, List.all_eq_true] at h ⊢
  intro e he
  rcases mem_of_mem_withId he with rfl | he
  · rfl
  · exact h e he

end Document

namespace KeyedDocument

/-- The document as a value. -/
def toValue (d : KeyedDocument) : KeyedValue where
  value := .document d.document
  keyed := Bool.and_eq_true_iff.2 ⟨decide_eq_true d.nodup_keys, d.entries_keyed⟩

/-- The document under an identifier. -/
def withId (d : KeyedDocument) (id : String) : KeyedDocument where
  document := d.document.withId id
  nodup_keys := Document.nodup_keys_withId d.nodup_keys id
  entries_keyed := Document.entriesKeyed_withId d.entries_keyed id

end KeyedDocument

end DocumentDb
