import DocumentDb.Proofs.Value.Path

/-!
# Laws of reading and writing at a path

A path is read segment by segment, and it is written from its first dot on, where the rest is
written into the document under the first segment (`Document.setPath_append`).

**Keys** (`Document.KeepsKeys`). A document that is written to keeps its keys in their order, and a
new one goes behind them. So does every document on the way of the path: the rest of the path is
written there (`Document.resolve_setSegments_front`).

**Theorem (`setPath_lawful`).** What is written at a path is read there, and writing again counts
alone. If no array is on the way, then writing what is there already changes nothing, and writing
anything leaves all paths alone that neither lead to this one nor go on from it.
-/

namespace DocumentDb

/-! ## The first dot -/

theorem Path.segments_of_not_mem {s : String} (h : '.' ∉ s.toList) : segments s = [s] := by
  rw [segments, Text.splitText, Text.splitChars_of_not_mem h, List.map_singleton,
    String.ofList_toList]

theorem Path.segments_append {s : String} (h : '.' ∉ s.toList) (rest : String) :
    segments (s ++ "." ++ rest) = s :: segments rest := by
  have htext : (s ++ "." ++ rest).toList = s.toList ++ '.' :: rest.toList := by
    rw [String.toList_append, String.toList_append, List.append_assoc]
    rfl
  rw [segments, Text.splitText, htext, Text.splitChars_append h, List.map_cons,
    String.ofList_toList, ← Text.splitText, ← segments]

namespace Document

theorem setPath_of_not_mem {s : String} (h : '.' ∉ s.toList) (d : Document) (v : Value) :
    d.setPath s v = d.insert s v := by
  rw [setPath, Path.segments_of_not_mem h]
  rfl

/-- Writing goes on behind the first dot, in the document under the first segment. -/
theorem setPath_append {s : String} (h : '.' ∉ s.toList) (d : Document) (rest : String)
    (v : Value) :
    d.setPath (s ++ "." ++ rest) v =
      d.insert s (.document ((d.documentAt s).setPath rest v)) := by
  obtain ⟨t, ts, hrest⟩ := Path.exists_segments_eq_cons rest
  rw [setPath, Path.segments_append h, setPath, hrest]
  rfl

/-! ## Writing twice -/

theorem setSegments_setSegments (v w : Value) (d : Document) (ss : List String) :
    setSegments v (setSegments w d ss) ss = setSegments v d ss := by
  induction ss generalizing d with
  | nil => rfl
  | cons s ss ih =>
    cases ss with
    | nil => exact Assoc.insert_insert d s w v
    | cons t ss =>
      rw [setSegments_cons_cons, setSegments_cons_cons, documentAt_insert_self, ih,
        Assoc.insert_insert, setSegments_cons_cons]

/-! ## Keys -/

theorem keys_prefix_insert (d : Document) (key : String) (v : Value) :
    d.keys <+: (d.insert key v).keys := by
  rw [Assoc.keys_insert]
  split
  · exact List.prefix_rfl
  · exact List.prefix_append _ _

theorem keys_prefix_setSegments (v : Value) (d : Document) (ss : List String) :
    d.keys <+: (setSegments v d ss).keys := by
  cases ss with
  | nil => exact List.prefix_rfl
  | cons s ss =>
    obtain ⟨w, hw⟩ := exists_setSegments_eq_insert v d s ss
    rw [hw d rfl]
    exact d.keys_prefix_insert s w

/-- The rest of a path is written into the document that its front leads to. -/
theorem resolve_setSegments_front {d es : Document} {front back : List String} (v : Value)
    (hd : d.ThroughNoArray (front ++ back)) (hback : back ≠ [])
    (hfront : d.resolve front = some (.document es)) :
    (setSegments v d (front ++ back)).resolve front =
      some (.document (setSegments v es back)) := by
  induction front generalizing d with
  | nil => cases hfront
  | cons s front ih =>
    obtain ⟨t, rest, hrest⟩ : ∃ t rest, front ++ back = t :: rest :=
      List.exists_cons_of_ne_nil fun h => hback (List.append_eq_nil_iff.1 h).2
    rw [List.cons_append, hrest] at hd ⊢
    rw [setSegments_cons_cons, ← hrest, resolve, Assoc.get?_insert_self, Option.bind_some]
    cases front with
    | nil =>
      have hs : d.documentAt s = es := by
        rw [resolve, Option.bind_eq_some_iff] at hfront
        obtain ⟨w, hw, hes⟩ := hfront
        obtain rfl : w = .document es := Option.some.inj hes
        rw [documentAt, hw]
      rw [hs]
      rfl
    | cons u front =>
      rw [resolve_document]
      refine ih (hrest ▸ hd.documentAt) ?_
      rw [← resolve_cons_cons u front hd.get?]
      exact hfront

/-- A document keeps the keys of another one in their order, in front of new ones, and so do the
documents on the way of a path. -/
structure KeepsKeys (ss : List String) (d e : Document) : Prop where
  keys : d.keys <+: e.keys
  onTheWay : ∀ front back (es : Document), ss = front ++ back → back ≠ [] →
    d.resolve front = some (.document es) →
      ∃ fs : Document, e.resolve front = some (.document fs) ∧ es.keys <+: fs.keys

theorem keepsKeys_setSegments {d : Document} {ss : List String} (hd : d.ThroughNoArray ss)
    (v : Value) : KeepsKeys ss d (setSegments v d ss) where
  keys := keys_prefix_setSegments v d ss
  onTheWay := by
    rintro front back es rfl hback hfront
    exact ⟨_, resolve_setSegments_front v hd hback hfront, keys_prefix_setSegments v es back⟩

/-! ## Main result -/

/-- **Reading and writing at a path.** What is written at a path is read there, whatever its
segments are, and of two values that are written the second counts alone. If no array is on the way,
then writing what is there changes nothing, and writing any value leaves alone what is beside the
path and keeps the order of all keys on the way. -/
theorem setPath_lawful (d : Document) (path : String) (v : Value) :
    (d.setPath path v).lookup path = some v ∧
    (∀ w, (d.setPath path w).setPath path v = d.setPath path v) ∧
    (d.ThroughNoArray (Path.segments path) →
      (d.lookup path = some v → d.setPath path v = d) ∧
      SameBeside path d (d.setPath path v) ∧
      KeepsKeys (Path.segments path) d (d.setPath path v)) := by
  refine ⟨d.lookup_setPath path v, fun w => setSegments_setSegments v w d _, fun hd => ?_⟩
  refine ⟨setSegments_eq_self hd, fun other hother => ?_, keepsKeys_setSegments hd v⟩
  exact resolve_setSegments_of_apart v hother hd

/-- A number gives place to a document, the keys in front of it stay there, and so do the value
under the empty key and the item of the array beside it. -/
theorem setPath_lawful_below_number :
    let d : Document := [("a", .document [("", .int32 1), ("0", .int32 2)]),
      ("b", .array [.int32 3])]
    let e := d.setPath "a.0.x" (.int32 4)
    d.ThroughNoArray (Path.segments "a.0.x") ∧
      e = [("a", .document [("", .int32 1), ("0", .document [("x", .int32 4)])]),
        ("b", .array [.int32 3])] ∧
      e.lookup "a." = some (.int32 1) ∧ e.lookup "b.0" = some (.int32 3) := by
  intro d e
  have hd : d.ThroughNoArray (Path.segments "a.0.x") := by decide
  obtain ⟨-, hbeside, -⟩ := (setPath_lawful d "a.0.x" (.int32 4)).2.2 hd
  exact ⟨hd, rfl, hbeside "a." (by decide), hbeside "b.0" (by decide)⟩

end Document

end DocumentDb
