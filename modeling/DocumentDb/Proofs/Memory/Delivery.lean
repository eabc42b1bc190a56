import DocumentDb.Proofs.Memory.Account
import DocumentDb.Proofs.Memory.History

/-!
# Handlers hear what happens while they listen

What has been delivered after a run is told by its steps alone.

**The past of a collection.** A monitor is obtained by the name of its collection, and all monitors
of a collection are one. So the handlers of a collection are those that were attached to it
(`attachedBy`), and it runs if it was started last (`runsAfter`), through whichever monitor.

**Events** (`Step.events`). The events of a step are the changes that its writes announce where they
are made, and the drop of a collection that is there.

**The log** (`Store.log`). Each step delivers its events, one after the other, to each handler that
is attached by then, if the collection runs by then. Nothing else is ever delivered
(`deliveries_after`).

**Theorem (`handlers_hear_while_running`).** The deliveries of a run are its log. A handler hears
the events of its collection since it was attached while the collection runs, each once, and what
the handlers answer makes no difference.
-/

namespace DocumentDb.Memory

/-! ## Events -/

/-- The collection that a step is about. -/
def Step.target : Step → Option String
  | .call c => c.target
  | .attach name _ | .setRunning name _ => some name

/-- The events of a collection in a step: what its writes announce, up to the first that is refused,
or that it is dropped. -/
def Step.events (s : Store) (name : String) : Step → List Change
  | .call (.dropCollection other) =>
    if other = name ∧ s.collections.contains other = true then
      [.ofDocument name .drop none]
    else []
  | .call c =>
    match c.writes with
    | some (other, ws) =>
      if other = name then
        ((s.collection name).met name ws).filterMap fun p => p.1.announces name p.2
      else []
    | none => []
  | _ => []

variable {s t : Store} {name : String}

theorem events_of_writes {c : Call} {other : String} {ws : List Write}
    (h : c.writes = some (other, ws)) (s : Store) (name : String) :
    (Step.call c).events s name =
      if other = name then
        ((s.collection name).met name ws).filterMap fun p => p.1.announces name p.2
      else [] := by
  cases c with
  | insert | replace | delete | bulkWrite =>
    cases h
    rfl
  | _ => cases h

/-- The events of a collection are the changes that a handler of this collection alone hears. -/
theorem events_eq_changes (s : Store) (name : String) (a : Step) :
    a.events s name = a.changes s name := by
  cases a with
  | attach | setRunning => rfl
  | call c =>
    cases hw : c.writes with
    | some p =>
      obtain ⟨other, ws⟩ := p
      rw [events_of_writes hw]
      split
      · next h =>
        subst h
        rw [changes_of_writes hw, ← (Collection.accounts_run ws).made]
      · next h => rw [changes_of_writes_of_ne hw h]
    | none =>
      cases c with
      | insert | replace | delete | bulkWrite => cases hw
      | get | find | count | aggregate | listCollections | createCollection => rfl
      | dropCollection other => exact (changes_dropCollection s name other).symm
      | addIndex other field unique => rw [changes_addIndex]; rfl
      | dropIndex other field => rw [changes_dropIndex]; rfl

/-- A step has events of no collection but its own. -/
theorem events_of_target_ne {a : Step} (h : a.target ≠ some name) (s : Store) :
    a.events s name = [] := by
  have hne {other : String} (ho : some other ≠ some name) : other ≠ name :=
    fun he => ho (congrArg some he)
  cases a with
  | attach | setRunning => rfl
  | call c =>
    cases c with
    | insert | replace | delete | bulkWrite => exact if_neg (hne h)
    | dropCollection other => exact if_neg fun h' => hne h h'.1
    | _ => rfl

/-! ## The past of a collection -/

/-- The handler that a step attaches to a collection. -/
def Step.attached? (name : String) : Step → Option Handler
  | .attach other h => if other = name then some h else none
  | _ => none

/-- Whether a step starts a collection or stops it. -/
def Step.turned? (name : String) : Step → Option Bool
  | .setRunning other running => if other = name then some running else none
  | _ => none

/-- The handlers that some steps attach to a collection. -/
def attachedBy (name : String) (past : List Step) : List Handler :=
  past.filterMap (Step.attached? name)

/-- Whether a collection runs after some steps, which its last start or stop decides. -/
def runsAfter (name : String) (past : List Step) : Bool :=
  (past.filterMap (Step.turned? name)).getLast?.getD false

/-- The monitor of a collection after some steps. -/
def monitorAfter (name : String) (past : List Step) : Monitor :=
  ⟨runsAfter name past, attachedBy name past⟩

theorem monitor_after_call (s : Store) (c : Call) (name : String) :
    (c.after backend s).monitor name = s.monitor name := by
  cases c with
  | dropCollection other =>
    show (s.dropCollection other).monitor name = _
    rw [Store.dropCollection]
    split <;> rfl
  | addIndex other field unique =>
    show (s.addIndex other field unique).2.monitor name = _
    rw [Store.addIndex]
    split <;> rfl
  | dropIndex other field =>
    show (s.dropIndex other field).2.monitor name = _
    rw [Store.dropIndex]
    split
    · rfl
    · split <;> rfl
  | _ => rfl

theorem monitor_setMonitor (s : Store) (other : String) (m : Monitor) (name : String) :
    (s.setMonitor other m).monitor name = if other = name then m else s.monitor name := by
  split
  · next h => rw [h, Store.monitor, Store.setMonitor, Assoc.get?_insert_self, Option.getD_some]
  · next h =>
    rw [Store.monitor, Store.setMonitor, Assoc.get?_insert_of_ne _ _ (Ne.symm h), Store.monitor]

theorem attachedBy_concat (name : String) (past : List Step) (a : Step) :
    attachedBy name (past ++ [a]) = attachedBy name past ++ (a.attached? name).toList := by
  cases h : a.attached? name <;> simp [attachedBy, h]

theorem runsAfter_concat (name : String) (past : List Step) (a : Step) :
    runsAfter name (past ++ [a]) = (a.turned? name).getD (runsAfter name past) := by
  cases h : a.turned? name <;> simp [runsAfter, h]

/-- The monitors of a store are what the steps so far have made of them. -/
theorem monitor_after {past : List Step} (hm : ∀ name, s.monitor name = monitorAfter name past)
    (a : Step) (name : String) : (a.after s).monitor name = monitorAfter name (past ++ [a]) := by
  rw [monitorAfter, attachedBy_concat, runsAfter_concat]
  cases a with
  | call c =>
    rw [Step.after, monitor_after_call, hm]
    simp [monitorAfter, Step.attached?, Step.turned?]
  | attach other h =>
    rw [Step.after, Store.attach, monitor_setMonitor, hm, hm]
    by_cases ho : other = name <;> simp [monitorAfter, Step.attached?, Step.turned?, ho]
  | setRunning other running =>
    rw [Step.after, Store.setRunning, monitor_setMonitor, hm, hm]
    by_cases ho : other = name <;> simp [monitorAfter, Step.attached?, Step.turned?, ho]

/-! ## The log -/

/-- What a step delivers: each event to every handler that is attached by then, before the next one,
if the collection runs by then. -/
def Step.delivers (s : Store) (past : List Step) (a : Step) : List Delivery :=
  match a.target with
  | some name =>
    if runsAfter name past then
      (a.events s name).flatMap fun c =>
        (attachedBy name past).map fun h => ⟨h.label, c, h.respond c⟩
    else []
  | none => []

/-- What some steps deliver. -/
def Store.log (s : Store) (past : List Step) : List Step → List Delivery
  | [] => []
  | a :: steps => a.delivers s past ++ log (a.after s) (past ++ [a]) steps

theorem delivers_of_target {a : Step} (h : a.target = some name) (s : Store) (past : List Step) :
    a.delivers s past = (monitorAfter name past).deliver (a.events s name) := by
  rw [Step.delivers, h]
  rfl

theorem delivers_eq_nil {a : Step} (h : ∀ name, a.events s name = []) (past : List Step) :
    a.delivers s past = [] := by
  rw [Step.delivers]
  split
  · rw [h, List.flatMap_nil, ite_self]
  · rfl

theorem target_of_writes {c : Call} {ws : List Write} (h : c.writes = some (name, ws)) :
    (Step.call c).target = some name := by
  cases c with
  | insert | replace | delete | bulkWrite =>
    cases h
    rfl
  | _ => cases h

/-- A step delivers what is to be delivered, and nothing else. -/
theorem deliveries_step {past : List Step} (hm : ∀ name, s.monitor name = monitorAfter name past)
    (a : Step) : (a.after s).deliveries = s.deliveries ++ a.delivers s past := by
  have hquiet (ha : ∀ name, a.events s name = []) (hd : (a.after s).deliveries = s.deliveries) :
      (a.after s).deliveries = s.deliveries ++ a.delivers s past := by
    rw [delivers_eq_nil ha, List.append_nil, hd]
  cases a with
  | attach | setRunning => exact hquiet (fun _ => rfl) rfl
  | call c =>
    cases hw : c.writes with
    | some p =>
      obtain ⟨name, ws⟩ := p
      rw [Step.after, deliveries_of_writes hw, delivers_of_target (target_of_writes hw),
        events_eq_changes, hm]
    | none =>
      cases c with
      | insert | replace | delete | bulkWrite => cases hw
      | get | find | count | aggregate | listCollections | createCollection =>
        exact hquiet (fun _ => rfl) rfl
      | dropCollection name =>
        rw [delivers_of_target rfl, events_eq_changes, ← hm]
        exact deliveries_dropCollection s name
      | addIndex other field unique =>
        refine hquiet (fun _ => rfl) ?_
        show (s.addIndex other field unique).2.deliveries = s.deliveries
        rw [Store.addIndex]
        split <;> rfl
      | dropIndex other field =>
        refine hquiet (fun _ => rfl) ?_
        show (s.dropIndex other field).2.deliveries = s.deliveries
        rw [Store.dropIndex]
        split
        · rfl
        · split <;> rfl

/-- What has been delivered after some steps is their log. -/
theorem deliveries_after {past : List Step} (hm : ∀ name, s.monitor name = monitorAfter name past)
    (steps : List Step) : (s.after steps).deliveries = s.deliveries ++ s.log past steps := by
  induction steps generalizing s past with
  | nil => exact (List.append_nil _).symm
  | cons a steps ih =>
    rw [Store.log, ← List.append_assoc, ← deliveries_step hm]
    exact ih (monitor_after hm a)

theorem log_append (past steps steps' : List Step) :
    s.log past (steps ++ steps') =
      s.log past steps ++ (s.after steps).log (past ++ steps) steps' := by
  induction steps generalizing s past with
  | nil => simp [Store.log, Store.after]
  | cons a steps ih => simp [Store.log, Store.after, ih]

/-! ## One handler -/

/-- The changes that some deliveries bring to a handler. -/
def received (label : String) (ds : List Delivery) : List Change :=
  ds.filterMap fun d => if d.handler = label then some d.change else none

/-- The label of the handler that a step attaches. -/
def Step.label? : Step → Option String
  | .attach _ h => some h.label
  | _ => none

/-- The events of a collection in some steps while it runs. -/
def Store.heard (s : Store) (name : String) (past : List Step) : List Step → List Change
  | [] => []
  | a :: steps =>
    (if runsAfter name past then a.events s name else []) ++
      heard (a.after s) name (past ++ [a]) steps

/-- How often the handlers of a collection have a label. -/
def timesAttached (label name : String) (past : List Step) : Nat :=
  (attachedBy name past).countP fun h => h.label = label

theorem received_append (label : String) (ds ds' : List Delivery) :
    received label (ds ++ ds') = received label ds ++ received label ds' :=
  List.filterMap_append ..

theorem received_map (label : String) (c : Change) (hs : List Handler) :
    received label (hs.map fun h => ⟨h.label, c, h.respond c⟩) =
      List.replicate (hs.countP fun h => h.label = label) c := by
  induction hs with
  | nil => rfl
  | cons h hs ih =>
    rw [received] at ih
    by_cases hl : h.label = label <;> simp [received, hl, ih, List.replicate_succ]

theorem received_flatMap (label : String) (cs : List Change) (hs : List Handler) :
    received label (cs.flatMap fun c => hs.map fun h => ⟨h.label, c, h.respond c⟩) =
      cs.flatMap fun c => List.replicate (hs.countP fun h => h.label = label) c := by
  induction cs with
  | nil => rfl
  | cons c cs ih => rw [List.flatMap_cons, List.flatMap_cons, received_append, received_map, ih]

theorem received_delivers {a : Step} (ha : a.target = some name) (label : String)
    (past : List Step) :
    received label (a.delivers s past) =
      if runsAfter name past then
        (a.events s name).flatMap fun c => List.replicate (timesAttached label name past) c
      else [] := by
  rw [Step.delivers, ha]
  dsimp only
  split
  · exact received_flatMap ..
  · rfl

theorem timesAttached_append {label : String} {steps : List Step}
    (hs : ∀ a ∈ steps, a.label? ≠ some label) (name : String) (past : List Step) :
    timesAttached label name (past ++ steps) = timesAttached label name past := by
  have hnone : timesAttached label name steps = 0 := by
    refine List.countP_eq_zero.2 fun h hh => ?_
    obtain ⟨a, ha, hah⟩ := List.mem_filterMap.1 hh
    cases a with
    | call | setRunning => cases hah
    | attach other h' =>
      obtain ⟨-, rfl⟩ : other = name ∧ h' = h := by simpa [Step.attached?] using hah
      simpa [Step.label?] using hs _ ha
  rw [timesAttached, attachedBy, List.filterMap_append, List.countP_append]
  exact (congrArg _ hnone).trans (Nat.add_zero _)

theorem timesAttached_attach (h : Handler) (name other : String) (past : List Step) :
    timesAttached h.label other (past ++ [.attach name h]) =
      timesAttached h.label other past + if name = other then 1 else 0 := by
  rw [timesAttached, attachedBy_concat, List.countP_append, ← timesAttached]
  by_cases ho : name = other <;> simp [Step.attached?, ho]

/-- A handler of one collection only hears the events of that one. -/
theorem received_step {label : String} {past : List Step}
    (ht : ∀ other ≠ name, timesAttached label other past = 0) (a : Step) :
    received label (a.delivers s past) =
      (if runsAfter name past then a.events s name else []).flatMap fun c =>
        List.replicate (timesAttached label name past) c := by
  cases ha : a.target with
  | none =>
    rw [events_of_target_ne (by simp [ha]), ite_self, Step.delivers, ha]
    rfl
  | some other =>
    rw [received_delivers ha]
    by_cases ho : other = name
    · subst ho
      split <;> rfl
    · have hne : a.target ≠ some name := by simp [ha, ho]
      rw [events_of_target_ne hne, ht other ho]
      simp

theorem received_log (name : String) {label : String} {steps past : List Step}
    (hs : ∀ a ∈ steps, a.label? ≠ some label)
    (ht : ∀ other ≠ name, timesAttached label other past = 0) :
    received label (s.log past steps) =
      (s.heard name past steps).flatMap fun c =>
        List.replicate (timesAttached label name past) c := by
  induction steps generalizing s past with
  | nil => rfl
  | cons a steps ih =>
    obtain ⟨ha, hs⟩ := List.forall_mem_cons.1 hs
    have hkept (other : String) :
        timesAttached label other (past ++ [a]) = timesAttached label other past :=
      timesAttached_append (by simpa using ha) other past
    have hlater := ih (s := a.after s) hs fun other ho => (hkept other).trans (ht other ho)
    rw [Store.log, Store.heard, received_append, List.flatMap_append, received_step ht, hlater,
      hkept]

/-- From a store without monitors a handler that is attached once hears the events of its collection
since then. -/
theorem received_after {h : Handler} {past steps : List Step}
    (hs : ∀ a ∈ past ++ steps, a.label? ≠ some h.label) (hm : s.monitors = [])
    (hd : s.deliveries = []) :
    received h.label (s.after (past ++ [.attach name h] ++ steps)).deliveries =
      (s.after (past ++ [.attach name h])).heard name (past ++ [.attach name h]) steps := by
  have hpast := fun a ha => hs a (List.mem_append_left steps ha)
  have hsteps := fun a ha => hs a (List.mem_append_right past ha)
  have hempty (name : String) : s.monitor name = monitorAfter name [] := by
    rw [Store.monitor, hm]
    rfl
  have hbefore : received h.label (s.log [] (past ++ [.attach name h])) = [] := by
    have hattach : (s.after past).log ([] ++ past) [.attach name h] = [] :=
      (List.append_nil _).trans (delivers_eq_nil (fun _ => rfl) _)
    rw [log_append, received_append, received_log name hpast fun _ _ => rfl, hattach]
    exact (List.append_nil _).trans (List.flatMap_eq_nil_iff.2 fun _ _ => rfl)
  have htimes (other : String) : timesAttached h.label other (past ++ [.attach name h]) =
      if name = other then 1 else 0 := by
    rw [timesAttached_attach, ← List.nil_append past, timesAttached_append hpast]
    exact Nat.zero_add _
  rw [deliveries_after hempty, hd, List.nil_append, log_append, received_append, hbefore,
    List.nil_append, List.nil_append, received_log name hsteps, htimes, if_pos rfl]
  · exact List.flatMap_singleton' _
  · exact fun other ho => (htimes other).trans (if_neg (Ne.symm ho))

/-! ## Answers -/

/-- The same step, with other answers of the handler that it attaches. -/
def Step.answering (f : Handler → Change → Except Error Unit) : Step → Step
  | .attach name h => .attach name { h with respond := f h }
  | a => a

/-- What has been delivered to whom, whatever it has been answered. -/
def unanswered (ds : List Delivery) : List (String × Change) :=
  ds.map fun d => (d.handler, d.change)

theorem unanswered_append (ds ds' : List Delivery) :
    unanswered (ds ++ ds') = unanswered ds ++ unanswered ds' :=
  List.map_append

/-- Monitors make no difference to what a step does to the collections. -/
theorem collections_after (h : s.collections = t.collections) (a : Step) :
    (a.after s).collections = (a.after t).collections := by
  obtain ⟨cs, ms, ds, sh⟩ := s
  obtain ⟨cs', ms', ds', sh'⟩ := t
  obtain rfl : cs = cs' := h
  cases a with
  | attach | setRunning => rfl
  | call c =>
    cases c with
    | dropCollection other =>
      show (Store.dropCollection _ other).collections = (Store.dropCollection _ other).collections
      rw [Store.dropCollection, Store.dropCollection]
      dsimp only
      split <;> rfl
    | addIndex other field unique =>
      show (Store.addIndex _ other field unique).2.collections =
        (Store.addIndex _ other field unique).2.collections
      rw [Store.addIndex, Store.addIndex, Store.collection, Store.collection]
      dsimp only
      split <;> rfl
    | dropIndex other field =>
      show (Store.dropIndex _ other field).2.collections =
        (Store.dropIndex _ other field).2.collections
      rw [Store.dropIndex, Store.dropIndex]
      dsimp only
      split
      · rfl
      · split <;> rfl
    | _ => rfl

theorem events_congr (h : s.collections = t.collections) (name : String) (a : Step) :
    a.events s name = a.events t name := by
  have hc : s.collection name = t.collection name := by
    rw [Store.collection, Store.collection, h]
  cases a with
  | attach | setRunning => rfl
  | call c =>
    cases c with
    | dropCollection other => rw [Step.events, Step.events, h]
    | insert | replace | delete | bulkWrite =>
      rw [events_of_writes rfl, events_of_writes rfl, hc]
    | _ => rfl

section Answering

variable (f : Handler → Change → Except Error Unit)

theorem target_answering (a : Step) : (a.answering f).target = a.target := by
  cases a <;> rfl

theorem events_answering (a : Step) (s : Store) (name : String) :
    (a.answering f).events s name = a.events s name := by
  cases a <;> rfl

theorem collections_after_answering (a : Step) (s : Store) :
    ((a.answering f).after s).collections = (a.after s).collections := by
  cases a <;> rfl

theorem runsAfter_answering (name : String) (past : List Step) :
    runsAfter name (past.map (Step.answering f)) = runsAfter name past := by
  rw [runsAfter, runsAfter, List.filterMap_map]
  congr 3
  funext a
  cases a <;> rfl

theorem map_label_attachedBy_answering (name : String) (past : List Step) :
    (attachedBy name (past.map (Step.answering f))).map Handler.label =
      (attachedBy name past).map Handler.label := by
  rw [attachedBy, attachedBy, List.filterMap_map, List.map_filterMap, List.map_filterMap]
  congr 1
  funext a
  cases a with
  | call | setRunning => rfl
  | attach other h =>
    by_cases ho : other = name <;> simp [Step.answering, Step.attached?, ho]

theorem unanswered_flatMap (cs : List Change) (hs : List Handler) :
    unanswered (cs.flatMap fun c => hs.map fun h => ⟨h.label, c, h.respond c⟩) =
      cs.flatMap fun c => (hs.map Handler.label).map fun label => (label, c) := by
  simp only [unanswered, List.map_flatMap, List.map_map]
  rfl

theorem unanswered_delivers (h : t.collections = s.collections) (past : List Step) (a : Step) :
    unanswered ((a.answering f).delivers t (past.map (Step.answering f))) =
      unanswered (a.delivers s past) := by
  rw [Step.delivers, Step.delivers, target_answering]
  split
  · next name _ =>
    rw [runsAfter_answering, events_answering, events_congr h]
    split
    · rw [unanswered_flatMap, unanswered_flatMap, map_label_attachedBy_answering]
    · rfl
  · rfl

/-- Other answers change neither what is delivered to whom nor the collections. -/
theorem unanswered_log (h : t.collections = s.collections) (past steps : List Step) :
    unanswered (t.log (past.map (Step.answering f)) (steps.map (Step.answering f))) =
        unanswered (s.log past steps) ∧
      (t.after (steps.map (Step.answering f))).collections = (s.after steps).collections := by
  induction steps generalizing s t past with
  | nil => exact ⟨rfl, h⟩
  | cons a steps ih =>
    obtain ⟨hlog, hcollections⟩ := ih
      ((collections_after_answering f a t).trans (collections_after h a)) (past ++ [a])
    refine ⟨?_, hcollections⟩
    rw [List.map_append] at hlog
    show unanswered (_ ++ _) = unanswered (_ ++ _)
    rw [unanswered_append, unanswered_append, unanswered_delivers f h]
    exact congrArg _ hlog

end Answering

/-! ## Writes that fail -/

/-- A run with a refusal makes the writes in front of the refused one. -/
theorem Collection.exists_split_of_run_error {c : Collection} {ws : List Write} {e : Error}
    (h : (c.run name ws).error = some e) :
    ∃ ws₁ w ws₂, ws = ws₁ ++ w :: ws₂ ∧ (c.run name ws₁).error = none ∧
      (c.run name ws₁).collection.apply name w = .error e ∧ c.met name ws = c.met name ws₁ := by
  induction ws generalizing c with
  | nil => cases h
  | cons w ws ih =>
    cases ha : c.apply name w with
    | error err =>
      rw [run_cons_error ha, Option.some_inj] at h
      subst h
      exact ⟨[], w, ws, rfl, rfl, ha, met_cons_error ha⟩
    | ok eff =>
      rw [run_cons_ok ha] at h
      obtain ⟨ws₁, w', ws₂, rfl, hok, hw, hmet⟩ := ih h
      refine ⟨w :: ws₁, w', ws₂, rfl, ?_, ?_, ?_⟩
      · rw [run_cons_ok ha]
        exact hok
      · rw [run_cons_ok ha]
        exact hw
      · rw [met_cons_ok ha, met_cons_ok ha, hmet]

/-- The events of a call that fails are those of its writes in front of the refused one. -/
theorem events_of_failed {c : Call} {ws : List Write} {e : Error}
    (hw : c.writes = some (name, ws)) (h : (t.write name ws).1 = .error e) :
    ∃ ws₁ w ws₂ sum, ws = ws₁ ++ w :: ws₂ ∧ (t.write name ws₁).1 = .ok sum ∧
      ((t.write name ws₁).2.write name [w]).1 = .error e ∧
      (Step.call c).events t name = (Step.bulk name ws₁).events t name := by
  obtain ⟨ws₁, w, ws₂, hs, hok, herr, hmet⟩ :=
    Collection.exists_split_of_run_error (Store.write_eq_error_iff.1 h)
  refine ⟨ws₁, w, ws₂, _, hs, Store.write_eq_ok_iff.2 ⟨hok, rfl⟩, ?_, ?_⟩
  · rw [Store.write_eq_error_iff, Store.collection_write_run, Collection.run_cons_error herr]
  · rw [events_of_writes hw, Step.bulk, events_of_writes rfl, hmet]

theorem dropCollection_of_missing (h : t.collections.contains name = false) :
    t.dropCollection name = t := by
  rw [Store.dropCollection, h]
  rfl

/-! ## Main result -/

/-- **Handlers hear what happens while they listen.** In any run from a store without collections,
the steps deliver one after the other: each of its events once to each handler that is attached to
the collection by then, if the collection was started last. So a handler with a label of its own
hears, in order and once, the events of its collection since it was attached, as long as the
collection runs. What the handlers answer changes neither what is delivered to whom nor the
collections. The events of a call that fails are those of the writes in front of the refused one,
and dropping a collection that is not there does nothing at all. -/
theorem handlers_hear_while_running (shuffle : Shuffle) :
    let s : Store := { shuffle := shuffle }
    (∀ steps, (s.after steps).deliveries = s.log [] steps) ∧
      (∀ past name h steps, (∀ a ∈ past ++ steps, a.label? ≠ some h.label) →
        let before := past ++ [.attach name h]
        received h.label (s.after (before ++ steps)).deliveries =
          (s.after before).heard name before steps) ∧
      (∀ steps f, unanswered (s.after (steps.map (Step.answering f))).deliveries =
          unanswered (s.after steps).deliveries ∧
        (s.after (steps.map (Step.answering f))).collections = (s.after steps).collections) ∧
      (∀ (t : Store) c name ws e, c.writes = some (name, ws) → (t.write name ws).1 = .error e →
        ∃ ws₁ w ws₂ sum, ws = ws₁ ++ w :: ws₂ ∧ (t.write name ws₁).1 = .ok sum ∧
          ((t.write name ws₁).2.write name [w]).1 = .error e ∧
          (Step.call c).events t name = (Step.bulk name ws₁).events t name) ∧
      ∀ (t : Store) name, t.collections.contains name = false → t.dropCollection name = t := by
  intro s
  have hlog (steps : List Step) : (s.after steps).deliveries = s.log [] steps :=
    deliveries_after (fun _ => rfl) steps
  refine ⟨hlog, fun past name h steps hs => received_after hs rfl rfl, fun steps f => ?_,
    fun t c name ws e hw he => events_of_failed hw he, fun t name => dropCollection_of_missing⟩
  rw [hlog, hlog]
  exact unanswered_log f rfl [] steps

/-- A handler that answers with errors hears a call that fails at its second write, and a drop. It
does not hear what is done before it is attached or while the collection stands still. -/
theorem handlers_hear_while_running_in_part :
    let h : Handler := ⟨"log", fun _ => .error (.unknown "full")⟩
    let past := [Step.setRunning "c" true, Step.bulk "c" [.insert "0" []]]
    let ws : List Write := [.insert "a" [], .insert "a" [], .insert "b" []]
    let steps := [Step.bulk "c" ws, .setRunning "c" false, Step.bulk "c" [.delete "0"],
      .setRunning "c" true, .call (.dropCollection "c"), .call (.dropCollection "c")]
    (∀ a ∈ past ++ steps, a.label? ≠ some "log") ∧
      (received "log" (({} : Store).after (past ++ [.attach "c" h] ++ steps)).deliveries).map
          (fun c => (c.kind, c.id)) = [(.insert, some "a"), (.drop, none)] ∧
      (∃ ws₁ w ws₂ sum, ws = ws₁ ++ w :: ws₂ ∧ (({} : Store).write "c" ws₁).1 = .ok sum ∧
        ((({} : Store).write "c" ws₁).2.write "c" [w]).1 = .error (.alreadyExists "a" "c") ∧
        (Step.bulk "c" ws).events {} "c" = (Step.bulk "c" ws₁).events {} "c") ∧
      ({} : Store).dropCollection "c" = {} := by
  intro h past ws steps
  obtain ⟨-, hheard, -, hfailed, hmissing⟩ := handlers_hear_while_running .still
  have hlabel : ∀ a ∈ past ++ steps, a.label? ≠ some "log" := by decide
  refine ⟨hlabel, ?_, hfailed {} (.bulkWrite "c" ws) "c" ws _ rfl rfl, hmissing {} "c" rfl⟩
  rw [hheard past "c" h steps hlabel]
  dsimp only [past, steps, ws, h]
  rfl

end DocumentDb.Memory
