import DocumentDb.Accessors.Generated
import DocumentDb.Proofs.Result

/-!
# Names that attributes give

The attributes of a declaration are read one item after the other, and what is known so far is
carried along. What comes of it can be said without an order of reading: it is the last thing that
the items say.

**Readable declarations** (`Declaration.Readable`). A record without parameters is readable if each
item on it and on its fields is. Of the items that count, a rule has a known name, a name is a text,
and nothing follows the word that leaves a field out; other items may be followed by anything but
lists within lists.

**Names** (`FieldDeclaration.storedName`). A field is stored under the last name that its items
give, or else under its own plain name, changed by the last rule on the type if there is one.

**The essence** (`Declaration.essence`). A declaration without the attributes and the items that say
nothing about names.

**Theorem (`wire_names_resolved`).** Accessors are generated exactly for readable declarations. They
are those of the fields that are not left out, in their order and with these names, and the essence
has the same.
-/

namespace DocumentDb.Accessors

/-! ## The last value -/

section Last

variable {α β : Type}

theorem getLastD_append (bs bs' : List β) (b : β) :
    (bs ++ bs').getLastD b = bs'.getLastD (bs.getLastD b) := by
  simp only [List.getLastD_eq_getLast?, List.getLast?_append, Option.getD_or]

theorem foldl_getD (f : α → Option β) (as : List α) (b : β) :
    as.foldl (fun b a => (f a).getD b) b = (as.filterMap f).getLastD b := by
  induction as generalizing b with
  | nil => rfl
  | cons a as ih =>
    rw [List.foldl_cons, ih]
    cases h : f a with
    | none => rw [List.filterMap_cons_none h, Option.getD_none]
    | some b' => rw [List.filterMap_cons_some h, Option.getD_some, List.getLastD_cons]

theorem foldl_or (f : α → Option β) (as : List α) (o : Option β) :
    as.foldl (fun o a => (f a).or o) o = (as.filterMap f).getLast?.or o := by
  induction as generalizing o with
  | nil => rfl
  | cons a as ih =>
    rw [List.foldl_cons, ih]
    cases h : f a with
    | none => rw [List.filterMap_cons_none h, Option.none_or]
    | some b =>
      rw [List.filterMap_cons_some h, List.getLast?_cons, Option.some_or, Option.some_or]
      cases (as.filterMap f).getLast? <;> rfl

end Last

/-! ## What items say -/

namespace Item

/-- The text that an item carries. -/
def text? : Item → Option String
  | text _ value => some value
  | _ => none

/-- Whether an item carries nothing. -/
def isBare : Item → Bool
  | bare _ => true
  | _ => false

/-- Whether an item carries a list of items. -/
def isList : Item → Bool
  | list .. => true
  | _ => false

/-- The rule that an item gives a type. -/
def rule? (i : Item) : Option RenamingRule :=
  if i.path = "rename_all" then i.text?.bind RenamingRule.ofName? else none

/-- The name for writing that an item of a list of names gives. -/
def writtenName? (i : Item) : Option String :=
  if i.path = "serialize" then i.text? else none

/-- The names that an item gives a field, in order. -/
def names : Item → List String
  | text p value => if p = "rename" then [value] else []
  | list p items => if p = "rename" then items.filterMap writtenName? else []
  | bare _ | expression _ => []

/-! ### Readable items -/

/-- An item of no concern carries no list, or one that is not empty and holds no further lists. -/
def Passable : Item → Prop
  | list _ items => items ≠ [] ∧ ∀ i ∈ items, i.isList = false
  | _ => True

/-- An item can be read in a list of names: a name for writing is a text, and no other item carries
a list. -/
def ReadableInNames (i : Item) : Prop :=
  if i.path = "serialize" then i.text?.isSome = true else i.isList = false

/-- An item that renames a field carries a text or a list of names. -/
def Renames : Item → Prop
  | text .. => True
  | list _ items => items ≠ [] ∧ ∀ i ∈ items, i.ReadableInNames
  | _ => False

instance : DecidablePred Passable
  | list _ items => inferInstanceAs (Decidable (items ≠ [] ∧ ∀ i ∈ items, i.isList = false))
  | bare _ | text _ _ | expression _ => inferInstanceAs (Decidable True)

instance : DecidablePred ReadableInNames := fun i =>
  inferInstanceAs (Decidable
    (if i.path = "serialize" then i.text?.isSome = true else i.isList = false))

instance : DecidablePred Renames
  | list _ items => inferInstanceAs (Decidable (items ≠ [] ∧ ∀ i ∈ items, i.ReadableInNames))
  | text _ _ => inferInstanceAs (Decidable True)
  | bare _ | expression _ => inferInstanceAs (Decidable False)

/-- An item can be read on a type. -/
def ReadableOnType (i : Item) : Prop :=
  if i.path = "rename_all" then i.rule?.isSome = true else i.Passable

/-- An item can be read on a field. -/
def ReadableOnField (i : Item) : Prop :=
  if i.path = "rename" then i.Renames
  else if saysSkip i = true then i.isBare = true
  else i.Passable

instance : DecidablePred ReadableOnType := fun i =>
  inferInstanceAs (Decidable
    (if i.path = "rename_all" then i.rule?.isSome = true else i.Passable))

instance : DecidablePred ReadableOnField := fun i =>
  inferInstanceAs (Decidable
    (if i.path = "rename" then i.Renames
      else if saysSkip i = true then i.isBare = true
      else i.Passable))

end Item

/-- The items of the attributes that say how something is stored. -/
def storageItems (as : List Attribute) : List Item :=
  (storageAttributes as).flatMap Attribute.items

/-! ## Items of no concern -/

theorem passInner_eq_ok_iff {i : Item} : passInner i = .ok () ↔ i.isList = false := by
  cases i <;> simp [passInner, Item.isList]

theorem forM_passInner_eq_ok_iff {items : List Item} :
    items.forM passInner = .ok () ↔ ∀ i ∈ items, i.isList = false := by
  induction items with
  | nil => exact iff_of_true rfl (by simp)
  | cons i items ih =>
    rw [List.forall_mem_cons, ← passInner_eq_ok_iff, ← ih]
    exact check_eq_ok_iff

theorem passItem_eq_ok_iff {i : Item} : passItem i = .ok () ↔ i.Passable := by
  cases i with
  | list p items =>
    rw [passItem, passList, Item.Passable, ← forM_passInner_eq_ok_iff]
    cases items <;> simp
  | bare | text | expression => exact iff_of_true rfl trivial

/-! ## Reading a type -/

theorem requireText_eq_ok_iff {i : Item} {s : String} :
    requireText i = .ok s ↔ i.text? = some s := by
  cases i <;> simp [requireText, Item.text?]

theorem readRule_eq_ok_iff (rule : Option RenamingRule) (i : Item) (r : Option RenamingRule) :
    readRule rule i = .ok r ↔ i.ReadableOnType ∧ r = i.rule?.or rule := by
  rw [readRule, Item.ReadableOnType, Item.rule?]
  by_cases h : i.path = "rename_all"
  · simp only [if_pos h, bind_eq_ok_iff, requireText_eq_ok_iff]
    cases i.text? with
    | none => simp
    | some name =>
      cases hr : RenamingRule.ofName? name <;> simp [hr, pure_eq_ok_iff]
  · simp only [if_neg h, check_eq_ok_iff, pure_eq_ok_iff, passItem_eq_ok_iff, Option.none_or]

theorem renamingRule_eq_ok_iff {as : List Attribute} {r : Option RenamingRule} :
    renamingRule as = .ok r ↔ (∀ i ∈ storageItems as, i.ReadableOnType) ∧
      r = ((storageItems as).filterMap Item.rule?).getLast? := by
  rw [renamingRule, foldlM_eq_ok_iff readRule_eq_ok_iff, foldl_or, Option.or_none, storageItems]

/-! ## Reading a field -/

theorem readName_eq_ok_iff (name : String) (i : Item) (n : String) :
    (if i.path = "serialize" then requireText i
      else do
        passInner i
        return name) = .ok n ↔
      i.ReadableInNames ∧ n = i.writtenName?.getD name := by
  rw [Item.ReadableInNames, Item.writtenName?]
  by_cases h : i.path = "serialize"
  · simp only [if_pos h, requireText_eq_ok_iff]
    cases i.text? <;> simp [eq_comm]
  · simp only [if_neg h, check_eq_ok_iff, pure_eq_ok_iff, passInner_eq_ok_iff, Option.getD_none]

theorem readNames_eq_ok_iff {name n : String} {items : List Item} :
    readNames name items = .ok n ↔
      (items ≠ [] ∧ ∀ i ∈ items, i.ReadableInNames) ∧
      n = (items.filterMap Item.writtenName?).getLastD name := by
  rw [readNames, ← foldl_getD, and_assoc, ← foldlM_eq_ok_iff readName_eq_ok_iff]
  cases items <;> simp

/-- What is known of a field after some items. -/
def WireName.read (w : WireName) (items : List Item) : WireName where
  name := (items.flatMap Item.names).getLastD w.name
  skipped := w.skipped || items.any saysSkip

theorem WireName.read_nil (w : WireName) : w.read [] = w := by
  simp [read]

theorem WireName.read_append (w : WireName) (items items' : List Item) :
    w.read (items ++ items') = (w.read items).read items' := by
  simp only [read, List.flatMap_append, getLastD_append, List.any_append, Bool.or_assoc]

theorem readRename_eq_ok_iff {w w' : WireName} {atEnd : Bool} {i : Item} (h : i.path = "rename") :
    readRename w atEnd i = .ok w' ↔
      i.Renames ∧ w' = { w with name := i.names.getLastD w.name } := by
  cases i with
  | bare | expression => simp [readRename, Item.Renames]
  | text p value =>
    obtain rfl : p = "rename" := h
    simp [readRename, Item.Renames, Item.names, eq_comm]
  | list p items =>
    obtain rfl : p = "rename" := h
    rw [readRename, bind_eq_ok_iff_of fun _ => readNames_eq_ok_iff, pure_eq_ok_iff, Item.Renames,
      Item.names, if_pos rfl]

theorem readSkip_eq_ok_iff {w w' : WireName} {i : Item} :
    readSkip w i = .ok w' ↔ i.isBare = true ∧ w' = { w with skipped := true } := by
  cases i <;> simp [readSkip, Item.isBare, eq_comm]

theorem names_eq_nil {i : Item} (h : i.path ≠ "rename") : i.names = [] := by
  cases i with
  | bare | expression => rfl
  | text | list => exact if_neg h

theorem read_singleton (w : WireName) (i : Item) :
    w.read [i] = ⟨i.names.getLastD w.name, w.skipped || saysSkip i⟩ := by
  simp [WireName.read]

/-- An item is read before those behind it. -/
theorem readItems_cons_eq_ok_iff {w w' : WireName} {i : Item} {items : List Item} :
    readItems w (i :: items) = .ok w' ↔
      i.ReadableOnField ∧ readItems (w.read [i]) items = .ok w' := by
  rw [readItems, read_singleton, Item.ReadableOnField]
  by_cases h : i.path = "rename"
  · have hskip : saysSkip i = false := by simp [saysSkip, h]
    rw [if_pos h, if_pos h, hskip, Bool.or_false]
    exact bind_eq_ok_iff_of fun _ => readRename_eq_ok_iff h
  · rw [if_neg h, if_neg h, names_eq_nil h, List.getLastD_nil]
    cases saysSkip i with
    | true =>
      rw [if_pos rfl, if_pos rfl, Bool.or_true]
      exact bind_eq_ok_iff_of fun _ => readSkip_eq_ok_iff
    | false =>
      rw [if_neg Bool.false_ne_true, if_neg Bool.false_ne_true, Bool.or_false,
        ← passItem_eq_ok_iff]
      exact check_eq_ok_iff

theorem readItems_eq_ok_iff {w w' : WireName} {items : List Item} :
    readItems w items = .ok w' ↔ (∀ i ∈ items, i.ReadableOnField) ∧ w' = w.read items := by
  induction items generalizing w with
  | nil => simp [readItems, w.read_nil, eq_comm]
  | cons i items ih =>
    rw [readItems_cons_eq_ok_iff, ih, List.forall_mem_cons, and_assoc, ← WireName.read_append,
      List.singleton_append]

/-! ## Declarations -/

namespace FieldDeclaration

/-- Whether a field is stored, since none of its items leaves it out. -/
def isStored (f : FieldDeclaration) : Bool :=
  !(storageItems f.attributes).any saysSkip

/-- The name under which a field is stored: the last one that its items give, or else its plain name
as the rule changes it. -/
def storedName (rule : Option RenamingRule) (f : FieldDeclaration) : String :=
  (((storageItems f.attributes).flatMap Item.names).getLast?.or
    (rule.map (·.apply f.plainName))).getD f.plainName

/-- The accessor of a field that is stored. -/
def accessor (rule : Option RenamingRule) (f : FieldDeclaration) : Accessor :=
  ⟨f.name, withoutSpaces f.type, f.storedName rule⟩

/-- All items of a field can be read. -/
def Readable (f : FieldDeclaration) : Prop :=
  ∀ i ∈ storageItems f.attributes, i.ReadableOnField

instance : DecidablePred Readable :=
  fun f => inferInstanceAs (Decidable (∀ i ∈ storageItems f.attributes, i.ReadableOnField))

theorem storedName_eq_getLastD (rule : Option RenamingRule) (f : FieldDeclaration) :
    f.storedName rule =
      ((storageItems f.attributes).flatMap Item.names).getLastD (f.defaultName rule) := by
  rw [storedName, Option.getD_or, List.getLastD_eq_getLast?]
  cases rule <;> rfl

end FieldDeclaration

theorem foldl_read (w : WireName) (as : List Attribute) :
    as.foldl (fun w a => w.read a.items) w = w.read (as.flatMap Attribute.items) := by
  induction as generalizing w with
  | nil => exact w.read_nil.symm
  | cons a as ih => rw [List.foldl_cons, ih, List.flatMap_cons, WireName.read_append]

section Fields

variable {rule : Option RenamingRule} {f : FieldDeclaration}

theorem wireName_eq_ok_iff {w : WireName} :
    f.wireName rule = .ok w ↔ f.Readable ∧ w = ⟨f.storedName rule, !f.isStored⟩ := by
  have hread (w : WireName) (a : Attribute) (w' : WireName) :=
    @readItems_eq_ok_iff w w' a.items
  rw [FieldDeclaration.wireName, foldlM_eq_ok_iff hread, foldl_read, f.storedName_eq_getLastD,
    FieldDeclaration.isStored, Bool.not_not, FieldDeclaration.Readable, storageItems,
    List.forall_mem_flatMap]
  rfl

theorem accessor?_eq_ok_iff {o : Option Accessor} :
    f.accessor? rule = .ok o ↔
      f.Readable ∧ o = if f.isStored then some (f.accessor rule) else none := by
  rw [FieldDeclaration.accessor?, bind_eq_ok_iff_of fun _ => wireName_eq_ok_iff, pure_eq_ok_iff]
  cases f.isStored <;> rfl

theorem accessorsOf_eq_ok_iff {fs : List FieldDeclaration} {as : List Accessor} :
    accessorsOf rule fs = .ok as ↔
      (∀ f ∈ fs, f.Readable) ∧ as = (fs.filter (·.isStored)).map (·.accessor rule) := by
  induction fs generalizing as with
  | nil => simp [accessorsOf, eq_comm]
  | cons f fs ih =>
    rw [accessorsOf, bind_eq_ok_iff_of fun _ => accessor?_eq_ok_iff, bind_eq_ok_iff_of fun _ => ih,
      pure_eq_ok_iff, List.forall_mem_cons, and_assoc]
    cases hs : f.isStored <;> simp [hs]

end Fields

namespace Declaration

/-- The rule for the names of all fields: the last one that an item of the type gives. -/
def rule? (d : Declaration) : Option RenamingRule :=
  ((storageItems d.attributes).filterMap Item.rule?).getLast?

/-- The fields that are not left out, in their order. -/
def storedFields (d : Declaration) : List FieldDeclaration :=
  d.fields.filter (·.isStored)

/-- A declaration is one of a record without parameters, and all its items can be read. -/
structure Readable (d : Declaration) : Prop where
  plain : d.isGeneric = false
  record : d.kind = .record
  onType : ∀ i ∈ storageItems d.attributes, i.ReadableOnType
  onFields : ∀ f ∈ d.fields, f.Readable

theorem generate_eq_ok_iff {d : Declaration} {m : AccessorModule} :
    d.generate = .ok m ↔ d.Readable ∧
      m = ⟨Text.snakeCase d.name, d.storedFields.map (·.accessor d.rule?)⟩ := by
  constructor
  · intro h
    rw [generate] at h
    cases hg : d.isGeneric with
    | true =>
      rw [hg] at h
      cases h
    | false =>
      rw [hg] at h
      cases hk : d.kind with
      | record =>
        rw [hk] at h
        obtain ⟨rule, hrule, h⟩ := bind_eq_ok_iff.1 h
        obtain ⟨as, has, rfl⟩ := bind_pure_eq_ok_iff.1 h
        obtain ⟨htype, rfl⟩ := renamingRule_eq_ok_iff.1 hrule
        obtain ⟨hfields, rfl⟩ := accessorsOf_eq_ok_iff.1 has
        exact ⟨⟨hg, hk, htype, hfields⟩, rfl⟩
      | tuple | unit | enumeration | union =>
        rw [hk] at h
        cases h
  · rintro ⟨⟨hg, hk, htype, hfields⟩, rfl⟩
    rw [generate, hg, hk]
    refine bind_eq_ok_iff.2 ⟨_, renamingRule_eq_ok_iff.2 ⟨htype, rfl⟩, ?_⟩
    exact bind_pure_eq_ok_iff.2 ⟨_, accessorsOf_eq_ok_iff.2 ⟨hfields, rfl⟩, rfl⟩

end Declaration

/-! ## What does not count -/

/-- Whether an item of a type says something about names. -/
def namesFields (i : Item) : Bool :=
  i.path == "rename_all"

/-- Whether an item of a field says something about its name. -/
def namesField (i : Item) : Bool :=
  i.path == "rename" || saysSkip i

/-- The attributes that say how something is stored, with some of their items. -/
def restrict (p : Item → Bool) (as : List Attribute) : List Attribute :=
  (storageAttributes as).map fun a => { a with items := a.items.filter p }

/-- The field without the attributes and items that say nothing about its name. -/
def FieldDeclaration.essence (f : FieldDeclaration) : FieldDeclaration :=
  { f with attributes := restrict namesField f.attributes }

/-- The declaration without the attributes and items that say nothing about names. -/
def Declaration.essence (d : Declaration) : Declaration :=
  { d with
    attributes := restrict namesFields d.attributes
    fields := d.fields.map FieldDeclaration.essence }

theorem storageItems_restrict (p : Item → Bool) (as : List Attribute) :
    storageItems (restrict p as) = (storageItems as).filter p := by
  have hkeep : storageAttributes (restrict p as) = restrict p as := by
    refine List.filter_eq_self.2 fun a ha => ?_
    obtain ⟨b, hb, rfl⟩ := List.mem_map.1 ha
    exact (List.mem_filter.1 hb).2
  rw [storageItems, hkeep, restrict, List.flatMap_map, storageItems, List.filter_flatMap]

theorem flatMap_names_filter (items : List Item) :
    (items.filter namesField).flatMap Item.names = items.flatMap Item.names := by
  induction items with
  | nil => rfl
  | cons i items ih =>
    rw [List.flatMap_cons, ← ih, List.filter_cons]
    split
    · rw [List.flatMap_cons]
    · next h =>
      have hpath : i.path ≠ "rename" := fun hi => h (by simp [namesField, hi])
      rw [names_eq_nil hpath, List.nil_append]

theorem any_saysSkip_filter (items : List Item) :
    (items.filter namesField).any saysSkip = items.any saysSkip := by
  rw [List.any_filter]
  congr 1
  funext i
  cases h : saysSkip i <;> simp [namesField, h]

theorem filterMap_rule?_filter (items : List Item) :
    (items.filter namesFields).filterMap Item.rule? = items.filterMap Item.rule? := by
  rw [List.filterMap_filter]
  congr 1
  funext i
  by_cases h : i.path = "rename_all" <;> simp [namesFields, Item.rule?, h]

namespace FieldDeclaration

variable (f : FieldDeclaration)

theorem isStored_essence : f.essence.isStored = f.isStored := by
  rw [isStored, essence, storageItems_restrict, any_saysSkip_filter, isStored]

theorem accessor_essence (rule : Option RenamingRule) :
    f.essence.accessor rule = f.accessor rule := by
  have hname : f.essence.storedName rule = f.storedName rule := by
    rw [storedName, essence, storageItems_restrict, flatMap_names_filter]
    rfl
  rw [accessor, hname]
  rfl

theorem Readable.essence {f : FieldDeclaration} (h : f.Readable) : f.essence.Readable := by
  intro i hi
  rw [FieldDeclaration.essence, storageItems_restrict] at hi
  exact h i (List.mem_filter.1 hi).1

end FieldDeclaration

namespace Declaration

variable (d : Declaration)

theorem rule?_essence : d.essence.rule? = d.rule? := by
  rw [rule?, essence, storageItems_restrict, filterMap_rule?_filter, rule?]

theorem accessors_essence (rule : Option RenamingRule) :
    d.essence.storedFields.map (·.accessor rule) = d.storedFields.map (·.accessor rule) := by
  have hstored : d.essence.storedFields = d.storedFields.map FieldDeclaration.essence := by
    rw [storedFields, essence, List.filter_map, storedFields]
    exact congrArg _ (List.filter_congr fun f _ => f.isStored_essence)
  rw [hstored, List.map_map]
  exact List.map_congr_left fun f _ => f.accessor_essence rule

theorem Readable.essence {d : Declaration} (h : d.Readable) : d.essence.Readable where
  plain := h.plain
  record := h.record
  onType i hi := by
    rw [Declaration.essence, storageItems_restrict] at hi
    exact h.onType i (List.mem_filter.1 hi).1
  onFields f hf := by
    obtain ⟨g, hg, rfl⟩ := List.mem_map.1 hf
    exact (h.onFields g hg).essence

end Declaration

/-! ## Main result -/

/-- **Names that attributes give.** Accessors are generated exactly for readable declarations. There
is one for each field that no item leaves out, in the order of the fields. A field is stored under
the last name that its items give, or else under its plain name, which the last rule of the type
changes if there is one, and these names are listed in the same order. Attributes and items that say
nothing about names do not count, whatever they are and wherever they stand, as long as they can be
read. -/
theorem wire_names_resolved (d : Declaration) (m : AccessorModule) :
    (d.generate = .ok m ↔ d.Readable ∧
      m = ⟨Text.snakeCase d.name, d.storedFields.map (·.accessor d.rule?)⟩) ∧
    (d.generate = .ok m → m.fields = d.storedFields.map (·.storedName d.rule?)) ∧
    (d.generate = .ok m ↔ d.Readable ∧ d.essence.generate = .ok m) := by
  refine ⟨Declaration.generate_eq_ok_iff, fun h => ?_, ?_⟩
  · obtain ⟨-, rfl⟩ := Declaration.generate_eq_ok_iff.1 h
    exact List.map_map
  · rw [Declaration.generate_eq_ok_iff, Declaration.generate_eq_ok_iff, d.rule?_essence,
      d.accessors_essence]
    exact and_congr_right fun h => (and_iff_right h.essence).symm

/-- The last of two names counts, the age is stored under its name for writing, the cache is left
out, and the mark of a keyword is no part of a name. -/
theorem wire_names_resolved_of_camel_case :
    let d : Declaration := {
      name := "Person", kind := .record, parameters := none
      attributes := [⟨"serde", [.text "rename_all" "camelCase", .bare "deny_unknown_fields"]⟩]
      fields := [
        ⟨"id", "String", [⟨"serde", [.text "rename" "key"]⟩, ⟨"serde", [.text "rename" "_id"]⟩]⟩,
        ⟨"first_name", "String", [⟨"doc", [.bare "skip"]⟩]⟩,
        ⟨"cache", "u32", [⟨"serde", [.bare "skip"]⟩]⟩,
        ⟨"age", "i32", [⟨"serde", [.bare "default",
          .list "rename" [.text "serialize" "years", .text "deserialize" "age"]]⟩]⟩,
        ⟨"r#type", "String", []⟩] }
    d.Readable ∧ ∃ m, d.generate = .ok m ∧ d.essence.generate = .ok m ∧
      m.fields = ["_id", "firstName", "years", "type"] := by
  intro d
  have hd : d.Readable := ⟨rfl, rfl, by decide, by decide⟩
  obtain ⟨hgenerate, hfields, hessence⟩ := wire_names_resolved d _
  have hm := hgenerate.2 ⟨hd, rfl⟩
  exact ⟨hd, _, hm, (hessence.1 hm).2, (hfields hm).trans (by decide)⟩

end DocumentDb.Accessors
