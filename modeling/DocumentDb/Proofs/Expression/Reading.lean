import DocumentDb.Expression.Evaluate
import DocumentDb.Proofs.Expression.Render
import DocumentDb.Proofs.Value.Path
import DocumentDb.Proofs.Value.Order

/-!
# How rendered expressions are read

A value that an expression is rendered as is read back (`Expression.read`): a string that begins
with a dollar sign as a path, a document whose only key begins with one as an operator, arrays and
other documents item by item and entry by entry, and anything else as a constant.

**Inert values** (`Value.inert`) hold nothing that would be read as a path or an operator, at any
depth, and their keys are all different.

**Plain expressions** (`Expression.plain`) are read back as what they are. Their constants are
inert, or strings, which are marked where they must be. Their operators begin with a dollar sign
and are not applied to constant arrays, which would be read as several arguments. Any constant but
a string that begins with a dollar sign may be marked by hand.

**Theorem (`evaluate_read_mutual`).** A plain expression and what its rendered form is read as have
the same value on all documents.
-/

namespace DocumentDb

/-! ## Reading -/

namespace Expression

/-- What a string is read as. -/
def readString (s : String) : Expression :=
  match s.toList with
  | '$' :: cs => path (String.ofList cs)
  | _ => literal (.string s)

/-- What a document is read as, given what its values are read as. -/
def readDocument : Document → List (String × Expression) → Expression
  | [(k, v)], [(_, e)] =>
    if k = "$literal" then literal v
    else if startsWithDollar k then operator k e
    else object [(k, e)]
  | _, entries => object entries

end Expression

mutual

/-- The expression that a rendered value is read as. -/
def Expression.read : Value → Expression
  | .string s => Expression.readString s
  | .array items => .array (readItems items)
  | .document entries => Expression.readDocument entries (readEntries entries)
  | v => .literal v

/-- The expressions that some items are read as. -/
def readItems : List Value → List Expression
  | [] => []
  | v :: vs => Expression.read v :: readItems vs

/-- The expressions that the values of some entries are read as. -/
def readEntries : List (String × Value) → List (String × Expression)
  | [] => []
  | (k, v) :: es => (k, Expression.read v) :: readEntries es

end

/-! ## Plain expressions -/

/-- Whether entries read as an operator. -/
def namesOperator {α : Type} : Assoc α → Bool
  | [(k, _)] => startsWithDollar k
  | _ => false

/-- Whether the keys of a document are all different and it does not read as an operator. -/
def plainKeys {α : Type} (entries : Assoc α) : Bool :=
  decide entries.keys.Nodup && !namesOperator entries

mutual

/-- Whether a value is read as the constant that it is. -/
def Value.inert : Value → Bool
  | .string s => !startsWithDollar s
  | .array items => inertItems items
  | .document entries => plainKeys entries && inertEntries entries
  | _ => true

/-- Whether all items are inert. -/
def inertItems : List Value → Bool
  | [] => true
  | v :: vs => v.inert && inertItems vs

/-- Whether the values of all entries are inert. -/
def inertEntries : List (String × Value) → Bool
  | [] => true
  | (_, v) :: es => v.inert && inertEntries es

end

namespace Expression

/-- Whether an expression is a constant that is rendered without a mark. -/
def unmarked : Expression → Bool
  | literal (.string s) => !startsWithDollar s
  | literal _ => true
  | _ => false

/-- Whether an expression is a constant array. -/
def constantArray : Expression → Bool
  | literal (.array _) => true
  | _ => false

end Expression

mutual

/-- Whether an expression is read back as what it is. -/
def Expression.plain : Expression → Bool
  | .literal (.string _) => true
  | .literal v => v.inert
  | .path _ => true
  | .operator name argument =>
    if name = "$literal" then argument.unmarked
    else startsWithDollar name && !argument.constantArray && argument.plain
  | .object entries => plainKeys entries && plainExpressionEntries entries
  | .array items => plainExpressions items
  | .invalid _ => true

/-- Whether all of some expressions are plain. -/
def plainExpressions : List Expression → Bool
  | [] => true
  | e :: es => e.plain && plainExpressions es

/-- Whether the expressions of all entries are plain. -/
def plainExpressionEntries : List (String × Expression) → Bool
  | [] => true
  | (_, e) :: es => e.plain && plainExpressionEntries es

end

namespace Expression

variable {d : Document} {e : Expression} {v : Value}

/-! ## Evaluating what is read -/

theorem readDocument_eq_object {entries : Document} (h : namesOperator entries = false) :
    readDocument entries (readEntries entries) = object (readEntries entries) := by
  match entries, h with
  | [], _ => rfl
  | [(k, v)], h =>
    have hl : k ≠ "$literal" := by
      rintro rfl
      cases h
    simp only [namesOperator] at h
    simp [readEntries, readDocument, hl, h]
  | _ :: _ :: _, _ => rfl

/-- The values of the arguments that an expression gives to an operator. -/
def arguments (d : Document) : Expression → Except Error (List Value)
  | array items => evaluateItems d items
  | e => do return [← e.evaluateOrNull d]

theorem arguments_of_ne_array (h : ∀ items, e ≠ array items) :
    e.arguments d = (do return [← e.evaluateOrNull d]) := by
  cases e <;> first | rfl | exact absurd rfl (h _)

theorem evaluate_operator {name : String} (h : name ≠ "$literal") :
    (operator name e).evaluate d = e.arguments d >>= Operator.apply name := by
  rw [evaluate, if_neg h]
  split
  · rfl
  · next h' =>
    rw [arguments_of_ne_array h', evaluateOrNull]
    cases e.evaluate d <;> rfl

theorem readString_of_not_startsWithDollar {s : String} (h : startsWithDollar s = false) :
    readString s = literal (.string s) := by
  rw [readString]
  split
  · next cs hs => simp [startsWithDollar, hs] at h
  · rfl

theorem readString_dollar (name : String) : readString ("$" ++ name) = path name := by
  simp [readString, String.toList_append]

theorem startsWithDollar_dollar (name : String) : startsWithDollar ("$" ++ name) = true := by
  simp [startsWithDollar, String.toList_append]

theorem exists_eq_dollar {s : String} (h : startsWithDollar s = true) :
    ∃ name, s = "$" ++ name := by
  rw [startsWithDollar] at h
  split at h
  · next c cs hc =>
    refine ⟨String.ofList cs, String.toList_inj.1 ?_⟩
    rw [hc, eq_of_beq h]
    simp [String.toList_append]
  · cases h

theorem evaluate_read_of_inert_mutual (d : Document) :
    (∀ v : Value, v.inert = true → (read v).evaluate d = .ok (some v)) ∧
      (∀ es, inertEntries es = true → ∀ into : Document, (into.keys ++ Assoc.keys es).Nodup →
        evaluateEntries d into (readEntries es) = .ok (into ++ es)) ∧
        ∀ vs, inertItems vs = true → evaluateItems d (readItems vs) = .ok vs := by
  apply Value.inert.mutual_induct
  case case1 =>
    intro s h
    rw [Value.inert, Bool.not_eq_true'] at h
    rw [read, readString_of_not_startsWithDollar h]
    rfl
  case case2 =>
    intro items ih h
    rw [read, evaluate, ih h]
    rfl
  case case3 =>
    intro es ih h
    rw [Value.inert, plainKeys, Bool.and_eq_true, Bool.and_eq_true, decide_eq_true_eq,
      Bool.not_eq_true'] at h
    rw [read, readDocument_eq_object h.1.2, evaluate, ih h.2 [] h.1.1]
    rfl
  case case4 =>
    intro v hs ha hd _
    rw [read] <;> first | rfl | assumption
  case case5 => exact fun _ => rfl
  case case6 =>
    intro v vs ihv ihvs h
    rw [inertItems, Bool.and_eq_true] at h
    rw [readItems, evaluateItems, ihv h.1, ihvs h.2]
    rfl
  case case7 =>
    intro _ into _
    rw [readEntries, evaluateEntries, List.append_nil]
  case case8 =>
    intro k v es ihv ihes h into hk
    rw [inertEntries, Bool.and_eq_true] at h
    rw [readEntries, evaluateEntries, ihv h.1]
    show evaluateEntries d (into.insert k v) (readEntries es) = _
    rw [Assoc.insert_of_not_mem (Assoc.not_mem_keys_of_nodup hk),
      ihes h.2 _ (by simpa [Assoc.keys] using hk)]
    simp

/-- An inert value is read as a constant. -/
theorem evaluate_read_of_inert (h : v.inert = true) (d : Document) :
    (read v).evaluate d = .ok (some v) :=
  (evaluate_read_of_inert_mutual d).1 v h

/-! ## Reading back plain expressions -/

theorem read_ne_array (h : ∀ vs, v ≠ .array vs) (es : List Expression) : read v ≠ array es := by
  cases v with
  | array vs => exact absurd rfl (h vs)
  | string s =>
    rw [read, readString]
    split <;> simp
  | document entries =>
    rw [read, readDocument.eq_def]
    split
    · split
      · simp
      · split <;> simp
    · simp
  | _ => simp [read]

/-- Only arrays and constant arrays are rendered as arrays. -/
theorem ne_array_of_render (ha : ∀ es, e ≠ array es) (hc : e.constantArray = false)
    (h : e.render = .ok v) (vs : List Value) : v ≠ .array vs := by
  cases e with
  | array es => exact absurd rfl (ha es)
  | literal w =>
    rw [render_literal_eq_ok_iff.1 h]
    cases w with
    | array ws => cases hc
    | string s =>
      rw [renderLiteral]
      split <;> simp [markLiteral]
    | _ => simp [renderLiteral]
  | path name => simp [render_path_eq_ok_iff.1 h]
  | operator name argument =>
    obtain ⟨w, -, rfl⟩ := render_operator_eq_ok_iff.1 h
    simp
  | object entries =>
    obtain ⟨r, -, rfl⟩ := render_object_eq_ok_iff.1 h
    simp
  | invalid reason => cases h

theorem evaluateItems_eq_of_array {es fs : List Expression}
    (h : (array es).evaluate d = (array fs).evaluate d) :
    evaluateItems d es = evaluateItems d fs := by
  rw [evaluate, evaluate] at h
  cases hes : evaluateItems d es <;> cases hfs : evaluateItems d fs <;>
    simp_all [bind, Except.bind, pure, Except.pure]

theorem namesOperator_of_entryRenders {entries : Assoc Expression} {r : Document}
    (h : List.Forall₂ EntryRenders entries r) : namesOperator r = namesOperator entries := by
  cases h with
  | nil => rfl
  | cons he h =>
    cases h with
    | nil => exact congrArg startsWithDollar he.1
    | cons => rfl

/-- Arguments are read back as what they are if the whole argument is. -/
theorem arguments_read (hc : e.constantArray = false) (h : e.render = .ok v)
    (he : (read v).evaluate d = e.evaluate d) : (read v).arguments d = e.arguments d := by
  by_cases ha : ∃ es, e = array es
  · obtain ⟨es, rfl⟩ := ha
    obtain ⟨vs, -, rfl⟩ := render_array_eq_ok_iff.1 h
    exact evaluateItems_eq_of_array he
  · have ha' : ∀ es, e ≠ array es := fun es h => ha ⟨es, h⟩
    rw [arguments_of_ne_array ha', evaluateOrNull, ← he,
      arguments_of_ne_array (read_ne_array (ne_array_of_render ha' hc h)), evaluateOrNull]

theorem evaluate_read_of_unmarked (h : e.unmarked = true) {q : Value}
    (hr : (operator "$literal" e).render = .ok q) :
    (read q).evaluate d = (operator "$literal" e).evaluate d := by
  obtain ⟨w, hw, rfl⟩ := render_operator_eq_ok_iff.1 hr
  cases e with
  | literal v =>
    have hv : w = v := by
      rw [render_literal_eq_ok_iff.1 hw]
      cases v with
      | string s => simp_all [unmarked, renderLiteral]
      | _ => rfl
    subst hv
    rfl
  | _ => cases h

theorem evaluate_read_mutual (d : Document) :
    (∀ e : Expression, e.plain = true → ∀ q, e.render = .ok q →
        (read q).evaluate d = e.evaluate d) ∧
      (∀ es, plainExpressions es = true → ∀ vs, renderExpressions es = .ok vs →
        evaluateItems d (readItems vs) = evaluateItems d es) ∧
        ∀ es, plainExpressionEntries es = true → ∀ fs, List.Forall₂ EntryRenders es fs →
          ∀ into, evaluateEntries d into (readEntries fs) = evaluateEntries d into es := by
  apply plain.mutual_induct
  case case1 =>
    intro s _ q h
    rw [render_literal_eq_ok_iff.1 h, renderLiteral]
    split
    · rfl
    · next hs => rw [read, readString_of_not_startsWithDollar (by simpa using hs)]
  case case2 =>
    intro v hs h q hr
    rw [plain] at h
    · rw [render_literal_eq_ok_iff.1 hr, renderLiteral, evaluate_read_of_inert h, evaluate]
      exact hs
    · exact hs
  case case3 =>
    intro name _ q h
    rw [render_path_eq_ok_iff.1 h, read, readString_dollar]
  case case4 =>
    intro argument h q hr
    rw [plain, if_pos rfl] at h
    exact evaluate_read_of_unmarked h hr
  case case5 =>
    intro name argument hn ih h q hr
    simp only [plain, if_neg hn, Bool.and_eq_true, Bool.not_eq_true'] at h
    obtain ⟨w, hw, rfl⟩ := render_operator_eq_ok_iff.1 hr
    have hq : read (.document (Document.single name w)) = operator name (read w) := by
      show readDocument [(name, w)] [(name, read w)] = _
      rw [readDocument, if_neg hn, if_pos h.1.1]
    rw [hq, evaluate_operator hn, evaluate_operator hn, arguments_read h.1.2 hw (ih h.2 w hw)]
  case case6 =>
    intro entries ih h q hr
    simp only [plain, plainKeys, Bool.and_eq_true, decide_eq_true_eq, Bool.not_eq_true'] at h
    obtain ⟨r, hr', rfl⟩ := render_object_eq_ok_iff.1 hr
    obtain ⟨_, rfl, hfs⟩ := forall₂_of_renderExpressionEntries (d := []) h.1.1 hr'
    have hn := (namesOperator_of_entryRenders hfs).trans h.1.2
    rw [read, readDocument_eq_object hn, evaluate, evaluate, ih h.2 r hfs]
  case case7 =>
    intro items ih h q hr
    obtain ⟨vs, hvs, rfl⟩ := render_array_eq_ok_iff.1 hr
    rw [read, evaluate, evaluate, ih h vs hvs]
  case case8 =>
    intro reason _ q h
    cases h
  case case9 =>
    intro _ fs hfs into
    cases hfs
    rfl
  case case10 =>
    intro k e es ihe ihes h fs hfs into
    rw [plainExpressionEntries, Bool.and_eq_true] at h
    obtain ⟨⟨l, w⟩, gs, ⟨rfl, hw⟩, hgs, rfl⟩ := List.forall₂_cons_left_iff.1 hfs
    rw [readEntries, evaluateEntries, evaluateEntries, ihe h.1 w hw]
    simp only [ihes h.2 gs hgs]
  case case11 =>
    intro _ vs h
    cases h
    rfl
  case case12 =>
    intro e es ihe ihes h vs hvs
    rw [plainExpressions, Bool.and_eq_true] at h
    obtain ⟨w, ws, hw, hws, rfl⟩ := renderExpressions_cons_eq_ok_iff.1 hvs
    rw [readItems, evaluateItems, evaluateItems, ihe h.1 w hw, ihes h.2 ws hws]

end Expression

end DocumentDb
