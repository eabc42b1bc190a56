import DocumentDb.Expression.Operator
import DocumentDb.Proofs.Pipeline.Accumulator
import Mathlib.Algebra.Order.Ring.Int
import Mathlib.Data.List.Forall2
import Mathlib.Data.List.Infix

/-!
# Exact arithmetic on integers

Sums and products are taken from the left, one number after the other, and the kind of each partial
result depends on those before it: it only ever goes from short integers to long ones and from those
to doubles.

**Partial results.** Those of some integers are the totals of their initial segments. They say
everything about the kind of the result (`Calculated`): it is short while all operands and all
partial results are, it is an integer while all partial results are within 64 bits, and then it is
the exact total.

**Theorem (`integers_calculated_exactly`).** That holds of the sum that an accumulator gathers, and
of what the operators for addition and multiplication give.
-/

namespace DocumentDb

/-! ## Widths -/

/-- Whether an integer can be written in two's complement with so many bits. -/
def Fits (bits : Nat) (n : Int) : Prop :=
  -2 ^ (bits - 1) ≤ n ∧ n < 2 ^ (bits - 1)

instance (bits : Nat) (n : Int) : Decidable (Fits bits n) :=
  inferInstanceAs (Decidable (_ ∧ _))

variable {m n : Int}

theorem fits_32_iff : Fits 32 n ↔ -2147483648 ≤ n ∧ n < 2147483648 := Iff.rfl

theorem fits_64_iff : Fits 64 n ↔ -9223372036854775808 ≤ n ∧ n < 9223372036854775808 := Iff.rfl

theorem Fits.widen (h : Fits 32 n) : Fits 64 n := by
  rw [fits_32_iff] at h
  rw [fits_64_iff]
  omega

theorem fits_toInt (n : Int32) : Fits 32 n.toInt :=
  ⟨n.le_toInt, n.toInt_lt⟩

theorem fits_add (hm : Fits 32 m) (hn : Fits 32 n) : Fits 64 (m + n) := by
  rw [fits_32_iff] at hm hn
  rw [fits_64_iff]
  omega

theorem fits_mul (hm : Fits 32 m) (hn : Fits 32 n) : Fits 64 (m * n) := by
  rw [fits_32_iff] at hm hn
  rw [fits_64_iff]
  have h : (m * n).natAbs ≤ 2147483648 * 2147483648 := by
    rw [Int.natAbs_mul]
    exact Nat.mul_le_mul (by omega) (by omega)
  omega

namespace Value

theorem fitsInt32_iff : fitsInt32 n = true ↔ Fits 32 n := by
  rw [fitsInt32, decide_eq_true_iff, fits_32_iff]
  exact and_congr_right fun _ => Int.lt_add_one_iff.symm

theorem fitsInt64_iff : fitsInt64 n = true ↔ Fits 64 n := by
  rw [fitsInt64, decide_eq_true_iff, fits_64_iff]
  exact and_congr_right fun _ => Int.lt_add_one_iff.symm

/-! ## Two integers -/

section

variable {exact : Int → Int → Int} {rounded : Binary64 → Binary64 → Binary64} {v w : Value}

theorem combine_int32 (k l : Int32) :
    combine exact rounded (int32 k) (int32 l) =
      if Fits 32 (exact k.toInt l.toInt) then int32 (Int32.ofInt (exact k.toInt l.toInt))
      else int64 (Int64.ofInt (exact k.toInt l.toInt)) := by
  simp only [combine, fitsInt32_iff]

theorem combine_of_integer? (hw : w.integer? = some m) (hv : v.integer? = some n)
    (hs : ∀ k l, w = int32 k → v = int32 l → False) :
    combine exact rounded w v =
      if Fits 64 (exact m n) then int64 (Int64.ofInt (exact m n))
      else double (rounded (Binary64.ofInt m) (Binary64.ofInt n)) := by
  rw [combine, hw, hv]
  · simp only [fitsInt64_iff]
  · exact hs

/-- What two integers are combined to is exact within 64 bits, short if both are and it is within 32
bits, and a double beyond 64 bits. -/
theorem combine_integers (rounded : Binary64 → Binary64 → Binary64) (hw : w.integer? = some m)
    (hv : v.integer? = some n) (hexact : ∀ m n, Fits 32 m → Fits 32 n → Fits 64 (exact m n)) :
    (Fits 64 (exact m n) → (combine exact rounded w v).integer? = some (exact m n)) ∧
      ((∃ k, combine exact rounded w v = int32 k) ↔
        (∃ k, w = int32 k) ∧ (∃ k, v = int32 k) ∧ Fits 32 (exact m n)) ∧
      ((∃ x, combine exact rounded w v = double x) ↔ ¬ Fits 64 (exact m n)) := by
  by_cases hs : ∃ k l, w = int32 k ∧ v = int32 l
  · obtain ⟨k, l, rfl, rfl⟩ := hs
    cases hw
    cases hv
    have h64 := hexact _ _ (fits_toInt k) (fits_toInt l)
    rw [combine_int32]
    generalize exact k.toInt l.toInt = r at h64 ⊢
    split
    · next h32 =>
      have hi : (int32 (Int32.ofInt r)).integer? = some r :=
        congrArg some (Int32.toInt_ofInt_of_le h32.1 h32.2)
      simp [hi, h64, h32]
    · next h32 =>
      have hi : (int64 (Int64.ofInt r)).integer? = some r :=
        congrArg some (Int64.toInt_ofInt_of_le h64.1 h64.2)
      simp [hi, h64, h32]
  · rw [combine_of_integer? hw hv fun k l hk hl => hs ⟨k, l, hk, hl⟩]
    have hns : ¬ ((∃ k, w = int32 k) ∧ (∃ k, v = int32 k) ∧ Fits 32 (exact m n)) :=
      fun ⟨⟨k, hk⟩, ⟨l, hl⟩, _⟩ => hs ⟨k, l, hk, hl⟩
    split
    · next h64 =>
      have hi : (int64 (Int64.ofInt (exact m n))).integer? = some (exact m n) :=
        congrArg some (Int64.toInt_ofInt_of_le h64.1 h64.2)
      simp [hi, h64, hns]
    · next h64 => simp [h64, hns]

theorem combine_double (exact : Int → Int → Int) (rounded : Binary64 → Binary64 → Binary64)
    (x : Binary64) (hv : v.integer? = some n) :
    ∃ y, combine exact rounded (double x) v = double y := by
  cases v <;> cases hv <;> exact ⟨_, rfl⟩

end

theorem isNumber_of_integer? {v : Value} (h : v.integer? = some n) : v.isNumber = true := by
  cases v <;> cases h <;> rfl

end Value

/-! ## The run -/

/-- A number is what some integers come to: it is the exact total if all partial results are within
64 bits, it is short exactly if all operands are and all partial results are within 32 bits, and it
is a double exactly if some partial result is beyond 64 bits. -/
structure Calculated (total : List Int → Int) (vs : List Value) (ns : List Int) (w : Value) :
    Prop where
  integer : (∀ ms ∈ ns.inits, Fits 64 (total ms)) → w.integer? = some (total ns)
  short_iff : (∃ k, w = .int32 k) ↔
    (∀ v ∈ vs, ∃ k, v = .int32 k) ∧ ∀ ms ∈ ns.inits, Fits 32 (total ms)
  double_iff : (∃ x, w = .double x) ↔ ¬ ∀ ms ∈ ns.inits, Fits 64 (total ms)

theorem forall_mem_inits_concat {p : List Int → Prop} {ns : List Int} :
    (∀ ms ∈ (ns ++ [n]).inits, p ms) ↔ (∀ ms ∈ ns.inits, p ms) ∧ p (ns ++ [n]) := by
  simp [List.inits_append, or_imp, forall_and]

section

variable {exact : Int → Int → Int} {rounded : Binary64 → Binary64 → Binary64}
  {total : List Int → Int} {vs ws : List Value} {ns ms : List Int} {v w : Value}

theorem Calculated.nil {k : Int32} (h : total [] = k.toInt) :
    Calculated total [] [] (.int32 k) := by
  have h32 : Fits 32 (total []) := h ▸ fits_toInt k
  constructor
  · exact fun _ => congrArg some h.symm
  · simp [h32]
  · simp [h32.widen]

/-- The number after one more operand. -/
theorem Calculated.step (h : Calculated total vs ns w) (hv : v.integer? = some n)
    (htotal : total (ns ++ [n]) = exact (total ns) n)
    (hexact : ∀ m n, Fits 32 m → Fits 32 n → Fits 64 (exact m n)) :
    Calculated total (vs ++ [v]) (ns ++ [n]) (w.combine exact rounded v) := by
  by_cases hfit : ∀ ms ∈ ns.inits, Fits 64 (total ms)
  · obtain ⟨hinteger, hshort, hdouble⟩ :=
      Value.combine_integers rounded (h.integer hfit) hv hexact
    rw [← htotal] at hinteger hshort hdouble
    constructor
    · exact fun hall => hinteger (forall_mem_inits_concat.1 hall).2
    · rw [hshort, h.short_iff, forall_mem_inits_concat, List.forall_mem_append,
        List.forall_mem_singleton]
      exact and_and_and_comm
    · rw [hdouble, forall_mem_inits_concat, and_iff_right hfit]
  · -- A partial result has been beyond 64 bits, and a double stays one.
    have hfit' : ¬ ∀ ms ∈ (ns ++ [n]).inits, Fits 64 (total ms) :=
      fun hall => hfit (forall_mem_inits_concat.1 hall).1
    obtain ⟨x, rfl⟩ := h.double_iff.2 hfit
    obtain ⟨y, hy⟩ := Value.combine_double exact rounded x hv
    rw [hy]
    refine ⟨fun hall => (hfit' hall).elim, ⟨?_, fun hall => ?_⟩, fun _ => hfit', fun _ => ⟨y, rfl⟩⟩
    · rintro ⟨k, hk⟩
      cases hk
    · exact (hfit' fun ms hms => (hall.2 ms hms).widen).elim

theorem calculated_foldl (h : Calculated total vs ns w)
    (htotal : ∀ ns n, total (ns ++ [n]) = exact (total ns) n)
    (hexact : ∀ m n, Fits 32 m → Fits 32 n → Fits 64 (exact m n))
    (hws : List.Forall₂ (fun v n => v.integer? = some n) ws ms) :
    Calculated total (vs ++ ws) (ns ++ ms) (ws.foldl (Value.combine exact rounded) w) := by
  induction hws generalizing vs ns w with
  | nil => simpa using h
  | cons hv _ ih => simpa using ih (h.step hv (htotal ns _) hexact)

end

variable {vs : List Value} {ns : List Int}

theorem calculated_sum (h : List.Forall₂ (fun v n => v.integer? = some n) vs ns) :
    Calculated List.sum vs ns (Value.sum vs) :=
  calculated_foldl (.nil rfl) (fun ns n => by simp) (fun _ _ => fits_add) h

theorem calculated_product (h : List.Forall₂ (fun v n => v.integer? = some n) vs ns) :
    Calculated List.prod vs ns (Value.product vs) :=
  calculated_foldl (.nil rfl) (fun ns n => by simp) (fun _ _ => fits_mul) h

/-! ## Accumulator and operators -/

theorem Accumulator.gather_sum (h : ∀ v ∈ vs, v.isNumber = true) :
    gather "$sum" (vs.map some) = .ok (Value.sum vs) := by
  have hs : start "$sum" = .ok (sum (.int32 0)) := by simp [start]
  have hfold (t : Value) : (vs.map some).foldl step (sum t) = sum (vs.foldl Value.add t) := by
    induction vs generalizing t with
    | nil => rfl
    | cons v vs ih =>
      rw [List.forall_mem_cons] at h
      rw [List.map_cons, List.foldl_cons, step, if_pos h.1]
      exact ih h.2 _
  rw [gather_eq hs, hfold, finish, Value.sum]

theorem Operator.calculate_eq_ok (h : ∀ v ∈ vs, v.isNumber = true) (name : String)
    (fold : List Value → Value) : calculate name fold vs = .ok (fold vs) := by
  have hnull : ¬ vs.any Value.isNull = true := by
    rw [List.any_eq_true]
    rintro ⟨v, hv, hn⟩
    have := h v hv
    cases v <;> simp_all [Value.isNull, Value.isNumber, Value.asDouble?]
  have hfind : vs.find? (! Value.isNumber ·) = none := by
    rw [List.find?_eq_none]
    exact fun v hv => by simp [h v hv]
  rw [calculate, if_neg hnull, hfind]

/-! ## Main result -/

/-- **Arithmetic on integers is exact and never wraps.** Of integers of both widths, the sum that an
accumulator gathers is what the operator for addition gives, and both it and the product are exact
as far as 64 bits go. -/
theorem integers_calculated_exactly (h : List.Forall₂ (fun v n => v.integer? = some n) vs ns) :
    ∃ s p : Value, Accumulator.gather "$sum" (vs.map some) = .ok s ∧
      Operator.apply "$add" vs = .ok (some s) ∧ Operator.apply "$multiply" vs = .ok (some p) ∧
      Calculated List.sum vs ns s ∧ Calculated List.prod vs ns p := by
  have hnum : ∀ v ∈ vs, v.isNumber = true :=
    ((List.forall₂_and_left vs ns).1 (h.imp fun _ _ hv => ⟨Value.isNumber_of_integer? hv, hv⟩)).1
  refine ⟨_, _, Accumulator.gather_sum hnum, ?_, ?_, calculated_sum h, calculated_product h⟩
  · simp [Operator.apply, Operator.calculate_eq_ok hnum]
  · simp [Operator.apply, Operator.calculate_eq_ok hnum]

/-- The sum comes back to a short integer but has been beyond 32 bits, and the product has been
beyond 64 bits. -/
theorem integers_calculated_exactly_of_greatest :
    let m : Int32 := 2147483647
    let vs : List Value := [.int32 m, .int32 m, .int32 m, .int32 (-m), .int32 (-m)]
    List.Forall₂ (fun v n => v.integer? = some n) vs
        [2147483647, 2147483647, 2147483647, -2147483647, -2147483647] ∧
      ∃ s x, Accumulator.gather "$sum" (vs.map some) = .ok s ∧
        s.integer? = some 2147483647 ∧ (¬ ∃ k, s = .int32 k) ∧
        Operator.apply "$multiply" vs = .ok (some (.double x)) := by
  intro m vs
  have h : List.Forall₂ (fun v n => v.integer? = some n) vs
      [2147483647, 2147483647, 2147483647, -2147483647, -2147483647] := by
    simp only [vs, List.forall₂_cons, List.Forall₂.nil, and_true]
    decide
  obtain ⟨s, p, hs, -, hp, hsum, hproduct⟩ := integers_calculated_exactly h
  obtain ⟨x, rfl⟩ := hproduct.double_iff.2 (by decide)
  have hlong : ¬ ∃ k, s = .int32 k := fun hk => absurd (hsum.short_iff.1 hk).2 (by decide)
  exact ⟨h, s, x, hs, hsum.integer (by decide), hlong, hp⟩

end DocumentDb
