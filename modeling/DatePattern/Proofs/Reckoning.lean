import DatePattern.Count

/-!
Reckonings: sums and products that are written out, to be worked out exactly or with every step checked.

The main statement is `checked?_eq`: the checked result is the exact one, as long as every step fits.
-/

namespace DatePattern

/-- A step of a reckoning. -/
inductive Operation where
  /-- A sum. -/
  | sum
  /-- A difference. -/
  | difference
  /-- A product. -/
  | product
deriving DecidableEq, Repr

/-- The result of a step. -/
def Operation.apply : Operation → Int → Int → Int
  | .sum, n, m => n + m
  | .difference, n, m => n - m
  | .product, n, m => n * m

/-- A reckoning, from numbers that are given to the result of the last step. -/
inductive Reckoning where
  /-- A number that is given. -/
  | given (n : Int)
  /-- A step with two results. -/
  | step (operation : Operation) (first second : Reckoning)
deriving DecidableEq, Repr

namespace Reckoning

instance : Coe Int Reckoning := ⟨given⟩

instance (n : Nat) : OfNat Reckoning n := ⟨given n⟩

instance : Add Reckoning := ⟨step .sum⟩

instance : Sub Reckoning := ⟨step .difference⟩

instance : Mul Reckoning := ⟨step .product⟩

/-- The result in whole numbers of any size. -/
def exact : Reckoning → Int
  | given n => n
  | step operation first second => operation.apply first.exact second.exact

/-- The result, if no step leaves the range. -/
def checked? : Reckoning → Option Int
  | given n => some n
  | step operation first second => do
    let n ← first.checked?
    let m ← second.checked?
    Count.within? (operation.apply n m)

/-- The result of every step stays in the range. -/
def Fits : Reckoning → Prop
  | given _ => True
  | step operation first second =>
    first.Fits ∧ second.Fits ∧ Count.Fits (operation.apply first.exact second.exact)

instance decidableFits : (reckoning : Reckoning) → Decidable reckoning.Fits
  | given _ => inferInstanceAs (Decidable True)
  | step _ first second =>
    have := decidableFits first
    have := decidableFits second
    inferInstanceAs (Decidable (_ ∧ _ ∧ _))

/-- With every step checked the result is the exact one, or there is none because some step does not fit. -/
theorem checked?_eq (reckoning : Reckoning) :
    reckoning.checked? = if reckoning.Fits then some reckoning.exact else none := by
  -- A step has no result where one of its two numbers has none.
  induction reckoning with
  | given n => rfl
  | step operation first second firstIs secondIs =>
    simp only [checked?, firstIs, secondIs, Fits, exact, Count.within?]
    -- Where both have results, the step itself fits or does not.
    by_cases firstFits : first.Fits <;> by_cases secondFits : second.Fits <;>
      simp [firstFits, secondFits]

section

variable (first second : Reckoning)

-- What the evaluations make of the operations, so that rules can be rewritten as they are written out.

@[simp] theorem exact_given (n : Int) : (given n).exact = n := by rw [exact]

@[simp] theorem exact_add : (first + second).exact = first.exact + second.exact := by rfl

@[simp] theorem exact_sub : (first - second).exact = first.exact - second.exact := by rfl

@[simp] theorem checked?_given (n : Int) : (given n).checked? = some n := by rw [checked?]

@[simp] theorem checked?_ofNat (n : Nat) :
    (no_index (OfNat.ofNat n) : Reckoning).checked? = some (n : Int) := by rfl

@[simp] theorem checked?_add : (first + second).checked? =
    first.checked?.bind fun n => second.checked?.bind fun m => Count.within? (n + m) := by rfl

@[simp] theorem checked?_sub : (first - second).checked? =
    first.checked?.bind fun n => second.checked?.bind fun m => Count.within? (n - m) := by rfl

@[simp] theorem checked?_mul : (first * second).checked? =
    first.checked?.bind fun n => second.checked?.bind fun m => Count.within? (n * m) := by rfl

@[simp] theorem fits_given (n : Int) : (given n).Fits := trivial

@[simp] theorem fits_add : (first + second).Fits ↔
    first.Fits ∧ second.Fits ∧ Count.Fits (first.exact + second.exact) := .rfl

@[simp] theorem fits_sub : (first - second).Fits ↔
    first.Fits ∧ second.Fits ∧ Count.Fits (first.exact - second.exact) := .rfl

end

end Reckoning

end DatePattern
