import DatabaseOperator.Decimal.Style

/-!
# Numbers in metrics

- `Metrics.style`: how numbers are written.
- `Metrics.number`: a float as metrics show it.
-/

namespace DatabaseOperator.Metrics

/-- Numbers are written without an exponent from `10 ^ -6` up to `10 ^ 21`. -/
def style : Decimal.Style := { whole := 21, zeros := 6 }

/-- A float as metrics show it. -/
def number (x : Float) : String :=
  style.text x

end DatabaseOperator.Metrics
