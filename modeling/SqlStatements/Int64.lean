/-
  SqlStatements.Int64
  ───────────────────
  **The whole numbers that fit in a signed word of 64 bits.**
-/

namespace SqlStatements

/-- The least number of 64 bits. -/
def int64Min : Int := -9223372036854775808

/-- The greatest number of 64 bits. -/
def int64Max : Int := 9223372036854775807

/-- The number fits in 64 bits. -/
def FitsInt64 (n : Int) : Prop := int64Min ≤ n ∧ n ≤ int64Max

instance (n : Int) : Decidable (FitsInt64 n) :=
  inferInstanceAs (Decidable (int64Min ≤ n ∧ n ≤ int64Max))

end SqlStatements
