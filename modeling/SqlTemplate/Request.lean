import SqlTemplate.Filter
import SqlTemplate.Time.Range

/-!
# Requests

What the macros of a template are expanded with.
-/

namespace SqlTemplate

/-- The time range, the filters, the unit to which times are rounded, and the width of an
interval. -/
structure Request where
  range : Time.Range
  filters : List Filter
  round : Time.Duration
  interval : Time.Duration

end SqlTemplate
