import QueryReport.Saved.Form

/-!
# Equality of saved reports

Saved reports compared value by value, where numbers are compared as numbers: a NaN differs from
itself.
-/

namespace QueryReport.Saved

open QueryReport.Filter

/-- Whether two values are equal as numbers are compared: a NaN differs from itself. -/
def sameValue : Value → Value → Bool
  | .float x, .float y => Decimal.Binary64.compare? x y == some .eq
  | a, b => a == b

/-- Whether two list sources hold the same values. -/
def sameSource : ListSource → ListSource → Bool
  | .values vs, .values ws => vs.length == ws.length && (vs.zip ws).all fun (v, w) => sameValue v w
  | .mapping ps, .mapping qs =>
    ps.length == qs.length && (ps.zip qs).all fun (p, q) => p.1 == q.1 && sameValue p.2 q.2
  | a, b => a == b

/-- Whether two definitions hold the same values. -/
def sameDefinition (a b : Definition) : Bool :=
  { a with defaultValue := .null, source := none, options := [] }
      == { b with defaultValue := .null, source := none, options := [] }
    && sameValue a.defaultValue b.defaultValue
    && (match a.source, b.source with
        | some s, some t => sameSource s t
        | none, none => true
        | _, _ => false)
    && a.options.length == b.options.length
    && (a.options.zip b.options).all fun (o, p) =>
        o.label == p.label && sameValue o.value p.value

/-- Whether two saved reports hold the same values. -/
def same (a b : Report) : Bool :=
  { a with definitions := [] } == { b with definitions := [] }
    && a.definitions.length == b.definitions.length
    && (a.definitions.zip b.definitions).all fun (d, e) => sameDefinition d e

end QueryReport.Saved
