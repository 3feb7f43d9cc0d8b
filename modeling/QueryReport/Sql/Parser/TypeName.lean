import QueryReport.Sql.Parser.Basic
import QueryReport.Sql.Render

/-!
# Reading type names

A type name is a known one with what it takes in parentheses, or any dotted name with modifiers;
brackets after it make it an array.
-/

namespace QueryReport.Sql.Parser

/-! ## Known types -/

/-- Types without a size, with the spelling they are written in. -/
def plainTypes : List (String × String) :=
  [("BOOLEAN", "BOOLEAN"), ("BOOL", "BOOL"), ("REAL", "REAL"), ("FLOAT4", "FLOAT4"),
    ("FLOAT8", "FLOAT8"), ("FLOAT32", "Float32"), ("FLOAT64", "FLOAT64"), ("INT16", "Int16"),
    ("INT32", "Int32"), ("INT64", "INT64"), ("INT128", "Int128"), ("INT256", "Int256"),
    ("UINT8", "UInt8"), ("UINT16", "UInt16"), ("UINT32", "UInt32"), ("UINT64", "UInt64"),
    ("UINT128", "UInt128"), ("UINT256", "UInt256"), ("TINYBLOB", "TINYBLOB"),
    ("MEDIUMBLOB", "MEDIUMBLOB"), ("LONGBLOB", "LONGBLOB"), ("UUID", "UUID"), ("DATE", "DATE"),
    ("DATE32", "Date32"), ("INTERVAL", "INTERVAL"), ("JSON", "JSON"), ("JSONB", "JSONB"),
    ("REGCLASS", "REGCLASS"), ("TEXT", "TEXT"), ("TINYTEXT", "TINYTEXT"),
    ("MEDIUMTEXT", "MEDIUMTEXT"), ("LONGTEXT", "LONGTEXT"), ("BYTEA", "BYTEA"),
    ("TRIGGER", "TRIGGER")]

/-- Types that may have a length. -/
def lengthTypes : List String :=
  ["FLOAT", "CLOB", "BINARY", "VARBINARY", "BLOB", "BYTES", "DATETIME", "STRING"]

/-- Integer types, which may be unsigned. -/
def integerTypes : List String :=
  ["TINYINT", "INT2", "SMALLINT", "MEDIUMINT", "INT", "INT4", "INT8", "INTEGER", "BIGINT"]

/-- Exact numbers, which may have a precision and a scale. -/
def exactTypes : List String := ["NUMERIC", "DECIMAL", "DEC", "BIGNUMERIC", "BIGDECIMAL"]

/-- Types that list their values, which may be numbered. -/
def labelTypes : List String := ["ENUM", "ENUM8", "ENUM16"]

/-! ## Sizes -/

/-- A length, if one is given. -/
def lengthSize : Parser TypeSize := do
  match ← precision with
  | none => pure .unstated
  | some n => pure (.length n)

/-- A precision and a scale, if they are given. -/
def exactSize : Parser TypeSize := do
  match ← precisionAndScale with
  | none => pure .unstated
  | some (n, none) => pure (.length n)
  | some (n, some scale) => pure (.scaled n scale)

/-- The length of a character type, if one is given. -/
def characterSize : Parser TypeSize := do
  if ← mark "(" then
    let size ←
      if ← keyword "MAX" then pure TypeSize.max
      else do
        let n ← natural
        match ← oneOf ["CHARACTERS", "OCTETS"] with
        | some unit => pure (.counted n unit)
        | none => pure (.length n)
    expectMark ")"
    pure size
  else pure .unstated

/-- What a time type says of its zone. -/
def zoneRule : Parser ZoneRule := do
  if ← keyword "WITH" then
    expectAll ["TIME", "ZONE"]
    pure .included
  else if ← keyword "WITHOUT" then
    expectAll ["TIME", "ZONE"]
    pure .excluded
  else pure .unstated

/-- A text between single quotes. -/
def quotedText : Parser String := do
  match ← rest with
  | .literal (.string s) :: ts => set ts; pure s
  | _ => fail

/-- A number, or what stands for one. -/
def numberText : Parser String := do
  match ← constant with
  | .number digits long => pure (Literal.number digits long).text
  | .placeholder text => pure text
  | _ => fail

/-- The sign of a number, if it has one. -/
def signText : Parser String := do
  if ← mark "+" then pure "+"
  else if ← mark "-" then pure "-"
  else pure ""

/-- A value that a type lists, with a number if one follows. -/
def labelValue : Parser LabelValue := do
  let label ← literalText
  if ← mark "=" then
    let sign ← signText
    let number ← numberText
    pure ⟨label, some (sign ++ number)⟩
  else pure ⟨label, none⟩

/-- The modifiers of a type that is not known, up to the closing parenthesis; commas between them
may be left out. -/
def modifiersUpTo : Nat → Parser (List String)
  | 0 => fail
  | count + 1 => do
    match ← next with
    | some (.word ⟨value, none⟩ _) => return value :: (← modifiersUpTo count)
    | some (.word ⟨value, some q⟩ _) =>
      return (q.toString ++ value ++ q.toString) :: (← modifiersUpTo count)
    | some (.literal (.number digits _)) => return digits :: (← modifiersUpTo count)
    | some (.literal (.string s)) => return s :: (← modifiersUpTo count)
    | some (.symbol ",") => modifiersUpTo count
    | some (.symbol ")") => pure []
    | _ => fail

/-- A type that is not known: a dotted name with modifiers. -/
def customType : Parser SqlType := do
  let name ← path
  if ← mark "(" then
    let modifiers ← modifiersUpTo ((← rest).length + 1)
    pure (.custom name modifiers)
  else pure (.custom name [])

/-- The rest of a type after its first word, if it is a known type without elements. -/
def knownType (key : String) : Parser (Option SqlType) := do
  match plainTypes.lookup key with
  | some name => pure (some (.builtin name .unstated false))
  | none =>
    if lengthTypes.contains key then
      let size ← lengthSize
      pure (some (.builtin key size false))
    else if integerTypes.contains key then
      let size ← lengthSize
      let unsigned ← keyword "UNSIGNED"
      pure (some (.builtin key size unsigned))
    else if exactTypes.contains key then
      let size ← exactSize
      pure (some (.builtin key size false))
    else if labelTypes.contains key then
      let values ← parenthesized (separated labelValue)
      pure (some (.labels key values))
    else match key with
      | "SET" =>
        let values ← parenthesized (separated quotedText)
        pure (some (.labels key (values.map fun label => ⟨label, none⟩)))
      | "VARCHAR" | "NVARCHAR" =>
        let size ← characterSize
        pure (some (.builtin key size false))
      | "CHAR" | "CHARACTER" =>
        if ← keyword "VARYING" then
          let size ← characterSize
          pure (some (.builtin (key ++ " VARYING") size false))
        else if ← keywords ["LARGE", "OBJECT"] then
          let size ← lengthSize
          pure (some (.builtin (key ++ " LARGE OBJECT") size false))
        else
          let size ← characterSize
          pure (some (.builtin key size false))
      | "BIT" =>
        let varying ← keyword "VARYING"
        let size ← lengthSize
        pure (some (.builtin (if varying then "BIT VARYING" else "BIT") size false))
      | "DOUBLE" =>
        let precise ← keyword "PRECISION"
        pure (some (.builtin (if precise then "DOUBLE PRECISION" else "DOUBLE") .unstated false))
      | "TIMESTAMP" | "TIME" =>
        let p ← precision
        let zone ← zoneRule
        pure (some (.temporal key p zone))
      | "TIMESTAMPTZ" =>
        let p ← precision
        pure (some (.temporal "TIMESTAMP" p .short))
      | "TIMETZ" =>
        let p ← precision
        pure (some (.temporal "TIME" p .short))
      | "FIXEDSTRING" =>
        let n ← parenthesized natural
        pure (some (.builtin "FixedString" (.length n) false))
      | "DATETIME64" => parenthesized do
        let p ← natural
        let zone ← if ← mark "," then some <$> literalText else pure none
        pure (some (.fixedZone "DateTime64" p zone))
      | _ => pure none

/-- The brackets that make an array of a type; `count` bounds them. -/
def arraySuffixes (element : SqlType) : Nat → Parser SqlType
  | 0 => pure element
  | count + 1 => do
    if ← mark "[" then
      let size ← attempt natural
      expectMark "]"
      arraySuffixes (.array element size) count
    else pure element

/-- What closes the element type of an array: one sign, which may be half of a sign that closes an
outer array too, or an inner array's sign that did so already. -/
def closingSign (element : SqlType) (closed : Bool) : Parser (SqlType × Bool) := do
  if closed then pure (.angleArray element, false)
  else if ← mark ">" then pure (.angleArray element, false)
  else if ← mark ">>" then pure (.angleArray element, true)
  else fail

/-- A type that is no array in angle brackets; `key` is that of its first word. -/
def namedType (key : String) : Parser SqlType := do
  let start ← rest
  let _ ← next
  match ← knownType key with
  | some type => pure type
  | none =>
    -- A type that is not known has a dotted name, so it is read from its first word on.
    set start
    customType

/-- A type, and whether the sign that closes it closes an outer one too; `depth` bounds the
nesting. -/
def typeUpTo : Nat → Parser (SqlType × Bool)
  | 0 => fail
  | depth + 1 => do
    match ← rest with
    | .word _ key :: _ =>
      if key = "ARRAY" then
        let _ ← next
        expectMark "<"
        let (element, closed) ← typeUpTo depth
        let (type, closed) ← closingSign element closed
        let type ← arraySuffixes type (← rest).length
        pure (type, closed)
      else
        let type ← namedType key
        let type ← arraySuffixes type (← rest).length
        pure (type, false)
    | _ => fail

/-- A type name. -/
def typeName : Parser SqlType := do
  let (type, closed) ← typeUpTo ((← rest).length + 1)
  if closed then fail else pure type

end QueryReport.Sql.Parser
