import QueryReport.Proofs.Sql.Lexing.Pieces
import QueryReport.Proofs.Sql.Reading.Basic
import QueryReport.Sql.Parser.Operand

/-!
# `QueryReport.Proofs.Sql.Reading.Operand`: names and constants are read as operands

* `IsName ws`: words that make up a dotted name, none of which begins a form of its own.
* `typedText_fails`: a word is not taken for a type in front of what ends a name.
* `operand_name`, `operand_literal`: a name, and a constant, is read as the operand that it is.
-/

set_option autoImplicit false

namespace QueryReport.Sql.Parser

variable {ts rest : List Token}

/-! ## What ends a word -/

/-- The words of the clauses that may follow a filter. -/
def clauseWords : List String :=
  ["GROUP", "CLUSTER", "DISTRIBUTE", "SORT", "HAVING", "WINDOW", "QUALIFY", "ORDER", "LIMIT",
    "OFFSET", "FETCH", "FOR"]

/-- The words that go on with a test after a name, or end it. -/
def endWords : List String := ["IS", "IN", "BETWEEN", "AND", "OR"] ++ clauseWords

/-- What may stand after a word so that the word is no type with a size and no call. -/
def EndsWord : List Token → Prop
  | [] => True
  | .symbol m :: _ => m ∈ [".", "=", "<>", "<", ">", "<=", ">=", "~~", ",", ")"]
  | .word _ key :: _ => key ∈ endWords
  | _ => False

/-- What may stand after a name so that the name ends there. -/
structure EndsName (ts : List Token) : Prop where
  word : EndsWord ts
  noPoint : ts.head? ≠ some (.symbol ".")

theorem EndsWord.key (h : EndsWord ts) :
    keyOf ts.head? ∈ "" :: endWords := by
  unfold EndsWord at h
  split at h
  · decide
  · exact List.mem_cons_self
  · exact List.mem_cons_of_mem _ h
  · exact h.elim

theorem EndsWord.keyword (h : EndsWord ts) {key : String}
    (hkey : key ∉ "" :: endWords) : keyword key ts = .ok (false, ts) :=
  keyword_ne fun heq => hkey (heq ▸ h.key)

theorem EndsWord.keywords (h : EndsWord ts) {key : String} {keys : List String}
    (hkey : key ∉ "" :: endWords) :
    Parser.keywords (key :: keys) ts = .ok (false, ts) :=
  keywords_ne fun heq => hkey (heq ▸ h.key)

theorem EndsWord.head_ne (h : EndsWord ts) {m : String}
    (hm : m ∉ [".", "=", "<>", "<", ">", "<=", ">=", "~~", ",", ")"]) :
    ts.head? ≠ some (.symbol m) := by
  intro heq
  cases ts with
  | nil => cases heq
  | cons t ts =>
      cases heq
      exact hm h

theorem EndsWord.mark (h : EndsWord ts) {m : String}
    (hm : m ∉ [".", "=", "<>", "<", ">", "<=", ">=", "~~", ",", ")"]) :
    mark m ts = .ok (false, ts) :=
  mark_ne (h.head_ne hm)

/-- A word that ends a name is a keyword, and so no text. -/
theorem isKeyword_endWord {key : String} (h : key ∈ endWords) : isKeyword key = true := by
  -- The words are looked up where they stand, since to search all the keywords for each is slow.
  have hplaces : endWords
      = [344, 312, 47, 18, 483, 292, 93, 187, 641, 296, 787, 539, 485, 372, 470, 243, 263].filterMap
        (Sql.keywords[·]?) := by
    decide +kernel
  rw [hplaces] at h
  obtain ⟨i, -, hi⟩ := List.mem_filterMap.mp h
  exact List.contains_iff_mem.mpr (List.mem_of_getElem? hi)

theorem EndsWord.literalText_fails (h : EndsWord ts) : Fails literalText ts := by
  unfold literalText
  refine .of_bind_ok (rest_run ts) ?_
  unfold EndsWord at h
  split at h
  · exact fails_fail _
  · exact fails_fail _
  · next name key ts =>
    have hkey : isKeyword key = true := isKeyword_endWord h
    show Fails (if isKeyword key then fail else _) _
    rw [if_pos hkey]
    exact fails_fail _
  · exact h.elim

/-! ## No type in front of what ends a word -/

theorem EndsWord.precision (h : EndsWord ts) : Parser.precision ts = .ok (none, ts) := by
  unfold Parser.precision
  rw [bind_ok (h.mark (by decide))]
  rfl

theorem EndsWord.lengthSize (h : EndsWord ts) : Parser.lengthSize ts = .ok (.unstated, ts) := by
  unfold Parser.lengthSize
  rw [bind_ok h.precision]
  rfl

theorem EndsWord.exactSize (h : EndsWord ts) : Parser.exactSize ts = .ok (.unstated, ts) := by
  unfold Parser.exactSize precisionAndScale
  rw [bind_ok (bind_ok (h.mark (by decide)) _)]
  rfl

theorem EndsWord.characterSize (h : EndsWord ts) :
    Parser.characterSize ts = .ok (.unstated, ts) := by
  unfold Parser.characterSize
  rw [bind_ok (h.mark (by decide))]
  rfl

theorem EndsWord.zoneRule (h : EndsWord ts) : Parser.zoneRule ts = .ok (.unstated, ts) := by
  unfold Parser.zoneRule
  rw [bind_ok (h.keyword (by decide))]
  show (Parser.keyword "WITHOUT" >>= _) ts = _
  rw [bind_ok (h.keyword (by decide))]
  rfl

/-- What is no type that a text may follow without it being an interval. -/
def IsPlainType : Option SqlType → Prop
  | some (.builtin name _ _) => name ≠ "INTERVAL"
  | some (.custom _ _) => False
  | _ => True

theorem plainTypes_interval {key name : String} (hkey : key ≠ "INTERVAL")
    (h : plainTypes.lookup key = some name) : name ≠ "INTERVAL" := by
  rintro rfl
  obtain ⟨l₁, l₂, heq, _⟩ := List.lookup_eq_some_iff.mp h
  have hmem : (key, "INTERVAL") ∈ plainTypes := heq ▸ List.mem_append_right _ List.mem_cons_self
  have hall : ∀ p ∈ plainTypes, p.2 = "INTERVAL" → p.1 = "INTERVAL" := by decide +kernel
  exact hkey (hall _ hmem rfl)

/-- The reader takes no token and finds a plain type or none, or it fails. -/
def FindsPlain (ts : List Token) (p : Parser (Option SqlType)) : Prop :=
  (∃ type, p ts = .ok (type, ts) ∧ IsPlainType type) ∨ Fails p ts

theorem FindsPlain.pure {type : Option SqlType} (h : IsPlainType type) :
    FindsPlain ts (pure type) := .inl ⟨type, rfl, h⟩

theorem FindsPlain.step {α : Type} {p : Parser α} {a : α} {f : α → Parser (Option SqlType)}
    (hp : p ts = .ok (a, ts)) (h : FindsPlain ts (f a)) : FindsPlain ts (p >>= f) := by
  obtain ⟨type, htype, hplain⟩ | hfails := h
  · exact .inl ⟨type, by rw [bind_ok hp, htype], hplain⟩
  · exact .inr (.of_bind_ok hp hfails)

/-- In front of what ends a word, a known type takes no token, or its parentheses are missing. -/
theorem knownType_endsWord {key : String} (hkey : key ≠ "INTERVAL") (h : EndsWord ts) :
    FindsPlain ts (knownType key) := by
  -- Some types need a size in parentheses, and others look for one.
  have hparen : ∀ {α : Type} (p : Parser α), Fails (parenthesized p) ts :=
    fun p => (Fails.of_bind_ok (h.mark (by decide)) (fails_fail ts)).bind _
  have hchars : FindsPlain ts (do
      let size ← characterSize
      Pure.pure (some (.builtin key size false))) := .step h.characterSize (.pure hkey)
  have htime : FindsPlain ts (do
      let p ← precision
      let zone ← zoneRule
      Pure.pure (some (.temporal key p zone))) :=
    .step h.precision (.step h.zoneRule (.pure trivial))
  unfold knownType
  split
  · next name hname => exact .pure (plainTypes_interval hkey hname)
  split
  · exact .step h.lengthSize (.pure hkey)
  split
  · exact .step h.lengthSize (.step (h.keyword (by decide)) (.pure hkey))
  split
  · exact .step h.exactSize (.pure hkey)
  split
  · exact .inr ((hparen _).bind _)
  split
  case h_1 => exact .inr ((hparen _).bind _)
  case h_2 => exact hchars
  case h_3 => exact hchars
  case h_4 => exact .step (h.keyword (by decide)) (.step (h.keywords (by decide)) hchars)
  case h_5 => exact .step (h.keyword (by decide)) (.step (h.keywords (by decide)) hchars)
  case h_6 =>
      have hbit : "BIT" ≠ "INTERVAL" := by decide
      exact .step (h.keyword (by decide)) (.step h.lengthSize (.pure hbit))
  case h_7 => exact .step (h.keyword (by decide)) (.pure (show "DOUBLE" ≠ "INTERVAL" by decide))
  case h_8 => exact htime
  case h_9 => exact htime
  case h_10 => exact .step h.precision (.pure trivial)
  case h_11 => exact .step h.precision (.pure trivial)
  case h_12 => exact .inr ((hparen _).bind _)
  case h_13 => exact .inr (hparen _)
  case h_14 => exact .pure trivial

/-! ## Names -/

/-- The tokens of a dotted name. -/
def nameTokens : List String → List Token
  | [] => []
  | [w] => [.ofWord w]
  | w :: ws => .ofWord w :: .symbol "." :: nameTokens ws

/-- The parts of a dotted name that is written without quotes. -/
def nameParts (ws : List String) : Path := ws.map fun w => ⟨w, none⟩

/-- A dotted name as a tree. -/
def nameExpr : List String → Expr
  | [w] => .column ⟨w, none⟩
  | ws => .path (nameParts ws)

theorem length_nameTokens (ws : List String) : ws.length ≤ (nameTokens ws).length := by
  fun_induction nameTokens ws <;> simp_all
  omega

theorem identifier_word (w : String) (ts : List Token) :
    identifier (.ofWord w :: ts) = .ok (⟨w, none⟩, ts) := rfl

theorem pathUpTo_name {ws : List String} (hws : ws ≠ []) (hrest : rest.head? ≠ some (.symbol "."))
    {count : Nat} (hcount : ws.length ≤ count) :
    pathUpTo count (nameTokens ws ++ rest) = .ok (nameParts ws, rest) := by
  induction ws generalizing count with
  | nil => exact absurd rfl hws
  | cons w ws ih =>
      obtain ⟨count, rfl⟩ := Nat.exists_eq_add_one_of_ne_zero
        (Nat.ne_of_gt (Nat.lt_of_lt_of_le (Nat.succ_pos ws.length) hcount))
      unfold pathUpTo
      cases ws with
      | nil =>
          show (identifier >>= _) (.ofWord w :: rest) = _
          rw [bind_ok (identifier_word w rest), bind_ok (mark_ne hrest)]
          rfl
      | cons w' ws =>
          have hmore := @ih nofun count (Nat.le_of_succ_le_succ hcount)
          show (identifier >>= _) (.ofWord w :: .symbol "." :: (nameTokens (w' :: ws) ++ rest)) = _
          rw [bind_ok (identifier_word w _), bind_ok (mark_self "." _)]
          show (pathUpTo count >>= _) _ = _
          rw [bind_ok hmore]
          rfl

theorem path_name {ws : List String} (hws : ws ≠ []) (hrest : rest.head? ≠ some (.symbol ".")) :
    path (nameTokens ws ++ rest) = .ok (nameParts ws, rest) := by
  unfold path
  rw [rest_bind]
  refine pathUpTo_name hws hrest ?_
  have := length_nameTokens ws
  rw [List.length_append]
  omega

theorem customType_name {ws : List String} (hws : ws ≠ []) (h : EndsName rest) :
    customType (nameTokens ws ++ rest) = .ok (.custom (nameParts ws) [], rest) := by
  unfold customType
  rw [bind_ok (path_name hws h.noPoint), bind_ok (h.word.mark (by decide))]
  rfl

theorem arraySuffixes_endsWord (h : EndsWord ts) (type : SqlType) (count : Nat) :
    arraySuffixes type count ts = .ok (type, ts) := by
  cases count with
  | zero => rfl
  | succ count =>
      unfold arraySuffixes
      rw [bind_ok (h.mark (by decide))]
      rfl

/-- The tokens of a name, the first apart. -/
theorem nameTokens_cons (w : String) (ws : List String) (h : EndsName rest) :
    ∃ ts, nameTokens (w :: ws) ++ rest = .ofWord w :: ts ∧ EndsWord ts := by
  cases ws with
  | nil => exact ⟨rest, rfl, h.word⟩
  | cons w' ws => exact ⟨_, rfl, List.mem_cons_self⟩

/-- A name taken for a type is a known type without a size, or a type that is not known. -/
theorem namedType_name {w : String} {ws : List String} {ts : List Token}
    (hkey : Text.upperKey w ≠ "INTERVAL") (h : EndsName rest)
    (hts : nameTokens (w :: ws) ++ rest = .ofWord w :: ts) (hends : EndsWord ts) :
    (∃ type, namedType (Text.upperKey w) (.ofWord w :: ts) = .ok (type, ts)
        ∧ IsPlainType (some type))
      ∨ namedType (Text.upperKey w) (.ofWord w :: ts)
        = .ok (.custom (nameParts (w :: ws)) [], rest)
      ∨ Fails (namedType (Text.upperKey w)) (.ofWord w :: ts) := by
  unfold namedType
  rw [rest_bind]
  have hnext : next (.ofWord w :: ts) = .ok (some (.ofWord w), ts) := rfl
  obtain ⟨type, htype, hplain⟩ | hfails := knownType_endsWord hkey hends
  · cases type with
    | none =>
        -- A type that is not known is read again from its first word on, as a dotted name.
        have hcustom : customType (.ofWord w :: ts)
            = .ok (.custom (nameParts (w :: ws)) [], rest) :=
          hts ▸ customType_name nofun h
        refine .inr (.inl ?_)
        rw [bind_ok hnext, bind_ok htype]
        exact (bind_ok (set_run ts (.ofWord w :: ts)) _).trans hcustom
    | some type =>
        refine .inl ⟨type, ?_, hplain⟩
        rw [bind_ok hnext, bind_ok htype]
        rfl
  · exact .inr (.inr (.of_bind_ok (rest_run _) (.of_bind_ok hnext (hfails.bind _))))

/-- The type that a name is taken for is read with what is left after it, or it is not read. -/
theorem typeName_word {w : String} {ts : List Token} (hkey : Text.upperKey w ≠ "ARRAY")
    {type : SqlType} {left : List Token}
    (h : namedType (Text.upperKey w) (.ofWord w :: ts) = .ok (type, left)) (hleft : EndsWord left) :
    typeName (.ofWord w :: ts) = .ok (type, left) := by
  unfold typeName
  rw [rest_bind]
  refine @bind_ok _ _ _ _ left (type, false) ?_ _
  unfold typeUpTo
  rw [rest_bind]
  show (if Text.upperKey w = "ARRAY" then _ else _ : Parser _) (.ofWord w :: ts) = _
  rw [if_neg hkey, bind_ok h, rest_bind, bind_ok (arraySuffixes_endsWord hleft type _)]
  rfl

theorem typeName_word_fails {w : String} {ts : List Token} (hkey : Text.upperKey w ≠ "ARRAY")
    (h : Fails (namedType (Text.upperKey w)) (.ofWord w :: ts)) :
    Fails typeName (.ofWord w :: ts) := by
  unfold typeName
  refine .of_bind_ok (rest_run _) (.bind ?_ _)
  unfold typeUpTo
  refine .of_bind_ok (rest_run _) ?_
  show Fails (if Text.upperKey w = "ARRAY" then _ else _ : Parser _) (.ofWord w :: ts)
  rw [if_neg hkey]
  exact h.bind _

/-- A word is not taken for a type with a text after it. -/
theorem typedText_name_fails {w : String} {ws : List String} (interval : Parser Expr)
    (hkey : Text.upperKey w ∉ ["INTERVAL", "ARRAY"]) (h : EndsName rest) :
    Fails (Grammar.typedText interval) (nameTokens (w :: ws) ++ rest) := by
  obtain ⟨ts, hts, hends⟩ := nameTokens_cons w ws h
  have hinterval : Text.upperKey w ≠ "INTERVAL" := fun heq => hkey (heq ▸ .head _)
  have harray : Text.upperKey w ≠ "ARRAY" := fun heq => hkey (heq ▸ .tail _ (.head _))
  rw [hts]
  unfold Grammar.typedText
  obtain ⟨type, htype, hplain⟩ | hcustom | hfails := namedType_name hinterval h hts hends
  · refine .of_bind_ok (typeName_word harray htype hends) ?_
    split
    · exact absurd rfl hplain
    · exact hplain.elim
    · exact hends.literalText_fails.bind _
  · exact .of_bind_ok (typeName_word harray hcustom h.word) (fails_fail _)
  · exact (typeName_word_fails harray hfails).bind _

namespace Grammar

/-! ## Words that are names -/

/-- Words that stand for a value of their own, introduce what is no call, or are looked for where an
operand may stand. -/
def reserved : List String :=
  ["TRUE", "FALSE", "NULL", "CURRENT_CATALOG", "CURRENT_USER", "SESSION_USER", "USER",
    "CURRENT_TIMESTAMP", "CURRENT_TIME", "CURRENT_DATE", "LOCALTIME", "LOCALTIMESTAMP", "CASE",
    "EXISTS", "TRIM", "INTERVAL", "ARRAY", "NOT", "SELECT", "WITH", "ANY", "ALL", "SOME"]

/-- A word that is not reserved introduces no form in front of what ends a word, or a form that
cannot be read there, so that the word may be a name. -/
theorem special_endsWord (g : Grammar) (interval : Parser Expr) (name : Ident) {key : String}
    (hkey : key ∉ reserved) (h : EndsWord ts) :
    g.special interval name key ts = .ok (none, ts)
      ∨ Fails (g.special interval name key) ts ∧ key ∉ neverNames := by
  have hopen : ts.head? ≠ some (.symbol "(") := h.head_ne (by decide)
  have hform : ∀ p : Parser Expr, Fails (some <$> parenthesized p) ts :=
    fun p => (parenthesized_fails hopen).map some
  unfold special
  split
  all_goals try exact absurd (by decide) hkey
  all_goals try exact .inr ⟨hform _, by decide⟩
  · exact .inl (bind_ok (peekMark_ne hopen) _)
  · exact .inl rfl

theorem starPathUpTo_end (h : rest.head? ≠ some (.symbol ".")) (count : Nat) :
    starPathUpTo (count + 1) rest = .ok (([], false), rest) := by
  unfold starPathUpTo
  rw [bind_ok (mark_ne h)]
  rfl

theorem starPathUpTo_name {ws : List String} (hws : ws ≠ [])
    (hrest : rest.head? ≠ some (.symbol ".")) {count : Nat} (hcount : ws.length < count) :
    starPathUpTo count (.symbol "." :: (nameTokens ws ++ rest)) =
      .ok ((nameParts ws, false), rest) := by
  induction ws generalizing count with
  | nil => exact absurd rfl hws
  | cons w ws ih =>
      obtain ⟨count, rfl⟩ := Nat.exists_eq_add_one_of_ne_zero (Nat.ne_zero_of_lt hcount)
      rw [List.length_cons] at hcount
      unfold starPathUpTo
      rw [bind_ok (mark_self "." _)]
      cases ws with
      | nil =>
          -- One more round is needed to see that no dot follows the last word.
          obtain ⟨count, rfl⟩ := Nat.exists_eq_add_one_of_ne_zero (n := count) (by omega)
          show (mark "*" >>= _) (.ofWord w :: rest) = _
          rw [bind_ok (mark_word "*" _ _)]
          show (identifier >>= _) (.ofWord w :: rest) = _
          rw [bind_ok (identifier_word w rest), bind_ok (starPathUpTo_end hrest count)]
          rfl
      | cons w' ws =>
          have hmore := @ih nofun count (by simpa using hcount)
          show (mark "*" >>= _) (.ofWord w :: .symbol "." :: (nameTokens (w' :: ws) ++ rest)) = _
          rw [bind_ok (mark_word "*" _ _)]
          show (identifier >>= _) (.ofWord w :: .symbol "." :: (nameTokens (w' :: ws) ++ rest)) = _
          rw [bind_ok (identifier_word w _), bind_ok hmore]
          rfl

/-- After the first word of a name, the name is read to its end. -/
theorem nameOrCall_name (g : Grammar) {w : String} {ws : List String} {ts : List Token}
    (h : EndsName rest) (hts : nameTokens (w :: ws) ++ rest = .ofWord w :: ts) :
    g.nameOrCall ⟨w, none⟩ ts = .ok (nameExpr (w :: ws), rest) := by
  have hopen : rest.head? ≠ some (.symbol "(") := h.word.head_ne (by decide)
  unfold nameOrCall
  rw [rest_bind]
  cases ws with
  | nil =>
      obtain rfl : rest = ts := (List.cons.inj hts).2
      have hword := h.word
      unfold EndsWord at hword
      split
      · exact absurd rfl hopen
      · exact absurd rfl h.noPoint
      · exact hword.elim
      · rfl
  | cons w' ws =>
      obtain rfl : .symbol "." :: (nameTokens (w' :: ws) ++ rest) = ts := (List.cons.inj hts).2
      have hcount := length_nameTokens (w' :: ws)
      show (starPathUpTo _ >>= _) _ = _
      -- The fuel is the number of tokens left, and a name has no more parts than that.
      have hmore : starPathUpTo ((nameTokens (w' :: ws) ++ rest).length + 2)
          (.symbol "." :: (nameTokens (w' :: ws) ++ rest))
            = .ok ((nameParts (w' :: ws), false), rest) := by
        refine starPathUpTo_name (List.cons_ne_nil w' ws) h.noPoint ?_
        rw [List.length_append]
        omega
      rw [bind_ok hmore]
      show (peekMark "(" >>= _) rest = _
      rw [bind_ok (peekMark_ne hopen)]
      rfl

/-- What follows an operand has no collation for it. -/
theorem collated_endsWord (h : keyOf ts.head? ≠ "COLLATE") (e : Expr) :
    collated e ts = .ok (e, ts) := by
  unfold collated
  rw [bind_ok (after_ne h)]
  rfl

theorem wordOperand_name (g : Grammar) (interval : Parser Expr) {w : String} {ws : List String}
    {ts : List Token} (hkey : Text.upperKey w ∉ reserved) (h : EndsName rest)
    (hts : nameTokens (w :: ws) ++ rest = .ofWord w :: ts) (hends : EndsWord ts) :
    g.wordOperand interval ⟨w, none⟩ (Text.upperKey w) ts = .ok (nameExpr (w :: ws), rest) := by
  have hname := g.nameOrCall_name h hts
  unfold wordOperand
  -- No form begins with the word, or one does and fails, and then the word is tried as a name.
  obtain hnone | ⟨⟨e, he, _⟩, hnever⟩ := g.special_endsWord interval ⟨w, none⟩ hkey hends
  · rw [bind_ok (outcome_ok hnone)]
    show (g.nameOrCall _ >>= collated) ts = _
    rw [bind_ok hname]
    refine collated_endsWord (fun heq => ?_) _
    exact absurd (heq ▸ h.word.key) (by decide)
  · rw [bind_ok (outcome_error he)]
    show (if neverNames.contains (Text.upperKey w) then _ else _ : Parser Expr) ts = _
    rw [if_neg (by simpa using hnever), bind_ok (outcome_ok hname)]
    rfl

end Grammar

/-! ## Operands -/

/-- The words make up a dotted name whose first word is not reserved. -/
structure IsName (ws : List String) : Prop where
  nonempty : ws ≠ []
  words : ∀ w ∈ ws, IsWord w
  free : ∀ w ∈ ws.head?, Text.upperKey w ∉ Grammar.reserved

instance (ws : List String) : Decidable (IsName ws) :=
  decidable_of_iff
    (ws ≠ [] ∧ (∀ w ∈ ws, IsWord w) ∧ ∀ w ∈ ws.head?, Text.upperKey w ∉ Grammar.reserved)
    ⟨fun ⟨h, h', h''⟩ => ⟨h, h', h''⟩, fun ⟨h, h', h''⟩ => ⟨h, h', h''⟩⟩

theorem cut_keyword (key : String) (h : IsWord key ∧ Text.upperKey key = key) :
    Cut key [keywordToken key] := by
  rw [← ofWord_eq_keywordToken key h.2]
  exact cut_word h.1

/-- A keyword with a blank after it. -/
theorem closed_keyword (key : String) (h : IsWord key ∧ Text.upperKey key = key) :
    Closed (key ++ " ") [keywordToken key] :=
  (cut_keyword key h).closed_blank

/-- A dotted name begins with its first word. -/
theorem toList_name (w : String) (ws : List String) :
    ∃ more, (".".intercalate (w :: ws)).toList = w.toList ++ more := by
  cases ws with
  | nil => exact ⟨[], by rw [String.intercalate_singleton, List.append_nil]⟩
  | cons w' ws =>
      refine ⟨".".toList ++ (".".intercalate (w' :: ws)).toList, ?_⟩
      rw [String.intercalate_cons_cons, String.toList_append, String.toList_append,
        List.append_assoc]

/-- A dotted name is cut into its words and the points between them. -/
theorem cut_name {ws : List String} (hws : ws ≠ []) (hwords : ∀ w ∈ ws, IsWord w) :
    Cut (".".intercalate ws) (nameTokens ws) := by
  induction ws with
  | nil => exact absurd rfl hws
  | cons w ws ih =>
      rw [List.forall_mem_cons] at hwords
      cases ws with
      | nil =>
          rw [String.intercalate_singleton]
          exact cut_word hwords.1
      | cons w' ws =>
          intro more hmore
          have hrest := ih nofun hwords.2 more hmore
          -- A digit after the point would make the two a number.
          have hstart : ∀ d ∈ ((".".intercalate (w' :: ws)).toList ++ more).head?,
              d.isDigit = false := by
            intro d hd
            obtain ⟨tail, htail⟩ := toList_name w' ws
            rw [htail, List.append_assoc] at hd
            exact (List.forall_mem_cons.mp hwords.2).1.head_not_digit hd
          rw [String.intercalate_cons_cons, String.toList_append, String.toList_append,
            List.append_assoc, List.append_assoc]
          show lexed (w.toList ++ '.' :: ((".".intercalate (w' :: ws)).toList ++ more)) = _
          rw [lexed_word hwords.1 (by rintro d ⟨⟩; decide), lexed_point hstart, hrest,
            lexed_append_map, lexed_append_map]
          rfl

namespace Grammar

/-- An operand that begins with a word and is no typed text. -/
theorem operand_word (g : Grammar) {name : Ident} {key : String}
    (h : ∀ interval, Fails (typedText interval) (.word name key :: ts)) :
    ∃ interval, g.operand (.word name key :: ts) = g.wordOperand interval name key ts := by
  refine ⟨intervalForm (g.operandUpTo (.word name key :: ts).length), ?_⟩
  unfold operand
  rw [rest_bind]
  unfold operandUpTo
  exact bind_ok (attempt_of_fails (h _)) _

/-- An operand that begins with anything else. -/
theorem operand_token (g : Grammar) {t : Token} (ht : ∀ name key, t ≠ .word name key) :
    g.operand (t :: ts) = (g.operandFrom t >>= collated) ts := by
  -- A typed text begins with the name of its type, and that with a word.
  have htype : ∀ interval, Fails (typedText interval) (t :: ts) := by
    intro interval
    unfold typedText typeName
    refine .bind (.of_bind_ok (rest_run _) (.bind ?_ _)) _
    unfold typeUpTo
    refine .of_bind_ok (rest_run _) ?_
    split
    · next heq =>
      cases heq
      exact absurd rfl (ht _ _)
    · exact fails_fail _
  unfold operand
  rw [rest_bind]
  unfold operandUpTo
  rw [bind_ok (attempt_of_fails (htype _))]
  cases t with
  | word name key => exact absurd rfl (ht name key)
  | _ => rfl

/-- A name is read as the operand that it is. -/
theorem operand_name (g : Grammar) {ws : List String} (hws : IsName ws) (h : EndsName rest) :
    g.operand (nameTokens ws ++ rest) = .ok (nameExpr ws, rest) := by
  cases ws with
  | nil => exact absurd rfl hws.nonempty
  | cons w ws =>
      have hfree : Text.upperKey w ∉ reserved := hws.free w rfl
      have htype : Text.upperKey w ∉ ["INTERVAL", "ARRAY"] := fun hmem => hfree (by
        simp only [List.mem_cons, List.not_mem_nil, or_false] at hmem
        obtain heq | heq := hmem <;> rw [heq] <;> decide)
      obtain ⟨ts, hts, hends⟩ := nameTokens_cons w ws h
      have hfails : ∀ interval, Fails (typedText interval) (.ofWord w :: ts) :=
        fun interval => hts ▸ typedText_name_fails interval htype h
      obtain ⟨interval, hoperand⟩ := g.operand_word hfails
      rw [hts]
      exact hoperand.trans (g.wordOperand_name interval hfree h hts hends)

/-- A constant that a single token stands for is read as the operand that it is. -/
theorem operand_literal (g : Grammar) (value : Literal) (h : keyOf ts.head? ≠ "COLLATE") :
    g.operand (.literal value :: ts) = .ok (.literal value, ts) := by
  rw [operand_token g fun _ _ => Token.noConfusion]
  exact (bind_ok (pure_run _ ts) _).trans (collated_endsWord h _)

theorem operand_null (g : Grammar) (h : EndsName ts) :
    g.operand (.ofWord "NULL" :: ts) = .ok (.literal .null, ts) := by
  have hkey : Text.upperKey "NULL" = "NULL" := by decide +kernel
  have htype : Text.upperKey "NULL" ∉ ["INTERVAL", "ARRAY"] := by
    rw [hkey]
    decide
  obtain ⟨interval, hoperand⟩ :=
    g.operand_word fun interval => @typedText_name_fails _ _ [] interval htype h
  have hspecial : g.special interval ⟨"NULL", none⟩ "NULL" ts = .ok (some (.literal .null), ts) :=
    rfl
  refine hoperand.trans ?_
  rw [hkey]
  unfold wordOperand
  show (outcome _ >>= _) ts = _
  rw [bind_ok (outcome_ok hspecial)]
  exact collated_endsWord (fun heq => absurd (heq ▸ h.word.key) (by decide)) _

theorem operand_minus (g : Grammar) {e : Expr}
    (h : g.operation productStrength ts = .ok (e, rest)) (hrest : keyOf rest.head? ≠ "COLLATE") :
    g.operand (.symbol "-" :: ts) = .ok (.unary .minus e, rest) := by
  rw [operand_token g fun _ _ => Token.noConfusion]
  exact (bind_ok (map_ok h (Expr.unary .minus)) _).trans (collated_endsWord hrest _)

/-- An expression in parentheses. -/
theorem operand_nested (g : Grammar) {e : Expr} (hquery : keyOf ts.head? ∉ ["SELECT", "WITH"])
    (h : g.expression ts = .ok (e, .symbol ")" :: rest)) (hrest : EndsName rest) :
    g.operand (.symbol "(" :: ts) = .ok (.nested e, rest) := by
  have hnext : queryNext ts = .ok (false, ts) := by
    show Except.ok (["SELECT", "WITH"].contains (keyOf ts.head?), ts) = _
    rw [List.contains_eq_mem, decide_eq_false hquery]
  have hgrouped : g.grouped ts = .ok (.nested e, .symbol ")" :: rest) := by
    unfold grouped
    rw [bind_ok hnext]
    exact bind_ok (separated_one h (by simp)) _
  have hgroup : g.group ts = .ok (.nested e, rest) := by
    unfold group
    rw [bind_ok hgrouped, bind_ok (expectMark_self ")" rest), bind_ok (mark_ne hrest.noPoint)]
    rfl
  rw [operand_token g fun _ _ => Token.noConfusion]
  refine (bind_ok hgroup _).trans (collated_endsWord (fun heq => ?_) _)
  exact absurd (heq ▸ hrest.word.key) (by decide)

end Grammar

end QueryReport.Sql.Parser
