import QueryReport.Proofs.Except
import QueryReport.Proofs.Sql.Dialect.LaidQuery
import QueryReport.Proofs.Text.Quoting
import QueryReport.Sql.Edit
import QueryReport.Sql.Statement

/-!
# `QueryReport.Proofs.Sql.Dialect.Bare`: bare names beside constants as they were

For T-SQL the quotes are left out of the whole text at once, and what a single quote opens goes on
to the next one, whatever kind of constant the two belong to.  A constant keeps its text, and the
names after it lose their quotes, if its single quotes are partners of each other and its double
quotes stand between them (`Paired`).

* `stripQuotes_paired` is the step: what follows such a text has no part in what it opens.
* `Laid.stripQuotes_eq` goes over all the leaves of a text, and `Query.delimit_bare` says what the
  text of a query becomes.
* `Literal.paired` says which constants keep their text.  One in single quotes does unless it has
  quotes that look escaped.  One with an escaped quote in it, or with quotes between dollar signs,
  need not: after the escaped quote of `escaped_quotes_lost` the quotes are paired the wrong way.
-/

set_option autoImplicit false

namespace QueryReport.Sql

open Dialect QueryReport.Text

/-! ## Texts whose quotes are partners -/

section
variable {cs : List Char} {opening lead s : String}

instance (cs : List Char) : Decidable (Undelimited cs) := decidable_of_iff _ undelimited_iff.symm

/-- A text with partners for all of its single quotes, and with double quotes only between two of
them. -/
def Paired (s : String) : Prop := Even (s.toList.count '\'') ∧ Undelimited s.toList

instance (s : String) : Decidable (Paired s) := inferInstanceAs (Decidable (_ ∧ _))

/-- What follows a text in which all single quotes have partners has no part in what it opens.  The
induction is on the length, since a text between quotes is gone over as a whole. -/
theorem stripQuotes_paired (h : Even (cs.count '\'')) (more : List Char) :
    stripQuotes false (cs ++ more) = stripQuotes false cs ++ stripQuotes false more := by
  induction hn : cs.length using Nat.strong_induction_on generalizing cs with
  | _ n ih =>
  subst hn
  cases cs with
  | nil => rfl
  | cons c rest =>
      by_cases hsingle : c = '\''
      · subst hsingle
        rw [List.count_cons_self, Nat.even_add_one, Nat.not_even_iff_odd] at h
        -- The rest has an odd number of quotes, so there is a first one.
        have hpartner : '\'' ∈ rest := List.count_pos_iff.mp h.pos
        obtain ⟨inner, after, rfl, hinner⟩ := List.eq_append_cons_of_mem hpartner
        have hafter : Even (after.count '\'') := by
          rw [List.count_append, List.count_eq_zero_of_not_mem hinner, Nat.zero_add,
            List.count_cons_self, Nat.odd_add_one, Nat.not_odd_iff_even] at h
          exact h
        have hshorter : after.length < ('\'' :: (inner ++ '\'' :: after)).length := by
          simp only [List.length_cons, List.length_append]
          omega
        have hrest := ih after.length hshorter hafter rfl
        have hassoc : '\'' :: (inner ++ '\'' :: after) ++ more
            = '\'' :: (inner ++ '\'' :: (after ++ more)) := by
          rw [List.cons_append, List.append_assoc, List.cons_append]
        rw [hassoc, stripQuotes_between hinner, stripQuotes_between hinner, hrest, List.cons_append,
          List.append_assoc, List.cons_append]
      · rw [List.count_cons_of_ne hsingle] at h
        have hrest := ih rest.length (Nat.lt_succ_self _) h rfl
        by_cases hdouble : c = '"'
        · subst hdouble
          rw [List.cons_append, stripQuotes_double, stripQuotes_double, hrest]
        · rw [List.cons_append, stripQuotes_other hsingle hdouble,
            stripQuotes_other hsingle hdouble, hrest, List.cons_append]

theorem Gap.paired (h : Gap s) : Paired s := by
  have hnone : '\'' ∉ s.toList := fun hmem => (h _ hmem).1 rfl
  refine ⟨?_, undelimited_iff.mpr (stripQuotes_none h)⟩
  rw [List.count_eq_zero_of_not_mem hnone]
  exact Even.zero

/-! ## Texts between single quotes -/

theorem even_count_doubled (q : Char) (cs : List Char) : Even ((doubled q cs).count q) := by
  induction cs with
  | nil => exact Even.zero
  | cons c cs ih =>
      rw [doubled]
      split
      · rw [List.count_cons_self, List.count_cons_self, Nat.add_assoc]
        exact ih.add even_two
      · next hc =>
        rw [List.count_cons_of_ne hc]
        exact ih

/-- The first quote of two closes the text, and the second one opens it again. -/
theorem stripQuotes_doubled (cs more : List Char) :
    stripQuotes true (doubled '\'' cs ++ '\'' :: more)
      = doubled '\'' cs ++ '\'' :: stripQuotes false more := by
  induction cs with
  | nil => rfl
  | cons c cs ih =>
      rw [doubled]
      split
      · have hpartner : (doubled '\'' cs ++ '\'' :: more).contains '\'' = true := by simp
        rw [List.cons_append, List.cons_append, stripQuotes, if_pos rfl,
          decide_eq_false (not_not.mpr rfl), stripQuotes, if_neg Bool.false_ne_true, if_pos rfl,
          hpartner, ih, List.cons_append, List.cons_append]
      · next hc =>
        rw [List.cons_append, stripQuotes, if_pos rfl, decide_eq_true hc, ih, List.cons_append]

/-- A text between two single quotes that has others only twice. -/
theorem paired_doubled (hopening : opening = lead ++ "'") (hlead : Gap lead) (cs : List Char) :
    Paired (opening ++ String.ofList (doubled '\'' cs) ++ "'") := by
  have hlist : (opening ++ String.ofList (doubled '\'' cs) ++ "'").toList
      = lead.toList ++ '\'' :: (doubled '\'' cs ++ '\'' :: []) := by
    subst hopening
    simp only [String.toList_append, String.toList_ofList, List.append_assoc]
    rfl
  have hnone : '\'' ∉ lead.toList := fun hmem => (hlead _ hmem).1 rfl
  have hpartner : (doubled '\'' cs ++ ['\'']).contains '\'' = true := by simp
  constructor
  · rw [hlist, List.count_append, List.count_eq_zero_of_not_mem hnone, Nat.zero_add,
      List.count_cons_self, List.count_append, List.count_cons_self, List.count_nil, Nat.add_assoc]
    exact (even_count_doubled '\'' cs).add even_two
  · rw [hlist, undelimited_iff, stripQuotes_lead hlead, stripQuotes, if_neg Bool.false_ne_true,
      if_pos rfl, hpartner, stripQuotes_doubled]
    rfl

/-- Characters that are written without quotes, or with two for each, between two quotes. -/
theorem paired_written {write : Char → String} (hopening : opening = lead ++ "'")
    (hlead : Gap lead) (h : ∀ c ∈ cs, ∃ ds, (write c).toList = doubled '\'' ds) :
    Paired (opening ++ String.join (cs.map write) ++ "'") := by
  have hinner : ∃ ds, String.join (cs.map write) = String.ofList (doubled '\'' ds) := by
    induction cs with
    | nil => exact ⟨[], rfl⟩
    | cons c cs ih =>
        rw [List.forall_mem_cons] at h
        obtain ⟨first, hfirst⟩ := h.1
        obtain ⟨more, hmore⟩ := ih h.2
        refine ⟨first ++ more, ?_⟩
        rw [List.map_cons, String.join_cons, hmore, doubled_append, String.ofList_append, ← hfirst,
          String.ofList_toList]
  obtain ⟨ds, hds⟩ := hinner
  rw [hds]
  exact paired_doubled hopening hlead ds

/-- A text between two single quotes that has no others. -/
theorem paired_between (hopening : opening = lead ++ "'") (hlead : Gap lead)
    (hfree : '\'' ∉ s.toList) : Paired (opening ++ s ++ "'") := by
  have h := paired_doubled hopening hlead s.toList
  rwa [doubled_free hfree, String.ofList_toList] at h

end

/-! ## Constants -/

/-- The digits of a hexadecimal number. -/
theorem exists_digit_of_mem {c : Char} {n : Nat} (h : c ∈ Nat.toDigits 16 n) :
    ∃ d < 16, c = Nat.digitChar d := by
  induction n using Nat.strong_induction_on with
  | _ n ih =>
  rw [Nat.toDigits_eq_if (by decide)] at h
  split at h
  · next hn => exact ⟨n, hn, List.mem_singleton.mp h⟩
  · next hn =>
    rcases List.mem_append.mp h with h | h
    · exact ih (n / 16) (by omega) h
    · exact ⟨n % 16, by omega, List.mem_singleton.mp h⟩

theorem quote_not_mem_hexDigits (width n : Nat) : '\'' ∉ hexDigits width n := by
  unfold hexDigits
  intro h
  rcases List.mem_append.mp h with h | h
  · exact absurd (List.eq_of_mem_replicate h) (by decide)
  · obtain ⟨c, hc, hupper⟩ := List.mem_map.mp h
    obtain ⟨d, hd, rfl⟩ := exists_digit_of_mem hc
    have hnone : ∀ d < 16, (Nat.digitChar d).toUpper ≠ '\'' := by decide
    exact hnone d hd hupper

/-- A quote is written twice, and nothing else is written with one. -/
theorem unicodeChar_doubled (c : Char) : ∃ ds, (unicodeChar c).toList = doubled '\'' ds := by
  by_cases hc : c = '\''
  · subst hc
    exact ⟨['\''], rfl⟩
  · refine ⟨(unicodeChar c).toList, (doubled_free ?_).symm⟩
    unfold unicodeChar
    rw [if_neg hc]
    split
    · decide
    · split
      · simpa using Ne.symm hc
      · split <;> simp [quote_not_mem_hexDigits]

/-- Nothing but a quote is written with one. -/
theorem escapedChar_doubled {c : Char} (hc : c ≠ '\'') :
    ∃ ds, (escapedChar c).toList = doubled '\'' ds := by
  refine ⟨(escapedChar c).toList, (doubled_free ?_).symm⟩
  unfold escapedChar
  split
  · exact absurd rfl hc
  all_goals first | decide | simpa using Ne.symm hc

/-- The quotes of the constant's text are those around it, and single ones that stand twice. -/
def Literal.Tidy : Literal → Prop
  | .string s => QuotesApart '\'' s.toList
  | .unicode _ | .boolean _ | .null => True
  | .escaped s | .national s | .hex s | .bits s => '\'' ∉ s.toList
  | .number s _ | .placeholder s | .dollar none s => Gap s
  | .dollar (some tag) s => Gap tag ∧ Gap s
  | .doubleBits _ | .doubleQuoted _ => False

theorem Literal.paired {l : Literal} (h : l.Tidy) : Paired l.text := by
  cases l with
  | number s long => exact (gap_append h (by cases long <;> decide)).paired
  -- Quotes in a text are doubled, and so paired.
  | string s =>
      have htext : printQuoted '\'' s = "'" ++ String.ofList (doubled '\'' s.toList) ++ "'" := by
        rw [printQuoted_eq_quote h, quote, String.ofList_append, String.ofList_cons]
        rfl
      show Paired (printQuoted '\'' s)
      rw [htext]
      exact paired_doubled (String.empty_append).symm gap_empty s.toList
  | escaped s =>
      have hwritten : ∀ c ∈ s.toList, ∃ ds, (escapedChar c).toList = doubled '\'' ds :=
        fun c hc => escapedChar_doubled fun heq => h (heq ▸ hc)
      exact paired_written (by decide : _ = "E" ++ _) (by decide) hwritten
  | unicode s =>
      have hwritten : ∀ c ∈ s.toList, ∃ ds, (unicodeChar c).toList = doubled '\'' ds :=
        fun c _ => unicodeChar_doubled c
      exact paired_written (by decide : _ = "U&" ++ _) (by decide) hwritten
  | national s => exact paired_between (by decide : _ = "N" ++ _) (by decide) h
  | hex s => exact paired_between (by decide : _ = "X" ++ _) (by decide) h
  | bits s => exact paired_between (by decide : _ = "B" ++ _) (by decide) h
  | doubleBits s => exact h.elim
  | doubleQuoted s => exact h.elim
  -- A text between dollar signs is not escaped, so it must have no quotes of its own.
  | dollar tag s =>
      cases tag with
      | none => exact (gap_append (gap_append (by decide) h) (by decide)).paired
      | some tag =>
          have hopening : Gap ("$" ++ tag ++ "$") :=
            gap_append (gap_append (by decide) h.1) (by decide)
          exact (gap_append (gap_append (gap_append (gap_append hopening h.2) (by decide)) h.1)
            (by decide)).paired
  | boolean b => cases b <;> exact Gap.paired (by decide)
  | null => exact Gap.paired (by decide)
  | placeholder s => exact Gap.paired h

/-! ## The leaves of a query -/

/-- A name between double quotes or none, with no quotes in it, or a text whose quotes are
partners. -/
def Leaf.Clear : Leaf → Prop
  | .name i => Gap i.value ∧ (i.quote = none ∨ i.quote = some '"')
  | leaf => Paired leaf.text

instance : (leaf : Leaf) → Decidable leaf.Clear
  | .name _ => inferInstanceAs (Decidable (_ ∧ _))
  | .literal _ => inferInstanceAs (Decidable (Paired _))
  | .raw _ => inferInstanceAs (Decidable (Paired _))

/-- Only names lose their quotes, and what follows has no part in it. -/
theorem Leaf.Clear.stripQuotes_append {leaf : Leaf} (h : leaf.Clear) (more : List Char) :
    stripQuotes false (leaf.text.toList ++ more)
      = leaf.bare.toList ++ stripQuotes false more := by
  -- Quotes that are paired leave the reader outside of any text.
  have hpaired {s : String} (hs : Paired s) :
      stripQuotes false (s.toList ++ more) = s.toList ++ stripQuotes false more := by
    rw [stripQuotes_paired hs.1, hs.2.stripQuotes_eq]
  cases leaf with
  | literal l => exact hpaired h
  | raw s => exact hpaired h
  | name i =>
      obtain ⟨value, quote⟩ := i
      obtain ⟨hvalue, rfl | rfl⟩ := h
      · exact stripQuotes_lead hvalue more
      · have hfree : '"' ∉ value.toList := fun hmem => (hvalue _ hmem).2 rfl
        show stripQuotes false ((printQuoted '"' value).toList ++ more) = _
        rw [printQuoted, printed_free hfree, String.toList_ofList, List.cons_append,
          List.cons_append, stripQuotes_double, List.append_assoc, stripQuotes_lead hvalue,
          List.singleton_append, stripQuotes_double]
        rfl

theorem Laid.stripQuotes_eq {leaves : List Leaf} {text bare : String} (h : Laid leaves text bare)
    (hclear : ∀ leaf ∈ leaves, leaf.Clear) : stripQuotes false text.toList = bare.toList := by
  induction h with
  | gap hgap => exact stripQuotes_none hgap
  | leaf hgap leaf _ ih =>
      rw [List.forall_mem_cons] at hclear
      simp only [String.toList_append]
      rw [stripQuotes_lead hgap, hclear.1.stripQuotes_append, ih hclear.2]

theorem Laid.bare_isInfix {leaves : List Leaf} {text bare : String} (h : Laid leaves text bare)
    {leaf : Leaf} (hmem : leaf ∈ leaves) : leaf.bare.toList <:+: bare.toList := by
  induction h with
  | gap _ => cases hmem
  | @leaf leaves gap text bare _ first _ ih =>
      simp only [String.toList_append]
      cases hmem with
      | head => exact ⟨gap.toList, bare.toList, List.append_assoc ..⟩
      | tail _ hmem =>
          have hrest := (ih hmem).trans (List.suffix_append first.bare.toList bare.toList).isInfix
          exact hrest.trans (List.suffix_append gap.toList _).isInfix

namespace Query

variable {q : Query}

/-- A query without a limit whose text ends with a single word. -/
theorem not_limitLike_text {s : Select} (hs : q.body = .select s) (hlimit : q.limit = .none)
    (hoffset : q.offset = .none) (hword : (plain q.closing).any isBlank = false) :
    ¬ LimitLike q.text :=
  fun h => not_limitLike_of_word hword (closes_query hs hlimit hoffset h)

/-- In the text for T-SQL the names are bare and all else is as it was, if the quotes of each
constant are partners.  The text must not end like one with a limit, as two names may that are
spelled like it. -/
theorem delimit_bare (hclear : ∀ leaf ∈ q.leaves, leaf.Clear) (hlimit : ¬ LimitLike q.text) :
    ∃ bare, Laid q.leaves q.text bare ∧ Dialect.delimit .tsql q.text false = .ok bare := by
  obtain ⟨bare, hlaid⟩ := lays_query q
  have hstrip := hlaid.stripQuotes_eq hclear
  have hnone : splitLimit? (stripQuotes false q.text.toList) = none := by
    by_contra hsome
    obtain ⟨found, hfound⟩ := Option.ne_none_iff_exists'.mp hsome
    exact hlimit (limitLike_of_splitLimit hfound)
  refine ⟨bare, hlaid, ?_⟩
  rw [delimit_tsql, limitToTop, hnone, hstrip, String.ofList_toList]

/-- Constants of three kinds with quotes in them keep their text beside names that lose theirs. -/
theorem constants_beside_bare_names : ∃ q,
    parseQuery "SELECT E'\"b\"\\n', N'\"b\"' FROM \"t\" WHERE \"x\" = 'it''s \"b\"' ORDER BY \"x\""
      = .ok q
    ∧ .literal (.escaped "\"b\"\n") ∈ q.leaves ∧ .name ⟨"t", some '"'⟩ ∈ q.leaves
    ∧ (∀ leaf ∈ q.leaves, leaf.Clear) ∧ ¬ LimitLike q.text
    ∧ (∃ bare, Laid q.leaves q.text bare ∧ Dialect.delimit .tsql q.text false = .ok bare)
    ∧ Dialect.delimit .tsql q.text false
      = .ok "SELECT E'\"b\"\\n', N'\"b\"' FROM t WHERE x = 'it''s \"b\"' ORDER BY x" := by
  let text := "SELECT E'\"b\"\\n', N'\"b\"' FROM \"t\" WHERE \"x\" = 'it''s \"b\"' ORDER BY \"x\""
  obtain ⟨q, hread, hselect, hlimit, hoffset, hword, hconstant, hname, hclear, htext⟩ :=
    exists_ok (x := parseQuery text) (p := fun q : Query => q.select?.isSome
      ∧ q.limit = .none ∧ q.offset = .none ∧ (plain q.closing).any isBlank = false
      ∧ .literal (.escaped "\"b\"\n") ∈ q.leaves ∧ .name ⟨"t", some '"'⟩ ∈ q.leaves
      ∧ (∀ leaf ∈ q.leaves, leaf.Clear)
      ∧ Dialect.delimit .tsql q.text false
        = .ok "SELECT E'\"b\"\\n', N'\"b\"' FROM t WHERE x = 'it''s \"b\"' ORDER BY x")
      (by decide +kernel)
  -- The query ends with a name without blanks, so its text is not like a limit.
  unfold select? at hselect
  split at hselect
  · next s hs =>
    have hlike := not_limitLike_text hs hlimit hoffset hword
    exact ⟨q, hread, hconstant, hname, hclear, hlike, delimit_bare hclear hlike, htext⟩
  · cases hselect

/-- The quotes are paired without regard to the backslash, so what is quoted in the first constant
loses its quotes, and the name after it keeps them. -/
theorem escaped_quotes_lost : ∃ q,
    parseQuery "SELECT E'it\\'s \"x\"' AS \"c\", 'y' AS \"d\"" = .ok q
    ∧ q.limit = .none ∧ q.offset = .none
    ∧ q.leaves = [.literal (.escaped "it's \"x\""), .name ⟨"c", some '"'⟩,
      .literal (.string "y"), .name ⟨"d", some '"'⟩]
    ∧ Dialect.delimit .tsql q.text false = .ok "SELECT E'it\\'s x' AS \"c\", 'y' AS d"
    ∧ ¬ ∃ bare, Laid q.leaves q.text bare ∧ Dialect.delimit .tsql q.text false = .ok bare := by
  let text := "SELECT E'it\\'s \"x\"' AS \"c\", 'y' AS \"d\""
  obtain ⟨q, hread, hlimit, hoffset, hleaves, htext⟩ :=
    exists_ok (x := parseQuery text) (p := fun q : Query => q.limit = .none ∧ q.offset = .none
      ∧ q.leaves = [.literal (.escaped "it's \"x\""), .name ⟨"c", some '"'⟩,
        .literal (.string "y"), .name ⟨"d", some '"'⟩]
      ∧ Dialect.delimit .tsql q.text false = .ok "SELECT E'it\\'s x' AS \"c\", 'y' AS d")
      (by decide +kernel)
  refine ⟨q, hread, hlimit, hoffset, hleaves, htext, ?_⟩
  rintro ⟨bare, hlaid, hbare⟩
  obtain rfl := Except.ok.inj (htext.symm.trans hbare)
  have hmem : .literal (.escaped "it's \"x\"") ∈ q.leaves := by
    rw [hleaves]
    exact .head _
  -- If the constant were kept, its text would stand in the result.
  have hkept := hlaid.bare_isInfix hmem
  revert hkept
  decide +kernel

end Query

end QueryReport.Sql
